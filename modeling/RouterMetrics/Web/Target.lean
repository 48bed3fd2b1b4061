import RouterMetrics.Web.Host

/-! Targets of requests: the path in a target that may be a whole address. -/

namespace RouterMetrics.Web

/-- Whether a character may stand in a scheme. -/
def isSchemeChar (c : Char) : Bool := c.isAlphanum || c == '+' || c == '-' || c == '.'

/-- The schemes whose paths may have parameters; targets without a scheme are among them. -/
def schemesWithParameters : List String :=
  ["", "ftp", "hdl", "prospero", "http", "imap", "https", "shttp", "rtsp", "rtspu", "sip", "sips",
    "mms", "sftp", "tel"]

/-- The scheme of a target in small letters, empty if it has none, and what follows it. -/
def splitScheme (target : List Char) : String × List Char :=
  let scheme := target.takeWhile (· != ':')
  let hasScheme := scheme.length < target.length && scheme.head?.any Char.isAlpha &&
    scheme.all isSchemeChar
  if hasScheme then
    (String.ofList (scheme.map Char.toLower), target.drop (scheme.length + 1))
  else ("", target)

/-- The host of an address after two slashes, and what follows it. -/
def splitHost (text : List Char) : List Char × List Char :=
  match text with
  | '/' :: '/' :: rest =>
      let host := rest.takeWhile fun c => c != '/' && c != '?' && c != '#'
      (host, rest.drop host.length)
  | _ => ([], text)

/-- The text after the last occurrence of a character, or all of it. -/
def afterLast (mark : Char) (text : List Char) : List Char :=
  (text.reverse.takeWhile (· != mark)).reverse

/-- The host in brackets, if they are first and nothing but a port follows them; without brackets,
what stands before the port. -/
def bracketedHost? (host : List Char) : Option (List Char) :=
  match host with
  | '[' :: rest =>
      let inner := rest.takeWhile (· != ']')
      let port := rest.drop (inner.length + 1)
      if port.isEmpty || port.head? == some ':' then some inner else none
  | _ => if host.contains '[' then none else some (host.takeWhile (· != ':'))

/-- Whether the brackets in a host belong together and hold an address. -/
def isHost (host : List Char) : Bool :=
  match host.contains '[', host.contains ']' with
  | false, false => true
  -- The name of a user may stand before the host, and the brackets in it.
  | true, true => (bracketedHost? (afterLast '@' host)).any isBracketedHost
  | _, _ => false

/-- A path without the parameters of its last part. -/
def withoutParameters (path : List Char) : List Char :=
  let last := (path.reverse.takeWhile (· != '/')).reverse
  let before := path.take (path.length - last.length)
  before ++ last.takeWhile (· != ';')

/-- The path that a target names; none if its host is none. -/
def pathOf? (target : List Char) : Option (List Char) :=
  let text := (target.dropWhile fun c => c.toNat ≤ 32).filter fun c =>
    !(c == '\t' || c == '\r' || c == '\n')
  let (scheme, rest) := splitScheme text
  let (host, rest) := splitHost rest
  if !isHost host then none
  else
    let path := rest.takeWhile fun c => c != '#' && c != '?'
    some (if schemesWithParameters.contains scheme then withoutParameters path else path)

end RouterMetrics.Web
