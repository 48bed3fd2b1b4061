import RouterMetrics.Decimal.Numeral
import RouterMetrics.Journal
import RouterMetrics.Web.Target

/-! The server: what is answered to a request. -/

namespace RouterMetrics.Web

/-- A request as it is sent. -/
structure Request where
  method : String
  target : String
deriving Repr, DecidableEq

/-- The answer to a request. -/
inductive Response where
  | page (contentType body : String)
  | failure (status : Nat) (reason : String)
deriving Repr, DecidableEq

/-- Why a request is not answered at all. -/
inductive Fault where
  /-- The host in the target is none. -/
  | badHost
  /-- The reason of a failure has characters beyond the first 256. -/
  | unencodableReason
deriving Repr, DecidableEq

/-- What a request asks for. -/
inductive Route where
  | metrics
  | health
  | index
  | failure (status : Nat) (reason : String)
deriving Repr, DecidableEq

/-- The version of the protocol at the end of a request. -/
def protocolVersion : String := "HTTP/1.1"

/-- The most bytes that the first line of a request may have. -/
def lineLimit : Nat := 65536

/-- The most lines that the head of a request may have, the empty one at its end included. -/
def headLimit : Nat := 100

/-- A request as it is sent, every byte of it as one character. -/
def sentText (request : Request) : List Char :=
  let line := request.method ++ " " ++ request.target ++ " " ++ protocolVersion ++ "\r\n\r\n"
  line.toUTF8.toList.map fun byte => Char.ofNat byte.toNat

/-- What is wrong with the head of a request, which goes on behind the first line. -/
def headFailure? (text : List Char) : Option Route :=
  let lines := Text.partsAt '\n' text
  let head := lines.takeWhile fun line => !(line.isEmpty || line == ['\r'])
  -- A line is measured before it is counted.
  match (head.take (headLimit + 1)).any fun line => lineLimit < line.length + 1, head.length with
  | true, _ => some (.failure 431 "Line too long")
  | false, count => if count < headLimit then none else some (.failure 431 "Too many headers")

/-- A target with a single slash where it starts with several. -/
def withSingleSlash (target : List Char) : List Char :=
  match target with
  | '/' :: '/' :: rest => '/' :: rest.dropWhile (· == '/')
  | _ => target

/-- What is asked for by a method and a target on a server with this path for the metrics. -/
def routeOf (metricsPath : String) (method target : List Char) : Except Fault Route :=
  if method != "GET".toList then
    .ok (.failure 501 ("Unsupported method (" ++ Text.quoted (String.ofList method) ++ ")"))
  else
    match pathOf? (withSingleSlash target) with
    | none => .error .badHost
    | some path =>
        let path := String.ofList path
        if path == metricsPath then .ok .metrics
        else if path == "/healthz" then .ok .health
        else if path == "/" then .ok .index
        else .ok (.failure 404 "Not Found")

/-- The failure about a part of a request that is shown between quotation marks. -/
def badRequest (problem : String) (part : List Char) : Route :=
  .failure 400 (problem ++ " (" ++ Text.quoted (String.ofList part) ++ ")")

/-- The number of a version of the protocol, if it has two parts with a point between them. -/
def versionNumber? (version : List Char) : Option (List Char) :=
  let number := version.drop 5
  if version.take 5 == "HTTP/".toList && (Text.partsAt '.' number).length == 2 then some number
  else none

/-- What is wrong with the version at the end of a request. -/
def versionFailure? (version : List Char) : Option Route :=
  let bad := some (badRequest "Bad request version" version)
  match versionNumber? version with
  | none => bad
  | some number =>
      let parts := (Text.partsAt '.' number).mapM fun part =>
        Decimal.readInteger (String.ofList part)
      match parts with
      | .ok (major :: _) =>
          if 2 ≤ major then
            some (.failure 505 ("Invalid HTTP version (" ++ String.ofList number ++ ")"))
          else none
      | _ => bad

/-- What the words of a request ask for, given what is wrong with its head. -/
def routeWords (metricsPath : String) (line : List Char) (headFailure : Option Route)
    (words : List (List Char)) : Except Fault Route :=
  let failure := if words.length < 3 then none else versionFailure? (words.getLast?.getD [])
  let routeOf := fun method target =>
    match headFailure with
    | some failure => .ok failure
    | none => routeOf metricsPath method target
  match failure, words with
  | some failure, _ => .ok failure
  | none, [method, target, _] => routeOf method target
  | none, [method, target] =>
      -- Without a version nothing but reading is known.
      if method == "GET".toList then routeOf method target
      else .ok (badRequest "Bad HTTP/0.9 request type" method)
  | none, _ => .ok (badRequest "Bad request syntax" line)

/-- What a request asks for. -/
def route (metricsPath : String) (request : Request) : Except Fault Route :=
  let text := sentText request
  let line := text.takeWhile (· != '\n')
  -- The line break is one more byte of the line.
  if lineLimit < line.length + 1 then .ok (.failure 414 "Request-URI Too Long")
  else
    let head := text.drop (line.length + 1)
    let line := (line.reverse.dropWhile (· == '\r')).reverse
    routeWords metricsPath line (headFailure? head) (Text.wordsAt Text.isBlank line)

/-- The kinds of content. -/
def metricsContent : String := "text/plain; version=1.0.0; charset=utf-8"
def plainContent : String := "text/plain; charset=utf-8"
def htmlContent : String := "text/html; charset=utf-8"

/-- The page that leads to the metrics. -/
def indexPage (metricsPath : String) : String :=
  "\n".intercalate
    ["<html>", "<head><title>Mikrotik Exporter</title></head>", "<body>",
      "<h1>Mikrotik Exporter</h1>", "<p><a href=\"" ++ metricsPath ++ "\">Metrics</a></p>",
      "</body>", "</html>"]

/-- What the entries about requests come from. -/
def journalSource : String := "HTTP"

/-- The entry about metrics that could not be made. -/
def metricsEntry (reason : String) : Entry :=
  ⟨.error, journalSource, "Error generating metrics: " ++ reason, none⟩

/-- The failure for a reason, which is sent in one byte per character. -/
def failureFor (reason : String) : Except Fault Response :=
  if reason.toList.all fun c => c.toNat < 256 then .ok (.failure 500 reason)
  else .error .unencodableReason

/-- The answer to a request, given how metrics are made and how an entry is reported. -/
def answer {m : Type → Type} [Monad m] (metricsPath : String) (metrics : m (Except String String))
    (report : Entry → m Unit) (request : Request) : m (Except Fault Response) := do
  match route metricsPath request with
  | .error fault => return .error fault
  | .ok (.failure status reason) => return .ok (.failure status reason)
  | .ok .health => return .ok (.page plainContent "ok")
  | .ok .index => return .ok (.page htmlContent (indexPage metricsPath))
  | .ok .metrics =>
      -- Metrics are made only where they are asked for.
      match ← metrics with
      | .ok page => return .ok (.page metricsContent page)
      | .error reason =>
          report (metricsEntry reason)
          return failureFor reason

end RouterMetrics.Web
