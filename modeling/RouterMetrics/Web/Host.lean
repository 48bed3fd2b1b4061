import RouterMetrics.Text.Hex
import RouterMetrics.Text.Split

/-! Hosts between brackets: addresses of the long kind, or of kinds to come. -/

namespace RouterMetrics.Web

open RouterMetrics.Text (partsAt)

/-- Whether a text is a number below 256 without needless zeros. -/
def isOctet (text : List Char) : Bool :=
  !text.isEmpty && text.length ≤ 3 && text.all Char.isDigit &&
    (text.head? != some '0' || text.length == 1) &&
    text.foldl (fun value c => value * 10 + (c.toNat - 48)) 0 < 256

/-- Whether a text is an address of the short kind: four numbers with points between them. -/
def isShortAddress (text : List Char) : Bool :=
  let octets := partsAt '.' text
  octets.length == 4 && octets.all isOctet

/-- Whether a text is one to four hexadecimal digits. -/
def isGroup (text : List Char) : Bool :=
  !text.isEmpty && text.length ≤ 4 && text.all fun c => (Text.hexValue? c).isSome

/-- The groups of a text, an address of the short kind at its end counted as two; if that is one. -/
def groupsOf? (text : List Char) : Option (List (List Char)) :=
  let groups := partsAt ':' text
  let last := groups.getLast?.getD []
  if last.contains '.' then
    if isShortAddress last then some (groups.dropLast ++ [['0'], ['0']]) else none
  else some groups

/-- Whether groups make eight, or fewer than eight with one gap between them or at an end. -/
def areEightGroups (groups : List (List Char)) : Bool :=
  let inner := (groups.drop 1).dropLast
  let first := groups.head?.getD []
  let last := groups.getLast?.getD []
  match inner.countP List.isEmpty with
  | 0 => groups.length == 8 && groups.all isGroup
  | 1 =>
      let before := first :: inner.takeWhile fun group => !group.isEmpty
      let after := inner.drop before.length ++ [last]
      -- At an end the gap leaves an empty group.
      let before := if before == [[]] then [] else before
      let after := if after == [[]] then [] else after
      before.all isGroup && after.all isGroup && before.length + after.length < 8
  | _ => false

/-- Whether a text is an address of the long kind, with or without a zone. -/
def isLongAddress (text : List Char) : Bool :=
  let address := text.takeWhile (· != '%')
  let zone := text.drop address.length
  let zoneFits := zone.isEmpty || (1 < zone.length && !(zone.drop 1).contains '%')
  match groupsOf? address with
  | none => false
  | some groups => zoneFits && 3 ≤ (partsAt ':' address).length && areEightGroups groups

/-- Whether a text is an address of a kind to come: a version and a body. -/
def isFutureAddress (text : List Char) : Bool :=
  match text with
  | 'v' :: rest =>
      let version := rest.takeWhile fun c => (Text.hexValue? c).isSome
      let body := rest.drop version.length
      !version.isEmpty && body.head? == some '.' && 1 < body.length && !body.contains '\n'
  | _ => false

/-- Whether a text may stand between brackets as a host. -/
def isBracketedHost (text : List Char) : Bool :=
  if text.head? == some 'v' then isFutureAddress text else isLongAddress text

end RouterMetrics.Web
