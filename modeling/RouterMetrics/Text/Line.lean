/-! Lines of texts. -/

namespace RouterMetrics.Text

/-- Whether a character ends a line of a text. -/
def endsLine (c : Char) : Bool :=
  let code := c.toNat
  (0x0A ≤ code && code ≤ 0x0D) || (0x1C ≤ code && code ≤ 0x1E) || code == 0x85 ||
    code == 0x2028 || code == 0x2029

/-- The last line of a text, whose own end may be missing; none if the text is empty. -/
def lastLine? (text : String) : Option String :=
  match text.toList.reverse with
  | [] => none
  | '\n' :: '\r' :: rest => some (String.ofList (rest.takeWhile (!endsLine ·)).reverse)
  | c :: rest =>
      let line := if endsLine c then rest else c :: rest
      some (String.ofList (line.takeWhile (!endsLine ·)).reverse)

end RouterMetrics.Text
