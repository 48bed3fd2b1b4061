import RouterMetrics.Text.Hex
import RouterMetrics.Text.Printable

/-! Quoted texts: a text between quotation marks, with escapes for what cannot be shown. -/

namespace RouterMetrics.Text

/-- The single and the double quotation mark. -/
def singleMark : Char := Char.ofNat 39
def doubleMark : Char := Char.ofNat 34

/-- An escape that names the code point, as short as its size allows. -/
def codeEscape (code : Nat) : List Char :=
  if code < 0x100 then '\\' :: 'x' :: hexDigits 2 code
  else if code < 0x10000 then '\\' :: 'u' :: hexDigits 4 code
  else '\\' :: 'U' :: hexDigits 8 code

/-- The double mark is used only where it saves an escape. -/
def quotationMark (text : List Char) : Char :=
  if text.contains singleMark && !text.contains doubleMark then doubleMark else singleMark

/-- One character between quotation marks, given which characters are shown as they are. -/
def quotedChar (shown : Char → Bool) (mark c : Char) : List Char :=
  if c == mark || c == '\\' then ['\\', c]
  else if c == '\n' then ['\\', 'n']
  else if c == '\r' then ['\\', 'r']
  else if c == '\t' then ['\\', 't']
  else if shown c then [c]
  else codeEscape c.toNat

/-- A text between quotation marks. -/
def quotedWith (shown : Char → Bool) (text : List Char) : List Char :=
  let mark := quotationMark text
  mark :: text.flatMap (quotedChar shown mark) ++ [mark]

/-- A text between quotation marks, every printable character shown as it is. -/
def quoted (text : String) : String :=
  String.ofList (quotedWith isPrintable text.toList)

/-- Bytes between quotation marks after a `b`; only the printable ones below 127 are shown. -/
def quotedBytes (bytes : List UInt8) : String :=
  let text := bytes.map fun byte => Char.ofNat byte.toNat
  String.ofList ('b' :: quotedWith (fun c => 32 ≤ c.toNat && c.toNat < 127) text)

/-- The text with an escape for every character above the first 128. -/
def escapedToPlain (text : List Char) : List Char :=
  text.flatMap fun c => if c.toNat < 128 then [c] else codeEscape c.toNat

end RouterMetrics.Text
