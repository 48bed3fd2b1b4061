import RouterMetrics.Config.Shape
import RouterMetrics.Text.Case

/-! Features: which collectors are enabled. -/

namespace RouterMetrics.Config

open RouterMetrics.Yaml (Entries Scalar)

/-- The names of collectors, and whether they are enabled. -/
abbrev Features := Entries

/-- The collector that every device has. -/
def alwaysEnabled : String := "resource"

namespace Features

/-- The features with one of them enabled. -/
def enable (features : Features) (name : String) : Features :=
  features.put (.text name) (.bool true)

/-- The small letter of a capital one, both as bytes. -/
def lowerByte (byte : UInt8) : UInt8 := if 65 ≤ byte && byte ≤ 90 then byte + 32 else byte

/-- The text of a key and its form in small letters, by which collectors are known. -/
def keyTexts : Scalar → Shaped (String × String)
  | .text text => .ok (text, Text.lowercase text)
  -- Bytes have small letters too, but name no collector.
  | .bytes bytes => .ok (Text.quotedBytes bytes, "")
  | _ => .error .notTextKey

/-- The keys that are not among the names of collectors; without names all are accepted. -/
def unknownKeys (known : List String) (features : Features) : Shaped (List String) := do
  if known.isEmpty then return []
  let texts ← features.keys.mapM keyTexts
  return (texts.filter fun text => !known.contains text.2).map Prod.fst

/-- The names of the enabled collectors, in order; bytes are shown, as they name no collector. -/
def names (features : Features) : Shaped (List String) :=
  (features.entries.filter fun entry => entry.2.isTruthy).mapM fun entry =>
    match entry.1 with
    | .text name => .ok (Text.lowercase name)
    | .bytes name => .ok (Text.quotedBytes (name.map lowerByte))
    | _ => .error .notTextKey

end Features

end RouterMetrics.Config
