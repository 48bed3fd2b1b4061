import RouterMetrics.Decimal.Shortest
import RouterMetrics.OrderedMap
import RouterMetrics.Yaml.Moment

/-! Values: what documents hold, and their texts. -/

namespace RouterMetrics.Yaml

/-- A value without parts. -/
inductive Scalar where
  | null
  | bool (value : Bool)
  | int (value : Int)
  /-- A double. What is no number equals only itself, so it is told from others by its origin. -/
  | float (value : Float) (origin : Nat)
  | text (value : String)
  | bytes (value : List UInt8)
  | date (value : Date)
  | moment (value : Moment)

namespace Scalar

/-- What is the same for scalars that are equal as keys. -/
inductive Identity where
  | null
  /-- Truth values and floats without a fraction are numbers like the whole ones. -/
  | whole (value : Int)
  | float (bits : UInt64)
  /-- What is no number. -/
  | undefined (origin : Nat)
  | text (value : String)
  | bytes (value : List UInt8)
  | date (value : Date)
  /-- A time without a zone. -/
  | localTime (ticks : Nat)
  /-- A time with a zone is the same as the time elsewhere at that moment. -/
  | instant (ticks : Int)
deriving DecidableEq

/-- What is the same for scalars that are equal as keys. -/
def identity : Scalar → Identity
  | null => .null
  | bool value => .whole (if value then 1 else 0)
  | int value => .whole value
  | float value origin =>
      match Decimal.wholeValue? value with
      | some whole => .whole whole
      | none => if Decimal.isUndefined value then .undefined origin else .float value.toBits
  | text value => .text value
  | bytes value => .bytes value
  | date value => .date value
  | moment value =>
      match value.offset with
      | none => .localTime value.localTicks
      | some minutes => .instant (value.localTicks - minutes * 60000000)

instance : BEq Scalar := ⟨fun a b => a.identity == b.identity⟩

/-- The text of a number, unless it has too many digits. -/
def numberText? (value : Int) : Option String :=
  if value.natAbs < Nat.pow 10 Decimal.digitLimit then some (Decimal.integerText value) else none

/-- The text of a scalar, unless it is a number with too many digits. -/
def text? : Scalar → Option String
  | null => some "None"
  | bool value => some (if value then "True" else "False")
  | int value => numberText? value
  | float value _ => some (Decimal.floatText value)
  | text value => some value
  | bytes value => some (Text.quotedBytes value)
  | date value => some value.text
  | moment value => some value.text

/-- The description of a scalar within a collection. -/
def description? : Scalar → Option String
  | text value => some (Text.quoted value)
  | date value => some value.description
  | moment value => some value.description
  | other => other.text?

/-- How many places a set has for its members: a power of two, and more than twice as many. -/
def placesFor (count : Nat) : Nat := if count ≤ 4 then 8 else Nat.pow 2 ((2 * count).log2 + 1)

/-- The place of a number in a set with so many places. -/
def placeIn (places : Nat) (member : Scalar) : Option Int :=
  match member.identity with
  | .whole value => some (value % places)
  | _ => none

/-- The members of a set as they are shown: whole numbers alone in the order of their places. -/
def inOrder (members : List Scalar) : List Scalar :=
  match members.mapM (placeIn (placesFor members.length)) with
  | none => members
  | some places => ((places.zip members).mergeSort fun a b => a.1 ≤ b.1).map Prod.snd

/-- Whether a scalar counts as a yes. -/
def isTruthy : Scalar → Bool
  | null => false
  | bool value => value
  | int value => value != 0
  | float value _ => Decimal.wholeValue? value != some 0
  | text value => !value.isEmpty
  | bytes value => !value.isEmpty
  | date _ | moment _ => true

end Scalar

/-- A value on its own, with all its parts. -/
inductive Value where
  | scalar (value : Scalar)
  | list (items : List Value)
  | map (entries : OrderedMap Scalar Value)
  | set (members : List Scalar)
  | pair (first second : Value)
  /-- A list or a map within itself. -/
  | again (isMap : Bool)

/-- Entries by their keys. -/
abbrev Entries := OrderedMap Scalar Value

namespace Value

/-- A text as a value. -/
def text (value : String) : Value := .scalar (.text value)

/-- The value for nothing. -/
def null : Value := .scalar .null

/-- A truth value as a value. -/
def bool (value : Bool) : Value := .scalar (.bool value)

/-- The members of a list that all are there. -/
def joined (start finish : String) (parts : Option (List String)) : Option String :=
  parts.map fun parts => start ++ ", ".intercalate parts ++ finish

mutual

/-- The description of a value within a collection, unless a number in it has too many digits. -/
def description? : Value → Option String
  | scalar value => value.description?
  | list items => joined "[" "]" (itemDescriptions? items)
  | map ⟨entries⟩ => joined "\x7b" "\x7d" (entryDescriptions? entries)
  | set [] => some "set()"
  | set members =>
      joined "\x7b" "\x7d" ((Scalar.inOrder members).mapM Scalar.description?)
  | pair first second => do
      return "(" ++ (← description? first) ++ ", " ++ (← description? second) ++ ")"
  | again true => some "\x7b...\x7d"
  | again false => some "[...]"

/-- The descriptions of the items of a list. -/
def itemDescriptions? : List Value → Option (List String)
  | [] => some []
  | item :: items => do return (← description? item) :: (← itemDescriptions? items)

/-- The descriptions of the entries of a map. -/
def entryDescriptions? : List (Scalar × Value) → Option (List String)
  | [] => some []
  | (key, value) :: entries => do
      let entry := (← key.description?) ++ ": " ++ (← description? value)
      return entry :: (← entryDescriptions? entries)

end

/-- The text of a value, unless a number in it has too many digits. -/
def text? : Value → Option String
  | scalar value => value.text?
  | other => other.description?

/-- Whether a value counts as a yes. -/
def isTruthy : Value → Bool
  | scalar value => value.isTruthy
  | list items => !items.isEmpty
  | map entries => !entries.entries.isEmpty
  | set members => !members.isEmpty
  | pair _ _ | again _ => true

/-- A value, or nothing in place of one that does not count as a yes. -/
def ifTruthy? (value : Value) : Option Value := if value.isTruthy then some value else none

end Value

end RouterMetrics.Yaml
