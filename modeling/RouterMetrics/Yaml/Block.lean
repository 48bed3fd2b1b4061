import RouterMetrics.Yaml.Cursor

/-! Block scalars: indented texts of several lines after a bar or an angle bracket. -/

namespace RouterMetrics.Yaml

open Reading

/-- What becomes of the breaks at the end of a block scalar. -/
inductive Chomping where
  | strip
  | clip
  | keep
deriving Repr, DecidableEq

/-- What stands after the mark of a block scalar. -/
structure BlockHeader where
  chomping : Chomping
  /-- How far the text is indented, if this is said. -/
  indentation : Option Nat

/-- Reads the mark for the breaks at the end. -/
def readChomping? : Reading (Option Chomping) := do
  if ← accept '+' then return some .keep
  if ← accept '-' then return some .strip
  return none

/-- Reads the digit for the indentation, which is not zero. -/
def readIndentation? : Reading (Option Nat) := do
  let some c ← peek | return none
  if !c.isDigit then return none
  if c == '0' then malformed
  skip 1
  return some (c.toNat - 48)

/-- Reads what stands after the mark of a block scalar, in either order, up to the next line. -/
def readBlockHeader : Reading BlockHeader := do
  let early ← readChomping?
  let indentation ← readIndentation?
  let late ← if early.isNone && indentation.isSome then readChomping? else pure none
  unless ← sees (fun cursor => cursor.startsWith ' ' || cursor.atLineEnd) do malformed
  endLine
  return ⟨(early <|> late).getD .clip, indentation⟩

/-- Reads empty lines before the text and finds how far the deepest of them is indented. -/
def readLeadingLines (deepest : Nat) : (budget : Nat) → Reading (List Char × Nat)
  | 0 => malformed
  | budget + 1 => do
      skipSpaces
      let deepest := max deepest (← get).column
      match ← lineBreak? with
      | some c =>
          let (later, deepest) ← readLeadingLines deepest budget
          return (c :: later, deepest)
      | none => return ([], deepest)

/-- Reads spaces up to an indentation. -/
def skipIndentation (indentation : Nat) : Reading Unit := do
  let cursor ← get
  let spaces := (cursor.rest.takeWhile (· == ' ')).length
  skip (min spaces (indentation - cursor.column))

/-- Reads empty lines and the indentation of the line after them. -/
def readEmptyLines (indentation : Nat) : (budget : Nat) → Reading (List Char)
  | 0 => malformed
  | budget + 1 => do
      skipIndentation indentation
      match ← lineBreak? with
      | some c => return c :: (← readEmptyLines indentation budget)
      | none => return []

/-- Whether a line of the text starts at the cursor. -/
def atBlockLine (indentation : Nat) (cursor : Cursor) : Bool :=
  cursor.column == indentation && cursor.head?.isSome

/-- Whether the next line is indented further than the text, or stands apart from it. -/
def startsInline (cursor : Cursor) : Bool := cursor.head?.any isInline

/-- What stands for the break between two lines and the empty lines after it. -/
def blockBreaks (folded : Bool) (spaced : Bool) (break? : Option Char) (empty : List Char) :
    List Char :=
  -- Only breaks between two lines at the margin are folded.
  if folded && break? == some '\n' && !spaced then (if empty.isEmpty then [' '] else empty)
  else break?.toList ++ empty

/-- Reads the lines of a block scalar. -/
def readBlockLines (folded : Bool) (chomping : Chomping) (indentation : Nat) :
    (budget : Nat) → Reading (List Char)
  | 0 => malformed
  | budget + 1 => do
      let spaced ← sees startsInline
      let line ← takeWhile fun c => !isBreak c
      let break? ← lineBreak?
      let empty ← readEmptyLines indentation (budget + 1)
      if ← sees (atBlockLine indentation) then
        let breaks := blockBreaks folded (spaced || (← sees startsInline)) break? empty
        return line ++ breaks ++ (← readBlockLines folded chomping indentation budget)
      match chomping with
      | .strip => return line
      | .clip => return line ++ break?.toList
      | .keep => return line ++ break?.toList ++ empty

/-- Reads a block scalar within a collection at an indentation. -/
def readBlock (folded : Bool) (indent : Int) : Reading (List Char) := do
  skip 1
  let header ← readBlockHeader
  let least := max 1 (indent + 1).toNat
  let budget := (← get).rest.length + 1
  let (leading, indentation) ← do
    match header.indentation with
    | some depth =>
        let indentation := least + depth - 1
        pure (← readEmptyLines indentation budget, indentation)
    | none =>
        let (leading, deepest) ← readLeadingLines 0 budget
        pure (leading, max least deepest)
  if ← sees (atBlockLine indentation) then
    return leading ++ (← readBlockLines folded header.chomping indentation budget)
  return if header.chomping == .keep then leading else []

end RouterMetrics.Yaml
