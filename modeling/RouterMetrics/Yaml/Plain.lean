import RouterMetrics.Yaml.Cursor

/-! Plain scalars: texts that stand without marks. -/

namespace RouterMetrics.Yaml

open Reading

/-- The characters that structure collections between brackets. -/
def flowMarks : List Char := [',', '[', ']', '\x7b', '\x7d']

/-- Whether a colon before some text ends a plain scalar. -/
def endsAtColon (inFlow : Bool) : List Char → Bool
  | [] => true
  | c :: _ => isInline c || isBreak c || (inFlow && flowMarks.contains c)

/-- How many characters of a plain scalar stand before the next gap. -/
def plainLength (inFlow : Bool) : List Char → Nat
  | [] => 0
  | c :: rest =>
      if isInline c || isBreak c || (c == ':' && endsAtColon inFlow rest) ||
          (inFlow && (c == '?' || flowMarks.contains c)) then 0
      else plainLength inFlow rest + 1

/-- White space after a part of a plain scalar. -/
structure PlainGap where
  /-- What it stands for if the scalar goes on. -/
  text : List Char
  /-- Whether a line ended in it. -/
  crossesLine : Bool

/-- Reads spaces and breaks up to the next part; nothing if a document starts or ends there. -/
def readPlainBreaks : (budget : Nat) → Reading (Option (List Char))
  | 0 => malformed
  | budget + 1 => do
      if ← sees Cursor.atBoundary then return none
      skipSpaces
      match ← lineBreak? with
      | some c => return (← readPlainBreaks budget).map (c :: ·)
      | none => return some []

/-- Reads the white space after a part of a plain scalar. -/
def readPlainGap : Reading PlainGap := do
  let spaces ← takeWhile (· == ' ')
  match ← lineBreak? with
  | some first =>
      match ← readPlainBreaks ((← get).rest.length + 1) with
      | some later => return ⟨foldedBreaks first later, true⟩
      | none => return ⟨[], true⟩
  | none => return ⟨spaces, false⟩

/-- What is read of a plain scalar. -/
structure Plain where
  text : List Char
  /-- Whether the scalar is followed by the end of a line. -/
  endsLine : Bool

/-- Reads the parts of a plain scalar, all of them indented by a margin, after a gap. -/
def readPlainParts (inFlow : Bool) (margin : Int) (gap : PlainGap) : (budget : Nat) → Reading Plain
  | 0 => malformed
  | budget + 1 => do
      let cursor ← get
      let length := plainLength inFlow cursor.rest
      if cursor.startsWith '#' || length == 0 then return ⟨[], gap.crossesLine⟩
      let part := cursor.rest.take length
      skip length
      let next ← readPlainGap
      let text := gap.text ++ part
      let dedented := !inFlow && decide (((← get).column : Int) < margin)
      if next.text.isEmpty || dedented then return ⟨text, next.crossesLine⟩
      let later ← readPlainParts inFlow margin next budget
      return { later with text := text ++ later.text }

/-- Reads a plain scalar. -/
def readPlain (inFlow : Bool) (margin : Int) : Reading Plain := do
  readPlainParts inFlow margin ⟨[], false⟩ ((← get).rest.length + 1)

end RouterMetrics.Yaml
