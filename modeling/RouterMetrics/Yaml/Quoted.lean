import RouterMetrics.Text.Hex
import RouterMetrics.Yaml.Cursor

/-! Quoted scalars: texts between single or double quotation marks. -/

namespace RouterMetrics.Yaml

open Reading

/-- The two kinds of quotation marks. -/
inductive QuoteStyle where
  | single
  | double
deriving Repr, DecidableEq

/-- The mark at both ends of a quoted text. -/
def QuoteStyle.mark : QuoteStyle → Char
  | single => Text.singleMark
  | double => Text.doubleMark

/-- What a letter after a backslash stands for. -/
def escapes : List (Char × Nat) :=
  [('0', 0x0), ('a', 0x7), ('b', 0x8), ('t', 0x9), ('\t', 0x9), ('n', 0xA), ('v', 0xB), ('f', 0xC),
    ('r', 0xD), ('e', 0x1B), (' ', 0x20), ('\"', 0x22), ('\\', 0x5C), ('/', 0x2F), ('N', 0x85),
    ('_', 0xA0), ('L', 0x2028), ('P', 0x2029)]

/-- How many hexadecimal digits follow a letter after a backslash. -/
def codeWidth? : Char → Option Nat
  | 'x' => some 2
  | 'u' => some 4
  | 'U' => some 8
  | _ => none

/-- Reads a number of hexadecimal digits. -/
def readCode (width : Nat) : Reading Nat := do
  let digits := ((← get).rest.take width).map Text.hexValue?
  skip width
  if digits.length < width then malformed
  digits.foldlM (fun code digit? => do
    let some digit := digit? | malformed
    return code * 16 + digit) 0

/-- The character with a code. -/
def charOfCode (code : Nat) : Except Fault Char :=
  if 0x10FFFF < code then .error (.badCode code)
  -- Half of a pair of codes is no character.
  else if 0xD800 ≤ code && code < 0xE000 then .ok (Char.ofNat 0xFFFD)
  else .ok (Char.ofNat code)

/-- Reads the breaks of empty lines within a quoted text; documents may not start or end there. -/
def readQuotedBreaks : (budget : Nat) → Reading (List Char)
  | 0 => malformed
  | budget + 1 => do
      if ← sees Cursor.atBoundary then malformed
      discard (takeWhile isInline)
      match ← lineBreak? with
      | some c => return c :: (← readQuotedBreaks budget)
      | none => return []

/-- Reads what follows a backslash. -/
def readEscape (budget : Nat) : Reading (List Char) := do
  let some c ← peek | malformed
  if let some code := escapes.lookup c then
    skip 1
    return [Char.ofNat code]
  if let some width := codeWidth? c then
    skip 1
    return [← charOfCode (← readCode width)]
  match ← lineBreak? with
  | some _ => readQuotedBreaks budget
  | none => malformed

/-- Whether a character stands for itself in every quoted text. -/
def isPlainInQuotes (c : Char) : Bool :=
  !(c == Text.singleMark || c == Text.doubleMark || c == '\\' || isInline c || isBreak c)

/-- Reads a quoted text up to white space or the mark at its end. -/
def readQuotedRun (style : QuoteStyle) : (budget : Nat) → Reading (List Char)
  | 0 => malformed
  | budget + 1 => do
      let run ← takeWhile isPlainInQuotes
      match style, (← get).rest with
      | .double, '\\' :: _ =>
          skip 1
          let escape ← readEscape budget
          return run ++ escape ++ (← readQuotedRun style budget)
      | .single, c :: next :: _ =>
          if c == style.mark then
            if next != style.mark then return run
            -- A mark that is written twice is part of the text.
            skip 2
            return run ++ c :: (← readQuotedRun style budget)
          if isInline c || isBreak c then return run
          skip 1
          return run ++ c :: (← readQuotedRun style budget)
      | _, c :: _ =>
          if c == style.mark || isInline c || isBreak c then return run
          skip 1
          return run ++ c :: (← readQuotedRun style budget)
      | _, [] => return run

/-- Reads white space within a quoted text. -/
def readQuotedSpaces (budget : Nat) : Reading (List Char) := do
  let spaces ← takeWhile isInline
  match ← lineBreak? with
  | some first => return foldedBreaks first (← readQuotedBreaks budget)
  | none => return spaces

/-- Reads a quoted text and the mark at its end. -/
def readQuotedRest (style : QuoteStyle) : (budget : Nat) → Reading (List Char)
  | 0 => malformed
  | budget + 1 => do
      let run ← readQuotedRun style (budget + 1)
      if ← accept style.mark then return run
      if (← get).rest.isEmpty then malformed
      let spaces ← readQuotedSpaces budget
      return run ++ spaces ++ (← readQuotedRest style budget)

/-- Reads a quoted text with its two marks. -/
def readQuoted (style : QuoteStyle) : Reading (List Char) := do
  skip 1
  readQuotedRest style ((← get).rest.length + 1)

end RouterMetrics.Yaml
