import RouterMetrics.Yaml.Fault

/-! Cursors: a place in the text of a document, and steps that read on from it. -/

namespace RouterMetrics.Yaml

/-- Whether a character ends a line. -/
def isBreak (c : Char) : Bool :=
  c == '\n' || c == '\r' || c.toNat == 0x85 || c.toNat == 0x2028 || c.toNat == 0x2029

/-- Whether a character is white space within a line. -/
def isInline (c : Char) : Bool := c == ' ' || c == '\t'

/-- The mark that may stand before a text and takes no room in it. -/
def byteOrderMark : Char := Char.ofNat 0xFEFF

/-- A text, and what keeps it from being read further than this, if anything does. -/
structure Source where
  text : List Char
  ending : Option Fault

/-- A place in a text. -/
structure Cursor where
  rest : List Char
  index : Nat
  line : Nat
  column : Nat
  /-- What keeps the text from being read further, if it is not the end of all. -/
  ending : Option Fault

namespace Cursor

/-- The start of a text. -/
def ofSource (source : Source) : Cursor := ⟨source.text, 0, 0, 0, source.ending⟩

/-- The character at the cursor. -/
def head? (cursor : Cursor) : Option Char := cursor.rest.head?

/-- The place after the next character. -/
def next (cursor : Cursor) : Cursor :=
  match cursor.rest with
  | [] => cursor
  | c :: rest =>
      let index := cursor.index + 1
      -- Of a pair of breaks the second one ends the line.
      if isBreak c && !(c == '\r' && rest.head? == some '\n') then
        { cursor with rest, index, line := cursor.line + 1, column := 0 }
      else if c == byteOrderMark then { cursor with rest, index }
      else { cursor with rest, index, column := cursor.column + 1 }

/-- The place some characters further on. -/
def skip (cursor : Cursor) : Nat → Cursor
  | 0 => cursor
  | count + 1 => cursor.next.skip count

/-- Whether white space or the end of the text is found some characters further on. -/
def gapAt (cursor : Cursor) (distance : Nat) : Bool :=
  match cursor.rest[distance]? with
  | none => true
  | some c => isInline c || isBreak c

/-- Whether the line ends here. -/
def atLineEnd (cursor : Cursor) : Bool := cursor.head?.all isBreak

/-- Whether a character is next. -/
def startsWith (cursor : Cursor) (c : Char) : Bool := cursor.head? == some c

/-- Whether three characters and a gap are next. -/
def atMarker (cursor : Cursor) (c : Char) : Bool :=
  [c, c, c].isPrefixOf cursor.rest && cursor.gapAt 3

/-- Whether the start or the end of a document is marked here. -/
def atBoundary (cursor : Cursor) : Bool := cursor.atMarker '-' || cursor.atMarker '.'

/-- What keeps reading from going on here; nothing within a text or at its true end. -/
def obstacle? (cursor : Cursor) : Option Fault :=
  if cursor.rest.isEmpty then cursor.ending else none

end Cursor

/-- A step that reads on from a cursor. -/
abbrev Reading := StateT Cursor (Except Fault)

namespace Reading

/-- Fails because the text breaks a rule, or because it cannot be read further. -/
def malformed {α : Type} : Reading α := do throw ((← get).obstacle?.getD .malformed)

/-- Whether something holds of the place where reading stands. -/
def sees (test : Cursor → Bool) : Reading Bool := return test (← get)

/-- The next character, which is not read. -/
def peek : Reading (Option Char) := return (← get).head?

/-- Reads some characters. -/
def skip (count : Nat) : Reading Unit := modify fun cursor => cursor.skip count

/-- Reads characters as long as a class holds of them. -/
def takeWhile (test : Char → Bool) : Reading (List Char) := do
  let run := (← get).rest.takeWhile test
  skip run.length
  return run

/-- Reads spaces. -/
def skipSpaces : Reading Unit := discard (takeWhile (· == ' '))

/-- Reads a character if it is the next one. -/
def accept (c : Char) : Reading Bool := do
  let found ← sees (·.startsWith c)
  if found then skip 1
  return found

/-- Reads a line break; all but two kinds of them are the same. -/
def lineBreak? : Reading (Option Char) := do
  match (← get).rest with
  | '\r' :: '\n' :: _ =>
      skip 2
      return some '\n'
  | c :: _ =>
      if !isBreak c then return none
      skip 1
      return some (if c.toNat < 0x2028 then '\n' else c)
  | [] => return none

/-- Reads a comment, if one starts here. -/
def skipComment : Reading Unit := do
  if ← sees (·.startsWith '#') then discard (takeWhile fun c => !isBreak c)

/-- Reads the rest of a line, on which nothing but a comment may stand, and its break. -/
def endLine : Reading Unit := do
  skipSpaces
  skipComment
  unless ← sees (·.atLineEnd) do malformed
  discard lineBreak?

end Reading

/-- What stands for line breaks between words: a space for one, all but the first of several. -/
def foldedBreaks (first : Char) (later : List Char) : List Char :=
  if first != '\n' then first :: later else if later.isEmpty then [' '] else later

end RouterMetrics.Yaml
