import RouterMetrics.Text.Utf8
import RouterMetrics.Yaml.Block
import RouterMetrics.Yaml.Plain
import RouterMetrics.Yaml.Quoted

/-! Tokens: the marks and the scalars of a document, with the structure that indentation gives. -/

namespace RouterMetrics.Yaml

open Reading

/-- What a line before a document says about it. -/
inductive Directive where
  /-- The version of the format. -/
  | version (major : Int)
  /-- What a handle stands for in tags. -/
  | handle (name start : String)
  | other
deriving Repr, DecidableEq

/-- The name of a tag, in full or after a handle. -/
structure TagName where
  handle : Option String
  name : String
deriving Repr, DecidableEq

/-- A mark or a scalar. -/
inductive Token where
  | streamEnd
  | directive (directive : Directive)
  | documentStart
  | documentEnd
  | blockListStart
  | blockMapStart
  | blockEnd
  | flowListStart
  | flowListEnd
  | flowMapStart
  | flowMapEnd
  | blockEntry
  | flowEntry
  | key
  | value
  | alias (name : String)
  | anchor (name : String)
  | tag (name : TagName)
  | scalar (text : String) (isPlain : Bool)
deriving Repr, DecidableEq

/-! Names, tags and directives. -/

/-- A character of the names of anchors, handles and directives. -/
def isWordChar (c : Char) : Bool := c.isAlphanum || c == '-' || c == '_'

/-- A character of a tag after its handle, the percent sign of escapes apart. -/
def isTagChar (c : Char) : Bool := c.isAlphanum || "-;/?:@&=+$,_.!~*'()[]".toList.contains c

/-- Whether a space or the end of the line is next. -/
def endsWord (cursor : Cursor) : Bool := cursor.startsWith ' ' || cursor.atLineEnd

/-- Reads a name that has at least one character. -/
def readWord : Reading (List Char) := do
  let word ← takeWhile isWordChar
  if word.isEmpty then malformed
  return word

/-- Reads the name of an anchor after its mark. -/
def readAnchorName : Reading String := do
  skip 1
  let word ← readWord
  let ending := fun (cursor : Cursor) =>
    cursor.gapAt 0 || cursor.head?.any fun c => "?:,]\x7d%@".toList.contains c || c.toNat == 96
  unless ← sees ending do malformed
  return String.ofList word

/-- Reads the bytes that escapes in a tag stand for. -/
def readTagBytes : (budget : Nat) → Reading (List UInt8)
  | 0 => return []
  | budget + 1 => do
      if ← accept '%' then
        let byte ← readCode 2
        return UInt8.ofNat byte :: (← readTagBytes budget)
      return []

/-- Reads the characters of a tag and the escapes among them. -/
def readTagParts : (budget : Nat) → Reading (List Char)
  | 0 => malformed
  | budget + 1 => do
      let run ← takeWhile isTagChar
      if ← sees (·.startsWith '%') then
        match Text.Utf8.decode (← readTagBytes budget) with
        | .ok text => return run ++ text.toList ++ (← readTagParts budget)
        | .error _ => malformed
      return run

/-- Reads the part of a tag after its handle. -/
def readTagRest : Reading String := do
  let start := (← get).index
  let text ← readTagParts ((← get).rest.length + 1)
  if (← get).index == start then malformed
  return String.ofList text

/-- Reads a handle: an exclamation mark, or a name between two of them. -/
def readHandle : Reading String := do
  unless ← accept '!' do malformed
  if ← sees (·.startsWith ' ') then return "!"
  let word ← takeWhile isWordChar
  unless ← accept '!' do malformed
  return String.ofList ('!' :: word ++ ['!'])

/-- Whether a tag has a second exclamation mark before the next gap. -/
def hasHandle (cursor : Cursor) : Bool :=
  ((cursor.rest.drop 1).takeWhile fun c => c != ' ' && !isBreak c).contains '!'

/-- Reads a tag. -/
def readTag : Reading TagName := do
  let cursor ← get
  let name : TagName ← do
    if cursor.rest[1]? == some '<' then
      skip 2
      let name ← readTagRest
      unless ← accept '>' do malformed
      pure ⟨none, name⟩
    else if cursor.gapAt 1 then
      skip 1
      pure ⟨none, "!"⟩
    else if hasHandle cursor then
      let handle ← readHandle
      pure ⟨some handle, ← readTagRest⟩
    else
      skip 1
      pure ⟨some "!", ← readTagRest⟩
  unless ← sees endsWord do malformed
  return name

/-- Reads a number of the format's version. -/
def readVersionNumber : Reading Int := do
  let digits ← takeWhile fun c => '0' ≤ c && c ≤ '9'
  if digits.isEmpty then malformed
  match Decimal.readInteger (String.ofList digits) with
  | .ok value => return value
  | .error fault => throw (.badInteger fault)

/-- Reads what follows the name of a directive. -/
def readDirectiveValue (name : String) : Reading Directive := do
  match name with
  | "YAML" =>
      skipSpaces
      let major ← readVersionNumber
      unless ← accept '.' do malformed
      discard readVersionNumber
      unless ← sees endsWord do malformed
      return .version major
  | "TAG" =>
      skipSpaces
      let handle ← readHandle
      unless ← sees (·.startsWith ' ') do malformed
      skipSpaces
      let start ← readTagRest
      unless ← sees endsWord do malformed
      return .handle handle start
  | _ =>
      discard (takeWhile fun c => !isBreak c)
      return .other

/-- Reads a directive. -/
def readDirective : Reading Directive := do
  skip 1
  let name ← readWord
  unless ← sees endsWord do malformed
  let directive ← readDirectiveValue (String.ofList name)
  endLine
  return directive

/-! The lexer. -/

/-- A token that will turn out to start a key if a colon follows it. -/
structure Candidate where
  /-- How many tokens stand before it. -/
  place : Nat
  /-- Where no key would make sense, there has to be one. -/
  required : Bool
  index : Nat
  line : Nat
  column : Nat

/-- Where the lexer stands. -/
structure Lexer where
  cursor : Cursor
  tokens : Array Token
  /-- Tokens that belong before others, by the place of those. -/
  insertions : List (Nat × List Token)
  /-- The columns of the open block collections, the innermost first. -/
  columns : List Int
  /-- Whether a key may start here. -/
  keyAllowed : Bool
  /-- The candidate for a key on this level of brackets. -/
  candidate : Option Candidate
  /-- The candidates on the levels around this one, the innermost first. -/
  outer : List (Option Candidate)

namespace Lexer

/-- The lexer at the start of a text. -/
def ofSource (source : Source) : Lexer := ⟨.ofSource source, #[], [], [], true, none, []⟩

/-- Whether the lexer stands between brackets. -/
def inFlow (lexer : Lexer) : Bool := !lexer.outer.isEmpty

/-- The column of the innermost block collection, or one before the first. -/
def indent (lexer : Lexer) : Int := lexer.columns.headD (-1)

/-- The first tokens, each in its place. -/
def output (lexer : Lexer) (count : Nat) : List Token :=
  let withInsertion := fun (token : Token) (place : Nat) =>
    (lexer.insertions.lookup place).getD [] ++ [token]
  let tokens := lexer.tokens.toList.take count
  (tokens.zipIdx.map fun (token, place) => withInsertion token place).flatten

end Lexer

/-- A step of the lexer. -/
abbrev Lexing := StateT Lexer (Except Fault)

/-- Reads on in the text. -/
def reading {α : Type} (step : Reading α) : Lexing α := fun lexer =>
  (step.run lexer.cursor).map fun (result, cursor) => (result, { lexer with cursor })

/-- Adds a token. -/
def emit (token : Token) : Lexing Unit :=
  modify fun lexer => { lexer with tokens := lexer.tokens.push token }

/-- Says whether a key may start next. -/
def allowKey (allowed : Bool) : Lexing Unit :=
  modify fun lexer => { lexer with keyAllowed := allowed }

/-- Whether a candidate is too far behind to be followed by its colon. -/
def Candidate.isStale (cursor : Cursor) (candidate : Candidate) : Bool :=
  candidate.line != cursor.line || 1024 < cursor.index - candidate.index

/-- A candidate that is given up if a test holds of it; a required one cannot be. -/
def giveUp (test : Candidate → Bool) : Option Candidate → Lexing (Option Candidate)
  | none => return none
  | some candidate => do
      if !test candidate then return some candidate
      if candidate.required then throw .malformed
      return none

/-- Gives up all candidates that are stale. -/
def dropStale : Lexing Unit := do
  let lexer ← get
  let test := Candidate.isStale lexer.cursor
  let candidate ← giveUp test lexer.candidate
  let outer ← lexer.outer.mapM (giveUp test)
  set { lexer with candidate, outer }

/-- Gives up the candidate on this level. -/
def dropCandidate : Lexing Unit := do
  let candidate ← giveUp (fun _ => true) (← get).candidate
  modify fun lexer => { lexer with candidate }

/-- Makes the next token the candidate on this level, if a key may start with it. -/
def nominate : Lexing Unit := do
  if (← get).keyAllowed then
    dropCandidate
    modify fun lexer =>
      let cursor := lexer.cursor
      let required := !lexer.inFlow && lexer.indent == cursor.column
      let candidate :=
        Candidate.mk lexer.tokens.size required cursor.index cursor.line cursor.column
      { lexer with candidate := some candidate }

/-- Ends the block collections whose columns are beyond a column. -/
def unwind (column : Int) : Lexing Unit := do
  let lexer ← get
  unless lexer.inFlow do
    let ended := lexer.columns.takeWhile (column < ·)
    set { lexer with
      columns := lexer.columns.drop ended.length
      tokens := lexer.tokens ++ ended.toArray.map fun _ => Token.blockEnd }

/-- Opens a block collection at a column, unless one is open there. -/
def openAt (column : Nat) : Lexing Bool := do
  let lexer ← get
  let opens := decide (lexer.indent < column)
  if opens then set { lexer with columns := column :: lexer.columns }
  return opens

/-- Reads spaces, comments and line breaks, and tells whether there was a break. -/
def skipGap : (budget : Nat) → Reading Bool
  | 0 => return false
  | budget + 1 => do
      skipSpaces
      skipComment
      match ← lineBreak? with
      | none => return false
      | some _ =>
          discard (skipGap budget)
          return true

/-- Reads up to the next token. -/
def skipToToken : Lexing Unit := do
  let lexer ← get
  if lexer.cursor.index == 0 then discard (reading (accept byteOrderMark))
  let crossed ← reading (skipGap (lexer.cursor.rest.length + 1))
  if crossed && !lexer.inFlow then allowKey true

/-- The end of the text. -/
def lexEnd : Lexing Unit := do
  unwind (-1)
  dropCandidate
  emit .streamEnd

/-- A directive. -/
def lexDirective : Lexing Unit := do
  unwind (-1)
  dropCandidate
  allowKey false
  emit (.directive (← reading readDirective))

/-- The mark at the start or the end of a document. -/
def lexBoundary (token : Token) : Lexing Unit := do
  unwind (-1)
  dropCandidate
  allowKey false
  reading (skip 3)
  emit token

/-- An opening bracket. -/
def lexOpening (token : Token) : Lexing Unit := do
  nominate
  modify fun lexer => { lexer with outer := lexer.candidate :: lexer.outer, candidate := none }
  allowKey true
  reading (skip 1)
  emit token

/-- A closing bracket. -/
def lexClosing (token : Token) : Lexing Unit := do
  dropCandidate
  match (← get).outer with
  | [] => throw .malformed
  | candidate :: outer => modify fun lexer => { lexer with outer, candidate }
  allowKey false
  reading (skip 1)
  emit token

/-- A comma between brackets. -/
def lexComma : Lexing Unit := do
  allowKey true
  dropCandidate
  reading (skip 1)
  emit .flowEntry

/-- The mark of an item, or of a key that stands on its own. -/
def lexIndicator (opening token : Token) (allowsKey : Bool) : Lexing Unit := do
  unless (← get).inFlow do
    unless (← get).keyAllowed do throw .malformed
    if ← openAt (← get).cursor.column then emit opening
  allowKey allowsKey
  dropCandidate
  reading (skip 1)
  emit token

/-- The colon between a key and its value. -/
def lexColon : Lexing Unit := do
  let lexer ← get
  match lexer.candidate with
  | some candidate =>
      -- The candidate was a key, and if it stands out it opens a mapping.
      set { lexer with candidate := none }
      let opens ← if lexer.inFlow then pure false else openAt candidate.column
      let tokens := if opens then [Token.blockMapStart, .key] else [.key]
      modify fun lexer =>
        { lexer with insertions := (candidate.place, tokens) :: lexer.insertions }
      allowKey false
      reading (skip 1)
      emit .value
  | none => lexIndicator .blockMapStart .value (!lexer.inFlow)

/-- A token that may start a key. -/
def lexKeyed (step : Reading Token) : Lexing Unit := do
  nominate
  allowKey false
  emit (← reading step)

/-- A plain scalar. -/
def lexPlain : Lexing Unit := do
  nominate
  let lexer ← get
  let plain ← reading (readPlain lexer.inFlow (lexer.indent + 1))
  allowKey plain.endsLine
  emit (.scalar (String.ofList plain.text) true)

/-- A block scalar. -/
def lexBlock (folded : Bool) : Lexing Unit := do
  allowKey true
  dropCandidate
  let text ← reading (readBlock folded (← get).indent)
  emit (.scalar (String.ofList text) false)

/-- Whether a plain scalar starts at a cursor. -/
def startsPlain (inFlow : Bool) (cursor : Cursor) : Bool :=
  match cursor.rest with
  | [] => false
  | c :: _ =>
      let isMark := "-?:,[]\x7b\x7d#&*!|>'\"%@".toList.contains c || c.toNat == 96
      !(isInline c || isBreak c || isMark) ||
        (!cursor.gapAt 1 && (c == '-' || (!inFlow && (c == '?' || c == ':'))))

/-- The next token that starts with a character. -/
def lexFrom (c : Char) (cursor : Cursor) (inFlow : Bool) : Lexing Unit := do
  let quoted := fun style => do return .scalar (String.ofList (← readQuoted style)) false
  if cursor.column == 0 && c == '%' then lexDirective
  else if cursor.column == 0 && cursor.atMarker '-' then lexBoundary .documentStart
  else if cursor.column == 0 && cursor.atMarker '.' then lexBoundary .documentEnd
  else if c == '[' then lexOpening .flowListStart
  else if c == '\x7b' then lexOpening .flowMapStart
  else if c == ']' then lexClosing .flowListEnd
  else if c == '\x7d' then lexClosing .flowMapEnd
  else if c == ',' then lexComma
  else if c == '-' && cursor.gapAt 1 then lexIndicator .blockListStart .blockEntry true
  else if c == '?' && (inFlow || cursor.gapAt 1) then lexIndicator .blockMapStart .key (!inFlow)
  else if c == ':' && (inFlow || cursor.gapAt 1) then lexColon
  else if c == '*' then lexKeyed do return .alias (← readAnchorName)
  else if c == '&' then lexKeyed do return .anchor (← readAnchorName)
  else if c == '!' then lexKeyed do return .tag (← readTag)
  else if c == '|' && !inFlow then lexBlock false
  else if c == '>' && !inFlow then lexBlock true
  else if c == Text.singleMark then lexKeyed (quoted .single)
  else if c == Text.doubleMark then lexKeyed (quoted .double)
  else if startsPlain inFlow cursor then lexPlain
  else throw .malformed

/-- Adds the next tokens, and tells whether there may be more. -/
def lexNext : Lexing Bool := do
  skipToToken
  dropStale
  let cursor := (← get).cursor
  unwind cursor.column
  match cursor.head? with
  | none =>
      if let some fault := cursor.obstacle? then throw fault
      lexEnd
      return false
  | some c =>
      lexFrom c cursor (← get).inFlow
      if let some fault := (← get).cursor.obstacle? then throw fault
      return true

/-- The lexer behind all tokens, or before the ones that it could not add, and why it could not. -/
def lexAll (lexer : Lexer) : (budget : Nat) → Lexer × Option Fault
  | 0 => (lexer, some .malformed)
  | budget + 1 =>
      match lexNext.run lexer with
      | .ok (true, lexer) => lexAll lexer budget
      | .ok (false, lexer) => (lexer, none)
      | .error fault => (lexer, some fault)

/-- How many tokens have their place for sure: no key can be found to start before them. -/
def Lexer.settled (lexer : Lexer) : Nat :=
  let candidates := (lexer.candidate :: lexer.outer).filterMap id
  let fresh := candidates.filter fun candidate => !candidate.isStale lexer.cursor
  (fresh.map Candidate.place).foldl min lexer.tokens.size

/-- The tokens of a text, and the fault that ended them early, if there was one. -/
def tokensOf (source : Source) : List Token × Option Fault :=
  let (lexer, fault) := lexAll (.ofSource source) (source.text.length + 1)
  match fault with
  | none => (lexer.output lexer.tokens.size, none)
  -- Tokens whose place is open are never seen: their key is sought first, and that fails.
  | some fault => (lexer.output lexer.settled, some fault)

end RouterMetrics.Yaml
