import RouterMetrics.CommandLine.Arguments

/-! Reading the words of a command line. -/

namespace RouterMetrics.CommandLine

/-- Why a command line is refused. -/
inductive Refusal where
  /-- The beginning of a name may stand for several options. -/
  | ambiguous (word : String) (names : List String)
  | missingValue (label : String)
  /-- A value is given to an option that needs none. -/
  | needlessValue (label value : String)
  | badNumber (label value : String)
  | unrecognized (words : List String)
deriving Repr, DecidableEq

/-- The wording of a refusal. -/
def Refusal.message : Refusal → String
  | ambiguous word names =>
      "ambiguous option: " ++ word ++ " could match " ++ ", ".intercalate names
  | missingValue label => "argument " ++ label ++ ": expected one argument"
  | needlessValue label value =>
      "argument " ++ label ++ ": ignored explicit argument " ++ Text.quoted value
  | badNumber label value => "argument " ++ label ++ ": invalid int value: " ++ Text.quoted value
  | unrecognized words => "unrecognized arguments: " ++ " ".intercalate words

/-- What stands behind the name of an option in the same word. -/
inductive Attached where
  | nothing
  | afterEquals (value : String)
  /-- More characters follow a short name at once. -/
  | directly (value : List Char)
deriving Repr, DecidableEq

/-- What a word of the command line is. -/
inductive Word where
  /-- A word that may be the value of an option. -/
  | plain (text : String)
  | option (parameter : Parameter) (attached : Attached)
  /-- A word that is neither an option nor the value of one. -/
  | stray (text : String)

/-- Whether a word is a number below zero; it may end with a line break. -/
def isNegativeNumber (word : List Char) : Bool :=
  match word with
  | '-' :: rest =>
      let number := if rest.getLast? == some '\n' then rest.dropLast else rest
      let whole := number.takeWhile Text.isDecimalDigit
      match number.drop whole.length with
      | [] => !whole.isEmpty
      | '.' :: places => !places.isEmpty && places.all Text.isDecimalDigit
      | _ => false
  | _ => false

/-- The option with a name. -/
def named? (options : List Parameter) (name : String) : Option Parameter :=
  options.find? fun option => option.names.contains name

/-- The part of a word before its first equals sign, and the value behind it if there is one. -/
def splitAtEquals (word : List Char) : String × Option String :=
  let name := word.takeWhile (· != '=')
  let value := if name.length < word.length then some (word.drop (name.length + 1)) else none
  (String.ofList name, value.map String.ofList)

/-- Whether a name is a hyphen and one more character. -/
def isShort (name : String) : Bool := name.length == 2

/-- The value behind an equals sign as it is attached; a short name has more names behind it. -/
def attachedOf (name : String) (value : Option String) : Attached :=
  match value with
  | none => .nothing
  | some value =>
      if isShort name && !value.isEmpty then .directly value.toList else .afterEquals value

/-- The long names that begin in a certain way, with their options. -/
def longMatches (options : List Parameter) (start : String) : List (String × Parameter) :=
  options.flatMap fun option =>
    (option.names.filter fun name => start.toList.isPrefixOf name.toList).map (·, option)

/-- What a word is that starts like an option but names none. -/
def unnamed (word : String) : Word :=
  if isNegativeNumber word.toList || word.toList.contains ' ' then .plain word else .stray word

/-- What a word is that starts with two hyphens; the beginning of a name may stand for the name. -/
def classifyLong (options : List Parameter) (word : String) : Except Refusal Word :=
  let (name, value) := splitAtEquals word.toList
  match longMatches options name with
  | [] => .ok (unnamed word)
  | [(_, option)] => .ok (.option option (attachedOf name value))
  | found => .error (.ambiguous word (found.map Prod.fst))

/-- What a word is that starts with one hyphen; more may follow a short name at once. -/
def classifyShort (options : List Parameter) (word : String) : Word :=
  match named? options (String.ofList (word.toList.take 2)) with
  | some option => .option option (.directly (word.toList.drop 2))
  | none => unnamed word

/-- What a word is. -/
def classify (options : List Parameter) (word : String) : Except Refusal Word :=
  let (name, value) := splitAtEquals word.toList
  match word.toList, named? options word, value.bind fun _ => named? options name with
  | '-' :: _, some option, _ => .ok (.option option .nothing)
  | ['-'], none, _ => .ok (.plain word)
  | '-' :: _, none, some option => .ok (.option option (attachedOf name value))
  | '-' :: '-' :: _, none, none => classifyLong options word
  | '-' :: _, none, none => .ok (classifyShort options word)
  | _, _, _ => .ok (.plain word)

/-- What the words are; behind two hyphens alone every word is plain. -/
def classifyAll (options : List Parameter) : List String → Except Refusal (List Word)
  | [] => .ok []
  | "--" :: words => .ok (.stray "--" :: words.map Word.plain)
  | word :: words => do
      let first ← classify options word
      return first :: (← classifyAll options words)

/-- The value that is needless behind a short name: all from the first character that is none. -/
def needlessTail? (options : List Parameter) : List Char → Option String
  | [] => none
  | c :: rest =>
      if (named? options (String.ofList ['-', c])).isSome then needlessTail? options rest
      else some (String.ofList (c :: rest))

/-- The value that is needless for an option that takes none, if there is one. -/
def needless? (options : List Parameter) : Attached → Option String
  | .nothing => none
  | .afterEquals value => some value
  | .directly value => needlessTail? options value

/-- The value that a word gives to an option; two hyphens alone give none. -/
def valueOf (word : String) : Option String := if word == "--" then none else some word

/-- The change that an option makes with a word for its value. -/
def change (option : Parameter) (word : String) :
    Except Refusal (Arguments → Arguments) :=
  match option.action, valueOf word with
  | .text set, value => .ok (set value)
  | .number set, some value =>
      match Decimal.readInteger value with
      | .ok number => .ok (set number)
      | .error _ => .error (.badNumber option.label value)
  | .flag set, _ => .ok set
  | .number _, none | .help, _ => .ok id

/-- What a command line asks for. -/
inductive Demand where
  | help
  | run (arguments : Arguments)

/-- What the words ask for, given what is set already and which words were not recognized. -/
def follow (options : List Parameter) (arguments : Arguments) (extras : List String) :
    List Word → Except Refusal Demand
  | [] => if extras.isEmpty then .ok (.run arguments) else .error (.unrecognized extras)
  | .plain text :: words | .stray text :: words =>
      follow options arguments (extras ++ [text]) words
  | .option option attached :: words =>
      match option.action with
      | .help =>
          match needless? options attached with
          | some value => .error (.needlessValue option.label value)
          | none => .ok .help
      | .flag set =>
          match needless? options attached with
          | some value => .error (.needlessValue option.label value)
          | none => follow options (set arguments) extras words
      | _ =>
          match attached, words with
          | .afterEquals value, words => do
              follow options ((← change option value) arguments) extras words
          | .directly value, words => do
              follow options ((← change option (String.ofList value)) arguments) extras words
          | .nothing, .plain value :: words => do
              follow options ((← change option value) arguments) extras words
          | .nothing, _ => .error (.missingValue option.label)

/-- What a command line asks for. -/
def read (preset : Arguments) (words : List String) : Except Refusal Demand := do
  let options := parameters preset
  follow options preset [] (← classifyAll options words)

end RouterMetrics.CommandLine
