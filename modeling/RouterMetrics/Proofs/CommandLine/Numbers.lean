import RouterMetrics.CommandLine.Reading
import RouterMetrics.Proofs.Lists

/-!
The numbers of a command line: the port and the timeout of the single device.

Main statements: in the arguments that are read of some words each of these is the last number that the
words give to its own option, or the preset one; it is written at the end of one of the words.
-/

namespace RouterMetrics.CommandLine

/-- A whole number is written in one of some texts. -/
def WrittenIn (texts : List String) (n : Int) : Prop :=
  ∃ text ∈ texts, Decimal.readInteger text = .ok n

/-- The texts with which some words end. -/
def endsOf (words : List String) : List String :=
  words.flatMap fun word => word.toList.tails.map String.ofList

/-- A text stands at the end of some words if it is the tail of one of them. -/
theorem mem_endsOf_iff {words : List String} {text : String} :
    text ∈ endsOf words ↔ ∃ word ∈ words, text.toList <:+ word.toList := by
  simp only [endsOf, List.mem_flatMap, List.mem_map, List.mem_tails]
  -- Characters and texts say the same about tails.
  refine exists_congr fun word => and_congr_right fun _ => ?_
  constructor
  · rintro ⟨tail, behind, rfl⟩
    rwa [String.toList_ofList]
  · exact fun behind => ⟨_, behind, String.ofList_toList⟩

/-- A text as a whole number, if it is one. -/
def number? (text : String) : Option Int := (Decimal.readInteger text).toOption

/-- A text is a whole number exactly if it is read as one. -/
theorem number?_eq_some_iff {text : String} {n : Int} :
    number? text = some n ↔ Decimal.readInteger text = .ok n := by
  -- What cannot be read is no number.
  unfold number?
  cases Decimal.readInteger text <;> simp [Except.toOption]

/-- The port and the timeout are the earlier ones, or numbers of some kind. -/
structure Arguments.NumbersFrom (arguments earlier : Arguments) (kind : Int → Prop) : Prop where
  port : arguments.device.port = earlier.device.port ∨
    ∃ n, kind n ∧ arguments.device.port = some n
  timeout : arguments.device.timeout = earlier.device.timeout ∨ kind arguments.device.timeout

/-! Options. -/

namespace Parameter

/-- Only the option with a name changes a place of the arguments, and it puts its number there. -/
def Respects (option : Parameter) (name : String) (place : Arguments → Option Int) : Prop :=
  match option.action with
  | .help => name ∉ option.names
  | .flag set => name ∉ option.names ∧ ∀ arguments, place (set arguments) = place arguments
  | .text set => name ∉ option.names ∧ ∀ value arguments, place (set value arguments) = place arguments
  | .number set => ∀ n arguments,
      place (set n arguments) = if name ∈ option.names then some n else place arguments

/-- The number that a text gives to an option, if this is the one with a name. -/
def numberFor? (option : Parameter) (name text : String) : Option Int :=
  if name ∈ option.names then number? text else none

/-- Another option is given no number for the one with a name. -/
theorem numberFor?_of_notMem {option : Parameter} {name : String} (other : name ∉ option.names)
    (text : String) : option.numberFor? name text = none := if_neg other

end Parameter

/-- The port of the single device, which its option sets. -/
def Arguments.port? (arguments : Arguments) : Option Int := arguments.device.port

/-- The timeout of the single device, which its option sets. -/
def Arguments.timeout? (arguments : Arguments) : Option Int := some arguments.device.timeout

/-- The port and the timeout are changed by their own options only. -/
theorem respects_of_listed (preset : Arguments) :
    ∀ option ∈ parameters preset, option.Respects "--deviceport" Arguments.port? ∧
      option.Respects "--timeout" Arguments.timeout? := by
  refine List.forall_mem_append.mpr ⟨?general, ?ofCollectors⟩
  case ofCollectors =>
    intro option member
    obtain ⟨collector, known, rfl⟩ := List.mem_map.mp member
    have others : ∀ collector ∈ Collector.all, "--deviceport" ∉ ["--with-" ++ collector.name] ∧
        "--timeout" ∉ ["--with-" ++ collector.name] := by decide
    exact ⟨⟨(others collector known).1, fun _ => rfl⟩, (others collector known).2, fun _ => rfl⟩
  case general =>
    simp only [generalParameters, List.forall_mem_cons]
    refine ⟨?help, ?configFile, ?name, ?address, ?user, ?password, ?port, ?tls, ?insecure, ?timeout,
      ?listenAddress, ?path, ?logLevel, ?listsCollectors, ?enablesAll, nofun⟩
    case port =>
      refine ⟨fun n arguments => ?_, fun n arguments => ?_⟩
      · rw [if_pos (by simp)]
        rfl
      · rw [if_neg (by simp)]
        rfl
    case timeout =>
      refine ⟨fun n arguments => ?_, fun n arguments => ?_⟩
      · rw [if_neg (by simp)]
        rfl
      · rw [if_pos (by simp)]
        rfl
    case help => exact ⟨by simp [Parameter.Respects], by simp [Parameter.Respects]⟩
    -- The other options have to do with neither.
    case tls | insecure | listsCollectors | enablesAll =>
      exact ⟨⟨by simp, fun _ => rfl⟩, by simp, fun _ => rfl⟩
    case configFile | name | address | user | password | listenAddress | path | logLevel =>
      exact ⟨⟨by simp, fun _ _ => rfl⟩, by simp, fun _ _ => rfl⟩

/-- What an option makes of its value is to put the number there into its own place. -/
theorem place_change {option : Parameter} {name text : String} {place : Arguments → Option Int}
    {set : Arguments → Arguments} (respects : option.Respects name place)
    (changed : change option text = .ok set) (arguments : Arguments) :
    place (set arguments) = (option.numberFor? name text).or (place arguments) := by
  unfold Parameter.Respects at respects
  unfold change at changed
  cases action : option.action with
  | help =>
    simp only [action] at changed respects
    cases changed
    rw [Parameter.numberFor?_of_notMem respects]
    rfl
  | flag given =>
    simp only [action] at changed respects
    cases changed
    rw [Parameter.numberFor?_of_notMem respects.1, respects.2]
    rfl
  | text given =>
    simp only [action] at changed respects
    cases changed
    rw [Parameter.numberFor?_of_notMem respects.1, respects.2]
    rfl
  | number given =>
    simp only [action] at changed respects
    by_cases none : text = "--"
    · -- Two hyphens alone are no value, and no number either.
      have unread : number? "--" = Option.none := by decide +kernel
      simp only [valueOf, none] at changed
      cases changed
      simp [Parameter.numberFor?, none, unread]
    · simp only [valueOf, beq_iff_eq, none, if_false] at changed
      cases read : Decimal.readInteger text with
      | error fault =>
        rw [read] at changed
        cases changed
      | ok n =>
        rw [read] at changed
        cases changed
        rw [respects, Parameter.numberFor?, number?_eq_some_iff.mpr read]
        -- Of the options for numbers only the one with the name has this place for its number.
        split <;> rfl

/-! Words. -/

/-- The text that an option is given: what is attached to it, or the next word. -/
def givenTo? : Attached → List Word → Option String
  | .afterEquals value, _ => some value
  | .directly value, _ => some (String.ofList value)
  | .nothing, .plain value :: _ => some value
  | .nothing, _ => none

/-- The numbers that words give to the option with a name, in their order. -/
def numbersGiven (name : String) : List Word → List Int
  | [] => []
  | .option option attached :: words =>
      ((givenTo? attached words).bind (option.numberFor? name)).toList ++ numbersGiven name words
  | .plain _ :: words | .stray _ :: words => numbersGiven name words

/-- The texts that may be values in a word. -/
def Word.texts : Word → List String
  | .plain text => [text]
  | .option _ (.afterEquals value) => [value]
  | .option _ (.directly value) => [String.ofList value]
  | .option _ .nothing | .stray _ => []

/-- A word is of some options and ends of texts. -/
structure Word.IsOf (word : Word) (options : List Parameter) (texts : List String) : Prop where
  listed : ∀ parameter attached, word = .option parameter attached → parameter ∈ options
  texts : ∀ text ∈ word.texts, text ∈ texts

/-- What an option is given is a text of its word or of a later one. -/
theorem mem_texts_of_givenTo? {option : Parameter} {attached : Attached} {words : List Word}
    {text : String} (given : givenTo? attached words = some text) :
    ∃ word ∈ Word.option option attached :: words, text ∈ word.texts := by
  unfold givenTo? at given
  split at given <;> cases given
  · exact ⟨_, List.mem_cons_self, List.mem_singleton_self _⟩
  · exact ⟨_, List.mem_cons_self, List.mem_singleton_self _⟩
  · -- The value is the whole next word.
    exact ⟨_, List.mem_cons_of_mem _ List.mem_cons_self, List.mem_singleton_self _⟩

/-- A number that is given stands in one of the words. -/
theorem written_of_numbersGiven {name : String} {words : List Word} {n : Int}
    (given : n ∈ numbersGiven name words) : WrittenIn (words.flatMap Word.texts) n := by
  induction words with
  | nil => cases given
  | cons word words ih =>
    -- What a later word gives is written among its texts.
    have later : n ∈ numbersGiven name words →
        WrittenIn ((word :: words).flatMap Word.texts) n := by
      intro given
      obtain ⟨text, member, read⟩ := ih given
      exact ⟨text, List.mem_append_right _ member, read⟩
    cases word with
    | plain _ | stray _ => exact later given
    | option option attached =>
      rcases List.mem_append.mp given with own | behind
      · -- The number is that of the value, whether this is attached or the next word.
        rw [Option.mem_toList, Option.bind_eq_some_iff] at own
        obtain ⟨text, there, number⟩ := own
        obtain ⟨word, member, inside⟩ :
            ∃ word ∈ Word.option option attached :: words, text ∈ word.texts :=
          mem_texts_of_givenTo? there
        unfold Parameter.numberFor? at number
        split at number
        · exact ⟨text, List.mem_flatMap.mpr ⟨word, member, inside⟩, number?_eq_some_iff.mp number⟩
        · cases number
      · exact later behind

section Following

variable {options : List Parameter} {words : List Word} {arguments result : Arguments}
  {extras : List String} {name : String} {place : Arguments → Option Int}

/-- A value before other words counts if none of these gives another number. -/
private theorem place_value {option : Parameter} {text : String}
    (respects : option.Respects name place)
    (later : ∀ set : Arguments → Arguments,
      follow options (set arguments) extras words = .ok (.run result) →
        place result = (numbersGiven name words).getLast?.or (place (set arguments)))
    (followed : (do
      let set ← change option text
      follow options (set arguments) extras words) = .ok (.run result)) :
    place result = ((option.numberFor? name text).toList ++ numbersGiven name words).getLast?.or
      (place arguments) := by
  -- The value counts before the later ones, and behind what was in the place.
  obtain ⟨set, changed, followed⟩ := ok_of_bind followed
  rw [later set followed, place_change respects changed, List.getLast?_append, Option.or_assoc]
  cases option.numberFor? name text <;> rfl

/-- The number in the place of an option is the last one that words give it, or the earlier one. -/
theorem place_follow
    (respects : ∀ option attached, .option option attached ∈ words → option.Respects name place)
    (followed : follow options arguments extras words = .ok (.run result)) :
    place result = (numbersGiven name words).getLast?.or (place arguments) := by
  -- The induction is on the words as they are gone through, one or two at a time.
  fun_induction follow options arguments extras words with
  | case1 =>
    cases followed
    rfl
  | case2 | case5 | case6 | case7 | case12 => cases followed
  | case3 arguments extras text words ih | case4 arguments extras text words ih =>
    exact ih (fun option attached member => respects option attached (List.mem_cons_of_mem _ member))
      followed
  | case8 arguments extras option attached words set action _ ih =>
    have own := respects option attached List.mem_cons_self
    simp only [Parameter.Respects, action] at own
    -- A flag is given no number, and it changes none.
    have none : (givenTo? attached words).bind (option.numberFor? name) = Option.none := by
      simp [Parameter.numberFor?_of_notMem own.1]
    rw [ih (fun option attached member => respects option attached (List.mem_cons_of_mem _ member))
      followed, own.2, numbersGiven, none]
    rfl
  | case9 arguments extras option value words _ _ ih | case10 arguments extras option value words _ _ ih =>
    refine place_value (respects option _ List.mem_cons_self) (fun set => ih set ?_) followed
    exact fun option attached member => respects option attached (List.mem_cons_of_mem _ member)
  | case11 arguments extras option value words _ _ ih =>
    -- The value is not an option, so the options are among the words behind it.
    show place result = ((option.numberFor? name value).toList ++ numbersGiven name words).getLast?.or
      (place arguments)
    refine place_value (respects option _ List.mem_cons_self) (fun set => ih set ?_) followed
    exact fun option attached member => respects option attached
      (List.mem_cons_of_mem _ (List.mem_cons_of_mem _ member))

end Following

/-! What words are. -/

section Classifying

variable {options : List Parameter} {word : String} {found : Word}

/-- The option with a name is one of the options. -/
theorem mem_of_named? {name : String} {option : Parameter} (named : named? options name = some option) :
    option ∈ options := List.mem_of_find?_eq_some named

/-- What stands behind an equals sign is the end of the word. -/
theorem mem_endsOf_of_splitAtEquals {value : String}
    (split : (splitAtEquals word.toList).2 = some value) : value ∈ endsOf [word] := by
  unfold splitAtEquals at split
  dsimp only at split
  split at split
  · cases split
    -- The sign and what is before it are dropped.
    refine mem_endsOf_iff.mpr ⟨word, List.mem_singleton_self _, ?_⟩
    rw [String.toList_ofList]
    exact List.drop_suffix _ _
  · cases split

/-- A word is at the end of itself. -/
theorem self_mem_endsOf (word : String) : word ∈ endsOf [word] :=
  mem_endsOf_iff.mpr ⟨word, List.mem_singleton_self _, List.suffix_rfl⟩

/-- An option is of these options with nothing attached, and with the end of a word as well. -/
theorem isOf_attachedOf {option : Parameter} (listed : option ∈ options) {name : String}
    {value? : Option String} (behind : ∀ value, value? = some value → value ∈ endsOf [word]) :
    (Word.option option (attachedOf name value?)).IsOf options (endsOf [word]) := by
  refine ⟨fun parameter attached same => by cases same; exact listed, fun text member => ?_⟩
  cases value? with
  | none => cases member
  | some value =>
    -- The value is the same wherever it is attached.
    have same : text = value := by
      unfold attachedOf at member
      dsimp only at member
      split at member
      · simpa [Word.texts] using member
      · simpa [Word.texts] using member
    exact same ▸ behind value rfl

/-- A word that names no option has no option, and may be a value itself. -/
theorem isOf_unnamed (word : String) : (unnamed word).IsOf options (endsOf [word]) := by
  unfold unnamed
  split
  · -- A plain word is its own text, and a stray one has none.
    exact ⟨nofun, fun text member => List.mem_singleton.mp member ▸ self_mem_endsOf word⟩
  · exact ⟨nofun, nofun⟩

/-- A word that starts with two hyphens is of the options, and its value is its end. -/
theorem isOf_classifyLong (classified : classifyLong options word = .ok found) :
    found.IsOf options (endsOf [word]) := by
  unfold classifyLong at classified
  split at classified
  rename_i name value? split
  split at classified
  · cases classified
    -- No option has a name that begins like this.
    exact isOf_unnamed word
  · -- The only option with such a name takes what is behind the sign.
    rename_i long option only
    cases classified
    have listed : (long, option) ∈ longMatches options name := by rw [only]; exact List.mem_cons_self
    simp only [longMatches, List.mem_flatMap, List.mem_map, Prod.mk.injEq] at listed
    obtain ⟨_, listed, _, -, -, rfl⟩ := listed
    refine isOf_attachedOf listed fun value there => mem_endsOf_of_splitAtEquals ?_
    rw [split, there]
  · cases classified

/-- A word that starts with one hyphen is of the options, and its value is its end. -/
theorem isOf_classifyShort (options : List Parameter) (word : String) :
    (classifyShort options word).IsOf options (endsOf [word]) := by
  unfold classifyShort
  split
  · rename_i option named
    refine ⟨fun parameter attached same => ?_, fun text member => ?_⟩
    · cases same
      exact mem_of_named? named
    · -- The value stands directly behind the name.
      refine mem_endsOf_iff.mpr ⟨word, List.mem_singleton_self _, ?_⟩
      rw [List.mem_singleton.mp member, String.toList_ofList]
      exact List.drop_suffix _ _
  · exact isOf_unnamed word

/-- A word is of the options, and its value is its end. -/
theorem isOf_classify (classified : classify options word = .ok found) :
    found.IsOf options (endsOf [word]) := by
  -- Plain words are their own texts.
  have plain : (Word.plain word).IsOf options (endsOf [word]) :=
    ⟨nofun, fun text member => List.mem_singleton.mp member ▸ self_mem_endsOf word⟩
  unfold classify at classified
  split at classified
  rename_i name value? split
  split at classified
  · rename_i option named
    cases classified
    exact ⟨fun parameter attached same => by cases same; exact mem_of_named? named, nofun⟩
  · cases classified
    exact plain
  · rename_i option _ named
    cases classified
    -- The word is split at the sign only where this makes a name of it.
    obtain ⟨_, -, named⟩ := Option.bind_eq_some_iff.mp named
    refine isOf_attachedOf (mem_of_named? named) fun value there => mem_endsOf_of_splitAtEquals ?_
    rw [split, there]
  · exact isOf_classifyLong classified
  · cases classified
    exact isOf_classifyShort options word
  · cases classified
    exact plain

/-- What is of the ends of some words is of those of more words. -/
theorem Word.IsOf.mono {texts more : List String} (isOf : found.IsOf options texts)
    (wider : texts ⊆ more) : found.IsOf options more :=
  -- The option stays the same.
  ⟨isOf.listed, fun text member => wider (isOf.texts text member)⟩

/-- Words are of the options, and their values are their ends. -/
theorem isOf_classifyAll {words : List String} {all : List Word}
    (classified : classifyAll options words = .ok all) :
    ∀ found ∈ all, found.IsOf options (endsOf words) := by
  fun_induction classifyAll options words generalizing all with
  | case1 =>
    cases classified
    exact nofun
  | case2 words =>
    cases classified
    -- Behind two hyphens there are values only.
    intro found member
    rcases List.mem_cons.mp member with rfl | member
    · exact ⟨nofun, nofun⟩
    · obtain ⟨word, inside, rfl⟩ := List.mem_map.mp member
      refine ⟨nofun, fun text own => mem_endsOf_iff.mpr ⟨word, List.mem_cons_of_mem _ inside, ?_⟩⟩
      exact List.mem_singleton.mp own ▸ List.suffix_rfl
  | case3 word words _ ih =>
    obtain ⟨first, own, classified⟩ := ok_of_bind classified
    obtain ⟨rest, others, classified⟩ := ok_of_bind classified
    cases classified
    have split : endsOf (word :: words) = endsOf [word] ++ endsOf words := by simp [endsOf]
    rw [split]
    intro found member
    rcases List.mem_cons.mp member with rfl | member
    · exact (isOf_classify own).mono (List.subset_append_left _ _)
    · exact (ih others found member).mono (List.subset_append_right _ _)

end Classifying

/-- The numbers that words give to the option with a name, in their order. -/
def numbersFor (preset : Arguments) (name : String) (words : List String) : List Int :=
  match classifyAll (parameters preset) words with
  | .ok all => numbersGiven name all
  | .error _ => []

section Reading

variable {preset arguments : Arguments} {words : List String}

/-- The numbers that words give to an option stand at the ends of words. -/
theorem written_of_numbersFor {name : String} {n : Int} (given : n ∈ numbersFor preset name words) :
    WrittenIn (endsOf words) n := by
  unfold numbersFor at given
  split at given
  · -- The number is written in a text of a classified word, which is an end of a word.
    rename_i all classified
    obtain ⟨text, member, read⟩ := written_of_numbersGiven given
    obtain ⟨word, inside, own⟩ := List.mem_flatMap.mp member
    exact ⟨text, (isOf_classifyAll classified word inside).texts text own, read⟩
  · cases given

variable (asked : read preset words = .ok (.run arguments))

include asked

/-- What is read of words has in the place of an option the last number that they give it. -/
theorem place_read {name : String} {place : Arguments → Option Int}
    (respects : ∀ option ∈ parameters preset, option.Respects name place) :
    place arguments = (numbersFor preset name words).getLast?.or (place preset) := by
  -- Each option of the words is one of the program, and these respect the place.
  obtain ⟨all, classified, followed⟩ := ok_of_bind asked
  have isOf := isOf_classifyAll classified
  rw [numbersFor, classified]
  exact place_follow (fun option attached member =>
    respects option ((isOf _ member).listed option attached rfl)) followed

/-- The port is the last number that is given to its option, or the preset one. -/
theorem port_read : arguments.device.port =
    (numbersFor preset "--deviceport" words).getLast?.or preset.device.port :=
  -- No option but its own changes the port.
  place_read asked fun option listed => (respects_of_listed preset option listed).1

/-- The timeout is the last number that is given to its option, or the preset one. -/
theorem timeout_read : arguments.device.timeout =
    (numbersFor preset "--timeout" words).getLast?.getD preset.device.timeout := by
  -- No option but its own changes the timeout, which is always there.
  have place := place_read asked fun option listed => (respects_of_listed preset option listed).2
  simpa [Arguments.timeout?] using place

/-- The numbers in what is read of words are preset, or written at the end of one of the words. -/
theorem numbersFrom_read : arguments.NumbersFrom preset (WrittenIn (endsOf words)) where
  port := by
    rw [port_read asked]
    -- Without a number for it the port stays the preset one.
    cases last : (numbersFor preset "--deviceport" words).getLast? with
    | none => exact .inl rfl
    | some n => exact .inr ⟨n, written_of_numbersFor (List.mem_of_getLast? last), rfl⟩
  timeout := by
    rw [timeout_read asked]
    -- Without a number for it the timeout stays the preset one.
    cases last : (numbersFor preset "--timeout" words).getLast? with
    | none => exact .inl rfl
    | some n => exact .inr (written_of_numbersFor (List.mem_of_getLast? last))

end Reading

end RouterMetrics.CommandLine
