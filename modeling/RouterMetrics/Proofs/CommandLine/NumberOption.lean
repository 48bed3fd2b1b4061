import RouterMetrics.Proofs.CommandLine.Numbers

/-!
What becomes of an option for a number.

Main statements: with a number of any size behind it, whatever is run is run with this number in the place
of the option; with something else that is given to it, nothing is run.
-/

namespace RouterMetrics.CommandLine

/-! Numbers. -/

/-- The value of an option is a number. -/
def Parameter.TakesNumber (option : Parameter) : Prop := ∃ set, option.action = .number set

/-- An option takes a value, which is attached to it or the next word, and leaves the other words. -/
inductive Takes : Attached → List Word → String → List Word → Prop
  | afterEquals (value : String) (words : List Word) : Takes (.afterEquals value) words value words
  | directly (value : List Char) (words : List Word) :
      Takes (.directly value) words (String.ofList value) words
  | next (value : String) (words : List Word) : Takes .nothing (.plain value :: words) value words

/-- A value behind an option leaves the words behind it as they are, with one more word, too. -/
theorem Takes.concat {attached : Attached} {words rest : List Word} {value : String}
    (takes : Takes attached words value rest) (last : Word) :
    Takes attached (words ++ [last]) value (rest ++ [last]) := by
  -- The value stands in front, in all three ways of giving one.
  cases takes with
  | afterEquals => exact .afterEquals _ _
  | directly => exact .directly _ _
  | next => exact .next _ _

section Appending

variable {options : List Parameter} {arguments result : Arguments} {extras : List String}

/-- A flag is set, and the words behind it are followed. -/
theorem follow_flag {option : Parameter} {attached : Attached} {set : Arguments → Arguments}
    (action : option.action = .flag set) (bare : needless? options attached = none)
    (words : List Word) :
    follow options arguments extras (.option option attached :: words) =
      follow options (set arguments) extras words := by
  -- A flag takes no value, so that the next word is followed at once.
  conv_lhs => unfold follow
  simp only [action, bare]

/-- An option makes what it makes of its value, and the words behind this are followed. -/
theorem follow_value {option : Parameter} (needs : option.needsValue = true) {attached : Attached}
    {words rest : List Word} {value : String} (takes : Takes attached words value rest) :
    follow options arguments extras (.option option attached :: words) = (do
      let set ← change option value
      follow options (set arguments) extras rest) := by
  conv_lhs => unfold follow
  unfold Parameter.needsValue at needs
  -- Help and flags take no value; all else asks for one in the same way.
  cases action : option.action with
  | help | flag _ => simp [action] at needs
  | text _ | number _ => cases takes <;> rfl

/-- An option that is neither for help nor a flag needs a value. -/
theorem needsValue_of_not {option : Parameter} (help : option.action ≠ .help)
    (flag : ∀ set, option.action ≠ .flag set) : option.needsValue = true := by
  -- What is left are texts and numbers.
  unfold Parameter.needsValue
  cases action : option.action with
  | help => exact absurd action help
  | flag set => exact absurd action (flag set)
  | text _ | number _ => rfl

/-- Where something is run, all words are recognized. -/
theorem recognized_of_follow {words : List Word}
    (followed : follow options arguments extras words = .ok (.run result)) :
    extras = [] ∧ ∀ text, .stray text ∉ words := by
  fun_induction follow options arguments extras words with
  | case1 arguments extras none =>
    exact ⟨List.isEmpty_iff.mp none, fun _ => List.not_mem_nil⟩
  | case2 | case5 | case6 | case7 | case12 => cases followed
  -- A word that is passed over is one of those that were not recognized.
  | case3 arguments extras text words ih | case4 arguments extras text words ih =>
    exact absurd (ih followed).1 (by simp)
  | case8 arguments extras option attached words set action _ ih =>
    obtain ⟨none, known⟩ := ih followed
    exact ⟨none, fun text => by simp [known text]⟩
  | case9 arguments extras option value words _ _ ih | case10 arguments extras option value words _ _ ih =>
    obtain ⟨set, -, followed⟩ := ok_of_bind followed
    obtain ⟨none, known⟩ := ih set followed
    exact ⟨none, fun text => by simp [known text]⟩
  | case11 arguments extras option value words _ _ ih =>
    obtain ⟨set, -, followed⟩ := ok_of_bind followed
    obtain ⟨none, known⟩ := ih set followed
    exact ⟨none, fun text => by simp [known text]⟩

/-- What follows on a value when there is one more word follows on the option that takes the value. -/
private theorem follow_value_concat {option : Parameter} (needs : option.needsValue = true)
    {attached : Attached} {words rest : List Word} {text : String} {last : Word} {demand : Demand}
    (takes : Takes attached words text rest)
    (later : ∀ set : Arguments → Arguments,
      follow options (set arguments) extras rest = .ok (.run result) →
        follow options (set arguments) extras (rest ++ [last]) = .ok demand)
    (followed : (do
      let set ← change option text
      follow options (set arguments) extras rest) = .ok (.run result)) :
    follow options arguments extras (.option option attached :: words ++ [last]) = .ok demand := by
  -- The last word stands behind the value, where it is followed later.
  obtain ⟨set, changed, followed⟩ := ok_of_bind followed
  rw [List.cons_append, follow_value needs (takes.concat last), changed]
  exact later set followed

/-- An option behind words that are run is followed, too. -/
theorem follow_concat {words : List Word} {option : Parameter} {value : String}
    {set : Arguments → Arguments} (takes : option.TakesNumber) (changed : change option value = .ok set)
    (followed : follow options arguments extras words = .ok (.run result)) :
    follow options arguments extras (words ++ [.option option (.afterEquals value)]) =
      .ok (.run (set result)) := by
  have needs : option.needsValue = true := by
    obtain ⟨number, action⟩ := takes
    simp [Parameter.needsValue, action]
  -- The induction is on the words before the option, which are gone through as without it.
  fun_induction follow options arguments extras words with
  | case1 arguments extras none =>
    cases followed
    rw [List.nil_append, follow_value needs (.afterEquals value []), changed]
    simp [Bind.bind, Except.bind, follow, none]
  | case2 | case5 | case6 | case7 | case12 => cases followed
  | case3 arguments extras text words ih | case4 arguments extras text words ih => exact ih followed
  | case8 arguments extras other attached words _ action bare ih =>
    rw [List.cons_append, follow_flag action bare]
    exact ih followed
  | case9 arguments extras other text words help flag ih =>
    exact follow_value_concat (needsValue_of_not help flag) (.afterEquals text words) ih followed
  | case10 arguments extras other text words help flag ih =>
    exact follow_value_concat (needsValue_of_not help flag) (.directly text words) ih followed
  | case11 arguments extras other text words help flag ih =>
    exact follow_value_concat (needsValue_of_not help flag) (.next text words) ih followed

/-- Words without two hyphens alone are classified with one more word, too. -/
theorem classifyAll_concat {words : List String} {last : String} {all : List Word} {found : Word}
    (notEnd : last ≠ "--") (recognized : ∀ text, .stray text ∉ all)
    (classified : classifyAll options words = .ok all) (own : classify options last = .ok found) :
    classifyAll options (words ++ [last]) = .ok (all ++ [found]) := by
  induction words generalizing all with
  | nil =>
    cases classified
    rw [List.nil_append, classifyAll.eq_3 _ _ _ notEnd, own]
    rfl
  | cons word words ih =>
    by_cases twoHyphens : word = "--"
    · -- Two hyphens are not recognized as anything.
      subst twoHyphens
      cases classified
      exact absurd List.mem_cons_self (recognized "--")
    · rw [classifyAll.eq_3 _ _ _ twoHyphens] at classified
      obtain ⟨first, read, classified⟩ := ok_of_bind classified
      obtain ⟨rest, behind, classified⟩ := ok_of_bind classified
      cases classified
      have later := ih (fun text member => recognized text (List.mem_cons_of_mem _ member)) behind
      rw [List.cons_append, classifyAll.eq_3 _ _ _ twoHyphens, read, later]
      rfl

/-- No option of the program has an equals sign in one of its names. -/
theorem equals_notMem_names (preset : Arguments) :
    ∀ option ∈ parameters preset, ∀ name ∈ option.names, '=' ∉ name.toList := by
  -- The names do not depend on what is preset.
  have names : (parameters preset).map Parameter.names = (parameters {}).map Parameter.names := rfl
  have bare : ∀ names ∈ (parameters {}).map Parameter.names, ∀ name ∈ names, '=' ∉ name.toList := by
    decide +kernel
  intro option listed
  exact bare option.names (names ▸ List.mem_map_of_mem listed)

/-- A long name with a value behind an equals sign is the option of the name with this value. -/
theorem classify_afterEquals {preset : Arguments} {name value : String} {option : Parameter}
    (named : named? (parameters preset) name = some option) (long : 2 < name.length)
    (hyphen : ∃ rest, name.toList = '-' :: rest) :
    classify (parameters preset) (name ++ "=" ++ value) =
      .ok (.option option (.afterEquals value)) := by
  have listed : name ∈ option.names := by simpa using List.find?_some named
  have bare := equals_notMem_names preset option (mem_of_named? named) name listed
  have word : (name ++ "=" ++ value).toList = name.toList ++ '=' :: value.toList := by simp
  have split : splitAtEquals (name ++ "=" ++ value).toList = (name, some value) := by
    have before : (name.toList ++ '=' :: value.toList).takeWhile (· != '=') = name.toList := by
      rw [List.takeWhile_append_of_pos fun c inside => by simpa using ne_of_mem_of_not_mem inside bare]
      simp
    unfold splitAtEquals
    rw [word]
    simp only [before]
    simp
  have unnamed : named? (parameters preset) (name ++ "=" ++ value) = none := by
    -- With its equals sign the word is not the name of an option.
    refine List.find?_eq_none.mpr fun other listed same => ?_
    refine equals_notMem_names preset other listed (name ++ "=" ++ value) (by simpa using same) ?_
    rw [word]
    exact List.mem_append_right _ List.mem_cons_self
  obtain ⟨rest, start⟩ := hyphen
  have isLong : isShort name = false := by
    unfold isShort
    simpa using Nat.ne_of_gt long
  unfold classify
  rw [split, unnamed, word, start]
  simp [named, attachedOf, isLong]

/-- What is run with a number of any size behind it, for an option that takes one, is run with this. -/
theorem read_concat {preset : Arguments} {words : List String}
    (asked : read preset words = .ok (.run arguments)) {name value : String} {n : Int}
    {option : Parameter} {set : Int → Arguments → Arguments}
    (named : named? (parameters preset) name = some option) (action : option.action = .number set)
    (long : 2 < name.length) (hyphen : ∃ rest, name.toList = '-' :: rest)
    (told : Decimal.readInteger value = .ok n) :
    read preset (words ++ [name ++ "=" ++ value]) = .ok (.run (set n arguments)) := by
  obtain ⟨all, classified, followed⟩ := ok_of_bind asked
  have own : classify (parameters preset) (name ++ "=" ++ value) =
      .ok (.option option (.afterEquals value)) := classify_afterEquals named long hyphen
  -- A number is not written as two hyphens, which would end the options.
  have given : value ≠ "--" := by
    rintro rfl
    have unread : number? "--" = none := by decide +kernel
    rw [number?_eq_some_iff.mpr told] at unread
    cases unread
  have changed : change option value = .ok (set n) := by
    simp [change, action, valueOf, given, told]
  -- The word is longer than two hyphens, as its name is.
  have notEnd : name ++ "=" ++ value ≠ "--" := by
    intro same
    have short : (name ++ "=" ++ value).length = 2 := congrArg String.length same
    rw [String.length_append, String.length_append] at short
    omega
  -- The words before are read as they were, and the last one sets the number.
  show (do follow (parameters preset) preset [] (← classifyAll (parameters preset) _)) = _
  rw [classifyAll_concat notEnd (recognized_of_follow followed).2 classified own]
  exact follow_concat ⟨set, action⟩ changed followed

/-- A port or a timeout of any size is taken from its option behind all other words. -/
theorem read_number_concat {preset : Arguments} {words : List String}
    (asked : read preset words = .ok (.run arguments)) {text : String} {n : Int}
    (told : Decimal.readInteger text = .ok n) :
    read preset (words ++ ["--deviceport=" ++ text]) =
        .ok (.run { arguments with device := { arguments.device with port := some n } }) ∧
      read preset (words ++ ["--timeout=" ++ text]) =
        .ok (.run { arguments with device := { arguments.device with timeout := n } }) := by
  -- The options that are found under the two names set the port and the timeout.
  obtain ⟨summary, port⟩ : ∃ summary, named? (parameters preset) "--deviceport" =
      some ⟨["--deviceport"], .number (onDevice fun port device => { device with port := some port }),
        summary⟩ := ⟨_, rfl⟩
  obtain ⟨summary', timeout⟩ : ∃ summary, named? (parameters preset) "--timeout" =
      some ⟨["--timeout"], .number (onDevice fun timeout device => { device with timeout }),
        summary⟩ := ⟨_, rfl⟩
  exact ⟨read_concat asked port rfl (by decide) ⟨_, rfl⟩ told,
    read_concat asked timeout rfl (by decide) ⟨_, rfl⟩ told⟩

end Appending

/-! Values that are no numbers. -/

/-- An option for a number has something else behind its equals sign, or for the next word. -/
inductive GivesNoNumber (preset : Arguments) : List String → Prop
  /-- Two hyphens alone are left out: they are no value behind an equals sign. -/
  | attached {before after : List String} {word value : String} {option : Parameter}
      (earlier : "--" ∉ before) (notEnd : word ≠ "--")
      (named : classify (parameters preset) word = .ok (.option option (.afterEquals value)))
      (takes : option.TakesNumber) (given : value ≠ "--")
      (none : ∀ n, Decimal.readInteger value ≠ .ok n) :
      GivesNoNumber preset (before ++ word :: after)
  | next {before after : List String} {word value : String} {option : Parameter}
      (earlier : "--" ∉ before) (notEnd : word ≠ "--")
      (named : classify (parameters preset) word = .ok (.option option .nothing))
      (takes : option.TakesNumber) (none : ∀ n, Decimal.readInteger value ≠ .ok n) :
      GivesNoNumber preset (before ++ word :: value :: after)

section Refusing

variable {options : List Parameter} {arguments result : Arguments} {extras : List String}

/-- A word that is plain is its own text. -/
theorem eq_of_classify_plain {word text : String}
    (classified : classify options word = .ok (.plain text)) : text = word := by
  -- A word without a name is plain only as a whole.
  have unnamed : ∀ {found : Word}, found = unnamed word → found = .plain text → text = word := by
    rintro found rfl plain
    unfold CommandLine.unnamed at plain
    split at plain <;> cases plain
    rfl
  -- All other words that are plain are given back as they are.
  unfold classify at classified
  split at classified
  split at classified
  · cases classified
  · cases classified
    rfl
  · cases classified
  · unfold classifyLong at classified
    split at classified
    split at classified
    · exact unnamed rfl (Except.ok.inj classified)
    · cases classified
    · cases classified
  · unfold classifyShort at classified
    split at classified
    · cases classified
    · exact unnamed rfl (Except.ok.inj classified)
  · cases classified
    rfl

/-- A word other than two hyphens is classified by itself. -/
theorem classifyAll_cons {word : String} {words : List String} {all : List Word}
    (notEnd : word ≠ "--") (classified : classifyAll options (word :: words) = .ok all) :
    ∃ found rest, all = found :: rest ∧ classify options word = .ok found ∧
      classifyAll options words = .ok rest := by
  -- Only two hyphens change how the words behind them are classified.
  rw [classifyAll.eq_3 _ _ _ notEnd] at classified
  obtain ⟨found, own, classified⟩ := ok_of_bind classified
  obtain ⟨rest, behind, classified⟩ := ok_of_bind classified
  cases classified
  exact ⟨found, rest, rfl, own, behind⟩

/-- Before two hyphens every word is classified by itself. -/
theorem classifyAll_append {before after : List String} {word : String} {all : List Word}
    (earlier : "--" ∉ before) (notEnd : word ≠ "--")
    (classified : classifyAll options (before ++ word :: after) = .ok all) :
    ∃ first found rest, all = first ++ found :: rest ∧ classify options word = .ok found ∧
      classifyAll options after = .ok rest := by
  -- The induction is on the words before, none of which are two hyphens.
  induction before generalizing all with
  | nil =>
    obtain ⟨found, rest, rfl, own, behind⟩ := classifyAll_cons notEnd classified
    exact ⟨[], found, rest, rfl, own, behind⟩
  | cons other before ih =>
    obtain ⟨notEnd', earlier⟩ := List.ne_and_not_mem_of_not_mem_cons earlier
    obtain ⟨start, later, rfl, -, behind⟩ := classifyAll_cons notEnd'.symm classified
    obtain ⟨first, found, rest, rfl, own, behind⟩ := ih earlier behind
    exact ⟨start :: first, found, rest, rfl, own, behind⟩

/-- The value that changes something for an option that takes a number is one. -/
theorem exists_of_change {option : Parameter} {text : String} {set : Arguments → Arguments}
    (takes : option.TakesNumber) (changed : change option text = .ok set) (given : text ≠ "--") :
    ∃ n, Decimal.readInteger text = .ok n := by
  obtain ⟨number, action⟩ := takes
  simp only [change, action, valueOf, beq_iff_eq, given, if_false] at changed
  cases read : Decimal.readInteger text with
  | ok n => exact ⟨n, rfl⟩
  -- Without a number there would be no change.
  | error fault =>
    rw [read] at changed
    cases changed

/-- Where something is run, each option that takes a number has one. -/
theorem legible_of_follow {option : Parameter} {attached : Attached} {before after words : List Word}
    (takes : option.TakesNumber) (whole : words = before ++ .option option attached :: after)
    (followed : follow options arguments extras words = .ok (.run result)) :
    ∃ text, givenTo? attached after = some text ∧
      (text ≠ "--" → ∃ n, Decimal.readInteger text = .ok n) := by
  -- The induction is on the words as they are gone through; the option is the first one or a later.
  fun_induction follow options arguments extras words generalizing before with
  | case1 => simp at whole
  | case2 | case5 | case6 | case7 | case12 => cases followed
  | case3 arguments extras text words ih | case4 arguments extras text words ih =>
    rcases List.cons_eq_append_iff.mp whole with ⟨rfl, same⟩ | ⟨later, rfl, rest⟩
    · cases same
    · exact ih rest followed
  | case8 arguments extras other there words set action _ ih =>
    rcases List.cons_eq_append_iff.mp whole with ⟨rfl, same⟩ | ⟨later, rfl, rest⟩
    · cases same
      obtain ⟨number, takes⟩ := takes
      cases action.symm.trans takes
    · exact ih rest followed
  | case9 arguments extras other value words _ _ ih | case10 arguments extras other value words _ _ ih =>
    obtain ⟨set, changed, followed⟩ := ok_of_bind followed
    rcases List.cons_eq_append_iff.mp whole with ⟨rfl, same⟩ | ⟨later, rfl, rest⟩
    · cases same
      exact ⟨_, rfl, exists_of_change takes changed⟩
    · exact ih set rest followed
  | case11 arguments extras other value words _ _ ih =>
    obtain ⟨set, changed, followed⟩ := ok_of_bind followed
    rcases List.cons_eq_append_iff.mp whole with ⟨rfl, same⟩ | ⟨later, rfl, rest⟩
    · cases same
      exact ⟨_, rfl, exists_of_change takes changed⟩
    · -- The value is no option itself.
      rcases List.cons_eq_append_iff.mp rest with ⟨rfl, same⟩ | ⟨later, rfl, behind⟩
      · cases same
      · exact ih set behind followed

/-- Nothing is run with an option for a number that has something else. -/
theorem GivesNoNumber.not_run {preset : Arguments} {words : List String}
    (misgiven : GivesNoNumber preset words) : read preset words ≠ .ok (.run result) := by
  intro asked
  obtain ⟨all, classified, followed⟩ := ok_of_bind asked
  cases misgiven with
  | attached earlier notEnd named takes given none =>
    obtain ⟨first, found, rest, rfl, own, -⟩ := classifyAll_append earlier notEnd classified
    obtain rfl := Except.ok.inj (own.symm.trans named)
    obtain ⟨text, there, legible⟩ := legible_of_follow takes rfl followed
    cases there
    obtain ⟨n, read⟩ := legible given
    exact none n read
  | @next before after word value option earlier notEnd named takes none =>
    obtain ⟨first, found, rest, rfl, own, behind⟩ := classifyAll_append earlier notEnd classified
    obtain rfl := Except.ok.inj (own.symm.trans named)
    obtain ⟨text, there, legible⟩ := legible_of_follow takes rfl followed
    by_cases last : value = "--"
    · -- Two hyphens are no value for the word before them.
      subst last
      cases behind
      cases there
    · obtain ⟨next, later, rfl, own, -⟩ := classifyAll_cons last behind
      cases next with
      | plain own' =>
        obtain rfl := eq_of_classify_plain own
        cases there
        obtain ⟨n, read⟩ := legible last
        exact none n read
      | option _ _ | stray _ => cases there

end Refusing

end RouterMetrics.CommandLine
