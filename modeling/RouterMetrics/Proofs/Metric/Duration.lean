import RouterMetrics.Decimal.Notation
import RouterMetrics.Proofs.Metric.Converter

/-!
Durations as they are written: groups of digits, each with the mark of its unit, from weeks down.

Main statement: a text is refused as no duration exactly if it is not written as one. It is written in
one way only, and the integers of that way are the ones that are added up.
-/

namespace RouterMetrics.Metric

open RouterMetrics.Text

/-- The seconds of an integer of a unit; whole ones are counted before they become a double. -/
def TimeUnit.secondsOf : TimeUnit → Nat → Except ConversionFault Float
  | week, n => checkedDouble (n * 604800)
  | day, n => checkedDouble (n * 86400)
  | hour, n => checkedDouble (n * 3600)
  | minute, n => checkedDouble (n * 60)
  | second, n => checkedDouble (n * 1)
  | millisecond, n => (checkedDouble n).map (· * Decimal.nearestDouble false 1 1000)

/-- Whole seconds are counted as often as the unit has them. -/
theorem TimeUnit.secondsOf_whole {unit : TimeUnit} {seconds : Nat}
    (whole : unit.seconds? = some seconds) (n : Nat) :
    unit.secondsOf n = checkedDouble (n * seconds) := by
  -- Milliseconds are the only unit without whole seconds.
  cases unit <;> cases whole <;> rfl

/-- A group as it is written: digits of any script in front of the mark of a unit. -/
structure WrittenGroup where
  unit : TimeUnit
  digits : List Char
  digits_ne_nil : digits ≠ []
  decimal : ∀ c ∈ digits, isDecimalDigit c = true

namespace WrittenGroup

/-- The characters of a group. -/
def text (group : WrittenGroup) : List Char := group.digits ++ group.unit.mark

/-- What is read of a group: its unit, and the values of its digits. -/
def read (group : WrittenGroup) : TimeGroup := ⟨group.unit, group.digits.filterMap digitValue?⟩

/-- The integer of a group. -/
def integer (group : WrittenGroup) : Nat :=
  Decimal.ofDigits 10 (group.digits.filterMap digitValue?)

/-- The seconds of a group, unless its integer has too many digits to be read. -/
def seconds (group : WrittenGroup) : Except ConversionFault Float :=
  if Decimal.digitLimit < group.digits.length then
    .error (.rejected (.badInteger (.tooManyDigits group.digits.length)))
  else group.unit.secondsOf group.integer

/-- Each digit has a value. -/
theorem length_values (group : WrittenGroup) :
    (group.digits.filterMap digitValue?).length = group.digits.length :=
  List.filterMap_length_eq_length.mpr group.decimal

/-- The seconds of a group are those of what is read of it. -/
theorem value_read (group : WrittenGroup) : group.read.value = group.seconds := by
  unfold TimeGroup.value seconds checkedInteger read
  -- The limit on digits is the same, as none of them is lost by reading.
  rw [group.length_values]
  split
  · rfl
  · rw [integer]
    -- A unit has whole seconds, or it is that of milliseconds.
    cases unit : group.unit.seconds? with
    | some seconds =>
      rw [TimeUnit.secondsOf_whole unit]
      rfl
    | none =>
      have same : group.unit = .millisecond := by
        cases other : group.unit with
        | millisecond => rfl
        | week | day | hour | minute | second =>
          rw [other] at unit
          cases unit
      rw [same]
      simp only [TimeUnit.secondsOf, Bind.bind, Except.bind]
      cases checkedDouble _ <;> rfl

end WrittenGroup

/-- What may stand behind the groups of a duration: nothing, or a line break. -/
def endings : List (List Char) := [[], ['\n']]

/-- The text has these groups, weeks first and no unit twice, and an ending. -/
structure IsWritten (groups : List WrittenGroup) (text : List Char) : Prop where
  ordered : (groups.map WrittenGroup.unit).Sublist TimeUnit.all
  spelled : ∃ ending ∈ endings, text = groups.flatMap WrittenGroup.text ++ ending

section Reading

variable {unit : TimeUnit} {units : List TimeUnit} {groups : List WrittenGroup}
  {text ending after : List Char}

private theorem ending_stops (ends : ending ∈ endings) :
    ending.takeWhile isDecimalDigit = [] ∧ ending.head? ≠ some 's' := by
  -- A line break is neither a digit nor the mark of seconds.
  simp only [endings, List.mem_cons, List.not_mem_nil, or_false] at ends
  rcases ends with rfl | rfl
  · simp
  · decide

/-- A mark is told from the others, also that of minutes if no mark of seconds follows it. -/
theorem startsWithMark_mark (unit other : TimeUnit) (differs : after.head? ≠ some 's') :
    startsWithMark unit (other.mark ++ after) = (unit == other) := by
  -- Only minutes and milliseconds start alike, and there the next character decides.
  cases after with
  | nil => cases unit <;> cases other <;> rfl
  | cons c after =>
    have notSecond : ('s' == c) = false := by
      rw [beq_eq_false_iff_ne]
      rintro rfl
      exact differs rfl
    cases unit <;> cases other <;>
      simp only [startsWithMark, TimeUnit.mark, List.cons_append, List.nil_append, List.isPrefixOf,
        notSecond] <;> rfl

/-- No mark starts with a digit. -/
theorem takeWhile_mark (unit : TimeUnit) (after : List Char) :
    (unit.mark ++ after).takeWhile isDecimalDigit = [] := by
  -- The first letter of each mark ends the digits.
  have letters : isDecimalDigit 'w' = false ∧ isDecimalDigit 'd' = false ∧
      isDecimalDigit 'h' = false ∧ isDecimalDigit 'm' = false ∧ isDecimalDigit 's' = false := by
    decide
  obtain ⟨w, d, h, m, s⟩ := letters
  cases unit <;> simp [TimeUnit.mark, w, d, h, m, s]

/-- Without a digit at its start a text has no group there. -/
theorem splitGroup_of_no_digit (none : text.takeWhile isDecimalDigit = []) :
    splitGroup unit text = (.none, text) := by
  -- A group starts with its digits.
  simp [splitGroup, none]

/-- A group at the start of a text is found if it is of the unit that is looked for. -/
theorem splitGroup_group (group : WrittenGroup) (differs : after.head? ≠ some 's') :
    splitGroup unit (group.text ++ after) =
      if unit = group.unit then (some group.read, after) else (none, group.text ++ after) := by
  -- The digits are taken up to the mark, which then decides.
  have digits : (group.text ++ after).takeWhile isDecimalDigit = group.digits := by
    rw [WrittenGroup.text, List.append_assoc, List.takeWhile_append_of_pos group.decimal,
      takeWhile_mark, List.append_nil]
  have behind : (group.text ++ after).drop group.digits.length = group.unit.mark ++ after := by
    rw [WrittenGroup.text, List.append_assoc, List.drop_left]
  have some_digit : group.digits.isEmpty = false := by simpa using group.digits_ne_nil
  simp only [splitGroup, digits, behind, some_digit, startsWithMark_mark unit group.unit differs,
    Bool.not_false, Bool.true_and, beq_iff_eq]
  by_cases same : unit = group.unit
  · subst same
    simp [WrittenGroup.read]
  · simp [same]

/-- No mark of seconds stands where groups or an ending are. -/
theorem head_groups (groups : List WrittenGroup) (ends : ending ∈ endings) :
    (groups.flatMap WrittenGroup.text ++ ending).head? ≠ some 's' := by
  cases groups with
  | nil => exact (ending_stops ends).2
  | cons group groups =>
    -- The first character is a digit.
    obtain ⟨c, digits, split⟩ := List.exists_cons_of_ne_nil group.digits_ne_nil
    have digit : isDecimalDigit c = true := group.decimal c (split ▸ List.mem_cons_self)
    rw [List.flatMap_cons, WrittenGroup.text, split]
    simp only [List.cons_append, List.head?_cons, ne_eq, Option.some.injEq]
    rintro rfl
    exact absurd digit (by decide)

/-- Groups in the order of their units are found one after another, up to the ending. -/
theorem splitGroups_written (distinct : units.Nodup)
    (ordered : (groups.map WrittenGroup.unit).Sublist units) (ends : ending ∈ endings) :
    splitGroups units (groups.flatMap WrittenGroup.text ++ ending) =
      (groups.map WrittenGroup.read, ending) := by
  -- The induction is on the units that may still come; each is used by the next group or passed over.
  induction units generalizing groups with
  | nil =>
    obtain rfl : groups = [] := by simpa using ordered
    rfl
  | cons unit units ih =>
    obtain ⟨fresh, others⟩ := List.nodup_cons.mp distinct
    cases groups with
    | nil =>
      have none : splitGroup unit ending = (.none, ending) :=
        splitGroup_of_no_digit (ending_stops ends).1
      have rest : splitGroups units ending = ([], ending) :=
        @ih [] others (List.nil_sublist units)
      simp [splitGroups, none, rest]
    | cons group groups =>
      have found : splitGroup unit _ = _ := splitGroup_group group (head_groups groups ends)
      rw [List.flatMap_cons, List.append_assoc, splitGroups, found]
      rw [List.map_cons, List.sublist_cons_iff] at ordered
      rcases ordered with later | ⟨_, same, rest⟩
      · -- The unit of the group comes later, so it is another one.
        have differs : unit ≠ group.unit := fun same => fresh (same ▸ later.subset List.mem_cons_self)
        have rest : splitGroups units ((group :: groups).flatMap WrittenGroup.text ++ ending) =
            ((group :: groups).map WrittenGroup.read, ending) := ih others later
        rw [List.flatMap_cons, List.append_assoc] at rest
        simp [differs, rest]
      · obtain ⟨here, rfl⟩ := List.cons_eq_cons.mp same
        simp [here, ih others rest]

/-- A text starts with a group of a unit, which is split off, or it stays as it is. -/
theorem splitGroup_cases (unit : TimeUnit) (text : List Char) :
    (∃ (group : WrittenGroup) (after : List Char), group.unit = unit ∧ text = group.text ++ after ∧
        splitGroup unit text = (some group.read, after)) ∨
      splitGroup unit text = (none, text) := by
  by_cases found : !(text.takeWhile isDecimalDigit).isEmpty &&
      startsWithMark unit (text.drop (text.takeWhile isDecimalDigit).length)
  · -- The group has the digits at the start, and behind them stands the mark.
    obtain ⟨some_digit, marked⟩ := Bool.and_eq_true_iff.mp found
    let group : WrittenGroup :=
      ⟨unit, text.takeWhile isDecimalDigit, by simpa using some_digit,
        fun c member => List.mem_takeWhile_imp member⟩
    obtain ⟨after, behind⟩ : unit.mark <+: text.drop group.digits.length :=
      List.isPrefixOf_iff_prefix.mp (Bool.and_eq_true_iff.mp marked).1
    have rest : (text.drop group.digits.length).drop unit.mark.length = after := by
      rw [← behind, List.drop_left]
    refine .inl ⟨group, after, rfl, ?_, ?_⟩
    · rw [WrittenGroup.text, List.append_assoc, behind]
      exact (List.prefix_iff_eq_append.mp (List.takeWhile_prefix _)).symm
    · simp only [splitGroup, found, if_true]
      exact Prod.ext rfl rest
  · exact .inr (by simp only [splitGroup, found, if_false, Bool.false_eq_true])

/-- What is split off a text was written there. -/
theorem exists_written (units : List TimeUnit) (text : List Char) :
    ∃ groups : List WrittenGroup, (groups.map WrittenGroup.unit).Sublist units ∧
      text = groups.flatMap WrittenGroup.text ++ (splitGroups units text).2 ∧
      (splitGroups units text).1 = groups.map WrittenGroup.read := by
  -- The induction is on the units, each of which takes a group off the text or nothing.
  induction units generalizing text with
  | nil => exact ⟨[], List.Sublist.refl [], rfl, rfl⟩
  | cons unit units ih =>
    rcases splitGroup_cases unit text with ⟨group, after, rfl, whole, split⟩ | split
    · obtain ⟨groups, ordered, written, read⟩ := ih after
      refine ⟨group :: groups, ordered.cons_cons group.unit, ?_, ?_⟩
      · simp only [List.flatMap_cons, List.append_assoc, splitGroups, split, ← written]
        exact whole
      · simp [splitGroups, split, read]
    · obtain ⟨groups, ordered, written, read⟩ := ih text
      refine ⟨groups, ordered.cons unit, ?_, ?_⟩
      · rwa [splitGroups, split]
      · rw [splitGroups, split]
        exact read

/-- A text that is not empty is read as the groups with which it is written. -/
theorem IsWritten.durationGroups? (written : IsWritten groups text) (some_text : text ≠ []) :
    durationGroups? text = some (groups.map WrittenGroup.read) := by
  -- All groups are split off, and only the line break may be left.
  obtain ⟨ending, ends, rfl⟩ := written.spelled
  have split := splitGroups_written (by decide) written.ordered ends
  have ended : ending.isEmpty || ending == ['\n'] := by
    simpa [endings] using ends
  unfold Metric.durationGroups?
  rw [split]
  simp only [ended, Bool.and_true, List.isEmpty_eq_false_iff.mpr some_text, Bool.not_false, if_true]

/-- A text is read as a duration exactly if it is not empty and is written as one. -/
theorem durationGroups?_isSome_iff :
    (durationGroups? text).isSome = true ↔ text ≠ [] ∧ ∃ groups, IsWritten groups text := by
  constructor
  · intro accepted
    obtain ⟨groups, ordered, written, -⟩ := exists_written TimeUnit.all text
    unfold durationGroups? at accepted
    dsimp only at accepted
    split at accepted
    · -- What is left behind the groups is nothing, or a line break.
      rename_i passed
      obtain ⟨some_text, ended⟩ := Bool.and_eq_true_iff.mp passed
      refine ⟨by simpa using some_text, groups, ordered, _, ?_, written⟩
      simpa [endings] using ended
    · cases accepted
  · rintro ⟨some_text, groups, written⟩
    rw [written.durationGroups? some_text]
    rfl

/-- Groups that are read alike and spelled alike are the same. -/
theorem eq_of_read_of_text {others : List WrittenGroup}
    (read : groups.map WrittenGroup.read = others.map WrittenGroup.read)
    (spelled : groups.flatMap WrittenGroup.text = others.flatMap WrittenGroup.text) :
    groups = others := by
  induction groups generalizing others with
  | nil =>
    rw [List.map_nil] at read
    exact (List.map_eq_nil_iff.mp read.symm).symm
  | cons group groups ih =>
    cases others with
    | nil => cases read
    | cons other others =>
      obtain ⟨same, rest⟩ := List.cons_eq_cons.mp read
      obtain ⟨sameUnit, values⟩ := TimeGroup.mk.injEq .. ▸ same
      -- As many digits are read, so the characters of both groups end at the same place.
      have lengths : group.digits.length = other.digits.length := by
        rw [← group.length_values, ← other.length_values, values]
      simp only [List.flatMap_cons, WrittenGroup.text, List.append_assoc] at spelled
      obtain ⟨digits, behind⟩ := List.append_inj spelled lengths
      rw [sameUnit] at behind
      have first : group = other := by
        obtain ⟨_, _, _, _⟩ := group
        obtain ⟨_, _, _, _⟩ := other
        obtain rfl : _ = _ := sameUnit
        obtain rfl : _ = _ := digits
        rfl
      rw [first, ih rest (List.append_cancel_left behind)]

/-- A text is written in one way only. -/
theorem IsWritten.unique {others : List WrittenGroup} (written : IsWritten groups text)
    (writtenToo : IsWritten others text) : groups = others := by
  obtain ⟨ending, ends, rfl⟩ := written.spelled
  obtain ⟨ending', ends', same⟩ := writtenToo.spelled
  -- Both ways are split in the same way, as the text is the same.
  have split := splitGroups_written (by decide) written.ordered ends
  have split' := splitGroups_written (by decide) writtenToo.ordered ends'
  rw [same, split', Prod.mk.injEq] at split
  obtain ⟨read, rfl⟩ := split
  exact eq_of_read_of_text read.symm (List.append_cancel_right same)

end Reading

/-- The seconds of a group are never refused as no duration. -/
theorem TimeGroup.value_ne_badDuration (group : TimeGroup) (text : String) :
    group.value ≠ .error (.rejected (.badDuration text)) := by
  intro refused
  -- An integer is refused for its digits, and a double for its size.
  rcases bind_eq_error_iff.mp refused with failed | ⟨count, -, failed⟩
  · unfold checkedInteger at failed
    split at failed <;> cases failed
  · have inRange : ∀ n, checkedDouble n ≠ .error (.rejected (.badDuration text)) := by
      intro n
      unfold checkedDouble
      split <;> simp
    split at failed
    · exact inRange _ failed
    · rcases bind_eq_error_iff.mp failed with failed | ⟨value, -, failed⟩
      · exact inRange _ failed
      · cases failed

/-- A text is refused as no duration exactly if it has no groups of one. -/
theorem durationValue_eq_badDuration_iff {text : String} :
    durationValue text = .error (.rejected (.badDuration text)) ↔
      durationGroups? text.toList = none := by
  unfold durationValue
  cases durationGroups? text.toList with
  | none => simp
  | some groups =>
    -- A group that is read fails only by being too large.
    refine iff_of_false (fun refused => ?_) (Option.some_ne_none groups)
    obtain ⟨_, group, _, _, _, failed⟩ := foldlM_eq_error_iff.mp refused
    exact group.value_ne_badDuration text failed

/-! Natural numbers of units, written and read back. -/

/-- A plain digit has its value. -/
theorem digitValue?_of_isDigit {c : Char} (plain : c.isDigit = true) :
    digitValue? c = some (c.toNat - '0'.toNat) := by
  -- The plain digits are those of the first script in the table.
  have bounds : 48 ≤ c.toNat ∧ c.toNat ≤ 57 := by
    simpa [Char.isDigit_iff_toNat] using plain
  have table : zeroDigits = 48 :: zeroDigits.tail := rfl
  have found : c.toNat < 48 + 10 := by omega
  rw [digitValue?, table, List.find?_cons_of_pos (by simp [bounds.1, found])]
  rfl

/-- The values of plain digits add up as the digits do. -/
theorem ofDigits_plain {digits : List Char} (plain : ∀ c ∈ digits, c.isDigit = true) (start : Nat) :
    (digits.filterMap digitValue?).foldl (fun value digit => value * 10 + digit) start =
      Nat.ofDigitChars 10 digits start := by
  -- The induction is on the digits, for any value of those before them.
  induction digits generalizing start with
  | nil => rfl
  | cons c digits ih =>
    obtain ⟨first, others⟩ := List.forall_mem_cons.mp plain
    rw [List.filterMap_cons_some (digitValue?_of_isDigit first), List.foldl_cons, ih others,
      Nat.mul_comm]
    rfl

namespace WrittenGroup

/-- A natural number in front of the mark of a unit. -/
def ofNat (unit : TimeUnit) (n : Nat) : WrittenGroup where
  unit := unit
  digits := Decimal.naturalText n
  digits_ne_nil := Nat.toDigits_ne_nil
  decimal c member := by
    have plain : c.isDigit = true := Nat.isDigit_of_mem_toDigits (by decide) (by decide) member
    rw [isDecimalDigit, digitValue?_of_isDigit plain]
    rfl

/-- The integer of a written number is the number. -/
theorem integer_ofNat (unit : TimeUnit) (n : Nat) : (ofNat unit n).integer = n := by
  -- The digits of a number are those of plain text.
  have plain : ∀ c ∈ Nat.toDigits 10 n, c.isDigit = true :=
    fun c member => Nat.isDigit_of_mem_toDigits (by decide) (by decide) member
  calc (ofNat unit n).integer = Nat.ofDigitChars 10 (Nat.toDigits 10 n) 0 := ofDigits_plain plain 0
    _ = n := Nat.ofDigitChars_toDigits (by decide) (by decide)

end WrittenGroup

/-- Numbers of some units as a text: each with the mark of its unit, weeks first. -/
def spelledAmounts (amounts : TimeUnit → Option Nat) : List Char :=
  TimeUnit.all.flatMap fun unit =>
    (amounts unit).elim [] fun n => Decimal.naturalText n ++ unit.mark

/-- The integers of the units that were read. -/
def amountsOf (groups : List TimeGroup) (unit : TimeUnit) : Option Nat :=
  (groups.find? fun group => group.unit == unit).map fun group => Decimal.ofDigits 10 group.digits

section Amounts

variable (amounts : TimeUnit → Option Nat)

/-- The groups with which numbers of some units are written. -/
def groupsOfAmounts : List WrittenGroup :=
  TimeUnit.all.filterMap fun unit => (amounts unit).map (WrittenGroup.ofNat unit)

/-- Numbers of some units are written as a duration. -/
theorem isWritten_spelledAmounts : IsWritten (groupsOfAmounts amounts) (spelledAmounts amounts) where
  ordered := by
    -- Every unit that is used stays in its place.
    have units : (groupsOfAmounts amounts).map WrittenGroup.unit =
        TimeUnit.all.filter fun unit => (amounts unit).isSome := by
      rw [groupsOfAmounts, List.map_filterMap, ← List.filterMap_eq_filter]
      refine List.filterMap_congr fun unit _ => ?_
      cases given : amounts unit <;> simp [Option.guard, given, WrittenGroup.ofNat]
    rw [units]
    exact List.filter_sublist
  spelled := by
    refine ⟨[], List.mem_cons_self, ?_⟩
    rw [List.append_nil, groupsOfAmounts, List.filterMap_eq_flatMap_toList, List.flatMap_assoc]
    refine List.flatMap_congr fun unit _ => ?_
    cases amounts unit <;> simp [WrittenGroup.text, WrittenGroup.ofNat]

/-- The integers that are read of written numbers are the numbers. -/
theorem amountsOf_groupsOfAmounts :
    amountsOf ((groupsOfAmounts amounts).map WrittenGroup.read) = amounts := by
  funext unit
  have read : (groupsOfAmounts amounts).map WrittenGroup.read =
      TimeUnit.all.filterMap fun unit => (amounts unit).map fun n => (WrittenGroup.ofNat unit n).read := by
    simp only [groupsOfAmounts, List.map_filterMap, Option.map_map, Function.comp_def]
  have ofUnit : ∀ other, ((amounts other).map fun n => (WrittenGroup.ofNat other n).read).any
      (fun group => group.unit == unit) = ((amounts other).isSome && other == unit) := by
    intro other
    cases amounts other <;> simp [WrittenGroup.read, WrittenGroup.ofNat]
  -- Every unit comes once, so a group of the unit stands there if it has a number.
  have found : (TimeUnit.all.find? fun other => (amounts other).isSome && other == unit) =
      (amounts unit).map fun _ => unit := by
    cases unit <;> simp [TimeUnit.all, List.find?_cons] <;> cases amounts _ <;> rfl
  simp only [amountsOf, read, List.find?_filterMap, ofUnit, found]
  cases given : amounts unit with
  | none => rfl
  | some n =>
    simp only [Option.map_some, Option.bind_some, given]
    exact congrArg some (WrittenGroup.integer_ofNat unit n)

/-- Numbers of some units are read back, if there are any. -/
theorem durationGroups?_spelledAmounts (some_amount : ∃ unit, (amounts unit).isSome) :
    (durationGroups? (spelledAmounts amounts)).map amountsOf = some amounts := by
  obtain ⟨unit, there⟩ := some_amount
  obtain ⟨n, given⟩ := Option.isSome_iff_exists.mp there
  -- The text has at least the mark of the unit.
  have some_text : spelledAmounts amounts ≠ [] := by
    intro empty
    have all : unit ∈ TimeUnit.all := by cases unit <;> simp [TimeUnit.all]
    have none := List.flatMap_eq_nil_iff.mp empty unit all
    rw [given] at none
    cases unit <;> simp [TimeUnit.mark] at none
  rw [(isWritten_spelledAmounts amounts).durationGroups? some_text, Option.map_some,
    amountsOf_groupsOfAmounts]

end Amounts

/--
A duration is read exactly as it is written.

A text is refused as no duration exactly if it is empty or is not written as one. It is written in one
way only, and the integers of this way are added up with the seconds of their units. Numbers of some
units are read back as they are, and a number of milliseconds is no number of minutes.
-/
theorem duration_read_as_written (text : String) :
    (durationValue text = .error (.rejected (.badDuration text)) ↔
        ¬ (text ≠ "" ∧ ∃ groups, IsWritten groups text.toList)) ∧
      (∀ groups, IsWritten groups text.toList →
        (∀ others, IsWritten others text.toList → others = groups) ∧
          (text ≠ "" →
            durationGroups? text.toList = some (groups.map WrittenGroup.read) ∧
              durationValue text =
                groups.foldlM (fun total group => return total + (← group.seconds)) 0.0)) ∧
      (∀ amounts : TimeUnit → Option Nat, (∃ unit, (amounts unit).isSome) →
        (durationGroups? (spelledAmounts amounts)).map amountsOf = some amounts) ∧
      ∀ n, (durationGroups? (Decimal.naturalText n ++ ['m', 's'])).map amountsOf =
        some fun unit => if unit = .millisecond then some n else none := by
  have some_text : text.toList ≠ [] ↔ text ≠ "" := by simp
  refine ⟨?_, fun groups written => ⟨?_, ?_⟩, ?_, ?_⟩
  · rw [durationValue_eq_badDuration_iff, ← some_text, ← durationGroups?_isSome_iff]
    simp
  · exact fun others writtenToo => writtenToo.unique written
  · intro some
    have read := written.durationGroups? (some_text.mpr some)
    refine ⟨read, ?_⟩
    unfold durationValue
    rw [read]
    -- The values of what is read are the seconds of what is written.
    simp only [List.foldlM_map, WrittenGroup.value_read]
  · exact durationGroups?_spelledAmounts
  · intro n
    have only := durationGroups?_spelledAmounts
      (fun unit => if unit = .millisecond then some n else none) ⟨.millisecond, rfl⟩
    simpa [spelledAmounts, TimeUnit.all, TimeUnit.mark] using only

/-- Ten milliseconds in other digits and a line break may stand behind minutes, but not before them. -/
theorem milliseconds_read_behind_minutes :
    let minutes : WrittenGroup := ⟨.minute, ['2'], by simp, List.all_eq_true.mp (by decide)⟩
    let milliseconds : WrittenGroup := ⟨.millisecond, ['١', '٠'], by simp, List.all_eq_true.mp (by decide)⟩
    IsWritten [minutes, milliseconds] "2m١٠ms\n".toList ∧
      durationGroups? "2m١٠ms\n".toList = some [⟨.minute, [2]⟩, ⟨.millisecond, [1, 0]⟩] ∧
      ¬ ∃ groups, IsWritten groups "10ms2m".toList := by
  intro minutes milliseconds
  have written : IsWritten [minutes, milliseconds] "2m١٠ms\n".toList := by
    refine ⟨?_, ['\n'], by simp [endings], rfl⟩
    change [TimeUnit.minute, .millisecond].Sublist TimeUnit.all
    decide
  have accepted := (duration_read_as_written "2m١٠ms\n").2.1 _ written
  refine ⟨written, (accepted.2 (by decide)).1, fun some => ?_⟩
  -- That there is no way to write the other text follows from its being refused.
  have refused : durationValue "10ms2m" = .error (.rejected (.badDuration "10ms2m")) := by
    decide +kernel
  exact (duration_read_as_written "10ms2m").1.mp refused ⟨by decide, some⟩

end RouterMetrics.Metric
