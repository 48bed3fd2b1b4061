import RouterMetrics.Metric.Converter
import RouterMetrics.Proofs.Decimal.Counting
import RouterMetrics.Proofs.Lists

/-!
Converters that never give a number beyond the range of doubles, and durations, which can.

Main statement: a duration is beyond the range exactly if one of its groups is, behind groups that can
be read.
-/

namespace RouterMetrics.Metric

/-- A converter never ends beyond the range of doubles. -/
def NeverOverflows {α : Type} (convert : String → Except ConversionFault α) : Prop :=
  ∀ text, convert text ≠ .error .overflow

/-- Numbers that are too large are read as infinite. -/
theorem numberValue_neverOverflows : NeverOverflows numberValue := by
  intro text
  unfold numberValue
  -- A text that is no number is rejected, which is another fault.
  split <;> simp

/-- A flag is one or zero. -/
theorem flagValue_neverOverflows : NeverOverflows flagValue := fun _ => by simp [flagValue]

/-- A constant is one. -/
theorem constantValue_neverOverflows : NeverOverflows constantValue :=
  fun _ => by simp [constantValue]

/-- The state of a link is one or zero. -/
theorem linkStatusValue_neverOverflows : NeverOverflows linkStatusValue :=
  fun _ => by simp [linkStatusValue]

/-- The rate of a link is one of those in the table, or zero. -/
theorem rateValue_neverOverflows : NeverOverflows rateValue := fun _ => by simp [rateValue]

/-- A half of a pair is read as a number is. -/
theorem pairHalf_ne_overflow (text half : String) : pairHalf text half ≠ .error .overflow := by
  -- A refused half is told with its pair, and any other one is read as a number.
  have number := numberValue_neverOverflows half
  unfold pairHalf
  split
  · simp
  · exact number

/-- A pair is beyond the range only if one of its halves is. -/
theorem pairValue_neverOverflows (separator : String) : NeverOverflows (pairValue separator) := by
  intro text
  unfold pairValue
  -- A text without two halves is rejected before they are read.
  split
  · simp
  split
  · simp
  split
  · simp
  · rename_i first second _
    simp only [Bind.bind, Except.bind, Pure.pure, Except.pure]
    -- The first half that fails gives the fault of the pair.
    cases left : pairHalf text first with
    | error fault =>
      intro overflow
      cases overflow
      exact pairHalf_ne_overflow text first left
    | ok value =>
      cases right : pairHalf text second with
      | error fault =>
        intro overflow
        simp only [Except.error.injEq] at overflow
        exact pairHalf_ne_overflow text second (overflow ▸ right)
      | ok other => simp

private theorem checkedDouble_cases (n : Nat) :
    n < Decimal.rangeLimit ∧ (∃ value, checkedDouble n = .ok value) ∨
      Decimal.rangeLimit ≤ n ∧ checkedDouble n = .error .overflow := by
  -- There is a double exactly below the limit.
  unfold checkedDouble
  cases converted : Decimal.doubleOfNat? n with
  | none => exact .inr ⟨Decimal.doubleOfNat?_eq_none_iff.mp converted, rfl⟩
  | some value =>
    refine .inl ⟨Nat.lt_of_not_le fun beyond => ?_, value, rfl⟩
    rw [Decimal.doubleOfNat?_eq_none_iff.mpr beyond] at converted
    cases converted

namespace TimeGroup

/-- The number of a group, in seconds where its unit has whole seconds. -/
def amount (group : TimeGroup) : Nat :=
  Decimal.ofDigits 10 group.digits * group.unit.seconds?.getD 1

/-- The group is read: its digits are not too many, and its number is within the range of doubles. -/
def InRange (group : TimeGroup) : Prop :=
  group.digits.length ≤ Decimal.digitLimit ∧ group.amount < Decimal.rangeLimit

/-- The digits of the group are not too many, but its number is beyond the range of doubles. -/
def Beyond (group : TimeGroup) : Prop :=
  group.digits.length ≤ Decimal.digitLimit ∧ Decimal.rangeLimit ≤ group.amount

instance (group : TimeGroup) : Decidable group.InRange := inferInstanceAs (Decidable (_ ∧ _))

instance (group : TimeGroup) : Decidable group.Beyond := inferInstanceAs (Decidable (_ ∧ _))

/-- A group is rejected for its digits, within the range, or beyond it. -/
theorem value_cases (group : TimeGroup) :
    (∃ fault, group.value = .error (.rejected fault)) ∧ Decimal.digitLimit < group.digits.length ∨
      (∃ value, group.value = .ok value) ∧ group.InRange ∨
      group.value = .error .overflow ∧ group.Beyond := by
  unfold InRange Beyond value checkedInteger amount
  by_cases long : Decimal.digitLimit < group.digits.length
  · exact .inl ⟨⟨_, by rw [if_pos long]; rfl⟩, long⟩
  · have short := Nat.le_of_not_lt long
    simp only [if_neg long, Bind.bind, Except.bind]
    -- A whole unit is multiplied before the conversion, and milliseconds are after it.
    cases unit : group.unit.seconds? with
    | some seconds =>
      rcases checkedDouble_cases (Decimal.ofDigits 10 group.digits * seconds) with
        ⟨below, value, converted⟩ | ⟨beyond, failed⟩
      · exact .inr (.inl ⟨⟨value, converted⟩, short, below⟩)
      · exact .inr (.inr ⟨failed, short, beyond⟩)
    | none =>
      simp only [Option.getD_none, Nat.mul_one]
      rcases checkedDouble_cases (Decimal.ofDigits 10 group.digits) with
        ⟨below, value, converted⟩ | ⟨beyond, failed⟩
      · exact .inr (.inl ⟨⟨_, by rw [converted]; rfl⟩, short, below⟩)
      · exact .inr (.inr ⟨by rw [failed], short, beyond⟩)

/-- A group has a value exactly if it is within the range. -/
theorem exists_value_iff {group : TimeGroup} :
    (∃ value, group.value = .ok value) ↔ group.InRange := by
  -- Each of the three cases tells whether there is a value.
  rcases group.value_cases with ⟨⟨fault, failed⟩, long⟩ | ⟨found, inRange⟩ | ⟨failed, beyond⟩
  · exact iff_of_false (by simp [failed]) fun inRange => absurd inRange.1 (Nat.not_le_of_lt long)
  · exact iff_of_true found inRange
  · exact iff_of_false (by simp [failed]) fun inRange =>
      absurd beyond.2 (Nat.not_le_of_lt inRange.2)

/-- A group overflows exactly if it is beyond the range. -/
theorem value_overflows_iff {group : TimeGroup} : group.value = .error .overflow ↔ group.Beyond := by
  -- Each of the three cases tells whether the value overflows.
  rcases group.value_cases with ⟨⟨fault, failed⟩, long⟩ | ⟨⟨value, found⟩, inRange⟩ |
    ⟨failed, beyond⟩
  · exact iff_of_false (by simp [failed]) fun beyond => absurd beyond.1 (Nat.not_le_of_lt long)
  · exact iff_of_false (by simp [found]) fun beyond => absurd beyond.2 (Nat.not_le_of_lt inRange.2)
  · exact iff_of_true failed beyond

end TimeGroup

/-- The text is a duration with a group beyond the range, and all groups before it are within. -/
def GoesBeyond (text : String) : Prop :=
  ∃ before group after, durationGroups? text.toList = some (before ++ group :: after) ∧
    (∀ earlier ∈ before, TimeGroup.InRange earlier) ∧ group.Beyond

/-- A duration overflows exactly if it has a group beyond the range, behind groups within. -/
theorem durationValue_overflows_iff {text : String} :
    durationValue text = .error .overflow ↔ GoesBeyond text := by
  unfold durationValue GoesBeyond
  cases durationGroups? text.toList with
  | none => simp
  | some groups =>
    -- Adding up fails where the values of the groups do.
    simp only [foldlM_eq_error_iff, TimeGroup.exists_value_iff, TimeGroup.value_overflows_iff,
      Option.some.injEq]

end RouterMetrics.Metric
