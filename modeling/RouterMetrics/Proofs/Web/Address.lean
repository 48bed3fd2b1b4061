import Mathlib
import RouterMetrics.Web.Address

/-!
Listening addresses and their ports.

Main statement: an address is read of a text exactly if there are digits of a number behind the last
colon, and its port is this number.
-/

namespace RouterMetrics.Decimal

/-- Only a minus is read as one. -/
theorem eq_minus_of_numeralChar {c : Char} (minus : numeralChar c = '-') : c = '-' := by
  unfold numeralChar at minus
  split at minus
  · exact minus
  · split at minus
    · -- Digits stand behind the minus.
      rename_i value _
      have code := congrArg Char.toNat minus
      rw [Char.toNat_ofNat] at code
      change (if (48 + value).isValidChar then 48 + value else 0) = 45 at code
      split at code <;> omega
    · split at minus
      · exact absurd minus (by decide)
      · exact minus

/-- A number that is written without a minus is not negative. -/
theorem readInteger_nonneg {text : String} {n : Int} (read : readInteger text = .ok n)
    (unsigned : '-' ∉ text.toList) : 0 ≤ n := by
  have noSign : (splitSign (numeralChars text)).1 = false := by
    unfold splitSign
    split
    · rename_i rest signed
      -- The sign is one of the characters of the text.
      have inside : '-' ∈ numeralChars text := by rw [signed]; exact List.mem_cons_self
      unfold numeralChars Text.trimWhile at inside
      have inside := (List.dropWhile_suffix _).subset (List.mem_reverse.mp inside)
      have inside := (List.dropWhile_suffix _).subset (List.mem_reverse.mp inside)
      obtain ⟨c, member, minus⟩ := List.mem_map.mp inside
      exact absurd (eq_minus_of_numeralChar minus ▸ member) unsigned
    · rfl
    · rfl
  unfold readInteger readIntegerIn at read
  simp only [noSign] at read
  split at read
  · cases read
  · split at read
    · cases read
    · split at read
      · cases read
      · cases read
        exact Int.natCast_nonneg _

end RouterMetrics.Decimal

namespace RouterMetrics.Web

/-- The port of a listening address: the number in the digits behind its last colon. -/
def PortIn (text : String) (port : Int) : Prop :=
  ∃ host digits, text.toList = host ++ ':' :: digits ∧ digits ≠ [] ∧
    (∀ c ∈ digits, Text.isDigit c = true) ∧ Decimal.readInteger (String.ofList digits) = .ok port

/-- A text is split at a colon behind which there is none. -/
theorem splitAtLastColon_append (host : List Char) {port : List Char} (last : ':' ∉ port) :
    splitAtLastColon (host ++ ':' :: port) = some (host, port) := by
  have behind : ∀ c ∈ port.reverse, (c != ':') = true := by
    intro c member
    rw [bne_iff_ne]
    rintro rfl
    exact last (List.mem_reverse.mp member)
  have taken : ((host ++ ':' :: port).reverse.takeWhile (· != ':')).reverse = port := by
    simp [List.takeWhile_append_of_pos behind]
  unfold splitAtLastColon
  simp only [taken]
  -- What is left of the text ends with the colon.
  have before : (host ++ ':' :: port).take ((host ++ ':' :: port).length - port.length) =
      host ++ [':'] := by
    have size : (host ++ ':' :: port).length - port.length = (host ++ [':']).length := by
      simp only [List.length_append, List.length_cons, List.length_nil]
      omega
    rw [size, show host ++ ':' :: port = host ++ [':'] ++ port by simp, List.take_left]
  rw [before]
  simp

/-- The halves of a text stand before and behind one of its colons. -/
theorem eq_of_splitAtLastColon {text host port : List Char}
    (split : splitAtLastColon text = some (host, port)) : text = host ++ ':' :: port := by
  by_cases there : ':' ∈ text.reverse
  · -- The last colon is the first one from behind.
    obtain ⟨behind, before, turned, first⟩ := List.eq_append_cons_of_mem there
    have whole : text = before.reverse ++ ':' :: behind.reverse := by
      rw [← List.reverse_reverse text, turned]
      simp
    rw [whole, splitAtLastColon_append _ (by simpa using first)] at split
    cases split
    exact whole
  · have all : text.reverse.takeWhile (· != ':') = text.reverse := by
      refine List.takeWhile_eq_self_iff.mpr fun c member => bne_iff_ne.mpr ?_
      rintro rfl
      exact there member
    unfold splitAtLastColon at split
    simp [all] at split

/-- An address is read exactly from texts with a port, and it has this port. -/
theorem exists_read_iff {text : String} {port : Int} :
    (∃ host, Address.read text = .ok ⟨host, port⟩) ↔ PortIn text port := by
  constructor
  · -- What is behind the last colon is some digits, and these are the port.
    rintro ⟨host, read⟩
    unfold Address.read at read
    split at read
    · cases read
    · rename_i before digits split
      split at read
      · cases read
      · rename_i legible
        simp only [Bool.or_eq_true, List.isEmpty_iff, Bool.not_eq_true', not_or, Bool.not_eq_false,
          List.all_eq_true] at legible
        split at read
        · cases read
        · rename_i number
          cases read
          exact ⟨before, digits, eq_of_splitAtLastColon split, legible.1, legible.2, number⟩
  · rintro ⟨before, digits, whole, some, legible, number⟩
    -- The colon is the last one, as there is none among digits.
    have last : ':' ∉ digits := fun member => absurd (legible ':' member) (by decide +kernel)
    have all : digits.all Text.isDigit = true := List.all_eq_true.mpr legible
    unfold Address.read
    rw [whole, splitAtLastColon_append before last]
    simp [some, all, number]

/-- The port of an address is not negative. -/
theorem PortIn.nonneg {text : String} {port : Int} (told : PortIn text port) : 0 ≤ port := by
  -- There is no sign among digits.
  obtain ⟨-, digits, -, -, legible, number⟩ := told
  refine Decimal.readInteger_nonneg number fun minus => ?_
  rw [String.toList_ofList] at minus
  exact absurd (legible _ minus) (by decide +kernel)

end RouterMetrics.Web
