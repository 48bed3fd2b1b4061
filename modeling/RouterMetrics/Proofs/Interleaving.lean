import Mathlib

/-!
Interleavings: some lists woven into one, each of them in its own order.

Nothing is lost in an interleaving, and nothing comes twice.
-/

namespace RouterMetrics

variable {α β : Type}

/-- A list that takes the first of some list again and again, until none of the lists has any left. -/
inductive Interleaving : List (List α) → List α → Prop
  | done {lists : List (List α)} (empty : ∀ list ∈ lists, list = []) : Interleaving lists []
  | step {before after : List (List α)} {first : α} {rest merged : List α}
      (later : Interleaving (before ++ rest :: after) merged) :
      Interleaving (before ++ (first :: rest) :: after) (first :: merged)

namespace Interleaving

/-- An interleaving has what the lists have, as often as they have it. -/
theorem perm {lists : List (List α)} {merged : List α} (woven : Interleaving lists merged) :
    merged.Perm lists.flatten := by
  induction woven with
  | @done lists empty =>
    rw [List.flatten_eq_nil_iff.mpr empty]
  | @step before after first rest merged _ ih =>
    -- The first item is brought to its place behind the lists before its own.
    have behind : (before ++ (first :: rest) :: after).flatten =
        before.flatten ++ first :: (rest ++ after.flatten) := by simp
    rw [behind]
    refine (List.Perm.cons first ?_).trans List.perm_middle.symm
    simpa using ih

/-- What is left of an interleaving when each item is replaced or left out is one of what is left. -/
theorem filterMap (f : α → Option β) {lists : List (List α)} {merged : List α}
    (woven : Interleaving lists merged) :
    Interleaving (lists.map (List.filterMap f)) (merged.filterMap f) := by
  induction woven with
  | @done lists empty =>
    refine .done fun list member => ?_
    obtain ⟨source, known, rfl⟩ := List.mem_map.mp member
    rw [empty source known]
    rfl
  | @step before after first rest merged _ ih =>
    simp only [List.map_append, List.map_cons, List.filterMap_cons] at ih ⊢
    cases f first with
    -- An item that is left out is missing in its list and in the whole.
    | none => exact ih
    | some image => exact .step ih

private theorem drop_nil {lists : List (List α)} {merged : List α}
    (woven : Interleaving lists merged) : Interleaving ([] :: lists) merged := by
  -- A list without items adds nothing.
  induction woven with
  | done empty => exact .done (by simpa using empty)
  | @step before after first rest merged _ ih => exact @step α ([] :: before) after first rest merged ih

/-- The lists one after another are an interleaving of them. -/
theorem flatten (lists : List (List α)) : Interleaving lists lists.flatten := by
  induction lists with
  | nil => exact .done (by simp)
  | cons list lists ih =>
    -- The first list is emptied item by item, and then the others follow.
    induction list with
    | nil => exact ih.drop_nil
    | cons first rest ihRest => exact @step α [] lists first rest _ ihRest

end Interleaving

end RouterMetrics
