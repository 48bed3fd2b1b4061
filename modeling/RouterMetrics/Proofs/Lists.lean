import Mathlib

/-! Steps that may fail: two in turn, and one for each item of a list; and lists in pairs. -/

namespace RouterMetrics

/-- What two steps in turn give is what the second gives after the first. -/
theorem ok_of_bind {ε α β : Type} {step : Except ε α} {next : α → Except ε β} {result : β}
    (ran : step >>= next = .ok result) : ∃ given, step = .ok given ∧ next given = .ok result := by
  -- A step with a fault gives nothing to go on with.
  cases step with
  | error fault => cases ran
  | ok given => exact ⟨given, rfl, ran⟩

/-- Two steps in turn give something exactly if the second does after what the first gives. -/
theorem exists_ok_bind_iff {ε α β : Type} {step : Except ε α} {next : α → Except ε β} :
    (∃ result, step >>= next = .ok result) ↔
      ∃ given, step = .ok given ∧ ∃ result, next given = .ok result := by
  constructor
  · rintro ⟨result, ran⟩
    obtain ⟨given, made, ran⟩ := ok_of_bind ran
    exact ⟨given, made, result, ran⟩
  · -- The first step gives what the second one needs.
    rintro ⟨given, rfl, result, ran⟩
    exact ⟨result, ran⟩

/-- What holds of whatever a step gives, which gives something, holds of something that it gives. -/
theorem exists_ok_and_iff {ε α : Type} {step : Except ε α} {holds : α → Prop} :
    (∃ given, step = .ok given ∧ holds given) ↔
      (∃ given, step = .ok given) ∧ ∀ given, step = .ok given → holds given := by
  -- A step gives one thing at most.
  cases step <;> simp

/-- Something is made of what a step gives exactly if the step gives anything. -/
theorem exists_ok_bind_pure_iff {ε α β : Type} {step : Except ε α} {make : α → β} :
    (∃ result, (step >>= fun given => pure (make given)) = .ok result) ↔
      ∃ given, step = .ok given := by
  -- What is made of something given is given in any case.
  rw [exists_ok_bind_iff]
  exact exists_congr fun given => and_iff_left ⟨make given, rfl⟩

/-- Two steps in turn fail with the fault of the first, or with that of the second after it. -/
theorem bind_eq_error_iff {ε α β : Type} {step : Except ε α} {next : α → Except ε β} {fault : ε} :
    step >>= next = .error fault ↔
      step = .error fault ∨ ∃ given, step = .ok given ∧ next given = .error fault := by
  -- The fault of the first step is that of both; else the second one decides.
  cases step with
  | error other => simp [Bind.bind, Except.bind]
  | ok given => simp [Bind.bind, Except.bind]

/-- What is given under another fault is given. -/
theorem ok_of_mapError {ε δ α : Type} {step : Except ε α} {tell : ε → δ} {result : α}
    (ran : step.mapError tell = .ok result) : step = .ok result := by
  -- Telling a fault in another way makes no result of it.
  cases step with
  | error fault => cases ran
  | ok given =>
    cases ran
    rfl

/-- What fails also if something is made of it fails as such. -/
theorem error_of_map {ε α β : Type} {step : Except ε α} {make : α → β} {fault : ε}
    (failed : step.map make = .error fault) : step = .error fault := by
  -- A result stays one when something is made of it.
  cases step with
  | error other =>
    cases failed
    rfl
  | ok given => cases failed

variable {α β : Type} {image : α → Option β} {items : List α}

/-- Where there is a result, no fault was met. -/
theorem ok_of_toOption {ε α : Type} {step : Except ε α} {result : α}
    (there : step.toOption = some result) : step = .ok result := by
  -- A fault leaves nothing where a result could be.
  cases step with
  | error fault => cases there
  | ok given =>
    cases there
    rfl

/-- Of the items with some property one is the first. -/
theorem exists_first {holds : α → Prop} (found : ∃ item ∈ items, holds item) :
    ∃ before item after, items = before ++ item :: after ∧
      (∀ earlier ∈ before, ¬ holds earlier) ∧ holds item := by
  induction items with
  | nil => simp at found
  | cons item items ih =>
    by_cases own : holds item
    · -- The first item itself has the property, and none stands before it.
      exact ⟨[], item, items, rfl, fun _ none => absurd none List.not_mem_nil, own⟩
    · have later : ∃ item ∈ items, holds item := by simpa [own] using found
      obtain ⟨before, first, after, rfl, others, met⟩ := ih later
      exact ⟨item :: before, first, after, rfl, List.forall_mem_cons.mpr ⟨own, others⟩, met⟩

/-- A list has no image exactly if one of its items has none. -/
theorem mapM_eq_none_iff : items.mapM image = none ↔ ∃ item ∈ items, image item = none := by
  induction items with
  | nil => simp
  | cons item items ih =>
    -- The image of a list fails with that of its first item, or with that of the others.
    have step : (item :: items).mapM image = none ↔ image item = none ∨ items.mapM image = none := by
      rw [List.mapM_cons]
      cases image item <;> cases items.mapM image <;> simp
    rw [step, ih]
    simp

/-- A list has an image exactly if each of its items has one, in the same place. -/
theorem mapM_eq_some_iff {images : List β} :
    items.mapM image = some images ↔ items.map image = images.map some := by
  -- The induction is on the items; the first of them has an image, and so have the others.
  induction items generalizing images with
  | nil => cases images <;> simp
  | cons item items ih =>
    rw [List.mapM_cons, List.map_cons]
    cases images with
    | nil => cases image item <;> cases items.mapM image <;> simp
    | cons first others =>
      rw [List.map_cons, List.cons.injEq, ← ih]
      cases image item <;> cases items.mapM image <;> simp

/-- Items are all kept under a condition exactly if each of them meets it. -/
theorem map_ite_eq_map_some {kept : α → Prop} [DecidablePred kept] {items others : List α} :
    items.map (fun item => if kept item then some item else none) = others.map some ↔
      others = items ∧ ∀ item ∈ others, kept item := by
  induction items generalizing others with
  | nil => cases others <;> simp
  | cons item items ih =>
    cases others with
    | nil => simp
    | cons other others =>
      rw [List.map_cons, List.map_cons, List.cons.injEq, ih]
      -- An item that does not meet the condition has nothing in its place.
      by_cases meets : kept item
      · simp only [if_pos meets, Option.some.injEq, List.cons.injEq, List.forall_mem_cons]
        constructor
        · rintro ⟨rfl, rfl, rest⟩
          exact ⟨⟨rfl, rfl⟩, meets, rest⟩
        · rintro ⟨⟨rfl, rfl⟩, -, rest⟩
          exact ⟨rfl, rfl, rest⟩
      · simp only [if_neg meets, List.cons.injEq, List.forall_mem_cons]
        refine iff_of_false (by simp) ?_
        rintro ⟨⟨rfl, -⟩, own, -⟩
        exact meets own

/-- In the image of a list stands the image of every item. -/
theorem mem_of_mapM {images : List β} (mapped : items.mapM image = some images) {item : α}
    (member : item ∈ items) : ∃ result ∈ images, image item = some result := by
  -- The induction is on the items: the image of the first stands before those of the others.
  induction items generalizing images with
  | nil => exact absurd member List.not_mem_nil
  | cons first items ih =>
    simp only [List.mapM_cons, Option.bind_eq_bind, Option.bind_eq_some_iff, Option.pure_def,
      Option.some.injEq] at mapped
    obtain ⟨result, found, results, others, rfl⟩ := mapped
    rcases List.mem_cons.mp member with rfl | later
    · exact ⟨result, List.mem_cons_self, found⟩
    · obtain ⟨own, inside, same⟩ := ih others later
      exact ⟨own, List.mem_cons_of_mem _ inside, same⟩

/-- In a list that goes with another one, every item goes with one of the other. -/
theorem exists_of_forall₂ {goes : α → β → Prop} {items : List α} {images : List β}
    (pairs : List.Forall₂ goes items images) {result : β} (member : result ∈ images) :
    ∃ item ∈ items, goes item result := by
  -- The induction is on the pairs: an image belongs to the first item or to a later one.
  induction pairs with
  | nil => exact absurd member List.not_mem_nil
  | @cons item own items images first _ ih =>
    rcases List.mem_cons.mp member with rfl | later
    · exact ⟨item, List.mem_cons_self, first⟩
    · obtain ⟨other, inside, same⟩ := ih later
      exact ⟨other, List.mem_cons_of_mem _ inside, same⟩

/-- Lists that go with the same list go with each other. -/
theorem forall₂_trans {γ : Type} {goes : α → β → Prop} {leads : β → γ → Prop} {joins : α → γ → Prop}
    {items : List α} {images : List β} {ends : List γ} (first : List.Forall₂ goes items images)
    (second : List.Forall₂ leads images ends)
    (join : ∀ item, ∀ image ∈ images, ∀ last,
      goes item image → leads image last → joins item last) :
    List.Forall₂ joins items ends := by
  -- The pairs of both lists are gone through together.
  induction first generalizing ends with
  | nil =>
    cases second
    exact .nil
  | cons goes _ ih =>
    cases second with
    | cons leads rest =>
      exact .cons (join _ _ List.mem_cons_self _ goes leads)
        (ih rest fun item image member => join item image (List.mem_cons_of_mem _ member))

/-- The image of a list goes with it item by item, where each may fail. -/
theorem forall₂_of_mapM {ε : Type} {image : α → Except ε β} {items : List α} {images : List β}
    (mapped : items.mapM image = .ok images) :
    List.Forall₂ (fun item result => image item = .ok result) items images := by
  induction items generalizing images with
  | nil =>
    cases mapped
    exact .nil
  | cons item items ih =>
    rw [List.mapM_cons] at mapped
    cases first : image item with
    | error fault => simp [first, bind, Except.bind] at mapped
    | ok own =>
      cases rest : items.mapM image with
      | error fault => simp [first, rest, bind, Except.bind] at mapped
      | ok results =>
        -- Both the first item and the others have been mapped.
        simp only [first, rest, bind, Except.bind, pure, Except.pure, Except.ok.injEq] at mapped
        subst mapped
        exact .cons first (ih rest)

/-- In the image of a list stand only images of its items, where each may fail. -/
theorem exists_of_mem_mapM {ε : Type} {image : α → Except ε β} {items : List α} {images : List β}
    (mapped : items.mapM image = .ok images) {result : β} (member : result ∈ images) :
    ∃ item ∈ items, image item = .ok result :=
  -- A mapped list goes with its images, each item with its own.
  exists_of_forall₂ (forall₂_of_mapM mapped) member

/-- Where a list is mapped as a whole each of its items is mapped. -/
theorem exists_ok_of_mem_mapM {ε : Type} {image : α → Except ε β} {items : List α}
    {images : List β} (mapped : items.mapM image = .ok images) {item : α} (member : item ∈ items) :
    ∃ result, image item = .ok result := by
  -- The pairs are looked at from the side of the images.
  obtain ⟨result, -, own⟩ := exists_of_forall₂ (forall₂_of_mapM mapped).flip member
  exact ⟨result, own⟩

/-- A list is mapped as a whole where each of its items is mapped. -/
theorem exists_mapM {ε : Type} {image : α → Except ε β} {items : List α}
    (each : ∀ item ∈ items, ∃ result, image item = .ok result) :
    ∃ images, items.mapM image = .ok images := by
  -- The induction is on the items, none of which stops the whole.
  induction items with
  | nil => exact ⟨[], rfl⟩
  | cons item items ih =>
    obtain ⟨⟨own, first⟩, others⟩ := List.forall_mem_cons.mp each
    obtain ⟨images, rest⟩ := ih others
    exact ⟨own :: images, by rw [List.mapM_cons, first, rest]; rfl⟩

/-- A list is mapped as a whole exactly if each of its items is mapped. -/
theorem exists_ok_mapM_iff {ε : Type} {image : α → Except ε β} {items : List α} :
    (∃ images, items.mapM image = .ok images) ↔ ∀ item ∈ items, ∃ result, image item = .ok result :=
  ⟨fun ⟨_, mapped⟩ _ => exists_ok_of_mem_mapM mapped, exists_mapM⟩

/-- The first halves of pairs are the keys as far as there are values for them. -/
theorem prefix_fst_zip (keys : List α) (values : List β) :
    (keys.zip values).map Prod.fst <+: keys := by
  -- The keys are taken as long as there are values.
  induction keys generalizing values with
  | nil => simp
  | cons key keys ih => cases values <;> simp [ih]

/-- The images of a list fail with the fault of an item, behind items that all have images. -/
theorem mapM_eq_error_iff {ε : Type} {image : α → Except ε β} {items : List α} {fault : ε} :
    items.mapM image = .error fault ↔
      ∃ before item after, items = before ++ item :: after ∧
        (∀ earlier ∈ before, ∃ result, image earlier = .ok result) ∧ image item = .error fault := by
  induction items with
  | nil =>
    refine iff_of_false (fun same => ?_) ?_
    · cases same
    · rintro ⟨before, item, after, split, -⟩
      exact List.append_ne_nil_of_right_ne_nil before (List.cons_ne_nil item after) split.symm
  | cons first items ih =>
    rw [List.mapM_cons, bind_eq_error_iff]
    constructor
    · rintro (failed | ⟨given, made, rest⟩)
      · exact ⟨[], first, items, rfl, by simp, failed⟩
      · -- The first item has an image, so it stands before the one that fails.
        rcases bind_eq_error_iff.mp rest with later | ⟨_, _, impossible⟩
        · obtain ⟨before, item, after, rfl, earlier, failed⟩ := ih.mp later
          exact ⟨first :: before, item, after, rfl,
            List.forall_mem_cons.mpr ⟨⟨given, made⟩, earlier⟩, failed⟩
        · cases impossible
    · rintro ⟨before, item, after, split, earlier, failed⟩
      rcases List.append_eq_cons_iff.mp split.symm with ⟨rfl, same⟩ | ⟨others, rfl, rfl⟩
      · cases same
        exact .inl failed
      · obtain ⟨⟨given, made⟩, others⟩ := List.forall_mem_cons.mp earlier
        refine .inr ⟨given, made, bind_eq_error_iff.mpr (.inl ?_)⟩
        exact ih.mpr ⟨_, item, after, rfl, others, failed⟩

/-- Adding up what items give fails with the fault of an item, behind items that all give something. -/
theorem foldlM_eq_error_iff {ε γ : Type} {give : α → Except ε β} {add : γ → β → γ} {start : γ}
    {items : List α} {fault : ε} :
    items.foldlM (fun total item => do return add total (← give item)) start = .error fault ↔
      ∃ before item after, items = before ++ item :: after ∧
        (∀ earlier ∈ before, ∃ result, give earlier = .ok result) ∧ give item = .error fault := by
  rw [← mapM_eq_error_iff]
  -- The items are added to the total one by one, or mapped as a whole before.
  induction items generalizing start with
  | nil => exact iff_of_false nofun nofun
  | cons item items ih =>
    rw [List.foldlM_cons, List.mapM_cons]
    cases given : give item with
    | error other => simp [Bind.bind, Except.bind]
    | ok result =>
      have rest := @ih (add start result)
      simp only [Bind.bind, Except.bind, Pure.pure, Except.pure] at rest ⊢
      rw [rest]
      cases items.mapM give <;> simp

/-- Where all items have images, the images are those that they have. -/
theorem filterMap_of_mapM {ε : Type} {image : α → Except ε β} {items : List α} {images : List β}
    (mapped : items.mapM image = .ok images) :
    images = items.filterMap fun item => (image item).toOption := by
  -- No item is left out, as each of them has an image.
  have pairs := forall₂_of_mapM mapped
  clear mapped
  induction pairs with
  | nil => rfl
  | cons own _ ih => rw [List.filterMap_cons_some (by rw [own]; rfl), ← ih]

/-- An image among those that items have stands behind those of the items before it that have any. -/
theorem getElem?_filterMap_iff {index : Nat} {result : β} :
    (items.filterMap image)[index]? = some result ↔ ∃ position item, items[position]? = some item ∧
      image item = some result ∧
      (items.take position).countP (fun item => (image item).isSome) = index := by
  induction items generalizing index with
  | nil => simp
  | cons first items ih =>
    -- The first item has the first image, or it has none and changes nothing.
    cases own : image first with
    | none =>
      rw [List.filterMap_cons_none own, ih]
      constructor
      · rintro ⟨position, item, there, made, rfl⟩
        exact ⟨position + 1, item, there, made, by simp [own]⟩
      · rintro ⟨position, item, there, made, rfl⟩
        cases position with
        | zero =>
          obtain rfl : first = item := Option.some.inj there
          cases own.symm.trans made
        | succ position => exact ⟨position, item, there, made, by simp [own]⟩
    | some image =>
      rw [List.filterMap_cons_some own]
      cases index with
      | zero =>
        constructor
        · intro there
          exact ⟨0, first, rfl, own.trans there, rfl⟩
        · rintro ⟨position, item, there, made, none⟩
          cases position with
          | zero =>
            obtain rfl : first = item := Option.some.inj there
            exact own.symm.trans made
          | succ position => simp [own] at none
      | succ index =>
        rw [List.getElem?_cons_succ, ih]
        constructor
        · rintro ⟨position, item, there, made, rfl⟩
          exact ⟨position + 1, item, there, made, by simp [own]⟩
        · rintro ⟨position, item, there, made, behind⟩
          cases position with
          | zero => simp at behind
          | succ position => exact ⟨position, item, there, made, by simpa [own] using behind⟩

/-- The pieces between the occurrences of a separator do not have it in them. -/
theorem not_mem_of_mem_splitOn [BEq α] [LawfulBEq α] (separator : α) (items : List α) :
    ∀ piece ∈ items.splitOn separator, separator ∉ piece := by
  induction items with
  | nil => simp
  | cons item items ih =>
    rw [List.splitOn_cons_eq_if_modifyHead]
    split
    · exact List.forall_mem_cons.mpr ⟨List.not_mem_nil, ih⟩
    · rename_i other
      -- An item that does not separate stands at the head of the first piece.
      cases pieces : items.splitOn separator with
      | nil => exact absurd pieces (List.splitOn_ne_nil separator items)
      | cons first later =>
        rw [pieces] at ih
        obtain ⟨head, tail⟩ := List.forall_mem_cons.mp ih
        refine List.forall_mem_cons.mpr ⟨?_, tail⟩
        rw [List.mem_cons, not_or]
        exact ⟨fun same => other (by simp [same]), head⟩

/-- Joined pieces are told apart exactly if none of them has the separator in it. -/
theorem splitOn_intercalate_iff [BEq α] [LawfulBEq α] (separator : α) {pieces : List (List α)}
    (some : pieces ≠ []) :
    ([separator].intercalate pieces).splitOn separator = pieces ↔
      ∀ piece ∈ pieces, separator ∉ piece :=
  -- A piece with the separator in it would be taken apart itself.
  ⟨fun same => same ▸ not_mem_of_mem_splitOn separator _, fun apart =>
    List.splitOn_intercalate separator apart some⟩

end RouterMetrics
