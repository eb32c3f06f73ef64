import Widgetry.Proofs.Bag.Lookup

/-!
Bags by the order of their names. Sorting a bag whose names are distinct only moves its values, so
nothing that is looked up in it changes; a bag that is in order stays as it is.
-/

namespace Widgetry.Bag

variable {α β : Type}

/-- Each name comes after all those before it. -/
def Ordered (bag : Bag α) : Prop := bag.Pairwise fun a b => a.1 < b.1

instance (bag : Bag α) : Decidable bag.Ordered := inferInstanceAs (Decidable (List.Pairwise _ _))

theorem Ordered.distinct {bag : Bag α} (h : bag.Ordered) : bag.Distinct := by
  refine List.pairwise_map.2 (h.imp ?_)
  intro a b hlt heq
  exact String.lt_irrefl _ (heq ▸ hlt)

/-! ## Sorting -/

theorem mem_names_insertSorted {name other : String} {value : α} {bag : Bag α} :
    other ∈ (insertSorted name value bag).names ↔ other = name ∨ other ∈ bag.names := by
  induction bag with
  | nil => simp [insertSorted, names]
  | cons pair rest ih =>
    obtain ⟨key, old⟩ := pair
    simp only [insertSorted]
    split
    · simp [names]
    · split
      · rename_i h
        simp [names, h]
      · simp only [names, List.map_cons, List.mem_cons] at ih ⊢
        rw [ih]
        exact or_left_comm

theorem Ordered.insertSorted {bag : Bag α} (h : bag.Ordered) (name : String) (value : α) :
    (insertSorted name value bag).Ordered := by
  induction bag with
  | nil => exact List.pairwise_singleton _ _
  | cons pair rest ih =>
    obtain ⟨key, old⟩ := pair
    obtain ⟨hkey, hrest⟩ := List.pairwise_cons.1 h
    simp only [Bag.insertSorted]
    split
    · rename_i hlt
      refine List.pairwise_cons.2 ⟨fun other hother => ?_, h⟩
      rcases List.mem_cons.1 hother with rfl | hother
      · exact hlt
      · exact String.lt_trans hlt (hkey other hother)
    · rename_i hlt
      split
      · exact List.pairwise_cons.2 ⟨hkey, hrest⟩
      · rename_i hne
        refine List.pairwise_cons.2 ⟨fun other hother => ?_, ih hrest⟩
        rcases mem_names_insertSorted.1 (List.mem_map_of_mem hother) with heq | hmem
        · exact heq ▸ Std.lt_of_le_of_ne (String.not_lt.1 hlt) hne
        · obtain ⟨pair, hpair, heq⟩ := List.mem_map.1 hmem
          exact heq ▸ hkey pair hpair

theorem insertSorted_perm {name : String} (value : α) {bag : Bag α} (h : name ∉ bag.names) :
    (insertSorted name value bag).Perm ((name, value) :: bag) := by
  induction bag with
  | nil => exact .refl _
  | cons pair rest ih =>
    obtain ⟨key, old⟩ := pair
    simp only [names, List.map_cons, List.mem_cons, not_or] at h
    simp only [insertSorted]
    split
    · exact .refl _
    · rw [if_neg (Ne.symm h.1)]
      exact ((ih h.2).cons _).trans (.swap _ _ _)

theorem mem_of_mem_insertSorted {name : String} {value : α} {bag : Bag α} {pair : String × α}
    (h : pair ∈ insertSorted name value bag) : pair = (name, value) ∨ pair ∈ bag := by
  induction bag with
  | nil => exact .inl (List.mem_singleton.1 h)
  | cons first rest ih =>
    obtain ⟨key, old⟩ := first
    simp only [insertSorted] at h
    split at h
    · exact List.mem_cons.1 h
    · split at h
      · rename_i hkey
        rw [hkey] at h
        exact (List.mem_cons.1 h).imp_right (List.mem_cons_of_mem _)
      · rcases List.mem_cons.1 h with rfl | h
        · exact .inr (List.mem_cons_self ..)
        · exact (ih h).imp_right (List.mem_cons_of_mem _)

theorem mem_of_mem_foldl (pairs : List (String × α)) {bag : Bag α} {pair : String × α}
    (h : pair ∈ pairs.foldl (fun bag pair => insertSorted pair.1 pair.2 bag) bag) :
    pair ∈ pairs ∨ pair ∈ bag := by
  induction pairs generalizing bag with
  | nil => exact .inr h
  | cons first rest ih =>
    rcases ih h with hrest | hfirst
    · exact .inl (List.mem_cons_of_mem _ hrest)
    · rcases mem_of_mem_insertSorted hfirst with rfl | hbag
      · exact .inl (List.mem_cons_self ..)
      · exact .inr hbag

/-- Sorting adds nothing. -/
theorem mem_of_mem_sorted {pairs : List (String × α)} {pair : String × α}
    (h : pair ∈ sorted pairs) : pair ∈ pairs :=
  (mem_of_mem_foldl pairs h).resolve_right List.not_mem_nil

theorem ordered_foldl (pairs : List (String × α)) {bag : Bag α} (h : bag.Ordered) :
    (pairs.foldl (fun bag pair => insertSorted pair.1 pair.2 bag) bag).Ordered := by
  induction pairs generalizing bag with
  | nil => exact h
  | cons pair rest ih => exact ih (h.insertSorted pair.1 pair.2)

theorem ordered_sorted (pairs : List (String × α)) : (sorted pairs).Ordered :=
  ordered_foldl pairs .nil

theorem foldl_perm (pairs bag : Bag α) (h : Distinct (pairs ++ bag)) :
    (pairs.foldl (fun bag pair => insertSorted pair.1 pair.2 bag) bag).Perm (pairs ++ bag) := by
  induction pairs generalizing bag with
  | nil => exact .refl _
  | cons pair rest ih =>
    have hmiddle : (pair :: (rest ++ bag)).Perm (rest ++ pair :: bag) := List.perm_middle.symm
    have hfresh : pair.1 ∉ bag.names := by
      intro hmem
      refine (List.nodup_cons.1 h).1 ?_
      simpa [names] using Or.inr hmem
    have hperm := insertSorted_perm pair.2 hfresh
    have hdistinct := Distinct.perm h (hmiddle.trans (hperm.symm.append_left rest))
    exact (ih _ hdistinct).trans ((hperm.append_left rest).trans hmiddle.symm)

theorem sorted_perm {pairs : Bag α} (h : pairs.Distinct) : (sorted pairs).Perm pairs := by
  have hperm := foldl_perm pairs [] (by simpa using h)
  rwa [List.append_nil] at hperm

theorem eq_of_perm {bag other : Bag α} (hbag : bag.Ordered) (hother : other.Ordered)
    (perm : bag.Perm other) : bag = other :=
  perm.eq_of_pairwise (fun _ _ _ _ hlt hgt => absurd hgt (String.lt_asymm hlt)) hbag hother

theorem Ordered.sorted_eq {bag : Bag α} (h : bag.Ordered) : sorted bag = bag :=
  eq_of_perm (ordered_sorted bag) h (sorted_perm h.distinct)

@[simp] theorem sorted_sorted (pairs : List (String × α)) : sorted (sorted pairs) = sorted pairs :=
  (ordered_sorted pairs).sorted_eq

theorem insertSorted_map (f : α → β) (name : String) (value : α) (bag : Bag α) :
    insertSorted name (f value) (bag.map fun pair => (pair.1, f pair.2))
      = (insertSorted name value bag).map fun pair => (pair.1, f pair.2) := by
  induction bag with
  | nil => rfl
  | cons pair rest ih =>
    obtain ⟨key, old⟩ := pair
    simp only [List.map_cons, insertSorted, ih]
    split
    · rfl
    · split <;> rfl

/-- The order of names does not depend on their values. -/
theorem sorted_map (f : α → β) (pairs : List (String × α)) :
    sorted (pairs.map fun pair => (pair.1, f pair.2))
      = (sorted pairs).map fun pair => (pair.1, f pair.2) := by
  have hfold : ∀ bag : Bag α,
      (pairs.map fun pair => (pair.1, f pair.2)).foldl
          (fun bag pair => insertSorted pair.1 pair.2 bag) (bag.map fun pair => (pair.1, f pair.2))
        = (pairs.foldl (fun bag pair => insertSorted pair.1 pair.2 bag) bag).map fun pair =>
          (pair.1, f pair.2) := by
    intro bag
    induction pairs generalizing bag with
    | nil => rfl
    | cons pair rest ih =>
      simp only [List.map_cons, List.foldl_cons, insertSorted_map, ih]
  exact hfold []

end Widgetry.Bag
