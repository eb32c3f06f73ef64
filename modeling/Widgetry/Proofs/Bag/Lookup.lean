import Mathlib.Data.List.Induction
import Mathlib.Data.Prod.Basic
import Widgetry.Bag

/-!
Bags by their names. What is written to a name is found under it, nothing else changes, and a name
keeps the place at which it first came up.
-/

namespace Widgetry.Bag

variable {α β : Type}

def names (bag : Bag α) : List String := bag.map Prod.fst

/-- No name stands twice. -/
def Distinct (bag : Bag α) : Prop := bag.names.Nodup

instance (bag : Bag α) : Decidable bag.Distinct := inferInstanceAs (Decidable (List.Nodup _))

theorem Distinct.perm {bag other : Bag α} (h : bag.Distinct) (perm : bag.Perm other) :
    other.Distinct :=
  (perm.map Prod.fst).nodup h

/-! ## Looking up -/

theorem find?_eq_none_iff {name : String} {bag : Bag α} :
    find? name bag = none ↔ name ∉ bag.names := by
  induction bag with
  | nil => simp [find?, names]
  | cons pair rest ih =>
    obtain ⟨key, value⟩ := pair
    by_cases h : key = name
    · simp [find?, names, h]
    · simpa [find?, names, h, Ne.symm h] using ih

theorem mem_of_find? {name : String} {value : α} {bag : Bag α}
    (h : find? name bag = some value) : (name, value) ∈ bag := by
  induction bag with
  | nil => cases h
  | cons pair rest ih =>
    obtain ⟨key, old⟩ := pair
    by_cases hkey : key = name
    · simp only [find?, hkey, if_true, Option.some.injEq] at h
      simp [hkey, h]
    · simp only [find?, hkey, if_false] at h
      exact List.mem_cons_of_mem _ (ih h)

theorem find?_of_mem {name : String} {value : α} {bag : Bag α} (distinct : bag.Distinct)
    (h : (name, value) ∈ bag) : find? name bag = some value := by
  induction bag with
  | nil => cases h
  | cons pair rest ih =>
    obtain ⟨key, old⟩ := pair
    obtain ⟨hfresh, hrest⟩ := List.nodup_cons.1 distinct
    rcases List.mem_cons.1 h with heq | hmem
    · simp only [Prod.mk.injEq] at heq
      simp [find?, heq]
    · have hne : key ≠ name := by
        rintro rfl
        exact hfresh (List.mem_map.2 ⟨_, hmem, rfl⟩)
      rw [find?, if_neg hne]
      exact ih hrest hmem

theorem find?_perm {bag other : Bag α} (distinct : bag.Distinct) (perm : bag.Perm other)
    (name : String) : find? name other = find? name bag := by
  cases h : find? name bag with
  | none =>
    rw [find?_eq_none_iff] at h ⊢
    exact fun hmem => h ((perm.map Prod.fst).mem_iff.2 hmem)
  | some value => exact find?_of_mem (distinct.perm perm) (perm.mem_iff.1 (mem_of_find? h))

theorem find?_map (f : α → β) (name : String) (bag : Bag α) :
    find? name (bag.map fun pair => (pair.1, f pair.2)) = (find? name bag).map f := by
  induction bag with
  | nil => rfl
  | cons pair rest ih =>
    obtain ⟨key, value⟩ := pair
    by_cases h : key = name <;> simp [find?, h, ih]

theorem find?_append (name : String) (front back : Bag α) :
    find? name (front ++ back) = (find? name front).or (find? name back) := by
  induction front with
  | nil => rfl
  | cons pair rest ih =>
    obtain ⟨key, value⟩ := pair
    by_cases h : key = name <;> simp [find?, h, ih]

theorem find?_filter (key : String) (bag : Bag α) :
    find? key (bag.filter fun pair => pair.1 = key) = find? key bag := by
  induction bag with
  | nil => rfl
  | cons pair rest ih =>
    by_cases h : pair.1 = key
    · simp [find?, h]
    · simp [find?, h, ih]

theorem find?_filterMap {κ : Type} (f : String → Option α) {keys : List (String × κ)} {key : String}
    (h : key ∈ keys.map Prod.fst) :
    find? key (keys.filterMap fun entry => (f entry.1).map (entry.1, ·)) = f key := by
  cases hvalue : f key with
  | none =>
    refine find?_eq_none_iff.2 fun hmem => ?_
    obtain ⟨pair, hpair, rfl⟩ := List.mem_map.1 hmem
    obtain ⟨entry, -, hentry⟩ := List.mem_filterMap.1 hpair
    obtain ⟨value, hfound, rfl⟩ := Option.map_eq_some_iff.1 hentry
    rw [hvalue] at hfound
    cases hfound
  | some value =>
    induction keys with
    | nil => cases h
    | cons entry rest ih =>
      rw [List.filterMap_cons]
      by_cases hkey : entry.1 = key
      · simp [hkey, hvalue, find?]
      · have hrest := ih ((List.mem_cons.1 h).resolve_left (Ne.symm hkey))
        cases f entry.1 <;> simp [find?, hkey, hrest]

theorem find?_put (name other : String) (value : α) (bag : Bag α) :
    find? other (put name value bag) = if other = name then some value else find? other bag := by
  split
  · rename_i h
    rw [h, find?_put_self]
  · rename_i h
    exact find?_put_of_ne value bag (Ne.symm h)

/-- What is written over a bag is found before what is in it. -/
theorem find?_putAll (name : String) (pairs : List (String × α)) (bag : Bag α) :
    find? name (putAll bag pairs) = (find? name (putAll [] pairs)).or (find? name bag) := by
  induction pairs generalizing bag with
  | nil => rfl
  | cons pair rest ih =>
    have hcons (bag : Bag α) : putAll bag (pair :: rest) = putAll (put pair.1 pair.2 bag) rest := rfl
    rw [hcons, hcons, ih, ih (put pair.1 pair.2 []), find?_put, find?_put, Option.or_assoc]
    split <;> rfl

theorem names_filterMap_sublist (f : String × α → Option β) (bag : Bag α) :
    (names (bag.filterMap fun pair => (f pair).map (pair.1, ·))).Sublist bag.names := by
  induction bag with
  | nil => exact .slnil
  | cons pair rest ih =>
    rw [List.filterMap_cons]
    cases f pair with
    | none => exact ih.cons _
    | some value => exact ih.cons_cons _

/-! ## Writing -/

theorem put_of_not_mem {name : String} (value : α) {bag : Bag α} (h : name ∉ bag.names) :
    put name value bag = bag ++ [(name, value)] := by
  induction bag with
  | nil => rfl
  | cons pair rest ih =>
    obtain ⟨key, old⟩ := pair
    simp only [names, List.map_cons, List.mem_cons, not_or] at h
    rw [put, if_neg (Ne.symm h.1), ih h.2, List.cons_append]

theorem mem_of_mem_put {name : String} {value : α} {bag : Bag α} {pair : String × α}
    (h : pair ∈ put name value bag) : pair = (name, value) ∨ pair ∈ bag := by
  induction bag with
  | nil => exact .inl (List.mem_singleton.1 h)
  | cons first rest ih =>
    obtain ⟨key, old⟩ := first
    simp only [put] at h
    split at h
    · rename_i hkey
      rw [hkey] at h
      exact (List.mem_cons.1 h).imp_right (List.mem_cons_of_mem _)
    · rcases List.mem_cons.1 h with rfl | h
      · exact .inr (List.mem_cons_self ..)
      · exact (ih h).imp_right (List.mem_cons_of_mem _)

theorem names_put_of_mem {name : String} (value : α) {bag : Bag α} (h : name ∈ bag.names) :
    (put name value bag).names = bag.names := by
  induction bag with
  | nil => cases h
  | cons pair rest ih =>
    obtain ⟨key, old⟩ := pair
    simp only [put]
    split
    · rfl
    · rename_i hne
      have hrest : name ∈ names rest := (List.mem_cons.1 h).resolve_left (Ne.symm hne)
      simp only [names, List.map_cons] at ih ⊢
      rw [ih hrest]

theorem Distinct.put {bag : Bag α} (h : bag.Distinct) (name : String) (value : α) :
    (put name value bag).Distinct := by
  by_cases hmem : name ∈ bag.names
  · rw [Distinct, names_put_of_mem value hmem]
    exact h
  · rw [put_of_not_mem value hmem]
    simp only [Distinct, names, List.map_append, List.map_cons, List.map_nil]
    refine List.nodup_append.2 ⟨h, List.pairwise_singleton .., fun a ha b hb => ?_⟩
    rw [List.mem_singleton.1 hb]
    rintro rfl
    exact hmem ha

theorem Distinct.putAll {bag : Bag α} (h : bag.Distinct) (pairs : List (String × α)) :
    (putAll bag pairs).Distinct := by
  induction pairs generalizing bag with
  | nil => exact h
  | cons pair rest ih => exact ih (h.put pair.1 pair.2)

theorem mem_of_mem_putAll {bag : Bag α} {pairs : List (String × α)} {pair : String × α}
    (h : pair ∈ putAll bag pairs) : pair ∈ pairs ∨ pair ∈ bag := by
  induction pairs generalizing bag with
  | nil => exact .inr h
  | cons first rest ih =>
    rcases ih h with hrest | hput
    · exact .inl (List.mem_cons_of_mem _ hrest)
    · rcases mem_of_mem_put hput with rfl | hbag
      · exact .inl (List.mem_cons_self ..)
      · exact .inr hbag

theorem putAll_of_distinct (bag pairs : Bag α) (h : Distinct (bag ++ pairs)) :
    putAll bag pairs = bag ++ pairs := by
  induction pairs generalizing bag with
  | nil => simp [putAll]
  | cons pair rest ih =>
    have hfresh : pair.1 ∉ bag.names := by
      simp only [Distinct, names, List.map_append, List.map_cons] at h
      exact fun hmem => (List.nodup_append.1 h).2.2 pair.1 hmem pair.1 (by simp) rfl
    show putAll (put pair.1 pair.2 bag) rest = _
    rw [List.append_cons] at h ⊢
    rw [put_of_not_mem pair.2 hfresh]
    exact ih _ h

theorem ofPairs_of_distinct {pairs : Bag α} (h : pairs.Distinct) : ofPairs pairs = pairs :=
  putAll_of_distinct [] pairs h

theorem ofPairs_concat (pairs : List (String × α)) (pair : String × α) :
    ofPairs (pairs ++ [pair]) = put pair.1 pair.2 (ofPairs pairs) := by
  rw [ofPairs, putAll, List.foldl_append]
  rfl

theorem distinct_ofPairs (pairs : List (String × α)) : (ofPairs pairs).Distinct := by
  have hempty : Distinct ([] : Bag α) := List.nodup_nil
  exact hempty.putAll pairs

/-- The last value of a name is the one that stays. -/
theorem find?_ofPairs (name : String) (pairs : List (String × α)) :
    find? name (ofPairs pairs) = find? name pairs.reverse := by
  induction pairs using List.reverseRecOn with
  | nil => rfl
  | append_singleton pairs pair ih =>
    rw [ofPairs_concat, find?_put, ih, List.reverse_concat, find?]
    simp only [eq_comm]

/-- The place at which a name first comes up is the one that stays. -/
theorem find?_names_ofPairs (p : String → Bool) (pairs : List (String × α)) :
    (ofPairs pairs).names.find? p = (names pairs).find? p := by
  induction pairs using List.reverseRecOn with
  | nil => rfl
  | append_singleton pairs pair ih =>
    have hnames : names (pairs ++ [pair]) = names pairs ++ [pair.1] := List.map_append
    rw [ofPairs_concat, hnames, List.find?_append, ← ih]
    by_cases hmem : pair.1 ∈ (ofPairs pairs).names
    · rw [names_put_of_mem _ hmem]
      cases hfind : (ofPairs pairs).names.find? p with
      | some name => rfl
      | none => simp [List.find?_eq_none.1 hfind pair.1 hmem]
    · rw [put_of_not_mem _ hmem, names, List.map_append, List.find?_append]
      rfl

theorem put_put (name : String) (value old : α) (bag : Bag α) :
    put name value (put name old bag) = put name value bag := by
  induction bag with
  | nil => simp [put]
  | cons pair rest ih => by_cases h : pair.1 = name <;> simp [put, h, ih]

theorem put_of_find? {name : String} {value : α} {bag : Bag α} (h : find? name bag = some value) :
    put name value bag = bag := by
  induction bag with
  | nil => cases h
  | cons pair rest ih =>
    obtain ⟨key, old⟩ := pair
    by_cases hkey : key = name
    · simp_all [put, find?]
    · rw [put, if_neg hkey, ih (by simpa [find?, hkey] using h)]

/-- The order of two changes of a bag makes no difference when they add nothing. -/
theorem put_comm {name other : String} {bag : Bag α} (h : name ≠ other)
    (hname : (find? name bag).isSome = true) (hother : (find? other bag).isSome = true)
    (value value' : α) :
    put name value (put other value' bag) = put other value' (put name value bag) := by
  induction bag with
  | nil => cases hname
  | cons pair rest ih =>
    obtain ⟨key, old⟩ := pair
    by_cases hkey : key = name
    · subst hkey
      simp [put, h]
    · by_cases hkey' : key = other
      · subst hkey'
        simp [put, hkey]
      · have hput := ih (by simpa [find?, hkey] using hname) (by simpa [find?, hkey'] using hother)
        simp [put, hkey, hkey', hput]

end Widgetry.Bag
