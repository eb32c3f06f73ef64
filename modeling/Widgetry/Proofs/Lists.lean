/-!
Searches in lists, and values that may be missing.
-/

namespace Widgetry

variable {α β γ : Type}

/-! ## The first that is found -/

theorem findSome?_cons_eq_or (f : α → Option β) (value : α) (rest : List α) :
    (value :: rest).findSome? f = (f value).or (rest.findSome? f) := by
  rw [List.findSome?_cons]
  cases f value <;> rfl

theorem findSome?_congr {f g : α → Option β} {values : List α}
    (h : ∀ value ∈ values, f value = g value) : values.findSome? f = values.findSome? g := by
  induction values with
  | nil => rfl
  | cons value rest ih =>
    obtain ⟨hvalue, hrest⟩ := List.forall_mem_cons.1 h
    rw [findSome?_cons_eq_or, findSome?_cons_eq_or, hvalue, ih hrest]

theorem findSome?_flatMap (f : β → Option γ) (g : α → List β) (values : List α) :
    (values.flatMap g).findSome? f = values.findSome? fun value => (g value).findSome? f := by
  induction values with
  | nil => rfl
  | cons value rest ih =>
    rw [List.flatMap_cons, List.findSome?_append, ih, findSome?_cons_eq_or]

theorem isEmpty_eq_of_length {xs ys : List α} (h : xs.length = ys.length) :
    xs.isEmpty = ys.isEmpty := by
  rw [Bool.eq_iff_iff, List.isEmpty_iff_length_eq_zero, List.isEmpty_iff_length_eq_zero, h]

/-! ## Values that may be missing -/

theorem getD_map_some (value : Option α) : (value.map some).getD none = value := by
  cases value <;> rfl

theorem getD_map_some_comp (value : Option α) (f : α → β) :
    (value.map fun a => some (f a)).getD none = value.map f := by
  cases value <;> rfl

theorem optionMap_eq_self {f : α → α} {value : Option α} (h : ∀ a ∈ value, f a = a) :
    value.map f = value :=
  (Option.map_congr h).trans Option.map_id'

theorem rel_map {R : β → γ → Prop} {value : Option α} {f : α → β} {g : α → γ}
    (h : ∀ a ∈ value, R (f a) (g a)) : Option.Rel R (value.map f) (value.map g) := by
  cases value with
  | none => exact .none
  | some a => exact .some (h a rfl)

end Widgetry
