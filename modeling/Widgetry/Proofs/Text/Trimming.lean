import Mathlib.Data.List.TakeWhile
import Widgetry.Text.Blank

/-!
Ends of texts that are cut off. A text is what is left of it between blanks, and a text without blanks
is all that is left when blanks are put around it.
-/

namespace Widgetry.Text

theorem dropEndWhile_append {α : Type} {p : α → Bool} (xs : List α) {more : List α}
    (h : ∀ x ∈ more, p x = true) : dropEndWhile p (xs ++ more) = dropEndWhile p xs := by
  have hmore : ∀ x ∈ more.reverse, p x = true := fun x hx => h x (List.mem_reverse.1 hx)
  rw [dropEndWhile, List.reverse_append, List.dropWhile_append_of_pos hmore, dropEndWhile]

theorem mem_of_mem_dropEndWhile {α : Type} {p : α → Bool} {xs : List α} {x : α}
    (h : x ∈ dropEndWhile p xs) : x ∈ xs :=
  List.mem_reverse.1 ((List.dropWhile_sublist p).subset (List.mem_reverse.1 h))

theorem exists_trim (text : String) :
    ∃ before after : List Char, text.toList = before ++ (trim text).toList ++ after ∧
      ∀ c ∈ before ++ after, isBlank c = true := by
  let kept := text.toList.dropWhile isBlank
  refine ⟨text.toList.takeWhile isBlank, (kept.reverse.takeWhile isBlank).reverse, ?_, ?_⟩
  · have hkept : kept = dropEndWhile isBlank kept ++ (kept.reverse.takeWhile isBlank).reverse := by
      rw [dropEndWhile, ← List.reverse_append, List.takeWhile_append_dropWhile, List.reverse_reverse]
    rw [trim, String.toList_ofList, List.append_assoc, ← hkept, List.takeWhile_append_dropWhile]
  · intro c hc
    rcases List.mem_append.1 hc with hbefore | hafter
    · exact List.mem_takeWhile_imp hbefore
    · exact List.mem_takeWhile_imp (List.mem_reverse.1 hafter)

/-- Blanks around a text without blanks are trimmed away. -/
theorem trim_between {before core after : List Char} (hblank : ∀ c ∈ before ++ after, isBlank c = true)
    (hcore : ∀ c ∈ core, isBlank c = false) :
    trim (String.ofList (before ++ core ++ after)) = String.ofList core := by
  obtain ⟨hbefore, hafter⟩ := List.forall_mem_append.1 hblank
  have hend : dropEndWhile isBlank core = core := by
    cases hlast : core.reverse with
    | nil => rw [dropEndWhile, hlast, List.dropWhile_nil, ← hlast, List.reverse_reverse]
    | cons c rest =>
      have hc : isBlank c = false := hcore c (List.mem_reverse.1 (hlast ▸ List.mem_cons_self))
      rw [dropEndWhile, hlast, List.dropWhile_cons_of_neg (by simp [hc]), ← hlast,
        List.reverse_reverse]
  have hstart : (core ++ after).dropWhile isBlank = core ++ after ∨ core = [] := by
    cases core with
    | nil => exact .inr rfl
    | cons c rest =>
      exact .inl (List.dropWhile_cons_of_neg (by simp [hcore c List.mem_cons_self]))
  rw [trim, String.toList_ofList, List.append_assoc, List.dropWhile_append_of_pos hbefore]
  rcases hstart with hstart | rfl
  · rw [hstart, dropEndWhile_append core hafter, hend]
  · rw [List.nil_append, List.dropWhile_eq_nil_iff.2 hafter]
    rfl

end Widgetry.Text
