import Mathlib.Tactic.ByContra
import Widgetry.Source.Fold

/-!
Scopes that know more than others. No form of expression asks whether a part of it has no value, so
a value that was found stays the same when more names become known, however the frames that bind
them are stacked. Only names that have a value without being bound must not be bound anew.
-/

namespace Widgetry.Source

/-! ## Scopes -/

/-- Every name that has a value in the smaller scope has the same value in the larger one. -/
def Grows (smaller larger : Scope) : Prop :=
  ∀ name value, Expr.name? smaller name = some value → Expr.name? larger name = some value

theorem mem_of_constant? {name : String} {value : Literal} (h : Expr.constant? name = some value) :
    name ∈ ["undefined", "NaN", "Infinity"] := by
  unfold Expr.constant? at h
  split at h
  · simp
  · simp
  · simp
  · cases h

/-- A scope grows when its bindings are kept and no name with a value of its own is bound anew. -/
theorem grows_of_lookup? {smaller larger : Scope}
    (kept : ∀ name value, smaller.lookup? name = some value → larger.lookup? name = some value)
    (free : ∀ name ∈ ["undefined", "NaN", "Infinity"],
      smaller.lookup? name = none → larger.lookup? name = none) :
    Grows smaller larger := by
  intro name value h
  unfold Expr.name? at h ⊢
  cases hsmaller : smaller.lookup? name with
  | some bound =>
    rw [hsmaller] at h
    rw [kept name bound hsmaller]
    exact h
  | none =>
    have hconstant : Expr.constant? name = some value := by rwa [hsmaller] at h
    rw [free name (mem_of_constant? hconstant) hsmaller]
    exact hconstant

/-! ## Folding -/

section Folding

variable {smaller larger : Scope}

-- A form has a value only where the parts that it reads have one, and the operators on these values
-- do not see the scope; so each case hands the values of its parts on.
mutual

theorem fold?_of_grows (grows : Grows smaller larger) :
    (e : Expr) → ∀ value, e.fold? smaller = some value → e.fold? larger = some value
  | .string _, _, h | .number _, _, h | .bool _, _, h | .null, _, h => h
  | .identifier name, value, h => grows name value h
  | .template _ holes, _, h => by
    simp only [Expr.fold?] at h ⊢
    split at h
    · rename_i texts htexts
      rw [foldTexts?_of_grows grows holes texts htexts]
      exact h
    · cases h
  | .paren inner, value, h | .cast _ inner, value, h => fold?_of_grows grows inner value h
  | .unary _ operand, _, h => by
    simp only [Expr.fold?] at h ⊢
    split at h
    · rename_i found hfound
      rw [fold?_of_grows grows operand found hfound]
      exact h
    · cases h
  | .logical _ left right, value, h => by
    simp only [Expr.fold?] at h ⊢
    split at h
    · rename_i first hfirst
      rw [fold?_of_grows grows left first hfirst]
      dsimp only
      split at h
      · rename_i hneeds
        rw [if_pos hneeds]
        exact fold?_of_grows grows right value h
      · rename_i hneeds
        rw [if_neg hneeds]
        exact h
    · cases h
  | .binary _ left right, _, h => by
    simp only [Expr.fold?] at h ⊢
    split at h
    · rename_i a b ha hb
      rw [fold?_of_grows grows left a ha, fold?_of_grows grows right b hb]
      exact h
    · cases h
  | .conditional test consequent alternate, value, h => by
    simp only [Expr.fold?] at h ⊢
    split at h
    · rename_i found hfound
      rw [fold?_of_grows grows test found hfound]
      dsimp only
      split at h
      · rename_i htruthy
        rw [if_pos htruthy]
        exact fold?_of_grows grows consequent value h
      · rename_i htruthy
        rw [if_neg htruthy]
        exact fold?_of_grows grows alternate value h
    · cases h
  | .array items, _, h => by
    obtain ⟨found, hfound, rfl⟩ := Option.map_eq_some_iff.1 h
    exact Option.map_eq_some_iff.2 ⟨found, foldItems?_of_grows grows items found hfound, rfl⟩
  | .object members, _, h => by
    obtain ⟨found, hfound, rfl⟩ := Option.map_eq_some_iff.1 h
    exact Option.map_eq_some_iff.2 ⟨found, foldMembers?_of_grows grows members [] found hfound, rfl⟩
  | .member owner _, _, h => by
    simp only [Expr.fold?] at h ⊢
    split at h
    · rename_i found hfound
      rw [fold?_of_grows grows owner found hfound]
      exact h
    · cases h
  | .index owner key, _, h => by
    simp only [Expr.fold?] at h ⊢
    split at h
    · rename_i found name hfound hname
      rw [fold?_of_grows grows owner found hfound, fold?_of_grows grows key name hname]
      exact h
    · cases h
  | .privateMember _, _, h | .call .., _, h | .function _, _, h | .element _, _, h
  | .fragment _, _, h | .assertion _, _, h | .assign .., _, h | .other _, _, h => by cases h

theorem foldTexts?_of_grows (grows : Grows smaller larger) :
    (holes : List Expr) → ∀ texts,
      Expr.foldTexts? smaller holes = some texts → Expr.foldTexts? larger holes = some texts
  | [], _, h => h
  | hole :: rest, _, h => by
    simp only [Expr.foldTexts?] at h ⊢
    split at h
    · rename_i value texts hvalue htexts
      rw [fold?_of_grows grows hole value hvalue, foldTexts?_of_grows grows rest texts htexts]
      exact h
    · cases h

theorem foldItems?_of_grows (grows : Grows smaller larger) :
    (items : List Item) → ∀ found,
      Expr.foldItems? smaller items = some found → Expr.foldItems? larger items = some found
  | [], _, h => h
  | .value value :: rest, _, h => by
    simp only [Expr.foldItems?] at h ⊢
    split at h
    · rename_i first others hfirst hothers
      rw [fold?_of_grows grows value first hfirst, foldItems?_of_grows grows rest others hothers]
      exact h
    · cases h
  | .spread value _ :: rest, _, h => by
    simp only [Expr.foldItems?] at h ⊢
    split at h
    · rename_i spread others hspread hothers
      rw [fold?_of_grows grows value _ hspread, foldItems?_of_grows grows rest others hothers]
      exact h
    · cases h
  | .hole :: rest, _, h => by
    obtain ⟨others, hothers, rfl⟩ := Option.map_eq_some_iff.1 h
    exact Option.map_eq_some_iff.2 ⟨others, foldItems?_of_grows grows rest others hothers, rfl⟩

theorem foldMembers?_of_grows (grows : Grows smaller larger) :
    (members : List Member) → ∀ found result,
      Expr.foldMembers? smaller found members = some result →
        Expr.foldMembers? larger found members = some result
  | [], _, _, h => h
  | .field _ value :: rest, _, result, h => by
    simp only [Expr.foldMembers?] at h ⊢
    split at h
    · rename_i folded hfolded
      rw [fold?_of_grows grows value folded hfolded]
      exact foldMembers?_of_grows grows rest _ result h
    · cases h
  | .spread value _ :: rest, found, result, h => by
    simp only [Expr.foldMembers?] at h ⊢
    split at h
    · rename_i members hmembers
      rw [fold?_of_grows grows value _ hmembers]
      exact foldMembers?_of_grows grows rest _ result h
    · rename_i hnull
      rw [fold?_of_grows grows value _ hnull]
      exact foldMembers?_of_grows grows rest found result h
    · rename_i hundefined
      rw [fold?_of_grows grows value _ hundefined]
      exact foldMembers?_of_grows grows rest found result h
    · cases h
  | .computed .. :: _, _, _, h => by cases h

end

end Folding

/-- Knowing more constants never changes a folded value: where every name that one scope resolves is
resolved by another to the same value, and the other binds `undefined`, `NaN` and `Infinity` only if
the first does, every expression that folds in the first folds to the same value in the other. -/
theorem fold?_of_more_constants (smaller larger : Scope)
    (kept : ∀ name value, smaller.lookup? name = some value → larger.lookup? name = some value)
    (free : ∀ name ∈ ["undefined", "NaN", "Infinity"],
      larger.lookup? name ≠ none → smaller.lookup? name ≠ none)
    (e : Expr) (value : Literal) (h : e.fold? smaller = some value) :
    e.fold? larger = some value := by
  have grows : Grows smaller larger := grows_of_lookup? kept fun name hname hsmaller => by
    by_contra hlarger
    exact free name hname hlarger hsmaller
  exact fold?_of_grows grows e value h

/-- `undefined ?? a + b` keeps its value when `c` becomes known, the frame of `a` moves outwards and
an `a` that was hidden is gone. -/
theorem fold?_of_more_constants_restacked :
    let smaller : Scope :=
      ⟨[[("a", .string "x")], [("a", .string "hidden"), ("b", .string "y")]]⟩
    let larger : Scope := ⟨[[("c", .null), ("b", .string "y")], [], [("a", .string "x")]]⟩
    let e : Expr :=
      .logical .coalesce (.identifier "undefined") (.binary .add (.identifier "a") (.identifier "b"))
    (∀ name value, smaller.lookup? name = some value → larger.lookup? name = some value) ∧
    (∀ name ∈ ["undefined", "NaN", "Infinity"],
      larger.lookup? name ≠ none → smaller.lookup? name ≠ none) ∧
    e.fold? smaller = some (.string "xy") ∧ e.fold? larger = some (.string "xy") := by
  intro smaller larger e
  have kept : ∀ name value, smaller.lookup? name = some value →
      larger.lookup? name = some value := by
    intro name value h
    simp only [smaller, larger, Scope.lookup?, List.findSome?_cons, List.findSome?_nil,
      Bag.find?] at h ⊢
    by_cases ha : "a" = name
    · subst ha
      exact h
    · by_cases hb : "b" = name
      · subst hb
        exact h
      · simp [ha, hb] at h
  have free : ∀ name ∈ ["undefined", "NaN", "Infinity"],
      larger.lookup? name ≠ none → smaller.lookup? name ≠ none := by
    intro name hname hbound
    simp only [List.mem_cons, List.not_mem_nil, or_false] at hname
    rcases hname with rfl | rfl | rfl <;> exact absurd rfl hbound
  have folds : e.fold? smaller = some (.string "xy") := by rfl
  exact ⟨kept, free, folds, fold?_of_more_constants smaller larger kept free e _ folds⟩

end Widgetry.Source
