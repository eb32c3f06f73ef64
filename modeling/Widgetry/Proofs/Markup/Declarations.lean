import Widgetry.Markup.Build

/-!
What a function body makes of the names that it declares. Only a constant with a known value is
bound; any other declaration of a name leaves the name to the functions around the body. Main
statement: such a name means inside the body what it means outside, so it is unbound exactly when no
function around the body binds it.
-/

namespace Widgetry

namespace Scope

theorem lookup?_push_nil (name : String) (scope : Scope) :
    (scope.push []).lookup? name = scope.lookup? name := rfl

theorem lookup?_bind_of_ne {name other : String} (h : name ≠ other) (value : Literal)
    (scope : Scope) : (scope.bind name value).lookup? other = scope.lookup? other := by
  obtain ⟨frames⟩ := scope
  cases frames with
  | nil => simp [bind, lookup?, Bag.find?, h]
  | cons frame outer =>
    simp only [bind, lookup?, List.findSome?_cons, Bag.find?_put_of_ne value frame h]

theorem lookup?_eq_none_iff {name : String} {scope : Scope} :
    scope.lookup? name = none ↔ ∀ frame ∈ scope.frames, Bag.find? name frame = none :=
  List.findSome?_eq_none_iff

end Scope

namespace Markup

open Source (Expr Statement Declarator Part)

/-! ## Constants of a body -/

/-- The constants that statements declare, in order. -/
def constants : List Statement → List Declarator
  | [] => []
  | .declare .constant declarators :: rest => declarators ++ constants rest
  | _ :: rest => constants rest

theorem declareKnown_append (scope : Scope) (first second : List Declarator) :
    declareKnown scope (first ++ second) = declareKnown (declareKnown scope first) second := by
  induction first generalizing scope with
  | nil => rfl
  | cons declarator rest ih => exact ih _

theorem declareConstants_eq (scope : Scope) (body : List Statement) :
    declareConstants scope body = declareKnown scope (constants body) := by
  induction body generalizing scope with
  | nil => rfl
  | cons statement rest ih =>
    cases statement with
    | declare kind declarators =>
      cases kind with
      | constant => rw [declareConstants, constants, declareKnown_append, ih]
      | _ => exact ih scope
    | _ => exact ih scope

/-! ## Names without a known value -/

/-- No constant of the name has a known value: every one has an initializer, and this does not fold
where it stands, behind the constants before it. -/
def LeavesOpen (scope : Scope) (declarators : List Declarator) (name : String) : Prop :=
  ∀ before parts value after, declarators = before ++ .mk (some name) parts value :: after →
    ∃ initial, value = some initial ∧ initial.fold? (declareKnown scope before) = none

namespace LeavesOpen

variable {scope : Scope} {name : String}

theorem tail {declarator : Declarator} {rest : List Declarator}
    (h : LeavesOpen scope (declarator :: rest) name) :
    LeavesOpen ((declare? scope declarator).getD scope) rest name := by
  intro before parts value after hrest
  exact h (declarator :: before) parts value after (by rw [hrest]; rfl)

/-- One declaration: it binds another name, or nothing. -/
theorem lookup?_declare {declarator : Declarator} {rest : List Declarator}
    (h : LeavesOpen scope (declarator :: rest) name) :
    ((declare? scope declarator).getD scope).lookup? name = scope.lookup? name := by
  obtain ⟨declared, parts, value⟩ := declarator
  cases declared with
  | none => rfl
  | some declared =>
    by_cases hname : declared = name
    · subst hname
      obtain ⟨initial, rfl, hfold⟩ := h [] parts value rest rfl
      have hunknown : initial.fold? scope = none := hfold
      rw [declare?, hunknown]
      rfl
    · cases value with
      | none => exact Scope.lookup?_bind_of_ne hname _ scope
      | some initial =>
        rw [declare?]
        cases initial.fold? scope with
        | none => rfl
        | some value => exact Scope.lookup?_bind_of_ne hname value scope

/-- A single constant of the name leaves it open when its initializer does not fold. -/
theorem singleton {parts : List Part} {initial : Expr} (h : initial.fold? scope = none) :
    LeavesOpen scope [.mk (some name) parts (some initial)] name := by
  intro before parts value after hall
  cases before with
  | nil =>
    cases hall
    exact ⟨initial, rfl, h⟩
  | cons first rest =>
    obtain ⟨-, hrest⟩ := List.cons.inj hall
    cases rest <;> cases hrest

theorem lookup?_declareKnown {declarators : List Declarator}
    (h : LeavesOpen scope declarators name) :
    (declareKnown scope declarators).lookup? name = scope.lookup? name := by
  induction declarators generalizing scope with
  | nil => rfl
  | cons declarator rest ih =>
    calc (declareKnown ((declare? scope declarator).getD scope) rest).lookup? name
        = ((declare? scope declarator).getD scope).lookup? name := ih h.tail
      _ = scope.lookup? name := h.lookup?_declare

end LeavesOpen

/-- A name that a body declares without a known value, by constants whose initializers do not fold
or as a variable, means inside the body what it means outside. It is unbound there exactly when no
frame around the body binds it, and otherwise reads as the constant of an enclosing function. -/
theorem lookup?_enter_of_leavesOpen (scope : Scope) (body : List Statement) (name : String)
    (h : LeavesOpen (scope.push []) (constants body) name) :
    (enter scope body).lookup? name = scope.lookup? name ∧
    ((enter scope body).lookup? name = none ↔
      ∀ frame ∈ scope.frames, Bag.find? name frame = none) ∧
    (Expr.identifier name).fold? (enter scope body) = (Expr.identifier name).fold? scope := by
  have hlookup : (enter scope body).lookup? name = scope.lookup? name := by
    rw [enter, declareConstants_eq, h.lookup?_declareKnown, Scope.lookup?_push_nil]
  refine ⟨hlookup, ?_, ?_⟩
  · rw [hlookup, Scope.lookup?_eq_none_iff]
  · simp only [Expr.fold?, Expr.name?, hlookup]

/-- A title that is fetched reads as the title of the function around it. -/
theorem lookup?_enter_fetched :
    let outer : List Statement :=
      [.declare .constant [.mk (some "title") [] (some (.string "Outer"))]]
    let inner : List Statement :=
      [.declare .constant [.mk (some "title") []
        (some (.call (.identifier "fetch") [.value (.string "/title")]))]]
    LeavesOpen ((enter {} outer).push []) (constants inner) "title" ∧
      (enter (enter {} outer) inner).lookup? "title" = some (.string "Outer") := by
  intro outer inner
  have hopen : LeavesOpen ((enter {} outer).push []) (constants inner) "title" :=
    LeavesOpen.singleton rfl
  refine ⟨hopen, ?_⟩
  rw [(lookup?_enter_of_leavesOpen (enter {} outer) inner "title" hopen).1]
  rfl

end Markup

end Widgetry
