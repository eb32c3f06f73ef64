import Mathlib.Logic.Relation
import Widgetry.Proofs.Markup.Restoring

/-!
Children of elements. Main statements: an expression that folds gives among the children what its
value gives, unless it holds a list with a spread or a hole where a child is looked for; and the
children of an element do not see each other, so that they give one after the other what each of
them gives alone.
-/

namespace Widgetry.Markup

open Source (Expr Item Element Attribute Child)

/-! ## Places of children -/

/-- An item that stands for itself: neither a spread nor a hole. -/
def isPlain : Item → Bool
  | .value _ => true
  | .spread .. | .hole => false

/-- The expression has the other one in its place among the children: it only wraps it, or decides
for it, or holds it in a list. An expression under `satisfies` is not looked into; it is folded. -/
inductive Leads (scope : Scope) : Expr → Expr → Prop
  | paren (inner : Expr) : Leads scope (.paren inner) inner
  | asType (inner : Expr) : Leads scope (.cast .asType inner) inner
  | nonNull (inner : Expr) : Leads scope (.cast .nonNull inner) inner
  | right {op : Source.LogicalOp} {left : Expr} (right : Expr) {value : Literal}
      (hleft : left.fold? scope = some value) (hneeds : Expr.needsRight op value = true) :
      Leads scope (.logical op left right) right
  | consequent {test : Expr} (consequent alternate : Expr) {value : Literal}
      (htest : test.fold? scope = some value) (htruthy : value.isTruthy = true) :
      Leads scope (.conditional test consequent alternate) consequent
  | alternate {test : Expr} (consequent alternate : Expr) {value : Literal}
      (htest : test.fold? scope = some value) (htruthy : ¬value.isTruthy = true) :
      Leads scope (.conditional test consequent alternate) alternate
  | item {items : List Item} {value : Expr} (hitem : .value value ∈ items) :
      Leads scope (.array items) value

/-- The expressions that come to stand in the place of an expression among the children. -/
abbrev Reaches (scope : Scope) : Expr → Expr → Prop := Relation.ReflTransGen (Leads scope)

/-- No list that comes to stand among the children has a spread or a hole. -/
def Gapless (scope : Scope) (e : Expr) : Prop :=
  ∀ items, Reaches scope e (.array items) → ∀ item ∈ items, isPlain item = true

variable {scope : Scope}

theorem Gapless.leads {e inner : Expr} (gapless : Gapless scope e) (h : Leads scope e inner) :
    Gapless scope inner :=
  fun items hreaches => gapless items (.head h hreaches)

theorem Gapless.items {items : List Item} (gapless : Gapless scope (.array items)) :
    ∀ item ∈ items, ∃ value, item = .value value ∧ Gapless scope value := by
  intro item hitem
  have hplain := gapless items .refl item hitem
  cases item with
  | value value => exact ⟨value, rfl, gapless.leads (.item hitem)⟩
  | spread _ _ | hole => cases hplain

/-! ## Children that fail -/

/-- A list fails with any of its items; a spread and a hole always fail. -/
theorem expandItems?_eq_none {items : List Item} {item : Item} (hitem : item ∈ items)
    (h : ∀ value, item = .value value → expand? scope value = none) :
    expandItems? scope items = none := by
  induction items with
  | nil => cases hitem
  | cons first rest ih =>
    cases first with
    | value value =>
      rw [expandItems?]
      rcases List.mem_cons.1 hitem with heq | hrest
      · rw [h value heq]
      · rw [ih hrest]
        cases expand? scope value <;> rfl
    | spread _ _ | hole => rfl

/-- A failure in the place of an expression is a failure of the expression. -/
theorem Leads.expand?_eq_none {e inner : Expr} (h : Leads scope e inner)
    (hinner : expand? scope inner = none) : expand? scope e = none := by
  cases h with
  | paren | asType | nonNull => exact hinner
  | right _ hleft hneeds =>
    rw [expand?, hleft]
    simp only [hneeds, if_true, hinner]
  | consequent _ _ htest htruthy =>
    rw [expand?, htest]
    simp only [htruthy, if_true, hinner]
  | alternate _ _ htest htruthy =>
    rw [expand?, htest]
    simp only [if_neg htruthy, hinner]
  | item hitem =>
    refine expandItems?_eq_none hitem ?_
    rintro value ⟨⟩
    exact hinner

theorem expand?_eq_none_of_reaches {e : Expr} {items : List Item} {item : Item}
    (h : Reaches scope e (.array items)) (hitem : item ∈ items) (hgap : isPlain item = false) :
    expand? scope e = none := by
  induction h using Relation.ReflTransGen.head_induction_on with
  | refl =>
    refine expandItems?_eq_none hitem ?_
    rintro value rfl
    cases hgap
  | head hleads _ ih => exact hleads.expand?_eq_none ih

/-! ## Children that have a value -/

-- Both recursions take the same turn at every operator and condition, because both ask the same
-- value; what is left over when the child's recursion ends is folded and taken apart as a value.
mutual

theorem expand?_of_gapless : (e : Expr) → Gapless scope e → ∀ value, e.fold? scope = some value →
    expand? scope e = piecesOf? value
  | .paren inner, gapless, value, h => expand?_of_gapless inner (gapless.leads (.paren inner)) value h
  | .cast .asType inner, gapless, value, h =>
    expand?_of_gapless inner (gapless.leads (.asType inner)) value h
  | .cast .nonNull inner, gapless, value, h =>
    expand?_of_gapless inner (gapless.leads (.nonNull inner)) value h
  | .logical op left right, gapless, value, h => by
    cases hfirst : left.fold? scope with
    | none => simp only [Expr.fold?, hfirst, reduceCtorEq] at h
    | some first =>
      simp only [Expr.fold?, hfirst] at h
      simp only [expand?, hfirst]
      by_cases hneeds : Expr.needsRight op first = true
      · rw [if_pos hneeds] at h ⊢
        exact expand?_of_gapless right (gapless.leads (.right right hfirst hneeds)) value h
      · rw [if_neg hneeds] at h ⊢
        rw [Option.some.inj h]
  | .conditional test consequent alternate, gapless, value, h => by
    cases hfirst : test.fold? scope with
    | none => simp only [Expr.fold?, hfirst, reduceCtorEq] at h
    | some first =>
      simp only [Expr.fold?, hfirst] at h
      simp only [expand?, hfirst]
      by_cases htruthy : first.isTruthy = true
      · rw [if_pos htruthy] at h ⊢
        exact expand?_of_gapless consequent (gapless.leads (.consequent _ _ hfirst htruthy)) value h
      · rw [if_neg htruthy] at h ⊢
        exact expand?_of_gapless alternate (gapless.leads (.alternate _ _ hfirst htruthy)) value h
  | .array items, gapless, _, h => by
    obtain ⟨found, hfound, rfl⟩ := Option.map_eq_some_iff.1 h
    exact expandItems?_of_gapless items gapless.items found hfound
  | .string _, _, _, h | .number _, _, _, h | .bool _, _, _, h | .null, _, _, h
  | .identifier _, _, _, h | .template .., _, _, h | .cast .satisfies _, _, _, h
  | .unary .., _, _, h | .binary .., _, _, h | .object _, _, _, h | .member .., _, _, h
  | .index .., _, _, h => congrArg (Option.bind · piecesOf?) h
  | .privateMember _, _, _, h | .call .., _, _, h | .function _, _, _, h | .element _, _, _, h
  | .fragment _, _, _, h | .assertion _, _, _, h | .assign .., _, _, h | .other _, _, _, h => by
    cases h

theorem expandItems?_of_gapless : (items : List Item) →
    (∀ item ∈ items, ∃ value, item = .value value ∧ Gapless scope value) → ∀ found,
      Expr.foldItems? scope items = some found → expandItems? scope items = piecesOfAll? found
  | [], _, _, h => by
    cases h
    rfl
  | .value value :: rest, gapless, _, h => by
    obtain ⟨⟨_, heq, hvalue⟩, hrest⟩ := List.forall_mem_cons.1 gapless
    cases heq
    simp only [Expr.foldItems?] at h
    split at h
    · rename_i first others hfirst hothers
      cases h
      rw [expandItems?, piecesOfAll?, expand?_of_gapless value hvalue first hfirst,
        expandItems?_of_gapless rest hrest others hothers]
    · cases h
  | .spread .. :: _, gapless, _, _ | .hole :: _, gapless, _, _ => by
    obtain ⟨_, heq, -⟩ := gapless _ List.mem_cons_self
    cases heq

end

/-- An expression that folds gives the same children in the place of a child as its value does, where
it gives any; and it gives none exactly when the value gives none, or when a list that stands in its
place, behind parentheses, casts, decided operators and conditions and inside other lists, has a
spread or a hole. -/
theorem expand_of_fold? (scope : Scope) (e : Expr) (value : Literal)
    (h : e.fold? scope = some value) :
    (∀ pieces, ((Builder.expand e).run scope).1 = some pieces → piecesOf? value = some pieces) ∧
    (((Builder.expand e).run scope).1 = none ↔
      piecesOf? value = none ∨
        ∃ items, Reaches scope e (.array items) ∧ ∃ item ∈ items, isPlain item = false) := by
  rw [Builder.run_expand]
  by_cases gapless : Gapless scope e
  · rw [expand?_of_gapless e gapless value h]
    refine ⟨fun _ hpieces => hpieces, .inl, ?_⟩
    rintro (hnone | ⟨items, hreaches, item, hitem, hgap⟩)
    · exact hnone
    · rw [gapless items hreaches item hitem] at hgap
      cases hgap
  · simp only [Gapless, not_forall, Bool.not_eq_true] at gapless
    obtain ⟨items, hreaches, item, hitem, hgap⟩ := gapless
    rw [expand?_eq_none_of_reaches hreaches hitem hgap]
    refine ⟨?_, fun _ => .inr ⟨items, hreaches, item, hitem, hgap⟩, fun _ => rfl⟩
    rintro pieces ⟨⟩

/-- `true && [n, [null, 'b']]` gives two texts in either place, and `[...['a'], 'b']` gives two as a
value and fails as a child. -/
theorem expand_of_fold?_nested :
    let scope : Scope := ⟨[[("n", .string "a")]]⟩
    let nested : Expr := .logical .and (.bool true) (.array
      [.value (.identifier "n"), .value (.array [.value .null, .value (.string "b")])])
    let spread : Expr := .array [.spread (.array [.value (.string "a")]) true, .value (.string "b")]
    let texts : List Piece := [.text (.string "a"), .text (.string "b")]
    nested.fold? scope = some (.array [.string "a", .array [.null, .string "b"]]) ∧
    ((Builder.expand nested).run scope).1 = some texts ∧
    piecesOf? (.array [.string "a", .array [.null, .string "b"]]) = some texts ∧
    spread.fold? scope = some (.array [.string "a", .string "b"]) ∧
    piecesOf? (.array [.string "a", .string "b"]) = some texts ∧
    ((Builder.expand spread).run scope).1 = none := by
  intro scope nested spread texts
  have hnested : nested.fold? scope = some (.array [.string "a", .array [.null, .string "b"]]) := by
    rfl
  have hexpand : ((Builder.expand nested).run scope).1 = some texts := by rfl
  have hspread : spread.fold? scope = some (.array [.string "a", .string "b"]) := by rfl
  refine ⟨hnested, hexpand, (expand_of_fold? scope nested _ hnested).1 texts hexpand, hspread, rfl,
    (expand_of_fold? scope spread _ hspread).2.2 (.inr ⟨_, .refl, _, List.mem_cons_self, rfl⟩)⟩

/-! ## Siblings -/

/-- The pieces that a builder makes of a child that stands alone. -/
def alone (scope : Scope) (child : Child) : List Piece :=
  ((Builder.pieces [child]).run scope).1.getD []

theorem alone_eq (scope : Scope) (child : Child) :
    alone scope child = (child? scope child).getD [] := by
  rw [alone, Builder.run_pieces, Option.getD_some, pieces, pieces, List.append_nil]

theorem pieces_eq_flatMap (scope : Scope) (children : List Child) :
    pieces scope children = children.flatMap (alone scope) := by
  induction children with
  | nil => rfl
  | cons child rest ih => rw [pieces, ih, List.flatMap_cons, alone_eq]

theorem pieces_append (scope : Scope) (a b : List Child) :
    pieces scope (a ++ b) = pieces scope a ++ pieces scope b := by
  simp only [pieces_eq_flatMap, List.flatMap_append]

theorem pieces_cons_fragment (scope : Scope) (inner after : List Child) :
    pieces scope (.fragment inner :: after) = pieces scope inner ++ pieces scope after := by
  rw [pieces, child?, Option.getD_some]

theorem pieces_cons_of_none {child : Child} (h : child? scope child = none) (after : List Child) :
    pieces scope (child :: after) = pieces scope after := by
  rw [pieces, h, Option.getD_none, List.nil_append]

/-- What a container becomes is decided by its attributes, up to the nodes that it holds. -/
theorem element?_container (scope : Scope) {tag : String} (attributes : List Attribute)
    (container : tag? tag = some .view ∨ tag? tag = some .stack) :
    ∃ build : Option (List Node → Node),
      (∀ make ∈ build, ∀ nodes, (make nodes).children = nodes) ∧
      ∀ children, element? scope (.mk tag attributes children)
        = build.map fun make => make ((pieces scope children).map Piece.toNode) := by
  cases hgiven : attributes? scope [] attributes with
  | none =>
    refine ⟨none, by rintro make ⟨⟩, fun children => ?_⟩
    simp only [element?, hgiven]
    cases tag? tag <;> rfl
  | some given =>
    rcases container with htag | htag
    · refine ⟨given.traits?.map fun traits nodes => .view traits nodes, ?_, fun children => ?_⟩
      · intro make hmake nodes
        obtain ⟨traits, -, rfl⟩ := Option.map_eq_some_iff.1 hmake
        rfl
      · simp only [element?, htag, hgiven, nodeOf?, Option.map_map]
        cases given.traits? <;> rfl
    · refine ⟨(given.literal? "axis").bind fun axis => given.traits?.map fun traits nodes =>
        .stack traits (axisOf axis) nodes, ?_, fun children => ?_⟩
      · intro make hmake nodes
        obtain ⟨axis, -, hmake⟩ := Option.bind_eq_some_iff.1 hmake
        obtain ⟨traits, -, rfl⟩ := Option.map_eq_some_iff.1 hmake
        rfl
      · simp only [element?, htag, hgiven, nodeOf?]
        cases given.literal? "axis" with
        | none => rfl
        | some axis => cases given.traits? <;> rfl

/-- Siblings do not influence each other and fragments are transparent. A builder makes of two lists
of children in a row what it makes of each of them in the scope at the start; a fragment may be
replaced by its children; a child that fails may be removed. So a view or a stack holds what each of
its children gives alone, one after the other, and whether it is built is not up to them. -/
theorem siblings_independent (scope : Scope) :
    (∀ a b, ∃ first second, (Builder.pieces a).run scope = (some first, scope) ∧
      (Builder.pieces b).run scope = (some second, scope) ∧
      (Builder.pieces (a ++ b)).run scope = (some (first ++ second), scope)) ∧
    (∀ before inner after, (Builder.pieces (before ++ .fragment inner :: after)).run scope
      = (Builder.pieces (before ++ inner ++ after)).run scope) ∧
    (∀ before child after, ((Builder.piecesOfChild child).run scope).1 = none →
      (Builder.pieces (before ++ child :: after)).run scope
        = (Builder.pieces (before ++ after)).run scope) ∧
    ∀ tag attributes, tag? tag = some .view ∨ tag? tag = some .stack →
      ∃ build : Option (List Node → Node),
        (∀ make ∈ build, ∀ nodes, (make nodes).children = nodes) ∧
        ∀ children, (Builder.element (.mk tag attributes children)).run scope
          = (build.map fun make => make ((children.flatMap (alone scope)).map Piece.toNode),
              scope) := by
  refine ⟨fun a b => ?_, fun before inner after => ?_, fun before child after hfails => ?_,
    fun tag attributes container => ?_⟩
  · refine ⟨_, _, Builder.run_pieces scope a, Builder.run_pieces scope b, ?_⟩
    rw [Builder.run_pieces, pieces_append]
  · simp only [Builder.run_pieces, pieces_append, pieces_cons_fragment, List.append_assoc]
  · have hchild : child? scope child = none := by rwa [Builder.run_piecesOfChild] at hfails
    simp only [Builder.run_pieces, pieces_append, pieces_cons_of_none hchild]
  · obtain ⟨build, hmake, hbuild⟩ := element?_container scope attributes container
    refine ⟨build, hmake, fun children => ?_⟩
    rw [Builder.run_element, hbuild, pieces_eq_flatMap]

/-- A callback that fails behind its own `x` takes nothing from the sibling that shows the outer
one. -/
theorem siblings_independent_shadowed :
    let scope : Scope := ⟨[[("x", .string "outer")]]⟩
    let failing : Child := .expression (.call (.member (.array [.value (.string "a")]) "map")
      [.value (.function (.mk [.mk (some "x") []] [] (.block
        [.declare .constant [.mk (some "y") [] (some (.identifier "unknown"))],
          .returns (some (.identifier "y"))])))])
    let shown : Child := .fragment [.expression (.identifier "x")]
    ((Builder.piecesOfChild failing).run scope).1 = none ∧
    (Builder.pieces [failing, shown]).run scope = (Builder.pieces [shown]).run scope ∧
    tag? "View" = some .view ∧
    ∃ build : Option (List Node → Node),
      (∀ make ∈ build, ∀ nodes, (make nodes).children = nodes) ∧
      (Builder.element (.mk "View" [] [failing, shown])).run scope
        = (build.map fun make => make [.text {} (.string "outer")], scope) := by
  intro scope failing shown
  obtain ⟨-, -, hremove, hcontainer⟩ := siblings_independent scope
  have hfails : ((Builder.piecesOfChild failing).run scope).1 = none := by rfl
  have htag : tag? "View" = some .view := by decide
  obtain ⟨build, hmake, hbuild⟩ := hcontainer "View" [] (.inl htag)
  exact ⟨hfails, hremove [] failing [shown] hfails, htag, build, hmake, hbuild [failing, shown]⟩

end Widgetry.Markup
