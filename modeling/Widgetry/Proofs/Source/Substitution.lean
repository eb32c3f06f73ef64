import Widgetry.Source.Fold

/-!
Putting an expression in the place of a name. Folding has no binders of its own, so a name that is
bound to the value of an expression and the expression itself, written in parentheses, cannot be
told apart.
-/

namespace Widgetry.Source

/-! ## Substitution -/

/-- A name, and the expression to be written in its place. -/
structure Substitution where
  name : String
  value : Expr

mutual

/-- Every occurrence of the name as an expression becomes the value in parentheses. The names of
members, parameters and variables are no such occurrences. -/
def Expr.substitute (s : Substitution) : Expr → Expr
  | .string text => .string text
  | .number x => .number x
  | .bool b => .bool b
  | .null => .null
  | .identifier other => if other = s.name then .paren s.value else .identifier other
  | .template texts holes => .template texts (substituteExprs s holes)
  | .paren inner => .paren (inner.substitute s)
  | .cast kind inner => .cast kind (inner.substitute s)
  | .unary op operand => .unary op (operand.substitute s)
  | .logical op left right => .logical op (left.substitute s) (right.substitute s)
  | .binary op left right => .binary op (left.substitute s) (right.substitute s)
  | .conditional test consequent alternate =>
    .conditional (test.substitute s) (consequent.substitute s) (alternate.substitute s)
  | .array items => .array (substituteItems s items)
  | .object members => .object (substituteMembers s members)
  | .member owner key => .member (owner.substitute s) key
  | .index owner key => .index (owner.substitute s) (key.substitute s)
  | .privateMember owner => .privateMember (owner.substitute s)
  | .call callee arguments =>
    .call (callee.substitute s) (substituteItems s arguments)
  | .function function => .function (function.substitute s)
  | .element element => .element (element.substitute s)
  | .fragment children => .fragment (substituteChildren s children)
  | .assertion inner => .assertion (inner.substitute s)
  | .assign target assigned =>
    .assign (target.substitute s) (assigned.substitute s)
  | .other parts => .other (substituteParts s parts)

def substituteExprs (s : Substitution) : List Expr → List Expr
  | [] => []
  | first :: rest => first.substitute s :: substituteExprs s rest

def substituteItems (s : Substitution) : List Item → List Item
  | [] => []
  | .value item :: rest => .value (item.substitute s) :: substituteItems s rest
  | .spread item hasComma :: rest =>
    .spread (item.substitute s) hasComma :: substituteItems s rest
  | .hole :: rest => .hole :: substituteItems s rest

/-- The name of a field stays, also where the field is written as its name alone. -/
def substituteMembers (s : Substitution) : List Member → List Member
  | [] => []
  | .field key member :: rest =>
    .field key (member.substitute s) :: substituteMembers s rest
  | .computed key member :: rest =>
    .computed (key.substitute s) (member.substitute s)
      :: substituteMembers s rest
  | .spread member hasComma :: rest =>
    .spread (member.substitute s) hasComma :: substituteMembers s rest

def Function.substitute (s : Substitution) : Function → Function
  | .mk params head body =>
    .mk (substituteParams s params) (substituteParts s head)
      (body.substitute s)

def substituteParams (s : Substitution) : List Param → List Param
  | [] => []
  | .mk param parts :: rest =>
    .mk param (substituteParts s parts) :: substituteParams s rest

def Body.substitute (s : Substitution) : Body → Body
  | .absent => .absent
  | .concise result => .concise (result.substitute s)
  | .block statements => .block (substituteStatements s statements)

def substituteStatements (s : Substitution) : List Statement → List Statement
  | [] => []
  | statement :: rest => statement.substitute s :: substituteStatements s rest

def Statement.substitute (s : Substitution) : Statement → Statement
  | .declare kind declarators => .declare kind (substituteDeclarators s declarators)
  | .returns none => .returns none
  | .returns (some result) => .returns (some (result.substitute s))
  | .expression inner => .expression (inner.substitute s)
  | .empty => .empty
  | .function function => .function (function.substitute s)
  | .exported declaration => .exported (declaration.substitute s)
  | .exportedDefault inner => .exportedDefault (inner.substitute s)
  | .other parts => .other (substituteParts s parts)

def substituteDeclarators (s : Substitution) : List Declarator → List Declarator
  | [] => []
  | .mk declared parts none :: rest =>
    .mk declared (substituteParts s parts) none :: substituteDeclarators s rest
  | .mk declared parts (some initial) :: rest =>
    .mk declared (substituteParts s parts) (some (initial.substitute s))
      :: substituteDeclarators s rest

def substituteParts (s : Substitution) : List Part → List Part
  | [] => []
  | .expression inner :: rest =>
    .expression (inner.substitute s) :: substituteParts s rest
  | .statement inner :: rest =>
    .statement (inner.substitute s) :: substituteParts s rest

def Element.substitute (s : Substitution) : Element → Element
  | .mk tag attributes children =>
    .mk tag (substituteAttributes s attributes) (substituteChildren s children)

def substituteAttributes (s : Substitution) : List Attribute → List Attribute
  | [] => []
  | .named key given :: rest =>
    .named key (given.substitute s) :: substituteAttributes s rest
  | .namespaced given :: rest =>
    .namespaced (given.substitute s) :: substituteAttributes s rest
  | .spread given :: rest =>
    .spread (given.substitute s) :: substituteAttributes s rest

def AttributeValue.substitute (s : Substitution) : AttributeValue → AttributeValue
  | .flag => .flag
  | .text text => .text text
  | .expression inner written => .expression (inner.substitute s) written
  | .markup inner => .markup (inner.substitute s)
  | .empty => .empty

def substituteChildren (s : Substitution) : List Child → List Child
  | [] => []
  | .text raw :: rest => .text raw :: substituteChildren s rest
  | .element element :: rest =>
    .element (element.substitute s) :: substituteChildren s rest
  | .fragment children :: rest =>
    .fragment (substituteChildren s children) :: substituteChildren s rest
  | .expression inner :: rest =>
    .expression (inner.substitute s) :: substituteChildren s rest
  | .empty :: rest => .empty :: substituteChildren s rest
  | .spread inner :: rest =>
    .spread (inner.substitute s) :: substituteChildren s rest

end

/-! ## Scopes -/

namespace Substitution

/-- Of every name, the inner scope knows what the outer one makes of the expression in its place. -/
def Agrees (s : Substitution) (inner outer : Scope) : Prop :=
  ∀ other, Expr.name? inner other = ((Expr.identifier other).substitute s).fold? outer

/-- A name in an innermost frame of its own agrees with an expression that has its value. -/
theorem agrees_push {name : String} {value : Expr} {scope : Scope} {literal : Literal}
    (h : value.fold? scope = some literal) :
    Agrees ⟨name, value⟩ (scope.push [(name, literal)]) scope := by
  intro other
  by_cases hn : other = name
  · subst hn
    simp [Expr.substitute, Expr.fold?, Expr.name?, Scope.lookup?, Scope.push, Bag.find?, h]
  · simp [Expr.substitute, Expr.fold?, Expr.name?, Scope.lookup?, Scope.push, Bag.find?, hn,
      Ne.symm hn]

/-- A name without a value agrees with an expression that has none. -/
theorem agrees_self {name : String} {value : Expr} {scope : Scope}
    (hname : Expr.name? scope name = none) (h : value.fold? scope = none) :
    Agrees ⟨name, value⟩ scope scope := by
  intro other
  by_cases hn : other = name
  · subst hn
    simp [Expr.substitute, Expr.fold?, hname, h]
  · simp [Expr.substitute, Expr.fold?, hn]

end Substitution

/-! ## Folding -/

section Folding

variable {s : Substitution} {inner outer : Scope}

-- Every form hands its parts on with the same two scopes, and only identifiers look into them, so
-- the agreement of the scopes is all that carries the induction.
mutual

theorem fold?_substitute_of_agrees (agree : s.Agrees inner outer) :
    (e : Expr) → e.fold? inner = (e.substitute s).fold? outer
  | .string _ => by simp only [Expr.substitute, Expr.fold?]
  | .number _ => by simp only [Expr.substitute, Expr.fold?]
  | .bool _ => by simp only [Expr.substitute, Expr.fold?]
  | .null => by simp only [Expr.substitute, Expr.fold?]
  | .identifier other => by
    rw [← agree other, Expr.fold?]
  | .template texts holes => by
    simp only [Expr.substitute, Expr.fold?]
    rw [foldTexts?_substitute agree holes]
  | .paren e => by
    simp only [Expr.substitute, Expr.fold?]
    exact fold?_substitute_of_agrees agree e
  | .cast _ e => by
    simp only [Expr.substitute, Expr.fold?]
    exact fold?_substitute_of_agrees agree e
  | .unary _ e => by
    simp only [Expr.substitute, Expr.fold?]
    rw [fold?_substitute_of_agrees agree e]
  | .logical _ left right => by
    simp only [Expr.substitute, Expr.fold?]
    rw [fold?_substitute_of_agrees agree left, fold?_substitute_of_agrees agree right]
  | .binary _ left right => by
    simp only [Expr.substitute, Expr.fold?]
    rw [fold?_substitute_of_agrees agree left, fold?_substitute_of_agrees agree right]
  | .conditional test consequent alternate => by
    simp only [Expr.substitute, Expr.fold?]
    rw [fold?_substitute_of_agrees agree test, fold?_substitute_of_agrees agree consequent,
      fold?_substitute_of_agrees agree alternate]
  | .array items => by
    simp only [Expr.substitute, Expr.fold?]
    rw [foldItems?_substitute agree items]
  | .object members => by
    simp only [Expr.substitute, Expr.fold?]
    rw [foldMembers?_substitute agree [] members]
  | .member owner _ => by
    simp only [Expr.substitute, Expr.fold?]
    rw [fold?_substitute_of_agrees agree owner]
  | .index owner key => by
    simp only [Expr.substitute, Expr.fold?]
    rw [fold?_substitute_of_agrees agree owner, fold?_substitute_of_agrees agree key]
  | .privateMember _ => by simp only [Expr.substitute, Expr.fold?]
  | .call .. => by simp only [Expr.substitute, Expr.fold?]
  | .function _ => by simp only [Expr.substitute, Expr.fold?]
  | .element _ => by simp only [Expr.substitute, Expr.fold?]
  | .fragment _ => by simp only [Expr.substitute, Expr.fold?]
  | .assertion _ => by simp only [Expr.substitute, Expr.fold?]
  | .assign .. => by simp only [Expr.substitute, Expr.fold?]
  | .other _ => by simp only [Expr.substitute, Expr.fold?]

theorem foldTexts?_substitute (agree : s.Agrees inner outer) :
    (holes : List Expr) →
      Expr.foldTexts? inner holes = Expr.foldTexts? outer (substituteExprs s holes)
  | [] => by simp only [substituteExprs, Expr.foldTexts?]
  | hole :: rest => by
    simp only [substituteExprs, Expr.foldTexts?]
    rw [fold?_substitute_of_agrees agree hole, foldTexts?_substitute agree rest]

theorem foldItems?_substitute (agree : s.Agrees inner outer) :
    (items : List Item) →
      Expr.foldItems? inner items = Expr.foldItems? outer (substituteItems s items)
  | [] => by simp only [substituteItems, Expr.foldItems?]
  | .value item :: rest => by
    simp only [substituteItems, Expr.foldItems?]
    rw [fold?_substitute_of_agrees agree item, foldItems?_substitute agree rest]
  | .spread item _ :: rest => by
    simp only [substituteItems, Expr.foldItems?]
    rw [fold?_substitute_of_agrees agree item, foldItems?_substitute agree rest]
  | .hole :: rest => by
    simp only [substituteItems, Expr.foldItems?]
    rw [foldItems?_substitute agree rest]

-- The members found so far differ from one member to the next, so they are bound here.
theorem foldMembers?_substitute (agree : s.Agrees inner outer) (found : Bag Literal) :
    (members : List Member) →
      Expr.foldMembers? inner found members
        = Expr.foldMembers? outer found (substituteMembers s members)
  | [] => by simp only [substituteMembers, Expr.foldMembers?]
  | .field key member :: rest => by
    simp only [substituteMembers, Expr.foldMembers?]
    rw [fold?_substitute_of_agrees agree member]
    split
    · exact foldMembers?_substitute agree _ rest
    · rfl
  | .computed .. :: _ => by simp only [substituteMembers, Expr.foldMembers?]
  | .spread member _ :: rest => by
    simp only [substituteMembers, Expr.foldMembers?]
    rw [fold?_substitute_of_agrees agree member]
    split
    · exact foldMembers?_substitute agree _ rest
    · exact foldMembers?_substitute agree _ rest
    · exact foldMembers?_substitute agree _ rest
    · rfl

end

end Folding

theorem name?_eq_none_of_lookup?_eq_none {scope : Scope} {name : String}
    (ordinary : name ∉ ["undefined", "NaN", "Infinity"]) (unbound : scope.lookup? name = none) :
    Expr.name? scope name = none := by
  unfold Expr.name? Expr.constant?
  rw [unbound]
  split <;> simp_all

/-- Folding through a constant is folding its initializer in its place: a name that is bound to the
value of an expression, or that is unbound like an expression without a value, may be replaced by
that expression wherever it stands. -/
theorem fold?_substitute (scope : Scope) (name : String) (value body : Expr)
    (ordinary : name ∉ ["undefined", "NaN", "Infinity"]) :
    (∀ literal, value.fold? scope = some literal →
      body.fold? (scope.push [(name, literal)]) = (body.substitute ⟨name, value⟩).fold? scope) ∧
    (value.fold? scope = none → scope.lookup? name = none →
      body.fold? scope = (body.substitute ⟨name, value⟩).fold? scope) := by
  constructor
  · intro literal h
    exact fold?_substitute_of_agrees (Substitution.agrees_push h) body
  · intro h unbound
    have hname := name?_eq_none_of_lookup?_eq_none ordinary unbound
    exact fold?_substitute_of_agrees (Substitution.agrees_self hname h) body

/-- With `n` bound to the value of `a.b`, the object `{n, ...a}` keeps the name of its field. -/
theorem fold?_substitute_shorthand :
    let scope : Scope := ⟨[[("a", .object [("b", .string "x")])]]⟩
    let value : Expr := .member (.identifier "a") "b"
    let body : Expr := .object [.field "n" (.identifier "n"), .spread (.identifier "a") false]
    "n" ∉ ["undefined", "NaN", "Infinity"] ∧ value.fold? scope = some (.string "x") ∧
      body.fold? (scope.push [("n", .string "x")])
        = (body.substitute ⟨"n", value⟩).fold? scope := by
  intro scope value body
  have ordinary : "n" ∉ ["undefined", "NaN", "Infinity"] := by decide
  have folds : value.fold? scope = some (.string "x") := by rfl
  exact ⟨ordinary, folds, (fold?_substitute scope "n" value body ordinary).1 _ folds⟩

end Widgetry.Source
