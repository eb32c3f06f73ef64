import Widgetry.Source.Tree

/-!
The forms of a source as one kind of thing, each with the forms that it is made of. A walk over the
parts of a form, the parts of these and so on meets everything in the order of the text.
-/

namespace Widgetry.Source

inductive Form where
  | expr (value : Expr)
  | item (value : Item)
  | member (value : Member)
  | function (value : Function)
  | param (value : Param)
  | body (value : Body)
  | statement (value : Statement)
  | declarator (value : Declarator)
  | part (value : Part)
  | element (value : Element)
  | attribute (value : Attribute)
  | attributeValue (value : AttributeValue)
  | child (value : Child)

namespace Form

/-- The body of a function, if it has one. -/
def ofBody : Body → List Form
  | .absent => []
  | value => [.body value]

/-- What a form is made of, in the order of the text. -/
def parts : Form → List Form
  | .expr value =>
    match value with
    | .string _ | .number _ | .bool _ | .null | .identifier _ => []
    | .template _ holes => holes.map .expr
    | .paren inner | .cast _ inner | .unary _ inner | .assertion inner => [.expr inner]
    | .member owner _ | .privateMember owner => [.expr owner]
    | .logical _ left right | .binary _ left right | .index left right | .assign left right =>
      [.expr left, .expr right]
    | .conditional test consequent alternate => [.expr test, .expr consequent, .expr alternate]
    | .array items => items.map .item
    | .object members => members.map .member
    | .call callee arguments => .expr callee :: arguments.map .item
    | .function value => [.function value]
    | .element value => [.element value]
    | .fragment children => children.map .child
    | .other parts => parts.map .part
  | .item (.value value) | .item (.spread value _) => [.expr value]
  | .item .hole => []
  | .member (.field _ value) | .member (.spread value _) => [.expr value]
  | .member (.computed key value) => [.expr key, .expr value]
  | .function (.mk params head code) => params.map .param ++ head.map .part ++ ofBody code
  | .param (.mk _ parts) => parts.map .part
  | .body .absent => []
  | .body (.concise value) => [.expr value]
  | .body (.block statements) => statements.map .statement
  | .statement value =>
    match value with
    | .declare _ declarators => declarators.map .declarator
    | .returns none | .empty => []
    | .returns (some value) | .expression value | .exportedDefault value => [.expr value]
    | .function value => [.function value]
    | .exported declaration => [.statement declaration]
    | .other parts => parts.map .part
  | .declarator (.mk _ parts value) => parts.map .part ++ value.toList.map .expr
  | .part (.expression value) => [.expr value]
  | .part (.statement value) => [.statement value]
  | .element (.mk _ attributes children) => attributes.map .attribute ++ children.map .child
  | .attribute (.named _ value) | .attribute (.namespaced value) => [.attributeValue value]
  | .attribute (.spread value) => [.expr value]
  | .attributeValue value =>
    match value with
    | .flag | .text _ | .empty => []
    | .expression value _ | .markup value => [.expr value]
  | .child value =>
    match value with
    | .text _ | .empty => []
    | .element value => [.element value]
    | .fragment children => children.map .child
    | .expression value | .spread value => [.expr value]

/-- A form is larger than its parts. -/
theorem sizeOf_lt_of_mem_parts {form part : Form} (h : part ∈ form.parts) :
    sizeOf part < sizeOf form := by
  -- A part comes from a field of the form, or from a member of a list in such a field.
  have hlist : ∀ {α : Type} [SizeOf α] (make : α → Form) (values : List α),
      (∀ value, sizeOf (make value) = 1 + sizeOf value) → part ∈ values.map make →
      sizeOf part ≤ sizeOf values := by
    intro α _ make values hmake hpart
    obtain ⟨value, hvalue, rfl⟩ := List.mem_map.1 hpart
    have hsize := List.sizeOf_lt_of_mem hvalue
    rw [hmake]
    omega
  have hbody : ∀ body, part ∈ ofBody body → sizeOf part ≤ 1 + sizeOf body := by
    intro body hpart
    cases body <;> simp_all [ofBody]
  cases form <;> rename_i value <;> cases value <;>
    simp only [parts, List.mem_append, List.mem_cons, List.not_mem_nil, or_false] at h <;> grind

/-- What holds for a form when it holds for its parts holds for all forms. -/
@[elab_as_elim]
theorem induction {motive : Form → Prop}
    (step : ∀ form, (∀ part ∈ form.parts, motive part) → motive form) (form : Form) :
    motive form :=
  step form fun part _ => induction step part
termination_by form
decreasing_by exact sizeOf_lt_of_mem_parts ‹_›

end Form

end Widgetry.Source
