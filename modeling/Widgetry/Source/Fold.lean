import Widgetry.Literal.Operators
import Widgetry.Literal.Scope

/-!
Folding: the value of an expression that is known without running anything. Names are looked up in
a scope; what is not supported has no value, and neither has anything that needs it.
-/

namespace Widgetry.Source.Expr

/-- The names that have a value without being bound. -/
def constant? : String → Option Literal
  | "undefined" => some .undefined
  | "NaN" => some (.number Literal.notANumber)
  | "Infinity" => some (.number (Double.toFloat (.infinite false)))
  | _ => none

def name? (scope : Scope) (name : String) : Option Literal :=
  match scope.lookup? name with
  | some value => some value
  | none => constant? name

/-- A logical operator gives its left value, or else leaves the decision to the right one. -/
def needsRight (op : LogicalOp) (left : Literal) : Bool :=
  match op with
  | .and => left.isTruthy
  | .or => !left.isTruthy
  | .coalesce => left.isNullish

/-- The texts of a template with the texts of its holes between them. -/
def interleave : List String → List String → String
  | [], _ => ""
  | text :: texts, [] => text ++ interleave texts []
  | text :: texts, hole :: holes => text ++ hole ++ interleave texts holes

mutual

/-- The value of an expression in a scope. -/
def fold? (scope : Scope) : Expr → Option Literal
  | .string value => some (.string value)
  | .number value => some (.number value)
  | .bool value => some (.bool value)
  | .null => some .null
  | .identifier name => name? scope name
  | .template texts holes =>
    match foldTexts? scope holes with
    | some holes => some (.string (interleave texts holes))
    | none => none
  | .paren inner => fold? scope inner
  | .cast _ inner => fold? scope inner
  | .unary op operand =>
    match fold? scope operand with
    | some value => Literal.unary? op value
    | none => none
  | .logical op left right =>
    match fold? scope left with
    | some value => if needsRight op value then fold? scope right else some value
    | none => none
  | .binary op left right =>
    match fold? scope left, fold? scope right with
    | some a, some b => Literal.binary? op a b
    | _, _ => none
  | .conditional test consequent alternate =>
    match fold? scope test with
    | some value => if value.isTruthy then fold? scope consequent else fold? scope alternate
    | none => none
  | .array items => (foldItems? scope items).map .array
  | .object members => (foldMembers? scope [] members).map .object
  | .member owner name =>
    match fold? scope owner with
    | some value => Literal.member? name value
    | none => none
  | .index owner key =>
    match fold? scope owner, fold? scope key with
    | some value, some key => (Literal.key? key).bind fun key => Literal.member? key value
    | _, _ => none
  | .privateMember _ | .call .. | .function _ | .element _ | .fragment _ | .assertion _
  | .assign .. | .other _ => none

/-- The texts of the values of a template's holes. -/
def foldTexts? (scope : Scope) : List Expr → Option (List String)
  | [] => some []
  | hole :: rest =>
    match fold? scope hole, foldTexts? scope rest with
    | some value, some texts => some (value.toText :: texts)
    | _, _ => none

/-- The items of a list; a spread has to be a list itself. -/
def foldItems? (scope : Scope) : List Item → Option (List Literal)
  | [] => some []
  | .value value :: rest =>
    match fold? scope value, foldItems? scope rest with
    | some value, some items => some (value :: items)
    | _, _ => none
  | .spread value _ :: rest =>
    match fold? scope value, foldItems? scope rest with
    | some (.array spread), some items => some (spread ++ items)
    | _, _ => none
  | .hole :: rest => (foldItems? scope rest).map (.undefined :: ·)

/-- The members of an object, added to those found so far; a spread has to be an object or
nullish. -/
def foldMembers? (scope : Scope) (found : Bag Literal) : List Member → Option (Bag Literal)
  | [] => some found
  | .field name value :: rest =>
    match fold? scope value with
    | some value => foldMembers? scope (Bag.put name value found) rest
    | none => none
  | .spread value _ :: rest =>
    match fold? scope value with
    | some (.object members) => foldMembers? scope (Bag.putAll found members) rest
    | some .null | some .undefined => foldMembers? scope found rest
    | _ => none
  | .computed .. :: _ => none

end

end Widgetry.Source.Expr
