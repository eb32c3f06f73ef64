import Widgetry.Markup.Build
import Widgetry.Source.Comment

/-!
The tree of a file: the first element, in the order of the text, that can be built. The search goes
everywhere an expression can stand. Inside a function the constants of its body are known.
-/

namespace Widgetry.Markup

open Source (Expr Item Member Function Param Body Statement Declarator Part Element Attribute
  AttributeValue Child Program)

mutual

def findInExpr (scope : Scope) : Expr → Option Node
  | .string _ | .number _ | .bool _ | .null | .identifier _ => none
  | .template _ holes => findInExprs scope holes
  | .paren inner | .cast _ inner | .unary _ inner | .assertion inner => findInExpr scope inner
  | .member owner _ | .privateMember owner => findInExpr scope owner
  | .logical _ left right | .binary _ left right | .index left right | .assign left right =>
    (findInExpr scope left).or (findInExpr scope right)
  | .conditional test consequent alternate =>
    ((findInExpr scope test).or (findInExpr scope consequent)).or (findInExpr scope alternate)
  | .array items => findInItems scope items
  | .object members => findInMembers scope members
  | .call callee arguments => (findInExpr scope callee).or (findInItems scope arguments)
  | .function value => findInFunction scope value
  | .element value => findInElement scope value
  | .fragment children => findInChildren scope children
  | .other parts => findInParts scope parts

def findInExprs (scope : Scope) : List Expr → Option Node
  | [] => none
  | value :: rest => (findInExpr scope value).or (findInExprs scope rest)

def findInItems (scope : Scope) : List Item → Option Node
  | [] => none
  | .value value :: rest => (findInExpr scope value).or (findInItems scope rest)
  | .spread value _ :: rest => (findInExpr scope value).or (findInItems scope rest)
  | .hole :: rest => findInItems scope rest

def findInMembers (scope : Scope) : List Member → Option Node
  | [] => none
  | .field _ value :: rest => (findInExpr scope value).or (findInMembers scope rest)
  | .computed key value :: rest =>
    ((findInExpr scope key).or (findInExpr scope value)).or (findInMembers scope rest)
  | .spread value _ :: rest => (findInExpr scope value).or (findInMembers scope rest)

/-- The parameters of a function stand outside its body. -/
def findInFunction (scope : Scope) : Function → Option Node
  | .mk params head body =>
    ((findInParams scope params).or (findInParts scope head)).or (findInBody scope body)

def findInParams (scope : Scope) : List Param → Option Node
  | [] => none
  | .mk _ parts :: rest => (findInParts scope parts).or (findInParams scope rest)

def findInBody (scope : Scope) : Body → Option Node
  | .absent => none
  | .concise value => findInExpr (scope.push []) value
  | .block statements => findInStatements (enter scope statements) statements

def findInStatements (scope : Scope) : List Statement → Option Node
  | [] => none
  | statement :: rest => (findInStatement scope statement).or (findInStatements scope rest)

def findInStatement (scope : Scope) : Statement → Option Node
  | .declare _ declarators => findInDeclarators scope declarators
  | .returns none | .empty => none
  | .returns (some value) | .expression value | .exportedDefault value => findInExpr scope value
  | .function value => findInFunction scope value
  | .exported declaration => findInStatement scope declaration
  | .other parts => findInParts scope parts

def findInDeclarators (scope : Scope) : List Declarator → Option Node
  | [] => none
  | .mk _ parts none :: rest => (findInParts scope parts).or (findInDeclarators scope rest)
  | .mk _ parts (some value) :: rest =>
    ((findInParts scope parts).or (findInExpr scope value)).or (findInDeclarators scope rest)

def findInParts (scope : Scope) : List Part → Option Node
  | [] => none
  | .expression value :: rest => (findInExpr scope value).or (findInParts scope rest)
  | .statement value :: rest => (findInStatement scope value).or (findInParts scope rest)

/-- An element that cannot be built may hold one that can. -/
def findInElement (scope : Scope) : Element → Option Node
  | .mk tag attributes children =>
    ((element? scope (.mk tag attributes children)).or (findInAttributes scope attributes)).or
      (findInChildren scope children)

def findInAttributes (scope : Scope) : List Attribute → Option Node
  | [] => none
  | .named _ value :: rest => (findInAttributeValue scope value).or (findInAttributes scope rest)
  | .namespaced value :: rest => (findInAttributeValue scope value).or (findInAttributes scope rest)
  | .spread value :: rest => (findInExpr scope value).or (findInAttributes scope rest)

def findInAttributeValue (scope : Scope) : AttributeValue → Option Node
  | .flag | .text _ | .empty => none
  | .expression value _ | .markup value => findInExpr scope value

def findInChildren (scope : Scope) : List Child → Option Node
  | [] => none
  | .text _ :: rest => findInChildren scope rest
  | .empty :: rest => findInChildren scope rest
  | .element value :: rest => (findInElement scope value).or (findInChildren scope rest)
  | .fragment children :: rest => (findInChildren scope children).or (findInChildren scope rest)
  | .expression value :: rest => (findInExpr scope value).or (findInChildren scope rest)
  | .spread value :: rest => (findInExpr scope value).or (findInChildren scope rest)

end

/-- The tree of a file, and whether its statement is marked as a widget. -/
def findTree (text : String) : Program → Option (Node × Bool)
  | [] => none
  | top :: rest =>
    match findInStatement {} top.statement with
    | some node => some (node, Source.hasMarker text top.start Source.widgetMarker)
    | none => findTree text rest

end Widgetry.Markup
