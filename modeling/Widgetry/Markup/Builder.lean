import Widgetry.Markup.Build

/-!
A builder that keeps one scope while it works. It opens a frame for every run of a callback and for
every declaration inside one, and closes it behind them, whether they succeed or fail.
-/

namespace Widgetry.Markup

open Source (Expr Item Function Param Body Statement Declarator Element Attribute AttributeValue Child)

/-- Work of a builder on its scope. What was done to the scope before a failure stays done. -/
abbrev Builder := OptionT (StateM Scope)

namespace Builder

variable {α : Type}

/-- Work that is known beforehand. -/
def lift (value : Option α) : Builder α := fun scope => (value, scope)

/-- Reads something off the scope of this moment. -/
def ask (read : Scope → Option α) : Builder α := fun scope => (read scope, scope)

/-- Works with a frame that is closed again at the end, also after a failure. -/
def within (frame : Frame) (work : Builder α) : Builder α := fun scope =>
  let (result, after) := work.run (scope.push frame)
  (result, after.pop)

/-- Work whose failure is left out. -/
def orEmpty (work : Builder (List α)) : Builder (List α) := fun scope =>
  let (result, after) := work.run scope
  (some (result.getD []), after)

/-! ## Declarations -/

/-- Binds a declared variable in the innermost frame. -/
def declare : Declarator → Builder Unit
  | .mk (some name) _ (some value) => do
    let value ← ask value.fold?
    modify (·.bind name value)
  | .mk (some name) _ none => modify (·.bind name .undefined)
  | .mk none _ _ => failure

/-- Binds variables one after the other, up to the first that fails. -/
def declareAll : List Declarator → Builder Unit
  | [] => pure ()
  | declarator :: rest => do
    declare declarator
    declareAll rest

/-! ## Attributes -/

/-- A callback, to be run on an item and its position. -/
abbrev Callback := Literal → Nat → Builder (List Piece)

/-- What stands behind the name of an attribute before it is looked at. -/
inductive Slot where
  /-- A value that is known. -/
  | literal (value : Literal)
  /-- A quoted text. -/
  | quoted (text : String)
  /-- An expression, the callback that it writes in place, and its name. -/
  | written (value : Expr) (callback : Option Callback) (name : String)
  /-- Something that has no value. -/
  | valueless

/-- What a callback gives in a scope. -/
def Callback.template (callback : Callback) (scope : Scope) : Template :=
  fun item position => ((callback item position).run scope).1

/-- What a slot holds in a scope. -/
def Slot.resolve (scope : Scope) : Slot → Given
  | .literal value => .literal value
  | .quoted text => .quoted text
  | .written value callback name =>
    .expression (value.fold? scope) (callback.map (·.template scope)) name
  | .valueless => .valueless

/-- The attributes of an element, which are looked at only when they are asked for. -/
abbrev Slots := Bag Slot

def Slots.resolve (scope : Scope) (slots : Slots) : Attributes :=
  slots.map fun slot => (slot.1, slot.2.resolve scope)

/-- Reads something off the attributes as they are at this moment. -/
def Slots.ask (slots : Slots) (read : Attributes → Option α) : Builder α :=
  Builder.ask fun scope => read (slots.resolve scope)

/-- The callback with these parameters that does `work`. -/
def callback (params : List Param) (work : Builder (List Piece)) : Callback :=
  fun item position => do
    let frame ← lift (callbackFrame? item position 0 [] params)
    within frame work

/-- Runs a callback on items, the first of which stands at `position`. -/
def runAll (callback : Callback) : Nat → List Literal → Builder (List Piece)
  | _, [] => pure []
  | position, item :: rest => do
    let first ← callback item position
    let others ← runAll callback (position + 1) rest
    return first ++ others

/-- A list whose template is written in place becomes a stack of what the template gives; any other
list names its template. -/
def list (slots : Slots) : Builder (Traits → Node) := do
  let items ← slots.ask listItems?
  let horizontal ← slots.ask (·.bool? "horizontal")
  match Bag.find? "renderItem" slots with
  | some (.written _ (some callback) _) =>
    let pieces ← runAll callback 0 items
    let axis := if horizontal = some true then .horizontal else .vertical
    return fun traits => .stack traits axis (pieces.map Piece.toNode)
  | some (.written _ none name) | some (.quoted name) =>
    return fun traits => .list traits (items.map Literal.toJson) name horizontal
  | _ => failure

/-- A node from the attributes of its element and its children. Only containers build these. -/
def node (slots : Slots) (children : List Child) (pieces : Builder (List Piece)) :
    NodeType → Builder (Traits → Node)
  | .view => do
    let pieces ← pieces
    return fun traits => .view traits (pieces.map Piece.toNode)
  | .stack => do
    let axis ← slots.ask (·.literal? "axis")
    let pieces ← pieces
    return fun traits => .stack traits (axisOf axis) (pieces.map Piece.toNode)
  | .list => list slots
  | type => ask fun scope => nodeOf? type (slots.resolve scope) [] (textContent scope children)

/-! ## Elements, children and callbacks -/

mutual

/-- The node of an element. Its traits are looked at when its children are built. -/
def element : Element → Builder Node
  | .mk tag attributes children => do
    let type ← lift (tag? tag)
    let slots ← slots [] attributes
    let build ← node slots children (pieces children) type
    let traits ← slots.ask Attributes.traits?
    return build traits

/-- The attributes of an element. Only spreads are looked at here. -/
def slots (found : Slots) : List Attribute → Builder Slots
  | [] => pure found
  | .named name value :: rest => slots (Bag.put name (slot value) found) rest
  | .namespaced _ :: _ => failure
  | .spread value :: rest => do
    match ← ask value.fold? with
    | .object members =>
      slots (Bag.putAll found (members.map fun member => (member.1, .literal member.2))) rest
    | _ => failure

def slot : AttributeValue → Slot
  | .flag => .literal (.bool true)
  | .text value => .quoted value
  | .expression value written =>
    let name := match value with
      | .identifier name => name
      | _ => written
    .written value (callback? value) name
  | .markup _ => .valueless
  | .empty => .valueless

/-- The callback that an expression writes in place. -/
def callback? : Expr → Option Callback
  | .paren inner => callback? inner
  | .function (.mk params _ body) =>
    match body with
    | .absent => none
    | body => some (callback params (runBody body))
  | _ => none

/-- What the body of a callback gives. -/
def runBody : Body → Builder (List Piece)
  | .absent => failure
  | .concise value => expand value
  | .block statements => runStatements statements

/-- What the statements of a callback give: declarations, and then a result. -/
def runStatements : List Statement → Builder (List Piece)
  | [] => pure []
  | .declare _ declarators :: rest => within [] do
    declareAll declarators
    runStatements rest
  | .returns (some value) :: _ => expand value
  | .returns none :: _ => pure []
  | .empty :: rest => runStatements rest
  | _ => failure

/-- The pieces of all children; a child that fails is left out. -/
def pieces : List Child → Builder (List Piece)
  | [] => pure []
  | child :: rest => do
    let first ← orEmpty (piecesOfChild child)
    let others ← pieces rest
    return first ++ others

/-- The pieces of one child. -/
def piecesOfChild : Child → Builder (List Piece)
  | .text raw =>
    let text := normalizeText raw
    pure (if text.isEmpty then [] else [.text (.string text)])
  | .element value => do
    let node ← element value
    return [.node node]
  | .fragment children => pieces children
  | .expression value => expand value
  | .empty => pure []
  | .spread _ => failure

/-- The pieces of an expression in the place of a child. -/
def expand : Expr → Builder (List Piece)
  | .paren inner => expand inner
  | .cast .asType inner => expand inner
  | .cast .nonNull inner => expand inner
  | .element value => do
    let node ← element value
    return [.node node]
  | .fragment children => pieces children
  | .logical op left right => do
    let value ← ask left.fold?
    if Expr.needsRight op value then expand right else lift (piecesOf? value)
  | .conditional test consequent alternate => do
    let value ← ask test.fold?
    if value.isTruthy then expand consequent else expand alternate
  | .array items => expandItems items
  | .call (.member owner name) arguments =>
    if name = "map" then do
      let value ← ask owner.fold?
      match value, argumentCallback? arguments with
      | .array items, some callback => runAll callback 0 items
      | _, _ => failure
    else failure
  | .call .. => failure
  | other => do
    let value ← ask other.fold?
    lift (piecesOf? value)

/-- The pieces of the items of a list, which have to be plain. -/
def expandItems : List Item → Builder (List Piece)
  | [] => pure []
  | .value value :: rest => do
    let first ← expand value
    let others ← expandItems rest
    return first ++ others
  | _ => failure

/-- The callback that is the first argument of a call. -/
def argumentCallback? : List Item → Option Callback
  | .value value :: _ => callback? value
  | _ => none

end

/-- The node of an expression that is markup; a fragment of several nodes becomes a view. -/
def markup : Expr → Builder Node
  | .paren inner => markup inner
  | .element value => element value
  | .fragment children => do
    match (← pieces children).map Piece.toNode with
    | [] => failure
    | [node] => return node
    | nodes => return .view {} nodes
  | _ => failure

end Builder

end Widgetry.Markup
