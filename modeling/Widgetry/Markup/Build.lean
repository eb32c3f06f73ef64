import Widgetry.Literal.Scope
import Widgetry.Markup.Given
import Widgetry.Markup.Tag
import Widgetry.Markup.Text

/-!
Building nodes from markup. Conditions and repetitions are decided here, so that a node holds only
their outcome. An element that uses something unknown is not built; containers leave such children
out and go on.
-/

namespace Widgetry.Markup

open Source (Expr Item Function Param Body Statement Declarator Element Attribute AttributeValue
  Child)

/-! ## Declarations -/

/-- Binds a declared variable in the innermost frame. -/
def declare? (scope : Scope) : Declarator → Option Scope
  | .mk (some name) _ (some value) => (value.fold? scope).map fun value => scope.bind name value
  | .mk (some name) _ none => some (scope.bind name .undefined)
  | .mk none _ _ => none

/-- Binds variables one after the other; each sees the ones before. -/
def declareAll? (scope : Scope) : List Declarator → Option Scope
  | [] => some scope
  | declarator :: rest => (declare? scope declarator).bind fun scope => declareAll? scope rest

/-- Binds the constants that are known; the others stay as they are. -/
def declareKnown (scope : Scope) : List Declarator → Scope
  | [] => scope
  | declarator :: rest => declareKnown ((declare? scope declarator).getD scope) rest

/-- Binds the known constants among some statements. -/
def declareConstants (scope : Scope) : List Statement → Scope
  | [] => scope
  | .declare .constant declarators :: rest =>
    declareConstants (declareKnown scope declarators) rest
  | _ :: rest => declareConstants scope rest

/-- The scope inside a function: a frame with the constants of its body that are known. -/
def enter (scope : Scope) (statements : List Statement) : Scope :=
  declareConstants (scope.push []) statements

/-! ## Text -/

/-- The parts of a text, or `none` when it holds something else. -/
def textParts? (scope : Scope) : List Child → Option (List Literal)
  | [] => some []
  | .text raw :: rest =>
    let text := normalizeText raw
    (textParts? scope rest).map fun parts =>
      if text.isEmpty then parts else .string text :: parts
  | .expression value :: rest =>
    match value.fold? scope with
    | some (.string text) => (textParts? scope rest).map (.string text :: ·)
    | some (.number x) => (textParts? scope rest).map (.number x :: ·)
    | some (.bool _) | some .null | some .undefined => textParts? scope rest
    | _ => none
  | .empty :: rest => textParts? scope rest
  | _ => none

/-- The text of an element; one number alone stays a number, and what is unknown gives an empty
text. -/
def textContent (scope : Scope) (children : List Child) : TextContent :=
  match textParts? scope children with
  | some [.number x] => .number x
  | some parts => .string (String.join (parts.map Literal.toText))
  | none => .string ""

/-! ## Pieces -/

mutual

/-- What a value gives as a child: nothing for nullish and boolean values, and objects fail. -/
def piecesOf? : Literal → Option (List Piece)
  | .undefined | .null | .bool _ => some []
  | .string text => some [.text (.string text)]
  | .number x => some [.text (.number x)]
  | .array items => piecesOfAll? items
  | .object _ => none

def piecesOfAll? : List Literal → Option (List Piece)
  | [] => some []
  | item :: rest =>
    match piecesOf? item, piecesOfAll? rest with
    | some first, some others => some (first ++ others)
    | _, _ => none

end

def Piece.toNode : Piece → Node
  | .node value => value
  | .text content => Node.text {} content

/-- Runs a template on items, the first of which stands at `position`. -/
def Template.run? (template : Template) : Nat → List Literal → Option (List Piece)
  | _, [] => some []
  | position, item :: rest =>
    match template item position, run? template (position + 1) rest with
    | some first, some others => some (first ++ others)
    | _, _ => none

/-- The frame of a callback: its first parameter is the item and its second the position. -/
def callbackFrame? (item : Literal) (position : Nat) : Nat → Frame → List Param → Option Frame
  | _, frame, [] => some frame
  | _, _, .mk none _ :: _ => none
  | n, frame, .mk (some name) _ :: rest =>
    let value :=
      if n = 0 then item else if n = 1 then .number position.toFloat else .undefined
    callbackFrame? item position (n + 1) (Bag.put name value frame) rest

/-! ## Nodes from attributes -/

/-- The axis of a stack. -/
def axisOf : Option Literal → Axis
  | some (.string "horizontal") | some (.string "row") => .horizontal
  | _ => .vertical

/-- The label of a button: its attribute, or else its text, or else a word. -/
def buttonLabel? (given : Attributes) (content : TextContent) : Option String :=
  match given.literal? "label" with
  | none => none
  | some (some value) => value.text?
  | some none => some (if content.display.isEmpty then "Button" else content.display)

/-- The address of an image: its own attribute, or else that of its source. -/
def imageUri? (given : Attributes) : Option String :=
  match given.literal? "uri" with
  | none => none
  | some (some value) => some (value.text?.getD "")
  | some none =>
    match given.literal? "source" with
    | none => none
    | some (some (.object source)) =>
      some (((Bag.find? "uri" source).bind Literal.text?).getD "")
    | some (some value) => some (value.text?.getD "")
    | some none => some ""

/-- The items of a list. -/
def listItems? (given : Attributes) : Option (List Literal) := do
  let items ← do
    match ← given.literal? "items" with
    | some items => pure (some items)
    | none => given.literal? "data"
  match items with
  | some (.array items) => some items
  | none => some []
  | some _ => none

/-- A list whose template is written in place becomes a stack of what the template gives; any other
list names its template. -/
def list? (given : Attributes) : Option (Traits → Node) := do
  let items ← listItems? given
  let horizontal ← given.bool? "horizontal"
  match Bag.find? "renderItem" given with
  | some (.expression _ (some template) _) =>
    let pieces ← template.run? 0 items
    let axis := if horizontal = some true then .horizontal else .vertical
    return fun traits => .stack traits axis (pieces.map Piece.toNode)
  | some (.expression _ none name) =>
    return fun traits => .list traits (items.map Literal.toJson) name horizontal
  | some (.quoted name) =>
    return fun traits => .list traits (items.map Literal.toJson) name horizontal
  | _ => none

/-- A node from the attributes of its element, its children and its text. -/
def nodeOf? (type : NodeType) (given : Attributes) (children : List Piece)
    (content : TextContent) : Option (Traits → Node) := do
  match type with
  | .view => return fun traits => .view traits (children.map Piece.toNode)
  | .stack =>
    let axis ← given.literal? "axis"
    return fun traits => .stack traits (axisOf axis) (children.map Piece.toNode)
  | .text => return fun traits => .text traits content
  | .button =>
    let label ← buttonLabel? given content
    let variant ← given.word? "variant"
    let size ← given.word? "size"
    return fun traits => .button traits label variant size
  | .image =>
    let uri ← imageUri? given
    let placeholder ← given.text? "placeholder"
    let resizeMode ← given.word? "resizeMode"
    return fun traits => .image traits uri resizeMode placeholder
  | .spacer =>
    let flex ← given.number? "flex"
    return fun traits => .spacer traits flex
  | .progressBar =>
    let progress ← given.number? "progress"
    let indeterminate ← given.bool? "indeterminate"
    return fun traits => .progressBar traits (progress.getD 0) indeterminate
  | .list => list? given

/-! ## Elements, children and callbacks -/

mutual

/-- The node of an element. -/
def element? (scope : Scope) : Element → Option Node
  | .mk tag attributes children =>
    match tag? tag, attributes? scope [] attributes with
    | some type, some given => do
      let build ← nodeOf? type given (pieces scope children) (textContent scope children)
      let traits ← given.traits?
      return build traits
    | _, _ => none

/-- The attributes of an element; a spread has to be an object. -/
def attributes? (scope : Scope) (given : Attributes) : List Attribute → Option Attributes
  | [] => some given
  | .named name value :: rest =>
    attributes? scope (Bag.put name (attributeValue scope value) given) rest
  | .namespaced _ :: _ => none
  | .spread value :: rest =>
    match value.fold? scope with
    | some (.object members) =>
      attributes? scope (Bag.putAll given (members.map fun member => (member.1, .literal member.2)))
        rest
    | _ => none

def attributeValue (scope : Scope) : AttributeValue → Given
  | .flag => .literal (.bool true)
  | .text value => .quoted value
  | .expression value written =>
    let name := match value with
      | .identifier name => name
      | _ => written
    .expression (value.fold? scope) (template? scope value) name
  | .markup _ => .valueless
  | .empty => .valueless

/-- The template that an expression writes in place. -/
def template? (scope : Scope) : Expr → Option Template
  | .paren inner => template? scope inner
  | .function (.mk params _ body) =>
    match body with
    | .absent => none
    | body => some fun item position =>
      match callbackFrame? item position 0 [] params with
      | some frame => body? (scope.push frame) body
      | none => none
  | _ => none

/-- What the body of a callback gives. -/
def body? (scope : Scope) : Body → Option (List Piece)
  | .absent => none
  | .concise value => expand? scope value
  | .block statements => run? scope statements

/-- What the statements of a callback give: declarations, and then a result. -/
def run? (scope : Scope) : List Statement → Option (List Piece)
  | [] => some []
  | .declare _ declarators :: rest =>
    match declareAll? (scope.push []) declarators with
    | some scope => run? scope rest
    | none => none
  | .returns (some value) :: _ => expand? scope value
  | .returns none :: _ => some []
  | .empty :: rest => run? scope rest
  | _ => none

/-- The pieces of all children; a child that fails is left out. -/
def pieces (scope : Scope) : List Child → List Piece
  | [] => []
  | child :: rest => (child? scope child).getD [] ++ pieces scope rest

/-- The pieces of one child. -/
def child? (scope : Scope) : Child → Option (List Piece)
  | .text raw =>
    let text := normalizeText raw
    some (if text.isEmpty then [] else [.text (.string text)])
  | .element value => (element? scope value).map fun node => [.node node]
  | .fragment children => some (pieces scope children)
  | .expression value => expand? scope value
  | .empty => some []
  | .spread _ => none

/-- The pieces of an expression in the place of a child. -/
def expand? (scope : Scope) : Expr → Option (List Piece)
  | .paren inner => expand? scope inner
  | .cast .asType inner => expand? scope inner
  | .cast .nonNull inner => expand? scope inner
  | .element value => (element? scope value).map fun node => [.node node]
  | .fragment children => some (pieces scope children)
  | .logical op left right =>
    match left.fold? scope with
    | some value =>
      if Expr.needsRight op value then expand? scope right else piecesOf? value
    | none => none
  | .conditional test consequent alternate =>
    match test.fold? scope with
    | some value => if value.isTruthy then expand? scope consequent else expand? scope alternate
    | none => none
  | .array items => expandItems? scope items
  | .call (.member owner name) arguments =>
    if name = "map" then
      match owner.fold? scope, argumentTemplate? scope arguments with
      | some (.array items), some template => template.run? 0 items
      | _, _ => none
    else none
  | .call .. => none
  | other => (other.fold? scope).bind piecesOf?

/-- The pieces of the items of a list, which have to be plain. -/
def expandItems? (scope : Scope) : List Item → Option (List Piece)
  | [] => some []
  | .value value :: rest =>
    match expand? scope value, expandItems? scope rest with
    | some first, some others => some (first ++ others)
    | _, _ => none
  | _ => none

/-- The template that is the first argument of a call. -/
def argumentTemplate? (scope : Scope) : List Item → Option Template
  | .value value :: _ => template? scope value
  | _ => none

end

/-- The node of an expression that is markup; a fragment of several nodes becomes a view. -/
def markup? (scope : Scope) : Expr → Option Node
  | .paren inner => markup? scope inner
  | .element value => element? scope value
  | .fragment children =>
    match (pieces scope children).map Piece.toNode with
    | [] => none
    | [node] => some node
    | nodes => some (.view {} nodes)
  | _ => none

end Widgetry.Markup
