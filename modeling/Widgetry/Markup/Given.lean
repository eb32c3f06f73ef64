import Widgetry.Node.Basic
import Widgetry.Source.Fold

/-!
What an element is given: the values of its attributes, and the actions, data bindings and styles
that are read from them. A value that is asked for and is not known makes the element fail; that
failure is `none`.
-/

namespace Widgetry.Markup

/-- A child of an element as it is resolved: a node, or text that becomes one. -/
inductive Piece where
  | node (value : Node)
  | text (content : TextContent)

/-- What a callback gives for an item and its position. -/
abbrev Template := Literal → Nat → Option (List Piece)

/-- What stands behind the name of an attribute. -/
inductive Given where
  /-- A value that is known. -/
  | literal (value : Literal)
  /-- A quoted text. -/
  | quoted (text : String)
  /-- An expression: its value if it has one, its template if it is a callback, and its name. -/
  | expression (value : Option Literal) (template : Option Template) (name : String)
  /-- Something that has no value. -/
  | valueless

/-- The attributes of an element; the last value of a name counts. -/
abbrev Attributes := Bag Given

namespace Attributes

/-- The value of an attribute: `some none` when it is absent, and failure when it is there without
a value. -/
def literal? (given : Attributes) (name : String) : Option (Option Literal) :=
  match Bag.find? name given with
  | none => some none
  | some (.literal value) => some (some value)
  | some (.quoted text) => some (some (.string text))
  | some (.expression (some value) _ _) => some (some value)
  | some (.expression none _ _) => none
  | some .valueless => none

/-- A number; anything else that is there fails. -/
def number? (given : Attributes) (name : String) : Option (Option Float) :=
  match given.literal? name with
  | some none | some (some .undefined) => some none
  | some (some (.number value)) => some (some value)
  | _ => none

def bool? (given : Attributes) (name : String) : Option (Option Bool) :=
  match given.literal? name with
  | some none | some (some .undefined) => some none
  | some (some (.bool value)) => some (some value)
  | _ => none

/-- Texts and numbers as text; other values count as absent. -/
def text? (given : Attributes) (name : String) : Option (Option String) :=
  (given.literal? name).map fun value => value.bind Literal.text?

/-- A word of an enumeration; other values count as absent. -/
def word? {α : Type} [Spelling α] (given : Attributes) (name : String) : Option (Option α) :=
  (given.literal? name).map fun value => (value.bind Literal.string?).bind Spelling.ofWord?

/-! ## Traits -/

/-- A style, or several of which the later ones win. -/
def style? (given : Attributes) : Option Style :=
  let bag :=
    match given.literal? "style" with
    | some (some (.object members)) => some members
    | some (some (.array items)) =>
      some (items.foldl (fun merged item => Bag.putAll merged ((Literal.object? item).getD [])) [])
    | _ => none
  (bag.map Style.normalize).filter fun style => !style.isEmpty

def isParam : Literal → Bool
  | .string _ | .number _ | .bool _ => true
  | _ => false

/-- An action whose type is known; parameters are scalars. -/
def readAction? (members : Bag Literal) : Option Action := do
  let type ← Spelling.ofWord? (((Bag.find? "type" members).bind Literal.string?).getD "")
  let params :=
    match Bag.find? "params" members with
    | some (.object params) =>
      some ((params.filter fun param => isParam param.2).map fun param =>
        (param.1, param.2.toJson))
    | _ => none
  return {
    type
    url := (Bag.find? "url" members).bind Literal.text?
    params
    appId := (Bag.find? "appId" members).bind Literal.text? }

/-- A data binding whose source is known and that has a key. -/
def readBinding? (members : Bag Literal) : Option DataBinding := do
  let source ← Spelling.ofWord? (((Bag.find? "source" members).bind Literal.string?).getD "")
  let key ← (Bag.find? "key" members).bind Literal.text?
  return {
    source
    key
    fallback := (Bag.find? "fallback" members).map Literal.toJson
    transform := (Bag.find? "transform" members).bind Literal.text? }

/-- The object behind a name, when there is one that is known. -/
def object? (given : Attributes) (name : String) : Option (Bag Literal) :=
  match given.literal? name with
  | some (some (.object members)) => some members
  | _ => none

/-- The traits that every element can have. An unknown style, action or data binding is left out;
anything else that is unknown fails. -/
def traits? (given : Attributes) : Option Traits := do
  let key ← given.text? "key"
  let role ← do
    match ← given.text? "role" with
    | some role => pure (some role)
    | none => given.text? "accessibilityRole"
  let label ← given.text? "accessibilityLabel"
  let accessible ← given.bool? "accessible"
  let accessibility : Accessibility := { label, accessible, role }
  return {
    key
    style := given.style?
    accessibility := if accessibility.isEmpty then none else some accessibility
    action := (given.object? "action").bind readAction?
    dataBinding := (given.object? "dataBinding").bind readBinding? }

end Attributes

end Widgetry.Markup
