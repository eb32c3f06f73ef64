import Widgetry.Spelling
import Widgetry.Style.Basic

/-!
Nodes: the tree of a widget's interface. Every node has its own contents and the traits that all
nodes share.
-/

namespace Widgetry

/-! ## Words -/

inductive Axis where
  | horizontal
  | vertical
deriving DecidableEq, Repr

instance : Spelling Axis where
  all := [.horizontal, .vertical]
  word
    | .horizontal => "horizontal"
    | .vertical => "vertical"

inductive ButtonVariant where
  | primary
  | secondary
  | ghost
deriving DecidableEq, Repr

instance : Spelling ButtonVariant where
  all := [.primary, .secondary, .ghost]
  word
    | .primary => "primary"
    | .secondary => "secondary"
    | .ghost => "ghost"

inductive ButtonSize where
  | small
  | medium
  | large
deriving DecidableEq, Repr

instance : Spelling ButtonSize where
  all := [.small, .medium, .large]
  word
    | .small => "small"
    | .medium => "medium"
    | .large => "large"

inductive ResizeMode where
  | cover
  | contain
  | fill
  | scaleDown
  | none
deriving DecidableEq, Repr

instance : Spelling ResizeMode where
  all := [.cover, .contain, .fill, .scaleDown, .none]
  word
    | .cover => "cover"
    | .contain => "contain"
    | .fill => "fill"
    | .scaleDown => "scale-down"
    | .none => "none"

inductive ActionType where
  | deeplink
  | openApp
  | refresh
  | custom
deriving DecidableEq, Repr

instance : Spelling ActionType where
  all := [.deeplink, .openApp, .refresh, .custom]
  word
    | .deeplink => "deeplink"
    | .openApp => "openApp"
    | .refresh => "refresh"
    | .custom => "custom"

inductive BindingSource where
  | localStore
  | remote
  | shared
deriving DecidableEq, Repr

instance : Spelling BindingSource where
  all := [.localStore, .remote, .shared]
  word
    | .localStore => "local"
    | .remote => "remote"
    | .shared => "shared"

/-! ## Shared traits -/

structure Accessibility where
  label : Option String := none
  accessible : Option Bool := none
  role : Option String := none

def Accessibility.isEmpty (a : Accessibility) : Bool :=
  a.label.isNone && a.accessible.isNone && a.role.isNone

/-- What a tap asks for. -/
structure Action where
  type : ActionType
  url : Option String := none
  params : Option (Bag Json) := none
  appId : Option String := none

/-- The address of a deeplink that has one. -/
def Action.deeplink? (action : Action) : Option String :=
  match action.type with
  | .deeplink => action.url.filter fun url => !url.isEmpty
  | _ => none

/-- Where a node's contents come from. -/
structure DataBinding where
  source : BindingSource
  key : String
  fallback : Option Json := none
  transform : Option String := none

structure Traits where
  key : Option String := none
  style : Option Style := none
  accessibility : Option Accessibility := none
  action : Option Action := none
  dataBinding : Option DataBinding := none

instance : Inhabited Traits := ⟨{}⟩

/-! ## Nodes -/

inductive TextContent where
  | number (value : Float)
  | string (value : String)

def TextContent.display : TextContent → String
  | .number value => Double.numeral value
  | .string value => value

/-- The kinds of nodes. -/
inductive NodeType where
  | view
  | text
  | button
  | image
  | stack
  | spacer
  | progressBar
  | list
deriving DecidableEq, Repr

instance : Spelling NodeType where
  all := [.view, .text, .button, .image, .stack, .spacer, .progressBar, .list]
  word
    | .view => "View"
    | .text => "Text"
    | .button => "Button"
    | .image => "Image"
    | .stack => "Stack"
    | .spacer => "Spacer"
    | .progressBar => "ProgressBar"
    | .list => "List"

inductive Node where
  | view (traits : Traits) (children : List Node)
  | text (traits : Traits) (content : TextContent)
  | button (traits : Traits) (label : String) (variant : Option ButtonVariant)
      (size : Option ButtonSize)
  | image (traits : Traits) (uri : String) (resizeMode : Option ResizeMode)
      (placeholder : Option String)
  | stack (traits : Traits) (axis : Axis) (children : List Node)
  | spacer (traits : Traits) (flex : Option Float)
  | progressBar (traits : Traits) (progress : Float) (indeterminate : Option Bool)
  | list (traits : Traits) (items : List Json) (renderItem : String) (horizontal : Option Bool)

namespace Node

/-- An empty view. -/
def placeholder : Node := .view {} []

instance : Inhabited Node := ⟨placeholder⟩

def traits : Node → Traits
  | .view traits _ | .text traits _ | .button traits .. | .image traits .. | .stack traits ..
  | .spacer traits _ | .progressBar traits .. | .list traits .. => traits

def withTraits (traits : Traits) : Node → Node
  | .view _ children => .view traits children
  | .text _ content => .text traits content
  | .button _ label variant size => .button traits label variant size
  | .image _ uri resizeMode placeholder => .image traits uri resizeMode placeholder
  | .stack _ axis children => .stack traits axis children
  | .spacer _ flex => .spacer traits flex
  | .progressBar _ progress indeterminate => .progressBar traits progress indeterminate
  | .list _ items renderItem horizontal => .list traits items renderItem horizontal

def style? (node : Node) : Option Style := node.traits.style

def children : Node → List Node
  | .view _ children | .stack _ _ children => children
  | _ => []

def type : Node → NodeType
  | .view .. => .view
  | .text .. => .text
  | .button .. => .button
  | .image .. => .image
  | .stack .. => .stack
  | .spacer .. => .spacer
  | .progressBar .. => .progressBar
  | .list .. => .list

def typeName (node : Node) : String := Spelling.word node.type

mutual

/-- The number of nodes of a tree. -/
def count : Node → Nat
  | .view _ children => 1 + countAll children
  | .stack _ _ children => 1 + countAll children
  | _ => 1

def countAll : List Node → Nat
  | [] => 0
  | node :: rest => count node + countAll rest

end

end Node

end Widgetry
