import Widgetry.Node.Basic
import Widgetry.Style.Box

/-!
The layout of a container: the axis along which its children stand, and how they are placed on
both axes.
-/

namespace Widgetry

/-- The place of children across the axis. -/
inductive CrossAlign where
  | start
  | center
  | finish
  | stretch
  | baseline
deriving DecidableEq, Repr

/-- The distribution of children along the axis. -/
inductive MainArrange where
  | start
  | center
  | finish
  | spaceBetween
  | spaceAround
  | spaceEvenly
deriving DecidableEq, Repr

structure ContainerLayout where
  axis : Axis
  cross : CrossAlign
  main : MainArrange
  gap : Float

/-- Children are centred unless the style says otherwise. -/
def CrossAlign.ofStyle (style : Option Style) : CrossAlign :=
  match style.bind (·.text? "alignItems") with
  | some "flex-start" => .start
  | some "flex-end" => .finish
  | some "stretch" => .stretch
  | some "baseline" => .baseline
  | _ => .center

def MainArrange.ofStyle (style : Option Style) : MainArrange :=
  match style.bind (·.text? "justifyContent") with
  | some "center" => .center
  | some "flex-end" => .finish
  | some "space-between" => .spaceBetween
  | some "space-around" => .spaceAround
  | some "space-evenly" => .spaceEvenly
  | _ => .start

namespace Traits

/-- The layout of a container with these traits. -/
def layout (axis : Axis) (traits : Traits) : ContainerLayout where
  axis
  cross := .ofStyle traits.style
  main := .ofStyle traits.style
  gap := (traits.style.bind (·.number? "gap")).getD 0

def box (traits : Traits) : Box :=
  match traits.style with
  | some style => style.box
  | none => {}

end Traits

namespace Node

/-- The axis of a node that has children. -/
def axis? : Node → Option Axis
  | .view .. => some .vertical
  | .stack _ axis _ => some axis
  | _ => none

def layout? (node : Node) : Option ContainerLayout :=
  node.axis?.map fun axis => node.traits.layout axis

def box (node : Node) : Box := node.traits.box

end Node

end Widgetry
