import Widgetry.Style.Basic

/-!
The box of a node: padding, frame, background, border and shadow as its style fixes them. Sizes,
paddings and radii of zero count as absent.
-/

namespace Widgetry

/-- One padding all around, or one for each side that has its own. -/
inductive Padding where
  | uniform (value : Float)
  | edges (horizontal vertical top bottom left right : Option Float)

structure Size where
  width : Option Float
  height : Option Float
  minWidth : Option Float
  minHeight : Option Float
  maxWidth : Option Float
  maxHeight : Option Float

structure Border where
  width : Float
  color : String
  radius : Float

structure Shadow where
  color : Option String
  opacity : Float
  radius : Float
  offsetX : Float
  offsetY : Float

structure Box where
  padding : Option Padding := none
  size : Option Size := none
  aspectRatio : Option Float := none
  background : Option String := none
  cornerRadius : Option Float := none
  border : Option Border := none
  shadow : Option Shadow := none
  opacity : Option Float := none
  zIndex : Option Float := none

namespace Style

/-- One padding all around wins over the paddings of the sides. -/
def padding? (style : Style) : Option Padding :=
  match style.nonzero? "padding" with
  | some value => some (.uniform value)
  | none =>
    let horizontal := style.nonzero? "paddingHorizontal"
    let vertical := style.nonzero? "paddingVertical"
    let top := style.nonzero? "paddingTop"
    let bottom := style.nonzero? "paddingBottom"
    let left := style.nonzero? "paddingLeft"
    let right := style.nonzero? "paddingRight"
    if [horizontal, vertical, top, bottom, left, right].all Option.isNone then none
    else some (.edges horizontal vertical top bottom left right)

def size? (style : Style) : Option Size :=
  let size : Size :=
    { width := style.nonzero? "width"
      height := style.nonzero? "height"
      minWidth := style.nonzero? "minWidth"
      minHeight := style.nonzero? "minHeight"
      maxWidth := style.nonzero? "maxWidth"
      maxHeight := style.nonzero? "maxHeight" }
  if [size.width, size.height, size.minWidth, size.minHeight, size.maxWidth, size.maxHeight].all
      Option.isNone then none
  else some size

/-- A border needs a width and a colour. -/
def border? (style : Style) : Option Border :=
  match style.nonzero? "borderWidth", style.text? "borderColor" with
  | some width, some color => some ⟨width, color, (style.nonzero? "borderRadius").getD 0⟩
  | _, _ => none

def shadowKeys : List String :=
  ["shadowColor", "shadowOpacity", "shadowRadius", "shadowOffsetX", "shadowOffsetY"]

/-- Any of its keys makes a shadow; what it does not say is a soft shadow below. -/
def shadow? (style : Style) : Option Shadow :=
  if shadowKeys.any fun key => (style.get? key).isSome then
    some
      { color := style.text? "shadowColor"
        opacity := (style.number? "shadowOpacity").getD 0.2
        radius := (style.number? "shadowRadius").getD 4
        offsetX := (style.number? "shadowOffsetX").getD 0
        offsetY := (style.number? "shadowOffsetY").getD 2 }
  else none

def box (style : Style) : Box where
  padding := style.padding?
  size := style.size?
  aspectRatio := style.nonzero? "aspectRatio"
  background := style.text? "backgroundColor"
  cornerRadius := style.nonzero? "borderRadius"
  border := style.border?
  shadow := style.shadow?
  opacity := style.number? "opacity"
  zIndex := style.number? "zIndex"

end Style

end Widgetry
