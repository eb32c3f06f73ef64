import Widgetry.Code.Basic
import Widgetry.Colour
import Widgetry.Node.Layout

/-!
Modifier chains for Android. A chain goes from the outside to the inside: the background stands
before the padding, so that it fills the padded box.
-/

namespace Widgetry.Android

open Code Code.Phrase

/-- Dollar signs are escaped inside quotes. -/
def quoting : Quoting := ⟨true⟩

/-- Where a composable is shown: on a screen of the app, or as a widget of the home screen. -/
inductive Surface where
  | screen
  | glance
deriving DecidableEq, Repr

def Surface.modifier : Surface → String
  | .screen => "Modifier"
  | .glance => "GlanceModifier"

/-! ## Values -/

def dp (x : Float) : Phrase := measure x ".dp"

def sp (x : Float) : Phrase := measure x ".sp"

def float (x : Float) : Phrase := measure x "f"

/-- An argument behind its name. -/
def named (name : String) (value : Phrase) : Phrase := .word (name ++ " = ") :: value

def colourLiteral (colour : Colour) : Phrase := call "Color" [word ("0x" ++ colour.digits)]

/-- A colour; a text that is none has no form here. -/
def colour? (text : String) : Option Phrase := (Colour.ofHex? text).map colourLiteral

/-- What an optional value adds to a list. -/
def partFor {α : Type} (value : Option α) (part : α → Phrase) : List Phrase :=
  (value.map part).toList

/-! ## Actions -/

/-- What a tap does on a screen. -/
def screenAction (action : Action) : Phrase :=
  match action.type with
  | .deeplink =>
    match action.deeplink? with
    | some url =>
      call "context.startActivity"
        [call "Intent" [word "Intent.ACTION_VIEW", call "Uri.parse" [quoted url]]]
    | none => [.note "deeplink"]
  | .openApp =>
    call "context.packageManager.getLaunchIntentForPackage"
        [(action.appId.map quoted).getD (word "context.packageName")]
      ++ word "?.let " ++ braced (word "context.startActivity(it)")
  | .refresh => [.note "refresh"]
  | .custom => [.note "custom"]

/-- What a tap does in a widget. -/
def glanceAction (action : Option Action) : Phrase :=
  match action.map Action.type with
  | some .refresh | some .custom => word "actionRunCallback<RefreshAction>()"
  | some .deeplink | some .openApp | none => word "actionStartActivity<MainActivity>()"

def clickable (surface : Surface) (action : Action) : Phrase :=
  match surface with
  | .screen => word "clickable " ++ braced (screenAction action)
  | .glance => call "clickable" [glanceAction (some action)]

/-! ## Boxes -/

def paddingParts : Padding → List Phrase
  | .uniform value => [call "padding" [dp value]]
  | .edges horizontal vertical top bottom left right =>
    [("horizontal", horizontal), ("vertical", vertical), ("top", top), ("bottom", bottom),
      ("start", left), ("end", right)].filterMap fun edge =>
        edge.2.map fun value => call "padding" [named edge.1 (dp value)]

/-- A lower and an upper bound, when there is one of them. -/
def boundsPart (name : String) (least greatest : Option Float) : List Phrase :=
  match partFor least (fun x => named "min" (dp x))
      ++ partFor greatest (fun x => named "max" (dp x)) with
  | [] => []
  | bounds => [call name bounds]

/-- Fixed sizes; bounds are known on screens only. -/
def sizeParts (surface : Surface) (size : Size) : List Phrase :=
  partFor size.width (fun x => call "width" [dp x])
    ++ partFor size.height (fun x => call "height" [dp x])
    ++ match surface with
      | .screen =>
        boundsPart "widthIn" size.minWidth size.maxWidth
          ++ boundsPart "heightIn" size.minHeight size.maxHeight
      | .glance => []

/-- A number moved into the range from zero to one. -/
def clampUnit (x : Float) : Float := if x < 0 then 0 else if 1 < x then 1 else x

/-- The colour of a shadow with its opacity in it; black unless it is known. -/
def shadowColour (shadow : Shadow) : Colour :=
  let base := (shadow.color.bind Colour.ofHex?).getD ⟨255, 0, 0, 0⟩
  let alpha := Double.ofFloat (Float.ofNat base.alpha.toNat * clampUnit shadow.opacity)
  { base with alpha := UInt8.ofNat alpha.round.truncate.toNat }

def corner (radius : Float) : Phrase := call "RoundedCornerShape" [dp radius]

def shadowPart (cornerRadius : Option Float) (shadow : Shadow) : Phrase :=
  let colour := colourLiteral (shadowColour shadow)
  call "shadow"
    [named "elevation" (dp shadow.radius), named "shape" (corner (cornerRadius.getD 0)),
      named "ambientColor" colour, named "spotColor" colour]

def borderPart? (border : Border) : Option Phrase :=
  (colour? border.color).map fun colour =>
    call "border" [dp border.width, colour, corner border.radius]

/-- What screen readers are told. -/
def semanticsPart? (accessibility : Accessibility) : Option Phrase :=
  if accessibility.accessible = some false then some (word "clearAndSetSemantics \x7b\x7d")
  else accessibility.label.map fun label =>
    word "semantics " ++ braced (named "contentDescription" (quoted label))

/-- The parts of a chain that only screens know, up to the shape. -/
def screenParts (traits : Traits) (box : Box) : List Phrase :=
  (traits.accessibility.bind semanticsPart?).toList
    ++ partFor box.zIndex (fun z => call "zIndex" [float z])
    ++ partFor box.opacity (fun opacity => call "alpha" [float opacity])
    ++ partFor box.shadow (shadowPart box.cornerRadius)
    ++ (box.border.bind borderPart?).toList
    ++ partFor box.cornerRadius (fun radius => call "clip" [corner radius])

/-- The parts of a chain after what a node itself starts it with. -/
def boxParts (surface : Surface) (traits : Traits) (box : Box) : List Phrase :=
  (match surface with
    | .screen => screenParts traits box
    | .glance => partFor box.cornerRadius (fun radius => call "cornerRadius" [dp radius]))
    ++ partFor (box.background.bind colour?) (fun colour => call "background" [colour])
    ++ (match surface with
      | .screen => partFor box.aspectRatio (fun ratio => call "aspectRatio" [float ratio])
      | .glance => [])
    ++ (box.size.map (sizeParts surface)).getD []
    ++ (box.padding.map paddingParts).getD []

/-- How much room a spacer takes. -/
def spacerPart (surface : Surface) (inContainer : Bool) (flex : Float) : Phrase :=
  if inContainer then
    match surface with
    | .screen => call "weight" [float flex]
    | .glance => word "defaultWeight()"
  else word "fillMaxSize()"

/-- The parts that the kind of a node and its action start a chain with. A button has its action
elsewhere. -/
def ownParts (surface : Surface) (inContainer : Bool) : Node → List Phrase
  | .spacer traits flex =>
    partFor (flex.filter fun flex => flex != 0) (spacerPart surface inContainer)
      ++ partFor traits.action (clickable surface)
  | .button .. => []
  | node => partFor node.traits.action (clickable surface)

/-- The chain of a node, if it has any parts. -/
def chain? (surface : Surface) (inContainer : Bool) (node : Node) : Option Phrase :=
  match ownParts surface inContainer node ++ boxParts surface node.traits node.box with
  | [] => none
  | parts => some (.word surface.modifier :: parts.flatMap fun part => .word "." :: part)

/-- The chain of a node, or an empty one. -/
def chain (surface : Surface) (inContainer : Bool) (node : Node) : Phrase :=
  (chain? surface inContainer node).getD (word surface.modifier)

/-- The argument for the chain of a node. -/
def chainArgument (surface : Surface) (inContainer : Bool) (node : Node) : List Phrase :=
  partFor (chain? surface inContainer node) (named "modifier")

end Widgetry.Android
