import Widgetry.Android.Modifier
import Widgetry.Text.Case

/-!
Nodes as calls of composables, for screens of the app and for widgets of the home screen.
-/

namespace Widgetry.Android

open Code Code.Phrase

/-! ## Containers -/

def columnArrangement : MainArrange → String
  | .start => "Arrangement.Top"
  | .center => "Arrangement.Center"
  | .finish => "Arrangement.Bottom"
  | .spaceBetween => "Arrangement.SpaceBetween"
  | .spaceAround => "Arrangement.SpaceAround"
  | .spaceEvenly => "Arrangement.SpaceEvenly"

def rowArrangement : MainArrange → String
  | .start => "Arrangement.Start"
  | .center => "Arrangement.Center"
  | .finish => "Arrangement.End"
  | .spaceBetween => "Arrangement.SpaceBetween"
  | .spaceAround => "Arrangement.SpaceAround"
  | .spaceEvenly => "Arrangement.SpaceEvenly"

def horizontalAlignment : CrossAlign → Surface → String
  | .start, .screen => "Alignment.Start"
  | .finish, .screen => "Alignment.End"
  | _, .screen => "Alignment.CenterHorizontally"
  | .start, .glance => "Alignment.Horizontal.Start"
  | .finish, .glance => "Alignment.Horizontal.End"
  | _, .glance => "Alignment.Horizontal.CenterHorizontally"

def verticalAlignment : CrossAlign → Surface → String
  | .start, .screen => "Alignment.Top"
  | .finish, .screen => "Alignment.Bottom"
  | _, .screen => "Alignment.CenterVertically"
  | .start, .glance => "Alignment.Vertical.Top"
  | .finish, .glance => "Alignment.Vertical.Bottom"
  | _, .glance => "Alignment.Vertical.CenterVertically"

/-- Widgets know no arrangements: along the axis they have an alignment too. -/
def mainAlignment : Axis → MainArrange → String
  | .vertical, .center => "Alignment.Vertical.CenterVertically"
  | .vertical, .finish => "Alignment.Vertical.Bottom"
  | .vertical, _ => "Alignment.Vertical.Top"
  | .horizontal, .center => "Alignment.Horizontal.CenterHorizontally"
  | .horizontal, .finish => "Alignment.Horizontal.End"
  | .horizontal, _ => "Alignment.Horizontal.Start"

/-- How children are spread; a gap between them wins over an arrangement. -/
def spread (layout : ContainerLayout) (arrangement : String) : Phrase :=
  if layout.gap > 0 then call "Arrangement.spacedBy" [dp layout.gap] else word arrangement

def containerArguments (layout : ContainerLayout) : Surface → List Phrase
  | .screen =>
    match layout.axis with
    | .vertical =>
      [named "verticalArrangement" (spread layout (columnArrangement layout.main)),
        named "horizontalAlignment" (word (horizontalAlignment layout.cross .screen))]
    | .horizontal =>
      [named "horizontalArrangement" (spread layout (rowArrangement layout.main)),
        named "verticalAlignment" (word (verticalAlignment layout.cross .screen))]
  | .glance =>
    match layout.axis with
    | .vertical =>
      [named "verticalAlignment" (word (mainAlignment .vertical layout.main)),
        named "horizontalAlignment" (word (horizontalAlignment layout.cross .glance))]
    | .horizontal =>
      [named "horizontalAlignment" (word (mainAlignment .horizontal layout.main)),
        named "verticalAlignment" (word (verticalAlignment layout.cross .glance))]

def containerName : Axis → String
  | .horizontal => "Row"
  | .vertical => "Column"

/-! ## Text -/

/-- A text in the letters that its style asks for. -/
def transformed (style : Option Style) (text : String) : String :=
  match style.bind (·.text? "textTransform") with
  | some "uppercase" => Text.upper text
  | some "lowercase" => Text.lower text
  | _ => text

def screenWeight? : String → Option String
  | "100" => some "FontWeight.W100"
  | "200" => some "FontWeight.W200"
  | "300" => some "FontWeight.W300"
  | "400" | "normal" => some "FontWeight.Normal"
  | "500" => some "FontWeight.Medium"
  | "600" => some "FontWeight.W600"
  | "700" | "bold" => some "FontWeight.Bold"
  | "800" => some "FontWeight.W800"
  | "900" => some "FontWeight.W900"
  | _ => none

/-- Widgets know three weights. -/
def glanceWeight? : String → Option String
  | "100" | "200" | "300" | "400" | "normal" => some "FontWeight.Normal"
  | "500" => some "FontWeight.Medium"
  | "600" | "700" | "800" | "900" | "bold" => some "FontWeight.Bold"
  | _ => none

def textAlign? : String → Option String
  | "left" => some "TextAlign.Start"
  | "center" => some "TextAlign.Center"
  | "right" => some "TextAlign.End"
  | "justify" => some "TextAlign.Justify"
  | _ => none

def textColour? (style : Style) : Option Phrase := (style.text? "color").bind colour?

def fontSizePart (style : Style) : List Phrase :=
  partFor (style.number? "fontSize") fun size => named "fontSize" (sp size)

def weightPart (style : Style) (weight? : String → Option String) : List Phrase :=
  partFor ((style.text? "fontWeight").bind weight?) fun weight => named "fontWeight" (word weight)

def alignPart (style : Style) : List Phrase :=
  partFor ((style.text? "textAlign").bind textAlign?) fun align => named "textAlign" (word align)

def maxLinesPart (style : Style) : List Phrase :=
  partFor ((style.number? "numberOfLines").filter fun n => n > 0) fun lines =>
    named "maxLines" (measure lines "")

/-- The arguments that the style of a text adds. -/
def textArguments (style : Style) : Surface → List Phrase
  | .screen =>
    partFor (textColour? style) (named "color")
      ++ fontSizePart style
      ++ weightPart style screenWeight?
      ++ (if style.text? "fontStyle" = some "italic" then
            [named "fontStyle" (word "FontStyle.Italic")] else [])
      ++ partFor (style.nonzero? "letterSpacing") (fun spacing =>
        named "letterSpacing" (sp spacing))
      ++ maxLinesPart style
      ++ alignPart style
  | .glance =>
    (match partFor (textColour? style) (fun colour => named "color" (call "ColorProvider" [colour]))
        ++ fontSizePart style ++ weightPart style glanceWeight? ++ alignPart style with
      | [] => []
      | parts => [named "style" (call "TextStyle" parts)])
      ++ maxLinesPart style

/-! ## Leaves -/

def buttonName : Option ButtonVariant → String
  | some .secondary => "OutlinedButton"
  | some .ghost => "TextButton"
  | some .primary | none => "Button"

def contentScale : ResizeMode → String
  | .cover => "ContentScale.Crop"
  | .contain => "ContentScale.Fit"
  | .fill => "ContentScale.FillBounds"
  | .scaleDown => "ContentScale.Inside"
  | .none => "ContentScale.None"

/-- What an image says to those who do not see it. -/
def description (traits : Traits) : Phrase :=
  ((traits.accessibility.bind Accessibility.label).map quoted).getD (word "null")

def button (surface : Surface) (traits : Traits) (label : String)
    (variant : Option ButtonVariant) (modifier : List Phrase) : Code :=
  match surface with
  | .screen =>
    let tap := (traits.action.map screenAction).getD []
    .line (call (buttonName variant) (named "onClick" (braced tap) :: modifier)
      ++ word " " ++ braced (call "Text" [quoted label]))
  | .glance =>
    .line (call "Button"
      (named "text" (quoted label) :: named "onClick" (glanceAction traits.action) :: modifier))

/-- An image; a widget cannot load one and shows a picture that is bundled with it. -/
def image (surface : Surface) (traits : Traits) (uri : String) (resizeMode : Option ResizeMode)
    (modifier : List Phrase) : List Code :=
  match surface with
  | .screen =>
    [.line (call "AsyncImage"
      (named "model" (quoted uri) :: named "contentDescription" (description traits)
        :: (modifier ++ partFor resizeMode fun mode =>
          named "contentScale" (word (contentScale mode)))))]
  | .glance =>
    [.remark
        s!"Glance widgets cannot load network images; bundled placeholder used for {uri}",
      .line (call "Image"
        (named "provider" (word "ImageProvider(R.drawable.placeholder)")
          :: named "contentDescription" (description traits) :: modifier))]

def progressArgument (surface : Surface) (progress : Float) : Phrase :=
  named "progress"
    (match surface with
      | .screen => braced (float progress)
      | .glance => float progress)

def lazyName : Surface → Option Bool → String
  | .screen, some true => "LazyRow"
  | _, _ => "LazyColumn"

/-! ## Nodes -/

mutual

/-- The calls that show a node. `inContainer` says whether it stands in a row or column. -/
def composable (surface : Surface) (inContainer : Bool) : Node → List Code
  | .view traits [] =>
    [.line (call "Box" [named "modifier" (chain surface inContainer (.view traits []))]
      ++ word " \x7b\x7d")]
  | .view traits children =>
    [braces
      (call "Column" (chainArgument surface inContainer (.view traits children)
        ++ containerArguments (traits.layout .vertical) surface))
      (composables surface children)]
  | .stack traits axis children =>
    [braces
      (call (containerName axis) (chainArgument surface inContainer (.stack traits axis children)
        ++ containerArguments (traits.layout axis) surface))
      (composables surface children)]
  | .text traits content =>
    [.line (call "Text"
      (named "text" (quoted (transformed traits.style content.display))
        :: (chainArgument surface inContainer (.text traits content)
          ++ (traits.style.map fun style => textArguments style surface).getD [])))]
  | .button traits label variant size =>
    [button surface traits label variant
      (chainArgument surface inContainer (.button traits label variant size))]
  | .image traits uri resizeMode placeholder =>
    image surface traits uri resizeMode
      (chainArgument surface inContainer (.image traits uri resizeMode placeholder))
  | .spacer traits flex =>
    [.line (call "Spacer" [named "modifier" (chain surface inContainer (.spacer traits flex))])]
  | .progressBar traits progress indeterminate =>
    [.line (call "LinearProgressIndicator"
      ((if indeterminate = some true then [] else [progressArgument surface progress])
        ++ chainArgument surface inContainer (.progressBar traits progress indeterminate)))]
  | .list traits items renderItem horizontal =>
    [braces
      (call (lazyName surface horizontal)
        (chainArgument surface inContainer (.list traits items renderItem horizontal)))
      [.remark s!"renderItem: {renderItem} ({items.length} items)"]]

/-- The children of a row or column. -/
def composables (surface : Surface) : List Node → List Code
  | [] => []
  | node :: rest => composable surface true node ++ composables surface rest

end

end Widgetry.Android
