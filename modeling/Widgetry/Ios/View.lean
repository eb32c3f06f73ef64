import Widgetry.Code.Basic
import Widgetry.Code.Identifier
import Widgetry.Colour
import Widgetry.Node.Layout
import Widgetry.Root.Basic

/-!
Nodes as SwiftUI views. What a style says follows a view as lines of modifiers, in a fixed order.
-/

namespace Widgetry.Ios

open Code Code.Phrase

/-- Dollar signs have no meaning inside quotes. -/
def quoting : Quoting := ⟨false⟩

def number (x : Float) : Phrase := measure x ""

/-- An argument behind its label. -/
def labelled (label : String) (value : Phrase) : Phrase := .word (label ++ ": ") :: value

/-- A colour by its channels, or else by the name of an asset. -/
def colour (text : String) : Phrase :=
  match Colour.ofHex? text with
  | some colour =>
    let channel (value : UInt8) : Phrase := word (Double.fixed 3 (Colour.unit value))
    call "Color"
      [word ".sRGB", labelled "red" (channel colour.red), labelled "green" (channel colour.green),
        labelled "blue" (channel colour.blue), labelled "opacity" (channel colour.alpha)]
  | none => call "Color" [quoted text]

/-- A line that modifies the view above it. -/
def modifier (name : String) (arguments : List Phrase) : Code :=
  .line (call ("." ++ name) arguments)

/-- The line that an optional value asks for. -/
def lineFor {α : Type} (value : Option α) (line : α → Code) : List Code := (value.map line).toList

/-! ## Text -/

def fontWeight? : String → Option String
  | "100" => some "ultraLight"
  | "200" => some "thin"
  | "300" => some "light"
  | "400" | "normal" => some "regular"
  | "500" => some "medium"
  | "600" => some "semibold"
  | "700" | "bold" => some "bold"
  | "800" => some "heavy"
  | "900" => some "black"
  | _ => none

def textAlignment? : String → Option String
  | "left" => some ".leading"
  | "center" => some ".center"
  | "right" => some ".trailing"
  | _ => none

def textCase? : String → Option String
  | "uppercase" => some ".uppercase"
  | "lowercase" => some ".lowercase"
  | _ => none

def textModifiers (style : Style) : List Code :=
  lineFor (style.number? "fontSize") (fun size =>
      modifier "font" [call ".system" [labelled "size" (number size)]])
    ++ lineFor ((style.text? "fontWeight").bind fontWeight?) (fun weight =>
      modifier "fontWeight" [word ("." ++ weight)])
    ++ (if style.text? "fontStyle" = some "italic" then [modifier "italic" []] else [])
    ++ lineFor (style.text? "color") (fun color => modifier "foregroundStyle" [colour color])
    ++ lineFor ((style.number? "numberOfLines").filter fun n => n > 0) (fun lines =>
      modifier "lineLimit" [number lines])
    ++ lineFor ((style.text? "textAlign").bind textAlignment?) (fun alignment =>
      modifier "multilineTextAlignment" [word alignment])
    ++ lineFor ((style.text? "textTransform").bind textCase?) (fun textCase =>
      modifier "textCase" [word textCase])
    ++ lineFor (style.nonzero? "letterSpacing") (fun spacing => modifier "kerning" [number spacing])

/-! ## Boxes -/

/-- Fixed sizes, or bounds in which fixed sizes count as both. -/
def sizeModifier (size : Size) : Code :=
  let flexible := [size.minWidth, size.maxWidth, size.minHeight, size.maxHeight].any Option.isSome
  let arguments : List (String × Option Float) :=
    if flexible then
      [("minWidth", size.minWidth.or size.width), ("maxWidth", size.maxWidth.or size.width),
        ("minHeight", size.minHeight.or size.height), ("maxHeight", size.maxHeight.or size.height)]
    else [("width", size.width), ("height", size.height)]
  modifier "frame" (arguments.filterMap fun argument =>
    argument.2.map fun value => labelled argument.1 (number value))

def paddingModifiers : Padding → List Code
  | .uniform value => [modifier "padding" [number value]]
  | .edges horizontal vertical top bottom left right =>
    [(".horizontal", horizontal), (".vertical", vertical), (".top", top), (".bottom", bottom),
      (".leading", left), (".trailing", right)].filterMap fun edge =>
        edge.2.map fun value => modifier "padding" [word edge.1, number value]

def borderModifier (border : Border) : Code :=
  modifier "overlay"
    [call "RoundedRectangle" [labelled "cornerRadius" (number border.radius)]
      ++ call ".stroke" [colour border.color, labelled "lineWidth" (number border.width)]]

def shadowModifier (shadow : Shadow) : Code :=
  let base := (shadow.color.map colour).getD (word "Color.black")
  modifier "shadow"
    [labelled "color" (base ++ call ".opacity" [number shadow.opacity]),
      labelled "radius" (number shadow.radius), labelled "x" (number shadow.offsetX),
      labelled "y" (number shadow.offsetY)]

def boxModifiers (box : Box) : List Code :=
  lineFor box.size sizeModifier
    ++ lineFor box.aspectRatio (fun ratio =>
      modifier "aspectRatio" [number ratio, labelled "contentMode" (word ".fit")])
    ++ lineFor box.background (fun background => modifier "background" [colour background])
    ++ lineFor box.opacity (fun opacity => modifier "opacity" [number opacity])
    ++ lineFor box.cornerRadius (fun radius => modifier "cornerRadius" [number radius])
    ++ lineFor box.border borderModifier
    ++ lineFor box.shadow shadowModifier
    ++ (box.padding.map paddingModifiers).getD []
    ++ lineFor box.zIndex (fun z => modifier "zIndex" [number z])

/-! ## Accessibility -/

def roleTrait? : String → Option String
  | "button" => some ".isButton"
  | "header" => some ".isHeader"
  | "image" => some ".isImage"
  | "link" => some ".isLink"
  | _ => none

def accessibilityModifiers (accessibility : Accessibility) : List Code :=
  lineFor accessibility.label (fun label => modifier "accessibilityLabel" [quoted label])
    ++ (if accessibility.accessible = some false then [modifier "accessibilityHidden" [word "true"]]
        else [])
    ++ lineFor (accessibility.role.bind roleTrait?) (fun role =>
      modifier "accessibilityAddTraits" [word role])

/-- The lines that every node can have behind it. -/
def traitModifiers (traits : Traits) : List Code :=
  boxModifiers traits.box ++ (traits.accessibility.map accessibilityModifiers).getD []

/-! ## Nodes -/

def rowAlignment : CrossAlign → String
  | .start => ".top"
  | .finish => ".bottom"
  | .baseline => ".firstTextBaseline"
  | .center | .stretch => ".center"

def columnAlignment : CrossAlign → String
  | .start => ".leading"
  | .finish => ".trailing"
  | _ => ".center"

def containerHead (layout : ContainerLayout) : Phrase :=
  let (container, alignment) :=
    match layout.axis with
    | .horizontal => ("HStack", rowAlignment layout.cross)
    | .vertical => ("VStack", columnAlignment layout.cross)
  call container [labelled "alignment" (word alignment), labelled "spacing" (number layout.gap)]

def contentMode? : ResizeMode → Option String
  | .cover | .fill => some ".fill"
  | .contain | .scaleDown => some ".fit"
  | .none => none

def image (uri : String) (resizeMode : Option ResizeMode) : Code :=
  let head := call "AsyncImage" [labelled "url" (call "URL" [labelled "string" (quoted uri)])]
  match resizeMode.bind contentMode? with
  | some mode =>
    .block .curly (head ++ word " ") " image in"
      [.line (word "image.resizable()" ++ call ".aspectRatio" [labelled "contentMode" (word mode)])]
      [.mk (word " placeholder: ") "" [say "Color.gray.opacity(0.2)"]]
  | none => .line head

def buttonStyle : ButtonVariant → String
  | .primary => ".borderedProminent"
  | .secondary => ".bordered"
  | .ghost => ".plain"

def controlSize : ButtonSize → String
  | .small => ".small"
  | .medium => ".regular"
  | .large => ".large"

/-- A stack that leads somewhere stands inside a link. -/
def linked (traits : Traits) (code : List Code) : List Code :=
  match traits.action.bind Action.deeplink? with
  | some url =>
    [braces (call "Link"
      [labelled "destination" (call "URL" [labelled "string" (quoted url)] ++ word "!")]) code]
  | none => code

mutual

/-- The view of a node. -/
def view : Node → List Code
  | .view traits [] => say "Color.clear" :: traitModifiers traits
  | .view traits children =>
    braces (containerHead (traits.layout .vertical)) (views children) :: traitModifiers traits
  | .stack traits axis children =>
    linked traits
      (braces (containerHead (traits.layout axis)) (views children) :: traitModifiers traits)
  | .text traits content =>
    .line (call "Text" [quoted content.display])
      :: ((traits.style.map textModifiers).getD [] ++ traitModifiers traits)
  | .button traits label variant size =>
    .line (call "Button" [quoted label] ++ word " \x7b\x7d")
      :: (lineFor variant (fun variant => modifier "buttonStyle" [word (buttonStyle variant)])
        ++ lineFor size (fun size => modifier "controlSize" [word (controlSize size)])
        ++ traitModifiers traits)
  | .image traits uri resizeMode _ => image uri resizeMode :: traitModifiers traits
  | .spacer traits flex =>
    say "Spacer()"
      :: ((if flex.any (· != 0) then [say ".frame(maxWidth: .infinity, maxHeight: .infinity)"]
          else [])
        ++ traitModifiers traits)
  | .progressBar traits progress indeterminate =>
    .line (call "ProgressView"
        (if indeterminate = some true then [] else [labelled "value" (number progress)]))
      :: traitModifiers traits
  | .list traits items renderItem horizontal =>
    braces (call "ScrollView" [word (if horizontal = some true then ".horizontal" else ".vertical")])
        [.remark s!"renderItem: {renderItem} ({items.length} items)"]
      :: traitModifiers traits

def views : List Node → List Code
  | [] => []
  | node :: rest => view node ++ views rest

end

/-- The file of a root that is a plain view. -/
def viewFile (root : Root) : List Code :=
  [say "import SwiftUI", .blank,
    enclose (s!"struct {identifier root.rootId}: View")
      [enclose "var body: some View" (view root.tree)]]

end Widgetry.Ios
