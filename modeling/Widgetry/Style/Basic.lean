import Widgetry.Literal.Basic

/-!
Styles: presentation attributes sorted into five buckets of known keys. Normalization takes a flat
bag of literals; for each known key the last scalar that the bag supplies counts, and everything
else is dropped.
-/

namespace Widgetry

/-! ## Values and keys -/

/-- A scalar as it stands in a style. -/
inductive StyleValue where
  | bool (value : Bool)
  | number (value : Float)
  | text (value : String)

namespace StyleValue

def number? : StyleValue → Option Float
  | .number value => some value
  | _ => none

def text? : StyleValue → Option String
  | .text value => some value
  | _ => none

/-- Booleans, numbers and texts are scalars. -/
def ofLiteral? : Literal → Option StyleValue
  | .bool value => some (.bool value)
  | .number value => some (.number value)
  | .string value => some (.text value)
  | _ => none

def toLiteral : StyleValue → Literal
  | .bool value => .bool value
  | .number value => .number value
  | .text value => .string value

def toJson : StyleValue → Json
  | .bool value => .bool value
  | .number value => Json.ofFloat value
  | .text value => .string value

end StyleValue

/-- What the value of a key has to be. -/
inductive ValueKind where
  | number
  /-- A number from zero to one. -/
  | fraction
  | text
  | oneOf (words : List String)
deriving DecidableEq, Repr

/-- The groups of style keys. -/
inductive Bucket where
  | layout
  | typography
  | colors
  | borders
  | shadows
deriving DecidableEq, Repr

namespace Bucket

def all : List Bucket := [.layout, .typography, .colors, .borders, .shadows]

def name : Bucket → String
  | .layout => "layout"
  | .typography => "typography"
  | .colors => "colors"
  | .borders => "borders"
  | .shadows => "shadows"

/-- The keys of a bucket in order, with the kinds of their values. -/
def keys : Bucket → List (String × ValueKind)
  | .layout =>
    [("flexDirection", .oneOf ["row", "column"]),
     ("alignItems", .oneOf ["flex-start", "flex-end", "center", "stretch", "baseline"]),
     ("justifyContent", .oneOf ["flex-start", "flex-end", "center", "space-between",
       "space-around", "space-evenly"]),
     ("gap", .number),
     ("padding", .number),
     ("paddingHorizontal", .number),
     ("paddingVertical", .number),
     ("paddingTop", .number),
     ("paddingRight", .number),
     ("paddingBottom", .number),
     ("paddingLeft", .number),
     ("margin", .number),
     ("marginHorizontal", .number),
     ("marginVertical", .number),
     ("marginTop", .number),
     ("marginRight", .number),
     ("marginBottom", .number),
     ("marginLeft", .number),
     ("width", .number),
     ("height", .number),
     ("minWidth", .number),
     ("minHeight", .number),
     ("maxWidth", .number),
     ("maxHeight", .number),
     ("flex", .number),
     ("flexGrow", .number),
     ("flexShrink", .number),
     ("flexBasis", .number),
     ("position", .oneOf ["relative", "absolute"]),
     ("top", .number),
     ("right", .number),
     ("bottom", .number),
     ("left", .number),
     ("aspectRatio", .number),
     ("zIndex", .number)]
  | .typography =>
    [("fontSize", .number),
     ("fontWeight", .oneOf ["100", "200", "300", "400", "500", "600", "700", "800", "900",
       "normal", "bold"]),
     ("fontFamily", .text),
     ("fontStyle", .oneOf ["normal", "italic"]),
     ("color", .text),
     ("numberOfLines", .number),
     ("ellipsizeMode", .oneOf ["head", "middle", "tail", "clip"]),
     ("textAlign", .oneOf ["auto", "left", "right", "center", "justify"]),
     ("textTransform", .oneOf ["none", "uppercase", "lowercase", "capitalize"]),
     ("lineHeight", .number),
     ("letterSpacing", .number)]
  | .colors =>
    [("backgroundColor", .text),
     ("opacity", .fraction),
     ("tintColor", .text)]
  | .borders =>
    [("borderRadius", .number),
     ("borderTopLeftRadius", .number),
     ("borderTopRightRadius", .number),
     ("borderBottomLeftRadius", .number),
     ("borderBottomRightRadius", .number),
     ("borderWidth", .number),
     ("borderColor", .text),
     ("borderStyle", .oneOf ["solid", "dashed", "dotted"])]
  | .shadows =>
    [("shadowColor", .text),
     ("shadowOpacity", .fraction),
     ("shadowRadius", .number),
     ("shadowOffsetX", .number),
     ("shadowOffsetY", .number),
     ("elevation", .number)]

def contains (bucket : Bucket) (key : String) : Bool :=
  bucket.keys.any fun entry => entry.1 = key

/-- The bucket that a key belongs to. -/
def ofKey? (key : String) : Option Bucket := all.find? (·.contains key)

end Bucket

/-! ## Styles -/

/-- The values of a bucket's keys, in the order of the keys. -/
abbrev Entries := Bag StyleValue

/-- The values that a bag has for the keys of a bucket, in the order of the keys. -/
def Bucket.arrange (bucket : Bucket) (found : Bag StyleValue) : Entries :=
  bucket.keys.filterMap fun entry => (Bag.find? entry.1 found).map (entry.1, ·)

/-- The buckets of a style that are there. -/
structure Style where
  layout : Option Entries := none
  typography : Option Entries := none
  colors : Option Entries := none
  borders : Option Entries := none
  shadows : Option Entries := none

namespace Style

def bucket (style : Style) : Bucket → Option Entries
  | .layout => style.layout
  | .typography => style.typography
  | .colors => style.colors
  | .borders => style.borders
  | .shadows => style.shadows

/-- A style from what each bucket holds. -/
def ofBuckets (entries : Bucket → Option Entries) : Style where
  layout := entries .layout
  typography := entries .typography
  colors := entries .colors
  borders := entries .borders
  shadows := entries .shadows

def isEmpty (style : Style) : Bool := Bucket.all.all fun bucket => (style.bucket bucket).isNone

/-- The value of a key in the bucket that owns it. -/
def get? (style : Style) (key : String) : Option StyleValue :=
  (Bucket.ofKey? key).bind fun bucket => (style.bucket bucket).bind (Bag.find? key)

def number? (style : Style) (key : String) : Option Float :=
  (style.get? key).bind StyleValue.number?

def text? (style : Style) (key : String) : Option String :=
  (style.get? key).bind StyleValue.text?

/-- A number that is there and is not zero. -/
def nonzero? (style : Style) (key : String) : Option Float :=
  (style.number? key).filter (· != 0)

/-- All values, bucket by bucket. -/
def entries (style : Style) : Entries :=
  Bucket.all.flatMap fun bucket => (style.bucket bucket).getD []

/-- The flat bag of all values. -/
def flat (style : Style) : Bag Literal :=
  style.entries.map fun entry => (entry.1, entry.2.toLiteral)

/-! ## Normalization -/

/-- Writes an offset with a width and a height as two keys. -/
def expandOffset : Bag Literal → List (String × Literal)
  | [] => []
  | (key, value) :: rest =>
    if key = "shadowOffset" then
      match value with
      | .object offset =>
        ((Bag.find? "width" offset).map fun width => ("shadowOffsetX", width)).toList
          ++ ((Bag.find? "height" offset).map fun height => ("shadowOffsetY", height)).toList
          ++ expandOffset rest
      | _ => expandOffset rest
    else (key, value) :: expandOffset rest

/-- The scalars of a bag with their keys. -/
def scalars (bag : Bag Literal) : List (String × StyleValue) :=
  (expandOffset bag).filterMap fun entry => (StyleValue.ofLiteral? entry.2).map (entry.1, ·)

/-- Gives a key its value in the first bucket that knows the key; other keys are dropped. -/
def insert (style : Style) (key : String) (value : StyleValue) : Style :=
  match Bucket.ofKey? key with
  | some owner =>
    ofBuckets fun bucket =>
      if bucket = owner then some (Bag.put key value ((style.bucket bucket).getD []))
      else style.bucket bucket
  | none => style

/-- A style with the values of each bucket in the order of its keys. -/
def arranged (style : Style) : Style :=
  ofBuckets fun bucket => (style.bucket bucket).map bucket.arrange

/-- Sorts a flat bag into buckets, one scalar after the other. -/
def normalize (bag : Bag Literal) : Style :=
  ((scalars bag).foldl (fun style entry => insert style entry.1 entry.2) {}).arranged

/-! ## JSON -/

def entriesToJson (entries : Entries) : Json :=
  .object (entries.map fun entry => (entry.1, entry.2.toJson))

def toJson (style : Style) : Json :=
  .object (Bucket.all.filterMap fun bucket =>
    (style.bucket bucket).map fun entries => (bucket.name, entriesToJson entries))

end Style

end Widgetry
