import Widgetry.Root.Basic
import Widgetry.Root.Decoder

/-!
Decoding of nodes and roots from JSON.
-/

namespace Widgetry

open Decoder (required nullable defaulted)

/-! ## Traits -/

def StyleValue.decode : Decoder StyleValue := fun _ value =>
  match value with
  | .bool b => .ok (.bool b)
  | .string s => .ok (.text s)
  | other =>
    match Decoder.float? other with
    | some x => .ok (.number x)
    | none => Decoder.fail (.noVariant "StyleValue")

/-- The name of a bucket in messages. -/
def Bucket.recordName : Bucket → String
  | .layout => "LayoutStyle"
  | .typography => "TypographyStyle"
  | .colors => "ColorStyle"
  | .borders => "BorderStyle"
  | .shadows => "ShadowStyle"

def Bucket.decode (bucket : Bucket) : Decoder Entries := fun setting value => do
  let fields := bucket.keys.map fun entry =>
    nullable entry.1 StyleValue.decode fun found known =>
      match found with
      | some v => Bag.put entry.1 v known
      | none => known
  let found ← Decoder.record bucket.recordName fields [] setting value
  return bucket.arrange found

def Style.decode : Decoder Style :=
  Decoder.record "NormalizedStyle"
    [nullable "layout" Bucket.layout.decode fun a s => { s with layout := a },
     nullable "typography" Bucket.typography.decode fun a s => { s with typography := a },
     nullable "colors" Bucket.colors.decode fun a s => { s with colors := a },
     nullable "borders" Bucket.borders.decode fun a s => { s with borders := a },
     nullable "shadows" Bucket.shadows.decode fun a s => { s with shadows := a }] {}

def Accessibility.decode : Decoder Accessibility :=
  Decoder.record "Accessibility"
    [nullable "accessibilityLabel" Decoder.string fun a s => { s with label := a },
     nullable "accessible" Decoder.bool fun a s => { s with accessible := a },
     nullable "role" Decoder.string fun a s => { s with role := a }] {}

def Action.decode : Decoder Action :=
  Decoder.record "Action"
    [required "type" Decoder.word fun a s => { s with type := a },
     nullable "url" Decoder.string fun a s => { s with url := a },
     nullable "params" (Decoder.bag Decoder.json) fun a s => { s with params := a },
     nullable "appId" Decoder.string fun a s => { s with appId := a }] { type := .custom }

def DataBinding.decode : Decoder DataBinding :=
  Decoder.record "DataBinding"
    [required "source" Decoder.word fun a s => { s with source := a },
     required "key" Decoder.string fun a s => { s with key := a },
     nullable "fallback" Decoder.json fun a s => { s with fallback := a },
     nullable "transform" Decoder.string fun a s => { s with transform := a }]
    { source := .localStore, key := "" }

def Traits.fields : List (Decoder.Field Traits) :=
  [nullable "key" Decoder.string fun a s => { s with key := a },
   nullable "style" Style.decode fun a s => { s with style := a },
   nullable "accessibility" Accessibility.decode fun a s => { s with accessibility := a },
   nullable "action" Action.decode fun a s => { s with action := a },
   nullable "dataBinding" DataBinding.decode fun a s => { s with dataBinding := a }]

/-! ## Nodes -/

def TextContent.decode : Decoder TextContent := fun _ value =>
  match value with
  | .string s => .ok (.string s)
  | other =>
    match Decoder.float? other with
    | some x => .ok (.number x)
    | none => Decoder.fail (.noVariant "TextContent")

/-- The kind of a node: its word, or its position among the kinds. -/
def NodeType.decode : Json → Decoded NodeType
  | .string word => Decoder.ofWord word
  | .number (.integer n) =>
    if n < 0 then Decoder.fail (.invalidType (.integer n) "variant identifier")
    else
      match (Spelling.all : List NodeType)[n.toNat]? with
      | some type => .ok type
      | none => Decoder.fail (.invalidValue (.integer n) "variant index 0 <= i < 8")
  | other => Decoder.wrongType other "variant identifier"

/-- The kind that the members of a node name; it may be named only once. -/
def NodeType.ofMembers (members : List (String × Json)) : Decoded NodeType :=
  match members.filter fun member => member.1 = "type" with
  | [] => Decoder.fail (.missingField "type")
  | [(_, value)] => NodeType.decode value
  | (_, value) :: _ => do
    let _ ← NodeType.decode value
    Decoder.fail (.duplicateField "type")

/-- Decodes the members that belong to one kind of node. -/
def kindFields {β : Type} (fields : List (Decoder.Field β)) (members : List (String × Json))
    (start : β) : Decoded β :=
  Decoder.fromMembers fields .apart members start

/-- A field whose value is decoded already. -/
def decodedField {α β : Type} (name : String) (result : Decoded α) (set : α → β → β) :
    Decoder.Field β :=
  ⟨name, true, fun _ _ known => result.map fun a => set a known⟩

namespace Node

/-- What only one kind of node has, given its children already decoded. -/
def ofMembers (members : List (String × Json)) (children : Decoded (List Node)) :
    NodeType → Decoded (Traits → Node)
  | .view => do
    let found ← kindFields [decodedField "children" children fun a _ => a] members []
    return fun traits => .view traits found
  | .text => do
    let content ← kindFields [required "text" TextContent.decode fun a _ => a] members (.string "")
    return fun traits => .text traits content
  | .button => do
    let (label, variant, size) ← kindFields
      [required "label" Decoder.string fun a s => (a, s.2),
       nullable "variant" Decoder.word fun a s => (s.1, a, s.2.2),
       nullable "size" Decoder.word fun a s => (s.1, s.2.1, a)] members ("", none, none)
    return fun traits => .button traits label variant size
  | .image => do
    let (uri, mode, placeholder) ← kindFields
      [required "uri" Decoder.string fun a s => (a, s.2),
       nullable "resizeMode" Decoder.word fun a s => (s.1, a, s.2.2),
       nullable "placeholder" Decoder.string fun a s => (s.1, s.2.1, a)] members ("", none, none)
    return fun traits => .image traits uri mode placeholder
  | .stack => do
    let (axis, found) ← kindFields
      [required "axis" Decoder.word fun a s => (a, s.2),
       decodedField "children" children fun a s => (s.1, a)] members (.vertical, [])
    return fun traits => .stack traits axis found
  | .spacer => do
    let flex ← kindFields [nullable "flex" Decoder.float fun a _ => a] members none
    return fun traits => .spacer traits flex
  | .progressBar => do
    let (progress, indeterminate) ← kindFields
      [required "progress" Decoder.float fun a s => (a, s.2),
       nullable "indeterminate" Decoder.bool fun a s => (s.1, a)] members (0, none)
    return fun traits => .progressBar traits progress indeterminate
  | .list => do
    let (items, renderItem, horizontal) ← kindFields
      [defaulted "items" (Decoder.list Decoder.json) fun a s => (a, s.2),
       required "renderItem" Decoder.string fun a s => (s.1, a, s.2.2),
       nullable "horizontal" Decoder.bool fun a s => (s.1, s.2.1, a)] members ([], "", none)
    return fun traits => .list traits items renderItem horizontal

mutual

/-- A node: first the traits, then what belongs to its kind. -/
def decode (setting : Setting) : Json → Decoded Node
  | .object members => do
    let (traits, _) ← Decoder.fieldsFrom Traits.fields setting [] members {}
    let children := childrenOf members
    -- Only the traits are decoded in place; a failure from here on has no path.
    Decoder.withoutPath do
      let type ← NodeType.ofMembers members
      let build ← ofMembers members children type
      return build traits
  | other => Decoder.wrongType other "struct Node"

/-- The children that the members of a node name. -/
def childrenOf : List (String × Json) → Decoded (List Node)
  | [] => .ok []
  | (name, value) :: rest => if name = "children" then decodeChildren value else childrenOf rest

def decodeChildren : Json → Decoded (List Node)
  | .array items => decodeAll items
  | other => Decoder.wrongType other "a sequence"

def decodeAll : List Json → Decoded (List Node)
  | [] => .ok []
  | item :: rest => do
    let node ← decode .apart item
    let nodes ← decodeAll rest
    return node :: nodes

end

end Node

/-! ## Widgets -/

/-- The only word of a policy with its own interval. -/
inductive CustomPolicy where
  | custom

instance : Spelling CustomPolicy where
  all := [.custom]
  word
    | .custom => "custom"

/-- A named policy, or else one with its own interval. -/
def TimelinePolicy.decode : Decoder TimelinePolicy := fun _ value =>
  match (Decoder.word .inPlace value : Decoded NamedPolicy) with
  | .ok policy => .ok (.named policy)
  | .error _ =>
    -- Why the first form does not fit is forgotten, and so it is for the second one.
    let fields : List (Decoder.Field Float) :=
      [required "type" (Decoder.word : Decoder CustomPolicy) fun _ s => s,
       required "minutes" Decoder.float fun a _ => a]
    match Decoder.record "CustomPolicy" fields 0 .inPlace value with
    | .ok minutes => .ok (.custom minutes)
    | .error _ => Decoder.fail (.noVariant "TimelinePolicy")

def TimelineEntry.decode : Decoder TimelineEntry :=
  Decoder.record "TimelineEntry"
    [required "date" Decoder.string fun a s => { s with date := a },
     nullable "relevance" Decoder.float fun a s => { s with relevance := a },
     nullable "content" Decoder.json fun a s => { s with content := a }] { date := "" }

def Timeline.decode : Decoder Timeline :=
  Decoder.record "Timeline"
    [nullable "entries" (Decoder.list TimelineEntry.decode) fun a s => { s with entries := a },
     nullable "policy" TimelinePolicy.decode fun a s => { s with policy := a }] {}

def Widget.decode : Decoder Widget :=
  Decoder.record "WidgetMetadata"
    [required "kind" Decoder.string fun a s => { s with kind := a },
     nullable "displayName" Decoder.string fun a s => { s with displayName := a },
     nullable "description" Decoder.string fun a s => { s with description := a },
     required "families" (Decoder.list Decoder.word) fun a s => { s with families := a },
     nullable "supportedPlatforms" (Decoder.list Decoder.word) fun a s =>
       { s with supportedPlatforms := a },
     nullable "configurable" Decoder.bool fun a s => { s with configurable := a },
     nullable "timeline" Timeline.decode fun a s => { s with timeline := a }]
    { kind := "", families := [] }

/-! ## Live activities -/

def ActivityAttributes.decode : Decoder ActivityAttributes :=
  Decoder.record "ActivityAttributes"
    [defaulted "static" (Decoder.bag Decoder.word) fun a s => { s with fixed := a },
     defaulted "dynamic" (Decoder.bag Decoder.word) fun a s => { s with changing := a }] {}

def DynamicIsland.decode : Decoder DynamicIsland :=
  Decoder.record "DynamicIsland"
    [nullable "compact" Node.decode fun a s => { s with compact := a },
     nullable "minimal" Node.decode fun a s => { s with minimal := a },
     nullable "expanded" Node.decode fun a s => { s with expanded := a }] {}

def ActivityRegions.decode : Decoder ActivityRegions :=
  Decoder.record "ActivityRegions"
    [nullable "lockScreen" Node.decode fun a s => { s with lockScreen := a },
     nullable "dynamicIsland" DynamicIsland.decode fun a s => { s with dynamicIsland := a }] {}

def LiveActivity.decode : Decoder LiveActivity :=
  Decoder.record "LiveActivityConfig"
    [required "activityType" Decoder.string fun a s => { s with activityType := a },
     required "attributes" ActivityAttributes.decode fun a s => { s with attributes := a },
     required "regions" ActivityRegions.decode fun a s => { s with regions := a },
     nullable "staleDate" Decoder.string fun a s => { s with staleDate := a },
     nullable "relevanceScore" Decoder.float fun a s => { s with relevanceScore := a }]
    { activityType := "" }

/-! ## Roots -/

def DataProvider.decode : Decoder DataProvider :=
  Decoder.record "DataProvider"
    [nullable "endpoint" Decoder.string fun a s => { s with endpoint := a },
     nullable "refreshInterval" Decoder.float fun a s => { s with refreshInterval := a },
     nullable "headers" (Decoder.bag Decoder.string) fun a s => { s with headers := a }] {}

/-- Decodes a root as it stands; nothing is checked beyond its shape. -/
def Root.decode (value : Json) : Decoded Root :=
  Decoder.record "IrRoot"
    [required "version" Decoder.word32 fun a s => { s with version := a },
     required "rootId" Decoder.string fun a s => { s with rootId := a },
     required "tree" Node.decode fun a s => { s with tree := a },
     nullable "widget" Widget.decode fun a s => { s with widget := a },
     nullable "liveActivity" LiveActivity.decode fun a s => { s with liveActivity := a },
     nullable "dataProvider" DataProvider.decode fun a s => { s with dataProvider := a }]
    { version := 0, rootId := "", tree := .placeholder } .inPlace value

end Widgetry
