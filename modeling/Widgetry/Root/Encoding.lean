import Widgetry.Root.Basic

/-!
The JSON of nodes and roots. Absent parts are left out, and members stand in a fixed order.
-/

namespace Widgetry

/-- A member that is left out when there is no value. -/
def optionalMember {α : Type} (name : String) (encode : α → Json) (value : Option α) :
    List (String × Json) :=
  match value with
  | some value => [(name, encode value)]
  | none => []

def wordJson {α : Type} [Spelling α] (value : α) : Json := .string (Spelling.word value)

/-- A number that always has a point or an exponent. -/
def floatJson (value : Float) : Json := .number (.float value)

/-! ## Nodes -/

def Accessibility.toJson (a : Accessibility) : Json :=
  .object (optionalMember "accessibilityLabel" .string a.label
    ++ optionalMember "accessible" .bool a.accessible
    ++ optionalMember "role" .string a.role)

def Action.toJson (action : Action) : Json :=
  .object ([("type", wordJson action.type)]
    ++ optionalMember "url" .string action.url
    ++ optionalMember "params" .object action.params
    ++ optionalMember "appId" .string action.appId)

def DataBinding.toJson (binding : DataBinding) : Json :=
  .object ([("source", wordJson binding.source), ("key", .string binding.key)]
    ++ optionalMember "fallback" id binding.fallback
    ++ optionalMember "transform" .string binding.transform)

def Traits.members (traits : Traits) : List (String × Json) :=
  optionalMember "key" .string traits.key
    ++ optionalMember "style" Style.toJson traits.style
    ++ optionalMember "accessibility" Accessibility.toJson traits.accessibility
    ++ optionalMember "action" Action.toJson traits.action
    ++ optionalMember "dataBinding" DataBinding.toJson traits.dataBinding

def TextContent.toJson : TextContent → Json
  | .number value => Json.ofFloat value
  | .string value => .string value

namespace Node

mutual

def toJson : Node → Json
  | .view traits children =>
    .object ([("type", .string "View"), ("children", .array (allToJson children))]
      ++ traits.members)
  | .text traits content =>
    .object ([("type", .string "Text"), ("text", content.toJson)] ++ traits.members)
  | .button traits label variant size =>
    .object ([("type", .string "Button"), ("label", .string label)]
      ++ optionalMember "variant" wordJson variant ++ optionalMember "size" wordJson size
      ++ traits.members)
  | .image traits uri resizeMode placeholder =>
    .object ([("type", .string "Image"), ("uri", .string uri)]
      ++ optionalMember "resizeMode" wordJson resizeMode
      ++ optionalMember "placeholder" .string placeholder ++ traits.members)
  | .stack traits axis children =>
    .object ([("type", .string "Stack"), ("axis", wordJson axis),
        ("children", .array (allToJson children))] ++ traits.members)
  | .spacer traits flex =>
    .object ([("type", .string "Spacer")] ++ optionalMember "flex" Json.ofFloat flex
      ++ traits.members)
  | .progressBar traits progress indeterminate =>
    .object ([("type", .string "ProgressBar"), ("progress", Json.ofFloat progress)]
      ++ optionalMember "indeterminate" .bool indeterminate ++ traits.members)
  | .list traits items renderItem horizontal =>
    .object ([("type", .string "List"), ("items", .array items),
        ("renderItem", .string renderItem)]
      ++ optionalMember "horizontal" .bool horizontal ++ traits.members)

def allToJson : List Node → List Json
  | [] => []
  | node :: rest => toJson node :: allToJson rest

end

end Node

/-! ## Widgets -/

def TimelinePolicy.toJson : TimelinePolicy → Json
  | .named policy => wordJson policy
  | .custom minutes => .object [("type", .string "custom"), ("minutes", floatJson minutes)]

def TimelineEntry.toJson (entry : TimelineEntry) : Json :=
  .object ([("date", .string entry.date)]
    ++ optionalMember "relevance" floatJson entry.relevance
    ++ optionalMember "content" id entry.content)

def Timeline.toJson (timeline : Timeline) : Json :=
  .object (optionalMember "entries" (fun entries => .array (entries.map TimelineEntry.toJson))
      timeline.entries
    ++ optionalMember "policy" TimelinePolicy.toJson timeline.policy)

def Widget.toJson (widget : Widget) : Json :=
  .object ([("kind", .string widget.kind)]
    ++ optionalMember "displayName" .string widget.displayName
    ++ optionalMember "description" .string widget.description
    ++ [("families", .array (widget.families.map wordJson))]
    ++ optionalMember "supportedPlatforms" (fun platforms => .array (platforms.map wordJson))
      widget.supportedPlatforms
    ++ optionalMember "configurable" .bool widget.configurable
    ++ optionalMember "timeline" Timeline.toJson widget.timeline)

/-! ## Live activities -/

def attributesJson (attributes : Bag AttributeType) : Json :=
  .object (attributes.map fun field => (field.1, wordJson field.2))

def ActivityAttributes.toJson (attributes : ActivityAttributes) : Json :=
  .object [("static", attributesJson attributes.fixed),
    ("dynamic", attributesJson attributes.changing)]

def DynamicIsland.toJson (island : DynamicIsland) : Json :=
  .object (optionalMember "compact" Node.toJson island.compact
    ++ optionalMember "minimal" Node.toJson island.minimal
    ++ optionalMember "expanded" Node.toJson island.expanded)

def ActivityRegions.toJson (regions : ActivityRegions) : Json :=
  .object (optionalMember "lockScreen" Node.toJson regions.lockScreen
    ++ optionalMember "dynamicIsland" DynamicIsland.toJson regions.dynamicIsland)

def LiveActivity.toJson (activity : LiveActivity) : Json :=
  .object ([("activityType", .string activity.activityType),
      ("attributes", activity.attributes.toJson), ("regions", activity.regions.toJson)]
    ++ optionalMember "staleDate" .string activity.staleDate
    ++ optionalMember "relevanceScore" floatJson activity.relevanceScore)

/-! ## Roots -/

def DataProvider.toJson (provider : DataProvider) : Json :=
  .object (optionalMember "endpoint" .string provider.endpoint
    ++ optionalMember "refreshInterval" floatJson provider.refreshInterval
    ++ optionalMember "headers"
      (fun headers => .object (headers.map fun header => (header.1, .string header.2)))
      provider.headers)

def Root.toJson (root : Root) : Json :=
  .object ([("version", .ofNat root.version), ("rootId", .string root.rootId),
      ("tree", root.tree.toJson)]
    ++ optionalMember "widget" Widget.toJson root.widget
    ++ optionalMember "liveActivity" LiveActivity.toJson root.liveActivity
    ++ optionalMember "dataProvider" DataProvider.toJson root.dataProvider)

end Widgetry
