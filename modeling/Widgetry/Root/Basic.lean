import Widgetry.Node.Basic

/-!
Roots: what one source file gives. A root has a tree, and what is needed to register it as a widget
or to run it as a live activity.
-/

namespace Widgetry

/-! ## Widgets -/

inductive WidgetFamily where
  | systemSmall
  | systemMedium
  | systemLarge
  | systemExtraLarge
  | accessoryRectangular
  | accessoryCircular
  | accessoryInline
  | small
  | medium
  | large
deriving DecidableEq, Repr

instance : Spelling WidgetFamily where
  all := [.systemSmall, .systemMedium, .systemLarge, .systemExtraLarge, .accessoryRectangular,
    .accessoryCircular, .accessoryInline, .small, .medium, .large]
  word
    | .systemSmall => "systemSmall"
    | .systemMedium => "systemMedium"
    | .systemLarge => "systemLarge"
    | .systemExtraLarge => "systemExtraLarge"
    | .accessoryRectangular => "accessoryRectangular"
    | .accessoryCircular => "accessoryCircular"
    | .accessoryInline => "accessoryInline"
    | .small => "small"
    | .medium => "medium"
    | .large => "large"

inductive Platform where
  | ios
  | android
  | watchos
deriving DecidableEq, Repr

instance : Spelling Platform where
  all := [.ios, .android, .watchos]
  word
    | .ios => "ios"
    | .android => "android"
    | .watchos => "watchos"

inductive NamedPolicy where
  | atEnd
  | never
  | after15Minutes
  | afterHour
  | afterDay
deriving DecidableEq, Repr

instance : Spelling NamedPolicy where
  all := [.atEnd, .never, .after15Minutes, .afterHour, .afterDay]
  word
    | .atEnd => "atEnd"
    | .never => "never"
    | .after15Minutes => "after15Minutes"
    | .afterHour => "afterHour"
    | .afterDay => "afterDay"

/-- When a widget's timeline is asked for again. -/
inductive TimelinePolicy where
  | named (policy : NamedPolicy)
  | custom (minutes : Float)

/-- The number of minutes after which a timeline is asked for again. -/
def TimelinePolicy.minutes? : TimelinePolicy → Option Float
  | .named .after15Minutes => some 15
  | .named .afterHour => some 60
  | .named .afterDay => some 1440
  | .custom minutes => some (Double.ofFloat minutes).round.toFloat
  | .named .atEnd | .named .never => none

structure TimelineEntry where
  date : String
  relevance : Option Float := none
  content : Option Json := none

structure Timeline where
  entries : Option (List TimelineEntry) := none
  policy : Option TimelinePolicy := none

/-- What is needed to register a widget. -/
structure Widget where
  kind : String
  displayName : Option String := none
  description : Option String := none
  families : List WidgetFamily
  supportedPlatforms : Option (List Platform) := none
  configurable : Option Bool := none
  timeline : Option Timeline := none

/-! ## Live activities -/

inductive AttributeType where
  | string
  | number
  | boolean
  | date
deriving DecidableEq, Repr

instance : Spelling AttributeType where
  all := [.string, .number, .boolean, .date]
  word
    | .string => "string"
    | .number => "number"
    | .boolean => "boolean"
    | .date => "date"

/-- The attributes of an activity: those that stay and those that change. -/
structure ActivityAttributes where
  fixed : Bag AttributeType := []
  changing : Bag AttributeType := []

structure DynamicIsland where
  compact : Option Node := none
  minimal : Option Node := none
  expanded : Option Node := none

structure ActivityRegions where
  lockScreen : Option Node := none
  dynamicIsland : Option DynamicIsland := none

structure LiveActivity where
  activityType : String
  attributes : ActivityAttributes := {}
  regions : ActivityRegions := {}
  staleDate : Option String := none
  relevanceScore : Option Float := none

/-- The nodes of the regions that are there, each with its path. -/
def LiveActivity.regionNodes (activity : LiveActivity) : List (String × Node) :=
  let island := activity.regions.dynamicIsland
  let named := fun (path : String) (node : Option Node) => (node.map (path, ·)).toList
  named "regions.lockScreen" activity.regions.lockScreen
    ++ named "regions.dynamicIsland.compact" (island.bind DynamicIsland.compact)
    ++ named "regions.dynamicIsland.minimal" (island.bind DynamicIsland.minimal)
    ++ named "regions.dynamicIsland.expanded" (island.bind DynamicIsland.expanded)

/-! ## Roots -/

/-- Where the data of a widget is fetched from. -/
structure DataProvider where
  endpoint : Option String := none
  refreshInterval : Option Float := none
  headers : Option (Bag String) := none

structure Root where
  version : Nat
  rootId : String
  tree : Node
  widget : Option Widget := none
  liveActivity : Option LiveActivity := none
  dataProvider : Option DataProvider := none

/-- The version of the format that is read and written. -/
def currentVersion : Nat := 1

def Root.ofTree (rootId : String) (tree : Node) : Root := { version := currentVersion, rootId, tree }

end Widgetry
