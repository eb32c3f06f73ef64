import Widgetry.Ios.View

/-!
Live activities for ActivityKit: the type of an activity's attributes, and the widget that shows
its regions. A region that is missing shows a fixed sign.
-/

namespace Widgetry.Ios

open Code Code.Phrase

def attributeType : AttributeType → String
  | .string => "String"
  | .number => "Double"
  | .boolean => "Bool"
  | .date => "Date"

def attributeFields (attributes : Bag AttributeType) : List Code :=
  attributes.map fun field => say s!"var {identifier field.1}: {attributeType field.2}"

/-- A region, or the sign that stands in for it. -/
def region (node : Option Node) (sign : String) : List Code :=
  match node with
  | some node => view node
  | none => [.line (call "Text" [quoted sign])]

/-- What stays the same for every activity of a type. -/
def activityConstants (name : String) (activity : LiveActivity) : List Code :=
  if activity.staleDate.isSome || activity.relevanceScore.isSome then
    [.blank,
      enclose s!"extension {name}Attributes"
        (lineFor activity.staleDate (fun date =>
            .line (word "static let staleDate: String = " ++ quoted date))
          ++ lineFor activity.relevanceScore (fun score =>
            .line (word "static let relevanceScore: Double = " ++ number score)))]
  else []

def attributesType (name : String) (attributes : ActivityAttributes) : Code :=
  enclose s!"struct {name}Attributes: ActivityAttributes"
    (enclose "public struct ContentState: Codable, Hashable" (attributeFields attributes.changing)
      :: (if attributes.fixed.isEmpty then [] else .blank :: attributeFields attributes.fixed))

/-- The island with its four places. -/
def island (regions : ActivityRegions) : Code :=
  let place (node : DynamicIsland → Option Node) : Option Node := regions.dynamicIsland.bind node
  .block .curly (word "DynamicIsland ") ""
    [enclose "DynamicIslandExpandedRegion(.leading)" (region (place (·.expanded)) "Expanded")]
    [.mk (word " compactLeading: ") "" (region (place (·.compact)) "•"),
      .mk (word " compactTrailing: ") "" [.line (call "Text" [quoted ""])],
      .mk (word " minimal: ") "" (region (place (·.minimal)) "-")]

def activityWidget (name : String) (regions : ActivityRegions) : Code :=
  enclose s!"struct {name}ActivityWidget: Widget"
    [enclose "var body: some WidgetConfiguration"
      [.block .curly
        (call "ActivityConfiguration" [labelled "for" (word (name ++ "Attributes.self"))] ++ word " ")
        " context in"
        (region regions.lockScreen "Activity")
        [.mk (word " dynamicIsland: ") " context in" [island regions]]]]

/-- The file of a live activity. -/
def activityFile (activity : LiveActivity) : List Code :=
  let name := identifier activity.activityType
  [say "import ActivityKit", say "import SwiftUI", say "import WidgetKit", .blank,
    attributesType name activity.attributes]
    ++ activityConstants name activity
    ++ [.blank, activityWidget name activity.regions]

end Widgetry.Ios
