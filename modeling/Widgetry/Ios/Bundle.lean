import Widgetry.Ios.View

/-!
The bundle that registers all widgets for WidgetKit, each with a timeline of one entry.
-/

namespace Widgetry.Ios

open Code Code.Phrase

def family : WidgetFamily → String
  | .systemSmall | .small => ".systemSmall"
  | .systemMedium | .medium => ".systemMedium"
  | .systemLarge | .large => ".systemLarge"
  | .systemExtraLarge => ".systemExtraLarge"
  | .accessoryRectangular => ".accessoryRectangular"
  | .accessoryCircular => ".accessoryCircular"
  | .accessoryInline => ".accessoryInline"

/-- When a timeline is asked for again; without a policy it never is. -/
def reloadPolicy (policy : Option TimelinePolicy) : Phrase :=
  match policy with
  | some (.named .atEnd) => word ".atEnd"
  | some policy =>
    match policy.minutes? with
    | some minutes =>
      call ".after"
        [call "Calendar.current.date"
          [labelled "byAdding" (word ".minute"), labelled "value" (number minutes),
            labelled "to" (word "Date()")] ++ word "!"]
    | none => word ".never"
  | none => word ".never"

def provider (name : String) (widget : Widget) : Code :=
  enclose s!"struct {name}Provider: TimelineProvider"
    [enclose "func placeholder(in context: Context) -> BrikEntry" [say "BrikEntry(date: Date())"],
      .blank,
      enclose
        "func getSnapshot(in context: Context, completion: @escaping (BrikEntry) -> Void)"
        [say "completion(BrikEntry(date: Date()))"],
      .blank,
      enclose
        "func getTimeline(in context: Context, completion: @escaping (Timeline<BrikEntry>) -> Void)"
        [.line (call "completion"
          [call "Timeline"
            [labelled "entries" (word "[BrikEntry(date: Date())]"),
              labelled "policy" (reloadPolicy (widget.timeline.bind (·.policy)))]])]]

def registration (name : String) (widget : Widget) : Code :=
  enclose s!"struct {name}Widget: Widget"
    [.line (word "let kind: String = " ++ quoted widget.kind),
      .blank,
      enclose "var body: some WidgetConfiguration"
        (.block .curly
            (call "StaticConfiguration"
              [labelled "kind" (word "kind"), labelled "provider" (call (name ++ "Provider") [])]
              ++ word " ")
            " _ in" [.line (call name [])] []
          :: modifier "configurationDisplayName" [quoted (widget.displayName.getD widget.kind)]
          :: (lineFor widget.description (fun text => modifier "description" [quoted text])
            ++ [modifier "supportedFamilies"
              [[.group .square (joined ", " (widget.families.map fun f => word (family f)))]]]))]

/-- The file that registers widgets by their names. -/
def bundleFile (widgets : List (String × Widget)) : List Code :=
  [say "import WidgetKit", say "import SwiftUI", .blank, say "@main",
    enclose "struct BrikWidgets: WidgetBundle"
      [enclose "var body: some Widget" (widgets.map fun widget => .line (call (widget.1 ++ "Widget") []))],
    .blank,
    enclose "struct BrikEntry: TimelineEntry" [say "let date: Date"]]
    ++ widgets.flatMap fun widget =>
      [.blank, provider widget.1 widget.2, .blank, registration widget.1 widget.2]

end Widgetry.Ios
