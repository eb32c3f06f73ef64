import Widgetry.Ios.Activity
import Widgetry.Ios.Bundle

/-!
The files that roots give for iOS: one for each root, and one that registers all widgets.
-/

namespace Widgetry.Ios

open Code

/-- The file of one root. -/
def rootFile (root : Root) : CodeFile :=
  match root.liveActivity with
  | some activity =>
    ⟨s!"BrikActivities/{identifier activity.activityType}Activity.swift",
      print quoting (activityFile activity)⟩
  | none =>
    ⟨s!"brik/Generated/{identifier root.rootId}.swift", print quoting (viewFile root)⟩

/-- The widget that a root registers under its name; live activities register none. -/
def registered? (root : Root) : Option (String × Widget) :=
  match root.liveActivity with
  | some _ => none
  | none => root.widget.map fun widget => (identifier root.rootId, widget)

/-- All files of some roots. -/
def files (roots : List Root) : List CodeFile :=
  let widgets := roots.filterMap registered?
  roots.map rootFile
    ++ if widgets.isEmpty then [] else
      [⟨"BrikWidget/BrikWidget.swift", print quoting (bundleFile widgets)⟩]

end Widgetry.Ios
