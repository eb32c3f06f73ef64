import Widgetry.Android.Composable
import Widgetry.Android.Imports
import Widgetry.Code.Identifier
import Widgetry.Files.Path
import Widgetry.Root.Basic

/-!
The files that roots give for Android: a screen, a widget of the home screen, or the classes of a
live activity with a screen for each of its regions.
-/

namespace Widgetry.Android

open Code Code.Phrase

/-- The package and the imports of a file. -/
def header (package : String) (imports : List String) : List Code :=
  say ("package " ++ package) :: .blank :: (imports.map fun name => say ("import " ++ name))

/-! ## Screens -/

/-- The action needs the context that the screen is shown in. -/
def needsContext (action : Action) : Bool :=
  match action.type with
  | .deeplink => action.deeplink?.isSome
  | .openApp => true
  | .refresh | .custom => false

mutual

/-- Some action of a tree needs the context. -/
def usesContext : Node → Bool
  | .view traits children => traits.action.any needsContext || anyUsesContext children
  | .stack traits _ children => traits.action.any needsContext || anyUsesContext children
  | node => node.traits.action.any needsContext

def anyUsesContext : List Node → Bool
  | [] => false
  | node :: rest => usesContext node || anyUsesContext rest

end

/-- A function that shows a tree on a screen. -/
def screenFunction (name : String) (tree : Node) : List Code :=
  [say "@Composable",
    enclose s!"fun {name}()"
      ((if usesContext tree then [say "val context = LocalContext.current"] else [])
        ++ composable .screen false tree)]

def screenFile (package : String) (root : Root) : List Code :=
  header package screenImports ++ .blank :: screenFunction (identifier root.rootId) root.tree

/-! ## Widgets -/

def glanceFile (package : String) (root : Root) : List Code :=
  let name := identifier root.rootId
  header package glanceImports
    ++ [.blank,
      enclose s!"class {name}Receiver : GlanceAppWidgetReceiver()"
        [say s!"override val glanceAppWidget: GlanceAppWidget = {name}Widget()"],
      .blank,
      enclose s!"class {name}Widget : GlanceAppWidget()"
        [enclose "override suspend fun provideGlance(context: Context, id: GlanceId)"
          [enclose "provideContent" [say s!"{name}Content()"]]],
      .blank,
      say "@Composable",
      enclose s!"fun {name}Content()" (composable .glance false root.tree)]

/-! ## Live activities -/

def attributeType : AttributeType → String
  | .string => "String"
  | .number => "Double"
  | .boolean => "Boolean"
  | .date => "Instant"

/-- A class that holds attributes; one without attributes is plain. -/
def dataClass (name : String) (attributes : Bag AttributeType) : Code :=
  match attributes with
  | [] => say ("class " ++ name)
  | attributes =>
    .block .round (word ("data class " ++ name)) ""
      (attributes.map fun field => say s!"val {identifier field.1}: {attributeType field.2},") []

/-- The regions of an activity with the ends of their names. -/
def namedRegions (regions : ActivityRegions) : List (String × Option Node) :=
  [("LockScreen", regions.lockScreen),
    ("Expanded", regions.dynamicIsland.bind (·.expanded)),
    ("Compact", regions.dynamicIsland.bind (·.compact)),
    ("Minimal", regions.dynamicIsland.bind (·.minimal))]

def regionFunction (name : String) : String × Option Node → List Code
  | (ending, some node) => .blank :: screenFunction (name ++ ending) node
  | (_, none) => []

def activityFile (package : String) (activity : LiveActivity) : List Code :=
  let name := identifier activity.activityType
  header package activityImports
    ++ [.blank, dataClass (name ++ "Attributes") activity.attributes.fixed, .blank,
      dataClass (name ++ "ContentState") activity.attributes.changing]
    ++ (namedRegions activity.regions).flatMap (regionFunction name)

/-! ## Files -/

def defaultPackage : String := "generated"

/-- The folder of a package: one level for each of its parts. -/
def packageFolder (package : String) : Path :=
  let parts := (Path.split '.' package).filter fun part => !part.isEmpty
  parts.foldl Path.join ⟨"brik/src/main/java"⟩

/-- Where the file of a name stands. -/
def filePath (package name : String) : String :=
  ((packageFolder package).join (name ++ ".kt")).text

/-- The file of one root. -/
def rootFile (package : String) (root : Root) : CodeFile :=
  let file (name : String) (code : List Code) : CodeFile :=
    ⟨filePath package name, print quoting code⟩
  match root.liveActivity, root.widget with
  | some activity, _ =>
    file (identifier activity.activityType ++ "Activity") (activityFile package activity)
  | none, some _ => file (identifier root.rootId) (glanceFile package root)
  | none, none => file (identifier root.rootId) (screenFile package root)

/-- All files of some roots. -/
def files (package : String) (roots : List Root) : List CodeFile := roots.map (rootFile package)

end Widgetry.Android
