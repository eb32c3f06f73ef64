import Widgetry.Markup.Activity
import Widgetry.Markup.Search
import Widgetry.Root.Validation
import Widgetry.Source.Dialect
import Widgetry.Source.Parse

/-!
From the text of a file to its root. A file describes a live activity or holds a tree; a file with
neither has no root. What comes out keeps all rules of the format.
-/

namespace Widgetry

/-- Why a file has no root although it was read. -/
inductive CompileFault where
  /-- The text is not written in the dialect of the file. -/
  | malformed (file : String)
  | refused (refusal : Root.Refusal)

/-- The id of the root of a file: separators become underscores. -/
def rootIdOf (file : String) : String :=
  String.ofList (file.toList.map fun c => if c = '/' || c = '\\' then '_' else c)

/-- How a root is registered that says nothing about it. -/
def Widget.default (rootId : String) (file : String) : Widget where
  kind := rootId
  displayName := Path.stem? ⟨file⟩
  families := [.systemSmall, .systemMedium]
  supportedPlatforms := some [.ios, .android]

/-- The root that the statements of a file give, before it is checked. -/
def rootOf? (text file rootId : String) (asWidget : Bool) (program : Source.Program) :
    Option Root :=
  match Markup.findActivity? text program with
  | some activity => some { Root.ofTree rootId Node.placeholder with liveActivity := some activity }
  | none =>
    (Markup.findTree text program).map fun (tree, marked) =>
      let widget := if asWidget || marked then some (Widget.default rootId file) else none
      { Root.ofTree rootId tree with widget }

/-- Compiles one file. -/
def compileSource (text file rootId : String) (asWidget : Bool) :
    Except CompileFault (Option Root) :=
  match Source.parse? (Source.Dialect.ofPath ⟨file⟩) text with
  | none => .error (.malformed file)
  | some program =>
    match rootOf? text file rootId asWidget program with
    | none => .ok none
    | some root =>
      match root.check with
      | .ok _ => .ok (some root)
      | .error refusal => .error (.refused refusal)

end Widgetry
