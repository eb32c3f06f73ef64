import Widgetry.Files.Path

/-!
What a compilation is told about a project.
-/

namespace Widgetry

/-- The folder for artifacts unless another one is named. -/
def defaultOutDir : String := ".brik"

structure Options where
  /-- The folder under which sources are found and from which they are named. -/
  projectRoot : Path := ⟨"."⟩
  /-- Files to compile in place of those that are found. -/
  entries : Option (List String) := none
  outDir : String := defaultOutDir
  /-- Every plain root becomes a widget. -/
  asWidget : Bool := false
  /-- More names of folders that are not searched. -/
  excludeDirs : List String := []
  debug : Bool := false

/-- Where artifacts are written. -/
def Options.artifactDir (options : Options) : Path := options.projectRoot.join options.outDir

end Widgetry
