import Widgetry.Android.Files
import Widgetry.Ios.Files
import Widgetry.Root.Validation

/-!
Native code for roots of the current version.
-/

namespace Widgetry

/-- What code is generated for. -/
inductive Target where
  | ios
  | android (package : String)
deriving DecidableEq, Repr

/-- The first root of another version refuses all. -/
def Root.ensureVersions : List Root → Except Root.Refusal Unit
  | [] => .ok ()
  | root :: rest =>
    if root.version = currentVersion then ensureVersions rest
    else .error (.unsupportedVersion root.rootId root.version)

/-- The files of some roots for a target. -/
def Target.generate (target : Target) (roots : List Root) :
    Except Root.Refusal (List CodeFile) := do
  Root.ensureVersions roots
  match target with
  | .ios => return Ios.files roots
  | .android package => return Android.files package roots

end Widgetry
