import Widgetry.Generate

/-!
The code behind generated files. Roots of the current version are never refused, and the text of each
file is printed code.
-/

namespace Widgetry

open Code

/-! ## Code of roots -/

namespace Ios

def rootCode (root : Root) : List Code :=
  match root.liveActivity with
  | some activity => activityFile activity
  | none => viewFile root

/-- The code of each file, in the order of the files. -/
def codes (roots : List Root) : List (List Code) :=
  let widgets := roots.filterMap registered?
  roots.map rootCode ++ if widgets.isEmpty then [] else [bundleFile widgets]

theorem content_rootFile (root : Root) :
    (rootFile root).content = print quoting (rootCode root) := by
  cases hactivity : root.liveActivity with
  | some activity => simp only [rootFile, rootCode, hactivity]
  | none => simp only [rootFile, rootCode, hactivity]

theorem map_content_files (roots : List Root) :
    (files roots).map CodeFile.content = (codes roots).map (print quoting) := by
  have hroots : (roots.map rootFile).map CodeFile.content
      = (roots.map rootCode).map (print quoting) := by
    simp only [List.map_map, List.map_inj_left, Function.comp_apply]
    exact fun root _ => content_rootFile root
  rw [files, codes, List.map_append, List.map_append, hroots]
  split <;> rfl

end Ios

namespace Android

def rootCode (package : String) (root : Root) : List Code :=
  match root.liveActivity, root.widget with
  | some activity, _ => activityFile package activity
  | none, some _ => glanceFile package root
  | none, none => screenFile package root

theorem content_rootFile (package : String) (root : Root) :
    (rootFile package root).content = print quoting (rootCode package root) := by
  cases hactivity : root.liveActivity with
  | some activity => simp only [rootFile, rootCode, hactivity]
  | none =>
    cases hwidget : root.widget with
    | some widget => simp only [rootFile, rootCode, hactivity, hwidget]
    | none => simp only [rootFile, rootCode, hactivity, hwidget]

theorem map_content_files (package : String) (roots : List Root) :
    (files package roots).map CodeFile.content
      = (roots.map (rootCode package)).map (print quoting) := by
  simp only [files, List.map_map, List.map_inj_left, Function.comp_apply]
  exact fun root _ => content_rootFile package root

end Android

/-! ## Targets -/

namespace Target

def quoting : Target → Quoting
  | .ios => Ios.quoting
  | .android _ => Android.quoting

/-- The code of each file for a target, in the order of the files. -/
def codes : Target → List Root → List (List Code)
  | .ios, roots => Ios.codes roots
  | .android package, roots => roots.map (Android.rootCode package)

def files : Target → List Root → List CodeFile
  | .ios, roots => Ios.files roots
  | .android package, roots => Android.files package roots

theorem map_content_files (target : Target) (roots : List Root) :
    (target.files roots).map CodeFile.content = (target.codes roots).map (print target.quoting) := by
  cases target with
  | ios => exact Ios.map_content_files roots
  | android package => exact Android.map_content_files package roots

theorem ensureVersions_eq_ok {roots : List Root}
    (h : ∀ root ∈ roots, root.version = currentVersion) : Root.ensureVersions roots = .ok () := by
  induction roots with
  | nil => rfl
  | cons root rest ih =>
    obtain ⟨hroot, hrest⟩ := List.forall_mem_cons.1 h
    rw [Root.ensureVersions, if_pos hroot, ih hrest]

theorem generate_eq_ok (target : Target) {roots : List Root}
    (h : ∀ root ∈ roots, root.version = currentVersion) :
    target.generate roots = .ok (target.files roots) := by
  have hversions := ensureVersions_eq_ok h
  cases target with
  | ios => simp [generate, hversions, files, bind, Except.bind, pure, Except.pure]
  | android package => simp [generate, hversions, files, bind, Except.bind, pure, Except.pure]

end Target

end Widgetry
