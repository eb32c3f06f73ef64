import Widgetry.Proofs.Android.Whole
import Widgetry.Proofs.Ios.Whole

/-!
Brackets of generated files. Whatever texts a root or an activity holds, every file that is generated
from it can be read to its end: strings end on their lines and brackets match.
-/

namespace Widgetry

open Code

/-- Main statement: the view, the bundle of widgets and the activity for iOS, and the screen, the
widget and the activity for Android. -/
theorem wellBracketed_generated (roots : List Root) (root : Root) (activity : LiveActivity)
    (package : String) (hpackage : ∀ c ∈ package.toList, Android.isPackageChar c = true) :
    WellBracketed (print Ios.quoting (Ios.viewFile root)) ∧
    WellBracketed (print Ios.quoting (Ios.bundleFile (roots.filterMap Ios.registered?))) ∧
    WellBracketed (print Ios.quoting (Ios.activityFile activity)) ∧
    WellBracketed (print Android.quoting (Android.screenFile package root)) ∧
    WellBracketed (print Android.quoting (Android.glanceFile package root)) ∧
    WellBracketed (print Android.quoting (Android.activityFile package activity)) := by
  refine ⟨?_, ?_, ?_, ?_, ?_, ?_⟩
  · exact wellBracketed_print _ (Ios.whole_viewFile root)
  · exact wellBracketed_print _ (Ios.whole_bundleFile Ios.complete_registered?)
  · exact wellBracketed_print _ (Ios.whole_activityFile activity)
  · exact wellBracketed_print _ (Android.whole_screenFile hpackage root)
  · exact wellBracketed_print _ (Android.whole_glanceFile hpackage root)
  · exact wellBracketed_print _ (Android.whole_activityFile hpackage activity)

/-- A root whose name and text are made of brackets and quotes. -/
theorem wellBracketed_generated_brackets :
    let root := Root.ofTree "\x7d)\n\"" (.text {} (.string "(\"\n]"))
    let activity : LiveActivity := { activityType := "[/*", staleDate := some "\\" }
    (∀ c ∈ "com.example.app".toList, Android.isPackageChar c = true) ∧
      WellBracketed (print Android.quoting (Android.screenFile "com.example.app" root)) ∧
      WellBracketed (print Ios.quoting (Ios.activityFile activity)) := by
  intro root activity
  have hpackage : ∀ c ∈ "com.example.app".toList, Android.isPackageChar c = true :=
    List.all_eq_true.1 (by decide)
  obtain ⟨-, -, hactivity, hscreen, -, -⟩ :=
    wellBracketed_generated [root] root activity "com.example.app" hpackage
  exact ⟨hpackage, hscreen, hactivity⟩

end Widgetry
