import Widgetry.Root.Basic

/-!
What the compiler says about itself.
-/

namespace Widgetry.About

def name : String := "brikc"

def version : String := "0.1.0"

def description : String :=
  "Brik Widget Compiler - Compile JSX/TSX widgets to SwiftUI and Jetpack Compose"

def features : List String :=
  ["widgets", "live-activities", "static-lists", "conditional-markup", "swiftui", "compose",
    "glance"]

def supports (feature : String) : Bool := features.contains feature

end Widgetry.About
