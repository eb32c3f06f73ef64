/-!
Sets of characters given as ranges of code points.
-/

namespace Widgetry.Text

/-- Code points as inclusive ranges in increasing order. -/
abbrev Ranges := List (Nat × Nat)

def Ranges.contains : Ranges → Nat → Bool
  | [], _ => false
  | (first, last) :: rest, n => if n < first then false else n ≤ last || contains rest n

end Widgetry.Text
