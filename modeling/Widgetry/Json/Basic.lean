import Widgetry.Bag

/-!
JSON values. Whole numbers and floating ones stay apart, because they are written differently,
and an object keeps its members in order.
-/

namespace Widgetry

/-- A JSON number: a whole one within 64 bits, or a double. -/
inductive Json.Number where
  | integer (value : Int)
  | float (value : Float)

inductive Json where
  | null
  | bool (value : Bool)
  | number (value : Json.Number)
  | string (value : String)
  | array (items : List Json)
  | object (members : List (String × Json))

namespace Json

instance : Inhabited Json := ⟨null⟩

def ofNat (n : Nat) : Json := .number (.integer n)

/-- The first member of that name. -/
def member? (name : String) : Json → Option Json
  | .object members => Bag.find? name members
  | _ => none

mutual

/-- Members by the order of their names at every level; of several members with one name the
last stays. -/
def canonical : Json → Json
  | .array items => .array (canonicalItems items)
  | .object members => .object (Bag.sorted (canonicalMembers members))
  | value => value

def canonicalItems : List Json → List Json
  | [] => []
  | item :: rest => canonical item :: canonicalItems rest

def canonicalMembers : List (String × Json) → List (String × Json)
  | [] => []
  | (name, value) :: rest => (name, canonical value) :: canonicalMembers rest

end

end Json

end Widgetry
