import Widgetry.Decimal.Numeral
import Widgetry.Decimal.Reading
import Widgetry.Json.Printer
import Widgetry.Text.Blank

/-!
Literals: the values that a widget's source fixes before anything runs, and their conversions to
truth values, text, numbers and JSON.
-/

namespace Widgetry

/-- A value known at compile time. The members of an object stand in the order of their names'
first appearance. -/
inductive Literal where
  | undefined
  | null
  | bool (value : Bool)
  | number (value : Float)
  | string (value : String)
  | array (items : List Literal)
  | object (members : List (String × Literal))

namespace Literal

instance : Inhabited Literal := ⟨undefined⟩

def isNullish : Literal → Bool
  | .undefined | .null => true
  | _ => false

/-- False are the nullish values, `false`, zeros, no number and the empty text. -/
def isTruthy : Literal → Bool
  | .undefined | .null => false
  | .bool value => value
  | .number value => value != 0 && !value.isNaN
  | .string value => !value.isEmpty
  | .array _ | .object _ => true

/-! ## Views -/

def string? : Literal → Option String
  | .string value => some value
  | _ => none

def number? : Literal → Option Float
  | .number value => some value
  | _ => none

def bool? : Literal → Option Bool
  | .bool value => some value
  | _ => none

def object? : Literal → Option (Bag Literal)
  | .object members => some members
  | _ => none

/-- Texts and numbers as text, the way keys and names are read. -/
def text? : Literal → Option String
  | .string value => some value
  | .number value => some (Double.numeral value)
  | _ => none

/-! ## Conversions -/

mutual

/-- The text of a value inside other text; a nullish item of a list leaves its place empty. -/
def toText : Literal → String
  | .undefined => "undefined"
  | .null => "null"
  | .bool value => if value then "true" else "false"
  | .number value => Double.numeral value
  | .string value => value
  | .array items => ",".intercalate (itemTexts items)
  | .object _ => "[object Object]"

def itemTexts : List Literal → List String
  | [] => []
  | item :: rest => (if item.isNullish then "" else toText item) :: itemTexts rest

end

def notANumber : Float := Double.nan.toFloat

/-- The number of a value in arithmetic. -/
def toNumber : Literal → Float
  | .undefined | .array _ | .object _ => notANumber
  | .null => 0
  | .bool value => if value then 1 else 0
  | .number value => value
  | .string value =>
    let trimmed := Text.trim value
    if trimmed.isEmpty then 0 else (Double.read? trimmed).getD notANumber

def typeName : Literal → String
  | .undefined => "undefined"
  | .null => "null"
  | .bool _ => "boolean"
  | .number _ => "number"
  | .string _ => "string"
  | .array _ => "array"
  | .object _ => "object"

def isUndefined : Literal → Bool
  | .undefined => true
  | _ => false

mutual

/-- The JSON of a value: undefined members are left out, the others are sorted by name. -/
def toJson : Literal → Json
  | .undefined | .null => .null
  | .bool value => .bool value
  | .number value => Json.ofFloat value
  | .string value => .string value
  | .array items => .array (itemsToJson items)
  | .object members => .object (Bag.sorted (membersToJson members))

def itemsToJson : List Literal → List Json
  | [] => []
  | item :: rest => toJson item :: itemsToJson rest

def membersToJson : List (String × Literal) → List (String × Json)
  | [] => []
  | (name, value) :: rest =>
    if value.isUndefined then membersToJson rest else (name, toJson value) :: membersToJson rest

end

end Literal

end Widgetry
