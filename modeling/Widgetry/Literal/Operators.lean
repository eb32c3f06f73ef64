import Widgetry.Literal.Basic
import Widgetry.Source.Tree

/-!
Operators on literals. An operator has no value where only the identity of lists or objects could
decide, and where it is not one of the supported ones.
-/

namespace Widgetry.Literal

open Source (UnaryOp BinaryOp)

/-! ## One operand -/

/-- The name of a value's type, as the language itself tells it. -/
def typeOf : Literal → String
  | .undefined => "undefined"
  | .null | .array _ | .object _ => "object"
  | .bool _ => "boolean"
  | .number _ => "number"
  | .string _ => "string"

def unary? (op : UnaryOp) (value : Literal) : Option Literal :=
  match op with
  | .not => some (.bool (!value.isTruthy))
  | .negate => some (.number (-value.toNumber))
  | .plus => some (.number value.toNumber)
  | .typeOf => some (.string value.typeOf)
  | .void => some .undefined
  | .bitNot | .delete => none

/-! ## Equality and order -/

def isComposite : Literal → Bool
  | .array _ | .object _ => true
  | _ => false

/-- Equality of type and value. -/
def strictEqual? : Literal → Literal → Option Bool
  | .undefined, .undefined | .null, .null => some true
  | .bool a, .bool b => some (a == b)
  | .number a, .number b => some (a == b)
  | .string a, .string b => some (a == b)
  | a, b => if a.isComposite && b.isComposite then none else some false

/-- Equality after conversion: nullish values equal each other, texts are compared as texts, and
everything else as numbers. -/
def looseEqual? (a b : Literal) : Option Bool :=
  if a.isNullish && b.isNullish then some true
  else if a.isNullish || b.isNullish then some false
  else if a.isComposite || b.isComposite then none
  else
    match a, b with
    | .string a, .string b => some (a == b)
    | a, b => some (a.toNumber == b.toNumber)

/-- The order of two texts by their characters, or of two values by their numbers. -/
def compare? : Literal → Literal → Option Ordering
  | .string a, .string b => some (if a < b then .lt else if a = b then .eq else .gt)
  | a, b =>
    let x := a.toNumber
    let y := b.toNumber
    if x < y then some .lt else if x > y then some .gt else if x == y then some .eq else none

/-! ## Two operands -/

/-- Texts, lists and objects make a sum a concatenation. -/
def isTextual : Literal → Bool
  | .string _ | .array _ | .object _ => true
  | _ => false

def add (a b : Literal) : Literal :=
  if a.isTextual || b.isTextual then .string (a.toText ++ b.toText)
  else .number (a.toNumber + b.toNumber)

def remainder (x y : Float) : Float :=
  ((Double.ofFloat x).remainder (Double.ofFloat y)).toFloat

def binary? (op : BinaryOp) (a b : Literal) : Option Literal :=
  match op with
  | .add => some (add a b)
  | .subtract => some (.number (a.toNumber - b.toNumber))
  | .multiply => some (.number (a.toNumber * b.toNumber))
  | .divide => some (.number (a.toNumber / b.toNumber))
  | .remainder => some (.number (remainder a.toNumber b.toNumber))
  | .power => some (.number (a.toNumber ^ b.toNumber))
  | .strictEqual => (strictEqual? a b).map .bool
  | .strictUnequal => (strictEqual? a b).map fun equal => .bool (!equal)
  | .equal => (looseEqual? a b).map .bool
  | .unequal => (looseEqual? a b).map fun equal => .bool (!equal)
  | .less => some (.bool (compare? a b == some .lt))
  | .greater => some (.bool (compare? a b == some .gt))
  | .lessOrEqual => some (.bool ((compare? a b).any (· != .gt)))
  | .greaterOrEqual => some (.bool ((compare? a b).any (· != .lt)))
  | .unsupported => none

/-! ## Members -/

/-- The count of UTF-16 units of a text. -/
def unitCount (text : String) : Nat :=
  text.toList.foldl (fun n c => n + if c.toNat < 0x10000 then 1 else 2) 0

/-- A position: digits, after a plus sign if need be, that fit into 64 bits. -/
def position? (key : String) : Option Nat :=
  let digits := match key.toList with
    | '+' :: rest => rest
    | cs => cs
  if digits.isEmpty || !digits.all Char.isDigit then none
  else
    let n := Decimal.ofDigits digits
    if n < 0x10000000000000000 then some n else none

/-- A member of a value by its name. Lists have a length and positions, texts a length. -/
def member? (key : String) : Literal → Option Literal
  | .object members => some ((Bag.find? key members).getD .undefined)
  | .array items =>
    if key = "length" then some (.number items.length.toFloat)
    else (position? key).map fun n => (items[n]?).getD .undefined
  | .string text => if key = "length" then some (.number (unitCount text).toFloat) else none
  | _ => none

/-- The name that a value in square brackets stands for. -/
def key? : Literal → Option String
  | .number value => some (Double.numeral value)
  | .string value => some value
  | _ => none

end Widgetry.Literal
