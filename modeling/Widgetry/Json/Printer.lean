import Widgetry.Decimal.Numeral
import Widgetry.Json.Basic
import Widgetry.Text.Hex

/-!
JSON text: a compact form on one line, and a pretty one with two blanks for each level.
-/

namespace Widgetry.Json

/-! ## Scalars -/

/-- A character inside quotes: only quotes, backslashes and control characters are escaped. -/
def escapeChar (c : Char) : List Char :=
  if c = '"' then ['\\', '"']
  else if c = '\\' then ['\\', '\\']
  else if c = '\n' then ['\\', 'n']
  else if c = '\r' then ['\\', 'r']
  else if c = '\t' then ['\\', 't']
  else if c.toNat = 8 then ['\\', 'b']
  else if c.toNat = 12 then ['\\', 'f']
  else if c.toNat < 32 then
    ['\\', 'u', '0', '0', Hex.digit (c.toNat / 16), Hex.digit (c.toNat % 16)]
  else [c]

def quote (text : String) : String :=
  String.ofList ('"' :: text.toList.flatMap escapeChar ++ ['"'])

/-- The text of a floating number: the shortest digits, always with a point or an exponent, and
positional from `0.00001` up to sixteen digits before the point. What is not finite is null. -/
def floatText (x : Float) : String :=
  match Double.ofFloat x with
  | .finite negative m e =>
    let decimal := Decimal.shortest .toEven m e
    let sign := if negative then "-" else ""
    if -5 ≤ decimal.leading ∧ decimal.leading < 16 then
      sign ++ decimal.positional ++ (if 0 ≤ decimal.exponent then ".0" else "")
    else sign ++ decimal.scientific
  | _ => "null"

def Number.text : Number → String
  | .integer value => toString value
  | .float value => floatText value

/-- A number that is written as a whole one whenever it is whole. -/
def ofFloat (x : Float) : Json :=
  let d := Double.ofFloat x
  if d.isWhole then .number (.integer d.truncate)
  else
    match d with
    | .finite .. => .number (.float x)
    | _ => .null

/-! ## Compact text -/

mutual

def compact : Json → String
  | .null => "null"
  | .bool value => if value then "true" else "false"
  | .number value => value.text
  | .string value => quote value
  | .array items => "[" ++ compactItems items ++ "]"
  | .object members => "\x7b" ++ compactMembers members ++ "\x7d"

def compactItems : List Json → String
  | [] => ""
  | [item] => compact item
  | item :: rest => compact item ++ "," ++ compactItems rest

def compactMembers : List (String × Json) → String
  | [] => ""
  | [(name, value)] => quote name ++ ":" ++ compact value
  | (name, value) :: rest => quote name ++ ":" ++ compact value ++ "," ++ compactMembers rest

end

/-! ## Pretty text -/

def indent (level : Nat) : String := String.ofList (List.replicate (2 * level) ' ')

mutual

def prettyAt (level : Nat) : Json → String
  | .null => "null"
  | .bool value => if value then "true" else "false"
  | .number value => value.text
  | .string value => quote value
  | .array [] => "[]"
  | .array (item :: rest) =>
    "[\n" ++ prettyItems (level + 1) (item :: rest) ++ "\n" ++ indent level ++ "]"
  | .object [] => "\x7b\x7d"
  | .object (member :: rest) =>
    "\x7b\n" ++ prettyMembers (level + 1) (member :: rest) ++ "\n" ++ indent level ++ "\x7d"

def prettyItems (level : Nat) : List Json → String
  | [] => ""
  | [item] => indent level ++ prettyAt level item
  | item :: rest => indent level ++ prettyAt level item ++ ",\n" ++ prettyItems level rest

def prettyMembers (level : Nat) : List (String × Json) → String
  | [] => ""
  | [(name, value)] => indent level ++ quote name ++ ": " ++ prettyAt level value
  | (name, value) :: rest =>
    indent level ++ quote name ++ ": " ++ prettyAt level value ++ ",\n"
      ++ prettyMembers level rest

end

def pretty (value : Json) : String := prettyAt 0 value

end Widgetry.Json
