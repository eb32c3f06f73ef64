import Widgetry.Decimal.Reading
import Widgetry.Source.Token.Basic
import Widgetry.Text.Hex
import Widgetry.Text.Letters

/-!
Numeric literals: decimal ones with a point and an exponent, and whole ones with another base.
Single underscores may stand between digits.
-/

namespace Widgetry.Source.Numeric

/-- Underscores stand one at a time, between digits. -/
def wellSeparated : List Char → Bool
  | [] => true
  | ['_'] => false
  | '_' :: '_' :: _ => false
  | _ :: rest => wellSeparated rest

/-- Digits with underscores; none at all is fine. -/
def takeDigits? (isDigit : Char → Bool) (cursor : Cursor) : Option (List Char × Cursor) :=
  let (taken, after) := cursor.span fun c => isDigit c || c = '_'
  if taken.head? = some '_' || !wellSeparated taken then none
  else some (taken.filter (· ≠ '_'), after)

/-- A number may not run into a word or another number. -/
def endsCleanly (cursor : Cursor) : Bool :=
  match cursor.rest with
  | [] => true
  | c :: _ => !(Text.isIdentifierStart c || c.isDigit || c = '\\')

def finish? (token : Token) (cursor : Cursor) : Option (Token × Cursor) :=
  if endsCleanly cursor then some (token, cursor) else none

/-- The value of digits of a base, in doubles from left to right. -/
def valueOf (base : Float) (digits : List Char) : Float :=
  digits.foldl (fun x c => x * base + (Float.ofNat ((Hex.value? c).getD 0))) 0

/-- A whole number after its base mark. -/
def readBased? (base : Float) (isDigit : Char → Bool) (cursor : Cursor) :
    Option (Token × Cursor) := do
  let (digits, after) ← takeDigits? isDigit cursor
  if digits.isEmpty then none
  else
    match after.head? with
    | some 'n' => finish? .bigInteger after.next
    | _ => finish? (.number (valueOf base digits)) after

def decimalToken (chars : List Char) : Token :=
  match Double.readDecimal? chars with
  | some decimal => .number decimal.toFloat
  | none => .invalid

/-- The exponent, when there is one, after the characters of the mantissa. -/
def readExponent? (mantissa : List Char) (cursor : Cursor) : Option (Token × Cursor) :=
  match cursor.rest with
  | c :: _ =>
    if c = 'e' || c = 'E' then do
      let cursor := cursor.next
      let (sign, cursor) :=
        match cursor.rest with
        | '+' :: _ => (['+'], cursor.next)
        | '-' :: _ => (['-'], cursor.next)
        | _ => ([], cursor)
      let (digits, after) ← takeDigits? Char.isDigit cursor
      if digits.isEmpty then none
      else finish? (decimalToken (mantissa ++ ['e'] ++ sign ++ digits)) after
    else finish? (decimalToken mantissa) cursor
  | [] => finish? (decimalToken mantissa) cursor

/-- What follows the point. -/
def readPlaces? (whole : List Char) (cursor : Cursor) : Option (Token × Cursor) := do
  let (places, after) ← takeDigits? Char.isDigit cursor
  readExponent? (whole ++ ['.'] ++ places) after

def isOctal (c : Char) : Bool := '0' ≤ c && c ≤ '7'

def isBinary (c : Char) : Bool := c = '0' || c = '1'

def isHex (c : Char) : Bool := (Hex.value? c).isSome

/-- A number that starts with a zero and another digit: octal unless a digit is too large. -/
def readLeadingZero? (cursor : Cursor) : Option (Token × Cursor) :=
  let (digits, after) := cursor.span Char.isDigit
  if digits.all isOctal then finish? (.number (valueOf 8 digits)) after
  else
    match after.rest with
    | '.' :: _ => readPlaces? digits after.next
    | _ => readExponent? digits after

/-- A decimal number that does not start with a zero. -/
def readDecimal? (cursor : Cursor) : Option (Token × Cursor) := do
  let (whole, after) ← takeDigits? Char.isDigit cursor
  match after.rest with
  | '.' :: _ => readPlaces? whole after.next
  | 'n' :: _ => finish? .bigInteger after.next
  | _ => readExponent? whole after

/-- Reads a number; the cursor is at a digit, or at a point that a digit follows. -/
def read? (cursor : Cursor) : Option (Token × Cursor) :=
  match cursor.rest with
  | '.' :: _ => readPlaces? [] cursor.next
  | '0' :: c :: _ =>
    let after := cursor.skip 2
    if c = 'x' || c = 'X' then readBased? 16 isHex after
    else if c = 'o' || c = 'O' then readBased? 8 isOctal after
    else if c = 'b' || c = 'B' then readBased? 2 isBinary after
    else if c.isDigit then readLeadingZero? cursor
    else if c = '.' then readPlaces? ['0'] after
    else if c = 'n' then finish? .bigInteger after
    else readExponent? ['0'] cursor.next
  | _ => readDecimal? cursor

end Widgetry.Source.Numeric
