import Widgetry.Decimal.Reading
import Widgetry.Json.Basic
import Widgetry.Text.Hex

/-!
Reading JSON text. Members stay in the order of the text, repeated ones included;
`Json.canonical` settles both. Nesting deeper than 127 levels is refused.
-/

namespace Widgetry.Json

def isBlank (c : Char) : Bool := c = ' ' || c = '\n' || c = '\t' || c = '\r'

def skipBlanks (cs : List Char) : List Char := cs.dropWhile isBlank

/-! ## Numbers -/

def maxWord : Nat := 0xffffffffffffffff

/-- Takes digits into a 64-bit significand until one more would not fit; also gives how many were
taken. -/
def takeSignificand : Nat → Nat → List Char → Nat × Nat × List Char
  | significand, taken, [] => (significand, taken, [])
  | significand, taken, c :: rest =>
    if c.isDigit ∧ 10 * significand + Decimal.digitValue c ≤ maxWord then
      takeSignificand (10 * significand + Decimal.digitValue c) (taken + 1) rest
    else (significand, taken, c :: rest)

/-- The value of `significand * 10 ^ exponent` by one rounding of the significand and one of each
scaling step. `none` when it is out of range. -/
def scale? : Nat → Float → Int → Option Float
  | 0, x, _ => some x
  | fuel + 1, x, exponent =>
    if exponent.natAbs ≤ 308 then
      let power := Float.ofScientific 1 false exponent.natAbs
      if 0 ≤ exponent then
        let y := x * power
        if y.isInf then none else some y
      else some (x / power)
    else if x == 0 then some x
    else if 0 ≤ exponent then none
    -- A significand of 64 bits is zero after two of these steps, so the fuel suffices.
    else scale? fuel (x / 1e308) (exponent + 308)

def floatOf? (negative : Bool) (significand : Nat) (exponent : Int) : Option Number :=
  let start := Float.ofScientific significand false 0
  (scale? 8 start exponent).map fun x => .float (if negative then -x else x)

/-- The largest exponent that is still counted. -/
def maxExponent : Nat := 0x7fffffff

/-- Reads the digits after an exponent mark. -/
def readExponent? (negative : Bool) (significand : Nat) (exponent : Int) (cs : List Char) :
    Option (Number × List Char) :=
  let (minus, cs) := Double.takeSign cs
  let digits := cs.takeWhile Char.isDigit
  let rest := cs.dropWhile Char.isDigit
  if digits.isEmpty then none
  else
    let value := Decimal.ofDigits digits
    if maxExponent < value then
      -- Such an exponent decides alone: the number is out of range or zero.
      if significand ≠ 0 ∧ ¬ minus then none
      else some (.float (if negative then -0.0 else 0.0), rest)
    else
      (floatOf? negative significand (if minus then exponent - value else exponent + value)).map
        fun number => (number, rest)

/-- What follows the digits of a number with a point or with too many digits. -/
def finishFloat? (negative : Bool) (significand : Nat) (exponent : Int) :
    List Char → Option (Number × List Char)
  | [] => (floatOf? negative significand exponent).map fun number => (number, [])
  | c :: rest =>
    if c = 'e' ∨ c = 'E' then readExponent? negative significand exponent rest
    else (floatOf? negative significand exponent).map fun number => (number, c :: rest)

/-- Reads the places after a point; digits that no longer fit are skipped. -/
def readPlaces? (negative : Bool) (significand : Nat) (exponent : Int) (cs : List Char) :
    Option (Number × List Char) :=
  let (filled, taken, rest) := takeSignificand significand 0 cs
  if taken = 0 ∧ ¬ (cs.head?.any Char.isDigit) then none
  else finishFloat? negative filled (exponent - taken) (rest.dropWhile Char.isDigit)

/-- A whole number, when it is within 64 bits; a negative zero is a double. -/
def wholeNumber (negative : Bool) (significand : Nat) : Number :=
  if negative then
    if significand = 0 ∨ 0x8000000000000000 < significand then
      .float (-(Float.ofScientific significand false 0))
    else .integer (-(significand : Int))
  else .integer significand

/-- What follows the whole digits; `dropped` of them did not fit into the significand. -/
def finishNumber? (negative : Bool) (significand dropped : Nat) :
    List Char → Option (Number × List Char)
  | '.' :: rest => readPlaces? negative significand dropped rest
  | rest =>
    if dropped = 0 ∧ ¬ (rest.head?.any fun c => c = 'e' || c = 'E') then
      some (wholeNumber negative significand, rest)
    else finishFloat? negative significand dropped rest

/-- Reads a number without its sign. -/
def readMagnitude? (negative : Bool) : List Char → Option (Number × List Char)
  | '0' :: rest =>
    if rest.head?.any Char.isDigit then none else finishNumber? negative 0 0 rest
  | cs =>
    if cs.head?.any Char.isDigit then
      let (significand, _, rest) := takeSignificand 0 0 cs
      let extra := rest.takeWhile Char.isDigit
      finishNumber? negative significand extra.length (rest.dropWhile Char.isDigit)
    else none

/-! ## Strings -/

/-- Four hexadecimal digits. -/
def readUnit? : List Char → Option (Nat × List Char)
  | a :: b :: c :: d :: rest => do
    let a ← Hex.value? a
    let b ← Hex.value? b
    let c ← Hex.value? c
    let d ← Hex.value? d
    some (((a * 16 + b) * 16 + c) * 16 + d, rest)
  | _ => none

/-- The character of a `\u` escape, with the second half of a surrogate pair. -/
def readUnicode? (cs : List Char) : Option (Char × List Char) := do
  let (unit, rest) ← readUnit? cs
  if 0xD800 ≤ unit ∧ unit < 0xDC00 then
    match rest with
    | '\\' :: 'u' :: rest =>
      let (low, rest) ← readUnit? rest
      if 0xDC00 ≤ low ∧ low < 0xE000 then
        some (Char.ofNat (0x10000 + (unit - 0xD800) * 0x400 + (low - 0xDC00)), rest)
      else none
    | _ => none
  else if 0xDC00 ≤ unit ∧ unit < 0xE000 then none
  else some (Char.ofNat unit, rest)

def simpleEscape? (c : Char) : Option Char :=
  match c with
  | '"' => some '"'
  | '\\' => some '\\'
  | '/' => some '/'
  | 'b' => some (Char.ofNat 8)
  | 'f' => some (Char.ofNat 12)
  | 'n' => some '\n'
  | 'r' => some '\r'
  | 't' => some '\t'
  | _ => none

/-- Reads up to the closing quote; `found` is what came before, last character first. -/
def readQuoted? : Nat → List Char → List Char → Option (String × List Char)
  | 0, _, _ => none
  | fuel + 1, found, cs =>
    match cs with
    | [] => none
    | '"' :: rest => some (String.ofList found.reverse, rest)
    | '\\' :: 'u' :: rest => do
      let (c, rest) ← readUnicode? rest
      readQuoted? fuel (c :: found) rest
    | '\\' :: c :: rest => do
      let c ← simpleEscape? c
      readQuoted? fuel (c :: found) rest
    | c :: rest =>
      if c = '\\' ∨ c.toNat < 32 then none else readQuoted? fuel (c :: found) rest

/-! ## Values -/

mutual

/-- Reads one value; `depth` levels of nesting are left. -/
def readValue? : Nat → Nat → List Char → Option (Json × List Char)
  | 0, _, _ => none
  | fuel + 1, depth, cs =>
    match skipBlanks cs with
    | 'n' :: 'u' :: 'l' :: 'l' :: rest => some (.null, rest)
    | 't' :: 'r' :: 'u' :: 'e' :: rest => some (.bool true, rest)
    | 'f' :: 'a' :: 'l' :: 's' :: 'e' :: rest => some (.bool false, rest)
    | '"' :: rest => (readQuoted? (rest.length + 1) [] rest).map fun (s, rest) => (.string s, rest)
    | '-' :: rest => (readMagnitude? true rest).map fun (n, rest) => (.number n, rest)
    | '[' :: rest =>
      if depth = 0 then none
      else
        match skipBlanks rest with
        | ']' :: rest => some (.array [], rest)
        | rest => (readItems? fuel (depth - 1) rest).map fun (items, rest) => (.array items, rest)
    | '\x7b' :: rest =>
      if depth = 0 then none
      else
        match skipBlanks rest with
        | '\x7d' :: rest => some (.object [], rest)
        | rest =>
          (readMembers? fuel (depth - 1) rest).map fun (members, rest) => (.object members, rest)
    | rest => (readMagnitude? false rest).map fun (n, rest) => (.number n, rest)

/-- Reads the items of a list up to its end; there is at least one. -/
def readItems? : Nat → Nat → List Char → Option (List Json × List Char)
  | 0, _, _ => none
  | fuel + 1, depth, cs => do
    let (item, rest) ← readValue? fuel depth cs
    match skipBlanks rest with
    | ',' :: rest =>
      let (items, rest) ← readItems? fuel depth rest
      some (item :: items, rest)
    | ']' :: rest => some ([item], rest)
    | _ => none

/-- Reads the members of an object up to its end; there is at least one. -/
def readMembers? : Nat → Nat → List Char → Option (List (String × Json) × List Char)
  | 0, _, _ => none
  | fuel + 1, depth, cs =>
    match skipBlanks cs with
    | '"' :: rest => do
      let (name, rest) ← readQuoted? (rest.length + 1) [] rest
      match skipBlanks rest with
      | ':' :: rest =>
        let (value, rest) ← readValue? fuel depth rest
        match skipBlanks rest with
        | ',' :: rest =>
          let (members, rest) ← readMembers? fuel depth rest
          some ((name, value) :: members, rest)
        | '\x7d' :: rest => some ([(name, value)], rest)
        | _ => none
      | _ => none
    | _ => none

end

/-- The levels of nesting that a text may have. -/
def maxDepth : Nat := 127

/-- The value of a whole text. -/
def read? (text : String) : Option Json := do
  let cs := text.toList
  -- Of two calls in a row one takes a character, so there are at most two for each.
  let (value, rest) ← readValue? (2 * cs.length + 2) maxDepth cs
  if (skipBlanks rest).isEmpty then some value else none

end Widgetry.Json
