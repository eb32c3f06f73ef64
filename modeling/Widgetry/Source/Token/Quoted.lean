import Widgetry.Source.Token.Basic
import Widgetry.Text.Hex

/-!
Quoted text: strings, the texts of templates, and the escapes in both. Text is collected as code
points, in which halves of surrogate pairs can stand alone; `spell` turns it into characters.
-/

namespace Widgetry.Source.Quoted

/-! ## From code points to text -/

def isHighHalf (n : Nat) : Bool := 0xD800 ≤ n && n < 0xDC00

def isLowHalf (n : Nat) : Bool := 0xDC00 ≤ n && n < 0xE000

/-- Joins each high half with the low half right after it. -/
def joinHalves : List Nat → List Nat
  | [] => []
  | [n] => [n]
  | high :: low :: rest =>
    if isHighHalf high && isLowHalf low then
      (0x10000 + (high - 0xD800) * 0x400 + (low - 0xDC00)) :: joinHalves rest
    else high :: joinHalves (low :: rest)

/-- The four digits that tell which code point a replacement character stands for. -/
def hexQuad (n : Nat) : List Char :=
  [Hex.digit (n / 0x1000 % 16), Hex.digit (n / 0x100 % 16), Hex.digit (n / 16 % 16),
    Hex.digit (n % 16)]

def replacement : Nat := 0xFFFD

/-- A half that stands alone becomes the replacement character and its four digits; in a text
with such a half, a replacement character is written in the same way. -/
def spell (points : List Nat) : String :=
  let points := joinHalves points
  let isHalf := fun n => isHighHalf n || isLowHalf n
  let marked := points.any isHalf
  String.ofList (points.flatMap fun n =>
    if isHalf n || (marked && n = replacement) then Char.ofNat replacement :: hexQuad n
    else [Char.ofNat n])

/-! ## Escapes -/

/-- The value of hexadecimal digits. -/
def hexValue (digits : List Char) : Nat :=
  digits.foldl (fun n c => 16 * n + (Hex.value? c).getD 0) 0

def isHex (c : Char) : Bool := (Hex.value? c).isSome

/-- Exactly `count` hexadecimal digits. -/
def readHex? (count : Nat) (cursor : Cursor) : Option (Nat × Cursor) :=
  let digits := cursor.rest.take count
  if digits.length = count && digits.all isHex then some (hexValue digits, cursor.skip count)
  else none

/-- A code point after `\u`: four digits, or any number of them in braces. -/
def readCodePoint? (cursor : Cursor) : Option (Nat × Cursor) :=
  match cursor.rest with
  | '\x7b' :: _ =>
    let (digits, after) := cursor.next.span isHex
    match after.rest with
    | '\x7d' :: _ =>
      if digits.isEmpty || 0x10FFFF < hexValue digits then none
      else some (hexValue digits, after.next)
    | _ => none
  | _ => readHex? 4 cursor

/-- Up to three octal digits whose value is a byte. -/
def readOctal (cursor : Cursor) : Nat × Cursor :=
  let isOctal := fun c : Char => '0' ≤ c && c ≤ '7'
  let limit := if cursor.rest.head?.any (· ≤ '3') then 3 else 2
  let digits := (cursor.rest.take limit).takeWhile isOctal
  (digits.foldl (fun n c => 8 * n + (c.toNat - '0'.toNat)) 0, cursor.skip digits.length)

/-- The code points that an escape stands for; the cursor is after the backslash. Templates know
no octal escapes. -/
def readEscape? (inTemplate : Bool) (cursor : Cursor) : Option (List Nat × Cursor) :=
  match cursor.rest with
  | [] => none
  | c :: rest =>
    let after := cursor.next
    if c = 'n' then some ([10], after)
    else if c = 'r' then some ([13], after)
    else if c = 't' then some ([9], after)
    else if c = 'b' then some ([8], after)
    else if c = 'v' then some ([11], after)
    else if c = 'f' then some ([12], after)
    else if c = '\r' then some ([], if rest.head? = some '\n' then after.next else after)
    else if isLineEnd c then some ([], after)
    else if c = 'x' then (readHex? 2 after).map fun (n, after) => ([n], after)
    else if c = 'u' then (readCodePoint? after).map fun (n, after) => ([n], after)
    else if c = '0' && !(rest.head?.any Char.isDigit) then some ([0], after)
    else if '0' ≤ c && c ≤ '7' then
      if inTemplate then none
      else
        let (n, after) := readOctal cursor
        some ([n], after)
    else if c = '8' || c = '9' then
      if inTemplate then none else some ([c.toNat], after)
    else some ([c.toNat], after)

/-- How many characters stand before the next quote that no backslash takes away. -/
def lengthUntil (quote : Char) : List Char → Nat
  | [] => 0
  | '\\' :: _ :: rest => lengthUntil quote rest + 2
  | c :: rest => if c = quote then 0 else lengthUntil quote rest + 1

/-! ## Strings -/

/-- The code points up to the closing quote, behind those that were found, last one first. A line
may only end after a backslash. -/
def readPoints? (quote : Char) : Nat → List Nat → Cursor → Option (List Nat × Cursor)
  | 0, _, _ => none
  | fuel + 1, found, cursor =>
    match cursor.rest with
    | [] => none
    | c :: _ =>
      if c = quote then some (found.reverse, cursor.next)
      else if c = '\n' || c = '\r' then none
      else if c = '\\' then
        match readEscape? false cursor.next with
        | some (points, after) => readPoints? quote fuel (points.reverse ++ found) after
        | none => none
      else readPoints? quote fuel (c.toNat :: found) cursor.next

/-- The text up to the closing quote. -/
def readString? (quote : Char) (cursor : Cursor) : Option (String × Cursor) :=
  (readPoints? quote (lengthUntil quote cursor.rest + 1) [] cursor).map fun (points, after) =>
    (spell points, after)

/-- In the string that starts here, no half of a surrogate pair stands alone. -/
def isWellFormed (cursor : Cursor) : Bool :=
  match cursor.rest with
  | [] => true
  | quote :: rest =>
    (readPoints? quote (lengthUntil quote rest + 1) [] cursor.next).all fun (points, _) =>
      !(joinHalves points).any fun n => isHighHalf n || isLowHalf n

/-! ## Templates -/

/-- A piece of template text, up to a hole or to the end. Line ends are read as line feeds, and
an escape without a meaning leaves the piece without a text. -/
def readTemplate? : Nat → Option (List Nat) → Cursor → Option (Token × Cursor)
  | 0, _, _ => none
  | fuel + 1, found, cursor =>
    let text := found.map fun points => spell points.reverse
    match cursor.rest with
    | [] => none
    | '\x60' :: _ => some (.template text true, cursor.next)
    | '$' :: '\x7b' :: _ => some (.template text false, cursor.skip 2)
    | '\r' :: '\n' :: _ => readTemplate? fuel (found.map (10 :: ·)) (cursor.skip 2)
    | '\r' :: _ => readTemplate? fuel (found.map (10 :: ·)) cursor.next
    | '\\' :: _ =>
      match readEscape? true cursor.next with
      | some (points, after) => readTemplate? fuel (found.map (points.reverse ++ ·)) after
      | none =>
        if cursor.next.rest.isEmpty then none else readTemplate? fuel none (cursor.skip 2)
    | c :: _ => readTemplate? fuel (found.map (c.toNat :: ·)) cursor.next

/-- The piece of template text at a place. It ends no later than at the quote. -/
def templateAt? (cursor : Cursor) : Option (Token × Cursor) :=
  readTemplate? (lengthUntil '\x60' cursor.rest + 1) (some []) cursor

end Widgetry.Source.Quoted
