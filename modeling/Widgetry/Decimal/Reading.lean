import Widgetry.Decimal.Shortest

/-!
Reading doubles from text: an optional sign, digits with an optional point and exponent, or the
name of an infinity or of no number, in any case. The result is the double nearest to the decimal.
-/

namespace Widgetry

namespace Decimal

def digitValue (c : Char) : Nat := c.toNat - '0'.toNat

/-- The value of a run of digits. -/
def ofDigits (cs : List Char) : Nat := cs.foldl (fun n c => 10 * n + digitValue c) 0

/-- The double nearest to `digits * 10 ^ exponent`, infinite when that is out of range. -/
def toFloat (d : Decimal) : Float :=
  if d.digits = 0 then 0
  else
    -- Far out of range the answer is known without the power of ten, which could be huge.
    let size := (Nat.repr d.digits).length + d.exponent
    if 400 < size then Double.toFloat (.infinite false)
    else if size < -400 then 0
    else if 0 ≤ d.exponent then Float.ofScientific d.digits false d.exponent.toNat
    else Float.ofScientific d.digits true (-d.exponent).toNat

end Decimal

namespace Double

/-- Drops a sign and tells whether it was a minus. -/
def takeSign : List Char → Bool × List Char
  | '-' :: rest => (true, rest)
  | '+' :: rest => (false, rest)
  | cs => (false, cs)

/-- The exponent part, which may be absent but not empty. -/
def readExponent? : List Char → Option Int
  | [] => some 0
  | c :: rest =>
    if c = 'e' ∨ c = 'E' then
      let (negative, digits) := takeSign rest
      if digits.isEmpty ∨ ¬ digits.all Char.isDigit then none
      else
        let value : Int := Decimal.ofDigits digits
        some (if negative then -value else value)
    else none

/-- An unsigned decimal: digits on at least one side of the point. -/
def readDecimal? (cs : List Char) : Option Decimal :=
  let whole := cs.takeWhile Char.isDigit
  let rest := cs.dropWhile Char.isDigit
  let (places, rest) :=
    match rest with
    | '.' :: rest => (rest.takeWhile Char.isDigit, rest.dropWhile Char.isDigit)
    | rest => ([], rest)
  if whole.isEmpty ∧ places.isEmpty then none
  else
    (readExponent? rest).map fun exponent =>
      ⟨Decimal.ofDigits (whole ++ places), exponent - places.length⟩

def lowerAscii (cs : List Char) : String := String.ofList (cs.map Char.toLower)

/-- The double that a whole text denotes. -/
def read? (text : String) : Option Float :=
  let (negative, cs) := takeSign text.toList
  let magnitude? : Option Float :=
    match lowerAscii cs with
    | "inf" | "infinity" => some (toFloat (.infinite false))
    | "nan" => some (toFloat .nan)
    | _ => (readDecimal? cs).map Decimal.toFloat
  magnitude?.map fun x => if negative then -x else x

end Double

end Widgetry
