import Widgetry.Decimal.Shortest

/-!
Doubles as text: positional and scientific layouts of a decimal, the numeral of a double that
never uses an exponent, and a fixed number of places.
-/

namespace Widgetry

namespace Decimal

def zeros (n : Nat) : String := String.ofList (List.replicate n '0')

/-- Digits with the point where it belongs, and no point after a whole number. -/
def positional (d : Decimal) : String :=
  let digits := Nat.repr d.digits
  if 0 ≤ d.exponent then digits ++ zeros d.exponent.toNat
  else
    let places := (-d.exponent).toNat
    if places < digits.length then
      String.ofList (digits.toList.take (digits.length - places)) ++ "."
        ++ String.ofList (digits.toList.drop (digits.length - places))
    else "0." ++ zeros (places - digits.length) ++ digits

/-- The exponent of the leading digit. -/
def leading (d : Decimal) : Int := d.exponent + (Nat.repr d.digits).length - 1

/-- One digit before the point, then the exponent with its sign. -/
def scientific (d : Decimal) : String :=
  let exponent := d.leading
  let mark := if exponent < 0 then "e-" else "e+"
  match (Nat.repr d.digits).toList with
  | [] => "0"
  | [c] => String.ofList [c] ++ mark ++ Nat.repr exponent.natAbs
  | c :: rest => String.ofList (c :: '.' :: rest) ++ mark ++ Nat.repr exponent.natAbs

/-- The quotient rounded to the nearest whole number, a half to the even one. -/
def roundHalfEven (num den : Nat) : Nat :=
  let low := num / den
  match compare (2 * (num % den)) den with
  | .lt => low
  | .gt => low + 1
  | .eq => if low % 2 = 0 then low else low + 1

end Decimal

namespace Double

/-- The shortest digits of a double, never with an exponent; a whole number has no point, and a
negative zero keeps its sign. -/
def display (x : Float) : String :=
  match ofFloat x with
  | .nan => "NaN"
  | .infinite negative => if negative then "-inf" else "inf"
  | .finite negative m e =>
    (if negative then "-" else "") ++ (Decimal.shortest .up m e).positional

/-- A fixed number of places after the point, rounded exactly, a half to the even neighbour. -/
def fixed (places : Nat) (x : Float) : String :=
  match ofFloat x with
  | .nan => "NaN"
  | .infinite negative => if negative then "-inf" else "inf"
  | .finite negative m e =>
    let scaled :=
      Decimal.roundHalfEven (m * Decimal.twos e * Decimal.tens places) (Decimal.twos (-e))
    let digits := Nat.repr scaled
    let padded := Decimal.zeros (places + 1 - digits.length) ++ digits
    let whole := padded.length - places
    (if negative then "-" else "") ++ String.ofList (padded.toList.take whole)
      ++ (if places = 0 then "" else "." ++ String.ofList (padded.toList.drop whole))

/-- The numeral of a number in markup and in generated code: zero has no sign, whole numbers have
no point, nothing has an exponent. -/
def numeral (x : Float) : String :=
  match ofFloat x with
  | .nan => "NaN"
  | .infinite negative => if negative then "-Infinity" else "Infinity"
  | d => if d.isWhole then toString d.truncate else display x

end Double

end Widgetry
