/-!
Doubles taken apart and put together: a finite double is a signed whole mantissa times a power of
two, and everything exact about numbers in this library is computed on those parts.
-/

namespace Widgetry

/-- What a double is: a finite one has the value `mantissa * 2 ^ exponent`, with its sign. -/
inductive Double where
  | nan
  | infinite (negative : Bool)
  | finite (negative : Bool) (mantissa : Nat) (exponent : Int)
deriving DecidableEq, Repr

namespace Double

/-- The exponent of the least positive double. -/
def leastExponent : Int := -1074

/-- Mantissas of normal doubles lie between this bound and its double. -/
def hiddenBit : Nat := 1 <<< 52

/-- The bit that is set in negative doubles. -/
def signBit : Nat := 1 <<< 63

def ofFloat (x : Float) : Double :=
  let bits := x.toBits.toNat
  let negative := decide (signBit ≤ bits)
  let biased : Nat := bits / hiddenBit % 2048
  let fraction : Nat := bits % hiddenBit
  if biased = 2047 then
    if fraction = 0 then .infinite negative else .nan
  else if biased = 0 then .finite negative fraction leastExponent
  else .finite negative (fraction + hiddenBit) (biased - 1075)

/-- Halves the mantissa, or doubles it, until it is that of a normal double or the exponent is
the least one. The value is kept as long as no odd mantissa is halved. -/
def normalize : Nat → Nat → Int → Nat × Int
  | 0, m, e => (m, e)
  | fuel + 1, m, e =>
    if 2 * hiddenBit ≤ m then normalize fuel (m / 2) (e + 1)
    else if m < hiddenBit ∧ leastExponent < e then normalize fuel (2 * m) (e - 1)
    else (m, e)

/-- The double of a value that has one: `mantissa * 2 ^ exponent` with few enough binary digits. -/
def toFloat : Double → Float
  | .nan => Float.ofBits 0x7ff8000000000000
  | .infinite negative => Float.ofBits (if negative then 0xfff0000000000000 else 0x7ff0000000000000)
  | .finite negative mantissa exponent =>
    let sign := if negative then signBit else 0
    if mantissa = 0 then Float.ofBits (UInt64.ofNat sign)
    else
      -- The longest mantissas are those of remainders, with fewer than 2100 binary digits.
      let (m, e) := normalize 4500 mantissa exponent
      let biased := if m < hiddenBit then 0 else (e + 1075).toNat
      Float.ofBits (UInt64.ofNat (sign + biased * hiddenBit + m % hiddenBit))

/-- A zero loses its sign. -/
def unsigned (x : Float) : Float := if x == 0 then 0 else x

/-! ## Questions about a double -/

/-- A whole number such that all smaller whole numbers are doubles too. -/
def isWhole : Double → Bool
  | .finite _ m e =>
    if 0 ≤ e then decide (m <<< e.toNat < 2 * hiddenBit)
    else decide (m % (1 <<< (-e).toNat) = 0)
  | _ => false

/-- The whole part, towards zero; zero when there is none. -/
def truncate : Double → Int
  | .finite negative m e =>
    let whole : Nat := if 0 ≤ e then m <<< e.toNat else m >>> (-e).toNat
    if negative then -(whole : Int) else whole
  | _ => 0

/-- The nearest whole number; halves go away from zero. -/
def round : Double → Double
  | .finite negative m e =>
    if 0 ≤ e then .finite negative m e
    else
      let unit : Nat := 1 <<< (-e).toNat
      .finite negative ((2 * m + unit) / (2 * unit)) 0
  | x => x

/-- The remainder of a division whose quotient is cut towards zero; it has the sign of the
dividend and is exact. -/
def remainder : Double → Double → Double
  | .nan, _ | _, .nan | .infinite _, _ => .nan
  | .finite negative m e, .infinite _ => .finite negative m e
  | .finite negative m e, .finite _ n f =>
    if n = 0 then .nan
    else
      let least := min e f
      .finite negative ((m <<< (e - least).toNat) % (n <<< (f - least).toNat)) least

end Double

end Widgetry
