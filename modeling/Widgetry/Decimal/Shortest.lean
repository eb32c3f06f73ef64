import Widgetry.Decimal.Double

/-!
The shortest decimal of a double: of all decimals that round to the double, the ones with the
fewest digits, and of those the nearest one. Work is exact, on whole numbers.
-/

namespace Widgetry

/-- The number `digits * 10 ^ exponent`. -/
structure Decimal where
  digits : Nat
  exponent : Int
deriving DecidableEq, Repr

namespace Decimal

/-- Which of two equally near decimals is taken. -/
inductive Tie where
  | up
  | toEven
deriving DecidableEq, Repr

/-- The scale `10 ^ k` on one side of a comparison: it multiplies there when `k` is positive. -/
def tens (k : Int) : Nat := Nat.pow 10 k.toNat

def twos (k : Int) : Nat := 1 <<< k.toNat

/-- How `c * 10 ^ t` compares with `m * 2 ^ q`. -/
def compareBinary (c : Nat) (t : Int) (m : Nat) (q : Int) : Ordering :=
  compare (c * tens t * twos (-q)) (m * twos q * tens (-t))

/-- The whole part of `m * 2 ^ q / 10 ^ t`. -/
def quotient (m : Nat) (q t : Int) : Nat :=
  (m * twos q * tens (-t)) / (twos (-q) * tens t)

/-- The exponent of the leading decimal digit of `m * 2 ^ q`, for doubles other than zero. -/
def magnitude (m : Nat) (q : Int) : Int :=
  -- The least double is about 5e-324, so its leading digit is among the first 400 places.
  ((Nat.repr (quotient m q (-400))).length : Int) - 401

/-- The decimals that round to `m * 2 ^ q` lie between these two quarters of the last place; the
ends belong to them when `m` is even. -/
def interval (m : Nat) (q : Int) : Nat × Nat :=
  if m = Double.hiddenBit ∧ Double.leastExponent < q then (4 * m - 1, 4 * m + 2)
  else (4 * m - 2, 4 * m + 2)

/-- Whether `c * 10 ^ t` rounds to `m * 2 ^ q`. -/
def roundsTo (m : Nat) (q : Int) (c : Nat) (t : Int) : Bool :=
  let (low, high) := interval m q
  match compareBinary c t low (q - 2), compareBinary c t high (q - 2) with
  | .gt, .lt => true
  | .eq, _ | _, .eq => m % 2 = 0
  | _, _ => false

/-- Of the two neighbours of `m * 2 ^ q` with last place `10 ^ t`, the one that rounds to it; the
nearer one when both do. -/
def candidate? (tie : Tie) (m : Nat) (q t : Int) : Option Nat :=
  let below := quotient m q t
  match roundsTo m q below t, roundsTo m q (below + 1) t with
  | true, false => some below
  | false, true => some (below + 1)
  | false, false => none
  | true, true =>
    match compareBinary (2 * below + 1) t (2 * m) q with
    | .lt => some (below + 1)
    | .gt => some below
    | .eq => if tie = .toEven ∧ below % 2 = 0 then some below else some (below + 1)

/-- Tries one digit more at a time. -/
def search (tie : Tie) (m : Nat) (q : Int) : Nat → Int → Decimal
  | 0, t => ⟨quotient m q t, t⟩
  | fuel + 1, t =>
    match candidate? tie m q t with
    | some c => ⟨c, t⟩
    | none => search tie m q fuel (t - 1)

/-- Moves trailing zeros from the digits to the exponent. -/
def strip : Nat → Decimal → Decimal
  | 0, d => d
  | fuel + 1, d =>
    if d.digits % 10 = 0 ∧ d.digits ≠ 0 then strip fuel ⟨d.digits / 10, d.exponent + 1⟩ else d

/-- The shortest decimal of the positive double `m * 2 ^ q`. Seventeen digits always suffice. -/
def shortest (tie : Tie) (m : Nat) (q : Int) : Decimal :=
  if m = 0 then ⟨0, 0⟩ else strip 20 (search tie m q 17 (magnitude m q))

end Decimal

end Widgetry
