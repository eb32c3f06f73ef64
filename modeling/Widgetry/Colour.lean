import Widgetry.Text.Blank
import Widgetry.Text.Hex

/-!
Colours with eight bits for each channel, written in hexadecimal digits with the opacity first.
-/

namespace Widgetry

structure Colour where
  alpha : UInt8
  red : UInt8
  green : UInt8
  blue : UInt8
deriving DecidableEq, Repr

namespace Colour

/-- A channel of two digits. -/
def channel (high low : Nat) : UInt8 := UInt8.ofNat (16 * high + low)

/-- The colour of some digits. A single digit of a channel stands for two of the same kind, and a
colour without opacity is opaque. -/
def ofDigits? : List Nat → Option Colour
  | [r, g, b] => some ⟨255, channel r r, channel g g, channel b b⟩
  | [a, r, g, b] => some ⟨channel a a, channel r r, channel g g, channel b b⟩
  | [r, r', g, g', b, b'] => some ⟨255, channel r r', channel g g', channel b b'⟩
  | [a, a', r, r', g, g', b, b'] =>
    some ⟨channel a a', channel r r', channel g g', channel b b'⟩
  | _ => none

/-- Reads a number sign and three, four, six or eight digits, with blanks around them. -/
def ofHex? (text : String) : Option Colour :=
  match (Text.trim text).toList with
  | '#' :: digits => (digits.mapM Hex.value?).bind ofDigits?
  | _ => none

/-- The colour as one number. -/
def toNat (colour : Colour) : Nat :=
  ((colour.alpha.toNat * 256 + colour.red.toNat) * 256 + colour.green.toNat) * 256
    + colour.blue.toNat

/-- A channel as a part of one. -/
def unit (channel : UInt8) : Float := Float.ofNat channel.toNat / 255

/-- The two capital digits of a channel. -/
def channelDigits (channel : UInt8) : List Char :=
  [Hex.capital (channel.toNat / 16), Hex.capital (channel.toNat % 16)]

/-- The eight digits of a colour. -/
def digits (colour : Colour) : String :=
  String.ofList (channelDigits colour.alpha ++ channelDigits colour.red
    ++ channelDigits colour.green ++ channelDigits colour.blue)

end Colour

end Widgetry
