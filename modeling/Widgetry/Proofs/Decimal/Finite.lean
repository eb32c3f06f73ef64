import Widgetry.Proofs.Decimal.Whole
import Widgetry.Proofs.Json.Numbers

/-!
Finite doubles stay finite when they are rounded, and they are printed with digits, signs and points
alone.
-/

namespace Widgetry.Double

open Float.Model (Format)
open Float.Model.UnpackedFloat (unpackExponent pack unpack pack_unpack_of_valid)

/-! ## Rounding -/

/-- Bits that do not stand for an infinity or for no number are those of their double. -/
theorem toBits_ofBits {bits : UInt64} (h : bits.toNat / 2 ^ 52 % 2048 ≠ 2047) :
    (Float.ofBits bits).toBits = bits := by
  have hexponent : @unpackExponent Format.binary64 bits.toBitVec ≠ -1#11 := by
    rw [Ne, eq_neg_one_iff, toNat_unpackExponent]
    exact h
  have hvalid : Format.binary64.Valid bits.toBitVec := ⟨fun hlast _ => absurd hlast hexponent⟩
  show UInt64.ofBitVec (pack Format.binary64 (unpack Format.binary64 bits.toBitVec)) = bits
  rw [pack_unpack_of_valid hvalid]

theorem isFinite_ofBits {bits : UInt64} (h : bits.toNat / 2 ^ 52 % 2048 ≠ 2047) :
    (Float.ofBits bits).isFinite = true := by
  rw [isFinite_iff_ofFloat]
  simp only [ofFloat, toBits_ofBits h, hiddenBit_eq, if_neg h]
  split_ifs <;> exact ⟨_, _, _, rfl⟩

theorem isFinite_of_parts {sign biased fraction : Nat} (hsign : sign = 0 ∨ sign = 2 ^ 63)
    (hbiased : biased < 2047) (hfraction : fraction < 2 ^ 52) :
    (Float.ofBits (UInt64.ofNat (sign + biased * 2 ^ 52 + fraction))).isFinite = true := by
  have hlt : sign + biased * 2 ^ 52 + fraction < 2 ^ 64 := by omega
  refine isFinite_ofBits ?_
  rw [UInt64.toNat_ofNat', Nat.mod_eq_of_lt hlt]
  omega

/-- A mantissa that is small enough is never halved, so its exponent does not grow. -/
theorem normalize_of_lt {m : Nat} {e : Int} (fuel : Nat) (h : m < 2 ^ 53) :
    (Double.normalize fuel m e).1 < 2 ^ 53 ∧ (Double.normalize fuel m e).2 ≤ e := by
  induction fuel generalizing m e with
  | zero => exact ⟨h, le_refl e⟩
  | succ fuel ih =>
    have hbound : ¬ 2 * hiddenBit ≤ m := by
      rw [hiddenBit_eq]
      omega
    rw [Double.normalize, if_neg hbound]
    split_ifs with hsmall
    · rw [hiddenBit_eq] at hsmall
      obtain ⟨hm, he⟩ := @ih (2 * m) (e - 1) (by omega)
      exact ⟨hm, by omega⟩
    · exact ⟨h, le_refl e⟩

theorem isFinite_toFloat (negative : Bool) {m : Nat} {e : Int} (hm : m < 2 ^ 53) (he : e ≤ 971) :
    (finite negative m e).toFloat.isFinite = true := by
  have hsign : (if negative then signBit else 0) = 0 ∨
      (if negative then signBit else 0) = 2 ^ 63 := by
    cases negative <;> simp [signBit_eq]
  obtain ⟨-, hle⟩ := @normalize_of_lt m e 4500 hm
  unfold toFloat
  dsimp only
  generalize (if negative then signBit else 0) = sign at hsign ⊢
  generalize Double.normalize 4500 m e = parts at hle ⊢
  by_cases hzero : m = 0
  · rw [if_pos hzero]
    exact @isFinite_of_parts sign 0 0 hsign (by decide) (by decide)
  · rw [if_neg hzero]
    have hbiased : (if parts.1 < hiddenBit then 0 else (parts.2 + 1075).toNat) < 2047 := by
      split_ifs <;> omega
    exact isFinite_of_parts hsign hbiased (Nat.mod_lt _ (Nat.two_pow_pos 52))

theorem isFinite_round {x : Float} (h : x.isFinite = true) :
    (ofFloat x).round.toFloat.isFinite = true := by
  obtain ⟨negative, m, e, hx⟩ := (isFinite_iff_ofFloat x).1 h
  obtain ⟨-, hbits⟩ := bits_of_ofFloat hx
  have hm : m < 2 ^ 53 := by omega
  have he : e ≤ 971 := by omega
  rw [hx, Double.round]
  split_ifs
  · exact isFinite_toFloat negative hm he
  · refine isFinite_toFloat negative ?_ (by decide)
    rw [Nat.shiftLeft_eq, Nat.one_mul]
    have hunit : 2 ≤ 2 ^ (-e).toNat := Nat.le_self_pow (by omega) 2
    generalize 2 ^ (-e).toNat = unit at hunit
    refine Nat.div_lt_of_lt_mul ?_
    nlinarith

/-! ## Printing -/

theorem isNumeric_of_mem_sign {negative : Bool} {c : Char}
    (h : c ∈ (if negative then "-" else "").toList) : Json.isNumeric c = true := by
  cases negative with
  | false => cases h
  | true =>
    obtain rfl : c = '-' := by simpa using h
    decide

theorem isNumeric_of_mem_toString {n : Int} {c : Char} (h : c ∈ (toString n).toList) :
    Json.isNumeric c = true := by
  cases n with
  | ofNat n => exact Json.isNumeric_of_mem_repr h
  | negSucc n =>
    have hparts : c ∈ "-".toList ∨ c ∈ (Nat.repr (n + 1)).toList := by
      rw [← List.mem_append, ← String.toList_append]
      exact h
    rcases hparts with hsign | hdigits
    · exact @isNumeric_of_mem_sign true c hsign
    · exact Json.isNumeric_of_mem_repr hdigits

theorem isNumeric_of_mem_display {x : Float} (hx : x.isFinite = true) {c : Char}
    (h : c ∈ (display x).toList) : Json.isNumeric c = true := by
  obtain ⟨negative, m, e, hparts⟩ := (isFinite_iff_ofFloat x).1 hx
  rw [display, hparts, String.toList_append, List.mem_append] at h
  rcases h with hsign | hdigits
  · exact isNumeric_of_mem_sign hsign
  · exact (Json.numeral_positional _).2 c hdigits

/-- A finite number is written without any letters. -/
theorem isNumeric_of_mem_numeral {x : Float} (hx : x.isFinite = true) {c : Char}
    (h : c ∈ (numeral x).toList) : Json.isNumeric c = true := by
  obtain ⟨negative, m, e, hparts⟩ := (isFinite_iff_ofFloat x).1 hx
  rw [numeral, hparts] at h
  dsimp only at h
  split at h
  · exact isNumeric_of_mem_toString h
  · exact isNumeric_of_mem_display hx h

theorem isNumeric_of_mem_fixed (places : Nat) {x : Float} (hx : x.isFinite = true) {c : Char}
    (h : c ∈ (fixed places x).toList) : Json.isNumeric c = true := by
  obtain ⟨negative, m, e, hparts⟩ := (isFinite_iff_ofFloat x).1 hx
  simp only [fixed, hparts] at h
  generalize Decimal.roundHalfEven _ _ = scaled at h
  have hpadded : ∀ c ∈ (Decimal.zeros (places + 1 - (Nat.repr scaled).length)
      ++ Nat.repr scaled).toList, Json.isNumeric c = true := by
    rw [String.toList_append, List.forall_mem_append]
    exact ⟨fun _ => Json.isNumeric_of_mem_zeros, fun _ => Json.isNumeric_of_mem_repr⟩
  rw [String.toList_append, List.mem_append, String.toList_append, List.mem_append,
    String.toList_ofList] at h
  rcases h with (hsign | hwhole) | hplaces
  · exact isNumeric_of_mem_sign hsign
  · exact hpadded c (List.mem_of_mem_take hwhole)
  · split at hplaces
    · cases hplaces
    · rw [String.toList_append, List.mem_append] at hplaces
      rcases hplaces with hpoint | hdigits
      · obtain rfl : c = '.' := by simpa using hpoint
        decide
      · rw [String.toList_ofList] at hdigits
        exact hpadded c (List.mem_of_mem_drop hdigits)

end Widgetry.Double
