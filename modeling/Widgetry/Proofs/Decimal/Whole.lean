import Mathlib
import Widgetry.Decimal.Double
import Widgetry.Root.Decoder

/-!
Whole doubles as integers. A double that is whole and below `2 ^ 53` is the double of its integer
again; only the sign of a zero is lost on the way.
-/

namespace Widgetry.Double

open Float.Model (UnpackedFloat Format)
open Float.Model.UnpackedFloat

/-! ## Bits -/

theorem hiddenBit_eq : hiddenBit = 2 ^ 52 := rfl

theorem signBit_eq : signBit = 2 ^ 63 := rfl

theorem isWhole_finite (negative : Bool) (m : Nat) (e : Int) :
    (finite negative m e).isWhole
      = if 0 ≤ e then decide (m * 2 ^ e.toNat < 2 ^ 53) else decide (m % 2 ^ (-e).toNat = 0) := by
  simp only [isWhole, Nat.shiftLeft_eq, Nat.one_mul]
  rfl

theorem truncate_finite (negative : Bool) (m : Nat) (e : Int) :
    (finite negative m e).truncate
      = (let whole : Nat := if 0 ≤ e then m * 2 ^ e.toNat else m / 2 ^ (-e).toNat
        if negative then -(whole : Int) else whole) := by
  simp only [truncate, Nat.shiftLeft_eq, Nat.shiftRight_eq_div_pow]

theorem toNat_unpackMantissa (b : BitVec Format.binary64.numBits) :
    (unpackMantissa b).toNat = b.toNat % 2 ^ 52 := by
  simp [unpackMantissa, BitVec.extractLsb]

theorem toNat_unpackExponent (b : BitVec Format.binary64.numBits) :
    (unpackExponent b).toNat = b.toNat / 2 ^ 52 % 2048 := by
  simp [unpackExponent, BitVec.extractLsb, Nat.shiftRight_eq_div_pow]

theorem toNat_unpackSign (b : BitVec Format.binary64.numBits) :
    (unpackSign b).toNat = b.toNat / 2 ^ 63 := by
  have h : b.toNat < 2 ^ 64 := b.isLt
  simp [unpackSign, BitVec.extractLsb, Nat.shiftRight_eq_div_pow]
  omega

def isNegative : Sign → Bool
  | .negative => true
  | .positive => false

/-- The parts of a double, read from its unpacked form. -/
def ofUnpacked : UnpackedFloat → Double
  | .notANumber => .nan
  | .infinity s => .infinite (isNegative s)
  | .zero s => .finite (isNegative s) 0 leastExponent
  | .finite s m e _ => .finite (isNegative s) m e

theorem isNegative_ofBitVec (b : BitVec 1) :
    isNegative (Sign.ofBitVec b) = decide (1 ≤ b.toNat) := by
  revert b
  decide

/-- The exponent that only infinities and no numbers have. -/
theorem eq_neg_one_iff (e : BitVec 11) : e = -1#11 ↔ e.toNat = 2047 := by
  rw [← BitVec.toNat_inj]
  rfl

theorem ofFloat_eq_ofUnpacked (x : Float) : ofFloat x = ofUnpacked x.toModel.unpack := by
  let b : BitVec Format.binary64.numBits := x.toModel.toBits.toBitVec
  have hbits : x.toBits.toNat = b.toNat := rfl
  have hlt : b.toNat < 2 ^ 64 := b.isLt
  have hm := toNat_unpackMantissa b
  have he := toNat_unpackExponent b
  have hsign : decide (2 ^ 63 ≤ b.toNat) = isNegative (Sign.ofBitVec (unpackSign b)) := by
    rw [isNegative_ofBitVec, toNat_unpackSign, decide_eq_decide]
    omega
  have hzero : unpackMantissa b = 0#52 ↔ b.toNat % 2 ^ 52 = 0 := by
    rw [← BitVec.toNat_inj, hm]; rfl
  have hleast : unpackExponent b = 0#11 ↔ b.toNat / 2 ^ 52 % 2048 = 0 := by
    rw [← BitVec.toNat_inj, he]; rfl
  have hlast : unpackExponent b = -1#11 ↔ b.toNat / 2 ^ 52 % 2048 = 2047 := by
    rw [eq_neg_one_iff, he]
  have hhidden : (1#1 ++ unpackMantissa b).toNat = b.toNat % 2 ^ 52 + 2 ^ 52 := by
    rw [BitVec.toNat_append, ← Nat.shiftLeft_add_eq_or_of_lt (unpackMantissa b).isLt, hm]
    exact Nat.add_comm _ _
  show ofFloat x = ofUnpacked (unpack Format.binary64 b)
  unfold ofFloat unpack
  simp only [hbits, hiddenBit_eq, signBit_eq, hsign]
  by_cases h1 : b.toNat / 2 ^ 52 % 2048 = 2047
  · rw [if_pos h1, if_pos (hlast.2 h1)]
    by_cases h2 : b.toNat % 2 ^ 52 = 0
    · rw [if_pos h2, if_pos (hzero.2 h2)]
      rfl
    · rw [if_neg h2, if_neg (mt hzero.1 h2)]
      rfl
  · rw [if_neg h1, if_neg (mt hlast.1 h1)]
    by_cases h3 : b.toNat / 2 ^ 52 % 2048 = 0
    · rw [if_pos h3, if_pos (hleast.2 h3)]
      by_cases h2 : b.toNat % 2 ^ 52 = 0
      · rw [dif_pos (hzero.2 h2), h2]
        rfl
      · rw [dif_neg (mt hzero.1 h2)]
        simp only [ofUnpacked, hm, he, h3]
        rfl
    · rw [if_neg h3, if_neg (mt hleast.1 h3)]
      simp only [ofUnpacked, hhidden, he]
      rfl

/-- The bits of a finite double below its sign: a mantissa below the hidden bit stands for itself,
and one above it stands behind its exponent. -/
theorem bits_of_ofFloat {x : Float} {negative : Bool} {m : Nat} {e : Int}
    (h : ofFloat x = .finite negative m e) :
    (negative = true ↔ 2 ^ 63 ≤ x.toBits.toNat) ∧
      ((m < 2 ^ 52 ∧ e = -1074 ∧ x.toBits.toNat % 2 ^ 63 = m) ∨
        (2 ^ 52 ≤ m ∧ m < 2 ^ 53 ∧ -1074 ≤ e ∧ e ≤ 971 ∧
          ((x.toBits.toNat % 2 ^ 63 : Nat) : Int) = (e + 1075) * 2 ^ 52 + (m - 2 ^ 52))) := by
  have hlt := x.toBits.toNat_lt
  simp only [ofFloat] at h
  split at h
  · split at h <;> cases h
  · split at h
    · rename_i hbiased
      simp only [finite.injEq, hiddenBit_eq, leastExponent] at h hbiased
      obtain ⟨hneg, hm, he⟩ := h
      refine ⟨by rw [← hneg, decide_eq_true_iff, signBit_eq], .inl ⟨by omega, by omega, by omega⟩⟩
    · rename_i hlast hbiased
      simp only [finite.injEq, hiddenBit_eq] at h hlast hbiased
      obtain ⟨hneg, hm, he⟩ := h
      refine ⟨by rw [← hneg, decide_eq_true_iff, signBit_eq],
        .inr ⟨by omega, by omega, by omega, by omega, by omega⟩⟩

/-- A finite double is known by its parts. -/
theorem eq_of_ofFloat_eq {x y : Float} {negative : Bool} {m : Nat} {e : Int}
    (hx : ofFloat x = .finite negative m e) (hy : ofFloat y = .finite negative m e) : x = y := by
  have hbits : x.toBits.toNat = y.toBits.toNat := by
    have hxlt := x.toBits.toNat_lt
    have hylt := y.toBits.toNat_lt
    obtain ⟨hxs, hx⟩ := bits_of_ofFloat hx
    obtain ⟨hys, hy⟩ := bits_of_ofFloat hy
    have hs : 2 ^ 63 ≤ x.toBits.toNat ↔ 2 ^ 63 ≤ y.toBits.toNat := hxs.symm.trans hys
    omega
  exact Float.toBits_inj.1 (UInt64.toNat_inj.1 hbits)

/-! ## Rounding -/

/-- Zeros that are shifted out leave no trace. -/
theorem repeat_shiftRightOne (m k : Nat) :
    k.repeat ExtendedMantissa.shiftRightOne ⟨m * 2 ^ k, false, false⟩ = ⟨m, false, false⟩ := by
  induction k generalizing m with
  | zero => simp [Nat.repeat]
  | succ k ih =>
    have h : m * 2 ^ (k + 1) = m * 2 * 2 ^ k := by rw [Nat.pow_succ', Nat.mul_assoc]
    rw [Nat.repeat, h, ih]
    simp [ExtendedMantissa.shiftRightOne]

theorem log2_mul_two_pow {m k : Nat} (lo : 2 ^ 52 ≤ m) (hi : m < 2 ^ 53) :
    (m * 2 ^ k).log2 = 52 + k := by
  have hpow : 0 < 2 ^ k := Nat.two_pow_pos k
  have hne : m * 2 ^ k ≠ 0 := Nat.mul_ne_zero (by omega) (by omega)
  refine (Nat.log2_eq_iff hne).2 ⟨?_, ?_⟩
  · rw [Nat.pow_add]
    exact Nat.mul_le_mul_right _ lo
  · rw [show 52 + k + 1 = 53 + k by omega, Nat.pow_add]
    exact Nat.mul_lt_mul_of_pos_right hi hpow

/-- A mantissa of the right size stays as it is, however many zeros stand behind it. -/
theorem roundWithAccuracy_exact {m : Nat} {e : Int} (s : Sign) (k : Nat) (lo : 2 ^ 52 ≤ m)
    (hi : m < 2 ^ 53) (he : -1074 ≤ e) :
    roundWithAccuracy Format.binary64 s (m * 2 ^ k) (e - k) .exact
      = .finite s m e (Nat.lt_of_lt_of_le (Nat.two_pow_pos 52) lo) := by
  have target (j : Nat) : Format.binary64.targetExponent
      (Float.Model.totalExponent (m * 2 ^ j) (e - j)) = e := by
    simp only [Format.targetExponent, Float.Model.totalExponent, log2_mul_two_pow lo hi,
      Format.minExponent, Format.mantissaBits]
    omega
  have shift (j : Nat) : shiftToTargetExponent Format.binary64 (m * 2 ^ j) (e - j) .exact
      = (⟨m, false, false⟩, e) := by
    simp only [shiftToTargetExponent, shiftToExponent, target,
      ExtendedMantissa.ofMantissaAndAccuracy]
    rw [show (e - (e - (j : Int))).toNat = j by omega]
    refine Prod.ext (repeat_shiftRightOne m j) ?_
    simp
  have again := shift 0
  simp only [Nat.pow_zero, Nat.mul_one, Int.natCast_zero, Int.sub_zero] at again
  simp only [roundWithAccuracy, shift, ExtendedMantissa.roundedMantissa, ExtendedMantissa.accuracy,
    Accuracy.roundToNearestEven, again]
  rw [dif_neg (by omega)]

/-! ## Packing -/

theorem toNat_packComponents (s : Sign) (e : BitVec 11) (m : BitVec 52) :
    (packComponents Format.binary64 s e m).toNat
      = s.toBitVec.toNat * 2 ^ 63 + e.toNat * 2 ^ 52 + m.toNat := by
  show (s.toBitVec ++ e ++ m).toNat = _
  rw [BitVec.toNat_append, ← Nat.shiftLeft_add_eq_or_of_lt m.isLt, BitVec.toNat_append,
    ← Nat.shiftLeft_add_eq_or_of_lt e.isLt, Nat.shiftLeft_eq, Nat.shiftLeft_eq]
  omega

theorem ofBitVec_unpackSign_packComponents (s : Sign) (e : BitVec 11) (m : BitVec 52) :
    Sign.ofBitVec (unpackSign (packComponents Format.binary64 s e m)) = s := by
  have h : unpackSign (packComponents Format.binary64 s e m) = s.toBitVec := by
    have he := e.isLt
    have hm := m.isLt
    rw [← BitVec.toNat_inj, toNat_unpackSign, toNat_packComponents]
    omega
  rw [h]
  cases s <;> rfl

/-- A finite form in which a double can be unpacked, its mantissa being at least the hidden bit. -/
def IsNormal (m : Nat) (e : Int) : Prop :=
  2 ^ 52 ≤ m ∧ m < 2 ^ 53 ∧ -1074 ≤ e ∧ e ≤ 971

theorem unpack_pack_of_isNormal {m : Nat} {e : Int} (s : Sign) (pos : 0 < m) (h : IsNormal m e) :
    (Float.Model.pack (.finite s m e pos)).unpack = .finite s m e pos := by
  obtain ⟨lo, hi, hlo, hhi⟩ := h
  have hlog : m.log2 = 52 := by simpa using log2_mul_two_pow (k := 0) lo hi
  have hbiased : (e + Format.binary64.exponentBias
      + Format.binary64.mantissaBitsWithoutImplicit).toNat = (e + 1075).toNat := by
    show (e + (1023 : Nat) + (52 : Nat)).toNat = _
    omega
  show unpack Format.binary64 (pack Format.binary64 (.finite s m e pos)) = _
  have hpack : pack Format.binary64 (.finite s m e pos)
      = packComponents Format.binary64 s (BitVec.ofNat 11 (e + 1075).toNat) (BitVec.ofNat 52 m) := by
    simp only [pack, hlog, hbiased]
    rw [if_neg (by omega), if_pos (by rfl)]
  have hexp : (BitVec.ofNat 11 (e + 1075).toNat).toNat = (e + 1075).toNat := by
    rw [BitVec.toNat_ofNat, Nat.mod_eq_of_lt (by omega)]
  have hlast : BitVec.ofNat 11 (e + 1075).toNat ≠ -1#11 := by
    rw [Ne, eq_neg_one_iff, hexp]
    omega
  have hleast : BitVec.ofNat 11 (e + 1075).toNat ≠ 0#11 := by
    rw [Ne, ← BitVec.toNat_inj, hexp]
    show ¬ (e + 1075).toNat = 0
    omega
  have hhidden : (1#1 ++ BitVec.ofNat 52 m).toNat = m := by
    rw [BitVec.toNat_append, ← Nat.shiftLeft_add_eq_or_of_lt (BitVec.ofNat 52 m).isLt,
      BitVec.toNat_ofNat]
    show 2 ^ 52 + m % 2 ^ 52 = m
    omega
  rw [hpack]
  simp only [unpack, unpackMantissa_packComponents, unpackExponent_packComponents,
    ofBitVec_unpackSign_packComponents]
  rw [if_neg hlast, if_neg hleast]
  simp only [hhidden, hexp]
  have hexponent : (((e + 1075).toNat : Nat) : Int) - ((1023 : Nat) + (52 : Nat)) = e := by omega
  exact congrArg (fun e => UnpackedFloat.finite s m e pos) hexponent

/-! ## Whole numbers -/

/-- The mantissa of the double of a whole number: the number moved up to the hidden bit. -/
theorem isNormal_of_lt {n : Nat} (pos : 0 < n) (h : n < 2 ^ 53) :
    IsNormal (n * 2 ^ (52 - n.log2)) (n.log2 - 52) := by
  have hne : n ≠ 0 := by omega
  have hlog : n.log2 ≤ 52 := Nat.le_of_lt_succ ((Nat.log2_lt hne).2 h)
  have hlo := Nat.log2_self_le hne
  have hhi : n < 2 ^ (n.log2 + 1) := Nat.lt_log2_self
  have hsplit : 2 ^ n.log2 * 2 ^ (52 - n.log2) = 2 ^ 52 := by
    rw [← Nat.pow_add, Nat.add_sub_cancel' hlog]
  have hsplit' : 2 ^ (n.log2 + 1) * 2 ^ (52 - n.log2) = 2 ^ 53 := by
    rw [← Nat.pow_add]
    congr 1
    omega
  refine ⟨?_, ?_, by omega, by omega⟩
  · rw [← hsplit]
    exact Nat.mul_le_mul_right _ hlo
  · rw [← hsplit']
    exact Nat.mul_lt_mul_of_pos_right hhi (Nat.two_pow_pos _)

theorem ofNat_binary64 {n : Nat} (pos : 0 < n) (h : n < 2 ^ 53) :
    UnpackedFloat.ofNat Format.binary64 n
      = .finite .positive (n * 2 ^ (52 - n.log2)) (n.log2 - 52)
        (Nat.mul_pos pos (Nat.two_pow_pos _)) := by
  obtain ⟨lo, hi, he, -⟩ := isNormal_of_lt pos h
  have hlog : n.log2 ≤ 52 := Nat.le_of_lt_succ ((Nat.log2_lt (by omega)).2 h)
  have hcompare : compare (n : Int) 0 = .gt := by
    show compareOfLessAndEq (n : Int) 0 = .gt
    unfold compareOfLessAndEq
    rw [if_neg (by omega), if_neg (by omega)]
  have htarget : Format.binary64.targetExponent (Float.Model.totalExponent n 0)
      = (n.log2 : Int) - 52 := by
    simp only [Format.targetExponent, Float.Model.totalExponent, Format.minExponent,
      Format.mantissaBits]
    omega
  have hround := roundWithAccuracy_exact .positive 0 lo hi he
  simp only [Nat.pow_zero, Nat.mul_one, Int.natCast_zero, Int.sub_zero] at hround
  simp only [UnpackedFloat.ofNat, UnpackedFloat.ofInt, UnpackedFloat.normalize, hcompare,
    Int.toNat_natCast, UnpackedFloat.round, htarget, decreaseExponent, Nat.shiftLeft_eq]
  rw [show (0 - ((n.log2 : Int) - 52)).toNat = 52 - n.log2 by omega,
    show (0 : Int) - ((52 - n.log2 : Nat) : Int) = (n.log2 : Int) - 52 by omega]
  exact hround

/-- The double of a whole number, which is computed as a product with one. -/
theorem unpack_ofScientific {n : Nat} (pos : 0 < n) (h : n < 2 ^ 53) :
    (Float.ofScientific n false 0).toModel.unpack
      = .finite .positive (n * 2 ^ (52 - n.log2)) (n.log2 - 52)
        (Nat.mul_pos pos (Nat.two_pow_pos _)) := by
  have hnormal := isNormal_of_lt pos h
  have ⟨lo, hi, he, _⟩ := hnormal
  have hone : (Float.ofBits 0x3FF0000000000000).toModel.unpack
      = .finite .positive (2 ^ 52) (-52) (Nat.two_pow_pos _) := rfl
  have hn : n.toUInt64.toNat = n := by
    rw [Nat.toUInt64_eq, UInt64.toNat_ofNat', Nat.mod_eq_of_lt (by omega)]
  have hleft : n.toUInt64.toFloat.toModel.unpack
      = .finite .positive (n * 2 ^ (52 - n.log2)) (n.log2 - 52)
        (Nat.mul_pos pos (Nat.two_pow_pos _)) := by
    show (Float.Model.pack (UnpackedFloat.ofNat Format.binary64 n.toUInt64.toNat)).unpack = _
    rw [hn, ofNat_binary64 pos h]
    exact unpack_pack_of_isNormal _ _ hnormal
  have hvalue : Float.ofScientific n false 0
      = n.toUInt64.toFloat * Float.ofBits 0x3FF0000000000000 := by
    unfold Float.ofScientific
    rw [dif_pos ⟨h, by omega⟩]
    rfl
  rw [hvalue]
  show (Float.Model.pack (UnpackedFloat.mul Format.binary64 n.toUInt64.toFloat.toModel.unpack
    (Float.ofBits 0x3FF0000000000000).toModel.unpack)).unpack = _
  rw [hleft, hone, UnpackedFloat.mul]
  have hround := roundWithAccuracy_exact .positive 52 lo hi he
  rw [show ((n.log2 : Int) - 52) + -52 = ((n.log2 : Int) - 52) - (52 : Nat) by omega]
  show (Float.Model.pack (roundWithAccuracy Format.binary64 .positive _ _ _)).unpack = _
  rw [hround]
  exact unpack_pack_of_isNormal _ _ hnormal

/-- The double of an integer, by the parts of its magnitude. -/
theorem ofFloat_ofInteger {n : Nat} (negative : Bool) (pos : 0 < n) (h : n < 2 ^ 53) :
    ofFloat (Decoder.ofInteger (if negative then -(n : Int) else n))
      = .finite negative (n * 2 ^ (52 - n.log2)) (n.log2 - 52) := by
  have hunpack := unpack_ofScientific pos h
  rw [ofFloat_eq_ofUnpacked]
  cases negative with
  | false =>
    simp only [Decoder.ofInteger, Bool.false_eq_true, if_false]
    rw [if_neg (by omega), Int.natAbs_natCast, hunpack]
    rfl
  | true =>
    simp only [Decoder.ofInteger, if_true]
    rw [if_pos (by omega), Int.natAbs_neg, Int.natAbs_natCast]
    show ofUnpacked (Float.Model.pack
      (UnpackedFloat.neg (Float.ofScientific n false 0).toModel.unpack)).unpack = _
    rw [hunpack]
    show ofUnpacked (Float.Model.pack (.finite .negative _ _ _)).unpack = _
    rw [unpack_pack_of_isNormal _ _ (isNormal_of_lt pos h)]
    rfl

theorem isFinite_iff_ofFloat (x : Float) :
    x.isFinite = true ↔ ∃ negative m e, ofFloat x = .finite negative m e := by
  rw [ofFloat_eq_ofUnpacked]
  show x.toModel.unpack.isFinite = true ↔ _
  cases x.toModel.unpack with
  | notANumber => simp [ofUnpacked, UnpackedFloat.isFinite]
  | infinity s => simp [ofUnpacked, UnpackedFloat.isFinite]
  | zero s => simp [ofUnpacked, UnpackedFloat.isFinite]
  | finite s m e pos => simp [ofUnpacked, UnpackedFloat.isFinite]

/-! ## Zeros -/

theorem beq_zero_iff (x : Float) : (x == 0) = true ↔ ∃ s, x.toModel.unpack = .zero s := by
  have hzero : (0 : Float).toModel.unpack = .zero .positive := rfl
  show (x.toModel.unpack.compare (0 : Float).toModel.unpack == some .eq) = true ↔ _
  rw [hzero]
  cases x.toModel.unpack with
  | notANumber => simp [UnpackedFloat.compare]
  | infinity s => cases s <;> simp [UnpackedFloat.compare]
  | zero s => simp [UnpackedFloat.compare]
  | finite s m e pos => cases s <;> simp [UnpackedFloat.compare]

theorem beq_zero_iff_ofFloat (x : Float) :
    (x == 0) = true ↔ ∃ negative, ofFloat x = .finite negative 0 leastExponent := by
  rw [beq_zero_iff, ofFloat_eq_ofUnpacked]
  cases x.toModel.unpack with
  | notANumber => simp [ofUnpacked]
  | infinity s => simp [ofUnpacked]
  | zero s => simp [ofUnpacked]
  | finite s m e pos => simp [ofUnpacked]; omega

theorem unpack_unsigned (x : Float) :
    (unsigned x).toModel.unpack = x.toModel.unpack ∨
      ∃ s, x.toModel.unpack = .zero s ∧ (unsigned x).toModel.unpack = .zero .positive := by
  unfold unsigned
  split
  · rename_i h
    obtain ⟨s, hs⟩ := (beq_zero_iff x).1 h
    exact .inr ⟨s, hs, rfl⟩
  · exact .inl rfl

@[simp] theorem unsigned_unsigned (x : Float) : unsigned (unsigned x) = unsigned x := by
  by_cases h : (x == 0) = true
  · have hzero : unsigned x = 0 := if_pos h
    rw [hzero]
    exact if_pos ((beq_zero_iff 0).2 ⟨_, rfl⟩)
  · rw [show unsigned x = x from if_neg h]
    exact if_neg h

theorem isFinite_unsigned (x : Float) : (unsigned x).isFinite = x.isFinite := by
  show (unsigned x).toModel.unpack.isFinite = x.toModel.unpack.isFinite
  rcases unpack_unsigned x with h | ⟨s, hs, h⟩
  · rw [h]
  · rw [h, hs]
    rfl

theorem le_iff_unpack (x y : Float) :
    x ≤ y ↔ (x.toModel.unpack.compare y.toModel.unpack).any (·.isLE) = true :=
  decide_eq_true_iff

theorem compare_zero_left (s t : Sign) (y : UnpackedFloat) :
    UnpackedFloat.compare (.zero s) y = UnpackedFloat.compare (.zero t) y := by
  cases y with
  | notANumber => rfl
  | infinity sign => cases sign <;> rfl
  | zero sign => rfl
  | finite sign m e pos => cases sign <;> rfl

theorem compare_zero_right (s t : Sign) (x : UnpackedFloat) :
    UnpackedFloat.compare x (.zero s) = UnpackedFloat.compare x (.zero t) := by
  cases x with
  | notANumber => rfl
  | infinity sign => cases sign <;> rfl
  | zero sign => rfl
  | finite sign m e pos => cases sign <;> rfl

theorem unsigned_le_iff (x y : Float) : unsigned x ≤ y ↔ x ≤ y := by
  rw [le_iff_unpack, le_iff_unpack]
  rcases unpack_unsigned x with h | ⟨s, hs, h⟩
  · rw [h]
  · rw [h, hs, compare_zero_left .positive s]

theorem le_unsigned_iff (x y : Float) : y ≤ unsigned x ↔ y ≤ x := by
  rw [le_iff_unpack, le_iff_unpack]
  rcases unpack_unsigned x with h | ⟨s, hs, h⟩
  · rw [h]
  · rw [h, hs, compare_zero_right .positive s]

theorem unsigned_of_not_isWhole {x : Float} (h : ¬ (ofFloat x).isWhole = true) :
    unsigned x = x := by
  rw [unsigned, if_neg]
  rw [beq_zero_iff_ofFloat]
  rintro ⟨negative, hzero⟩
  refine h ?_
  rw [hzero, isWhole, if_neg (by decide), Nat.zero_mod]
  rfl

/-- The parts of the double of a whole number can be read off any double with that value. -/
theorem parts_of_isWhole {m : Nat} {e : Int} (h : IsNormal m e)
    (whole : isWhole (.finite false m e) = true) :
    ∃ n, 0 < n ∧ n < 2 ^ 53 ∧ n * 2 ^ (52 - n.log2) = m ∧ (n.log2 : Int) - 52 = e ∧
      (if 0 ≤ e then m * 2 ^ e.toNat else m / 2 ^ (-e).toNat) = n := by
  obtain ⟨lo, hi, hlo, hhi⟩ := h
  rw [isWhole_finite] at whole
  split at whole
  · rename_i he
    -- The mantissa of a normal double has 53 digits already, which leaves no room for an exponent.
    have hbound : m * 2 ^ e.toNat < 2 ^ 53 := of_decide_eq_true whole
    have he0 : e.toNat = 0 := by
      rcases Nat.eq_zero_or_pos e.toNat with h | h
      · exact h
      · have := Nat.mul_le_mul lo (Nat.pow_le_pow_right (n := 2) (by omega) h)
        omega
    have hlog : m.log2 = 52 := by simpa using log2_mul_two_pow (k := 0) lo hi
    refine ⟨m, by omega, hi, ?_, ?_, ?_⟩
    · simp [hlog]
    · omega
    · rw [if_pos he, he0]
      simp
  · rename_i he
    have hmod : m % 2 ^ (-e).toNat = 0 := of_decide_eq_true whole
    -- The mantissa is the whole number with one zero for each binary place behind it.
    generalize hk : (-e).toNat = k at hmod
    have hpow : 0 < 2 ^ k := Nat.two_pow_pos k
    obtain ⟨n, hn⟩ := Nat.dvd_of_mod_eq_zero hmod
    have hpos : 0 < n := by
      rcases Nat.eq_zero_or_pos n with rfl | h
      · omega
      · exact h
    have hle : 2 ^ k ≤ m := by
      rw [hn]
      exact Nat.le_mul_of_pos_right _ hpos
    have hk52 : k ≤ 52 := by
      rcases Nat.lt_or_ge 52 k with h | h
      · have := Nat.pow_le_pow_right (n := 2) (by omega) h
        omega
      · exact h
    have hlog : n.log2 = 52 - k := by
      refine (Nat.log2_eq_iff (by omega)).2 ⟨?_, ?_⟩
      · refine Nat.le_of_mul_le_mul_right ?_ hpow
        rw [← Nat.pow_add, Nat.sub_add_cancel hk52, Nat.mul_comm, ← hn]
        exact lo
      · refine Nat.lt_of_mul_lt_mul_right (a := 2 ^ k) ?_
        rw [← Nat.pow_add, show 52 - k + 1 + k = 53 by omega, Nat.mul_comm, ← hn]
        exact hi
    have hnm : n ≤ m := by
      rw [hn]
      exact Nat.le_mul_of_pos_left _ hpow
    refine ⟨n, hpos, by omega, ?_, by omega, ?_⟩
    · rw [hlog, show 52 - (52 - k) = k by omega, Nat.mul_comm, ← hn]
    · rw [if_neg he, hn, Nat.mul_div_cancel_left _ hpow]

/-- A whole double is the double of its integer, except that a zero has no sign. -/
theorem ofInteger_truncate {x : Float} (whole : (ofFloat x).isWhole = true) :
    Decoder.ofInteger (ofFloat x).truncate = unsigned x := by
  cases hx : ofFloat x with
  | nan => simp [hx, isWhole] at whole
  | infinite negative => simp [hx, isWhole] at whole
  | finite negative m e =>
    rw [hx] at whole
    obtain ⟨-, ⟨hm, he, -⟩ | ⟨lo, hi, hlo, hhi, -⟩⟩ := bits_of_ofFloat hx
    · subst he
      have hm0 : m = 0 := by
        have hpow : 2 ^ 52 ≤ 2 ^ (-(-1074 : Int)).toNat :=
          Nat.pow_le_pow_right (by omega) (by decide)
        rw [isWhole_finite, if_neg (by decide)] at whole
        rwa [Nat.mod_eq_of_lt (Nat.lt_of_lt_of_le hm hpow), decide_eq_true_iff] at whole
      subst hm0
      have hzero : (x == 0) = true := (beq_zero_iff_ofFloat x).2 ⟨negative, hx⟩
      have htruncate : truncate (.finite negative 0 (-1074)) = 0 := by
        simp only [truncate_finite]
        rw [if_neg (show ¬ (0 : Int) ≤ -1074 by decide), Nat.zero_div]
        cases negative <;> rfl
      rw [unsigned, if_pos hzero, htruncate]
      rfl
    · have hnonzero : ¬ (x == 0) = true := by
        rw [beq_zero_iff_ofFloat, hx]
        rintro ⟨_, h⟩
        simp only [finite.injEq] at h
        omega
      obtain ⟨n, hpos, hlt, hm, he, hn⟩ := parts_of_isWhole ⟨lo, hi, hlo, hhi⟩ whole
      have hvalue := ofFloat_ofInteger negative hpos hlt
      rw [hm, he] at hvalue
      rw [unsigned, if_neg hnonzero, truncate_finite, hn]
      exact eq_of_ofFloat_eq hvalue hx

theorem natAbs_truncate_lt {x : Float} (whole : (ofFloat x).isWhole = true) :
    (ofFloat x).truncate.natAbs < 2 ^ 53 := by
  cases hx : ofFloat x with
  | nan => simp [hx, isWhole] at whole
  | infinite negative => simp [hx, isWhole] at whole
  | finite negative m e =>
    rw [hx] at whole
    have hm : m < 2 ^ 53 := by
      obtain ⟨-, ⟨hm, -⟩ | ⟨-, hi, -⟩⟩ := bits_of_ofFloat hx
      · exact Nat.lt_trans hm (by decide)
      · exact hi
    have hwhole : (if 0 ≤ e then m * 2 ^ e.toNat else m / 2 ^ (-e).toNat) < 2 ^ 53 := by
      split
      · rename_i he
        rw [isWhole_finite, if_pos he] at whole
        exact of_decide_eq_true whole
      · exact Nat.lt_of_le_of_lt (Nat.div_le_self _ _) hm
    simp only [truncate_finite]
    split <;> omega

end Widgetry.Double
