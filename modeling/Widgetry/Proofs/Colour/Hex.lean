import Mathlib.Algebra.Order.Group.Nat
import Mathlib.Algebra.Ring.Nat
import Widgetry.Android.Modifier
import Widgetry.Proofs.Text.Trimming

/-!
Colours in hexadecimal digits. Main statement: a text is read as a colour exactly when it is a number
sign with three, four, six or eight digits between blanks, capital and small letters mean the same, the
four forms of an opaque colour agree, and the digits that are printed for a colour are read back as it.
-/

namespace Widgetry

namespace Colour

/-- What is checked one character after the other. -/
theorem forall_of_all {p : Char → Prop} [DecidablePred p] {chars : List Char}
    (h : chars.all (fun c => decide (p c)) = true) : ∀ c ∈ chars, p c :=
  fun c hc => of_decide_eq_true (List.all_eq_true.1 h c hc)

/-! ## Digits -/

/-- The digits of hexadecimal numbers, capital or small. -/
def IsDigit (c : Char) : Prop := c ∈ "0123456789abcdefABCDEF".toList

instance (c : Char) : Decidable (IsDigit c) := inferInstanceAs (Decidable (c ∈ _))

def digitValue (c : Char) : Nat := "0123456789abcdef".toList.idxOf c.toLower

theorem value?_of_isDigit {c : Char} (h : IsDigit c) : Hex.value? c = some (digitValue c) :=
  forall_of_all (p := fun c => Hex.value? c = some (digitValue c)) (by decide) c h

theorem isBlank_of_isDigit {c : Char} (h : IsDigit c) : Text.isBlank c = false :=
  forall_of_all (p := fun c => Text.isBlank c = false) (by decide) c h

theorem isDigit_of_value? {c : Char} {n : Nat} (h : Hex.value? c = some n) : IsDigit c := by
  have hranges : ∀ n < 103, 48 ≤ n ∧ n ≤ 57 ∨ 97 ≤ n ∧ n ≤ 102 ∨ 65 ≤ n ∧ n ≤ 70 →
      IsDigit (Char.ofNat n) := by decide
  have hrange : 48 ≤ c.toNat ∧ c.toNat ≤ 57 ∨ 97 ≤ c.toNat ∧ c.toNat ≤ 102 ∨
      65 ≤ c.toNat ∧ c.toNat ≤ 70 := by
    rw [Hex.value?] at h
    split_ifs at h with hdigit hsmall hcapital
    · exact .inl (by simpa [Char.isDigit, UInt32.le_iff_toNat_le] using hdigit)
    · exact .inr (.inl hsmall)
    · exact .inr (.inr hcapital)
  rw [← Char.ofNat_toNat c]
  exact hranges c.toNat (by omega) hrange

theorem mapM_value?_of_isDigit {cs : List Char} (h : ∀ c ∈ cs, IsDigit c) :
    cs.mapM Hex.value? = some (cs.map digitValue) := by
  induction cs with
  | nil => rfl
  | cons c rest ih =>
    obtain ⟨hc, hrest⟩ := List.forall_mem_cons.1 h
    simp [value?_of_isDigit hc, ih hrest]

theorem isDigit_of_mapM_value? {cs : List Char} {ns : List Nat} (h : cs.mapM Hex.value? = some ns) :
    ∀ c ∈ cs, IsDigit c := by
  induction cs generalizing ns with
  | nil => exact List.forall_mem_nil _
  | cons c rest ih =>
    rw [List.mapM_cons] at h
    obtain ⟨n, hn, hbind⟩ := Option.bind_eq_some_iff.1 h
    obtain ⟨others, hothers, -⟩ := Option.bind_eq_some_iff.1 hbind
    exact List.forall_mem_cons.2 ⟨isDigit_of_value? hn, ih hothers⟩

theorem isSome_ofDigits?_iff (ns : List Nat) :
    (ofDigits? ns).isSome = true ↔ ns.length ∈ [3, 4, 6, 8] := by
  rcases ns with _ | ⟨_, _ | ⟨_, _ | ⟨_, _ | ⟨_, _ | ⟨_, _ | ⟨_, _ | ⟨_, _ | ⟨_, _ | _⟩⟩⟩⟩⟩⟩⟩⟩ <;>
    simp [ofDigits?]

/-! ## Reading -/

/-- A number sign and digits, with blanks around them. -/
structure Written (text : String) (digits : List Char) : Prop where
  between : ∃ before after : List Char, text.toList = before ++ '#' :: digits ++ after ∧
    ∀ c ∈ before ++ after, Text.isBlank c = true
  isDigit : ∀ c ∈ digits, IsDigit c

theorem ofHex?_of_trim {text : String} {digits : List Char}
    (h : (Text.trim text).toList = '#' :: digits) :
    ofHex? text = (digits.mapM Hex.value?).bind ofDigits? := by
  rw [ofHex?, h]
  rfl

theorem ofHex?_of_not_sign {text : String}
    (h : ∀ digits, (Text.trim text).toList ≠ '#' :: digits) : ofHex? text = none := by
  rw [ofHex?]
  split
  · next digits hdigits => exact absurd hdigits (h digits)
  · rfl

theorem Written.ofHex?_eq {text : String} {digits : List Char} (written : Written text digits) :
    ofHex? text = ofDigits? (digits.map digitValue) := by
  obtain ⟨before, after, htext, hblank⟩ := written.between
  have hcore : ∀ c ∈ '#' :: digits, Text.isBlank c = false :=
    List.forall_mem_cons.2 ⟨by decide, fun c hc => isBlank_of_isDigit (written.isDigit c hc)⟩
  have htrim : (Text.trim text).toList = '#' :: digits := by
    rw [← String.ofList_toList (s := text), htext, Text.trim_between hblank hcore,
      String.toList_ofList]
  rw [ofHex?_of_trim htrim, mapM_value?_of_isDigit written.isDigit, Option.bind_some]

theorem exists_written {text : String} {colour : Colour} (h : ofHex? text = some colour) :
    ∃ digits, Written text digits := by
  obtain ⟨before, after, htext, hblank⟩ := Text.exists_trim text
  rw [ofHex?] at h
  split at h
  · next digits hdigits =>
    rw [hdigits] at htext
    obtain ⟨ns, hns, -⟩ := Option.bind_eq_some_iff.1 h
    exact ⟨digits, ⟨before, after, htext, hblank⟩, isDigit_of_mapM_value? hns⟩
  · cases h

theorem isSome_ofHex?_iff (text : String) :
    (ofHex? text).isSome = true ↔ ∃ digits, Written text digits ∧ digits.length ∈ [3, 4, 6, 8] := by
  constructor
  · intro h
    obtain ⟨colour, hcolour⟩ := Option.isSome_iff_exists.1 h
    obtain ⟨digits, written⟩ := exists_written hcolour
    refine ⟨digits, written, ?_⟩
    rwa [written.ofHex?_eq, isSome_ofDigits?_iff, List.length_map] at h
  · rintro ⟨digits, written, hlength⟩
    rwa [written.ofHex?_eq, isSome_ofDigits?_iff, List.length_map]

theorem written_plain {digits : List Char} (h : ∀ c ∈ digits, IsDigit c) :
    Written (String.ofList ('#' :: digits)) digits :=
  ⟨⟨[], [], by simp, List.forall_mem_nil _⟩, h⟩

/-! ## Capital and small letters -/

theorem toLower_eq_or_mem (c : Char) :
    c.toLower = c ∨ c ∈ "ABCDEFGHIJKLMNOPQRSTUVWXYZ".toList := by
  have hletters : ∀ n < 91, 65 ≤ n → Char.ofNat n ∈ "ABCDEFGHIJKLMNOPQRSTUVWXYZ".toList := by decide
  by_cases h : 65 ≤ c.toNat ∧ c.toNat ≤ 90
  · rw [← Char.ofNat_toNat c]
    exact .inr (hletters c.toNat (by omega) h.1)
  · exact .inl (dif_neg h)

/-- What holds of all capital letters and of all characters that are not changed holds of all. -/
theorem toLower_induction {p : Char → Char → Prop} (hself : ∀ c, p c c)
    (hletters : ∀ c ∈ "ABCDEFGHIJKLMNOPQRSTUVWXYZ".toList, p c.toLower c) (c : Char) :
    p c.toLower c := by
  rcases toLower_eq_or_mem c with heq | hmem
  · rw [heq]
    exact hself c
  · exact hletters c hmem

theorem value?_toLower (c : Char) : Hex.value? c.toLower = Hex.value? c :=
  toLower_induction (p := fun c d => Hex.value? c = Hex.value? d) (fun _ => rfl)
    (forall_of_all (by decide)) c

theorem isBlank_toLower (c : Char) : Text.isBlank c.toLower = Text.isBlank c :=
  toLower_induction (p := fun c d => Text.isBlank c = Text.isBlank d) (fun _ => rfl)
    (forall_of_all (by decide)) c

theorem toLower_eq_sign_iff (c : Char) : c.toLower = '#' ↔ c = '#' :=
  toLower_induction (p := fun c d => c = '#' ↔ d = '#') (fun _ => Iff.rfl)
    (forall_of_all (by decide)) c

/-- A text with small letters in the place of those from `A` to `Z`. -/
def lower (text : String) : String := String.ofList (text.toList.map Char.toLower)

theorem trim_lower (text : String) : Text.trim (lower text) = lower (Text.trim text) := by
  have hblank : Text.isBlank ∘ Char.toLower = Text.isBlank := funext isBlank_toLower
  simp only [Text.trim, lower, Text.dropEndWhile, String.toList_ofList, List.dropWhile_map,
    ← List.map_reverse, hblank]

theorem mapM_value?_lower (cs : List Char) :
    (cs.map Char.toLower).mapM Hex.value? = cs.mapM Hex.value? := by
  induction cs with
  | nil => rfl
  | cons c rest ih => simp [value?_toLower, ih]

theorem ofHex?_lower (text : String) : ofHex? (lower text) = ofHex? text := by
  have htrim : (Text.trim (lower text)).toList = (Text.trim text).toList.map Char.toLower := by
    rw [trim_lower, lower, String.toList_ofList]
  by_cases h : ∃ digits, (Text.trim text).toList = '#' :: digits
  · obtain ⟨digits, hdigits⟩ := h
    rw [hdigits] at htrim
    rw [ofHex?_of_trim hdigits, ofHex?_of_trim htrim, mapM_value?_lower]
  · have hnone := not_exists.1 h
    rw [ofHex?_of_not_sign hnone, ofHex?_of_not_sign]
    intro digits hdigits
    obtain ⟨c, rest, hcons, hc, -⟩ := List.map_eq_cons_iff.1 (htrim.symm.trans hdigits)
    exact hnone rest (hcons.trans (by rw [(toLower_eq_sign_iff c).1 hc]))

/-! ## Printing -/

theorem channel_digits (channel : UInt8) :
    Colour.channel (channel.toNat / 16) (channel.toNat % 16) = channel := by
  rw [Colour.channel, Nat.div_add_mod, UInt8.ofNat_toNat]

theorem digitValue_capital : ∀ n < 16, digitValue (Hex.capital n) = n := by decide

theorem isDigit_capital : ∀ n < 16, IsDigit (Hex.capital n) := by decide

theorem isDigit_channelDigits (channel : UInt8) : ∀ c ∈ channelDigits channel, IsDigit c := by
  have hlt := channel.toNat_lt
  simp only [channelDigits, List.mem_cons, List.not_mem_nil, or_false, forall_eq_or_imp, forall_eq]
  exact ⟨isDigit_capital _ (by omega), isDigit_capital _ (by omega)⟩

theorem digitValue_channelDigits (channel : UInt8) :
    (channelDigits channel).map digitValue = [channel.toNat / 16, channel.toNat % 16] := by
  have hlt := channel.toNat_lt
  simp only [channelDigits, List.map_cons, List.map_nil]
  rw [digitValue_capital _ (by omega), digitValue_capital _ (by omega)]

theorem toList_digits (colour : Colour) :
    colour.digits.toList = channelDigits colour.alpha ++ channelDigits colour.red
      ++ channelDigits colour.green ++ channelDigits colour.blue := String.toList_ofList

theorem ofHex?_digits (colour : Colour) : ofHex? ("#" ++ colour.digits) = some colour := by
  have hdigits : ∀ c ∈ colour.digits.toList, IsDigit c := by
    simp only [toList_digits, List.forall_mem_append]
    exact ⟨⟨⟨isDigit_channelDigits _, isDigit_channelDigits _⟩, isDigit_channelDigits _⟩,
      isDigit_channelDigits _⟩
  have hwritten : "#" ++ colour.digits = String.ofList ('#' :: colour.digits.toList) := by
    rw [String.ofList_cons, String.ofList_toList]
    rfl
  rw [hwritten, (written_plain hdigits).ofHex?_eq, toList_digits]
  simp only [List.map_append, digitValue_channelDigits]
  simp only [List.cons_append, List.nil_append, ofDigits?, channel_digits]

/-- The last digits of a number. -/
def lastDigits : Nat → Nat → List Char
  | 0, _ => []
  | width + 1, n => lastDigits width (n / 16) ++ [Nat.digitChar (n % 16)]

theorem lastDigits_zero (width : Nat) : lastDigits width 0 = List.replicate width '0' := by
  induction width with
  | zero => rfl
  | succ width ih => rw [lastDigits, Nat.zero_div, ih, List.replicate_succ']; rfl

theorem leftpad_toDigits (width : Nat) {n : Nat} (h : n < 16 ^ (width + 1)) :
    List.leftpad (width + 1) '0' (Nat.toDigits 16 n) = lastDigits (width + 1) n := by
  induction width generalizing n with
  | zero =>
    rw [Nat.toDigits_of_lt_base (by simpa using h), lastDigits, Nat.mod_eq_of_lt (by simpa using h)]
    rfl
  | succ width ih =>
    by_cases hsmall : n < 16
    · rw [Nat.toDigits_of_lt_base hsmall, lastDigits, Nat.div_eq_of_lt hsmall, lastDigits_zero,
        Nat.mod_eq_of_lt hsmall]
      simp [List.leftpad]
    · have hdiv : n / 16 < 16 ^ (width + 1) := Nat.div_lt_of_lt_mul (by rwa [Nat.pow_succ'] at h)
      rw [Nat.toDigits_of_base_le (by decide) (Nat.not_lt.1 hsmall), lastDigits, ← ih hdiv]
      simp [List.leftpad, Nat.add_sub_add_right]

theorem lastDigits_channel (width n : Nat) {b : Nat} (h : b < 256) :
    lastDigits (width + 2) (n * 256 + b)
      = lastDigits width n ++ [Nat.digitChar (b / 16), Nat.digitChar (b % 16)] := by
  have hn : (n * 256 + b) / 16 / 16 = n := by omega
  have hhigh : (n * 256 + b) / 16 % 16 = b / 16 := by omega
  have hlow : (n * 256 + b) % 16 = b % 16 := by omega
  rw [lastDigits, lastDigits, hn, hhigh, hlow, List.append_assoc]
  rfl

theorem toUpper_digitChar : ∀ n < 16, (Nat.digitChar n).toUpper = Hex.capital n := by decide

theorem channelDigits_eq (channel : UInt8) :
    channelDigits channel
      = [Nat.digitChar (channel.toNat / 16), Nat.digitChar (channel.toNat % 16)].map Char.toUpper := by
  have hlt := channel.toNat_lt
  rw [channelDigits, List.map_cons, List.map_cons, List.map_nil, toUpper_digitChar _ (by omega),
    toUpper_digitChar _ (by omega)]

/-- The digits of a colour are those of its number, filled up with zeros to eight. -/
theorem digits_eq_toDigits (colour : Colour) :
    colour.digits.toList
      = List.leftpad 8 '0' ((Nat.toDigits 16 colour.toNat).map Char.toUpper) := by
  have halpha := colour.alpha.toNat_lt
  have hred := colour.red.toNat_lt
  have hgreen := colour.green.toNat_lt
  have hblue := colour.blue.toNat_lt
  have hpad : List.leftpad 8 '0' ((Nat.toDigits 16 colour.toNat).map Char.toUpper)
      = (List.leftpad 8 '0' (Nat.toDigits 16 colour.toNat)).map Char.toUpper := by
    simp [List.leftpad]
  have hnumber : colour.toNat = (((0 * 256 + colour.alpha.toNat) * 256 + colour.red.toNat) * 256
      + colour.green.toNat) * 256 + colour.blue.toNat := by
    rw [Nat.zero_mul, Nat.zero_add]
    rfl
  rw [hpad, leftpad_toDigits 7 (by omega), hnumber, lastDigits_channel 6 _ hblue,
    lastDigits_channel 4 _ hgreen, lastDigits_channel 2 _ hred, lastDigits_channel 0 _ halpha,
    toList_digits]
  simp only [channelDigits_eq, List.map_append]
  rfl

theorem text_colourLiteral (colour : Colour) :
    Code.Phrase.phraseText Android.quoting (Android.colourLiteral colour)
      = "Color(0x" ++ colour.digits ++ ")" := by
  rw [← String.toList_inj]
  simp [Android.colourLiteral, Code.Phrase.call, Code.Phrase.joined, Code.Phrase.word,
    Code.Phrase.phraseText, Code.Phrase.fragmentText, Code.Bracket.opening, Code.Bracket.closing]

/-! ## Colours and texts -/

/-- A text of a number sign and some characters. -/
def signed (cs : List Char) : String := String.ofList ('#' :: cs)

/-- The channel of two digits. -/
def paired (high low : Char) : UInt8 := UInt8.ofNat (16 * digitValue high + digitValue low)

theorem paired_full : paired 'F' 'F' = 255 := by decide

theorem isDigit_full : IsDigit 'F' := by decide

theorem ofHex?_signed {digits : List Char} (h : ∀ c ∈ digits, IsDigit c) :
    ofHex? (signed digits) = ofDigits? (digits.map digitValue) := (written_plain h).ofHex?_eq

/-- Colours and their texts. A text is read if and only if it is a number sign with three, four, six or
eight digits between blanks. Capital and small letters mean the same. Eight digits are the channels, the
opacity first; six are those of an opaque colour, and of three and four each stands for two. What is
printed for a colour are the eight digits of its number, and they are read back as the colour. -/
theorem ofHex?_exact :
    (∀ text, (ofHex? text).isSome = true ↔
      ∃ digits, Written text digits ∧ digits.length ∈ [3, 4, 6, 8]) ∧
    (∀ text other, lower text = lower other → ofHex? text = ofHex? other) ∧
    (∀ a a' r r' g g' b b', (∀ c ∈ [a, a', r, r', g, g', b, b'], IsDigit c) →
      ofHex? (signed [a, a', r, r', g, g', b, b'])
        = some ⟨paired a a', paired r r', paired g g', paired b b'⟩ ∧
      ofHex? (signed [r, r', g, g', b, b']) = ofHex? (signed ['F', 'F', r, r', g, g', b, b']) ∧
      ofHex? (signed [a, r, g, b]) = ofHex? (signed [a, a, r, r, g, g, b, b])) ∧
    (∀ r g b, (∀ c ∈ [r, g, b], IsDigit c) →
      ∀ digits ∈ [[r, g, b], ['F', r, g, b], [r, r, g, g, b, b], ['F', 'F', r, r, g, g, b, b]],
        ofHex? (signed digits) = some ⟨255, paired r r, paired g g, paired b b⟩) ∧
    ∀ colour : Colour,
      Code.Phrase.phraseText Android.quoting (Android.colourLiteral colour)
        = "Color(0x" ++ colour.digits ++ ")" ∧
      colour.digits.toList
        = List.leftpad 8 '0' ((Nat.toDigits 16 colour.toNat).map Char.toUpper) ∧
      ofHex? ("#" ++ colour.digits) = some colour := by
  refine ⟨isSome_ofHex?_iff, ?_, ?_, ?_, ?_⟩
  · intro text other h
    rw [← ofHex?_lower text, h, ofHex?_lower]
  · intro a a' r r' g g' b b' h
    have hpairs : ∀ {x x' : Char}, IsDigit x → IsDigit x' →
        ofHex? (signed [x, x', r, r', g, g', b, b'])
          = some ⟨paired x x', paired r r', paired g g', paired b b'⟩ := by
      intro x x' hx hx'
      exact ofHex?_signed (by simp_all)
    refine ⟨hpairs (h a (by simp)) (h a' (by simp)), ?_, ?_⟩
    · rw [hpairs isDigit_full isDigit_full, paired_full]
      exact ofHex?_signed fun c hc => h c (by simp_all)
    · rw [ofHex?_signed (by simp_all), ofHex?_signed (by simp_all)]
      rfl
  · intro r g b h digits hdigits
    have hfull := isDigit_full
    simp only [List.mem_cons, List.not_mem_nil, or_false] at hdigits
    rw [← paired_full]
    rcases hdigits with rfl | rfl | rfl | rfl <;> exact ofHex?_signed (by simp_all)
  · exact fun colour => ⟨text_colourLiteral colour, digits_eq_toDigits colour, ofHex?_digits colour⟩

/-- Three digits between a tab and an ideographic space, the same digits in other letters, and eight
digits of both kinds. -/
theorem ofHex?_exact_mixed :
    Written "\t#fA0\u3000" ['f', 'A', '0'] ∧ (ofHex? "\t#fA0\u3000").isSome = true ∧
    lower "\t#fA0\u3000" = lower "\t#Fa0\u3000" ∧ ofHex? "\t#fA0\u3000" = ofHex? "\t#Fa0\u3000" ∧
    (∀ c ∈ ['8', '0', '1', '2', 'a', 'B', 'f', 'F'], IsDigit c) ∧
    ofHex? (signed ['8', '0', '1', '2', 'a', 'B', 'f', 'F']) = some ⟨0x80, 0x12, 0xAB, 0xFF⟩ ∧
    (∀ c ∈ ['f', 'A', '0'], IsDigit c) ∧
    ofHex? (signed ['F', 'f', 'A', '0']) = some ⟨0xFF, 0xFF, 0xAA, 0x00⟩ := by
  obtain ⟨hread, hcase, hpairs, hshort, -⟩ := ofHex?_exact
  have hwritten : Written "\t#fA0\u3000" ['f', 'A', '0'] :=
    ⟨⟨['\t'], ['\u3000'], rfl, forall_of_all (by decide)⟩, forall_of_all (by decide)⟩
  have hlower : lower "\t#fA0\u3000" = lower "\t#Fa0\u3000" := by decide
  have hmixed : ∀ c ∈ ['8', '0', '1', '2', 'a', 'B', 'f', 'F'], IsDigit c :=
    forall_of_all (by decide)
  have hdigits : ∀ c ∈ ['f', 'A', '0'], IsDigit c := forall_of_all (by decide)
  refine ⟨hwritten, (hread _).2 ⟨_, hwritten, by decide⟩, hlower, hcase _ _ hlower, hmixed,
    (hpairs _ _ _ _ _ _ _ _ hmixed).1.trans (by decide), hdigits,
    (hshort 'f' 'A' '0' hdigits _ (by decide)).trans (by decide)⟩

end Colour

end Widgetry
