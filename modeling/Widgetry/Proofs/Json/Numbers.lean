import Widgetry.Proofs.Decimal.Whole
import Widgetry.Json.Printer
import Widgetry.Json.Reader

/-!
Numbers in JSON text. A whole number within 64 bits is read back as it is written, whatever follows
it, as long as that could not belong to a number; and what is read of a number alone is read of it
in front of such a text too.
-/

namespace Widgetry.Json

/-! ## What follows a number -/

/-- A text that does not go on with a number. -/
def Ends (rest : List Char) : Prop :=
  ∀ c ∈ rest.head?, c.isDigit = false ∧ c ≠ '.' ∧ c ≠ 'e' ∧ c ≠ 'E'

theorem ends_nil : Ends [] := by simp [Ends]

theorem ends_cons {c : Char} (rest : List Char)
    (h : c.isDigit = false ∧ c ≠ '.' ∧ c ≠ 'e' ∧ c ≠ 'E') : Ends (c :: rest) := by
  simpa [Ends] using h

section Digits

variable {rest : List Char} (ends : Ends rest)

include ends

theorem dropWhile_isDigit_append (cs : List Char) :
    (cs ++ rest).dropWhile Char.isDigit = cs.dropWhile Char.isDigit ++ rest := by
  induction cs with
  | nil =>
    cases rest with
    | nil => rfl
    | cons c rest => simp [(ends c (by simp)).1]
  | cons c cs ih => by_cases h : c.isDigit <;> simp [h, ih]

theorem takeWhile_isDigit_append (cs : List Char) :
    (cs ++ rest).takeWhile Char.isDigit = cs.takeWhile Char.isDigit := by
  induction cs with
  | nil =>
    cases rest with
    | nil => rfl
    | cons c rest => simp [(ends c (by simp)).1]
  | cons c cs ih => by_cases h : c.isDigit <;> simp [h, ih]

theorem any_isDigit_head?_append (cs : List Char) :
    (cs ++ rest).head?.any Char.isDigit = cs.head?.any Char.isDigit := by
  cases cs with
  | nil =>
    cases rest with
    | nil => rfl
    | cons c rest => simp [(ends c (by simp)).1]
  | cons c cs => rfl

theorem takeSignificand_append (significand taken : Nat) (cs : List Char) :
    takeSignificand significand taken (cs ++ rest)
      = ((takeSignificand significand taken cs).1, (takeSignificand significand taken cs).2.1,
        (takeSignificand significand taken cs).2.2 ++ rest) := by
  induction cs generalizing significand taken with
  | nil =>
    cases rest with
    | nil => rfl
    | cons c rest => simp [takeSignificand, (ends c (by simp)).1]
  | cons c cs ih =>
    simp only [List.cons_append, takeSignificand]
    split
    · rw [ih]
    · rfl

end Digits

/-! ## Reading in front of a text -/

section Append

variable {negative : Bool} {significand : Nat} {cs left rest : List Char} {number : Number}

theorem takeSign_append {c : Char} (cs rest : List Char) :
    Double.takeSign (c :: cs ++ rest)
      = ((Double.takeSign (c :: cs)).1, (Double.takeSign (c :: cs)).2 ++ rest) := by
  unfold Double.takeSign
  split <;> simp_all

theorem readExponent?_append {exponent : Int} (ends : Ends rest)
    (h : readExponent? negative significand exponent cs = some (number, left)) :
    readExponent? negative significand exponent (cs ++ rest) = some (number, left ++ rest) := by
  cases cs with
  | nil => simp [readExponent?, Double.takeSign] at h
  | cons c cs =>
    simp only [readExponent?, takeSign_append, takeWhile_isDigit_append ends,
      dropWhile_isDigit_append ends] at h ⊢
    split at h
    · cases h
    · rename_i hdigits
      rw [if_neg hdigits]
      split at h
      · rename_i hlarge
        rw [if_pos hlarge]
        split at h
        · cases h
        · rename_i hzero
          rw [if_neg hzero]
          simp only [Option.some.injEq, Prod.mk.injEq] at h ⊢
          exact ⟨h.1, by rw [h.2]⟩
      · rename_i hlarge
        rw [if_neg hlarge]
        obtain ⟨found, hfound, heq⟩ := Option.map_eq_some_iff.1 h
        simp only [Prod.mk.injEq] at heq
        rw [hfound, Option.map_some, heq.1, heq.2]

theorem finishFloat?_append {exponent : Int} (ends : Ends rest)
    (h : finishFloat? negative significand exponent cs = some (number, left)) :
    finishFloat? negative significand exponent (cs ++ rest) = some (number, left ++ rest) := by
  cases cs with
  | nil =>
    obtain ⟨found, hfound, heq⟩ := Option.map_eq_some_iff.1 h
    simp only [Prod.mk.injEq] at heq
    obtain ⟨rfl, rfl⟩ := heq
    cases rest with
    | nil => simp [finishFloat?, hfound]
    | cons c rest =>
      obtain ⟨-, -, he, hE⟩ := ends c (by simp)
      simp [finishFloat?, hfound, he, hE]
  | cons c cs =>
    simp only [List.cons_append, finishFloat?] at h ⊢
    split at h
    · rename_i hmark
      rw [if_pos hmark]
      exact readExponent?_append ends h
    · rename_i hmark
      rw [if_neg hmark]
      obtain ⟨found, hfound, heq⟩ := Option.map_eq_some_iff.1 h
      simp only [Prod.mk.injEq] at heq
      rw [hfound, Option.map_some, heq.1, ← heq.2]
      rfl

theorem readPlaces?_append {exponent : Int} (ends : Ends rest)
    (h : readPlaces? negative significand exponent cs = some (number, left)) :
    readPlaces? negative significand exponent (cs ++ rest) = some (number, left ++ rest) := by
  simp only [readPlaces?, takeSignificand_append ends, any_isDigit_head?_append ends,
    dropWhile_isDigit_append ends] at h ⊢
  split at h
  · cases h
  · rename_i hdigits
    rw [if_neg hdigits]
    exact finishFloat?_append ends h

theorem finishNumber?_of_head?_ne {dropped : Nat} (h : cs.head? ≠ some '.') :
    finishNumber? negative significand dropped cs
      = if dropped = 0 ∧ ¬ (cs.head?.any fun c => c = 'e' || c = 'E') then
          some (wholeNumber negative significand, cs)
        else finishFloat? negative significand dropped cs := by
  unfold finishNumber?
  split
  · simp at h
  · rfl

theorem finishNumber?_append {dropped : Nat} (ends : Ends rest)
    (h : finishNumber? negative significand dropped cs = some (number, left)) :
    finishNumber? negative significand dropped (cs ++ rest) = some (number, left ++ rest) := by
  by_cases hpoint : cs.head? = some '.'
  · obtain ⟨places, rfl⟩ : ∃ places, cs = '.' :: places := by
      cases cs with
      | nil => simp at hpoint
      | cons c places => exact ⟨places, by simpa using hpoint⟩
    exact readPlaces?_append ends h
  · have hpoint' : (cs ++ rest).head? ≠ some '.' := by
      cases cs with
      | nil =>
        intro heq
        exact (ends '.' heq).2.1 rfl
      | cons c cs => exact hpoint
    have hmark : ((cs ++ rest).head?.any fun c => c = 'e' || c = 'E')
        = cs.head?.any fun c => c = 'e' || c = 'E' := by
      cases cs with
      | nil =>
        cases rest with
        | nil => rfl
        | cons c rest =>
          obtain ⟨-, -, he, hE⟩ := ends c (by simp)
          simp [he, hE]
      | cons c cs => rfl
    rw [finishNumber?_of_head?_ne hpoint] at h
    rw [finishNumber?_of_head?_ne hpoint', hmark]
    split at h
    · rename_i hwhole
      rw [if_pos hwhole]
      simp only [Option.some.injEq, Prod.mk.injEq] at h ⊢
      exact ⟨h.1, by rw [h.2]⟩
    · rename_i hwhole
      rw [if_neg hwhole]
      exact finishFloat?_append ends h

theorem readMagnitude?_zero (negative : Bool) (cs : List Char) :
    readMagnitude? negative ('0' :: cs)
      = if cs.head?.any Char.isDigit then none else finishNumber? negative 0 0 cs := rfl

theorem readMagnitude?_of_head?_ne (h : cs.head? ≠ some '0') :
    readMagnitude? negative cs
      = if cs.head?.any Char.isDigit then
          finishNumber? negative (takeSignificand 0 0 cs).1
            ((takeSignificand 0 0 cs).2.2.takeWhile Char.isDigit).length
            ((takeSignificand 0 0 cs).2.2.dropWhile Char.isDigit)
        else none := by
  unfold readMagnitude?
  split
  · simp at h
  · rfl

theorem readMagnitude?_append (ends : Ends rest)
    (h : readMagnitude? negative cs = some (number, left)) :
    readMagnitude? negative (cs ++ rest) = some (number, left ++ rest) := by
  cases cs with
  | nil => simp [readMagnitude?] at h
  | cons c cs =>
    by_cases hc : c = '0'
    · subst hc
      rw [List.cons_append]
      rw [readMagnitude?_zero] at h ⊢
      rw [any_isDigit_head?_append ends]
      split at h
      · cases h
      · rename_i hdigit
        rw [if_neg hdigit]
        exact finishNumber?_append ends h
    · rw [readMagnitude?_of_head?_ne (by simpa using hc)] at h ⊢
      rw [any_isDigit_head?_append ends, takeSignificand_append ends]
      split at h
      · rename_i hdigit
        rw [if_pos hdigit, takeWhile_isDigit_append ends, dropWhile_isDigit_append ends]
        exact finishNumber?_append ends h
      · cases h

end Append

/-! ## What is left of a text -/

section Suffix

variable {negative : Bool} {significand : Nat} {cs left : List Char} {number : Number}

theorem takeSignificand_suffix (significand taken : Nat) (cs : List Char) :
    (takeSignificand significand taken cs).2.2 <:+ cs := by
  induction cs generalizing significand taken with
  | nil => exact List.suffix_refl _
  | cons c cs ih =>
    unfold takeSignificand
    split
    · exact (ih _ _).trans (List.suffix_cons c cs)
    · exact List.suffix_refl _

theorem takeSign_suffix (cs : List Char) : (Double.takeSign cs).2 <:+ cs := by
  unfold Double.takeSign
  split
  · exact List.suffix_cons _ _
  · exact List.suffix_cons _ _
  · exact List.suffix_refl _

theorem readExponent?_suffix {exponent : Int}
    (h : readExponent? negative significand exponent cs = some (number, left)) : left <:+ cs := by
  have hrest := (List.dropWhile_suffix Char.isDigit).trans (takeSign_suffix cs)
  simp only [readExponent?] at h
  split at h
  · cases h
  · split at h
    · split at h
      · cases h
      · simp only [Option.some.injEq, Prod.mk.injEq] at h
        exact h.2 ▸ hrest
    · obtain ⟨found, -, heq⟩ := Option.map_eq_some_iff.1 h
      simp only [Prod.mk.injEq] at heq
      exact heq.2 ▸ hrest

theorem finishFloat?_suffix {exponent : Int}
    (h : finishFloat? negative significand exponent cs = some (number, left)) : left <:+ cs := by
  cases cs with
  | nil =>
    obtain ⟨found, -, heq⟩ := Option.map_eq_some_iff.1 h
    simp only [Prod.mk.injEq] at heq
    exact heq.2 ▸ List.suffix_refl _
  | cons c cs =>
    simp only [finishFloat?] at h
    split at h
    · exact (readExponent?_suffix h).trans (List.suffix_cons c cs)
    · obtain ⟨found, -, heq⟩ := Option.map_eq_some_iff.1 h
      simp only [Prod.mk.injEq] at heq
      exact heq.2 ▸ List.suffix_refl _

theorem readPlaces?_suffix {exponent : Int}
    (h : readPlaces? negative significand exponent cs = some (number, left)) : left <:+ cs := by
  simp only [readPlaces?] at h
  split at h
  · cases h
  · exact (finishFloat?_suffix h).trans
      ((List.dropWhile_suffix _).trans (takeSignificand_suffix _ _ cs))

theorem finishNumber?_suffix {dropped : Nat}
    (h : finishNumber? negative significand dropped cs = some (number, left)) : left <:+ cs := by
  unfold finishNumber? at h
  split at h
  · exact (readPlaces?_suffix h).trans (List.suffix_cons _ _)
  · split at h
    · simp only [Option.some.injEq, Prod.mk.injEq] at h
      exact h.2 ▸ List.suffix_refl _
    · exact finishFloat?_suffix h

theorem readMagnitude?_suffix (h : readMagnitude? negative cs = some (number, left)) :
    left <:+ cs := by
  unfold readMagnitude? at h
  split at h
  · split at h
    · cases h
    · exact (finishNumber?_suffix h).trans (List.suffix_cons _ _)
  · split at h
    · exact (finishNumber?_suffix h).trans
        ((List.dropWhile_suffix _).trans (takeSignificand_suffix _ _ _))
    · cases h

end Suffix

/-! ## Whole numbers -/

theorem le_ofDigitChars (ds : List Char) (init : Nat) : init ≤ Nat.ofDigitChars 10 ds init := by
  induction ds generalizing init with
  | nil => simp
  | cons c ds ih =>
    rw [Nat.ofDigitChars_cons]
    exact Nat.le_trans (by omega) (ih _)

/-- Digits whose value fits are all taken. -/
theorem takeSignificand_digits {ds rest : List Char} (digits : ∀ c ∈ ds, c.isDigit = true)
    (ends : Ends rest) (significand taken : Nat)
    (fits : Nat.ofDigitChars 10 ds significand ≤ maxWord) :
    takeSignificand significand taken (ds ++ rest)
      = (Nat.ofDigitChars 10 ds significand, taken + ds.length, rest) := by
  induction ds generalizing significand taken with
  | nil =>
    have h := takeSignificand_append ends significand taken []
    simpa [takeSignificand] using h
  | cons c ds ih =>
    rw [Nat.ofDigitChars_cons] at fits ⊢
    have hc := digits c (by simp)
    have hfits := Nat.le_trans (le_ofDigitChars ds _) fits
    have hrest := ih (fun c hc => digits c (by simp [hc])) (10 * significand + Decimal.digitValue c)
      (taken + 1) fits
    rw [List.cons_append, takeSignificand, if_pos ⟨hc, hfits⟩, hrest]
    simp only [List.length_cons, Prod.mk.injEq, and_true]
    exact ⟨rfl, by omega⟩

theorem digitChar_ne_zero : ∀ n : Fin 10, 0 < n.val → n.val.digitChar ≠ '0' := by decide

/-- No number but zero starts with a zero. -/
theorem head?_toDigits_ne {n : Nat} (pos : 0 < n) : (Nat.toDigits 10 n).head? ≠ some '0' := by
  induction n using Nat.strongRecOn with
  | ind n ih =>
    rcases Nat.lt_or_ge n 10 with h | h
    · rw [Nat.toDigits_of_lt_base h, List.head?_cons]
      exact fun heq => digitChar_ne_zero ⟨n, h⟩ pos (Option.some.inj heq)
    · rw [Nat.toDigits_of_base_le (by omega) h, List.head?_append,
        List.head?_eq_some_head Nat.toDigits_ne_nil, Option.some_or, ← List.head?_eq_some_head]
      exact ih (n / 10) (by omega) (by omega)

theorem isDigit_of_mem_repr {n : Nat} {c : Char} (h : c ∈ (Nat.repr n).toList) :
    c.isDigit = true := by
  rw [Nat.toList_repr] at h
  exact Nat.isDigit_of_mem_toDigits (by omega) (by omega) h

theorem readMagnitude?_repr {n : Nat} {rest : List Char} (negative : Bool) (ends : Ends rest)
    (fits : n ≤ maxWord) :
    readMagnitude? negative ((Nat.repr n).toList ++ rest)
      = some (wholeNumber negative n, rest) := by
  have hpoint : rest.head? ≠ some '.' := fun h => (ends '.' h).2.1 rfl
  have hfinish : finishNumber? negative n 0 rest = some (wholeNumber negative n, rest) := by
    rw [finishNumber?_of_head?_ne hpoint, if_pos]
    refine ⟨rfl, ?_⟩
    cases rest with
    | nil => simp
    | cons c rest =>
      obtain ⟨-, -, he, hE⟩ := ends c (by simp)
      simp [he, hE]
  rcases Nat.eq_zero_or_pos n with rfl | pos
  · have hdigit := any_isDigit_head?_append ends []
    simp only [List.nil_append, List.head?_nil, Option.any_none] at hdigit
    show readMagnitude? negative ('0' :: rest) = _
    rw [readMagnitude?_zero, hdigit, if_neg (by simp)]
    exact hfinish
  · have hdigits : ∀ c ∈ (Nat.repr n).toList, c.isDigit = true := fun c => isDigit_of_mem_repr
    have hvalue : Nat.ofDigitChars 10 (Nat.repr n).toList 0 = n := by
      rw [Nat.toList_repr, Nat.ofDigitChars_ten_toDigits]
    have hne : (Nat.repr n).toList ≠ [] := by rw [Nat.toList_repr]; exact Nat.toDigits_ne_nil
    have hhead : ((Nat.repr n).toList ++ rest).head? ≠ some '0' := by
      rw [List.head?_append, List.head?_eq_some_head hne, Option.some_or,
        ← List.head?_eq_some_head, Nat.toList_repr]
      exact head?_toDigits_ne pos
    have htake := takeSignificand_digits hdigits ends 0 0 (by rw [hvalue]; exact fits)
    have hdrop := dropWhile_isDigit_append ends []
    have htakeWhile := takeWhile_isDigit_append ends []
    rw [readMagnitude?_of_head?_ne hhead, any_isDigit_head?_append ends, htake, hvalue]
    simp only [List.nil_append, List.dropWhile_nil, List.takeWhile_nil] at hdrop htakeWhile
    rw [hdrop, htakeWhile, if_pos]
    · exact hfinish
    · cases hcs : (Nat.repr n).toList with
      | nil => exact absurd hcs hne
      | cons c cs => exact hdigits c (by simp [hcs])

theorem readValue?_digit {c : Char} (digit : c.isDigit = true) (fuel depth : Nat)
    (cs : List Char) :
    readValue? (fuel + 1) depth (c :: cs)
      = (readMagnitude? false (c :: cs)).map fun (n, rest) => (.number n, rest) := by
  have hskip : skipBlanks (c :: cs) = c :: cs := by
    refine List.dropWhile_cons_of_neg ?_
    intro hblank
    simp only [isBlank, Bool.or_eq_true, decide_eq_true_eq] at hblank
    rcases hblank with ((rfl | rfl) | rfl) | rfl <;> simp at digit
  simp only [readValue?]
  rw [hskip]
  split
  any_goals rename_i heq; simp only [List.cons.injEq] at heq; rw [heq.1] at digit; simp at digit
  rfl

theorem readValue?_minus (fuel depth : Nat) (cs : List Char) :
    readValue? (fuel + 1) depth ('-' :: cs)
      = (readMagnitude? true cs).map fun (n, rest) => (.number n, rest) := rfl

/-- A whole number within 64 bits. -/
def InWord (n : Int) : Prop := -(2 ^ 63 : Int) ≤ n ∧ n < 2 ^ 64

instance (n : Int) : Decidable (InWord n) := inferInstanceAs (Decidable (_ ∧ _))

theorem readValue?_integer {n : Int} {rest : List Char} (fits : InWord n) (ends : Ends rest)
    (fuel depth : Nat) :
    readValue? (fuel + 1) depth ((toString n).toList ++ rest)
      = some (.number (.integer n), rest) := by
  obtain ⟨low, high⟩ := fits
  cases n with
  | ofNat n =>
    have hn : n ≤ maxWord := by simp only [maxWord, Int.ofNat_eq_natCast] at high ⊢; omega
    show readValue? (fuel + 1) depth ((Nat.repr n).toList ++ rest) = _
    cases hcs : (Nat.repr n).toList with
    | nil => exact absurd hcs (by rw [Nat.toList_repr]; exact Nat.toDigits_ne_nil)
    | cons c cs =>
      have hc : c.isDigit = true := isDigit_of_mem_repr (n := n) (by simp [hcs])
      rw [List.cons_append, readValue?_digit hc, ← List.cons_append, ← hcs,
        readMagnitude?_repr false ends hn]
      rfl
  | negSucc n =>
    have hn : n + 1 ≤ maxWord := by simp only [maxWord]; omega
    have hword : wholeNumber true (n + 1) = .integer (Int.negSucc n) := by
      rw [wholeNumber, if_pos rfl, if_neg (by omega)]
      rfl
    show readValue? (fuel + 1) depth (("-" ++ Nat.repr (n + 1)).toList ++ rest) = _
    rw [String.toList_append]
    show readValue? (fuel + 1) depth ('-' :: ((Nat.repr (n + 1)).toList ++ rest)) = _
    rw [readValue?_minus, readMagnitude?_repr true ends hn, hword]
    rfl

/-! ## Floating numbers -/

/-- The characters of numbers. -/
def isNumeric (c : Char) : Bool := c.isDigit || c = '.' || c = '-' || c = '+' || c = 'e'

theorem not_isBlank_of_isNumeric {c : Char} (h : isNumeric c = true) : isBlank c = false := by
  cases hblank : isBlank c with
  | false => rfl
  | true =>
    simp only [isBlank, Bool.or_eq_true, decide_eq_true_eq] at hblank
    rcases hblank with ((rfl | rfl) | rfl) | rfl <;> exact absurd h (by decide)

/-- The text of a number without its sign: a digit comes first, and all its characters are those
of numbers. -/
def Numeral (cs : List Char) : Prop :=
  cs.head?.any Char.isDigit = true ∧ ∀ c ∈ cs, isNumeric c = true

theorem isNumeric_of_isDigit {c : Char} (h : c.isDigit = true) : isNumeric c = true := by
  simp [isNumeric, h]

theorem numeral_cons {c : Char} {cs : List Char} (digit : c.isDigit = true)
    (others : ∀ c ∈ cs, isNumeric c = true) : Numeral (c :: cs) := by
  refine ⟨digit, fun d hd => ?_⟩
  rcases List.mem_cons.1 hd with rfl | hd
  · exact isNumeric_of_isDigit digit
  · exact others d hd

theorem Numeral.append {cs ds : List Char} (h : Numeral cs)
    (others : ∀ c ∈ ds, isNumeric c = true) : Numeral (cs ++ ds) := by
  cases cs with
  | nil => simp [Numeral] at h
  | cons c cs =>
    refine numeral_cons h.1 fun d hd => ?_
    rcases List.mem_append.1 hd with hd | hd
    · exact h.2 d (List.mem_cons_of_mem c hd)
    · exact others d hd

theorem isNumeric_of_mem_repr {n : Nat} {c : Char} (h : c ∈ (Nat.repr n).toList) :
    isNumeric c = true :=
  isNumeric_of_isDigit (isDigit_of_mem_repr h)

theorem isNumeric_of_mem_zeros {n : Nat} {c : Char} (h : c ∈ (Decimal.zeros n).toList) :
    isNumeric c = true := by
  simp only [Decimal.zeros, String.toList_ofList, List.mem_replicate] at h
  rw [h.2]
  decide

theorem numeral_repr (n : Nat) : Numeral (Nat.repr n).toList := by
  cases hcs : (Nat.repr n).toList with
  | nil => exact absurd hcs (by rw [Nat.toList_repr]; exact Nat.toDigits_ne_nil)
  | cons c cs =>
    have hall : ∀ d ∈ c :: cs, d.isDigit = true := fun d hd => isDigit_of_mem_repr (hcs ▸ hd)
    exact numeral_cons (hall c (by simp)) fun d hd =>
      isNumeric_of_isDigit (hall d (List.mem_cons_of_mem c hd))

theorem numeral_take_repr {n k : Nat} (pos : 0 < k) : Numeral ((Nat.repr n).toList.take k) := by
  obtain ⟨hhead, hall⟩ := numeral_repr n
  refine ⟨?_, fun c hc => hall c (List.mem_of_mem_take hc)⟩
  rw [List.head?_take, if_neg (by omega)]
  exact hhead

theorem numeral_positional (d : Decimal) : Numeral d.positional.toList := by
  simp only [Decimal.positional]
  split
  · rw [String.toList_append]
    exact (numeral_repr _).append fun c => isNumeric_of_mem_zeros
  · split
    · rename_i hplaces
      simp only [String.toList_append, String.toList_ofList]
      refine ((numeral_take_repr (by omega)).append ?_).append ?_
      · exact List.all_eq_true.1 (by decide)
      · exact fun c hc => isNumeric_of_mem_repr (List.mem_of_mem_drop hc)
    · rw [String.toList_append, String.toList_append]
      have hpoint : Numeral "0.".toList := numeral_cons (by decide) (List.all_eq_true.1 (by decide))
      exact (hpoint.append fun c => isNumeric_of_mem_zeros).append fun c => isNumeric_of_mem_repr

theorem numeral_scientific (d : Decimal) : Numeral d.scientific.toList := by
  have hmark : ∀ c ∈ (if d.leading < 0 then "e-" else "e+").toList, isNumeric c = true := by
    split <;> exact List.all_eq_true.1 (by decide)
  obtain ⟨hhead, hall⟩ := numeral_repr d.digits
  simp only [Decimal.scientific]
  split
  · exact numeral_cons (by decide) nofun
  · rename_i c hcs
    rw [hcs] at hhead
    rw [String.toList_append, String.toList_append, String.toList_ofList]
    refine (Numeral.append ?_ hmark).append fun c => isNumeric_of_mem_repr
    exact numeral_cons hhead (by simp)
  · rename_i c cs _ hcs
    rw [hcs] at hhead hall
    rw [String.toList_append, String.toList_append, String.toList_ofList]
    refine (Numeral.append ?_ hmark).append fun c => isNumeric_of_mem_repr
    refine numeral_cons hhead fun d hd => ?_
    rcases List.mem_cons.1 hd with rfl | hd
    · decide
    · exact hall d (List.mem_cons_of_mem c hd)

theorem floatText_eq (x : Float) :
    floatText x = "null" ∨ Numeral (floatText x).toList ∨
      ∃ cs, (floatText x).toList = '-' :: cs ∧ Numeral cs := by
  unfold floatText
  split
  · rename_i negative m e _
    -- With or without its point, what follows the sign is a numeral.
    have hwhole : Numeral ((Decimal.shortest .toEven m e).positional
        ++ (if 0 ≤ (Decimal.shortest .toEven m e).exponent then ".0" else "")).toList := by
      rw [String.toList_append]
      refine (numeral_positional _).append ?_
      split <;> exact List.all_eq_true.1 (by decide)
    have hscientific := numeral_scientific (Decimal.shortest .toEven m e)
    cases negative <;> simp only [Bool.false_eq_true, if_false, if_true, String.append_assoc] <;>
      split
    · exact .inr (.inl (by simpa using hwhole))
    · exact .inr (.inl (by simpa using hscientific))
    · exact .inr (.inr ⟨_, String.toList_append, hwhole⟩)
    · exact .inr (.inr ⟨_, String.toList_append, hscientific⟩)
  · exact .inl rfl

/-- A number that its own text reads back as. Reading rounds more than once, so not all are. -/
def Stable (x : Float) : Prop := read? (floatText x) = some (.number (.float x))

def isStable (x : Float) : Bool :=
  match read? (floatText x) with
  | some (.number (.float y)) => y.toBits == x.toBits
  | _ => false

theorem isStable_iff (x : Float) : isStable x = true ↔ Stable x := by
  unfold isStable Stable
  split
  · rename_i y heq
    rw [heq]
    simp only [beq_iff_eq, Option.some.injEq, Json.number.injEq, Number.float.injEq, Float.toBits_inj]
  · rename_i h
    simp only [Bool.false_eq_true, false_iff]
    exact h x

/-- The length of a numeral is the number of its digits. -/
theorem magnitude_eq (m : Nat) (q : Int) :
    Decimal.magnitude m q
      = ((Nat.toDigits 10 (Decimal.quotient m q (-400))).length : Int) - 401 := by
  rw [Decimal.magnitude, Nat.repr, String.length_ofList]

theorem stable_half : Stable 0.5 := by
  have hparts : Double.ofFloat 0.5 = .finite false (2 ^ 52) (-53) := by decide +kernel
  have hmagnitude : Decimal.magnitude (2 ^ 52) (-53) = -1 := by
    rw [magnitude_eq]
    decide +kernel
  have hshortest : Decimal.shortest .toEven (2 ^ 52) (-53) = ⟨5, -1⟩ := by
    rw [Decimal.shortest, hmagnitude]
    decide +kernel
  have htext : floatText 0.5 = "0.5" := by
    rw [floatText, hparts]
    simp only [hshortest]
    decide +kernel
  rw [← isStable_iff, isStable, htext]
  decide +kernel

theorem eq_nil_of_skipBlanks {cs left : List Char} (numeric : ∀ c ∈ cs, isNumeric c = true)
    (suffix : left <:+ cs) (h : (skipBlanks left).isEmpty = true) : left = [] := by
  cases left with
  | nil => rfl
  | cons c left =>
    have hc := not_isBlank_of_isNumeric (numeric c (suffix.subset (by simp)))
    rw [skipBlanks, List.dropWhile_cons_of_neg (by simp [hc])] at h
    cases h

theorem readMagnitude?_of_read? {negative : Bool} {cs : List Char} {number : Number}
    (numeric : ∀ c ∈ cs, isNumeric c = true)
    (h : (do
      let (value, rest) ← (readMagnitude? negative cs).map fun (n, rest) => (Json.number n, rest)
      if (skipBlanks rest).isEmpty then some value else none) = some (.number number)) :
    readMagnitude? negative cs = some (number, []) := by
  cases hread : readMagnitude? negative cs with
  | none => simp [hread] at h
  | some found =>
    obtain ⟨n, left⟩ := found
    simp only [hread, Option.map_some, Option.bind_eq_bind, Option.bind_some] at h
    split at h
    · rename_i hblank
      cases h
      rw [eq_nil_of_skipBlanks numeric (readMagnitude?_suffix hread) hblank]
    · cases h

theorem readValue?_stable {x : Float} {rest : List Char} (stable : Stable x) (ends : Ends rest)
    (fuel depth : Nat) :
    readValue? (fuel + 1) depth ((floatText x).toList ++ rest)
      = some (.number (.float x), rest) := by
  simp only [Stable, read?] at stable
  rcases floatText_eq x with hnull | hnumeral | ⟨cs, hcs, hnumeral⟩
  · rw [hnull] at stable
    cases stable
  · cases hcs : (floatText x).toList with
    | nil => simp [hcs, Numeral] at hnumeral
    | cons c cs =>
      rw [hcs] at stable hnumeral
      have hc : c.isDigit = true := hnumeral.1
      rw [readValue?_digit hc] at stable
      have hread := readMagnitude?_append ends (readMagnitude?_of_read? hnumeral.2 stable)
      rw [List.cons_append, readValue?_digit hc, ← List.cons_append, hread]
      rfl
  · rw [hcs] at stable ⊢
    rw [readValue?_minus] at stable
    have hread := readMagnitude?_append ends (readMagnitude?_of_read? hnumeral.2 stable)
    rw [List.cons_append, readValue?_minus, hread]
    rfl

end Widgetry.Json
