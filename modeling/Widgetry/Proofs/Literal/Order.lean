import Mathlib.Data.String.Basic
import Widgetry.Source.Fold

/-!
The order of texts. A text is compared character by character, and measured in units: a character
above the basic plane is a pair of them, and these are smaller than the single units from `0xE000`
on. Main statement: a relational operator tells the order of the units unless the first characters
that differ are such a pair and such a unit; then it tells the opposite.
-/

namespace Widgetry.Literal

open Source (Expr BinaryOp)

/-! ## Units -/

/-- The UTF-16 units of a character. -/
def charUnits (c : Char) : List Nat :=
  if c.toNat < 0x10000 then [c.toNat]
  else [0xD800 + (c.toNat - 0x10000) / 0x400, 0xDC00 + (c.toNat - 0x10000) % 0x400]

/-- The UTF-16 units of a text. -/
def units (text : String) : List Nat := text.toList.flatMap charUnits

theorem charUnits_of_lt {c : Char} (h : c.toNat < 0x10000) : charUnits c = [c.toNat] := if_pos h

theorem charUnits_of_le {c : Char} (h : 0x10000 ≤ c.toNat) :
    charUnits c = [0xD800 + (c.toNat - 0x10000) / 0x400, 0xDC00 + (c.toNat - 0x10000) % 0x400] :=
  if_neg (Nat.not_lt.2 h)

theorem length_charUnits (c : Char) : (charUnits c).length = if c.toNat < 0x10000 then 1 else 2 := by
  by_cases h : c.toNat < 0x10000 <;> simp [charUnits, h]

theorem unitCount_eq_length (text : String) : unitCount text = (units text).length := by
  have hcount : ∀ (cs : List Char) (n : Nat),
      cs.foldl (fun n c => n + if c.toNat < 0x10000 then 1 else 2) n
        = n + (cs.flatMap charUnits).length := by
    intro cs
    induction cs with
    | nil => intro n; rfl
    | cons c rest ih =>
      intro n
      rw [List.foldl_cons, ih, List.flatMap_cons, List.length_append, length_charUnits, Nat.add_assoc]
  rw [unitCount, hcount, Nat.zero_add, units]

/-! ## Crossed texts -/

/-- A character that is a pair of units. -/
def IsPaired (c : Char) : Prop := 0x10000 ≤ c.toNat

/-- A character that is one unit, which is greater than the units of pairs. -/
def IsHigh (c : Char) : Prop := 0xE000 ≤ c.toNat ∧ c.toNat < 0x10000

/-- One of the characters is a pair and the other one is high. -/
def Cross (c d : Char) : Prop := IsHigh c ∧ IsPaired d ∨ IsPaired c ∧ IsHigh d

/-- The first characters that differ cross. -/
inductive Crossed : List Char → List Char → Prop
  | here {c d : Char} {cs ds : List Char} (h : Cross c d) : Crossed (c :: cs) (d :: ds)
  | later {c : Char} {cs ds : List Char} (h : Crossed cs ds) : Crossed (c :: cs) (c :: ds)

theorem not_cross_self (c : Char) : ¬Cross c c := by
  rintro (⟨hhigh, hpaired⟩ | ⟨hpaired, hhigh⟩) <;> exact Nat.not_le.2 hhigh.2 hpaired

theorem Crossed.symm {cs ds : List Char} (h : Crossed cs ds) : Crossed ds cs := by
  induction h with
  | here h => exact .here (h.symm.imp And.symm And.symm)
  | later _ ih => exact .later ih

theorem not_crossed_self (cs : List Char) : ¬Crossed cs cs := by
  induction cs with
  | nil => rintro ⟨⟩
  | cons c rest ih =>
    intro h
    cases h with
    | here h => exact not_cross_self c h
    | later h => exact ih h

/-! ## The order of units -/

theorem char_lt_iff {c d : Char} : c < d ↔ c.toNat < d.toNat := Iff.rfl

theorem char_bounds (c : Char) : c.toNat < 0xD800 ∨ 0xDFFF < c.toNat ∧ c.toNat < 0x110000 := c.valid

theorem charUnits_append_lt_of_cross {c d : Char} (h : Cross c d) (s t : List Nat) :
    charUnits c ++ s < charUnits d ++ t ↔ d < c := by
  have hc := char_bounds c
  have hd := char_bounds d
  rcases h with ⟨⟨hlow, hhigh⟩, hpaired⟩ | ⟨hpaired, hlow, hhigh⟩
  · rw [charUnits_of_lt hhigh, charUnits_of_le hpaired, char_lt_iff]
    simp only [List.cons_append, List.nil_append, List.cons_lt_cons_iff]
    unfold IsPaired at hpaired
    omega
  · rw [charUnits_of_le hpaired, charUnits_of_lt hhigh, char_lt_iff]
    simp only [List.cons_append, List.nil_append, List.cons_lt_cons_iff]
    unfold IsPaired at hpaired
    omega

/-- Characters that differ and do not cross are ordered as their units are. -/
theorem charUnits_append_lt_of_not_cross {c d : Char} (hne : c ≠ d) (h : ¬Cross c d) (s t : List Nat) :
    charUnits c ++ s < charUnits d ++ t ↔ c < d := by
  have hc := char_bounds c
  have hd := char_bounds d
  have hne : c.toNat ≠ d.toNat := fun heq => hne (Char.toNat_inj.1 heq)
  unfold Cross IsHigh IsPaired at h
  rw [char_lt_iff]
  rcases Nat.lt_or_ge c.toNat 0x10000 with hcs | hcp <;>
    rcases Nat.lt_or_ge d.toNat 0x10000 with hds | hdp
  · rw [charUnits_of_lt hcs, charUnits_of_lt hds]
    simp only [List.cons_append, List.nil_append, List.cons_lt_cons_iff]
    omega
  · rw [charUnits_of_lt hcs, charUnits_of_le hdp]
    simp only [List.cons_append, List.nil_append, List.cons_lt_cons_iff]
    omega
  · rw [charUnits_of_le hcp, charUnits_of_lt hds]
    simp only [List.cons_append, List.nil_append, List.cons_lt_cons_iff]
    omega
  · rw [charUnits_of_le hcp, charUnits_of_le hdp]
    simp only [List.cons_append, List.nil_append, List.cons_lt_cons_iff]
    omega

theorem charUnits_ne_nil (c : Char) : charUnits c ≠ [] := by
  intro h
  have hlength := length_charUnits c
  rw [h] at hlength
  split at hlength <;> cases hlength

theorem append_lt_append_iff (front s t : List Nat) : front ++ s < front ++ t ↔ s < t := by
  induction front with
  | nil => rfl
  | cons n rest ih => simp [ih]

theorem flatMap_lt_of_crossed {cs ds : List Char} (h : Crossed cs ds) :
    cs.flatMap charUnits < ds.flatMap charUnits ↔ ds < cs := by
  induction h with
  | @here c d cs ds h =>
    have hne : d ≠ c := by
      rintro rfl
      exact not_cross_self d h
    rw [List.flatMap_cons, List.flatMap_cons, charUnits_append_lt_of_cross h, List.cons_lt_cons_iff]
    simp [hne]
  | @later c cs ds _ ih =>
    rw [List.flatMap_cons, List.flatMap_cons, append_lt_append_iff, ih, List.cons_lt_cons_iff]
    simp

theorem flatMap_lt_of_not_crossed {cs ds : List Char} (h : ¬Crossed cs ds) :
    cs.flatMap charUnits < ds.flatMap charUnits ↔ cs < ds := by
  induction cs generalizing ds with
  | nil =>
    cases ds with
    | nil => simp
    | cons d ds =>
      obtain ⟨n, rest, hunits⟩ := List.exists_cons_of_ne_nil (charUnits_ne_nil d)
      simp [List.flatMap_cons, hunits]
  | cons c cs ih =>
    cases ds with
    | nil => simp
    | cons d ds =>
      rw [List.flatMap_cons, List.flatMap_cons, List.cons_lt_cons_iff]
      by_cases heq : c = d
      · subst heq
        rw [append_lt_append_iff, ih fun hlater => h (.later hlater)]
        simp
      · rw [charUnits_append_lt_of_not_cross heq fun hcross => h (.here hcross)]
        simp [heq]

theorem units_lt_of_crossed {a b : String} (h : Crossed a.toList b.toList) :
    units a < units b ↔ b < a := by
  rw [units, units, flatMap_lt_of_crossed h, String.lt_iff_toList_lt]

theorem units_lt_of_not_crossed {a b : String} (h : ¬Crossed a.toList b.toList) :
    units a < units b ↔ a < b := by
  rw [units, units, flatMap_lt_of_not_crossed h, String.lt_iff_toList_lt]

/-! ## Relational operators -/

inductive Relation where
  | less
  | greater
  | lessOrEqual
  | greaterOrEqual

namespace Relation

def op : Relation → BinaryOp
  | .less => .less
  | .greater => .greater
  | .lessOrEqual => .lessOrEqual
  | .greaterOrEqual => .greaterOrEqual

/-- Whether two things stand in the relation; what is not greater is less or equal. -/
def holds {α : Type} [LT α] [DecidableLT α] (x y : α) : Relation → Bool
  | .less => x < y
  | .greater => y < x
  | .lessOrEqual => !decide (y < x)
  | .greaterOrEqual => !decide (x < y)

end Relation

theorem compare?_strings (a b : String) :
    compare? (.string a) (.string b)
      = some (if a < b then .lt else if b < a then .gt else .eq) := by
  rcases lt_trichotomy a b with h | rfl | h
  · simp [compare?, h]
  · simp [compare?]
  · simp [compare?, h, h.not_gt, h.ne']

theorem binary?_relation (a b : String) (relation : Relation) :
    binary? relation.op (.string a) (.string b) = some (.bool (relation.holds a b)) := by
  rcases lt_trichotomy a b with h | rfl | h
  · cases relation <;> simp [Relation.op, Relation.holds, binary?, compare?_strings, h, h.not_gt]
  · cases relation <;> simp [Relation.op, Relation.holds, binary?, compare?_strings]
  · cases relation <;> simp [Relation.op, Relation.holds, binary?, compare?_strings, h, h.not_gt]

/-- The texts tell a relation of their units, unless they are crossed. -/
theorem holds_eq_holds_units_iff (a b : String) (relation : Relation) :
    relation.holds a b = relation.holds (units a) (units b) ↔ ¬Crossed a.toList b.toList := by
  by_cases hcrossed : Crossed a.toList b.toList
  · refine iff_of_false ?_ (not_not_intro hcrossed)
    have hless := units_lt_of_crossed hcrossed
    have hgreater := units_lt_of_crossed hcrossed.symm
    rcases lt_trichotomy a b with h | rfl | h
    · cases relation <;> simp [Relation.holds, hless, hgreater, h, h.not_gt]
    · exact absurd hcrossed (not_crossed_self _)
    · cases relation <;> simp [Relation.holds, hless, hgreater, h, h.not_gt]
  · refine iff_of_true ?_ hcrossed
    have hless := units_lt_of_not_crossed hcrossed
    have hgreater := units_lt_of_not_crossed fun h => hcrossed h.symm
    cases relation <;> simp only [Relation.holds, hless, hgreater]

/-- Relational operators on texts. They always have a value, and it is what the units of the texts say
if and only if the first characters that differ are not a pair of units and a unit that is greater
than those of pairs. The length of a text counts the same units. -/
theorem fold?_relation_iff (scope : Scope) (left right : Expr) (a b : String)
    (hleft : left.fold? scope = some (.string a)) (hright : right.fold? scope = some (.string b)) :
    (Expr.member left "length").fold? scope = some (.number (units a).length.toFloat) ∧
    ∀ relation : Relation, ∃ answer,
      (Expr.binary relation.op left right).fold? scope = some (.bool answer) ∧
      (answer = relation.holds (units a) (units b) ↔ ¬Crossed a.toList b.toList) := by
  refine ⟨?_, fun relation => ⟨relation.holds a b, ?_, holds_eq_holds_units_iff a b relation⟩⟩
  · rw [Expr.fold?, hleft, ← unitCount_eq_length]
    rfl
  · rw [Expr.fold?, hleft, hright]
    exact binary?_relation a b relation

/-- A character of the private use area and a pair: the pair has the smaller unit, and yet the text
with it counts as the greater one. -/
theorem fold?_relation_private :
    let fold (relation : Relation) :=
      (Expr.binary relation.op (.string "\ue000") (.string "😀")).fold? {}
    Crossed "\ue000".toList "😀".toList ∧
    units "\ue000" = [0xE000] ∧ units "😀" = [0xD83D, 0xDE00] ∧ fold .less = some (.bool true) ∧
    ∀ relation : Relation, ∃ answer, fold relation = some (.bool answer) ∧
      answer ≠ relation.holds (units "\ue000") (units "😀") := by
  have hcrossed : Crossed "\ue000".toList "😀".toList :=
    .here (.inl ⟨by unfold IsHigh; decide, by unfold IsPaired; decide⟩)
  refine ⟨hcrossed, by decide, by decide, rfl, fun relation => ?_⟩
  obtain ⟨answer, hanswer, hiff⟩ :=
    (fold?_relation_iff {} (.string "\ue000") (.string "😀") _ _ rfl rfl).2 relation
  exact ⟨answer, hanswer, fun heq => hiff.1 heq hcrossed⟩

end Widgetry.Literal
