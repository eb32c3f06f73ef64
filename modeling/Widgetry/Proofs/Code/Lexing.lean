import Mathlib.Data.Option.Basic
import Mathlib.Tactic.SplitIfs
import Widgetry.Code.Basic

/-!
Reading code for its brackets. A reader knows strings in double quotes with backslashes inside, line
comments and block comments; all other brackets have to match. A string ends on the line on which it
starts.
-/

namespace Widgetry.Code

namespace Lexer

/-- What the next character of a text stands in. -/
inductive Mode where
  | code
  /-- Behind a slash, which may open a comment. -/
  | slash
  | string
  /-- Behind a backslash inside a string. -/
  | escape
  | lineComment
  | blockComment
  /-- Behind a star inside a block comment, which may close it. -/
  | star
deriving DecidableEq, Repr

/-- Where a reader stands, with the brackets that are open, the innermost first. -/
structure State where
  mode : Mode
  opened : List Bracket
deriving DecidableEq, Repr

def start : State := ⟨.code, []⟩

def opens? : Char → Option Bracket
  | '(' => some .round
  | '[' => some .square
  | '\x7b' => some .curly
  | _ => none

def closes? : Char → Option Bracket
  | ')' => some .round
  | ']' => some .square
  | '\x7d' => some .curly
  | _ => none

def isLineEnd (c : Char) : Bool := c = '\n' || c = '\r'

/-- A character outside of strings and comments. A bracket closes only the innermost open one. -/
def stepCode (opened : List Bracket) (c : Char) : Option State :=
  if c = '"' then some ⟨.string, opened⟩
  else if c = '/' then some ⟨.slash, opened⟩
  else
    match opens? c, closes? c, opened with
    | some bracket, _, opened => some ⟨.code, bracket :: opened⟩
    | none, none, opened => some ⟨.code, opened⟩
    | none, some bracket, innermost :: outer =>
      if innermost = bracket then some ⟨.code, outer⟩ else none
    | none, some _, [] => none

/-- Reads one character; a line end inside a string is an error, as is a bracket that does not
match. -/
def step (state : State) (c : Char) : Option State :=
  let go (mode : Mode) : Option State := some ⟨mode, state.opened⟩
  match state.mode with
  | .code => stepCode state.opened c
  | .slash =>
    if c = '/' then go .lineComment
    else if c = '*' then go .blockComment
    else stepCode state.opened c
  | .string =>
    if isLineEnd c then none
    else if c = '"' then go .code
    else if c = '\\' then go .escape
    else go .string
  | .escape => if isLineEnd c then none else go .string
  | .lineComment => go (if isLineEnd c then .code else .lineComment)
  | .blockComment => go (if c = '*' then .star else .blockComment)
  | .star => go (if c = '/' then .code else if c = '*' then .star else .blockComment)

def run (state : State) : List Char → Option State
  | [] => some state
  | c :: rest => (step state c).bind fun next => run next rest

theorem run_append (cs ds : List Char) (state : State) :
    run state (cs ++ ds) = (run state cs).bind fun next => run next ds := by
  induction cs generalizing state with
  | nil => rfl
  | cons c cs ih => simp only [List.cons_append, run, ih, Option.bind_assoc]

/-! ## Brackets further out -/

/-- The state with more brackets open around it. -/
def State.inside (state : State) (outer : List Bracket) : State :=
  ⟨state.mode, state.opened ++ outer⟩

theorem stepCode_inside {opened : List Bracket} {c : Char} {next : State} (outer : List Bracket)
    (h : stepCode opened c = some next) :
    stepCode (opened ++ outer) c = some (next.inside outer) := by
  unfold stepCode at h ⊢
  split at h
  · cases h
    rw [if_pos ‹_›]
    rfl
  · rw [if_neg ‹_›]
    split at h
    · cases h
      rw [if_pos ‹_›]
      rfl
    · rw [if_neg ‹_›]
      generalize opens? c = opening at h ⊢
      generalize closes? c = closing at h ⊢
      cases opening with
      | some bracket =>
        cases h
        rfl
      | none =>
        cases closing with
        | none =>
          cases h
          rfl
        | some bracket =>
          cases opened with
          | nil => cases h
          | cons innermost rest =>
            simp only [List.cons_append] at h ⊢
            split at h
            · cases h
              rw [if_pos ‹_›]
              rfl
            · cases h

theorem step_inside {state next : State} {c : Char} (outer : List Bracket)
    (h : step state c = some next) : step (state.inside outer) c = some (next.inside outer) := by
  obtain ⟨mode, opened⟩ := state
  cases mode with
  | code => exact stepCode_inside outer h
  | slash =>
    simp only [step, State.inside] at h ⊢
    split at h
    · cases h
      rw [if_pos ‹_›]
    · rw [if_neg ‹_›]
      split at h
      · cases h
        rw [if_pos ‹_›]
      · rw [if_neg ‹_›]
        exact stepCode_inside outer h
  | string =>
    simp only [step, State.inside] at h ⊢
    split at h
    · cases h
    · rw [if_neg ‹_›]
      split_ifs at h ⊢ <;> cases h <;> rfl
  | escape =>
    simp only [step, State.inside] at h ⊢
    split at h
    · cases h
    · cases h
      rw [if_neg ‹_›]
  | lineComment | blockComment | star =>
    cases h
    rfl

/-- Reading text never looks at brackets that it does not close itself. -/
theorem run_inside {state next : State} {cs : List Char} (outer : List Bracket)
    (h : run state cs = some next) : run (state.inside outer) cs = some (next.inside outer) := by
  induction cs generalizing state with
  | nil =>
    cases h
    rfl
  | cons c cs ih =>
    obtain ⟨middle, hstep, hrun⟩ := Option.bind_eq_some_iff.1 h
    rw [run, step_inside outer hstep, Option.bind_some]
    exact ih hrun

theorem run_opening (bracket : Bracket) (opened : List Bracket) :
    run ⟨.code, opened⟩ bracket.opening.toList = some ⟨.code, bracket :: opened⟩ := by
  cases bracket <;> rfl

theorem run_closing (bracket : Bracket) (opened : List Bracket) :
    run ⟨.code, bracket :: opened⟩ bracket.closing.toList = some ⟨.code, opened⟩ := by
  cases bracket <;> rfl

/-- The characters that a reader of brackets stops at. -/
def special : List Char := ['\n', '\r', '"', '/', '(', ')', '[', ']', '\x7b', '\x7d']

theorem step_of_not_special {c : Char} (h : c ∉ special) : step start c = some start := by
  have hopens : opens? c = none := by
    unfold opens?
    split <;> simp_all [special]
  have hcloses : closes? c = none := by
    unfold closes?
    split <;> simp_all [special]
  have hquote : c ≠ '"' := fun heq => h (by simp [heq, special])
  have hslash : c ≠ '/' := fun heq => h (by simp [heq, special])
  simp [step, start, stepCode, hquote, hslash, hopens, hcloses]

end Lexer

open Lexer

/-! ## Whole texts -/

/-- Text whose strings end on their lines, whose comments end, and whose brackets match. -/
def WellBracketed (text : String) : Prop := run start text.toList = some start

instance (text : String) : Decidable (WellBracketed text) :=
  inferInstanceAs (Decidable (run start text.toList = some start))

/-- A part of a line that can stand anywhere in code. -/
structure Complete (text : String) : Prop where
  noLineEnd : ∀ c ∈ text.toList, isLineEnd c = false
  wellBracketed : WellBracketed text

/-- Whatever is open around a well-bracketed text is open behind it. -/
theorem WellBracketed.run_eq {text : String} (h : WellBracketed text) (opened : List Bracket) :
    run ⟨.code, opened⟩ text.toList = some ⟨.code, opened⟩ :=
  run_inside opened h

namespace Complete

/-- The two parts of `Complete`, computed for the characters of a text. -/
def check (cs : List Char) : Bool := (cs.all fun c => !isLineEnd c) && run start cs = some start

/-- Texts that are written out are read by computation. -/
theorem literal {cs : List Char} (h : check cs = true) : Complete (String.ofList cs) := by
  simp only [check, Bool.and_eq_true, List.all_eq_true, Bool.not_eq_true', decide_eq_true_eq] at h
  refine ⟨?_, ?_⟩
  · rw [String.toList_ofList]
    exact h.1
  · rw [WellBracketed, String.toList_ofList]
    exact h.2

theorem empty : Complete "" := .literal rfl

theorem append {text other : String} (h : Complete text) (hother : Complete other) :
    Complete (text ++ other) where
  noLineEnd := by
    rw [String.toList_append, List.forall_mem_append]
    exact ⟨h.noLineEnd, hother.noLineEnd⟩
  wellBracketed := by
    rw [WellBracketed, String.toList_append, run_append, h.wellBracketed, Option.bind_some]
    exact hother.wellBracketed

/-- Text of one kind of characters, as long as no special one is of that kind. -/
theorem of_kind {text : String} (kind : Char → Bool) (apart : special.any kind = false)
    (h : ∀ c ∈ text.toList, kind c = true) : Complete text := by
  have hplain : ∀ c ∈ text.toList, c ∉ special := fun c hc hmem =>
    absurd (h c hc) (List.any_eq_false.1 apart c hmem)
  refine ⟨fun c hc => ?_, ?_⟩
  · have hc := hplain c hc
    simp only [special, List.mem_cons, not_or] at hc
    simp [isLineEnd, hc.1, hc.2.1]
  · rw [WellBracketed]
    generalize text.toList = cs at hplain
    induction cs with
    | nil => rfl
    | cons c cs ih =>
      obtain ⟨hc, hcs⟩ := List.forall_mem_cons.1 hplain
      rw [run, step_of_not_special hc, Option.bind_some, ih hcs]

/-- Text between two marks. The first mark brings the reader to a state in which it stays for the
text, and the second brings it back. -/
theorem enclosed {before text after : String} {state : State}
    (hbefore : run start before.toList = some state) (htext : run state text.toList = some state)
    (hafter : run state after.toList = some start)
    (hmarks : (before.toList ++ after.toList).any isLineEnd = false)
    (hlines : ∀ c ∈ text.toList, isLineEnd c = false) : Complete (before ++ text ++ after) where
  noLineEnd := by
    have hends : ∀ c ∈ before.toList ++ after.toList, isLineEnd c = false := fun c hc =>
      Bool.eq_false_iff.2 (List.any_eq_false.1 hmarks c hc)
    rw [List.forall_mem_append] at hends
    rw [String.toList_append, String.toList_append, List.forall_mem_append, List.forall_mem_append]
    exact ⟨⟨hends.1, hlines⟩, hends.2⟩
  wellBracketed := by
    rw [WellBracketed, String.toList_append, String.toList_append, run_append, run_append, hbefore,
      Option.bind_some, htext, Option.bind_some, hafter]

theorem bracketed {text : String} (bracket : Bracket) (h : Complete text) :
    Complete (bracket.opening ++ text ++ bracket.closing) :=
  enclosed (run_opening bracket []) (h.wellBracketed.run_eq [bracket]) (run_closing bracket [])
    (by cases bracket <;> rfl) h.noLineEnd

end Complete

/-! ## Quoted text -/

/-- A character inside quotes, escaped where it has to be, leaves the reader inside them. -/
theorem run_escapeChar (quoting : Quoting) (c : Char) (opened : List Bracket) :
    run ⟨.string, opened⟩ (quoting.escapeChar c) = some ⟨.string, opened⟩ := by
  unfold Quoting.escapeChar
  split_ifs with hbackslash hquote hnewline hreturn
  -- An escaped character is read as a pair.
  iterate 6 rfl
  simp [run, step, isLineEnd, hbackslash, hquote, hnewline, hreturn]

theorem run_escape (quoting : Quoting) (text : String) (opened : List Bracket) :
    run ⟨.string, opened⟩ (quoting.escape text).toList = some ⟨.string, opened⟩ := by
  rw [Quoting.escape, String.toList_ofList]
  induction text.toList with
  | nil => rfl
  | cons c cs ih => rw [List.flatMap_cons, run_append, run_escapeChar, Option.bind_some, ih]

theorem noLineEnd_escapeChar (quoting : Quoting) (c : Char) :
    ∀ d ∈ quoting.escapeChar c, isLineEnd d = false := by
  unfold Quoting.escapeChar
  split_ifs with hbackslash hquote hnewline hreturn
  iterate 6 simp [isLineEnd]
  simp [isLineEnd, hnewline, hreturn]

theorem noLineEnd_escape (quoting : Quoting) (text : String) :
    ∀ c ∈ (quoting.escape text).toList, isLineEnd c = false := by
  rw [Quoting.escape, String.toList_ofList, List.forall_mem_flatMap]
  exact fun c _ => noLineEnd_escapeChar quoting c

theorem Complete.quoted (quoting : Quoting) (text : String) :
    Complete ("\"" ++ quoting.escape text ++ "\"") :=
  enclosed (by decide) (run_escape quoting text []) (by decide) (by decide)
    (noLineEnd_escape quoting text)

-- A quote inside a text ends it unless it is escaped.
example : WellBracketed "Text(\"a\\\" (\")" ∧ ¬ WellBracketed "Text(\"a\" (\")" := by decide

/-! ## Notes -/

theorem run_blockComment {cs : List Char} (h : '*' ∉ cs) (opened : List Bracket) :
    run ⟨.blockComment, opened⟩ cs = some ⟨.blockComment, opened⟩ := by
  induction cs with
  | nil => rfl
  | cons c cs ih =>
    obtain ⟨hc, hcs⟩ := not_or.1 (List.mem_cons.not.1 h)
    have hstep : step ⟨.blockComment, opened⟩ c = some ⟨.blockComment, opened⟩ := by
      simp [step, Ne.symm hc]
    rw [run, hstep, Option.bind_some, ih hcs]

/-- A note ends where it should when no star stands in it. -/
theorem Complete.note {text : String} (hstar : '*' ∉ text.toList)
    (hline : ∀ c ∈ text.toList, isLineEnd c = false) : Complete ("/* " ++ text ++ " */") :=
  enclosed (by decide) (run_blockComment hstar []) (by decide) (by decide) hline

end Widgetry.Code
