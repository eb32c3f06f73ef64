import Widgetry.Proofs.Code.Whole

/-!
The names in a text of code: what is made of the characters of identifiers and stands outside of
strings and comments. The names of two texts one after the other are those of the first and then
those of the second, unless a name goes on from the one to the other.
-/

namespace Widgetry.Code

open Lexer

/-! ## Reading names -/

/-- A character as it is seen: blank inside strings and comments. -/
def shown (mode : Mode) (c : Char) : Char := if mode = .code ∨ mode = .slash then c else ' '

/-- The characters of a text as they are seen, up to the first error. -/
def visible (state : State) : List Char → List Char
  | [] => []
  | c :: rest => shown state.mode c :: ((step state c).map fun next => visible next rest).getD []

/-- The longest stretches of characters of identifiers. -/
def stretches (cs : List Char) : List (List Char) :=
  (cs.splitOnP fun c => !isIdentifierChar c).filter fun word => !word.isEmpty

/-- The names in a text that a reader comes to in some state. -/
def namesFrom (state : State) (cs : List Char) : List String :=
  (stretches (visible state cs)).map String.ofList

/-- The names in a text. -/
def namesIn (text : String) : List String := namesFrom start text.toList

example : namesIn "a.context(\"context\") // context" = ["a", "context"] := by
  decide +kernel

/-! ## Stretches -/

theorem stretches_append_cons {c : Char} (hc : isIdentifierChar c = false)
    (before after : List Char) :
    stretches (before ++ c :: after) = stretches before ++ stretches after := by
  rw [stretches, List.splitOnP_append_cons _ _ (by simp [hc]), List.filter_append]
  rfl

theorem stretches_cons {c : Char} (hc : isIdentifierChar c = false) (after : List Char) :
    stretches (c :: after) = stretches after :=
  stretches_append_cons hc [] after

theorem stretches_eq_nil {cs : List Char} (h : ∀ c ∈ cs, isIdentifierChar c = false) :
    stretches cs = [] := by
  induction cs with
  | nil => rfl
  | cons c rest ih =>
    obtain ⟨hc, hrest⟩ := List.forall_mem_cons.1 h
    rw [stretches_cons hc, ih hrest]

/-- No name goes on from the one text to the other. -/
def Parted (cs ds : List Char) : Prop :=
  (∀ c ∈ cs.getLast?, isIdentifierChar c = false) ∨ ∀ d ∈ ds.head?, isIdentifierChar d = false

theorem Parted.of_left {cs : List Char} (h : ∀ c ∈ cs, isIdentifierChar c = false)
    (ds : List Char) : Parted cs ds :=
  .inl fun c hc => h c (List.mem_of_mem_getLast? hc)

theorem Parted.of_right {ds : List Char} (h : ∀ d ∈ ds, isIdentifierChar d = false)
    (cs : List Char) : Parted cs ds :=
  .inr fun d hd => h d (List.mem_of_mem_head? hd)

theorem stretches_append {cs ds : List Char} (h : Parted cs ds) :
    stretches (cs ++ ds) = stretches cs ++ stretches ds := by
  rcases h with h | h
  · obtain rfl | ⟨before, c, rfl⟩ := List.eq_nil_or_concat' cs
    · rfl
    · have hc := h c List.getLast?_concat
      rw [List.append_assoc, List.singleton_append, stretches_append_cons hc,
        stretches_append_cons hc, List.append_assoc]
      rfl
  · cases ds with
    | nil => simp [stretches]
    | cons d after =>
      have hd := h d rfl
      rw [stretches_append_cons hd, stretches_cons hd]

/-! ## What is seen -/

theorem isIdentifierChar_shown {c : Char} (hc : isIdentifierChar c = false) (mode : Mode) :
    isIdentifierChar (shown mode c) = false := by
  unfold shown
  split
  · exact hc
  · rfl

theorem visible_append {state next : State} {cs : List Char} (h : run state cs = some next)
    (ds : List Char) : visible state (cs ++ ds) = visible state cs ++ visible next ds := by
  induction cs generalizing state with
  | nil =>
    cases h
    rfl
  | cons c rest ih =>
    obtain ⟨middle, hstep, hrun⟩ := Option.bind_eq_some_iff.1 h
    simp only [List.cons_append, visible, hstep, Option.map_some, Option.getD_some, ih hrun]

theorem visible_inside {state next : State} {cs : List Char} (h : run state cs = some next)
    (outer : List Bracket) : visible (state.inside outer) cs = visible state cs := by
  induction cs generalizing state with
  | nil => rfl
  | cons c rest ih =>
    obtain ⟨middle, hstep, hrun⟩ := Option.bind_eq_some_iff.1 h
    simp only [visible, hstep, step_inside outer hstep, Option.map_some, Option.getD_some, ih hrun]
    rfl

theorem Parted.visible {cs ds : List Char} {state next : State} (h : Parted cs ds)
    (hrun : run state cs = some next) : Parted (visible state cs) (visible next ds) := by
  rcases h with h | h
  · left
    obtain rfl | ⟨before, c, rfl⟩ := List.eq_nil_or_concat' cs
    · exact h
    · rw [run_append] at hrun
      obtain ⟨middle, hbefore, hlast⟩ := Option.bind_eq_some_iff.1 hrun
      obtain ⟨after, hstep, -⟩ := Option.bind_eq_some_iff.1 hlast
      have hseen : Code.visible middle [c] = [shown middle.mode c] := by
        simp [Code.visible, hstep]
      rw [visible_append hbefore, hseen, List.getLast?_concat]
      rintro _ ⟨⟩
      exact isIdentifierChar_shown (h c List.getLast?_concat) middle.mode
  · right
    cases ds with
    | nil => exact h
    | cons d rest =>
      rintro _ ⟨⟩
      exact isIdentifierChar_shown (h d rfl) next.mode

theorem namesFrom_append {cs ds : List Char} {state next : State} (hrun : run state cs = some next)
    (h : Parted cs ds) : namesFrom state (cs ++ ds) = namesFrom state cs ++ namesFrom next ds := by
  rw [namesFrom, visible_append hrun, stretches_append (h.visible hrun), List.map_append]
  rfl

theorem WellBracketed.namesFrom_eq {text : String} (h : WellBracketed text)
    (opened : List Bracket) :
    namesFrom ⟨.code, opened⟩ text.toList = namesIn text := by
  have hinside : visible (start.inside opened) text.toList = visible start text.toList :=
    visible_inside h opened
  exact congrArg (fun cs => (stretches cs).map String.ofList) hinside

theorem namesIn_append {text other : String} (h : WellBracketed text)
    (hparted : Parted text.toList other.toList) :
    namesIn (text ++ other) = namesIn text ++ namesIn other := by
  rw [namesIn, String.toList_append]
  exact namesFrom_append h hparted

/-! ## Characters of names -/

theorem mem_of_mem_splitOnP {p : Char → Bool} {cs : List Char} :
    ∀ word ∈ cs.splitOnP p, ∀ c ∈ word, c ∈ cs := by
  induction cs with
  | nil => simp
  | cons d rest ih =>
    have hrest : ∀ word ∈ rest.splitOnP p, ∀ c ∈ word, c ∈ d :: rest := fun word hword c hc =>
      List.mem_cons_of_mem d (ih word hword c hc)
    rw [List.splitOnP_cons_eq_if_modifyHead]
    split
    · exact List.forall_mem_cons.2 ⟨List.forall_mem_nil _, hrest⟩
    · cases hpieces : rest.splitOnP p with
      | nil => exact List.forall_mem_nil _
      | cons first others =>
        rw [hpieces] at hrest
        obtain ⟨hfirst, hothers⟩ := List.forall_mem_cons.1 hrest
        exact List.forall_mem_cons.2 ⟨List.forall_mem_cons.2 ⟨List.mem_cons_self, hfirst⟩, hothers⟩

theorem mem_or_blank_of_mem_visible {state : State} {cs : List Char} {c : Char}
    (h : c ∈ visible state cs) : c ∈ cs ∨ c = ' ' := by
  induction cs generalizing state with
  | nil => cases h
  | cons d rest ih =>
    rw [visible, List.mem_cons] at h
    rcases h with rfl | h
    · unfold shown
      split <;> simp
    · cases hstep : step state d with
      | none => simp [hstep] at h
      | some next =>
        rw [hstep] at h
        exact (ih h).imp_left (List.mem_cons_of_mem d)

/-- A name with a character that a text lacks is not in the text. -/
theorem not_mem_namesIn {name text : String} {c : Char} (hname : c ∈ name.toList) (hc : c ≠ ' ')
    (h : c ∉ text.toList) : name ∉ namesIn text := by
  intro hmem
  obtain ⟨word, hword, rfl⟩ := List.mem_map.1 hmem
  rw [String.toList_ofList] at hname
  have hseen := mem_of_mem_splitOnP word (List.mem_filter.1 hword).1 c hname
  exact (mem_or_blank_of_mem_visible hseen).elim h hc

/-! ## Strings and comments -/

/-- Nothing of the text can be part of a name. -/
def Hidden (state : State) (cs : List Char) : Prop :=
  ∀ c ∈ visible state cs, isIdentifierChar c = false

instance (state : State) (cs : List Char) : Decidable (Hidden state cs) :=
  decidable_of_iff ((visible state cs).all (fun c => !isIdentifierChar c) = true)
    (by simp [Hidden])

theorem Hidden.namesFrom_eq_nil {state : State} {cs : List Char} (h : Hidden state cs) :
    namesFrom state cs = [] := by
  rw [namesFrom, stretches_eq_nil h]
  rfl

theorem Hidden.append {state next : State} {cs ds : List Char} (h : Hidden state cs)
    (hrun : run state cs = some next) (hds : Hidden next ds) : Hidden state (cs ++ ds) := by
  rw [Hidden, visible_append hrun, List.forall_mem_append]
  exact ⟨h, hds⟩

/-- A text without characters of identifiers has no names, wherever it stands. -/
theorem hidden_of_apart {cs : List Char} (h : ∀ c ∈ cs, isIdentifierChar c = false)
    (state : State) : Hidden state cs := by
  induction cs generalizing state with
  | nil => exact List.forall_mem_nil _
  | cons c rest ih =>
    obtain ⟨hc, hrest⟩ := List.forall_mem_cons.1 h
    refine List.forall_mem_cons.2 ⟨isIdentifierChar_shown hc state.mode, ?_⟩
    cases step state c with
    | none => exact List.forall_mem_nil _
    | some next => exact ih hrest next

theorem hidden_escapeChar (quoting : Quoting) (c : Char) (opened : List Bracket) :
    Hidden ⟨.string, opened⟩ (quoting.escapeChar c) := by
  have hblank : isIdentifierChar ' ' = false := rfl
  unfold Quoting.escapeChar
  split_ifs with hbackslash hquote hnewline hreturn
  iterate 6 simp [Hidden, visible, step, shown, isLineEnd, hblank]
  simp [Hidden, visible, step, shown, isLineEnd, hbackslash, hquote, hnewline, hreturn, hblank]

theorem hidden_escape (quoting : Quoting) (text : String) (opened : List Bracket) :
    Hidden ⟨.string, opened⟩ (quoting.escape text).toList := by
  rw [Quoting.escape, String.toList_ofList]
  induction text.toList with
  | nil => exact List.forall_mem_nil _
  | cons c rest ih =>
    rw [List.flatMap_cons]
    exact (hidden_escapeChar quoting c opened).append (run_escapeChar quoting c opened) ih

/-- A reader that stays inside a comment sees nothing of it. -/
theorem hidden_of_steady {state : State} {cs : List Char}
    (hmode : state.mode = .lineComment ∨ state.mode = .blockComment)
    (h : ∀ c ∈ cs, step state c = some state) : Hidden state cs := by
  have hshown : ∀ c, shown state.mode c = ' ' := by
    intro c
    rcases hmode with hmode | hmode <;> simp [shown, hmode]
  induction cs with
  | nil => exact List.forall_mem_nil _
  | cons c rest ih =>
    obtain ⟨hc, hrest⟩ := List.forall_mem_cons.1 h
    rw [Hidden, visible, hc, hshown]
    exact List.forall_mem_cons.2 ⟨rfl, ih hrest⟩

/-- Text between two marks that are no part of a name. -/
theorem namesIn_enclosed {before text after : String} {state : State}
    (hbefore : run start before.toList = some state) (htext : run state text.toList = some state)
    (hopen : Hidden start before.toList) (hclose : Hidden state after.toList) :
    namesIn (before ++ text ++ after) = namesFrom state text.toList := by
  have hrun : run start (before.toList ++ text.toList) = some state := by
    rw [run_append, hbefore, Option.bind_some, htext]
  have hfirst : Parted (visible start before.toList) (visible state text.toList) :=
    .inl fun c hc => hopen c (List.mem_of_mem_getLast? hc)
  have hlast : Parted (visible start (before.toList ++ text.toList)) (visible state after.toList) :=
    .inr fun c hc => hclose c (List.mem_of_mem_head? hc)
  rw [namesIn, namesFrom, String.toList_append, String.toList_append, visible_append hrun,
    stretches_append hlast, visible_append hbefore, stretches_append hfirst, stretches_eq_nil hopen,
    stretches_eq_nil hclose, List.nil_append, List.append_nil]
  rfl

theorem namesIn_quoted (quoting : Quoting) (text : String) :
    namesIn ("\"" ++ quoting.escape text ++ "\"") = [] :=
  (namesIn_enclosed (by decide) (run_escape quoting text []) (by decide +kernel)
    (by decide +kernel)).trans
    (hidden_escape quoting text []).namesFrom_eq_nil

theorem namesIn_note {text : String} (hstar : '*' ∉ text.toList) :
    namesIn ("/* " ++ text ++ " */") = [] := by
  have hsteady : ∀ c ∈ text.toList, step ⟨.blockComment, []⟩ c = some ⟨.blockComment, []⟩ := by
    intro c hc
    have hne : c ≠ '*' := fun heq => hstar (heq ▸ hc)
    simp [step, hne]
  exact (namesIn_enclosed (by decide) (run_blockComment hstar []) (by decide +kernel)
    (by decide +kernel)).trans (hidden_of_steady (.inr rfl) hsteady).namesFrom_eq_nil

theorem namesIn_bracketed {text : String} (bracket : Bracket) (h : WellBracketed text) :
    namesIn (bracket.opening ++ text ++ bracket.closing) = namesIn text :=
  (namesIn_enclosed (run_opening bracket []) (h.run_eq [bracket])
    (by cases bracket <;> decide +kernel) (by cases bracket <;> decide +kernel)).trans
      (h.namesFrom_eq [bracket])

/-! ## Texts without a name -/

theorem complete_iff_check (text : String) :
    Complete text ↔ Complete.check text.toList = true := by
  simp only [Complete.check, Bool.and_eq_true, List.all_eq_true, Bool.not_eq_true',
    decide_eq_true_eq]
  exact ⟨fun h => ⟨h.noLineEnd, h.wellBracketed⟩, fun h => ⟨h.1, h.2⟩⟩

instance (text : String) : Decidable (Complete text) :=
  decidable_of_iff _ (complete_iff_check text).symm

/-- A complete text without a name. -/
def Lacks (name text : String) : Prop := Complete text ∧ name ∉ namesIn text

instance (name text : String) : Decidable (Lacks name text) :=
  inferInstanceAs (Decidable (Complete text ∧ name ∉ namesIn text))

end Widgetry.Code
