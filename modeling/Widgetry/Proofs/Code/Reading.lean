import Widgetry.Proofs.Bag.Sorted
import Widgetry.Proofs.Code.Whole
import Widgetry.Text.Blank

/-!
Reading the shape of a tree back from code. A line shows a primitive when it starts with the name
that the language has for it, and how deep the primitive stands is seen from the blanks before it.
-/

namespace Widgetry.Code

/-! ## Reading -/

/-- The lines of a text, without their ends. A text that ends with a line end has no line behind it,
and a carriage return stays on its line, where it is neither part of a name nor before one. -/
def textLines : List Char → List (List Char)
  | [] => []
  | c :: rest =>
    if c = '\n' then [] :: textLines rest
    else
      match textLines rest with
      | [] => [[c]]
      | first :: others => (c :: first) :: others

def isNameChar (c : Char) : Bool := c.isAlphanum || c = '.' || c = '_'

/-- The name that a line starts with, behind its blanks. -/
def leadingName (line : List Char) : String :=
  String.ofList ((line.dropWhile Text.isBlank).takeWhile isNameChar)

/-- The number of bytes that the blanks before a line take. -/
def indent (line : List Char) : Nat := ((line.takeWhile Text.isBlank).map Char.utf8Size).sum

/-- The primitive that a line shows, with its indent. -/
def shown? (names : Bag String) (line : List Char) : Option (String × Nat) :=
  (Bag.find? (leadingName line) names).map fun primitive => (primitive, indent line)

/-- Depths in steps of four, counted from the first primitive. None may stand left of it. -/
def depths? : List (String × Nat) → Option (List (String × Nat))
  | [] => some []
  | (primitive, first) :: rest =>
    ((primitive, first) :: rest).mapM fun shown =>
      if shown.2 < first then none else some (shown.1, (shown.2 - first) / 4)

/-- The primitives that a text shows with their depths, in order. -/
def readDigest (names : Bag String) (text : String) : Option (List (String × Nat)) :=
  depths? ((textLines text.toList).filterMap (shown? names))

/-! ## Lines -/

theorem textLines_cons {line : List Char} (h : '\n' ∉ line) (rest : List Char) :
    textLines (line ++ '\n' :: rest) = line :: textLines rest := by
  induction line with
  | nil => simp [textLines]
  | cons c line ih =>
    obtain ⟨hc, hline⟩ := not_or.1 (List.mem_cons.not.1 h)
    rw [List.cons_append, textLines, if_neg (Ne.symm hc), ih hline]

theorem textLines_characters {lines : List Line} (h : ∀ line ∈ lines, line.Unbroken) :
    textLines (characters lines) = lines.map Line.content := by
  induction lines with
  | nil => rfl
  | cons line rest ih =>
    obtain ⟨hline, hrest⟩ := List.forall_mem_cons.1 h
    rw [characters_cons, textLines_cons hline.not_mem_content, ih hrest, List.map_cons]

/-- What the lines of some code show. -/
def marks (names : Bag String) (quoting : Quoting) (level : Nat) (code : List Code) :
    List (String × Nat) :=
  (linesOfAll quoting level code).filterMap fun line => shown? names line.content

theorem readDigest_print (names : Bag String) (quoting : Quoting) {code : List Code}
    (h : ∀ part ∈ code, Whole part) :
    readDigest names (print quoting code) = depths? (marks names quoting 0 code) := by
  rw [readDigest, toList_print,
    textLines_characters (unbroken_linesOfAll quoting 0 code ((allWhole_iff code).2 h)), marks,
    List.filterMap_map]
  rfl

/-! ## The start of a line -/

theorem eq_blank_of_mem_indentation {level : Nat} :
    ∀ c ∈ (indentation level).toList, c = ' ' := by
  induction level with
  | zero => simp [indentation]
  | succ level ih => simpa [indentation] using ih

theorem length_indentation (level : Nat) : (indentation level).toList.length = 4 * level := by
  induction level with
  | zero => rfl
  | succ level ih =>
    rw [indentation, String.toList_append, List.length_append, ih]
    simp only [String.reduceToList, List.length_cons, List.length_nil]
    omega

theorem leadingName_content (line : Line) :
    leadingName line.content = leadingName line.text.toList := by
  rw [Line.content]
  split
  · rename_i hempty
    rw [String.isEmpty_iff.1 hempty]
    rfl
  · rw [String.toList_append, leadingName, List.dropWhile_append_of_pos, leadingName]
    intro c hc
    rw [eq_blank_of_mem_indentation c hc]
    rfl

/-- A text whose first character is not blank. -/
def Flush (text : String) : Prop := ∃ c rest, text.toList = c :: rest ∧ Text.isBlank c = false

theorem indent_content {level : Nat} {text : String} (h : Flush text) :
    indent (Line.content ⟨level, text⟩) = 4 * level := by
  obtain ⟨c, rest, htext, hc⟩ := h
  have hne : ¬ text.isEmpty = true := by
    rw [String.isEmpty_iff]
    rintro rfl
    cases htext
  have hblank : ∀ d ∈ (indentation level).toList, Text.isBlank d = true := fun d hd => by
    rw [eq_blank_of_mem_indentation d hd]
    rfl
  have hsize : (indentation level).toList.map Char.utf8Size
      = List.replicate (4 * level) 1 := by
    rw [List.eq_replicate_iff, List.length_map, length_indentation, List.forall_mem_map]
    refine ⟨rfl, fun d hd => ?_⟩
    rw [eq_blank_of_mem_indentation d hd]
    rfl
  rw [Line.content, if_neg hne, String.toList_append, htext, indent,
    List.takeWhile_append_of_pos hblank, List.takeWhile_cons_of_neg (by simp [hc]), List.append_nil,
    hsize, List.sum_replicate, smul_eq_mul, mul_one]

theorem shown?_of_flush (names : Bag String) {level : Nat} {text : String} (h : Flush text) :
    shown? names (Line.content ⟨level, text⟩)
      = (Bag.find? (leadingName text.toList) names).map fun primitive => (primitive, 4 * level) := by
  rw [shown?, leadingName_content, indent_content h]

/-- The text starts with the name, and the name ends there. -/
def Opens (name text : String) : Prop :=
  ∃ c rest, text.toList = name.toList ++ c :: rest ∧ isNameChar c = false

/-- A name as lines can start with it. -/
def IsName (name : String) : Prop := name ≠ "" ∧ name.toList.all isNameChar = true

instance (name : String) : Decidable (IsName name) := inferInstanceAs (Decidable (_ ∧ _))

theorem not_isBlank_of_isNameChar {c : Char} (h : isNameChar c = true) : Text.isBlank c = false := by
  have hrange : 45 < c.toNat ∧ c.toNat < 0x85 := by
    simp only [isNameChar, Char.isAlphanum, Char.isAlpha, Char.isUpper, Char.isLower, Char.isDigit,
      Bool.or_eq_true, Bool.and_eq_true, decide_eq_true_eq, ge_iff_le, UInt32.le_iff_toNat_le] at h
    rcases h with (h | rfl) | rfl
    · simp only [Char.reduceVal, UInt32.reduceToNat, Char.toNat_val] at h
      omega
    · decide
    · decide
  rw [Bool.eq_false_iff]
  simp only [Text.isBlank, Ne, Bool.or_eq_true, Bool.and_eq_true, decide_eq_true_eq]
  omega

namespace Opens

variable {name text : String}

theorem append (h : Opens name text) (more : String) : Opens name (text ++ more) := by
  obtain ⟨c, rest, htext, hc⟩ := h
  exact ⟨c, rest ++ more.toList, by rw [String.toList_append, htext]; simp, hc⟩

theorem cons_word (h : Opens name text) (quoting : Quoting) (rest : Phrase) :
    Opens name (Phrase.phraseText quoting (.word text :: rest)) :=
  h.append (Phrase.phraseText quoting rest)

/-- A call starts with the name of what is called. -/
theorem call (name : String) (quoting : Quoting) (inner rest : Phrase) :
    Opens name (Phrase.phraseText quoting (.word name :: .group .round inner :: rest)) := by
  refine ⟨'(', (Phrase.phraseText quoting inner).toList ++ ')' ::
    (Phrase.phraseText quoting rest).toList, ?_, by decide⟩
  simp [Phrase.phraseText, Phrase.fragmentText, Bracket.opening, Bracket.closing]

theorem flush (h : Opens name text) (hname : IsName name) : Flush text := by
  obtain ⟨c, rest, htext, -⟩ := h
  obtain ⟨hne, hall⟩ := hname
  cases hchars : name.toList with
  | nil => exact absurd (String.toList_eq_nil_iff.1 hchars) hne
  | cons first others =>
    rw [hchars] at hall htext
    exact ⟨first, _, htext, not_isBlank_of_isNameChar (List.all_eq_true.1 hall first (by simp))⟩

theorem leadingName (h : Opens name text) (hname : IsName name) :
    leadingName text.toList = name := by
  obtain ⟨d, others, hflush, hd⟩ := h.flush hname
  obtain ⟨c, rest, htext, hc⟩ := h
  have hdrop : text.toList.dropWhile Text.isBlank = text.toList := by
    rw [hflush, List.dropWhile_cons_of_neg (by simp [hd])]
  rw [Code.leadingName, hdrop, htext, List.takeWhile_append_of_pos (List.all_eq_true.1 hname.2),
    List.takeWhile_cons_of_neg (by simp [hc]), List.append_nil, String.ofList_toList]

end Opens

/-! ## What a line shows -/

/-- What a line shows, if anything. -/
def mark (names : Bag String) (level : Nat) (text : String) : List (String × Nat) :=
  (shown? names (Line.content ⟨level, text⟩)).toList

section Mark

variable {names : Bag String} {name primitive text : String}

theorem mark_of_find? (hfind : Bag.find? (leadingName text.toList) names = some primitive)
    (h : Flush text) (level : Nat) : mark names level text = [(primitive, 4 * level)] := by
  rw [mark, shown?_of_flush names h, hfind, Option.map_some, Option.toList_some]

theorem mark_eq_nil (hfind : Bag.find? (leadingName text.toList) names = none) (level : Nat) :
    mark names level text = [] := by
  rw [mark, shown?, leadingName_content, hfind, Option.map_none, Option.toList_none]

theorem Opens.mark (h : Opens name text) (hname : IsName name)
    (hfind : Bag.find? name names = some primitive) (level : Nat) :
    mark names level text = [(primitive, 4 * level)] :=
  mark_of_find? (by rw [h.leadingName hname, hfind]) (h.flush hname) level

theorem Opens.mark_eq_nil (h : Opens name text) (hname : IsName name)
    (hfind : Bag.find? name names = none) (level : Nat) : Code.mark names level text = [] :=
  Code.mark_eq_nil (by rw [h.leadingName hname, hfind]) level

/-- All names of primitives start with letters. -/
def Lettered (names : Bag String) : Prop :=
  ∀ name ∈ names.names, name.toList.head?.any Char.isAlpha = true

/-- A line that starts with a sign, such as a dot, a bracket or a comment, shows no primitive. -/
theorem mark_of_sign (lettered : Lettered names) {c : Char} (hhead : text.toList.head? = some c)
    (hblank : Text.isBlank c = false) (hc : c.isAlpha = false) (level : Nat) :
    mark names level text = [] := by
  obtain ⟨rest, htext⟩ := List.head?_eq_some_iff.1 hhead
  have hname : (leadingName text.toList).toList.head?.any Char.isAlpha = false := by
    rw [leadingName, htext, List.dropWhile_cons_of_neg (by simp [hblank]), String.toList_ofList,
      List.takeWhile_cons]
    split
    · exact hc
    · rfl
  refine mark_eq_nil (Bag.find?_eq_none_iff.2 fun hmem => ?_) level
  have hletter := lettered _ hmem
  rw [hname] at hletter
  cases hletter

theorem mark_empty (lettered : Lettered names) (level : Nat) : mark names level "" = [] :=
  mark_eq_nil (Bag.find?_eq_none_iff.2 fun hmem => by cases lettered _ hmem) level

theorem mark_closing (lettered : Lettered names) (bracket : Bracket) (after : String) (level : Nat) :
    mark names level (bracket.closing ++ after) = [] := by
  cases bracket <;>
    exact mark_of_sign lettered (by rw [String.toList_append]; rfl) (by decide) (by decide) level

end Mark

/-! ## What code shows -/

section Marks

variable {names : Bag String} {quoting : Quoting} {level : Nat}

theorem marks_eq (code : List Code) : marks names quoting level code
    = (linesOfAll quoting level code).flatMap fun line => mark names line.level line.text := by
  rw [marks, List.filterMap_eq_flatMap_toList]
  rfl

theorem marks_append (code other : List Code) : marks names quoting level (code ++ other)
    = marks names quoting level code ++ marks names quoting level other := by
  rw [marks_eq, marks_eq, marks_eq, linesOfAll_append, List.flatMap_append]

theorem marks_cons (part : Code) (rest : List Code) : marks names quoting level (part :: rest)
    = marks names quoting level [part] ++ marks names quoting level rest :=
  marks_append [part] rest

theorem marks_line (phrase : Phrase) : marks names quoting level [.line phrase]
    = mark names level (Phrase.phraseText quoting phrase) := by
  simp [marks_eq, linesOfAll, lines]

theorem marks_say (text : String) : marks names quoting level [say text] = mark names level text := by
  simp [marks_eq, linesOfAll]

theorem marks_blank (lettered : Lettered names) : marks names quoting level [.blank] = [] := by
  simp [marks_eq, linesOfAll, lines, mark_empty lettered]

theorem marks_remark (lettered : Lettered names) (text : String) :
    marks names quoting level [.remark text] = [] := by
  have hmark : mark names level ("// " ++ oneLine text) = [] :=
    mark_of_sign lettered (by rw [String.toList_append]; rfl) (by decide) (by decide) level
  simp [marks_eq, linesOfAll, lines, hmark]

/-- The code that a section holds. -/
def sectionBody : CodeSection → List Code
  | .mk _ _ body => body

theorem marks_sections (lettered : Lettered names) (bracket : Bracket)
    (sections : List CodeSection) :
    (linesOfSections quoting level bracket sections).flatMap
        (fun line => mark names line.level line.text)
      = marks names quoting (level + 1) (sections.flatMap sectionBody) := by
  induction sections with
  | nil =>
    have hclosing : mark names level bracket.closing = [] := by
      simpa using mark_closing lettered bracket "" level
    simp only [linesOfSections, List.flatMap_cons, List.flatMap_nil, hclosing, List.append_nil]
    rfl
  | cons part rest ih =>
    obtain ⟨head, lead, body⟩ := part
    -- A section starts with the bracket that it closes.
    have hopening : mark names level
        (bracket.closing ++ Phrase.phraseText quoting head ++ bracket.opening ++ lead) = [] := by
      rw [String.append_assoc, String.append_assoc]
      exact mark_closing lettered bracket _ level
    rw [linesOfSections, List.flatMap_cons, hopening, List.nil_append, List.flatMap_append, ih,
      ← marks_eq, List.flatMap_cons, marks_append, sectionBody]

/-- A block shows what its first line, its body and the bodies of its sections show. -/
theorem marks_block (lettered : Lettered names) (bracket : Bracket) (head : Phrase) (lead : String)
    (body : List Code) (sections : List CodeSection) :
    marks names quoting level [.block bracket head lead body sections]
      = mark names level (Phrase.phraseText quoting head ++ bracket.opening ++ lead)
        ++ marks names quoting (level + 1) (body ++ sections.flatMap sectionBody) := by
  rw [marks_eq, linesOfAll, lines, linesOfAll, List.append_nil, List.flatMap_cons,
    List.flatMap_append, marks_sections lettered, ← marks_eq, marks_append]

/-- A block behind a call shows what the name of the call stands for. -/
theorem marks_braces_call (lettered : Lettered names) {name primitive : String} (hname : IsName name)
    (hfind : Bag.find? name names = some primitive) (arguments : List Phrase) (body : List Code) :
    marks names quoting level [braces (Phrase.call name arguments) body]
      = (primitive, 4 * level) :: marks names quoting (level + 1) body := by
  have hopens : Opens name
      (Phrase.phraseText quoting (Phrase.call name arguments ++ Phrase.word " ")) :=
    Opens.call name quoting _ _
  rw [braces, marks_block lettered,
    ((hopens.append Bracket.curly.opening).append "").mark hname hfind level, List.singleton_append,
    List.flatMap_nil, List.append_nil]

/-- A line that calls something shows what the name of the call stands for. -/
theorem marks_call {name primitive : String} (hname : IsName name)
    (hfind : Bag.find? name names = some primitive) (inner rest : Phrase) :
    marks names quoting level [.line (.word name :: .group .round inner :: rest)]
      = [(primitive, 4 * level)] := by
  rw [marks_line, (Opens.call name quoting inner rest).mark hname hfind level]

/-- A block behind a plain head shows what its body shows. -/
theorem marks_enclose (lettered : Lettered names) {name head : String} (hopens : Opens name head)
    (hname : IsName name) (hfind : Bag.find? name names = none) (body : List Code) :
    marks names quoting level [enclose head body] = marks names quoting (level + 1) body := by
  have hhead : Opens name (Phrase.phraseText quoting (Phrase.word head ++ Phrase.word " ")) :=
    hopens.cons_word quoting _
  rw [enclose, braces, marks_block lettered,
    ((hhead.append Bracket.curly.opening).append "").mark_eq_nil hname hfind level, List.nil_append,
    List.flatMap_nil, List.append_nil]

end Marks

end Widgetry.Code
