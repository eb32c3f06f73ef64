import Widgetry.Proofs.Code.Names
import Widgetry.Proofs.Code.Reading

/-!
The names in phrases and in code. Main statements: what is read off a tidy phrase are the names of
its words, and what is read off the lines of whole code are the names of its phrases.
-/

namespace Widgetry.Code

open Lexer

/-! ## Phrases -/

namespace Phrase

mutual

/-- The names of a fragment; there are none in quotes and notes. -/
def fragmentNames : Fragment → List String
  | .word text => namesIn text
  | .number value unit => namesIn (Double.numeral value ++ unit)
  | .quoted _ | .note _ => []
  | .group _ inner => names inner

def names : List Fragment → List String
  | [] => []
  | fragment :: rest => fragmentNames fragment ++ names rest

end

section Tidy

variable (quoting : Quoting)

mutual

def FragmentTidy : Fragment → Prop
  | .word text => Complete text
  | .number _ unit => Complete unit
  | .quoted _ => True
  | .note text => '*' ∉ text.toList ∧ ∀ c ∈ text.toList, isLineEnd c = false
  | .group _ inner => Tidy inner

/-- Each word of a phrase is complete, and no two of them run into one another. -/
def Tidy : List Fragment → Prop
  | [] => True
  | fragment :: rest =>
    FragmentTidy fragment ∧
      Parted (fragmentText quoting fragment).toList (phraseText quoting rest).toList ∧ Tidy rest

end

mutual

theorem FragmentTidy.reading : {fragment : Fragment} → FragmentTidy quoting fragment →
    Complete (fragmentText quoting fragment) ∧
      namesIn (fragmentText quoting fragment) = fragmentNames fragment
  | .word _, h => ⟨h, rfl⟩
  | .number value _, h => ⟨(complete_numeral value).append h, rfl⟩
  | .quoted text, _ => ⟨.quoted quoting text, namesIn_quoted quoting text⟩
  | .note _, ⟨hstar, hline⟩ => ⟨.note hstar hline, namesIn_note hstar⟩
  | .group bracket _, h =>
    have hinner := Tidy.reading h
    ⟨hinner.1.bracketed bracket, (namesIn_bracketed bracket hinner.1.wellBracketed).trans hinner.2⟩

/-- The names that are read off a tidy phrase are those of its words. -/
theorem Tidy.reading : {phrase : Phrase} → Tidy quoting phrase →
    Complete (phraseText quoting phrase) ∧ namesIn (phraseText quoting phrase) = names phrase
  | [], _ => ⟨.empty, rfl⟩
  | fragment :: rest, ⟨hfragment, hparted, hrest⟩ => by
    obtain ⟨hcomplete, hnames⟩ := FragmentTidy.reading hfragment
    obtain ⟨hcompleteRest, hnamesRest⟩ := Tidy.reading hrest
    refine ⟨hcomplete.append hcompleteRest, ?_⟩
    rw [phraseText, namesIn_append hcomplete.wellBracketed hparted, hnames, hnamesRest, names]

end

/-- The text of a phrase does not start inside a name. -/
def Apart (phrase : Phrase) : Prop :=
  ∀ c ∈ (phraseText quoting phrase).toList.head?, isIdentifierChar c = false

variable {quoting}

theorem parted_append_iff {phrase : Phrase} (h : Apart quoting phrase) (before cs : List Char) :
    Parted before (cs ++ (phraseText quoting phrase).toList) ↔ Parted before cs := by
  cases cs with
  | nil => exact ⟨fun _ => .inr (by simp), fun _ => .inr h⟩
  | cons c rest => rfl

theorem tidy_append {phrase other : Phrase} (h : Apart quoting other) :
    Tidy quoting (phrase ++ other) ↔ Tidy quoting phrase ∧ Tidy quoting other := by
  induction phrase with
  | nil => simp [Tidy]
  | cons fragment rest ih =>
    simp only [List.cons_append, Tidy, phraseText_append, String.toList_append,
      parted_append_iff h, ih, and_assoc]

theorem apart_word {text : String} (h : text.toList.head?.any (fun c => !isIdentifierChar c) = true)
    (rest : Phrase) : Apart quoting (.word text :: rest) := by
  obtain ⟨c, hhead, hc⟩ := (Option.any_eq_true _ _).1 h
  obtain ⟨cs, hcs⟩ := List.head?_eq_some_iff.1 hhead
  rw [Apart, phraseText, fragmentText, String.toList_append, hcs]
  rintro _ ⟨⟩
  simpa using hc

theorem apart_group (bracket : Bracket) (inner rest : Phrase) :
    Apart quoting (.group bracket inner :: rest) := by
  rw [Apart, phraseText, fragmentText]
  simp only [String.toList_append, List.append_assoc]
  cases bracket <;>
    · rintro _ ⟨⟩
      rfl

theorem apart_braced (inner : Phrase) : Apart quoting (braced inner) := apart_group _ _ _

theorem tidy_cons_word {text : String} {rest : Phrase}
    (h : text.toList.getLast?.all (fun c => !isIdentifierChar c) = true) :
    Tidy quoting (.word text :: rest) ↔ Complete text ∧ Tidy quoting rest := by
  have hparted : Parted text.toList (phraseText quoting rest).toList :=
    .inl fun c hc => by simpa using (Option.all_eq_true _ _).1 h c hc
  simp only [Tidy, FragmentTidy, fragmentText, hparted, true_and]

theorem tidy_cons_group {bracket : Bracket} {inner rest : Phrase} :
    Tidy quoting (.group bracket inner :: rest) ↔ Tidy quoting inner ∧ Tidy quoting rest := by
  have hparted : Parted (fragmentText quoting (.group bracket inner)).toList
      (phraseText quoting rest).toList := by
    left
    cases bracket <;> simp [fragmentText, Bracket.closing] <;> rfl
  simp only [Tidy, FragmentTidy, hparted, true_and]

@[simp] theorem tidy_nil : Tidy quoting [] := trivial

@[simp] theorem tidy_word {text : String} : Tidy quoting (word text) ↔ Complete text := by
  simp [word, Tidy, FragmentTidy, phraseText, Parted]

@[simp] theorem tidy_quoted (text : String) : Tidy quoting (quoted text) := by
  simp [quoted, Tidy, FragmentTidy, phraseText, Parted]

@[simp] theorem tidy_measure {x : Float} {unit : String} :
    Tidy quoting (measure x unit) ↔ Complete unit := by
  simp [measure, Tidy, FragmentTidy, phraseText, Parted]

theorem tidy_joined : {phrases : List Phrase} →
    (Tidy quoting (joined ", " phrases) ↔ ∀ phrase ∈ phrases, Tidy quoting phrase)
  | [] => by simp [joined]
  | [last] => by simp [joined]
  | first :: second :: rest => by
    have ih := @tidy_joined (second :: rest)
    have hcomma : Complete ", " := .literal rfl
    have hjoined : joined ", " (first :: second :: rest)
      = first ++ .word ", " :: joined ", " (second :: rest) := rfl
    rw [hjoined, tidy_append (apart_word rfl _), tidy_cons_word rfl, ih,
      List.forall_mem_cons (l := second :: rest)]
    simp only [hcomma, true_and]

@[simp] theorem tidy_call {name : String} {arguments : List Phrase} :
    Tidy quoting (call name arguments)
      ↔ Complete name ∧ ∀ argument ∈ arguments, Tidy quoting argument := by
  have hcall : call name arguments = word name ++ [.group .round (joined ", " arguments)] := rfl
  rw [hcall, tidy_append (apart_group _ _ _), tidy_word, tidy_cons_group, tidy_joined]
  simp only [tidy_nil, and_true]

@[simp] theorem tidy_braced {inner : Phrase} :
    Tidy quoting (braced inner) ↔ Tidy quoting inner := by
  have hblank : Complete " " := .literal rfl
  have hend : Tidy quoting [.word " "] := tidy_word.2 hblank
  rw [braced, tidy_cons_group, List.cons_append, tidy_cons_word rfl, tidy_append (apart_word rfl _)]
  simp only [hblank, hend, tidy_nil, true_and, and_true]

end Tidy

/-! ### The names of phrases -/

theorem names_append (phrase other : Phrase) :
    names (phrase ++ other) = names phrase ++ names other := by
  induction phrase with
  | nil => rfl
  | cons fragment rest ih => rw [List.cons_append, names, ih, names, List.append_assoc]

theorem names_cons_word (text : String) (rest : Phrase) :
    names (.word text :: rest) = namesIn text ++ names rest := rfl

theorem names_flatMap {α : Type} (items : List α) (phrase : α → Phrase) :
    names (items.flatMap phrase) = items.flatMap fun item => names (phrase item) := by
  induction items with
  | nil => rfl
  | cons item rest ih => rw [List.flatMap_cons, names_append, ih, List.flatMap_cons]

@[simp] theorem names_word (text : String) : names (word text) = namesIn text :=
  List.append_nil _

theorem names_measure (x : Float) (unit : String) :
    names (measure x unit) = namesIn (Double.numeral (Double.unsigned x) ++ unit) :=
  List.append_nil _

theorem names_joined : (phrases : List Phrase) → names (joined ", " phrases) = phrases.flatMap names
  | [] => rfl
  | [last] => by rw [joined, List.flatMap_singleton]
  | first :: second :: rest => by
    have ih := names_joined (second :: rest)
    have hcomma : namesIn ", " = [] := by decide +kernel
    have hjoined : joined ", " (first :: second :: rest)
      = first ++ .word ", " :: joined ", " (second :: rest) := rfl
    rw [hjoined, names_append, names_cons_word, hcomma, ih, List.nil_append,
      List.flatMap_cons (x := first)]

@[simp] theorem names_call (name : String) (arguments : List Phrase) :
    names (call name arguments) = namesIn name ++ arguments.flatMap names := by
  have hcall : names (call name arguments)
      = namesIn name ++ (names (joined ", " arguments) ++ []) := rfl
  rw [hcall, names_joined, List.append_nil]

@[simp] theorem names_braced (inner : Phrase) : names (braced inner) = names inner := by
  have hblank : namesIn " " = [] := by decide +kernel
  have hbraced : names (braced inner) = names (.word " " :: inner ++ word " ") ++ [] := rfl
  rw [hbraced, names_append, names_cons_word, names_word, hblank]
  simp

/-! ### Phrases without a name -/

section Omits

variable (quoting : Quoting) (name : String)

/-- A tidy phrase without a name. -/
def Omits (phrase : Phrase) : Prop := Tidy quoting phrase ∧ name ∉ names phrase

variable {quoting name}

@[simp] theorem omits_nil : Omits quoting name [] := ⟨tidy_nil, List.not_mem_nil⟩

@[simp] theorem omits_word {text : String} : Omits quoting name (word text) ↔ Lacks name text := by
  rw [Omits, tidy_word, names_word, Lacks]

@[simp] theorem omits_quoted (text : String) : Omits quoting name (quoted text) :=
  ⟨tidy_quoted text, List.not_mem_nil⟩

theorem omits_note {text : String} (hstar : '*' ∉ text.toList)
    (hline : ∀ c ∈ text.toList, isLineEnd c = false) : Omits quoting name [.note text] := by
  refine ⟨⟨⟨hstar, hline⟩, ?_, tidy_nil⟩, List.not_mem_nil⟩
  exact .inr (by simp [phraseText])

theorem omits_append {phrase other : Phrase} (h : Apart quoting other) :
    Omits quoting name (phrase ++ other)
      ↔ Omits quoting name phrase ∧ Omits quoting name other := by
  rw [Omits, tidy_append h, names_append, List.mem_append, not_or, Omits, Omits, and_and_and_comm]

theorem omits_cons_word {text : String} {rest : Phrase}
    (h : text.toList.getLast?.all (fun c => !isIdentifierChar c) = true) :
    Omits quoting name (.word text :: rest) ↔ Lacks name text ∧ Omits quoting name rest := by
  rw [Omits, tidy_cons_word h, names_cons_word, List.mem_append, not_or, and_and_and_comm, Lacks,
    Omits]

theorem omits_call {callee : String} {arguments : List Phrase} :
    Omits quoting name (call callee arguments)
      ↔ Lacks name callee ∧ ∀ argument ∈ arguments, Omits quoting name argument := by
  simp only [Omits, Lacks, tidy_call, names_call, List.mem_append, List.mem_flatMap, not_or,
    not_exists, not_and]
  grind

@[simp] theorem omits_braced {inner : Phrase} :
    Omits quoting name (braced inner) ↔ Omits quoting name inner := by
  rw [Omits, tidy_braced, names_braced, Omits]

end Omits

end Phrase

/-! ## Code -/

section Code

variable (quoting : Quoting)

mutual

/-- The names of some code; remarks have none. -/
def names : Code → List String
  | .blank | .remark _ => []
  | .line phrase => namesIn (Phrase.phraseText quoting phrase)
  | .block _ head lead body sections =>
    namesIn (Phrase.phraseText quoting head) ++ namesIn lead ++ namesOfAll body
      ++ namesOfSections sections

def namesOfAll : List Code → List String
  | [] => []
  | code :: rest => names code ++ namesOfAll rest

def namesOfSections : List CodeSection → List String
  | [] => []
  | .mk head lead body :: rest =>
    namesIn (Phrase.phraseText quoting head) ++ namesIn lead ++ namesOfAll body
      ++ namesOfSections rest

end

theorem apart_indentation {level : Nat} :
    ∀ c ∈ (indentation level).toList, isIdentifierChar c = false := by
  intro c hc
  rw [eq_blank_of_mem_indentation c hc]
  rfl

theorem apart_opening {bracket : Bracket} :
    ∀ c ∈ bracket.opening.toList, isIdentifierChar c = false := by
  cases bracket <;> exact List.forall_mem_singleton.2 rfl

theorem apart_closing {bracket : Bracket} :
    ∀ c ∈ bracket.closing.toList, isIdentifierChar c = false := by
  cases bracket <;> exact List.forall_mem_singleton.2 rfl

variable {quoting} {opened : List Bracket}

/-- A line behind its indentation. -/
theorem Line.reading (line : Line) {state : State}
    (hrun : run ⟨.code, opened⟩ line.text.toList = some state) :
    run ⟨.code, opened⟩ line.content = some state ∧
      namesFrom ⟨.code, opened⟩ line.content = namesFrom ⟨.code, opened⟩ line.text.toList := by
  rw [Line.content]
  split
  · rename_i hempty
    rw [String.isEmpty_iff.1 hempty] at hrun ⊢
    exact ⟨hrun, rfl⟩
  · have hindentation := (complete_indentation line.level).wellBracketed.run_eq opened
    rw [String.toList_append, run_append, hindentation, Option.bind_some,
      namesFrom_append hindentation (.of_left apart_indentation _),
      (hidden_of_apart apart_indentation _).namesFrom_eq_nil, List.nil_append]
    exact ⟨hrun, rfl⟩

theorem parted_line (line : Line) (cs : List Char) : Parted (line.content ++ ['\n']) cs := by
  left
  rw [List.getLast?_concat]
  rintro _ ⟨⟩
  rfl

theorem parted_characters (lines : List Line) (cs : List Char) : Parted (characters lines) cs := by
  obtain rfl | ⟨before, last, rfl⟩ := List.eq_nil_or_concat' lines
  · exact .of_left (List.forall_mem_nil _) cs
  · have hlast : characters [last] = last.content ++ ['\n'] := by
      rw [characters, List.flatMap_singleton, Line.toList_print]
    rw [Parted, characters_append, hlast, ← List.append_assoc, List.getLast?_concat]
    left
    rintro _ ⟨⟩
    rfl

/-- The names on a line come before those on the lines behind it. -/
theorem namesFrom_characters_cons (line : Line) {state next : State}
    (hrun : run ⟨.code, opened⟩ line.text.toList = some state) (hstep : step state '\n' = some next)
    (rest : List Line) :
    namesFrom ⟨.code, opened⟩ (characters (line :: rest))
      = namesFrom ⟨.code, opened⟩ line.text.toList ++ namesFrom next (characters rest) := by
  obtain ⟨hcontent, hnames⟩ := line.reading hrun
  have hend : ∀ c ∈ ['\n'], isIdentifierChar c = false := List.forall_mem_singleton.2 rfl
  have hprint : run ⟨.code, opened⟩ (line.content ++ ['\n']) = some next := by
    rw [run_append, hcontent, Option.bind_some, run, hstep]
    rfl
  have hsplit : characters (line :: rest) = line.content ++ ['\n'] ++ characters rest := by
    rw [← Line.toList_print]
    rfl
  rw [hsplit, namesFrom_append hprint (parted_line line _),
    namesFrom_append hcontent (.of_right hend _), hnames,
    (hidden_of_apart hend state).namesFrom_eq_nil, List.append_nil]

/-- A bracket that is opened on a line parts what stands before and behind it. -/
theorem reading_opening {head lead : String} (bracket : Bracket) (hhead : Complete head)
    (hlead : Complete lead) :
    run ⟨.code, opened⟩ (head ++ bracket.opening ++ lead).toList
        = some ⟨.code, bracket :: opened⟩ ∧
      namesFrom ⟨.code, opened⟩ (head ++ bracket.opening ++ lead).toList
        = namesIn head ++ namesIn lead := by
  have hopen := run_opening bracket opened
  have hrest : run ⟨.code, opened⟩ (bracket.opening.toList ++ lead.toList)
      = some ⟨.code, bracket :: opened⟩ := by
    rw [run_append, hopen, Option.bind_some, hlead.wellBracketed.run_eq]
  have hparted : Parted head.toList (bracket.opening.toList ++ lead.toList) := by
    cases bracket <;> exact .inr fun c hc => by cases hc; rfl
  rw [String.toList_append, String.toList_append, List.append_assoc]
  refine ⟨?_, ?_⟩
  · rw [run_append, hhead.wellBracketed.run_eq, Option.bind_some, hrest]
  · rw [namesFrom_append (hhead.wellBracketed.run_eq opened) hparted,
      namesFrom_append hopen (.of_left apart_opening _), hhead.wellBracketed.namesFrom_eq,
      hlead.wellBracketed.namesFrom_eq, (hidden_of_apart apart_opening _).namesFrom_eq_nil,
      List.nil_append]

/-- A bracket that is closed at the start of a line is not part of the rest of it. -/
theorem reading_closing {text : String} {next : State} (bracket : Bracket)
    (hrun : run ⟨.code, opened⟩ text.toList = some next) :
    run ⟨.code, bracket :: opened⟩ (bracket.closing ++ text).toList = some next ∧
      namesFrom ⟨.code, bracket :: opened⟩ (bracket.closing ++ text).toList
        = namesFrom ⟨.code, opened⟩ text.toList := by
  have hclose := run_closing bracket opened
  rw [String.toList_append, run_append, hclose, Option.bind_some,
    namesFrom_append hclose (.of_left apart_closing _),
    (hidden_of_apart apart_closing _).namesFrom_eq_nil, List.nil_append]
  exact ⟨hrun, rfl⟩

theorem namesFrom_remark (text : String) :
    namesFrom ⟨.code, opened⟩ ("// " ++ oneLine text).toList = [] := by
  have hmark : run ⟨.code, opened⟩ "// ".toList = some ⟨.lineComment, opened⟩ := rfl
  have hapart : ∀ c ∈ ['/', '/', ' '], isIdentifierChar c = false := by
    simp only [List.forall_mem_cons]
    exact ⟨rfl, rfl, rfl, List.forall_mem_nil _⟩
  have hsteady : ∀ c ∈ (oneLine text).toList,
      step ⟨.lineComment, opened⟩ c = some ⟨.lineComment, opened⟩ := by
    intro c hc
    have hline := unbroken_remark 0 text c (by simp [hc])
    simp [step, hline]
  rw [String.toList_append]
  exact ((hidden_of_apart hapart _).append hmark
    (hidden_of_steady (.inl rfl) hsteady)).namesFrom_eq_nil

theorem names_line {phrase : Phrase} (h : Phrase.Tidy quoting phrase) :
    names quoting (.line phrase) = Phrase.names phrase :=
  (Phrase.Tidy.reading quoting h).2

theorem names_braces {head : Phrase} (h : Phrase.Tidy quoting head) (body : List Code) :
    names quoting (braces head body) = Phrase.names head ++ namesOfAll quoting body := by
  have hblank : namesIn " " = [] := by decide +kernel
  have hempty : namesIn "" = [] := rfl
  have hhead : Phrase.Tidy quoting (head ++ Phrase.word " ") :=
    (Phrase.tidy_append (Phrase.apart_word rfl [])).2 ⟨h, Phrase.tidy_word.2 (.literal rfl)⟩
  rw [braces, names, (Phrase.Tidy.reading quoting hhead).2, Phrase.names_append, Phrase.names_word,
    hblank, hempty, namesOfSections]
  simp only [List.append_nil]

theorem namesOfAll_append (code other : List Code) :
    namesOfAll quoting (code ++ other) = namesOfAll quoting code ++ namesOfAll quoting other := by
  induction code with
  | nil => rfl
  | cons first rest ih => rw [List.cons_append, namesOfAll, ih, namesOfAll, List.append_assoc]

mutual

/-- The names that are read off the lines of whole code are those of its phrases. -/
theorem namesFrom_lines (opened : List Bracket) (level : Nat) : (code : Code) → Whole code →
    namesFrom ⟨.code, opened⟩ (characters (lines quoting level code)) = names quoting code
  | .blank, _ => by
    rw [lines, namesFrom_characters_cons ⟨level, ""⟩ rfl rfl]
    rfl
  | .line phrase, h => by
    have hphrase := (h quoting).wellBracketed
    rw [lines, namesFrom_characters_cons ⟨level, _⟩ (hphrase.run_eq opened) rfl,
      hphrase.namesFrom_eq]
    exact List.append_nil _
  | .remark text, _ => by
    rw [lines, namesFrom_characters_cons ⟨level, _⟩ (run_remark opened text) rfl,
      namesFrom_remark]
    rfl
  | .block bracket head lead body sections, ⟨hhead, hlead, hbody, hsections⟩ => by
    obtain ⟨hopen, hnames⟩ := reading_opening bracket (hhead quoting) hlead
    have hrest := run_linesOfAll quoting (bracket :: opened) (level + 1) body hbody
    rw [lines, namesFrom_characters_cons ⟨level, _⟩ hopen rfl, hnames, characters_append]
    rw [namesFrom_append hrest (parted_characters _ _), namesFrom_linesOfAll _ _ body hbody,
      namesFrom_linesOfSections opened level bracket sections hsections, names]
    simp only [List.append_assoc]

theorem namesFrom_linesOfAll (opened : List Bracket) (level : Nat) :
    (code : List Code) → AllWhole code →
      namesFrom ⟨.code, opened⟩ (characters (linesOfAll quoting level code))
        = namesOfAll quoting code
  | [], _ => rfl
  | code :: rest, ⟨hcode, hrest⟩ => by
    rw [linesOfAll, characters_append,
      namesFrom_append (run_lines quoting opened level code hcode) (parted_characters _ _),
      namesFrom_lines opened level code hcode, namesFrom_linesOfAll opened level rest hrest,
      namesOfAll]

theorem namesFrom_linesOfSections (opened : List Bracket) (level : Nat) (bracket : Bracket) :
    (sections : List CodeSection) → SectionsWhole sections →
      namesFrom ⟨.code, bracket :: opened⟩
          (characters (linesOfSections quoting level bracket sections))
        = namesOfSections quoting sections
  | [], _ => by
    rw [linesOfSections,
      namesFrom_characters_cons ⟨level, bracket.closing⟩ (run_closing bracket opened) rfl,
      (hidden_of_apart apart_closing _).namesFrom_eq_nil]
    rfl
  | .mk head lead body :: rest, ⟨hhead, hlead, hbody, hrest⟩ => by
    obtain ⟨hopen, hnames⟩ := reading_opening bracket (hhead quoting) hlead
    obtain ⟨hrun, hline⟩ := reading_closing bracket hopen
    have hbodyRun := run_linesOfAll quoting (bracket :: opened) (level + 1) body hbody
    have hassoc : bracket.closing ++ Phrase.phraseText quoting head ++ bracket.opening ++ lead
        = bracket.closing ++ (Phrase.phraseText quoting head ++ bracket.opening ++ lead) := by
      simp only [String.append_assoc]
    rw [linesOfSections, hassoc, namesFrom_characters_cons ⟨level, _⟩ hrun rfl, hline, hnames,
      characters_append]
    rw [namesFrom_append hbodyRun (parted_characters _ _), namesFrom_linesOfAll _ _ body hbody,
      namesFrom_linesOfSections opened level bracket rest hrest, namesOfSections]
    simp only [List.append_assoc]

end

end Code

end Widgetry.Code
