import Widgetry.Proofs.Code.Lexing
import Widgetry.Proofs.Generate.Fields
import Widgetry.Proofs.Json.Numbers

/-!
Code that is whole: each of its words is complete in itself. All other brackets, quotes and comments
come in pairs from the structure of the code, so whole code is printed with matching brackets, and
none of its lines is broken in two.
-/

namespace Widgetry.Code

open Lexer

/-! ## Phrases -/

namespace Phrase

/-- However texts are quoted, the phrase is complete. -/
def Whole (phrase : Phrase) : Prop := ∀ quoting, Complete (phraseText quoting phrase)

theorem phraseText_append (quoting : Quoting) (phrase other : Phrase) :
    phraseText quoting (phrase ++ other) = phraseText quoting phrase ++ phraseText quoting other := by
  induction phrase with
  | nil => simp [phraseText]
  | cons fragment rest ih => simp [phraseText, ih, String.append_assoc]

theorem phraseText_singleton (quoting : Quoting) (fragment : Fragment) :
    phraseText quoting [fragment] = fragmentText quoting fragment := by
  simp [phraseText]

theorem whole_nil : Whole [] := fun _ => .empty

theorem Whole.append {phrase other : Phrase} (h : Whole phrase) (hother : Whole other) :
    Whole (phrase ++ other) := by
  intro quoting
  rw [phraseText_append]
  exact (h quoting).append (hother quoting)

theorem whole_word {text : String} (h : Complete text) : Whole (word text) := by
  intro quoting
  rwa [word, phraseText_singleton, fragmentText]

theorem Whole.cons_word {text : String} {rest : Phrase} (hrest : Whole rest) (h : Complete text) :
    Whole (.word text :: rest) :=
  (whole_word h).append hrest

theorem whole_quoted (text : String) : Whole (quoted text) := by
  intro quoting
  rw [quoted, phraseText_singleton, fragmentText]
  exact .quoted quoting text

theorem whole_note {text : String} (hstar : '*' ∉ text.toList)
    (hline : ∀ c ∈ text.toList, isLineEnd c = false) : Whole [.note text] := by
  intro quoting
  rw [phraseText_singleton, fragmentText]
  exact .note hstar hline

theorem whole_group (bracket : Bracket) {inner : Phrase} (h : Whole inner) :
    Whole [.group bracket inner] := by
  intro quoting
  rw [phraseText_singleton, fragmentText]
  exact (h quoting).bracketed bracket

theorem whole_joined {separator : String} (hseparator : Complete separator) :
    {phrases : List Phrase} → (∀ phrase ∈ phrases, Whole phrase) → Whole (joined separator phrases)
  | [], _ => whole_nil
  | [last], h => h last (List.mem_singleton_self last)
  | first :: second :: rest, h => by
    obtain ⟨hfirst, hrest⟩ := List.forall_mem_cons.1 h
    exact hfirst.append ((whole_joined hseparator hrest).cons_word hseparator)

theorem whole_call {name : String} {arguments : List Phrase} (hname : Complete name)
    (h : ∀ argument ∈ arguments, Whole argument) : Whole (call name arguments) :=
  (whole_group .round (whole_joined (.literal rfl) h)).cons_word hname

/-- A call with one argument. -/
theorem whole_call_singleton {name : String} {argument : Phrase} (hname : Complete name)
    (h : Whole argument) : Whole (call name [argument]) :=
  whole_call hname (List.forall_mem_singleton.2 h)

theorem whole_braced {inner : Phrase} (h : Whole inner) : Whole (braced inner) :=
  have hblank : Complete " " := .literal rfl
  whole_group .curly ((h.cons_word hblank).append (whole_word hblank))

end Phrase

/-! ## Code -/

mutual

/-- All phrases in some code are whole, and so is what stands behind its opening brackets. -/
def Whole : Code → Prop
  | .blank => True
  | .line phrase => phrase.Whole
  | .remark _ => True
  | .block _ head lead body sections =>
    head.Whole ∧ Complete lead ∧ AllWhole body ∧ SectionsWhole sections

def AllWhole : List Code → Prop
  | [] => True
  | code :: rest => Whole code ∧ AllWhole rest

def SectionsWhole : List CodeSection → Prop
  | [] => True
  | .mk head lead body :: rest =>
    head.Whole ∧ Complete lead ∧ AllWhole body ∧ SectionsWhole rest

end

theorem allWhole_iff (code : List Code) : AllWhole code ↔ ∀ part ∈ code, Whole part := by
  induction code with
  | nil => simp [AllWhole]
  | cons first rest ih => rw [AllWhole, ih, List.forall_mem_cons]

theorem whole_say {text : String} (h : Complete text) : Whole (say text) := Phrase.whole_word h

theorem whole_braces {head : Phrase} {body : List Code} (hhead : head.Whole)
    (hbody : ∀ part ∈ body, Whole part) : Whole (braces head body) :=
  ⟨hhead.append (Phrase.whole_word (.literal rfl)), .empty, (allWhole_iff body).2 hbody, trivial⟩

theorem whole_enclose {head : String} {body : List Code} (hhead : Complete head)
    (hbody : ∀ part ∈ body, Whole part) : Whole (enclose head body) :=
  whole_braces (Phrase.whole_word hhead) hbody

/-! ## Brackets of printed code -/

theorem complete_indentation (level : Nat) : Complete (indentation level) := by
  induction level with
  | zero => exact .empty
  | succ level ih => exact .append (.literal rfl) ih

/-- The end of a line is read behind its text, wherever the line stands. -/
theorem run_print (opened : List Bracket) (line : Line) :
    run ⟨.code, opened⟩ line.print.toList
      = (run ⟨.code, opened⟩ line.text.toList).bind fun state => step state '\n' := by
  have hend : ∀ state, run state "\n".toList = step state '\n' := fun state => by
    simp [run]
  rw [Line.print, String.toList_append, run_append]
  split
  · rename_i hempty
    rw [String.isEmpty_iff.1 hempty]
    exact congrArg _ (funext hend)
  · rw [String.toList_append, run_append,
      (complete_indentation line.level).wellBracketed.run_eq, Option.bind_some]
    exact congrArg _ (funext hend)

theorem run_characters_cons (opened : List Bracket) (line : Line) (rest : List Line) :
    run ⟨.code, opened⟩ (characters (line :: rest))
      = ((run ⟨.code, opened⟩ line.text.toList).bind fun state => step state '\n').bind
          fun state => run state (characters rest) := by
  rw [characters, List.flatMap_cons, run_append, run_print]
  rfl

theorem run_remark (opened : List Bracket) (text : String) :
    run ⟨.code, opened⟩ ("// " ++ oneLine text).toList = some ⟨.lineComment, opened⟩ := by
  have hmark : run ⟨.code, opened⟩ "// ".toList = some ⟨.lineComment, opened⟩ := by
    simp [run, step, stepCode, isLineEnd]
  rw [String.toList_append, run_append, hmark, Option.bind_some, oneLine, String.toList_ofList]
  induction text.toList with
  | nil => rfl
  | cons c cs ih =>
    have hstep : step ⟨.lineComment, opened⟩ (if c = '\r' || c = '\n' then ' ' else c)
        = some ⟨.lineComment, opened⟩ := by
      by_cases hc : c = '\r' || c = '\n' <;> simp_all [step, isLineEnd]
    rw [List.map_cons, run, hstep, Option.bind_some, ih]

mutual

/-- Whole code leaves the brackets that are open around it as they are. -/
theorem run_lines (quoting : Quoting) (opened : List Bracket) (level : Nat) :
    (code : Code) → Whole code →
      run ⟨.code, opened⟩ (characters (lines quoting level code)) = some ⟨.code, opened⟩
  | .blank, _ => by
    rw [lines, run_characters_cons]
    rfl
  | .line phrase, h => by
    rw [lines, run_characters_cons, (h quoting).wellBracketed.run_eq]
    rfl
  | .remark text, _ => by
    rw [lines, run_characters_cons, run_remark]
    rfl
  | .block bracket head lead body sections, ⟨hhead, hlead, hbody, hsections⟩ => by
    -- The first line leaves the bracket open, the body keeps it so, and the sections close it.
    have hopen : run ⟨.code, opened⟩
        (Phrase.phraseText quoting head ++ bracket.opening ++ lead).toList
        = some ⟨.code, bracket :: opened⟩ := by
      rw [String.toList_append, String.toList_append, run_append, run_append,
        (hhead quoting).wellBracketed.run_eq, Option.bind_some, run_opening, Option.bind_some,
        hlead.wellBracketed.run_eq]
    have hrest : run ⟨.code, bracket :: opened⟩ (characters (linesOfAll quoting (level + 1) body
        ++ linesOfSections quoting level bracket sections)) = some ⟨.code, opened⟩ := by
      rw [characters_append, run_append, run_linesOfAll quoting _ _ body hbody, Option.bind_some,
        run_linesOfSections quoting opened level bracket sections hsections]
    rw [lines, run_characters_cons, hopen]
    exact hrest

theorem run_linesOfAll (quoting : Quoting) (opened : List Bracket) (level : Nat) :
    (code : List Code) → AllWhole code →
      run ⟨.code, opened⟩ (characters (linesOfAll quoting level code)) = some ⟨.code, opened⟩
  | [], _ => rfl
  | code :: rest, ⟨hcode, hrest⟩ => by
    rw [linesOfAll, characters_append, run_append, run_lines quoting opened level code hcode,
      Option.bind_some, run_linesOfAll quoting opened level rest hrest]

/-- The sections of a block close the bracket that it has opened. -/
theorem run_linesOfSections (quoting : Quoting) (opened : List Bracket) (level : Nat)
    (bracket : Bracket) : (sections : List CodeSection) → SectionsWhole sections →
      run ⟨.code, bracket :: opened⟩
        (characters (linesOfSections quoting level bracket sections)) = some ⟨.code, opened⟩
  | [], _ => by
    rw [linesOfSections, run_characters_cons, run_closing]
    rfl
  | .mk head lead body :: rest, ⟨hhead, hlead, hbody, hrest⟩ => by
    have hopen : run ⟨.code, bracket :: opened⟩
        (bracket.closing ++ Phrase.phraseText quoting head ++ bracket.opening ++ lead).toList
        = some ⟨.code, bracket :: opened⟩ := by
      rw [String.toList_append, String.toList_append, String.toList_append, run_append, run_append,
        run_append, run_closing, Option.bind_some, (hhead quoting).wellBracketed.run_eq,
        Option.bind_some, run_opening, Option.bind_some, hlead.wellBracketed.run_eq]
    have hafter : run ⟨.code, bracket :: opened⟩
        (characters (linesOfAll quoting (level + 1) body
          ++ linesOfSections quoting level bracket rest)) = some ⟨.code, opened⟩ := by
      rw [characters_append, run_append, run_linesOfAll quoting _ _ body hbody, Option.bind_some,
        run_linesOfSections quoting opened level bracket rest hrest]
    rw [linesOfSections, run_characters_cons, hopen]
    exact hafter

end

theorem wellBracketed_print (quoting : Quoting) {code : List Code} (h : ∀ part ∈ code, Whole part) :
    WellBracketed (print quoting code) := by
  rw [WellBracketed, toList_print]
  exact run_linesOfAll quoting [] 0 code ((allWhole_iff code).2 h)

/-! ## Lines of whole code -/

/-- The text of a line stays on it. -/
def Line.Unbroken (line : Line) : Prop := ∀ c ∈ line.text.toList, isLineEnd c = false

theorem unbroken_remark (level : Nat) (text : String) :
    Line.Unbroken ⟨level, "// " ++ oneLine text⟩ := by
  rw [Line.Unbroken, String.toList_append, List.forall_mem_append]
  refine ⟨by simp [isLineEnd], ?_⟩
  rw [oneLine, String.toList_ofList, List.forall_mem_map]
  intro c _
  by_cases hc : c = '\r' || c = '\n' <;> simp_all [isLineEnd]

theorem unbroken_bracketed (level : Nat) (bracket : Bracket) {before after : String}
    (hbefore : Line.Unbroken ⟨level, before⟩) (hafter : Complete after) :
    Line.Unbroken ⟨level, before ++ bracket.opening ++ after⟩ := by
  have hopening : ∀ c ∈ bracket.opening.toList, isLineEnd c = false := by
    cases bracket <;> exact List.forall_mem_singleton.2 rfl
  rw [Line.Unbroken, String.toList_append, String.toList_append, List.forall_mem_append,
    List.forall_mem_append]
  exact ⟨⟨hbefore, hopening⟩, hafter.noLineEnd⟩

theorem unbroken_closing (level : Nat) (bracket : Bracket) {after : String} (h : Complete after) :
    Line.Unbroken ⟨level, bracket.closing ++ after⟩ := by
  have hclosing : ∀ c ∈ bracket.closing.toList, isLineEnd c = false := by
    cases bracket <;> exact List.forall_mem_singleton.2 rfl
  rw [Line.Unbroken, String.toList_append, List.forall_mem_append]
  exact ⟨hclosing, h.noLineEnd⟩

mutual

theorem unbroken_lines (quoting : Quoting) (level : Nat) : (code : Code) → Whole code →
    ∀ line ∈ lines quoting level code, line.Unbroken
  | .blank, _ => List.forall_mem_singleton.2 Complete.empty.noLineEnd
  | .line _, h => List.forall_mem_singleton.2 (h quoting).noLineEnd
  | .remark text, _ => List.forall_mem_singleton.2 (unbroken_remark level text)
  | .block bracket _ _ body sections, ⟨hhead, hlead, hbody, hsections⟩ =>
    List.forall_mem_cons.2 ⟨unbroken_bracketed level bracket (hhead quoting).noLineEnd hlead,
      List.forall_mem_append.2 ⟨unbroken_linesOfAll quoting _ body hbody,
        unbroken_linesOfSections quoting level bracket sections hsections⟩⟩

theorem unbroken_linesOfAll (quoting : Quoting) (level : Nat) : (code : List Code) → AllWhole code →
    ∀ line ∈ linesOfAll quoting level code, line.Unbroken
  | [], _ => List.forall_mem_nil _
  | code :: rest, ⟨hcode, hrest⟩ =>
    List.forall_mem_append.2 ⟨unbroken_lines quoting level code hcode,
      unbroken_linesOfAll quoting level rest hrest⟩

theorem unbroken_linesOfSections (quoting : Quoting) (level : Nat) (bracket : Bracket) :
    (sections : List CodeSection) → SectionsWhole sections →
      ∀ line ∈ linesOfSections quoting level bracket sections, line.Unbroken
  | [], _ => List.forall_mem_singleton.2 <| by
    rw [← String.append_empty (s := bracket.closing)]
    exact unbroken_closing level bracket .empty
  | .mk _ _ body :: rest, ⟨hhead, hlead, hbody, hrest⟩ =>
    List.forall_mem_cons.2
      ⟨unbroken_bracketed level bracket (unbroken_closing level bracket (hhead quoting)) hlead,
        List.forall_mem_append.2 ⟨unbroken_linesOfAll quoting _ body hbody,
          unbroken_linesOfSections quoting level bracket rest hrest⟩⟩

end

theorem Line.Unbroken.not_mem_content {line : Line} (h : line.Unbroken) : '\n' ∉ line.content := by
  rw [Line.content]
  split
  · exact List.not_mem_nil
  · rw [String.toList_append, List.mem_append, not_or]
    exact ⟨not_mem_indentation line.level, fun hmem => absurd (h _ hmem) (by decide)⟩

/-! ## Words -/

/-- A word from a table, looked up under what a style or a node says. -/
theorem complete_of_lookup {α : Type} {key : Option α} {table : α → Option String} {text : String}
    (h : key.bind table = some text) (complete : ∀ x text, table x = some text → Complete text) :
    Complete text := by
  obtain ⟨x, -, hx⟩ := Option.bind_eq_some_iff.1 h
  exact complete x text hx

theorem complete_identifier (raw : String) : Complete (identifier raw) :=
  .of_kind isIdentifierChar (by decide) fun _ => isIdentifierChar_of_mem

theorem complete_of_numeric {text : String} (h : ∀ c ∈ text.toList, Json.isNumeric c = true) :
    Complete text :=
  .of_kind Json.isNumeric (by decide) h

theorem complete_sign (negative : Bool) : Complete (if negative then "-" else "") := by
  cases negative <;> exact .literal rfl

theorem complete_repr (n : Nat) : Complete (Nat.repr n) :=
  complete_of_numeric fun _ => Json.isNumeric_of_mem_repr

theorem complete_display (x : Float) : Complete (Double.display x) := by
  unfold Double.display
  split
  · exact .literal rfl
  · split <;> exact .literal rfl
  · exact (complete_sign _).append (complete_of_numeric (Json.numeral_positional _).2)

theorem complete_numeral (x : Float) : Complete (Double.numeral x) := by
  have hinteger : ∀ n : Int, Complete (toString n) := by
    intro n
    cases n with
    | ofNat n => exact complete_repr n
    | negSucc n => exact .append (.literal rfl) (complete_repr (n + 1))
  unfold Double.numeral
  split
  · exact .literal rfl
  · split <;> exact .literal rfl
  · split
    · exact hinteger _
    · exact complete_display x

theorem Phrase.whole_measure (x : Float) {unit : String} (h : Complete unit) :
    Whole (measure x unit) := by
  intro quoting
  rw [measure, phraseText_singleton, fragmentText]
  exact (complete_numeral _).append h

theorem complete_fixed (places : Nat) (x : Float) : Complete (Double.fixed places x) := by
  unfold Double.fixed
  split
  · exact .literal rfl
  · split <;> exact .literal rfl
  · rename_i negative m e _
    generalize Decimal.roundHalfEven _ _ = scaled
    have hpadded : ∀ c ∈ (Decimal.zeros (places + 1 - (Nat.repr scaled).length)
        ++ Nat.repr scaled).toList, Json.isNumeric c = true := by
      rw [String.toList_append, List.forall_mem_append]
      exact ⟨fun _ => Json.isNumeric_of_mem_zeros, fun _ => Json.isNumeric_of_mem_repr⟩
    refine ((complete_sign negative).append (complete_of_numeric ?_)).append ?_
    · rw [String.toList_ofList]
      exact fun c hc => hpadded c (List.mem_of_mem_take hc)
    · split
      · exact .empty
      · refine .append (.literal rfl) (complete_of_numeric ?_)
        rw [String.toList_ofList]
        exact fun c hc => hpadded c (List.mem_of_mem_drop hc)

theorem complete_digits (colour : Colour) : Complete colour.digits := by
  have hcapital : ∀ n < 16, isIdentifierChar (Hex.capital n) = true := by decide
  have hchannel : ∀ channel : UInt8, ∀ c ∈ Colour.channelDigits channel,
      isIdentifierChar c = true := by
    intro channel
    have hbound := channel.toNat_lt
    refine List.forall_mem_cons.2 ⟨hcapital _ (by omega), List.forall_mem_singleton.2 ?_⟩
    exact hcapital _ (by omega)
  refine .of_kind isIdentifierChar (by decide) ?_
  simp only [Colour.digits, String.toList_ofList, List.forall_mem_append]
  exact ⟨⟨⟨hchannel _, hchannel _⟩, hchannel _⟩, hchannel _⟩

end Widgetry.Code
