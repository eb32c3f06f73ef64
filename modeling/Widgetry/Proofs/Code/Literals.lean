import Widgetry.Android.Modifier
import Widgetry.Ios.View
import Widgetry.Json.Reader
import Widgetry.Proofs.Code.Lexing
import Widgetry.Source.Token.Quoted

/-!
String literals of generated code. A reader for the literals of each language knows all escapes of
the language and gives the text that a literal stands for. Main statement: the quoted form of a text
is read back as this text, up to the quote that closes it, whatever stands behind.
-/

namespace Widgetry.Code

/-- The languages that code is generated in. -/
inductive Language where
  | swift
  | kotlin
deriving DecidableEq, Repr

namespace Language

/-- How the generated code of a language quotes texts. -/
def quoting : Language → Quoting
  | .swift => Ios.quoting
  | .kotlin => Android.quoting

/-! ## Reading -/

/-- What one character behind a backslash stands for. -/
def escaped? : Language → Char → Option Char
  | _, '\\' => some '\\'
  | _, '"' => some '"'
  | _, '\x27' => some '\x27'
  | _, 'n' => some '\n'
  | _, 'r' => some '\r'
  | _, 't' => some '\t'
  | .swift, '0' => some '\x00'
  | .kotlin, 'b' => some '\x08'
  | .kotlin, '$' => some '$'
  | _, _ => none

/-- A character by its number, up to eight digits in braces. -/
def readBraced? : List Char → Option (Char × List Char)
  | '\x7b' :: rest =>
    let digits := rest.takeWhile Source.Quoted.isHex
    let point := Source.Quoted.hexValue digits
    match rest.dropWhile Source.Quoted.isHex with
    | '\x7d' :: behind =>
      if 1 ≤ digits.length ∧ digits.length ≤ 8 ∧ point.isValidChar then
        some (Char.ofNat point, behind)
      else none
    | _ => none
  | _ => none

/-- The character that `\u` gives by its number: in braces in Swift, and as four digits in Kotlin,
where two escapes may make one character. -/
def readPoint? : Language → List Char → Option (Char × List Char)
  | .swift => readBraced?
  | .kotlin => Json.readUnicode?

/-- The character that an escape stands for; its backslash is read. An interpolation is none. -/
def readEscape? (language : Language) : List Char → Option (Char × List Char)
  | [] => none
  | c :: rest =>
    if c = 'u' then language.readPoint? rest
    else (language.escaped? c).map fun value => (value, rest)

theorem length_of_readUnit? {cs behind : List Char} {unit : Nat}
    (h : Json.readUnit? cs = some (unit, behind)) : behind.length < cs.length := by
  unfold Json.readUnit? at h
  split at h
  · simp only [Option.bind_eq_bind, Option.bind_eq_some_iff, Option.some.injEq, Prod.mk.injEq] at h
    obtain ⟨_, -, _, -, _, -, _, -, -, rfl⟩ := h
    simp only [List.length_cons]
    omega
  · cases h

theorem length_of_readUnicode? {cs behind : List Char} {c : Char}
    (h : Json.readUnicode? cs = some (c, behind)) : behind.length < cs.length := by
  simp only [Json.readUnicode?, Option.bind_eq_bind, Option.bind_eq_some_iff] at h
  obtain ⟨⟨unit, rest⟩, hunit, h⟩ := h
  have hrest := length_of_readUnit? hunit
  dsimp only at h
  split at h
  · split at h
    · obtain ⟨⟨low, after⟩, hlow, h⟩ := Option.bind_eq_some_iff.1 h
      have hafter := length_of_readUnit? hlow
      split at h
      · obtain ⟨-, rfl⟩ := Prod.mk.inj (Option.some.inj h)
        simp only [List.length_cons] at hrest ⊢
        omega
      · cases h
    · cases h
  · split at h
    · cases h
    · obtain ⟨-, rfl⟩ := Prod.mk.inj (Option.some.inj h)
      exact hrest

theorem length_of_readBraced? {cs behind : List Char} {c : Char}
    (h : readBraced? cs = some (c, behind)) : behind.length < cs.length := by
  unfold readBraced? at h
  split at h
  · rename_i rest
    dsimp only at h
    split at h
    · rename_i after hdrop
      have hlength := (List.dropWhile_sublist Source.Quoted.isHex (l := rest)).length_le
      rw [hdrop, List.length_cons] at hlength
      split at h
      · obtain ⟨-, rfl⟩ := Prod.mk.inj (Option.some.inj h)
        simp only [List.length_cons]
        omega
      · cases h
    · cases h
  · cases h

theorem length_of_readEscape? {language : Language} {cs behind : List Char} {c : Char}
    (h : language.readEscape? cs = some (c, behind)) : behind.length < cs.length := by
  cases cs with
  | nil => cases h
  | cons d rest =>
    rw [readEscape?] at h
    split at h
    · cases language with
      | swift => exact Nat.lt_succ_of_lt (length_of_readBraced? h)
      | kotlin => exact Nat.lt_succ_of_lt (length_of_readUnicode? h)
    · obtain ⟨value, -, hvalue⟩ := Option.map_eq_some_iff.1 h
      cases hvalue
      exact Nat.lt_succ_self _

/-- The text of a literal and what stands behind it; its opening quote is read. A literal ends on
its line, and in Kotlin a dollar sign without a backslash may start a template. -/
def readLiteral? (language : Language) : List Char → Option (List Char × List Char)
  | [] => none
  | c :: rest =>
    if c = '"' then some ([], rest)
    else if c = '\\' then
      match hescape : language.readEscape? rest with
      | some (value, behind) =>
        have := length_of_readEscape? hescape
        (language.readLiteral? behind).map fun (text, after) => (value :: text, after)
      | none => none
    else if Lexer.isLineEnd c || (language = .kotlin && c = '$') then none
    else (language.readLiteral? rest).map fun (text, after) => (c :: text, after)
termination_by cs => cs.length

theorem readLiteral?_backslash {language : Language} {cs behind : List Char} {c : Char}
    (h : language.readEscape? cs = some (c, behind)) :
    language.readLiteral? ('\\' :: cs)
      = (language.readLiteral? behind).map fun (text, after) => (c :: text, after) := by
  rw [readLiteral?]
  simp only [Char.reduceEq, if_false, if_true]
  split
  · rename_i value rest heq
    cases heq.symm.trans h
    rfl
  · rename_i heq
    cases heq.symm.trans h

theorem readLiteral?_plain {language : Language} {c : Char} (hquote : c ≠ '"')
    (hbackslash : c ≠ '\\') (hline : Lexer.isLineEnd c = false)
    (hdollar : (language = .kotlin && c = '$') = false) (cs : List Char) :
    language.readLiteral? (c :: cs)
      = (language.readLiteral? cs).map fun (text, after) => (c :: text, after) := by
  rw [readLiteral?, if_neg hquote, if_neg hbackslash, hline, hdollar]
  rfl

/-- A character of a text is read back from its quoted form. -/
theorem readLiteral?_escapeChar (language : Language) (c : Char) (rest : List Char) :
    language.readLiteral? (language.quoting.escapeChar c ++ rest)
      = (language.readLiteral? rest).map fun (text, after) => (c :: text, after) := by
  have hdollar : language.quoting.escapesDollar = decide (language = .kotlin) := by
    cases language <;> rfl
  unfold Quoting.escapeChar
  split_ifs with hbackslash hquote hnewline hreturn htab hescaped
  -- Every escape that is written is one that both languages know, apart from the dollar sign.
  iterate 5
    subst c
    exact readLiteral?_backslash (by cases language <;> rfl)
  · rw [hdollar, Bool.and_eq_true, decide_eq_true_eq, decide_eq_true_eq] at hescaped
    obtain ⟨rfl, rfl⟩ := hescaped
    exact readLiteral?_backslash rfl
  · rw [hdollar, Bool.not_eq_true] at hescaped
    have hline : Lexer.isLineEnd c = false := by simp [Lexer.isLineEnd, hnewline, hreturn]
    exact readLiteral?_plain hquote hbackslash hline hescaped rest

theorem readLiteral?_escaped (language : Language) (cs rest : List Char) :
    language.readLiteral? (cs.flatMap language.quoting.escapeChar ++ '"' :: rest)
      = some (cs, rest) := by
  induction cs with
  | nil => rw [List.flatMap_nil, List.nil_append, readLiteral?, if_pos rfl]
  | cons c cs ih =>
    rw [List.flatMap_cons, List.append_assoc, readLiteral?_escapeChar, ih]
    rfl

-- Interpolations and templates are not read as text.
example : Language.swift.readLiteral? ['\\', '(', 'a', ')', '"'] = none ∧
    Language.kotlin.readLiteral? ['$', 'a', '"'] = none ∧
    Language.swift.readLiteral? ['$', '\\', 'u', '\x7b', '4', '1', '\x7d', '"', ';']
      = some (['$', 'A'], [';']) := by cbv

end Language

/-! ## Dollar signs -/

/-- The character behind these is escaped: right before it is a backslash that is not escaped. -/
def escapesNext (before : List Char) : Bool :=
  before.foldl (fun escaping c => c = '\\' && !escaping) false

theorem escapesNext_escapeChar (quoting : Quoting) (c : Char) :
    escapesNext (quoting.escapeChar c) = false := by
  unfold Quoting.escapeChar
  split_ifs with hbackslash
  iterate 6 rfl
  simp [escapesNext, hbackslash]

/-- What stands in front of a quoted character ends outside of any escape. -/
theorem escapesNext_append {before : List Char} (h : escapesNext before = false)
    (rest : List Char) : escapesNext (before ++ rest) = escapesNext rest := by
  rw [escapesNext, List.foldl_append, ← escapesNext, h, escapesNext]

theorem escapesNext_of_escapeChar {c : Char} {before rest : List Char}
    (h : Quoting.escapeChar ⟨true⟩ c = before ++ '$' :: rest) : escapesNext before = true := by
  unfold Quoting.escapeChar at h
  split_ifs at h
  -- A dollar sign stands in one escape only, behind its backslash.
  iterate 5
    obtain _ | ⟨first, _ | ⟨second, _⟩⟩ := before <;> simp_all
  · obtain _ | ⟨first, _ | ⟨second, _⟩⟩ := before
    · simp at h
    · obtain ⟨rfl, -⟩ := List.cons.inj h
      rfl
    · simp at h
  · obtain _ | ⟨first, _⟩ := before <;> simp_all

/-- Every dollar sign in a quoted text has a backslash before it that escapes it. -/
theorem escapesNext_of_dollar (cs : List Char) {before rest : List Char}
    (h : cs.flatMap (Quoting.escapeChar ⟨true⟩) = before ++ '$' :: rest) :
    escapesNext before = true := by
  induction cs generalizing before with
  | nil => cases before <;> cases h
  | cons c cs ih =>
    rw [List.flatMap_cons] at h
    rcases List.append_eq_append_iff.1 h with ⟨more, hbefore, hmore⟩ | ⟨more, hchar, hmore⟩
    · -- The dollar sign belongs to a later character.
      rw [hbefore, escapesNext_append (escapesNext_escapeChar ⟨true⟩ c)]
      exact ih hmore
    · cases more with
      | nil => cases @ih [] hmore.symm
      | cons first more =>
        obtain ⟨rfl, -⟩ := List.cons.inj hmore
        exact escapesNext_of_escapeChar hchar

/-! ## Quoted texts -/

/-- Reading the quoted form of a text gives the text and stops right behind its closing quote, in
both languages; no line ends inside; and in Kotlin, where it could start a template, every dollar
sign is escaped. -/
theorem readLiteral?_escape (text rest : String) :
    (∀ language : Language,
      language.readLiteral? ((language.quoting.escape text).toList ++ '"' :: rest.toList)
        = some (text.toList, rest.toList) ∧
      '\n' ∉ (language.quoting.escape text).toList ∧
      '\r' ∉ (language.quoting.escape text).toList) ∧
    ∀ before after, (Android.quoting.escape text).toList = before ++ '$' :: after →
      escapesNext before = true := by
  refine ⟨fun language => ⟨?_, ?_, ?_⟩, fun before after h => ?_⟩
  · rw [Quoting.escape, String.toList_ofList]
    exact language.readLiteral?_escaped text.toList rest.toList
  · intro hmem
    cases noLineEnd_escape _ text _ hmem
  · intro hmem
    cases noLineEnd_escape _ text _ hmem
  · rw [Quoting.escape, String.toList_ofList] at h
    exact escapesNext_of_dollar text.toList h

/-- A price behind a quote. The dollar sign has a backslash of its own, apart from that of the quote. -/
theorem readLiteral?_escape_price :
    (Android.quoting.escape "\"$5").toList = ['\\', '"', '\\'] ++ '$' :: ['5'] ∧
      escapesNext ['\\', '"', '\\'] = true ∧
      Language.kotlin.readLiteral? (['\\', '"', '\\'] ++ '$' :: ['5'] ++ '"' :: ";".toList)
        = some ("\"$5".toList, ";".toList) := by
  have hescaped : (Android.quoting.escape "\"$5").toList = ['\\', '"', '\\'] ++ '$' :: ['5'] := by
    decide
  obtain ⟨hread, hdollar⟩ := readLiteral?_escape "\"$5" ";"
  refine ⟨hescaped, hdollar _ _ hescaped, ?_⟩
  rw [← hescaped]
  exact (hread .kotlin).1

end Widgetry.Code
