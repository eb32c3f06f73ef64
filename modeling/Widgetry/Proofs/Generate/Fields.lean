import Widgetry.Generate

/-!
Lines of generated code as they stand in a file. A line ends where its newline stands, so a file
tells the lines that it is made of; and a line that declares a field tells the name of the field, as
far as an identifier keeps it, and its type.
-/

namespace Widgetry.Code

/-! ## Text and lines -/

/-- The characters of some lines. -/
def characters (lines : List Line) : List Char := lines.flatMap fun line => line.print.toList

@[simp] theorem characters_append (lines others : List Line) :
    characters (lines ++ others) = characters lines ++ characters others :=
  List.flatMap_append

theorem toList_print (quoting : Quoting) (code : List Code) :
    (print quoting code).toList = characters (linesOfAll quoting 0 code) := by
  rw [print, characters]
  generalize linesOfAll quoting 0 code = found
  induction found with
  | nil => rfl
  | cons line rest ih => simp [String.join_cons, ih]

theorem linesOfAll_append (quoting : Quoting) (level : Nat) (code other : List Code) :
    linesOfAll quoting level (code ++ other)
      = linesOfAll quoting level code ++ linesOfAll quoting level other := by
  induction code with
  | nil => rfl
  | cons first rest ih => simp [linesOfAll, ih]

@[simp] theorem lines_say (quoting : Quoting) (level : Nat) (text : String) :
    lines quoting level (say text) = [⟨level, text⟩] := by
  simp [say, lines, Phrase.word, Phrase.phraseText, Phrase.fragmentText]

/-- The line that opens a block. -/
def openingLine (quoting : Quoting) (level : Nat) (bracket : Bracket) (head : Phrase) : Line :=
  ⟨level, Phrase.phraseText quoting head ++ bracket.opening ++ ""⟩

theorem lines_block (quoting : Quoting) (level : Nat) (bracket : Bracket) (head : Phrase)
    (body : List Code) : lines quoting level (.block bracket head "" body [])
      = openingLine quoting level bracket head
        :: (linesOfAll quoting (level + 1) body ++ [⟨level, bracket.closing⟩]) := by
  rw [lines, linesOfSections]
  rfl

/-- What stands in front of the first `c` is known. -/
theorem eq_of_append_cons {α : Type} {c : α} : {a b r s : List α} → c ∉ a → c ∉ b →
    a ++ c :: r = b ++ c :: s → a = b ∧ r = s
  | [], [], _, _, _, _, h => ⟨rfl, (List.cons.inj h).2⟩
  | [], _ :: _, _, _, _, hb, h => by
    obtain ⟨rfl, -⟩ := List.cons.inj h
    exact absurd (List.mem_cons_self ..) hb
  | _ :: _, [], _, _, ha, _, h => by
    obtain ⟨rfl, -⟩ := List.cons.inj h
    exact absurd (List.mem_cons_self ..) ha
  | _ :: _, _ :: _, _, _, ha, hb, h => by
    obtain ⟨rfl, htail⟩ := List.cons.inj h
    obtain ⟨rfl, hrest⟩ := eq_of_append_cons (fun hc => ha (List.mem_cons_of_mem _ hc))
      (fun hc => hb (List.mem_cons_of_mem _ hc)) htail
    exact ⟨rfl, hrest⟩

/-- The characters of a line up to its end. -/
def Line.content (line : Line) : List Char :=
  if line.text.isEmpty then [] else (indentation line.level ++ line.text).toList

theorem Line.toList_print (line : Line) : line.print.toList = line.content ++ ['\n'] := by
  rw [Line.print, Line.content]
  split <;> simp

theorem characters_cons (line : Line) (rest : List Line) :
    characters (line :: rest) = line.content ++ '\n' :: characters rest := by
  rw [characters, List.flatMap_cons, Line.toList_print, List.append_assoc, List.singleton_append]
  rfl

theorem not_mem_indentation (level : Nat) : '\n' ∉ (indentation level).toList := by
  induction level with
  | zero => simp [indentation]
  | succ level ih => simp [indentation, ih]

/-- Lines that no newline divides are known from their characters and their number. -/
theorem content_eq_of_characters : {lines others : List Line} → {rest tail : List Char} →
    lines.length = others.length → (∀ line ∈ lines, '\n' ∉ line.content) →
    (∀ line ∈ others, '\n' ∉ line.content) →
    characters lines ++ rest = characters others ++ tail →
    lines.map Line.content = others.map Line.content ∧ rest = tail
  | [], [], _, _, _, _, _, h => ⟨rfl, h⟩
  | [], _ :: _, _, _, hlength, _, _, _ => by cases hlength
  | _ :: _, [], _, _, hlength, _, _, _ => by cases hlength
  | _ :: _, _ :: _, _, _, hlength, hlines, hothers, h => by
    obtain ⟨hline, hlines⟩ := List.forall_mem_cons.1 hlines
    obtain ⟨hother, hothers⟩ := List.forall_mem_cons.1 hothers
    simp only [characters_cons, List.append_assoc, List.cons_append] at h
    obtain ⟨hcontent, htail⟩ := eq_of_append_cons hline hother h
    obtain ⟨hcontents, hrest⟩ :=
      content_eq_of_characters (Nat.succ.inj hlength) hlines hothers htail
    exact ⟨by rw [List.map_cons, List.map_cons, hcontent, hcontents], hrest⟩

/-! ## Identifiers -/

theorem isIdentifierChar_of_mem {raw : String} {c : Char} (h : c ∈ (identifier raw).toList) :
    isIdentifierChar c = true := by
  have hmap : ∀ c ∈ raw.toList.map fun c => if isIdentifierChar c then c else '_',
      isIdentifierChar c = true := by
    rw [List.forall_mem_map]
    intro c _
    split
    · assumption
    · decide
  unfold identifier at h
  revert h
  generalize (raw.toList.map fun c => if isIdentifierChar c then c else '_') = cs at hmap
  cases cs with
  | nil =>
    intro h
    obtain rfl : c = '_' := by simpa using h
    decide
  | cons first rest =>
    intro h
    simp only at h
    split at h
    · rw [String.toList_ofList] at h
      rcases List.mem_cons.1 h with rfl | h
      · decide
      · exact hmap c h
    · rw [String.toList_ofList] at h
      exact hmap c h

/-! ## Fields -/

/-- How a language declares a field: what stands before its name, what its types are called, and
what stands behind. -/
structure Declaring where
  before : String
  type : AttributeType → String
  after : String

namespace Declaring

def text (declaring : Declaring) (field : String × AttributeType) : String :=
  declaring.before ++ identifier field.1 ++ ": " ++ declaring.type field.2 ++ declaring.after

/-- A declaration is one line, and its type can be told from it. -/
structure Lawful (declaring : Declaring) : Prop where
  before : declaring.before ≠ "" ∧ '\n' ∉ declaring.before.toList
  type : ∀ type, '\n' ∉ (declaring.type type).toList
  after : '\n' ∉ declaring.after.toList
  injective : ∀ type other, declaring.type type = declaring.type other → type = other

/-- The lines that declare fields. -/
def lines (declaring : Declaring) (level : Nat) (fields : Bag AttributeType) : List Line :=
  fields.map fun field => ⟨level, declaring.text field⟩

variable {declaring : Declaring}

theorem Lawful.content_text (lawful : declaring.Lawful) (level : Nat)
    (field : String × AttributeType) : Line.content ⟨level, declaring.text field⟩
      = (indentation level).toList ++ (declaring.before.toList ++ ((identifier field.1).toList
        ++ ':' :: ' ' :: ((declaring.type field.2).toList ++ declaring.after.toList))) := by
  have hne : (declaring.text field).isEmpty = false := by
    rw [Bool.eq_false_iff, Ne, String.isEmpty_iff]
    intro h
    have hlist := congrArg String.toList h
    simp [text, lawful.before.1] at hlist
  rw [Line.content, if_neg (by simp [hne])]
  simp [text]

theorem Lawful.not_mem_content (lawful : declaring.Lawful) {level : Nat}
    {fields : Bag AttributeType} : ∀ line ∈ declaring.lines level fields, '\n' ∉ line.content := by
  intro line hline
  obtain ⟨field, -, rfl⟩ := List.mem_map.1 hline
  have hidentifier : '\n' ∉ (identifier field.1).toList := fun h =>
    absurd (isIdentifierChar_of_mem h) (by decide)
  simp [lawful.content_text, not_mem_indentation, lawful.before.2, hidentifier, lawful.type,
    lawful.after]

theorem Lawful.content_inj (lawful : declaring.Lawful) {level : Nat}
    {field other : String × AttributeType}
    (h : Line.content ⟨level, declaring.text field⟩ = Line.content ⟨level, declaring.text other⟩) :
    (identifier field.1, field.2) = (identifier other.1, other.2) := by
  -- No identifier holds the colon that ends it.
  have hcolon : ∀ raw, ':' ∉ (identifier raw).toList := fun raw h =>
    absurd (isIdentifierChar_of_mem h) (by decide)
  rw [lawful.content_text, lawful.content_text, List.append_cancel_left_eq,
    List.append_cancel_left_eq] at h
  obtain ⟨hname, htype⟩ := eq_of_append_cons (hcolon field.1) (hcolon other.1) h
  obtain ⟨-, htype⟩ := List.cons.inj htype
  rw [List.append_cancel_right_eq, String.toList_inj] at htype
  rw [String.toList_inj] at hname
  rw [hname, lawful.injective _ _ htype]

end Declaring

/-- Fields as code tells them apart: by the identifiers of their names. -/
def namedFields (fields : Bag AttributeType) : List (String × AttributeType) :=
  fields.map fun field => (identifier field.1, field.2)

theorem Declaring.Lawful.namedFields_eq {declaring : Declaring} (lawful : declaring.Lawful)
    {level : Nat} : {fields others : Bag AttributeType} →
    (declaring.lines level fields).map Line.content
      = (declaring.lines level others).map Line.content → namedFields fields = namedFields others
  | [], [], _ => rfl
  | [], _ :: _, h | _ :: _, [], h => by cases h
  | _ :: _, _ :: _, h => by
    obtain ⟨hfield, hrest⟩ := List.cons.inj h
    simp only [namedFields, List.map_cons, lawful.content_inj hfield]
    rw [List.cons_inj_right]
    exact lawful.namedFields_eq hrest

theorem Declaring.lines_congr (declaring : Declaring) (level : Nat) {fields others : Bag AttributeType}
    (h : namedFields fields = namedFields others) :
    declaring.lines level fields = declaring.lines level others := by
  have hlines : ∀ fields : Bag AttributeType, declaring.lines level fields
      = (namedFields fields).map fun field => ⟨level, declaring.before ++ field.1 ++ ": "
        ++ declaring.type field.2 ++ declaring.after⟩ := by
    simp [Declaring.lines, namedFields, Declaring.text]
  rw [hlines, hlines, h]

/-- Two groups of declarations in one text are known from it when their sizes are. -/
theorem Declaring.Lawful.characters_eq_iff {declaring : Declaring} (lawful : declaring.Lawful)
    (before middle after : List Line) (level deeper : Nat)
    {first second other another : Bag AttributeType} (hfirst : first.length = other.length)
    (hsecond : second.length = another.length) :
    characters (before ++ (declaring.lines level first
        ++ (middle ++ (declaring.lines deeper second ++ after))))
      = characters (before ++ (declaring.lines level other
        ++ (middle ++ (declaring.lines deeper another ++ after))))
      ↔ namedFields first = namedFields other ∧ namedFields second = namedFields another := by
  have hlength : ∀ {fields others : Bag AttributeType} (level : Nat),
      fields.length = others.length →
      (declaring.lines level fields).length = (declaring.lines level others).length := by
    intro fields others level h
    simp [Declaring.lines, h]
  constructor
  · intro h
    simp only [characters_append, List.append_cancel_left_eq] at h
    obtain ⟨hnamed, h⟩ := content_eq_of_characters (hlength level hfirst) lawful.not_mem_content
      lawful.not_mem_content h
    rw [List.append_cancel_left_eq] at h
    obtain ⟨hothers, -⟩ := content_eq_of_characters (hlength deeper hsecond)
      lawful.not_mem_content lawful.not_mem_content h
    exact ⟨lawful.namedFields_eq hnamed, lawful.namedFields_eq hothers⟩
  · rintro ⟨hnamed, hothers⟩
    rw [declaring.lines_congr level hnamed, declaring.lines_congr deeper hothers]

end Widgetry.Code
