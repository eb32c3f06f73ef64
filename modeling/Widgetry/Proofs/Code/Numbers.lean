import Mathlib.Data.List.Basic
import Widgetry.Code.Basic

/-!
The numbers in generated code. What holds for all numbers of a phrase or of some code is known from
its parts.
-/

namespace Widgetry.Code

variable {P : Float → Prop}

/-! ## Phrases -/

namespace Phrase

mutual

/-- The numbers of a fragment, as they are printed. -/
def fragmentNumbers : Fragment → List Float
  | .number value _ => [value]
  | .group _ inner => numbers inner
  | .word _ | .quoted _ | .note _ => []

def numbers : List Fragment → List Float
  | [] => []
  | fragment :: rest => fragmentNumbers fragment ++ numbers rest

end

/-- All numbers of a phrase satisfy `P`. -/
def NumbersIn (P : Float → Prop) (phrase : Phrase) : Prop := ∀ x ∈ numbers phrase, P x

@[simp] theorem numbersIn_nil : NumbersIn P [] := List.forall_mem_nil P

theorem numbersIn_cons {fragment : Fragment} {rest : Phrase} :
    NumbersIn P (fragment :: rest)
      ↔ (∀ x ∈ fragmentNumbers fragment, P x) ∧ NumbersIn P rest := by
  rw [NumbersIn, numbers, List.forall_mem_append, NumbersIn]

@[simp] theorem numbersIn_append {phrase other : Phrase} :
    NumbersIn P (phrase ++ other) ↔ NumbersIn P phrase ∧ NumbersIn P other := by
  induction phrase with
  | nil => simp
  | cons fragment rest ih => rw [List.cons_append, numbersIn_cons, ih, numbersIn_cons, and_assoc]

@[simp] theorem numbersIn_flatMap {α : Type} {items : List α} {phrase : α → Phrase} :
    NumbersIn P (items.flatMap phrase) ↔ ∀ item ∈ items, NumbersIn P (phrase item) := by
  induction items with
  | nil => simp
  | cons item rest ih => rw [List.flatMap_cons, numbersIn_append, ih, List.forall_mem_cons]

@[simp] theorem numbersIn_cons_word {text : String} {rest : Phrase} :
    NumbersIn P (.word text :: rest) ↔ NumbersIn P rest := by
  simp [numbersIn_cons, fragmentNumbers]

@[simp] theorem numbersIn_cons_note {text : String} {rest : Phrase} :
    NumbersIn P (.note text :: rest) ↔ NumbersIn P rest := by
  simp [numbersIn_cons, fragmentNumbers]

@[simp] theorem numbersIn_cons_group {bracket : Bracket} {inner rest : Phrase} :
    NumbersIn P (.group bracket inner :: rest) ↔ NumbersIn P inner ∧ NumbersIn P rest := by
  rw [numbersIn_cons, fragmentNumbers]
  rfl

@[simp] theorem numbersIn_word (text : String) : NumbersIn P (word text) := by simp [word]

@[simp] theorem numbersIn_quoted (text : String) : NumbersIn P (quoted text) := by
  simp [quoted, numbersIn_cons, fragmentNumbers]

@[simp] theorem numbersIn_measure {x : Float} {unit : String} :
    NumbersIn P (measure x unit) ↔ P (Double.unsigned x) := by
  simp [measure, numbersIn_cons, fragmentNumbers]

/-- All numbers of several phrases satisfy `P`. -/
def AllNumbersIn (P : Float → Prop) (phrases : List Phrase) : Prop :=
  ∀ phrase ∈ phrases, NumbersIn P phrase

@[simp] theorem allNumbersIn_nil : AllNumbersIn P [] := List.forall_mem_nil _

@[simp] theorem allNumbersIn_cons {phrase : Phrase} {rest : List Phrase} :
    AllNumbersIn P (phrase :: rest) ↔ NumbersIn P phrase ∧ AllNumbersIn P rest :=
  List.forall_mem_cons

@[simp] theorem allNumbersIn_append {phrases others : List Phrase} :
    AllNumbersIn P (phrases ++ others) ↔ AllNumbersIn P phrases ∧ AllNumbersIn P others :=
  List.forall_mem_append

@[simp] theorem allNumbersIn_ite {condition : Prop} [Decidable condition]
    {phrases others : List Phrase} :
    AllNumbersIn P (if condition then phrases else others)
      ↔ (condition → AllNumbersIn P phrases) ∧ (¬ condition → AllNumbersIn P others) := by
  split <;> simp_all

@[simp] theorem allNumbersIn_map {α : Type} {items : List α} {phrase : α → Phrase} :
    AllNumbersIn P (items.map phrase) ↔ ∀ item ∈ items, NumbersIn P (phrase item) :=
  List.forall_mem_map

theorem allNumbersIn_filterMap {α : Type} {items : List α} {phrase? : α → Option Phrase}
    (h : ∀ item ∈ items, ∀ phrase ∈ phrase? item, NumbersIn P phrase) :
    AllNumbersIn P (items.filterMap phrase?) := by
  intro phrase hphrase
  obtain ⟨item, hitem, hsome⟩ := List.mem_filterMap.1 hphrase
  exact h item hitem phrase hsome

@[simp] theorem numbersIn_joined {separator : String} : {phrases : List Phrase} →
    (NumbersIn P (joined separator phrases) ↔ AllNumbersIn P phrases)
  | [] => by simp [joined]
  | [last] => by simp [joined]
  | first :: second :: rest => by
    have ih := @numbersIn_joined separator (second :: rest)
    simp only [joined, numbersIn_append, numbersIn_cons_word, ih, allNumbersIn_cons]

@[simp] theorem numbersIn_call {name : String} {arguments : List Phrase} :
    NumbersIn P (call name arguments) ↔ AllNumbersIn P arguments := by
  simp [call]

@[simp] theorem numbersIn_braced {inner : Phrase} :
    NumbersIn P (braced inner) ↔ NumbersIn P inner := by
  simp [braced]

end Phrase

/-! ## Code -/

mutual

def numbers : Code → List Float
  | .blank | .remark _ => []
  | .line phrase => Phrase.numbers phrase
  | .block _ head _ body sections =>
    Phrase.numbers head ++ numbersOfAll body ++ numbersOfSections sections

/-- The numbers of some code, in the order in which they are printed. -/
def numbersOfAll : List Code → List Float
  | [] => []
  | code :: rest => numbers code ++ numbersOfAll rest

def numbersOfSections : List CodeSection → List Float
  | [] => []
  | .mk head _ body :: rest =>
    Phrase.numbers head ++ numbersOfAll body ++ numbersOfSections rest

end

/-- All numbers of some code satisfy `P`. -/
def NumbersIn (P : Float → Prop) (code : Code) : Prop := ∀ x ∈ numbers code, P x

/-- All numbers of several pieces of code satisfy `P`. -/
def AllNumbersIn (P : Float → Prop) (code : List Code) : Prop := ∀ x ∈ numbersOfAll code, P x

@[simp] theorem allNumbersIn_nil : AllNumbersIn P [] := List.forall_mem_nil P

@[simp] theorem allNumbersIn_cons {code : Code} {rest : List Code} :
    AllNumbersIn P (code :: rest) ↔ NumbersIn P code ∧ AllNumbersIn P rest := by
  rw [AllNumbersIn, numbersOfAll, List.forall_mem_append, NumbersIn, AllNumbersIn]

@[simp] theorem allNumbersIn_append {code others : List Code} :
    AllNumbersIn P (code ++ others) ↔ AllNumbersIn P code ∧ AllNumbersIn P others := by
  induction code with
  | nil => simp
  | cons first rest ih => rw [List.cons_append, allNumbersIn_cons, ih, allNumbersIn_cons, and_assoc]

theorem allNumbersIn_iff {code : List Code} :
    AllNumbersIn P code ↔ ∀ part ∈ code, NumbersIn P part := by
  induction code with
  | nil => simp
  | cons first rest ih => rw [allNumbersIn_cons, ih, List.forall_mem_cons]

@[simp] theorem allNumbersIn_ite {condition : Prop} [Decidable condition]
    {code others : List Code} :
    AllNumbersIn P (if condition then code else others)
      ↔ (condition → AllNumbersIn P code) ∧ (¬ condition → AllNumbersIn P others) := by
  split <;> simp_all

@[simp] theorem allNumbersIn_map {α : Type} {items : List α} {code : α → Code} :
    AllNumbersIn P (items.map code) ↔ ∀ item ∈ items, NumbersIn P (code item) := by
  rw [allNumbersIn_iff, List.forall_mem_map]

@[simp] theorem allNumbersIn_flatMap {α : Type} {items : List α} {code : α → List Code} :
    AllNumbersIn P (items.flatMap code) ↔ ∀ item ∈ items, AllNumbersIn P (code item) := by
  induction items with
  | nil => simp
  | cons item rest ih =>
    rw [List.flatMap_cons, allNumbersIn_append, ih, List.forall_mem_cons]

theorem allNumbersIn_filterMap {α : Type} {items : List α} {code? : α → Option Code}
    (h : ∀ item ∈ items, ∀ code ∈ code? item, NumbersIn P code) :
    AllNumbersIn P (items.filterMap code?) := by
  rw [allNumbersIn_iff]
  intro code hcode
  obtain ⟨item, hitem, hsome⟩ := List.mem_filterMap.1 hcode
  exact h item hitem code hsome

@[simp] theorem numbersIn_blank : NumbersIn P .blank := List.forall_mem_nil P

@[simp] theorem numbersIn_remark (text : String) : NumbersIn P (.remark text) :=
  List.forall_mem_nil P

@[simp] theorem numbersIn_line {phrase : Phrase} :
    NumbersIn P (.line phrase) ↔ phrase.NumbersIn P := Iff.rfl

@[simp] theorem numbersIn_say (text : String) : NumbersIn P (say text) := by simp [say]

@[simp] theorem numbersIn_block {bracket : Bracket} {head : Phrase} {lead : String}
    {body : List Code} :
    NumbersIn P (.block bracket head lead body []) ↔ head.NumbersIn P ∧ AllNumbersIn P body := by
  simp only [NumbersIn, numbers, numbersOfSections, List.append_nil, List.forall_mem_append,
    AllNumbersIn, Phrase.NumbersIn]

/-- A block with sections is like a block for each of them. -/
@[simp] theorem numbersIn_sections {bracket : Bracket} {head next : Phrase} {lead nextLead : String}
    {body nextBody : List Code} {sections : List CodeSection} :
    NumbersIn P (.block bracket head lead body (.mk next nextLead nextBody :: sections))
      ↔ NumbersIn P (.block bracket head lead body []) ∧
        NumbersIn P (.block bracket next nextLead nextBody sections) := by
  simp only [NumbersIn, numbers, numbersOfSections, List.append_nil, List.forall_mem_append]

@[simp] theorem numbersIn_braces {head : Phrase} {body : List Code} :
    NumbersIn P (braces head body) ↔ head.NumbersIn P ∧ AllNumbersIn P body := by
  simp [braces]

@[simp] theorem numbersIn_enclose {head : String} {body : List Code} :
    NumbersIn P (enclose head body) ↔ AllNumbersIn P body := by
  simp [enclose]

end Widgetry.Code
