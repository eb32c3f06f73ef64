import Widgetry.Code.Phrase

/-!
Generated code: lines, and blocks whose lines stand one level deeper.
-/

namespace Widgetry

mutual

inductive Code where
  | blank
  | line (phrase : Code.Phrase)
  /-- A comment on a line of its own. -/
  | remark (text : String)
  /-- A bracket that is opened behind `head`, with `lead` behind it and `body` below. The sections
  that follow close it and open it again. -/
  | block (bracket : Code.Bracket) (head : Code.Phrase) (lead : String) (body : List Code)
    (sections : List CodeSection)

inductive CodeSection where
  | mk (head : Code.Phrase) (lead : String) (body : List Code)

end

namespace Code

/-- A line of code with its level. -/
structure Line where
  level : Nat
  text : String
deriving DecidableEq, Repr

def indentation : Nat → String
  | 0 => ""
  | level + 1 => "    " ++ indentation level

/-- A line as it is printed; nothing stands in front of an empty one. -/
def Line.print (line : Line) : String :=
  (if line.text.isEmpty then "" else indentation line.level ++ line.text) ++ "\n"

mutual

def lines (quoting : Quoting) (level : Nat) : Code → List Line
  | .blank => [⟨level, ""⟩]
  | .line phrase => [⟨level, Phrase.phraseText quoting phrase⟩]
  | .remark text => [⟨level, "// " ++ oneLine text⟩]
  | .block bracket head lead body sections =>
    ⟨level, Phrase.phraseText quoting head ++ bracket.opening ++ lead⟩
      :: (linesOfAll quoting (level + 1) body ++ linesOfSections quoting level bracket sections)

def linesOfAll (quoting : Quoting) (level : Nat) : List Code → List Line
  | [] => []
  | code :: rest => lines quoting level code ++ linesOfAll quoting level rest

/-- The lines from the end of a body to the end of its block. -/
def linesOfSections (quoting : Quoting) (level : Nat) (bracket : Bracket) :
    List CodeSection → List Line
  | [] => [⟨level, bracket.closing⟩]
  | .mk head lead body :: rest =>
    ⟨level, bracket.closing ++ Phrase.phraseText quoting head ++ bracket.opening ++ lead⟩
      :: (linesOfAll quoting (level + 1) body ++ linesOfSections quoting level bracket rest)

end

/-- The text of some code. -/
def print (quoting : Quoting) (code : List Code) : String :=
  String.join ((linesOfAll quoting 0 code).map Line.print)

/-! ## Short forms -/

/-- A line of one word. -/
def say (text : String) : Code := .line (Phrase.word text)

/-- A block in braces. -/
def braces (head : Phrase) (body : List Code) : Code :=
  .block .curly (head ++ Phrase.word " ") "" body []

/-- A block in braces behind a plain head. -/
def enclose (head : String) (body : List Code) : Code := braces (Phrase.word head) body

end Code

/-- A generated file; its path is seen from the folder of its platform. -/
structure CodeFile where
  path : String
  content : String
deriving DecidableEq, Repr

end Widgetry
