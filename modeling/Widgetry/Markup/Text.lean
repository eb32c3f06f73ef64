import Widgetry.Text.Blank

/-!
Text between tags: the blanks around line ends are dropped, empty lines are left out, and lines
are joined by single blanks.
-/

namespace Widgetry.Markup

/-- The lines of a text; there is always at least one. -/
def splitLines : List Char → List (List Char)
  | [] => [[]]
  | '\n' :: rest => [] :: splitLines rest
  | c :: rest =>
    match splitLines rest with
    | [] => [[c]]
    | line :: lines => (c :: line) :: lines

def isIndent (c : Char) : Bool := c = ' ' || c = '\t'

/-- A line without the carriage return at its end. -/
def dropReturn (line : List Char) : List Char :=
  if line.getLast? = some '\r' then line.dropLast else line

/-- Trims a line on the sides where another line touches it. -/
def trimLine (isFirst isLast : Bool) (line : List Char) : List Char :=
  let line := if isFirst then line else line.dropWhile isIndent
  if isLast then line else Text.dropEndWhile isIndent line

/-- Trims the lines of a text; `isFirst` tells whether the first of them is the text's first. -/
def trimLines (isFirst : Bool) : List (List Char) → List (List Char)
  | [] => []
  | [line] => [trimLine isFirst true line]
  | line :: rest => trimLine isFirst false line :: trimLines false rest

/-- The text of markup as it is shown. -/
def normalizeText (raw : String) : String :=
  let lines := (splitLines raw.toList).map dropReturn
  let kept := (trimLines true lines).filter fun line => !line.isEmpty
  String.ofList ([' '].intercalate kept)

end Widgetry.Markup
