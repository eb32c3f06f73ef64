import Widgetry.Source.Grammar.Basic

/-!
Modifiers: the words before a member or a parameter that change what it is. They have an order, and
some exclude each other.
-/

namespace Widgetry.Source.Grammar

/-- The words that say who may use a member. -/
def accessModifiers : List String := ["public", "private", "protected"]

/-- The words that can stand before a member. -/
def memberModifiers : List String :=
  accessModifiers
    ++ ["abstract", "accessor", "async", "declare", "override", "readonly", "static"]

/-- The modifiers that cannot stand before the given one. -/
def excludedBefore : String → List String
  | "public" | "private" | "protected" =>
    accessModifiers ++ ["abstract", "accessor", "async", "override", "readonly", "static"]
  | "static" => ["abstract", "accessor", "async", "override", "readonly"]
  | "abstract" => ["accessor", "async", "override", "private", "static"]
  | "override" => ["accessor", "async", "declare", "readonly"]
  | "declare" => ["async", "override"]
  | "accessor" => ["declare", "readonly"]
  | "readonly" => ["accessor"]
  | "async" => ["abstract", "declare"]
  | "in" => ["out"]
  | _ => []

/-- What can follow a modifier: the start of a member or of a parameter. -/
def isAfterModifier : Parser Bool := do
  match ← token with
  | .word .. | .string _ | .number _ | .bigInteger | .privateName _ => return true
  | .mark text => return ["[", "*", "..."].contains text
  | _ => return false

/-- The current word modifies what follows. Only `static` may stand on a line of its own. -/
def isModifier (word : String) : Parser Bool := ahead do
  expectWord word
  if word != "static" && (← afterNewline) then return false
  isAfterModifier

/-- Modifiers out of a list of words behind those that were seen. A second `static` is the name of
a member. -/
def modifiersAfter (words : List String) : Nat → List String → Parser (List String)
  | 0, _ => failure
  | fuel + 1, seen => do
    match ← plainWord? with
    | none => return seen
    | some word =>
      let isName := word = "static" && seen.contains word
      if words.contains word && !isName && (← isModifier word) then
        flawIf (seen.contains word || (excludedBefore word).any seen.contains)
        advance
        modifiersAfter words fuel (seen ++ [word])
      else return seen

def modifiers (g : Grammar) (words : List String) : Parser (List String) :=
  modifiersAfter words g.fuel []

/-- Modifiers that do not all belong to the words that are possible. -/
def areMisplaced (possible found : List String) : Bool := !found.all possible.contains

end Widgetry.Source.Grammar
