import Widgetry.Source.Grammar.Functions

/-!
Expressions with commas, templates and lists of arguments.
-/

namespace Widgetry.Source.Grammar

/-- Expressions joined by commas; only the last one would count, and it has no value here. -/
def expression (g : Grammar) : Parser Expr := do
  let first ← g.assignment true
  if ← isMark "," then
    let rest ← many g.fuel do
      if ← eatMark "," then return some (partOf (← g.assignment true)) else return none
    return .other (partOf first :: rest)
  else return first

/-- An expression in which `in` is an operator. -/
def fullExpression (g : Grammar) : Parser Expr :=
  within (fun c => { c with allowIn := true, inDecorator := false }) (expression g)

def fullAssignment (g : Grammar) : Parser Expr :=
  within (fun c => { c with allowIn := true, inDecorator := false }) (g.assignment true)

/-- The holes of a template that are left, and the text after each of them. -/
def templateRest (g : Grammar) : Nat → Parser (List (Option String) × List Expr)
  | 0 => failure
  | fuel + 1 => do
    let hole ← fullExpression g
    require (← isMark "\x7d")
    relex Lexer.templateTail
    match ← token with
    | .template text isLast =>
      advance
      if isLast then return ([text], [hole])
      let (texts, holes) ← templateRest g fuel
      return (text :: texts, hole :: holes)
    | _ => failure

/-- The texts and holes of a template; the current token is its first text. -/
def templatePieces (g : Grammar) : Parser (List (Option String) × List Expr) := do
  match ← token with
  | .template text isLast =>
    advance
    if isLast then return ([text], [])
    let (texts, holes) ← templateRest g g.fuel
    return (text :: texts, holes)
  | _ => failure

/-- Items between brackets or parentheses, with gaps where they are allowed. -/
def items (g : Grammar) (close : String) (allowGaps : Bool) : Parser (List Item) := do
  let found ← many g.fuel do
    if ← isMark close then return none
    if allowGaps && (← isMark ",") then
      advance
      return some .hole
    let isSpread ← eatMark "..."
    let value ← fullAssignment g
    let isLast ← isMark close
    if !isLast then expectMark ","
    return some (if isSpread then .spread value (!isLast) else .value value)
  expectMark close
  return found

/-- The arguments of a call. -/
def arguments (g : Grammar) : Parser (List Item) := do
  expectMark "("
  items g ")" false

/-- Items as parts of a form that has no value. -/
def itemParts (items : List Item) : List Part :=
  items.filterMap fun
    | .value value => some (partOf value)
    | .spread value _ => some (partOf value)
    | .hole => none

end Widgetry.Source.Grammar
