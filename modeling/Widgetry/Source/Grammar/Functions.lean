import Widgetry.Source.Grammar.Types

/-!
The bodies of functions, and what a function has besides its meaning: the forms that accessors and
constructors may not have depend on it.
-/

namespace Widgetry.Source.Grammar

/-! ## Bodies -/

/-- Statements up to a closing brace or the end. -/
def statementsUntil (g : Grammar) (stop : Token) : Parser (List Statement) :=
  many g.fuel do
    if (← token) == stop then return none else return some (← g.statement)

/-- Quoted statements at the start, which say how to read the rest. -/
def skipDirectives (g : Grammar) : Parser Unit := do
  let _ ← many g.fuel do
    let isDirective ← ahead do
      match ← token with
      | .string _ =>
        match ← g.statement with
        | .expression (.string _) => return true
        | _ => return false
      | _ => return false
    if isDirective then
      let _ ← g.statement
      return some ()
    else return none

/-- The braces of a body. -/
def block (g : Grammar) (isAsync isGenerator : Bool) : Parser (List Statement) := do
  expectMark "\x7b"
  let inside : Context → Context := fun c =>
    { ambient := c.ambient, allowReturn := true, allowAwait := isAsync, allowYield := isGenerator }
  let statements ← within inside do
    skipDirectives g
    statementsUntil g (.mark "\x7d")
  expectMark "\x7d"
  return statements

/-- A function with what was written in its head. -/
structure FunctionForm where
  value : Function
  parameters : Parameters
  isGeneric : Bool
  hasResult : Bool
  hasBody : Bool

/-- What a function is read as. -/
structure FunctionRole where
  isAsync : Bool := false
  isGenerator : Bool := false
  isConstructor : Bool := false

/-- Parameters, result and body, which may be missing in typed files. An ambient function does not
yield. -/
def functionForm (g : Grammar) (role : FunctionRole) : Parser FunctionForm := do
  flawIf (role.isGenerator && (← context).ambient)
  let isGeneric := (← isTyped) && (← isMark "<")
  optionalTypeParameters g
  let inside : Context → Context := fun c =>
    { c with allowAwait := role.isAsync, allowYield := role.isGenerator, inDecorator := false }
  let parameters ← within inside (parameters g role.isConstructor)
  let hasResult ← optionalResult g
  let hasBody ← isMark "\x7b"
  let body ←
    if hasBody then pure (.block (← block g role.isAsync role.isGenerator))
    else
      require (← isTyped)
      endStatement
      pure .absent
  return ⟨.mk parameters.params parameters.rest body, parameters, isGeneric, hasResult, hasBody⟩

/-- What is read has no parameters; what is written has one, and no result. -/
def FunctionForm.isAccessor (form : FunctionForm) (writes isTyped : Bool) : Bool :=
  let found := form.parameters
  if writes then
    found.params.length = 1 && !found.hasRest && !form.hasResult && !(isTyped && found.hasDefault)
  else found.params.isEmpty && !found.hasRest

/-- The body of an arrow function. -/
def arrowBody (g : Grammar) (isAsync allowResult : Bool) : Parser Body := do
  if ← isMark "\x7b" then return .block (← block g isAsync false)
  else
    let inside : Context → Context := fun c => { c with allowAwait := isAsync, allowYield := false }
    return .concise (← within inside (g.assignment allowResult))

end Widgetry.Source.Grammar
