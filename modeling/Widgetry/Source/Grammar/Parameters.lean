import Widgetry.Source.Grammar.Modifiers

/-!
Binding patterns, decorators and the parameters of functions.
-/

namespace Widgetry.Source.Grammar

def partOf (value : Expr) : Part := .expression value

/-- A type after a colon, where types are allowed; the answer tells whether there is one. -/
def optionalAnnotation (g : Grammar) : Parser Bool := do
  if (← isTyped) && (← isMark ":") then
    advance
    g.type
    return true
  else return false

/-- A question mark where types are allowed. -/
def optionalMark : Parser Bool := do
  if ← isTyped then eatMark "?" else return false

/-! ## Patterns -/

/-- The value that stands in for a missing one. -/
def optionalDefault (g : Grammar) : Parser (List Part) := do
  if ← eatMark "=" then
    let inside : Context → Context := fun c => { c with allowIn := true, inDecorator := false }
    return [partOf (← within inside (g.assignment true))]
  else return []

/-- A pattern inside another one. -/
def nestedBinding (g : Grammar) : Parser Binding := do
  let binding ← g.binding
  let _ ← optionalMark
  let _ ← optionalAnnotation g
  let value ← optionalDefault g
  return { binding with parts := binding.parts ++ value }

/-- The pattern for what is left over, up to the closing mark. It cannot be optional or have a
default. -/
def restBinding (g : Grammar) (close : String) : Parser Binding := do
  expectMark "..."
  let binding ← g.binding
  flawIf (← optionalMark)
  let _ ← optionalAnnotation g
  require (← isMark close)
  return binding

/-- A pattern made of others. -/
def joinBindings (bindings : List Binding) : Binding where
  name := none
  names := bindings.flatMap Binding.names
  parts := bindings.flatMap Binding.parts

/-- A list pattern: patterns, gaps, and a rest at the end. -/
def listPattern (g : Grammar) : Parser Binding := do
  expectMark "["
  let found ← many g.fuel do
    if ← isMark "]" then return none
    if ← eatMark "," then return some ⟨none, [], []⟩
    if ← isMark "..." then return some (← restBinding g "]")
    let binding ← nestedBinding g
    if !(← isMark "]") then expectMark ","
    return some binding
  expectMark "]"
  return joinBindings found

/-- A member of an object pattern. What is left over has to be bound to a name. -/
def memberPattern (g : Grammar) : Parser Binding := do
  match ← token with
  | .mark "..." =>
    let rest ← restBinding g "\x7d"
    flawIf rest.name.isNone
    return rest
  | .mark "[" =>
    advance
    let inside : Context → Context := fun c => { c with allowIn := true, inDecorator := false }
    let key ← within inside (g.assignment true)
    expectMark "]"
    expectMark ":"
    let binding ← nestedBinding g
    return { binding with parts := partOf key :: binding.parts }
  | .string _ | .number _ | .bigInteger =>
    advance
    expectMark ":"
    nestedBinding g
  | .word .. =>
    if ← ahead (do advance; isMark ":") then
      advance
      advance
      nestedBinding g
    else
      let bound ← name
      return ⟨some bound, [bound], ← optionalDefault g⟩
  | _ => failure

def objectPattern (g : Grammar) : Parser Binding := do
  expectMark "\x7b"
  return joinBindings (← listUntil g.fuel "," "\x7d" (memberPattern g))

def bindingRule (g : Grammar) : Parser Binding := do
  match ← token with
  | .mark "[" => listPattern g
  | .mark "\x7b" => objectPattern g
  | _ =>
    let bound ← name
    return ⟨some bound, [bound], []⟩

/-! ## Decorators -/

def decorator (g : Grammar) : Parser Part := do
  expectMark "@"
  let value ← within (fun c => { c with inDecorator := true }) g.leftHand
  return partOf value

def decorators (g : Grammar) : Parser (List Part) :=
  many g.fuel do
    if ← isMark "@" then return some (← decorator g) else return none

/-! ## Parameters -/

/-- The parameters of a function. -/
structure Parameters where
  params : List Param
  /-- The parts of what is not a parameter of its own. -/
  rest : List Part
  hasThis : Bool
  hasRest : Bool
  hasDefault : Bool

/-- A parameter, or the parts of the rest of the parameters. -/
inductive ParameterItem where
  | single (param : Param) (hasDefault : Bool)
  | rest (parts : List Part)

/-- A parameter. In a constructor it may declare a member of the class, and then it is only a
name. -/
def parameter (g : Grammar) (ofConstructor : Bool) : Parser ParameterItem := do
  let head ← decorators g
  let found ← if ← isTyped then modifiers g memberModifiers else pure []
  flawIf (areMisplaced
    (if ofConstructor then accessModifiers ++ ["override", "readonly"] else ["readonly"]) found)
  if ← isMark "..." then
    flawIf (!found.isEmpty)
    let binding ← restBinding g ")"
    return .rest (head ++ binding.parts)
  let binding ← g.binding
  flawIf (!found.isEmpty && binding.name.isNone)
  let _ ← optionalMark
  let _ ← optionalAnnotation g
  let value ← optionalDefault g
  return .single (.mk binding.name (head ++ binding.parts ++ value)) (!value.isEmpty)

/-- What a typed function is called on, which can be stated before its parameters. -/
def thisParameter (g : Grammar) : Parser Bool := do
  if (← isTyped) && (← isWord "this") then
    advance
    let _ ← optionalAnnotation g
    if !(← isMark ")") then expectMark ","
    return true
  else return false

/-- The parameters in parentheses. -/
def parameters (g : Grammar) (ofConstructor : Bool) : Parser Parameters := do
  expectMark "("
  let inside : Context → Context := fun c => { c with allowIn := true, inDecorator := false }
  within inside do
    let hasThis ← thisParameter g
    let items ← listUntil g.fuel "," ")" (parameter g ofConstructor)
    return {
      params := items.filterMap fun
        | .single param _ => some param
        | .rest _ => none
      rest := items.flatMap fun
        | .single .. => []
        | .rest parts => parts
      hasThis
      hasRest := items.any fun
        | .single .. => false
        | .rest _ => true
      hasDefault := items.any fun
        | .single _ hasDefault => hasDefault
        | .rest _ => false }

end Widgetry.Source.Grammar
