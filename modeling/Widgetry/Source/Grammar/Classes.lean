import Widgetry.Source.Grammar.Commas

/-!
The grammar of classes. A class has no value here; its parts are what its decorators, its parent,
its computed names, its fields and its methods contain.
-/

namespace Widgetry.Source.Grammar

/-! ## Names of members -/

/-- The name of a member: its text when it is written down, and the expression that computes it
otherwise. -/
structure MemberKey where
  name : Option String
  isPrivate : Bool
  parts : List Part

def memberKey (g : Grammar) : Parser MemberKey := do
  match ← token with
  | .mark "[" =>
    advance
    let key ← fullAssignment g
    expectMark "]"
    return ⟨none, false, [partOf key]⟩
  | .word name _ | .string name =>
    advance
    return ⟨some name, false, []⟩
  | .privateName name =>
    advance
    return ⟨some name, true, []⟩
  | .number _ | .bigInteger =>
    advance
    return ⟨none, false, []⟩
  | _ => failure

/-- The name is written down as the given one. -/
def MemberKey.isPlain (key : MemberKey) (name : String) : Bool :=
  !key.isPrivate && key.name = some name

/-- The name of a member of a class. A private member has its own protection and is not called
`constructor`. -/
def classKey (g : Grammar) (found : List String) : Parser MemberKey := do
  let key ← memberKey g
  flawIf (key.isPrivate && (key.name = some "constructor" || found.any accessModifiers.contains))
  return key

/-- The current word stands before the name of a member. -/
def isBeforeMember (allowStar : Bool) : Parser Bool := ahead do
  advance
  match ← token with
  | .word .. | .string _ | .number _ | .bigInteger | .privateName _ => return true
  | .mark "[" => return true
  | .mark "*" => return allowStar
  | _ => return false

/-! ## Members -/

/-- A class cannot have a member of its own that is called `prototype`. -/
def prototypeFlaw (key : MemberKey) (found : List String) : Parser Unit := do
  flawIf (found.contains "static" && key.isPlain "prototype" && !(← context).ambient)

/-- A member that is computed when it is read or written. -/
def classAccessor (g : Grammar) (found : List String) : Parser (List Part) := do
  let writes ← isWord "set"
  advance
  let key ← classKey g found
  let form ← functionForm g {}
  flawIf (!form.isAccessor writes (← isTyped))
  flawIf (areMisplaced (accessModifiers ++ ["abstract", "override", "static"]) found)
  flawIf (key.isPlain "constructor" && !found.contains "static")
  flawIf (found.contains "abstract" && form.hasBody)
  prototypeFlaw key found
  return key.parts ++ [partOf (.function form.value)]

/-- What makes an instance: it is not generic, states no result, and has no decorators. -/
def constructorMember (g : Grammar) (isDecorated : Bool) (found : List String) :
    Parser (List Part) := do
  let form ← functionForm g { isConstructor := true }
  flawIf (areMisplaced accessModifiers found || isDecorated)
  flawIf (form.isGeneric || form.hasResult || form.parameters.hasThis)
  return [partOf (.function form.value)]

/-- A method after its name. Only one with a body has decorators, and an abstract one has none. -/
def classMethod (g : Grammar) (isDecorated isGenerator : Bool) (found : List String)
    (key : MemberKey) : Parser (List Part) := do
  let isAsync := found.contains "async"
  let form ← functionForm g { isAsync, isGenerator }
  flawIf (areMisplaced (accessModifiers ++ ["abstract", "async", "override", "static"]) found)
  flawIf (key.isPlain "constructor" && !found.contains "static" && (isGenerator || isAsync))
  flawIf (found.contains "abstract" && form.hasBody)
  flawIf (isDecorated && !form.hasBody)
  prototypeFlaw key found
  return key.parts ++ [partOf (.function form.value)]

/-- A field after its name. One that is accessed by functions of its own cannot be optional, and an
abstract one has no value. -/
def classField (g : Grammar) (isOptional : Bool) (found : List String) (key : MemberKey) :
    Parser (List Part) := do
  let isDefinite ← if (← isTyped) && !(← afterNewline) then eatMark "!" else pure false
  let hasAccessors := found.contains "accessor"
  flawIf (isOptional && (isDefinite || hasAccessors))
  let _ ← optionalAnnotation g
  let inside : Context → Context := fun c =>
    { c with allowAwait := false, allowYield := false, allowIn := true, inDecorator := false }
  let value ←
    if ← eatMark "=" then pure [partOf (← within inside (g.assignment true))] else pure []
  endStatement
  let possible :=
    if hasAccessors then ["abstract", "accessor", "override", "static"]
    else ["abstract", "declare", "override", "readonly", "static"]
  flawIf (areMisplaced (accessModifiers ++ possible) found)
  flawIf (key.isPlain "constructor")
  flawIf (found.contains "abstract" && !value.isEmpty)
  prototypeFlaw key found
  return key.parts ++ value

/-- A field or a method after its modifiers. -/
def classMember (g : Grammar) (isDecorated : Bool) (found : List String) : Parser (List Part) := do
  if (← isOneWordOf ["get", "set"]) && (← isBeforeMember false) then
    return ← classAccessor g found
  let isGenerator ← eatMark "*"
  let key ← classKey g found
  let isOptional ← optionalMark
  if isGenerator || (← isOneOf ["(", "<"]) then
    let isConstructor := key.isPlain "constructor" && !isGenerator && !isOptional
      && ((← isTyped) || !found.contains "static")
    if isConstructor then constructorMember g isDecorated found
    else classMethod g isDecorated isGenerator found key
  else classField g isOptional found key

/-! ## Bodies -/

/-- Statements that are run once, when the class is made. -/
def classBlock (g : Grammar) : Parser (List Part) := do
  expectWord "static"
  expectMark "\x7b"
  let inside : Context → Context := fun c => { ambient := c.ambient, allowAwait := true }
  let statements ← within inside (statementsUntil g (.mark "\x7d"))
  expectMark "\x7d"
  return statements.map .statement

/-- An element of a class body. -/
def classElement (g : Grammar) : Parser (List Part) := do
  if ← eatMark ";" then return []
  let head ← decorators g
  if ← ahead (do expectWord "static"; isMark "\x7b") then
    flawIf (!head.isEmpty)
    return head ++ (← classBlock g)
  let words := if ← isTyped then memberModifiers else ["accessor", "async", "static"]
  let found ← modifiers g words
  if (← isTyped) && (← isIndexStart) then
    flawIf (!head.isEmpty || areMisplaced ["readonly", "static"] found)
    indexSignature g
    endMember
    return head
  return head ++ (← classMember g (!head.isEmpty) found)

def classBody (g : Grammar) : Parser (List Part) := do
  expectMark "\x7b"
  let elements ← many g.fuel do
    if ← isMark "\x7d" then return none
    return some (← within (fun c => { c with inDecorator := false }) (classElement g))
  expectMark "\x7d"
  return elements.flatten

/-- A class after its keyword: a name if there is one, its parent, interfaces and body. -/
def classRest (g : Grammar) : Parser (List Part) := do
  if ← isName then
    if !((← isTyped) && (← isWord "implements")) then
      let _ ← name
  optionalTypeParameters g
  let parent ←
    if ← eatWord "extends" then
      let value ← g.leftHand
      if (← isTyped) && (← atAngle) then typeArguments g
      pure [partOf value]
    else pure []
  if (← isTyped) && (← eatWord "implements") then
    typeReference g
    let _ ← many g.fuel do
      if ← eatMark "," then
        typeReference g
        return some ()
      else return none
  return parent ++ (← classBody g)

/-- A class with its keyword. -/
def classRule (g : Grammar) : Parser (List Part) := do
  expectWord "class"
  classRest g

end Widgetry.Source.Grammar
