import Widgetry.Source.Grammar.Parameters

/-!
The grammar of types. Types have no meaning here: they are read and forgotten.
-/

namespace Widgetry.Source.Grammar

/-! ## Names and lists of types -/

/-- Words joined by points. -/
def qualifiedName (g : Grammar) : Parser Unit := do
  let _ ← anyWord
  let _ ← many g.fuel do
    if ← eatMark "." then
      let _ ← anyWord
      return some ()
    else return none

/-- Makes an opening angle bracket out of a longer mark that starts with one. -/
def splitAngle : Parser Unit :=
  relex fun lexeme =>
    match lexeme.token with
    | .mark "<<" | .mark "<<=" | .mark "<=" =>
      { lexeme with token := .mark "<", after := lexeme.start.next }
    | _ => lexeme

/-- At an opening angle bracket, which may be the first half of a shift. -/
def atAngle : Parser Bool := isOneOf ["<", "<<"]

/-- Types in angle brackets; there is at least one. -/
def typeArguments (g : Grammar) : Parser Unit := do
  splitAngle
  expectMark "<"
  require (!(← isMark ">"))
  let _ ← listUntil g.fuel "," ">" g.type

def optionalTypeArguments (g : Grammar) : Parser Unit := do
  if (← atAngle) && !(← afterNewline) then typeArguments g

def typeReference (g : Grammar) : Parser Unit := do
  qualifiedName g
  optionalTypeArguments g

/-- One parameter of a generic: its modifiers, name, bound and default. -/
def typeParameter (g : Grammar) : Parser Unit := do
  let _ ← modifiers g ["const", "in", "out"]
  let _ ← name
  if ← eatWord "extends" then g.type
  if ← eatMark "=" then g.type

def typeParameters (g : Grammar) : Parser Unit := do
  expectMark "<"
  require (!(← isMark ">"))
  let _ ← listUntil g.fuel "," ">" (typeParameter g)

def optionalTypeParameters (g : Grammar) : Parser Unit := do
  if (← isTyped) && (← isMark "<") then typeParameters g

/-! ## Results of functions -/

/-- The word states that something holds of the name behind it. -/
def isAssertion : Parser Bool := ahead do
  expectWord "asserts"
  return ((← isName) || (← isWord "this")) && !(← afterNewline)

/-- What is asserted of a parameter. -/
def assertion (g : Grammar) : Parser Unit := do
  advance
  advance
  if ← eatWord "is" then g.type

/-- The type of a result, which may state what holds of a parameter. -/
def resultType (g : Grammar) : Parser Unit := do
  let isPredicate ← ahead do
    require (← isName)
    advance
    return (← isWord "is") && !(← afterNewline)
  if isPredicate then
    advance
    advance
  g.type

def optionalResult (g : Grammar) : Parser Bool := do
  if (← isTyped) && (← isMark ":") then
    advance
    within (fun c => { c with noConditionalType := false }) (resultType g)
    return true
  else return false

/-! ## Members of object types -/

/-- Parameters and result of a callable member. What constructs something is not called on
anything. -/
def signature (g : Grammar) (constructs : Bool) : Parser Unit := do
  optionalTypeParameters g
  let found ← parameters g false
  flawIf (constructs && found.hasThis)
  let _ ← optionalResult g

/-- The name of a member. -/
def memberName (g : Grammar) : Parser Unit := do
  match ← token with
  | .word .. | .string _ | .number _ | .bigInteger => advance
  | .mark "[" =>
    advance
    let inside : Context → Context := fun c => { c with allowIn := true, inDecorator := false }
    let _ ← within inside (g.assignment true)
    expectMark "]"
  | _ => failure

/-- A key in brackets with its type, as the members of an index have it. -/
def isIndexStart : Parser Bool := ahead do
  expectMark "["
  if ← isOneOf ["...", "]"] then return true
  require (← isAnyWord)
  advance
  return (← isOneOf [":", ","]) || ((← eatMark "?") && (← isOneOf [":", ",", "]"]))

/-- An index has one key, and key and value have types. -/
def indexSignature (g : Grammar) : Parser Unit := do
  expectMark "["
  let _ ← anyWord
  expectMark ":"
  g.type
  expectMark "]"
  expectMark ":"
  g.type

/-- What ends a member of an object type. -/
def endMember : Parser Unit := do
  if ← eatMark "," then return
  endStatement

/-- The word reads or writes the member whose name follows. -/
def isAccessor (word : String) : Parser Bool := ahead do
  expectWord word
  match ← token with
  | .word .. | .string _ | .number _ | .bigInteger | .privateName _ => return true
  | .mark "[" => return true
  | _ => return false

/-- Parameters and result of a member that is computed; one that is written has no result. -/
def accessorSignature (g : Grammar) (writes : Bool) : Parser Unit := do
  advance
  memberName g
  let _ ← parameters g false
  let hasResult ← optionalResult g
  flawIf (writes && hasResult)

/-- A member with a name: a field, a method, or one that is computed. -/
def namedTypeMember (g : Grammar) (found : List String) : Parser Unit := do
  let reads ← isAccessor "get"
  if reads || (← isAccessor "set") then
    flawIf (!found.isEmpty)
    accessorSignature g (!reads)
  else if ← isIndexStart then indexSignature g
  else
    memberName g
    let _ ← eatMark "?"
    if ← isOneOf ["(", "<"] then
      flawIf (!found.isEmpty)
      signature g false
    else
      let _ ← optionalAnnotation g

def typeMember (g : Grammar) : Parser Unit := do
  if ← isOneOf ["(", "<"] then signature g false
  else if ← ahead (do expectWord "new"; isOneOf ["(", "<"]) then
    advance
    signature g true
  else
    let found ← modifiers g memberModifiers
    flawIf (areMisplaced ["readonly"] found)
    namedTypeMember g found
  endMember

/-- The braces of an object type with its members. -/
def objectType (g : Grammar) : Parser Unit := do
  expectMark "\x7b"
  let _ ← many g.fuel do
    if ← isMark "\x7d" then return none
    typeMember g
    return some ()
  expectMark "\x7d"

/-! ## Mapped types, tuples and templates -/

def isMappedStart : Parser Bool := ahead do
  expectMark "\x7b"
  if ← isOneOf ["+", "-"] then
    advance
    return ← isWord "readonly"
  if ← isWord "readonly" then advance
  expectMark "["
  require (← isAnyWord)
  advance
  isWord "in"

def mappedType (g : Grammar) : Parser Unit := do
  expectMark "\x7b"
  if ← isOneOf ["+", "-"] then
    advance
    expectWord "readonly"
  else
    let _ ← eatWord "readonly"
  expectMark "["
  let _ ← anyWord
  expectWord "in"
  g.type
  if ← eatWord "as" then g.type
  expectMark "]"
  if ← isOneOf ["+", "-"] then
    advance
    expectMark "?"
  else
    let _ ← eatMark "?"
  let _ ← optionalAnnotation g
  let _ ← eatMark ";"
  expectMark "\x7d"

/-- An element of a tuple, which may have a name, and be optional or a rest, but not both. -/
def tupleElement (g : Grammar) : Parser Unit := do
  let isRest ← eatMark "..."
  let isNamed ← ahead do
    let _ ← anyWord
    let _ ← eatMark "?"
    isMark ":"
  if isNamed then
    let _ ← anyWord
    flawIf ((← eatMark "?") && isRest)
    expectMark ":"
    let _ ← eatMark "..."
  g.type
  let _ ← eatMark "?"

/-- A template whose holes are types. -/
def templateType (g : Grammar) : Parser Unit := do
  match ← token with
  | .template text isLast =>
    require text.isSome
    advance
    if !isLast then
      let _ ← many g.fuel do
        g.type
        require (← isMark "\x7d")
        relex Lexer.templateTail
        match ← token with
        | .template text isLast =>
          require text.isSome
          advance
          return if isLast then none else some ()
        | _ => failure
  | _ => failure

/-! ## Simple types -/

/-- A type that refers to a module: `import("path").Name<Types>`. -/
def importType (g : Grammar) : Parser Unit := do
  expectWord "import"
  expectMark "("
  match ← token with
  | .string _ => advance
  | _ => failure
  if ← eatMark "," then
    require (← isMark "\x7b")
    let _ ← g.leftHand
    let _ ← eatMark ","
  expectMark ")"
  if ← eatMark "." then qualifiedName g
  optionalTypeArguments g

/-- The current token can start a type. -/
def isTypeStart : Parser Bool := do
  match ← token with
  | .string _ | .number _ | .bigInteger | .template .. => return true
  | .mark text => return ["\x7b", "[", "(", "-", "<", "|", "&", "...", "!", "?", "*"].contains text
  | .word name _ =>
    return !isReserved name
      || ["import", "typeof", "this", "null", "void", "true", "false", "new"].contains name
  | _ => return false

/-- Words that are types of their own unless a point follows. -/
def typeWords : List String :=
  ["any", "bigint", "boolean", "never", "number", "object", "string", "symbol", "undefined",
   "unknown"]

/-- A word that is a type, or the name of one. -/
def wordType (g : Grammar) (word : String) : Parser Unit := do
  if typeWords.contains word && !(← ahead (do advance; isMark ".")) then advance
  else if ← isAssertion then assertion g
  else typeReference g

/-- A type without brackets behind it; the answer tells whether it is a tuple. -/
def simpleType (g : Grammar) : Parser Bool := do
  match ← token with
  | .string _ | .number _ | .bigInteger => advance
  | .template .. => templateType g
  | .mark "-" =>
    advance
    match ← token with
    | .number _ | .bigInteger => advance
    | _ => failure
  | .mark "\x7b" => if ← isMappedStart then mappedType g else objectType g
  | .mark "[" =>
    advance
    let _ ← listUntil g.fuel "," "]" (tupleElement g)
    return true
  | .mark "(" =>
    advance
    within (fun c => { c with noConditionalType := false }) g.type
    expectMark ")"
  | .word "import" false => importType g
  | .word "typeof" false =>
    advance
    if ← isWord "import" then importType g
    else
      qualifiedName g
      optionalTypeArguments g
  | .word "this" false =>
    advance
    if (← isWord "is") && !(← afterNewline) then
      advance
      g.type
  | .word "null" false | .word "void" false | .word "true" false | .word "false" false => advance
  | .word word _ => wordType g word
  | _ => failure
  return false

/-- Marks before a simple type that say whether it may be missing. A question mark can also stand
alone. -/
def markedType (g : Grammar) : Nat → Parser Bool
  | 0 => failure
  | fuel + 1 => do
    if ← eatMark "!" then
      let _ ← markedType g fuel
      return false
    if ← eatMark "?" then
      if !(← isOneOf [",", "\x7d", ")", ">", "=", "|"]) then g.type
      return false
    simpleType g

/-- What can stand behind a simple type: brackets of lists and look-ups, and marks that say whether
it may be missing. The answer tells whether the whole is a list. -/
def typeSuffix? (g : Grammar) : Parser (Option Bool) := do
  if ← afterNewline then return none
  match ← token with
  | .mark "[" =>
    advance
    if ← eatMark "]" then return some true
    g.type
    expectMark "]"
    return some false
  | .mark "!" =>
    advance
    return some false
  | .mark "?" =>
    if ← ahead (do advance; isTypeStart) then return none
    advance
    return some false
  | _ => return none

/-- A simple type with what stands behind it. -/
def suffixedType (g : Grammar) : Parser Bool := do
  let isTuple ← markedType g g.fuel
  let suffixes ← many g.fuel (typeSuffix? g)
  return suffixes.getLast?.getD isTuple

/-- The bound of an inferred type, unless it is the condition of the type around it. -/
def inferBound (g : Grammar) : Parser Unit := do
  expectWord "extends"
  within (fun c => { c with noConditionalType := true }) g.type
  require ((← context).noConditionalType || !(← isMark "?"))

/-- A type with the words before it. Only lists and tuples can be read-only. -/
def typeOperatorRule (g : Grammar) : Parser Bool := do
  match ← plainWord? with
  | some "keyof" | some "unique" =>
    advance
    let _ ← g.typeOperator
    return false
  | some "readonly" =>
    advance
    flawIf (!(← g.typeOperator))
    return false
  | some "infer" =>
    advance
    let _ ← name
    if ← isWord "extends" then
      let _ ← attempt (inferBound g)
    return false
  | _ => within (fun c => { c with noConditionalType := false }) (suffixedType g)

/-- Types joined by a mark, which may also stand before the first one. -/
def joinedTypes (g : Grammar) (mark : String) (operand : Parser Unit) : Parser Unit := do
  let _ ← eatMark mark
  operand
  let _ ← many g.fuel do
    if ← eatMark mark then
      operand
      return some ()
    else return none

def unionType (g : Grammar) : Parser Unit :=
  joinedTypes g "|" <| joinedTypes g "&" do
    let _ ← g.typeOperator

/-! ## Function types and conditional types -/

/-- What may stand at the start of a parameter. -/
def skipParameterStart (g : Grammar) : Parser Unit := do
  if (← isName) || (← isWord "this") then advance
  else if ← isOneOf ["[", "\x7b"] then
    let _ ← g.binding
  else failure

/-- The parenthesis at the current place opens the parameters of a function type. -/
def isFunctionTypeStart (g : Grammar) : Parser Bool := ahead do
  expectMark "("
  if ← isOneOf [")", "..."] then return true
  skipParameterStart g
  if ← isOneOf [":", ",", "?", "="] then return true
  if ← eatMark ")" then isMark "=>" else return false

/-- Parameters and result of a function type. What constructs something is not called on
anything. -/
def functionType (g : Grammar) (constructs : Bool) : Parser Unit := do
  optionalTypeParameters g
  let found ← parameters g false
  flawIf (constructs && found.hasThis)
  expectMark "=>"
  resultType g

/-- A type: of a function, or joined simple types with a condition behind them if need be. -/
def typeRule (g : Grammar) : Parser Unit := do
  if ← ahead (do expectWord "abstract"; isWord "new") then
    advance
    advance
    functionType g true
  else if ← eatWord "new" then functionType g true
  else if ← isMark "<" then functionType g false
  else if ← isFunctionTypeStart g then functionType g false
  else
    unionType g
    if !(← context).noConditionalType && !(← afterNewline) && (← isWord "extends") then
      advance
      within (fun c => { c with noConditionalType := true }) g.type
      expectMark "?"
      within (fun c => { c with noConditionalType := false }) g.type
      expectMark ":"
      within (fun c => { c with noConditionalType := false }) g.type

end Widgetry.Source.Grammar
