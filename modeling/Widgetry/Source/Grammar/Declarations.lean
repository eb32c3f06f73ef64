import Widgetry.Source.Grammar.Expressions

/-!
Declarations: variables, functions, and what only typed files declare.
-/

namespace Widgetry.Source.Grammar

/-! ## Variables -/

/-- How variables are declared. -/
inductive VariableForm where
  /-- Declared with `var`. -/
  | hoisted
  /-- Declared with `let`. -/
  | scoped
  /-- Declared with `const`. -/
  | constant
  /-- Declared with `using`. -/
  | resource
  /-- Declared with `await using`. -/
  | awaitedResource
deriving DecidableEq

def VariableForm.kind : VariableForm → DeclarationKind
  | .constant => .constant
  | _ => .mutable

def VariableForm.isResource (form : VariableForm) : Bool :=
  form = .resource || form = .awaitedResource

/-- Constants, resources and patterns need a value. -/
def VariableForm.isComplete (form : VariableForm) : Declarator → Bool
  | .mk name _ value => value.isSome || (name.isSome && form != .constant && !form.isResource)

/-- A variable with the names it binds. A promise that it will have a value needs a type and replaces
the value. -/
def declarator (g : Grammar) : Parser (Declarator × List String) := do
  let binding ← g.binding
  let isPromised ←
    if (← isTyped) && binding.name.isSome && !(← afterNewline) then eatMark "!" else pure false
  let _ ← optionalMark
  let hasType ← optionalAnnotation g
  let value ← if ← eatMark "=" then pure (some (← g.assignment true)) else pure none
  flawIf (isPromised && (!hasType || value.isSome))
  return (.mk binding.name binding.parts value, binding.names)

def declarators (g : Grammar) : Parser (List (Declarator × List String)) := do
  let first ← declarator g
  let rest ← many g.fuel do
    if ← eatMark "," then return some (← declarator g) else return none
  return first :: rest

/-- Marks after which `let` is a name. -/
def letOperators : List String :=
  assignmentMarks ++ ["==", "!=", "===", "!==", "<", "<=", ">", "<<", "+", "-", "*", "**", "/", "%",
    "|", "^", "&", ".", "(", ";"]

/-- At the start of a statement, `let` declares unless an operator follows. -/
def isLetStatement : Parser Bool := ahead do
  expectWord "let"
  return !((← isOneOf letOperators) || (← isOneWordOf ["in", "instanceof"]))

/-- At the start of a loop, `let` declares when a pattern follows. -/
def isLetLoop : Parser Bool := ahead do
  expectWord "let"
  return (← isName) || (← isOneOf ["[", "\x7b"])

/-- The keywords of a declaration of variables, when one starts here. -/
def variableForm? (inLoop : Bool) : Parser (Option VariableForm) := do
  match ← plainWord? with
  | some "var" => return some .hoisted
  | some "const" => return if ← ahead (do advance; isWord "enum") then none else some .constant
  | some "let" =>
    return if ← (if inLoop then isLetLoop else isLetStatement) then some .scoped else none
  | some "using" =>
    let declares ← ahead do
      advance
      return (← isName) && !(← afterNewline) && !(inLoop && (← isWord "of"))
    return if declares then some .resource else none
  | some "await" =>
    let declares ← ahead do
      advance
      require ((← isWord "using") && !(← afterNewline))
      advance
      return (← isName) && !(← afterNewline)
    return if declares then some .awaitedResource else none
  | _ => return none

/-- Skips the keywords of a declaration; waiting has to be possible where it is meant. -/
def skipKeywords (form : VariableForm) : Parser Unit := do
  if form = .awaitedResource then
    flawIf (!(← context).allowAwait)
    advance
  advance

/-- Variables with their keywords, and the names they bind. -/
def variableStatement (g : Grammar) (form : VariableForm) : Parser (Statement × List String) := do
  skipKeywords form
  let found ← declarators g
  let declared := found.map Prod.fst
  require ((← context).ambient || declared.all form.isComplete)
  endStatement
  return (.declare form.kind declared, found.flatMap Prod.snd)

/-! ## Functions -/

/-- A function declaration; without `needsName`, the name may be missing. -/
def functionDeclaration (g : Grammar) (needsName : Bool) : Parser FunctionForm := do
  let isAsync ← eatWord "async"
  expectWord "function"
  let isGenerator ← eatMark "*"
  if needsName || (← isName) then
    let _ ← name
  functionForm g { isAsync, isGenerator }

def isFunctionStart : Parser Bool := do
  if ← isWord "function" then return true
  ahead do
    expectWord "async"
    return (← isWord "function") && !(← afterNewline)

/-! ## Declarations of typed files -/

/-- The interface that another one extends. -/
def parentInterface (g : Grammar) : Parser Unit := do
  require (← isName)
  typeReference g

def interfaceRule (g : Grammar) : Parser Unit := do
  expectWord "interface"
  let _ ← name
  optionalTypeParameters g
  if ← eatWord "extends" then
    parentInterface g
    let _ ← many g.fuel do
      if ← eatMark "," then
        parentInterface g
        return some ()
      else return none
  objectType g

def typeAlias (g : Grammar) : Parser Unit := do
  expectWord "type"
  let _ ← name
  optionalTypeParameters g
  expectMark "="
  g.type
  endStatement

/-- The members of an enumeration with their values. -/
def enumeration (g : Grammar) : Parser (List Part) := do
  let _ ← eatWord "const"
  expectWord "enum"
  let _ ← name
  expectMark "\x7b"
  let members ← listUntil g.fuel "," "\x7d" do
    match ← token with
    | .word .. | .string _ => advance
    | .mark "[" =>
      advance
      match ← token with
      | .string _ | .template _ true => advance
      | _ => failure
      expectMark "]"
    | _ => failure
    if ← eatMark "=" then return [partOf (← fullAssignment g)] else return []
  return members.flatten

/-- The statements of a namespace. -/
def namespaceBody (g : Grammar) : Parser (List Part) := do
  expectMark "\x7b"
  let statements ← statementsUntil g (.mark "\x7d")
  expectMark "\x7d"
  return statements.map .statement

def namespaceRule (g : Grammar) : Parser (List Part) := do
  if ← isWord "global" then
    advance
    return ← namespaceBody g
  advance
  match ← token with
  | .string _ =>
    advance
    if ← isMark "\x7b" then namespaceBody g
    else
      endStatement
      return []
  | _ =>
    let _ ← name
    let _ ← many g.fuel do
      if ← eatMark "." then return some (← name) else return none
    namespaceBody g

/-- A name for something that is declared elsewhere: a module or a qualified name after an equals
sign. -/
def aliasTarget (g : Grammar) : Parser Unit := do
  require (← isTyped)
  expectMark "="
  if ← eatWord "require" then
    expectMark "("
    match ← token with
    | .string _ => advance
    | _ => failure
    expectMark ")"
  else qualifiedName g
  endStatement

def aliasDeclaration (g : Grammar) : Parser Unit := do
  expectWord "import"
  if ← ahead (do expectWord "type"; isName) then advance
  let _ ← name
  aliasTarget g

/-- A class with the words before its keyword. -/
def isModifiedClass (g : Grammar) : Parser Bool := ahead do
  require (← isTyped)
  let found ← modifiers g ["abstract", "declare"]
  return !found.isEmpty && (← isWord "class")

def modifiedClass (g : Grammar) : Parser (List Part) := do
  let found ← if ← isTyped then modifiers g ["abstract", "declare"] else pure []
  within (fun c => { c with ambient := c.ambient || found.contains "declare" }) (classRule g)

/-- The keyword of a declaration that only typed files have. -/
def typedKeyword? (g : Grammar) : Parser (Option String) := do
  if !(← isTyped) then return none
  if ← isModifiedClass g then return some "class"
  match ← plainWord? with
  | some "enum" => return some "enum"
  | some "const" => return if ← ahead (do advance; isWord "enum") then some "enum" else none
  | some "interface" =>
    return if ← ahead (do advance; return (← isName) && !(← afterNewline)) then some "interface"
      else none
  | some "type" =>
    return if ← ahead (do advance; return (← isName) && !(← afterNewline)) then some "type"
      else none
  | some "global" => return if ← ahead (do advance; isMark "\x7b") then some "namespace" else none
  | some "namespace" =>
    return if ← ahead (do advance; return (← isName) && !(← afterNewline)) then some "namespace"
      else none
  | some "module" =>
    let names ← ahead do
      advance
      if ← afterNewline then return false
      match ← token with
      | .string _ => return true
      | _ => isName
    return if names then some "namespace" else none
  | some "declare" =>
    let declares ← ahead do
      advance
      return !(← afterNewline)
        && (← isOneWordOf ["var", "let", "const", "function", "interface", "type", "enum",
          "namespace", "module", "global", "async", "import"])
    return if declares then some "declare" else none
  | _ => return none

/-- A declaration with its keyword. -/
def plainDeclaration (g : Grammar) (keyword : String) : Parser Statement := do
  match keyword with
  | "class" => return .other (← modifiedClass g)
  | "enum" => return .other (← enumeration g)
  | "interface" =>
    interfaceRule g
    return .other []
  | "type" =>
    typeAlias g
    return .other []
  | "namespace" => return .other (← namespaceRule g)
  | _ => failure

/-- A declaration of something that exists elsewhere. A function does not wait and has no body. -/
def ambientDeclaration (g : Grammar) : Parser Statement := do
  if ← isFunctionStart then
    flawIf (← isWord "async")
    let form ← functionDeclaration g true
    flawIf form.hasBody
    return .function form.value
  if ← isWord "import" then
    aliasDeclaration g
    return .other []
  if let some keyword ← typedKeyword? g then return ← plainDeclaration g keyword
  match ← plainWord? with
  | some "var" => return (← variableStatement g .hoisted).1
  | some "let" => return (← variableStatement g .scoped).1
  | some "const" => return (← variableStatement g .constant).1
  | _ => failure

def typedDeclaration (g : Grammar) (keyword : String) : Parser Statement := do
  if keyword = "declare" then
    advance
    within (fun c => { c with ambient := true }) (ambientDeclaration g)
  else plainDeclaration g keyword

end Widgetry.Source.Grammar
