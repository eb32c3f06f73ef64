import Widgetry.Source.Grammar.Declarations

/-!
Imports and exports.
-/

namespace Widgetry.Source.Grammar

/-- What is expected of a module: a name and its value. -/
def moduleAttribute : Parser String := do
  match ← token with
  | .word key _ | .string key =>
    advance
    expectMark ":"
    match ← token with
    | .string _ =>
      advance
      return key
    | _ => failure
  | _ => failure

/-- The name of a module, with what is expected of it, each thing once. -/
def moduleName (g : Grammar) : Parser Unit := do
  match ← token with
  | .string _ => advance
  | _ => failure
  if (← isWord "with") || ((← isWord "assert") && !(← afterNewline)) then
    advance
    expectMark "\x7b"
    let keys ← listUntil g.fuel "," "\x7d" moduleAttribute
    flawIf (keys.eraseDups.length != keys.length)

/-- A name in another module, which may be quoted when no half of a surrogate pair stands alone
in it. -/
def foreignName? : Parser (Option Token) := do
  match ← token with
  | .word .. =>
    let found ← token
    advance
    return some found
  | .string _ =>
    let found ← token
    flawIf (!Quoted.isWellFormed (← place))
    advance
    return some found
  | _ => return none

/-- The words of one name in braces. -/
def specifierWords (g : Grammar) : Parser (List Token) := many g.fuel foreignName?

def isPlain (word : String) (token : Token) : Bool := token == .word word false

/-- A name in braces: what it refers to, what it is called, and whether it is only a type. -/
structure Specifier where
  source : Token
  given : Option Token
  isType : Bool

/-- A name, a name for it, and the word that makes it a type. -/
def Specifier.ofWords? : List Token → Option Specifier
  | [source] => some ⟨source, none, false⟩
  | [first, source] => if isPlain "type" first then some ⟨source, none, true⟩ else none
  | [source, second, given] => if isPlain "as" second then some ⟨source, some given, false⟩ else none
  | [first, source, third, given] =>
    if isPlain "type" first && isPlain "as" third then some ⟨source, some given, true⟩ else none
  | _ => none

/-- Names in braces. Where all of them are types, none of them says so again. -/
def specifiers (g : Grammar) (areTypes : Bool) : Parser (List Specifier) := do
  expectMark "\x7b"
  listUntil g.fuel "," "\x7d" do
    match Specifier.ofWords? (← specifierWords g) with
    | some specifier =>
      require (!specifier.isType || (← isTyped))
      flawIf (specifier.isType && areTypes)
      return specifier
    | none => failure

/-- Words that are no names in a module. -/
def isModuleReserved (name : String) : Bool :=
  isReserved name || name = "await" || name = "yield"

/-- Words that no module can declare. -/
def futureWords : List String :=
  ["implements", "interface", "let", "package", "private", "protected", "public", "static"]

/-! ## Imports -/

/-- What is imported is bound to a name. -/
def Specifier.isBound (allowAwait : Bool) (specifier : Specifier) : Bool :=
  match specifier.given, specifier.source with
  | some (.word name _), _ => !isReserved name && !(allowAwait && name = "await")
  | none, .word name _ => !isModuleReserved name
  | _, _ => false

/-- All of a module under one name. -/
def importedModule (g : Grammar) : Parser Unit := do
  expectMark "*"
  expectWord "as"
  let _ ← name
  expectWord "from"
  moduleName g

/-- What is imported besides a default, and from where. -/
def importedNames (g : Grammar) (areTypes : Bool) : Parser Unit := do
  if ← isMark "*" then importedModule g
  else
    let found ← specifiers g areTypes
    let allowAwait := (← context).allowAwait
    require (found.all fun specifier => specifier.isBound allowAwait)
    expectWord "from"
    moduleName g

/-- The word is a phase or the mark of a type, and not the name that is imported. -/
def isImportPhase (word : String) : Parser Bool := ahead do
  expectWord word
  if ← isOneOf ["\x7b", "*"] then return true
  require (← isName)
  if ← isWord "from" then
    advance
    return ← isWord "from"
  advance
  return (← isWord "from") || (← isOneOf [",", "="])

/-- What is imported: a default, other names, or both. A name can also stand for something else. -/
def importClause (g : Grammar) (areTypes : Bool) : Parser Unit := do
  if ← isOneOf ["\x7b", "*"] then importedNames g areTypes
  else
    let _ ← name
    if ← isMark "=" then
      aliasTarget g
      return
    if ← eatMark "," then importedNames g areTypes
    else
      expectWord "from"
      moduleName g
  endStatement

/-- An import. One that is put off takes all of a module, and one of a source only the default. -/
def importRule (g : Grammar) : Parser Statement := do
  expectWord "import"
  match ← token with
  | .string _ =>
    moduleName g
    endStatement
  | _ =>
    if (← isTyped) && (← isImportPhase "type") then
      advance
      importClause g true
    else if ← isImportPhase "defer" then
      advance
      importedModule g
      endStatement
    else if ← isImportPhase "source" then
      advance
      let _ ← name
      expectWord "from"
      moduleName g
      endStatement
    else importClause g false
  return .other []

/-! ## Exports -/

/-- Notes an exported name. In files without types each name is exported once. -/
def exportName (name : String) : Parser Unit := do
  flawIf (!(← isTyped) && (← get).exported.contains name)
  modify fun s => { s with exported := name :: s.exported }

def exportToken : Token → Parser Unit
  | .word name _ | .string name => exportName name
  | _ => failure

/-- What is exported without naming a module is declared in this one. -/
def Specifier.isLocal (specifier : Specifier) : Bool :=
  match specifier.source with
  | .word name _ => !isModuleReserved name && !futureWords.contains name
  | _ => false

/-- Names that are exported, here or from another module. -/
def exportedNames (g : Grammar) (areTypes : Bool) : Parser Statement := do
  let found ← specifiers g areTypes
  if ← eatWord "from" then moduleName g else require (found.all Specifier.isLocal)
  found.forM fun specifier => exportToken (specifier.given.getD specifier.source)
  endStatement
  return .other []

def exportedModule (g : Grammar) : Parser Statement := do
  expectMark "*"
  if ← eatWord "as" then
    match ← foreignName? with
    | some found => exportToken found
    | none => failure
  expectWord "from"
  moduleName g
  endStatement
  return .other []

/-- A class with decorators before and behind the word `export`; only one of both is possible. -/
def exportedClass (g : Grammar) (head : List Part) : Parser (List Part) := do
  let more ← decorators g
  flawIf (!head.isEmpty && !more.isEmpty)
  return head ++ more ++ (← modifiedClass g)

/-- The default export. -/
def exportDefault (g : Grammar) (head : List Part) : Parser Statement := do
  expectWord "default"
  exportName "default"
  if (← isMark "@") || (← isWord "class") || (← isModifiedClass g) then
    return .exportedDefault (.other (← exportedClass g head))
  require head.isEmpty
  if ← isFunctionStart then
    return .exportedDefault (.function (← functionDeclaration g false).value)
  if (← isTyped) && (← ahead (do expectWord "interface"; return (← isName) && !(← afterNewline)))
  then
    interfaceRule g
    return .exportedDefault (.other [])
  let value ← fullAssignment g
  endStatement
  return .exportedDefault value

/-- The name that a function or a class declares. -/
def declaredName? : Parser (Option String) := peek do
  let _ ← eatWord "async"
  if !(← eatWord "class") then
    expectWord "function"
    let _ ← eatMark "*"
  require (← isName)
  anyWord

/-- A declaration whose names are exported. -/
def exportedDeclaration (g : Grammar) : Parser Statement := do
  if let some found ← declaredName? then exportName found
  if ← isFunctionStart then return .function (← functionDeclaration g true).value
  if let some keyword ← typedKeyword? g then return ← typedDeclaration g keyword
  match ← variableForm? false with
  | some form =>
    require (!form.isResource)
    let (statement, names) ← variableStatement g form
    names.forM exportName
    return statement
  | none => failure

/-- An export with the decorators before it. -/
def exportRule (g : Grammar) (head : List Part) : Parser Statement := do
  expectWord "export"
  if ← isWord "default" then return ← exportDefault g head
  if (← isMark "@") || (← isWord "class") || (← isModifiedClass g) then
    if let some found ← declaredName? then exportName found
    return .exported (.other (← exportedClass g head))
  require head.isEmpty
  match ← token with
  | .mark "*" => exportedModule g
  | .mark "\x7b" => exportedNames g false
  | .mark "=" =>
    require (← isTyped)
    advance
    let value ← fullAssignment g
    endStatement
    return .other [partOf value]
  | .word "import" false =>
    aliasDeclaration g
    return .other []
  | _ =>
    if ← isTyped then
      if ← ahead (do expectWord "as"; isWord "namespace") then
        advance
        advance
        let _ ← anyWord
        endStatement
        return .other []
      if ← ahead (do expectWord "type"; isMark "\x7b") then
        advance
        return ← exportedNames g true
      if ← ahead (do expectWord "type"; isMark "*") then
        advance
        return ← exportedModule g
    return .exported (← exportedDeclaration g)

end Widgetry.Source.Grammar
