import Widgetry.Source.Grammar.Modules

/-!
Statements.
-/

namespace Widgetry.Source.Grammar

/-- An expression in parentheses after a keyword. -/
def condition (g : Grammar) : Parser Part := do
  expectMark "("
  let value ← fullExpression g
  expectMark ")"
  return partOf value

/-- Statements in braces that are no body of a function. -/
def plainBlock (g : Grammar) : Parser (List Part) := do
  expectMark "\x7b"
  let statements ← statementsUntil g (.mark "\x7d")
  expectMark "\x7d"
  return statements.map .statement

/-- A function that waits or yields starts here. -/
def isSpecialFunctionStart : Parser Bool := ahead do
  if ← eatWord "function" then isMark "*" else isFunctionStart

def expressionStatement (g : Grammar) : Parser Statement := do
  let value ← fullExpression g
  endStatement
  return .expression value

/-- A statement that depends on another. Declarations of constants and classes cannot, and neither
can functions that wait or yield; `let` is a name here unless a bracket follows. -/
def inner (g : Grammar) : Parser Part := do
  if (← isWord "let") && !(← ahead (do advance; isMark "[")) then
    return .statement (← expressionStatement g)
  match ← variableForm? false with
  | some form => flawIf (form != .hoisted)
  | none => flawIf ((← isWord "class") || (← isMark "@") || (← isSpecialFunctionStart))
  return .statement (← g.statement)

/-! ## Loops -/

/-- What follows the start of a loop: another value to walk over, or a test and a step. -/
def loopRest (g : Grammar) (head : List Part) (walks : Bool) : Parser (List Part) := do
  if walks && (← eatWord "of") then
    let value ← fullAssignment g
    expectMark ")"
    return head ++ [partOf value]
  if walks && (← eatWord "in") then
    let value ← fullExpression g
    expectMark ")"
    return head ++ [partOf value]
  expectMark ";"
  let test ← if ← isMark ";" then pure [] else pure [partOf (← fullExpression g)]
  expectMark ";"
  let step ← if ← isMark ")" then pure [] else pure [partOf (← fullExpression g)]
  expectMark ")"
  return head ++ test ++ step

/-- The variables or the expression at the start of a loop. Only a loop over values can wait for
them, and one that does not wait cannot start with `async of`. -/
def loopHead (g : Grammar) (waits : Bool) : Parser (List Part) := do
  expectMark "("
  flawIf (!waits && (← ahead (do expectWord "async"; expectWord "of"; return !(← isMark "=>"))))
  if ← isMark ";" then
    flawIf waits
    return ← loopRest g [] false
  match ← variableForm? true with
  | some form =>
    skipKeywords form
    let found ← within (fun c => { c with allowIn := false }) (declarators g)
    let declared := found.map Prod.fst
    let walks ← isOneWordOf ["of", "in"]
    flawIf ((waits && !(← isWord "of")) || (form.isResource && (← isWord "in")))
    require (walks || (← context).ambient || declared.all form.isComplete)
    loopRest g [.statement (.declare form.kind declared)] walks
  | none =>
    let initializers := (← get).initializers
    let value ← within (fun c => { c with allowIn := false }) (expression g)
    let walks ← isOneWordOf ["of", "in"]
    flawIf (waits && !(← isWord "of"))
    if walks then
      require (isAssignable value)
      modify fun s => { s with initializers }
    loopRest g [partOf value] walks

def forStatement (g : Grammar) : Parser (List Part) := do
  expectWord "for"
  let waits ← eatWord "await"
  flawIf (waits && !(← context).allowAwait)
  let head ← loopHead g waits
  return head ++ [← inner g]

/-! ## Choices -/

def ifStatement (g : Grammar) : Parser (List Part) := do
  expectWord "if"
  let test ← condition g
  let consequent ← inner g
  if ← eatWord "else" then return [test, consequent, ← inner g]
  return [test, consequent]

/-- A case with its statements. Resources are declared in a block of their own. -/
def switchCase (g : Grammar) : Parser (List Part) := do
  let test ←
    if ← eatWord "default" then pure []
    else
      expectWord "case"
      pure [partOf (← fullExpression g)]
  expectMark ":"
  let statements ← many g.fuel do
    if (← isMark "\x7d") || (← isOneWordOf ["case", "default"]) then return none
    flawIf ((← variableForm? false).any VariableForm.isResource)
    return some (Part.statement (← g.statement))
  return test ++ statements

def switchStatement (g : Grammar) : Parser (List Part) := do
  expectWord "switch"
  let value ← condition g
  expectMark "\x7b"
  let cases ← many g.fuel do
    if ← isMark "\x7d" then return none else return some (← switchCase g)
  expectMark "\x7d"
  return value :: cases.flatten

def tryStatement (g : Grammar) : Parser (List Part) := do
  expectWord "try"
  let body ← plainBlock g
  let handler ←
    if ← eatWord "catch" then
      let caught ←
        if ← eatMark "(" then
          let binding ← g.binding
          let _ ← optionalAnnotation g
          expectMark ")"
          pure binding.parts
        else pure []
      pure (some (caught ++ (← plainBlock g)))
    else pure none
  let final ← if ← eatWord "finally" then pure (some (← plainBlock g)) else pure none
  require (handler.isSome || final.isSome)
  return body ++ handler.getD [] ++ final.getD []

/-! ## Other statements -/

/-- The current token ends a statement that could have gone on. -/
def isStatementEnd : Parser Bool := do
  return (← isOneOf [";", "\x7d"]) || (← token) == .finish || (← afterNewline)

def returnStatement (g : Grammar) : Parser Statement := do
  expectWord "return"
  require (← context).allowReturn
  let value ← if ← isStatementEnd then pure none else pure (some (← fullExpression g))
  endStatement
  return .returns value

/-- A word that may name a label. -/
def jumpStatement : Parser Statement := do
  advance
  if !(← isStatementEnd) then
    let _ ← name
  endStatement
  return .other []

/-- A statement that starts with one of the language's keywords. -/
def keywordStatement? (g : Grammar) (word : String) : Parser (Option Statement) := do
  match word with
  | "if" => return some (.other (← ifStatement g))
  | "for" => return some (.other (← forStatement g))
  | "while" =>
    advance
    let test ← condition g
    return some (.other [test, ← inner g])
  | "with" =>
    advance
    let value ← condition g
    return some (.other [value, ← inner g])
  | "do" =>
    advance
    let body ← inner g
    expectWord "while"
    let test ← condition g
    let _ ← eatMark ";"
    return some (.other [body, test])
  | "switch" => return some (.other (← switchStatement g))
  | "try" => return some (.other (← tryStatement g))
  | "return" => return some (← returnStatement g)
  | "throw" =>
    advance
    require (!(← afterNewline))
    let value ← fullExpression g
    endStatement
    return some (.other [partOf value])
  | "break" | "continue" => return some (← jumpStatement)
  | "debugger" =>
    advance
    endStatement
    return some (.other [])
  | "class" => return some (.other (← classRule g))
  | "export" => return some (← exportRule g [])
  | "import" =>
    if ← ahead (do advance; isOneOf ["(", "."]) then return none
    return some (← importRule g)
  | _ => return none

/-- A statement with decorators, which belong to a class. -/
def decoratedStatement (g : Grammar) : Parser Statement := do
  let head ← decorators g
  if ← isWord "export" then exportRule g head
  else return .other (head ++ (← modifiedClass g))

def labelled (g : Grammar) : Parser Statement := do
  let _ ← name
  expectMark ":"
  return .other [← inner g]

def statementRule (g : Grammar) : Parser Statement := do
  match ← token with
  | .mark "\x7b" => return .other (← plainBlock g)
  | .mark ";" =>
    advance
    return .empty
  | .mark "@" => decoratedStatement g
  | .word word escaped =>
    if !escaped then
      if let some found ← keywordStatement? g word then return found
      if ← isFunctionStart then return .function (← functionDeclaration g true).value
      if let some keyword ← typedKeyword? g then
        return ← within (fun c => { c with allowAwait := false }) (typedDeclaration g keyword)
      if let some form ← variableForm? false then return (← variableStatement g form).1
    if (← isName) && (← ahead (do advance; isMark ":")) then labelled g
    else expressionStatement g
  | _ => expressionStatement g

end Widgetry.Source.Grammar
