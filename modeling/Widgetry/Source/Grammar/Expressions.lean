import Widgetry.Source.Grammar.Markup
import Widgetry.Source.Grammar.Primary

/-!
Operators, assignments, conditions and arrow functions.
-/

namespace Widgetry.Source.Grammar

/-! ## Assignment targets -/

/-- What a single value can be assigned to. -/
def isTarget : Expr → Bool
  | .identifier _ | .member .. | .index .. | .privateMember _ => true
  | .paren inner | .cast _ inner | .assertion inner => isTarget inner
  | _ => false

mutual

/-- What a value can be given to or taken apart into. -/
def isAssignable : Expr → Bool
  | .array items => areItemTargets items
  | .object members => areMemberTargets members
  | .identifier _ | .member .. | .index .. | .privateMember _ => true
  | .paren inner | .cast _ inner | .assertion inner => isTarget inner
  | _ => false

/-- A target inside a pattern, which may have a default. -/
def isInnerTarget : Expr → Bool
  | .assign target _ => isAssignable target
  | .array items => areItemTargets items
  | .object members => areMemberTargets members
  | .identifier _ | .member .. | .index .. | .privateMember _ => true
  | .paren inner | .cast _ inner | .assertion inner => isTarget inner
  | _ => false

/-- What is left over comes last. -/
def areItemTargets : List Item → Bool
  | [] => true
  | .hole :: rest => areItemTargets rest
  | .value value :: rest => isInnerTarget value && areItemTargets rest
  | .spread value hasComma :: rest => isAssignable value && !hasComma && rest.isEmpty

def areMemberTargets : List Member → Bool
  | [] => true
  | .field _ value :: rest => isInnerTarget value && areMemberTargets rest
  | .computed _ value :: rest => isInnerTarget value && areMemberTargets rest
  | .spread value hasComma :: rest => isTarget value && !hasComma && rest.isEmpty

end

/-! ## Operators with one operand -/

def unaryOp? : Token → Option UnaryOp
  | .mark "!" => some .not
  | .mark "-" => some .negate
  | .mark "+" => some .plus
  | .mark "~" => some .bitNot
  | .word "typeof" false => some .typeOf
  | .word "void" false => some .void
  | .word "delete" false => some .delete
  | _ => none

/-- The word is followed by a name or a value on its line. -/
def isFollowedByOperand : Parser Bool := ahead do
  advance
  if ← afterNewline then return false
  match ← token with
  | .word .. | .number _ | .string _ | .bigInteger => return true
  | _ => return false

/-- Waiting is possible here, or is plainly meant. -/
def isAwait : Parser Bool := do
  if ← isWord "await" then
    if (← context).allowAwait then return true else isFollowedByOperand
  else return false

/-- An operand with the signs that count it up or down. -/
def update (g : Grammar) : Parser Expr := do
  if ← isOneOf ["++", "--"] then
    advance
    let target ← g.unary
    require (isTarget target)
    return .other [partOf target]
  if (← dialect).markup && (← isMark "<") then
    let value ← g.markup
    advance
    return value
  let value ← g.leftHand
  if (← isOneOf ["++", "--"]) && !(← afterNewline) then
    require (isTarget value)
    advance
    return .other [partOf value]
  return value

def unaryRule (g : Grammar) : Parser Expr := do
  match unaryOp? (← token) with
  | some op =>
    advance
    let operand ← g.unary
    require (!(← isMark "**"))
    return .unary op operand
  | none =>
    if ← isAwait then
      flawIf (!(← context).allowAwait)
      advance
      let operand ← g.unary
      require (!(← isMark "**"))
      return .other [partOf operand]
    if (← isMark "<") && !(← dialect).markup then
      require (← isTyped)
      advance
      g.type
      expectMark ">"
      return .assertion (← g.unary)
    update g

/-! ## Operators with two operands -/

/-- What an operator builds. -/
inductive Operator where
  | logical (op : LogicalOp)
  | binary (op : BinaryOp)
  | cast (kind : Cast)

/-- Operators with their ranks; a higher rank binds more tightly. -/
def operatorTable : List (String × Nat × Operator) :=
  [("??", 1, .logical .coalesce), ("||", 2, .logical .or), ("&&", 3, .logical .and),
   ("|", 4, .binary .unsupported), ("^", 5, .binary .unsupported), ("&", 6, .binary .unsupported),
   ("==", 7, .binary .equal), ("!=", 7, .binary .unequal), ("===", 7, .binary .strictEqual),
   ("!==", 7, .binary .strictUnequal), ("<", 8, .binary .less), (">", 8, .binary .greater),
   ("<=", 8, .binary .lessOrEqual), (">=", 8, .binary .greaterOrEqual),
   ("<<", 9, .binary .unsupported), (">>", 9, .binary .unsupported),
   (">>>", 9, .binary .unsupported), ("+", 10, .binary .add), ("-", 10, .binary .subtract),
   ("*", 11, .binary .multiply), ("/", 11, .binary .divide), ("%", 11, .binary .remainder),
   ("**", 12, .binary .power)]

/-- The rank of operators that are words. -/
def wordRank : Nat := 8

/-- Joins a closing angle bracket with the marks that follow it directly. -/
def joinAngle (lexeme : Lexeme) : Lexeme :=
  if lexeme.token == .mark ">" then
    match [">>>=", ">>>", ">>=", ">>", ">="].find? fun mark =>
        mark.toList.isPrefixOf lexeme.start.rest with
    | some mark => { lexeme with token := .mark mark, after := lexeme.start.skip mark.length }
    | none => lexeme
  else lexeme

/-- The operator at the current place. -/
def operator? : Parser (Option (Nat × Operator)) := do
  relex joinAngle
  match ← token with
  | .mark text => return operatorTable.lookup text
  | .word "instanceof" false => return some (wordRank, .binary .unsupported)
  | .word "in" false =>
    return if (← context).allowIn then some (wordRank, .binary .unsupported) else none
  | .word "as" false =>
    return if (← isTyped) && !(← afterNewline) then some (wordRank, .cast .asType) else none
  | .word "satisfies" false =>
    return if (← isTyped) && !(← afterNewline) then some (wordRank, .cast .satisfies) else none
  | _ => return none

def isCoalesce : Expr → Bool
  | .logical .coalesce _ _ => true
  | _ => false

def isAndOr : Expr → Bool
  | .logical .and _ _ | .logical .or _ _ => true
  | _ => false

/-- A default for a missing value does not mix with the other logical operators. -/
def logicalExpr (op : LogicalOp) (left right : Expr) : Parser Expr := do
  flawIf (if op = .coalesce then isAndOr left || isAndOr right else isCoalesce left || isCoalesce right)
  return .logical op left right

/-- Another operator and its operand, when it binds more tightly than `rank`. Powers are read from
the right. -/
def binaryStep (g : Grammar) (rank : Nat) (left : Expr) : Parser (Option Expr) := do
  match ← operator? with
  | none => return none
  | some (found, op) =>
    if found < rank || (found = rank && found != 12) then return none
    match op with
    | .cast kind =>
      advance
      g.type
      return some (.cast kind left)
    | .logical op =>
      advance
      return some (← logicalExpr op left (← g.binary found))
    | .binary op =>
      advance
      return some (.binary op left (← g.binary found))

def isPrivateName : Parser Bool := do
  match ← token with
  | .privateName _ => return true
  | _ => return false

/-- The test whether an object has a private member. The object is not such a test itself. -/
def privateTest (g : Grammar) : Parser Expr := do
  advance
  require (← isWord "in")
  advance
  require (!(← isPrivateName))
  return .other [partOf (← g.binary wordRank)]

def binaryRule (g : Grammar) (rank : Nat) : Parser Expr := do
  let first ← if (← isPrivateName) && (← context).allowIn then privateTest g else g.unary
  repeatStep g.fuel (binaryStep g rank) first

/-! ## Arrow functions -/

/-- Whether a parenthesis or an angle bracket opens the head of an arrow function. -/
inductive Likelihood where
  | no
  | yes
  | maybe

def ofBool (b : Bool) : Likelihood := if b then .yes else .no

/-- Words that stand before a parameter, if only by mistake. -/
def parameterModifiers : List String :=
  accessModifiers ++ ["abstract", "accessor", "const", "declare", "default", "export", "in", "out",
    "override", "readonly", "static"]

/-- Looks behind an opening parenthesis. -/
def parenthesisLikelihood : Parser Likelihood := do
  if ← eatMark ")" then return ofBool (← isOneOf ["=>", ":", "\x7b"])
  if ← isOneOf ["[", "\x7b"] then return .maybe
  if ← isMark "..." then return .yes
  let isModifier ← isOneWordOf parameterModifiers
  let isBinding := (← isName) || (← isWord "this")
  advance
  if isModifier && (← isName) then
    return ofBool (!(← isWord "as"))
  if !isBinding then return .no
  match ← token with
  | .mark ":" => return .yes
  | .mark "?" =>
    advance
    return ofBool (← isOneOf [":", ",", "=", ")"])
  | .mark text => return if [",", "=", ")"].contains text then .maybe else .no
  | _ => return .no

/-- Looks behind an opening angle bracket, which may also start markup. -/
def angleLikelihood : Parser Likelihood := do
  if !((← isName) || (← isWord "const")) then return .no
  if !(← dialect).markup then return .maybe
  let _ ← eatWord "const"
  advance
  if ← eatWord "extends" then return ofBool (!(← isOneOf ["=", ">", "/"]))
  return ofBool (← isOneOf [",", "="])

def arrowLikelihood : Parser Likelihood := do
  let found ← peek do
    if ← isWord "async" then
      advance
      require (!(← afterNewline))
    if ← eatMark "(" then parenthesisLikelihood
    else
      expectMark "<"
      angleLikelihood
  return found.getD .no

/-- The head of an arrow function in parentheses, up to its arrow. -/
structure ArrowHead where
  isAsync : Bool
  params : List Param
  rest : List Part
  hasResult : Bool

def arrowHead (g : Grammar) : Parser ArrowHead := do
  let isAsync ← eatWord "async"
  optionalTypeParameters g
  let inside : Context → Context := fun c => { c with allowAwait := isAsync || c.allowAwait }
  let found ← within inside (parameters g false)
  flawIf found.hasThis
  let hasResult ← optionalResult g
  flawIf (← afterNewline)
  expectMark "=>"
  return ⟨isAsync, found.params, found.rest, hasResult⟩

/-- An arrow function. Between a question mark and a colon, one with a result type has to be
followed by a colon. -/
def arrowFunction (g : Grammar) (allowResult : Bool) : Parser Expr := do
  let head ← arrowHead g
  let body ← arrowBody g head.isAsync allowResult
  if !allowResult && head.hasResult then require (← isMark ":")
  return .function (.mk head.params head.rest body)

/-- An arrow function when the text is one. Once its head is complete there is no way back, except
for a result type that turns out to be the other branch of a condition. -/
def arrowFunction? (g : Grammar) (allowResult : Bool) : Parser (Option Expr) := do
  match ← arrowLikelihood with
  | .no => return none
  | .yes => return some (← arrowFunction g allowResult)
  | .maybe =>
    match ← peek (arrowHead g) with
    | none => return none
    | some head =>
      if !allowResult && head.hasResult then attempt (arrowFunction g allowResult)
      else return some (← arrowFunction g allowResult)

/-- The arrow and the body behind a single parameter. -/
def simpleArrow (g : Grammar) (isAsync allowResult : Bool) (param : String) : Parser Expr := do
  flawIf (← afterNewline)
  expectMark "=>"
  let body ← arrowBody g isAsync allowResult
  return .function (.mk [.mk (some param) []] [] body)

/-! ## Assignments -/

def isYield : Parser Bool := do
  if ← isWord "yield" then
    if (← context).allowYield then return true else isFollowedByOperand
  else return false

def yieldExpression (g : Grammar) : Parser Expr := do
  flawIf (!(← context).allowYield)
  advance
  if ← afterNewline then return .other []
  if ← eatMark "*" then return .other [partOf (← g.assignment true)]
  let isDone := (← isOneOf [")", "]", "\x7d", ",", ";", ":"]) || (← token) == .finish
    || (← isWord "in")
  if isDone then return .other []
  return .other [partOf (← g.assignment true)]

def assignmentMarks : List String :=
  ["=", "+=", "-=", "*=", "**=", "/=", "%=", "<<=", ">>=", ">>>=", "&=", "|=", "^=", "&&=", "||=",
   "??="]

/-- The branches of a condition. -/
def conditionalRest (g : Grammar) (allowResult : Bool) (test : Expr) : Parser Expr := do
  if ← eatMark "?" then
    let consequent ← within (fun c => { c with allowIn := true }) (g.assignment false)
    expectMark ":"
    let alternate ← g.assignment allowResult
    return .conditional test consequent alternate
  else return test

/-- An assignment to what was read. -/
def assignTo (g : Grammar) (allowResult : Bool) (initializers : Nat) (target : Expr) :
    Parser Expr := do
  if ← eatMark "=" then
    require (isAssignable target)
    modify fun s => { s with initializers }
    return .assign target (← g.assignment allowResult)
  require (isTarget target)
  advance
  return .other [partOf target, partOf (← g.assignment allowResult)]

def assignmentRule (g : Grammar) (allowResult : Bool) : Parser Expr := do
  if ← isYield then return ← yieldExpression g
  match ← arrowFunction? g allowResult with
  | some value => return value
  | none =>
    let isAsyncArrow ← ahead do
      expectWord "async"
      require ((← isName) && !(← afterNewline))
      advance
      isMark "=>"
    if isAsyncArrow then
      advance
      let param ← name
      return ← simpleArrow g true allowResult param
    let initializers := (← get).initializers
    let left ← g.binary 0
    match left with
    | .identifier param =>
      if ← isMark "=>" then return ← simpleArrow g false allowResult param
    | _ => pure ()
    if ← isOneOf assignmentMarks then assignTo g allowResult initializers left
    else conditionalRest g allowResult left

end Widgetry.Source.Grammar
