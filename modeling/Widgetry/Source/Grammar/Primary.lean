import Widgetry.Decimal.Numeral
import Widgetry.Source.Grammar.Classes

/-!
Primary expressions, and what can stand before a call: members, look-ups, calls and tagged
templates, chained by points and question marks.
-/

namespace Widgetry.Source.Grammar

/-! ## Functions and objects -/

/-- A function after its keyword. -/
def functionExpression (g : Grammar) (isAsync : Bool) : Parser Expr := do
  expectWord "function"
  let isGenerator ← eatMark "*"
  if ← isName then
    let inside : Context → Context := fun c =>
      { c with allowAwait := isAsync, allowYield := isGenerator }
    let _ ← within inside name
  return .function (← functionForm g { isAsync, isGenerator }).value

/-- A member written without a value: its name is also what it refers to. -/
def shorthandMember (g : Grammar) : Parser Member := do
  let key ← name
  if ← eatMark "=" then
    modify fun s => { s with initializers := s.initializers + 1 }
    return .field key (.assign (.identifier key) (← fullAssignment g))
  return .field key (.identifier key)

/-- What a member of an object is. -/
inductive MemberRole where
  | plain
  | method (isAsync isGenerator : Bool)
  | reader
  | writer
deriving DecidableEq

/-- The words and marks before the name of a member. -/
def memberRole (g : Grammar) : Parser MemberRole := do
  if ← isBeforeMember false then
    if ← eatWord "get" then return .reader
    if ← eatWord "set" then return .writer
  let found ← modifiers g ["async"]
  let isAsync := !found.isEmpty
  let isGenerator ← eatMark "*"
  return if isAsync || isGenerator then .method isAsync isGenerator else .plain

/-- The value of a member after its name. -/
def memberValue (g : Grammar) (role : MemberRole) : Parser Expr := do
  match role with
  | .plain =>
    if ← isOneOf ["(", "<"] then
      return .function (← functionForm g {}).value
    expectMark ":"
    fullAssignment g
  | .method isAsync isGenerator =>
    return .function (← functionForm g { isAsync, isGenerator }).value
  | .reader | .writer =>
    let form ← functionForm g {}
    flawIf (!form.isAccessor (role = .writer) (← isTyped))
    return .function form.value

/-- A member of an object. -/
def objectMember (g : Grammar) : Parser Member := do
  if ← eatMark "..." then
    let value ← fullAssignment g
    return .spread value (← isMark ",")
  let role ← memberRole g
  match ← token with
  | .word key _ =>
    if role = .plain && !(← ahead (do advance; isOneOf ["(", "<", ":"])) then shorthandMember g
    else
      advance
      return .field key (← memberValue g role)
  | .string key =>
    advance
    return .field key (← memberValue g role)
  | .number value =>
    advance
    return .field (Double.numeral value) (← memberValue g role)
  | .bigInteger =>
    advance
    return .computed (.other []) (← memberValue g role)
  | .mark "[" =>
    advance
    let key ← fullAssignment g
    expectMark "]"
    return .computed key (← memberValue g role)
  | _ => failure

/-! ## Primary expressions -/

/-- An expression in parentheses. -/
def parenthesized (g : Grammar) : Parser Expr := do
  expectMark "("
  let value ← within (fun c => { c with allowIn := true, inDecorator := false }) (expression g)
  expectMark ")"
  return .paren value

/-- A module that is loaded when it is needed, or what is known about the current one. -/
def importExpression (g : Grammar) : Parser Expr := do
  expectWord "import"
  if ← eatMark "." then
    if ← eatWord "meta" then return .other []
    require (← isOneWordOf ["source", "defer"])
    advance
  expectMark "("
  let given ← listUntil g.fuel "," ")" (fullAssignment g)
  require (given.length = 1 || given.length = 2)
  return .other (given.map partOf)

/-- A template without a tag, whose escapes all have a meaning. -/
def templateExpression (g : Grammar) : Parser Expr := do
  let (texts, holes) ← templatePieces g
  flawIf (texts.any Option.isNone)
  return .template (texts.map fun text => text.getD "") holes

/-- Words that start an expression of their own. -/
def wordExpression (g : Grammar) (word : String) : Parser Expr := do
  match word with
  | "this" =>
    advance
    return .other []
  | "null" =>
    advance
    return .null
  | "true" =>
    advance
    return .bool true
  | "false" =>
    advance
    return .bool false
  | "function" => functionExpression g false
  | "class" => return .other (← classRule g)
  | "import" => importExpression g
  | "async" =>
    if ← ahead (do advance; return (← isWord "function") && !(← afterNewline)) then
      advance
      functionExpression g true
    else return .identifier (← name)
  | _ => return .identifier (← name)

def primary (g : Grammar) : Parser Expr := do
  match ← token with
  | .word word false => wordExpression g word
  | .word _ true => return .identifier (← name)
  | .number value =>
    advance
    return .number value
  | .string value =>
    advance
    return .string value
  | .bigInteger =>
    advance
    return .other []
  | .template .. => templateExpression g
  | .mark "(" => parenthesized g
  | .mark "[" =>
    advance
    return .array (← items g "]" true)
  | .mark "\x7b" =>
    advance
    return .object (← listUntil g.fuel "," "\x7d" (objectMember g))
  | .mark "/" | .mark "/=" =>
    relex Lexer.regex
    require ((← token) == .regex)
    advance
    return .other []
  | .mark "@" =>
    let head ← decorators g
    return .other (head ++ (← classRule g))
  | _ => failure

/-! ## Members and calls -/

/-- The current token can start an expression. -/
def isExpressionStart : Parser Bool := do
  match ← token with
  | .string _ | .number _ | .bigInteger | .template .. | .privateName _ => return true
  | .mark text =>
    return ["(", "[", "\x7b", "+", "-", "~", "!", "++", "--", "/", "/=", "<", "@"].contains text
  | .word name _ =>
    return !isReserved name
      || ["this", "super", "null", "true", "false", "function", "class", "new", "delete", "typeof",
          "void", "import"].contains name
  | _ => return false

def binaryMarks : List String :=
  ["??", "||", "&&", "|", "^", "&", "==", "!=", "===", "!==", "<", ">", "<=", "<<", "+", "-", "*",
   "/", "%", "**"]

/-- The angle bracket before the current token has an equals sign directly behind it. -/
def closedByComparison : Parser Bool := do
  let s ← get
  return s.current.start.offset = s.lastEnd
    && (match s.current.start.rest with | '=' :: _ => true | _ => false)

/-- What may follow types in angle brackets after an expression, so that they are not the operands
of comparisons. -/
def canFollowTypeArguments : Parser Bool := do
  match ← token with
  | .template .. => return true
  | .mark "(" => return true
  | .mark text =>
    if ["<", ">", "+", "-"].contains text then return false
    return (← afterNewline) || binaryMarks.contains text || !(← isExpressionStart)
  | .word name false =>
    return (← afterNewline) || ["in", "instanceof", "as", "satisfies"].contains name
      || !(← isExpressionStart)
  | _ => return (← afterNewline) || !(← isExpressionStart)

/-- Types in angle brackets after an expression. The bracket that closes them is not the start of a
comparison. -/
def typeArgumentsInExpression (g : Grammar) : Parser Unit := do
  typeArguments g
  require (!(← closedByComparison))
  require (← canFollowTypeArguments)

/-- An expression under construction, and whether a question mark was passed on the way. -/
structure Chain where
  value : Expr
  optional : Bool

/-- The member after a point. -/
def memberAfterPoint (object : Expr) : Parser Expr := do
  match ← token with
  | .privateName _ =>
    advance
    return .privateMember object
  | _ => return .member object (← anyWord)

/-- One more member, look-up or template behind an expression. With `allowOptional`, a question
mark may stand before it. -/
def memberStep (g : Grammar) (allowOptional : Bool) (chain : Chain) : Parser (Option Chain) := do
  match ← token with
  | .mark "." =>
    advance
    return some { chain with value := ← memberAfterPoint chain.value }
  | .mark "?." =>
    if !allowOptional then return none
    let isCall ← ahead do
      advance
      return (← isOneOf ["(", "<", "<<"]) || (match ← token with | .template .. => true | _ => false)
    if isCall then return none
    advance
    if ← eatMark "[" then
      let key ← fullExpression g
      expectMark "]"
      return some ⟨.index chain.value key, true⟩
    return some ⟨← memberAfterPoint chain.value, true⟩
  | .mark "[" =>
    if (← context).inDecorator then return none
    advance
    let key ← fullExpression g
    expectMark "]"
    return some { chain with value := .index chain.value key }
  | .mark "!" =>
    if !(← isTyped) || (← afterNewline) then return none
    advance
    return some { chain with value := .cast .nonNull chain.value }
  | .template .. =>
    require (!chain.optional)
    let (_, holes) ← templatePieces g
    return some { chain with value := .other (partOf chain.value :: holes.map partOf) }
  | _ =>
    if (← isTyped) && (← atAngle) then
      match ← attempt (typeArgumentsInExpression g) with
      | some _ =>
        if (← isMark "(") then return some chain
        match ← token with
        | .template .. => return some chain
        | _ => return some { chain with value := .other [partOf chain.value] }
      | none => return none
    return none

/-- Repeats a step as long as it succeeds. -/
def repeatStep {α : Type} : Nat → (α → Parser (Option α)) → α → Parser α
  | 0, _, _ => failure
  | fuel + 1, step, a => do
    match ← step a with
    | some next => repeatStep fuel step next
    | none => return a

def members (g : Grammar) (allowOptional : Bool) (chain : Chain) : Parser Chain :=
  repeatStep g.fuel (memberStep g allowOptional) chain

/-- The parent of an object, of which only members and the constructor can be used. -/
def superExpression : Parser Expr := do
  expectWord "super"
  require (← isOneOf ["(", ".", "["])
  return .other []

/-- A new instance: the expression after the keyword, and arguments if there are any. -/
def newExpression (g : Grammar) : Parser Expr := do
  expectWord "new"
  if ← eatMark "." then
    expectWord "target"
    return .other []
  if ← isWord "import" then
    require (← ahead (do advance; expectMark "."; isWord "meta"))
  let callee ←
    if ← isWord "new" then g.leftHand
    else
      let first ←
        if ← isWord "super" then superExpression else primary g
      let chain ← members g false ⟨first, false⟩
      require (!(← isMark "?."))
      pure chain.value
  if ← isMark "(" then
    return .other (partOf callee :: itemParts (← arguments g))
  return .other [partOf callee]

/-- A call behind an expression, or one more member. -/
def callStep (g : Grammar) (chain : Chain) : Parser (Option Chain) := do
  match ← memberStep g true chain with
  | some next => return some next
  | none =>
    if ← eatMark "?." then
      if (← isTyped) && (← atAngle) then typeArguments g
      require (← isMark "(")
      return some ⟨.call chain.value (← arguments g), true⟩
    if ← isMark "(" then
      return some { chain with value := .call chain.value (← arguments g) }
    return none

/-- An expression with its members and calls. With a question mark on the way it has no value, and it
cannot be a decorator. -/
def leftHandRule (g : Grammar) : Parser Expr := do
  let first ←
    if ← isWord "new" then newExpression g
    else if ← isWord "super" then superExpression
    else primary g
  let chain ← repeatStep g.fuel (callStep g) ⟨first, false⟩
  flawIf (chain.optional && (← context).inDecorator)
  return if chain.optional then .other [partOf chain.value] else chain.value

end Widgetry.Source.Grammar
