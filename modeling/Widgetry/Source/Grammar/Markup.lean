import Widgetry.Source.Grammar.Commas

/-!
The grammar of markup: elements, fragments, attributes and children.
-/

namespace Widgetry.Source.Grammar

/-! ## Names -/

/-- A word that may go on with hyphens. -/
def markupIdentifier : Parser String := do
  require (← isAnyWord)
  relex Lexer.markupName
  anyWord

/-- The name of an element with its points or its colon, piece by piece. Behind a point there is no
hyphen. -/
def tagPieces (g : Grammar) : Parser (List String) := do
  let first ← markupIdentifier
  if ← eatMark ":" then return [first, ":", ← markupIdentifier]
  let rest ← many g.fuel do
    if ← eatMark "." then
      let piece ← markupIdentifier
      require (!piece.contains '-')
      return some piece
    else return none
  return first :: rest

/-! ## Attributes -/

/-- An expression in markup, which has no commas: nothing around it counts, apart from waiting. -/
def markupExpression (g : Grammar) : Parser Expr :=
  within (fun c => { ambient := c.ambient, allowAwait := c.allowAwait }) (g.assignment true)

/-- The value after an equals sign. -/
def attributeValue (g : Grammar) : Parser AttributeValue := do
  moveTo fun s cursor => Lexer.attributeValue (!s.dialect.module) cursor
  match ← token with
  | .string text =>
    advance
    return .text text
  | .mark "\x7b" =>
    advance
    if ← eatMark "\x7d" then return .empty
    let start ← place
    let value ← markupExpression g
    let written ← textFrom start
    expectMark "\x7d"
    return .expression value written
  | .mark "<" =>
    let value ← g.markup
    advance
    return .markup value
  | _ => failure

def attributeRule (g : Grammar) : Parser Attribute := do
  if ← eatMark "\x7b" then
    expectMark "..."
    let value ← fullExpression g
    expectMark "\x7d"
    return .spread value
  let name ← markupIdentifier
  let isQualified ← eatMark ":"
  if isQualified then
    let _ ← markupIdentifier
  let value ← if ← isMark "=" then attributeValue g else pure .flag
  return if isQualified then .namespaced value else .named name value

/-! ## Children -/

/-- Moves to a place inside the children and makes what stands there the current token. -/
def enter (token : Token) (start after : Cursor) : Parser Unit :=
  modify fun s => { s with current := ⟨token, start, after, false⟩, lastEnd := start.offset }

/-- A child in braces; the brace that closes it stays the current token. -/
def bracedChild (g : Grammar) : Parser Child := do
  if ← isMark "\x7d" then return .empty
  if ← eatMark "..." then
    let value ← fullExpression g
    require (← isMark "\x7d")
    return .spread value
  let value ← markupExpression g
  require (← isMark "\x7d")
  return .expression value

/-- The next child after the current token, and none at a closing tag, whose slash becomes the
current token. -/
def child? (g : Grammar) : Parser (Option Child) := do
  let start := (← get).current.after
  let (text, after) := Lexer.markupText start
  if !text.isEmpty then
    enter .finish start after
    return some (.text text)
  match after.rest with
  | '<' :: _ =>
    enter (.mark "<") after after.next
    if ← ahead (do advance; isMark "/") then
      advance
      return none
    match ← g.markup with
    | .element value => return some (.element value)
    | .fragment children => return some (.fragment children)
    | _ => failure
  | '\x7b' :: _ =>
    enter (.mark "\x7b") after after.next
    advance
    return some (← bracedChild g)
  | _ => failure

def children (g : Grammar) : Parser (List Child) := many g.fuel (child? g)

/-! ## Elements -/

/-- Attributes up to the end of the opening tag. -/
def attributes (g : Grammar) : Parser (List Attribute) :=
  many g.fuel do
    if ← isOneOf ["/", ">"] then return none else return some (← attributeRule g)

/-- An element or a fragment from its first angle bracket on. -/
def markupRule (g : Grammar) : Parser Expr := do
  expectMark "<"
  if ← isMark ">" then
    let found ← children g
    advance
    require (← isMark ">")
    return .fragment found
  let start ← place
  let pieces ← tagPieces g
  let tag ← textFrom start
  if (← isTyped) && (← atAngle) then typeArguments g
  let given ← attributes g
  if ← eatMark "/" then
    require (← isMark ">")
    return .element (.mk tag given [])
  let found ← children g
  advance
  let closing ← tagPieces g
  require (closing = pieces)
  require (← isMark ">")
  return .element (.mk tag given found)

end Widgetry.Source.Grammar
