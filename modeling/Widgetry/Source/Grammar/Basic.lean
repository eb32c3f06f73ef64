import Widgetry.Source.Token.Lexer
import Widgetry.Source.Tree

/-!
The ground of the grammar: what a reader of the source carries along, its elementary steps, and
the record of productions that refer to each other.

A production that cannot go on fails, and then what it read is forgotten. Some mistakes do not stop
the reading; they are noted as flaws, and a text with a flaw is refused at its end.
-/

namespace Widgetry.Source

/-- Which language a file is written in. -/
structure Dialect where
  /-- Type annotations are allowed. -/
  typed : Bool := true
  /-- Markup elements are allowed. -/
  markup : Bool := true
  /-- The file is a module and not a script. -/
  module : Bool := true
  /-- The file only declares. -/
  declarations : Bool := false
deriving DecidableEq, Repr

namespace Grammar

/-- What the surrounding forms allow. -/
structure Context where
  allowIn : Bool := true
  allowYield : Bool := false
  allowAwait : Bool := false
  allowReturn : Bool := false
  inDecorator : Bool := false
  ambient : Bool := false
  noConditionalType : Bool := false

structure State where
  dialect : Dialect
  context : Context
  current : Lexeme
  /-- The byte after the token before the current one. -/
  lastEnd : Nat
  flawed : Bool
  /-- Members such as `a = 1` that stand in objects not yet known to be patterns. -/
  initializers : Nat
  /-- The names that were exported so far. -/
  exported : List String

abbrev Parser := StateT State Option

variable {α β : Type}

/-! ## Looking at the current token -/

def token : Parser Token := return (← get).current.token

/-- The place of the current token. -/
def place : Parser Cursor := return (← get).current.start

/-- The text from a place up to the end of the last token that was read. -/
def textFrom (start : Cursor) : Parser String := return start.textUntil (← get).lastEnd

def afterNewline : Parser Bool := return (← get).current.afterNewline

def dialect : Parser Dialect := return (← get).dialect

def context : Parser Context := return (← get).context

def isTyped : Parser Bool := return (← get).dialect.typed

def isMark (text : String) : Parser Bool := return (← token) == .mark text

def isOneOf (marks : List String) : Parser Bool := do
  match ← token with
  | .mark text => return marks.contains text
  | _ => return false

/-- The current word when it is spelled without escapes. -/
def plainWord? : Parser (Option String) := do
  match ← token with
  | .word name false => return some name
  | _ => return none

def isWord (name : String) : Parser Bool := return (← token) == .word name false

def isOneWordOf (names : List String) : Parser Bool := do
  match ← token with
  | .word name false => return names.contains name
  | _ => return false

/-! ## Moving on -/

/-- Leaves the current token for one that starts after it. -/
def moveTo (next : State → Cursor → Lexeme) : Parser Unit :=
  modify fun s =>
    { s with current := next s s.current.after, lastEnd := s.current.after.offset }

def advance : Parser Unit :=
  moveTo fun s cursor => Lexer.next (!s.dialect.module) cursor

/-- Reads the current token again in another way. -/
def relex (read : Lexeme → Lexeme) : Parser Unit :=
  modify fun s => { s with current := read s.current }

def flaw : Parser Unit := modify fun s => { s with flawed := true }

def flawIf (condition : Bool) : Parser Unit := if condition then flaw else pure ()

def require (condition : Bool) : Parser Unit := if condition then pure () else failure

def eatMark (text : String) : Parser Bool := do
  if ← isMark text then
    advance
    return true
  else return false

def expectMark (text : String) : Parser Unit := do
  require (← isMark text)
  advance

def eatWord (name : String) : Parser Bool := do
  if ← isWord name then
    advance
    return true
  else return false

def expectWord (name : String) : Parser Unit := do
  require (← isWord name)
  advance

/-! ## Combining -/

/-- Runs a production and goes back to where it started. -/
def peek (p : Parser α) : Parser (Option α) := fun s => some ((p s).map Prod.fst, s)

/-- What a question answers further on; a question that fails is answered with no. -/
def ahead (p : Parser Bool) : Parser Bool := return (← peek p).getD false

/-- Runs a production; when it fails, nothing is read. -/
def attempt (p : Parser α) : Parser (Option α) := fun s =>
  match p s with
  | some (a, s) => some (some a, s)
  | none => some (none, s)

/-- Runs a production as often as it gives something. -/
def many : Nat → Parser (Option α) → Parser (List α)
  | 0, _ => failure
  | fuel + 1, p => do
    match ← p with
    | some a => return a :: (← many fuel p)
    | none => return []

/-- Runs a production with changed permissions. -/
def within (change : Context → Context) (p : Parser α) : Parser α := do
  let saved ← context
  modify fun s => { s with context := change s.context }
  let a ← p
  modify fun s => { s with context := saved }
  return a

/-- Items with a mark between each two and after the last one if need be, up to the closing mark,
which is read too. -/
def listUntil (fuel : Nat) (separator close : String) (item : Parser α) : Parser (List α) := do
  let items ← many fuel do
    if ← isMark close then return none
    let a ← item
    if !(← isMark close) then expectMark separator
    return some a
  expectMark close
  return items

/-- The end of a statement: a semicolon, or a place where none is needed. -/
def endStatement : Parser Unit := do
  if ← eatMark ";" then return
  require ((← isMark "\x7d") || (← token) == .finish || (← afterNewline))

/-! ## Words -/

/-- Words that cannot be names. -/
def reservedWords : List String :=
  ["break", "case", "catch", "class", "const", "continue", "debugger", "default", "delete", "do",
   "else", "enum", "export", "extends", "false", "finally", "for", "function", "if", "import",
   "in", "instanceof", "new", "null", "return", "super", "switch", "this", "throw", "true", "try",
   "typeof", "var", "void", "while", "with"]

def isReserved (name : String) : Bool := reservedWords.contains name

/-- The current token is a word that can be a name. -/
def isName : Parser Bool := do
  match ← token with
  | .word name _ => return !isReserved name
  | _ => return false

def isAnyWord : Parser Bool := do
  match ← token with
  | .word .. => return true
  | _ => return false

/-- Any word, such as the name of a member. -/
def anyWord : Parser String := do
  match ← token with
  | .word name _ =>
    advance
    return name
  | _ => failure

/-- A name that is bound or referred to. -/
def name : Parser String := do
  match ← token with
  | .word name _ =>
    require (!isReserved name)
    let context ← context
    flawIf ((name = "await" && context.allowAwait) || (name = "yield" && context.allowYield))
    advance
    return name
  | _ => failure

/-! ## The productions that refer to each other -/

/-- What a pattern binds: its name when it is only a name, all its names, and what else stands in
it. -/
structure Binding where
  name : Option String
  names : List String
  parts : List Part

end Grammar

open Grammar in
/-- The productions that others refer to, and a bound on repetitions. -/
structure Grammar where
  fuel : Nat
  /-- An expression without commas. The argument tells whether an arrow function may state the type
  of its result. -/
  assignment : Bool → Parser Expr
  /-- Operators that bind more tightly than the given rank. -/
  binary : Nat → Parser Expr
  unary : Parser Expr
  /-- What can stand before a call or an assignment. -/
  leftHand : Parser Expr
  type : Parser Unit
  /-- A type with the words before it; the answer tells whether it is written as a list or a tuple. -/
  typeOperator : Parser Bool
  binding : Parser Binding
  /-- A markup element or fragment, up to its last angle bracket, which stays the current token. -/
  markup : Parser Expr
  statement : Parser Statement

namespace Grammar

/-- The grammar of which nothing can be read. -/
def stuck : Grammar where
  fuel := 0
  assignment := fun _ => failure
  binary := fun _ => failure
  unary := failure
  leftHand := failure
  type := failure
  typeOperator := failure
  binding := failure
  markup := failure
  statement := failure

end Grammar

end Widgetry.Source
