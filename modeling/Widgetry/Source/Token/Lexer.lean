import Widgetry.Source.Token.Numeric
import Widgetry.Source.Token.Quoted
import Widgetry.Source.Token.Trivia

/-!
Reading one token at a place. Some texts can only be read once it is known what may stand there:
the rest of a template after a hole, a regular expression, and text, names and quoted values in
markup each have a reader of their own.
-/

namespace Widgetry.Source.Lexer

/-! ## Words and punctuation -/

/-- An escaped character of an identifier. -/
def readEscapedChar? (cursor : Cursor) : Option (Char × Cursor) :=
  match cursor.rest with
  | '\\' :: 'u' :: _ =>
    match Quoted.readCodePoint? (cursor.skip 2) with
    | some (n, after) =>
      if Quoted.isHighHalf n || Quoted.isLowHalf n then none else some (Char.ofNat n, after)
    | none => none
  | _ => none

/-- The rest of an identifier, last character first. -/
def readWord? : Nat → List Char → Bool → Cursor → Option (String × Bool × Cursor)
  | 0, _, _, _ => none
  | fuel + 1, found, escaped, cursor =>
    let accepts := if found.isEmpty then Text.isIdentifierStart else Text.isIdentifierPart
    match cursor.rest with
    | '\\' :: _ =>
      match readEscapedChar? cursor with
      | some (c, after) => if accepts c then readWord? fuel (c :: found) true after else none
      | none => none
    | c :: _ =>
      if accepts c then readWord? fuel (c :: found) escaped cursor.next
      else if found.isEmpty then none
      else some (String.ofList found.reverse, escaped, cursor)
    | [] => if found.isEmpty then none else some (String.ofList found.reverse, escaped, cursor)

/-- The identifier at a place, and whether it is spelled with escapes. -/
def wordAt? (cursor : Cursor) : Option (String × Bool × Cursor) :=
  let (plain, after) := cursor.span Text.isIdentifierPart
  match after.rest, plain with
  | '\\' :: _, _ => readWord? (cursor.rest.length + 1) [] false cursor
  | _, c :: _ =>
    if Text.isIdentifierStart c then some (String.ofList plain, false, after) else none
  | _, [] => none

/-- Punctuation, longer marks before shorter ones that start alike. A `>` always stands alone:
what follows it is joined to it only where an operator is looked for. -/
def marks : List String :=
  ["...", "===", "!==", "**=", "<<=", "&&=", "||=", "??=",
   "=>", "==", "!=", "<=", "<<", "&&", "||", "??", "?.", "++", "--", "+=", "-=", "*=", "**", "/=",
   "%=", "&=", "|=", "^=",
   "\x7b", "\x7d", "(", ")", "[", "]", ";", ",", ".", "?", ":", "+", "-", "*", "/", "%", "&", "|",
   "^", "!", "=", "<", ">", "~", "@"]

/-- A question mark and a point before a digit are two marks. -/
def markFits (rest : List Char) (mark : String) : Bool :=
  mark.toList.isPrefixOf rest
    && !(mark = "?." && (rest[2]?.any Char.isDigit))

def markAt? (cursor : Cursor) : Option (Token × Cursor) :=
  (marks.find? (markFits cursor.rest)).map fun mark => (.mark mark, cursor.skip mark.length)

/-! ## Tokens -/

/-- The token at a place where one starts. -/
def tokenAt (cursor : Cursor) : Token × Cursor :=
  let result? : Option (Token × Cursor) :=
    match cursor.rest with
    | [] => some (.finish, cursor)
    | '"' :: _ =>
      (Quoted.readString? '"' cursor.next).map fun (s, after) => (.string s, after)
    | '\x27' :: _ =>
      (Quoted.readString? '\x27' cursor.next).map fun (s, after) => (.string s, after)
    | '\x60' :: _ => Quoted.templateAt? cursor.next
    | '#' :: _ => (wordAt? cursor.next).map fun (name, _, after) => (.privateName name, after)
    | c :: rest =>
      if c.isDigit || (c = '.' && rest.head?.any Char.isDigit) then Numeric.read? cursor
      else
        match wordAt? cursor with
        | some (name, escaped, after) => some (.word name escaped, after)
        | none => if c = '\\' then none else markAt? cursor
  result?.getD (.invalid, cursor.next)

/-- The next token from a place on. -/
def next (scripts : Bool) (cursor : Cursor) : Lexeme :=
  match Trivia.skip? scripts cursor with
  | some (start, newline) =>
    let (token, after) := tokenAt start
    ⟨token, start, after, newline⟩
  | none => ⟨.invalid, cursor, cursor, false⟩

/-- The rest of a template from the brace that closes a hole. -/
def templateTail (brace : Lexeme) : Lexeme :=
  match Quoted.templateAt? brace.after with
  | some (token, after) => { brace with token, after }
  | none => { brace with token := .invalid }

/-! ## Regular expressions -/

/-- The place after the closing slash; `inClass` tells whether square brackets are open. -/
def regexEnd? : List Char → Nat → Bool → Option Cursor
  | [], _, _ => none
  | ['\\'], _, _ => none
  | '\\' :: c :: rest, offset, inClass =>
    if isLineEnd c then none else regexEnd? rest (offset + 1 + c.utf8Size) inClass
  | c :: rest, offset, inClass =>
    if isLineEnd c then none
    else if c = '/' && !inClass then some ⟨rest, offset + 1⟩
    else
      let inClass := if c = '[' then true else if c = ']' then false else inClass
      regexEnd? rest (offset + c.utf8Size) inClass

/-- Flags are known letters, each at most once, and `u` and `v` exclude each other. -/
def validFlags (flags : List Char) : Bool :=
  flags.all (fun c => "gimsuydv".toList.contains c) && flags.eraseDups.length = flags.length
    && !(flags.contains 'u' && flags.contains 'v')

/-- The regular expression that starts with a slash. -/
def regex (slash : Lexeme) : Lexeme :=
  match regexEnd? slash.start.next.rest (slash.start.offset + 1) false with
  | some close =>
    let (flags, after) := close.span Text.isIdentifierPart
    if validFlags flags then { slash with token := .regex, after }
    else { slash with token := .invalid }
  | none => { slash with token := .invalid }

/-! ## Markup -/

/-- The word with the hyphens and words that follow it directly, as a name in markup. -/
def markupName (word : Lexeme) : Lexeme :=
  match word.token with
  | .word name _ =>
    let (more, after) := word.after.span fun c => c = '-' || Text.isIdentifierPart c
    { word with token := .word (name ++ String.ofList more) false, after }
  | _ => word

/-- The token after the equals sign of an attribute: quoted text there has no escapes. -/
def attributeValue (scripts : Bool) (cursor : Cursor) : Lexeme :=
  let found := next scripts cursor
  match found.start.rest with
  | c :: _ =>
    if c = '"' || c = '\x27' then
      let (text, after) := found.start.next.span (· ≠ c)
      if after.rest.isEmpty then { found with token := .invalid }
      else { found with token := .string (String.ofList text), after := after.next }
    else found
  | [] => found

/-- The text of markup up to a brace or an angle bracket. -/
def markupText (cursor : Cursor) : String × Cursor :=
  let (text, after) :=
    cursor.span fun c => !(c = '\x7b' || c = '\x7d' || c = '<' || c = '>')
  (String.ofList text, after)

end Widgetry.Source.Lexer
