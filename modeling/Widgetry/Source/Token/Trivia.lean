import Widgetry.Source.Token.Basic

/-!
Blanks and comments between tokens.
-/

namespace Widgetry.Source.Trivia

/-- The place where the line ends. -/
def lineEnd (cursor : Cursor) : Cursor := cursor.skipWhile fun c => !isLineEnd c

/-- What a reader between two tokens is in. -/
inductive Mode where
  | gap
  | lineComment
  | blockComment

/-- Skips what stands between tokens; gives the next place and whether a line ended before it.
With `scripts`, the comment marks of old web pages count too. A comment that is not closed has no
end. -/
def skipFrom (scripts : Bool) : Mode → List Char → Nat → Bool → Option (Cursor × Bool)
  | .blockComment, [], _, _ => none
  | _, [], offset, newline => some (⟨[], offset⟩, newline)
  | .blockComment, '*' :: '/' :: rest, offset, newline =>
    skipFrom scripts .gap rest (offset + 2) newline
  | .blockComment, c :: rest, offset, newline =>
    skipFrom scripts .blockComment rest (offset + c.utf8Size) (newline || isLineEnd c)
  | .lineComment, c :: rest, offset, newline =>
    if isLineEnd c then skipFrom scripts .gap rest (offset + c.utf8Size) true
    else skipFrom scripts .lineComment rest (offset + c.utf8Size) newline
  | .gap, '/' :: '/' :: rest, offset, newline =>
    skipFrom scripts .lineComment rest (offset + 2) newline
  | .gap, '/' :: '*' :: rest, offset, newline =>
    skipFrom scripts .blockComment rest (offset + 2) newline
  | .gap, c :: rest, offset, newline =>
    let isOldComment := scripts && (['<', '!', '-', '-'].isPrefixOf (c :: rest)
      || ((newline || offset = 0) && ['-', '-', '>'].isPrefixOf (c :: rest)))
    if isOldComment then skipFrom scripts .lineComment rest (offset + c.utf8Size) newline
    else if isLineEnd c then skipFrom scripts .gap rest (offset + c.utf8Size) true
    else if isGap c then skipFrom scripts .gap rest (offset + c.utf8Size) newline
    else some (⟨c :: rest, offset⟩, newline)

/-- The next place where a token can start, as `skipFrom` finds it. -/
def skip? (scripts : Bool) (cursor : Cursor) : Option (Cursor × Bool) :=
  skipFrom scripts .gap cursor.rest cursor.offset false

end Widgetry.Source.Trivia
