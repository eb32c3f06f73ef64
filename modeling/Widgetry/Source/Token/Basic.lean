import Widgetry.Source.Cursor

/-!
Tokens of the source language.
-/

namespace Widgetry.Source

inductive Token where
  | finish
  /-- An identifier or a keyword, and whether it is spelled with escapes. -/
  | word (name : String) (escaped : Bool)
  | privateName (name : String)
  /-- Punctuation. -/
  | mark (text : String)
  | number (value : Float)
  | bigInteger
  | string (value : String)
  /-- A piece of template text; `none` when it has an escape without a meaning. -/
  | template (text : Option String) (isLast : Bool)
  | regex
  /-- Nothing that the language knows. -/
  | invalid
deriving Inhabited, BEq

/-- A token with its place; `afterNewline` tells whether a line ended since the token before. -/
structure Lexeme where
  token : Token
  start : Cursor
  after : Cursor
  afterNewline : Bool
deriving Inhabited

/-- The letter that ends a line. -/
def isLineEnd (c : Char) : Bool :=
  c = '\n' || c = '\r' || c.toNat = 0x2028 || c.toNat = 0x2029

/-- Blanks between tokens that do not end a line. -/
def isGap (c : Char) : Bool :=
  let n := c.toNat
  n = 0x20 || n = 9 || n = 11 || n = 12 || n = 0x85 || n = 0xA0 || n = 0x1680
    || (0x2000 ≤ n && n ≤ 0x200B) || n = 0x202F || n = 0x205F || n = 0x3000 || n = 0xFEFF

end Widgetry.Source
