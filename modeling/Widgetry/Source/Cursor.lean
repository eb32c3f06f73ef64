/-!
Cursors: places in a text, counted in the bytes of its UTF-8 form.
-/

namespace Widgetry.Source

/-- What is left of a text, and the byte at which that starts. -/
structure Cursor where
  rest : List Char
  offset : Nat
deriving Inhabited

namespace Cursor

def ofText (text : String) : Cursor := ⟨text.toList, 0⟩

def head? (cursor : Cursor) : Option Char := cursor.rest.head?

/-- One character on; the end stays where it is. -/
def next (cursor : Cursor) : Cursor :=
  match cursor.rest with
  | [] => cursor
  | c :: rest => ⟨rest, cursor.offset + c.utf8Size⟩

def skip : Nat → Cursor → Cursor
  | 0, cursor => cursor
  | n + 1, cursor => skip n cursor.next

/-- The characters that satisfy `p`, and the place after them. -/
def spanFrom (p : Char → Bool) : List Char → Nat → List Char × Cursor
  | [], offset => ([], ⟨[], offset⟩)
  | c :: rest, offset =>
    if p c then
      let (taken, after) := spanFrom p rest (offset + c.utf8Size)
      (c :: taken, after)
    else ([], ⟨c :: rest, offset⟩)

def span (p : Char → Bool) (cursor : Cursor) : List Char × Cursor :=
  spanFrom p cursor.rest cursor.offset

def skipWhile (p : Char → Bool) (cursor : Cursor) : Cursor := (cursor.span p).2

/-- The characters from a place up to the byte `stop`. -/
def charsUntil (stop : Nat) : List Char → Nat → List Char
  | [], _ => []
  | c :: rest, offset =>
    if offset < stop then c :: charsUntil stop rest (offset + c.utf8Size) else []

/-- The text between two places. -/
def textUntil (start : Cursor) (stop : Nat) : String :=
  String.ofList (charsUntil stop start.rest start.offset)

/-- The place at the byte `offset`, when a character starts or the text ends there. -/
def seek? (offset : Nat) : List Char → Nat → Option Cursor
  | [], here => if here = offset then some ⟨[], here⟩ else none
  | c :: rest, here =>
    if here = offset then some ⟨c :: rest, here⟩
    else if offset < here then none
    else seek? offset rest (here + c.utf8Size)

end Cursor

/-- The text from byte `start` to byte `stop`; empty when one of them is out of range, lies inside
a character, or comes too late. -/
def slice (text : String) (start stop : Nat) : String :=
  match Cursor.seek? start text.toList 0, Cursor.seek? stop text.toList 0 with
  | some first, some _ => if start ≤ stop then first.textUntil stop else ""
  | _, _ => ""

end Widgetry.Source
