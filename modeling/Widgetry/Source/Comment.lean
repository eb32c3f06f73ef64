import Widgetry.Source.Cursor
import Widgetry.Text.Blank

/-!
The comment before a place in a text, and the markers in it.
-/

namespace Widgetry.Source

/-- Reads a text backwards up to the opening of a comment; gives the comment without its end,
first character first. -/
def openingBackwards? : List Char → List Char → Option (List Char)
  | '*' :: '/' :: _, found => some ('/' :: '*' :: found)
  | c :: rest, found => openingBackwards? rest (c :: found)
  | [], _ => none

/-- The block comment that ends right before the byte `offset`, apart from white space. -/
def leadingComment? (text : String) (offset : Nat) : Option String :=
  match Cursor.seek? offset text.toList 0 with
  | none => none
  | some _ =>
    let before := Cursor.charsUntil offset text.toList 0
    match before.reverse.dropWhile Text.isBlank with
    | '/' :: '*' :: body =>
      (openingBackwards? body []).map fun comment => String.ofList (comment ++ ['*', '/'])
    | _ => none

/-- One list of characters stands inside another. -/
def occursIn (part : List Char) : List Char → Bool
  | [] => part.isEmpty
  | c :: rest => part.isPrefixOf (c :: rest) || occursIn part rest

/-- The comment before a place holds a marker. -/
def hasMarker (text : String) (offset : Nat) (marker : String) : Bool :=
  (leadingComment? text offset).any fun comment => occursIn marker.toList comment.toList

/-- Marks a function that describes a live activity. -/
def activityMarker : String := "@brik-activity"

/-- Marks a root that is a widget of the home screen. -/
def widgetMarker : String := "@brik-widget"

end Widgetry.Source
