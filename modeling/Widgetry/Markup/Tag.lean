import Widgetry.Node.Basic

/-!
Tags: the elements that become nodes, by their last name and with or without the library's own
name before it.
-/

namespace Widgetry.Markup

/-- What follows the last point of a name. -/
def lastName (name : List Char) : List Char :=
  (name.reverse.takeWhile (· ≠ '.')).reverse

def libraryName : String := "Brik"

/-- Drops a text from the front of another when it stands there. -/
def dropFront (front text : List Char) : List Char :=
  if front.isPrefixOf text then text.drop front.length else text

/-- The kind of node that a tag stands for. -/
def tag? (name : String) : Option NodeType :=
  Spelling.ofWord? (String.ofList (dropFront libraryName.toList (lastName name.toList)))

end Widgetry.Markup
