/-!
Identifiers for generated code.
-/

namespace Widgetry.Code

def isIdentifierChar (c : Char) : Bool := c.isAlphanum || c = '_'

/-- An identifier out of any text: other characters become underscores, and one more stands in
front of a digit or an empty text. -/
def identifier (raw : String) : String :=
  let cs := raw.toList.map fun c => if isIdentifierChar c then c else '_'
  match cs with
  | [] => "_"
  | c :: _ => if c.isDigit then String.ofList ('_' :: cs) else String.ofList cs

end Widgetry.Code
