/-!
Enumerations that are written as words.
-/

namespace Widgetry

/-- The members of an enumeration in order, and the word for each. -/
class Spelling (α : Type) where
  all : List α
  word : α → String

namespace Spelling

variable {α : Type} [Spelling α]

def words (α : Type) [Spelling α] : List String := (all : List α).map word

/-- The member that a word stands for. -/
def ofWord? (text : String) : Option α := all.find? fun member => word member = text

end Spelling

end Widgetry
