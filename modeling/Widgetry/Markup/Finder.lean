import Widgetry.Markup.Builder
import Widgetry.Source.Comment
import Widgetry.Source.Form

/-!
A finder that walks through a file with one builder. It opens a frame for the body of every function
that it comes to and closes it behind the body, and it stops building once it has found a node.
-/

namespace Widgetry.Markup

open Source (Body Statement Form Program)

/-- The statements of a body; a concise one has none that declare anything. -/
def statementsOf : Body → List Statement
  | .absent => []
  | .concise value => [.expression value]
  | .block statements => statements

/-- The scope of the builder, and the node that is found. -/
structure Finder where
  scope : Scope := {}
  found : Option Node := none

namespace Finder

/-- Visits a form. An element is built, or else searched; a body is searched with its constants
known; any other form is searched. -/
def visit (finder : Finder) (form : Form) : Finder :=
  let walk (finder : Finder) : Finder :=
    form.parts.attach.foldl (fun finder part => finder.visit part.1) finder
  match form with
  | .element value =>
    if finder.found.isSome then finder
    else
      match (Builder.element value).run finder.scope with
      | (some node, scope) => ⟨scope, some node⟩
      | (none, scope) => walk ⟨scope, none⟩
  | .body value =>
    let after := walk ⟨enter finder.scope (statementsOf value), finder.found⟩
    ⟨after.scope.pop, after.found⟩
  | _ => walk finder
termination_by form
decreasing_by exact Form.sizeOf_lt_of_mem_parts part.2

/-- The tree of a file, and whether its statement is marked as a widget. -/
def search (text : String) (finder : Finder) : Program → Option (Node × Bool)
  | [] => none
  | top :: rest =>
    let after := finder.visit (.statement top.statement)
    match after.found with
    | some node => some (node, Source.hasMarker text top.start Source.widgetMarker)
    | none => after.search text rest

end Finder

end Widgetry.Markup
