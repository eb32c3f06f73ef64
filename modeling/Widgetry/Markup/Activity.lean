import Widgetry.Markup.Build
import Widgetry.Root.Basic
import Widgetry.Source.Comment

/-!
Live activities. A statement that is marked as an activity declares a function, and the object that
this function returns describes the activity. A later member of a name takes the place of an
earlier one.
-/

namespace Widgetry.Markup

open Source (Expr Member Function Body Statement Declarator Program)

/-! ## Returned values -/

/-- The value of the first return that has one. -/
def firstReturned? : List Statement → Option Expr
  | [] => none
  | .returns (some value) :: _ => some value
  | _ :: rest => firstReturned? rest

/-- What a function returns, with the scope inside it. -/
def returnedBy? : Function → Option (Scope × Expr)
  | .mk _ _ .absent => none
  | .mk _ _ (.concise value) => some (enter {} [], value)
  | .mk _ _ (.block statements) =>
    (firstReturned? statements).map fun value => (enter {} statements, value)

/-- What the function that a variable is declared with returns. -/
def returnedByDeclarator? : Declarator → Option (Scope × Expr)
  | .mk _ _ (some (.function value)) => returnedBy? value
  | _ => none

/-- What the functions declared by a statement return. -/
def returnedByStatement : Statement → List (Scope × Expr)
  | .function value => (returnedBy? value).toList
  | .declare _ declarators => declarators.filterMap returnedByDeclarator?
  | .exported (.function value) => (returnedBy? value).toList
  | .exported (.declare _ declarators) => declarators.filterMap returnedByDeclarator?
  | .exportedDefault (.function value) => (returnedBy? value).toList
  | _ => []

/-! ## Descriptions -/

/-- The named members of an object. -/
def namedMembers : List Member → List (String × Expr)
  | [] => []
  | .field name value :: rest => (name, value) :: namedMembers rest
  | _ :: rest => namedMembers rest

/-- The named members of an expression that is an object. -/
def members? : Expr → Option (List (String × Expr))
  | .paren inner => members? inner
  | .cast .asType inner => members? inner
  | .cast .satisfies inner => members? inner
  | .object members => some (namedMembers members)
  | _ => none

/-- The last value of a member that satisfies `f`; a later one that does not is passed over. -/
def lastSome? {α : Type} (f : Expr → Option α) (name : String) (members : List (String × Expr)) :
    Option α :=
  (members.filterMap fun member => if member.1 = name then f member.2 else none).getLast?

/-- The last member of a name. -/
def lastMember? (name : String) (members : List (String × Expr)) : Option Expr :=
  lastSome? some name members

/-- The types of attributes; an attribute without a known type is left out. -/
def attributeTypes (members : Bag Literal) : Bag AttributeType :=
  members.filterMap fun member =>
    (member.2.string?.bind Spelling.ofWord?).map fun type => (member.1, type)

/-- The types that an expression gives to attributes. -/
def attributeTypes? (scope : Scope) (value : Expr) : Option (Bag AttributeType) :=
  match value.fold? scope with
  | some (.object members) => some (attributeTypes members)
  | _ => none

/-- All members of the objects behind one name. -/
def membersOf (name : String) (members : List (String × Expr)) : List (String × Expr) :=
  members.flatMap fun member => if member.1 = name then (members? member.2).getD [] else []

def readAttributes (scope : Scope) (members : List (String × Expr)) : ActivityAttributes where
  fixed := (lastSome? (attributeTypes? scope) "static" members).getD []
  changing := (lastSome? (attributeTypes? scope) "dynamic" members).getD []

def readIsland (scope : Scope) (value : Expr) : DynamicIsland :=
  let parts := (members? value).getD []
  { compact := (lastMember? "compact" parts).bind (markup? scope)
    minimal := (lastMember? "minimal" parts).bind (markup? scope)
    expanded := (lastMember? "expanded" parts).bind (markup? scope) }

def readRegions (scope : Scope) (members : List (String × Expr)) : ActivityRegions where
  lockScreen := (lastMember? "lockScreen" members).bind (markup? scope)
  dynamicIsland := (lastMember? "dynamicIsland" members).map (readIsland scope)

/-- The activity that an object describes. It has to name its type. -/
def readActivity? (scope : Scope) (value : Expr) : Option LiveActivity := do
  let members ← members? value
  let known (name : String) : Option Literal := (lastMember? name members).bind (·.fold? scope)
  let activityType ← (known "activityType").bind Literal.string?
  guard !activityType.isEmpty
  return {
    activityType
    attributes := readAttributes scope (membersOf "attributes" members)
    regions := readRegions scope (membersOf "regions" members)
    staleDate := (known "staleDate").bind Literal.text?
    relevanceScore := (known "relevanceScore").bind Literal.number? }

/-- The activity of a file: the first that a marked statement describes. -/
def findActivity? (text : String) (program : Program) : Option LiveActivity :=
  program.findSome? fun top =>
    if Source.hasMarker text top.start Source.activityMarker then
      (returnedByStatement top.statement).findSome? fun returned =>
        readActivity? returned.1 returned.2
    else none

end Widgetry.Markup
