import Widgetry.Bag
import Widgetry.Json.Basic

/-!
Tables of a TOML document while it is read. A table may be written in several places, but nothing
may be defined twice: a table that stands in for a longer name can still be defined, and a table
that came from dotted keys can only be extended by dotted keys.
-/

namespace Widgetry.Toml

inductive Item where
  | value (value : Json)
  /-- A table; it is implied by a longer name, or comes from dotted keys, or both. -/
  | table (implied dotted : Bool) (items : List (String × Item))
  /-- Tables under one name, the first one first. -/
  | tables (elements : List (List (String × Item)))

abbrev Table := List (String × Item)

/-- Changes the table at the end of a path, making tables on the way. `change` is told whether the
table comes from dotted keys. -/
def descend (dotted : Bool) (change : Bool → Table → Option Table) :
    Bool → List String → Table → Option Table
  | isDotted, [], table => change isDotted table
  | _, key :: rest, table =>
    match Bag.find? key table with
    | none => do
      let inner ← descend dotted change dotted rest []
      return Bag.put key (.table true dotted inner) table
    | some (.value _) => none
    | some (.table implied isDotted inner) =>
      if dotted && !implied then none
      else do
        let inner ← descend dotted change isDotted rest inner
        return Bag.put key (.table implied isDotted inner) table
    | some (.tables elements) =>
      match elements.reverse with
      | [] => none
      | last :: front => do
        let last ← descend dotted change false rest last
        return Bag.put key (.tables (front.reverse ++ [last])) table

/-- Adds a value under a dotted key. -/
def insert (path : List String) (key : String) (value : Json) (table : Table) : Option Table :=
  let add (isDotted : Bool) (table : Table) : Option Table :=
    if isDotted = path.isEmpty || (Bag.find? key table).isSome then none
    else some (Bag.put key (.value value) table)
  descend true add false path table

/-- Starts a table under a header. -/
def startTable (path : List String) (key : String) (table : Table) : Option Table :=
  let start (_ : Bool) (table : Table) : Option Table :=
    match Bag.find? key table with
    | none => some (Bag.put key (.table false false []) table)
    | some (.table true false inner) => some (Bag.put key (.table false false inner) table)
    | some _ => none
  descend false start false path table

/-- Starts one more table under the header of several. -/
def startElement (path : List String) (key : String) (table : Table) : Option Table :=
  let start (_ : Bool) (table : Table) : Option Table :=
    match Bag.find? key table with
    | none => some (Bag.put key (.tables [[]]) table)
    | some (.tables elements) => some (Bag.put key (.tables (elements ++ [[]])) table)
    | some _ => none
  descend false start false path table

mutual

def Item.toJson : Item → Json
  | .value value => value
  | .table _ _ items => .object (itemsToJson items)
  | .tables elements => .array (elementsToJson elements)

def itemsToJson : List (String × Item) → List (String × Json)
  | [] => []
  | (name, item) :: rest => (name, item.toJson) :: itemsToJson rest

def elementsToJson : List (List (String × Item)) → List Json
  | [] => []
  | items :: rest => .object (itemsToJson items) :: elementsToJson rest

end

end Widgetry.Toml
