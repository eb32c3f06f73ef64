/-!
Bags: named values in the order in which the names first came. Writing to a name that is already
there changes its value and keeps its place.
-/

namespace Widgetry

/-- Named values in order; each name stands at most once in a bag built by `put`. -/
abbrev Bag (α : Type) := List (String × α)

namespace Bag

variable {α : Type}

def find? (name : String) : Bag α → Option α
  | [] => none
  | (key, value) :: rest => if key = name then some value else find? name rest

def put (name : String) (value : α) : Bag α → Bag α
  | [] => [(name, value)]
  | (key, old) :: rest =>
    if key = name then (key, value) :: rest else (key, old) :: put name value rest

/-- Writes every pair in turn. -/
def putAll (bag : Bag α) (pairs : List (String × α)) : Bag α :=
  pairs.foldl (fun bag pair => put pair.1 pair.2 bag) bag

def ofPairs (pairs : List (String × α)) : Bag α := putAll [] pairs

/-- Inserts by the order of names, replacing the value of a name that is there. -/
def insertSorted (name : String) (value : α) : Bag α → Bag α
  | [] => [(name, value)]
  | (key, old) :: rest =>
    if name < key then (name, value) :: (key, old) :: rest
    else if key = name then (key, value) :: rest
    else (key, old) :: insertSorted name value rest

/-- The pairs by the order of names; of several values of a name the last one stays. -/
def sorted (pairs : List (String × α)) : Bag α :=
  pairs.foldl (fun bag pair => insertSorted pair.1 pair.2 bag) []

@[simp] theorem find?_put_self (name : String) (value : α) (bag : Bag α) :
    find? name (put name value bag) = some value := by
  induction bag with
  | nil => simp [put, find?]
  | cons pair rest ih =>
    obtain ⟨key, old⟩ := pair
    by_cases h : key = name <;> simp [put, find?, h, ih]

theorem find?_put_of_ne {name other : String} (value : α) (bag : Bag α) (h : name ≠ other) :
    find? other (put name value bag) = find? other bag := by
  induction bag with
  | nil => simp [put, find?, h]
  | cons pair rest ih =>
    obtain ⟨key, old⟩ := pair
    by_cases hk : key = name
    · subst hk; simp [put, find?, h]
    · by_cases ho : key = other
      · subst ho; simp [put, find?, hk]
      · simp [put, find?, hk, ho, ih]

end Bag

end Widgetry
