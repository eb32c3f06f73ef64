/-!
Paths. A path is a text with slashes between its segments; what it names is the list of its
components. Segments that are empty or a single point say nothing, apart from a slash or a point at
the very start.
-/

namespace Widgetry

/-- A path as it is written. -/
structure Path where
  text : String
deriving DecidableEq, Repr

namespace Path

/-! ## Segments -/

/-- The pieces of a text between the characters `mark`. -/
def splitAt (mark : Char) : List Char → List (List Char)
  | [] => [[]]
  | c :: rest =>
    if c = mark then [] :: splitAt mark rest
    else
      match splitAt mark rest with
      | [] => [[c]]
      | first :: others => (c :: first) :: others

def split (mark : Char) (text : String) : List String :=
  (splitAt mark text.toList).map String.ofList

/-- What stands between the slashes. -/
def segments (path : Path) : List String := split '/' path.text

def ofSegments (segments : List String) : Path := ⟨"/".intercalate segments⟩

/-- A segment that does not lead anywhere. -/
def isIdle (segment : String) : Bool := segment.isEmpty || segment == "."

/-- A list without its last elements that satisfy `p`. -/
def dropLastWhile {α : Type} (p : α → Bool) (items : List α) : List α :=
  (items.reverse.dropWhile p).reverse

/-! ## Components -/

inductive Component where
  /-- The slash at the start of an absolute path. -/
  | root
  /-- The point at the start of a relative path. -/
  | here
  | up
  | name (text : String)
deriving DecidableEq, Repr

namespace Component

/-- The kinds of components in their order. -/
def rank : Component → Nat
  | root => 0
  | here => 1
  | up => 2
  | name _ => 3

/-- Components by their kinds, and names by their characters. -/
def before : Component → Component → Bool
  | name a, name b => decide (a < b)
  | a, b => a.rank < b.rank

end Component

/-- The components of segments that do not stand at the start. -/
def bodyComponents : List String → List Component
  | [] => []
  | segment :: rest =>
    if isIdle segment then bodyComponents rest
    else if segment = ".." then .up :: bodyComponents rest
    else .name segment :: bodyComponents rest

def components (path : Path) : List Component :=
  match path.segments with
  | [] => []
  | [segment] => if segment = "." then [.here] else bodyComponents [segment]
  | first :: rest =>
    if first.isEmpty then .root :: bodyComponents rest
    else if first = "." then .here :: bodyComponents rest
    else bodyComponents (first :: rest)

/-- The order of lists by their first difference. -/
def componentsBefore : List Component → List Component → Bool
  | _, [] => false
  | [], _ :: _ => true
  | a :: as, b :: bs => if a = b then componentsBefore as bs else a.before b

/-- Paths by their components. -/
def before (a b : Path) : Bool := componentsBefore a.components b.components

/-! ## Names -/

/-- The name at the end of a path. -/
def fileName? (path : Path) : Option String :=
  match path.components.getLast? with
  | some (.name text) => some text
  | _ => none

/-- A name before and after its last point; a point at the start does not count. -/
def splitName (name : String) : String × Option String :=
  match (split '.' name).reverse with
  | extension :: first :: rest =>
    let stem := ".".intercalate (first :: rest).reverse
    if stem.isEmpty then (name, none) else (stem, some extension)
  | _ => (name, none)

/-- The name at the end of a path without its extension. -/
def stem? (path : Path) : Option String := path.fileName?.map fun name => (splitName name).1

/-- What stands behind the last point of a name. -/
def extension? (path : Path) : Option String := path.fileName?.bind fun name => (splitName name).2

/-! ## Combining paths -/

/-- A path seen from another one; an absolute path stays as it is. -/
def join (base : Path) (path : String) : Path :=
  if path.startsWith '/' then ⟨path⟩
  else if base.text.isEmpty || base.text.endsWith '/' then ⟨base.text ++ path⟩
  else ⟨base.text ++ "/" ++ path⟩

/-- The segments behind some components, without idle ones in front. -/
def segmentsAfter? : List Component → List String → Option (List String)
  | [], segments => some (segments.dropWhile isIdle)
  | _ :: _, [] => none
  | wanted :: others, segment :: rest =>
    if isIdle segment then segmentsAfter? (wanted :: others) rest
    else if wanted = (if segment = ".." then .up else .name segment) then segmentsAfter? others rest
    else none

/-- Where a path leads from another one that it starts with. -/
def relativeTo? (base path : Path) : Option Path :=
  let rest :=
    match base.components, path.segments with
    | [], segments => some segments
    | .root :: others, first :: rest =>
      if first.isEmpty && !rest.isEmpty then segmentsAfter? others rest else none
    | .here :: others, first :: rest => if first = "." then segmentsAfter? others rest else none
    | wanted, first :: rest =>
      if isIdle first then none else segmentsAfter? wanted (first :: rest)
    | _, [] => none
  rest.map fun segments => ofSegments (dropLastWhile isIdle segments)

/-- The folder that a path stands in. -/
def parent? (path : Path) : Option Path :=
  match (dropLastWhile isIdle path.segments).reverse with
  | [] => none
  | _ :: others =>
    match others.reverse with
    | [] => some ⟨""⟩
    | first :: rest =>
      match dropLastWhile isIdle rest with
      | [] => some (if first.isEmpty then ⟨"/"⟩ else ⟨first⟩)
      | kept => some (ofSegments (first :: kept))

end Path

end Widgetry
