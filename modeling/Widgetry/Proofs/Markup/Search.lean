import Widgetry.Markup.Finder
import Widgetry.Markup.Search
import Widgetry.Proofs.Lists
import Widgetry.Proofs.Markup.Restoring

/-!
The elements of a file and the tree that is found among them. Every element has a place, which knows
the functions around it. Main statement: the tree is that of the first place, in preorder, whose
element can be built with the constants of these functions, and a finder that walks through the file
with one builder finds the same tree.
-/

namespace Widgetry.Markup

open Source (Expr Item Member Function Param Body Statement Declarator Part Element Attribute
  AttributeValue Child Form TopStatement Program)

/-! ## Places -/

/-- An element inside the bodies of some functions, the outermost first. -/
structure Place where
  bodies : List Body
  element : Element

/-- The scope made of the constants of bodies that stand in one another, the outermost first. -/
def scopeIn (bodies : List Body) : Scope :=
  bodies.foldl (fun scope body => enter scope (statementsOf body)) {}

/-- The node of the element in its place, if it can be built there. -/
def Place.node? (place : Place) : Option Node := element? (scopeIn place.bodies) place.element

/-- The bodies around the parts of a form. -/
def bodiesWithin (bodies : List Body) : Form → List Body
  | .body value => bodies ++ [value]
  | _ => bodies

/-- The place of a form that is an element. -/
def ownPlace (bodies : List Body) : Form → List Place
  | .element value => [⟨bodies, value⟩]
  | _ => []

/-- The places in a form, in preorder: an element comes before its attributes and children. -/
def placesIn (bodies : List Body) (form : Form) : List Place :=
  ownPlace bodies form
    ++ form.parts.attach.flatMap fun part => placesIn (bodiesWithin bodies form) part.1
termination_by form
decreasing_by exact Form.sizeOf_lt_of_mem_parts part.2

theorem placesIn_eq (bodies : List Body) (form : Form) :
    placesIn bodies form
      = ownPlace bodies form ++ form.parts.flatMap (placesIn (bodiesWithin bodies form)) := by
  rw [placesIn]
  simp only [List.flatMap_subtype, List.unattach_attach]

/-- An element stands somewhere in a form, with these bodies around it. -/
inductive Stands : List Body → Form → Place → Prop
  | here {bodies : List Body} {value : Element} : Stands bodies (.element value) ⟨bodies, value⟩
  | inside {bodies : List Body} {form part : Form} {place : Place} (hpart : part ∈ form.parts)
      (h : Stands (bodiesWithin bodies form) part place) : Stands bodies form place

theorem mem_placesIn_iff {bodies : List Body} {form : Form} {place : Place} :
    place ∈ placesIn bodies form ↔ Stands bodies form place := by
  induction form using Form.induction generalizing bodies with
  | step form ih =>
    rw [placesIn_eq, List.mem_append, List.mem_flatMap]
    constructor
    · rintro (hown | ⟨part, hpart, hplace⟩)
      · cases form with
        | element value =>
          obtain rfl := List.mem_singleton.1 hown
          exact .here
        | _ => cases hown
      · exact .inside hpart ((ih part hpart).1 hplace)
    · intro h
      cases h with
      | here => exact .inl (List.mem_singleton_self _)
      | inside hpart h => exact .inr ⟨_, hpart, (ih _ hpart).2 h⟩

/-! ## The first element that can be built -/

/-- The node of the first place in a form whose element can be built. -/
def firstIn (bodies : List Body) (form : Form) : Option Node :=
  (placesIn bodies form).findSome? Place.node?

theorem firstIn_eq (bodies : List Body) (form : Form) :
    firstIn bodies form = ((ownPlace bodies form).findSome? Place.node?).or
      (form.parts.findSome? (firstIn (bodiesWithin bodies form))) := by
  rw [firstIn, placesIn_eq, List.findSome?_append, findSome?_flatMap]
  rfl

theorem scopeIn_concat (bodies : List Body) (body : Body) :
    scopeIn (bodies ++ [body]) = enter (scopeIn bodies) (statementsOf body) := by
  rw [scopeIn, List.foldl_append]
  rfl

/-! ## The search part by part -/

/-- The search in a form of any kind. -/
def find (scope : Scope) : Form → Option Node
  | .expr value => findInExpr scope value
  | .item value => findInItems scope [value]
  | .member value => findInMembers scope [value]
  | .function value => findInFunction scope value
  | .param value => findInParams scope [value]
  | .body value => findInBody scope value
  | .statement value => findInStatement scope value
  | .declarator value => findInDeclarators scope [value]
  | .part value => findInParts scope [value]
  | .element value => findInElement scope value
  | .attribute value => findInAttributes scope [value]
  | .attributeValue value => findInAttributeValue scope value
  | .child value => findInChildren scope [value]

/-- A search that goes through a list from its head finds what is first found in a member. -/
theorem eq_findSome?_of_cons {α : Type} {search : List α → Option Node} {make : α → Form}
    {scope : Scope} (hnil : search [] = none)
    (hcons : ∀ value rest, search (value :: rest) = (find scope (make value)).or (search rest))
    (values : List α) : search values = (values.map make).findSome? (find scope) := by
  induction values with
  | nil => exact hnil
  | cons value rest ih => rw [hcons, ih, List.map_cons, findSome?_cons_eq_or]

section Lists

variable (scope : Scope)

theorem findInExprs_eq (values : List Expr) :
    findInExprs scope values = (values.map .expr).findSome? (find scope) :=
  eq_findSome?_of_cons rfl (fun _ _ => rfl) values

theorem findInStatements_eq (values : List Statement) :
    findInStatements scope values = (values.map .statement).findSome? (find scope) :=
  eq_findSome?_of_cons rfl (fun _ _ => rfl) values

theorem findInItems_eq (values : List Item) :
    findInItems scope values = (values.map .item).findSome? (find scope) :=
  eq_findSome?_of_cons rfl (by rintro (_ | _ | _) rest <;> simp [find, findInItems]) values

theorem findInMembers_eq (values : List Member) :
    findInMembers scope values = (values.map .member).findSome? (find scope) :=
  eq_findSome?_of_cons rfl (by rintro (_ | _ | _) rest <;> simp [find, findInMembers]) values

theorem findInParams_eq (values : List Param) :
    findInParams scope values = (values.map .param).findSome? (find scope) :=
  eq_findSome?_of_cons rfl (by rintro ⟨_, _⟩ rest; simp [find, findInParams]) values

theorem findInDeclarators_eq (values : List Declarator) :
    findInDeclarators scope values = (values.map .declarator).findSome? (find scope) :=
  eq_findSome?_of_cons rfl (by rintro ⟨_, _, _ | _⟩ rest <;> simp [find, findInDeclarators]) values

theorem findInParts_eq (values : List Part) :
    findInParts scope values = (values.map .part).findSome? (find scope) :=
  eq_findSome?_of_cons rfl (by rintro (_ | _) rest <;> simp [find, findInParts]) values

theorem findInAttributes_eq (values : List Attribute) :
    findInAttributes scope values = (values.map .attribute).findSome? (find scope) :=
  eq_findSome?_of_cons rfl (by rintro (_ | _ | _) rest <;> simp [find, findInAttributes]) values

theorem findInChildren_eq (values : List Child) :
    findInChildren scope values = (values.map .child).findSome? (find scope) :=
  eq_findSome?_of_cons rfl
    (by rintro (_ | _ | _ | _ | _ | _) rest <;> simp [find, findInChildren]) values

end Lists

theorem findInBody_eq (bodies : List Body) (body : Body) :
    findInBody (scopeIn bodies) body
      = (Form.body body).parts.findSome? (find (scopeIn (bodies ++ [body]))) := by
  rw [scopeIn_concat]
  cases body with
  | absent => rfl
  | concise value => exact List.findSome?_singleton.symm
  | block statements => exact findInStatements_eq _ statements

theorem findSome?_ofBody (scope : Scope) (body : Body) :
    (Form.ofBody body).findSome? (find scope) = findInBody scope body := by
  cases body with
  | absent => rfl
  | concise value => exact List.findSome?_singleton
  | block statements => exact List.findSome?_singleton

/-- The search finds the node of an element in its place, or else what is first found in a part. -/
theorem find_eq (bodies : List Body) (form : Form) :
    find (scopeIn bodies) form = ((ownPlace bodies form).findSome? Place.node?).or
      (form.parts.findSome? (find (scopeIn (bodiesWithin bodies form)))) := by
  -- Bodies change the scope and elements have a place; the other forms only hand the search on.
  cases form with
  | body value => exact findInBody_eq bodies value
  | element value =>
    obtain ⟨tag, attributes, children⟩ := value
    simp [find, findInElement, findInAttributes_eq, findInChildren_eq, ownPlace, bodiesWithin,
      Form.parts, Place.node?, Option.or_assoc]
  | function value =>
    obtain ⟨params, head, body⟩ := value
    simp [find, findInFunction, findInParams_eq, findInParts_eq, findSome?_ofBody, ownPlace,
      bodiesWithin, Form.parts, Option.or_assoc]
  | expr value =>
    cases value <;> simp [find, findInExpr, findInExprs_eq, findInItems_eq, findInMembers_eq,
      findInChildren_eq, findInParts_eq, ownPlace, bodiesWithin, Form.parts, findSome?_cons_eq_or,
      Option.or_assoc]
  | statement value =>
    rcases value with _ | (_ | _) | _ | _ | _ | _ | _ | _ <;> simp [find, findInStatement,
      findInDeclarators_eq, findInParts_eq, ownPlace, bodiesWithin, Form.parts]
  | declarator value =>
    rcases value with ⟨name, parts, _ | _⟩ <;>
      simp [find, findInDeclarators, findInParts_eq, ownPlace, bodiesWithin, Form.parts]
  | _ value =>
    cases value <;> simp [find, findInItems, findInMembers, findInParams, findInParts,
      findInParts_eq, findInAttributes, findInAttributeValue, findInChildren, findInChildren_eq,
      ownPlace, bodiesWithin, Form.parts, findSome?_cons_eq_or]

theorem find_eq_firstIn (bodies : List Body) (form : Form) :
    find (scopeIn bodies) form = firstIn bodies form := by
  induction form using Form.induction generalizing bodies with
  | step form ih =>
    rw [find_eq, firstIn_eq, findSome?_congr fun part hpart => ih part hpart _]

/-! ## The finder -/

/-- A scope with one frame over some others. -/
def Over (outer : Scope) (scope : Scope) : Prop := ∃ frame, scope = outer.push frame

section Over

variable {outer scope : Scope}

theorem Over.declare? (hover : Over outer scope) {declarator : Declarator} {after : Scope}
    (h : declare? scope declarator = some after) : Over outer after := by
  have hbind : ∀ name value, Over outer (scope.bind name value) := by
    obtain ⟨frame, rfl⟩ := hover
    exact fun name value => ⟨_, rfl⟩
  obtain ⟨_ | name, parts, _ | value⟩ := declarator
  · cases h
  · cases h
  · obtain rfl := Option.some.inj h
    exact hbind name .undefined
  · obtain ⟨literal, -, rfl⟩ := Option.map_eq_some_iff.1 h
    exact hbind name literal

theorem Over.declareKnown (hover : Over outer scope) (declarators : List Declarator) :
    Over outer (declareKnown scope declarators) := by
  induction declarators generalizing scope with
  | nil => exact hover
  | cons declarator rest ih =>
    refine ih ?_
    cases hdeclare : Markup.declare? scope declarator with
    | none => exact hover
    | some after => exact hover.declare? hdeclare

theorem Over.declareConstants (hover : Over outer scope) (statements : List Statement) :
    Over outer (declareConstants scope statements) := by
  induction statements generalizing scope with
  | nil => exact hover
  | cons statement rest ih =>
    cases statement with
    | declare kind declarators =>
      cases kind with
      | constant => exact ih (hover.declareKnown declarators)
      | mutable => exact ih hover
    | _ => exact ih hover

end Over

/-- Leaving a body gives the scope from before it. -/
theorem pop_enter (scope : Scope) (statements : List Statement) :
    (enter scope statements).pop = scope := by
  have hpush : Over scope (scope.push []) := ⟨[], rfl⟩
  obtain ⟨frame, hframe⟩ := hpush.declareConstants statements
  rw [enter, hframe, Scope.pop_push]

namespace Finder

theorem foldl_visit {scope : Scope} {first : Form → Option Node} {forms : List Form}
    (h : ∀ form ∈ forms, ∀ found, visit ⟨scope, found⟩ form = ⟨scope, found.or (first form)⟩)
    (found : Option Node) :
    forms.foldl visit ⟨scope, found⟩ = ⟨scope, found.or (forms.findSome? first)⟩ := by
  induction forms generalizing found with
  | nil => rw [List.findSome?_nil, Option.or_none]; rfl
  | cons form rest ih =>
    obtain ⟨hform, hrest⟩ := List.forall_mem_cons.1 h
    rw [List.foldl_cons, hform, ih hrest, findSome?_cons_eq_or, Option.or_assoc]

/-- A visit leaves the scope as it was, and finds the first node unless there is one already. -/
theorem visit_eq (bodies : List Body) (found : Option Node) (form : Form) :
    visit ⟨scopeIn bodies, found⟩ form = ⟨scopeIn bodies, found.or (firstIn bodies form)⟩ := by
  induction form using Form.induction generalizing bodies found with
  | step form ih =>
    have hparts := foldl_visit fun part hpart found =>
      ih part hpart (bodiesWithin bodies form) found
    rw [firstIn_eq, visit.eq_def]
    simp only [List.foldl_subtype, List.unattach_attach]
    cases form with
    | body value =>
      simp only [bodiesWithin, scopeIn_concat] at hparts ⊢
      simp only [hparts, pop_enter, ownPlace, List.findSome?_nil, Option.none_or]
    | element value =>
      cases found with
      | some node => rfl
      | none =>
        simp only [Builder.run_element, ownPlace, List.findSome?_singleton, Place.node?]
        cases element? (scopeIn bodies) value with
        | some node => rfl
        | none => exact hparts none
    | _ => exact hparts found

theorem search_eq_findTree (text : String) (program : Program) :
    search text {} program = findTree text program := by
  induction program with
  | nil => rfl
  | cons top rest ih =>
    have hvisit : ({} : Finder).visit (.statement top.statement)
        = ⟨{}, findInStatement {} top.statement⟩ := by
      have hfind := find_eq_firstIn [] (.statement top.statement)
      exact (visit_eq [] none _).trans (by rw [Option.none_or, ← hfind]; rfl)
    rw [search, hvisit, findTree]
    cases findInStatement {} top.statement with
    | none => exact ih
    | some node => rfl

end Finder

/-! ## The tree of a file -/

/-- A place in a file, and the statement that it is in. -/
structure Site where
  top : TopStatement
  place : Place

/-- The sites of a file, in preorder. -/
def sites (program : Program) : List Site :=
  program.flatMap fun top => (placesIn [] (.statement top.statement)).map fun place => ⟨top, place⟩

theorem mem_sites_iff {program : Program} {site : Site} :
    site ∈ sites program
      ↔ site.top ∈ program ∧ Stands [] (.statement site.top.statement) site.place := by
  obtain ⟨top, place⟩ := site
  simp [sites, mem_placesIn_iff]

/-- The tree at a site, if its element can be built, and whether its statement is marked. -/
def Site.tree? (text : String) (site : Site) : Option (Node × Bool) :=
  site.place.node?.map fun node => (node, Source.hasMarker text site.top.start Source.widgetMarker)

theorem findTree_eq (text : String) (program : Program) :
    findTree text program = (sites program).findSome? (Site.tree? text) := by
  induction program with
  | nil => rfl
  | cons top rest ih =>
    have hsites : (sites (top :: rest)).findSome? (Site.tree? text)
        = ((firstIn [] (.statement top.statement)).map fun node =>
            (node, Source.hasMarker text top.start Source.widgetMarker)).or
          ((sites rest).findSome? (Site.tree? text)) := by
      rw [sites, List.flatMap_cons, List.findSome?_append, List.findSome?_map, firstIn,
        List.map_findSome?]
      rfl
    have hfind : findInStatement {} top.statement = firstIn [] (.statement top.statement) :=
      find_eq_firstIn [] (.statement top.statement)
    rw [findTree, hfind, ih, hsites]
    cases firstIn [] (.statement top.statement) <;> rfl

/-- The tree of a file is that of the first element, in preorder, that can be built in its place,
and there is none exactly when no element can be. A finder with one builder finds the same tree. -/
theorem findTree_eq_first_site (text : String) (program : Program) :
    Finder.search text {} program = findTree text program ∧
    (∀ node marked, findTree text program = some (node, marked) ↔
      ∃ before site after, sites program = before ++ site :: after ∧
        (∀ earlier ∈ before, earlier.place.node? = none) ∧ site.place.node? = some node ∧
        marked = Source.hasMarker text site.top.start Source.widgetMarker) ∧
    (findTree text program = none ↔
      ∀ top ∈ program, ∀ place, Stands [] (.statement top.statement) place →
        place.node? = none) := by
  refine ⟨Finder.search_eq_findTree text program, ?_, ?_⟩
  · intro node marked
    rw [findTree_eq, List.findSome?_eq_some_iff]
    simp only [Site.tree?, Option.map_eq_none_iff, Option.map_eq_some_iff]
    grind
  · rw [findTree_eq, List.findSome?_eq_none_iff]
    simp only [Site.tree?, Option.map_eq_none_iff]
    constructor
    · intro h top htop place hplace
      exact h ⟨top, place⟩ (mem_sites_iff.2 ⟨htop, hplace⟩)
    · intro h site hsite
      obtain ⟨htop, hplace⟩ := mem_sites_iff.1 hsite
      exact h site.top htop site.place hplace

end Widgetry.Markup
