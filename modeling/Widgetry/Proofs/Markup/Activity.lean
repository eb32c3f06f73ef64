import Widgetry.Markup.Draft
import Widgetry.Proofs.Markup.Restoring

/-!
Live activities member by member. One builder that takes the members as they come reads the same
activity as a lookup of each name, since every step gives the scope back. Main statement: where no
object repeats a name, the order of the members does not matter, neither for the activity nor for
the failure to read one.
-/

namespace Widgetry.Markup

open Source (Expr Member)

/-! ## Members one after the other -/

theorem lastSome?_append {α : Type} (f : Expr → Option α) (name : String)
    (front back : List (String × Expr)) :
    lastSome? f name (front ++ back) = (lastSome? f name back).or (lastSome? f name front) := by
  rw [lastSome?, List.filterMap_append, List.getLast?_append]
  rfl

theorem lastSome?_singleton {α : Type} (f : Expr → Option α) (name : String)
    (member : String × Expr) :
    lastSome? f name [member] = if member.1 = name then f member.2 else none := by
  rw [lastSome?, List.filterMap_cons, List.filterMap_nil]
  cases (if member.1 = name then f member.2 else none) <;> rfl

theorem lastSome?_concat {α : Type} (f : Expr → Option α) (name : String)
    (members : List (String × Expr)) (member : String × Expr) :
    lastSome? f name (members ++ [member])
      = if member.1 = name then (f member.2).or (lastSome? f name members)
        else lastSome? f name members := by
  rw [lastSome?_append, lastSome?_singleton]
  split_ifs <;> rfl

theorem lastMember?_concat (name : String) (members : List (String × Expr))
    (member : String × Expr) :
    lastMember? name (members ++ [member])
      = if member.1 = name then some member.2 else lastMember? name members := by
  rw [lastMember?, lastSome?_concat]
  split_ifs <;> rfl

theorem membersOf_concat (name : String) (members : List (String × Expr))
    (member : String × Expr) :
    membersOf name (members ++ [member])
      = membersOf name members
        ++ if member.1 = name then (members? member.2).getD [] else [] := by
  rw [membersOf, List.flatMap_append, List.flatMap_singleton]
  rfl

section

variable (scope : Scope)

/-! Each step of the builder, as the scope alone decides it. -/

def withGroup (attributes : ActivityAttributes) (group : String × Expr) : ActivityAttributes :=
  if group.1 = "static" then
    { attributes with fixed := (attributeTypes? scope group.2).getD attributes.fixed }
  else if group.1 = "dynamic" then
    { attributes with changing := (attributeTypes? scope group.2).getD attributes.changing }
  else attributes

def withPart (island : DynamicIsland) (part : String × Expr) : DynamicIsland :=
  if part.1 = "compact" then { island with compact := markup? scope part.2 }
  else if part.1 = "minimal" then { island with minimal := markup? scope part.2 }
  else if part.1 = "expanded" then { island with expanded := markup? scope part.2 }
  else island

def withRegion (regions : ActivityRegions) (region : String × Expr) : ActivityRegions :=
  if region.1 = "lockScreen" then { regions with lockScreen := markup? scope region.2 }
  else if region.1 = "dynamicIsland" then
    { regions with dynamicIsland := some (readIsland scope region.2) }
  else regions

theorem foldl_withGroup (groups : List (String × Expr)) :
    groups.foldl (withGroup scope) {} = readAttributes scope groups := by
  induction groups using List.reverseRecOn with
  | nil => rfl
  | append_singleton groups group ih =>
    obtain ⟨name, value⟩ := group
    rw [List.foldl_append, ih]
    simp only [List.foldl_cons, List.foldl_nil, withGroup, readAttributes, lastSome?_concat]
    by_cases hstatic : name = "static"
    · subst hstatic
      cases attributeTypes? scope value <;> simp
    · by_cases hdynamic : name = "dynamic"
      · subst hdynamic
        cases attributeTypes? scope value <;> simp
      · simp [hstatic, hdynamic]

theorem foldl_withPart (parts : List (String × Expr)) :
    parts.foldl (withPart scope) {}
      = { compact := (lastMember? "compact" parts).bind (markup? scope)
          minimal := (lastMember? "minimal" parts).bind (markup? scope)
          expanded := (lastMember? "expanded" parts).bind (markup? scope) } := by
  induction parts using List.reverseRecOn with
  | nil => rfl
  | append_singleton parts part ih =>
    obtain ⟨name, value⟩ := part
    rw [List.foldl_append, ih]
    simp only [List.foldl_cons, List.foldl_nil, withPart, lastMember?_concat]
    by_cases hcompact : name = "compact"
    · simp [hcompact]
    · by_cases hminimal : name = "minimal"
      · simp [hminimal]
      · by_cases hexpanded : name = "expanded" <;> simp [hcompact, hminimal, hexpanded]

theorem foldl_withRegion (regions : List (String × Expr)) :
    regions.foldl (withRegion scope) {} = readRegions scope regions := by
  induction regions using List.reverseRecOn with
  | nil => rfl
  | append_singleton regions region ih =>
    obtain ⟨name, value⟩ := region
    rw [List.foldl_append, ih]
    simp only [List.foldl_cons, List.foldl_nil, withRegion, readRegions, lastMember?_concat]
    by_cases hlock : name = "lockScreen"
    · simp [hlock]
    · by_cases hisland : name = "dynamicIsland" <;> simp [hlock, hisland]

def withMember (draft : Draft) (member : String × Expr) : Draft :=
  if member.1 = "activityType" then
    { draft with activityType := (member.2.fold? scope).bind Literal.string? }
  else if member.1 = "attributes" then
    { draft with
      attributes := ((members? member.2).getD []).foldl (withGroup scope) draft.attributes }
  else if member.1 = "regions" then
    { draft with regions := ((members? member.2).getD []).foldl (withRegion scope) draft.regions }
  else if member.1 = "staleDate" then
    { draft with staleDate := (member.2.fold? scope).bind Literal.text? }
  else if member.1 = "relevanceScore" then
    { draft with relevanceScore := (member.2.fold? scope).bind Literal.number? }
  else draft

/-- The draft of an object, each of its parts read from the members of one name. -/
def draftOf (members : List (String × Expr)) : Draft where
  activityType := ((lastMember? "activityType" members).bind (·.fold? scope)).bind Literal.string?
  attributes := readAttributes scope (membersOf "attributes" members)
  regions := readRegions scope (membersOf "regions" members)
  staleDate := ((lastMember? "staleDate" members).bind (·.fold? scope)).bind Literal.text?
  relevanceScore :=
    ((lastMember? "relevanceScore" members).bind (·.fold? scope)).bind Literal.number?

theorem foldl_withMember (members : List (String × Expr)) :
    members.foldl (withMember scope) {} = draftOf scope members := by
  induction members using List.reverseRecOn with
  | nil => rfl
  | append_singleton members member ih =>
    obtain ⟨name, value⟩ := member
    rw [List.foldl_append, ih]
    simp only [List.foldl_cons, List.foldl_nil, withMember, draftOf, lastMember?_concat,
      membersOf_concat, ← foldl_withGroup, ← foldl_withRegion]
    by_cases htype : name = "activityType"
    · simp [htype]
    by_cases hattributes : name = "attributes"
    · simp [hattributes, List.foldl_append]
    by_cases hregions : name = "regions"
    · simp [hregions, List.foldl_append]
    by_cases hstale : name = "staleDate"
    · simp [hstale]
    by_cases hscore : name = "relevanceScore" <;>
      simp [htype, hattributes, hregions, hstale, hscore]

theorem readActivity?_eq (value : Expr) :
    readActivity? scope value
      = (members? value).bind fun members => (draftOf scope members).complete? :=
  rfl

end

/-! ## One builder for all members -/

namespace Builder

variable {α β : Type}

theorem Keeps.attempt {work : Builder α} {value : Scope → Option α} (h : Keeps work value) :
    Keeps (attempt work) fun scope => some (value scope) := by
  intro scope
  show (some (work.run scope).1, (work.run scope).2) = _
  rw [h]

/-- What each step keeps, a run over all members keeps. -/
theorem keeps_foldlM {take : α → β → Builder α} {step : Scope → α → β → α}
    (h : ∀ start member, Keeps (take start member) fun scope => some (step scope start member))
    (start : α) (members : List β) :
    Keeps (members.foldlM take start) fun scope => some (members.foldl (step scope) start) := by
  induction members generalizing start with
  | nil => exact keeps_pure start
  | cons member rest ih =>
    rw [List.foldlM_cons]
    exact (h start member).bind ih

theorem keeps_takeGroup (attributes : ActivityAttributes) (group : String × Expr) :
    Keeps (takeGroup attributes group) fun scope => some (withGroup scope attributes group) := by
  unfold takeGroup withGroup
  split_ifs
  · exact (keeps_ask _).attempt.bind fun _ => keeps_pure _
  · exact (keeps_ask _).attempt.bind fun _ => keeps_pure _
  · exact keeps_pure _

theorem keeps_takePart (island : DynamicIsland) (part : String × Expr) :
    Keeps (takePart island part) fun scope => some (withPart scope island part) := by
  unfold takePart withPart
  split_ifs
  · exact (keeps_markup _).attempt.bind fun _ => keeps_pure _
  · exact (keeps_markup _).attempt.bind fun _ => keeps_pure _
  · exact (keeps_markup _).attempt.bind fun _ => keeps_pure _
  · exact keeps_pure _

theorem keeps_takeRegion (regions : ActivityRegions) (region : String × Expr) :
    Keeps (takeRegion regions region) fun scope => some (withRegion scope regions region) := by
  unfold takeRegion withRegion
  split_ifs
  · exact (keeps_markup _).attempt.bind fun _ => keeps_pure _
  · have hisland := keeps_foldlM keeps_takePart {} ((members? region.2).getD [])
    refine (hisland.bind fun island => keeps_pure _).congr fun scope => ?_
    rw [foldl_withPart]
    rfl
  · exact keeps_pure _

theorem keeps_takeMember (draft : Draft) (member : String × Expr) :
    Keeps (takeMember draft member) fun scope => some (withMember scope draft member) := by
  unfold takeMember withMember
  split_ifs
  · exact (keeps_ask _).attempt.bind fun _ => keeps_pure _
  · exact (keeps_foldlM keeps_takeGroup _ _).bind fun _ => keeps_pure _
  · exact (keeps_foldlM keeps_takeRegion _ _).bind fun _ => keeps_pure _
  · exact (keeps_ask _).attempt.bind fun _ => keeps_pure _
  · exact (keeps_ask _).attempt.bind fun _ => keeps_pure _
  · exact keeps_pure _

theorem keeps_activity (value : Expr) : Keeps (activity value) (readActivity? · value) := by
  refine ((keeps_lift _).bind fun members =>
    (keeps_foldlM keeps_takeMember {} members).bind fun draft => keeps_lift _).congr fun scope => ?_
  rw [readActivity?_eq]
  simp only [Option.bind_some, foldl_withMember]

end Builder

/-! ## Objects in another order -/

/-- How deep an object is read by name: a value is taken as it is, of an object each member is read
by the layout that belongs to its name. -/
inductive Layout where
  | plain
  | object (inner : String → Layout)

namespace Layout

/-- An object whose members are taken as they are. -/
def flat : Layout := .object fun _ => .plain

def inRegions (name : String) : Layout :=
  if name = "dynamicIsland" then flat else .plain

def inActivity (name : String) : Layout :=
  if name = "attributes" then flat else if name = "regions" then .object inRegions else .plain

/-- The description of an activity. -/
def activity : Layout := .object inActivity

end Layout

/-- Members that differ at most in what stands behind a name, and there as `inner` allows. Whether a
comma follows a spread depends on its place. -/
inductive Alike (inner : String → Expr → Expr → Prop) : Member → Member → Prop
  | field {name : String} {value other : Expr} (h : inner name value other) :
      Alike inner (.field name value) (.field name other)
  | computed (key value : Expr) : Alike inner (.computed key value) (.computed key value)
  | spread (value : Expr) (before after : Bool) :
      Alike inner (.spread value before) (.spread value after)

/-- Objects with the same members in any order, also behind parentheses and casts. -/
inductive Rearranged (inner : String → Expr → Expr → Prop) : Expr → Expr → Prop
  | same (value : Expr) : Rearranged inner value value
  | paren {value other : Expr} (h : Rearranged inner value other) :
      Rearranged inner (.paren value) (.paren other)
  | cast (kind : Source.Cast) {value other : Expr} (h : Rearranged inner value other) :
      Rearranged inner (.cast kind value) (.cast kind other)
  | object {members middle others : List Member} (perm : members.Perm middle)
      (alike : List.Forall₂ (Alike inner) middle others) :
      Rearranged inner (.object members) (.object others)

namespace Layout

/-- The two differ in the order of members only, at every level of the layout. -/
def Reordered : Layout → Expr → Expr → Prop
  | .plain => Eq
  | .object inner => Rearranged fun name => (inner name).Reordered

/-- No object repeats a name, at any level of the layout. -/
def Distinct : Layout → Expr → Prop
  | .plain, _ => True
  | .object inner, value =>
    ∀ members, members? value = some members →
      Bag.Distinct members ∧ ∀ member ∈ members, (inner member.1).Distinct member.2

theorem distinct_of_members? {inner : String → Layout} {value : Expr}
    {members : List (String × Expr)} (hvalue : members? value = some members)
    (hnames : Bag.Distinct members) (h : ∀ member ∈ members, (inner member.1).Distinct member.2) :
    (object inner).Distinct value := by
  intro found hfound
  cases hvalue.symm.trans hfound
  exact ⟨hnames, h⟩

theorem reordered_refl (layout : Layout) (value : Expr) : layout.Reordered value value := by
  cases layout with
  | plain => exact rfl
  | object inner => exact .same value

end Layout

/-! ## Names that stand once -/

section

variable {members : List (String × Expr)}

theorem lastSome?_of_distinct {α : Type} (f : Expr → Option α) (name : String)
    (distinct : Bag.Distinct members) :
    lastSome? f name members = (Bag.find? name members).bind f := by
  induction members with
  | nil => rfl
  | cons member rest ih =>
    obtain ⟨hfresh, hrest⟩ := List.nodup_cons.1 distinct
    rw [← List.singleton_append, lastSome?_append, lastSome?_singleton, ih hrest,
      List.singleton_append, Bag.find?]
    by_cases h : member.1 = name
    · have hnone : Bag.find? name rest = none := Bag.find?_eq_none_iff.2 (h ▸ hfresh)
      simp [h, hnone]
    · simp [h]

theorem lastMember?_of_distinct (name : String) (distinct : Bag.Distinct members) :
    lastMember? name members = Bag.find? name members := by
  rw [lastMember?, lastSome?_of_distinct some name distinct, Option.bind_fun_some]

theorem membersOf_of_distinct (name : String) (distinct : Bag.Distinct members) :
    membersOf name members = ((Bag.find? name members).bind members?).getD [] := by
  induction members with
  | nil => rfl
  | cons member rest ih =>
    obtain ⟨hfresh, hrest⟩ := List.nodup_cons.1 distinct
    rw [membersOf, List.flatMap_cons, ← membersOf, ih hrest, Bag.find?]
    by_cases h : member.1 = name
    · have hnone : Bag.find? name rest = none := Bag.find?_eq_none_iff.2 (h ▸ hfresh)
      simp [h, hnone]
    · simp [h]

end

/-! ## Looking up in another order -/

theorem namedMembers_perm {members others : List Member} (perm : members.Perm others) :
    (namedMembers members).Perm (namedMembers others) := by
  induction perm with
  | nil => exact .nil
  | cons member _ ih =>
    cases member with
    | field name value => exact ih.cons _
    | computed key value => exact ih
    | spread value hasComma => exact ih
  | swap first second rest =>
    cases first <;> cases second <;> simp [namedMembers, List.Perm.swap]
  | trans _ _ ihfirst ihsecond => exact ihfirst.trans ihsecond

theorem names_of_alike {inner : String → Expr → Expr → Prop} {members others : List Member}
    (alike : List.Forall₂ (Alike inner) members others) :
    Bag.names (namedMembers members) = Bag.names (namedMembers others) := by
  induction alike with
  | nil => rfl
  | cons h _ ih =>
    cases h with
    | field _ => exact congrArg (List.cons _) ih
    | computed _ _ => exact ih
    | spread _ _ _ => exact ih

theorem find?_of_alike {inner : String → Expr → Expr → Prop} {members others : List Member}
    (alike : List.Forall₂ (Alike inner) members others) (name : String) :
    Option.Rel (inner name) (Bag.find? name (namedMembers members))
      (Bag.find? name (namedMembers others)) := by
  induction alike with
  | nil => exact .none
  | cons h _ ih =>
    cases h with
    | @field key value other hinner =>
      rw [namedMembers, namedMembers, Bag.find?, Bag.find?]
      by_cases hkey : key = name
      · rw [if_pos hkey, if_pos hkey]
        exact .some (hkey ▸ hinner)
      · rw [if_neg hkey, if_neg hkey]
        exact ih
    | computed _ _ => exact ih
    | spread _ _ _ => exact ih

/-- Two objects that answer alike under every name. -/
structure Matches (inner : String → Layout) (members others : List (String × Expr)) : Prop where
  left : Bag.Distinct members
  right : Bag.Distinct others
  found : ∀ name, Option.Rel
    (fun value other => (inner name).Distinct value ∧ (inner name).Reordered value other)
    (Bag.find? name members) (Bag.find? name others)

namespace Matches

variable {inner : String → Layout} {members others : List (String × Expr)}

theorem nil : Matches inner [] [] := ⟨List.nodup_nil, List.nodup_nil, fun _ => .none⟩

theorem same (distinct : Bag.Distinct members)
    (h : ∀ member ∈ members, (inner member.1).Distinct member.2) :
    Matches inner members members := by
  refine ⟨distinct, distinct, fun name => ?_⟩
  cases hfind : Bag.find? name members with
  | none => exact .none
  | some value =>
    exact .some ⟨h (name, value) (Bag.mem_of_find? hfind), Layout.reordered_refl _ value⟩

theorem getD {found other : Option (List (String × Expr))}
    (h : Option.Rel (Matches inner) found other) :
    Matches inner (found.getD []) (other.getD []) := by
  cases h with
  | none => exact nil
  | some h => exact h

theorem find?_eq (h : Matches inner members others) {name : String} (hname : inner name = .plain) :
    Bag.find? name members = Bag.find? name others := by
  have hfound := h.found name
  rw [hname] at hfound
  generalize Bag.find? name members = left, Bag.find? name others = right at hfound ⊢
  cases hfound with
  | none => rfl
  | some h => rw [h.2]

end Matches

theorem Layout.Reordered.members? {inner : String → Layout} {value other : Expr}
    (h : (Layout.object inner).Reordered value other)
    (distinct : (Layout.object inner).Distinct value) :
    Option.Rel (Matches inner) (Markup.members? value) (Markup.members? other) := by
  rw [Layout.Reordered] at h
  induction h with
  | same value =>
    cases hmembers : Markup.members? value with
    | none => exact .none
    | some members =>
      obtain ⟨hnames, hinner⟩ := distinct members hmembers
      exact .some (.same hnames hinner)
  | paren _ ih => exact ih distinct
  | cast kind _ ih =>
    cases kind with
    | asType => exact ih distinct
    | satisfies => exact ih distinct
    | nonNull => exact .none
  | @object members middle others perm alike =>
    obtain ⟨hnames, hinner⟩ := distinct _ rfl
    have hperm := namedMembers_perm perm
    refine .some ⟨hnames, ?_, fun name => ?_⟩
    · rw [Bag.Distinct, ← names_of_alike alike]
      exact hnames.perm hperm
    · have hfound := find?_of_alike alike name
      rw [Bag.find?_perm hnames hperm name] at hfound
      generalize hleft : Bag.find? name (namedMembers members) = left,
        Bag.find? name (namedMembers others) = right at hfound ⊢
      cases hfound with
      | none => exact .none
      | some hrel => exact .some ⟨hinner (name, _) (Bag.mem_of_find? hleft), hrel⟩

theorem Matches.membersOf {inner deeper : String → Layout} {members others : List (String × Expr)}
    (h : Matches inner members others) {name : String} (hname : inner name = .object deeper) :
    Matches deeper (Markup.membersOf name members) (Markup.membersOf name others) := by
  have hfound := h.found name
  rw [hname] at hfound
  rw [membersOf_of_distinct name h.left, membersOf_of_distinct name h.right]
  generalize Bag.find? name members = left, Bag.find? name others = right at hfound ⊢
  cases hfound with
  | none => exact .nil
  | some h => exact .getD (h.2.members? h.1)

/-! ## Activities in another order -/

section

variable (scope : Scope)

theorem readAttributes_of_matches {members others : List (String × Expr)}
    (h : Matches (fun _ => .plain) members others) :
    readAttributes scope members = readAttributes scope others := by
  simp only [readAttributes, lastSome?_of_distinct _ _ h.left, lastSome?_of_distinct _ _ h.right]
  rw [h.find?_eq rfl, h.find?_eq rfl]

theorem readIsland_of_reordered {value other : Expr} (distinct : Layout.flat.Distinct value)
    (h : Layout.flat.Reordered value other) : readIsland scope value = readIsland scope other := by
  have hparts := Matches.getD (h.members? distinct)
  simp only [readIsland, lastMember?_of_distinct _ hparts.left,
    lastMember?_of_distinct _ hparts.right]
  rw [hparts.find?_eq rfl, hparts.find?_eq rfl, hparts.find?_eq rfl]

theorem readRegions_of_matches {members others : List (String × Expr)}
    (h : Matches Layout.inRegions members others) :
    readRegions scope members = readRegions scope others := by
  have hlock : Bag.find? "lockScreen" members = Bag.find? "lockScreen" others := h.find?_eq rfl
  have hisland := h.found "dynamicIsland"
  have hflat : Layout.inRegions "dynamicIsland" = .flat := rfl
  rw [hflat] at hisland
  simp only [readRegions, lastMember?_of_distinct _ h.left, lastMember?_of_distinct _ h.right]
  rw [hlock]
  congr 1
  generalize Bag.find? "dynamicIsland" members = left, Bag.find? "dynamicIsland" others = right
    at hisland ⊢
  cases hisland with
  | none => rfl
  | some h => rw [Option.map_some, Option.map_some, readIsland_of_reordered scope h.1 h.2]

theorem draftOf_of_matches {members others : List (String × Expr)}
    (h : Matches Layout.inActivity members others) :
    draftOf scope members = draftOf scope others := by
  simp only [draftOf, lastMember?_of_distinct _ h.left, lastMember?_of_distinct _ h.right]
  rw [readAttributes_of_matches scope (h.membersOf rfl),
    readRegions_of_matches scope (h.membersOf rfl), h.find?_eq rfl, h.find?_eq rfl, h.find?_eq rfl]

theorem readActivity?_of_reordered {value other : Expr} (distinct : Layout.activity.Distinct value)
    (h : Layout.activity.Reordered value other) :
    readActivity? scope other = readActivity? scope value := by
  rw [readActivity?_eq, readActivity?_eq]
  have hmembers := h.members? distinct
  generalize members? value = left, members? other = right at hmembers ⊢
  cases hmembers with
  | none => rfl
  | some h => rw [Option.bind_some, Option.bind_some, draftOf_of_matches scope h]

end

/-- The order of an activity's members does not matter, at any of the levels that are read by name.
One builder that takes them as they come has the same outcome, and afterwards the same scope. -/
theorem activity_of_reordered (scope : Scope) {value other : Expr}
    (distinct : Layout.activity.Distinct value) (h : Layout.activity.Reordered value other) :
    (Builder.activity value).run scope = (readActivity? scope value, scope) ∧
      (Builder.activity other).run scope = (readActivity? scope value, scope) ∧
      readActivity? scope other = readActivity? scope value := by
  have hread := readActivity?_of_reordered scope distinct h
  refine ⟨Builder.keeps_activity value scope, ?_, hread⟩
  rw [← hread]
  exact Builder.keeps_activity other scope

/-- A ride whose members stand in the order that is given at each level. -/
def ride (order : List Member → List Member) : Expr :=
  .object (order [
    .field "activityType" (.string "Ride"),
    .spread (.identifier "rest") true,
    .field "attributes" (.object (order [
      .field "static" (.object [
        .field "driver" (.string "string"),
        .field "seats" (.string "number")]),
      .field "dynamic" (.object [.field "arrival" (.string "date")])])),
    .field "regions" (.object (order [
      .field "lockScreen" (.element (.mk "View" [] [])),
      .field "dynamicIsland" (.paren (.object (order [
        .field "compact" (.element (.mk "View" [] [])),
        .field "minimal" (.identifier "none")])))]))])

theorem activity_of_reordered_ride :
    Layout.activity.Distinct (ride id) ∧
      Layout.activity.Reordered (ride id) (ride List.reverse) ∧
      (Builder.activity (ride List.reverse)).run {} = (readActivity? {} (ride id), {}) ∧
      (readActivity? {} (ride id)).map (fun activity => activity.attributes.fixed.names)
        = some ["driver", "seats"] := by
  have hattributes : List.Nodup ["static", "dynamic"] := by decide
  have hregions : List.Nodup ["lockScreen", "dynamicIsland"] := by decide
  have hisland : List.Nodup ["compact", "minimal"] := by decide
  have hnames : List.Nodup ["activityType", "attributes", "regions"] := by decide
  have hdistinct : Layout.activity.Distinct (ride id) := by
    refine Layout.distinct_of_members? rfl hnames (List.forall_mem_cons.2 ⟨trivial, ?_⟩)
    refine List.forall_mem_cons.2 ⟨?_, List.forall_mem_singleton.2 ?_⟩
    · exact Layout.distinct_of_members? rfl hattributes fun _ _ => trivial
    · refine Layout.distinct_of_members? rfl hregions (List.forall_mem_cons.2 ⟨trivial, ?_⟩)
      refine List.forall_mem_singleton.2 ?_
      exact Layout.distinct_of_members? rfl hisland fun _ _ => trivial
  have hreordered : Layout.activity.Reordered (ride id) (ride List.reverse) := by
    refine .object (List.reverse_perm _).symm (.cons (.field ?_) (.cons (.field ?_)
      (.cons (.spread _ _ _) (.cons (.field rfl) .nil))))
    · refine .object (List.reverse_perm _).symm
        (.cons (.field (.paren ?_)) (.cons (.field rfl) .nil))
      exact .object (List.reverse_perm _).symm (.cons (.field rfl) (.cons (.field rfl) .nil))
    · exact .object (List.reverse_perm _).symm (.cons (.field rfl) (.cons (.field rfl) .nil))
  exact ⟨hdistinct, hreordered, (activity_of_reordered {} hdistinct hreordered).2.1, rfl⟩

end Widgetry.Markup
