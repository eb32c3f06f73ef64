import Widgetry.Proofs.Bag.Sorted
import Widgetry.Proofs.Json.Proper
import Widgetry.Source.Fold

/-!
Literals whose objects keep their names apart. Folding finds no other values as long as the scope
holds no others, and the JSON of a literal is always proper.
-/

namespace Widgetry

namespace Literal

mutual

/-- No object holds a name twice. -/
def Proper : Literal → Prop
  | .array items => ProperItems items
  | .object members => Bag.Distinct members ∧ ProperMembers members
  | _ => True

def ProperItems : List Literal → Prop
  | [] => True
  | item :: rest => Proper item ∧ ProperItems rest

def ProperMembers : List (String × Literal) → Prop
  | [] => True
  | (_, value) :: rest => Proper value ∧ ProperMembers rest

end

theorem properItems_iff {items : List Literal} :
    ProperItems items ↔ ∀ item ∈ items, item.Proper := by
  induction items with
  | nil => simp [ProperItems]
  | cons item rest ih => simp [ProperItems, ih]

theorem properMembers_iff {members : List (String × Literal)} :
    ProperMembers members ↔ ∀ member ∈ members, member.2.Proper := by
  induction members with
  | nil => simp [ProperMembers]
  | cons member rest ih => simp [ProperMembers, ih]

theorem proper_array {items : List Literal} :
    (array items).Proper ↔ ∀ item ∈ items, item.Proper :=
  properItems_iff

theorem proper_object {members : List (String × Literal)} :
    (object members).Proper ↔ Bag.Distinct members ∧ ∀ member ∈ members, member.2.Proper :=
  and_congr_right fun _ => properMembers_iff

theorem proper_object_nil : (object []).Proper := ⟨.nil, trivial⟩

/-! ## JSON -/

mutual

theorem proper_toJson : (v : Literal) → v.toJson.Proper
  | .undefined | .null | .bool _ | .string _ => trivial
  | .number x => Json.proper_ofFloat x
  | .array items => Json.properItems_iff.2 (proper_itemsToJson items)
  | .object members => ⟨Bag.ordered_sorted _, Json.properMembers_iff.2 fun member hmember =>
      proper_membersToJson members member (Bag.mem_of_mem_sorted hmember)⟩

theorem proper_itemsToJson : (items : List Literal) → ∀ item ∈ itemsToJson items, item.Proper
  | [] => nofun
  | item :: rest => List.forall_mem_cons.2 ⟨proper_toJson item, proper_itemsToJson rest⟩

theorem proper_membersToJson :
    (members : List (String × Literal)) → ∀ member ∈ membersToJson members, member.2.Proper
  | [] => nofun
  | (name, value) :: rest => by
    rw [membersToJson]
    split
    · exact proper_membersToJson rest
    · exact List.forall_mem_cons.2 ⟨proper_toJson value, proper_membersToJson rest⟩

end

/-! ## Operators -/

theorem proper_unary? {op : Source.UnaryOp} {value result : Literal}
    (h : unary? op value = some result) : result.Proper := by
  cases op <;> simp only [unary?, Option.some.injEq, reduceCtorEq] at h <;> subst h <;> trivial

theorem proper_binary? {op : Source.BinaryOp} {a b result : Literal}
    (h : binary? op a b = some result) : result.Proper := by
  cases op <;>
    simp only [binary?, add, Option.some.injEq, Option.map_eq_some_iff, reduceCtorEq] at h
  case add =>
    split at h <;> subst h <;> trivial
  all_goals first
    | (subst h; trivial)
    | (obtain ⟨equal, -, rfl⟩ := h; trivial)

theorem Proper.find? {members : Bag Literal} (proper : (object members).Proper) {name : String}
    {value : Literal} (h : Bag.find? name members = some value) : value.Proper :=
  (proper_object.1 proper).2 _ (Bag.mem_of_find? h)

theorem Proper.put {members : Bag Literal} (proper : (object members).Proper) (name : String)
    {value : Literal} (h : value.Proper) : (object (Bag.put name value members)).Proper := by
  obtain ⟨hdistinct, hmembers⟩ := proper_object.1 proper
  refine proper_object.2 ⟨hdistinct.put name value, fun member hmember => ?_⟩
  rcases Bag.mem_of_mem_put hmember with rfl | hold
  · exact h
  · exact hmembers member hold

theorem Proper.putAll {members : Bag Literal} (proper : (object members).Proper)
    {pairs : List (String × Literal)} (h : ∀ pair ∈ pairs, pair.2.Proper) :
    (object (Bag.putAll members pairs)).Proper := by
  obtain ⟨hdistinct, hmembers⟩ := proper_object.1 proper
  refine proper_object.2 ⟨hdistinct.putAll pairs, fun member hmember => ?_⟩
  exact (Bag.mem_of_mem_putAll hmember).elim (h member) (hmembers member)

theorem Proper.member? {value result : Literal} (proper : value.Proper) {key : String}
    (h : member? key value = some result) : result.Proper := by
  cases value with
  | object members =>
    simp only [Literal.member?, Option.some.injEq] at h
    subst h
    cases hfind : Bag.find? key members with
    | none => trivial
    | some found => exact proper.find? hfind
  | array items =>
    simp only [Literal.member?] at h
    split at h
    · cases h
      trivial
    · obtain ⟨n, -, rfl⟩ := Option.map_eq_some_iff.1 h
      cases hitem : items[n]? with
      | none => trivial
      | some item => exact proper_array.1 proper item (List.mem_of_getElem? hitem)
  | string text =>
    simp only [Literal.member?] at h
    split at h
    · cases h
      trivial
    · cases h
  | _ => cases h

end Literal

/-! ## Scopes -/

namespace Scope

/-- All values that a scope binds are proper. -/
def Proper (scope : Scope) : Prop :=
  ∀ frame ∈ scope.frames, ∀ binding ∈ frame, binding.2.Proper

theorem proper_empty : Proper {} := nofun

theorem Proper.push {scope : Scope} (proper : scope.Proper) {frame : Frame}
    (h : ∀ binding ∈ frame, binding.2.Proper) : (scope.push frame).Proper :=
  List.forall_mem_cons.2 ⟨h, proper⟩

theorem Proper.pushEmpty {scope : Scope} (proper : scope.Proper) : (scope.push []).Proper :=
  proper.push fun _ h => absurd h List.not_mem_nil

theorem Proper.bind {scope : Scope} (proper : scope.Proper) (name : String) {value : Literal}
    (h : value.Proper) : (scope.bind name value).Proper := by
  unfold Scope.bind
  split
  · simpa [Proper] using h
  · rename_i frame outer hframes
    rw [Proper, hframes, List.forall_mem_cons] at proper
    refine List.forall_mem_cons.2 ⟨fun binding hbinding => ?_, proper.2⟩
    rcases Bag.mem_of_mem_put hbinding with rfl | hold
    · exact h
    · exact proper.1 binding hold

theorem Proper.lookup? {scope : Scope} (proper : scope.Proper) {name : String} {value : Literal}
    (h : scope.lookup? name = some value) : value.Proper := by
  obtain ⟨frame, hframe, hfind⟩ := List.exists_of_findSome?_eq_some h
  exact proper frame hframe _ (Bag.mem_of_find? hfind)

end Scope

/-! ## Folding -/

namespace Source.Expr

variable {scope : Scope}

theorem proper_name? (proper : scope.Proper) {name : String} {value : Literal}
    (h : name? scope name = some value) : value.Proper := by
  unfold name? at h
  split at h
  · cases h
    exact proper.lookup? ‹_›
  · unfold constant? at h
    split at h <;> cases h <;> trivial

mutual

/-- Folding keeps names apart. -/
theorem proper_fold? (proper : scope.Proper) :
    (e : Expr) → ∀ value, e.fold? scope = some value → value.Proper
  | .string _, _, h | .number _, _, h | .bool _, _, h | .null, _, h => by
    cases h
    trivial
  | .identifier _, _, h => proper_name? proper h
  | .template _ _, _, h => by
    simp only [fold?] at h
    split at h
    · cases h
      trivial
    · cases h
  | .paren inner, value, h | .cast _ inner, value, h => proper_fold? proper inner value h
  | .unary _ operand, _, h => by
    simp only [fold?] at h
    split at h
    · exact Literal.proper_unary? h
    · cases h
  | .logical _ left right, value, h => by
    simp only [fold?] at h
    split at h
    · rename_i first hfirst
      split at h
      · exact proper_fold? proper right value h
      · cases h
        exact proper_fold? proper left _ hfirst
    · cases h
  | .binary _ left right, _, h => by
    simp only [fold?] at h
    split at h
    · exact Literal.proper_binary? h
    · cases h
  | .conditional _ consequent alternate, value, h => by
    simp only [fold?] at h
    split at h
    · split at h
      · exact proper_fold? proper consequent value h
      · exact proper_fold? proper alternate value h
    · cases h
  | .array items, _, h => by
    obtain ⟨found, hfound, rfl⟩ := Option.map_eq_some_iff.1 h
    exact Literal.proper_array.2 (proper_foldItems? proper items found hfound)
  | .object members, _, h => by
    obtain ⟨found, hfound, rfl⟩ := Option.map_eq_some_iff.1 h
    exact proper_foldMembers? proper members Literal.proper_object_nil found hfound
  | .member owner _, _, h => by
    simp only [fold?] at h
    split at h
    · exact (proper_fold? proper owner _ ‹_›).member? h
    · cases h
  | .index owner key, _, h => by
    simp only [fold?] at h
    split at h
    · rename_i value _ howner _
      obtain ⟨name, -, hmember⟩ := Option.bind_eq_some_iff.1 h
      exact (proper_fold? proper owner value howner).member? hmember
    · cases h
  | .privateMember _, _, h | .call .., _, h | .function _, _, h | .element _, _, h
  | .fragment _, _, h | .assertion _, _, h | .assign .., _, h | .other _, _, h => by cases h

theorem proper_foldItems? (proper : scope.Proper) : (items : List Item) → ∀ found,
    foldItems? scope items = some found → ∀ item ∈ found, item.Proper
  | [], _, h => by
    cases h
    nofun
  | .value value :: rest, _, h => by
    simp only [foldItems?] at h
    split at h
    · rename_i first others hfirst hothers
      cases h
      exact List.forall_mem_cons.2 ⟨proper_fold? proper value first hfirst,
        proper_foldItems? proper rest others hothers⟩
    · cases h
  | .spread value _ :: rest, _, h => by
    simp only [foldItems?] at h
    split at h
    · rename_i spread others hspread hothers
      cases h
      exact List.forall_mem_append.2
        ⟨Literal.proper_array.1 (proper_fold? proper value _ hspread),
          proper_foldItems? proper rest others hothers⟩
    · cases h
  | .hole :: rest, _, h => by
    obtain ⟨others, hothers, rfl⟩ := Option.map_eq_some_iff.1 h
    exact List.forall_mem_cons.2 ⟨trivial, proper_foldItems? proper rest others hothers⟩

theorem proper_foldMembers? (proper : scope.Proper) {found : Bag Literal} :
    (members : List Member) → (Literal.object found).Proper → ∀ result,
      foldMembers? scope found members = some result → (Literal.object result).Proper
  | [], hfound, _, h => by
    cases h
    exact hfound
  | .field name value :: rest, hfound, result, h => by
    simp only [foldMembers?] at h
    split at h
    · rename_i folded hfolded
      exact proper_foldMembers? proper rest
        (hfound.put name (proper_fold? proper value folded hfolded)) result h
    · cases h
  | .spread value _ :: rest, hfound, result, h => by
    simp only [foldMembers?] at h
    split at h
    · rename_i members hmembers
      exact proper_foldMembers? proper rest
        (hfound.putAll (Literal.proper_object.1 (proper_fold? proper value _ hmembers)).2) result h
    · exact proper_foldMembers? proper rest hfound result h
    · exact proper_foldMembers? proper rest hfound result h
    · cases h
  | .computed .. :: _, _, _, h => by cases h

end

end Source.Expr

end Widgetry
