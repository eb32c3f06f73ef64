import Widgetry.Proofs.Style.Decoding

/-!
Trees are decoded to themselves, tidied and without their nulls. A node's own members and its
traits stand in one object; each is read past the other, whatever order the members have come to.
-/

namespace Widgetry

open Decoder (Slot)

/-! ## Traits -/

namespace Accessibility

def slots (a : Accessibility) : List (Slot Accessibility) :=
  [.of "accessibilityLabel" (a.label.map .string) (a.label.map some) Accessibility.label
    fun a s => { s with label := a },
   .of "accessible" (a.accessible.map .bool) (a.accessible.map some) Accessibility.accessible
    fun a s => { s with accessible := a },
   .of "role" (a.role.map .string) (a.role.map some) Accessibility.role
    fun a s => { s with role := a }]

theorem decode_settled (a : Accessibility) (setting : Setting) :
    decode setting a.toJson.settled = .ok a := by
  have hjson : a.toJson = .object (Slot.members a.slots) := by
    simp only [toJson, slots, Slot.members_cons, Slot.members_nil, Slot.of,
      Decoder.optionalMember_map, List.append_nil, List.append_assoc]
  rw [hjson, decode]
  refine (Decoder.record_settled _ ?distinct ?reads ?commute ?present _).trans ?result
  case distinct => simp [slots, Slot.names, Slot.of]
  case reads =>
    simp only [slots, List.forall_mem_cons, List.not_mem_nil, false_imp_iff, implies_true, and_true]
    exact ⟨Slot.reads_of rfl (fun _ => rfl) (rel_map fun _ _ => rfl),
      Slot.reads_of rfl (fun _ => rfl) (rel_map fun _ _ => rfl),
      Slot.reads_of rfl (fun _ => rfl) (rel_map fun _ _ => rfl)⟩
  case commute => simp [slots, Slot.Commute, Slot.of]
  case present => simp [Decoder.nullable]
  case result => simp [Slot.result, slots, Slot.of, getD_map_some]

end Accessibility

namespace Action

def slots (action : Action) : List (Slot Action) :=
  [.of "type" (some (wordJson action.type)) (some action.type) Action.type
    fun a s => { s with type := a },
   .of "url" (action.url.map .string) (action.url.map some) Action.url
    fun a s => { s with url := a },
   .of "params" (action.params.map .object) (action.params.map fun a => some (Bag.sorted a))
    Action.params fun a s => { s with params := a },
   .of "appId" (action.appId.map .string) (action.appId.map some) Action.appId
    fun a s => { s with appId := a }]

theorem params_settled {params : Bag Json} (distinct : params.Distinct)
    (proper : ∀ param ∈ params, param.2.Proper) (setting : Setting) :
    Decoder.bag Decoder.json setting (Json.settled (.object params))
      = .ok (Bag.sorted params) := by
  have hjson : ∀ param ∈ params, Decoder.json setting (id param.2).settled = .ok (id param.2) := by
    intro param hparam
    rw [id, Json.settled_of_proper (proper param hparam), Decoder.json,
      Json.canonical_of_proper _ (proper param hparam)]
  simpa using Decoder.bag_settled id id distinct hjson

theorem decode_settled {action : Action} (proper : action.Proper) (setting : Setting) :
    decode setting action.toJson.settled = .ok action.tidied := by
  have hjson : action.toJson = .object (Slot.members action.slots) := by
    simp only [toJson, slots, Slot.members_cons, Slot.members_nil, Slot.of,
      Decoder.optionalMember_map, List.append_nil, List.append_assoc]
    rfl
  rw [hjson, decode]
  refine (Decoder.record_settled _ ?distinct ?reads ?commute ?present _).trans ?result
  case distinct => simp [slots, Slot.names, Slot.of]
  case reads =>
    simp only [slots, List.forall_mem_cons, List.not_mem_nil, false_imp_iff, implies_true, and_true]
    exact ⟨Slot.reads_of rfl (fun _ => rfl) (.some (Decoder.word_settled setting action.type)),
      Slot.reads_of rfl (fun _ => rfl) (rel_map fun _ _ => rfl),
      Slot.reads_of rfl (fun _ => rfl) (rel_map fun params hparams =>
        Decoder.optional_ok
          (params_settled (proper params hparams).1 (proper params hparams).2 setting)
          (by rintro ⟨⟩)),
      Slot.reads_of rfl (fun _ => rfl) (rel_map fun _ _ => rfl)⟩
  case commute => simp [slots, Slot.Commute, Slot.of]
  case present =>
    simp [Decoder.nullable, Decoder.required, slots, Slot.of, optionalMember]
  case result =>
    simp [Slot.result, slots, Slot.of, getD_map_some, getD_map_some_comp, tidied]

end Action

theorem Decoder.optional_json {value : Json} (proper : value.Proper) (setting : Setting) :
    Decoder.optional Decoder.json setting value.settled
      = .ok (if value.isNull then none else some value) := by
  rw [Json.settled_of_proper proper]
  cases value with
  | null => rfl
  | _ =>
    exact Decoder.optional_ok (by rw [Decoder.json, Json.canonical_of_proper _ proper])
      (by rintro ⟨⟩)

theorem getD_map_isNull (value : Option Json) :
    (value.map fun v => if v.isNull then none else some v).getD none
      = value.filter fun v => !v.isNull := by
  cases value with
  | none => rfl
  | some v => cases h : v.isNull <;> simp [Option.filter, h]

namespace DataBinding

def slots (binding : DataBinding) : List (Slot DataBinding) :=
  [.of "source" (some (wordJson binding.source)) (some binding.source) DataBinding.source
    fun a s => { s with source := a },
   .of "key" (some (.string binding.key)) (some binding.key) DataBinding.key
    fun a s => { s with key := a },
   .of "fallback" binding.fallback
    (binding.fallback.map fun v => if v.isNull then none else some v) DataBinding.fallback
    fun a s => { s with fallback := a },
   .of "transform" (binding.transform.map .string) (binding.transform.map some)
    DataBinding.transform fun a s => { s with transform := a }]

theorem decode_settled {binding : DataBinding}
    (proper : ∀ value ∈ binding.fallback, value.Proper) (setting : Setting) :
    decode setting binding.toJson.settled
      = .ok { binding with fallback := binding.fallback.filter fun value => !value.isNull } := by
  have hjson : binding.toJson = .object (Slot.members binding.slots) := by
    simp only [toJson, slots, Slot.members_cons, Slot.members_nil, Slot.of,
      Decoder.optionalMember_map, List.append_nil, List.append_assoc]
    rfl
  have hfallback : Option.Rel
      (fun v a => Decoder.optional Decoder.json setting (Json.settled v) = .ok a) binding.fallback
      (binding.fallback.map fun v => if v.isNull then none else some v) := by
    cases h : binding.fallback with
    | none => exact .none
    | some value => exact .some (Decoder.optional_json (proper value h) setting)
  rw [hjson, decode]
  refine (Decoder.record_settled _ ?distinct ?reads ?commute ?present _).trans ?result
  case distinct => simp [slots, Slot.names, Slot.of]
  case reads =>
    simp only [slots, List.forall_mem_cons, List.not_mem_nil, false_imp_iff, implies_true, and_true]
    exact ⟨Slot.reads_of rfl (fun _ => rfl) (.some (Decoder.word_settled setting binding.source)),
      Slot.reads_of rfl (fun _ => rfl) (.some rfl),
      Slot.reads_of rfl (fun _ => rfl) hfallback,
      Slot.reads_of rfl (fun _ => rfl) (rel_map fun _ _ => rfl)⟩
  case commute => simp [slots, Slot.Commute, Slot.of]
  case present =>
    simp [Decoder.nullable, Decoder.required, slots, Slot.of, optionalMember]
  case result =>
    simp [Slot.result, slots, Slot.of, getD_map_some, getD_map_isNull]

end DataBinding

namespace Traits

def slots (traits : Traits) : List (Slot Traits) :=
  [.of "key" (traits.key.map .string) (traits.key.map some) Traits.key
    fun a s => { s with key := a },
   .of "style" (traits.style.map Style.toJson) (traits.style.map fun a => some a.tidied)
    Traits.style fun a s => { s with style := a },
   .of "accessibility" (traits.accessibility.map Accessibility.toJson)
    (traits.accessibility.map some) Traits.accessibility fun a s => { s with accessibility := a },
   .of "action" (traits.action.map Action.toJson) (traits.action.map fun a => some a.tidied)
    Traits.action fun a s => { s with action := a },
   .of "dataBinding" (traits.dataBinding.map DataBinding.toJson)
    (traits.dataBinding.map fun a => some
      { a with fallback := a.fallback.filter fun value => !value.isNull })
    Traits.dataBinding fun a s => { s with dataBinding := a }]

theorem members_eq (traits : Traits) : traits.members = Slot.members traits.slots := by
  simp only [members, slots, Slot.members_cons, Slot.members_nil, Slot.of,
    Decoder.optionalMember_map, List.append_nil, List.append_assoc]

theorem result_slots (traits : Traits) :
    Slot.result traits.slots {} = traits.withoutNulls.tidied := by
  simp [Slot.result, slots, Slot.of, getD_map_some, getD_map_some_comp, tidied, withoutNulls]

theorem commute_slots (traits : Traits) : traits.slots.Pairwise Slot.Commute := by
  simp [slots, Slot.Commute, Slot.of]

theorem reads_slots {traits : Traits} (proper : traits.Proper)
    (finite : ∀ x ∈ traits.numbers, x.isFinite = true) (setting : Setting) :
    ∀ slot ∈ traits.slots, slot.Reads fields setting := by
  have hstyle : ∀ style ∈ traits.style,
      Decoder.optional Style.decode setting style.toJson.settled = .ok (some style.tidied) := by
    intro style hstyle
    refine Decoder.optional_ok (Style.decode_settled (proper.style style hstyle) ?_ setting)
      (by rintro ⟨⟩)
    intro entry hentry x hx
    refine finite x (List.mem_filterMap.2 ⟨entry, ?_, hx⟩)
    rw [Option.mem_def.1 hstyle]
    exact hentry
  simp only [slots, List.forall_mem_cons, List.not_mem_nil, false_imp_iff, implies_true, and_true]
  exact ⟨Slot.reads_of rfl (fun _ => rfl) (rel_map fun _ _ => rfl),
    Slot.reads_of rfl (fun _ => rfl) (rel_map hstyle),
    Slot.reads_of rfl (fun _ => rfl) (rel_map fun a _ =>
      Decoder.optional_ok (Accessibility.decode_settled a setting) (by rintro ⟨⟩)),
    Slot.reads_of rfl (fun _ => rfl) (rel_map fun action haction =>
      Decoder.optional_ok (Action.decode_settled (proper.action action haction) setting)
        (by rintro ⟨⟩)),
    Slot.reads_of rfl (fun _ => rfl) (rel_map fun binding hbinding =>
      Decoder.optional_ok (DataBinding.decode_settled (proper.fallback binding hbinding) setting)
        (by rintro ⟨⟩))⟩

end Traits

/-! ## Nodes -/

namespace Node

/-- The names of traits. -/
def traitNames : List String := ["key", "style", "accessibility", "action", "dataBinding"]

/-- The members of a node: its kind, what belongs to the kind, and the traits. -/
def membersOf {β : Type} (type : NodeType) (own : List (Slot β)) (traits : Traits) :
    List (String × Json) :=
  [("type", wordJson type)] ++ (Slot.members own ++ traits.members)

/-- The members as they stand in the settled JSON. -/
def settledOf {β : Type} (type : NodeType) (own : List (Slot β)) (traits : Traits) :
    List (String × Json) :=
  Bag.sorted (Decoder.settledMembers (membersOf type own traits))

section Members

variable {β : Type} (type : NodeType) {own : List (Slot β)} {traits : Traits}

theorem names_members (traits : Traits) :
    ((Slot.members traits.slots).map Prod.fst).Sublist traitNames :=
  Slot.names_members_sublist traits.slots

theorem nodup_membersOf (distinct : ("type" :: (Slot.names own ++ traitNames)).Nodup) :
    ((membersOf type own traits).map Prod.fst).Nodup := by
  refine List.Sublist.nodup ?_ distinct
  simp only [membersOf, List.singleton_append, List.map_cons, List.map_append, traits.members_eq]
  exact ((Slot.names_members_sublist own).append (names_members traits)).cons_cons _

theorem settledOf_perm (distinct : ("type" :: (Slot.names own ++ traitNames)).Nodup) :
    (settledOf type own traits).Perm (Decoder.settledMembers (membersOf type own traits)) := by
  refine Bag.sorted_perm ?_
  simpa [Bag.Distinct, Bag.names, Decoder.settledMembers, Function.comp_def]
    using nodup_membersOf type distinct

theorem fieldsFrom_traits (distinct : ("type" :: (Slot.names own ++ traitNames)).Nodup)
    (proper : traits.Proper) (finite : ∀ x ∈ traits.numbers, x.isFinite = true)
    (setting : Setting) :
    ∃ seen, Decoder.fieldsFrom Traits.fields setting [] (settledOf type own traits) {}
      = .ok (traits.withoutNulls.tidied, seen) := by
  have hreads := Traits.reads_slots proper finite setting
  have hslots : (Slot.names traits.slots).Nodup := by simp [Traits.slots, Slot.names, Slot.of]
  have hmembers : membersOf type own traits
      = ([("type", wordJson type)] ++ Slot.members own) ++ (Slot.members traits.slots ++ []) := by
    simp [membersOf, traits.members_eq]
  have hother : ∀ member ∈ [("type", wordJson type)] ++ Slot.members own,
      member.1 ∉ Traits.fields.map Decoder.Field.name := by
    intro member hmember
    have hname : member.1 ∈ "type" :: Slot.names own := by
      rcases List.mem_append.1 hmember with h | h
      · simp [List.mem_singleton.1 h]
      · exact List.mem_cons_of_mem _ ((Slot.names_members_sublist own).subset
          (List.mem_map_of_mem h))
    rw [← List.cons_append] at distinct
    exact fun h => (List.nodup_append.1 distinct).2.2 _ hname _ h rfl
  have hcovers := Decoder.covers_sorted ([("type", wordJson type)] ++ Slot.members own) []
    (by rw [← hmembers]; exact nodup_membersOf type distinct) hslots hreads hother
    (List.forall_mem_nil _)
  rw [← hmembers] at hcovers
  obtain ⟨seen, hread, -⟩ :=
    Decoder.fieldsFrom_slots hslots hreads traits.commute_slots hcovers {}
  exact ⟨seen, by rw [← traits.result_slots]; exact hread⟩

theorem ofMembers_type (distinct : ("type" :: (Slot.names own ++ traitNames)).Nodup) :
    NodeType.ofMembers (settledOf type own traits) = .ok type := by
  have hfresh := (List.nodup_cons.1 (@nodup_membersOf _ type _ traits distinct)).1
  have hfilter : (Decoder.settledMembers (membersOf type own traits)).filter
      (fun member => member.1 = "type") = [("type", wordJson type)] := by
    rw [membersOf, List.singleton_append, Decoder.settledMembers, List.map_cons,
      List.filter_cons_of_pos (by simp), List.filter_eq_nil_iff.2]
    · rfl
    · intro member hmember heq
      obtain ⟨original, horiginal, rfl⟩ := List.mem_map.1 hmember
      exact hfresh (List.mem_map.2 ⟨original, horiginal, by simpa using heq⟩)
  have hperm := (@settledOf_perm _ type _ traits distinct).filter
    fun member => member.1 = "type"
  rw [hfilter, List.perm_singleton] at hperm
  rw [NodeType.ofMembers, hperm]
  exact Decoder.ofWord_word type

theorem kindFields_own {fields : List (Decoder.Field β)}
    (distinct : ("type" :: (Slot.names own ++ traitNames)).Nodup)
    (names : fields.map Decoder.Field.name = Slot.names own)
    (reads : ∀ slot ∈ own, slot.Reads fields .apart) (commute : own.Pairwise Slot.Commute)
    (present : ∀ field ∈ fields, field.isOptional = true ∨
      field.name ∈ (Slot.members own).map Prod.fst) (start : β) :
    kindFields fields (settledOf type own traits) start = .ok (Slot.result own start) := by
  obtain ⟨htype, hown⟩ := List.nodup_cons.1 distinct
  obtain ⟨hslots, -, hdisjoint⟩ := List.nodup_append.1 hown
  have htraits : ∀ member ∈ traits.members, member.1 ∉ fields.map Decoder.Field.name := by
    intro member hmember hfield
    rw [traits.members_eq] at hmember
    exact hdisjoint _ (names ▸ hfield) _
      ((names_members traits).subset (List.mem_map_of_mem hmember)) rfl
  have hbefore : ∀ member ∈ [("type", wordJson type)],
      member.1 ∉ fields.map Decoder.Field.name := by
    intro member hmember hfield
    rw [List.mem_singleton.1 hmember] at hfield
    exact htype (List.mem_append_left _ (names ▸ hfield))
  exact Decoder.fromMembers_slots hslots reads commute
    (Decoder.covers_sorted _ _ (nodup_membersOf type distinct) hslots reads hbefore htraits) present start

theorem childrenOf_eq (members : List (String × Json)) :
    childrenOf members = match Bag.find? "children" members with
      | some value => decodeChildren value
      | none => .ok [] := by
  induction members with
  | nil => rfl
  | cons member rest ih =>
    obtain ⟨name, value⟩ := member
    by_cases h : name = "children" <;> simp [childrenOf, Bag.find?, h, ih]

/-- What is decoded of the children, when the slots have them. -/
theorem childrenOf_settledOf (distinct : ("type" :: (Slot.names own ++ traitNames)).Nodup)
    {value : Json} (h : ("children", value) ∈ Slot.members own) :
    childrenOf (settledOf type own traits) = decodeChildren value.settled := by
  have hperm := @settledOf_perm _ type _ traits distinct
  have hsettled : Bag.Distinct (settledOf type own traits) := (Bag.ordered_sorted _).distinct
  have hmem : ("children", value.settled) ∈ Decoder.settledMembers (membersOf type own traits) :=
    List.mem_map.2 ⟨("children", value), by simp [membersOf, h], rfl⟩
  rw [childrenOf_eq, Bag.find?_of_mem hsettled (hperm.mem_iff.2 hmem)]

/-- A node is decoded to its kind, given what its own members are decoded to. -/
theorem decode_settledOf (distinct : ("type" :: (Slot.names own ++ traitNames)).Nodup)
    (proper : traits.Proper) (finite : ∀ x ∈ traits.numbers, x.isFinite = true)
    (setting : Setting) {build : Traits → Node}
    (h : ofMembers (settledOf type own traits) (childrenOf (settledOf type own traits)) type
      = .ok build) :
    decode setting (.object (settledOf type own traits))
      = .ok (build traits.withoutNulls.tidied) := by
  obtain ⟨seen, hread⟩ := fieldsFrom_traits type distinct proper finite setting
  rw [decode, hread, ofMembers_type type distinct]
  simp only [Bind.bind, Except.bind, h]
  rfl

end Members

theorem settled_membersOf {β : Type} (type : NodeType) (own : List (Slot β)) (traits : Traits) :
    Json.settled (.object (membersOf type own traits)) = .object (settledOf type own traits) :=
  Json.settled_object _

theorem TextContent.decode_settled {content : TextContent}
    (finite : ∀ x, content = .number x → x.isFinite = true) (setting : Setting) :
    TextContent.decode setting content.toJson.settled = .ok content.tidied := by
  cases content with
  | string text => rfl
  | number x =>
    have hfloat := Decoder.float?_ofFloat (finite x rfl)
    simp only [TextContent.toJson, TextContent.decode]
    split
    · rename_i heq
      rw [heq] at hfloat
      cases hfloat
    · rw [hfloat]
      rfl

/-! ### What belongs to each kind -/

def childrenSlots (children : List Node) : List (Slot (List Node)) :=
  [.of "children" (some (.array (allToJson children)))
    (some (tidiedAll (withoutNullsAll children))) id fun a _ => a]

def textSlots (content : TextContent) : List (Slot TextContent) :=
  [.of "text" (some content.toJson) (some content.tidied) id fun a _ => a]

def buttonSlots (label : String) (variant : Option ButtonVariant) (size : Option ButtonSize) :
    List (Slot (String × Option ButtonVariant × Option ButtonSize)) :=
  [.of "label" (some (.string label)) (some label) (·.1) fun a s => (a, s.2),
   .of "variant" (variant.map wordJson) (variant.map some) (·.2.1) fun a s => (s.1, a, s.2.2),
   .of "size" (size.map wordJson) (size.map some) (·.2.2) fun a s => (s.1, s.2.1, a)]

def imageSlots (uri : String) (mode : Option ResizeMode) (placeholder : Option String) :
    List (Slot (String × Option ResizeMode × Option String)) :=
  [.of "uri" (some (.string uri)) (some uri) (·.1) fun a s => (a, s.2),
   .of "resizeMode" (mode.map wordJson) (mode.map some) (·.2.1) fun a s => (s.1, a, s.2.2),
   .of "placeholder" (placeholder.map .string) (placeholder.map some) (·.2.2)
    fun a s => (s.1, s.2.1, a)]

def stackSlots (axis : Axis) (children : List Node) : List (Slot (Axis × List Node)) :=
  [.of "axis" (some (wordJson axis)) (some axis) (·.1) fun a s => (a, s.2),
   .of "children" (some (.array (allToJson children)))
    (some (tidiedAll (withoutNullsAll children))) (·.2) fun a s => (s.1, a)]

def spacerSlots (flex : Option Float) : List (Slot (Option Float)) :=
  [.of "flex" (flex.map Json.ofFloat) (flex.map fun x => some (Double.unsigned x)) id fun a _ => a]

def progressSlots (progress : Float) (indeterminate : Option Bool) :
    List (Slot (Float × Option Bool)) :=
  [.of "progress" (some (Json.ofFloat progress)) (some (Double.unsigned progress)) (·.1)
    fun a s => (a, s.2),
   .of "indeterminate" (indeterminate.map .bool) (indeterminate.map some) (·.2)
    fun a s => (s.1, a)]

def listSlots (items : List Json) (renderItem : String) (horizontal : Option Bool) :
    List (Slot (List Json × String × Option Bool)) :=
  [.of "items" (some (.array items)) (some items) (·.1) fun a s => (a, s.2),
   .of "renderItem" (some (.string renderItem)) (some renderItem) (·.2.1)
    fun a s => (s.1, a, s.2.2),
   .of "horizontal" (horizontal.map .bool) (horizontal.map some) (·.2.2)
    fun a s => (s.1, s.2.1, a)]

section Kinds

variable {traits : Traits} (proper : traits.Proper)
  (finite : ∀ x ∈ traits.numbers, x.isFinite = true) (setting : Setting)

include proper finite

/-- A node is decoded to its kind, when its own slots are read. -/
theorem decode_kind {β : Type} (type : NodeType) (own : List (Slot β)) (build : Traits → Node)
    {fields : List (Decoder.Field β)} {start : β} {finish : β → Decoded (Traits → Node)}
    (kind : ofMembers (settledOf type own traits) (childrenOf (settledOf type own traits)) type
      = Except.bind (kindFields fields (settledOf type own traits) start) finish)
    (distinct : ("type" :: (Slot.names own ++ traitNames)).Nodup)
    (names : fields.map Decoder.Field.name = Slot.names own)
    (reads : ∀ slot ∈ own, slot.Reads fields .apart) (commute : own.Pairwise Slot.Commute)
    (present : ∀ field ∈ fields, field.isOptional = true ∨
      field.name ∈ (Slot.members own).map Prod.fst)
    (built : finish (Slot.result own start) = .ok build) :
    decode setting (Json.settled (.object (membersOf type own traits)))
      = .ok (build traits.withoutNulls.tidied) := by
  rw [settled_membersOf]
  refine decode_settledOf type distinct proper finite setting ?_
  rw [kind, kindFields_own type distinct names reads commute present]
  exact built

theorem decode_text {content : TextContent} (number : ∀ x, content = .number x → x.isFinite = true) :
    decode setting (toJson (.text traits content)).settled
      = .ok (.text traits.withoutNulls.tidied content.tidied) := by
  refine decode_kind proper finite setting .text (textSlots content) (.text · content.tidied)
    rfl ?distinct rfl ?reads ?commute ?present rfl
  case distinct => simp [textSlots, Slot.names, Slot.of, traitNames]
  case reads =>
    simp only [textSlots, List.forall_mem_singleton]
    exact Slot.reads_of rfl (fun _ => rfl) (.some (TextContent.decode_settled number .apart))
  case commute => simp [textSlots]
  case present => simp [Decoder.required, textSlots, Slot.of, optionalMember]

theorem decode_button (label : String) (variant : Option ButtonVariant) (size : Option ButtonSize) :
    decode setting (toJson (.button traits label variant size)).settled
      = .ok (.button traits.withoutNulls.tidied label variant size) := by
  have hjson : toJson (.button traits label variant size)
      = .object (membersOf .button (buttonSlots label variant size) traits) := by
    simp only [toJson, membersOf, buttonSlots, Slot.members_cons, Slot.members_nil, Slot.of,
      Decoder.optionalMember_map, List.append_assoc, List.append_nil]
    rfl
  rw [hjson]
  refine decode_kind proper finite setting .button (buttonSlots label variant size)
    (.button · label variant size) rfl ?distinct rfl ?reads ?commute ?present ?built
  case distinct => simp [buttonSlots, Slot.names, Slot.of, traitNames]
  case reads =>
    simp only [buttonSlots, List.forall_mem_cons, List.not_mem_nil, false_imp_iff, implies_true,
      and_true]
    exact ⟨Slot.reads_of rfl (fun _ => rfl) (.some rfl),
      Slot.reads_of rfl (fun _ => rfl) (rel_map fun a _ => Decoder.optional_word .apart a),
      Slot.reads_of rfl (fun _ => rfl) (rel_map fun a _ => Decoder.optional_word .apart a)⟩
  case commute => simp [buttonSlots, Slot.Commute, Slot.of]
  case present => simp [Decoder.required, Decoder.nullable, buttonSlots, Slot.of, optionalMember]
  case built =>
    simp only [Slot.result, buttonSlots, Slot.of, List.foldl_cons, List.foldl_nil, getD_map_some]
    rfl

theorem decode_image (uri : String) (mode : Option ResizeMode) (placeholder : Option String) :
    decode setting (toJson (.image traits uri mode placeholder)).settled
      = .ok (.image traits.withoutNulls.tidied uri mode placeholder) := by
  have hjson : toJson (.image traits uri mode placeholder)
      = .object (membersOf .image (imageSlots uri mode placeholder) traits) := by
    simp only [toJson, membersOf, imageSlots, Slot.members_cons, Slot.members_nil, Slot.of,
      Decoder.optionalMember_map, List.append_assoc, List.append_nil]
    rfl
  rw [hjson]
  refine decode_kind proper finite setting .image (imageSlots uri mode placeholder)
    (.image · uri mode placeholder) rfl ?distinct rfl ?reads ?commute ?present ?built
  case distinct => simp [imageSlots, Slot.names, Slot.of, traitNames]
  case reads =>
    simp only [imageSlots, List.forall_mem_cons, List.not_mem_nil, false_imp_iff, implies_true,
      and_true]
    exact ⟨Slot.reads_of rfl (fun _ => rfl) (.some rfl),
      Slot.reads_of rfl (fun _ => rfl) (rel_map fun a _ => Decoder.optional_word .apart a),
      Slot.reads_of rfl (fun _ => rfl) (rel_map fun _ _ => rfl)⟩
  case commute => simp [imageSlots, Slot.Commute, Slot.of]
  case present => simp [Decoder.required, Decoder.nullable, imageSlots, Slot.of, optionalMember]
  case built =>
    simp only [Slot.result, imageSlots, Slot.of, List.foldl_cons, List.foldl_nil, getD_map_some]
    rfl

theorem decode_spacer {flex : Option Float} (number : ∀ x ∈ flex, x.isFinite = true) :
    decode setting (toJson (.spacer traits flex)).settled
      = .ok (.spacer traits.withoutNulls.tidied (flex.map Double.unsigned)) := by
  have hjson : toJson (.spacer traits flex)
      = .object (membersOf .spacer (spacerSlots flex) traits) := by
    simp only [toJson, membersOf, spacerSlots, Slot.members_cons, Slot.members_nil, Slot.of,
      Decoder.optionalMember_map, List.append_assoc, List.append_nil]
    rfl
  rw [hjson]
  refine decode_kind proper finite setting .spacer (spacerSlots flex)
    (.spacer · (flex.map Double.unsigned)) rfl ?distinct rfl ?reads ?commute ?present ?built
  case distinct => simp [spacerSlots, Slot.names, Slot.of, traitNames]
  case reads =>
    simp only [spacerSlots, List.forall_mem_singleton]
    refine Slot.reads_of rfl (fun _ => rfl) (rel_map fun x hx => ?_)
    refine Decoder.optional_ok (Decoder.float_ofFloat (number x hx) .apart) fun hnull => ?_
    have hfloat := Decoder.float?_ofFloat (number x hx)
    rw [hnull] at hfloat
    cases hfloat
  case commute => simp [spacerSlots]
  case present => simp [Decoder.nullable]
  case built =>
    simp only [Slot.result, spacerSlots, Slot.of, List.foldl_cons, List.foldl_nil,
      getD_map_some_comp, id]
    rfl

theorem decode_progressBar {progress : Float} (number : progress.isFinite = true)
    (indeterminate : Option Bool) :
    decode setting (toJson (.progressBar traits progress indeterminate)).settled
      = .ok (.progressBar traits.withoutNulls.tidied (Double.unsigned progress) indeterminate) := by
  have hjson : toJson (.progressBar traits progress indeterminate)
      = .object (membersOf .progressBar (progressSlots progress indeterminate) traits) := by
    simp only [toJson, membersOf, progressSlots, Slot.members_cons, Slot.members_nil, Slot.of,
      Decoder.optionalMember_map, List.append_assoc, List.append_nil]
    rfl
  rw [hjson]
  refine decode_kind proper finite setting .progressBar (progressSlots progress indeterminate)
    (.progressBar · (Double.unsigned progress) indeterminate) rfl ?distinct rfl ?reads ?commute
    ?present ?built
  case distinct => simp [progressSlots, Slot.names, Slot.of, traitNames]
  case reads =>
    simp only [progressSlots, List.forall_mem_cons, List.not_mem_nil, false_imp_iff, implies_true,
      and_true]
    exact ⟨Slot.reads_of rfl (fun _ => rfl) (.some (Decoder.float_ofFloat number .apart)),
      Slot.reads_of rfl (fun _ => rfl) (rel_map fun _ _ => rfl)⟩
  case commute => simp [progressSlots, Slot.Commute, Slot.of]
  case present => simp [Decoder.required, Decoder.nullable, progressSlots, Slot.of, optionalMember]
  case built =>
    simp only [Slot.result, progressSlots, Slot.of, List.foldl_cons, List.foldl_nil, getD_map_some]
    rfl

theorem decode_list {items : List Json} (values : ∀ item ∈ items, item.Proper)
    (renderItem : String) (horizontal : Option Bool) :
    decode setting (toJson (.list traits items renderItem horizontal)).settled
      = .ok (.list traits.withoutNulls.tidied items renderItem horizontal) := by
  have hjson : toJson (.list traits items renderItem horizontal)
      = .object (membersOf .list (listSlots items renderItem horizontal) traits) := by
    simp only [toJson, membersOf, listSlots, Slot.members_cons, Slot.members_nil, Slot.of,
      Decoder.optionalMember_map, List.append_assoc, List.append_nil]
    rfl
  have hitems : ∀ item ∈ items, Decoder.json .apart (id item).settled = .ok (id item) := by
    intro item hitem
    rw [id, Json.settled_of_proper (values item hitem), Decoder.json,
      Json.canonical_of_proper item (values item hitem)]
  have hlist := Decoder.list_settled hitems
  rw [List.map_id] at hlist
  rw [hjson]
  refine decode_kind proper finite setting .list (listSlots items renderItem horizontal)
    (.list · items renderItem horizontal) rfl ?distinct rfl ?reads ?commute ?present ?built
  case distinct => simp [listSlots, Slot.names, Slot.of, traitNames]
  case reads =>
    simp only [listSlots, List.forall_mem_cons, List.not_mem_nil, false_imp_iff, implies_true,
      and_true]
    exact ⟨Slot.reads_of rfl (fun _ => rfl) (.some hlist),
      Slot.reads_of rfl (fun _ => rfl) (.some rfl),
      Slot.reads_of rfl (fun _ => rfl) (rel_map fun _ _ => rfl)⟩
  case commute => simp [listSlots, Slot.Commute, Slot.of]
  case present =>
    simp [Decoder.required, Decoder.nullable, Decoder.defaulted, listSlots, Slot.of, optionalMember]
  case built =>
    simp only [Slot.result, listSlots, Slot.of, List.foldl_cons, List.foldl_nil, getD_map_some]
    rfl

theorem decode_view {children : List Node}
    (decoded : decodeAll ((allToJson children).map Json.settled)
      = .ok (tidiedAll (withoutNullsAll children))) :
    decode setting (toJson (.view traits children)).settled
      = .ok (.view traits.withoutNulls.tidied (tidiedAll (withoutNullsAll children))) := by
  have hdistinct : ("type" :: (Slot.names (childrenSlots children) ++ traitNames)).Nodup := by
    simp [childrenSlots, Slot.names, Slot.of, traitNames]
  have hmem : ("children", .array (allToJson children)) ∈ Slot.members (childrenSlots children) := by
    simp [childrenSlots, Slot.of, optionalMember]
  have hchildren := @childrenOf_settledOf _ .view _ traits hdistinct _ hmem
  rw [Json.settled_array, decodeChildren, decoded] at hchildren
  refine decode_kind proper finite setting .view (childrenSlots children)
    (.view · (tidiedAll (withoutNullsAll children))) rfl hdistinct rfl ?reads ?commute ?present rfl
  case reads =>
    simp only [childrenSlots, List.forall_mem_singleton]
    exact Slot.reads_of rfl (fun _ => rfl) (.some hchildren)
  case commute => simp [childrenSlots]
  case present => simp [decodedField]

theorem decode_stack (axis : Axis) {children : List Node}
    (decoded : decodeAll ((allToJson children).map Json.settled)
      = .ok (tidiedAll (withoutNullsAll children))) :
    decode setting (toJson (.stack traits axis children)).settled
      = .ok (.stack traits.withoutNulls.tidied axis (tidiedAll (withoutNullsAll children))) := by
  have hdistinct : ("type" :: (Slot.names (stackSlots axis children) ++ traitNames)).Nodup := by
    simp [stackSlots, Slot.names, Slot.of, traitNames]
  have hmem : ("children", .array (allToJson children))
      ∈ Slot.members (stackSlots axis children) := by
    simp [stackSlots, Slot.of, optionalMember]
  have hchildren := @childrenOf_settledOf _ .stack _ traits hdistinct _ hmem
  rw [Json.settled_array, decodeChildren, decoded] at hchildren
  refine decode_kind proper finite setting .stack (stackSlots axis children)
    (.stack · axis (tidiedAll (withoutNullsAll children))) rfl hdistinct rfl ?reads ?commute
    ?present rfl
  case reads =>
    simp only [stackSlots, List.forall_mem_cons, List.not_mem_nil, false_imp_iff, implies_true,
      and_true]
    exact ⟨Slot.reads_of rfl (fun _ => rfl) (.some (Decoder.word_settled .apart axis)),
      Slot.reads_of rfl (fun _ => rfl) (.some hchildren)⟩
  case commute => simp [stackSlots, Slot.Commute, Slot.of]
  case present => simp [decodedField, Decoder.required, stackSlots, Slot.of, optionalMember]

end Kinds

mutual

/-- A tree is decoded to itself, tidied and without its nulls. -/
theorem decode_settled : (node : Node) → (∀ n ∈ node.nodes, n.Proper) →
    (∀ n ∈ node.nodes, ∀ x ∈ n.numbers, x.isFinite = true) → (setting : Setting) →
    decode setting node.toJson.settled = .ok node.withoutNulls.tidied
  | .view traits children, proper, finite, setting => by
    rw [nodes, List.forall_mem_cons] at proper finite
    exact decode_view proper.1.traits finite.1 setting
      (decodeAll_settled children proper.2 finite.2)
  | .stack traits axis children, proper, finite, setting => by
    rw [nodes, List.forall_mem_cons] at proper finite
    exact decode_stack proper.1.traits finite.1 setting axis
      (decodeAll_settled children proper.2 finite.2)
  | .text traits (.string words), proper, finite, setting =>
    decode_text (proper _ (mem_nodes_self _)).traits (finite _ (mem_nodes_self _)) setting
      (by rintro _ ⟨⟩)
  | .text traits (.number x), proper, finite, setting => by
    obtain ⟨hnumber, hstyle⟩ := List.forall_mem_cons.1 (finite _ (mem_nodes_self _))
    exact decode_text (proper _ (mem_nodes_self _)).traits hstyle setting
      (by rintro _ ⟨⟩; exact hnumber)
  | .button traits label variant size, proper, finite, setting =>
    decode_button (proper _ (mem_nodes_self _)).traits (finite _ (mem_nodes_self _)) setting label
      variant size
  | .image traits uri mode placeholder, proper, finite, setting =>
    decode_image (proper _ (mem_nodes_self _)).traits (finite _ (mem_nodes_self _)) setting uri
      mode placeholder
  | .spacer traits flex, proper, finite, setting => by
    obtain ⟨hflex, hstyle⟩ := List.forall_mem_append.1 (finite _ (mem_nodes_self _))
    exact decode_spacer (proper _ (mem_nodes_self _)).traits hstyle setting
      fun x hx => hflex x (Option.mem_toList.2 hx)
  | .progressBar traits progress indeterminate, proper, finite, setting => by
    obtain ⟨hprogress, hstyle⟩ := List.forall_mem_cons.1 (finite _ (mem_nodes_self _))
    exact decode_progressBar (proper _ (mem_nodes_self _)).traits hstyle setting hprogress
      indeterminate
  | .list traits items renderItem horizontal, proper, finite, setting =>
    decode_list (proper _ (mem_nodes_self _)).traits (finite _ (mem_nodes_self _)) setting
      (proper _ (mem_nodes_self _)).items renderItem horizontal

theorem decodeAll_settled : (children : List Node) → (∀ n ∈ nodesAll children, n.Proper) →
    (∀ n ∈ nodesAll children, ∀ x ∈ n.numbers, x.isFinite = true) →
    decodeAll ((allToJson children).map Json.settled) = .ok (tidiedAll (withoutNullsAll children))
  | [], _, _ => rfl
  | child :: rest, proper, finite => by
    rw [nodesAll, List.forall_mem_append] at proper finite
    rw [allToJson, List.map_cons, decodeAll, decode_settled child proper.1 finite.1 .apart,
      decodeAll_settled rest proper.2 finite.2]
    rfl

end

end Node

end Widgetry
