import Mathlib.Data.List.Forall2
import Widgetry.Proofs.Style.Decoding
import Widgetry.Root.Validation

/-!
Members that no record knows. A record reads the members that its fields name and passes over all
others; what it reads of them depends only on what the records inside them are decoded to. Main
statement: a member that is unknown to the record in which it stands, at whatever depth, changes neither
the root that is decoded nor the reason why it is refused.
-/

namespace Widgetry

/-! ## Records and their fields -/

/-- The records that a root is made of. -/
inductive Record where
  | root
  | node
  | style
  | bucket (kind : Bucket)
  | accessibility
  | action
  | dataBinding
  | widget
  | timeline
  | timelineEntry
  | liveActivity
  | attributes
  | regions
  | dynamicIsland
  | dataProvider

/-- What stands in a field: a record, a list of records, or neither of them. -/
inductive Form where
  | plain
  | record (inner : Record)
  | list (inner : Record)

/-- The fields of one kind of nodes. -/
def NodeType.parts : NodeType → Bag Form
  | .view => [("children", .list .node)]
  | .text => [("text", .plain)]
  | .button => [("label", .plain), ("variant", .plain), ("size", .plain)]
  | .image => [("uri", .plain), ("resizeMode", .plain), ("placeholder", .plain)]
  | .stack => [("axis", .plain), ("children", .list .node)]
  | .spacer => [("flex", .plain)]
  | .progressBar => [("progress", .plain), ("indeterminate", .plain)]
  | .list => [("items", .plain), ("renderItem", .plain), ("horizontal", .plain)]

namespace Record

/-- The fields of a record in their order; for nodes, those that all of them share. A policy of a
timeline is no record, since it can also be written as a word. -/
def parts : Record → Bag Form
  | .root =>
    [("version", .plain), ("rootId", .plain), ("tree", .record .node), ("widget", .record .widget),
      ("liveActivity", .record .liveActivity), ("dataProvider", .record .dataProvider)]
  | .node =>
    [("key", .plain), ("style", .record .style), ("accessibility", .record .accessibility),
      ("action", .record .action), ("dataBinding", .record .dataBinding)]
  | .style =>
    [("layout", .record (.bucket .layout)), ("typography", .record (.bucket .typography)),
      ("colors", .record (.bucket .colors)), ("borders", .record (.bucket .borders)),
      ("shadows", .record (.bucket .shadows))]
  | .bucket kind => kind.keys.map fun entry => (entry.1, .plain)
  | .accessibility => [("accessibilityLabel", .plain), ("accessible", .plain), ("role", .plain)]
  | .action => [("type", .plain), ("url", .plain), ("params", .plain), ("appId", .plain)]
  | .dataBinding =>
    [("source", .plain), ("key", .plain), ("fallback", .plain), ("transform", .plain)]
  | .widget =>
    [("kind", .plain), ("displayName", .plain), ("description", .plain), ("families", .plain),
      ("supportedPlatforms", .plain), ("configurable", .plain), ("timeline", .record .timeline)]
  | .timeline => [("entries", .list .timelineEntry), ("policy", .plain)]
  | .timelineEntry => [("date", .plain), ("relevance", .plain), ("content", .plain)]
  | .liveActivity =>
    [("activityType", .plain), ("attributes", .record .attributes), ("regions", .record .regions),
      ("staleDate", .plain), ("relevanceScore", .plain)]
  | .attributes => [("static", .plain), ("dynamic", .plain)]
  | .regions => [("lockScreen", .record .node), ("dynamicIsland", .record .dynamicIsland)]
  | .dynamicIsland =>
    [("compact", .record .node), ("minimal", .record .node), ("expanded", .record .node)]
  | .dataProvider => [("endpoint", .plain), ("refreshInterval", .plain), ("headers", .plain)]

/-- The fields that the kind of a node adds, when its members name one. -/
def ownParts (members : List (String × Json)) : Bag Form :=
  match NodeType.ofMembers members with
  | .ok type => type.parts
  | .error _ => []

/-- The fields of a record with these members. -/
def partsAmong (members : List (String × Json)) : Record → Bag Form
  | .node => ("type", .plain) :: (parts .node ++ ownParts members)
  | record => record.parts

theorem partsAmong_of_ne {record : Record} (h : record ≠ .node) (members : List (String × Json)) :
    record.partsAmong members = record.parts := by
  cases record with
  | node => exact absurd rfl h
  | _ => rfl

/-- What a record is decoded to. -/
def Value : Record → Type
  | .root => Root
  | .node => Node
  | .style => Style
  | .bucket _ => Entries
  | .accessibility => Accessibility
  | .action => Action
  | .dataBinding => DataBinding
  | .widget => Widget
  | .timeline => Timeline
  | .timelineEntry => TimelineEntry
  | .liveActivity => LiveActivity
  | .attributes => ActivityAttributes
  | .regions => ActivityRegions
  | .dynamicIsland => DynamicIsland
  | .dataProvider => DataProvider

def decode : (record : Record) → Decoder record.Value
  | .root => fun _ => Root.decode
  | .node => Node.decode
  | .style => Style.decode
  | .bucket kind => kind.decode
  | .accessibility => Accessibility.decode
  | .action => Action.decode
  | .dataBinding => DataBinding.decode
  | .widget => Widget.decode
  | .timeline => Timeline.decode
  | .timelineEntry => TimelineEntry.decode
  | .liveActivity => LiveActivity.decode
  | .attributes => ActivityAttributes.decode
  | .regions => ActivityRegions.decode
  | .dynamicIsland => DynamicIsland.decode
  | .dataProvider => DataProvider.decode

end Record

/-- A value with one more member somewhere, which is unknown to the record that it stands in. Records may
also be written as lists of their fields. -/
inductive Widened : Form → Json → Json → Prop
  | unknown {record : Record} (front back : List (String × Json)) {name : String} (value : Json)
      (h : name ∉ (record.partsAmong (front ++ back)).names) :
      Widened (.record record) (.object (front ++ back)) (.object (front ++ (name, value) :: back))
  | member {record : Record} {form : Form} (front back : List (String × Json)) {name : String}
      {value wider : Json}
      (h : Bag.find? name (record.partsAmong (front ++ (name, value) :: back)) = some form)
      (hwider : Widened form value wider) :
      Widened (.record record) (.object (front ++ (name, value) :: back))
        (.object (front ++ (name, wider) :: back))
  | position {record : Record} {form : Form} (front back : List Json) {name : String}
      {value wider : Json} (h : record.parts[front.length]? = some (name, form))
      (hwider : Widened form value wider) :
      Widened (.record record) (.array (front ++ value :: back)) (.array (front ++ wider :: back))
  | item {record : Record} (front back : List Json) {value wider : Json}
      (hwider : Widened (.record record) value wider) :
      Widened (.list record) (.array (front ++ value :: back)) (.array (front ++ wider :: back))

/-! ## Values that are read alike -/

/-- Two values between which no field of that form can tell. -/
def Form.Alike : Form → Json → Json → Prop
  | .plain, value, wider => wider = value
  | .record inner, value, wider =>
    value ≠ .null ∧ wider ≠ .null ∧ ∀ setting, inner.decode setting wider = inner.decode setting value
  | .list inner, value, wider => ∃ front back item item',
    value = .array (front ++ item :: back) ∧ wider = .array (front ++ item' :: back) ∧
      ∀ setting, inner.decode setting item' = inner.decode setting item

/-- Members that differ in one that is unknown, or in one whose values are read alike. -/
inductive MembersAlike (parts : Bag Form) : List (String × Json) → List (String × Json) → Prop
  | unknown (front back : List (String × Json)) {name : String} (value : Json)
      (h : name ∉ parts.names) : MembersAlike parts (front ++ back) (front ++ (name, value) :: back)
  | member {form : Form} (front back : List (String × Json)) {name : String} {value wider : Json}
      (h : Bag.find? name parts = some form) (halike : form.Alike value wider) :
      MembersAlike parts (front ++ (name, value) :: back) (front ++ (name, wider) :: back)

namespace Decoder

variable {α β : Type} {fields : List (Field β)} {setting : Setting} {parts : Bag Form}

/-! ### Lists -/

theorem itemsFrom_alike {decode : Json → Decoded α} {item item' : Json}
    (h : decode item' = decode item) (position : Nat) (front back : List Json) :
    itemsFrom decode position (front ++ item' :: back)
      = itemsFrom decode position (front ++ item :: back) := by
  induction front generalizing position with
  | nil => simp only [List.nil_append, itemsFrom, h]
  | cons first rest ih => simp only [List.cons_append, itemsFrom, ih]

theorem list_alike {record : Record} {value wider : Json} (h : (Form.list record).Alike value wider)
    (setting : Setting) : list record.decode setting wider = list record.decode setting value := by
  obtain ⟨front, back, item, item', rfl, rfl, hitem⟩ := h
  exact itemsFrom_alike (hitem setting) 0 front back

/-! ### Fields -/

/-- A field that reads values alike when they are so for the form that stands in it. -/
def Field.Fits (field : Field β) (form : Form) : Prop :=
  ∀ setting value wider, form.Alike value wider → field.read setting wider = field.read setting value

theorem fits_plain (field : Field β) : field.Fits .plain := by
  rintro setting value _ rfl
  rfl

theorem fits_required (name : String) (record : Record) (set : record.Value → β → β) :
    (required name record.decode set).Fits (.record record) := by
  rintro setting value wider ⟨-, -, h⟩
  simp only [required, h]

theorem optional_of_ne_null (decode : Decoder α) (setting : Setting) {value : Json}
    (h : value ≠ .null) : optional decode setting value = (decode setting value).map some := by
  cases value with
  | null => exact absurd rfl h
  | _ => rfl

theorem fits_nullable (name : String) (record : Record) (set : Option record.Value → β → β) :
    (nullable name record.decode set).Fits (.record record) := by
  rintro setting value wider ⟨hvalue, hwider, h⟩
  simp only [nullable, optional_of_ne_null _ _ hvalue, optional_of_ne_null _ _ hwider, h]

theorem fits_nullable_list (name : String) (record : Record)
    (set : Option (List record.Value) → β → β) :
    (nullable name (list record.decode) set).Fits (.list record) := by
  intro setting value wider h
  have hlist := list_alike h setting
  obtain ⟨front, back, item, item', rfl, rfl, -⟩ := h
  simp only [nullable, optional, hlist]

/-- Every field is among the parts, with a form that it fits. -/
def Described (parts : Bag Form) (fields : List (Field β)) : Prop :=
  ∀ field ∈ fields, ∃ form, Bag.find? field.name parts = some form ∧ field.Fits form

theorem fieldsFrom_replace {name : String} {value wider : Json}
    (h : ∀ field, fieldFor? fields name = some field →
      field.read setting wider = field.read setting value)
    (front back : List (String × Json)) (seen : List String) (known : β) :
    fieldsFrom fields setting seen (front ++ (name, wider) :: back) known
      = fieldsFrom fields setting seen (front ++ (name, value) :: back) known := by
  induction front generalizing seen known with
  | nil =>
    rw [List.nil_append, List.nil_append, fieldsFrom, fieldsFrom]
    cases hfield : fieldFor? fields name with
    | none =>
      unfold fieldFor? at hfield
      rw [hfield]
    | some field =>
      have hread := h field hfield
      unfold fieldFor? at hfield
      rw [hfield]
      simp only [hread]
  | cons first rest ih =>
    obtain ⟨key, other⟩ := first
    simp only [List.cons_append, fieldsFrom, ih]

theorem fieldsFrom_alike (hfields : Described parts fields) {members wider : List (String × Json)}
    (h : MembersAlike parts members wider) (seen : List String) (known : β) :
    fieldsFrom fields setting seen wider known = fieldsFrom fields setting seen members known := by
  cases h with
  | @unknown front back name value hname =>
    have hunread : fieldFor? fields name = none := by
      refine fieldFor?_eq_none fun hmem => hname ?_
      obtain ⟨field, hfield, rfl⟩ := List.mem_map.1 hmem
      obtain ⟨form, hform, -⟩ := hfields field hfield
      exact List.mem_map.2 ⟨_, Bag.mem_of_find? hform, rfl⟩
    rw [← fieldsFrom_filter, ← fieldsFrom_filter fields setting seen (front ++ back)]
    simp [hunread]
  | @member form front back name value wider hname halike =>
    refine fieldsFrom_replace (fun field hfield => ?_) front back seen known
    unfold fieldFor? at hfield
    have hkey : field.name = name := by simpa using List.find?_some hfield
    obtain ⟨form', hform, hfits⟩ := hfields field (List.mem_of_find?_eq_some hfield)
    rw [hkey, hname] at hform
    obtain rfl := Option.some.inj hform
    exact hfits setting value wider halike

theorem fromMembers_alike (hfields : Described parts fields) {members wider : List (String × Json)}
    (h : MembersAlike parts members wider) (start : β) :
    fromMembers fields setting wider start = fromMembers fields setting members start := by
  rw [fromMembers, fromMembers, fieldsFrom_alike hfields h]

/-! ### Records -/

theorem positionsFrom_replace (recordName : String) (count : Nat) {value wider : Json} {field : Field β}
    (h : field.read setting wider = field.read setting value) (front back : List Json)
    (hfield : fields[front.length]? = some field) (position : Nat) (known : β) :
    positionsFrom recordName count setting position fields (front ++ wider :: back) known
      = positionsFrom recordName count setting position fields (front ++ value :: back) known := by
  induction front generalizing fields position known with
  | nil =>
    cases fields with
    | nil => cases hfield
    | cons first others =>
      obtain rfl := Option.some.inj hfield
      simp only [List.nil_append, positionsFrom, h]
  | cons item rest ih =>
    cases fields with
    | nil => cases hfield
    | cons first others => simp only [List.cons_append, positionsFrom, ih hfield]

/-- The fields of a record are the parts, in the same order. -/
def Matches (parts : Bag Form) (fields : List (Field β)) : Prop :=
  List.Forall₂ (fun part field => field.name = part.1 ∧ field.Fits part.2) parts fields

theorem matches_plain (h : parts = fields.map fun field => (field.name, .plain)) :
    Matches parts fields := by
  rw [h, Matches, List.forall₂_map_left_iff, List.forall₂_same]
  exact fun field _ => ⟨rfl, fits_plain field⟩

theorem Matches.exists_part (h : Matches parts fields) {field : Field β} (hfield : field ∈ fields) :
    ∃ part ∈ parts, field.name = part.1 ∧ field.Fits part.2 := by
  induction h with
  | nil => cases hfield
  | cons hfirst _ ih =>
    rcases List.mem_cons.1 hfield with rfl | hlater
    · exact ⟨_, List.mem_cons_self, hfirst⟩
    · obtain ⟨part, hpart, hfits⟩ := ih hlater
      exact ⟨part, List.mem_cons_of_mem _ hpart, hfits⟩

theorem Matches.exists_field (h : Matches parts fields) {position : Nat} {part : String × Form}
    (hpart : parts[position]? = some part) :
    ∃ field, fields[position]? = some field ∧ field.Fits part.2 := by
  induction h generalizing position with
  | nil => cases hpart
  | cons hfirst _ ih =>
    cases position with
    | zero =>
      obtain rfl := Option.some.inj hpart
      exact ⟨_, rfl, hfirst.2⟩
    | succ position => exact ih hpart

theorem Matches.described (h : Matches parts fields) (distinct : parts.Distinct) :
    Described parts fields := by
  intro field hfield
  obtain ⟨⟨name, form⟩, hpart, hname, hfits⟩ := h.exists_part hfield
  exact ⟨form, hname ▸ Bag.find?_of_mem distinct hpart, hfits⟩

/-- A decoder that cannot tell values apart whose parts are read alike. -/
structure Conforms (parts : Bag Form) (decode : Decoder α) : Prop where
  members : ∀ {members wider}, MembersAlike parts members wider → ∀ setting,
    decode setting (.object wider) = decode setting (.object members)
  positions : ∀ {front back name form value wider}, parts[List.length front]? = some (name, form) →
    Form.Alike form value wider → ∀ setting,
    decode setting (.array (front ++ wider :: back)) = decode setting (.array (front ++ value :: back))

theorem conforms_record (name : String) (start : β) (distinct : parts.Distinct)
    (h : Matches parts fields) : Conforms parts (record name fields start) where
  members halike setting := fromMembers_alike (h.described distinct) halike start
  positions {front back key form value wider} hpart halike setting := by
    obtain ⟨field, hfield, hfits⟩ := h.exists_field hpart
    have hread := hfits setting value wider halike
    simp only [record, positionsFrom_replace name fields.length hread front back hfield,
      List.length_append, List.length_cons]

theorem Conforms.bind {decode : Decoder α} (h : Conforms parts decode) (f : α → Decoded β) :
    Conforms parts fun setting value => decode setting value >>= f where
  members halike setting := by rw [h.members halike]
  positions hpart halike setting := by rw [h.positions hpart halike]

theorem Conforms.inPlace {decode : Decoder α} (h : Conforms parts decode) :
    Conforms parts fun _ => decode .inPlace where
  members halike _ := h.members halike .inPlace
  positions hpart halike _ := h.positions hpart halike .inPlace

end Decoder

open Decoder

/-! ## The records of a root -/

theorem Bucket.conforms_decode (kind : Bucket) :
    Conforms (Record.parts (.bucket kind)) (Bucket.decode kind) := by
  have hdistinct : (Record.parts (.bucket kind)).Distinct := by
    simpa [Bag.Distinct, Bag.names, Record.parts, Function.comp_def] using kind.nodup_keys
  refine Conforms.bind (conforms_record kind.recordName [] hdistinct (matches_plain ?_)) _
  rw [Record.parts, List.map_map]
  rfl

namespace Record

theorem conforms : (record : Record) → record ≠ .node → Conforms record.parts record.decode
  | .node, h => absurd rfl h
  | .root, _ =>
    (conforms_record _ _ (by decide) (.cons ⟨rfl, fits_plain _⟩ (.cons ⟨rfl, fits_plain _⟩
      (.cons ⟨rfl, fits_required _ .node _⟩ (.cons ⟨rfl, fits_nullable _ .widget _⟩
        (.cons ⟨rfl, fits_nullable _ .liveActivity _⟩
          (.cons ⟨rfl, fits_nullable _ .dataProvider _⟩ .nil))))))).inPlace
  | .style, _ => by
    refine conforms_record _ _ (by decide) (.cons ?_ (.cons ?_ (.cons ?_ (.cons ?_ (.cons ?_ .nil)))))
    all_goals exact ⟨rfl, fits_nullable _ (.bucket _) _⟩
  | .bucket kind, _ => kind.conforms_decode
  | .accessibility, _ | .action, _ | .dataBinding, _ | .timelineEntry, _ | .attributes, _
  | .dataProvider, _ => conforms_record _ _ (by decide) (matches_plain rfl)
  | .widget, _ => by
    refine conforms_record _ _ (by decide) (.cons ?_ (.cons ?_ (.cons ?_ (.cons ?_ (.cons ?_
      (.cons ?_ (.cons ⟨rfl, fits_nullable _ .timeline _⟩ .nil)))))))
    all_goals exact ⟨rfl, fits_plain _⟩
  | .timeline, _ =>
    conforms_record _ _ (by decide)
      (.cons ⟨rfl, fits_nullable_list _ .timelineEntry _⟩ (.cons ⟨rfl, fits_plain _⟩ .nil))
  | .liveActivity, _ =>
    conforms_record _ _ (by decide) (.cons ⟨rfl, fits_plain _⟩
      (.cons ⟨rfl, fits_required _ .attributes _⟩ (.cons ⟨rfl, fits_required _ .regions _⟩
        (.cons ⟨rfl, fits_plain _⟩ (.cons ⟨rfl, fits_plain _⟩ .nil)))))
  | .regions, _ =>
    conforms_record _ _ (by decide) (.cons ⟨rfl, fits_nullable _ .node _⟩
      (.cons ⟨rfl, fits_nullable _ .dynamicIsland _⟩ .nil))
  | .dynamicIsland, _ =>
    conforms_record _ _ (by decide) (.cons ⟨rfl, fits_nullable _ .node _⟩
      (.cons ⟨rfl, fits_nullable _ .node _⟩ (.cons ⟨rfl, fits_nullable _ .node _⟩ .nil)))

end Record

/-! ## Nodes -/

namespace MembersAlike

variable {parts : Bag Form} {members wider : List (String × Json)} {key : String}

theorem filter_eq (h : MembersAlike parts members wider) (hkey : Bag.find? key parts = some .plain) :
    wider.filter (fun member => member.1 = key) = members.filter fun member => member.1 = key := by
  cases h with
  | @unknown front back name value hname =>
    have hne : name ≠ key := by
      rintro rfl
      exact hname (List.mem_map.2 ⟨_, Bag.mem_of_find? hkey, rfl⟩)
    simp [hne]
  | @member form front back name value wider hname halike =>
    by_cases hname' : name = key
    · subst hname'
      obtain rfl := Option.some.inj (hname.symm.trans hkey)
      obtain rfl : wider = value := halike
      rfl
    · simp [hname']

theorem find?_eq (h : MembersAlike parts members wider) (hkey : Bag.find? key parts = some .plain) :
    Bag.find? key wider = Bag.find? key members := by
  rw [← Bag.find?_filter, h.filter_eq hkey, Bag.find?_filter]

end MembersAlike

namespace Node

variable {members wider : List (String × Json)}

theorem decodeAll_alike {item item' : Json} (h : decode .apart item' = decode .apart item)
    (front back : List Json) : decodeAll (front ++ item' :: back) = decodeAll (front ++ item :: back) := by
  induction front with
  | nil => simp only [List.nil_append, decodeAll, h]
  | cons first rest ih => simp only [List.cons_append, decodeAll, ih]

theorem decodeChildren_alike {value wider : Json} (h : (Form.list .node).Alike value wider) :
    decodeChildren wider = decodeChildren value := by
  obtain ⟨front, back, item, item', rfl, rfl, hitem⟩ := h
  exact decodeAll_alike (hitem .apart) front back

/-- The children are read alike when they are a field of the node. -/
theorem childrenOf_alike {parts : Bag Form} (hchildren : Bag.find? "children" parts = some (.list .node))
    (h : MembersAlike parts members wider) : childrenOf wider = childrenOf members := by
  cases h with
  | @unknown front back name value hname =>
    have hne : name ≠ "children" := by
      rintro rfl
      exact hname (List.mem_map.2 ⟨_, Bag.mem_of_find? hchildren, rfl⟩)
    induction front with
    | nil => simp only [List.nil_append, childrenOf, hne, if_false]
    | cons first rest ih => simp only [List.cons_append, childrenOf, ih]
  | @member form front back name value wider hname halike =>
    have hvalue : name = "children" → decodeChildren wider = decodeChildren value := by
      rintro rfl
      obtain rfl := Option.some.inj (hname.symm.trans hchildren)
      exact decodeChildren_alike halike
    induction front with
    | nil =>
      simp only [List.nil_append, childrenOf]
      split
      · next heq => exact hvalue heq
      · rfl
    | cons first rest ih => simp only [List.cons_append, childrenOf, ih]

theorem described_traits (own : Bag Form) :
    Described (("type", .plain) :: (Record.parts .node ++ own)) Traits.fields := by
  simp only [Described, Traits.fields, List.forall_mem_cons]
  exact ⟨⟨_, rfl, fits_plain _⟩, ⟨_, rfl, fits_nullable _ .style _⟩,
    ⟨_, rfl, fits_nullable _ .accessibility _⟩, ⟨_, rfl, fits_nullable _ .action _⟩,
    ⟨_, rfl, fits_nullable _ .dataBinding _⟩, List.forall_mem_nil _⟩

theorem described_plain {β : Type} {parts : Bag Form} {fields : List (Decoder.Field β)}
    (h : ∀ field ∈ fields, Bag.find? field.name parts = some .plain) : Described parts fields :=
  fun field hfield => ⟨.plain, h field hfield, fits_plain field⟩

theorem fits_decodedField {α β : Type} (name : String) (result : Decoded α) (set : α → β → β)
    (form : Form) : (decodedField name result set).Fits form :=
  fun _ _ _ _ => rfl

/-- What belongs to the kind of a node is read alike. -/
theorem ofMembers_alike (type : NodeType)
    (h : MembersAlike (("type", .plain) :: (Record.parts .node ++ type.parts)) members wider) :
    ofMembers wider (childrenOf wider) type = ofMembers members (childrenOf members) type := by
  -- Children that are no field may differ, but then they are not asked for.
  cases type with
  | view =>
    rw [ofMembers, ofMembers, childrenOf_alike rfl h, kindFields, kindFields, fromMembers_alike ?_ h]
    exact List.forall_mem_singleton.2 ⟨_, rfl, fits_decodedField _ _ _ _⟩
  | stack =>
    rw [ofMembers, ofMembers, childrenOf_alike rfl h, kindFields, kindFields, fromMembers_alike ?_ h]
    exact List.forall_mem_cons.2 ⟨⟨_, rfl, fits_plain _⟩,
      List.forall_mem_singleton.2 ⟨_, rfl, fits_decodedField _ _ _ _⟩⟩
  | text | spacer =>
    rw [ofMembers, ofMembers, kindFields, kindFields, fromMembers_alike (described_plain ?_) h]
    exact List.forall_mem_singleton.2 rfl
  | progressBar =>
    rw [ofMembers, ofMembers, kindFields, kindFields, fromMembers_alike (described_plain ?_) h]
    exact List.forall_mem_cons.2 ⟨rfl, List.forall_mem_singleton.2 rfl⟩
  | button | image | list =>
    rw [ofMembers, ofMembers, kindFields, kindFields, fromMembers_alike (described_plain ?_) h]
    exact List.forall_mem_cons.2 ⟨rfl, List.forall_mem_cons.2 ⟨rfl, List.forall_mem_singleton.2 rfl⟩⟩

theorem decode_alike (h : MembersAlike (Record.partsAmong members .node) members wider)
    (setting : Setting) : decode setting (.object wider) = decode setting (.object members) := by
  have htraits := fun seen known => @fieldsFrom_alike _ _ setting _
    (described_traits (Record.ownParts members)) _ _ h seen known
  have htype : NodeType.ofMembers wider = NodeType.ofMembers members := by
    rw [NodeType.ofMembers, NodeType.ofMembers, h.filter_eq rfl]
  cases hmembers : NodeType.ofMembers members with
  | error failure => simp only [decode, htraits, htype, hmembers, bind, Except.bind]
  | ok type =>
    rw [Record.partsAmong, Record.ownParts, hmembers] at h
    simp only [decode, htraits, htype, hmembers, bind, Except.bind, ofMembers_alike type h]

end Node

/-! ## Roots -/

namespace Record

variable (record : Record) (setting : Setting)

theorem decode_members {members wider : List (String × Json)}
    (h : MembersAlike (record.partsAmong members) members wider) :
    record.decode setting (.object wider) = record.decode setting (.object members) := by
  by_cases hnode : record = .node
  · subst hnode
    exact Node.decode_alike h setting
  · rw [partsAmong_of_ne hnode] at h
    exact (record.conforms hnode).members h setting

/-- A node is never written as a list, so what stands in the list makes no difference either. -/
theorem decode_positions {front back : List Json} {name : String} {form : Form} {value wider : Json}
    (h : record.parts[front.length]? = some (name, form)) (halike : form.Alike value wider) :
    record.decode setting (.array (front ++ wider :: back))
      = record.decode setting (.array (front ++ value :: back)) := by
  by_cases hnode : record = .node
  · subst hnode
    rfl
  · exact (record.conforms hnode).positions h halike setting

end Record

namespace Widened

variable {form : Form} {value wider : Json}

/-- What a record is decoded to does not depend on unknown members. -/
theorem alike (h : Widened form value wider) : form.Alike value wider := by
  induction h with
  | @unknown record front back name value hname =>
    exact ⟨by rintro ⟨⟩, by rintro ⟨⟩, fun setting =>
      record.decode_members setting (.unknown front back value hname)⟩
  | @member record form front back name value wider hform _ ih =>
    exact ⟨by rintro ⟨⟩, by rintro ⟨⟩, fun setting =>
      record.decode_members setting (.member front back hform ih)⟩
  | @position record form front back name value wider hform _ ih =>
    exact ⟨by rintro ⟨⟩, by rintro ⟨⟩, fun setting => record.decode_positions setting hform ih⟩
  | @item record front back value wider _ ih => exact ⟨front, back, value, wider, rfl, rfl, ih.2.2⟩

theorem member?_eq {key : String} (hkey : Bag.find? key (Record.parts .root) = some .plain)
    (h : Widened (.record .root) value wider) : wider.member? key = value.member? key := by
  cases h with
  | unknown front back value hname =>
    exact MembersAlike.find?_eq (.unknown front back value hname) hkey
  | member front back hform hwider =>
    exact MembersAlike.find?_eq (.member front back hform hwider.alike) hkey
  | position front back hform hwider => rfl

end Widened

/-- A member that is unknown to the record in which it stands changes nothing: the same root is decoded,
or it is refused for the same reason. -/
theorem Root.ofJson_of_widened {value wider : Json} (h : Widened (.record .root) value wider) :
    Root.ofJson wider = Root.ofJson value := by
  have hid : Root.claimedId wider = Root.claimedId value := by
    rw [Root.claimedId, Root.claimedId, h.member?_eq rfl]
  have hversion : Root.claimedVersion? wider = Root.claimedVersion? value := by
    rw [Root.claimedVersion?, Root.claimedVersion?, h.member?_eq rfl]
  have hdecode : Root.decode wider = Root.decode value := h.alike.2.2 .inPlace
  rw [Root.ofJson, Root.ofJson, hid, hversion, hdecode]

/-- A view with a text that has these members in front of its own. -/
def labelJson (more : List (String × Json)) : Json :=
  .object [("rootId", .string "label"),
    ("tree", .object [("children", .array [.object (more ++ [("text", .string "Hi"),
      ("type", .string "Text")])]), ("type", .string "View")]),
    ("version", .ofNat 1)]

/-- A text has no children, so it passes over what is given as such. -/
theorem Root.ofJson_of_widened_label :
    Widened (.record .root) (labelJson []) (labelJson [("children", .null)]) ∧
      Root.ofJson (labelJson [("children", .null)]) = Root.ofJson (labelJson []) := by
  have htext : Widened (.record .node)
      (.object [("text", .string "Hi"), ("type", .string "Text")])
      (.object [("children", .null), ("text", .string "Hi"), ("type", .string "Text")]) :=
    .unknown [] _ .null (by decide)
  have hlabel : Widened (.record .root) (labelJson []) (labelJson [("children", .null)]) :=
    .member [("rootId", .string "label")] [("version", .ofNat 1)] rfl
      (.member [] [("type", .string "View")] rfl (.item [] [] htext))
  exact ⟨hlabel, Root.ofJson_of_widened hlabel⟩

end Widgetry
