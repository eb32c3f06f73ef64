import Widgetry.Proofs.Json.Proper
import Widgetry.Proofs.Lists
import Widgetry.Root.Decoding
import Widgetry.Root.Encoding

/-!
Decoding of records in any order of their members. A record is described by its slots: what each
field is written as, and what reading it does. When the slots do not interfere, decoding the
settled text of the record does what all of them do, whatever order its members have come to.
-/

namespace Widgetry.Decoder

variable {α β γ : Type}

/-! ## Members in their order -/

/-- The fields that read a member. -/
def fieldFor? (fields : List (Field β)) (name : String) : Option (Field β) :=
  fields.find? fun field => field.name = name

/-- Members that no field reads make no difference. -/
theorem fieldsFrom_filter (fields : List (Field β)) (setting : Setting) (seen : List String)
    (members : List (String × Json)) (known : β) :
    fieldsFrom fields setting seen (members.filter fun member => (fieldFor? fields member.1).isSome)
        known
      = fieldsFrom fields setting seen members known := by
  induction members generalizing seen known with
  | nil => rfl
  | cons member rest ih =>
    obtain ⟨name, value⟩ := member
    cases h : fieldFor? fields name with
    | none =>
      rw [List.filter_cons_of_neg (by simp [h]), ih, fieldsFrom]
      unfold fieldFor? at h
      rw [h]
    | some field =>
      rw [List.filter_cons_of_pos (by simp [h]), fieldsFrom, fieldsFrom]
      unfold fieldFor? at h
      rw [h]
      simp only [ih]

/-- When every member is read, what each of them does is done in turn. -/
theorem fieldsFrom_foldl {fields : List (Field β)} {setting : Setting}
    {members : List (String × Json)} {step : String → β → β}
    (reads : ∀ member ∈ members, ∃ field, fieldFor? fields member.1 = some field ∧
      ∀ known, field.read setting member.2 known = .ok (step member.1 known))
    (seen : List String) (distinct : (members.map Prod.fst ++ seen).Nodup) (known : β) :
    fieldsFrom fields setting seen members known
      = .ok ((members.map Prod.fst).foldl (fun known name => step name known) known,
          (members.map Prod.fst).reverse ++ seen) := by
  induction members generalizing seen known with
  | nil => rfl
  | cons member rest ih =>
    obtain ⟨name, value⟩ := member
    obtain ⟨field, hfind, hread⟩ := reads (name, value) (by simp)
    simp only [List.map_cons, List.cons_append, List.nodup_cons, List.mem_append, not_or] at distinct
    have hrest : (rest.map Prod.fst ++ name :: seen).Nodup :=
      List.perm_middle.nodup_iff.2 (by simpa using distinct)
    unfold fieldFor? at hfind
    rw [fieldsFrom, hfind]
    simp only [hread, within, Except.mapError, Bind.bind, Except.bind]
    rw [if_neg (by simpa using distinct.1.2), ih (fun m hm => reads m (by simp [hm])) _ hrest]
    simp

/-! ## Slots -/

/-- A field of a record: the value that it is written as, when it is written, and what reading it
does. -/
structure Slot (β : Type) where
  name : String
  value : Option Json
  update : β → β

namespace Slot

def members (slots : List (Slot β)) : List (String × Json) :=
  slots.flatMap fun slot => optionalMember slot.name id slot.value

def names (slots : List (Slot β)) : List String := slots.map Slot.name

/-- What all slots do, one after the other. -/
def result (slots : List (Slot β)) (start : β) : β :=
  slots.foldl (fun known slot => slot.update known) start

/-- Decoding the value of a slot does what the slot says. -/
def Reads (fields : List (Field β)) (setting : Setting) (slot : Slot β) : Prop :=
  match slot.value with
  | none => ∀ known, slot.update known = known
  | some value => ∃ field, fieldFor? fields slot.name = some field ∧
      ∀ known, field.read setting value.settled known = .ok (slot.update known)

/-- The order of two slots makes no difference. -/
def Commute (slot other : Slot β) : Prop :=
  ∀ known, slot.update (other.update known) = other.update (slot.update known)

instance : Std.Symm (@Commute β) := ⟨fun _ _ h known => (h known).symm⟩

/-- What the slot of that name does. -/
def stepFor (slots : List (Slot β)) (name : String) : β → β :=
  match slots.find? fun slot => slot.name = name with
  | some slot => slot.update
  | none => id

@[simp] theorem members_nil : members ([] : List (Slot β)) = [] := rfl

@[simp] theorem members_cons (slot : Slot β) (slots : List (Slot β)) :
    members (slot :: slots) = optionalMember slot.name id slot.value ++ members slots := rfl

theorem mem_members {slots : List (Slot β)} {member : String × Json} :
    member ∈ members slots ↔ ∃ slot ∈ slots, slot.name = member.1 ∧ slot.value = some member.2 := by
  obtain ⟨name, value⟩ := member
  simp only [members, List.mem_flatMap]
  refine exists_congr fun slot => and_congr_right fun _ => ?_
  cases h : slot.value with
  | none => simp [optionalMember]
  | some v => simp [optionalMember, eq_comm]

theorem names_members_sublist (slots : List (Slot β)) :
    ((members slots).map Prod.fst).Sublist (names slots) := by
  induction slots with
  | nil => exact .slnil
  | cons slot rest ih =>
    rw [members_cons, List.map_append]
    cases h : slot.value with
    | none => exact ih.cons _
    | some v => exact ih.cons_cons _

theorem stepFor_of_mem {slots : List (Slot β)} (distinct : (names slots).Nodup) {slot : Slot β}
    (h : slot ∈ slots) : stepFor slots slot.name = slot.update := by
  induction slots with
  | nil => cases h
  | cons head rest ih =>
    obtain ⟨hfresh, hrest⟩ := List.nodup_cons.1 distinct
    rcases List.mem_cons.1 h with rfl | hmem
    · simp [stepFor]
    · have hne : head.name ≠ slot.name := fun heq => hfresh (heq ▸ List.mem_map_of_mem hmem)
      rw [← ih hrest hmem]
      simp [stepFor, hne]

theorem foldl_members {fields : List (Field β)} {setting : Setting} {slots : List (Slot β)}
    {step : String → β → β} (hstep : ∀ slot ∈ slots, step slot.name = slot.update)
    (reads : ∀ slot ∈ slots, slot.Reads fields setting) (start : β) :
    ((members slots).map Prod.fst).foldl (fun known name => step name known) start
      = result slots start := by
  induction slots generalizing start with
  | nil => rfl
  | cons slot rest ih =>
    have hslot := hstep slot (by simp)
    have hreads := reads slot (by simp)
    rw [members_cons, List.map_append, List.foldl_append, ih (fun s hs => hstep s (by simp [hs]))
      (fun s hs => reads s (by simp [hs])), result, result, List.foldl_cons]
    unfold Reads at hreads
    cases h : slot.value with
    | none =>
      rw [h] at hreads
      simp [optionalMember, hreads]
    | some v => simp [optionalMember, hslot]

/-- Names in any order do what their slots do. -/
theorem foldl_perm {fields : List (Field β)} {setting : Setting} {slots : List (Slot β)}
    (distinct : (names slots).Nodup) (reads : ∀ slot ∈ slots, slot.Reads fields setting)
    (commute : slots.Pairwise Commute) {found : List String}
    (perm : found.Perm ((members slots).map Prod.fst)) (start : β) :
    found.foldl (fun known name => stepFor slots name known) start = result slots start := by
  have hall : ∀ a ∈ slots, ∀ b ∈ slots, Commute a b := fun a ha b hb =>
    List.Pairwise.forall_of_forall (fun _ _ _ => rfl) commute ha hb
  have hslots := foldl_members (fun slot => stepFor_of_mem distinct) reads start
  rw [← hslots]
  refine perm.foldl_eq' ?_ start
  have hslot : ∀ name ∈ found, ∃ slot ∈ slots, stepFor slots name = slot.update := by
    intro name hname
    obtain ⟨member, hmember, rfl⟩ := List.mem_map.1 (perm.mem_iff.1 hname)
    obtain ⟨slot, hslot, heq, -⟩ := mem_members.1 hmember
    exact ⟨slot, hslot, heq ▸ stepFor_of_mem distinct hslot⟩
  intro x hx y hy known
  obtain ⟨a, ha, hax⟩ := hslot x hx
  obtain ⟨b, hb, hby⟩ := hslot y hy
  rw [hax, hby]
  exact hall b hb a ha known

/-- A slot for a component: `result` is what its value is decoded to. -/
def of (name : String) (value : Option Json) (result : Option α) (get : β → α)
    (set : α → β → β) : Slot β :=
  ⟨name, value, fun known => set (result.getD (get known)) known⟩

theorem reads_of {fields : List (Field β)} {setting : Setting} {name : String}
    {value : Option Json} {result : Option α} {get : β → α} {set : α → β → β} {isOptional : Bool}
    {decode : Decoder α}
    (find : fieldFor? fields name = some ⟨name, isOptional, fun setting value known =>
      (decode setting value).map fun a => set a known⟩)
    (get_set : ∀ known, set (get known) known = known)
    (decodes : Option.Rel (fun v a => decode setting v.settled = .ok a) value result) :
    (of name value result get set).Reads fields setting := by
  cases decodes with
  | none => exact get_set
  | some h => exact ⟨_, find, fun known => by simp only [h]; rfl⟩

end Slot

/-! ## Records -/

/-- The members as they are once their text is read. -/
def settledMembers (members : List (String × Json)) : List (String × Json) :=
  members.map fun member => (member.1, member.2.settled)

section Records

variable {fields : List (Field β)} {setting : Setting} {slots : List (Slot β)}

/-- Members among which those of the slots are the ones that the fields read. -/
def Covers (fields : List (Field β)) (slots : List (Slot β)) (members : List (String × Json)) :
    Prop :=
  (members.filter fun member => (fieldFor? fields member.1).isSome).Perm
    (settledMembers (Slot.members slots))

theorem reads_of_mem (reads : ∀ slot ∈ slots, slot.Reads fields setting)
    (distinct : (Slot.names slots).Nodup) {member : String × Json}
    (h : member ∈ settledMembers (Slot.members slots)) :
    ∃ field, fieldFor? fields member.1 = some field ∧
      ∀ known, field.read setting member.2 known
        = .ok (Slot.stepFor slots member.1 known) := by
  obtain ⟨⟨name, value⟩, hmem, rfl⟩ := List.mem_map.1 h
  obtain ⟨slot, hslot, hname, hvalue⟩ := Slot.mem_members.1 hmem
  have hreads := reads slot hslot
  simp only [Slot.Reads, hvalue] at hreads
  simp only at hname ⊢
  rw [← hname, Slot.stepFor_of_mem distinct hslot]
  exact hreads

theorem fieldsFrom_slots (distinct : (Slot.names slots).Nodup)
    (reads : ∀ slot ∈ slots, slot.Reads fields setting) (commute : slots.Pairwise Slot.Commute)
    {members : List (String × Json)} (covers : Covers fields slots members) (start : β) :
    ∃ seen, fieldsFrom fields setting [] members start = .ok (Slot.result slots start, seen) ∧
      ∀ name, name ∈ seen ↔ name ∈ (Slot.members slots).map Prod.fst := by
  have hnames : (settledMembers (Slot.members slots)).map Prod.fst
      = (Slot.members slots).map Prod.fst := by
    simp [settledMembers, Function.comp_def]
  have hperm := covers.map Prod.fst
  rw [hnames] at hperm
  have hnodup := hperm.nodup_iff.2 ((Slot.names_members_sublist slots).nodup distinct)
  have hread := fieldsFrom_foldl (fun member hmember =>
    reads_of_mem reads distinct (covers.mem_iff.1 hmember)) [] (by simpa using hnodup) start
  rw [fieldsFrom_filter, Slot.foldl_perm distinct reads commute hperm] at hread
  refine ⟨_, hread, fun name => ?_⟩
  rw [List.append_nil, List.mem_reverse]
  exact hperm.mem_iff

theorem fromMembers_slots (distinct : (Slot.names slots).Nodup)
    (reads : ∀ slot ∈ slots, slot.Reads fields setting) (commute : slots.Pairwise Slot.Commute)
    {members : List (String × Json)} (covers : Covers fields slots members)
    (present : ∀ field ∈ fields, field.isOptional = true ∨
      field.name ∈ (Slot.members slots).map Prod.fst) (start : β) :
    fromMembers fields setting members start = .ok (Slot.result slots start) := by
  obtain ⟨seen, hread, hseen⟩ := fieldsFrom_slots distinct reads commute covers start
  have hmissing : missing? fields seen = none := by
    rw [missing?, Option.map_eq_none_iff, List.find?_eq_none]
    intro field hfield
    rcases present field hfield with hoptional | hpresent
    · simp [hoptional]
    · simp [(hseen field.name).2 hpresent]
  rw [fromMembers, hread]
  simp only [Bind.bind, Except.bind, hmissing]

theorem fieldFor?_eq_none {name : String} (h : name ∉ fields.map Field.name) :
    fieldFor? fields name = none := by
  rw [fieldFor?, List.find?_eq_none]
  intro field hfield heq
  exact h (List.mem_map.2 ⟨field, hfield, by simpa using heq⟩)

/-- Among members that stand around those of the slots, the fields read only the latter. -/
theorem covers_sorted (before after : List (String × Json))
    (distinct : ((before ++ (Slot.members slots ++ after)).map Prod.fst).Nodup)
    (names : (Slot.names slots).Nodup) (reads : ∀ slot ∈ slots, slot.Reads fields setting)
    (hbefore : ∀ member ∈ before, member.1 ∉ fields.map Field.name)
    (hafter : ∀ member ∈ after, member.1 ∉ fields.map Field.name) :
    Covers fields slots (Bag.sorted (settledMembers (before ++ (Slot.members slots ++ after)))) := by
  have hother : ∀ members : List (String × Json),
      (∀ member ∈ members, member.1 ∉ fields.map Field.name) →
      (settledMembers members).filter (fun member => (fieldFor? fields member.1).isSome) = [] := by
    intro members h
    rw [List.filter_eq_nil_iff]
    intro member hmember
    obtain ⟨original, horiginal, rfl⟩ := List.mem_map.1 hmember
    simp [fieldFor?_eq_none (h original horiginal)]
  have hown : ∀ member ∈ settledMembers (Slot.members slots),
      (fieldFor? fields member.1).isSome = true := by
    intro member hmember
    obtain ⟨field, hfind, -⟩ := reads_of_mem reads names hmember
    simp [hfind]
  have hnames : Bag.Distinct (settledMembers (before ++ (Slot.members slots ++ after))) := by
    simpa [Bag.Distinct, Bag.names, settledMembers, Function.comp_def] using distinct
  refine ((Bag.sorted_perm hnames).filter _).trans ?_
  have hsplit : settledMembers (before ++ (Slot.members slots ++ after))
      = settledMembers before ++ (settledMembers (Slot.members slots) ++ settledMembers after) := by
    simp [settledMembers]
  rw [hsplit, List.filter_append, List.filter_append, hother before hbefore, hother after hafter,
    List.filter_eq_self.2 hown, List.nil_append, List.append_nil]

/-- A record whose slots do not interfere is decoded to what they all do. -/
theorem record_settled (name : String) (distinct : (Slot.names slots).Nodup)
    (reads : ∀ slot ∈ slots, slot.Reads fields setting) (commute : slots.Pairwise Slot.Commute)
    (present : ∀ field ∈ fields, field.isOptional = true ∨
      field.name ∈ (Slot.members slots).map Prod.fst) (start : β) :
    record name fields start setting (Json.settled (.object (Slot.members slots)))
      = .ok (Slot.result slots start) := by
  have hmembers := (Slot.names_members_sublist slots).nodup distinct
  have hcovers := covers_sorted [] [] (by simpa using hmembers) distinct reads
    (List.forall_mem_nil _) (List.forall_mem_nil _)
  rw [List.nil_append, List.append_nil] at hcovers
  rw [Json.settled_object]
  exact fromMembers_slots distinct reads commute hcovers present start

end Records

/-! ## Values of slots -/

theorem optionalMember_map (name : String) (f : α → Json) (value : Option α) :
    optionalMember name id (value.map f) = optionalMember name f value := by
  cases value <;> rfl

theorem optional_ok {decode : Decoder α} {setting : Setting} {value : Json} {a : α}
    (h : decode setting value = .ok a) (hne : value ≠ .null) :
    optional decode setting value = .ok (some a) := by
  unfold optional
  split
  · exact absurd rfl hne
  · rw [h]
    rfl

end Widgetry.Decoder
