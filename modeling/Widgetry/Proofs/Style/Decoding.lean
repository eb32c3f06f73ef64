import Widgetry.Proofs.Root.Records
import Widgetry.Proofs.Root.Tidy

/-!
Words, numbers, lists, bags and styles are decoded to what they were encoded from. Values of a style
are tidied on the way, and a bucket comes back in the order of its keys.
-/

namespace Widgetry

open Decoder (Slot)

/-! ## Words -/

/-- The word of each member stands for that member. -/
class LawfulSpelling (α : Type) [Spelling α] : Prop where
  ofWord?_word : ∀ a : α, Spelling.ofWord? (Spelling.word a) = some a

instance : LawfulSpelling Axis := ⟨fun a => by cases a <;> rfl⟩
instance : LawfulSpelling ButtonVariant := ⟨fun a => by cases a <;> rfl⟩
instance : LawfulSpelling ButtonSize := ⟨fun a => by cases a <;> rfl⟩
instance : LawfulSpelling ResizeMode := ⟨fun a => by cases a <;> rfl⟩
instance : LawfulSpelling ActionType := ⟨fun a => by cases a <;> rfl⟩
instance : LawfulSpelling BindingSource := ⟨fun a => by cases a <;> rfl⟩
instance : LawfulSpelling NodeType := ⟨fun a => by cases a <;> rfl⟩
instance : LawfulSpelling WidgetFamily := ⟨fun a => by cases a <;> rfl⟩
instance : LawfulSpelling Platform := ⟨fun a => by cases a <;> rfl⟩
instance : LawfulSpelling NamedPolicy := ⟨fun a => by cases a <;> rfl⟩
instance : LawfulSpelling AttributeType := ⟨fun a => by cases a <;> rfl⟩

theorem Decoder.ofWord_word {α : Type} [Spelling α] [LawfulSpelling α] (a : α) :
    (Decoder.ofWord (Spelling.word a) : Decoded α) = .ok a := by
  rw [Decoder.ofWord, LawfulSpelling.ofWord?_word]

theorem Decoder.word_settled {α : Type} [Spelling α] [LawfulSpelling α] (setting : Setting)
    (a : α) : Decoder.word setting (wordJson a).settled = .ok a :=
  Decoder.ofWord_word a

theorem Decoder.optional_word {α : Type} [Spelling α] [LawfulSpelling α] (setting : Setting)
    (a : α) : Decoder.optional Decoder.word setting (wordJson a).settled = .ok (some a) :=
  Decoder.optional_ok (Decoder.word_settled setting a) (by rintro ⟨⟩)

/-! ## Numbers -/

theorem Decoder.float?_ofFloat {x : Float} (finite : x.isFinite = true) :
    Decoder.float? (Json.ofFloat x).settled = some (Double.unsigned x) := by
  simp only [Json.ofFloat]
  split
  · rename_i whole
    rw [Json.settled_integer, Decoder.float?, Double.ofInteger_truncate whole]
  · rename_i notWhole
    obtain ⟨negative, m, e, heq⟩ := (Double.isFinite_iff_ofFloat x).1 finite
    rw [Double.unsigned_of_not_isWhole notWhole, heq]
    simp only [Json.settled_float finite, Decoder.float?]

theorem Decoder.float_ofFloat {x : Float} (finite : x.isFinite = true) (setting : Setting) :
    Decoder.float setting (Json.ofFloat x).settled = .ok (Double.unsigned x) := by
  simp only [Decoder.float, Decoder.float?_ofFloat finite]

theorem Decoder.float_floatJson {x : Float} (finite : x.isFinite = true) (setting : Setting) :
    Decoder.float setting (floatJson x).settled = .ok x := by
  rw [floatJson, Json.settled_float finite]
  rfl

/-! ## Lists and bags -/

theorem Decoder.itemsFrom_map {α γ : Type} {decode : Json → Decoded α} {items : List γ}
    {encode : γ → Json} {out : γ → α} (h : ∀ item ∈ items, decode (encode item) = .ok (out item))
    (position : Nat) :
    Decoder.itemsFrom decode position (items.map encode) = .ok (items.map out) := by
  induction items generalizing position with
  | nil => rfl
  | cons item rest ih =>
    rw [List.map_cons, Decoder.itemsFrom, h item (by simp),
      ih (fun i hi => h i (by simp [hi]))]
    rfl

theorem Decoder.list_settled {α γ : Type} {decode : Decoder α} {setting : Setting}
    {items : List γ} {encode : γ → Json} {out : γ → α}
    (h : ∀ item ∈ items, decode setting (encode item).settled = .ok (out item)) :
    Decoder.list decode setting (Json.settled (.array (items.map encode)))
      = .ok (items.map out) := by
  rw [Json.settled_array, List.map_map]
  exact Decoder.itemsFrom_map h 0

theorem Decoder.membersFrom_map {α γ : Type} {decode : Json → Decoded α} {bag : Bag γ}
    (encode : γ → Json) {out : γ → α}
    (h : ∀ pair ∈ bag, decode (encode pair.2) = .ok (out pair.2)) :
    Decoder.membersFrom decode (bag.map fun pair => (pair.1, encode pair.2))
      = .ok (bag.map fun pair => (pair.1, out pair.2)) := by
  induction bag with
  | nil => rfl
  | cons pair rest ih =>
    rw [List.map_cons, Decoder.membersFrom, h pair (by simp), ih (fun p hp => h p (by simp [hp]))]
    rfl

theorem Decoder.bag_settled {α γ : Type} {decode : Decoder α} {setting : Setting} {bag : Bag γ}
    (encode : γ → Json) (out : γ → α) (distinct : bag.Distinct)
    (h : ∀ pair ∈ bag, decode setting (encode pair.2).settled = .ok (out pair.2)) :
    Decoder.bag decode setting
        (Json.settled (.object (bag.map fun pair => (pair.1, encode pair.2))))
      = .ok ((Bag.sorted bag).map fun pair => (pair.1, out pair.2)) := by
  have hsorted : ∀ pair ∈ Bag.sorted bag,
      decode setting (encode pair.2).settled = .ok (out pair.2) := fun pair hpair =>
    h pair ((Bag.sorted_perm distinct).mem_iff.1 hpair)
  have hordered : Bag.Ordered ((Bag.sorted bag).map fun pair => (pair.1, out pair.2)) := by
    rw [← Bag.sorted_map]
    exact Bag.ordered_sorted _
  rw [Json.settled_object, List.map_map]
  simp only [Function.comp_def]
  rw [Bag.sorted_map fun value => (encode value).settled, Decoder.bag]
  simp only [Decoder.membersFrom_map (fun value => (encode value).settled) hsorted]
  show Except.ok (Bag.ofPairs _) = _
  rw [Bag.ofPairs_of_distinct hordered.distinct]

/-! ## Styles -/

theorem StyleValue.decode_settled {value : StyleValue}
    (finite : ∀ x ∈ value.number?, x.isFinite = true) (setting : Setting) :
    StyleValue.decode setting value.toJson.settled = .ok value.tidied ∧
      value.toJson.settled ≠ .null := by
  cases value with
  | bool b => exact ⟨rfl, by rintro ⟨⟩⟩
  | text text => exact ⟨rfl, by rintro ⟨⟩⟩
  | number x =>
    have hfloat := Decoder.float?_ofFloat (finite x rfl)
    refine ⟨?_, ?_⟩
    · simp only [StyleValue.toJson, StyleValue.decode]
      split
      · rename_i heq
        rw [heq] at hfloat
        cases hfloat
      · rename_i heq
        rw [heq] at hfloat
        cases hfloat
      · rw [hfloat]
        rfl
    · intro hnull
      rw [StyleValue.toJson] at hnull
      rw [hnull] at hfloat
      cases hfloat

namespace Bucket

theorem mem_all (bucket : Bucket) : bucket ∈ all := by
  cases bucket <;> decide

theorem nodup_keys (bucket : Bucket) : (bucket.keys.map Prod.fst).Nodup := by
  cases bucket <;> decide

/-- What has to be looked up to arrange a bag. -/
theorem arrange_congr (bucket : Bucket) {found other : Entries}
    (h : ∀ name, Bag.find? name found = Bag.find? name other) :
    bucket.arrange found = bucket.arrange other := by
  simp only [arrange, h]

theorem arrange_tidiedEntries (bucket : Bucket) (entries : Entries) :
    bucket.arrange (tidiedEntries entries) = tidiedEntries (bucket.arrange entries) := by
  simp only [arrange, tidiedEntries, Bag.find?_map, List.map_filterMap, Option.map_map]
  rfl

theorem names_arrange_sublist (bucket : Bucket) (found : Entries) :
    (bucket.arrange found).names.Sublist (bucket.keys.map Prod.fst) :=
  Bag.names_filterMap_sublist (fun entry => Bag.find? entry.1 found) bucket.keys

/-- The field of a key, which puts its value into the bag. -/
def field (key : String) : Decoder.Field Entries :=
  Decoder.nullable key StyleValue.decode fun found known =>
    match found with
    | some value => Bag.put key value known
    | none => known

def fields (bucket : Bucket) : List (Decoder.Field Entries) :=
  bucket.keys.map fun entry => field entry.1

theorem fieldFor?_fields {bucket : Bucket} {name : String} (h : name ∈ bucket.keys.map Prod.fst) :
    Decoder.fieldFor? bucket.fields name = some (field name) := by
  unfold fields Decoder.fieldFor?
  generalize bucket.keys = keys at h ⊢
  induction keys with
  | nil => cases h
  | cons entry rest ih =>
    by_cases heq : entry.1 = name
    · simp [field, Decoder.nullable, heq]
    · rw [List.map_cons, List.find?_cons_of_neg (by simp [field, Decoder.nullable, heq])]
      exact ih (by simpa [Ne.symm heq] using h)

/-- What the field of a name does for a bag of entries. -/
def step (entries : Entries) (name : String) (known : Entries) : Entries :=
  match Bag.find? name entries with
  | some value => Bag.put name value.tidied known
  | none => known

/-- All fields together put all entries into the bag. -/
theorem foldl_step {entries : Entries} (distinct : entries.Distinct) :
    (entries.map Prod.fst).foldl (fun known name => step entries name known) []
      = tidiedEntries entries := by
  have hstep : ∀ known, ∀ entry ∈ entries,
      step entries entry.1 known = Bag.put entry.1 entry.2.tidied known := by
    intro known entry hentry
    simp only [step, Bag.find?_of_mem distinct hentry]
  have hnames : (tidiedEntries entries).names = entries.names := by
    simp [Bag.names, tidiedEntries, Function.comp_def]
  have hall : Bag.ofPairs (tidiedEntries entries) = tidiedEntries entries :=
    Bag.ofPairs_of_distinct (by rwa [Bag.Distinct, hnames])
  rw [List.foldl_map, List.foldl_ext _ _ _ hstep, ← hall, Bag.ofPairs, Bag.putAll, tidiedEntries,
    List.foldl_map]

theorem record_settled {bucket : Bucket} {entries : Entries} (distinct : entries.Distinct)
    (known : ∀ name ∈ entries.names, name ∈ bucket.keys.map Prod.fst)
    (finite : ∀ entry ∈ entries, ∀ x ∈ entry.2.number?, x.isFinite = true) (setting : Setting) :
    Decoder.record bucket.recordName bucket.fields [] setting (Style.entriesToJson entries).settled
      = .ok (tidiedEntries (Bag.sorted entries)) := by
  have hperm := Bag.sorted_perm distinct
  have hsorted := (Bag.ordered_sorted entries).distinct
  let members := (Bag.sorted entries).map fun entry => (entry.1, entry.2.toJson.settled)
  have hnames : members.map Prod.fst = (Bag.sorted entries).map Prod.fst := by
    simp [members, Function.comp_def]
  -- Every entry is read by the field of its key, which puts it into the bag.
  have hreads : ∀ member ∈ members, ∃ field, Decoder.fieldFor? bucket.fields member.1 = some field ∧
      ∀ known, field.read setting member.2 known
        = .ok (step (Bag.sorted entries) member.1 known) := by
    intro member hmember
    obtain ⟨⟨name, value⟩, hentry, rfl⟩ := List.mem_map.1 hmember
    have hmem := hperm.mem_iff.1 hentry
    obtain ⟨hdecode, hne⟩ := StyleValue.decode_settled (finite _ hmem) setting
    refine ⟨_, fieldFor?_fields (known _ (List.mem_map_of_mem hmem)), fun known => ?_⟩
    simp only [step, Bag.find?_of_mem hsorted hentry, field, Decoder.nullable,
      Decoder.optional_ok hdecode hne]
    rfl
  have hread := Decoder.fieldsFrom_foldl hreads [] (by rw [hnames, List.append_nil]; exact hsorted) []
  have hmissing : ∀ seen, Decoder.missing? bucket.fields seen = none := fun seen => by
    simp [Decoder.missing?, fields, field, Decoder.nullable]
  have hobject : (Style.entriesToJson entries).settled = .object members := by
    rw [Style.entriesToJson, Json.settled_object, List.map_map]
    simp only [Function.comp_def]
    rw [Bag.sorted_map fun value : StyleValue => value.toJson.settled]
  rw [hnames, foldl_step hsorted] at hread
  rw [hobject]
  simp only [Decoder.record, Decoder.fromMembers, hread, hmissing, Bind.bind, Except.bind]

theorem decode_settled {bucket : Bucket} {entries : Entries}
    (proper : bucket.arrange entries = entries)
    (finite : ∀ entry ∈ entries, ∀ x ∈ entry.2.number?, x.isFinite = true) (setting : Setting) :
    bucket.decode setting (Style.entriesToJson entries).settled = .ok (tidiedEntries entries) := by
  have hsublist := bucket.names_arrange_sublist entries
  rw [proper] at hsublist
  have hdistinct : entries.Distinct := hsublist.nodup bucket.nodup_keys
  have hperm := Bag.sorted_perm hdistinct
  have harrange : bucket.arrange (tidiedEntries (Bag.sorted entries)) = tidiedEntries entries := by
    rw [arrange_tidiedEntries, bucket.arrange_congr (Bag.find?_perm hdistinct hperm.symm), proper]
  rw [decode]
  show (do
    let found ← Decoder.record bucket.recordName bucket.fields [] setting
      (Style.entriesToJson entries).settled
    return bucket.arrange found) = _
  rw [record_settled hdistinct (fun _ h => hsublist.subset h) finite, ← harrange]
  rfl

end Bucket

namespace Style

def slots (style : Style) : List (Slot Style) :=
  [.of "layout" (style.layout.map entriesToJson) (style.layout.map fun a => some (tidiedEntries a))
    Style.layout fun a s => { s with layout := a },
   .of "typography" (style.typography.map entriesToJson)
    (style.typography.map fun a => some (tidiedEntries a))
    Style.typography fun a s => { s with typography := a },
   .of "colors" (style.colors.map entriesToJson) (style.colors.map fun a => some (tidiedEntries a))
    Style.colors fun a s => { s with colors := a },
   .of "borders" (style.borders.map entriesToJson)
    (style.borders.map fun a => some (tidiedEntries a))
    Style.borders fun a s => { s with borders := a },
   .of "shadows" (style.shadows.map entriesToJson)
    (style.shadows.map fun a => some (tidiedEntries a))
    Style.shadows fun a s => { s with shadows := a }]

theorem filterMap_cons_toMember {α : Type} (f : α → Option (String × Json)) (a : α) (rest : List α) :
    (a :: rest).filterMap f = (f a).toList ++ rest.filterMap f := by
  rw [List.filterMap_cons]
  cases f a <;> rfl

theorem toJson_eq (style : Style) : style.toJson = .object (Slot.members style.slots) := by
  have hmember : ∀ (name : String) (value : Option Entries),
      (value.map fun entries => (name, entriesToJson entries)).toList
        = optionalMember name entriesToJson value := by
    intro name value
    cases value <;> rfl
  simp only [toJson, Bucket.all, filterMap_cons_toMember, List.filterMap_nil, bucket, Bucket.name,
    hmember, slots, Slot.members_cons, Slot.members_nil, Slot.of, Decoder.optionalMember_map]

theorem decode_settled {style : Style} (proper : style.Proper)
    (finite : ∀ entry ∈ style.entries, ∀ x ∈ entry.2.number?, x.isFinite = true)
    (setting : Setting) : decode setting style.toJson.settled = .ok style.tidied := by
  have hbucket : ∀ bucket, ∀ entries ∈ style.bucket bucket,
      Decoder.optional bucket.decode setting (entriesToJson entries).settled
        = .ok (some (tidiedEntries entries)) := by
    intro bucket entries hentries
    refine Decoder.optional_ok (Bucket.decode_settled (proper bucket entries hentries) ?_ setting)
      (by rintro ⟨⟩)
    intro entry hentry
    refine finite entry (List.mem_flatMap.2 ⟨bucket, bucket.mem_all, ?_⟩)
    rw [Option.mem_def.1 hentries]
    exact hentry
  rw [toJson_eq, decode]
  refine (Decoder.record_settled _ ?distinct ?reads ?commute ?present _).trans ?result
  case distinct => simp [slots, Slot.names, Slot.of]
  case reads =>
    simp only [slots, List.forall_mem_cons, List.not_mem_nil, false_imp_iff, implies_true, and_true]
    exact ⟨Slot.reads_of rfl (fun _ => rfl) (rel_map (hbucket .layout)),
      Slot.reads_of rfl (fun _ => rfl) (rel_map (hbucket .typography)),
      Slot.reads_of rfl (fun _ => rfl) (rel_map (hbucket .colors)),
      Slot.reads_of rfl (fun _ => rfl) (rel_map (hbucket .borders)),
      Slot.reads_of rfl (fun _ => rfl) (rel_map (hbucket .shadows))⟩
  case commute => simp [slots, Slot.Commute, Slot.of]
  case present => simp [Decoder.nullable]
  case result =>
    simp [Slot.result, slots, Slot.of, getD_map_some_comp, tidied, ofBuckets, bucket]

end Style

end Widgetry
