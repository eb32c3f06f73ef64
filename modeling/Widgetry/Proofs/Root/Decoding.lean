import Widgetry.Proofs.Node.Decoding

/-!
Decoding undoes encoding. For every part of a root there is one statement: the settled JSON of a
proper part is decoded to the part itself, tidied and without its nulls.
-/

namespace Widgetry

open Decoder (Slot)

/-! ## Widgets -/

theorem getD_map_isFinite (value : Option Float) :
    (value.map fun x => if x.isFinite then some x else none).getD none
      = value.filter Float.isFinite := by
  cases value with
  | none => rfl
  | some x => cases h : x.isFinite <;> simp [Option.filter, h]

theorem Decoder.optional_floatJson (x : Float) (setting : Setting) :
    Decoder.optional Decoder.float setting (floatJson x).settled
      = .ok (if x.isFinite then some x else none) := by
  cases h : x.isFinite with
  | true =>
    refine Decoder.optional_ok (Decoder.float_floatJson h setting) ?_
    rw [floatJson, Json.settled_float h]
    rintro ⟨⟩
  | false =>
    rw [floatJson, Json.settled_infinite h]
    rfl

namespace TimelinePolicy

def customSlots (minutes : Float) : List (Slot Float) :=
  [.of "type" (some (.string "custom")) (some CustomPolicy.custom) (fun _ => .custom) fun _ s => s,
   .of "minutes" (some (floatJson minutes)) (some minutes) id fun a _ => a]

theorem decode_settled {policy : TimelinePolicy}
    (finite : ∀ x, policy = .custom x → x.isFinite = true) (setting : Setting) :
    decode setting policy.toJson.settled = .ok policy := by
  cases policy with
  | named policy => simp only [decode, toJson, Decoder.word_settled]
  | custom minutes =>
    have hjson : toJson (.custom minutes) = .object (Slot.members (customSlots minutes)) := rfl
    -- An object with two members is no word.
    have hword : ∃ failure, (Decoder.word .inPlace (toJson (.custom minutes)).settled
        : Decoded NamedPolicy) = .error failure := by
      simp only [toJson, Json.settled_object, List.map_cons, List.map_nil, Bag.sorted,
        List.foldl_cons, List.foldl_nil, Bag.insertSorted, String.reduceLT, if_true]
      exact ⟨_, rfl⟩
    obtain ⟨failure, hword⟩ := hword
    simp only [decode, hword]
    rw [hjson, Decoder.record_settled]
    · rfl
    · simp [customSlots, Slot.names, Slot.of]
    · simp only [customSlots, List.forall_mem_cons, List.not_mem_nil, false_imp_iff, implies_true,
        and_true]
      exact ⟨Slot.reads_of rfl (fun _ => rfl) (.some rfl),
        Slot.reads_of rfl (fun _ => rfl)
          (.some (Decoder.float_floatJson (finite minutes rfl) .inPlace))⟩
    · simp [customSlots, Slot.Commute, Slot.of]
    · simp [Decoder.required, customSlots, Slot.of, optionalMember]

end TimelinePolicy

namespace TimelineEntry

def slots (entry : TimelineEntry) : List (Slot TimelineEntry) :=
  [.of "date" (some (.string entry.date)) (some entry.date) TimelineEntry.date
    fun a s => { s with date := a },
   .of "relevance" (entry.relevance.map floatJson)
    (entry.relevance.map fun x => if x.isFinite then some x else none) TimelineEntry.relevance
    fun a s => { s with relevance := a },
   .of "content" (entry.content.map id)
    (entry.content.map fun v => if v.isNull then none else some v) TimelineEntry.content
    fun a s => { s with content := a }]

theorem decode_settled {entry : TimelineEntry} (proper : ∀ value ∈ entry.content, value.Proper)
    (setting : Setting) : decode setting entry.toJson.settled = .ok entry.withoutNulls := by
  have hjson : entry.toJson = .object (Slot.members entry.slots) := by
    simp only [toJson, slots, Slot.members_cons, Slot.members_nil, Slot.of,
      Decoder.optionalMember_map, List.append_nil, List.append_assoc]
    rfl
  rw [hjson, decode]
  refine (Decoder.record_settled _ ?distinct ?reads ?commute ?present _).trans ?result
  case distinct => simp [slots, Slot.names, Slot.of]
  case reads =>
    simp only [slots, List.forall_mem_cons, List.not_mem_nil, false_imp_iff, implies_true, and_true]
    exact ⟨Slot.reads_of rfl (fun _ => rfl) (.some rfl),
      Slot.reads_of rfl (fun _ => rfl)
        (rel_map fun x _ => Decoder.optional_floatJson x setting),
      Slot.reads_of rfl (fun _ => rfl)
        (rel_map fun v hv => Decoder.optional_json (proper v hv) setting)⟩
  case commute => simp [slots, Slot.Commute, Slot.of]
  case present => simp [Decoder.nullable, Decoder.required, slots, Slot.of, optionalMember]
  case result =>
    simp [Slot.result, slots, Slot.of, getD_map_isFinite, getD_map_isNull, withoutNulls]

end TimelineEntry

namespace Timeline

def slots (timeline : Timeline) : List (Slot Timeline) :=
  [.of "entries" (timeline.entries.map fun entries => .array (entries.map TimelineEntry.toJson))
    (timeline.entries.map fun entries => some (entries.map TimelineEntry.withoutNulls))
    Timeline.entries fun a s => { s with entries := a },
   .of "policy" (timeline.policy.map TimelinePolicy.toJson) (timeline.policy.map some)
    Timeline.policy fun a s => { s with policy := a }]

theorem decode_settled {timeline : Timeline}
    (proper : ∀ entries ∈ timeline.entries, ∀ entry ∈ entries, ∀ value ∈ entry.content,
      value.Proper)
    (finite : ∀ x, timeline.policy = some (.custom x) → x.isFinite = true) (setting : Setting) :
    decode setting timeline.toJson.settled = .ok timeline.withoutNulls := by
  have hjson : timeline.toJson = .object (Slot.members timeline.slots) := by
    simp only [toJson, slots, Slot.members_cons, Slot.members_nil, Slot.of,
      Decoder.optionalMember_map, List.append_nil]
  rw [hjson, decode]
  refine (Decoder.record_settled _ ?distinct ?reads ?commute ?present _).trans ?result
  case distinct => simp [slots, Slot.names, Slot.of]
  case reads =>
    simp only [slots, List.forall_mem_cons, List.not_mem_nil, false_imp_iff, implies_true, and_true]
    refine ⟨Slot.reads_of rfl (fun _ => rfl) (rel_map fun entries hentries => ?_),
      Slot.reads_of rfl (fun _ => rfl) (rel_map fun policy hpolicy => ?_)⟩
    · exact Decoder.optional_ok (Decoder.list_settled fun entry hentry =>
        TimelineEntry.decode_settled (proper entries hentries entry hentry) setting)
        (by rintro ⟨⟩)
    · refine Decoder.optional_ok (TimelinePolicy.decode_settled ?_ setting) ?_
      · rintro x rfl
        exact finite x hpolicy
      · cases policy <;> rintro ⟨⟩
  case commute => simp [slots, Slot.Commute, Slot.of]
  case present => simp [Decoder.nullable]
  case result =>
    simp [Slot.result, slots, Slot.of, getD_map_some, getD_map_some_comp, withoutNulls]

end Timeline

namespace Widget

def slots (widget : Widget) : List (Slot Widget) :=
  [.of "kind" (some (.string widget.kind)) (some widget.kind) Widget.kind
    fun a s => { s with kind := a },
   .of "displayName" (widget.displayName.map .string) (widget.displayName.map some)
    Widget.displayName fun a s => { s with displayName := a },
   .of "description" (widget.description.map .string) (widget.description.map some)
    Widget.description fun a s => { s with description := a },
   .of "families" (some (.array (widget.families.map wordJson))) (some widget.families)
    Widget.families fun a s => { s with families := a },
   .of "supportedPlatforms" (widget.supportedPlatforms.map fun platforms =>
      .array (platforms.map wordJson))
    (widget.supportedPlatforms.map some) Widget.supportedPlatforms
    fun a s => { s with supportedPlatforms := a },
   .of "configurable" (widget.configurable.map .bool) (widget.configurable.map some)
    Widget.configurable fun a s => { s with configurable := a },
   .of "timeline" (widget.timeline.map Timeline.toJson)
    (widget.timeline.map fun timeline => some timeline.withoutNulls) Widget.timeline
    fun a s => { s with timeline := a }]

theorem words_settled {α : Type} [Spelling α] [LawfulSpelling α] (words : List α)
    (setting : Setting) :
    Decoder.list Decoder.word setting (Json.settled (.array (words.map wordJson))) = .ok words := by
  have h : Decoder.list Decoder.word setting (Json.settled (.array (words.map wordJson)))
      = .ok (words.map id) := Decoder.list_settled fun word _ => Decoder.word_settled setting word
  rwa [List.map_id] at h

theorem decode_settled {widget : Widget}
    (proper : ∀ timeline ∈ widget.timeline, ∀ entries ∈ timeline.entries, ∀ entry ∈ entries,
      ∀ value ∈ entry.content, value.Proper)
    (finite : ∀ timeline ∈ widget.timeline, ∀ x, timeline.policy = some (.custom x) →
      x.isFinite = true) (setting : Setting) :
    decode setting widget.toJson.settled = .ok widget.withoutNulls := by
  have hjson : widget.toJson = .object (Slot.members widget.slots) := by
    simp only [toJson, slots, Slot.members_cons, Slot.members_nil, Slot.of,
      Decoder.optionalMember_map, List.append_nil, List.append_assoc]
    rfl
  rw [hjson, decode]
  refine (Decoder.record_settled _ ?distinct ?reads ?commute ?present _).trans ?result
  case distinct => simp [slots, Slot.names, Slot.of]
  case reads =>
    simp only [slots, List.forall_mem_cons, List.not_mem_nil, false_imp_iff, implies_true, and_true]
    exact ⟨Slot.reads_of rfl (fun _ => rfl) (.some rfl),
      Slot.reads_of rfl (fun _ => rfl) (rel_map fun _ _ => rfl),
      Slot.reads_of rfl (fun _ => rfl) (rel_map fun _ _ => rfl),
      Slot.reads_of rfl (fun _ => rfl) (.some (words_settled widget.families setting)),
      Slot.reads_of rfl (fun _ => rfl) (rel_map fun platforms _ =>
        Decoder.optional_ok (words_settled platforms setting) (by rintro ⟨⟩)),
      Slot.reads_of rfl (fun _ => rfl) (rel_map fun _ _ => rfl),
      Slot.reads_of rfl (fun _ => rfl) (rel_map fun timeline htimeline =>
        Decoder.optional_ok (Timeline.decode_settled (proper timeline htimeline)
          (finite timeline htimeline) setting) (by rintro ⟨⟩))⟩
  case commute => simp [slots, Slot.Commute, Slot.of]
  case present => simp [Decoder.nullable, Decoder.required, slots, Slot.of, optionalMember]
  case result =>
    simp [Slot.result, slots, Slot.of, getD_map_some, getD_map_some_comp, withoutNulls]

end Widget

/-! ## Live activities -/

namespace ActivityAttributes

def slots (attributes : ActivityAttributes) : List (Slot ActivityAttributes) :=
  [.of "static" (some (attributesJson attributes.fixed)) (some (Bag.sorted attributes.fixed))
    ActivityAttributes.fixed fun a s => { s with fixed := a },
   .of "dynamic" (some (attributesJson attributes.changing)) (some (Bag.sorted attributes.changing))
    ActivityAttributes.changing fun a s => { s with changing := a }]

theorem bag_settled {bag : Bag AttributeType} (distinct : bag.Distinct) (setting : Setting) :
    Decoder.bag Decoder.word setting (attributesJson bag).settled = .ok (Bag.sorted bag) := by
  have h := Decoder.bag_settled wordJson id distinct fun pair _ =>
    Decoder.word_settled setting pair.2
  simpa [attributesJson] using h

theorem decode_settled {attributes : ActivityAttributes} (fixed : attributes.fixed.Distinct)
    (changing : attributes.changing.Distinct) (setting : Setting) :
    decode setting attributes.toJson.settled = .ok attributes.tidied := by
  have hjson : attributes.toJson = .object (Slot.members attributes.slots) := rfl
  rw [hjson, decode]
  refine (Decoder.record_settled _ ?distinct ?reads ?commute ?present _).trans rfl
  case distinct => simp [slots, Slot.names, Slot.of]
  case reads =>
    simp only [slots, List.forall_mem_cons, List.not_mem_nil, false_imp_iff, implies_true, and_true]
    exact ⟨Slot.reads_of rfl (fun _ => rfl) (.some (bag_settled fixed setting)),
      Slot.reads_of rfl (fun _ => rfl) (.some (bag_settled changing setting))⟩
  case commute => simp [slots, Slot.Commute, Slot.of]
  case present => simp [Decoder.defaulted]

end ActivityAttributes

/-- Trees that a text can hold. -/
def Node.Sound (node : Node) : Prop :=
  ∀ n ∈ node.nodes, n.Proper ∧ ∀ x ∈ n.numbers, x.isFinite = true

theorem Node.Sound.decode {node : Node} (sound : node.Sound) (setting : Setting) :
    Node.decode setting node.toJson.settled = .ok node.withoutNulls.tidied :=
  decode_settled node (fun n hn => (sound n hn).1) (fun n hn => (sound n hn).2) setting

theorem Node.settled_ne_null (node : Node) : node.toJson.settled ≠ .null := by
  cases node <;> rintro ⟨⟩

theorem Node.Sound.optional {node : Node} (sound : node.Sound) (setting : Setting) :
    Decoder.optional Node.decode setting node.toJson.settled
      = .ok (some node.withoutNulls.tidied) :=
  Decoder.optional_ok (sound.decode setting) node.settled_ne_null

namespace DynamicIsland

def slots (island : DynamicIsland) : List (Slot DynamicIsland) :=
  [.of "compact" (island.compact.map Node.toJson)
    (island.compact.map fun node => some node.withoutNulls.tidied) DynamicIsland.compact
    fun a s => { s with compact := a },
   .of "minimal" (island.minimal.map Node.toJson)
    (island.minimal.map fun node => some node.withoutNulls.tidied) DynamicIsland.minimal
    fun a s => { s with minimal := a },
   .of "expanded" (island.expanded.map Node.toJson)
    (island.expanded.map fun node => some node.withoutNulls.tidied) DynamicIsland.expanded
    fun a s => { s with expanded := a }]

theorem decode_settled {island : DynamicIsland} (sound : ∀ node ∈ island.nodes, node.Sound)
    (setting : Setting) :
    decode setting island.toJson.settled
      = .ok (island.map fun node => node.withoutNulls.tidied) := by
  have hjson : island.toJson = .object (Slot.members island.slots) := by
    simp only [toJson, slots, Slot.members_cons, Slot.members_nil, Slot.of,
      Decoder.optionalMember_map, List.append_nil, List.append_assoc]
  simp only [nodes, List.forall_mem_append, Option.mem_toList] at sound
  rw [hjson, decode]
  refine (Decoder.record_settled _ ?distinct ?reads ?commute ?present _).trans ?result
  case distinct => simp [slots, Slot.names, Slot.of]
  case reads =>
    simp only [slots, List.forall_mem_cons, List.not_mem_nil, false_imp_iff, implies_true, and_true]
    exact ⟨Slot.reads_of rfl (fun _ => rfl)
        (rel_map fun node h => (sound.1.1 node h).optional setting),
      Slot.reads_of rfl (fun _ => rfl)
        (rel_map fun node h => (sound.1.2 node h).optional setting),
      Slot.reads_of rfl (fun _ => rfl)
        (rel_map fun node h => (sound.2 node h).optional setting)⟩
  case commute => simp [slots, Slot.Commute, Slot.of]
  case present => simp [Decoder.nullable]
  case result => simp [Slot.result, slots, Slot.of, getD_map_some_comp, map]

end DynamicIsland

namespace ActivityRegions

def slots (regions : ActivityRegions) : List (Slot ActivityRegions) :=
  [.of "lockScreen" (regions.lockScreen.map Node.toJson)
    (regions.lockScreen.map fun node => some node.withoutNulls.tidied) ActivityRegions.lockScreen
    fun a s => { s with lockScreen := a },
   .of "dynamicIsland" (regions.dynamicIsland.map DynamicIsland.toJson)
    (regions.dynamicIsland.map fun island => some
      (island.map fun node => node.withoutNulls.tidied))
    ActivityRegions.dynamicIsland fun a s => { s with dynamicIsland := a }]

theorem decode_settled {regions : ActivityRegions} (sound : ∀ node ∈ regions.nodes, node.Sound)
    (setting : Setting) :
    decode setting regions.toJson.settled
      = .ok (regions.map fun node => node.withoutNulls.tidied) := by
  have hjson : regions.toJson = .object (Slot.members regions.slots) := by
    simp only [toJson, slots, Slot.members_cons, Slot.members_nil, Slot.of,
      Decoder.optionalMember_map, List.append_nil]
  simp only [nodes, List.forall_mem_append, Option.mem_toList] at sound
  rw [hjson, decode]
  refine (Decoder.record_settled _ ?distinct ?reads ?commute ?present _).trans ?result
  case distinct => simp [slots, Slot.names, Slot.of]
  case reads =>
    simp only [slots, List.forall_mem_cons, List.not_mem_nil, false_imp_iff, implies_true, and_true]
    refine ⟨Slot.reads_of rfl (fun _ => rfl)
        (rel_map fun node h => (sound.1 node h).optional setting),
      Slot.reads_of rfl (fun _ => rfl) (rel_map fun island h => ?_)⟩
    rw [Option.mem_def.1 h] at sound
    exact Decoder.optional_ok (DynamicIsland.decode_settled sound.2 setting) (by rintro ⟨⟩)
  case commute => simp [slots, Slot.Commute, Slot.of]
  case present => simp [Decoder.nullable]
  case result =>
    simp only [Slot.result, slots, Slot.of, List.foldl_cons, List.foldl_nil, getD_map_some_comp]
    rfl

end ActivityRegions

namespace LiveActivity

def slots (activity : LiveActivity) : List (Slot LiveActivity) :=
  [.of "activityType" (some (.string activity.activityType)) (some activity.activityType)
    LiveActivity.activityType fun a s => { s with activityType := a },
   .of "attributes" (some activity.attributes.toJson) (some activity.attributes.tidied)
    LiveActivity.attributes fun a s => { s with attributes := a },
   .of "regions" (some activity.regions.toJson)
    (some (activity.regions.map fun node => node.withoutNulls.tidied)) LiveActivity.regions
    fun a s => { s with regions := a },
   .of "staleDate" (activity.staleDate.map .string) (activity.staleDate.map some)
    LiveActivity.staleDate fun a s => { s with staleDate := a },
   .of "relevanceScore" (activity.relevanceScore.map floatJson)
    (activity.relevanceScore.map some) LiveActivity.relevanceScore
    fun a s => { s with relevanceScore := a }]

theorem decode_settled {activity : LiveActivity} (fixed : activity.attributes.fixed.Distinct)
    (changing : activity.attributes.changing.Distinct)
    (sound : ∀ node ∈ activity.regions.nodes, node.Sound)
    (finite : ∀ x ∈ activity.relevanceScore, x.isFinite = true) (setting : Setting) :
    decode setting activity.toJson.settled = .ok activity.withoutNulls.tidied := by
  have hjson : activity.toJson = .object (Slot.members activity.slots) := by
    simp only [toJson, slots, Slot.members_cons, Slot.members_nil, Slot.of,
      Decoder.optionalMember_map, List.append_nil, List.append_assoc]
    rfl
  rw [hjson, decode]
  refine (Decoder.record_settled _ ?distinct ?reads ?commute ?present _).trans ?result
  case distinct => simp [slots, Slot.names, Slot.of]
  case reads =>
    simp only [slots, List.forall_mem_cons, List.not_mem_nil, false_imp_iff, implies_true, and_true]
    refine ⟨Slot.reads_of rfl (fun _ => rfl) (.some rfl),
      Slot.reads_of rfl (fun _ => rfl)
        (.some (ActivityAttributes.decode_settled fixed changing setting)),
      Slot.reads_of rfl (fun _ => rfl) (.some (ActivityRegions.decode_settled sound setting)),
      Slot.reads_of rfl (fun _ => rfl) (rel_map fun _ _ => rfl),
      Slot.reads_of rfl (fun _ => rfl) (rel_map fun x hx => ?_)⟩
    rw [Decoder.optional_floatJson, if_pos (finite x hx)]
  case commute => simp [slots, Slot.Commute, Slot.of]
  case present => simp [Decoder.nullable, Decoder.required, slots, Slot.of, optionalMember]
  case result =>
    simp [Slot.result, slots, Slot.of, getD_map_some, withoutNulls, tidied, ActivityRegions.map_map]

end LiveActivity

/-! ## Roots -/

namespace DataProvider

def slots (provider : DataProvider) : List (Slot DataProvider) :=
  [.of "endpoint" (provider.endpoint.map .string) (provider.endpoint.map some)
    DataProvider.endpoint fun a s => { s with endpoint := a },
   .of "refreshInterval" (provider.refreshInterval.map floatJson)
    (provider.refreshInterval.map some) DataProvider.refreshInterval
    fun a s => { s with refreshInterval := a },
   .of "headers"
    (provider.headers.map fun headers =>
      .object (headers.map fun header => (header.1, .string header.2)))
    (provider.headers.map fun headers => some (Bag.sorted headers)) DataProvider.headers
    fun a s => { s with headers := a }]

theorem decode_settled {provider : DataProvider}
    (distinct : ∀ headers ∈ provider.headers, Bag.Distinct headers)
    (finite : ∀ x ∈ provider.refreshInterval, x.isFinite = true) (setting : Setting) :
    decode setting provider.toJson.settled = .ok provider.tidied := by
  have hjson : provider.toJson = .object (Slot.members provider.slots) := by
    simp only [toJson, slots, Slot.members_cons, Slot.members_nil, Slot.of,
      Decoder.optionalMember_map, List.append_nil, List.append_assoc]
  have hheaders : ∀ headers ∈ provider.headers, Decoder.bag Decoder.string setting
      (Json.settled (.object (headers.map fun header => (header.1, .string header.2))))
        = .ok (Bag.sorted headers) := by
    intro headers hheaders
    simpa using Decoder.bag_settled Json.string id (distinct headers hheaders) fun _ _ => rfl
  rw [hjson, decode]
  refine (Decoder.record_settled _ ?distinct ?reads ?commute ?present _).trans ?result
  case distinct => simp [slots, Slot.names, Slot.of]
  case reads =>
    simp only [slots, List.forall_mem_cons, List.not_mem_nil, false_imp_iff, implies_true, and_true]
    refine ⟨Slot.reads_of rfl (fun _ => rfl) (rel_map fun _ _ => rfl),
      Slot.reads_of rfl (fun _ => rfl) (rel_map fun x hx => ?_),
      Slot.reads_of rfl (fun _ => rfl) (rel_map fun headers h =>
        Decoder.optional_ok (hheaders headers h) (by rintro ⟨⟩))⟩
    rw [Decoder.optional_floatJson, if_pos (finite x hx)]
  case commute => simp [slots, Slot.Commute, Slot.of]
  case present => simp [Decoder.nullable]
  case result => simp [Slot.result, slots, Slot.of, getD_map_some, getD_map_some_comp, tidied]

end DataProvider

namespace Root

/-- The numbers that have to be finite are. -/
structure Finite (root : Root) : Prop where
  numbers : ∀ node ∈ root.nodes, ∀ x ∈ node.numbers, x.isFinite = true
  minutes : ∀ widget ∈ root.widget, ∀ timeline ∈ widget.timeline, ∀ x,
    timeline.policy = some (.custom x) → x.isFinite = true
  score : ∀ activity ∈ root.liveActivity, ∀ x ∈ activity.relevanceScore, x.isFinite = true
  interval : ∀ provider ∈ root.dataProvider, ∀ x ∈ provider.refreshInterval, x.isFinite = true

def slots (root : Root) : List (Slot Root) :=
  [.of "version" (some (.ofNat root.version)) (some root.version) Root.version
    fun a s => { s with version := a },
   .of "rootId" (some (.string root.rootId)) (some root.rootId) Root.rootId
    fun a s => { s with rootId := a },
   .of "tree" (some root.tree.toJson) (some root.tree.withoutNulls.tidied) Root.tree
    fun a s => { s with tree := a },
   .of "widget" (root.widget.map Widget.toJson)
    (root.widget.map fun widget => some widget.withoutNulls) Root.widget
    fun a s => { s with widget := a },
   .of "liveActivity" (root.liveActivity.map LiveActivity.toJson)
    (root.liveActivity.map fun activity => some activity.withoutNulls.tidied) Root.liveActivity
    fun a s => { s with liveActivity := a },
   .of "dataProvider" (root.dataProvider.map DataProvider.toJson)
    (root.dataProvider.map fun provider => some provider.tidied) Root.dataProvider
    fun a s => { s with dataProvider := a }]

theorem toJson_eq (root : Root) : root.toJson = .object (Slot.members root.slots) := by
  simp only [toJson, slots, Slot.members_cons, Slot.members_nil, Slot.of,
    Decoder.optionalMember_map, List.append_nil, List.append_assoc]
  rfl

theorem sound_tree {root : Root} (proper : root.Proper) (finite : root.Finite) :
    root.tree.Sound := fun n hn =>
  have h : n ∈ root.nodes := List.mem_append_left _ hn
  ⟨proper.nodes n h, finite.numbers n h⟩

theorem sound_regions {root : Root} (proper : root.Proper) (finite : root.Finite)
    {activity : LiveActivity} (h : activity ∈ root.liveActivity) :
    ∀ node ∈ activity.regions.nodes, node.Sound := by
  intro node hnode n hn
  rw [← activity.map_snd_regionNodes] at hnode
  obtain ⟨region, hregion, rfl⟩ := List.mem_map.1 hnode
  have hmem : n ∈ root.nodes := by
    refine List.mem_append_right _ (List.mem_flatMap.2 ⟨region, ?_, hn⟩)
    rw [Option.mem_def.1 h]
    exact hregion
  exact ⟨proper.nodes n hmem, finite.numbers n hmem⟩

theorem proper_contents {root : Root} (proper : root.Proper) {widget : Widget}
    (h : widget ∈ root.widget) : ∀ timeline ∈ widget.timeline, ∀ entries ∈ timeline.entries,
      ∀ entry ∈ entries, ∀ value ∈ entry.content, value.Proper := by
  intro timeline htimeline entries hentries entry hentry
  refine proper.contents entry ?_
  simp only [Root.entries, Option.mem_def.1 h, Option.mem_def.1 htimeline,
    Option.mem_def.1 hentries, Option.bind_some, Option.getD_some]
  exact hentry

theorem decode_settled {root : Root} (proper : root.Proper) (finite : root.Finite)
    (version : root.version < 2 ^ 32) :
    decode root.toJson.settled = .ok root.withoutNulls.tidied := by
  rw [toJson_eq, decode]
  refine (Decoder.record_settled _ ?distinct ?reads ?commute ?present _).trans ?result
  case distinct => simp [slots, Slot.names, Slot.of]
  case reads =>
    simp only [slots, List.forall_mem_cons, List.not_mem_nil, false_imp_iff, implies_true, and_true]
    refine ⟨Slot.reads_of rfl (fun _ => rfl) (.some ?_),
      Slot.reads_of rfl (fun _ => rfl) (.some rfl),
      Slot.reads_of rfl (fun _ => rfl) (.some ((sound_tree proper finite).decode .inPlace)),
      Slot.reads_of rfl (fun _ => rfl) (rel_map fun widget h => ?_),
      Slot.reads_of rfl (fun _ => rfl) (rel_map fun activity h => ?_),
      Slot.reads_of rfl (fun _ => rfl) (rel_map fun provider h => ?_)⟩
    · rw [Json.ofNat, Json.settled_integer]
      simp only [Decoder.word32]
      rw [if_pos (by omega), Int.toNat_natCast]
    · exact Decoder.optional_ok (Widget.decode_settled (proper_contents proper h)
        (finite.minutes widget h) .inPlace) (by rintro ⟨⟩)
    · obtain ⟨hfixed, hchanging⟩ := proper.attributes activity h
      exact Decoder.optional_ok (LiveActivity.decode_settled hfixed hchanging
        (sound_regions proper finite h) (finite.score activity h) .inPlace) (by rintro ⟨⟩)
    · exact Decoder.optional_ok (DataProvider.decode_settled (proper.headers provider h)
        (finite.interval provider h) .inPlace) (by rintro ⟨⟩)
  case commute => simp [slots, Slot.Commute, Slot.of]
  case present => simp [Decoder.nullable, Decoder.required, slots, Slot.of, optionalMember]
  case result =>
    simp [Slot.result, slots, Slot.of, getD_map_some_comp, withoutNulls, tidied,
      Function.comp_def]

end Root

end Widgetry
