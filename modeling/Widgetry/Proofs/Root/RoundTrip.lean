import Widgetry.Proofs.Root.Validity

/-!
Reading undoes writing. The text of a valid root is read as the root itself, tidied and without its
nulls, unless it nests too deeply to be read at all. Main statement: a valid root in which nothing is
null and every number can be written is read back from both of its texts.
-/

namespace Widgetry

/-! ## Integers that can be written -/

namespace Json

@[simp] theorem sized_array {items : List Json} :
    (array items).Sized ↔ ∀ item ∈ items, item.Sized :=
  sizedItems_iff

@[simp] theorem sized_object {members : List (String × Json)} :
    (object members).Sized ↔ ∀ member ∈ members, member.2.Sized :=
  sizedMembers_iff

@[simp] theorem sized_string (s : String) : (string s).Sized := trivial

@[simp] theorem sized_bool (b : Bool) : (bool b).Sized := trivial

@[simp] theorem sized_ofFloat (x : Float) : (ofFloat x).Sized :=
  sized_of_proper _ (proper_ofFloat x)

end Json

@[simp] theorem sized_wordJson {α : Type} [Spelling α] (a : α) : (wordJson a).Sized := trivial

@[simp] theorem sized_floatJson (x : Float) : (floatJson x).Sized := trivial

theorem sized_optionalMember {α : Type} {name : String} {encode : α → Json} {value : Option α} :
    (∀ member ∈ optionalMember name encode value, member.2.Sized)
      ↔ ∀ a ∈ value, (encode a).Sized := by
  cases value <;> simp [optionalMember]

theorem StyleValue.sized_toJson (value : StyleValue) : value.toJson.Sized := by
  cases value with
  | bool b => trivial
  | number x => exact Json.sized_ofFloat x
  | text s => trivial

theorem Style.sized_toJson (style : Style) : style.toJson.Sized := by
  simp only [toJson, Json.sized_object, List.mem_filterMap, Option.map_eq_some_iff]
  rintro member ⟨bucket, -, entries, -, rfl⟩
  simp only [entriesToJson, Json.sized_object, List.forall_mem_map]
  exact fun entry _ => entry.2.sized_toJson

theorem Accessibility.sized_toJson (a : Accessibility) : a.toJson.Sized := by
  simp only [toJson, Json.sized_object, List.forall_mem_append, sized_optionalMember,
    Json.sized_string, Json.sized_bool, implies_true, and_self]

theorem Action.Proper.sized_toJson {action : Action} (proper : action.Proper) :
    action.toJson.Sized := by
  simp only [toJson, Json.sized_object, List.forall_mem_append, List.forall_mem_singleton,
    sized_optionalMember, Json.sized_string, sized_wordJson, implies_true, true_and, and_true]
  exact fun params hparams param hparam =>
    Json.sized_of_proper _ ((proper params hparams).2 param hparam)

theorem DataBinding.sized_toJson {binding : DataBinding}
    (proper : ∀ value ∈ binding.fallback, value.Proper) : binding.toJson.Sized := by
  simp only [toJson, Json.sized_object, List.forall_mem_append, List.forall_mem_cons,
    List.not_mem_nil, false_imp_iff, sized_optionalMember, Json.sized_string, sized_wordJson,
    implies_true, true_and, and_true]
  exact fun value hvalue => Json.sized_of_proper _ (proper value hvalue)

theorem Traits.Proper.sized_members {traits : Traits} (proper : traits.Proper) :
    ∀ member ∈ traits.members, member.2.Sized := by
  simp only [members, List.forall_mem_append, sized_optionalMember, Json.sized_string,
    implies_true, Style.sized_toJson, Accessibility.sized_toJson, true_and]
  exact ⟨fun action haction => (proper.action action haction).sized_toJson,
    fun binding hbinding => DataBinding.sized_toJson (proper.fallback binding hbinding)⟩

theorem TextContent.sized_toJson (content : TextContent) : content.toJson.Sized := by
  cases content with
  | number x => exact Json.sized_ofFloat x
  | string s => trivial

namespace Node

mutual

theorem sized_toJson (node : Node) (proper : ∀ n ∈ node.nodes, n.Proper) : node.toJson.Sized := by
  have hself := proper node node.mem_nodes_self
  have htraits : ∀ member ∈ node.traits.members, member.2.Sized := hself.traits.sized_members
  have hitems : ∀ item ∈ node.items, item.Sized := fun item hitem =>
    Json.sized_of_proper _ (hself.items item hitem)
  cases node with
  | view traits children =>
    rw [nodes, List.forall_mem_cons] at proper
    simp only [toJson, Json.sized_object, Json.sized_array, List.forall_mem_append,
      List.forall_mem_cons, List.not_mem_nil, false_imp_iff, implies_true, Json.sized_string,
      true_and, and_true]
    exact ⟨sized_allToJson children proper.2, htraits⟩
  | stack traits axis children =>
    rw [nodes, List.forall_mem_cons] at proper
    simp only [toJson, Json.sized_object, Json.sized_array, List.forall_mem_append,
      List.forall_mem_cons, List.not_mem_nil, false_imp_iff, implies_true, Json.sized_string,
      sized_wordJson, true_and, and_true]
    exact ⟨sized_allToJson children proper.2, htraits⟩
  | list traits items renderItem horizontal =>
    simp only [toJson, Json.sized_object, Json.sized_array, List.forall_mem_append,
      List.forall_mem_cons, List.not_mem_nil, false_imp_iff, implies_true, Json.sized_string,
      sized_optionalMember, Json.sized_bool, true_and, and_true]
    exact ⟨hitems, htraits⟩
  | _ =>
    simp only [toJson, Json.sized_object, List.forall_mem_append, List.forall_mem_cons,
      List.not_mem_nil, false_imp_iff, implies_true, Json.sized_string, Json.sized_bool,
      sized_wordJson, Json.sized_ofFloat, TextContent.sized_toJson, sized_optionalMember,
      true_and, and_true]
    exact htraits

theorem sized_allToJson (children : List Node) (proper : ∀ n ∈ nodesAll children, n.Proper) :
    ∀ item ∈ allToJson children, item.Sized := by
  cases children with
  | nil => simp [allToJson]
  | cons child rest =>
    rw [nodesAll, List.forall_mem_append] at proper
    rw [allToJson, List.forall_mem_cons]
    exact ⟨sized_toJson child proper.1, sized_allToJson rest proper.2⟩

end

end Node

theorem TimelinePolicy.sized_toJson (policy : TimelinePolicy) : policy.toJson.Sized := by
  cases policy with
  | named policy => trivial
  | custom minutes => simp [toJson]

theorem Timeline.sized_toJson {timeline : Timeline}
    (proper : ∀ entries ∈ timeline.entries, ∀ entry ∈ entries, ∀ value ∈ entry.content,
      value.Proper) : timeline.toJson.Sized := by
  simp only [toJson, Json.sized_object, List.forall_mem_append, sized_optionalMember,
    TimelinePolicy.sized_toJson, implies_true, and_true, Json.sized_array, List.forall_mem_map]
  intro entries hentries entry hentry
  simp only [TimelineEntry.toJson, Json.sized_object, List.forall_mem_append,
    List.forall_mem_singleton, sized_optionalMember, Json.sized_string, sized_floatJson,
    implies_true, true_and]
  exact fun value hvalue => Json.sized_of_proper _ (proper entries hentries entry hentry value hvalue)

theorem Widget.sized_toJson {widget : Widget}
    (proper : ∀ timeline ∈ widget.timeline, ∀ entries ∈ timeline.entries, ∀ entry ∈ entries,
      ∀ value ∈ entry.content, value.Proper) : widget.toJson.Sized := by
  simp only [toJson, Json.sized_object, List.forall_mem_append, List.forall_mem_singleton,
    sized_optionalMember, Json.sized_string, Json.sized_bool, Json.sized_array,
    List.forall_mem_map, sized_wordJson, implies_true, true_and]
  exact fun timeline htimeline => Timeline.sized_toJson (proper timeline htimeline)

theorem attributesJson_sized (attributes : Bag AttributeType) :
    (attributesJson attributes).Sized := by
  simp only [attributesJson, Json.sized_object, List.forall_mem_map, sized_wordJson, implies_true]

theorem LiveActivity.sized_toJson {activity : LiveActivity}
    (proper : ∀ node ∈ activity.regions.nodes, ∀ n ∈ node.nodes, n.Proper) :
    activity.toJson.Sized := by
  simp only [ActivityRegions.nodes, List.forall_mem_append, Option.mem_toList] at proper
  simp only [toJson, ActivityAttributes.toJson, ActivityRegions.toJson, DynamicIsland.toJson,
    Json.sized_object, List.forall_mem_append, List.forall_mem_cons, List.not_mem_nil,
    false_imp_iff, sized_optionalMember, Json.sized_string, sized_floatJson, attributesJson_sized,
    implies_true, true_and, and_true]
  refine ⟨fun node hnode => node.sized_toJson (proper.1 node hnode), fun island hisland => ?_⟩
  rw [Option.mem_def.1 hisland] at proper
  simp only [Option.elim_some, DynamicIsland.nodes, List.forall_mem_append,
    Option.mem_toList] at proper
  exact ⟨⟨fun node hnode => node.sized_toJson (proper.2.1.1 node hnode),
    fun node hnode => node.sized_toJson (proper.2.1.2 node hnode)⟩,
    fun node hnode => node.sized_toJson (proper.2.2 node hnode)⟩

theorem DataProvider.sized_toJson (provider : DataProvider) : provider.toJson.Sized := by
  simp only [toJson, Json.sized_object, List.forall_mem_append, sized_optionalMember,
    Json.sized_string, sized_floatJson, List.forall_mem_map, implies_true, and_self]

theorem Root.Proper.sized_toJson {root : Root} (proper : root.Proper)
    (version : root.version < 2 ^ 32) : root.toJson.Sized := by
  have hversion : (Json.ofNat root.version).Sized := by
    show Json.InWord _
    simp only [Json.InWord]
    omega
  simp only [toJson, Json.sized_object, List.forall_mem_append, List.forall_mem_cons,
    List.not_mem_nil, false_imp_iff, sized_optionalMember, Json.sized_string, implies_true,
    DataProvider.sized_toJson, hversion, true_and, and_true]
  have hnodes := proper.nodes
  simp only [Root.mem_nodes_iff] at hnodes
  exact ⟨⟨root.tree.sized_toJson fun n hn => hnodes n (.inl hn),
    fun widget h => Widget.sized_toJson (Root.proper_contents proper h)⟩,
    fun activity h => LiveActivity.sized_toJson fun node hnode n hn =>
      hnodes n (.inr ⟨activity, h, node, hnode, hn⟩)⟩

/-! ## Reading the text of a root -/

theorem Json.member?_settled {members : List (String × Json)} (distinct : Bag.Distinct members)
    (name : String) :
    (Json.object members).settled.member? name = (Bag.find? name members).map settled := by
  have hdistinct : Bag.Distinct (members.map fun member => (member.1, member.2.settled)) := by
    simpa [Bag.Distinct, Bag.names, Function.comp_def] using distinct
  rw [settled_object, member?, Bag.find?_perm hdistinct (Bag.sorted_perm hdistinct).symm,
    Bag.find?_map]

namespace Root

theorem distinct_members (root : Root) : Bag.Distinct (Decoder.Slot.members root.slots) :=
  (Decoder.Slot.names_members_sublist root.slots).nodup
    (by simp [slots, Decoder.Slot.names, Decoder.Slot.of])

theorem claimedVersion?_settled (root : Root) :
    claimedVersion? root.toJson.settled = some root.version := by
  have hmember : root.toJson.settled.member? "version" = some (.number (.integer root.version)) := by
    rw [toJson_eq, Json.member?_settled root.distinct_members]
    rfl
  simp [claimedVersion?, hmember]

/-- What is read from the JSON of a valid root. -/
theorem ofJson_settled {root : Root} (proper : root.Proper) (valid : root.Valid) :
    ofJson root.toJson.settled = .ok root.withoutNulls.tidied := by
  have hversion : root.version < 2 ^ 32 := by
    rw [valid.version]
    decide
  have hdecode := decode_settled proper (valid.finite proper) hversion
  have hcheck := check_eq_ok_iff.2 valid.withoutNulls.tidied
  simp only [ofJson, claimedVersion?_settled, hdecode, valid.version, bne_self_eq_false,
    Bool.false_eq_true, if_false, hcheck]
  rfl

/-- A root that nests too deeply is not read back; every other one is, without what its text does
not say. -/
theorem parse_printed {root : Root} (proper : root.Proper) (valid : root.Valid)
    (stable : ∀ x ∈ root.toJson.floats, x.isFinite = true → Json.Stable x) {text : String}
    (printed : text = root.toJson.compact ∨ text = root.toJson.pretty) :
    parse text = if root.toJson.depth ≤ Json.maxDepth then .ok root.withoutNulls.tidied
      else .error .notJson := by
  have hversion : root.version < 2 ^ 32 := by
    rw [valid.version]
    decide
  have hprintable := Json.printable_of_sized _ (proper.sized_toJson hversion) stable
  rw [parse, Json.read?_printed hprintable printed]
  by_cases hdepth : root.toJson.depth ≤ Json.maxDepth
  · rw [if_pos hdepth, if_pos hdepth]
    exact ofJson_settled proper valid
  · rw [if_neg hdepth, if_neg hdepth]

end Root

/-! ## Nothing to drop -/

theorem Json.isNull_eq_true_iff {v : Json} : v.isNull = true ↔ v = .null := by
  cases v <;> simp [isNull]

theorem filter_isNull {value : Option Json} (h : value ≠ some .null) :
    (value.filter fun v => !v.isNull) = value := by
  cases value with
  | none => rfl
  | some v =>
    have hnull : v.isNull = false := by
      rw [Bool.eq_false_iff, Ne, Json.isNull_eq_true_iff]
      rintro rfl
      exact h rfl
    simp [Option.filter, hnull]

theorem Traits.withoutNulls_eq {traits : Traits}
    (h : ∀ binding ∈ traits.dataBinding, binding.fallback ≠ some .null) :
    traits.withoutNulls = traits := by
  obtain ⟨key, style, accessibility, action, dataBinding⟩ := traits
  cases dataBinding with
  | none => rfl
  | some binding => simp only [withoutNulls, Option.map_some, filter_isNull (h binding rfl)]

namespace Node

mutual

theorem withoutNulls_eq (node : Node)
    (h : ∀ n ∈ node.nodes, ∀ binding ∈ n.traits.dataBinding, binding.fallback ≠ some .null) :
    node.withoutNulls = node := by
  have hself := Traits.withoutNulls_eq (h node node.mem_nodes_self)
  cases node with
  | view traits children =>
    rw [nodes, List.forall_mem_cons] at h
    rw [withoutNulls, withoutNullsAll_eq children h.2]
    exact congrArg (Node.view · children) hself
  | stack traits axis children =>
    rw [nodes, List.forall_mem_cons] at h
    rw [withoutNulls, withoutNullsAll_eq children h.2]
    exact congrArg (Node.stack · axis children) hself
  | _ =>
    simp only [withoutNulls, hself]
    rfl

theorem withoutNullsAll_eq (children : List Node)
    (h : ∀ n ∈ nodesAll children, ∀ binding ∈ n.traits.dataBinding,
      binding.fallback ≠ some .null) : withoutNullsAll children = children := by
  cases children with
  | nil => rfl
  | cons child rest =>
    rw [nodesAll, List.forall_mem_append] at h
    rw [withoutNullsAll, withoutNulls_eq child h.1, withoutNullsAll_eq rest h.2]

end

end Node

theorem TimelineEntry.withoutNulls_eq {entry : TimelineEntry}
    (content : entry.content ≠ some .null)
    (relevance : ∀ x ∈ entry.relevance, x.isFinite = true) : entry.withoutNulls = entry := by
  have hrelevance : entry.relevance.filter Float.isFinite = entry.relevance := by
    cases h : entry.relevance with
    | none => rfl
    | some x => simp [Option.filter, relevance x h]
  simp only [withoutNulls, filter_isNull content, hrelevance]

theorem ActivityRegions.map_eq_self {regions : ActivityRegions} {f : Node → Node}
    (h : ∀ node ∈ regions.nodes, f node = node) : regions.map f = regions := by
  simp only [nodes, List.forall_mem_append, Option.mem_toList] at h
  have hisland : regions.dynamicIsland.map (DynamicIsland.map f) = regions.dynamicIsland := by
    refine optionMap_eq_self fun island hisland => ?_
    rw [Option.mem_def.1 hisland] at h
    simp only [Option.elim_some, DynamicIsland.nodes, List.forall_mem_append,
      Option.mem_toList] at h
    simp only [DynamicIsland.map, optionMap_eq_self h.2.1.1, optionMap_eq_self h.2.1.2,
      optionMap_eq_self h.2.2]
  simp only [map, optionMap_eq_self h.1, hisland]

namespace Root

theorem withoutNulls_eq {root : Root}
    (fallbacks : ∀ binding ∈ root.bindings, binding.fallback ≠ some .null)
    (contents : ∀ entry ∈ root.entries, entry.content ≠ some .null)
    (relevances : ∀ entry ∈ root.entries, ∀ x ∈ entry.relevance, x.isFinite = true) :
    root.withoutNulls = root := by
  have hbindings : ∀ n ∈ root.nodes, ∀ binding ∈ n.traits.dataBinding,
      binding.fallback ≠ some .null := fun n hn binding hbinding =>
    fallbacks binding (List.mem_filterMap.2 ⟨n, hn, hbinding⟩)
  have htree : root.tree.withoutNulls = root.tree := root.tree.withoutNulls_eq fun n hn =>
    hbindings n (mem_nodes_iff.2 (.inl hn))
  have hwidget : root.widget.map Widget.withoutNulls = root.widget := by
    refine optionMap_eq_self fun widget hwidget => ?_
    have htimeline : widget.timeline.map Timeline.withoutNulls = widget.timeline := by
      refine optionMap_eq_self fun timeline htimeline => ?_
      have hentries : timeline.entries.map (List.map TimelineEntry.withoutNulls)
          = timeline.entries := by
        refine optionMap_eq_self fun entries hentries => ?_
        have hmem : ∀ entry ∈ entries, entry ∈ root.entries := by
          simp only [Root.entries, Option.mem_def.1 hwidget, Option.mem_def.1 htimeline,
            Option.mem_def.1 hentries, Option.bind_some, Option.getD_some, imp_self, implies_true]
        refine (List.map_congr_left fun entry hentry => ?_).trans (List.map_id entries)
        exact TimelineEntry.withoutNulls_eq (contents entry (hmem entry hentry))
          (relevances entry (hmem entry hentry))
      rw [Timeline.withoutNulls, hentries]
    rw [Widget.withoutNulls, htimeline]
  have hactivity : root.liveActivity.map LiveActivity.withoutNulls = root.liveActivity := by
    refine optionMap_eq_self fun activity hactivity => ?_
    rw [LiveActivity.withoutNulls, ActivityRegions.map_eq_self]
    intro node hnode
    exact node.withoutNulls_eq fun n hn =>
      hbindings n (mem_nodes_iff.2 (.inr ⟨activity, hactivity, node, hnode, hn⟩))
  rw [withoutNulls, htree, hwidget, hactivity]

/-- A valid root in which nothing is null is read back from both of its texts; only the order of
named values and the signs of zeros that are written as whole numbers are not. -/
theorem parse_text_eq_tidied {root : Root} (proper : root.Proper) (valid : root.check = .ok ())
    (fallbacks : ∀ binding ∈ root.bindings, binding.fallback ≠ some .null)
    (contents : ∀ entry ∈ root.entries, entry.content ≠ some .null)
    (relevances : ∀ entry ∈ root.entries, ∀ x ∈ entry.relevance, x.isFinite = true)
    (depth : root.toJson.depth ≤ 127) (stable : ∀ x ∈ root.toJson.floats, Json.Stable x) :
    parse root.toJson.compact = .ok root.tidied ∧ parse root.toJson.pretty = .ok root.tidied := by
  have hdepth : root.toJson.depth ≤ Json.maxDepth := depth
  have hparse : ∀ text, text = root.toJson.compact ∨ text = root.toJson.pretty →
      parse text = .ok root.tidied := by
    intro text printed
    rw [parse_printed proper (check_eq_ok_iff.1 valid) (fun x hx _ => stable x hx) printed,
      if_pos hdepth, withoutNulls_eq fallbacks contents relevances]
  exact ⟨hparse _ (.inl rfl), hparse _ (.inr rfl)⟩

/-- Named values that are out of order, a zero with a sign and a number that is not whole. -/
def gauge : Root where
  version := 1
  rootId := "gauge"
  tree := .view {}
    [.spacer {} (some (-0.0)),
     .progressBar
      { action := some { type := .custom, params := some [("b", .string "x"), ("a", .bool true)] }
        dataBinding := some { source := .remote, key := "level", fallback := some (.bool false) } }
      0.5 none]
  liveActivity := some
    { activityType := "Gauge", attributes := { fixed := [("to", .string), ("from", .string)] } }

theorem proper_gauge : gauge.Proper where
  nodes := by
    have hempty : Traits.Proper {} := ⟨nofun, nofun, nofun⟩
    show ∀ node ∈ [_, _, _], Node.Proper node
    simp only [List.forall_mem_cons, List.not_mem_nil, false_imp_iff, implies_true, and_true]
    refine ⟨⟨hempty, nofun⟩, ⟨hempty, nofun⟩, ⟨⟨nofun, ?_, ?_⟩, nofun⟩⟩
    · rintro action ⟨⟩ params ⟨⟩
      simp [Bag.Distinct, Bag.names, Json.Proper]
    · rintro binding ⟨⟩ value ⟨⟩
      trivial
  contents := nofun
  attributes := by
    rintro activity ⟨⟩
    simp [Bag.Distinct, Bag.names]
  headers := nofun

theorem check_gauge : gauge.check = .ok () :=
  check_eq_ok_iff.2 (issues_eq_nil.1 (List.isEmpty_iff.1 (by decide +kernel)))

theorem stable_gauge : ∀ x ∈ gauge.toJson.floats, Json.Stable x := by
  have hbits : ∀ x ∈ gauge.toJson.floats, x.toBits = (0.5 : Float).toBits := by decide +kernel
  intro x hx
  rw [Float.toBits_inj.1 (hbits x hx)]
  exact Json.stable_half

theorem parse_text_gauge : gauge.check = .ok () ∧ (∀ x ∈ gauge.toJson.floats, Json.Stable x) ∧
    parse gauge.toJson.compact = .ok gauge.tidied ∧
      parse gauge.toJson.pretty = .ok gauge.tidied := by
  refine ⟨check_gauge, stable_gauge,
    parse_text_eq_tidied proper_gauge check_gauge ?_ nofun nofun ?_ stable_gauge⟩
  · rintro binding hbinding
    obtain rfl := List.mem_singleton.1 hbinding
    nofun
  · decide +kernel

end Root

end Widgetry
