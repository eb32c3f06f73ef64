import Widgetry.Proofs.Root.Decoding
import Widgetry.Root.Validation

/-!
What the rules of the format say about a root and what they cannot see. The numbers of a root that
keeps all rules are finite, and the root still keeps them when it is tidied and its nulls are
dropped.
-/

namespace Widgetry

theorem issueIf_eq_nil {condition : Bool} {path : String} {flaw : Flaw} :
    issueIf condition path flaw = [] ↔ condition = false := by
  cases condition <;> simp [issueIf]

/-! ## Styles -/

theorem inUnit_unsigned (x : Float) : inUnit (Double.unsigned x) = inUnit x := by
  simp only [inUnit, Double.unsigned_le_iff, Double.le_unsigned_iff]

theorem isFinite_of_inUnit {x : Float} (h : inUnit x = true) : x.isFinite = true := by
  simp only [inUnit, Bool.and_eq_true, decide_eq_true_iff, Double.le_iff_unpack] at h
  show x.toModel.unpack.isFinite = true
  cases hx : x.toModel.unpack with
  | notANumber =>
    rw [hx] at h
    cases h.2
  | infinity s =>
    rw [hx] at h
    cases s with
    | positive => cases h.2
    | negative => cases h.1
  | zero s => rfl
  | finite s m e pos => rfl

theorem ValueKind.flaw?_tidied (kind : ValueKind) (value : StyleValue) :
    kind.flaw? value.tidied = kind.flaw? value := by
  cases value with
  | bool b => rfl
  | text text => rfl
  | number x =>
    cases kind with
    | number => simp only [StyleValue.tidied, flaw?, Double.isFinite_unsigned]
    | fraction => simp only [StyleValue.tidied, flaw?, inUnit_unsigned]
    | text => rfl
    | oneOf words => rfl

/-- A number that no rule objects to is finite. -/
theorem ValueKind.isFinite_of_flaw? {kind : ValueKind} {x : Float}
    (h : kind.flaw? (.number x) = none) : x.isFinite = true := by
  cases kind with
  | number =>
    simp only [flaw?] at h
    split at h
    · assumption
    · cases h
  | fraction =>
    simp only [flaw?] at h
    split at h
    · exact isFinite_of_inUnit ‹_›
    · cases h
  | text => cases h
  | oneOf words => cases h

/-- Every entry keeps the rule of its key. -/
def Style.Valid (style : Style) : Prop :=
  ∀ bucket, ∀ entries ∈ style.bucket bucket, ∀ entry ∈ entries,
    ∀ kind ∈ bucket.keys.lookup entry.1, kind.flaw? entry.2 = none

theorem Bucket.issues_eq_nil {path : String} {bucket : Bucket} {entries : Entries} :
    bucket.issues path entries = [] ↔ ∀ entry ∈ entries,
      ∀ kind ∈ bucket.keys.lookup entry.1, kind.flaw? entry.2 = none := by
  simp only [issues, List.filterMap_eq_nil_iff, Option.bind_eq_none_iff, Option.map_eq_none_iff,
    Option.mem_def]

theorem Style.issues_eq_nil {path : String} {style : Style} :
    style.issues path = [] ↔ style.Valid := by
  rw [issues, List.flatMap_eq_nil_iff]
  constructor
  · intro h bucket entries hentries
    have hbucket := h bucket bucket.mem_all
    rw [Option.mem_def.1 hentries] at hbucket
    exact Bucket.issues_eq_nil.1 hbucket
  · intro h bucket _
    split
    · exact Bucket.issues_eq_nil.2 (h bucket _ ‹_›)
    · rfl

theorem Style.Valid.tidied {style : Style} (valid : style.Valid) : style.tidied.Valid := by
  intro bucket entries hentries entry hentry
  rw [bucket_tidied, Option.mem_def, Option.map_eq_some_iff] at hentries
  obtain ⟨written, hwritten, rfl⟩ := hentries
  obtain ⟨old, hold, rfl⟩ := List.mem_map.1 hentry
  intro kind hkind
  rw [ValueKind.flaw?_tidied]
  exact valid bucket written hwritten old hold kind hkind

/-- The numbers of a valid style whose keys are known are finite. -/
theorem Style.Valid.isFinite {style : Style} (valid : style.Valid) (proper : style.Proper)
    {entry : String × StyleValue} (h : entry ∈ style.entries) {x : Float}
    (hx : entry.2.number? = some x) : x.isFinite = true := by
  obtain ⟨bucket, -, hbucket⟩ := List.mem_flatMap.1 h
  cases hentries : style.bucket bucket with
  | none =>
    rw [hentries] at hbucket
    cases hbucket
  | some entries =>
    rw [hentries] at hbucket
    have hkey : entry.1 ∈ bucket.keys.map Prod.fst := by
      apply (bucket.names_arrange_sublist entries).subset
      rw [proper bucket entries hentries]
      exact List.mem_map_of_mem hbucket
    obtain ⟨key, hkey, hname⟩ := List.mem_map.1 hkey
    have hsome : (bucket.keys.lookup entry.1).isSome = true :=
      List.lookup_isSome_iff.2 ⟨key, hkey, beq_iff_eq.2 hname.symm⟩
    obtain ⟨kind, hkind⟩ := Option.isSome_iff_exists.1 hsome
    have hflaw := valid bucket entries hentries entry hbucket kind hkind
    have hvalue : entry.2 = .number x := by
      revert hx
      cases entry.2 <;> simp [StyleValue.number?]
    rw [hvalue] at hflaw
    exact ValueKind.isFinite_of_flaw? hflaw

/-! ## Traits -/

def Action.Valid (action : Action) : Prop :=
  ∀ params ∈ action.params, ∀ param ∈ params, isScalarJson param.2 = true

theorem Action.issues_eq_nil {path : String} {action : Action} :
    action.issues path = [] ↔ action.Valid := by
  cases h : action.params with
  | none => simp [issues, Valid, h]
  | some params => simp [issues, Valid, h, issueIf_eq_nil]

theorem Action.Valid.tidied {action : Action} (valid : action.Valid) : action.tidied.Valid := by
  intro params hparams param hparam
  obtain ⟨written, hwritten, rfl⟩ := Option.map_eq_some_iff.1 hparams
  exact valid written hwritten param (Bag.mem_of_mem_sorted hparam)

/-- What the shared parts of a node have to keep. -/
structure Traits.Valid (traits : Traits) : Prop where
  style : ∀ style ∈ traits.style, style.Valid
  action : ∀ action ∈ traits.action, action.Valid
  key : ∀ binding ∈ traits.dataBinding, Text.isEmptyOrBlank binding.key = false

theorem Traits.issues_eq_nil {path : String} {traits : Traits} :
    traits.issues path = [] ↔ traits.Valid := by
  simp only [issues, List.append_eq_nil_iff]
  refine ⟨fun h => ⟨?_, ?_, ?_⟩, fun h => ⟨⟨?_, ?_⟩, ?_⟩⟩
  · intro style hstyle
    rw [Option.mem_def.1 hstyle] at h
    exact Style.issues_eq_nil.1 h.1.1
  · intro action haction
    rw [Option.mem_def.1 haction] at h
    exact Action.issues_eq_nil.1 h.1.2
  · intro binding hbinding
    rw [Option.mem_def.1 hbinding] at h
    exact issueIf_eq_nil.1 h.2
  · split
    · exact Style.issues_eq_nil.2 (h.style _ ‹_›)
    · rfl
  · split
    · exact Action.issues_eq_nil.2 (h.action _ ‹_›)
    · rfl
  · split
    · exact issueIf_eq_nil.2 (h.key _ ‹_›)
    · rfl

theorem Traits.Valid.tidied {traits : Traits} (valid : traits.Valid) : traits.tidied.Valid where
  style style hstyle := by
    obtain ⟨written, hwritten, rfl⟩ := Option.map_eq_some_iff.1 hstyle
    exact (valid.style written hwritten).tidied
  action action haction := by
    obtain ⟨written, hwritten, rfl⟩ := Option.map_eq_some_iff.1 haction
    exact (valid.action written hwritten).tidied
  key := valid.key

theorem Traits.Valid.withoutNulls {traits : Traits} (valid : traits.Valid) :
    traits.withoutNulls.Valid where
  style := valid.style
  action := valid.action
  key binding hbinding := by
    obtain ⟨written, hwritten, rfl⟩ := Option.map_eq_some_iff.1 hbinding
    exact valid.key written hwritten

theorem Traits.Valid.isFinite {traits : Traits} (valid : traits.Valid) (proper : traits.Proper)
    {x : Float} (h : x ∈ traits.numbers) : x.isFinite = true := by
  obtain ⟨entry, hentry, hx⟩ := List.mem_filterMap.1 h
  cases hstyle : traits.style with
  | none =>
    rw [hstyle] at hentry
    cases hentry
  | some style =>
    rw [hstyle] at hentry
    exact (valid.style style hstyle).isFinite (proper.style style hstyle) hentry hx

/-! ## Nodes -/

namespace Node

/-- What a node itself has to keep beside its traits. -/
def ContentValid : Node → Prop
  | .text _ (.number x) => x.isFinite = true
  | .progressBar _ progress _ => progress.isFinite = true ∧ inUnit progress = true
  | .spacer _ (some flex) => flex.isFinite = true
  | .list _ _ renderItem _ => Text.isEmptyOrBlank renderItem = false
  | _ => True

/-- What a node itself has to keep. -/
structure Valid (node : Node) : Prop where
  traits : node.traits.Valid
  content : node.ContentValid

mutual

theorem issues_eq_nil (node : Node) (path : String) :
    node.issues path = [] ↔ ∀ n ∈ node.nodes, n.Valid := by
  have hself : ∀ {n : Node}, n.Valid ↔ n.ContentValid ∧ n.traits.Valid :=
    ⟨fun h => ⟨h.content, h.traits⟩, fun h => ⟨h.2, h.1⟩⟩
  cases node with
  | view traits children =>
    simp only [issues, nodes, List.forall_mem_cons, List.append_eq_nil_iff,
      childIssues_eq_nil children, Traits.issues_eq_nil, hself]
    simp only [ContentValid, true_and]
    exact and_comm
  | stack traits axis children =>
    simp only [issues, nodes, List.forall_mem_cons, List.append_eq_nil_iff,
      childIssues_eq_nil children, Traits.issues_eq_nil, hself]
    simp only [ContentValid, true_and]
    exact and_comm
  | text traits content =>
    cases content <;>
      simp [issues, nodes, issueIf_eq_nil, Traits.issues_eq_nil, hself, ContentValid, Node.traits]
  | spacer traits flex =>
    cases flex <;>
      simp [issues, nodes, issueIf_eq_nil, Traits.issues_eq_nil, hself, ContentValid, Node.traits]
  | button traits label variant size =>
    simp [issues, nodes, Traits.issues_eq_nil, hself, ContentValid, Node.traits]
  | image traits uri resizeMode placeholder =>
    simp [issues, nodes, Traits.issues_eq_nil, hself, ContentValid, Node.traits]
  | progressBar traits progress indeterminate =>
    simp [issues, nodes, issueIf_eq_nil, Traits.issues_eq_nil, hself, ContentValid, Node.traits]
  | list traits items renderItem horizontal =>
    simp [issues, nodes, issueIf_eq_nil, Traits.issues_eq_nil, hself, ContentValid, Node.traits]

theorem childIssues_eq_nil (children : List Node) (path : String) (position : Nat) :
    childIssues path position children = [] ↔ ∀ n ∈ nodesAll children, n.Valid := by
  cases children with
  | nil => simp [childIssues, nodesAll]
  | cons child rest =>
    rw [childIssues, nodesAll, List.append_eq_nil_iff, List.forall_mem_append,
      issues_eq_nil child, childIssues_eq_nil rest]

end

mutual

theorem nodes_tidied (node : Node) : node.tidied.nodes = node.nodes.map tidied := by
  cases node with
  | view traits children => simp [tidied, nodes, nodesAll_tidiedAll children]
  | stack traits axis children => simp [tidied, nodes, nodesAll_tidiedAll children]
  | _ => rfl

theorem nodesAll_tidiedAll (children : List Node) :
    nodesAll (tidiedAll children) = (nodesAll children).map tidied := by
  cases children with
  | nil => rfl
  | cons child rest =>
    simp only [tidiedAll, nodesAll, List.map_append, nodes_tidied child, nodesAll_tidiedAll rest]

end

mutual

theorem nodes_withoutNulls (node : Node) :
    node.withoutNulls.nodes = node.nodes.map withoutNulls := by
  cases node with
  | view traits children => simp [withoutNulls, nodes, nodesAll_withoutNullsAll children]
  | stack traits axis children => simp [withoutNulls, nodes, nodesAll_withoutNullsAll children]
  | _ => rfl

theorem nodesAll_withoutNullsAll (children : List Node) :
    nodesAll (withoutNullsAll children) = (nodesAll children).map withoutNulls := by
  cases children with
  | nil => rfl
  | cons child rest =>
    simp only [withoutNullsAll, nodesAll, List.map_append, nodes_withoutNulls child,
      nodesAll_withoutNullsAll rest]

end

theorem Valid.tidied {node : Node} (valid : node.Valid) : node.tidied.Valid where
  traits := by
    rw [traits_tidied]
    exact valid.traits.tidied
  content := by
    have h := valid.content
    cases node with
    | text traits content =>
      cases content with
      | number x => exact (Double.isFinite_unsigned x).trans h
      | string s => trivial
    | spacer traits flex =>
      cases flex with
      | none => trivial
      | some x => exact (Double.isFinite_unsigned x).trans h
    | progressBar traits progress indeterminate =>
      exact ⟨(Double.isFinite_unsigned progress).trans h.1, (inUnit_unsigned progress).trans h.2⟩
    | list traits items renderItem horizontal => exact h
    | _ => trivial

theorem Valid.withoutNulls {node : Node} (valid : node.Valid) : node.withoutNulls.Valid where
  traits := by
    rw [traits_withoutNulls]
    exact valid.traits.withoutNulls
  content := by
    have h := valid.content
    cases node with
    | text traits content => cases content <;> exact h
    | spacer traits flex => cases flex <;> exact h
    | _ => exact h

theorem Valid.isFinite {node : Node} (valid : node.Valid) (proper : node.Proper) {x : Float}
    (h : x ∈ node.numbers) : x.isFinite = true := by
  have htraits : x ∈ node.traits.numbers → x.isFinite = true := valid.traits.isFinite proper.traits
  have hcontent := valid.content
  cases node with
  | text traits content =>
    cases content with
    | number value => exact (List.mem_cons.1 h).elim (fun heq => heq ▸ hcontent) htraits
    | string s => exact htraits h
  | spacer traits flex =>
    cases flex with
    | none => exact htraits h
    | some value => exact (List.mem_cons.1 h).elim (fun heq => heq ▸ hcontent) htraits
  | progressBar traits progress indeterminate =>
    exact (List.mem_cons.1 h).elim (fun heq => heq ▸ hcontent.1) htraits
  | _ => exact htraits h

end Node

/-! ## Roots -/

structure Timeline.Valid (timeline : Timeline) : Prop where
  minutes : ∀ minutes, timeline.policy = some (.custom minutes) →
    minutes.isFinite = true ∧ minutes > 0
  dates : ∀ entry ∈ timeline.entries.getD [], Text.isEmptyOrBlank entry.date = false

theorem entryIssues_eq_nil (entries : List TimelineEntry) (path : String) (position : Nat) :
    entryIssues path position entries = []
      ↔ ∀ entry ∈ entries, Text.isEmptyOrBlank entry.date = false := by
  induction entries generalizing position with
  | nil => simp [entryIssues]
  | cons entry rest ih =>
    rw [entryIssues, List.append_eq_nil_iff, issueIf_eq_nil, ih, List.forall_mem_cons]

theorem Timeline.issues_eq_nil {timeline : Timeline} :
    timeline.issues = [] ↔ timeline.Valid := by
  rw [issues, List.append_eq_nil_iff, entryIssues_eq_nil]
  constructor
  · intro h
    refine ⟨fun minutes hminutes => ?_, h.2⟩
    rw [hminutes] at h
    simpa [issueIf_eq_nil] using h.1
  · intro h
    refine ⟨?_, h.dates⟩
    split
    · rename_i minutes hminutes
      obtain ⟨hfinite, hpositive⟩ := h.minutes minutes hminutes
      simp [issueIf_eq_nil, hfinite, hpositive]
    · rfl

theorem Timeline.Valid.withoutNulls {timeline : Timeline} (valid : timeline.Valid) :
    timeline.withoutNulls.Valid where
  minutes := valid.minutes
  dates := by
    intro entry hentry
    have hdates := valid.dates
    cases hentries : timeline.entries with
    | none => simp [Timeline.withoutNulls, hentries] at hentry
    | some entries =>
      simp only [Timeline.withoutNulls, hentries, Option.map_some, Option.getD_some,
        List.mem_map] at hentry
      obtain ⟨written, hwritten, rfl⟩ := hentry
      rw [hentries] at hdates
      exact hdates written hwritten

structure Widget.Valid (widget : Widget) : Prop where
  kind : Text.isEmptyOrBlank widget.kind = false
  families : widget.families ≠ []
  timeline : ∀ timeline ∈ widget.timeline, timeline.Valid

theorem Widget.issues_eq_nil {widget : Widget} : widget.issues = [] ↔ widget.Valid := by
  simp only [issues, List.append_eq_nil_iff, issueIf_eq_nil, List.isEmpty_eq_false_iff]
  constructor
  · intro h
    refine ⟨h.1.1, h.1.2, fun timeline htimeline => ?_⟩
    rw [Option.mem_def.1 htimeline] at h
    exact Timeline.issues_eq_nil.1 h.2
  · intro h
    refine ⟨⟨h.kind, h.families⟩, ?_⟩
    split
    · exact Timeline.issues_eq_nil.2 (h.timeline _ ‹_›)
    · rfl

structure LiveActivity.Valid (activity : LiveActivity) : Prop where
  activityType : Text.isEmptyOrBlank activity.activityType = false
  score : ∀ score ∈ activity.relevanceScore, score.isFinite = true
  regions : ∀ node ∈ activity.regions.nodes, ∀ n ∈ node.nodes, n.Valid

theorem LiveActivity.issues_eq_nil {activity : LiveActivity} :
    activity.issues = [] ↔ activity.Valid := by
  have hregions : (activity.regionNodes.flatMap fun region =>
      region.2.issues ("liveActivity." ++ region.1)) = []
        ↔ ∀ node ∈ activity.regions.nodes, ∀ n ∈ node.nodes, n.Valid := by
    simp only [← activity.map_snd_regionNodes, List.flatMap_eq_nil_iff, Node.issues_eq_nil,
      List.forall_mem_map]
  have hscore : (activity.relevanceScore.any fun score => !score.isFinite) = false
      ↔ ∀ score ∈ activity.relevanceScore, score.isFinite = true := by
    cases activity.relevanceScore <;> simp
  rw [issues, List.append_eq_nil_iff, List.append_eq_nil_iff, issueIf_eq_nil, issueIf_eq_nil,
    hregions, hscore]
  exact ⟨fun h => ⟨h.1.1, h.1.2, h.2⟩, fun h => ⟨⟨h.activityType, h.score⟩, h.regions⟩⟩

def DataProvider.Valid (provider : DataProvider) : Prop :=
  ∀ interval ∈ provider.refreshInterval, interval.isFinite = true ∧ interval ≥ 0

theorem DataProvider.issues_eq_nil {provider : DataProvider} :
    provider.issues = [] ↔ provider.Valid := by
  rw [issues, issueIf_eq_nil, Valid]
  cases provider.refreshInterval with
  | none => simp
  | some interval => simp

theorem ActivityRegions.nodes_map (regions : ActivityRegions) (f : Node → Node) :
    (regions.map f).nodes = regions.nodes.map f := by
  have htoList : ∀ node : Option Node, (node.map f).toList = node.toList.map f := by
    intro node
    cases node <;> rfl
  cases h : regions.dynamicIsland with
  | none => simp [nodes, map, h, htoList]
  | some island => simp [nodes, map, h, htoList, DynamicIsland.nodes, DynamicIsland.map]

namespace Root

/-- A root that keeps all rules. -/
structure Valid (root : Root) : Prop where
  version : root.version = currentVersion
  rootId : Text.isEmptyOrBlank root.rootId = false
  tree : ∀ n ∈ root.tree.nodes, n.Valid
  widget : ∀ widget ∈ root.widget, widget.Valid
  activity : ∀ activity ∈ root.liveActivity, activity.Valid
  provider : ∀ provider ∈ root.dataProvider, provider.Valid

theorem issues_eq_nil {root : Root} : root.issues = [] ↔ root.Valid := by
  simp only [issues, List.append_eq_nil_iff, issueIf_eq_nil, Node.issues_eq_nil, bne_eq_false_iff_eq]
  constructor
  · rintro ⟨⟨⟨⟨⟨hversion, hid⟩, htree⟩, hwidget⟩, hactivity⟩, hprovider⟩
    refine ⟨hversion, hid, htree, fun widget h => ?_, fun activity h => ?_, fun provider h => ?_⟩
    · rw [Option.mem_def.1 h] at hwidget
      exact Widget.issues_eq_nil.1 hwidget
    · rw [Option.mem_def.1 h] at hactivity
      exact LiveActivity.issues_eq_nil.1 hactivity
    · rw [Option.mem_def.1 h] at hprovider
      exact DataProvider.issues_eq_nil.1 hprovider
  · intro h
    refine ⟨⟨⟨⟨⟨h.version, h.rootId⟩, h.tree⟩, ?_⟩, ?_⟩, ?_⟩
    · split
      · exact Widget.issues_eq_nil.2 (h.widget _ ‹_›)
      · rfl
    · split
      · exact LiveActivity.issues_eq_nil.2 (h.activity _ ‹_›)
      · rfl
    · split
      · exact DataProvider.issues_eq_nil.2 (h.provider _ ‹_›)
      · rfl

/-- What is accepted are exactly the roots that keep all rules. -/
theorem check_eq_ok_iff {root : Root} : root.check = .ok () ↔ root.Valid := by
  rw [← issues_eq_nil, check]
  cases root.issues with
  | nil => simp
  | cons issue rest => simp

theorem Valid.nodes {root : Root} (valid : root.Valid) : ∀ n ∈ root.nodes, n.Valid := by
  intro n hn
  rcases mem_nodes_iff.1 hn with h | ⟨activity, hactivity, node, hnode, h⟩
  · exact valid.tree n h
  · exact (valid.activity activity hactivity).regions node hnode n h

theorem Valid.finite {root : Root} (valid : root.Valid) (proper : root.Proper) : root.Finite where
  numbers n hn _ hx := (valid.nodes n hn).isFinite (proper.nodes n hn) hx
  minutes widget hwidget timeline htimeline x hx :=
    (((valid.widget widget hwidget).timeline timeline htimeline).minutes x hx).1
  score activity hactivity := (valid.activity activity hactivity).score
  interval provider hprovider x hx := (valid.provider provider hprovider x hx).1

theorem Valid.tidied {root : Root} (valid : root.Valid) : root.tidied.Valid where
  version := valid.version
  rootId := valid.rootId
  tree n hn := by
    simp only [Root.tidied, Node.nodes_tidied] at hn
    obtain ⟨written, hwritten, rfl⟩ := List.mem_map.1 hn
    exact (valid.tree written hwritten).tidied
  widget := valid.widget
  activity activity hactivity := by
    obtain ⟨written, hwritten, rfl⟩ := Option.map_eq_some_iff.1 hactivity
    have h := valid.activity written hwritten
    refine ⟨h.activityType, h.score, ?_⟩
    simp only [LiveActivity.tidied, ActivityRegions.nodes_map, List.forall_mem_map,
      Node.nodes_tidied]
    exact fun node hnode n hn => (h.regions node hnode n hn).tidied
  provider provider hprovider := by
    obtain ⟨written, hwritten, rfl⟩ := Option.map_eq_some_iff.1 hprovider
    exact valid.provider written hwritten

theorem Valid.withoutNulls {root : Root} (valid : root.Valid) : root.withoutNulls.Valid where
  version := valid.version
  rootId := valid.rootId
  tree n hn := by
    simp only [Root.withoutNulls, Node.nodes_withoutNulls] at hn
    obtain ⟨written, hwritten, rfl⟩ := List.mem_map.1 hn
    exact (valid.tree written hwritten).withoutNulls
  widget widget hwidget := by
    obtain ⟨written, hwritten, rfl⟩ := Option.map_eq_some_iff.1 hwidget
    have h := valid.widget written hwritten
    refine ⟨h.kind, h.families, fun timeline htimeline => ?_⟩
    obtain ⟨old, hold, rfl⟩ := Option.map_eq_some_iff.1 htimeline
    exact (h.timeline old hold).withoutNulls
  activity activity hactivity := by
    obtain ⟨written, hwritten, rfl⟩ := Option.map_eq_some_iff.1 hactivity
    have h := valid.activity written hwritten
    refine ⟨h.activityType, h.score, ?_⟩
    simp only [LiveActivity.withoutNulls, ActivityRegions.nodes_map, List.forall_mem_map,
      Node.nodes_withoutNulls]
    exact fun node hnode n hn => (h.regions node hnode n hn).withoutNulls
  provider := valid.provider

/-! ### Nodes of changed roots -/

theorem nodes_eq (root : Root) : root.nodes = root.tree.nodes
    ++ (root.liveActivity.elim [] fun activity => activity.regions.nodes).flatMap Node.nodes := by
  rw [Root.nodes]
  cases root.liveActivity with
  | none => rfl
  | some activity => simp [← activity.map_snd_regionNodes, List.flatMap_map]

theorem nodes_map {root other : Root} {f : Node → Node}
    (hf : ∀ node : Node, (f node).nodes = node.nodes.map f) (htree : other.tree = f root.tree)
    (hregions : (other.liveActivity.elim [] fun activity => activity.regions.nodes)
      = (root.liveActivity.elim [] fun activity => activity.regions.nodes).map f) :
    other.nodes = root.nodes.map f := by
  rw [nodes_eq, nodes_eq, htree, hregions, hf, List.map_append, List.flatMap_map, List.map_flatMap]
  simp only [hf]

theorem nodes_tidied (root : Root) : root.tidied.nodes = root.nodes.map Node.tidied := by
  refine nodes_map Node.nodes_tidied rfl ?_
  cases h : root.liveActivity <;>
    simp [Root.tidied, h, LiveActivity.tidied, ActivityRegions.nodes_map]

theorem nodes_withoutNulls (root : Root) :
    root.withoutNulls.nodes = root.nodes.map Node.withoutNulls := by
  refine nodes_map Node.nodes_withoutNulls rfl ?_
  cases h : root.liveActivity <;>
    simp [Root.withoutNulls, h, LiveActivity.withoutNulls, ActivityRegions.nodes_map]

end Root

end Widgetry
