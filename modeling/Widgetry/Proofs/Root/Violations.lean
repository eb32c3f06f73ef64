import Widgetry.Proofs.Root.Sites
import Widgetry.Proofs.Root.Validity
import Widgetry.Proofs.Style.Normalizing

/-!
The rules of the format and the issues that tell of them. A site is a field that a rule is about. The
issues of a root are told apart by their paths, because no two sites have the same path. Main
statement: there is one issue for each site at which a rule is violated, and no other issue.
-/

namespace Widgetry

/-! ## Rules of nodes -/

/-- What a value has to be. -/
def ValueKind.Admits : ValueKind → StyleValue → Prop
  | .number, .number x => x.isFinite = true
  | .fraction, .number x => 0 ≤ x ∧ x ≤ 1
  | .text, .text _ => True
  | .oneOf words, .text s => s ∈ words
  | _, _ => False

/-- What is said about a value that is not admitted. -/
def ValueKind.complaint : ValueKind → Flaw
  | .number => .expectedNumber
  | .fraction => .expectedFraction
  | .text => .expectedString
  | .oneOf words => .expectedOneOf words

theorem ValueKind.flaw?_eq_some_iff {kind : ValueKind} {value : StyleValue} {flaw : Flaw} :
    kind.flaw? value = some flaw ↔ ¬ kind.Admits value ∧ flaw = kind.complaint := by
  cases kind <;> cases value <;> simp [flaw?, Admits, complaint, inUnit, @eq_comm _ flaw]

/-- Something that any node may hold does not keep its rule. -/
inductive Traits.Violates (traits : Traits) : Node.Field → Flaw → Prop
  | style {style : Style} {bucket : Bucket} {key : String} {kind : ValueKind} {value : StyleValue}
      (hstyle : traits.style = some style) (hvalue : style.get? key = some value)
      (hkind : (key, kind) ∈ bucket.keys) (h : ¬ kind.Admits value) :
      Violates traits (.style bucket key) kind.complaint
  | param {action : Action} {params : Bag Json} {name : String} {value : Json}
      (haction : traits.action = some action) (hparams : action.params = some params)
      (hvalue : (name, value) ∈ params) (h : isScalarJson value = false) :
      Violates traits (.param name) .notScalar
  | bindingKey {binding : DataBinding} (hbinding : traits.dataBinding = some binding)
      (h : Text.isEmptyOrBlank binding.key = true) : Violates traits .bindingKey .empty

namespace Node

/-- A field of a node does not keep its rule. -/
inductive Violates : Node → Field → Flaw → Prop
  | text {traits : Traits} {x : Float} (h : x.isFinite = false) :
      Violates (.text traits (.number x)) .text .notFinite
  | progress {traits : Traits} {x : Float} {indeterminate : Option Bool}
      (h : ¬ (x.isFinite = true ∧ 0 ≤ x ∧ x ≤ 1)) :
      Violates (.progressBar traits x indeterminate) .progress (.outsideUnit x)
  | flex {traits : Traits} {x : Float} (h : x.isFinite = false) :
      Violates (.spacer traits (some x)) .flex .notFinite
  | renderItem {traits : Traits} {items : List Json} {name : String} {horizontal : Option Bool}
      (h : Text.isEmptyOrBlank name = true) :
      Violates (.list traits items name horizontal) .renderItem .empty
  | traits {node : Node} {field : Field} {flaw : Flaw} (h : node.traits.Violates field flaw) :
      Violates node field flaw

/-- The node that is reached by the positions of children. -/
def at? : List Nat → Node → Option Node
  | [], node => some node
  | position :: rest, node => node.children[position]?.bind (at? rest)

/-- A node at some positions does not keep the rule of a field. -/
def ViolatesAt (node : Node) (site : List Nat × Field) (flaw : Flaw) : Prop :=
  ∃ inner, node.at? site.1 = some inner ∧ inner.Violates site.2 flaw

end Node

/-! ## Rules of roots -/

inductive Timeline.Violates (timeline : Timeline) : Widget.Field → Flaw → Prop
  | minutes {x : Float} (hpolicy : timeline.policy = some (.custom x))
      (h : ¬ (x.isFinite = true ∧ x > 0)) : Violates timeline .minutes .notPositive
  | date {entries : List TimelineEntry} {position : Nat} {entry : TimelineEntry}
      (hentries : timeline.entries = some entries) (hentry : entries[position]? = some entry)
      (h : Text.isEmptyOrBlank entry.date = true) : Violates timeline (.date position) .empty

inductive Widget.Violates (widget : Widget) : Widget.Field → Flaw → Prop
  | kind (h : Text.isEmptyOrBlank widget.kind = true) : Violates widget .kind .empty
  | families (h : widget.families = []) : Violates widget .families .noFamily
  | timeline {timeline : Timeline} {field : Widget.Field} {flaw : Flaw}
      (htimeline : widget.timeline = some timeline) (h : timeline.Violates field flaw) :
      Violates widget field flaw

namespace LiveActivity

/-- The tree of a region. -/
def tree? (activity : LiveActivity) : Region → Option Node
  | .lockScreen => activity.regions.lockScreen
  | .compact => activity.regions.dynamicIsland.bind DynamicIsland.compact
  | .minimal => activity.regions.dynamicIsland.bind DynamicIsland.minimal
  | .expanded => activity.regions.dynamicIsland.bind DynamicIsland.expanded

inductive Violates (activity : LiveActivity) : LiveActivity.Field → Flaw → Prop
  | activityType (h : Text.isEmptyOrBlank activity.activityType = true) :
      Violates activity .activityType .empty
  | relevanceScore {x : Float} (hscore : activity.relevanceScore = some x)
      (h : x.isFinite = false) : Violates activity .relevanceScore .notFinite
  | node {region : Region} {tree : Node} {address : List Nat} {field : Node.Field} {flaw : Flaw}
      (htree : activity.tree? region = some tree) (h : tree.ViolatesAt (address, field) flaw) :
      Violates activity (.node region address field) flaw

end LiveActivity

/-- A field of a root does not keep its rule. -/
inductive Root.Violates (root : Root) : Site → Flaw → Prop
  | version (h : root.version ≠ currentVersion) :
      Violates root .version (.wrongVersion root.version)
  | rootId (h : Text.isEmptyOrBlank root.rootId = true) : Violates root .rootId .empty
  | tree {address : List Nat} {field : Node.Field} {flaw : Flaw}
      (h : root.tree.ViolatesAt (address, field) flaw) : Violates root (.tree address field) flaw
  | widget {widget : Widget} {field : Widget.Field} {flaw : Flaw}
      (hwidget : root.widget = some widget) (h : widget.Violates field flaw) :
      Violates root (.widget field) flaw
  | activity {activity : LiveActivity} {field : LiveActivity.Field} {flaw : Flaw}
      (hactivity : root.liveActivity = some activity) (h : activity.Violates field flaw) :
      Violates root (.activity field) flaw
  | refreshInterval {provider : DataProvider} {x : Float}
      (hprovider : root.dataProvider = some provider)
      (hinterval : provider.refreshInterval = some x) (h : ¬ (x.isFinite = true ∧ x ≥ 0)) :
      Violates root .refreshInterval .negative

/-! ## Reports -/

section

variable {ι κ : Type}

/-- The issues tell of the violations, of each one once and at its path. -/
def Reports (pathOf : ι → String) (violates : ι → Flaw → Prop) (issues : List Issue) : Prop :=
  ∃ found : List (ι × Flaw), (found.map Prod.fst).Nodup ∧
    (∀ site flaw, (site, flaw) ∈ found ↔ violates site flaw) ∧
    issues = found.map fun violation => ⟨pathOf violation.1, violation.2⟩

namespace Reports

variable {pathOf : ι → String} {violates other : ι → Flaw → Prop} {issues more : List Issue}

theorem congr (h : Reports pathOf violates issues)
    (hiff : ∀ site flaw, violates site flaw ↔ other site flaw) : Reports pathOf other issues := by
  obtain ⟨found, hnodup, hmem, rfl⟩ := h
  exact ⟨found, hnodup, fun site flaw => (hmem site flaw).trans (hiff site flaw), rfl⟩

theorem nil (h : ∀ site flaw, ¬ violates site flaw) : Reports pathOf violates [] :=
  ⟨[], List.nodup_nil, fun site flaw => iff_of_false List.not_mem_nil (h site flaw), rfl⟩

theorem issueIf (pathOf : ι → String) (condition : Bool) (site : ι) (flaw : Flaw) :
    Reports pathOf (fun other found => condition = true ∧ other = site ∧ found = flaw)
      (Widgetry.issueIf condition (pathOf site) flaw) := by
  cases condition with
  | false => exact nil fun _ _ h => absurd h.1 (by decide)
  | true =>
    refine ⟨[(site, flaw)], List.nodup_singleton _, fun other found => ?_, rfl⟩
    simp [Prod.ext_iff]

theorem append (h : Reports pathOf violates issues) (hmore : Reports pathOf other more)
    (hapart : ∀ site flaw flaw', violates site flaw → ¬ other site flaw') :
    Reports pathOf (fun site flaw => violates site flaw ∨ other site flaw) (issues ++ more) := by
  obtain ⟨found, hnodup, hmem, rfl⟩ := h
  obtain ⟨found', hnodup', hmem', rfl⟩ := hmore
  refine ⟨found ++ found', ?_, fun site flaw => ?_, List.map_append.symm⟩
  · rw [List.map_append, List.nodup_append']
    refine ⟨hnodup, hnodup', fun site hsite hsite' => ?_⟩
    obtain ⟨⟨_, flaw⟩, hflaw, rfl⟩ := List.mem_map.1 hsite
    obtain ⟨⟨_, flaw'⟩, hflaw', rfl⟩ := List.mem_map.1 hsite'
    exact hapart _ _ _ ((hmem _ _).1 hflaw) ((hmem' _ _).1 hflaw')
  · rw [List.mem_append, hmem, hmem']

/-- The sites may be named in another way. -/
theorem embed (h : Reports pathOf violates issues) (pathOf' : κ → String) (name : ι → κ)
    (hname : Function.Injective name) (hpath : ∀ site, pathOf' (name site) = pathOf site) :
    Reports pathOf' (fun site flaw => ∃ inner, name inner = site ∧ violates inner flaw) issues := by
  obtain ⟨found, hnodup, hmem, rfl⟩ := h
  refine ⟨found.map fun violation => (name violation.1, violation.2), ?_, fun site flaw => ?_, ?_⟩
  · have hmap := hnodup.map hname
    rwa [List.map_map] at hmap ⊢
  · simp only [← hmem, List.mem_map, Prod.mk.injEq, Prod.exists]
    constructor
    · rintro ⟨inner, _, hinner, rfl, rfl⟩
      exact ⟨inner, rfl, hinner⟩
    · rintro ⟨inner, rfl, hinner⟩
      exact ⟨inner, flaw, hinner, rfl, rfl⟩
  · simp [hpath]

theorem elim {α : Type} (part : Option α) {issuesOf : α → List Issue}
    {violatesOf : α → ι → Flaw → Prop}
    (h : ∀ value, part = some value → Reports pathOf (violatesOf value) (issuesOf value)) :
    Reports pathOf (fun site flaw => ∃ value, part = some value ∧ violatesOf value site flaw)
      (part.elim [] issuesOf) := by
  cases part with
  | none => exact nil (by simp)
  | some value => exact (h value rfl).congr fun site flaw => by simp

theorem flatMap {α : Type} {items : List α} {issuesOf : α → List Issue}
    (violatesOf : α → ι → Flaw → Prop) (hnodup : items.Nodup)
    (h : ∀ item ∈ items, Reports pathOf (violatesOf item) (issuesOf item))
    (hapart : ∀ a b site flaw flaw', violatesOf a site flaw → violatesOf b site flaw' → a = b) :
    Reports pathOf (fun site flaw => ∃ item ∈ items, violatesOf item site flaw)
      (items.flatMap issuesOf) := by
  induction items with
  | nil => exact nil (by simp)
  | cons item rest ih =>
    obtain ⟨hitem, hrest⟩ := List.forall_mem_cons.1 h
    obtain ⟨hfresh, hnodup⟩ := List.nodup_cons.1 hnodup
    rw [List.flatMap_cons]
    refine (hitem.append (ih hnodup hrest) ?_).congr fun site flaw => by simp
    rintro site flaw flaw' hviolates ⟨other, hmem, hother⟩
    exact hfresh (hapart _ _ _ _ _ hviolates hother ▸ hmem)

/-- What is wrong with the values of a bag, by their names. -/
theorem bag {α : Type} {bag : Bag α} (distinct : bag.Distinct) (pathOf : String → String)
    (flaw? : String × α → Option Flaw) :
    Reports pathOf (fun name flaw => ∃ value, (name, value) ∈ bag ∧ flaw? (name, value) = some flaw)
      (bag.filterMap fun pair => (flaw? pair).map fun flaw => ⟨pathOf pair.1, flaw⟩) := by
  refine ⟨bag.filterMap fun pair => (flaw? pair).map (pair.1, ·), ?_, fun name flaw => ?_, ?_⟩
  · exact (Bag.names_filterMap_sublist flaw? bag).nodup distinct
  · simp only [List.mem_filterMap, Option.map_eq_some_iff, Prod.mk.injEq, Prod.exists]
    constructor
    · rintro ⟨_, value, hmem, _, hflaw, rfl, rfl⟩
      exact ⟨value, hmem, hflaw⟩
    · rintro ⟨value, hmem, hflaw⟩
      exact ⟨name, value, hmem, flaw, hflaw, rfl, rfl⟩
  · rw [List.map_filterMap]
    simp only [Option.map_map]
    rfl

end Reports

end

/-! ## What nodes report -/

theorem Bucket.lookup_keys_eq_some_iff {bucket : Bucket} {key : String} {kind : ValueKind} :
    bucket.keys.lookup key = some kind ↔ (key, kind) ∈ bucket.keys := by
  have hfind : bucket.keys.lookup key = Bag.find? key bucket.keys := by
    induction bucket.keys with
    | nil => rfl
    | cons entry rest ih =>
      obtain ⟨name, kind⟩ := entry
      rw [List.lookup_cons, Bag.find?, ih]
      by_cases h : name = key
      · simp [h]
      · rw [if_neg h, beq_false_of_ne (Ne.symm h)]
  rw [hfind]
  exact ⟨Bag.mem_of_find?, Bag.find?_of_mem bucket.nodup_keys⟩

theorem Style.reports_issues {style : Style} (proper : style.Proper) (path : String) :
    Reports (fun site : Bucket × String => path ++ "." ++ site.1.name ++ "." ++ site.2)
      (fun site flaw => ∃ kind value, style.get? site.2 = some value ∧
        (site.2, kind) ∈ site.1.keys ∧ ¬ kind.Admits value ∧ flaw = kind.complaint)
      (style.issues path) := by
  rw [issues]
  refine (Reports.flatMap (fun bucket site flaw => site.1 = bucket ∧
    ∃ kind value, style.get? site.2 = some value ∧ (site.2, kind) ∈ bucket.keys ∧
      ¬ kind.Admits value ∧ flaw = kind.complaint) ?_ ?_ ?_).congr ?_
  · decide
  · intro bucket _
    cases hbucket : style.bucket bucket with
    | none =>
      refine .nil ?_
      rintro ⟨_, key⟩ flaw ⟨rfl, kind, value, hvalue, hkind, -⟩
      rw [get?_of_mem (List.mem_map_of_mem hkind), hbucket] at hvalue
      cases hvalue
    | some entries =>
      have hnames := proper.names_sublist hbucket
      have hdistinct : entries.Distinct := hnames.nodup bucket.nodup_keys
      have hreports := (Reports.bag hdistinct (path ++ "." ++ bucket.name ++ "." ++ ·)
        fun entry => (bucket.keys.lookup entry.1).bind fun kind => kind.flaw? entry.2).embed
          (fun site : Bucket × String => path ++ "." ++ site.1.name ++ "." ++ site.2)
          (bucket, ·) (Prod.mk_right_injective bucket) fun _ => rfl
      simp only [Option.map_bind] at hreports
      refine hreports.congr ?_
      rintro ⟨owner, key⟩ flaw
      simp only [Prod.mk.injEq, Option.bind_eq_some_iff, Bucket.lookup_keys_eq_some_iff,
        ValueKind.flaw?_eq_some_iff]
      constructor
      · rintro ⟨_, ⟨rfl, rfl⟩, value, hvalue, kind, hkind, hrule⟩
        refine ⟨rfl, kind, value, ?_, hkind, hrule⟩
        rw [get?_of_mem (List.mem_map_of_mem hkind), hbucket]
        exact Bag.find?_of_mem hdistinct hvalue
      · rintro ⟨rfl, kind, value, hvalue, hkind, hrule⟩
        rw [get?_of_mem (List.mem_map_of_mem hkind), hbucket] at hvalue
        exact ⟨key, ⟨rfl, rfl⟩, value, Bag.mem_of_find? hvalue, kind, hkind, hrule⟩
  · rintro a b site flaw flaw' ⟨rfl, -⟩ ⟨rfl, -⟩
    rfl
  · rintro ⟨bucket, key⟩ flaw
    simp [Bucket.mem_all]

theorem Action.reports_issues {action : Action} (proper : action.Proper) (path : String) :
    Reports (path ++ ".params." ++ ·)
      (fun name flaw => ∃ params value, action.params = some params ∧ (name, value) ∈ params ∧
        isScalarJson value = false ∧ flaw = .notScalar)
      (action.issues path) := by
  cases hparams : action.params with
  | none => simpa [issues, hparams] using Reports.nil (by simp)
  | some params =>
    have hissues : action.issues path = params.filterMap fun param =>
        (if isScalarJson param.2 then none else some Flaw.notScalar).map fun flaw =>
          ⟨path ++ ".params." ++ param.1, flaw⟩ := by
      rw [issues, hparams, Option.getD_some, List.filterMap_eq_flatMap_toList]
      refine List.flatMap_congr fun param _ => ?_
      cases isScalarJson param.2 <;> rfl
    rw [hissues]
    refine (Reports.bag (proper params hparams).1 _ _).congr fun name flaw => ?_
    simp only [Option.some.injEq, exists_and_left, exists_eq_left', Option.ite_none_left_eq_some,
      Bool.not_eq_true, @eq_comm _ flaw]

theorem Traits.reports_issues {traits : Traits} (proper : traits.Proper) (path : String) :
    Reports (fun field : Node.Field => path ++ field.path) traits.Violates (traits.issues path) := by
  have hstylePath : ∀ bucket key, (Node.Field.style bucket key).path
      = ".style." ++ bucket.name ++ "." ++ key := fun _ _ => rfl
  have hparamPath : ∀ name, (Node.Field.param name).path = ".action.params." ++ name := fun _ => rfl
  have hstyle := Reports.elim traits.style fun style hstyle =>
    (Style.reports_issues (proper.style style hstyle) (path ++ ".style")).embed
      (fun field : Node.Field => path ++ field.path) (fun site => .style site.1 site.2)
      (fun a b h => by cases a; cases b; cases h; rfl)
      (fun site => by simp [hstylePath, String.append_assoc])
  have haction := Reports.elim traits.action fun action haction =>
    (Action.reports_issues (proper.action action haction) (path ++ ".action")).embed
      (fun field : Node.Field => path ++ field.path) .param
      (fun a b h => by cases h; rfl)
      (fun name => by simp [hparamPath, String.append_assoc])
  have hbinding := Reports.elim traits.dataBinding fun binding _ =>
    Reports.issueIf (fun field : Node.Field => path ++ field.path)
      (Text.isEmptyOrBlank binding.key) .bindingKey .empty
  have hissues : traits.issues path = traits.style.elim [] (Style.issues (path ++ ".style"))
      ++ traits.action.elim [] (Action.issues (path ++ ".action"))
      ++ traits.dataBinding.elim [] fun binding =>
        issueIf (Text.isEmptyOrBlank binding.key) (path ++ Node.Field.bindingKey.path) .empty := by
    rw [issues]
    cases traits.style <;> cases traits.action <;> cases traits.dataBinding <;> rfl
  rw [hissues]
  refine ((hstyle.append haction ?_).append hbinding ?_).congr fun field flaw => ?_
  · rintro _ _ _ ⟨_, -, _, rfl, -⟩ ⟨_, -, _, h, -⟩
    cases h
  · rintro _ _ _ (⟨_, -, _, rfl, -⟩ | ⟨_, -, _, rfl, -⟩) ⟨_, -, -, h, -⟩ <;> cases h
  · constructor
    · rintro ((⟨style, hstyle, ⟨bucket, key⟩, rfl, kind, value, hvalue, hkind, hrule, rfl⟩ |
        ⟨action, haction, name, rfl, params, value, hparams, hvalue, hrule, rfl⟩) |
        ⟨binding, hbinding, hrule, rfl, rfl⟩)
      · exact .style hstyle hvalue hkind hrule
      · exact .param haction hparams hvalue hrule
      · exact .bindingKey hbinding hrule
    · rintro (⟨hstyle, hvalue, hkind, hrule⟩ | ⟨haction, hparams, hvalue, hrule⟩ |
        ⟨hbinding, hrule⟩)
      · exact .inl (.inl ⟨_, hstyle, (_, _), rfl, _, _, hvalue, hkind, hrule, rfl⟩)
      · exact .inl (.inr ⟨_, haction, _, rfl, _, _, hparams, hvalue, hrule, rfl⟩)
      · exact .inr ⟨_, hbinding, hrule, rfl, rfl⟩

namespace Node

/-- A node below some children, the first of which stands at `position`, does not keep a rule. -/
def ViolatesBelow (position : Nat) (children : List Node) (site : List Nat × Field)
    (flaw : Flaw) : Prop :=
  ∃ i rest child, site.1 = (position + i) :: rest ∧ children[i]? = some child ∧
    child.ViolatesAt (rest, site.2) flaw

theorem violatesAt_iff {node : Node} {site : List Nat × Field} {flaw : Flaw} :
    node.ViolatesAt site flaw ↔
      ViolatesBelow 0 node.children site flaw ∨
        ∃ field, ([], field) = site ∧ node.Violates field flaw := by
  obtain ⟨address, field⟩ := site
  cases address with
  | nil => simp [ViolatesAt, ViolatesBelow, at?]
  | cons position rest =>
    simp only [ViolatesAt, ViolatesBelow, at?, Option.bind_eq_some_iff, Nat.zero_add]
    constructor
    · rintro ⟨inner, ⟨child, hchild, hinner⟩, hviolates⟩
      exact .inl ⟨position, rest, child, rfl, hchild, inner, hinner, hviolates⟩
    · rintro (⟨_, _, child, ⟨⟩, hchild, inner, hinner, hviolates⟩ | ⟨_, ⟨⟩, -⟩)
      exact ⟨inner, ⟨child, hchild, hinner⟩, hviolates⟩

theorem violatesBelow_cons {position : Nat} {child : Node} {rest : List Node}
    {site : List Nat × Field} {flaw : Flaw} :
    ViolatesBelow position (child :: rest) site flaw ↔
      (∃ inner, (position :: inner.1, inner.2) = site ∧ child.ViolatesAt inner flaw) ∨
        ViolatesBelow (position + 1) rest site flaw := by
  obtain ⟨address, field⟩ := site
  constructor
  · rintro ⟨i, below, inner, haddress, hinner, hviolates⟩
    cases i with
    | zero =>
      obtain rfl := Option.some.inj hinner
      exact .inl ⟨(below, field), Prod.ext haddress.symm rfl, hviolates⟩
    | succ i => exact .inr ⟨i, below, inner, by rw [haddress]; congr 1; omega, hinner, hviolates⟩
  · rintro (⟨inner, hinner, hviolates⟩ | ⟨i, below, inner, haddress, hinner, hviolates⟩)
    · obtain ⟨rfl, rfl⟩ := Prod.mk.inj hinner
      exact ⟨0, inner.1, child, rfl, rfl, hviolates⟩
    · exact ⟨i + 1, below, inner, by rw [haddress]; congr 1; omega, hinner, hviolates⟩

theorem reports_join {node : Node} {path : String} {below own : List Issue}
    (hbelow : Reports (sitePath path) (ViolatesBelow 0 node.children) below)
    (hown : Reports (fun field : Field => path ++ field.path) node.Violates own) :
    Reports (sitePath path) node.ViolatesAt (below ++ own) := by
  have hembed := hown.embed (sitePath path) (([], ·)) (Prod.mk_right_injective [])
    fun field => by simp [sitePath, addressPath]
  refine (hbelow.append hembed ?_).congr fun site flaw => violatesAt_iff.symm
  rintro site flaw flaw' ⟨_, _, _, hbelow, -⟩ ⟨field, rfl, -⟩
  cases hbelow

theorem reports_leaf {node : Node} {path : String} {own : List Issue} (hleaf : node.children = [])
    (hown : Reports (fun field : Field => path ++ field.path) node.Violates own) :
    Reports (sitePath path) node.ViolatesAt own := by
  have hbelow : Reports (sitePath path) (ViolatesBelow 0 node.children) [] :=
    .nil (by simp [ViolatesBelow, hleaf])
  exact reports_join hbelow hown

/-- The rules of a node that has no rule but those of its traits. -/
theorem reports_traits {node : Node} (proper : node.traits.Proper) (path : String)
    (hplain : ∀ field flaw, node.Violates field flaw → node.traits.Violates field flaw) :
    Reports (fun field : Field => path ++ field.path) node.Violates (node.traits.issues path) :=
  (Traits.reports_issues proper path).congr fun field flaw => ⟨.traits, hplain field flaw⟩

/-- The rules of a node that has one rule beside those of its traits. -/
theorem reports_own {node : Node} (proper : node.traits.Proper) (path : String) (field : Field)
    {condition : Bool} {flaw : Flaw}
    (hrule : ∀ other found, node.Violates other found ↔
      (condition = true ∧ other = field ∧ found = flaw) ∨ node.traits.Violates other found)
    (hfield : ∀ flaw, ¬ node.traits.Violates field flaw) :
    Reports (fun field : Field => path ++ field.path) node.Violates
      (issueIf condition (path ++ field.path) flaw ++ node.traits.issues path) := by
  refine ((Reports.issueIf _ condition field flaw).append (Traits.reports_issues proper path)
    ?_).congr fun other found => (hrule other found).symm
  rintro _ _ found ⟨-, rfl, -⟩
  exact hfield found

-- A container reports what is below it and then its traits; any other node has at most one rule beside
-- those of its traits, at a field that no trait has.
mutual

theorem reports_issues : ∀ (node : Node) (path : String), (∀ n ∈ node.nodes, n.Proper) →
    Reports (sitePath path) node.ViolatesAt (node.issues path)
  | node, path, proper => by
    have hself := (proper node node.mem_nodes_self).traits
    cases node with
    | view traits children =>
      refine reports_join (reports_childIssues children path 0 ?_) (reports_traits hself path ?_)
      · exact fun n hn => proper n (List.mem_cons_of_mem _ hn)
      · rintro field flaw ⟨⟩
        assumption
    | stack traits axis children =>
      refine reports_join (reports_childIssues children path 0 ?_) (reports_traits hself path ?_)
      · exact fun n hn => proper n (List.mem_cons_of_mem _ hn)
      · rintro field flaw ⟨⟩
        assumption
    | text traits content =>
      cases content with
      | number x =>
        refine reports_leaf rfl (reports_own hself path .text ?_ ?_)
        · intro other found
          constructor
          · rintro (h | _ | _ | _ | h)
            · exact .inl ⟨by simp [h], rfl, rfl⟩
            · exact .inr h
          · rintro (⟨h, rfl, rfl⟩ | h)
            · exact .text (by simpa using h)
            · exact .traits h
        · rintro flaw ⟨⟩
      | string text =>
        refine reports_leaf rfl (reports_traits hself path ?_)
        rintro field flaw ⟨⟩
        assumption
    | button traits label variant size =>
      refine reports_leaf rfl (reports_traits hself path ?_)
      rintro field flaw ⟨⟩
      assumption
    | image traits uri resizeMode placeholder =>
      refine reports_leaf rfl (reports_traits hself path ?_)
      rintro field flaw ⟨⟩
      assumption
    | spacer traits flex =>
      cases flex with
      | none =>
        refine reports_leaf rfl (reports_traits hself path ?_)
        rintro field flaw ⟨⟩
        assumption
      | some x =>
        refine reports_leaf rfl (reports_own hself path .flex ?_ ?_)
        · intro other found
          constructor
          · rintro (_ | _ | h | _ | h)
            · exact .inl ⟨by simp [h], rfl, rfl⟩
            · exact .inr h
          · rintro (⟨h, rfl, rfl⟩ | h)
            · exact .flex (by simpa using h)
            · exact .traits h
        · rintro flaw ⟨⟩
    | progressBar traits x indeterminate =>
      have hunit : (!(x.isFinite && inUnit x)) = true ↔ ¬ (x.isFinite = true ∧ 0 ≤ x ∧ x ≤ 1) := by
        rw [Bool.not_eq_true', ← Bool.not_eq_true]
        simp only [inUnit, Bool.and_eq_true, decide_eq_true_iff]
      refine reports_leaf rfl (reports_own hself path .progress ?_ ?_)
      · intro other found
        constructor
        · rintro (_ | h | _ | _ | h)
          · exact .inl ⟨hunit.2 h, rfl, rfl⟩
          · exact .inr h
        · rintro (⟨h, rfl, rfl⟩ | h)
          · exact .progress (hunit.1 h)
          · exact .traits h
      · rintro flaw ⟨⟩
    | list traits items renderItem horizontal =>
      refine reports_leaf rfl (reports_own hself path .renderItem ?_ ?_)
      · intro other found
        constructor
        · rintro (_ | _ | _ | h | h)
          · exact .inl ⟨h, rfl, rfl⟩
          · exact .inr h
        · rintro (⟨h, rfl, rfl⟩ | h)
          · exact .renderItem h
          · exact .traits h
      · rintro flaw ⟨⟩

theorem reports_childIssues : ∀ (children : List Node) (path : String) (position : Nat),
    (∀ n ∈ nodesAll children, n.Proper) →
    Reports (sitePath path) (ViolatesBelow position children) (childIssues path position children)
  | [], path, position, _ => .nil (by simp [ViolatesBelow])
  | child :: rest, path, position, proper => by
    obtain ⟨hchild, hrest⟩ := List.forall_mem_append.1 proper
    have hfirst := (reports_issues child (path ++ ".children." ++ toString position) hchild).embed
      (sitePath path) (fun inner => (position :: inner.1, inner.2))
      (fun a b h => by cases a; cases b; cases h; rfl)
      (fun inner => by simp [sitePath, addressPath, String.append_assoc])
    refine (hfirst.append (reports_childIssues rest path (position + 1) hrest) ?_).congr
      fun site flaw => violatesBelow_cons.symm
    rintro _ flaw flaw' ⟨inner, rfl, -⟩ ⟨i, _, _, h, -⟩
    have hposition := (List.cons.inj h).1
    omega

end

end Node

/-! ## What roots report -/

theorem reports_entryIssues (entries : List TimelineEntry) (position : Nat) :
    Reports Widget.Field.path
      (fun field flaw => ∃ i entry, field = .date (position + i) ∧ entries[i]? = some entry ∧
        Text.isEmptyOrBlank entry.date = true ∧ flaw = .empty)
      (entryIssues "widget.timeline.entries" position entries) := by
  induction entries generalizing position with
  | nil => exact .nil (by simp)
  | cons entry rest ih =>
    refine ((Reports.issueIf _ (Text.isEmptyOrBlank entry.date) (.date position) .empty).append
      (ih (position + 1)) ?_).congr fun field flaw => ?_
    · rintro _ _ _ ⟨-, rfl, -⟩ ⟨i, _, hfield, -⟩
      injection hfield
      omega
    · constructor
      · rintro (⟨h, rfl, rfl⟩ | ⟨i, inner, rfl, hinner, h⟩)
        · exact ⟨0, entry, rfl, rfl, h, rfl⟩
        · exact ⟨i + 1, inner, by congr 1; omega, hinner, h⟩
      · rintro ⟨i, inner, rfl, hinner, h, rfl⟩
        cases i with
        | zero =>
          obtain rfl := Option.some.inj hinner
          exact .inl ⟨h, rfl, rfl⟩
        | succ i => exact .inr ⟨i, inner, by congr 1; omega, hinner, h, rfl⟩

theorem Timeline.reports_issues (timeline : Timeline) :
    Reports Widget.Field.path timeline.Violates timeline.issues := by
  have hdates : ∀ field flaw, (∃ i entry, field = .date (0 + i) ∧
      (timeline.entries.getD [])[i]? = some entry ∧ Text.isEmptyOrBlank entry.date = true ∧
        flaw = .empty) → timeline.Violates field flaw := by
    rintro _ _ ⟨i, entry, rfl, hentry, h, rfl⟩
    rw [Nat.zero_add]
    cases hentries : timeline.entries with
    | none => simp [hentries] at hentry
    | some entries => exact .date hentries (by simpa [hentries] using hentry) h
  have hentries := reports_entryIssues (timeline.entries.getD []) 0
  rw [issues]
  split
  · rename_i x hpolicy
    have hpositive : (!(x.isFinite && x > 0)) = true ↔ ¬ (x.isFinite = true ∧ x > 0) := by
      rw [Bool.not_eq_true', ← Bool.not_eq_true, Bool.and_eq_true, decide_eq_true_iff]
    refine ((Reports.issueIf Widget.Field.path _ .minutes .notPositive).append hentries
      ?_).congr fun field flaw => ?_
    · rintro _ _ _ ⟨-, rfl, -⟩ ⟨_, _, h, -⟩
      cases h
    · constructor
      · rintro (⟨h, rfl, rfl⟩ | h)
        · exact .minutes hpolicy (hpositive.1 h)
        · exact hdates _ _ h
      · rintro (⟨hother, h⟩ | ⟨hsome, hentry, h⟩)
        · obtain ⟨⟩ := hpolicy.symm.trans hother
          exact .inl ⟨hpositive.2 h, rfl, rfl⟩
        · exact .inr ⟨_, _, by rw [Nat.zero_add], by rwa [hsome], h, rfl⟩
  · rename_i hplain
    refine hentries.congr fun field flaw => ⟨hdates field flaw, ?_⟩
    rintro (⟨hpolicy, -⟩ | ⟨hsome, hentry, h⟩)
    · exact absurd hpolicy (hplain _)
    · exact ⟨_, _, by rw [Nat.zero_add], by rwa [hsome], h, rfl⟩

theorem Widget.reports_issues (widget : Widget) :
    Reports Widget.Field.path widget.Violates widget.issues := by
  have htimeline := Reports.elim widget.timeline fun timeline _ => timeline.reports_issues
  have hissues : widget.issues = issueIf (Text.isEmptyOrBlank widget.kind) Field.kind.path .empty
      ++ issueIf widget.families.isEmpty Field.families.path .noFamily
      ++ widget.timeline.elim [] Timeline.issues := by
    rw [issues]
    cases widget.timeline <;> rfl
  rw [hissues]
  refine (((Reports.issueIf _ _ _ _).append (Reports.issueIf _ _ _ _) ?_).append htimeline
    ?_).congr fun field flaw => ?_
  · rintro _ _ _ ⟨-, rfl, -⟩ ⟨-, h, -⟩
    cases h
  · rintro _ _ _ (⟨-, rfl, -⟩ | ⟨-, rfl, -⟩) ⟨_, -, ⟨⟩⟩
  · constructor
    · rintro ((⟨h, rfl, rfl⟩ | ⟨h, rfl, rfl⟩) | ⟨timeline, htimeline, h⟩)
      · exact .kind h
      · exact .families (List.isEmpty_iff.1 h)
      · exact .timeline htimeline h
    · rintro (h | h | ⟨htimeline, h⟩)
      · exact .inl (.inl ⟨h, rfl, rfl⟩)
      · exact .inl (.inr ⟨List.isEmpty_iff.2 h, rfl, rfl⟩)
      · exact .inr ⟨_, htimeline, h⟩

theorem LiveActivity.flatMap_regionNodes (activity : LiveActivity)
    (issuesOf : String × Node → List Issue) :
    activity.regionNodes.flatMap issuesOf
      = Region.all.flatMap fun region =>
        (activity.tree? region).elim [] fun tree => issuesOf (region.path, tree) := by
  have hnamed : ∀ (path : String) (node : Option Node),
      ((node.map (path, ·)).toList).flatMap issuesOf
        = node.elim [] fun tree => issuesOf (path, tree) := by
    intro path node
    cases node <;> simp
  simp only [regionNodes, List.flatMap_append, hnamed, Region.all, List.flatMap_cons,
    List.flatMap_nil, List.append_nil, tree?, Region.path, List.append_assoc]

theorem LiveActivity.mem_nodes_of_tree? {activity : LiveActivity} {region : Region} {tree : Node}
    (h : activity.tree? region = some tree) : tree ∈ activity.regions.nodes := by
  cases hisland : activity.regions.dynamicIsland <;> cases region <;>
    simp_all [tree?, ActivityRegions.nodes, DynamicIsland.nodes]

theorem LiveActivity.reports_issues (activity : LiveActivity)
    (proper : ∀ tree ∈ activity.regions.nodes, ∀ node ∈ tree.nodes, node.Proper) :
    Reports LiveActivity.Field.path activity.Violates activity.issues := by
  have hscore : (activity.relevanceScore.any fun score => !score.isFinite) = true ↔
      ∃ x, activity.relevanceScore = some x ∧ x.isFinite = false := by
    cases activity.relevanceScore <;> simp
  have hregions := Reports.flatMap
    (fun region field flaw => ∃ tree, activity.tree? region = some tree ∧
      ∃ site : List Nat × Node.Field, Field.node region site.1 site.2 = field ∧
        tree.ViolatesAt site flaw)
    (by decide : Region.all.Nodup)
    (fun region _ => Reports.elim (activity.tree? region) fun tree htree =>
      (tree.reports_issues ("liveActivity." ++ region.path)
        (proper tree (mem_nodes_of_tree? htree))).embed Field.path
          (fun site => .node region site.1 site.2) (fun a b h => by cases a; cases b; cases h; rfl)
          fun _ => rfl)
    (by
      rintro a b _ _ _ ⟨_, -, _, rfl, -⟩ ⟨_, -, _, h, -⟩
      injection h with hregion
      exact hregion.symm)
  rw [issues, flatMap_regionNodes]
  refine (((Reports.issueIf Field.path _ .activityType .empty).append
    (Reports.issueIf Field.path _ .relevanceScore .notFinite) ?_).append hregions ?_).congr
      fun field flaw => ?_
  · rintro _ _ _ ⟨-, rfl, -⟩ ⟨-, h, -⟩
    cases h
  · rintro _ _ _ (⟨-, rfl, -⟩ | ⟨-, rfl, -⟩) ⟨_, -, _, -, _, h, -⟩ <;> cases h
  · rw [hscore]
    constructor
    · rintro ((⟨h, rfl, rfl⟩ | ⟨⟨x, hscore, h⟩, rfl, rfl⟩) | ⟨region, -, tree, htree, site, rfl, h⟩)
      · exact .activityType h
      · exact .relevanceScore hscore h
      · exact .node htree h
    · rintro (h | ⟨hscore, h⟩ | ⟨htree, h⟩)
      · exact .inl (.inl ⟨h, rfl, rfl⟩)
      · exact .inl (.inr ⟨⟨_, hscore, h⟩, rfl, rfl⟩)
      · rename_i region tree address field
        have hall : region ∈ Region.all := by cases region <;> decide
        exact .inr ⟨region, hall, tree, htree, (address, field), rfl, h⟩

theorem DataProvider.reports_issues (provider : DataProvider) :
    Reports Site.path
      (fun site flaw => ∃ x, provider.refreshInterval = some x ∧ ¬ (x.isFinite = true ∧ x ≥ 0) ∧
        site = .refreshInterval ∧ flaw = .negative)
      provider.issues := by
  refine (Reports.issueIf Site.path _ .refreshInterval .negative).congr fun site flaw => ?_
  cases provider.refreshInterval with
  | none => simp
  | some x =>
    have hinterval : (!(x.isFinite && x ≥ 0)) = true ↔ ¬ (x.isFinite = true ∧ x ≥ 0) := by
      rw [Bool.not_eq_true', ← Bool.not_eq_true, Bool.and_eq_true, decide_eq_true_iff]
    simp only [Option.any_some, hinterval, Option.some.injEq, exists_eq_left']

theorem Root.reports_issues {root : Root} (proper : root.Proper) :
    Reports Site.path root.Violates root.issues := by
  have htree : ∀ node ∈ root.tree.nodes, node.Proper := fun node hnode =>
    proper.nodes node (mem_nodes_iff.2 (.inl hnode))
  have htree := (root.tree.reports_issues "tree" htree).embed Site.path
    (fun site => .tree site.1 site.2) (fun a b h => by cases a; cases b; cases h; rfl) fun _ => rfl
  have hwidget := Reports.elim root.widget fun widget _ =>
    widget.reports_issues.embed Site.path .widget (fun a b h => by cases h; rfl) fun _ => rfl
  have hactivity := Reports.elim root.liveActivity fun activity hactivity =>
    (activity.reports_issues fun tree hmem node hnode =>
      proper.nodes node (mem_nodes_iff.2 (.inr ⟨activity, hactivity, tree, hmem, hnode⟩))).embed
        Site.path .activity (fun a b h => by cases h; rfl) fun _ => rfl
  have hprovider := Reports.elim root.dataProvider fun provider _ => provider.reports_issues
  have hissues : root.issues
      = issueIf (root.version != currentVersion) Site.version.path (.wrongVersion root.version)
        ++ issueIf (Text.isEmptyOrBlank root.rootId) Site.rootId.path .empty
        ++ root.tree.issues "tree" ++ root.widget.elim [] Widget.issues
        ++ root.liveActivity.elim [] LiveActivity.issues
        ++ root.dataProvider.elim [] DataProvider.issues := by
    rw [issues]
    cases root.widget <;> cases root.liveActivity <;> cases root.dataProvider <;> rfl
  rw [hissues]
  -- Each part has sites of its own, so what is reported before it is not reported again.
  refine ((((((Reports.issueIf _ _ _ _).append (Reports.issueIf _ _ _ _) ?_).append htree
    ?_).append hwidget ?_).append hactivity ?_).append hprovider ?_).congr fun site flaw => ?_
  · rintro _ _ _ ⟨-, rfl, -⟩ ⟨-, h, -⟩
    cases h
  · rintro _ _ _ (⟨-, rfl, -⟩ | ⟨-, rfl, -⟩) ⟨_, h, -⟩ <;> cases h
  · rintro _ _ _ ((⟨-, rfl, -⟩ | ⟨-, rfl, -⟩) | ⟨_, rfl, -⟩) ⟨_, -, _, h, -⟩ <;> cases h
  · rintro _ _ _ (((⟨-, rfl, -⟩ | ⟨-, rfl, -⟩) | ⟨_, rfl, -⟩) | ⟨_, -, _, rfl, -⟩)
      ⟨_, -, _, h, -⟩ <;> cases h
  · rintro _ _ _ ((((⟨-, rfl, -⟩ | ⟨-, rfl, -⟩) | ⟨_, rfl, -⟩) | ⟨_, -, _, rfl, -⟩) |
      ⟨_, -, _, rfl, -⟩) ⟨_, -, _, -, -, h, -⟩ <;> cases h
  · constructor
    · rintro (((((⟨h, rfl, rfl⟩ | ⟨h, rfl, rfl⟩) | ⟨inner, rfl, h⟩) |
        ⟨widget, hwidget, inner, rfl, h⟩) | ⟨activity, hactivity, inner, rfl, h⟩) |
        ⟨provider, hprovider, x, hinterval, h, rfl, rfl⟩)
      · exact .version (bne_iff_ne.1 h)
      · exact .rootId h
      · exact .tree h
      · exact .widget hwidget h
      · exact .activity hactivity h
      · exact .refreshInterval hprovider hinterval h
    · rintro (h | h | h | ⟨hwidget, h⟩ | ⟨hactivity, h⟩ | ⟨hprovider, hinterval, h⟩)
      · exact .inl (.inl (.inl (.inl (.inl ⟨bne_iff_ne.2 h, rfl, rfl⟩))))
      · exact .inl (.inl (.inl (.inl (.inr ⟨h, rfl, rfl⟩))))
      · exact .inl (.inl (.inl (.inr ⟨(_, _), rfl, h⟩)))
      · exact .inl (.inl (.inr ⟨_, hwidget, _, rfl, h⟩))
      · exact .inl (.inr ⟨_, hactivity, _, rfl, h⟩)
      · exact .inr ⟨_, hprovider, _, hinterval, h, rfl, rfl⟩

/-- A root has no issues if and only if it keeps all rules. Otherwise it has one issue for each site
at which a rule is violated, at the path of this site, and no two issues have the same path. -/
theorem Root.issues_of_violations {root : Root} (proper : root.Proper) :
    (root.issues = [] ↔ root.Valid) ∧ (root.issues.map Issue.path).Nodup ∧
      ∃ violations : List (Site × Flaw), (violations.map Prod.fst).Nodup ∧
        (∀ site flaw, (site, flaw) ∈ violations ↔ root.Violates site flaw) ∧
        root.issues = violations.map fun violation => ⟨violation.1.path, violation.2⟩ := by
  obtain ⟨violations, hnodup, hmem, hissues⟩ := Root.reports_issues proper
  refine ⟨Root.issues_eq_nil, ?_, violations, hnodup, hmem, hissues⟩
  have hpaths := hnodup.map Site.path_injective
  rw [List.map_map] at hpaths
  rwa [hissues, List.map_map]

namespace Root

/-- A bar that is too full and too faded stands in a row, next to a spacer that keeps all rules. One
parameter of its action is no scalar, the widget names no family, and the list on the lock screen has
no name for its items. -/
def faulty : Root where
  version := 1
  rootId := "faulty"
  tree := .view {} [.spacer {} none, .stack {} .horizontal [.progressBar
    { style := some { colors := some [("opacity", .number 2)] }
      action := some { type := .custom, params := some [("a.b", .null), ("a", .bool true)] } }
    1.5 none]]
  widget := some { kind := "Clock", families := [] }
  liveActivity := some
    { activityType := "Ride", regions := { lockScreen := some (.list {} [] " " none) } }

theorem proper_faulty : faulty.Proper where
  nodes := by
    have hempty : Traits.Proper {} := ⟨by rintro _ ⟨⟩, by rintro _ ⟨⟩, by rintro _ ⟨⟩⟩
    show ∀ node ∈ [_, _, _, _, _], Node.Proper node
    simp only [List.forall_mem_cons, List.not_mem_nil, false_imp_iff, implies_true, and_true]
    refine ⟨⟨hempty, List.forall_mem_nil _⟩, ⟨hempty, List.forall_mem_nil _⟩,
      ⟨hempty, List.forall_mem_nil _⟩, ⟨⟨?_, ?_, by rintro _ ⟨⟩⟩, List.forall_mem_nil _⟩,
      ⟨hempty, List.forall_mem_nil _⟩⟩
    · rintro style ⟨⟩ bucket entries hentries
      cases bucket <;> cases hentries
      rfl
    · rintro action ⟨⟩ params ⟨⟩
      simp [Bag.Distinct, Bag.names, Json.Proper]
  contents := List.forall_mem_nil _
  attributes := by
    rintro activity ⟨⟩
    exact ⟨List.nodup_nil, List.nodup_nil⟩
  headers := by rintro provider ⟨⟩

theorem issues_of_violations_faulty :
    faulty.Proper ∧ ¬ faulty.Valid ∧ (faulty.issues.map Issue.path).Nodup ∧
      faulty.issues.map Issue.path = ["tree.children.1.children.0.progress",
        "tree.children.1.children.0.style.colors.opacity",
        "tree.children.1.children.0.action.params.a.b", "widget.families",
        "liveActivity.regions.lockScreen.renderItem"] ∧
      ∃ violations : List (Site × Flaw), violations.length = 5 ∧
        ∀ site flaw, (site, flaw) ∈ violations ↔ faulty.Violates site flaw := by
  have hpaths : faulty.issues.map Issue.path = ["tree.children.1.children.0.progress",
      "tree.children.1.children.0.style.colors.opacity",
      "tree.children.1.children.0.action.params.a.b", "widget.families",
      "liveActivity.regions.lockScreen.renderItem"] := by decide +kernel
  have hlength : faulty.issues.length = 5 := by
    rw [← List.length_map, hpaths]
    rfl
  obtain ⟨hvalid, hnodup, violations, -, hmem, hissues⟩ := issues_of_violations proper_faulty
  refine ⟨proper_faulty, fun h => ?_, hnodup, hpaths, violations, ?_, hmem⟩
  · rw [hvalid.2 h] at hlength
    cases hlength
  · rw [← hlength, hissues, List.length_map]

end Root

end Widgetry
