import Widgetry.Proofs.Json.Proper
import Widgetry.Root.Decoding

/-!
Roots as their texts can hold them. A root that is proper keeps its names apart and its values in
order. Tidying a root forgets what no text says: the order of named values and the sign of a zero
that is written as a whole number. Dropping the nulls of a root takes out what is written as null
where it may also be absent.
-/

namespace Widgetry

/-! ## Proper parts -/

/-- The entries stand in the order of the keys, and only keys have entries. -/
def Style.Proper (style : Style) : Prop :=
  ∀ bucket, ∀ entries ∈ style.bucket bucket, bucket.arrange entries = entries

def Action.Proper (action : Action) : Prop :=
  ∀ params ∈ action.params, Bag.Distinct params ∧ ∀ param ∈ params, param.2.Proper

structure Traits.Proper (traits : Traits) : Prop where
  style : ∀ style ∈ traits.style, style.Proper
  action : ∀ action ∈ traits.action, action.Proper
  fallback : ∀ binding ∈ traits.dataBinding, ∀ value ∈ binding.fallback, value.Proper

/-- The numbers in a style. -/
def Traits.numbers (traits : Traits) : List Float :=
  (traits.style.elim [] Style.entries).filterMap fun entry => entry.2.number?

namespace Node

/-- The values that a list shows. -/
def items : Node → List Json
  | .list _ items _ _ => items
  | _ => []

/-- What a node itself holds is proper. -/
structure Proper (node : Node) : Prop where
  traits : node.traits.Proper
  items : ∀ item ∈ node.items, item.Proper

/-- The numbers of a node that are written as whole ones when they are whole. -/
def numbers : Node → List Float
  | .text traits (.number value) => value :: traits.numbers
  | .spacer traits flex => flex.toList ++ traits.numbers
  | .progressBar traits progress _ => progress :: traits.numbers
  | node => node.traits.numbers

mutual

/-- A node and all nodes below it. -/
def nodes : Node → List Node
  | .view traits children => .view traits children :: nodesAll children
  | .stack traits axis children => .stack traits axis children :: nodesAll children
  | node => [node]

def nodesAll : List Node → List Node
  | [] => []
  | node :: rest => nodes node ++ nodesAll rest

end

theorem mem_nodes_self (node : Node) : node ∈ node.nodes := by
  cases node <;> simp [nodes]

end Node

def DynamicIsland.nodes (island : DynamicIsland) : List Node :=
  island.compact.toList ++ island.minimal.toList ++ island.expanded.toList

/-- The trees of the regions that are there. -/
def ActivityRegions.nodes (regions : ActivityRegions) : List Node :=
  regions.lockScreen.toList ++ regions.dynamicIsland.elim [] DynamicIsland.nodes

theorem ActivityRegions.forall_mem_nodes {regions : ActivityRegions} {Q : Node → Prop} :
    (∀ node ∈ regions.nodes, Q node) ↔
      (∀ node ∈ regions.lockScreen, Q node) ∧
      (∀ node ∈ regions.dynamicIsland.bind (·.expanded), Q node) ∧
      (∀ node ∈ regions.dynamicIsland.bind (·.compact), Q node) ∧
      ∀ node ∈ regions.dynamicIsland.bind (·.minimal), Q node := by
  cases h : regions.dynamicIsland with
  | none => simp [ActivityRegions.nodes, h]
  | some island =>
    simp only [ActivityRegions.nodes, h, Option.elim_some, DynamicIsland.nodes,
      List.forall_mem_append, Option.mem_toList, Option.bind_some]
    tauto

theorem LiveActivity.map_snd_regionNodes (activity : LiveActivity) :
    activity.regionNodes.map Prod.snd = activity.regions.nodes := by
  have hnamed : ∀ (path : String) (node : Option Node),
      ((node.map (path, ·)).toList).map Prod.snd = node.toList := by
    intro path node
    cases node <;> rfl
  cases h : activity.regions.dynamicIsland with
  | none => simp [regionNodes, ActivityRegions.nodes, h, hnamed]
  | some island =>
    simp [regionNodes, ActivityRegions.nodes, DynamicIsland.nodes, h, hnamed]

namespace Root

/-- All nodes of a root, with those of a live activity. -/
def nodes (root : Root) : List Node :=
  root.tree.nodes ++ (root.liveActivity.elim [] LiveActivity.regionNodes).flatMap fun region =>
    region.2.nodes

theorem mem_nodes_iff {root : Root} {n : Node} :
    n ∈ root.nodes ↔ n ∈ root.tree.nodes ∨
      ∃ activity ∈ root.liveActivity, ∃ node ∈ activity.regions.nodes, n ∈ node.nodes := by
  rw [nodes, List.mem_append, List.mem_flatMap]
  refine or_congr_right ?_
  cases root.liveActivity with
  | none => simp
  | some activity =>
    simp only [Option.elim_some, Option.mem_def, Option.some.injEq, exists_eq_left',
      ← activity.map_snd_regionNodes, List.mem_map, exists_exists_and_eq_and]

def bindings (root : Root) : List DataBinding := root.nodes.filterMap fun node =>
  node.traits.dataBinding

/-- The entries of the timeline of a widget. -/
def entries (root : Root) : List TimelineEntry :=
  ((root.widget.bind Widget.timeline).bind Timeline.entries).getD []

structure Proper (root : Root) : Prop where
  nodes : ∀ node ∈ root.nodes, node.Proper
  contents : ∀ entry ∈ root.entries, ∀ content ∈ entry.content, content.Proper
  attributes : ∀ activity ∈ root.liveActivity,
    activity.attributes.fixed.Distinct ∧ activity.attributes.changing.Distinct
  headers : ∀ provider ∈ root.dataProvider, ∀ headers ∈ provider.headers, Bag.Distinct headers

end Root

/-! ## Tidying -/

def StyleValue.tidied : StyleValue → StyleValue
  | .number value => .number (Double.unsigned value)
  | value => value

def tidiedEntries (entries : Entries) : Entries := entries.map fun entry => (entry.1, entry.2.tidied)

def Style.tidied (style : Style) : Style :=
  .ofBuckets fun bucket => (style.bucket bucket).map tidiedEntries

def Action.tidied (action : Action) : Action :=
  { action with params := action.params.map Bag.sorted }

def Traits.tidied (traits : Traits) : Traits :=
  { traits with style := traits.style.map Style.tidied, action := traits.action.map Action.tidied }

def TextContent.tidied : TextContent → TextContent
  | .number value => .number (Double.unsigned value)
  | content => content

namespace Node

mutual

def tidied : Node → Node
  | .view traits children => .view traits.tidied (tidiedAll children)
  | .text traits content => .text traits.tidied content.tidied
  | .button traits label variant size => .button traits.tidied label variant size
  | .image traits uri resizeMode placeholder => .image traits.tidied uri resizeMode placeholder
  | .stack traits axis children => .stack traits.tidied axis (tidiedAll children)
  | .spacer traits flex => .spacer traits.tidied (flex.map Double.unsigned)
  | .progressBar traits progress indeterminate =>
    .progressBar traits.tidied (Double.unsigned progress) indeterminate
  | .list traits items renderItem horizontal => .list traits.tidied items renderItem horizontal

def tidiedAll : List Node → List Node
  | [] => []
  | node :: rest => tidied node :: tidiedAll rest

end

end Node

def DynamicIsland.map (f : Node → Node) (island : DynamicIsland) : DynamicIsland where
  compact := island.compact.map f
  minimal := island.minimal.map f
  expanded := island.expanded.map f

/-- Changes every node of the regions. -/
def ActivityRegions.map (f : Node → Node) (regions : ActivityRegions) : ActivityRegions where
  lockScreen := regions.lockScreen.map f
  dynamicIsland := regions.dynamicIsland.map (DynamicIsland.map f)

def ActivityAttributes.tidied (attributes : ActivityAttributes) : ActivityAttributes where
  fixed := Bag.sorted attributes.fixed
  changing := Bag.sorted attributes.changing

def LiveActivity.tidied (activity : LiveActivity) : LiveActivity :=
  { activity with
    attributes := activity.attributes.tidied
    regions := activity.regions.map Node.tidied }

def DataProvider.tidied (provider : DataProvider) : DataProvider :=
  { provider with headers := provider.headers.map Bag.sorted }

/-- Named values in the order of their names, and no signs of zeros where whole numbers are
written. -/
def Root.tidied (root : Root) : Root :=
  { root with
    tree := root.tree.tidied
    liveActivity := root.liveActivity.map LiveActivity.tidied
    dataProvider := root.dataProvider.map DataProvider.tidied }

/-! ### Tidying twice -/

@[simp] theorem StyleValue.tidied_tidied (value : StyleValue) :
    value.tidied.tidied = value.tidied := by
  cases value <;> simp [tidied]

@[simp] theorem tidiedEntries_tidiedEntries (entries : Entries) :
    tidiedEntries (tidiedEntries entries) = tidiedEntries entries := by
  simp [tidiedEntries, Function.comp_def]

@[simp] theorem Style.bucket_tidied (style : Style) (bucket : Bucket) :
    style.tidied.bucket bucket = (style.bucket bucket).map tidiedEntries := by
  cases bucket <;> rfl

@[simp] theorem Style.tidied_tidied (style : Style) : style.tidied.tidied = style.tidied := by
  rw [tidied]
  simp only [bucket_tidied, Option.map_map, Function.comp_def, tidiedEntries_tidiedEntries]
  rfl

@[simp] theorem Action.tidied_tidied (action : Action) : action.tidied.tidied = action.tidied := by
  simp [tidied, Function.comp_def]

@[simp] theorem Traits.tidied_tidied (traits : Traits) : traits.tidied.tidied = traits.tidied := by
  simp [tidied, Function.comp_def]

@[simp] theorem TextContent.tidied_tidied (content : TextContent) :
    content.tidied.tidied = content.tidied := by
  cases content <;> simp [tidied]

namespace Node

mutual

@[simp] theorem tidied_tidied (node : Node) : node.tidied.tidied = node.tidied := by
  cases node with
  | view traits children => simp [tidied, tidiedAll_tidiedAll children]
  | stack traits axis children => simp [tidied, tidiedAll_tidiedAll children]
  | _ => simp [tidied, Function.comp_def]

@[simp] theorem tidiedAll_tidiedAll (children : List Node) :
    tidiedAll (tidiedAll children) = tidiedAll children := by
  cases children with
  | nil => rfl
  | cons child rest => simp [tidiedAll, tidied_tidied child, tidiedAll_tidiedAll rest]

end

theorem traits_tidied (node : Node) : node.tidied.traits = node.traits.tidied := by
  cases node <;> rfl

end Node

theorem ActivityRegions.map_map (regions : ActivityRegions) (f g : Node → Node) :
    (regions.map f).map g = regions.map fun node => g (f node) := by
  have hisland : DynamicIsland.map g ∘ DynamicIsland.map f
      = DynamicIsland.map fun node => g (f node) := by
    funext island
    simp [DynamicIsland.map, Function.comp_def]
  simp only [ActivityRegions.map, Option.map_map, hisland]
  rfl

@[simp] theorem LiveActivity.tidied_tidied (activity : LiveActivity) :
    activity.tidied.tidied = activity.tidied := by
  simp [tidied, ActivityAttributes.tidied, ActivityRegions.map_map]

@[simp] theorem DataProvider.tidied_tidied (provider : DataProvider) :
    provider.tidied.tidied = provider.tidied := by
  simp [tidied, Function.comp_def]

@[simp] theorem Root.tidied_tidied (root : Root) : root.tidied.tidied = root.tidied := by
  simp [tidied, Function.comp_def]

/-! ## Dropping nulls -/

def Json.isNull : Json → Bool
  | .null => true
  | _ => false

def Traits.withoutNulls (traits : Traits) : Traits :=
  { traits with
    dataBinding := traits.dataBinding.map fun binding =>
      { binding with fallback := binding.fallback.filter fun value => !value.isNull } }

namespace Node

mutual

/-- A tree without fallbacks that are null. -/
def withoutNulls : Node → Node
  | .view traits children => .view traits.withoutNulls (withoutNullsAll children)
  | .stack traits axis children => .stack traits.withoutNulls axis (withoutNullsAll children)
  | node => node.withTraits node.traits.withoutNulls

def withoutNullsAll : List Node → List Node
  | [] => []
  | node :: rest => withoutNulls node :: withoutNullsAll rest

end

theorem traits_withoutNulls (node : Node) :
    node.withoutNulls.traits = node.traits.withoutNulls := by
  cases node <;> rfl

end Node

def TimelineEntry.withoutNulls (entry : TimelineEntry) : TimelineEntry :=
  { entry with
    relevance := entry.relevance.filter Float.isFinite
    content := entry.content.filter fun value => !value.isNull }

def Timeline.withoutNulls (timeline : Timeline) : Timeline :=
  { timeline with entries := timeline.entries.map (List.map TimelineEntry.withoutNulls) }

def Widget.withoutNulls (widget : Widget) : Widget :=
  { widget with timeline := widget.timeline.map Timeline.withoutNulls }

def LiveActivity.withoutNulls (activity : LiveActivity) : LiveActivity :=
  { activity with regions := activity.regions.map Node.withoutNulls }

/-- No fallback and no content of an entry is null, and every relevance is finite. -/
def Root.withoutNulls (root : Root) : Root :=
  { root with
    tree := root.tree.withoutNulls
    widget := root.widget.map Widget.withoutNulls
    liveActivity := root.liveActivity.map LiveActivity.withoutNulls }

end Widgetry
