import Widgetry.Proofs.Json.Numbers
import Widgetry.Root.Validation

/-!
The fields of a root that have a rule, each with its path. Names of parameters are any texts, but they
stand at the end of a path. Main statement: no two fields have the same path.
-/

namespace Widgetry

/-! ## Fields -/

/-- The fields of a node that have a rule. -/
inductive Node.Field where
  | text
  | progress
  | flex
  | renderItem
  | style (bucket : Bucket) (key : String)
  | param (name : String)
  | bindingKey

def Node.Field.path : Node.Field → String
  | .text => ".text"
  | .progress => ".progress"
  | .flex => ".flex"
  | .renderItem => ".renderItem"
  | .style bucket key => ".style." ++ bucket.name ++ "." ++ key
  | .param name => ".action.params." ++ name
  | .bindingKey => ".dataBinding.key"

namespace Node

/-- The path that leads to a node by the positions of children. -/
def addressPath : List Nat → String
  | [] => ""
  | position :: rest => ".children." ++ toString position ++ addressPath rest

/-- The path of a field of a node below the node at `path`. -/
def sitePath (path : String) (site : List Nat × Field) : String :=
  path ++ addressPath site.1 ++ site.2.path

end Node

/-- The regions of a live activity. -/
inductive Region where
  | lockScreen
  | compact
  | minimal
  | expanded
deriving DecidableEq

def Region.all : List Region := [.lockScreen, .compact, .minimal, .expanded]

def Region.path : Region → String
  | .lockScreen => "regions.lockScreen"
  | .compact => "regions.dynamicIsland.compact"
  | .minimal => "regions.dynamicIsland.minimal"
  | .expanded => "regions.dynamicIsland.expanded"

/-- The fields of a widget that have a rule. -/
inductive Widget.Field where
  | kind
  | families
  | minutes
  | date (position : Nat)

def Widget.Field.path : Widget.Field → String
  | .kind => "widget.kind"
  | .families => "widget.families"
  | .minutes => "widget.timeline.policy.minutes"
  | .date position => "widget.timeline.entries." ++ toString position ++ ".date"

/-- The fields of a live activity that have a rule. -/
inductive LiveActivity.Field where
  | activityType
  | relevanceScore
  | node (region : Region) (address : List Nat) (field : Node.Field)

def LiveActivity.Field.path : LiveActivity.Field → String
  | .activityType => "liveActivity.activityType"
  | .relevanceScore => "liveActivity.relevanceScore"
  | .node region address field => Node.sitePath ("liveActivity." ++ region.path) (address, field)

/-- The fields of a root that have a rule. -/
inductive Site where
  | version
  | rootId
  | tree (address : List Nat) (field : Node.Field)
  | widget (field : Widget.Field)
  | activity (field : LiveActivity.Field)
  | refreshInterval

def Site.path : Site → String
  | .version => "version"
  | .rootId => "rootId"
  | .tree address field => Node.sitePath "tree" (address, field)
  | .widget field => field.path
  | .activity field => field.path
  | .refreshInterval => "dataProvider.refreshInterval"

/-! ## Paths -/

/-- What stands before the first point, and what stands behind it. -/
theorem append_point_inj {a b s t : String} (ha : '.' ∉ a.toList) (hb : '.' ∉ b.toList)
    (h : a ++ ("." ++ s) = b ++ ("." ++ t)) : a = b ∧ s = t := by
  have hlist : a.toList ++ '.' :: s.toList = b.toList ++ '.' :: t.toList := by
    simpa using congrArg String.toList h
  simp only [← String.toList_inj]
  obtain ⟨more, hmore, hrest⟩ | ⟨more, hmore, hrest⟩ := List.append_eq_append_iff.1 hlist <;>
    cases more <;> simp_all

theorem point_not_mem_toString (n : Nat) : '.' ∉ (toString n).toList := by
  intro h
  have hdigit := Json.isDigit_of_mem_repr h
  cases hdigit

/-- A character of a text stays where it is when more is appended. -/
theorem getElem?_toList_append {s : String} {i : Nat} {c : Char} (h : s.toList[i]? = some c)
    (t : String) : (s ++ t).toList[i]? = some c := by
  obtain ⟨hlt, -⟩ := List.getElem?_eq_some_iff.1 h
  rw [String.toList_append, List.getElem?_append_left hlt, h]

namespace Node

/-- The letter behind the point that a path starts with. It tells the kinds of fields apart, and none
is the letter of children. -/
def Field.letter : Field → Char
  | .text => 't'
  | .progress => 'p'
  | .flex => 'f'
  | .renderItem => 'r'
  | .style .. => 's'
  | .param _ => 'a'
  | .bindingKey => 'd'

theorem Field.getElem?_path (field : Field) : field.path.toList[1]? = some field.letter := by
  cases field with
  | style bucket key =>
    have hstyle : ".style.".toList[1]? = some 's' := rfl
    exact getElem?_toList_append
      (getElem?_toList_append (getElem?_toList_append hstyle bucket.name) ".") key
  | param name =>
    have hparams : ".action.params.".toList[1]? = some 'a' := rfl
    exact getElem?_toList_append hparams name
  | text => rfl
  | progress => rfl
  | flex => rfl
  | renderItem => rfl
  | bindingKey => rfl

theorem Field.path_injective : Function.Injective Field.path := by
  intro a b h
  have hletter : a.letter = b.letter := by
    have hsecond := a.getElem?_path
    rw [h, b.getElem?_path] at hsecond
    exact (Option.some.inj hsecond).symm
  cases a <;> cases b <;> simp [letter] at hletter <;> try rfl
  case style.style bucket key other key' =>
    have hpoint : ∀ bucket : Bucket, '.' ∉ bucket.name.toList := by
      intro bucket
      cases bucket <;> decide
    have h : ".style." ++ bucket.name ++ "." ++ key = ".style." ++ other.name ++ "." ++ key' := h
    simp only [String.append_assoc] at h
    obtain ⟨hname, rfl⟩ := append_point_inj (hpoint bucket) (hpoint other)
      ((String.append_right_inj ".style.").1 h)
    obtain rfl : bucket = other := by
      revert hname
      cases bucket <;> cases other <;> decide
    rfl
  case param.param name other =>
    rw [(String.append_right_inj ".action.params.").1 h]

theorem Field.exists_tail (field : Field) : ∃ rest, field.path = "." ++ rest := by
  cases field with
  | style bucket key =>
    have hlead : ".style." = "." ++ "style." := rfl
    have hpath : (Field.style bucket key).path = ".style." ++ bucket.name ++ "." ++ key := rfl
    exact ⟨"style." ++ bucket.name ++ "." ++ key, by simp only [hpath, hlead, String.append_assoc]⟩
  | param name =>
    have hlead : ".action.params." = "." ++ "action.params." := rfl
    have hpath : (Field.param name).path = ".action.params." ++ name := rfl
    exact ⟨"action.params." ++ name, by rw [hpath, hlead, String.append_assoc]⟩
  | text => exact ⟨"text", rfl⟩
  | progress => exact ⟨"progress", rfl⟩
  | flex => exact ⟨"flex", rfl⟩
  | renderItem => exact ⟨"renderItem", rfl⟩
  | bindingKey => exact ⟨"dataBinding.key", rfl⟩

/-- The rest of a path stands behind a point. -/
theorem exists_tail (address : List Nat) (field : Field) :
    ∃ rest, addressPath address ++ field.path = "." ++ rest := by
  cases address with
  | nil =>
    obtain ⟨rest, hrest⟩ := field.exists_tail
    exact ⟨rest, by rw [addressPath, String.empty_append, hrest]⟩
  | cons position rest =>
    have hlead : ".children." = "." ++ "children." := rfl
    refine ⟨"children." ++ toString position ++ addressPath rest ++ field.path, ?_⟩
    simp only [addressPath, hlead, String.append_assoc]

/-- A path to a field is never one to a child. -/
theorem Field.path_ne_children (field : Field) (rest : String) : field.path ≠ ".children." ++ rest := by
  intro h
  have hchildren : ".children.".toList[1]? = some 'c' := rfl
  have hsecond := field.getElem?_path
  rw [h, getElem?_toList_append hchildren rest] at hsecond
  cases field <;> simp [letter] at hsecond

theorem sitePath_injective (path : String) : Function.Injective (sitePath path) := by
  rintro ⟨address, field⟩ ⟨address', field'⟩ h
  simp only [sitePath, String.append_assoc, String.append_right_inj] at h
  induction address generalizing address' with
  | nil =>
    cases address' with
    | nil =>
      simp only [addressPath, String.empty_append] at h
      rw [Field.path_injective h]
    | cons position' rest' =>
      simp only [addressPath, String.empty_append, String.append_assoc] at h
      exact absurd h (field.path_ne_children _)
  | cons position rest ih =>
    cases address' with
    | nil =>
      simp only [addressPath, String.empty_append, String.append_assoc] at h
      exact absurd h.symm (field'.path_ne_children _)
    | cons position' rest' =>
      simp only [addressPath, String.append_assoc, String.append_right_inj] at h
      obtain ⟨tail, htail⟩ := exists_tail rest field
      obtain ⟨tail', htail'⟩ := exists_tail rest' field'
      rw [htail, htail'] at h
      obtain ⟨hposition, rfl⟩ :=
        append_point_inj (point_not_mem_toString position) (point_not_mem_toString position') h
      obtain rfl := Nat.repr_injective hposition
      cases ih rest' (htail.trans htail'.symm)
      rfl

theorem getElem?_sitePath {path : String} {i : Nat} {c : Char} (h : path.toList[i]? = some c)
    (site : List Nat × Field) : (sitePath path site).toList[i]? = some c :=
  getElem?_toList_append (getElem?_toList_append h _) _

end Node

theorem Widget.Field.path_injective : Function.Injective path := by
  have hkind : kind.path.toList[7]? = some 'k' := rfl
  have hfamilies : families.path.toList[7]? = some 'f' := rfl
  have hminutes : minutes.path.toList[7]? = some 't' ∧ minutes.path.toList[16]? = some 'p' :=
    ⟨rfl, rfl⟩
  have hdate : ∀ position, (date position).path.toList[7]? = some 't' ∧
      (date position).path.toList[16]? = some 'e' := fun position =>
    ⟨getElem?_toList_append (getElem?_toList_append rfl _) _,
      getElem?_toList_append (getElem?_toList_append rfl _) _⟩
  intro a b h
  have hplace := congrArg (fun path => path.toList[7]?) h
  have hlater := congrArg (fun path => path.toList[16]?) h
  cases a <;> cases b <;>
    simp [hkind, hfamilies, hminutes, hdate] at hplace hlater <;> try rfl
  case date.date position position' =>
    have hdigits := (String.append_right_inj _).1 ((String.append_left_inj _).1 h)
    rw [Nat.repr_injective hdigits]

/-- Regions stay apart, whatever stands behind them. -/
theorem Region.eq_of_sitePath_eq {region region' : Region} {site site' : List Nat × Node.Field}
    (h : Node.sitePath ("liveActivity." ++ region.path) site
      = Node.sitePath ("liveActivity." ++ region'.path) site') : region = region' := by
  have hlock : ∀ site, (Node.sitePath ("liveActivity." ++ lockScreen.path) site).toList[21]?
      = some 'l' := Node.getElem?_sitePath rfl
  have hisland : ∀ region : Region, region ≠ .lockScreen → ∀ site,
      (Node.sitePath ("liveActivity." ++ region.path) site).toList[21]? = some 'd' := by
    intro region hregion
    cases region with
    | lockScreen => exact absurd rfl hregion
    | _ => exact Node.getElem?_sitePath rfl
  have hcompact : ∀ site, (Node.sitePath ("liveActivity." ++ compact.path) site).toList[35]?
      = some 'c' := Node.getElem?_sitePath rfl
  have hminimal : ∀ site, (Node.sitePath ("liveActivity." ++ minimal.path) site).toList[35]?
      = some 'm' := Node.getElem?_sitePath rfl
  have hexpanded : ∀ site, (Node.sitePath ("liveActivity." ++ expanded.path) site).toList[35]?
      = some 'e' := Node.getElem?_sitePath rfl
  have hplace := congrArg (fun path => path.toList[21]?) h
  have hlater := congrArg (fun path => path.toList[35]?) h
  cases region <;> cases region' <;>
    simp [hlock, hisland, hcompact, hminimal, hexpanded] at hplace hlater <;> rfl

theorem LiveActivity.Field.path_injective : Function.Injective path := by
  have htype : activityType.path.toList[13]? = some 'a' := rfl
  have hscore : relevanceScore.path.toList[13]? = some 'r' ∧
      relevanceScore.path.toList[15]? = some 'l' := ⟨rfl, rfl⟩
  have hnode : ∀ region address field, (node region address field).path.toList[13]? = some 'r' ∧
      (node region address field).path.toList[15]? = some 'g' := by
    intro region address field
    cases region <;> exact ⟨Node.getElem?_sitePath rfl _, Node.getElem?_sitePath rfl _⟩
  intro a b h
  have hplace := congrArg (fun path => path.toList[13]?) h
  have hlater := congrArg (fun path => path.toList[15]?) h
  cases a <;> cases b <;> simp [htype, hscore, hnode] at hplace hlater <;> try rfl
  case node.node region address field region' address' field' =>
    obtain rfl := Region.eq_of_sitePath_eq h
    cases Node.sitePath_injective _ h
    rfl

theorem Site.path_injective : Function.Injective path := by
  have hversion : version.path.toList[0]? = some 'v' := rfl
  have hrootId : rootId.path.toList[0]? = some 'r' := rfl
  have htree : ∀ address field, (tree address field).path.toList[0]? = some 't' :=
    fun address field => Node.getElem?_sitePath rfl _
  have hwidget : ∀ field, (widget field).path.toList[0]? = some 'w' := by
    intro field
    cases field with
    | date position => exact getElem?_toList_append (getElem?_toList_append rfl _) _
    | _ => rfl
  have hactivity : ∀ field, (activity field).path.toList[0]? = some 'l' := by
    intro field
    cases field with
    | node region address field =>
      exact Node.getElem?_sitePath (getElem?_toList_append rfl _) _
    | _ => rfl
  have hinterval : refreshInterval.path.toList[0]? = some 'd' := rfl
  intro a b h
  have hfirst := congrArg (fun path => path.toList[0]?) h
  cases a <;> cases b <;>
    simp [htree, hwidget, hactivity, hversion, hrootId, hinterval] at hfirst <;> try rfl
  case tree.tree address field address' field' =>
    cases Node.sitePath_injective _ h
    rfl
  case widget.widget field field' => rw [Widget.Field.path_injective h]
  case activity.activity field field' => rw [LiveActivity.Field.path_injective h]

end Widgetry
