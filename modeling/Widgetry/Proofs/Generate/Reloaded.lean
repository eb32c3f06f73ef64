import Widgetry.Proofs.Generate.Fields
import Widgetry.Proofs.Generate.Tidied
import Widgetry.Proofs.Root.RoundTrip

/-!
Code of roots that were written and read again. All that such code can lose is the order in which
the attributes of a live activity are declared. Main statement: the files of a root and of what is
read from its text agree exactly when the declarations of its attributes do.
-/

namespace Widgetry

open Code (Declaring Line Phrase namedFields linesOfAll)

/-! ## Files of activities -/

namespace Ios

def declaring : Declaring := ⟨"var ", attributeType, ""⟩

theorem lawful_declaring : declaring.Lawful where
  before := by decide
  type type := by cases type <;> decide
  after := by decide
  injective type other h := by cases type <;> cases other <;> first | rfl | (revert h; decide)

theorem linesOfAll_attributeFields (level : Nat) (attributes : Bag AttributeType) :
    linesOfAll quoting level (attributeFields attributes) = declaring.lines level attributes := by
  induction attributes with
  | nil => rfl
  | cons field rest ih =>
    rw [attributeFields, List.map_cons, linesOfAll, Code.lines_say]
    exact congrArg₂ _ (congrArg _ (String.append_empty ..).symm) ih

/-- The lines of the file of an activity before its changing attributes are declared. -/
def linesBefore (activity : LiveActivity) : List Line :=
  linesOfAll quoting 0
      [Code.say "import ActivityKit", Code.say "import SwiftUI", Code.say "import WidgetKit", .blank]
    ++ [Code.openingLine quoting 0 .curly (Phrase.word
          s!"struct {Code.identifier activity.activityType}Attributes: ActivityAttributes"
        ++ Phrase.word " "),
      Code.openingLine quoting 1 .curly
        (Phrase.word "public struct ContentState: Codable, Hashable" ++ Phrase.word " ")]

def linesBetween (noFixed : Bool) : List Line :=
  ⟨1, Code.Bracket.curly.closing⟩ :: if noFixed then [] else [⟨1, ""⟩]

def linesAfter (activity : LiveActivity) : List Line :=
  ⟨0, Code.Bracket.curly.closing⟩ :: linesOfAll quoting 0
    (activityConstants (Code.identifier activity.activityType) activity
      ++ [.blank, activityWidget (Code.identifier activity.activityType) activity.regions])

theorem lines_attributesType (name : String) (attributes : ActivityAttributes) :
    Code.lines quoting 0 (attributesType name attributes)
      = Code.openingLine quoting 0 .curly
          (Phrase.word s!"struct {name}Attributes: ActivityAttributes" ++ Phrase.word " ")
        :: Code.openingLine quoting 1 .curly
          (Phrase.word "public struct ContentState: Codable, Hashable" ++ Phrase.word " ")
        :: (declaring.lines 2 attributes.changing ++ (linesBetween attributes.fixed.isEmpty
          ++ (declaring.lines 1 attributes.fixed ++ [⟨0, Code.Bracket.curly.closing⟩]))) := by
  have hfixed : linesOfAll quoting 1
      (if attributes.fixed.isEmpty then [] else .blank :: attributeFields attributes.fixed)
        = (if attributes.fixed.isEmpty then [] else [⟨1, ""⟩])
          ++ declaring.lines 1 attributes.fixed := by
    cases attributes.fixed with
    | nil => rfl
    | cons field rest =>
      simp only [List.isEmpty_cons, Bool.false_eq_true, if_false, linesOfAll, Code.lines,
        linesOfAll_attributeFields]
  rw [attributesType, Code.enclose, Code.braces, Code.lines_block, linesOfAll, Code.enclose,
    Code.braces, Code.lines_block, linesOfAll_attributeFields, hfixed, linesBetween]
  simp only [List.append_assoc, List.cons_append, List.nil_append]

theorem lines_activityFile (activity : LiveActivity) (attributes : ActivityAttributes) :
    linesOfAll quoting 0 (activityFile { activity with attributes })
      = linesBefore activity ++ (declaring.lines 2 attributes.changing
        ++ (linesBetween attributes.fixed.isEmpty
          ++ (declaring.lines 1 attributes.fixed ++ linesAfter activity))) := by
  have hfile : linesOfAll quoting 0 (activityFile { activity with attributes })
      = linesOfAll quoting 0 [Code.say "import ActivityKit", Code.say "import SwiftUI",
          Code.say "import WidgetKit", .blank]
        ++ (Code.lines quoting 0 (attributesType (Code.identifier activity.activityType) attributes)
          ++ linesOfAll quoting 0 (activityConstants (Code.identifier activity.activityType) activity
            ++ [.blank, activityWidget (Code.identifier activity.activityType) activity.regions])) := by
    rw [← linesOfAll, ← Code.linesOfAll_append]
    rfl
  rw [hfile, lines_attributesType, linesBefore, linesAfter]
  simp only [List.append_assoc, List.cons_append, List.nil_append]

theorem print_activityFile_iff (activity : LiveActivity) {attributes : ActivityAttributes}
    (hfixed : attributes.fixed.length = activity.attributes.fixed.length)
    (hchanging : attributes.changing.length = activity.attributes.changing.length) :
    Code.print quoting (activityFile { activity with attributes })
        = Code.print quoting (activityFile activity)
      ↔ namedFields attributes.fixed = namedFields activity.attributes.fixed ∧
        namedFields attributes.changing = namedFields activity.attributes.changing := by
  rw [← String.toList_inj, Code.toList_print, Code.toList_print, lines_activityFile activity,
    lines_activityFile activity activity.attributes, isEmpty_eq_of_length hfixed,
    lawful_declaring.characters_eq_iff _ _ _ 2 1 hchanging hfixed, and_comm]

end Ios

namespace Android

def declaring : Declaring := ⟨"val ", attributeType, ","⟩

theorem lawful_declaring : declaring.Lawful where
  before := by decide
  type type := by cases type <;> decide
  after := by decide
  injective type other h := by cases type <;> cases other <;> first | rfl | (revert h; decide)

def classOpening (name : String) (isEmpty : Bool) : Line :=
  if isEmpty then ⟨0, "class " ++ name⟩
  else Code.openingLine quoting 0 .round (Phrase.word ("data class " ++ name))

def classClosing (isEmpty : Bool) : List Line :=
  if isEmpty then [] else [⟨0, Code.Bracket.round.closing⟩]

theorem lines_dataClass (name : String) (attributes : Bag AttributeType) :
    Code.lines quoting 0 (dataClass name attributes)
      = classOpening name attributes.isEmpty
        :: (declaring.lines 1 attributes ++ classClosing attributes.isEmpty) := by
  have hfields : ∀ attributes : Bag AttributeType,
      linesOfAll quoting 1 (attributes.map fun field =>
        Code.say s!"val {Code.identifier field.1}: {attributeType field.2},")
        = declaring.lines 1 attributes := by
    intro attributes
    induction attributes with
    | nil => rfl
    | cons field rest ih =>
      rw [List.map_cons, linesOfAll, Code.lines_say, ih]
      rfl
  cases attributes with
  | nil => exact Code.lines_say ..
  | cons field rest =>
    rw [dataClass, Code.lines_block, hfields]
    · rfl
    · nofun

/-- The lines of the file of an activity before its fixed attributes are declared. -/
def linesBefore (package : String) (activity : LiveActivity) (noFixed : Bool) : List Line :=
  linesOfAll quoting 0 (header package activityImports ++ [.blank])
    ++ [classOpening (Code.identifier activity.activityType ++ "Attributes") noFixed]

def linesBetween (activity : LiveActivity) (noFixed noChanging : Bool) : List Line :=
  classClosing noFixed
    ++ [⟨0, ""⟩, classOpening (Code.identifier activity.activityType ++ "ContentState") noChanging]

def linesAfter (activity : LiveActivity) (noChanging : Bool) : List Line :=
  classClosing noChanging ++ linesOfAll quoting 0 ((namedRegions activity.regions).flatMap
    (regionFunction (Code.identifier activity.activityType)))

theorem lines_activityFile (package : String) (activity : LiveActivity)
    (attributes : ActivityAttributes) :
    linesOfAll quoting 0 (activityFile package { activity with attributes })
      = linesBefore package activity attributes.fixed.isEmpty
        ++ (declaring.lines 1 attributes.fixed
          ++ (linesBetween activity attributes.fixed.isEmpty attributes.changing.isEmpty
            ++ (declaring.lines 1 attributes.changing
              ++ linesAfter activity attributes.changing.isEmpty))) := by
  rw [activityFile]
  simp only [Code.linesOfAll_append, linesOfAll, lines_dataClass, Code.lines, linesBefore,
    linesBetween, linesAfter, List.append_assoc, List.cons_append, List.nil_append, List.append_nil]

theorem print_activityFile_iff (package : String) (activity : LiveActivity)
    {attributes : ActivityAttributes}
    (hfixed : attributes.fixed.length = activity.attributes.fixed.length)
    (hchanging : attributes.changing.length = activity.attributes.changing.length) :
    Code.print quoting (activityFile package { activity with attributes })
        = Code.print quoting (activityFile package activity)
      ↔ namedFields attributes.fixed = namedFields activity.attributes.fixed ∧
        namedFields attributes.changing = namedFields activity.attributes.changing := by
  rw [← String.toList_inj, Code.toList_print, Code.toList_print,
    lines_activityFile package activity, lines_activityFile package activity activity.attributes,
    isEmpty_eq_of_length hfixed, isEmpty_eq_of_length hchanging,
    lawful_declaring.characters_eq_iff _ _ _ 1 1 hfixed hchanging]

end Android

/-! ## Files of roots without nulls and signs -/

/-- The places of an island change as its nodes do. -/
theorem ActivityRegions.places_map (regions : ActivityRegions) (f : Node → Node) :
    (regions.map f).dynamicIsland.bind DynamicIsland.compact
        = (regions.dynamicIsland.bind DynamicIsland.compact).map f ∧
      (regions.map f).dynamicIsland.bind DynamicIsland.minimal
        = (regions.dynamicIsland.bind DynamicIsland.minimal).map f ∧
      (regions.map f).dynamicIsland.bind DynamicIsland.expanded
        = (regions.dynamicIsland.bind DynamicIsland.expanded).map f := by
  rw [ActivityRegions.map]
  cases regions.dynamicIsland with
  | none => exact ⟨rfl, rfl, rfl⟩
  | some island => exact ⟨rfl, rfl, rfl⟩

/-- A node as it is read back. -/
def Node.settled (node : Node) : Node := node.withoutNulls.tidied

theorem LiveActivity.regions_settled (activity : LiveActivity) :
    activity.withoutNulls.tidied.regions = activity.regions.map Node.settled :=
  activity.regions.map_map _ _

namespace Ios

theorem view_settled (node : Node) : view node.settled = view node := by
  rw [Node.settled, view_tidied, view_withoutNulls]

theorem activityWidget_settled (name : String) (regions : ActivityRegions) :
    activityWidget name (regions.map Node.settled) = activityWidget name regions := by
  have hregion : ∀ node sign, region (Option.map Node.settled node) sign = region node sign := by
    intro node sign
    cases node with
    | none => rfl
    | some node => exact view_settled node
  have hisland : island (regions.map Node.settled) = island regions := by
    obtain ⟨hcompact, hminimal, hexpanded⟩ := regions.places_map Node.settled
    simp only [island, hcompact, hminimal, hexpanded, hregion]
  rw [activityWidget, hisland, ActivityRegions.map, hregion, activityWidget]

theorem activityFile_settled (activity : LiveActivity) :
    activityFile activity.withoutNulls.tidied
      = activityFile { activity with attributes := activity.attributes.tidied } := by
  rw [activityFile, activity.regions_settled, activityWidget_settled]
  rfl

theorem viewFile_settled (root : Root) :
    viewFile root.withoutNulls.tidied = viewFile root := by
  have htree : view root.withoutNulls.tidied.tree = view root.tree := view_settled root.tree
  rw [viewFile, htree, viewFile]
  rfl

theorem bundleFile_withoutNulls (name : String) (widget : Widget) :
    bundleFile [(name, widget.withoutNulls)] = bundleFile [(name, widget)] := by
  have hpolicy : widget.withoutNulls.timeline.bind Timeline.policy
      = widget.timeline.bind Timeline.policy := by
    rw [Widget.withoutNulls]
    cases widget.timeline <;> rfl
  have hprovider : provider name widget.withoutNulls = provider name widget := by
    rw [provider, hpolicy, provider]
  simp only [bundleFile, List.flatMap_cons, hprovider]
  rfl

end Ios

namespace Android

theorem screenFunction_settled (name : String) (node : Node) :
    screenFunction name node.settled = screenFunction name node := by
  rw [screenFunction, Node.settled, usesContext_tidied, usesContext_withoutNulls,
    composable_tidied, composable_withoutNulls, screenFunction]

theorem activityFile_settled (package : String) (activity : LiveActivity) :
    activityFile package activity.withoutNulls.tidied
      = activityFile package { activity with attributes := activity.attributes.tidied } := by
  have hregion : ∀ name ending node, regionFunction name (ending, Option.map Node.settled node)
      = regionFunction name (ending, node) := by
    intro name ending node
    cases node with
    | none => rfl
    | some node => exact congrArg (_ :: ·) (screenFunction_settled _ node)
  have hregions : ∀ name, (namedRegions (activity.regions.map Node.settled)).flatMap
      (regionFunction name) = (namedRegions activity.regions).flatMap (regionFunction name) := by
    intro name
    obtain ⟨hcompact, hminimal, hexpanded⟩ := activity.regions.places_map Node.settled
    have hlock : (activity.regions.map Node.settled).lockScreen
        = activity.regions.lockScreen.map Node.settled := rfl
    simp only [namedRegions, hlock, hcompact, hminimal, hexpanded, List.flatMap_cons, hregion]
  rw [activityFile, activity.regions_settled, hregions]
  rfl

theorem screenFile_settled (package : String) (root : Root) :
    screenFile package root.withoutNulls.tidied = screenFile package root :=
  congrArg (_ ++ _ :: ·) (screenFunction_settled _ root.tree)

theorem glanceFile_settled (package : String) (root : Root) :
    glanceFile package root.withoutNulls.tidied = glanceFile package root := by
  have htree : composable .glance false root.withoutNulls.tidied.tree
      = composable .glance false root.tree := by
    rw [Root.tidied, composable_tidied, Root.withoutNulls, composable_withoutNulls]
  rw [glanceFile, htree, glanceFile]
  rfl

end Android

/-! ## Files of what is read back -/

/-- The attributes are declared in the order of their names, as far as their declarations tell. -/
def ActivityAttributes.InOrder (attributes : ActivityAttributes) : Prop :=
  namedFields attributes.tidied.fixed = namedFields attributes.fixed ∧
    namedFields attributes.tidied.changing = namedFields attributes.changing

instance (attributes : ActivityAttributes) : Decidable attributes.InOrder :=
  inferInstanceAs (Decidable (_ ∧ _))

namespace Root

theorem liveActivity_settled (root : Root) : root.withoutNulls.tidied.liveActivity
    = root.liveActivity.map fun activity => activity.withoutNulls.tidied := by
  simp only [tidied, withoutNulls, Option.map_map, Function.comp_def]

theorem Proper.length_tidied {root : Root} (proper : root.Proper) {activity : LiveActivity}
    (h : root.liveActivity = some activity) :
    activity.attributes.tidied.fixed.length = activity.attributes.fixed.length ∧
      activity.attributes.tidied.changing.length = activity.attributes.changing.length :=
  ⟨(Bag.sorted_perm (proper.attributes activity h).1).length_eq,
    (Bag.sorted_perm (proper.attributes activity h).2).length_eq⟩

end Root

theorem Ios.files_settled_iff {root : Root} (proper : root.Proper) :
    Ios.files [root.withoutNulls.tidied] = Ios.files [root] ↔
      ∀ activity ∈ root.liveActivity, activity.attributes.InOrder := by
  cases h : root.liveActivity with
  | some activity =>
    obtain ⟨hfixed, hchanging⟩ := proper.length_tidied h
    have hfiles : ∀ found : Root, ∀ activity : LiveActivity, found.liveActivity = some activity →
        Ios.files [found] = [⟨s!"BrikActivities/{Code.identifier activity.activityType}Activity.swift",
          Code.print quoting (activityFile activity)⟩] := by
      intro found activity hfound
      simp [Ios.files, rootFile, registered?, hfound]
    rw [hfiles root activity h, hfiles _ activity.withoutNulls.tidied
      (by rw [root.liveActivity_settled, h, Option.map_some]), activityFile_settled]
    simp only [List.cons.injEq, CodeFile.mk.injEq, and_true, Option.mem_def, Option.some.injEq,
      forall_eq']
    exact (and_iff_right rfl).trans (print_activityFile_iff activity hfixed hchanging)
  | none =>
    have hsettled : root.withoutNulls.tidied.liveActivity = none := by
      rw [root.liveActivity_settled, h, Option.map_none]
    have hfile : rootFile root.withoutNulls.tidied = rootFile root := by
      simp only [rootFile, h, hsettled, viewFile_settled]
      rfl
    have hwidget : root.withoutNulls.tidied.widget = root.widget.map Widget.withoutNulls := rfl
    refine iff_of_true ?_ (by simp)
    simp only [Ios.files, List.map_cons, hfile, registered?, h, hsettled, hwidget,
      List.filterMap_cons]
    cases root.widget with
    | none => rfl
    | some widget =>
      exact congrArg (fun code => [rootFile root, ⟨"BrikWidget/BrikWidget.swift",
        Code.print quoting code⟩]) (bundleFile_withoutNulls _ widget)

theorem Android.files_settled_iff (package : String) {root : Root} (proper : root.Proper) :
    Android.files package [root.withoutNulls.tidied] = Android.files package [root] ↔
      ∀ activity ∈ root.liveActivity, activity.attributes.InOrder := by
  simp only [Android.files, List.map_cons, List.map_nil, List.cons.injEq, and_true]
  cases h : root.liveActivity with
  | some activity =>
    obtain ⟨hfixed, hchanging⟩ := proper.length_tidied h
    simp only [rootFile, root.liveActivity_settled, h, Option.map_some, activityFile_settled,
      CodeFile.mk.injEq, Option.mem_def, Option.some.injEq, forall_eq']
    exact (and_iff_right rfl).trans (print_activityFile_iff package activity hfixed hchanging)
  | none =>
    have hwidget : root.withoutNulls.tidied.widget = root.widget.map Widget.withoutNulls := rfl
    refine iff_of_true ?_ (by simp)
    simp only [rootFile, root.liveActivity_settled, h, Option.map_none, hwidget]
    cases root.widget with
    | none => simp only [Option.map_none, screenFile_settled]; rfl
    | some widget => simp only [Option.map_some, glanceFile_settled]; rfl

theorem Target.generate_singleton (target : Target) (root : Root)
    (h : root.version = currentVersion) : target.generate [root] = .ok (match target with
      | .ios => Ios.files [root]
      | .android package => Android.files package [root]) := by
  simp only [Target.generate, Root.ensureVersions, if_pos h]
  cases target <;> rfl

/-- A root that is written and read again gives the same code exactly when its attributes stand in
order. Nothing else that a text forgets is told by code. -/
theorem generate_parsed_iff {root found : Root} {text : String} (target : Target)
    (proper : root.Proper) (valid : root.check = .ok ())
    (stable : ∀ x ∈ root.toJson.floats, x.isFinite = true → Json.Stable x)
    (printed : text = root.toJson.compact ∨ text = root.toJson.pretty)
    (parsed : Root.parse text = .ok found) :
    (∃ files, target.generate [root] = .ok files ∧ target.generate [found] = .ok files) ↔
      ∀ activity ∈ root.liveActivity, activity.attributes.InOrder := by
  have hvalid := Root.check_eq_ok_iff.1 valid
  have hfound : found = root.withoutNulls.tidied := by
    rw [Root.parse_printed proper hvalid stable printed] at parsed
    split at parsed
    · exact (Except.ok.inj parsed).symm
    · cases parsed
  subst hfound
  have hfiles : (∃ files, target.generate [root] = .ok files ∧
      target.generate [root.withoutNulls.tidied] = .ok files) ↔
      target.generate [root.withoutNulls.tidied] = target.generate [root] := by
    rw [target.generate_singleton root hvalid.version]
    simp only [Except.ok.injEq, exists_eq_left']
  rw [hfiles, target.generate_singleton root hvalid.version,
    target.generate_singleton root.withoutNulls.tidied hvalid.version, Except.ok.injEq]
  cases target with
  | ios => exact Ios.files_settled_iff proper
  | android package => exact Android.files_settled_iff package proper

/-- Two attributes that are out of order are declared in another order after reading. -/
theorem generate_parsed_gauge : Root.gauge.check = .ok () ∧
    (∀ x ∈ Root.gauge.toJson.floats, Json.Stable x) ∧
    Root.parse Root.gauge.toJson.pretty = .ok Root.gauge.tidied ∧
    ∀ target : Target, ¬ ∃ files, target.generate [Root.gauge] = .ok files ∧
      target.generate [Root.gauge.tidied] = .ok files := by
  have hparse : Root.parse Root.gauge.toJson.pretty = .ok Root.gauge.tidied := by
    rw [Root.parse_printed Root.proper_gauge (Root.check_eq_ok_iff.1 Root.check_gauge)
      (fun x hx _ => Root.stable_gauge x hx) (.inr rfl), if_pos (by decide +kernel)]
    rfl
  have horder : ¬ ∀ activity ∈ Root.gauge.liveActivity, activity.attributes.InOrder := by
    decide +kernel
  refine ⟨Root.check_gauge, Root.stable_gauge, hparse, fun target hfiles => horder ?_⟩
  exact (generate_parsed_iff target Root.proper_gauge Root.check_gauge
    (fun x hx _ => Root.stable_gauge x hx) (.inr rfl) hparse).1 hfiles

end Widgetry
