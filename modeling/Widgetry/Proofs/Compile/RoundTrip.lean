import Widgetry.Compile
import Widgetry.Proofs.Markup.Proper
import Widgetry.Proofs.Root.RoundTrip

/-!
Compiled roots and their texts. A root that comes out of a file is proper and keeps all rules, so
its text says all of it but two things: a fallback that is null is read as none, and what nests too
deeply is not read at all. Main statement: these are the only roots that are not read back.
-/

namespace Widgetry

/-! ## What a file gives -/

theorem compileSource_eq_some {text file rootId : String} {asWidget : Bool} {root : Root}
    (h : compileSource text file rootId asWidget = .ok (some root)) :
    ∃ program, rootOf? text file rootId asWidget program = some root ∧ root.check = .ok () := by
  unfold compileSource at h
  split at h
  · cases h
  · rename_i program _
    split at h
    · cases h
    · rename_i found hfound
      split at h <;> cases h
      exact ⟨program, hfound, ‹_›⟩

theorem rootOf?_cases {text file rootId : String} {asWidget : Bool} {program : Source.Program}
    {root : Root} (h : rootOf? text file rootId asWidget program = some root) :
    (∃ activity, Markup.findActivity? text program = some activity ∧
      root = { Root.ofTree rootId Node.placeholder with liveActivity := some activity }) ∨
    ∃ tree marked widget, Markup.findTree text program = some (tree, marked) ∧
      (∀ w, widget = some w → w = Widget.default rootId file) ∧
      root = { Root.ofTree rootId tree with widget } := by
  unfold rootOf? at h
  split at h
  · rename_i activity hactivity
    cases h
    exact .inl ⟨activity, hactivity, rfl⟩
  · obtain ⟨⟨tree, marked⟩, htree, rfl⟩ := Option.map_eq_some_iff.1 h
    refine .inr ⟨tree, marked, _, htree, fun w hw => ?_, rfl⟩
    split at hw <;> cases hw
    rfl

/-- No file gives a timeline. -/
theorem entries_rootOf? {text file rootId : String} {asWidget : Bool} {program : Source.Program}
    {root : Root} (h : rootOf? text file rootId asWidget program = some root) :
    root.entries = [] := by
  rcases rootOf?_cases h with ⟨activity, -, rfl⟩ | ⟨tree, marked, widget, -, hwidget, rfl⟩
  · rfl
  · cases widget with
    | none => rfl
    | some w =>
      rw [hwidget w rfl]
      rfl

theorem proper_placeholder : Node.placeholder.ProperTree :=
  Node.properTree_view Traits.proper_empty nofun

/-- Every root of a file is proper. -/
theorem proper_rootOf? {text file rootId : String} {asWidget : Bool} {program : Source.Program}
    {root : Root} (h : rootOf? text file rootId asWidget program = some root) : root.Proper := by
  have hcontents : ∀ entry ∈ root.entries, ∀ content ∈ entry.content, content.Proper := by
    rw [entries_rootOf? h]
    exact fun _ h => absurd h List.not_mem_nil
  rcases rootOf?_cases h with ⟨activity, hactivity, rfl⟩ | ⟨tree, marked, widget, htree, -, rfl⟩
  · have hproper := Markup.proper_findActivity? hactivity
    refine ⟨fun n hn => ?_, hcontents, ?_, nofun⟩
    · rcases Root.mem_nodes_iff.1 hn with htree | ⟨_, ⟨⟩, node, hnode, hn⟩
      · exact proper_placeholder n htree
      · exact hproper.regions node hnode n hn
    · rintro _ ⟨⟩
      exact ⟨hproper.fixed, hproper.changing⟩
  · refine ⟨fun n hn => ?_, hcontents, nofun, nofun⟩
    rcases Root.mem_nodes_iff.1 hn with hn | ⟨_, ⟨⟩, _⟩
    exact Markup.proper_findTree program htree n hn

/-! ## Bindings -/

namespace Root

theorem bindings_map {root other : Root} {f : Node → Node} (g : DataBinding → DataBinding)
    (hnodes : other.nodes = root.nodes.map f)
    (hf : ∀ node, (f node).traits.dataBinding = node.traits.dataBinding.map g) :
    other.bindings = root.bindings.map g := by
  simp only [bindings, hnodes, List.filterMap_map, List.map_filterMap, Function.comp_def, hf]

theorem bindings_tidied (root : Root) : root.tidied.bindings = root.bindings := by
  have h := bindings_map id root.nodes_tidied fun node => by
    rw [Node.traits_tidied, Option.map_id]
    rfl
  rwa [List.map_id] at h

/-- No binding falls back to null once the nulls are dropped. -/
theorem fallback_withoutNulls (root : Root) :
    ∀ binding ∈ root.withoutNulls.bindings, binding.fallback ≠ some .null := by
  rw [bindings_map _ root.nodes_withoutNulls fun node => by
    rw [Node.traits_withoutNulls]
    rfl]
  intro binding hbinding hnull
  obtain ⟨written, -, rfl⟩ := List.mem_map.1 hbinding
  obtain ⟨-, h⟩ := Option.filter_eq_some_iff.1 hnull
  cases h

end Root

/-! ## Reading what was compiled -/

/-- A compiled root is read back, up to the order of named values and the signs of zeros, unless it
nests too deeply or a binding of it falls back to null. -/
theorem parse_compiled_iff {text file rootId : String} {asWidget : Bool} {root : Root}
    (compiled : compileSource text file rootId asWidget = .ok (some root))
    (stable : ∀ x ∈ root.toJson.floats, Json.Stable x) :
    (∃ found, Root.parse root.toJson.pretty = .ok found ∧ found.tidied = root.tidied)
      ↔ root.toJson.depth ≤ 127 ∧ ∀ binding ∈ root.bindings, binding.fallback ≠ some .null := by
  obtain ⟨program, hroot, hcheck⟩ := compileSource_eq_some compiled
  have hparse := Root.parse_printed (proper_rootOf? hroot) (Root.check_eq_ok_iff.1 hcheck)
    (fun x hx _ => stable x hx) (.inr rfl)
  have hentries := entries_rootOf? hroot
  constructor
  · rintro ⟨found, hfound, hsame⟩
    rw [hfound] at hparse
    split at hparse <;> cases hparse
    refine ⟨‹_›, ?_⟩
    -- Tidying leaves the bindings alone, so those of the root are the ones without nulls.
    rw [← root.bindings_tidied, ← hsame, Root.bindings_tidied, Root.bindings_tidied]
    exact root.fallback_withoutNulls
  · rintro ⟨hdepth, hfallbacks⟩
    have hdepth : root.toJson.depth ≤ Json.maxDepth := hdepth
    have hnulls : root.withoutNulls = root := Root.withoutNulls_eq hfallbacks
      (by rw [hentries]; exact fun _ h => absurd h List.not_mem_nil)
      (by rw [hentries]; exact fun _ h => absurd h List.not_mem_nil)
    rw [if_pos hdepth, hnulls] at hparse
    exact ⟨root.tidied, hparse, root.tidied_tidied⟩

/-- What can be computed of the root of a file. -/
theorem exists_compiled (text file rootId : String) (asWidget : Bool) (test : Root → Bool)
    (h : (match compileSource text file rootId asWidget with
      | .ok (some root) => test root
      | _ => false) = true) :
    ∃ root, compileSource text file rootId asWidget = .ok (some root) ∧ test root = true := by
  split at h
  · exact ⟨_, ‹_›, h⟩
  · cases h

/-- A text that is bound to a value and falls back to null. -/
def boundText : String :=
  "<Text dataBinding=\x7b\x7bsource: 'local', key: 'k', fallback: null\x7d\x7d>x</Text>"

theorem not_parse_boundText : ∃ root,
    compileSource boundText "Level.tsx" "level" false = .ok (some root) ∧
      (∀ x ∈ root.toJson.floats, Json.Stable x) ∧
      ¬ ∃ found, Root.parse root.toJson.pretty = .ok found ∧ found.tidied = root.tidied := by
  obtain ⟨root, hcompiled, htest⟩ := exists_compiled boundText "Level.tsx" "level" false
    (fun root => root.toJson.floats.isEmpty &&
      root.bindings.any fun binding => binding.fallback.any Json.isNull)
    (by decide +kernel)
  simp only [Bool.and_eq_true, List.isEmpty_iff, List.any_eq_true] at htest
  obtain ⟨hfloats, binding, hbinding, hnull⟩ := htest
  have hstable : ∀ x ∈ root.toJson.floats, Json.Stable x := by simp [hfloats]
  refine ⟨root, hcompiled, hstable, fun h => ?_⟩
  refine ((parse_compiled_iff hcompiled hstable).1 h).2 binding hbinding ?_
  cases hfallback : binding.fallback with
  | none =>
    rw [hfallback] at hnull
    cases hnull
  | some value =>
    rw [hfallback] at hnull
    rw [Json.isNull_eq_true_iff.1 hnull]

end Widgetry
