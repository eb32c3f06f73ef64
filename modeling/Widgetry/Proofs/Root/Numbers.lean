import Widgetry.Proofs.Decimal.Finite
import Widgetry.Proofs.Node.Numbers
import Widgetry.Proofs.Root.Validity

/-!
The numbers of a root that a rule of the format is about. In a root that keeps all rules they are
finite, and so are the numbers that are made out of them.
-/

namespace Widgetry

/-! ## Numbers with a rule -/

/-- A number of the root that is checked. -/
inductive Root.Checks (root : Root) : Float → Prop
  | style {node : Node} {style : Style} {bucket : Bucket} {entries : Entries} {key : String}
      {kind : ValueKind} {x : Float} (hnode : node ∈ root.nodes)
      (hstyle : node.traits.style = some style) (hentries : style.bucket bucket = some entries)
      (hentry : (key, .number x) ∈ entries) (hkind : bucket.keys.lookup key = some kind) :
      Checks root x
  | text {traits : Traits} {x : Float} (hnode : .text traits (.number x) ∈ root.nodes) :
      Checks root x
  | flex {traits : Traits} {x : Float} (hnode : .spacer traits (some x) ∈ root.nodes) :
      Checks root x
  | progress {traits : Traits} {x : Float} {indeterminate : Option Bool}
      (hnode : .progressBar traits x indeterminate ∈ root.nodes) : Checks root x
  | minutes {widget : Widget} {timeline : Timeline} {x : Float} (hwidget : root.widget = some widget)
      (htimeline : widget.timeline = some timeline) (hpolicy : timeline.policy = some (.custom x)) :
      Checks root x
  | score {activity : LiveActivity} {x : Float} (hactivity : root.liveActivity = some activity)
      (hscore : activity.relevanceScore = some x) : Checks root x

theorem Root.Checks.isFinite {root : Root} {x : Float} (h : root.Checks x) (valid : root.Valid) :
    x.isFinite = true := by
  cases h with
  | style hnode hstyle hentries hentry hkind =>
    have hflaw := (valid.nodes _ hnode).traits.style _ hstyle _ _ hentries _ hentry _ hkind
    exact ValueKind.isFinite_of_flaw? hflaw
  | text hnode => exact (valid.nodes _ hnode).content
  | flex hnode => exact (valid.nodes _ hnode).content
  | progress hnode => exact (valid.nodes _ hnode).content.1
  | minutes hwidget htimeline hpolicy =>
    exact (((valid.widget _ hwidget).timeline _ htimeline).minutes x hpolicy).1
  | score hactivity hscore => exact (valid.activity _ hactivity).score x hscore

/-- A key that is looked up belongs to its bucket, so its value has a rule. -/
theorem Style.exists_kind_of_number? {style : Style} {key : String} {x : Float}
    (h : style.number? key = some x) :
    ∃ bucket entries kind, style.bucket bucket = some entries ∧ (key, .number x) ∈ entries ∧
      bucket.keys.lookup key = some kind := by
  obtain ⟨value, hvalue, hnumber⟩ := Option.bind_eq_some_iff.1 h
  obtain ⟨bucket, hbucket, hfound⟩ := Option.bind_eq_some_iff.1 hvalue
  obtain ⟨entries, hentries, hfind⟩ := Option.bind_eq_some_iff.1 hfound
  obtain rfl : value = .number x := by
    cases value <;> simp_all [StyleValue.number?]
  have hcontains : bucket.contains key = true := (List.find?_some hbucket :)
  obtain ⟨entry, hentry, hname⟩ := List.any_eq_true.1 hcontains
  have hsome : (bucket.keys.lookup key).isSome = true :=
    List.lookup_isSome_iff.2 ⟨entry, hentry, beq_iff_eq.2 (of_decide_eq_true hname).symm⟩
  obtain ⟨kind, hkind⟩ := Option.isSome_iff_exists.1 hsome
  exact ⟨bucket, entries, kind, hentries, Bag.mem_of_find? hfind, hkind⟩

/-! ## Numbers that are shown -/

/-- A number that may be shown: a built-in one, one that is checked, or the rounding of such a one. -/
inductive Root.Supplies (root : Root) : Float → Prop
  | builtIn {x : Float} (h : x ∈ builtInNumbers) : Supplies root x
  | checked {x : Float} (h : root.Checks x) : Supplies root x
  | rounded {x : Float} (h : root.Checks x) : Supplies root (Double.ofFloat x).round.toFloat

namespace Root.Supplies

variable {root : Root} {x : Float}

theorem isFinite (h : root.Supplies x) (valid : root.Valid) : x.isFinite = true := by
  cases h with
  | builtIn h =>
    have hall : ∀ x ∈ builtInNumbers, x.isFinite = true := by decide +kernel
    exact hall x h
  | checked h => exact h.isFinite valid
  | rounded h => exact Double.isFinite_round (h.isFinite valid)

end Root.Supplies

/-- All numbers that a root hands on satisfy `P`. -/
structure Root.NumbersIn (P : Float → Prop) (root : Root) : Prop where
  nodes : ∀ node ∈ root.nodes, node.NumbersIn P
  minutes : ∀ widget ∈ root.widget, ∀ policy ∈ widget.timeline.bind (·.policy),
    ∀ x ∈ policy.minutes?, P x
  score : ∀ activity ∈ root.liveActivity, ∀ x ∈ activity.relevanceScore, P x

namespace Root.NumbersIn

variable {P : Float → Prop} {root : Root}

theorem tree (h : root.NumbersIn P) : ∀ n ∈ root.tree.nodes, n.NumbersIn P :=
  fun n hn => h.nodes n (mem_nodes_iff.2 (.inl hn))

theorem regions (h : root.NumbersIn P) {activity : LiveActivity}
    (hactivity : root.liveActivity = some activity) :
    ∀ node ∈ activity.regions.nodes, ∀ n ∈ node.nodes, n.NumbersIn P :=
  fun node hnode n hn => h.nodes n (mem_nodes_iff.2 (.inr ⟨activity, hactivity, node, hnode, hn⟩))

/-- A root hands on nothing but what it supplies. -/
theorem of_supplies (h : ∀ x, root.Supplies x → P x) : root.NumbersIn P where
  nodes := by
    intro node hnode
    refine ⟨fun style hstyle key x hx => ?_, fun x hx => ?_⟩
    · obtain ⟨bucket, entries, kind, hentries, hentry, hkind⟩ := Style.exists_kind_of_number? hx
      exact h x (.checked (.style hnode hstyle hentries hentry hkind))
    · cases node with
      | spacer traits flex =>
        cases flex with
        | none => cases hx
        | some flex =>
          obtain rfl := List.mem_singleton.1 hx
          exact h x (.checked (.flex hnode))
      | progressBar traits progress indeterminate =>
        obtain rfl := List.mem_singleton.1 hx
        exact h x (.checked (.progress hnode))
      | _ => cases hx
  minutes := by
    intro widget hwidget policy hpolicy x hx
    obtain ⟨timeline, htimeline, hsome⟩ := Option.bind_eq_some_iff.1 hpolicy
    cases policy with
    | custom minutes =>
      obtain rfl := Option.some.inj hx
      exact h _ (.rounded (.minutes hwidget htimeline hsome))
    | named named =>
      refine h x (.builtIn ?_)
      cases named <;> cases hx <;> simp [builtInNumbers]
  score := fun activity hactivity x hx => h x (.checked (.score hactivity hx))

end Root.NumbersIn

end Widgetry
