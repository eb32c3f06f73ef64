import Widgetry.Markup.Builder
import Widgetry.Proofs.Bag.Sorted

/-!
A builder gives its scope back as it found it. Main statement: whatever it builds, and wherever that
fails, its outcome is the one that the scope alone decides, and the scope afterwards is the scope
before.
-/

namespace Widgetry.Markup

open Source (Expr Item Function Param Body Statement Declarator Element Attribute AttributeValue Child)

namespace Builder

variable {α β : Type}

/-! ## Work that keeps the scope -/

/-- The work has the outcome `value` and leaves the scope as it is. -/
def Keeps (work : Builder α) (value : Scope → Option α) : Prop :=
  ∀ scope, work.run scope = (value scope, scope)

theorem Keeps.congr {work : Builder α} {value other : Scope → Option α} (h : Keeps work value)
    (heq : ∀ scope, value scope = other scope) : Keeps work other := by
  intro scope
  rw [h scope, heq scope]

theorem keeps_pure (value : α) : Keeps (pure value) fun _ => some value := fun _ => rfl

theorem keeps_failure : Keeps (failure : Builder α) fun _ => none := fun _ => rfl

theorem keeps_lift (value : Option α) : Keeps (lift value) fun _ => value := fun _ => rfl

theorem keeps_ask (read : Scope → Option α) : Keeps (ask read) read := fun _ => rfl

theorem run_bind (work : Builder α) (next : α → Builder β) (scope : Scope) :
    (work >>= next).run scope
      = match work.run scope with
        | (some value, after) => (next value).run after
        | (none, after) => (none, after) := by
  show OptionT.run (OptionT.bind work next) scope = _
  simp only [OptionT.bind, OptionT.run, OptionT.mk]
  show (StateT.bind _ _) scope = _
  simp only [StateT.bind]
  cases work scope with
  | mk result after => cases result <;> rfl

theorem Keeps.bind {work : Builder α} {value : Scope → Option α} (h : Keeps work value)
    {next : α → Builder β} {values : α → Scope → Option β} (hnext : ∀ a, Keeps (next a) (values a)) :
    Keeps (work >>= next) fun scope => (value scope).bind fun a => values a scope := by
  intro scope
  dsimp only
  rw [run_bind, h scope]
  cases value scope with
  | none => rfl
  | some a => exact hnext a scope

theorem run_within (frame : Frame) (work : Builder α) (scope : Scope) :
    (within frame work).run scope
      = ((work.run (scope.push frame)).1, (work.run (scope.push frame)).2.pop) := rfl

theorem Keeps.within {work : Builder α} {value : Scope → Option α} (h : Keeps work value)
    (frame : Frame) : Keeps (within frame work) fun scope => value (scope.push frame) := by
  intro scope
  rw [run_within, h, Scope.pop_push]

theorem Keeps.orEmpty {work : Builder (List α)} {value : Scope → Option (List α)}
    (h : Keeps work value) : Keeps (orEmpty work) fun scope => some ((value scope).getD []) := by
  intro scope
  show (some ((work.run scope).1.getD []), (work.run scope).2) = _
  rw [h]

/-! ## Declarations -/

/-- Work inside a frame that changes this frame at most. Where it succeeds, `value` is the scope that
it leaves. -/
def Binds (work : Builder Unit) (value : Scope → Option Scope) : Prop :=
  ∀ frame outer, ∃ after : Frame,
    work.run ⟨frame :: outer⟩ = ((value ⟨frame :: outer⟩).map fun _ => (), ⟨after :: outer⟩) ∧
      ∀ result, value ⟨frame :: outer⟩ = some result → result = ⟨after :: outer⟩

theorem binds_declare (declarator : Declarator) :
    Binds (declare declarator) (declare? · declarator) := by
  intro frame outer
  obtain ⟨name, parts, value⟩ := declarator
  cases name with
  | none =>
    refine ⟨frame, rfl, ?_⟩
    rintro result ⟨⟩
  | some name =>
    cases value with
    | none => exact ⟨_, rfl, fun result h => (Option.some.inj h).symm⟩
    | some value =>
      simp only [declare, declare?, run_bind, keeps_ask _ _]
      cases value.fold? ⟨frame :: outer⟩ with
      | none =>
        refine ⟨frame, rfl, ?_⟩
        rintro result ⟨⟩
      | some literal => exact ⟨_, rfl, fun result h => (Option.some.inj h).symm⟩

theorem binds_declareAll (declarators : List Declarator) :
    Binds (declareAll declarators) (declareAll? · declarators) := by
  intro frame outer
  induction declarators generalizing frame with
  | nil => exact ⟨frame, rfl, fun result h => (Option.some.inj h).symm⟩
  | cons declarator rest ih =>
    obtain ⟨middle, hrun, hresult⟩ := binds_declare declarator frame outer
    simp only [declareAll, declareAll?, run_bind, hrun]
    cases hdeclare : declare? ⟨frame :: outer⟩ declarator with
    | none =>
      refine ⟨middle, rfl, ?_⟩
      rintro result ⟨⟩
    | some next =>
      obtain rfl := hresult next hdeclare
      exact ih middle

/-- A frame that is opened for declarations is closed again, however far they got. -/
theorem Keeps.declaring {work : Builder α} {value : Scope → Option α} (h : Keeps work value)
    (declarators : List Declarator) :
    Keeps (Builder.within [] (do declareAll declarators; work)) fun scope =>
      (declareAll? (scope.push []) declarators).bind value := by
  intro scope
  obtain ⟨after, hrun, hresult⟩ := binds_declareAll declarators [] scope.frames
  have hpush : scope.push [] = ⟨[] :: scope.frames⟩ := rfl
  dsimp only at hrun hresult ⊢
  rw [run_within, run_bind, hpush, hrun]
  cases hall : declareAll? ⟨[] :: scope.frames⟩ declarators with
  | none => rfl
  | some result =>
    obtain rfl := hresult result hall
    simp only [Option.map_some, h _]
    rfl

/-! ## Attributes -/

/-- A callback that gives the scope back after every run. -/
def Callback.Steady (callback : Callback) : Prop :=
  ∀ item position scope, ((callback item position).run scope).2 = scope

/-- A callback is steady when each of its runs keeps the scope. -/
theorem Callback.steady_of_keeps {callback : Callback} {template : Scope → Template}
    (h : ∀ item position, Keeps (callback item position) (template · item position)) :
    (∀ scope, callback.template scope = template scope) ∧ callback.Steady := by
  constructor
  · intro scope
    funext item position
    exact congrArg Prod.fst (h item position scope)
  · intro item position scope
    exact congrArg Prod.snd (h item position scope)

theorem Callback.Steady.keeps {callback : Callback} (steady : callback.Steady) (item : Literal)
    (position : Nat) : Keeps (callback item position) (callback.template · item position) :=
  fun scope => Prod.ext rfl (steady item position scope)

theorem Callback.Steady.keeps_runAll {callback : Callback} (steady : callback.Steady)
    (position : Nat) (items : List Literal) :
    Keeps (runAll callback position items) fun scope =>
      Template.run? (callback.template scope) position items := by
  induction items generalizing position with
  | nil => exact keeps_pure _
  | cons item rest ih =>
    refine ((steady.keeps item position).bind fun first =>
      (ih (position + 1)).bind fun others => keeps_pure _).congr fun scope => ?_
    simp only [Template.run?]
    cases callback.template scope item position with
    | none => rfl
    | some first => cases Template.run? (callback.template scope) (position + 1) rest <;> rfl

/-- Slots whose callbacks all give the scope back. -/
def Slots.Steady (slots : Slots) : Prop :=
  ∀ slot ∈ slots, ∀ value callback name, slot.2 = .written value (some callback) name →
    callback.Steady

theorem Slots.find?_resolve (slots : Slots) (scope : Scope) (name : String) :
    Bag.find? name (slots.resolve scope) = (Bag.find? name slots).map (Slot.resolve scope) :=
  Bag.find?_map _ name slots

theorem Slots.Steady.keeps_list {slots : Slots} (steady : slots.Steady) :
    Keeps (list slots) fun scope => list? (slots.resolve scope) := by
  intro scope
  simp only [list, list?, run_bind, Slots.ask, keeps_ask _ _, Slots.find?_resolve]
  cases listItems? (slots.resolve scope) with
  | none => rfl
  | some items =>
    dsimp only
    cases Attributes.bool? (slots.resolve scope) "horizontal" with
    | none => rfl
    | some horizontal =>
      dsimp only
      cases hfind : Bag.find? "renderItem" slots with
      | none => rfl
      | some slot =>
        cases slot with
        | literal _ | quoted _ | valueless => rfl
        | written value callback name =>
          cases callback with
          | none => rfl
          | some callback =>
            have hcallback := steady _ (Bag.mem_of_find? hfind) value callback name rfl
            simp only [run_bind, hcallback.keeps_runAll 0 items _]
            show _ = (do
              let pieces ← (callback.template scope).run? 0 items
              some fun traits => Node.stack traits _ (pieces.map Piece.toNode), scope)
            cases Template.run? (callback.template scope) 0 items <;> rfl

theorem Slots.resolve_put (scope : Scope) (name : String) (slot : Slot) (found : Slots) :
    Slots.resolve scope (Bag.put name slot found)
      = Bag.put name (slot.resolve scope) (found.resolve scope) := by
  induction found with
  | nil => rfl
  | cons pair rest ih =>
    obtain ⟨key, old⟩ := pair
    simp only [Slots.resolve, List.map_cons, Bag.put] at ih ⊢
    split
    · rfl
    · rw [List.map_cons, ih]

theorem Slots.resolve_putAll (scope : Scope) (members : Bag Literal) (found : Slots) :
    Slots.resolve scope
        (Bag.putAll found (members.map fun member => (member.1, .literal member.2)))
      = Bag.putAll (found.resolve scope)
          (members.map fun member => (member.1, .literal member.2)) := by
  induction members generalizing found with
  | nil => rfl
  | cons member rest ih =>
    have hput := Slots.resolve_put scope member.1 (.literal member.2) found
    exact (ih _).trans (by rw [hput]; rfl)

theorem Slots.Steady.put {found : Slots} (steady : found.Steady) (name : String) {slot : Slot}
    (h : ∀ value callback written, slot = .written value (some callback) written →
      callback.Steady) : Slots.Steady (Bag.put name slot found) := by
  intro pair hpair
  rcases Bag.mem_of_mem_put hpair with rfl | hold
  · exact h
  · exact steady pair hold

theorem Slots.Steady.putAll {found : Slots} (steady : found.Steady) (members : Bag Literal) :
    Slots.Steady (Bag.putAll found (members.map fun member => (member.1, .literal member.2))) := by
  intro pair hpair
  rcases Bag.mem_of_mem_putAll hpair with hnew | hold
  · obtain ⟨member, -, rfl⟩ := List.mem_map.1 hnew
    nofun
  · exact steady pair hold

/-- Containers build their children before anything else can fail, or not at all. -/
theorem Slots.Steady.keeps_node {slots : Slots} (steady : slots.Steady) (children : List Child)
    {pieces : Builder (List Piece)} {built : Scope → List Piece}
    (h : Keeps pieces fun scope => some (built scope)) (type : NodeType) :
    Keeps (node slots children pieces type) fun scope =>
      nodeOf? type (slots.resolve scope) (built scope) (textContent scope children) := by
  cases type with
  | view => exact h.bind fun pieces => keeps_pure _
  | stack =>
    exact (keeps_ask _).bind fun axis => h.bind fun pieces => keeps_pure _
  | list => exact steady.keeps_list
  | text | button | image | spacer | progressBar => exact keeps_ask _

/-- The frame of a callback is closed behind its body. -/
theorem keeps_callback (params : List Param) {body : Builder (List Piece)}
    {value : Scope → Option (List Piece)} (h : Keeps body value) (item : Literal) (position : Nat) :
    Keeps (callback params body item position) fun scope =>
      match callbackFrame? item position 0 [] params with
      | some frame => value (scope.push frame)
      | none => none := by
  refine ((keeps_lift _).bind fun frame => h.within frame).congr fun scope => ?_
  cases callbackFrame? item position 0 [] params <;> rfl

theorem keeps_value (value : Expr) :
    Keeps (do lift (piecesOf? (← ask value.fold?))) fun scope =>
      (value.fold? scope).bind piecesOf? :=
  (keeps_ask _).bind fun literal => keeps_lift (piecesOf? literal)

/-! ## Elements, children and callbacks -/

-- Every function of the builder calls the others on parts of what it was given, so they keep the
-- scope together, by one induction over the source.
mutual

theorem keeps_element : (value : Element) → Keeps (element value) (element? · value)
  | .mk tag attributes children => by
    intro scope
    obtain ⟨found, hslots, hgiven, hsteady⟩ := run_slots attributes [] nofun scope
    have hgiven : attributes? scope [] attributes = found.map (Slots.resolve scope) := hgiven
    simp only [element?, hgiven]
    rw [element, run_bind, keeps_lift]
    cases tag? tag with
    | none => rfl
    | some type =>
      dsimp only
      rw [run_bind, hslots]
      cases found with
      | none => rfl
      | some found =>
        have hnode := (hsteady found rfl).keeps_node children (keeps_pieces children) type
        exact hnode.bind (fun build => (keeps_ask _).bind fun traits =>
          keeps_pure (build traits)) scope

/-- The attributes are collected without a change of the scope, and hold what the scope says. -/
theorem run_slots : (attributes : List Attribute) → (found : Slots) → found.Steady →
    (scope : Scope) → ∃ result : Option Slots,
      (slots found attributes).run scope = (result, scope) ∧
      attributes? scope (found.resolve scope) attributes = result.map (Slots.resolve scope) ∧
      ∀ slots, result = some slots → slots.Steady
  | [], found, steady, scope => by
    refine ⟨some found, rfl, rfl, ?_⟩
    rintro slots ⟨⟩
    exact steady
  | .named name value :: rest, found, steady, scope => by
    obtain ⟨hresolve, hslot⟩ := resolve_slot value
    rw [slots, attributes?, ← hresolve scope, ← Slots.resolve_put]
    exact run_slots rest _ (steady.put name hslot) scope
  | .namespaced _ :: _, _, _, scope => ⟨none, rfl, rfl, nofun⟩
  | .spread value :: rest, found, steady, scope => by
    simp only [slots, attributes?, run_bind, keeps_ask _ _]
    cases value.fold? scope with
    | none => exact ⟨none, rfl, rfl, nofun⟩
    | some literal =>
      cases literal with
      | object members =>
        dsimp only
        rw [← Slots.resolve_putAll]
        exact run_slots rest _ (steady.putAll members) scope
      | _ => exact ⟨none, rfl, rfl, nofun⟩

theorem resolve_slot : (value : AttributeValue) →
    (∀ scope, (slot value).resolve scope = attributeValue scope value) ∧
      ∀ written callback name, slot value = .written written (some callback) name → callback.Steady
  | .flag | .text _ | .markup _ | .empty => ⟨fun _ => rfl, nofun⟩
  | .expression value written => by
    obtain ⟨htemplate, hsteady⟩ := template_callback? value
    constructor
    · intro scope
      exact congrArg (fun found => Given.expression (value.fold? scope) found _) (htemplate scope)
    · intro value callback name h
      simp only [slot, Slot.written.injEq] at h
      exact hsteady callback h.2.1

/-- A callback gives the scope back, and gives what the template of the scope says. -/
theorem template_callback? : (value : Expr) →
    (∀ scope, (callback? value).map (·.template scope) = template? scope value) ∧
      ∀ callback, callback? value = some callback → callback.Steady
  | .paren inner => template_callback? inner
  | .function (.mk _ _ .absent) => ⟨fun _ => rfl, nofun⟩
  | .function (.mk params _ (.concise value)) => by
    obtain ⟨htemplate, hsteady⟩ :=
      Callback.steady_of_keeps (keeps_callback params (keeps_expand value))
    refine ⟨fun scope => congrArg some (htemplate scope), ?_⟩
    rintro callback ⟨⟩
    exact hsteady
  | .function (.mk params _ (.block statements)) => by
    obtain ⟨htemplate, hsteady⟩ :=
      Callback.steady_of_keeps (keeps_callback params (keeps_runStatements statements))
    refine ⟨fun scope => congrArg some (htemplate scope), ?_⟩
    rintro callback ⟨⟩
    exact hsteady
  | .string _ | .number _ | .bool _ | .null | .identifier _ | .template .. | .cast .. | .unary ..
  | .logical .. | .binary .. | .conditional .. | .array _ | .object _ | .member .. | .index ..
  | .privateMember _ | .call .. | .element _ | .fragment _ | .assertion _ | .assign ..
  | .other _ => ⟨fun _ => rfl, nofun⟩

theorem keeps_runBody : (body : Body) → Keeps (runBody body) (body? · body)
  | .absent => keeps_failure
  | .concise value => keeps_expand value
  | .block statements => keeps_runStatements statements

theorem keeps_runStatements : (statements : List Statement) →
    Keeps (runStatements statements) (run? · statements)
  | [] => keeps_pure []
  | .declare _ declarators :: rest => by
    refine Keeps.congr ((keeps_runStatements rest).declaring declarators) fun scope => ?_
    rw [run?]
    cases declareAll? (scope.push []) declarators <;> rfl
  | .returns (some value) :: _ => keeps_expand value
  | .returns none :: _ => keeps_pure []
  | .empty :: rest => keeps_runStatements rest
  | .expression _ :: _ | .function _ :: _ | .exported _ :: _ | .exportedDefault _ :: _
  | .other _ :: _ => keeps_failure

theorem keeps_pieces : (children : List Child) →
    Keeps (pieces children) fun scope => some (Markup.pieces scope children)
  | [] => keeps_pure []
  | child :: rest =>
    (keeps_piecesOfChild child).orEmpty.bind fun first =>
      (keeps_pieces rest).bind fun others => keeps_pure (first ++ others)

theorem keeps_piecesOfChild : (child : Child) → Keeps (piecesOfChild child) (child? · child)
  | .text _ => keeps_pure _
  | .element value => by
    refine ((keeps_element value).bind fun node => keeps_pure [Piece.node node]).congr fun scope => ?_
    rw [child?]
    cases element? scope value <;> rfl
  | .fragment children => keeps_pieces children
  | .expression value => keeps_expand value
  | .empty => keeps_pure []
  | .spread _ => keeps_failure

theorem keeps_expand : (value : Expr) → Keeps (expand value) (expand? · value)
  | .paren inner | .cast .asType inner | .cast .nonNull inner => keeps_expand inner
  | .element value => by
    refine ((keeps_element value).bind fun node => keeps_pure [Piece.node node]).congr fun scope => ?_
    rw [expand?]
    cases element? scope value <;> rfl
  | .fragment children => keeps_pieces children
  | .logical op left right => by
    intro scope
    simp only [expand, expand?]
    rw [run_bind, keeps_ask]
    cases left.fold? scope with
    | none => rfl
    | some value =>
      dsimp only
      split
      · exact keeps_expand right scope
      · rfl
  | .conditional test consequent alternate => by
    intro scope
    simp only [expand, expand?]
    rw [run_bind, keeps_ask]
    cases test.fold? scope with
    | none => rfl
    | some value =>
      dsimp only
      split
      · exact keeps_expand consequent scope
      · exact keeps_expand alternate scope
  | .array items => keeps_expandItems items
  | .call callee arguments => by
    cases callee with
    | member owner name =>
      obtain ⟨htemplate, hsteady⟩ := template_argumentCallback? arguments
      intro scope
      -- The template of the pure form is what the callback gives in this scope.
      simp only [expand, expand?]
      split
      · rw [run_bind, keeps_ask, ← htemplate scope]
        cases owner.fold? scope with
        | none => rfl
        | some value =>
          cases hcallback : argumentCallback? arguments with
          | none => cases value <;> rfl
          | some callback =>
            cases value with
            | array items => exact (hsteady callback hcallback).keeps_runAll 0 items scope
            | _ => rfl
      · rfl
    | _ => exact keeps_failure
  | .string _ | .number _ | .bool _ | .null | .identifier _ | .template .. | .cast .satisfies _
  | .unary .. | .binary .. | .object _ | .member .. | .index .. | .privateMember _ | .function _
  | .assertion _ | .assign .. | .other _ => keeps_value _

theorem keeps_expandItems : (items : List Item) → Keeps (expandItems items) (expandItems? · items)
  | [] => keeps_pure []
  | .value value :: rest => by
    refine ((keeps_expand value).bind fun first => (keeps_expandItems rest).bind fun others =>
      keeps_pure (first ++ others)).congr fun scope => ?_
    rw [expandItems?]
    cases expand? scope value <;> cases expandItems? scope rest <;> rfl
  | .spread .. :: _ | .hole :: _ => keeps_failure

theorem template_argumentCallback? : (items : List Item) →
    (∀ scope, (argumentCallback? items).map (·.template scope) = argumentTemplate? scope items) ∧
      ∀ callback, argumentCallback? items = some callback → callback.Steady
  | .value value :: _ => template_callback? value
  | [] | .spread .. :: _ | .hole :: _ => ⟨fun _ => rfl, nofun⟩

end

theorem keeps_markup : (value : Expr) → Keeps (markup value) (markup? · value)
  | .paren inner => keeps_markup inner
  | .element value => keeps_element value
  | .fragment children => by
    intro scope
    simp only [markup, markup?]
    rw [run_bind, keeps_pieces]
    dsimp only
    rcases (Markup.pieces scope children).map Piece.toNode with _ | ⟨node, _ | _⟩ <;> rfl
  | .string _ | .number _ | .bool _ | .null | .identifier _ | .template .. | .cast .. | .unary ..
  | .logical .. | .binary .. | .conditional .. | .array _ | .object _ | .member .. | .index ..
  | .privateMember _ | .call .. | .function _ | .assertion _ | .assign .. | .other _ =>
    keeps_failure

/-! ## Runs -/

theorem run_element (scope : Scope) (value : Element) :
    (element value).run scope = (element? scope value, scope) :=
  keeps_element value scope

theorem run_pieces (scope : Scope) (children : List Child) :
    (pieces children).run scope = (some (Markup.pieces scope children), scope) :=
  keeps_pieces children scope

theorem run_piecesOfChild (scope : Scope) (child : Child) :
    (piecesOfChild child).run scope = (child? scope child, scope) :=
  keeps_piecesOfChild child scope

theorem run_expand (scope : Scope) (value : Expr) :
    (expand value).run scope = (expand? scope value, scope) :=
  keeps_expand value scope

end Builder

/-- Building leaves the scope as it was, whether it succeeds or fails, and its outcome is the one that
the scope decides: for elements, markup, children, expressions among them, callbacks and the bodies
of callbacks. -/
theorem building_keeps_scope (scope : Scope) :
    (∀ value, (Builder.element value).run scope = (element? scope value, scope)) ∧
    (∀ value, (Builder.markup value).run scope = (markup? scope value, scope)) ∧
    (∀ children, (Builder.pieces children).run scope = (some (pieces scope children), scope)) ∧
    (∀ value, (Builder.expand value).run scope = (expand? scope value, scope)) ∧
    (∀ params body item position,
      (Builder.callback params (Builder.runBody body) item position).run scope
        = ((callbackFrame? item position 0 [] params).bind fun frame =>
            body? (scope.push frame) body, scope)) ∧
    ∀ body, (Builder.runBody body).run scope = (body? scope body, scope) := by
  refine ⟨fun value => Builder.keeps_element value scope,
    fun value => Builder.keeps_markup value scope,
    fun children => Builder.keeps_pieces children scope,
    fun value => Builder.keeps_expand value scope, fun params body item position => ?_,
    fun body => Builder.keeps_runBody body scope⟩
  rw [Builder.keeps_callback params (Builder.keeps_runBody body) item position scope]
  cases callbackFrame? item position 0 [] params <;> rfl

end Widgetry.Markup
