import Widgetry.Markup.Activity
import Widgetry.Markup.Search
import Widgetry.Proofs.Literal.Proper
import Widgetry.Proofs.Style.Normalizing

/-!
Markup gives proper nodes. Whatever a file writes, the nodes that are built from it keep the names
of their parameters apart and their styles in order, because every literal that reaches them does.
-/

namespace Widgetry

/-! ## Trees of proper nodes -/

namespace Node

/-- A tree whose nodes are all proper. -/
def ProperTree (node : Node) : Prop := ∀ n ∈ node.nodes, n.Proper

theorem mem_nodesAll {children : List Node} {n : Node} :
    n ∈ nodesAll children ↔ ∃ child ∈ children, n ∈ child.nodes := by
  induction children with
  | nil => simp [nodesAll]
  | cons child rest ih => simp [nodesAll, ih]

theorem properTree_view {traits : Traits} {children : List Node} (h : traits.Proper)
    (hchildren : ∀ child ∈ children, child.ProperTree) : (view traits children).ProperTree := by
  rw [ProperTree, nodes, List.forall_mem_cons]
  refine ⟨⟨h, List.forall_mem_nil _⟩, fun n hn => ?_⟩
  obtain ⟨child, hchild, hn⟩ := mem_nodesAll.1 hn
  exact hchildren child hchild n hn

theorem properTree_stack {traits : Traits} (axis : Axis) {children : List Node} (h : traits.Proper)
    (hchildren : ∀ child ∈ children, child.ProperTree) :
    (stack traits axis children).ProperTree := by
  rw [ProperTree, nodes, List.forall_mem_cons]
  refine ⟨⟨h, List.forall_mem_nil _⟩, fun n hn => ?_⟩
  obtain ⟨child, hchild, hn⟩ := mem_nodesAll.1 hn
  exact hchildren child hchild n hn

theorem properTree_leaf {node : Node} (hleaf : node.nodes = [node]) (h : node.Proper) :
    node.ProperTree := by
  rw [ProperTree, hleaf, List.forall_mem_singleton]
  exact h

end Node

theorem Traits.proper_empty : Traits.Proper {} := ⟨by rintro _ ⟨⟩, by rintro _ ⟨⟩, by rintro _ ⟨⟩⟩

namespace Markup

open Source (Expr Item Member Function Param Body Statement Declarator Part Element Attribute
  AttributeValue Child Program)

/-! ## Attributes -/

/-- A piece that becomes a proper tree. -/
def Piece.Proper (piece : Piece) : Prop := piece.toNode.ProperTree

/-- A template that gives proper pieces for proper items. -/
def Template.Proper (template : Template) : Prop :=
  ∀ item position pieces, item.Proper → template item position = some pieces →
    ∀ piece ∈ pieces, piece.Proper

def Given.Proper : Given → Prop
  | .literal value => value.Proper
  | .expression value template _ =>
    (∀ v, value = some v → v.Proper) ∧ ∀ t, template = some t → Template.Proper t
  | .quoted _ | .valueless => True

namespace Attributes

def Proper (given : Attributes) : Prop := ∀ pair ∈ given, pair.2.Proper

theorem Proper.put {given : Attributes} (proper : given.Proper) (name : String) {value : Given}
    (h : value.Proper) : Proper (Bag.put name value given) := by
  intro pair hpair
  rcases Bag.mem_of_mem_put hpair with rfl | hold
  · exact h
  · exact proper pair hold

theorem Proper.literal? {given : Attributes} (proper : given.Proper) {name : String}
    {value : Literal} (h : given.literal? name = some (some value)) : value.Proper := by
  have hfound : ∀ found, Bag.find? name given = some found → found.Proper := fun found hfind =>
    proper _ (Bag.mem_of_find? hfind)
  unfold Attributes.literal? at h
  split at h <;> cases h
  · exact hfound _ ‹_›
  · trivial
  · rename_i hfind
    exact (hfound _ hfind).1 value rfl

theorem Proper.object? {given : Attributes} (proper : given.Proper) {name : String}
    {members : Bag Literal} (h : given.object? name = some members) :
    (Literal.object members).Proper := by
  unfold Attributes.object? at h
  split at h <;> cases h
  exact proper.literal? ‹_›

theorem proper_style? {given : Attributes} {style : Style} (h : given.style? = some style) :
    style.Proper := by
  obtain ⟨hstyle, -⟩ := Option.filter_eq_some_iff.1 h
  obtain ⟨bag, -, rfl⟩ := Option.map_eq_some_iff.1 hstyle
  exact Style.proper_normalize bag

theorem proper_readAction? {members : Bag Literal} (proper : (Literal.object members).Proper)
    {action : Action} (h : readAction? members = some action) : action.Proper := by
  obtain ⟨type, -, hrest⟩ := Option.bind_eq_some_iff.1 h
  cases hrest
  intro params hparams
  simp only [Option.mem_def] at hparams
  split at hparams <;> cases hparams
  rename_i written hwritten
  obtain ⟨hdistinct, -⟩ := Literal.proper_object.1 (proper.find? hwritten)
  constructor
  · rw [Bag.Distinct, Bag.names, List.map_map]
    exact (List.filter_sublist.map Prod.fst).nodup hdistinct
  · intro param hparam
    obtain ⟨original, -, rfl⟩ := List.mem_map.1 hparam
    exact Literal.proper_toJson original.2

theorem proper_readBinding? {members : Bag Literal} {binding : DataBinding}
    (h : readBinding? members = some binding) : ∀ value ∈ binding.fallback, value.Proper := by
  obtain ⟨source, -, hrest⟩ := Option.bind_eq_some_iff.1 h
  obtain ⟨key, -, hrest⟩ := Option.bind_eq_some_iff.1 hrest
  cases hrest
  intro value hvalue
  obtain ⟨literal, -, rfl⟩ := Option.map_eq_some_iff.1 hvalue
  exact Literal.proper_toJson literal

theorem traits?_eq_some {given : Attributes} {traits : Traits} (h : given.traits? = some traits) :
    traits.style = given.style? ∧ traits.action = (given.object? "action").bind readAction? ∧
      traits.dataBinding = (given.object? "dataBinding").bind readBinding? := by
  simp only [traits?, Option.bind_eq_bind, Option.bind_eq_some_iff, Option.pure_def] at h
  obtain ⟨key, -, role, -, h⟩ := h
  -- The role decides whether another attribute is asked for it.
  split at h <;> simp only [Option.bind_eq_some_iff, Option.some.injEq] at h <;>
    obtain ⟨role, -, label, -, accessible, -, rfl⟩ := h <;> exact ⟨rfl, rfl, rfl⟩

theorem Proper.traits? {given : Attributes} (proper : given.Proper) {traits : Traits}
    (h : given.traits? = some traits) : traits.Proper := by
  obtain ⟨hstyle, haction, hbinding⟩ := traits?_eq_some h
  refine ⟨fun style h => ?_, fun action h => ?_, fun binding h => ?_⟩
  · rw [hstyle] at h
    exact proper_style? h
  · rw [haction] at h
    obtain ⟨members, hmembers, hread⟩ := Option.bind_eq_some_iff.1 h
    exact proper_readAction? (proper.object? hmembers) hread
  · rw [hbinding] at h
    obtain ⟨members, -, hread⟩ := Option.bind_eq_some_iff.1 h
    exact proper_readBinding? hread

end Attributes

/-! ## Nodes from attributes -/

theorem Template.Proper.run? {template : Template} (proper : template.Proper) :
    (items : List Literal) → (∀ item ∈ items, item.Proper) → ∀ position pieces,
      template.run? position items = some pieces → ∀ piece ∈ pieces, piece.Proper
  | [], _, _, _, h => by
    cases h
    exact List.forall_mem_nil _
  | item :: rest, hitems, position, _, h => by
    simp only [Template.run?] at h
    split at h
    · rename_i first others hfirst hothers
      cases h
      obtain ⟨hitem, hrest⟩ := List.forall_mem_cons.1 hitems
      exact List.forall_mem_append.2 ⟨proper item position first hitem hfirst,
        proper.run? rest hrest (position + 1) others hothers⟩
    · cases h

theorem proper_toNode {pieces : List Piece} (h : ∀ piece ∈ pieces, piece.Proper) :
    ∀ node ∈ pieces.map Piece.toNode, node.ProperTree :=
  List.forall_mem_map.2 h

theorem proper_listItems? {given : Attributes} (proper : given.Proper) {items : List Literal}
    (h : listItems? given = some items) : ∀ item ∈ items, item.Proper := by
  have harray : ∀ name found, given.literal? name = some (some (.array found)) →
      ∀ item ∈ found, item.Proper :=
    fun _ _ hliteral => Literal.proper_array.1 (proper.literal? hliteral)
  simp only [listItems?, Option.bind_eq_bind, Option.bind_eq_some_iff, Option.pure_def] at h
  obtain ⟨first, hfirst, h⟩ := h
  cases first with
  | some value =>
    cases value with
    | array found =>
      cases h
      exact harray _ _ hfirst
    | _ => cases h
  | none =>
    obtain ⟨second, hsecond, h⟩ := Option.bind_eq_some_iff.1 h
    cases second with
    | none =>
      cases h
      exact List.forall_mem_nil _
    | some value =>
      cases value with
      | array found =>
        cases h
        exact harray _ _ hsecond
      | _ => cases h

theorem proper_list? {given : Attributes} (proper : given.Proper) {build : Traits → Node}
    (h : list? given = some build) {traits : Traits} (htraits : traits.Proper) :
    (build traits).ProperTree := by
  obtain ⟨items, hitems, h⟩ := Option.bind_eq_some_iff.1 h
  obtain ⟨horizontal, -, h⟩ := Option.bind_eq_some_iff.1 h
  have hlist : ∀ name, (Node.list traits (items.map Literal.toJson) name horizontal).ProperTree := by
    refine fun name => Node.properTree_leaf rfl ⟨htraits, List.forall_mem_map.2 ?_⟩
    exact fun item _ => item.proper_toJson
  split at h
  · rename_i template name hfind
    obtain ⟨pieces, hpieces, h⟩ := Option.bind_eq_some_iff.1 h
    cases h
    have htemplate : template.Proper := (proper _ (Bag.mem_of_find? hfind)).2 template rfl
    exact Node.properTree_stack _ htraits
      (proper_toNode (htemplate.run? items (proper_listItems? proper hitems) 0 pieces hpieces))
  · cases h
    exact hlist _
  · cases h
    exact hlist _
  · cases h

theorem proper_nodeOf? {type : NodeType} {given : Attributes} (proper : given.Proper)
    {children : List Piece} (hchildren : ∀ piece ∈ children, piece.Proper) {content : TextContent}
    {build : Traits → Node} (h : nodeOf? type given children content = some build)
    {traits : Traits} (htraits : traits.Proper) : (build traits).ProperTree := by
  cases type with
  | view =>
    cases h
    exact Node.properTree_view htraits (proper_toNode hchildren)
  | stack =>
    obtain ⟨axis, -, h⟩ := Option.bind_eq_some_iff.1 h
    cases h
    exact Node.properTree_stack _ htraits (proper_toNode hchildren)
  | text =>
    cases h
    exact Node.properTree_leaf rfl ⟨htraits, List.forall_mem_nil _⟩
  | button =>
    obtain ⟨label, -, h⟩ := Option.bind_eq_some_iff.1 h
    obtain ⟨variant, -, h⟩ := Option.bind_eq_some_iff.1 h
    obtain ⟨size, -, h⟩ := Option.bind_eq_some_iff.1 h
    cases h
    exact Node.properTree_leaf rfl ⟨htraits, List.forall_mem_nil _⟩
  | image =>
    obtain ⟨uri, -, h⟩ := Option.bind_eq_some_iff.1 h
    obtain ⟨placeholder, -, h⟩ := Option.bind_eq_some_iff.1 h
    obtain ⟨resizeMode, -, h⟩ := Option.bind_eq_some_iff.1 h
    cases h
    exact Node.properTree_leaf rfl ⟨htraits, List.forall_mem_nil _⟩
  | spacer =>
    obtain ⟨flex, -, h⟩ := Option.bind_eq_some_iff.1 h
    cases h
    exact Node.properTree_leaf rfl ⟨htraits, List.forall_mem_nil _⟩
  | progressBar =>
    obtain ⟨progress, -, h⟩ := Option.bind_eq_some_iff.1 h
    obtain ⟨indeterminate, -, h⟩ := Option.bind_eq_some_iff.1 h
    cases h
    exact Node.properTree_leaf rfl ⟨htraits, List.forall_mem_nil _⟩
  | list => exact proper_list? proper h htraits

/-! ## Declarations -/

section Declarations

variable {scope : Scope}

theorem proper_declare? (proper : scope.Proper) {declarator : Declarator} {result : Scope}
    (h : declare? scope declarator = some result) : result.Proper := by
  unfold declare? at h
  split at h
  · rename_i name _ value
    obtain ⟨folded, hfolded, rfl⟩ := Option.map_eq_some_iff.1 h
    exact proper.bind name (value.proper_fold? proper folded hfolded)
  · cases h
    exact proper.bind _ trivial
  · cases h

theorem proper_declareAll? (proper : scope.Proper) (declarators : List Declarator) {result : Scope}
    (h : declareAll? scope declarators = some result) : result.Proper := by
  induction declarators generalizing scope with
  | nil =>
    cases h
    exact proper
  | cons declarator rest ih =>
    obtain ⟨next, hnext, h⟩ := Option.bind_eq_some_iff.1 h
    exact ih (proper_declare? proper hnext) h

theorem proper_declareKnown (proper : scope.Proper) (declarators : List Declarator) :
    (declareKnown scope declarators).Proper := by
  induction declarators generalizing scope with
  | nil => exact proper
  | cons declarator rest ih =>
    refine ih ?_
    cases h : declare? scope declarator with
    | none => exact proper
    | some next => exact proper_declare? proper h

theorem proper_declareConstants (proper : scope.Proper) (statements : List Statement) :
    (declareConstants scope statements).Proper := by
  fun_induction declareConstants scope statements with
  | case1 scope => exact proper
  | case2 scope declarators rest ih => exact ih (proper_declareKnown proper declarators)
  | case3 scope statement rest _ ih => exact ih proper

theorem proper_enter (proper : scope.Proper) (statements : List Statement) :
    (enter scope statements).Proper :=
  proper_declareConstants proper.pushEmpty statements

theorem proper_callbackFrame? {item : Literal} (hitem : item.Proper) {position : Nat}
    (params : List Param) {n : Nat} {frame result : Frame}
    (hframe : ∀ binding ∈ frame, binding.2.Proper)
    (h : callbackFrame? item position n frame params = some result) :
    ∀ binding ∈ result, binding.2.Proper := by
  induction params generalizing n frame with
  | nil =>
    cases h
    exact hframe
  | cons param rest ih =>
    obtain ⟨name, parts⟩ := param
    cases name with
    | none => cases h
    | some name =>
      refine ih (fun binding hbinding => ?_) h
      rcases Bag.mem_of_mem_put hbinding with rfl | hold
      · show Literal.Proper (if n = 0 then item else if n = 1 then _ else _)
        split
        · exact hitem
        · split <;> trivial
      · exact hframe binding hold

theorem proper_callback (proper : scope.Proper) {item : Literal} (hitem : item.Proper)
    {position : Nat} {params : List Param} {frame : Frame}
    (h : callbackFrame? item position 0 [] params = some frame) : (scope.push frame).Proper :=
  proper.push (proper_callbackFrame? hitem params (fun _ h => absurd h List.not_mem_nil) h)

end Declarations

/-! ## Elements, children and callbacks -/

mutual

theorem proper_piecesOf? : (value : Literal) → ∀ pieces, piecesOf? value = some pieces →
    ∀ piece ∈ pieces, piece.Proper
  | .undefined, _, h | .null, _, h | .bool _, _, h => by
    cases h
    exact List.forall_mem_nil _
  | .string _, _, h | .number _, _, h => by
    cases h
    exact List.forall_mem_singleton.2
      (Node.properTree_leaf rfl ⟨Traits.proper_empty, List.forall_mem_nil _⟩)
  | .array items, pieces, h => proper_piecesOfAll? items pieces h
  | .object _, _, h => by cases h

theorem proper_piecesOfAll? : (items : List Literal) → ∀ pieces, piecesOfAll? items = some pieces →
    ∀ piece ∈ pieces, piece.Proper
  | [], _, h => by
    cases h
    exact List.forall_mem_nil _
  | item :: rest, _, h => by
    simp only [piecesOfAll?] at h
    split at h
    · rename_i first others hfirst hothers
      cases h
      exact List.forall_mem_append.2
        ⟨proper_piecesOf? item first hfirst, proper_piecesOfAll? rest others hothers⟩
    · cases h

end

mutual

theorem proper_element? {scope : Scope} (proper : scope.Proper) :
    (element : Element) → ∀ node, element? scope element = some node → node.ProperTree
  | .mk tag attributes children, node, h => by
    simp only [element?] at h
    split at h
    · rename_i type given _ hgiven
      obtain ⟨build, hbuild, h⟩ := Option.bind_eq_some_iff.1 h
      obtain ⟨traits, htraits, h⟩ := Option.bind_eq_some_iff.1 h
      cases h
      have hproper := proper_attributes? proper attributes [] given (List.forall_mem_nil _) hgiven
      exact proper_nodeOf? hproper (proper_pieces proper children) hbuild (hproper.traits? htraits)
    · cases h

theorem proper_attributes? {scope : Scope} (proper : scope.Proper) :
    (attributes : List Attribute) → (given result : Attributes) → given.Proper →
      attributes? scope given attributes = some result → result.Proper
  | [], _, _, hgiven, h => by
    cases h
    exact hgiven
  | .named name value :: rest, given, result, hgiven, h =>
    proper_attributes? proper rest _ result
      (hgiven.put name (proper_attributeValue proper value)) h
  | .namespaced _ :: _, _, _, _, h => by cases h
  | .spread value :: rest, given, result, hgiven, h => by
    simp only [attributes?] at h
    split at h
    · rename_i members hmembers
      refine proper_attributes? proper rest _ result (fun pair hpair => ?_) h
      rcases Bag.mem_of_mem_putAll hpair with hspread | hold
      · obtain ⟨member, hmember, rfl⟩ := List.mem_map.1 hspread
        exact (Literal.proper_object.1 (value.proper_fold? proper _ hmembers)).2 member hmember
      · exact hgiven pair hold
    · cases h

theorem proper_attributeValue {scope : Scope} (proper : scope.Proper) :
    (value : AttributeValue) → (attributeValue scope value).Proper
  | .flag | .text _ | .markup _ | .empty => trivial
  | .expression value _ => ⟨value.proper_fold? proper, proper_template? proper value⟩

theorem proper_template? {scope : Scope} (proper : scope.Proper) :
    (value : Expr) → ∀ template, template? scope value = some template → template.Proper
  | .paren inner, template, h => proper_template? proper inner template h
  | .function (.mk _ _ .absent), _, h => by cases h
  | .function (.mk params _ (.concise value)), _, h => by
    cases h
    intro item position pieces hitem hpieces
    simp only at hpieces
    split at hpieces
    · rename_i frame hframe
      exact proper_expand? (proper_callback proper hitem hframe) value pieces hpieces
    · cases hpieces
  | .function (.mk params _ (.block statements)), _, h => by
    cases h
    intro item position pieces hitem hpieces
    simp only at hpieces
    split at hpieces
    · rename_i frame hframe
      exact proper_run? (proper_callback proper hitem hframe) statements pieces hpieces
    · cases hpieces
  | .string _, _, h | .number _, _, h | .bool _, _, h | .null, _, h | .identifier _, _, h
  | .template .., _, h | .cast .., _, h | .unary .., _, h | .logical .., _, h | .binary .., _, h
  | .conditional .., _, h | .array _, _, h | .object _, _, h | .member .., _, h | .index .., _, h
  | .privateMember _, _, h | .call .., _, h | .element _, _, h | .fragment _, _, h
  | .assertion _, _, h | .assign .., _, h | .other _, _, h => by cases h

theorem proper_run? {scope : Scope} (proper : scope.Proper) : (statements : List Statement) →
    ∀ pieces, run? scope statements = some pieces → ∀ piece ∈ pieces, piece.Proper
  | [], _, h => by
    cases h
    exact List.forall_mem_nil _
  | .declare _ declarators :: rest, pieces, h => by
    simp only [run?] at h
    split at h
    · rename_i inner hinner
      exact proper_run? (proper_declareAll? proper.pushEmpty declarators hinner) rest pieces h
    · cases h
  | .returns (some value) :: _, pieces, h => proper_expand? proper value pieces h
  | .returns none :: _, _, h => by
    cases h
    exact List.forall_mem_nil _
  | .empty :: rest, pieces, h => proper_run? proper rest pieces h
  | .expression _ :: _, _, h | .function _ :: _, _, h | .exported _ :: _, _, h
  | .exportedDefault _ :: _, _, h | .other _ :: _, _, h => by cases h

theorem proper_pieces {scope : Scope} (proper : scope.Proper) :
    (children : List Child) → ∀ piece ∈ pieces scope children, piece.Proper
  | [] => List.forall_mem_nil _
  | child :: rest => by
    rw [pieces, List.forall_mem_append]
    refine ⟨?_, proper_pieces proper rest⟩
    cases h : child? scope child with
    | none => exact List.forall_mem_nil _
    | some found => exact proper_child? proper child found h

theorem proper_child? {scope : Scope} (proper : scope.Proper) : (child : Child) →
    ∀ pieces, child? scope child = some pieces → ∀ piece ∈ pieces, piece.Proper
  | .text _, _, h => by
    simp only [child?, Option.some.injEq] at h
    subst h
    split
    · exact List.forall_mem_nil _
    · exact List.forall_mem_singleton.2
        (Node.properTree_leaf rfl ⟨Traits.proper_empty, List.forall_mem_nil _⟩)
  | .element value, _, h => by
    obtain ⟨node, hnode, rfl⟩ := Option.map_eq_some_iff.1 h
    exact List.forall_mem_singleton.2 (proper_element? proper value node hnode)
  | .fragment children, _, h => by
    cases h
    exact proper_pieces proper children
  | .expression value, pieces, h => proper_expand? proper value pieces h
  | .empty, _, h => by
    cases h
    exact List.forall_mem_nil _
  | .spread _, _, h => by cases h

theorem proper_expand? {scope : Scope} (proper : scope.Proper) : (value : Expr) →
    ∀ pieces, expand? scope value = some pieces → ∀ piece ∈ pieces, piece.Proper
  | .paren inner, pieces, h | .cast .asType inner, pieces, h | .cast .nonNull inner, pieces, h =>
    proper_expand? proper inner pieces h
  | .element value, _, h => by
    obtain ⟨node, hnode, rfl⟩ := Option.map_eq_some_iff.1 h
    exact List.forall_mem_singleton.2 (proper_element? proper value node hnode)
  | .fragment children, _, h => by
    cases h
    exact proper_pieces proper children
  | .logical op left right, pieces, h => by
    simp only [expand?] at h
    split at h
    · split at h
      · exact proper_expand? proper right pieces h
      · exact proper_piecesOf? _ pieces h
    · cases h
  | .conditional test consequent alternate, pieces, h => by
    simp only [expand?] at h
    split at h
    · split at h
      · exact proper_expand? proper consequent pieces h
      · exact proper_expand? proper alternate pieces h
    · cases h
  | .array items, pieces, h => proper_expandItems? proper items pieces h
  | .call callee arguments, pieces, h => by
    cases callee with
    | member owner name =>
      simp only [expand?] at h
      split at h
      · split at h
        · rename_i items template howner htemplate
          have hitems := Literal.proper_array.1 (owner.proper_fold? proper _ howner)
          exact (proper_argumentTemplate? proper arguments template htemplate).run? items hitems 0
            pieces h
        · cases h
      · cases h
    | _ => cases h
  | .string _, _, h | .number _, _, h | .bool _, _, h | .null, _, h | .identifier _, _, h
  | .template .., _, h | .cast .satisfies _, _, h | .unary .., _, h | .binary .., _, h
  | .object _, _, h | .member .., _, h | .index .., _, h | .privateMember _, _, h
  | .function _, _, h | .assertion _, _, h | .assign .., _, h | .other _, _, h => by
    obtain ⟨value, -, hpieces⟩ := Option.bind_eq_some_iff.1 h
    exact proper_piecesOf? value _ hpieces

theorem proper_expandItems? {scope : Scope} (proper : scope.Proper) : (items : List Item) →
    ∀ pieces, expandItems? scope items = some pieces → ∀ piece ∈ pieces, piece.Proper
  | [], _, h => by
    cases h
    exact List.forall_mem_nil _
  | .value value :: rest, _, h => by
    simp only [expandItems?] at h
    split at h
    · rename_i first others hfirst hothers
      cases h
      exact List.forall_mem_append.2 ⟨proper_expand? proper value first hfirst,
        proper_expandItems? proper rest others hothers⟩
    · cases h
  | .spread .. :: _, _, h | .hole :: _, _, h => by cases h

theorem proper_argumentTemplate? {scope : Scope} (proper : scope.Proper) : (items : List Item) →
    ∀ template, argumentTemplate? scope items = some template → template.Proper
  | .value value :: _, template, h => proper_template? proper value template h
  | [], _, h | .spread .. :: _, _, h | .hole :: _, _, h => by cases h

end

theorem proper_markup? {scope : Scope} (proper : scope.Proper) (value : Expr) {node : Node}
    (h : markup? scope value = some node) : node.ProperTree := by
  fun_induction markup? scope value with
  | case1 inner ih => exact ih h
  | case2 value => exact proper_element? proper value node h
  | case3 => cases h
  | case4 children only honly =>
    cases h
    refine proper_toNode (proper_pieces proper children) node ?_
    rw [honly]
    exact List.mem_singleton_self node
  | case5 children =>
    cases h
    exact Node.properTree_view Traits.proper_empty (proper_toNode (proper_pieces proper children))
  | case6 => cases h

/-! ## The tree of a file -/

/-- A search that ends at a proper tree, if it ends at any. -/
def Finds (found : Option Node) : Prop := ∀ node, found = some node → node.ProperTree

theorem Finds.none : Finds none := by rintro _ ⟨⟩

theorem Finds.or {a b : Option Node} (ha : Finds a) (hb : Finds b) : Finds (a.or b) := by
  cases a with
  | none => exact hb
  | some node => exact ha

mutual

theorem finds_expr {scope : Scope} (proper : scope.Proper) :
    (value : Expr) → Finds (findInExpr scope value)
  | .string _ | .number _ | .bool _ | .null | .identifier _ => .none
  | .template _ holes => finds_exprs proper holes
  | .paren inner | .cast _ inner | .unary _ inner | .assertion inner => finds_expr proper inner
  | .member owner _ | .privateMember owner => finds_expr proper owner
  | .logical _ left right | .binary _ left right | .index left right | .assign left right =>
    (finds_expr proper left).or (finds_expr proper right)
  | .conditional test consequent alternate =>
    ((finds_expr proper test).or (finds_expr proper consequent)).or (finds_expr proper alternate)
  | .array items => finds_items proper items
  | .object members => finds_members proper members
  | .call callee arguments => (finds_expr proper callee).or (finds_items proper arguments)
  | .function value => finds_function proper value
  | .element value => finds_element proper value
  | .fragment children => finds_children proper children
  | .other parts => finds_parts proper parts

theorem finds_exprs {scope : Scope} (proper : scope.Proper) :
    (values : List Expr) → Finds (findInExprs scope values)
  | [] => .none
  | value :: rest => (finds_expr proper value).or (finds_exprs proper rest)

theorem finds_items {scope : Scope} (proper : scope.Proper) :
    (items : List Item) → Finds (findInItems scope items)
  | [] => .none
  | .value value :: rest | .spread value _ :: rest =>
    (finds_expr proper value).or (finds_items proper rest)
  | .hole :: rest => finds_items proper rest

theorem finds_members {scope : Scope} (proper : scope.Proper) :
    (members : List Member) → Finds (findInMembers scope members)
  | [] => .none
  | .field _ value :: rest | .spread value _ :: rest =>
    (finds_expr proper value).or (finds_members proper rest)
  | .computed key value :: rest =>
    ((finds_expr proper key).or (finds_expr proper value)).or (finds_members proper rest)

theorem finds_function {scope : Scope} (proper : scope.Proper) :
    (function : Function) → Finds (findInFunction scope function)
  | .mk params head body =>
    ((finds_params proper params).or (finds_parts proper head)).or (finds_body proper body)

theorem finds_params {scope : Scope} (proper : scope.Proper) :
    (params : List Param) → Finds (findInParams scope params)
  | [] => .none
  | .mk _ parts :: rest => (finds_parts proper parts).or (finds_params proper rest)

theorem finds_body {scope : Scope} (proper : scope.Proper) :
    (body : Body) → Finds (findInBody scope body)
  | .absent => .none
  | .concise value => finds_expr proper.pushEmpty value
  | .block statements => finds_statements (proper_enter proper statements) statements

theorem finds_statements {scope : Scope} (proper : scope.Proper) :
    (statements : List Statement) → Finds (findInStatements scope statements)
  | [] => .none
  | statement :: rest => (finds_statement proper statement).or (finds_statements proper rest)

theorem finds_statement {scope : Scope} (proper : scope.Proper) :
    (statement : Statement) → Finds (findInStatement scope statement)
  | .declare _ declarators => finds_declarators proper declarators
  | .returns none | .empty => .none
  | .returns (some value) | .expression value | .exportedDefault value => finds_expr proper value
  | .function value => finds_function proper value
  | .exported declaration => finds_statement proper declaration
  | .other parts => finds_parts proper parts

theorem finds_declarators {scope : Scope} (proper : scope.Proper) :
    (declarators : List Declarator) → Finds (findInDeclarators scope declarators)
  | [] => .none
  | .mk _ parts none :: rest => (finds_parts proper parts).or (finds_declarators proper rest)
  | .mk _ parts (some value) :: rest =>
    ((finds_parts proper parts).or (finds_expr proper value)).or (finds_declarators proper rest)

theorem finds_parts {scope : Scope} (proper : scope.Proper) :
    (parts : List Part) → Finds (findInParts scope parts)
  | [] => .none
  | .expression value :: rest => (finds_expr proper value).or (finds_parts proper rest)
  | .statement value :: rest => (finds_statement proper value).or (finds_parts proper rest)

theorem finds_element {scope : Scope} (proper : scope.Proper) :
    (element : Element) → Finds (findInElement scope element)
  | .mk tag attributes children =>
    (Finds.or (proper_element? proper (.mk tag attributes children))
      (finds_attributes proper attributes)).or (finds_children proper children)

theorem finds_attributes {scope : Scope} (proper : scope.Proper) :
    (attributes : List Attribute) → Finds (findInAttributes scope attributes)
  | [] => .none
  | .named _ value :: rest | .namespaced value :: rest =>
    (finds_attributeValue proper value).or (finds_attributes proper rest)
  | .spread value :: rest => (finds_expr proper value).or (finds_attributes proper rest)

theorem finds_attributeValue {scope : Scope} (proper : scope.Proper) :
    (value : AttributeValue) → Finds (findInAttributeValue scope value)
  | .flag | .text _ | .empty => .none
  | .expression value _ | .markup value => finds_expr proper value

theorem finds_children {scope : Scope} (proper : scope.Proper) :
    (children : List Child) → Finds (findInChildren scope children)
  | [] => .none
  | .text _ :: rest | .empty :: rest => finds_children proper rest
  | .element value :: rest => (finds_element proper value).or (finds_children proper rest)
  | .fragment children :: rest =>
    (finds_children proper children).or (finds_children proper rest)
  | .expression value :: rest | .spread value :: rest =>
    (finds_expr proper value).or (finds_children proper rest)

end

theorem proper_findTree {text : String} (program : Program) {tree : Node} {marked : Bool}
    (h : findTree text program = some (tree, marked)) : tree.ProperTree := by
  induction program with
  | nil => cases h
  | cons top rest ih =>
    unfold findTree at h
    split at h
    · cases h
      exact finds_statement Scope.proper_empty top.statement tree ‹_›
    · exact ih h

/-! ## The activity of a file -/

theorem exists_of_lastSome? {α : Type} {f : Expr → Option α} {name : String}
    {members : List (String × Expr)} {a : α} (h : lastSome? f name members = some a) :
    ∃ member ∈ members, f member.2 = some a := by
  obtain ⟨member, hmember, hvalue⟩ := List.mem_filterMap.1 (List.mem_of_getLast? h)
  split at hvalue
  · exact ⟨member, hmember, hvalue⟩
  · cases hvalue

theorem distinct_attributeTypes? {scope : Scope} (proper : scope.Proper) {name : String}
    {members : List (String × Expr)} :
    Bag.Distinct ((lastSome? (attributeTypes? scope) name members).getD []) := by
  cases h : lastSome? (attributeTypes? scope) name members with
  | none => exact .nil
  | some types =>
    obtain ⟨member, -, htypes⟩ := exists_of_lastSome? h
    unfold attributeTypes? at htypes
    split at htypes <;> cases htypes
    rename_i found hfound
    obtain ⟨hdistinct, -⟩ := Literal.proper_object.1 (member.2.proper_fold? proper _ hfound)
    exact (Bag.names_filterMap_sublist
      (fun member => member.2.string?.bind (Spelling.ofWord? : String → Option AttributeType))
      found).nodup hdistinct

theorem proper_region {scope : Scope} (proper : scope.Proper) {name : String}
    {members : List (String × Expr)} {node : Node}
    (h : (lastMember? name members).bind (markup? scope) = some node) : node.ProperTree := by
  obtain ⟨value, -, hnode⟩ := Option.bind_eq_some_iff.1 h
  exact proper_markup? proper value hnode

/-- What an activity has to be so that its text can hold it. -/
structure ProperActivity (activity : LiveActivity) : Prop where
  fixed : activity.attributes.fixed.Distinct
  changing : activity.attributes.changing.Distinct
  regions : ∀ node ∈ activity.regions.nodes, node.ProperTree

theorem proper_readActivity? {scope : Scope} (proper : scope.Proper) {value : Expr}
    {activity : LiveActivity} (h : readActivity? scope value = some activity) :
    ProperActivity activity := by
  obtain ⟨members, -, h⟩ := Option.bind_eq_some_iff.1 h
  obtain ⟨activityType, -, h⟩ := Option.bind_eq_some_iff.1 h
  obtain ⟨_, -, h⟩ := Option.bind_eq_some_iff.1 h
  cases h
  refine ⟨distinct_attributeTypes? proper, distinct_attributeTypes? proper, ?_⟩
  simp only [ActivityRegions.nodes, readRegions, List.forall_mem_append, Option.mem_toList]
  refine ⟨fun node => proper_region proper, ?_⟩
  cases lastMember? "dynamicIsland" (membersOf "regions" members) with
  | none => exact fun _ h => absurd h List.not_mem_nil
  | some island =>
    simp only [Option.map_some, Option.elim_some, DynamicIsland.nodes, readIsland,
      List.forall_mem_append, Option.mem_toList]
    exact ⟨⟨fun node => proper_region proper, fun node => proper_region proper⟩,
      fun node => proper_region proper⟩

theorem proper_returnedBy? {function : Function} {returned : Scope × Expr}
    (h : returnedBy? function = some returned) : returned.1.Proper := by
  unfold returnedBy? at h
  split at h
  · cases h
  · cases h
    exact proper_enter Scope.proper_empty _
  · obtain ⟨value, -, rfl⟩ := Option.map_eq_some_iff.1 h
    exact proper_enter Scope.proper_empty _

theorem proper_returnedByStatement {statement : Statement} :
    ∀ returned ∈ returnedByStatement statement, returned.1.Proper := by
  have hdeclarators : ∀ declarators : List Declarator,
      ∀ returned ∈ declarators.filterMap returnedByDeclarator?, returned.1.Proper := by
    intro declarators returned hreturned
    obtain ⟨declarator, -, h⟩ := List.mem_filterMap.1 hreturned
    unfold returnedByDeclarator? at h
    split at h
    · exact proper_returnedBy? h
    · cases h
  have hfunction : ∀ function : Function,
      ∀ returned ∈ (returnedBy? function).toList, returned.1.Proper := fun function returned h =>
    proper_returnedBy? (Option.mem_toList.1 h)
  unfold returnedByStatement
  split
  · exact hfunction _
  · exact hdeclarators _
  · exact hfunction _
  · exact hdeclarators _
  · exact hfunction _
  · exact fun _ h => absurd h List.not_mem_nil

theorem proper_findActivity? {text : String} {program : Program} {activity : LiveActivity}
    (h : findActivity? text program = some activity) : ProperActivity activity := by
  obtain ⟨top, -, htop⟩ := List.exists_of_findSome?_eq_some h
  split at htop
  · obtain ⟨returned, hreturned, hread⟩ := List.exists_of_findSome?_eq_some htop
    exact proper_readActivity? (proper_returnedByStatement returned hreturned) hread
  · cases htop

end Markup

end Widgetry
