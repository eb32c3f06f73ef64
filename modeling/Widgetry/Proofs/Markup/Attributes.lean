import Mathlib.Data.Option.Basic
import Widgetry.Proofs.Markup.Restoring

/-!
Ways to write an attribute: in braces, as a member of an object that is spread, or in quotes. Every
reader but one asks only for the value of an attribute, and that is the same in all three. The
template of a list is read by its form. Main statement: the spellings of an attribute build the same
node, unless they name the template of a list.
-/

namespace Widgetry.Markup

open Source (Expr Element Attribute Child)

/-! ## Readers of values -/

/-- The value of what stands behind a name, if it is known. -/
def Given.value? : Given → Option Literal
  | .literal value => some value
  | .quoted text => some (.string text)
  | .expression value _ _ => value
  | .valueless => none

namespace Attributes

theorem literal?_eq (given : Attributes) (name : String) :
    given.literal? name = (Bag.find? name given).elim (some none) fun found =>
      found.value?.map some := by
  unfold literal?
  split <;> rename_i hfound <;> rw [hfound] <;> rfl

/-- The attributes have the same values under all names. -/
def Alike (given other : Attributes) : Prop := given.literal? = other.literal?

namespace Alike

variable {given other : Attributes}

theorem bool? (alike : Alike given other) (name : String) :
    given.bool? name = other.bool? name := by
  rw [Attributes.bool?, Attributes.bool?, alike]

theorem traits? (alike : Alike given other) : given.traits? = other.traits? := by
  have halike : given.literal? = other.literal? := alike
  simp only [Attributes.traits?, Attributes.text?, Attributes.bool?, Attributes.style?,
    Attributes.object?, halike]

theorem listItems? (alike : Alike given other) : listItems? given = listItems? other := by
  rw [Markup.listItems?, Markup.listItems?, alike]

/-- Only lists ask for more than values. -/
theorem nodeOf? (alike : Alike given other) {type : NodeType} (h : type ≠ .list)
    (children : List Piece) (content : TextContent) :
    nodeOf? type given children content = nodeOf? type other children content := by
  have halike : given.literal? = other.literal? := alike
  cases type with
  | view | text => rfl
  | stack => simp only [Markup.nodeOf?, halike]
  | button => simp only [Markup.nodeOf?, buttonLabel?, Attributes.word?, halike]
  | image => simp only [Markup.nodeOf?, imageUri?, Attributes.text?, Attributes.word?, halike]
  | spacer => simp only [Markup.nodeOf?, Attributes.number?, halike]
  | progressBar => simp only [Markup.nodeOf?, Attributes.number?, Attributes.bool?, halike]
  | list => exact absurd rfl h

theorem list? (alike : Alike given other)
    (h : Bag.find? "renderItem" given = Bag.find? "renderItem" other) :
    list? given = list? other := by
  rw [Markup.list?, Markup.list?, alike.listItems?, alike.bool?, h]

end Alike

end Attributes

/-! ## Collecting attributes -/

section Collecting

variable (scope : Scope)

theorem attributes?_append (before after : List Attribute) (given : Attributes) :
    attributes? scope given (before ++ after)
      = (attributes? scope given before).bind fun given => attributes? scope given after := by
  induction before generalizing given with
  | nil => rfl
  | cons first rest ih =>
    cases first with
    | named name value =>
      simp only [List.cons_append, attributes?]
      exact ih _
    | namespaced _ => rfl
    | spread value =>
      simp only [List.cons_append, attributes?]
      split
      · exact ih _
      · rfl

/-- What attributes give counts before what was there, and whether they can be read is up to them
alone. -/
theorem find?_attributes? (attributes : List Attribute) (given : Attributes) :
    (attributes? scope given attributes).map (fun result name => Bag.find? name result)
      = (attributes? scope [] attributes).map fun later name =>
          (Bag.find? name later).or (Bag.find? name given) := by
  induction attributes generalizing given with
  | nil => rfl
  | cons first rest ih =>
    -- One attribute writes some pairs, over what is given or over nothing.
    have step (pairs : List (String × Given)) :
        (attributes? scope (Bag.putAll given pairs) rest).map (fun result name => Bag.find? name result)
          = (attributes? scope (Bag.putAll [] pairs) rest).map fun later name =>
              (Bag.find? name later).or (Bag.find? name given) := by
      have hnone := congrArg (Option.map fun found name => (found name).or (Bag.find? name given))
        (ih (Bag.putAll [] pairs))
      rw [Option.map_map, Option.map_map] at hnone
      refine (ih _).trans (.trans ?_ hnone.symm)
      congr 1
      funext later name
      rw [Bag.find?_putAll, Function.comp, Option.or_assoc]
    cases first with
    | named name value =>
      simp only [attributes?]
      exact step [(name, attributeValue scope value)]
    | namespaced _ => rfl
    | spread value =>
      simp only [attributes?]
      split
      · exact step _
      · rfl

end Collecting

/-! ## Spellings -/

/-- The attribute writes down what is given under a name. -/
def Gives (scope : Scope) (spelled : Attribute) (name : String) (found : Given) : Prop :=
  ∀ given rest, attributes? scope given (spelled :: rest)
    = attributes? scope (Bag.put name found given) rest

/-- What an expression is called where it stands for a template: a name by itself, and any other
expression by its text. -/
def templateName (value : Expr) (written : String) : String :=
  match value with
  | .identifier name => name
  | _ => written

/-- A callback has no value. -/
theorem template?_eq_none_of_fold? {scope : Scope} : (value : Expr) → ∀ literal,
    value.fold? scope = some literal → template? scope value = none
  | .paren inner, literal, h => template?_eq_none_of_fold? inner literal h
  | .function _, _, h => by cases h
  | .string _, _, _ | .number _, _, _ | .bool _, _, _ | .null, _, _ | .identifier _, _, _
  | .template .., _, _ | .cast .., _, _ | .unary .., _, _ | .logical .., _, _ | .binary .., _, _
  | .conditional .., _, _ | .array _, _, _ | .object _, _, _ | .member .., _, _ | .index .., _, _
  | .privateMember _, _, _ | .call .., _, _ | .element _, _, _ | .fragment _, _, _
  | .assertion _, _, _ | .assign .., _, _ | .other _, _, _ => rfl

section Spellings

variable {scope : Scope} {value : Expr} {literal : Literal}

theorem gives_braced (name : String) (folds : value.fold? scope = some literal)
    (written : String) :
    Gives scope (.named name (.expression value written)) name
      (.expression (some literal) none (templateName value written)) := by
  intro given rest
  rw [attributes?, ← folds, ← template?_eq_none_of_fold? value literal folds]
  rfl

theorem gives_spread (name : String) (folds : value.fold? scope = some literal) :
    Gives scope (.spread (.object [.field name value])) name (.literal literal) := by
  intro given rest
  simp only [attributes?, Expr.fold?, Expr.foldMembers?, folds]
  rfl

theorem gives_quoted (name text : String) :
    Gives scope (.named name (.text text)) name (.quoted text) := by
  intro given rest
  rfl

end Spellings

/-! ## Lists and their templates -/

/-- The node of a kind from the attributes, pieces and text of its element. -/
def completeNode? (type : NodeType) (given : Attributes) (children : List Piece)
    (content : TextContent) : Option Node :=
  (nodeOf? type given children content).bind fun build => given.traits?.map build

/-- A list that names its template. -/
def namedList? (given : Attributes) (template : String) : Option Node :=
  (listItems? given).bind fun items => (given.bool? "horizontal").bind fun horizontal =>
    given.traits?.map fun traits => .list traits (items.map Literal.toJson) template horizontal

/-- What stands behind a name is called this where it stands for a template. -/
def Given.Names (template : String) : Given → Prop
  | .quoted text => text = template
  | .expression _ none text => text = template
  | _ => False

namespace Attributes.Alike

variable {given other : Attributes}

theorem completeNode? (alike : Alike given other) {type : NodeType} (children : List Piece)
    (content : TextContent)
    (h : type = .list → Bag.find? "renderItem" given = Bag.find? "renderItem" other) :
    completeNode? type given children content = completeNode? type other children content := by
  rw [Markup.completeNode?, Markup.completeNode?, alike.traits?]
  by_cases htype : type = .list
  · subst htype
    simp only [Markup.nodeOf?, alike.list? (h rfl)]
  · rw [alike.nodeOf? htype]

theorem namedList? (alike : Alike given other) (template : String) :
    namedList? given template = namedList? other template := by
  rw [Markup.namedList?, Markup.namedList?, alike.traits?, alike.bool?, alike.listItems?]

end Attributes.Alike

theorem completeNode?_list_of_literal {given : Attributes} {value : Literal}
    (h : Bag.find? "renderItem" given = some (.literal value)) (children : List Piece)
    (content : TextContent) : completeNode? .list given children content = none := by
  simp only [completeNode?, nodeOf?, list?, h]
  cases listItems? given with
  | none => rfl
  | some items => cases given.bool? "horizontal" <;> rfl

theorem completeNode?_list_of_names {given : Attributes} {found : Given} {template : String}
    (h : Bag.find? "renderItem" given = some found) (names : found.Names template)
    (children : List Piece) (content : TextContent) :
    completeNode? .list given children content = namedList? given template := by
  have hlist : list? given = (listItems? given).bind fun items =>
      (given.bool? "horizontal").map fun horizontal traits =>
        .list traits (items.map Literal.toJson) template horizontal := by
    simp only [list?, h]
    cases listItems? given with
    | none => rfl
    | some items =>
      cases given.bool? "horizontal" with
      | none => rfl
      | some horizontal =>
        cases found with
        | quoted text =>
          cases names
          rfl
        | expression value callback text =>
          cases callback with
          | none =>
            cases names
            rfl
          | some _ => cases names
        | literal _ | valueless => cases names
  simp only [completeNode?, nodeOf?, namedList?, hlist]
  cases listItems? given with
  | none => rfl
  | some items => cases given.bool? "horizontal" <;> rfl

theorem namedList?_eq_iff {given : Attributes} {template other : String} :
    namedList? given template = namedList? given other ↔
      namedList? given other = none ∨ template = other := by
  simp only [namedList?]
  cases listItems? given with
  | none => simp
  | some items =>
    cases given.bool? "horizontal" with
    | none => simp
    | some horizontal =>
      cases given.traits? with
      | none => simp
      | some traits => simp

/-! ## Elements with an open place -/

/-- An element in which the place of one attribute is open. -/
structure OpenElement where
  tag : String
  before : List Attribute
  after : List Attribute
  children : List Child

namespace OpenElement

/-- What a builder makes of the element with an attribute in the open place. -/
def build (scope : Scope) (e : OpenElement) (spelled : Attribute) : Option Node :=
  ((Builder.element (.mk e.tag (e.before ++ spelled :: e.after) e.children)).run scope).1

/-- An attribute behind the open place has this name too. -/
def Covers (scope : Scope) (e : OpenElement) (name : String) : Prop :=
  ∃ later, attributes? scope [] e.after = some later ∧ Bag.find? name later ≠ none

/-- The open place is the one from which a list takes its template. -/
def NamesTemplate (scope : Scope) (e : OpenElement) (name : String) : Prop :=
  tag? e.tag = some .list ∧ name = "renderItem" ∧ ¬e.Covers scope name

variable {scope : Scope} {e : OpenElement} {name : String}

theorem build_eq (spelled : Attribute) :
    e.build scope spelled = (tag? e.tag).bind fun type =>
      (attributes? scope [] (e.before ++ spelled :: e.after)).bind fun given =>
        completeNode? type given (pieces scope e.children) (textContent scope e.children) := by
  rw [build, Builder.run_element]
  simp only [element?]
  cases tag? e.tag with
  | none => rfl
  | some type =>
    cases attributes? scope [] (e.before ++ spelled :: e.after) with
    | none => rfl
    | some given =>
      simp only [completeNode?, Option.bind_some]
      cases nodeOf? type given (pieces scope e.children) (textContent scope e.children) with
      | none => rfl
      | some _ => cases given.traits? <;> rfl

/-- The attributes that are found behind the open place, then the one in it, then those before. -/
def Layered (later : Attributes) (name : String) (found : Given) (given result : Attributes) :
    Prop :=
  ∀ key, Bag.find? key result
    = (Bag.find? key later).or (if key = name then some found else Bag.find? key given)

/-- Whether the attributes can be read is not up to the one in the open place. Where they can, it
counts unless an attribute behind it has its name. -/
theorem build_cases (scope : Scope) (e : OpenElement) (name : String) :
    (∀ spelled found, Gives scope spelled name found → e.build scope spelled = none) ∨
    ∃ given later, attributes? scope [] e.after = some later ∧
      ∀ spelled found, Gives scope spelled name found → ∃ result : Attributes,
        (e.build scope spelled = (tag? e.tag).bind fun type =>
          completeNode? type result (pieces scope e.children) (textContent scope e.children)) ∧
        Layered later name found given result := by
  cases hbefore : attributes? scope [] e.before with
  | none =>
    refine .inl fun spelled found gives => ?_
    rw [build_eq, attributes?_append, hbefore]
    cases tag? e.tag <;> rfl
  | some given =>
    have hlookup (found : Given) := find?_attributes? scope e.after (Bag.put name found given)
    cases hafter : attributes? scope [] e.after with
    | none =>
      refine .inl fun spelled found gives => ?_
      have hnone := hlookup found
      rw [hafter, Option.map_none, Option.map_eq_none_iff] at hnone
      rw [build_eq, attributes?_append, hbefore, Option.bind_some, gives, hnone]
      cases tag? e.tag <;> rfl
    | some later =>
      refine .inr ⟨given, later, rfl, fun spelled found gives => ?_⟩
      have hsome := hlookup found
      rw [hafter, Option.map_some] at hsome
      obtain ⟨result, hresult, hfind⟩ := Option.map_eq_some_iff.1 hsome
      refine ⟨result, ?_, fun key => ?_⟩
      · rw [build_eq, attributes?_append, hbefore, Option.bind_some, gives, hresult]
        rfl
      · rw [congrFun hfind key, Bag.find?_put]

theorem Layered.alike {given later result result' : Attributes} {found other : Given}
    (h : Layered later name found given result) (h' : Layered later name other given result')
    (hvalue : found.value? = other.value?) : Attributes.Alike result result' := by
  funext key
  rw [Attributes.literal?_eq, Attributes.literal?_eq, h, h']
  cases Bag.find? key later with
  | some _ => rfl
  | none =>
    by_cases hkey : key = name
    · simp only [hkey, if_true, Option.none_or, Option.elim_some, hvalue]
    · simp only [if_neg hkey]

section Builds

variable {spelled respelled : Attribute} {found other : Given}

/-- Outside the template of a list, only the value of an attribute counts. -/
theorem build_eq_of_value? (h : ¬e.NamesTemplate scope name) (gives : Gives scope spelled name found)
    (gives' : Gives scope respelled name other) (hvalue : found.value? = other.value?) :
    e.build scope spelled = e.build scope respelled := by
  rcases build_cases scope e name with hnone | ⟨given, later, hlater, hsome⟩
  · rw [hnone _ _ gives, hnone _ _ gives']
  · obtain ⟨first, hfirst, hfind⟩ := hsome _ _ gives
    obtain ⟨second, hsecond, hfind'⟩ := hsome _ _ gives'
    rw [hfirst, hsecond]
    cases htag : tag? e.tag with
    | none => rfl
    | some type =>
      -- A list also looks at the form of its template, which stands under another name or behind.
      refine (hfind.alike hfind' hvalue).completeNode? _ _ fun htype => ?_
      rw [hfind, hfind']
      by_cases hname : "renderItem" = name
      · have hcovers : e.Covers scope name := by
          by_contra hfree
          exact h ⟨by rw [htag, htype], hname.symm, hfree⟩
        obtain ⟨_, hlater', hcovered⟩ := hcovers
        rw [hlater] at hlater'
        cases hlater'
        obtain ⟨covering, hcovering⟩ := Option.ne_none_iff_exists'.1 hcovered
        rw [hname, hcovering]
        rfl
      · simp only [if_neg hname]

/-- In the place of a template, what is written in the open place is what the list finds. -/
theorem NamesTemplate.build_cases (h : e.NamesTemplate scope name) :
    (∀ spelled found, Gives scope spelled name found → e.build scope spelled = none) ∨
    ∃ given later : Attributes, ∀ spelled found, Gives scope spelled name found →
      ∃ result : Attributes,
        e.build scope spelled = completeNode? .list result (pieces scope e.children)
          (textContent scope e.children) ∧
        Bag.find? "renderItem" result = some found ∧ Layered later name found given result := by
  obtain ⟨htag, hname, hfree⟩ := h
  refine (OpenElement.build_cases scope e name).imp_right ?_
  rintro ⟨given, later, hlater, hsome⟩
  refine ⟨given, later, fun spelled found gives => ?_⟩
  obtain ⟨result, hresult, hfind⟩ := hsome _ _ gives
  refine ⟨result, by rw [hresult, htag, Option.bind_some], ?_, hfind⟩
  have hnone : Bag.find? name later = none := by
    by_contra hcovered
    exact hfree ⟨later, hlater, hcovered⟩
  rw [hfind, ← hname, hnone, if_pos rfl, Option.none_or]

/-- A list takes no template from the object of a spread. -/
theorem NamesTemplate.build_literal (h : e.NamesTemplate scope name) {literal : Literal}
    (gives : Gives scope spelled name (.literal literal)) : e.build scope spelled = none := by
  rcases h.build_cases with hnone | ⟨given, later, hsome⟩
  · exact hnone _ _ gives
  · obtain ⟨result, hresult, htemplate, -⟩ := hsome _ _ gives
    rw [hresult, completeNode?_list_of_literal htemplate]

/-- Two spellings of one value that name templates build the same list if they name the same. -/
theorem NamesTemplate.build_eq_iff (h : e.NamesTemplate scope name)
    (gives : Gives scope spelled name found) (gives' : Gives scope respelled name other)
    (hvalue : found.value? = other.value?) {first second : String} (names : found.Names first)
    (names' : other.Names second) :
    e.build scope spelled = e.build scope respelled ↔
      e.build scope respelled = none ∨ first = second := by
  rcases h.build_cases with hnone | ⟨given, later, hsome⟩
  · simp only [hnone _ _ gives, hnone _ _ gives', true_or]
  · obtain ⟨result, hresult, htemplate, hfind⟩ := hsome _ _ gives
    obtain ⟨result', hresult', htemplate', hfind'⟩ := hsome _ _ gives'
    have alike := hfind.alike hfind' hvalue
    rw [hresult, hresult', completeNode?_list_of_names htemplate names,
      completeNode?_list_of_names htemplate' names', alike.namedList? first]
    exact namedList?_eq_iff

end Builds

end OpenElement

/-- How an attribute is spelled does not matter, with one exception. For every element, scope,
attribute name and expression that folds, the attribute in braces and the spread of an object with it
build the same node or both fail, and so does the attribute in quotes when the value is a text. The
exception is the template of a list, unless an attribute behind it has the same name: there a spread
never builds, and braces name the template by the text of the expression and not by its value. -/
theorem build_spellings_iff (scope : Scope) (e : OpenElement) (name : String) (value : Expr)
    (written : String) (literal : Literal) (folds : value.fold? scope = some literal) :
    (e.build scope (.spread (.object [.field name value]))
        = e.build scope (.named name (.expression value written)) ↔
      (e.NamesTemplate scope name →
        e.build scope (.named name (.expression value written)) = none)) ∧
    (e.NamesTemplate scope name → e.build scope (.spread (.object [.field name value])) = none) ∧
    ∀ text, literal = .string text →
      (e.build scope (.named name (.text text))
          = e.build scope (.named name (.expression value written)) ↔
        (e.NamesTemplate scope name →
          e.build scope (.named name (.expression value written)) = none ∨
            text = templateName value written)) := by
  have braced := gives_braced name folds written
  have spread := gives_spread name folds
  by_cases h : e.NamesTemplate scope name
  · refine ⟨?_, fun _ => h.build_literal spread, ?_⟩
    · rw [h.build_literal spread, forall_prop_of_true h]
      exact eq_comm
    · rintro text rfl
      rw [forall_prop_of_true h]
      exact h.build_eq_iff (gives_quoted name text) braced rfl rfl rfl
  · refine ⟨?_, fun hnames => absurd hnames h, ?_⟩
    · exact iff_of_true (OpenElement.build_eq_of_value? h spread braced rfl)
        fun hnames => absurd hnames h
    · rintro text rfl
      exact iff_of_true (OpenElement.build_eq_of_value? h (gives_quoted name text) braced rfl)
        fun hnames => absurd hnames h

/-- A list that is given the template `row`: quotes name it, braces name it with the quotes of the
expression, and a spread builds nothing. -/
theorem build_spellings_row :
    let e : OpenElement := ⟨"List", [], [], []⟩
    let braced : Attribute := .named "renderItem" (.expression (.string "row") "'row'")
    let spread : Attribute := .spread (.object [.field "renderItem" (.string "row")])
    let quoted : Attribute := .named "renderItem" (.text "row")
    (Expr.string "row").fold? {} = some (.string "row") ∧
    e.NamesTemplate {} "renderItem" ∧
    e.build {} braced = some (.list {} [] "'row'" none) ∧
    e.build {} spread = none ∧ e.build {} spread ≠ e.build {} braced ∧
    e.build {} quoted = some (.list {} [] "row" none) ∧ e.build {} quoted ≠ e.build {} braced := by
  intro e braced spread quoted
  have folds : (Expr.string "row").fold? {} = some (.string "row") := by rfl
  have names : e.NamesTemplate {} "renderItem" := by
    refine ⟨by decide, rfl, ?_⟩
    rintro ⟨later, hlater, hcovered⟩
    cases hlater
    exact hcovered rfl
  have hbraced : e.build {} braced = some (.list {} [] "'row'" none) := by
    rw [OpenElement.build_eq, names.1]
    rfl
  have hquoted : e.build {} quoted = some (.list {} [] "row" none) := by
    rw [OpenElement.build_eq, names.1]
    rfl
  obtain ⟨hspread, hnone, htext⟩ :=
    build_spellings_iff {} e "renderItem" (.string "row") "'row'" _ folds
  refine ⟨folds, names, hbraced, hnone names, fun heq => ?_, hquoted, fun heq => ?_⟩
  · cases hbraced.symm.trans (hspread.1 heq names)
  · rcases (htext "row" rfl).1 heq names with hfails | hsame
    · cases hbraced.symm.trans hfails
    · exact absurd hsame (by decide)

end Widgetry.Markup
