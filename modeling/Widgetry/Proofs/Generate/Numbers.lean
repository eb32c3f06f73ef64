import Widgetry.Proofs.Code.Numbers
import Widgetry.Proofs.Generate.Files
import Widgetry.Proofs.Root.Numbers

/-!
The numbers in generated code. Each of them is handed on by a node, a policy or a live activity, so
in the code for roots that keep all rules every number is finite. Main statement: a number that is
printed is built in, or it was checked, or it is the rounding of one that was.
-/

namespace Widgetry

open Code Code.Phrase

variable {P : Float → Prop}

/-- The number satisfies `P` once it is printed, without the sign of a zero. -/
abbrev Printed (P : Float → Prop) (x : Float) : Prop := P (Double.unsigned x)

/-! ## Views -/

namespace Ios

@[simp] theorem numbersIn_number {x : Float} : (number x).NumbersIn P ↔ Printed P x :=
  numbersIn_measure

@[simp] theorem numbersIn_labelled {label : String} {value : Phrase} :
    (labelled label value).NumbersIn P ↔ value.NumbersIn P := numbersIn_cons_word

@[simp] theorem numbersIn_colour (text : String) : (colour text).NumbersIn P := by
  unfold colour
  split <;> simp

@[simp] theorem numbersIn_modifier {name : String} {arguments : List Phrase} :
    (modifier name arguments).NumbersIn P ↔ Phrase.AllNumbersIn P arguments := by
  simp [modifier]

@[simp] theorem allNumbersIn_lineFor {α : Type} {value : Option α} {line : α → Code} :
    AllNumbersIn P (lineFor value line) ↔ ∀ a ∈ value, (line a).NumbersIn P := by
  cases value <;> simp [lineFor]

theorem allNumbersIn_textModifiers {style : Style} (h : style.NumbersIn (Printed P)) :
    AllNumbersIn P (textModifiers style) := by
  have hlines : ∀ x, style.number? "numberOfLines" = some x → 0 < x → Printed P x :=
    fun x hx _ => h _ x hx
  simpa [textModifiers] using ⟨h "fontSize", hlines, h.nonzero? "letterSpacing"⟩

theorem numbersIn_sizeModifier {size : Size} (h : size.NumbersIn (Printed P)) :
    (sizeModifier size).NumbersIn P := by
  have hor : ∀ {first second : Option Float}, (∀ x ∈ first, Printed P x) →
      (∀ x ∈ second, Printed P x) →
      ∀ x, first = some x ∨ first = none ∧ second = some x → Printed P x := by
    rintro first second hfirst hsecond x (hx | ⟨-, hx⟩)
    · exact hfirst x hx
    · exact hsecond x hx
  simp only [Size.NumbersIn, List.forall_mem_cons] at h
  obtain ⟨hwidth, hheight, hminWidth, hminHeight, hmaxWidth, hmaxHeight, -⟩ := h
  rw [sizeModifier, numbersIn_modifier]
  refine Phrase.allNumbersIn_filterMap ?_
  split
  · simpa using ⟨hor hminWidth hwidth, hor hmaxWidth hwidth, hor hminHeight hheight,
      hor hmaxHeight hheight⟩
  · simpa using ⟨hwidth, hheight⟩

theorem allNumbersIn_paddingModifiers {padding : Padding} (h : padding.NumbersIn (Printed P)) :
    AllNumbersIn P (paddingModifiers padding) := by
  cases padding with
  | uniform value =>
    have hvalue : Printed P value := h
    simp [paddingModifiers, hvalue]
  | edges horizontal vertical top bottom left right =>
    exact Code.allNumbersIn_filterMap (by simpa [Padding.NumbersIn] using h)

theorem numbersIn_borderModifier {border : Border} (h : border.NumbersIn (Printed P)) :
    (borderModifier border).NumbersIn P := by
  simp [borderModifier, h.width, h.radius]

theorem numbersIn_shadowModifier {shadow : Shadow} (h : shadow.NumbersIn (Printed P)) :
    (shadowModifier shadow).NumbersIn P := by
  have hbase : ((shadow.color.map colour).getD (word "Color.black")).NumbersIn P := by
    cases shadow.color <;> simp
  simp [shadowModifier, hbase, h.opacity, h.radius, h.offsetX, h.offsetY]

theorem allNumbersIn_boxModifiers {box : Box} (h : box.NumbersIn (Printed P)) :
    AllNumbersIn P (boxModifiers box) := by
  have hpadding : AllNumbersIn P ((box.padding.map paddingModifiers).getD []) := by
    cases hpadding : box.padding with
    | none => simp
    | some padding => exact allNumbersIn_paddingModifiers (h.padding padding hpadding)
  have hsize : ∀ size ∈ box.size, (sizeModifier size).NumbersIn P :=
    fun size hsize => numbersIn_sizeModifier (h.size size hsize)
  have hborder : ∀ border ∈ box.border, (borderModifier border).NumbersIn P :=
    fun border hborder => numbersIn_borderModifier (h.border border hborder)
  have hshadow : ∀ shadow ∈ box.shadow, (shadowModifier shadow).NumbersIn P :=
    fun shadow hshadow => numbersIn_shadowModifier (h.shadow shadow hshadow)
  simpa [boxModifiers, hpadding] using
    ⟨hsize, h.aspectRatio, h.opacity, h.cornerRadius, hborder, hshadow, h.zIndex⟩

/-! ### Nodes -/

theorem numbersIn_containerHead {layout : ContainerLayout} (h : Printed P layout.gap) :
    (containerHead layout).NumbersIn P := by
  unfold containerHead
  split
  all_goals simp [h]

theorem allNumbersIn_linked {traits : Traits} {code : List Code} (h : AllNumbersIn P code) :
    AllNumbersIn P (linked traits code) := by
  unfold linked
  split <;> simp [h]

theorem numbersIn_image (uri : String) (resizeMode : Option ResizeMode) :
    (image uri resizeMode).NumbersIn P := by
  unfold image
  dsimp only
  split <;> simp

/-! ### Parts of files -/

theorem numbersIn_attributesType (name : String) (attributes : ActivityAttributes) :
    (attributesType name attributes).NumbersIn P := by
  simp [attributesType, attributeFields]

theorem allNumbersIn_activityConstants {name : String} {activity : LiveActivity}
    (h : ∀ x ∈ activity.relevanceScore, Printed P x) :
    AllNumbersIn P (activityConstants name activity) := by
  simpa [activityConstants] using fun _ => h

theorem numbersIn_reloadPolicy {policy : Option TimelinePolicy}
    (h : ∀ named ∈ policy, ∀ x ∈ named.minutes?, Printed P x) :
    (reloadPolicy policy).NumbersIn P := by
  unfold reloadPolicy
  split
  · simp
  · split
    · rename_i minutes hminutes
      simpa using h _ rfl minutes hminutes
    · simp
  · simp

theorem allNumbersIn_bundleFile {widgets : List (String × Widget)}
    (h : ∀ widget ∈ widgets, ∀ policy ∈ widget.2.timeline.bind (·.policy),
      ∀ x ∈ policy.minutes?, Printed P x) : AllNumbersIn P (bundleFile widgets) := by
  have hprovider : ∀ widget ∈ widgets, (provider widget.1 widget.2).NumbersIn P := by
    intro widget hwidget
    simpa [provider] using numbersIn_reloadPolicy (h widget hwidget)
  have hregistration : ∀ (name : String) (widget : Widget),
      (registration name widget).NumbersIn P := by
    intro name widget
    simp [registration]
  simpa [bundleFile, hregistration] using hprovider

theorem allNumbersIn_traitModifiers (hbuiltIn : ∀ x ∈ builtInNumbers, Printed P x) {traits : Traits}
    (h : traits.NumbersIn (Printed P)) : AllNumbersIn P (traitModifiers traits) := by
  have haccessibility : ∀ accessibility : Accessibility,
      AllNumbersIn P (accessibilityModifiers accessibility) := by
    intro accessibility
    simp [accessibilityModifiers]
  rw [traitModifiers, Code.allNumbersIn_append]
  refine ⟨allNumbersIn_boxModifiers (h.box hbuiltIn), ?_⟩
  cases traits.accessibility with
  | none => simp
  | some accessibility => exact haccessibility accessibility

mutual

theorem allNumbersIn_view (hbuiltIn : ∀ x ∈ builtInNumbers, Printed P x) (node : Node)
    (h : ∀ n ∈ node.nodes, n.NumbersIn (Printed P)) : AllNumbersIn P (view node) := by
  have hself := h node node.mem_nodes_self
  have hmodifiers := allNumbersIn_traitModifiers hbuiltIn hself.traits
  cases node with
  | view traits children =>
    have hhead := numbersIn_containerHead (hself.traits.gap hbuiltIn .vertical)
    have hchildren := allNumbersIn_views hbuiltIn children (List.forall_mem_cons.1 h).2
    cases children with
    | nil => exact Code.allNumbersIn_cons.2 ⟨numbersIn_say _, hmodifiers⟩
    | cons child rest =>
      exact Code.allNumbersIn_cons.2 ⟨numbersIn_braces.2 ⟨hhead, hchildren⟩, hmodifiers⟩
  | stack traits axis children =>
    have hhead := numbersIn_containerHead (hself.traits.gap hbuiltIn axis)
    have hchildren := allNumbersIn_views hbuiltIn children (List.forall_mem_cons.1 h).2
    exact allNumbersIn_linked
      (Code.allNumbersIn_cons.2 ⟨numbersIn_braces.2 ⟨hhead, hchildren⟩, hmodifiers⟩)
  | text traits content =>
    have hstyle : AllNumbersIn P ((traits.style.map textModifiers).getD []) := by
      cases hstyle : traits.style with
      | none => simp
      | some style => exact allNumbersIn_textModifiers (hself.traits style hstyle)
    simpa [view, Node.traits, hstyle] using hmodifiers
  | button traits label variant size => simpa [view, Node.traits] using hmodifiers
  | image traits uri resizeMode placeholder =>
    simpa [view, Node.traits, numbersIn_image] using hmodifiers
  | spacer traits flex => simpa [view, Node.traits] using hmodifiers
  | progressBar traits progress indeterminate =>
    have hprogress : Printed P progress := hself.own progress (List.mem_singleton_self progress)
    simpa [view, Node.traits, hprogress] using hmodifiers
  | list traits items renderItem horizontal => simpa [view, Node.traits] using hmodifiers

theorem allNumbersIn_views (hbuiltIn : ∀ x ∈ builtInNumbers, Printed P x) (nodes : List Node)
    (h : ∀ n ∈ Node.nodesAll nodes, n.NumbersIn (Printed P)) : AllNumbersIn P (views nodes) := by
  cases nodes with
  | nil => simp [views]
  | cons node rest =>
    obtain ⟨hnode, hrest⟩ := List.forall_mem_append.1 h
    rw [views, Code.allNumbersIn_append]
    exact ⟨allNumbersIn_view hbuiltIn node hnode, allNumbersIn_views hbuiltIn rest hrest⟩

end

/-! ### Files -/

section

variable (hbuiltIn : ∀ x ∈ builtInNumbers, Printed P x)

include hbuiltIn

theorem allNumbersIn_viewFile {root : Root} (h : ∀ n ∈ root.tree.nodes, n.NumbersIn (Printed P)) :
    AllNumbersIn P (viewFile root) := by
  simpa [viewFile] using allNumbersIn_view hbuiltIn root.tree h

theorem allNumbersIn_activityFile {activity : LiveActivity}
    (hscore : ∀ x ∈ activity.relevanceScore, Printed P x)
    (h : ∀ node ∈ activity.regions.nodes, ∀ n ∈ node.nodes, n.NumbersIn (Printed P)) :
    AllNumbersIn P (activityFile activity) := by
  have hregion : ∀ (node : Option Node) (sign : String),
      (∀ n ∈ node, ∀ inner ∈ n.nodes, inner.NumbersIn (Printed P)) →
      AllNumbersIn P (region node sign) := by
    intro node sign hnode
    cases node with
    | none => simp [region]
    | some node => exact allNumbersIn_view hbuiltIn node (hnode node rfl)
  obtain ⟨hlockScreen, hexpanded, hcompact, hminimal⟩ := ActivityRegions.forall_mem_nodes.1 h
  simpa [activityFile, numbersIn_attributesType, allNumbersIn_activityConstants hscore,
    activityWidget, island] using ⟨hregion _ "Activity" hlockScreen, hregion _ "Expanded" hexpanded,
      hregion _ "•" hcompact, hregion _ "-" hminimal⟩

theorem allNumbersIn_rootCode {root : Root} (h : root.NumbersIn (Printed P)) :
    AllNumbersIn P (rootCode root) := by
  unfold rootCode
  split
  · rename_i activity hactivity
    exact allNumbersIn_activityFile hbuiltIn (h.score activity hactivity) (h.regions hactivity)
  · exact allNumbersIn_viewFile hbuiltIn h.tree

theorem allNumbersIn_codes {roots : List Root} (h : ∀ root ∈ roots, root.NumbersIn (Printed P)) :
    ∀ code ∈ codes roots, AllNumbersIn P code := by
  have hwidgets : ∀ widget ∈ roots.filterMap registered?,
      ∀ policy ∈ widget.2.timeline.bind (·.policy), ∀ x ∈ policy.minutes?, Printed P x := by
    intro widget hwidget
    obtain ⟨root, hroot, hregistered⟩ := List.mem_filterMap.1 hwidget
    unfold registered? at hregistered
    split at hregistered
    · cases hregistered
    · obtain ⟨widget, hsome, rfl⟩ := Option.map_eq_some_iff.1 hregistered
      exact (h root hroot).minutes widget hsome
  intro code hcode
  rw [codes, List.mem_append] at hcode
  rcases hcode with hroots | hbundle
  · obtain ⟨root, hroot, rfl⟩ := List.mem_map.1 hroots
    exact allNumbersIn_rootCode hbuiltIn (h root hroot)
  · split_ifs at hbundle
    · cases hbundle
    · obtain rfl := List.mem_singleton.1 hbundle
      exact allNumbersIn_bundleFile hwidgets

end

end Ios

/-! ## Composables -/

namespace Android

@[simp] theorem numbersIn_dp {x : Float} : (dp x).NumbersIn P ↔ Printed P x := numbersIn_measure

@[simp] theorem numbersIn_sp {x : Float} : (sp x).NumbersIn P ↔ Printed P x := numbersIn_measure

@[simp] theorem numbersIn_float {x : Float} : (float x).NumbersIn P ↔ Printed P x :=
  numbersIn_measure

@[simp] theorem numbersIn_named {name : String} {value : Phrase} :
    (named name value).NumbersIn P ↔ value.NumbersIn P := numbersIn_cons_word

@[simp] theorem numbersIn_colourLiteral (colour : Colour) :
    (colourLiteral colour).NumbersIn P := by
  simp [colourLiteral]

theorem numbersIn_of_colour? {text : String} {phrase : Phrase} (h : colour? text = some phrase) :
    phrase.NumbersIn P := by
  obtain ⟨colour, -, rfl⟩ := Option.map_eq_some_iff.1 h
  exact numbersIn_colourLiteral colour

theorem numbersIn_of_bind_colour? {text : Option String} {phrase : Phrase}
    (h : text.bind colour? = some phrase) : phrase.NumbersIn P := by
  obtain ⟨text, -, htext⟩ := Option.bind_eq_some_iff.1 h
  exact numbersIn_of_colour? htext

@[simp] theorem allNumbersIn_partFor {α : Type} {value : Option α} {part : α → Phrase} :
    Phrase.AllNumbersIn P (partFor value part) ↔ ∀ a ∈ value, (part a).NumbersIn P := by
  cases value <;> simp [partFor]

/-! ### Actions -/

@[simp] theorem numbersIn_screenAction (action : Action) : (screenAction action).NumbersIn P := by
  have happ : ((action.appId.map quoted).getD (word "context.packageName")).NumbersIn P := by
    cases action.appId <;> simp
  unfold screenAction
  split
  · split <;> simp
  · simp [happ]
  · simp
  · simp

@[simp] theorem numbersIn_glanceAction (action : Option Action) :
    (glanceAction action).NumbersIn P := by
  unfold glanceAction
  split <;> simp

@[simp] theorem numbersIn_clickable (surface : Surface) (action : Action) :
    (clickable surface action).NumbersIn P := by
  cases surface <;> simp [clickable]

/-! ### Boxes -/

theorem allNumbersIn_paddingParts {padding : Padding} (h : padding.NumbersIn (Printed P)) :
    Phrase.AllNumbersIn P (paddingParts padding) := by
  cases padding with
  | uniform value =>
    have hvalue : Printed P value := h
    simp [paddingParts, hvalue]
  | edges horizontal vertical top bottom left right =>
    exact Phrase.allNumbersIn_filterMap (by simpa [Padding.NumbersIn] using h)

theorem allNumbersIn_boundsPart {name : String} {least greatest : Option Float}
    (hleast : ∀ x ∈ least, Printed P x) (hgreatest : ∀ x ∈ greatest, Printed P x) :
    Phrase.AllNumbersIn P (boundsPart name least greatest) := by
  have hbounds : Phrase.AllNumbersIn P (partFor least (fun x => named "min" (dp x))
      ++ partFor greatest (fun x => named "max" (dp x))) := by
    simpa using ⟨hleast, hgreatest⟩
  unfold boundsPart
  split
  · simp
  · simpa using hbounds

theorem allNumbersIn_sizeParts {surface : Surface} {size : Size}
    (h : size.NumbersIn (Printed P)) : Phrase.AllNumbersIn P (sizeParts surface size) := by
  simp only [Size.NumbersIn, List.forall_mem_cons] at h
  obtain ⟨hwidth, hheight, hminWidth, hminHeight, hmaxWidth, hmaxHeight, -⟩ := h
  cases surface with
  | screen =>
    simpa [sizeParts, allNumbersIn_boundsPart hminWidth hmaxWidth,
      allNumbersIn_boundsPart hminHeight hmaxHeight] using ⟨hwidth, hheight⟩
  | glance => simpa [sizeParts] using ⟨hwidth, hheight⟩

@[simp] theorem numbersIn_corner {radius : Float} :
    (corner radius).NumbersIn P ↔ Printed P radius := by
  simp [corner]

theorem numbersIn_shadowPart {cornerRadius : Option Float} {shadow : Shadow}
    (hradius : Printed P (cornerRadius.getD 0)) (h : shadow.NumbersIn (Printed P)) :
    (shadowPart cornerRadius shadow).NumbersIn P := by
  simp [shadowPart, h.radius, hradius]

theorem numbersIn_of_borderPart? {border : Border} {phrase : Phrase}
    (h : border.NumbersIn (Printed P)) (hphrase : borderPart? border = some phrase) :
    phrase.NumbersIn P := by
  obtain ⟨colour, hcolour, rfl⟩ := Option.map_eq_some_iff.1 hphrase
  have hliteral : colour.NumbersIn P := numbersIn_of_colour? hcolour
  simp [h.width, h.radius, hliteral]

theorem numbersIn_of_semanticsPart? {accessibility : Accessibility} {phrase : Phrase}
    (h : semanticsPart? accessibility = some phrase) : phrase.NumbersIn P := by
  unfold semanticsPart? at h
  split_ifs at h
  · cases h
    simp
  · obtain ⟨label, -, rfl⟩ := Option.map_eq_some_iff.1 h
    simp

theorem allNumbersIn_ownParts {surface : Surface} {inContainer : Bool} {node : Node}
    (h : ∀ x ∈ node.ownNumbers, Printed P x) :
    Phrase.AllNumbersIn P (ownParts surface inContainer node) := by
  cases node with
  | spacer traits flex =>
    have hflex : ∀ x ∈ flex, (spacerPart surface inContainer x).NumbersIn P := by
      intro x hx
      have hprinted : Printed P x := h x (Option.mem_toList.2 hx)
      unfold spacerPart
      split
      · cases surface <;> simp [hprinted]
      · simp
    simp only [ownParts, Phrase.allNumbersIn_append, allNumbersIn_partFor]
    exact ⟨fun x hx => hflex x (Option.mem_filter_iff.1 hx).1,
      fun action _ => numbersIn_clickable surface action⟩
  | _ => simp [ownParts]

/-! ### Leaves and arguments -/

theorem numbersIn_spread {layout : ContainerLayout} {arrangement : String}
    (h : Printed P layout.gap) : (spread layout arrangement).NumbersIn P := by
  unfold spread
  split <;> simp [h]

theorem allNumbersIn_containerArguments {layout : ContainerLayout} {surface : Surface}
    (h : Printed P layout.gap) :
    Phrase.AllNumbersIn P (containerArguments layout surface) := by
  unfold containerArguments
  split
  · split <;> simp [numbersIn_spread h]
  · split <;> simp

theorem allNumbersIn_textArguments {style : Style} {surface : Surface}
    (h : style.NumbersIn (Printed P)) :
    Phrase.AllNumbersIn P (textArguments style surface) := by
  have hfontSize : Phrase.AllNumbersIn P (fontSizePart style) := by
    simpa [fontSizePart] using h "fontSize"
  have hweight : ∀ weight?, Phrase.AllNumbersIn P (weightPart style weight?) := by
    simp [weightPart]
  have halign : Phrase.AllNumbersIn P (alignPart style) := by simp [alignPart]
  have hmaxLines : Phrase.AllNumbersIn P (maxLinesPart style) := by
    simp only [maxLinesPart, allNumbersIn_partFor, numbersIn_named, numbersIn_measure]
    exact fun lines hlines => h _ lines (Option.mem_filter_iff.1 hlines).1
  have hcolour : ∀ colour ∈ textColour? style, colour.NumbersIn P :=
    fun colour hcolour => numbersIn_of_bind_colour? hcolour
  cases surface with
  | screen =>
    simpa [textArguments, hfontSize, hweight, halign, hmaxLines] using
      ⟨hcolour, h.nonzero? "letterSpacing"⟩
  | glance =>
    have hparts : Phrase.AllNumbersIn P (partFor (textColour? style)
        (fun colour => named "color" (call "ColorProvider" [colour]))
        ++ fontSizePart style ++ weightPart style glanceWeight? ++ alignPart style) := by
      simpa [hfontSize, hweight, halign] using hcolour
    rw [textArguments, Phrase.allNumbersIn_append]
    refine ⟨?_, hmaxLines⟩
    split
    · simp
    · simpa using hparts

@[simp] theorem numbersIn_description (traits : Traits) : (description traits).NumbersIn P := by
  unfold description
  cases traits.accessibility.bind Accessibility.label <;> simp

theorem numbersIn_button {surface : Surface} {traits : Traits} {label : String}
    {variant : Option ButtonVariant} {modifier : List Phrase}
    (h : Phrase.AllNumbersIn P modifier) :
    (button surface traits label variant modifier).NumbersIn P := by
  have htap : ((traits.action.map screenAction).getD []).NumbersIn P := by
    cases traits.action <;> simp
  cases surface with
  | screen => simp [button, htap, h]
  | glance => simp [button, h]

theorem allNumbersIn_image {surface : Surface} {traits : Traits} {uri : String}
    {resizeMode : Option ResizeMode} {modifier : List Phrase}
    (h : Phrase.AllNumbersIn P modifier) :
    AllNumbersIn P (image surface traits uri resizeMode modifier) := by
  cases surface <;> simp [image, h]

theorem numbersIn_progressArgument {surface : Surface} {progress : Float}
    (h : Printed P progress) : (progressArgument surface progress).NumbersIn P := by
  cases surface <;> simp [progressArgument, h]

theorem allNumbersIn_header (package : String) (imports : List String) :
    AllNumbersIn P (header package imports) := by
  simp [header]

/-! ### Chains -/

section

variable (hbuiltIn : ∀ x ∈ builtInNumbers, Printed P x)

include hbuiltIn

theorem allNumbersIn_screenParts {traits : Traits} {box : Box} (h : box.NumbersIn (Printed P)) :
    Phrase.AllNumbersIn P (screenParts traits box) := by
  have hsemantics : Phrase.AllNumbersIn P (traits.accessibility.bind semanticsPart?).toList := by
    intro phrase hphrase
    obtain ⟨_, -, hpart⟩ := Option.bind_eq_some_iff.1 (Option.mem_toList.1 hphrase)
    exact numbersIn_of_semanticsPart? hpart
  have hborder : Phrase.AllNumbersIn P (box.border.bind borderPart?).toList := by
    intro phrase hphrase
    obtain ⟨border, hborder, hpart⟩ := Option.bind_eq_some_iff.1 (Option.mem_toList.1 hphrase)
    exact numbersIn_of_borderPart? (h.border border hborder) hpart
  have hradius : Printed P (box.cornerRadius.getD 0) := by
    cases hradius : box.cornerRadius with
    | none => exact hbuiltIn 0 (by simp [builtInNumbers])
    | some radius => exact h.cornerRadius radius hradius
  have hshadow : ∀ shadow ∈ box.shadow, (shadowPart box.cornerRadius shadow).NumbersIn P :=
    fun shadow hshadow => numbersIn_shadowPart hradius (h.shadow shadow hshadow)
  simpa [screenParts, hsemantics, hborder] using
    ⟨h.zIndex, h.opacity, hshadow, h.cornerRadius⟩

theorem allNumbersIn_boxParts {surface : Surface} {traits : Traits} {box : Box}
    (h : box.NumbersIn (Printed P)) : Phrase.AllNumbersIn P (boxParts surface traits box) := by
  have hsize : Phrase.AllNumbersIn P ((box.size.map (sizeParts surface)).getD []) := by
    cases hsize : box.size with
    | none => simp
    | some size => exact allNumbersIn_sizeParts (h.size size hsize)
  have hpadding : Phrase.AllNumbersIn P ((box.padding.map paddingParts).getD []) := by
    cases hpadding : box.padding with
    | none => simp
    | some padding => exact allNumbersIn_paddingParts (h.padding padding hpadding)
  have hbackground : Phrase.AllNumbersIn P
      (partFor (box.background.bind colour?) fun colour => call "background" [colour]) := by
    simp only [allNumbersIn_partFor, numbersIn_call, Phrase.allNumbersIn_cons,
      Phrase.allNumbersIn_nil, and_true]
    exact fun colour hcolour => numbersIn_of_bind_colour? hcolour
  cases surface with
  | screen =>
    simpa [boxParts, allNumbersIn_screenParts hbuiltIn h, hsize, hpadding, hbackground] using
      h.aspectRatio
  | glance => simpa [boxParts, hsize, hpadding, hbackground] using h.cornerRadius

theorem numbersIn_of_chain? {surface : Surface} {inContainer : Bool} {node : Node} {phrase : Phrase}
    (h : node.NumbersIn (Printed P)) (hphrase : chain? surface inContainer node = some phrase) :
    phrase.NumbersIn P := by
  have hparts : Phrase.AllNumbersIn P (ownParts surface inContainer node
      ++ boxParts surface node.traits node.box) :=
    Phrase.allNumbersIn_append.2
      ⟨allNumbersIn_ownParts h.own, allNumbersIn_boxParts hbuiltIn (h.traits.box hbuiltIn)⟩
  unfold chain? at hphrase
  split at hphrase
  · cases hphrase
  · cases hphrase
    exact numbersIn_cons_word.2
      (numbersIn_flatMap.2 fun part hpart => numbersIn_cons_word.2 (hparts part hpart))

theorem numbersIn_chain {surface : Surface} {inContainer : Bool} {node : Node}
    (h : node.NumbersIn (Printed P)) : (chain surface inContainer node).NumbersIn P := by
  unfold chain
  cases hphrase : chain? surface inContainer node with
  | none => simp
  | some phrase => exact numbersIn_of_chain? hbuiltIn h hphrase

theorem allNumbersIn_chainArgument {surface : Surface} {inContainer : Bool} {node : Node}
    (h : node.NumbersIn (Printed P)) :
    Phrase.AllNumbersIn P (chainArgument surface inContainer node) := by
  simp only [chainArgument, allNumbersIn_partFor, numbersIn_named]
  exact fun phrase hphrase => numbersIn_of_chain? hbuiltIn h hphrase

end

/-! ### Nodes -/

mutual

theorem allNumbersIn_composable (hbuiltIn : ∀ x ∈ builtInNumbers, Printed P x) (surface : Surface)
    (inContainer : Bool) (node : Node) (h : ∀ n ∈ node.nodes, n.NumbersIn (Printed P)) :
    AllNumbersIn P (composable surface inContainer node) := by
  have hself := h node node.mem_nodes_self
  have hchain : (chain surface inContainer node).NumbersIn P := numbersIn_chain hbuiltIn hself
  have hargument : Phrase.AllNumbersIn P (chainArgument surface inContainer node) :=
    allNumbersIn_chainArgument hbuiltIn hself
  have hlayout : ∀ axis, Phrase.AllNumbersIn P
      (containerArguments (node.traits.layout axis) surface) :=
    fun axis => allNumbersIn_containerArguments (hself.traits.gap hbuiltIn axis)
  cases node with
  | view traits children =>
    have hchildren := allNumbersIn_composables hbuiltIn surface children (List.forall_mem_cons.1 h).2
    cases children with
    | nil => simpa [composable] using hchain
    | cons child rest =>
      simpa [composable, hargument, hchildren, Node.traits] using hlayout .vertical
  | stack traits axis children =>
    have hchildren := allNumbersIn_composables hbuiltIn surface children (List.forall_mem_cons.1 h).2
    simpa [composable, hargument, hchildren, Node.traits] using hlayout axis
  | text traits content =>
    have hstyle : Phrase.AllNumbersIn P
        ((traits.style.map fun style => textArguments style surface).getD []) := by
      cases hstyle : traits.style with
      | none => simp
      | some style => exact allNumbersIn_textArguments (hself.traits style hstyle)
    simpa [composable, hstyle] using hargument
  | button traits label variant size =>
    simpa [composable] using numbersIn_button hargument
  | image traits uri resizeMode placeholder =>
    simpa [composable] using allNumbersIn_image hargument
  | spacer traits flex => simpa [composable] using hchain
  | progressBar traits progress indeterminate =>
    have hprogress : Printed P progress := hself.own progress (List.mem_singleton_self progress)
    simpa [composable, numbersIn_progressArgument hprogress] using hargument
  | list traits items renderItem horizontal => simpa [composable] using hargument

theorem allNumbersIn_composables (hbuiltIn : ∀ x ∈ builtInNumbers, Printed P x) (surface : Surface)
    (nodes : List Node) (h : ∀ n ∈ Node.nodesAll nodes, n.NumbersIn (Printed P)) :
    AllNumbersIn P (composables surface nodes) := by
  cases nodes with
  | nil => simp [composables]
  | cons node rest =>
    obtain ⟨hnode, hrest⟩ := List.forall_mem_append.1 h
    rw [composables, Code.allNumbersIn_append]
    exact ⟨allNumbersIn_composable hbuiltIn surface true node hnode,
      allNumbersIn_composables hbuiltIn surface rest hrest⟩

end

/-! ### Files -/

section

variable (hbuiltIn : ∀ x ∈ builtInNumbers, Printed P x)

include hbuiltIn

theorem allNumbersIn_screenFunction {name : String} {tree : Node}
    (h : ∀ n ∈ tree.nodes, n.NumbersIn (Printed P)) :
    AllNumbersIn P (screenFunction name tree) := by
  simpa [screenFunction] using allNumbersIn_composable hbuiltIn .screen false tree h

theorem allNumbersIn_screenFile {package : String} {root : Root}
    (h : ∀ n ∈ root.tree.nodes, n.NumbersIn (Printed P)) :
    AllNumbersIn P (screenFile package root) := by
  simpa [screenFile, allNumbersIn_header] using allNumbersIn_screenFunction hbuiltIn h

theorem allNumbersIn_glanceFile {package : String} {root : Root}
    (h : ∀ n ∈ root.tree.nodes, n.NumbersIn (Printed P)) :
    AllNumbersIn P (glanceFile package root) := by
  simpa [glanceFile, allNumbersIn_header] using
    allNumbersIn_composable hbuiltIn .glance false root.tree h

theorem allNumbersIn_activityFile {package : String} {activity : LiveActivity}
    (h : ∀ node ∈ activity.regions.nodes, ∀ n ∈ node.nodes, n.NumbersIn (Printed P)) :
    AllNumbersIn P (activityFile package activity) := by
  have hclass : ∀ (name : String) (attributes : Bag AttributeType),
      (dataClass name attributes).NumbersIn P := by
    intro name attributes
    cases attributes <;> simp [dataClass]
  have hregion : ∀ (name ending : String) (node : Option Node),
      (∀ n ∈ node, ∀ inner ∈ n.nodes, inner.NumbersIn (Printed P)) →
      AllNumbersIn P (regionFunction name (ending, node)) := by
    intro name ending node hnode
    cases node with
    | none => simp [regionFunction]
    | some node =>
      simpa [regionFunction] using allNumbersIn_screenFunction hbuiltIn (hnode node rfl)
  obtain ⟨hlockScreen, hexpanded, hcompact, hminimal⟩ := ActivityRegions.forall_mem_nodes.1 h
  simpa [activityFile, allNumbersIn_header, hclass, namedRegions] using
    ⟨hregion _ "LockScreen" _ hlockScreen, hregion _ "Expanded" _ hexpanded,
      hregion _ "Compact" _ hcompact, hregion _ "Minimal" _ hminimal⟩

theorem allNumbersIn_rootCode {package : String} {root : Root} (h : root.NumbersIn (Printed P)) :
    AllNumbersIn P (rootCode package root) := by
  unfold rootCode
  split
  · rename_i activity hactivity
    exact allNumbersIn_activityFile hbuiltIn (h.regions hactivity)
  · exact allNumbersIn_glanceFile hbuiltIn h.tree
  · exact allNumbersIn_screenFile hbuiltIn h.tree

end

end Android

/-! ## Targets -/

theorem Target.allNumbersIn_codes (target : Target) (hbuiltIn : ∀ x ∈ builtInNumbers, Printed P x)
    {roots : List Root} (h : ∀ root ∈ roots, root.NumbersIn (Printed P)) :
    ∀ code ∈ target.codes roots, AllNumbersIn P code := by
  cases target with
  | ios => exact Ios.allNumbersIn_codes hbuiltIn h
  | android package =>
    intro code hcode
    obtain ⟨root, hroot, rfl⟩ := List.mem_map.1 hcode
    exact Android.allNumbersIn_rootCode hbuiltIn (h root hroot)

/-- Every number in the code of some roots is supplied by one of them. -/
theorem Target.exists_supplies (target : Target) {roots : List Root} {code : List Code}
    (hcode : code ∈ target.codes roots) :
    ∀ x ∈ numbersOfAll code, ∃ root ∈ roots, ∃ y, root.Supplies y ∧ x = Double.unsigned y := by
  -- Without roots there is no code, so some root can be named for the built-in numbers.
  obtain ⟨first, hfirst⟩ : ∃ root, root ∈ roots := by
    cases roots with
    | nil => cases target <;> cases hcode
    | cons first rest => exact ⟨first, List.mem_cons_self⟩
  have hprinted : ∀ root ∈ roots, ∀ y, root.Supplies y →
      Printed (fun x => ∃ root ∈ roots, ∃ y, root.Supplies y ∧ x = Double.unsigned y) y :=
    fun root hroot y hy => ⟨root, hroot, y, hy, rfl⟩
  exact target.allNumbersIn_codes (fun y hy => hprinted first hfirst y (.builtIn hy))
    (fun root hroot => .of_supplies (hprinted root hroot)) code hcode

theorem isFinite_unit (channel : UInt8) : (Colour.unit channel).isFinite = true := by
  have hall : ∀ n < 256, (Float.ofNat n / 255).isFinite = true := by decide +kernel
  exact hall channel.toNat channel.toNat_lt

/-- Roots that keep all rules are never refused, and every number in their code is finite: it is
built in, or it was checked, or it is the rounding of one that was. It is therefore printed without
any letters, and so are the numbers that texts show and the channels of colours. -/
theorem generated_numbers_finite (target : Target) {roots : List Root}
    (h : ∀ root ∈ roots, root.issues = []) :
    ∃ files, target.generate roots = .ok files ∧
      files.map CodeFile.content = (target.codes roots).map (print target.quoting) ∧
      (∀ code ∈ target.codes roots, ∀ x ∈ numbersOfAll code,
        (∃ root ∈ roots, ∃ y, root.Supplies y ∧ x = Double.unsigned y) ∧ x.isFinite = true ∧
          ∀ c ∈ (Double.numeral x).toList, Json.isNumeric c = true) ∧
      (∀ root ∈ roots, ∀ traits x, Node.text traits (.number x) ∈ root.nodes →
        root.Checks x ∧ x.isFinite = true ∧
          ∀ c ∈ (TextContent.display (.number x)).toList, Json.isNumeric c = true) ∧
      ∀ channel : UInt8, ∀ c ∈ (Double.fixed 3 (Colour.unit channel)).toList,
        Json.isNumeric c = true := by
  have hvalid : ∀ root ∈ roots, root.Valid := fun root hroot =>
    Root.issues_eq_nil.1 (h root hroot)
  refine ⟨target.files roots, target.generate_eq_ok fun root hroot => (hvalid root hroot).version,
    target.map_content_files roots, ?_, ?_, ?_⟩
  · intro code hcode x hx
    obtain ⟨root, hroot, y, hy, rfl⟩ := target.exists_supplies hcode x hx
    have hfinite : (Double.unsigned y).isFinite = true := by
      rw [Double.isFinite_unsigned]
      exact hy.isFinite (hvalid root hroot)
    exact ⟨⟨root, hroot, y, hy, rfl⟩, hfinite, fun c hc =>
      Double.isNumeric_of_mem_numeral hfinite hc⟩
  · intro root hroot traits x hnode
    have hchecks : root.Checks x := .text hnode
    have hfinite := hchecks.isFinite (hvalid root hroot)
    exact ⟨hchecks, hfinite, fun c hc => Double.isNumeric_of_mem_numeral hfinite hc⟩
  · exact fun channel c hc => Double.isNumeric_of_mem_fixed 3 (isFinite_unit channel) hc

/-- A widget that is reloaded after twelve and a half minutes. Its shadow says only how far it is
spread. -/
def tickingWidget : Root where
  version := currentVersion
  rootId := "Ticking"
  tree := .stack
    { style := some
        { layout := some [("gap", .number 8), ("padding", .number (-0.5))]
          shadows := some [("shadowRadius", .number 1e21)] } }
    .vertical [.text {} (.number 0.1), .spacer {} (some 3), .progressBar {} 0.25 none]
  widget := some
    { kind := "Ticking", families := [.systemSmall],
      timeline := some { policy := some (.custom 12.5) } }

theorem generated_numbers_ticking :
    (∀ root ∈ [tickingWidget], root.issues = []) ∧
      ((Target.ios.codes [tickingWidget]).map fun code => (numbersOfAll code).map Float.toBits)
        = [[8, 0.25, 0.2, 1e21, 0, 2, -0.5], [13]].map (List.map Float.toBits) ∧
      (∀ code ∈ Target.ios.codes [tickingWidget], ∀ x ∈ numbersOfAll code, x.isFinite = true) ∧
      Node.text {} (.number 0.1) ∈ tickingWidget.nodes ∧ tickingWidget.Checks 0.1 := by
  have hissues : ∀ root ∈ [tickingWidget], root.issues = [] := by decide +kernel
  have htext : Node.text {} (.number 0.1) ∈ tickingWidget.nodes :=
    Root.mem_nodes_iff.2 (.inl (.tail _ (.head _)))
  obtain ⟨files, -, -, hnumbers, htexts, -⟩ := generated_numbers_finite .ios hissues
  exact ⟨hissues, by decide +kernel, fun code hcode x hx => (hnumbers code hcode x hx).2.1, htext,
    (htexts tickingWidget (List.mem_singleton_self tickingWidget) {} 0.1 htext).1⟩

end Widgetry
