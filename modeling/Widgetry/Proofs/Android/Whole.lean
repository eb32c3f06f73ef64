import Widgetry.Proofs.Code.Whole

/-!
The code for Android is whole, on screens and in widgets, for every package whose name is made of
identifiers and dots.
-/

namespace Widgetry.Android

open Code Code.Phrase

/-! ## Values -/

theorem whole_dp (x : Float) : Phrase.Whole (dp x) := whole_measure x (.literal rfl)

theorem whole_sp (x : Float) : Phrase.Whole (sp x) := whole_measure x (.literal rfl)

theorem whole_float (x : Float) : Phrase.Whole (float x) := whole_measure x (.literal rfl)

theorem whole_named {name : String} {value : Phrase} (hname : Complete name)
    (hvalue : Phrase.Whole value) : Phrase.Whole (named name value) :=
  hvalue.cons_word (hname.append (.literal rfl))

theorem whole_colourLiteral (colour : Colour) : Phrase.Whole (colourLiteral colour) :=
  whole_call_singleton (.literal rfl) (whole_word (.append (.literal rfl) (complete_digits colour)))

theorem whole_colour? {text : String} {phrase : Phrase} (h : colour? text = some phrase) :
    Phrase.Whole phrase := by
  obtain ⟨colour, -, rfl⟩ := Option.map_eq_some_iff.1 h
  exact whole_colourLiteral colour

theorem whole_partFor {α : Type} {value : Option α} {part : α → Phrase}
    (h : ∀ x, value = some x → Phrase.Whole (part x)) :
    ∀ phrase ∈ partFor value part, Phrase.Whole phrase := by
  cases value with
  | none => exact List.forall_mem_nil _
  | some x => exact List.forall_mem_singleton.2 (h x rfl)

/-! ## Actions -/

theorem whole_screenAction (action : Action) : Phrase.Whole (screenAction action) := by
  unfold screenAction
  split
  · split
    · rename_i url _
      refine whole_call_singleton (.literal rfl) (whole_call (.literal rfl) ?_)
      refine List.forall_mem_cons.2 ⟨whole_word (.literal rfl), List.forall_mem_singleton.2 ?_⟩
      exact whole_call_singleton (.literal rfl) (whole_quoted url)
    · exact whole_note (by decide) (by simp [Lexer.isLineEnd])
  · have happ : Phrase.Whole ((action.appId.map quoted).getD (word "context.packageName")) := by
      cases action.appId with
      | none => exact whole_word (.literal rfl)
      | some appId => exact whole_quoted appId
    refine .append (.append (whole_call_singleton (.literal rfl) happ) (whole_word (.literal rfl))) ?_
    exact whole_braced (whole_word (.literal rfl))
  · exact whole_note (by decide) (by simp [Lexer.isLineEnd])
  · exact whole_note (by decide) (by simp [Lexer.isLineEnd])

theorem whole_glanceAction (action : Option Action) : Phrase.Whole (glanceAction action) := by
  unfold glanceAction
  split <;> exact whole_word (.literal rfl)

theorem whole_clickable (surface : Surface) (action : Action) :
    Phrase.Whole (clickable surface action) := by
  cases surface with
  | screen => exact (whole_word (.literal rfl)).append (whole_braced (whole_screenAction action))
  | glance => exact whole_call_singleton (.literal rfl) (whole_glanceAction (some action))

/-! ## Boxes -/

theorem whole_paddingParts (padding : Padding) :
    ∀ part ∈ paddingParts padding, Phrase.Whole part := by
  cases padding with
  | uniform value =>
    exact List.forall_mem_singleton.2 (whole_call_singleton (.literal rfl) (whole_dp value))
  | edges horizontal vertical top bottom left right =>
    have hedge : ∀ edge ∈ [("horizontal", horizontal), ("vertical", vertical), ("top", top),
        ("bottom", bottom), ("start", left), ("end", right)], Complete edge.1 := by
      simp only [List.forall_mem_cons]
      exact ⟨.literal rfl, .literal rfl, .literal rfl, .literal rfl, .literal rfl, .literal rfl,
        List.forall_mem_nil _⟩
    intro part hpart
    obtain ⟨edge, hmem, hsome⟩ := List.mem_filterMap.1 hpart
    obtain ⟨value, -, rfl⟩ := Option.map_eq_some_iff.1 hsome
    exact whole_call_singleton (.literal rfl) (whole_named (hedge edge hmem) (whole_dp value))

theorem whole_boundsPart {name : String} (hname : Complete name) (least greatest : Option Float) :
    ∀ part ∈ boundsPart name least greatest, Phrase.Whole part := by
  have hbounds : ∀ bound ∈ partFor least (fun x => named "min" (dp x))
      ++ partFor greatest (fun x => named "max" (dp x)), Phrase.Whole bound :=
    List.forall_mem_append.2
      ⟨whole_partFor fun x _ => whole_named (.literal rfl) (whole_dp x),
        whole_partFor fun x _ => whole_named (.literal rfl) (whole_dp x)⟩
  unfold boundsPart
  split
  · exact List.forall_mem_nil _
  · exact List.forall_mem_singleton.2 (whole_call hname hbounds)

theorem whole_sizeParts (surface : Surface) (size : Size) :
    ∀ part ∈ sizeParts surface size, Phrase.Whole part := by
  simp only [sizeParts, List.forall_mem_append]
  refine ⟨⟨whole_partFor fun x _ => whole_call_singleton (.literal rfl) (whole_dp x),
    whole_partFor fun x _ => whole_call_singleton (.literal rfl) (whole_dp x)⟩, ?_⟩
  cases surface with
  | screen =>
    exact List.forall_mem_append.2
      ⟨whole_boundsPart (.literal rfl) _ _, whole_boundsPart (.literal rfl) _ _⟩
  | glance => exact List.forall_mem_nil _

theorem whole_corner (radius : Float) : Phrase.Whole (corner radius) :=
  whole_call_singleton (.literal rfl) (whole_dp radius)

theorem whole_shadowPart (cornerRadius : Option Float) (shadow : Shadow) :
    Phrase.Whole (shadowPart cornerRadius shadow) := by
  have hcolour := whole_colourLiteral (shadowColour shadow)
  refine whole_call (.literal rfl) ?_
  simp only [List.forall_mem_cons]
  exact ⟨whole_named (.literal rfl) (whole_dp _), whole_named (.literal rfl) (whole_corner _),
    whole_named (.literal rfl) hcolour, whole_named (.literal rfl) hcolour, List.forall_mem_nil _⟩

theorem whole_borderPart? {border : Border} {part : Phrase} (h : borderPart? border = some part) :
    Phrase.Whole part := by
  obtain ⟨colour, hcolour, rfl⟩ := Option.map_eq_some_iff.1 h
  refine whole_call (.literal rfl) ?_
  simp only [List.forall_mem_cons]
  exact ⟨whole_dp _, whole_colour? hcolour, whole_corner _, List.forall_mem_nil _⟩

theorem whole_semanticsPart? {accessibility : Accessibility} {part : Phrase}
    (h : semanticsPart? accessibility = some part) : Phrase.Whole part := by
  unfold semanticsPart? at h
  split at h
  · cases h
    exact whole_word (.literal rfl)
  · obtain ⟨label, -, rfl⟩ := Option.map_eq_some_iff.1 h
    exact (whole_word (.literal rfl)).append
      (whole_braced (whole_named (.literal rfl) (whole_quoted label)))

theorem whole_screenParts (traits : Traits) (box : Box) :
    ∀ part ∈ screenParts traits box, Phrase.Whole part := by
  simp only [screenParts, List.forall_mem_append]
  refine ⟨⟨⟨⟨⟨?_, ?_⟩, ?_⟩, ?_⟩, ?_⟩, ?_⟩
  · intro part hpart
    obtain ⟨accessibility, -, hsome⟩ := Option.bind_eq_some_iff.1 (Option.mem_toList.1 hpart)
    exact whole_semanticsPart? hsome
  · exact whole_partFor fun z _ => whole_call_singleton (.literal rfl) (whole_float z)
  · exact whole_partFor fun opacity _ => whole_call_singleton (.literal rfl) (whole_float opacity)
  · exact whole_partFor fun shadow _ => whole_shadowPart box.cornerRadius shadow
  · intro part hpart
    obtain ⟨border, -, hsome⟩ := Option.bind_eq_some_iff.1 (Option.mem_toList.1 hpart)
    exact whole_borderPart? hsome
  · exact whole_partFor fun radius _ => whole_call_singleton (.literal rfl) (whole_corner radius)

theorem whole_boxParts (surface : Surface) (traits : Traits) (box : Box) :
    ∀ part ∈ boxParts surface traits box, Phrase.Whole part := by
  simp only [boxParts, List.forall_mem_append]
  refine ⟨⟨⟨⟨?_, ?_⟩, ?_⟩, ?_⟩, ?_⟩
  · cases surface with
    | screen => exact whole_screenParts traits box
    | glance =>
      exact whole_partFor fun radius _ => whole_call_singleton (.literal rfl) (whole_dp radius)
  · refine whole_partFor fun colour h => whole_call_singleton (.literal rfl) ?_
    obtain ⟨text, -, hcolour⟩ := Option.bind_eq_some_iff.1 h
    exact whole_colour? hcolour
  · cases surface with
    | screen =>
      exact whole_partFor fun ratio _ => whole_call_singleton (.literal rfl) (whole_float ratio)
    | glance => exact List.forall_mem_nil _
  · cases box.size with
    | none => exact List.forall_mem_nil _
    | some size => exact whole_sizeParts surface size
  · cases box.padding with
    | none => exact List.forall_mem_nil _
    | some padding => exact whole_paddingParts padding

/-! ## Chains -/

theorem whole_spacerPart (surface : Surface) (inContainer : Bool) (flex : Float) :
    Phrase.Whole (spacerPart surface inContainer flex) := by
  unfold spacerPart
  split
  · cases surface with
    | screen => exact whole_call_singleton (.literal rfl) (whole_float flex)
    | glance => exact whole_word (.literal rfl)
  · exact whole_word (.literal rfl)

theorem whole_ownParts (surface : Surface) (inContainer : Bool) (node : Node) :
    ∀ part ∈ ownParts surface inContainer node, Phrase.Whole part := by
  have haction : ∀ action : Option Action,
      ∀ part ∈ partFor action (clickable surface), Phrase.Whole part := fun _ =>
    whole_partFor fun action _ => whole_clickable surface action
  cases node with
  | spacer traits flex =>
    exact List.forall_mem_append.2
      ⟨whole_partFor fun flex _ => whole_spacerPart surface inContainer flex, haction _⟩
  | button => exact List.forall_mem_nil _
  | view | text | image | stack | progressBar | list => exact haction _

theorem complete_modifier (surface : Surface) : Complete surface.modifier := by
  cases surface <;> exact .literal rfl

theorem whole_chain? {surface : Surface} {inContainer : Bool} {node : Node} {phrase : Phrase}
    (h : chain? surface inContainer node = some phrase) : Phrase.Whole phrase := by
  have hparts : ∀ part ∈ ownParts surface inContainer node
      ++ boxParts surface node.traits node.box, Phrase.Whole part :=
    List.forall_mem_append.2
      ⟨whole_ownParts surface inContainer node, whole_boxParts surface node.traits node.box⟩
  unfold chain? at h
  split at h
  · cases h
  · cases h
    refine Whole.cons_word ?_ (complete_modifier surface)
    generalize ownParts surface inContainer node ++ boxParts surface node.traits node.box = parts
      at hparts
    -- The parts follow one another, each behind a dot.
    induction parts with
    | nil => exact whole_nil
    | cons part rest ih =>
      obtain ⟨hpart, hrest⟩ := List.forall_mem_cons.1 hparts
      exact (hpart.cons_word (.literal rfl)).append (ih hrest)

theorem whole_chain (surface : Surface) (inContainer : Bool) (node : Node) :
    Phrase.Whole (chain surface inContainer node) := by
  rw [chain]
  cases hchain : chain? surface inContainer node with
  | none => exact whole_word (complete_modifier surface)
  | some phrase => exact whole_chain? hchain

theorem whole_chainArgument (surface : Surface) (inContainer : Bool) (node : Node) :
    ∀ argument ∈ chainArgument surface inContainer node, Phrase.Whole argument :=
  whole_partFor fun _ h => whole_named (.literal rfl) (whole_chain? h)

/-! ## Containers -/

theorem whole_containerArguments (layout : ContainerLayout) (surface : Surface) :
    ∀ argument ∈ containerArguments layout surface, Phrase.Whole argument := by
  have hspread : ∀ arrangement, Complete arrangement →
      Phrase.Whole (spread layout arrangement) := by
    intro arrangement h
    unfold spread
    split
    · exact whole_call_singleton (.literal rfl) (whole_dp layout.gap)
    · exact whole_word h
  have hcolumn : Complete (columnArrangement layout.main) := by
    cases layout.main <;> exact .literal rfl
  have hrow : Complete (rowArrangement layout.main) := by
    cases layout.main <;> exact .literal rfl
  have hhorizontal : Complete (horizontalAlignment layout.cross surface) := by
    cases layout.cross <;> cases surface <;> exact .literal rfl
  have hvertical : Complete (verticalAlignment layout.cross surface) := by
    cases layout.cross <;> cases surface <;> exact .literal rfl
  have hmain : ∀ axis, Complete (mainAlignment axis layout.main) := by
    intro axis
    cases axis <;> cases layout.main <;> exact .literal rfl
  have hpair : ∀ {name other : String} {first second : Phrase}, Complete name → Complete other →
      Phrase.Whole first → Phrase.Whole second →
      ∀ argument ∈ [named name first, named other second], Phrase.Whole argument :=
    fun hname hother hfirst hsecond => List.forall_mem_cons.2
      ⟨whole_named hname hfirst, List.forall_mem_singleton.2 (whole_named hother hsecond)⟩
  cases surface with
  | screen =>
    rw [containerArguments]
    cases layout.axis with
    | vertical => exact hpair (.literal rfl) (.literal rfl) (hspread _ hcolumn) (whole_word hhorizontal)
    | horizontal => exact hpair (.literal rfl) (.literal rfl) (hspread _ hrow) (whole_word hvertical)
  | glance =>
    rw [containerArguments]
    cases layout.axis with
    | vertical =>
      exact hpair (.literal rfl) (.literal rfl) (whole_word (hmain _)) (whole_word hhorizontal)
    | horizontal =>
      exact hpair (.literal rfl) (.literal rfl) (whole_word (hmain _)) (whole_word hvertical)

/-! ## Text -/

theorem complete_screenWeight? (text weight : String) (h : screenWeight? text = some weight) :
    Complete weight := by
  unfold screenWeight? at h
  split at h <;> cases h <;> exact .literal rfl

theorem complete_glanceWeight? (text weight : String) (h : glanceWeight? text = some weight) :
    Complete weight := by
  unfold glanceWeight? at h
  split at h <;> cases h <;> exact .literal rfl

theorem complete_textAlign? (text align : String) (h : textAlign? text = some align) :
    Complete align := by
  unfold textAlign? at h
  split at h <;> cases h <;> exact .literal rfl

theorem whole_textColour? {style : Style} {phrase : Phrase} (h : textColour? style = some phrase) :
    Phrase.Whole phrase := by
  obtain ⟨text, -, hcolour⟩ := Option.bind_eq_some_iff.1 h
  exact whole_colour? hcolour

theorem whole_textArguments (style : Style) (surface : Surface) :
    ∀ argument ∈ textArguments style surface, Phrase.Whole argument := by
  have hsize : ∀ argument ∈ fontSizePart style, Phrase.Whole argument :=
    whole_partFor fun size _ => whole_named (.literal rfl) (whole_sp size)
  have hweight : ∀ weight?, (∀ text weight, weight? text = some weight → Complete weight) →
      ∀ argument ∈ weightPart style weight?, Phrase.Whole argument := fun _ complete =>
    whole_partFor fun _ h =>
      whole_named (.literal rfl) (whole_word (complete_of_lookup h complete))
  have halign : ∀ argument ∈ alignPart style, Phrase.Whole argument :=
    whole_partFor fun _ h =>
      whole_named (.literal rfl) (whole_word (complete_of_lookup h complete_textAlign?))
  have hlines : ∀ argument ∈ maxLinesPart style, Phrase.Whole argument :=
    whole_partFor fun lines _ => whole_named (.literal rfl) (whole_measure lines .empty)
  cases surface with
  | screen =>
    simp only [textArguments, List.forall_mem_append]
    refine ⟨⟨⟨⟨⟨⟨?_, hsize⟩, hweight _ complete_screenWeight?⟩, ?_⟩, ?_⟩, hlines⟩, halign⟩
    · exact whole_partFor fun _ h => whole_named (.literal rfl) (whole_textColour? h)
    · split
      · exact List.forall_mem_singleton.2 (whole_named (.literal rfl) (whole_word (.literal rfl)))
      · exact List.forall_mem_nil _
    · exact whole_partFor fun spacing _ => whole_named (.literal rfl) (whole_sp spacing)
  | glance =>
    have hcolour : ∀ argument ∈ partFor (textColour? style) (fun colour =>
        named "color" (call "ColorProvider" [colour])), Phrase.Whole argument :=
      whole_partFor fun _ h =>
        whole_named (.literal rfl) (whole_call_singleton (.literal rfl) (whole_textColour? h))
    have hstyle : ∀ argument ∈ partFor (textColour? style) (fun colour =>
        named "color" (call "ColorProvider" [colour])) ++ fontSizePart style
          ++ weightPart style glanceWeight? ++ alignPart style, Phrase.Whole argument := by
      simp only [List.forall_mem_append]
      exact ⟨⟨⟨hcolour, hsize⟩, hweight _ complete_glanceWeight?⟩, halign⟩
    rw [textArguments, List.forall_mem_append]
    refine ⟨?_, hlines⟩
    split
    · exact List.forall_mem_nil _
    · exact List.forall_mem_singleton.2
        (whole_named (.literal rfl) (whole_call (.literal rfl) hstyle))

/-! ## Leaves -/

theorem whole_description (traits : Traits) : Phrase.Whole (description traits) := by
  rw [description]
  cases traits.accessibility.bind Accessibility.label with
  | none => exact whole_word (.literal rfl)
  | some label => exact whole_quoted label

section Leaves

variable {modifier : List Phrase} (hmodifier : ∀ argument ∈ modifier, Phrase.Whole argument)

include hmodifier

theorem whole_button (surface : Surface) (traits : Traits) (label : String)
    (variant : Option ButtonVariant) :
    Code.Whole (button surface traits label variant modifier) := by
  cases surface with
  | screen =>
    have htap : Phrase.Whole ((traits.action.map screenAction).getD []) := by
      cases traits.action with
      | none => exact whole_nil
      | some action => exact whole_screenAction action
    have hname : Complete (buttonName variant) := by
      rcases variant with _ | (_ | _ | _) <;> exact .literal rfl
    refine .append (.append (whole_call hname ?_) (whole_word (.literal rfl))) ?_
    · exact List.forall_mem_cons.2 ⟨whole_named (.literal rfl) (whole_braced htap), hmodifier⟩
    · exact whole_braced (whole_call_singleton (.literal rfl) (whole_quoted label))
  | glance =>
    refine whole_call (.literal rfl) ?_
    simp only [List.forall_mem_cons]
    exact ⟨whole_named (.literal rfl) (whole_quoted label),
      whole_named (.literal rfl) (whole_glanceAction traits.action), hmodifier⟩

theorem whole_image (surface : Surface) (traits : Traits) (uri : String)
    (resizeMode : Option ResizeMode) :
    ∀ part ∈ image surface traits uri resizeMode modifier, Code.Whole part := by
  have hdescription := whole_named (.literal rfl : Complete "contentDescription")
    (whole_description traits)
  cases surface with
  | screen =>
    refine List.forall_mem_singleton.2 (whole_call (.literal rfl) ?_)
    simp only [List.forall_mem_cons, List.forall_mem_append]
    refine ⟨whole_named (.literal rfl) (whole_quoted uri), hdescription, hmodifier,
      whole_partFor fun mode _ => whole_named (.literal rfl) (whole_word ?_)⟩
    cases mode <;> exact .literal rfl
  | glance =>
    refine List.forall_mem_cons.2 ⟨trivial, List.forall_mem_singleton.2 ?_⟩
    refine whole_call (.literal rfl) ?_
    simp only [List.forall_mem_cons]
    exact ⟨whole_named (.literal rfl) (whole_word (.literal rfl)), hdescription, hmodifier⟩

end Leaves

theorem whole_progressArgument (surface : Surface) (progress : Float) :
    Phrase.Whole (progressArgument surface progress) := by
  refine whole_named (.literal rfl) ?_
  cases surface with
  | screen => exact whole_braced (whole_float progress)
  | glance => exact whole_float progress

/-! ## Nodes -/

theorem complete_lazyName (surface : Surface) (horizontal : Option Bool) :
    Complete (lazyName surface horizontal) := by
  unfold lazyName
  split <;> exact .literal rfl

mutual

theorem whole_composable (surface : Surface) (inContainer : Bool) :
    (node : Node) → ∀ part ∈ composable surface inContainer node, Code.Whole part
  | .view traits [] => by
    have hchain := whole_named (.literal rfl : Complete "modifier")
      (whole_chain surface inContainer (.view traits []))
    rw [composable, List.forall_mem_singleton]
    exact (whole_call_singleton (.literal rfl) hchain).append (whole_word (.literal rfl))
  | .view traits (child :: rest) => by
    rw [composable, List.forall_mem_singleton]
    · exact whole_braces (whole_call (.literal rfl) (List.forall_mem_append.2
        ⟨whole_chainArgument _ _ _, whole_containerArguments _ _⟩))
        (whole_composables surface (child :: rest))
    · exact List.cons_ne_nil child rest
  | .stack traits axis children => by
    have hname : Complete (containerName axis) := by
      cases axis <;> exact .literal rfl
    rw [composable, List.forall_mem_singleton]
    exact whole_braces (whole_call hname (List.forall_mem_append.2
      ⟨whole_chainArgument _ _ _, whole_containerArguments _ _⟩))
      (whole_composables surface children)
  | .text traits content => by
    have hstyle : ∀ argument ∈ (traits.style.map fun style => textArguments style surface).getD [],
        Phrase.Whole argument := by
      cases traits.style with
      | none => exact List.forall_mem_nil _
      | some style => exact whole_textArguments style surface
    rw [composable, List.forall_mem_singleton]
    exact whole_call (.literal rfl) (List.forall_mem_cons.2
      ⟨whole_named (.literal rfl) (whole_quoted _),
        List.forall_mem_append.2 ⟨whole_chainArgument _ _ _, hstyle⟩⟩)
  | .button traits label variant size => by
    rw [composable, List.forall_mem_singleton]
    exact whole_button (whole_chainArgument _ _ _) surface traits label variant
  | .image traits uri resizeMode _ => by
    rw [composable]
    exact whole_image (whole_chainArgument _ _ _) surface traits uri resizeMode
  | .spacer traits flex => by
    rw [composable, List.forall_mem_singleton]
    exact whole_call_singleton (.literal rfl) (whole_named (.literal rfl) (whole_chain _ _ _))
  | .progressBar traits progress indeterminate => by
    rw [composable, List.forall_mem_singleton]
    refine whole_call (.literal rfl) (List.forall_mem_append.2 ⟨?_, whole_chainArgument _ _ _⟩)
    split
    · exact List.forall_mem_nil _
    · exact List.forall_mem_singleton.2 (whole_progressArgument surface progress)
  | .list traits items renderItem horizontal => by
    rw [composable, List.forall_mem_singleton]
    exact whole_braces (whole_call (complete_lazyName surface horizontal)
      (whole_chainArgument _ _ _)) (List.forall_mem_singleton.2 trivial)

theorem whole_composables (surface : Surface) :
    (nodes : List Node) → ∀ part ∈ composables surface nodes, Code.Whole part
  | [] => List.forall_mem_nil _
  | node :: rest => by
    rw [composables, List.forall_mem_append]
    exact ⟨whole_composable surface true node, whole_composables surface rest⟩

end

/-! ## Files -/

/-- What the name of a package is made of. -/
def isPackageChar (c : Char) : Bool := isIdentifierChar c || c = '.'

theorem whole_screenFunction {name : String} (hname : Complete name) (tree : Node) :
    ∀ part ∈ screenFunction name tree, Code.Whole part := by
  have hhead : Complete s!"fun {name}()" :=
    (Complete.append (.literal rfl) hname).append (.literal rfl)
  refine List.forall_mem_cons.2 ⟨whole_say (.literal rfl), List.forall_mem_singleton.2 ?_⟩
  refine whole_enclose hhead (List.forall_mem_append.2 ⟨?_, whole_composable .screen false tree⟩)
  split
  · exact List.forall_mem_singleton.2 (whole_say (.literal rfl))
  · exact List.forall_mem_nil _

theorem complete_screenImports : ∀ name ∈ screenImports, Complete name := by
  unfold screenImports
  repeat refine List.forall_mem_cons.2 ⟨.literal rfl, ?_⟩
  exact List.forall_mem_nil _

theorem complete_glanceImports : ∀ name ∈ glanceImports, Complete name := by
  unfold glanceImports
  repeat refine List.forall_mem_cons.2 ⟨.literal rfl, ?_⟩
  exact List.forall_mem_nil _

theorem whole_dataClass {name : String} (hname : Complete name) (attributes : Bag AttributeType) :
    Code.Whole (dataClass name attributes) := by
  have htype : ∀ type, Complete (attributeType type) := by
    intro type
    cases type <;> exact .literal rfl
  unfold dataClass
  split
  · exact whole_say (.append (.literal rfl) hname)
  · refine ⟨whole_word (.append (.literal rfl) hname), .empty, (allWhole_iff _).2 ?_, trivial⟩
    rw [List.forall_mem_map]
    intro field _
    exact whole_say ((((Complete.append (.literal rfl) (complete_identifier _)).append
      (.literal rfl)).append (htype field.2)).append (.literal rfl))

theorem whole_regionFunction {name : String} (hname : Complete name) {region : String × Option Node}
    (hending : Complete region.1) : ∀ part ∈ regionFunction name region, Code.Whole part := by
  obtain ⟨ending, _ | node⟩ := region
  · exact List.forall_mem_nil _
  · exact List.forall_mem_cons.2 ⟨trivial, whole_screenFunction (hname.append hending) node⟩

section Package

variable {package : String} (hpackage : ∀ c ∈ package.toList, isPackageChar c = true)

include hpackage

theorem whole_header {imports : List String} (himports : ∀ name ∈ imports, Complete name) :
    ∀ part ∈ header package imports, Code.Whole part := by
  have hname : Complete package := .of_kind isPackageChar (by decide) hpackage
  simp only [header, List.forall_mem_cons, List.forall_mem_map]
  exact ⟨whole_say (.append (.literal rfl) hname), trivial,
    fun name hmem => whole_say (.append (.literal rfl) (himports name hmem))⟩

theorem whole_screenFile (root : Root) : ∀ part ∈ screenFile package root, Code.Whole part := by
  rw [screenFile, List.forall_mem_append, List.forall_mem_cons]
  exact ⟨whole_header hpackage complete_screenImports, trivial,
    whole_screenFunction (complete_identifier root.rootId) root.tree⟩

theorem whole_glanceFile (root : Root) : ∀ part ∈ glanceFile package root, Code.Whole part := by
  have hname := complete_identifier root.rootId
  have haround : ∀ {before after : String}, Complete before → Complete after →
      Complete (before ++ identifier root.rootId ++ after) := fun hbefore hafter =>
    (hbefore.append hname).append hafter
  simp only [glanceFile, List.forall_mem_append, List.forall_mem_cons]
  refine ⟨whole_header hpackage complete_glanceImports, trivial, ?_, trivial, ?_, trivial,
    whole_say (.literal rfl), ?_, List.forall_mem_nil _⟩
  · refine whole_enclose (haround (.literal rfl) (.literal rfl)) (List.forall_mem_singleton.2 ?_)
    exact whole_say (haround (.literal rfl) (.literal rfl))
  · refine whole_enclose (haround (.literal rfl) (.literal rfl)) (List.forall_mem_singleton.2 ?_)
    refine whole_enclose (.literal rfl) (List.forall_mem_singleton.2 ?_)
    refine whole_enclose (.literal rfl) (List.forall_mem_singleton.2 ?_)
    exact whole_say (hname.append (.literal rfl))
  · exact whole_enclose (haround (.literal rfl) (.literal rfl))
      (whole_composable .glance false root.tree)

theorem whole_activityFile (activity : LiveActivity) :
    ∀ part ∈ activityFile package activity, Code.Whole part := by
  have hname := complete_identifier activity.activityType
  have himports : ∀ name ∈ activityImports, Complete name :=
    List.forall_mem_append.2 ⟨complete_screenImports, List.forall_mem_singleton.2 (.literal rfl)⟩
  have hendings : ∀ region ∈ namedRegions activity.regions, Complete region.1 := by
    simp only [namedRegions, List.forall_mem_cons]
    exact ⟨.literal rfl, .literal rfl, .literal rfl, .literal rfl, List.forall_mem_nil _⟩
  simp only [activityFile, List.forall_mem_append, List.forall_mem_cons, List.forall_mem_flatMap]
  exact ⟨⟨whole_header hpackage himports, trivial, whole_dataClass (hname.append (.literal rfl)) _,
      trivial, whole_dataClass (hname.append (.literal rfl)) _, List.forall_mem_nil _⟩,
    fun region hregion => whole_regionFunction hname (hendings region hregion)⟩

end Package

end Widgetry.Android
