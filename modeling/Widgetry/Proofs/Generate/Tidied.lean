import Widgetry.Generate
import Widgetry.Proofs.Root.Tidy

/-!
What generated code does not show. The code of a tree depends neither on the signs of its zeros, nor
on the order of the parameters of its actions, nor on what its bindings fall back to.
-/

namespace Widgetry

/-! ## Signs of zeros -/

namespace Double

theorem eq_zero_or_eq_neg_zero {x : Float} (h : (x == 0) = true) : x = 0 ∨ x = -0.0 := by
  obtain ⟨s, hs⟩ := (beq_zero_iff x).1 h
  cases s with
  | positive =>
    refine .inl (eq_of_ofFloat_eq (m := 0) (e := leastExponent) ?_ rfl)
    rw [ofFloat_eq_ofUnpacked, hs]
    rfl
  | negative =>
    refine .inr (eq_of_ofFloat_eq (m := 0) (e := leastExponent) ?_ rfl)
    rw [ofFloat_eq_ofUnpacked, hs]
    rfl

/-- What does not tell the two zeros apart does not see that a sign is dropped. -/
theorem map_unsigned {α : Type} (f : Float → α) (h : f (-0.0) = f 0) (x : Float) :
    f (unsigned x) = f x := by
  by_cases hzero : (x == 0) = true
  · rw [show unsigned x = 0 from if_pos hzero]
    rcases eq_zero_or_eq_neg_zero hzero with rfl | rfl
    · rfl
    · exact h.symm
  · rw [show unsigned x = x from if_neg hzero]

@[simp] theorem numeral_unsigned (x : Float) : numeral (unsigned x) = numeral x :=
  map_unsigned numeral (by decide +kernel) x

theorem unsigned_ne_zero (x : Float) : (unsigned x != 0) = (x != 0) :=
  map_unsigned (· != 0) (by decide +kernel) x

theorem unsigned_pos (x : Float) : decide (unsigned x > 0) = decide (x > 0) :=
  map_unsigned (fun x => decide (x > 0)) (by decide +kernel) x

theorem unsigned_of_ne_zero {x : Float} (h : (x != 0) = true) : unsigned x = x := by
  refine if_neg ?_
  rw [bne, Bool.not_eq_true'] at h
  simp [h]

theorem unsigned_zero : unsigned 0 = 0 := if_pos (by decide +kernel)

/-- Values of which neither zero is one. -/
theorem filter_map_unsigned {p : Float → Bool} (hzero : p 0 = false) (hneg : p (-0.0) = false)
    (value : Option Float) : (value.map unsigned).filter p = value.filter p := by
  cases value with
  | none => rfl
  | some x =>
    by_cases h : (x == 0) = true
    · rw [Option.map_some, show unsigned x = 0 from if_pos h]
      rcases eq_zero_or_eq_neg_zero h with rfl | rfl
      · rfl
      · simp [Option.filter, hzero, hneg]
    · rw [Option.map_some, show unsigned x = x from if_neg h]

theorem filter_ne_zero_map_unsigned (value : Option Float) :
    (value.map unsigned).filter (· != 0) = value.filter (· != 0) :=
  filter_map_unsigned (by decide +kernel) (by decide +kernel) value

theorem getD_map_unsigned (value : Option Float) {default : Float}
    (h : unsigned default = default) :
    (value.map unsigned).getD default = unsigned (value.getD default) := by
  cases value with
  | none => exact h.symm
  | some x => rfl

end Double

/-! ## Styles -/

namespace Style

theorem get?_tidied (style : Style) (key : String) :
    style.tidied.get? key = (style.get? key).map StyleValue.tidied := by
  simp only [get?, bucket_tidied]
  cases Bucket.ofKey? key with
  | none => rfl
  | some bucket =>
    simp only [Option.bind_some]
    cases style.bucket bucket with
    | none => rfl
    | some entries => exact Bag.find?_map StyleValue.tidied key entries

@[simp] theorem number?_tidied (style : Style) (key : String) :
    style.tidied.number? key = (style.number? key).map Double.unsigned := by
  rw [number?, number?, get?_tidied]
  cases style.get? key with
  | none => rfl
  | some value => cases value <;> rfl

@[simp] theorem text?_tidied (style : Style) (key : String) :
    style.tidied.text? key = style.text? key := by
  rw [text?, text?, get?_tidied]
  cases style.get? key with
  | none => rfl
  | some value => cases value <;> rfl

@[simp] theorem nonzero?_tidied (style : Style) (key : String) :
    style.tidied.nonzero? key = style.nonzero? key := by
  rw [nonzero?, nonzero?, number?_tidied, Double.filter_ne_zero_map_unsigned]

end Style

def Shadow.tidied (shadow : Shadow) : Shadow where
  color := shadow.color
  opacity := Double.unsigned shadow.opacity
  radius := Double.unsigned shadow.radius
  offsetX := Double.unsigned shadow.offsetX
  offsetY := Double.unsigned shadow.offsetY

/-- A box of which only the zeros that count have lost their signs. -/
def Box.tidied (box : Box) : Box :=
  { box with
    shadow := box.shadow.map Shadow.tidied
    opacity := box.opacity.map Double.unsigned
    zIndex := box.zIndex.map Double.unsigned }

namespace Style

theorem shadow?_tidied (style : Style) : style.tidied.shadow? = style.shadow?.map Shadow.tidied := by
  have hisSome : ∀ key, (style.tidied.get? key).isSome = (style.get? key).isSome := by
    simp [get?_tidied]
  simp only [shadow?, hisSome]
  split
  · simp only [text?_tidied, number?_tidied, Option.map_some, Shadow.tidied,
      Double.getD_map_unsigned _ Double.unsigned_zero,
      Double.getD_map_unsigned _ (Double.unsigned_of_ne_zero (x := 0.2) (by decide +kernel)),
      Double.getD_map_unsigned _ (Double.unsigned_of_ne_zero (x := 4) (by decide +kernel)),
      Double.getD_map_unsigned _ (Double.unsigned_of_ne_zero (x := 2) (by decide +kernel))]
  · rfl

theorem box_tidied (style : Style) : style.tidied.box = style.box.tidied := by
  simp only [box, Box.tidied, padding?, size?, border?, nonzero?_tidied, text?_tidied,
    number?_tidied, shadow?_tidied]

end Style

theorem Traits.box_tidied (traits : Traits) : traits.tidied.box = traits.box.tidied := by
  cases h : traits.style with
  | none => simp [box, Traits.tidied, h, Box.tidied]
  | some style => simp [box, Traits.tidied, h, Style.box_tidied]

/-! ## Layouts -/

/-- A layout whose gap has lost its sign when it is zero. -/
def ContainerLayout.tidied (layout : ContainerLayout) : ContainerLayout :=
  { layout with gap := Double.unsigned layout.gap }

theorem Traits.bind_text?_tidied (traits : Traits) (key : String) :
    (traits.tidied.style.bind fun style => style.text? key)
      = traits.style.bind fun style => style.text? key := by
  cases h : traits.style <;> simp [Traits.tidied, h]

theorem Traits.layout_tidied (traits : Traits) (axis : Axis) :
    traits.tidied.layout axis = (traits.layout axis).tidied := by
  cases h : traits.style with
  | none => simp [layout, Traits.tidied, ContainerLayout.tidied, h, Double.unsigned_zero]
  | some style =>
    simp [layout, Traits.tidied, ContainerLayout.tidied, h, CrossAlign.ofStyle, MainArrange.ofStyle,
      Double.getD_map_unsigned _ Double.unsigned_zero]

theorem TextContent.display_tidied (content : TextContent) :
    content.tidied.display = content.display := by
  cases content with
  | number x => exact Double.numeral_unsigned x
  | string text => rfl

theorem Style.positive_tidied (style : Style) (key : String) :
    ((style.tidied.number? key).filter fun x => x > 0) = (style.number? key).filter fun x => x > 0 := by
  rw [number?_tidied, Double.filter_map_unsigned (by decide +kernel) (by decide +kernel)]

/-! ## Views -/

theorem Code.Phrase.measure_unsigned (x : Float) (unit : String) :
    measure (Double.unsigned x) unit = measure x unit := by
  rw [measure, measure, Double.unsigned_unsigned]

namespace Ios

@[simp] theorem number_unsigned (x : Float) : number (Double.unsigned x) = number x := by
  rw [number, number, Code.Phrase.measure_unsigned]

theorem lineFor_map {α β : Type} (f : α → β) (value : Option α) (line : β → Code) :
    lineFor (value.map f) line = lineFor value fun a => line (f a) := by
  cases value <;> rfl

theorem textModifiers_tidied (style : Style) : textModifiers style.tidied = textModifiers style := by
  rw [textModifiers, Style.positive_tidied]
  simp only [Style.number?_tidied, Style.text?_tidied, Style.nonzero?_tidied, lineFor_map,
    number_unsigned]
  rfl

theorem shadowModifier_tidied (shadow : Shadow) :
    shadowModifier shadow.tidied = shadowModifier shadow := by
  simp only [shadowModifier, Shadow.tidied, number_unsigned]

theorem boxModifiers_tidied (box : Box) : boxModifiers box.tidied = boxModifiers box := by
  simp only [boxModifiers, Box.tidied, lineFor_map, number_unsigned, shadowModifier_tidied]

theorem traitModifiers_tidied (traits : Traits) :
    traitModifiers traits.tidied = traitModifiers traits := by
  rw [traitModifiers, Traits.box_tidied, boxModifiers_tidied]
  rfl

theorem containerHead_tidied (layout : ContainerLayout) :
    containerHead layout.tidied = containerHead layout := by
  simp only [containerHead, ContainerLayout.tidied, number_unsigned]

theorem linked_tidied (traits : Traits) (code : List Code) :
    linked traits.tidied code = linked traits code := by
  have haction : traits.tidied.action.bind Action.deeplink? = traits.action.bind Action.deeplink? := by
    cases h : traits.action with
    | none => simp [Traits.tidied, h]
    | some action =>
      simp only [Traits.tidied, h]
      rfl
  rw [linked, haction, linked]

mutual

theorem view_tidied (node : Node) : view node.tidied = view node := by
  cases node with
  | view traits children =>
    cases children with
    | nil => simp only [Node.tidied, Node.tidiedAll, view, traitModifiers_tidied]
    | cons child rest =>
      have hrest := views_tidiedAll (child :: rest)
      simp only [Node.tidiedAll] at hrest
      simp only [Node.tidied, Node.tidiedAll, view, traitModifiers_tidied, Traits.layout_tidied,
        containerHead_tidied, hrest]
  | stack traits axis children =>
    simp only [Node.tidied, view, linked_tidied, traitModifiers_tidied, Traits.layout_tidied,
      containerHead_tidied, views_tidiedAll children]
  | text traits content =>
    have hstyle : traits.tidied.style.map textModifiers = traits.style.map textModifiers := by
      simp [Traits.tidied, Function.comp_def, textModifiers_tidied]
    simp only [Node.tidied, view, traitModifiers_tidied, TextContent.display_tidied, hstyle]
  | spacer traits flex =>
    have hflex : (flex.map Double.unsigned).any (· != 0) = flex.any (· != 0) := by
      cases flex with
      | none => rfl
      | some x => exact Double.unsigned_ne_zero x
    simp only [Node.tidied, view, traitModifiers_tidied, hflex]
  | progressBar traits progress indeterminate =>
    simp only [Node.tidied, view, traitModifiers_tidied, number_unsigned]
  | _ => simp only [Node.tidied, view, traitModifiers_tidied]

theorem views_tidiedAll (children : List Node) : views (Node.tidiedAll children) = views children := by
  cases children with
  | nil => rfl
  | cons child rest =>
    simp only [Node.tidiedAll, views, view_tidied child, views_tidiedAll rest]

end

end Ios

/-! ## Composables -/

namespace Android

@[simp] theorem dp_unsigned (x : Float) : dp (Double.unsigned x) = dp x := by
  rw [dp, dp, Code.Phrase.measure_unsigned]

@[simp] theorem sp_unsigned (x : Float) : sp (Double.unsigned x) = sp x := by
  rw [sp, sp, Code.Phrase.measure_unsigned]

@[simp] theorem float_unsigned (x : Float) : float (Double.unsigned x) = float x := by
  rw [float, float, Code.Phrase.measure_unsigned]

theorem partFor_map {α β : Type} (f : α → β) (value : Option α) (part : β → Code.Phrase) :
    partFor (value.map f) part = partFor value fun a => part (f a) := by
  cases value <;> rfl

/-- A shadow that cannot be seen has no alpha, whichever zero its opacity is. -/
theorem alpha_unsigned (alpha : UInt8) (x : Float) :
    (Double.ofFloat (Float.ofNat alpha.toNat * clampUnit (Double.unsigned x))).round.truncate.toNat
      = (Double.ofFloat (Float.ofNat alpha.toNat * clampUnit x)).round.truncate.toNat := by
  refine Double.map_unsigned (fun x =>
    (Double.ofFloat (Float.ofNat alpha.toNat * clampUnit x)).round.truncate.toNat) ?_ x
  have h : ∀ n < 256, (Double.ofFloat (Float.ofNat n * clampUnit (-0.0))).round.truncate.toNat
      = (Double.ofFloat (Float.ofNat n * clampUnit 0)).round.truncate.toNat := by decide +kernel
  exact h alpha.toNat alpha.toNat_lt

theorem shadowPart_tidied (cornerRadius : Option Float) (shadow : Shadow) :
    shadowPart cornerRadius shadow.tidied = shadowPart cornerRadius shadow := by
  simp only [shadowPart, shadowColour, Shadow.tidied, dp_unsigned, alpha_unsigned]

theorem boxParts_tidied (surface : Surface) (traits : Traits) (box : Box) :
    boxParts surface traits.tidied box.tidied = boxParts surface traits box := by
  cases surface with
  | screen =>
    simp only [boxParts, screenParts, Box.tidied, partFor_map, float_unsigned, shadowPart_tidied]
    rfl
  | glance => rfl

theorem clickable_tidied (surface : Surface) (action : Action) :
    clickable surface action.tidied = clickable surface action := rfl

theorem actionPart_tidied (surface : Surface) (traits : Traits) :
    partFor traits.tidied.action (clickable surface) = partFor traits.action (clickable surface) := by
  simp only [Traits.tidied, partFor_map, clickable_tidied]

theorem ownParts_tidied (surface : Surface) (inContainer : Bool) (node : Node) :
    ownParts surface inContainer node.tidied = ownParts surface inContainer node := by
  cases node with
  | spacer traits flex =>
    simp only [Node.tidied, ownParts, actionPart_tidied, Double.filter_ne_zero_map_unsigned]
  | button traits label variant size => rfl
  | _ => exact actionPart_tidied surface _

theorem chain?_tidied (surface : Surface) (inContainer : Bool) (node : Node) :
    chain? surface inContainer node.tidied = chain? surface inContainer node := by
  rw [chain?, ownParts_tidied, Node.box, Node.traits_tidied, Traits.box_tidied, boxParts_tidied]
  rfl

theorem chain_tidied (surface : Surface) (inContainer : Bool) (node : Node) :
    chain surface inContainer node.tidied = chain surface inContainer node := by
  rw [chain, chain?_tidied, chain]

theorem chainArgument_tidied (surface : Surface) (inContainer : Bool) (node : Node) :
    chainArgument surface inContainer node.tidied = chainArgument surface inContainer node := by
  rw [chainArgument, chain?_tidied, chainArgument]

theorem containerArguments_tidied (layout : ContainerLayout) (surface : Surface) :
    containerArguments layout.tidied surface = containerArguments layout surface := by
  have hspread : ∀ arrangement, spread layout.tidied arrangement = spread layout arrangement := by
    intro arrangement
    have hpos : layout.tidied.gap > 0 ↔ layout.gap > 0 :=
      decide_eq_decide.1 (Double.unsigned_pos layout.gap)
    simp only [spread, hpos]
    simp only [ContainerLayout.tidied, dp_unsigned]
  simp only [containerArguments, hspread]
  rfl

theorem textArguments_tidied (style : Style) (surface : Surface) :
    textArguments style.tidied surface = textArguments style surface := by
  have hsize : fontSizePart style.tidied = fontSizePart style := by
    simp only [fontSizePart, Style.number?_tidied, partFor_map, sp_unsigned]
  have hlines : maxLinesPart style.tidied = maxLinesPart style := by
    rw [maxLinesPart, Style.positive_tidied, maxLinesPart]
  cases surface <;>
    simp only [textArguments, hsize, hlines, textColour?, weightPart, alignPart,
      Style.text?_tidied, Style.nonzero?_tidied]

theorem button_tidied (surface : Surface) (traits : Traits) (label : String)
    (variant : Option ButtonVariant) (modifier : List Code.Phrase) :
    button surface traits.tidied label variant modifier
      = button surface traits label variant modifier := by
  have hscreen : traits.tidied.action.map screenAction = traits.action.map screenAction := by
    simp only [Traits.tidied, Option.map_map]
    rfl
  have hglance : glanceAction traits.tidied.action = glanceAction traits.action := by
    simp only [glanceAction, Traits.tidied, Option.map_map]
    rfl
  simp only [button, hscreen, hglance]

mutual

theorem composable_tidied (surface : Surface) (inContainer : Bool) (node : Node) :
    composable surface inContainer node.tidied = composable surface inContainer node := by
  have hchain := chain_tidied surface inContainer node
  have hargument := chainArgument_tidied surface inContainer node
  cases node with
  | view traits children =>
    cases children with
    | nil =>
      simp only [Node.tidied, Node.tidiedAll] at hchain
      simp only [Node.tidied, Node.tidiedAll, composable, hchain]
    | cons child rest =>
      have hrest := composables_tidiedAll surface (child :: rest)
      simp only [Node.tidied, Node.tidiedAll] at hrest hargument
      simp only [Node.tidied, Node.tidiedAll, composable, hargument, hrest, Traits.layout_tidied,
        containerArguments_tidied]
  | stack traits axis children =>
    simp only [Node.tidied] at hargument
    simp only [Node.tidied, composable, hargument, Traits.layout_tidied, containerArguments_tidied,
      composables_tidiedAll surface children]
  | text traits content =>
    have hstyle : (traits.tidied.style.map fun style => textArguments style surface)
        = traits.style.map fun style => textArguments style surface := by
      simp [Traits.tidied, Function.comp_def, textArguments_tidied]
    have htext : ∀ text, transformed traits.tidied.style text = transformed traits.style text := by
      intro text
      rw [transformed, Traits.bind_text?_tidied, transformed]
    simp only [Node.tidied] at hargument
    simp only [Node.tidied, composable, hargument, hstyle, htext, TextContent.display_tidied]
  | button traits label variant size =>
    simp only [Node.tidied] at hargument
    simp only [Node.tidied, composable, hargument, button_tidied]
  | image traits uri resizeMode placeholder =>
    simp only [Node.tidied] at hargument
    simp only [Node.tidied, composable, hargument]
    rfl
  | spacer traits flex =>
    simp only [Node.tidied] at hchain
    simp only [Node.tidied, composable, hchain]
  | progressBar traits progress indeterminate =>
    simp only [Node.tidied] at hargument
    simp only [Node.tidied, composable, hargument, progressArgument, float_unsigned]
  | list traits items renderItem horizontal =>
    simp only [Node.tidied] at hargument
    simp only [Node.tidied, composable, hargument]

theorem composables_tidiedAll (surface : Surface) (children : List Node) :
    composables surface (Node.tidiedAll children) = composables surface children := by
  cases children with
  | nil => rfl
  | cons child rest =>
    simp only [Node.tidiedAll, composables, composable_tidied surface true child,
      composables_tidiedAll surface rest]

end

mutual

theorem usesContext_tidied (node : Node) : usesContext node.tidied = usesContext node := by
  have hany : ∀ traits : Traits, traits.tidied.action.any needsContext
      = traits.action.any needsContext := by
    intro traits
    cases h : traits.action with
    | none => simp [Traits.tidied, h]
    | some action =>
      simp only [Traits.tidied, h]
      rfl
  cases node with
  | view traits children => simp only [Node.tidied, usesContext, hany, anyUsesContext_tidiedAll children]
  | stack traits axis children =>
    simp only [Node.tidied, usesContext, hany, anyUsesContext_tidiedAll children]
  | _ => exact hany _

theorem anyUsesContext_tidiedAll (children : List Node) :
    anyUsesContext (Node.tidiedAll children) = anyUsesContext children := by
  cases children with
  | nil => rfl
  | cons child rest =>
    simp only [Node.tidiedAll, anyUsesContext, usesContext_tidied child,
      anyUsesContext_tidiedAll rest]

end

end Android

/-! ## Fallbacks -/

mutual

theorem Ios.view_withoutNulls (node : Node) : Ios.view node.withoutNulls = Ios.view node := by
  cases node with
  | view traits children =>
    cases children with
    | nil => rfl
    | cons child rest =>
      have hrest := Ios.views_withoutNullsAll (child :: rest)
      simp only [Node.withoutNullsAll] at hrest
      simp only [Node.withoutNulls, Node.withoutNullsAll, Ios.view, hrest]
      rfl
  | stack traits axis children =>
    simp only [Node.withoutNulls, Ios.view, Ios.views_withoutNullsAll children]
    rfl
  | _ => rfl

theorem Ios.views_withoutNullsAll (children : List Node) :
    Ios.views (Node.withoutNullsAll children) = Ios.views children := by
  cases children with
  | nil => rfl
  | cons child rest =>
    simp only [Node.withoutNullsAll, Ios.views, Ios.view_withoutNulls child,
      Ios.views_withoutNullsAll rest]

end

mutual

theorem Android.composable_withoutNulls (surface : Android.Surface) (inContainer : Bool)
    (node : Node) : Android.composable surface inContainer node.withoutNulls
      = Android.composable surface inContainer node := by
  cases node with
  | view traits children =>
    cases children with
    | nil => rfl
    | cons child rest =>
      have hrest := Android.composables_withoutNullsAll surface (child :: rest)
      simp only [Node.withoutNullsAll] at hrest
      simp only [Node.withoutNulls, Node.withoutNullsAll, Android.composable, hrest]
      rfl
  | stack traits axis children =>
    simp only [Node.withoutNulls, Android.composable,
      Android.composables_withoutNullsAll surface children]
    rfl
  | _ => rfl

theorem Android.composables_withoutNullsAll (surface : Android.Surface) (children : List Node) :
    Android.composables surface (Node.withoutNullsAll children)
      = Android.composables surface children := by
  cases children with
  | nil => rfl
  | cons child rest =>
    simp only [Node.withoutNullsAll, Android.composables,
      Android.composable_withoutNulls surface true child,
      Android.composables_withoutNullsAll surface rest]

end

mutual

theorem Android.usesContext_withoutNulls (node : Node) :
    Android.usesContext node.withoutNulls = Android.usesContext node := by
  cases node with
  | view traits children =>
    simp only [Node.withoutNulls, Android.usesContext, Android.anyUsesContext_withoutNullsAll children]
    rfl
  | stack traits axis children =>
    simp only [Node.withoutNulls, Android.usesContext, Android.anyUsesContext_withoutNullsAll children]
    rfl
  | _ => rfl

theorem Android.anyUsesContext_withoutNullsAll (children : List Node) :
    Android.anyUsesContext (Node.withoutNullsAll children) = Android.anyUsesContext children := by
  cases children with
  | nil => rfl
  | cons child rest =>
    simp only [Node.withoutNullsAll, Android.anyUsesContext, Android.usesContext_withoutNulls child,
      Android.anyUsesContext_withoutNullsAll rest]

end

end Widgetry
