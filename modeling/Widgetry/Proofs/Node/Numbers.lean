import Mathlib.Data.List.Basic
import Widgetry.Node.Layout

/-!
The numbers that a node hands on to be shown. Those of its box and of its layout are numbers of its
style or stand in for them.
-/

namespace Widgetry

/-- The numbers that stand in for what a root does not say. -/
def builtInNumbers : List Float := [0, 0.2, 2, 4, 15, 60, 1440]

variable {P : Float → Prop}

/-! ## Parts of a box -/

def Padding.NumbersIn (P : Float → Prop) : Padding → Prop
  | .uniform value => P value
  | .edges horizontal vertical top bottom left right =>
    ∀ edge ∈ [horizontal, vertical, top, bottom, left, right], ∀ x ∈ edge, P x

def Size.NumbersIn (P : Float → Prop) (size : Size) : Prop :=
  ∀ bound ∈ [size.width, size.height, size.minWidth, size.minHeight, size.maxWidth, size.maxHeight],
    ∀ x ∈ bound, P x

structure Border.NumbersIn (P : Float → Prop) (border : Border) : Prop where
  width : P border.width
  radius : P border.radius

structure Shadow.NumbersIn (P : Float → Prop) (shadow : Shadow) : Prop where
  opacity : P shadow.opacity
  radius : P shadow.radius
  offsetX : P shadow.offsetX
  offsetY : P shadow.offsetY

/-- All numbers of a box satisfy `P`. -/
structure Box.NumbersIn (P : Float → Prop) (box : Box) : Prop where
  padding : ∀ padding ∈ box.padding, padding.NumbersIn P
  size : ∀ size ∈ box.size, size.NumbersIn P
  aspectRatio : ∀ x ∈ box.aspectRatio, P x
  cornerRadius : ∀ x ∈ box.cornerRadius, P x
  border : ∀ border ∈ box.border, border.NumbersIn P
  shadow : ∀ shadow ∈ box.shadow, shadow.NumbersIn P
  opacity : ∀ x ∈ box.opacity, P x
  zIndex : ∀ x ∈ box.zIndex, P x

/-! ## Styles -/

namespace Style

variable {style : Style}

/-- All numbers that a style gives for some key satisfy `P`. -/
def NumbersIn (P : Float → Prop) (style : Style) : Prop := ∀ key, ∀ x ∈ style.number? key, P x

theorem NumbersIn.nonzero? (h : style.NumbersIn P) (key : String) :
    ∀ x ∈ style.nonzero? key, P x := by
  intro x hx
  exact h key x (Option.mem_filter_iff.1 hx).1

theorem NumbersIn.getD (h : style.NumbersIn P) (key : String) {default : Float}
    (hdefault : P default) : P ((style.number? key).getD default) := by
  cases hnumber : style.number? key with
  | none => exact hdefault
  | some x => exact h key x hnumber

theorem NumbersIn.padding? (h : style.NumbersIn P) :
    ∀ padding ∈ style.padding?, padding.NumbersIn P := by
  intro padding hpadding
  rw [Style.padding?, Option.mem_def] at hpadding
  split at hpadding
  · rename_i value hvalue
    cases hpadding
    exact h.nonzero? "padding" value hvalue
  · dsimp only at hpadding
    split_ifs at hpadding
    cases hpadding
    simp only [Padding.NumbersIn, List.forall_mem_cons]
    exact ⟨h.nonzero? _, h.nonzero? _, h.nonzero? _, h.nonzero? _, h.nonzero? _, h.nonzero? _,
      List.forall_mem_nil _⟩

theorem NumbersIn.size? (h : style.NumbersIn P) : ∀ size ∈ style.size?, size.NumbersIn P := by
  intro size hsize
  rw [Style.size?, Option.mem_def] at hsize
  dsimp only at hsize
  split_ifs at hsize
  cases hsize
  simp only [Size.NumbersIn, List.forall_mem_cons]
  exact ⟨h.nonzero? _, h.nonzero? _, h.nonzero? _, h.nonzero? _, h.nonzero? _, h.nonzero? _,
    List.forall_mem_nil _⟩

theorem NumbersIn.border? (h : style.NumbersIn P) (hbuiltIn : ∀ x ∈ builtInNumbers, P x) :
    ∀ border ∈ style.border?, border.NumbersIn P := by
  intro border hborder
  rw [Style.border?, Option.mem_def] at hborder
  split at hborder
  · rename_i width color hwidth _
    cases hborder
    refine ⟨h.nonzero? "borderWidth" width hwidth, ?_⟩
    cases hradius : style.nonzero? "borderRadius" with
    | none => exact hbuiltIn 0 (by simp [builtInNumbers])
    | some radius => exact h.nonzero? "borderRadius" radius hradius
  · cases hborder

theorem NumbersIn.shadow? (h : style.NumbersIn P) (hbuiltIn : ∀ x ∈ builtInNumbers, P x) :
    ∀ shadow ∈ style.shadow?, shadow.NumbersIn P := by
  intro shadow hshadow
  rw [Style.shadow?, Option.mem_def] at hshadow
  split_ifs at hshadow
  cases hshadow
  exact ⟨h.getD _ (hbuiltIn _ (by simp [builtInNumbers])),
    h.getD _ (hbuiltIn _ (by simp [builtInNumbers])),
    h.getD _ (hbuiltIn _ (by simp [builtInNumbers])),
    h.getD _ (hbuiltIn _ (by simp [builtInNumbers]))⟩

theorem NumbersIn.box (h : style.NumbersIn P) (hbuiltIn : ∀ x ∈ builtInNumbers, P x) :
    style.box.NumbersIn P where
  padding := h.padding?
  size := h.size?
  aspectRatio := h.nonzero? "aspectRatio"
  cornerRadius := h.nonzero? "borderRadius"
  border := h.border? hbuiltIn
  shadow := h.shadow? hbuiltIn
  opacity := h "opacity"
  zIndex := h "zIndex"

end Style

/-! ## Nodes -/

/-- All numbers in the style of some traits satisfy `P`. -/
def Traits.NumbersIn (P : Float → Prop) (traits : Traits) : Prop :=
  ∀ style ∈ traits.style, style.NumbersIn P

theorem Traits.NumbersIn.box {traits : Traits} (h : traits.NumbersIn P)
    (hbuiltIn : ∀ x ∈ builtInNumbers, P x) : traits.box.NumbersIn P := by
  rw [Traits.box]
  split
  · rename_i style hstyle
    exact (h style hstyle).box hbuiltIn
  · constructor <;> exact fun _ hx => absurd hx (by simp)

theorem Traits.NumbersIn.gap {traits : Traits} (h : traits.NumbersIn P)
    (hbuiltIn : ∀ x ∈ builtInNumbers, P x) (axis : Axis) : P (traits.layout axis).gap := by
  have hzero : P 0 := hbuiltIn 0 (by simp [builtInNumbers])
  cases hstyle : traits.style with
  | none => simpa [Traits.layout, hstyle] using hzero
  | some style => simpa [Traits.layout, hstyle] using (h style hstyle).getD "gap" hzero

/-- What a node itself is measured by. -/
def Node.ownNumbers : Node → List Float
  | .spacer _ flex => flex.toList
  | .progressBar _ progress _ => [progress]
  | _ => []

/-- All numbers of a node itself satisfy `P`. -/
structure Node.NumbersIn (P : Float → Prop) (node : Node) : Prop where
  traits : node.traits.NumbersIn P
  own : ∀ x ∈ node.ownNumbers, P x

end Widgetry
