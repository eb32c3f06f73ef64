import Widgetry.Node.Digest

/-!
Digests and shapes. A digest lists the nodes of a tree in its order; below a node stand, as far as
they are deeper than the node, the digests of its children one after the other. Main statement: the
digests of two trees are equal exactly when the trees have the same shape.
-/

namespace Widgetry

/-! ## Shapes -/

/-- A tree of which nothing but the primitives is left. -/
inductive Shape where
  | node (primitive : String) (children : List Shape)

namespace Shape

mutual

def digestAt (depth : Nat) : Shape → List (String × Nat)
  | .node primitive children => (primitive, depth) :: digestAllAt (depth + 1) children

def digestAllAt (depth : Nat) : List Shape → List (String × Nat)
  | [] => []
  | shape :: rest => digestAt depth shape ++ digestAllAt depth rest

end

/-- What follows the digests of neighbours at a depth: nothing, or a node that is less deep. -/
def Leaves (depth : Nat) (rest : List (String × Nat)) : Prop := ∀ entry ∈ rest.head?, entry.2 < depth

variable {depth : Nat} {rest : List (String × Nat)}

/-- Behind a tree come its neighbours, or what leaves their depth. -/
theorem Leaves.digestAllAt_append (h : Leaves depth rest) (shapes : List Shape) :
    Leaves (depth + 1) (digestAllAt depth shapes ++ rest) := by
  intro entry hentry
  cases shapes with
  | nil => exact Nat.lt_succ_of_lt (h entry hentry)
  | cons shape others =>
    obtain ⟨primitive, children⟩ := shape
    obtain rfl := Option.some.inj hentry
    exact Nat.lt_succ_self depth

theorem not_leaves_digestAllAt_cons (shape : Shape) (others : List Shape) :
    ¬ Leaves depth (digestAllAt depth (shape :: others) ++ rest) := by
  intro h
  obtain ⟨primitive, children⟩ := shape
  exact Nat.lt_irrefl depth (h (primitive, depth) rfl)

mutual

theorem digestAt_append_inj : (shape other : Shape) → ∀ {depth rest rest'},
    Leaves (depth + 1) rest → Leaves (depth + 1) rest' →
    digestAt depth shape ++ rest = digestAt depth other ++ rest' → shape = other ∧ rest = rest'
  | .node primitive children, .node primitive' children', depth, rest, rest', hrest, hrest', h => by
    obtain ⟨hentry, hbelow⟩ := List.cons.inj h
    obtain ⟨rfl, -⟩ := Prod.mk.inj hentry
    obtain ⟨rfl, hbehind⟩ := digestAllAt_append_inj children children' hrest hrest' hbelow
    exact ⟨rfl, hbehind⟩

/-- From the digests of neighbours and what leaves their depth, each of them can be told. -/
theorem digestAllAt_append_inj : (shapes others : List Shape) → ∀ {depth rest rest'},
    Leaves depth rest → Leaves depth rest' →
    digestAllAt depth shapes ++ rest = digestAllAt depth others ++ rest' →
    shapes = others ∧ rest = rest'
  | [], [], _, _, _, _, _, h => ⟨rfl, h⟩
  | [], other :: others, _, _, _, hrest, _, h => by
    obtain rfl := h
    exact absurd hrest (not_leaves_digestAllAt_cons other others)
  | shape :: shapes, [], _, _, _, _, hrest', h => by
    obtain rfl := h
    exact absurd hrest' (not_leaves_digestAllAt_cons shape shapes)
  | shape :: shapes, other :: others, depth, rest, rest', hrest, hrest', h => by
    rw [digestAllAt, digestAllAt, List.append_assoc, List.append_assoc] at h
    obtain ⟨rfl, hlater⟩ := digestAt_append_inj shape other (hrest.digestAllAt_append shapes)
      (hrest'.digestAllAt_append others) h
    obtain ⟨rfl, hbehind⟩ := digestAllAt_append_inj shapes others hrest hrest' hlater
    exact ⟨rfl, hbehind⟩

end

theorem digestAt_inj (depth : Nat) {shape other : Shape}
    (h : digestAt depth shape = digestAt depth other) : shape = other := by
  have hend : Leaves (depth + 1) [] := by rintro entry ⟨⟩
  exact (digestAt_append_inj shape other hend hend (congrArg (· ++ []) h)).1

end Shape

/-! ## Shapes of nodes -/

namespace Node

mutual

/-- Every node is reduced to its primitive and its children. -/
def shape : Node → Shape
  | .view traits children => .node (primitive (.view traits children)) (shapes children)
  | .stack traits axis children => .node (primitive (.stack traits axis children)) (shapes children)
  | node => .node (primitive node) []

def shapes : List Node → List Shape
  | [] => []
  | node :: rest => shape node :: shapes rest

end

mutual

theorem digestAt_shape (depth : Nat) : (node : Node) →
    node.shape.digestAt depth = node.digestAt depth
  | .view traits children | .stack traits axis children => by
    rw [shape, Shape.digestAt, digestAt, digestAllAt_shapes]
  | .text .. | .button .. | .image .. | .spacer .. | .progressBar .. | .list .. => rfl

/-- Nothing but the shape of a tree goes into its digest. -/
theorem digestAllAt_shapes (depth : Nat) : (nodes : List Node) →
    Shape.digestAllAt depth (shapes nodes) = digestAllAt depth nodes
  | [] => rfl
  | node :: rest => by
    rw [shapes, Shape.digestAllAt, digestAllAt, digestAt_shape, digestAllAt_shapes]

end

mutual

theorem length_digestAt (depth : Nat) : (node : Node) → (node.digestAt depth).length = node.count
  | .view traits children | .stack traits axis children => by
    rw [digestAt, List.length_cons, length_digestAllAt, count, Nat.add_comm]
  | .text .. | .button .. | .image .. | .spacer .. | .progressBar .. | .list .. => rfl

theorem length_digestAllAt (depth : Nat) : (nodes : List Node) →
    (digestAllAt depth nodes).length = countAll nodes
  | [] => rfl
  | node :: rest => by
    rw [digestAllAt, List.length_append, length_digestAt, length_digestAllAt, countAll]

end

/-- Digests are equal exactly when the shapes are, and they have one entry for each node. -/
theorem digest_eq_iff_shape_eq (node other : Node) :
    (node.digest = other.digest ↔ node.shape = other.shape) ∧ node.digest.length = node.count := by
  refine ⟨⟨fun h => ?_, fun h => ?_⟩, length_digestAt 0 node⟩
  · refine Shape.digestAt_inj 0 ?_
    rw [digestAt_shape, digestAt_shape]
    exact h
  · rw [digest, digest, ← digestAt_shape, ← digestAt_shape, h]

end Node

end Widgetry
