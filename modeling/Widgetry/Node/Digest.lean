import Widgetry.Node.Basic

/-!
The shape of a tree, apart from what its nodes say: the primitive of each node with its depth, in
the order of the tree.
-/

namespace Widgetry.Node

/-- The primitive that a node becomes in every target. -/
def primitive : Node → String
  | .view _ [] => "Empty"
  | .view .. => "Column"
  | .stack _ .horizontal _ => "Row"
  | .stack _ .vertical _ => "Column"
  | node => node.typeName

mutual

def digestAt (depth : Nat) : Node → List (String × Nat)
  | .view traits children =>
    (primitive (.view traits children), depth) :: digestAllAt (depth + 1) children
  | .stack traits axis children =>
    (primitive (.stack traits axis children), depth) :: digestAllAt (depth + 1) children
  | node => [(primitive node, depth)]

def digestAllAt (depth : Nat) : List Node → List (String × Nat)
  | [] => []
  | node :: rest => digestAt depth node ++ digestAllAt depth rest

end

def digest (node : Node) : List (String × Nat) := digestAt 0 node

end Widgetry.Node
