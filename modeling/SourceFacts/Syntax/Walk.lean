import SourceFacts.Syntax.Node

/-!
# Walks through a tree

A walk meets the nodes of a tree in pre-order. Below the start it does not go into nodes that a
test cuts off, but still meets them.
-/

namespace SourceFacts.Node

mutual

/-- The nodes met below the start, from a node on. -/
def walkBelow (cut : Node → Bool) : Node → List Node
  | .node l cs => .node l cs :: if cut (.node l cs) then [] else walkAll cut cs

/-- The nodes met below the start, from several siblings on. -/
def walkAll (cut : Node → Bool) : List Node → List Node
  | [] => []
  | n :: ns => walkBelow cut n ++ walkAll cut ns

end

/-- The nodes met in a walk that starts at a node. -/
def walk (cut : Node → Bool) (n : Node) : List Node :=
  n :: walkAll cut n.children

/-- All nodes of a tree in pre-order. -/
def preorder (n : Node) : List Node :=
  n.walk fun _ => false

mutual

/-- The nodes from a node on in pre-order, each with the nodes above it, the nearest first. -/
def visits (above : List Node) : Node → List (Node × List Node)
  | .node l cs => (.node l cs, above) :: visitsAll (.node l cs :: above) cs

/-- The nodes from several siblings on, each with the nodes above it. -/
def visitsAll (above : List Node) : List Node → List (Node × List Node)
  | [] => []
  | n :: ns => visits above n ++ visitsAll above ns

end

end SourceFacts.Node
