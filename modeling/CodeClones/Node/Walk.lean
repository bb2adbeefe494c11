import CodeClones.Node.Basic

/-!
# Walks over a tree

A walk keeps the nodes still to be visited in a list and never calls itself below a node, so deep
trees need no deep recursion. Depth first, a node's children go in front of what waits; breadth
first, behind it.
-/

namespace CodeClones.Node

/-- Visits the waiting nodes depth first: a node, then its children, then what waited behind it. -/
def visitStack : List Node → List Node
  | [] => []
  | n :: waiting => n :: visitStack (n.children ++ waiting)
termination_by waiting => forestSize waiting
decreasing_by
  have := forestSize_children_lt n
  simp only [forestSize_append, forestSize_cons]
  omega

/-- Visits the waiting nodes breadth first: a node, then what waited behind it, then its
children. -/
def visitQueue : List Node → List Node
  | [] => []
  | n :: waiting => n :: visitQueue (waiting ++ n.children)
termination_by waiting => forestSize waiting
decreasing_by
  have := forestSize_children_lt n
  simp only [forestSize_append, forestSize_cons]
  omega

/-- The nodes below a node, depth first. -/
def descendants (n : Node) : List Node :=
  visitStack n.children

/-- A node and the nodes below it, depth first. -/
def depthFirst (n : Node) : List Node :=
  n :: n.descendants

/-- A node and the nodes below it, level by level. -/
def breadthFirst (n : Node) : List Node :=
  visitQueue [n]

end CodeClones.Node
