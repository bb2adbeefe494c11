import CodeClones.Node.Basic

/-!
# Agreement between nodes

The candidates for one place of a clone are compared as a group. An empty group and a group of one
agree on everything.
-/

namespace CodeClones.Node

/-- Whether all items of a list equal its first one. -/
def allAgree {α : Type} (same : α → α → Bool) : List α → Bool
  | [] => true
  | first :: rest => rest.all fun item => same item first

/-- Whether all nodes are of one kind. -/
def kindsAgree (group : List Node) : Bool :=
  allAgree (· == ·) (group.map kind)

/-- Whether all nodes have the same name, or all have none. -/
def namesAgree (group : List Node) : Bool :=
  allAgree (· == ·) (group.map name)

/-- Whether all nodes that are compared by value have the same value. Other nodes do not matter. -/
def valuesAgree (group : List Node) : Bool :=
  allAgree Literal.sameOption ((group.filter (·.kind.carriesValue)).map value)

end CodeClones.Node
