import CodeClones.Node.Basic

/-!
# Bounds of an occurrence

Where an occurrence of a clone starts and ends. It starts with its earliest node. Its end is guessed
from where its nodes start, because the last node may reach far below the code that is alike; the
furthest end of any node is taken instead when it is only a few lines further down.
-/

namespace CodeClones.Bounds

/-- The position on the greatest line; of several there, the last. -/
def lowest (first : Position) (rest : List Position) : Position :=
  rest.foldl Position.lowerOf first

/-- The start of the earliest node. -/
def start (first : Node) (rest : List Node) : Position :=
  (rest.foldl (fun earliest n => if n.startsBefore earliest then n else earliest) first).span.start

/-- The place that the end is measured from: the start on the greatest line, or the end of the last
node when that is further down and the node has no children. -/
def base (first : Node) (rest : List Node) : Position :=
  let lowestStart := lowest first.span.start (rest.map (·.span.start))
  let last := (first :: rest).getLast (by simp)
  if lowestStart.line < last.span.stop.line ∧ last.isLeaf then last.span.stop else lowestStart

/-- The end: the furthest end of any node when that is at most `slack` lines past the base, and the
base otherwise. -/
def stop (slack : UInt32) (first : Node) (rest : List Node) : Position :=
  let base := base first rest
  let lowestEnd := lowest first.span.stop (rest.map (·.span.stop))
  if lowestEnd.line.toNat - base.line.toNat ≤ slack.toNat then lowestEnd else base

/-- The start and the end of a group of nodes; a group without nodes has none. -/
def ofGroup? (slack : UInt32) : List Node → Option (Position × Position)
  | [] => none
  | first :: rest => some (start first rest, stop slack first rest)

end CodeClones.Bounds
