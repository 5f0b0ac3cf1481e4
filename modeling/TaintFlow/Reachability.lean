/-!
# Reachability in finite graphs

A search goes through the successors of a frontier, round by round, and stops when a round finds
nothing new. Every other round adds a node, so the number of nodes bounds the rounds.
-/

namespace TaintFlow

variable {α : Type} [BEq α]

/-- The successors of a frontier that are not among those seen, each once. -/
def unseenSuccessors (next : α → List α) (frontier seen : List α) : List α :=
  ((frontier.flatMap next).filter fun a => !seen.contains a).eraseDups

/-- The search, for a number of rounds. -/
def searchRounds (next : α → List α) : (rounds : Nat) → (frontier seen : List α) → List α
  | 0, _, seen => seen
  | rounds + 1, frontier, seen =>
    match unseenSuccessors next frontier seen with
    | [] => seen
    | found => searchRounds next rounds found (seen ++ found)

/-- What can be reached from a node in one step or more. -/
def reachable (next : α → List α) (nodes : List α) (a : α) : List α :=
  searchRounds next (nodes.length + 1) [a] []

/-- Whether a node lies on a cycle. -/
def onCycle (next : α → List α) (nodes : List α) (a : α) : Bool :=
  (reachable next nodes a).contains a

/-- The nodes on a cycle with a node. -/
def cycleClass (next : α → List α) (nodes : List α) (a : α) : List α :=
  nodes.filter fun b =>
    (reachable next nodes a).contains b && (reachable next nodes b).contains a

/-- The classes of nodes that reach each other, in the order of their first nodes. -/
def cycleClasses (next : α → List α) (nodes : List α) : List (List α) :=
  (nodes.filter fun a => (cycleClass next nodes a).head?.any (· == a)).map (cycleClass next nodes)

end TaintFlow
