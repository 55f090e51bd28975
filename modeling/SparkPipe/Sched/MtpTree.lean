import Mathlib.Algebra.GroupWithZero.Nat

/-!
# The draft tree of multi-token prediction

Five candidate tokens are laid out as a fixed tree over six verifier rows. A path through the
tree is named by the row it ends in; row zero is the root, where nothing is accepted.
-/

namespace SparkPipe.MtpTree

/-- The draft tokens of a tree. -/
def candidateCount : Nat := 5

/-- The rows of a tree, with the root. -/
def verifierRowCount : Nat := 6

/-- A longest path and the verifier's own token. -/
def maxCommittedTokenCount : Nat := 4

/-- The depth of the tree. -/
def contextExtension : Nat := 3

/-- The path on which nothing is accepted. -/
def resolutionNone : Nat := 0

/-- One path for each row. -/
def resolutionCount : Nat := 6

/-- A row of the tree: its parent, depth, candidate and children. -/
structure Node where
  parentRow : Nat
  depth : Nat
  candidateIndex : Nat
  childRowBase : Nat
  childCount : Nat

/-- The root has one child, rows 1 and 2 have two each. -/
def nodes : List Node :=
  [{ parentRow := 0, depth := 0, candidateIndex := 0, childRowBase := 1, childCount := 1 },
   { parentRow := 0, depth := 1, candidateIndex := 0, childRowBase := 2, childCount := 2 },
   { parentRow := 1, depth := 2, candidateIndex := 1, childRowBase := 4, childCount := 2 },
   { parentRow := 1, depth := 2, candidateIndex := 2, childRowBase := 0, childCount := 0 },
   { parentRow := 2, depth := 3, candidateIndex := 3, childRowBase := 0, childCount := 0 },
   { parentRow := 2, depth := 3, candidateIndex := 4, childRowBase := 0, childCount := 0 }]

/-- The node of a row, if the tree has it. -/
def nodeAt (rowIndex : Nat) : Option Node := nodes[rowIndex]?

/-- The tokens on a path; none off the tree. -/
def acceptedTokenCount (pathId : Nat) : Nat := (nodeAt pathId).elim 0 Node.depth

/-- The row where a path ends; the root off the tree. -/
def fallbackRowIndex (pathId : Nat) : Nat := if (nodeAt pathId).isSome then pathId else 0

/-- A verdict fits its proposal; a full tree fixes the count by the path. -/
def resolutionIsValid (proposedTokenCount acceptedCount pathId : Nat) : Bool :=
  if proposedTokenCount < acceptedCount then false
  else if proposedTokenCount = 0 then acceptedCount == 0 && pathId == resolutionNone
  else if proposedTokenCount ≠ candidateCount then pathId == resolutionNone
  else if verifierRowCount ≤ pathId then false
  else acceptedCount == acceptedTokenCount pathId

end SparkPipe.MtpTree
