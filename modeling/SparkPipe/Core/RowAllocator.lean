import Mathlib.Algebra.GroupWithZero.Nat

/-!
# The firing-row allocator

A wave has a fixed number of rows. Every slot gets one base row in index order, slots that probe
get a small fixed grant of draft rows, and the rest of the rows go one by one to the slot whose
next draft row has the highest expected value, the lower index winning ties. All values are in
thousandths.
-/

namespace SparkPipe.RowAllocator

def milli : Nat := 1000

def alphaCeiling : Nat := 999

def probeRows : Nat := 2

structure SlotInput where
  commitEmaMilli : Nat
  maximumDraftDepth : Nat
  probe : Nat

def alphaMilli (commitEmaMilli : Nat) : Nat :=
  if commitEmaMilli ≤ milli then 0
  else min ((commitEmaMilli - milli) * milli / commitEmaMilli) alphaCeiling

/-- The probe grants, in slot order, and the rows that remain. -/
def grantProbes : List SlotInput → Nat → List Nat × Nat
  | [], remaining => ([], remaining)
  | slot :: slots, remaining =>
    let grant :=
      if remaining = 0 ∨ slot.probe = 0 ∨ slot.maximumDraftDepth = 0 then 0
      else min (min probeRows slot.maximumDraftDepth) remaining
    let rest := grantProbes slots (remaining - grant)
    (grant :: rest.1, rest.2)

/-- The value of the next draft row of a slot; a 32-bit word. -/
def draftRowValue (cost : Nat) (slot : SlotInput) (granted : Nat) : Nat :=
  let alpha := alphaMilli slot.commitEmaMilli
  (List.range granted).foldl (fun value _ => value * alpha / milli % 2 ^ 32)
    (alpha * milli / cost % 2 ^ 32)

/-- The slot with the highest value above zero, and that value. -/
def bestDraftRow (cost : Nat) (slots : List SlotInput) (budgets : List Nat) : Option Nat × Nat :=
  slots.zipIdx.foldl (fun best indexed =>
    let granted := budgets.getD indexed.2 0
    if indexed.1.probe ≠ 0 ∨ indexed.1.maximumDraftDepth ≤ granted ∨
        alphaMilli indexed.1.commitEmaMilli = 0 then best
    else
      let value := draftRowValue cost indexed.1 granted
      if best.2 < value then (some indexed.2, value) else best) (none, 0)

/-- Grants one row in every round; the number of remaining rows bounds the rounds. -/
def greedyGrant (cost : Nat) (slots : List SlotInput) : Nat → List Nat → List Nat
  | 0, budgets => budgets
  | remaining + 1, budgets =>
    match (bestDraftRow cost slots budgets).1 with
    | none => budgets
    | some index =>
      greedyGrant cost slots remaining (budgets.set index (budgets.getD index 0 + 1))

/-- The draft rows granted to each slot, and the number of all rows. -/
def assign (slots : List SlotInput) (firingRowCap specRowRelativeCostMilli : Nat) :
    List Nat × Nat :=
  if firingRowCap = 0 then (List.replicate slots.length 0, 0)
  else
    let baseRows := min slots.length firingRowCap
    let probes := grantProbes slots (firingRowCap - baseRows)
    let cost := if specRowRelativeCostMilli = 0 then milli else specRowRelativeCostMilli
    let budgets := greedyGrant cost slots probes.2 probes.1
    (budgets, baseRows + budgets.sum)

end SparkPipe.RowAllocator
