import SparkPipe.Program.Table

/-!
# Intrusive hash chains

An index over the cells of a table: a list of heads, one for each bucket, and in every cell a
link to the next cell of its bucket. A cell may carry the links of several indexes.

## Main definitions

* `bucketOf`: the bucket of a 64-bit key.
* `LinkField`: the field of a cell that one index uses.
* `chainFind`, `chainPrevious`, `chainInsert`, `chainUnlink`: the operations of an index.
-/

namespace Program

/-- The finalizer that spreads 64-bit keys over the buckets of an index. -/
def bucketOf (key bucketCount : Nat) : Nat :=
  let hash := Nat.xor key (key >>> 33)
  let hash := hash * 0xff51afd7ed558ccd % 2 ^ 64
  Nat.xor hash (hash >>> 33) % bucketCount

/-- The field of a cell that links it to the next cell of its chain. -/
structure LinkField (α : Type) where
  next : α → Nat
  relink : α → Nat → α
  next_relink : ∀ a n, next (relink a n) = n

variable {α : Type} (field : LinkField α) (stop : Nat) (d : α)

/-- Follow a chain to the first cell with a property; the cells bound the rounds. -/
def chainFind (cells : List α) (hit : α → Bool) : Nat → Nat → Option Nat
  | 0, _ => none
  | rounds + 1, i =>
    if i ≠ stop ∧ i < cells.length then
      if hit (cells.getD i d) then some i
      else chainFind cells hit rounds (field.next (cells.getD i d))
    else none

/-- Follow a chain to the predecessor of a cell, which is `previous` for the first cell. -/
def chainPrevious (cells : List α) (target : Nat) : Nat → Nat → Nat → Option Nat
  | 0, _, _ => none
  | rounds + 1, previous, i =>
    if i = stop then none
    else if i = target then some previous
    else chainPrevious cells target rounds i (field.next (cells.getD i d))

/-- Put a cell in front of the chain of a bucket. -/
def chainInsert (cells : List α) (heads : List Nat) (bucket i : Nat) : List α × List Nat :=
  (cells.set i (field.relink (cells.getD i d) (heads.getD bucket stop)), heads.set bucket i)

/-- Link the chain of a bucket past a cell, if it visits the cell. -/
def chainUnlink (cells : List α) (heads : List Nat) (bucket i : Nat) : Option (List α × List Nat) :=
  (chainPrevious field stop d cells i cells.length stop
    (heads.getD bucket stop)).map fun previous =>
    let after := field.next (cells.getD i d)
    if previous = stop then (cells, heads.set bucket after)
    else (cells.set previous (field.relink (cells.getD previous d) after), heads)

end Program
