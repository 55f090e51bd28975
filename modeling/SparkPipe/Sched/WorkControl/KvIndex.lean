import SparkPipe.Program.Transition
import SparkPipe.Sched.WorkControl.KvState

/-!
# The indexes as maps

The directory and the block table share one kind of open-addressed index. An entry is put into
the cell that a probe for its key has found, and an entry is erased by closing the hole it leaves.
Whatever is inserted and erased, the index holds what was inserted and not erased since, also
when every cell is used.
-/

open Program

namespace SparkPipe

/-- The uses of an index; the empty key is never inserted. -/
inductive KvIndexOp {E : Type} (S : Slots E KvKey)
  | insert (entry : E) (hkey : S.keyOf entry ≠ S.keyOf S.vacant)
  | erase (key : KvKey)

namespace KvIndexOp

variable {E : Type} {S : Slots E KvKey} {content : KvKey → Option E} {t : List E}

/-- An entry goes where the probe for its key points, if it points to a cell. -/
def exec : KvIndexOp S → List E → List E
  | insert entry _, t =>
    match S.probe t (S.keyOf entry) with
    | some (slot, _) => t.set slot entry
    | none => t
  | erase key, t =>
    match S.find t key with
    | some slot => S.erase t slot
    | none => t

/-- What was inserted under each key and not erased since, after one more operation. -/
def follow (t : List E) (content : KvKey → Option E) : KvIndexOp S → KvKey → Option E
  | insert entry _ =>
    if (S.probe t (S.keyOf entry)).isSome then
      Function.update content (S.keyOf entry) (some entry)
    else content
  | erase key => Function.update content key none

/-- The table and its content after operations on an empty table of `n` cells. -/
def run (n : Nat) (ops : List (KvIndexOp S)) : List E × (KvKey → Option E) :=
  runAll (fun op state => (op.exec state.1, op.follow state.1 state.2))
    (List.replicate n S.vacant, fun _ => none) ops

/-- The entries of a table of `n` cells are its content. -/
structure Holds (S : Slots E KvKey) (n : Nat) (t : List E) (content : KvKey → Option E) :
    Prop where
  length : t.length = n
  reachable : S.Reachable t
  lookup : S.lookup t = content

theorem Holds.exec {n : Nat} (h : Holds S n t content)
    (op : KvIndexOp S) : Holds S n (op.exec t) (op.follow t content) := by
  obtain ⟨hlength, hreachable, rfl⟩ := h
  cases op with
  | insert entry hkey =>
    rw [KvIndexOp.exec, follow]
    match hprobe : S.probe t (S.keyOf entry) with
    | none => exact ⟨hlength, hreachable, rfl⟩
    | some (slot, true) =>
      obtain ⟨hset, -, hlookup⟩ := hreachable.rewritten (Slots.find_of_probe_true hprobe) rfl
      exact ⟨List.length_set.trans hlength, hset, hlookup⟩
    | some (slot, false) =>
      obtain ⟨hset, -, hlookup⟩ := hreachable.inserted hprobe hkey rfl
      exact ⟨List.length_set.trans hlength, hset, hlookup⟩
  | erase key =>
    rw [KvIndexOp.exec, follow]
    cases hfind : S.find t key with
    | none =>
      refine ⟨hlength, hreachable, (Function.update_eq_self_iff.mpr ?_).symm⟩
      exact (Slots.lookup_eq_none_iff.mpr hfind).symm
    | some slot =>
      obtain ⟨herased, -, hlookup⟩ := hreachable.erased hfind
      exact ⟨(Slots.length_erase (Slots.answers_of_find hfind).1).trans hlength, herased, hlookup⟩

theorem Holds.run (n : Nat) (ops : List (KvIndexOp S)) :
    Holds S n (KvIndexOp.run n ops).1 (KvIndexOp.run n ops).2 := by
  obtain ⟨hempty, -, hnone⟩ := Slots.HalfFull.initial (S := S) n
  exact runAll_invariant (I := fun state : List E × (KvKey → Option E) =>
    Holds S n state.1 state.2) (fun op _ h => h.exec op) ops
    ⟨List.length_replicate, hempty.reachable, funext hnone⟩

/-- A search finds what was inserted and not erased; an insertion fails only in a table full of
other keys; erasing a key frees one cell. -/
structure IsMap (S : Slots E KvKey) (n : Nat) (t : List E) (content : KvKey → Option E) :
    Prop where
  find_iff : ∀ k ≠ S.keyOf S.vacant, ∀ slot, S.find t k = some slot ↔ slot < n ∧ S.key t slot = k
  found : ∀ k, (S.find t k).map (S.entry t) = content k
  refused : ∀ k, S.probe t k = none → content k = none ∧ S.size t = n
  erased : ∀ k slot, S.find t k = some slot → S.size (S.erase t slot) + 1 = S.size t ∧
    ∀ k' ≠ k, (S.find (S.erase t slot) k').map (S.entry (S.erase t slot)) = content k'

theorem Holds.isMap {n : Nat} (h : Holds S n t content) : IsMap S n t content := by
  obtain ⟨rfl, hreachable, rfl⟩ := h
  refine ⟨fun k hk slot => hreachable.find_eq_some_iff hk, fun k => rfl, fun k hprobe => ?_,
    fun k slot hfind => ?_⟩
  · refine ⟨Slots.lookup_eq_none_iff.mpr (by rw [Slots.find, hprobe]), ?_⟩
    by_contra hsize
    obtain ⟨j, hj, hvacant⟩ := Slots.exists_isVacant (lt_of_le_of_ne List.countP_le_length hsize)
    rw [(Slots.answers_of_probe hprobe j hj).1] at hvacant
    cases hvacant
  · obtain ⟨-, hsize, herased⟩ := hreachable.erased hfind
    exact ⟨hsize, fun k' hne => (congrFun herased k').trans (Function.update_of_ne hne _ _)⟩

end KvIndexOp

/-- The operations keep a finite map, and the loop of an erasure ends on every table. -/
def IsFiniteMap {E : Type} (S : Slots E KvKey) : Prop :=
  (∀ (n : Nat) (ops : List (KvIndexOp S)),
    KvIndexOp.IsMap S n (KvIndexOp.run n ops).1 (KvIndexOp.run n ops).2) ∧
  ∀ (t : List E) (slot : Nat), slot < t.length →
    ∃ rounds, S.closeHole rounds slot (nextCell t.length slot) (t.set slot S.vacant) =
      some (S.erase t slot)

theorem isFiniteMap {E : Type} (S : Slots E KvKey) : IsFiniteMap S :=
  ⟨fun n ops => (KvIndexOp.Holds.run n ops).isMap,
    fun _ _ hslot => ⟨_, Slots.closeHole_erase hslot⟩⟩

/-- The directory and the block table of the host are finite maps, whatever their size. -/
theorem kv_indexes_are_finite_maps : IsFiniteMap kvDirectorySlots ∧ IsFiniteMap kvBlockSlots :=
  ⟨isFiniteMap _, isFiniteMap _⟩

end SparkPipe
