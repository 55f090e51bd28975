import SparkPipe.Program.Basic
import SparkPipe.Program.Table
import SparkPipe.Program.Transition

/-!
# The batch sequence table

Admitted sequences live in slots that are recycled through a free list. A handle is a word of 32
bits: the index of the slot in the low 14 bits and its generation above them. The generation of a
slot is a word of its own that grows with every completed admission, so a slot that has been
recycled often enough has a generation that no handle can carry.
-/

open Program

namespace SparkPipe

inductive SequenceState
  | free
  | active
  | awaitingTool
  | complete
  deriving DecidableEq

inductive BatchSequenceError
  | invalidArgument
  | notFound
  | capacityExceeded
  deriving DecidableEq

/-- A slot of the table. -/
structure BatchSequence where
  sequenceId : Nat := 0
  state : SequenceState := .free
  laneCount : Nat := 0
  exchangeNumber : Nat := 0
  contextTokens : Nat := 0
  fragmentBase : Nat := 0
  fragmentCount : Nat := 0
  freeNext : Nat := 0
  generation : Nat := 0
  deriving DecidableEq

/-- The tables of the C interface are bounded. -/
def maxSequences : Nat := 16384

def handleIndexBits : Nat := 14

def freeHeadNone : Nat := 2 ^ 32 - 1

/-- A slot and its generation. -/
structure SequenceHandle where
  raw : UInt32
  deriving DecidableEq

namespace SequenceHandle

variable (handle : SequenceHandle) {i g : Nat}

def index : Nat := handle.raw.toNat % 2 ^ handleIndexBits

def generation : Nat := handle.raw.toNat / 2 ^ handleIndexBits

/-- The handle of a slot; the bits of the generation that do not fit are lost. -/
def ofSlot (index generation : Nat) : SequenceHandle :=
  ⟨UInt32.ofNat (index + generation * 2 ^ handleIndexBits)⟩

theorem generation_lt : handle.generation < 2 ^ 18 := by
  have := handle.raw.toNat_lt
  unfold generation handleIndexBits
  omega

theorem ext_iff' {handle handle' : SequenceHandle} : handle = handle' ↔
    handle.index = handle'.index ∧ handle.generation = handle'.generation := by
  refine ⟨fun h => h ▸ ⟨rfl, rfl⟩, fun h => ?_⟩
  simp only [index, generation, handleIndexBits] at h
  exact congrArg mk (UInt32.toNat_inj.mp (by omega))

theorem index_ofSlot (hi : i < maxSequences) : (ofSlot i g).index = i := by
  simp only [index, ofSlot, handleIndexBits, UInt32.toNat_ofNat']
  unfold maxSequences at hi
  omega

theorem generation_ofSlot (hi : i < maxSequences) : (ofSlot i g).generation = g % 2 ^ 18 := by
  simp only [generation, ofSlot, handleIndexBits, UInt32.toNat_ofNat']
  unfold maxSequences at hi
  omega

end SequenceHandle

/-- The sequences of a batch. -/
structure BatchSequenceTable where
  sequenceCapacity : Nat
  laneCount : Nat
  activeCount : Nat := 0
  awaitingToolCount : Nat := 0
  freeHead : Nat := freeHeadNone
  freeHighWater : Nat := 0
  sequences : List BatchSequence
  deriving DecidableEq

/-- The state of a table and the errors of its operations. -/
abbrev TableM := EStateM BatchSequenceError BatchSequenceTable

namespace BatchSequence

variable (s : BatchSequence)

/-- A sequence that is admitted to a slot. -/
def admitted (sequenceId laneCount contextTokens fragmentBase
    fragmentCount : Nat) : BatchSequence :=
  { s with
    sequenceId, laneCount, contextTokens, fragmentBase, fragmentCount
    state := .active, exchangeNumber := 0 }

def resumed (appendedContextTokens : Nat) : BatchSequence :=
  { s with
    state := .active
    exchangeNumber := (s.exchangeNumber + 1) % 2 ^ 32
    contextTokens := (s.contextTokens + appendedContextTokens) % 2 ^ 32 }

def paused : BatchSequence := { s with state := .awaitingTool }

def completed (freeNext : Nat) : BatchSequence :=
  { s with state := .complete, generation := (s.generation + 1) % 2 ^ 32, freeNext }

end BatchSequence

namespace BatchSequenceTable

def new (abiVersion sequenceCapacity laneCount : UInt32) :
    Except BatchSequenceError BatchSequenceTable :=
  if abiVersion ≠ 2 ∨ sequenceCapacity = 0 ∨ maxSequences < sequenceCapacity.toNat ∨
      laneCount = 0 then
    .error .invalidArgument
  else
    .ok {
      sequenceCapacity := sequenceCapacity.toNat
      laneCount := laneCount.toNat
      sequences := List.replicate sequenceCapacity.toNat {} }

variable (t : BatchSequenceTable)

def slot (i : Nat) : BatchSequence := t.sequences.getD i {}

def setSlot (i : Nat) (s : BatchSequence) : BatchSequenceTable :=
  { t with sequences := t.sequences.set i s }

/-- A handle is stale if its slot has another generation by now. -/
def Resolves (handle : SequenceHandle) : Prop :=
  handle.index < t.sequenceCapacity ∧ (t.slot handle.index).generation = handle.generation

instance (t : BatchSequenceTable) (handle : SequenceHandle) : Decidable (t.Resolves handle) :=
  inferInstanceAs (Decidable (_ ∧ _))

variable (handle : SequenceHandle)

def resolveHandle : TableM Nat := do
  if (← get).Resolves handle then pure handle.index else throw .notFound

def sequence : TableM BatchSequence := do
  let index ← resolveHandle handle
  return (← get).slot index

/-- Recycled slots come off the free list before fresh ones are taken. -/
def takeSlot : TableM Nat := do
  let t ← get
  if t.freeHead ≠ freeHeadNone then
    set { t with freeHead := (t.slot t.freeHead).freeNext }
    pure t.freeHead
  else if t.freeHighWater < t.sequenceCapacity then
    set { t with freeHighWater := t.freeHighWater + 1 }
    pure t.freeHighWater
  else throw .capacityExceeded

/-- A sequence takes a free slot. -/
def admitSequence (sequenceId contextTokens fragmentBase fragmentCount : Nat) :
    TableM SequenceHandle := do
  if fragmentCount = 0 then throw .invalidArgument
  else
    let index ← takeSlot
    let t ← get
    let s := (t.slot index).admitted sequenceId t.laneCount contextTokens fragmentBase fragmentCount
    set { t.setSlot index s with activeCount := t.activeCount + 1 }
    pure (.ofSlot index s.generation)

/-- What the operations share: the handle resolves, and the state allows the change. -/
def onSequence (allowed : SequenceState → Bool)
    (change : BatchSequenceTable → Nat → BatchSequenceTable) : TableM Unit := do
  let index ← resolveHandle handle
  let t ← get
  if allowed (t.slot index).state then set (change t index) else throw .invalidArgument

/-- The tool's result is there. -/
def beginExchange (appendedContextTokens : Nat) : TableM Unit :=
  onSequence handle (· == .awaitingTool) fun t index =>
    { t.setSlot index ((t.slot index).resumed appendedContextTokens) with
      awaitingToolCount := t.awaitingToolCount - 1
      activeCount := t.activeCount + 1 }

/-- The sequence waits for a tool. -/
def pauseForTool : TableM Unit :=
  onSequence handle (· == .active) fun t index =>
    { t.setSlot index (t.slot index).paused with
      activeCount := t.activeCount - 1
      awaitingToolCount := t.awaitingToolCount + 1 }

/-- The sequence has finished. -/
def complete : TableM Unit :=
  onSequence handle (fun state => state == .active || state == .awaitingTool) fun t index =>
    { t.setSlot index ((t.slot index).completed t.freeHead) with
      activeCount := if (t.slot index).state = .active then t.activeCount - 1 else t.activeCount
      awaitingToolCount :=
        if (t.slot index).state = .active then t.awaitingToolCount else t.awaitingToolCount - 1
      freeHead := index }

end BatchSequenceTable

inductive TableOp
  | admitSequence (sequenceId contextTokens fragmentBase fragmentCount : Nat)
  | beginExchange (handle : SequenceHandle) (appendedContextTokens : Nat)
  | pauseForTool (handle : SequenceHandle)
  | complete (handle : SequenceHandle)

def TableOp.exec : TableOp → BatchSequenceTable → BatchSequenceTable
  | admitSequence sequenceId contextTokens fragmentBase fragmentCount, t =>
    finalState (BatchSequenceTable.admitSequence sequenceId contextTokens fragmentBase
      fragmentCount t)
  | beginExchange handle appended, t =>
    finalState (BatchSequenceTable.beginExchange handle appended t)
  | pauseForTool handle, t => finalState (BatchSequenceTable.pauseForTool handle t)
  | complete handle, t => finalState (BatchSequenceTable.complete handle t)

namespace BatchSequenceTable

variable {t t' : BatchSequenceTable} {i j : Nat} {s : BatchSequence} {handle : SequenceHandle}

/-- The slot that the next admission takes. -/
def nextSlot (t : BatchSequenceTable) : Nat :=
  if t.freeHead ≠ freeHeadNone then t.freeHead else t.freeHighWater

theorem slot_write (h : t'.sequences = t.sequences.set i s) (hi : i < t.sequences.length)
    (j : Nat) : t'.slot j = if i = j then s else t.slot j := by
  rw [slot, h, getD_set]
  simp only [hi, and_true]
  rfl

theorem admitSequence_cases (q n base count : Nat) (t : BatchSequenceTable) :
    (∃ e, admitSequence q n base count t = .error e t) ∨
    ∃ freeHead freeHighWater,
      admitSequence q n base count t = .ok (.ofSlot t.nextSlot (t.slot t.nextSlot).generation)
          { t.setSlot t.nextSlot ((t.slot t.nextSlot).admitted q t.laneCount n base count) with
            freeHead, freeHighWater, activeCount := t.activeCount + 1 } ∧
      (t.freeHead ≠ freeHeadNone ∧ freeHead = (t.slot t.freeHead).freeNext ∧
          freeHighWater = t.freeHighWater ∨
        t.freeHead = freeHeadNone ∧ freeHead = freeHeadNone ∧
          t.freeHighWater < t.sequenceCapacity ∧ freeHighWater = t.freeHighWater + 1) := by
  have hget : (get : TableM BatchSequenceTable) t = .ok t t := rfl
  by_cases hcount : count = 0
  · exact .inl ⟨_, by rw [admitSequence, if_pos hcount]; rfl⟩
  by_cases hfree : t.freeHead ≠ freeHeadNone
  · have htake : takeSlot t = .ok t.nextSlot
        { t with freeHead := (t.slot t.freeHead).freeNext } := by
      rw [takeSlot, bind_of_ok hget, if_pos hfree, nextSlot, if_pos hfree]
      rfl
    refine .inr ⟨_, _, ?_, .inl ⟨hfree, rfl, rfl⟩⟩
    rw [admitSequence, if_neg hcount, bind_of_ok htake]
    rfl
  by_cases hroom : t.freeHighWater < t.sequenceCapacity
  · have htake : takeSlot t = .ok t.nextSlot { t with freeHighWater := t.freeHighWater + 1 } := by
      rw [takeSlot, bind_of_ok hget, if_neg hfree, if_pos hroom, nextSlot, if_neg hfree]
      rfl
    have hnone := not_not.mp hfree
    refine .inr ⟨t.freeHead, _, ?_, .inr ⟨hnone, hnone, hroom, rfl⟩⟩
    rw [admitSequence, if_neg hcount, bind_of_ok htake]
    rfl
  · have htake : takeSlot t = .error .capacityExceeded t := by
      rw [takeSlot, bind_of_ok hget, if_neg hfree, if_neg hroom]
      rfl
    exact .inl ⟨_, by rw [admitSequence, if_neg hcount, bind_of_error htake]⟩

theorem resolveHandle_eq (handle : SequenceHandle) (t : BatchSequenceTable) :
    resolveHandle handle t =
      if t.Resolves handle then .ok handle.index t else .error .notFound t :=
  apply_ite (fun m : TableM Nat => m t) _ _ _

theorem onSequence_eq (handle : SequenceHandle) (allowed : SequenceState → Bool)
    (change : BatchSequenceTable → Nat → BatchSequenceTable) (t : BatchSequenceTable) :
    onSequence handle allowed change t =
      if t.Resolves handle then
        if allowed (t.slot handle.index).state then .ok () (change t handle.index)
        else .error .invalidArgument t
      else .error .notFound t := by
  have hresolve := resolveHandle_eq handle t
  by_cases h : t.Resolves handle
  · rw [if_pos h] at hresolve ⊢
    rw [onSequence, bind_of_ok hresolve]
    exact apply_ite (fun m : TableM Unit => m t) _ _ _
  · rw [if_neg h] at hresolve ⊢
    rw [onSequence, bind_of_error hresolve]

variable {allowed : SequenceState → Bool} {change : BatchSequenceTable → Nat → BatchSequenceTable}

theorem finalState_onSequence : finalState (onSequence handle allowed change t) =
    if t.Resolves handle ∧ allowed (t.slot handle.index).state = true then change t handle.index
    else t := by
  rw [onSequence_eq, ite_and]
  split_ifs <;> rfl

theorem onSequence_invariant (P : BatchSequenceTable → Prop) (h : P t)
    (hchange : allowed (t.slot handle.index).state → P (change t handle.index)) :
    P (finalState (onSequence handle allowed change t)) := by
  rw [finalState_onSequence]
  split_ifs with hok
  · exact hchange hok.2
  · exact h

theorem sequenceCapacity_exec (op : TableOp) (t : BatchSequenceTable) :
    (op.exec t).sequenceCapacity = t.sequenceCapacity := by
  cases op with
  | admitSequence q n base count =>
    rw [TableOp.exec]
    obtain ⟨e, he⟩ | ⟨freeHead, freeHighWater, heq, -⟩ := admitSequence_cases q n base count t
    · rw [he]; rfl
    · rw [heq]; rfl
  | beginExchange | pauseForTool | complete =>
    exact onSequence_invariant (·.sequenceCapacity = _) rfl fun _ => rfl

end BatchSequenceTable

/-- The slots, the free list, the high water mark and the counters agree. -/
structure BatchSequenceTable.Recycled (t : BatchSequenceTable) : Prop where
  length : t.sequences.length = t.sequenceCapacity
  bounded : t.sequenceCapacity ≤ maxSequences
  fresh : ∀ i, t.freeHighWater ≤ i → t.slot i = {}
  free : FreeList (fun i => (t.slot i).freeNext) freeHeadNone t.freeHead
    fun i => (t.slot i).state = .complete
  active : t.activeCount = t.sequences.countP (·.state == .active)
  awaiting : t.awaitingToolCount = t.sequences.countP (·.state == .awaitingTool)

namespace BatchSequenceTable.Recycled

attribute [simp] BatchSequence.admitted BatchSequence.resumed BatchSequence.paused
  BatchSequence.completed

variable {t t' : BatchSequenceTable} {i : Nat} {s : BatchSequence} {handle : SequenceHandle}

theorem new {abiVersion sequenceCapacity laneCount : UInt32}
    (h : BatchSequenceTable.new abiVersion sequenceCapacity laneCount = .ok t) : t.Recycled := by
  unfold BatchSequenceTable.new at h
  split at h
  · cases h
  rename_i hnew
  cases h
  have hslot i : (List.replicate sequenceCapacity.toNat ({} : BatchSequence)).getD i {} =
      {} := by
    rw [List.getD_eq_getElem?_getD, List.getElem?_replicate]
    split <;> rfl
  refine ⟨List.length_replicate, by simp only [not_or, not_lt] at hnew; exact hnew.2.2.1,
    fun i _ => hslot i, ⟨[], rfl, .nil, fun i => ?_⟩, ?_, ?_⟩
  · simp [slot]
  · simp [List.countP_replicate]
  · simp [List.countP_replicate]

section

variable (h : t.Recycled)
include h

theorem inUse (hi : (t.slot i).state ≠ .free) : i < t.sequences.length ∧ i < t.freeHighWater := by
  constructor
  · by_contra hlt
    exact hi (by rw [slot, List.getD_eq_default _ _ (not_lt.mp hlt)])
  · by_contra hlt
    exact hi (by rw [h.fresh i (not_lt.mp hlt)])

theorem write (hi : i < t.sequences.length) (hsequences : t'.sequences = t.sequences.set i s)
    (hcapacity : t'.sequenceCapacity = t.sequenceCapacity)
    (hwater : t.freeHighWater ≤ t'.freeHighWater) (hiwater : i < t'.freeHighWater)
    (hfree : FreeList (fun j => (if i = j then s else t.slot j).freeNext) freeHeadNone t'.freeHead
      fun j => (if i = j then s else t.slot j).state = .complete)
    (hactive : t'.activeCount = t.activeCount - (if (t.slot i).state == .active then 1 else 0) +
      if s.state == .active then 1 else 0)
    (hawaiting : t'.awaitingToolCount = t.awaitingToolCount -
      (if (t.slot i).state == .awaitingTool then 1 else 0) +
        if s.state == .awaitingTool then 1 else 0) : t'.Recycled := by
  have hslot := slot_write hsequences hi
  have hold : t.sequences[i] = t.slot i := (List.getD_eq_getElem _ _ hi).symm
  refine ⟨by rw [hsequences, List.length_set, hcapacity, h.length], hcapacity ▸ h.bounded,
    fun j hj => ?_, by simpa only [hslot] using hfree, ?_, ?_⟩
  · rw [hslot, if_neg (by omega), h.fresh j (by omega)]
  · rw [hactive, hsequences, List.countP_set hi, hold, h.active]
  · rw [hawaiting, hsequences, List.countP_set hi, hold, h.awaiting]

theorem free_of_live (hi : (t.slot i).state ≠ .complete) (hs : s.state ≠ .complete) :
    FreeList (fun j => (if i = j then s else t.slot j).freeNext) freeHeadNone t.freeHead
      fun j => (if i = j then s else t.slot j).state = .complete := by
  refine h.free.congr (fun j hj => ?_) fun j => ?_
  · rw [if_neg (by rintro rfl; exact hi hj)]
  · by_cases hj : i = j
    · subst hj
      simp [hi, hs]
    · rw [if_neg hj]

theorem nextSlot_state (hnext : t.freeHead ≠ freeHeadNone ∨
      t.freeHead = freeHeadNone ∧ t.freeHighWater < t.sequenceCapacity) :
    t.nextSlot < t.sequences.length ∧
      ((t.slot t.nextSlot).state = .complete ∧ t.freeHead ≠ freeHeadNone ∧ t.nextSlot = t.freeHead ∨
        t.slot t.nextSlot = {} ∧ t.freeHead = freeHeadNone ∧ t.nextSlot = t.freeHighWater) := by
  rcases hnext with hnext | ⟨hnone, hroom⟩
  · have hslot : t.nextSlot = t.freeHead := if_pos hnext
    have hstate := h.free.head_free hnext
    rw [hslot]
    exact ⟨(h.inUse (by rw [hstate]; simp)).1, .inl ⟨hstate, hnext, rfl⟩⟩
  · have hslot : t.nextSlot = t.freeHighWater := if_neg (not_not.mpr hnone)
    rw [hslot, h.length]
    exact ⟨hroom, .inr ⟨h.fresh _ le_rfl, hnone, rfl⟩⟩

theorem admits (q n base count : Nat) : (∃ e, admitSequence q n base count t = .error e t) ∨
    ∃ t', admitSequence q n base count t =
        .ok (.ofSlot t.nextSlot (t.slot t.nextSlot).generation) t' ∧
      t.nextSlot < t.sequenceCapacity ∧
      ((t.slot t.nextSlot).state = .complete ∨ (t.slot t.nextSlot).state = .free) ∧
      (∀ j, t'.slot j = if t.nextSlot = j then
        (t.slot t.nextSlot).admitted q t.laneCount n base count else t.slot j) ∧ t'.Recycled := by
  refine (admitSequence_cases q n base count t).imp id ?_
  rintro ⟨freeHead, freeHighWater, heq, hnext⟩
  obtain ⟨hi, hstate⟩ := h.nextSlot_state (by tauto)
  refine ⟨_, heq, h.length ▸ hi, hstate.imp And.left fun h' => by rw [h'.1], slot_write rfl hi, ?_⟩
  rcases hstate with ⟨hstate, hne, hslot⟩ | ⟨hstate, hnone, hslot⟩
  · obtain ⟨-, rfl, rfl⟩ := hnext.resolve_right fun h' => hne h'.1
    have hused := h.inUse (by rw [hstate]; simp)
    refine h.write hi rfl rfl le_rfl hused.2 ?_ (by simp [hstate]) (by simp [hstate, setSlot])
    rw [hslot]
    refine h.free.pop hne (fun j _ hj => by rw [if_neg (Ne.symm hj)]) fun j => ?_
    by_cases hj : t.freeHead = j
    · simp [hj]
    · simp [hj, Ne.symm hj]
  · obtain ⟨-, rfl, -, rfl⟩ := hnext.resolve_left fun h' => h'.1 hnone
    refine h.write hi rfl rfl (Nat.le_succ _) (by rw [hslot]; exact Nat.lt_succ_self _) ?_
      (by simp [hstate]) (by simp [hstate, setSlot])
    have hfree := h.free_of_live (i := t.nextSlot) (s := (t.slot t.nextSlot).admitted q
      t.laneCount n base count) (by simp [hstate]) (by simp)
    rwa [hnone] at hfree

theorem exec (op : TableOp) : (op.exec t).Recycled := by
  cases op with
  | admitSequence q n base count =>
    rw [TableOp.exec]
    obtain ⟨e, he⟩ | ⟨t', heq, -, -, -, ht'⟩ := h.admits q n base count
    · rwa [he]
    · rwa [heq]
  | beginExchange handle | pauseForTool handle =>
    refine onSequence_invariant _ h fun hallowed => ?_
    have hstate := eq_of_beq hallowed
    obtain ⟨hi, hwater⟩ := h.inUse (i := handle.index) (by simp [hstate])
    exact h.write hi rfl rfl le_rfl hwater (h.free_of_live (by simp [hstate]) (by simp))
      (by simp [hstate]) (by simp [hstate])
  | complete handle =>
    refine onSequence_invariant _ h fun hallowed => ?_
    have hstate : (t.slot handle.index).state = .active ∨
        (t.slot handle.index).state = .awaitingTool := by simpa using hallowed
    obtain ⟨hi, hwater⟩ := h.inUse (i := handle.index) (by rcases hstate with h | h <;> simp [h])
    have hstop : handle.index ≠ freeHeadNone := by
      have := h.length ▸ h.bounded
      unfold maxSequences at this
      unfold freeHeadNone
      omega
    refine h.write hi rfl rfl le_rfl hwater ?_ ?_ ?_
    · refine h.free.push (by rcases hstate with h | h <;> simp [h]) hstop
        (by simp) (fun j hj => ?_) fun j => ?_
      · rw [if_neg]
        rintro rfl
        rcases hstate with h | h <;> simp [h] at hj
      · by_cases hj : handle.index = j
        · simp [hj]
        · simp [hj, Ne.symm hj]
    · rcases hstate with hstate | hstate <;> simp [hstate]
    · rcases hstate with hstate | hstate <;> simp [hstate]

theorem slot_onSequence {allowed : SequenceState → Bool}
    {change : BatchSequenceTable → Nat → BatchSequenceTable} {f : BatchSequence → BatchSequence}
    (hchange : ∀ i, (change t i).sequences = t.sequences.set i (f (t.slot i))) (j : Nat) :
    (finalState (onSequence handle allowed change t)).slot j =
      if (t.Resolves handle ∧ handle.index = j) ∧ allowed (t.slot j).state = true then f (t.slot j)
      else t.slot j := by
  rw [finalState_onSequence]
  split_ifs with hok hj hj
  · rw [slot_write (hchange _) (h.length ▸ hok.1.1), if_pos hj.1.2, hj.1.2]
  · rw [slot_write (hchange _) (h.length ▸ hok.1.1),
      if_neg fun hindex => hj ⟨⟨hok.1, hindex⟩, hindex ▸ hok.2⟩]
  · obtain ⟨⟨hresolves, rfl⟩, hallowed⟩ := hj
    exact absurd ⟨hresolves, hallowed⟩ hok
  · rfl

theorem generation_le (op : TableOp) (j : Nat) :
    (t.slot j).generation ≤ ((op.exec t).slot j).generation := by
  cases op with
  | admitSequence q n base count =>
    rw [TableOp.exec]
    obtain ⟨e, he⟩ | ⟨t', heq, -, -, hslot, -⟩ := h.admits q n base count
    · rw [he]; rfl
    · rw [heq, finalState_ok, hslot]
      split_ifs with hj
      · rw [← hj]; rfl
      · rfl
  | beginExchange _ appended =>
    rw [TableOp.exec, beginExchange, h.slot_onSequence (f := (·.resumed appended)) fun _ => rfl]
    split <;> exact le_rfl
  | pauseForTool =>
    rw [TableOp.exec, pauseForTool, h.slot_onSequence fun _ => rfl]
    split <;> exact le_rfl
  | complete handle =>
    rw [TableOp.exec, complete, h.slot_onSequence (f := (·.completed t.freeHead)) fun _ => rfl]
    split
    · rename_i hok
      obtain ⟨⟨⟨-, hgeneration⟩, rfl⟩, -⟩ := hok
      have := handle.generation_lt
      simp only [BatchSequence.completed]
      omega
    · exact le_rfl

end

end BatchSequenceTable.Recycled

/-- What an operation does to an admission with the given handle, by itself. -/
def TableOp.follow (handle : SequenceHandle) : Option BatchSequence → TableOp → Option BatchSequence
  | some s, .beginExchange handle' appended =>
    if handle' = handle ∧ s.state = .awaitingTool then some (s.resumed appended) else some s
  | some s, .pauseForTool handle' =>
    if handle' = handle ∧ s.state = .active then some s.paused else some s
  | some s, .complete handle' => if handle' = handle then none else some s
  | s, _ => s

namespace BatchSequenceTable

/-- Slot `i` holds the admission of generation `g`, or has been recycled since. -/
def Tracks (t : BatchSequenceTable) (i g : Nat) : Option BatchSequence → Prop
  | some s => t.slot i = s ∧ s.generation = g ∧ (s.state = .active ∨ s.state = .awaitingTool)
  | none => g < (t.slot i).generation

namespace Tracks

variable {t : BatchSequenceTable} {i g : Nat} {record : Option BatchSequence} {s : BatchSequence}

theorem resolves_iff (h : t.Tracks i g (some s))
    (hi : i < t.sequenceCapacity) (hmax : i < maxSequences) (hg : g < 2 ^ 18)
    (handle : SequenceHandle) :
    t.Resolves handle ∧ handle.index = i ↔ handle = .ofSlot i g := by
  obtain ⟨hslot, hgeneration, -⟩ := h
  rw [SequenceHandle.ext_iff', SequenceHandle.index_ofSlot hmax,
    SequenceHandle.generation_ofSlot hmax, Nat.mod_eq_of_lt hg]
  constructor
  · rintro ⟨⟨-, hresolves⟩, rfl⟩
    exact ⟨rfl, by rw [← hresolves, hslot, hgeneration]⟩
  · rintro ⟨rfl, hhandle⟩
    exact ⟨⟨hi, by rw [hslot, hgeneration, hhandle]⟩, rfl⟩

theorem slot_onSequence {handle : SequenceHandle}
    {allowed : SequenceState → Bool} {change : BatchSequenceTable → Nat → BatchSequenceTable}
    {f : BatchSequence → BatchSequence} (h : t.Tracks i g (some s)) (ht : t.Recycled)
    (hi : i < t.sequenceCapacity) (hg : g < 2 ^ 18)
    (hchange : ∀ i, (change t i).sequences = t.sequences.set i (f (t.slot i))) :
    (finalState (onSequence handle allowed change t)).slot i =
      if handle = .ofSlot i g ∧ allowed s.state = true then f s else s := by
  rw [ht.slot_onSequence hchange, h.1]
  simp only [h.resolves_iff hi (hi.trans_le ht.bounded) hg]

theorem exec (h : t.Tracks i g record) (ht : t.Recycled) (hi : i < t.sequenceCapacity)
    (hg : g < 2 ^ 18) (op : TableOp) :
    (op.exec t).Tracks i g (TableOp.follow (.ofSlot i g) record op) := by
  cases record with
  | none =>
    have : TableOp.follow (.ofSlot i g) none op = none := by cases op <;> rfl
    exact lt_of_lt_of_le h (ht.generation_le op i)
  | some =>
    have hrecord := h
    obtain ⟨rfl, hgeneration, hstate⟩ := hrecord
    cases op with
    | admitSequence q n base count =>
      rw [TableOp.exec]
      obtain ⟨e, he⟩ | ⟨t', heq, -, hidle, hslot, -⟩ := ht.admits q n base count
      · rwa [he]
      · rw [heq]
        refine ⟨(hslot i).trans (if_neg ?_), hgeneration, hstate⟩
        rintro rfl
        rcases hstate with hstate | hstate <;> simp [hstate] at hidle
    | beginExchange handle appended =>
      have hslot : ((TableOp.beginExchange handle appended).exec t).slot i = _ :=
        h.slot_onSequence ht hi hg (f := (·.resumed appended)) fun _ => rfl
      rw [TableOp.follow]
      split_ifs with hok
      · exact ⟨hslot.trans (if_pos (by simpa using hok)), hgeneration, .inl rfl⟩
      · exact ⟨hslot.trans (if_neg (by simpa using hok)), hgeneration, hstate⟩
    | pauseForTool handle =>
      have hslot : ((TableOp.pauseForTool handle).exec t).slot i = _ :=
        h.slot_onSequence ht hi hg fun _ => rfl
      rw [TableOp.follow]
      split_ifs with hok
      · exact ⟨hslot.trans (if_pos (by simpa using hok)), hgeneration, .inr rfl⟩
      · exact ⟨hslot.trans (if_neg (by simpa using hok)), hgeneration, hstate⟩
    | complete handle =>
      have hslot : ((TableOp.complete handle).exec t).slot i = _ :=
        h.slot_onSequence ht hi hg (f := (·.completed t.freeHead)) fun _ => rfl
      rw [TableOp.follow]
      split_ifs with hok
      · have hgrown := congrArg BatchSequence.generation
          (hslot.trans (if_pos ⟨hok, by simpa using hstate⟩))
        refine lt_of_lt_of_eq ?_ hgrown.symm
        simp only [BatchSequence.completed]
        omega
      · exact ⟨hslot.trans (if_neg fun h => hok h.1), hgeneration, hstate⟩

theorem run (h : t.Tracks i g record) (ht : t.Recycled) (hi : i < t.sequenceCapacity)
    (hg : g < 2 ^ 18) (ops : List TableOp) :
    (runAll TableOp.exec t ops).Tracks i g (ops.foldl (TableOp.follow (.ofSlot i g)) record) := by
  induction ops generalizing t record with
  | nil => exact h
  | cons op _ ih =>
    exact ih (h.exec ht hi hg op) (ht.exec op) ((sequenceCapacity_exec op t).symm ▸ hi)

end Tracks

/-- What a handle does: it stands for a record, or every operation refuses it. -/
def StandsFor (t : BatchSequenceTable) (handle : SequenceHandle) : Option BatchSequence → Prop
  | some s => sequence handle t = .ok s t ∧
    (∀ appended, succeeds (beginExchange handle appended t) = (s.state == .awaitingTool)) ∧
    succeeds (pauseForTool handle t) = (s.state == .active) ∧
    succeeds (complete handle t)
  | none => sequence handle t = .error .notFound t ∧
    (∀ appended, beginExchange handle appended t = .error .notFound t) ∧
    pauseForTool handle t = .error .notFound t ∧ complete handle t = .error .notFound t

variable {t : BatchSequenceTable} {handle : SequenceHandle} {i g : Nat}
  {record : Option BatchSequence}

theorem standsFor_none (h : ¬t.Resolves handle) : t.StandsFor handle none := by
  refine ⟨?_, fun appended => ?_, ?_, ?_⟩
  · rw [sequence, bind_of_error ((resolveHandle_eq _ t).trans (if_neg h))]
  · rw [beginExchange, onSequence_eq, if_neg h]
  · rw [pauseForTool, onSequence_eq, if_neg h]
  · rw [complete, onSequence_eq, if_neg h]

theorem Tracks.standsFor (h : t.Tracks i g record) (hi : i < t.sequenceCapacity)
    (hmax : i < maxSequences) (hg : g < 2 ^ 18) : t.StandsFor (.ofSlot i g) record := by
  have hindex : (SequenceHandle.ofSlot i g).index = i := SequenceHandle.index_ofSlot hmax
  have hgeneration : (SequenceHandle.ofSlot i g).generation = g := by
    rw [SequenceHandle.generation_ofSlot hmax, Nat.mod_eq_of_lt hg]
  cases record with
  | none =>
    refine standsFor_none fun hresolves => ?_
    have heq := hresolves.2
    rw [hindex, hgeneration] at heq
    exact absurd heq (ne_of_gt h)
  | some =>
    have hresolves := ((h.resolves_iff hi hmax hg _).mpr rfl).1
    obtain ⟨rfl, -, hstate⟩ := h
    refine ⟨?_, fun appended => ?_, ?_, ?_⟩
    · rw [sequence, bind_of_ok ((resolveHandle_eq _ t).trans (if_pos hresolves)), hindex]
      rfl
    · rw [beginExchange, onSequence_eq, if_pos hresolves, hindex]
      cases (t.slot i).state == .awaitingTool <;> rfl
    · rw [pauseForTool, onSequence_eq, if_pos hresolves, hindex]
      cases (t.slot i).state == .active <;> rfl
    · rw [complete, onSequence_eq, if_pos hresolves, hindex, if_pos (by simpa using hstate)]
      rfl

/-- A handle stands for the record of its admission until that is completed, and for nothing
afterwards. -/
structure HandleSound (start : BatchSequenceTable) (before : List TableOp)
    (handle : SequenceHandle) (record : BatchSequence) (t : BatchSequenceTable) : Prop where
  standsFor : ∀ since, (runAll TableOp.exec t since).StandsFor handle
    (since.foldl (TableOp.follow handle) (some record))
  fresh : ∀ first sequenceId contextTokens fragmentBase fragmentCount between earlier t',
    before = first ++ .admitSequence sequenceId contextTokens fragmentBase fragmentCount ::
      between →
    admitSequence sequenceId contextTokens fragmentBase fragmentCount
      (runAll TableOp.exec start first) = .ok earlier t' → earlier ≠ handle

theorem admitSequence_ok {t' : BatchSequenceTable} (ht : t.Recycled) {q n base count : Nat}
    (h : admitSequence q n base count t = .ok handle t') :
    handle = .ofSlot t.nextSlot (t.slot t.nextSlot).generation ∧ t.nextSlot < t.sequenceCapacity ∧
      ((t.slot t.nextSlot).state = .complete ∨ (t.slot t.nextSlot).state = .free) ∧
      t' = (TableOp.admitSequence q n base count).exec t ∧
      t'.Tracks t.nextSlot (t.slot t.nextSlot).generation
        (some ((t.slot t.nextSlot).admitted q t.laneCount n base count)) := by
  obtain ⟨e, he⟩ | ⟨t', heq, hi, hidle, hslot, -⟩ := ht.admits q n base count
  · rw [he] at h
    cases h
  · rw [TableOp.exec, heq]
    rw [heq] at h
    cases h
    exact ⟨rfl, hi, hidle, rfl, (hslot _).trans (if_pos rfl), rfl, .inl rfl⟩

theorem generation_le_run (ht : t.Recycled) (ops : List TableOp) (j : Nat) :
    (t.slot j).generation ≤ ((runAll TableOp.exec t ops).slot j).generation := by
  induction ops generalizing t with
  | nil => exact le_rfl
  | cons op _ ih => exact (ht.generation_le op j).trans (ih (ht.exec op))

/-- The handle of an admission is never confused and never dies early exactly if the generation
of its slot fits into the eighteen bits that a handle has for it. -/
theorem handle_sound_iff {abiVersion sequenceCapacity laneCount : UInt32}
    {start : BatchSequenceTable}
    (hnew : BatchSequenceTable.new abiVersion sequenceCapacity laneCount = .ok start)
    (before : List TableOp) (t : BatchSequenceTable) (hrun : t = runAll TableOp.exec start before) :
    t.activeCount = t.sequences.countP (·.state == .active) ∧
    t.awaitingToolCount = t.sequences.countP (·.state == .awaitingTool) ∧
    ∀ sequenceId contextTokens fragmentBase fragmentCount handle t',
      admitSequence sequenceId contextTokens fragmentBase fragmentCount t = .ok handle t' →
      (HandleSound start before handle ((t.slot t.nextSlot).admitted sequenceId t.laneCount
          contextTokens fragmentBase fragmentCount) t' ↔
        (t.slot t.nextSlot).generation < 2 ^ 18) := by
  have hstart := Recycled.new hnew
  have hsteps : ∀ ops {s}, Recycled s → Recycled (runAll TableOp.exec s ops) := fun ops _ =>
    runAll_invariant (fun op _ h => h.exec op) ops
  have ht : t.Recycled := hrun ▸ hsteps before hstart
  refine ⟨ht.active, ht.awaiting, fun sequenceId contextTokens fragmentBase fragmentCount handle t'
    hok => ?_⟩
  obtain ⟨rfl, hi, hidle, ht', htracks⟩ := admitSequence_ok ht hok
  have hmax := hi.trans_le ht.bounded
  have hi' : t.nextSlot < t'.sequenceCapacity := by rwa [ht', sequenceCapacity_exec]
  constructor
  · intro hsound
    -- a generation that does not fit is cut off, so the new handle is stale at once
    by_contra hlarge
    have hstale : ¬t'.Resolves (.ofSlot t.nextSlot (t.slot t.nextSlot).generation) := by
      rintro ⟨-, hresolves⟩
      have hfits := (SequenceHandle.ofSlot t.nextSlot (t.slot t.nextSlot).generation).generation_lt
      rw [← hresolves, SequenceHandle.index_ofSlot hmax, htracks.1] at hfits
      exact hlarge hfits
    have hlost := (standsFor_none hstale).1.symm.trans (hsound.standsFor []).1
    cases hlost
  · intro hg
    refine ⟨fun since => ?_, ?_⟩
    · have hrecycled : t'.Recycled := ht' ▸ ht.exec _
      have hcapacity : (runAll TableOp.exec t' since).sequenceCapacity = t'.sequenceCapacity :=
        runAll_invariant (I := (BatchSequenceTable.sequenceCapacity · = _))
          (fun op _ h => (sequenceCapacity_exec op _).trans h) since rfl
      exact (htracks.run hrecycled hi' hg since).standsFor (hcapacity ▸ hi') hmax hg
    intro first sequenceId' contextTokens' fragmentBase' fragmentCount' between earlier t₁ hbefore
      hearlier heq
    have hfirst := hsteps first hstart
    obtain ⟨rfl, hj, -, rfl, htracks₁⟩ := admitSequence_ok hfirst hearlier
    have hu := hfirst.exec (.admitSequence sequenceId' contextTokens' fragmentBase' fragmentCount')
    rw [hbefore, runAll_append] at hrun
    have hindex := congrArg SequenceHandle.index heq
    have hgeneration := congrArg SequenceHandle.generation heq
    have hmax₁ := hj.trans_le hfirst.bounded
    rw [SequenceHandle.index_ofSlot hmax, SequenceHandle.index_ofSlot hmax₁] at hindex
    rw [SequenceHandle.generation_ofSlot hmax, SequenceHandle.generation_ofSlot hmax₁]
      at hgeneration
    have hle : ((runAll TableOp.exec start first).slot t.nextSlot).generation ≤
        (t.slot t.nextSlot).generation := by
      rw [hrun]
      exact generation_le_run hfirst (_ :: between) _
    have hnow := htracks₁.run hu (by rwa [sequenceCapacity_exec]) (by rw [hindex]; omega) between
    rw [show runAll TableOp.exec _ between = t from hrun.symm, hindex] at hnow
    revert hnow
    -- the earlier admission holds the slot still, or the slot has been recycled since
    cases between.foldl (TableOp.follow _) _ with
    | some =>
      rintro ⟨rfl, -, hstate⟩
      rcases hstate with hstate | hstate <;> simp [hstate] at hidle
    | none =>
      intro hlt
      rw [hindex] at hgeneration
      have hlt : _ < (t.slot t.nextSlot).generation := hlt
      omega

/-- A slot that is admitted and completed time and again. -/
def recycling (n : Nat) : List TableOp :=
  (List.range n).flatMap fun g => [.admitSequence 1 0 0 1, .complete (.ofSlot 0 g)]

theorem generation_recycling (n : Nat) (hn : n < 2 ^ 18) : runAll TableOp.exec
      { sequenceCapacity := 1, laneCount := 1, sequences := [{}] } (recycling (n + 1)) =
      { sequenceCapacity := 1, laneCount := 1, freeHead := 0, freeHighWater := 1
        sequences := [{
          sequenceId := 1, state := .complete, laneCount := 1, fragmentCount := 1
          freeNext := freeHeadNone, generation := n + 1 }] } := by
  induction n with
  | zero => decide
  | succ n ih =>
    rw [recycling, List.range_succ, List.flatMap_append, runAll_append, ← recycling, ih (by omega)]
    have hindex : (SequenceHandle.ofSlot 0 (n + 1)).index = 0 :=
      SequenceHandle.index_ofSlot (by decide)
    have hgeneration : (SequenceHandle.ofSlot 0 (n + 1)).generation = n + 1 := by
      rw [SequenceHandle.generation_ofSlot (by decide), Nat.mod_eq_of_lt hn]
    change finalState (complete _ ((TableOp.admitSequence 1 0 0 1).exec _)) = _
    rw [complete, finalState_onSequence, hindex, if_pos]
    · have hmod : (n + 1 + 1) % 2 ^ 32 = n + 1 + 1 := by omega
      rw [← hmod]
      rfl
    · rw [Resolves, hindex, hgeneration]
      exact ⟨⟨Nat.zero_lt_one, rfl⟩, rfl⟩

theorem handle_dead_on_arrival : ∃ start handle t', BatchSequenceTable.new 2 1 1 = .ok start ∧
    admitSequence 1 0 0 1 start = .ok handle ((TableOp.admitSequence 1 0 0 1).exec start) ∧
    admitSequence 1 0 0 1 (runAll TableOp.exec start (recycling (2 ^ 18))) = .ok handle t' ∧
    sequence handle t' = .error .notFound t' := by
  have hrecycled := generation_recycling (2 ^ 18 - 1) (by decide)
  refine ⟨_, ⟨0⟩, _, rfl, rfl, congrArg (admitSequence 1 0 0 1) hrecycled, ?_⟩
  exact (standsFor_none (by decide)).1

/-- The handle of a slot that was recycled is sound, and is not the one of before. -/
theorem handle_sound_recycled : ∃ start handle t',
    BatchSequenceTable.new 2 1 1 = .ok start ∧
    let before := [TableOp.admitSequence 7 16 0 1, .complete (.ofSlot 0 0)]
    let t := runAll TableOp.exec start before
    admitSequence 8 16 0 1 t = .ok handle t' ∧ handle ≠ .ofSlot 0 0 ∧
      HandleSound start before handle ((t.slot 0).admitted 8 1 16 0 1) t' := by
  refine ⟨_, .ofSlot 0 1, _, rfl, rfl, by decide, ?_⟩
  exact ((@handle_sound_iff 2 1 1 _ rfl _ _ rfl).2.2 8 16 0 1 _ _ rfl).mpr (by decide)

/-! ### Capacity -/

/-- Slots below the high water mark have been used. -/
def Filled (t : BatchSequenceTable) : Prop := ∀ i < t.freeHighWater, (t.slot i).state ≠ .free

theorem Filled.exec (hf : t.Filled) (h : t.Recycled) (op : TableOp) : (op.exec t).Filled := by
  cases op with
  | admitSequence q n base count =>
    rw [TableOp.exec]
    obtain ⟨e, he⟩ | ⟨freeHead, freeHighWater, heq, hnext⟩ := admitSequence_cases q n base count t
    · rwa [he]
    · rw [heq, finalState_ok]
      obtain ⟨hi, hstate⟩ := h.nextSlot_state (by tauto)
      intro j hj
      rw [slot_write rfl hi]
      split_ifs with hslot
      · simp
      · have hj : j < freeHighWater := hj
        exact hf j (by omega)
  | beginExchange handle | pauseForTool handle | complete handle =>
    refine onSequence_invariant Filled hf fun hallowed j hj => ?_
    have hi := (h.inUse (i := handle.index) fun hfree => by simp [hfree] at hallowed).1
    rw [slot_write rfl hi]
    split_ifs
    · simp
    · exact hf j hj

/-- In every state of a table, an admission is granted exactly when a slot is left that no live
sequence holds: no completed slot is lost to the free list or to the high water mark. -/
theorem admission_iff_slot_left {abiVersion sequenceCapacity laneCount : UInt32}
    {start : BatchSequenceTable}
    (hnew : BatchSequenceTable.new abiVersion sequenceCapacity laneCount = .ok start)
    (ops : List TableOp) (q n base count : Nat) :
    let t := runAll TableOp.exec start ops
    succeeds (admitSequence q n base count t) = true ↔ count ≠ 0 ∧
      ∃ i < t.sequenceCapacity, (t.slot i).state = .complete ∨ (t.slot i).state = .free := by
  intro t
  have hstart : start.Recycled ∧ start.Filled := by
    refine ⟨.new hnew, ?_⟩
    unfold BatchSequenceTable.new at hnew
    split_ifs at hnew
    cases hnew
    exact fun i hi => absurd hi (Nat.not_lt_zero i)
  obtain ⟨h, hfilled⟩ : t.Recycled ∧ t.Filled :=
    runAll_invariant (I := fun t : BatchSequenceTable => t.Recycled ∧ t.Filled)
      (fun op _ ht => ⟨ht.1.exec op, ht.2.exec ht.1 op⟩) ops hstart
  constructor
  · intro hok
    obtain ⟨e, he⟩ | ⟨t', -, hi, hstate, -⟩ := h.admits q n base count
    · rw [he] at hok
      exact absurd hok Bool.false_ne_true
    · refine ⟨?_, _, hi, hstate⟩
      rintro rfl
      exact absurd hok Bool.false_ne_true
  · rintro ⟨hcount, i, hi, hstate⟩
    refine succeeds_of_wp (Q := fun _ _ => True) ?_
    rw [admitSequence, if_neg hcount, wp_bind, takeSlot, wp_read]
    split_ifs with hfree hroom
    · trivial
    · trivial
    · have hused := hfilled i (hi.trans_le (not_lt.mp hroom))
      have hcomplete := (not_not.mp hfree ▸ h.free).not_free_of_head_eq i
      exact absurd hstate (not_or.mpr ⟨hcomplete, hused⟩)

theorem admission_iff_slot_left_recycled : ∃ start, BatchSequenceTable.new 2 1 1 = .ok start ∧
    succeeds (admitSequence 8 16 0 1 (runAll TableOp.exec start
      [.admitSequence 7 16 0 1, .complete (.ofSlot 0 (start.slot 0).generation)])) = true :=
  ⟨_, rfl, (@admission_iff_slot_left 2 1 1 _ rfl _ 8 16 0 1).mpr
    ⟨by decide, 0, by decide, .inl (by decide)⟩⟩

end BatchSequenceTable
end SparkPipe
