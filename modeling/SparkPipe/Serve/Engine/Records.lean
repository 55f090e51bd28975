import SparkPipe.Program.Basic
import SparkPipe.Program.Chain
import SparkPipe.Serve.Engine.Seams

/-!
# The request records and the event ring of the serving engine

A record holds one accepted request until it is released. The records are chained through a list
of free records and through a hash table over request handles. Flags and budgets of a request are
stored in its record but never read there, and are left out.

An event ring holds at most as many events as it has cells; it is a list here, with the events
that were dropped counted. What was ever pushed is recorded in `EventRing.pushed`, the latest
first; no operation reads that record.
-/

open Program

namespace SparkPipe

/-! ### Events -/

structure EventRing (α : Type) where
  capacity : Nat
  items : List α := []
  droppedEventCount : Nat := 0
  pushed : List α := []
  deriving DecidableEq

namespace EventRing

variable {α : Type}

def freeCount (ring : EventRing α) : Nat := ring.capacity - ring.items.length

def push (event : α) : EStateM ServingStatus (EventRing α) Unit := do
  let ring ← get
  if ring.capacity = 0 then throw .invalidArgument
  else if ring.capacity ≤ ring.items.length then
    set { ring with droppedEventCount := ring.droppedEventCount + 1 }
    throw .capacityExceeded
  else set { ring with items := ring.items ++ [event], pushed := event :: ring.pushed }

end EventRing

inductive ServingEventKind
  | none
  | requestAccepted
  | prefillProgress
  | token
  | requestCompleted
  | requestCancelled
  | error
  | backpressure
  deriving DecidableEq

/-- The event flags, which are always zero, are left out. -/
structure ServingEvent where
  kind : ServingEventKind := .none
  status : ServingStatus := .ok
  tokenId : Nat := 0
  tokenIndex : Nat := 0
  tokenCount : Nat := 0
  promptTokenOffset : Nat := 0
  promptTokenCount : Nat := 0
  dispatchKind : DispatchKind := .none
  dispatchFlags : DispatchFlags := {}
  requestId : Nat := 0
  sequenceId : Nat := 0
  requestHandle : Nat := 0
  deriving DecidableEq

/-! ### Records -/

def noRecordSlot : Nat := 0xffffffff

def recordHashSlots : Nat := 4096

def hash64 (value slotCount : Nat) : Nat := bucketOf value slotCount

inductive RecordState
  | free
  | submitted
  | completed
  | cancelled
  deriving DecidableEq

/-- One request record; the default values are those of a record that was reset. -/
structure RequestRecord where
  state : RecordState := .free
  promptTokenCount : Nat := 0
  tokenCapacity : Nat := 0
  streamedDecodeTokenCount : Nat := 0
  requestId : Nat := 0
  sequenceId : Nat := 0
  requestHandle : Nat := invalidHandle
  handleHashNext : Nat := noRecordSlot
  freeRecordNext : Nat := noRecordSlot
  tokenIds : List Nat := []
  deriving DecidableEq

/-- The link of a record to the next one in its bucket. -/
def recordLink : LinkField RequestRecord where
  next := RequestRecord.handleHashNext
  relink record next := { record with handleHashNext := next }
  next_relink _ _ := rfl

structure RecordTable where
  records : List RequestRecord
  freeRecordHead : Nat
  hashHeads : List Nat
  deriving DecidableEq

namespace RecordTable

variable (t : RecordTable)

variable (recordIndex : Nat)

def record : RequestRecord := t.records.getD recordIndex {}

def setRecord (record : RequestRecord) : RecordTable :=
  { t with records := t.records.set recordIndex record }

def modifyRecord (f : RequestRecord → RequestRecord) :
    RecordTable :=
  t.setRecord recordIndex (f (t.record recordIndex))

def hashHandle (requestHandle : Nat) : Nat := hash64 requestHandle recordHashSlots

def findRecordByHandle (requestHandle : Nat) : Option Nat :=
  if requestHandle = invalidHandle then none
  else
    chainFind recordLink noRecordSlot {} t.records
      (fun record => record.state ≠ .free && record.requestHandle = requestHandle)
      t.records.length (t.hashHeads.getD (hashHandle requestHandle) noRecordSlot)

def insertRecordHash : RecordTable :=
  let requestHandle := (t.record recordIndex).requestHandle
  if requestHandle = invalidHandle then t
  else
    let inserted := chainInsert recordLink noRecordSlot {} t.records t.hashHeads
      (hashHandle requestHandle) recordIndex
    { t with records := inserted.1, hashHeads := inserted.2 }

def removeRecordHash : RecordTable :=
  let requestHandle := (t.record recordIndex).requestHandle
  if requestHandle = invalidHandle then t
  else
    match chainUnlink recordLink noRecordSlot {} t.records t.hashHeads (hashHandle requestHandle)
        recordIndex with
    | none => t
    | some (records, hashHeads) =>
      { t with records, hashHeads }.modifyRecord recordIndex fun record =>
        { record with handleHashNext := noRecordSlot }

def findFreeRecord : Option Nat :=
  if t.freeRecordHead = noRecordSlot ∨ t.records.length ≤ t.freeRecordHead then none
  else if (t.record t.freeRecordHead).state ≠ .free then none
  else some t.freeRecordHead

/-- Take a record off the free chain for an accepted request. -/
def claimRecord (recordIndex requestId sequenceId requestHandle : Nat) :
    RecordTable :=
  let record := t.record recordIndex
  ({ t with freeRecordHead := record.freeRecordNext }.setRecord recordIndex
    { record with
      freeRecordNext := noRecordSlot
      state := .submitted
      requestId
      sequenceId
      requestHandle }).insertRecordHash recordIndex

/-- Reset a record and put it in front of the free chain. -/
def freeRecord (dynamicStorage : Bool) : RecordTable :=
  let record := t.record recordIndex
  { (t.removeRecordHash recordIndex).setRecord recordIndex
      { tokenCapacity := if dynamicStorage then 0 else record.tokenCapacity
        tokenIds := if dynamicStorage then [] else record.tokenIds
        freeRecordNext := t.freeRecordHead } with
    freeRecordHead := recordIndex }

/-- Fresh records, each linked to the next one. -/
def initial (recordCapacity tokenStride : Nat) : RecordTable where
  records := (List.range recordCapacity).map fun recordIndex =>
    { tokenCapacity := tokenStride
      tokenIds := List.replicate tokenStride 0
      freeRecordNext := if recordIndex + 1 < recordCapacity then recordIndex + 1 else noRecordSlot }
  freeRecordHead := 0
  hashHeads := List.replicate recordHashSlots noRecordSlot

end RecordTable

end SparkPipe
