import SparkPipe.Program.Tombstones
import SparkPipe.Program.Transition
import SparkPipe.Sched.WorkControl.Packet
import SparkPipe.Serve.Engine.Seams

/-!
# The ledger of work transactions

A rank remembers the transactions whose packets it has seen, so that a packet that arrives again is
not executed again. The ledger is a table of fixed size with linear probing from the hash of an
identity. An entry that is recycled leaves a mark, and a new entry goes into the first mark or vacant
cell of its way; if there is none, the terminal entry that was observed longest ago is recycled.

Indices are words of 32 bits and the epoch is a word of 64 bits; both wrap. The counters are exact.
A status is kept as such and not as its code.
-/

open Program

namespace SparkPipe

open WorkControl

/-- The status codes of the daemon are those of the serving engine. -/
abbrev SparkStatus := ServingStatus

/-- The bytes of an identity; the last word is reserved. -/
def identityToWire (identity : Identity) : List Nat :=
  word64 identity.controlGeneration ++ word64 identity.transactionId ++
    word64 identity.dispatchGeneration ++ word64 identity.requestGeneration ++
    word64 identity.stepGeneration ++ word32 identity.stepChunkIndex ++
    word32 identity.stepChunkCount ++ word32 identity.transactionPhase ++ word32 0

def identityFingerprint (identity : Identity) : Nat := fingerprintBytes (identityToWire identity)

/-- Where a transaction is. -/
inductive LedgerState
  | empty
  | prepared
  | accepted
  | executing
  | committed
  | cancelled
  | failed
  | tombstone
  deriving DecidableEq

namespace LedgerState

def isTerminal : LedgerState → Bool
  | committed | cancelled | failed => true
  | _ => false

def isStored : LedgerState → Bool
  | empty | tombstone => false
  | _ => true

/-- The moves of the life cycle. -/
def transitionIsLegal (currentState targetState : LedgerState) : Bool :=
  if currentState = targetState then true
  else
    match currentState, targetState with
    | prepared, accepted | prepared, cancelled | prepared, failed => true
    | accepted, executing | accepted, cancelled | accepted, failed => true
    | executing, committed | executing, cancelled | executing, failed => true
    | _, _ => false

end LedgerState

/-- A transaction the daemon knows. -/
structure LedgerEntry where
  identity : Identity := {}
  payloadFingerprint : Nat := 0
  lastObservedEpoch : Nat := 0
  state : LedgerState := .empty
  terminalStatus : SparkStatus := .ok
  deriving DecidableEq

namespace LedgerEntry

variable (entry : LedgerEntry)

/-- What the cell of an entry shows to a search. -/
def cell : Cell Identity :=
  match entry.state with
  | .empty => .vacant
  | .tombstone => .deleted
  | _ => .held entry.identity

def isActive : Bool :=
  entry.state.isStored && !entry.state.isTerminal

def isTerminal : Bool := entry.state.isTerminal

def isTombstone : Bool := entry.state = .tombstone

def observedAt (epoch : Nat) : LedgerEntry :=
  { entry with lastObservedEpoch := epoch }

/-- An entry that was brought into a state. -/
def moved (epoch : Nat) (targetState : LedgerState) (terminalStatus : SparkStatus) : LedgerEntry :=
  { entry with
    lastObservedEpoch := epoch
    state := targetState
    terminalStatus := if targetState.isTerminal then terminalStatus else .pending }

end LedgerEntry

/-- What observing finds. -/
inductive Observation
  | new
  | replayActive
  | replayTerminal
  | conflict
  deriving DecidableEq

/-- The known transactions. -/
structure TransactionLedger where
  entries : List LedgerEntry
  entryCount : Nat := 0
  activeEntryCount : Nat := 0
  terminalEntryCount : Nat := 0
  tombstoneEntryCount : Nat := 0
  epoch : Nat := 0
  activeControlGeneration : Nat := 0
  deriving DecidableEq

abbrev LedgerM := EStateM SparkStatus TransactionLedger

namespace TransactionLedger

def new (entryCapacity : Nat) : Except SparkStatus TransactionLedger :=
  if entryCapacity = 0 then .error .invalidArgument
  else .ok { entries := List.replicate entryCapacity {} }

variable (ledger : TransactionLedger)

def entryCapacity : Nat := ledger.entries.length

variable (index : Nat)

def entry : LedgerEntry := ledger.entries.getD index {}

def setEntry (entry : LedgerEntry) :
    TransactionLedger :=
  { ledger with entries := ledger.entries.set index entry }

/-- What the cells show to a search. -/
def look : Cell Identity := (ledger.entry index).cell

def isValid : Bool :=
  ledger.entryCapacity ≠ 0 && ledger.entryCount ≤ ledger.entryCapacity &&
    ledger.activeEntryCount ≤ ledger.entryCount &&
    ledger.terminalEntryCount ≤ ledger.entryCount &&
    ledger.tombstoneEntryCount ≤ ledger.entryCapacity &&
    ledger.activeEntryCount + ledger.terminalEntryCount = ledger.entryCount

def validate : LedgerM Unit := do
  if (← get).isValid then pure () else throw .invalidArgument

def startIndex (entryCapacity : Nat) (identity : Identity) : Nat :=
  identityFingerprint identity % entryCapacity

/-- The cells in the order in which an identity is looked for. -/
def probeOrder (entryCapacity : Nat) (identity : Identity) : List Nat :=
  (List.range entryCapacity).map fun probeIndex =>
    (startIndex entryCapacity identity + probeIndex) % 2 ^ 32 % entryCapacity

variable (identity : Identity)

def findInternal : Option Nat :=
  Cell.search ledger.look identity (probeOrder ledger.entryCapacity identity)

def reset (controlGeneration : Nat) : TransactionLedger where
  entries := List.replicate ledger.entryCapacity {}
  activeControlGeneration := controlGeneration

def prepareControlGeneration (controlGeneration : Nat) : LedgerM Unit := do
  let ledger ← get
  if ledger.activeControlGeneration = 0 then set (ledger.reset controlGeneration)
  else if controlGeneration = ledger.activeControlGeneration then pure ()
  else if controlGeneration < ledger.activeControlGeneration then throw .validationFailed
  else if ledger.activeEntryCount ≠ 0 then throw .busy
  else set (ledger.reset controlGeneration)

/-- The terminal entry with the smallest epoch, the first one of several. -/
def oldestTerminalEntry : Option Nat :=
  (ledger.entries.zipIdx.foldl (fun oldest indexed =>
    if indexed.1.isTerminal = true ∧ indexed.1.lastObservedEpoch < oldest.1 then
      (indexed.1.lastObservedEpoch, some indexed.2)
    else oldest) (2 ^ 64 - 1, (none : Option Nat))).2

def recycleOldestTerminalEntry : LedgerM Unit := do
  let ledger ← get
  match ledger.oldestTerminalEntry with
  | none => throw .capacityExceeded
  | some index =>
    set { ledger.setEntry index { state := .tombstone } with
      entryCount := ledger.entryCount - 1
      terminalEntryCount := ledger.terminalEntryCount - 1
      tombstoneEntryCount := ledger.tombstoneEntryCount + 1 }

/-- A mark that is used again is not counted any more. -/
def uncounted : TransactionLedger :=
  if (ledger.entry index).isTombstone then
    { ledger with tombstoneEntryCount := ledger.tombstoneEntryCount - 1 }
  else ledger

/-- The cell of a new entry. -/
def selectInsertionEntry : LedgerM Nat := do
  let ledger ← get
  match Cell.place ledger.look none (probeOrder ledger.entryCapacity identity) with
  | none => throw .capacityExceeded
  | some index =>
    set (ledger.uncounted index)
    pure index

def bumpEpoch : TransactionLedger :=
  { ledger with
    epoch := if (ledger.epoch + 1) % 2 ^ 64 = 0 then 1 else (ledger.epoch + 1) % 2 ^ 64 }

/-- A cell for a new entry, made by recycling if there is none. -/
def makeRoom : LedgerM Nat := do
  match ← (attempt (selectInsertionEntry identity) : LedgerM (Except SparkStatus Nat)) with
  | .ok index => pure index
  | .error .capacityExceeded =>
    recycleOldestTerminalEntry
    selectInsertionEntry identity
  | .error status => throw status

/-- An entry that was found is touched. -/
def observeKnown (index payloadFingerprint : Nat) : LedgerM (Observation × Nat) := do
  let ledger ← get
  let entry := ledger.entry index
  set (ledger.setEntry index (entry.observedAt ledger.epoch))
  if entry.payloadFingerprint ≠ payloadFingerprint then pure (.conflict, index)
  else if entry.isTerminal then pure (.replayTerminal, index)
  else pure (.replayActive, index)

def preparedEntry (payloadFingerprint epoch : Nat) : LedgerEntry where
  identity := identity
  payloadFingerprint := payloadFingerprint
  lastObservedEpoch := epoch
  state := .prepared
  terminalStatus := .pending

variable (payloadFingerprint : Nat)

def observeNew : LedgerM (Observation × Nat) := do
  let index ← makeRoom identity
  let ledger ← get
  set { ledger.setEntry index (preparedEntry identity payloadFingerprint ledger.epoch) with
    entryCount := ledger.entryCount + 1
    activeEntryCount := ledger.activeEntryCount + 1 }
  pure (.new, index)

/-- A transaction is seen. -/
def observe : LedgerM (Observation × Nat) := do
  if payloadFingerprint = 0 then throw .invalidArgument
  else
    validate
    if identityIsValid identity = false then throw .invalidArgument
    else
      prepareControlGeneration identity.controlGeneration
      modify bumpEpoch
      match (← get).findInternal identity with
      | some index => observeKnown index payloadFingerprint
      | none => observeNew identity payloadFingerprint

variable (targetState : LedgerState)

variable (terminalStatus : SparkStatus)

/-- An entry that may move is brought into a state. -/
def moveEntry (ledger : TransactionLedger) : TransactionLedger :=
  let ledger := ledger.bumpEpoch
  let moved := ledger.setEntry index
    ((ledger.entry index).moved ledger.epoch targetState terminalStatus)
  if targetState.isTerminal then
    { moved with
      activeEntryCount := ledger.activeEntryCount - 1
      terminalEntryCount := ledger.terminalEntryCount + 1 }
  else moved

/-- An entry changes state. -/
def transition : LedgerM Unit := do
  validate
  if identityIsValid identity = false then throw .invalidArgument
  else if targetState.isStored = false then throw .invalidArgument
  else
    let ledger ← get
    let index ← orFail .notFound (ledger.findInternal identity)
    let entry := ledger.entry index
    if entry.isTerminal then
      if entry.state = targetState ∧ entry.terminalStatus = terminalStatus then throw .duplicate
      else throw .invalidArgument
    else if LedgerState.transitionIsLegal entry.state targetState = false then
      throw .invalidArgument
    else set (ledger.moveEntry index targetState terminalStatus)

def find : LedgerM LedgerEntry := do
  validate
  if identityIsValid identity = false then throw .invalidArgument
  else
    let ledger ← get
    let index ← orFail .notFound (ledger.findInternal identity)
    pure (ledger.entry index)

/-! ### What the daemon calls -/

def distributedObserve : LedgerM Nat := do
  match ← observe identity payloadFingerprint with
  | (.new, index) => pure index
  | (.conflict, _) => throw .validationFailed
  | (.replayActive, _) | (.replayTerminal, _) => throw .duplicate

def distributedFind : LedgerM LedgerEntry := do
  let entry ← find identity
  if entry.payloadFingerprint ≠ payloadFingerprint then throw .validationFailed else pure entry

/-- An illegal move is reported as a validation failure. -/
def distributedTransition : LedgerM Unit := do
  let _ ← distributedFind identity payloadFingerprint
  match ← (attempt (transition identity targetState terminalStatus) :
      LedgerM (Except SparkStatus Unit)) with
  | .ok _ => pure ()
  | .error .invalidArgument => throw .validationFailed
  | .error status => throw status

end TransactionLedger

inductive LedgerOp
  | observe (identity : Identity) (payloadFingerprint : Nat)
  | transition (identity : Identity) (targetState : LedgerState) (terminalStatus : SparkStatus)

namespace LedgerOp

/-- The arguments that the operations are called with. -/
def IsProper : LedgerOp → Prop
  | .observe identity payloadFingerprint =>
    identityIsValid identity ∧ payloadFingerprint ≠ 0
  | .transition identity _ _ => identityIsValid identity

def exec (op : LedgerOp) (ledger : TransactionLedger) : TransactionLedger :=
  match op with
  | .observe identity payloadFingerprint =>
    finalState (TransactionLedger.observe identity payloadFingerprint ledger)
  | .transition identity targetState terminalStatus =>
    finalState (TransactionLedger.transition identity targetState terminalStatus ledger)

end LedgerOp

end SparkPipe
