import SparkPipe.Sched.MtpTree

/-!
# Request slots

A slot holds one submitted request from its submission until it is released. This module gives
the slot record, its lifecycle states and the pure predicates on it.

The flags word of a request is a pair of Booleans. Prompt lengths are kept as 32-bit words, all
other counters as natural numbers. The second copy of the committed prefix hash is never written
and is left out.
-/

namespace SparkPipe

/-- The end of a chain of slots. -/
def noSlot : Nat := 0xffffffff

/-- The handle of no request. -/
def invalidHandle : Nat := 0

/-- The draft tokens that a slot can store. -/
def mtpMaxDraftTokenCount : Nat := 8

/-- The draft budget of a new request. -/
def mtpInitialDraftTokenCount : Nat := MtpTree.candidateCount

/-- One over the weight of a new sample. -/
def mtpCommitEmaDivisor : Int := 4

/-- The committed tokens expected at first, times 1000. -/
def mtpCommitEmaInitialMilli : Nat := 2900

/-- Below this average a slot drafts no more. -/
def mtpSuppressThresholdMilli : Nat := 1150

/-- The decodes until a suppressed slot drafts again. -/
def mtpReprobeInterval : Nat := 16

/-- The prefills of one slot in flight. -/
def prefillInflightWaveLimit : Nat := 12

/-- The most tokens that a verification proposes. -/
def maxSpeculativeTokens : Nat := 7

/-- The priority of a request that names none. -/
def defaultPriority : Nat := 1000000

/-- From this priority on a request is realtime. -/
def realtimePriority : Nat := 4000000000

/-- The lifecycle of a request. -/
inductive SlotState
  | free
  | queuedPrefill
  | runningPrefill
  | readyDecode
  | runningDecode
  | completed
  | cancelled
  | waitingPrefixCohort
  | readySpeculativeVerify
  | runningSpeculativeVerify
  deriving DecidableEq

/-- The flags of a submission. -/
structure RequestFlags where
  realtime : Bool := false
  disableSpeculation : Bool := false
  deriving DecidableEq

/-- What a client submits. -/
structure SubmitRequest where
  flags : RequestFlags := {}
  priority : Nat := 0
  promptTokenCount : UInt32
  thinkingTokenBudget : Nat := 0
  outputTokenBudget : Nat := 0
  maxPrefillTokensPerStep : Nat := 0
  requestId : Nat := 0
  sequenceId : Nat := 0
  promptTokenIds : List Nat
  deriving DecidableEq

/-- One request slot; the default values are those of a fresh free slot. -/
structure Slot where
  state : SlotState := .free
  flags : RequestFlags := {}
  priority : Nat := 0
  promptTokenCount : UInt32 := 0
  computedPromptTokenCount : Nat := 0
  dispatchedPromptTokenCount : Nat := 0
  inflightPrefillDispatchCount : Nat := 0
  scheduledPrefillStepCount : Nat := 0
  completedPrefillStepCount : Nat := 0
  maxPrefillTokensPerStep : Nat := 0
  thinkingTokenBudget : Nat := 0
  outputTokenBudget : Nat := 0
  remainingThinkingTokenBudget : Nat := 0
  remainingOutputTokenBudget : Nat := 0
  scheduledDecodeTokenCount : Nat := 0
  completedDecodeTokenCount : Nat := 0
  lastCommittedPrefixTokenCount : Nat := 0
  prefixScanHashedTokenCount : Nat := 0
  prefixScanHash : Nat := 0
  lastCommittedPrefixHash : Nat := 0
  requestId : Nat := 0
  sequenceId : Nat := 0
  handle : Nat := invalidHandle
  submissionOrder : Nat := 0
  handleHashNext : Nat := noSlot
  freeSlotNext : Nat := noSlot
  promptTokenIds : List Nat := []
  mtpDraftTokenCount : Nat := 0
  mtpNextDraftTokenBudget : Nat := 0
  mtpCommitEmaMilli : Nat := mtpCommitEmaInitialMilli
  mtpProbeCountdown : Nat := 0
  mtpResolutionBasePosition : Nat := 0
  mtpResolutionProposedTokenCount : Nat := 0
  mtpResolutionAcceptedTokenCount : Nat := 0
  mtpResolutionCommittedTokenCount : Nat := 0
  mtpResolutionPathId : Nat := 0
  mtpDraftTokenIds : List Nat := List.replicate mtpMaxDraftTokenCount 0
  deriving DecidableEq

namespace Slot

variable (slot : Slot)

/-- Tokens may still be produced. -/
def hasRemainingBudget : Bool :=
  slot.remainingThinkingTokenBudget ≠ 0 || slot.remainingOutputTokenBudget ≠ 0

/-- The slot waits to be dispatched. -/
def isReadyForDispatch : Bool :=
  slot.state = .queuedPrefill ||
    ((slot.state = .readyDecode || slot.state = .readySpeculativeVerify) &&
      slot.hasRemainingBudget)

/-- The request is neither absent nor over. -/
def isActive : Bool :=
  slot.state ≠ .free && slot.state ≠ .completed &&
    slot.state ≠ .cancelled

/-- A prefill may go out, the first or one of a wave. -/
def isSchedulablePrefill : Bool :=
  slot.state = .queuedPrefill ||
    (slot.state = .runningPrefill &&
      slot.dispatchedPromptTokenCount < slot.promptTokenCount.toNat &&
      slot.inflightPrefillDispatchCount < prefillInflightWaveLimit)

/-- A decode may go out; a verification needs drafts. -/
def isSchedulableDecode : Bool :=
  (slot.state = .readyDecode ||
    (slot.state = .readySpeculativeVerify && slot.mtpDraftTokenCount ≠ 0)) &&
    slot.hasRemainingBudget

/-- A verification may go out. -/
def isSchedulableSpeculativeVerify : Bool :=
  slot.state = .readySpeculativeVerify && slot.hasRemainingBudget

/-- By its flag or its priority. -/
def hasRealtimePriority : Bool :=
  slot.flags.realtime || realtimePriority ≤ slot.priority

/-- Higher priority first, then earlier submission. -/
def hasHigherSchedulingPriorityThan (slot current : Slot) : Bool :=
  if slot.priority ≠ current.priority then current.priority < slot.priority
  else slot.submissionOrder < current.submissionOrder

/-- Two slots rank equal. -/
def hasSameSchedulingPriority (slot other : Slot) : Bool := slot.priority == other.priority

/-- The sum of two 32-bit words, which wraps. -/
def remainingDecodeBudget : Nat :=
  (slot.remainingThinkingTokenBudget + slot.remainingOutputTokenBudget) % 2 ^ 32

/-- The resolution fields of a slot whose last step verified no draft tree. -/
def clearMtpResolution : Slot :=
  { slot with
    mtpResolutionBasePosition := 0
    mtpResolutionProposedTokenCount := 0
    mtpResolutionAcceptedTokenCount := 0
    mtpResolutionCommittedTokenCount := 0
    mtpResolutionPathId := MtpTree.resolutionNone }

/-- The slot has no drafts. -/
def clearMtpDraft : Slot :=
  { slot with
    mtpDraftTokenIds := List.replicate mtpMaxDraftTokenCount 0
    mtpDraftTokenCount := 0 }

/-- Thinking tokens are spent first. -/
def consumeDecodeBudget (committedTokenCount : Nat) : Slot :=
  let consumedThinking := min committedTokenCount slot.remainingThinkingTokenBudget
  { slot with
    remainingThinkingTokenBudget := slot.remainingThinkingTokenBudget - consumedThinking
    remainingOutputTokenBudget :=
      slot.remainingOutputTokenBudget - (committedTokenCount - consumedThinking) }

end Slot

/-- What is reported about the cache of one request. -/
structure CacheState where
  state : SlotState
  computedPromptTokenCount : Nat
  lastCommittedPrefixTokenCount : Nat
  physicalBlockCount : Nat
  requestId : Nat
  sequenceId : Nat
  lastCommittedPrefixHash : Nat

end SparkPipe
