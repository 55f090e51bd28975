import SparkPipe.Sched.Scheduler.Model
import SparkPipe.Serve.RequestApi.Slot

/-!
# What the request API calls but does not implement

The request API drives two components through trait objects: the model's speculator, which
drafts tokens and judges verified ones, and the backend that copies KV blocks to the device. A
component is a state type together with its operations; a method that takes its receiver by
shared reference is a function of the state, every other one a program over it.
-/

namespace SparkPipe

inductive RequestApiError
  | invalidArgument
  | capacityExceeded
  | notFound
  | busy
  | internalError
  | moduleNotValidated
  | hashMismatch
  deriving DecidableEq

def RequestApiError.ofScheduler : SchedulerError → RequestApiError
  | .invalidArgument => .invalidArgument
  | .capacityExceeded => .capacityExceeded
  | .notFound => .notFound
  | .busy => .busy
  | .duplicate => .invalidArgument
  | .moduleNotValidated => .moduleNotValidated
  | .internalError => .internalError

def RequestApiError.ofPrefixCache : PrefixCacheError → RequestApiError
  | .invalidArgument => .invalidArgument
  | .capacityExceeded => .capacityExceeded
  | .notFound => .notFound
  | .busy => .busy
  | .duplicate => .invalidArgument
  | .moduleNotValidated => .moduleNotValidated
  | .internalError => .internalError

/-! ### Prefetch plans -/

def prefetchBlockCapacity : Nat := 1024

def maxPrefetchSourceBlockCount : Nat := prefetchBlockCapacity

def maxPrefetchLaneCount : Nat := 13

/-- The planes of a block that are copied. -/
structure PrefetchBlockFlags where
  key : Bool := false
  value : Bool := false

/-- One block to copy; device addresses are left out. -/
structure PrefetchBlock where
  laneIndex : Nat
  physicalBlockIndex : Nat
  tokenCapacity : Nat
  firstTokenIndex : Nat
  tokenCount : Nat
  flags : PrefetchBlockFlags
  generation : Nat
  parentHash : Nat
  blockHash : Nat
  contentHash : Nat

structure PrefetchPlan where
  laneCount : Nat := 0
  requestedPhysicalBlockCount : Nat := 0
  residentBlockCount : Nat := 0
  duplicateBlockCount : Nat := 0
  missingBlockCount : Nat := 0
  laneBlockCounts : List Nat := List.replicate maxPrefetchLaneCount 0
  blocks : List PrefetchBlock := []

/-- The backend that copies blocks, at once or started and polled. -/
structure KvPrefetchBackend (Backend : Type) where
  prefetch : PrefetchPlan → EStateM RequestApiError Backend Unit
  startPrefetch : Nat → PrefetchPlan → EStateM RequestApiError Backend Unit
  pollPrefetch : Nat → PrefetchPlan → EStateM RequestApiError Backend Unit

/-! ### Speculation -/

/-- Where a draft comes from. -/
inductive SpeculativeSource
  | drafter
  | mtp
  deriving DecidableEq

structure DraftResult where
  tokenCount : Nat := 0
  confidenceMilli : List Nat := List.replicate maxSpeculativeTokens 0
  tokenIds : List Nat := List.replicate maxSpeculativeTokens 0

structure VerifyResult where
  acceptedAll : Bool := false
  rejected : Bool := false
  proposedTokenCount : Nat := 0
  acceptedDraftTokenCount : Nat := 0
  committedTokenCount : Nat := 0
  fallbackTokenId : Nat := 0

structure DraftRequest where
  requestedTokenCount : Nat
  priority : Nat
  requestId : Nat
  sequenceId : Nat
  sequencePosition : Nat
  tapGeneration : Nat

structure RequestModelSeam (Speculator : Type) where
  isValid : Speculator → Bool
  slotCanSpeculate : Speculator → Slot → Bool
  getDraft : Speculator → Nat → Except RequestApiError DraftResult
  markVerifierTapsReady : Nat → Nat → Nat → EStateM RequestApiError Speculator Nat
  defaultSpeculativeTokenCount : Speculator → Nat
  ensureDraft : DraftRequest → EStateM RequestApiError Speculator Unit
  completeVerify : Nat → VerifyResult → EStateM RequestApiError Speculator Unit
  resolveVerifierTokens : List Nat → List Nat → EStateM RequestApiError Speculator VerifyResult
  cancelSequence : Nat → EStateM RequestApiError Speculator Unit

/-- The speculator that never drafts. -/
def nullSpeculator : RequestModelSeam Unit where
  isValid _ := true
  slotCanSpeculate _ _ := false
  getDraft _ _ := .error .notFound
  markVerifierTapsReady _ _ _ := throw .notFound
  defaultSpeculativeTokenCount _ := 0
  ensureDraft _ := throw .notFound
  completeVerify _ _ := pure ()
  resolveVerifierTokens _ _ := throw .notFound
  cancelSequence _ := pure ()

/-- The components that one request API is connected to. -/
structure Seams where
  Speculator : Type
  model : RequestModelSeam Speculator
  Backend : Type
  kvPrefetch : KvPrefetchBackend Backend

/-- No speculation, and a prefetch backend that copies at once. -/
def smallApiSeams : Seams where
  Speculator := Unit
  model := nullSpeculator
  Backend := Unit
  kvPrefetch :=
    { prefetch := fun _ => pure ()
      startPrefetch := fun _ _ => pure ()
      pollPrefetch := fun _ _ => pure () }

end SparkPipe
