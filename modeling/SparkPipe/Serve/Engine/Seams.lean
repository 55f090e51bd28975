import SparkPipe.Serve.RequestApi.Model

/-!
# What the serving engine calls but does not implement

The serving engine drives a request API through a trait object and hands dispatches to callbacks
of its host. Each of these is a state type together with programs over it. Some methods of the
trait take their receiver by shared reference, but the implementations keep the request API
behind a cell and may change it in any of them, so that every method is a program here.

A dispatch record crosses the boundary without the decisions of the scheduler. Its lanes are the
used part of its per-request arrays. Settlements take it by value: no implementation writes to it
there.
-/

namespace SparkPipe

inductive ServingStatus
  | ok
  | invalidArgument
  | capacityExceeded
  | notFound
  | ioError
  | parseError
  | schemaError
  | hashMismatch
  | moduleNotValidated
  | validationFailed
  | abiMismatch
  | targetMismatch
  | compilerError
  | driverLoadError
  | routeNotFound
  | busy
  | duplicate
  | internalError
  | pending
  | unsupported
  deriving DecidableEq

def maxDecodeTokensPerLane : Nat := maxSpeculativeTokens + 1

/-! ### Dispatches -/

structure ServingLane where
  requestHandle : Nat := 0
  requestId : Nat := 0
  speculativeCommittedTokenCount : Nat := 0
  speculativeAcceptedTokenCount : Nat := 0
  speculativeFallbackTokenId : Nat := 0
  speculativeDraftTokenIds : List Nat := List.replicate maxSpeculativeTokens 0
  decodeCommittedTokenCount : Nat := 0

structure ServingDispatch where
  accepted : Bool := false
  kind : DispatchKind := .none
  flags : DispatchFlags := {}
  lanes : List ServingLane := []
  speculativeTokenCount : Nat := 0
  speculativeVerifierTokenCount : Nat := 0
  mtpDraftTokenBudget : Nat := 0

namespace ServingDispatch

variable (dispatch : ServingDispatch)

def requestCount : Nat := dispatch.lanes.length

def isPrefill : Bool :=
  dispatch.kind = .prefill || dispatch.kind = .prefillBatch

def isDecode : Bool :=
  dispatch.kind = .decodeBatch || dispatch.kind = .speculativeVerifyBatch

/-- Whether a decode of this dispatch may report drafts of the prediction heads. -/
def takesDrafts : Bool :=
  (dispatch.kind = .speculativeVerifyBatch && dispatch.flags.mtpSpeculativeVerify) ||
    (dispatch.kind = .decodeBatch && dispatch.flags.mtpCommit)

end ServingDispatch

structure RequestCacheState where
  state : SlotState
  requestId : Nat
  sequenceId : Nat

structure PrefillDispatchLaneView where
  requestIndex : Nat
  promptTokenOffset : Nat
  promptTokenCount : Nat
  requestSlotIndex : Nat
  requestId : Nat
  sequenceId : Nat
  requestHandle : Nat

structure PrefillDispatchView where
  kind : DispatchKind
  activeSequenceCount : Nat
  promptTokenOffset : Nat
  promptTokenCount : Nat
  promptTokenStride : Nat
  laneCount : Nat
  lanes : List PrefillDispatchLaneView

structure DecodeDispatchLaneView where
  requestIndex : Nat
  sequencePosition : Nat
  contextTokenCount : Nat
  requestSlotIndex : Nat
  requestId : Nat
  sequenceId : Nat
  requestHandle : Nat
  mtpResolutionBasePosition : Nat
  mtpResolutionProposedTokenCount : Nat
  mtpResolutionAcceptedTokenCount : Nat
  mtpResolutionCommittedTokenCount : Nat
  mtpResolutionPathId : Nat

structure DecodeDispatchView where
  kind : DispatchKind
  activeSequenceCount : Nat
  laneCount : Nat
  speculativeTokenCount : Nat
  lanes : List DecodeDispatchLaneView

/-- The buffers a block table is written to. -/
structure KvStaging where
  hostPhysicalBlockIndices : List Nat
  lanePhysicalBlockCounts : List Nat

structure KvBlockTableView where
  blockTokenCount : Nat
  laneCount : Nat
  laneStride : Nat
  laneCapacity : Nat
  physicalBlockIndices : Option (List Nat)
  lanePhysicalBlockCounts : Option (List Nat)
  hostPhysicalBlockIndices : List Nat
  hostLanePhysicalBlockCounts : List Nat

/-! ### What the host sees -/

structure ServingPrefillDispatch where
  stepIndex : Nat
  dispatchKind : DispatchKind
  activeSequenceCount : Nat
  laneCount : Nat
  promptTokenOffset : Nat
  promptTokenCount : Nat
  promptTokenStride : Nat
  hostTokenStride : Nat
  hostTokenIds : List Nat
  lanes : List PrefillDispatchLaneView
  kvBlockTableView : KvBlockTableView

structure ServingDecodeDispatch where
  dispatchKind : DispatchKind
  requestCount : Nat
  activeSequenceCount : Nat
  requestDispatch : ServingDispatch
  kvBlockTableView : KvBlockTableView
  decodeView : DecodeDispatchView
  inputTokenIds : List Nat
  speculativeTokenCount : Nat
  speculativeDraftTokenIds : List (List Nat)

/-- What a decode reports for one lane. -/
structure DecodeResultLane where
  tokenCount : Nat := 0
  finishRequest : Bool := false
  tokenStreamSuppressed : Bool := false
  tokenIds : List Nat := List.replicate maxDecodeTokensPerLane 0
  draftTokenCount : Nat := 0
  draftTokenIds : List Nat := List.replicate mtpMaxDraftTokenCount 0

/-- What a decode reports. The lanes beyond the lane count are not read. -/
structure DecodeResult where
  laneCount : Nat
  tokenStride : Nat
  lanes : List DecodeResultLane

namespace DecodeResult

/-- The empty report that a decode callback fills. -/
def new (laneCount tokenStride : Nat) : DecodeResult where
  laneCount
  tokenStride
  lanes := List.replicate laneCount {}

def lane (result : DecodeResult) (laneIndex : Nat) : DecodeResultLane :=
  result.lanes.getD laneIndex {}

def setLane (result : DecodeResult) (laneIndex : Nat) (lane : DecodeResultLane) : DecodeResult :=
  { result with lanes := result.lanes.set laneIndex lane }

end DecodeResult

/-! ### The components -/

structure ServingRequestApi (Api : Type) where
  configurationFlags : Api → RequestApiFlags
  submit : SubmitRequest → EStateM ServingStatus Api Nat
  requestCacheState : Nat → EStateM ServingStatus Api RequestCacheState
  cancelRequest : Nat → EStateM ServingStatus Api Unit
  releaseCompletedRequest : Nat → EStateM ServingStatus Api Unit
  finishRequestGeneration : Nat → EStateM ServingStatus Api Unit
  scheduleNext : EStateM ServingStatus Api ServingDispatch
  describePrefillDispatch : ServingDispatch → EStateM ServingStatus Api PrefillDispatchView
  copyPrefillDispatchTokenIds : ServingDispatch → Nat → Nat →
    EStateM ServingStatus (Api × List Nat) Unit
  buildDispatchKvBlockTableView : ServingDispatch → Option (List Nat) → Nat → Nat →
    EStateM ServingStatus (Api × KvStaging) KvBlockTableView
  describeDecodeDispatch : ServingDispatch → EStateM ServingStatus Api DecodeDispatchView
  resolveSpeculativeVerifyDispatch : ServingDispatch → List Nat → Nat → Nat →
    EStateM ServingStatus Api ServingDispatch
  completeDispatch : ServingDispatch → EStateM ServingStatus Api Unit
  armMtpVerifyDispatch : ServingDispatch → List Nat → Nat → Nat → EStateM ServingStatus Api Unit
  retryDecodeDispatch : ServingDispatch → EStateM ServingStatus Api Unit
  cancelDispatch : ServingDispatch → EStateM ServingStatus Api Unit

/-- The components that one serving engine is connected to. -/
structure EngineSeams where
  Api : Type
  api : ServingRequestApi Api
  Host : Type
  prefillFunction : ServingPrefillDispatch → EStateM ServingStatus Host Unit
  decodeFunction : ServingDecodeDispatch → DecodeResult → EStateM ServingStatus Host DecodeResult
  releaseSequenceFunction : Option (Nat → Nat → Nat → Nat → EStateM ServingStatus Host Unit)

end SparkPipe
