import SparkPipe.Sched.MtpTree
import SparkPipe.Sched.StagePlan

/-!
# Work packets and their validation

A work packet tells the ranks of the pipeline what to execute: its lanes name the sequences, the
positions written and the tokens. This module has the packet, its transaction identity, its
canonical bytes with their fingerprint, and the checks a packet passes before anything is done
with it.

The flags are a word of bits. A packet whose lanes are fewer than its lane count makes the code
stop at the first slice of its lanes; it is refused here. The sums of positions and token counts
wrap around as the words of the code do; the sizes in bytes are natural numbers.
-/

namespace SparkPipe

/-- How work control fails. -/
inductive WorkControlError
  | invalidArgument
  | capacityExceeded
  | notFound
  | moduleNotValidated
  | validationFailed
  | abiMismatch
  | busy
  | internalError
  deriving DecidableEq

namespace WorkControl

/-- The version of the packet layout. -/
def abiVersion : Nat := 16

/-- The mark of a packet. -/
def packetMagic : Nat := 0x35574350

/-! ### Flags -/

/-- The packet prefills. -/
def flagPrefill : Nat := 0x01
/-- The packet asks for drafts. -/
def flagMtpDraft : Nat := 0x02
/-- Taps are captured for a drafter. -/
def flagDsparkTapCapture : Nat := 0x04
/-- The packet verifies drafts of DSpark. -/
def flagDsparkSpeculativeVerify : Nat := 0x08
/-- The packet verifies drafts of MTP. -/
def flagMtpSpeculativeVerify : Nat := 0x10
/-- The packet releases its sequences. -/
def flagReleaseSequences : Nat := 0x20
/-- A lane resolves an earlier proposal. -/
def flagMtpResolve : Nat := 0x40
/-- The drafts form a tree. -/
def flagMtpTreeVerify : Nat := 0x80

/-- One more than the largest word of known flags. -/
def knownFlagLimit : Nat := 0x100

/-- No slot of the request API. -/
def invalidRequestSlot : Nat := 2 ^ 32 - 1

/-! ### Phases and identities -/

/-- The phase of a prefill. -/
def phasePrefill : Nat := 1
/-- The phase of a plain decode. -/
def phaseDecode : Nat := 2
/-- The phase of a verification. -/
def phaseVerify : Nat := 3
/-- The phase of a release. -/
def phaseRelease : Nat := 4
/-- The phase of a cancellation. -/
def phaseCancel : Nat := 5

/-- One of the five phases. -/
def phaseIsValid (phase : Nat) : Bool :=
  phasePrefill ≤ phase && phase ≤ phaseCancel

/-- The start of the FNV-1a hash. -/
def fingerprintOffset : Nat := 14695981039346656037

/-- The factor of the FNV-1a hash. -/
def fingerprintPrime : Nat := 1099511628211

/-- The hash of a nonempty string of bytes is never zero. -/
def fingerprintBytes (data : List Nat) : Nat :=
  if data = [] then 0
  else
    let hash := data.foldl
      (fun hash byte => Nat.xor hash byte * fingerprintPrime % 2 ^ 64) fingerprintOffset
    if hash = 0 then 1 else hash

/-- What tells transactions apart. -/
structure Identity where
  controlGeneration : Nat := 0
  transactionId : Nat := 0
  dispatchGeneration : Nat := 0
  requestGeneration : Nat := 0
  stepGeneration : Nat := 0
  stepChunkIndex : Nat := 0
  stepChunkCount : Nat := 0
  transactionPhase : Nat := 0
  deriving DecidableEq

/-- No field is zero but the chunk index, which is in range. -/
def identityIsValid (identity : Identity) : Bool :=
  identity.controlGeneration ≠ 0 && identity.transactionId ≠ 0 &&
    identity.dispatchGeneration ≠ 0 && identity.requestGeneration ≠ 0 &&
    identity.stepGeneration ≠ 0 && identity.stepChunkCount ≠ 0 &&
    identity.stepChunkIndex < identity.stepChunkCount &&
    phaseIsValid identity.transactionPhase

end WorkControl

/-! ### Data -/

/-- The limits of the compiled model and the ranks. -/
structure WorkControlConfig where
  mtpDraftTokenCount : Nat
  dsparkMaxSpeculativeTokenCount : Nat
  maximumContextTokens : Nat
  kvBlockTokens : Nat
  maxPrefillTokensPerPacket : Nat
  outputVocabCount : Nat
  maxLaneCount : Nat
  maxActiveSequenceCount : Nat
  cohortCapacity : Nat
  deriving DecidableEq

/-- The work of a packet on one sequence. -/
structure WorkControlLane where
  requestId : Nat := 0
  requestGeneration : Nat := 0
  stepGeneration : Nat := 0
  sequenceId : Nat := 0
  sequencePosition : Nat := 0
  requestSlotIndex : Nat := 0
  contextTokenCount : Nat := 0
  inputTokenId : Nat := 0
  mtpDraftTokenCount : Nat := 0
  speculativeTokenCount : Nat := 0
  mtpResolutionProposedTokenCount : Nat := 0
  mtpResolutionAcceptedTokenCount : Nat := 0
  mtpResolutionPathId : Nat := 0
  speculativeDraftTokenIds : List Nat := []
  deriving DecidableEq

/-- The fields of a packet, in the order of the wire. -/
structure WorkControlPacket where
  magic : Nat := WorkControl.packetMagic
  abiVersion : Nat := WorkControl.abiVersion
  descriptorBytes : Nat := 0
  flags : Nat := 0
  requestId : Nat := 0
  sequenceId : Nat := 0
  sequencePosition : Nat := 0
  deadlineTimeNs : Nat := 0
  controlGeneration : Nat := 0
  transactionId : Nat := 0
  dispatchGeneration : Nat := 0
  requestGeneration : Nat := 0
  stepGeneration : Nat := 0
  stepChunkIndex : Nat := 0
  stepChunkCount : Nat := 0
  transactionPhase : Nat := 0
  reservedTransaction : Nat := 0
  activeSequenceCount : Nat := 0
  newTokenCount : Nat := 0
  pipelineSlot : Nat := 0
  priority : Nat := 0
  blockTokenCount : Nat := 0
  kvBlockTableTokenCount : Nat := 0
  maxBlocksPerSequence : Nat := 0
  mtpDraftTokenCount : Nat := 0
  inputTokenId : Nat := 0
  speculativeTokenCount : Nat := 0
  speculativeTokenIndex : Nat := 0
  speculativeDraftTokenIds : List Nat := []
  laneCount : Nat := 0
  rowsPerLane : Nat := 0
  executionRowCount : Nat := 0
  executionBatchBucket : Nat := 0
  prefillTokenIds : List Nat := []
  lanes : List WorkControlLane := []
  deriving DecidableEq

namespace WorkControlConfig

variable (config : WorkControlConfig)

/-- The drafts that any drafter proposes. -/
def maxSpeculativeTokenCount : Nat :=
  max config.mtpDraftTokenCount config.dsparkMaxSpeculativeTokenCount

/-- The blocks of the longest context. -/
def kvBlockCapacity : Nat :=
  config.maximumContextTokens / config.kvBlockTokens

/-- Round up to eight bytes. -/
def align8 (value : Nat) : Nat := (value + 7) / 8 * 8

/-- The size of a lane. -/
def laneBytes : Nat :=
  align8 (64 + 4 * config.maxSpeculativeTokenCount)

/-- The size of a packet before its lanes. -/
def packetPrefixBytes : Nat :=
  align8 (164 + 4 * (config.maxSpeculativeTokenCount + config.maxActiveSequenceCount))

/-- The size of a packet, or zero when it has no size. -/
def calculatePacketBytes (activeSequenceCount : Nat) : Nat :=
  if activeSequenceCount = 0 ∨ config.maxActiveSequenceCount < activeSequenceCount then 0
  else
    let packetBytes := config.packetPrefixBytes + activeSequenceCount * config.laneBytes
    if 2 ^ 32 - 1 < packetBytes then 0 else packetBytes

end WorkControlConfig

namespace WorkControlPacket

variable (packet : WorkControlPacket)

/-- Whether a flag is set. -/
def hasFlag (flag : Nat) : Bool :=
  Nat.land packet.flags flag ≠ 0

/-- Whether the packet prefills. -/
def isPrefill : Bool := packet.hasFlag WorkControl.flagPrefill

/-- Whether the packet releases its sequences. -/
def releasesSequences : Bool :=
  packet.hasFlag WorkControl.flagReleaseSequences

/-- A lane; lanes beyond the table are default ones. -/
def lane (laneIndex : Nat) : WorkControlLane :=
  packet.lanes.getD laneIndex {}

/-- The lanes within the lane count. -/
def usedLanes : List WorkControlLane :=
  packet.lanes.take packet.laneCount

/-- Whether the packet verifies drafts of either kind. -/
def isVerify : Bool :=
  packet.hasFlag WorkControl.flagDsparkSpeculativeVerify ||
    packet.hasFlag WorkControl.flagMtpSpeculativeVerify

end WorkControlPacket

namespace WorkControl

/-! ### Transactions -/

variable (packet : WorkControlPacket)

/-- The phase that follows from the flags. -/
def transactionPhase : Nat :=
  if packet.releasesSequences then phaseRelease
  else if packet.isPrefill then phasePrefill
  else if packet.isVerify then phaseVerify
  else phaseDecode

/-- The identity in the fields of a packet. -/
def identity : Identity where
  controlGeneration := packet.controlGeneration
  transactionId := packet.transactionId
  dispatchGeneration := packet.dispatchGeneration
  requestGeneration := packet.requestGeneration
  stepGeneration := packet.stepGeneration
  stepChunkIndex := packet.stepChunkIndex
  stepChunkCount := packet.stepChunkCount
  transactionPhase := packet.transactionPhase

/-- The identity of a packet if it is valid. -/
def getTransactionIdentity : Except WorkControlError Identity :=
  if identityIsValid (identity packet) then .ok (identity packet) else .error .invalidArgument

variable (config : WorkControlConfig)

/-- The checks of the transaction fields, all of which fail in the same way. -/
def transactionFieldsAreValid : Bool :=
  packet.laneCount ≠ 0 && packet.laneCount ≤ config.maxLaneCount &&
    packet.descriptorBytes = config.calculatePacketBytes packet.laneCount &&
    packet.requestGeneration ≠ 0 && packet.reservedTransaction = 0 &&
    identityIsValid (identity packet) &&
    packet.laneCount ≤ packet.lanes.length &&
    packet.transactionPhase = transactionPhase packet &&
    packet.requestGeneration = (packet.lane 0).requestGeneration &&
    packet.usedLanes.all fun lane =>
      lane.requestGeneration ≠ 0 && lane.stepGeneration = packet.stepGeneration

/-! ### Canonical bytes -/

/-- The bytes of a number, the lowest first. -/
def littleEndian : Nat → Nat → List Nat
  | 0, _ => []
  | width + 1, value => value % 256 :: littleEndian width (value / 256)

/-- Four bytes. -/
def word32 (value : Nat) : List Nat := littleEndian 4 value

/-- Eight bytes. -/
def word64 (value : Nat) : List Nat := littleEndian 8 value

/-- Bytes up to a length. -/
def padTo (length : Nat) (bytes : List Nat) : List Nat :=
  bytes.take length ++ List.replicate (length - bytes.length) 0

/-- The bytes of a lane, field by field. -/
def laneCanonicalBytes (lane : WorkControlLane) : List Nat :=
  padTo config.laneBytes
    (word64 lane.requestId ++ word64 lane.requestGeneration ++ word64 lane.stepGeneration ++
      word64 lane.sequenceId ++ word64 lane.sequencePosition ++ word32 lane.requestSlotIndex ++
      word32 lane.contextTokenCount ++ word32 lane.inputTokenId ++
      word32 lane.mtpDraftTokenCount ++ word32 lane.speculativeTokenCount ++
      littleEndian 1 lane.mtpResolutionProposedTokenCount ++
      littleEndian 1 lane.mtpResolutionAcceptedTokenCount ++
      littleEndian 2 lane.mtpResolutionPathId ++ lane.speculativeDraftTokenIds.flatMap word32)

/-- The bytes of a packet before its lanes. -/
def prefixCanonicalBytes : List Nat :=
  let bytes :=
    word32 packet.magic ++ word32 packet.abiVersion ++ word32 packet.descriptorBytes ++
      word32 packet.flags ++ word64 packet.requestId ++ word64 packet.sequenceId ++
      word64 packet.sequencePosition ++ word64 packet.deadlineTimeNs ++
      word64 packet.controlGeneration ++ word64 packet.transactionId ++
      word64 packet.dispatchGeneration ++ word64 packet.requestGeneration ++
      word64 packet.stepGeneration ++ word32 packet.stepChunkIndex ++
      word32 packet.stepChunkCount ++ word32 packet.transactionPhase ++
      word32 packet.reservedTransaction ++ word32 packet.activeSequenceCount ++
      word32 packet.newTokenCount ++ word32 packet.pipelineSlot ++ word32 packet.priority ++
      word32 packet.blockTokenCount ++ word32 packet.kvBlockTableTokenCount ++
      word32 packet.maxBlocksPerSequence ++ word32 packet.mtpDraftTokenCount ++
      word32 packet.inputTokenId ++ word32 packet.speculativeTokenCount ++
      word32 packet.speculativeTokenIndex ++ packet.speculativeDraftTokenIds.flatMap word32 ++
      word32 packet.laneCount ++ word32 packet.rowsPerLane ++ word32 packet.executionRowCount ++
      word32 packet.executionBatchBucket ++ packet.prefillTokenIds.flatMap word32
  padTo (WorkControlConfig.align8 bytes.length) bytes

/-- The bytes that the fingerprint covers. -/
def canonicalBytes : List Nat :=
  prefixCanonicalBytes packet ++ packet.usedLanes.flatMap (laneCanonicalBytes config)

/-- The hash of a packet; zero if its size is out of range. -/
def packetFingerprint : Nat :=
  if packet.descriptorBytes < config.packetPrefixBytes ∨
      config.calculatePacketBytes config.maxLaneCount < packet.descriptorBytes then 0
  else fingerprintBytes (canonicalBytes packet config)

/-! ### Validation -/

/-- The blocks that hold a number of tokens. -/
def blockCount (tokenCount blockTokenCount : Nat) : Nat :=
  if tokenCount = 0 ∨ blockTokenCount = 0 then 0
  else (tokenCount + blockTokenCount - 1) / blockTokenCount

/-- The positions that a lane of the packet writes. -/
def writtenPositionCount : Nat :=
  if packet.hasFlag flagMtpTreeVerify then MtpTree.contextExtension + 1 else packet.newTokenCount

/-- The draft tokens from a position on are zero. -/
def draftsAreZeroFrom (start : Nat) (draftTokenIds : List Nat) :
    Bool :=
  ((draftTokenIds.take config.maxSpeculativeTokenCount).drop start).all (· = 0)

/-- The first draft tokens are words of the model. -/
def draftsAreInVocab (count : Nat) (draftTokenIds : List Nat) :
    Bool :=
  (List.range count).all fun tokenIndex =>
    draftTokenIds.getD tokenIndex 0 < config.outputVocabCount

/-- A lane of a release names its sequence and nothing to execute. -/
def releaseLaneIsValid (packet : WorkControlPacket) (lane : WorkControlLane) : Bool :=
  lane.requestId ≠ 0 && lane.sequenceId ≠ 0 &&
    lane.contextTokenCount ≠ 0 &&
    lane.contextTokenCount ≤ packet.kvBlockTableTokenCount &&
    blockCount lane.contextTokenCount packet.blockTokenCount ≤
      packet.maxBlocksPerSequence &&
    lane.inputTokenId = 0 && lane.mtpDraftTokenCount = 0 &&
    lane.speculativeTokenCount = 0 &&
    lane.mtpResolutionProposedTokenCount = 0 &&
    lane.mtpResolutionAcceptedTokenCount = 0 &&
    lane.mtpResolutionPathId = MtpTree.resolutionNone &&
    draftsAreZeroFrom config 0 lane.speculativeDraftTokenIds

/-- A release has lanes and nothing to execute. -/
def releasePacketIsValid (maxPipelineSlotCount : Nat) : Bool :=
  packet.flags = flagReleaseSequences &&
    packet.descriptorBytes = config.calculatePacketBytes packet.laneCount &&
    packet.activeSequenceCount ≠ 0 &&
    packet.activeSequenceCount ≤ config.maxLaneCount &&
    packet.laneCount = packet.activeSequenceCount &&
    packet.laneCount ≤ config.maxLaneCount &&
    packet.newTokenCount = 0 && packet.pipelineSlot < maxPipelineSlotCount &&
    packet.blockTokenCount ≠ 0 && packet.kvBlockTableTokenCount ≠ 0 &&
    packet.maxBlocksPerSequence ≠ 0 && packet.mtpDraftTokenCount = 0 &&
    packet.inputTokenId = 0 && packet.speculativeTokenCount = 0 &&
    packet.speculativeTokenIndex = 0 && packet.rowsPerLane = 0 &&
    packet.executionRowCount = 0 && packet.executionBatchBucket = 0 &&
    draftsAreZeroFrom config 0 packet.speculativeDraftTokenIds &&
    packet.usedLanes.all (releaseLaneIsValid config packet) &&
    packet.requestId = (packet.lane 0).requestId &&
    packet.sequenceId = (packet.lane 0).sequenceId

/-- The rows of a lane, by the phase. -/
def expectedRowsPerLane : Nat :=
  if packet.isPrefill then packet.newTokenCount
  else if packet.isVerify then
    if packet.hasFlag flagMtpTreeVerify then MtpTree.verifierRowCount
    else (packet.speculativeTokenCount + 1) % 2 ^ 32
  else 1

/-- The shape of a packet that executes rows. -/
def shapeIsValid (maxActiveSequenceCount : Nat) : Bool :=
  (packet.isPrefill ||
      packet.newTokenCount ≤ (config.maxSpeculativeTokenCount + 1) % 2 ^ 32) &&
    (!packet.isPrefill || (packet.newTokenCount ≠ 0 &&
      packet.newTokenCount ≤ config.maxPrefillTokensPerPacket)) &&
    packet.rowsPerLane = expectedRowsPerLane packet &&
    packet.laneCount * expectedRowsPerLane packet ≤ 2 ^ 32 - 1 &&
    packet.laneCount * expectedRowsPerLane packet ≤ maxActiveSequenceCount &&
    packet.executionRowCount = packet.laneCount * expectedRowsPerLane packet &&
    StagePlan.batchBucketIsSupported packet.executionBatchBucket &&
    (if packet.isPrefill then packet.executionRowCount else packet.laneCount) ≤
      packet.executionBatchBucket &&
    packet.inputTokenId < config.outputVocabCount &&
    (!packet.isPrefill || (List.range packet.executionRowCount).all fun row =>
      packet.prefillTokenIds.getD row 0 < config.outputVocabCount) &&
    !(packet.hasFlag flagDsparkSpeculativeVerify && packet.hasFlag flagMtpSpeculativeVerify) &&
    (!packet.hasFlag flagMtpTreeVerify || (packet.hasFlag flagMtpSpeculativeVerify &&
      packet.speculativeTokenCount = MtpTree.candidateCount &&
      packet.rowsPerLane = MtpTree.verifierRowCount)) &&
    packet.mtpDraftTokenCount ≤ config.mtpDraftTokenCount &&
    packet.hasFlag flagMtpDraft = decide (packet.mtpDraftTokenCount ≠ 0)

/-- The drafts of a packet that executes rows. -/
def validateDrafts : Except WorkControlError Unit :=
  if packet.isVerify then
    if packet.isPrefill ∨ packet.newTokenCount ≠ packet.rowsPerLane ∨
        packet.speculativeTokenCount = 0 ∨
        config.maxSpeculativeTokenCount < packet.speculativeTokenCount ∨
        packet.speculativeTokenIndex ≠ 0 ∨
        (packet.hasFlag flagDsparkSpeculativeVerify ∧
          packet.hasFlag flagDsparkTapCapture = false) then
      .error .invalidArgument
    else if packet.hasFlag flagMtpTreeVerify ∧ (packet.hasFlag flagMtpDraft = false ∨
        packet.mtpDraftTokenCount ≠ MtpTree.candidateCount) then
      .error .moduleNotValidated
    else if packet.hasFlag flagMtpTreeVerify = false ∧
        (packet.hasFlag flagMtpDraft ∨ packet.mtpDraftTokenCount ≠ 0) then
      .error .invalidArgument
    else if draftsAreInVocab config packet.speculativeTokenCount packet.speculativeDraftTokenIds &&
        draftsAreZeroFrom config packet.speculativeTokenCount packet.speculativeDraftTokenIds then
      .ok ()
    else .error .invalidArgument
  else if packet.speculativeTokenCount = 0 && packet.speculativeTokenIndex = 0 &&
      draftsAreZeroFrom config 0 packet.speculativeDraftTokenIds then
    .ok ()
  else .error .invalidArgument

/-- Whether a lane resolves an earlier proposal. -/
def laneResolves (lane : WorkControlLane) : Bool :=
  lane.mtpResolutionProposedTokenCount ≠ 0

/-- A lane fits its packet, its drafts and the resolution it reports. -/
def laneIsValid (laneIndex : Nat) (lane : WorkControlLane) : Bool :=
  lane.requestId ≠ 0 && lane.sequenceId ≠ 0 &&
    lane.requestSlotIndex ≠ invalidRequestSlot && lane.contextTokenCount ≠ 0 &&
    (lane.sequencePosition + writtenPositionCount packet) % 2 ^ 64 ≤
      lane.contextTokenCount &&
    lane.contextTokenCount ≤ packet.kvBlockTableTokenCount &&
    blockCount lane.contextTokenCount packet.blockTokenCount ≤
      packet.maxBlocksPerSequence &&
    lane.inputTokenId < config.outputVocabCount &&
    (!packet.isPrefill || (lane.mtpDraftTokenCount = 0 &&
      lane.speculativeTokenCount = 0 &&
      lane.contextTokenCount = (lane.sequencePosition + packet.newTokenCount) % 2 ^ 64 &&
      lane.inputTokenId = packet.prefillTokenIds.getD
        (laneIndex * packet.rowsPerLane + packet.rowsPerLane - 1) 0)) &&
    (if laneResolves lane then
      packet.hasFlag flagMtpResolve &&
        lane.mtpResolutionProposedTokenCount ≤ config.mtpDraftTokenCount &&
        MtpTree.resolutionIsValid lane.mtpResolutionProposedTokenCount
          lane.mtpResolutionAcceptedTokenCount lane.mtpResolutionPathId &&
        lane.mtpResolutionAcceptedTokenCount + 1 ≤ lane.sequencePosition
    else
      lane.mtpResolutionAcceptedTokenCount = 0 &&
        lane.mtpResolutionPathId = MtpTree.resolutionNone) &&
    (if packet.isVerify then
      lane.mtpDraftTokenCount = packet.mtpDraftTokenCount &&
        lane.speculativeTokenCount = packet.speculativeTokenCount &&
        draftsAreInVocab config lane.speculativeTokenCount lane.speculativeDraftTokenIds &&
        draftsAreZeroFrom config lane.speculativeTokenCount lane.speculativeDraftTokenIds
    else
      lane.speculativeTokenCount = 0 &&
        lane.mtpDraftTokenCount = packet.mtpDraftTokenCount &&
        draftsAreZeroFrom config 0 lane.speculativeDraftTokenIds)

/-- The lanes of a packet that executes rows. -/
def lanesAreValid : Bool :=
  packet.usedLanes.zipIdx.all (fun indexed => laneIsValid packet config indexed.2 indexed.1) &&
    packet.hasFlag flagMtpResolve = packet.usedLanes.any laneResolves &&
    packet.requestId = (packet.lane 0).requestId &&
    packet.sequenceId = (packet.lane 0).sequenceId &&
    packet.sequencePosition = (packet.lane 0).sequencePosition &&
    packet.inputTokenId = (packet.lane 0).inputTokenId &&
    (!packet.isVerify ||
      packet.speculativeDraftTokenIds.take config.maxSpeculativeTokenCount =
        (packet.lane 0).speculativeDraftTokenIds.take config.maxSpeculativeTokenCount)

/-- The checks of a packet, in the order of the code. -/
def validatePacket
    (maxActiveSequenceCount maxPipelineSlotCount : Nat) : Except WorkControlError Unit :=
  if packet.magic ≠ packetMagic ∨ packet.abiVersion ≠ abiVersion then .error .abiMismatch
  else if knownFlagLimit ≤ packet.flags ∨ packet.requestId = 0 ∨ packet.sequenceId = 0 ∨
      packet.controlGeneration = 0 then .error .invalidArgument
  else if transactionFieldsAreValid packet config = false then .error .invalidArgument
  else if packet.releasesSequences then
    if releasePacketIsValid packet config maxPipelineSlotCount then .ok ()
    else .error .invalidArgument
  else if packet.activeSequenceCount = 0 ∨ config.maxLaneCount < packet.activeSequenceCount ∨
      packet.laneCount = 0 ∨ config.maxLaneCount < packet.laneCount ∨
      packet.laneCount ≠ packet.activeSequenceCount ∨ packet.newTokenCount = 0 ∨
      maxPipelineSlotCount ≤ packet.pipelineSlot ∨ packet.blockTokenCount = 0 ∨
      packet.kvBlockTableTokenCount = 0 ∨ packet.maxBlocksPerSequence = 0 then
    .error .invalidArgument
  else if config.maxActiveSequenceCount < packet.activeSequenceCount ∨
      packet.descriptorBytes ≠ config.calculatePacketBytes packet.activeSequenceCount ∨
      config.kvBlockCapacity < packet.maxBlocksPerSequence then
    .error .abiMismatch
  else if shapeIsValid packet config maxActiveSequenceCount = false then .error .invalidArgument
  else do
    validateDrafts packet config
    if lanesAreValid packet config then .ok () else .error .invalidArgument

end WorkControl

end SparkPipe
