import SparkPipe.Serve.RequestApi.Selection

/-!
# Speculative decoding

What the request API does about drafts: whether a decode batch should produce drafts, how a slot
goes on after a decode step or a verification, how drafts of the prediction heads are stored in
their slots, and how the outcome of a verification is read off the verifier's tokens.

A program over `Scheduling` also writes to a dispatch record that its caller owns; what was
written to the record before an error stays there.
-/

open Program

namespace SparkPipe

def mtpUtilityScale : Nat := 1000

def mtpUtilityMarginScale : Nat := 1250

def mtpDraftChainWorkMultiplier : Nat := 2

def mtpUtilityPriorCommittedTokenCount : Nat := MtpTree.maxCommittedTokenCount / 2

def mtpUtilityPriorSampleCount : Nat := StagePlan.currentSparkCount

/-- Whether a dispatch leaves drafts of the prediction heads for its lanes. -/
def Dispatch.isMtpProducer (dispatch : Dispatch) : Bool :=
  dispatch.kind = .decodeBatch && dispatch.flags.mtpCommit

def Dispatch.isMtpVerify (dispatch : Dispatch) : Bool :=
  dispatch.kind = .speculativeVerifyBatch && dispatch.flags.mtpSpeculativeVerify

/-- A request API together with the dispatch record that an operation fills. -/
structure Scheduling (E : Seams) where
  api : RequestApi E
  dispatch : Dispatch

/-- Programs that fill a dispatch record. -/
abbrev ScheduleM (E : Seams) := EStateM RequestApiError (Scheduling E)

namespace RequestApi

variable {E : Seams}

def onApi {α : Type} (m : ApiM E α) : ScheduleM E α :=
  onPart Scheduling.api (fun s api => { s with api }) id m

def modifyDispatch (f : Dispatch → Dispatch) : ScheduleM E Unit :=
  modify fun s => { s with dispatch := f s.dispatch }

/-! ### The use of drafts -/

/-- A cycle that is only partly resolved is not counted. -/
def mtpResolvedRequestCount (runtime : Runtime E) : Nat × Nat :=
  ((runtime.mtpAcceptedDraftTokenCount + runtime.mtpRejectedTokenCount) / MtpTree.candidateCount,
    runtime.mtpCommittedTokenCount)

def mtpExpectedCommittedTokensScaled (runtime : Runtime E) : Nat :=
  let (resolvedRequestCount, committedTokenCount) := mtpResolvedRequestCount runtime
  (committedTokenCount + mtpUtilityPriorSampleCount * mtpUtilityPriorCommittedTokenCount) *
    mtpUtilityScale / (resolvedRequestCount + mtpUtilityPriorSampleCount)

/-- Compares plain decoding with a cycle of drafting and verifying. The products wrap. -/
def mtpOutranksPlainDecode (settings : RequestApiSettings) (runtime : Runtime E)
    (plainRequestCount mtpRequestCount : Nat) : Bool :=
  let rowCapacity := settings.decodeExecutionRowCapacity
  if plainRequestCount = 0 ∨ mtpRequestCount = 0 then false
  else if settings.configurationFlags.mtpForceEnable then true
  else
    match runtime.scheduler.estimateDecodeWorkNs plainRequestCount 1 rowCapacity,
        runtime.scheduler.estimateDecodeWorkNs mtpRequestCount MtpTree.verifierRowCount
          rowCapacity with
    | .ok plainWorkNs, .ok mtpWorkNs =>
      let draftChainWorkNs := plainWorkNs * mtpDraftChainWorkMultiplier
      if (2 ^ 64 - 1) / mtpDraftChainWorkMultiplier < plainWorkNs ∨
          2 ^ 64 - 1 - draftChainWorkNs < mtpWorkNs then false
      else
        decide (mtpUtilityMarginScale * plainRequestCount * (mtpWorkNs + draftChainWorkNs) %
            2 ^ 64 <
          mtpExpectedCommittedTokensScaled runtime * mtpRequestCount * plainWorkNs % 2 ^ 64)
    | _, _ => false

variable (slot : Slot)

/-- Whether a slot of a decode batch may get a draft after the step. -/
def slotTakesDraft : Bool :=
  !slot.flags.disableSpeculation &&
    MtpTree.maxCommittedTokenCount + 1 ≤ slot.remainingDecodeBudget &&
    slot.mtpNextDraftTokenBudget = MtpTree.candidateCount

/-- Either every slot of a decode batch takes a draft or none does. -/
def decodeBatchMtpBudget (settings : RequestApiSettings) (slots : List Slot) (runtime : Runtime E)
    (selectedSlots : List Nat) : Nat :=
  if settings.mtpCommitIsEnabled = false ∨ selectedSlots = [] ∨
      mtpOutranksPlainDecode settings runtime selectedSlots.length selectedSlots.length = false then
    0
  else if selectedSlots.all fun slotIndex => slotTakesDraft (slots.getD slotIndex {}) then
    min mtpMaxDraftTokenCount MtpTree.candidateCount
  else 0

/-- A slot that is decoded plainly loses the draft it waited with. -/
def discardMtpDraft : Slot :=
  if slot.state ≠ .readySpeculativeVerify ∨ slot.mtpDraftTokenCount = 0 then slot
  else { slot.clearMtpDraft with state := .readyDecode }

/-! ### The end of a step -/

/-- Asks the drafter for a draft within the remaining budget. -/
def prepareDraftForSlot (slotIndex : Nat) : ApiM E Unit := do
  let api ← get
  let slot := api.table.slot slotIndex
  let remainingBudget := slot.remainingDecodeBudget
  if api.runtime.slotCanSpeculate api.toRequestApiSettings slot = false ∨ remainingBudget = 0 then
    throw .notFound
  else
    let sequencePosition := slot.computedPromptTokenCount + slot.completedDecodeTokenCount
    let tapGeneration ← onRuntime (onSpeculator .notFound
      (E.model.markVerifierTapsReady slot.requestId slot.sequenceId sequencePosition))
    let speculator ← orFail .notFound (← get).runtime.modelSpeculator
    let defaultTokenCount := E.model.defaultSpeculativeTokenCount speculator
    let requestedTokenCount :=
      if remainingBudget < defaultTokenCount + 1 then remainingBudget - 1 else defaultTokenCount
    if requestedTokenCount = 0 then throw .notFound
    else
      onRuntime (onSpeculator .notFound (E.model.ensureDraft {
        requestedTokenCount
        priority := slot.priority
        requestId := slot.requestId
        sequenceId := slot.sequenceId
        sequencePosition
        tapGeneration }))
      modifyTable fun t =>
        t.setSlot slotIndex { t.slot slotIndex with state := .readySpeculativeVerify }

/-- The table after a lane of a decode step or a verification ended. -/
def endDecodeLane (t : SlotTable) (slotIndex : Nat) (slot : Slot) : SlotTable :=
  let ended := slot.hasRemainingBudget = false
  let t := { t with runningRequestCount := wrappingPred t.runningRequestCount }
  { t.setSlot slotIndex { slot with state := if ended then .completed else .readyDecode } with
    completedRequestCount := t.completedRequestCount + if ended then 1 else 0 }

/-- Ends a lane; a slot that goes on asks for a draft, which may fail. -/
def finishDecodeLane (slotIndex : Nat) (slot : Slot) : ApiM E Unit := do
  modifyTable (endDecodeLane · slotIndex slot)
  if slot.hasRemainingBudget then
    match ← attempt (prepareDraftForSlot slotIndex) with
    | .ok _ => pure ()
    | .error .notFound => pure ()
    | .error _ =>
      modifyTable fun t => t.setSlot slotIndex { t.slot slotIndex with state := .readyDecode }

variable (committedTokenCount : Nat)

/-- The countdown after which a slot without drafts tries them again. -/
def countDownMtpProbe : Slot :=
  if slot.mtpNextDraftTokenBudget = 0 ∧ slot.mtpProbeCountdown ≠ 0 then
    if committedTokenCount < slot.mtpProbeCountdown then
      { slot with mtpProbeCountdown := slot.mtpProbeCountdown - committedTokenCount }
    else
      { slot with mtpProbeCountdown := 0, mtpNextDraftTokenBudget := MtpTree.candidateCount }
  else slot

def commitDecodedTokens : Slot :=
  { slot.consumeDecodeBudget committedTokenCount with
    completedDecodeTokenCount := slot.completedDecodeTokenCount + committedTokenCount }

def finishSlotAfterDecode (slotIndex committedTokenCount : Nat) : ApiM E Unit := do
  let slot := (← get).table.slot slotIndex
  finishDecodeLane slotIndex
    (commitDecodedTokens (countDownMtpProbe slot.clearMtpResolution committedTokenCount)
      committedTokenCount)

/-- The running average of committed tokens; the division truncates toward zero. -/
def updateMtpCommitEma : Slot :=
  let delta : Int := (committedTokenCount * 1000 : Nat) - (slot.mtpCommitEmaMilli : Int)
  let ema := (slot.mtpCommitEmaMilli + delta.tdiv mtpCommitEmaDivisor).toNat
  if ema < mtpSuppressThresholdMilli then
    { slot with
      mtpCommitEmaMilli := ema
      mtpNextDraftTokenBudget := 0
      mtpProbeCountdown := mtpReprobeInterval }
  else
    { slot with
      mtpCommitEmaMilli := ema
      mtpNextDraftTokenBudget := MtpTree.candidateCount
      mtpProbeCountdown := 0 }

/-- What a lane of a verification reports. -/
structure VerifiedLane where
  proposedTokenCount : Nat
  acceptedDraftTokenCount : Nat
  committedTokenCount : Nat
  fallbackTokenId : Nat
  resolutionPathId : Nat
  mtpVerify : Bool

namespace VerifiedLane

variable (lane : VerifiedLane)

def isValid (slot : Slot) : Bool :=
  lane.proposedTokenCount ≠ 0 &&
  lane.proposedTokenCount ≤ maxSpeculativeTokens &&
  lane.acceptedDraftTokenCount ≤ lane.proposedTokenCount &&
  lane.committedTokenCount ≠ 0 &&
  lane.committedTokenCount ≤ lane.proposedTokenCount + 1 &&
  lane.committedTokenCount ≤ slot.remainingDecodeBudget &&
  (!lane.mtpVerify ||
    (lane.proposedTokenCount = MtpTree.candidateCount &&
      lane.acceptedDraftTokenCount ≤ MtpTree.contextExtension &&
      lane.committedTokenCount = lane.acceptedDraftTokenCount + 1 &&
      lane.committedTokenCount ≤ MtpTree.maxCommittedTokenCount &&
      lane.resolutionPathId < MtpTree.resolutionCount &&
      MtpTree.acceptedTokenCount lane.resolutionPathId = lane.acceptedDraftTokenCount &&
      slot.computedPromptTokenCount ≠ 0))

def verifyResult : VerifyResult where
  acceptedAll := lane.acceptedDraftTokenCount = lane.proposedTokenCount
  rejected := lane.acceptedDraftTokenCount ≠ lane.proposedTokenCount
  proposedTokenCount := lane.proposedTokenCount
  acceptedDraftTokenCount := lane.acceptedDraftTokenCount
  committedTokenCount := lane.committedTokenCount
  fallbackTokenId := lane.fallbackTokenId

/-- A slot whose stored draft was verified keeps how the tree was resolved. -/
def resolveMtpSlot (slot : Slot) : Slot :=
  { (updateMtpCommitEma slot lane.committedTokenCount).clearMtpDraft with
    mtpResolutionBasePosition :=
      slot.computedPromptTokenCount + slot.completedDecodeTokenCount - 1
    mtpResolutionProposedTokenCount := lane.proposedTokenCount
    mtpResolutionAcceptedTokenCount := lane.acceptedDraftTokenCount
    mtpResolutionCommittedTokenCount := lane.committedTokenCount
    mtpResolutionPathId := lane.resolutionPathId }

/-- The tokens of the accepted and the rejected part are counted. -/
def countMtpTokens (runtime : Runtime E) : Runtime E :=
  { runtime with
    mtpAcceptedDraftTokenCount :=
      runtime.mtpAcceptedDraftTokenCount + lane.acceptedDraftTokenCount
    mtpCommittedTokenCount := runtime.mtpCommittedTokenCount + lane.committedTokenCount
    mtpRejectedTokenCount :=
      runtime.mtpRejectedTokenCount + (lane.proposedTokenCount - lane.acceptedDraftTokenCount) }

end VerifiedLane

/-- A slot whose drafted tokens were verified loses what it knew about a tree. -/
def resolveDrafterSlot : Slot :=
  if slot.mtpDraftTokenCount ≠ 0 then slot.clearMtpResolution.clearMtpDraft
  else slot.clearMtpResolution

def finishSlotAfterSpeculativeVerify (slotIndex : Nat) (lane : VerifiedLane) : ApiM E Unit := do
  let slot := (← get).table.slot slotIndex
  if lane.isValid slot = false then throw .invalidArgument
  else if lane.mtpVerify then
    if slot.mtpDraftTokenCount ≠ lane.proposedTokenCount then throw .invalidArgument
    else
      let resolved := lane.resolveMtpSlot slot
      modifyTable (SlotTable.setSlot · slotIndex resolved)
      onRuntime (modify lane.countMtpTokens)
      finishDecodeLane slotIndex (commitDecodedTokens resolved lane.committedTokenCount)
  else if lane.resolutionPathId ≠ MtpTree.resolutionNone then
    -- all resolution fields but the path were written before the path is checked
    modifyTable (SlotTable.setSlot · slotIndex
      { slot.clearMtpResolution with mtpResolutionPathId := slot.mtpResolutionPathId })
    throw .invalidArgument
  else
    let resolved := resolveDrafterSlot slot
    modifyTable (SlotTable.setSlot · slotIndex resolved)
    onRuntime (onSpeculator .notFound (E.model.completeVerify slot.sequenceId lane.verifyResult))
    finishDecodeLane slotIndex (commitDecodedTokens resolved lane.committedTokenCount)

/-! ### Storing drafts -/

/-- The slot of a lane that is to get a draft. -/
def checkArmedLane (lane : DispatchLane) : ApiM E Unit := do
  let slotIndex ← findSlot .invalidArgument lane.requestHandle
  let slot := (← get).table.slot slotIndex
  if slot.state = .completed ∨ slot.remainingDecodeBudget < MtpTree.maxCommittedTokenCount then
    throw .notFound
  else if (slot.state ≠ .readyDecode ∧ slot.state ≠ .readySpeculativeVerify) ∨
      slot.mtpDraftTokenCount ≠ 0 then
    throw .invalidArgument
  else if slot.mtpNextDraftTokenBudget = 0 then throw .notFound
  else if slot.mtpNextDraftTokenBudget ≠ MtpTree.candidateCount then throw .moduleNotValidated

/-- The slot with a draft stored in it. -/
def armedSlot (draftTokenIds : List Nat) : Slot :=
  { slot with
    state := .readySpeculativeVerify
    mtpDraftTokenCount := MtpTree.candidateCount
    mtpDraftTokenIds := draftTokenIds.take MtpTree.candidateCount ++
      List.replicate (mtpMaxDraftTokenCount - MtpTree.candidateCount) 0 }

variable (dispatch : Dispatch)

/-- All lanes are checked before the first draft is stored. -/
def armMtpVerifyDispatch (draftTokenIds : List Nat)
    (laneStride draftTokenCount : Nat) : ApiM E Unit := do
  validate
  if dispatch.accepted = false ∨ (dispatch.isMtpProducer = false ∧ dispatch.isMtpVerify = false) ∨
      dispatch.requestCount = 0 ∨ maxDispatchRequestCount < dispatch.requestCount ∨
      draftTokenIds = [] ∨ draftTokenCount = 0 ∨ mtpMaxDraftTokenCount < draftTokenCount ∨
      (dispatch.isMtpProducer ∧ dispatch.mtpDraftTokenBudget < draftTokenCount) ∨
      laneStride < draftTokenCount ∨
      draftTokenIds.length < (dispatch.requestCount - 1) * laneStride + draftTokenCount then
    throw .invalidArgument
  else if draftTokenCount ≠ MtpTree.candidateCount ∨
      dispatch.mtpDraftTokenBudget ≠ MtpTree.candidateCount ∨
      (dispatch.isMtpVerify ∧ dispatch.flags.mtpTreeVerify = false) then
    throw .moduleNotValidated
  else
    forM dispatch.lanes checkArmedLane
    forM dispatch.lanes.zipIdx fun (lane, requestIndex) => do
      let slotIndex ← findSlot .invalidArgument lane.requestHandle
      modifyTable fun t =>
        t.setSlot slotIndex
          (armedSlot (t.slot slotIndex) (draftTokenIds.drop (requestIndex * laneStride)))

/-! ### The outcome of a verification -/

structure MtpTreeResolution where
  pathId : Nat
  acceptedTokenCount : Nat
  committedTokenCount : Nat
  fallbackRowIndex : Nat

/-- The first child of a row whose candidate is the token that the row was verified to. -/
def findMatchedChild (candidateTokenIds verifierTokenIds : List Nat) (currentRow : Nat) :
    List Nat → Except RequestApiError (Option Nat)
  | [] => .ok none
  | childRow :: rest =>
    match MtpTree.nodeAt childRow with
    | none => .error .internalError
    | some child =>
      if verifierTokenIds.getD currentRow 0 ≠ candidateTokenIds.getD child.candidateIndex 0 then
        findMatchedChild candidateTokenIds verifierTokenIds currentRow rest
      else .ok (some childRow)

/-- Walks down the tree; the rows of a path grow, which bounds the rounds. -/
def walkMtpTree (candidateTokenIds verifierTokenIds : List Nat) :
    Nat → Nat → Except RequestApiError Nat
  | 0, currentRow => .ok currentRow
  | rounds + 1, currentRow => do
      match MtpTree.nodeAt currentRow with
      | none => throw .internalError
      | some node =>
        match ← findMatchedChild candidateTokenIds verifierTokenIds currentRow
            (List.range' node.childRowBase node.childCount) with
        | none => return currentRow
        | some childRow => walkMtpTree candidateTokenIds verifierTokenIds rounds childRow

def mtpTreeResolve (candidateTokenIds verifierTokenIds : List Nat) (outputVocabCount : Nat) :
    Except RequestApiError MtpTreeResolution := do
  if (candidateTokenIds ++ verifierTokenIds).any fun tokenId =>
      decide (outputVocabCount ≤ tokenId) then
    throw .invalidArgument
  let pathId ← walkMtpTree candidateTokenIds verifierTokenIds MtpTree.verifierRowCount 0
  return {
    pathId
    acceptedTokenCount := MtpTree.acceptedTokenCount pathId
    committedTokenCount := MtpTree.acceptedTokenCount pathId + 1
    fallbackRowIndex := MtpTree.fallbackRowIndex pathId }

section Walk

/-- The rows below a row. -/
def childRows (row : Nat) : List Nat :=
  (MtpTree.nodeAt row).elim [] fun node => List.range' node.childRowBase node.childCount

theorem tree_wellFormed : ∀ row < MtpTree.verifierRowCount,
    MtpTree.acceptedTokenCount row < MtpTree.maxCommittedTokenCount ∧
    MtpTree.resolutionIsValid MtpTree.candidateCount (MtpTree.acceptedTokenCount row) row ∧
    MtpTree.fallbackRowIndex row = row ∧
    ∀ childRow ∈ childRows row, childRow < MtpTree.verifierRowCount ∧
      MtpTree.acceptedTokenCount childRow = MtpTree.acceptedTokenCount row + 1 := by
  decide

theorem exists_nodeAt {row : Nat} (h : row < MtpTree.verifierRowCount) :
    ∃ node, MtpTree.nodeAt row = some node :=
  ⟨_, List.getElem?_eq_getElem h⟩

variable (candidates verified : List Nat)

/-- The candidate of a row is the token that the row above it was verified to. -/
def IsMatched (row childRow : Nat) : Prop := verified.getD row 0 =
  candidates.getD ((MtpTree.nodeAt childRow).elim 0 MtpTree.Node.candidateIndex) 0

instance (row : Nat) : DecidablePred (IsMatched candidates verified row) :=
  fun _ => inferInstanceAs (Decidable (_ = _))

/-- The rows that the verified tokens lead to, with the number of candidates on the way. -/
inductive LeadsTo : Nat → Nat → Prop
  | root : LeadsTo 0 0
  | child {row count childRow : Nat} (h : LeadsTo row count) (hchild : childRow ∈ childRows row)
      (hmatched : IsMatched candidates verified row childRow) : LeadsTo childRow (count + 1)

/-- The verified tokens lead to a row and to no row below it. -/
structure IsVerifiedPath (pathId : Nat) : Prop where
  inTree : pathId < MtpTree.verifierRowCount
  leads : LeadsTo candidates verified pathId (MtpTree.acceptedTokenCount pathId)
  ends : ∀ childRow ∈ childRows pathId, ¬IsMatched candidates verified pathId childRow

variable {candidates verified}

theorem findMatchedChild_eq (row : Nat) : ∀ {rows : List Nat},
    (∀ childRow ∈ rows, childRow < MtpTree.verifierRowCount) →
    findMatchedChild candidates verified row rows =
      .ok (rows.find? (IsMatched candidates verified row ·))
  | [], _ => rfl
  | childRow :: rest, h => by
      obtain ⟨child, hchild⟩ := exists_nodeAt (h childRow List.mem_cons_self)
      have hiff : IsMatched candidates verified row childRow ↔
          verified.getD row 0 = candidates.getD child.candidateIndex 0 := by
        rw [IsMatched, hchild]
        rfl
      rw [findMatchedChild, hchild]
      by_cases hmatched : IsMatched candidates verified row childRow
      · rw [List.find?_cons_of_pos (by simpa using hmatched)]
        exact if_neg (not_not.mpr (hiff.mp hmatched))
      · rw [List.find?_cons_of_neg (by simpa using hmatched),
          ← findMatchedChild_eq row fun r hr => h r (List.mem_cons_of_mem _ hr)]
        exact if_pos (mt hiff.mpr hmatched)

theorem walkMtpTree_ends : ∀ (rounds row : Nat), row < MtpTree.verifierRowCount →
    LeadsTo candidates verified row (MtpTree.acceptedTokenCount row) →
    MtpTree.maxCommittedTokenCount ≤ rounds + MtpTree.acceptedTokenCount row →
    ∃ pathId, walkMtpTree candidates verified rounds row = .ok pathId ∧
      IsVerifiedPath candidates verified pathId
  | 0, row, hrow, _, hrounds => by
      have := (tree_wellFormed row hrow).1
      omega
  | rounds + 1, row, hrow, hleads, hrounds => by
      obtain ⟨node, hnode⟩ := exists_nodeAt hrow
      have hrows : List.range' node.childRowBase node.childCount = childRows row := by
        rw [childRows, hnode]
        rfl
      obtain ⟨-, -, -, hbelow⟩ := tree_wellFormed row hrow
      rw [walkMtpTree, hnode]
      simp only [hrows, findMatchedChild_eq row fun childRow h => (hbelow childRow h).1]
      cases hfind : (childRows row).find? (IsMatched candidates verified row ·) with
      | none =>
        exact ⟨row, rfl, hrow, hleads, fun childRow hchild => by
          simpa using List.find?_eq_none.mp hfind childRow hchild⟩
      | some childRow =>
        have hmem := List.mem_of_find?_eq_some hfind
        obtain ⟨hlt, hdepth⟩ := hbelow childRow hmem
        refine walkMtpTree_ends rounds childRow hlt ?_ (by omega)
        rw [hdepth]
        exact .child hleads hmem (by simpa using List.find?_some hfind)

/-- A verified tree is resolved to a path along which every candidate is the token that the row
above it was verified to and whose last row has no matched child, and the path can be settled.
Only a token outside the vocabulary is refused. -/
theorem mtpTreeResolve_follows_verifier (candidates verified : List Nat) (outputVocabCount : Nat) :
    match mtpTreeResolve candidates verified outputVocabCount with
    | .error e =>
      e = .invalidArgument ∧ ∃ tokenId ∈ candidates ++ verified, outputVocabCount ≤ tokenId
    | .ok r => (∀ tokenId ∈ candidates ++ verified, tokenId < outputVocabCount) ∧
        IsVerifiedPath candidates verified r.pathId ∧ r.fallbackRowIndex = r.pathId ∧
        r.committedTokenCount = r.acceptedTokenCount + 1 ∧
        r.committedTokenCount ≤ MtpTree.maxCommittedTokenCount ∧
        MtpTree.resolutionIsValid MtpTree.candidateCount r.acceptedTokenCount r.pathId = true := by
  obtain ⟨pathId, hwalk, hpath⟩ := @walkMtpTree_ends candidates verified MtpTree.verifierRowCount 0
    (by decide) .root (by decide)
  obtain ⟨hshort, hvalid, hfallback, -⟩ := tree_wellFormed pathId hpath.inTree
  unfold mtpTreeResolve
  split_ifs with hany
  · exact ⟨rfl, by simpa only [List.any_eq_true, decide_eq_true_eq] using hany⟩
  · rw [hwalk]
    refine ⟨fun tokenId h => ?_, hpath, hfallback, rfl, hshort, hvalid⟩
    by_contra hlarge
    exact hany (List.any_eq_true.mpr ⟨tokenId, h, decide_eq_true (not_lt.mp hlarge)⟩)

end Walk

/-- The outcome of one lane and the path it took in the tree. -/
def resolveVerifiedLane (lane : DispatchLane) (laneVerifier : List Nat) :
    ApiM E (VerifyResult × Nat) := do
  if dispatch.flags.mtpTreeVerify then
    if dispatch.flags.mtpSpeculativeVerify = false ∨
        dispatch.speculativeTokenCount ≠ MtpTree.candidateCount ∨
        dispatch.speculativeVerifierTokenCount ≠ MtpTree.verifierRowCount ∨
        dispatch.speculativeMaxCommittedTokenCount ≠ MtpTree.maxCommittedTokenCount then
      throw .invalidArgument
    else
      let resolution ← liftExcept (mtpTreeResolve
        (lane.speculativeDraftTokenIds.take MtpTree.candidateCount) laneVerifier
        (← get).outputVocabCount)
      return ({ rejected := true
                proposedTokenCount := MtpTree.candidateCount
                acceptedDraftTokenCount := resolution.acceptedTokenCount
                committedTokenCount := resolution.committedTokenCount
                fallbackTokenId := laneVerifier.getD resolution.fallbackRowIndex 0 },
        resolution.pathId)
  else
    let result ← onRuntime (onSpeculator .notFound (E.model.resolveVerifierTokens
      (lane.speculativeDraftTokenIds.take dispatch.speculativeTokenCount) laneVerifier))
    return (result, MtpTree.resolutionNone)

/-- Writes the outcome of a lane to its dispatch. -/
def setVerifiedLane (requestIndex : Nat) (result : VerifyResult) (pathId : Nat) : Dispatch :=
  { dispatch with
    lanes := dispatch.lanes.set requestIndex
      { dispatch.lanes.getD requestIndex {} with
        speculativeAcceptedTokenCount := result.acceptedDraftTokenCount
        speculativeCommittedTokenCount := result.committedTokenCount
        speculativeFallbackTokenId := result.fallbackTokenId
        speculativeResolutionPathId := pathId } }

def resolveSpeculativeVerifyDispatch (verifierTokenIds : List Nat)
    (laneStride verifierTokenCount : Nat) : ScheduleM E Unit := do
  onApi validate
  let dispatch := (← get).dispatch
  if dispatch.accepted = false ∨ dispatch.kind ≠ .speculativeVerifyBatch ∨
      dispatch.requestCount = 0 ∨ maxDispatchRequestCount < dispatch.requestCount ∨
      dispatch.speculativeTokenCount = 0 ∨ maxSpeculativeTokens < dispatch.speculativeTokenCount ∨
      verifierTokenIds = [] ∨ dispatch.speculativeVerifierTokenCount = 0 ∨
      verifierTokenCount ≠ dispatch.speculativeVerifierTokenCount ∨
      laneStride < verifierTokenCount ∨
      verifierTokenIds.length < (dispatch.requestCount - 1) * laneStride + verifierTokenCount then
    throw .invalidArgument
  else
    forM (List.range dispatch.requestCount) fun requestIndex => do
      let lane := dispatch.lanes.getD requestIndex {}
      let laneVerifier :=
        (verifierTokenIds.drop (requestIndex * laneStride)).take verifierTokenCount
      let (result, pathId) ← onApi (resolveVerifiedLane dispatch lane laneVerifier)
      modifyDispatch (setVerifiedLane · requestIndex result pathId)

end RequestApi

end SparkPipe
