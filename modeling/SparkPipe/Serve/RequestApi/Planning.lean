import SparkPipe.Serve.RequestApi.Model
import Mathlib.Algebra.Order.Floor.Div

/-!
# Planning helpers of the request API

What the request API finds out about its slots before it commits to a dispatch: how much of a
prompt is cached, whether the blocks of a slot are resident, how many blocks the active slots
need, and the just-in-time prefetch of blocks that are not resident. Everything here reads the
slots and changes the runtime only.
-/

open Program

namespace SparkPipe.RequestApi

variable {E : Seams} (settings : RequestApiSettings)

/-! ### Prompts -/

variable (runtime : Runtime E) (slot : Slot)

def schedulerMaxPrefillTokensPerStep : Nat :=
  let schedulerMax := runtime.scheduler.maxPrefillTokensPerStep
  max runtime.prefixCacheBlockTokenCount
    (if slot.maxPrefillTokensPerStep = 0 ∨ schedulerMax < slot.maxPrefillTokensPerStep then
      schedulerMax
    else slot.maxPrefillTokensPerStep)

/-- The length of the prompt prefix that is computed or cached. -/
def probeReusablePrefixTokenCount : RuntimeM E Nat := do
  if slot.promptTokenIds = [] ∨ (← get).scheduler.prefixCache = none then
    return slot.computedPromptTokenCount
  else
    match ← attempt (onPrefixCache
        (PrefixCache.probePrompt slot.sequenceId slot.promptTokenIds)) with
    | .ok lookup => return max slot.computedPromptTokenCount lookup.matchedTokenCount
    | .error _ => return slot.computedPromptTokenCount

/-- The tokens of the next step of a prompt, and the tokens before it. -/
def nextPrefillStepTokenCount : RuntimeM E (Nat × Nat) := do
  let cachedPrefixTokenCount ← probeReusablePrefixTokenCount slot
  let runtime ← get
  let computedPromptTokenCount := max slot.computedPromptTokenCount cachedPrefixTokenCount
  let remaining := slot.promptTokenCount.toNat - computedPromptTokenCount
  let step := schedulerMaxPrefillTokensPerStep runtime slot
  let rounded := roundDownToMultiple step runtime.prefixCacheBlockTokenCount
  return (
    if slot.promptTokenCount.toNat ≤ computedPromptTokenCount then 0
    else if runtime.configurationHasChunkedPrefill = false then remaining
    else if remaining ≤ step then remaining
    else if rounded = 0 then min remaining runtime.prefixCacheBlockTokenCount
    else rounded, computedPromptTokenCount)

/-- The length of the common prefix of two lists. -/
def commonPrefixLength : List Nat → List Nat → Nat
  | a :: left, b :: right => if a = b then commonPrefixLength left right + 1 else 0
  | _, _ => 0

/-- Prompts have the announced length, so the shorter one bounds the prefix. -/
def countCommonPrefixTokens (left right : Slot) : Nat :=
  commonPrefixLength (left.promptTokenIds.take left.promptTokenCount.toNat)
    (right.promptTokenIds.take right.promptTokenCount.toNat)

/-- The whole blocks that two prompts share, if they exceed what either has computed. -/
def sharedCachePrefixTokenCount (left right : Slot) : Nat :=
  if runtime.crossSequencePrefixReuseIsEnabled = false ∨ runtime.scheduler.prefixCache = none then 0
  else
    let shared := roundDownToMultiple (countCommonPrefixTokens left right)
      runtime.prefixCacheBlockTokenCount
    if shared ≤ max left.computedPromptTokenCount right.computedPromptTokenCount then 0 else shared

variable (slots : List Slot)

def findBestSharedPrefixTokenCount (runtime : Runtime E) (leaderSlotIndex : Nat) : Nat :=
  if settings.prefixCohortingIsEnabled = false then 0
  else
    let leader := slots.getD leaderSlotIndex {}
    slots.zipIdx.foldl (fun best (candidate, candidateIndex) =>
      if candidateIndex = leaderSlotIndex ∨ candidate.state ≠ .queuedPrefill ∨
          candidate.hasSameSchedulingPriority leader = false then best
      else max best (sharedCachePrefixTokenCount runtime leader candidate)) 0

def prefillCachedBlocksAreResident (promptTokenCount : Nat) : RuntimeM E Bool := do
  if settings.jitPrefetchIsEnabled = false ∨ (← get).scheduler.prefixCache = none ∨
      promptTokenCount = 0 then return true
  else
    match ← attempt (onPrefixCache
        (PrefixCache.probeReusablePrefixResidency (slot.promptTokenIds.take promptTokenCount))) with
    | .ok probe => return probe.2.nonresidentBlockCount == 0
    | .error _ => return false

/-! ### Drafts -/

def pendingSpeculativeTokenCount : Except RequestApiError Nat :=
  if slot.isSchedulableSpeculativeVerify = false ∧ slot.state ≠ .runningSpeculativeVerify then .ok 0
  else if slot.mtpDraftTokenCount ≠ 0 then
    if mtpMaxDraftTokenCount < slot.mtpDraftTokenCount then .error .invalidArgument
    else .ok slot.mtpDraftTokenCount
  else if runtime.speculationIsEnabled settings = false then .error .notFound
  else
    match runtime.modelSpeculator with
    | none => .error .notFound
    | some speculator => do
        let draft ← E.model.getDraft speculator slot.sequenceId
        if draft.tokenCount = 0 ∨ maxSpeculativeTokens < draft.tokenCount then
          throw .invalidArgument
        return draft.tokenCount

/-- The draft that is stored in a slot, as far as a draft result holds it. -/
def getSlotMtpDraft : Except RequestApiError DraftResult :=
  if slot.mtpDraftTokenCount = 0 ∨ mtpMaxDraftTokenCount < slot.mtpDraftTokenCount then
    .error .notFound
  else
    let copied := min slot.mtpDraftTokenCount maxSpeculativeTokens
    .ok {
      tokenCount := slot.mtpDraftTokenCount
      tokenIds :=
        slot.mtpDraftTokenIds.take copied ++ List.replicate (maxSpeculativeTokens - copied) 0
      confidenceMilli :=
        List.replicate copied 1000 ++ List.replicate (maxSpeculativeTokens - copied) 0 }

def getDsparkDraft : Except RequestApiError DraftResult :=
  if runtime.speculationIsEnabled settings = false then .error .invalidArgument
  else
    match runtime.modelSpeculator with
    | none => .error .invalidArgument
    | some speculator => E.model.getDraft speculator slot.sequenceId

/-- The draft of a slot and its source; the stored one first unless the drafter is preferred. -/
def getSlotSpeculativeDraft (preferredSource : Option SpeculativeSource) :
    Except RequestApiError (DraftResult × SpeculativeSource) :=
  match preferredSource with
  | some .drafter =>
    match getDsparkDraft settings runtime slot with
    | .ok draft => .ok (draft, .drafter)
    | .error _ => (getSlotMtpDraft slot).map (·, .mtp)
  | some .mtp => (getSlotMtpDraft slot).map (·, .mtp)
  | none =>
    match getSlotMtpDraft slot with
    | .ok draft => .ok (draft, .mtp)
    | .error _ => (getDsparkDraft settings runtime slot).map (·, .drafter)

/-! ### The blocks of a decoding slot -/

def requiredDecodeKvTokenCount (speculativeTokenCount : Nat) : Except RequestApiError Nat :=
  let required :=
    slot.computedPromptTokenCount + slot.completedDecodeTokenCount + 1 + speculativeTokenCount
  if slot.computedPromptTokenCount = 0 then .error .invalidArgument
  else if 2 ^ 32 ≤ required then .error .capacityExceeded
  else .ok required

def ensureDecodeSlotKvCapacity (speculativeTokenCount : Nat) : RuntimeM E Nat := do
  if (← get).scheduler.prefixCache = none then throw .invalidArgument
  else
    let required ← liftExcept (requiredDecodeKvTokenCount slot speculativeTokenCount)
    onPrefixCache (PrefixCache.ensureSequenceTokenCapacity slot.sequenceId required)
    return required

def ensurePendingDecodeSlotKvCapacity : RuntimeM E Nat := do
  let runtime ← get
  let speculativeTokenCount ← liftExcept (pendingSpeculativeTokenCount settings runtime slot)
  ensureDecodeSlotKvCapacity slot speculativeTokenCount

def decodeBlocksAreResident : RuntimeM E Bool := do
  if (← get).scheduler.prefixCache = none ∨ slot.computedPromptTokenCount = 0 then return true
  else
    match ← attempt (ensurePendingDecodeSlotKvCapacity settings slot) with
    | .error _ => return false
    | .ok required =>
      if settings.jitPrefetchIsEnabled = false then return true
      else
        match ← attempt (onPrefixCache
            (PrefixCache.probeSequenceResidency slot.sequenceId required)) with
        | .ok probe => return probe.2.nonresidentBlockCount == 0
        | .error _ => return false

/-! ### Block budgets -/

/-- The blocks that a slot keeps resident. -/
def slotResidentKvBlockCount : Nat :=
  let blockTokenCount := runtime.prefixCacheBlockTokenCount
  let tokenCount := slot.promptTokenCount.toNat + slot.scheduledDecodeTokenCount +
    if slot.state = .runningSpeculativeVerify then 1 else 0
  if slot.state = .free ∨ slot.state = .completed ∨ slot.state = .cancelled ∨
      (slot.computedPromptTokenCount = 0 ∧
        (slot.state = .queuedPrefill ∨ slot.state = .waitingPrefixCohort)) then 0
  else if blockTokenCount = 0 then 0
  else if 2 ^ 32 ≤ tokenCount then 2 ^ 32 - 1
  else (tokenCount + blockTokenCount - 1) / blockTokenCount

def residentKvBlockCount (runtime : Runtime E) : Nat :=
  (slots.map (slotResidentKvBlockCount runtime)).sum

def prefillBlockCountForScheduledTokens (scheduledPromptTokenCount : Nat) : Nat :=
  let blockTokenCount := runtime.prefixCacheBlockTokenCount
  if scheduledPromptTokenCount = 0 then 0
  else if blockTokenCount = 0 then 1
  else (scheduledPromptTokenCount + blockTokenCount - 1) / blockTokenCount

/-- The reserved block count after a prefill joined, or none if it does not fit. -/
def reservePrefillResidentKvBlocks (reservedBlockCount : Nat) : Option Nat :=
  if settings.maxResidentKvBlockCount = 0 ∨ settings.jitPrefetchIsEnabled then
    some reservedBlockCount
  else
    let additional :=
      prefillBlockCountForScheduledTokens runtime slot.promptTokenCount.toNat -
        slotResidentKvBlockCount runtime slot
    if settings.maxResidentKvBlockCount < reservedBlockCount ∨
        settings.maxResidentKvBlockCount - reservedBlockCount < additional then none
    else some (reservedBlockCount + additional)

def prefillHasResidentKvHeadroom (runtime : Runtime E) (slot : Slot) : Bool :=
  (reservePrefillResidentKvBlocks settings runtime slot (residentKvBlockCount slots runtime)).isSome

/-- Keeps a slot if its blocks fit the budget; the first slot must fit alone. -/
def keepWithinKvBlockBudget (runtime : Runtime E)
    (additionalTokenCount : Nat) (kept : List Nat × Nat) (indexed : Nat × Nat) :
    Except RequestApiError (List Nat × Nat) := do
  let blockTokenCount := runtime.prefixCacheBlockTokenCount
  let required ← requiredDecodeKvTokenCount (slots.getD indexed.1 {}) additionalTokenCount
  let requiredBlockCount := (required + blockTokenCount - 1) / blockTokenCount
  if settings.maxResidentKvBlockCount < requiredBlockCount then
    if indexed.2 = 0 then throw .capacityExceeded else return kept
  else if settings.maxResidentKvBlockCount - requiredBlockCount < kept.2 then return kept
  else return (kept.1 ++ [indexed.1], kept.2 + requiredBlockCount)

def applyActiveKvBlockBudget (runtime : Runtime E) (selectedSlots : List Nat)
    (additionalTokenCount : Nat) : Except RequestApiError (List Nat) :=
  if selectedSlots = [] then .error .invalidArgument
  else if settings.maxResidentKvBlockCount = 0 then .ok selectedSlots
  else if runtime.scheduler.prefixCache = none ∨ runtime.prefixCacheBlockTokenCount = 0 then
    .error .invalidArgument
  else do
    let kept ← selectedSlots.zipIdx.foldlM
      (keepWithinKvBlockBudget settings slots runtime additionalTokenCount) ([], 0)
    if kept.1 = [] then throw .capacityExceeded
    return kept.1

/-! ### The budget of the active blocks -/

/-- The filter as it is called: the list is replaced only on success. -/
def filterSelectedSlots (runtime : Runtime E) (additionalTokenCount : Nat) :
    EStateM RequestApiError (List Nat) Unit := fun selectedSlots =>
  match applyActiveKvBlockBudget settings slots runtime selectedSlots additionalTokenCount with
  | .ok kept => .ok () kept
  | .error error => .error error selectedSlots

/-- The blocks that a slot needs for its next step. -/
def neededBlockCount (runtime : Runtime E) (additionalTokenCount slotIndex : Nat) : Nat :=
  match requiredDecodeKvTokenCount (slots.getD slotIndex {}) additionalTokenCount with
  | .ok required => required ⌈/⌉ runtime.prefixCacheBlockTokenCount
  | .error _ => 0

/-- The slots that a list of marks keeps. -/
def keptBy (marks : List Bool) (selectedSlots : List Nat) : List Nat :=
  ((selectedSlots.zip marks).filter (·.2)).map (·.1)

/-- The first slot is kept, the kept ones fit, and a dropped one does not fit beside them. -/
structure FillsBudget (budget : Nat) (blocks : Nat → Nat) (selectedSlots : List Nat)
    (marks : List Bool) : Prop where
  length : marks.length = selectedSlots.length
  first : (keptBy marks selectedSlots).head? = selectedSlots.head?
  fits : ((keptBy marks selectedSlots).map blocks).sum ≤ budget
  maximal : ∀ i slotIndex, marks[i]? = some false → selectedSlots[i]? = some slotIndex →
    budget < ((keptBy (marks.take i) (selectedSlots.take i)).map blocks).sum + blocks slotIndex

variable {budget : Nat} {blocks : Nat → Nat} {marks : List Bool} {l : List Nat} {mark : Bool}
  {slotIndex : Nat}

theorem keptBy_concat (h : marks.length = l.length) : keptBy (marks ++ [mark]) (l ++ [slotIndex]) =
      keptBy marks l ++ if mark then [slotIndex] else [] := by
  rw [keptBy, List.zip_append h.symm, List.filter_append, List.map_append]
  cases mark <;> rfl

theorem FillsBudget.concat (h : FillsBudget budget blocks l marks)
    (hmark : mark = decide (((keptBy marks l).map blocks).sum + blocks slotIndex ≤ budget))
    (hfirst : l = [] → mark) :
    FillsBudget budget blocks (l ++ [slotIndex]) (marks ++ [mark]) := by
  refine ⟨by simp [h.length], ?_, ?_, fun i other hfalse hother => ?_⟩
  · rw [keptBy_concat h.length, List.head?_append, h.first]
    cases l with
    | nil => rw [hfirst rfl]; rfl
    | cons => rfl
  · rw [keptBy_concat h.length, List.map_append]
    cases mark with
    | false => simpa using h.fits
    | true => simpa using hmark
  rcases lt_trichotomy i l.length with hi | rfl | hi
  · rw [List.getElem?_append_left hi] at hother
    rw [List.getElem?_append_left (h.length ▸ hi)] at hfalse
    rw [List.take_append_of_le_length hi.le, List.take_append_of_le_length (h.length ▸ hi.le)]
    exact h.maximal i other hfalse hother
  · rw [List.getElem?_concat_length] at hother
    rw [← h.length, List.getElem?_concat_length] at hfalse
    cases hother
    cases hfalse
    rw [List.take_left, ← h.length]
    simpa using hmark
  · rw [List.getElem?_eq_none (by simp; omega)] at hother
    cases hother

variable {settings slots} {runtime : Runtime E} {additionalTokenCount : Nat}
  {kept : List Nat × Nat}

theorem keepWithinKvBlockBudget_ok
    (hblocks : neededBlockCount slots runtime additionalTokenCount = blocks)
    (h : FillsBudget settings.maxResidentKvBlockCount blocks l marks)
    (hround : keepWithinKvBlockBudget settings slots runtime additionalTokenCount
      (keptBy marks l, ((keptBy marks l).map blocks).sum) (slotIndex, l.length) = .ok kept) :
    (∃ required,
      requiredDecodeKvTokenCount (slots.getD slotIndex {}) additionalTokenCount = .ok required) ∧
    ∃ marks, kept = (keptBy marks (l ++ [slotIndex]),
        ((keptBy marks (l ++ [slotIndex])).map blocks).sum) ∧
      FillsBudget settings.maxResidentKvBlockCount blocks (l ++ [slotIndex]) marks := by
  have hneeds := congrFun hblocks slotIndex
  rw [neededBlockCount] at hneeds
  rw [keepWithinKvBlockBudget] at hround
  cases hrequired : requiredDecodeKvTokenCount (slots.getD slotIndex {}) additionalTokenCount with
  | error =>
    rw [hrequired] at hround
    cases hround
  | ok required =>
    rw [hrequired] at hround hneeds
    dsimp only at hneeds
    rw [Nat.ceilDiv_eq_add_pred_div] at hneeds
    change (if _ then if _ then _ else _ else _) = _ at hround
    rw [hneeds] at hround
    refine ⟨⟨required, rfl⟩, _, ?_, h.concat rfl fun hnil => ?_⟩
    · rw [keptBy_concat h.length]
      split_ifs at hround with hlarge hfirst hfull <;> cases hround
      · rw [decide_eq_false (by omega)]
        simp
      · rw [decide_eq_false (by omega)]
        simp
      · rw [decide_eq_true (by omega)]
        simp
    · subst hnil
      split_ifs at hround with hlarge hfirst
      · exact absurd rfl hfirst
      · exact decide_eq_true (by simpa [keptBy] using hlarge)
      · exact decide_eq_true (by simpa [keptBy] using hlarge)

theorem foldlM_keepWithinKvBlockBudget
    (hblocks : neededBlockCount slots runtime additionalTokenCount = blocks)
    (h : l.zipIdx.foldlM (keepWithinKvBlockBudget settings slots runtime additionalTokenCount)
      ([], 0) = .ok kept) :
    (∀ slotIndex ∈ l, ∃ required,
      requiredDecodeKvTokenCount (slots.getD slotIndex {}) additionalTokenCount = .ok required) ∧
    ∃ marks, kept = (keptBy marks l, ((keptBy marks l).map blocks).sum) ∧
      FillsBudget settings.maxResidentKvBlockCount blocks l marks := by
  induction l using List.reverseRecOn generalizing kept with
  | nil =>
    cases h
    exact ⟨by simp, [], rfl, rfl, rfl, Nat.zero_le _, by simp⟩
  | append_singleton l slotIndex ih =>
    rw [List.zipIdx_append, List.foldlM_append] at h
    cases hloop : l.zipIdx.foldlM
        (keepWithinKvBlockBudget settings slots runtime additionalTokenCount) ([], 0) with
    | error error =>
      rw [hloop] at h
      cases h
    | ok before =>
      rw [hloop] at h
      obtain ⟨hneeds, marks, rfl, hfills⟩ := ih hloop
      have hround : (keepWithinKvBlockBudget settings slots runtime additionalTokenCount _
        (slotIndex, 0 + l.length) >>= pure) = .ok kept := h
      rw [bind_pure, Nat.zero_add] at hround
      obtain ⟨hneed, hkept⟩ := keepWithinKvBlockBudget_ok hblocks hfills hround
      exact ⟨List.forall_mem_append.mpr ⟨hneeds, List.forall_mem_singleton.mpr hneed⟩, hkept⟩

/-- The filter of the active blocks is safe and maximal, and one that fails leaves the list as it
was. -/
theorem filterSelectedSlots_fills (settings : RequestApiSettings) (slots : List Slot)
    (runtime : Runtime E) (additionalTokenCount : Nat) (selectedSlots : List Nat) :
    match filterSelectedSlots settings slots runtime additionalTokenCount selectedSlots with
    | .error _ after => after = selectedSlots
    | .ok _ after => settings.maxResidentKvBlockCount ≠ 0 →
        (∀ slotIndex ∈ selectedSlots, ∃ required, requiredDecodeKvTokenCount
          (slots.getD slotIndex {}) additionalTokenCount = .ok required) ∧
        after.Sublist selectedSlots ∧ ∃ marks, after = keptBy marks selectedSlots ∧
          FillsBudget settings.maxResidentKvBlockCount
            (neededBlockCount slots runtime additionalTokenCount) selectedSlots marks := by
  rw [filterSelectedSlots]
  cases hfilter : applyActiveKvBlockBudget settings slots runtime selectedSlots
      additionalTokenCount with
  | error error => rfl
  | ok kept =>
    intro hbudget
    rw [applyActiveKvBlockBudget] at hfilter
    split_ifs at hfilter
    cases hloop : selectedSlots.zipIdx.foldlM
        (keepWithinKvBlockBudget settings slots runtime additionalTokenCount) ([], 0) with
    | error error =>
      rw [hloop] at hfilter
      cases hfilter
    | ok result =>
      obtain ⟨hneeds, marks, rfl, hfills⟩ := foldlM_keepWithinKvBlockBudget rfl hloop
      rw [hloop] at hfilter
      change (if _ then _ else _) = _ at hfilter
      split_ifs at hfilter
      · cases hfilter
      cases hfilter
      have hkept := (List.filter_sublist (p := (·.2)) (l := selectedSlots.zip marks)).map Prod.fst
      rw [List.map_fst_zip hfills.length.ge] at hkept
      exact ⟨hneeds, hkept, marks, rfl, hfills⟩

end SparkPipe.RequestApi
