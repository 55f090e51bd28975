import SparkPipe.Core.PrefixCache.Exclusive
import SparkPipe.Sched.Scheduler.Model

/-!
# What the scheduler does to its prefix cache

Every entry point of the scheduler leaves the configuration alone and drives the cache
through its public operations. An admission probes and reserves in a fresh epoch; settling a
decision commits or cancels the epoch of that decision.
-/

open Program

namespace SparkPipe

open List

/-- The tokens that a prefill writes, its epoch and its block table. -/
structure PrefillWork where
  sequenceId : Nat
  reservationEpoch : Nat
  scheduledPromptTokenOffset : Nat
  scheduledPromptTokenCount : Nat
  kvBlockTableTokenCount : Nat
  listed : List Nat := []

namespace PrefillWork

variable {w : PrefillWork} {c c' : PrefixCache}

/-- Block `j` covers a scheduled token. -/
def Covers (w : PrefillWork) (blockTokenCount j : Nat) : Prop :=
  j * blockTokenCount < w.scheduledPromptTokenOffset + w.scheduledPromptTokenCount ∧
    w.scheduledPromptTokenOffset < (j + 1) * blockTokenCount

instance (w : PrefillWork) (blockTokenCount j : Nat) : Decidable (w.Covers blockTokenCount j) :=
  inferInstanceAs (Decidable (_ ∧ _))

/-- The blocks that are written are pending, held by the sequence alone, and listed. -/
structure Held (w : PrefillWork) (c : PrefixCache) : Prop where
  epoch_le : w.reservationEpoch ≤ c.operationEpoch
  listed_length : w.listed.length ≤ c.ceilBlockCount w.kvBlockTableTokenCount
  held : ∀ j, w.Covers c.blockTokenCount j → j < c.ceilBlockCount w.kvBlockTableTokenCount →
    ∃ p b k, c.HeldPending w.sequenceId w.reservationEpoch (j * c.blockTokenCount) p b k ∧
      ∀ p', w.listed[j]? = some p' → p' = p

theorem Held.congr (hw : w.Held c) (hshape : c.SameShape c')
    (hheld : ∀ t p b k, c.HeldPending w.sequenceId w.reservationEpoch t p b k →
      c'.HeldPending w.sequenceId w.reservationEpoch t p b k) : w.Held c' where
  epoch_le := hw.epoch_le.trans hshape.epoch_mono
  listed_length := by
    have := hw.listed_length
    unfold PrefixCache.ceilBlockCount
    rwa [hshape.blockTokenCount]
  held j hcovers hlt := by
    unfold PrefixCache.ceilBlockCount at hlt
    rw [hshape.blockTokenCount] at hcovers hlt ⊢
    obtain ⟨p, b, k, hp, hlisted⟩ := hw.held j hcovers hlt
    exact ⟨p, b, k, hheld _ p b k hp, hlisted⟩

theorem Held.releases {q : Nat} (hw : w.Held c) (hc : c.Consistent) (hne : q ≠ w.sequenceId)
    (h : Evolves PrefixCache.Step (PrefixCache.Releases q) c c') : w.Held c' :=
  hw.congr (PrefixCache.shape_of_evolves (fun _ hreset => hreset) h) fun _ _ _ _ hh =>
    hh.of_releases h hc hne

theorem Held.keeps {n : Nat} (hw : w.Held c) (hc : c.Consistent) (hle : w.reservationEpoch ≤ n)
    (hk : PrefixCache.KeepsUpTo n c c') :
    w.Held c' :=
  hw.congr hk.shape fun _ _ _ _ hh => hk.held hc hle hh

end PrefillWork

namespace Scheduler

variable {c' : PrefixCache} {n : Nat} {tokenIds : List Nat} {s' : Scheduler}

def withCache (s : Scheduler) (c : PrefixCache) : Scheduler := { s with prefixCache := some c }

theorem withCache_self {s : Scheduler} {c : PrefixCache} (h : s.prefixCache = some c) :
    s.withCache c = s := by
  unfold withCache
  rw [← h]

variable {s : Scheduler} {c : PrefixCache} {request : SchedulerRequest} {plan : PrefillPlan}

theorem wp_onCache {α : Type} {m : CacheM α} {Q : α → Scheduler → Prop}
    {E : SchedulerError → Scheduler → Prop} (hc : s.prefixCache = some c) :
    wp (onCache m) Q E s ↔ wp m (fun a c' => Q a (s.withCache c'))
        (fun e c' => E (.ofPrefixCache e) (s.withCache c')) c := by
  have honCache : onCache m s = onPart (fun _ => c)
      (fun s cache => { s with prefixCache := some cache }) .ofPrefixCache m s := by
    unfold onCache
    rw [hc]
  refine Iff.trans ?_ (wp_onPart (fun _ => c) withCache SchedulerError.ofPrefixCache)
  unfold wp
  rw [honCache]
  rfl

/-- The scheduler reuses prefixes across sequences through the cache. -/
structure Backed (s : Scheduler) (c : PrefixCache) : Prop where
  prefixCache : s.prefixCache = some c
  enabled : s.configurationFlags.prefixCache
  crossReuse : s.configurationFlags.crossSequencePrefixReuse
  consistent : c.Consistent

theorem Backed.withCache (h : s.Backed c) (hc' : c'.Consistent) :
    (s.withCache c').Backed c' := ⟨rfl, h.enabled, h.crossReuse, hc'⟩

theorem backed_of_new {config : SchedulerConfig} (h : new config = .ok s)
    (hcache : config.prefixCache = some c) (hreuse : config.configurationFlags.prefixCache)
    (hcross : config.configurationFlags.crossSequencePrefixReuse) (hc : c.Consistent) :
    s.Backed c := by
  unfold new at h
  split_ifs at h <;> cases h <;> exact ⟨hcache, hreuse, hcross, hc⟩

/-! ### Planning -/

/-- The plan of a prefill request: the probed prefix is skipped. -/
structure Planned (s : Scheduler) (c : PrefixCache) (request : SchedulerRequest)
    (plan : PrefillPlan) (tokenIds : List Nat) : Prop where
  slice : promptSlice request request.promptTokenCount.toNat = some tokenIds
  cached : ∃ m, plan.cachedPrefixTokenCount = m * c.blockTokenCount ∧
    PrefixMatch (c.matchForSequence request.sequenceId) c.blockTokenCount tokenIds
      (c.reusableBlockCount tokenIds) m
  computed : plan.computedPromptTokenCount =
    max request.computedPromptTokenCount plan.cachedPrefixTokenCount
  scheduled : plan.scheduledPromptTokenCount =
    s.scheduledPrefillTokenCount request plan.computedPromptTokenCount

theorem planPrefill_wp (hs : s.Backed c) (hprefill : request.prefill) :
    wp (planPrefill request) (fun plan s' => ∃ c' tokenIds, s' = s.withCache c' ∧ c.Touches c' ∧
        s.Planned c request plan tokenIds)
      (fun _ s' => s' = s) s := by
  unfold planPrefill lookupCachedPrefixTokenCount
  simp only [wp_bind, wp_get, wp_ite, wp_pure]
  refine ⟨fun hoff => ?_, fun _ => ?_⟩
  · simp [hprefill, promptCacheIsEnabled, crossSequencePrefixReuseIsEnabled, hs.enabled,
      hs.crossReuse] at hoff
  · rw [wp_orFail]
    refine ⟨fun tokenIds hslice => ?_, fun _ => rfl⟩
    rw [wp_onCache hs.prefixCache]
    refine wp_mono PrefixCache.probePrompt_wp (fun lookup c' hc' => ?_) (fun _ c' hc' => ?_)
    · obtain ⟨htouch, hmatched, hreuse⟩ := hc'
      exact ⟨c', tokenIds, rfl, htouch, hslice, ⟨_, hmatched.matchedTokenCount, hreuse⟩, rfl, rfl⟩
    · rw [hc'.1, withCache_self hs.prefixCache]

theorem length_of_promptSlice (h : promptSlice request n = some tokenIds) :
    tokenIds.length = n := by
  obtain ⟨prompt, -, h⟩ := Option.bind_eq_some_iff.mp h
  split_ifs at h with hle
  cases h
  exact length_take_of_le hle

theorem promptSlice_take {m : Nat} {tokenIds' : List Nat}
    (h : promptSlice request n = some tokenIds) (h' : promptSlice request m = some tokenIds')
    (hle : m ≤ n) : tokenIds' = tokenIds.take m := by
  unfold promptSlice at h'
  obtain ⟨prompt, hprompt, h⟩ := Option.bind_eq_some_iff.mp h
  rw [hprompt, Option.bind_some] at h'
  split_ifs at h h'
  cases h
  cases h'
  rw [take_take, Nat.min_eq_left hle]

theorem reservePrompt_wp (hs : s.Backed c) {tokenCount : Nat} :
    wp (reservePrompt request tokenCount) (fun r s' => ∃ c' tokenIds, s' = s.withCache c' ∧
        promptSlice request tokenCount = some tokenIds ∧
        PrefixCache.ReservedTo (CacheOp.reserveScope c request.sequenceId tokenIds true).forward c
          tokenIds true (c.ceilBlockCount (tokenCountOf tokenIds)) r c' ∧
        r.reservedTokenCount = tokenCountOf tokenIds ∧ c.operationEpoch < c'.operationEpoch)
      (fun _ s' => ∃ c', s' = s.withCache c' ∧ PrefixCache.KeepsUpTo c.operationEpoch c c') s := by
  unfold reservePrompt
  simp only [wp_bind, wp_get, wp_ite, wp_orFail]
  refine ⟨fun tokenIds hslice => ⟨fun _ => ?_, fun hoff => ?_⟩, fun _ =>
    ⟨c, (withCache_self hs.prefixCache).symm, .refl _ c⟩⟩
  · rw [wp_onCache hs.prefixCache]
    refine wp_mono (CacheOp.reserve_wp hs.consistent)
      (fun r c' hc' => ⟨c', tokenIds, rfl, hslice, hc'⟩)
      (fun _ c' hc' => ⟨c', rfl, .of_reaches hc'.1.1 trivial (Nat.lt_succ_self _)⟩)
  · simp [crossSequencePrefixReuseIsEnabled, hs.crossReuse] at hoff

theorem scheduledPrefillTokenCount_le (s : Scheduler) (request : SchedulerRequest) (n : Nat) :
    s.scheduledPrefillTokenCount request n ≤ request.promptTokenCount.toNat - n := by
  have hround : roundDownToMultiple (s.requestMaxPrefillTokensPerStep request)
      s.prefixCacheBlockTokens ≤ s.requestMaxPrefillTokensPerStep request := by
    unfold roundDownToMultiple
    split_ifs
    · exact le_rfl
    · exact Nat.sub_le _ _
  unfold scheduledPrefillTokenCount
  dsimp only
  split_ifs
  · exact le_rfl
  · exact le_rfl
  · exact min_le_left _ _
  · omega

theorem Planned.end_le (hp : s.Planned c request plan tokenIds) (hpos : 0 < c.blockTokenCount)
    (hcomputed : request.computedPromptTokenCount ≤ request.promptTokenCount.toNat) :
    plan.endTokenCount ≤ request.promptTokenCount.toNat := by
  obtain ⟨m, hcached, hmatch⟩ := hp.cached
  have hm : m * c.blockTokenCount ≤ request.promptTokenCount.toNat := by
    rcases Nat.eq_zero_or_pos m with rfl | hm
    · simp
    · have hlt := (PrefixCache.lt_reusableBlockCount_iff hpos).mp
        (Nat.lt_of_lt_of_le (Nat.sub_lt hm Nat.one_pos) hmatch.le_bound)
      have hend := (PrefixCache.lt_maximumReusableTokenCount_iff hpos).mp hlt
      rw [Nat.sub_add_cancel hm] at hend
      have hcount : tokenCountOf tokenIds ≤ tokenIds.length := Nat.mod_le _ _
      rw [length_of_promptSlice hp.slice] at hcount
      omega
  have hscheduled := s.scheduledPrefillTokenCount_le request plan.computedPromptTokenCount
  rw [← hp.scheduled] at hscheduled
  have hle : plan.computedPromptTokenCount ≤ request.promptTokenCount.toNat := by
    rw [hp.computed, hcached]
    exact max_le hcomputed hm
  unfold PrefillPlan.endTokenCount
  omega

/-- The work of a planned and reserved prefill. -/
def workOf (request : SchedulerRequest) (plan : PrefillPlan) (r : Reservation)
    (listed : List Nat) : PrefillWork :=
  { sequenceId := request.sequenceId
    reservationEpoch := r.reservationEpoch
    scheduledPromptTokenOffset := plan.computedPromptTokenCount
    scheduledPromptTokenCount := plan.scheduledPromptTokenCount
    kvBlockTableTokenCount := r.reservedTokenCount
    listed }

theorem Planned.held {tokenIds' listed : List Nat} {r : Reservation}
    {c₁ c₂ : PrefixCache} (hp : s.Planned c request plan tokenIds) (hc : c.Consistent)
    (hcover : c.ProbeCovers request.sequenceId tokenIds)
    (hcomputed : request.computedPromptTokenCount = 0) (htouch : c.Touches c₁)
    (hslice : promptSlice request plan.endTokenCount = some tokenIds')
    (hr : PrefixCache.ReservedTo (CacheOp.reserveScope c₁ request.sequenceId tokenIds' true).forward
      c₁ tokenIds' true (c₁.ceilBlockCount (tokenCountOf tokenIds')) r c₂)
    (hcount : r.reservedTokenCount = tokenCountOf tokenIds')
    (hepoch : c₁.operationEpoch < c₂.operationEpoch)
    (hlisted : ∀ (j : Nat) p, listed[j]? = some p → r.physicalBlockIndices[j]? = some p) :
    (workOf request plan r listed).Held c₂ := by
  have hpos := hc.blockTokenCount_pos
  have hbt : c₂.blockTokenCount = c.blockTokenCount :=
    hr.reaches.shape.blockTokenCount.trans htouch.blockTokenCount
  have hceil : c₂.ceilBlockCount r.reservedTokenCount = r.physicalBlockIndices.length := by
    rw [hr.length, hcount]
    unfold PrefixCache.ceilBlockCount
    rw [hr.reaches.shape.blockTokenCount]
  obtain ⟨m, hcached, hmatch⟩ := hp.cached
  have hlength : tokenIds.length < 2 ^ 32 := by
    rw [length_of_promptSlice hp.slice]
    exact request.promptTokenCount.toNat_lt
  refine ⟨?_, ?_, fun j hcovers hlt => ?_⟩
  · exact (le_of_eq hr.reservationEpoch).trans hepoch
  · change listed.length ≤ c₂.ceilBlockCount r.reservedTokenCount
    rw [hceil]
    by_contra hlong
    have hsome : listed[r.physicalBlockIndices.length]? =
        some (listed.get ⟨r.physicalBlockIndices.length, not_le.mp hlong⟩) :=
      List.getElem?_eq_getElem _
    have := hlisted _ _ hsome
    simp at this
  · have hj : m ≤ j := by
      have hoffset : m * c.blockTokenCount < (j + 1) * c.blockTokenCount := by
        have := hcovers.2
        rw [hbt] at this
        change plan.computedPromptTokenCount < _ at this
        rw [hp.computed, hcomputed, hcached] at this
        exact this
      exact Nat.lt_succ_iff.mp (Nat.lt_of_mul_lt_mul_right hoffset)
    have htake := promptSlice_take hp.slice hslice (hp.end_le hpos (hcomputed ▸ Nat.zero_le _))
    have habsent := (hcover.quiet htouch.toQuiet).absent (n := plan.endTokenCount)
      (htouch.blockTokenCount ▸ hpos) hlength ?_ hj
    · rw [← htake] at habsent
      have hjlt : j < c₁.ceilBlockCount (tokenCountOf tokenIds') := by
        rw [← hr.length, ← hceil]
        exact hlt
      obtain ⟨p, b, k, hp', hheld⟩ := hr.held ⟨trivial, not_false, not_false⟩ j hjlt habsent
      refine ⟨p, b, k, ?_, fun p' hp'' => ?_⟩
      · rw [hbt, ← htouch.blockTokenCount]
        change c₂.HeldPending request.sequenceId r.reservationEpoch _ p b k
        rw [hr.reservationEpoch]
        exact hheld
      · have := hlisted j p' hp''
        rw [hp'] at this
        exact (Option.some.inj this).symm
    · rwa [PrefixCache.MatchesPrompt, htouch.reusableBlockCount, htouch.blockTokenCount,
        funext (htouch.toQuiet.matchForSequence request.sequenceId)]

/-- A prefill was planned from `c` and its scheduled part reserved. -/
def Reserves (s : Scheduler) (c : PrefixCache) (request : SchedulerRequest) (plan : PrefillPlan)
    (r : Reservation) (c' : PrefixCache) : Prop :=
  ∃ c₁ tokenIds tokenIds', c.Touches c₁ ∧ s.Planned c request plan tokenIds ∧
    promptSlice request plan.endTokenCount = some tokenIds' ∧
    PrefixCache.ReservedTo (CacheOp.reserveScope c₁ request.sequenceId tokenIds' true).forward c₁
      tokenIds' true (c₁.ceilBlockCount (tokenCountOf tokenIds')) r c' ∧
    r.reservedTokenCount = tokenCountOf tokenIds' ∧ c₁.operationEpoch < c'.operationEpoch

section Reserves

variable {plan : PrefillPlan} {r : Reservation} {c' : PrefixCache}

theorem Reserves.keeps (h : s.Reserves c request plan r c') :
    PrefixCache.KeepsUpTo c.operationEpoch c c' := by
  obtain ⟨c₁, tokenIds, tokenIds', htouch, -, -, hr, -, -⟩ := h
  refine (PrefixCache.KeepsUpTo.of_quiet htouch.toQuiet).trans (.of_reaches hr.reaches trivial ?_)
  rw [← htouch.operationEpoch]
  exact Nat.lt_succ_self _

theorem Reserves.epoch (h : s.Reserves c request plan r c') :
    c.operationEpoch < r.reservationEpoch ∧ r.reservationEpoch ≤ c'.operationEpoch := by
  obtain ⟨c₁, tokenIds, tokenIds', htouch, -, -, hr, -, hepoch⟩ := h
  have heq : r.reservationEpoch = c₁.operationEpoch + 1 := hr.reservationEpoch
  rw [heq, ← htouch.operationEpoch]
  exact ⟨Nat.lt_succ_self _, hepoch⟩

/-- What the reservation finds lies in the probed prefix. -/
def Foreseen (s : Scheduler) (request : SchedulerRequest) : Prop :=
  request.prefill → ∀ c ∈ s.prefixCache,
    ∀ tokenIds ∈ promptSlice request request.promptTokenCount.toNat,
      c.ProbeCovers request.sequenceId tokenIds

instance (s : Scheduler) (request : SchedulerRequest) : Decidable (s.Foreseen request) :=
  inferInstanceAs (Decidable (_ → ∀ c ∈ s.prefixCache,
    ∀ tokenIds ∈ promptSlice request request.promptTokenCount.toNat,
      c.ProbeCovers request.sequenceId tokenIds))

theorem Reserves.held {listed : List Nat} (h : s.Reserves c request plan r c') (hs : s.Backed c)
    (hprefill : request.prefill) (hcomputed : request.computedPromptTokenCount = 0)
    (hforeseen : s.Foreseen request)
    (hlisted : ∀ (j : Nat) p, listed[j]? = some p → r.physicalBlockIndices[j]? = some p) :
    (workOf request plan r listed).Held c' := by
  obtain ⟨c₁, tokenIds, tokenIds', htouch, hplanned, hslice, hr, hcount, hepoch⟩ := h
  exact hplanned.held hs.consistent (hforeseen hprefill c hs.prefixCache tokenIds hplanned.slice)
    hcomputed htouch hslice hr hcount hepoch hlisted

theorem Planned.reserve_wp {c₁ : PrefixCache} (hs : s.Backed c)
    (hp : s.Planned c request plan tokenIds) (htouch : c.Touches c₁) :
    wp (reservePrompt request plan.endTokenCount)
      (fun r s' => ∃ c', s' = s.withCache c' ∧ s.Reserves c request plan r c')
      (fun _ s' => ∃ c', s' = s.withCache c' ∧ PrefixCache.KeepsUpTo c.operationEpoch c c')
      (s.withCache c₁) := by
  have hkeeps : PrefixCache.KeepsUpTo c.operationEpoch c c₁ := .of_quiet htouch.toQuiet
  refine wp_mono (reservePrompt_wp (hs.withCache (hkeeps.consistent hs.consistent)))
    (fun r s' hs' => ?_) (fun _ s' hs' => ?_)
  · obtain ⟨c', tokenIds', rfl, hslice, hr, hcount, hepoch⟩ := hs'
    exact ⟨c', rfl, c₁, tokenIds, tokenIds', htouch, hp, hslice, hr, hcount, hepoch⟩
  · obtain ⟨c', rfl, hc'⟩ := hs'
    rw [htouch.operationEpoch] at hc'
    exact ⟨c', rfl, hkeeps.trans hc'⟩

end Reserves

/-- The configuration is kept, and the cache keeps what is held up to epoch `n`. -/
structure Keeps (n : Nat) (s : Scheduler) (c : PrefixCache) (s' : Scheduler) (c' : PrefixCache) :
    Prop where
  settings : s'.toSchedulerSettings = s.toSchedulerSettings
  prefixCache : s'.prefixCache = some c'
  keeps : PrefixCache.KeepsUpTo n c c'

theorem Backed.of_settings (hs : s.Backed c)
    (hsettings : s'.toSchedulerSettings = s.toSchedulerSettings)
    (hcache : s'.prefixCache = some c') (hc' : c'.Consistent) : s'.Backed c' :=
  ⟨hcache, (congrArg (·.configurationFlags.prefixCache) hsettings).trans hs.enabled,
    (congrArg (·.configurationFlags.crossSequencePrefixReuse) hsettings).trans hs.crossReuse, hc'⟩

theorem Keeps.backed (h : Keeps n s c s' c') (hs : s.Backed c) : s'.Backed c' :=
  hs.of_settings h.settings h.prefixCache (h.keeps.consistent hs.consistent)

theorem Keeps.withCache (h : PrefixCache.KeepsUpTo n c c') :
    Keeps n s c (s.withCache c') c' := ⟨rfl, rfl, h⟩

theorem Keeps.trans {s'' : Scheduler} {c'' : PrefixCache} (h : Keeps n s c s' c')
    (h' : Keeps n s' c' s'' c'') : Keeps n s c s'' c'' :=
  ⟨h'.settings.trans h.settings, h'.prefixCache, h.keeps.trans h'.keeps⟩

theorem Keeps.refl (n : Nat) (hs : s.Backed c) : Keeps n s c s c :=
  ⟨rfl, hs.prefixCache, .refl n c⟩

theorem Keeps.occupyStages (h : Keeps n s c s' c') (stageCount : Nat) :
    Keeps n s c (s'.occupyStages stageCount) c' := { h with }

/-! ### Single requests -/

theorem prefixCacheParentHash_wp {computed epoch : Nat} (hs : s.Backed c) (hlt : n < epoch) :
    wp (prefixCacheParentHash request computed epoch)
      (fun hash s' => (∃ value, hash = .ok value ∧ s' = s) ∨
        (∃ status, hash = .error status) ∧ ∃ c', Keeps n s c s' c')
      (fun _ s' => s' = s) s := by
  unfold prefixCacheParentHash
  rw [wp_ite]
  refine ⟨fun _ => .inl ⟨_, rfl, rfl⟩, fun _ => ?_⟩
  rw [wp_bind, wp_orFail]
  refine ⟨fun tokenIds _ => ?_, fun _ => rfl⟩
  rw [wp_read]
  cases hashPromptTokens s.prefixCacheBlockTokens emptyParentHash tokenIds with
  | ok => exact .inl ⟨_, rfl, rfl⟩
  | error =>
    rw [wp_bind, wp_attempt, wp_onCache hs.prefixCache]
    have hkeeps : ∀ c', (CacheOp.cancelScope request.sequenceId epoch).Reaches c c' →
        Keeps n s c (s.withCache c') c' := fun c' hc' =>
      .withCache (.of_reaches hc' trivial hlt)
    exact wp_mono (PrefixCache.cancelReservation_wp
        (s := CacheOp.cancelScope request.sequenceId epoch) hs.consistent trivial)
      (fun _ c' hc' => .inr ⟨⟨_, rfl⟩, c', hkeeps c' hc'⟩)
      (fun _ c' hc' => .inr ⟨⟨_, rfl⟩, c', hkeeps c' hc'⟩)

theorem computed_of_valid (hs : s.Backed c) (hvalid : s.requestIsValid request)
    (hprefill : request.prefill) : request.computedPromptTokenCount = 0 := by
  simp only [requestIsValid, hprefill, promptCacheIsEnabled, crossSequencePrefixReuseIsEnabled,
    hs.enabled, hs.crossReuse, Bool.and_eq_true, Bool.or_eq_true, Bool.not_true,
    Bool.and_self, Bool.false_eq_true, false_or, beq_iff_eq] at hvalid
  exact hvalid.2.1.2

end Scheduler

/-- What an accepted decision writes. -/
def SchedulerDecision.works (d : SchedulerDecision) : List PrefillWork :=
  if d.decisionFlags.prefillStep then
    [{ sequenceId := d.sequenceId
       reservationEpoch := d.prefixCacheReservationEpoch
       scheduledPromptTokenOffset := d.scheduledPromptTokenOffset
       scheduledPromptTokenCount := d.scheduledPromptTokenCount
       kvBlockTableTokenCount := d.kvBlockTableTokenCount
       listed := d.kvPhysicalBlockIndices }]
  else []

/-- What a lane writes; its block table is built on request. -/
def PrefillBatchLane.work (lane : PrefillBatchLane) : PrefillWork :=
  { sequenceId := lane.sequenceId
    reservationEpoch := lane.prefixCacheReservationEpoch
    scheduledPromptTokenOffset := lane.scheduledPromptTokenOffset
    scheduledPromptTokenCount := lane.scheduledPromptTokenCount
    kvBlockTableTokenCount := lane.kvBlockTableTokenCount }

namespace Scheduler

variable {s s' : Scheduler} {c c' : PrefixCache} {request : SchedulerRequest} {n : Nat}

/-- The works of an accepted decision are of fresh epochs, and held if foreseen. -/
structure Admits (s : Scheduler) (c : PrefixCache) (foreseen : Prop) (works : List PrefillWork)
    (s' : Scheduler) (c' : PrefixCache) : Prop where
  keeps : Keeps c.operationEpoch s c s' c'
  epochs : ∀ w ∈ works, c.operationEpoch < w.reservationEpoch ∧
    w.reservationEpoch ≤ c'.operationEpoch
  nodup : (works.map PrefillWork.reservationEpoch).Nodup
  held : foreseen → ∀ w ∈ works, w.Held c'

theorem admitOnStages_wp (hs : s.Backed c) (hvalid : s.requestIsValid request)
    (buckets : Nat × Nat) (costs : PlanAndCosts) :
    wp (admitOnStages request buckets costs)
      (fun d s' => ∃ c', Admits s c (s.Foreseen request) (if d.accepted then d.works else []) s' c')
      (fun _ s' => ∃ c', Keeps c.operationEpoch s c s' c') s := by
  have hrejected : ∀ {s' c'}, Keeps c.operationEpoch s c s' c' →
      Admits s c (s.Foreseen request) [] s' c' := fun h => ⟨h, nofun, .nil, nofun⟩
  unfold admitOnStages planAndReserve
  rw [wp_bind, wp_attempt, wp_ite]
  refine ⟨fun hprefill => ?_, fun hdecode => ?_⟩
  · rw [wp_bind]
    refine wp_mono (planPrefill_wp hs hprefill) (fun plan s₁ hs₁ => ?_) (fun _ s₁ hs₁ => ?_)
    · obtain ⟨c₁, tokenIds, rfl, htouch, hplanned⟩ := hs₁
      rw [wp_read, wp_ite]
      refine ⟨fun _ => ?_, fun hoff => absurd hs.enabled hoff⟩
      rw [wp_bind]
      refine wp_mono (hplanned.reserve_wp hs htouch) (fun r s₂ hs₂ => ?_) (fun _ s₂ hs₂ => ?_)
      · obtain ⟨c₂, rfl, hreserves⟩ := hs₂
        have hback := hs.withCache (hreserves.keeps.consistent hs.consistent)
        have hkeeps : Keeps c.operationEpoch s c (s.withCache c₂) c₂ := .withCache hreserves.keeps
        simp only [wp_pure, wp_bind, wp_get]
        rw [if_pos (by simp [hprefill, promptCacheIsEnabled, withCache, hs.enabled]), wp_bind]
        rw [wp_orFail_some rfl, wp_bind]
        refine wp_mono (prefixCacheParentHash_wp hback hreserves.epoch.1) (fun hash s₃ hs₃ => ?_)
          (fun _ s₃ hs₃ => ⟨c₂, hs₃ ▸ hkeeps⟩)
        rcases hs₃ with ⟨value, rfl, rfl⟩ | ⟨⟨status, rfl⟩, c₃, hc₃⟩
        · have hwork : Admits s c (s.Foreseen request)
              (if request.prefill then [workOf request plan r r.physicalBlockIndices] else [])
              ((s.withCache c₂).occupyStages costs.stagePlan.stageCount) c₂ := by
            rw [if_pos hprefill]
            refine ⟨hkeeps.occupyStages _, ?_, nodup_singleton _, fun hforeseen => ?_⟩
            · intro w hw
              rw [mem_singleton.mp hw]
              exact hreserves.epoch
            · intro w hw
              rw [mem_singleton.mp hw]
              exact hreserves.held hs hprefill (computed_of_valid hs hvalid hprefill) hforeseen
                fun _ _ hp => hp
          exact ⟨c₂, hwork⟩
        · exact ⟨c₃, hrejected (hkeeps.trans hc₃)⟩
      · obtain ⟨c₂, rfl, hc₂⟩ := hs₂
        exact ⟨c₂, hrejected (.withCache hc₂)⟩
    · rw [hs₁]
      exact ⟨c, hrejected (.refl _ hs)⟩
  · have hnone : ∀ works, Admits s c (s.Foreseen request) (if request.prefill then works else [])
        (s.occupyStages costs.stagePlan.stageCount) c := by
      intro works
      rw [if_neg hdecode]
      exact hrejected ((Keeps.refl _ hs).occupyStages _)
    simp only [wp_pure, wp_bind, wp_get]
    rw [if_neg (by simp [hdecode])]
    exact ⟨c, hnone _⟩

theorem admitRequest_wp (request : SchedulerRequest) (hs : s.Backed c) : wp (admitRequest request)
      (fun d s' => ∃ c', Admits s c (s.Foreseen request) (if d.accepted then d.works else []) s' c')
      (fun _ s' => ∃ c', Keeps c.operationEpoch s c s' c') s := by
  have hrejected : Admits s c (s.Foreseen request) [] s c :=
    ⟨.refl _ hs, nofun, .nil, nofun⟩
  unfold admitRequest validateRequest
  simp only [wp_bind, wp_get, wp_ite, wp_pure, wp_throw]
  refine ⟨fun hvalid => ?_, fun _ => ⟨c, .refl _ hs⟩⟩
  cases s.selectRequestBatchBucket request with
  | error => exact ⟨c, hrejected⟩
  | ok buckets =>
    dsimp only
    cases s.buildMeasuredPlanAndCosts buckets.1 with
    | error => exact ⟨c, hrejected⟩
    | ok costs =>
      rw [wp_ite]
      exact ⟨fun _ => admitOnStages_wp hs hvalid buckets costs, fun _ => ⟨c, hrejected⟩⟩

/-! ### Prefill batches -/

theorem cancelAcceptedPrefillBatchReservations_wp {lanes : List PrefillBatchLane}
    (hs : s.Backed c) (hlanes : ∀ lane ∈ lanes, n < lane.prefixCacheReservationEpoch) :
    ends (cancelAcceptedPrefillBatchReservations lanes) (fun s' => ∃ c', Keeps n s c s' c') s := by
  unfold cancelAcceptedPrefillBatchReservations
  rw [ends, wp_read, wp_ite]
  refine ⟨fun _ => ?_, fun _ => ⟨c, .refl n hs⟩⟩
  refine wp_forM (fun s' => ∃ c', Keeps n s c s' c') ⟨c, .refl n hs⟩ fun lane hlane s₁ hs₁ => ?_
  obtain ⟨c₁, hc₁⟩ := hs₁
  have hback := hc₁.backed hs
  rw [wp_ite, wp_onCache hback.prefixCache]
  refine ⟨fun _ => ⟨c₁, hc₁⟩, fun _ => ?_⟩
  exact ends_mono (PrefixCache.cancelReservation_wp (s := CacheOp.cancelScope lane.sequenceId
      lane.prefixCacheReservationEpoch) hback.consistent trivial) fun c' hc' =>
    ⟨c', hc₁.trans (.withCache (.of_reaches hc' trivial (hlanes lane hlane)))⟩

/-- Every lane is foreseen in the state in which its turn comes. -/
def LanesForeseen : Scheduler → List PrefillBatchLane → List (SchedulerRequest × Nat) → Prop
  | _, _, [] => True
  | s, lanes, indexed :: rest => s.Foreseen indexed.1 ∧
      ∀ lanes' s', admitLane lanes indexed s = .ok lanes' s' → LanesForeseen s' lanes' rest

theorem planLane_wp (hs : s.Backed c) (hprefill : request.prefill) : wp (planLane request)
      (fun planned s' => ∃ c', s' = s.withCache c' ∧ s.Reserves c request planned.1 planned.2 c')
      (fun _ s' => ∃ c', Keeps c.operationEpoch s c s' c') s := by
  unfold planLane
  rw [wp_bind]
  refine wp_mono (planPrefill_wp hs hprefill) (fun plan s₁ hs₁ => ?_)
    (fun _ s₁ hs₁ => ⟨c, by rw [hs₁]; exact .refl _ hs⟩)
  obtain ⟨c₁, tokenIds, rfl, htouch, hplanned⟩ := hs₁
  rw [wp_ite]
  refine ⟨fun _ => ⟨c₁, .withCache (.of_quiet htouch.toQuiet)⟩, fun _ => ?_⟩
  rw [wp_bind]
  refine wp_mono (hplanned.reserve_wp hs htouch) (fun r s₂ hs₂ => hs₂) (fun _ s₂ hs₂ => ?_)
  obtain ⟨c₂, rfl, hc₂⟩ := hs₂
  exact ⟨c₂, .withCache hc₂⟩

section Lanes

variable {s₀ : Scheduler} {c₀ : PrefixCache} {foreseen : Prop} {lanes : List PrefillBatchLane}

theorem Keeps.mono {m : Nat} (h : Keeps n s c s' c') (hle : m ≤ n) : Keeps m s c s' c' :=
  ⟨h.settings, h.prefixCache, h.keeps.mono hle⟩

theorem Admits.snoc {works : List PrefillWork} {w : PrefillWork}
    (ha : Admits s₀ c₀ foreseen works s c) (hs : s.Backed c)
    (hkeeps : Keeps c.operationEpoch s c s' c')
    (hepoch : c.operationEpoch < w.reservationEpoch ∧ w.reservationEpoch ≤ c'.operationEpoch)
    (hheld : foreseen → w.Held c') : Admits s₀ c₀ foreseen (works ++ [w]) s' c' where
  keeps := ha.keeps.trans (hkeeps.mono ha.keeps.keeps.shape.epoch_mono)
  epochs v hv := by
    rcases mem_append.mp hv with hv | hv
    · have hle := ha.epochs v hv
      exact ⟨hle.1, hle.2.trans hkeeps.keeps.shape.epoch_mono⟩
    · rw [mem_singleton.mp hv]
      exact ⟨ha.keeps.keeps.shape.epoch_mono.trans_lt hepoch.1, hepoch.2⟩
  nodup := by
    rw [map_append, nodup_append]
    refine ⟨ha.nodup, nodup_singleton _, fun a hmem b hb => ?_⟩
    obtain ⟨v, hv, rfl⟩ := mem_map.mp hmem
    rw [mem_singleton.mp hb]
    exact Nat.ne_of_lt ((ha.epochs v hv).2.trans_lt hepoch.1)
  held hf v hv := by
    rcases mem_append.mp hv with hv | hv
    · exact (ha.held hf v hv).keeps hs.consistent (ha.epochs v hv).2 hkeeps.keeps
    · rw [mem_singleton.mp hv]
      exact hheld hf

theorem Admits.lane_wp {indexed : SchedulerRequest × Nat}
    (ha : Admits s₀ c₀ foreseen (lanes.map PrefillBatchLane.work) s c) (hs₀ : s₀.Backed c₀)
    (hvalid : s₀.requestIsValid indexed.1) (hprefill : indexed.1.prefill)
    (hforeseen : foreseen → s.Foreseen indexed.1) :
    wp (admitLane lanes indexed)
      (fun lanes' s' => ∃ c', Admits s₀ c₀ foreseen (lanes'.map PrefillBatchLane.work) s' c')
      (fun _ s' => ∃ c', Keeps c₀.operationEpoch s₀ c₀ s' c') s := by
  have hs := ha.keeps.backed hs₀
  have hmono := ha.keeps.keeps.shape.epoch_mono
  have hlanes : ∀ lane ∈ lanes, c₀.operationEpoch < lane.prefixCacheReservationEpoch :=
    fun lane hlane => (ha.epochs _ (mem_map_of_mem hlane)).1
  have hcancel : ∀ {s₁ c₁}, Keeps c₀.operationEpoch s₀ c₀ s₁ c₁ →
      ends (cancelAcceptedPrefillBatchReservations lanes)
        (fun s' => ∃ c', Keeps c₀.operationEpoch s₀ c₀ s' c') s₁ := fun h₁ =>
    ends_mono (cancelAcceptedPrefillBatchReservations_wp (h₁.backed hs₀) hlanes)
      fun _ ⟨c', hc'⟩ => ⟨c', h₁.trans hc'⟩
  unfold admitLane
  rw [wp_bind, wp_onError]
  refine wp_mono (planLane_wp hs hprefill) (fun planned s₁ hs₁ => ?_) (fun _ s₁ hs₁ => ?_)
  · obtain ⟨c₁, rfl, hreserves⟩ := hs₁
    have hback := hs.withCache (hreserves.keeps.consistent hs.consistent)
    have hkeeps : Keeps c₀.operationEpoch s₀ c₀ (s.withCache c₁) c₁ :=
      ha.keeps.trans (.withCache (hreserves.keeps.mono hmono))
    rw [wp_bind]
    refine wp_mono (prefixCacheParentHash_wp hback (hmono.trans_lt hreserves.epoch.1))
      (fun hash s₂ hs₂ => ?_) (fun _ s₂ hs₂ => ⟨c₁, by rw [hs₂]; exact hkeeps⟩)
    rcases hs₂ with ⟨value, rfl, rfl⟩ | ⟨⟨status, rfl⟩, c₂, hc₂⟩
    · refine ⟨c₁, ?_⟩
      rw [map_append]
      refine ha.snoc hs (.withCache hreserves.keeps) hreserves.epoch fun hf => ?_
      have hvalid' : s.requestIsValid indexed.1 = true := by
        rw [← hvalid]
        unfold requestIsValid promptCacheIsEnabled crossSequencePrefixReuseIsEnabled
        rw [ha.keeps.settings]
      exact hreserves.held hs hprefill (computed_of_valid hs hvalid' hprefill) (hforeseen hf) nofun
    · rw [wp_bind, wp_attempt]
      exact hcancel (hkeeps.trans hc₂)
  · obtain ⟨c₁, hc₁⟩ := hs₁
    exact wp_finalState (hcancel (ha.keeps.trans (hc₁.mono hmono)))

theorem admitLanes_wp {requests : List (SchedulerRequest × Nat)} (hs : s.Backed c)
    (hvalid : ∀ indexed ∈ requests, s.requestIsValid indexed.1 ∧ indexed.1.prefill) :
    wp (requests.foldlM admitLane [])
      (fun lanes s' => ∃ c', Admits s c (s.LanesForeseen [] requests)
        (lanes.map PrefillBatchLane.work) s' c')
      (fun _ s' => ∃ c', Keeps c.operationEpoch s c s' c') s := by
  refine wp_post (wp_foldlM (fun rest lanes s₁ => rest ⊆ requests ∧
      (s.LanesForeseen [] requests → s₁.LanesForeseen lanes rest) ∧
      ∃ c₁, Admits s c (s.LanesForeseen [] requests) (lanes.map PrefillBatchLane.work) s₁ c₁)
      (fun indexed rest lanes s₁ hs₁ => ?_)
      ⟨List.Subset.refl _, id, c, .refl _ hs, nofun, .nil, nofun⟩) fun _ _ h => h.2.2
  obtain ⟨hsub, hforeseen, c₁, ha⟩ := hs₁
  obtain ⟨hmem, hsub⟩ := cons_subset.mp hsub
  obtain ⟨hv, hprefill⟩ := hvalid indexed hmem
  refine wp_mono (wp_outcome (ha.lane_wp hs hv hprefill fun hf => (hforeseen hf).1))
    (fun lanes' s₂ hs₂ => ?_) (fun _ _ hs₂ => hs₂.1)
  exact ⟨hsub, fun hf => (hforeseen hf).2 lanes' s₂ hs₂.2, hs₂.1⟩

end Lanes

/-- Every request of the batch is foreseen when its turn comes. -/
def BatchForeseen (s : Scheduler) (requests : List SchedulerRequest) : Prop :=
  s.LanesForeseen []
    (requests.take (packPrefillRequests s.maxPackedRequestCount requests 0 0).1).zipIdx

theorem admitPrefillBatch_wp (requests : List SchedulerRequest) (hs : s.Backed c) :
    wp (admitPrefillBatch requests) (fun d s' => ∃ c', Admits s c (s.BatchForeseen requests)
        (if d.accepted then d.lanes.map PrefillBatchLane.work else []) s' c')
      (fun _ s' => ∃ c', Keeps c.operationEpoch s c s' c') s := by
  have hrejected : Admits s c (s.BatchForeseen requests) [] s c :=
    ⟨.refl _ hs, nofun, .nil, nofun⟩
  unfold admitPrefillBatch validatePrefillBatchRequest
  simp only [wp_bind, wp_get, wp_ite, wp_pure, wp_throw]
  refine ⟨fun _ => ⟨c, .refl _ hs⟩, fun hvalid => ?_⟩
  simp only [not_or, Bool.not_eq_false, all_eq_true, Bool.and_eq_true] at hvalid
  cases s.prefillBatchPlan (packPrefillRequests s.maxPackedRequestCount requests 0 0).1
      (packPrefillRequests s.maxPackedRequestCount requests 0 0).2 with
  | error status => exact ⟨c, hrejected⟩
  | ok plan =>
    simp only [wp_bind, wp_modify, wp_pure]
    refine wp_post (admitLanes_wp hs fun indexed hmem => ?_) fun lanes s' hs' => ?_
    · have hrequest := mem_of_mem_take (fst_mem_of_mem_zipIdx hmem)
      exact (hvalid.2.2 indexed.1 hrequest).1
    · obtain ⟨c', ha⟩ := hs'
      exact ⟨c', { ha with keeps := ha.keeps.occupyStages _ }⟩

/-! ### Settling and releasing -/

/-- Settling touches only the reservations of the given epochs. -/
structure Settles (epochs : List Nat) (s : Scheduler) (c : PrefixCache) (s' : Scheduler)
    (c' : PrefixCache) : Prop where
  settings : s'.toSchedulerSettings = s.toSchedulerSettings
  prefixCache : s'.prefixCache = some c'
  shape : c.SameShape c'
  consistent : c'.Consistent
  spares : ∀ q epoch, epoch ∉ epochs → Evolves PrefixCache.Step (PrefixCache.Spares q epoch) c c'

/-- Settling with some cache that is left. -/
def SettlesTo (epochs : List Nat) (s : Scheduler) (c : PrefixCache) (s' : Scheduler) : Prop :=
  ∃ c', Settles epochs s c s' c'

namespace Settles

variable {epochs : List Nat}

theorem backed (h : Settles epochs s c s' c') (hs : s.Backed c) : s'.Backed c' :=
  hs.of_settings h.settings h.prefixCache h.consistent

theorem trans {s'' : Scheduler} {c'' : PrefixCache} (h : Settles epochs s c s' c')
    (h' : Settles epochs s' c' s'' c'') : Settles epochs s c s'' c'' :=
  ⟨h'.settings.trans h.settings, h'.prefixCache, h.shape.trans h'.shape, h'.consistent,
    fun q epoch hne => (h.spares q epoch hne).trans (h'.spares q epoch hne)⟩

theorem of_settings (hs : s.Backed c) (hsettings : s'.toSchedulerSettings = s.toSchedulerSettings)
    (hcache : s'.prefixCache = s.prefixCache) : Settles epochs s c s' c :=
  ⟨hsettings, hcache.trans hs.prefixCache, ⟨rfl, rfl, rfl, rfl, le_rfl⟩, hs.consistent,
    fun _ _ _ => .refl c⟩

theorem refl (hs : s.Backed c) : Settles epochs s c s c := of_settings hs rfl rfl

theorem of_reaches {scope : PrefixCache.Scope} (hs : s.Backed c) (hfresh : scope.fresh)
    (hmem : scope.epoch ∈ epochs) (h : scope.Reaches c c') :
    Settles epochs s c (s.withCache c') c' :=
  ⟨rfl, rfl, h.shape, h.consistent hs.consistent, fun _ _ hne => .mono
    (fun _ _ ha => ha.spares hfresh fun heq => hne (heq ▸ hmem)) h⟩

theorem held {w : PrefillWork} (h : Settles epochs s c s' c') (hs : s.Backed c)
    (hne : w.reservationEpoch ∉ epochs) (hw : w.Held c) : w.Held c' :=
  hw.congr h.shape fun _ _ _ _ hh => hh.evolves hs.consistent (h.spares _ _ hne)

end Settles

section Settle

variable {epochs : List Nat} {q epoch : Nat} {d : SchedulerDecision} {settle : SchedM Unit}

theorem mem_epochs_works (h : d.decisionFlags.prefillStep) :
    d.prefixCacheReservationEpoch ∈ d.works.map PrefillWork.reservationEpoch := by
  unfold SchedulerDecision.works
  rw [if_pos h]
  exact mem_singleton_self _

variable (hs : s.Backed c)
include hs

theorem releaseDecisionInflight_wp :
    ends (releaseDecisionInflight d) (Settles epochs s c · c) s := by
  unfold releaseDecisionInflight
  simp only [ends, wp_bind, wp_get, wp_ite, wp_throw, wp_set]
  exact ⟨fun _ => .refl hs, fun _ => .of_settings hs rfl rfl⟩

theorem commitReservation_wp (hmem : epoch ∈ epochs) :
    ends (onCache (PrefixCache.commitReservation q epoch)) (SettlesTo epochs s c) s := by
  rw [ends, wp_onCache hs.prefixCache]
  exact ends_mono (PrefixCache.commitReservation_wp (s := CacheOp.commitScope q epoch) trivial)
    fun c' hc' => ⟨c', .of_reaches hs trivial hmem hc'⟩

theorem cancelReservation_wp (hmem : epoch ∈ epochs) :
    ends (onCache (PrefixCache.cancelReservation q epoch)) (SettlesTo epochs s c) s := by
  rw [ends, wp_onCache hs.prefixCache]
  exact ends_mono (PrefixCache.cancelReservation_wp (s := CacheOp.cancelScope q epoch) hs.consistent
    trivial) fun c' hc' => ⟨c', .of_reaches hs trivial hmem hc'⟩

theorem settle_wp (hsettle : ∀ s', s'.Backed c → ends settle (SettlesTo epochs s' c) s') :
    ends (do releaseDecisionInflight d; settle) (SettlesTo epochs s c) s := by
  rw [ends, wp_bind]
  refine wp_mono (releaseDecisionInflight_wp hs) (fun _ s₁ hs₁ => ?_) (fun _ s₁ hs₁ => ⟨c, hs₁⟩)
  exact ends_mono (hsettle s₁ (hs₁.backed hs)) fun _ => Exists.imp fun _ => hs₁.trans

theorem settleDecision_wp (hsettle : ∀ s', s'.Backed c → ends settle (SettlesTo epochs s' c) s') :
    ends (do validateAcceptedDecision d; releaseDecisionInflight d; settle)
      (SettlesTo epochs s c) s := by
  unfold validateAcceptedDecision
  simp only [ends, wp_bind, wp_get, wp_ite, wp_throw, wp_pure]
  refine ⟨fun _ => ⟨c, .refl hs⟩, fun _ => ?_⟩
  rw [← wp_bind]
  exact settle_wp hs hsettle

theorem complete_wp :
    ends (complete d) (SettlesTo (d.works.map PrefillWork.reservationEpoch) s c) s := by
  refine settleDecision_wp hs fun s' hs' => ?_
  rw [ends, wp_read, wp_ite]
  exact ⟨fun h => commitReservation_wp hs' (mem_epochs_works h.1), fun _ => ⟨c, .refl hs'⟩⟩

theorem cancel_wp :
    ends (cancel d) (SettlesTo (d.works.map PrefillWork.reservationEpoch) s c) s := by
  refine settleDecision_wp hs fun s' hs' => ?_
  rw [ends, wp_read, wp_ite]
  exact ⟨fun h => cancelReservation_wp hs' (mem_epochs_works h.1), fun _ => ⟨c, .refl hs'⟩⟩

theorem retirePrefillBatch_wp {d : PrefillBatchDecision} {settlement : ReservationSettlement} :
    ends (retirePrefillBatch d settlement) (SettlesTo
      ((d.lanes.map PrefillBatchLane.work).map PrefillWork.reservationEpoch) s c) s := by
  unfold retirePrefillBatch validateAcceptedPrefillBatchDecision
  simp only [ends, wp_bind, wp_get, wp_ite, wp_throw, wp_pure]
  refine ⟨fun _ => ⟨c, .refl hs⟩, fun _ => ?_⟩
  rw [← wp_bind]
  refine settle_wp hs fun s' hs' => ?_
  refine wp_forM (SettlesTo _ s' c) ⟨c, .refl hs'⟩ fun lane hlane s₁ hs₁ => ?_
  obtain ⟨c₁, hc₁⟩ := hs₁
  have hback := hc₁.backed hs'
  have hmem : lane.prefixCacheReservationEpoch ∈
      (d.lanes.map PrefillBatchLane.work).map PrefillWork.reservationEpoch :=
    mem_map_of_mem (mem_map_of_mem (mem_of_mem_take hlane))
  unfold settleLane
  rw [wp_ite]
  refine ⟨fun _ => ⟨c₁, hc₁⟩, fun _ => ?_⟩
  have htrans : ∀ s'', SettlesTo _ s₁ c₁ s'' → SettlesTo _ s' c s'' :=
    fun _ => Exists.imp fun _ => hc₁.trans
  cases settlement with
  | commit => exact ends_mono (commitReservation_wp hback hmem) htrans
  | cancel => exact ends_mono (cancelReservation_wp hback hmem) htrans

theorem releaseSequence_wp : wp (releaseSequence q) (fun _ s' => ∃ c', s' = s.withCache c' ∧
        Evolves PrefixCache.Step (PrefixCache.Releases q) c c') (fun _ s' => s' = s) s := by
  unfold releaseSequence
  rw [wp_read, wp_ite]
  refine ⟨fun _ => rfl, fun _ => ?_⟩
  rw [if_pos (show s.promptCacheIsEnabled = true from hs.enabled), wp_onCache hs.prefixCache]
  exact wp_mono (PrefixCache.releaseSequence_wp hs.consistent) (fun _ c' hc' => ⟨c', rfl, hc'⟩)
    (fun _ c' hc' => by rw [hc', withCache_self hs.prefixCache])

end Settle

end Scheduler

end SparkPipe
