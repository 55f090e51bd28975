import SparkPipe.Node.RankDaemon.LedgerCells

/-!
# The ledger as a bounded map

Every operation of the ledger is described by what it does to the map that the cells stand for: an
observation touches the entry of its identity or adds one, in favour of which the oldest terminal
entry of a full ledger is dropped, and a transition moves one active entry along a legal edge.
Nothing else is ever forgotten within a generation.
-/

open Program

namespace SparkPipe

open WorkControl

namespace TransactionLedger

open LedgerEntry

variable {s t s' : TransactionLedger} {id id' : Identity} {e e' : LedgerEntry} {i j : Nat}
  {fingerprint : Nat}

/-- The ledger is consistent, and its entries were observed at different times. -/
structure Sound (s : TransactionLedger) : Prop extends Mapped s where
  observed : ∀ {i}, (s.entry i).state.isStored → (s.entry i).lastObservedEpoch ≤ s.epoch
  distinct : ∀ {i j}, (s.entry i).state.isStored → (s.entry j).state.isStored →
    (s.entry i).lastObservedEpoch = (s.entry j).lastObservedEpoch → i = j

theorem Sound.of_write (h : s.Sound) (hmapped : s'.Mapped) (hi : i < s.entryCapacity)
    (hentries : s'.entries = s.entries.set i e) (hepoch : s.epoch ≤ s'.epoch)
    (hnew : e.state.isStored → e.lastObservedEpoch ≤ s'.epoch ∧
      ∀ j, j ≠ i → (s.entry j).state.isStored →
        (s.entry j).lastObservedEpoch ≠ e.lastObservedEpoch) : s'.Sound := by
  refine ⟨hmapped, ?_, ?_⟩
  · intro j hj
    rw [entry_of_write hi hentries] at hj ⊢
    split_ifs at hj ⊢
    · exact (hnew hj).1
    · exact (h.observed hj).trans hepoch
  intro j j' hj hj' heq
  rw [entry_of_write hi hentries] at hj hj' heq
  rw [entry_of_write hi hentries] at heq
  split_ifs at hj hj' heq with hij hij'
  · exact hij.symm.trans hij'
  · exact absurd heq.symm ((hnew hj).2 j' (Ne.symm hij') hj')
  · exact absurd heq ((hnew hj').2 j (Ne.symm hij) hj)
  · exact h.distinct hj hj' heq

theorem Sound.bumpEpoch (h : s.Sound) (hepoch : s.epoch + 1 < 2 ^ 64) :
    s.bumpEpoch.Sound ∧ s.bumpEpoch.epoch = s.epoch + 1 := by
  have hbump : s.bumpEpoch.epoch = s.epoch + 1 := by
    rw [TransactionLedger.bumpEpoch, Nat.mod_eq_of_lt hepoch, if_neg (Nat.succ_ne_zero _)]
  refine ⟨⟨h.toMapped.bumpEpoch, fun hi => ?_, h.distinct⟩, hbump⟩
  rw [hbump]
  exact (h.observed hi).trans (Nat.le_succ _)

theorem Sound.lt_bumpEpoch (h : s.Sound) (hepoch : s.epoch + 1 < 2 ^ 64)
    (hi : (s.entry i).state.isStored) :
    (s.entry i).lastObservedEpoch < s.bumpEpoch.epoch := by
  rw [(h.bumpEpoch hepoch).2]
  exact Nat.lt_succ_of_le (h.observed hi)

/-! ### Recycling -/

/-- No entry is terminal. -/
def NoneTerminal (s : TransactionLedger) : Prop := ∀ id e, s.Stored id e → e.isTerminal = false

/-- The terminal entry that was observed longest ago. -/
def Oldest (s : TransactionLedger) (id : Identity) (e : LedgerEntry) : Prop :=
  s.Stored id e ∧ e.isTerminal ∧ ∀ id' e', s.Stored id' e' → e'.isTerminal →
    id' ≠ id → e.lastObservedEpoch < e'.lastObservedEpoch

/-- The stored entries were observed before the current epoch. -/
def Past (s : TransactionLedger) : Prop :=
  s.epoch < 2 ^ 64 ∧
    ∀ i, (s.entry i).state.isStored → (s.entry i).lastObservedEpoch < s.epoch

/-- The oldest terminal entry of a full ledger was recycled. -/
def Recycled (s t : TransactionLedger) : Prop :=
  s.Full ∧ t.epoch = s.epoch ∧ t.activeControlGeneration = s.activeControlGeneration ∧
    ∃ id e, s.Oldest id e ∧ ∀ id' e', t.Stored id' e' ↔ id' ≠ id ∧ s.Stored id' e'

theorem noneTerminal_of_oldestTerminalEntry (hpast : s.Past) (h : s.oldestTerminalEntry = none) :
    s.NoneTerminal := by
  rintro id e hstored
  obtain ⟨i, rfl, hlook⟩ := stored_iff.mp hstored
  by_contra hterminal
  have hlate := oldestTerminalEntry_eq_none h (Bool.eq_true_of_not_eq_false hterminal)
  have hearly := hpast.2 i (cell_eq_held.mp hlook).1
  have hepoch := hpast.1
  omega

theorem Sound.recycledAt (h : s.Sound) (hfull : s.Full) (holdest : s.oldestTerminalEntry = some j) :
    (s.recycledAt j).Sound ∧ Recycled s (s.recycledAt j) := by
  obtain ⟨hterminal, hmin⟩ := oldestTerminalEntry_eq_some holdest
  have hstored := isStored_of_isTerminal hterminal
  have hlook : s.look j = .held (s.entry j).identity := cell_of_isStored hstored
  obtain ⟨hmapped, hrest⟩ := h.toMapped.recycledAt hterminal
  refine ⟨h.of_write hmapped (lt_of_isStored hstored) rfl le_rfl
    fun hnew => ?_, hfull, rfl, rfl, (s.entry j).identity, s.entry j, ⟨?_, hterminal, ?_⟩, hrest⟩
  · cases hnew
  · exact stored_iff.mpr ⟨j, rfl, hlook⟩
  · rintro id' e' hstored' hterminal' hne
    obtain ⟨k, rfl, hk⟩ := stored_iff.mp hstored'
    refine lt_of_le_of_ne (hmin k hterminal') fun heq => hne ?_
    obtain rfl := h.distinct hstored (isStored_of_isTerminal hterminal') heq
    exact Cell.held.inj (hk.symm.trans hlook)

theorem Sound.roomy (h : s.Sound) (ht : s.Roomy t) :
    t.Sound ∧ (¬s.Full ∧ t = s ∨ Recycled s t) := by
  rcases ht with ⟨hfree, rfl⟩ | ⟨hfull, j, holdest, rfl⟩
  · exact ⟨h, .inl ⟨hfree, rfl⟩⟩
  · obtain ⟨hsound, hrecycled⟩ := h.recycledAt hfull holdest
    exact ⟨hsound, .inr hrecycled⟩

/-! ### Observing -/

theorem sound_of_vacant {n : Nat} (hpos : 0 < n) (hsmall : n ≤ 2 ^ 31) (generation : Nat) :
    Sound { entries := List.replicate n {}, activeControlGeneration := generation } := by
  have hmapped := mapped_of_vacant hpos hsmall generation
  set s : TransactionLedger :=
    { entries := List.replicate n {}, activeControlGeneration := generation }
  have hfree {i : Nat} : ¬(s.entry i).state.isStored = true := by
    rw [entry_of_vacant rfl]
    exact Bool.false_ne_true
  exact ⟨hmapped, fun hi => absurd hi hfree, fun hi => absurd hi hfree⟩

theorem Sound.prepared (h : s.Sound) {generation : Nat} (ht : s.Prepared generation t) :
    t.Sound := by
  rcases ht with ⟨-, rfl⟩ | ⟨-, -, rfl⟩
  · exact h
  · exact sound_of_vacant h.pos h.small generation

/-- Nothing is recycled if there is room, and else the oldest terminal entry. -/
def Recycles (t : TransactionLedger) (gone : Identity → Prop) : Prop :=
  ¬t.Full ∧ (∀ id, ¬gone id) ∨ t.Full ∧ ∃ id e, t.Oldest id e ∧ ∀ id', gone id' ↔ id' = id

/-- A known entry is touched, or a new one added. -/
def Observed (t : TransactionLedger) (id : Identity) (fingerprint : Nat) (answer : Observation)
    (s' : TransactionLedger) : Prop :=
  (∃ e, t.Stored id e ∧ answer = answerOf e fingerprint ∧ ∀ id' e', s'.Stored id' e' ↔
    if id' = id then e' = e.observedAt s'.epoch else t.Stored id' e') ∨
  (∀ e, ¬t.Stored id e) ∧ answer = .new ∧ ∃ gone, t.Recycles gone ∧ ∀ id' e', s'.Stored id' e' ↔
    if id' = id then e' = preparedEntry id fingerprint s'.epoch else ¬gone id' ∧ t.Stored id' e'

theorem Sound.answered (h : t.Sound) (hepoch : t.epoch + 1 < 2 ^ 64)
    (hvalid : identityIsValid id)
    (hgeneration : id.controlGeneration = t.activeControlGeneration)
    {answer : Observation} (hanswered : t.Answered id fingerprint answer s') :
    s'.Sound ∧ s'.epoch = t.epoch + 1 ∧ s'.activeControlGeneration = t.activeControlGeneration ∧
      Observed t id fingerprint answer s' := by
  obtain ⟨hu, hbump⟩ := h.bumpEpoch hepoch
  rcases hanswered with ⟨i, hlook, hanswer, rfl⟩ | ⟨hnew, hanswer, r, i, hroomy, hfits, rfl⟩
  · obtain ⟨hmapped, hstored⟩ := hu.touchedAt hlook
    have hi := lt_of_isStored (cell_eq_held.mp hlook).1
    refine ⟨hu.of_write hmapped hi rfl le_rfl fun _ => ⟨le_rfl, fun j _ hj =>
      (h.lt_bumpEpoch hepoch hj).ne⟩, hbump,
      rfl, .inl ⟨t.entry i, stored_iff.mpr ⟨i, rfl, hlook⟩, hanswer, hstored⟩⟩
  obtain ⟨hr, hrepoch, hrgeneration, hrstored⟩ := hu.toMapped.roomy hroomy
  obtain ⟨hrsound, hroom⟩ := hu.roomy hroomy
  obtain ⟨hmapped, hentries, hepoch', hactive, hstored⟩ :=
    hr.insertedAt (e := preparedEntry id fingerprint t.bumpEpoch.epoch) hfits
      (fun e he => hnew e (hrstored id e he)) hvalid (hgeneration.trans hrgeneration.symm) rfl rfl
  have hnow := hepoch'.trans hrepoch
  refine ⟨hrsound.of_write hmapped hfits.1 hentries hepoch'.ge fun _ => ⟨hnow.ge, ?_⟩,
    hnow.trans hbump, hactive.trans hrgeneration, .inr ⟨hnew, hanswer, ?_⟩⟩
  · intro j _ hj
    -- what is stored after making room was stored before
    have hheld : r.Stored (r.entry j).identity (r.entry j) :=
      stored_iff.mpr ⟨j, rfl, cell_of_isStored hj⟩
    obtain ⟨j', hj', hlook⟩ := stored_iff.mp (hrstored _ _ hheld)
    rw [← hj']
    exact (h.lt_bumpEpoch hepoch (cell_eq_held.mp hlook).1).ne
  · rcases hroom with ⟨hfree, rfl⟩ | ⟨hfull, -, -, id₀, e₀, holdest, hrest⟩
    · refine ⟨fun _ => False, .inl ⟨hfree, fun _ h => h⟩, fun id' e' => ?_⟩
      rw [hstored, hnow, not_false_eq_true, true_and]
      exact Iff.rfl
    · refine ⟨(· = id₀), .inr ⟨hfull, id₀, e₀, holdest, fun _ => Iff.rfl⟩, fun id' e' => ?_⟩
      rw [hstored, hnow]
      split_ifs
      · exact Iff.rfl
      · exact hrest id' e'

theorem Observed.answer_iff {answer : Observation} (ht : t.Sound)
    (h : Observed t id fingerprint answer s') :
    (answer = .new ↔ ∀ e, ¬t.Stored id e) ∧
    (answer = .replayActive ↔
      ∃ e, t.Stored id e ∧ e.payloadFingerprint = fingerprint ∧ e.isTerminal = false) ∧
    (answer = .replayTerminal ↔
      ∃ e, t.Stored id e ∧ e.payloadFingerprint = fingerprint ∧ e.isTerminal) ∧
    (answer = .conflict ↔ ∃ e, t.Stored id e ∧ e.payloadFingerprint ≠ fingerprint) := by
  rcases h with ⟨e, he, rfl, -⟩ | ⟨hnew, rfl, -⟩
  · have honly (P : LedgerEntry → Prop) : (∃ e', t.Stored id e' ∧ P e') ↔ P e := by
      refine ⟨fun ⟨e', he', hP⟩ => ht.stored_unique he' he ▸ hP, fun hP => ⟨e, he, hP⟩⟩
    have hsome : ¬∀ e, ¬t.Stored id e := fun hnone => hnone e he
    rw [honly, honly, honly, answerOf]
    by_cases hsame : e.payloadFingerprint = fingerprint <;> cases e.isTerminal <;>
      simp [hsame, hsome]
  · simp [hnew]

/-- An active entry was moved along a legal edge, and nothing else. -/
def Moved (s : TransactionLedger) (id : Identity) (target : LedgerState) (status : SparkStatus)
    (s' : TransactionLedger) : Prop :=
  target.isStored ∧ ∃ e, s.Stored id e ∧ e.isTerminal = false ∧
    LedgerState.transitionIsLegal e.state target ∧ ∀ id' e', s'.Stored id' e' ↔
      if id' = id then e' = e.moved s'.epoch target status else s.Stored id' e'

/-- What an observation answers and does. -/
structure Answers (s : TransactionLedger) (id : Identity) (fingerprint : Nat) : Prop where
  /-- What is answered about an identity of the active generation. -/
  answers : id.controlGeneration = s.activeControlGeneration → ∀ answer index s',
    observe id fingerprint s = .ok (answer, index) s' →
    (answer = .new ↔ ∀ e, ¬s.Stored id e) ∧
    (answer = .replayActive ↔
      ∃ e, s.Stored id e ∧ e.payloadFingerprint = fingerprint ∧ e.isTerminal = false) ∧
    (answer = .replayTerminal ↔
      ∃ e, s.Stored id e ∧ e.payloadFingerprint = fingerprint ∧ e.isTerminal) ∧
    (answer = .conflict ↔ ∃ e, s.Stored id e ∧ e.payloadFingerprint ≠ fingerprint)
  /-- When an identity of the active generation is not answered. -/
  refuses : id.controlGeneration = s.activeControlGeneration →
    (succeeds (observe id fingerprint s) = false ↔
      (∀ e, ¬s.Stored id e) ∧ s.Full ∧ s.NoneTerminal) ∧
    ∀ error, errorOf (observe id fingerprint s) = some error → error = .capacityExceeded
  /-- What is dropped for a new entry. -/
  recycles : id.controlGeneration = s.activeControlGeneration → (∀ e, ¬s.Stored id e) →
    succeeds (observe id fingerprint s) →
    let s' := finalState (observe id fingerprint s)
    (¬s.Full → ∀ id' e', id' ≠ id → (s'.Stored id' e' ↔ s.Stored id' e')) ∧
    (s.Full → ∃ id₀ e₀, s.Oldest id₀ e₀ ∧
      ∀ id' e', id' ≠ id → (s'.Stored id' e' ↔ id' ≠ id₀ ∧ s.Stored id' e'))
  /-- A newer generation. -/
  renews : s.activeControlGeneration < id.controlGeneration →
    (succeeds (observe id fingerprint s) ↔ ∀ id e, s.Stored id e → e.isTerminal) ∧
    (succeeds (observe id fingerprint s) →
      let s' := finalState (observe id fingerprint s)
      s'.activeControlGeneration = id.controlGeneration ∧ ∀ id' e', s'.Stored id' e' → id' = id)

/-! ### The operations -/

variable (hs : s.Sound) (hepoch : s.epoch + 1 < 2 ^ 64) (hvalid : identityIsValid id)
include hs hepoch hvalid

theorem observe_wp (hfingerprint : fingerprint ≠ 0) : wp (observe id fingerprint)
      (fun answer s' => s'.Sound ∧ s'.epoch ≤ s.epoch + 1 ∧
        s'.activeControlGeneration = id.controlGeneration ∧
        ∃ t, s.Prepared id.controlGeneration t ∧ Observed t id fingerprint answer.1 s')
      (fun error s' => s'.Sound ∧ s'.epoch ≤ s.epoch + 1 ∧
        (∀ id' e', s'.Stored id' e' ↔ s.Stored id' e') ∧
        (s.Unprepared id.controlGeneration error ∨
          id.controlGeneration = s.activeControlGeneration ∧ error = .capacityExceeded ∧
            (∀ e, ¬s.Stored id e) ∧ s.Full ∧ s.NoneTerminal)) s := by
  refine wp_mono (observe_cells hs.toMapped hvalid hfingerprint) ?_ ?_
  · rintro answer s' ⟨t, hprepared, hanswered⟩
    obtain ⟨-, hle, hactive⟩ := hs.toMapped.prepared hprepared
    obtain ⟨hsound, hnow, hgeneration, hobserved⟩ :=
      (hs.prepared hprepared).answered (by omega) hvalid hactive.symm hanswered
    exact ⟨hsound, by omega, hgeneration.trans hactive, t, hprepared, hobserved⟩
  · rintro error s' (⟨rfl, hrefused⟩ | ⟨hsame, herror, hnew, hfull, hnone, rfl⟩)
    · exact ⟨hs, Nat.le_succ _, fun _ _ => Iff.rfl, .inl hrefused⟩
    · obtain ⟨hu, hbump⟩ := hs.bumpEpoch hepoch
      have hpast : s.bumpEpoch.Past := ⟨by omega, fun _ => hs.lt_bumpEpoch hepoch⟩
      exact ⟨hu, hbump.le, fun _ _ => Iff.rfl, .inr ⟨hsame, herror, hnew, hfull,
        noneTerminal_of_oldestTerminalEntry (s := s.bumpEpoch) hpast hnone⟩⟩

theorem transition_wp (target : LedgerState) (status : SparkStatus) :
    wp (transition id target status) (fun _ s' => s'.Sound ∧ s'.epoch ≤ s.epoch + 1 ∧
        s'.activeControlGeneration = s.activeControlGeneration ∧ s.Moved id target status s')
      (fun error s' => s' = s ∧ s.Unmoved id target status error) s := by
  refine wp_post (transition_cells hs.toMapped hvalid target status) ?_
  rintro _ s' ⟨htarget, i, hlook, hactive, hlegal, rfl⟩
  obtain ⟨hu, hbump⟩ := hs.bumpEpoch hepoch
  obtain ⟨hmapped, hentries, hnow, hgeneration, hstored⟩ :=
    hs.moveEntry hlook hactive htarget status
  have hi := lt_of_isStored (cell_eq_held.mp hlook).1
  refine ⟨hs.of_write hmapped hi hentries (by omega) fun _ => ⟨hnow.ge, fun j _ hj =>
      (hs.lt_bumpEpoch hepoch hj).ne⟩,
    (hnow.trans hbump).le, hgeneration, htarget, s.entry i, stored_iff.mpr ⟨i, rfl, hlook⟩,
    hactive, hlegal, fun id' e' => ?_⟩
  rw [hstored, hnow]

theorem answers_of_sound (hfingerprint : fingerprint ≠ 0) : s.Answers id fingerprint := by
  have hspec := observe_wp hs hepoch hvalid hfingerprint
  cases hrun : observe id fingerprint s with
  | ok answer s' =>
    obtain ⟨-, -, hgeneration, t, hprepared, hobserved⟩ := wp_ok hspec hrun
    have hok : succeeds (observe id fingerprint s) = true := by rw [hrun]; rfl
    have hsame (h : id.controlGeneration = s.activeControlGeneration) : t = s := by
      rcases hprepared with ⟨-, rfl⟩ | ⟨hlt, -⟩
      · rfl
      · omega
    refine ⟨fun hgen answer' index' s'' hrun' => ?_, fun hgen => ?_, fun hgen hnew _ => ?_,
      fun hnew => ?_⟩
    · obtain rfl := hsame hgen
      rw [hrun] at hrun'
      cases hrun'
      exact hobserved.answer_iff hs
    · obtain rfl := hsame hgen
      rw [hrun]
      refine ⟨⟨fun hnot => Bool.noConfusion hnot, fun ⟨hnew, hfull, hnone⟩ => ?_⟩,
        fun error herror => by cases herror⟩
      rcases hobserved with ⟨e, he, -⟩ | ⟨-, -, gone, hgone | ⟨-, id₀, e₀, holdest, -⟩, -⟩
      · exact absurd he (hnew e)
      · exact absurd hfull hgone.1
      · have hterminal := hnone id₀ e₀ holdest.1
        rw [holdest.2.1] at hterminal
        cases hterminal
    · obtain rfl := hsame hgen
      rw [hrun]
      rcases hobserved with ⟨e, he, -⟩ | ⟨-, -, gone, hgone, hstored⟩
      · exact absurd he (hnew e)
      refine ⟨fun hfree id' e' hne => ?_, fun hfull => ?_⟩
      · have hall := (hgone.resolve_right fun h => hfree h.1).2
        refine (hstored id' e').trans ?_
        rw [if_neg hne]
        exact and_iff_right (hall id')
      · obtain ⟨-, id₀, e₀, holdest, hgone⟩ := hgone.resolve_left fun h => h.1 hfull
        refine ⟨id₀, e₀, holdest, fun id' e' hne => ?_⟩
        refine (hstored id' e').trans ?_
        rw [if_neg hne, hgone]
    · rcases hprepared with ⟨hsame, -⟩ | ⟨-, hall, rfl⟩
      · omega
      refine ⟨⟨fun _ => hall, fun _ => hok⟩, fun _ => ?_⟩
      rw [hrun]
      refine ⟨hgeneration, fun id' e' he' => ?_⟩
      rcases hobserved with ⟨e, he, -⟩ | ⟨-, -, gone, -, hstored⟩
      · exact absurd he not_stored_reset
      · by_contra hne
        have hold := (hstored id' e').mp he'
        rw [if_neg hne] at hold
        exact not_stored_reset hold.2
  | error =>
    obtain ⟨-, -, -, hwhy⟩ := wp_error hspec hrun
    have hnot : succeeds (observe id fingerprint s) = false := by rw [hrun]; rfl
    refine ⟨fun _ answer index s'' hok => ?_, fun hsame => ?_, fun _ _ hok => ?_, fun hnew => ?_⟩
    · rw [hrun] at hok
      cases hok
    · rw [hrun]
      rcases hwhy with (⟨hold, -⟩ | ⟨hnew, -⟩) | ⟨-, rfl, hrefused⟩
      · omega
      · omega
      · refine ⟨⟨fun _ => hrefused, fun _ => rfl⟩, fun error herror => ?_⟩
        exact (Option.some.inj herror).symm
    · rw [hnot] at hok
      cases hok
    · rw [hnot]
      rcases hwhy with (⟨hold, -⟩ | ⟨-, hbusy, -⟩) | ⟨hsame, -⟩
      · omega
      · exact ⟨⟨fun hok => Bool.noConfusion hok, fun hall => absurd hall hbusy⟩,
          fun hok => Bool.noConfusion hok⟩
      · omega

end TransactionLedger

namespace LedgerOp

open TransactionLedger

variable {s : TransactionLedger} {op : LedgerOp} {id : Identity}

theorem exec_sound (hs : s.Sound) (hproper : op.IsProper) (hepoch : s.epoch + 1 < 2 ^ 64) :
    (op.exec s).Sound ∧ (op.exec s).epoch ≤ s.epoch + 1 := by
  cases op with
  | observe =>
    exact wp_finalState (R := fun t => t.Sound ∧ t.epoch ≤ s.epoch + 1)
      (wp_mono (observe_wp hs hepoch hproper.1 hproper.2) (fun _ _ h => ⟨h.1, h.2.1⟩)
        fun _ _ h => ⟨h.1, h.2.1⟩)
  | transition _ target status =>
    refine wp_finalState (R := fun t => t.Sound ∧ t.epoch ≤ s.epoch + 1)
      (wp_mono (transition_wp hs hepoch hproper target status) (fun _ _ h => ⟨h.1, h.2.1⟩) ?_)
    rintro error t ⟨rfl, -⟩
    exact ⟨hs, Nat.le_succ _⟩

theorem run_sound {ops : List LedgerOp} (hs : s.Sound) (hproper : ∀ op ∈ ops, op.IsProper)
    (hepoch : s.epoch + ops.length < 2 ^ 64) :
    (runAll exec s ops).Sound ∧ (runAll exec s ops).epoch ≤ s.epoch + ops.length := by
  induction ops generalizing s with
  | nil => exact ⟨hs, le_rfl⟩
  | cons op _ ih =>
    rw [List.length_cons] at hepoch
    obtain ⟨hop, hle⟩ := exec_sound hs (hproper op List.mem_cons_self) (by omega)
    obtain ⟨hrest, hle'⟩ :=
      ih hop (fun op' hop' => hproper op' (List.mem_cons_of_mem op hop')) (by omega)
    exact ⟨hrest, hle'.trans (by rw [List.length_cons]; omega)⟩

/-- What a call leaves of the entries. -/
structure Keeps (op : LedgerOp) (s : TransactionLedger) : Prop where
  /-- An active entry is kept, and changes only by a legal transition. -/
  active : ∀ id e, s.Stored id e → e.isTerminal = false → ∃ e', (op.exec s).Stored id e' ∧
    e'.payloadFingerprint = e.payloadFingerprint ∧ (e'.state = e.state ∨ ∃ target status,
      op = .transition id target status ∧ e'.state = target ∧
      LedgerState.transitionIsLegal e.state target)
  /-- An entry is dropped when its generation ends, or as the oldest terminal one of a full ledger.
  -/
  stays : ∀ id e, s.Stored id e → (∃ e', (op.exec s).Stored id e') ∨ ∃ id' fingerprint,
    op = .observe id' fingerprint ∧ (s.activeControlGeneration < id'.controlGeneration ∧
        (∀ id e, s.Stored id e → e.isTerminal) ∨
      id'.controlGeneration = s.activeControlGeneration ∧ (∀ e, ¬s.Stored id' e) ∧ s.Full ∧
        s.Oldest id e)

theorem keeps_of_kept (h : ∀ id e, s.Stored id e → ∃ e', (op.exec s).Stored id e' ∧
    e'.payloadFingerprint = e.payloadFingerprint ∧ e'.state = e.state) : op.Keeps s := by
  refine ⟨fun id e he _ => ?_, fun id e he => ?_⟩
  · obtain ⟨e', he', hfingerprint, hstate⟩ := h id e he
    exact ⟨e', he', hfingerprint, .inl hstate⟩
  · obtain ⟨e', he', -⟩ := h id e he
    exact .inl ⟨e', he'⟩

variable (hs : s.Sound) (hepoch : s.epoch + 1 < 2 ^ 64) (hvalid : identityIsValid id)
include hs hepoch hvalid

theorem keeps_observe {fingerprint : Nat} (hfingerprint : fingerprint ≠ 0) :
    (observe id fingerprint).Keeps s := by
  have hexec : (observe id fingerprint).exec s =
    finalState (TransactionLedger.observe id fingerprint s) := rfl
  have hspec := observe_wp hs hepoch hvalid hfingerprint
  cases hrun : TransactionLedger.observe id fingerprint s with
  | ok _ s' =>
    obtain ⟨-, -, -, t, hprepared, hobserved⟩ := wp_ok hspec hrun
    rw [hrun] at hexec
    rcases hprepared with ⟨hsame, rfl⟩ | ⟨hlt, hall, rfl⟩
    · rcases hobserved with ⟨e₀, he₀, -, hstored⟩ | ⟨hnew, -, gone, hgone, hstored⟩
      · -- the entry is touched
        refine keeps_of_kept fun id' e he => ?_
        rw [hexec]
        by_cases hid : id' = id
        · subst hid
          obtain rfl := hs.stored_unique he he₀
          exact ⟨e.observedAt s'.epoch, (hstored id' _).mpr (by rw [if_pos rfl]), rfl, rfl⟩
        · exact ⟨e, (hstored id' e).mpr (by rwa [if_neg hid]), rfl, rfl⟩
      · -- a new entry; only a terminal one may be gone
        have hne id' e (he : t.Stored id' e) : id' ≠ id := by
          rintro rfl
          exact hnew e he
        refine ⟨fun id' e he hactive => ⟨e, ?_, rfl, .inl rfl⟩, fun id' e he => ?_⟩
        · rw [hexec]
          refine (hstored id' e).mpr ?_
          rw [if_neg (hne id' e he)]
          refine ⟨fun hgone' => ?_, he⟩
          rcases hgone with ⟨-, hnone⟩ | ⟨-, id₀, e₀, ⟨he₀, hterminal, -⟩, honly⟩
          · exact hnone id' hgone'
          · obtain rfl := (honly id').mp hgone'
            rw [hs.stored_unique he he₀, hterminal] at hactive
            cases hactive
        · by_cases hgone' : gone id'
          · refine .inr ⟨id, fingerprint, rfl, .inr ⟨hsame, hnew, ?_⟩⟩
            rcases hgone with ⟨-, hnone⟩ | ⟨hfull, id₀, e₀, holdest, honly⟩
            · exact absurd hgone' (hnone id')
            · obtain rfl := (honly id').mp hgone'
              rw [hs.stored_unique he holdest.1]
              exact ⟨hfull, holdest⟩
          · rw [hexec]
            refine .inl ⟨e, (hstored id' e).mpr ?_⟩
            rw [if_neg (hne id' e he)]
            exact ⟨hgone', he⟩
    · refine ⟨fun id' e he hactive => ?_, fun id' e he => .inr ⟨id, fingerprint, rfl,
        .inl ⟨hlt, hall⟩⟩⟩
      rw [hall id' e he] at hactive
      cases hactive
  | error =>
    obtain ⟨-, -, hrest, -⟩ := wp_error hspec hrun
    rw [hrun] at hexec
    refine keeps_of_kept fun id' e he => ⟨e, ?_, rfl, rfl⟩
    rw [hexec]
    exact (hrest id' e).mpr he

theorem keeps_transition (target : LedgerState) (status : SparkStatus) :
    (transition id target status).Keeps s := by
  have hcases : (transition id target status).exec s = s ∨
      s.Moved id target status ((transition id target status).exec s) :=
    wp_finalState (R := fun s' => s' = s ∨ s.Moved id target status s')
      (wp_mono (transition_wp hs hepoch hvalid target status) (fun _ _ h => .inr h.2.2.2)
        fun _ _ h => .inl h.1)
  rcases hcases with hsame | ⟨-, e₀, he₀, -, hlegal, hrest⟩
  · exact keeps_of_kept fun id' e he => ⟨e, by rwa [hsame], rfl, rfl⟩
  refine ⟨fun id' e he _ => ?_, fun id' e he => .inl ?_⟩
  all_goals
    by_cases hid : id' = id
  · subst hid
    obtain rfl := hs.stored_unique he he₀
    exact ⟨_, (hrest id' _).mpr ((if_pos rfl).mpr rfl), rfl,
      .inr ⟨target, status, rfl, rfl, hlegal⟩⟩
  · exact ⟨e, (hrest id' e).mpr (by rwa [if_neg hid]), rfl, .inl rfl⟩
  · subst hid
    exact ⟨_, (hrest id' _).mpr ((if_pos rfl).mpr rfl)⟩
  · exact ⟨e, (hrest id' e).mpr (by rwa [if_neg hid])⟩

end LedgerOp

/-- A ledger of at most `2 ^ 31` cells is a bounded map over fewer than `2 ^ 64` calls: its check
passes, what is stored is found, and every call answers and keeps entries as it should. -/
theorem ledger_is_bounded_map {entryCapacity : Nat} (hpos : 1 ≤ entryCapacity)
    (hsmall : entryCapacity ≤ 2 ^ 31) {s₀ : TransactionLedger}
    (hnew : TransactionLedger.new entryCapacity = .ok s₀) {ops : List LedgerOp}
    (hproper : ∀ op ∈ ops, op.IsProper) (hlength : ops.length < 2 ^ 64) :
    let s := runAll LedgerOp.exec s₀ ops
    s.isValid = true ∧
    (∀ id e, s.Stored id e → ∃ i, s.findInternal id = some i ∧ s.entry i = e) ∧
    ∀ before op after, ops = before ++ op :: after →
      let t := runAll LedgerOp.exec s₀ before
      op.Keeps t ∧ ∀ id fingerprint, op = .observe id fingerprint → t.Answers id fingerprint := by
  intro s
  have hstart : s₀.Sound ∧ s₀.epoch = 0 := by
    rw [TransactionLedger.new, if_neg (by omega)] at hnew
    obtain rfl := Except.ok.inj hnew
    exact ⟨TransactionLedger.sound_of_vacant hpos hsmall 0, rfl⟩
  have hrun := LedgerOp.run_sound hstart.1 hproper (by omega)
  refine ⟨hrun.1.isValid, fun id e he => ?_, ?_⟩
  · obtain ⟨i, hi, hlook⟩ := TransactionLedger.stored_iff.mp he
    exact ⟨i, hrun.1.findInternal_eq_some_iff.mpr hlook, hi⟩
  rintro before op after rfl t
  rw [List.length_append, List.length_cons] at hlength
  obtain ⟨ht, hepoch⟩ : t.Sound ∧ t.epoch ≤ s₀.epoch + before.length :=
    LedgerOp.run_sound hstart.1 (fun op' hop' => hproper op' (List.mem_append_left _ hop'))
      (by omega)
  have hproper := hproper op (by simp)
  have hepoch : t.epoch + 1 < 2 ^ 64 :=
    Nat.lt_of_le_of_lt (Nat.succ_le_succ hepoch) (by omega)
  cases op with
  | observe =>
    refine ⟨LedgerOp.keeps_observe ht hepoch hproper.1 hproper.2, ?_⟩
    rintro _ _ ⟨rfl, rfl⟩
    exact TransactionLedger.answers_of_sound ht hepoch hproper.1 hproper.2
  | transition _ target status =>
    refine ⟨LedgerOp.keeps_transition ht hepoch hproper target status, ?_⟩
    intro _ _ heq
    cases heq

/-- A transaction of a small ledger. -/
def smallIdentity (transactionId : Nat) : Identity where
  controlGeneration := 7
  transactionId
  dispatchGeneration := 1
  requestGeneration := 1
  stepGeneration := 1
  stepChunkCount := 1
  transactionPhase := 1

/-- Two transactions in a ledger of one cell: the first one fails and is recycled. -/
def recycledRun : List LedgerOp :=
  [.observe (smallIdentity 1) 5, .transition (smallIdentity 1) .failed .ioError,
    .observe (smallIdentity 2) 6]

/-- After the recycling, the first transaction is refused, since it is forgotten. -/
theorem ledger_is_bounded_map_recycled :
    let s := runAll LedgerOp.exec ((TransactionLedger.new 1).toOption.get rfl) recycledRun
    s.entryCount = 1 ∧ s.isValid = true ∧
      succeeds (TransactionLedger.observe (smallIdentity 1) 5 s) = false ∧
      ∀ e, ¬s.Stored (smallIdentity 1) e := by
  intro s
  have hproper : ∀ op ∈ recycledRun ++ [.observe (smallIdentity 1) 5], op.IsProper := by
    intro op hop
    simp only [recycledRun, List.cons_append, List.nil_append, List.mem_cons, List.not_mem_nil,
      or_false] at hop
    rcases hop with rfl | rfl | rfl | rfl
    · exact ⟨rfl, by decide⟩
    · exact rfl
    · exact ⟨rfl, by decide⟩
    · exact ⟨rfl, by decide⟩
  have hanswers : s.Answers (smallIdentity 1) 5 :=
    ((ledger_is_bounded_map le_rfl (by decide) rfl hproper (by decide)).2.2 recycledRun _ [] rfl).2
      _ _ rfl
  have hvalid : s.isValid = true := (ledger_is_bounded_map le_rfl (by decide) rfl
    (fun op hop => hproper op (List.mem_append_left _ hop)) (by decide)).1
  have hrefused : succeeds (TransactionLedger.observe (smallIdentity 1) 5 s) = false := by
    decide +kernel
  exact ⟨by decide +kernel, hvalid, hrefused,
    ((hanswers.refuses (by decide +kernel)).1.mp hrefused).1⟩

end SparkPipe
