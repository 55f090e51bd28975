import SparkPipe.Node.RankDaemon.LedgerCells

/-!
# What the ledger says about a transaction

For the daemon an entry of the ledger is the fingerprint, the state and the terminal status of a
transaction; the cell and the epoch do not matter. The calls of the daemon are described by this
view: an observation of a known transaction changes nothing, that of a new one may forget a terminal
transaction, and a transition moves one transaction. This holds over every number of calls.
-/

open Program

namespace SparkPipe

open WorkControl

/-- What the ledger says about a transaction. -/
structure Mark where
  payloadFingerprint : Nat
  state : LedgerState
  terminalStatus : SparkStatus
  deriving DecidableEq

namespace Mark

/-- A transaction that was brought into a state. -/
def moved (mark : Mark) (targetState : LedgerState) (terminalStatus : SparkStatus) : Mark :=
  { mark with
    state := targetState
    terminalStatus := if targetState.isTerminal then terminalStatus else .pending }

/-- The outcome of a transition; only one that is carried out is `ok`. -/
def moveStatus (mark : Option Mark) (payloadFingerprint : Nat) (targetState : LedgerState)
    (terminalStatus : SparkStatus) : SparkStatus :=
  match mark with
  | none => .notFound
  | some mark =>
    if mark.payloadFingerprint ≠ payloadFingerprint then .validationFailed
    else if mark.state.isTerminal then
      if mark.state = targetState ∧ mark.terminalStatus = terminalStatus then .duplicate
      else .validationFailed
    else if LedgerState.transitionIsLegal mark.state targetState then .ok
    else .validationFailed

theorem moveStatus_some {mark : Mark} {fingerprint : Nat}
    (h : mark.payloadFingerprint = fingerprint) (target : LedgerState) (status : SparkStatus) :
    moveStatus (some mark) fingerprint target status =
      if mark.state.isTerminal then
        if mark.state = target ∧ mark.terminalStatus = status then .duplicate else .validationFailed
      else if LedgerState.transitionIsLegal mark.state target then .ok
      else .validationFailed := if_neg (not_not.mpr h)

end Mark

def LedgerEntry.mark (entry : LedgerEntry) : Mark :=
  ⟨entry.payloadFingerprint, entry.state, entry.terminalStatus⟩

namespace TransactionLedger

variable {s t s' : TransactionLedger} {id id' : Identity} {e : LedgerEntry} {m : Mark} {i : Nat}
  {fingerprint : Nat}

def mark (s : TransactionLedger) (id : Identity) : Option Mark :=
  (s.findInternal id).map fun index => (s.entry index).mark

theorem Mapped.mark_eq_some_iff (h : s.Mapped) :
    s.mark id = some m ↔ ∃ e, s.Stored id e ∧ e.mark = m := by
  rw [mark, Option.map_eq_some_iff]
  constructor
  · rintro ⟨i, hfind, rfl⟩
    exact ⟨s.entry i, stored_iff.mpr ⟨i, rfl, h.findInternal_eq_some_iff.mp hfind⟩, rfl⟩
  · rintro ⟨e, he, rfl⟩
    obtain ⟨i, rfl, hlook⟩ := stored_iff.mp he
    exact ⟨i, h.findInternal_eq_some_iff.mpr hlook, rfl⟩

theorem Mapped.mark_eq_none_iff (h : s.Mapped) : s.mark id = none ↔ ∀ e, ¬s.Stored id e := by
  rw [mark, Option.map_eq_none_iff, h.findInternal_eq_none_iff]

theorem Mapped.mark_of_look (h : s.Mapped) (hlook : s.look i = .held id) :
    s.mark id = some (s.entry i).mark :=
  h.mark_eq_some_iff.mpr ⟨_, stored_iff.mpr ⟨i, rfl, hlook⟩, rfl⟩

theorem Mapped.mark_congr (h : s.Mapped) (h' : s'.Mapped)
    (hsame : ∀ e, s'.Stored id e ↔ s.Stored id e) : s'.mark id = s.mark id := by
  refine Option.ext fun m => ?_
  rw [h'.mark_eq_some_iff, h.mark_eq_some_iff]
  simp only [hsame]

theorem Mapped.mark_of_put (h : s.Mapped) (h' : s'.Mapped)
    (hstored : ∀ id' e', s'.Stored id' e' ↔ if id' = id then e' = e else s.Stored id' e') :
    s'.mark id' = if id' = id then some e.mark else s.mark id' := by
  split_ifs with hid
  · exact h'.mark_eq_some_iff.mpr ⟨e, (hstored id' e).mpr (by rw [if_pos hid]), rfl⟩
  · refine h.mark_congr h' fun e' => ?_
    rw [hstored, if_neg hid]

theorem Mapped.mark_of_generation (h : s.Mapped)
    (hother : id.controlGeneration ≠ s.activeControlGeneration) : s.mark id = none := by
  refine h.mark_eq_none_iff.mpr fun e he => ?_
  obtain ⟨i, rfl, hlook⟩ := stored_iff.mp he
  obtain ⟨hheld, rfl⟩ := LedgerEntry.cell_eq_held.mp hlook
  exact hother (h.valid hheld).2

/-! ### The calls of the daemon -/

/-- At most a terminal transaction is forgotten, and one identity changed. -/
def KeepsOthers (s : TransactionLedger) (id : Identity) (s' : TransactionLedger) : Prop :=
  ∀ id', id' ≠ id → s'.mark id' = s.mark id' ∨
    s'.mark id' = none ∧ ∃ m, s.mark id' = some m ∧ m.state.isTerminal

/-- A new transaction is known now; a terminal one may have been forgotten. -/
def Adds (s : TransactionLedger) (id : Identity) (fingerprint : Nat) (s' : TransactionLedger) :
    Prop :=
  s.mark id = none ∧ s'.mark id = some ⟨fingerprint, .prepared, .pending⟩ ∧ s.KeepsOthers id s'

theorem Mapped.mark_of_roomy (h : s.Mapped) (ht : s.Roomy t) : t.mark id = s.mark id ∨
      t.mark id = none ∧ ∃ m, s.mark id = some m ∧ m.state.isTerminal = true := by
  rcases ht with ⟨-, rfl⟩ | ⟨-, j, holdest, rfl⟩
  · exact .inl rfl
  have hterminal := (oldestTerminalEntry_eq_some holdest).1
  obtain ⟨hmapped, hstored⟩ := h.recycledAt hterminal
  by_cases hid : id = (s.entry j).identity
  · have hlook : s.look j = .held id := by
      rw [hid]
      exact LedgerEntry.cell_of_isStored (LedgerEntry.isStored_of_isTerminal hterminal)
    refine .inr ⟨?_, _, h.mark_of_look hlook, hterminal⟩
    rw [hmapped.mark_eq_none_iff]
    intro e he
    exact ((hstored id e).mp he).1 hid
  · refine .inl (h.mark_congr hmapped fun e => ?_)
    rw [hstored]
    exact and_iff_right hid

theorem Mapped.adds (h : t.Mapped) (hvalid : identityIsValid id)
    (hgeneration : id.controlGeneration = t.activeControlGeneration)
    (hnew : ∀ e, ¬t.Stored id e) {r : TransactionLedger} (hroomy : t.Roomy r)
    (hfits : r.Fits id i) (fingerprint epoch : Nat) :
    ((r.uncounted i).insertedAt i (preparedEntry id fingerprint epoch)).Mapped ∧
      t.Adds id fingerprint
        ((r.uncounted i).insertedAt i (preparedEntry id fingerprint epoch)) := by
  obtain ⟨hr, -, hrgeneration, hrstored⟩ := h.roomy hroomy
  obtain ⟨hmapped, -, -, -, hstored⟩ :=
    hr.insertedAt (e := preparedEntry id fingerprint epoch) hfits
      (fun e he => hnew e (hrstored id e he)) hvalid (hgeneration.trans hrgeneration.symm) rfl rfl
  refine ⟨hmapped, h.mark_eq_none_iff.mpr hnew, ?_, fun id' hne => ?_⟩
  · rw [hr.mark_of_put hmapped hstored, if_pos rfl]
    rfl
  · rw [hr.mark_of_put hmapped hstored, if_neg hne]
    exact h.mark_of_roomy hroomy

theorem Mapped.adds_of_prepared (h : s.Mapped) (ht : s.Prepared id.controlGeneration t)
    (hadds : t.Adds id fingerprint s') : s.Adds id fingerprint s' := by
  rcases ht with ⟨-, rfl⟩ | ⟨hlt, hall, rfl⟩
  · exact hadds
  obtain ⟨-, hmark, hrest⟩ := hadds
  refine ⟨h.mark_of_generation (Nat.ne_of_gt hlt), hmark, fun id' hne => ?_⟩
  have hnone : (s.reset id.controlGeneration).mark id' = none :=
    (h.reset _).mark_eq_none_iff.mpr fun _ => not_stored_reset
  have hgone : s'.mark id' = none := by
    rcases hrest id' hne with hsame | ⟨hgone, -⟩
    · rw [hsame, hnone]
    · exact hgone
  cases hmark : s.mark id' with
  | none => exact .inl hgone
  | some =>
    obtain ⟨e, he, rfl⟩ := h.mark_eq_some_iff.mp hmark
    exact .inr ⟨hgone, e.mark, rfl, hall id' e he⟩

theorem Roomy.entryCapacity (h : s.Roomy t) : t.entryCapacity = s.entryCapacity := by
  rcases h with ⟨-, rfl⟩ | ⟨-, j, -, rfl⟩
  · rfl
  · exact List.length_set

theorem Prepared.entryCapacity {generation : Nat} (h : s.Prepared generation t) :
    t.entryCapacity = s.entryCapacity := by
  rcases h with ⟨-, rfl⟩ | ⟨-, -, rfl⟩
  · rfl
  · exact List.length_replicate

theorem distributedObserve_wp (h : s.Mapped) (hvalid : identityIsValid id)
    (hfingerprint : fingerprint ≠ 0) :
    wp (distributedObserve id fingerprint) (fun _ s' => s'.Mapped ∧
        s'.entryCapacity = s.entryCapacity ∧ s.Adds id fingerprint s')
      (fun error s' => s'.Mapped ∧ (∀ id', s'.mark id' = s.mark id') ∧
        (error = .duplicate ↔ ∃ m, s.mark id = some m ∧ m.payloadFingerprint = fingerprint) ∧
        ((∃ m, s.mark id = some m ∧ m.payloadFingerprint ≠ fingerprint) →
          error = .validationFailed) ∧
        (s.mark id = none → s.Full ∨ ∃ e, s.Unprepared id.controlGeneration e)) s := by
  rw [distributedObserve, wp_bind]
  refine wp_mono (observe_cells h hvalid hfingerprint) ?_ ?_
  · rintro ⟨answer, index⟩ s' ⟨t, hprepared, ⟨i, hlook, hanswer, rfl⟩ | ⟨hnew, hanswer, hroom⟩⟩
    · -- a known transaction, so the generation is the active one
      obtain rfl : t = s := by
        rcases hprepared with ⟨-, rfl⟩ | ⟨-, -, rfl⟩
        · rfl
        · exact absurd (stored_iff.mpr ⟨i, rfl, hlook⟩) not_stored_reset
      have hmark := h.mark_of_look hlook
      obtain ⟨hmapped, hstored⟩ := h.bumpEpoch.touchedAt hlook
      have hsame id' : (t.bumpEpoch.touchedAt i).mark id' = t.mark id' := by
        rw [h.bumpEpoch.mark_of_put hmapped hstored]
        split_ifs with hid
        · rw [hid, hmark]
          rfl
        · exact h.mark_congr h.bumpEpoch fun _ => Iff.rfl
      have hfp : (t.entry i).mark.payloadFingerprint = (t.entry i).payloadFingerprint := rfl
      rw [answerOf] at hanswer
      split_ifs at hanswer with hconflict hterminal <;> subst hanswer
      all_goals
        refine ⟨hmapped, hsame, ?_⟩
        simp_all
    · obtain ⟨r, i, hroomy, hfits, rfl⟩ := hroom
      subst hanswer
      obtain ⟨ht, -, hgeneration⟩ := h.prepared hprepared
      obtain ⟨hmapped, hadds⟩ := ht.bumpEpoch.adds hvalid hgeneration.symm hnew hroomy hfits
        fingerprint t.bumpEpoch.epoch
      refine ⟨hmapped, ?_, h.adds_of_prepared hprepared ?_⟩
      · rw [uncounted_eq]
        exact (List.length_set.trans hroomy.entryCapacity).trans hprepared.entryCapacity
      have hsame id' : t.bumpEpoch.mark id' = t.mark id' :=
        ht.mark_congr ht.bumpEpoch fun _ => Iff.rfl
      simpa only [Adds, KeepsOthers, hsame] using hadds
  · rintro error s' (⟨rfl, hrefused⟩ | ⟨-, rfl, hnew, hfull, -, rfl⟩)
    · have hunknown : s'.mark id = none ∧ error ≠ .duplicate := by
        rcases hrefused with ⟨hlt, rfl⟩ | ⟨hlt, -, rfl⟩
        · exact ⟨h.mark_of_generation (Nat.ne_of_lt hlt), by decide⟩
        · exact ⟨h.mark_of_generation (Nat.ne_of_gt hlt), by decide⟩
      exact ⟨h, fun _ => rfl, by simp [hunknown], by simp [hunknown], fun _ => .inr ⟨_, hrefused⟩⟩
    · have hunknown := h.mark_eq_none_iff.mpr hnew
      exact ⟨h.bumpEpoch, fun id' => h.mark_congr h.bumpEpoch fun _ => Iff.rfl,
        by simp [hunknown], by simp [hunknown], fun _ => .inl hfull⟩

theorem find_wp (h : s.Mapped) (id : Identity) :
    wp (find id) (fun e s' => s' = s ∧ identityIsValid id ∧ s.mark id = some e.mark)
      (fun error s' => s' = s ∧ error ≠ .ok ∧
        (identityIsValid id → error = .notFound ∧ s.mark id = none)) s := by
  rw [find, wp_bind, h.wp_validate]
  refine wp_ite.mpr ⟨fun hbad => ⟨rfl, by decide, fun hvalid => ?_⟩, fun hvalid => ?_⟩
  · rw [hvalid] at hbad
    cases hbad
  · rw [wp_read, wp_bind, wp_orFail]
    refine ⟨fun i hfind => ⟨rfl, Bool.eq_true_of_not_eq_false hvalid, ?_⟩,
      fun hnone => ⟨rfl, by decide, fun _ => ⟨rfl, ?_⟩⟩⟩
    · rw [mark, hfind]
      rfl
    · rw [mark, hnone]
      rfl

theorem distributedTransition_wp (h : s.Mapped) (id : Identity) (target : LedgerState)
    (status : SparkStatus) :
    wp (distributedTransition id fingerprint target status)
      (fun _ s' => s'.Mapped ∧ s'.entryCapacity = s.entryCapacity ∧
        Mark.moveStatus (s.mark id) fingerprint target status = .ok ∧ ∀ id', s'.mark id' =
          if id' = id then (s.mark id).map fun m => m.moved target status else s.mark id')
      (fun error s' => s' = s ∧ error ≠ .ok ∧ (identityIsValid id → target.isStored →
        Mark.moveStatus (s.mark id) fingerprint target status = error)) s := by
  rw [distributedTransition, wp_bind, distributedFind, wp_bind]
  refine wp_mono (find_wp h id) ?_ ?_
  · rintro e t ⟨rfl, hvalid, hmark⟩
    refine wp_ite.mpr ⟨fun hother => ⟨rfl, by decide, fun _ _ => ?_⟩, fun hsame => ?_⟩
    · rw [hmark]
      exact if_pos hother
    have hsame : e.mark.payloadFingerprint = fingerprint := not_not.mp hsame
    have hmove := Mark.moveStatus_some hsame target status
    rw [wp_pure, wp_bind, wp_attempt, hmark, hmove]
    -- the cell that the transition reads holds what was found
    have hentry {e' : LedgerEntry} he' : e'.mark = e.mark :=
      Option.some.inj ((h.mark_eq_some_iff.mpr ⟨e', he', rfl⟩).symm.trans hmark)
    refine wp_mono (transition_cells h hvalid target status) ?_ ?_
    · rintro _ s' ⟨htarget, i, hlook, hactive, hlegal, rfl⟩
      have hentry := hentry (stored_iff.mpr ⟨i, rfl, hlook⟩)
      have hactive : (t.entry i).mark.state.isTerminal = false := hactive
      have hlegal : LedgerState.transitionIsLegal (t.entry i).mark.state target = true := hlegal
      obtain ⟨hmapped, -, -, -, hstored⟩ := h.moveEntry hlook hactive htarget status
      refine ⟨hmapped, ?_, ?_, fun id' => ?_⟩
      · rw [moveEntry_eq]
        exact List.length_set
      · rw [← hentry, hactive, hlegal]
        rfl
      · rw [h.mark_of_put hmapped hstored, ← hentry]
        rfl
    · rintro error s' ⟨rfl, ⟨hbad, rfl⟩ | ⟨hnone, -⟩ | ⟨e', he', hwhy⟩⟩
      · refine ⟨rfl, by decide, fun _ htarget => ?_⟩
        rw [htarget] at hbad
        cases hbad
      · rw [h.mark_eq_none_iff.mpr hnone] at hmark
        cases hmark
      rw [← hentry he']
      rcases hwhy with ⟨hterminal, rfl⟩ | ⟨hactive, hillegal, rfl⟩
      · rw [show e'.mark.state.isTerminal = true from hterminal]
        by_cases hdone : e'.state = target ∧ e'.terminalStatus = status
        · rw [if_pos hdone]
          exact ⟨rfl, by decide, fun _ _ => if_pos hdone⟩
        · rw [if_neg hdone]
          exact ⟨rfl, by decide, fun _ _ => if_neg hdone⟩
      · rw [show e'.mark.state.isTerminal = false from hactive,
          show LedgerState.transitionIsLegal e'.mark.state target = false from hillegal]
        exact ⟨rfl, by decide, fun _ _ => rfl⟩
  · rintro error t ⟨rfl, herror, hwhy⟩
    refine ⟨rfl, herror, fun hvalid _ => ?_⟩
    obtain ⟨rfl, hmark⟩ := hwhy hvalid
    rw [hmark]
    rfl

end TransactionLedger

end SparkPipe
