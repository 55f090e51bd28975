import SparkPipe.Node.RankDaemon.Rounds
import SparkPipe.Program.Transition

/-!
# Runs of the daemon

A rank serves: packets arrive, the queue is worked on and woken, and completions are processed, in
any order and with any answers of the next rank and of the engine. What every elementary step
preserves holds over a whole run. In particular the queue, the ledger and the table of transactions
agree: a queued transaction is accepted, one that the engine has is executing, and no transaction is
queued twice.
-/

open Program

namespace SparkPipe

open WorkControl List

namespace RankDaemonCore

variable {s s' : RankDaemonCore} {I : RankDaemonCore → Prop}

/-- Only what waits to be processed or reported has changed. -/
def Reports (s s' : RankDaemonCore) : Prop :=
  ∃ waiting overflow events, s' = { s with
    driverCompletionQueue := waiting
    driverCompletionQueueOverflow := overflow
    finalEventQueue := events }

/-- What a method of the core can do to it. -/
inductive Steps (s : RankDaemonCore) : DaemonOp → RankDaemonCore → Prop
  | stays (op : DaemonOp) : Steps s op s
  | handles (packet : WorkControlPacket) (answer : SparkStatus) (s' : RankDaemonCore)
      (hcall : handleWork packet s = .ok answer s') (h : s.Handles packet answer s') :
      Steps s (.handleWork packet) s'
  | wakes : Steps s .wakeDeferredWork s.wakeDeferredWork
  | completes (op : DaemonOp) (s' : RankDaemonCore) (h : s.Completes s') : Steps s op s'
  | reports (op : DaemonOp) (s' : RankDaemonCore) (h : s.Reports s') : Steps s op s'
  | queues (packet : WorkControlPacket) (queue : List QueuedWork) (h : s.Queues packet queue) :
      Steps s (.queueWork packet) { s with queue := queue }
  | relabels (packet : WorkControlPacket) (target : LedgerState) (status : SparkStatus)
      (m : Option Mark) (s' : RankDaemonCore) (h : s.Relabels (identity packet) m s') :
      Steps s (.transitionPacket packet target status) s'
  | registers (packet : WorkControlPacket) (key : Option Nat) (s' : RankDaemonCore)
      (h : s.Registers packet key s') : Steps s (.registerInflightTransaction packet) s'
  | cancels (key : Nat) : Steps s (.cancelInflightTransaction key) (s.cancelled key)

theorem pumpDriverCompletions_invariant (hmapped : ∀ s, I s → s.ledger.Mapped)
    (hsteps : ∀ s s', I s → s.Steps .pumpDriverCompletions s' → I s') (h : I s) :
    wp pumpDriverCompletions (fun _ s' => I s') (fun _ _ => False) s := by
  have hdrain fuel : ∀ progress s, I s →
      wp (drainDriverCompletions fuel progress) (fun _ s' => I s') (fun _ _ => False) s := by
    induction fuel with
    | zero => exact fun _ s h => h
    | succ fuel ih =>
      intro progress s h
      rw [drainDriverCompletions, wp_read]
      cases s.driverCompletionQueue with
      | nil => exact h
      | cons record =>
        rw [wp_bind, wp_attempt]
        -- A completion that was processed or rejected is dropped.
        have hnext {t : RankDaemonCore} (ht : I t) : wp (do
              modify fun core : RankDaemonCore =>
                { core with driverCompletionQueue := core.driverCompletionQueue.tail }
              drainDriverCompletions fuel 1) (fun _ s' => I s') (fun _ _ => False) t := by
          rw [wp_bind, wp_modify]
          exact ih 1 _ (hsteps t _ ht (.reports _ _ ⟨_, _, _, rfl⟩))
        refine wp_mono (processDriverCompletion_wp (hmapped s h) record) ?_ ?_
        · exact fun _ t ht => hnext (hsteps s t h (.completes _ _ ht))
        · intro error t ht
          have hafter := hsteps s t h (.completes _ _ ht)
          by_cases hbusy : error = .busy
          · subst hbusy
            exact hafter
          · cases error <;> first | exact absurd rfl hbusy | exact hnext hafter
  rw [pumpDriverCompletions, wp_read]
  refine wp_ite.mpr ⟨fun _ => ?_, fun _ => hdrain _ 0 s h⟩
  rw [wp_bind, wp_set]
  exact hsteps s _ h (.reports _ _ ⟨_, _, _, rfl⟩)

theorem onDaemon_invariant (hmapped : ∀ s, I s → s.ledger.Mapped)
    {op : DaemonOp} (hsteps : ∀ t s', I t → t = s ∨ op = .pumpDriverCompletions →
      t.Steps op s' → I s') (h : I s) : I (finalState (op.onDaemon s)) := by
  have hmapped' := hmapped s h
  have hstep {s' : RankDaemonCore} hs' : I s' := hsteps s s' h (.inl rfl) hs'
  have hdiscard {α : Type} {m : DaemonM α} (hm : wp m (fun _ s' => I s') (fun _ s' => I s') s) :
      I (finalState ((discard m : DaemonM Unit) s)) := by
    refine wp_finalState ?_
    rw [show (discard m : DaemonM Unit) = (fun _ => ()) <$> m from rfl, wp_map]
    exact hm
  cases op with
  | handleWork packet =>
    refine hdiscard (wp_mono (wp_outcome (handleWork_wp hmapped' packet)) ?_ fun _ _ h => h.1.elim)
    rintro answer s' ⟨hhandles, hcall⟩
    exact hstep (.handles packet answer s' hcall hhandles)
  | pumpQueuedWork => exact h
  | wakeDeferredWork => exact hstep .wakes
  | queueDriverCompletion record =>
    refine wp_finalState (wp_mono (queueDriverCompletion_wp record) ?_ ?_)
    · rintro _ s' rfl
      exact hstep (.reports _ _ ⟨_, _, _, rfl⟩)
    · rintro _ s' ⟨overflow, rfl⟩
      exact hstep (.reports _ _ ⟨_, _, _, rfl⟩)
  | processDriverCompletion record =>
    exact wp_finalState (wp_mono
      (processDriverCompletion_wp hmapped' record) (fun _ s' hs' => hstep (.completes _ _ hs'))
      fun _ s' hs' => hstep (.completes _ _ hs'))
  | pumpDriverCompletions =>
    exact hdiscard (wp_total (pumpDriverCompletions_invariant hmapped
      (fun t s' ht hs' => hsteps t s' ht (.inr rfl) hs') h) fun _ _ h => h)
  | popFinalEvent => exact hstep (.reports _ _ ⟨_, _, _, rfl⟩)
  | queueWork packet =>
    refine hdiscard (wp_mono (queueWork_wp packet) ?_ ?_)
    · rintro _ s' ⟨queue, hqueue, rfl⟩
      exact hstep (.queues packet queue hqueue)
    · rintro _ s' ⟨rfl, -⟩
      exact h
  | transitionPacket packet target status =>
    refine wp_finalState (wp_mono (transitionPacket_wp hmapped' packet target status) ?_ ?_)
    · rintro _ s' ⟨-, hs'⟩
      exact hstep (.relabels packet target status _ s' hs')
    · rintro _ s' ⟨rfl, -⟩
      exact h
  | registerInflightTransaction packet =>
    refine hdiscard (wp_mono (registerInflightTransaction_wp packet) ?_ ?_)
    · exact fun key s' hs' => hstep (.registers packet key s' hs')
    · rintro _ s' rfl
      exact h
  | cancelInflightTransaction key =>
    refine wp_finalState (wp_mono (cancelInflightTransaction_wp key) ?_ ?_)
    · rintro _ s' rfl
      exact hstep (.cancels key)
    · rintro _ s' ⟨rfl, -⟩
      exact h
  | queueFinalEvent event =>
    refine wp_finalState (m := queueFinalEvent event) ?_
    rw [queueFinalEvent, wp_read]
    exact wp_ite.mpr ⟨fun _ => h, fun _ => hstep (.reports _ _ ⟨_, _, _, rfl⟩)⟩

end RankDaemonCore

namespace RankDaemon

open RankDaemonCore

variable {seams : DaemonSeams} {I : RankDaemon seams → Prop}
  {arrives : RankDaemon seams → WorkControlPacket → Prop} {s : RankDaemon seams}
  {ops : List DaemonOp} {op : DaemonOp}

theorem exec_handleWork (s : RankDaemon seams) (packet : WorkControlPacket) :
    (DaemonOp.handleWork packet).exec s =
      { s with core := finalState (handleWork packet s.core) } := by
  show mk (finalState (EStateM.map _ (handleWork packet) s.core)) _ _ _ = _
  rw [EStateM.map]
  cases handleWork packet s.core <;> rfl

/-- The steps of a run preserve `I`, if the packets that arrive meet a condition. -/
structure ServingInvariant (I : RankDaemon seams → Prop)
    (arrives : RankDaemon seams → WorkControlPacket → Prop) : Prop where
  mapped : ∀ s, I s → s.core.ledger.Mapped
  round : ∀ s attempt s', I s → s.Round attempt s' → I s'
  handles : ∀ s packet answer core, I s → arrives s packet →
    handleWork packet s.core = .ok answer core → s.core.Handles packet answer core →
    I { s with core := core }
  completes : ∀ s core, I s → s.core.Completes core → I { s with core := core }
  wakes : ∀ s, I s → I { s with core := s.core.wakeDeferredWork }
  reports : ∀ s core, I s → s.core.Reports core → I { s with core := core }

/-- A call meets the condition on the packets that arrive. -/
def Admits (arrives : RankDaemon seams → WorkControlPacket → Prop) (s : RankDaemon seams) :
    DaemonOp → Prop
  | .handleWork packet => arrives s packet
  | op => op.IsServing

theorem exec_invariant (hmapped : ∀ s, I s → s.core.ledger.Mapped)
    (hround : ∀ s attempt s', I s → s.Round attempt s' → I s')
    (hsteps : ∀ core core', I { s with core := core } →
      core = s.core ∨ op = .pumpDriverCompletions → core.Steps op core' →
        I { s with core := core' })
    (hs : I s) : I (op.exec s) := by
  have hcore := onDaemon_invariant (fun core => hmapped _) hsteps hs
  cases op with
  | pumpQueuedWork => exact pumpQueuedWork_invariant hmapped hround hs
  | _ => exact hcore

theorem ServingInvariant.exec (h : ServingInvariant I arrives)
    (hop : s.Admits arrives op) (hs : I s) : I (op.exec s) := by
  refine exec_invariant h.mapped h.round (fun core core' hcore hat hsteps => ?_) hs
  cases hsteps with
  | stays => exact hcore
  | handles packet answer _ hcall hhandles =>
    obtain rfl := hat.resolve_right nofun
    exact h.handles s packet answer core' hs hop hcall hhandles
  | wakes => exact h.wakes _ hcore
  | completes _ _ hcompletes => exact h.completes { s with core := core } core' hcore hcompletes
  | reports _ _ hreports => exact h.reports { s with core := core } core' hcore hreports
  | queues | relabels | registers | cancels => exact hop.elim

theorem ServingInvariant.run (h : ServingInvariant I arrives)
    (hops : Along DaemonOp.exec (Admits arrives) s ops) (hs : I s) :
    I (runAll DaemonOp.exec s ops) :=
  runAll_invariant_along (fun _ _ hop hs => h.exec hop hs) ops hops hs

theorem along_admits_of_serving (hops : ∀ op ∈ ops, op.IsServing) :
    Along DaemonOp.exec (Admits fun _ _ => True) s ops := by
  refine (along_of_forall hops).mono fun s op hop => ?_
  cases op <;> exact hop

end RankDaemon

/-! ### Coherence -/

namespace RankDaemonCore

variable {s s' : RankDaemonCore} {packet : WorkControlPacket} {head : QueuedWork}
  {rest queue : List QueuedWork} {m : Option Mark} {entry : QueuedWork} {l : TransactionLedger}
  {key : Nat}

/-- An entry that waits in the queue of an accepted transaction. -/
structure Waits (s : RankDaemonCore) (entry : QueuedWork) : Prop where
  submitted : entry.submitted = false
  valid : identityIsValid (identity entry.packet)
  nonzero : s.fingerprint entry.packet ≠ 0
  accepted : s.mark (identity entry.packet) = s.acceptedMark entry.packet

/-- A transaction that the engine has. -/
structure Executes (s : RankDaemonCore) (key : Nat) (transaction : InflightTransaction) : Prop where
  key : key = identityFingerprint transaction.identity
  executing : s.mark transaction.identity = some ⟨transaction.packetHash, .executing, .pending⟩
  ends : transaction.terminalState = none ∨ transaction.terminalState = some .failed

/-- The queue, the ledger and the table of transactions agree. -/
structure Coherent (s : RankDaemonCore) : Prop where
  mapped : s.ledger.Mapped
  waits : ∀ entry ∈ s.queue, s.Waits entry
  distinct : (s.queue.map fun entry => identity entry.packet).Nodup
  executes : ∀ key transaction, s.inflightTransactions.lookup key = some transaction →
    s.Executes key transaction

theorem Waits.congr {entry' : QueuedWork} (h : s.Waits entry)
    (hconfig : s'.workConfig = s.workConfig)
    (hmark : s'.mark (identity entry.packet) = s.mark (identity entry.packet))
    (hpacket : entry'.packet = entry.packet) (hsubmitted : entry'.submitted = entry.submitted) :
    s'.Waits entry' := by
  refine ⟨hsubmitted.trans h.submitted, ?_, ?_, ?_⟩
  · rw [hpacket]
    exact h.valid
  · rw [hpacket, fingerprint, hconfig]
    exact h.nonzero
  · rw [hpacket, hmark, h.accepted, acceptedMark, acceptedMark, fingerprint, fingerprint, hconfig]

theorem Executes.congr {transaction noted : InflightTransaction} (h : s.Executes key transaction)
    (hmark : s'.mark transaction.identity = s.mark transaction.identity)
    (hnoted : Notes transaction noted) : s'.Executes key noted := by
  obtain ⟨hidentity, hhash, hends⟩ := hnoted
  refine ⟨h.key.trans (by rw [hidentity]), ?_, ?_⟩
  · rw [hidentity, hhash, hmark]
    exact h.executing
  · rcases hends with hends | hends
    · rw [hends]
      exact h.ends
    · exact .inr hends

theorem Notes.refl (transaction : InflightTransaction) : Notes transaction transaction :=
  ⟨rfl, rfl, .inl rfl⟩

theorem Coherent.identity_ne (h : s.Coherent) (hentry : s.Waits entry)
    {transaction : InflightTransaction}
    (htransaction : s.inflightTransactions.lookup key = some transaction) :
    transaction.identity ≠ identity entry.packet := by
  intro hsame
  have hexecuting := (h.executes key transaction htransaction).executing
  rw [hsame, hentry.accepted] at hexecuting
  cases congrArg (Option.map Mark.state) hexecuting

theorem Coherent.congr (h : s.Coherent) (hmapped : s'.ledger.Mapped)
    (hconfig : s'.workConfig = s.workConfig)
    (hmark : ∀ id m, s.mark id = some m → m.state.isTerminal = false → s'.mark id = some m)
    (hqueue : s'.queue = s.queue) (hinflight : s'.inflightTransactions = s.inflightTransactions) :
    s'.Coherent := by
  refine ⟨hmapped, fun entry hentry => ?_, by rw [hqueue]; exact h.distinct,
    fun key transaction htransaction => ?_⟩
  · rw [hqueue] at hentry
    have hwaits := h.waits entry hentry
    refine hwaits.congr hconfig ?_ rfl rfl
    rw [hwaits.accepted]
    exact hmark _ _ hwaits.accepted rfl
  · rw [hinflight] at htransaction
    have hexecutes := h.executes key transaction htransaction
    refine hexecutes.congr ?_ (.refl _)
    rw [hexecutes.executing]
    exact hmark _ _ hexecutes.executing rfl

theorem Coherent.reports (h : s.Coherent) (hreports : s.Reports s') : s'.Coherent := by
  obtain ⟨waiting, overflow, events, rfl⟩ := hreports
  exact h.congr h.mapped rfl (fun _ _ hm _ => hm) rfl rfl

theorem Coherent.wakes (h : s.Coherent) : s.wakeDeferredWork.Coherent := by
  refine ⟨h.mapped, fun entry hentry => ?_, ?_, fun key transaction htransaction =>
    (h.executes key transaction htransaction).congr rfl (.refl _)⟩
  · obtain ⟨entry', hentry', rfl⟩ := mem_map.mp hentry
    exact (h.waits entry' hentry').congr rfl rfl rfl rfl
  · rw [wakeDeferredWork, map_map]
    exact h.distinct

theorem Coherent.requeue (h : s.Coherent) (queue : List QueuedWork)
    (hwaits : ∀ entry ∈ queue, s.Waits entry)
    (hdistinct : (queue.map fun entry => identity entry.packet).Nodup) :
    { s with queue := queue }.Coherent :=
  ⟨h.mapped, fun entry hentry => (hwaits entry hentry).congr rfl rfl rfl rfl, hdistinct,
    fun key transaction htransaction => (h.executes key transaction htransaction).congr rfl
      (.refl _)⟩

theorem requeued_of_isQueuedAs {wireBytes : List Nat} (h : isQueuedAs wireBytes entry)
    (hsubmitted : entry.submitted = false) :
    requeued packet entry = queuedWork packet wireBytes := by
  simp only [isQueuedAs, packetMatches, Bool.and_eq_true, decide_eq_true_eq] at h
  obtain ⟨hhash, -, hwire⟩ := h
  rw [requeued, if_neg (by simp [hsubmitted]), queuedWork, hwire, ← hhash, hsubmitted]

theorem Queues.eq_append (h : s.Queues packet queue)
    (hsubmitted : ∀ entry ∈ s.queue, entry.submitted = false) :
    ∃ wireBytes before old after, packetToWire s.workConfig packet = .ok wireBytes ∧
      s.queue = before ++ old ++ after ∧ (old = [] ∧ after = [] ∨
        ∃ entry, old = [entry] ∧ isQueuedAs wireBytes entry) ∧
      queue = before ++ queuedWork packet wireBytes :: after := by
  obtain ⟨wireBytes, hwire, ⟨-, rfl⟩ | ⟨index, entry, hindex, hsame, rfl⟩⟩ := h
  · exact ⟨wireBytes, s.queue, [], [], hwire, by simp, .inl ⟨rfl, rfl⟩, rfl⟩
  · obtain ⟨hlt, rfl⟩ := List.getElem?_eq_some_iff.mp hindex
    refine ⟨wireBytes, s.queue.take index, [s.queue[index]], s.queue.drop (index + 1), hwire, ?_,
      .inr ⟨_, rfl, hsame⟩, ?_⟩
    · rw [append_assoc, singleton_append, getElem_cons_drop, take_append_drop]
    · rw [modify_eq_take_cons_drop hlt,
        requeued_of_isQueuedAs hsame (hsubmitted _ (getElem_mem hlt))]

theorem Coherent.queues (h : s.Coherent) (hl : l.Mapped)
    (hadmissible : s.Admissible packet) (hm : s.mark (identity packet) = none)
    (hnew : l.mark (identity packet) = s.acceptedMark packet)
    (hkeeps : ∀ id m, s.mark id = some m → m.state.isTerminal = false → l.mark id = some m)
    (hqueue : s.Queues packet queue) : { s with ledger := l, queue := queue }.Coherent := by
  have hbase : { s with ledger := l }.Coherent := h.congr hl rfl hkeeps rfl rfl
  have hnotin : ∀ entry ∈ s.queue, identity entry.packet ≠ identity packet := by
    intro entry hentry hsame
    have haccepted := (h.waits entry hentry).accepted
    rw [hsame, hm] at haccepted
    cases haccepted
  obtain ⟨wireBytes, before, old, after, -, hold, -, rfl⟩ :=
    hqueue.eq_append fun entry hentry => (h.waits entry hentry).submitted
  have hsub : (before ++ after).Sublist s.queue := by
    rw [hold, append_assoc]
    exact (List.Sublist.refl _).append (sublist_append_right _ _)
  refine hbase.requeue (before ++ queuedWork packet wireBytes :: after) (fun entry hentry => ?_) ?_
  · rcases mem_append.mp hentry with hentry | hentry
    · exact hbase.waits entry (hsub.subset (mem_append_left _ hentry))
    rcases mem_cons.mp hentry with rfl | hentry
    · exact ⟨rfl, hadmissible.2.1, hadmissible.2.2, hnew⟩
    · exact hbase.waits entry (hsub.subset (mem_append_right _ hentry))
  · rw [map_append, map_cons, nodup_middle, ← map_append, nodup_cons]
    refine ⟨fun hmem => ?_, (hsub.map _).nodup h.distinct⟩
    obtain ⟨entry, hentry, hsame⟩ := mem_map.mp hmem
    exact hnotin entry (hsub.subset hentry) hsame

theorem mark_of_keepsOthers (hm : s.mark (identity packet) = none)
    (hrest : s.ledger.KeepsOthers (identity packet) l) {id : Identity} {m : Mark}
    (hid : s.mark id = some m) (hactive : m.state.isTerminal = false) : l.mark id = some m := by
  have hne : id ≠ identity packet := by
    rintro rfl
    rw [hm] at hid
    cases hid
  rcases hrest id hne with hsame | ⟨-, m', hm', hterminal⟩
  · exact hsame.trans hid
  · obtain rfl := Option.some.inj (hid.symm.trans hm')
    rw [hactive] at hterminal
    cases hterminal

theorem Coherent.handles (h : s.Coherent) {answer : SparkStatus}
    (hhandles : s.Handles packet answer s') : s'.Coherent := by
  cases hhandles with
  | refused | full => exact h
  | known _ m _ _ hl hsame | declined _ _ _ hl hsame =>
    exact h.congr hl rfl (fun id m hm _ => (hsame id).trans hm) rfl rfl
  | queued _ _ hadmissible hl hm hnew hrest hqueue =>
    exact h.queues hl hadmissible hm hnew
      (fun _ _ hid hactive => mark_of_keepsOthers hm hrest hid hactive) hqueue
  | failed l _ _ hl hm _ hrest =>
    exact h.congr hl rfl (fun _ _ hid hactive => mark_of_keepsOthers hm hrest hid hactive) rfl rfl

theorem Coherent.completes (h : s.Coherent) (hcompletes : s.Completes s') : s'.Coherent := by
  cases hcompletes with
  | rejected => exact h
  | noted key transaction _ transactions _ _ _ htransaction hnoted hrest =>
    refine ⟨h.mapped, fun entry hentry => (h.waits entry hentry).congr rfl rfl rfl rfl, h.distinct,
      fun key' transaction' hlookup => ?_⟩
    rw [hrest] at hlookup
    split_ifs at hlookup with hkey
    · rw [hkey, ← Option.some.inj hlookup]
      exact (h.executes key transaction htransaction).congr rfl hnoted
    · exact (h.executes key' transaction' hlookup).congr rfl (.refl _)
  | ended key transaction _ l transactions _ _ _ htransaction hnoted hl hends hrest =>
    have hexecutes := h.executes key transaction htransaction
    have hmark {id : Identity} (hne : id ≠ transaction.identity) : l.mark id = s.mark id := by
      rw [← hnoted.1] at hne
      rcases hends with ⟨-, hmark⟩ | ⟨rfl, -⟩
      · rw [hmark, if_neg hne]
      · rfl
    refine ⟨hl, fun entry hentry => ?_, h.distinct, fun key' transaction' hlookup => ?_⟩
    · have hwaits := h.waits entry hentry
      exact hwaits.congr rfl (hmark (h.identity_ne hwaits htransaction).symm) rfl rfl
    · rw [hrest] at hlookup
      split_ifs at hlookup with hkey
      have hexecutes' := h.executes key' transaction' hlookup
      refine hexecutes'.congr (hmark fun hsame => hkey ?_) (.refl _)
      rw [hexecutes'.key, hsame, hexecutes.key]

theorem Coherent.waits_rest (h : s.Coherent) (hqueue : s.queue = head :: rest)
    (hmark : ∀ id, id ≠ identity head.packet → s'.mark id = s.mark id)
    (hconfig : s'.workConfig = s.workConfig) (hentry : entry ∈ rest) :
    s'.Waits entry := by
  have hdistinct := h.distinct
  rw [hqueue, map_cons, nodup_cons] at hdistinct
  have hwaits := h.waits entry (by rw [hqueue]; exact .tail _ hentry)
  exact hwaits.congr hconfig
    (hmark _ fun hsame => hdistinct.1 (hsame ▸ mem_map_of_mem hentry)) rfl rfl

theorem Coherent.of_head (h : s.Coherent) (hqueue : s.queue = head :: rest)
    (hmapped : s'.ledger.Mapped) (hconfig : s'.workConfig = s.workConfig)
    (hmark : ∀ id, id ≠ identity head.packet → s'.mark id = s.mark id)
    (hperm : s'.queue.Perm rest ∨ ∃ entry, s'.queue.Perm (entry :: rest) ∧ s'.Waits entry ∧
      entry.packet = head.packet)
    (hinflight : ∀ key transaction, s'.inflightTransactions.lookup key = some transaction →
      s.inflightTransactions.lookup key = some transaction ∨ s'.Executes key transaction) :
    s'.Coherent := by
  have hhead := h.waits head (by rw [hqueue]; exact .head _)
  have hdistinct := h.distinct
  rw [hqueue] at hdistinct
  refine ⟨hmapped, fun entry hentry => ?_, ?_, fun key transaction hlookup => ?_⟩
  · rcases hperm with hperm | ⟨entry', hperm, hwaits, -⟩
    · exact h.waits_rest hqueue hmark hconfig (hperm.mem_iff.mp hentry)
    · rcases mem_cons.mp (hperm.mem_iff.mp hentry) with rfl | hentry
      · exact hwaits
      · exact h.waits_rest hqueue hmark hconfig hentry
  · rcases hperm with hperm | ⟨entry', hperm, -, hpacket⟩
    · exact (hperm.map _).nodup_iff.mpr (nodup_cons.mp hdistinct).2
    · refine (hperm.map _).nodup_iff.mpr ?_
      rw [map_cons, hpacket]
      exact hdistinct
  · rcases hinflight key transaction hlookup with hold | hnew
    · exact (h.executes key transaction hold).congr (hmark _ (h.identity_ne hhead hold)) (.refl _)
    · exact hnew

theorem Coherent.shifts (h : s.Coherent) (hqueue : s.queue = head :: rest)
    (hshifts : s.Shifts head.packet m queue s')
    (hperm : queue.Perm rest ∨ ∃ entry, queue.Perm (entry :: rest) ∧
      entry.packet = head.packet ∧ entry.submitted = false ∧ m = s.acceptedMark head.packet) :
    s'.Coherent := by
  have hhead := h.waits head (by rw [hqueue]; exact .head _)
  refine h.of_head hqueue hshifts.mapped hshifts.workConfig_eq
    (fun id hne => hshifts.mark_eq.trans (if_neg hne)) ?_ fun key transaction hlookup => .inl ?_
  · rw [hshifts.queue_eq]
    refine hperm.imp_right fun ⟨entry, hentry, hpacket, hsubmitted, hm⟩ =>
      ⟨entry, hentry, ?_, hpacket⟩
    refine hhead.congr hshifts.workConfig_eq ?_ hpacket (hsubmitted.trans hhead.submitted.symm)
    rw [hshifts.mark_eq, if_pos rfl, hm, hhead.accepted]
  · rw [hshifts.core_eq] at hlookup
    exact hlookup

end RankDaemonCore

namespace RankDaemon

open RankDaemonCore

variable {seams : DaemonSeams} {s s' : RankDaemon seams} {head : QueuedWork}
  {rest : List QueuedWork} {attempt : Attempt} {config : WorkControlConfig} {core : RankDaemonCore}
  {plan : RankPlan}

theorem coherent_of_works (h : s.core.Coherent) (hqueue : s.core.queue = head :: rest)
    (hworks : s.Works head rest attempt s') : s'.core.Coherent := by
  have hhead := h.waits head (by rw [hqueue]; exact .head _)
  cases hworks with
  | waits _ _ _ _ _ hcore =>
    exact h.shifts hqueue hcore (.inr ⟨_, .refl _, rfl, hhead.submitted, rfl⟩)
  | failed _ _ _ _ _ _ _ _ _ hcore | popped _ _ _ _ _ _ hcore =>
    exact h.shifts hqueue hcore (.inl (.refl _))
  | parked outcome _ _ _ _ _ _ _ _ _ hcore =>
    refine h.shifts hqueue hcore (.inr ⟨_, perm_append_singleton _ _, ?_, ?_, rfl⟩)
    · exact sentHead_packet outcome head
    · exact (sentHead_submitted outcome head).trans hhead.submitted
  | launched _ _ _ _ _ _ _ _ _ _ _ hbase hcore =>
    obtain ⟨lanes, count, waiting, overflow, rfl⟩ := hbase
    refine h.of_head hqueue hcore.mapped hcore.workConfig_eq
      (fun id hne => hcore.mark_eq.trans (if_neg hne)) (.inl (by rw [hcore.queue_eq])) ?_
    intro key transaction hlookup
    have hlaunched : (launched s.core head.packet).lookup key = some transaction := by
      rw [hcore.core_eq] at hlookup
      exact hlookup
    rw [launched] at hlaunched
    split_ifs at hlaunched with hrelease
    · exact .inl hlaunched
    · rw [lookup_insert_eq] at hlaunched
      split_ifs at hlaunched with hsame
      · refine .inr ?_
        rw [← Option.some.inj hlaunched]
        refine ⟨hsame, ?_, .inl rfl⟩
        rw [hcore.mark_eq, if_pos rfl, launchedMark, if_neg hrelease]
      · exact .inl hlaunched

theorem coherent_invariant :
    ServingInvariant (fun s : RankDaemon seams => s.core.Coherent) fun _ _ => True where
  mapped _ h := h.mapped
  round s attempt s' h hround := by
    cases hround with
    | idle => exact h
    | rotated head rest hqueue =>
      refine h.requeue _ (fun entry hentry => h.waits entry ?_) ?_
      · rw [hqueue]
        exact (perm_append_singleton head rest).mem_iff.mp hentry
      · refine (((perm_append_singleton head rest).map _).nodup_iff).mpr ?_
        rw [← hqueue]
        exact h.distinct
    | worked _ _ _ _ hqueue _ hworks => exact coherent_of_works h hqueue hworks
  handles _ _ _ _ h _ _ hhandles := h.handles hhandles
  completes _ _ h hcompletes := h.completes hcompletes
  wakes _ h := h.wakes
  reports _ _ h hreports := h.reports hreports

/-- A rank that starts to serve. -/
def start (seams : DaemonSeams) (core : RankDaemonCore) (forwarder : seams.Forwarder)
    (engine : seams.Engine) : RankDaemon seams := ⟨core, forwarder, engine, []⟩

theorem coherent_of_new (h : RankDaemonCore.new config plan = .ok core) : core.Coherent := by
  obtain rfl := Except.ok.inj h
  refine ⟨TransactionLedger.mapped_of_vacant (by decide) (by decide) 0, fun entry hentry => ?_,
    nodup_nil, fun key transaction hlookup => ?_⟩
  · cases hentry
  · cases hlookup

theorem coherent_run (h : new config plan = .ok core) (forwarder : seams.Forwarder)
    (engine : seams.Engine) {ops : List DaemonOp} (hops : ∀ op ∈ ops, op.IsServing) :
    (runAll DaemonOp.exec (start seams core forwarder engine) ops).core.Coherent :=
  coherent_invariant.run (along_admits_of_serving hops) (coherent_of_new h)

end RankDaemon

end SparkPipe
