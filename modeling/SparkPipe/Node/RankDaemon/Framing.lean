import SparkPipe.Node.RankDaemon.Forwarder
import SparkPipe.Node.RankDaemon.Ordering

/-!
# The framing of the forwarded stream

A rank forwards over a link that splits reads and writes as it likes, to a next rank that answers
each packet by an acknowledgement. While a packet is under way, the forwarder goes on with its bytes
whatever packet it is called with, and it checks the acknowledgement against the packet of the call.
The stream stays framed as long as the daemon comes back with the packet that was begun: at each
call that works on the queue meanwhile, the head is ready to be forwarded.
-/

open Program

namespace SparkPipe

open WorkControl List

def DaemonOp.Delivers (op : DaemonOp) (packet : WorkControlPacket) : Prop :=
  op = .handleWork packet ∨ op = .queueWork packet

/-! ### The daemon and its forwarder -/

variable (respond : List Nat → List Nat) (config : WorkControlConfig)
  (delivered : WorkControlPacket → Prop)

/-- A packet that was delivered, with the bytes that are sent of it. -/
structure Sendable (packet : WorkControlPacket) (wire : List Nat) : Prop where
  delivered : delivered packet
  wire : packetToWire config packet = .ok wire
  valid : identityIsValid (identity packet)
  nonzero : packetFingerprint packet config ≠ 0

/-- The next rank acknowledges each packet, in turn. -/
def Acknowledges : Prop :=
  ∀ acked packet wire, (∀ sent ∈ acked, ∃ packet, Sendable config delivered packet sent) →
    Sendable config delivered packet wire →
    SocketForwarder.Answers respond acked wire (identity packet) (packetFingerprint packet config)

variable {respond config delivered} {wire : List Nat}

theorem Sendable.ne_nil {packet : WorkControlPacket}
    (h : Sendable config delivered packet wire) : wire ≠ [] := by
  obtain ⟨rest, hbytes⟩ := canonicalBytes_eq_append packet config
  rw [packetToWire_eq_ok h.wire, hbytes]
  exact cons_ne_nil _ _

theorem Sendable.of_wire {packet packet' : WorkControlPacket}
    (h : Sendable config delivered packet wire)
    (hfits : ∀ packet, delivered packet → WordsFit packet)
    (hdelivered : delivered packet') (hwire : packetToWire config packet' = .ok wire) :
    Sendable config delivered packet' wire ∧
      packetFingerprint packet' config = packetFingerprint packet config := by
  have hbytes : canonicalBytes packet' config = canonicalBytes packet config :=
    (packetToWire_eq_ok hwire).symm.trans (packetToWire_eq_ok h.wire)
  obtain ⟨hidentity, hsize⟩ := identity_of_canonicalBytes (hfits _ hdelivered)
    (hfits _ h.delivered) hbytes
  have hhash : packetFingerprint packet' config = packetFingerprint packet config := by
    rw [packetFingerprint, packetFingerprint, hsize, hbytes]
  exact ⟨⟨hdelivered, hwire, hidentity ▸ h.valid, hhash ▸ h.nonzero⟩, hhash⟩

namespace RankDaemon

open RankDaemonCore SocketForwarder

variable {Engine : Type}
  {submit : WorkControlPacket → EStateM SparkStatus Engine (List DriverCompletionRecord)}
  {s s' : RankDaemon (socketSeams respond Engine submit)} {acked : List (List Nat)}
  {head : QueuedWork} {rest : List QueuedWork} {attempt : Attempt} {core : RankDaemonCore}
  {acked' : List (List Nat)}

/-- The forwarder of a daemon. -/
def link (s : RankDaemon (socketSeams respond Engine submit)) : SocketForwarder := s.forwarder

section

variable (respond config delivered acked)

/-- An entry that is being forwarded. -/
structure UnderWay (plan : RankPlan) (entry : QueuedWork) (forwarder : SocketForwarder) : Prop where
  hasNext : plan.hasNext
  forwarded : entry.forwarded = false
  state : entry.state ≠ .waitingSubmit
  sendable : Sendable config delivered entry.packet entry.wireBytes
  sending : Sending respond acked entry.wireBytes (packetFingerprint entry.packet config) forwarder

/-- The forwarder rests, or it is busy with the head of the queue. -/
def InStep (plan : RankPlan) (queue : List QueuedWork) (forwarder : SocketForwarder) : Prop :=
  Rests acked forwarder ∨ ∃ head rest, queue = head :: rest ∧
    UnderWay respond config delivered acked plan head forwarder

/-- An entry of the queue is a packet that was delivered, with its bytes. -/
structure Queued (entry : QueuedWork) : Prop where
  submitted : entry.submitted = false
  delivered : delivered entry.packet
  wire : packetToWire config entry.packet = .ok entry.wireBytes
  forwarded : entry.forwarded → entry.wireBytes ∈ acked

variable {respond}

/-- What was sent before the packet under way, and what is marked as forwarded, has been
acknowledged. -/
structure Framed (s : RankDaemon (socketSeams respond Engine submit)) : Prop where
  workConfig : s.core.workConfig = config
  mapped : s.core.ledger.Mapped
  refusals : s.link.refusals = []
  sent : ∀ wire ∈ acked, ∃ packet, Sendable config delivered packet wire
  queued : ∀ entry ∈ s.core.queue, Queued config delivered acked entry
  inStep : InStep respond config delivered acked s.core.rankPlan s.core.queue s.link

end

/-- While a packet is under way, the head of the queue is ready to be forwarded. -/
def Steady (s : RankDaemon (socketSeams respond Engine submit)) : Prop :=
  s.link.pendingWire ≠ [] → ∀ head ∈ s.core.queue.head?, Going head s.core.queue.tail ∧
    s.core.CanMove head.packet .accepted .pending

section

variable (h : Framed config delivered acked s)
include h

theorem Framed.kept (hmapped : core.ledger.Mapped)
    (hconfig : core.workConfig = s.core.workConfig) (hplan : core.rankPlan = s.core.rankPlan)
    (hqueue : core.queue = s.core.queue) :
    Framed config delivered acked { s with core := core } := by
  refine ⟨hconfig.trans h.workConfig, hmapped, h.refusals, h.sent, ?_, ?_⟩
  · rw [hqueue]
    exact h.queued
  · rw [hqueue, hplan]
    exact h.inStep

theorem Framed.queues
    (hfits : ∀ packet, delivered packet → WordsFit packet) {packet : WorkControlPacket}
    (hdelivered : delivered packet) {l : TransactionLedger} (hl : l.Mapped)
    {queue : List QueuedWork} (hqueue : s.core.Queues packet queue) :
    Framed config delivered acked
      { s with core := { s.core with ledger := l, queue := queue } } := by
  obtain ⟨wireBytes, before, old, after, hwire, hold, hcases, rfl⟩ :=
    hqueue.eq_append fun entry hentry => (h.queued entry hentry).submitted
  rw [h.workConfig] at hwire
  have hnew : Queued config delivered acked (queuedWork packet wireBytes) :=
    ⟨rfl, hdelivered, hwire, fun hforwarded => by cases hforwarded⟩
  refine { h with mapped := hl, queued := fun entry hentry => ?_, inStep := ?_ }
  · have hmem : entry ∈ before ∨ entry = queuedWork packet wireBytes ∨ entry ∈ after := by
      rw [← mem_cons, ← mem_append]
      exact hentry
    rcases hmem with hmem | rfl | hmem
    · refine h.queued entry ?_
      rw [hold]
      exact mem_append_left _ (mem_append_left _ hmem)
    · exact hnew
    · exact h.queued entry (by rw [hold]; exact mem_append_right _ hmem)
  · refine h.inStep.imp_right ?_
    rintro ⟨head, rest, hhead, hunder⟩
    cases before with
    | cons first =>
      obtain rfl := by
        rw [hold] at hhead
        exact (List.cons.inj hhead).1
      exact ⟨first, _, rfl, hunder⟩
    | nil =>
      rcases hcases with ⟨rfl, rfl⟩ | ⟨entry, rfl, hsame⟩
      · rw [hold] at hhead
        cases hhead
      obtain rfl := by
        rw [hold] at hhead
        exact (List.cons.inj hhead).1
      have hbytes : entry.wireBytes = wireBytes := by
        simp only [isQueuedAs, packetMatches, Bool.and_eq_true, decide_eq_true_eq] at hsame
        exact hsame.2.2
      have hsendable := hunder.sendable
      rw [hbytes] at hsendable
      obtain ⟨hnewSendable, hhash⟩ :=
        hsendable.of_wire hfits (hdelivered) hwire
      refine ⟨_, _, rfl, hunder.hasNext, rfl, by rintro ⟨⟩, hnewSendable, ?_⟩
      have hsending := hunder.sending
      rw [hbytes, ← hhash] at hsending
      exact hsending

theorem Framed.wakes :
    Framed config delivered acked { s with core := s.core.wakeDeferredWork } := by
  refine { h with queued := fun entry hentry => ?_, inStep := ?_ }
  · obtain ⟨entry', hentry', rfl⟩ := mem_map.mp hentry
    exact { h.queued entry' hentry' with }
  · refine h.inStep.imp_right ?_
    rintro ⟨head, rest, hhead, hunder⟩
    refine ⟨{ head with state := .ready }, rest.map fun entry => { entry with state := .ready },
      ?_, hunder.hasNext, hunder.forwarded, by rintro ⟨⟩, hunder.sendable, hunder.sending⟩
    show List.map _ s.core.queue = _
    rw [hhead]
    rfl

theorem Framed.steps (hfits : ∀ packet, delivered packet → WordsFit packet) {op : DaemonOp}
    (hop : ∀ packet, op.Delivers packet → delivered packet) (hsteps : s.core.Steps op core) :
    Framed config delivered acked { s with core := core } := by
  cases hsteps with
  | stays => exact h
  | handles packet _ _ _ hhandles =>
    cases hhandles with
    | refused | full => exact h
    | known l m _ _ hl | declined l _ _ hl | failed l _ _ hl => exact h.kept hl rfl rfl rfl
    | queued _ _ _ hl _ _ _ hqueue => exact h.queues hfits (hop packet (.inl rfl)) hl hqueue
  | wakes => exact h.wakes
  | completes _ _ hcompletes =>
    cases hcompletes with
    | rejected => exact h
    | noted => exact h.kept h.mapped rfl rfl rfl
    | ended _ _ _ l _ _ _ _ _ _ hl => exact h.kept hl rfl rfl rfl
  | reports _ _ hreports =>
    obtain ⟨waiting, overflow, events, rfl⟩ := hreports
    exact h.kept h.mapped rfl rfl rfl
  | queues packet _ hqueue => exact h.queues hfits (hop packet (.inr rfl)) h.mapped hqueue
  | relabels _ _ _ _ _ hrelabels =>
    obtain ⟨l, hl, rfl, -⟩ := hrelabels
    exact h.kept hl rfl rfl rfl
  | registers _ _ _ hregisters =>
    cases hregisters with
    | release => exact h
    | entered => exact h.kept h.mapped rfl rfl rfl
  | cancels => exact h.kept h.mapped rfl rfl rfl

end

theorem steady_of_rests (h : Rests acked s.link) : s.Steady := fun hpending =>
  absurd h.pendingWire hpending

theorem Queued.mono {entry : QueuedWork}
    (h : Queued config delivered acked entry) (hsub : acked ⊆ acked') :
    Queued config delivered acked' entry :=
  { h with forwarded := fun hforwarded => hsub (h.forwarded hforwarded) }

variable (config delivered acked) in
/-- The head was not sent, or acknowledged, or is under way. -/
inductive Reaches (s : RankDaemon (socketSeams respond Engine submit))
    (head : QueuedWork) (forwarder : SocketForwarder) :
    Option (Except SparkStatus Unit) → Prop
  | rests (h : Rests acked forwarder) : Reaches s head forwarder none
  | acknowledged (h : Rests (acked ++ [head.wireBytes]) forwarder)
      (hsendable : Sendable config delivered head.packet head.wireBytes) :
      Reaches s head forwarder (some (.ok ()))
  | busy (h : UnderWay respond config delivered acked s.core.rankPlan head forwarder)
      (hmove : s.core.CanMove head.packet .accepted .pending) :
      Reaches s head forwarder (some (.error .busy))

section

variable (hpeer : Acknowledges respond config delivered) (h : Framed config delivered acked s)
  (hsteady : s.Steady) (hqueue : s.core.queue = head :: rest) (hgoing : Going head rest)
  {outcome : Option (Except SparkStatus Unit)}
  {forwarder : (socketSeams respond Engine submit).Forwarder}
include hpeer h hsteady hqueue hgoing

theorem Framed.sends (hsends : s.Sends head outcome forwarder) :
    SocketForwarder.refusals forwarder = [] ∧
      Reaches config delivered acked s head forwarder outcome := by
  have hqueued := h.queued head (by rw [hqueue]; exact .head _)
  have hinStep := h.inStep
  rw [hqueue] at hinStep
  cases hsends with
  | skipped hskip =>
    refine ⟨h.refusals, .rests ?_⟩
    rcases hinStep with hrests | ⟨head', rest', heq, hunder⟩
    · exact hrests
    -- the packet of the head is under way, so that the next rank is asked
    obtain ⟨rfl, rfl⟩ := List.cons.inj heq
    have hpending : s.link.pendingWire ≠ [] := by
      rw [hunder.sending.pendingWire]
      exact hunder.sendable.ne_nil
    have hmove := (hsteady hpending head (by rw [hqueue]; rfl)).2
    rcases hskip with hnext | hforwarded | hstuck
    · rw [hunder.hasNext] at hnext
      cases hnext
    · rw [hunder.forwarded] at hforwarded
      cases hforwarded
    · exact absurd hmove hstuck
  | called outcome forwarder hnext hnot hmove hcall =>
    have hfingerprint : s.core.fingerprint head.packet = packetFingerprint head.packet config := by
      rw [fingerprint, h.workConfig]
    have hsendable : Sendable config delivered head.packet head.wireBytes :=
      ⟨hqueued.delivered, hqueued.wire, hmove.1, hfingerprint ▸ hmove.2.1⟩
    have hphase : Rests acked s.link ∨
        Sending respond acked head.wireBytes (packetFingerprint head.packet config) s.link := by
      refine hinStep.imp_right ?_
      rintro ⟨head', rest', heq, hunder⟩
      obtain ⟨rfl, rfl⟩ := List.cons.inj heq
      exact hunder.sending
    have hspec := recordedForward_wp hphase hsendable.ne_nil hsendable.nonzero
      (hpeer acked head.packet head.wireBytes h.sent hsendable)
    rw [hfingerprint] at hcall
    refine wp_ok (Q := fun outcome forwarder => SocketForwarder.refusals forwarder = [] ∧
      Reaches config delivered acked s head forwarder (some outcome)) (E := fun _ _ => True)
      (wp_attempt.mpr (wp_mono hspec (fun _ _ hok => ?_) ?_)) hcall
    · exact ⟨hok.2.trans h.refusals, .acknowledged hok.1 hsendable⟩
    · rintro status forwarder ⟨rfl, hsending, hrefusals⟩
      exact ⟨hrefusals.trans h.refusals, .busy ⟨hnext, hnot, hgoing.1, hsendable, hsending⟩ hmove⟩

theorem Framed.rests (hsends : s.Sends head outcome forwarder)
    (hnot : outcome ≠ some (.error .busy)) (hmapped : core.ledger.Mapped)
    (hconfig : core.workConfig = s.core.workConfig)
    (hentries : ∀ acked', acked ⊆ acked' → (outcome = some (.ok ()) → head.wireBytes ∈ acked') →
      ∀ entry ∈ core.queue, entry ∈ rest ∨ Queued config delivered acked' entry)
    (engine : Engine) (submissions : List Submission) :
    let left : RankDaemon (socketSeams respond Engine submit) :=
      ⟨core, forwarder, engine, submissions⟩
    (∃ acked, Framed config delivered acked left) ∧ left.Steady := by
  obtain ⟨hrefusals, hreaches⟩ := h.sends hpeer hsteady hqueue hgoing hsends
  -- what is known of the acknowledged packets when the forwarder rests after the call
  obtain ⟨acked', hsub, hsent, hrests, hmem⟩ : ∃ acked', acked ⊆ acked' ∧
      (∀ wire ∈ acked', ∃ packet, Sendable config delivered packet wire) ∧
      Rests acked' forwarder ∧ (outcome = some (.ok ()) → head.wireBytes ∈ acked') := by
    cases hreaches with
    | rests hrests => exact ⟨acked, fun _ h => h, h.sent, hrests, fun h => by cases h⟩
    | acknowledged hrests hsendable =>
      refine ⟨acked ++ [head.wireBytes], subset_append_left _ _, fun wire hwire => ?_,
        hrests, fun _ => mem_append_right _ (.head _)⟩
      rcases mem_append.mp hwire with hwire | hwire
      · exact h.sent wire hwire
      · rw [mem_singleton.mp hwire]
        exact ⟨head.packet, hsendable⟩
    | busy => exact absurd rfl hnot
  refine ⟨⟨acked', hconfig.trans h.workConfig, hmapped, hrefusals, hsent, fun entry hentry => ?_,
    .inl hrests⟩, steady_of_rests hrests⟩
  rcases hentries acked' hsub hmem entry hentry with hold | hnew
  · exact (h.queued entry (by rw [hqueue]; exact .tail _ hold)).mono hsub
  · exact hnew

theorem framed_of_works (hworks : s.Works head rest attempt s') :
    (∃ acked, Framed config delivered acked s') ∧ s'.Steady := by
  have hhead := h.queued head (by rw [hqueue]; exact .head _)
  have hnotBusy {outcome : Option (Except SparkStatus Unit)} (hpassed : Passed outcome) :
      outcome ≠ some (.error .busy) := by
    rintro rfl
    rcases hpassed with hpassed | hpassed <;> cases hpassed
  cases hworks with
  | waits _ _ core hsends _ hcore =>
    obtain ⟨hrefusals, hreaches⟩ := h.sends hpeer hsteady hqueue hgoing hsends
    cases hreaches with
    | busy hunder hmove =>
      refine ⟨⟨acked, hcore.workConfig_eq.trans h.workConfig, hcore.mapped, hrefusals, h.sent,
        fun entry hentry => ?_, .inr ⟨_, rest, hcore.queue_eq, ?_⟩⟩, fun _ head' hhead' => ?_⟩
      · rw [hcore.queue_eq] at hentry
        rcases mem_cons.mp hentry with rfl | hentry
        · exact { hhead with }
        · exact h.queued entry (by rw [hqueue]; exact .tail _ hentry)
      · refine ⟨?_, hunder.forwarded, by rintro ⟨⟩, hunder.sendable, hunder.sending⟩
        rw [hcore.rankPlan_eq]
        exact hunder.hasNext
      · obtain rfl : { head with state := .waitingForward } = head' := by
          have hfirst : core.queue.head? = some head' := hhead'
          rw [hcore.queue_eq] at hfirst
          exact Option.some.inj hfirst
        exact ⟨⟨by rintro ⟨⟩, .inl rfl⟩, hcore.canMove hmove rfl .pending⟩
  | failed _ _ _ _ _ _ hsends houtcome _ hcore =>
    exact h.rests hpeer hsteady hqueue hgoing hsends (fun hbusy => (houtcome .busy hbusy).1 rfl)
      hcore.mapped hcore.workConfig_eq (fun _ _ _ _ hentry => .inl (hcore.queue_eq ▸ hentry)) _ _
  | popped _ _ _ _ hsends hpassed hcore =>
    exact h.rests hpeer hsteady hqueue hgoing hsends (hnotBusy hpassed) hcore.mapped
      hcore.workConfig_eq (fun _ _ _ _ hentry => .inl (hcore.queue_eq ▸ hentry)) _ _
  | parked _ _ _ _ _ _ hsends hpassed _ _ hcore =>
    refine h.rests hpeer hsteady hqueue hgoing hsends (hnotBusy hpassed) hcore.mapped
      hcore.workConfig_eq (fun acked' hsub hmem entry hentry => ?_) _ _
    rw [hcore.queue_eq] at hentry
    refine (mem_append.mp hentry).imp_right fun hentry => ?_
    rw [mem_singleton.mp hentry]
    rcases hpassed with rfl | rfl
    · exact { hhead.mono hsub with }
    · exact { hhead with forwarded := fun _ => hmem rfl }
  | launched _ _ _ _ _ _ _ hsends hpassed _ _ hbase hcore =>
    obtain ⟨lanes, count, waiting, overflow, rfl⟩ := hbase
    exact h.rests hpeer hsteady hqueue hgoing hsends (hnotBusy hpassed) hcore.mapped
      hcore.workConfig_eq (fun _ _ _ _ hentry => .inl (hcore.queue_eq ▸ hentry)) _ _

end

theorem framed_of_round (hpeer : Acknowledges respond config delivered)
    (h : (∃ acked, Framed config delivered acked s) ∧ s.Steady) (hround : s.Round attempt s') :
    (∃ acked, Framed config delivered acked s') ∧ s'.Steady := by
  obtain ⟨⟨acked, h⟩, hsteady⟩ := h
  cases hround with
  | idle => exact ⟨⟨acked, h⟩, hsteady⟩
  | rotated head rest hqueue hwaits =>
    have hrests : Rests acked s.link := by
      rcases h.inStep with hrests | ⟨head', rest', hqueue', hunder⟩
      · exact hrests
      -- while a packet is under way, the head does not have to wait
      have hpending : s.link.pendingWire ≠ [] := by
        rw [hunder.sending.pendingWire]
        exact hunder.sendable.ne_nil
      have hgoing := (hsteady hpending head (by rw [hqueue]; rfl)).1
      rw [hqueue] at hgoing
      exact absurd hgoing hwaits
    refine ⟨⟨acked, { h with queued := fun entry hentry => ?_, inStep := .inl hrests }⟩,
      steady_of_rests hrests⟩
    refine h.queued entry ?_
    rw [hqueue]
    exact (perm_append_singleton head rest).mem_iff.mp hentry
  | worked _ _ _ _ hqueue hgoing hworks =>
    exact framed_of_works hpeer h hsteady hqueue hgoing hworks

/-- The daemon works on the queue only while its head is ready to be forwarded. -/
def PumpsSteadily (s : RankDaemon (socketSeams respond Engine submit)) (op : DaemonOp) : Prop :=
  op = .pumpQueuedWork → s.Steady

theorem framed_exec (hpeer : Acknowledges respond config delivered)
    (hfits : ∀ packet, delivered packet → WordsFit packet) {op : DaemonOp}
    (hop : ∀ packet, op.Delivers packet → delivered packet) (hsteady : s.PumpsSteadily op)
    (h : ∃ acked, Framed config delivered acked s) :
    ∃ acked, Framed config delivered acked (op.exec s) := by
  by_cases hpump : op = .pumpQueuedWork
  · subst hpump
    exact (pumpQueuedWork_invariant (fun _ hs => hs.1.choose_spec.mapped)
      (fun _ _ _ hs => framed_of_round hpeer hs)
      ⟨h, hsteady rfl⟩).1
  · obtain ⟨acked, h⟩ := h
    refine ⟨acked, ?_⟩
    have hexec : op.exec s = { s with core := finalState (op.onDaemon s.core) } := by
      cases op <;> first | exact absurd rfl hpump | rfl
    rw [hexec]
    exact onDaemon_invariant
      (I := fun core => Framed config delivered acked { s with core := core })
      (fun _ h => h.mapped) (fun _ _ ht _ hsteps => ht.steps hfits hop hsteps) h

/-! ### Runs -/

/-- A packet is delivered in a run. -/
def Delivered (ops : List DaemonOp) (packet : WorkControlPacket) : Prop :=
  ∃ op ∈ ops, op.Delivers packet

/-- A forwarder that has not been called, on a link with given answers. -/
def freshForwarder (writes reads : List CallAnswer) : SocketForwarder where
  sink := { answers := writes }
  source := { answers := reads }

theorem framed_start {plan : RankPlan} (hnew : new config plan = .ok core)
    {writes reads : List CallAnswer} (hwrites : ∀ answer ∈ writes, answer.isQuiet)
    (hreads : ∀ answer ∈ reads, answer.isQuiet) (engine : Engine) :
    Framed config delivered [] (start (socketSeams respond Engine submit) core
      (freshForwarder writes reads) engine) := by
  have hmapped := (coherent_of_new hnew).mapped
  obtain rfl := Except.ok.inj hnew
  refine ⟨rfl, hmapped, rfl, fun wire hwire => ?_, fun entry hentry => ?_,
    .inl ⟨hwrites, hreads, rfl, rfl, rfl, rfl, rfl⟩⟩
  · cases hwire
  · cases hentry

theorem Framed.written (h : Framed config delivered acked s) :
    ∃ last, (last = [] ∨ ∃ entry ∈ s.core.queue, last = entry.wireBytes) ∧
      acked.flatten <+: s.link.sink.written ∧ s.link.sink.written <+: acked.flatten ++ last ∧
      acknowledgementWireBytes * acked.length ≤ s.link.source.readCount := by
  rcases h.inStep with hrests | ⟨head, rest, hqueue, hunder⟩
  · refine ⟨[], .inl rfl, ?_, ?_, hrests.readCount.ge⟩
    · rw [hrests.written]
    · rw [hrests.written, append_nil]
  refine ⟨head.wireBytes, .inr ⟨head, by rw [hqueue]; exact .head _, rfl⟩, ?_⟩
  rcases hunder.sending with hwrites | hreads
  · refine ⟨?_, ?_, hwrites.readCount.ge⟩
    · rw [hwrites.written]
      exact prefix_append _ _
    · rw [hwrites.written]
      exact (prefix_append_right_inj _).mpr (List.take_prefix _ _)
  · refine ⟨?_, ?_, ?_⟩
    · rw [hreads.written]
      exact prefix_append _ _
    · rw [hreads.written]
    · rw [hreads.readCount]
      exact Nat.le_add_right _ _

/-- If the head of the queue is ready to be forwarded whenever the daemon works on the queue while a
packet is under way, what is written is a sequence of whole packets and a part of the packet under
way, the packets that are marked as forwarded have been acknowledged, and no acknowledgement is
refused. -/
theorem forwarding_is_framed {plan : RankPlan} {core : RankDaemonCore}
    (hnew : RankDaemonCore.new config plan = .ok core) {writes reads : List CallAnswer}
    (hwrites : ∀ answer ∈ writes, answer.isQuiet = true)
    (hreads : ∀ answer ∈ reads, answer.isQuiet = true) (engine : Engine) (ops : List DaemonOp)
    (hfits : ∀ packet, Delivered ops packet → WordsFit packet)
    (hpeer : Acknowledges respond config (Delivered ops))
    (hsteady : Along DaemonOp.exec PumpsSteadily (start (socketSeams respond Engine submit) core
      (freshForwarder writes reads) engine) ops)
    {rank : RankDaemon (socketSeams respond Engine submit)}
    (hrank : rank = runAll DaemonOp.exec (start (socketSeams respond Engine submit) core
      (freshForwarder writes reads) engine) ops) :
    ∃ acked : List (List Nat),
      (∀ wire ∈ acked, ∃ packet, Delivered ops packet ∧ packetToWire config packet = .ok wire) ∧
      (∃ last, (last = [] ∨ ∃ entry ∈ rank.core.queue, last = entry.wireBytes) ∧
        acked.flatten <+: rank.link.sink.written ∧
        rank.link.sink.written <+: acked.flatten ++ last ∧
        acknowledgementWireBytes * acked.length ≤ rank.link.source.readCount) ∧
      (∀ entry ∈ rank.core.queue, Delivered ops entry.packet ∧
        packetToWire config entry.packet = .ok entry.wireBytes ∧
        (entry.forwarded = true → entry.wireBytes ∈ acked)) ∧
      rank.link.refusals = [] := by
  have hframed : ∃ acked, Framed config (Delivered ops) acked rank := by
    rw [hrank]
    refine runAll_invariant_along (P := fun s op => (∀ packet, op.Delivers packet →
      Delivered ops packet) ∧ PumpsSteadily s op) (fun op s hop hs => framed_exec hpeer hfits hop.1
        hop.2 hs) ops (along_and (along_of_forall fun op hop packet hpacket => ?_) hsteady)
      ⟨[], framed_start hnew hwrites hreads engine⟩
    exact ⟨op, hop, hpacket⟩
  obtain ⟨acked, h⟩ := hframed
  refine ⟨acked, fun wire hwire => ?_, h.written, fun entry hentry => ?_, h.refusals⟩
  · obtain ⟨packet, hsendable⟩ := h.sent wire hwire
    exact ⟨packet, hsendable.delivered, hsendable.wire⟩
  · have hqueued := h.queued entry hentry
    exact ⟨hqueued.delivered, hqueued.wire, hqueued.forwarded⟩

/-! ### A next rank that takes packets of one size -/

/-- The acknowledgement that a packet with given bytes was received. -/
def acknowledgementOf (wire : List Nat) : List Nat :=
  acknowledgementToWire (distributedInitializeAcknowledgement (identityFromWire (wire.drop 48))
    (fingerprintBytes wire) .ok)

/-- The answers to a number of packets of a size. -/
def acknowledgeFrames (size : Nat) : Nat → List Nat → List Nat
  | 0, _ => []
  | count + 1, stream =>
    if stream.length < size then []
    else acknowledgementOf (stream.take size) ++ acknowledgeFrames size count (stream.drop size)

/-- A next rank that takes packets of the size of a packet with one lane. -/
def framePeer (stream : List Nat) : List Nat :=
  let size := loneConfig.calculatePacketBytes 1
  acknowledgeFrames size (stream.length / size) stream

theorem length_flatten_of_forall {frames : List (List Nat)} {n : Nat}
    (h : ∀ frame ∈ frames, frame.length = n) : frames.flatten.length = frames.length * n := by
  rw [length_flatten, map_congr_left h, map_const', sum_replicate_nat]

theorem acknowledgeFrames_flatten {size : Nat} {frames : List (List Nat)}
    (h : ∀ frame ∈ frames, frame.length = size) :
    acknowledgeFrames size frames.length frames.flatten =
      (frames.map acknowledgementOf).flatten := by
  induction frames with
  | nil => rfl
  | cons frame _ ih =>
    have hframe := h frame (.head _)
    rw [length_cons, acknowledgeFrames, flatten_cons, if_neg, ← hframe,
      take_left, drop_left, hframe, ih fun frame' hframe' => h frame' (.tail _ hframe')]
    · rfl
    · rw [length_append]
      omega

theorem length_acknowledgementOf (wire : List Nat) :
    (acknowledgementOf wire).length = acknowledgementWireBytes := rfl

theorem answers_framePeer {acked : List (List Nat)} {wire : List Nat} {identity : Identity}
    {hash : Nat} (hacked : ∀ sent ∈ acked, sent.length = loneConfig.calculatePacketBytes 1)
    (hwire : wire.length = loneConfig.calculatePacketBytes 1)
    (hvalid : validateAcknowledgement (acknowledgementFromWire (acknowledgementOf wire)) identity
      hash = .ok (statusCode .ok)) : Answers framePeer acked wire identity hash := by
  have hframes : ∀ frame ∈ acked ++ [wire], frame.length = loneConfig.calculatePacketBytes 1 := by
    intro frame hframe
    rcases mem_append.mp hframe with hframe | hframe
    · exact hacked frame hframe
    · rw [mem_singleton.mp hframe, hwire]
  have hanswer : answer framePeer acked wire = acknowledgementOf wire := by
    have hcount : (acked ++ [wire]).flatten.length / loneConfig.calculatePacketBytes 1 =
        (acked ++ [wire]).length := by
      rw [length_flatten_of_forall hframes, Nat.mul_div_cancel _ (by decide)]
    have hstream : acked.flatten ++ wire = (acked ++ [wire]).flatten := by
      rw [flatten_append, flatten_singleton]
    rw [answer, framePeer, hstream, hcount, acknowledgeFrames_flatten hframes, map_append,
      flatten_append, map_singleton, flatten_singleton, drop_left']
    rw [length_flatten_of_forall, length_map, Nat.mul_comm]
    intro frame hframe
    obtain ⟨sent, -, rfl⟩ := mem_map.mp hframe
    exact length_acknowledgementOf sent
  rw [Answers, hanswer]
  exact ⟨length_acknowledgementOf wire, hvalid⟩

instance (head : QueuedWork) (rest : List QueuedWork) : Decidable (Going head rest) :=
  inferInstanceAs (Decidable (_ ∧ _))

instance (core : RankDaemonCore) (packet : WorkControlPacket) (target : LedgerState)
    (status : SparkStatus) : Decidable (core.CanMove packet target status) :=
  inferInstanceAs (Decidable (_ ∧ _))

instance (s : RankDaemon (socketSeams respond Engine submit)) : Decidable s.Steady :=
  inferInstanceAs (Decidable (_ → _))

instance (s : RankDaemon (socketSeams respond Engine submit)) (op : DaemonOp) :
    Decidable (s.PumpsSteadily op) :=
  match op with
  | .pumpQueuedWork => decidable_of_iff s.Steady ⟨fun h _ => h, fun h => h rfl⟩
  | .handleWork _ | .wakeDeferredWork | .queueDriverCompletion _ | .processDriverCompletion _ |
    .pumpDriverCompletions | .popFinalEvent | .queueWork _ | .transitionPacket .. |
    .registerInflightTransaction _ | .cancelInflightTransaction _ | .queueFinalEvent _ =>
    .isTrue fun h => by cases h

theorem wordsFit_decodePacket {transactionId : Nat} (h : transactionId < 2 ^ 64) (position : Nat) :
    WordsFit (decodePacket transactionId position) where
  descriptorBytes := show loneConfig.calculatePacketBytes 1 < 2 ^ 32 by decide
  controlGeneration := show 1 < 2 ^ 64 by decide
  transactionId := h
  dispatchGeneration := show 1 < 2 ^ 64 by decide
  requestGeneration := show 1 < 2 ^ 64 by decide
  stepGeneration := show 1 < 2 ^ 64 by decide
  stepChunkIndex := show 0 < 2 ^ 32 by decide
  stepChunkCount := show 1 < 2 ^ 32 by decide
  transactionPhase := show phaseDecode < 2 ^ 32 by decide

theorem acknowledges_framePeer
    (h : ∀ packet, delivered packet → packet ∈ [decodePacket 2 1, decodePacket 1 0]) :
    Acknowledges framePeer loneConfig delivered := by
  have hbytes : ∀ packet ∈ [decodePacket 2 1, decodePacket 1 0],
      (canonicalBytes packet loneConfig).length = loneConfig.calculatePacketBytes 1 ∧
        validateAcknowledgement (acknowledgementFromWire (acknowledgementOf
          (canonicalBytes packet loneConfig))) (identity packet)
          (packetFingerprint packet loneConfig) = .ok (statusCode .ok) := by decide +kernel
  intro acked packet wire hacked hsendable
  obtain ⟨hlength, hvalid⟩ := hbytes packet (h packet hsendable.delivered)
  have hwire := packetToWire_eq_ok hsendable.wire
  rw [← hwire] at hlength hvalid
  refine answers_framePeer (fun sent hsent => ?_) hlength hvalid
  obtain ⟨packet', hsendable'⟩ := hacked sent hsent
  rw [packetToWire_eq_ok hsendable'.wire]
  exact (hbytes packet' (h packet' hsendable'.delivered)).1

/-- A daemon that forwards to such a rank; its engine takes whatever it is given. -/
abbrev framingSeams : DaemonSeams := socketSeams framePeer Unit fun _ => pure []

/-- It has not served. -/
def framingStart (writes reads : List CallAnswer) : RankDaemon framingSeams :=
  start framingSeams (loneCore ⟨rankFlagHasNext, 1⟩) (freshForwarder writes reads) ()

/-- A packet is written and acknowledged in parts. -/
def partedRun : List DaemonOp :=
  [.handleWork (decodePacket 2 1), .pumpQueuedWork, .pumpQueuedWork, .pumpQueuedWork,
    .pumpQueuedWork]

/-- The dependency of a packet under way arrives, and the queue is woken. -/
def overtakenRun : List DaemonOp :=
  [.handleWork (decodePacket 2 1), .pumpQueuedWork, .handleWork (decodePacket 1 0),
    .wakeDeferredWork, .pumpQueuedWork, .pumpQueuedWork]

variable {packet : WorkControlPacket}

theorem mem_of_delivered_partedRun (h : Delivered partedRun packet) :
    packet ∈ [decodePacket 2 1, decodePacket 1 0] := by
  obtain ⟨op, hop, rfl | rfl⟩ := h <;> simp [partedRun] at hop ⊢
  exact .inl hop

theorem mem_of_delivered_overtakenRun
    (h : Delivered overtakenRun packet) : packet ∈ [decodePacket 2 1, decodePacket 1 0] := by
  obtain ⟨op, hop, rfl | rfl⟩ := h <;> simp [overtakenRun] at hop ⊢
  exact hop

theorem wordsFit_of_mem (h : packet ∈ [decodePacket 2 1, decodePacket 1 0]) : WordsFit packet := by
  rcases mem_cons.mp h with rfl | h
  · exact wordsFit_decodePacket (by decide) 1
  · rw [mem_singleton.mp h]
    exact wordsFit_decodePacket (by decide) 0

theorem forwarding_is_framed_parted : ∃ rank : RankDaemon framingSeams,
      rank = runAll DaemonOp.exec (framingStart [.moves 9, .wouldBlock, .moves 300]
        [.moves 9, .wouldBlock, .moves 300]) partedRun ∧
      rank.submissions.length = 1 ∧
      ∃ acked : List (List Nat), (∀ wire ∈ acked, ∃ packet, Delivered partedRun packet ∧
          packetToWire loneConfig packet = .ok wire) ∧
        (∃ last, (last = [] ∨ ∃ entry ∈ rank.core.queue, last = entry.wireBytes) ∧
          acked.flatten <+: rank.link.sink.written ∧
          rank.link.sink.written <+: acked.flatten ++ last ∧
          acknowledgementWireBytes * acked.length ≤ rank.link.source.readCount) ∧
        (∀ entry ∈ rank.core.queue, Delivered partedRun entry.packet ∧
          packetToWire loneConfig entry.packet = .ok entry.wireBytes ∧
          (entry.forwarded = true → entry.wireBytes ∈ acked)) ∧
        rank.link.refusals = [] := by
  obtain ⟨rank, hrank⟩ : ∃ rank, rank = runAll DaemonOp.exec (framingStart
    [.moves 9, .wouldBlock, .moves 300] [.moves 9, .wouldBlock, .moves 300]) partedRun := ⟨_, rfl⟩
  have hsubmissions : rank.submissions.length = 1 := by
    rw [hrank]
    decide +kernel
  exact ⟨rank, hrank, hsubmissions, forwarding_is_framed (new_loneConfig ⟨rankFlagHasNext, 1⟩)
    (by decide) (by decide) () partedRun (fun packet hpacket => wordsFit_of_mem
      (mem_of_delivered_partedRun hpacket)) (acknowledges_framePeer fun packet =>
        mem_of_delivered_partedRun) (by decide +kernel) hrank⟩

/-- The dependency of a packet that is under way is failed by the acknowledgement of that packet. -/
theorem forwarding_fails_other_packet :
    RankDaemonCore.new loneConfig ⟨rankFlagHasNext, 1⟩ = .ok (loneCore ⟨rankFlagHasNext, 1⟩) ∧
    Acknowledges framePeer loneConfig (Delivered overtakenRun) ∧
    (∀ packet, Delivered overtakenRun packet → WordsFit packet) ∧
    ∃ rank : RankDaemon framingSeams,
      rank = runAll DaemonOp.exec (framingStart [.moves 9, .wouldBlock, .moves 300]
        [.moves 300]) overtakenRun ∧
      rank.link.sink.written = canonicalBytes (decodePacket 2 1) loneConfig ∧
      rank.link.refusals = [.validationFailed] ∧
      (rank.core.mark (identity (decodePacket 1 0))).map Mark.state = some .failed := by
  refine ⟨new_loneConfig _, acknowledges_framePeer fun packet => mem_of_delivered_overtakenRun,
    fun packet hpacket => wordsFit_of_mem (mem_of_delivered_overtakenRun hpacket), _, rfl, ?_⟩
  decide +kernel

end RankDaemon

end SparkPipe
