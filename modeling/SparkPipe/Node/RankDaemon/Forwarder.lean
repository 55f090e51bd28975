import SparkPipe.Node.RankDaemon.Daemon
import SparkPipe.Program.Channel

/-!
# Forwarding over a socket

The forwarder writes the bytes of a packet to the next rank and reads an acknowledgement back. Both
may stop half way: it then reports that it is busy, and a later call resumes. What it has begun to
write, and the hash of the packet whose acknowledgement it reads, are its own; the identity against
which the acknowledgement is checked is that of the call.

The bytes that the next rank has sent are a function of the bytes that were written to it. The
errors that `forward` returns, other than being busy, are recorded.
-/

open Program

namespace SparkPipe

open WorkControl

structure SocketForwarder where
  sink : Sink
  source : Source
  writeOffset : Nat := 0
  pendingWire : List Nat := []
  waitingForAcknowledgement : Bool := false
  /-- The bytes of the acknowledgement that have been read. -/
  acknowledgementBytes : List Nat := []
  packetHash : Nat := 0
  refusals : List SparkStatus := []

namespace SocketForwarder

abbrev ForwarderM := EStateM SparkStatus SocketForwarder

def onSink {α : Type} (call : EStateM IoError Sink α) : ForwarderM (Except IoError α) := do
  let forwarder ← get
  match call forwarder.sink with
  | .ok answer sink =>
    set { forwarder with sink := sink }
    pure (.ok answer)
  | .error error sink =>
    set { forwarder with sink := sink }
    pure (.error error)

def onSource {α : Type} (call : EStateM IoError Source α) : ForwarderM (Except IoError α) := do
  let forwarder ← get
  match call forwarder.source with
  | .ok answer source =>
    set { forwarder with source := source }
    pure (.ok answer)
  | .error error source =>
    set { forwarder with source := source }
    pure (.error error)

def reset (forwarder : SocketForwarder) : SocketForwarder :=
  { forwarder with
    writeOffset := 0
    pendingWire := []
    waitingForAcknowledgement := false
    acknowledgementBytes := []
    packetHash := 0 }

/-- The forwarder starts anew, and the route is reported as lost. -/
def loseRoute : ForwarderM Unit := do
  modify reset
  throw .routeNotFound

/-- The status that an acknowledgement carries. -/
def acknowledgedStatus (bytes : List Nat) (identity : Identity) (packetHash : Nat) :
    Except SparkStatus SparkStatus :=
  match validateAcknowledgement (acknowledgementFromWire bytes) identity packetHash with
  | .ok carried => .ok ((statusFromCode carried).getD .internalError)
  | .error status => .error status

/-- An acknowledgement has been read. -/
def finishAcknowledgement (identity : Identity) : ForwarderM Unit := do
  let forwarder ← get
  set forwarder.reset
  match acknowledgedStatus forwarder.acknowledgementBytes identity forwarder.packetHash with
  | .ok .busy | .ok .capacityExceeded => throw .busy
  | .ok .ok | .ok .duplicate => pure ()
  | .ok other => throw other
  | .error status => throw status

section

variable (respond : List Nat → List Nat)

/-- Read the rest of the acknowledgement; every call uses up an answer of the link. -/
def readAcknowledgement (identity : Identity) : Nat → ForwarderM Unit
  | 0 => throw .busy
  | fuel + 1 => do
      let forwarder ← get
      if acknowledgementWireBytes ≤ forwarder.acknowledgementBytes.length then
        finishAcknowledgement identity
      else
        match ← onSource (Source.read (respond forwarder.sink.written)
            (acknowledgementWireBytes - forwarder.acknowledgementBytes.length)) with
        | .ok [] => loseRoute
        | .ok bytes =>
          modify fun forwarder => { forwarder with
            acknowledgementBytes := forwarder.acknowledgementBytes ++ bytes }
          readAcknowledgement identity fuel
        | .error .interrupted => readAcknowledgement identity fuel
        | .error .wouldBlock => throw .busy
        | .error .other => loseRoute

def writePending : Nat → ForwarderM Unit
  | 0 => throw .busy
  | fuel + 1 => do
      let forwarder ← get
      if forwarder.pendingWire.length ≤ forwarder.writeOffset then pure ()
      else
        match ← onSink (Sink.write (forwarder.pendingWire.drop forwarder.writeOffset)) with
        | .ok 0 => loseRoute
        | .ok written =>
          modify fun forwarder => { forwarder with
            writeOffset := forwarder.writeOffset + written }
          writePending fuel
        | .error .interrupted => writePending fuel
        | .error .wouldBlock => throw .busy
        | .error .other => loseRoute

variable (packetWire : List Nat)

def beginPacket (forwarder : SocketForwarder) : SocketForwarder :=
  if forwarder.pendingWire = [] then { forwarder with pendingWire := packetWire } else forwarder

/-- Go on with the packet that was begun, or begin the given one. -/
def forward (identity : Identity) (packetFingerprint : Nat) : ForwarderM Unit := do
  let forwarder ← get
  if forwarder.waitingForAcknowledgement then
    readAcknowledgement respond identity (forwarder.source.answers.length + 1)
  else
    set (forwarder.beginPacket packetWire)
    writePending (forwarder.sink.answers.length + 1)
    if packetFingerprint = 0 then throw .internalError
    else
      modify fun forwarder => { forwarder with
        packetHash := packetFingerprint
        waitingForAcknowledgement := true
        acknowledgementBytes := [] }
      throw .busy

/-- The call, whose errors are recorded. -/
def recordedForward (identity : Identity) (packetFingerprint : Nat) : ForwarderM Unit := do
  match ← (attempt (forward respond packetWire identity packetFingerprint) :
      ForwarderM (Except SparkStatus Unit)) with
  | .ok _ => pure ()
  | .error .busy => throw .busy
  | .error status =>
    modify fun forwarder => { forwarder with refusals := forwarder.refusals ++ [status] }
    throw status

end

end SocketForwarder

/-! ### Where the forwarder stands between two calls -/

namespace SocketForwarder

variable (respond : List Nat → List Nat) (acked : List (List Nat)) (wire : List Nat)

/-- No packet is under way: what was written has been acknowledged. -/
structure Rests (f : SocketForwarder) : Prop where
  sink : f.sink.IsQuiet
  source : f.source.IsQuiet
  pendingWire : f.pendingWire = []
  writeOffset : f.writeOffset = 0
  waiting : f.waitingForAcknowledgement = false
  written : f.sink.written = acked.flatten
  readCount : f.source.readCount = acknowledgementWireBytes * acked.length

/-- The bytes of a packet are being written. -/
structure Writes (f : SocketForwarder) : Prop where
  sink : f.sink.IsQuiet
  source : f.source.IsQuiet
  pendingWire : f.pendingWire = wire
  writeOffset : f.writeOffset ≤ wire.length
  waiting : f.waitingForAcknowledgement = false
  written : f.sink.written = acked.flatten ++ wire.take f.writeOffset
  readCount : f.source.readCount = acknowledgementWireBytes * acked.length

/-- What the next rank has sent after earlier acknowledgements. -/
def answer : List Nat :=
  (respond (acked.flatten ++ wire)).drop (acknowledgementWireBytes * acked.length)

/-- The acknowledgement of a packet is being read. -/
structure Reads (hash : Nat) (f : SocketForwarder) : Prop where
  sink : f.sink.IsQuiet
  source : f.source.IsQuiet
  pendingWire : f.pendingWire = wire
  waiting : f.waitingForAcknowledgement
  packetHash : f.packetHash = hash
  written : f.sink.written = acked.flatten ++ wire
  length_le : f.acknowledgementBytes.length ≤ acknowledgementWireBytes
  arrived : f.acknowledgementBytes = (answer respond acked wire).take f.acknowledgementBytes.length
  readCount : f.source.readCount =
    acknowledgementWireBytes * acked.length + f.acknowledgementBytes.length

/-- A packet is under way. -/
def Sending (hash : Nat) (f : SocketForwarder) : Prop :=
  Writes acked wire f ∨ Reads respond acked wire hash f

/-- The next rank acknowledges that the packet was received. -/
def Answers (identity : Identity) (hash : Nat) : Prop :=
  (answer respond acked wire).length = acknowledgementWireBytes ∧
    validateAcknowledgement (acknowledgementFromWire (answer respond acked wire)) identity hash =
      .ok (statusCode .ok)

variable {f : SocketForwarder} {respond acked wire} {identity : Identity} {hash : Nat}
  {E : SparkStatus → SocketForwarder → Prop} {α : Type}

theorem Sending.pendingWire (h : Sending respond acked wire hash f) : f.pendingWire = wire := by
  rcases h with h | h <;> exact h.pendingWire

theorem wp_onSink {call : EStateM IoError Sink α}
    {Q : Except IoError α → SocketForwarder → Prop} :
    wp (onSink call) Q E f ↔ wp call (fun answer sink => Q (.ok answer) { f with sink := sink })
        (fun error sink => Q (.error error) { f with sink := sink }) f.sink := by
  rw [onSink, wp_read]
  unfold wp
  cases call f.sink <;> rfl

theorem wp_onSource {call : EStateM IoError Source α}
    {Q : Except IoError α → SocketForwarder → Prop} :
    wp (onSource call) Q E f ↔
      wp call (fun answer source => Q (.ok answer) { f with source := source })
        (fun error source => Q (.error error) { f with source := source }) f.source := by
  rw [onSource, wp_read]
  unfold wp
  cases call f.source <;> rfl

theorem writePending_wp (fuel : Nat) (h : Writes acked wire f) : wp (writePending fuel)
      (fun _ f' => Writes acked wire f' ∧ f'.writeOffset = wire.length ∧ f'.refusals = f.refusals)
      (fun error f' => error = .busy ∧ Writes acked wire f' ∧ f'.refusals = f.refusals) f := by
  -- every turn of the loop keeps what is written in step with the offset
  induction fuel generalizing f with
  | zero => exact ⟨rfl, h, rfl⟩
  | succ fuel ih =>
    rw [writePending, wp_read]
    refine wp_ite.mpr ⟨fun hend => ?_, fun hmore => ?_⟩
    · rw [h.pendingWire] at hend
      exact ⟨h, Nat.le_antisymm h.writeOffset hend, rfl⟩
    rw [h.pendingWire] at hmore ⊢
    have hrest : wire.drop f.writeOffset ≠ [] := by
      rw [ne_eq, List.drop_eq_nil_iff]
      exact hmore
    rw [wp_bind, wp_onSink]
    refine wp_mono (Sink.write_wp h.sink hrest) ?_ ?_
    · rintro count sink ⟨hpos, hle, hquiet, hwritten⟩
      rw [List.length_drop] at hle
      cases count with
      | zero => exact absurd hpos (Nat.lt_irrefl 0)
      | succ count =>
        have hnext : Writes acked wire
            { f with sink := sink, writeOffset := f.writeOffset + (count + 1) } := by
          refine ⟨hquiet, h.source, h.pendingWire, ?_, h.waiting, ?_, h.readCount⟩
          · show f.writeOffset + (count + 1) ≤ wire.length
            omega
          · rw [hwritten, h.written, List.append_assoc, ← List.take_add]
        show wp (do
          modify fun forwarder : SocketForwarder => { forwarder with
            writeOffset := forwarder.writeOffset + (count + 1) }
          writePending fuel) _ _ _
        rw [wp_bind, wp_modify]
        exact ih hnext
    · rintro error sink ⟨hquiet, hwritten, hwhy⟩
      have hnext : Writes acked wire { f with sink := sink } :=
        { h with sink := hquiet, written := hwritten.trans h.written }
      rcases hwhy with rfl | rfl
      · exact ih hnext
      · exact ⟨rfl, hnext, rfl⟩

theorem finishAcknowledgement_wp (h : Reads respond acked wire hash f)
    (hread : acknowledgementWireBytes ≤ f.acknowledgementBytes.length)
    (hanswers : Answers respond acked wire identity hash) :
    wp (finishAcknowledgement identity)
      (fun _ f' => Rests (acked ++ [wire]) f' ∧ f'.refusals = f.refusals)
      (fun _ _ => False) f := by
  obtain ⟨hlength, hvalid⟩ := hanswers
  have hall := Nat.le_antisymm h.length_le hread
  have hbytes : f.acknowledgementBytes = answer respond acked wire := by
    rw [h.arrived, hall, ← hlength, List.take_length]
  have hstatus : acknowledgedStatus f.acknowledgementBytes identity f.packetHash = .ok .ok := by
    rw [acknowledgedStatus, hbytes, h.packetHash, hvalid]
    rfl
  rw [finishAcknowledgement, wp_read, wp_bind, wp_set, hstatus]
  refine ⟨⟨h.sink, h.source, rfl, rfl, rfl, ?_, ?_⟩, rfl⟩
  · rw [List.flatten_append, List.flatten_singleton]
    exact h.written
  · show f.source.readCount = _
    rw [h.readCount, hall, List.length_append, List.length_singleton, Nat.mul_add_one]

theorem readAcknowledgement_wp (hanswers : Answers respond acked wire identity hash) (fuel : Nat)
    (h : Reads respond acked wire hash f) :
    wp (readAcknowledgement respond identity fuel)
      (fun _ f' => Rests (acked ++ [wire]) f' ∧ f'.refusals = f.refusals)
      (fun error f' => error = .busy ∧ Reads respond acked wire hash f' ∧
        f'.refusals = f.refusals) f := by
  induction fuel generalizing f with
  | zero => exact ⟨rfl, h, rfl⟩
  | succ fuel ih =>
    rw [readAcknowledgement, wp_read]
    refine wp_ite.mpr ⟨fun hend => ?_, fun hmore => ?_⟩
    · exact wp_total (finishAcknowledgement_wp h hend hanswers) fun _ _ h => h
    rw [wp_bind, wp_onSource]
    refine wp_mono (Source.read_wp h.source (respond f.sink.written) _) ?_ ?_
    · rintro bytes source ⟨hbytes, hle, harrived, hquiet, hcount⟩
      cases bytes with
      | nil => exact absurd rfl hbytes
      | cons byte bytes =>
        have hnext : Reads respond acked wire hash { f with
            source := source
            acknowledgementBytes := f.acknowledgementBytes ++ byte :: bytes } := by
          refine ⟨h.sink, hquiet, h.pendingWire, h.waiting, h.packetHash, h.written, ?_, ?_, ?_⟩
          · rw [List.length_append]
            omega
          · rw [List.length_append, List.take_add, ← h.arrived, answer, List.drop_drop]
            rw [h.written, h.readCount] at harrived
            rw [← harrived]
          · rw [hcount, h.readCount, List.length_append, Nat.add_assoc]
        rw [wp_bind, wp_modify]
        exact ih hnext
    · rintro error source ⟨hquiet, hcount, hwhy⟩
      have hnext : Reads respond acked wire hash { f with source := source } :=
        { h with source := hquiet, readCount := hcount.trans h.readCount }
      rcases hwhy with rfl | rfl
      · exact ih hnext
      · exact ⟨rfl, hnext, rfl⟩

theorem writes_beginPacket (h : Rests acked f ∨ Writes acked wire f) (hwire : wire ≠ []) :
    Writes acked wire (f.beginPacket wire) := by
  rcases h with h | h
  · rw [beginPacket, if_pos h.pendingWire]
    refine ⟨h.sink, h.source, rfl, ?_, h.waiting, ?_, h.readCount⟩
    · rw [h.writeOffset]
      exact Nat.zero_le _
    · rw [h.written, h.writeOffset, List.take_zero, List.append_nil]
  · rw [beginPacket, if_neg (by rw [h.pendingWire]; exact hwire)]
    exact h

theorem beginPacket_refusals (wire : List Nat) (f : SocketForwarder) :
    (f.beginPacket wire).refusals = f.refusals := by
  rw [beginPacket]
  split_ifs <;> rfl

section

variable (h : Rests acked f ∨ Sending respond acked wire hash f) (hwire : wire ≠ [])
  (hhash : hash ≠ 0) (hanswers : Answers respond acked wire identity hash)
include h hwire hhash hanswers

theorem forward_wp : wp (forward respond wire identity hash)
      (fun _ f' => Rests (acked ++ [wire]) f' ∧ f'.refusals = f.refusals)
      (fun error f' => error = .busy ∧ Sending respond acked wire hash f' ∧
        f'.refusals = f.refusals) f := by
  rw [forward, wp_read]
  rcases or_assoc.mpr h with h | h
  · have hwaiting : f.waitingForAcknowledgement = false := by
      rcases h with h | h <;> exact h.waiting
    rw [if_neg (by simp [hwaiting]), wp_bind, wp_set, wp_bind]
    refine wp_mono (writePending_wp _ (writes_beginPacket h hwire)) ?_ ?_
    · rintro _ f' ⟨hwrites, hoffset, hrefusals⟩
      rw [if_neg hhash, wp_bind, wp_modify]
      refine ⟨rfl, .inr ⟨hwrites.sink, hwrites.source, hwrites.pendingWire, rfl, rfl, ?_,
        Nat.zero_le _, rfl, hwrites.readCount⟩, hrefusals.trans (beginPacket_refusals wire f)⟩
      rw [hwrites.written, hoffset, List.take_length]
    · rintro error f' ⟨rfl, hwrites, hrefusals⟩
      exact ⟨rfl, .inl hwrites, hrefusals.trans (beginPacket_refusals wire f)⟩
  · rw [if_pos h.waiting]
    refine wp_mono (readAcknowledgement_wp hanswers _ h) (fun _ _ h => h) ?_
    rintro error f' ⟨hbusy, hreads, hrefusals⟩
    exact ⟨hbusy, .inr hreads, hrefusals⟩

theorem recordedForward_wp : wp (recordedForward respond wire identity hash)
      (fun _ f' => Rests (acked ++ [wire]) f' ∧ f'.refusals = f.refusals)
      (fun error f' => error = .busy ∧ Sending respond acked wire hash f' ∧
        f'.refusals = f.refusals) f := by
  rw [recordedForward, wp_bind, wp_attempt]
  refine wp_mono (forward_wp h hwire hhash hanswers) (fun _ _ h => h) ?_
  rintro error f' ⟨rfl, hsending, hrefusals⟩
  exact ⟨rfl, hsending, hrefusals⟩

end

end SocketForwarder

/-- A daemon that forwards over a socket to a next rank. -/
def socketSeams (respond : List Nat → List Nat) (Engine : Type)
    (submit : WorkControlPacket → EStateM SparkStatus Engine (List DriverCompletionRecord)) :
    DaemonSeams where
  Forwarder := SocketForwarder
  forward := SocketForwarder.recordedForward respond
  Engine := Engine
  submit := submit

end SparkPipe
