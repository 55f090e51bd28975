import SparkPipe.Node.RankDaemon.Ledger

/-!
# The wire formats of the rank daemon

A rank sends a work packet as its canonical bytes and is answered by an acknowledgement of 96 bytes
that repeats the identity and the fingerprint of the packet and carries a status.

An acknowledgement keeps its words as they came: the status is a code here, and a code need not be
that of a status. Whoever sent a packet reads from its acknowledgement the status that was written,
and from no other one.
-/

namespace SparkPipe

variable {config : WorkControlConfig} {left right : WorkControlPacket}

open WorkControl

/-! ### Status codes -/

def statusCode : SparkStatus → Nat
  | .ok => 0
  | .invalidArgument => 1
  | .capacityExceeded => 2
  | .notFound => 3
  | .ioError => 4
  | .parseError => 5
  | .schemaError => 6
  | .hashMismatch => 7
  | .moduleNotValidated => 8
  | .validationFailed => 9
  | .abiMismatch => 10
  | .targetMismatch => 11
  | .compilerError => 12
  | .driverLoadError => 13
  | .routeNotFound => 14
  | .busy => 15
  | .duplicate => 16
  | .internalError => 17
  | .pending => 18
  | .unsupported => 19

def statusFromCode : Nat → Option SparkStatus
  | 0 => some .ok
  | 1 => some .invalidArgument
  | 2 => some .capacityExceeded
  | 3 => some .notFound
  | 4 => some .ioError
  | 5 => some .parseError
  | 6 => some .schemaError
  | 7 => some .hashMismatch
  | 8 => some .moduleNotValidated
  | 9 => some .validationFailed
  | 10 => some .abiMismatch
  | 11 => some .targetMismatch
  | 12 => some .compilerError
  | 13 => some .driverLoadError
  | 14 => some .routeNotFound
  | 15 => some .busy
  | 16 => some .duplicate
  | 17 => some .internalError
  | 18 => some .pending
  | 19 => some .unsupported
  | _ => none

def fromWorkControl : WorkControlError → SparkStatus
  | .invalidArgument => .invalidArgument
  | .capacityExceeded => .capacityExceeded
  | .notFound => .notFound
  | .moduleNotValidated => .moduleNotValidated
  | .validationFailed => .validationFailed
  | .abiMismatch => .abiMismatch
  | .busy => .busy
  | .internalError => .internalError

/-! ### Packets -/

def packetToWire (config : WorkControlConfig) (packet : WorkControlPacket) :
    Except SparkStatus (List Nat) :=
  let expected := config.calculatePacketBytes packet.activeSequenceCount
  if expected = 0 ∨ packet.descriptorBytes ≠ expected then .error .invalidArgument
  else .ok (canonicalBytes packet config)

def packetDedupHash32 (wireBytes : List Nat) : Nat :=
  wireBytes.foldl (fun hash byte => Nat.xor hash byte * 16777619 % 2 ^ 32) 2166136261

theorem padTo_of_le {length : Nat} {bytes : List Nat} (h : bytes.length ≤ length) :
    padTo length bytes = bytes ++ List.replicate (length - bytes.length) 0 := by
  rw [padTo, List.take_of_length_le h]

theorem le_align8 (value : Nat) : value ≤ WorkControlConfig.align8 value := by
  rw [WorkControlConfig.align8]
  omega

theorem canonicalBytes_eq_append (packet : WorkControlPacket) (config : WorkControlConfig) :
    ∃ rest, canonicalBytes packet config = word32 packet.magic ++ (word32 packet.abiVersion ++
      (word32 packet.descriptorBytes ++ (word32 packet.flags ++ (word64 packet.requestId ++
      (word64 packet.sequenceId ++ (word64 packet.sequencePosition ++
      (word64 packet.deadlineTimeNs ++ (word64 packet.controlGeneration ++
      (word64 packet.transactionId ++ (word64 packet.dispatchGeneration ++
      (word64 packet.requestGeneration ++ (word64 packet.stepGeneration ++
      (word32 packet.stepChunkIndex ++ (word32 packet.stepChunkCount ++
      (word32 packet.transactionPhase ++ rest))))))))))))))) := by
  rw [canonicalBytes, prefixCanonicalBytes, padTo_of_le (le_align8 _)]
  simp only [List.append_assoc]
  exact ⟨_, rfl⟩

theorem word64_of_canonicalBytes (h : canonicalBytes left config = canonicalBytes right config) :
    word64 left.transactionId = word64 right.transactionId := by
  obtain ⟨rest, hleft⟩ := canonicalBytes_eq_append left config
  obtain ⟨rest', hright⟩ := canonicalBytes_eq_append right config
  rw [hleft, hright] at h
  iterate 9 replace h := (List.append_inj h rfl).2
  exact (List.append_inj h rfl).1

theorem littleEndian_inj {width left right : Nat}
    (h : littleEndian width left = littleEndian width right) (hleft : left < 256 ^ width)
    (hright : right < 256 ^ width) : left = right := by
  induction width generalizing left right with
  | zero => omega
  | succ _ ih =>
    rw [littleEndian, littleEndian, List.cons.injEq] at h
    rw [Nat.pow_succ'] at hleft hright
    have hhigh := ih h.2 (Nat.div_lt_of_lt_mul hleft) (Nat.div_lt_of_lt_mul hright)
    omega

/-- The words by which a packet is identified fit their widths. -/
structure WordsFit (packet : WorkControlPacket) : Prop where
  descriptorBytes : packet.descriptorBytes < 2 ^ 32
  controlGeneration : packet.controlGeneration < 2 ^ 64
  transactionId : packet.transactionId < 2 ^ 64
  dispatchGeneration : packet.dispatchGeneration < 2 ^ 64
  requestGeneration : packet.requestGeneration < 2 ^ 64
  stepGeneration : packet.stepGeneration < 2 ^ 64
  stepChunkIndex : packet.stepChunkIndex < 2 ^ 32
  stepChunkCount : packet.stepChunkCount < 2 ^ 32
  transactionPhase : packet.transactionPhase < 2 ^ 32

theorem identity_of_canonicalBytes (hleft : WordsFit left)
    (hright : WordsFit right) (h : canonicalBytes left config = canonicalBytes right config) :
    identity left = identity right ∧ left.descriptorBytes = right.descriptorBytes := by
  have hword {value value' : Nat} (hsame : word32 value = word32 value')
      hlt hlt' : value = value' :=
    littleEndian_inj hsame hlt hlt'
  have hlong {value value' : Nat} (hsame : word64 value = word64 value')
      hlt hlt' : value = value' :=
    littleEndian_inj hsame hlt hlt'
  obtain ⟨rest, hbytes⟩ := canonicalBytes_eq_append left config
  obtain ⟨rest', hbytes'⟩ := canonicalBytes_eq_append right config
  rw [hbytes, hbytes'] at h
  iterate 2 replace h := (List.append_inj h rfl).2
  obtain ⟨hsize, h⟩ := List.append_inj h rfl
  iterate 5 replace h := (List.append_inj h rfl).2
  obtain ⟨hcontrol, h⟩ := List.append_inj h rfl
  obtain ⟨htransaction, h⟩ := List.append_inj h rfl
  obtain ⟨hdispatch, h⟩ := List.append_inj h rfl
  obtain ⟨hrequest, h⟩ := List.append_inj h rfl
  obtain ⟨hstep, h⟩ := List.append_inj h rfl
  obtain ⟨hindex, h⟩ := List.append_inj h rfl
  obtain ⟨hcount, h⟩ := List.append_inj h rfl
  obtain ⟨hphase, -⟩ := List.append_inj h rfl
  refine ⟨?_, hword hsize hleft.descriptorBytes hright.descriptorBytes⟩
  rw [identity, identity, hlong hcontrol hleft.controlGeneration hright.controlGeneration,
    hlong htransaction hleft.transactionId hright.transactionId,
    hlong hdispatch hleft.dispatchGeneration hright.dispatchGeneration,
    hlong hrequest hleft.requestGeneration hright.requestGeneration,
    hlong hstep hleft.stepGeneration hright.stepGeneration,
    hword hindex hleft.stepChunkIndex hright.stepChunkIndex,
    hword hcount hleft.stepChunkCount hright.stepChunkCount,
    hword hphase hleft.transactionPhase hright.transactionPhase]

theorem packetToWire_eq_ok {packet : WorkControlPacket} {wireBytes : List Nat}
    (h : packetToWire config packet = .ok wireBytes) :
    wireBytes = canonicalBytes packet config := by
  simp only [packetToWire] at h
  split_ifs at h
  exact (Except.ok.inj h).symm

/-! ### Acknowledgements -/

/-- The number with the given bytes, the lowest first. -/
def fromLittleEndian : List Nat → Nat
  | [] => 0
  | byte :: bytes => byte + 256 * fromLittleEndian bytes

/-- The word of a number of bytes at a place. -/
def wordAt (bytes : List Nat) (offset width : Nat) : Nat :=
  fromLittleEndian ((bytes.drop offset).take width)

def acknowledgementWireBytes : Nat := 96

def ackMagic : Nat := 0x4B415457

def transactionAbiVersion : Nat := 2

/-- The states that an acknowledgement names. -/
def wireStateAccepted : Nat := 2
def wireStateFailed : Nat := 6

def identityFromWire (bytes : List Nat) : Identity where
  controlGeneration := wordAt bytes 0 8
  transactionId := wordAt bytes 8 8
  dispatchGeneration := wordAt bytes 16 8
  requestGeneration := wordAt bytes 24 8
  stepGeneration := wordAt bytes 32 8
  stepChunkIndex := wordAt bytes 40 4
  stepChunkCount := wordAt bytes 44 4
  transactionPhase := wordAt bytes 48 4

structure WorkAcknowledgement where
  magic : Nat
  abiVersion : Nat
  descriptorBytes : Nat
  status : Nat
  transactionState : Nat
  reserved0 : Nat := 0
  identity : Identity
  packetFingerprint : Nat
  reserved1 : Nat := 0

def initializeAcknowledgement (identity : Option Identity) (packetFingerprint : Nat)
    (transactionState : Nat) (status : SparkStatus) : WorkAcknowledgement where
  magic := ackMagic
  abiVersion := transactionAbiVersion
  descriptorBytes := acknowledgementWireBytes
  status := statusCode status
  transactionState := transactionState
  identity := identity.getD {}
  packetFingerprint := packetFingerprint

def stateIsStored (state : Nat) : Bool := 1 ≤ state && state ≤ 6

/-- The code that an acknowledgement carries, if it is one for the packet. -/
def validateAcknowledgement (acknowledgement : WorkAcknowledgement) (expectedIdentity : Identity)
    (expectedPacketFingerprint : Nat) : Except SparkStatus Nat :=
  if expectedPacketFingerprint = 0 then .error .invalidArgument
  else if acknowledgement.magic ≠ ackMagic ∨ acknowledgement.abiVersion ≠ transactionAbiVersion ∨
      acknowledgement.descriptorBytes ≠ acknowledgementWireBytes then .error .abiMismatch
  else if identityIsValid acknowledgement.identity = false ∨
      acknowledgement.identity ≠ expectedIdentity ∨
      acknowledgement.packetFingerprint ≠ expectedPacketFingerprint ∨
      statusFromCode acknowledgement.status = none ∨
      stateIsStored acknowledgement.transactionState = false ∨
      acknowledgement.reserved0 ≠ 0 ∨ acknowledgement.reserved1 ≠ 0 then
    .error .validationFailed
  else .ok acknowledgement.status

def acknowledgementToWire (acknowledgement : WorkAcknowledgement) : List Nat :=
  word32 acknowledgement.magic ++ word32 acknowledgement.abiVersion ++
    word32 acknowledgement.descriptorBytes ++ word32 acknowledgement.status ++
    word32 acknowledgement.transactionState ++ word32 acknowledgement.reserved0 ++
    identityToWire acknowledgement.identity ++ word64 acknowledgement.packetFingerprint ++
    word64 acknowledgement.reserved1

def acknowledgementFromWire (bytes : List Nat) : WorkAcknowledgement where
  magic := wordAt bytes 0 4
  abiVersion := wordAt bytes 4 4
  descriptorBytes := wordAt bytes 8 4
  status := wordAt bytes 12 4
  transactionState := wordAt bytes 16 4
  reserved0 := wordAt bytes 20 4
  identity := identityFromWire ((bytes.drop 24).take 56)
  packetFingerprint := wordAt bytes 80 8
  reserved1 := wordAt bytes 88 8

/-- The acknowledgement that the daemon writes. -/
def distributedInitializeAcknowledgement (identity : Identity) (packetHash : Nat)
    (status : SparkStatus) : WorkAcknowledgement :=
  initializeAcknowledgement (some identity) packetHash
    (if status = .ok ∨ status = .duplicate then wireStateAccepted else wireStateFailed) status

/-! ### Round trip -/

theorem fromLittleEndian_littleEndian {width value : Nat} (h : value < 256 ^ width) :
    fromLittleEndian (littleEndian width value) = value := by
  induction width generalizing value with
  | zero => exact (Nat.lt_one_iff.mp h).symm
  | succ _ ih =>
    rw [Nat.pow_succ'] at h
    rw [littleEndian, fromLittleEndian, ih (Nat.div_lt_of_lt_mul h), Nat.mod_add_div]

theorem fromLittleEndian_word32 {value : Nat} (h : value < 2 ^ 32) :
    fromLittleEndian (word32 value) = value := fromLittleEndian_littleEndian h

theorem fromLittleEndian_word64 {value : Nat} (h : value < 2 ^ 64) :
    fromLittleEndian (word64 value) = value := fromLittleEndian_littleEndian h

theorem identityFromWire_toWire {packet : WorkControlPacket} (h : WordsFit packet) :
    identityFromWire (identityToWire (identity packet)) = identity packet := by
  rw [identityFromWire, identity, Identity.mk.injEq]
  exact ⟨fromLittleEndian_word64 h.controlGeneration, fromLittleEndian_word64 h.transactionId,
    fromLittleEndian_word64 h.dispatchGeneration, fromLittleEndian_word64 h.requestGeneration,
    fromLittleEndian_word64 h.stepGeneration, fromLittleEndian_word32 h.stepChunkIndex,
    fromLittleEndian_word32 h.stepChunkCount, fromLittleEndian_word32 h.transactionPhase⟩

theorem acknowledgementFromWire_toWire (a : WorkAcknowledgement) :
    acknowledgementFromWire (acknowledgementToWire a) =
      { magic := fromLittleEndian (word32 a.magic)
        abiVersion := fromLittleEndian (word32 a.abiVersion)
        descriptorBytes := fromLittleEndian (word32 a.descriptorBytes)
        status := fromLittleEndian (word32 a.status)
        transactionState := fromLittleEndian (word32 a.transactionState)
        reserved0 := fromLittleEndian (word32 a.reserved0)
        identity := identityFromWire (identityToWire a.identity)
        packetFingerprint := fromLittleEndian (word64 a.packetFingerprint)
        reserved1 := fromLittleEndian (word64 a.reserved1) } := rfl

/-- The acknowledgement of a packet is accepted by whoever waits for that packet, with the status
that was reported, and by nobody else. -/
theorem acknowledgement_reports_status {packet : WorkControlPacket} (hfit : WordsFit packet)
    (hvalid : identityIsValid (identity packet) = true) {packetHash expectedHash : Nat}
    (hhash : packetHash < 2 ^ 64) (hexpected : expectedHash ≠ 0) (expectedIdentity : Identity)
    (status : SparkStatus) :
    let bytes := acknowledgementToWire
      (distributedInitializeAcknowledgement (identity packet) packetHash status)
    bytes.length = acknowledgementWireBytes ∧
      validateAcknowledgement (acknowledgementFromWire bytes) expectedIdentity expectedHash =
        if identity packet = expectedIdentity ∧ packetHash = expectedHash then
          .ok (statusCode status)
        else .error .validationFailed := by
  have hcode : statusCode status < 2 ^ 32 := by cases status <;> decide
  have hknown : statusFromCode (statusCode status) = some status := by cases status <;> rfl
  refine ⟨rfl, ?_⟩
  rw [acknowledgementFromWire_toWire, distributedInitializeAcknowledgement,
    initializeAcknowledgement]
  generalize hstate : (if status = .ok ∨ status = .duplicate then wireStateAccepted
    else wireStateFailed) = state
  have hstored : stateIsStored state = true ∧ state < 2 ^ 32 := by
    rw [← hstate]
    split_ifs <;> decide
  simp only [Option.getD_some, identityFromWire_toWire hfit, fromLittleEndian_word64 hhash,
    fromLittleEndian_word32 hcode, fromLittleEndian_word32 hstored.2,
    @fromLittleEndian_word32 ackMagic (by decide), @fromLittleEndian_word32 0 (by decide),
    @fromLittleEndian_word32 transactionAbiVersion (by decide),
    @fromLittleEndian_word32 acknowledgementWireBytes (by decide),
    @fromLittleEndian_word64 0 (by decide)]
  simp only [validateAcknowledgement, hexpected, hvalid, hknown, hstored.1]
  by_cases hsame : identity packet = expectedIdentity ∧ packetHash = expectedHash
  · simp [hsame]
  · rw [if_neg hsame]
    simpa using not_and.mp hsame

theorem acknowledgement_reports_status_busy :
    let packet : WorkControlPacket :=
      { controlGeneration := 1, transactionId := 1, dispatchGeneration := 1, requestGeneration := 1
        stepGeneration := 1, stepChunkCount := 1, transactionPhase := phaseDecode }
    let bytes := acknowledgementToWire
      (distributedInitializeAcknowledgement (identity packet) 7 .busy)
    validateAcknowledgement (acknowledgementFromWire bytes) (identity packet) 7 =
        .ok (statusCode .busy) ∧
      validateAcknowledgement (acknowledgementFromWire bytes) (identity packet) 8 =
        .error .validationFailed := by
  intro packet
  have hfit : WordsFit packet := by constructor <;> decide
  exact ⟨(acknowledgement_reports_status hfit rfl (by decide) (by decide) _ .busy).2,
    (acknowledgement_reports_status hfit rfl (by decide) (by decide) _ .busy).2⟩

end SparkPipe
