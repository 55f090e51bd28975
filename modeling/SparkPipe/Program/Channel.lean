import SparkPipe.Program.Basic

/-!
# Nonblocking byte channels

A call of a nonblocking channel moves some of the bytes it is asked to move, or it is interrupted,
would block, finds the channel closed or fails. The environment decides which, call by call; when
its answers are used up, every further call would block.

## Main definitions

* `CallAnswer`: what becomes of a call.
* `Sink`, `Source`: the two ends, with what was written and how much was read.

## Main results

* `Sink.write_wp`, `Source.read_wp`: the calls of a channel that is neither closed nor broken.
-/

namespace Program

/-- Why a call moves nothing. -/
inductive IoError
  | interrupted
  | wouldBlock
  | other
  deriving DecidableEq

/-- What becomes of a call; `moves count` moves one more byte than `count` at most. -/
inductive CallAnswer
  | moves (count : Nat)
  | interrupted
  | wouldBlock
  | closed
  | failed
  deriving DecidableEq

/-- The channel is neither closed nor broken. -/
def CallAnswer.isQuiet : CallAnswer → Bool
  | .closed | .failed => false
  | _ => true

/-- The end of a channel into which bytes are written. -/
structure Sink where
  answers : List CallAnswer := []
  written : List Nat := []
  deriving DecidableEq

/-- The end of a channel from which bytes are read. -/
structure Source where
  answers : List CallAnswer := []
  readCount : Nat := 0
  deriving DecidableEq

namespace Sink

def IsQuiet (sink : Sink) : Prop := ∀ answer ∈ sink.answers, answer.isQuiet

/-- Write some of the bytes; the answer is how many. -/
def write (buffer : List Nat) : EStateM IoError Sink Nat := do
  let sink ← get
  match sink.answers with
  | [] => throw .wouldBlock
  | answer :: answers =>
    set { sink with answers := answers }
    match answer with
    | .moves count =>
      modify fun sink => { sink with written := sink.written ++ buffer.take (count + 1) }
      pure (buffer.take (count + 1)).length
    | .interrupted => throw .interrupted
    | .wouldBlock => throw .wouldBlock
    | .closed => pure 0
    | .failed => throw .other

theorem IsQuiet.tail {answer : CallAnswer} {answers : List CallAnswer} {written : List Nat}
    (h : IsQuiet ⟨answer :: answers, written⟩) (written' : List Nat) :
    IsQuiet ⟨answers, written'⟩ := fun other hother => h other (.tail _ hother)

theorem write_wp {sink : Sink} (h : sink.IsQuiet) {buffer : List Nat} (hbuffer : buffer ≠ []) :
    wp (write buffer) (fun count sink' => 0 < count ∧ count ≤ buffer.length ∧ sink'.IsQuiet ∧
        sink'.written = sink.written ++ buffer.take count)
      (fun error sink' => sink'.IsQuiet ∧ sink'.written = sink.written ∧
        (error = .interrupted ∨ error = .wouldBlock)) sink := by
  obtain ⟨answers, written⟩ := sink
  rw [write, wp_read]
  cases answers with
  | nil => exact ⟨h, rfl, .inr rfl⟩
  | cons answer =>
    rw [wp_bind, wp_set]
    cases answer with
    | moves count =>
      have hlength : (buffer.take (count + 1)).length = min (count + 1) buffer.length :=
        List.length_take
      have hpos := List.length_pos_iff.mpr hbuffer
      refine ⟨by omega, by omega, h.tail _, ?_⟩
      have hsame : buffer.take (count + 1) = buffer.take (min (count + 1) buffer.length) := by
        rw [List.take_eq_take_iff]
        omega
      rw [hlength, ← hsame]
    | interrupted => exact ⟨h.tail _, rfl, .inl rfl⟩
    | wouldBlock => exact ⟨h.tail _, rfl, .inr rfl⟩
    | closed => cases h .closed (.head _)
    | failed => cases h .failed (.head _)

end Sink

namespace Source

def IsQuiet (source : Source) : Prop := ∀ answer ∈ source.answers, answer.isQuiet

/-- Read some of the bytes that have arrived and were not read, up to a number. -/
def read (arrived : List Nat) (capacity : Nat) : EStateM IoError Source (List Nat) := do
  let source ← get
  match source.answers with
  | [] => throw .wouldBlock
  | answer :: answers =>
    set { source with answers := answers }
    match answer with
    | .moves count =>
      let bytes := ((arrived.drop source.readCount).take capacity).take (count + 1)
      if bytes = [] then throw .wouldBlock
      else
        modify fun source => { source with readCount := source.readCount + bytes.length }
        pure bytes
    | .interrupted => throw .interrupted
    | .wouldBlock => throw .wouldBlock
    | .closed => pure []
    | .failed => throw .other

theorem IsQuiet.tail {answer : CallAnswer} {answers : List CallAnswer} {readCount : Nat}
    (h : IsQuiet ⟨answer :: answers, readCount⟩) (readCount' : Nat) :
    IsQuiet ⟨answers, readCount'⟩ := fun other hother => h other (.tail _ hother)

theorem read_wp {source : Source} (h : source.IsQuiet) (arrived : List Nat) (capacity : Nat) :
    wp (read arrived capacity) (fun bytes source' => bytes ≠ [] ∧ bytes.length ≤ capacity ∧
        bytes = (arrived.drop source.readCount).take bytes.length ∧ source'.IsQuiet ∧
        source'.readCount = source.readCount + bytes.length)
      (fun error source' => source'.IsQuiet ∧ source'.readCount = source.readCount ∧
        (error = .interrupted ∨ error = .wouldBlock)) source := by
  obtain ⟨answers, readCount⟩ := source
  rw [read, wp_read]
  cases answers with
  | nil => exact ⟨h, rfl, .inr rfl⟩
  | cons answer =>
    rw [wp_bind, wp_set]
    cases answer with
    | moves count =>
      refine wp_ite.mpr ⟨fun _ => ⟨h.tail _, rfl, .inr rfl⟩, fun hbytes => ?_⟩
      have htake : ((arrived.drop readCount).take capacity).take (count + 1) =
          (arrived.drop readCount).take (min (count + 1) capacity) := List.take_take
      refine ⟨hbytes, ?_, ?_, h.tail _, rfl⟩
      · rw [htake, List.length_take]
        omega
      · rw [htake, List.length_take, List.take_eq_take_iff]
        omega
    | interrupted => exact ⟨h.tail _, rfl, .inl rfl⟩
    | wouldBlock => exact ⟨h.tail _, rfl, .inr rfl⟩
    | closed => cases h .closed (.head _)
    | failed => cases h .failed (.head _)

end Source

end Program
