import Mathlib.Logic.Relation

/-!
# Labelled transitions

A composite operation is described by the elementary transitions it makes and by a
predicate that says which transitions it may make in which state. Invariants are then
proved once for each elementary transition.

## Main definitions

* `Evolves step allowed`: the states reached by finitely many allowed transitions.
* `runAll`: the state after a sequence of operations.
* `Along`: every operation of a run meets a condition.
* `Since`: a condition that has held since an operation of the run.

## Main results

* `Evolves.invariant`: what every allowed transition preserves holds afterwards.
* `runAll_invariant`: what every operation of a run preserves holds in its last state.
-/

namespace Program

variable {σ ε : Type} {step : σ → ε → σ → Prop} {allowed allowed' : σ → ε → Prop}

/-- Finitely many allowed transitions lead from one state to the other. -/
def Evolves (step : σ → ε → σ → Prop) (allowed : σ → ε → Prop) : σ → σ → Prop :=
  Relation.ReflTransGen fun s s' => ∃ e, allowed s e ∧ step s e s'

namespace Evolves

theorem refl (s : σ) : Evolves step allowed s s := Relation.ReflTransGen.refl

theorem trans {s t u : σ} (h : Evolves step allowed s t) (h' : Evolves step allowed t u) :
    Evolves step allowed s u := Relation.ReflTransGen.trans h h'

theorem single {s t : σ} {e : ε} (h : step s e t) (ha : allowed s e) :
    Evolves step allowed s t := Relation.ReflTransGen.single ⟨e, ha, h⟩

variable {s s' : σ} {I : σ → Prop}

theorem mono (hle : ∀ s e, allowed s e → allowed' s e)
    (h : Evolves step allowed s s') : Evolves step allowed' s s' :=
  Relation.ReflTransGen.mono (fun _ _ ⟨e, ha, hs⟩ => ⟨e, hle _ e ha, hs⟩) _ _ h

theorem invariant (hstep : ∀ s e s', I s → allowed s e → step s e s' → I s')
    (h : Evolves step allowed s s') (hI : I s) : I s' := by
  induction h with
  | refl => exact hI
  | tail _ hlast ih =>
    obtain ⟨e, ha, hs⟩ := hlast
    exact hstep _ e _ ih ha hs

theorem lift {R : σ → σ → Prop} (hrefl : ∀ s, R s s) (htrans : ∀ s t u, R s t → R t u → R s u)
    (hstep : ∀ s e s', I s → allowed s e → step s e s' → I s' ∧ R s s')
    (h : Evolves step allowed s s') (hI : I s) : R s s' := by
  suffices I s' ∧ R s s' from this.2
  induction h with
  | refl => exact ⟨hI, hrefl s⟩
  | tail _ hlast ih =>
    obtain ⟨e, ha, hs⟩ := hlast
    obtain ⟨hI', hR⟩ := hstep _ e _ ih.1 ha hs
    exact ⟨hI', htrans _ _ _ ih.2 hR⟩

end Evolves

section Runs

variable {op : Type}

/-- The state after applying a sequence of operations. -/
def runAll (exec : op → σ → σ) (s : σ) (ops : List op) : σ :=
  ops.foldl (fun s o => exec o s) s

variable {exec : op → σ → σ} {P : σ → op → Prop} {Q : σ → op → Prop} {I : σ → Prop}

theorem runAll_invariant (hstep : ∀ o s, I s → I (exec o s)) :
    ∀ (ops : List op) {s : σ}, I s → I (runAll exec s ops)
  | [], _, h => h
  | o :: ops, s, h => runAll_invariant hstep ops (hstep o s h)

/-- Every operation of a run meets a condition on the state it is applied to. -/
def Along (exec : op → σ → σ) (P : σ → op → Prop) : σ → List op → Prop
  | _, [] => True
  | s, o :: ops => P s o ∧ Along exec P (exec o s) ops

instance decidableAlong [∀ s o, Decidable (P s o)] :
    ∀ s ops, Decidable (Along exec P s ops)
  | _, [] => .isTrue trivial
  | s, o :: ops =>
    have : Decidable (Along exec P (exec o s) ops) := decidableAlong (exec o s) ops
    inferInstanceAs (Decidable (_ ∧ _))

theorem runAll_invariant_along (hstep : ∀ o s, P s o → I s → I (exec o s)) :
    ∀ (ops : List op) {s : σ}, Along exec P s ops → I s → I (runAll exec s ops)
  | [], _, _, h => h
  | o :: ops, s, hP, h => runAll_invariant_along hstep ops hP.2 (hstep o s hP.1 h)

theorem runAll_append (exec : op → σ → σ) (s : σ) (ops ops' : List op) :
    runAll exec s (ops ++ ops') = runAll exec (runAll exec s ops) ops' := List.foldl_append

theorem along_append {ops' : List op} : ∀ {ops : List op} {s : σ}, Along exec P s (ops ++ ops') ↔
      Along exec P s ops ∧ Along exec P (runAll exec s ops) ops'
  | [], _ => ⟨fun h => ⟨trivial, h⟩, And.right⟩
  | _ :: _, _ => (and_congr_right fun _ => along_append).trans and_assoc.symm

theorem along_and : ∀ {ops : List op} {s : σ}, Along exec P s ops → Along exec Q s ops →
      Along exec (fun s o => P s o ∧ Q s o) s ops
  | [], _, _, _ => trivial
  | _ :: _, _, hP, hQ => ⟨⟨hP.1, hQ.1⟩, along_and hP.2 hQ.2⟩

theorem Along.mono (hPQ : ∀ s o, P s o → Q s o) :
    ∀ {ops : List op} {s : σ}, Along exec P s ops → Along exec Q s ops
  | [], _, _ => trivial
  | _ :: _, _, hP => ⟨hPQ _ _ hP.1, hP.2.mono hPQ⟩

theorem along_of_forall {P : op → Prop} :
    ∀ {ops : List op} {s : σ}, (∀ o ∈ ops, P o) → Along exec (fun _ o => P o) s ops
  | [], _, _ => trivial
  | o :: _, _, h => ⟨h o (.head _), along_of_forall fun o' ho' => h o' (.tail _ ho')⟩

theorem runAll_concat (exec : op → σ → σ) (s : σ) (ops : List op) (o : op) :
    runAll exec s (ops ++ [o]) = exec o (runAll exec s ops) := by
  rw [runAll, List.foldl_append]
  rfl

/-- Some operation of the run meets `P`, and `Q` holds in every state from then on. -/
def Since (exec : op → σ → σ) (P : σ → op → Prop) (Q : σ → Prop) (s : σ) (ops : List op) : Prop :=
  ∃ before o after, ops = before ++ o :: after ∧ P (runAll exec s before) o ∧
    ∀ rest, rest <+: after → Q (runAll exec s (before ++ o :: rest))

section Since

variable {Q : σ → Prop} {s : σ} {ops : List op} {o : op}

theorem Since.holds (h : Since exec P Q s ops) : Q (runAll exec s ops) := by
  obtain ⟨before, o, after, rfl, -, hafter⟩ := h
  exact hafter after (List.prefix_refl after)

theorem Since.now (hP : P (runAll exec s ops) o) (hQ : Q (runAll exec s (ops ++ [o]))) :
    Since exec P Q s (ops ++ [o]) := by
  refine ⟨ops, o, [], rfl, hP, fun rest hrest => ?_⟩
  rwa [List.prefix_nil.mp hrest]

theorem Since.concat (h : Since exec P Q s ops) (hQ : Q (runAll exec s (ops ++ [o]))) :
    Since exec P Q s (ops ++ [o]) := by
  obtain ⟨before, first, after, rfl, hP, hafter⟩ := h
  refine ⟨before, first, after ++ [o], by simp, hP, fun rest hrest => ?_⟩
  rcases List.prefix_concat_iff.mp hrest with rfl | hrest
  · simpa using hQ
  · exact hafter rest hrest

end Since

end Runs

end Program
