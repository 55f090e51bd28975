import Mathlib.Algebra.GroupWithZero.Nat

/-!
# Stateful programs that may fail

A method that mutates its receiver and returns a result, keeping the mutations made
before an early error return, is a function of type `EStateM ε σ α`: both outcomes carry
the state that was reached. This module gives the combinators used to write such methods
and a weakest-precondition predicate with one rule for each combinator.

## Main definitions

* `finalState`: the state reached by an outcome, successful or not.
* `onError`: run a cleanup program, ignoring its outcome, when a program fails.
* `attempt`: turn the failure of a program into a value.
* `onPart`: run a program on a component of a larger state.
* `iterate`: a counted loop with an accumulator.
* `wp`: the weakest precondition of a program for a normal and an error postcondition.

## Main results

* `wp_bind`, `wp_onError`, `wp_attempt`, `wp_onPart`: the rules of the combinators.
* `wp_foldlM`, `wp_forM_rest`, `wp_forM`, `wp_iterate`: the invariant rules of bounded loops.
-/

namespace Program

variable {ε ε' σ τ α β : Type} {r : EStateM.Result ε σ α}

/-- The state reached by an outcome. -/
def finalState : EStateM.Result ε σ α → σ
  | .ok _ s => s
  | .error _ s => s

@[simp] theorem finalState_ok (a : α) (s : σ) :
    finalState (.ok a s : EStateM.Result ε σ α) = s := rfl

@[simp] theorem finalState_error (e : ε) (s : σ) :
    finalState (.error e s : EStateM.Result ε σ α) = s := rfl

/-- Whether an outcome is successful. -/
def succeeds : EStateM.Result ε σ α → Bool
  | .ok _ _ => true
  | .error _ _ => false

/-- The error of an outcome, if it is one. -/
def errorOf : EStateM.Result ε σ α → Option ε
  | .ok _ _ => none
  | .error e _ => some e

theorem eq_error_of_errorOf {e : ε} (h : errorOf r = some e) : r = .error e (finalState r) := by
  cases r with
  | ok => cases h
  | error => rw [← Option.some.inj h]; rfl

theorem exists_ok_of_succeeds (h : succeeds r) : ∃ a, r = .ok a (finalState r) := by
  cases r with
  | ok a => exact ⟨a, rfl⟩
  | error => exact absurd h Bool.false_ne_true

theorem eq_ok_of_succeeds {r : EStateM.Result ε σ Unit} (h : succeeds r) :
    r = .ok () (finalState r) :=
  (exists_ok_of_succeeds h).choose_spec

variable (m : EStateM ε σ α)

/-- Run `cleanup` and ignore its outcome when `m` fails; the error of `m` is returned. -/
def onError (cleanup : EStateM ε σ Unit) : EStateM ε σ α := fun s =>
  match m s with
  | .ok a s' => .ok a s'
  | .error e s' => .error e (finalState (cleanup s'))

/-- Run `m` and return its outcome as a value. -/
def attempt : EStateM ε' σ (Except ε α) := fun s =>
  match m s with
  | .ok a s' => .ok (.ok a) s'
  | .error e s' => .ok (.error e) s'

/-- Run `m` on the component `view t` of a larger state `t`, translating its errors. -/
def onPart (view : τ → σ) (put : τ → σ → τ) (translate : ε → ε') (m : EStateM ε σ α) :
    EStateM ε' τ α := fun t =>
  match m (view t) with
  | .ok a s => .ok a (put t s)
  | .error e s => .error (translate e) (put t s)

/-- Return the value of an option, or fail with the given error. -/
def orFail (e : ε) : Option α → EStateM ε σ α
  | some a => pure a
  | none => throw e

/-- Run the body of a counted loop `n` times, threading its accumulator. -/
def iterate (f : β → EStateM ε σ β) : Nat → β → EStateM ε σ β
  | 0, b => pure b
  | n + 1, b => do
    let b' ← f b
    iterate f n b'

section Outcomes

variable {m : EStateM ε σ α} {s s' : σ} {translate : ε → ε'} {put : τ → σ → τ} {view : τ → σ}
  {f : α → EStateM ε σ β} {t : τ} {e : ε} {a : α}

theorem bind_of_ok (h : m s = .ok a s') : (m >>= f) s = f a s' := by
  change EStateM.bind m f s = _
  rw [EStateM.bind, h]

theorem get_bind {f : σ → EStateM ε σ β} : (get >>= f) s = f s s := rfl

theorem bind_of_error (h : m s = .error e s') : (m >>= f) s = .error e s' := by
  change EStateM.bind m f s = _
  rw [EStateM.bind, h]

theorem attempt_of_ok (h : m s = .ok a s') :
    (attempt m : EStateM ε' σ (Except ε α)) s = .ok (.ok a) s' := by
  rw [attempt, h]

theorem attempt_of_error (h : m s = .error e s') :
    (attempt m : EStateM ε' σ (Except ε α)) s = .ok (.error e) s' := by
  rw [attempt, h]

theorem onPart_of_ok
    (h : m (view t) = .ok a s') : onPart view put translate m t = .ok a (put t s') := by
  rw [onPart, h]

theorem onPart_of_error (h : m (view t) = .error e s') :
    onPart view put translate m t = .error (translate e) (put t s') := by
  rw [onPart, h]

theorem finalState_onPart :
    finalState (onPart view put translate m t) = put t (finalState (m (view t))) := by
  rw [onPart]
  cases m (view t) <;> rfl

end Outcomes

/-- The weakest precondition: from `s`, a success of `m` meets `Q` and a failure meets `E`. -/
def wp (Q : α → σ → Prop) (E : ε → σ → Prop) (s : σ) : Prop :=
  match m s with
  | .ok a s' => Q a s'
  | .error e s' => E e s'

section Rules

variable {m : EStateM ε σ α} {Q Q' : α → σ → Prop} {E E' : ε → σ → Prop} {s s' : σ} {e : ε}
  {R : σ → Prop} {o : Option α}

theorem wp_mono (h : wp m Q E s) (hQ : ∀ a s', Q a s' → Q' a s')
    (hE : ∀ e s', E e s' → E' e s') : wp m Q' E' s := by
  unfold wp at h ⊢
  split
  · rename_i heq
    exact hQ _ _ (by simpa only [heq] using h)
  · rename_i heq
    exact hE _ _ (by simpa only [heq] using h)

theorem wp_post (h : wp m Q E s) (hQ : ∀ a s', Q a s' → Q' a s') : wp m Q' E s :=
  wp_mono h hQ fun _ _ h => h

theorem wp_total (h : wp m Q (fun _ _ => False) s) (hQ : ∀ a s', Q a s' → Q' a s') : wp m Q' E s :=
  wp_mono h hQ fun _ _ h => h.elim

/-- Whatever its outcome, the program ends in such a state. -/
abbrev ends (m : EStateM ε σ α) (R : σ → Prop) (s : σ) : Prop := wp m (fun _ => R) (fun _ => R) s

theorem ends_mono {R R' : σ → Prop} (h : ends m R s) (hR : ∀ s', R s' → R' s') : ends m R' s :=
  wp_mono h (fun _ => hR) fun _ => hR

theorem wp_and (h : wp m Q E s) (h' : wp m Q' E' s) :
    wp m (fun a s' => Q a s' ∧ Q' a s') (fun e s' => E e s' ∧ E' e s') s := by
  unfold wp at h h' ⊢
  split <;> rename_i heq <;> simp only [heq] at h h' <;> exact ⟨h, h'⟩

theorem wp_outcome (h : wp m Q E s) :
    wp m (fun a s' => Q a s' ∧ m s = .ok a s') (fun e s' => E e s' ∧ m s = .error e s') s := by
  unfold wp at h ⊢
  split <;> rename_i heq <;> simp only [heq] at h <;> exact ⟨h, heq⟩

theorem wp_intro (hQ : ∀ a s', m s = .ok a s' → Q a s') (hE : ∀ e s', m s = .error e s' → E e s') :
    wp m Q E s := by
  unfold wp
  split <;> rename_i heq
  · exact hQ _ _ heq
  · exact hE _ _ heq

theorem wp_ok {a : α} (h : wp m Q E s) (hm : m s = .ok a s') : Q a s' := by
  simpa only [wp, hm] using h

theorem wp_error (h : wp m Q E s) (hm : m s = .error e s') : E e s' := by
  simpa only [wp, hm] using h

theorem wp_finalState (h : wp m (fun _ s' => R s') (fun _ s' => R s') s) :
    R (finalState (m s)) := by
  unfold wp at h
  split at h <;> rename_i heq <;> simpa only [heq, finalState] using h

theorem wp_of_succeeds (h : wp m (fun _ s' => R s') E s)
    (hm : succeeds (m s)) : R (finalState (m s)) := by
  unfold wp at h
  split at h <;> rename_i heq <;> rw [heq] at hm ⊢
  · exact h
  · cases hm

theorem exists_ok_of_wp (h : wp m Q E s) (herror : ∀ e s', ¬E e s') :
    ∃ a s', m s = .ok a s' ∧ Q a s' := by
  cases hm : m s with
  | ok a s' => exact ⟨a, s', rfl, wp_ok h hm⟩
  | error e s' => exact (herror e s' (wp_error h hm)).elim

theorem succeeds_of_wp (h : wp m Q (fun _ _ => False) s) : succeeds (m s) = true := by
  unfold wp at h
  split at h <;> rename_i heq
  · rw [heq]
    rfl
  · exact h.elim

@[simp] theorem wp_pure (a : α) : wp (pure a) Q E s ↔ Q a s := Iff.rfl

@[simp] theorem wp_throw (e : ε) : wp (throw e) Q E s ↔ E e s := Iff.rfl

@[simp] theorem wp_get {Q : σ → σ → Prop} : wp get Q E s ↔ Q s s := Iff.rfl

@[simp] theorem wp_set {Q : PUnit → σ → Prop} : wp (set s') Q E s ↔ Q ⟨⟩ s' := Iff.rfl

@[simp] theorem wp_modify {Q : PUnit → σ → Prop} (f : σ → σ) :
    wp (modify f) Q E s ↔ Q ⟨⟩ (f s) := Iff.rfl

@[simp] theorem wp_bind {Q : β → σ → Prop} (f : α → EStateM ε σ β) :
    wp (m >>= f) Q E s ↔ wp m (fun a s' => wp (f a) Q E s') E s := by
  change (match EStateM.bind m f s with | .ok b s' => Q b s' | .error e s' => E e s') ↔ _
  unfold wp EStateM.bind
  cases m s <;> rfl

theorem wp_read {Q : β → σ → Prop} {f : σ → EStateM ε σ β} :
    wp (get >>= f) Q E s ↔ wp (f s) Q E s := Iff.rfl

@[simp] theorem wp_map {Q : β → σ → Prop} (f : α → β) :
    wp (f <$> m) Q E s ↔ wp m (fun a s' => Q (f a) s') E s := by
  change (match EStateM.map f m s with | .ok b s' => Q b s' | .error e s' => E e s') ↔ _
  unfold wp EStateM.map
  cases m s <;> rfl

theorem wp_ite {p : Prop} [Decidable p] {m' : EStateM ε σ α} :
    wp (if p then m else m') Q E s ↔ (p → wp m Q E s) ∧ (¬p → wp m' Q E s) := by
  split <;> simp_all

@[simp] theorem wp_orFail :
    wp (orFail e o) Q E s ↔ (∀ a, o = some a → Q a s) ∧ (o = none → E e s) := by
  cases o <;> simp [orFail]

theorem wp_orFail_some {a : α} (h : o = some a) : wp (orFail e o) Q E s ↔ Q a s := by
  rw [h, orFail, wp_pure]

theorem wp_onError {cleanup : EStateM ε σ Unit} : wp (onError m cleanup) Q E s ↔
      wp m Q (fun e s' => E e (finalState (cleanup s'))) s := by
  unfold wp onError
  cases m s <;> rfl

theorem wp_attempt {Q : Except ε α → σ → Prop} {E : ε' → σ → Prop} : wp (attempt m) Q E s ↔
      wp m (fun a s' => Q (.ok a) s') (fun e s' => Q (.error e) s') s := by
  unfold wp attempt
  cases m s <;> rfl

theorem wp_onPart (view : τ → σ) (put : τ → σ → τ) (translate : ε → ε') {t : τ}
    {Q : α → τ → Prop} {E : ε' → τ → Prop} :
    wp (onPart view put translate m) Q E t ↔
      wp m (fun a s' => Q a (put t s')) (fun e s' => E (translate e) (put t s')) (view t) := by
  unfold wp onPart
  cases m (view t) <;> rfl

end Rules

section Loops

variable {E : ε → σ → Prop} {γ : Type}

theorem wp_foldlM {f : β → γ → EStateM ε σ β} (I : List γ → β → σ → Prop)
    (hstep : ∀ x rest b s, I (x :: rest) b s → wp (f b x) (fun b' s' => I rest b' s') E s) :
    ∀ {l : List γ} {b : β} {s : σ}, I l b s → wp (l.foldlM f b) (fun b' s' => I [] b' s') E s
  | [], _, _, h => by simpa using h
  | x :: rest, b, s, h => by
      rw [List.foldlM_cons, wp_bind]
      exact wp_mono (hstep x rest b s h) (fun _ _ h' => wp_foldlM I hstep h') (fun _ _ h => h)

variable {f : γ → EStateM ε σ PUnit} {l : List γ} {s : σ}

theorem wp_forM_rest (I : List γ → σ → Prop) (h : I l s)
    (hstep : ∀ x ∈ l, ∀ rest s, I (x :: rest) s → wp (f x) (fun _ s' => I rest s') E s) :
    wp (forM l f) (fun _ s' => I [] s') E s := by
  induction l generalizing s with
  | nil => simpa using h
  | cons x l ih =>
    rw [List.forM_cons, wp_bind]
    exact wp_mono (hstep x List.mem_cons_self l s h)
      (fun _ s' h' => ih h' fun y hy => hstep y (List.mem_cons_of_mem x hy)) (fun _ _ h => h)

theorem wp_forM (I : σ → Prop) (h : I s)
    (hstep : ∀ x ∈ l, ∀ s, I s → wp (f x) (fun _ s' => I s') E s) :
    wp (forM l f) (fun _ s' => I s') E s :=
  wp_forM_rest (fun _ => I) h fun x hx _ => hstep x hx

theorem wp_forM_settles {I : σ → Prop} {Settled : γ → σ → Prop} (h : I s)
    (hout : ∀ x ∉ l, Settled x s)
    (hstep : ∀ x s, I s → wp (f x) (fun _ s' => I s' ∧ Settled x s' ∧
      ∀ y ≠ x, Settled y s → Settled y s') E s) :
    wp (forM l f) (fun _ s' => I s' ∧ ∀ x, Settled x s') E s := by
  refine wp_post (wp_forM_rest (fun rest s => I s ∧ ∀ x ∉ rest, Settled x s) ⟨h, hout⟩
    fun x _ rest s hs => wp_post (hstep x s hs.1) fun _ s' hs' => ⟨hs'.1, fun y hy => ?_⟩)
    fun _ _ hs => ⟨hs.1, fun x => hs.2 x List.not_mem_nil⟩
  by_cases hyx : y = x
  · exact hyx ▸ hs'.2.1
  · exact hs'.2.2 y hyx (hs.2 y (by simp [hyx, hy]))

theorem wp_iterate {f : β → EStateM ε σ β} (I : Nat → β → σ → Prop)
    (hstep : ∀ n b s, I (n + 1) b s → wp (f b) (fun b' s' => I n b' s') E s) :
    ∀ {n : Nat} {b : β} {s : σ}, I n b s → wp (iterate f n b) (fun b' s' => I 0 b' s') E s
  | 0, _, _, h => h
  | n + 1, b, s, h => by
      rw [iterate, wp_bind]
      exact wp_mono (hstep n b s h) (fun _ _ h' => wp_iterate I hstep h') (fun _ _ h => h)

end Loops

end Program
