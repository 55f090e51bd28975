import SparkPipe.Program.Basic

/-!
# What a program may change

A preorder on states says what a program may change at most, whatever its outcome: a component
stays as it is, a record only grows. A program that is built from parts within the preorder is
within it.

## Main definitions

* `IsFrame R`: `R` is reflexive and transitive.
* `Within R m`: every run of `m` stays within `R`.
* `Same view`: the states with the same view.

## Main results

* `Within.bind`, `Within.attempt`, `Within.forM`, `Within.foldlM` and so on: the rules of the
  combinators.
* `wp_forM_each`: a loop that does something for every element.
-/

namespace Program

variable {ε ε' σ τ α β γ : Type}

/-- A relation that says what may change. -/
class IsFrame (R : σ → σ → Prop) : Prop where
  refl : ∀ s, R s s
  trans : ∀ {s t u}, R s t → R t u → R s u

/-- The states with the same view. -/
def Same (view : σ → τ) (s s' : σ) : Prop := view s' = view s

instance (view : σ → τ) : IsFrame (Same view) where
  refl _ := rfl
  trans h h' := Eq.trans h' h

/-- The final state is related to the first one, whatever the outcome. -/
class Within (R : σ → σ → Prop) (m : EStateM ε σ α) : Prop where
  related : ∀ s, R s (finalState (m s))

namespace Within

variable {R R' : σ → σ → Prop} {m : EStateM ε σ α} {translate : ε → ε'} {put : τ → σ → τ}
  {S : τ → τ → Prop} {view : τ → σ} {s s' : σ}

theorem of_wp (h : ∀ s, wp m (fun _ s' => R s s') (fun _ s' => R s s') s) : Within R m :=
  ⟨fun s => wp_finalState (h s)⟩

theorem wp (h : Within R m) (s : σ) : wp m (fun _ s' => R s s') (fun _ s' => R s s') s := by
  have hs := h.related s
  unfold Program.wp
  split <;> rename_i heq <;> simpa only [heq, finalState] using hs

theorem mono (h : Within R m) (hle : ∀ s s', R s s' → R' s s') : Within R' m :=
  ⟨fun s => hle s _ (h.related s)⟩

theorem ok (h : Within R m) {a : α} (hm : m s = .ok a s') : R s s' := by
  simpa only [hm, finalState_ok] using h.related s

theorem error (h : Within R m) {e : ε} (hm : m s = .error e s') : R s s' := by
  simpa only [hm, finalState_error] using h.related s

section Combinators

variable [IsFrame R]

instance pure (a : α) : Within R (Pure.pure a : EStateM ε σ α) := ⟨IsFrame.refl⟩

instance throw (e : ε) : Within R (MonadExcept.throw e : EStateM ε σ α) := ⟨IsFrame.refl⟩

instance get : Within R (MonadState.get : EStateM ε σ σ) := ⟨IsFrame.refl⟩

theorem check {p : σ → Prop} [DecidablePred p] {e : ε} {f : σ → σ} (h : ∀ s, ¬p s → R s (f s)) :
    Within R (do
      let s ← MonadState.get
      if p s then MonadExcept.throw e else set (f s) : EStateM ε σ PUnit) := by
  refine of_wp fun s => ?_
  rw [wp_read]
  exact wp_ite.mpr ⟨fun _ => IsFrame.refl s, fun hp => h s hp⟩

instance orFail (e : ε) (o : Option α) : Within R (Program.orFail e o : EStateM ε σ α) := by
  cases o with
  | none => exact throw e
  | some a => exact pure a

theorem bind {f : α → EStateM ε σ β} (hm : Within R m) (hf : ∀ a, Within R (f a)) :
    Within R (m >>= f) := by
  refine of_wp fun s => ?_
  rw [wp_bind]
  exact wp_post (hm.wp s)
    fun a s' h =>
      wp_mono ((hf a).wp s') (fun _ _ h' => IsFrame.trans h h') (fun _ _ h' => IsFrame.trans h h')

instance {f : α → EStateM ε σ β} [Within R m] [∀ a, Within R (f a)] : Within R (m >>= f) :=
  bind inferInstance inferInstance

theorem forM {f : γ → EStateM ε σ PUnit} :
    ∀ {l : List γ}, (∀ x ∈ l, Within R (f x)) → Within R (ForM.forM l f)
  | [], _ => pure PUnit.unit
  | x :: l, h => by
      rw [List.forM_cons]
      exact bind (h x List.mem_cons_self) fun _ => forM fun y hy => h y (List.mem_cons_of_mem x hy)

instance {f : γ → EStateM ε σ PUnit} {l : List γ} [∀ x, Within R (f x)] :
    Within R (ForM.forM l f) := forM fun _ _ => inferInstance

theorem foldlM {f : β → γ → EStateM ε σ β} (h : ∀ b x, Within R (f b x)) :
    ∀ {l : List γ} {b : β}, Within R (l.foldlM f b)
  | [], b => pure b
  | x :: l, b => by
      rw [List.foldlM_cons]
      exact bind (h b x) fun _ => foldlM h

end Combinators

instance attempt [hm : Within R m] : Within R (Program.attempt m : EStateM ε' σ (Except ε α)) := by
  refine of_wp fun s => ?_
  rw [wp_attempt]
  exact hm.wp s

theorem ite {p : Prop} [Decidable p] {m' : EStateM ε σ α} (h : p → Within R m)
    (h' : ¬p → Within R m') : Within R (if p then m else m') := by
  split
  · exact h ‹_›
  · exact h' ‹_›

instance {p : Prop} [Decidable p] {m' : EStateM ε σ α} [Within R m] [Within R m'] :
    Within R (if p then m else m') := ite (fun _ => inferInstance) fun _ => inferInstance

theorem onPart (hm : Within R m) (hput : ∀ t s, R (view t) s → S t (put t s)) :
    Within S (Program.onPart view put translate m) := by
  refine of_wp fun t => ?_
  rw [wp_onPart]
  exact wp_mono (hm.wp (view t)) (fun _ s h => hput t s h) (fun _ s h => hput t s h)

theorem onFreePart (hput : ∀ t s, S t (put t s)) : Within S (Program.onPart view put translate m) :=
  onPart (R := fun _ _ => True) ⟨fun _ => trivial⟩ fun t s _ => hput t s

end Within

theorem wp_forM_each {E : ε → σ → Prop} {f : γ → EStateM ε σ PUnit} (I : σ → Prop)
    (R : σ → σ → Prop) [IsFrame R] (P : γ → σ → Prop)
    (hkeep : ∀ {x s s'}, R s s' → P x s → P x s') {l : List γ} {s : σ} (hs : I s)
    (hstep : ∀ x ∈ l, ∀ s, I s → wp (f x) (fun _ s' => I s' ∧ R s s' ∧ P x s') E s) :
    wp (forM l f) (fun _ s' => I s' ∧ R s s' ∧ ∀ x ∈ l, P x s') E s := by
  induction l generalizing s with
  | nil => exact ⟨hs, IsFrame.refl s, fun _ hx => absurd hx List.not_mem_nil⟩
  | cons x l ih =>
    rw [List.forM_cons, wp_bind]
    refine wp_post (hstep x List.mem_cons_self s hs) fun _ t ht => ?_
    obtain ⟨hI, hR, hx⟩ := ht
    refine wp_post (ih hI fun y hy => hstep y (List.mem_cons_of_mem x hy)) fun _ s' h => ?_
    obtain ⟨hI', hR', hl⟩ := h
    exact ⟨hI', IsFrame.trans hR hR', List.forall_mem_cons.mpr ⟨hkeep hR' hx, hl⟩⟩

theorem within_modify {R : σ → σ → Prop} {f : σ → σ} (h : ∀ s, R s (f s)) :
    Within R (modify f : EStateM ε σ PUnit) := ⟨h⟩

end Program
