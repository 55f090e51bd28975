import SparkPipe.Sched.WorkControl.Run

/-!
# Computed blocks under sharing

When keys are published for the blocks of a packet, a build moves directory keys from record to
record: a block is published under its content key, it joins the record of that key, or it leaves a
shared record for one of its own. A block that was computed is kept when the record it is moved to
is computed, or when it takes its own record along. A build that only makes such moves is safe, and
under safe builds a computed block stays computed until it is given up.
-/

open Program

namespace SparkPipe

open KvState WorkControl

namespace KvCore

variable {c c' : KvCore} {D D' k k₀ : KvKey} {event : KvEvent} {wants : KvKey → KvKey → Prop}
  {p : Nat} {k' : KvKey} {c'' : KvCore}

/-! ### Computed blocks -/

/-- The content of a record is there, on the device or in its backing slot. -/
def IsComputed (c : KvCore) (k : KvKey) : Prop :=
  ∃ e, c.record k = some e ∧
    (e.residencyState = .gpu → (c.block e.physicalBlockIndex).state = .resident)

/-- The block of a directory key is computed. -/
def Computed (c : KvCore) (D : KvKey) : Prop := ∃ k, c.directory D = some k ∧ c.IsComputed k

attribute [grind] IsComputed

theorem Step.directory_eq (hstep : Step c event c') (hplace : ∀ k, event ≠ .place D k)
    (hremove : event ≠ .remove D) (hreset : event ≠ .reset) :
    c'.directory D = c.directory D := by
  cases hstep <;> grind [note]

/-- Names, references, computed records and pinned blocks are the same. -/
structure Calm (c c' : KvCore) : Prop where
  directory : ∀ D, c'.directory D = c.directory D
  record : ∀ k, c'.record k = none ↔ c.record k = none
  refs : ∀ k, c'.refs k = c.refs k
  computed : ∀ k, c'.IsComputed k ↔ c.IsComputed k
  bound : ∀ D, c'.Bound D ↔ c.Bound D

theorem Calm.refl (c : KvCore) : c.Calm c :=
  ⟨fun _ => rfl, fun _ => Iff.rfl, fun _ => rfl, fun _ => Iff.rfl, fun _ => Iff.rfl⟩

theorem Calm.note (event : SwapEvent) : c.Calm (c.note event) :=
  ⟨fun _ => rfl, fun _ => Iff.rfl, fun _ => rfl, fun _ => Iff.rfl, fun _ => Iff.rfl⟩

theorem Calm.tick (epoch : Nat) : c.Calm { c with setting := { c.setting with epoch } } :=
  ⟨fun _ => rfl, fun _ => Iff.rfl, fun _ => rfl, fun _ => Iff.rfl, fun _ => Iff.rfl⟩

theorem Calm.trans (h : c.Calm c') (h' : c'.Calm c'') : c.Calm c'' :=
  ⟨fun D => (h'.directory D).trans (h.directory D), fun k => (h'.record k).trans (h.record k),
    fun k => (h'.refs k).trans (h.refs k), fun k => (h'.computed k).trans (h.computed k),
    fun D => (h'.bound D).trans (h.bound D)⟩

theorem Calm.computedKey (h : c.Calm c') : c'.Computed D ↔ c.Computed D := by
  simp only [Computed, h.directory, h.computed]

theorem Step.calm (hstep : Step c event c') (hsound : c.Sound) (hevent : Attending D c event) :
    c.Calm c' := by
  rcases hevent with rfl | rfl | ⟨k, hdir, rfl | rfl | rfl⟩
  · cases hstep with
    | spill =>
      constructor <;> grind
  · cases hstep with
    | storeFails | loadFails => exact .note _
  all_goals
    cases hstep
    constructor <;> grind

theorem calm_of_attending (h : Evolves Step (Attending D) c c') (hsound : c.Sound) :
    c'.Sound ∧ c.Calm c' := by
  induction h with
  | refl => exact ⟨hsound, .refl c⟩
  | tail _ hlast ih =>
    obtain ⟨event, hevent, hstep⟩ := hlast
    exact ⟨hstep.sound ih.1, ih.2.trans (hstep.calm ih.1 hevent)⟩

/-! ### Safe builds -/

/-- The new key has a computed record that a directory key keeps. -/
def CanJoin (c : KvCore) (wants : KvKey → KvKey → Prop) (k : KvKey) : Prop :=
  c.IsComputed k ∧ ∃ D, c.directory D = some k ∧ ∀ k', wants D k' → k' = k

/-- The new key has no record, and whoever wants it has a computed record of its own or a pinned
one. -/
def CanRename (c : KvCore) (wants : KvKey → KvKey → Prop) (k : KvKey) : Prop :=
  c.record k = none ∧ ∀ D, wants D k → ∃ k₀, c.directory D = some k₀ ∧ c.IsComputed k₀ ∧
    (c.refs k₀ = 1 ∨ c.Bound D) ∧ ∀ D', ¬wants D' k₀

/-- No block that is computed is moved to a record that is not. -/
structure Safe (c : KvCore) (wants : KvKey → KvKey → Prop) : Prop where
  functional : ∀ {D k k'}, wants D k → wants D k' → k = k'
  moves : ∀ {D k k₀}, wants D k → c.directory D = some k₀ → k₀ ≠ k → c.IsComputed k₀ →
    ¬c.Bound D → c.CanJoin wants k ∨ c.CanRename wants k

theorem Safe.calm (h : c.Safe wants) (hcalm : c.Calm c') : c'.Safe wants := by
  refine ⟨h.functional, ?_⟩
  intro D k k₀ hwants hdir hne hcomputed hfree
  simp only [CanJoin, CanRename, hcalm.directory, hcalm.record, hcalm.refs, hcalm.computed,
    hcalm.bound] at hdir hcomputed hfree ⊢
  exact h.moves hwants hdir hne hcomputed hfree

theorem Step.isComputed (hstep : Step c event c') (hsound : c.Sound) (h : c.IsComputed k)
    (hrec : c'.record k ≠ none) : c'.IsComputed k := by
  obtain ⟨e, hke, hstate⟩ := h
  cases hstep with
  | storeFails | loadFails | tick | configureSwap | configureSharing | configurePins =>
    exact ⟨e, hke, hstate⟩
  | reset => exact absurd rfl hrec
  | _ => grind

theorem Sound.record_ne (h : c.Sound) (hdir : c.directory D = some k) : c.record k ≠ none := by
  obtain ⟨e, hrec⟩ := h.referenced.exists_record hdir
  rw [hrec]
  exact Option.some_ne_none e

theorem Step.computed (hstep : Step c event c') (hsound : c.Sound) (h : c.Computed D)
    (hplace : ∀ k, event ≠ .place D k) (hremove : event ≠ .remove D) (hreset : event ≠ .reset) :
    c'.Computed D := by
  obtain ⟨k, hdir, hcomputed⟩ := h
  have hdir' := (hstep.directory_eq hplace hremove hreset).trans hdir
  exact ⟨k, hdir', hstep.isComputed hsound hcomputed ((hstep.sound hsound).record_ne hdir')⟩

section

variable (hstep : Step c (.place D k) c')
include hstep

theorem Step.isComputed_of_place (hsound : c.Sound)
    (hdir : c.directory D' = some k₀) (h : c'.IsComputed k₀) : c.IsComputed k₀ := by
  have hrec := hsound.record_ne hdir
  cases hstep <;> grind

theorem Step.bound_of_place (hsound : c.Sound) (hne : D' ≠ D) (h : c.Bound D') : c'.Bound D' := by
  obtain ⟨k₀, e, hdir, hrec, hgpu, hpin⟩ := h
  have hdir' : c'.directory D' = some k₀ :=
    (hstep.directory_eq (by grind) (by grind) (by grind)).trans hdir
  cases hstep <;> grind

theorem Step.refs_of_place (hne : k₀ ≠ k)
    (hdir : c.directory D ≠ some k₀) : c'.refs k₀ = c.refs k₀ := by
  cases hstep <;> grind

theorem Step.record_of_place (hne : k₀ ≠ k) (hrec : c.record k₀ = none) : c'.record k₀ = none := by
  cases hstep <;> grind

theorem Step.directory_of_place : c'.directory D = some k ∧ c.directory D ≠ some k := by
  cases hstep <;> grind

theorem Step.isComputed_of_canRename
    (hwants : wants D k) (h : c.CanRename wants k) : c'.IsComputed k := by
  obtain ⟨hnone, hown⟩ := h
  cases hstep <;> grind

theorem Step.not_bound_of_place : ¬c.Bound D := by
  rintro ⟨k₀, e, hdir, hrec, hgpu, hpin⟩
  cases hstep <;> grind

theorem Step.safe_of_place (hsound : c.Sound)
    (h : c.Safe wants) (hwants : wants D k) : c'.Safe wants := by
  have hdirD := hstep.directory_of_place
  have hdirectory {D' : KvKey} (hne : D' ≠ D) : c'.directory D' = c.directory D' :=
    hstep.directory_eq (by grind) (by grind) (by grind)
  have hsound' := hstep.sound hsound
  refine ⟨h.functional, fun {D₁ k₁ k₀} hwants₁ hdir₁ hne₁ hcomputed₁ hfree₁ => ?_⟩
  have hne : D₁ ≠ D := by
    rintro rfl
    exact hne₁ (Option.some.inj (hdir₁.symm.trans hdirD.1) |>.trans (h.functional hwants hwants₁))
  rw [hdirectory hne] at hdir₁
  have hcomputed := hstep.isComputed_of_place hsound hdir₁ hcomputed₁
  rcases h.moves hwants₁ hdir₁ hne₁ hcomputed
    (fun hb => hfree₁ (hstep.bound_of_place hsound hne hb))
    with ⟨hk₁, D', hD', hkeep⟩ | hrename
  · -- the holder of the record stays where it is
    have hne' : D' ≠ D := by
      rintro rfl
      exact hdirD.2 (hkeep k hwants ▸ hD')
    rw [← hdirectory hne'] at hD'
    exact .inl ⟨hstep.isComputed hsound hk₁ (hsound'.record_ne hD'), D', hD', hkeep⟩
  by_cases hk : k₁ = k
  · -- the key has just been given to this block, with a computed record
    subst hk
    exact .inl ⟨hstep.isComputed_of_canRename hwants hrename, D, hdirD.1,
      fun k' hk' => h.functional hk' hwants⟩
  refine .inr ⟨hstep.record_of_place hk hrename.1, fun D' hD' => ?_⟩
  obtain ⟨k₂, hdir₂, hcomputed₂, hone, hfresh⟩ := hrename.2 D' hD'
  have hne' : D' ≠ D := by
    rintro rfl
    exact hk (h.functional hD' hwants)
  have hk₂ : k₂ ≠ k := by
    rintro rfl
    exact hfresh D hwants
  have hdir₂' := (hdirectory hne').trans hdir₂
  refine ⟨k₂, hdir₂', hstep.isComputed hsound hcomputed₂ (hsound'.record_ne hdir₂'),
    hone.imp (fun hone => ?_) (hstep.bound_of_place hsound hne'), hfresh⟩
  have hother : c.directory D ≠ some k₂ := by
    intro hD
    have htally := hsound.referenced.tally k₂
    rw [hone] at htally
    exact hne' (htally.unique hdir₂ hD)
  rw [hstep.refs_of_place hk₂ hother, hone]

theorem Step.computed_of_place (hsound : c.Sound)
    (h : c.Safe wants) (hwants : wants D k) (hcomputed : c.Computed D') : c'.Computed D' := by
  by_cases hD : D' = D
  · subst hD
    obtain ⟨k₀, hdir, hk₀⟩ := hcomputed
    have hdirD := hstep.directory_of_place
    have hne : k₀ ≠ k := fun heq => hdirD.2 (heq ▸ hdir)
    refine ⟨k, hdirD.1, ?_⟩
    rcases h.moves hwants hdir hne hk₀ hstep.not_bound_of_place with ⟨hk, -⟩ | hrename
    · exact hstep.isComputed hsound hk ((hstep.sound hsound).record_ne hdirD.1)
    · exact hstep.isComputed_of_canRename hwants hrename
  · exact hstep.computed hsound hcomputed (by grind) (by grind) (by grind)

end

theorem Sweeps.calm (h : c.Sweeps c') (hsound : c.Sound) : c.Calm c' :=
  (calm_of_attending (D := {}) h.attending hsound).2

section

variable (h : c.Turn D k c') (hsound : c.Sound)
include h hsound

theorem Turn.stages : ∃ c₁ c₂, c₁.Sound ∧ c₂.Sound ∧
    c.Sweeps c₁ ∧ c₁.Placed D k c₂ ∧ Evolves Step (Attending D) c₂ c' := by
  obtain ⟨c₁, c₂, hsweeps, hplaced, hattends⟩ := h
  have hsound₁ := hsweeps.sound hsound
  refine ⟨c₁, c₂, hsound₁, ?_, hsweeps, hplaced, hattends⟩
  rcases hplaced with ⟨rfl, -⟩ | hstep
  · exact hsound₁
  · exact hstep.sound hsound₁

theorem Turn.invariant {I : KvCore → Prop}
    (hattend : ∀ {D d d'}, Evolves Step (Attending D) d d' → d.Sound → I d → I d')
    (hplace : ∀ {d d'}, c.Calm d → d.Sound → Step d (.place D k) d' → I d → I d') (hI : I c) :
    I c' := by
  obtain ⟨c₁, c₂, hsound₁, hsound₂, hsweeps, hplaced, hattends⟩ := h.stages hsound
  have hI₁ := hattend (hsweeps.attending (D := D)) hsound hI
  refine hattend hattends hsound₂ ?_
  rcases hplaced with ⟨rfl, -⟩ | hstep
  · exact hI₁
  · exact hplace (hsweeps.calm hsound) hsound₁ hstep hI₁

theorem Turn.bound (hbound : c.Bound D') : c'.Bound D' := by
  refine h.invariant hsound (fun hattends hd => ((calm_of_attending hattends hd).2.bound D').mpr)
    (fun _ hd hstep hbound => hstep.bound_of_place hd ?_ hbound) hbound
  rintro rfl
  exact hstep.not_bound_of_place hbound

theorem Turn.named (hfree : ¬c.Bound D) : c'.directory D = some k := by
  obtain ⟨c₁, c₂, hsound₁, hsound₂, hsweeps, hplaced, hattends⟩ := h.stages hsound
  rw [(calm_of_attending hattends hsound₂).2.directory]
  rcases hplaced with ⟨rfl, k₁, e, hdir, hrec, rfl | hpin⟩ | hstep
  · exact hdir
  · exact absurd (((hsweeps.calm hsound).bound D).mp ⟨k₁, e, hdir, hrec, hpin⟩) hfree
  · exact hstep.directory_of_place.1

theorem Turn.directory_of_ne (hne : D' ≠ D) : c'.directory D' = c.directory D' :=
  h.invariant hsound (fun hattends hd => ((calm_of_attending hattends hd).2.directory D').trans)
    (fun _ _ hstep => (hstep.directory_eq (by grind) (by grind) (by grind)).trans) rfl

theorem Turn.keeps (hsafe : c.Safe wants)
    (hwants : wants D k) : c'.Safe wants ∧ ∀ D', c.Computed D' → c'.Computed D' := by
  refine h.invariant (I := fun d => d.Safe wants ∧ ∀ D', c.Computed D' → d.Computed D') hsound
    (fun hattends hd h => ?_) (fun _ hd hstep h => ?_) ⟨hsafe, fun _ hD => hD⟩
  · have hcalm := (calm_of_attending hattends hd).2
    exact ⟨h.1.calm hcalm, fun D' hD' => hcalm.computedKey.mpr (h.2 D' hD')⟩
  · exact ⟨hstep.safe_of_place hd h.1 hwants,
      fun D' hD' => hstep.computed_of_place hd h.1 hwants (h.2 D' hD')⟩

end

/-! ### Blocks that a build has served -/

/-- A wanted key has a block on the device that this build has used. -/
def Serves (c : KvCore) (D k : KvKey) (p : Nat) : Prop :=
  ∃ k₁ e, c.directory D = some k₁ ∧ c.record k₁ = some e ∧ e.residencyState = .gpu ∧
    e.physicalBlockIndex = p ∧ (c.block p).state ≠ .missing ∧
    (c.block p).lastUsedEpoch = c.setting.epoch ∧ (k₁ = k ∨ c.isPinned p)

theorem Step.serves_of_attending (hstep : Step c event c') (hsound : c.Sound)
    (hevent : Attending D' c event) (h : c.Serves D k p) : c'.Serves D k p := by
  obtain ⟨k₁, e, hdir, hrec, hgpu, hphys, hstate, hepoch, hkept⟩ := h
  rcases hevent with rfl | rfl | ⟨k', hdir', rfl | rfl | rfl⟩
  · cases hstep
    grind [Serves]
  · cases hstep with
    | storeFails | loadFails => exact ⟨k₁, e, hdir, hrec, hgpu, hphys, hstate, hepoch, hkept⟩
  · cases hstep with
    | load => grind [Serves]
  · cases hstep with
    | touch => grind [Serves]
  · cases hstep with
    | start => grind [Serves]

theorem Step.record_of_place_ne {e : KvBlockEntry} (hstep : Step c (.place D' k') c')
    (hsound : c.Sound) (hdir : c.directory D = some k) (hrec : c.record k = some e) (hne : D' ≠ D) :
    c'.directory D = some k ∧ ∃ e', c'.record k = some e' ∧
      e'.physicalBlockIndex = e.physicalBlockIndex ∧ e'.residencyState = e.residencyState ∧
      (e.residencyState = .gpu → c'.block e.physicalBlockIndex = c.block e.physicalBlockIndex) := by
  have hdir' : c'.directory D = some k :=
    (hstep.directory_eq (by grind) (by grind) (by grind)).trans hdir
  obtain ⟨e', hrec'⟩ := (hstep.sound hsound).referenced.exists_record hdir'
  refine ⟨hdir', e', hrec', ?_⟩
  cases hstep <;> grind

theorem Step.serves_of_place (hstep : Step c (.place D' k') c') (hsound : c.Sound)
    (hsame : D' = D → k' = k) (h : c.Serves D k p) : c'.Serves D k p := by
  obtain ⟨k₁, e, hdir, hrec, hgpu, hphys, hstate, hepoch, hkept⟩ := h
  have hne : D' ≠ D := by
    rintro rfl
    cases hstep <;> grind
  obtain ⟨hdir', e', hrec', hphys', hres', hsame'⟩ := hstep.record_of_place_ne hsound hdir hrec hne
  have hsetting := hstep.setting (by simp) (by simp) (by simp) (by simp)
  have hblock := hsame' hgpu
  rw [hphys] at hblock
  refine ⟨k₁, e', hdir', hrec', hres'.trans hgpu, hphys'.trans hphys, hblock ▸ hstate, ?_, ?_⟩
  · rw [hblock, hsetting]
    exact hepoch
  · rw [isPinned, hblock, hsetting]
    exact hkept

/-- A physical block is not spilled from one state to another. -/
def Unspilled (p : Nat) (c c' : KvCore) : Prop :=
  ∃ later, c'.log = later ++ c.log ∧ ∀ k b, SwapEvent.spill k p b ∉ later

theorem Unspilled.refl (p : Nat) (c : KvCore) : c.Unspilled p c :=
  ⟨[], rfl, fun _ _ => List.not_mem_nil⟩

theorem Unspilled.trans (h : c.Unspilled p c') (h' : c'.Unspilled p c'') : c.Unspilled p c'' := by
  obtain ⟨later, hlog, hfree⟩ := h
  obtain ⟨later', hlog', hfree'⟩ := h'
  refine ⟨later' ++ later, by rw [hlog', hlog, List.append_assoc], fun k b hmem => ?_⟩
  exact (List.mem_append.mp hmem).elim (hfree' k b) (hfree k b)

theorem Step.unspilled (hstep : Step c event c')
    (hused : (c.block p).lastUsedEpoch = c.setting.epoch) : c.Unspilled p c' := by
  have hsame {c₁ : KvCore} hlog : c.Unspilled p c₁ :=
    ⟨[], hlog, fun _ _ => List.not_mem_nil⟩
  have hone {swap : SwapEvent} hswap :
      c.Unspilled p (c.note swap) := ⟨[swap], rfl, by simpa using hswap⟩
  cases hstep with
  | @spill k e _ _ _ _ hepoch =>
    have hne : p ≠ e.physicalBlockIndex := fun heq => hepoch (heq ▸ hused)
    cases hvalid : e.backingValid with
    | true =>
      refine ⟨[.spill k e.physicalBlockIndex e.backingBlockIndex], ?_, by simp [hne]⟩
      rw [KvCore.spill, hvalid]
      rfl
    | false =>
      refine ⟨[.spill k e.physicalBlockIndex e.backingBlockIndex,
        .store k e.physicalBlockIndex e.backingBlockIndex true], ?_, by simp [hne]⟩
      rw [KvCore.spill, hvalid]
      rfl
  | storeFails | loadFails => exact hone (by simp)
  | load => exact ⟨[_], rfl, by simp⟩
  | join | split | remove =>
    refine hsame ?_
    simp only [name, drop, free]
    split_ifs <;> rfl
  | rekey =>
    refine hsame ?_
    simp only [name, KvCore.rekey]
    split_ifs <;> rfl
  | _ => exact hsame rfl

theorem serves_of_attending (h : Evolves Step (Attending D') c c') (hsound : c.Sound)
    (hserves : c.Serves D k p) : c'.Serves D k p ∧ c.Unspilled p c' := by
  refine hsound.invariant (I := fun d => d.Serves D k p ∧ c.Unspilled p d) h ?_ ⟨hserves, .refl p c⟩
  rintro d event d' hsound ⟨hserves, hunspilled⟩ hevent hstep
  refine ⟨hstep.serves_of_attending hsound hevent hserves, hunspilled.trans ?_⟩
  obtain ⟨k₁, e, -, -, -, -, -, hused, -⟩ := hserves
  exact hstep.unspilled hused

theorem Turn.placed (h : c.Turn D k c') (hsound : c.Sound) :
    c'.directory D = some k ∨ c'.Bound D := by
  by_cases hbound : c.Bound D
  · exact .inr (h.bound hsound hbound)
  · exact .inl (h.named hsound hbound)

theorem Turn.serves (h : c.Turn D' k' c') (hsound : c.Sound) (hsame : D' = D → k' = k)
    (hserves : c.Serves D k p) :
    c'.Serves D k p ∧ c.Unspilled p c' := by
  refine h.invariant (I := fun d => d.Serves D k p ∧ c.Unspilled p d) hsound
    (fun hattends hd h => ?_) (fun _ hd hstep h => ?_) ⟨hserves, .refl p c⟩
  · obtain ⟨hserves, hlog⟩ := serves_of_attending hattends hd h.1
    exact ⟨hserves, h.2.trans hlog⟩
  · refine ⟨hstep.serves_of_place hd hsame h.1, h.2.trans ?_⟩
    obtain ⟨k₁, e, -, -, -, -, -, hused, -⟩ := h.1
    exact hstep.unspilled hused

end KvCore

namespace KvState

variable {W : SwapHooks} {s s' : KvState W} {D k : KvKey} {p : Nat}
  {packet : WorkControlPacket} {blk laneIndex : Nat} {config : WorkControlConfig}

theorem Acquires.used (h : s.Acquires D k p s') :
    (s'.core.block p).lastUsedEpoch = s'.core.setting.epoch := by
  obtain ⟨c₁, c₂, c₃, -, -, -, k₁, e, hdir, hrec, ⟨hgpu, rfl, hcore⟩ | ⟨hout, hfree, hcore⟩⟩ := h
  · rw [hcore, KvCore.block_setBlock, if_pos rfl]
    rfl
  · rw [hcore, KvCore.block_load, if_pos rfl]
    rfl

theorem Builds.serves (hs : s.Owned) (hblk : blk < laneBlockCount packet (packet.lane laneIndex))
    (h : s.Builds packet laneIndex blk D k s') :
    ∃ p, s'.physicalBlockIndices = s.physicalBlockIndices.set (laneIndex * s.laneStride + blk) p ∧
      s'.core.Serves D k p := by
  have hturn := h.turn
  obtain ⟨t, p, state, ht, htable, hacquires, hp, hstate, rfl⟩ := h
  have hstride : t.laneStride = s.laneStride :=
    congrArg (·.outline.laneStride) hacquires.turn.setting
  obtain ⟨k₁, e, hdir, hrec, hgpu, hphys⟩ := hacquires.record
  have hused := hacquires.used
  set u := t.kvTabulate laneIndex blk p state
  have hcore : u.core = t.core.setBlock p ((t.core.block p).withState state) := core_kvTabulate hp
  have hblock : u.core.block p = (t.core.block p).withState state := by
    rw [hcore, KvCore.block_setBlock, if_pos rfl]
  have hrec' : u.core.record k₁ = some e := by rw [hcore]; exact hrec
  have hdir' : u.core.directory D = some k₁ := by rw [hcore]; exact hdir
  refine ⟨p, ?_, k₁, e, hdir', hrec', hgpu, hphys, ?_, ?_, ?_⟩
  · show t.physicalBlockIndices.set (laneIndex * t.laneStride + blk) p = _
    rw [htable, hstride]
  · rw [hblock]
    exact kvResolveEntryState_ne_missing hstate hblk
  · rw [hblock]
    exact hused
  · rcases hturn.placed hs.sound with hk | ⟨k₂, e₂, hdir₂, hrec₂, -, hpin⟩
    · exact .inl (Option.some.inj (hdir'.symm.trans hk))
    · obtain rfl := Option.some.inj (hdir'.symm.trans hdir₂)
      obtain rfl := Option.some.inj (hrec'.symm.trans hrec₂)
      exact .inr (hphys ▸ hpin)

/-- The place of a block in the table. -/
def cell (s : KvState W) (laneIndex blk : Nat) : Nat :=
  s.physicalBlockIndices.getD (laneIndex * s.laneStride + blk) kvInvalidBlockIndex

theorem cell_index_inj {stride laneIndex blk laneIndex' blk' : Nat} (hblk : blk < stride)
    (hblk' : blk' < stride)
    (h : laneIndex * stride + blk = laneIndex' * stride + blk') :
    laneIndex = laneIndex' ∧ blk = blk' := by
  have hpos : 0 < stride := by omega
  have hlane : laneIndex = laneIndex' := by
    have hdiv := congrArg (· / stride) h
    simpa [Nat.mul_add_div, Nat.div_eq_of_lt, hblk, hblk', Nat.mul_comm, hpos] using hdiv
  subst hlane
  exact ⟨rfl, by omega⟩

theorem cell_of_set (hblk : blk < s.laneStride) (hstride : s'.laneStride = s.laneStride)
    (htable : s'.physicalBlockIndices =
      s.physicalBlockIndices.set (laneIndex * s.laneStride + blk) p)
    (hlt : laneIndex * s.laneStride + blk < s.tableEntryCapacity) (laneIndex' blk' : Nat)
    (hblk' : blk' < s.laneStride) :
    s'.cell laneIndex' blk' =
      if laneIndex' = laneIndex ∧ blk' = blk then p else s.cell laneIndex' blk' := by
  rw [cell, htable, hstride, getD_set]
  split_ifs with hwritten hsame hsame
  · rfl
  · refine absurd ?_ hsame
    obtain ⟨rfl, rfl⟩ := cell_index_inj hblk hblk' hwritten.1
    exact ⟨rfl, rfl⟩
  · obtain ⟨rfl, rfl⟩ := hsame
    exact absurd ⟨rfl, hlt⟩ hwritten
  · rfl

theorem mem_packetBlocks :
    (laneIndex, blk) ∈ packetBlocks packet ↔ laneIndex < packet.activeSequenceCount ∧
      blk < laneBlockCount packet (packet.lane laneIndex) := by
  simp only [packetBlocks, List.mem_flatMap, List.mem_range, List.mem_map, Prod.mk.injEq]
  constructor
  · rintro ⟨_, hlane, _, hblk, rfl, rfl⟩
    exact ⟨hlane, hblk⟩
  · rintro ⟨hlane, hblk⟩
    exact ⟨laneIndex, hlane, blk, hblk, rfl, rfl⟩

theorem Validated.blk_lt (h : s.Validated packet config)
    (hroom : s.kvAdmitStatus packet = .ok ()) (hlane : laneIndex < packet.activeSequenceCount)
    (hblk : blk < laneBlockCount packet (packet.lane laneIndex)) : blk < s.laneStride := by
  have hfits := laneFits_of_admitted hroom laneIndex hlane
  simp only [laneFits, Bool.and_eq_true, decide_eq_true_eq] at hfits
  have hblocks := h.blocks
  omega

/-- Blocks of a build, one after another, with the counts of the lanes. -/
inductive Built (packet : WorkControlPacket) : List (Nat × Nat) → KvState W → KvState W → Prop
  | refl (s : KvState W) : Built packet [] s s
  | counts {blocks s t} (counts : List Nat) : Built packet blocks s t →
      Built packet blocks s { t with lanePhysicalBlockCounts := counts }
  | block {blocks s t u laneIndex blk} : Built packet blocks s t →
      kvBuildBlock packet laneIndex blk t = .ok () u →
      Built packet (blocks ++ [(laneIndex, blk)]) s u

/-- A block that was built has been served, and was not spilled since. -/
def HasServed (start : KvState W) (packet : WorkControlPacket) (done : List (Nat × Nat))
    (laneIndex blk : Nat) (s : KvState W) : Prop :=
  s.core.Serves (privateKey (packet.lane laneIndex).sequenceId blk)
      (start.kvBlockKeyOf packet laneIndex blk) (s.cell laneIndex blk) ∧
    ∃ before after u, before ++ (laneIndex, blk) :: after = done ∧
      Built packet (before ++ [(laneIndex, blk)]) start u ∧
      u.cell laneIndex blk = s.cell laneIndex blk ∧
      u.core.Unspilled (s.cell laneIndex blk) s.core

theorem buildHostKvBlockTable_serves (h : s.Owned) (packet : WorkControlPacket)
    (config : WorkControlConfig)
    (hfunctional : ∀ {D k k'}, s.Wants packet D k → s.Wants packet D k' → k = k') :
    wp (buildHostKvBlockTable packet config)
      (fun view s' => s'.Owned ∧ view = s'.tableView packet ∧ ∃ t, s.Selected packet t ∧
        Built packet (packetBlocks packet) (t.kvStartEpoch packet) s' ∧
        ∀ laneIndex < packet.activeSequenceCount,
        ∀ blk < laneBlockCount packet (packet.lane laneIndex),
          (t.kvStartEpoch packet).HasServed packet (packetBlocks packet) laneIndex blk s')
      (fun _ _ => True) s := by
  refine buildHostKvBlockTable_wp packet config (fun _ _ => trivial) (fun _ _ _ _ => trivial)
    fun t hvalid hselected hroom => ?_
  have hvalid := hvalid.selected hselected
  rw [← hselected.wants] at hfunctional
  set u := t.kvStartEpoch packet
  refine wp_mono (kvBuildBlocks_wp (hselected.follows h).1 hvalid hroom
    (fun rest v => ∃ done, done ++ rest = packetBlocks packet ∧ Built packet done u v ∧
      ∀ laneIndex blk, (laneIndex, blk) ∈ done → u.HasServed packet done laneIndex blk v)
    ⟨[], rfl, .refl u, fun _ _ hmem => absurd hmem List.not_mem_nil⟩ ?counts ?builds
    fun _ _ _ _ _ _ _ _ _ _ => trivial) ?_ fun _ _ _ => trivial
  case counts =>
    rintro rest v counts hlength ⟨done, hdone, hbuilt, hserved⟩
    refine ⟨done, hdone, hbuilt.counts counts, fun laneIndex blk hmem => ?_⟩
    obtain ⟨hserves, before, after, w, hsplit, hw, hcell, hlog⟩ := hserved laneIndex blk hmem
    have hcore := core_tabulated rfl hlength
    exact ⟨hcore ▸ hserves, before, after, w, hsplit, hw, hcell, hcore ▸ hlog⟩
  case builds =>
    rintro rest v s' laneIndex blk hlane hblk hv hsetting ⟨done, hdone, hbuilt, hserved⟩ hbuilds
      hrun howned hsetting'
    have houtline := outline_of_kvStartEpoch hvalid hsetting
    have hstride : v.laneStride = t.laneStride := congrArg (·.laneStride) houtline
    have htable : v.tableEntryCapacity = t.tableEntryCapacity :=
      congrArg (·.tableEntryCapacity) houtline
    have hlt : laneIndex * t.laneStride + blk < t.tableEntryCapacity :=
      (Nat.add_lt_add_left hblk _).trans_le
        (hvalid.table_le hlane (laneFits_of_admitted hroom laneIndex hlane))
    rw [← hstride, ← htable] at hlt
    obtain ⟨p, hwritten, hserves⟩ := hbuilds.serves hv hblk
    have hcell := cell_of_set (hstride.symm ▸ hvalid.blk_lt hroom hlane hblk)
      (congrArg (·.outline.laneStride) (hsetting'.trans hsetting.symm)) hwritten hlt
    have hnext := hbuilt.block hrun
    refine ⟨done ++ [(laneIndex, blk)], by rw [List.append_assoc]; exact hdone, hnext, ?_⟩
    intro laneIndex' blk' hmem
    have hin : (laneIndex', blk') ∈ packetBlocks packet := by
      rw [← hdone, List.append_cons]
      exact List.mem_append_left _ hmem
    obtain ⟨hlane', hblk'⟩ := mem_packetBlocks.mp hin
    have hcell' := hcell laneIndex' blk' (hstride.symm ▸ hvalid.blk_lt hroom hlane' hblk')
    by_cases hsame : laneIndex' = laneIndex ∧ blk' = blk
    · obtain ⟨rfl, rfl⟩ := hsame
      rw [if_pos ⟨rfl, rfl⟩] at hcell'
      exact ⟨hcell'.symm ▸ hserves, done, [], s', rfl, hnext, rfl, .refl _ _⟩
    rw [if_neg hsame] at hcell'
    have hmem : (laneIndex', blk') ∈ done := (List.mem_append.mp hmem).resolve_right
      fun hlast => hsame (Prod.mk.inj (List.mem_singleton.mp hlast))
    obtain ⟨hold, before, after, w, rfl, hw, hcellw, hlog⟩ := hserved laneIndex' blk' hmem
    obtain ⟨hserves', hlog'⟩ := hbuilds.turn.serves hv.sound (fun heq =>
      hfunctional (heq ▸ t.wants_block hlane hblk) (t.wants_block hlane' hblk')) hold
    rw [← hcell'] at hserves' hcellw hlog hlog'
    exact ⟨hserves', before, after ++ [(laneIndex, blk)], w, by simp, hw, hcellw, hlog.trans hlog'⟩
  · rintro _ s' ⟨howned, -, done, hdone, hbuilt, hserved⟩
    rw [List.append_nil] at hdone
    subst hdone
    exact ⟨howned, rfl, t, hselected, hbuilt, fun laneIndex hlane blk hblk =>
      hserved laneIndex blk (mem_packetBlocks.mpr ⟨hlane, hblk⟩)⟩

theorem calm_kvStartEpoch (hvalid : s.Validated packet config) :
    s.core.Calm (s.kvStartEpoch packet).core :=
  core_kvStartEpoch hvalid ▸ .tick _

theorem buildHostKvBlockTable_safe (h : s.Owned) (packet : WorkControlPacket)
    (config : WorkControlConfig) (hsafe : s.core.Safe (s.Wants packet))
    (hgeneration : ¬s.controlGeneration < packet.controlGeneration) (hD : s.core.Computed D) :
    (finalState (buildHostKvBlockTable packet config s)).core.Computed D := by
  have hsame {t : KvState W} (hselected : s.Selected packet t) : t = s :=
    hselected.elim And.right fun hnew => absurd hnew.1 hgeneration
  refine wp_finalState (buildHostKvBlockTable_wp packet config (fun _ _ => hD)
      (fun _ t hselected _ => hsame hselected ▸ hD) fun t hvalid hselected hroom => ?_)
  obtain rfl := hsame hselected
  have htick := calm_kvStartEpoch hvalid
  refine wp_post (kvBuildBlocks_wp h hvalid hroom (fun _ v => v.core.Safe (t.Wants packet) ∧
    v.core.Computed D) ⟨hsafe.calm htick, htick.computedKey.mpr hD⟩
    (fun _ hlength h => core_tabulated rfl hlength ▸ h) ?builds ?fails) fun _ _ h => h.2.2.2
  case builds =>
    rintro rest v s' laneIndex blk hlane hblk hv - ⟨hsafev, hcomputed⟩ hbuilds - - -
    exact (hbuilds.turn.keeps hv.sound hsafev (t.wants_block hlane hblk)).imp id fun hkeeps =>
      hkeeps D hcomputed
  case fails =>
    rintro rest v s' error laneIndex blk hlane hblk hv - ⟨hsafev, hcomputed⟩ hfails - -
    rcases hfails.turn with hsweeps | hturn
    · exact (hsweeps.calm hv.sound).computedKey.mpr hcomputed
    · exact (hturn.keeps hv.sound hsafev (t.wants_block hlane hblk)).2 D hcomputed

end KvState

/-! ### Runs -/

namespace KvOp

variable {W : SwapHooks} {s : KvState W} {D : KvKey}

variable (op : KvOp W) {event : KvEvent} {c : KvCore}

/-- The operation starts a new generation. -/
def Renews (s : KvState W) : Prop :=
  match op with
  | .advanceKvGeneration generation => s.controlGeneration < generation
  | .buildHostKvBlockTable packet _ | .releasePacketSequences packet _ =>
    s.controlGeneration < packet.controlGeneration
  | _ => False

/-- The operation releases or cancels the block of a directory key. -/
def Drops (D : KvKey) : Prop :=
  match op with
  | .cancelHostKvBlockTable packet _ => laneKeys packet packet.activeSequenceCount D
  | .releaseSequence q n => ∃ blk < n, D = privateKey q blk
  | .releasePacketSequences packet _ => laneKeys packet packet.laneCount D
  | _ => False

/-- The operation ends the life of the block of a directory key. -/
def Ends (D : KvKey) (s : KvState W) (op : KvOp W) : Prop := op.Renews s ∨ op.Drops D

/-- Builds are safe. -/
def IsSafe (s : KvState W) (op : KvOp W) : Prop :=
  match op with
  | .buildHostKvBlockTable packet _ => s.core.Safe (s.Wants packet)
  | _ => True

/-- The operation may give a directory key another record. -/
def Moves (D : KvKey) (s : KvState W) (op : KvOp W) : Prop :=
  match op with
  | .buildHostKvBlockTable packet _ => ∃ k, s.Wants packet D k
  | _ => False

/-- What an operation has to be to make an event. -/
structure Causes (op : KvOp W) (s : KvState W) (c : KvCore) (event : KvEvent) : Prop where
  reset : event = .reset → op.Renews s
  remove : ∀ {D}, event = .remove D → op.Drops D
  place : ∀ {D k}, event = .place D k → op.Moves D s
  settle : ∀ {k}, event = .settle k → ∃ packet config D,
    op = .commitHostKvBlockTable packet config ∧
    laneKeys packet packet.activeSequenceCount D ∧ c.directory D = some k
  supply : ∀ {n}, event = .supply n → ∃ store, op = .configureKvSwap n store
  unpin : ∀ {p}, event = .unpin p ↔ op = .unpinPhysicalBlock p
  takeBack : ∀ {p}, event = .takeBack p ↔ op = .releaseTransientPhysicalBlock p

theorem causes_of_allows {op : KvOp W} (hevent : op.Allows s c event) : op.Causes s c event := by
  cases op <;>
  simp only [Allows, Renewing, Lending, Tabulating, Building, KvCore.Attending, Committing,
    Cancelling, Removing, Withdrawing] at hevent <;>
  constructor <;> first | grind [Renews, Drops, Moves] | simp_all

theorem harmless_of_allows {op : KvOp W} (hmoves : ¬op.Moves D s)
    (hends : ¬op.Ends D s) (hevent : op.Allows s c event) :
    (∀ k, event ≠ .place D k) ∧ event ≠ .remove D ∧ event ≠ .reset := by
  have hcause := causes_of_allows hevent
  exact ⟨fun _ h => hmoves (hcause.place h), fun h => hends (.inr (hcause.remove h)),
    fun h => hends (.inl (hcause.reset h))⟩

theorem exec_computed_of_ne (hs : s.Owned) (hmoves : ¬op.Moves D s)
    (hends : ¬op.Ends D s) (h : s.core.Computed D) : (op.exec s).core.Computed D := by
  refine hs.sound.invariant (I := (·.Computed D)) (op.exec_follows s hs).2
    (fun hsound hcomputed hevent hstep => ?_) h
  obtain ⟨hplace, hremove, hreset⟩ := harmless_of_allows hmoves hends hevent
  exact hstep.computed hsound hcomputed hplace hremove hreset

theorem build_of_moves {op : KvOp W} (h : op.Moves D s) :
    ∃ packet config, op = .buildHostKvBlockTable packet config := by
  cases op with
  | buildHostKvBlockTable packet config => exact ⟨packet, config, rfl⟩
  | _ => exact h.elim

theorem exec_computed (hs : s.Owned) (hsafe : op.IsSafe s) (hends : ¬op.Ends D s)
    (h : s.core.Computed D) : (op.exec s).core.Computed D := by
  by_cases hmoves : op.Moves D s
  · obtain ⟨packet, config, rfl⟩ := build_of_moves hmoves
    exact buildHostKvBlockTable_safe hs packet config hsafe (fun hnew => hends (.inl hnew)) h
  · exact op.exec_computed_of_ne hs hmoves hends h

end KvOp

/-- The block of a key is on the device, resident, and at the given place. -/
def KvState.ResidesAt {W : SwapHooks} (s : KvState W) (D : KvKey) (p : Nat) : Prop :=
  ∃ k e, s.core.directory D = some k ∧ s.core.record k = some e ∧ e.residencyState = .gpu ∧
    e.physicalBlockIndex = p ∧ (s.physicalBlock p).state = .resident

/-- In a run of safe operations, a block that was committed stays computed as long as it is neither
released nor cancelled nor its generation ends, and a safe build resolves it to a resident block of
the device. -/
theorem computed_block_is_kept {W : SwapHooks} {laneCapacity laneStride blockTokenCount
    physicalBlockCapacity directoryCapacity blockEntryCapacity : UInt32} {s₀ : KvState W}
    (hnew : KvState.new laneCapacity laneStride blockTokenCount physicalBlockCapacity
      directoryCapacity blockEntryCapacity = .ok s₀)
    {before after : List (KvOp W)} {packet : WorkControlPacket} {config : WorkControlConfig}
    (hsafe : Along KvOp.exec KvOp.IsSafe s₀
      (before ++ .commitHostKvBlockTable packet config :: after))
    (hcommitted : succeeds
      (commitHostKvBlockTable packet config (runAll KvOp.exec s₀ before)) = true)
    {D : KvKey} (hD : laneKeys packet packet.activeSequenceCount D)
    (hheld : Along KvOp.exec (fun s op => ¬op.Ends D s)
      (runAll KvOp.exec s₀ (before ++ [.commitHostKvBlockTable packet config])) after) :
    let s := runAll KvOp.exec s₀ (before ++ .commitHostKvBlockTable packet config :: after)
    s.core.Computed D ∧ ∀ (later : WorkControlPacket) config' view s', s.core.Safe (s.Wants later) →
        ¬s.controlGeneration < later.controlGeneration →
        buildHostKvBlockTable later config' s = .ok view s' →
        ∀ laneIndex < later.activeSequenceCount,
        ∀ blk < laneBlockCount later (later.lane laneIndex),
          privateKey (later.lane laneIndex).sequenceId blk = D →
          s'.ResidesAt D (view.physicalBlockIndices.getD (laneIndex * view.laneStride + blk)
            kvInvalidBlockIndex) := by
  intro s
  set t := runAll KvOp.exec s₀ before
  set u := (KvOp.commitHostKvBlockTable packet config).exec t
  have hsplit : runAll KvOp.exec s₀ (before ++ [.commitHostKvBlockTable packet config]) = u :=
    runAll_concat ..
  rw [hsplit] at hheld
  have hsafe : Along KvOp.exec KvOp.IsSafe u after := (along_append.mp hsafe).2.2
  have hs : s = runAll KvOp.exec u after := runAll_append ..
  have ht' : t.Owned := KvOp.run_owned (owned_of_new hnew) before
  have hu' : u.Owned := (KvOp.exec_follows _ t ht').1
  -- the commit computes the block, and safe operations keep it
  have hcomputed : u.core.Computed D := by
    have hcommit := commitHostKvBlockTable_wp ht' packet config
    cases hrun : commitHostKvBlockTable packet config t with
    | ok a t' =>
      obtain ⟨-, hresident⟩ := wp_ok hcommit hrun
      obtain ⟨k, e, hdir, hrec, hgpu, hstate⟩ := hresident D hD
      have hut : u = t' := congrArg finalState hrun
      rw [hut]
      exact ⟨k, hdir, e, hrec, fun _ => hstate⟩
    | error =>
      rw [hrun] at hcommitted
      cases hcommitted
  have hkept : s.Owned ∧ s.core.Computed D := by
    rw [hs]
    refine ⟨KvOp.run_owned hu' after, KvOp.run_invariant
      (I := (·.core.Computed D)) (fun hs hop hcomputed => ?_)
      (along_and hsafe hheld) hu' hcomputed⟩
    exact KvOp.exec_computed _ hs hop.1 hop.2 hcomputed
  refine ⟨hkept.2, fun later config' view s' hsafe' hgeneration hbuild laneIndex hlane blk hblk hkey
    => ?_⟩
  have hcomputed := buildHostKvBlockTable_safe hkept.1 later config' hsafe' hgeneration hkept.2
  rw [hbuild] at hcomputed
  obtain ⟨-, rfl, t, -, -, hserved⟩ :=
    wp_ok (buildHostKvBlockTable_serves hkept.1 later config' hsafe'.functional) hbuild
  obtain ⟨⟨k, e, hdir, hrec, hgpu, hphys, -⟩, -⟩ := hserved laneIndex hlane blk hblk
  rw [hkey] at hdir
  -- a computed block on the device is resident
  obtain ⟨k', hdir', e', hrec', hstate⟩ := hcomputed
  obtain rfl := Option.some.inj (hdir.symm.trans hdir')
  obtain rfl := Option.some.inj (hrec.symm.trans hrec')
  have hstate := hstate hgpu
  rw [hphys] at hstate
  exact ⟨k, e, hdir, hrec, hgpu, hphys, hstate⟩

/-- The state of the block that a build finds for a block of a lane. -/
def KvState.resolvedState {W : SwapHooks} (s : KvState W) (packet : WorkControlPacket)
    (config : WorkControlConfig) (laneIndex blk : Nat) : Option KvEntryState :=
  match buildHostKvBlockTable packet config s with
  | .ok view s' => some (s'.physicalBlock (view.physicalBlockIndices.getD
      (laneIndex * view.laneStride + blk) kvInvalidBlockIndex)).state
  | .error _ _ => none

/-- A computed block is published, and another sequence starts one of the same content. -/
def sharedStart : List (KvOp steadyHooks) :=
  let first := smallPacket true 4 [smallLane 1 0 4]
  [.buildHostKvBlockTable first smallConfig, .commitHostKvBlockTable first smallConfig,
    .configureKvSharing (some [{ low := 5, high := 6 }, {}]) 2,
    .buildHostKvBlockTable (smallPacket true 4 [smallLane 2 0 4]) smallConfig]

/-- The computed block of the first sequence is given up for the block in flight. -/
theorem computed_block_is_lost : ∃ s₀ : KvState steadyHooks, KvState.new 16 4 4 8 16 16 = .ok s₀ ∧
    let first := smallPacket true 4 [smallLane 1 0 4]
    laneKeys first first.activeSequenceCount (privateKey 1 0) ∧
    succeeds (commitHostKvBlockTable first smallConfig
      (runAll KvOp.exec s₀ (sharedStart.take 1))) = true ∧
    Along KvOp.exec (fun s op => ¬op.Ends (privateKey 1 0) s)
      (runAll KvOp.exec s₀ (sharedStart.take 2)) (sharedStart.drop 2) ∧
    (runAll KvOp.exec s₀ sharedStart).resolvedState (smallPacket true 4 [smallLane 1 4 8])
      smallConfig 0 0 = some .inFlight := by
  refine ⟨_, rfl, ⟨0, by decide, 0, by decide +kernel, rfl⟩, by decide +kernel, ?_,
    by decide +kernel⟩
  refine ⟨?_, ?_, trivial⟩
  · rintro (h | h) <;> exact h
  · rintro (h | h)
    · exact absurd (show _ < 1 from h) (by decide +kernel)
    · exact h

/-- A block is computed and its key published. -/
def publishedState : KvState steadyHooks :=
  runAll KvOp.exec roomyState (sharedStart.take 3)

theorem safe_publishedState :
    publishedState.core.Safe (publishedState.Wants (smallPacket true 4 [smallLane 1 4 8])) := by
  have hwants : ∀ D k, publishedState.Wants (smallPacket true 4 [smallLane 1 4 8]) D k →
      D = privateKey 1 0 ∧ k = contentKey 5 6 ∨ D = privateKey 1 1 ∧ k = privateKey 1 1 := by
    rintro D k ⟨laneIndex, hlane, blk, hblk, rfl, rfl⟩
    obtain rfl : laneIndex = 0 := Nat.lt_one_iff.mp hlane
    obtain rfl | rfl : blk = 0 ∨ blk = 1 := by
      have hblk : blk < 2 := hblk
      omega
    · exact .inl (by decide +kernel)
    · exact .inr (by decide +kernel)
  have hdir : publishedState.core.directory (privateKey 1 0) = some (privateKey 1 0) := by
    decide +kernel
  have hdir' : publishedState.core.directory (privateKey 1 1) = none := by decide +kernel
  have hrec : publishedState.core.record (contentKey 5 6) = none := by decide +kernel
  have hrefs : publishedState.core.refs (privateKey 1 0) = 1 := by decide +kernel
  have hk' : privateKey 1 1 ≠ contentKey 5 6 := by decide +kernel
  refine ⟨by grind, fun hwant hheld hmoves hcomputed hbound => .inr ?_⟩
  rcases hwants _ _ hwant with ⟨rfl, rfl⟩ | ⟨rfl, rfl⟩
  · exact ⟨hrec, fun D' hD' => by grind⟩
  · grind

theorem safe_of_fresh :
    roomyState.core.Safe (roomyState.Wants (smallPacket true 4 [smallLane 1 0 4])) := by
  have hdir : roomyState.core.directory (privateKey 1 0) = none := by decide +kernel
  have hwants : ∀ D k, roomyState.Wants (smallPacket true 4 [smallLane 1 0 4]) D k →
      D = privateKey 1 0 ∧ k = privateKey 1 0 := by
    rintro D k ⟨laneIndex, hlane, blk, hblk, rfl, rfl⟩
    obtain rfl : laneIndex = 0 := Nat.lt_one_iff.mp hlane
    obtain rfl : blk = 0 := Nat.lt_one_iff.mp hblk
    decide +kernel
  exact ⟨by grind, by grind⟩

theorem computed_block_is_kept_published : ∃ view s',
    buildHostKvBlockTable (smallPacket true 4 [smallLane 1 4 8]) smallConfig publishedState =
      .ok view s' ∧
    s'.ResidesAt (privateKey 1 0) (view.physicalBlockIndices.getD 0 kvInvalidBlockIndex) := by
  have hsucceeds : succeeds (buildHostKvBlockTable (smallPacket true 4 [smallLane 1 4 8])
      smallConfig publishedState) = true := by decide +kernel
  cases hbuild : buildHostKvBlockTable (smallPacket true 4 [smallLane 1 4 8]) smallConfig
      publishedState with
  | error error s' =>
    rw [hbuild] at hsucceeds
    cases hsucceeds
  | ok view s' =>
    refine ⟨view, s', rfl, ?_⟩
    have hkept := @computed_block_is_kept _ _ _ _ _ _ _ _ new_roomyState (sharedStart.take 1)
      ((sharedStart.drop 2).take 1) (smallPacket true 4 [smallLane 1 0 4]) smallConfig
      ⟨safe_of_fresh, trivial, trivial, trivial⟩ (by decide +kernel) (privateKey 1 0)
      ⟨0, by decide, 0, by decide +kernel, rfl⟩ ⟨by rintro (h | h) <;> exact h, trivial⟩
    simpa only [Nat.zero_mul, Nat.add_zero] using hkept.2 _ _ view s' safe_publishedState
      (show ¬publishedState.controlGeneration < 1 by decide +kernel) hbuild 0 (by decide) 0
      (by decide +kernel) rfl

end SparkPipe
