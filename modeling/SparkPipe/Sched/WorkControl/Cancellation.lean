import SparkPipe.Sched.WorkControl.Outline

/-!
# Taking a build back

A cancel knows the blocks of a build only by their state: it gives back whatever block of the packet
is in flight. It undoes its own build if the blocks of the packet that were there before are
computed, so that none of them is in flight, and every new block is in flight. Another packet that
was built before keeps its blocks then, and can still be committed.
-/

open Program

namespace SparkPipe

open WorkControl

namespace KvCore

variable {c c' : KvCore} {event : KvEvent} {D D' k k' : KvKey} {wants : KvKey → KvKey → Prop}
  {c₀ : KvCore}

theorem Step.inFlight (hstep : Step c event c') (hsound : c.Sound) (h : c.InState D .inFlight)
    (hplace : ∀ k, event ≠ .place D k) (hremove : event ≠ .remove D) (hreset : event ≠ .reset)
    (hsettle : ∀ k, c.directory D = some k → event ≠ .settle k) : c'.InState D .inFlight := by
  obtain ⟨k, e, hdir, hrec, hgpu, hstate⟩ := h
  have hdir' := (hstep.directory_eq hplace hremove hreset).trans hdir
  obtain ⟨e', hrec'⟩ := (hstep.sound hsound).referenced.exists_record hdir'
  refine ⟨k, e', hdir', hrec', ?_⟩
  cases hstep <;> grind [note]

theorem Step.of_remove (hstep : Step c (.remove D') c') (hsound : c.Sound) :
    c'.directory D' = none ∧ (∀ D, D ≠ D' → c'.directory D = c.directory D) ∧
      (∀ D state, c'.InState D state → c.InState D state) ∧
      (∀ D state, D ≠ D' → c.InState D state → c'.InState D state) ∧
      ∀ D, c'.Bound D → c.Bound D := by
  have hsound' := hstep.sound hsound
  have hother : ∀ D, D ≠ D' → c'.directory D = c.directory D := fun D hne =>
    hstep.directory_eq (by simp) (by simpa using Ne.symm hne) (by simp)
  have hrecord : ∀ D k, c'.directory D = some k → ∃ e, c'.record k = some e :=
    fun D k h => hsound'.referenced.exists_record h
  cases hstep with
  | remove =>
    refine ⟨by grind, hother, fun D state h => ?_, fun D state hne h => ?_, fun D h => ?_⟩
    · grind [InState]
    · obtain ⟨k, e, hD, hk, hgpu, hstate⟩ := h
      obtain ⟨e', he'⟩ := hrecord D k ((hother D hne).trans hD)
      refine ⟨k, e', (hother D hne).trans hD, he', ?_⟩
      grind
    · grind

theorem Step.isComputed_placed (hstep : Step c (.place D' k') c') (hsound : c.Sound)
    (h : c'.IsComputed k) : c.IsComputed k ∨ k' = k ∧ ∃ k₀, c.directory D' = some k₀ ∧ k₀ ≠ k ∧
      c.IsComputed k₀ := by
  cases hstep <;> grind

/-- A key of a new block, which is in flight or not there; its record is not computed. -/
def Open (c : KvCore) (wants : KvKey → KvKey → Prop) (D k : KvKey) : Prop :=
  wants D k ∧ ¬c.IsComputed k ∧
    (c.directory D = none ∨ c.directory D = some k ∧ c.InState D .inFlight)

theorem Computed.not_inFlight (h : c.Computed D) : ¬c.InState D .inFlight := by
  rintro ⟨k', e', hdir', hrec', hgpu, hflight⟩
  obtain ⟨k, hdir, e, hrec, hstate⟩ := h
  obtain rfl := Option.some.inj (hdir.symm.trans hdir')
  obtain rfl := Option.some.inj (hrec.symm.trans hrec')
  have hboth := (hstate hgpu).symm.trans hflight
  cases hboth

theorem Turn.not_isComputed (h : c.Turn D' k' c') (hsound : c.Sound) (hsafe : c.Safe wants)
    (hwants : wants D' k') (hopen : c.Open wants D k) : ¬c'.IsComputed k := by
  obtain ⟨hwant, hempty, hplace⟩ := hopen
  obtain ⟨c₁, c₂, hsound₁, hsound₂, hsweeps, hplaced, hattends⟩ := h.stages hsound
  have hcalm := hsweeps.calm hsound
  have hsafe₁ := hsafe.calm hcalm
  rw [(calm_of_attending hattends hsound₂).2.computed]
  rw [← hcalm.computed] at hempty
  rcases hplaced with ⟨rfl, -⟩ | hstep
  · exact hempty
  intro hcomputed
  rcases hstep.isComputed_placed hsound₁ hcomputed with hold | ⟨rfl, k₀, hdir, hne, hk₀⟩
  · exact hempty hold
  rcases hsafe₁.moves hwants hdir hne hk₀ hstep.not_bound_of_place with hjoin | hrename
  · exact hempty hjoin.1
  -- whoever wants the key must have a computed record of its own
  obtain ⟨k₁, hdir₁, hk₁, -⟩ := hrename.2 D hwant
  rw [hcalm.directory] at hdir₁
  rcases hplace with hnone | ⟨hsome, -⟩
  · rw [hnone] at hdir₁
    cases hdir₁
  · obtain rfl := Option.some.inj (hsome.symm.trans hdir₁)
    exact hempty hk₁

theorem inFlight_of_attending (h : Evolves Step (Attending D') c c') (hsound : c.Sound)
    (hflight : c.InState D .inFlight) : c'.InState D .inFlight := by
  refine hsound.invariant (I := (·.InState D .inFlight)) h
    (fun hsound hflight hevent hstep => ?_) hflight
  refine hstep.inFlight hsound hflight ?_ ?_ ?_ ?_
  all_goals grind [Attending]

theorem Turn.open_of_ne (h : c.Turn D' k' c') (hsound : c.Sound) (hsafe : c.Safe wants)
    (hwants : wants D' k') (hne : D' ≠ D) (hopen : c.Open wants D k) : c'.Open wants D k := by
  have hempty := h.not_isComputed hsound hsafe hwants hopen
  obtain ⟨hwant, -, hplace⟩ := hopen
  refine ⟨hwant, hempty, ?_⟩
  rw [h.directory_of_ne hsound (Ne.symm hne)]
  exact hplace.imp id
    (And.imp id (h.invariant hsound inFlight_of_attending fun _ hd hstep hflight =>
    hstep.inFlight hd hflight (by grind) (by grind) (by grind) (by grind)))

theorem Turn.directory_of_bound (h : c.Turn D k c') (hsound : c.Sound) (hbound : c.Bound D) :
    c'.directory D = c.directory D := by
  refine h.invariant hsound
    (fun hattends hd => ((calm_of_attending hattends hd).2.directory D).trans)
    (fun hcalm _ hstep => ?_) rfl
  exact absurd ((hcalm.bound D).mpr hbound) hstep.not_bound_of_place

theorem Turn.directory_of_open (h : c.Turn D k c') (hsound : c.Sound)
    (hopen : c.Open wants D k) : c'.directory D = some k := by
  by_cases hbound : c.Bound D
  · rw [h.directory_of_bound hsound hbound]
    rcases hopen.2.2 with hnone | ⟨hsome, -⟩
    · obtain ⟨k₀, e, hdir, -⟩ := hbound
      rw [hnone] at hdir
      cases hdir
    · exact hsome
  · exact h.named hsound hbound

theorem Sweeps.open (h : c.Sweeps c') (hsound : c.Sound) (hopen : c.Open wants D k) :
    c'.Open wants D k := by
  have hcalm := h.calm hsound
  obtain ⟨hwant, hempty, hplace⟩ := hopen
  refine ⟨hwant, (hcalm.computed k).not.mpr hempty, ?_⟩
  rw [hcalm.directory]
  exact hplace.imp id (And.imp id (inFlight_of_attending (h.attending (D := D)) hsound))

/-- New blocks of a build are open, and the blocks of others are where they were. -/
structure Proceeds (wants : KvKey → KvKey → Prop) (c₀ c : KvCore) : Prop where
  safe : c.Safe wants
  computed : ∀ {D}, c₀.Computed D → c.Computed D
  fresh : ∀ {D k}, wants D k → c₀.directory D = none → c.Open wants D k
  other : ∀ {D}, (∀ k, ¬wants D k) → c.directory D = c₀.directory D

theorem Proceeds.sweeps (h : Proceeds wants c₀ c) (hsweeps : c.Sweeps c')
    (hsound : c.Sound) : Proceeds wants c₀ c' where
  safe := h.safe.calm (hsweeps.calm hsound)
  computed hD := (hsweeps.calm hsound).computedKey.mpr (h.computed hD)
  fresh hD hnone := hsweeps.open hsound (h.fresh hD hnone)
  other hD := ((hsweeps.calm hsound).directory _).trans (h.other hD)

theorem Proceeds.turn (h : Proceeds wants c₀ c) (hturn : c.Turn D k c')
    (hsound : c.Sound) (hwants : wants D k)
    (hown : c₀.directory D = none → c.Open wants D k → c'.Open wants D k) :
    Proceeds wants c₀ c' where
  safe := (hturn.keeps hsound h.safe hwants).1
  computed hD := (hturn.keeps hsound h.safe hwants).2 _ (h.computed hD)
  fresh {D' k'} hD hnone := by
    have hopen := h.fresh hD hnone
    by_cases hne : D = D'
    · subst hne
      obtain rfl := h.safe.functional hwants hD
      exact hown hnone hopen
    · exact hturn.open_of_ne hsound h.safe hwants hne hopen
  other {D'} hD := by
    rw [hturn.directory_of_ne hsound, h.other hD]
    rintro rfl
    exact hD k hwants

end KvCore

namespace KvState

variable {W : SwapHooks} {s s' : KvState W} {D k : KvKey} {packet : WorkControlPacket}
  {wants : KvKey → KvKey → Prop} {laneIndex blk : Nat} {config : WorkControlConfig}

theorem Builds.present (h : s.Builds packet laneIndex blk D k s') : s'.core.directory D ≠ none := by
  obtain ⟨t, p, state, -, -, hacquires, hp, -, rfl⟩ := h
  obtain ⟨k₁, e, hdir, -⟩ := hacquires.record
  exact hdir.symm ▸ Option.some_ne_none k₁

theorem Builds.open (h : s.Builds packet laneIndex blk D k s') (hs : s.Owned) (hs' : s'.Owned)
    (hsafe : s.core.Safe wants) (hblk : blk < laneBlockCount packet (packet.lane laneIndex))
    (hopen : s.core.Open wants D k) : s'.core.Open wants D k := by
  have hturn := h.turn
  have hempty := hturn.not_isComputed hs.sound hsafe hopen.1 hopen
  have hdir := hturn.directory_of_open hs.sound hopen
  refine ⟨hopen.1, hempty, .inr ⟨hdir, ?_⟩⟩
  obtain ⟨p, -, k₁, e, hdir₁, hrec, hgpu, rfl, hmissing, -, -⟩ := h.serves hs hblk
  obtain rfl := Option.some.inj (hdir₁.symm.trans hdir)
  have htransient := (hs'.sound.stored.onDevice hrec hgpu).2.2
  refine ⟨k₁, e, hdir, hrec, hgpu, ?_⟩
  cases hstate : (s'.core.block e.physicalBlockIndex).state with
  | inFlight => rfl
  | missing => exact absurd hstate hmissing
  | resident => exact absurd ⟨e, hrec, fun _ => hstate⟩ hempty
  | transient => exact absurd hstate htransient

theorem FailsToBuild.open {error : WorkControlError}
    (h : s.FailsToBuild packet laneIndex blk D k error s') (hs : s.Owned)
    (hsafe : s.core.Safe wants) (hopen : s.core.Open wants D k)
    (hready : packet.isPrefill ∨
      ¬blk + 1 < laneBlockCount packet (packet.lane laneIndex)) : s'.core.Open wants D k := by
  rcases h with (⟨hsweeps, -⟩ | ⟨c₁, k₁, t, hsweeps, hplaced, hsweeps', hdir, hstranded⟩) |
    ⟨p, -, hstate⟩
  · exact hsweeps.open hs.sound hopen
  · -- a record that was swapped out is computed
    have hturn : s.core.Turn D k t.core := ⟨c₁, t.core, hsweeps, hplaced, .refl _⟩
    have hempty := hturn.not_isComputed hs.sound hsafe hopen.1 hopen
    obtain rfl :=
      Option.some.inj ((hturn.directory_of_open hs.sound hopen).symm.trans hdir)
    obtain ⟨⟨e, hrec, hout⟩, -⟩ := hstranded
    exact absurd ⟨e, hrec, fun hgpu => absurd hgpu hout⟩ hempty
  · unfold kvResolveEntryState at hstate
    grind

/-- The blocks of the packet that are there are computed, the records of its new blocks are not, and
a decode lacks only the last block of a lane. -/
structure Revocable (s : KvState W) (packet : WorkControlPacket) : Prop where
  safe : s.core.Safe (s.Wants packet)
  held : ∀ {D k}, s.Wants packet D k → s.core.directory D ≠ none → s.core.Computed D
  fresh : ∀ {D k}, s.Wants packet D k → s.core.directory D = none → ¬s.core.IsComputed k
  ready : packet.isPrefill = false → ∀ laneIndex < packet.activeSequenceCount, ∀ blk,
    blk + 1 < laneBlockCount packet (packet.lane laneIndex) →
    s.core.directory (privateKey (packet.lane laneIndex).sequenceId blk) ≠ none

/-- The packet is valid, of the current generation, and its lanes fit. -/
structure Settleable (s : KvState W) (packet : WorkControlPacket) (config : WorkControlConfig) :
    Prop where
  valid : s.Validated packet config
  current : packet.controlGeneration = s.controlGeneration
  fits : ∀ laneIndex < packet.activeSequenceCount, laneFits packet laneIndex

theorem Settleable.of_outline (h : s.Settleable packet config) (hs' : s'.Owned)
    (houtline : s'.outline = s.outline) : s'.Settleable packet config :=
  ⟨h.valid.of_outline hs' houtline,
    h.current.trans (congrArg KvOutline.controlGeneration houtline).symm, h.fits⟩

section Selected

variable {t : KvState W} (hselected : s.Selected packet t)
include hselected

theorem Selected.settleable (hvalid : s.Validated packet config)
    (hroom : t.kvAdmitStatus packet = .ok ()) (hs' : s'.Owned)
    (hsetting : s'.core.setting = (t.kvStartEpoch packet).core.setting) :
    s'.Settleable packet config := by
  have hvalid := hvalid.selected hselected
  refine Settleable.of_outline ⟨hvalid, ?_, laneFits_of_admitted hroom⟩ hs'
    (outline_of_kvStartEpoch hvalid hsetting)
  rcases hselected with ⟨hsame, rfl⟩ | ⟨-, rfl⟩
  · exact hsame
  · rfl

variable (hgeneration : s.controlGeneration < packet.controlGeneration →
  ∀ D, s.core.directory D = none)
include hgeneration

theorem Selected.directory (D : KvKey) : t.core.directory D = s.core.directory D := by
  rcases hselected with ⟨-, rfl⟩ | ⟨hnew, rfl⟩
  · rfl
  · rw [core_resetKvGeneration, hgeneration hnew]
    rfl

theorem Revocable.proceeds (h : s.Revocable packet) {c : KvCore} (hcalm : t.core.Calm c) :
    KvCore.Proceeds (s.Wants packet) s.core c := by
  have hdir D : c.directory D = s.core.directory D :=
    (hcalm.directory D).trans (hselected.directory hgeneration D)
  rcases hselected with ⟨-, rfl⟩ | ⟨hnew, rfl⟩
  · exact ⟨h.safe.calm hcalm, hcalm.computedKey.mpr, fun {D k} hD hnone => ⟨hD,
      (hcalm.computed k).not.mpr (h.fresh hD hnone), .inl ((hdir D).trans hnone)⟩, fun _ => hdir _⟩
  -- a generation that begins has no records
  have hempty D : c.directory D = none := (hdir D).trans (hgeneration hnew D)
  refine ⟨⟨h.safe.functional, fun {D} _ _ _ hsome => ?_⟩, fun {D} hcomputed => ?_,
    fun {D k} hD _ => ⟨hD, ?_, .inl (hempty D)⟩, fun _ => hdir _⟩
  · rw [hempty] at hsome
    cases hsome
  · obtain ⟨k, hsome, -⟩ := hcomputed
    rw [hgeneration hnew] at hsome
    cases hsome
  · rw [hcalm.computed, core_resetKvGeneration]
    rintro ⟨e, hrec, -⟩
    cases hrec

end Selected

theorem buildHostKvBlockTable_proceeds (h : s.Owned) (packet : WorkControlPacket)
    (config : WorkControlConfig) (hgeneration : s.controlGeneration < packet.controlGeneration →
      ∀ D, s.core.directory D = none) (hrevocable : s.Revocable packet) :
    let s' := finalState (buildHostKvBlockTable packet config s)
    KvCore.Proceeds (s.Wants packet) s.core s'.core ∧
      ((∀ D, s'.core.directory D = s.core.directory D) ∨ s'.Settleable packet config) := by
  refine wp_finalState (R := fun s' : KvState W =>
    KvCore.Proceeds (s.Wants packet) s.core s'.core ∧
    ((∀ D, s'.core.directory D = s.core.directory D) ∨ s'.Settleable packet config))
    (buildHostKvBlockTable_wp packet config (fun _ _ => ⟨?_, .inl fun _ => rfl⟩)
      (fun _ t hselected _ => ⟨hrevocable.proceeds hselected hgeneration (.refl _),
        .inl (hselected.directory hgeneration)⟩) fun t hvalid hselected hroom => ?_)
  · exact ⟨hrevocable.safe, id, fun hD hnone => ⟨hD, hrevocable.fresh hD hnone, .inl hnone⟩,
      fun _ => rfl⟩
  have hwants {laneIndex blk} hlane hblk : s.Wants packet _ (t.kvBlockKeyOf packet laneIndex blk) :=
    hselected.wants ▸ t.wants_block hlane hblk
  have hvalid' := hvalid.selected hselected
  refine wp_post (kvBuildBlocks_wp (hselected.follows h).1 hvalid' hroom
      (fun _ v => KvCore.Proceeds (s.Wants packet) s.core v.core)
      (hrevocable.proceeds hselected hgeneration (calm_kvStartEpoch hvalid'))
      (fun _ hlength h => core_tabulated rfl hlength ▸ h) ?builds ?fails)
    fun _ s' h => ⟨h.2.2, .inr (hselected.settleable hvalid hroom h.1 h.2.1)⟩
  case builds =>
    rintro rest v s' laneIndex blk hlane hblk hv - hproceeds hbuilds - howned -
    exact hproceeds.turn hbuilds.turn hv.sound (hwants hlane hblk) fun _ hopen =>
      hbuilds.open hv howned hproceeds.safe hblk hopen
  case fails =>
    rintro rest v s' error laneIndex blk hlane hblk hv hsetting hproceeds hfails - howned
    rcases hfails.turn with hsweeps | hturn
    · exact ⟨hproceeds.sweeps hsweeps hv.sound, .inr (hselected.settleable hvalid hroom howned
        (hsweeps.sweptFrom.setting.trans hsetting))⟩
    · refine ⟨hproceeds.turn hturn hv.sound (hwants hlane hblk) fun hnone hopen => ?_,
        .inr (hselected.settleable hvalid hroom howned (hturn.setting.trans hsetting))⟩
      refine hfails.open hv hproceeds.safe hopen ?_
      by_contra hdecode
      rw [not_or, not_not] at hdecode
      exact hrevocable.ready (Bool.eq_false_iff.mpr hdecode.1) laneIndex hlane blk hdecode.2 hnone

end KvState

namespace KvOp

variable {W : SwapHooks} {s : KvState W} {D : KvKey} {ops : List (KvOp W)}

/-- The operation marks the record of a directory key as resident. -/
def Settles (D : KvKey) (s : KvState W) (op : KvOp W) : Prop :=
  match op with
  | .commitHostKvBlockTable packet _ => ∃ D' k,
      KvState.laneKeys packet packet.activeSequenceCount D' ∧ s.core.directory D' = some k ∧
      s.core.directory D = some k
  | _ => False

theorem exec_directory (op : KvOp W) (hs : s.Owned) (hmoves : ¬op.Moves D s)
    (hends : ¬op.Ends D s) : (op.exec s).core.directory D = s.core.directory D := by
  refine Evolves.invariant (I := fun c => c.directory D = s.core.directory D) ?_
    (op.exec_follows s hs).2 rfl
  rintro c event c' hdir hevent hstep
  obtain ⟨hplace, hremove, hreset⟩ := harmless_of_allows hmoves hends hevent
  exact (hstep.directory_eq hplace hremove hreset).trans hdir

theorem exec_inFlight (op : KvOp W) (hs : s.Owned) (hmoves : ¬op.Moves D s) (hends : ¬op.Ends D s)
    (hsettles : ¬op.Settles D s) (h : s.core.InState D .inFlight) :
    (op.exec s).core.InState D .inFlight := by
  -- a commit does not change what is named
  refine (hs.sound.invariant (I := fun c => c.InState D .inFlight ∧
    ((∃ packet config, op = .commitHostKvBlockTable packet config) →
      ∀ D', c.directory D' = s.core.directory D')) (op.exec_follows s hs).2 ?_
    ⟨h, fun _ _ => rfl⟩).1
  rintro c event c' hsound ⟨hflight, hnames⟩ hevent hstep
  obtain ⟨hplace, hremove, hreset⟩ := harmless_of_allows hmoves hends hevent
  refine ⟨hstep.inFlight hsound hflight hplace hremove hreset ?_, ?_⟩
  · rintro k hdir rfl
    obtain ⟨packet, config, D', rfl, hD', hdir'⟩ :=
      (causes_of_allows hevent).settle rfl
    have hnames := hnames ⟨packet, config, rfl⟩
    exact hsettles ⟨D', k, hD', (hnames D').symm.trans hdir', (hnames D).symm.trans hdir⟩
  · rintro ⟨packet, config, rfl⟩ D'
    refine Eq.trans ?_ (hnames ⟨packet, config, rfl⟩ D')
    obtain ⟨D₁, k, -, -, rfl | rfl⟩ := hevent <;>
      exact hstep.directory_eq (by simp) (by simp) (by simp)

theorem exec_present (op : KvOp W) (hs : s.Owned) (hends : ¬op.Ends D s)
    (h : s.core.directory D ≠ none) : (op.exec s).core.directory D ≠ none := by
  by_cases hmoves : op.Moves D s
  · obtain ⟨packet, config, rfl⟩ := build_of_moves hmoves
    refine Evolves.invariant (I := fun c => c.directory D ≠ none) ?_ (exec_follows _ s hs).2 h
    rintro c event c' hdir hevent hstep
    by_cases hplace : ∃ k, event = .place D k
    · obtain ⟨k, rfl⟩ := hplace
      rw [hstep.directory_of_place.1]
      exact Option.some_ne_none k
    · have hother : event ≠ .remove D ∧ event ≠ .reset := by
        have hcause := causes_of_allows hevent
        exact ⟨fun h => hcause.remove h, fun h => hends (.inl (hcause.reset h))⟩
      rw [hstep.directory_eq (fun k heq => hplace ⟨k, heq⟩) hother.1 hother.2]
      exact hdir
  · rw [op.exec_directory hs hmoves hends]
    exact h

theorem run_present (hends : Along exec (fun s op => ¬op.Ends D s) s ops) (hs : s.Owned)
    (h : s.core.directory D ≠ none) :
    (runAll exec s ops).core.directory D ≠ none ∧ (runAll exec s ops).outline = s.outline := by
  refine run_invariant (I := fun t => t.core.directory D ≠ none ∧ t.outline = s.outline)
    (fun {t op} ht hends ⟨hdir, houtline⟩ => ?_) hends hs ⟨h, rfl⟩
  exact ⟨op.exec_present ht hends hdir,
    (op.exec_outline ht hdir fun hnew => hends (.inl hnew)).trans houtline⟩

/-- The operation neither moves nor ends the block of a directory key. -/
def Spares (D : KvKey) (s : KvState W) (op : KvOp W) : Prop := ¬op.Moves D s ∧ ¬op.Ends D s

theorem run_directory (hspares : Along exec (fun s op => op.Spares D s) s ops) (hs : s.Owned) :
    (runAll exec s ops).core.directory D = s.core.directory D :=
  run_invariant (fun ht hop hdir => (exec_directory _ ht hop.1 hop.2).trans hdir) hspares hs rfl

theorem run_computed (hspares : Along exec (fun s op => op.Spares D s) s ops) (hs : s.Owned)
    (h : s.core.Computed D) : (runAll exec s ops).core.Computed D :=
  run_invariant
    (fun ht hop hcomputed => exec_computed_of_ne _ ht hop.1 hop.2 hcomputed) hspares hs h

theorem run_inFlight
    (hspares : Along exec (fun s op => op.Spares D s ∧ ¬op.Settles D s) s ops) (hs : s.Owned)
    (h : s.core.InState D .inFlight) : (runAll exec s ops).core.InState D .inFlight :=
  run_invariant
    (fun ht hop hflight => exec_inFlight _ ht hop.1.1 hop.1.2 hop.2 hflight) hspares hs h

end KvOp

namespace KvState

variable {W : SwapHooks} {s s' : KvState W} {D : KvKey} {packet : WorkControlPacket}
  {config : WorkControlConfig}

theorem settlesGeneration_wp (h : s.Settleable packet config) :
    wp (settlesGeneration packet config) (fun _ t => t = s) (fun _ _ => False) s := by
  rw [settlesGeneration, wp_bind, wp_validateKvState_of h.valid, wp_read]
  exact wp_ite.mpr ⟨fun hne => absurd h.current hne, fun _ => rfl⟩

/-- Blocks of the packet that were in flight are gone, the others where they were. -/
structure Cancels (packet : WorkControlPacket) (s s' : KvState W) : Prop where
  owned : s'.Owned
  gone : ∀ {D}, s'.core.directory D ≠ s.core.directory D →
    laneKeys packet packet.activeSequenceCount D ∧ s.core.InState D .inFlight ∧
      s'.core.directory D = none
  inFlight : ∀ {D}, s'.core.InState D .inFlight → s.core.InState D .inFlight
  stays : ∀ {D state}, s.core.InState D state → s'.core.directory D = none ∨ s'.core.InState D state
  bound : ∀ {D}, s'.core.Bound D → s.core.Bound D

/-- No more blocks are in flight than before. -/
def Settling (s s' : KvState W) : Prop :=
  ∀ D, s'.core.InState D .inFlight → s.core.InState D .inFlight

instance : IsFrame (Settling : KvState W → KvState W → Prop) where
  refl _ _ h := h
  trans h h' D hD := h D (h' D hD)

theorem Cancels.step {t : KvState W} (h : Cancels packet s t) (hs' : s'.Owned)
    (hD : laneKeys packet packet.activeSequenceCount D) (hflight : t.core.InState D .inFlight)
    (hstep : t.core.Step (.remove D) s'.core) : Cancels packet s s' := by
  obtain ⟨hnone, hother, hfrom, hto, hbound⟩ := hstep.of_remove h.owned.sound
  refine ⟨hs', fun {D'} hne => ?_, fun hD' => h.inFlight (hfrom _ _ hD'), fun {D' state} hD' => ?_,
    fun hD' => h.bound (hbound _ hD')⟩
  · by_cases hD' : D' = D
    · subst hD'
      exact ⟨hD, h.inFlight hflight, hnone⟩
    · rw [hother D' hD'] at hne ⊢
      exact h.gone hne
  · by_cases hne : D' = D
    · exact .inl (hne ▸ hnone)
    · rw [hother D' hne]
      exact (h.stays hD').imp id (hto _ _ hne)

theorem cancelHostKvBlockTable_wp (h : s.Owned) (hready : s.Settleable packet config)
    (hpins : ∀ D, laneKeys packet packet.activeSequenceCount D → s.core.InState D .inFlight →
      ¬s.core.Bound D) :
    wp (cancelHostKvBlockTable packet config) (fun _ s' => Cancels packet s s' ∧
        ∀ D, laneKeys packet packet.activeSequenceCount D → ¬s'.core.InState D .inFlight)
      (fun _ _ => False) s := by
  rw [cancelHostKvBlockTable, wp_bind]
  refine wp_post (settlesGeneration_wp hready) ?_
  rintro _ _ rfl
  rename_i t
  refine wp_post (forPacketBlocks_wp (Cancels packet t) Settling
    (fun D s' => ¬s'.core.InState D .inFlight) (fun hsettling hD hD' => hD (hsettling _ hD'))
    ⟨h, fun hne => absurd rfl hne, id, .inr, id⟩ ?unfit ?step) fun _ _ h => ⟨h.1, h.2.2⟩
  case unfit =>
    intro laneIndex hlane hunfit
    rw [hready.fits laneIndex hlane] at hunfit
    cases hunfit
  case step =>
    intro laneIndex hlane blk hblk u hu
    have hD : laneKeys packet packet.activeSequenceCount
      (privateKey (packet.lane laneIndex).sequenceId blk) := ⟨laneIndex, hlane, blk, hblk, rfl⟩
    refine wp_mono (cancelBlock_wp hu.owned _ _ rfl) ?_ ?_
    · rintro _ s' (⟨rfl, hsettled⟩ | ⟨howned, hflight, hstep⟩)
      · exact ⟨hu, IsFrame.refl _, hsettled⟩
      · obtain ⟨hnone, -, hfrom, -⟩ := hstep.of_remove hu.owned.sound
        refine ⟨hu.step howned hD hflight hstep, fun _ => hfrom _ _, ?_⟩
        rintro ⟨k, e, hdir, -⟩
        rw [hnone] at hdir
        cases hdir
    · rintro error s' ⟨-, -, hflight, k, e, hdir, hrec, -, hgpu, hpin⟩
      exact hpins _ hD (hu.inFlight hflight) (hu.bound ⟨k, e, hdir, hrec, hgpu, hpin⟩)

theorem lane_mem_usedLanes {laneIndex : Nat} (hlane : laneIndex < packet.laneCount)
    (hfits : laneFits packet laneIndex) :
    (packet.lane laneIndex, laneIndex) ∈ packet.usedLanes.zipIdx := by
  rw [List.mk_mem_zipIdx_iff_getElem?, WorkControlPacket.usedLanes, List.getElem?_take_of_lt hlane]
  cases hget : packet.lanes[laneIndex]? with
  | some => simp [WorkControlPacket.lane, hget]
  | none =>
    -- a lane beyond the table has no blocks
    simp [laneFits, laneBlockCount, WorkControlPacket.lane, hget, blockCount] at hfits

/-- No lane of the packet ends where the words wrap around to zero. -/
def EndsInRange (packet : WorkControlPacket) : Prop :=
  ∀ laneIndex < packet.activeSequenceCount,
    ((packet.lane laneIndex).sequencePosition + writtenPositionCount packet) % 2 ^ 64 ≠ 0

instance (packet : WorkControlPacket) : Decidable (EndsInRange packet) :=
  inferInstanceAs (Decidable (∀ laneIndex < packet.activeSequenceCount, _))

theorem Settleable.writes (h : s.Settleable packet config)
    (hrelease : packet.releasesSequences = false) :
    packet.activeSequenceCount ≠ 0 ∧ writtenPositionCount packet ≠ 0 ∧
      ∀ laneIndex < packet.activeSequenceCount,
        ((packet.lane laneIndex).sequencePosition + writtenPositionCount packet) % 2 ^ 64 ≤
          (packet.lane laneIndex).contextTokenCount := by
  have hrows := executesRows_of_validatePacket h.valid.valid hrelease
  refine ⟨hrows.activeSequenceCount_ne, ?_, fun laneIndex hlane => ?_⟩
  · rw [writtenPositionCount]
    split_ifs <;> simp [hrows.newTokenCount_ne]
  · have hvalid := hrows.lane_valid _ _
      (lane_mem_usedLanes (hrows.laneCount ▸ hlane) (h.fits _ hlane))
    simp only [laneIsValid, Bool.and_eq_true, decide_eq_true_eq] at hvalid
    exact hvalid.1.1.1.1.1.1.2

theorem commitHostKvBlockTable_succeeds (h : s.Owned) (hready : s.Settleable packet config)
    (hrelease : packet.releasesSequences = false) (hends : EndsInRange packet)
    (hdevice : ∀ D, laneKeys packet packet.activeSequenceCount D → s.core.OnDevice D) :
    wp (commitHostKvBlockTable packet config) (fun _ _ => True) (fun _ _ => False) s := by
  obtain ⟨-, hwritten, hwrites⟩ := hready.writes hrelease
  rw [commitHostKvBlockTable, markTable, wp_bind, wp_bind]
  refine wp_post (settlesGeneration_wp hready) ?_
  rintro _ _ rfl
  rename_i t
  -- marking blocks and invalidating copies leaves every block on the device
  have hkept : t.Owned ∧ ∀ D, laneKeys packet packet.activeSequenceCount D → t.core.OnDevice D :=
    ⟨h, hdevice⟩
  refine wp_post (forPacketBlocks_wp (fun u => u.Owned ∧
    ∀ D, laneKeys packet packet.activeSequenceCount D → u.core.OnDevice D) KeepsResident
    (fun _ _ => True) (fun _ h => h) hkept ?unfit ?step) ?_
  case unfit =>
    intro laneIndex hlane hunfit
    rw [hready.fits laneIndex hlane] at hunfit
    cases hunfit
  case step =>
    rintro laneIndex hlane blk hblk u ⟨hu, hon⟩
    refine wp_mono (markBlock_wp hu _ _ rfl) ?_ ?_
    · rintro _ s' ⟨howned, k, e, -, -, -, hcore⟩
      refine ⟨⟨howned, fun D hD => ?_⟩, .of_setBlock hcore rfl, trivial⟩
      rw [hcore]
      exact hon D hD
    · rintro error s' ⟨-, hoff⟩
      exact hoff (hon _ ⟨laneIndex, hlane, blk, hblk, rfl⟩)
  rintro _ u ⟨hu, -⟩
  rw [if_neg hwritten]
  refine wp_post (wp_forM (fun u => u.Owned ∧
    ∀ D, laneKeys packet packet.activeSequenceCount D → u.core.OnDevice D) hu ?_)
    fun _ _ _ => trivial
  rintro laneIndex hlane v hv
  have hend : writeEndToken packet (packet.lane laneIndex) <
      (packet.lane laneIndex).contextTokenCount := by
    have hwrites := hwrites laneIndex (List.mem_range.mp hlane)
    have hends := hends laneIndex (List.mem_range.mp hlane)
    unfold writeEndToken
    omega
  refine wp_ite.mpr ⟨fun hpast => absurd hend (not_lt.mpr hpast), fun hfits => wp_forM _ hv ?_⟩
  rintro blk hblk w ⟨hw, hon⟩
  have hD : laneKeys packet packet.activeSequenceCount
      (privateKey (packet.lane laneIndex).sequenceId blk) :=
    ⟨laneIndex, List.mem_range.mp hlane, blk, lt_laneBlockCount_of_mem_writtenBlocks
      (not_le.mp hfits) hblk hready.valid.blockTokenCount_ne, rfl⟩
  refine wp_post (invalidateBacking_wp hw _ _ rfl (hon _ hD)) ?_
  rintro _ s' ⟨howned, k, e, hdir, hrec, hgpu, hcore⟩
  refine ⟨howned, fun D hD => ?_⟩
  obtain ⟨k', e', hdir', hrec', hgpu'⟩ := hon D hD
  rw [hcore]
  by_cases hk : k' = k
  · subst hk
    exact ⟨k', e.withBacking false, hdir', by simp, hgpu⟩
  · exact ⟨k', e', hdir', by simpa [hk] using hrec', hgpu'⟩

theorem buildHostKvBlockTable_present (h : s.Owned) (packet : WorkControlPacket)
    (config : WorkControlConfig) :
    wp (buildHostKvBlockTable packet config) (fun _ s' => s'.Settleable packet config ∧
        ∀ D, laneKeys packet packet.activeSequenceCount D → s'.core.directory D ≠ none)
      (fun _ _ => True) s := by
  refine buildHostKvBlockTable_wp packet config (fun _ _ => trivial) (fun _ _ _ _ => trivial)
    fun t hvalid hselected hroom => ?_
  -- the blocks that are left to be built may be missing
  refine wp_post (kvBuildBlocks_wp (hselected.follows h).1 (hvalid.selected hselected) hroom
      (fun rest v => ∀ laneIndex < packet.activeSequenceCount,
      ∀ blk < laneBlockCount packet (packet.lane laneIndex), (laneIndex, blk) ∈ rest ∨
        v.core.directory (privateKey (packet.lane laneIndex).sequenceId blk) ≠ none)
      (fun laneIndex hlane blk hblk => .inl (mem_packetBlocks.mpr ⟨hlane, hblk⟩))
      (fun _ hlength h => core_tabulated rfl hlength ▸ h)
      ?builds fun _ _ _ _ _ _ _ _ _ _ => trivial) ?_
  case builds =>
    intro rest v s' laneIndex blk hlane hblk hv _ hI hbuilds _ _ _ laneIndex' hlane' blk' hblk'
    by_cases hD : privateKey (packet.lane laneIndex').sequenceId blk' =
        privateKey (packet.lane laneIndex).sequenceId blk
    · rw [hD]
      exact .inr hbuilds.present
    · rw [hbuilds.turn.directory_of_ne hv.sound hD]
      refine (hI laneIndex' hlane' blk' hblk').imp (fun hmem => ?_) id
      refine (List.mem_cons.mp hmem).resolve_left fun heq => hD ?_
      obtain ⟨rfl, rfl⟩ := Prod.mk.inj heq
      rfl
  rintro _ s' ⟨howned, hsetting, hpresent⟩
  refine ⟨hselected.settleable hvalid hroom howned hsetting, ?_⟩
  rintro D ⟨laneIndex, hlane, blk, hblk, rfl⟩
  exact (hpresent laneIndex hlane blk hblk).resolve_left List.not_mem_nil

theorem cancelHostKvBlockTable_takesBack (h : s.Owned) (packet : WorkControlPacket)
    (config : WorkControlConfig) (hready : ∀ D,
      laneKeys packet packet.activeSequenceCount D → s.core.InState D .inFlight →
      ¬s.core.Bound D ∧ s.Settleable packet config) :
    let s' := finalState (cancelHostKvBlockTable packet config s)
    Cancels packet s s' ∧ ∀ D, laneKeys packet packet.activeSequenceCount D →
      s.core.InState D .inFlight → s'.core.directory D = none := by
  intro s'
  by_cases hflight : ∃ D, laneKeys packet packet.activeSequenceCount D ∧ s.core.InState D .inFlight
  · obtain ⟨D₀, hD₀, hflight₀⟩ := hflight
    obtain ⟨hcancels, hnone⟩ := wp_finalState (wp_total (cancelHostKvBlockTable_wp h
      (hready D₀ hD₀ hflight₀).2 fun D hD hflight => (hready D hD hflight).1) fun _ _ h => h)
    exact ⟨hcancels, fun D hD hflight => (hcancels.stays hflight).resolve_right (hnone D hD)⟩
  -- nothing is given back
  obtain ⟨howned, hevolves⟩ := (KvOp.cancelHostKvBlockTable packet config).exec_follows s h
  have hcore : s'.core = s.core := by
    refine Evolves.invariant (I := fun c => c = s.core) ?_ hevolves rfl
    rintro c event c' rfl ⟨D, hD, hinFlight, -⟩ -
    exact absurd ⟨D, hD, hinFlight⟩ hflight
  refine ⟨⟨howned, fun hne => absurd (by rw [hcore]) hne, ?_, ?_, ?_⟩, fun D hD hinFlight =>
    absurd ⟨D, hD, hinFlight⟩ hflight⟩
  · rw [hcore]
    exact id
  · rw [hcore]
    exact .inr
  · rw [hcore]
    exact id

end KvState

open KvState

variable {W : SwapHooks}

theorem KvState.Revocable.cancels {s s₁ s₂ : KvState W} {p : WorkControlPacket}
    {config : WorkControlConfig} {between : List (KvOp W)} (hrevocable : s.Revocable p)
    (hs : s.Owned)
    (hgeneration : s.controlGeneration < p.controlGeneration → ∀ D, s.core.directory D = none)
    (hbuild : s₁ = (KvOp.buildHostKvBlockTable p config).exec s)
    (hrun : s₂ = runAll KvOp.exec s₁ between)
    (hbetween : ∀ D, laneKeys p p.activeSequenceCount D →
      Along KvOp.exec (fun s op => op.Spares D s ∧ ¬op.Settles D s) s₁ between)
    (hpins : ∀ D, laneKeys p p.activeSequenceCount D →
      s₂.core.InState D .inFlight → ¬s₂.core.Bound D) :
    let s₃ := (KvOp.cancelHostKvBlockTable p config).exec s₂
    Cancels p s₂ s₃ ∧ (∀ D, laneKeys p p.activeSequenceCount D →
      (s.core.directory D ≠ none → s₂.core.Computed D) ∧
        (s.core.directory D = none → s₃.core.directory D = none)) ∧
      ∀ D, ¬laneKeys p p.activeSequenceCount D → s₁.core.directory D = s.core.directory D := by
  subst hrun hbuild
  set s₁ := (KvOp.buildHostKvBlockTable p config).exec s
  set s₂ := runAll KvOp.exec s₁ between
  obtain ⟨hproceeds, hbuilt⟩ := buildHostKvBlockTable_proceeds hs p config hgeneration hrevocable
  have hs₁ : s₁.Owned := (KvOp.exec_follows _ s hs).1
  have hs₂ : s₂.Owned := KvOp.run_owned hs₁ between
  have hspares {D} hD : Along KvOp.exec (fun s op => op.Spares D s) s₁ between :=
    (hbetween D hD).mono fun _ _ h => h.1
  have hwants {D} (hD : laneKeys p p.activeSequenceCount D) : ∃ k, s.Wants p D k := by
    obtain ⟨laneIndex, hlane, blk, hblk, rfl⟩ := hD
    exact ⟨_, laneIndex, hlane, blk, hblk, rfl, rfl⟩
  have hcomputed {D} (hD : laneKeys p p.activeSequenceCount D)
      (hheld : s.core.directory D ≠ none) : s₂.core.Computed D := by
    obtain ⟨k, hwant⟩ := hwants hD
    exact KvOp.run_computed (hspares hD) hs₁ (hproceeds.computed (hrevocable.held hwant hheld))
  -- a block that was not there is still not there, or in flight
  have hfresh {D} (hD : laneKeys p p.activeSequenceCount D) (hnone : s.core.directory D = none) :
      s₂.core.directory D = none ∨ s₂.core.InState D .inFlight := by
    obtain ⟨k, hwant⟩ := hwants hD
    rw [KvOp.run_directory (hspares hD) hs₁]
    exact (hproceeds.fresh hwant hnone).2.2.imp id fun h =>
      KvOp.run_inFlight (hbetween D hD) hs₁ h.2
  have hcancels := cancelHostKvBlockTable_takesBack hs₂ p config fun D hD hflight => ?_
  · refine ⟨hcancels.1, fun D hD => ⟨hcomputed hD, fun hnone => ?_⟩, fun D hD =>
      hproceeds.other ?_⟩
    rotate_left
    · rintro k ⟨laneIndex, hlane, blk, hblk, rfl, -⟩
      exact hD ⟨laneIndex, hlane, blk, hblk, rfl⟩
    rcases hfresh hD hnone with hnone₂ | hflight
    · by_contra hsome
      exact hsome (hcancels.1.gone (hnone₂.symm ▸ hsome)).2.2
    · exact hcancels.2 D hD hflight
  -- what is in flight was built, so the packet was valid then and is valid now
  have hpresent : s₁.core.directory D ≠ none := by
    rw [← KvOp.run_directory (hspares hD) hs₁]
    obtain ⟨k, e, hdir, -⟩ := hflight
    exact hdir.symm ▸ Option.some_ne_none k
  have hready : s₁.Settleable p config := hbuilt.resolve_left fun hsame =>
    (hcomputed hD (hsame D ▸ hpresent)).not_inFlight hflight
  exact ⟨hpins D hD hflight, hready.of_outline hs₂
    (KvOp.run_present ((hspares hD).mono fun _ _ h => h.2) hs₁ hpresent).2⟩

/-- A cancel undoes its build, if the blocks of the packet that were there are computed: a block is
in the directory after it exactly if it was there before the build, and a packet that was built
before can still be committed. -/
theorem cancel_undoes_build {W : SwapHooks} {laneCapacity laneStride blockTokenCount
    physicalBlockCapacity directoryCapacity blockEntryCapacity : UInt32} {s₀ : KvState W}
    (hnew : KvState.new laneCapacity laneStride blockTokenCount physicalBlockCapacity
      directoryCapacity blockEntryCapacity = .ok s₀)
    {ops between : List (KvOp W)} {p : WorkControlPacket} {config : WorkControlConfig}
    (hgeneration : (runAll KvOp.exec s₀ ops).controlGeneration < p.controlGeneration →
      ∀ D, (runAll KvOp.exec s₀ ops).core.directory D = none)
    (hrevocable : (runAll KvOp.exec s₀ ops).Revocable p)
    (hbetween : ∀ D, laneKeys p p.activeSequenceCount D →
      Along KvOp.exec (fun s op => op.Spares D s ∧ ¬op.Settles D s)
        (runAll KvOp.exec s₀ (ops ++ [.buildHostKvBlockTable p config])) between)
    (hpins : ∀ D, laneKeys p p.activeSequenceCount D →
      let t := runAll KvOp.exec s₀ (ops ++ .buildHostKvBlockTable p config :: between)
      t.core.InState D .inFlight → ¬t.core.Bound D) :
    let s := runAll KvOp.exec s₀ ops
    let s₁ := runAll KvOp.exec s₀ (ops ++ [.buildHostKvBlockTable p config])
    let s₂ := runAll KvOp.exec s₀ (ops ++ .buildHostKvBlockTable p config :: between)
    let s₃ := (KvOp.cancelHostKvBlockTable p config).exec s₂
    (∀ D, Along KvOp.exec (fun s op => op.Spares D s) s₁ between →
      (s₃.core.directory D ≠ none ↔ s.core.directory D ≠ none)) ∧
    ∀ (earlier since : List (KvOp W)) (q : WorkControlPacket) (config' : WorkControlConfig),
      ops = earlier ++ .buildHostKvBlockTable q config' :: since →
      succeeds (buildHostKvBlockTable q config' (runAll KvOp.exec s₀ earlier)) = true →
      q.releasesSequences = false → EndsInRange q →
      (∀ D, laneKeys q q.activeSequenceCount D → Along KvOp.exec (fun s op => ¬op.Ends D s)
          (runAll KvOp.exec s₀ (earlier ++ [.buildHostKvBlockTable q config'])) since ∧
        Along KvOp.exec (fun s op => ¬op.Ends D s) s₁ between ∧ s₂.core.OnDevice D) →
      succeeds (commitHostKvBlockTable q config' s₃) = true := by
  intro s s₁ s₂ s₃
  have hs : s.Owned := KvOp.run_owned (owned_of_new hnew) ops
  have hs₁ : s₁ = (KvOp.buildHostKvBlockTable p config).exec s := runAll_concat ..
  have hs₂ : s₂ = runAll KvOp.exec s₁ between := by
    rw [hs₁]
    exact runAll_append ..
  have hbuild : s₁.Owned := hs₁ ▸ (KvOp.exec_follows _ s hs).1
  obtain ⟨hcancels, hblocks, hothers⟩ := hrevocable.cancels hs hgeneration hs₁ hs₂ hbetween hpins
  -- the cancel takes nothing back that was there before the build
  have hkept {D} (hheld : s.core.directory D ≠ none) :
      s₃.core.directory D = s₂.core.directory D := by
    by_contra hne
    obtain ⟨hD, hflight, -⟩ := hcancels.gone hne
    exact ((hblocks D hD).1 hheld).not_inFlight hflight
  refine ⟨fun D hspares => ?_, fun earlier since q config' hops hsucceeds hrelease hends hq => ?_⟩
  · by_cases hD : laneKeys p p.activeSequenceCount D
    · refine ⟨mt (hblocks D hD).2, fun hheld => ?_⟩
      rw [hkept hheld]
      obtain ⟨k, hdir, -⟩ := (hblocks D hD).1 hheld
      exact hdir.symm ▸ Option.some_ne_none k
    have hcancel : s₃.core.directory D = s₂.core.directory D := by
      by_contra hne
      exact hD (hcancels.gone hne).1
    rw [hcancel, hs₂, KvOp.run_directory hspares hbuild, hothers D hD]
  · -- the packet is valid, and its blocks are there, from its build on
    set t := runAll KvOp.exec s₀ earlier with ht
    set u := (KvOp.buildHostKvBlockTable q config').exec t with hu
    have ht' : t.Owned := KvOp.run_owned (owned_of_new hnew) earlier
    have hu' : u.Owned := (KvOp.exec_follows _ t ht').1
    have hsplit : runAll KvOp.exec s₀ (earlier ++ [.buildHostKvBlockTable q config']) = u :=
      runAll_concat ..
    have hsince : s = runAll KvOp.exec u since := by
      show runAll KvOp.exec s₀ ops = _
      rw [hops]
      exact runAll_append ..
    rw [hsplit] at hq
    obtain ⟨hready, hpresent⟩ : u.Settleable q config' ∧
        ∀ D, laneKeys q q.activeSequenceCount D → u.core.directory D ≠ none :=
      wp_of_succeeds (buildHostKvBlockTable_present ht' q config') hsucceeds
    have hheld {D} (hD : laneKeys q q.activeSequenceCount D) :
        s.core.directory D ≠ none ∧ s.outline = u.outline :=
      hsince ▸ KvOp.run_present (hq D hD).1 hu' (hpresent D hD)
    have houtline : s₃.outline = u.outline := by
      obtain ⟨hactive, -⟩ := hready.writes hrelease
      have hlane := Nat.pos_of_ne_zero hactive
      have hblk : 0 < laneBlockCount q (q.lane 0) := by
        have hfits := hready.fits 0 hlane
        rw [laneFits, Bool.and_eq_true, decide_eq_true_eq] at hfits
        exact Nat.pos_of_ne_zero hfits.1
      have hD : laneKeys q q.activeSequenceCount (privateKey (q.lane 0).sequenceId 0) :=
        ⟨0, hlane, 0, hblk, rfl⟩
      -- a block is there, so no generation begins
      have hgeneration : ¬s.controlGeneration < p.controlGeneration := fun hnew =>
        (hheld hD).1 (hgeneration hnew _)
      have hbuilt : s₁.outline = s.outline :=
        hs₁ ▸ (KvOp.buildHostKvBlockTable p config).exec_outline_of_ne hs (by simp) hgeneration
      have hpresent₁ : s₁.core.directory (privateKey (q.lane 0).sequenceId 0) ≠ none := by
        rw [hs₁]
        refine KvOp.exec_present _ hs ?_ (hheld hD).1
        rintro (hnew | hdrops)
        · exact hgeneration hnew
        · exact hdrops
      calc s₃.outline
        _ = s₂.outline := (KvOp.cancelHostKvBlockTable p config).exec_outline_of_ne
          (hs₂ ▸ KvOp.run_owned hbuild between) (by simp) id
        _ = s₁.outline := hs₂ ▸ (KvOp.run_present (hq _ hD).2.1 hbuild hpresent₁).2
        _ = s.outline := hbuilt
        _ = u.outline := (hheld hD).2
    refine succeeds_of_wp (commitHostKvBlockTable_succeeds hcancels.owned
      (hready.of_outline hcancels.owned houtline) hrelease hends fun D hD => ?_)
    obtain ⟨k, e, hdir, hrec, hgpu⟩ := (hq D hD).2.2
    have hstays := hcancels.stays (D := D) ⟨k, e, hdir, hrec, hgpu, rfl⟩
    rw [hkept (hheld hD).1, hdir] at hstays
    exact KvState.InState.onDevice (hstays.resolve_left (Option.some_ne_none k))

/-- Cancelling the second chunk of a prompt takes back the first one too, which is in flight, and
the first one cannot be committed any more. -/
theorem cancel_takes_back_another_build : ∃ s₀ : KvState steadyHooks,
    KvState.new 16 4 4 8 16 16 = .ok s₀ ∧
    let q := smallPacket true 4 [smallLane 1 0 4]
    let p := smallPacket true 4 [smallLane 1 4 8]
    let s := (KvOp.buildHostKvBlockTable q smallConfig).exec s₀
    let s₁ := (KvOp.buildHostKvBlockTable p smallConfig).exec s
    let s₂ := (KvOp.cancelHostKvBlockTable p smallConfig).exec s₁
    succeeds (buildHostKvBlockTable q smallConfig s₀) = true ∧
    succeeds (buildHostKvBlockTable p smallConfig s) = true ∧
    succeeds (commitHostKvBlockTable q smallConfig s₁) = true ∧
    s.core.directory (privateKey 1 0) ≠ none ∧ s₂.core.directory (privateKey 1 0) = none ∧
    succeeds (commitHostKvBlockTable q smallConfig s₂) = false :=
  ⟨_, rfl, by decide +kernel, by decide +kernel, by decide +kernel, by decide +kernel,
    by decide +kernel, by decide +kernel⟩

/-- The first chunk of a prompt is computed and built again. -/
def rebuiltRun : List (KvOp steadyHooks) :=
  let q := smallPacket true 4 [smallLane 1 0 4]
  [.buildHostKvBlockTable q smallConfig, .commitHostKvBlockTable q smallConfig,
    .buildHostKvBlockTable q smallConfig]

def rebuiltState : KvState steadyHooks :=
  runAll KvOp.exec roomyState rebuiltRun

theorem revocable_rebuiltState : rebuiltState.Revocable (smallPacket true 4 [smallLane 1 4 8]) := by
  have hwants : ∀ D k, rebuiltState.Wants (smallPacket true 4 [smallLane 1 4 8]) D k →
      D = k ∧ (D = privateKey 1 0 ∨ D = privateKey 1 1) := by
    rintro D k ⟨laneIndex, hlane, blk, hblk, rfl, rfl⟩
    obtain rfl : laneIndex = 0 := Nat.lt_one_iff.mp hlane
    obtain rfl | rfl : blk = 0 ∨ blk = 1 := by
      have hblk : blk < 2 := hblk
      omega
    · decide +kernel
    · decide +kernel
  have hdir : rebuiltState.core.directory (privateKey 1 0) = some (privateKey 1 0) := by
    decide +kernel
  have hdir' : rebuiltState.core.directory (privateKey 1 1) = none := by decide +kernel
  have hrec' : rebuiltState.core.record (privateKey 1 1) = none := by decide +kernel
  have hcomputed : rebuiltState.core.Computed (privateKey 1 0) := by
    refine ⟨_, hdir, (rebuiltState.core.record (privateKey 1 0)).get (by decide +kernel),
      (Option.some_get _).symm, fun _ => by decide +kernel⟩
  refine ⟨⟨by grind, by grind⟩, fun hwant hheld => ?_, fun hwant hnone => ?_, ?_⟩
  · obtain ⟨rfl, rfl | rfl⟩ := hwants _ _ hwant
    · exact hcomputed
    · exact absurd hdir' hheld
  · obtain ⟨rfl, rfl | rfl⟩ := hwants _ _ hwant
    · cases hnone
    · rintro ⟨e, hrec, -⟩
      cases hrec
  · intro hdecode
    exact absurd hdecode (by decide +kernel)

theorem cancel_undoes_build_rebuilt :
    let q := smallPacket true 4 [smallLane 1 0 4]
    let p := smallPacket true 4 [smallLane 1 4 8]
    let s₁ := (KvOp.buildHostKvBlockTable p smallConfig).exec rebuiltState
    let s₂ := (KvOp.cancelHostKvBlockTable p smallConfig).exec s₁
    s₁.core.directory (privateKey 1 1) ≠ none ∧
    (s₂.core.directory (privateKey 1 1) ≠ none ↔
      rebuiltState.core.directory (privateKey 1 1) ≠ none) ∧
    succeeds (commitHostKvBlockTable q smallConfig s₂) = true := by
  intro q p s₁ s₂
  have hrun : runAll KvOp.exec roomyState
    (rebuiltRun ++ [.buildHostKvBlockTable p smallConfig]) = s₁ := runAll_concat ..
  have hundoes := @cancel_undoes_build _ _ _ _ _ _ _ _ new_roomyState rebuiltRun [] p smallConfig
    (fun hnew => absurd hnew (show ¬rebuiltState.controlGeneration < 1 by decide +kernel))
    revocable_rebuiltState
    (fun _ _ => trivial)
  rw [hrun] at hundoes
  obtain ⟨hpresent, hcommits⟩ := hundoes fun D _ _ hbound => by
    obtain ⟨k, e, -, -, -, hpin⟩ := hbound
    have hpins : s₁.core.setting.hasPins = false := by decide +kernel
    rw [KvCore.isPinned, hpins] at hpin
    cases hpin
  refine ⟨by decide +kernel, hpresent (privateKey 1 1) trivial,
    hcommits (rebuiltRun.take 2) [] q smallConfig rfl (by decide +kernel) (by decide +kernel)
      (by decide +kernel) ?_⟩
  rintro D ⟨laneIndex, hlane, blk, hblk, rfl⟩
  obtain rfl : laneIndex = 0 := Nat.lt_one_iff.mp hlane
  have hcount : laneBlockCount q (q.lane 0) = 1 := by decide +kernel
  rw [hcount] at hblk
  obtain rfl : blk = 0 := Nat.lt_one_iff.mp hblk
  refine ⟨trivial, trivial, privateKey 1 0, (s₁.core.record (privateKey 1 0)).get
    (by decide +kernel), ?_, (Option.some_get _).symm, ?_⟩
  · decide +kernel
  · decide +kernel

end SparkPipe
