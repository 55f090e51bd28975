import SparkPipe.Sched.WorkControl.Outline

/-!
# Collecting what is to be prefetched

A collection visits the blocks of its packets and takes every record that is in its backing slot,
and it marks what it takes so that a shared record is taken once. The mark is the number of the
collection in a word of 29 bits, and a record that was never taken has the mark zero. A collection
is therefore complete exactly if no record that it should take has its mark already, and the
collection whose number is a multiple of `2 ^ 29` takes no record that is new.
-/

open Program

namespace SparkPipe

open KvState WorkControl List

namespace KvCore

variable {mark : Nat} {c₀ c c' : KvCore} {done : List KvKey} {D k : KvKey} {e : KvBlockEntry}
  {entries : List KvPrefetchEntry}

/-- The entry of a record that a directory key names and that is due. -/
def Due (mark : Nat) (c : KvCore) (D : KvKey) (x : KvPrefetchEntry) : Prop :=
  c.directory D = some x.key ∧ ∃ e, c.record x.key = some e ∧ IsDue mark e ∧
    x.backingBlockIndex = e.backingBlockIndex

/-- The entries that were taken for the directory keys visited so far. -/
structure Gathered (mark : Nat) (c₀ : KvCore) (done : List KvKey)
    (entries : List KvPrefetchEntry) (c : KvCore) : Prop where
  setting : c.setting = c₀.setting
  directory : c.directory = c₀.directory
  record : ∀ k, c.record k = (c₀.record k).map fun e =>
    if k ∈ entries.map KvPrefetchEntry.key then e.marked mark else e
  nodup : (entries.map KvPrefetchEntry.key).Nodup
  mem_iff : ∀ x, x ∈ entries ↔ ∃ D ∈ done, c₀.Due mark D x

theorem gathered_nil (mark : Nat) (c : KvCore) : Gathered mark c [] [] c where
  setting := rfl
  directory := rfl
  record k := by simp
  nodup := nodup_nil
  mem_iff x := by simp

theorem Due.eq {D' : KvKey} {x y : KvPrefetchEntry} (hx : c.Due mark D x) (hy : c.Due mark D' y)
    (hkey : x.key = y.key) : x = y := by
  obtain ⟨-, e, hrec, -, hslot⟩ := hx
  obtain ⟨-, e', hrec', -, hslot'⟩ := hy
  rw [hkey, hrec'] at hrec
  cases hrec
  cases x
  cases y
  simp_all

theorem Gathered.skip (h : Gathered mark c₀ done entries c)
    (hskip : ∀ k e, c.directory D = some k → c.record k = some e → ¬IsDue mark e) :
    Gathered mark c₀ (done ++ [D]) entries c := by
  refine ⟨h.setting, h.directory, h.record, h.nodup, fun x => ⟨fun hx => ?_, ?_⟩⟩
  · obtain ⟨D', hD', hdue⟩ := (h.mem_iff x).mp hx
    exact ⟨D', mem_append_left _ hD', hdue⟩
  rintro ⟨D', hD', hdue⟩
  rcases mem_append.mp hD' with hold | hnew
  · exact (h.mem_iff x).mpr ⟨D', hold, hdue⟩
  obtain rfl := mem_singleton.mp hnew
  by_contra hx
  obtain ⟨hdir, e, hrec, hmark, -⟩ := id hdue
  refine hskip x.key e (h.directory ▸ hdir) ?_ hmark
  rw [h.record, hrec, Option.map_some, if_neg]
  intro hmem
  obtain ⟨y, hy, hkey⟩ := mem_map.mp hmem
  obtain ⟨D'', -, hdue'⟩ := (h.mem_iff y).mp hy
  exact hx (hdue'.eq hdue hkey ▸ hy)

theorem Gathered.take (h : Gathered mark c₀ done entries c) (hdir : c.directory D = some k)
    (hrec : c.record k = some e) (hdue : IsDue mark e)
    (hc' : c' = c.setRecord k (some (e.marked mark))) :
    Gathered mark c₀ (done ++ [D]) (entries ++ [⟨k, e.backingBlockIndex⟩]) c' := by
  subst hc'
  rw [h.directory] at hdir
  have hold := h.record k
  rw [hrec] at hold
  obtain ⟨e₀, hrec₀, heq⟩ := Option.map_eq_some_iff.mp hold.symm
  have hfresh : k ∉ entries.map KvPrefetchEntry.key := by
    intro hmem
    rw [if_pos hmem] at heq
    exact hdue.2.2 (heq ▸ rfl)
  rw [if_neg hfresh] at heq
  subst heq
  refine ⟨h.setting, h.directory, fun k' => ?_, ?_, fun x => ?_⟩
  · by_cases hk : k' = k
    · subst hk
      simp [hrec₀]
    · simp [hk, h.record k']
  · rw [map_append, nodup_append]
    exact ⟨h.nodup, nodup_singleton k, by grind⟩
  have hnew : c₀.Due mark D ⟨k, e₀.backingBlockIndex⟩ := ⟨hdir, e₀, hrec₀, hdue, rfl⟩
  rw [mem_append, h.mem_iff, mem_singleton]
  constructor
  · rintro (⟨D', hD', hx⟩ | rfl)
    · exact ⟨D', mem_append_left _ hD', hx⟩
    · exact ⟨D, by simp, hnew⟩
  · rintro ⟨D', hD', hx⟩
    rcases mem_append.mp hD' with hold | hlast
    · exact .inl ⟨D', hold, hx⟩
    · obtain rfl := mem_singleton.mp hlast
      exact .inr (hx.eq hnew (Option.some.inj (hx.1.symm.trans hdir)))

/-- More entries are due than there is room for. -/
def Overflows (mark capacity : Nat) (c : KvCore) (all : List KvKey) : Prop :=
  ∃ done entries c', done <+: all ∧ Gathered mark c done entries c' ∧ capacity < entries.length

end KvCore

namespace KvState

variable {W : SwapHooks} {mark capacity : Nat} {c₀ : KvCore} {config : WorkControlConfig}
  {packets : List WorkControlPacket} {all : List KvKey} {s : KvState W}

/-- The directory keys of some blocks of a packet. -/
def blockKeys (packet : WorkControlPacket) (blocks : List (Nat × Nat)) : List KvKey :=
  blocks.map fun block => privateKey (packet.lane block.1).sequenceId block.2

theorem collectBlocks_wp (packet : WorkControlPacket) :
    ∀ (blocks : List (Nat × Nat)) {done : List KvKey} {entries : List KvPrefetchEntry}
      {s : KvState W}, s.Owned → KvCore.Gathered mark c₀ done entries s.core →
      done ++ blockKeys packet blocks <+: all →
      wp (blocks.foldlM (collectBlock mark capacity packet) entries) (fun entries' s' => s'.Owned ∧
          KvCore.Gathered mark c₀ (done ++ blockKeys packet blocks) entries' s'.core)
        (fun _ _ => KvCore.Overflows mark capacity c₀ all) s
  | [], done, entries, s, hs, hgathered, _ => by
    rw [foldlM_nil]
    exact ⟨hs, by simpa [blockKeys] using hgathered⟩
  | block :: rest, done, entries, s, hs, hgathered, hall => by
    rw [blockKeys, map_cons, append_cons] at hall ⊢
    rw [foldlM_cons, wp_bind]
    refine wp_mono (collectBlock_wp hs mark capacity packet entries block rfl) ?_ ?_
    · rintro entries' t ⟨ht, ⟨rfl, rfl, hskip⟩ | ⟨k, e, htakes, rfl⟩⟩
      · exact collectBlocks_wp packet rest ht (hgathered.skip hskip) hall
      · exact collectBlocks_wp packet rest ht
          (hgathered.take htakes.directory htakes.record htakes.due htakes.core) hall
    · rintro error t ⟨-, hfull, k, e, htakes⟩
      refine ⟨_, _, _, (prefix_append _ _).trans hall,
        hgathered.take htakes.directory htakes.record htakes.due htakes.core, ?_⟩
      rw [length_append]
      exact Nat.lt_succ_of_le hfull

/-- The directory keys that a collection visits. -/
def collectedKeys (s : KvState W) (packets : List WorkControlPacket) : List KvKey :=
  packets.flatMap fun packet =>
    if packet.controlGeneration ≠ s.controlGeneration ∨ packet.releasesSequences then []
    else blockKeys packet (packetBlocks packet)

theorem collectPackets_wp {s₀ : KvState W} :
    ∀ (packets : List WorkControlPacket) {done : List KvKey} {entries : List KvPrefetchEntry}
      {s : KvState W}, (∀ packet ∈ packets, s₀.Validated packet config) → s.Owned →
      KvCore.Gathered mark s₀.core done entries s.core →
      done ++ s₀.collectedKeys packets <+: all →
      wp (packets.foldlM (collectPacket config mark capacity) entries) (fun entries' s' =>
          KvCore.Gathered mark s₀.core (done ++ s₀.collectedKeys packets) entries' s'.core)
        (fun _ _ => KvCore.Overflows mark capacity s₀.core all) s
  | [], done, entries, s, _, _, hgathered, _ => by
    rw [foldlM_nil]
    simpa [collectedKeys] using hgathered
  | packet :: rest, done, entries, s, hvalid, hs, hgathered, hall => by
    rw [collectedKeys, flatMap_cons, ← append_assoc] at hall ⊢
    have houtline := outline_of_setting hgathered.setting
    have hgeneration : s.controlGeneration = s₀.controlGeneration :=
      congrArg KvOutline.controlGeneration houtline
    rw [foldlM_cons, wp_bind, collectPacket, wp_bind,
      wp_validateKvState_of ((hvalid packet (.head _)).of_outline hs houtline), wp_read,
      hgeneration]
    refine wp_ite.mpr ⟨fun hskip => ?_, fun hvisit => ?_⟩
    · rw [if_pos hskip, append_nil] at hall ⊢
      exact collectPackets_wp rest (fun p hp => hvalid p (.tail _ hp)) hs hgathered hall
    · rw [if_neg hvisit] at hall ⊢
      refine wp_post (collectBlocks_wp packet _ hs hgathered
        ((prefix_append _ _).trans hall)) fun entries' t ht => ?_
      exact collectPackets_wp rest (fun p hp => hvalid p (.tail _ hp)) ht.1 ht.2 hall

/-- The entries of the records in backing slots that the packets name. -/
def IsPrefetchable (s : KvState W) (packets : List WorkControlPacket) (x : KvPrefetchEntry) :
    Prop :=
  ∃ packet ∈ packets, packet.controlGeneration = s.controlGeneration ∧
    packet.releasesSequences = false ∧ ∃ laneIndex < packet.activeSequenceCount,
    ∃ blk < laneBlockCount packet (packet.lane laneIndex),
      s.core.directory (privateKey (packet.lane laneIndex).sequenceId blk) = some x.key ∧
      ∃ e, s.core.record x.key = some e ∧ e.residencyState = .nvme ∧ e.backingValid ∧
        x.backingBlockIndex = e.backingBlockIndex

theorem due_iff {x : KvPrefetchEntry} :
    (∃ D ∈ s.collectedKeys packets, s.core.Due mark D x) ↔ s.IsPrefetchable packets x ∧
      ∀ e, s.core.record x.key = some e → e.prefetchMark ≠ mark := by
  constructor
  · rintro ⟨D, hD, hdir, e, hrec, ⟨hnvme, hvalid, hmark⟩, hslot⟩
    obtain ⟨packet, hpacket, hkeys⟩ := mem_flatMap.mp hD
    split_ifs at hkeys with hskip
    · cases hkeys
    · obtain ⟨⟨laneIndex, blk⟩, hblock, rfl⟩ := mem_map.mp hkeys
      obtain ⟨hlane, hblk⟩ := mem_packetBlocks.mp hblock
      simp only [not_or, not_not, Bool.not_eq_true, ne_eq] at hskip
      refine ⟨⟨packet, hpacket, hskip.1, hskip.2, laneIndex, hlane, blk, hblk, hdir, e, hrec,
        hnvme, hvalid, hslot⟩, fun e' hrec' => ?_⟩
      cases hrec.symm.trans hrec'
      exact hmark
  · rintro ⟨⟨packet, hpacket, hgeneration, hrelease, laneIndex, hlane, blk, hblk, hdir, e, hrec,
      hnvme, hvalid, hslot⟩, hmark⟩
    refine ⟨_, mem_flatMap.mpr ⟨packet, hpacket, ?_⟩, hdir, e, hrec,
      ⟨hnvme, hvalid, hmark e hrec⟩, hslot⟩
    rw [if_neg (by simp [hgeneration, hrelease])]
    exact mem_map.mpr ⟨(laneIndex, blk), mem_packetBlocks.mpr ⟨hlane, hblk⟩, rfl⟩

theorem collectKvPrefetchEntries_wp (hs : s.Owned) (hpackets : packets ≠ [])
    (hvalid : ∀ packet ∈ packets, s.Validated packet config) (hcapacity : 0 < capacity)
    (henough : ∀ entries : List KvPrefetchEntry, (entries.map KvPrefetchEntry.key).Nodup →
      (∀ x ∈ entries, s.IsPrefetchable packets x) → entries.length ≤ capacity) :
    wp (collectKvPrefetchEntries packets config capacity)
      (fun entries _ => (entries.map KvPrefetchEntry.key).Nodup ∧
        ∀ x, x ∈ entries ↔ s.IsPrefetchable packets x ∧ ∀ e, s.core.record x.key = some e →
          e.prefetchMark ≠ (s.prefetchGeneration + 1) % 2 ^ 32 % 2 ^ 29)
      (fun _ _ => False) s := by
  rw [collectKvPrefetchEntries, wp_ite]
  refine ⟨fun hrefused => ?_, fun _ => ?_⟩
  · exact hrefused.elim hpackets fun hzero => hcapacity.ne' hzero
  rw [wp_bind, wp_modify, wp_read]
  refine wp_mono (collectPackets_wp packets hvalid
    ⟨hs.kept.congr rfl, hs.sound⟩ (KvCore.gathered_nil _ _) (prefix_refl _)) ?_ ?_
  · intro entries s' hgathered
    exact ⟨hgathered.nodup, fun x => (hgathered.mem_iff x).trans due_iff⟩
  · rintro error s' ⟨done, entries, c, hdone, hgathered, hfull⟩
    refine absurd (henough entries hgathered.nodup fun x hx => ?_) (Nat.not_le.mpr hfull)
    obtain ⟨D, hD, hdue⟩ := (hgathered.mem_iff x).mp hx
    exact (due_iff.mp ⟨D, hdone.subset hD, hdue⟩).1

end KvState

/-! ### The list -/

/-- For valid packets and enough room, in every state that is reached, a collection returns exactly
one entry for every record that it should return if and only if none of these records has the mark
of the collection already. -/
theorem prefetch_list_is_complete_iff {W : SwapHooks} {laneCapacity laneStride blockTokenCount
      physicalBlockCapacity directoryCapacity blockEntryCapacity : UInt32} {s₀ : KvState W}
    (hnew : KvState.new laneCapacity laneStride blockTokenCount physicalBlockCapacity
      directoryCapacity blockEntryCapacity = .ok s₀) (ops : List (KvOp W))
    {packets : List WorkControlPacket} {config : WorkControlConfig} {capacity : Nat}
    (hpackets : packets ≠ [])
    (hvalid : ∀ packet ∈ packets, (runAll KvOp.exec s₀ ops).kvStateStatus packet config = .ok ())
    (hcapacity : 0 < capacity)
    (henough : ∀ entries : List KvPrefetchEntry, (entries.map KvPrefetchEntry.key).Nodup →
      (∀ x ∈ entries, (runAll KvOp.exec s₀ ops).IsPrefetchable packets x) →
        entries.length ≤ capacity) :
    (∃ entries s', collectKvPrefetchEntries packets config capacity (runAll KvOp.exec s₀ ops) =
        .ok entries s' ∧ (entries.map KvPrefetchEntry.key).Nodup ∧
        ∀ x, x ∈ entries ↔ (runAll KvOp.exec s₀ ops).IsPrefetchable packets x) ↔
      ∀ x e, (runAll KvOp.exec s₀ ops).IsPrefetchable packets x →
        (runAll KvOp.exec s₀ ops).core.record x.key = some e →
        e.prefetchMark ≠ ((runAll KvOp.exec s₀ ops).prefetchGeneration + 1) % 2 ^ 32 % 2 ^ 29 := by
  have hwp := collectKvPrefetchEntries_wp (KvOp.run_owned (owned_of_new hnew) ops) hpackets
    (fun packet hpacket => kvStateStatus_eq_ok.mp (hvalid packet hpacket)) hcapacity henough
  obtain ⟨entries, hrun⟩ := exists_ok_of_succeeds (succeeds_of_wp hwp)
  obtain ⟨hnodup, hmem⟩ := wp_ok hwp hrun
  constructor
  · rintro ⟨entries', s', hrun', -, hmem'⟩ x e hx
    cases hrun.symm.trans hrun'
    exact ((hmem x).mp ((hmem' x).mpr hx)).2 e
  · intro hfresh
    exact ⟨entries, _, hrun, hnodup, fun x => (hmem x).trans
      ⟨And.left, fun hx => ⟨hx, fun e hrec => hfresh x e hx hrec⟩⟩⟩

/-- A collection that is refused for its packet, which has no lane. -/
def refusedCollection : KvOp steadyHooks :=
  .collectKvPrefetchEntries [smallPacket true 1 []] smallConfig 1

theorem exec_refusedCollection (s : KvState steadyHooks) : refusedCollection.exec s =
    { s with prefetchGeneration := (s.prefetchGeneration + 1) % 2 ^ 32 } := by
  refine wp_finalState (R := fun t : KvState steadyHooks =>
    t = { s with prefetchGeneration := (s.prefetchGeneration + 1) % 2 ^ 32 }) ?_
  rw [collectKvPrefetchEntries, wp_ite]
  refine ⟨fun hrefused => by simp at hrefused, fun _ => ?_⟩
  rw [wp_bind, wp_modify, wp_read, foldlM_cons, wp_bind, collectPacket, wp_bind,
    wp_validateKvState]
  refine ⟨fun hvalid => ?_, fun _ _ => rfl⟩
  exact absurd rfl (executesRows_of_validatePacket hvalid.valid rfl).activeSequenceCount_ne

theorem run_refusedCollections (s : KvState steadyHooks) (hs : s.prefetchGeneration = 0) :
    ∀ n < 2 ^ 32, runAll KvOp.exec s (List.replicate n refusedCollection) =
      { s with prefetchGeneration := n }
  | 0, _ => by
    show s = { s with prefetchGeneration := 0 }
    rw [← hs]
  | n + 1, hn => by
    rw [replicate_succ', runAll_concat, run_refusedCollections s hs n (by omega),
      exec_refusedCollection, Nat.mod_eq_of_lt hn]

/-- After `2 ^ 29 - 1` collections a record that was never taken is missing from the next one. -/
theorem prefetch_list_misses_unmarked_record :
    let packet := smallPacket true 8 [smallLane 1 0 8]
    let s := runAll KvOp.exec smallState
      (swappingRun ++ List.replicate (2 ^ 29 - 1) refusedCollection)
    KvState.new 16 4 4 2 16 16 = .ok smallState ∧ s.kvStateStatus packet smallConfig = .ok () ∧
      (collectKvPrefetchEntries [packet] smallConfig 4).run' s = some [] ∧
      s.IsPrefetchable [packet] ⟨privateKey 1 0, 0⟩ := by
  intro packet s
  have hs : s = { runAll KvOp.exec smallState swappingRun with
      prefetchGeneration := 2 ^ 29 - 1 } :=
    (runAll_append _ _ _ _).trans (run_refusedCollections _ (by decide +kernel) _ (by decide))
  rw [hs]
  refine ⟨rfl, by decide +kernel, by decide +kernel, packet, .head _, by decide +kernel,
    by decide +kernel, 0, by decide, 0, by decide +kernel, by decide +kernel,
    ⟨privateKey 1 0, kvInvalidBlockIndex, 0, 1, .nvme, true, 0⟩, ?_, rfl, rfl, rfl⟩
  decide +kernel

theorem prefetch_list_is_complete_swapping : ∃ entries s',
    collectKvPrefetchEntries [smallPacket true 8 [smallLane 1 0 8]] smallConfig 2
      (runAll KvOp.exec smallState swappingRun) = .ok entries s' ∧
    (entries.map KvPrefetchEntry.key).Nodup ∧ ∀ x, x ∈ entries ↔
      (runAll KvOp.exec smallState swappingRun).IsPrefetchable
        [smallPacket true 8 [smallLane 1 0 8]] x := by
  have hkeys {x : KvPrefetchEntry} (hx : (runAll KvOp.exec smallState swappingRun).IsPrefetchable
      [smallPacket true 8 [smallLane 1 0 8]] x) : x.key ∈ [privateKey 1 0, privateKey 1 1] := by
    obtain ⟨_, hpacket, -, -, l, hl, b, hb, hdir, -⟩ := hx
    obtain rfl := mem_singleton.mp hpacket
    obtain rfl : l = 0 := Nat.lt_one_iff.mp hl
    have hall : ∀ b < 2, ((runAll KvOp.exec smallState swappingRun).core.directory
        (privateKey 1 b)).all (· ∈ [privateKey 1 0, privateKey 1 1]) = true := by decide +kernel
    have hin := hall b hb
    rw [show (runAll KvOp.exec smallState swappingRun).core.directory (privateKey 1 b) =
      some x.key from hdir] at hin
    simpa using hin
  refine (prefetch_list_is_complete_iff new_smallState
    swappingRun (by simp) (by simpa using by decide +kernel) (by decide) ?_).mpr ?_
  · intro entries hnodup hall
    refine length_map (f := KvPrefetchEntry.key) ▸ (hnodup.subperm
      (show _ ⊆ [privateKey 1 0, privateKey 1 1] from fun k hk => ?_)).length_le
    obtain ⟨x, hx, rfl⟩ := mem_map.mp hk
    exact hkeys (hall x hx)
  · intro x e hx hrec
    have hall : ∀ k ∈ [privateKey 1 0, privateKey 1 1],
        ((runAll KvOp.exec smallState swappingRun).core.record k).all
          (fun e => e.prefetchMark ≠ ((runAll KvOp.exec smallState swappingRun).prefetchGeneration
            + 1) % 2 ^ 32 % 2 ^ 29) = true := by decide +kernel
    simpa [hrec] using hall x.key (hkeys hx)

end SparkPipe
