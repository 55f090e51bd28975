import SparkPipe.Core.PrefixCache.Run

/-!
# The arena under the prefix cache

Every transition of the cache changes the arena only by the arena's own operations, so the
accounting of resident blocks carries over to every state the cache reaches. A commit can
therefore always make its block resident.
-/

open Program

namespace SparkPipe.PrefixCache

/-- The arena counts its resident blocks rightly and has room for one. -/
def Housed (c : PrefixCache) : Prop := c.arena.Housed

variable {c c' : PrefixCache}

theorem Housed.step {e : Event} (h : c.Housed) (hs : Step c e c') : c'.Housed := by
  cases hs with
  | quiet hs | install hs | invalidate hs | bind hs | unbind hs | commit hs | grow hs =>
    exact .becomes h hs.arena
  | reset hr =>
    rw [Housed, hr.arena]
    exact ⟨KvArena.accounted_fresh rfl rfl, h.2⟩

theorem Housed.evolves {allowed : PrefixCache → Event → Prop} (h : c.Housed)
    (he : Evolves Step allowed c c') : c'.Housed :=
  he.invariant (fun _ _ _ hd _ hs => hd.step hs) h

theorem housed_run {arenaConfig : KvArenaConfig} {config : PrefixCacheConfig} {arena : KvArena}
    (ha : KvArena.new arenaConfig = .ok arena) (hc : new config arena = .ok c)
    (ops : List CacheOp) : (c.run ops).Housed := by
  have hhoused : c.Housed := by
    rw [Housed, (tables_of_new hc).2.2]
    exact KvArena.housed_of_new ha
  exact (consistent_new ha hc).run_invariant hhoused (fun _ _ _ _ hd hs => hd.step hs) ops

theorem commitReservation_succeeds {q epoch : Nat} (h : c.Consistent)
    (hhoused : c.Housed) (hq : q ≠ 0) (hepoch : epoch ≠ 0) :
    wp (commitReservation q epoch) (fun _ _ => True) (fun _ _ => False) c := by
  unfold commitReservation
  rw [if_neg (not_or.mpr ⟨hq, hepoch⟩), wp_read, wp_bind]
  refine wp_post (wp_forM (fun d => d.Consistent ∧ d.Housed) ⟨h, hhoused⟩ fun k _ d hd => ?_)
    fun _ _ _ => by rw [wp_modify]; trivial
  obtain ⟨hd, hhoused⟩ := hd
  rw [wp_read, wp_ite]
  refine ⟨fun hk => ?_, fun _ => ⟨hd, hhoused⟩⟩
  simp only [Bool.and_eq_true, beq_iff_eq] at hk
  have hmarks : wp (do
      onArena (KvArena.markBlockResident (d.entry k).physicalBlockIndex)
      modify fun d' => d'.setEntry k (d'.commitEntry (d.entry k) epoch) : CacheM Unit)
      (fun _ _ => True) (fun _ _ => False) d := by
    simp only [wp_bind, wp_onArena, wp_modify]
    exact wp_post (KvArena.markBlockResident_accounted hhoused.1 hhoused.2
      (hd.block_owned k hk.1.1).1) fun _ _ _ => trivial
  have hcommits := commitOne_wp (s := { sequenceId := q, epoch }) hk.1.1 hk.1.2 hk.2
  exact wp_mono (wp_and hcommits hmarks)
    (fun _ _ hd' => ⟨hd.commits hd'.1, hhoused.step (.commit hd'.1)⟩) (fun _ _ hf => hf.2)

end SparkPipe.PrefixCache
