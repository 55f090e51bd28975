import SparkPipe.Serve.Adapter
import SparkPipe.Serve.Engine.Pump

/-!
# Back-pressure of the pump

The scheduler says that it has no room by a decision that is not accepted, and the request API hands
this on as a success without an accepted dispatch. The adapter turns it into an error of its own, so
that the pump of an engine over the adapter cannot tell it from a malformed call.
-/

open Program

namespace SparkPipe

/-- Seams whose request API is the one behind the adapter. -/
def EngineSeams.overAdapter (S : EngineSeams) (E : Seams) : EngineSeams :=
  { S with Api := RequestApiAdapter E, api := servingRequestApi E }

/-- The request API schedules nothing, though it does not fail. -/
def RequestApi.Refuses {E : Seams} (api : RequestApi E) : Prop :=
  let outcome := RequestApi.scheduleNext { api, dispatch := {} }
  succeeds outcome ∧ (finalState outcome).dispatch.accepted = false

instance {E : Seams} (api : RequestApi E) : Decidable api.Refuses :=
  inferInstanceAs (Decidable (_ ∧ _))

namespace ServingEngine

variable {S : EngineSeams} {E : Seams} {engine : ServingEngine (S.overAdapter E)}

/-- The states of all requests, in the request API and in the records of the engine. -/
def requestStates (engine : ServingEngine (S.overAdapter E)) : List SlotState × List RecordState :=
  ((RequestApiAdapter.api engine.requestApi).table.slots.map Slot.state,
    engine.table.records.map RequestRecord.state)

/-- A pump reports that it is busy or dispatches are pending, and no request changed. -/
def IsBackPressure (engine : ServingEngine (S.overAdapter E)) (pendingDispatchCount : Nat)
    (status : ServingStatus) (after : ServingEngine (S.overAdapter E)) : Prop :=
  (status = .busy ∨ pendingDispatchCount ≠ 0 ∧ status = .pending) ∧
    requestStates after = requestStates engine

theorem scheduleNext_of_refuses {adapter : RequestApiAdapter E} (h : adapter.api.Refuses) :
    ∃ after, RequestApiAdapter.scheduleNext adapter = .error .invalidArgument after := by
  obtain ⟨hok, hrefused⟩ := h
  have hnext := eq_ok_of_succeeds hok
  set scheduled := finalState (RequestApi.scheduleNext { api := adapter.api, dispatch := {} })
  have hfull : RequestApiAdapter.scheduleFull adapter =
      .ok scheduled.dispatch { adapter with api := scheduled.api } := by
    rw [RequestApiAdapter.scheduleFull, hnext]
  refine ⟨{ adapter with api := scheduled.api }, ?_⟩
  rw [RequestApiAdapter.scheduleNext, bind_of_ok hfull]
  exact congrFun (if_pos (Or.inl hrefused)) _

theorem pumpLoop_of_refuses (h : (RequestApiAdapter.api engine.requestApi).Refuses)
    (stopAfterOne : Bool) (steps stepIndex pendingDispatchCount : Nat) : ∃ status after,
      pumpLoop stopAfterOne (steps + 1) stepIndex pendingDispatchCount engine =
        .ok status after ∧ status ≠ .ok ∧
      (engine.IsBackPressure pendingDispatchCount status after ↔
        engine.events.freeCount < eventRingSafetyMargin) := by
  have hget : (get : EngineM (S.overAdapter E) _) engine = .ok engine engine := rfl
  rw [pumpLoop]
  by_cases hfull : engine.events.freeCount < eventRingSafetyMargin
  · have hstep : pumpStep stopAfterOne stepIndex pendingDispatchCount engine =
        .ok (.exit .busy) engine := by
      rw [pumpStep, bind_of_ok hget, if_pos hfull]
      rfl
    rw [bind_of_ok hstep]
    exact ⟨_, _, rfl, by simp, iff_of_true ⟨.inl rfl, rfl⟩ hfull⟩
  obtain ⟨after, hnext⟩ := scheduleNext_of_refuses h
  have hpart : onRequestApi (S.overAdapter E).api.scheduleNext engine =
      .error .invalidArgument { engine with requestApi := after } := onPart_of_error hnext
  have hstep : pumpStep stopAfterOne stepIndex pendingDispatchCount engine =
      .ok (.exit .invalidArgument) { engine with requestApi := after } := by
    rw [pumpStep, bind_of_ok hget, if_neg hfull, bind_of_ok (attempt_of_error hpart)]
    rfl
  rw [bind_of_ok hstep]
  exact ⟨_, _, rfl, by simp, iff_of_false (by simp [IsBackPressure]) hfull⟩

/-- A pump that meets a request API without room, in its first round or in a later one, reports
back-pressure exactly if the events leave no room for the round, so that it does not schedule. -/
theorem backPressure_iff (h : (RequestApiAdapter.api engine.requestApi).Refuses)
    (stopAfterOne : Bool) :
    (∀ maxDispatchSteps, (∃ status after, pump stopAfterOne maxDispatchSteps engine =
        .error status after ∧ engine.IsBackPressure 0 status after) ↔
      engine.events.freeCount < eventRingSafetyMargin) ∧
    ∀ steps stepIndex pendingDispatchCount, (∃ status after,
        pumpLoop stopAfterOne (steps + 1) stepIndex pendingDispatchCount engine =
          .ok status after ∧ engine.IsBackPressure pendingDispatchCount status after) ↔
      engine.events.freeCount < eventRingSafetyMargin := by
  refine ⟨fun maxDispatchSteps => ?_, fun steps stepIndex pendingDispatchCount => ?_⟩
  · obtain ⟨steps, hsteps⟩ : ∃ steps, pumpStepLimit maxDispatchSteps = steps + 1 := by
      refine Nat.exists_eq_succ_of_ne_zero ?_
      unfold pumpStepLimit
      split_ifs with hmax
      · exact hmax
      · decide
    obtain ⟨status, after, hloop, hne, hiff⟩ := pumpLoop_of_refuses h stopAfterOne steps 0 0
    have hpump : pump stopAfterOne maxDispatchSteps engine = .error status after := by
      rw [pump, hsteps, bind_of_ok hloop, if_neg hne]
      rfl
    simp [hpump, hiff]
  · obtain ⟨status, after, hloop, -, hiff⟩ :=
      pumpLoop_of_refuses h stopAfterOne steps stepIndex pendingDispatchCount
    simp [hloop, hiff]

/-- A prompt that needs more blocks than the cache has. -/
def longRequest : SubmitTokenIdsRequest where
  tokenIds := List.range 40
  outputTokenBudget := 2

theorem pump_rejects_full_pipeline : ∃ engine,
    IsSmallEngine {} { autoReleaseCompletedRequests := true } engine ∧
    let submitted := finalState (submitTokenIds longRequest engine)
    succeeds (submitTokenIds longRequest engine) = true ∧
    (RequestApiAdapter.api submitted.requestApi).Refuses ∧
    errorOf (pump true 0 submitted) = some .invalidArgument := by
  refine ⟨_, ⟨_, _, _, _, rfl, rfl, rfl, rfl, rfl⟩, ?_⟩
  decide +kernel

theorem backPressure_when_ring_full : ∃ arena cache scheduler api engine,
    KvArena.new PrefixCache.smallArenaConfig = .ok arena ∧
    PrefixCache.new PrefixCache.smallConfig arena = .ok cache ∧
    Scheduler.new (SchedulerRun.smallSchedulerConfig cache) = .ok scheduler ∧
    RequestApi.new (smallApiConfig scheduler) = .ok api ∧
    ServingEngine.new { smallEngineConfig {} { autoReleaseCompletedRequests := true } api with
      eventRingCapacity := eventRingSafetyMargin + 1 } = .ok engine ∧
    let submitted : ServingEngine ((smallSeams {}).overAdapter smallApiSeams) :=
      finalState (submitTokenIds longRequest (finalState (submitTokenIds longRequest engine)))
    ∃ status after, pump true 0 submitted = .error status after ∧
      submitted.IsBackPressure 0 status after := by
  refine ⟨_, _, _, _, _, rfl, rfl, rfl, rfl, rfl, ?_⟩
  refine ((backPressure_iff ?_ true).1 0).mpr ?_
  · decide +kernel
  · decide +kernel

end ServingEngine

end SparkPipe
