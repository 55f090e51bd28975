import SparkPipe.Program.Frame
import SparkPipe.Serve.Adapter
import SparkPipe.Serve.Engine.Pump

/-!
# What becomes of the dispatches the pump takes

The pump takes a dispatch from the request API in every round. This module follows the calls the
engine makes about it, and says in terms of the answers of the request API and of the callbacks
when the dispatch is settled at the end of the round.
-/

open Program

namespace SparkPipe

/-! ### Calls -/

/-- The calls that take a dispatch out of the hands of the engine. -/
def DispatchCall.settles : DispatchCall → Bool
  | .completed succeeded | .cancelled succeeded | .retried succeeded => succeeded
  | .pending => true
  | .scheduled _ => false

def DispatchCall.isScheduled : DispatchCall → Bool
  | .scheduled _ => true
  | _ => false

/-- Going back, every scheduled dispatch was settled before the next one. -/
def noOrphanFrom : Bool → List DispatchCall → Bool
  | _, [] => true
  | settled, .scheduled _ :: older => settled && noOrphanFrom false older
  | settled, call :: older => noOrphanFrom (settled || call.settles) older

/-- Every dispatch that was scheduled has been settled. -/
def noOrphan (calls : List DispatchCall) : Bool := noOrphanFrom false calls

variable {calls : List DispatchCall} {dispatch : ServingDispatch}

theorem noOrphanFrom_round
    {older : List DispatchCall} (hcalls : ∀ call ∈ calls, call.isScheduled = false) :
    ∀ settled, noOrphanFrom settled (calls ++ .scheduled dispatch :: older) =
      ((settled || calls.any DispatchCall.settles) && noOrphan older) := by
  induction calls with
  | nil => intro settled; simp [noOrphanFrom, noOrphan]
  | cons call _ ih =>
    intro settled
    have htail := ih fun c hc => hcalls c (List.mem_cons_of_mem call hc)
    have hhead := hcalls call List.mem_cons_self
    cases call with
    | scheduled => simp [DispatchCall.isScheduled] at hhead
    | completed | cancelled | retried | pending =>
      simp [noOrphanFrom, htail, Bool.or_assoc]

/-- A round begins with the scheduled dispatch, its oldest call. -/
def IsRound (calls : List DispatchCall) : Prop :=
  ∃ later dispatch, calls = later ++ [.scheduled dispatch] ∧
    ∀ call ∈ later, call.isScheduled = false

/-- Calls of finitely many rounds. -/
inductive Rounds : List DispatchCall → Prop
  | nil : Rounds []
  | round {calls older} (h : IsRound calls) (holder : Rounds older) : Rounds (calls ++ older)

theorem Rounds.noOrphan_append (h : Rounds calls) (older : List DispatchCall) :
    noOrphan (calls ++ older) = (noOrphan calls && noOrphan older) := by
  induction h with
  | nil => rfl
  | @round _ _ hround _ ih =>
    obtain ⟨later, dispatch, rfl, hlater⟩ := hround
    have hsplit : ∀ rest, noOrphan (later ++ .scheduled dispatch :: rest) =
        (later.any DispatchCall.settles && noOrphan rest) := by
      intro rest
      rw [noOrphan, noOrphanFrom_round hlater, Bool.false_or]
    simp only [List.append_assoc, List.cons_append, List.nil_append, hsplit, ih, Bool.and_assoc]

theorem Rounds.append {older : List DispatchCall} (h : Rounds calls) (h' : Rounds older) :
    Rounds (calls ++ older) := by
  induction h with
  | nil => exact h'
  | round hround _ ih =>
    rw [List.append_assoc]
    exact .round hround ih

theorem IsRound.rounds (h : IsRound calls) : Rounds calls := by
  simpa only [List.append_nil] using Rounds.round h Rounds.nil

theorem noOrphan_round {later : List DispatchCall}
    (hlater : ∀ call ∈ later, call.isScheduled = false) :
    noOrphan (later ++ [.scheduled dispatch]) = later.any DispatchCall.settles := by
  rw [noOrphan, noOrphanFrom_round hlater, Bool.false_or, noOrphan, noOrphanFrom, Bool.and_true]

namespace ServingEngine

variable {S : EngineSeams} {α : Type}

/-! ### Programs that make no call about a dispatch -/

/-- No call about a dispatch is made. -/
abbrev MakesNoCall (m : EngineM S α) : Prop := Within (Same ServingEngine.dispatchCalls) m

instance (m : EStateM ServingStatus S.Api α) : MakesNoCall (onRequestApi m) :=
  .onFreePart fun _ _ => rfl

instance (m : EStateM ServingStatus S.Host α) : MakesNoCall (onHost m) := .onFreePart fun _ _ => rfl

instance (f : RecordTable → RecordTable) : MakesNoCall (S := S) (modifyTable f) :=
  within_modify fun _ => rfl

instance (event : ServingEvent) : MakesNoCall (S := S) (pushEvent event) :=
  .onFreePart fun _ _ => rfl

instance (status : ServingStatus) {m : EngineM S α} [h : MakesNoCall m] :
    MakesNoCall (failAs status m) := .onPart h fun _ _ h => h

instance {σ : Type} {R : σ → σ → Prop} [IsFrame R] (outcome : Except ServingStatus α) :
    Within R (liftExcept outcome) := by
  cases outcome with
  | ok a => exact .pure a
  | error status => exact .throw status

instance (kind : ServingEventKind) (status : ServingStatus) (recordIndex : Nat) :
    MakesNoCall (S := S) (pushSimpleEvent kind status recordIndex) := by
  unfold pushSimpleEvent
  infer_instance

section

variable (dispatch : ServingDispatch)

instance (status : ServingStatus) (lane : ServingLane) :
    MakesNoCall (S := S) (failDispatchLane status lane) := by
  refine .bind .get fun engine => ?_
  split
  · infer_instance
  · unfold markRecord
    infer_instance

instance (status : ServingStatus) :
    MakesNoCall (S := S) (failDispatchRequests dispatch status) := by
  unfold failDispatchRequests
  infer_instance

instance (prefillView : PrefillDispatchView) :
    MakesNoCall (S := S) (publishPrefillEvents dispatch prefillView) := by
  unfold publishPrefillEvents
  infer_instance

instance : MakesNoCall (S := S) (buildKvBlockTableView dispatch) :=
  .bind .get fun _ => .onFreePart fun _ _ => rfl

theorem makesNoCall_stagePrefill : MakesNoCall (S := S) (stagePrefill dispatch) := by
  refine .bind inferInstance fun view => .bind .get fun engine => ?_
  refine .ite (fun _ => .throw _) fun _ => ?_
  exact .bind (.onFreePart fun _ _ => rfl) fun _ => inferInstance

theorem makesNoCall_stageDecode : MakesNoCall (S := S) (stageDecode dispatch) := by
  unfold stageDecode
  infer_instance

instance (recordIndex : Nat) : MakesNoCall (S := S) (releaseDownstream recordIndex) := by
  unfold releaseDownstream
  split
  · exact .pure _
  · refine .bind .get fun engine => .ite (fun _ => .throw _) fun _ => ?_
    exact .bind inferInstance fun _ => .bind (within_modify fun _ => rfl) fun _ => inferInstance

instance (requestHandle : Nat) : MakesNoCall (S := S) (releaseCompletedRequest requestHandle) := by
  refine .bind .get fun engine => .bind inferInstance fun recordIndex => ?_
  refine .bind inferInstance fun _ => .bind inferInstance fun outcome => ?_
  split <;> infer_instance

instance (recordIndex requestHandle : Nat) :
    MakesNoCall (S := S) (concludeRecord recordIndex requestHandle) := by
  unfold concludeRecord markRecord
  infer_instance

instance (draftTokenCount : Nat) (draftTokenIds : List Nat) :
    MakesNoCall (S := S) (armDrafts dispatch draftTokenCount draftTokenIds) := by
  refine .ite (fun _ => .pure _) fun _ => .bind inferInstance fun outcome => ?_
  split <;> infer_instance

instance (requestHandle : Nat) : MakesNoCall (S := S) (completeFinishedHandle requestHandle) := by
  refine .bind .get fun engine => ?_
  split
  · infer_instance
  · refine .bind inferInstance fun outcome => ?_
    split <;> infer_instance

instance (lane : ServingLane) : MakesNoCall (S := S) (completeBudgetFinishedRequest lane) := by
  refine .bind .get fun engine => ?_
  split
  · infer_instance
  · refine .bind inferInstance fun outcome => ?_
    split <;> infer_instance

theorem makesNoCall_concludeDecode (report : DecodeReport) :
    MakesNoCall (S := S) (concludeDecode dispatch report) := by
  unfold concludeDecode completeFinishedHandles completeBudgetFinishedRequests
  infer_instance

instance (recordIndex : Nat) (lane : DecodeResultLane) (laneTokenCount tokenIndex : Nat) :
    MakesNoCall (S := S) (publishToken dispatch recordIndex lane laneTokenCount tokenIndex) := by
  unfold publishToken
  infer_instance

instance (result : DecodeResult) :
    MakesNoCall (S := S) (publishDecodeEvents dispatch result) := by
  refine .foldlM fun finishHandles laneIndex => ?_
  unfold publishLane
  infer_instance

end

instance {m : EngineM S α} [h : MakesNoCall m] :
    Within (Same fun state : Dispatching S => state.engine.dispatchCalls) (onEngine m) :=
  .onPart h fun _ _ h => h

theorem makesNoCall_acceptDecodeResult (result : DecodeResult) :
    Within (Same fun state : Dispatching S => state.engine.dispatchCalls)
      (acceptDecodeResult result) := by
  have hdispatch {f : Dispatching S → ServingDispatch} :
      Within (Same fun state : Dispatching S => state.engine.dispatchCalls)
        (modify fun state => { state with dispatch := f state } : DispatchM S Unit) :=
    within_modify fun _ => rfl
  refine .bind .get fun _ => .bind inferInstance fun _ => .bind ?_ fun _ => ?_
  · unfold resolveSpeculativeDecode
    infer_instance
  refine .bind .get fun _ => .bind inferInstance fun clamped => .bind .get fun _ => ?_
  refine .bind inferInstance fun captured => .bind ?_ fun _ => inferInstance
  unfold resolveMtpDecode
  infer_instance

/-! ### The answers that a dispatch meets -/

/-- How a dispatch failed, with the request API and the dispatch as they are then. -/
structure DispatchFailure (S : EngineSeams) where
  status : ServingStatus
  requestApi : S.Api
  dispatch : ServingDispatch

variable (stepIndex : Nat)

variable (state : Dispatching S)

/-- How a prefill fails, unless its callback keeps it for later. -/
def prefillFailure : Option (DispatchFailure S) :=
  match stagePrefill state.dispatch state.engine with
  | .error status engine => some ⟨status, engine.requestApi, state.dispatch⟩
  | .ok (prefillView, kvBlockTableView) engine =>
    match callPrefill state.dispatch stepIndex prefillView kvBlockTableView engine with
    | .error status engine => some ⟨status, engine.requestApi, state.dispatch⟩
    | .ok true _ => none
    | .ok false engine =>
      match publishPrefillEvents state.dispatch prefillView engine with
      | .error _ engine => some ⟨.ioError, engine.requestApi, state.dispatch⟩
      | .ok _ engine =>
        match S.api.completeDispatch state.dispatch engine.requestApi with
        | .error status requestApi => some ⟨status, requestApi, state.dispatch⟩
        | .ok _ _ => none

/-- How a decode fails, unless its callback keeps it for later. -/
def decodeFailure : Option (DispatchFailure S) :=
  match stageDecode state.dispatch state.engine with
  | .error status engine => some ⟨status, engine.requestApi, state.dispatch⟩
  | .ok decodeDispatch engine =>
    match callDecode decodeDispatch
        (DecodeResult.new state.dispatch.requestCount maxDecodeTokensPerLane) engine with
    | .error .pending _ => none
    | .error status engine => some ⟨status, engine.requestApi, state.dispatch⟩
    | .ok result engine =>
      match acceptDecodeResult result { state with engine } with
      | .error status after => some ⟨status, after.engine.requestApi, after.dispatch⟩
      | .ok _ after =>
        match S.api.completeDispatch after.dispatch after.engine.requestApi with
        | .error status requestApi => some ⟨status, requestApi, after.dispatch⟩
        | .ok _ _ => none

def dispatchFailure : Option (DispatchFailure S) :=
  if state.dispatch.isPrefill then prefillFailure stepIndex state else decodeFailure state

/-- The calls of a program about its dispatch, and whether one of them settles it. -/
def CallsSettle (before after : ServingEngine S) (settled : Bool) : Prop :=
  ∃ calls, after.dispatchCalls = calls ++ before.dispatchCalls ∧
    (∀ call ∈ calls, call.isScheduled = false) ∧ calls.any DispatchCall.settles = settled

variable {before after : ServingEngine S} {m : EStateM ServingStatus S.Api Unit}
  {engine : ServingEngine S} {requestApi : S.Api}

theorem CallsSettle.of_same
    (h : Same dispatchCalls before after) : CallsSettle before after false :=
  ⟨[], h, by simp, rfl⟩

theorem CallsSettle.of_cons (call : DispatchCall)
    (h : after.dispatchCalls = call :: before.dispatchCalls) (hcall : call.isScheduled = false) :
    CallsSettle before after call.settles :=
  ⟨[call], h, by simpa using hcall, by simp⟩

theorem CallsSettle.trans {first second third : ServingEngine S} {settled settled' : Bool}
    (h : CallsSettle first second settled) (h' : CallsSettle second third settled') :
    CallsSettle first third (settled || settled') := by
  obtain ⟨calls, hcalls, hno, rfl⟩ := h
  obtain ⟨calls', hcalls', hno', rfl⟩ := h'
  refine ⟨calls' ++ calls, by rw [hcalls', hcalls, List.append_assoc], ?_, ?_⟩
  · intro call hcall
    rcases List.mem_append.mp hcall with hin | hin
    · exact hno' call hin
    · exact hno call hin
  · rw [List.any_append, Bool.or_comm]

/-- How the invocation of a dispatch ends, given the failure it meets. -/
def EndsWith (m : DispatchM S Unit) : Option (DispatchFailure S) → Prop
  | none => CallsSettle state.engine (finalState (m state)).engine true
  | some failure => ∃ after, m state = .error failure.status after ∧
      after.engine.requestApi = failure.requestApi ∧ after.dispatch = failure.dispatch ∧
      CallsSettle state.engine after.engine false

theorem settleNoted_of_ok (call : Bool → DispatchCall)
    (h : m engine.requestApi = .ok () requestApi) :
    settleNoted call m engine =
      .ok () { engine with requestApi, dispatchCalls := call true :: engine.dispatchCalls } := by
  have hpart : onRequestApi m engine = .ok () { engine with requestApi } := onPart_of_ok h
  rw [settleNoted, bind_of_ok (attempt_of_ok hpart)]
  rfl

theorem settleNoted_of_error (call : Bool → DispatchCall)
    {status : ServingStatus}
    (h : m engine.requestApi = .error status requestApi) :
    settleNoted call m engine = .error status
        { engine with requestApi, dispatchCalls := call false :: engine.dispatchCalls } := by
  have hpart : onRequestApi m engine = .error status { engine with requestApi } :=
    onPart_of_error h
  rw [settleNoted, bind_of_ok (attempt_of_error hpart)]
  rfl

variable (dispatch : ServingDispatch)

theorem callPrefill_wp (prefillView : PrefillDispatchView) (kvBlockTableView : KvBlockTableView)
    (engine : ServingEngine S) :
    wp (callPrefill dispatch stepIndex prefillView kvBlockTableView)
      (fun kept after => after.dispatchCalls =
        if kept then .pending :: engine.dispatchCalls else engine.dispatchCalls)
      (fun _ after => after.dispatchCalls = engine.dispatchCalls) engine := by
  rw [callPrefill, wp_read, wp_bind, wp_attempt, onHost, wp_onPart]
  refine wp_intro (fun _ _ _ => rfl) fun status _ _ => ?_
  cases status <;> rfl

theorem callDecode_wp (decodeDispatch : ServingDecodeDispatch) (empty : DecodeResult)
    (engine : ServingEngine S) :
    wp (callDecode decodeDispatch empty) (fun _ after => after.dispatchCalls = engine.dispatchCalls)
      (fun status after => after.dispatchCalls =
        if status = .pending then .pending :: engine.dispatchCalls else engine.dispatchCalls)
      engine := by
  rw [callDecode, wp_bind, wp_attempt, onHost, wp_onPart]
  refine wp_intro (fun _ _ _ => rfl) fun status _ _ => ?_
  cases status <;> rfl

/-! ### How an invocation ends -/

section Ends

variable {state state' : Dispatching S} {m m' : DispatchM S Unit}
  {failure : Option (DispatchFailure S)} {status : ServingStatus}

theorem EndsWith.of_rest (h : EndsWith state' m' failure) (hrun : m state = m' state')
    (hcalls : state'.engine.dispatchCalls = state.engine.dispatchCalls) :
    EndsWith state m failure := by
  have hquiet : CallsSettle state.engine state'.engine false := .of_same hcalls
  cases failure with
  | none =>
    change CallsSettle _ _ _
    rw [hrun]
    exact hquiet.trans h
  | some =>
    obtain ⟨after, herror, hapi, hdispatch, hafter⟩ := h
    exact ⟨after, hrun.trans herror, hapi, hdispatch, hquiet.trans hafter⟩

theorem EndsWith.of_error (hrun : m state = .error status state')
    (hcalls : state'.engine.dispatchCalls = state.engine.dispatchCalls) :
    EndsWith state m (some ⟨status, state'.engine.requestApi, state'.dispatch⟩) :=
  ⟨state', hrun, rfl, rfl, .of_same hcalls⟩

theorem EndsWith.of_call (call : DispatchCall) (hsettles : call.settles)
    (hcalls : (finalState (m state)).engine.dispatchCalls = call :: state.engine.dispatchCalls) :
    EndsWith state m none := by
  change CallsSettle _ _ _
  rw [← hsettles]
  refine .of_cons call hcalls ?_
  cases call with
  | scheduled => cases hsettles
  | _ => rfl

variable {engine after : ServingEngine S} {dispatch : ServingDispatch} {β : Type}
  {x : EngineM S α} {f : α → EngineM S β}

theorem onEngine_bind_of_ok {a : α} (h : x engine = .ok a after) :
    onEngine (x >>= f) ⟨engine, dispatch⟩ = onEngine (f a) ⟨after, dispatch⟩ := by
  unfold onEngine onPart
  rw [bind_of_ok h]

theorem onEngine_bind_of_error (h : x engine = .error status after) :
    onEngine (x >>= f) ⟨engine, dispatch⟩ = .error status ⟨after, dispatch⟩ :=
  onPart_of_error (bind_of_error h)

theorem endsWith_completion (f : Unit → EngineM S Unit) (hf : MakesNoCall (f ())) :
    EndsWith ⟨engine, dispatch⟩
      (onEngine (settleNoted .completed (S.api.completeDispatch dispatch) >>= f))
      (match S.api.completeDispatch dispatch engine.requestApi with
        | .error status requestApi => some ⟨status, requestApi, dispatch⟩
        | .ok _ _ => none) := by
  cases hcomplete : S.api.completeDispatch dispatch engine.requestApi with
  | error =>
    have hsettle := settleNoted_of_error .completed hcomplete
    exact ⟨_, onEngine_bind_of_error hsettle, rfl, rfl, .of_cons (.completed false) rfl rfl⟩
  | ok =>
    refine .of_call (.completed true) rfl ?_
    rw [onEngine_bind_of_ok (settleNoted_of_ok .completed hcomplete), onEngine, finalState_onPart]
    exact hf.related _

theorem endsWith_prefill (hprefill : dispatch.isPrefill) :
    EndsWith ⟨engine, dispatch⟩ (invokeDispatch stepIndex)
      (prefillFailure stepIndex ⟨engine, dispatch⟩) := by
  have hrun : invokeDispatch stepIndex ⟨engine, dispatch⟩ = onEngine (do
      let staged ← stagePrefill dispatch
      let kept ← callPrefill dispatch stepIndex staged.1 staged.2
      failAs .ioError (publishPrefillEvents dispatch staged.1)
      (if kept then throw .pending else pure () : EngineM S Unit)
      settleNoted .completed (S.api.completeDispatch dispatch)) ⟨engine, dispatch⟩ := by
    have hget : (get : DispatchM S _) ⟨engine, dispatch⟩ = .ok _ _ := rfl
    rw [invokeDispatch, bind_of_ok hget, if_pos hprefill, invokePrefill, completePrefillDispatch,
      if_neg (by simp [hprefill])]
    simp only [bind_assoc]
  refine .of_rest ?_ hrun rfl
  unfold prefillFailure
  cases hstage : stagePrefill dispatch engine with
  | error =>
    exact .of_error (onEngine_bind_of_error hstage)
      ((makesNoCall_stagePrefill dispatch).error hstage)
  | ok staged engine₁ =>
    refine .of_rest ?_ (onEngine_bind_of_ok hstage) ((makesNoCall_stagePrefill dispatch).ok hstage)
    have hcalls := callPrefill_wp stepIndex dispatch staged.1 staged.2 engine₁
    dsimp only
    cases hcall : callPrefill dispatch stepIndex staged.1 staged.2 engine₁ with
    | error =>
      have hcalls := wp_error hcalls hcall
      exact .of_error (onEngine_bind_of_error hcall) hcalls
    | ok kept engine₂ =>
      have hquiet :
          MakesNoCall (S := S) (failAs .ioError (publishPrefillEvents dispatch staged.1)) :=
        inferInstance
      have hcalls := wp_ok hcalls hcall
      cases kept with
      | true =>
        -- Whatever becomes of the events, the callback has kept the dispatch.
        refine .of_call .pending rfl ?_
        rw [onEngine_bind_of_ok hcall, onEngine, finalState_onPart]
        exact ((Within.bind hquiet fun _ => Within.throw _).related _).trans hcalls
      | false =>
        refine .of_rest ?_ (onEngine_bind_of_ok hcall) hcalls
        dsimp only
        cases hevents : publishPrefillEvents dispatch staged.1 engine₂ with
        | error _ engine₃ =>
          have hfails : failAs .ioError (publishPrefillEvents dispatch staged.1) engine₂ =
            .error .ioError engine₃ := onPart_of_error hevents
          exact .of_error (onEngine_bind_of_error hfails) (hquiet.error hfails)
        | ok u engine₃ =>
          have hdone : failAs .ioError (publishPrefillEvents dispatch staged.1) engine₂ =
            .ok u engine₃ := onPart_of_ok hevents
          refine .of_rest ?_ (onEngine_bind_of_ok hdone) (hquiet.ok hdone)
          exact (endsWith_completion pure (.pure _)).of_rest (by rw [bind_pure]; rfl) rfl

theorem endsWith_decode (hprefill : dispatch.isPrefill = false)
    (hdecode : dispatch.isDecode) :
    EndsWith ⟨engine, dispatch⟩ (invokeDispatch stepIndex) (decodeFailure ⟨engine, dispatch⟩) := by
  have hget state : (get : DispatchM S _) state = .ok state state := rfl
  have hrun : invokeDispatch stepIndex ⟨engine, dispatch⟩ = (onEngine (do
      let decodeDispatch ← stageDecode dispatch
      callDecode decodeDispatch (.new dispatch.requestCount maxDecodeTokensPerLane)) >>=
        completeDecodeDispatch) ⟨engine, dispatch⟩ := by
    rw [invokeDispatch, bind_of_ok (hget _), if_neg (by simp [hprefill]), if_pos hdecode,
      invokeDecode, bind_of_ok (hget _)]
  refine .of_rest ?_ hrun rfl
  unfold decodeFailure
  cases hstage : stageDecode dispatch engine with
  | error =>
    exact .of_error (bind_of_error (onEngine_bind_of_error hstage))
      ((makesNoCall_stageDecode dispatch).error hstage)
  | ok decodeDispatch engine₁ =>
    have hquiet : engine₁.dispatchCalls = engine.dispatchCalls :=
      (makesNoCall_stageDecode dispatch).ok hstage
    have hcalls := callDecode_wp decodeDispatch
      (.new dispatch.requestCount maxDecodeTokensPerLane) engine₁
    dsimp only
    cases hcall : callDecode decodeDispatch
        (.new dispatch.requestCount maxDecodeTokensPerLane) engine₁ with
    | error status engine₂ =>
      have hcalls := wp_error hcalls hcall
      rw [hquiet] at hcalls
      have hlast : _ = EStateM.Result.error status (Dispatching.mk engine₂ dispatch) :=
        bind_of_error (f := completeDecodeDispatch)
          ((onEngine_bind_of_ok (f := (callDecode · _)) hstage).trans (onPart_of_error hcall))
      cases status with
      | pending =>
        refine .of_call .pending rfl ?_
        rw [hlast]
        exact hcalls
      | _ => exact .of_error hlast hcalls
    | ok result engine₂ =>
      have hcalls := (wp_ok hcalls hcall).trans hquiet
      refine .of_rest (?_ : EndsWith ⟨engine₂, dispatch⟩ (completeDecodeDispatch result) _)
        (bind_of_ok ((onEngine_bind_of_ok hstage).trans (onPart_of_ok hcall))) hcalls
      have haccept := makesNoCall_acceptDecodeResult (S := S) result
      dsimp only
      cases hreport : acceptDecodeResult result ⟨engine₂, dispatch⟩ with
      | error => exact .of_error (bind_of_error hreport) (haccept.error hreport)
      | ok report after =>
        -- Once the dispatch is settled, what follows makes no call about it.
        refine .of_rest ?_ ((bind_of_ok hreport).trans (bind_of_ok (hget after)))
          (haccept.ok hreport)
        exact endsWith_completion _ (makesNoCall_concludeDecode after.dispatch report)

end Ends

/-! ### Rounds -/

/-- Whether a dispatch that failed so is cancelled, and can be. -/
def failureSettles (status : ServingStatus) (requestApi : S.Api) :
    Bool :=
  !(status = .pending && (dispatch.isPrefill || dispatch.isDecode)) &&
    !(status = .busy && dispatch.isPrefill) &&
    succeeds (S.api.cancelDispatch dispatch requestApi)

/-- A decode that was refused as busy is retried, every other dispatch is cancelled. -/
def recovers (decode : Bool) (failure : DispatchFailure S) : Bool :=
  if failure.status = .busy ∧ decode then
    match S.api.retryDecodeDispatch failure.dispatch failure.requestApi with
    | .ok _ _ => true
    | .error status requestApi => failureSettles failure.dispatch status requestApi
  else failureSettles failure.dispatch failure.status failure.requestApi

variable (engine : ServingEngine S)

/-- The engine when it starts to work on the dispatch it was given. -/
def begins (dispatch : ServingDispatch) : Dispatching S where
  engine := { engine with dispatchCalls := .scheduled dispatch :: engine.dispatchCalls }
  dispatch

/-- Whether a dispatch is settled in the round in which it is served. -/
def dispatchSettles (dispatch : ServingDispatch) :
    Bool :=
  match dispatchFailure stepIndex (engine.begins dispatch) with
  | none => true
  | some failure => recovers dispatch.isDecode failure

/-- Whether the dispatch of a round, if any, is settled in it. -/
def roundSettles : Bool :=
  if engine.events.freeCount < eventRingSafetyMargin then true
  else
    match S.api.scheduleNext engine.requestApi with
    | .error _ _ => true
    | .ok dispatch requestApi =>
      if dispatch.accepted = false ∨ dispatch.kind = .none then true
      else dispatchSettles stepIndex { engine with requestApi } dispatch

variable (stopAfterOne : Bool)

theorem failedStep_calls (pendingDispatchCount : Nat)
    (dispatch : ServingDispatch) (status : ServingStatus) (engine : ServingEngine S) :
    CallsSettle engine
      (finalState (failedStep stopAfterOne pendingDispatchCount dispatch status engine))
      (failureSettles dispatch status engine.requestApi) := by
  unfold failedStep
  by_cases hpending : status = .pending ∧ (dispatch.isPrefill || dispatch.isDecode) = true
  · rw [if_pos hpending, failureSettles, decide_eq_true hpending.1, hpending.2]
    exact .of_same rfl
  have hnot :
      (decide (status = .pending) && (dispatch.isPrefill || dispatch.isDecode)) = false := by
    simpa using hpending
  rw [if_neg hpending]
  by_cases hbusy : status = .busy ∧ dispatch.isPrefill = true
  · rw [if_pos hbusy, failureSettles, hnot, decide_eq_true hbusy.1, hbusy.2]
    exact .of_same rfl
  have hnot' : (decide (status = .busy) && dispatch.isPrefill) = false := by
    simpa using hbusy
  rw [if_neg hbusy, failureSettles, hnot, hnot']
  have hrest : MakesNoCall (S := S) (do
      failDispatchRequests dispatch status
      return PumpOutcome.exit status) := inferInstance
  cases hcancel : S.api.cancelDispatch dispatch engine.requestApi with
  | ok =>
    have hsettle := settleNoted_of_ok .cancelled hcancel
    rw [bind_of_ok (attempt_of_ok hsettle)]
    exact .of_cons (.cancelled true) (hrest.related _) rfl
  | error =>
    have hsettle := settleNoted_of_error .cancelled hcancel
    rw [bind_of_ok (attempt_of_error hsettle)]
    exact .of_cons (.cancelled false) (hrest.related _) rfl

theorem settleStep_calls (pendingDispatchCount : Nat) (decode : Bool)
    (dispatch : ServingDispatch) (status : ServingStatus) (engine : ServingEngine S) :
    CallsSettle engine
      (finalState (settleStep stopAfterOne pendingDispatchCount decode dispatch (.error status)
        engine))
      (recovers decode ⟨status, engine.requestApi, dispatch⟩) := by
  unfold settleStep recovers
  simp only
  by_cases hretry : status = .busy ∧ decode = true
  · rw [if_pos hretry, if_pos hretry]
    cases hrun : S.api.retryDecodeDispatch dispatch engine.requestApi with
    | ok =>
      rw [bind_of_ok (attempt_of_ok (settleNoted_of_ok .retried hrun))]
      exact .of_cons (.retried true) rfl rfl
    | error status' requestApi =>
      rw [bind_of_ok (attempt_of_error (settleNoted_of_error .retried hrun))]
      have hfirst : CallsSettle engine { engine with
          requestApi
          dispatchCalls := .retried false :: engine.dispatchCalls } false :=
        .of_cons (.retried false) rfl rfl
      exact hfirst.trans (failedStep_calls stopAfterOne pendingDispatchCount dispatch status' _)
  · rw [if_neg hretry, if_neg hretry]
    exact failedStep_calls stopAfterOne pendingDispatchCount dispatch status engine

theorem withDispatch_bind {m : DispatchM S Unit}
    {f : Except ServingStatus Unit × ServingDispatch → EngineM S α} (state : Dispatching S) :
    (withDispatch state.dispatch m >>= f) state.engine =
      match m state with
      | .ok _ after => f (.ok (), after.dispatch) after.engine
      | .error status after => f (.error status, after.dispatch) after.engine := by
  obtain ⟨engine, dispatch⟩ := state
  cases hrun : m ⟨engine, dispatch⟩ with
  | ok | error => exact bind_of_ok (by rw [withDispatch, hrun])

theorem serveDispatch_calls (stepIndex pendingDispatchCount : Nat)
    {dispatch : ServingDispatch} (hkind : dispatch.kind ≠ .none) (engine : ServingEngine S) :
    CallsSettle (engine.begins dispatch).engine
      (finalState (serveDispatch stopAfterOne stepIndex pendingDispatchCount dispatch engine))
      (dispatchSettles stepIndex engine dispatch) := by
  have hends : EndsWith (engine.begins dispatch) (invokeDispatch stepIndex)
      (dispatchFailure stepIndex (engine.begins dispatch)) := by
    unfold dispatchFailure
    by_cases hprefill : (engine.begins dispatch).dispatch.isPrefill = true
    · rw [if_pos hprefill]
      exact endsWith_prefill stepIndex hprefill
    · rw [if_neg hprefill]
      refine endsWith_decode stepIndex (Bool.eq_false_of_not_eq_true hprefill) ?_
      change ¬dispatch.isPrefill = true at hprefill
      cases hk : dispatch.kind <;> simp_all [ServingDispatch.isPrefill, ServingDispatch.isDecode]
  have hserve : serveDispatch stopAfterOne stepIndex pendingDispatchCount dispatch engine = _ :=
    withDispatch_bind (engine.begins dispatch)
  rw [hserve]
  unfold dispatchSettles
  cases hfailure : dispatchFailure stepIndex (engine.begins dispatch) with
  | some failure =>
    rw [hfailure] at hends
    obtain ⟨after, herror, hapi, hdispatch, hcalls⟩ := hends
    obtain ⟨status, requestApi, failed⟩ := failure
    subst hapi hdispatch
    rw [herror]
    exact hcalls.trans (settleStep_calls ..)
  | none =>
    rw [hfailure] at hends
    change CallsSettle _ _ true at hends
    cases hrun : invokeDispatch stepIndex (engine.begins dispatch) with
    | ok =>
      rw [hrun] at hends
      exact hends
    | error =>
      rw [hrun] at hends
      exact CallsSettle.trans hends (settleStep_calls ..)

theorem pumpStep_calls (stepIndex pendingDispatchCount : Nat) (engine : ServingEngine S) :
    ∃ calls, (finalState
      (pumpStep stopAfterOne stepIndex pendingDispatchCount engine)).dispatchCalls
        = calls ++ engine.dispatchCalls ∧ Rounds calls ∧
      noOrphan calls = roundSettles stepIndex engine := by
  have hnone : ∀ {after : ServingEngine S}, after.dispatchCalls = engine.dispatchCalls →
      ∃ calls, after.dispatchCalls = calls ++ engine.dispatchCalls ∧ Rounds calls ∧
        noOrphan calls = true :=
    fun h => ⟨[], h, Rounds.nil, rfl⟩
  have hget : (get : EngineM S _) engine = .ok engine engine := rfl
  rw [pumpStep, bind_of_ok hget]
  unfold roundSettles
  by_cases hfull : engine.events.freeCount < eventRingSafetyMargin
  · rw [if_pos hfull, if_pos hfull]
    exact hnone rfl
  rw [if_neg hfull, if_neg hfull]
  cases hnext : S.api.scheduleNext engine.requestApi with
  | error status requestApi =>
    have hpart : onRequestApi S.api.scheduleNext engine =
        .error status { engine with requestApi } := onPart_of_error hnext
    rw [bind_of_ok (attempt_of_error hpart)]
    exact hnone rfl
  | ok dispatch requestApi =>
    have hpart : onRequestApi S.api.scheduleNext engine =
        .ok dispatch { engine with requestApi } := onPart_of_ok hnext
    rw [bind_of_ok (attempt_of_ok hpart)]
    simp only
    by_cases hrefused : dispatch.accepted = false ∨ dispatch.kind = .none
    · rw [if_pos hrefused, if_pos hrefused]
      exact hnone rfl
    · rw [if_neg hrefused, if_neg hrefused]
      obtain ⟨later, hlater, hno, hsettles⟩ := serveDispatch_calls stopAfterOne stepIndex
        pendingDispatchCount (not_or.mp hrefused).2 { engine with requestApi }
      refine ⟨later ++ [.scheduled dispatch], ?_, IsRound.rounds ⟨later, dispatch, rfl, hno⟩, ?_⟩
      · rw [hlater, List.append_assoc]
        rfl
      · rw [noOrphan_round hno, hsettles]

/-! ### The loop -/

/-- Every round that the pump makes settles its dispatch. -/
def everyRoundSettles (stopAfterOne : Bool) : Nat → Nat → Nat → ServingEngine S → Bool
  | 0, _, _, _ => true
  | steps + 1, stepIndex, pendingDispatchCount, engine =>
    roundSettles stepIndex engine &&
      match pumpStep stopAfterOne stepIndex pendingDispatchCount engine with
      | .ok (.proceed pendingDispatchCount) after =>
        everyRoundSettles stopAfterOne steps (stepIndex + 1) pendingDispatchCount after
      | _ => true

theorem pumpLoop_calls (steps : Nat) :
    ∀ (stepIndex pendingDispatchCount : Nat) (engine : ServingEngine S),
      ∃ calls, (finalState (pumpLoop stopAfterOne steps stepIndex pendingDispatchCount
          engine)).dispatchCalls = calls ++ engine.dispatchCalls ∧ Rounds calls ∧
        noOrphan calls = everyRoundSettles stopAfterOne steps stepIndex pendingDispatchCount
          engine := by
  induction steps with
  | zero =>
    intro stepIndex pendingDispatchCount engine
    exact ⟨[], rfl, Rounds.nil, rfl⟩
  | succ _ ih =>
    intro stepIndex pendingDispatchCount engine
    obtain ⟨calls, hcalls, hrounds, hsettles⟩ :=
      pumpStep_calls stopAfterOne stepIndex pendingDispatchCount engine
    rw [pumpLoop, everyRoundSettles, ← hsettles]
    cases hstep : pumpStep stopAfterOne stepIndex pendingDispatchCount engine with
    | error =>
      rw [hstep] at hcalls
      rw [bind_of_error hstep]
      exact ⟨calls, hcalls, hrounds, by simp⟩
    | ok outcome after =>
      rw [hstep] at hcalls
      rw [bind_of_ok hstep]
      cases outcome with
      | exit => exact ⟨calls, hcalls, hrounds, by simp⟩
      | proceed pendingDispatchCount' =>
        obtain ⟨later, hlater, hlaterRounds, hlaterSettles⟩ :=
          ih (stepIndex + 1) pendingDispatchCount' after
        refine ⟨later ++ calls, ?_, hlaterRounds.append hrounds, ?_⟩
        · rw [hlater, List.append_assoc]
          exact congrArg (later ++ ·) hcalls
        · rw [hlaterRounds.noOrphan_append, hlaterSettles, Bool.and_comm]

/-- The calls made between two states, the latest first. -/
def callsSince (before after : ServingEngine S) : List DispatchCall :=
  after.dispatchCalls.take (after.dispatchCalls.length - before.dispatchCalls.length)

theorem callsSince_eq (h : after.dispatchCalls = calls ++ before.dispatchCalls) :
    callsSince before after = calls := by
  rw [callsSince, h, List.length_append, Nat.add_sub_cancel, List.take_left]

/-- The pump leaves no dispatch behind exactly when in each of its rounds the dispatch, if it is
neither completed nor kept by its callback, fails with a status on which the pump gives it back,
and the request API takes it back. -/
theorem noOrphan_pump_iff (maxDispatchSteps : Nat) (engine : ServingEngine S) :
    noOrphan (callsSince engine (finalState (pump stopAfterOne maxDispatchSteps engine))) = true ↔
      everyRoundSettles stopAfterOne (pumpStepLimit maxDispatchSteps) 0 0 engine = true := by
  obtain ⟨calls, hcalls, -, hsettles⟩ :=
    pumpLoop_calls stopAfterOne (pumpStepLimit maxDispatchSteps) 0 0 engine
  have hfinal : finalState (pump stopAfterOne maxDispatchSteps engine) =
      finalState (pumpLoop stopAfterOne (pumpStepLimit maxDispatchSteps) 0 0 engine) := by
    rw [pump]
    cases hloop : pumpLoop stopAfterOne (pumpStepLimit maxDispatchSteps) 0 0 engine with
    | error => rw [bind_of_error hloop]; rfl
    | ok =>
      rw [bind_of_ok hloop]
      split <;> rfl
  rw [hfinal, callsSince_eq hcalls, hsettles]

/-- A prompt of three tokens with room for two more. -/
def smallRequest : SubmitTokenIdsRequest where
  tokenIds := [1, 2, 3]
  outputTokenBudget := 2

/-- Without the condition a dispatch is left behind: a prefill whose callback is busy is neither
cancelled nor given back. -/
theorem pump_orphans_busy_prefill : ∃ engine,
    IsSmallEngine { prefill := fun _ => throw .busy } { autoReleaseCompletedRequests := true }
      engine ∧
    noOrphan (callsSince (finalState (submitTokenIds smallRequest engine))
      (finalState (pump true 0 (finalState (submitTokenIds smallRequest engine))))) = false := by
  refine ⟨_, ⟨_, _, _, _, rfl, rfl, rfl, rfl, rfl⟩, ?_⟩
  decide +kernel

end ServingEngine

end SparkPipe
