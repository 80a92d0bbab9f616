import KvsProducer.SinkMachineProofs

/-! A stream is created on the way up from NULL and stopped on the way down to
READY. The two are not the same pair of states, so an element that turns back in
READY carries its stopped stream up again. Runs that never turn there are
exactly the ones in which an active element has a running stream. -/
namespace KvsProducer
open Gst History Runs

/-- Whether the stream is stopped, after one more call. -/
def stopStep (stream : StreamId) (stopped : Bool) : Call → Bool
  | .stopSync on _ => stopped || on == stream
  | .resetStream on done => stopped && !(done && on == stream)
  | _ => stopped

/-- `stopSync` was called on the stream and no successful reset came after it. -/
def isStopped (calls : List Call) (stream : StreamId) : Bool :=
  calls.foldl (stopStep stream) false

/-- In PAUSED and PLAYING the stream in hand is not stopped. -/
def ActiveStreamRuns (sink : GstKvsSink) : Prop :=
  sink.state.streaming = true →
    ∀ stream, sink.data.kinesisVideoStream = some stream → isStopped sink.calls stream = false

/-- The stream a frame, or the end-of-fragment frame, is submitted to. -/
def Call.submitsTo : Call → Option StreamId
  | .statusPutFrame stream _ _ | .putEofr stream _ => some stream
  | _ => none

/-- No submission goes to a stream that is stopped at that moment. -/
def SubmitsToRunning (calls : List Call) : Prop :=
  EachEntry (fun before call => ∀ stream, call.submitsTo = some stream →
    isStopped before stream = false) calls

/-- The changes of state that the parent class carried out, in order. -/
def successfulChanges : List Input → List GstStateChange
  | [] => []
  | .changeState transition outcome :: rest =>
    if outcome.parentChanged then transition :: successfulChanges rest else successfulChanges rest
  | _ :: rest => successfulChanges rest

/-- The element does not turn back up in READY. -/
def NotARestart (earlier later : GstStateChange) : Prop :=
  ¬ (earlier = .pausedToReady ∧ later = .readyToPaused)

/-! ## Stopping -/

@[simp] theorem is_stopped_snoc (calls : List Call) (call : Call) (stream : StreamId) :
    isStopped (calls ++ [call]) stream = stopStep stream (isStopped calls stream) call := by
  simp [isStopped]

private theorem is_stopped_append (calls added : List Call) (stream : StreamId) :
    isStopped (calls ++ added) stream = added.foldl (stopStep stream) (isStopped calls stream) := by
  simp [isStopped]

/-- A call that is not `stopSync` on this stream leaves a running stream running. -/
theorem running_stays_running (running : isStopped calls stream = false)
    (never : ∀ call ∈ added, ∀ done, call ≠ .stopSync stream done) :
    isStopped (calls ++ added) stream = false := by
  rw [is_stopped_append, running]
  clear running
  induction added with
  | nil => rfl
  | cons call rest ih =>
    have unstopped : stopStep stream false call = false := by
      cases call with
      | stopSync on done =>
        have other := never _ List.mem_cons_self done
        simp only [stopStep, Bool.false_or, beq_eq_false_iff_ne]
        exact fun same => other (by rw [same])
      | _ => rfl
    rw [List.foldl_cons, unstopped]
    exact ih fun call member => never call (List.mem_cons_of_mem _ member)

/-- Every call that one input of an active element makes, except a stop. -/
theorem grows_running (running : isStopped before stream = false) (grown : Grows kind before after)
    (never : ∀ done, ¬ kind (.stopSync stream done)) : isStopped after stream = false := by
  obtain ⟨added, rfl, admitted⟩ := grown
  exact running_stays_running running fun call member done same => never done (same ▸ admitted call member)

private theorem untouched_is_running (untouched : ∀ call ∈ calls, call.usedStream ≠ some stream) :
    isStopped calls stream = false := by
  have never : ∀ call ∈ calls, ∀ done, call ≠ .stopSync stream done := by
    rintro call member done rfl
    exact untouched _ member rfl
  have initially : isStopped [] stream = false := rfl
  simpa using running_stays_running initially never

private theorem buffer_never_stops (made : BufferCall held trackId (.stopSync stream done)) : False := by
  cases made with
  | body made => cases made

private theorem input_never_stops (still : ∀ transition outcome, input ≠ .changeState transition outcome)
    (stream : StreamId) (done : Bool) : ¬ InputCall sink input (.stopSync stream done) := by
  intro made
  cases made with
  | event _ made => cases made
  | buffer _ made => exact buffer_never_stops made
  | noBuffer made => exact buffer_never_stops made
  | setUp => exact still _ _ rfl
  | stopped => exact still _ _ rfl

private theorem stop_step_other (unused : call.usedStream = none) (stream : StreamId) (stopped : Bool) :
    stopStep stream stopped call = stopped := by
  cases call <;> first | rfl | cases unused

/-! ## Runs -/

/-- In READY the stream is stopped exactly when the element came there from
above. `last` is the last successful change of state. -/
structure StopInvariant (sink : GstKvsSink) (last : Option GstStateChange) : Prop where
  known : StreamsKnown sink
  ready : sink.state = .ready → ∀ stream, sink.data.kinesisVideoStream = some stream →
    (isStopped sink.calls stream = true ↔ last = some .pausedToReady)

/-- Pads that are not active make no use of the stream. -/
theorem inactive_input_uses_no_stream (admitted : accepts sink input = true)
    (inactive : sink.state.streaming = false)
    (still : ∀ transition outcome, input ≠ .changeState transition outcome)
    (made : InputCall sink input call) : call.usedStream = none := by
  cases made with
  | event | buffer | noBuffer =>
    simp [accepts, GstKvsSink.padDelivers, inactive] at admitted
  | late | report | destroyed => rfl
  | setUp => exact absurd rfl (still _ _)
  | stopped => exact absurd rfl (still _ _)

private theorem quiet_input_keeps_stop_invariant (pic : Pic) (held : StopInvariant sink last)
    (active : ActiveStreamRuns sink) (admitted : accepts sink input = true)
    (still : ∀ transition outcome, input ≠ .changeState transition outcome) :
    StopInvariant (applyInput pic sink input) last ∧ ActiveStreamRuns (applyInput pic sink input) := by
  obtain ⟨stays, grown⟩ := input_stays pic sink input still
  refine ⟨⟨step_keeps_streams_known held.known (step_eq_some.mpr ⟨admitted, rfl⟩), ?_⟩, ?_⟩
  · intro ready stream same
    rw [stays.state] at ready
    rw [stays.stream] at same
    have unchanged : isStopped (applyInput pic sink input).calls stream =
        isStopped sink.calls stream :=
      grown.foldl_unchanged (fun stopped call made => stop_step_other
        (inactive_input_uses_no_stream admitted (by rw [ready]; rfl) still made) stream stopped) false
    rw [unchanged]
    exact held.ready ready stream same
  · intro streaming stream same
    rw [stays.state] at streaming
    rw [stays.stream] at same
    exact grows_running (active streaming stream same) grown (input_never_stops still stream)

/-- A change that the parent class refuses leaves the element where it was. -/
theorem refused_change_keeps_stop_invariant (pic : Pic) (held : StopInvariant sink last)
    (active : ActiveStreamRuns sink)
    (admitted : accepts sink (.changeState transition outcome) = true)
    (parent : outcome.parentChanged = false) :
    StopInvariant (changeState pic sink transition outcome) last ∧
      ActiveStreamRuns (changeState pic sink transition outcome) := by
  have known : StreamsKnown (changeState pic sink transition outcome) :=
    step_keeps_streams_known held.known (step_eq_some.mpr ⟨admitted, rfl⟩)
  have current := accepted_transition admitted
  have changed := change_state_cases pic sink transition outcome
  generalize changeState pic sink transition outcome = next at changed known
  have inNull (state : next.state = .null) : StopInvariant next last ∧ ActiveStreamRuns next :=
    ⟨⟨known, fun ready => by simp [state] at ready⟩, fun streaming => by
      simp [state, GstState.streaming] at streaming⟩
  cases changed with
  | started _ _ changed => exact absurd (changed.symm.trans parent) (by decide)
  | startedInVain _ creates => exact inNull ((congrArg (·.state) creates.lasting).trans current)
  | notStarted _ _ kept => exact inNull ((congrArg (·.state) kept.lasting).trans current)
  | collecting changed => exact absurd (changed.symm.trans parent) (by decide)
  | collectingInVain =>
    exact ⟨⟨known, fun ready stream same =>
        (is_stopped_snoc sink.calls _ stream).symm ▸ held.ready ready stream same⟩,
      fun streaming stream same =>
        (is_stopped_snoc sink.calls _ stream).trans (active streaming stream same)⟩
  | stopped changed => exact absurd (changed.symm.trans parent) (by decide)
  | nothingToStop changed => exact absurd (changed.symm.trans parent) (by decide)
  | moved changed => exact absurd (changed.symm.trans parent) (by decide)
  | refused =>
    exact ⟨⟨known, fun ready stream same =>
        (is_stopped_snoc sink.calls _ stream).symm ▸ held.ready ready stream same⟩,
      fun streaming stream same =>
        (is_stopped_snoc sink.calls _ stream).trans (active streaming stream same)⟩

/-- A fresh stream is not stopped. -/
theorem created_stream_is_running (known : StreamsKnown sink) (creates : CreatesStream sink created) :
    isStopped created.calls sink.nextStream = false := by
  refine untouched_is_running fun call member used => ?_
  rcases creates.calls.old_or_new member with old | new
  · exact Nat.lt_irrefl _ (known.used call old _ used)
  · rw [set_up_uses_none new] at used
    cases used

/-- A successful change leads to an active element with a running stream unless
it is the way back up from READY. -/
theorem successful_change_runs_iff (pic : Pic) (held : StopInvariant sink last) (active : ActiveStreamRuns sink)
    (admitted : accepts sink (.changeState transition outcome) = true)
    (parent : outcome.parentChanged = true) :
    StopInvariant (changeState pic sink transition outcome) (some transition) ∧
      (ActiveStreamRuns (changeState pic sink transition outcome) ↔
        ∀ earlier ∈ last, NotARestart earlier transition) := by
  have known : StreamsKnown (changeState pic sink transition outcome) :=
    step_keeps_streams_known held.known (step_eq_some.mpr ⟨admitted, rfl⟩)
  have current := accepted_transition admitted
  have changed := change_state_cases pic sink transition outcome
  generalize changeState pic sink transition outcome = next at changed known
  have inactive (state : next.state.streaming = false) (other : transition ≠ .readyToPaused) :
      ActiveStreamRuns next ↔ ∀ earlier ∈ last, NotARestart earlier transition :=
    ⟨fun _ _ _ both => other both.2, fun _ streaming => by simp [state] at streaming⟩
  cases changed with
  | started _ creates =>
    refine ⟨⟨known, fun _ stream same => ?_⟩, inactive rfl (by rintro ⟨⟩)⟩
    cases creates.stream.symm.trans same
    have running := created_stream_is_running held.known creates
    exact ⟨fun stopped => Bool.noConfusion (running.symm.trans stopped), by rintro ⟨⟩⟩
  | startedInVain _ _ unchanged => exact absurd (unchanged.symm.trans parent) (by decide)
  | notStarted _ _ kept =>
    have state : next.state = .null := (congrArg (·.state) kept.lasting).trans current
    exact ⟨⟨known, fun ready => by simp [state] at ready⟩, inactive (by rw [state]; rfl) (by rintro ⟨⟩)⟩
  | collecting =>
    refine ⟨⟨known, by rintro ⟨⟩⟩, ?_⟩
    obtain ⟨stream, same⟩ := held.known.held (by simp [current, GstStateChange.current])
    have stopped := held.ready current stream same
    constructor
    · rintro runs earlier came ⟨rfl, -⟩
      have running := runs rfl stream same
      exact Bool.noConfusion (running.symm.trans (stopped.mpr came))
    · intro never _ other held
      cases same.symm.trans held
      rw [enter_calls, collect_start_calls, Bool.eq_false_iff]
      exact fun was => never _ (stopped.mp was) ⟨rfl, rfl⟩
  | collectingInVain unchanged => exact absurd (unchanged.symm.trans parent) (by decide)
  | @stopped stream _ _ same =>
    refine ⟨⟨known, fun _ other held => ?_⟩, inactive rfl (by rintro ⟨⟩)⟩
    cases same.symm.trans held
    simp [stopStep]
  | nothingToStop _ none =>
    obtain ⟨stream, same⟩ := held.known.held (by simp [current, GstStateChange.current])
    cases none.symm.trans same
  | moved _ across =>
    rcases across with rfl | rfl | rfl
    · have runs : ActiveStreamRuns (sink.enter .playing) :=
        fun _ => active (by rw [current]; rfl)
      exact ⟨⟨known, by rintro ⟨⟩⟩, ⟨fun _ _ _ both => GstStateChange.noConfusion both.2, fun _ => runs⟩⟩
    · have runs : ActiveStreamRuns (sink.enter .paused) :=
        fun _ => active (by rw [current]; rfl)
      exact ⟨⟨known, by rintro ⟨⟩⟩, ⟨fun _ _ _ both => GstStateChange.noConfusion both.2, fun _ => runs⟩⟩
    · exact ⟨⟨known, by rintro ⟨⟩⟩, inactive rfl (by rintro ⟨⟩)⟩
  | refused unchanged => exact absurd (unchanged.symm.trans parent) (by decide)

private theorem successful_changes_cons (input : Input) (rest : List Input) :
    (∃ transition outcome, input = .changeState transition outcome ∧ outcome.parentChanged = true ∧
      successfulChanges (input :: rest) = transition :: successfulChanges rest) ∨
    ((∀ transition outcome, input = .changeState transition outcome → outcome.parentChanged = false) ∧
      successfulChanges (input :: rest) = successfulChanges rest) := by
  cases input with
  | changeState transition outcome =>
    cases parent : outcome.parentChanged with
    | true => exact .inl ⟨transition, outcome, rfl, parent, by simp [successfulChanges, parent]⟩
    | false =>
      refine .inr ⟨fun _ _ same => ?_, by simp [successfulChanges, parent]⟩
      cases same
      exact parent
  | _ => exact .inr ⟨by rintro _ _ ⟨⟩, rfl⟩

private theorem stop_invariant_runs_iff (held : StopInvariant sink last) (active : ActiveStreamRuns sink)
    (ran : run (step pic) sink inputs = some final) :
    Throughout (step pic) ActiveStreamRuns sink inputs ↔
      (last.toList ++ successfulChanges inputs).IsChain NotARestart := by
  induction inputs generalizing sink last with
  | nil =>
    refine ⟨fun _ => ?_, fun _ => active⟩
    cases last <;> simp [successfulChanges]
  | cons input rest ih =>
    rw [run_cons] at ran
    obtain ⟨next, accepted, ran⟩ := Option.bind_eq_some_iff.mp ran
    have later : Throughout (step pic) ActiveStreamRuns sink (input :: rest) ↔
        Throughout (step pic) ActiveStreamRuns next rest := by
      simp only [Throughout, accepted, Option.some.injEq, forall_eq', active, true_and]
    rw [later]
    obtain ⟨admitted, rfl⟩ := step_eq_some.mp accepted
    obtain ⟨transition, outcome, rfl, parent, changes⟩ | ⟨refused, changes⟩ :=
      successful_changes_cons input rest
    · obtain ⟨kept, exact_step⟩ :=
        successful_change_runs_iff pic held active admitted parent
      have split : (last.toList ++ successfulChanges (.changeState transition outcome :: rest)).IsChain
          NotARestart ↔ (∀ earlier ∈ last, NotARestart earlier transition) ∧
            ((some transition).toList ++ successfulChanges rest).IsChain NotARestart := by
        rw [changes]
        cases last <;> simp
      rw [split, ← exact_step]
      constructor
      · intro always
        have runs := throughout_iff_prefixes.mp always [] _ List.nil_prefix rfl
        exact ⟨runs, (ih kept runs ran).mp always⟩
      · rintro ⟨runs, chain⟩
        exact (ih kept runs ran).mpr chain
    · rw [changes]
      obtain ⟨transition, outcome, rfl⟩ | still := state_change_or_not input
      · obtain ⟨kept, runs⟩ := refused_change_keeps_stop_invariant pic held active admitted
          (refused transition outcome rfl)
        exact ih kept runs ran
      · obtain ⟨kept, runs⟩ :=
          quiet_input_keeps_stop_invariant pic held active admitted still
        exact ih kept runs ran

/-! ## Submissions -/

private theorem submits_to_used (submits : Call.submitsTo call = some stream) :
    call.usedStream = some stream := by
  cases call <;> first | exact submits | cases submits

private theorem streaming_when_submitting (admitted : accepts sink input = true)
    (made : InputCall sink input call) (submits : call.submitsTo = some stream) :
    sink.state.streaming = true ∧ sink.data.kinesisVideoStream = some stream ∧
      ∀ transition outcome, input ≠ .changeState transition outcome := by
  cases made with
  | event found made =>
    simp only [accepts, GstKvsSink.padDelivers, Bool.and_eq_true] at admitted
    cases made <;> cases submits
    rename_i held
    exact ⟨admitted.2.1.1, held, by rintro _ _ ⟨⟩⟩
  | buffer found made =>
    simp only [accepts, GstKvsSink.padDelivers, Bool.and_eq_true] at admitted
    exact ⟨admitted.2.1.1, buffer_uses_held made (submits_to_used submits), by rintro _ _ ⟨⟩⟩
  | noBuffer made =>
    simp only [accepts, Bool.and_eq_true] at admitted
    exact ⟨admitted.2, buffer_uses_held made (submits_to_used submits), by rintro _ _ ⟨⟩⟩
  | late | report | destroyed => cases submits
  | setUp made => cases made <;> cases submits
  | stopped => cases submits

/-- While an active element has a running stream, what it submits reaches a
running stream. -/
theorem step_submits_to_running (active : ActiveStreamRuns sink) (fits : SubmitsToRunning sink.calls)
    (accepted : step pic sink input = some next) : SubmitsToRunning next.calls := by
  obtain ⟨admitted, rfl⟩ := step_eq_some.mp accepted
  obtain ⟨added, grew, made⟩ := input_calls pic sink input
  rw [grew]
  refine fits.append fun early call late split stream submits => ?_
  rw [split] at made
  obtain ⟨streaming, held, still⟩ := streaming_when_submitting admitted
    (made call (List.mem_append_right _ List.mem_cons_self)) submits
  refine running_stays_running (active streaming stream held) ?_
  rintro _ member done rfl
  exact input_never_stops still stream done (made _ (List.mem_append_left _ member))

/-- **Stopping and restarting.** In a run of an element, PAUSED and PLAYING have
a stream that is not stopped exactly when the element never goes from PAUSED
down to READY and straight up again. Nothing is then submitted to a stream that
is stopped. -/
theorem active_stream_runs_without_restart (ran : runFromInit pic now inputs = some final) :
    (Throughout (step pic) ActiveStreamRuns (gstKvsSinkInit now) inputs ↔
      (successfulChanges inputs).IsChain NotARestart) ∧
    ((successfulChanges inputs).IsChain NotARestart → SubmitsToRunning final.calls) := by
  have initially : StopInvariant (gstKvsSinkInit now) none := ⟨init_streams_known now, nofun⟩
  have exact_run := stop_invariant_runs_iff initially nofun ran
  refine ⟨exact_run, fun chain => ?_⟩
  have none : SubmitsToRunning (gstKvsSinkInit now).calls := each_entry_nil
  have kept := (exact_run.mpr chain).carries
    (fun _ _ _ active fits accepted => step_submits_to_running active fits accepted) none
  exact kept.at_end ran

/-- One H.264 session that goes down to READY and straight up again, and a buffer. -/
def turnBackInReady : List Input :=
  [.requestNewPad .video true] ++ upTo (fun _ => some [h264Caps]) ++
    [.changeState .pausedToReady {}, .changeState .readyToPaused {},
      .buffer 0 ⟨0, 0, 0, [1]⟩ {}]

/-- Every change succeeds, the element is in PAUSED with a stopped stream, and
the buffer is submitted to it. -/
theorem restart_streams_into_stopped :
    ∃ sink, runFromInit .sample 0 turnBackInReady = some sink ∧
      ¬ ActiveStreamRuns sink ∧ ¬ SubmitsToRunning sink.calls := by
  have evaluated : (runFromInit .sample 0 turnBackInReady).map (fun sink =>
      (sink.state, sink.data.kinesisVideoStream, isStopped sink.calls 0,
        isStopped (sink.calls.take 4) 0, (sink.calls.drop 4).head?.bind Call.submitsTo)) =
      some (.paused, some 0, true, true, some 0) := by decide
  obtain ⟨sink, ran, facts⟩ := Option.map_eq_some_iff.mp evaluated
  simp only [Prod.mk.injEq] at facts
  obtain ⟨state, held, stopped, before, submitted⟩ := facts
  refine ⟨sink, ran, fun active => ?_, fun fits => ?_⟩
  · exact Bool.noConfusion ((active (by rw [state]; rfl) 0 held).symm.trans stopped)
  · obtain ⟨call, first, submits⟩ := Option.bind_eq_some_iff.mp submitted
    obtain ⟨rest, split⟩ := List.head?_eq_some_iff.mp first
    have running := fits (sink.calls.take 4) call rest
      (by rw [← split, List.take_append_drop]) 0 submits
    exact Bool.noConfusion (running.symm.trans before)

/-- The same element when it goes on down to NULL before it comes up again. -/
theorem restart_through_null_streams_into_running :
    ∃ final, runFromInit .sample 0 ([.requestNewPad .video true] ++
        upTo (fun _ => some [h264Caps]) ++ downToNull ++ upTo (fun _ => some [h264Caps])) =
          some final ∧
      (Throughout (step .sample) ActiveStreamRuns (gstKvsSinkInit 0)
        ([.requestNewPad .video true] ++ upTo (fun _ => some [h264Caps]) ++ downToNull ++
          upTo (fun _ => some [h264Caps]))) ∧ SubmitsToRunning final.calls := by
  obtain ⟨final, ran⟩ := Option.isSome_iff_exists.mp (show (runFromInit .sample 0
    ([.requestNewPad .video true] ++ upTo (fun _ => some [h264Caps]) ++ downToNull ++
      upTo (fun _ => some [h264Caps]))).isSome = true by decide)
  have chain : (successfulChanges ([.requestNewPad .video true] ++ upTo (fun _ => some [h264Caps]) ++
      downToNull ++ upTo (fun _ => some [h264Caps]))).IsChain NotARestart := by
    simp [upTo, downToNull, successfulChanges, NotARestart]
  have exact_run := active_stream_runs_without_restart ran
  exact ⟨final, ran, exact_run.1.mpr chain, exact_run.2 chain⟩

end KvsProducer
