import KvsProducer.SinkMachineProofs

/-! The status that a callback thread leaves for the buffer handler, across
sessions. Nothing on the way up from NULL writes it, so a session inherits what
the one before it left; from a clear status, a session whose stream reports
nothing goes through undisturbed. -/
namespace KvsProducer
open Gst History Runs

/-- What may follow a frame in a call of the handler that goes well. -/
inductive AfterFrame : Call → Prop where
  | metrics : AfterFrame (.emitMetrics framePts first)
  | release : AfterFrame .releaseBuffer
  | warning : AfterFrame (.putFrameWarning status)
  | done : AfterFrame (.bufferDone .ok)

/-- The handler made a frame of the buffer, submitted it to the stream first of
all, and returned GST_FLOW_OK. -/
def HandedOver (before after : List Call) (stream : StreamId) (track : GstKvsSinkTrackData)
    (buffer : GstBuffer) : Prop :=
  ∃ frame status rest, after = before ++ .bufferArrived :: .statusPutFrame stream frame status :: rest ∧
    frame.trackId = track.trackId ∧ frame.frameData = buffer.bytes ∧
    (∀ call ∈ rest, AfterFrame call) ∧ Call.bufferDone .ok ∈ rest

/-- When `put_frame` asks for metrics after this buffer, it gets them. -/
def MetricsAnswered (sink : GstKvsSink) (track : GstKvsSinkTrackData) (buffer : GstBuffer)
    (outcome : BufferOutcome) : Prop :=
  readsMetrics sink (frameFlagsOf sink.data.mediaType track.trackType
    (buffer.flagIsSet bufferFlagDeltaUnit)) outcome.putStatus = true →
    outcome.streamMetricsRead = true ∧ outcome.clientMetricsRead = true

/-! ## One buffer -/

private theorem clean_up_after_frame (sink : GstKvsSink) (status : Status) :
    ∃ rest, (cleanUpBuffer sink true status .ok).calls = sink.calls ++ rest ∧
      (∀ call ∈ rest, AfterFrame call) ∧ Call.bufferDone .ok ∈ rest := by
  by_cases failed : statusFailed status = true
  · refine ⟨[.releaseBuffer, .putFrameWarning status, .bufferDone .ok], ?_, ?_, by simp⟩
    · simp [cleanUpBuffer, failed]
    · simp only [List.forall_mem_cons, List.not_mem_nil, false_implies, implies_true, and_true]
      exact ⟨.release, .warning, .done⟩
  · refine ⟨[.releaseBuffer, .bufferDone .ok], ?_, ?_, by simp⟩
    · simp [cleanUpBuffer, failed]
    · simp only [List.forall_mem_cons, List.not_mem_nil, false_implies, implies_true, and_true]
      exact ⟨.release, .done⟩

theorem anchored_reads_metrics (sink : GstKvsSink) (track : GstKvsSinkTrackData) (delta : Bool)
    (buffer : GstBuffer) (now : UInt64) (flags : FrameFlags) (status : Status) :
    readsMetrics (anchorTimeline (noteVideoKeyFrame sink track delta) buffer now).1 flags status =
      readsMetrics sink flags status := by
  obtain ⟨_, _, _, changed⟩ := anchored_changes sink track delta buffer now
  rw [changed]
  rfl

private theorem anchor_keeps_bytes (sink : GstKvsSink) (buffer : GstBuffer) (now : UInt64) :
    (anchorTimeline sink buffer now).2.bytes = buffer.bytes := by
  simp only [anchorTimeline]
  split
  · rfl
  · split <;> rfl

/-- How `put_frame` ends on a stream, and what it leaves on record. -/
theorem put_frame_cases (frameData : List UInt8) (pts dts : UInt64) (flags : FrameFlags)
    (trackId : ℕ) (index : UInt32) (outcome : BufferOutcome)
    (held : sink.data.kinesisVideoStream = some stream) :
    ∃ frame, frame.trackId = trackId ∧ frame.frameData = frameData ∧
      ((readsMetrics sink flags outcome.putStatus = true ∧
          ¬ (outcome.streamMetricsRead = true ∧ outcome.clientMetricsRead = true) ∧
          putFrame sink frameData pts dts flags trackId index outcome =
            (sink.log (.statusPutFrame stream frame outcome.putStatus), .threw)) ∨
        ((readsMetrics sink flags outcome.putStatus = true →
            outcome.streamMetricsRead = true ∧ outcome.clientMetricsRead = true) ∧
          ∃ put rest, putFrame sink frameData pts dts flags trackId index outcome =
              (put, .returned outcome.putStatus) ∧
            put.calls = sink.calls ++ .statusPutFrame stream frame outcome.putStatus :: rest ∧
            ∀ call ∈ rest, AfterFrame call)) := by
  refine ⟨createKinesisVideoFrame pts dts flags frameData trackId index, rfl, rfl, ?_⟩
  by_cases reads : readsMetrics sink flags outcome.putStatus = true
  · by_cases answered : outcome.streamMetricsRead = true ∧ outcome.clientMetricsRead = true
    · simp only [putFrame, held, reads, answered, ↓reduceIte]
      refine .inr ⟨fun _ => ⟨trivial, trivial⟩, _, [.emitMetrics (createKinesisVideoFrame pts dts
        flags frameData trackId index).presentationTs sink.data.onFirstFrame], rfl, ?_, ?_⟩
      · simp
      · exact fun call member => List.mem_singleton.mp member ▸ .metrics
    · have unanswered : (!outcome.streamMetricsRead || !outcome.clientMetricsRead) = true := by
        simpa [Decidable.imp_iff_not_or] using answered
      exact .inl ⟨reads, answered, by simp only [putFrame, held, reads, unanswered, ↓reduceIte]⟩
  · simp only [putFrame, held, reads]
    exact .inr ⟨fun impossible => absurd impossible (by decide), _, [], rfl, rfl,
      fun call member => absurd member List.not_mem_nil⟩

/-- A mapped buffer is handed over exactly when the metrics it asks for come. -/
theorem submit_hands_over_iff (held : sink.data.kinesisVideoStream = some stream)
    (entered : sink.calls = before ++ [.bufferArrived]) :
    HandedOver before (submitBuffer sink track buffer outcome).calls stream track buffer ↔
      MetricsAnswered sink track buffer outcome := by
  have sameCalls := anchored_calls sink track (buffer.flagIsSet bufferFlagDeltaUnit) buffer outcome.now
  have sameBytes := anchor_keeps_bytes
    (noteVideoKeyFrame sink track (buffer.flagIsSet bufferFlagDeltaUnit)) buffer outcome.now
  have sameReads := anchored_reads_metrics sink track (buffer.flagIsSet bufferFlagDeltaUnit) buffer
    outcome.now
  have sameStream := session_stream <| anchored_keeps_session sink track
    (buffer.flagIsSet bufferFlagDeltaUnit) buffer outcome.now
  simp only [submitBuffer, MetricsAnswered, ← sameReads]
  generalize anchorTimeline (noteVideoKeyFrame sink track (buffer.flagIsSet bufferFlagDeltaUnit))
    buffer outcome.now = anchored at sameCalls sameBytes sameReads sameStream
  obtain ⟨frame, sameTrack, sameData, thrown | returned⟩ := put_frame_cases
    anchored.2.bytes anchored.2.pts anchored.2.dts
    (frameFlagsOf sink.data.mediaType track.trackType (buffer.flagIsSet bufferFlagDeltaUnit))
    track.trackId anchored.1.data.frameCount outcome
    (sameStream.trans held)
  · obtain ⟨reads, unanswered, ended⟩ := thrown
    rw [ended]
    refine ⟨?_, fun answered => absurd (answered reads) unanswered⟩
    rintro ⟨_, _, rest, made, _, _, _, done⟩
    simp only [crash_calls, log_calls, sameCalls, entered, List.append_assoc, List.cons_append,
      List.nil_append, List.append_cancel_left_eq, List.cons.injEq, true_and] at made
    rw [← made.2] at done
    cases done
  · obtain ⟨answered, put, rest, ended, made, kinds⟩ := returned
    rw [ended]
    refine ⟨fun _ => answered, fun _ => ?_⟩
    obtain ⟨cleaned, cleanedCalls, cleanedKinds, done⟩ :=
      clean_up_after_frame put.countFrame outcome.putStatus
    refine ⟨frame, outcome.putStatus, rest ++ cleaned, ?_, sameTrack, sameData.trans sameBytes,
      fun call member => ?_, List.mem_append_right _ done⟩
    · simp only [cleanedCalls, count_frame_calls, made, sameCalls, entered, List.append_assoc,
        List.cons_append, List.nil_append]
    · rcases List.mem_append.mp member with early | late
      · exact kinds call early
      · exact cleanedKinds call late

/-- With a clear status, a buffer that is neither dropped nor unmapped is handed
over exactly when the metrics it asks for come. -/
theorem buffer_hands_over_iff (clear : sink.data.streamStatus = statusSuccess)
    (held : sink.data.kinesisVideoStream = some stream) (kept : isDroppable buffer = false)
    (mapped : outcome.mapped = true) :
    HandedOver sink.calls (gstKvsSinkHandleBuffer pic sink (some (track, buffer)) outcome).calls
        stream track buffer ↔ MetricsAnswered sink track buffer outcome := by
  have settled : (settleTimestamps (sink.log .bufferArrived) buffer).bytes = buffer.bytes ∧
      (settleTimestamps (sink.log .bufferArrived) buffer).flags = buffer.flags := by
    unfold settleTimestamps
    split
    · split <;> exact ⟨rfl, rfl⟩
    · split <;> exact ⟨rfl, rfl⟩
  have handled : gstKvsSinkHandleBuffer pic sink (some (track, buffer)) outcome =
      submitBuffer ((sink.log .bufferArrived).noteDts (settleTimestamps (sink.log .bufferArrived) buffer))
        track (settleTimestamps (sink.log .bufferArrived) buffer) outcome := by
    simp [gstKvsSinkHandleBuffer, streamErrorGate, clear, statusFailed, handleBufferBody,
      handleArrivedBuffer, kept, mapped]
  rw [handled]
  generalize settleTimestamps (sink.log .bufferArrived) buffer = timed at settled
  have submitted : HandedOver sink.calls
      (submitBuffer ((sink.log .bufferArrived).noteDts timed) track timed outcome).calls stream track
        timed ↔ MetricsAnswered ((sink.log .bufferArrived).noteDts timed) track timed outcome :=
    submit_hands_over_iff held rfl
  simp only [HandedOver, MetricsAnswered, GstBuffer.flagIsSet, settled] at submitted ⊢
  exact submitted

/-! ## Sessions -/

/-- The call does not reset a stream. -/
def NoReset (call : Call) : Prop := ∀ stream done, call ≠ .resetStream stream done

/-- No report of the run carries a status that is kept. -/
def OnlyRecoverable (pic : Pic) (inputs : List Input) : Prop :=
  ∀ status, Input.streamErrorReport status ∈ inputs → pic.isRecoverableError status = true

/-- What a session should be, from the state it starts in: however it goes on,
as long as only recoverable errors are reported, nothing is reset, and each
buffer that can be sent is handed to the stream in hand. The one exception is a
buffer whose metrics cannot be read. -/
def SessionGoesThrough (pic : Pic) (started : GstKvsSink) : Prop :=
  ∀ later sink, run (step pic) started later = some sink → OnlyRecoverable pic later →
    Grows NoReset started.calls sink.calls ∧
    ∀ pad track buffer outcome next, step pic sink (.buffer pad buffer outcome) = some next →
      sink.trackOf pad = some track → isDroppable buffer = false → outcome.mapped = true →
      ∃ stream, sink.data.kinesisVideoStream = some stream ∧
        (HandedOver sink.calls next.calls stream track buffer ↔
          MetricsAnswered sink track buffer outcome)

private theorem body_never_resets (made : BodyCall held trackId call) : NoReset call := by
  rintro stream done rfl
  cases made

/-- With a clear status the error gate adds nothing to a call of the handler. -/
theorem clear_buffer_never_resets (clear : sink.data.streamStatus = statusSuccess) :
    Grows NoReset sink.calls (gstKvsSinkHandleBuffer pic sink arrival outcome).calls ∧
      (gstKvsSinkHandleBuffer pic sink arrival outcome).data.streamStatus = statusSuccess := by
  have handled : gstKvsSinkHandleBuffer pic sink arrival outcome =
      handleBufferBody (sink.log .bufferArrived) arrival outcome := by
    simp [gstKvsSinkHandleBuffer, streamErrorGate, clear, statusFailed]
  rw [handled]
  constructor
  · exact (Grows.snoc (by rintro _ _ ⟨⟩) sink.calls).trans
      ((body_calls (sink.log .bufferArrived) arrival outcome).imp fun _ => body_never_resets)
  · exact (congrArg (·.data.streamStatus)
      (body_keeps_frameless (sink.log .bufferArrived) arrival outcome)).trans clear

private theorem quiet_input_never_resets (made : InputCall sink input call)
    (noBuffer : ∀ pad buffer outcome, input ≠ .buffer pad buffer outcome)
    (noCall : ∀ outcome, input ≠ .noBuffer outcome) : NoReset call := by
  rintro stream done rfl
  cases made with
  | event _ made => cases made
  | buffer => exact noBuffer _ _ _ rfl
  | noBuffer => exact noCall _ rfl
  | setUp made => cases made

private theorem quiet_input_calls (pic : Pic) (sink : GstKvsSink) (input : Input)
    (noBuffer : ∀ pad buffer outcome, input ≠ .buffer pad buffer outcome)
    (noCall : ∀ outcome, input ≠ .noBuffer outcome) :
    Grows NoReset sink.calls (applyInput pic sink input).calls :=
  (input_calls pic sink input).imp fun _ made => quiet_input_never_resets made noBuffer noCall

/-- The status after a change of state is the status before it. -/
theorem change_state_keeps_status (pic : Pic) (sink : GstKvsSink) (transition : GstStateChange)
    (outcome : ChangeStateOutcome) :
    (changeState pic sink transition outcome).data.streamStatus = sink.data.streamStatus :=
  congrArg (·.data.streamStatus) (change_state_keeps_unmoved pic sink transition outcome)

/-- Only buffers and reports write the status. -/
def Input.leavesStatus : Input → Bool
  | .buffer _ _ _ | .noBuffer _ | .streamErrorReport _ => false
  | _ => true

theorem quiet_input_keeps_status (pic : Pic) (sink : GstKvsSink) (quiet : input.leavesStatus = true) :
    (applyInput pic sink input).data.streamStatus = sink.data.streamStatus := by
  cases input with
  | buffer | noBuffer | streamErrorReport => cases quiet
  | changeState transition outcome => exact change_state_keeps_status pic sink transition outcome
  | requestNewPad templ added =>
    exact congrArg (·.data.streamStatus) (request_keeps_padless sink templ added)
  | releasePad pad removed =>
    exact congrArg (·.data.streamStatus) (release_keeps_padless sink pad removed)
  | setProperty property =>
    exact congrArg (·.streamStatus) (set_property_keeps_element sink property).data
  | sinkEvent pad event outcome =>
    obtain ⟨_, _, _, _, changed, _⟩ := sink_event_changes sink pad event outcome
    simp only [applyInput, changed]
  | finalize =>
    obtain ⟨_, _, _, changed, _⟩ := finalize_changes sink
    simp only [applyInput, changed]

/-- A clear status stays clear, and nothing is reset, until a status is kept. -/
theorem clear_status_stays (clear : sink.data.streamStatus = statusSuccess)
    (recoverable : ∀ status, input = .streamErrorReport status → pic.isRecoverableError status = true) :
    Grows NoReset sink.calls (applyInput pic sink input).calls ∧
      (applyInput pic sink input).data.streamStatus = statusSuccess := by
  by_cases quiet : input.leavesStatus = true
  · refine ⟨quiet_input_calls pic sink input ?_ ?_, (quiet_input_keeps_status pic sink quiet).trans clear⟩
    · rintro pad buffer outcome rfl
      cases quiet
    · rintro outcome rfl
      cases quiet
  · cases input with
    | buffer pad buffer outcome =>
      simp only [applyInput, bufferFromPad]
      split
      · exact ⟨.refl _, clear⟩
      · exact clear_buffer_never_resets clear
    | noBuffer outcome => exact clear_buffer_never_resets clear
    | streamErrorReport status =>
      refine ⟨quiet_input_calls pic sink (.streamErrorReport status) (by rintro _ _ _ ⟨⟩) (by rintro _ ⟨⟩), ?_⟩
      simp only [applyInput, streamErrorReport, streamErrorReportHandler, recoverable status rfl]
      cases sink.finalized <;> exact clear
    | _ => exact absurd rfl quiet

/-- A session that starts with a clear status goes through. -/
theorem clear_session_goes_through (known : StreamsKnown started)
    (clear : started.data.streamStatus = statusSuccess) : SessionGoesThrough pic started := by
  intro later sink ran recoverable
  have meets : EachStep (step pic) (fun _ input => ∀ status, input = .streamErrorReport status →
      pic.isRecoverableError status = true) started later :=
    each_step_of_members fun _ input member status is => recoverable status (is ▸ member)
  have always : Throughout (step pic) (fun sink => StreamsKnown sink ∧
      sink.data.streamStatus = statusSuccess ∧ Grows NoReset started.calls sink.calls)
      started later := by
    refine invariant_throughout ?_ ⟨known, clear, .refl _⟩ meets
    intro before input next held met accepted
    obtain ⟨admitted, rfl⟩ := step_eq_some.mp accepted
    obtain ⟨quiet, stays⟩ := clear_status_stays held.2.1 met
    exact ⟨step_keeps_streams_known held.1 accepted, stays, held.2.2.trans quiet⟩
  have kept := always.at_end ran
  refine ⟨kept.2.2, fun pad track buffer outcome next accepted found sendable mapped => ?_⟩
  obtain ⟨admitted, rfl⟩ := step_eq_some.mp accepted
  obtain ⟨stream, held⟩ := kept.1.held (buffer_outside_null admitted)
  refine ⟨stream, held, ?_⟩
  simp only [applyInput, bufferFromPad, found]
  exact buffer_hands_over_iff kept.2.1 held sendable mapped

private theorem same_second_call {before rest after : List Call}
    (grown : Grows kind (before ++ [first, second]) after)
    (made : after = before ++ first :: other :: rest) : second = other := by
  obtain ⟨added, grew, _⟩ := grown
  rw [grew, List.append_assoc, List.append_cancel_left_eq] at made
  exact (List.cons.inj (List.cons.inj made).2).1

/-- The first call of the handler meets a status that the session inherited. -/
theorem inherited_status_is_met (failed : sink.data.streamStatus ≠ statusSuccess)
    (held : sink.data.kinesisVideoStream = some stream) :
    ¬ HandedOver sink.calls (gstKvsSinkHandleBuffer pic sink (some (track, buffer)) outcome).calls
        stream track buffer := by
  rintro ⟨frame, status, rest, made, -⟩
  have heldThen : (sink.log .bufferArrived).data.kinesisVideoStream = some stream := held
  simp only [gstKvsSinkHandleBuffer, reset_held heldThen] at made
  split at made
  · have grown : Grows (BodyCall none none) _ _ := clean_up_calls
      ((sink.log .bufferArrived).log (.elementError (.streamError sink.data.streamStatus)))
      true statusSuccess .error
    simp only [log_calls, List.append_assoc, List.cons_append, List.nil_append] at grown
    exact Call.noConfusion (same_second_call grown made)
  · split at made
    · simp at made
    · have grown := body_calls (clearStreamStatus ((sink.log .bufferArrived).log
        (.resetStream stream outcome.resetDone))) (some (track, buffer)) outcome
      simp only [clear_status_calls, log_calls, List.append_assoc, List.cons_append,
        List.nil_append] at grown
      exact Call.noConfusion (same_second_call grown made)
  · rename_i proceeds
    exact failed ((gate_proceeds_iff _ _ _).mp proceeds)

/-- A pad with a collect entry delivers once the element is in PAUSED again. -/
theorem attached_pad_delivers (attached : pad ∈ sink.pads) (entry : pad ∈ sink.collect.map (·.pad))
    (creates : CreatesStream sink created) :
    ∃ track, ((created.enter .ready).collectPadsStart.enter .paused).trackOf pad = some track ∧
      ((created.enter .ready).collectPadsStart.enter .paused).padDelivers pad = true := by
  have pads : created.pads = sink.pads := congrArg (·.pads) creates.lasting
  rw [← creates.tracks.pads] at entry
  obtain ⟨track, member, same⟩ := List.mem_map.mp entry
  have found : (((created.enter .ready).collectPadsStart.enter .paused).trackOf pad).isSome = true := by
    refine List.find?_isSome.mpr ⟨{ track with eos := false }, ?_, by simp [same]⟩
    exact List.mem_map.mpr ⟨track, member, rfl⟩
  obtain ⟨cleared, is⟩ := Option.isSome_iff_exists.mp found
  obtain ⟨_, _, rfl⟩ := List.mem_map.mp (List.mem_of_find?_eq_some is)
  refine ⟨_, is, ?_⟩
  have listed : ((created.enter .ready).collectPadsStart.enter .paused).pads.contains pad = true :=
    List.contains_iff_mem.mpr (pads.symm ▸ attached)
  simp only [GstKvsSink.padDelivers, is, Option.any_some, enter_state, GstState.streaming, listed]
  rfl

/-- **Errors across sessions.** A session that a successful NULL_TO_READY begins
goes through, whatever it does next, if the status is clear at that moment; when
a pad is attached, only then. -/
theorem session_goes_through_iff_clear (reached : runFromInit pic now earlier = some sink)
    (began : step pic sink (.changeState .nullToReady outcome) = some started)
    (ready : started.state = .ready) :
    (sink.data.streamStatus = statusSuccess → SessionGoesThrough pic started) ∧
    ((∃ pad ∈ sink.pads, pad ∈ sink.collect.map (·.pad)) → SessionGoesThrough pic started →
      sink.data.streamStatus = statusSuccess) := by
  have known := step_keeps_streams_known (reachable_streams_known reached) began
  obtain ⟨admitted, rfl⟩ := step_eq_some.mp began
  have status := change_state_keeps_status pic sink .nullToReady outcome
  simp only [applyInput] at known ready status ⊢
  refine ⟨fun clear => clear_session_goes_through known (status.trans clear), ?_⟩
  rintro ⟨pad, attached, entry⟩ goesThrough
  obtain ⟨created, _, creates, began⟩ := session_began admitted ready
  rw [began] at goesThrough status
  obtain ⟨uncrashed, unfinalized⟩ := accepted_untouched admitted
  have sound : created.crashed = false := creates.crashed.trans uncrashed
  have alive : created.finalized = false := (congrArg (·.finalized) creates.lasting).trans unfinalized
  obtain ⟨track, found, delivers⟩ := attached_pad_delivers attached entry creates
  have paused : run (step pic) (created.enter .ready) [.changeState .readyToPaused {}] =
      some ((created.enter .ready).collectPadsStart.enter .paused) := by
    have admitted : accepts (created.enter .ready) (.changeState .readyToPaused {}) = true := by
      simp [accepts, GstKvsSink.enter, sound, alive, GstStateChange.current]
    rw [run_cons, step_eq_some.mpr ⟨admitted, rfl⟩]
    rfl
  obtain ⟨_, sends⟩ := goesThrough _ _ paused (fun _ member => by simp at member)
  generalize madePaused : (created.enter .ready).collectPadsStart.enter .paused = here
    at found delivers sends
  have statusHere : here.data.streamStatus = sink.data.streamStatus := madePaused ▸ status
  have admittedHere : accepts here (.buffer pad ⟨0, 0, 0, []⟩ {}) = true := by
    simp only [accepts, delivers, Bool.and_true, Bool.and_eq_true, Bool.not_eq_true']
    exact madePaused ▸ ⟨sound, alive⟩
  obtain ⟨stream, held, exact_when⟩ := sends pad track ⟨0, 0, 0, []⟩ {} _
    (step_eq_some.mpr ⟨admittedHere, rfl⟩) found rfl rfl
  have handed := exact_when.mpr fun _ => ⟨rfl, rfl⟩
  simp only [applyInput, bufferFromPad, found] at handed
  by_contra failed
  exact inherited_status_is_met (fun clear => failed (statusHere.symm.trans clear)) held handed

/-- A session with one video pad that meets these inputs and goes down to NULL. -/
def sessionWith (inputs : List Input) : List Input :=
  [.requestNewPad .video true] ++ upTo (fun _ => some [h264Caps]) ++ inputs ++ downToNull

/-- The status of a retriable report is cleared by the next buffer, so the
session after it goes through. -/
theorem session_after_a_reset_goes_through :
    ∃ sink started, runFromInit .sample 0
        (sessionWith [.streamErrorReport 2, .buffer 0 ⟨0, 0, 0, [1]⟩ {}]) = some sink ∧
      step .sample sink (.changeState .nullToReady { allowedCaps := fun _ => some [h264Caps] }) =
        some started ∧ SessionGoesThrough .sample started := by
  have evaluated : (runFromInit .sample 0
      (sessionWith [.streamErrorReport 2, .buffer 0 ⟨0, 0, 0, [1]⟩ {}])).map (fun sink =>
        (sink.data.streamStatus, (step .sample sink (.changeState .nullToReady
          { allowedCaps := fun _ => some [h264Caps] })).map (·.state))) =
      some (statusSuccess, some .ready) := by decide
  obtain ⟨sink, reached, facts⟩ := Option.map_eq_some_iff.mp evaluated
  simp only [Prod.mk.injEq] at facts
  obtain ⟨clear, ready⟩ := facts
  obtain ⟨started, began, ready⟩ := Option.map_eq_some_iff.mp ready
  exact ⟨sink, started, reached, began,
    (session_goes_through_iff_clear reached began ready).1 clear⟩

/-- A fatal report of one session fails the next one: NULL_TO_READY succeeds,
nothing is reported for the new stream, and its first buffer is refused. -/
theorem session_after_a_fatal_error_is_refused :
    ∃ sink started, runFromInit .sample 0 (sessionWith [.streamErrorReport 3]) = some sink ∧
      step .sample sink (.changeState .nullToReady { allowedCaps := fun _ => some [h264Caps] }) =
        some started ∧ started.state = .ready ∧ ¬ SessionGoesThrough .sample started := by
  have evaluated : (runFromInit .sample 0
      (sessionWith [.streamErrorReport 3] ++ upTo (fun _ => some [h264Caps]))).map (fun sink =>
        (sink.data.streamStatus, sink.data.kinesisVideoStream, sink.trackOf 0,
          accepts sink (.buffer 0 ⟨0, 0, 0, [1]⟩ {}))) =
      some (3, some 1, some ⟨0, false, .video, 1⟩, true) := by decide
  obtain ⟨paused, ran, facts⟩ := Option.map_eq_some_iff.mp evaluated
  simp only [Prod.mk.injEq] at facts
  obtain ⟨status, held, found, admitted⟩ := facts
  rw [runFromInit, run_append] at ran
  obtain ⟨sink, reached, ran⟩ := Option.bind_eq_some_iff.mp ran
  rw [upTo, run_cons] at ran
  obtain ⟨started, began, ran⟩ := Option.bind_eq_some_iff.mp ran
  have ready : started.state = .ready := by
    rw [run_cons] at ran
    obtain ⟨_, accepted, _⟩ := Option.bind_eq_some_iff.mp ran
    exact accepted_transition (step_eq_some.mp accepted).1
  refine ⟨sink, started, reached, began, ready, fun goesThrough => ?_⟩
  obtain ⟨_, sends⟩ := goesThrough _ paused ran (fun _ member => by simp at member)
  obtain ⟨stream, same, exact_when⟩ := sends 0 _ ⟨0, 0, 0, [1]⟩ {} _
    (step_eq_some.mpr ⟨admitted, rfl⟩) found rfl rfl
  cases same.symm.trans held
  have handed := exact_when.mpr fun _ => ⟨rfl, rfl⟩
  simp only [applyInput, bufferFromPad, found] at handed
  exact inherited_status_is_met (by rw [status]; decide) held handed

end KvsProducer
