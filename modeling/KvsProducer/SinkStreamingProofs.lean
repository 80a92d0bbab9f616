import KvsProducer.History
import KvsProducer.SinkStreaming

/-! What events, error reports and buffers can change. Each handler is examined
once: the fields it leaves alone, and the kinds of calls it can make. Later
proofs use these two facts and do not look into the handlers again. -/
namespace KvsProducer
open Gst History

@[simp] theorem log_calls (sink : GstKvsSink) (call : Call) :
    (sink.log call).calls = sink.calls ++ [call] := rfl

@[simp] theorem log_data (sink : GstKvsSink) (call : Call) : (sink.log call).data = sink.data := rfl

/-! ## Buffers -/

/-- The sink without the fields that making frames writes. -/
def GstKvsSink.framelessPart (sink : GstKvsSink) : GstKvsSink :=
  { sink with
    data := { sink.data with
      firstVideoFrame := true, frameCount := 0, onFirstFrame := true, lastDts := 0
      firstPts := gstClockTimeNone, producerStartTime := gstClockTimeNone }
    calls := []
    crashed := false }

/-- The sink without the fields that buffers and error reports write. -/
def GstKvsSink.sessionPart (sink : GstKvsSink) : GstKvsSink := clearStreamStatus sink.framelessPart

@[simp] theorem log_frameless (sink : GstKvsSink) (call : Call) :
    (sink.log call).framelessPart = sink.framelessPart := rfl
@[simp] theorem note_first_frame_frameless (sink : GstKvsSink) :
    sink.noteFirstFrame.framelessPart = sink.framelessPart := rfl
@[simp] theorem clear_status_session (sink : GstKvsSink) :
    (clearStreamStatus sink).sessionPart = sink.sessionPart := rfl

theorem clean_up_keeps_frameless (sink : GstKvsSink) (arrived : Bool) (status : Status)
    (ret : GstFlowReturn) : (cleanUpBuffer sink arrived status ret).framelessPart = sink.framelessPart := by
  simp only [cleanUpBuffer, log_frameless]
  split <;> split <;> simp only [log_frameless]

private theorem put_frame_keeps_frameless (sink : GstKvsSink) (frameData : List UInt8) (pts dts : UInt64)
    (flags : FrameFlags) (trackId : ℕ) (index : UInt32) (outcome : BufferOutcome) :
    (putFrame sink frameData pts dts flags trackId index outcome).1.framelessPart =
      sink.framelessPart := by
  simp only [putFrame]
  cases sink.data.kinesisVideoStream with
  | none => rfl
  | some stream =>
    simp only
    split
    · split <;> simp only [note_first_frame_frameless, log_frameless]
    · simp only [log_frameless]

theorem note_key_frame_changes (sink : GstKvsSink) (track : GstKvsSinkTrackData) (delta : Bool) :
    ∃ firstVideoFrame, noteVideoKeyFrame sink track delta =
      { sink with data := { sink.data with firstVideoFrame } } := by
  unfold noteVideoKeyFrame
  split
  · exact ⟨false, rfl⟩
  · exact ⟨sink.data.firstVideoFrame, rfl⟩

/-- What a mapped buffer writes before it is put. -/
theorem anchored_changes (sink : GstKvsSink) (track : GstKvsSinkTrackData) (delta : Bool)
    (buffer : GstBuffer) (now : UInt64) :
    ∃ firstVideoFrame firstPts producerStartTime,
      (anchorTimeline (noteVideoKeyFrame sink track delta) buffer now).1 = { sink with
        data := { sink.data with firstVideoFrame, firstPts, producerStartTime } } := by
  obtain ⟨firstVideoFrame, noted⟩ := note_key_frame_changes sink track delta
  rw [noted]
  simp only [anchorTimeline]
  split
  · exact ⟨firstVideoFrame, sink.data.firstPts, sink.data.producerStartTime, rfl⟩
  · split <;> exact ⟨firstVideoFrame, _, _, rfl⟩

private theorem anchored_keeps_frameless (sink : GstKvsSink) (track : GstKvsSinkTrackData) (delta : Bool)
    (buffer : GstBuffer) (now : UInt64) :
    (anchorTimeline (noteVideoKeyFrame sink track delta) buffer now).1.framelessPart =
      sink.framelessPart := by
  obtain ⟨_, _, _, changed⟩ := anchored_changes sink track delta buffer now
  rw [changed]
  rfl

theorem anchored_calls (sink : GstKvsSink) (track : GstKvsSinkTrackData) (delta : Bool)
    (buffer : GstBuffer) (now : UInt64) :
    (anchorTimeline (noteVideoKeyFrame sink track delta) buffer now).1.calls = sink.calls := by
  obtain ⟨_, _, _, changed⟩ := anchored_changes sink track delta buffer now
  rw [changed]

private theorem submit_keeps_frameless (sink : GstKvsSink) (track : GstKvsSinkTrackData) (buffer : GstBuffer)
    (outcome : BufferOutcome) :
    (submitBuffer sink track buffer outcome).framelessPart = sink.framelessPart := by
  rw [← anchored_keeps_frameless sink track (buffer.flagIsSet bufferFlagDeltaUnit) buffer outcome.now]
  simp only [submitBuffer]
  split
  all_goals
    rename_i put
    have kept := congrArg (fun result => result.1.framelessPart) put
    simp only [put_frame_keeps_frameless] at kept
    rw [kept]
  · rw [clean_up_keeps_frameless]
    rfl
  · rfl
  · rfl

theorem body_keeps_frameless (sink : GstKvsSink) (arrival : Option (GstKvsSinkTrackData × GstBuffer))
    (outcome : BufferOutcome) :
    (handleBufferBody sink arrival outcome).framelessPart = sink.framelessPart := by
  cases arrival with
  | none => exact clean_up_keeps_frameless _ _ _ _
  | some arrived =>
    obtain ⟨track, buffer⟩ := arrived
    simp only [handleBufferBody, handleArrivedBuffer]
    split
    · exact clean_up_keeps_frameless _ _ _ _
    · split
      · rw [clean_up_keeps_frameless]
        rfl
      · rw [submit_keeps_frameless]
        rfl

private theorem session_of_frameless
    (same : GstKvsSink.framelessPart after = GstKvsSink.framelessPart before) :
    after.sessionPart = before.sessionPart := congrArg clearStreamStatus same

theorem anchored_keeps_session (sink : GstKvsSink) (track : GstKvsSinkTrackData) (delta : Bool)
    (buffer : GstBuffer) (now : UInt64) :
    (anchorTimeline (noteVideoKeyFrame sink track delta) buffer now).1.sessionPart = sink.sessionPart :=
  session_of_frameless (anchored_keeps_frameless sink track delta buffer now)

/-- Only a clear status lets a call through untouched. -/
theorem gate_proceeds_iff (pic : Pic) (streamingType : StreamingType) (status : Status) :
    streamErrorGate pic streamingType status = .proceed ↔ status = statusSuccess := by
  unfold streamErrorGate statusFailed
  by_cases clear : status = statusSuccess
  · simp [clear]
  · simp only [bne_iff_ne, ne_eq, clear, not_false_eq_true, ↓reduceIte, iff_false]
    split <;> nofun

theorem reset_held (held : sink.data.kinesisVideoStream = some stream) (outcome : BufferOutcome) :
    resetHeldStream sink outcome = sink.log (.resetStream stream outcome.resetDone) := by
  simp only [resetHeldStream, held]

/-! The handler by what the error gate says. -/

theorem handler_fails (gate : streamErrorGate pic sink.streamingType sink.data.streamStatus = .fatal)
    (arrival : Option (GstKvsSinkTrackData × GstBuffer)) (outcome : BufferOutcome) :
    gstKvsSinkHandleBuffer pic sink arrival outcome =
      failBuffer (sink.log .bufferArrived) arrival.isSome sink.data.streamStatus := by
  have same : streamErrorGate pic (sink.log .bufferArrived).streamingType
      (sink.log .bufferArrived).data.streamStatus = .fatal := gate
  simp only [gstKvsSinkHandleBuffer, same]
  rfl

theorem handler_proceeds (gate : streamErrorGate pic sink.streamingType sink.data.streamStatus = .proceed)
    (arrival : Option (GstKvsSinkTrackData × GstBuffer)) (outcome : BufferOutcome) :
    gstKvsSinkHandleBuffer pic sink arrival outcome =
      handleBufferBody (sink.log .bufferArrived) arrival outcome := by
  have same : streamErrorGate pic (sink.log .bufferArrived).streamingType
      (sink.log .bufferArrived).data.streamStatus = .proceed := gate
  simp only [gstKvsSinkHandleBuffer, same]

theorem handler_resets (gate : streamErrorGate pic sink.streamingType sink.data.streamStatus = .reset)
    (held : sink.data.kinesisVideoStream = some stream) (alive : sink.crashed = false)
    (arrival : Option (GstKvsSinkTrackData × GstBuffer)) (outcome : BufferOutcome) :
    gstKvsSinkHandleBuffer pic sink arrival outcome =
      handleBufferBody (clearStreamStatus
        ((sink.log .bufferArrived).log (.resetStream stream outcome.resetDone))) arrival outcome := by
  have same : streamErrorGate pic (sink.log .bufferArrived).streamingType
      (sink.log .bufferArrived).data.streamStatus = .reset := gate
  have heldStill : (sink.log .bufferArrived).data.kinesisVideoStream = some stream := held
  have aliveStill : ((sink.log .bufferArrived).log (.resetStream stream outcome.resetDone)).crashed =
    false := alive
  simp only [gstKvsSinkHandleBuffer, same, reset_held heldStill, aliveStill]
  rfl

private theorem reset_keeps_session (sink : GstKvsSink) (outcome : BufferOutcome) :
    (resetHeldStream sink outcome).sessionPart = sink.sessionPart := by
  simp only [resetHeldStream]
  split <;> rfl

/-- A buffer leaves the pads, the tracks, the stream and every property alone. -/
theorem buffer_keeps_session (pic : Pic) (sink : GstKvsSink)
    (arrival : Option (GstKvsSinkTrackData × GstBuffer)) (outcome : BufferOutcome) :
    (gstKvsSinkHandleBuffer pic sink arrival outcome).sessionPart = sink.sessionPart := by
  simp only [gstKvsSinkHandleBuffer]
  split
  · exact session_of_frameless (clean_up_keeps_frameless _ _ _ _)
  · split
    · rw [reset_keeps_session]
      rfl
    · rw [session_of_frameless (body_keeps_frameless _ _ _), clear_status_session,
        reset_keeps_session]
      rfl
  · exact session_of_frameless (body_keeps_frameless _ _ _)

theorem report_keeps_session (pic : Pic) (sink : GstKvsSink) (status : Status) :
    (streamErrorReportHandler pic sink status).sessionPart = sink.sessionPart := by
  simp only [streamErrorReportHandler]
  split <;> rfl

@[simp] theorem count_frame_calls (sink : GstKvsSink) : sink.countFrame.calls = sink.calls := rfl
@[simp] theorem note_first_frame_calls (sink : GstKvsSink) :
    sink.noteFirstFrame.calls = sink.calls := rfl
@[simp] theorem note_dts_calls (sink : GstKvsSink) (buffer : GstBuffer) :
    (sink.noteDts buffer).calls = sink.calls := rfl
@[simp] theorem clear_status_calls (sink : GstKvsSink) :
    (clearStreamStatus sink).calls = sink.calls := rfl
@[simp] theorem crash_calls (sink : GstKvsSink) : sink.crash.calls = sink.calls := rfl

/-- The calls that making a frame of a track can make on a stream; without a
buffer there is no track. -/
inductive BodyCall (stream : Option StreamId) (trackId : Option ℕ) : Call → Prop where
  | put : stream = some held → trackId = some frame.trackId →
      BodyCall stream trackId (.statusPutFrame held frame status)
  | metrics : BodyCall stream trackId (.emitMetrics framePts first)
  | release : BodyCall stream trackId .releaseBuffer
  | warning : BodyCall stream trackId (.putFrameWarning status)
  | done : BodyCall stream trackId (.bufferDone ret)

/-- The calls that handling a buffer can make: those, and what the error gate adds. -/
inductive BufferCall (stream : Option StreamId) (trackId : Option ℕ) : Call → Prop where
  | arrived : BufferCall stream trackId .bufferArrived
  | error : BufferCall stream trackId (.elementError error)
  | reset : stream = some held → BufferCall stream trackId (.resetStream held done)
  | body : BodyCall stream trackId call → BufferCall stream trackId call

theorem clean_up_calls (sink : GstKvsSink) (arrived : Bool) (status : Status) (ret : GstFlowReturn) :
    Grows (BodyCall stream trackId) sink.calls (cleanUpBuffer sink arrived status ret).calls := by
  simp only [cleanUpBuffer, log_calls]
  refine Grows.then ?_ .done
  split
  · refine Grows.then ?_ .warning
    split
    · exact .snoc .release _
    · exact .refl _
  · split
    · exact .snoc .release _
    · exact .refl _

private theorem put_frame_calls (sink : GstKvsSink) (frameData : List UInt8) (pts dts : UInt64)
    (flags : FrameFlags) (trackId : ℕ) (index : UInt32) (outcome : BufferOutcome) :
    Grows (BodyCall sink.data.kinesisVideoStream (some trackId)) sink.calls
      (putFrame sink frameData pts dts flags trackId index outcome).1.calls := by
  simp only [putFrame]
  cases held : sink.data.kinesisVideoStream with
  | none => exact .refl _
  | some stream =>
    have submitted (frame : Frame) (same : frame.trackId = trackId) :
        Grows (BodyCall (some stream) (some trackId)) sink.calls
          (sink.log (.statusPutFrame stream frame outcome.putStatus)).calls :=
      .snoc (.put rfl (congrArg some same.symm)) _
    simp only
    split
    · split
      · exact submitted _ rfl
      · exact (submitted _ rfl).then .metrics
    · exact submitted _ rfl

theorem session_tracks_received (same : GstKvsSink.sessionPart sink = GstKvsSink.sessionPart other) :
    sink.data.trackCpdReceived = other.data.trackCpdReceived :=
  congrArg (·.data.trackCpdReceived) same

theorem session_stream (same : GstKvsSink.sessionPart sink = GstKvsSink.sessionPart other) :
    sink.data.kinesisVideoStream = other.data.kinesisVideoStream :=
  congrArg (·.data.kinesisVideoStream) same

private theorem submit_calls (sink : GstKvsSink) (track : GstKvsSinkTrackData) (buffer : GstBuffer)
    (outcome : BufferOutcome) :
    Grows (BodyCall sink.data.kinesisVideoStream (some track.trackId)) sink.calls
      (submitBuffer sink track buffer outcome).calls := by
  have sameCalls := anchored_calls sink track (buffer.flagIsSet bufferFlagDeltaUnit) buffer outcome.now
  have sameStream := session_stream <| anchored_keeps_session sink track
    (buffer.flagIsSet bufferFlagDeltaUnit) buffer outcome.now
  simp only [submitBuffer]
  generalize anchorTimeline (noteVideoKeyFrame sink track (buffer.flagIsSet bufferFlagDeltaUnit))
    buffer outcome.now = anchored at sameCalls sameStream
  have put := put_frame_calls anchored.1 anchored.2.bytes anchored.2.pts anchored.2.dts
    (frameFlagsOf sink.data.mediaType track.trackType (buffer.flagIsSet bufferFlagDeltaUnit))
    track.trackId anchored.1.data.frameCount outcome
  rw [sameCalls, sameStream] at put
  split <;> rename_i ended <;> rw [ended] at put
  · exact put.trans (clean_up_calls _ _ _ _)
  · exact put
  · exact put

theorem body_calls (sink : GstKvsSink) (arrival : Option (GstKvsSinkTrackData × GstBuffer))
    (outcome : BufferOutcome) :
    Grows (BodyCall sink.data.kinesisVideoStream (arrival.map (·.1.trackId))) sink.calls
      (handleBufferBody sink arrival outcome).calls := by
  cases arrival with
  | none => exact clean_up_calls _ _ _ _
  | some arrived =>
    obtain ⟨track, buffer⟩ := arrived
    simp only [handleBufferBody, handleArrivedBuffer]
    split
    · exact clean_up_calls _ _ _ _
    · split
      · exact clean_up_calls _ _ _ _
      · exact submit_calls (sink.noteDts (settleTimestamps sink buffer)) track
          (settleTimestamps sink buffer) outcome

private theorem reset_calls (sink : GstKvsSink) (outcome : BufferOutcome) :
    Grows (BufferCall sink.data.kinesisVideoStream trackId) sink.calls
      (resetHeldStream sink outcome).calls := by
  simp only [resetHeldStream]
  split
  · exact .refl _
  · rename_i held
    exact .snoc (.reset held) _

/-- Frames and resets of one handler call go to the stream the sink holds, and
its frames carry the id of the buffer's track. -/
theorem buffer_calls (pic : Pic) (sink : GstKvsSink)
    (arrival : Option (GstKvsSinkTrackData × GstBuffer)) (outcome : BufferOutcome) :
    Grows (BufferCall sink.data.kinesisVideoStream (arrival.map (·.1.trackId))) sink.calls
      (gstKvsSinkHandleBuffer pic sink arrival outcome).calls := by
  have entered : Grows (BufferCall sink.data.kinesisVideoStream (arrival.map (·.1.trackId)))
      sink.calls (sink.log .bufferArrived).calls := .snoc .arrived _
  simp only [gstKvsSinkHandleBuffer]
  split
  · exact (entered.then .error).trans ((clean_up_calls _ _ _ _).imp fun _ => .body)
  · have wasReset := entered.trans (reset_calls (sink.log .bufferArrived) outcome)
    split
    · exact wasReset
    · have body := body_calls (clearStreamStatus (resetHeldStream (sink.log .bufferArrived) outcome))
        arrival outcome
      rw [session_stream ((clear_status_session _).trans (reset_keeps_session _ _))] at body
      exact wasReset.trans (body.imp fun _ => .body)
  · exact entered.trans ((body_calls (sink.log .bufferArrived) arrival outcome).imp fun _ => .body)

/-! ## Events -/

/-- The calls that one event of a track can make on a stream. -/
inductive EventCall (stream : Option StreamId) (trackId : ℕ) (event : SinkEvent) : Call → Prop where
  | start : stream = some held → EventCall stream trackId event (.start held trackId accepted)
  | refused : EventCall stream trackId event (.elementError .failedToStartStream)
  | metadata : stream = some held →
      EventCall stream trackId event (.putFragmentMetadata held name value persistent accepted)
  | eofr : event = .eos → stream = some held → EventCall stream trackId event (.putEofr held status)
  | posted : event = .eos → EventCall stream trackId event .postEos

theorem start_changes (event : SinkEvent) (sink : GstKvsSink) (trackId : ℕ) (started : Bool) :
    ∃ calls crashed, startStream sink trackId started = { sink with calls, crashed } ∧
      Grows (EventCall sink.data.kinesisVideoStream trackId event) sink.calls calls := by
  simp only [startStream]
  split
  · exact ⟨_, true, rfl, .refl _⟩
  · rename_i held
    split
    · exact ⟨_, sink.crashed, rfl, .snoc (.start held) _⟩
    · exact ⟨_, sink.crashed, rfl, (Grows.snoc (.start held) _).then .refused⟩

/-- An event writes only the set of tracks whose codec data was seen. -/
theorem event_changes (sink : GstKvsSink) (track : GstKvsSinkTrackData) (event : SinkEvent)
    (outcome : SinkEventOutcome) :
    ∃ trackCpdReceived calls crashed,
      gstKvsSinkHandleSinkEvent sink track event outcome =
        { sink with data := { sink.data with trackCpdReceived }, calls, crashed } ∧
      Grows (EventCall sink.data.kinesisVideoStream track.trackId event) sink.calls calls := by
  cases event with
  | other => exact ⟨_, _, _, rfl, .refl _⟩
  | addMetadata name value persist =>
    simp only [gstKvsSinkHandleSinkEvent]
    split
    · exact ⟨_, _, true, rfl, .refl _⟩
    · rename_i held
      exact ⟨_, _, _, rfl, .snoc (.metadata held) _⟩
  | eos =>
    simp only [gstKvsSinkHandleSinkEvent, handleEosEvent]
    split
    · rename_i held
      exact ⟨_, _, _, rfl, (Grows.snoc (.eofr rfl held) _).then (.posted rfl)⟩
    · exact ⟨_, _, _, rfl, .snoc (.posted rfl) _⟩
  | caps structure' =>
    simp only [gstKvsSinkHandleSinkEvent, handleCapsEvent]
    split
    · split
      · exact ⟨_, _, _, rfl, .refl _⟩
      · split
        · exact ⟨_, _, _, rfl, .refl _⟩
        · obtain ⟨calls, crashed, changed, grown⟩ := start_changes (.caps structure') sink track.trackId
            outcome.started
          exact ⟨_, calls, crashed, changed, grown⟩
    · split
      · obtain ⟨calls, crashed, changed, grown⟩ := start_changes (.caps structure')
          { sink with data := { sink.data with
            trackCpdReceived := insert track.trackId sink.data.trackCpdReceived } }
          track.trackId outcome.started
        exact ⟨_, calls, crashed, changed, grown⟩
      · exact ⟨_, _, _, rfl, .refl _⟩

end KvsProducer
