import KvsProducer.SessionErrors

/-! The frame that a buffer becomes, and what the handler remembers of it: the
anchors of the timeline, the last decode time and the frame counter. The fields
are given in closed form, so that a statement about timestamps is a statement
about them and not about the stages of the handler. -/
namespace KvsProducer
open Gst

/-- The frame of a submission. -/
def Call.submitted : Call → Option Frame
  | .statusPutFrame _ frame _ => some frame
  | _ => none

/-- The frames submitted so far. -/
def GstKvsSink.frames (sink : GstKvsSink) : List Frame := sink.calls.filterMap Call.submitted

def defaultFrameDurationInNanos : UInt64 :=
  defaultFrameDurationMs * hundredsOfNanosInAMillisecond * defaultTimeUnitInNanos

/-! ## The fields of a frame -/

/-- The decode time in nanoseconds. -/
def decodeTime (sink : GstKvsSink) (buffer : GstBuffer) : UInt64 :=
  if isOfflineStreamingMode sink.streamingType then
    if sink.data.useOriginalPts then buffer.dts else 0
  else if buffer.dtsIsValid then buffer.dts
  else sink.data.lastDts + defaultFrameDurationInNanos

/-- `first_pts` once the buffer has been submitted. -/
def anchoredFirstPts (sink : GstKvsSink) (buffer : GstBuffer) : UInt64 :=
  if isOfflineStreamingMode sink.streamingType then sink.data.firstPts
  else if sink.data.firstPts = gstClockTimeNone then buffer.pts
  else sink.data.firstPts

/-- `producer_start_time` once a buffer has been submitted. -/
def anchoredStartTime (sink : GstKvsSink) (now : UInt64) : UInt64 :=
  if isOfflineStreamingMode sink.streamingType then sink.data.producerStartTime
  else if sink.data.producerStartTime = gstClockTimeNone then now
  else sink.data.producerStartTime

/-- The presentation time in nanoseconds. -/
def presentationTime (sink : GstKvsSink) (buffer : GstBuffer) (now : UInt64) : UInt64 :=
  if sink.data.useOriginalPts then decodeTime sink buffer
  else if isOfflineStreamingMode sink.streamingType then buffer.pts + sink.data.ptsBase
  else buffer.pts + (anchoredStartTime sink now - anchoredFirstPts sink buffer)

/-- The frame that a buffer of the track becomes. -/
def frameOf (sink : GstKvsSink) (track : GstKvsSinkTrackData) (buffer : GstBuffer) (now : UInt64) :
    Frame where
  flags := frameFlagsOf sink.data.mediaType track.trackType (buffer.flagIsSet bufferFlagDeltaUnit)
  index := sink.data.frameCount
  decodingTs := decodeTime sink buffer / defaultTimeUnitInNanos
  presentationTs := presentationTime sink buffer now / defaultTimeUnitInNanos
  duration := 0
  size := UInt32.ofNat buffer.bytes.length
  frameData := buffer.bytes
  trackId := track.trackId

/-- A buffer past the error gate becomes a frame. -/
def becomesFrame (buffer : GstBuffer) (outcome : BufferOutcome) : Bool :=
  !isDroppable buffer && outcome.mapped

/-- A signed representation in between loses nothing. -/
@[simp] theorem through_nanoseconds (value : UInt64) : throughNanoseconds value = value := by
  simp [throughNanoseconds]

/-! ## What the handler remembers -/

/-- The fields of the custom data that only buffers write, and NULL_TO_READY resets in part. -/
structure Timeline where
  firstPts : UInt64
  producerStartTime : UInt64
  lastDts : UInt64
  frameCount : UInt32
  deriving DecidableEq, Repr

def GstKvsSink.timeline (sink : GstKvsSink) : Timeline where
  firstPts := sink.data.firstPts
  producerStartTime := sink.data.producerStartTime
  lastDts := sink.data.lastDts
  frameCount := sink.data.frameCount

/-- The timeline when a buffer has become a frame that is not yet counted. -/
def submittedTimeline (sink : GstKvsSink) (buffer : GstBuffer) (now : UInt64) : Timeline where
  firstPts := anchoredFirstPts sink buffer
  producerStartTime := anchoredStartTime sink now
  lastDts := decodeTime sink buffer
  frameCount := sink.data.frameCount

def Timeline.count (timeline : Timeline) : Timeline := { timeline with frameCount := timeline.frameCount + 1 }

/-- What becomes of a buffer that the error gate lets through. -/
inductive TakenIn (sink : GstKvsSink) (track : GstKvsSinkTrackData) (buffer : GstBuffer)
    (outcome : BufferOutcome) (next : GstKvsSink) : Prop where
  | dropped : isDroppable buffer = true → next.frames = sink.frames → next.timeline = sink.timeline →
      TakenIn sink track buffer outcome next
  | unmapped : isDroppable buffer = false → outcome.mapped = false → next.frames = sink.frames →
      next.timeline = { sink.timeline with lastDts := decodeTime sink buffer } →
      TakenIn sink track buffer outcome next
  | sent : becomesFrame buffer outcome = true → MetricsAnswered sink track buffer outcome →
      next.frames = sink.frames ++ [frameOf sink track buffer outcome.now] →
      next.timeline = (submittedTimeline sink buffer outcome.now).count →
      TakenIn sink track buffer outcome next
  | threw : becomesFrame buffer outcome = true → ¬ MetricsAnswered sink track buffer outcome →
      next.frames = sink.frames ++ [frameOf sink track buffer outcome.now] →
      next.timeline = submittedTimeline sink buffer outcome.now → next.crashed = true →
      TakenIn sink track buffer outcome next

/-- The error gate lets the next call of the handler through. -/
def LetsThrough (pic : Pic) (sink : GstKvsSink) : Prop :=
  streamErrorGate pic sink.streamingType sink.data.streamStatus ≠ .fatal

instance (pic : Pic) (sink : GstKvsSink) : Decidable (LetsThrough pic sink) :=
  inferInstanceAs (Decidable (_ ≠ _))

/-- What a call of the handler does with the frames and the timeline. -/
inductive BufferEffect (pic : Pic) (sink : GstKvsSink) (track : GstKvsSinkTrackData)
    (buffer : GstBuffer) (outcome : BufferOutcome) (next : GstKvsSink) : Prop where
  | refused : ¬ LetsThrough pic sink → next.frames = sink.frames → next.timeline = sink.timeline →
      BufferEffect pic sink track buffer outcome next
  | taken : LetsThrough pic sink → TakenIn sink track buffer outcome next →
      BufferEffect pic sink track buffer outcome next

private theorem frames_log (sink : GstKvsSink) (call : Call) :
    (sink.log call).frames = sink.frames ++ call.submitted.toList := by
  simp only [GstKvsSink.frames, log_calls, List.filterMap_append]
  cases submitted : call.submitted <;> simp [submitted]

/-- What the clean-up does to the rest of the sink. -/
theorem clean_up_frames (sink : GstKvsSink) (arrived : Bool) (status : Status) (ret : GstFlowReturn) :
    (cleanUpBuffer sink arrived status ret).frames = sink.frames ∧
      (cleanUpBuffer sink arrived status ret).data = sink.data := by
  unfold cleanUpBuffer
  cases arrived <;> cases statusFailed status <;> exact ⟨by simp [frames_log, Call.submitted], rfl⟩

private theorem clean_up_timeline (sink : GstKvsSink) (arrived : Bool) (status : Status) (ret : GstFlowReturn) :
    (cleanUpBuffer sink arrived status ret).timeline = sink.timeline := by
  unfold GstKvsSink.timeline
  rw [(clean_up_frames sink arrived status ret).2]

theorem settled_times (sink : GstKvsSink) (buffer : GstBuffer) :
    settleTimestamps sink buffer = { buffer with
      dts := decodeTime sink buffer
      pts :=
        if isOfflineStreamingMode sink.streamingType then
          if sink.data.useOriginalPts then buffer.dts else buffer.pts + sink.data.ptsBase
        else buffer.pts } := by
  unfold settleTimestamps decodeTime
  split
  · cases sink.data.useOriginalPts <;> rfl
  · cases buffer.dtsIsValid <;> rfl

/-- The sink with other anchors of its timeline. -/
def GstKvsSink.anchored (sink : GstKvsSink) (firstPts producerStartTime : UInt64) : GstKvsSink :=
  { sink with data := { sink.data with firstPts, producerStartTime } }

/-- The anchored buffer carries the two times of the frame. -/
theorem anchored_times (sink : GstKvsSink) (buffer : GstBuffer) (now : UInt64) :
    anchorTimeline sink (settleTimestamps sink buffer) now =
      (sink.anchored (anchoredFirstPts sink buffer) (anchoredStartTime sink now),
        { buffer with dts := decodeTime sink buffer, pts := presentationTime sink buffer now }) := by
  rw [settled_times]
  unfold anchorTimeline anchoredFirstPts anchoredStartTime presentationTime
  cases offline : isOfflineStreamingMode sink.streamingType with
  | true =>
    cases original : sink.data.useOriginalPts with
    | false => rfl
    | true =>
      simp only [decodeTime, offline, original]
      rfl
  | false =>
    cases original : sink.data.useOriginalPts with
    | false => simp [anchoredFirstPts, anchoredStartTime, offline, original, GstKvsSink.anchored]
    | true => simp [original, GstKvsSink.anchored]

/-- What `put_frame` records and remembers, by how it ends. -/
theorem put_frame_frames (frameData : List UInt8) (pts dts : UInt64) (flags : FrameFlags) (trackId : ℕ)
    (index : UInt32) (outcome : BufferOutcome) (held : sink.data.kinesisVideoStream = some stream) :
    (putFrame sink frameData pts dts flags trackId index outcome).1.frames =
        sink.frames ++ [createKinesisVideoFrame pts dts flags frameData trackId index] ∧
      (putFrame sink frameData pts dts flags trackId index outcome).1.timeline = sink.timeline := by
  simp only [putFrame, held]
  split
  · split
    · exact ⟨frames_log .., rfl⟩
    · refine ⟨?_, rfl⟩
      change (GstKvsSink.log (GstKvsSink.log sink _) _).frames = _
      rw [frames_log, frames_log]
      simp [Call.submitted]
  · exact ⟨frames_log .., rfl⟩

/-- Neither the decode time nor the key frame that are noted first touch the anchors. -/
theorem anchor_noted (sink : GstKvsSink) (track : GstKvsSinkTrackData) (delta : Bool)
    (settled : GstBuffer) (now : UInt64) :
    anchorTimeline (noteVideoKeyFrame (sink.noteDts settled) track delta) settled now =
      ((noteVideoKeyFrame (sink.noteDts settled) track delta).anchored
          (anchorTimeline sink settled now).1.data.firstPts
          (anchorTimeline sink settled now).1.data.producerStartTime,
        (anchorTimeline sink settled now).2) := by
  have noted : ∃ firstVideoFrame, noteVideoKeyFrame (sink.noteDts settled) track delta =
      { sink with data := { sink.data with lastDts := settled.dts, firstVideoFrame } } :=
    note_key_frame_changes (sink.noteDts settled) track delta
  obtain ⟨firstVideoFrame, noted⟩ := noted
  rw [noted]
  unfold anchorTimeline
  simp only
  split
  · rfl
  · split <;> rfl

/-- The sink when its mapped buffer is about to be put. -/
def GstKvsSink.putting (sink : GstKvsSink) (track : GstKvsSinkTrackData) (buffer : GstBuffer)
    (now : UInt64) : GstKvsSink :=
  (noteVideoKeyFrame (sink.noteDts (settleTimestamps sink buffer)) track
    (buffer.flagIsSet bufferFlagDeltaUnit)).anchored (anchoredFirstPts sink buffer)
      (anchoredStartTime sink now)

theorem anchor_settled (sink : GstKvsSink) (track : GstKvsSinkTrackData) (buffer : GstBuffer)
    (now : UInt64) :
    anchorTimeline (noteVideoKeyFrame (sink.noteDts (settleTimestamps sink buffer)) track
        (buffer.flagIsSet bufferFlagDeltaUnit)) (settleTimestamps sink buffer) now =
      (sink.putting track buffer now,
        { buffer with dts := decodeTime sink buffer, pts := presentationTime sink buffer now }) := by
  rw [anchor_noted, anchored_times]
  rfl

/-- What there is to know of a sink that is about to put its buffer. -/
structure AboutToPut (sink : GstKvsSink) (buffer : GstBuffer) (now : UInt64) (putting : GstKvsSink) :
    Prop where
  frames : putting.frames = sink.frames
  timeline : putting.timeline = submittedTimeline sink buffer now
  stream : putting.data.kinesisVideoStream = sink.data.kinesisVideoStream
  metrics : ∀ flags status, readsMetrics putting flags status = readsMetrics sink flags status

theorem about_to_put (sink : GstKvsSink) (track : GstKvsSinkTrackData) (buffer : GstBuffer)
    (now : UInt64) : AboutToPut sink buffer now (sink.putting track buffer now) := by
  have dts : (settleTimestamps sink buffer).dts = decodeTime sink buffer := by rw [settled_times]
  unfold GstKvsSink.putting noteVideoKeyFrame
  split
  · exact ⟨rfl, by simp only [← dts, submittedTimeline]; rfl, rfl, fun _ _ => rfl⟩
  · exact ⟨rfl, by simp only [← dts, submittedTimeline]; rfl, rfl, fun _ _ => rfl⟩

/-- The mapped buffer becomes its frame, and is counted unless the metrics throw. -/
theorem submit_effect (held : sink.data.kinesisVideoStream = some stream) (track : GstKvsSinkTrackData)
    (buffer : GstBuffer) (outcome : BufferOutcome)
    (submitted : submitBuffer (sink.noteDts (settleTimestamps sink buffer)) track
      (settleTimestamps sink buffer) outcome = after) :
    after.frames = sink.frames ++ [frameOf sink track buffer outcome.now] ∧
      (MetricsAnswered sink track buffer outcome ∧
          after.timeline = (submittedTimeline sink buffer outcome.now).count ∨
        ¬ MetricsAnswered sink track buffer outcome ∧
          after.timeline = submittedTimeline sink buffer outcome.now ∧ after.crashed = true) := by
  have flags : (settleTimestamps sink buffer).flagIsSet = buffer.flagIsSet := by rw [settled_times]; rfl
  have media : (sink.noteDts (settleTimestamps sink buffer)).data.mediaType = sink.data.mediaType := rfl
  have ready := about_to_put sink track buffer outcome.now
  simp only [submitBuffer, flags, media, anchor_settled] at submitted
  generalize sink.putting track buffer outcome.now = putting at ready submitted
  have index : putting.data.frameCount = sink.data.frameCount := congrArg (·.frameCount) ready.timeline
  have put := put_frame_frames buffer.bytes (presentationTime sink buffer outcome.now)
    (decodeTime sink buffer) (frameFlagsOf sink.data.mediaType track.trackType
      (buffer.flagIsSet bufferFlagDeltaUnit)) track.trackId putting.data.frameCount outcome
    (ready.stream.trans held)
  have frame : createKinesisVideoFrame (presentationTime sink buffer outcome.now)
      (decodeTime sink buffer) (frameFlagsOf sink.data.mediaType track.trackType
        (buffer.flagIsSet bufferFlagDeltaUnit)) buffer.bytes track.trackId putting.data.frameCount =
      frameOf sink track buffer outcome.now := by
    simp [createKinesisVideoFrame, frameOf, index]
  rw [ready.frames, ready.timeline, frame] at put
  obtain ⟨_, _, _, ⟨reads, unanswered, ended⟩ | ⟨answered, returned, _, ended, _, _⟩⟩ :=
    put_frame_cases buffer.bytes (presentationTime sink buffer outcome.now) (decodeTime sink buffer)
      (frameFlagsOf sink.data.mediaType track.trackType (buffer.flagIsSet bufferFlagDeltaUnit))
      track.trackId putting.data.frameCount outcome (ready.stream.trans held)
  · rw [ready.metrics] at reads
    rw [ended] at put submitted
    subst submitted
    exact ⟨put.1, .inr ⟨fun answered => unanswered (answered reads), put.2, rfl⟩⟩
  · rw [ready.metrics] at answered
    rw [ended] at put submitted
    simp only at submitted
    obtain ⟨frames, data⟩ := clean_up_frames returned.countFrame true outcome.putStatus .ok
    rw [submitted] at frames data
    refine ⟨frames.trans put.1, .inl ⟨answered, ?_⟩⟩
    have counted : after.timeline = returned.countFrame.timeline := by
      unfold GstKvsSink.timeline
      rw [data]
    rw [counted, ← put.2]
    rfl

/-- The call of an arrived buffer that the gate has let through. -/
theorem arrived_effect (held : sink.data.kinesisVideoStream = some stream) (track : GstKvsSinkTrackData)
    (buffer : GstBuffer) (outcome : BufferOutcome) :
    TakenIn sink track buffer outcome (handleArrivedBuffer sink track buffer outcome) := by
  unfold handleArrivedBuffer
  cases droppable : isDroppable buffer with
  | true =>
    exact .dropped droppable (clean_up_frames sink true statusSuccess .ok).1 (clean_up_timeline ..)
  | false =>
    cases mapped : outcome.mapped with
    | false =>
      refine .unmapped droppable mapped (clean_up_frames _ true statusSuccess .ok).1 ?_
      refine (clean_up_timeline ..).trans ?_
      simp only [GstKvsSink.timeline, GstKvsSink.noteDts, settled_times]
    | true =>
      have becomes : becomesFrame buffer outcome = true := by simp [becomesFrame, droppable, mapped]
      obtain ⟨frames, ⟨answered, timeline⟩ | ⟨unanswered, timeline, crashed⟩⟩ :=
        submit_effect held track buffer outcome rfl
      · exact .sent becomes answered frames timeline
      · exact .threw becomes unanswered frames timeline crashed

/-- Passing the gate leaves the frames, the times and the settings as they are. -/
theorem TakenIn.of_entered {entered : GstKvsSink} (taken : TakenIn entered track buffer outcome next)
    (frames : entered.frames = sink.frames) (data : entered.data = { sink.data with streamStatus })
    (streamingType : entered.streamingType = sink.streamingType) :
    TakenIn sink track buffer outcome next := by
  have timeline : entered.timeline = sink.timeline := by
    unfold GstKvsSink.timeline
    rw [data]
  have decode : decodeTime entered buffer = decodeTime sink buffer := by
    unfold decodeTime
    rw [data, streamingType]
  have firstPts : anchoredFirstPts entered buffer = anchoredFirstPts sink buffer := by
    unfold anchoredFirstPts
    rw [data, streamingType]
  have startTime : anchoredStartTime entered outcome.now = anchoredStartTime sink outcome.now := by
    unfold anchoredStartTime
    rw [data, streamingType]
  have frame : frameOf entered track buffer outcome.now = frameOf sink track buffer outcome.now := by
    unfold frameOf presentationTime
    rw [decode, firstPts, startTime, data, streamingType]
  have submitted : submittedTimeline entered buffer outcome.now =
      submittedTimeline sink buffer outcome.now := by
    unfold submittedTimeline
    rw [decode, firstPts, startTime, data]
  have answered : MetricsAnswered entered track buffer outcome ↔
      MetricsAnswered sink track buffer outcome := by
    unfold MetricsAnswered readsMetrics
    rw [data]
  cases taken with
  | dropped droppable same kept => exact .dropped droppable (same.trans frames) (kept.trans timeline)
  | unmapped droppable mapped same kept =>
    rw [decode, timeline] at kept
    exact .unmapped droppable mapped (same.trans frames) kept
  | sent becomes given made kept =>
    rw [frames, frame] at made
    exact .sent becomes (answered.mp given) made (submitted ▸ kept)
  | threw becomes missing made kept crashed =>
    rw [frames, frame] at made
    exact .threw becomes (missing ∘ answered.mpr) made (submitted ▸ kept) crashed

/-- One call of the handler for a buffer, while there is a stream. -/
theorem buffer_effect (pic : Pic) (held : sink.data.kinesisVideoStream = some stream)
    (alive : sink.crashed = false) (track : GstKvsSinkTrackData) (buffer : GstBuffer) (outcome : BufferOutcome) :
    BufferEffect pic sink track buffer outcome
      (gstKvsSinkHandleBuffer pic sink (some (track, buffer)) outcome) := by
  have arrived : (sink.log .bufferArrived).frames = sink.frames := by simp [frames_log, Call.submitted]
  cases gate : streamErrorGate pic sink.streamingType sink.data.streamStatus with
  | fatal =>
    have stopped : ¬ LetsThrough pic sink := fun lets => lets gate
    rw [handler_fails gate]
    refine .refused stopped ?_ (clean_up_timeline ..)
    refine (clean_up_frames _ true statusSuccess .error).1.trans ?_
    simp [frames_log, Call.submitted]
  | proceed =>
    have lets : LetsThrough pic sink := by simp [LetsThrough, gate]
    have heldStill : (sink.log .bufferArrived).data.kinesisVideoStream = some stream := held
    have taken := arrived_effect heldStill track buffer outcome
    rw [handler_proceeds gate]
    exact .taken lets (taken.of_entered arrived rfl rfl)
  | reset =>
    have lets : LetsThrough pic sink := by simp [LetsThrough, gate]
    have clearedHeld : (clearStreamStatus ((sink.log .bufferArrived).log
      (.resetStream stream outcome.resetDone))).data.kinesisVideoStream = some stream := held
    have taken := arrived_effect clearedHeld track buffer outcome
    rw [handler_resets gate held alive]
    refine .taken lets (taken.of_entered ?_ rfl rfl)
    change ((sink.log .bufferArrived).log (.resetStream stream outcome.resetDone)).frames = sink.frames
    rw [frames_log, arrived]
    simp [Call.submitted]

/-- A call without a buffer leaves the timeline alone. -/
theorem no_buffer_keeps_timeline (pic : Pic) (sink : GstKvsSink) (outcome : BufferOutcome) :
    (gstKvsSinkHandleBuffer pic sink none outcome).timeline = sink.timeline := by
  have reset : (resetHeldStream (sink.log .bufferArrived) outcome).timeline = sink.timeline := by
    unfold resetHeldStream
    split <;> rfl
  unfold gstKvsSinkHandleBuffer
  simp only [handleBufferBody]
  split
  · exact clean_up_timeline ..
  · split
    · exact reset
    · rw [clean_up_timeline]
      exact reset
  · exact clean_up_timeline ..

end KvsProducer
