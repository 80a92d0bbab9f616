import Mathlib.Data.List.Range
import KvsProducer.HeldStream
import KvsProducer.SessionTimeline

/-! What an element hands over in all its sessions together. Its frames are the
buffers it accepts, in their order and with their data, each sent to the stream
of its session, and the frames of a stream are numbered without a gap. -/
namespace KvsProducer
open Gst History Runs

/-- The stream and the frame of a submission. -/
def Call.sentFrame : Call → Option (StreamId × Frame)
  | .statusPutFrame stream frame _ => some (stream, frame)
  | _ => none

def GstKvsSink.submissions (sink : GstKvsSink) : List (StreamId × Frame) :=
  sink.calls.filterMap Call.sentFrame

/-- The frames that were sent to one stream. -/
def GstKvsSink.framesOn (sink : GstKvsSink) (stream : StreamId) : List Frame :=
  (sink.submissions.filter (·.1 == stream)).map (·.2)

/-- What a frame hands over, apart from its times and its number. -/
structure Delivery where
  stream : StreamId
  trackId : ℕ
  flags : FrameFlags
  bytes : List UInt8
  deriving DecidableEq, Repr

def deliveryOf (submission : StreamId × Frame) : Delivery :=
  ⟨submission.1, submission.2.trackId, submission.2.flags, submission.2.frameData⟩

/-- What a step hands over, if the error gate is open and the buffer becomes a frame. -/
def deliveries (pic : Pic) (sink : GstKvsSink) : Input → List Delivery
  | .buffer pad buffer outcome =>
    match sink.trackOf pad, sink.data.kinesisVideoStream with
    | some track, some stream =>
      if LetsThrough pic sink ∧ becomesFrame buffer outcome = true then
        [⟨stream, track.trackId,
          frameFlagsOf sink.data.mediaType track.trackType (buffer.flagIsSet bufferFlagDeltaUnit),
          buffer.bytes⟩]
      else []
    | _, _ => []
  | _ => []

/-! ## One step -/

private theorem frames_of_submissions (sink : GstKvsSink) : sink.frames = sink.submissions.map (·.2) := by
  unfold GstKvsSink.frames GstKvsSink.submissions
  rw [List.map_filterMap]
  congr 1
  funext call
  cases call <;> rfl

private theorem submission_used (submits : Call.sentFrame call = some submission) :
    call.usedStream = some submission.1 := by
  cases call with
  | statusPutFrame stream frame status =>
    cases submits
    rfl
  | _ => cases submits

/-- New submissions go to the stream in hand. -/
theorem input_submissions (pic : Pic) (sink : GstKvsSink) (input : Input) :
    Grows (fun submission => sink.data.kinesisVideoStream = some submission.1) sink.submissions
      (applyInput pic sink input).submissions := by
  obtain ⟨added, made, kinds⟩ := input_calls pic sink input
  refine ⟨added.filterMap Call.sentFrame, ?_, ?_⟩
  · rw [GstKvsSink.submissions, made, List.filterMap_append]
    rfl
  · intro submission member
    obtain ⟨call, inside, submits⟩ := List.mem_filterMap.mp member
    exact input_uses_held (kinds call inside) (submission_used submits)

/-- The frames that a step adds are submissions to the stream in hand. -/
theorem submissions_of_frames (accepted : step pic sink input = some next)
    (held : sink.data.kinesisVideoStream = some stream) (frames : next.frames = sink.frames ++ added) :
    next.submissions = sink.submissions ++ added.map (fun frame => (stream, frame)) := by
  obtain ⟨_, rfl⟩ := step_eq_some.mp accepted
  obtain ⟨new, grown, toHeld⟩ := input_submissions pic sink input
  rw [frames_of_submissions, frames_of_submissions, grown, List.map_append] at frames
  rw [grown, ← List.append_cancel_left frames, List.map_map]
  congr 1
  have same (submission : StreamId × Frame) (member : submission ∈ new) :
      (stream, submission.2) = submission := by
    cases held.symm.trans (toHeld submission member)
    rfl
  exact ((List.map_congr_left same).trans (List.map_id new)).symm

/-- What a step does with the submissions and with the counter of the frames. -/
inductive SubmissionStep (pic : Pic) (sink next : GstKvsSink) (input : Input) : Prop where
  | silent : next.submissions = sink.submissions → deliveries pic sink input = [] →
      next.data.kinesisVideoStream = sink.data.kinesisVideoStream →
      next.data.frameCount = sink.data.frameCount → SubmissionStep pic sink next input
  | renewed : next.submissions = sink.submissions → deliveries pic sink input = [] →
      next.data.kinesisVideoStream = some sink.nextStream → next.data.frameCount = 0 →
      SubmissionStep pic sink next input
  | sent (stream : StreamId) (frame : Frame) :
      sink.data.kinesisVideoStream = some stream → next.submissions = sink.submissions ++ [(stream, frame)] →
      deliveries pic sink input = [deliveryOf (stream, frame)] →
      frame.index = sink.data.frameCount → frame.size = UInt32.ofNat frame.frameData.length →
      next.data.kinesisVideoStream = some stream →
      next.crashed = true ∨ next.data.frameCount = sink.data.frameCount + 1 →
      SubmissionStep pic sink next input

/-- A start that fails leaves the counter of the frames alone. -/
theorem failed_start_keeps_count (ran : nullToReady pic sink outcome = (after, result))
    (failed : result ≠ .success) : after.data.frameCount = sink.data.frameCount := by
  have produced {held : GstKvsSink} {produced : Except Raised Unit}
      (initialized : kinesisVideoProducerInit sink outcome = (held, produced)) :
      held.data.frameCount = sink.data.frameCount := by
    obtain ⟨_, _, _, _, changed, _⟩ := producer_init_changes sink outcome
    rw [initialized] at changed
    cases changed
    rfl
  have scanned {held walked : GstKvsSink} {scan : Except Raised Unit}
      (walks : initTrackData pic held outcome = (walked, scan)) :
      walked.data.frameCount = held.data.frameCount := by
    obtain ⟨_, _, _, _, _, changed⟩ := track_data_changes pic held outcome
    rw [walks] at changed
    cases changed
    rfl
  have fails {last : GstKvsSink} {message : String} {raised : Raised}
      (ended : failChangeState last message raised = (after, result)) :
      after.data.frameCount = last.data.frameCount := by
    cases raised <;> cases ended <;> rfl
  have attempted (before tried : GstKvsSink) (status : Status) (raised : Raised)
      (kept : before.data.frameCount = sink.data.frameCount)
      (attempt : createKinesisVideoStream pic before outcome.residue status = (tried, .error raised)) :
      tried.data.frameCount = sink.data.frameCount := by
    obtain ⟨calls, rfl, _⟩ := create_stream_failed attempt
    exact (congrArg Timeline.frameCount (prepared_timeline before)).trans kept
  have ends := null_to_ready_ends pic sink outcome
  rw [ran] at ends
  generalize ended : (after, result) = finished at ends
  cases ends with
  | noProducer initialized => exact (fails ended.symm).trans (produced initialized)
  | noTracks initialized walks =>
    exact (fails ended.symm).trans ((scanned walks).trans (produced initialized))
  | noStream initialized walks streamed =>
    have begun : (GstKvsSink.forgetTimeline _).data.frameCount = sink.data.frameCount :=
      (scanned walks).trans (produced initialized)
    exact (fails ended.symm).trans (failed_attempts attempted begun streamed)
  | started =>
    cases ended
    exact absurd rfl failed

/-- A start submits nothing; one that creates a stream counts from zero. -/
theorem start_submits (pic : Pic) (sink : GstKvsSink) (outcome : ChangeStateOutcome) :
    SubmissionStep pic sink (changeState pic sink .nullToReady outcome)
      (.changeState .nullToReady outcome) := by
  have unsubmitted {next : GstKvsSink} (grown : Grows SetUpCall sink.calls next.calls) :
      next.submissions = sink.submissions := by
    obtain ⟨added, made, kinds⟩ := grown
    have nothing : added.filterMap Call.sentFrame = [] :=
      List.filterMap_eq_nil_iff.mpr fun call member => by cases kinds call member <;> rfl
    rw [GstKvsSink.submissions, made, List.filterMap_append, nothing, List.append_nil]
    rfl
  have changed := change_state_cases pic sink .nullToReady outcome
  generalize changeState pic sink .nullToReady outcome = next at changed
  have counted {created : GstKvsSink} (ran : nullToReady pic sink outcome = (created, .success)) :
      created.data.frameCount = 0 := congrArg Timeline.frameCount (started_timeline ran)
  cases changed with
  | started ran creates =>
    have zero := counted ran
    exact .renewed (unsubmitted creates.calls) rfl creates.stream zero
  | startedInVain ran creates =>
    have zero := counted ran
    exact .renewed (unsubmitted (creates.calls.then .error)) rfl creates.stream zero
  | notStarted ran failed kept =>
    exact .silent (unsubmitted kept.calls) rfl kept.stream (failed_start_keeps_count ran failed)
  | moved _ across => rcases across with impossible | impossible | impossible <;> cases impossible
  | refused _ up => exact absurd rfl up

/-- A buffer that becomes a frame is handed over as that frame. -/
theorem frame_delivered (found : sink.trackOf pad = some track)
    (held : sink.data.kinesisVideoStream = some stream) (lets : LetsThrough pic sink)
    (becomes : becomesFrame buffer outcome = true) :
    deliveries pic sink (.buffer pad buffer outcome) =
      [deliveryOf (stream, frameOf sink track buffer outcome.now)] := by
  simp only [deliveries, found, held]
  rw [if_pos ⟨lets, becomes⟩]
  rfl

private theorem nothing_delivered (shut : ¬ (LetsThrough pic sink ∧ becomesFrame buffer outcome = true)) :
    deliveries pic sink (.buffer pad buffer outcome) = [] := by
  simp only [deliveries]
  split
  · rw [if_neg shut]
  · rfl

private theorem buffer_step_sends (known : StreamsKnown sink)
    (accepted : step pic sink (.buffer pad buffer outcome) = some next) :
    SubmissionStep pic sink next (.buffer pad buffer outcome) := by
  obtain ⟨stream, held⟩ := known.held (buffer_outside_null (step_eq_some.mp accepted).1)
  obtain ⟨track, found, effect⟩ := buffer_step known accepted
  have stays : next.data.kinesisVideoStream = sink.data.kinesisVideoStream := by
    obtain ⟨_, rfl⟩ := step_eq_some.mp accepted
    exact (input_stays pic sink _ (by rintro _ _ ⟨⟩)).1.stream
  have quiet (shut : ¬ (LetsThrough pic sink ∧ becomesFrame buffer outcome = true))
      (frames : next.frames = sink.frames) (count : next.data.frameCount = sink.data.frameCount) :
      SubmissionStep pic sink next (.buffer pad buffer outcome) := by
    rw [← List.append_nil sink.frames] at frames
    have submissions := submissions_of_frames accepted held frames
    rw [List.map_nil, List.append_nil] at submissions
    exact .silent submissions (nothing_delivered shut) stays count
  have handed (lets : LetsThrough pic sink) (becomes : becomesFrame buffer outcome = true)
      (frames : next.frames = sink.frames ++ [frameOf sink track buffer outcome.now])
      (count : next.crashed = true ∨ next.data.frameCount = sink.data.frameCount + 1) :
      SubmissionStep pic sink next (.buffer pad buffer outcome) :=
    .sent stream (frameOf sink track buffer outcome.now) held (submissions_of_frames accepted held frames)
      (frame_delivered found held lets becomes) rfl rfl (stays.trans held) count
  cases effect with
  | refused stopped frames timeline =>
    exact quiet (fun open' => stopped open'.1) frames (congrArg (·.frameCount) timeline)
  | taken lets taken =>
    cases taken with
    | dropped droppable frames timeline =>
      exact quiet (by simp [becomesFrame, droppable]) frames (congrArg (·.frameCount) timeline)
    | unmapped droppable mapped frames timeline =>
      exact quiet (by simp [becomesFrame, mapped]) frames (congrArg (·.frameCount) timeline)
    | sent becomes _ frames timeline =>
      exact handed lets becomes frames (.inr (congrArg (·.frameCount) timeline))
    | threw becomes _ frames _ crashed => exact handed lets becomes frames (.inl crashed)

private theorem submission_step (known : StreamsKnown sink) (accepted : step pic sink input = some next) :
    SubmissionStep pic sink next input := by
  obtain ⟨outcome, rfl⟩ | noStart := start_or_not input
  · obtain ⟨_, rfl⟩ := step_eq_some.mp accepted
    exact start_submits pic sink outcome
  · by_cases isBuffer : ∃ pad buffer outcome, input = .buffer pad buffer outcome
    · obtain ⟨pad, buffer, outcome, rfl⟩ := isBuffer
      exact buffer_step_sends known accepted
    · have noBuffer (pad : PadId) (buffer : GstBuffer) (outcome : BufferOutcome) :
          input ≠ .buffer pad buffer outcome := fun same => isBuffer ⟨pad, buffer, outcome, same⟩
      obtain ⟨frames, timeline⟩ := other_steps_keep_timeline accepted noBuffer noStart
      obtain ⟨_, rfl⟩ := step_eq_some.mp accepted
      obtain ⟨added, submissions, _⟩ := input_submissions pic sink input
      rw [frames_of_submissions, frames_of_submissions, submissions, List.map_append,
        List.append_right_eq_self, List.map_eq_nil_iff] at frames
      rw [frames, List.append_nil] at submissions
      refine .silent submissions ?_ (other_inputs_hold_same pic sink noStart).stream
        (congrArg (·.frameCount) timeline)
      cases input with
      | buffer pad buffer outcome => exact absurd rfl (noBuffer pad buffer outcome)
      | _ => rfl

/-! ## Whole runs -/

/-- Frames numbered from zero, in the width of the counter. -/
def NumberedFromZero (frames : List Frame) : Prop :=
  frames.map (·.index) = (List.range frames.length).map UInt32.ofNat

theorem numbered_snoc (numbered : NumberedFromZero frames) (next : frame.index = UInt32.ofNat frames.length) :
    NumberedFromZero (frames ++ [frame]) := by
  unfold NumberedFromZero at *
  simp [List.range_succ, numbered, next]

/-- What the element has handed over agrees with what it was given. -/
structure FramesDelivered (sink : GstKvsSink) (delivered : List Delivery) : Prop where
  delivered : sink.submissions.map deliveryOf = delivered
  numbered : ∀ stream, NumberedFromZero (sink.framesOn stream)
  sized : ∀ frame ∈ sink.frames, frame.size = UInt32.ofNat frame.frameData.length

/-- The same between two inputs, where the counter stands at the next number. -/
structure Accounted (sink : GstKvsSink) (delivered : List Delivery) : Prop
    extends FramesDelivered sink delivered where
  known : StreamsKnown sink
  counter : sink.crashed = false → ∀ stream, sink.data.kinesisVideoStream = some stream →
    sink.data.frameCount = UInt32.ofNat (sink.framesOn stream).length

theorem frames_on_same (same : GstKvsSink.submissions next = GstKvsSink.submissions sink) (stream : StreamId) :
    next.framesOn stream = sink.framesOn stream := by
  rw [GstKvsSink.framesOn, same]
  rfl

theorem frames_on_snoc (grown : GstKvsSink.submissions next = GstKvsSink.submissions sink ++ [(held, frame)])
    (stream : StreamId) :
    next.framesOn stream = sink.framesOn stream ++ if held = stream then [frame] else [] := by
  rw [GstKvsSink.framesOn, grown, List.filter_append, List.map_append]
  congr 1
  by_cases same : held = stream <;> simp [same]

/-- Nothing has been sent to the stream that comes next. -/
theorem next_stream_unused (known : StreamsKnown sink) : sink.framesOn sink.nextStream = [] := by
  have none : sink.submissions.filter (·.1 == sink.nextStream) = [] := by
    rw [List.filter_eq_nil_iff]
    intro submission member same
    obtain ⟨call, inside, submits⟩ := List.mem_filterMap.mp member
    have below := known.used call inside submission.1 (submission_used submits)
    rw [beq_iff_eq.mp same] at below
    exact Nat.lt_irrefl _ below
  rw [GstKvsSink.framesOn, none]
  rfl

theorem Accounted.silent (accounted : Accounted sink given) (known : StreamsKnown next)
    (same : next.submissions = sink.submissions)
    (counter : next.crashed = false → ∀ stream, next.data.kinesisVideoStream = some stream →
      next.data.frameCount = UInt32.ofNat (next.framesOn stream).length) : Accounted next (given ++ []) where
  delivered := by rw [same, List.append_nil, accounted.delivered]
  numbered stream := by
    rw [frames_on_same same]
    exact accounted.numbered stream
  sized := by
    rw [frames_of_submissions, same, ← frames_of_submissions]
    exact accounted.sized
  known := known
  counter := counter

theorem step_accounted (accounted : Accounted sink given) (accepted : step pic sink input = some next) :
    Accounted next (given ++ deliveries pic sink input) := by
  have known := step_keeps_streams_known accounted.known accepted
  have counted := accounted.counter (accepted_alive accepted)
  cases submission_step accounted.known accepted with
  | silent same nothing stays count =>
    rw [nothing]
    refine accounted.silent known same fun _ stream held => ?_
    rw [frames_on_same same, count]
    exact counted stream (stays.symm.trans held)
  | renewed same nothing renewed zero =>
    rw [nothing]
    refine accounted.silent known same fun _ stream held => ?_
    cases renewed.symm.trans held
    rw [frames_on_same same, next_stream_unused accounted.known, zero]
    rfl
  | sent stream frame held grown delivers index size stays count =>
    have before := counted stream held
    have here : next.framesOn stream = sink.framesOn stream ++ [frame] := by simp [frames_on_snoc grown]
    refine ⟨⟨?_, fun other => ?_, ?_⟩, known, fun alive other again => ?_⟩
    · rw [grown, List.map_append, accounted.delivered, delivers]
      rfl
    · by_cases same : stream = other
      · subst same
        rw [here]
        exact numbered_snoc (accounted.numbered stream) (index.trans before)
      · rw [frames_on_snoc grown, if_neg same, List.append_nil]
        exact accounted.numbered other
    · rw [frames_of_submissions, grown, List.map_append, ← frames_of_submissions]
      intro sent member
      rcases List.mem_append.mp member with earlier | now
      · exact accounted.sized sent earlier
      · cases List.mem_singleton.mp now
        exact size
    · cases stays.symm.trans again
      have next := count.resolve_left (by simp [alive])
      rw [next, before, here, List.length_append, List.length_singleton, UInt32.ofNat_add]
      rfl

theorem init_accounted (now : UInt64) : Accounted (gstKvsSinkInit now) [] where
  delivered := rfl
  numbered _ := rfl
  sized _ member := by cases member
  known := init_streams_known now
  counter _ _ held := by cases held

/-- **Delivery.** In every run of an element, over all its sessions, the frames it
submits are the buffers it accepts, each once and in their order, with their data
and for the stream of their session; and the frames of each stream are numbered
from zero, without a gap, until the counter is full. -/
theorem accepted_buffers_are_delivered (ran : runFromInit pic now inputs = some final) :
    FramesDelivered final (emitted (step pic) (deliveries pic) (gstKvsSinkInit now) inputs) := by
  have all : EachStep (step pic) (fun _ _ => True) (gstKvsSinkInit now) inputs :=
    each_step_of_forall fun _ _ => trivial
  have accounted := run_accounts (fun _ _ _ _ accounted _ accepted => step_accounted accounted accepted)
    (init_accounted now) all ran
  exact accounted.toFramesDelivered

/-- Two sessions: in the first a buffer is dropped, and in the second one has no data to map. -/
def twoSessions : List Input :=
  let buffer (pts : UInt64) (flags : UInt32) (bytes : List UInt8) := GstBuffer.mk flags pts pts bytes
  let first := [.buffer 0 (buffer 700 0 [1]) {}, .buffer 0 (buffer 800 bufferFlagCorrupted [2]) {},
    .buffer 0 (buffer 900 0 [3, 4]) {}]
  let second := [.buffer 0 (buffer 950 0 [5]) { mapped := false }, .buffer 0 (buffer 990 0 [6]) {}]
  [.requestNewPad .video true] ++ upTo (fun _ => some [h264Caps]) ++ first ++ downToNull ++
    upTo (fun _ => some [h264Caps]) ++ second

theorem two_sessions_are_delivered :
    ∃ final, runFromInit .sample 0 twoSessions = some final ∧
      final.submissions.map (fun submission => (submission.1, submission.2.index, submission.2.frameData)) =
        [(0, 0, [1]), (0, 1, [3, 4]), (1, 0, [6])] ∧
      FramesDelivered final (emitted (step .sample) (deliveries .sample) (gstKvsSinkInit 0) twoSessions) := by
  have evaluated : (runFromInit .sample 0 twoSessions).map (fun final =>
      final.submissions.map fun submission => (submission.1, submission.2.index, submission.2.frameData)) =
        some [(0, 0, [1]), (0, 1, [3, 4]), (1, 0, [6])] := by decide
  obtain ⟨final, ran, seen⟩ := Option.map_eq_some_iff.mp evaluated
  exact ⟨final, ran, seen, accepted_buffers_are_delivered ran⟩

end KvsProducer
