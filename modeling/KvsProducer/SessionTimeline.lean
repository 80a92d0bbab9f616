import Mathlib.Algebra.Group.Int.Defs
import Mathlib.Algebra.Group.Nat.Defs
import KvsProducer.BufferFrames
import KvsProducer.StreamCreation

/-! Frames and timeline over the steps of an element. Only buffers submit
frames, and besides them only NULL_TO_READY writes the timeline: it forgets the
anchors and starts counting again, but keeps the last decode time. -/
namespace KvsProducer
open Gst History Runs

/-- The timeline a session starts with. -/
def Timeline.unanchored (lastDts : UInt64) : Timeline where
  firstPts := gstClockTimeNone
  producerStartTime := gstClockTimeNone
  lastDts := lastDts
  frameCount := 0

/-! ## Starting -/

/-- Preparing an attempt writes one time, the base of the timestamps. -/
theorem prepared_timeline (sink : GstKvsSink) : sink.prepared.timeline = sink.timeline := by
  obtain ⟨_, _, _, _, _, _, _, _, changed⟩ := prepared_changes sink
  unfold GstKvsSink.prepared
  rw [changed]
  rfl

/-- The live timeline has no anchors yet. -/
def GstKvsSink.Unanchored (sink : GstKvsSink) : Prop :=
  sink.data.firstPts = gstClockTimeNone ∧ sink.data.producerStartTime = gstClockTimeNone

private theorem prepared_unanchored (unanchored : GstKvsSink.Unanchored sink) : sink.prepared.Unanchored := by
  have same := prepared_timeline sink
  exact ⟨(congrArg Timeline.firstPts same).trans unanchored.1,
    (congrArg Timeline.producerStartTime same).trans unanchored.2⟩

theorem started_timeline (ran : nullToReady pic sink outcome = (created, .success)) :
    created.timeline = .unanchored sink.data.lastDts := by
  obtain ⟨_, creates⟩ | ⟨failed, _⟩ := null_to_ready_cases ran
  · have lastDts : created.data.lastDts = sink.data.lastDts := congrArg (·.data.lastDts) creates.lasting
    obtain ⟨held, walked, _, _, streamed⟩ := null_to_ready_stages ran
    have forgotten : walked.forgetTimeline.Unanchored := ⟨rfl, rfl⟩
    have attempts : ∃ tried status, tried.Unanchored ∧
        createKinesisVideoStream pic tried outcome.residue status = (created, .ok ()) := by
      apply last_attempt _ forgotten streamed
      intro before after status raised unanchored attempt
      obtain ⟨calls, rfl, _⟩ := create_stream_failed attempt
      exact prepared_unanchored unanchored
    obtain ⟨tried, status, unanchored, attempt⟩ := attempts
    obtain ⟨producer, heap, definition, _, _, rfl⟩ := create_stream_built attempt
    obtain ⟨firstPts, producerStartTime⟩ := prepared_unanchored unanchored
    unfold GstKvsSink.timeline Timeline.unanchored
    rw [lastDts]
    simp only [GstKvsSink.created, GstKvsSink.holdStream, GstKvsSink.log, firstPts, producerStartTime]
  · exact absurd rfl failed

/-! ## Steps -/

/-- Only a buffer's call submits a frame. -/
theorem input_submits_none (made : InputCall sink input call)
    (other : ∀ pad buffer outcome, input ≠ .buffer pad buffer outcome) : call.submitted = none := by
  cases made with
  | event found made => cases made <;> rfl
  | buffer => exact absurd rfl (other _ _ _)
  | noBuffer made =>
    cases made with
    | body made =>
      cases made with
      | put _ some => cases some
      | _ => rfl
    | _ => rfl
  | late | report | destroyed | stopped => rfl
  | setUp made => cases made <;> rfl

theorem frames_of_grows {before after : GstKvsSink} (grown : Grows kind before.calls after.calls)
    (none : ∀ call, kind call → call.submitted = none) : after.frames = before.frames := by
  obtain ⟨added, made, kinds⟩ := grown
  have nothing : added.filterMap Call.submitted = [] :=
    List.filterMap_eq_nil_iff.mpr fun call member => none call (kinds call member)
  unfold GstKvsSink.frames
  rw [made, List.filterMap_append, nothing, List.append_nil]

private theorem change_state_keeps_timeline (pic : Pic) (sink : GstKvsSink) (transition : GstStateChange)
    (outcome : ChangeStateOutcome) (other : transition ≠ .nullToReady) :
    (changeState pic sink transition outcome).timeline = sink.timeline := by
  have changed := change_state_cases pic sink transition outcome
  generalize changeState pic sink transition outcome = next at changed
  cases changed with
  | started | startedInVain | notStarted => exact absurd rfl other
  | collecting | collectingInVain | stopped | nothingToStop | moved | refused => rfl

/-- Only buffers and NULL_TO_READY write the timeline. -/
theorem other_inputs_keep_timeline (pic : Pic) (sink : GstKvsSink) (input : Input)
    (noBuffer : ∀ pad buffer outcome, input ≠ .buffer pad buffer outcome)
    (noStart : ∀ outcome, input ≠ .changeState .nullToReady outcome) :
    (applyInput pic sink input).timeline = sink.timeline := by
  cases input with
  | buffer pad buffer outcome => exact absurd rfl (noBuffer pad buffer outcome)
  | changeState transition outcome =>
    apply change_state_keeps_timeline
    rintro rfl
    exact noStart outcome rfl
  | requestNewPad templ added =>
    exact (congrArg GstKvsSink.timeline (request_keeps_padless sink templ added) :)
  | releasePad pad removed =>
    exact (congrArg GstKvsSink.timeline (release_keeps_padless sink pad removed) :)
  | setProperty property => cases property <;> rfl
  | sinkEvent pad event outcome =>
    obtain ⟨_, _, _, _, changed, _, _⟩ := sink_event_changes sink pad event outcome
    simp only [applyInput, changed]
    rfl
  | noBuffer outcome => exact no_buffer_keeps_timeline pic sink outcome
  | streamErrorReport status =>
    simp only [applyInput, streamErrorReport, streamErrorReportHandler]
    split <;> split <;> rfl
  | finalize =>
    obtain ⟨_, _, _, changed, _⟩ := finalize_changes sink
    simp only [applyInput, changed]
    rfl

theorem other_steps_keep_timeline (accepted : step pic sink input = some next)
    (noBuffer : ∀ pad buffer outcome, input ≠ .buffer pad buffer outcome)
    (noStart : ∀ outcome, input ≠ .changeState .nullToReady outcome) :
    next.frames = sink.frames ∧ next.timeline = sink.timeline := by
  obtain ⟨_, rfl⟩ := step_eq_some.mp accepted
  exact ⟨frames_of_grows (input_calls pic sink input) fun call made => input_submits_none made noBuffer,
    other_inputs_keep_timeline pic sink input noBuffer noStart⟩

/-- A buffer is handled for the track of its pad. -/
theorem buffer_step (known : StreamsKnown sink)
    (accepted : step pic sink (.buffer pad buffer outcome) = some next) :
    ∃ track, sink.trackOf pad = some track ∧ BufferEffect pic sink track buffer outcome next := by
  obtain ⟨admitted, rfl⟩ := step_eq_some.mp accepted
  obtain ⟨stream, held⟩ := known.held (buffer_outside_null admitted)
  simp only [accepts, GstKvsSink.padDelivers, Bool.and_eq_true, Bool.not_eq_true', Option.any_eq_true]
    at admitted
  obtain ⟨⟨alive, _⟩, _, track, found, _⟩ := admitted
  refine ⟨track, found, ?_⟩
  simp only [applyInput, bufferFromPad, found]
  exact buffer_effect pic held alive track buffer outcome

/-! ## The buffers that are accepted -/

/-- A buffer that becomes a frame, and the clock at that moment. -/
structure Acceptance where
  buffer : GstBuffer
  now : UInt64
  deriving DecidableEq, Repr

/-- The buffer that a step turns into a frame, if it does. -/
def acceptances (pic : Pic) (sink : GstKvsSink) : Input → List Acceptance
  | .buffer _ buffer outcome =>
    if LetsThrough pic sink ∧ becomesFrame buffer outcome = true then [⟨buffer, outcome.now⟩] else []
  | _ => []

theorem acceptances_none (other : ∀ pad buffer outcome, input ≠ .buffer pad buffer outcome) :
    acceptances pic sink input = [] := by
  cases input with
  | buffer pad buffer outcome => exact absurd rfl (other pad buffer outcome)
  | _ => rfl

theorem acceptances_one (lets : LetsThrough pic sink) (becomes : becomesFrame buffer outcome = true) :
    acceptances pic sink (.buffer pad buffer outcome) = [⟨buffer, outcome.now⟩] := by
  simp [acceptances, lets, becomes]

/-- The input is a buffer that is neither refused nor dropped. -/
def takesIn (pic : Pic) (sink : GstKvsSink) : Input → Bool
  | .buffer _ buffer _ => decide (LetsThrough pic sink) && !isDroppable buffer
  | _ => false

/-- What a step does with the frames and with the times that outlast it. -/
inductive FrameStep (pic : Pic) (sink next : GstKvsSink) : Input → Prop where
  | quiet : takesIn pic sink input = false → next.frames = sink.frames →
      next.data.lastDts = sink.data.lastDts → FrameStep pic sink next input
  | unmapped : LetsThrough pic sink → isDroppable buffer = false → outcome.mapped = false →
      next.frames = sink.frames → next.data.lastDts = decodeTime sink buffer →
      FrameStep pic sink next (.buffer pad buffer outcome)
  | submitted (track : GstKvsSinkTrackData) : LetsThrough pic sink → becomesFrame buffer outcome = true →
      next.frames = sink.frames ++ [frameOf sink track buffer outcome.now] →
      next.data.lastDts = decodeTime sink buffer →
      next.data.firstPts = anchoredFirstPts sink buffer →
      FrameStep pic sink next (.buffer pad buffer outcome)

theorem not_taken_in (none : takesIn pic sink input = false) : acceptances pic sink input = [] := by
  cases input with
  | buffer pad buffer outcome =>
    apply if_neg
    rintro ⟨lets, becomes⟩
    simp only [becomesFrame, Bool.and_eq_true, Bool.not_eq_true'] at becomes
    simp [takesIn, lets, becomes.1] at none
  | _ => rfl

/-- Only buffers write the last decode time; a new session goes on with the old one. -/
theorem other_steps_keep_last_dts (accepted : step pic sink input = some next)
    (noBuffer : ∀ pad buffer outcome, input ≠ .buffer pad buffer outcome) :
    next.data.lastDts = sink.data.lastDts := by
  obtain ⟨_, rfl⟩ := step_eq_some.mp accepted
  obtain ⟨outcome, rfl⟩ | noStart := start_or_not input
  · exact congrArg (·.data.lastDts) (change_state_keeps_unmoved pic sink .nullToReady outcome)
  · exact congrArg (·.lastDts) (other_inputs_keep_timeline pic sink input noBuffer noStart)

theorem frame_step (known : StreamsKnown sink) (accepted : step pic sink input = some next) :
    FrameStep pic sink next input := by
  by_cases isBuffer : ∃ pad buffer outcome, input = .buffer pad buffer outcome
  · obtain ⟨pad, buffer, outcome, rfl⟩ := isBuffer
    obtain ⟨track, _, effect⟩ := buffer_step known accepted
    cases effect with
    | refused stopped frames timeline =>
      exact .quiet (by simp [takesIn, stopped]) frames (congrArg (·.lastDts) timeline)
    | taken lets taken =>
      cases taken with
      | dropped droppable frames timeline =>
        exact .quiet (by simp [takesIn, droppable]) frames (congrArg (·.lastDts) timeline)
      | unmapped sendable unmapped frames timeline =>
        exact .unmapped lets sendable unmapped frames (congrArg (·.lastDts) timeline)
      | sent becomes _ frames timeline | threw becomes _ frames timeline =>
        exact .submitted track lets becomes frames (congrArg (·.lastDts) timeline)
          (congrArg (·.firstPts) timeline)
  · have noBuffer (pad : PadId) (buffer : GstBuffer) (outcome : BufferOutcome) :
        input ≠ .buffer pad buffer outcome := fun same => isBuffer ⟨pad, buffer, outcome, same⟩
    have lastDts := other_steps_keep_last_dts accepted noBuffer
    obtain ⟨_, rfl⟩ := step_eq_some.mp accepted
    refine .quiet ?_ (frames_of_grows (input_calls pic sink input) fun call made =>
      input_submits_none made noBuffer) lastDts
    cases input with
    | buffer pad buffer outcome => exact absurd rfl (noBuffer pad buffer outcome)
    | _ => rfl

end KvsProducer
