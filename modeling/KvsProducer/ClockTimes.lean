import KvsProducer.SessionTimeline

/-! Clock times that may be missing. A missing time is the largest number there
is, and sums take it for one. Over it stands an arithmetic in which a missing
time makes whatever is computed from it missing, also what the element remembers
of it; a frame is fit to be submitted if that arithmetic gives it its two times. -/
namespace KvsProducer
open Gst History Runs

/-- `GST_CLOCK_TIME_IS_VALID`. -/
def validTime (time : GstClockTime) : Option UInt64 :=
  if time = gstClockTimeNone then none else some time

/-- An element, with its last decode time as far as it comes from valid times. -/
structure Clocked where
  sink : GstKvsSink
  lastDts : Option UInt64

/-- The decode time of a buffer, as far as it comes from valid times. -/
def Clocked.decodeTime (clocked : Clocked) (buffer : GstBuffer) : Option UInt64 :=
  if isOfflineStreamingMode clocked.sink.streamingType then
    if clocked.sink.data.useOriginalPts then validTime buffer.dts else some 0
  else (validTime buffer.dts).or (clocked.lastDts.map (· + defaultFrameDurationInNanos))

/-- The anchor of the live timeline, as far as it comes from valid times. -/
def Clocked.firstPts (clocked : Clocked) (buffer : GstBuffer) : Option UInt64 :=
  (validTime clocked.sink.data.firstPts).or (validTime buffer.pts)

/-- The presentation time of a buffer, as far as it comes from valid times. The
base and the start are no clock times of the pipeline. -/
def Clocked.presentationTime (clocked : Clocked) (buffer : GstBuffer) (now : UInt64) : Option UInt64 :=
  if clocked.sink.data.useOriginalPts then clocked.decodeTime buffer
  else (validTime buffer.pts).bind fun pts =>
    if isOfflineStreamingMode clocked.sink.streamingType then some (pts + clocked.sink.data.ptsBase)
    else (clocked.firstPts buffer).map fun firstPts =>
      pts + (anchoredStartTime clocked.sink now - firstPts)

/-- What `data->last_dts` is worth after an input. -/
def Clocked.noteDts (pic : Pic) (clocked : Clocked) : Input → Option UInt64
  | .buffer _ buffer _ =>
    if LetsThrough pic clocked.sink ∧ isDroppable buffer = false then
      (clocked.decodeTime buffer).bind validTime
    else clocked.lastDts
  | _ => clocked.lastDts

def clockedStep (pic : Pic) (clocked : Clocked) (input : Input) : Option Clocked :=
  (step pic clocked.sink input).map fun sink => { sink, lastDts := clocked.noteDts pic input }

/-- A new element, whose last decode time is zero. -/
def Clocked.init (now : UInt64) : Clocked := { sink := gstKvsSinkInit now, lastDts := some 0 }

/-- **Valid clock times.** A submitted frame and what the element remembers of
it come from valid times. -/
structure FrameFromValidTimes (clocked : Clocked) (buffer : GstBuffer) (now : UInt64) (frame : Frame)
    (next : GstKvsSink) : Prop where
  decoding : ∃ time, clocked.decodeTime buffer = some time ∧ frame.decodingTs = time / defaultTimeUnitInNanos
  presentation : ∃ time, clocked.presentationTime buffer now = some time ∧
    frame.presentationTs = time / defaultTimeUnitInNanos
  lastDts : next.data.lastDts ≠ gstClockTimeNone
  firstPts : isOfflineStreamingMode clocked.sink.streamingType = false → next.data.firstPts ≠ gstClockTimeNone

/-- Whatever frame an input submits comes from valid times. -/
def SubmitsValidTimes (pic : Pic) (clocked : Clocked) : Input → Prop
  | .buffer pad buffer outcome => ∀ next frame,
    step pic clocked.sink (.buffer pad buffer outcome) = some next →
      next.frames = clocked.sink.frames ++ [frame] →
        FrameFromValidTimes clocked buffer outcome.now frame next
  | _ => True

/-- The buffer has the times that the mode needs, or the element can make up for them. -/
def HasNeededTimes (clocked : Clocked) (buffer : GstBuffer) : Prop :=
  if isOfflineStreamingMode clocked.sink.streamingType then
    if clocked.sink.data.useOriginalPts then buffer.dtsIsValid = true else buffer.ptsIsValid = true
  else
    (buffer.dtsIsValid = true ∨
      ∃ lastDts ∈ clocked.lastDts, lastDts + defaultFrameDurationInNanos ≠ gstClockTimeNone) ∧
    (buffer.ptsIsValid = true ∨
      clocked.sink.data.useOriginalPts = true ∧ clocked.sink.data.firstPts ≠ gstClockTimeNone)

/-- A buffer that is accepted has the times it needs. -/
def AcceptsNeededTimes (pic : Pic) (clocked : Clocked) (input : Input) : Prop :=
  ∀ accepted ∈ acceptances pic clocked.sink input, HasNeededTimes clocked accepted.buffer

variable {clocked : Clocked} {buffer : GstBuffer}

/-! ## The arithmetic agrees where it is defined -/

private theorem valid_time_some : validTime time = some value ↔ time ≠ gstClockTimeNone ∧ time = value := by
  unfold validTime
  split <;> simp_all

private theorem valid_time_of (valid : time ≠ gstClockTimeNone) : validTime time = some time := by
  unfold validTime
  rw [if_neg valid]

private theorem valid_time_missing (missing : time = gstClockTimeNone) : validTime time = none := by
  unfold validTime
  rw [if_pos missing]

private theorem valid_time_is_some : (validTime time).isSome = true ↔ time ≠ gstClockTimeNone := by
  unfold validTime
  split <;> simp_all

/-- The last decode time is what it is worth, if it is worth anything. -/
def Clocked.Agrees (clocked : Clocked) : Prop :=
  ∀ time ∈ clocked.lastDts, time = clocked.sink.data.lastDts

private theorem decode_time_agrees (agrees : clocked.Agrees) (decoded : clocked.decodeTime buffer = some time) :
    time = KvsProducer.decodeTime clocked.sink buffer := by
  unfold Clocked.decodeTime at decoded
  unfold KvsProducer.decodeTime
  cases offline : isOfflineStreamingMode clocked.sink.streamingType with
  | true =>
    cases original : clocked.sink.data.useOriginalPts with
    | true =>
      simp only [offline, original, if_true, valid_time_some] at decoded
      exact decoded.2.symm
    | false =>
      simp only [offline, original, if_true, Bool.false_eq_true, if_false, Option.some.injEq] at decoded
      exact decoded.symm
  | false =>
    simp only [offline, Bool.false_eq_true, if_false] at decoded ⊢
    cases valid : buffer.dtsIsValid with
    | true =>
      have given : buffer.dts ≠ gstClockTimeNone := by simpa [GstBuffer.dtsIsValid] using valid
      simp only [valid_time_of given, Option.some_or, Option.some.injEq] at decoded
      exact decoded.symm
    | false =>
      have missing : buffer.dts = gstClockTimeNone := by simpa [GstBuffer.dtsIsValid] using valid
      simp only [valid_time_missing missing, Option.none_or, Option.map_eq_some_iff] at decoded
      obtain ⟨last, worth, rfl⟩ := decoded
      rw [agrees last worth]
      rfl

/-- The anchor is what the arithmetic says. -/
theorem first_pts_agrees (live : isOfflineStreamingMode clocked.sink.streamingType = false)
    (anchored : clocked.firstPts buffer = some time) : time = anchoredFirstPts clocked.sink buffer := by
  unfold Clocked.firstPts at anchored
  simp only [anchoredFirstPts, live, Bool.false_eq_true, if_false]
  by_cases unset : clocked.sink.data.firstPts = gstClockTimeNone
  · rw [valid_time_missing unset, Option.none_or, valid_time_some] at anchored
    rw [if_pos unset]
    exact anchored.2.symm
  · rw [valid_time_of unset, Option.some_or, Option.some.injEq] at anchored
    rw [if_neg unset]
    exact anchored.symm

private theorem presentation_time_agrees (agrees : clocked.Agrees) (now : UInt64)
    (presented : clocked.presentationTime buffer now = some time) :
    time = presentationTime clocked.sink buffer now := by
  unfold Clocked.presentationTime at presented
  unfold presentationTime
  cases original : clocked.sink.data.useOriginalPts with
  | true =>
    rw [original, if_pos rfl] at presented
    rw [if_pos rfl]
    exact decode_time_agrees agrees presented
  | false =>
    rw [original, if_neg Bool.false_ne_true] at presented
    rw [if_neg Bool.false_ne_true]
    obtain ⟨pts, given, presented⟩ := Option.bind_eq_some_iff.mp presented
    obtain ⟨_, rfl⟩ := valid_time_some.mp given
    cases offline : isOfflineStreamingMode clocked.sink.streamingType with
    | true =>
      rw [offline, if_pos rfl] at presented
      rw [if_pos rfl]
      exact (Option.some.inj presented).symm
    | false =>
      rw [offline, if_neg Bool.false_ne_true] at presented
      rw [if_neg Bool.false_ne_true]
      obtain ⟨firstPts, anchored, rfl⟩ := Option.map_eq_some_iff.mp presented
      rw [first_pts_agrees offline anchored]

/-! ## What a frame needs -/

private theorem pts_valid_iff : (validTime buffer.pts).isSome = true ↔ buffer.ptsIsValid = true := by
  simp [valid_time_is_some, GstBuffer.ptsIsValid]

private theorem dts_valid_iff : (validTime buffer.dts).isSome = true ↔ buffer.dtsIsValid = true := by
  simp [valid_time_is_some, GstBuffer.dtsIsValid]

/-- The presentation time is defined once the decode time is and the buffer has
the PTS that is moved. -/
theorem presentation_is_some (now : UInt64) :
    (clocked.presentationTime buffer now).isSome = true ↔
      if clocked.sink.data.useOriginalPts then (clocked.decodeTime buffer).isSome = true
      else buffer.ptsIsValid = true := by
  unfold Clocked.presentationTime
  split
  · exact Iff.rfl
  · rw [← pts_valid_iff]
    cases valid : validTime buffer.pts with
    | none => simp
    | some pts => cases isOfflineStreamingMode clocked.sink.streamingType <;> simp [Clocked.firstPts, valid]

/-- The decode time of a live buffer is its own, or made from the one before. -/
theorem live_decode_is_some (live : isOfflineStreamingMode clocked.sink.streamingType = false) :
    (clocked.decodeTime buffer).isSome = true ↔
      buffer.dtsIsValid = true ∨ clocked.lastDts.isSome = true := by
  unfold Clocked.decodeTime
  rw [live, if_neg Bool.false_ne_true, ← dts_valid_iff]
  simp

/-- In a live session, what is decoded and noted is valid if the DTS is or can be made up for. -/
theorem live_decode_iff (agrees : clocked.Agrees)
    (live : isOfflineStreamingMode clocked.sink.streamingType = false) :
    (clocked.decodeTime buffer).isSome = true ∧ decodeTime clocked.sink buffer ≠ gstClockTimeNone ↔
      buffer.dtsIsValid = true ∨
        ∃ lastDts ∈ clocked.lastDts, lastDts + defaultFrameDurationInNanos ≠ gstClockTimeNone := by
  rw [live_decode_is_some live]
  have decoded : decodeTime clocked.sink buffer = if buffer.dtsIsValid then buffer.dts
      else clocked.sink.data.lastDts + defaultFrameDurationInNanos := by
    unfold decodeTime
    rw [live, if_neg Bool.false_ne_true]
  rw [decoded]
  cases valid : buffer.dtsIsValid with
  | true =>
    have given : buffer.dts ≠ gstClockTimeNone := by simpa [GstBuffer.dtsIsValid] using valid
    simp [given]
  | false =>
    rw [if_neg Bool.false_ne_true]
    cases worth : clocked.lastDts with
    | none => simp
    | some last =>
      rw [agrees last worth]
      simp

/-- In a live session the anchor is set, or is being set by this buffer. -/
theorem live_anchor_iff (live : isOfflineStreamingMode clocked.sink.streamingType = false) :
    anchoredFirstPts clocked.sink buffer ≠ gstClockTimeNone ↔
      clocked.sink.data.firstPts ≠ gstClockTimeNone ∨ buffer.ptsIsValid = true := by
  unfold anchoredFirstPts
  rw [live, if_neg Bool.false_ne_true]
  by_cases unset : clocked.sink.data.firstPts = gstClockTimeNone
  · rw [if_pos unset]
    simp [unset, GstBuffer.ptsIsValid]
  · rw [if_neg unset]
    simp [unset]

/-- What the times of a submission are worth, by what the buffer carries. -/
theorem needed_times_iff (agrees : clocked.Agrees) (now : UInt64) :
    ((clocked.decodeTime buffer).isSome = true ∧ (clocked.presentationTime buffer now).isSome = true ∧
      decodeTime clocked.sink buffer ≠ gstClockTimeNone ∧
      (isOfflineStreamingMode clocked.sink.streamingType = false →
        anchoredFirstPts clocked.sink buffer ≠ gstClockTimeNone)) ↔ HasNeededTimes clocked buffer := by
  rw [presentation_is_some]
  unfold HasNeededTimes
  cases offline : isOfflineStreamingMode clocked.sink.streamingType with
  | true =>
    unfold Clocked.decodeTime decodeTime
    rw [offline, if_pos rfl, if_pos rfl, if_pos rfl]
    cases original : clocked.sink.data.useOriginalPts with
    | true =>
      simp only [if_true, dts_valid_iff]
      simp [GstBuffer.dtsIsValid]
    | false =>
      have zero : (0 : UInt64) ≠ gstClockTimeNone := by decide
      simp [zero]
  | false =>
    rw [if_neg Bool.false_ne_true, ← live_decode_iff agrees offline, live_anchor_iff offline]
    cases original : clocked.sink.data.useOriginalPts with
    | true =>
      simp only [if_true, true_and, forall_const]
      tauto
    | false =>
      simp only [Bool.false_eq_true, if_false, false_and, or_false, forall_const]
      tauto

/-! ## Steps -/

/-- What is known of every clocked element. -/
structure ClockTraced (clocked : Clocked) : Prop where
  known : StreamsKnown clocked.sink
  agrees : clocked.Agrees

private theorem clocked_step_some : clockedStep pic clocked input = some next ↔
    step pic clocked.sink input = some next.sink ∧ clocked.noteDts pic input = next.lastDts := by
  obtain ⟨sink, lastDts⟩ := next
  simp [clockedStep]

/-- The record of the last decode time is kept beside every run. -/
theorem clocked_runs (ran : run (step pic) clocked.sink inputs = some final) :
    ∃ lastDts, run (clockedStep pic) clocked inputs = some ⟨final, lastDts⟩ := by
  induction inputs generalizing clocked with
  | nil =>
    cases ran
    exact ⟨clocked.lastDts, rfl⟩
  | cons input rest ih =>
    rw [run_cons] at ran
    obtain ⟨next, accepted, ran⟩ := Option.bind_eq_some_iff.mp ran
    obtain ⟨lastDts, later⟩ := @ih ⟨next, clocked.noteDts pic input⟩ ran
    have stepped : clockedStep pic clocked input = some ⟨next, clocked.noteDts pic input⟩ :=
      clocked_step_some.mpr ⟨accepted, rfl⟩
    refine ⟨lastDts, ?_⟩
    rw [run_cons, stepped]
    exact later

private theorem frame_from_valid_iff (agrees : clocked.Agrees)
    (timeline : next.data.lastDts = decodeTime clocked.sink buffer)
    (anchor : next.data.firstPts = anchoredFirstPts clocked.sink buffer) :
    FrameFromValidTimes clocked buffer now (frameOf clocked.sink track buffer now) next ↔
      HasNeededTimes clocked buffer := by
  rw [← needed_times_iff agrees now, ← timeline, ← anchor]
  constructor
  · rintro ⟨⟨decoded, decoding, _⟩, ⟨presented, presentation, _⟩, lastDts, firstPts⟩
    exact ⟨by simp [decoding], by simp [presentation], lastDts, firstPts⟩
  · rintro ⟨decoding, presentation, lastDts, firstPts⟩
    obtain ⟨decoded, decoding⟩ := Option.isSome_iff_exists.mp decoding
    obtain ⟨presented, presentation⟩ := Option.isSome_iff_exists.mp presentation
    refine ⟨⟨decoded, decoding, ?_⟩, ⟨presented, presentation, ?_⟩, lastDts, firstPts⟩
    · rw [decode_time_agrees agrees decoding]
      rfl
    · rw [presentation_time_agrees agrees now presentation]
      rfl

/-- What is noted of a buffer that is taken in, and of any other input. -/
theorem note_dts_taken (lets : LetsThrough pic clocked.sink) (sendable : isDroppable buffer = false) :
    clocked.noteDts pic (.buffer pad buffer outcome) = (clocked.decodeTime buffer).bind validTime :=
  if_pos ⟨lets, sendable⟩

private theorem note_dts_quiet (quiet : takesIn pic clocked.sink input = false) :
    clocked.noteDts pic input = clocked.lastDts := by
  cases input with
  | buffer pad buffer outcome =>
    apply if_neg
    rintro ⟨lets, sendable⟩
    simp [takesIn, lets, sendable] at quiet
  | _ => rfl

private theorem step_keeps_clock_traced (traced : ClockTraced clocked)
    (accepted : clockedStep pic clocked input = some next) : ClockTraced next := by
  obtain ⟨accepted, noted⟩ := clocked_step_some.mp accepted
  refine ⟨step_keeps_streams_known traced.known accepted, fun time worth => ?_⟩
  rw [← noted] at worth
  have taken {buffer : GstBuffer} (lastDts : next.sink.data.lastDts = decodeTime clocked.sink buffer)
      (worth : time ∈ (clocked.decodeTime buffer).bind validTime) : time = next.sink.data.lastDts := by
    obtain ⟨decoded, decoding, valid⟩ := Option.bind_eq_some_iff.mp worth
    rw [← (valid_time_some.mp valid).2, decode_time_agrees traced.agrees decoding]
    exact lastDts.symm
  cases frame_step traced.known accepted with
  | quiet none _ lastDts =>
    rw [note_dts_quiet none] at worth
    exact (traced.agrees time worth).trans lastDts.symm
  | unmapped lets sendable _ _ lastDts =>
    rw [note_dts_taken lets sendable] at worth
    exact taken lastDts worth
  | submitted _ lets becomes _ lastDts =>
    simp only [becomesFrame, Bool.and_eq_true, Bool.not_eq_true'] at becomes
    rw [note_dts_taken lets becomes.1] at worth
    exact taken lastDts worth

/-- Nothing is asked of a step that submits no frame. -/
theorem quiet_submits_valid (none : acceptances pic clocked.sink input = [])
    (accepted : step pic clocked.sink input = some next) (frames : next.frames = clocked.sink.frames) :
    SubmitsValidTimes pic clocked input ↔ AcceptsNeededTimes pic clocked input := by
  refine iff_of_true ?_ fun each member => ?_
  · cases input with
    | buffer pad buffer outcome =>
      intro other frame again submitted
      cases accepted.symm.trans again
      rw [frames] at submitted
      simp at submitted
    | _ => trivial
  · rw [none] at member
    cases member

/-- A buffer is submitted with valid times exactly if it has the times it needs. -/
theorem submits_valid_iff (traced : ClockTraced clocked)
    (accepted : clockedStep pic clocked input = some next) :
    SubmitsValidTimes pic clocked input ↔ AcceptsNeededTimes pic clocked input := by
  obtain ⟨accepted, _⟩ := clocked_step_some.mp accepted
  cases frame_step traced.known accepted with
  | quiet none frames => exact quiet_submits_valid (not_taken_in none) accepted frames
  | unmapped _ _ unmapped frames =>
    exact quiet_submits_valid (by simp [acceptances, becomesFrame, unmapped]) accepted frames
  | @submitted buffer outcome pad track lets becomes frames lastDts firstPts =>
    have exactly : AcceptsNeededTimes pic clocked (.buffer pad buffer outcome) ↔
        HasNeededTimes clocked buffer := by
      simp [AcceptsNeededTimes, acceptances_one lets becomes]
    rw [exactly, ← frame_from_valid_iff traced.agrees lastDts firstPts]
    constructor
    · exact fun valid => valid next.sink _ accepted frames
    · intro valid other frame again made
      cases accepted.symm.trans again
      cases List.append_cancel_left (frames.symm.trans made)
      exact valid

/-- **Clock times.** In every run of an element, each frame comes from valid
clock times, and leaves valid ones behind, exactly if each accepted buffer has
the times that its mode needs. -/
theorem frames_carry_valid_times_iff (pic : Pic) (now : UInt64) (inputs : List Input) :
    EachStep (clockedStep pic) (SubmitsValidTimes pic) (.init now) inputs ↔
      EachStep (clockedStep pic) (AcceptsNeededTimes pic) (.init now) inputs := by
  apply @each_step_iff _ _ _ _ _ ClockTraced
  · exact fun _ _ _ traced accepted => step_keeps_clock_traced traced accepted
  · exact fun _ _ _ traced accepted => submits_valid_iff traced accepted
  · refine ⟨init_streams_known now, ?_⟩
    rintro time ⟨⟩
    rfl

/-- A live session with one video pad, ready for its first buffer. -/
def liveVideo : List Input := .requestNewPad .video true :: upTo fun _ => some [h264Caps]

/-- A buffer without a PTS is no header, so it is not dropped. The first frame is
presented at the start of the session, and the anchor stays missing. -/
theorem missing_pts_is_submitted :
    ¬ ∀ (pic : Pic) (now : UInt64) (inputs : List Input),
      EachStep (clockedStep pic) (SubmitsValidTimes pic) (.init now) inputs := by
  intro always
  have evaluated : (run (clockedStep .sample) (.init 0) liveVideo).bind (fun clocked =>
      (step .sample clocked.sink (.buffer 0 ⟨0, gstClockTimeNone, 700, [1]⟩ {})).map fun next =>
        (clocked.presentationTime ⟨0, gstClockTimeNone, 700, [1]⟩ 0, clocked.sink.frames, next.frames)) =
      some (none, [], [⟨.keyFrame, 0, 7, 0, 0, 1, [1], 1⟩]) := by decide
  obtain ⟨clocked, ran, evaluated⟩ := Option.bind_eq_some_iff.mp evaluated
  obtain ⟨next, accepted, facts⟩ := Option.map_eq_some_iff.mp evaluated
  simp only [Prod.mk.injEq] at facts
  obtain ⟨missing, before, after⟩ := facts
  have last := (always .sample 0 (liveVideo ++ [.buffer 0 ⟨0, gstClockTimeNone, 700, [1]⟩ {}])).after ran
  have valid := (last ⟨next, _⟩ (clocked_step_some.mpr ⟨accepted, rfl⟩)).1 next _ accepted
    (by rw [before, after]; rfl)
  obtain ⟨time, presented, _⟩ := valid.presentation
  rw [missing] at presented
  cases presented

end KvsProducer
