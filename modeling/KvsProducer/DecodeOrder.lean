import Mathlib.Data.List.Chain
import KvsProducer.SessionTimeline

/-! The order of decode times. A missing DTS is replaced by the one before plus
two milliseconds, whichever track it was on, and a DTS that is given is taken as
it is. What is synthesized can therefore run ahead of what is given next. -/
namespace KvsProducer
open Gst History Runs

/-- The decode times of the frames since a session started, in the order of submission. -/
def GstKvsSink.decodingTimes (sink started : GstKvsSink) : List UInt64 :=
  (sink.frames.drop started.frames.length).map (·.decodingTs)

/-- **Decode times are ordered.** -/
def DecodesInOrder (started sink : GstKvsSink) : Prop := (sink.decodingTimes started).Pairwise (· ≤ ·)

/-- The input is no buffer that would be accepted if only it could be mapped. -/
def CanBeMapped (pic : Pic) (sink : GstKvsSink) : Input → Prop
  | .buffer _ buffer outcome =>
    LetsThrough pic sink → isDroppable buffer = false → outcome.mapped = true
  | _ => True

instance (pic : Pic) (sink : GstKvsSink) : (input : Input) → Decidable (CanBeMapped pic sink input)
  | .buffer _ _ _ => inferInstanceAs (Decidable (_ → _ → _))
  | .noBuffer _ | .streamErrorReport _ | .finalize | .requestNewPad _ _ | .releasePad _ _
  | .setProperty _ | .changeState _ _ | .sinkEvent _ _ _ => isTrue trivial

/-- A step of a live session in which buffers can be mapped. -/
structure MappedLiveStep (pic : Pic) (sink : GstKvsSink) (input : Input) : Prop where
  live : isOfflineStreamingMode sink.streamingType = false
  sameSession : input.startsSession = false
  mapped : CanBeMapped pic sink input

instance (pic : Pic) (sink : GstKvsSink) (input : Input) : Decidable (MappedLiveStep pic sink input) :=
  decidable_of_iff (isOfflineStreamingMode sink.streamingType = false ∧ input.startsSession = false ∧
      CanBeMapped pic sink input)
    ⟨fun ⟨live, sameSession, mapped⟩ => ⟨live, sameSession, mapped⟩,
      fun permitted => ⟨permitted.live, permitted.sameSession, permitted.mapped⟩⟩

/-- A DTS that is given is not below the last one, in the unit of frames, and
one that is synthesized does not wrap. -/
def DtsFollows (lastDts : UInt64) (buffer : GstBuffer) : Prop :=
  if buffer.dtsIsValid then lastDts / defaultTimeUnitInNanos ≤ buffer.dts / defaultTimeUnitInNanos
  else lastDts.toNat + defaultFrameDurationInNanos.toNat < 2 ^ 64

/-- A buffer that is accepted after another one has a DTS that follows the last. -/
def KeepsDecodeOrder (pic : Pic) (started sink : GstKvsSink) (input : Input) : Prop :=
  sink.decodingTimes started ≠ [] → ∀ accepted ∈ acceptances pic sink input,
    DtsFollows sink.data.lastDts accepted.buffer

instance (lastDts : UInt64) (buffer : GstBuffer) : Decidable (DtsFollows lastDts buffer) :=
  inferInstanceAs (Decidable (if buffer.dtsIsValid then
    lastDts / defaultTimeUnitInNanos ≤ buffer.dts / defaultTimeUnitInNanos
    else lastDts.toNat + defaultFrameDurationInNanos.toNat < 2 ^ 64))

instance (pic : Pic) (started sink : GstKvsSink) (input : Input) :
    Decidable (KeepsDecodeOrder pic started sink input) :=
  inferInstanceAs (Decidable (_ → ∀ accepted ∈ _, DtsFollows _ _))

/-! ## Decode times -/

/-- In a transitive order the last entry speaks for all. -/
theorem in_order_snoc (times : List UInt64) (time : UInt64) :
    (times ++ [time]).Pairwise (· ≤ ·) ↔
      times.Pairwise (· ≤ ·) ∧ ∀ last ∈ times.getLast?, last ≤ time := by
  have chain (list : List UInt64) : list.Pairwise (· ≤ ·) ↔ list.IsChain (· ≤ ·) :=
    List.isChain_iff_pairwise.symm
  rw [chain, chain, List.isChain_append]
  simp

/-- A sum that does not wrap is not below its summand in the unit of frames, and
one that wraps is. -/
theorem synthesized_follows (lastDts : UInt64) :
    lastDts / defaultTimeUnitInNanos ≤ (lastDts + defaultFrameDurationInNanos) / defaultTimeUnitInNanos ↔
      lastDts.toNat + defaultFrameDurationInNanos.toNat < 2 ^ 64 := by
  have bound := lastDts.toNat_lt
  have unit : defaultTimeUnitInNanos.toNat = 100 := by decide
  have duration : defaultFrameDurationInNanos.toNat = 2000000 := by decide
  rw [UInt64.le_iff_toNat_le, UInt64.toNat_div, UInt64.toNat_div, UInt64.toNat_add, unit, duration]
  omega

/-- The decode time of a live buffer follows the last one exactly if its DTS does. -/
theorem decode_follows_iff (live : isOfflineStreamingMode sink.streamingType = false) (buffer : GstBuffer) :
    sink.data.lastDts / defaultTimeUnitInNanos ≤ decodeTime sink buffer / defaultTimeUnitInNanos ↔
      DtsFollows sink.data.lastDts buffer := by
  unfold decodeTime DtsFollows
  rw [live]
  cases buffer.dtsIsValid with
  | true => simp
  | false => simpa using synthesized_follows sink.data.lastDts

/-! ## One step -/

/-- What is known of a live session: its last frame carries the last decode time. -/
structure DecodeTraced (started sink : GstKvsSink) : Prop where
  known : StreamsKnown sink
  began : started.frames <+: sink.frames
  last : ∀ time ∈ (sink.decodingTimes started).getLast?, time = sink.data.lastDts / defaultTimeUnitInNanos

/-- The decode times with one more frame. -/
theorem decoding_times_snoc (began : started.frames <+: GstKvsSink.frames sink)
    (submitted : GstKvsSink.frames next = sink.frames ++ [frame]) :
    next.decodingTimes started = sink.decodingTimes started ++ [frame.decodingTs] := by
  unfold GstKvsSink.decodingTimes
  rw [submitted, List.drop_append_of_le_length began.length_le, List.map_append]
  rfl

private theorem step_keeps_decode_traced (traced : DecodeTraced started sink)
    (permitted : MappedLiveStep pic sink input) (accepted : step pic sink input = some next) :
    DecodeTraced started next := by
  have known := step_keeps_streams_known traced.known accepted
  cases frame_step traced.known accepted with
  | quiet _ frames lastDts =>
    refine ⟨known, frames ▸ traced.began, ?_⟩
    unfold GstKvsSink.decodingTimes
    rw [frames, lastDts]
    exact traced.last
  | unmapped lets sendable unmapped =>
    rw [permitted.mapped lets sendable] at unmapped
    cases unmapped
  | submitted track _ _ frames lastDts =>
    refine ⟨known, frames ▸ traced.began.trans (List.prefix_append _ _), ?_⟩
    rw [decoding_times_snoc traced.began frames, lastDts]
    intro time member
    rw [List.getLast?_append_of_ne_nil _ (by simp)] at member
    cases member
    rfl

private theorem decode_order_step (traced : DecodeTraced started sink) (ordered : DecodesInOrder started sink)
    (permitted : MappedLiveStep pic sink input) (accepted : step pic sink input = some next) :
    DecodesInOrder started next ↔ KeepsDecodeOrder pic started sink input := by
  unfold DecodesInOrder KeepsDecodeOrder
  cases frame_step traced.known accepted with
  | quiet none frames =>
    refine iff_of_true ?_ fun _ each member => ?_
    · unfold GstKvsSink.decodingTimes
      rw [frames]
      exact ordered
    · rw [not_taken_in none] at member
      cases member
  | unmapped lets sendable unmapped =>
    rw [permitted.mapped lets sendable] at unmapped
    cases unmapped
  | @submitted buffer outcome pad track lets becomes frames =>
    have follows := decode_follows_iff permitted.live buffer
    rw [decoding_times_snoc traced.began frames, in_order_snoc, acceptances_one lets becomes]
    simp only [List.mem_singleton, forall_eq]
    rw [← follows]
    constructor
    · rintro ⟨_, above⟩ some
      have last := List.getLast?_eq_some_getLast some
      have same := traced.last _ last
      rw [← same]
      exact above _ last
    · intro follow
      refine ⟨ordered, fun last member => ?_⟩
      rw [traced.last last member]
      apply follow
      rintro none
      rw [none] at member
      cases member

/-- **Decode times.** The frames of a live session are in the order of their
decode times exactly if every accepted buffer after the first has a DTS that is
not below the last one, or none and room for two more milliseconds. -/
theorem decode_times_ordered_iff (reached : runFromInit pic now earlier = some ready)
    (began : step pic ready (.changeState .nullToReady outcome) = some started)
    (live : EachStep (step pic) (MappedLiveStep pic) started inputs) :
    Throughout (step pic) (DecodesInOrder started) started inputs ↔
      EachStep (step pic) (KeepsDecodeOrder pic started) started inputs := by
  have known := step_keeps_streams_known (reachable_streams_known reached) began
  have none : started.decodingTimes started = [] := by
    simp [GstKvsSink.decodingTimes]
  apply @throughout_iff_each_permitted_step _ _ _ _ _ (DecodeTraced started)
  · exact fun _ _ _ traced permitted accepted => step_keeps_decode_traced traced permitted accepted
  · exact fun _ _ _ traced ordered permitted accepted => decode_order_step traced ordered permitted accepted
  · refine ⟨known, List.prefix_refl _, ?_⟩
    rw [none]
    exact nofun
  · unfold DecodesInOrder
    rw [none]
    exact List.Pairwise.nil
  · exact live

/-- The DTS values that the accepted buffers carry. -/
def validDts (accepted : List Acceptance) : List UInt64 :=
  (accepted.filter (·.buffer.dtsIsValid)).map (·.buffer.dts)

/-- A session with one video pad whose buffers carry these times. -/
def withDts (times : List GstClockTime) : List Input :=
  .changeState .readyToPaused {} :: times.map fun dts => .buffer 0 ⟨0, 700, dts, [1]⟩ {}

/-- Buffers without a DTS fit between two that have one if there is room for them. -/
theorem spaced_dts_stay_in_order :
    ∃ started final, run (step .sample) started (withDts [0, gstClockTimeNone, gstClockTimeNone, 4000000]) =
        some final ∧ final.decodingTimes started = [0, 20000, 40000, 40000] ∧
      Throughout (step .sample) (DecodesInOrder started) started
        (withDts [0, gstClockTimeNone, gstClockTimeNone, 4000000]) := by
  generalize given : withDts [0, gstClockTimeNone, gstClockTimeNone, 4000000] = inputs
  have evaluated : (runFromInit .sample 0 [.requestNewPad .video true]).bind (fun ready =>
      (step .sample ready (.changeState .nullToReady { allowedCaps := fun _ => some [h264Caps] })).bind
        fun started => (run (step .sample) started inputs).map fun final =>
          (final.decodingTimes started, decide (EachStep (step .sample) (MappedLiveStep .sample) started inputs),
            decide (EachStep (step .sample) (KeepsDecodeOrder .sample started) started inputs))) =
      some ([0, 20000, 40000, 40000], true, true) := by
    subst given
    decide
  obtain ⟨ready, reached, evaluated⟩ := Option.bind_eq_some_iff.mp evaluated
  obtain ⟨started, began, evaluated⟩ := Option.bind_eq_some_iff.mp evaluated
  obtain ⟨final, ran, facts⟩ := Option.map_eq_some_iff.mp evaluated
  simp only [Prod.mk.injEq, decide_eq_true_eq] at facts
  exact ⟨started, final, ran, facts.1, (decode_times_ordered_iff reached began facts.2.1).mpr facts.2.2⟩

/-- A first buffer without a DTS is decoded at two milliseconds, and the one
after it, which has the DTS zero, before it. -/
theorem synthesized_dts_overtakes :
    ¬ ∀ (pic : Pic) (now : UInt64) (earlier inputs : List Input) (outcome : ChangeStateOutcome)
      (ready started : GstKvsSink), runFromInit pic now earlier = some ready →
      step pic ready (.changeState .nullToReady outcome) = some started →
      EachStep (step pic) (MappedLiveStep pic) started inputs →
      (validDts (emitted (step pic) (acceptances pic) started inputs)).Pairwise (· ≤ ·) →
      Throughout (step pic) (DecodesInOrder started) started inputs := by
  intro always
  generalize given : withDts [gstClockTimeNone, 0] = inputs
  have evaluated : (runFromInit .sample 0 [.requestNewPad .video true]).bind (fun ready =>
      (step .sample ready (.changeState .nullToReady { allowedCaps := fun _ => some [h264Caps] })).bind
        fun started => (run (step .sample) started inputs).map fun final =>
          (final.decodingTimes started, decide (EachStep (step .sample) (MappedLiveStep .sample) started inputs),
            validDts (emitted (step .sample) (acceptances .sample) started inputs))) =
      some ([20000, 0], true, [0]) := by
    subst given
    decide
  obtain ⟨ready, reached, evaluated⟩ := Option.bind_eq_some_iff.mp evaluated
  obtain ⟨started, began, evaluated⟩ := Option.bind_eq_some_iff.mp evaluated
  obtain ⟨final, ran, facts⟩ := Option.map_eq_some_iff.mp evaluated
  simp only [Prod.mk.injEq, decide_eq_true_eq] at facts
  obtain ⟨times, live, given⟩ := facts
  have ordered := (always .sample 0 _ inputs _ ready started reached began live
    (given ▸ List.pairwise_singleton _ _)).at_end ran
  unfold DecodesInOrder at ordered
  rw [times] at ordered
  revert ordered
  decide

end KvsProducer
