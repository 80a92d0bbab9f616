import KvsProducer.SessionTimeline

/-! The live timeline. The first buffer that a session accepts sets both its
anchors, and every buffer after it is moved by their difference, whatever is
dropped, refused, reset or fails to be put in between. -/
namespace KvsProducer
open Gst History Runs

/-- What the timeline moves presentation times by. -/
def GstKvsSink.offset (sink : GstKvsSink) : UInt64 := sink.data.producerStartTime - sink.data.firstPts

/-- The presentation timestamp of a buffer moved by this offset, in the unit of frames. -/
def movedTimestamp (offset : UInt64) (pts : GstClockTime) : UInt64 :=
  (pts + offset) / defaultTimeUnitInNanos

/-- A step of a live session that moves the timestamps of its buffers and
collects no metrics. A buffer that is accepted has a time, and the clock, when
it is read, does not stand one nanosecond before its epoch, where its count is
the value that marks an anchor as missing. -/
structure LiveStep (pic : Pic) (sink : GstKvsSink) (input : Input) : Prop where
  live : isOfflineStreamingMode sink.streamingType = false
  moves : sink.data.useOriginalPts = false
  unmeasured : sink.data.getMetrics = false
  sameSession : input.startsSession = false
  timed : ∀ accepted ∈ acceptances pic sink input, accepted.buffer.pts ≠ gstClockTimeNone
  clock : sink.data.producerStartTime = gstClockTimeNone →
    ∀ accepted ∈ acceptances pic sink input, accepted.now ≠ gstClockTimeNone

instance (pic : Pic) (sink : GstKvsSink) (input : Input) : Decidable (LiveStep pic sink input) :=
  decidable_of_iff (isOfflineStreamingMode sink.streamingType = false ∧ sink.data.useOriginalPts = false ∧
      sink.data.getMetrics = false ∧ input.startsSession = false ∧
      (∀ accepted ∈ acceptances pic sink input, accepted.buffer.pts ≠ gstClockTimeNone) ∧
      (sink.data.producerStartTime = gstClockTimeNone →
        ∀ accepted ∈ acceptances pic sink input, accepted.now ≠ gstClockTimeNone))
    ⟨fun ⟨live, moves, unmeasured, sameSession, timed, clock⟩ =>
        ⟨live, moves, unmeasured, sameSession, timed, clock⟩,
      fun live => ⟨live.live, live.moves, live.unmeasured, live.sameSession, live.timed, live.clock⟩⟩

/-- Both anchors are set, by the first buffer that was accepted. -/
structure Anchors (sink : GstKvsSink) (first : Acceptance) : Prop where
  firstPts : sink.data.firstPts = first.buffer.pts
  started : sink.data.producerStartTime = first.now
  timed : first.buffer.pts ≠ gstClockTimeNone
  clock : first.now ≠ gstClockTimeNone

/-- The frames of a session so far are its accepted buffers, moved by one offset
and counted from zero. -/
structure OnTimeline (started sink : GstKvsSink) (accepted : List Acceptance) : Prop where
  known : StreamsKnown sink
  frames : ∃ frames, sink.frames = started.frames ++ frames ∧
    frames.map (fun frame => (frame.presentationTs, frame.index)) =
      accepted.mapIdx fun count each =>
        (movedTimestamp sink.offset each.buffer.pts, UInt32.ofNat count)
  counted : sink.data.frameCount = UInt32.ofNat accepted.length
  unanchored : accepted = [] → sink.Unanchored
  anchored : ∀ first ∈ accepted.head?, Anchors sink first

/-! ## One step -/

theorem OnTimeline.of_same (here : OnTimeline started sink accepted) (known : StreamsKnown next)
    (frames : next.frames = sink.frames)
    (timeline : { next.timeline with lastDts := 0 } = { sink.timeline with lastDts := 0 }) :
    OnTimeline started next accepted := by
  have firstPts : next.data.firstPts = sink.data.firstPts := congrArg (·.firstPts) timeline
  have start : next.data.producerStartTime = sink.data.producerStartTime :=
    congrArg (·.producerStartTime) timeline
  have count : next.data.frameCount = sink.data.frameCount := congrArg (·.frameCount) timeline
  have offset : next.offset = sink.offset := by
    unfold GstKvsSink.offset
    rw [firstPts, start]
  constructor
  · exact known
  · rw [frames, offset]
    exact here.frames
  · exact count.trans here.counted
  · intro none
    obtain ⟨noFirst, noStart⟩ := here.unanchored none
    exact ⟨firstPts.trans noFirst, start.trans noStart⟩
  · intro first member
    obtain ⟨same, sameStart, timed, clock⟩ := here.anchored first member
    exact ⟨firstPts.trans same, start.trans sameStart, timed, clock⟩

/-- Anchors that are set are not set again. -/
theorem Anchors.stay (anchors : Anchors sink first) (buffer : GstBuffer) (now : UInt64) :
    anchoredFirstPts sink buffer = sink.data.firstPts ∧
      anchoredStartTime sink now = sink.data.producerStartTime := by
  have set : sink.data.firstPts ≠ gstClockTimeNone := anchors.firstPts ▸ anchors.timed
  have setToo : sink.data.producerStartTime ≠ gstClockTimeNone := anchors.started ▸ anchors.clock
  unfold anchoredFirstPts anchoredStartTime
  rw [if_neg set, if_neg setToo]
  exact ⟨ite_self _, ite_self _⟩

theorem Anchors.offset (anchors : Anchors sink first) : sink.offset = first.now - first.buffer.pts := by
  unfold GstKvsSink.offset
  rw [anchors.firstPts, anchors.started]

/-- The first buffer is presented at the start of the session. -/
theorem Anchors.first_timestamp (anchors : Anchors sink first) :
    movedTimestamp sink.offset first.buffer.pts = sink.data.producerStartTime / defaultTimeUnitInNanos := by
  rw [anchors.offset, anchors.started, movedTimestamp, UInt64.add_comm, UInt64.sub_add_cancel]

/-- Anchors that are missing are set by the first buffer of a live session. -/
theorem unanchored_anchors (unanchored : GstKvsSink.Unanchored sink)
    (live : isOfflineStreamingMode sink.streamingType = false) (buffer : GstBuffer) (now : UInt64) :
    anchoredFirstPts sink buffer = buffer.pts ∧ anchoredStartTime sink now = now := by
  obtain ⟨noFirst, noStart⟩ := unanchored
  unfold anchoredFirstPts anchoredStartTime
  simp [live, noFirst, noStart]

/-- The frame of a buffer of a live session. -/
theorem live_frame (live : isOfflineStreamingMode sink.streamingType = false)
    (moves : sink.data.useOriginalPts = false) (track : GstKvsSinkTrackData) (buffer : GstBuffer)
    (now : UInt64) :
    (frameOf sink track buffer now).presentationTs =
        movedTimestamp (anchoredStartTime sink now - anchoredFirstPts sink buffer) buffer.pts ∧
      (frameOf sink track buffer now).index = sink.data.frameCount := by
  simp [frameOf, presentationTime, live, moves, movedTimestamp]

private theorem accepted_frame_stays_on_timeline (here : OnTimeline started sink accepted)
    (known : StreamsKnown next) (live : isOfflineStreamingMode sink.streamingType = false)
    (moves : sink.data.useOriginalPts = false) (timed : buffer.pts ≠ gstClockTimeNone)
    (clock : sink.data.producerStartTime = gstClockTimeNone → now ≠ gstClockTimeNone)
    (submitted : next.frames = sink.frames ++ [frameOf sink track buffer now])
    (timeline : next.timeline = (submittedTimeline sink buffer now).count) :
    OnTimeline started next (accepted ++ [⟨buffer, now⟩]) := by
  obtain ⟨presentation, index⟩ := live_frame live moves track buffer now
  have firstPts : next.data.firstPts = anchoredFirstPts sink buffer := congrArg (·.firstPts) timeline
  have start : next.data.producerStartTime = anchoredStartTime sink now :=
    congrArg (·.producerStartTime) timeline
  have count : next.data.frameCount = sink.data.frameCount + 1 := congrArg (·.frameCount) timeline
  have offset : next.offset = anchoredStartTime sink now - anchoredFirstPts sink buffer := by
    unfold GstKvsSink.offset
    rw [firstPts, start]
  have anchored : ∀ first ∈ (accepted ++ [(⟨buffer, now⟩ : Acceptance)]).head?, Anchors next first := by
    cases accepted with
    | nil =>
      rintro _ ⟨⟩
      obtain ⟨setFirst, setStart⟩ := unanchored_anchors (here.unanchored rfl) live buffer now
      exact ⟨firstPts.trans setFirst, start.trans setStart, timed, clock (here.unanchored rfl).2⟩
    | cons first rest =>
      rintro _ ⟨⟩
      have anchors := here.anchored first rfl
      obtain ⟨sameFirst, sameStart⟩ := anchors.stay buffer now
      exact ⟨(firstPts.trans sameFirst).trans anchors.firstPts,
        (start.trans sameStart).trans anchors.started, anchors.timed, anchors.clock⟩
  have earlier : (accepted.mapIdx fun count each =>
      (movedTimestamp sink.offset each.buffer.pts, UInt32.ofNat count)) =
        accepted.mapIdx fun count each => (movedTimestamp next.offset each.buffer.pts, UInt32.ofNat count) := by
    cases accepted with
    | nil => rfl
    | cons first rest =>
      obtain ⟨sameFirst, sameStart⟩ := (here.anchored first rfl).stay buffer now
      rw [offset, sameFirst, sameStart]
      rfl
  constructor
  · exact known
  · obtain ⟨frames, made, listed⟩ := here.frames
    refine ⟨frames ++ [frameOf sink track buffer now], by rw [submitted, made, List.append_assoc], ?_⟩
    rw [List.map_append, listed, List.mapIdx_concat, earlier]
    simp only [List.map_singleton, presentation, index, here.counted, offset]
  · rw [count, here.counted, List.length_append]
    exact (UInt32.ofNat_add accepted.length 1).symm
  · intro none
    simp at none
  · exact anchored

theorem live_step_keeps_timeline (here : OnTimeline started sink accepted) (live : LiveStep pic sink input)
    (step : step pic sink input = some next) :
    OnTimeline started next (accepted ++ acceptances pic sink input) := by
  have known := step_keeps_streams_known here.known step
  by_cases isBuffer : ∃ pad buffer outcome, input = .buffer pad buffer outcome
  · obtain ⟨pad, buffer, outcome, rfl⟩ := isBuffer
    obtain ⟨track, _, effect⟩ := buffer_step here.known step
    have untouched (none : acceptances pic sink (.buffer pad buffer outcome) = [])
        (frames : next.frames = sink.frames)
        (timeline : { next.timeline with lastDts := 0 } = { sink.timeline with lastDts := 0 }) :
        OnTimeline started next (accepted ++ acceptances pic sink (.buffer pad buffer outcome)) := by
      rw [none, List.append_nil]
      exact here.of_same known frames timeline
    cases effect with
    | refused stopped frames timeline =>
      exact untouched (by simp [acceptances, stopped]) frames (by rw [timeline])
    | taken lets taken =>
      cases taken with
      | dropped droppable frames timeline =>
        exact untouched (by simp [acceptances, becomesFrame, droppable]) frames (by rw [timeline])
      | unmapped droppable mapped frames timeline =>
        exact untouched (by simp [acceptances, becomesFrame, mapped]) frames (by rw [timeline])
      | sent becomes _ frames timeline =>
        have accepts : acceptances pic sink (.buffer pad buffer outcome) = [⟨buffer, outcome.now⟩] :=
          acceptances_one lets becomes
        have timed := live.timed ⟨buffer, outcome.now⟩ (by simp [accepts])
        have clock (none : sink.data.producerStartTime = gstClockTimeNone) : outcome.now ≠ gstClockTimeNone :=
          live.clock none ⟨buffer, outcome.now⟩ (by simp [accepts])
        rw [accepts]
        exact accepted_frame_stays_on_timeline here known live.live live.moves timed clock frames timeline
      | threw _ unanswered =>
        apply absurd _ unanswered
        intro reads
        simp [readsMetrics, live.unmeasured] at reads
  · have noBuffer (pad : PadId) (buffer : GstBuffer) (outcome : BufferOutcome) :
        input ≠ .buffer pad buffer outcome := fun same => isBuffer ⟨pad, buffer, outcome, same⟩
    have noStart (outcome : ChangeStateOutcome) : input ≠ .changeState .nullToReady outcome := by
      rintro rfl
      cases live.sameSession
    obtain ⟨frames, timeline⟩ := other_steps_keep_timeline step noBuffer noStart
    rw [acceptances_none noBuffer, List.append_nil]
    exact here.of_same known frames (by rw [timeline])

/-! ## Whole sessions -/

/-- The moved time of a buffer, as an integer, stays within the word. -/
def MovesWithin (first start : UInt64) (pts : GstClockTime) : Prop :=
  0 ≤ (pts.toNat : ℤ) + start.toNat - first.toNat ∧ (pts.toNat : ℤ) + start.toNat - first.toNat < 2 ^ 64

/-- A moved time that stays within the word is exact. -/
theorem moved_exact (fits : MovesWithin first start pts) :
    (pts + (start - first)).toNat = pts.toNat + start.toNat - first.toNat := by
  obtain ⟨above, below⟩ := fits
  have bound := first.toNat_lt
  rw [UInt64.toNat_add, UInt64.toNat_sub]
  omega

theorem moved_monotone (fits : MovesWithin first start earlier) (fitsToo : MovesWithin first start later)
    (ordered : earlier ≤ later) :
    movedTimestamp (start - first) earlier ≤ movedTimestamp (start - first) later := by
  have before : earlier.toNat ≤ later.toNat := UInt64.le_iff_toNat_le.mp ordered
  unfold movedTimestamp
  rw [UInt64.le_iff_toNat_le, UInt64.toNat_div, UInt64.toNat_div, moved_exact fits, moved_exact fitsToo]
  apply Nat.div_le_div_right
  omega

private theorem session_starts_timeline (known : StreamsKnown ready)
    (began : step pic ready (.changeState .nullToReady outcome) = some started)
    (inReady : started.state = .ready) : OnTimeline started started [] := by
  have knownStarted := step_keeps_streams_known known began
  obtain ⟨admitted, rfl⟩ := step_eq_some.mp began
  obtain ⟨created, ran, _, entered⟩ := session_began admitted inReady
  simp only [applyInput, entered] at knownStarted ⊢
  have timeline : created.timeline = .unanchored ready.data.lastDts := started_timeline ran
  constructor
  · exact knownStarted
  · exact ⟨[], by simp, rfl⟩
  · exact congrArg (·.frameCount) timeline
  · exact fun _ => ⟨congrArg (·.firstPts) timeline, congrArg (·.producerStartTime) timeline⟩
  · rintro first ⟨⟩

/-- What a live session hands to the stream, and how its timestamps are ordered. -/
structure TimelinePreserved (accepted : List Acceptance) (frames : List Frame) (final : GstKvsSink)
    (offset : UInt64) : Prop where
  listed : frames.map (fun frame => (frame.presentationTs, frame.index)) =
    accepted.mapIdx fun count each => (movedTimestamp offset each.buffer.pts, UInt32.ofNat count)
  anchored : ∀ first ∈ accepted.head?, final.data.firstPts = first.buffer.pts ∧
    final.data.producerStartTime = first.now ∧ offset = first.now - first.buffer.pts
  first : ∀ frame ∈ frames.head?,
    frame.presentationTs = final.data.producerStartTime / defaultTimeUnitInNanos
  ordered : (∀ each ∈ accepted,
      MovesWithin final.data.firstPts final.data.producerStartTime each.buffer.pts) →
    ∀ earlier ∈ accepted, ∀ later ∈ accepted, earlier.buffer.pts ≤ later.buffer.pts →
      movedTimestamp offset earlier.buffer.pts ≤ movedTimestamp offset later.buffer.pts

/-- **The live timeline.** A session in a live mode has one offset from its first
accepted buffer on, and its frames are its accepted buffers in order, each moved
by that offset and numbered from zero, whatever else happens in between. -/
theorem live_timeline_is_preserved (reached : runFromInit pic now earlier = some ready)
    (began : step pic ready (.changeState .nullToReady outcome) = some started)
    (inReady : started.state = .ready) (ran : run (step pic) started inputs = some final)
    (live : EachStep (step pic) (LiveStep pic) started inputs) :
    ∃ offset frames, final.frames = started.frames ++ frames ∧
      Throughout (step pic) (fun sink => sink.frames ≠ started.frames → sink.offset = offset) started inputs ∧
      TimelinePreserved (emitted (step pic) (acceptances pic) started inputs) frames final offset := by
  have starts := session_starts_timeline (reachable_streams_known reached) began inReady
  have account {before : List Input} {sink : GstKvsSink} (all : EachStep (step pic) (LiveStep pic) started before)
      (ran : run (step pic) started before = some sink) :
      OnTimeline started sink (emitted (step pic) (acceptances pic) started before) :=
    run_accounts (fun _ _ _ _ here live accepted => live_step_keeps_timeline here live accepted)
      starts all ran
  obtain ⟨_, ⟨frames, made, listed⟩, _, _, anchors⟩ := account live ran
  refine ⟨final.offset, frames, made, throughout_iff_prefixes.mpr ?_, listed, ?_, ?_, ?_⟩
  · rintro before sink ⟨rest, rfl⟩ ranBefore submitted
    obtain ⟨_, ⟨framesBefore, madeBefore, listedBefore⟩, _, _, anchorsBefore⟩ :=
      account (live.shorten (List.prefix_append before rest)) ranBefore
    rw [emitted_append ranBefore] at anchors
    cases accepted : emitted (step pic) (acceptances pic) started before with
    | nil =>
      rw [accepted] at listedBefore
      rw [List.map_eq_nil_iff.mp listedBefore, List.append_nil] at madeBefore
      exact absurd madeBefore submitted
    | cons first others =>
      rw [accepted] at anchors anchorsBefore
      exact (anchorsBefore first rfl).offset.trans (anchors first rfl).offset.symm
  · intro first member
    exact ⟨(anchors first member).firstPts, (anchors first member).started, (anchors first member).offset⟩
  · intro frame member
    cases accepted : emitted (step pic) (acceptances pic) started inputs with
    | nil =>
      rw [accepted] at listed
      rw [List.map_eq_nil_iff.mp listed] at member
      cases member
    | cons first others =>
      rw [accepted] at listed anchors
      have anchored := anchors first rfl
      cases frames with
      | nil => cases member
      | cons head tail =>
        cases member
        rw [List.map_cons, List.mapIdx_cons] at listed
        have stamped := congrArg Prod.fst (List.cons.inj listed).1
        exact stamped.trans anchored.first_timestamp
  · intro fits one member other memberToo ordered
    exact moved_monotone (fits one member) (fits other memberToo) ordered

/-- A buffer, a dropped one, and one with a retriable error in between whose put fails. -/
def interruptedSession : List Input :=
  [.changeState .readyToPaused {}, .buffer 0 ⟨0, 700, 0, [1]⟩ { now := 5000 },
    .buffer 0 ⟨bufferFlagCorrupted, gstClockTimeNone, 0, []⟩ {}, .streamErrorReport 2,
    .buffer 0 ⟨0, 900, 0, [2]⟩ { putStatus := 7 }]

theorem interrupted_session_keeps_its_timeline :
    ∃ started final, run (step .sample) started interruptedSession = some final ∧
      ∃ offset frames, final.frames = started.frames ++ frames ∧
        Throughout (step .sample) (fun sink => sink.frames ≠ started.frames → sink.offset = offset)
          started interruptedSession ∧
        TimelinePreserved (emitted (step .sample) (acceptances .sample) started interruptedSession) frames
          final offset := by
  have evaluated : (runFromInit .sample 0 [.requestNewPad .video true]).bind (fun ready =>
      (step .sample ready (.changeState .nullToReady { allowedCaps := fun _ => some [h264Caps] })).bind
        fun started => (run (step .sample) started interruptedSession).map fun _ =>
          (started.state, decide (EachStep (step .sample) (LiveStep .sample) started interruptedSession))) =
      some (.ready, true) := by decide
  obtain ⟨ready, reached, evaluated⟩ := Option.bind_eq_some_iff.mp evaluated
  obtain ⟨started, began, evaluated⟩ := Option.bind_eq_some_iff.mp evaluated
  obtain ⟨final, ran, facts⟩ := Option.map_eq_some_iff.mp evaluated
  simp only [Prod.mk.injEq, decide_eq_true_eq] at facts
  exact ⟨started, final, ran, live_timeline_is_preserved reached began facts.1 ran facts.2⟩

end KvsProducer
