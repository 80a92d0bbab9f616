import KvsProducer.SinkMachineProofs

/-! The set of tracks whose codec private data was seen, and the stream it is
meant to describe. The set is written before the stream is asked and survives
the stream, so it speaks of the stream in hand only under a condition on the
run, which is found here. -/
namespace KvsProducer
open Gst History Runs

/-- `start(codec data, track)` has returned true on this stream. -/
def cpdAccepted (calls : List Call) (stream : StreamId) (trackId : ℕ) : Bool :=
  calls.any fun
    | .start started track accepted => accepted && started == stream && track == trackId
    | _ => false

private theorem cpd_accepted_iff : cpdAccepted calls stream trackId = true ↔
    Call.start stream trackId true ∈ calls := by
  simp only [cpdAccepted, List.any_eq_true]
  constructor
  · rintro ⟨call, member, is⟩
    split at is
    · simp only [Bool.and_eq_true, beq_iff_eq] at is
      obtain ⟨⟨rfl, rfl⟩, rfl⟩ := is
      exact member
    · cases is
  · exact fun member => ⟨_, member, by simp⟩

/-- The stream in hand has accepted codec private data for the track. -/
def GstKvsSink.HasCpdFor (sink : GstKvsSink) (trackId : ℕ) : Prop :=
  ∃ stream, sink.data.kinesisVideoStream = some stream ∧
    cpdAccepted sink.calls stream trackId = true

/-- Every track in `track_cpd_received` has its data in the stream in hand. -/
def CpdDescribesStream (sink : GstKvsSink) : Prop :=
  ∀ trackId ∈ sink.data.trackCpdReceived, sink.HasCpdFor trackId

/-- The CAPS event makes the handler record the track. -/
def RecordsCodecData (sink : GstKvsSink) (track : GstKvsSinkTrackData) (caps : CapsStructure) : Prop :=
  isPcmMediaType caps.name = false ∧ caps.codecData.isSome = true ∧
    track.trackId ∉ sink.data.trackCpdReceived

/-- A codec_data CAPS event that reaches the handler and is skipped is one for
a track whose data the stream in hand already has. -/
def CodecDataIsNotSkipped (sink : GstKvsSink) : Prop :=
  ∀ pad track caps, sink.padDelivers pad = true → sink.trackOf pad = some track →
    isPcmMediaType caps.name = false → caps.codecData.isSome = true →
    (∃ outcome, (handleCapsEvent sink track caps outcome).calls = sink.calls) →
    sink.HasCpdFor track.trackId

/-- A session starts with no track recorded, and a recorded track is one that
its stream accepts. -/
def KeepsCpdTrue (pic : Pic) (sink : GstKvsSink) : Input → Prop
  | .changeState .nullToReady outcome =>
    (nullToReady pic sink outcome).2 = .success → sink.data.trackCpdReceived = ∅
  | .sinkEvent pad (.caps caps) outcome =>
    ∀ track, sink.trackOf pad = some track → RecordsCodecData sink track caps →
      outcome.started = true ∨ sink.HasCpdFor track.trackId
  | _ => True

theorem GstKvsSink.HasCpdFor.later {before after : GstKvsSink} (has : before.HasCpdFor trackId)
    (stream : after.data.kinesisVideoStream = before.data.kinesisVideoStream)
    (grown : Grows kind before.calls after.calls) : after.HasCpdFor trackId := by
  obtain ⟨held, same, accepted⟩ := has
  rw [cpd_accepted_iff] at accepted
  exact ⟨held, stream.trans same, cpd_accepted_iff.mpr (grown.keeps accepted)⟩

theorem CpdDescribesStream.later {before after : GstKvsSink} (describes : CpdDescribesStream before)
    (tracks : after.data.trackCpdReceived = before.data.trackCpdReceived)
    (stream : after.data.kinesisVideoStream = before.data.kinesisVideoStream)
    (grown : Grows kind before.calls after.calls) : CpdDescribesStream after :=
  fun trackId member => (describes trackId (tracks ▸ member)).later stream grown

theorem CpdDescribesStream.log (describes : CpdDescribesStream sink) (call : Call) :
    CpdDescribesStream (sink.log call) := by
  have grown : Grows (fun _ => True) sink.calls (sink.calls ++ [call]) := .snoc trivial _
  exact describes.later rfl rfl grown

/-! ## Starting a stream -/

/-- A fresh stream has accepted nothing yet. -/
theorem fresh_stream_has_no_cpd (known : StreamsKnown sink) (creates : CreatesStream sink created) :
    ¬ created.HasCpdFor trackId := by
  rintro ⟨stream, held, accepted⟩
  cases creates.stream.symm.trans held
  rcases creates.calls.old_or_new (cpd_accepted_iff.mp accepted) with old | new
  · exact Nat.lt_irrefl _ (known.used _ old _ rfl)
  · cases new

private theorem created_describes_iff (known : StreamsKnown sink) (creates : CreatesStream sink created) :
    CpdDescribesStream created ↔ sink.data.trackCpdReceived = ∅ := by
  have tracks : created.data.trackCpdReceived = sink.data.trackCpdReceived :=
    congrArg (·.data.trackCpdReceived) creates.lasting
  constructor
  · intro describes
    rw [Finset.eq_empty_iff_forall_notMem]
    exact fun trackId member =>
      fresh_stream_has_no_cpd known creates (describes trackId (tracks ▸ member))
  · intro none trackId member
    rw [tracks, none] at member
    exact absurd member (Finset.notMem_empty trackId)

/-- A change of state keeps the set true exactly when it meets the condition. -/
theorem change_state_describes_iff (known : StreamsKnown sink) (describes : CpdDescribesStream sink) :
    CpdDescribesStream (changeState pic sink transition outcome) ↔
      KeepsCpdTrue pic sink (.changeState transition outcome) := by
  have changed := change_state_cases pic sink transition outcome
  generalize changeState pic sink transition outcome = next at changed
  cases changed with
  | started ran creates =>
    simp only [KeepsCpdTrue, ran, true_implies]
    rw [← created_describes_iff known creates]
    exact Iff.rfl
  | startedInVain ran creates =>
    simp only [KeepsCpdTrue, ran, true_implies]
    rw [← created_describes_iff known creates]
    constructor
    · intro later trackId member
      obtain ⟨stream, held, accepted⟩ := later trackId member
      refine ⟨stream, held, cpd_accepted_iff.mpr ?_⟩
      rcases List.mem_append.mp (cpd_accepted_iff.mp accepted) with old | new
      · exact old
      · cases List.mem_singleton.mp new
    · exact fun created => created.log _
  | notStarted ran failed kept =>
    simp only [KeepsCpdTrue, ran]
    exact ⟨fun _ succeeded => absurd succeeded failed, fun _ => describes.later
      (congrArg (·.data.trackCpdReceived) kept.lasting) kept.stream kept.calls⟩
  | collecting => exact ⟨fun _ => trivial, fun _ => describes⟩
  | collectingInVain =>
    have started : CpdDescribesStream sink.collectPadsStart := describes
    exact ⟨fun _ => trivial, fun _ => started.log _⟩
  | stopped parent held =>
    exact ⟨fun _ => trivial, fun _ => describes.log _⟩
  | nothingToStop => exact ⟨fun _ => trivial, fun _ => describes⟩
  | moved parent upward =>
    rcases upward with rfl | rfl | rfl <;> exact ⟨fun _ => trivial, fun _ => describes⟩
  | refused parent up across =>
    refine ⟨fun _ => ?_, fun _ => describes.log _⟩
    cases transition <;> trivial

/-! ## CAPS events -/

private theorem unrecorded_caps_keep_tracks (skipped : ¬ RecordsCodecData sink track caps) :
    (handleCapsEvent sink track caps outcome).data.trackCpdReceived =
      sink.data.trackCpdReceived := by
  unfold handleCapsEvent
  have kept : (startStream sink track.trackId outcome.started).data.trackCpdReceived =
      sink.data.trackCpdReceived := by
    obtain ⟨_, _, changed, _⟩ := start_changes .eos sink track.trackId outcome.started
    rw [changed]
  split
  · split
    · rfl
    · split
      · rfl
      · exact kept
  · rename_i notPcm
    split
    · rename_i records
      exact absurd ⟨by simpa using notPcm, records.2, records.1⟩ skipped
    · rfl

private theorem recorded_caps_start (records : RecordsCodecData sink track caps) :
    handleCapsEvent sink track caps outcome =
      startStream { sink with data := { sink.data with
        trackCpdReceived := insert track.trackId sink.data.trackCpdReceived } }
        track.trackId outcome.started := by
  obtain ⟨notPcm, codecData, unseen⟩ := records
  simp [handleCapsEvent, notPcm, codecData, unseen]

/-- Recording a track keeps the set true exactly when the stream accepts, or
had accepted that track before. -/
theorem recorded_describes_iff (describes : CpdDescribesStream sink)
    (records : RecordsCodecData sink track caps)
    (held : sink.data.kinesisVideoStream = some stream) :
    CpdDescribesStream (handleCapsEvent sink track caps outcome) ↔
      outcome.started = true ∨ sink.HasCpdFor track.trackId := by
  rw [recorded_caps_start records]
  obtain ⟨calls, crashed, changed, grown⟩ := start_changes .eos
    { sink with data := { sink.data with
      trackCpdReceived := insert track.trackId sink.data.trackCpdReceived } }
    track.trackId outcome.started
  have asked : Call.start stream track.trackId true ∈ calls ↔
      outcome.started = true ∨ Call.start stream track.trackId true ∈ sink.calls := by
    have made := congrArg GstKvsSink.calls changed
    simp only [startStream, held] at made
    subst made
    cases outcome.started <;> simp
  rw [changed]
  constructor
  · intro later
    obtain ⟨_, same, accepted⟩ := later track.trackId (Finset.mem_insert_self _ _)
    cases same.symm.trans held
    rcases asked.mp (cpd_accepted_iff.mp accepted) with started | before
    · exact .inl started
    · exact .inr ⟨stream, held, cpd_accepted_iff.mpr before⟩
  · intro answered trackId member
    rcases Finset.mem_insert.mp member with rfl | old
    · refine ⟨stream, held, cpd_accepted_iff.mpr (asked.mpr ?_)⟩
      rcases answered with started | ⟨_, same, accepted⟩
      · exact .inl started
      · cases same.symm.trans held
        exact .inr (cpd_accepted_iff.mp accepted)
    · exact (describes trackId old).later rfl grown

private theorem caps_event_describes_iff (describes : CpdDescribesStream sink)
    (held : sink.data.kinesisVideoStream = some stream) :
    CpdDescribesStream (applyInput pic sink (.sinkEvent pad (.caps caps) outcome)) ↔
      KeepsCpdTrue pic sink (.sinkEvent pad (.caps caps) outcome) := by
  obtain ⟨stays, grown⟩ := input_stays pic sink (.sinkEvent pad (.caps caps) outcome) (by rintro _ _ ⟨⟩)
  simp only [applyInput, sinkEvent, KeepsCpdTrue] at stays grown ⊢
  cases found : sink.trackOf pad with
  | none => exact ⟨fun _ => by rintro _ ⟨⟩, fun _ => describes⟩
  | some track =>
    simp only [found, gstKvsSinkHandleSinkEvent, Option.some.injEq, forall_eq'] at stays grown ⊢
    by_cases records : RecordsCodecData sink track caps
    · simp only [records, true_implies]
      exact recorded_describes_iff describes records held
    · exact ⟨fun _ impossible => absurd impossible records, fun _ =>
        describes.later (unrecorded_caps_keep_tracks records) stays.stream grown⟩

/-- Only state changes and CAPS events can make the set speak of something else. -/
theorem other_inputs_keep_tracks (pic : Pic) (sink : GstKvsSink) (input : Input)
    (still : ∀ transition outcome, input ≠ .changeState transition outcome)
    (noCaps : ∀ pad caps outcome, input ≠ .sinkEvent pad (.caps caps) outcome) :
    (applyInput pic sink input).data.trackCpdReceived = sink.data.trackCpdReceived := by
  cases input with
  | changeState transition outcome => exact absurd rfl (still transition outcome)
  | requestNewPad templ added =>
    exact congrArg (·.data.trackCpdReceived) (request_keeps_padless sink templ added)
  | releasePad pad removed =>
    exact congrArg (·.data.trackCpdReceived) (release_keeps_padless sink pad removed)
  | setProperty property =>
    exact congrArg (·.trackCpdReceived) (set_property_keeps_element sink property).data
  | sinkEvent pad event outcome =>
    simp only [applyInput, sinkEvent]
    cases sink.trackOf pad with
    | none => rfl
    | some track =>
      cases event with
      | caps caps => exact absurd rfl (noCaps pad caps outcome)
      | other => rfl
      | addMetadata name value persist =>
        simp only [gstKvsSinkHandleSinkEvent]
        split <;> rfl
      | eos =>
        simp only [gstKvsSinkHandleSinkEvent, handleEosEvent]
        split <;> rfl
  | buffer pad buffer outcome =>
    exact session_tracks_received (buffer_from_pad_keeps_session pic sink pad buffer outcome)
  | noBuffer outcome =>
    exact session_tracks_received (buffer_keeps_session pic sink none outcome)
  | streamErrorReport status =>
    exact session_tracks_received (error_report_keeps_session pic sink status)
  | finalize =>
    obtain ⟨_, _, _, changed, _⟩ := finalize_changes sink
    simp only [applyInput, changed]

/-- One step from a state where the set is true leads to one exactly when it
meets the condition. -/
theorem step_describes_iff (known : StreamsKnown sink) (describes : CpdDescribesStream sink)
    (accepted : step pic sink input = some next) :
    CpdDescribesStream next ↔ KeepsCpdTrue pic sink input := by
  obtain ⟨admitted, rfl⟩ := step_eq_some.mp accepted
  obtain ⟨transition, outcome, rfl⟩ | still := state_change_or_not input
  · exact change_state_describes_iff known describes
  · by_cases noCaps : ∀ pad caps outcome, input ≠ .sinkEvent pad (.caps caps) outcome
    · obtain ⟨stays, grown⟩ := input_stays pic sink input still
      have tracks := other_inputs_keep_tracks pic sink input still noCaps
      refine ⟨fun _ => ?_, fun _ => describes.later tracks stays.stream grown⟩
      unfold KeepsCpdTrue
      split
      · exact absurd rfl (still _ _)
      · exact absurd rfl (noCaps _ _ _)
      · trivial
    · simp only [not_forall, not_not] at noCaps
      obtain ⟨pad, caps, outcome, rfl⟩ := noCaps
      obtain ⟨stream, held⟩ := known.held (delivered_outside_null admitted)
      exact caps_event_describes_iff describes held

/-- While the set is true, a skipped CAPS event is one the stream does not need. -/
theorem skipped_codec_data_was_accepted (known : StreamsKnown sink)
    (describes : CpdDescribesStream sink) : CodecDataIsNotSkipped sink := by
  rintro pad track caps delivers found notPcm codecData ⟨outcome, silent⟩
  by_cases seen : track.trackId ∈ sink.data.trackCpdReceived
  · exact describes track.trackId seen
  · obtain ⟨stream, held⟩ := known.held (pad_delivers_outside_null delivers)
    rw [recorded_caps_start ⟨notPcm, codecData, seen⟩] at silent
    simp only [startStream, held] at silent
    cases started : outcome.started <;> simp [started] at silent

/-- **Codec private data.** In every state of a run the set of recorded tracks
speaks of the stream in hand, exactly when each session of the run started with
no track recorded and each recorded track was accepted. Then no codec_data CAPS
event is skipped that the stream still needs. -/
theorem cpd_describes_the_stream_in_hand (pic : Pic) (now : UInt64) (inputs : List Input) :
    (Throughout (step pic) CpdDescribesStream (gstKvsSinkInit now) inputs ↔
      EachStep (step pic) (KeepsCpdTrue pic) (gstKvsSinkInit now) inputs) ∧
    (EachStep (step pic) (KeepsCpdTrue pic) (gstKvsSinkInit now) inputs →
      Throughout (step pic) CodecDataIsNotSkipped (gstKvsSinkInit now) inputs) := by
  have initially : CpdDescribesStream (gstKvsSinkInit now) :=
    fun trackId member => absurd member (Finset.notMem_empty trackId)
  constructor
  · exact throughout_iff_each_step
      (fun _ _ _ known accepted => step_keeps_streams_known known accepted)
      (fun _ _ _ known describes accepted => step_describes_iff known describes accepted)
      (init_streams_known now) initially
  · intro meets
    have both : Throughout (step pic) (fun sink => StreamsKnown sink ∧ CpdDescribesStream sink)
        (gstKvsSinkInit now) inputs := invariant_throughout
      (fun _ _ _ held met accepted => ⟨step_keeps_streams_known held.1 accepted,
        (step_describes_iff held.1 held.2 accepted).mpr met⟩)
      ⟨init_streams_known now, initially⟩ meets
    exact both.imp fun sink held => skipped_codec_data_was_accepted held.1 held.2

/-- Two H.264 sessions of one element, and the CAPS event of the first. -/
def twoVideoSessions : List Input :=
  [.requestNewPad .video true] ++ upTo (fun _ => some [h264Caps]) ++
    [.sinkEvent 0 (.caps h264Caps) {}] ++ downToNull ++ upTo (fun _ => some [h264Caps])

/-- The second session believes that its stream has what the first one got: its
CAPS event is skipped, and stream 1 never receives codec private data. -/
theorem second_session_skips_codec_data :
    ∃ sink, runFromInit .sample 0 twoVideoSessions = some sink ∧
      ¬ CpdDescribesStream sink ∧ ¬ CodecDataIsNotSkipped sink := by
  have evaluated : (runFromInit .sample 0 twoVideoSessions).map (fun sink =>
      (sink.data.trackCpdReceived, sink.data.kinesisVideoStream, cpdAccepted sink.calls 1 1,
        sink.padDelivers 0, sink.trackOf 0)) =
      some ({1}, some 1, false, true, some ⟨0, false, .video, 1⟩) := by decide
  obtain ⟨sink, ran, facts⟩ := Option.map_eq_some_iff.mp evaluated
  simp only [Prod.mk.injEq] at facts
  obtain ⟨tracks, held, accepted, delivers, found⟩ := facts
  have lacks : ¬ sink.HasCpdFor 1 := by
    rintro ⟨stream, same, has⟩
    cases same.symm.trans held
    exact Bool.noConfusion (accepted.symm.trans has)
  have seen : 1 ∈ sink.data.trackCpdReceived := by simp [tracks]
  refine ⟨sink, ran, fun describes => lacks (describes 1 seen), fun never => ?_⟩
  exact lacks (never 0 _ h264Caps delivers found rfl rfl
    ⟨{}, by simp [handleCapsEvent, seen, h264Caps, isPcmMediaType]⟩)

end KvsProducer
