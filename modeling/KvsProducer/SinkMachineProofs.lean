import KvsProducer.SinkMachine
import KvsProducer.SinkStartProofs
import KvsProducer.SinkStreamingProofs

/-! What one input of the element can do, input by input, and the two facts
every session rests on: the stream in hand was created by this element, and
outside NULL there is one. -/
namespace KvsProducer
open Gst History Runs

/-- An input asks for a state change, or it does not. -/
theorem state_change_or_not (input : Input) :
    (∃ transition outcome, input = .changeState transition outcome) ∨
      ∀ transition outcome, input ≠ .changeState transition outcome := by
  by_cases changes : ∃ transition outcome, input = .changeState transition outcome
  · exact .inl changes
  · exact .inr fun transition outcome is => changes ⟨transition, outcome, is⟩

/-- An input starts the element, or it does not. -/
theorem start_or_not (input : Input) :
    (∃ outcome, input = .changeState .nullToReady outcome) ∨
      ∀ outcome, input ≠ .changeState .nullToReady outcome := by
  obtain ⟨transition, outcome, rfl⟩ | still := state_change_or_not input
  · cases transition with
    | nullToReady => exact .inl ⟨outcome, rfl⟩
    | _ => exact .inr nofun
  · exact .inr (still .nullToReady)

/-! ## Pads and properties -/

/-- The sink without the pads, their counters and the media type. -/
def GstKvsSink.padlessPart (sink : GstKvsSink) : GstKvsSink :=
  { sink with
    data := { sink.data with mediaType := .videoOnly }
    pads := [], nextPad := 0, collect := []
    numStreams := 0, numAudioStreams := 0, numVideoStreams := 0 }

theorem request_keeps_padless (sink : GstKvsSink) (templ : PadTemplate) (elementAddPad : Bool) :
    (gstKvsSinkRequestNewPad sink templ elementAddPad).1.padlessPart = sink.padlessPart := by
  have added (counted : GstKvsSink) (trackType : MkvTrackInfoType) :
      (addRequestedPad counted trackType elementAddPad).1.padlessPart = counted.padlessPart := by
    unfold addRequestedPad
    cases elementAddPad <;> rfl
  unfold gstKvsSinkRequestNewPad
  cases templ with
  | other => rfl
  | audio =>
    simp only
    split
    · rfl
    · rw [added]; rfl
  | video =>
    simp only
    split
    · rfl
    · rw [added]; rfl

private theorem count_released_keeps_padless (pad : PadId) (tracks : List GstKvsSinkTrackData)
    (sink : GstKvsSink) : (tracks.foldl (countReleasedPad pad) sink).padlessPart = sink.padlessPart := by
  induction tracks generalizing sink with
  | nil => rfl
  | cons track rest ih =>
    rw [List.foldl_cons, ih]
    unfold countReleasedPad
    split
    · split <;> rfl
    · rfl

theorem release_keeps_padless (sink : GstKvsSink) (pad : PadId) (elementRemovePad : Bool) :
    (gstKvsSinkReleasePad sink pad elementRemovePad).padlessPart = sink.padlessPart := by
  unfold gstKvsSinkReleasePad
  cases elementRemovePad
  all_goals exact count_released_keeps_padless pad sink.collect sink

/-- The custom data without its two properties. -/
def KvsSinkCustomData.unconfigured (data : KvsSinkCustomData) : KvsSinkCustomData :=
  { data with useOriginalPts := false, getMetrics := false }

/-- What no property reaches. -/
structure KeepsElement (before after : GstKvsSink) : Prop where
  state : after.state = before.state
  pads : after.pads = before.pads
  collect : after.collect = before.collect
  numAudioStreams : after.numAudioStreams = before.numAudioStreams
  numVideoStreams : after.numVideoStreams = before.numVideoStreams
  trackInfoType : after.trackInfoType = before.trackInfoType
  data : after.data.unconfigured = before.data.unconfigured
  dataUseCount : after.dataUseCount = before.dataUseCount
  nextStream : after.nextStream = before.nextStream
  nextPad : after.nextPad = before.nextPad
  calls : after.calls = before.calls
  finalized : after.finalized = before.finalized

theorem set_property_keeps_element (sink : GstKvsSink) (property : Property) :
    KeepsElement sink (gstKvsSinkSetProperty sink property) := by
  cases property
  all_goals exact ⟨rfl, rfl, rfl, rfl, rfl, rfl, rfl, rfl, rfl, rfl, rfl, rfl⟩

/-! ## State changes -/

@[simp] theorem enter_state (sink : GstKvsSink) (state : GstState) : (sink.enter state).state = state := rfl
@[simp] theorem enter_calls (sink : GstKvsSink) (state : GstState) :
    (sink.enter state).calls = sink.calls := rfl
@[simp] theorem collect_start_calls (sink : GstKvsSink) : sink.collectPadsStart.calls = sink.calls := rfl

/-- What a change of state can lead to. -/
inductive ChangesState (pic : Pic) (sink : GstKvsSink) :
    GstStateChange → ChangeStateOutcome → GstKvsSink → Prop where
  | started : nullToReady pic sink outcome = (created, .success) →
      CreatesStream sink created → outcome.parentChanged = true →
      ChangesState pic sink .nullToReady outcome (created.enter .ready)
  | startedInVain : nullToReady pic sink outcome = (created, .success) →
      CreatesStream sink created → outcome.parentChanged = false →
      ChangesState pic sink .nullToReady outcome (created.log (.elementError (.libraryInit "")))
  | notStarted : nullToReady pic sink outcome = (kept, result) → result ≠ .success →
      NotStarted sink kept → ChangesState pic sink .nullToReady outcome kept
  | collecting : outcome.parentChanged = true →
      ChangesState pic sink .readyToPaused outcome (sink.collectPadsStart.enter .paused)
  | collectingInVain : outcome.parentChanged = false →
      ChangesState pic sink .readyToPaused outcome
        (sink.collectPadsStart.log (.elementError (.libraryInit "")))
  | stopped : outcome.parentChanged = true → sink.data.kinesisVideoStream = some stream →
      ChangesState pic sink .pausedToReady outcome
        ((sink.log (.stopSync stream outcome.stopped)).enter .ready)
  | nothingToStop : outcome.parentChanged = true → sink.data.kinesisVideoStream = none →
      ChangesState pic sink .pausedToReady outcome sink.crash
  | moved : outcome.parentChanged = true →
      transition = .pausedToPlaying ∨ transition = .playingToPaused ∨ transition = .readyToNull →
      ChangesState pic sink transition outcome (sink.enter transition.next)
  | refused : outcome.parentChanged = false →
      transition ≠ .nullToReady → transition ≠ .readyToPaused →
      ChangesState pic sink transition outcome (sink.log (.elementError (.libraryInit "")))

/-- Every change of state is one of these. -/
theorem change_state_cases (pic : Pic) (sink : GstKvsSink) (transition : GstStateChange)
    (outcome : ChangeStateOutcome) :
    ChangesState pic sink transition outcome (changeState pic sink transition outcome) := by
  cases transition with
  | nullToReady =>
    simp only [changeState, gstKvsSinkChangeState, upwardTransition]
    rcases ran : nullToReady pic sink outcome with ⟨after, result⟩
    obtain ⟨rfl, creates⟩ | ⟨failed, kept⟩ := null_to_ready_cases ran
    · cases parent : outcome.parentChanged with
      | true => exact .started ran creates parent
      | false => exact .startedInVain ran creates parent
    · cases result with
      | success => exact absurd rfl failed
      | failure => exact .notStarted ran failed kept
      | crash => exact .notStarted ran failed kept
  | readyToPaused =>
    simp only [changeState, gstKvsSinkChangeState, upwardTransition]
    cases parent : outcome.parentChanged with
    | true => exact .collecting parent
    | false => exact .collectingInVain parent
  | pausedToReady =>
    simp only [changeState, gstKvsSinkChangeState, upwardTransition, downwardTransition]
    cases parent : outcome.parentChanged with
    | true =>
      cases held : sink.data.kinesisVideoStream with
      | none => exact .nothingToStop parent held
      | some stream => exact .stopped parent held
    | false => exact .refused parent nofun nofun
  | pausedToPlaying | playingToPaused | readyToNull =>
    simp only [changeState, gstKvsSinkChangeState, upwardTransition]
    cases parent : outcome.parentChanged with
    | true => exact .moved parent (by simp)
    | false => exact .refused parent nofun nofun

/-- The sink without the fields that a change of state writes. -/
def GstKvsSink.unmovedPart (sink : GstKvsSink) : GstKvsSink := { sink.lastingPart with state := .null }

theorem change_state_keeps_unmoved (pic : Pic) (sink : GstKvsSink) (transition : GstStateChange)
    (outcome : ChangeStateOutcome) :
    (changeState pic sink transition outcome).unmovedPart = sink.unmovedPart := by
  have of_lasting {next : GstKvsSink} (lasting : next.lastingPart = sink.lastingPart) :
      next.unmovedPart = sink.unmovedPart := by
    unfold GstKvsSink.unmovedPart
    rw [lasting]
  have changed := change_state_cases pic sink transition outcome
  generalize changeState pic sink transition outcome = next at changed
  cases changed with
  | started _ creates | startedInVain _ creates => exact (of_lasting creates.lasting :)
  | notStarted _ _ kept => exact (of_lasting kept.lasting :)
  | collecting | collectingInVain | stopped | nothingToStop | moved | refused => rfl

/-! ## Inputs -/

/-- The calls that one input can make. -/
inductive InputCall (sink : GstKvsSink) : Input → Call → Prop where
  | event : sink.trackOf pad = some track →
      EventCall sink.data.kinesisVideoStream track.trackId event call →
      InputCall sink (.sinkEvent pad event outcome) call
  | buffer : sink.trackOf pad = some track →
      BufferCall sink.data.kinesisVideoStream (some track.trackId) call →
      InputCall sink (.buffer pad arrived outcome) call
  | noBuffer : BufferCall sink.data.kinesisVideoStream none call →
      InputCall sink (.noBuffer outcome) call
  | late : InputCall sink (.streamErrorReport status) .callbackAfterFinalize
  | report : InputCall sink (.streamErrorReport status) (.streamErrorReport status)
  | destroyed : InputCall sink .finalize (.destroyProducer producer)
  | setUp : SetUpCall call → InputCall sink (.changeState transition outcome) call
  | stopped : sink.data.kinesisVideoStream = some stream →
      InputCall sink (.changeState transition outcome) (.stopSync stream done)

/-- What every input except a change of state leaves alone. -/
structure StaysInState (before after : GstKvsSink) : Prop where
  state : after.state = before.state
  stream : after.data.kinesisVideoStream = before.data.kinesisVideoStream
  producer : after.data.kinesisVideoProducer = before.data.kinesisVideoProducer
  nextStream : after.nextStream = before.nextStream

theorem StaysInState.of_session (same : after.sessionPart = before.sessionPart) :
    StaysInState before after :=
  ⟨congrArg (·.state) same, congrArg (·.data.kinesisVideoStream) same,
    congrArg (·.data.kinesisVideoProducer) same, congrArg (·.nextStream) same⟩

theorem StaysInState.of_padless (same : after.padlessPart = before.padlessPart) :
    StaysInState before after :=
  ⟨congrArg (·.state) same, congrArg (·.data.kinesisVideoStream) same,
    congrArg (·.data.kinesisVideoProducer) same, congrArg (·.nextStream) same⟩

theorem StaysInState.of_element (kept : KeepsElement before after) : StaysInState before after :=
  ⟨kept.state, congrArg (·.kinesisVideoStream) kept.data,
    congrArg (·.kinesisVideoProducer) kept.data, kept.nextStream⟩

theorem finalize_changes (sink : GstKvsSink) :
    ∃ heap dataUseCount calls, gstKvsSinkFinalize sink =
        { sink with heap, finalized := true, dataUseCount, calls } ∧
      Grows (InputCall sink .finalize) sink.calls calls := by
  unfold gstKvsSinkFinalize
  simp only
  split
  · cases sink.data.kinesisVideoProducer with
    | none => exact ⟨_, _, _, rfl, .refl _⟩
    | some producer => exact ⟨_, _, _, rfl, .snoc .destroyed _⟩
  · exact ⟨_, _, _, rfl, .refl _⟩

/-- An event, with the mark that an end of stream leaves on its pad. -/
theorem sink_event_changes (sink : GstKvsSink) (pad : PadId) (event : SinkEvent)
    (outcome : SinkEventOutcome) :
    ∃ trackCpdReceived calls crashed collect,
      sinkEvent sink pad event outcome =
        { sink with data := { sink.data with trackCpdReceived }, calls, crashed, collect } ∧
      (collect = sink.collect ∨ event = .eos ∧ collect = sink.collect.map (markEos pad)) ∧
      Grows (InputCall sink (.sinkEvent pad event outcome)) sink.calls calls := by
  unfold sinkEvent
  cases found : sink.trackOf pad with
  | none => exact ⟨_, _, _, _, rfl, .inl rfl, .refl _⟩
  | some track =>
    obtain ⟨trackCpdReceived, calls, crashed, changed, grown⟩ :=
      event_changes sink track event outcome
    have made : Grows (InputCall sink (.sinkEvent pad event outcome)) sink.calls calls :=
      grown.imp fun call => .event found
    cases event with
    | eos =>
      simp only [changed]
      exact ⟨_, calls, crashed, _, rfl, .inr ⟨trivial, rfl⟩, made⟩
    | caps structure' =>
      simp only [changed]
      exact ⟨_, calls, crashed, _, rfl, .inl rfl, made⟩
    | addMetadata name value persist =>
      simp only [changed]
      exact ⟨_, calls, crashed, _, rfl, .inl rfl, made⟩
    | other =>
      simp only [changed]
      exact ⟨_, calls, crashed, _, rfl, .inl rfl, made⟩

theorem report_calls (pic : Pic) (sink : GstKvsSink) (status : Status) :
    Grows (InputCall sink (.streamErrorReport status)) sink.calls
      (streamErrorReport pic sink status).calls := by
  have reported (called : GstKvsSink) :
      (streamErrorReportHandler pic called status).calls =
        called.calls ++ [.streamErrorReport status] := by
    simp only [streamErrorReportHandler]
    split <;> rfl
  simp only [streamErrorReport, reported]
  split
  · exact (Grows.snoc .late _).then .report
  · exact .snoc .report _

/-- A buffer that no track takes changes nothing at all. -/
theorem buffer_from_pad_keeps_session (pic : Pic) (sink : GstKvsSink) (pad : PadId) (buffer : GstBuffer)
    (outcome : BufferOutcome) :
    (bufferFromPad pic sink pad buffer outcome).sessionPart = sink.sessionPart := by
  unfold bufferFromPad
  split
  · rfl
  · exact buffer_keeps_session pic sink _ outcome

theorem error_report_keeps_session (pic : Pic) (sink : GstKvsSink) (status : Status) :
    (streamErrorReport pic sink status).sessionPart = sink.sessionPart := by
  unfold streamErrorReport
  rw [report_keeps_session]
  split <;> rfl

/-- Every input except a change of state stays in the state, with the stream,
and makes only its own calls. -/
theorem input_stays (pic : Pic) (sink : GstKvsSink) (input : Input)
    (still : ∀ transition outcome, input ≠ .changeState transition outcome) :
    StaysInState sink (applyInput pic sink input) ∧
      Grows (InputCall sink input) sink.calls (applyInput pic sink input).calls := by
  cases input with
  | changeState transition outcome => exact absurd rfl (still transition outcome)
  | requestNewPad templ added =>
    have same := request_keeps_padless sink templ added
    have calls : (applyInput pic sink (.requestNewPad templ added)).calls = sink.calls :=
      congrArg (·.calls) same
    exact ⟨.of_padless same, calls ▸ .refl _⟩
  | releasePad pad removed =>
    have same := release_keeps_padless sink pad removed
    have calls : (applyInput pic sink (.releasePad pad removed)).calls = sink.calls :=
      congrArg (·.calls) same
    exact ⟨.of_padless same, calls ▸ .refl _⟩
  | setProperty property =>
    have kept := set_property_keeps_element sink property
    exact ⟨.of_element kept, kept.calls ▸ .refl _⟩
  | sinkEvent pad event outcome =>
    obtain ⟨_, _, _, _, changed, _, grown⟩ := sink_event_changes sink pad event outcome
    simp only [applyInput, changed]
    exact ⟨⟨rfl, rfl, rfl, rfl⟩, grown⟩
  | buffer pad buffer outcome =>
    simp only [applyInput, bufferFromPad]
    cases found : sink.trackOf pad with
    | none => exact ⟨⟨rfl, rfl, rfl, rfl⟩, .refl _⟩
    | some track =>
      exact ⟨.of_session (buffer_keeps_session pic sink (some (track, buffer)) outcome),
        (buffer_calls pic sink (some (track, buffer)) outcome).imp fun _ => .buffer found⟩
  | noBuffer outcome =>
    exact ⟨.of_session (buffer_keeps_session pic sink none outcome),
      (buffer_calls pic sink none outcome).imp fun _ => .noBuffer⟩
  | streamErrorReport status =>
    exact ⟨.of_session (error_report_keeps_session pic sink status), report_calls pic sink status⟩
  | finalize =>
    obtain ⟨_, _, _, changed, grown⟩ := finalize_changes sink
    simp only [applyInput, changed]
    exact ⟨⟨rfl, rfl, rfl, rfl⟩, grown⟩

private theorem change_state_calls (pic : Pic) (sink : GstKvsSink) (transition : GstStateChange)
    (outcome : ChangeStateOutcome) :
    Grows (InputCall sink (.changeState transition outcome)) sink.calls
      (changeState pic sink transition outcome).calls := by
  have setUp (call : Call) : SetUpCall call → InputCall sink (.changeState transition outcome) call :=
    .setUp
  have changed := change_state_cases pic sink transition outcome
  generalize changeState pic sink transition outcome = next at changed
  cases changed with
  | started _ creates => exact creates.calls.imp setUp
  | startedInVain _ creates => exact (creates.calls.then .error).imp setUp
  | notStarted _ _ kept => exact kept.calls.imp setUp
  | collecting | nothingToStop | moved => exact .refl _
  | collectingInVain | refused => exact .snoc (.setUp .error) _
  | stopped _ held => exact .snoc (.stopped held) _

/-- An input makes only its own calls. -/
theorem input_calls (pic : Pic) (sink : GstKvsSink) (input : Input) :
    Grows (InputCall sink input) sink.calls (applyInput pic sink input).calls := by
  obtain ⟨transition, outcome, rfl⟩ | still := state_change_or_not input
  · exact change_state_calls pic sink transition outcome
  · exact (input_stays pic sink input still).2

/-! ## The stream in hand -/

/-- The stream a call was made on. -/
def Call.usedStream : Call → Option StreamId
  | .start stream _ _ | .putFragmentMetadata stream _ _ _ _ | .statusPutFrame stream _ _
  | .putEofr stream _ | .resetStream stream _ | .stopSync stream _ => some stream
  | _ => none

/-- The element holds a stream outside NULL, and has only ever used streams it created. -/
structure StreamsKnown (sink : GstKvsSink) : Prop where
  held : sink.state ≠ .null → ∃ stream, sink.data.kinesisVideoStream = some stream
  below : ∀ stream, sink.data.kinesisVideoStream = some stream → stream < sink.nextStream
  used : ∀ call ∈ sink.calls, ∀ stream, call.usedStream = some stream → stream < sink.nextStream

theorem set_up_uses_none (call : SetUpCall made) : made.usedStream = none := by
  cases call <;> rfl

theorem buffer_uses_held (made : BufferCall held trackId call) (used : call.usedStream = some stream) :
    held = some stream := by
  cases made with
  | arrived | error => cases used
  | reset same => cases used; exact same
  | body made => cases made <;> cases used; assumption

/-- Calls on a stream are calls on the stream in hand. -/
theorem input_uses_held (made : InputCall sink input call) (used : call.usedStream = some stream) :
    sink.data.kinesisVideoStream = some stream := by
  cases made with
  | event found made => cases made <;> cases used <;> assumption
  | buffer found made => exact buffer_uses_held made used
  | noBuffer made => exact buffer_uses_held made used
  | late | report | destroyed => cases used
  | setUp made => rw [set_up_uses_none made] at used; cases used
  | stopped held => cases used; exact held

theorem init_streams_known (now : UInt64) : StreamsKnown (gstKvsSinkInit now) where
  held outside := absurd rfl outside
  below _ held := by cases held
  used _ member := by cases member

theorem StreamsKnown.grow (known : StreamsKnown before)
    (held : after.state ≠ .null → ∃ stream, after.data.kinesisVideoStream = some stream)
    (below : ∀ stream, after.data.kinesisVideoStream = some stream → stream < after.nextStream)
    (later : before.nextStream ≤ after.nextStream)
    (made : Grows kind before.calls after.calls)
    (kinds : ∀ call, kind call → ∀ stream, call.usedStream = some stream →
      before.data.kinesisVideoStream = some stream) : StreamsKnown after where
  held := held
  below := below
  used call member stream used := by
    rcases made.old_or_new member with old | new
    · exact Nat.lt_of_lt_of_le (known.used call old stream used) later
    · exact Nat.lt_of_lt_of_le (known.below stream (kinds call new stream used)) later

theorem pad_delivers_outside_null (delivers : GstKvsSink.padDelivers sink pad = true) :
    sink.state ≠ .null := by
  intro null
  simp [GstKvsSink.padDelivers, null, GstState.streaming] at delivers

theorem delivered_outside_null (admitted : accepts sink (.sinkEvent pad event outcome) = true) :
    sink.state ≠ .null := by
  simp only [accepts, Bool.and_eq_true] at admitted
  exact pad_delivers_outside_null admitted.2

theorem buffer_outside_null (admitted : accepts sink (.buffer pad buffer outcome) = true) :
    sink.state ≠ .null := by
  simp only [accepts, Bool.and_eq_true] at admitted
  exact pad_delivers_outside_null admitted.2

private theorem set_up_uses_held (call : Call) (made : SetUpCall call) (stream : StreamId)
    (used : call.usedStream = some stream) : held = some stream := by
  rw [set_up_uses_none made] at used
  cases used

theorem StreamsKnown.creates (known : StreamsKnown before) (creates : CreatesStream before after) :
    StreamsKnown after := by
  refine known.grow (fun _ => ⟨_, creates.stream⟩) (fun stream held => ?_)
    (creates.nextStream ▸ Nat.le_succ _) creates.calls set_up_uses_held
  cases creates.stream.symm.trans held
  exact creates.nextStream ▸ Nat.lt_succ_self _

theorem StreamsKnown.error (known : StreamsKnown sink) (error : ElementError) :
    StreamsKnown (sink.log (.elementError error)) :=
  known.grow known.held known.below le_rfl (.snoc .error _) set_up_uses_held

theorem accepted_transition (admitted : accepts sink (.changeState transition outcome) = true) :
    sink.state = transition.current := by
  simp only [accepts, Bool.and_eq_true, beq_iff_eq] at admitted
  exact admitted.2

theorem accepted_untouched (admitted : accepts sink (.changeState transition outcome) = true) :
    sink.crashed = false ∧ sink.finalized = false := by
  simp only [accepts, Bool.and_eq_true, Bool.not_eq_true'] at admitted
  exact admitted.1

/-- A NULL_TO_READY that ends in READY has created a stream. -/
theorem session_began (admitted : accepts sink (.changeState .nullToReady outcome) = true)
    (ready : (changeState pic sink .nullToReady outcome).state = .ready) :
    ∃ created, nullToReady pic sink outcome = (created, .success) ∧ CreatesStream sink created ∧
      changeState pic sink .nullToReady outcome = created.enter .ready := by
  have current : sink.state = .null := accepted_transition admitted
  have changed := change_state_cases pic sink .nullToReady outcome
  generalize changeState pic sink .nullToReady outcome = next at changed ready ⊢
  cases changed with
  | started ran creates => exact ⟨_, ran, creates, rfl⟩
  | startedInVain _ creates =>
    have state := (congrArg (·.state) creates.lasting).trans current
    cases ready.symm.trans state
  | notStarted _ _ kept =>
    have state := (congrArg (·.state) kept.lasting).trans current
    cases ready.symm.trans state
  | moved _ across => simp at across
  | refused _ up => exact absurd rfl up

/-- No step loses the stream in hand or invents one. -/
theorem step_keeps_streams_known (known : StreamsKnown sink)
    (accepted : step pic sink input = some next) : StreamsKnown next := by
  obtain ⟨admitted, rfl⟩ := step_eq_some.mp accepted
  obtain ⟨transition, outcome, rfl⟩ | still := state_change_or_not input
  · have current := accepted_transition admitted
    have changed := change_state_cases pic sink transition outcome
    simp only [applyInput]
    generalize changeState pic sink transition outcome = next at changed
    cases changed with
    | started _ creates =>
      have created := known.creates creates
      exact ⟨fun _ => ⟨_, creates.stream⟩, created.below, created.used⟩
    | startedInVain _ creates => exact (known.creates creates).error _
    | notStarted _ _ kept =>
      have state : next.state = sink.state := congrArg (·.state) kept.lasting
      refine known.grow ?_ ?_ kept.nextStream.ge kept.calls set_up_uses_held
      · rw [state, kept.stream]
        exact known.held
      · rw [kept.stream, kept.nextStream]
        exact known.below
    | collecting =>
      have outside : sink.state ≠ .null := by simp [current, GstStateChange.current]
      exact ⟨fun _ => known.held outside, known.below, known.used⟩
    | collectingInVain =>
      have collecting : StreamsKnown sink.collectPadsStart := ⟨known.held, known.below, known.used⟩
      exact collecting.error _
    | @stopped stream _ parent held =>
      have grown : Grows (InputCall sink (.changeState .pausedToReady outcome)) sink.calls
          (sink.calls ++ [.stopSync stream outcome.stopped]) := .snoc (.stopped held) _
      exact known.grow (fun _ => ⟨_, held⟩) known.below le_rfl grown
        fun call made stream => input_uses_held made
    | nothingToStop => exact ⟨known.held, known.below, known.used⟩
    | moved parent upward =>
      refine ⟨fun _ => ?_, known.below, known.used⟩
      rcases upward with rfl | rfl | rfl
      · exact known.held (by simp [current, GstStateChange.current])
      · exact known.held (by simp [current, GstStateChange.current])
      · exact known.held (by simp [current, GstStateChange.current])
    | refused => exact known.error _
  · obtain ⟨stays, grown⟩ := input_stays pic sink input still
    refine known.grow ?_ ?_ stays.nextStream.ge grown fun call made stream => input_uses_held made
    · rw [stays.state, stays.stream]
      exact known.held
    · rw [stays.stream, stays.nextStream]
      exact known.below

theorem reachable_streams_known (ran : runFromInit pic now inputs = some sink) : StreamsKnown sink :=
  invariant_reached (fun _ _ _ known accepted => step_keeps_streams_known known accepted)
    (init_streams_known now) ⟨inputs, ran⟩

/-! ## The record of a session -/

def Call.isFrame : Call → Bool
  | .statusPutFrame _ _ _ => true
  | _ => false

/-- What the element did since the session started. -/
def GstKvsSink.since (sink started : GstKvsSink) : List Call :=
  sink.calls.drop started.calls.length

theorem since_of_grows {started sink : GstKvsSink} (grown : Grows kind started.calls sink.calls) :
    ∀ call ∈ sink.since started, kind call := by
  obtain ⟨added, grew, admitted⟩ := grown
  simp only [GstKvsSink.since, grew, List.drop_left]
  exact admitted

/-- Entries made later come after those of the session so far. -/
theorem since_append {started before after : GstKvsSink} (began : started.calls <+: before.calls)
    (made : after.calls = before.calls ++ added) :
    after.since started = before.since started ++ added := by
  obtain ⟨earlier, same⟩ := began
  simp only [GstKvsSink.since, made, ← same, List.append_assoc, List.drop_left]

end KvsProducer
