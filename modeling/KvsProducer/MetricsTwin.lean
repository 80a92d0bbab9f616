import KvsProducer.SessionTimeline

/-! One element run twice, without and with metrics. The two settings that the
metrics use and the metric signals in the record are all that the two runs may
differ in, and every handler but that of buffers is blind to them. -/
namespace KvsProducer
open Gst GLib History Runs

/-- The sink with other settings for its metrics, and another record. -/
def GstKvsSink.metered (sink : GstKvsSink) (getMetrics onFirstFrame : Bool) (calls : List Call) :
    GstKvsSink :=
  { sink with data := { sink.data with getMetrics, onFirstFrame }, calls }

/-- The call is there whether metrics are collected or not. -/
def Call.unmetered : Call → Bool
  | .emitMetrics _ _ => false
  | _ => true

/-- Two sinks that differ in their metrics only. -/
def Alike (off on : GstKvsSink) : Prop :=
  ∃ getMetrics onFirstFrame calls, on = off.metered getMetrics onFirstFrame calls ∧
    calls.filter Call.unmetered = off.calls.filter Call.unmetered

theorem Alike.refl (sink : GstKvsSink) : Alike sink sink :=
  ⟨sink.data.getMetrics, sink.data.onFirstFrame, sink.calls, rfl, rfl⟩

theorem Alike.log (alike : Alike off on) (call : Call) : Alike (off.log call) (on.log call) := by
  obtain ⟨getMetrics, onFirstFrame, calls, rfl, seen⟩ := alike
  refine ⟨getMetrics, onFirstFrame, calls ++ [call], rfl, ?_⟩
  rw [log_calls, List.filter_append, List.filter_append, seen]

/-- An update that neither reads nor writes what belongs to the metrics. -/
theorem Alike.update (alike : Alike off on) (update : GstKvsSink → GstKvsSink)
    (blind : ∀ sink getMetrics onFirstFrame calls,
      update (sink.metered getMetrics onFirstFrame calls) =
        (update sink).metered getMetrics onFirstFrame calls) : Alike (update off) (update on) := by
  obtain ⟨getMetrics, onFirstFrame, calls, rfl, seen⟩ := alike
  have kept : (update off).calls = off.calls :=
    congrArg (·.calls) (blind off off.data.getMetrics off.data.onFirstFrame off.calls)
  exact ⟨getMetrics, onFirstFrame, calls, blind .., kept ▸ seen⟩

/-! ## Starting and stopping -/

/-- Two results with the same outcome and sinks that are alike. -/
def AlikeResults (off on : GstKvsSink × Result) : Prop := Alike off.1 on.1 ∧ on.2 = off.2

/-- The result of a step of a start decides what comes next in both runs. -/
theorem AlikeResults.cases (alike : AlikeResults off on) :
    ∃ offSink onSink result, off = (offSink, result) ∧ on = (onSink, result) ∧ Alike offSink onSink := by
  obtain ⟨off, result⟩ := off
  obtain ⟨on, other⟩ := on
  obtain ⟨sinks, same⟩ := alike
  cases same
  exact ⟨off, on, result, rfl, rfl, sinks⟩

private theorem destroy_alike (alike : Alike off on) (held : Option ProducerId) :
    Alike (destroyProducer off held) (destroyProducer on held) := by
  cases held with
  | none => exact alike
  | some producer =>
    exact (alike.log (.destroyProducer producer)).update
      (fun sink => { sink with dataUseCount := sink.dataUseCount - 1 }) fun _ _ _ _ => rfl

/-- Sinks that are alike agree in what their metrics do not touch. -/
theorem Alike.same (alike : Alike off on) (read : GstKvsSink → Value)
    (blind : ∀ sink getMetrics onFirstFrame calls,
      read (GstKvsSink.metered sink getMetrics onFirstFrame calls) = read sink) : read on = read off := by
  obtain ⟨getMetrics, onFirstFrame, calls, rfl, _⟩ := alike
  exact blind ..

private theorem producer_init_alike (alike : Alike off on) (outcome : ChangeStateOutcome) :
    AlikeResults (kinesisVideoProducerInit off outcome) (kinesisVideoProducerInit on outcome) := by
  have held := alike.update (fun sink => { sink with dataUseCount := sink.dataUseCount + 1 })
    fun _ _ _ _ => rfl
  have unwound := held.update (fun sink => { sink with dataUseCount := sink.dataUseCount - 1 })
    fun _ _ _ _ => rfl
  have named := alike.same (fun sink => throwIfNull sink.streamName) fun _ _ _ _ => rfl
  have agent := alike.same (fun sink => throwIfNull sink.userAgent) fun _ _ _ _ => rfl
  unfold kinesisVideoProducerInit
  rw [named, agent]
  cases throwIfNull off.streamName "kvssink->stream_name" with
  | error raised => exact ⟨alike, rfl⟩
  | ok _ =>
    cases outcome.credentials with
    | error raised => exact ⟨unwound, rfl⟩
    | ok _ =>
      cases throwIfNull off.userAgent "kvssink->user_agent" with
      | error raised => exact ⟨unwound, rfl⟩
      | ok _ =>
        simp only
        cases statusFailed outcome.clientStatus with
        | true => exact ⟨unwound, rfl⟩
        | false =>
          refine ⟨?_, rfl⟩
          have created := held.log (.createSync off.nextProducer ⟨off.storageSize, off.stopStreamTimeout,
            off.serviceConnectionTimeout, off.serviceCompletionTimeout⟩)
          have replaced := (destroy_alike created off.data.kinesisVideoProducer).update
            (fun sink => { sink with
              data := { sink.data with kinesisVideoProducer := some off.nextProducer }
              nextProducer := off.nextProducer + 1 }) fun _ _ _ _ => rfl
          obtain ⟨_, _, _, rfl, _⟩ := alike
          exact replaced

private theorem init_track_data_alike (alike : Alike off on) (pic : Pic) (outcome : ChangeStateOutcome) :
    AlikeResults (initTrackData pic off outcome) (initTrackData pic on outcome) := by
  have walk := alike.same (fun sink => initTracks pic (sink.streamName.getD "") sink.data.mediaType
    outcome.allowedCaps sink.collect
    { heap := sink.heap, codecId := sink.codecId, audioCodecId := sink.audioCodecId }) fun _ _ _ _ => rfl
  unfold initTrackData
  rw [walk]
  generalize initTracks pic (off.streamName.getD "") off.data.mediaType outcome.allowedCaps off.collect
    { heap := off.heap, codecId := off.codecId, audioCodecId := off.audioCodecId } = ended
  obtain ⟨tracks, scan, result⟩ := ended
  have walked := alike.update (fun sink => { sink with
    collect := tracks, heap := scan.heap, codecId := scan.codecId, audioCodecId := scan.audioCodecId })
    fun _ _ _ _ => rfl
  cases result with
  | error raised => exact ⟨walked, rfl⟩
  | ok _ =>
    have stored := walked.update (storeContentType · scan.videoContentType scan.audioContentType) (by
      intro sink getMetrics onFirstFrame calls
      have media : (sink.metered getMetrics onFirstFrame calls).data.mediaType = sink.data.mediaType := rfl
      unfold storeContentType
      rw [media]
      cases joinContentType sink.data.mediaType scan.videoContentType scan.audioContentType <;> rfl)
    have content := stored.same (fun sink => throwIfNull sink.contentType "kvssink->content_type")
      fun _ _ _ _ => rfl
    exact ⟨stored, congrArg (·.map fun _ => ()) content⟩

/-- Defining a stream reads nothing that belongs to the metrics. -/
theorem define_alike (alike : Alike off on) (pic : Pic) (residue : ℕ → String) :
    defineStream pic on residue = defineStream pic off residue :=
  alike.same (defineStream pic · residue) fun _ _ _ _ => rfl

private theorem create_sync_alike (alike : Alike off on) (pic : Pic) (definition : StreamDefinition)
    (status : Status) : AlikeResults (createStreamSync pic off definition status)
      (createStreamSync pic on definition status) := by
  have held := alike.same (·.data.kinesisVideoProducer) fun _ _ _ _ => rfl
  have next := alike.same (·.nextStream) fun _ _ _ _ => rfl
  unfold createStreamSync
  rw [held]
  cases off.data.kinesisVideoProducer with
  | none => exact ⟨alike, rfl⟩
  | some producer =>
    simp only
    split
    · exact ⟨alike.log _, rfl⟩
    · split
      · exact ⟨alike.log _, rfl⟩
      · refine ⟨?_, congrArg Except.ok next⟩
        have created := (alike.log (.createStreamSync producer definition (some off.nextStream))).update
          (fun sink => { sink with nextStream := off.nextStream + 1 }) fun _ _ _ _ => rfl
        obtain ⟨_, _, _, rfl, _⟩ := alike
        exact created

private theorem prepared_alike (alike : Alike off on) : Alike off.prepared on.prepared := by
  have timed := alike.update applyFileStartTime (by
    intro sink getMetrics onFirstFrame calls
    have streamingType : (sink.metered getMetrics onFirstFrame calls).streamingType = sink.streamingType := rfl
    have time : (sink.metered getMetrics onFirstFrame calls).fileStartTime = sink.fileStartTime := rfl
    unfold applyFileStartTime
    simp only [streamingType, time]
    split <;> rfl)
  apply timed.update applyMediaType
  intro sink getMetrics onFirstFrame calls
  have media : (sink.metered getMetrics onFirstFrame calls).data.mediaType = sink.data.mediaType := rfl
  unfold applyMediaType
  rw [media]
  cases sink.data.mediaType <;> rfl

theorem create_stream_alike (alike : Alike off on) (pic : Pic) (residue : ℕ → String) (status : Status) :
    AlikeResults (createKinesisVideoStream pic off residue status)
      (createKinesisVideoStream pic on residue status) := by
  have prepared := prepared_alike alike
  have defined := define_alike prepared pic residue
  have ready (sink : GstKvsSink) : applyMediaType (applyFileStartTime sink) = sink.prepared := rfl
  unfold createKinesisVideoStream
  simp only [ready] at prepared ⊢
  rw [defined]
  generalize defineStream pic off.prepared residue = built
  obtain ⟨heap, result⟩ := built
  have read := prepared.update (fun sink => { sink with heap }) fun _ _ _ _ => rfl
  cases result with
  | error raised => exact ⟨read, rfl⟩
  | ok definition =>
    obtain ⟨askedOff, askedOn, created, offAsked, onAsked, asked⟩ :=
      (create_sync_alike read pic definition status).cases
    simp only [offAsked, onAsked]
    cases created with
    | error raised => exact ⟨asked, rfl⟩
    | ok stream => exact ⟨asked.update (·.holdStream stream) fun _ _ _ _ => rfl, rfl⟩

theorem retries_alike (alike : Alike off on) (pic : Pic) (outcome : ChangeStateOutcome) (retryCount : ℕ) :
    AlikeResults (kinesisVideoStreamInitLoop pic outcome retryCount off)
      (kinesisVideoStreamInitLoop pic outcome retryCount on) := by
  induction retryCount generalizing off on with
  | zero => exact ⟨alike, rfl⟩
  | succ retryCount ih =>
    obtain ⟨triedOff, triedOn, result, offTried, onTried, tried⟩ := (create_stream_alike alike pic
      outcome.residue (outcome.createStatus (defaultTotalRetry - (retryCount + 1)))).cases
    unfold kinesisVideoStreamInitLoop
    rw [offTried, onTried]
    cases result with
    | ok _ => exact ⟨tried, rfl⟩
    | error raised =>
      cases raised with
      | runtimeError what =>
        simp only
        split
        · exact ⟨tried, rfl⟩
        · exact ih tried
      | uncaught | internalCheck => exact ⟨tried, rfl⟩

private theorem fail_alike (alike : Alike off on) (message : String) (raised : Raised) :
    AlikeResults (failChangeState off message raised) (failChangeState on message raised) := by
  unfold failChangeState
  split
  · exact ⟨alike.update GstKvsSink.crash fun _ _ _ _ => rfl, rfl⟩
  · exact ⟨alike.log _, rfl⟩

private theorem null_to_ready_alike (alike : Alike off on) (pic : Pic) (outcome : ChangeStateOutcome) :
    AlikeResults (nullToReady pic off outcome) (nullToReady pic on outcome) := by
  obtain ⟨heldOff, heldOn, produced, offProduced, onProduced, held⟩ :=
    (producer_init_alike alike outcome).cases
  unfold nullToReady
  rw [offProduced, onProduced]
  cases produced with
  | error raised => exact fail_alike held _ raised
  | ok _ =>
    obtain ⟨walkedOff, walkedOn, scanned, offScanned, onScanned, walked⟩ :=
      (init_track_data_alike held pic outcome).cases
    simp only [offScanned, onScanned]
    cases scanned with
    | error raised => exact fail_alike walked _ raised
    | ok _ =>
      have forgotten := walked.update GstKvsSink.forgetTimeline fun _ _ _ _ => rfl
      obtain ⟨createdOff, createdOn, streamed, offStreamed, onStreamed, created⟩ :=
        (retries_alike forgotten pic outcome defaultTotalRetry).cases
      simp only [kinesisVideoStreamInit, offStreamed, onStreamed]
      cases streamed with
      | error raised => exact fail_alike created _ raised
      | ok _ => exact ⟨created, rfl⟩

private theorem upward_alike (alike : Alike off on) (pic : Pic) (transition : GstStateChange)
    (outcome : ChangeStateOutcome) :
    AlikeResults (upwardTransition pic off transition outcome) (upwardTransition pic on transition outcome) := by
  cases transition with
  | nullToReady => exact null_to_ready_alike alike pic outcome
  | readyToPaused => exact ⟨alike.update GstKvsSink.collectPadsStart fun _ _ _ _ => rfl, rfl⟩
  | pausedToPlaying | playingToPaused | pausedToReady | readyToNull => exact ⟨alike, rfl⟩

theorem downward_alike (alike : Alike off on) (transition : GstStateChange) (outcome : ChangeStateOutcome) :
    AlikeResults (downwardTransition off transition outcome) (downwardTransition on transition outcome) := by
  cases transition with
  | pausedToReady =>
    have held := alike.same (·.data.kinesisVideoStream) fun _ _ _ _ => rfl
    simp only [downwardTransition, held]
    cases off.data.kinesisVideoStream with
    | none => exact ⟨alike.update GstKvsSink.crash fun _ _ _ _ => rfl, rfl⟩
    | some stream => exact ⟨alike.log _, rfl⟩
  | nullToReady | readyToPaused | pausedToPlaying | playingToPaused | readyToNull => exact ⟨alike, rfl⟩

private theorem change_state_alike (alike : Alike off on) (pic : Pic) (transition : GstStateChange)
    (outcome : ChangeStateOutcome) :
    Alike (changeState pic off transition outcome) (changeState pic on transition outcome) := by
  have changed : AlikeResults (gstKvsSinkChangeState pic off transition outcome)
      (gstKvsSinkChangeState pic on transition outcome) := by
    obtain ⟨upOff, upOn, result, offUp, onUp, up⟩ := (upward_alike alike pic transition outcome).cases
    unfold gstKvsSinkChangeState
    rw [offUp, onUp]
    cases result with
    | failure | crash => exact ⟨up, rfl⟩
    | success =>
      simp only
      split
      · exact ⟨up.log _, rfl⟩
      · exact downward_alike up transition outcome
  obtain ⟨changedOff, changedOn, result, offChanged, onChanged, sinks⟩ := changed.cases
  unfold changeState
  rw [offChanged, onChanged]
  cases result with
  | failure | crash => exact sinks
  | success => exact sinks.update (·.enter transition.next) fun _ _ _ _ => rfl

/-! ## The other inputs -/

private theorem request_alike (alike : Alike off on) (templ : PadTemplate) (added : Bool) :
    Alike (gstKvsSinkRequestNewPad off templ added).1 (gstKvsSinkRequestNewPad on templ added).1 := by
  apply alike.update fun sink => (gstKvsSinkRequestNewPad sink templ added).1
  intro sink getMetrics onFirstFrame calls
  have audio : (sink.metered getMetrics onFirstFrame calls).numAudioStreams = sink.numAudioStreams := rfl
  have video : (sink.metered getMetrics onFirstFrame calls).numVideoStreams = sink.numVideoStreams := rfl
  unfold gstKvsSinkRequestNewPad addRequestedPad
  cases templ with
  | audio =>
    simp only [audio]
    split
    · rfl
    · split <;> rfl
  | video =>
    simp only [video]
    split
    · rfl
    · split <;> rfl
  | other => rfl

private theorem release_alike (alike : Alike off on) (pad : PadId) (removed : Bool) :
    Alike (gstKvsSinkReleasePad off pad removed) (gstKvsSinkReleasePad on pad removed) := by
  apply alike.update (gstKvsSinkReleasePad · pad removed)
  intro sink getMetrics onFirstFrame calls
  have counted (tracks : List GstKvsSinkTrackData) (sink : GstKvsSink) :
      tracks.foldl (countReleasedPad pad) (sink.metered getMetrics onFirstFrame calls) =
        (tracks.foldl (countReleasedPad pad) sink).metered getMetrics onFirstFrame calls := by
    induction tracks generalizing sink with
    | nil => rfl
    | cons track rest ih =>
      rw [List.foldl_cons, List.foldl_cons, ← ih]
      unfold countReleasedPad
      split
      · split <;> rfl
      · rfl
  have tracks : (sink.metered getMetrics onFirstFrame calls).collect = sink.collect := rfl
  unfold gstKvsSinkReleasePad
  simp only [tracks, counted]
  split <;> rfl

private theorem set_property_alike (alike : Alike off on) (other : ∀ value, property ≠ .getKvsMetrics value) :
    Alike (gstKvsSinkSetProperty off property) (gstKvsSinkSetProperty on property) := by
  apply alike.update (gstKvsSinkSetProperty · property)
  intro sink getMetrics onFirstFrame calls
  cases property with
  | getKvsMetrics value => exact absurd rfl (other value)
  | _ => rfl

private theorem finalize_alike (alike : Alike off on) :
    Alike (gstKvsSinkFinalize off) (gstKvsSinkFinalize on) := by
  have released := alike.update (fun sink => { sink with
    heap := gFree (gFree (gFree (gFree sink.heap sink.contentType) sink.codecId) sink.trackName)
      sink.audioCodecId
    finalized := true, dataUseCount := sink.dataUseCount - 1 }) fun _ _ _ _ => rfl
  have held := alike.same (·.data.kinesisVideoProducer) fun _ _ _ _ => rfl
  have count := alike.same (·.dataUseCount) fun _ _ _ _ => rfl
  simp only [gstKvsSinkFinalize]
  by_cases last : off.dataUseCount - 1 = 0
  · rw [if_pos last, if_pos (by rw [count, last]), held]
    exact destroy_alike released _
  · rw [if_neg last, if_neg (by rwa [count])]
    exact released

private theorem start_stream_alike (alike : Alike off on) (trackId : ℕ) (started : Bool) :
    Alike (startStream off trackId started) (startStream on trackId started) := by
  have held := alike.same (·.data.kinesisVideoStream) fun _ _ _ _ => rfl
  unfold startStream
  rw [held]
  cases off.data.kinesisVideoStream with
  | none => exact alike.update GstKvsSink.crash fun _ _ _ _ => rfl
  | some stream =>
    simp only
    split
    · exact alike.log _
    · exact (alike.log _).log _

private theorem event_alike (alike : Alike off on) (track : GstKvsSinkTrackData) (event : SinkEvent)
    (outcome : SinkEventOutcome) : Alike (gstKvsSinkHandleSinkEvent off track event outcome)
      (gstKvsSinkHandleSinkEvent on track event outcome) := by
  have held := alike.same (·.data.kinesisVideoStream) fun _ _ _ _ => rfl
  have received := alike.same (·.data.trackCpdReceived) fun _ _ _ _ => rfl
  cases event with
  | caps structure' =>
    simp only [gstKvsSinkHandleSinkEvent, handleCapsEvent, received]
    split
    · split
      · exact alike
      · split
        · exact alike
        · exact start_stream_alike alike _ _
    · split
      · apply start_stream_alike
        have noted := alike.update (fun sink => { sink with data := { sink.data with
          trackCpdReceived := insert track.trackId off.data.trackCpdReceived } }) fun _ _ _ _ => rfl
        exact noted
      · exact alike
  | addMetadata name value persist =>
    simp only [gstKvsSinkHandleSinkEvent, held]
    cases off.data.kinesisVideoStream with
    | none => exact alike.update GstKvsSink.crash fun _ _ _ _ => rfl
    | some stream => exact alike.log _
  | eos =>
    simp only [gstKvsSinkHandleSinkEvent, handleEosEvent, held]
    cases off.data.kinesisVideoStream with
    | none => exact alike.log _
    | some stream => exact (alike.log _).log _
  | other => exact alike

private theorem sink_event_alike (alike : Alike off on) (pad : PadId) (event : SinkEvent)
    (outcome : SinkEventOutcome) : Alike (sinkEvent off pad event outcome) (sinkEvent on pad event outcome) := by
  have found := alike.same (·.trackOf pad) fun _ _ _ _ => rfl
  simp only [sinkEvent, found]
  cases off.trackOf pad with
  | none => exact alike
  | some track =>
    have handled := event_alike alike track event outcome
    cases event with
    | eos =>
      have marked := handled.update (fun sink => { sink with collect := sink.collect.map (markEos pad) })
        fun _ _ _ _ => rfl
      exact marked
    | caps | addMetadata | other => exact handled

private theorem report_alike (alike : Alike off on) (pic : Pic) (status : Status) :
    Alike (streamErrorReport pic off status) (streamErrorReport pic on status) := by
  have finalized := alike.same (·.finalized) fun _ _ _ _ => rfl
  have late : Alike (if off.finalized then off.log .callbackAfterFinalize else off)
      (if on.finalized then on.log .callbackAfterFinalize else on) := by
    rw [finalized]
    split
    · exact alike.log _
    · exact alike
  have stored := (late.log (.streamErrorReport status)).update
    (fun sink => { sink with data := { sink.data with streamStatus := status } }) fun _ _ _ _ => rfl
  simp only [streamErrorReport, streamErrorReportHandler]
  by_cases kept : (!pic.isRecoverableError status) = true
  · rw [if_pos kept, if_pos kept]
    exact stored
  · rw [if_neg kept, if_neg kept]
    exact late.log _

/-! ## Buffers -/

private theorem clean_up_alike (alike : Alike off on) (arrived : Bool) (status : Status) (ret : GstFlowReturn) :
    Alike (cleanUpBuffer off arrived status ret) (cleanUpBuffer on arrived status ret) := by
  have released : Alike (if arrived then off.log .releaseBuffer else off)
      (if arrived then on.log .releaseBuffer else on) := by
    split
    · exact alike.log _
    · exact alike
  unfold cleanUpBuffer
  apply Alike.log
  split
  · exact released.log _
  · exact released

private theorem anchor_alike (alike : Alike off on) (buffer : GstBuffer) (now : UInt64) :
    AlikeResults (anchorTimeline off buffer now) (anchorTimeline on buffer now) := by
  obtain ⟨getMetrics, onFirstFrame, calls, rfl, seen⟩ := alike
  have streamingType : (off.metered getMetrics onFirstFrame calls).streamingType = off.streamingType := rfl
  have original : (off.metered getMetrics onFirstFrame calls).data.useOriginalPts =
    off.data.useOriginalPts := rfl
  unfold anchorTimeline
  simp only [streamingType, original]
  split
  · exact ⟨⟨getMetrics, onFirstFrame, calls, rfl, seen⟩, rfl⟩
  · split <;> exact ⟨⟨getMetrics, onFirstFrame, calls, rfl, seen⟩, rfl⟩

private theorem note_key_frame_alike (alike : Alike off on) (track : GstKvsSinkTrackData) (delta : Bool) :
    Alike (noteVideoKeyFrame off track delta) (noteVideoKeyFrame on track delta) := by
  apply alike.update (noteVideoKeyFrame · track delta)
  intro sink getMetrics onFirstFrame calls
  have media : (sink.metered getMetrics onFirstFrame calls).data.mediaType = sink.data.mediaType := rfl
  unfold noteVideoKeyFrame
  simp only [media]
  split <;> rfl

/-- The signal with the metrics, and the flag that goes with it. -/
theorem Alike.meter (alike : Alike off on) (framePts : UInt64) (first : Bool) :
    Alike off (on.log (.emitMetrics framePts first)).noteFirstFrame := by
  obtain ⟨getMetrics, onFirstFrame, calls, rfl, seen⟩ := alike
  refine ⟨getMetrics, false, calls ++ [.emitMetrics framePts first], rfl, ?_⟩
  rw [List.filter_append, seen]
  exact List.append_nil _

/-- What a call of the handler returned. -/
def Call.returned : Call → Option GstFlowReturn
  | .bufferDone ret => some ret
  | _ => none

/-- What the calls of the handler have returned so far. -/
def GstKvsSink.returns (sink : GstKvsSink) : List GstFlowReturn := sink.calls.filterMap Call.returned

/-- The run with metrics has ended inside a call of the handler that the other
run has left. -/
def CutOff (off on : GstKvsSink) : Prop := on.crashed = true ∧ on.returns.length < off.returns.length

/-- What is seen of the calls is the same as long as it is not the metrics. -/
theorem Alike.observed (alike : Alike off on) (observe : Call → Option Value)
    (blind : ∀ framePts first, observe (.emitMetrics framePts first) = none) :
    on.calls.filterMap observe = off.calls.filterMap observe := by
  obtain ⟨_, _, calls, rfl, seen⟩ := alike
  have unseen (call : Call) : observe call = if call.unmetered = true then observe call else none := by
    cases call with
    | emitMetrics framePts first => exact blind framePts first
    | _ => rfl
  have through (calls : List Call) :
      calls.filterMap observe = (calls.filter Call.unmetered).filterMap observe := by
    rw [List.filterMap_filter]
    exact congrArg (calls.filterMap ·) (funext unseen)
  change calls.filterMap observe = _
  rw [through calls, through off.calls, seen]

/-- A buffer is put alike in both runs, or its metrics end the one that asks for them. -/
theorem put_frame_alike (alike : Alike off on) (unmetered : off.data.getMetrics = false)
    (held : off.data.kinesisVideoStream = some stream) (frameData : List UInt8) (pts dts : UInt64)
    (flags : FrameFlags) (trackId : ℕ) (index : UInt32) (outcome : BufferOutcome) :
    let frame := createKinesisVideoFrame pts dts flags frameData trackId index
    putFrame off frameData pts dts flags trackId index outcome =
      (off.log (.statusPutFrame stream frame outcome.putStatus), .returned outcome.putStatus) ∧
    ((readsMetrics on flags outcome.putStatus = true →
        outcome.streamMetricsRead = true ∧ outcome.clientMetricsRead = true) ∧
        AlikeResults (putFrame off frameData pts dts flags trackId index outcome)
          (putFrame on frameData pts dts flags trackId index outcome) ∨
      ¬ (readsMetrics on flags outcome.putStatus = true →
        outcome.streamMetricsRead = true ∧ outcome.clientMetricsRead = true) ∧
        putFrame on frameData pts dts flags trackId index outcome =
          (on.log (.statusPutFrame stream frame outcome.putStatus), .threw)) := by
  have heldToo : on.data.kinesisVideoStream = some stream :=
    (alike.same (·.data.kinesisVideoStream) fun _ _ _ _ => rfl).trans held
  have silent : readsMetrics off flags outcome.putStatus = false := by simp [readsMetrics, unmetered]
  have put := alike.log (.statusPutFrame stream
    (createKinesisVideoFrame pts dts flags frameData trackId index) outcome.putStatus)
  simp only [putFrame, held, heldToo, silent]
  refine ⟨rfl, ?_⟩
  by_cases reads : readsMetrics on flags outcome.putStatus = true
  · by_cases answered : outcome.streamMetricsRead = true ∧ outcome.clientMetricsRead = true
    · simp only [reads, answered]
      exact .inl ⟨fun _ => ⟨trivial, trivial⟩, put.meter _ _, rfl⟩
    · have unanswered : (!outcome.streamMetricsRead || !outcome.clientMetricsRead) = true := by
        simpa [Decidable.imp_iff_not_or] using answered
      simp only [reads, unanswered]
      exact .inr ⟨fun answers => answered (answers trivial), rfl⟩
  · rw [if_neg reads]
    exact .inl ⟨fun asked => absurd asked reads, put, rfl⟩

private theorem clean_up_returns (sink : GstKvsSink) (arrived : Bool) (status : Status) (ret : GstFlowReturn) :
    (cleanUpBuffer sink arrived status ret).returns = sink.returns ++ [ret] := by
  unfold cleanUpBuffer GstKvsSink.returns
  cases arrived <;> cases statusFailed status <;> simp [List.filterMap_cons, Call.returned]

/-- How a call of the handler fares in the two runs. -/
def Fares (answered : Prop) (off on : GstKvsSink) : Prop :=
  answered ∧ Alike off on ∨ ¬ answered ∧ CutOff off on

private theorem submit_fares (alike : Alike off on) (unmetered : off.data.getMetrics = false)
    (held : off.data.kinesisVideoStream = some stream) (track : GstKvsSinkTrackData) (buffer : GstBuffer)
    (outcome : BufferOutcome) :
    Fares (MetricsAnswered on track buffer outcome) (submitBuffer off track buffer outcome)
      (submitBuffer on track buffer outcome) := by
  have media := alike.same (·.data.mediaType) fun _ _ _ _ => rfl
  have returns := alike.observed Call.returned fun _ _ => rfl
  have sameReads := anchored_reads_metrics on track (buffer.flagIsSet bufferFlagDeltaUnit) buffer outcome.now
  have session := anchored_keeps_session off track (buffer.flagIsSet bufferFlagDeltaUnit) buffer outcome.now
  have calls := anchored_calls off track (buffer.flagIsSet bufferFlagDeltaUnit) buffer outcome.now
  have callsToo := anchored_calls on track (buffer.flagIsSet bufferFlagDeltaUnit) buffer outcome.now
  obtain ⟨anchoredOff, anchoredOn, timed, offAnchored, onAnchored, anchored⟩ :=
    (anchor_alike (note_key_frame_alike alike track (buffer.flagIsSet bufferFlagDeltaUnit)) buffer
      outcome.now).cases
  rw [offAnchored] at session calls
  rw [onAnchored] at sameReads callsToo
  have counted := anchored.same (·.data.frameCount) fun _ _ _ _ => rfl
  have still : anchoredOff.data.getMetrics = false :=
    (congrArg (·.data.getMetrics) session : _ = off.data.getMetrics).trans unmetered
  obtain ⟨putOff, put⟩ := put_frame_alike anchored still ((session_stream session).trans held) timed.bytes
    timed.pts timed.dts (frameFlagsOf off.data.mediaType track.trackType
      (buffer.flagIsSet bufferFlagDeltaUnit)) track.trackId anchoredOff.data.frameCount outcome
  unfold MetricsAnswered
  simp only [submitBuffer, offAnchored, onAnchored, counted, media, ← sameReads]
  rcases put with ⟨answered, put⟩ | ⟨unanswered, threw⟩
  · obtain ⟨afterOff, afterOn, ended, offPut, onPut, after⟩ := put.cases
    rw [putOff] at offPut
    cases offPut
    rw [putOff, onPut]
    have counting := after.update GstKvsSink.countFrame fun _ _ _ _ => rfl
    exact .inl ⟨answered, clean_up_alike counting true _ _⟩
  · rw [putOff, threw]
    refine .inr ⟨unanswered, rfl, ?_⟩
    have quiet (sink before : GstKvsSink) (same : sink.calls = before.calls) (frame : Frame) (status : Status) :
        (sink.calls ++ [Call.statusPutFrame stream frame status]).filterMap Call.returned = before.returns := by
      rw [List.filterMap_append, same]
      exact List.append_nil _
    rw [clean_up_returns]
    change (List.filterMap _ (anchoredOn.calls ++ [_])).length <
      (List.filterMap _ (anchoredOff.calls ++ [_]) ++ [_]).length
    rw [quiet anchoredOn on callsToo, quiet anchoredOff off calls]
    change on.returns = off.returns at returns
    rw [returns, List.length_append]
    exact Nat.lt_succ_self _

private theorem arrived_fares (alike : Alike off on) (unmetered : off.data.getMetrics = false)
    (held : off.data.kinesisVideoStream = some stream) (track : GstKvsSinkTrackData) (buffer : GstBuffer)
    (outcome : BufferOutcome) :
    Fares (becomesFrame buffer outcome = true → MetricsAnswered on track buffer outcome)
      (handleArrivedBuffer off track buffer outcome) (handleArrivedBuffer on track buffer outcome) := by
  have settled := alike.same (settleTimestamps · buffer) fun _ _ _ _ => rfl
  have noted := alike.update (·.noteDts (settleTimestamps off buffer)) fun _ _ _ _ => rfl
  have flags : (settleTimestamps off buffer).flagIsSet = buffer.flagIsSet := by rw [settled_times]; rfl
  simp only [handleArrivedBuffer, settled]
  cases droppable : isDroppable buffer with
  | true =>
    have notFrame : becomesFrame buffer outcome = true → MetricsAnswered on track buffer outcome := by
      simp [becomesFrame, droppable]
    exact .inl ⟨notFrame, clean_up_alike alike true _ _⟩
  | false =>
    cases mapped : outcome.mapped with
    | false =>
      have notFrame : becomesFrame buffer outcome = true → MetricsAnswered on track buffer outcome := by
        simp [becomesFrame, mapped]
      exact .inl ⟨notFrame, clean_up_alike noted true _ _⟩
    | true =>
      have becomes : becomesFrame buffer outcome = true := by simp [becomesFrame, droppable, mapped]
      have asked : (becomesFrame buffer outcome = true → MetricsAnswered on track buffer outcome) ↔
          MetricsAnswered (on.noteDts (settleTimestamps off buffer)) track (settleTimestamps off buffer)
            outcome := by
        unfold MetricsAnswered
        rw [flags]
        exact ⟨fun answers => answers becomes, fun answered _ => answered⟩
      unfold Fares
      rw [asked]
      exact submit_fares noted unmetered held track (settleTimestamps off buffer) outcome

/-- If this call of the handler asks for metrics, it gets them. -/
def MetricsCome (pic : Pic) (sink : GstKvsSink) (track : GstKvsSinkTrackData) (buffer : GstBuffer)
    (outcome : BufferOutcome) : Prop :=
  LetsThrough pic sink → becomesFrame buffer outcome = true → MetricsAnswered sink track buffer outcome

instance (pic : Pic) (sink : GstKvsSink) (track : GstKvsSinkTrackData) (buffer : GstBuffer)
    (outcome : BufferOutcome) : Decidable (MetricsCome pic sink track buffer outcome) :=
  have : Decidable (MetricsAnswered sink track buffer outcome) := inferInstanceAs (Decidable (_ → _ ∧ _))
  inferInstanceAs (Decidable (_ → _ → _))

private theorem buffer_fares (alike : Alike off on) (unmetered : off.data.getMetrics = false)
    (held : off.data.kinesisVideoStream = some stream) (alive : off.crashed = false) (pic : Pic)
    (track : GstKvsSinkTrackData) (buffer : GstBuffer) (outcome : BufferOutcome) :
    Fares (MetricsCome pic on track buffer outcome)
      (gstKvsSinkHandleBuffer pic off (some (track, buffer)) outcome)
      (gstKvsSinkHandleBuffer pic on (some (track, buffer)) outcome) := by
  have arrived := alike.log .bufferArrived
  have gate := alike.same (fun sink => streamErrorGate pic sink.streamingType sink.data.streamStatus)
    fun _ _ _ _ => rfl
  have crashed := alike.same (·.crashed) fun _ _ _ _ => rfl
  have heldToo := (alike.same (·.data.kinesisVideoStream) fun _ _ _ _ => rfl).trans held
  have through (lets : LetsThrough pic on) : MetricsCome pic on track buffer outcome ↔
      (becomesFrame buffer outcome = true → MetricsAnswered on track buffer outcome) :=
    ⟨fun come => come lets, fun answers _ => answers⟩
  cases passed : streamErrorGate pic off.streamingType off.data.streamStatus with
  | fatal =>
    have passedToo := gate.trans passed
    have status := alike.same (·.data.streamStatus) fun _ _ _ _ => rfl
    refine .inl ⟨fun lets => absurd passedToo lets, ?_⟩
    rw [handler_fails passed, handler_fails passedToo, status]
    exact clean_up_alike (arrived.log _) true statusSuccess .error
  | proceed =>
    have passedToo := gate.trans passed
    have lets : LetsThrough pic on := by simp [LetsThrough, passedToo]
    unfold Fares
    rw [handler_proceeds passed, handler_proceeds passedToo, through lets]
    exact arrived_fares arrived unmetered held track buffer outcome
  | reset =>
    have passedToo := gate.trans passed
    have lets : LetsThrough pic on := by simp [LetsThrough, passedToo]
    have cleared := (arrived.log (.resetStream stream outcome.resetDone)).update clearStreamStatus
      fun _ _ _ _ => rfl
    unfold Fares
    rw [handler_resets passed held alive, handler_resets passedToo heldToo (crashed.trans alive),
      through lets]
    exact arrived_fares cleared unmetered held track buffer outcome

/-- A call without a buffer is alike in both runs. -/
theorem no_buffer_alike (alike : Alike off on) (held : off.data.kinesisVideoStream = some stream)
    (alive : off.crashed = false) (pic : Pic) (outcome : BufferOutcome) :
    Alike (gstKvsSinkHandleBuffer pic off none outcome) (gstKvsSinkHandleBuffer pic on none outcome) := by
  have arrived := alike.log .bufferArrived
  have gate := alike.same (fun sink => streamErrorGate pic sink.streamingType sink.data.streamStatus)
    fun _ _ _ _ => rfl
  have crashed := alike.same (·.crashed) fun _ _ _ _ => rfl
  have heldToo := (alike.same (·.data.kinesisVideoStream) fun _ _ _ _ => rfl).trans held
  cases passed : streamErrorGate pic off.streamingType off.data.streamStatus with
  | fatal =>
    have status := alike.same (·.data.streamStatus) fun _ _ _ _ => rfl
    rw [handler_fails passed, handler_fails (gate.trans passed), status]
    exact clean_up_alike (arrived.log _) false statusSuccess .error
  | proceed =>
    rw [handler_proceeds passed, handler_proceeds (gate.trans passed)]
    exact clean_up_alike arrived false statusSuccess .ok
  | reset =>
    have cleared := (arrived.log (.resetStream stream outcome.resetDone)).update clearStreamStatus
      fun _ _ _ _ => rfl
    rw [handler_resets passed held alive,
      handler_resets (gate.trans passed) heldToo (crashed.trans alive)]
    exact clean_up_alike cleared false statusSuccess .ok

/-! ## Two runs -/

/-- The input sets the property that asks for metrics. -/
def Input.setsMetrics : Input → Bool
  | .setProperty (.getKvsMetrics _) => true
  | _ => false

/-- One element without metrics and with them. -/
structure BothRuns where
  off : GstKvsSink
  on : GstKvsSink

/-- Both runs begin at this element. -/
def GstKvsSink.bothRuns (sink : GstKvsSink) : BothRuns where
  off := gstKvsSinkSetProperty sink (.getKvsMetrics false)
  on := gstKvsSinkSetProperty sink (.getKvsMetrics true)

/-- Both runs get the same inputs, which leave the property alone. The run with
metrics stays where it is when it cannot take one. -/
def bothStep (pic : Pic) (both : BothRuns) (input : Input) : Option BothRuns :=
  if input.setsMetrics then none
  else (step pic both.off input).map fun off => { off, on := (step pic both.on input).getD both.on }

/-- The buffers that were given back. -/
def Call.released : Call → Option Unit
  | .releaseBuffer => some ()
  | _ => none

/-- The number of buffers given back so far. -/
def GstKvsSink.releases (sink : GstKvsSink) : ℕ := (sink.calls.filterMap Call.released).length

/-- Metrics have made no difference for the stream. -/
structure Undisturbed (both : BothRuns) : Prop where
  frames : both.on.frames = both.off.frames
  returns : both.on.returns = both.off.returns
  releases : both.on.releases = both.off.releases
  timeline : both.on.timeline = both.off.timeline

/-- Where the input is a buffer whose put asks for metrics, they can be read. -/
def MetricsArrive (pic : Pic) (both : BothRuns) : Input → Prop
  | .buffer pad buffer outcome =>
    ∀ track ∈ both.on.trackOf pad, MetricsCome pic both.on track buffer outcome
  | _ => True

instance (pic : Pic) (both : BothRuns) : (input : Input) → Decidable (MetricsArrive pic both input)
  | .buffer _ _ _ => inferInstanceAs (Decidable (∀ track ∈ _, _))
  | .requestNewPad _ _ | .releasePad _ _ | .setProperty _ | .changeState _ _ | .sinkEvent _ _ _
  | .noBuffer _ | .streamErrorReport _ | .finalize => isTrue trivial

/-- What is known of the two runs at every moment. -/
structure RunTogether (both : BothRuns) : Prop where
  known : StreamsKnown both.off
  unmetered : both.off.data.getMetrics = false
  related : Alike both.off both.on ∨ CutOff both.off both.on

private theorem alike_undisturbed {off on : GstKvsSink} (alike : Alike off on) : Undisturbed ⟨off, on⟩ where
  frames := alike.observed Call.submitted fun _ _ => rfl
  returns := alike.observed Call.returned fun _ _ => rfl
  releases := congrArg List.length (alike.observed Call.released fun _ _ => rfl)
  timeline := alike.same GstKvsSink.timeline fun _ _ _ _ => rfl

private theorem cut_off_disturbed {off on : GstKvsSink} (cut : CutOff off on) : ¬ Undisturbed ⟨off, on⟩ := by
  intro undisturbed
  have returns : on.returns = off.returns := undisturbed.returns
  exact absurd cut.2 (by rw [returns]; exact Nat.lt_irrefl _)

/-- Only the property itself changes whether metrics are asked for. -/
theorem other_inputs_keep_metrics (pic : Pic) (sink : GstKvsSink) (other : input.setsMetrics = false) :
    (applyInput pic sink input).data.getMetrics = sink.data.getMetrics := by
  have session {before after : GstKvsSink} (same : after.sessionPart = before.sessionPart) :
      after.data.getMetrics = before.data.getMetrics := congrArg (·.data.getMetrics) same
  have padless {before after : GstKvsSink} (same : after.padlessPart = before.padlessPart) :
      after.data.getMetrics = before.data.getMetrics := congrArg (·.data.getMetrics) same
  cases input with
  | buffer pad buffer outcome => exact session (buffer_from_pad_keeps_session pic sink pad buffer outcome)
  | noBuffer outcome => exact session (buffer_keeps_session pic sink none outcome)
  | changeState transition outcome =>
    exact congrArg (·.data.getMetrics) (change_state_keeps_unmoved pic sink transition outcome)
  | requestNewPad templ added => exact padless (request_keeps_padless sink templ added)
  | releasePad pad removed => exact padless (release_keeps_padless sink pad removed)
  | setProperty property =>
    cases property with
    | getKvsMetrics value => cases other
    | _ => rfl
  | sinkEvent pad event outcome =>
    obtain ⟨_, _, _, _, changed, _, _⟩ := sink_event_changes sink pad event outcome
    simp only [applyInput, changed]
  | streamErrorReport status => exact session (error_report_keeps_session pic sink status)
  | finalize =>
    obtain ⟨_, _, _, changed, _⟩ := finalize_changes sink
    simp only [applyInput, changed]

/-- A run that has been cut off stays so. -/
theorem cut_off_stays {off on : GstKvsSink} (cut : CutOff off on) (accepted : step pic off input = some next) :
    (step pic on input).getD on = on ∧ CutOff next on := by
  obtain ⟨_, rfl⟩ := step_eq_some.mp accepted
  have stuck : accepts on input = false := by
    cases input <;> simp [accepts, cut.1]
  have stays : step pic on input = none := by simp [step, stuck]
  refine ⟨by rw [stays]; rfl, cut.1, ?_⟩
  obtain ⟨added, made, _⟩ := input_calls pic off input
  have grown : (applyInput pic off input).returns = off.returns ++ added.filterMap Call.returned := by
    unfold GstKvsSink.returns
    rw [made, List.filterMap_append]
  have before := cut.2
  rw [grown, List.length_append]
  omega

/-- One input for two runs that are alike. -/
theorem input_fares {off on : GstKvsSink} (alike : Alike off on) (known : StreamsKnown off)
    (unmetered : off.data.getMetrics = false) (other : input.setsMetrics = false)
    (admitted : accepts off input = true) :
    Fares (MetricsArrive pic ⟨off, on⟩ input) (applyInput pic off input) (applyInput pic on input) := by
  have found (pad : PadId) := alike.same (·.trackOf pad) fun _ _ _ _ => rfl
  cases input with
  | buffer pad buffer outcome =>
    obtain ⟨stream, held⟩ := known.held (buffer_outside_null admitted)
    simp only [accepts, GstKvsSink.padDelivers, Bool.and_eq_true, Bool.not_eq_true', Option.any_eq_true]
      at admitted
    obtain ⟨⟨alive, _⟩, _, track, here, _⟩ := admitted
    have hereToo : on.trackOf pad = some track := (found pad).trans here
    have arrive : MetricsArrive pic ⟨off, on⟩ (.buffer pad buffer outcome) ↔
        MetricsCome pic on track buffer outcome := by
      simp [MetricsArrive, hereToo]
    unfold Fares
    simp only [arrive, applyInput, bufferFromPad, here, hereToo]
    exact buffer_fares alike unmetered held alive pic track buffer outcome
  | noBuffer outcome =>
    simp only [accepts, Bool.and_eq_true, Bool.not_eq_true'] at admitted
    have running : off.state ≠ .null := by
      intro null
      simp [null, GstState.streaming] at admitted
    obtain ⟨stream, held⟩ := known.held running
    exact .inl ⟨trivial, no_buffer_alike alike held admitted.1.1 pic outcome⟩
  | requestNewPad templ added => exact .inl ⟨trivial, request_alike alike templ added⟩
  | releasePad pad removed => exact .inl ⟨trivial, release_alike alike pad removed⟩
  | setProperty property =>
    refine .inl ⟨trivial, set_property_alike alike ?_⟩
    rintro value rfl
    cases other
  | changeState transition outcome => exact .inl ⟨trivial, change_state_alike alike pic transition outcome⟩
  | sinkEvent pad event outcome => exact .inl ⟨trivial, sink_event_alike alike pad event outcome⟩
  | streamErrorReport status => exact .inl ⟨trivial, report_alike alike pic status⟩
  | finalize => exact .inl ⟨trivial, finalize_alike alike⟩

private theorem both_step_cases (accepted : bothStep pic both input = some next) :
    input.setsMetrics = false ∧ step pic both.off input = some next.off ∧
      next.on = (step pic both.on input).getD both.on := by
  unfold bothStep at accepted
  split at accepted
  · cases accepted
  · rename_i other
    obtain ⟨off, ran, rfl⟩ := Option.map_eq_some_iff.mp accepted
    exact ⟨by simpa using other, ran, rfl⟩

/-- One input for the two runs: they stay alike if the metrics arrive, and the
one that asks for them is cut off if they do not. -/
theorem both_step_fares (together : RunTogether both) (accepted : bothStep pic both input = some next) :
    RunTogether next ∧ (Alike both.off both.on → Fares (MetricsArrive pic both input) next.off next.on) := by
  obtain ⟨other, ran, stays⟩ := both_step_cases accepted
  have known := step_keeps_streams_known together.known ran
  have fares (alike : Alike both.off both.on) : Fares (MetricsArrive pic both input) next.off next.on := by
    obtain ⟨admitted, offNext⟩ := step_eq_some.mp ran
    have admittedToo : accepts both.on input = true :=
      (alike.same (accepts · input) fun _ _ _ _ => by cases input <;> rfl).trans admitted
    rw [step_eq_some.mpr ⟨admittedToo, rfl⟩] at stays
    rw [stays, ← offNext]
    exact input_fares alike together.known together.unmetered other admitted
  refine ⟨⟨known, ?_, ?_⟩, fares⟩
  · obtain ⟨_, offNext⟩ := step_eq_some.mp ran
    rw [← offNext, other_inputs_keep_metrics pic both.off other]
    exact together.unmetered
  · rcases together.related with alike | cut
    · exact (fares alike).imp (·.2) (·.2)
    · obtain ⟨stuck, still⟩ := cut_off_stays cut ran
      rw [stays, stuck]
      exact .inr still

/-- The runs are undisturbed after a step exactly if its metrics arrive. -/
theorem undisturbed_step (together : RunTogether both) (undisturbed : Undisturbed both)
    (accepted : bothStep pic both input = some next) :
    Undisturbed next ↔ MetricsArrive pic both input := by
  have alike : Alike both.off both.on := by
    rcases together.related with alike | cut
    · exact alike
    · exact absurd undisturbed (cut_off_disturbed cut)
  rcases (both_step_fares together accepted).2 alike with ⟨arrive, still⟩ | ⟨missing, cut⟩
  · exact ⟨fun _ => arrive, fun _ => alike_undisturbed still⟩
  · exact ⟨fun still => absurd still (cut_off_disturbed cut), fun arrive => absurd arrive missing⟩

private theorem both_runs_alike (sink : GstKvsSink) : Alike sink.bothRuns.off sink.bothRuns.on :=
  ⟨true, sink.data.onFirstFrame, sink.calls, rfl, rfl⟩

/-! ## Every buffer is given back -/

def Input.isBuffer : Input → Bool
  | .buffer _ _ _ => true
  | _ => false

private theorem clean_up_releases (sink : GstKvsSink) (arrived : Bool) (status : Status) (ret : GstFlowReturn) :
    (cleanUpBuffer sink arrived status ret).releases = sink.releases + arrived.toNat := by
  unfold cleanUpBuffer GstKvsSink.releases
  cases arrived <;> cases statusFailed status <;> simp [List.filterMap_cons, Call.released]

private theorem releases_log (sink : GstKvsSink) (call : Call) (other : call.released = none) :
    (sink.log call).releases = sink.releases := by
  unfold GstKvsSink.releases
  rw [log_calls, List.filterMap_append]
  simp [other]

/-- Without metrics a buffer that the gate lets through is given back. -/
theorem arrived_releases (unmetered : sink.data.getMetrics = false)
    (held : sink.data.kinesisVideoStream = some stream) (track : GstKvsSinkTrackData) (buffer : GstBuffer)
    (outcome : BufferOutcome) :
    (handleArrivedBuffer sink track buffer outcome).releases = sink.releases + 1 := by
  have submitted (settled : GstBuffer) :
      (submitBuffer (sink.noteDts settled) track settled outcome).releases = sink.releases + 1 := by
    have session := anchored_keeps_session (sink.noteDts settled) track
      (settled.flagIsSet bufferFlagDeltaUnit) settled outcome.now
    have calls := anchored_calls (sink.noteDts settled) track (settled.flagIsSet bufferFlagDeltaUnit)
      settled outcome.now
    simp only [submitBuffer]
    generalize anchorTimeline (noteVideoKeyFrame (sink.noteDts settled) track
      (settled.flagIsSet bufferFlagDeltaUnit)) settled outcome.now = anchored at session calls
    have still : anchored.1.data.getMetrics = false :=
      (congrArg (·.data.getMetrics) session : _ = sink.data.getMetrics).trans unmetered
    obtain ⟨put, _⟩ := put_frame_alike (.refl anchored.1) still ((session_stream session).trans held)
      anchored.2.bytes anchored.2.pts anchored.2.dts (frameFlagsOf (sink.noteDts settled).data.mediaType
        track.trackType (settled.flagIsSet bufferFlagDeltaUnit)) track.trackId anchored.1.data.frameCount
      outcome
    have before : anchored.1.releases = sink.releases := by
      unfold GstKvsSink.releases
      rw [calls]
      rfl
    rw [put, ← before]
    refine (clean_up_releases ..).trans ?_
    exact congrArg (· + 1) (releases_log anchored.1 _ rfl)
  unfold handleArrivedBuffer
  split
  · exact clean_up_releases ..
  · simp only
    split
    · exact clean_up_releases ..
    · exact submitted _

private theorem buffer_releases (unmetered : sink.data.getMetrics = false)
    (held : sink.data.kinesisVideoStream = some stream) (alive : sink.crashed = false) (pic : Pic)
    (track : GstKvsSinkTrackData) (buffer : GstBuffer) (outcome : BufferOutcome) :
    (gstKvsSinkHandleBuffer pic sink (some (track, buffer)) outcome).releases = sink.releases + 1 := by
  have arrived : (sink.log .bufferArrived).releases = sink.releases := releases_log sink _ rfl
  cases passed : streamErrorGate pic sink.streamingType sink.data.streamStatus with
  | fatal =>
    rw [handler_fails passed, ← arrived]
    refine (clean_up_releases ..).trans ?_
    rw [releases_log _ _ rfl]
    rfl
  | proceed =>
    have still : (sink.log .bufferArrived).data.getMetrics = false := unmetered
    have heldStill : (sink.log .bufferArrived).data.kinesisVideoStream = some stream := held
    rw [handler_proceeds passed, ← arrived]
    exact arrived_releases still heldStill track buffer outcome
  | reset =>
    have reset := releases_log (sink.log .bufferArrived) (.resetStream stream outcome.resetDone) rfl
    have still : (clearStreamStatus ((sink.log .bufferArrived).log
      (.resetStream stream outcome.resetDone))).data.getMetrics = false := unmetered
    have heldStill : (clearStreamStatus ((sink.log .bufferArrived).log
      (.resetStream stream outcome.resetDone))).data.kinesisVideoStream = some stream := held
    have released := arrived_releases still heldStill track buffer outcome
    rw [handler_resets passed held alive, ← arrived, ← reset]
    exact released

private theorem no_buffer_releases (held : sink.data.kinesisVideoStream = some stream)
    (alive : sink.crashed = false) (pic : Pic) (outcome : BufferOutcome) :
    (gstKvsSinkHandleBuffer pic sink none outcome).releases = sink.releases := by
  have arrived : (sink.log .bufferArrived).releases = sink.releases := releases_log sink _ rfl
  cases passed : streamErrorGate pic sink.streamingType sink.data.streamStatus with
  | fatal =>
    rw [handler_fails passed, ← arrived]
    exact (clean_up_releases ..).trans (releases_log _ _ rfl)
  | proceed =>
    rw [handler_proceeds passed, ← arrived]
    exact clean_up_releases ..
  | reset =>
    have reset := releases_log (sink.log .bufferArrived) (.resetStream stream outcome.resetDone) rfl
    rw [handler_resets passed held alive, ← arrived, ← reset]
    exact clean_up_releases ..

private theorem other_calls_release_none (made : InputCall sink input call) (other : input.isBuffer = false)
    (arrives : ∀ outcome, input ≠ .noBuffer outcome) : call.released = none := by
  cases made with
  | event found made => cases made <;> rfl
  | buffer => cases other
  | noBuffer => exact absurd rfl (arrives _)
  | late | report | destroyed | stopped => rfl
  | setUp made => cases made <;> rfl

/-- Without metrics exactly the buffers are given back. -/
theorem step_releases (known : StreamsKnown sink) (unmetered : sink.data.getMetrics = false)
    (accepted : step pic sink input = some next) :
    next.releases = sink.releases + (input.isBuffer).toNat := by
  obtain ⟨admitted, rfl⟩ := step_eq_some.mp accepted
  by_cases arrives : input.isBuffer = true ∨ ∃ outcome, input = .noBuffer outcome
  · have running : sink.state ≠ .null := by
      intro null
      rcases arrives with buffer | ⟨outcome, rfl⟩
      · cases input with
        | buffer => exact buffer_outside_null admitted null
        | _ => cases buffer
      · simp [accepts, null, GstState.streaming] at admitted
    obtain ⟨stream, held⟩ := known.held running
    rcases arrives with arrival | ⟨outcome, rfl⟩
    · cases input with
      | buffer pad buffer outcome =>
        simp only [accepts, GstKvsSink.padDelivers, Bool.and_eq_true, Bool.not_eq_true',
          Option.any_eq_true] at admitted
        obtain ⟨⟨alive, _⟩, _, track, here, _⟩ := admitted
        simp only [applyInput, bufferFromPad, here]
        exact buffer_releases unmetered held alive pic track buffer outcome
      | _ => cases arrival
    · simp only [accepts, Bool.and_eq_true, Bool.not_eq_true'] at admitted
      exact no_buffer_releases held admitted.1.1 pic outcome
  · simp only [not_or, not_exists, Bool.not_eq_true] at arrives
    obtain ⟨added, made, kinds⟩ := input_calls pic sink input
    have nothing : added.filterMap Call.released = [] := List.filterMap_eq_nil_iff.mpr fun call member =>
      other_calls_release_none (kinds call member) arrives.1 arrives.2
    unfold GstKvsSink.releases
    rw [made, List.filterMap_append, nothing, List.append_nil, arrives.1]
    rfl

theorem both_runs_release (together : RunTogether both) (ran : run (bothStep pic) both inputs = some final) :
    final.off.releases = both.off.releases + inputs.countP Input.isBuffer := by
  induction inputs generalizing both with
  | nil =>
    cases ran
    rfl
  | cons input rest ih =>
    obtain ⟨next, accepted, ran⟩ := Option.bind_eq_some_iff.mp ran
    have released := step_releases together.known together.unmetered (both_step_cases accepted).2.1
    rw [ih (both_step_fares together accepted).1 ran, released, List.countP_cons]
    cases input.isBuffer <;> simp
    omega

/-- **Metrics and the stream.** Of two runs of an element with the same inputs,
the one with metrics streams as the one without, whichever metrics can be read
elsewhere, exactly as long as those that a put asks for can be. The run without
gives every buffer back. -/
theorem metrics_leave_stream_undisturbed (reached : runFromInit pic now earlier = some sink) :
    (Throughout (bothStep pic) Undisturbed sink.bothRuns inputs ↔
      EachStep (bothStep pic) (MetricsArrive pic) sink.bothRuns inputs) ∧
    ∀ final, run (bothStep pic) sink.bothRuns inputs = some final →
      final.off.releases = sink.releases + inputs.countP Input.isBuffer := by
  have known := reachable_streams_known reached
  have together : RunTogether sink.bothRuns :=
    ⟨⟨known.held, known.below, known.used⟩, rfl, .inl (both_runs_alike sink)⟩
  constructor
  · apply @throughout_iff_each_step _ _ _ _ _ RunTogether
    · exact fun _ _ _ together accepted => (both_step_fares together accepted).1
    · exact fun _ _ _ together undisturbed accepted => undisturbed_step together undisturbed accepted
    · exact together
    · exact alike_undisturbed (both_runs_alike sink)
  · exact fun final ran => both_runs_release together ran

/-- A key frame, a frame whose put fails, and one with metrics that cannot be read. -/
def measuredBuffers (read : Bool) : List Input :=
  [.buffer 0 ⟨0, 700, 0, [1]⟩ {}, .buffer 0 ⟨0, 800, 0, [2]⟩ { putStatus := 7, streamMetricsRead := false },
    .buffer 0 ⟨0, 900, 0, [3]⟩ { clientMetricsRead := read }]

theorem failed_put_asks_for_no_metrics :
    ∃ sink, runFromInit .sample 0 (.requestNewPad .video true :: upTo fun _ => some [h264Caps]) = some sink ∧
      Throughout (bothStep .sample) Undisturbed sink.bothRuns (measuredBuffers true) := by
  have evaluated : (runFromInit .sample 0
      (.requestNewPad .video true :: upTo fun _ => some [h264Caps])).map (fun sink => decide
        (EachStep (bothStep .sample) (MetricsArrive .sample) sink.bothRuns (measuredBuffers true))) =
      some true := by decide
  obtain ⟨sink, reached, arrive⟩ := Option.map_eq_some_iff.mp evaluated
  exact ⟨sink, reached, (metrics_leave_stream_undisturbed reached).1.mpr (of_decide_eq_true arrive)⟩

/-- The last of these buffers is lost to the run with metrics, and so is the next. -/
theorem unread_metrics_end_the_stream :
    ((runFromInit .sample 0 (.requestNewPad .video true :: upTo fun _ => some [h264Caps])).bind fun sink =>
      (run (bothStep .sample) sink.bothRuns
        (measuredBuffers false ++ [.buffer 0 ⟨0, 1000, 0, [4]⟩ {}])).map fun both =>
          [(both.off.returns.length, both.off.frames.length, both.off.releases, both.off.data.frameCount),
            (both.on.returns.length, both.on.frames.length, both.on.releases, both.on.data.frameCount)]) =
      some [(4, 4, 4, 4), (2, 3, 2, 2)] := by decide

end KvsProducer
