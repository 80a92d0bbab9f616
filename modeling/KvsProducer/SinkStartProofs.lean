import KvsProducer.History
import KvsProducer.SinkStart

/-! What starting a session can change. The stages of NULL_TO_READY are
followed once, with their early exits, and the facts later proofs need are
collected per stage: what stays, which calls are made, which stream is held. -/
namespace KvsProducer
open Gst GLib History KvsSinkUtil

/-- The sink without the fields that a state change writes. -/
def GstKvsSink.lastingPart (sink : GstKvsSink) : GstKvsSink :=
  { sink with
    collect := [], contentType := none, codecId := none, trackName := none, audioCodecId := none
    trackInfoType := .video, keyFrameFragmentation := true, absoluteFragmentTimes := true
    framerate := 0
    data := { sink.data with
      kinesisVideoProducer := none, kinesisVideoStream := none, frameCount := 0, ptsBase := 0
      firstPts := gstClockTimeNone, producerStartTime := gstClockTimeNone }
    dataUseCount := 0, heap := {}, nextProducer := 0, nextStream := 0
    calls := []
    crashed := false }

/-- The calls that starting a session can make. -/
inductive SetUpCall : Call → Prop where
  | createSync : SetUpCall (.createSync producer device)
  | destroyProducer : SetUpCall (.destroyProducer producer)
  | createStreamSync : SetUpCall (.createStreamSync producer definition stream)
  | error : SetUpCall (.elementError error)

/-- Tracks whose ids were written for this media type, or not yet. -/
def Renumbered (mediaType : MediaType) : List GstKvsSinkTrackData → List GstKvsSinkTrackData → Prop :=
  List.Forall₂ fun before after => after = before ∨ after = initTrackId mediaType before

theorem Renumbered.refl (mediaType : MediaType) (tracks : List GstKvsSinkTrackData) :
    Renumbered mediaType tracks tracks :=
  List.forall₂_same.mpr fun _ _ => .inl rfl

private theorem init_track_id_twice (mediaType : MediaType) (track : GstKvsSinkTrackData) :
    initTrackId mediaType (initTrackId mediaType track) = initTrackId mediaType track := by
  obtain ⟨pad, eos, trackType, trackId⟩ := track
  cases mediaType <;> cases trackType <;> rfl

theorem Renumbered.trans (first : Renumbered mediaType before middle)
    (second : Renumbered mediaType middle after) : Renumbered mediaType before after := by
  induction first generalizing after with
  | nil => cases second; exact .nil
  | cons here _ ih =>
    cases second with
    | cons there rest =>
      refine .cons ?_ (ih rest)
      rcases here with rfl | rfl <;> rcases there with rfl | rfl
      · exact .inl rfl
      · exact .inr rfl
      · exact .inr rfl
      · exact .inr (init_track_id_twice _ _)

/-- Pads keep their entries, whatever their ids become. -/
theorem Renumbered.pads (numbered : Renumbered mediaType before after) :
    after.map (·.pad) = before.map (·.pad) := by
  induction numbered with
  | nil => rfl
  | @cons old new _ _ here _ ih =>
    have same : new.pad = old.pad := by
      rcases here with rfl | rfl
      · rfl
      · unfold initTrackId
        split <;> rfl
    simp only [List.map_cons, ih, same]

/-! ## The producer -/

/-- A set-up that did not lead to a new stream: the stream that is held, and the
number of the next one, are as before. -/
structure NotStarted (before after : GstKvsSink) : Prop where
  lasting : after.lastingPart = before.lastingPart
  tracks : Renumbered before.data.mediaType before.collect after.collect
  stream : after.data.kinesisVideoStream = before.data.kinesisVideoStream
  nextStream : after.nextStream = before.nextStream
  calls : Grows SetUpCall before.calls after.calls

/-- What the stages before the stream leave alone. -/
structure KeepsStream (before after : GstKvsSink) : Prop extends NotStarted before after where
  crashed : after.crashed = before.crashed

private theorem media_type_lasts (lasting : GstKvsSink.lastingPart after = GstKvsSink.lastingPart before) :
    after.data.mediaType = before.data.mediaType := congrArg (·.data.mediaType) lasting

/-- A stage that adds a call of setting up, at most, and touches no track. -/
theorem KeepsStream.of_calls (lasting : GstKvsSink.lastingPart after = GstKvsSink.lastingPart before)
    (collect : after.collect = before.collect)
    (stream : after.data.kinesisVideoStream = before.data.kinesisVideoStream)
    (nextStream : after.nextStream = before.nextStream) (crashed : after.crashed = before.crashed)
    (calls : Grows SetUpCall before.calls after.calls) : KeepsStream before after :=
  ⟨⟨lasting, collect ▸ .refl _ _, stream, nextStream, calls⟩, crashed⟩

theorem KeepsStream.refl (sink : GstKvsSink) : KeepsStream sink sink :=
  .of_calls rfl rfl rfl rfl rfl (.refl _)

theorem NotStarted.trans (first : NotStarted before middle) (second : NotStarted middle after) :
    NotStarted before after :=
  ⟨second.lasting.trans first.lasting,
    first.tracks.trans (media_type_lasts first.lasting ▸ second.tracks),
    second.stream.trans first.stream, second.nextStream.trans first.nextStream,
    first.calls.trans second.calls⟩

theorem KeepsStream.trans (first : KeepsStream before middle) (second : KeepsStream middle after) :
    KeepsStream before after :=
  ⟨first.toNotStarted.trans second.toNotStarted, second.crashed.trans first.crashed⟩

private theorem destroy_producer_keeps_stream (sink : GstKvsSink) (producer : Option ProducerId) :
    KeepsStream sink (destroyProducer sink producer) := by
  cases producer with
  | none => exact .refl sink
  | some producer => exact .of_calls rfl rfl rfl rfl rfl (.snoc .destroyProducer _)

private theorem created_keeps_stream (sink : GstKvsSink) (device : KvsSinkDeviceInfoProvider) :
    KeepsStream sink (sink.log (.createSync sink.nextProducer device)) :=
  .of_calls rfl rfl rfl rfl rfl (.snoc .createSync _)

private theorem replaced_keeps_stream (sink : GstKvsSink) (old new : Option ProducerId) (next : ProducerId) :
    KeepsStream sink { destroyProducer sink old with
      data := { (destroyProducer sink old).data with kinesisVideoProducer := new }
      nextProducer := next } :=
  (destroy_producer_keeps_stream sink old).trans (.of_calls rfl rfl rfl rfl rfl (.refl _))

/-- The sink with a new producer, behind the assignment that destroys the old one. -/
def GstKvsSink.renewed (sink : GstKvsSink) : GstKvsSink :=
  let held := { sink with dataUseCount := sink.dataUseCount + 1 }
  let created := held.log (.createSync held.nextProducer
    ⟨sink.storageSize, sink.stopStreamTimeout, sink.serviceConnectionTimeout,
      sink.serviceCompletionTimeout⟩)
  let replaced := destroyProducer created sink.data.kinesisVideoProducer
  { replaced with
    data := { replaced.data with kinesisVideoProducer := some held.nextProducer }
    nextProducer := held.nextProducer + 1 }

/-- The ways `kinesis_video_producer_init` ends. Short of a new producer it leaves
the sink as it was. -/
inductive ProducerInitEnd (sink : GstKvsSink) (outcome : ChangeStateOutcome) :
    GstKvsSink × Except Raised Unit → Prop where
  | unnamed (named : sink.streamName = none) (caught : raised ≠ .uncaught) :
      ProducerInitEnd sink outcome (sink, .error raised)
  | noCredentials (named : sink.streamName = some name) (chosen : outcome.credentials = .error raised) :
      ProducerInitEnd sink outcome (sink, .error raised)
  | noUserAgent (chosen : outcome.credentials = .ok ()) (agent : sink.userAgent = none)
      (caught : raised ≠ .uncaught) : ProducerInitEnd sink outcome (sink, .error raised)
  | noClient (chosen : outcome.credentials = .ok ()) (client : statusFailed outcome.clientStatus = true) :
      ProducerInitEnd sink outcome (sink, .error (.runtimeError what))
  | produced (named : sink.streamName = some name) (chosen : outcome.credentials = .ok ())
      (agent : sink.userAgent = some userAgent) (client : statusFailed outcome.clientStatus = false) :
      ProducerInitEnd sink outcome (sink.renewed, .ok ())

theorem producer_init_ends (sink : GstKvsSink) (outcome : ChangeStateOutcome) :
    ProducerInitEnd sink outcome (kinesisVideoProducerInit sink outcome) := by
  unfold kinesisVideoProducerInit
  split <;> rename_i named
  · exact .unnamed (throw_if_null_error named) (throw_if_null_caught named)
  · split <;> rename_i chosen
    · exact .noCredentials (throw_if_null_ok named) chosen
    · split <;> rename_i agent
      · exact .noUserAgent chosen (throw_if_null_error agent) (throw_if_null_caught agent)
      · split <;> rename_i client
        · exact .noClient chosen client
        · exact .produced (throw_if_null_ok named) chosen (throw_if_null_ok agent)
            (Bool.eq_false_iff.mpr client)

theorem producer_init_keeps_stream (sink : GstKvsSink) (outcome : ChangeStateOutcome) :
    KeepsStream sink (kinesisVideoProducerInit sink outcome).1 := by
  have ends := producer_init_ends sink outcome
  generalize kinesisVideoProducerInit sink outcome = finished at ends
  cases ends with
  | unnamed | noCredentials | noUserAgent | noClient => exact .refl sink
  | produced =>
    have counted : KeepsStream sink { sink with dataUseCount := sink.dataUseCount + 1 } :=
      .of_calls rfl rfl rfl rfl rfl (.refl _)
    have created := counted.trans
      (created_keeps_stream { sink with dataUseCount := sink.dataUseCount + 1 }
        ⟨sink.storageSize, sink.stopStreamTimeout, sink.serviceConnectionTimeout,
          sink.serviceCompletionTimeout⟩)
    exact created.trans (replaced_keeps_stream _ sink.data.kinesisVideoProducer _ _)

private theorem store_content_type_keeps_stream (sink : GstKvsSink) (video audio : GCharPtr) :
    KeepsStream sink (storeContentType sink video audio) := by
  unfold storeContentType
  split <;> exact .of_calls rfl rfl rfl rfl rfl (.refl _)

private theorem init_tracks_renumber (pic : Pic) (streamName : String) (mediaType : MediaType)
    (allowedCaps : PadId → Option GstCaps) (tracks : List GstKvsSinkTrackData) (scan : TrackScan) :
    Renumbered mediaType tracks (initTracks pic streamName mediaType allowedCaps tracks scan).1 := by
  induction tracks generalizing scan with
  | nil => exact .nil
  | cons track rest ih =>
    unfold initTracks
    split
    split
    · exact .cons (.inr rfl) (Renumbered.refl mediaType rest)
    · exact .cons (.inr rfl) (ih _)

/-- What the walk over the tracks writes. -/
def GstKvsSink.storing (sink : GstKvsSink) (collect : List GstKvsSinkTrackData) (heap : Heap)
    (contentType codecId audioCodecId : GCharPtr) : GstKvsSink :=
  { sink with collect, heap, contentType, codecId, audioCodecId }

theorem track_data_changes (pic : Pic) (sink : GstKvsSink) (outcome : ChangeStateOutcome) :
    ∃ collect heap contentType codecId audioCodecId, (initTrackData pic sink outcome).1 =
      sink.storing collect heap contentType codecId audioCodecId := by
  unfold initTrackData
  split
  split
  · exact ⟨_, _, _, _, _, rfl⟩
  · simp only [storeContentType]
    split <;> exact ⟨_, _, _, _, _, rfl⟩

private theorem init_track_data_keeps_stream (pic : Pic) (sink : GstKvsSink) (outcome : ChangeStateOutcome) :
    KeepsStream sink (initTrackData pic sink outcome).1 := by
  have renumbered := init_tracks_renumber pic (sink.streamName.getD "") sink.data.mediaType
    outcome.allowedCaps sink.collect
    { heap := sink.heap, codecId := sink.codecId, audioCodecId := sink.audioCodecId }
  have walked (tracks : List GstKvsSinkTrackData) (scan : TrackScan)
      (numbered : Renumbered sink.data.mediaType sink.collect tracks) : KeepsStream sink { sink with
        collect := tracks, heap := scan.heap, codecId := scan.codecId
        audioCodecId := scan.audioCodecId } := ⟨⟨rfl, numbered, rfl, rfl, .refl _⟩, rfl⟩
  unfold initTrackData
  split
  rename_i scanned
  rw [scanned] at renumbered
  split
  · exact walked _ _ renumbered
  · exact (walked _ _ renumbered).trans (store_content_type_keeps_stream _ _ _)

/-! ## The stream -/

/-- The start time of a file settles two fields. -/
theorem file_start_time_changes (sink : GstKvsSink) :
    ∃ absoluteFragmentTimes ptsBase, applyFileStartTime sink =
      { sink with absoluteFragmentTimes, data := { sink.data with ptsBase } } := by
  unfold applyFileStartTime
  split
  · exact ⟨_, _, rfl⟩
  · exact ⟨_, _, rfl⟩

/-- What preparing an attempt writes. -/
def GstKvsSink.preparing (sink : GstKvsSink) (absoluteFragmentTimes : Bool) (ptsBase : UInt64)
    (codecId trackName : GCharPtr) (trackInfoType : MkvTrackInfoType) (keyFrameFragmentation : Bool)
    (framerate : UInt32) (heap : Heap) : GstKvsSink :=
  { sink with
    absoluteFragmentTimes, codecId, trackName, trackInfoType, keyFrameFragmentation, framerate, heap
    data := { sink.data with ptsBase } }

theorem prepared_changes (sink : GstKvsSink) :
    ∃ absoluteFragmentTimes ptsBase codecId trackName trackInfoType keyFrameFragmentation framerate heap,
      applyMediaType (applyFileStartTime sink) = sink.preparing absoluteFragmentTimes ptsBase codecId
        trackName trackInfoType keyFrameFragmentation framerate heap := by
  obtain ⟨absoluteFragmentTimes, ptsBase, timed⟩ := file_start_time_changes sink
  rw [timed]
  unfold applyMediaType
  split <;> exact ⟨_, _, _, _, _, _, _, _, rfl⟩

theorem media_type_keeps_stream (sink : GstKvsSink) :
    KeepsStream sink (applyMediaType (applyFileStartTime sink)) := by
  obtain ⟨_, _, _, _, _, _, _, _, changed⟩ := prepared_changes sink
  rw [changed]
  exact .of_calls rfl rfl rfl rfl rfl (.refl _)

/-- A successful creation holds the next stream. -/
structure CreatesStream (before after : GstKvsSink) : Prop where
  lasting : after.lastingPart = before.lastingPart
  tracks : Renumbered before.data.mediaType before.collect after.collect
  stream : after.data.kinesisVideoStream = some before.nextStream
  nextStream : after.nextStream = before.nextStream + 1
  crashed : after.crashed = before.crashed
  calls : Grows SetUpCall before.calls after.calls

theorem KeepsStream.creates (first : KeepsStream before middle) (second : CreatesStream middle after) :
    CreatesStream before after :=
  ⟨second.lasting.trans first.lasting,
    first.tracks.trans (media_type_lasts first.lasting ▸ second.tracks),
    first.nextStream ▸ second.stream, first.nextStream ▸ second.nextStream,
    second.crashed.trans first.crashed, first.calls.trans second.calls⟩

/-- The ways `createStreamSync` ends: with nobody to ask, refused, or with a new stream. -/
inductive CreateSyncEnd (pic : Pic) (sink : GstKvsSink) (definition : StreamDefinition) :
    GstKvsSink × Except Raised StreamId → Prop where
  | noProducer (missing : sink.data.kinesisVideoProducer = none) :
      CreateSyncEnd pic sink definition (sink, .error .uncaught)
  | refused (held : sink.data.kinesisVideoProducer = some producer) :
      CreateSyncEnd pic sink definition
        (sink.log (.createStreamSync producer definition none), .error (.runtimeError what))
  | created (held : sink.data.kinesisVideoProducer = some producer)
      (few : definition.getTrackCount ≤ pic.maxSupportedTrackCountPerStream) :
      CreateSyncEnd pic sink definition
        ({ sink.log (.createStreamSync producer definition (some sink.nextStream)) with
          nextStream := sink.nextStream + 1 }, .ok sink.nextStream)

theorem create_sync_ends (pic : Pic) (sink : GstKvsSink) (definition : StreamDefinition) (status : Status) :
    CreateSyncEnd pic sink definition (createStreamSync pic sink definition status) := by
  unfold createStreamSync
  split <;> rename_i held
  · exact .noProducer held
  · split <;> rename_i tracks
    · exact .refused held
    · split
      · exact .refused held
      · exact .created held (Nat.not_lt.mp tracks)

private theorem create_stream_cases
    (created : createKinesisVideoStream pic sink residue status = (after, result)) :
    (result = .ok () ∧ CreatesStream sink after) ∨
      ((∃ raised, result = .error raised) ∧ KeepsStream sink after) := by
  have prepared := media_type_keeps_stream sink
  unfold createKinesisVideoStream at created
  generalize applyMediaType (applyFileStartTime sink) = ready at created prepared
  have withHeap (heap : Heap) : KeepsStream sink { ready with heap } :=
    prepared.trans (.of_calls rfl rfl rfl rfl rfl (.refl _))
  simp only at created
  split at created
  · cases created
    exact .inr ⟨⟨_, rfl⟩, withHeap _⟩
  · rename_i heap definition _
    have ends := create_sync_ends pic { ready with heap } definition status
    split at created <;> rename_i asked <;> cases created <;> rw [asked] at ends
    · cases ends with
      | noProducer => exact .inr ⟨⟨_, rfl⟩, withHeap heap⟩
      | refused =>
        exact .inr ⟨⟨_, rfl⟩, (withHeap heap).trans
          (.of_calls rfl rfl rfl rfl rfl (.snoc .createStreamSync _))⟩
    · cases ends with
      | created => exact .inl ⟨rfl, (withHeap heap).creates
          ⟨rfl, .refl _ _, rfl, rfl, rfl, .snoc .createStreamSync _⟩⟩

/-- A round of the loop is the last one, or fails in a way that is tried again. -/
theorem init_loop_round
    (ran : kinesisVideoStreamInitLoop pic outcome (retryCount + 1) sink = (after, result)) :
    ∃ status, createKinesisVideoStream pic sink outcome.residue status = (after, result) ∨
      ∃ tried what, createKinesisVideoStream pic sink outcome.residue status =
          (tried, .error (.runtimeError what)) ∧
        kinesisVideoStreamInitLoop pic outcome retryCount tried = (after, result) := by
  unfold kinesisVideoStreamInitLoop at ran
  split at ran <;> rename_i attempt
  · cases ran
    exact ⟨_, .inl attempt⟩
  · split at ran
    · cases ran
      exact ⟨_, .inl attempt⟩
    · exact ⟨_, .inr ⟨_, _, attempt, ran⟩⟩
  · cases ran
    exact ⟨_, .inl attempt⟩

/-- What every attempt keeps is true after all of them. -/
theorem attempts_keep (kept : GstKvsSink → Prop)
    (keeps : ∀ before after status result, kept before →
      createKinesisVideoStream pic before outcome.residue status = (after, result) → kept after)
    (started : kept sink)
    (ran : kinesisVideoStreamInitLoop pic outcome retryCount sink = (after, result)) : kept after := by
  induction retryCount generalizing sink with
  | zero =>
    cases ran
    exact started
  | succ retryCount ih =>
    obtain ⟨_, last | ⟨tried, what, failed, again⟩⟩ := init_loop_round ran
    · exact keeps _ _ _ _ started last
    · exact ih (keeps _ _ _ _ started failed) again

theorem stream_init_loop_cases
    (ran : kinesisVideoStreamInitLoop pic outcome retryCount sink = (after, result)) :
    (result = .ok () ∧ CreatesStream sink after) ∨
      ((∃ raised, result = .error raised) ∧ KeepsStream sink after) := by
  induction retryCount generalizing sink with
  | zero =>
    cases ran
    exact .inr ⟨⟨_, rfl⟩, .refl _⟩
  | succ retryCount ih =>
    obtain ⟨_, last | ⟨tried, what, failed, again⟩⟩ := init_loop_round ran
    · exact create_stream_cases last
    · obtain ⟨impossible, _⟩ | ⟨_, kept⟩ := create_stream_cases failed
      · cases impossible
      · obtain ⟨done, creates⟩ | ⟨failedToo, later⟩ := ih again
        · exact .inl ⟨done, kept.creates creates⟩
        · exact .inr ⟨failedToo, kept.trans later⟩

/-! ## NULL_TO_READY -/

/-- The ways NULL_TO_READY ends: at one of its three stages with an exception, or
behind all of them. -/
inductive NullToReadyEnd (pic : Pic) (sink : GstKvsSink) (outcome : ChangeStateOutcome) :
    GstKvsSink × ChangeStateReturn → Prop where
  | noProducer (initialized : kinesisVideoProducerInit sink outcome = (held, .error raised)) :
      NullToReadyEnd pic sink outcome (failChangeState held message raised)
  | noTracks (initialized : kinesisVideoProducerInit sink outcome = (held, .ok ()))
      (scanned : initTrackData pic held outcome = (walked, .error raised)) :
      NullToReadyEnd pic sink outcome (failChangeState walked message raised)
  | noStream (initialized : kinesisVideoProducerInit sink outcome = (held, .ok ()))
      (scanned : initTrackData pic held outcome = (walked, .ok ()))
      (streamed : kinesisVideoStreamInit pic walked.forgetTimeline outcome = (tried, .error raised)) :
      NullToReadyEnd pic sink outcome (failChangeState tried message raised)
  | started (initialized : kinesisVideoProducerInit sink outcome = (held, .ok ()))
      (scanned : initTrackData pic held outcome = (walked, .ok ()))
      (streamed : kinesisVideoStreamInit pic walked.forgetTimeline outcome = (created, .ok ())) :
      NullToReadyEnd pic sink outcome (created, .success)

/-- What a stage leaves is what it is known to leave. -/
theorem of_stage {kept : GstKvsSink → Prop} {made : GstKvsSink × Result} (stage : kept made.1)
    (ends : made = (after, result)) : kept after := by
  rw [ends] at stage
  exact stage

theorem null_to_ready_ends (pic : Pic) (sink : GstKvsSink) (outcome : ChangeStateOutcome) :
    NullToReadyEnd pic sink outcome (nullToReady pic sink outcome) := by
  unfold nullToReady
  split <;> rename_i initialized
  · exact .noProducer initialized
  · split <;> rename_i scanned
    · exact .noTracks initialized scanned
    · split <;> rename_i streamed
      · exact .noStream initialized scanned streamed
      · exact .started initialized scanned streamed

theorem fail_keeps_stream (sink : GstKvsSink) (message : String) (raised : Raised) :
    NotStarted sink (failChangeState sink message raised).1 ∧
      (failChangeState sink message raised).2 ≠ .success := by
  cases raised with
  | uncaught => exact ⟨⟨rfl, .refl _ _, rfl, rfl, .refl _⟩, nofun⟩
  | internalCheck pointer => exact ⟨⟨rfl, .refl _ _, rfl, rfl, .snoc .error _⟩, nofun⟩
  | runtimeError what => exact ⟨⟨rfl, .refl _ _, rfl, rfl, .snoc .error _⟩, nofun⟩

/-- NULL_TO_READY either succeeds with a fresh stream in hand, or fails and
holds the stream it found. -/
theorem null_to_ready_cases (ran : nullToReady pic sink outcome = (after, result)) :
    (result = .success ∧ CreatesStream sink after) ∨
      (result ≠ .success ∧ NotStarted sink after) := by
  have ends := null_to_ready_ends pic sink outcome
  have produces := producer_init_keeps_stream sink outcome
  have walks (held : GstKvsSink) := init_track_data_keeps_stream pic held outcome
  have forgets (walked : GstKvsSink) : KeepsStream walked walked.forgetTimeline :=
    .of_calls rfl rfl rfl rfl rfl (.refl _)
  -- an exception keeps what the stages before it have kept
  have fails {last : GstKvsSink} {message : String} {raised : Raised} (kept : KeepsStream sink last)
      (failed : failChangeState last message raised = (after, result)) :
      result ≠ .success ∧ NotStarted sink after := by
    have stopped := fail_keeps_stream last message raised
    rw [failed] at stopped
    exact ⟨stopped.2, kept.toNotStarted.trans stopped.1⟩
  rw [ran] at ends
  generalize ended : (after, result) = finished at ends
  cases ends with
  | noProducer initialized => exact .inr (fails (of_stage produces initialized) ended.symm)
  | noTracks initialized scanned =>
    exact .inr (fails ((of_stage produces initialized).trans (of_stage (walks _) scanned)) ended.symm)
  | noStream initialized scanned streamed =>
    have ready := ((of_stage produces initialized).trans (of_stage (walks _) scanned)).trans (forgets _)
    obtain ⟨impossible, _⟩ | ⟨_, kept⟩ := stream_init_loop_cases streamed
    · cases impossible
    · exact .inr (fails (ready.trans kept) ended.symm)
  | started initialized scanned streamed =>
    have ready := ((of_stage produces initialized).trans (of_stage (walks _) scanned)).trans (forgets _)
    cases ended
    obtain ⟨_, creates⟩ | ⟨⟨_, impossible⟩, _⟩ := stream_init_loop_cases streamed
    · exact .inl ⟨rfl, ready.creates creates⟩
    · cases impossible

end KvsProducer
