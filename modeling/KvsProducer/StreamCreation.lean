import KvsProducer.SinkMachineProofs

/-! The stream that a NULL_TO_READY creates. A start that succeeds has passed
three stages, and the definition it declares is the one of its last attempt;
a start that fails declares nothing. -/
namespace KvsProducer
open Gst GLib History Runs

/-- The stream that a call created, and what it was declared with. -/
def Call.declaration : Call → Option (StreamId × StreamDefinition)
  | .createStreamSync _ definition (some stream) => some (stream, definition)
  | _ => none

/-- Every stream the element created, with its definition. -/
def GstKvsSink.declarations (sink : GstKvsSink) : List (StreamId × StreamDefinition) :=
  sink.calls.filterMap Call.declaration

def DeclaresNothing (call : Call) : Prop := call.declaration = none

theorem declarations_of_grows {before after : GstKvsSink}
    (grown : Grows DeclaresNothing before.calls after.calls) :
    after.declarations = before.declarations := by
  obtain ⟨added, made, kinds⟩ := grown
  have nothing : added.filterMap Call.declaration = [] := List.filterMap_eq_nil_iff.mpr kinds
  rw [GstKvsSink.declarations, made, List.filterMap_append, nothing, List.append_nil]
  rfl

theorem create_sync_declares_nothing (producer : ProducerId) (definition : StreamDefinition) :
    DeclaresNothing (.createStreamSync producer definition none) := rfl

theorem error_declares_nothing (error : ElementError) : DeclaresNothing (.elementError error) := rfl

/-! ## One attempt -/

/-- The sink that `create_kinesis_video_stream` declares a stream from. -/
def GstKvsSink.prepared (sink : GstKvsSink) : GstKvsSink := applyMediaType (applyFileStartTime sink)

/-- The sink once a producer created a stream under this definition. -/
def GstKvsSink.created (sink : GstKvsSink) (heap : Heap) (producer : ProducerId)
    (definition : StreamDefinition) : GstKvsSink :=
  GstKvsSink.holdStream { GstKvsSink.log { sink with heap }
    (.createStreamSync producer definition (some sink.nextStream)) with
      nextStream := sink.nextStream + 1 } sink.nextStream

@[simp] theorem created_collect (sink : GstKvsSink) (heap : Heap) (producer : ProducerId)
    (definition : StreamDefinition) : (sink.created heap producer definition).collect = sink.collect := rfl
@[simp] theorem created_type (sink : GstKvsSink) (heap : Heap) (producer : ProducerId)
    (definition : StreamDefinition) :
    (sink.created heap producer definition).trackInfoType = sink.trackInfoType := rfl
@[simp] theorem created_declarations (sink : GstKvsSink) (heap : Heap) (producer : ProducerId)
    (definition : StreamDefinition) : (sink.created heap producer definition).declarations =
      sink.declarations ++ [(sink.nextStream, definition)] := List.filterMap_append

/-- An attempt that creates a stream holds it under the definition it built. -/
theorem create_stream_built (created : createKinesisVideoStream pic sink residue status = (after, .ok ())) :
    ∃ producer heap definition, defineStream pic sink.prepared residue = (heap, .ok definition) ∧
      definition.getTrackCount ≤ pic.maxSupportedTrackCountPerStream ∧
      after = sink.prepared.created heap producer definition := by
  have ready : applyMediaType (applyFileStartTime sink) = sink.prepared := rfl
  unfold createKinesisVideoStream at created
  simp only [ready] at created
  split at created
  · cases created
  · rename_i heap definition defined
    have ends := create_sync_ends pic { sink.prepared with heap } definition status
    split at created <;> rename_i asked <;> cases created
    rw [asked] at ends
    cases ends with
    | created held few => exact ⟨_, heap, definition, defined, few, rfl⟩

/-- An attempt that fails leaves the prepared sink behind, and no stream. -/
theorem create_stream_failed
    (created : createKinesisVideoStream pic sink residue status = (after, .error raised)) :
    ∃ calls, after = { sink.prepared with heap := (defineStream pic sink.prepared residue).1, calls } ∧
      Grows DeclaresNothing sink.prepared.calls calls := by
  have ready : applyMediaType (applyFileStartTime sink) = sink.prepared := rfl
  unfold createKinesisVideoStream at created
  simp only [ready] at created
  split at created <;> rename_i defined
  · cases created
    rw [defined]
    exact ⟨_, rfl, .refl _⟩
  · rename_i heap definition
    have ends := create_sync_ends pic { sink.prepared with heap } definition status
    rw [defined]
    split at created <;> rename_i asked <;> cases created
    rw [asked] at ends
    cases ends with
    | noProducer => exact ⟨_, rfl, .refl _⟩
    | refused => exact ⟨_, rfl, .snoc (create_sync_declares_nothing _ _) _⟩

/-- The type the first track of a stream is declared with. -/
def GstKvsSink.firstTrackType (sink : GstKvsSink) : MkvTrackInfoType :=
  if sink.data.mediaType = .audioOnly then .audio else sink.trackInfoType

/-- What preparing an attempt leaves alone, and the track type it settles. -/
structure Prepared (before after : GstKvsSink) : Prop where
  collect : after.collect = before.collect
  mediaType : after.data.mediaType = before.data.mediaType
  nextStream : after.nextStream = before.nextStream
  calls : after.calls = before.calls
  producer : after.data.kinesisVideoProducer = before.data.kinesisVideoProducer
  trackInfoType : after.trackInfoType = before.firstTrackType

theorem prepared_keeps (sink : GstKvsSink) : Prepared sink sink.prepared := by
  obtain ⟨absoluteFragmentTimes, ptsBase, timed⟩ := file_start_time_changes sink
  unfold GstKvsSink.prepared
  rw [timed]
  unfold applyMediaType
  simp only
  split <;> rename_i media
  all_goals exact ⟨rfl, rfl, rfl, rfl, rfl, by simp [GstKvsSink.firstTrackType, media]⟩

private theorem first_type_prepared (prepared : Prepared before after) :
    after.firstTrackType = before.firstTrackType := by
  unfold GstKvsSink.firstTrackType
  rw [prepared.mediaType, prepared.trackInfoType]
  unfold GstKvsSink.firstTrackType
  split <;> rfl

/-- Ids and types of the tracks that a stream is declared with. -/
def declaredTracks (mediaType : MediaType) (first : MkvTrackInfoType) : List (ℕ × MkvTrackInfoType) :=
  match mediaType with
  | .audioVideo => [(kvsSinkDefaultTrackId, first), (kvsSinkDefaultAudioTrackId, .audio)]
  | _ => [(kvsSinkDefaultTrackId, first)]

def StreamTrackInfo.kind (track : StreamTrackInfo) : ℕ × MkvTrackInfoType :=
  (track.trackId, track.trackType)

private theorem add_audio_track_kinds (added : addAudioTrack sink heap residue definition = (after, .ok final))
    (single : definition.trackInfo.map StreamTrackInfo.kind = [(kvsSinkDefaultTrackId, first)]) :
    final.trackInfo.map StreamTrackInfo.kind = declaredTracks sink.data.mediaType first := by
  unfold addAudioTrack at added
  split at added
  · rename_i media
    split at added
    · cases added
    · cases added
      simp only [StreamDefinition.setFrameOrderMode, StreamDefinition.addTrack, List.map_append,
        single, media]
      rfl
  · rename_i media
    cases added
    unfold declaredTracks
    split
    · exact absurd ‹_› media
    · exact single

/-- A definition is the sink's configuration with a first track of the type the
sink has settled on, before an audio track is added. -/
theorem define_stream_built (defined : defineStream pic sink residue = (heap, .ok definition)) :
    ∃ before streamName kmsKeyId contentType trackName codecId,
      addAudioTrack sink before residue
        { streamConfiguration sink streamName kmsKeyId contentType with
          frameOrderMode := .passThrough
          trackInfo := [⟨kvsSinkDefaultTrackId, trackName, codecId, sink.trackInfoType⟩] } =
        (heap, .ok definition) := by
  unfold defineStream at defined
  split at defined
  · cases defined
  · cases defined
  · dsimp only at defined
    split at defined
    · cases defined
    · rename_i built
      rw [(new_accepts_iff.mp built).2.2] at defined
      exact ⟨_, _, _, _, _, _, defined⟩

/-- A second track changes nothing about the configuration. -/
theorem defined_configuration (defined : defineStream pic sink residue = (heap, .ok definition)) :
    ∃ streamName kmsKeyId contentType,
      definition.toStreamConfiguration = streamConfiguration sink streamName kmsKeyId contentType := by
  obtain ⟨_, streamName, kmsKeyId, contentType, _, _, added⟩ := define_stream_built defined
  refine ⟨streamName, kmsKeyId, contentType, ?_⟩
  unfold addAudioTrack at added
  split at added
  · split at added
    · cases added
    · cases added
      rfl
  · cases added
    rfl

/-- A definition declares the first track with the type the sink has settled
on, and a second track in an audio and video session. -/
theorem defined_tracks (defined : defineStream pic sink residue = (heap, .ok definition)) :
    definition.trackInfo.map StreamTrackInfo.kind =
      declaredTracks sink.data.mediaType sink.trackInfoType := by
  obtain ⟨_, _, _, _, _, _, added⟩ := define_stream_built defined
  exact add_audio_track_kinds added rfl

/-! ## The retries -/

/-- What a failed attempt keeps is true of the sink from which the attempt that
succeeds starts. -/
theorem last_attempt {kept : GstKvsSink → Prop}
    (keeps : ∀ before after status raised, kept before →
      createKinesisVideoStream pic before outcome.residue status = (after, .error raised) → kept after)
    (started : kept sink)
    (ran : kinesisVideoStreamInitLoop pic outcome retryCount sink = (created, .ok ())) :
    ∃ tried status, kept tried ∧
      createKinesisVideoStream pic tried outcome.residue status = (created, .ok ()) := by
  induction retryCount generalizing sink with
  | zero => cases ran
  | succ retryCount ih =>
    obtain ⟨status, last | ⟨tried, what, failed, again⟩⟩ := init_loop_round ran
    · exact ⟨sink, status, started, last⟩
    · exact ih (keeps sink _ _ _ started failed) again

/-- What a failed attempt keeps is true when all attempts have failed. -/
theorem failed_attempts {kept : GstKvsSink → Prop}
    (keeps : ∀ before after status raised, kept before →
      createKinesisVideoStream pic before outcome.residue status = (after, .error raised) → kept after)
    (started : kept sink)
    (ran : kinesisVideoStreamInitLoop pic outcome retryCount sink = (after, .error raised)) :
    kept after := by
  induction retryCount generalizing sink with
  | zero =>
    cases ran
    exact started
  | succ retryCount ih =>
    obtain ⟨_, last | ⟨tried, what, failed, again⟩⟩ := init_loop_round ran
    · exact keeps sink _ _ _ started last
    · exact ih (keeps sink _ _ _ started failed) again

/-! ## The stages of a start -/

/-- What coming to a producer writes. -/
def GstKvsSink.producing (sink : GstKvsSink) (dataUseCount : ℕ) (calls : List Call)
    (nextProducer : ProducerId) (kinesisVideoProducer : Option ProducerId) : GstKvsSink :=
  { sink with dataUseCount, calls, nextProducer, data := { sink.data with kinesisVideoProducer } }

theorem producer_init_changes (sink : GstKvsSink) (outcome : ChangeStateOutcome) :
    ∃ dataUseCount calls nextProducer kinesisVideoProducer,
      (kinesisVideoProducerInit sink outcome).1 =
        sink.producing dataUseCount calls nextProducer kinesisVideoProducer ∧
      Grows DeclaresNothing sink.calls calls := by
  have created (device : KvsSinkDeviceInfoProvider) :
      DeclaresNothing (.createSync sink.nextProducer device) := rfl
  have destroyed (producer : ProducerId) : DeclaresNothing (.destroyProducer producer) := rfl
  have ends := producer_init_ends sink outcome
  generalize kinesisVideoProducerInit sink outcome = finished at ends
  cases ends with
  | unnamed | noCredentials | noUserAgent | noClient => exact ⟨_, _, _, _, rfl, .refl _⟩
  | produced =>
    unfold GstKvsSink.renewed
    cases sink.data.kinesisVideoProducer with
    | none => exact ⟨_, _, _, _, rfl, .snoc (created _) _⟩
    | some old =>
      simp only [destroyProducer]
      exact ⟨_, _, _, _, rfl, (Grows.snoc (created _) _).then (destroyed old)⟩

/-- What the walk starts with. -/
def GstKvsSink.scan (sink : GstKvsSink) : TrackScan :=
  { heap := sink.heap, codecId := sink.codecId, audioCodecId := sink.audioCodecId }

/-- The sink after the walk over its tracks. -/
def GstKvsSink.walked (sink : GstKvsSink) (tracks : List GstKvsSinkTrackData) (scan : TrackScan) :
    GstKvsSink :=
  { sink with
    collect := tracks, heap := scan.heap, codecId := scan.codecId, audioCodecId := scan.audioCodecId }

/-- A walk that accepts every track writes the id of every track. -/
theorem init_tracks_done
    (ran : initTracks pic streamName mediaType allowedCaps tracks scan = (walked, final, .ok ())) :
    walked = tracks.map (initTrackId mediaType) := by
  induction tracks generalizing scan walked with
  | nil =>
    cases ran
    rfl
  | cons track rest ih =>
    unfold initTracks at ran
    split at ran
    split at ran
    · cases ran
    · generalize later : initTracks pic streamName mediaType allowedCaps rest _ = result at ran
      obtain ⟨tracks, last, ended⟩ := result
      simp only [Prod.mk.injEq] at ran
      obtain ⟨rfl, rfl, rfl⟩ := ran
      rw [ih later, List.map_cons]

private theorem init_track_data_done (ran : initTrackData pic sink outcome = (after, .ok ())) :
    ∃ scan, initTracks pic (sink.streamName.getD "") sink.data.mediaType outcome.allowedCaps
        sink.collect sink.scan = (sink.collect.map (initTrackId sink.data.mediaType), scan, .ok ()) ∧
      after = storeContentType (sink.walked (sink.collect.map (initTrackId sink.data.mediaType)) scan)
        scan.videoContentType scan.audioContentType := by
  unfold initTrackData at ran
  split at ran
  rename_i tracks scan result walked
  change initTracks _ _ _ _ _ sink.scan = _ at walked
  split at ran
  · cases ran
  · have numbered := init_tracks_done walked
    subst numbered
    simp only [Prod.mk.injEq] at ran
    exact ⟨scan, walked, ran.1.symm⟩

theorem fail_is_no_success (failed : failChangeState sink message raised = (after, .success)) : False := by
  have result := (fail_keeps_stream sink message raised).2
  rw [failed] at result
  exact result rfl

/-- A start that succeeds passes its three stages. -/
theorem null_to_ready_stages (ran : nullToReady pic sink outcome = (created, .success)) :
    ∃ held walked, kinesisVideoProducerInit sink outcome = (held, .ok ()) ∧
      initTrackData pic held outcome = (walked, .ok ()) ∧
      kinesisVideoStreamInit pic walked.forgetTimeline outcome = (created, .ok ()) := by
  have ends := null_to_ready_ends pic sink outcome
  rw [ran] at ends
  generalize ended : (created, ChangeStateReturn.success) = finished at ends
  cases ends with
  | noProducer | noTracks | noStream => exact (fail_is_no_success ended.symm).elim
  | started initialized scanned streamed =>
    cases ended
    exact ⟨_, _, initialized, scanned, streamed⟩

/-! ## What a start declares -/

/-- The sink before an attempt, as far as its declaration goes. -/
structure SameDeclaration (before after : GstKvsSink) : Prop where
  declarations : after.declarations = before.declarations
  nextStream : after.nextStream = before.nextStream
  mediaType : after.data.mediaType = before.data.mediaType
  firstTrackType : after.firstTrackType = before.firstTrackType
  collect : after.collect = before.collect

theorem failed_attempt_declares_nothing (same : SameDeclaration sink before)
    (failed : createKinesisVideoStream pic before residue status = (after, .error raised)) :
    SameDeclaration sink after := by
  have prepared := prepared_keeps before
  obtain ⟨calls, rfl, grown⟩ := create_stream_failed failed
  have silent : GstKvsSink.declarations { before.prepared with
      heap := (defineStream pic before.prepared residue).1, calls } = before.declarations := by
    rw [declarations_of_grows grown, GstKvsSink.declarations, prepared.calls]
    rfl
  exact ⟨silent.trans same.declarations, prepared.nextStream.trans same.nextStream,
    prepared.mediaType.trans same.mediaType,
    (first_type_prepared prepared).trans same.firstTrackType, prepared.collect.trans same.collect⟩

/-- What a successful start declares, and leaves behind. -/
structure SessionDeclared (sink created : GstKvsSink) (definition : StreamDefinition) : Prop where
  declared : created.declarations = sink.declarations ++ [(sink.nextStream, definition)]
  tracks : definition.trackInfo.map StreamTrackInfo.kind =
    declaredTracks sink.data.mediaType sink.firstTrackType
  trackInfoType : created.trackInfoType = sink.firstTrackType
  collect : created.collect = sink.collect.map (initTrackId sink.data.mediaType)

theorem session_declares (ran : nullToReady pic sink outcome = (created, .success)) :
    ∃ definition, SessionDeclared sink created definition := by
  obtain ⟨held, walked, initialized, scanned, streamed⟩ := null_to_ready_stages ran
  obtain ⟨dataUseCount, calls, nextProducer, producer, changed, grown⟩ :=
    producer_init_changes sink outcome
  rw [initialized] at changed
  simp only at changed
  subst changed
  have silent : (sink.producing dataUseCount calls nextProducer producer).declarations =
      sink.declarations := declarations_of_grows grown
  obtain ⟨scan, _, rfl⟩ := init_track_data_done scanned
  have stored (before : GstKvsSink) (video audio : GCharPtr) :
      SameDeclaration before (storeContentType before video audio).forgetTimeline := by
    unfold storeContentType
    split <;> exact ⟨rfl, rfl, rfl, rfl, rfl⟩
  obtain ⟨tried, status, same, attempt⟩ := last_attempt
    (fun _ _ _ _ same failed => failed_attempt_declares_nothing same failed) (stored _ _ _) streamed
  have prepared := prepared_keeps tried
  obtain ⟨creator, heap, definition, defined, _, rfl⟩ := create_stream_built attempt
  have tracks := defined_tracks defined
  refine ⟨definition, ?_, ?_, ?_, ?_⟩
  · have before : tried.prepared.declarations = sink.declarations := by
      rw [GstKvsSink.declarations, prepared.calls]
      exact same.declarations.trans silent
    have next : tried.prepared.nextStream = sink.nextStream :=
      prepared.nextStream.trans same.nextStream
    rw [created_declarations, before, next]
  · rw [tracks, prepared.mediaType, prepared.trackInfoType, same.mediaType, same.firstTrackType]
    rfl
  · rw [created_type]
    exact prepared.trackInfoType.trans same.firstTrackType
  · rw [created_collect]
    exact prepared.collect.trans same.collect

private theorem fail_declares_nothing (failed : failChangeState sink message raised = (after, result)) :
    after.declarations = sink.declarations := by
  unfold failChangeState at failed
  split at failed <;> cases failed
  · rfl
  · exact declarations_of_grows (.snoc (error_declares_nothing _) _)

theorem init_track_data_calls (pic : Pic) (sink : GstKvsSink) (outcome : ChangeStateOutcome) :
    (initTrackData pic sink outcome).1.calls = sink.calls := by
  obtain ⟨_, _, _, _, _, changed⟩ := track_data_changes pic sink outcome
  rw [changed]
  rfl

/-- A start that fails declares nothing. -/
theorem failed_start_declares_nothing (ran : nullToReady pic sink outcome = (after, result))
    (failed : result ≠ .success) : after.declarations = sink.declarations := by
  have produces {held : GstKvsSink} {produced : Except Raised Unit}
      (initialized : kinesisVideoProducerInit sink outcome = (held, produced)) :
      held.declarations = sink.declarations := by
    obtain ⟨_, _, _, _, changed, grown⟩ := producer_init_changes sink outcome
    rw [initialized] at changed
    cases changed
    exact declarations_of_grows grown
  have walks {held walked : GstKvsSink} {accepted : Except Raised Unit}
      (scanned : initTrackData pic held outcome = (walked, accepted)) :
      walked.declarations = held.declarations := by
    have calls := init_track_data_calls pic held outcome
    rw [scanned] at calls
    exact congrArg (·.filterMap Call.declaration) calls
  have ends := null_to_ready_ends pic sink outcome
  rw [ran] at ends
  generalize ended : (after, result) = finished at ends
  cases ends with
  | noProducer initialized =>
    exact (fail_declares_nothing ended.symm).trans (produces initialized)
  | noTracks initialized scanned =>
    have silent := (walks scanned).trans (produces initialized)
    exact (fail_declares_nothing ended.symm).trans silent
  | @noStream _ walked _ _ _ initialized scanned streamed =>
    have silent := (walks scanned).trans (produces initialized)
    have tried := failed_attempts
      (fun _ _ _ _ same failed => failed_attempt_declares_nothing same failed)
      (⟨rfl, rfl, rfl, rfl, rfl⟩ : SameDeclaration walked walked.forgetTimeline) streamed
    exact (fail_declares_nothing ended.symm).trans (tried.declarations.trans silent)
  | started =>
    cases ended
    exact absurd rfl failed

/-- Only a start makes a call that declares a stream. -/
theorem other_inputs_declare_nothing (pic : Pic) (sink : GstKvsSink)
    (still : ∀ outcome, input ≠ .changeState .nullToReady outcome) :
    Grows DeclaresNothing sink.calls (applyInput pic sink input).calls := by
  by_cases moves : ∃ transition outcome, input = .changeState transition outcome
  · obtain ⟨transition, outcome, rfl⟩ := moves
    have stopped (stream : StreamId) (done : Bool) : DeclaresNothing (.stopSync stream done) := rfl
    have changed := change_state_cases pic sink transition outcome
    simp only [applyInput]
    generalize changeState pic sink transition outcome = after at changed
    cases changed with
    | started | startedInVain | notStarted => exact absurd rfl (still _)
    | collecting | nothingToStop | moved => exact .refl _
    | collectingInVain | refused => exact .snoc (error_declares_nothing _) _
    | stopped => exact .snoc (stopped _ _) _
  · have stays := input_stays pic sink input fun transition outcome is => moves ⟨transition, outcome, is⟩
    apply stays.2.imp
    intro call made
    cases made with
    | event _ made => cases made <;> rfl
    | buffer _ made | noBuffer made =>
      cases made with
      | arrived | error | reset => rfl
      | body made => cases made <;> rfl
    | late | report | destroyed => rfl
    | setUp | stopped => exact absurd ⟨_, _, rfl⟩ moves

theorem step_declarations (accepted : step pic sink input = some next)
    (still : ∀ outcome, input ≠ .changeState .nullToReady outcome) :
    next.declarations = sink.declarations := by
  obtain ⟨_, rfl⟩ := step_eq_some.mp accepted
  exact declarations_of_grows (other_inputs_declare_nothing pic sink still)

end KvsProducer
