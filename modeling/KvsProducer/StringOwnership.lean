import KvsProducer.EndOfStream
import KvsProducer.FreshTwin
import KvsProducer.PadlessStart

/-! Who owns the strings of an element. The attempts of an audio-only session let
two fields point to one block, and every way to go on from there releases it
twice or reads it afterwards. Runs without such an attempt are exactly the ones
that come to their end without a fault. -/
namespace KvsProducer
open Gst GLib History Runs

/-- The blocks behind the fields that are freed when they are replaced, and in the end. -/
def SinkStrings.blocks (strings : SinkStrings) : Multiset GString :=
  blocksOf strings.codecId + (blocksOf strings.audioCodecId +
    (blocksOf strings.trackName + blocksOf strings.contentType))

/-- Each of the four fields owns its block, and the audio codec id has one. -/
structure SinkStrings.Healthy (strings : SinkStrings) : Prop where
  owned : Owned strings.heap strings.blocks
  audio : strings.audioCodecId ≠ none

/-- The two codec ids cannot both be released any more. -/
def SinkStrings.Lost (strings : SinkStrings) : Prop :=
  Doomed strings.heap strings.codecId strings.audioCodecId

theorem SinkStrings.Healthy.not_lost {strings : SinkStrings} (healthy : strings.Healthy) :
    ¬ strings.Lost := healthy.owned.not_doomed

/-- NULL_TO_READY comes to create a stream. -/
structure ComesToStream (pic : Pic) (sink : GstKvsSink) (outcome : ChangeStateOutcome) : Prop where
  produces : CreatesProducer sink (.changeState .nullToReady outcome)
  usable : ∀ track ∈ sink.collect, Usable pic outcome.allowedCaps track
  content : ¬ (MissesKind sink.data.mediaType sink.collect ∧ sink.contentType = none)

/-- No audio-only session comes to create a stream. -/
def KeepsOwners (pic : Pic) (sink : GstKvsSink) : Input → Prop
  | .changeState .nullToReady outcome =>
    sink.data.mediaType = .audioOnly → ¬ ComesToStream pic sink outcome
  | _ => True

/-! ## The walk -/

/-- The pointers of the walk own their blocks, beside those that it does not touch. -/
structure ScanOwned (scan : TrackScan) (others : Multiset GString) : Prop where
  owned : Owned scan.heap (blocksOf scan.codecId + (blocksOf scan.audioCodecId + (others +
    (blocksOf scan.videoContentType + blocksOf scan.audioContentType))))
  audio : scan.audioCodecId ≠ none

private theorem set_codec_owned (holds : ScanOwned scan others) (text : String) :
    ScanOwned (scan.setCodecId text) others := ⟨holds.owned.free_pointer.strdup text, holds.audio⟩

private theorem set_audio_owned (holds : ScanOwned scan others) (text : String) :
    ScanOwned (scan.setAudioCodecId text) others := by
  have owned := holds.owned
  rw [add_left_comm] at owned
  have renewed := owned.free_pointer.strdup text
  rw [add_left_comm] at renewed
  exact ⟨renewed, nofun⟩

private theorem set_video_content_owned (holds : ScanOwned scan others) (text : String) :
    ScanOwned (scan.setVideoContentType text) others := by
  refine ⟨(holds.owned.strdup text).mono (Multiset.le_iff_exists_add.mpr ?_), holds.audio⟩
  refine ⟨blocksOf scan.videoContentType, ?_⟩
  simp only [TrackScan.setVideoContentType, blocks_of_some]
  abel

private theorem set_audio_content_owned (holds : ScanOwned scan others) (text : String) :
    ScanOwned (scan.setAudioContentType text) others := by
  refine ⟨(holds.owned.strdup text).mono (Multiset.le_iff_exists_add.mpr ?_), holds.audio⟩
  refine ⟨blocksOf scan.audioContentType, ?_⟩
  simp only [TrackScan.setAudioContentType, blocks_of_some]
  abel

private theorem walk_owned (pic : Pic) (holds : ScanOwned scan others) (media : List TrackMedia) :
    ScanOwned (media.foldl (TrackMedia.scan pic) scan) others := by
  induction media generalizing scan with
  | nil => exact holds
  | cons first rest ih =>
    apply ih
    cases first with
    | h264 => exact set_video_content_owned holds _
    | h265 => exact set_video_content_owned (set_codec_owned holds _) _
    | aac => exact set_audio_content_owned holds _
    | alaw => exact set_audio_content_owned (set_audio_owned holds _) _
    | mulaw => exact set_audio_content_owned (set_audio_owned holds _) _

/-- The two codec ids of the walk cannot both be released any more. -/
def TrackScan.Lost (scan : TrackScan) : Prop := Doomed scan.heap scan.codecId scan.audioCodecId

private theorem released_loses (rest : heap.faults ≠ [] ∨ Released heap other) (one : GCharPtr) :
    Doomed heap one other := rest.imp_right fun released => .inr (.inl released)

private theorem set_codec_lost {scan : TrackScan} (lost : scan.Lost) (text : String) :
    (scan.setCodecId text).Lost := (released_loses lost.free _).later (strdup_later _ text)

private theorem set_audio_lost {scan : TrackScan} (lost : scan.Lost) (text : String) :
    (scan.setAudioCodecId text).Lost :=
  ((released_loses lost.symm.free _).later (strdup_later _ text)).symm

private theorem set_content_lost {scan : TrackScan} (lost : scan.Lost) (text : String) :
    (scan.setVideoContentType text).Lost ∧ (scan.setAudioContentType text).Lost :=
  ⟨Doomed.later lost (strdup_later _ text), Doomed.later lost (strdup_later _ text)⟩

private theorem walk_lost (pic : Pic) {scan : TrackScan} (lost : scan.Lost) (media : List TrackMedia) :
    (media.foldl (TrackMedia.scan pic) scan).Lost := by
  induction media generalizing scan with
  | nil => exact lost
  | cons first rest ih =>
    apply ih
    cases first with
    | h264 => exact (set_content_lost lost _).1
    | h265 => exact (set_content_lost (set_codec_lost lost _) _).1
    | aac => exact (set_content_lost lost _).2
    | alaw | mulaw => exact (set_content_lost (set_audio_lost lost _) _).2

/-- What the switch stores, the element owns; the two temporary strings are gone. -/
theorem store_owned {sink : GstKvsSink} {scan : TrackScan} (tracks : List GstKvsSinkTrackData)
    (holds : ScanOwned scan (blocksOf sink.trackName + blocksOf sink.contentType)) :
    (storeContentType (sink.walked tracks scan) scan.videoContentType
      scan.audioContentType).strings.Healthy := by
  refine ⟨?_, ?_⟩
  · have owned := holds.owned
    unfold storeContentType
    cases joinContentType (sink.walked tracks scan).data.mediaType scan.videoContentType
        scan.audioContentType with
    | none =>
      have first : blocksOf scan.codecId + (blocksOf scan.audioCodecId +
            (blocksOf sink.trackName + blocksOf sink.contentType +
              (blocksOf scan.videoContentType + blocksOf scan.audioContentType))) =
          blocksOf scan.videoContentType + (blocksOf scan.audioContentType +
            (blocksOf scan.codecId + (blocksOf scan.audioCodecId +
              (blocksOf sink.trackName + blocksOf sink.contentType)))) := by abel
      rw [first] at owned
      exact owned.free_pointer.free_pointer
    | some text =>
      have stored := owned.strdup text
      have first : {(gStrdup scan.heap text).1} + (blocksOf scan.codecId + (blocksOf scan.audioCodecId +
            (blocksOf sink.trackName + blocksOf sink.contentType +
              (blocksOf scan.videoContentType + blocksOf scan.audioContentType)))) =
          blocksOf scan.videoContentType + (blocksOf scan.audioContentType +
            ((blocksOf scan.codecId + (blocksOf scan.audioCodecId + (blocksOf sink.trackName +
              {(gStrdup scan.heap text).1}))) + blocksOf sink.contentType)) := by abel
      rw [first] at stored
      -- the content type of an earlier session is not freed, only forgotten
      exact stored.free_pointer.free_pointer.mono (Multiset.le_add_right _ _)
  · have audio : (storeContentType (sink.walked tracks scan) scan.videoContentType
        scan.audioContentType).audioCodecId = scan.audioCodecId := by
      unfold storeContentType
      split <;> rfl
    change (storeContentType (sink.walked tracks scan) scan.videoContentType
      scan.audioContentType).audioCodecId ≠ none
    rw [audio]
    exact holds.audio

private theorem store_lost {sink : GstKvsSink} (lost : sink.strings.Lost) (video audio : GCharPtr) :
    (storeContentType sink video audio).strings.Lost := by
  unfold storeContentType
  split
  · exact Doomed.later lost (((strdup_later _ _).trans (free_later _ video)).trans (free_later _ audio))
  · exact Doomed.later lost ((free_later _ video).trans (free_later _ audio))

/-- The walk over the tracks leaves the strings of its scan, or what the switch stores of them. -/
theorem track_data_walked (pic : Pic) (sink : GstKvsSink) (outcome : ChangeStateOutcome) :
    ∃ tracks scan, scan = (walkedMedia outcome.allowedCaps sink.collect).foldl (TrackMedia.scan pic) sink.scan ∧
      ((initTrackData pic sink outcome).1.strings = (sink.walked tracks scan).strings ∨
        (initTrackData pic sink outcome).1.strings =
          (storeContentType (sink.walked tracks scan) scan.videoContentType scan.audioContentType).strings) := by
  have scanned := (init_tracks_scan pic (sink.streamName.getD "") sink.data.mediaType
    outcome.allowedCaps sink.collect sink.scan).1
  rw [init_track_data_eq]
  generalize initTracks pic (sink.streamName.getD "") sink.data.mediaType outcome.allowedCaps
    sink.collect sink.scan = ended at scanned
  obtain ⟨tracks, scan, result⟩ := ended
  refine ⟨tracks, scan, scanned, ?_⟩
  cases result with
  | error raised => exact .inl rfl
  | ok => exact .inr rfl

/-- However the walk ends, the element owns its strings as before. -/
theorem track_data_healthy {sink : GstKvsSink} (healthy : sink.strings.Healthy) (pic : Pic)
    (outcome : ChangeStateOutcome) : (initTrackData pic sink outcome).1.strings.Healthy := by
  have starts : ScanOwned sink.scan (blocksOf sink.trackName + blocksOf sink.contentType) := by
    refine ⟨?_, healthy.audio⟩
    have owned := healthy.owned
    change Owned sink.heap (blocksOf sink.codecId + (blocksOf sink.audioCodecId +
      (blocksOf sink.trackName + blocksOf sink.contentType + (0 + 0))))
    rw [add_zero, add_zero]
    exact owned
  have holds := walk_owned pic starts (walkedMedia outcome.allowedCaps sink.collect)
  obtain ⟨tracks, scan, same, walked | stored⟩ := track_data_walked pic sink outcome
  · rw [← same] at holds
    rw [walked]
    refine ⟨holds.owned.mono (Multiset.le_iff_exists_add.mpr ?_), holds.audio⟩
    refine ⟨blocksOf scan.videoContentType + blocksOf scan.audioContentType, ?_⟩
    change _ = blocksOf scan.codecId + (blocksOf scan.audioCodecId +
      (blocksOf sink.trackName + blocksOf sink.contentType)) + _
    abel
  · rw [← same] at holds
    rw [stored]
    exact store_owned tracks holds

private theorem track_data_lost {sink : GstKvsSink} (lost : sink.strings.Lost) (pic : Pic)
    (outcome : ChangeStateOutcome) : (initTrackData pic sink outcome).1.strings.Lost := by
  have stays := walk_lost pic (show sink.scan.Lost from lost) (walkedMedia outcome.allowedCaps sink.collect)
  obtain ⟨tracks, scan, same, left | stored⟩ := track_data_walked pic sink outcome
  · rw [left, same]
    exact stays
  · rw [stored, same]
    have walked : (sink.walked tracks _).strings.Lost := stays
    exact store_lost walked _ _

/-! ## The attempts -/

/-- Owned strings are read without a fault. -/
theorem define_stream_keeps_heap {sink : GstKvsSink} (healthy : sink.strings.Healthy) (pic : Pic)
    (residue : ℕ → String) : (defineStream pic sink residue).1 = sink.heap := by
  have owned : Owned sink.heap sink.strings.blocks := healthy.owned
  have reads {block : GString} (mine : block ∈ sink.strings.blocks) (text : String) :
      (readString sink.heap text block).2 = sink.heap := by rw [owned.read mine]
  unfold defineStream
  split
  · rfl
  · rfl
  · rename_i strings _ passed
    obtain ⟨_, pointer, failed⟩ | ⟨_, _, checked, _, content, _, _, codec, track⟩ := check_strings_cases sink
    · cases failed.symm.trans passed
    · cases checked.symm.trans passed
      have contentMine : strings.contentType ∈ sink.strings.blocks := by
        simp [SinkStrings.blocks, GstKvsSink.strings, content]
      have codecMine : strings.codecId ∈ sink.strings.blocks := by
        simp [SinkStrings.blocks, GstKvsSink.strings, codec]
      have trackMine : strings.trackName ∈ sink.strings.blocks := by
        simp [SinkStrings.blocks, GstKvsSink.strings, track]
      simp only [reads contentMine, reads codecMine, reads trackMine]
      split
      · rfl
      · unfold addAudioTrack
        split
        · split
          · rfl
          · rename_i audioCodecId audio
            have audioMine : audioCodecId ∈ sink.strings.blocks := by
              simp [SinkStrings.blocks, GstKvsSink.strings, audio]
            exact reads audioMine _
        · rfl

theorem define_stream_later (pic : Pic) (sink : GstKvsSink) (residue : ℕ → String) :
    Later sink.heap (defineStream pic sink residue).1 := by
  unfold defineStream
  split
  · exact .refl _
  · exact .refl _
  · rename_i strings _ _
    have first := read_later sink.heap (residue strings.contentType.address) strings.contentType
    have second := first.trans (read_later _ (residue strings.codecId.address) strings.codecId)
    have third := second.trans (read_later _ (residue strings.trackName.address) strings.trackName)
    simp only
    split
    · exact third
    · unfold addAudioTrack
      split
      · split
        · exact third
        · exact third.trans (read_later _ _ _)
      · exact third

/-- The audio-only branch releases the codec id, and gives its field the block
of the other. -/
theorem prepared_lost {sink : GstKvsSink} (lost : sink.strings.Lost) : sink.prepared.strings.Lost := by
  by_cases audio : sink.data.mediaType = .audioOnly
  · have timed : (applyFileStartTime sink).strings = sink.strings ∧
        (applyFileStartTime sink).data.mediaType = sink.data.mediaType := by
      obtain ⟨_, _, changed⟩ := file_start_time_changes sink
      rw [changed]
      exact ⟨rfl, rfl⟩
    unfold GstKvsSink.prepared
    rw [← timed.1] at lost
    rw [← timed.2] at audio
    generalize applyFileStartTime sink = before at lost audio
    unfold applyMediaType
    rw [audio]
    exact (released_loses lost.free before.audioCodecId).later
      ((free_later _ before.trackName).trans (strdup_later _ defaultAudioTrackName))
  · rw [prepared_strings audio]
    exact lost

/-- One block cannot be given back by two fields. -/
theorem audio_only_loses {sink : GstKvsSink} (healthy : sink.strings.Healthy)
    (audio : sink.data.mediaType = .audioOnly) : sink.prepared.strings.Lost := by
  obtain ⟨absoluteFragmentTimes, ptsBase, timed⟩ := file_start_time_changes sink
  obtain ⟨block, held⟩ := Option.ne_none_iff_exists'.mp healthy.audio
  change sink.audioCodecId = some block at held
  have both : sink.prepared.codecId = some block ∧ sink.prepared.audioCodecId = some block := by
    unfold GstKvsSink.prepared applyMediaType
    rw [timed]
    simp only [audio]
    exact ⟨held, held⟩
  exact .inr (.inr (.inr ⟨block, block, both.1, both.2, rfl⟩))

/-- What an attempt leaves of the strings: those it was prepared with, and the
heap after reading them. -/
theorem attempt_strings (attempt : createKinesisVideoStream pic sink residue status = (after, result)) :
    after.strings = { sink.prepared.strings with heap := (defineStream pic sink.prepared residue).1 } ∧
      after.data.mediaType = sink.data.mediaType := by
  have media := (prepared_keeps sink).mediaType
  cases result with
  | error raised =>
    obtain ⟨calls, rfl, _⟩ := create_stream_failed attempt
    exact ⟨rfl, media⟩
  | ok =>
    obtain ⟨producer, heap, definition, defined, _, rfl⟩ := create_stream_built attempt
    rw [defined]
    exact ⟨rfl, media⟩

private theorem attempt_lost (lost : sink.prepared.strings.Lost)
    (attempt : createKinesisVideoStream pic sink residue status = (after, result)) :
    after.strings.Lost := by
  rw [(attempt_strings attempt).1]
  exact Doomed.later lost (define_stream_later pic sink.prepared residue)

private theorem attempt_healthy (healthy : sink.strings.Healthy) (video : sink.data.mediaType ≠ .audioOnly)
    (attempt : createKinesisVideoStream pic sink residue status = (after, result)) :
    after.strings.Healthy := by
  rw [← prepared_strings video] at healthy
  rw [(attempt_strings attempt).1, define_stream_keeps_heap healthy]
  exact healthy

/-- The first attempt of an audio-only session loses what was owned. -/
theorem attempts_lose (prepared : sink.prepared.strings.Lost)
    (ran : kinesisVideoStreamInitLoop pic outcome (retryCount + 1) sink = (after, result)) :
    after.strings.Lost := by
  have keeps (before after : GstKvsSink) (status : Status) (result : Except Raised Unit)
      (lost : before.strings.Lost)
      (attempt : createKinesisVideoStream pic before outcome.residue status = (after, result)) :
      after.strings.Lost := attempt_lost (prepared_lost lost) attempt
  obtain ⟨_, last | ⟨tried, what, failed, again⟩⟩ := init_loop_round ran
  · exact attempt_lost prepared last
  · exact attempts_keep (·.strings.Lost) keeps (attempt_lost prepared failed) again

/-! ## A start -/

/-- What a start does with the strings: nothing, a walk, or a walk and the attempts. -/
inductive StartStrings (pic : Pic) (sink : GstKvsSink) (outcome : ChangeStateOutcome)
    (after : GstKvsSink) : Prop where
  | untouched : ¬ ComesToStream pic sink outcome → after.strings = sink.strings →
      StartStrings pic sink outcome after
  | walked (held : GstKvsSink) : ¬ ComesToStream pic sink outcome → held.strings = sink.strings →
      after.strings = (initTrackData pic held outcome).1.strings → StartStrings pic sink outcome after
  | attempted (held started : GstKvsSink) : ComesToStream pic sink outcome → held.strings = sink.strings →
      started.strings = (initTrackData pic held outcome).1.strings →
      started.data.mediaType = sink.data.mediaType →
      kinesisVideoStreamInitLoop pic outcome defaultTotalRetry started = (tried, result) →
      after.strings = tried.strings → StartStrings pic sink outcome after

/-- A walk that ends well is all that a producer needs to come to a stream. -/
theorem walk_comes_to_stream {sink : GstKvsSink}
    (produces : CreatesProducer sink (.changeState .nullToReady outcome))
    (same : held.collect = sink.collect) (media : held.data.mediaType = sink.data.mediaType)
    (content : held.contentType = sink.contentType) :
    ComesToStream pic sink outcome ↔ (initTrackData pic held outcome).2 = .ok () := by
  have ends (accepted : ∀ track ∈ held.collect, (trackMedia outcome.allowedCaps track).isSome = true) :=
    (accepted_walk accepted pic).2
  rw [same, media, content] at ends
  constructor
  · intro comes
    obtain ⟨done, _⟩ | ⟨_, misses⟩ := ends fun track inside => usable_iff.mp (comes.usable track inside)
    · exact done
    · exact absurd misses comes.content
  · intro done
    have accepted := track_data_accepted done
    rw [same] at accepted
    obtain ⟨_, content⟩ | ⟨failed, _⟩ := ends accepted
    · exact ⟨produces, fun track inside => usable_iff.mpr (accepted track inside), content⟩
    · rw [done] at failed
      cases failed

theorem start_strings (pic : Pic) (sink : GstKvsSink) (outcome : ChangeStateOutcome) :
    StartStrings pic sink outcome (nullToReady pic sink outcome).1 := by
  have failed (at' : GstKvsSink) (message : String) (raised : Raised) :
      (failChangeState at' message raised).1.strings = at'.strings :=
    (fail_keeps_defaults at' message raised).strings
  obtain ⟨fails, held, raised, initialized, _⟩ | ⟨produces, dataUseCount, calls, nextProducer, producer,
    initialized, _⟩ := producer_cases sink outcome
  · have same : held.strings = sink.strings := by
      obtain ⟨_, _, _, _, changed, _⟩ := producer_init_changes sink outcome
      rw [initialized] at changed
      exact (congrArg GstKvsSink.strings changed :)
    simp only [nullToReady, initialized]
    exact .untouched (fun comes => fails comes.produces) ((failed _ _ _).trans same)
  · let held := sink.producing dataUseCount calls nextProducer producer
    have comes : ComesToStream pic sink outcome ↔ (initTrackData pic held outcome).2 = .ok () :=
      walk_comes_to_stream produces rfl rfl rfl
    have media : (initTrackData pic held outcome).1.data.mediaType = sink.data.mediaType := by
      obtain ⟨_, _, _, _, _, changed⟩ := track_data_changes pic held outcome
      rw [changed]
      rfl
    rcases walked : initTrackData pic held outcome with ⟨after, result⟩
    have walkedStrings : after.strings = (initTrackData pic held outcome).1.strings := by rw [walked]
    rw [walked] at comes media
    simp only at comes media
    cases result with
    | error raised =>
      rw [walk_fails_start initialized walked]
      exact .walked held (by simp [comes]) rfl ((failed _ _ _).trans walkedStrings)
    | ok =>
      rcases streamed : kinesisVideoStreamInitLoop pic outcome defaultTotalRetry after.forgetTimeline
        with ⟨tried, result⟩
      refine .attempted held after.forgetTimeline (comes.mpr rfl) rfl walkedStrings media streamed ?_
      rw [attempts_end_start initialized walked streamed]
      cases result with
      | ok => rfl
      | error raised => exact failed _ _ _

/-- A start keeps the owners unless it is an audio-only one that comes to a stream. -/
theorem start_healthy (healthy : sink.strings.Healthy)
    (keeps : KeepsOwners pic sink (.changeState .nullToReady outcome)) :
    (nullToReady pic sink outcome).1.strings.Healthy := by
  cases start_strings pic sink outcome with
  | untouched _ same => exact same ▸ healthy
  | walked _ _ held same => exact same ▸ track_data_healthy (held ▸ healthy) pic outcome
  | attempted _ _ comes held walked media streamed same =>
    have video : sink.data.mediaType ≠ .audioOnly := fun audio => keeps audio comes
    have started := track_data_healthy (held ▸ healthy) pic outcome
    rw [← walked] at started
    have both := attempts_keep
      (fun sink => sink.strings.Healthy ∧ sink.data.mediaType ≠ .audioOnly)
      (fun before after status result kept attempt =>
        ⟨attempt_healthy kept.1 kept.2 attempt, (attempt_strings attempt).2 ▸ kept.2⟩)
      ⟨started, media ▸ video⟩ streamed
    exact same ▸ both.1

/-- What the walk and every attempt keep of the strings, a start keeps. -/
theorem start_keeps {holds : SinkStrings → Prop}
    (walk : ∀ sink : GstKvsSink, holds sink.strings → holds (initTrackData pic sink outcome).1.strings)
    (attempt : ∀ before after status result, holds before.strings →
      createKinesisVideoStream pic before outcome.residue status = (after, result) → holds after.strings)
    (before : holds sink.strings) : holds (nullToReady pic sink outcome).1.strings := by
  cases start_strings pic sink outcome with
  | untouched _ same => exact same ▸ before
  | walked held _ kept same => exact same ▸ walk held (kept ▸ before)
  | attempted held started _ kept walked _ streamed same =>
    have begun := walk held (kept ▸ before)
    rw [← walked] at begun
    rw [same]
    exact attempts_keep (fun tried => holds tried.strings) attempt begun streamed

private theorem start_lost (lost : sink.strings.Lost) (pic : Pic) (outcome : ChangeStateOutcome) :
    (nullToReady pic sink outcome).1.strings.Lost :=
  start_keeps (fun _ kept => track_data_lost kept pic outcome)
    (fun _ _ _ _ kept attempt => attempt_lost (prepared_lost kept) attempt) lost

private theorem start_loses (healthy : sink.strings.Healthy) (audio : sink.data.mediaType = .audioOnly)
    (comes : ComesToStream pic sink outcome) : (nullToReady pic sink outcome).1.strings.Lost := by
  cases start_strings pic sink outcome with
  | untouched stays | walked _ stays => exact absurd comes stays
  | attempted _ _ _ held walked media streamed same =>
    have started := track_data_healthy (held ▸ healthy) pic outcome
    rw [← walked] at started
    exact same ▸ attempts_lose (audio_only_loses started (media.trans audio)) streamed

/-! ## The other inputs -/

private theorem replace_owned (owned : Owned heap (blocksOf field + others)) (value : Option String) :
    Owned (replaceString heap field value).2 (blocksOf (replaceString heap field value).1 + others) := by
  cases value with
  | none => simpa [replaceString] using owned.free_pointer
  | some text => exact owned.free_pointer.strdup text

theorem replace_later (heap : Heap) (field : GCharPtr) (value : Option String) :
    Later heap (replaceString heap field value).2 := by
  cases value with
  | none => exact free_later heap field
  | some text => exact (free_later heap field).trans (strdup_later _ text)

private theorem set_property_healthy (healthy : sink.strings.Healthy) (property : Property) :
    (gstKvsSinkSetProperty sink property).strings.Healthy := by
  have owned : Owned sink.heap (blocksOf sink.codecId + (blocksOf sink.audioCodecId +
    (blocksOf sink.trackName + blocksOf sink.contentType))) := healthy.owned
  cases property with
  | codecId value => exact ⟨replace_owned owned value, healthy.audio⟩
  | trackName value =>
    have first : blocksOf sink.codecId + (blocksOf sink.audioCodecId +
        (blocksOf sink.trackName + blocksOf sink.contentType)) =
        blocksOf sink.trackName + (blocksOf sink.codecId + (blocksOf sink.audioCodecId +
          blocksOf sink.contentType)) := by abel
    rw [first] at owned
    refine ⟨(replace_owned owned value).mono (le_of_eq ?_), healthy.audio⟩
    simp only [SinkStrings.blocks, GstKvsSink.strings, gstKvsSinkSetProperty]
    abel
  | contentType value =>
    have first : blocksOf sink.codecId + (blocksOf sink.audioCodecId +
        (blocksOf sink.trackName + blocksOf sink.contentType)) =
        blocksOf sink.contentType + (blocksOf sink.codecId + (blocksOf sink.audioCodecId +
          blocksOf sink.trackName)) := by abel
    rw [first] at owned
    refine ⟨(replace_owned owned value).mono (le_of_eq ?_), healthy.audio⟩
    simp only [SinkStrings.blocks, GstKvsSink.strings, gstKvsSinkSetProperty]
    abel
  | _ => exact ⟨healthy.owned, healthy.audio⟩

private theorem set_property_lost (lost : sink.strings.Lost) (property : Property) :
    (gstKvsSinkSetProperty sink property).strings.Lost := by
  cases property with
  | codecId value =>
    cases value with
    | none => exact released_loses lost.free _
    | some text => exact (released_loses lost.free _).later (strdup_later _ text)
  | trackName value | contentType value => exact Doomed.later lost (replace_later _ _ value)
  | _ => exact lost

theorem finalize_heap (sink : GstKvsSink) : (gstKvsSinkFinalize sink).heap =
    gFree (gFree (gFree (gFree sink.heap sink.contentType) sink.codecId) sink.trackName)
      sink.audioCodecId := by
  unfold gstKvsSinkFinalize
  simp only
  split
  · cases sink.data.kinesisVideoProducer <;> rfl
  · rfl

/-- What was owned is released once each. -/
theorem finalize_healthy (healthy : sink.strings.Healthy) : (gstKvsSinkFinalize sink).heap.faults = [] := by
  have owned : Owned sink.heap (blocksOf sink.codecId + (blocksOf sink.audioCodecId +
    (blocksOf sink.trackName + blocksOf sink.contentType))) := healthy.owned
  have order : blocksOf sink.codecId + (blocksOf sink.audioCodecId +
      (blocksOf sink.trackName + blocksOf sink.contentType)) =
      blocksOf sink.contentType + (blocksOf sink.codecId + (blocksOf sink.trackName +
        (blocksOf sink.audioCodecId + 0))) := by
    rw [add_zero]
    abel
  rw [order] at owned
  rw [finalize_heap]
  exact owned.free_pointer.free_pointer.free_pointer.free_pointer.noFault

theorem finalize_lost (lost : sink.strings.Lost) : (gstKvsSinkFinalize sink).heap.faults ≠ [] := by
  have before := Doomed.later lost (free_later _ sink.contentType)
  rw [finalize_heap]
  rcases before.free with fault | released
  · exact (free_later _ sink.audioCodecId).faults ((free_later _ sink.trackName).faults fault)
  · exact free_released (released.later (free_later _ sink.trackName))

/-! ## Whole runs -/

/-- Every string has its owner, or all were released without a fault. -/
def GstKvsSink.StringsKept (sink : GstKvsSink) : Prop :=
  (sink.finalized = false ∧ sink.strings.Healthy) ∨ (sink.finalized = true ∧ sink.heap.faults = [])

/-- A fault is certain when the element ends, or it has come. -/
def GstKvsSink.StringsLost (sink : GstKvsSink) : Prop :=
  (sink.finalized = false ∧ sink.strings.Lost) ∨ (sink.finalized = true ∧ sink.heap.faults ≠ [])

theorem kept_not_lost {sink : GstKvsSink} (kept : sink.StringsKept) : ¬ sink.StringsLost := by
  rintro (⟨alive, lost⟩ | ⟨ended, fault⟩)
  · rcases kept with ⟨_, healthy⟩ | ⟨ended, _⟩
    · exact healthy.not_lost lost
    · rw [alive] at ended
      cases ended
  · rcases kept with ⟨alive, _⟩ | ⟨_, none⟩
    · rw [alive] at ended
      cases ended
    · exact fault none

theorem kept_no_fault {sink : GstKvsSink} (kept : sink.StringsKept) : sink.heap.faults = [] :=
  kept.elim (·.2.owned.noFault) (·.2)

/-- A step of an element that lives on. -/
inductive StringStep (pic : Pic) (sink : GstKvsSink) : Input → GstKvsSink → Prop where
  | start (outcome : ChangeStateOutcome) : next.strings = (nullToReady pic sink outcome).1.strings →
      StringStep pic sink (.changeState .nullToReady outcome) next
  | property (property : Property) :
      StringStep pic sink (.setProperty property) (gstKvsSinkSetProperty sink property)
  | other : next.strings = sink.strings → KeepsOwners pic sink input → StringStep pic sink input next

theorem string_step (pic : Pic) (sink : GstKvsSink) (input : Input) (lives : input ≠ .finalize) :
    StringStep pic sink input (applyInput pic sink input) := by
  obtain ⟨outcome, rfl⟩ | noStart := start_or_not input
  · refine .start outcome ?_
    have changed := change_state_cases pic sink .nullToReady outcome
    simp only [applyInput]
    generalize changeState pic sink .nullToReady outcome = next at changed
    cases changed with
    | started ran | startedInVain ran | notStarted ran =>
      exact (congrArg (fun ended => ended.1.strings) ran).symm
    | moved _ across => rcases across with impossible | impossible | impossible <;> cases impossible
    | refused _ notUp => exact absurd rfl notUp
  · by_cases sets : ∃ property, input = .setProperty property
    · obtain ⟨property, rfl⟩ := sets
      exact .property property
    · have leaves : LeavesDefaults pic True True sink input := by
        unfold LeavesDefaults
        split
        · exact absurd ⟨_, rfl⟩ sets
        · exact absurd rfl (noStart _)
        · trivial
      refine .other (other_inputs_keep_defaults leaves noStart lives).strings ?_
      unfold KeepsOwners
      split
      · exact absurd rfl (noStart _)
      · trivial

theorem kept_alive {sink : GstKvsSink} (alive : sink.finalized = false) :
    (sink.StringsKept ↔ sink.strings.Healthy) ∧ (sink.StringsLost ↔ sink.strings.Lost) := by
  simp [GstKvsSink.StringsKept, GstKvsSink.StringsLost, alive]

private theorem kept_ended {sink : GstKvsSink} (ended : sink.finalized = true) :
    (sink.StringsKept ↔ sink.heap.faults = []) ∧ (sink.StringsLost ↔ sink.heap.faults ≠ []) := by
  simp [GstKvsSink.StringsKept, GstKvsSink.StringsLost, ended]

private theorem still_alive (alive : sink.finalized = false) (pic : Pic) (lives : input ≠ .finalize) :
    (applyInput pic sink input).finalized = false := by
  obtain ⟨transition, outcome, rfl⟩ | still := state_change_or_not input
  · exact (change_state_finalized pic sink transition outcome).trans alive
  · exact (other_inputs_keep_holders pic sink input still lives).2.trans alive

/-- A step of a living element that does not end it. -/
theorem living_step_strings (background : sink.strings.Healthy ∨ sink.strings.Lost)
    (stepped : StringStep pic sink input next) :
    (sink.strings.Healthy ∧ KeepsOwners pic sink input → next.strings.Healthy) ∧
      (¬ (sink.strings.Healthy ∧ KeepsOwners pic sink input) → next.strings.Lost) := by
  cases stepped with
  | start outcome same =>
    rw [same]
    refine ⟨fun kept => start_healthy kept.1 kept.2, fun spoils => ?_⟩
    rcases background with healthy | lost
    · by_contra stays
      refine spoils ⟨healthy, fun audio comes => ?_⟩
      exact stays (start_loses healthy audio comes)
    · exact start_lost lost pic outcome
  | property property =>
    refine ⟨fun kept => set_property_healthy kept.1 property, fun spoils => ?_⟩
    exact set_property_lost (background.resolve_left fun healthy => spoils ⟨healthy, trivial⟩) property
  | other same keeps =>
    rw [same]
    exact ⟨And.left, fun spoils => background.resolve_left fun healthy => spoils ⟨healthy, keeps⟩⟩

/-- One step keeps the owners precisely if it is no audio-only start that comes
to a stream; and what is lost stays lost. -/
theorem step_strings (background : sink.StringsKept ∨ sink.StringsLost)
    (accepted : step pic sink input = some next) :
    (sink.StringsKept ∧ KeepsOwners pic sink input → next.StringsKept) ∧
      (¬ (sink.StringsKept ∧ KeepsOwners pic sink input) → next.StringsLost) := by
  obtain ⟨admitted, rfl⟩ := step_eq_some.mp accepted
  cases ended : sink.finalized with
  | true =>
    cases input with
    | streamErrorReport status =>
      have heap : (applyInput pic sink (.streamErrorReport status)).heap = sink.heap :=
        congrArg (·.heap) (error_report_keeps_session pic sink status)
      have after := kept_ended (finalized_stays ended accepted)
      rw [(kept_ended ended).1, (kept_ended ended).2] at background
      rw [(kept_ended ended).1, after.1, after.2, heap]
      exact ⟨And.left, fun spoils => background.resolve_left fun kept => spoils ⟨kept, trivial⟩⟩
    | requestNewPad | releasePad | setProperty | changeState | sinkEvent | buffer | noBuffer | finalize =>
      simp [accepts, ended] at admitted
  | false =>
    rw [(kept_alive ended).1, (kept_alive ended).2] at background
    rw [(kept_alive ended).1]
    by_cases ends : input = .finalize
    · subst ends
      have marked : (gstKvsSinkFinalize sink).finalized = true := by
        obtain ⟨_, _, _, changed, _⟩ := finalize_changes sink
        rw [changed]
      simp only [applyInput]
      rw [(kept_ended marked).1, (kept_ended marked).2]
      refine ⟨fun kept => finalize_healthy kept.1, fun spoils => finalize_lost ?_⟩
      exact background.resolve_left fun healthy => spoils ⟨healthy, trivial⟩
    · have after := kept_alive (still_alive ended pic ends)
      rw [after.1, after.2]
      exact living_step_strings background (string_step pic sink input ends)

theorem init_strings_kept (now : UInt64) : (gstKvsSinkInit now).StringsKept := by
  obtain ⟨codec, audio, name, codecId, audioCodecId, trackName, _, _, _, owned⟩ := fresh_owns now
  refine .inl ⟨rfl, ?_, nofun⟩
  rw [SinkStrings.blocks, codecId, audioCodecId, trackName]
  exact owned

/-- Without audio-only sessions that come to a stream, nothing goes wrong at any time. -/
theorem owners_stay (all : EachStep (step pic) (KeepsOwners pic) (gstKvsSinkInit now) inputs) :
    Throughout (step pic) (fun sink => sink.heap.faults = []) (gstKvsSinkInit now) inputs :=
  (invariant_throughout
    (fun _ _ _ kept keeps accepted => (step_strings (.inl kept) accepted).1 ⟨kept, keeps⟩)
    (init_strings_kept now) all).imp fun _ => kept_no_fault

/-- **Owners of strings.** An element comes through its life to its end without a
string released twice, or read after its release, exactly if no audio-only
session of it has come to create a stream. -/
theorem strings_released_once_iff (ran : runFromInit pic now inputs = some final)
    (ended : final.finalized = true) :
    Throughout (step pic) (fun sink => sink.heap.faults = []) (gstKvsSinkInit now) inputs ↔
      EachStep (step pic) (KeepsOwners pic) (gstKvsSinkInit now) inputs := by
  have keeps (sink : GstKvsSink) (input : Input) (next : GstKvsSink)
      (background : sink.StringsKept ∨ sink.StringsLost) (accepted : step pic sink input = some next) :
      next.StringsKept ∨ next.StringsLost := by
    by_cases stays : sink.StringsKept ∧ KeepsOwners pic sink input
    · exact .inl ((step_strings background accepted).1 stays)
    · exact .inr ((step_strings background accepted).2 stays)
  have exact_step (sink : GstKvsSink) (input : Input) (next : GstKvsSink)
      (background : sink.StringsKept ∨ sink.StringsLost) (accepted : step pic sink input = some next) :
      next.StringsKept ↔ sink.StringsKept ∧ KeepsOwners pic sink input := by
    refine ⟨fun kept => ?_, (step_strings background accepted).1⟩
    by_contra spoils
    exact kept_not_lost kept ((step_strings background accepted).2 spoils)
  have exact_run := at_end_iff_each_step keeps exact_step (.inl (init_strings_kept now)) ran
  refine ⟨fun always => ?_, owners_stay⟩
  exact (exact_run.mp ((kept_ended ended).1.mpr (always.at_end ran))).2

private theorem video_keeps_owners {sink : GstKvsSink} (video : sink.data.mediaType ≠ .audioOnly) (pic : Pic)
    (input : Input) : KeepsOwners pic sink input := by
  unfold KeepsOwners
  split
  · exact fun audio => absurd audio video
  · trivial

/-- One session with these pads and caps, and the end of the element. -/
def sessionAndEnd (templ : PadTemplate) (caps : CapsStructure) : List Input :=
  [.requestNewPad templ true] ++ upTo (fun _ => some [caps]) ++ downToNull ++ [.finalize]

/-- With video, all goes well. -/
theorem video_session_releases_once :
    Throughout (step .sample) (fun sink => sink.heap.faults = []) (gstKvsSinkInit 0)
      (sessionAndEnd .video h264Caps) := by
  have evaluated : (runFromInit .sample 0 (sessionAndEnd .video h264Caps)).map (·.finalized) =
      some true := by decide
  obtain ⟨final, ran, ended⟩ := Option.map_eq_some_iff.mp evaluated
  have video : EachStep (step .sample) (fun sink _ => sink.data.mediaType ≠ .audioOnly) (gstKvsSinkInit 0)
      (sessionAndEnd .video h264Caps) := by decide
  exact (strings_released_once_iff ran ended).mpr
    (video.imp fun _ input notAudio => video_keeps_owners notAudio _ input)

/-- With audio alone, the element ends by releasing its audio codec id twice. -/
theorem audio_session_releases_twice : ¬ ∀ now inputs final,
    runFromInit .sample now inputs = some final → final.finalized = true →
      Throughout (step .sample) (fun sink => sink.heap.faults = []) (gstKvsSinkInit now) inputs := by
  intro always
  have evaluated : (runFromInit .sample 0 (sessionAndEnd .audio aacCaps)).map (fun final =>
      (final.finalized, final.heap.faults)) = some (true, [.doubleFree 2]) := by decide
  obtain ⟨final, ran, seen⟩ := Option.map_eq_some_iff.mp evaluated
  simp only [Prod.mk.injEq] at seen
  have none := (always 0 _ final ran seen.1).at_end ran
  rw [seen.2] at none
  cases none

end KvsProducer
