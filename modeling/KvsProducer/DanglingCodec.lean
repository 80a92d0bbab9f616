import KvsProducer.CrashFreedom

/-! A codec id that points to a released block. The attempts of an audio-only session
let both codec ids point to one block; a later walk that renews the audio codec id
releases it, and if it then fails, nothing has gone wrong yet, but every way to
another stream reads the codec id or releases it once more. -/
namespace KvsProducer
open Gst GLib History Runs

/-- The codec id is a released block, or something has gone wrong with a string before. -/
def SinkStrings.Dangling (strings : SinkStrings) : Prop :=
  strings.heap.faults ≠ [] ∨ Released strings.heap strings.codecId

/-- The track name and the content type are held, whatever became of the codec ids. -/
def SinkStrings.NamesHeld (strings : SinkStrings) : Prop :=
  HeldBeside strings.heap (blocksOf strings.trackName + blocksOf strings.contentType)
    (blocksOf strings.codecId + blocksOf strings.audioCodecId)

/-! ## The walk -/

/-- The blocks beside the codec ids are held during the walk, the content types it finds too. -/
def TrackScan.NamesHeld (scan : TrackScan) (others : Multiset GString) : Prop :=
  HeldBeside scan.heap (others + (blocksOf scan.videoContentType + blocksOf scan.audioContentType))
    (blocksOf scan.codecId + blocksOf scan.audioCodecId)

private theorem set_codec_names_held {scan : TrackScan} (holds : scan.NamesHeld others) (text : String) :
    (scan.setCodecId text).NamesHeld others := by
  have freed := holds.free_foreign scan.codecId fun block same => by simp [same]
  exact (freed.strdup text).give_away.mono le_rfl fun block member => by
    simp only [TrackScan.setCodecId, blocks_of_some, Multiset.mem_add] at member ⊢
    exact member.imp id .inr

private theorem set_audio_names_held {scan : TrackScan} (holds : scan.NamesHeld others) (text : String) :
    (scan.setAudioCodecId text).NamesHeld others := by
  have freed := holds.free_foreign scan.audioCodecId fun block same => by simp [same]
  exact (freed.strdup text).give_away.mono le_rfl fun block member => by
    simp only [TrackScan.setAudioCodecId, blocks_of_some, Multiset.mem_add] at member ⊢
    exact member.elim (fun codec => .inr (.inl codec)) .inl

private theorem set_content_names_held {scan : TrackScan} (holds : scan.NamesHeld others) (text : String) :
    (scan.setVideoContentType text).NamesHeld others ∧ (scan.setAudioContentType text).NamesHeld others := by
  have stored := HeldBeside.strdup holds text
  constructor
  · refine stored.mono (Multiset.le_iff_exists_add.mpr ⟨blocksOf scan.videoContentType, ?_⟩) fun _ => id
    simp only [TrackScan.setVideoContentType, blocks_of_some]
    abel
  · refine stored.mono (Multiset.le_iff_exists_add.mpr ⟨blocksOf scan.audioContentType, ?_⟩) fun _ => id
    simp only [TrackScan.setAudioContentType, blocks_of_some]
    abel

theorem walk_names_held (pic : Pic) {scan : TrackScan} (holds : scan.NamesHeld others)
    (media : List TrackMedia) : (media.foldl (TrackMedia.scan pic) scan).NamesHeld others := by
  induction media generalizing scan with
  | nil => exact holds
  | cons first rest ih =>
    apply ih
    cases first with
    | h264 => exact (set_content_names_held holds _).1
    | h265 => exact (set_content_names_held (set_codec_names_held holds _) _).1
    | aac => exact (set_content_names_held holds _).2
    | alaw | mulaw => exact (set_content_names_held (set_audio_names_held holds _) _).2

/-- What the switch stores is held, and nothing goes wrong with the temporary strings. -/
theorem store_names_held {sink : GstKvsSink} {scan : TrackScan} (tracks : List GstKvsSinkTrackData)
    (holds : scan.NamesHeld (blocksOf sink.trackName + blocksOf sink.contentType)) :
    let stored := storeContentType (sink.walked tracks scan) scan.videoContentType scan.audioContentType
    stored.strings.NamesHeld ∧ stored.heap.faults = scan.heap.faults ∧
      (¬ Released scan.heap scan.codecId → ¬ Released stored.heap scan.codecId) := by
  have known (block : GString) (same : scan.codecId = some block) :
      block ∈ blocksOf scan.codecId + blocksOf scan.audioCodecId := by simp [same]
  simp only
  unfold storeContentType
  cases joinContentType (sink.walked tracks scan).data.mediaType scan.videoContentType
      scan.audioContentType with
  | none =>
    have order : blocksOf sink.trackName + blocksOf sink.contentType +
          (blocksOf scan.videoContentType + blocksOf scan.audioContentType) =
        blocksOf scan.videoContentType + (blocksOf scan.audioContentType +
          (blocksOf sink.trackName + blocksOf sink.contentType)) := by abel
    have held : HeldBeside scan.heap _ _ := holds
    rw [order] at held
    obtain ⟨video, first⟩ := held.free_pointer
    obtain ⟨audio, second⟩ := video.free_pointer
    exact ⟨audio, second.trans first, fun live => video.free_leaves known (held.free_leaves known live)⟩
  | some text =>
    have stored := HeldBeside.strdup holds text
    have order : {(gStrdup scan.heap text).1} + (blocksOf sink.trackName + blocksOf sink.contentType +
          (blocksOf scan.videoContentType + blocksOf scan.audioContentType)) =
        blocksOf scan.videoContentType + (blocksOf scan.audioContentType +
          ((blocksOf sink.trackName + {(gStrdup scan.heap text).1}) + blocksOf sink.contentType)) := by abel
    rw [order] at stored
    obtain ⟨video, first⟩ := stored.free_pointer
    obtain ⟨audio, second⟩ := video.free_pointer
    exact ⟨audio.mono (Multiset.le_add_right _ _) fun _ => id, second.trans first,
      fun live => video.free_leaves known (stored.free_leaves known live)⟩

theorem scan_names_held {sink : GstKvsSink} (held : sink.strings.NamesHeld) :
    sink.scan.NamesHeld (blocksOf sink.trackName + blocksOf sink.contentType) := by
  change HeldBeside sink.heap (blocksOf sink.trackName + blocksOf sink.contentType + (0 + 0))
    (blocksOf sink.codecId + blocksOf sink.audioCodecId)
  rw [add_zero, add_zero]
  exact held

private theorem track_data_names_held {sink : GstKvsSink} (held : sink.strings.NamesHeld) (pic : Pic)
    (outcome : ChangeStateOutcome) : (initTrackData pic sink outcome).1.strings.NamesHeld := by
  have holds := walk_names_held pic (scan_names_held held) (walkedMedia outcome.allowedCaps sink.collect)
  obtain ⟨tracks, scan, rfl, walked | stored⟩ := track_data_walked pic sink outcome
  · rw [walked]
    exact HeldBeside.mono holds (Multiset.le_add_right _ _) fun _ => id
  · rw [stored]
    exact (store_names_held tracks holds).1

private theorem walk_later (pic : Pic) (scan : TrackScan) (media : List TrackMedia) :
    Later scan.heap (media.foldl (TrackMedia.scan pic) scan).heap := by
  induction media generalizing scan with
  | nil => exact .refl _
  | cons first rest ih =>
    refine Later.trans ?_ (ih _)
    cases first with
    | h264 => exact strdup_later _ pic.mkvH264ContentType
    | aac => exact strdup_later _ pic.mkvAacContentType
    | h265 =>
      exact ((free_later _ scan.codecId).trans (strdup_later _ defaultCodecIdH265)).trans
        (strdup_later _ pic.mkvH265ContentType)
    | alaw =>
      exact ((free_later _ scan.audioCodecId).trans (strdup_later _ defaultAudioCodecIdPcm)).trans
        (strdup_later _ pic.mkvAlawContentType)
    | mulaw =>
      exact ((free_later _ scan.audioCodecId).trans (strdup_later _ defaultAudioCodecIdPcm)).trans
        (strdup_later _ pic.mkvMulawContentType)

private theorem store_later (sink : GstKvsSink) (video audio : GCharPtr) :
    Later sink.heap (storeContentType sink video audio).heap := by
  unfold storeContentType
  split
  · exact ((strdup_later _ _).trans (free_later _ _)).trans (free_later _ _)
  · exact (free_later _ _).trans (free_later _ _)

private theorem track_data_later (pic : Pic) (sink : GstKvsSink) (outcome : ChangeStateOutcome) :
    Later sink.heap (initTrackData pic sink outcome).1.strings.heap := by
  have later := walk_later pic sink.scan (walkedMedia outcome.allowedCaps sink.collect)
  obtain ⟨tracks, scan, rfl, walked | stored⟩ := track_data_walked pic sink outcome
  · rw [walked]
    exact later
  · rw [stored]
    exact later.trans (store_later (sink.walked tracks _) _ _)

theorem SinkStrings.Dangling.later {strings : SinkStrings} (dangling : strings.Dangling)
    (later : Later strings.heap after.heap) (same : SinkStrings.codecId after = strings.codecId) :
    after.Dangling := by
  unfold SinkStrings.Dangling
  rw [same]
  exact dangling.imp later.faults (·.later later)

private theorem prepared_later (sink : GstKvsSink) : Later sink.heap sink.prepared.heap := by
  obtain ⟨_, _, timed⟩ := file_start_time_changes sink
  unfold GstKvsSink.prepared
  rw [timed]
  unfold applyMediaType
  dsimp only
  split
  · exact .refl _
  · exact ((free_later _ sink.codecId).trans (free_later _ sink.trackName)).trans
      (strdup_later _ defaultAudioTrackName)
  · exact .refl _

private theorem prepared_names_held {sink : GstKvsSink} (held : sink.strings.NamesHeld) :
    sink.prepared.strings.NamesHeld := by
  by_cases audio : sink.data.mediaType = .audioOnly
  · obtain ⟨_, _, timed⟩ := file_start_time_changes sink
    have freed := held.free_foreign sink.codecId fun block same => by
      simp [GstKvsSink.strings, same]
    have order : blocksOf sink.strings.trackName + blocksOf sink.strings.contentType =
        blocksOf sink.trackName + blocksOf sink.contentType := rfl
    rw [order] at freed
    have named := freed.free_pointer.1.strdup defaultAudioTrackName
    unfold GstKvsSink.prepared
    rw [timed]
    unfold applyMediaType
    simp only [audio]
    refine named.mono le_rfl fun block member => ?_
    -- both codec ids are the audio codec id now
    simp only [GstKvsSink.strings, Multiset.mem_add, or_self] at member ⊢
    exact .inr member
  · rw [prepared_strings audio]
    exact held

/-- A codec id that is read after its release leaves its mark. -/
theorem dangling_not_declared {sink : GstKvsSink} (dangling : sink.strings.Dangling)
    (defined : defineStream pic sink residue = (heap, .ok definition)) : heap.faults ≠ [] := by
  have later := define_stream_later pic sink residue
  rw [defined] at later
  rcases dangling with fault | ⟨block, codec, freed⟩
  · exact later.faults fault
  · change sink.codecId = some block at codec
    change block.address ∈ sink.heap.freed at freed
    unfold defineStream at defined
    split at defined
    · cases defined
    · cases defined
    · rename_i strings _ passed
      obtain ⟨_, _, failed⟩ | ⟨_, _, checked, _, _, _, _, codecId, _⟩ := check_strings_cases sink
      · cases failed.symm.trans passed
      · cases checked.symm.trans passed
        have same : strings.codecId = block := Option.some.inj (codecId.symm.trans codec)
        dsimp only at defined
        split at defined
        · cases defined
        · have read : (readString (readString sink.heap (residue strings.contentType.address)
              strings.contentType).2 (residue strings.codecId.address) strings.codecId).2.faults ≠ [] := by
            have still := (read_later sink.heap (residue strings.contentType.address)
              strings.contentType).freed _ freed
            exact read_released (same ▸ still) _
          have trackRead := (read_later _ (residue strings.trackName.address) strings.trackName).faults read
          unfold addAudioTrack at defined
          split at defined
          · split at defined
            · cases defined
            · rename_i audioCodecId _
              cases defined
              exact (read_later _ (residue audioCodecId.address) audioCodecId).faults trackRead
          · cases defined
            exact trackRead

/-- With video alone nothing is read but the names and the codec id. -/
theorem define_quiet {sink : GstKvsSink} (held : sink.strings.NamesHeld)
    (unreleased : ¬ Released sink.heap sink.codecId) (single : sink.data.mediaType ≠ .audioVideo) :
    (defineStream pic sink residue).1 = sink.heap := by
  unfold defineStream
  split
  · rfl
  · rfl
  · rename_i strings _ passed
    obtain ⟨_, _, failed⟩ | ⟨_, _, checked, _, content, _, _, codec, track⟩ := check_strings_cases sink
    · cases failed.symm.trans passed
    · cases checked.symm.trans passed
      have contentMine : strings.contentType ∈ blocksOf sink.trackName + blocksOf sink.contentType := by
        simp [content]
      have trackMine : strings.trackName ∈ blocksOf sink.trackName + blocksOf sink.contentType := by
        simp [track]
      have live : strings.codecId.address ∉ sink.heap.freed := fun freed => unreleased ⟨_, codec, freed⟩
      have names : HeldBeside sink.heap _ _ := held
      have codecRead (residue : String) : (readString sink.heap residue strings.codecId).2 = sink.heap := by
        simp [readString, live]
      simp only [names.read contentMine, codecRead, names.read trackMine]
      split
      · rfl
      · unfold addAudioTrack
        split
        · exact absurd ‹_› single
        · rfl

private theorem attempt_later (attempt : createKinesisVideoStream pic sink residue status = (after, result)) :
    Later sink.heap after.heap := by
  have heap : after.heap = (defineStream pic sink.prepared residue).1 :=
    congrArg SinkStrings.heap (attempt_strings attempt).1
  rw [heap]
  exact (prepared_later sink).trans (define_stream_later pic sink.prepared residue)

private theorem attempt_names_held {sink : GstKvsSink} (held : sink.strings.NamesHeld)
    (attempt : createKinesisVideoStream pic sink residue status = (after, result)) :
    after.strings.NamesHeld := by
  obtain ⟨freed, next⟩ := define_stream_keeps_freed pic sink.prepared residue
  rw [(attempt_strings attempt).1]
  exact (prepared_names_held held).faulted freed next

/-- An attempt that comes to a stream with its codec id released has gone wrong. -/
theorem created_dangling (created : createKinesisVideoStream pic sink residue status = (after, .ok ()))
    (dangling : sink.prepared.strings.Dangling) : after.heap.faults ≠ [] := by
  obtain ⟨producer, heap, definition, defined, _, rfl⟩ := create_stream_built created
  exact dangling_not_declared dangling defined

/-! ## A start -/

private theorem start_later (pic : Pic) (sink : GstKvsSink) (outcome : ChangeStateOutcome) :
    Later sink.heap (nullToReady pic sink outcome).1.heap := by
  let holds (strings : SinkStrings) : Prop := Later sink.heap strings.heap
  have later : holds (nullToReady pic sink outcome).1.strings :=
    start_keeps (fun walking before => Later.trans before (track_data_later pic walking outcome))
      (fun _ _ _ _ before attempt => Later.trans before (attempt_later attempt)) (Later.refl _)
  exact later

private theorem start_names_held {sink : GstKvsSink} (held : sink.strings.NamesHeld) (pic : Pic)
    (outcome : ChangeStateOutcome) : (nullToReady pic sink outcome).1.strings.NamesHeld :=
  start_keeps (fun _ before => track_data_names_held before pic outcome)
    (fun _ _ _ _ before attempt => attempt_names_held before attempt) held

/-- The stream of a start is declared under a codec id that can be read. -/
theorem success_reads_codec (ran : nullToReady pic sink outcome = (created, .success))
    (dangling : created.strings.Dangling) : created.heap.faults ≠ [] := by
  obtain ⟨_, walked, _, _, streamed⟩ := null_to_ready_stages ran
  obtain ⟨tried, status, _, attempt⟩ : ∃ tried status, True ∧
      createKinesisVideoStream pic tried outcome.residue status = (created, .ok ()) :=
    last_attempt (fun _ _ _ _ _ _ => trivial) trivial streamed
  rcases dangling with fault | released
  · exact fault
  · refine created_dangling attempt (.inr ?_)
    have freed := (define_stream_keeps_freed pic tried.prepared outcome.residue).1
    rw [(attempt_strings attempt).1] at released
    obtain ⟨block, codec, member⟩ := released
    exact ⟨block, codec, freed ▸ member⟩

/-! ## Every step -/

theorem set_property_names_held {sink : GstKvsSink} (held : sink.strings.NamesHeld) (property : Property) :
    (gstKvsSinkSetProperty sink property).strings.NamesHeld := by
  have names : HeldBeside sink.heap (blocksOf sink.trackName + blocksOf sink.contentType)
    (blocksOf sink.codecId + blocksOf sink.audioCodecId) := held
  cases property with
  | codecId value =>
    have freed := names.free_foreign sink.codecId fun block same => by simp [same]
    cases value with
    | none =>
      refine freed.mono le_rfl fun block member => Multiset.mem_add.mpr (.inr ?_)
      exact (Multiset.mem_add.mp member).resolve_left (Multiset.notMem_zero block)
    | some text =>
      refine (freed.strdup text).give_away.mono le_rfl fun block member => ?_
      rcases Multiset.mem_add.mp member with new | audio
      · exact Multiset.mem_add.mpr (.inl new)
      · exact Multiset.mem_add.mpr (.inr (Multiset.mem_add.mpr (.inr audio)))
  | trackName value =>
    have freed := names.free_pointer.1
    cases value with
    | none => exact freed.mono (by simp [GstKvsSink.strings, gstKvsSinkSetProperty, replaceString]) fun _ => id
    | some text => exact freed.strdup text
  | contentType value =>
    rw [add_comm] at names
    have freed := names.free_pointer.1
    cases value with
    | none => exact freed.mono (by simp [GstKvsSink.strings, gstKvsSinkSetProperty, replaceString]) fun _ => id
    | some text => exact (freed.strdup text).mono (le_of_eq (add_comm _ _)) fun _ => id
  | _ => exact names

/-- Setting a property touches no string that has been released, unless it is the codec id. -/
theorem set_property_faults {sink : GstKvsSink} (held : sink.strings.NamesHeld)
    (live : ¬ sink.strings.Dangling) (property : Property) :
    ¬ (gstKvsSinkSetProperty sink property).strings.Dangling := by
  have names : HeldBeside sink.heap (blocksOf sink.trackName + blocksOf sink.contentType)
    (blocksOf sink.codecId + blocksOf sink.audioCodecId) := held
  obtain ⟨faultless, unreleased⟩ := not_or.mp live
  have clean : sink.heap.faults = [] := not_not.mp faultless
  have still (pointer : GCharPtr) (others : Multiset GString)
      (mine : blocksOf pointer + others = blocksOf sink.trackName + blocksOf sink.contentType)
      (value : Option String) : (replaceString sink.heap pointer value).2.faults = [] ∧
        ¬ Released (replaceString sink.heap pointer value).2 sink.codecId := by
    have owned := names
    rw [← mine] at owned
    obtain ⟨_, quiet⟩ := owned.free_pointer
    have apart : ¬ Released (gFree sink.heap pointer) sink.codecId :=
      owned.free_leaves (fun codec codecId => by simp [codecId]) unreleased
    cases value with
    | none => exact ⟨quiet.trans clean, apart⟩
    | some text => exact ⟨quiet.trans clean, apart⟩
  cases property with
  | codecId value =>
    have quiet : (gFree sink.heap sink.codecId).faults = [] := (free_unreleased unreleased).trans clean
    have freed := names.free_foreign sink.codecId fun block same => by simp [same]
    cases value with
    | none =>
      rintro (fault | ⟨_, impossible, _⟩)
      · exact fault quiet
      · cases impossible
    | some text =>
      rintro (fault | released)
      · exact fault quiet
      · exact new_unreleased freed.retired text released
  | trackName value =>
    obtain ⟨quiet, apart⟩ := still sink.trackName _ rfl value
    exact not_or.mpr ⟨not_not.mpr quiet, apart⟩
  | contentType value =>
    obtain ⟨quiet, apart⟩ := still sink.contentType _ (add_comm _ _) value
    exact not_or.mpr ⟨not_not.mpr quiet, apart⟩
  | _ => exact live

/-- What is true of the strings of every element that has not been finalized. -/
structure NamesKept (sink : GstKvsSink) : Prop where
  held : sink.finalized = false → sink.strings.NamesHeld
  outside : sink.state ≠ .null → sink.strings.Dangling → sink.heap.faults ≠ []

/-- Only a start that succeeds leaves NULL. -/
theorem leaves_null (null : sink.state = .null) (accepted : step pic sink input = some next)
    (left : next.state ≠ .null) : ∃ outcome created, input = .changeState .nullToReady outcome ∧
      nullToReady pic sink outcome = (created, .success) ∧ next = created.enter .ready := by
  obtain ⟨admitted, rfl⟩ := step_eq_some.mp accepted
  obtain ⟨transition, outcome, rfl⟩ | still := state_change_or_not input
  · have current := accepted_transition admitted
    rw [null] at current
    cases transition with
    | nullToReady =>
      have changed := change_state_cases pic sink .nullToReady outcome
      simp only [applyInput] at left ⊢
      generalize changeState pic sink .nullToReady outcome = next at changed left
      cases changed with
      | started ran => exact ⟨outcome, _, rfl, ran, rfl⟩
      | startedInVain _ creates =>
        exact absurd ((congrArg GstKvsSink.state creates.lasting :).trans null) left
      | notStarted _ _ kept => exact absurd ((congrArg GstKvsSink.state kept.lasting :).trans null) left
      | moved _ across => rcases across with impossible | impossible | impossible <;> cases impossible
      | refused _ notUp => exact absurd rfl notUp
    | readyToPaused | pausedToPlaying | playingToPaused | pausedToReady | readyToNull => cases current
  · exact absurd ((input_stays pic sink input still).1.state.trans null) left

private theorem finalize_later (sink : GstKvsSink) : Later sink.heap (gstKvsSinkFinalize sink).heap := by
  rw [finalize_heap]
  exact (((free_later _ _).trans (free_later _ _)).trans (free_later _ _)).trans (free_later _ _)

/-- No step takes back what was released or what went wrong. -/
theorem step_later (accepted : step pic sink input = some next) : Later sink.heap next.heap := by
  have heap {one other : GstKvsSink} (same : one.strings = other.strings) : one.heap = other.heap :=
    congrArg SinkStrings.heap same
  obtain ⟨_, rfl⟩ := step_eq_some.mp accepted
  by_cases ends : input = .finalize
  · subst ends
    exact finalize_later sink
  · have stepped := string_step pic sink input ends
    generalize applyInput pic sink input = next at stepped
    cases stepped with
    | start outcome same => exact heap same ▸ start_later pic sink outcome
    | property property =>
      cases property with
      | codecId value | trackName value | contentType value => exact replace_later _ _ value
      | _ => exact .refl _
    | other same => exact heap same ▸ .refl _

theorem step_keeps_names (kept : NamesKept sink) (accepted : step pic sink input = some next) :
    NamesKept next where
  held lives := by
    have accepted' := accepted
    obtain ⟨_, rfl⟩ := step_eq_some.mp accepted
    have ends : input ≠ .finalize := by
      rintro rfl
      obtain ⟨_, _, _, changed, _⟩ := finalize_changes sink
      simp only [applyInput, changed] at lives
      cases lives
    have alive : sink.finalized = false := by
      cases ended : sink.finalized with
      | false => rfl
      | true => exact absurd ((finalized_stays ended accepted').symm.trans lives) (by rintro ⟨⟩)
    have held := kept.held alive
    have stepped := string_step pic sink input ends
    generalize applyInput pic sink input = next at stepped
    cases stepped with
    | start outcome same => exact same ▸ start_names_held held pic outcome
    | property property => exact set_property_names_held held property
    | other same => exact same ▸ held
  outside left dangling := by
    by_cases null : sink.state = .null
    · obtain ⟨outcome, created, rfl, ran, rfl⟩ := leaves_null null accepted left
      exact @success_reads_codec _ _ _ created ran dangling
    · by_cases before : sink.strings.Dangling
      · exact (step_later accepted).faults (kept.outside null before)
      · obtain ⟨admitted, rfl⟩ := step_eq_some.mp accepted
        have ends : input ≠ .finalize := by
          rintro rfl
          simp only [accepts, Bool.and_eq_true, beq_iff_eq] at admitted
          exact null admitted.2
        have stepped := string_step pic sink input ends
        generalize applyInput pic sink input = next at stepped dangling
        cases stepped with
        | start outcome => exact absurd (accepted_transition admitted) null
        | property property =>
          simp only [accepts, Bool.and_eq_true, Bool.not_eq_true'] at admitted
          exact absurd dangling (set_property_faults (kept.held admitted.1.2) before property)
        | other same => exact absurd (same ▸ dangling) before

end KvsProducer
