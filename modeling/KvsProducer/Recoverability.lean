import KvsProducer.AttachedPads
import KvsProducer.DanglingCodec
import KvsProducer.StreamStatusRegister

/-! What an element can still be brought to. However it was used, an application
can take it down, give it a new pad and its properties anew, and start it again.
Two things stay in the way. A failed status that may not be retried: no input but
another report replaces it, and no session begins without it. And a codec id that
has been released: there is no way to another stream that does not touch it. -/
namespace KvsProducer
open Gst GLib KvsSinkUtil History Runs

/-- The element while nobody reports an error, and pads can be added and removed. -/
def calmStep (pic : Pic) (sink : GstKvsSink) : Input → Option GstKvsSink
  | .streamErrorReport _ => none
  | input => padStep pic sink input

/-- The limits of the platform admit what a new element is set up with. -/
structure DefaultsFit (pic : Pic) : Prop where
  streamName : "DEFAULT_STREAM".utf8ByteSize ≤ pic.maxStreamNameLen
  contentType : pic.mkvH264ContentType.utf8ByteSize ≤ pic.maxContentTypeLen
  codecId : defaultCodecIdH264.utf8ByteSize ≤ pic.mkvMaxCodecIdLen
  trackName : defaultTrackName.utf8ByteSize ≤ pic.mkvMaxTrackNameLen
  track : 1 ≤ pic.maxSupportedTrackCountPerStream

private theorem calm_step_cases (accepted : calmStep pic sink input = some next) :
    (∀ status, input ≠ .streamErrorReport status) ∧ padStep pic sink input = some next := by
  cases input with
  | streamErrorReport status => cases accepted
  | _ => exact ⟨fun _ => by rintro ⟨⟩, accepted⟩

private theorem calm_step_accepts (calm : ∀ status, input ≠ .streamErrorReport status)
    (pads : input.padsSucceed = true) (admitted : accepts sink input = true) :
    calmStep pic sink input = some (applyInput pic sink input) := by
  have stepped : padStep pic sink input = some (applyInput pic sink input) := by
    rw [padStep, if_pos pads]
    exact step_eq_some.mpr ⟨admitted, rfl⟩
  cases input with
  | streamErrorReport status => exact absurd rfl (calm status)
  | _ => exact stepped

/-! ## What stays in the way -/

/-- What holds of every element whose pads could be added and removed. -/
structure WellKept (sink : GstKvsSink) : Prop where
  grounded : Grounded sink
  together : PadsTogether sink
  key : sink.kmsKeyId = some ""
  names : NamesKept sink

/-- What is known of an element that is still to be used. -/
structure Standing (pic : Pic) (sink : GstKvsSink) : Prop extends WellKept sink where
  alive : sink.crashed = false
  kept : sink.finalized = false
  passes : ¬ Refuses pic sink.data.streamStatus
  readable : ¬ sink.strings.Dangling

/-- No input writes the key id, for which there is no property, and only one ends the element. -/
theorem input_keeps_key (pic : Pic) (sink : GstKvsSink) (input : Input) :
    (applyInput pic sink input).kmsKeyId = sink.kmsKeyId ∧
      (input ≠ .finalize → (applyInput pic sink input).finalized = sink.finalized) := by
  have padless {after : GstKvsSink} (same : after.padlessPart = sink.padlessPart) :
      after.kmsKeyId = sink.kmsKeyId ∧ (input ≠ .finalize → after.finalized = sink.finalized) :=
    ⟨congrArg (·.kmsKeyId) same, fun _ => congrArg (·.finalized) same⟩
  have session {after : GstKvsSink} (same : after.sessionPart = sink.sessionPart) :
      after.kmsKeyId = sink.kmsKeyId ∧ (input ≠ .finalize → after.finalized = sink.finalized) :=
    ⟨congrArg (·.kmsKeyId) same, fun _ => congrArg (·.finalized) same⟩
  cases input with
  | requestNewPad templ added => exact padless (request_keeps_padless sink templ added)
  | releasePad pad removed => exact padless (release_keeps_padless sink pad removed)
  | setProperty property => cases property <;> exact ⟨rfl, fun _ => rfl⟩
  | changeState transition outcome =>
    have same := change_state_keeps_unmoved pic sink transition outcome
    exact ⟨congrArg (·.kmsKeyId) same, fun _ => congrArg (·.finalized) same⟩
  | sinkEvent pad event outcome =>
    obtain ⟨_, _, _, _, changed, _, _⟩ := sink_event_changes sink pad event outcome
    simp only [applyInput, changed, implies_true, and_self]
  | buffer pad buffer outcome => exact session (buffer_from_pad_keeps_session pic sink pad buffer outcome)
  | noBuffer outcome => exact session (buffer_keeps_session pic sink none outcome)
  | streamErrorReport status => exact session (error_report_keeps_session pic sink status)
  | finalize =>
    obtain ⟨_, _, _, changed, _⟩ := finalize_changes sink
    simp only [applyInput, changed]
    exact ⟨trivial, fun noEnd => absurd rfl noEnd⟩

theorem step_keeps_well_kept (wellKept : WellKept sink) (accepted : padStep pic sink input = some next) :
    WellKept next := by
  obtain ⟨_, admitted, made⟩ := pad_step_cases accepted
  have stepped : step pic sink input = some next := step_eq_some.mpr ⟨admitted, made⟩
  refine ⟨step_keeps_grounded wellKept.grounded stepped, step_keeps_pads_together wellKept.together accepted,
    ?_, step_keeps_names wellKept.names stepped⟩
  rw [← made, (input_keeps_key pic sink input).1, wellKept.key]

/-- An input that gives the element no work to do. -/
def Input.tidies : Input → Bool
  | .requestNewPad _ added => added
  | .releasePad _ removed => removed
  | .setProperty _ => true
  | .changeState transition _ => transition != .nullToReady
  | _ => false

/-- Such an input leaves the element standing, wherever it can come. -/
theorem Standing.tidy (standing : Standing pic sink) (tidies : input.tidies = true)
    (admitted : accepts sink input = true) :
    calmStep pic sink input = some (applyInput pic sink input) ∧ Standing pic (applyInput pic sink input) := by
  have calm (status : Status) : input ≠ .streamErrorReport status := by
    rintro rfl
    cases tidies
  have pads : input.padsSucceed = true := by
    cases input with
    | requestNewPad templ added => exact tidies
    | releasePad pad removed => exact tidies
    | _ => rfl
  have noStart (outcome : ChangeStateOutcome) : input ≠ .changeState .nullToReady outcome := by
    rintro rfl
    cases tidies
  have noBuffer (pad : PadId) (buffer : GstBuffer) (outcome : BufferOutcome) :
      input ≠ .buffer pad buffer outcome := by
    rintro rfl
    cases tidies
  have noEnd : input ≠ .finalize := by
    rintro rfl
    cases tidies
  have quiet : input.leavesStatus = true := by
    cases input with
    | buffer | noBuffer | streamErrorReport => cases tidies
    | _ => rfl
  have accepted : calmStep pic sink input = some (applyInput pic sink input) :=
    calm_step_accepts calm pads admitted
  refine ⟨accepted, step_keeps_well_kept standing.toWellKept (calm_step_cases accepted).2, ?_, ?_, ?_, ?_⟩
  · exact quiet_input_survives standing.grounded standing.alive admitted noStart noBuffer pic
  · exact ((input_keeps_key pic sink input).2 noEnd).trans standing.kept
  · rw [quiet_input_keeps_status pic sink quiet]
    exact standing.passes
  · have stepped := string_step pic sink input noEnd
    generalize applyInput pic sink input = next at stepped
    cases stepped with
    | start outcome => exact absurd rfl (noStart outcome)
    | property property =>
      exact set_property_faults (standing.names.held standing.kept) standing.readable property
    | other same => rw [same]; exact standing.readable

theorem Standing.moves (standing : Standing pic sink) (transition : GstStateChange)
    (here : sink.state = transition.current) (noStart : transition ≠ .nullToReady) :
    ∃ next, Reaches (calmStep pic) sink next ∧ Standing pic next ∧ next.state = transition.next := by
  have admitted : accepts sink (.changeState transition {}) = true := by
    simp [accepts, standing.alive, standing.kept, here]
  have tidies : (Input.changeState transition {}).tidies = true := bne_iff_ne.mpr noStart
  obtain ⟨accepted, still⟩ := standing.tidy tidies admitted
  refine ⟨_, (Reaches.refl _ sink).extend accepted, still, ?_⟩
  have changed := change_state_cases pic sink transition {}
  simp only [applyInput]
  generalize changeState pic sink transition {} = next at changed
  cases changed with
  | started | startedInVain | notStarted => exact absurd rfl noStart
  | collectingInVain failed => cases failed
  | refused failed => cases failed
  | collecting | stopped => rfl
  | moved => rfl
  | nothingToStop _ none =>
    obtain ⟨stream, held⟩ := standing.grounded.known.held (by rw [here]; rintro ⟨⟩)
    rw [none] at held
    cases held

theorem Standing.configures (standing : Standing pic sink) (properties : List Property) :
    Reaches (calmStep pic) sink (properties.foldl gstKvsSinkSetProperty sink) ∧
      Standing pic (properties.foldl gstKvsSinkSetProperty sink) := by
  induction properties generalizing sink with
  | nil => exact ⟨.refl _ sink, standing⟩
  | cons property rest ih =>
    have admitted : accepts sink (.setProperty property) = true := by
      simp [accepts, standing.alive, standing.kept]
    obtain ⟨accepted, still⟩ := standing.tidy rfl admitted
    obtain ⟨configures, later⟩ := ih still
    exact ⟨((Reaches.refl _ sink).extend accepted).trans configures, later⟩

/-! ## One more session -/

/-- The element has one video pad, and its properties are the defaults. -/
structure SetUpAnew (pad : PadId) (sink : GstKvsSink) : Prop where
  down : sink.state = .null
  attached : pad ∈ sink.pads
  collect : sink.collect = [⟨pad, false, .video, kvsSinkDefaultTrackId⟩]
  mediaType : sink.data.mediaType = .videoOnly
  streamName : sink.streamName = some "DEFAULT_STREAM"
  userAgent : sink.userAgent = some "AWS-SDK-KVS-CPP-CLIENT/UNKNOWN"
  streamTags : sink.streamTags = none
  live : sink.streamingType = .realtime
  codecId : sink.codecId.map GLib.GString.text = some defaultCodecIdH264
  trackName : sink.trackName.map GLib.GString.text = some defaultTrackName

/-- Every pad has a peer that offers H.264. -/
def h264Peers : ChangeStateOutcome := { allowedCaps := fun _ => some [h264Caps] }

theorem SetUpAnew.comes_to_stream (anew : SetUpAnew pad sink) (pic : Pic) : ComesToStream pic sink h264Peers where
  produces := ⟨by rw [anew.streamName]; rfl, rfl, by rw [anew.userAgent]; rfl, rfl⟩
  usable track member := by
    rw [anew.collect, List.mem_singleton] at member
    subst member
    exact ⟨_, h264Caps, [], rfl, List.mem_cons_self⟩
  content := by
    rintro ⟨⟨kind, covered, missing⟩, _⟩
    rw [anew.mediaType] at covered
    rw [anew.collect] at missing
    cases kind with
    | video => exact missing _ (List.mem_singleton_self _) rfl
    | audio => cases covered

/-- The walk settles the content type of the video track, and leaves the other texts alone. -/
theorem SetUpAnew.walks (anew : SetUpAnew pad sink) (pic : Pic) :
    ∃ block heap, sink.afterWalk pic h264Peers.allowedCaps =
      { sink with contentType := some ⟨block, pic.mkvH264ContentType⟩, heap } := by
  have media : walkedMedia h264Peers.allowedCaps sink.collect = [.h264] := by
    rw [anew.collect]
    rfl
  have same : sink.collect.map (initTrackId sink.data.mediaType) = sink.collect := by
    rw [anew.collect, anew.mediaType]
    rfl
  unfold GstKvsSink.afterWalk
  rw [media, same]
  unfold storeContentType
  have joined (scan : TrackScan) :
      joinContentType (sink.walked sink.collect scan).data.mediaType = joinContentType .videoOnly := by
    rw [← anew.mediaType]
    rfl
  simp only [joined]
  exact ⟨_, _, rfl⟩

/-- A released block reads as nothing here, so that only a pointer and the length of its text count. -/
theorem text_fits {source : DefinitionSource} {pointer : GLib.GCharPtr}
    (reads : pointer.map GLib.GString.text = some text) (short : text.utf8ByteSize ≤ limit) :
    ¬ DefinitionSource.Unfit limit (source.text h264Peers.residue pointer) := by
  obtain ⟨block, rfl, rfl⟩ := Option.map_eq_some_iff.mp reads
  intro unfit
  have long := unfit _ rfl
  dsimp only at long
  split at long
  · exact absurd long (Nat.not_lt_zero limit)
  · omega

theorem SetUpAnew.granted (anew : SetUpAnew pad sink) (fits : DefaultsFit pic) (key : sink.kmsKeyId = some "") :
    SomeAttemptGranted pic h264Peers (sink.afterWalk pic h264Peers.allowedCaps) := by
  obtain ⟨block, heap, walked⟩ := anew.walks pic
  have media : sink.data.mediaType ≠ .audioOnly := by
    rw [anew.mediaType]
    rintro ⟨⟩
  refine ⟨0, by decide, ?_⟩
  rw [Function.iterate_one, source_prepared, walked, if_neg media]
  refine ⟨?_, ?_, ?_, rfl⟩
  · rintro ⟨_, noAgent | name | keyId | content | codec | track⟩
    · exact absurd (anew.userAgent.symm.trans noAgent) (by rintro ⟨⟩)
    · exact absurd (name _ anew.streamName) (Nat.not_lt.mpr fits.streamName)
    · exact absurd (keyId _ key) (Nat.not_lt_zero _)
    · exact text_fits rfl fits.contentType content
    · exact text_fits anew.codecId fits.codecId codec
    · exact text_fits anew.trackName fits.trackName track
  · change TagsPass pic sink.streamTags
    rw [anew.streamTags]
    exact no_tags_pass pic
  · change sink.data.mediaType.trackCount ≤ _
    rw [anew.mediaType]
    exact fits.track

/-- The walk over one H.264 pad touches no released string. -/
theorem h264_walk_quiet {sink : GstKvsSink} (held : sink.strings.NamesHeld)
    (readable : ¬ sink.strings.Dangling) (media : walkedMedia allowedCaps sink.collect = [.h264]) (pic : Pic) :
    (sink.afterWalk pic allowedCaps).strings.NamesHeld ∧ ¬ (sink.afterWalk pic allowedCaps).strings.Dangling := by
  obtain ⟨faultless, unreleased⟩ := not_or.mp readable
  let scan := [TrackMedia.h264].foldl (TrackMedia.scan pic) sink.scan
  let tracks := sink.collect.map (initTrackId sink.data.mediaType)
  obtain ⟨still, faults, live⟩ :=
    store_names_held tracks (walk_names_held pic (scan_names_held held) [.h264])
  have codec : (storeContentType (sink.walked tracks scan) scan.videoContentType
      scan.audioContentType).codecId = sink.codecId := by
    unfold storeContentType
    split <;> rfl
  unfold GstKvsSink.afterWalk
  rw [media]
  refine ⟨still, ?_⟩
  rintro (fault | released)
  · exact faultless fun none => fault (faults.trans none)
  · refine live unreleased ?_
    obtain ⟨block, found, freed⟩ := released
    exact ⟨block, codec.symm.trans found, freed⟩

/-- An attempt with video alone reads three strings that are there. -/
theorem video_attempt_quiet {sink : GstKvsSink} (held : sink.strings.NamesHeld)
    (readable : ¬ sink.strings.Dangling) (video : sink.data.mediaType = .videoOnly)
    (attempt : createKinesisVideoStream pic sink residue status = (after, result)) :
    after.strings = sink.strings := by
  have same : sink.prepared.strings = sink.strings := prepared_strings (by simp [video])
  have media : sink.prepared.data.mediaType ≠ .audioVideo := by
    rw [(prepared_keeps sink).mediaType, video]
    rintro ⟨⟩
  have quiet : (defineStream pic sink.prepared residue).1 = sink.prepared.heap := by
    rw [← same] at held readable
    exact define_quiet held (not_or.mp readable).2 media
  rw [(attempt_strings attempt).1, quiet]
  exact same

theorem Standing.starts_quietly (standing : Standing pic sink) (anew : SetUpAnew pad sink) :
    (nullToReady pic sink h264Peers).1.heap.faults = [] := by
  have comes := anew.comes_to_stream pic
  obtain ⟨fails, _⟩ | ⟨_, dataUseCount, calls, nextProducer, producer, initialized, _⟩ :=
    producer_cases sink h264Peers
  · exact absurd comes.produces fails
  · let held := sink.producing dataUseCount calls nextProducer producer
    have accepted (track : GstKvsSinkTrackData) (inside : track ∈ held.collect) :
        (trackMedia h264Peers.allowedCaps track).isSome = true := usable_iff.mp (comes.usable track inside)
    have media : walkedMedia h264Peers.allowedCaps held.collect = [.h264] := by
      have alone : held.collect = [⟨pad, false, .video, kvsSinkDefaultTrackId⟩] := anew.collect
      rw [alone]
      rfl
    have comesTo : ComesToStream pic sink h264Peers ↔ (initTrackData pic held h264Peers).2 = .ok () :=
      walk_comes_to_stream comes.produces rfl rfl rfl
    have walk : (initTrackData pic held h264Peers).1 = held.afterWalk pic h264Peers.allowedCaps :=
      (accepted_walk accepted pic).1
    obtain ⟨names, readable⟩ :=
      @h264_walk_quiet _ held (standing.names.held standing.kept) standing.readable media pic
    have video : (held.afterWalk pic h264Peers.allowedCaps).data.mediaType = .videoOnly := by
      rw [← anew.mediaType]
      unfold GstKvsSink.afterWalk storeContentType
      dsimp only
      split <;> rfl
    generalize held.afterWalk pic h264Peers.allowedCaps = walked at walk names readable video
    rcases streamed : kinesisVideoStreamInitLoop pic h264Peers defaultTotalRetry walked.forgetTimeline
      with ⟨tried, result⟩
    have ends := attempts_end_start initialized (Prod.ext walk (comesTo.mp comes)) streamed
    have started : walked.forgetTimeline.strings = walked.strings ∧
        walked.forgetTimeline.data.mediaType = .videoOnly := ⟨rfl, video⟩
    have quiet : tried.strings = walked.strings ∧ tried.data.mediaType = .videoOnly :=
      attempts_keep (fun tried => tried.strings = walked.strings ∧ tried.data.mediaType = .videoOnly)
        (fun before after status result kept attempt =>
          ⟨(video_attempt_quiet (kept.1 ▸ names) (kept.1 ▸ readable) kept.2 attempt).trans kept.1,
            (attempt_strings attempt).2.trans kept.2⟩)
        started streamed
    have faults : tried.heap.faults = [] :=
      (congrArg (·.heap.faults) quiet.1).trans (not_not.mp (not_or.mp readable).1)
    rw [ends]
    cases result with
    | ok => exact faults
    | error raised =>
      have kept := (fail_keeps_defaults tried "Failed to create stream. Error: " raised).strings
      exact (congrArg (·.heap.faults) kept).trans faults

theorem Standing.starts (standing : Standing pic sink) (anew : SetUpAnew pad sink) (fits : DefaultsFit pic) :
    ∃ created, CreatesStream sink created ∧ Reaches (calmStep pic) sink (created.enter .ready) ∧
      Standing pic (created.enter .ready) := by
  have comes := anew.comes_to_stream pic
  have granted := anew.granted fits standing.key
  have succeeds : (nullToReady pic sink h264Peers).2 = .success := by
    have ends := start_ends standing.grounded.audio pic h264Peers
    generalize nullToReady pic sink h264Peers = ended at ends
    cases ends with
    | idle idle => exact absurd comes.produces idle
    | crashed loose =>
      exact (loose.elim (absurd (usable_refuses_none comes.usable)) (absurd · granted.no_tags_end))
    | failed _ _ _ none => exact absurd ⟨comes, granted⟩ none
    | created => rfl
  have admitted : accepts sink (.changeState .nullToReady h264Peers) = true := by
    simp [accepts, standing.alive, standing.kept, anew.down, GstStateChange.current]
  have accepted : calmStep pic sink (.changeState .nullToReady h264Peers) =
      some (changeState pic sink .nullToReady h264Peers) :=
    calm_step_accepts (fun _ => by rintro ⟨⟩) rfl admitted
  have wellKept := step_keeps_well_kept standing.toWellKept (calm_step_cases accepted).2
  have status := change_state_keeps_status pic sink .nullToReady h264Peers
  have changed := change_state_cases pic sink .nullToReady h264Peers
  generalize changeState pic sink .nullToReady h264Peers = next at changed accepted status wellKept
  cases changed with
  | started ran creates =>
    have quiet := standing.starts_quietly anew
    rw [ran] at quiet
    exact ⟨_, creates, (Reaches.refl _ sink).extend accepted,
      ⟨wellKept, creates.crashed.trans standing.alive,
        (congrArg (·.finalized) creates.lasting).trans standing.kept, by rw [status]; exact standing.passes,
        fun dangling => wellKept.names.outside (by rintro ⟨⟩) dangling quiet⟩⟩
  | startedInVain _ _ failed => cases failed
  | notStarted ran failed =>
    rw [ran] at succeeds
    exact absurd succeeds failed
  | moved _ across => rcases across with impossible | impossible | impossible <;> cases impossible
  | refused _ notUp => exact absurd rfl notUp

end KvsProducer
