import KvsProducer.DeclaredMedia

/-! A session and the same session of a freshly created element. An element
whose strings still read as at its creation declares what a fresh one would;
three kinds of earlier sessions take that from it. -/
namespace KvsProducer
open Gst GLib History Runs

/-! ## The fresh element -/

/-- The texts a kvssink is created with. -/
def freshTexts : SinkTexts := ⟨defaultCodecIdH264, defaultAudioCodecIdAac, defaultTrackName⟩

/-- A freshly created element with the properties and pads of this one. -/
def GstKvsSink.freshTwin (sink : GstKvsSink) : GstKvsSink :=
  let fresh := gstKvsSinkInit sink.fileStartTime
  { sink with
    state := fresh.state
    collect := sink.collect.map fun track => { track with eos := false, trackId := kvsSinkDefaultTrackId }
    contentType := fresh.contentType
    keyFrameFragmentation := fresh.keyFrameFragmentation
    codecId := fresh.codecId
    trackName := fresh.trackName
    trackInfoType := fresh.trackInfoType
    audioCodecId := fresh.audioCodecId
    data := { fresh.data with
      mediaType := sink.data.mediaType
      useOriginalPts := sink.data.useOriginalPts
      getMetrics := sink.data.getMetrics }
    dataUseCount := fresh.dataUseCount
    heap := fresh.heap
    nextProducer := fresh.nextProducer
    nextStream := fresh.nextStream
    calls := fresh.calls
    finalized := fresh.finalized
    crashed := fresh.crashed }

/-- The session declares the media that the fresh element, where nothing fails,
declares for the same caps. -/
def DeclaresAsFresh (pic : Pic) (sink : GstKvsSink) (outcome : ChangeStateOutcome)
    (created : GstKvsSink) : Prop :=
  ∃ definition twin twinDefinition,
    created.declarations = sink.declarations ++ [(sink.nextStream, definition)] ∧
    nullToReady pic sink.freshTwin { allowedCaps := outcome.allowedCaps } = (twin, .success) ∧
    twin.declarations = [(0, twinDefinition)] ∧ definition.media = twinDefinition.media

theorem fresh_owns (now : UInt64) : OwnsStrings (gstKvsSinkInit now).strings freshTexts := by
  refine ⟨⟨0, defaultCodecIdH264⟩, ⟨2, defaultAudioCodecIdAac⟩, ⟨1, defaultTrackName⟩, rfl, rfl, rfl,
    rfl, rfl, rfl, ?_⟩
  change Owned (gstKvsSinkInit 0).heap ({⟨0, defaultCodecIdH264⟩} +
    ({⟨2, defaultAudioCodecIdAac⟩} + ({⟨1, defaultTrackName⟩} + blocksOf none)))
  constructor
  · decide
  · decide
  · intro block _ freed
    cases freed
  · intro address freed
    cases freed
  · rfl

private theorem twin_media (sink : GstKvsSink) (allowedCaps : PadId → Option GstCaps) :
    walkedMedia allowedCaps sink.freshTwin.collect = walkedMedia allowedCaps sink.collect := by
  have alike (tracks : List GstKvsSinkTrackData) : walkedMedia allowedCaps
      (tracks.map fun track => { track with eos := false, trackId := kvsSinkDefaultTrackId }) =
        walkedMedia allowedCaps tracks := by
    induction tracks with
    | nil => rfl
    | cons first rest ih =>
      rw [List.map_cons, walkedMedia, walkedMedia, ih]
      rfl
  exact alike sink.collect

private theorem twin_accepted {sink : GstKvsSink}
    (accepted : ∀ track ∈ sink.collect, (trackMedia allowedCaps track).isSome = true) :
    ∀ track ∈ sink.freshTwin.collect, (trackMedia allowedCaps track).isSome = true := by
  intro track member
  obtain ⟨original, inside, rfl⟩ := List.mem_map.mp member
  exact accepted original inside

private theorem prepared_source (fields : MediaFields) :
    fields.prepared.streamName = fields.streamName ∧ fields.prepared.userAgent = fields.userAgent ∧
      fields.prepared.mediaType = fields.mediaType := by
  unfold MediaFields.prepared
  split <;> exact ⟨rfl, rfl, rfl⟩

/-- Without failures around it, an element with a name and a user agent gets its producer. -/
theorem producer_comes {sink : GstKvsSink} (named : sink.streamName = some name)
    (agent : sink.userAgent = some userAgent) (allowedCaps : PadId → Option GstCaps) :
    ∃ held, kinesisVideoProducerInit sink { allowedCaps } = (held, .ok ()) := by
  unfold kinesisVideoProducerInit
  simp only [named, agent, throwIfNull]
  exact ⟨_, rfl⟩

private theorem start_succeeds (initialized : kinesisVideoProducerInit sink outcome = (held, .ok ()))
    (scanned : initTrackData pic held outcome = (walked, .ok ()))
    (streamed : kinesisVideoStreamInit pic walked.forgetTimeline outcome = (created, .ok ())) :
    nullToReady pic sink outcome = (created, .success) := by
  unfold nullToReady
  simp only [initialized, scanned, streamed]

/-- Where the fields admit it, the fresh element declares the texts it was created with. -/
theorem twin_declares {sink : GstKvsSink} {outcome : ChangeStateOutcome}
    (creatable : sink.freshTwin.mediaFields.Creatable pic
      (sink.textsAfterWalk pic outcome freshTexts) content)
    (accepted : ∀ track ∈ sink.collect, (trackMedia outcome.allowedCaps track).isSome = true)
    (settled : sink.contentAfterWalk pic outcome freshTexts = some content) :
    ∃ twin definition,
      nullToReady pic sink.freshTwin { allowedCaps := outcome.allowedCaps } = (twin, .success) ∧
      twin.declarations = [(0, definition)] ∧
      definition.media = sink.freshTwin.mediaFields.declared
        (sink.textsAfterWalk pic outcome freshTexts) content := by
  obtain ⟨name, named, _⟩ := creatable.admitted.streamName
  obtain ⟨userAgent, agent⟩ := Option.isSome_iff_exists.mp creatable.admitted.userAgent
  rw [(prepared_source _).1] at named
  rw [(prepared_source _).2.1] at agent
  obtain ⟨held, produced⟩ := @producer_comes _ _ sink.freshTwin named agent outcome.allowedCaps
  have owns : OwnsStrings sink.freshTwin.strings freshTexts := fresh_owns sink.fileStartTime
  have media := twin_media sink outcome.allowedCaps
  have sameTexts : sink.freshTwin.textsAfterWalk pic { allowedCaps := outcome.allowedCaps } freshTexts =
      sink.textsAfterWalk pic outcome freshTexts := by
    unfold GstKvsSink.textsAfterWalk
    rw [media]
  have sameContent : sink.freshTwin.contentAfterWalk pic { allowedCaps := outcome.allowedCaps }
      freshTexts = some content := by
    rw [← settled]
    unfold GstKvsSink.contentAfterWalk
    rw [media]
    rfl
  obtain ⟨walked, producer, scanned, reads, holds, silent, first⟩ :=
    start_reads owns produced (twin_accepted accepted) sameContent
  rw [sameTexts] at reads
  obtain ⟨twin, definition, streamed, described, declared⟩ :=
    @first_attempt_declares _ _ _ _ _ { allowedCaps := outcome.allowedCaps } _ reads creatable holds rfl
  refine ⟨twin, definition, start_succeeds produced scanned streamed, ?_, described⟩
  rw [declared, silent, first]
  rfl

/-! ## What earlier sessions leave behind -/

/-- The session declares its video track and has no H.265 pad to set the codec id. -/
def NeedsH264 (sink : GstKvsSink) (outcome : ChangeStateOutcome) : Prop :=
  sink.data.mediaType ≠ .audioOnly ∧ .h265 ∉ walkedMedia outcome.allowedCaps sink.collect

/-- The session declares an audio track and has no PCM pad to set its codec id. -/
def NeedsAac (sink : GstKvsSink) (outcome : ChangeStateOutcome) : Prop :=
  sink.data.mediaType ≠ .videoOnly ∧
    (walkedMedia outcome.allowedCaps sink.collect).any TrackMedia.isPcm = false

/-- The element still has what its creation gave it, as far as a later session
that relies on these defaults needs it. -/
structure LikeFresh (needsH264 needsAac : Prop) (sink : GstKvsSink) : Prop where
  trackInfoType : sink.trackInfoType = .video
  keyFrameFragmentation : sink.keyFrameFragmentation = true
  strings : ∃ texts, OwnsStrings sink.strings texts ∧ texts.name = defaultTrackName ∧
    (needsH264 → texts.codec = defaultCodecIdH264) ∧ (needsAac → texts.audio = defaultAudioCodecIdAac)

/-- The property is one of the four that say what a stream is declared with. -/
def Property.declaresMedia : Property → Prop
  | .codecId _ | .trackName _ | .contentType _ | .keyFrameFragmentation _ => True
  | _ => False

/-- A start whose producer comes leaves the defaults alone that are needed: an
audio-only one does not get past its tracks, and no pad overwrites a codec id. -/
structure StartLeaves (pic : Pic) (needsH264 needsAac : Prop) (sink : GstKvsSink)
    (outcome : ChangeStateOutcome) : Prop where
  video : sink.data.mediaType = .audioOnly →
    (initTrackData pic (kinesisVideoProducerInit sink outcome).1 outcome).2 ≠ .ok ()
  h264 : needsH264 → .h265 ∉ walkedMedia outcome.allowedCaps sink.collect
  aac : needsAac → (walkedMedia outcome.allowedCaps sink.collect).any TrackMedia.isPcm = false

def LeavesDefaults (pic : Pic) (needsH264 needsAac : Prop) (sink : GstKvsSink) : Input → Prop
  | .setProperty property => ¬ property.declaresMedia
  | .changeState .nullToReady outcome =>
    (kinesisVideoProducerInit sink outcome).2 = .ok () → StartLeaves pic needsH264 needsAac sink outcome
  | _ => True

/-- What an input leaves alone that neither starts a session nor sets one of the
four properties. -/
structure DefaultsStay (before after : GstKvsSink) : Prop where
  trackInfoType : after.trackInfoType = before.trackInfoType
  keyFrameFragmentation : after.keyFrameFragmentation = before.keyFrameFragmentation
  strings : after.strings = before.strings

theorem DefaultsStay.like (stays : DefaultsStay before after) (like : LikeFresh needsH264 needsAac before) :
    LikeFresh needsH264 needsAac after := by
  refine ⟨stays.trackInfoType.trans like.trackInfoType,
    stays.keyFrameFragmentation.trans like.keyFrameFragmentation, ?_⟩
  rw [stays.strings]
  exact like.strings

theorem DefaultsStay.of_strings (same : after.strings = before.strings) : DefaultsStay before after :=
  ⟨congrArg (·.trackInfoType) same, congrArg (·.keyFrameFragmentation) same, same⟩

theorem DefaultsStay.of_padless (same : after.padlessPart = before.padlessPart) :
    DefaultsStay before after := .of_strings (congrArg GstKvsSink.strings same :)

theorem DefaultsStay.of_session (same : after.sessionPart = before.sessionPart) :
    DefaultsStay before after := .of_strings (congrArg GstKvsSink.strings same :)

private theorem set_property_keeps_defaults (sink : GstKvsSink) (other : ¬ property.declaresMedia) :
    DefaultsStay sink (gstKvsSinkSetProperty sink property) := by
  cases property
  all_goals first
    | exact ⟨rfl, rfl, rfl⟩
    | exact absurd trivial other

/-- Outside a start, only the end of the element touches its strings. -/
theorem other_inputs_keep_defaults (leaves : LeavesDefaults pic needsH264 needsAac sink input)
    (noStart : ∀ outcome, input ≠ .changeState .nullToReady outcome) (alive : input ≠ .finalize) :
    DefaultsStay sink (applyInput pic sink input) := by
  cases input with
  | finalize => exact absurd rfl alive
  | setProperty property => exact set_property_keeps_defaults sink leaves
  | requestNewPad templ added => exact .of_padless (request_keeps_padless sink templ added)
  | releasePad pad removed => exact .of_padless (release_keeps_padless sink pad removed)
  | sinkEvent pad event outcome =>
    obtain ⟨_, _, _, _, changed, _⟩ := sink_event_changes sink pad event outcome
    simp only [applyInput, changed]
    exact ⟨rfl, rfl, rfl⟩
  | buffer pad buffer outcome =>
    exact .of_session (buffer_from_pad_keeps_session pic sink pad buffer outcome)
  | noBuffer outcome => exact .of_session (buffer_keeps_session pic sink none outcome)
  | streamErrorReport status => exact .of_session (error_report_keeps_session pic sink status)
  | changeState transition outcome =>
    have changed := change_state_cases pic sink transition outcome
    simp only [applyInput]
    generalize changeState pic sink transition outcome = next at changed
    cases changed with
    | started | startedInVain | notStarted => exact absurd rfl (noStart outcome)
    | collecting | collectingInVain | stopped | nothingToStop | moved | refused =>
      exact ⟨rfl, rfl, rfl⟩

theorem fail_keeps_defaults (sink : GstKvsSink) (message : String) (raised : Raised) :
    DefaultsStay sink (failChangeState sink message raised).1 := by
  unfold failChangeState
  split <;> exact ⟨rfl, rfl, rfl⟩

/-- The walk over the tracks moves a codec id only for a pad that says so. -/
theorem walk_keeps_like {sink : GstKvsSink} (like : LikeFresh needsH264 needsAac sink)
    (h264 : needsH264 → .h265 ∉ walkedMedia outcome.allowedCaps sink.collect)
    (aac : needsAac → (walkedMedia outcome.allowedCaps sink.collect).any TrackMedia.isPcm = false)
    (pic : Pic) : LikeFresh needsH264 needsAac (initTrackData pic sink outcome).1 := by
  obtain ⟨video, cut, texts, owns, name, codec, audio⟩ := like
  obtain ⟨collect, heap, type, codecId, audioCodecId, changed⟩ := track_data_changes pic sink outcome
  obtain ⟨codecAfter, audioAfter⟩ := walked_codecs pic
    (walkedMedia outcome.allowedCaps sink.collect) { codec := texts.codec, audio := texts.audio }
  refine ⟨?_, ?_, sink.textsAfterWalk pic outcome texts, (track_data_owns owns pic outcome).1, name, ?_, ?_⟩
  · rw [changed]
    exact video
  · rw [changed]
    exact cut
  · intro needed
    exact codecAfter.trans ((if_neg (h264 needed)).trans (codec needed))
  · intro needed
    exact audioAfter.trans ((if_neg (by simp [aac needed])).trans (audio needed))

/-- A walk that ends without an exception has a content type to declare. -/
theorem walk_has_content (done : initTrackData pic sink outcome = (walked, .ok ())) :
    ∃ block, walked.contentType = some block := by
  rw [init_track_data_eq] at done
  generalize initTracks pic (sink.streamName.getD "") sink.data.mediaType outcome.allowedCaps
    sink.collect sink.scan = ended at done
  obtain ⟨tracks, scan, result⟩ := ended
  cases result with
  | error raised => cases done
  | ok =>
    simp only [Prod.mk.injEq] at done
    obtain ⟨rfl, passed⟩ := done
    cases stored : (storeContentType (sink.walked tracks scan) scan.videoContentType
        scan.audioContentType).contentType with
    | none =>
      rw [stored] at passed
      cases passed
    | some block => exact ⟨block, rfl⟩

private theorem producer_init_keeps_like {sink : GstKvsSink} (like : LikeFresh needsH264 needsAac sink)
    (initialized : kinesisVideoProducerInit sink outcome = (held, result)) :
    LikeFresh needsH264 needsAac held ∧ held.collect = sink.collect ∧
      held.data.mediaType = sink.data.mediaType := by
  obtain ⟨dataUseCount, calls, nextProducer, kept, changed, _⟩ := producer_init_changes sink outcome
  rw [initialized] at changed
  simp only at changed
  subst changed
  exact ⟨⟨like.trackInfoType, like.keyFrameFragmentation, like.strings⟩, rfl, rfl⟩

/-- Once there is a producer, the walk keeps the defaults that the start leaves alone. -/
theorem walk_keeps_left {sink : GstKvsSink} (like : LikeFresh needsH264 needsAac sink)
    (leaves : LeavesDefaults pic needsH264 needsAac sink (.changeState .nullToReady outcome))
    (initialized : kinesisVideoProducerInit sink outcome = (held, .ok ()))
    (scanned : initTrackData pic held outcome = (walked, result)) :
    LikeFresh needsH264 needsAac walked ∧ walked.data.mediaType = sink.data.mediaType := by
  obtain ⟨heldLike, collect, media⟩ := producer_init_keeps_like like initialized
  have gained := leaves (congrArg Prod.snd initialized)
  have walkedLike := walk_keeps_like heldLike (collect ▸ gained.h264) (collect ▸ gained.aac) pic
  obtain ⟨_, _, _, _, _, changed⟩ := track_data_changes pic held outcome
  rw [scanned] at walkedLike changed
  simp only at changed
  refine ⟨walkedLike, ?_⟩
  rw [changed]
  exact media

/-- The attempts that follow keep them too, as the session has video. -/
theorem attempts_keep_left {sink : GstKvsSink} (like : LikeFresh needsH264 needsAac sink)
    (leaves : LeavesDefaults pic needsH264 needsAac sink (.changeState .nullToReady outcome))
    (initialized : kinesisVideoProducerInit sink outcome = (held, .ok ()))
    (scanned : initTrackData pic held outcome = (walked, .ok ()))
    (streamed : kinesisVideoStreamInit pic walked.forgetTimeline outcome = (tried, result)) :
    LikeFresh needsH264 needsAac tried := by
  obtain ⟨walkedLike, media⟩ := walk_keeps_left like leaves initialized scanned
  have video : walked.forgetTimeline.mediaFields.mediaType ≠ .audioOnly := by
    intro audio
    have refused := (leaves (congrArg Prod.snd initialized)).video (media.symm.trans audio)
    rw [initialized] at refused
    exact refused (congrArg Prod.snd scanned)
  obtain ⟨block, stored⟩ := walk_has_content scanned
  obtain ⟨texts, owns, name, codec, audio⟩ := walkedLike.strings
  have reads : walked.forgetTimeline.Reads walked.forgetTimeline.mediaFields texts block.text :=
    ⟨rfl, block, stored, rfl, owns⟩
  obtain ⟨fields, _, _, _, ownsStill⟩ := retries_read reads video streamed
  refine ⟨?_, ?_, texts, ownsStill, name, codec, audio⟩
  · exact (congrArg MediaFields.trackInfoType fields).trans walkedLike.trackInfoType
  · exact (congrArg MediaFields.keyFrameFragmentation fields).trans walkedLike.keyFrameFragmentation

/-- A start that leaves the defaults alone keeps them, however far it comes. -/
theorem start_keeps_like {sink : GstKvsSink} (like : LikeFresh needsH264 needsAac sink)
    (leaves : LeavesDefaults pic needsH264 needsAac sink (.changeState .nullToReady outcome)) :
    LikeFresh needsH264 needsAac (nullToReady pic sink outcome).1 := by
  have ends := null_to_ready_ends pic sink outcome
  generalize nullToReady pic sink outcome = finished at ends
  cases ends with
  | noProducer initialized =>
    exact (fail_keeps_defaults _ _ _).like (producer_init_keeps_like like initialized).1
  | noTracks initialized scanned =>
    exact (fail_keeps_defaults _ _ _).like (walk_keeps_left like leaves initialized scanned).1
  | noStream initialized scanned streamed =>
    exact (fail_keeps_defaults _ _ _).like (attempts_keep_left like leaves initialized scanned streamed)
  | started initialized scanned streamed =>
    exact attempts_keep_left like leaves initialized scanned streamed

/-- After its end an element takes error reports only. -/
theorem finalized_stays (ended : sink.finalized = true) (accepted : step pic sink input = some next) :
    next.finalized = true := by
  obtain ⟨admitted, rfl⟩ := step_eq_some.mp accepted
  cases input with
  | streamErrorReport status =>
    exact (congrArg (·.finalized) (error_report_keeps_session pic sink status)).trans ended
  | requestNewPad | releasePad | setProperty | changeState | sinkEvent | buffer | noBuffer | finalize =>
    simp [accepts, ended] at admitted

private theorem change_state_keeps_like {sink : GstKvsSink} (like : LikeFresh needsH264 needsAac sink)
    (leaves : LeavesDefaults pic needsH264 needsAac sink (.changeState .nullToReady outcome)) :
    LikeFresh needsH264 needsAac (changeState pic sink .nullToReady outcome) := by
  have started := start_keeps_like like leaves
  have changed := change_state_cases pic sink .nullToReady outcome
  generalize changeState pic sink .nullToReady outcome = next at changed
  cases changed with
  | started ran | startedInVain ran =>
    rw [ran] at started
    exact ⟨started.trackInfoType, started.keyFrameFragmentation, started.strings⟩
  | notStarted ran =>
    rw [ran] at started
    exact started
  | moved | refused => exact ⟨like.trackInfoType, like.keyFrameFragmentation, like.strings⟩

/-- Inputs that leave the defaults alone keep them as long as the element lives. -/
theorem step_keeps_like (like : sink.finalized = true ∨ LikeFresh needsH264 needsAac sink)
    (leaves : LeavesDefaults pic needsH264 needsAac sink input)
    (accepted : step pic sink input = some next) :
    next.finalized = true ∨ LikeFresh needsH264 needsAac next := by
  rcases like with ended | like
  · exact .inl (finalized_stays ended accepted)
  · obtain ⟨_, rfl⟩ := step_eq_some.mp accepted
    by_cases ends : input = .finalize
    · subst ends
      obtain ⟨_, _, _, changed, _⟩ := finalize_changes sink
      simp only [applyInput, changed]
      exact .inl trivial
    · right
      obtain ⟨outcome, rfl⟩ | noStart := start_or_not input
      · exact change_state_keeps_like like leaves
      · exact (other_inputs_keep_defaults leaves noStart ends).like like

private theorem init_like_fresh (needsH264 needsAac : Prop) (now : UInt64) :
    LikeFresh needsH264 needsAac (gstKvsSinkInit now) :=
  ⟨rfl, rfl, freshTexts, fresh_owns now, rfl, fun _ => rfl, fun _ => rfl⟩

/-! ## The same as a fresh element -/

/-- Texts of which a session with this media type declares the same. -/
def SameDeclared (mediaType : MediaType) (one other : SinkTexts) : Prop :=
  (one.declaredFor mediaType).codec = (other.declaredFor mediaType).codec ∧
    (one.declaredFor mediaType).name = (other.declaredFor mediaType).name ∧
    (mediaType = .audioVideo → one.audio = other.audio)

theorem SameDeclared.symm (same : SameDeclared mediaType one other) : SameDeclared mediaType other one :=
  ⟨same.1.symm, same.2.1.symm, fun both => (same.2.2 both).symm⟩

theorem SameDeclared.declared {fields : MediaFields} (same : SameDeclared fields.mediaType one other)
    (content : String) : fields.declared one content = fields.declared other content := by
  obtain ⟨codec, name, audio⟩ := same
  have media := (prepared_source fields).2.2
  unfold MediaFields.declared MediaFields.media
  rw [media]
  by_cases both : fields.mediaType = .audioVideo
  · have second := audio both
    rw [if_pos both, if_pos both, codec, name, both]
    simp only [SinkTexts.declaredFor, second]
  · rw [if_neg both, if_neg both, codec, name]

theorem SameDeclared.creatable {fields : MediaFields} (same : SameDeclared fields.mediaType one other)
    (creatable : fields.Creatable pic one content) : fields.Creatable pic other content := by
  obtain ⟨⟨streamName, userAgent, kmsKeyId, tags, contentType, codecId, trackName⟩, few⟩ := creatable
  rw [same.1] at codecId
  rw [same.2.1] at trackName
  rw [same.declared] at few
  exact ⟨⟨streamName, userAgent, kmsKeyId, tags, contentType, codecId, trackName⟩, few⟩

/-- Where the strings are like those of a fresh element, what the session
declares after its walk is too. -/
theorem like_fresh_declares {sink : GstKvsSink} (name : texts.name = defaultTrackName)
    (codec : NeedsH264 sink outcome → texts.codec = defaultCodecIdH264)
    (audio : NeedsAac sink outcome → texts.audio = defaultAudioCodecIdAac) (pic : Pic) :
    SameDeclared sink.data.mediaType (sink.textsAfterWalk pic outcome texts)
      (sink.textsAfterWalk pic outcome freshTexts) := by
  obtain ⟨codecAfter, audioAfter⟩ := walked_codecs pic
    (walkedMedia outcome.allowedCaps sink.collect) { codec := texts.codec, audio := texts.audio }
  obtain ⟨codecFresh, audioFresh⟩ := walked_codecs pic
    (walkedMedia outcome.allowedCaps sink.collect)
    { codec := defaultCodecIdH264, audio := defaultAudioCodecIdAac }
  have sameCodec (video : sink.data.mediaType ≠ .audioOnly) :
      (sink.textsAfterWalk pic outcome texts).codec =
        (sink.textsAfterWalk pic outcome freshTexts).codec := by
    refine codecAfter.trans (Eq.trans ?_ codecFresh.symm)
    by_cases seen : TrackMedia.h265 ∈ walkedMedia outcome.allowedCaps sink.collect
    · rw [if_pos seen, if_pos seen]
    · rw [if_neg seen, if_neg seen]
      exact codec ⟨video, seen⟩
  have sameAudio (carries : sink.data.mediaType ≠ .videoOnly) :
      (sink.textsAfterWalk pic outcome texts).audio =
        (sink.textsAfterWalk pic outcome freshTexts).audio := by
    refine audioAfter.trans (Eq.trans ?_ audioFresh.symm)
    by_cases pcm : (walkedMedia outcome.allowedCaps sink.collect).any TrackMedia.isPcm = true
    · rw [if_pos pcm, if_pos pcm]
    · rw [if_neg pcm, if_neg pcm]
      exact audio ⟨carries, Bool.eq_false_iff.mpr pcm⟩
  cases media : sink.data.mediaType with
  | audioVideo => exact ⟨sameCodec (by simp [media]), name, fun _ => sameAudio (by simp [media])⟩
  | videoOnly => exact ⟨sameCodec (by simp [media]), name, nofun⟩
  | audioOnly => exact ⟨sameAudio (by simp [media]), rfl, nofun⟩

/-- Nothing refuses the first attempt to create the stream of the session. -/
structure PassesAtOnce (pic : Pic) (sink : GstKvsSink) (outcome : ChangeStateOutcome) : Prop where
  declaration : ∀ content, sink.contentAfterWalk pic outcome freshTexts = some content →
    sink.mediaFields.Creatable pic (sink.textsAfterWalk pic outcome freshTexts) content
  accepted : statusFailed (outcome.createStatus 0) = false

/-- A session declares what a fresh element would if no step before it overwrote
a default that it relies on; an audio-only session must besides pass at once,
because its retries read what its first attempt released. -/
theorem session_declares_as_fresh (ran : runFromInit pic now inputs = some sink)
    (leaves : EachStep (step pic) (LeavesDefaults pic (NeedsH264 sink outcome) (NeedsAac sink outcome))
      (gstKvsSinkInit now) inputs)
    (admitted : accepts sink (.changeState .nullToReady outcome) = true) (agrees : sink.MediaAgrees)
    (passes : sink.data.mediaType = .audioOnly → PassesAtOnce pic sink outcome)
    (started : nullToReady pic sink outcome = (created, .success)) :
    DeclaresAsFresh pic sink outcome created := by
  have kept := (invariant_throughout (fun _ _ _ like leaves accepted => step_keeps_like like leaves accepted)
    (.inr (init_like_fresh _ _ now)) leaves).at_end ran
  obtain ⟨video, cut, texts, owns, name, codec, audio⟩ :=
    kept.resolve_left (by simp [(accepted_untouched admitted).2])
  obtain ⟨held, walked, initialized, scanned, streamed⟩ := null_to_ready_stages started
  have accepted : ∀ track ∈ sink.collect, (trackMedia outcome.allowedCaps track).isSome = true := by
    obtain ⟨_, _, _, _, changed, _⟩ := producer_init_changes sink outcome
    rw [initialized] at changed
    have collect : held.collect = sink.collect := (congrArg GstKvsSink.collect changed :)
    rw [← collect]
    exact track_data_accepted (congrArg Prod.snd scanned)
  obtain ⟨content, settled⟩ := content_settled agrees accepted pic
  obtain ⟨again, producer, scannedAgain, reads, holds, silent, first⟩ :=
    start_reads owns initialized accepted (settled texts)
  cases scanned.symm.trans scannedAgain
  have same := like_fresh_declares name codec audio pic
  have declares : ∃ definition,
      sink.mediaFields.Creatable pic (sink.textsAfterWalk pic outcome freshTexts) content ∧
      definition.media = sink.mediaFields.declared (sink.textsAfterWalk pic outcome freshTexts) content ∧
      created.declarations = sink.declarations ++ [(sink.nextStream, definition)] := by
    by_cases media : sink.data.mediaType = .audioOnly
    · have passed := passes media
      have creatable := passed.declaration content (settled freshTexts)
      obtain ⟨createdAt, definition, attempted, described, declared⟩ :=
        first_attempt_declares reads (same.symm.creatable creatable) holds passed.accepted
      cases streamed.symm.trans attempted
      rw [silent, first] at declared
      exact ⟨definition, creatable, described.trans (same.declared content), declared⟩
    · obtain ⟨creatable, definition, described, declared⟩ := retries_declare reads media streamed
      rw [silent, first] at declared
      exact ⟨definition, same.creatable creatable, described.trans (same.declared content), declared⟩
  obtain ⟨definition, creatable, described, declared⟩ := declares
  have fields : sink.mediaFields = sink.freshTwin.mediaFields := by
    unfold GstKvsSink.mediaFields
    rw [video, cut]
    rfl
  rw [fields] at creatable described
  obtain ⟨twin, twinDefinition, twinStarted, twinDeclared, twinDescribed⟩ :=
    twin_declares creatable accepted (settled freshTexts)
  exact ⟨definition, twin, twinDefinition, declared, twinStarted, twinDeclared,
    described.trans twinDescribed.symm⟩

private theorem one_video_pad_agrees {sink : GstKvsSink} (media : sink.data.mediaType = .videoOnly)
    (collect : sink.collect = [⟨pad, eos, .video, trackId⟩]) (pads : sink.pads = [pad]) :
    sink.MediaAgrees := by
  intro kind
  rw [media]
  constructor
  · intro covered
    refine ⟨⟨pad, eos, .video, trackId⟩, ⟨?_, ?_⟩, covered.symm⟩
    · rw [collect]
      exact List.mem_singleton_self _
    · rw [pads]
      exact List.mem_singleton_self _
  · rintro ⟨track, attached, rfl⟩
    have member := attached.1
    rw [collect] at member
    cases List.mem_singleton.mp member
    rfl

/-- The media of the stream declared last. -/
def GstKvsSink.lastMedia (sink : GstKvsSink) : Option DeclaredMedia :=
  sink.declarations.getLast?.map (·.2.media)

/-- Caps of H.265. -/
def h265Caps : CapsStructure := { name := "video/x-h265", codecData := some "0164001f" }

/-- A second H.264 session declares what a fresh element would. -/
theorem second_h264_session_declares_as_fresh :
    ∃ sink created, runFromInit .sample 0 ([.requestNewPad .video true] ++
        upTo (fun _ => some [h264Caps]) ++ downToNull) = some sink ∧
      DeclaresAsFresh .sample sink { allowedCaps := fun _ => some [h264Caps] } created := by
  have evaluated : (runFromInit .sample 0 ([.requestNewPad .video true] ++
      upTo (fun _ => some [h264Caps]) ++ downToNull)).map (fun sink =>
        (sink.data.mediaType, sink.collect, sink.pads,
          accepts sink (.changeState .nullToReady { allowedCaps := fun _ => some [h264Caps] }),
          (nullToReady .sample sink { allowedCaps := fun _ => some [h264Caps] }).2)) =
      some (.videoOnly, [⟨0, false, .video, 1⟩], [0], true, .success) := by decide
  obtain ⟨sink, ran, facts⟩ := Option.map_eq_some_iff.mp evaluated
  simp only [Prod.mk.injEq] at facts
  obtain ⟨media, collect, pads, admitted, started⟩ := facts
  refine ⟨sink, _, ran, session_declares_as_fresh ran ?_ admitted (one_video_pad_agrees media collect pads)
    (by simp [media]) (Prod.ext rfl started)⟩
  intro requested accepted
  refine ⟨trivial, fun ready started => ⟨fun _ => ⟨?_, fun _ => ?_, fun _ => ?_⟩, ?_⟩⟩
  · cases accepted
    intro audio
    cases audio
  · cases accepted
    decide
  · cases accepted
    decide
  · exact fun _ _ => ⟨trivial, fun _ _ => ⟨trivial, fun _ _ => ⟨trivial, trivial⟩⟩⟩

/-- The media that a session and the same session of a fresh element declare. -/
def declaredBeside (sink : GstKvsSink) (outcome : ChangeStateOutcome) :
    Option DeclaredMedia × Option DeclaredMedia :=
  ((nullToReady .sample sink outcome).1.lastMedia,
    (nullToReady .sample sink.freshTwin { allowedCaps := outcome.allowedCaps }).1.lastMedia)

private theorem declares_as_fresh_beside
    (asFresh : DeclaresAsFresh .sample sink outcome (nullToReady .sample sink outcome).1) :
    (declaredBeside sink outcome).1 = (declaredBeside sink outcome).2 := by
  obtain ⟨definition, twin, twinDefinition, declared, started, twinDeclared, same⟩ := asFresh
  unfold declaredBeside GstKvsSink.lastMedia
  rw [declared, started, twinDeclared]
  simp [same]

/-- After an H.265 session, a session on H.264 is still declared as H.265. -/
theorem h264_session_declares_the_h265_of_the_last :
    ∃ sink created, runFromInit .sample 0 ([.requestNewPad .video true] ++
        upTo (fun _ => some [h265Caps]) ++ downToNull) = some sink ∧
      accepts sink (.changeState .nullToReady { allowedCaps := fun _ => some [h264Caps] }) = true ∧
      sink.MediaAgrees ∧
      nullToReady .sample sink { allowedCaps := fun _ => some [h264Caps] } = (created, .success) ∧
      ¬ DeclaresAsFresh .sample sink { allowedCaps := fun _ => some [h264Caps] } created := by
  have evaluated : (runFromInit .sample 0 ([.requestNewPad .video true] ++
      upTo (fun _ => some [h265Caps]) ++ downToNull)).map (fun sink =>
        (sink.data.mediaType, sink.collect, sink.pads,
          accepts sink (.changeState .nullToReady { allowedCaps := fun _ => some [h264Caps] }),
          (nullToReady .sample sink { allowedCaps := fun _ => some [h264Caps] }).2)) =
      some (.videoOnly, [⟨0, false, .video, 1⟩], [0], true, .success) := by decide
  have beside : (runFromInit .sample 0 ([.requestNewPad .video true] ++
      upTo (fun _ => some [h265Caps]) ++ downToNull)).map (fun sink =>
        declaredBeside sink { allowedCaps := fun _ => some [h264Caps] }) =
      some (some ⟨[⟨1, "kinesis_video", "V_MPEGH/ISO/HEVC", .video⟩], "video/h264", true⟩,
        some ⟨[⟨1, "kinesis_video", "V_MPEG4/ISO/AVC", .video⟩], "video/h264", true⟩) := by decide
  obtain ⟨sink, ran, facts⟩ := Option.map_eq_some_iff.mp evaluated
  simp only [Prod.mk.injEq] at facts
  obtain ⟨media, collect, pads, admitted, started⟩ := facts
  refine ⟨sink, _, ran, admitted, one_video_pad_agrees media collect pads, Prod.ext rfl started, ?_⟩
  intro asFresh
  have same := declares_as_fresh_beside asFresh
  rw [ran, Option.map_some, Option.some.injEq] at beside
  rw [beside] at same
  revert same
  decide

end KvsProducer
