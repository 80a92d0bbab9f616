import KvsProducer.PadBookkeeping
import KvsProducer.SessionStrings

/-! The media that a start declares. As long as the element owns its strings,
they are a function of a few fields and of the texts, however often the stream
is retried; the heap behind the strings does not show. -/
namespace KvsProducer
open Gst GLib KvsSinkUtil History Runs

/-! ## What a declaration depends on -/

/-- The fields, besides the strings, that settle which media are declared and
whether the declaration is admitted. -/
structure MediaFields where
  streamName : Option String
  userAgent : Option String
  kmsKeyId : Option String
  streamTags : Option GstStructure
  mediaType : MediaType
  trackInfoType : MkvTrackInfoType
  keyFrameFragmentation : Bool

def GstKvsSink.mediaFields (sink : GstKvsSink) : MediaFields :=
  ⟨sink.streamName, sink.userAgent, sink.kmsKeyId, sink.streamTags, sink.data.mediaType,
    sink.trackInfoType, sink.keyFrameFragmentation⟩

/-- Reading the tags throws nothing. -/
def TagsRead (streamTags : Option GstStructure) : Prop :=
  ∃ ret, (readStreamTags streamTags).1 = .ok ret

/-- Reading the tags throws nothing, and those handed on fail no assertion. -/
structure TagsPass (pic : Pic) (streamTags : Option GstStructure) : Prop where
  read : TagsRead streamTags
  fit : TagsFit pic (parsedStreamTags streamTags)

theorem no_tags_pass (pic : Pic) : TagsPass pic none := ⟨⟨_, rfl⟩, nofun⟩

/-- The part of a definition that describes the media: its tracks with their
codec ids, names and types, its content type, and how it is cut. -/
structure DeclaredMedia where
  tracks : List StreamTrackInfo
  contentType : String
  keyFrameFragmentation : Bool
  deriving DecidableEq, Repr

def StreamDefinition.media (definition : StreamDefinition) : DeclaredMedia :=
  ⟨definition.trackInfo, definition.contentType, definition.keyFrameFragmentation⟩

/-- The media that these fields and texts describe. -/
def MediaFields.media (fields : MediaFields) (texts : SinkTexts) (content : String) : DeclaredMedia where
  tracks :=
    let first : StreamTrackInfo := ⟨kvsSinkDefaultTrackId, texts.name, texts.codec, fields.trackInfoType⟩
    if fields.mediaType = .audioVideo then
      [first, ⟨kvsSinkDefaultAudioTrackId, defaultAudioTrackName, texts.audio, .audio⟩]
    else [first]
  contentType := content
  keyFrameFragmentation := fields.keyFrameFragmentation

/-- The pointers that must not be NULL are not, every text is short enough, and
so are the tags. -/
structure MediaFields.Admitted (pic : Pic) (fields : MediaFields) (texts : SinkTexts)
    (content : String) : Prop where
  streamName : ∃ name, fields.streamName = some name ∧ name.utf8ByteSize ≤ pic.maxStreamNameLen
  userAgent : fields.userAgent.isSome = true
  kmsKeyId : ∃ key, fields.kmsKeyId = some key ∧ key.utf8ByteSize ≤ pic.maxArnLen
  tags : TagsPass pic fields.streamTags
  contentType : content.utf8ByteSize ≤ pic.maxContentTypeLen
  codecId : texts.codec.utf8ByteSize ≤ pic.mkvMaxCodecIdLen
  trackName : texts.name.utf8ByteSize ≤ pic.mkvMaxTrackNameLen

/-- What the texts admit is declared, and describes the media of the fields. -/
theorem admitted_declares (admitted : sink.mediaFields.Admitted pic texts content) :
    ∃ definition, declareTexts pic sink texts content = .ok definition := by
  obtain ⟨⟨streamName, named, name⟩, agent, ⟨kmsKeyId, key, arn⟩, ⟨⟨ret, read⟩, fit⟩, type, codec, track⟩ :=
    admitted
  obtain ⟨userAgent, agent⟩ := Option.isSome_iff_exists.mp agent
  change sink.streamName = some streamName at named
  change sink.userAgent = some userAgent at agent
  change sink.kmsKeyId = some kmsKeyId at key
  change (readStreamTags sink.streamTags).1 = .ok ret at read
  have built : StreamDefinition.new pic (streamConfiguration sink streamName kmsKeyId content)
      ⟨kvsSinkDefaultTrackId, texts.name, texts.codec, sink.trackInfoType⟩ = .ok _ :=
    new_accepts_iff.mpr ⟨⟨name, arn, type, codec, track⟩, fit, rfl⟩
  unfold declareTexts
  rw [read, named, agent, key]
  simp only [throwIfNull, bind, Except.bind, built]
  split <;> exact ⟨_, rfl⟩

private theorem declared_media (declared : declareTexts pic sink texts content = .ok definition) :
    sink.mediaFields.Admitted pic texts content ∧
      definition.media = sink.mediaFields.media texts content := by
  unfold declareTexts at declared
  cases read : (readStreamTags sink.streamTags).1 with
  | error raised => rw [read] at declared; cases declared
  | ok ret =>
    cases named : sink.streamName with
    | none => rw [read, named] at declared; cases declared
    | some streamName =>
      cases agent : sink.userAgent with
      | none => rw [read, named, agent] at declared; cases declared
      | some userAgent =>
        cases key : sink.kmsKeyId with
        | none => rw [read, named, agent, key] at declared; cases declared
        | some kmsKeyId =>
          rw [read, named, agent, key] at declared
          simp only [throwIfNull, bind, Except.bind] at declared
          split at declared
          · cases declared
          · rename_i built
            obtain ⟨⟨name, arn, type, codec, track⟩, fit, rfl⟩ := new_accepts_iff.mp built
            refine ⟨⟨⟨streamName, named, name⟩, Option.isSome_iff_exists.mpr ⟨userAgent, agent⟩,
              ⟨kmsKeyId, key, arn⟩, ⟨⟨ret, read⟩, fit⟩, type, codec, track⟩, ?_⟩
            have same : sink.mediaFields.mediaType = sink.data.mediaType := rfl
            unfold MediaFields.media
            rw [same]
            split at declared <;> rename_i both <;> cases declared
            · rw [if_pos both]
              rfl
            · rw [if_neg both]
              rfl

/-! ## One attempt -/

/-- The texts that the switch on the media type leaves to declare. -/
def SinkTexts.declaredFor (texts : SinkTexts) : MediaType → SinkTexts
  | .audioOnly => ⟨texts.audio, texts.audio, defaultAudioTrackName⟩
  | _ => texts

/-- The fields that the switch on the media type leaves to declare. -/
def MediaFields.prepared (fields : MediaFields) : MediaFields :=
  if fields.mediaType = .audioOnly then
    { fields with trackInfoType := .audio, keyFrameFragmentation := false }
  else fields

/-- The media that a session with these fields and texts declares. -/
def MediaFields.declared (fields : MediaFields) (texts : SinkTexts) (content : String) :
    DeclaredMedia := fields.prepared.media (texts.declaredFor fields.mediaType) content

/-- The sink has these fields, and its strings are its own and read like this. -/
structure GstKvsSink.Reads (sink : GstKvsSink) (fields : MediaFields) (texts : SinkTexts)
    (content : String) : Prop where
  fields : sink.mediaFields = fields
  strings : ∃ block, sink.contentType = some block ∧ block.text = content ∧
    OwnsStrings sink.strings texts

theorem prepared_fields (sink : GstKvsSink) : sink.prepared.mediaFields = sink.mediaFields.prepared := by
  obtain ⟨absoluteFragmentTimes, ptsBase, changed⟩ := file_start_time_changes sink
  have timed : (applyFileStartTime sink).mediaFields = sink.mediaFields := by
    rw [changed]
    rfl
  unfold GstKvsSink.prepared
  rw [← timed]
  generalize applyFileStartTime sink = before
  have same : before.mediaFields.mediaType = before.data.mediaType := rfl
  unfold MediaFields.prepared
  rw [same]
  unfold applyMediaType
  split <;> rename_i media
  · rw [if_neg (by simp [media])]
    rfl
  · rw [if_pos media]
    rfl
  · rw [if_neg (by simp [media])]

/-- The strings from which the stream is declared are owned and read like this,
after the audio-only branch too. -/
theorem prepared_reads {sink : GstKvsSink} (reads : sink.Reads fields texts content) :
    ∃ blocks contentBlock codec audio name, Owned sink.prepared.heap blocks ∧
      (sink.prepared.contentType = some contentBlock ∧ contentBlock ∈ blocks ∧
        contentBlock.text = content) ∧
      (sink.prepared.codecId = some codec ∧ codec ∈ blocks ∧
        codec.text = (texts.declaredFor fields.mediaType).codec) ∧
      (sink.prepared.audioCodecId = some audio ∧ audio ∈ blocks ∧
        audio.text = (texts.declaredFor fields.mediaType).audio) ∧
      (sink.prepared.trackName = some name ∧ name ∈ blocks ∧
        name.text = (texts.declaredFor fields.mediaType).name) := by
  obtain ⟨rfl, block, stored, contentText, codec, audio, name, codecId, audioId, named, codecText,
    audioText, nameText, owned⟩ := reads
  have blocks : blocksOf sink.strings.contentType = {block} := congrArg blocksOf stored
  rw [blocks] at owned
  obtain ⟨absoluteFragmentTimes, ptsBase, changed⟩ := file_start_time_changes sink
  have timed : (applyFileStartTime sink).mediaFields = sink.mediaFields ∧
      (applyFileStartTime sink).contentType = sink.contentType ∧
      (applyFileStartTime sink).strings = sink.strings := by
    rw [changed]
    exact ⟨rfl, rfl, rfl⟩
  unfold GstKvsSink.prepared
  rw [← timed.1]
  rw [← timed.2.1] at stored
  rw [← timed.2.2] at codecId audioId named owned
  generalize applyFileStartTime sink = before at stored codecId audioId named owned
  have same : before.mediaFields.mediaType = before.data.mediaType := rfl
  rw [same]
  have codecMine : codec ∈ {codec} + ({audio} + ({name} + ({block} : Multiset GString))) := by simp
  have audioMine : audio ∈ {codec} + ({audio} + ({name} + ({block} : Multiset GString))) := by simp
  have nameMine : name ∈ {codec} + ({audio} + ({name} + ({block} : Multiset GString))) := by simp
  have blockMine : block ∈ {codec} + ({audio} + ({name} + ({block} : Multiset GString))) := by simp
  unfold applyMediaType
  split <;> rename_i media
  · rw [media]
    exact ⟨_, block, codec, audio, name, owned, ⟨stored, blockMine, contentText⟩,
      ⟨codecId, codecMine, codecText⟩, ⟨audioId, audioMine, audioText⟩, named, nameMine, nameText⟩
  · rw [media]
    -- the codec and the old name go; the audio codec stands in both fields
    have codecSame : before.codecId = some codec := codecId
    have nameSame : before.trackName = some name := named
    have freed : Owned (gFree before.heap (some codec)) ({audio} + ({name} + {block})) := owned.free
    rw [add_left_comm] at freed
    have renamed := freed.free.strdup defaultAudioTrackName
    rw [← codecSame, ← nameSame] at renamed
    exact ⟨_, block, audio, audio, _, renamed, ⟨stored, by simp, contentText⟩,
      ⟨audioId, by simp, audioText⟩, ⟨audioId, by simp, audioText⟩, rfl, by simp, rfl⟩
  · rw [media]
    exact ⟨_, block, codec, audio, name, owned, ⟨stored, blockMine, contentText⟩,
      ⟨codecId, codecMine, codecText⟩, ⟨audioId, audioMine, audioText⟩, named, nameMine, nameText⟩

/-- An attempt declares the texts. -/
theorem prepared_defines {sink : GstKvsSink} (reads : sink.Reads fields texts content) (pic : Pic)
    (residue : ℕ → String) :
    defineStream pic sink.prepared residue = (sink.prepared.heap,
      declareTexts pic sink.prepared (texts.declaredFor fields.mediaType) content) := by
  obtain ⟨blocks, contentBlock, codec, audio, name, owned, ⟨stored, contentMine, contentText⟩,
    ⟨codecId, codecMine, codecText⟩, ⟨audioId, audioMine, audioText⟩, named, nameMine, nameText⟩ :=
    prepared_reads reads
  rw [define_reads owned stored contentMine codecId codecMine named nameMine audioId audioMine,
    contentText, codecText, audioText, nameText]

/-- What the producer asks of a declaration. -/
structure MediaFields.Creatable (pic : Pic) (fields : MediaFields) (texts : SinkTexts)
    (content : String) : Prop where
  admitted : fields.prepared.Admitted pic (texts.declaredFor fields.mediaType) content
  trackCount : (fields.declared texts content).tracks.length ≤ pic.maxSupportedTrackCountPerStream

/-- An attempt that creates a stream declares the media of its sink. -/
theorem attempt_declares {sink : GstKvsSink} (reads : sink.Reads fields texts content)
    (created : createKinesisVideoStream pic sink residue status = (after, .ok ())) :
    fields.Creatable pic texts content ∧
      ∃ definition, definition.media = fields.declared texts content ∧
        after.declarations = sink.declarations ++ [(sink.nextStream, definition)] := by
  have shown : sink.prepared.mediaFields = fields.prepared := by
    rw [prepared_fields, reads.fields]
  have prepared := prepared_keeps sink
  obtain ⟨producer, heap, definition, defined, few, rfl⟩ := create_stream_built created
  rw [prepared_defines reads] at defined
  obtain ⟨admitted, media⟩ := declared_media (congrArg Prod.snd defined)
  rw [shown] at admitted media
  refine ⟨⟨admitted, ?_⟩, definition, media, ?_⟩
  · rw [MediaFields.declared, ← media]
    exact few
  · rw [created_declarations, prepared.nextStream, GstKvsSink.declarations, prepared.calls]
    rfl

/-- A declaration that nothing refuses creates a stream. -/
theorem attempt_creates {sink : GstKvsSink} (reads : sink.Reads fields texts content)
    (creatable : fields.Creatable pic texts content)
    (held : sink.data.kinesisVideoProducer = some producer) (residue : ℕ → String)
    (accepted : statusFailed status = false) :
    ∃ after, createKinesisVideoStream pic sink residue status = (after, .ok ()) := by
  have shown : sink.prepared.mediaFields = fields.prepared := by
    rw [prepared_fields, reads.fields]
  have admitted := creatable.admitted
  rw [← shown] at admitted
  obtain ⟨definition, declared⟩ := admitted_declares admitted
  have media := (declared_media declared).2
  rw [shown] at media
  have few : definition.getTrackCount ≤ pic.maxSupportedTrackCountPerStream := by
    have count := creatable.trackCount
    rw [MediaFields.declared, ← media] at count
    exact count
  have producing := (prepared_keeps sink).producer.trans held
  have defined := prepared_defines reads pic residue
  rw [declared] at defined
  unfold createKinesisVideoStream createStreamSync
  generalize same : applyMediaType (applyFileStartTime sink) = ready
  change sink.prepared = ready at same
  rw [same] at defined producing
  simp only [defined, producing, Nat.not_lt.mpr few, accepted, if_false]
  exact ⟨_, rfl⟩

/-- Preparing an attempt leaves the strings of a session with video alone. -/
theorem prepared_strings {sink : GstKvsSink} (video : sink.data.mediaType ≠ .audioOnly) :
    sink.prepared.strings = sink.strings := by
  obtain ⟨absoluteFragmentTimes, ptsBase, changed⟩ := file_start_time_changes sink
  unfold GstKvsSink.prepared
  rw [changed]
  unfold applyMediaType
  simp only
  split <;> rename_i media
  · rfl
  · exact absurd media video
  · rfl

private theorem created_reads {ready : GstKvsSink} (reads : ready.Reads fields texts content)
    (producer : ProducerId) (definition : StreamDefinition) :
    (ready.created ready.heap producer definition).Reads fields texts content :=
  ⟨reads.fields, reads.strings⟩

/-- However an attempt of a session with video ends, the next one reads the same. -/
theorem attempt_reads {before : GstKvsSink} (reads : before.Reads fields texts content)
    (video : fields.mediaType ≠ .audioOnly)
    (attempt : createKinesisVideoStream pic before residue status = (after, result)) :
    after.Reads fields texts content := by
  have carries : before.data.mediaType ≠ .audioOnly := by
    rw [← reads.fields] at video
    exact video
  have strings := prepared_strings carries
  have stored : before.prepared.contentType = before.contentType :=
    congrArg SinkStrings.contentType strings
  have shown := prepared_fields before
  rw [reads.fields, MediaFields.prepared, if_neg video] at shown
  have heap : (defineStream pic before.prepared residue).1 = before.prepared.heap := by
    rw [prepared_defines reads]
  obtain ⟨block, content, contentText, owns⟩ := reads.strings
  rw [← strings] at owns
  have ready : before.prepared.Reads fields texts _ := ⟨shown, block, stored.trans content, contentText, owns⟩
  cases result with
  | error raised =>
    obtain ⟨calls, rfl, _⟩ := create_stream_failed attempt
    rw [heap]
    exact ⟨ready.fields, ready.strings⟩
  | ok =>
    obtain ⟨producer, kept, definition, defined, _, rfl⟩ := create_stream_built attempt
    rw [defined] at heap
    simp only at heap
    rw [heap]
    exact created_reads ready producer definition

/-! ## The retries and the start -/

/-- However often it retries, a session with video declares the same media. -/
theorem retries_declare {sink : GstKvsSink} (reads : sink.Reads fields texts content)
    (video : fields.mediaType ≠ .audioOnly)
    (ran : kinesisVideoStreamInit pic sink outcome = (created, .ok ())) :
    fields.Creatable pic texts content ∧
      ∃ definition, definition.media = fields.declared texts content ∧
        created.declarations = sink.declarations ++ [(sink.nextStream, definition)] := by
  have keeps (before after : GstKvsSink) (status : Status) (raised : Raised)
      (kept : before.Reads fields texts content ∧ SameDeclaration sink before)
      (failed : createKinesisVideoStream pic before outcome.residue status = (after, .error raised)) :
      after.Reads fields texts content ∧ SameDeclaration sink after :=
    ⟨attempt_reads kept.1 video failed, failed_attempt_declares_nothing kept.2 failed⟩
  obtain ⟨tried, status, ⟨readsThen, same⟩, attempt⟩ :=
    last_attempt keeps ⟨reads, rfl, rfl, rfl, rfl, rfl⟩ ran
  obtain ⟨creatable, definition, media, declared⟩ := attempt_declares readsThen attempt
  rw [same.declarations, same.nextStream] at declared
  exact ⟨creatable, definition, media, declared⟩

/-- However the retries of a session with video end, the strings read the same. -/
theorem retries_read {sink : GstKvsSink} (reads : sink.Reads fields texts content)
    (video : fields.mediaType ≠ .audioOnly)
    (ran : kinesisVideoStreamInit pic sink outcome = (after, result)) :
    after.Reads fields texts content := by
  have keeps (before after : GstKvsSink) (status : Status) (raised : Raised)
      (kept : before.Reads fields texts content)
      (failed : createKinesisVideoStream pic before outcome.residue status = (after, .error raised)) :
      after.Reads fields texts content := attempt_reads kept video failed
  unfold kinesisVideoStreamInit at ran
  cases result with
  | error raised => exact failed_attempts keeps reads ran
  | ok =>
    obtain ⟨tried, status, kept, attempt⟩ := last_attempt keeps reads ran
    exact attempt_reads kept video attempt

/-- When the first attempt is not refused, every session declares its media. -/
theorem first_attempt_declares {sink : GstKvsSink} (reads : sink.Reads fields texts content)
    (creatable : fields.Creatable pic texts content)
    (held : sink.data.kinesisVideoProducer = some producer)
    (accepted : statusFailed (outcome.createStatus 0) = false) :
    ∃ created definition, kinesisVideoStreamInit pic sink outcome = (created, .ok ()) ∧
      definition.media = fields.declared texts content ∧
      created.declarations = sink.declarations ++ [(sink.nextStream, definition)] := by
  obtain ⟨after, attempt⟩ := attempt_creates reads creatable held outcome.residue accepted
  obtain ⟨_, definition, media, declared⟩ := attempt_declares reads attempt
  refine ⟨after, definition, ?_, media, declared⟩
  unfold kinesisVideoStreamInit defaultTotalRetry kinesisVideoStreamInitLoop
  simp only [defaultTotalRetry, Nat.sub_self, attempt]

/-- The kind of the track that can carry this. -/
def TrackMedia.kind : TrackMedia → MkvTrackInfoType
  | .h264 | .h265 => .video
  | _ => .audio

theorem media_of_track (accepted : trackMedia allowedCaps track = some media) :
    media.kind = track.trackType := by
  unfold trackMedia at accepted
  repeat' split at accepted
  all_goals cases accepted
  all_goals simp [TrackMedia.kind, *]

theorem walked_members (accepted : ∀ track ∈ tracks, (trackMedia allowedCaps track).isSome = true)
    (member : track ∈ tracks) : ∃ media ∈ walkedMedia allowedCaps tracks, media.kind = track.trackType := by
  induction tracks with
  | nil => cases member
  | cons first rest ih =>
    obtain ⟨media, here⟩ := Option.isSome_iff_exists.mp (accepted first List.mem_cons_self)
    rw [walkedMedia, here]
    rcases List.mem_cons.mp member with rfl | later
    · exact ⟨media, List.mem_cons_self, media_of_track here⟩
    · obtain ⟨other, inside, kind⟩ := ih
        (fun track member => accepted track (List.mem_cons_of_mem first member)) later
      exact ⟨other, List.mem_cons_of_mem media inside, kind⟩

/-- Each kind of track leaves its content type. -/
theorem walked_kinds (pic : Pic) (media : List TrackMedia) (texts : ScanTexts) :
    ((media.foldl (TrackMedia.texts pic) texts).videoContent.isSome = true ↔
        texts.videoContent.isSome = true ∨ ∃ one ∈ media, one.kind = .video) ∧
      ((media.foldl (TrackMedia.texts pic) texts).audioContent.isSome = true ↔
        texts.audioContent.isSome = true ∨ ∃ one ∈ media, one.kind = .audio) := by
  induction media generalizing texts with
  | nil => simp
  | cons first rest ih =>
    obtain ⟨video, audio⟩ := ih (first.texts pic texts)
    rw [List.foldl_cons, video, audio]
    cases first with
    | h264 | h265 | aac | alaw | mulaw => simp [TrackMedia.texts, TrackMedia.kind]

/-- The media type names exactly the kinds of the pads on the element. -/
def GstKvsSink.MediaAgrees (sink : GstKvsSink) : Prop :=
  ∀ kind, sink.data.mediaType.covers kind ↔ ∃ track, sink.Attached track ∧ track.trackType = kind

/-- A walk over the tracks that the media type names settles a content type,
whatever the strings read before. -/
theorem content_settled {sink : GstKvsSink} (agrees : sink.MediaAgrees)
    (accepted : ∀ track ∈ sink.collect, (trackMedia outcome.allowedCaps track).isSome = true) (pic : Pic) :
    ∃ content, ∀ texts, sink.contentAfterWalk pic outcome texts = some content := by
  have carried (kind : MkvTrackInfoType) (covered : sink.data.mediaType.covers kind) :
      ∃ one ∈ walkedMedia outcome.allowedCaps sink.collect, one.kind = kind := by
    obtain ⟨track, attached, isKind⟩ := (agrees kind).mp covered
    obtain ⟨one, inside, same⟩ := walked_members accepted attached.1
    exact ⟨one, inside, same.trans isKind⟩
  have settled (texts : SinkTexts) : ∃ content, sink.contentAfterWalk pic outcome texts = some content := by
    obtain ⟨video, audio⟩ := walked_kinds pic (walkedMedia outcome.allowedCaps sink.collect)
      { codec := texts.codec, audio := texts.audio }
    unfold GstKvsSink.contentAfterWalk walkedTexts joinTexts
    simp only
    cases media : sink.data.mediaType with
    | audioVideo =>
      rw [media] at carried
      obtain ⟨_, someVideo⟩ := Option.isSome_iff_exists.mp (video.mpr (.inr (carried .video trivial)))
      obtain ⟨_, someAudio⟩ := Option.isSome_iff_exists.mp (audio.mpr (.inr (carried .audio trivial)))
      rw [someVideo, someAudio]
      exact ⟨_, rfl⟩
    | videoOnly =>
      rw [media] at carried
      obtain ⟨_, someVideo⟩ := Option.isSome_iff_exists.mp (video.mpr (.inr (carried .video rfl)))
      rw [someVideo]
      exact ⟨_, rfl⟩
    | audioOnly =>
      rw [media] at carried
      obtain ⟨_, someAudio⟩ := Option.isSome_iff_exists.mp (audio.mpr (.inr (carried .audio rfl)))
      rw [someAudio]
      exact ⟨_, rfl⟩
  obtain ⟨content, first⟩ := settled ⟨"", "", ""⟩
  refine ⟨content, fun texts => ?_⟩
  rw [← first]
  obtain ⟨video, audio⟩ := @walked_contents pic (walkedMedia outcome.allowedCaps sink.collect)
    { codec := texts.codec, audio := texts.audio } { codec := "", audio := "" } rfl rfl
  unfold GstKvsSink.contentAfterWalk walkedTexts
  simp only [video, audio]

private theorem produced_holds (produced : kinesisVideoProducerInit sink outcome = (held, .ok ())) :
    ∃ producer, held.data.kinesisVideoProducer = some producer := by
  have ends := producer_init_ends sink outcome
  rw [produced] at ends
  cases ends with
  | produced => exact ⟨_, rfl⟩

/-- A start that has its producer, whose tracks are accepted and whose content
type is settled, comes to its stream with the texts after the walk. -/
theorem start_reads {sink : GstKvsSink} (owns : OwnsStrings sink.strings texts)
    (produced : kinesisVideoProducerInit sink outcome = (held, .ok ()))
    (accepted : ∀ track ∈ sink.collect, (trackMedia outcome.allowedCaps track).isSome = true)
    (settled : sink.contentAfterWalk pic outcome texts = some content) :
    ∃ walked producer, initTrackData pic held outcome = (walked, .ok ()) ∧
      walked.forgetTimeline.Reads sink.mediaFields (sink.textsAfterWalk pic outcome texts) content ∧
      walked.forgetTimeline.data.kinesisVideoProducer = some producer ∧
      walked.forgetTimeline.declarations = sink.declarations ∧
      walked.forgetTimeline.nextStream = sink.nextStream := by
  obtain ⟨producer, holds⟩ := produced_holds produced
  obtain ⟨dataUseCount, calls, nextProducer, kept, changed, grown⟩ := producer_init_changes sink outcome
  rw [produced] at changed
  simp only at changed
  subst changed
  have silent : (sink.producing dataUseCount calls nextProducer kept).declarations =
      sink.declarations := declarations_of_grows grown
  have ownsThen : OwnsStrings (sink.producing dataUseCount calls nextProducer kept).strings texts := owns
  obtain ⟨owned, ends⟩ := track_data_owns ownsThen pic outcome
  obtain ⟨done, block, contentType, contentText⟩ := ends accepted content settled
  obtain ⟨collect, heap, type, codecId, audioCodecId, walked⟩ :=
    track_data_changes pic (sink.producing dataUseCount calls nextProducer kept) outcome
  rw [walked] at owned contentType
  refine ⟨_, producer, Prod.ext walked done, ⟨rfl, block, contentType, contentText, owned⟩, holds, ?_, rfl⟩
  exact silent

end KvsProducer
