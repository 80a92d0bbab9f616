import Mathlib.Algebra.Order.Group.Multiset
import Mathlib.Tactic.Abel
import KvsProducer.StreamCreation

/-! The strings of a session. The walk over the tracks and the attempts to create
a stream pass owning pointers around; seen from outside they compute texts. Here
the texts are computed without the heap, and the heap is shown to follow, as
long as every string has one owner. -/
namespace KvsProducer
open Gst GLib History Runs

/-! ## The walk, as a function of the caps -/

/-- What a track can carry. -/
inductive TrackMedia where
  | h264 | h265 | aac | alaw | mulaw
  deriving DecidableEq, Repr

/-- What the caps of its peer make of a track, if kvssink accepts it. -/
def trackMedia (allowedCaps : PadId → Option GstCaps) (track : GstKvsSinkTrackData) :
    Option TrackMedia :=
  match track.trackType, allowedCaps track.pad with
  | .video, some (first :: _) =>
    if strncmpEq first.name gstreamerMediaTypeH264 maxGstreamerMediaTypeLen then some .h264
    else if strncmpEq first.name gstreamerMediaTypeH265 maxGstreamerMediaTypeLen then some .h265
    else none
  | .audio, some (first :: _) =>
    if strncmpEq first.name gstreamerMediaTypeAac maxGstreamerMediaTypeLen then some .aac
    else if strncmpEq first.name gstreamerMediaTypeAlaw maxGstreamerMediaTypeLen then some .alaw
    else if strncmpEq first.name gstreamerMediaTypeMulaw maxGstreamerMediaTypeLen then some .mulaw
    else none
  | _, _ => none

/-- The tracks that the walk goes over before it ends or throws. -/
def walkedMedia (allowedCaps : PadId → Option GstCaps) : List GstKvsSinkTrackData → List TrackMedia
  | [] => []
  | track :: rest =>
    match trackMedia allowedCaps track with
    | none => []
    | some media => media :: walkedMedia allowedCaps rest

/-- What one track does to the strings of the walk. -/
def TrackMedia.scan (pic : Pic) (scan : TrackScan) : TrackMedia → TrackScan
  | .h264 => scan.setVideoContentType pic.mkvH264ContentType
  | .h265 => (scan.setCodecId defaultCodecIdH265).setVideoContentType pic.mkvH265ContentType
  | .aac => scan.setAudioContentType pic.mkvAacContentType
  | .alaw => (scan.setAudioCodecId defaultAudioCodecIdPcm).setAudioContentType pic.mkvAlawContentType
  | .mulaw =>
    (scan.setAudioCodecId defaultAudioCodecIdPcm).setAudioContentType pic.mkvMulawContentType

/-- One round of the walk. -/
def scanTrack (pic : Pic) (streamName : String) (allowedCaps : PadId → Option GstCaps)
    (track : GstKvsSinkTrackData) (scan : TrackScan) : TrackScan × Except Raised Unit :=
  match track.trackType with
  | .video => initVideoTrack pic streamName (allowedCaps track.pad) scan
  | .audio => initAudioTrack pic (allowedCaps track.pad) scan

theorem scan_track (pic : Pic) (streamName : String) (allowedCaps : PadId → Option GstCaps)
    (track : GstKvsSinkTrackData) (scan : TrackScan) :
    (∃ media, trackMedia allowedCaps track = some media ∧
        scanTrack pic streamName allowedCaps track scan = (media.scan pic scan, .ok ())) ∨
      trackMedia allowedCaps track = none ∧
        ∃ raised, scanTrack pic streamName allowedCaps track scan = (scan, .error raised) := by
  unfold scanTrack trackMedia
  cases track.trackType with
  | video =>
    simp only
    cases allowedCaps track.pad with
    | none => exact .inr ⟨rfl, _, rfl⟩
    | some caps =>
      cases caps with
      | nil => exact .inr ⟨rfl, _, rfl⟩
      | cons first rest =>
        simp only [initVideoTrack]
        split
        · exact .inl ⟨_, rfl, rfl⟩
        · split
          · exact .inl ⟨_, rfl, rfl⟩
          · exact .inr ⟨rfl, _, rfl⟩
  | audio =>
    simp only
    cases allowedCaps track.pad with
    | none => exact .inr ⟨rfl, _, rfl⟩
    | some caps =>
      cases caps with
      | nil => exact .inr ⟨rfl, _, rfl⟩
      | cons first rest =>
        simp only [initAudioTrack]
        split
        · exact .inl ⟨_, rfl, rfl⟩
        · split
          · exact .inl ⟨_, rfl, rfl⟩
          · split
            · exact .inl ⟨_, rfl, rfl⟩
            · exact .inr ⟨rfl, _, rfl⟩

theorem init_tracks_cons (pic : Pic) (streamName : String) (mediaType : MediaType)
    (allowedCaps : PadId → Option GstCaps) (track : GstKvsSinkTrackData)
    (rest : List GstKvsSinkTrackData) (scan : TrackScan) :
    initTracks pic streamName mediaType allowedCaps (track :: rest) scan =
      match scanTrack pic streamName allowedCaps track scan with
      | (scanned, .error raised) => (initTrackId mediaType track :: rest, scanned, .error raised)
      | (scanned, .ok ()) =>
        let later := initTracks pic streamName mediaType allowedCaps rest scanned
        (initTrackId mediaType track :: later.1, later.2.1, later.2.2) := by
  rw [initTracks]
  unfold scanTrack
  cases track.trackType with
  | video =>
    simp only
    rcases initVideoTrack pic streamName (allowedCaps track.pad) scan with ⟨scanned, _ | _⟩ <;> rfl
  | audio =>
    simp only
    rcases initAudioTrack pic (allowedCaps track.pad) scan with ⟨scanned, _ | _⟩ <;> rfl

/-- The walk leaves what its tracks make of the strings, and throws exactly at a
track it does not accept. -/
theorem init_tracks_scan (pic : Pic) (streamName : String) (mediaType : MediaType)
    (allowedCaps : PadId → Option GstCaps) (tracks : List GstKvsSinkTrackData) (scan : TrackScan) :
    (initTracks pic streamName mediaType allowedCaps tracks scan).2.1 =
        (walkedMedia allowedCaps tracks).foldl (TrackMedia.scan pic) scan ∧
      ((initTracks pic streamName mediaType allowedCaps tracks scan).2.2 = .ok () ↔
        ∀ track ∈ tracks, (trackMedia allowedCaps track).isSome = true) := by
  induction tracks generalizing scan with
  | nil => exact ⟨rfl, by simp [initTracks]⟩
  | cons track rest ih =>
    rw [init_tracks_cons, walkedMedia]
    obtain ⟨media, accepted, scanned⟩ | ⟨refused, raised, scanned⟩ :=
      scan_track pic streamName allowedCaps track scan
    · obtain ⟨later, ended⟩ := ih (media.scan pic scan)
      rw [scanned, accepted]
      simp only [List.foldl_cons, List.mem_cons, forall_eq_or_imp, accepted, Option.isSome_some,
        true_and]
      exact ⟨later, ended⟩
    · rw [scanned, refused]
      refine ⟨rfl, ?_⟩
      simp only [List.mem_cons, forall_eq_or_imp, refused]
      simp

/-! ## The texts -/

/-- The texts of the walk. -/
structure ScanTexts where
  codec : String
  audio : String
  videoContent : Option String := none
  audioContent : Option String := none

/-- What one track does to the texts. -/
def TrackMedia.texts (pic : Pic) (texts : ScanTexts) : TrackMedia → ScanTexts
  | .h264 => { texts with videoContent := some pic.mkvH264ContentType }
  | .h265 => { texts with codec := defaultCodecIdH265, videoContent := some pic.mkvH265ContentType }
  | .aac => { texts with audioContent := some pic.mkvAacContentType }
  | .alaw => { texts with audio := defaultAudioCodecIdPcm, audioContent := some pic.mkvAlawContentType }
  | .mulaw =>
    { texts with audio := defaultAudioCodecIdPcm, audioContent := some pic.mkvMulawContentType }

/-- The pointers of the walk are to different blocks, which hold these texts and
are not among the blocks the walk does not touch. -/
def ScanHolds (scan : TrackScan) (others : Multiset GString) (texts : ScanTexts) : Prop :=
  ∃ codec audio, scan.codecId = some codec ∧ scan.audioCodecId = some audio ∧
    codec.text = texts.codec ∧ audio.text = texts.audio ∧
    scan.videoContentType.map GString.text = texts.videoContent ∧
    scan.audioContentType.map GString.text = texts.audioContent ∧
    Owned scan.heap ({codec} + ({audio} + (others +
      (blocksOf scan.videoContentType + blocksOf scan.audioContentType))))

private theorem set_codec_holds (holds : ScanHolds scan others texts) (text : String) :
    ScanHolds (scan.setCodecId text) others { texts with codec := text } := by
  obtain ⟨codec, audio, codecId, audioId, _, audioText, video, content, owned⟩ := holds
  refine ⟨(gStrdup (gFree scan.heap (some codec)) text).1, audio, ?_, audioId, rfl, audioText,
    video, content, ?_⟩
  · simp only [TrackScan.setCodecId, codecId]
  · simp only [TrackScan.setCodecId, codecId]
    exact owned.free.strdup text

private theorem set_audio_holds (holds : ScanHolds scan others texts) (text : String) :
    ScanHolds (scan.setAudioCodecId text) others { texts with audio := text } := by
  obtain ⟨codec, audio, codecId, audioId, codecText, _, video, content, owned⟩ := holds
  refine ⟨codec, (gStrdup (gFree scan.heap (some audio)) text).1, codecId, ?_, codecText, rfl,
    video, content, ?_⟩
  · simp only [TrackScan.setAudioCodecId, audioId]
  · simp only [TrackScan.setAudioCodecId, audioId]
    rw [add_left_comm] at owned ⊢
    exact owned.free.strdup text

private theorem set_video_content_holds (holds : ScanHolds scan others texts) (text : String) :
    ScanHolds (scan.setVideoContentType text) others { texts with videoContent := some text } := by
  obtain ⟨codec, audio, codecId, audioId, codecText, audioText, _, content, owned⟩ := holds
  refine ⟨codec, audio, codecId, audioId, codecText, audioText, rfl, content, ?_⟩
  -- the content type of an earlier track is not freed, only forgotten
  apply (owned.strdup text).mono
  apply Multiset.le_iff_exists_add.mpr
  refine ⟨blocksOf scan.videoContentType, ?_⟩
  simp only [TrackScan.setVideoContentType, blocks_of_some]
  abel

private theorem set_audio_content_holds (holds : ScanHolds scan others texts) (text : String) :
    ScanHolds (scan.setAudioContentType text) others { texts with audioContent := some text } := by
  obtain ⟨codec, audio, codecId, audioId, codecText, audioText, video, _, owned⟩ := holds
  refine ⟨codec, audio, codecId, audioId, codecText, audioText, video, rfl, ?_⟩
  apply (owned.strdup text).mono
  apply Multiset.le_iff_exists_add.mpr
  refine ⟨blocksOf scan.audioContentType, ?_⟩
  simp only [TrackScan.setAudioContentType, blocks_of_some]
  abel

/-- The heap follows the texts through the walk. -/
theorem walk_holds (pic : Pic) (holds : ScanHolds scan others texts) (media : List TrackMedia) :
    ScanHolds (media.foldl (TrackMedia.scan pic) scan) others
      (media.foldl (TrackMedia.texts pic) texts) := by
  induction media generalizing scan texts with
  | nil => exact holds
  | cons first rest ih =>
    apply ih
    cases first with
    | h264 => exact set_video_content_holds holds _
    | h265 => exact set_video_content_holds (set_codec_holds holds _) _
    | aac => exact set_audio_content_holds holds _
    | alaw => exact set_audio_content_holds (set_audio_holds holds _) _
    | mulaw => exact set_audio_content_holds (set_audio_holds holds _) _

def TrackMedia.isPcm : TrackMedia → Bool
  | .alaw | .mulaw => true
  | _ => false

/-- The two codec ids after the walk depend on one kind of track each. -/
theorem walked_codecs (pic : Pic) (media : List TrackMedia) (texts : ScanTexts) :
    (media.foldl (TrackMedia.texts pic) texts).codec =
        (if .h265 ∈ media then defaultCodecIdH265 else texts.codec) ∧
      (media.foldl (TrackMedia.texts pic) texts).audio =
        (if media.any TrackMedia.isPcm then defaultAudioCodecIdPcm else texts.audio) := by
  induction media generalizing texts with
  | nil => exact ⟨rfl, rfl⟩
  | cons first rest ih =>
    obtain ⟨codec, audio⟩ := ih (first.texts pic texts)
    rw [List.foldl_cons, codec, audio]
    cases first with
    | h264 | h265 | aac | alaw | mulaw => simp [TrackMedia.texts, TrackMedia.isPcm]

/-- The content types after the walk do not depend on the codec ids before it. -/
theorem walked_contents (pic : Pic) (media : List TrackMedia) {one other : ScanTexts}
    (video : one.videoContent = other.videoContent) (audio : one.audioContent = other.audioContent) :
    (media.foldl (TrackMedia.texts pic) one).videoContent =
        (media.foldl (TrackMedia.texts pic) other).videoContent ∧
      (media.foldl (TrackMedia.texts pic) one).audioContent =
        (media.foldl (TrackMedia.texts pic) other).audioContent := by
  induction media generalizing one other with
  | nil => exact ⟨video, audio⟩
  | cons first rest ih =>
    apply ih
    · cases first <;> first | rfl | exact video
    · cases first <;> first | rfl | exact audio

/-! ## The strings of the element -/

/-- The fields that say what a stream is declared with. An application reaches
them by four properties only. -/
structure SinkStrings where
  heap : Heap
  contentType : GCharPtr
  codecId : GCharPtr
  trackName : GCharPtr
  audioCodecId : GCharPtr
  trackInfoType : MkvTrackInfoType
  keyFrameFragmentation : Bool

def GstKvsSink.strings (sink : GstKvsSink) : SinkStrings :=
  ⟨sink.heap, sink.contentType, sink.codecId, sink.trackName, sink.audioCodecId, sink.trackInfoType,
    sink.keyFrameFragmentation⟩

structure SinkTexts where
  codec : String
  audio : String
  name : String

/-- Each of the three strings has its own block with its text, and the content
type has another if there is one. -/
def OwnsStrings (strings : SinkStrings) (texts : SinkTexts) : Prop :=
  ∃ codec audio name, strings.codecId = some codec ∧ strings.audioCodecId = some audio ∧
    strings.trackName = some name ∧ codec.text = texts.codec ∧ audio.text = texts.audio ∧
    name.text = texts.name ∧
    Owned strings.heap ({codec} + ({audio} + ({name} + blocksOf strings.contentType)))

/-- The text of the content type that the switch stores. -/
def joinTexts (mediaType : MediaType) (video audio : Option String) : Option String :=
  match mediaType, video, audio with
  | .audioVideo, some video, some audio => some (video ++ "," ++ audio)
  | .audioOnly, _, some audio => some audio
  | .videoOnly, some video, _ => some video
  | _, _, _ => none

theorem join_content_type (mediaType : MediaType) (video audio : GCharPtr) :
    joinContentType mediaType video audio =
      joinTexts mediaType (video.map GString.text) (audio.map GString.text) := by
  cases mediaType <;> cases video <;> cases audio <;> rfl

/-- The texts after the walk over a sink's tracks. -/
def walkedTexts (pic : Pic) (texts : SinkTexts) (media : List TrackMedia) : ScanTexts :=
  media.foldl (TrackMedia.texts pic) { codec := texts.codec, audio := texts.audio }

/-- What the switch stores, the element owns; the two temporary strings are gone. -/
theorem stored_strings {sink : GstKvsSink} {scan : TrackScan} (tracks : List GstKvsSinkTrackData)
    (holds : ScanHolds scan ({name} + blocksOf sink.contentType) texts)
    (named : sink.trackName = some name) :
    OwnsStrings (storeContentType (sink.walked tracks scan) scan.videoContentType
        scan.audioContentType).strings ⟨texts.codec, texts.audio, name.text⟩ ∧
      ∀ text, joinTexts sink.data.mediaType texts.videoContent texts.audioContent = some text →
        ∃ block, (storeContentType (sink.walked tracks scan) scan.videoContentType
          scan.audioContentType).contentType = some block ∧ block.text = text := by
  obtain ⟨codec, audio, codecId, audioId, codecText, audioText, video, content, owned⟩ := holds
  have media : (sink.walked tracks scan).data.mediaType = sink.data.mediaType := rfl
  unfold storeContentType
  rw [media, join_content_type, video, content]
  cases joined : joinTexts sink.data.mediaType texts.videoContent texts.audioContent with
  | none =>
    refine ⟨⟨codec, audio, name, codecId, audioId, named, codecText, audioText, rfl, ?_⟩, nofun⟩
    have first : {codec} + ({audio} + ({name} + blocksOf sink.contentType +
          (blocksOf scan.videoContentType + blocksOf scan.audioContentType))) =
        blocksOf scan.videoContentType + (blocksOf scan.audioContentType +
          ({codec} + ({audio} + ({name} + blocksOf sink.contentType)))) := by abel
    rw [first] at owned
    exact owned.free_pointer.free_pointer
  | some text =>
    refine ⟨⟨codec, audio, name, codecId, audioId, named, codecText, audioText, rfl, ?_⟩, ?_⟩
    · -- the content type of an earlier session is not freed, only forgotten
      have first : {(gStrdup scan.heap text).1} + ({codec} + ({audio} + ({name} +
            blocksOf sink.contentType +
            (blocksOf scan.videoContentType + blocksOf scan.audioContentType)))) =
          blocksOf scan.videoContentType + (blocksOf scan.audioContentType +
            (({codec} + ({audio} + ({name} + {(gStrdup scan.heap text).1}))) +
              blocksOf sink.contentType)) := by abel
      have stored := owned.strdup text
      rw [first] at stored
      exact stored.free_pointer.free_pointer.mono (Multiset.le_add_right _ _)
    · intro other same
      cases same
      exact ⟨_, rfl, rfl⟩

private theorem scan_starts {sink : GstKvsSink} (owns : OwnsStrings sink.strings texts) :
    ∃ name, sink.trackName = some name ∧ name.text = texts.name ∧
      ScanHolds sink.scan ({name} + blocksOf sink.contentType)
        { codec := texts.codec, audio := texts.audio } := by
  obtain ⟨codec, audio, name, codecId, audioId, named, codecText, audioText, nameText, owned⟩ := owns
  refine ⟨name, named, nameText, codec, audio, codecId, audioId, codecText, audioText, rfl, rfl, ?_⟩
  change Owned sink.heap ({codec} + ({audio} + ({name} + blocksOf sink.contentType + (0 + 0))))
  rw [add_zero, add_zero]
  exact owned

/-- The texts of a sink after `init_track_data`, however it ends. -/
def GstKvsSink.textsAfterWalk (sink : GstKvsSink) (pic : Pic) (outcome : ChangeStateOutcome)
    (texts : SinkTexts) : SinkTexts :=
  let walked := walkedTexts pic texts (walkedMedia outcome.allowedCaps sink.collect)
  ⟨walked.codec, walked.audio, texts.name⟩

/-- The content type that `init_track_data` stores. -/
def GstKvsSink.contentAfterWalk (sink : GstKvsSink) (pic : Pic) (outcome : ChangeStateOutcome)
    (texts : SinkTexts) : Option String :=
  let walked := walkedTexts pic texts (walkedMedia outcome.allowedCaps sink.collect)
  joinTexts sink.data.mediaType walked.videoContent walked.audioContent

theorem init_track_data_eq (pic : Pic) (sink : GstKvsSink) (outcome : ChangeStateOutcome) :
    initTrackData pic sink outcome =
      let ended := initTracks pic (sink.streamName.getD "") sink.data.mediaType outcome.allowedCaps
        sink.collect sink.scan
      let walked := sink.walked ended.1 ended.2.1
      match ended.2.2 with
      | .error raised => (walked, .error raised)
      | .ok () =>
        let stored := storeContentType walked ended.2.1.videoContentType ended.2.1.audioContentType
        (stored, (throwIfNull stored.contentType "kvssink->content_type").map fun _ => ()) := rfl

/-- However the walk ends, the element owns its strings, and when it accepts
every track, the content type that the media settle. -/
theorem track_data_owns {sink : GstKvsSink} (owns : OwnsStrings sink.strings texts) (pic : Pic)
    (outcome : ChangeStateOutcome) :
    OwnsStrings (initTrackData pic sink outcome).1.strings (sink.textsAfterWalk pic outcome texts) ∧
      ((∀ track ∈ sink.collect, (trackMedia outcome.allowedCaps track).isSome = true) →
        ∀ text, sink.contentAfterWalk pic outcome texts = some text →
          (initTrackData pic sink outcome).2 = .ok () ∧
          ∃ block, (initTrackData pic sink outcome).1.contentType = some block ∧ block.text = text) := by
  obtain ⟨name, named, nameText, starts⟩ := scan_starts owns
  have scanned := init_tracks_scan pic (sink.streamName.getD "") sink.data.mediaType
    outcome.allowedCaps sink.collect sink.scan
  have holds := walk_holds pic starts (walkedMedia outcome.allowedCaps sink.collect)
  rw [← scanned.1] at holds
  unfold GstKvsSink.textsAfterWalk GstKvsSink.contentAfterWalk walkedTexts
  rw [← nameText]
  rw [← scanned.2]
  generalize (walkedMedia outcome.allowedCaps sink.collect).foldl (TrackMedia.texts pic)
    { codec := texts.codec, audio := texts.audio } = walked at holds
  rw [init_track_data_eq]
  generalize initTracks pic (sink.streamName.getD "") sink.data.mediaType outcome.allowedCaps
    sink.collect sink.scan = ended at holds
  obtain ⟨tracks, scan, result⟩ := ended
  simp only at holds ⊢
  cases result with
  | error raised =>
    obtain ⟨codec, audio, codecId, audioId, codecText, audioText, _, _, owned⟩ := holds
    refine ⟨⟨codec, audio, name, codecId, audioId, named, codecText, audioText, rfl, ?_⟩, nofun⟩
    apply owned.mono
    apply Multiset.le_iff_exists_add.mpr
    refine ⟨blocksOf scan.videoContentType + blocksOf scan.audioContentType, ?_⟩
    change _ = {codec} + ({audio} + ({name} + blocksOf sink.contentType)) + _
    abel
  | ok =>
    obtain ⟨owns, stores⟩ := stored_strings tracks holds named
    refine ⟨owns, fun _ text joined => ?_⟩
    obtain ⟨block, stored, same⟩ := stores text joined
    refine ⟨?_, block, stored, same⟩
    simp only [stored]
    rfl

/-- A walk that ends without an exception has accepted every track. -/
theorem track_data_accepted (done : (initTrackData pic sink outcome).2 = .ok ()) :
    ∀ track ∈ sink.collect, (trackMedia outcome.allowedCaps track).isSome = true := by
  have scanned := init_tracks_scan pic (sink.streamName.getD "") sink.data.mediaType
    outcome.allowedCaps sink.collect sink.scan
  rw [← scanned.2]
  rw [init_track_data_eq] at done
  generalize initTracks pic (sink.streamName.getD "") sink.data.mediaType outcome.allowedCaps
    sink.collect sink.scan = ended at done ⊢
  obtain ⟨tracks, scan, result⟩ := ended
  cases result with
  | error raised => cases done
  | ok => rfl

/-! ## The definition -/

/-- The definition a sink declares from these texts. -/
def declareTexts (pic : Pic) (sink : GstKvsSink) (texts : SinkTexts) (content : String) :
    Except Raised StreamDefinition := do
  let _ ← (readStreamTags sink.streamTags).1
  let streamName ← throwIfNull sink.streamName "kvssink->stream_name"
  let _ ← throwIfNull sink.userAgent "kvssink->user_agent"
  let kmsKeyId ← throwIfNull sink.kmsKeyId "kvssink->kms_key_id"
  let definition ← StreamDefinition.new pic (streamConfiguration sink streamName kmsKeyId content)
    { trackId := kvsSinkDefaultTrackId, trackName := texts.name, codecId := texts.codec,
      trackType := sink.trackInfoType }
  if sink.data.mediaType = .audioVideo then
    return (definition.addTrack
      { trackId := kvsSinkDefaultAudioTrackId, trackName := defaultAudioTrackName,
        codecId := texts.audio, trackType := .audio }).setFrameOrderMode
          .multiTrackAvComparePtsOneMsCompensateEofr
  else return definition

/-- Reading owned strings, `create_kinesis_video_stream` declares their texts. -/
theorem define_reads {sink : GstKvsSink} (owned : Owned sink.heap blocks)
    (content : sink.contentType = some contentBlock) (ownsContent : contentBlock ∈ blocks)
    (codec : sink.codecId = some codecBlock) (ownsCodec : codecBlock ∈ blocks)
    (name : sink.trackName = some nameBlock) (ownsName : nameBlock ∈ blocks)
    (audio : sink.audioCodecId = some audioBlock) (ownsAudio : audioBlock ∈ blocks)
    (pic : Pic) (residue : ℕ → String) :
    defineStream pic sink residue = (sink.heap,
      declareTexts pic sink ⟨codecBlock.text, audioBlock.text, nameBlock.text⟩ contentBlock.text) := by
  unfold defineStream declareTexts checkStrings
  simp only [content, codec, name]
  cases (readStreamTags sink.streamTags).1 with
  | error raised => rfl
  | ok =>
    cases sink.streamName with
    | none => rfl
    | some streamName =>
      cases sink.userAgent with
      | none => rfl
      | some userAgent =>
        cases sink.kmsKeyId with
        | none => rfl
        | some kmsKeyId =>
          simp only [throwIfNull, bind, Except.bind, pure, Except.pure,
            owned.read ownsContent, owned.read ownsCodec, owned.read ownsName]
          split
          · rename_i failed
            rw [failed]
          · rename_i definition built
            rw [built]
            simp only
            unfold addAudioTrack
            split
            · rename_i media
              simp only [audio, owned.read ownsAudio, media, if_true]
            · rename_i media
              rw [if_neg media]

end KvsProducer
