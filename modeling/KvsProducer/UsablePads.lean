import KvsProducer.DeclaredMedia

/-! Which pads a session can be started with. A pad is usable if the first
structure of its caps is of a media type that kvssink knows for its kind. The
video branch of `init_track_data` refuses every other pad; the audio branch
looks at the caps before it knows that there are any. -/
namespace KvsProducer
open Gst GLib History Runs

/-! ## What caps name -/

/-- The media types that kvssink accepts, with the content type that each names. -/
def supportedMedia (pic : Pic) : MkvTrackInfoType → List (String × String)
  | .video => [(gstreamerMediaTypeH264, pic.mkvH264ContentType), (gstreamerMediaTypeH265, pic.mkvH265ContentType)]
  | .audio =>
    [(gstreamerMediaTypeAac, pic.mkvAacContentType), (gstreamerMediaTypeAlaw, pic.mkvAlawContentType),
      (gstreamerMediaTypeMulaw, pic.mkvMulawContentType)]

/-- The pad has no peer, or its caps are empty. -/
def NoCaps (allowedCaps : PadId → Option GstCaps) (track : GstKvsSinkTrackData) : Prop :=
  allowedCaps track.pad = none ∨ allowedCaps track.pad = some []

/-- The first structure of the caps is of a media type for this content type. -/
def NamesContent (pic : Pic) (allowedCaps : PadId → Option GstCaps) (track : GstKvsSinkTrackData)
    (contentType : String) : Prop :=
  ∃ first rest, allowedCaps track.pad = some (first :: rest) ∧
    (first.name, contentType) ∈ supportedMedia pic track.trackType

def Usable (pic : Pic) (allowedCaps : PadId → Option GstCaps) (track : GstKvsSinkTrackData) : Prop :=
  ∃ contentType, NamesContent pic allowedCaps track contentType

/-- Up to one content type for each kind of track. -/
abbrev ContentParts := MkvTrackInfoType → Option String

/-- The parts are what the caps of the tracks name, and nothing else. -/
structure NamedBy (pic : Pic) (allowedCaps : PadId → Option GstCaps) (tracks : List GstKvsSinkTrackData)
    (parts : ContentParts) : Prop where
  named : ∀ track ∈ tracks, ∀ contentType, NamesContent pic allowedCaps track contentType →
    parts track.trackType = some contentType
  only : ∀ kind, (parts kind).isSome = true → ∃ track ∈ tracks, track.trackType = kind

/-- How a content type is written from its parts. -/
def ContentParts.text (parts : ContentParts) : Option String :=
  match parts .video, parts .audio with
  | some video, some audio => some (video ++ "," ++ audio)
  | some video, none => some video
  | none, some audio => some audio
  | none, none => none

/-! ## The law, and when it holds -/

/-- An unusable pad ends the start with an exception that is caught, nothing is
taken from caps that are not there, and what `init_track_data` leaves is the
content type that the caps name. -/
structure RejectsUnusable (pic : Pic) (sink : GstKvsSink) (outcome : ChangeStateOutcome) : Prop where
  throws : (∃ track ∈ sink.collect, ¬ Usable pic outcome.allowedCaps track) →
    ∃ what, (initTrackData pic sink outcome).2 = .error (.runtimeError what)
  fails : (∃ track ∈ sink.collect, ¬ Usable pic outcome.allowedCaps track) →
    ∀ before, kinesisVideoProducerInit before outcome = (sink, .ok ()) →
      (nullToReady pic before outcome).2 = .failure
  looksFirst : (initTrackData pic sink outcome).2 ≠ .error .uncaught
  typed : (initTrackData pic sink outcome).2 = .ok () →
    ∃ parts, NamedBy pic outcome.allowedCaps sink.collect parts ∧
      ∀ text, parts.text = some text →
        (initTrackData pic sink outcome).1.contentType.map GString.text = some text

/-- The first unusable track is not an audio track without caps. -/
def FirstRefusalCaught (pic : Pic) (allowedCaps : PadId → Option GstCaps)
    (tracks : List GstKvsSinkTrackData) : Prop :=
  ∀ before track after, tracks = before ++ track :: after →
    (∀ one ∈ before, Usable pic allowedCaps one) → ¬ Usable pic allowedCaps track →
      ¬ (track.trackType = .audio ∧ NoCaps allowedCaps track)

/-- The media type names a kind of which there is no track. -/
def MissesKind (mediaType : MediaType) (tracks : List GstKvsSinkTrackData) : Prop :=
  ∃ kind, mediaType.covers kind ∧ ∀ track ∈ tracks, track.trackType ≠ kind

/-- The media type names exactly the kinds of the tracks. -/
def NamesKinds (mediaType : MediaType) (tracks : List GstKvsSinkTrackData) : Prop :=
  ∀ kind, mediaType.covers kind ↔ ∃ track ∈ tracks, track.trackType = kind

/-- Either there will be no content type at all, or the tracks of a kind name
one type and the media type names the kinds that are there; where it names one
more, nothing is stored, and the content type has to read as the caps say already. -/
def ContentSettled (pic : Pic) (sink : GstKvsSink) (allowedCaps : PadId → Option GstCaps) : Prop :=
  (MissesKind sink.data.mediaType sink.collect ∧ sink.contentType = none) ∨
    ∃ parts, NamedBy pic allowedCaps sink.collect parts ∧
      (NamesKinds sink.data.mediaType sink.collect ∨
        MissesKind sink.data.mediaType sink.collect ∧
          ∀ text, parts.text = some text → sink.contentType.map GString.text = some text)

/-! ## Caps and the tracks they make -/

/-- Comparing at most sixteen characters with a shorter constant compares all. -/
theorem strncmp_eq_iff (constant : String) (short : constant.length < 16) (name : String) :
    strncmpEq name constant 16 = true ↔ name = constant := by
  have whole : constant.toList.take 16 = constant.toList := by
    apply List.take_of_length_le
    rw [String.length_toList]
    omega
  unfold strncmpEq
  rw [beq_iff_eq, whole]
  constructor
  · intro same
    have kept : name.toList.take 16 = name.toList := by
      apply List.take_of_length_le
      have length := congrArg List.length same
      rw [List.length_take, String.length_toList] at length
      rw [String.length_toList] at length ⊢
      omega
    rw [kept] at same
    exact String.toList_inj.mp same
  · rintro rfl
    exact whole

/-- The content type of what a track carries. -/
def TrackMedia.contentType (pic : Pic) : TrackMedia → String
  | .h264 => pic.mkvH264ContentType
  | .h265 => pic.mkvH265ContentType
  | .aac => pic.mkvAacContentType
  | .alaw => pic.mkvAlawContentType
  | .mulaw => pic.mkvMulawContentType

/-- The walk takes from the caps what they name. -/
theorem names_content_iff {track : GstKvsSinkTrackData} : NamesContent pic allowedCaps track contentType ↔
    ∃ media, trackMedia allowedCaps track = some media ∧ media.contentType pic = contentType := by
  have h264 := strncmp_eq_iff gstreamerMediaTypeH264 (by decide)
  have h265 := strncmp_eq_iff gstreamerMediaTypeH265 (by decide)
  have aac := strncmp_eq_iff gstreamerMediaTypeAac (by decide)
  have alaw := strncmp_eq_iff gstreamerMediaTypeAlaw (by decide)
  have mulaw := strncmp_eq_iff gstreamerMediaTypeMulaw (by decide)
  unfold NamesContent trackMedia
  cases found : allowedCaps track.pad with
  | none => cases track.trackType <;> simp
  | some caps =>
    cases caps with
    | nil => cases track.trackType <;> simp
    | cons first rest =>
      cases track.trackType with
      | video =>
        have apart : gstreamerMediaTypeH265 ≠ gstreamerMediaTypeH264 := by decide
        simp only [maxGstreamerMediaTypeLen, h264, h265]
        by_cases one : first.name = gstreamerMediaTypeH264
        · simp [one, supportedMedia, TrackMedia.contentType, apart.symm, @eq_comm _ contentType]
        · by_cases other : first.name = gstreamerMediaTypeH265
          · simp [other, supportedMedia, TrackMedia.contentType, apart, @eq_comm _ contentType]
          · simp [one, other, supportedMedia]
      | audio =>
        have first_second : gstreamerMediaTypeAac ≠ gstreamerMediaTypeAlaw := by decide
        have first_third : gstreamerMediaTypeAac ≠ gstreamerMediaTypeMulaw := by decide
        have second_third : gstreamerMediaTypeAlaw ≠ gstreamerMediaTypeMulaw := by decide
        simp only [maxGstreamerMediaTypeLen, aac, alaw, mulaw]
        by_cases one : first.name = gstreamerMediaTypeAac
        · simp [one, supportedMedia, TrackMedia.contentType, first_second, first_third,
            @eq_comm _ contentType]
        · by_cases two : first.name = gstreamerMediaTypeAlaw
          · simp [two, supportedMedia, TrackMedia.contentType, first_second.symm, second_third,
              @eq_comm _ contentType]
          · by_cases three : first.name = gstreamerMediaTypeMulaw
            · simp [three, supportedMedia, TrackMedia.contentType, first_third.symm,
                second_third.symm, @eq_comm _ contentType]
            · simp [one, two, three, supportedMedia]

theorem usable_iff {track : GstKvsSinkTrackData} :
    Usable pic allowedCaps track ↔ (trackMedia allowedCaps track).isSome = true := by
  simp [Usable, names_content_iff, Option.isSome_iff_exists]

/-! ## How the walk ends -/

/-- A refused track is answered with a caught exception, unless it is an audio
track without caps. -/
theorem refused_track (pic : Pic) (streamName : String) (scan : TrackScan)
    (refused : trackMedia allowedCaps track = none) :
    ∃ raised, scanTrack pic streamName allowedCaps track scan = (scan, .error raised) ∧
      (track.trackType = .audio ∧ NoCaps allowedCaps track ∧ raised = .uncaught ∨
        ¬ (track.trackType = .audio ∧ NoCaps allowedCaps track) ∧
          ∃ what, raised = .runtimeError what) := by
  unfold trackMedia at refused
  unfold scanTrack NoCaps
  cases kind : track.trackType with
  | video =>
    simp only [kind] at refused ⊢
    cases found : allowedCaps track.pad with
    | none => exact ⟨_, rfl, .inr ⟨by simp, _, rfl⟩⟩
    | some caps =>
      cases caps with
      | nil => exact ⟨_, rfl, .inr ⟨by simp, _, rfl⟩⟩
      | cons first rest =>
        simp only [found] at refused
        simp only [initVideoTrack]
        split at refused
        · cases refused
        · rename_i one
          split at refused
          · cases refused
          · rename_i other
            rw [if_neg one, if_neg other]
            exact ⟨_, rfl, .inr ⟨by simp, _, rfl⟩⟩
  | audio =>
    simp only [kind] at refused ⊢
    cases found : allowedCaps track.pad with
    | none => exact ⟨_, rfl, .inl ⟨trivial, .inl rfl, rfl⟩⟩
    | some caps =>
      cases caps with
      | nil => exact ⟨_, rfl, .inl ⟨trivial, .inr rfl, rfl⟩⟩
      | cons first rest =>
        simp only [found] at refused
        simp only [initAudioTrack]
        split at refused
        · cases refused
        · rename_i one
          split at refused
          · cases refused
          · rename_i two
            split at refused
            · cases refused
            · rename_i three
              rw [if_neg one, if_neg two, if_neg three]
              exact ⟨_, rfl, .inr ⟨by simp, _, rfl⟩⟩

/-- How the walk ends, by the first track it refuses. -/
inductive WalkEnds (allowedCaps : PadId → Option GstCaps) (tracks : List GstKvsSinkTrackData) :
    Except Raised Unit → Prop where
  | done : (∀ track ∈ tracks, (trackMedia allowedCaps track).isSome = true) →
      WalkEnds allowedCaps tracks (.ok ())
  | caught : tracks = before ++ track :: after →
      (∀ one ∈ before, (trackMedia allowedCaps one).isSome = true) → trackMedia allowedCaps track = none →
      ¬ (track.trackType = .audio ∧ NoCaps allowedCaps track) →
      WalkEnds allowedCaps tracks (.error (.runtimeError what))
  | uncaught : tracks = before ++ track :: after →
      (∀ one ∈ before, (trackMedia allowedCaps one).isSome = true) → trackMedia allowedCaps track = none →
      track.trackType = .audio → NoCaps allowedCaps track →
      WalkEnds allowedCaps tracks (.error .uncaught)

theorem WalkEnds.after_accepted (here : (trackMedia allowedCaps first).isSome = true)
    (ends : WalkEnds allowedCaps rest result) : WalkEnds allowedCaps (first :: rest) result := by
  have extended {before : List GstKvsSinkTrackData}
      (early : ∀ one ∈ before, (trackMedia allowedCaps one).isSome = true) :
      ∀ one ∈ first :: before, (trackMedia allowedCaps one).isSome = true := by
    intro one member
    rcases List.mem_cons.mp member with rfl | later
    · exact here
    · exact early one later
  cases ends with
  | done accepted => exact .done (extended accepted)
  | caught split early refused known =>
    subst split
    exact .caught (List.cons_append ..).symm (extended early) refused known
  | uncaught split early refused kind missing =>
    subst split
    exact .uncaught (List.cons_append ..).symm (extended early) refused kind missing

private theorem walk_ends (pic : Pic) (streamName : String) (mediaType : MediaType)
    (allowedCaps : PadId → Option GstCaps) (tracks : List GstKvsSinkTrackData) (scan : TrackScan) :
    WalkEnds allowedCaps tracks (initTracks pic streamName mediaType allowedCaps tracks scan).2.2 := by
  induction tracks generalizing scan with
  | nil => exact .done nofun
  | cons track rest ih =>
    rw [init_tracks_cons]
    cases media : trackMedia allowedCaps track with
    | some carried =>
      obtain ⟨_, _, scanned⟩ | ⟨refused, _⟩ := scan_track pic streamName allowedCaps track scan
      · rw [scanned]
        exact (ih _).after_accepted (by rw [media]; rfl)
      · rw [media] at refused
        cases refused
    | none =>
      obtain ⟨raised, scanned, ends⟩ := refused_track pic streamName scan media
      rw [scanned]
      obtain ⟨kind, missing, rfl⟩ | ⟨known, what, rfl⟩ := ends
      · exact .uncaught (List.nil_append _).symm nofun media kind missing
      · exact .caught (List.nil_append _).symm nofun media known

/-! ## The content type after the walk -/

/-- The content types of the walk, by kind. -/
def ScanTexts.parts (texts : ScanTexts) : ContentParts
  | .video => texts.videoContent
  | .audio => texts.audioContent

private theorem walked_part_named {media : List TrackMedia} {texts : ScanTexts}
    (found : (media.foldl (TrackMedia.texts pic) texts).parts kind = some contentType) :
    texts.parts kind = some contentType ∨
      ∃ one ∈ media, one.kind = kind ∧ one.contentType pic = contentType := by
  induction media generalizing texts with
  | nil => exact .inl found
  | cons first rest ih =>
    rcases ih found with before | ⟨one, member, isKind, names⟩
    · have settled : (first.texts pic texts).parts kind = some contentType →
          texts.parts kind = some contentType ∨
            first.kind = kind ∧ first.contentType pic = contentType := by
        cases first <;> cases kind <;>
          simp +contextual [TrackMedia.texts, ScanTexts.parts, TrackMedia.kind, TrackMedia.contentType]
      rcases settled before with earlier | ⟨isKind, names⟩
      · exact .inl earlier
      · exact .inr ⟨first, List.mem_cons_self, isKind, names⟩
    · exact .inr ⟨one, List.mem_cons_of_mem first member, isKind, names⟩

private theorem walked_part_some (pic : Pic) (media : List TrackMedia) (texts : ScanTexts)
    (kind : MkvTrackInfoType) :
    ((media.foldl (TrackMedia.texts pic) texts).parts kind).isSome = true ↔
      (texts.parts kind).isSome = true ∨ ∃ one ∈ media, one.kind = kind := by
  obtain ⟨video, audio⟩ := walked_kinds pic media texts
  cases kind with
  | video => exact video
  | audio => exact audio

/-- What the walk goes over is what its tracks carry. -/
theorem walked_member (member : media ∈ walkedMedia allowedCaps tracks) :
    ∃ track ∈ tracks, trackMedia allowedCaps track = some media := by
  induction tracks with
  | nil => cases member
  | cons first rest ih =>
    unfold walkedMedia at member
    split at member
    · cases member
    · rename_i here
      rcases List.mem_cons.mp member with rfl | later
      · exact ⟨first, List.mem_cons_self, here⟩
      · obtain ⟨track, inside, carries⟩ := ih later
        exact ⟨track, List.mem_cons_of_mem first inside, carries⟩

/-- What the caps name is what the walk finds. -/
theorem walked_parts (names : NamedBy pic allowedCaps tracks parts)
    (accepted : ∀ track ∈ tracks, (trackMedia allowedCaps track).isSome = true) (texts : SinkTexts) :
    (walkedTexts pic texts (walkedMedia allowedCaps tracks)).parts = parts := by
  funext kind
  unfold walkedTexts
  cases found : ((walkedMedia allowedCaps tracks).foldl (TrackMedia.texts pic)
      { codec := texts.codec, audio := texts.audio }).parts kind with
  | some contentType =>
    rcases walked_part_named found with unread | ⟨one, member, rfl, content⟩
    · cases kind <;> cases unread
    · obtain ⟨track, inside, carries⟩ := walked_member member
      rw [media_of_track carries]
      exact (names.named track inside contentType (names_content_iff.mpr ⟨one, carries, content⟩)).symm
  | none =>
    cases part : parts kind with
    | none => rfl
    | some contentType =>
      obtain ⟨track, inside, isKind⟩ := names.only kind (by rw [part]; rfl)
      obtain ⟨one, member, same⟩ := walked_members accepted inside
      have present := (walked_part_some pic (walkedMedia allowedCaps tracks)
        { codec := texts.codec, audio := texts.audio } kind).mpr (.inr ⟨one, member, same.trans isKind⟩)
      rw [found] at present
      cases present

/-- The kinds of the tracks are those for which the walk finds a content type. -/
theorem walked_part_iff (accepted : ∀ track ∈ tracks, (trackMedia allowedCaps track).isSome = true)
    (pic : Pic) (texts : SinkTexts) (kind : MkvTrackInfoType) :
    ((walkedTexts pic texts (walkedMedia allowedCaps tracks)).parts kind).isSome = true ↔
      ∃ track ∈ tracks, track.trackType = kind := by
  unfold walkedTexts
  rw [walked_part_some]
  constructor
  · rintro (unread | ⟨one, member, rfl⟩)
    · cases kind <;> cases unread
    · obtain ⟨track, inside, carries⟩ := walked_member member
      exact ⟨track, inside, (media_of_track carries).symm⟩
  · rintro ⟨track, inside, isKind⟩
    obtain ⟨one, member, same⟩ := walked_members accepted inside
    exact .inr ⟨one, member, same.trans isKind⟩

/-- The texts behind the two temporary strings of the walk. -/
def TrackScan.parts (scan : TrackScan) : ContentParts
  | .video => scan.videoContentType.map GString.text
  | .audio => scan.audioContentType.map GString.text

private theorem scanned_parts (pic : Pic) (media : List TrackMedia) {scan : TrackScan} {texts : ScanTexts}
    (same : scan.parts = texts.parts) :
    (media.foldl (TrackMedia.scan pic) scan).parts = (media.foldl (TrackMedia.texts pic) texts).parts := by
  induction media generalizing scan texts with
  | nil => exact same
  | cons first rest ih =>
    apply ih
    funext kind
    have here := congrFun same kind
    cases first <;> cases kind <;> first | rfl | exact here

/-- The content type that the switch leaves, as a text. -/
theorem stored_content_type (sink : GstKvsSink) (video audio : GCharPtr) :
    (storeContentType sink video audio).contentType.map GString.text =
      (joinTexts sink.data.mediaType (video.map GString.text) (audio.map GString.text)).or
        (sink.contentType.map GString.text) := by
  unfold storeContentType
  rw [join_content_type]
  cases joinTexts sink.data.mediaType (video.map GString.text) (audio.map GString.text) <;> rfl

/-- Once all tracks are accepted, the content type alone decides. -/
theorem accepted_track_data (accepted : ∀ track ∈ sink.collect, (trackMedia outcome.allowedCaps track).isSome = true)
    (pic : Pic) (texts : SinkTexts) :
    (initTrackData pic sink outcome).1.contentType.map GString.text =
        (sink.contentAfterWalk pic outcome texts).or (sink.contentType.map GString.text) ∧
      (initTrackData pic sink outcome).2 =
        (throwIfNull (initTrackData pic sink outcome).1.contentType "kvssink->content_type").map
          fun _ => () := by
  obtain ⟨scanned, ended⟩ := init_tracks_scan pic (sink.streamName.getD "") sink.data.mediaType
    outcome.allowedCaps sink.collect sink.scan
  rw [init_track_data_eq]
  simp only [ended.mpr accepted, and_true]
  rw [stored_content_type, scanned]
  have parts := @scanned_parts pic (walkedMedia outcome.allowedCaps sink.collect) sink.scan
    { codec := texts.codec, audio := texts.audio } (funext fun kind => by cases kind <;> rfl)
  have video := congrFun parts .video
  have audio := congrFun parts .audio
  simp only [TrackScan.parts, ScanTexts.parts] at video audio
  rw [video, audio]
  rfl

/-! ## The parts that the media type takes -/

variable {mediaType : MediaType} {parts : ContentParts}

private theorem join_exact (exactly : ∀ kind, mediaType.covers kind ↔ (parts kind).isSome = true) :
    joinTexts mediaType (parts .video) (parts .audio) = parts.text := by
  have video := exactly .video
  have audio := exactly .audio
  unfold ContentParts.text
  cases mediaType <;> cases foundVideo : parts .video <;> cases foundAudio : parts .audio <;>
    simp [foundVideo, foundAudio, MediaType.covers] at video audio <;> rfl

private theorem join_missing (covers : mediaType.covers kind) (missing : parts kind = none) :
    joinTexts mediaType (parts .video) (parts .audio) = none := by
  cases mediaType with
  | audioVideo =>
    cases kind with
    | video =>
      rw [missing]
      rfl
    | audio =>
      rw [missing]
      cases parts .video <;> rfl
  | videoOnly =>
    cases covers
    rw [missing]
    rfl
  | audioOnly =>
    cases covers
    rw [missing]
    cases parts .video <;> rfl

/-- A content type made of one of two parts is not the one made of both. -/
theorem join_partial (covered : ∀ kind, mediaType.covers kind → (parts kind).isSome = true)
    (left : ¬ mediaType.covers kind) (present : (parts kind).isSome = true) :
    ∃ joined whole, joinTexts mediaType (parts .video) (parts .audio) = some joined ∧
      parts.text = some whole ∧ joined ≠ whole := by
  have longer (one other : String) : one.length < (one ++ "," ++ other).length ∧
      one.length < (other ++ "," ++ one).length := by
    simp only [String.length_append, show ",".length = 1 from rfl]
    omega
  cases mediaType with
  | audioVideo => exact absurd trivial left
  | videoOnly =>
    obtain ⟨video, foundVideo⟩ := Option.isSome_iff_exists.mp (covered .video rfl)
    cases kind with
    | video => exact absurd rfl left
    | audio =>
      obtain ⟨audio, foundAudio⟩ := Option.isSome_iff_exists.mp present
      refine ⟨video, video ++ "," ++ audio, by rw [foundVideo]; rfl,
        by simp only [ContentParts.text, foundVideo, foundAudio], ?_⟩
      intro same
      exact Nat.ne_of_lt (longer video audio).1 (congrArg String.length same)
  | audioOnly =>
    obtain ⟨audio, foundAudio⟩ := Option.isSome_iff_exists.mp (covered .audio rfl)
    cases kind with
    | audio => exact absurd rfl left
    | video =>
      obtain ⟨video, foundVideo⟩ := Option.isSome_iff_exists.mp present
      refine ⟨audio, video ++ "," ++ audio, by rw [foundAudio]; rfl,
        by simp only [ContentParts.text, foundVideo, foundAudio], ?_⟩
      intro same
      exact Nat.ne_of_lt (longer audio video).2 (congrArg String.length same)

/-! ## The exact condition -/

/-- No list has two first elements that are not accepted. -/
theorem first_refused_unique {Accepts : α → Prop} {before other : List α}
    (same : before ++ one :: after = other ++ another :: rest) (early : ∀ item ∈ before, Accepts item)
    (earlyToo : ∀ item ∈ other, Accepts item) (refused : ¬ Accepts one) (refusedToo : ¬ Accepts another) :
    one = another := by
  induction before generalizing other with
  | nil =>
    cases other with
    | nil => exact (List.cons.inj same).1
    | cons first other =>
      cases (List.cons.inj same).1
      exact absurd (earlyToo _ List.mem_cons_self) refused
  | cons first before ih =>
    cases other with
    | nil =>
      cases (List.cons.inj same).1
      exact absurd (early _ List.mem_cons_self) refusedToo
    | cons _ other =>
      obtain ⟨rfl, rest⟩ := List.cons.inj same
      exact ih rest (fun item member => early item (List.mem_cons_of_mem _ member))
        fun item member => earlyToo item (List.mem_cons_of_mem _ member)

/-- What an exception of the walk makes of `init_track_data`. -/
theorem track_data_throws (threw : (initTracks pic (sink.streamName.getD "") sink.data.mediaType
      outcome.allowedCaps sink.collect sink.scan).2.2 = .error raised) :
    (initTrackData pic sink outcome).2 = .error raised := by
  rw [init_track_data_eq]
  simp only [threw]

theorem usable_refuses_none (usable : ∀ track ∈ tracks, Usable pic allowedCaps track) :
    FirstRefusalCaught pic allowedCaps tracks := by
  intro before track after split _ unusable
  exact absurd (usable track (split ▸ List.mem_append_right _ List.mem_cons_self)) unusable

/-- What the walk makes of the pads: it takes them all, or the first that it
refuses settles which exception `init_track_data` throws. -/
inductive PadsWalked (pic : Pic) (sink : GstKvsSink) (outcome : ChangeStateOutcome) : Prop where
  | accepted (usable : ∀ track ∈ sink.collect, Usable pic outcome.allowedCaps track)
      (accepted : ∀ track ∈ sink.collect, (trackMedia outcome.allowedCaps track).isSome = true)
  | caught (unusable : ∃ track ∈ sink.collect, ¬ Usable pic outcome.allowedCaps track)
      (first : FirstRefusalCaught pic outcome.allowedCaps sink.collect)
      (threw : (initTrackData pic sink outcome).2 = .error (.runtimeError what))
  | uncaught (unusable : ∃ track ∈ sink.collect, ¬ Usable pic outcome.allowedCaps track)
      (first : ¬ FirstRefusalCaught pic outcome.allowedCaps sink.collect)
      (threw : (initTrackData pic sink outcome).2 = .error .uncaught)

theorem pads_walked (pic : Pic) (sink : GstKvsSink) (outcome : ChangeStateOutcome) :
    PadsWalked pic sink outcome := by
  have usable {track : GstKvsSinkTrackData} :
      Usable pic outcome.allowedCaps track ↔ (trackMedia outcome.allowedCaps track).isSome = true :=
    usable_iff
  have refuses {track : GstKvsSinkTrackData} (refused : trackMedia outcome.allowedCaps track = none) :
      ¬ Usable pic outcome.allowedCaps track := by
    rw [usable, refused]
    nofun
  have ends := walk_ends pic (sink.streamName.getD "") sink.data.mediaType outcome.allowedCaps
    sink.collect sink.scan
  generalize ended : (initTracks pic (sink.streamName.getD "") sink.data.mediaType outcome.allowedCaps
    sink.collect sink.scan).2.2 = result at ends
  cases ends with
  | done accepted => exact .accepted (fun track inside => usable.mpr (accepted track inside)) accepted
  | @caught before track after what split early refused known =>
    have inside : track ∈ sink.collect := split ▸ List.mem_append_right _ List.mem_cons_self
    refine .caught ⟨track, inside, refuses refused⟩ ?_ (track_data_throws ended)
    intro other first later again earlyToo unusableToo
    cases first_refused_unique (split.symm.trans again) (fun one inside => usable.mpr (early one inside))
      earlyToo (refuses refused) unusableToo
    exact known
  | @uncaught before track after split early refused kind missing =>
    have inside : track ∈ sink.collect := split ▸ List.mem_append_right _ List.mem_cons_self
    refine .uncaught ⟨track, inside, refuses refused⟩ (fun caught => ?_) (track_data_throws ended)
    exact caught before track after split (fun one inside => usable.mpr (early one inside))
      (refuses refused) ⟨kind, missing⟩

private theorem fails_after_tracks {before sink : GstKvsSink}
    (threw : (initTrackData pic sink outcome).2 = .error (.runtimeError what))
    (produced : kinesisVideoProducerInit before outcome = (sink, .ok ())) :
    (nullToReady pic before outcome).2 = .failure := by
  unfold nullToReady
  rw [produced]
  simp only
  split <;> rename_i scanned <;> rw [scanned] at threw <;> cases threw
  rfl

/-- The switch stores nothing exactly if the media type names a kind of which
there is no track. -/
theorem stores_nothing_iff {sink : GstKvsSink}
    (accepted : ∀ track ∈ sink.collect, (trackMedia outcome.allowedCaps track).isSome = true) (pic : Pic)
    (texts : SinkTexts) :
    sink.contentAfterWalk pic outcome texts = none ↔ MissesKind sink.data.mediaType sink.collect := by
  have found := walked_part_iff accepted pic texts
  have joined : sink.contentAfterWalk pic outcome texts =
      let walked := (walkedTexts pic texts (walkedMedia outcome.allowedCaps sink.collect)).parts
      joinTexts sink.data.mediaType (walked .video) (walked .audio) := rfl
  rw [joined]
  generalize (walkedTexts pic texts (walkedMedia outcome.allowedCaps sink.collect)).parts = walked at found
  simp only
  constructor
  · intro nothing
    by_contra misses
    have covered (kind : MkvTrackInfoType) (covers : sink.data.mediaType.covers kind) :
        ∃ contentType, walked kind = some contentType := by
      rw [← Option.isSome_iff_exists, found]
      by_contra absent
      exact misses ⟨kind, covers, fun track inside isKind => absent ⟨track, inside, isKind⟩⟩
    cases media : sink.data.mediaType with
    | audioVideo =>
      rw [media] at covered nothing
      obtain ⟨video, foundVideo⟩ := covered .video trivial
      obtain ⟨audio, foundAudio⟩ := covered .audio trivial
      rw [foundVideo, foundAudio] at nothing
      cases nothing
    | videoOnly =>
      rw [media] at covered nothing
      obtain ⟨video, foundVideo⟩ := covered .video rfl
      rw [foundVideo] at nothing
      cases nothing
    | audioOnly =>
      rw [media] at covered nothing
      obtain ⟨audio, foundAudio⟩ := covered .audio rfl
      rw [foundAudio] at nothing
      cases nothing
  · rintro ⟨kind, covers, absent⟩
    apply join_missing covers
    rw [← Option.not_isSome_iff_eq_none, found]
    rintro ⟨track, inside, isKind⟩
    exact absent track inside isKind

/-- With the tracks that the media type names, what is stored reads as named
exactly if there are no others. -/
theorem stores_named_iff {sink : GstKvsSink}
    (accepted : ∀ track ∈ sink.collect, (trackMedia outcome.allowedCaps track).isSome = true)
    (names : NamedBy pic outcome.allowedCaps sink.collect parts)
    (stored : sink.contentAfterWalk pic outcome texts = some text) :
    (∀ named, parts.text = some named → text = named) ↔ NamesKinds sink.data.mediaType sink.collect := by
  have found := walked_part_iff accepted pic texts
  have joined : joinTexts sink.data.mediaType (parts .video) (parts .audio) = some text := by
    rw [← walked_parts names accepted texts]
    exact stored
  rw [walked_parts names accepted texts] at found
  have covered (kind : MkvTrackInfoType) (covers : sink.data.mediaType.covers kind) :
      (parts kind).isSome = true := by
    by_contra missing
    rw [join_missing covers (Option.not_isSome_iff_eq_none.mp missing)] at joined
    cases joined
  constructor
  · intro reads kind
    rw [← found]
    refine ⟨covered kind, fun present => ?_⟩
    by_contra left
    obtain ⟨text, whole, joins, isWhole, apart⟩ := join_partial covered left present
    cases joined.symm.trans joins
    exact apart (reads whole isWhole)
  · intro exactly named isNamed
    rw [join_exact fun kind => (exactly kind).trans (found kind).symm, isNamed] at joined
    exact (Option.some.inj joined).symm

/-- Whether the content type is settled, once every pad is usable. -/
theorem typed_iff {sink : GstKvsSink}
    (accepted : ∀ track ∈ sink.collect, (trackMedia outcome.allowedCaps track).isSome = true) (pic : Pic) :
    ((initTrackData pic sink outcome).2 = .ok () →
      ∃ parts, NamedBy pic outcome.allowedCaps sink.collect parts ∧
        ∀ text, parts.text = some text →
          (initTrackData pic sink outcome).1.contentType.map GString.text = some text) ↔
      ContentSettled pic sink outcome.allowedCaps := by
  let texts : SinkTexts := ⟨"", "", ""⟩
  obtain ⟨content, result⟩ := accepted_track_data accepted pic texts
  have nothing := stores_nothing_iff accepted pic texts
  have ends : (initTrackData pic sink outcome).2 = .ok () ↔
      (initTrackData pic sink outcome).1.contentType.map GString.text ≠ none := by
    rw [result]
    cases (initTrackData pic sink outcome).1.contentType with
    | none => simp [throwIfNull, Except.map]
    | some block => simp [throwIfNull, Except.map]
  rw [ends, content]
  unfold ContentSettled
  cases stored : sink.contentAfterWalk pic outcome texts with
  | none =>
    have misses := nothing.mp stored
    have unnamed : ¬ NamesKinds sink.data.mediaType sink.collect := by
      intro exactly
      obtain ⟨kind, covers, absent⟩ := misses
      obtain ⟨track, inside, isKind⟩ := (exactly kind).mp covers
      exact absent track inside isKind
    rw [Option.none_or]
    cases before : sink.contentType with
    | none => exact iff_of_true (fun some => absurd rfl some) (.inl ⟨misses, rfl⟩)
    | some block =>
      simp only [Option.map_some, ne_eq, reduceCtorEq, not_false_eq_true, true_implies, and_false,
        false_or, unnamed, misses, true_and]
  | some text =>
    have covered : ¬ MissesKind sink.data.mediaType sink.collect := by
      rw [← nothing, stored]
      rintro ⟨⟩
    simp only [covered, false_and, false_or, or_false, Option.some_or, ne_eq, reduceCtorEq,
      not_false_eq_true, true_implies, Option.some.injEq]
    constructor
    · rintro ⟨parts, names, reads⟩
      exact ⟨parts, names, (stores_named_iff accepted names stored).mp reads⟩
    · rintro ⟨parts, names, exactly⟩
      exact ⟨parts, names, (stores_named_iff accepted names stored).mpr exactly⟩

/-- `init_track_data` keeps the law exactly if the first pad it has to refuse is
not an audio pad without caps, and, where it refuses none, the media type and
the pads settle the content type. -/
theorem unusable_pads_rejected_iff (pic : Pic) (sink : GstKvsSink) (outcome : ChangeStateOutcome) :
    RejectsUnusable pic sink outcome ↔
      FirstRefusalCaught pic outcome.allowedCaps sink.collect ∧
        ((∀ track ∈ sink.collect, Usable pic outcome.allowedCaps track) →
          ContentSettled pic sink outcome.allowedCaps) := by
  cases pads_walked pic sink outcome with
  | accepted usable accepted =>
    have noneRefused : ¬ ∃ track ∈ sink.collect, ¬ Usable pic outcome.allowedCaps track := by
      rintro ⟨track, inside, refused⟩
      exact refused (usable track inside)
    rw [← typed_iff accepted pic]
    constructor
    · intro law
      exact ⟨usable_refuses_none usable, fun _ => law.typed⟩
    · rintro ⟨_, typed⟩
      refine ⟨fun refused => absurd refused noneRefused, fun refused => absurd refused noneRefused, ?_,
        typed usable⟩
      rw [(accepted_track_data accepted pic ⟨"", "", ""⟩).2]
      cases (initTrackData pic sink outcome).1.contentType <;> nofun
  | @caught what unusable first threw =>
    refine iff_of_true ⟨fun _ => ⟨what, threw⟩, fun _ _ => fails_after_tracks threw, ?_, ?_⟩
      ⟨first, fun usable => ?_⟩
    · rw [threw]
      nofun
    · rw [threw]
      nofun
    · obtain ⟨track, inside, refused⟩ := unusable
      exact absurd (usable track inside) refused
  | uncaught _ first threw =>
    exact iff_of_false (fun law => law.looksFirst threw) fun caught => first caught.1

/-- An element with one audio pad, whose peer is not linked. -/
def unlinkedAudioPad : GstKvsSink := (gstKvsSinkRequestNewPad (gstKvsSinkInit 0) .audio true).1

/-- The media type is read from a structure of caps that are NULL. -/
theorem unlinked_audio_pad_is_not_refused : ¬ RejectsUnusable Pic.sample unlinkedAudioPad {} := by
  intro law
  have threw : (initTrackData Pic.sample unlinkedAudioPad {}).2 = .error .uncaught := by rfl
  exact law.looksFirst threw

end KvsProducer
