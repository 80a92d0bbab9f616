import Mathlib.Algebra.Group.Nat.Defs
import Mathlib.Data.List.TakeWhile
import KvsProducer.CString
import KvsProducer.StreamDefinition

/-! The tracks of a `StreamDefinition` down to their bytes: how they are declared,
and the array in which the platform reads them. -/
namespace KvsProducer.TrackList
open CString Gst

/-- A track as it was declared. The codec private data stays behind its pointer. -/
structure StreamTrackInfo where
  trackId : UInt64
  trackName : Bytes
  codecId : Bytes
  cpd : Option ℕ
  cpdSize : UInt32
  trackType : MkvTrackInfoType
  deriving DecidableEq, Repr

/-- `TrackInfo`, an entry of the array. -/
structure TrackInfo where
  trackId : UInt64
  trackType : MkvTrackInfoType
  trackName : Buffer
  codecId : Buffer
  codecPrivateData : Option ℕ
  codecPrivateDataSize : UInt32
  deriving DecidableEq, Repr

/-- The arguments of the constructor that it checks besides the default track. -/
structure StreamTexts where
  streamName : Bytes
  kmsKeyId : Bytes
  contentType : Bytes
  segmentUuid : Bytes := []
  tags : Option TagMap := none

structure StreamDefinition where
  texts : StreamTexts
  frameOrderMode : FrameOrderMode
  trackInfo : List StreamTrackInfo

/-- What `getStreamInfo` writes over the fields of the constructor. -/
structure StreamInfo where
  frameOrderMode : FrameOrderMode
  trackInfoCount : UInt32
  trackInfoList : List TrackInfo
  deriving DecidableEq, Repr

section Declarations
variable (pic : Pic) (mkvSegmentUuidLen : ℕ)

def throwIfLonger (limit : ℕ) (text : Bytes) (message : String) : Except Raised Unit :=
  if limit < text.length then .error (.runtimeError (message ++ toString limit)) else .ok ()

def throwIfNotUuid (segmentUuid : Bytes) : Except Raised Unit :=
  if segmentUuid.isEmpty then .ok ()
  else if mkvSegmentUuidLen ≠ segmentUuid.length then .error (.runtimeError "Invalid SegmentUUID length")
  else .ok ()

/-- The constructor. -/
def StreamDefinition.new (texts : StreamTexts) (defaultTrack : StreamTrackInfo) :
    Except Raised StreamDefinition := do
  throwIfLonger pic.maxStreamNameLen texts.streamName "StreamName exceeded max length "
  throwIfLonger pic.maxArnLen texts.kmsKeyId "KMS Key Id exceeded max length of "
  throwIfLonger pic.maxContentTypeLen texts.contentType "ContentType exceeded max length of "
  throwIfNotUuid mkvSegmentUuidLen texts.segmentUuid
  throwIfLonger pic.mkvMaxCodecIdLen defaultTrack.codecId "CodecId exceeded max length of "
  throwIfLonger pic.mkvMaxTrackNameLen defaultTrack.trackName "TrackName exceeded max length of "
  convertTags pic texts.tags
  return { texts, frameOrderMode := .passThrough, trackInfo := [defaultTrack] }

/-- `addTrack`, which looks at nothing and never throws. -/
def StreamDefinition.addTrack (definition : StreamDefinition) (track : StreamTrackInfo) :
    Except Raised StreamDefinition :=
  .ok { definition with
    frameOrderMode := .multiTrackAvComparePtsOneMsCompensateEofr
    trackInfo := definition.trackInfo ++ [track] }

/-- One text of an entry: the copy into the zeroed array, and its forced end. -/
def copyText (limit : ℕ) (text : Bytes) : Option Buffer := do
  let copy ← strncpy (calloc (limit + 1) 1) text (limit + 1)
  return copy.set limit 0

/-- One round of the loop in `getStreamInfo`. -/
def makeTrackInfo (track : StreamTrackInfo) : Option TrackInfo := do
  let trackName ← copyText pic.mkvMaxTrackNameLen track.trackName
  let codecId ← copyText pic.mkvMaxCodecIdLen track.codecId
  return { trackId := track.trackId, trackType := track.trackType, trackName, codecId,
           codecPrivateData := track.cpd, codecPrivateDataSize := track.cpdSize }

def StreamDefinition.getStreamInfo (definition : StreamDefinition) : Option StreamInfo := do
  let trackInfoList ← definition.trackInfo.mapM (makeTrackInfo pic)
  return { frameOrderMode := definition.frameOrderMode
           trackInfoCount := UInt32.ofNat definition.trackInfo.length, trackInfoList }

/-! ## Reading them back -/

def readTrack (info : TrackInfo) : Option StreamTrackInfo := do
  let trackName ← readCString info.trackName
  let codecId ← readCString info.codecId
  return { trackId := info.trackId, trackName, codecId, cpd := info.codecPrivateData,
           cpdSize := info.codecPrivateDataSize, trackType := info.trackType }

/-- The platform goes by the count. -/
def readTracks (info : StreamInfo) : Option (List StreamTrackInfo) :=
  if info.trackInfoList.length < info.trackInfoCount.toNat then none
  else (info.trackInfoList.take info.trackInfoCount.toNat).mapM readTrack

/-- Calls of `addTrack` one after the other, with the tracks that were not refused. -/
def addTracks (definition : StreamDefinition) : List StreamTrackInfo → StreamDefinition × List StreamTrackInfo
  | [] => (definition, [])
  | track :: rest =>
    match definition.addTrack track with
    | .error _ => addTracks definition rest
    | .ok added =>
      let (final, accepted) := addTracks added rest
      (final, track :: accepted)

/-- The strings are C strings. -/
def StreamTrackInfo.NoNul (track : StreamTrackInfo) : Prop := 0 ∉ track.trackName ∧ 0 ∉ track.codecId

instance (track : StreamTrackInfo) : Decidable track.NoNul := inferInstanceAs (Decidable (_ ∧ _))

/-- The limits of the platform are kept. -/
def Fits (track : StreamTrackInfo) : Prop :=
  track.codecId.length ≤ pic.mkvMaxCodecIdLen ∧ track.trackName.length ≤ pic.mkvMaxTrackNameLen

instance (track : StreamTrackInfo) : Decidable (Fits pic track) := inferInstanceAs (Decidable (_ ∧ _))

/-- Both ways of declaring a track refuse the same ones, and whatever was not
refused is read back in its order. -/
structure WaysAgree (texts : StreamTexts) (defaultTrack : StreamTrackInfo) (definition : StreamDefinition)
    (tracks : List StreamTrackInfo) : Prop where
  refused : ∀ before track after, tracks = before ++ track :: after →
    ((∃ raised, (addTracks definition before).1.addTrack track = .error raised) ↔
      ∃ raised, StreamDefinition.new pic mkvSegmentUuidLen texts track = .error raised)
  listed : ∃ info, (addTracks definition tracks).1.getStreamInfo pic = some info ∧
    info.trackInfoList.length = info.trackInfoCount.toNat ∧
    readTracks info = some (defaultTrack :: (addTracks definition tracks).2)

variable {pic mkvSegmentUuidLen}

theorem throw_if_longer_ok (limit : ℕ) (text : Bytes) (message : String) :
    throwIfLonger limit text message = .ok () ↔ text.length ≤ limit := by
  unfold throwIfLonger
  split <;> simp <;> omega

/-- The arguments beside the track pass their checks. -/
def StreamTexts.Accepted (pic : Pic) (mkvSegmentUuidLen : ℕ) (texts : StreamTexts) : Prop :=
  texts.streamName.length ≤ pic.maxStreamNameLen ∧ texts.kmsKeyId.length ≤ pic.maxArnLen ∧
    texts.contentType.length ≤ pic.maxContentTypeLen ∧
    throwIfNotUuid mkvSegmentUuidLen texts.segmentUuid = .ok () ∧ convertTags pic texts.tags = .ok ()

theorem new_accepts_iff : StreamDefinition.new pic mkvSegmentUuidLen texts track = .ok definition ↔
    texts.Accepted pic mkvSegmentUuidLen ∧ Fits pic track ∧
      definition = { texts, frameOrderMode := .passThrough, trackInfo := [track] } := by
  unfold StreamDefinition.new StreamTexts.Accepted Fits
  simp only [check_then_ok, throw_if_longer_ok]
  simp only [pure, Except.pure, Except.ok.injEq, eq_comm (b := definition)]
  -- the tags come after the track
  tauto

/-- With accepted texts a track is refused by the constructor exactly for its lengths. -/
theorem refused_iff (accepted : texts.Accepted pic mkvSegmentUuidLen) (track : StreamTrackInfo) :
    (∃ raised, StreamDefinition.new pic mkvSegmentUuidLen texts track = .error raised) ↔ ¬ Fits pic track := by
  cases ended : StreamDefinition.new pic mkvSegmentUuidLen texts track with
  | error raised =>
    refine iff_of_true ⟨raised, rfl⟩ fun fits => ?_
    cases ended.symm.trans (new_accepts_iff.mpr ⟨accepted, fits, rfl⟩)
  | ok made => exact iff_of_false (by simp) (not_not.mpr (new_accepts_iff.mp ended).2.1)

/-! ## The array -/

/-- The declaration, cut to the limits. -/
def StreamTrackInfo.cut (pic : Pic) (track : StreamTrackInfo) : StreamTrackInfo :=
  { track with
    trackName := track.trackName.take pic.mkvMaxTrackNameLen
    codecId := track.codecId.take pic.mkvMaxCodecIdLen }

private theorem cut_eq_iff (track : StreamTrackInfo) : track.cut pic = track ↔ Fits pic track := by
  obtain ⟨trackId, trackName, codecId, cpd, cpdSize, trackType⟩ := track
  simp [StreamTrackInfo.cut, Fits, List.take_eq_self_iff, and_comm]

private theorem copied_text_reads (limit : ℕ) (noNul : 0 ∉ text) :
    ∃ buffer, copyText limit text = some buffer ∧ readCString buffer = some (text.take limit) := by
  have room : (calloc (limit + 1) 1).length = limit + 1 := by simp [calloc]
  obtain ⟨copy, copied, reads⟩ := read_bounded_copy text room
  have whole : text.takeWhile (· ≠ 0) = text := by
    rw [List.takeWhile_eq_self_iff]
    intro byte member
    have nonzero : byte ≠ 0 := fun zero => noNul (zero ▸ member)
    simpa using nonzero
  rw [whole] at reads
  exact ⟨_, by simp [copyText, copied], reads⟩

private theorem track_info_reads (noNul : track.NoNul) :
    ∃ info, makeTrackInfo pic track = some info ∧ readTrack info = some (track.cut pic) := by
  obtain ⟨name, named, nameReads⟩ := copied_text_reads pic.mkvMaxTrackNameLen noNul.1
  obtain ⟨codec, coded, codecReads⟩ := copied_text_reads pic.mkvMaxCodecIdLen noNul.2
  exact ⟨_, by simp [makeTrackInfo, named, coded]; rfl, by simp [readTrack, nameReads, codecReads]; rfl⟩

/-- The array holds every track, each cut to the limits. -/
theorem track_list_reads (tracks : List StreamTrackInfo) (noNul : ∀ track ∈ tracks, track.NoNul) :
    ∃ list, tracks.mapM (makeTrackInfo pic) = some list ∧ list.length = tracks.length ∧
      list.mapM readTrack = some (tracks.map (·.cut pic)) := by
  induction tracks with
  | nil => exact ⟨[], rfl, rfl, rfl⟩
  | cons track rest ih =>
    obtain ⟨info, made, reads⟩ := @track_info_reads pic track (noNul track List.mem_cons_self)
    obtain ⟨list, mades, length, read⟩ := ih fun each member => noNul each (List.mem_cons_of_mem _ member)
    refine ⟨info :: list, ?_, congrArg (· + 1) length, ?_⟩
    · rw [List.mapM_cons, made, mades]
      rfl
    · rw [List.mapM_cons, reads, read]
      rfl

/-- No call of `addTrack` refuses anything. -/
theorem added_tracks (definition : StreamDefinition) (tracks : List StreamTrackInfo) :
    (addTracks definition tracks).1.trackInfo = definition.trackInfo ++ tracks ∧
      (addTracks definition tracks).2 = tracks := by
  induction tracks generalizing definition with
  | nil => simp [addTracks]
  | cons track rest ih =>
    obtain ⟨listed, accepted⟩ := ih { definition with
      frameOrderMode := .multiTrackAvComparePtsOneMsCompensateEofr
      trackInfo := definition.trackInfo ++ [track] }
    simp only [addTracks, StreamDefinition.addTrack]
    exact ⟨by rw [listed, List.append_assoc]; rfl, by rw [accepted]⟩

/-- The stream info that the platform gets after these calls: every track in its
order, cut to the limits, and a count of 32 bits. -/
theorem stream_info_reads
    (built : StreamDefinition.new pic mkvSegmentUuidLen texts defaultTrack = .ok definition)
    (noNul : defaultTrack.NoNul) (noNuls : ∀ track ∈ tracks, track.NoNul) :
    ∃ info, (addTracks definition tracks).1.getStreamInfo pic = some info ∧
      info.trackInfoCount = UInt32.ofNat (tracks.length + 1) ∧
      info.trackInfoList.length = tracks.length + 1 ∧
      info.trackInfoList.mapM readTrack = some ((defaultTrack :: tracks).map (·.cut pic)) := by
  obtain ⟨_, _, shape⟩ := new_accepts_iff.mp built
  have listed : (addTracks definition tracks).1.trackInfo = defaultTrack :: tracks := by
    rw [(added_tracks definition tracks).1, shape]
    rfl
  have allNoNul : ∀ track ∈ defaultTrack :: tracks, track.NoNul := by
    intro track member
    rcases List.mem_cons.mp member with rfl | later
    · exact noNul
    · exact noNuls track later
  obtain ⟨list, made, length, reads⟩ := @track_list_reads pic (defaultTrack :: tracks) allNoNul
  rw [StreamDefinition.getStreamInfo, listed, made]
  exact ⟨_, rfl, rfl, length, reads⟩

/-- **Declaring tracks.** After any calls of `addTrack` the two ways of declaring
a track agree, and all tracks are read back as they were given, precisely if every
added track keeps the limits that the constructor checks, and the tracks can be
counted in 32 bits. -/
theorem ways_agree_iff
    (built : StreamDefinition.new pic mkvSegmentUuidLen texts defaultTrack = .ok definition)
    (noNul : defaultTrack.NoNul) (noNuls : ∀ track ∈ tracks, track.NoNul) :
    WaysAgree pic mkvSegmentUuidLen texts defaultTrack definition tracks ↔
      (∀ track ∈ tracks, Fits pic track) ∧ tracks.length + 1 < 2 ^ 32 := by
  obtain ⟨accepted, fits, _⟩ := new_accepts_iff.mp built
  obtain ⟨info, given, count, length, reads⟩ := stream_info_reads built noNul noNuls
  have counted : info.trackInfoList.length = info.trackInfoCount.toNat ↔ tracks.length + 1 < 2 ^ 32 := by
    rw [count, length, UInt32.toNat_ofNat']
    omega
  constructor
  · intro agree
    constructor
    · intro track member
      obtain ⟨before, after, split⟩ := List.append_of_mem member
      by_contra long
      obtain ⟨raised, threw⟩ := (agree.refused before track after split).mpr ((refused_iff accepted track).mpr long)
      cases threw
    · obtain ⟨other, same, whole, _⟩ := agree.listed
      cases given.symm.trans same
      exact counted.mp whole
  · rintro ⟨allFit, few⟩
    constructor
    · intro before track after split
      refine iff_of_false nofun fun refused => (refused_iff accepted track).mp refused (allFit track ?_)
      rw [split]
      simp
    · have whole := counted.mpr few
      refine ⟨info, given, whole, ?_⟩
      have uncut : (defaultTrack :: tracks).map (·.cut pic) = defaultTrack :: tracks := by
        rw [List.map_congr_left fun track member => ?_, List.map_id]
        rcases List.mem_cons.mp member with rfl | later
        · exact (cut_eq_iff _).mpr fits
        · exact (cut_eq_iff _).mpr (allFit track later)
      rw [readTracks, if_neg (by omega), ← whole, List.take_length, reads, uncut,
        (added_tracks definition tracks).2]

end Declarations

/-- A stream with a video track. -/
def videoTexts : StreamTexts where
  streamName := [99, 97, 109]
  kmsKeyId := []
  contentType := [118, 105, 100, 101, 111]

def videoTrack : StreamTrackInfo where
  trackId := 1
  trackName := [118]
  codecId := [86]
  cpd := none
  cpdSize := 0
  trackType := .video

/-- An audio track with a name of this length, and private data. -/
def audioTrack (nameLength : ℕ) : StreamTrackInfo where
  trackId := 2
  trackName := List.replicate nameLength 97
  codecId := [65]
  cpd := some 4096
  cpdSize := 5
  trackType := .audio

def videoDefinition : StreamDefinition := ⟨videoTexts, .passThrough, [videoTrack]⟩

theorem audio_track_agrees :
    WaysAgree .sample 16 videoTexts videoTrack videoDefinition [audioTrack 32] :=
  (ways_agree_iff rfl (by decide) (by decide)).mpr (by decide)

/-- The constructor refuses a name that `addTrack` takes, and that is cut later. -/
theorem long_name_is_not_refused :
    ¬ WaysAgree .sample 16 videoTexts videoTrack videoDefinition [audioTrack 33] := by
  intro agree
  obtain ⟨raised, threw⟩ := (agree.refused [] (audioTrack 33) [] rfl).mpr ⟨_, rfl⟩
  cases threw

/-! ## The definitions of an element -/

/-- A track as an element declares it: without private data. -/
def ofDeclared (track : KvsProducer.StreamTrackInfo) : StreamTrackInfo where
  trackId := UInt64.ofNat track.trackId
  trackName := bytesOf track.trackName
  codecId := bytesOf track.codecId
  cpd := none
  cpdSize := 0
  trackType := track.trackType

def textsOf (configuration : StreamConfiguration) : StreamTexts where
  streamName := bytesOf configuration.streamName
  kmsKeyId := bytesOf configuration.kmsKeyId
  contentType := bytesOf configuration.contentType
  tags := configuration.tags.map tagBytes

def ofDefinition (definition : KvsProducer.StreamDefinition) : StreamDefinition where
  texts := textsOf definition.toStreamConfiguration
  frameOrderMode := definition.frameOrderMode
  trackInfo := definition.trackInfo.map ofDeclared

private theorem throw_if_longer_in_bytes (limit : ℕ) (text message : String) :
    throwIfLonger limit (bytesOf text) message = KvsProducer.throwIfLonger limit text message := rfl

/-- The constructor that an element calls, read in bytes: it accepts and refuses
the same arguments, with the same exceptions. -/
theorem new_in_bytes (pic : Pic) (mkvSegmentUuidLen : ℕ) (configuration : StreamConfiguration)
    (defaultTrack : KvsProducer.StreamTrackInfo) :
    StreamDefinition.new pic mkvSegmentUuidLen (textsOf configuration) (ofDeclared defaultTrack) =
      (KvsProducer.StreamDefinition.new pic configuration defaultTrack).map ofDefinition := by
  have none_given : throwIfNotUuid mkvSegmentUuidLen (textsOf configuration).segmentUuid = .ok () := rfl
  unfold StreamDefinition.new KvsProducer.StreamDefinition.new
  rw [none_given]
  simp only [textsOf, ofDeclared, throw_if_longer_in_bytes]
  cases KvsProducer.throwIfLonger pic.maxStreamNameLen configuration.streamName _ with
  | error raised => rfl
  | ok =>
    cases KvsProducer.throwIfLonger pic.maxArnLen configuration.kmsKeyId _ with
    | error raised => rfl
    | ok =>
      cases KvsProducer.throwIfLonger pic.maxContentTypeLen configuration.contentType _ with
      | error raised => rfl
      | ok =>
        cases KvsProducer.throwIfLonger pic.mkvMaxCodecIdLen defaultTrack.codecId _ with
        | error raised => rfl
        | ok =>
          cases KvsProducer.throwIfLonger pic.mkvMaxTrackNameLen defaultTrack.trackName _ with
          | error raised => rfl
          | ok => cases convertTags pic (configuration.tags.map tagBytes) <;> rfl

theorem add_track_in_bytes (definition : KvsProducer.StreamDefinition) (track : KvsProducer.StreamTrackInfo) :
    (ofDefinition definition).addTrack (ofDeclared track) = .ok (ofDefinition (definition.addTrack track)) := by
  simp [StreamDefinition.addTrack, KvsProducer.StreamDefinition.addTrack, ofDefinition]

end KvsProducer.TrackList
