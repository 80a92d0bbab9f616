import KvsProducer.KvsSinkUtil
import KvsProducer.StreamTags

/-! What a stream is declared with: the configuration the constructor checks
and the list of its tracks, the default one first. -/
namespace KvsProducer
open CString Gst KvsSinkUtil

structure StreamTrackInfo where
  trackId : ℕ
  trackName : String
  codecId : String
  trackType : MkvTrackInfoType
  deriving DecidableEq, Repr

inductive FrameOrderMode where
  | passThrough
  | multiTrackAvComparePtsOneMsCompensateEofr
  deriving DecidableEq, Repr

/-- The arguments of the constructor that it stores without looking at them,
and the four texts whose lengths it checks. -/
structure StreamConfiguration where
  streamName : String
  retentionPeriodHours : UInt32
  tags : Option StringMap
  kmsKeyId : String
  streamingType : StreamingType
  contentType : String
  maxLatencySeconds : UInt32
  fragmentDurationMiliseconds : UInt32
  timecodeScaleMilliseconds : UInt32
  keyFrameFragmentation : Bool
  frameTimecodes : Bool
  absoluteFragmentTimes : Bool
  fragmentAcks : Bool
  restartOnError : Bool
  recalculateMetrics : Bool
  allowStreamCreation : Bool
  frameRate : UInt32
  avgBandwidthBps : UInt32
  bufferDurationSeconds : UInt32
  replayDurationSeconds : UInt32
  connectionStalenessSeconds : UInt32

structure StreamDefinition extends StreamConfiguration where
  frameOrderMode : FrameOrderMode
  trackInfo : List StreamTrackInfo

/-- `LOG_AND_THROW_IF(limit < text.size(), ...)`. -/
def throwIfLonger (limit : ℕ) (text message : String) : Except Raised Unit :=
  if limit < text.utf8ByteSize then .error (.runtimeError (message ++ toString limit)) else .ok ()

/-- The same map by the bytes of its strings. -/
def tagBytes (tags : StringMap) : TagMap :=
  Std.ExtTreeMap.ofList (tags.toList.map fun pair => (bytesOf pair.1, bytesOf pair.2)) compare

/-- The conversion of the tags for C. An assertion that fails there ends the process. -/
def convertTags (pic : Pic) (tags : Option TagMap) : Except Raised Unit :=
  match asPTag ⟨pic.tagCurrentVersion, pic.maxTagNameLen, pic.maxTagValueLen⟩ tags with
  | .error _ => .error .uncaught
  | .ok _ => .ok ()

/-- The constructor `StreamDefinition::StreamDefinition`. -/
def StreamDefinition.new (pic : Pic) (configuration : StreamConfiguration)
    (defaultTrack : StreamTrackInfo) : Except Raised StreamDefinition := do
  throwIfLonger pic.maxStreamNameLen configuration.streamName "StreamName exceeded max length "
  throwIfLonger pic.maxArnLen configuration.kmsKeyId "KMS Key Id exceeded max length of "
  throwIfLonger pic.maxContentTypeLen configuration.contentType
    "ContentType exceeded max length of "
  throwIfLonger pic.mkvMaxCodecIdLen defaultTrack.codecId "CodecId exceeded max length of "
  throwIfLonger pic.mkvMaxTrackNameLen defaultTrack.trackName "TrackName exceeded max length of "
  convertTags pic (configuration.tags.map tagBytes)
  return { configuration with frameOrderMode := .passThrough, trackInfo := [defaultTrack] }

def StreamDefinition.addTrack (definition : StreamDefinition) (track : StreamTrackInfo) :
    StreamDefinition :=
  { definition with
    frameOrderMode := .multiTrackAvComparePtsOneMsCompensateEofr
    trackInfo := definition.trackInfo ++ [track] }

def StreamDefinition.setFrameOrderMode (definition : StreamDefinition) (mode : FrameOrderMode) :
    StreamDefinition := { definition with frameOrderMode := mode }

def StreamDefinition.getTrackCount (definition : StreamDefinition) : ℕ := definition.trackInfo.length

/-- The definition declares a track under this id with this type. -/
def StreamDefinition.Declares (definition : StreamDefinition) (trackId : ℕ)
    (trackType : MkvTrackInfoType) : Prop :=
  ∃ track ∈ definition.trackInfo, track.trackId = trackId ∧ track.trackType = trackType

/-- The tags are short enough for the platform. -/
def TagsFit (pic : Pic) (tags : Option StringMap) : Prop :=
  ∀ map, tags = some map → ∀ name value : String, map[name]? = some value →
    name.utf8ByteSize ≤ pic.maxTagNameLen ∧ value.utf8ByteSize ≤ pic.maxTagValueLen

theorem throw_if_longer_ok (limit : ℕ) (text message : String) :
    throwIfLonger limit text message = .ok () ↔ text.utf8ByteSize ≤ limit := by
  unfold throwIfLonger
  split <;> simp <;> omega

/-- Behind a check that passes it is the rest that decides. -/
theorem check_then_ok (check : Except Raised Unit) (rest : Except Raised Made) (made : Made) :
    (check >>= fun _ => rest) = .ok made ↔ check = .ok () ∧ rest = .ok made := by
  cases check with
  | error raised => simp [bind, Except.bind]
  | ok => simp [bind, Except.bind]

private theorem bytes_of_injective (same : bytesOf one = bytesOf other) : one = other :=
  String.toByteArray_inj.mp (ByteArray.ext (Array.toList_inj.mp same))

private theorem tag_bytes_mem {tags : StringMap} {pair : Bytes × Bytes} : pair ∈ (tagBytes tags).toList ↔
    ∃ name value, tags[name]? = some value ∧ pair = (bytesOf name, bytesOf value) := by
  let pairs := tags.toList.map fun pair => (bytesOf pair.1, bytesOf pair.2)
  have distinct : pairs.Pairwise fun one other => ¬ compare one.1 other.1 = .eq := by
    refine List.pairwise_map.mpr (Std.ExtTreeMap.distinct_keys_toList.imp fun differ same => differ ?_)
    rw [bytes_of_injective (Std.LawfulEqCmp.eq_of_compare same)]
    exact Std.ReflCmp.compare_self
  have listed : pair ∈ (tagBytes tags).toList ↔ pair ∈ pairs := by
    rw [Std.ExtTreeMap.mem_toList_iff_getElem?_eq_some]
    constructor
    · intro held
      have inside : pair.1 ∈ pairs.map Prod.fst := by
        by_contra absent
        have unlisted : (pairs.map Prod.fst).contains pair.1 = false := by simpa using absent
        have nothing : (tagBytes tags)[pair.1]? = none :=
          Std.ExtTreeMap.getElem?_ofList_of_contains_eq_false unlisted
        cases held.symm.trans nothing
      obtain ⟨other, member, same⟩ := List.mem_map.mp inside
      have found : (tagBytes tags)[pair.1]? = some other.2 := Std.ExtTreeMap.getElem?_ofList_of_mem
        (by rw [same]; exact Std.ReflCmp.compare_self) distinct member
      have whole : other = pair := Prod.ext same (Option.some.inj (found.symm.trans held))
      exact whole ▸ member
    · exact fun member =>
        Std.ExtTreeMap.getElem?_ofList_of_mem Std.ReflCmp.compare_self distinct member
  rw [listed, List.mem_map]
  constructor
  · rintro ⟨⟨name, value⟩, member, rfl⟩
    exact ⟨name, value, Std.ExtTreeMap.mem_toList_iff_getElem?_eq_some.mp member, rfl⟩
  · rintro ⟨name, value, held, rfl⟩
    exact ⟨(name, value), Std.ExtTreeMap.mem_toList_iff_getElem?_eq_some.mpr held, rfl⟩

/-- The process survives the conversion exactly if the tags are short enough. -/
theorem convert_tags_ok (pic : Pic) (tags : Option StringMap) :
    convertTags pic (tags.map tagBytes) = .ok () ↔ TagsFit pic tags := by
  cases tags with
  | none => exact iff_of_true rfl nofun
  | some map =>
    have converts := as_ptag_ok_iff ⟨pic.tagCurrentVersion, pic.maxTagNameLen, pic.maxTagValueLen⟩
      (tagBytes map)
    have passed : convertTags pic (some (tagBytes map)) = .ok () ↔ ∃ array,
        asPTag ⟨pic.tagCurrentVersion, pic.maxTagNameLen, pic.maxTagValueLen⟩ (some (tagBytes map)) =
          .ok array := by
      unfold convertTags
      split <;> simp [*]
    rw [Option.map_some, passed, converts]
    constructor
    · rintro short _ ⟨⟩ name value held
      exact short _ (tag_bytes_mem.mpr ⟨name, value, held, rfl⟩)
    · intro fits pair member
      obtain ⟨name, value, held, rfl⟩ := tag_bytes_mem.mp member
      exact fits map rfl name value held

theorem convert_tags_error (failed : convertTags pic tags = .error raised) : raised = .uncaught := by
  unfold convertTags at failed
  split at failed
  · cases failed
    rfl
  · cases failed

/-- What the constructor accepts, and what it makes of it. -/
theorem new_accepts_iff {configuration : StreamConfiguration} {defaultTrack : StreamTrackInfo} :
    StreamDefinition.new pic configuration defaultTrack = .ok definition ↔
      (configuration.streamName.utf8ByteSize ≤ pic.maxStreamNameLen ∧
        configuration.kmsKeyId.utf8ByteSize ≤ pic.maxArnLen ∧
        configuration.contentType.utf8ByteSize ≤ pic.maxContentTypeLen ∧
        defaultTrack.codecId.utf8ByteSize ≤ pic.mkvMaxCodecIdLen ∧
        defaultTrack.trackName.utf8ByteSize ≤ pic.mkvMaxTrackNameLen) ∧
      TagsFit pic configuration.tags ∧ definition =
        { configuration with frameOrderMode := .passThrough, trackInfo := [defaultTrack] } := by
  unfold StreamDefinition.new
  simp only [check_then_ok, throw_if_longer_ok, convert_tags_ok, and_assoc]
  simp only [pure, Except.pure, Except.ok.injEq, eq_comm (b := definition)]

end KvsProducer
