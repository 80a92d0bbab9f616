import Mathlib.Logic.Function.Iterate
import KvsProducer.Ownership
import KvsProducer.StructureMaps
import KvsProducer.UsablePads

/-! When NULL_TO_READY comes to nothing. An element without pads is meant to
fail because no track settles a content type; but a content type that a property
or an earlier session left is as good as a settled one, and then only a
definition that cannot be built keeps the element from asking for a stream. -/
namespace KvsProducer
open Gst GLib KvsSinkUtil History Runs

def Call.asksForStream : Call → Bool
  | .createStreamSync _ _ _ => true
  | _ => false

def AsksForNothing (call : Call) : Prop := call.asksForStream = false

/-- NULL_TO_READY returns GST_STATE_CHANGE_FAILURE, and `createStreamSync` is not called. -/
def StaysDown (pic : Pic) (sink : GstKvsSink) (outcome : ChangeStateOutcome) : Prop :=
  (gstKvsSinkChangeState pic sink .nullToReady outcome).2 = .failure ∧
    ∀ call ∈ (gstKvsSinkChangeState pic sink .nullToReady outcome).1.since sink, AsksForNothing call

/-! ## What keeps an element down -/

/-- What the definition of one attempt is made from. -/
structure DefinitionSource where
  mediaType : MediaType
  streamName : Option String
  userAgent : Option String
  kmsKeyId : Option String
  contentType : GCharPtr
  codecId : GCharPtr
  trackName : GCharPtr
  audioCodecId : GCharPtr
  streamTags : Option GstStructure
  /-- The blocks that have been released, and the next one to be handed out. -/
  freed : List ℕ
  next : ℕ

def GstKvsSink.definitionSource (sink : GstKvsSink) : DefinitionSource :=
  ⟨sink.data.mediaType, sink.streamName, sink.userAgent, sink.kmsKeyId, sink.contentType,
    sink.codecId, sink.trackName, sink.audioCodecId, sink.streamTags, sink.heap.freed, sink.heap.next⟩

namespace DefinitionSource

/-- The text behind a pointer: of a released block, what its next user left there. -/
def text (source : DefinitionSource) (residue : ℕ → String) (pointer : GCharPtr) : Option String :=
  pointer.map fun block => if block.address ∈ source.freed then residue block.address else block.text

/-- There is no such text, or it is too long. -/
def Unfit (limit : ℕ) (text : Option String) : Prop := ∀ given, text = some given → limit < given.utf8ByteSize

/-- The tags are read, but a pointer that must not be NULL is, or a text is too long. -/
def Refused (pic : Pic) (residue : ℕ → String) (source : DefinitionSource) : Prop :=
  TagsRead source.streamTags ∧
    (source.userAgent = none ∨ Unfit pic.maxStreamNameLen source.streamName ∨
      Unfit pic.maxArnLen source.kmsKeyId ∨
      Unfit pic.maxContentTypeLen (source.text residue source.contentType) ∨
      Unfit pic.mkvMaxCodecIdLen (source.text residue source.codecId) ∨
      Unfit pic.mkvMaxTrackNameLen (source.text residue source.trackName))

end DefinitionSource

/-- None of the attempts to create a stream comes to a definition. -/
def NeverDefined (pic : Pic) (residue : ℕ → String) (sink : GstKvsSink) : Prop :=
  ∀ attempt < defaultTotalRetry,
    (GstKvsSink.prepared^[attempt + 1] sink).definitionSource.Refused pic residue

/-- The strings after a walk that accepts every track. Without tracks it is the sink itself. -/
def GstKvsSink.afterWalk (pic : Pic) (sink : GstKvsSink) (allowedCaps : PadId → Option GstCaps) :
    GstKvsSink :=
  let scan := (walkedMedia allowedCaps sink.collect).foldl (TrackMedia.scan pic) sink.scan
  storeContentType (sink.walked (sink.collect.map (initTrackId sink.data.mediaType)) scan)
    scan.videoContentType scan.audioContentType

/-- What ends a start before a stream is asked for. -/
inductive KeptDown (pic : Pic) (sink : GstKvsSink) (outcome : ChangeStateOutcome) : Prop where
  /-- There is no producer, for a reason that is caught. -/
  | noProducer (fails : ¬ CreatesProducer sink (.changeState .nullToReady outcome))
      (caught : sink.streamName.isSome = true → outcome.credentials ≠ .error .uncaught)
  /-- An entry that a pad left behind is refused with a caught exception. -/
  | refusedEntry (produces : CreatesProducer sink (.changeState .nullToReady outcome))
      (unusable : ∃ track ∈ sink.collect, ¬ Usable pic outcome.allowedCaps track)
      (caught : FirstRefusalCaught pic outcome.allowedCaps sink.collect)
  /-- Nothing settles a content type, and none is there. -/
  | noContentType (produces : CreatesProducer sink (.changeState .nullToReady outcome))
      (usable : ∀ track ∈ sink.collect, Usable pic outcome.allowedCaps track)
      (misses : MissesKind sink.data.mediaType sink.collect) (unset : sink.contentType = none)
  /-- No attempt can build its definition. -/
  | noDefinition (produces : CreatesProducer sink (.changeState .nullToReady outcome))
      (usable : ∀ track ∈ sink.collect, Usable pic outcome.allowedCaps track)
      (never : NeverDefined pic outcome.residue (sink.afterWalk pic outcome.allowedCaps))

/-! ## One attempt -/

/-- The tags are read, but a pointer that must not be NULL is. -/
def DefinitionSource.Missing (source : DefinitionSource) : Prop :=
  TagsRead source.streamTags ∧
    (source.streamName = none ∨ source.contentType = none ∨ source.userAgent = none ∨
      source.kmsKeyId = none ∨ source.codecId = none ∨ source.trackName = none)

theorem missing_refused {source : DefinitionSource} (missing : source.Missing) (pic : Pic)
    (residue : ℕ → String) : source.Refused pic residue := by
  have unfit {limit : ℕ} {text : Option String} (null : text = none) :
      DefinitionSource.Unfit limit text := by
    rw [null]
    exact nofun
  have unread {pointer : GCharPtr} (null : pointer = none) : source.text residue pointer = none := by
    rw [null]
    rfl
  obtain ⟨read, missing⟩ := missing
  refine ⟨read, ?_⟩
  rcases missing with stream | content | agent | key | codec | track
  · exact .inr (.inl (unfit stream))
  · exact .inr (.inr (.inr (.inl (unfit (unread content)))))
  · exact .inl agent
  · exact .inr (.inr (.inl (unfit key)))
  · exact .inr (.inr (.inr (.inr (.inl (unfit (unread codec))))))
  · exact .inr (.inr (.inr (.inr (.inr (unfit (unread track))))))

/-- A source without NULL is refused for its lengths only. -/
theorem refused_lengths (source : DefinitionSource) (read : TagsRead source.streamTags) (agent : source.userAgent = some userAgent)
    (stream : source.streamName = some streamName) (key : source.kmsKeyId = some kmsKeyId)
    (content : source.text residue source.contentType = some contentType)
    (codec : source.text residue source.codecId = some codecId)
    (track : source.text residue source.trackName = some trackName) (pic : Pic) :
    source.Refused pic residue ↔ ¬ (streamName.utf8ByteSize ≤ pic.maxStreamNameLen ∧
      kmsKeyId.utf8ByteSize ≤ pic.maxArnLen ∧ contentType.utf8ByteSize ≤ pic.maxContentTypeLen ∧
      codecId.utf8ByteSize ≤ pic.mkvMaxCodecIdLen ∧ trackName.utf8ByteSize ≤ pic.mkvMaxTrackNameLen) := by
  have long {limit : ℕ} {text : Option String} {given : String} (found : text = some given) :
      DefinitionSource.Unfit limit text ↔ limit < given.utf8ByteSize := by
    simp [DefinitionSource.Unfit, found]
  unfold DefinitionSource.Refused
  rw [and_iff_right read, long stream, long key, long content, long codec, long track, agent]
  simp only [reduceCtorEq, false_or]
  omega

theorem read_string_reads (heap : Heap) (residue : String) (block : GString) :
    (readString heap residue block).1 =
        (if block.address ∈ heap.freed then residue else block.text) ∧
      (readString heap residue block).2.freed = heap.freed ∧
      (readString heap residue block).2.next = heap.next := by
  unfold readString
  split <;> simp [*]

theorem check_strings_cases (sink : GstKvsSink) :
    ((TagsRead sink.streamTags → sink.definitionSource.Missing) ∧
        ∃ pointer, checkStrings sink = .error (.internalCheck pointer)) ∨
      ∃ strings userAgent, checkStrings sink = .ok strings ∧ sink.streamName = some strings.streamName ∧
        sink.contentType = some strings.contentType ∧ sink.userAgent = some userAgent ∧
        sink.kmsKeyId = some strings.kmsKeyId ∧ sink.codecId = some strings.codecId ∧
        sink.trackName = some strings.trackName := by
  unfold checkStrings DefinitionSource.Missing GstKvsSink.definitionSource
  cases sink.streamName with
  | none => exact .inl ⟨fun read => ⟨read, .inl rfl⟩, _, rfl⟩
  | some streamName =>
    cases sink.contentType with
    | none => exact .inl ⟨fun read => ⟨read, .inr (.inl rfl)⟩, _, rfl⟩
    | some contentType =>
      cases sink.userAgent with
      | none => exact .inl ⟨fun read => ⟨read, .inr (.inr (.inl rfl))⟩, _, rfl⟩
      | some userAgent =>
        cases sink.kmsKeyId with
        | none => exact .inl ⟨fun read => ⟨read, .inr (.inr (.inr (.inl rfl)))⟩, _, rfl⟩
        | some kmsKeyId =>
          cases sink.codecId with
          | none => exact .inl ⟨fun read => ⟨read, .inr (.inr (.inr (.inr (.inl rfl))))⟩, _, rfl⟩
          | some codecId =>
            cases sink.trackName with
            | none => exact .inl ⟨fun read => ⟨read, .inr (.inr (.inr (.inr (.inr rfl))))⟩, _, rfl⟩
            | some trackName => exact .inr ⟨_, userAgent, rfl, rfl, rfl, rfl, rfl, rfl, rfl⟩

/-- The lengths that the constructor checks with a caught exception. -/
def LengthsFit (pic : Pic) (configuration : StreamConfiguration) (defaultTrack : StreamTrackInfo) : Prop :=
  configuration.streamName.utf8ByteSize ≤ pic.maxStreamNameLen ∧
    configuration.kmsKeyId.utf8ByteSize ≤ pic.maxArnLen ∧
    configuration.contentType.utf8ByteSize ≤ pic.maxContentTypeLen ∧
    defaultTrack.codecId.utf8ByteSize ≤ pic.mkvMaxCodecIdLen ∧
    defaultTrack.trackName.utf8ByteSize ≤ pic.mkvMaxTrackNameLen

/-- The constructor throws for a length, or ends the process for the tags. -/
theorem new_error (failed : StreamDefinition.new pic configuration defaultTrack = .error raised) :
    (∃ what, raised = .runtimeError what ∧ ¬ LengthsFit pic configuration defaultTrack) ∨
      raised = .uncaught ∧ LengthsFit pic configuration defaultTrack ∧ ¬ TagsFit pic configuration.tags := by
  by_cases lengths : LengthsFit pic configuration defaultTrack
  · have unfit : ¬ TagsFit pic configuration.tags := fun fits => by
      rw [new_accepts_iff.mpr ⟨lengths, fits, rfl⟩] at failed
      cases failed
    obtain ⟨name, arn, type, codec, track⟩ := lengths
    unfold StreamDefinition.new at failed
    rw [(throw_if_longer_ok ..).mpr name, (throw_if_longer_ok ..).mpr arn, (throw_if_longer_ok ..).mpr type,
      (throw_if_longer_ok ..).mpr codec, (throw_if_longer_ok ..).mpr track] at failed
    cases converted : convertTags pic (configuration.tags.map tagBytes) with
    | ok => exact absurd ((convert_tags_ok ..).mp converted) unfit
    | error threw =>
      rw [converted] at failed
      cases failed
      exact .inr ⟨convert_tags_error converted, ⟨name, arn, type, codec, track⟩, unfit⟩
  · refine .inl ?_
    simp only [StreamDefinition.new, throwIfLonger] at failed
    unfold LengthsFit at lengths
    repeat' split at failed
    all_goals first
      | omega
      | cases failed
        exact ⟨_, rfl, lengths⟩

/-- What a field raises is never caught. -/
theorem read_tags_error (failed : (readStreamTags tags).1 = .error raised) : raised = .uncaught := by
  cases tags with
  | none => cases failed
  | some tags =>
    simp only [readStreamTags, gstruct_to_map_eq] at failed
    exact walk_raises_uncaught failed

/-- How the definition of an attempt comes out. -/
inductive Defines (pic : Pic) (residue : ℕ → String) (sink : GstKvsSink) :
    Heap × Except Raised StreamDefinition → Prop where
  | missing : sink.definitionSource.Missing →
      Defines pic residue sink (sink.heap, .error (.internalCheck pointer))
  | refused : sink.definitionSource.Refused pic residue → heap.freed = sink.heap.freed →
      heap.next = sink.heap.next → Defines pic residue sink (heap, .error (.runtimeError what))
  | built : ¬ sink.definitionSource.Refused pic residue → TagsPass pic sink.streamTags →
      Defines pic residue sink (heap, .ok definition)
  | aborted : ¬ sink.definitionSource.Refused pic residue → ¬ TagsPass pic sink.streamTags →
      Defines pic residue sink (heap, .error .uncaught)
  | noAudioCodec : ¬ sink.definitionSource.Refused pic residue → sink.audioCodecId = none →
      Defines pic residue sink (heap, .error .uncaught)

theorem define_stream_cases (pic : Pic) (sink : GstKvsSink) (residue : ℕ → String) :
    Defines pic residue sink (defineStream pic sink residue) := by
  unfold defineStream
  cases read : (readStreamTags sink.streamTags).1 with
  | error raised =>
    cases read_tags_error read
    have unread : ¬ TagsRead sink.streamTags := fun ⟨ret, done⟩ => by cases read.symm.trans done
    exact .aborted (fun refused => unread refused.1) fun passed => unread passed.read
  | ok ret =>
    have wasRead : TagsRead sink.streamTags := ⟨ret, read⟩
    obtain ⟨missing, pointer, checked⟩ | ⟨strings, userAgent, checked, stream, content, agent, key, codec,
      track⟩ := check_strings_cases sink
    · rw [checked]
      exact .missing (missing wasRead)
    · rw [checked]
      simp only
      obtain ⟨contentText, contentFreed, contentNext⟩ :=
        read_string_reads sink.heap (residue strings.contentType.address) strings.contentType
      generalize readString sink.heap (residue strings.contentType.address) strings.contentType = one
        at contentText contentFreed contentNext
      obtain ⟨codecText, codecFreed, codecNext⟩ :=
        read_string_reads one.2 (residue strings.codecId.address) strings.codecId
      generalize readString one.2 (residue strings.codecId.address) strings.codecId = two
        at codecText codecFreed codecNext
      obtain ⟨trackText, trackFreed, trackNext⟩ :=
        read_string_reads two.2 (residue strings.trackName.address) strings.trackName
      generalize readString two.2 (residue strings.trackName.address) strings.trackName = three
        at trackText trackFreed trackNext
      rw [contentFreed] at codecText codecFreed
      rw [codecFreed] at trackText trackFreed
      have reads {pointer : GCharPtr} {block : GString} {text : String} (found : pointer = some block)
          (same : text = if block.address ∈ sink.heap.freed then residue block.address else block.text) :
          sink.definitionSource.text residue pointer = some text := by
        rw [found, same]
        rfl
      have lengths := refused_lengths sink.definitionSource wasRead agent stream key
        (reads content contentText) (reads codec codecText) (reads track trackText) pic
      split
      · rename_i raised failed
        obtain ⟨what, rfl, long⟩ | ⟨rfl, fits, unfit⟩ := new_error failed
        · exact .refused (lengths.mpr long) trackFreed (trackNext.trans (codecNext.trans contentNext))
        · exact .aborted (fun refused => lengths.mp refused fits) fun passed => unfit passed.fit
      · rename_i definition built
        obtain ⟨short, tags, _⟩ := new_accepts_iff.mp built
        have fits : ¬ sink.definitionSource.Refused pic residue := fun refused => lengths.mp refused short
        unfold addAudioTrack
        split
        · split
          · exact .noAudioCodec fits ‹_›
          · exact .built fits ⟨wasRead, tags⟩
        · exact .built fits ⟨wasRead, tags⟩

/-! ## Preparing again and again -/

/-- The blocks released so far depend on nothing but those released before. -/
theorem freed_congr {one other : Heap} (same : one.freed = other.freed) (pointer : GCharPtr) :
    (gFree one pointer).freed = (gFree other pointer).freed := by
  cases pointer with
  | none => exact same
  | some block =>
    simp only [gFree, same]
    split <;> rfl

private theorem free_keeps_next (heap : Heap) (pointer : GCharPtr) : (gFree heap pointer).next = heap.next := by
  cases pointer with
  | none => rfl
  | some block =>
    simp only [gFree]
    split <;> rfl

/-- The audio-only branch gives the audio codec id to the first track, under a new name. -/
def GstKvsSink.audioOnlySource (sink : GstKvsSink) : DefinitionSource :=
  { sink.definitionSource with
    codecId := sink.audioCodecId
    trackName := some ⟨sink.heap.next, defaultAudioTrackName⟩
    freed := (gFree (gFree sink.heap sink.codecId) sink.trackName).freed
    next := sink.heap.next + 1 }

private theorem source_media_type (sink : GstKvsSink) : (applyMediaType sink).definitionSource =
    if sink.data.mediaType = .audioOnly then sink.audioOnlySource else sink.definitionSource := by
  unfold applyMediaType
  split <;> rename_i media
  · rw [if_neg (by simp [media])]
    rfl
  · rw [if_pos media]
    simp only [GstKvsSink.definitionSource, GstKvsSink.audioOnlySource, gStrdup, free_keeps_next]
  · rw [if_neg (by simp [media])]

theorem source_prepared (sink : GstKvsSink) : sink.prepared.definitionSource =
    if sink.data.mediaType = .audioOnly then sink.audioOnlySource else sink.definitionSource := by
  obtain ⟨absoluteFragmentTimes, ptsBase, timed⟩ := file_start_time_changes sink
  unfold GstKvsSink.prepared
  rw [source_media_type, timed]
  rfl

theorem prepared_stream_tags (sink : GstKvsSink) : sink.prepared.streamTags = sink.streamTags := by
  have source := source_prepared sink
  split at source <;> exact (congrArg DefinitionSource.streamTags source :)

theorem prepared_iterate_stream_tags (attempts : ℕ) (sink : GstKvsSink) :
    (GstKvsSink.prepared^[attempts] sink).streamTags = sink.streamTags := by
  induction attempts generalizing sink with
  | zero => rfl
  | succ attempts ih => rw [Function.iterate_succ_apply, ih, prepared_stream_tags]

/-- Preparing an attempt reads nothing but the source of its definition. -/
theorem prepared_congr {one other : GstKvsSink} (same : one.definitionSource = other.definitionSource) :
    one.prepared.definitionSource = other.prepared.definitionSource := by
  have mediaType : one.data.mediaType = other.data.mediaType := congrArg (·.mediaType) same
  have codecId : one.codecId = other.codecId := congrArg (·.codecId) same
  have trackName : one.trackName = other.trackName := congrArg (·.trackName) same
  have audioCodecId : one.audioCodecId = other.audioCodecId := congrArg (·.audioCodecId) same
  have freed : one.heap.freed = other.heap.freed := congrArg (·.freed) same
  have next : one.heap.next = other.heap.next := congrArg (·.next) same
  have released : (gFree (gFree one.heap other.codecId) other.trackName).freed =
      (gFree (gFree other.heap other.codecId) other.trackName).freed :=
    freed_congr (freed_congr freed _) _
  rw [source_prepared, source_prepared, mediaType]
  unfold GstKvsSink.audioOnlySource
  rw [same, codecId, trackName, audioCodecId, released, next]

theorem prepared_iterate_congr {one other : GstKvsSink}
    (same : one.definitionSource = other.definitionSource) (attempts : ℕ) :
    (GstKvsSink.prepared^[attempts] one).definitionSource =
      (GstKvsSink.prepared^[attempts] other).definitionSource := by
  induction attempts generalizing one other with
  | zero => exact same
  | succ attempts ih =>
    rw [Function.iterate_succ_apply, Function.iterate_succ_apply]
    exact ih (prepared_congr same)

/-- The next attempt goes on from the source that the one before left. -/
theorem later_attempts {sink after : GstKvsSink}
    (source : after.definitionSource = sink.prepared.definitionSource) (attempt : ℕ) :
    (GstKvsSink.prepared^[attempt + 1] after).definitionSource =
      (GstKvsSink.prepared^[attempt + 2] sink).definitionSource := by
  rw [Function.iterate_succ_apply _ (attempt + 1) sink]
  exact prepared_iterate_congr source (attempt + 1)

/-- What is NULL for one attempt is NULL for the next. -/
theorem missing_again {sink : GstKvsSink} (missing : sink.prepared.definitionSource.Missing) :
    sink.prepared.prepared.definitionSource.Missing := by
  have mediaType := (prepared_keeps sink).mediaType
  rw [source_prepared sink.prepared, mediaType]
  rw [source_prepared] at missing
  by_cases audio : sink.data.mediaType = .audioOnly
  · have source := source_prepared sink
    rw [if_pos audio] at missing source ⊢
    have streamName : sink.prepared.streamName = sink.streamName := congrArg (·.streamName) source
    have contentType : sink.prepared.contentType = sink.contentType := congrArg (·.contentType) source
    have userAgent : sink.prepared.userAgent = sink.userAgent := congrArg (·.userAgent) source
    have kmsKeyId : sink.prepared.kmsKeyId = sink.kmsKeyId := congrArg (·.kmsKeyId) source
    have codecId : sink.prepared.audioCodecId = sink.audioCodecId := congrArg (·.audioCodecId) source
    have tags : sink.prepared.streamTags = sink.streamTags := congrArg (·.streamTags) source
    simp only [DefinitionSource.Missing, GstKvsSink.audioOnlySource, GstKvsSink.definitionSource,
      streamName, contentType, userAgent, kmsKeyId, codecId, tags, reduceCtorEq, or_false] at missing ⊢
    exact missing
  · have source := source_prepared sink
    rw [if_neg audio] at missing source ⊢
    rw [source]
    exact missing

theorem missing_always {sink : GstKvsSink} (missing : sink.prepared.definitionSource.Missing)
    (attempts : ℕ) : (GstKvsSink.prepared^[attempts + 1] sink).definitionSource.Missing := by
  induction attempts with
  | zero => exact missing
  | succ attempts ih =>
    rw [Function.iterate_succ_apply'] at ih
    rw [Function.iterate_succ_apply', Function.iterate_succ_apply']
    exact missing_again ih

/-! ## The attempts -/

/-- How one attempt to create a stream ends. -/
inductive Attempt (pic : Pic) (residue : ℕ → String) (sink : GstKvsSink) :
    GstKvsSink × Except Raised Unit → Prop where
  | missing : sink.prepared.definitionSource.Missing → after.calls = sink.calls →
      Attempt pic residue sink (after, .error (.internalCheck pointer))
  | refused : sink.prepared.definitionSource.Refused pic residue →
      after.definitionSource = sink.prepared.definitionSource → after.calls = sink.calls →
      Attempt pic residue sink (after, .error (.runtimeError what))
  | asked : ¬ sink.prepared.definitionSource.Refused pic residue → call.asksForStream = true →
      after.calls = sink.calls ++ [call] → Attempt pic residue sink (after, result)
  | crashed : ¬ sink.prepared.definitionSource.Refused pic residue →
      Attempt pic residue sink (after, .error .uncaught)

private theorem attempt_cases (pic : Pic) (sink : GstKvsSink) (residue : ℕ → String) (status : Status) :
    Attempt pic residue sink (createKinesisVideoStream pic sink residue status) := by
  have calls := (prepared_keeps sink).calls
  have defines := define_stream_cases pic sink.prepared residue
  have ready : applyMediaType (applyFileStartTime sink) = sink.prepared := rfl
  unfold createKinesisVideoStream
  simp only [ready]
  generalize defineStream pic sink.prepared residue = defined at defines
  cases defines with
  | missing missing => exact .missing missing calls
  | refused refused freed next =>
    refine .refused refused ?_ calls
    simp only [GstKvsSink.definitionSource, freed, next]
  | aborted fits | noAudioCodec fits => exact .crashed fits
  | @built heap definition fits =>
    simp only [createStreamSync]
    cases sink.prepared.data.kinesisVideoProducer with
    | none => exact .crashed fits
    | some producer =>
      simp only
      split
      · rename_i failed
        split at failed
        · cases failed
          exact .asked fits rfl (congrArg (· ++ [_]) calls)
        · split at failed
          · cases failed
            exact .asked fits rfl (congrArg (· ++ [_]) calls)
          · cases failed
      · rename_i created
        split at created
        · cases created
        · split at created
          · cases created
          · cases created
            exact .asked fits rfl (congrArg (· ++ [_]) calls)

/-- What comes of all attempts: a quiet failure, a crash, or a request for a stream. -/
inductive AllAttempts (sink : GstKvsSink) (never : Prop) : GstKvsSink × Except Raised Unit → Prop where
  | quiet : never → raised ≠ .uncaught → after.calls = sink.calls →
      AllAttempts sink never (after, .error raised)
  | asked : ¬ never → call.asksForStream = true → sink.calls ++ [call] <+: after.calls →
      AllAttempts sink never (after, result)
  | crashed : ¬ never → AllAttempts sink never (after, .error .uncaught)

private theorem all_attempts (pic : Pic) (outcome : ChangeStateOutcome) (retryCount : ℕ) (sink : GstKvsSink) :
    AllAttempts sink
      (∀ attempt < retryCount,
        (GstKvsSink.prepared^[attempt + 1] sink).definitionSource.Refused pic outcome.residue)
      (kinesisVideoStreamInitLoop pic outcome retryCount sink) := by
  induction retryCount generalizing sink with
  | zero => exact .quiet (by rintro _ ⟨⟩) (by rintro ⟨⟩) rfl
  | succ retryCount ih =>
    have first (all : ∀ attempt < retryCount + 1,
        (GstKvsSink.prepared^[attempt + 1] sink).definitionSource.Refused pic outcome.residue) :
        sink.prepared.definitionSource.Refused pic outcome.residue := all 0 (Nat.succ_pos _)
    have attempt := attempt_cases pic sink outcome.residue
      (outcome.createStatus (defaultTotalRetry - (retryCount + 1)))
    unfold kinesisVideoStreamInitLoop
    generalize createKinesisVideoStream pic sink outcome.residue
      (outcome.createStatus (defaultTotalRetry - (retryCount + 1))) = ended at attempt
    cases attempt with
    | missing missing calls =>
      exact .quiet (fun attempt _ => missing_refused (missing_always missing attempt) pic _) (by rintro ⟨⟩) calls
    | @refused after what refused source calls =>
      have later := ih after
      have shifted : (∀ attempt < retryCount,
          (GstKvsSink.prepared^[attempt + 1] after).definitionSource.Refused pic outcome.residue) ↔
          ∀ attempt < retryCount + 1,
            (GstKvsSink.prepared^[attempt + 1] sink).definitionSource.Refused pic outcome.residue := by
        have same := later_attempts source
        constructor
        · intro rest attempt below
          cases attempt with
          | zero => exact refused
          | succ attempt => exact same attempt ▸ rest attempt (Nat.lt_of_succ_lt_succ below)
        · intro all attempt below
          exact same attempt ▸ all (attempt + 1) (Nat.succ_lt_succ below)
      simp only
      by_cases last : retryCount = 0
      · rw [if_pos last]
        refine .quiet (shifted.mp fun attempt below => ?_) (by rintro ⟨⟩) calls
        omega
      · rw [if_neg last]
        rw [shifted] at later
        generalize kinesisVideoStreamInitLoop pic outcome retryCount after = ended at later
        cases later with
        | quiet never caught same => exact .quiet never caught (same.trans calls)
        | asked some asks extends' => exact .asked some asks (calls ▸ extends')
        | crashed some => exact .crashed some
    | @asked call after result fits asks calls =>
      have never : ¬ ∀ attempt < retryCount + 1,
          (GstKvsSink.prepared^[attempt + 1] sink).definitionSource.Refused pic outcome.residue :=
        fun all => fits (first all)
      have here : sink.calls ++ [call] <+: after.calls := calls ▸ List.prefix_refl _
      cases result with
      | ok => exact .asked never asks here
      | error raised =>
        cases raised with
        | internalCheck | uncaught => exact .asked never asks here
        | runtimeError what =>
          simp only
          split
          · exact .asked never asks here
          · have grown := stream_init_loop_cases
              (Prod.mk.eta : _ = kinesisVideoStreamInitLoop pic outcome retryCount after)
            have kept : after.calls <+: (kinesisVideoStreamInitLoop pic outcome retryCount after).1.calls := by
              obtain ⟨_, creates⟩ | ⟨_, keeps⟩ := grown
              · obtain ⟨added, same, _⟩ := creates.calls
                exact ⟨added, same.symm⟩
              · obtain ⟨added, same, _⟩ := keeps.calls
                exact ⟨added, same.symm⟩
            exact .asked never asks (here.trans kept)
    | crashed fits => exact .crashed fun all => fits (first all)

/-! ## The stages of a start -/

theorem stored_source_congr {one other : GstKvsSink} (same : one.definitionSource = other.definitionSource)
    (heap : one.heap = other.heap) (video audio : GCharPtr) :
    (storeContentType one video audio).definitionSource =
      (storeContentType other video audio).definitionSource := by
  have mediaType : one.data.mediaType = other.data.mediaType := congrArg (·.mediaType) same
  simp only [GstKvsSink.definitionSource, DefinitionSource.mk.injEq] at same
  unfold storeContentType
  rw [mediaType]
  cases joinContentType other.data.mediaType video audio with
  | none => simp only [GstKvsSink.definitionSource, same, heap]
  | some text => simp only [GstKvsSink.definitionSource, same, heap]

/-- The walk does not look at the producer, nor the definition at the timeline. -/
theorem source_after_walk (pic : Pic) (sink : GstKvsSink) (allowedCaps : PadId → Option GstCaps)
    (dataUseCount : ℕ) (calls : List Call) (nextProducer : ProducerId) (producer : Option ProducerId) :
    ((sink.producing dataUseCount calls nextProducer producer).afterWalk pic
        allowedCaps).forgetTimeline.definitionSource =
      (sink.afterWalk pic allowedCaps).definitionSource := by
  have walked (tracks : List GstKvsSinkTrackData) (scan : TrackScan) :
      ((sink.producing dataUseCount calls nextProducer producer).walked tracks scan).definitionSource =
        (sink.walked tracks scan).definitionSource := rfl
  unfold GstKvsSink.afterWalk
  exact stored_source_congr (walked _ _) rfl _ _

theorem after_walk_stream_tags (pic : Pic) (sink : GstKvsSink) (allowedCaps : PadId → Option GstCaps) :
    (sink.afterWalk pic allowedCaps).streamTags = sink.streamTags := by
  unfold GstKvsSink.afterWalk storeContentType
  dsimp only
  split <;> rfl

/-- The walk that accepts every track, and whether it leaves a content type. -/
theorem accepted_walk (accepted : ∀ track ∈ sink.collect, (trackMedia outcome.allowedCaps track).isSome = true)
    (pic : Pic) :
    (initTrackData pic sink outcome).1 = sink.afterWalk pic outcome.allowedCaps ∧
      (((initTrackData pic sink outcome).2 = .ok () ∧
          ¬ (MissesKind sink.data.mediaType sink.collect ∧ sink.contentType = none)) ∨
        (initTrackData pic sink outcome).2 = .error (.internalCheck "kvssink->content_type") ∧
          MissesKind sink.data.mediaType sink.collect ∧ sink.contentType = none) := by
  let texts : SinkTexts := ⟨"", "", ""⟩
  obtain ⟨scanned, ended⟩ := init_tracks_scan pic (sink.streamName.getD "") sink.data.mediaType
    outcome.allowedCaps sink.collect sink.scan
  have done := ended.mpr accepted
  constructor
  · rw [init_track_data_eq]
    simp only [done, scanned]
    generalize same : initTracks pic (sink.streamName.getD "") sink.data.mediaType outcome.allowedCaps
      sink.collect sink.scan = result at done
    obtain ⟨tracks, scan, _⟩ := result
    simp only at done
    subst done
    rw [init_tracks_done same]
    rfl
  · obtain ⟨content, result⟩ := accepted_track_data accepted pic texts
    rw [← stores_nothing_iff accepted pic texts]
    rw [result]
    cases stored : (initTrackData pic sink outcome).1.contentType with
    | some block =>
      refine .inl ⟨rfl, ?_⟩
      rintro ⟨nothing, unset⟩
      rw [stored, nothing, unset] at content
      cases content
    | none =>
      rw [stored] at content
      have both := Option.or_eq_none_iff.mp content.symm
      exact .inr ⟨rfl, both.1, Option.map_eq_none_iff.mp both.2⟩

private theorem fail_logs (sink : GstKvsSink) (message : String) (raised : Raised) :
    sink.calls <+: (failChangeState sink message raised).1.calls := by
  cases raised with
  | uncaught => exact List.prefix_refl _
  | internalCheck | runtimeError => exact List.prefix_append _ _

private theorem fail_quiet (caught : raised ≠ .uncaught) (message : String) (sink : GstKvsSink) :
    (failChangeState sink message raised).2 = .failure ∧
      (failChangeState sink message raised).1.calls = sink.calls ++
        [.elementError (.libraryInit (message ++ raised.what))] := by
  cases raised with
  | uncaught => exact absurd rfl caught
  | internalCheck | runtimeError => exact ⟨rfl, rfl⟩

/-- Whether NULL_TO_READY comes to a producer. -/
theorem producer_cases (sink : GstKvsSink) (outcome : ChangeStateOutcome) :
    (¬ CreatesProducer sink (.changeState .nullToReady outcome) ∧
        ∃ held raised, kinesisVideoProducerInit sink outcome = (held, .error raised) ∧
          held.calls = sink.calls ∧
          (raised = .uncaught ↔ sink.streamName.isSome = true ∧ outcome.credentials = .error .uncaught)) ∨
      CreatesProducer sink (.changeState .nullToReady outcome) ∧
        ∃ dataUseCount calls nextProducer producer, kinesisVideoProducerInit sink outcome =
            (sink.producing dataUseCount calls nextProducer producer, .ok ()) ∧
          Grows AsksForNothing sink.calls calls := by
  have silent (device : KvsSinkDeviceInfoProvider) :
      AsksForNothing (.createSync sink.nextProducer device) := rfl
  have destroyed (producer : ProducerId) : AsksForNothing (.destroyProducer producer) := rfl
  have created (device : KvsSinkDeviceInfoProvider) := Grows.snoc (silent device) sink.calls
  rw [creates_producer_iff]
  have ends := producer_init_ends sink outcome
  generalize kinesisVideoProducerInit sink outcome = finished at ends
  cases ends with
  | unnamed named caught => exact .inl ⟨by simp [named], _, _, rfl, rfl, by simp [named, caught]⟩
  | noCredentials named chosen => exact .inl ⟨by simp [chosen], _, _, rfl, rfl, by simp [named, chosen]⟩
  | noUserAgent chosen agent caught =>
    exact .inl ⟨by simp [agent], _, _, rfl, rfl, by simp [chosen, caught]⟩
  | noClient chosen client => exact .inl ⟨by simp [client], _, _, rfl, rfl, by simp [chosen]⟩
  | produced named chosen agent client =>
    refine .inr ⟨by simp [named, chosen, agent, client], ?_⟩
    unfold GstKvsSink.renewed
    cases sink.data.kinesisVideoProducer with
    | none => exact ⟨_, _, _, _, rfl, created _⟩
    | some old =>
      simp only [destroyProducer]
      exact ⟨_, _, _, _, rfl, (created _).then (destroyed old)⟩

private theorem change_state_failed (ran : nullToReady pic sink outcome = (after, .failure)) :
    gstKvsSinkChangeState pic sink .nullToReady outcome = (after, .failure) := by
  simp only [gstKvsSinkChangeState, upwardTransition, ran]

private theorem quiet_failure_stays_down (ran : nullToReady pic sink outcome = (after, .failure))
    (grown : Grows AsksForNothing sink.calls after.calls) : StaysDown pic sink outcome := by
  unfold StaysDown
  rw [change_state_failed ran]
  exact ⟨rfl, since_of_grows grown⟩

private theorem crash_is_no_failure (ran : nullToReady pic sink outcome = (after, .crash)) :
    ¬ StaysDown pic sink outcome := by
  rintro ⟨failed, -⟩
  simp only [gstKvsSinkChangeState, upwardTransition, ran] at failed
  cases failed

/-- Whatever comes of a request for a stream, it was made. -/
theorem request_is_made (ran : nullToReady pic sink outcome = (after, result))
    (asks : call.asksForStream = true) (began : sink.calls <+: before)
    (made : before ++ [call] <+: after.calls) : ¬ StaysDown pic sink outcome := by
  have recorded : call ∈ after.since sink := by
    obtain ⟨earlier, rfl⟩ := began
    obtain ⟨later, same⟩ := made
    rw [GstKvsSink.since, ← same]
    simp
  rintro ⟨-, silent⟩
  have stays : call ∈ (gstKvsSinkChangeState pic sink .nullToReady outcome).1.since sink := by
    simp only [gstKvsSinkChangeState, upwardTransition, ran]
    cases result with
    | failure | crash => exact recorded
    | success =>
      cases outcome.parentChanged with
      | true => exact recorded
      | false =>
        have longer : after.calls.length ≥ sink.calls.length := by
          by_contra shorter
          rw [GstKvsSink.since, List.drop_eq_nil_of_le (by omega)] at recorded
          cases recorded
        simp only [Bool.not_false, if_true, GstKvsSink.since, GstKvsSink.log,
          List.drop_append_of_le_length longer]
        exact List.mem_append_left _ recorded
  rw [show call.asksForStream = false from silent call stays] at asks
  cases asks

private theorem error_asks_nothing (error : ElementError) : AsksForNothing (.elementError error) := rfl

/-! ## The exact condition -/

/-- A failure of a stage before the stream, whose exception is caught. -/
theorem caught_stays_down (ran : nullToReady pic sink outcome = failChangeState held message raised)
    (caught : raised ≠ .uncaught) (grown : Grows AsksForNothing sink.calls held.calls) :
    StaysDown pic sink outcome := by
  obtain ⟨failure, logged⟩ := fail_quiet caught message held
  refine quiet_failure_stays_down (ran.trans (Prod.ext rfl failure)) ?_
  rw [logged]
  exact grown.then (error_asks_nothing _)

theorem walk_fails_start (initialized : kinesisVideoProducerInit sink outcome = (held, .ok ()))
    (walked : initTrackData pic held outcome = (after, .error raised)) :
    nullToReady pic sink outcome =
      failChangeState after "Failed to init kvs producer. Error: " raised := by
  simp only [nullToReady, initialized, walked]

/-- After the walk, the attempts decide. -/
theorem attempts_end_start (initialized : kinesisVideoProducerInit sink outcome = (held, .ok ()))
    (walked : initTrackData pic held outcome = (after, .ok ()))
    (streamed : kinesisVideoStreamInitLoop pic outcome defaultTotalRetry after.forgetTimeline =
      (tried, result)) :
    nullToReady pic sink outcome =
      match result with
      | .error raised => failChangeState tried "Failed to create stream. Error: " raised
      | .ok () => (tried, .success) := by
  simp only [nullToReady, initialized, walked, kinesisVideoStreamInit, streamed]
  cases result <;> rfl

/-- With a producer and all tracks accepted, it is for the content type and the attempts. -/
theorem accepted_stays_down_iff {sink : GstKvsSink}
    (initialized : kinesisVideoProducerInit sink outcome =
      (sink.producing dataUseCount calls nextProducer producer, .ok ()))
    (grown : Grows AsksForNothing sink.calls calls)
    (accepted : ∀ track ∈ sink.collect, (trackMedia outcome.allowedCaps track).isSome = true) (pic : Pic) :
    StaysDown pic sink outcome ↔
      (MissesKind sink.data.mediaType sink.collect ∧ sink.contentType = none) ∨
        NeverDefined pic outcome.residue (sink.afterWalk pic outcome.allowedCaps) := by
  let held := sink.producing dataUseCount calls nextProducer producer
  have walkedCalls : (initTrackData pic held outcome).1.calls = calls :=
    init_track_data_calls pic held outcome
  obtain ⟨walk, ends⟩ := @accepted_walk held outcome accepted pic
  generalize walked : initTrackData pic held outcome = ended at walkedCalls walk ends
  obtain ⟨after, result⟩ := ended
  simp only at walkedCalls walk ends
  obtain ⟨rfl, some⟩ | ⟨rfl, misses⟩ := ends
  · have unset : ¬ (MissesKind sink.data.mediaType sink.collect ∧ sink.contentType = none) := some
    rw [or_iff_right unset]
    have never : (∀ attempt < defaultTotalRetry,
        (GstKvsSink.prepared^[attempt + 1] after.forgetTimeline).definitionSource.Refused pic
          outcome.residue) ↔ NeverDefined pic outcome.residue (sink.afterWalk pic outcome.allowedCaps) := by
      have source : after.forgetTimeline.definitionSource =
          (sink.afterWalk pic outcome.allowedCaps).definitionSource := by
        rw [walk]
        exact source_after_walk pic sink outcome.allowedCaps dataUseCount calls nextProducer producer
      unfold NeverDefined
      simp only [prepared_iterate_congr source]
    have began : sink.calls <+: after.forgetTimeline.calls := by
      obtain ⟨added, same, _⟩ := grown
      exact ⟨added, (walkedCalls.trans same).symm⟩
    have attempts := all_attempts pic outcome defaultTotalRetry after.forgetTimeline
    rw [never] at attempts
    generalize streamed : kinesisVideoStreamInitLoop pic outcome defaultTotalRetry after.forgetTimeline =
      ended at attempts
    cases attempts with
    | quiet refused caught same =>
      refine iff_of_true (caught_stays_down (attempts_end_start initialized walked streamed) caught ?_) refused
      rw [same]
      change Grows AsksForNothing sink.calls after.calls
      rw [walkedCalls]
      exact grown
    | @asked call tried result fits asks made =>
      have ran := attempts_end_start initialized walked streamed
      refine iff_of_false ?_ fits
      cases result with
      | ok => exact request_is_made ran asks began made
      | error raised =>
        have logged := fail_logs tried "Failed to create stream. Error: " raised
        simp only at ran
        rw [← ran] at logged
        exact request_is_made Prod.mk.eta.symm asks began (made.trans logged)
    | crashed fits =>
      exact iff_of_false (crash_is_no_failure (attempts_end_start initialized walked streamed)) fits
  · refine iff_of_true (caught_stays_down (walk_fails_start initialized walked) nofun ?_) (.inl misses)
    rw [walkedCalls]
    exact grown

/-- Any element, and one without pads in particular, stays down exactly for one
of the four reasons. -/
theorem stays_down_iff (pic : Pic) (sink : GstKvsSink) (outcome : ChangeStateOutcome) :
    StaysDown pic sink outcome ↔ KeptDown pic sink outcome := by
  obtain ⟨fails, held, raised, initialized, calls, crashes⟩ | ⟨produces, dataUseCount, calls,
    nextProducer, producer, initialized, grown⟩ := producer_cases sink outcome
  · have ran : nullToReady pic sink outcome =
        failChangeState held "Failed to init kvs producer. Error: " raised := by
      simp only [nullToReady, initialized]
    by_cases caught : raised = .uncaught
    · subst caught
      refine iff_of_false (crash_is_no_failure ran) fun kept => ?_
      obtain ⟨named, uncaught⟩ := crashes.mp rfl
      cases kept with
      | noProducer _ caught => exact caught named uncaught
      | refusedEntry produces | noContentType produces | noDefinition produces => exact fails produces
    · refine iff_of_true (caught_stays_down ran caught ?_)
        (.noProducer fails fun named uncaught => caught (crashes.mpr ⟨named, uncaught⟩))
      rw [calls]
      exact .refl _
  · let held := sink.producing dataUseCount calls nextProducer producer
    have walkedCalls : (initTrackData pic held outcome).1.calls = calls :=
      init_track_data_calls pic held outcome
    cases pads_walked pic held outcome with
    | accepted usable accepted =>
      rw [accepted_stays_down_iff initialized grown accepted pic]
      constructor
      · rintro (⟨misses, unset⟩ | never)
        · exact .noContentType produces usable misses unset
        · exact .noDefinition produces usable never
      · intro kept
        cases kept with
        | noProducer fails => exact absurd produces fails
        | refusedEntry _ unusable =>
          obtain ⟨track, inside, refused⟩ := unusable
          exact absurd (usable track inside) refused
        | noContentType _ _ misses unset => exact .inl ⟨misses, unset⟩
        | noDefinition _ _ never => exact .inr never
    | caught unusable first threw =>
      have ran := walk_fails_start initialized (Prod.ext rfl threw)
      exact iff_of_true (caught_stays_down ran nofun (by rw [walkedCalls]; exact grown))
        (.refusedEntry produces unusable first)
    | uncaught unusable first threw =>
      refine iff_of_false (crash_is_no_failure (walk_fails_start initialized (Prod.ext rfl threw))) ?_
      intro kept
      cases kept with
      | noProducer fails => exact fails produces
      | refusedEntry _ _ caught => exact first caught
      | noContentType _ usable | noDefinition _ usable =>
        obtain ⟨track, inside, refused⟩ := unusable
        exact refused (usable track inside)

/-- An element without pads whose content type has been set. -/
def contentTypeSet : List Input := [.setProperty (.contentType (some "video/h264"))]

/-- It starts, with a stream for video that no pad will deliver. -/
theorem padless_element_starts : ¬ ∀ now inputs sink outcome,
    runFromInit Pic.sample now inputs = some sink → sink.state = .null → sink.pads = [] →
      StaysDown Pic.sample sink outcome := by
  intro always
  have padless : (runFromInit Pic.sample 0 contentTypeSet).map (fun sink =>
      (sink.state, sink.pads, (gstKvsSinkChangeState Pic.sample sink .nullToReady {}).2)) =
        some (.null, [], .success) := by decide
  obtain ⟨sink, ran, seen⟩ := Option.map_eq_some_iff.mp padless
  simp only [Prod.mk.injEq] at seen
  have failed := (always 0 contentTypeSet sink {} ran seen.1 seen.2.1).1
  rw [seen.2.2] at failed
  cases failed

end KvsProducer
