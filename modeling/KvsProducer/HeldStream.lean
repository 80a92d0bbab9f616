import KvsProducer.Ownership
import KvsProducer.StringOwnership

/-! Whose stream an element holds. A start replaces the producer first and the
stream only at the end, so that a second start which fails in between leaves a
stream behind whose producer is gone. -/
namespace KvsProducer
open Gst GLib History Runs

/-- The stream that a call created, and the producer that was asked. -/
def Call.creation : Call → Option (ProducerId × StreamId)
  | .createStreamSync producer _ (some stream) => some (producer, stream)
  | _ => none

def GstKvsSink.creations (sink : GstKvsSink) : List (ProducerId × StreamId) :=
  sink.calls.filterMap Call.creation

/-- The stream that the element holds was created by the producer it holds, and
that producer has not been destroyed. -/
def HeldStreamBelongs (sink : GstKvsSink) : Prop :=
  sink.crashed = true ∨ ∀ stream, sink.data.kinesisVideoStream = some stream →
    ∃ producer, sink.data.kinesisVideoProducer = some producer ∧
      (producer, stream) ∈ sink.creations ∧ .destroyProducer producer ∉ sink.calls

/-! ## What renews a stream -/

def MediaType.trackCount : MediaType → ℕ
  | .audioVideo => 2
  | .videoOnly | .audioOnly => 1

/-- An attempt from this source comes to a stream. -/
structure DefinitionSource.Granted (pic : Pic) (residue : ℕ → String) (status : Status)
    (source : DefinitionSource) : Prop where
  fits : ¬ source.Refused pic residue
  tags : TagsPass pic source.streamTags
  few : source.mediaType.trackCount ≤ pic.maxSupportedTrackCountPerStream
  created : statusFailed status = false

/-- One of the attempts comes to a stream. -/
def SomeAttemptGranted (pic : Pic) (outcome : ChangeStateOutcome) (sink : GstKvsSink) : Prop :=
  ∃ attempt < defaultTotalRetry, (GstKvsSink.prepared^[attempt + 1] sink).definitionSource.Granted pic
    outcome.residue (outcome.createStatus attempt)

/-- The tags end the process: one is a NULL string, or they are too long for the
first attempt that is not refused before. -/
structure TagsEnd (pic : Pic) (sink : GstKvsSink) (outcome : ChangeStateOutcome) : Prop where
  comes : ComesToStream pic sink outcome
  loose : ¬ TagsPass pic sink.streamTags
  reached : ¬ NeverDefined pic outcome.residue (sink.afterWalk pic outcome.allowedCaps)

/-- A start that replaces the producer of a held stream replaces the stream too,
unless it ends the process. -/
def RenewsHeldStream (pic : Pic) (sink : GstKvsSink) : Input → Prop
  | .changeState .nullToReady outcome =>
    sink.data.kinesisVideoStream ≠ none → CreatesProducer sink (.changeState .nullToReady outcome) →
      FirstRefusalCaught pic outcome.allowedCaps sink.collect → ¬ TagsEnd pic sink outcome →
        ComesToStream pic sink outcome ∧
          SomeAttemptGranted pic outcome (sink.afterWalk pic outcome.allowedCaps)
  | _ => True

/-- What is granted is granted with its tags. -/
theorem SomeAttemptGranted.no_tags_end
    (granted : SomeAttemptGranted pic outcome (GstKvsSink.afterWalk pic sink outcome.allowedCaps)) :
    ¬ TagsEnd pic sink outcome := by
  intro ends
  obtain ⟨attempt, _, granted⟩ := granted
  have kept : (GstKvsSink.prepared^[attempt + 1]
      (sink.afterWalk pic outcome.allowedCaps)).streamTags = sink.streamTags := by
    rw [prepared_iterate_stream_tags, after_walk_stream_tags]
  exact ends.loose (kept ▸ granted.tags)

/-! ## The attempts -/

theorem creations_of_grows {before after : GstKvsSink}
    (grown : Grows DeclaresNothing before.calls after.calls) : after.creations = before.creations := by
  obtain ⟨added, made, kinds⟩ := grown
  have nothing : added.filterMap Call.creation = [] := by
    refine List.filterMap_eq_nil_iff.mpr fun call member => ?_
    have silent := kinds call member
    cases call with
    | createStreamSync producer definition stream =>
      cases stream with
      | none => rfl
      | some stream => cases silent
    | _ => rfl
  rw [GstKvsSink.creations, made, List.filterMap_append, nothing, List.append_nil]
  rfl

/-- The element holds what it held, and no stream was created. -/
structure HoldsSame (before after : GstKvsSink) : Prop where
  producer : after.data.kinesisVideoProducer = before.data.kinesisVideoProducer
  stream : after.data.kinesisVideoStream = before.data.kinesisVideoStream
  creations : after.creations = before.creations

theorem HoldsSame.trans (first : HoldsSame before middle) (second : HoldsSame middle after) :
    HoldsSame before after :=
  ⟨second.producer.trans first.producer, second.stream.trans first.stream,
    second.creations.trans first.creations⟩

/-- The element holds a stream that this producer has just created. -/
structure HoldsNew (producer : ProducerId) (before after : GstKvsSink) : Prop where
  held : after.data.kinesisVideoProducer = some producer
  renewed : ∃ stream, after.data.kinesisVideoStream = some stream ∧
    after.creations = before.creations ++ [(producer, stream)]

/-- How one attempt ends for the stream. -/
inductive Tries (pic : Pic) (residue : ℕ → String) (status : Status) (producer : ProducerId)
    (sink : GstKvsSink) : GstKvsSink × Except Raised Unit → Prop where
  | missing : sink.prepared.definitionSource.Missing → HoldsSame sink after →
      Tries pic residue status producer sink (after, .error (.internalCheck pointer))
  | failed : ¬ sink.prepared.definitionSource.Granted pic residue status →
      (¬ TagsPass pic sink.streamTags → sink.prepared.definitionSource.Refused pic residue) →
      after.definitionSource = sink.prepared.definitionSource → HoldsSame sink after →
      Tries pic residue status producer sink (after, .error (.runtimeError what))
  | aborted : ¬ sink.prepared.definitionSource.Refused pic residue → ¬ TagsPass pic sink.streamTags →
      HoldsSame sink after → Tries pic residue status producer sink (after, .error .uncaught)
  | created : sink.prepared.definitionSource.Granted pic residue status → HoldsNew producer sink after →
      Tries pic residue status producer sink (after, .ok ())

theorem define_stream_keeps_freed (pic : Pic) (sink : GstKvsSink) (residue : ℕ → String) :
    (defineStream pic sink residue).1.freed = sink.heap.freed ∧
      (defineStream pic sink residue).1.next = sink.heap.next := by
  have same (heap : Heap) (text : String) (block : GString) :=
    (read_string_reads heap text block).2
  unfold defineStream
  split
  · exact ⟨rfl, rfl⟩
  · exact ⟨rfl, rfl⟩
  · dsimp only
    split
    · simp only [same, and_self]
    · unfold addAudioTrack
      split
      · split <;> simp only [same, and_self]
      · simp only [same, and_self]

/-- A definition has as many tracks as the media type says. -/
theorem defined_track_count (defined : defineStream pic sink residue = (heap, .ok definition)) :
    definition.getTrackCount = sink.data.mediaType.trackCount := by
  have kinds := congrArg List.length (defined_tracks defined)
  rw [List.length_map] at kinds
  rw [StreamDefinition.getTrackCount, kinds]
  cases sink.data.mediaType <;> rfl

private theorem prepared_holds_same (sink : GstKvsSink) : HoldsSame sink sink.prepared := by
  have kept := prepared_keeps sink
  refine ⟨kept.producer, ?_, ?_⟩
  · exact (media_type_keeps_stream sink).stream
  · rw [GstKvsSink.creations, kept.calls]
    rfl

private theorem prepared_audio_codec (sink : GstKvsSink) : sink.prepared.audioCodecId = sink.audioCodecId := by
  have source := source_prepared sink
  split at source <;> exact (congrArg DefinitionSource.audioCodecId source :)

private theorem attempt_tries {sink : GstKvsSink} (held : sink.data.kinesisVideoProducer = some producer)
    (audio : sink.audioCodecId ≠ none) (pic : Pic) (residue : ℕ → String) (status : Status) :
    Tries pic residue status producer sink (createKinesisVideoStream pic sink residue status) := by
  have same := prepared_holds_same sink
  have freed := define_stream_keeps_freed pic sink.prepared residue
  have defines := define_stream_cases pic sink.prepared residue
  have ready : applyMediaType (applyFileStartTime sink) = sink.prepared := rfl
  unfold createKinesisVideoStream
  simp only [ready]
  have counted (heap : Heap) (definition : StreamDefinition)
      (defined : defineStream pic sink.prepared residue = (heap, .ok definition)) :=
    defined_track_count defined
  generalize defineStream pic sink.prepared residue = defined at defines freed counted
  have source (calls : List Call) :
      GstKvsSink.definitionSource { sink.prepared with heap := defined.1, calls } =
        sink.prepared.definitionSource := by
    simp only [GstKvsSink.definitionSource, freed]
  have tags := prepared_stream_tags sink
  have sourceTags : sink.prepared.definitionSource.streamTags = sink.streamTags := tags
  cases defines with
  | missing missing => exact .missing missing same
  | refused refused =>
    exact .failed (fun granted => granted.fits refused) (fun _ => refused) (source _)
      ⟨same.producer, same.stream, same.creations⟩
  | aborted fits loose =>
    rw [tags] at loose
    exact .aborted fits loose ⟨same.producer, same.stream, same.creations⟩
  | noAudioCodec _ none => exact absurd ((prepared_audio_codec sink).symm.trans none) audio
  | @built heap definition fits passed =>
    rw [tags] at passed
    have count := counted heap definition rfl
    have asked : sink.prepared.data.kinesisVideoProducer = some producer := same.producer.trans held
    simp only [createStreamSync, asked, count]
    by_cases few : pic.maxSupportedTrackCountPerStream < sink.prepared.data.mediaType.trackCount
    · simp only [if_pos few]
      refine .failed (fun granted => Nat.not_lt.mpr granted.few few) (absurd passed) (source _) ⟨same.producer, same.stream, ?_⟩
      exact (creations_of_grows (.snoc (create_sync_declares_nothing _ _) _)).trans same.creations
    · simp only [if_neg few]
      by_cases failed : statusFailed status = true
      · simp only [if_pos failed]
        refine .failed (fun granted => ?_) (absurd passed) (source _) ⟨same.producer, same.stream, ?_⟩
        · exact absurd (granted.created.symm.trans failed) (by rintro ⟨⟩)
        · exact (creations_of_grows (.snoc (create_sync_declares_nothing _ _) _)).trans same.creations
      · simp only [if_neg failed]
        refine .created ⟨fits, sourceTags ▸ passed, Nat.not_lt.mp few, eq_false_of_ne_true failed⟩ ⟨asked, _, rfl, ?_⟩
        rw [← same.creations]
        exact List.filterMap_append

/-- How the attempts end for the stream, when these are granted and when they abort. -/
inductive TriesEnd (granted aborts : Prop) (producer : ProducerId) (sink : GstKvsSink) :
    GstKvsSink × Except Raised Unit → Prop where
  | failed : ¬ granted → ¬ aborts → raised ≠ .uncaught → HoldsSame sink after →
      TriesEnd granted aborts producer sink (after, .error raised)
  | aborted : aborts → HoldsSame sink after → TriesEnd granted aborts producer sink (after, .error .uncaught)
  | created : granted → HoldsNew producer sink after →
      TriesEnd granted aborts producer sink (after, .ok ())

private theorem tries_end {sink : GstKvsSink} (held : sink.data.kinesisVideoProducer = some producer)
    (audio : sink.audioCodecId ≠ none) (pic : Pic) (outcome : ChangeStateOutcome)
    (few : retryCount ≤ defaultTotalRetry) :
    TriesEnd
      (∃ attempt < retryCount, (GstKvsSink.prepared^[attempt + 1] sink).definitionSource.Granted pic
        outcome.residue (outcome.createStatus (defaultTotalRetry - retryCount + attempt)))
      (¬ TagsPass pic sink.streamTags ∧ ¬ ∀ attempt < retryCount,
        (GstKvsSink.prepared^[attempt + 1] sink).definitionSource.Refused pic outcome.residue)
      producer sink (kinesisVideoStreamInitLoop pic outcome retryCount sink) := by
  induction retryCount generalizing sink with
  | zero => exact .failed (by simp) (by simp) (by rintro ⟨⟩) ⟨rfl, rfl, rfl⟩
  | succ retryCount ih =>
    have tries := attempt_tries held audio pic outcome.residue
      (outcome.createStatus (defaultTotalRetry - (retryCount + 1)))
    unfold kinesisVideoStreamInitLoop
    generalize createKinesisVideoStream pic sink outcome.residue
      (outcome.createStatus (defaultTotalRetry - (retryCount + 1))) = ended at tries
    cases tries with
    | missing missing same =>
      have refused (attempt : ℕ) := missing_refused (missing_always missing attempt) pic outcome.residue
      refine .failed ?_ (fun aborts => aborts.2 fun attempt _ => refused attempt) (by rintro ⟨⟩) same
      rintro ⟨attempt, _, granted⟩
      exact granted.fits (refused attempt)
    | aborted fits loose same => exact .aborted ⟨loose, fun all => fits (all 0 (Nat.succ_pos _))⟩ same
    | created granted new => exact .created ⟨0, Nat.succ_pos _, granted⟩ new
    | @failed after what refused unpassed source same =>
      have shifted : (∃ attempt < retryCount,
          (GstKvsSink.prepared^[attempt + 1] after).definitionSource.Granted pic outcome.residue
            (outcome.createStatus (defaultTotalRetry - retryCount + attempt))) ↔
          ∃ attempt < retryCount + 1,
            (GstKvsSink.prepared^[attempt + 1] sink).definitionSource.Granted pic outcome.residue
              (outcome.createStatus (defaultTotalRetry - (retryCount + 1) + attempt)) := by
        have again := later_attempts source
        have index (attempt : ℕ) : defaultTotalRetry - retryCount + attempt =
            defaultTotalRetry - (retryCount + 1) + (attempt + 1) := by omega
        constructor
        · rintro ⟨attempt, below, granted⟩
          rw [again, index] at granted
          exact ⟨attempt + 1, Nat.succ_lt_succ below, granted⟩
        · rintro ⟨attempt, below, granted⟩
          cases attempt with
          | zero => exact absurd granted refused
          | succ attempt =>
            rw [← again, ← index] at granted
            exact ⟨attempt, Nat.lt_of_succ_lt_succ below, granted⟩
      have aborts : (¬ TagsPass pic after.streamTags ∧ ¬ ∀ attempt < retryCount,
          (GstKvsSink.prepared^[attempt + 1] after).definitionSource.Refused pic outcome.residue) ↔
          ¬ TagsPass pic sink.streamTags ∧ ¬ ∀ attempt < retryCount + 1,
            (GstKvsSink.prepared^[attempt + 1] sink).definitionSource.Refused pic outcome.residue := by
        have kept : after.streamTags = sink.streamTags :=
          (congrArg DefinitionSource.streamTags source :).trans (prepared_stream_tags sink)
        rw [kept]
        refine and_congr_right fun loose => not_congr ?_
        simp only [later_attempts source]
        constructor
        · intro rest attempt below
          cases attempt with
          | zero => exact unpassed loose
          | succ attempt => exact rest attempt (Nat.lt_of_succ_lt_succ below)
        · exact fun all attempt below => all (attempt + 1) (Nat.succ_lt_succ below)
      rw [← shifted, ← aborts]
      simp only
      by_cases last : retryCount = 0
      · rw [if_pos last]
        refine .failed ?_ (by simp [last]) (by rintro ⟨⟩) same
        rintro ⟨attempt, below, _⟩
        omega
      · rw [if_neg last]
        have audioAfter : after.audioCodecId ≠ none := by
          have kept : after.audioCodecId = sink.prepared.audioCodecId :=
            congrArg DefinitionSource.audioCodecId source
          rw [kept, prepared_audio_codec]
          exact audio
        have later := ih (same.producer.trans held) audioAfter (Nat.le_of_succ_le few)
        generalize kinesisVideoStreamInitLoop pic outcome retryCount after = ended at later
        cases later with
        | failed none quiet caught still => exact .failed none quiet caught (same.trans still)
        | aborted aborts still => exact .aborted aborts (same.trans still)
        | created granted new =>
          obtain ⟨stream, holds, creations⟩ := new.renewed
          exact .created granted ⟨new.held, stream, holds, same.creations ▸ creations⟩

/-! ## A start -/

/-- How a start ends for the held stream. -/
inductive StartEnds (pic : Pic) (sink : GstKvsSink) (outcome : ChangeStateOutcome) :
    GstKvsSink × ChangeStateReturn → Prop where
  | idle : ¬ CreatesProducer sink (.changeState .nullToReady outcome) →
      after.data.kinesisVideoStream = sink.data.kinesisVideoStream → after.creations = sink.creations →
      result ≠ .success → StartEnds pic sink outcome (after, result)
  | crashed : ¬ FirstRefusalCaught pic outcome.allowedCaps sink.collect ∨ TagsEnd pic sink outcome →
      after.creations = sink.creations → after.crashed = true → StartEnds pic sink outcome (after, .crash)
  | failed : CreatesProducer sink (.changeState .nullToReady outcome) →
      FirstRefusalCaught pic outcome.allowedCaps sink.collect → ¬ TagsEnd pic sink outcome →
      ¬ (ComesToStream pic sink outcome ∧
        SomeAttemptGranted pic outcome (sink.afterWalk pic outcome.allowedCaps)) →
      after.data.kinesisVideoStream = sink.data.kinesisVideoStream → after.creations = sink.creations →
      after.crashed = sink.crashed → StartEnds pic sink outcome (after, .failure)
  | created : ComesToStream pic sink outcome →
      SomeAttemptGranted pic outcome (sink.afterWalk pic outcome.allowedCaps) →
      after.data.kinesisVideoStream = some stream →
      after.creations = sink.creations ++ [(sink.nextProducer, stream)] →
      StartEnds pic sink outcome (after, .success)

private theorem fail_holds_same (caught : raised ≠ .uncaught) (message : String) (sink : GstKvsSink) :
    ∃ failed, failChangeState sink message raised = (failed, .failure) ∧ HoldsSame sink failed ∧
      failed.crashed = sink.crashed := by
  cases raised with
  | uncaught => exact absurd rfl caught
  | internalCheck | runtimeError =>
    exact ⟨_, rfl, ⟨rfl, rfl, creations_of_grows (.snoc (error_declares_nothing _) _)⟩, rfl⟩

private theorem walk_holds_same (pic : Pic) (sink : GstKvsSink) (outcome : ChangeStateOutcome) :
    HoldsSame sink (initTrackData pic sink outcome).1 ∧
      (initTrackData pic sink outcome).1.crashed = sink.crashed := by
  obtain ⟨_, _, _, _, _, changed⟩ := track_data_changes pic sink outcome
  rw [changed]
  exact ⟨⟨rfl, rfl, rfl⟩, rfl⟩

private theorem media_keeps_audio_codec (pic : Pic) {scan : TrackScan} (audio : scan.audioCodecId ≠ none)
    (media : List TrackMedia) : (media.foldl (TrackMedia.scan pic) scan).audioCodecId ≠ none := by
  induction media generalizing scan with
  | nil => exact audio
  | cons first rest ih =>
    apply ih
    cases first with
    | h264 | h265 | aac => exact audio
    | alaw | mulaw => exact nofun

/-- A walk leaves an audio codec id where there was one. -/
theorem walk_keeps_audio_codec {sink : GstKvsSink} (audio : sink.audioCodecId ≠ none) (pic : Pic)
    (outcome : ChangeStateOutcome) : (initTrackData pic sink outcome).1.audioCodecId ≠ none := by
  have scanned := (init_tracks_scan pic (sink.streamName.getD "") sink.data.mediaType
    outcome.allowedCaps sink.collect sink.scan).1
  have kept := media_keeps_audio_codec pic (show sink.scan.audioCodecId ≠ none from audio)
    (walkedMedia outcome.allowedCaps sink.collect)
  rw [← scanned] at kept
  rw [init_track_data_eq]
  simp only
  split
  · exact kept
  · unfold storeContentType
    split <;> exact kept

/-- A walk that throws crashes the element exactly if its first refusal is not caught. -/
theorem walk_crashes_iff (threw : (initTrackData pic sink outcome).2 = .error raised) :
    raised = .uncaught ↔ ¬ FirstRefusalCaught pic outcome.allowedCaps sink.collect := by
  cases pads_walked pic sink outcome with
  | accepted usable accepted =>
    refine iff_of_false ?_ (not_not_intro (usable_refuses_none usable))
    obtain ⟨done, _⟩ | ⟨missing, _⟩ := (accepted_walk accepted pic).2
    · rw [done] at threw
      cases threw
    · rw [missing] at threw
      cases threw
      nofun
  | caught _ first caught =>
    rw [caught] at threw
    cases threw
    exact iff_of_false nofun (not_not_intro first)
  | uncaught _ first uncaught =>
    rw [uncaught] at threw
    cases threw
    exact iff_of_true rfl first

private theorem asks_nothing_declares_nothing (nothing : AsksForNothing call) : DeclaresNothing call := by
  cases call with
  | createStreamSync => cases nothing
  | _ => rfl

private theorem renewed_producer (sink : GstKvsSink) (device : KvsSinkDeviceInfoProvider) :
    (sink.renewedHolders device).producer = some sink.nextProducer := by
  unfold GstKvsSink.renewedHolders
  split <;> rfl

/-- With a producer, the walk and the attempts decide how the start ends. -/
theorem produced_start_ends {sink : GstKvsSink} (audio : sink.audioCodecId ≠ none) (pic : Pic)
    (produces : CreatesProducer sink (.changeState .nullToReady outcome))
    (initialized : kinesisVideoProducerInit sink outcome =
      (sink.producing dataUseCount calls nextProducer producer, .ok ()))
    (grown : Grows AsksForNothing sink.calls calls) :
    StartEnds pic sink outcome (nullToReady pic sink outcome) := by
  let held := sink.producing dataUseCount calls nextProducer producer
  have asked : held.data.kinesisVideoProducer = some sink.nextProducer := by
    obtain ⟨fails, _⟩ | ⟨_, device, holders⟩ := producer_init_holders sink outcome
    · exact absurd produces fails
    · rw [initialized] at holders
      exact (congrArg Holders.producer holders).trans (renewed_producer sink device)
  have silent : held.creations = sink.creations :=
    creations_of_grows (grown.imp fun _ => asks_nothing_declares_nothing)
  have comes : ComesToStream pic sink outcome ↔ (initTrackData pic held outcome).2 = .ok () :=
    walk_comes_to_stream produces rfl rfl rfl
  obtain ⟨walkHolds, walkCrashed⟩ := walk_holds_same pic held outcome
  have audioWalked := @walk_keeps_audio_codec held audio pic outcome
  have after_walk (usable : ∀ track ∈ sink.collect, Usable pic outcome.allowedCaps track) :
      (initTrackData pic held outcome).1 = held.afterWalk pic outcome.allowedCaps :=
    (@accepted_walk held outcome (fun track inside => usable_iff.mp (usable track inside)) pic).1
  have crashes {raised : Raised} := @walk_crashes_iff pic held outcome raised
  rcases walked : initTrackData pic held outcome with ⟨after, result⟩
  rw [walked] at comes walkHolds walkCrashed audioWalked after_walk crashes
  simp only at comes walkHolds walkCrashed audioWalked after_walk crashes
  cases result with
  | error raised =>
    rw [walk_fails_start initialized walked]
    by_cases caught : raised = .uncaught
    · have first := (crashes rfl).mp caught
      subst caught
      exact .crashed (.inl first) (walkHolds.creations.trans silent) rfl
    · have first : FirstRefusalCaught pic outcome.allowedCaps sink.collect := by
        by_contra loose
        exact caught ((crashes rfl).mpr loose)
      obtain ⟨failed, ends, holds, crashed⟩ :=
        fail_holds_same caught "Failed to init kvs producer. Error: " after
      have stuck : ¬ ComesToStream pic sink outcome := fun arrives => by cases comes.mp arrives
      rw [ends]
      exact .failed produces first (fun tags => stuck tags.comes) (fun granted => stuck granted.1)
        (holds.stream.trans walkHolds.stream)
        (holds.creations.trans (walkHolds.creations.trans silent)) (crashed.trans walkCrashed)
  | ok =>
    have arrives := comes.mpr rfl
    have source : after.forgetTimeline.definitionSource =
        (sink.afterWalk pic outcome.allowedCaps).definitionSource := by
      rw [after_walk arrives.usable]
      exact source_after_walk pic sink outcome.allowedCaps dataUseCount calls nextProducer producer
    have ends := @tries_end _ _ after.forgetTimeline (walkHolds.producer.trans asked) audioWalked pic
      outcome le_rfl
    have tags : after.forgetTimeline.streamTags = sink.streamTags :=
      (congrArg DefinitionSource.streamTags source :).trans (after_walk_stream_tags ..)
    simp only [Nat.sub_self, Nat.zero_add, prepared_iterate_congr source, tags] at ends
    rcases streamed : kinesisVideoStreamInitLoop pic outcome defaultTotalRetry after.forgetTimeline
      with ⟨tried, result⟩
    rw [attempts_end_start initialized walked streamed]
    rw [streamed] at ends
    cases ends with
    | @aborted tried aborts same =>
      refine .crashed (.inr ⟨arrives, aborts.1, aborts.2⟩) ?_ rfl
      exact same.creations.trans (walkHolds.creations.trans silent)
    | @failed raised _ none quiet caught same =>
      obtain ⟨failed, ends, holds, crashed⟩ :=
        fail_holds_same caught "Failed to create stream. Error: " tried
      have kept : tried.crashed = after.crashed := by
        obtain ⟨impossible, _⟩ | ⟨_, kept⟩ := stream_init_loop_cases streamed
        · cases impossible
        · exact kept.crashed
      simp only [ends]
      exact .failed produces (usable_refuses_none arrives.usable)
        (fun tags => quiet ⟨tags.loose, tags.reached⟩) (fun granted => none granted.2)
        ((holds.stream.trans same.stream).trans walkHolds.stream)
        ((holds.creations.trans same.creations).trans (walkHolds.creations.trans silent))
        ((crashed.trans kept).trans walkCrashed)
    | created granted new =>
      obtain ⟨stream, holds, creations⟩ := new.renewed
      refine .created arrives granted holds (creations.trans ?_)
      exact congrArg (· ++ _) (walkHolds.creations.trans silent)

/-- How a start ends for the held stream, as long as there is an audio codec id. -/
theorem start_ends {sink : GstKvsSink} (audio : sink.audioCodecId ≠ none) (pic : Pic)
    (outcome : ChangeStateOutcome) : StartEnds pic sink outcome (nullToReady pic sink outcome) := by
  obtain ⟨fails, held, raised, initialized, calls, _⟩ | ⟨produces, dataUseCount, calls, nextProducer,
    producer, initialized, grown⟩ := producer_cases sink outcome
  · have same : held.data.kinesisVideoStream = sink.data.kinesisVideoStream := by
      have kept := (producer_init_keeps_stream sink outcome).stream
      rw [initialized] at kept
      exact kept
    have silent : held.creations = sink.creations := by rw [GstKvsSink.creations, calls]; rfl
    simp only [nullToReady, initialized]
    by_cases caught : raised = .uncaught
    · subst caught
      exact .idle fails same silent (by rintro ⟨⟩)
    · obtain ⟨failed, ends, holds, _⟩ := fail_holds_same caught "Failed to init kvs producer. Error: " held
      rw [ends]
      exact .idle fails (holds.stream.trans same) (holds.creations.trans silent) (by rintro ⟨⟩)
  · exact produced_start_ends audio pic produces initialized grown

/-! ## One step -/

/-- Only a start touches what the element holds. -/
theorem other_inputs_hold_same (pic : Pic) (sink : GstKvsSink)
    (noStart : ∀ outcome, input ≠ .changeState .nullToReady outcome) :
    HoldsSame sink (applyInput pic sink input) := by
  have silent := creations_of_grows (other_inputs_declare_nothing pic sink noStart)
  obtain ⟨transition, outcome, rfl⟩ | still := state_change_or_not input
  · have changed := change_state_cases pic sink transition outcome
    simp only [applyInput] at silent ⊢
    generalize changeState pic sink transition outcome = next at changed silent
    cases changed with
    | started | startedInVain | notStarted => exact absurd rfl (noStart outcome)
    | collecting | collectingInVain | stopped | nothingToStop | moved | refused =>
      exact ⟨rfl, rfl, silent⟩
  · have stays := (input_stays pic sink input still).1
    exact ⟨stays.producer, stays.stream, silent⟩

/-- The element after a start holds what the start left it. -/
theorem started_holds (pic : Pic) (sink : GstKvsSink) (outcome : ChangeStateOutcome) :
    let next := changeState pic sink .nullToReady outcome
    let after := (nullToReady pic sink outcome).1
    next.data.kinesisVideoStream = after.data.kinesisVideoStream ∧ next.creations = after.creations ∧
      next.crashed = after.crashed := by
  have changed := change_state_cases pic sink .nullToReady outcome
  simp only
  generalize changeState pic sink .nullToReady outcome = next at changed
  cases changed with
  | started ran | notStarted ran =>
    rw [ran]
    exact ⟨rfl, rfl, rfl⟩
  | startedInVain ran =>
    rw [ran]
    exact ⟨rfl, creations_of_grows (.snoc (error_declares_nothing _) _), rfl⟩
  | moved _ across => rcases across with impossible | impossible | impossible <;> cases impossible
  | refused _ notUp => exact absurd rfl notUp

/-- What a step does with the producer. -/
theorem step_producer {sink : GstKvsSink} (counted : SharesCounted sink)
    (accepted : step pic sink input = some next) :
    (CreatesProducer sink input ∧ next.data.kinesisVideoProducer = some sink.nextProducer ∧
        next.nextProducer = sink.nextProducer + 1) ∨
      (¬ CreatesProducer sink input ∧ next.data.kinesisVideoProducer = sink.data.kinesisVideoProducer ∧
        next.nextProducer = sink.nextProducer) := by
  obtain ⟨device, creates, _, _, holders⟩ | ⟨idle, _, holders⟩ | ⟨idle, _, _, holders⟩ :=
    step_holders counted accepted
  · refine .inl ⟨creates, (congrArg Holders.producer holders).trans (renewed_producer sink device), ?_⟩
    have numbered := congrArg Holders.nextProducer holders
    unfold GstKvsSink.renewedHolders at numbered
    split at numbered <;> exact numbered
  · exact .inr ⟨idle, congrArg Holders.producer holders, congrArg Holders.nextProducer holders⟩
  · exact .inr ⟨idle, congrArg Holders.producer holders, congrArg Holders.nextProducer holders⟩

private theorem start_keeps_audio_codec {sink : GstKvsSink} (audio : sink.audioCodecId ≠ none) (pic : Pic)
    (outcome : ChangeStateOutcome) : (nullToReady pic sink outcome).1.audioCodecId ≠ none := by
  have of_strings {before after : GstKvsSink} (same : after.strings = before.strings) :
      after.audioCodecId = before.audioCodecId := congrArg SinkStrings.audioCodecId same
  cases start_strings pic sink outcome with
  | untouched _ same => rwa [of_strings same]
  | walked held _ kept same =>
    rw [← of_strings kept] at audio
    rw [of_strings same]
    exact walk_keeps_audio_codec audio pic outcome
  | attempted held started _ kept walked _ streamed same =>
    rw [← of_strings kept] at audio
    have began := walk_keeps_audio_codec audio pic outcome
    rw [← of_strings walked] at began
    rw [of_strings same]
    refine attempts_keep (·.audioCodecId ≠ none) ?_ began streamed
    intro before after status result audio attempt
    have left : after.audioCodecId = before.prepared.audioCodecId :=
      congrArg SinkStrings.audioCodecId (attempt_strings attempt).1
    rw [left, prepared_audio_codec]
    exact audio

theorem step_keeps_audio_codec (audio : sink.audioCodecId ≠ none)
    (accepted : step pic sink input = some next) : next.audioCodecId ≠ none := by
  obtain ⟨_, rfl⟩ := step_eq_some.mp accepted
  by_cases ends : input = .finalize
  · subst ends
    obtain ⟨_, _, _, changed, _⟩ := finalize_changes sink
    simp only [applyInput, changed]
    exact audio
  · have stepped := string_step pic sink input ends
    generalize applyInput pic sink input = next at stepped
    cases stepped with
    | start outcome same =>
      have kept : next.audioCodecId = (nullToReady pic sink outcome).1.audioCodecId :=
        congrArg SinkStrings.audioCodecId same
      rw [kept]
      exact start_keeps_audio_codec audio pic outcome
    | property property => cases property <;> exact audio
    | other same =>
      have kept : next.audioCodecId = sink.audioCodecId := congrArg SinkStrings.audioCodecId same
      rwa [kept]

/-- What is true of an element in every run. -/
structure ProducersNumbered (sink : GstKvsSink) : Prop where
  counted : SharesCounted sink
  below : ∀ creation ∈ sink.creations, creation.1 < sink.nextProducer
  audio : sink.audioCodecId ≠ none

theorem init_producers_numbered (now : UInt64) : ProducersNumbered (gstKvsSinkInit now) where
  counted := init_shares_counted now
  below _ member := by cases member
  audio := nofun

theorem step_creations {sink : GstKvsSink} (audio : sink.audioCodecId ≠ none)
    (accepted : step pic sink input = some next) :
    next.creations = sink.creations ∨ CreatesProducer sink input ∧
      ∃ stream, next.creations = sink.creations ++ [(sink.nextProducer, stream)] := by
  obtain ⟨_, rfl⟩ := step_eq_some.mp accepted
  obtain ⟨outcome, rfl⟩ | noStart := start_or_not input
  · obtain ⟨_, silent, _⟩ := started_holds pic sink outcome
    simp only [applyInput]
    rw [silent]
    have ends := start_ends audio pic outcome
    generalize nullToReady pic sink outcome = ended at ends
    cases ends with
    | idle _ _ same | crashed _ same | failed _ _ _ _ _ same => exact .inl same
    | created comes _ _ grown => exact .inr ⟨comes.produces, _, grown⟩
  · exact .inl (other_inputs_hold_same pic sink noStart).creations

theorem step_keeps_numbered (numbered : ProducersNumbered sink)
    (accepted : step pic sink input = some next) : ProducersNumbered next where
  counted := step_keeps_counted numbered.counted accepted
  audio := step_keeps_audio_codec numbered.audio accepted
  below := by
    have later : sink.nextProducer ≤ next.nextProducer := by
      obtain ⟨_, _, number⟩ | ⟨_, _, number⟩ := step_producer numbered.counted accepted
      · exact number ▸ Nat.le_succ _
      · exact number.ge
    obtain same | ⟨creates, stream, grown⟩ := step_creations numbered.audio accepted
    · rw [same]
      exact fun creation member => (numbered.below creation member).trans_le later
    · rw [grown]
      intro creation member
      rcases List.mem_append.mp member with before | new
      · exact (numbered.below creation before).trans_le later
      · cases List.mem_singleton.mp new
        obtain ⟨_, _, number⟩ | ⟨idle, _⟩ := step_producer numbered.counted accepted
        · exact number ▸ Nat.lt_succ_self _
        · exact absurd creates idle

/-- A producer that is held has not been destroyed. -/
theorem held_not_destroyed {sink : GstKvsSink} (counted : SharesCounted sink)
    (held : sink.data.kinesisVideoProducer = some producer) : .destroyProducer producer ∉ sink.calls :=
  fun member => counted.kept producer held (List.mem_filter.mpr ⟨member, rfl⟩)

theorem accepted_alive (accepted : step pic sink input = some next) : sink.crashed = false := by
  have admitted := (step_eq_some.mp accepted).1
  cases input <;> simp only [accepts, Bool.and_eq_true, Bool.not_eq_true'] at admitted
  all_goals first
    | exact admitted.1.1
    | exact admitted.1

/-- One step leaves the stream with its producer exactly if it renews it where it must. -/
theorem belongs_step (numbered : ProducersNumbered sink) (belongs : HeldStreamBelongs sink)
    (accepted : step pic sink input = some next) :
    HeldStreamBelongs next ↔ RenewsHeldStream pic sink input := by
  have alive := accepted_alive accepted
  have counted := (step_keeps_numbered numbered accepted).counted
  have producers := step_producer numbered.counted accepted
  have belongs := belongs.resolve_left (by simp [alive])
  obtain ⟨_, rfl⟩ := step_eq_some.mp accepted
  obtain ⟨outcome, rfl⟩ | noStart := start_or_not input
  · obtain ⟨stream, creations, crashed⟩ := started_holds pic sink outcome
    have ends := start_ends numbered.audio pic outcome
    simp only [applyInput] at counted producers ⊢
    generalize nullToReady pic sink outcome = ended at ends stream creations crashed
    cases ends with
    | idle idle same silent =>
      refine iff_of_true (.inr fun held holds => ?_) fun _ creates => absurd creates idle
      rw [stream, same] at holds
      obtain ⟨producer, asked, member, _⟩ := belongs held holds
      obtain ⟨creates, _⟩ | ⟨_, kept, _⟩ := producers
      · exact absurd creates idle
      · have still := kept.trans asked
        rw [creations, silent]
        exact ⟨producer, still, member, held_not_destroyed counted still⟩
    | crashed loose _ dead =>
      refine iff_of_true (.inl (crashed.trans dead)) fun _ _ caught tags => ?_
      exact (loose.elim (absurd caught) (absurd · tags))
    | failed creates caught tags none same silent living =>
      obtain ⟨_, renewed, _⟩ | ⟨idle, _⟩ := producers
      · constructor
        · rintro (dead | belongsStill) held _ _
          · rw [crashed, living, alive] at dead
            cases dead
          · obtain ⟨old, holds⟩ := Option.ne_none_iff_exists'.mp held
            obtain ⟨producer, asked, member, _⟩ := belongsStill old (stream.trans (same.trans holds))
            rw [renewed] at asked
            cases asked
            -- the new producer has created nothing
            rw [creations, silent] at member
            exact absurd (numbered.below _ member) (Nat.lt_irrefl _)
        · intro renews
          refine .inr fun held holds => ?_
          rw [stream, same] at holds
          exact absurd (renews (by simp [holds]) creates caught tags) none
      · exact absurd creates idle
    | created comes granted holds grown =>
      refine iff_of_true (.inr fun held again => ?_) fun _ _ _ _ => ⟨comes, granted⟩
      rw [stream, holds] at again
      cases again
      obtain ⟨_, renewed, _⟩ | ⟨idle, _⟩ := producers
      · rw [creations, grown]
        exact ⟨_, renewed, by simp, held_not_destroyed counted renewed⟩
      · exact absurd comes.produces idle
  · have same := other_inputs_hold_same pic sink noStart
    refine iff_of_true (.inr fun held holds => ?_) ?_
    · rw [same.stream] at holds
      obtain ⟨producer, asked, member, _⟩ := belongs held holds
      have still := same.producer.trans asked
      rw [same.creations]
      exact ⟨producer, still, member, held_not_destroyed counted still⟩
    · unfold RenewsHeldStream
      split
      · exact absurd rfl (noStart _)
      · trivial

/-- **The held stream.** In every run it belongs to the held producer throughout,
exactly if every start that replaces the producer of a held stream comes to a
new stream. -/
theorem held_stream_belongs_iff (pic : Pic) (now : UInt64) (inputs : List Input) :
    Throughout (step pic) HeldStreamBelongs (gstKvsSinkInit now) inputs ↔
      EachStep (step pic) (RenewsHeldStream pic) (gstKvsSinkInit now) inputs :=
  throughout_iff_each_step (fun _ _ _ => step_keeps_numbered) (fun _ _ _ => belongs_step)
    (init_producers_numbered now) (.inr nofun)

/-- A session with video, and another start when the peer of the pad has
nothing that kvssink takes. -/
def startsInVain : List Input :=
  [.requestNewPad .video true] ++ upTo (fun _ => some [h264Caps]) ++ downToNull ++
    [.changeState .nullToReady { allowedCaps := fun _ => some [{ name := "video/x-raw" }] }]

/-- The second start fails, and leaves the first stream without its producer. -/
theorem stream_outlives_its_producer : ¬ ∀ now inputs,
    Throughout (step .sample) HeldStreamBelongs (gstKvsSinkInit now) inputs := by
  intro always
  have evaluated : (runFromInit .sample 0 startsInVain).map (fun final =>
      (final.crashed, final.data.kinesisVideoStream, final.data.kinesisVideoProducer, final.creations)) =
        some (false, some 0, some 1, [(0, 0)]) := by decide
  obtain ⟨final, ran, seen⟩ := Option.map_eq_some_iff.mp evaluated
  simp only [Prod.mk.injEq] at seen
  obtain ⟨alive, stream, producer, creations⟩ := seen
  rcases (always 0 startsInVain).at_end ran with dead | belongs
  · rw [alive] at dead
    cases dead
  · obtain ⟨owner, held, member, _⟩ := belongs 0 stream
    rw [producer] at held
    cases held
    rw [creations] at member
    simp at member

end KvsProducer
