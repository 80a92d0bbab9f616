import KvsProducer.ClientProtocol
import KvsProducer.OfflineTimeline
import KvsProducer.Recoverability

/-! The properties of an element over its whole life: what the application reads
back, and what the library is told when a session starts. Both are what was set
last, where a session that is declared also sets some of them. -/
namespace KvsProducer
open Gst GLib History KvsSinkUtil Runs

/-- The properties, without the three texts that sessions share with the heap. -/
inductive PropId where
  | streamName | userAgent | retentionPeriod | streamingType | maxLatency | fragmentDuration | timecodeScale
  | keyFrameFragmentation | frameTimecodes | absoluteFragmentTimes | fragmentAcks | restartOnError
  | recalculateMetrics | framerate | avgBandwidthBps | bufferDuration | replayDuration | connectionStaleness
  | storageSize | stopStreamTimeout | connectionTimeout | completionTimeout | streamTags | fileStartTime
  | useOriginalPts | getKvsMetrics | allowCreateStream
  deriving DecidableEq, Repr

/-- The property that a setting belongs to. -/
def Property.propId : Property → Option PropId
  | .streamName _ => some .streamName
  | .userAgent _ => some .userAgent
  | .retentionPeriod _ => some .retentionPeriod
  | .streamingType _ => some .streamingType
  | .contentType _ => none
  | .maxLatency _ => some .maxLatency
  | .fragmentDuration _ => some .fragmentDuration
  | .timecodeScale _ => some .timecodeScale
  | .keyFrameFragmentation _ => some .keyFrameFragmentation
  | .frameTimecodes _ => some .frameTimecodes
  | .absoluteFragmentTimes _ => some .absoluteFragmentTimes
  | .fragmentAcks _ => some .fragmentAcks
  | .restartOnError _ => some .restartOnError
  | .recalculateMetrics _ => some .recalculateMetrics
  | .framerate _ => some .framerate
  | .avgBandwidthBps _ => some .avgBandwidthBps
  | .bufferDuration _ => some .bufferDuration
  | .replayDuration _ => some .replayDuration
  | .connectionStaleness _ => some .connectionStaleness
  | .codecId _ => none
  | .trackName _ => none
  | .storageSize _ => some .storageSize
  | .stopStreamTimeout _ => some .stopStreamTimeout
  | .connectionTimeout _ => some .connectionTimeout
  | .completionTimeout _ => some .completionTimeout
  | .streamTags _ => some .streamTags
  | .fileStartTime _ => some .fileStartTime
  | .useOriginalPts _ => some .useOriginalPts
  | .getKvsMetrics _ => some .getKvsMetrics
  | .allowCreateStream _ => some .allowCreateStream

/-- The defaults in the param specs of `gst_kvs_sink_class_init`. -/
def paramSpecDefault : PropId → Property
  | .streamName => .streamName (some "DEFAULT_STREAM")
  | .userAgent => .userAgent (some "AWS-SDK-KVS-CPP-CLIENT")
  | .retentionPeriod => .retentionPeriod 2
  | .streamingType => .streamingType .realtime
  | .maxLatency => .maxLatency 60
  | .fragmentDuration => .fragmentDuration 2000
  | .timecodeScale => .timecodeScale 1
  | .keyFrameFragmentation => .keyFrameFragmentation true
  | .frameTimecodes => .frameTimecodes true
  | .absoluteFragmentTimes => .absoluteFragmentTimes true
  | .fragmentAcks => .fragmentAcks true
  | .restartOnError => .restartOnError true
  | .recalculateMetrics => .recalculateMetrics true
  | .framerate => .framerate 25
  | .avgBandwidthBps => .avgBandwidthBps (4 * 1024 * 1024)
  | .bufferDuration => .bufferDuration 120
  | .replayDuration => .replayDuration 40
  | .connectionStaleness => .connectionStaleness 60
  | .storageSize => .storageSize 128
  | .stopStreamTimeout => .stopStreamTimeout 120
  | .connectionTimeout => .connectionTimeout 5
  | .completionTimeout => .completionTimeout 10
  | .streamTags => .streamTags none
  | .fileStartTime => .fileStartTime 0
  | .useOriginalPts => .useOriginalPts false
  | .getKvsMetrics => .getKvsMetrics false
  | .allowCreateStream => .allowCreateStream true

/-- `gst_kvs_sink_get_property`: the value that would be set. -/
def gstKvsSinkGetProperty (sink : GstKvsSink) : PropId → Property
  | .streamName => .streamName sink.streamName
  | .userAgent => .userAgent sink.userAgent
  | .retentionPeriod => .retentionPeriod sink.retentionPeriodHours
  | .streamingType => .streamingType sink.streamingType
  | .maxLatency => .maxLatency sink.maxLatencySeconds
  | .fragmentDuration => .fragmentDuration sink.fragmentDurationMiliseconds
  | .timecodeScale => .timecodeScale sink.timecodeScaleMilliseconds
  | .keyFrameFragmentation => .keyFrameFragmentation sink.keyFrameFragmentation
  | .frameTimecodes => .frameTimecodes sink.frameTimecodes
  | .absoluteFragmentTimes => .absoluteFragmentTimes sink.absoluteFragmentTimes
  | .fragmentAcks => .fragmentAcks sink.fragmentAcks
  | .restartOnError => .restartOnError sink.restartOnError
  | .recalculateMetrics => .recalculateMetrics sink.recalculateMetrics
  | .framerate => .framerate sink.framerate
  | .avgBandwidthBps => .avgBandwidthBps sink.avgBandwidthBps
  | .bufferDuration => .bufferDuration sink.bufferDurationSeconds
  | .replayDuration => .replayDuration sink.replayDurationSeconds
  | .connectionStaleness => .connectionStaleness sink.connectionStalenessSeconds
  | .storageSize => .storageSize sink.storageSize
  | .stopStreamTimeout => .stopStreamTimeout sink.stopStreamTimeout
  | .connectionTimeout => .connectionTimeout sink.serviceConnectionTimeout
  | .completionTimeout => .completionTimeout sink.serviceCompletionTimeout
  | .streamTags => .streamTags sink.streamTags
  | .fileStartTime => .fileStartTime sink.fileStartTime
  | .useOriginalPts => .useOriginalPts sink.data.useOriginalPts
  | .getKvsMetrics => .getKvsMetrics sink.data.getMetrics
  | .allowCreateStream => .allowCreateStream sink.allowCreateStream

/-! ## What is in force -/

/-- The values after these settings: of each property the one set last. -/
def inForce (start : PropId → Property) (settings : List Property) (id : PropId) : Property :=
  (settings.filter (·.propId == some id)).getLastD (start id)

/-- A new element has the defaults, apart from two that `gst_kvs_sink_init` sets otherwise. -/
def initialProperty (now : UInt64) : PropId → Property
  | .userAgent => .userAgent (some "AWS-SDK-KVS-CPP-CLIENT/UNKNOWN")
  | .fileStartTime => .fileStartTime now
  | id => paramSpecDefault id

def GstKvsSink.startTimeSettings (sink : GstKvsSink) : List Property :=
  if sink.hasStartTime then [.absoluteFragmentTimes true] else []

def GstKvsSink.mediaTypeSettings (sink : GstKvsSink) : List Property :=
  match sink.data.mediaType with
  | .audioVideo => [.framerate (max sink.framerate defaultStreamFramerateHighDensity)]
  | .audioOnly => [.keyFrameFragmentation false,
      .framerate (max sink.framerate defaultStreamFramerateHighDensity)]
  | .videoOnly => []

/-- What a session sets on its own when it comes as far as creating a stream. -/
def GstKvsSink.sessionSettings (sink : GstKvsSink) : List Property :=
  sink.startTimeSettings ++ sink.mediaTypeSettings

def settingsOf (pic : Pic) (sink : GstKvsSink) : Input → List Property
  | .setProperty property => [property]
  | .changeState .nullToReady outcome =>
    if reachesCreation pic sink outcome then sink.sessionSettings else []
  | _ => []

/-- The values in force after a history of inputs. -/
def propertiesAfter (pic : Pic) (now : UInt64) (inputs : List Input) : PropId → Property :=
  inForce (initialProperty now) (emitted (step pic) (settingsOf pic) (gstKvsSinkInit now) inputs)

/-- The defaults that are documented are the real ones, but for the user agent and the start time. -/
theorem default_documented_iff (now : UInt64) (id : PropId) :
    initialProperty now id = paramSpecDefault id ↔ id ≠ .userAgent ∧ (id = .fileStartTime → now = 0) := by
  cases id with
  | fileStartTime => simp [initialProperty, paramSpecDefault]
  | _ => simp [initialProperty, paramSpecDefault]

private theorem in_force_append (start : PropId → Property) (first second : List Property) :
    inForce start (first ++ second) = inForce (inForce start first) second := by
  funext id
  unfold inForce
  rw [List.filter_append]
  generalize first.filter _ = early
  generalize second.filter _ = late
  rcases List.eq_nil_or_concat late with rfl | ⟨rest, last, rfl⟩
  · simp
  · simp [List.getLastD_eq_getLast?]

theorem in_force_nil (start : PropId → Property) : inForce start [] = start := rfl

private theorem in_force_one (start : PropId → Property) (property : Property) (id : PropId) :
    inForce start [property] id = if property.propId = some id then property else start id := by
  unfold inForce
  by_cases same : property.propId = some id
  · simp [same]
  · simp [same]

/-! ## Inputs -/

variable {sink next before after : GstKvsSink}

private theorem set_property_reads (sink : GstKvsSink) (property : Property) (id : PropId)
    (its : property.propId = some id) : gstKvsSinkGetProperty (gstKvsSinkSetProperty sink property) id = property := by
  cases property <;> cases its <;> rfl

private theorem set_property_keeps_others (sink : GstKvsSink) (property : Property) (id : PropId)
    (other : property.propId ≠ some id) :
    gstKvsSinkGetProperty (gstKvsSinkSetProperty sink property) id = gstKvsSinkGetProperty sink id := by
  cases property <;> cases id <;> first | rfl | exact absurd rfl other

private theorem set_property_in_force (sink : GstKvsSink) (property : Property) :
    gstKvsSinkGetProperty (gstKvsSinkSetProperty sink property) =
      inForce (gstKvsSinkGetProperty sink) [property] := by
  funext id
  rw [in_force_one]
  split
  · exact set_property_reads sink property id ‹_›
  · exact set_property_keeps_others sink property id ‹_›

theorem init_properties (now : UInt64) : gstKvsSinkGetProperty (gstKvsSinkInit now) = initialProperty now := by
  funext id
  cases id <;> rfl

private theorem properties_of_session (same : after.sessionPart = before.sessionPart) :
    gstKvsSinkGetProperty after = gstKvsSinkGetProperty before := (congrArg gstKvsSinkGetProperty same :)

private theorem properties_of_padless (same : after.padlessPart = before.padlessPart) :
    gstKvsSinkGetProperty after = gstKvsSinkGetProperty before := (congrArg gstKvsSinkGetProperty same :)

/-- Only a property that is set and NULL_TO_READY change what is read. -/
theorem other_inputs_keep_properties (pic : Pic) (sink : GstKvsSink) (input : Input)
    (noProperty : ∀ property, input ≠ .setProperty property)
    (noStart : ∀ outcome, input ≠ .changeState .nullToReady outcome) :
    gstKvsSinkGetProperty (applyInput pic sink input) = gstKvsSinkGetProperty sink := by
  cases input with
  | buffer pad buffer outcome => exact properties_of_session (buffer_from_pad_keeps_session pic sink pad buffer outcome)
  | noBuffer outcome => exact properties_of_session (buffer_keeps_session pic sink none outcome)
  | changeState transition outcome =>
    have changed := change_state_cases pic sink transition outcome
    simp only [applyInput]
    generalize changeState pic sink transition outcome = next at changed
    cases changed with
    | started | startedInVain | notStarted => exact absurd rfl (noStart outcome)
    | collecting | collectingInVain | stopped | nothingToStop | moved | refused => rfl
  | requestNewPad templ added => exact properties_of_padless (request_keeps_padless sink templ added)
  | releasePad pad removed => exact properties_of_padless (release_keeps_padless sink pad removed)
  | setProperty property => exact absurd rfl (noProperty property)
  | sinkEvent pad event outcome =>
    obtain ⟨_, _, _, _, changed, _, _⟩ := sink_event_changes sink pad event outcome
    simp only [applyInput, changed]
    rfl
  | streamErrorReport status => exact properties_of_session (error_report_keeps_session pic sink status)
  | finalize =>
    obtain ⟨_, _, _, changed, _⟩ := finalize_changes sink
    simp only [applyInput, changed]
    rfl

/-! ## A session that is declared -/

/-- An attempt to create a stream has set what sessions set. -/
structure SetsForSession (before after : GstKvsSink) : Prop where
  properties : gstKvsSinkGetProperty after = inForce (gstKvsSinkGetProperty before) before.sessionSettings
  mediaType : after.data.mediaType = before.data.mediaType

/-- Settings that are in force already change nothing. -/
theorem in_force_settled {start : PropId → Property} {settings : List Property}
    (settled : ∀ property ∈ settings, ∀ id, property.propId = some id → start id = property) :
    inForce start settings = start := by
  funext id
  unfold inForce
  rw [List.getLastD_eq_getLast?]
  cases last : (settings.filter (·.propId == some id)).getLast? with
  | none => rfl
  | some property =>
    obtain ⟨member, its⟩ := List.mem_filter.mp (List.mem_of_getLast? last)
    exact (settled property member id (beq_iff_eq.mp its)).symm

private theorem start_time_sets (sink : GstKvsSink) :
    gstKvsSinkGetProperty (applyFileStartTime sink) =
      inForce (gstKvsSinkGetProperty sink) sink.startTimeSettings := by
  have condition : (sink.streamingType = .offline ∧ sink.fileStartTime ≠ 0) ↔ sink.hasStartTime = true := by
    simp [GstKvsSink.hasStartTime, isOfflineStreamingMode]
  have setting (ptsBase : UInt64) :
      gstKvsSinkGetProperty { sink with absoluteFragmentTimes := true, data := { sink.data with ptsBase } } =
        inForce (gstKvsSinkGetProperty sink) [.absoluteFragmentTimes true] :=
    set_property_in_force sink (.absoluteFragmentTimes true)
  unfold applyFileStartTime GstKvsSink.startTimeSettings
  by_cases timed : sink.hasStartTime = true
  · rw [if_pos (condition.mpr timed), if_pos timed]
    exact setting _
  · rw [if_neg (timed ∘ condition.mp), if_neg timed]
    rfl

private theorem media_type_sets (sink : GstKvsSink) :
    gstKvsSinkGetProperty (applyMediaType sink) = inForce (gstKvsSinkGetProperty sink) sink.mediaTypeSettings := by
  let framerate := max sink.framerate defaultStreamFramerateHighDensity
  unfold applyMediaType GstKvsSink.mediaTypeSettings
  cases media : sink.data.mediaType with
  | audioVideo => exact set_property_in_force sink (.framerate framerate)
  | audioOnly =>
    have first := set_property_in_force sink (.keyFrameFragmentation false)
    have second := set_property_in_force (gstKvsSinkSetProperty sink (.keyFrameFragmentation false))
      (.framerate framerate)
    rw [first, ← in_force_append] at second
    exact second
  | videoOnly => rfl

private theorem prepared_sets (sink : GstKvsSink) : SetsForSession sink sink.prepared := by
  refine ⟨?_, (prepared_keeps sink).mediaType⟩
  obtain ⟨_, _, timed⟩ := file_start_time_changes sink
  have same : (applyFileStartTime sink).mediaTypeSettings = sink.mediaTypeSettings := by rw [timed]; rfl
  unfold GstKvsSink.prepared GstKvsSink.sessionSettings
  rw [media_type_sets, same, start_time_sets, in_force_append]

private theorem in_force_untouched {start : PropId → Property} {settings : List Property} {id : PropId}
    (untouched : ∀ property ∈ settings, property.propId ≠ some id) : inForce start settings id = start id := by
  have none : settings.filter (·.propId == some id) = [] :=
    List.filter_eq_nil_iff.mpr fun property member its => untouched property member (beq_iff_eq.mp its)
  unfold inForce
  rw [none]
  rfl

/-- The three properties that sessions set. -/
def PropId.ofSession : PropId → Bool
  | .absoluteFragmentTimes | .keyFrameFragmentation | .framerate => true
  | _ => false

/-- What is in force now, behind the settings of a session. -/
structure SessionInForce (sink : GstKvsSink) (start now : PropId → Property) : Prop where
  absolute : sink.hasStartTime = true → now .absoluteFragmentTimes = .absoluteFragmentTimes true
  keyFrames : sink.data.mediaType = .audioOnly → now .keyFrameFragmentation = .keyFrameFragmentation false
  framerate : sink.data.mediaType ≠ .videoOnly →
    now .framerate = .framerate (max sink.framerate defaultStreamFramerateHighDensity)
  others : ∀ id, id.ofSession = false → now id = start id

private theorem session_settings_cases (member : property ∈ GstKvsSink.sessionSettings sink) :
    (property = .absoluteFragmentTimes true ∧ sink.hasStartTime = true) ∨
      (property = .keyFrameFragmentation false ∧ sink.data.mediaType = .audioOnly) ∨
      (property = .framerate (max sink.framerate defaultStreamFramerateHighDensity) ∧
        sink.data.mediaType ≠ .videoOnly) := by
  unfold GstKvsSink.sessionSettings GstKvsSink.startTimeSettings GstKvsSink.mediaTypeSettings at member
  rcases List.mem_append.mp member with timed | ofMedia
  · split at timed
    · exact .inl ⟨List.mem_singleton.mp timed, ‹_›⟩
    · cases timed
  · cases media : sink.data.mediaType <;> rw [media] at ofMedia
    · exact .inr (.inr ⟨List.mem_singleton.mp ofMedia, by rintro ⟨⟩⟩)
    · cases ofMedia
    · simp only [List.mem_cons, List.not_mem_nil, or_false] at ofMedia
      rcases ofMedia with rfl | rfl
      · exact .inr (.inl ⟨rfl, rfl⟩)
      · exact .inr (.inr ⟨rfl, by rintro ⟨⟩⟩)

private theorem session_in_force (sink : GstKvsSink) (start : PropId → Property) :
    SessionInForce sink start (inForce start sink.sessionSettings) := by
  constructor
  · intro timed
    unfold GstKvsSink.sessionSettings GstKvsSink.startTimeSettings GstKvsSink.mediaTypeSettings inForce
    cases sink.data.mediaType <;> simp [timed, Property.propId]
  · intro audio
    unfold GstKvsSink.sessionSettings GstKvsSink.startTimeSettings GstKvsSink.mediaTypeSettings inForce
    cases sink.hasStartTime <;> simp [audio, Property.propId]
  · intro audio
    unfold GstKvsSink.sessionSettings GstKvsSink.startTimeSettings GstKvsSink.mediaTypeSettings inForce
    cases media : sink.data.mediaType
    · cases sink.hasStartTime <;> simp [Property.propId]
    · exact absurd media audio
    · cases sink.hasStartTime <;> simp [Property.propId]
  · intro id other
    apply in_force_untouched
    intro property member its
    rcases session_settings_cases member with ⟨rfl, _⟩ | ⟨rfl, _⟩ | ⟨rfl, _⟩ <;> cases its <;> cases other

private theorem max_twice (value bound : UInt32) : max (max value bound) bound = max value bound := by
  simp only [max]
  split
  · simp
  · simp [*]

/-- A session that sets its own a second time changes nothing. -/
theorem SetsForSession.again (first : SetsForSession before after) :
    inForce (gstKvsSinkGetProperty after) after.sessionSettings = gstKvsSinkGetProperty after := by
  have sets := session_in_force before (gstKvsSinkGetProperty before)
  rw [← first.properties] at sets
  have streaming : after.streamingType = before.streamingType := Property.streamingType.inj (sets.others .streamingType rfl)
  have fileStart : after.fileStartTime = before.fileStartTime := Property.fileStartTime.inj (sets.others .fileStartTime rfl)
  have timed : after.hasStartTime = before.hasStartTime := by
    unfold GstKvsSink.hasStartTime
    rw [streaming, fileStart]
  apply in_force_settled
  intro property member id its
  rcases session_settings_cases member with ⟨rfl, start⟩ | ⟨rfl, audio⟩ | ⟨rfl, audio⟩ <;> cases its
  · exact sets.absolute (timed ▸ start)
  · exact sets.keyFrames (first.mediaType ▸ audio)
  · have raised := sets.framerate (first.mediaType ▸ audio)
    have same : after.framerate = max before.framerate defaultStreamFramerateHighDensity :=
      Property.framerate.inj raised
    rw [raised, same, max_twice]

theorem SetsForSession.then (first : SetsForSession before middle) (second : SetsForSession middle after) :
    SetsForSession before after where
  properties := by rw [second.properties, first.again, first.properties]
  mediaType := second.mediaType.trans first.mediaType

/-! ## What the library is told -/

/-- The tags that a stream is declared with; tags that cannot be converted are left out. -/
def convertedTags (tags : Option GstStructure) : Option StringMap :=
  tags.bind fun tags =>
    match gstructToMap tags ∅ with
    | (.ok true, map) => some map
    | _ => none

/-- A configuration says what the properties say. -/
structure Configured (properties : PropId → Property) (configuration : StreamConfiguration) : Prop where
  streamName : properties .streamName = .streamName (some configuration.streamName)
  retentionPeriod : properties .retentionPeriod = .retentionPeriod configuration.retentionPeriodHours
  tags : ∃ tags, properties .streamTags = .streamTags tags ∧ configuration.tags = convertedTags tags
  kmsKeyId : configuration.kmsKeyId = ""
  streamingType : properties .streamingType = .streamingType configuration.streamingType
  maxLatency : properties .maxLatency = .maxLatency configuration.maxLatencySeconds
  fragmentDuration : properties .fragmentDuration = .fragmentDuration configuration.fragmentDurationMiliseconds
  timecodeScale : properties .timecodeScale = .timecodeScale configuration.timecodeScaleMilliseconds
  keyFrameFragmentation :
    properties .keyFrameFragmentation = .keyFrameFragmentation configuration.keyFrameFragmentation
  frameTimecodes : properties .frameTimecodes = .frameTimecodes configuration.frameTimecodes
  absoluteFragmentTimes :
    properties .absoluteFragmentTimes = .absoluteFragmentTimes configuration.absoluteFragmentTimes
  fragmentAcks : properties .fragmentAcks = .fragmentAcks configuration.fragmentAcks
  restartOnError : properties .restartOnError = .restartOnError configuration.restartOnError
  recalculateMetrics : properties .recalculateMetrics = .recalculateMetrics configuration.recalculateMetrics
  allowCreateStream : properties .allowCreateStream = .allowCreateStream configuration.allowStreamCreation
  framerate : properties .framerate = .framerate configuration.frameRate
  avgBandwidthBps : properties .avgBandwidthBps = .avgBandwidthBps configuration.avgBandwidthBps
  bufferDuration : properties .bufferDuration = .bufferDuration configuration.bufferDurationSeconds
  replayDuration : properties .replayDuration = .replayDuration configuration.replayDurationSeconds
  connectionStaleness :
    properties .connectionStaleness = .connectionStaleness configuration.connectionStalenessSeconds

/-- A device says what the properties say. -/
structure DeviceConfigured (properties : PropId → Property) (device : KvsSinkDeviceInfoProvider) : Prop where
  storageSize : properties .storageSize = .storageSize device.storageSizeMb
  stopStreamTimeout : properties .stopStreamTimeout = .stopStreamTimeout device.stopStreamTimeoutSec
  connectionTimeout : properties .connectionTimeout = .connectionTimeout device.serviceCallConnectionTimeoutSec
  completionTimeout : properties .completionTimeout = .completionTimeout device.serviceCallCompletionTimeoutSec

/-- Where a call tells the library a configuration, it is that of the properties. -/
def Call.TellsProperties (properties : PropId → Property) : Call → Prop
  | .createSync _ device => DeviceConfigured properties device
  | .createStreamSync _ definition _ => Configured properties definition.toStreamConfiguration
  | _ => True

/-- A second track changes nothing about the configuration. -/
theorem added_track_configuration (added : addAudioTrack sink heap residue definition = (after', .ok final)) :
    final.toStreamConfiguration = definition.toStreamConfiguration := by
  unfold addAudioTrack at added
  split at added
  · split at added <;> cases added
    rfl
  · cases added
    rfl

private theorem parsed_tags (tags : Option GstStructure) : parsedStreamTags tags = convertedTags tags := by
  unfold parsedStreamTags convertedTags
  cases tags <;> rfl

private theorem define_stream_configures (key : GstKvsSink.kmsKeyId sink = some "")
    (defined : defineStream pic sink residue = (heap, .ok definition)) :
    Configured (gstKvsSinkGetProperty sink) definition.toStreamConfiguration := by
  unfold defineStream at defined
  split at defined
  · cases defined
  · cases defined
  · rename_i strings _ checked
    obtain ⟨_, _, failed⟩ | ⟨_, _, same, stream, _, _, keyId, _, _⟩ := check_strings_cases sink
    · cases failed.symm.trans checked
    · cases same.symm.trans checked
      dsimp only at defined
      split at defined
      · cases defined
      · rename_i built
        have keyless : strings.kmsKeyId = "" := (Option.some.inj (key.symm.trans keyId)).symm
        rw [added_track_configuration defined, (new_accepts_iff.mp built).2.2]
        exact ⟨congrArg Property.streamName stream, rfl, ⟨_, rfl, parsed_tags _⟩, keyless, rfl, rfl, rfl, rfl, rfl, rfl, rfl, rfl,
        rfl, rfl, rfl, rfl, rfl, rfl, rfl, rfl⟩

/-- An attempt to create a stream, or several of them. -/
structure Attempted (before after : GstKvsSink) : Prop extends SetsForSession before after where
  key : after.kmsKeyId = before.kmsKeyId
  calls : Grows (Call.TellsProperties (gstKvsSinkGetProperty after)) before.calls after.calls

theorem Attempted.then (first : Attempted before middle) (second : Attempted middle after) :
    Attempted before after := by
  have same : gstKvsSinkGetProperty after = gstKvsSinkGetProperty middle := by
    rw [second.properties, first.again]
  exact ⟨first.toSetsForSession.then second.toSetsForSession, second.key.trans first.key,
    (same ▸ first.calls).trans second.calls⟩

private theorem attempt_tells (key : before.kmsKeyId = some "")
    (attempt : createKinesisVideoStream pic before residue status = (after, result)) : Attempted before after := by
  have sets := prepared_sets before
  have keyed : before.prepared.kmsKeyId = before.kmsKeyId := by
    obtain ⟨_, _, _, _, _, _, _, _, changed⟩ := prepared_changes before
    unfold GstKvsSink.prepared
    rw [changed]
    rfl
  have silent := (prepared_keeps before).calls
  have configures (heap : Heap) (definition : StreamDefinition)
      (defined : defineStream pic before.prepared residue = (heap, .ok definition)) :=
    define_stream_configures (keyed.trans key) defined
  have ready : applyMediaType (applyFileStartTime before) = before.prepared := rfl
  unfold createKinesisVideoStream at attempt
  simp only [ready] at attempt
  generalize before.prepared = prepared at sets keyed silent configures attempt
  split at attempt <;> rename_i defined
  · cases attempt
    exact ⟨⟨sets.properties, sets.mediaType⟩, keyed, silent ▸ .refl _⟩
  · rename_i heap definition
    have tells := configures heap definition defined
    have ends := create_sync_ends pic { prepared with heap } definition status
    split at attempt <;> rename_i asked <;> cases attempt <;> rw [asked] at ends <;> cases ends
    · exact ⟨⟨sets.properties, sets.mediaType⟩, keyed, silent ▸ .refl _⟩
    · exact ⟨⟨sets.properties, sets.mediaType⟩, keyed, silent ▸ .snoc (by exact tells) _⟩
    · exact ⟨⟨sets.properties, sets.mediaType⟩, keyed, silent ▸ .snoc (by exact tells) _⟩

/-- However often the creation is tried, all attempts tell the same. -/
theorem attempts_tell (key : before.kmsKeyId = some "")
    (ran : kinesisVideoStreamInitLoop pic outcome (retryCount + 1) before = (after, result)) :
    Attempted before after := by
  obtain ⟨_, last | ⟨tried, what, failed, again⟩⟩ := init_loop_round ran
  · exact attempt_tells key last
  · exact attempts_keep (Attempted before)
      (fun _ _ _ _ attempted attempt => attempted.then (attempt_tells (attempted.key.trans key) attempt))
      (attempt_tells key failed) again

/-! ## A start -/

/-- A stage of a start that sets nothing, and tells of a device at most. -/
structure StartsTelling (before after : GstKvsSink) : Prop where
  properties : gstKvsSinkGetProperty after = gstKvsSinkGetProperty before
  session : after.sessionSettings = before.sessionSettings
  key : after.kmsKeyId = before.kmsKeyId
  calls : Grows (fun call => call.TellsProperties (gstKvsSinkGetProperty before) ∧ call.asksForStream = false)
    before.calls after.calls

private theorem producer_init_calls (sink : GstKvsSink) (outcome : ChangeStateOutcome) :
    Grows (fun call => call.TellsProperties (gstKvsSinkGetProperty sink) ∧ call.asksForStream = false)
      sink.calls (kinesisVideoProducerInit sink outcome).1.calls := by
  have device : DeviceConfigured (gstKvsSinkGetProperty sink) ⟨sink.storageSize, sink.stopStreamTimeout,
      sink.serviceConnectionTimeout, sink.serviceCompletionTimeout⟩ := ⟨rfl, rfl, rfl, rfl⟩
  generalize gstKvsSinkGetProperty sink = properties at device
  have ends := producer_init_ends sink outcome
  generalize kinesisVideoProducerInit sink outcome = finished at ends
  cases ends with
  | unnamed | noCredentials | noUserAgent | noClient => exact .refl _
  | produced =>
    unfold GstKvsSink.renewed
    cases sink.data.kinesisVideoProducer with
    | none => exact .snoc ⟨by exact device, rfl⟩ _
    | some old =>
      simp only [destroyProducer]
      exact (Grows.snoc ⟨by exact device, rfl⟩ _).then ⟨trivial, rfl⟩

theorem producer_init_starts_telling (initialized : kinesisVideoProducerInit sink outcome = (after, result)) :
    StartsTelling sink after := by
  have calls := producer_init_calls sink outcome
  obtain ⟨_, _, _, _, changed, _⟩ := producer_init_changes sink outcome
  rw [initialized] at changed calls
  simp only at changed calls
  subst changed
  exact ⟨rfl, rfl, rfl, calls⟩

theorem StartsTelling.trans (first : StartsTelling before middle) (second : StartsTelling middle after) :
    StartsTelling before after where
  properties := second.properties.trans first.properties
  session := second.session.trans first.session
  key := second.key.trans first.key
  calls := first.calls.trans (first.properties ▸ second.calls)

theorem walk_starts_telling (scanned : initTrackData pic sink outcome = (after, result)) : StartsTelling sink after := by
  obtain ⟨_, _, _, _, _, changed⟩ := track_data_changes pic sink outcome
  rw [scanned] at changed
  simp only at changed
  subst changed
  exact ⟨rfl, rfl, rfl, .refl _⟩

/-- Sessions do not set what a device is told. -/
theorem device_told_alike (tells : Call.TellsProperties (gstKvsSinkGetProperty sink) call)
    (noStream : call.asksForStream = false) :
    call.TellsProperties (inForce (gstKvsSinkGetProperty sink) sink.sessionSettings) := by
  have others := (session_in_force sink (gstKvsSinkGetProperty sink)).others
  cases call with
  | createSync producer device =>
    exact ⟨(others _ rfl).trans tells.storageSize, (others _ rfl).trans tells.stopStreamTimeout,
      (others _ rfl).trans tells.connectionTimeout, (others _ rfl).trans tells.completionTimeout⟩
  | createStreamSync => cases noStream
  | _ => trivial

/-- What a start has set, and what it has told. -/
structure StartTold (sink : GstKvsSink) (settings : List Property) (after : GstKvsSink) : Prop where
  properties : gstKvsSinkGetProperty after = inForce (gstKvsSinkGetProperty sink) settings
  calls : Grows (Call.TellsProperties (gstKvsSinkGetProperty after)) sink.calls after.calls

theorem StartTold.failed (told : StartTold sink settings after)
    (fails : failChangeState after message raised = (next, result)) : StartTold sink settings next := by
  unfold failChangeState at fails
  split at fails <;> cases fails
  · exact ⟨told.properties, told.calls⟩
  · exact ⟨told.properties, told.calls.then trivial⟩

theorem StartsTelling.told (starts : StartsTelling sink after) : StartTold sink [] after where
  properties := starts.properties
  calls := starts.calls.imp fun _ tells => starts.properties ▸ tells.1

theorem StartsTelling.attempted (starts : StartsTelling sink before) (attempted : Attempted before after) :
    StartTold sink sink.sessionSettings after := by
  have properties : gstKvsSinkGetProperty after = inForce (gstKvsSinkGetProperty sink) sink.sessionSettings := by
    rw [attempted.properties, starts.properties, starts.session]
  refine ⟨properties, (starts.calls.imp fun _ tells => ?_).trans attempted.calls⟩
  rw [properties]
  exact device_told_alike tells.1 tells.2

theorem null_to_ready_told (key : sink.kmsKeyId = some "") (ran : nullToReady pic sink outcome = (after, result)) :
    StartTold sink (settingsOf pic sink (.changeState .nullToReady outcome)) after := by
  have forgets (walked : GstKvsSink) : StartsTelling walked walked.forgetTimeline := ⟨rfl, rfl, rfl, .refl _⟩
  have ends := null_to_ready_ends pic sink outcome
  rw [ran] at ends
  generalize ended : (after, result) = finished at ends
  simp only [settingsOf, reachesCreation]
  cases ends with
  | noProducer initialized =>
    simp only [initialized]
    exact (producer_init_starts_telling initialized).told.failed ended.symm
  | noTracks initialized scanned =>
    have walked := (producer_init_starts_telling initialized).trans (walk_starts_telling scanned)
    simp only [initialized, scanned]
    exact walked.told.failed ended.symm
  | noStream initialized scanned streamed =>
    have walked := ((producer_init_starts_telling initialized).trans (walk_starts_telling scanned)).trans (forgets _)
    simp only [initialized, scanned, if_true]
    exact (walked.attempted (attempts_tell (walked.key.trans key) streamed)).failed ended.symm
  | started initialized scanned streamed =>
    have walked := ((producer_init_starts_telling initialized).trans (walk_starts_telling scanned)).trans (forgets _)
    cases ended
    simp only [initialized, scanned, if_true]
    exact walked.attempted (attempts_tell (walked.key.trans key) streamed)

/-! ## Whole runs -/

/-- Apart from starts, no input tells the library a configuration. -/
theorem input_tells_nothing (made : InputCall sink input call)
    (still : ∀ transition outcome, input ≠ .changeState transition outcome) (properties : PropId → Property) :
    call.TellsProperties properties := by
  by_cases ends : input = .finalize
  · subst ends
    cases made
    trivial
  · have leaves := input_leaves_producers made still ends
    cases call with
    | createSync | createStreamSync => cases leaves
    | _ => trivial

private theorem start_told (key : sink.kmsKeyId = some "") (pic : Pic) (outcome : ChangeStateOutcome) :
    StartTold sink (settingsOf pic sink (.changeState .nullToReady outcome))
      (changeState pic sink .nullToReady outcome) := by
  have changed := change_state_cases pic sink .nullToReady outcome
  generalize changeState pic sink .nullToReady outcome = next at changed
  cases changed with
  | started ran | notStarted ran =>
    have told := null_to_ready_told key ran
    exact ⟨told.properties, told.calls⟩
  | startedInVain ran =>
    have told := null_to_ready_told key ran
    exact ⟨told.properties, told.calls.then trivial⟩
  | moved _ across => rcases across with impossible | impossible | impossible <;> cases impossible
  | refused _ up => exact absurd rfl up

private theorem step_told (key : sink.kmsKeyId = some "") (accepted : step pic sink input = some next) :
    StartTold sink (settingsOf pic sink input) next := by
  obtain ⟨_, rfl⟩ := step_eq_some.mp accepted
  obtain ⟨outcome, rfl⟩ | noStart := start_or_not input
  · exact start_told key pic outcome
  · by_cases sets : ∃ property, input = .setProperty property
    · obtain ⟨property, rfl⟩ := sets
      have calls : (applyInput pic sink (.setProperty property)).calls = sink.calls :=
        (set_property_keeps_element sink property).calls
      refine ⟨set_property_in_force sink property, ?_⟩
      rw [calls]
      exact .refl _
    · have silent : settingsOf pic sink input = [] := by
        unfold settingsOf
        split
        · exact absurd ⟨_, rfl⟩ sets
        · exact absurd rfl (noStart _)
        · rfl
      rw [silent]
      refine ⟨other_inputs_keep_properties pic sink input (fun property same => sets ⟨property, same⟩) noStart, ?_⟩
      obtain ⟨transition, outcome, rfl⟩ | still := state_change_or_not input
      · have changed := change_state_cases pic sink transition outcome
        simp only [applyInput]
        generalize changeState pic sink transition outcome = next at changed
        cases changed with
        | started | startedInVain | notStarted => exact absurd rfl (noStart outcome)
        | collecting | nothingToStop | moved => exact .refl _
        | collectingInVain | refused | stopped => exact .snoc trivial _
      · exact (input_stays pic sink input still).2.imp fun _ made => input_tells_nothing made still _

/-- What is read of an element, whose key has no property, is what was set. -/
structure ReadsAsSet (now : UInt64) (sink : GstKvsSink) (settings : List Property) : Prop where
  key : sink.kmsKeyId = some ""
  properties : gstKvsSinkGetProperty sink = inForce (initialProperty now) settings

theorem step_reads_as_set (reads : ReadsAsSet now sink settings) (accepted : step pic sink input = some next) :
    ReadsAsSet now next (settings ++ settingsOf pic sink input) where
  key := by
    obtain ⟨_, rfl⟩ := step_eq_some.mp accepted
    exact (input_keeps_key pic sink input).1.trans reads.key
  properties := by rw [(step_told reads.key accepted).properties, reads.properties, in_force_append]

private theorem reachable_reads_as_set (ran : runFromInit pic now inputs = some sink) :
    ReadsAsSet now sink (emitted (step pic) (settingsOf pic) (gstKvsSinkInit now) inputs) := by
  have all : EachStep (step pic) (fun _ _ => True) (gstKvsSinkInit now) inputs :=
    each_step_of_forall fun _ _ => trivial
  have initially : ReadsAsSet now (gstKvsSinkInit now) [] := ⟨rfl, init_properties now⟩
  exact run_accounts (fun _ _ _ _ reads _ accepted => step_reads_as_set reads accepted) initially all ran

private theorem properties_after_snoc (ran : runFromInit pic now inputs = some sink)
    (accepted : step pic sink input = some next) :
    gstKvsSinkGetProperty next = propertiesAfter pic now (inputs ++ [input]) := by
  have more : runFromInit pic now (inputs ++ [input]) = some next := by
    unfold runFromInit at ran ⊢
    rw [run_snoc, ran]
    exact accepted
  exact (reachable_reads_as_set more).properties

/-- **Configuration.** In every run, an application reads back what was set last,
by itself or by a session, and so does the library: whatever a start tells it of a
device or a stream is what is in force behind that start. -/
theorem library_is_told_what_was_set (ran : runFromInit pic now inputs = some sink) :
    gstKvsSinkGetProperty sink = propertiesAfter pic now inputs ∧
      ∀ input next, step pic sink input = some next →
        Grows (Call.TellsProperties (propertiesAfter pic now (inputs ++ [input]))) sink.calls next.calls := by
  have reads := reachable_reads_as_set ran
  refine ⟨reads.properties, fun input next accepted => ?_⟩
  rw [← properties_after_snoc ran accepted]
  exact (step_told reads.key accepted).calls

/-- A session of audio alone, at a framerate that the application set before. -/
def audioAtThirty : List Input :=
  [.requestNewPad .audio true, .setProperty (.framerate 30)] ++ upTo (fun _ => some [{ name := "audio/mpeg" }]) ++
    downToNull

theorem audio_at_thirty_is_told :
    ∃ final, runFromInit .sample 0 audioAtThirty = some final ∧
      gstKvsSinkGetProperty final .framerate = .framerate 100 ∧
      gstKvsSinkGetProperty final = propertiesAfter .sample 0 audioAtThirty ∧
      ∀ input next, step .sample final input = some next →
        Grows (Call.TellsProperties (propertiesAfter .sample 0 (audioAtThirty ++ [input]))) final.calls next.calls := by
  have evaluated : (runFromInit .sample 0 audioAtThirty).map (·.framerate) = some 100 := by decide
  obtain ⟨final, ran, raised⟩ := Option.map_eq_some_iff.mp evaluated
  exact ⟨final, ran, congrArg Property.framerate raised, library_is_told_what_was_set ran⟩

end KvsProducer
