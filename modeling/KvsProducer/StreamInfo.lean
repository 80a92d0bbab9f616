import KvsProducer.CredentialProvider
import KvsProducer.Durations
import KvsProducer.StreamCreation

/-! The durations and sizes of an element on their way to the platform: what a
`StreamDefinition` writes into its `StreamInfo`, and what the device info
provider of the element returns. -/
namespace KvsProducer
open Gst History Durations

/-! ## The stream info -/

def nanosInAnHour : UInt64 := 3600000000000
def nanosInASecond : UInt64 := 1000000000
def nanosInAMillisecond : UInt64 := 1000000

/-- `duration_cast<nanoseconds>(...).count() / DEFAULT_TIME_UNIT_IN_NANOS`. -/
def inTimeUnits (nanosInUnit count : UInt64) : UInt64 := hundredsOf (durationCast nanosInUnit count)

/-- `duration_cast<milliseconds>(seconds(...))`, on signed counts. -/
def secondsInMilliseconds (seconds : UInt32) : UInt64 := (seconds.toUInt64.toInt64 * 1000).toUInt64

/-- The fields of a `StreamInfo` that hold durations. -/
structure StreamInfoDurations where
  retention : UInt64
  maxLatency : UInt64
  fragmentDuration : UInt64
  timecodeScale : UInt64
  bufferDuration : UInt64
  replayDuration : UInt64
  connectionStalenessDuration : UInt64
  deriving DecidableEq, Repr

/-- What the constructor of a `StreamDefinition` makes of the durations it is given. -/
def StreamConfiguration.durations (configuration : StreamConfiguration) : StreamInfoDurations where
  retention := inTimeUnits nanosInAnHour configuration.retentionPeriodHours.toUInt64
  maxLatency := inTimeUnits nanosInAMillisecond (secondsInMilliseconds configuration.maxLatencySeconds)
  fragmentDuration := inTimeUnits nanosInAMillisecond configuration.fragmentDurationMiliseconds.toUInt64
  timecodeScale := inTimeUnits nanosInAMillisecond configuration.timecodeScaleMilliseconds.toUInt64
  bufferDuration := inTimeUnits nanosInASecond configuration.bufferDurationSeconds.toUInt64
  replayDuration := inTimeUnits nanosInASecond configuration.replayDurationSeconds.toUInt64
  connectionStalenessDuration := inTimeUnits nanosInASecond configuration.connectionStalenessSeconds.toUInt64

/-! ## The device info -/

/-- `log4cplus::LogLevel`, as far as the switch tells them apart. -/
inductive ChainedLogLevel where
  | trace | debug | info | warn | error | fatal | other
  deriving DecidableEq, Repr

/-- The log levels of the platform. -/
inductive PicLogLevel where
  | verbose | debug | info | warn | error | fatal
  deriving DecidableEq, Repr

structure DeviceInfo where
  name : String
  storageSize : UInt64
  rootDirectory : String
  streamCount : UInt32
  loggerLogLevel : PicLogLevel
  stopStreamTimeout : UInt64 := 0
  serviceCallCompletionTimeout : UInt64 := 0
  serviceCallConnectionTimeout : UInt64 := 0
  deriving DecidableEq, Repr

/-- The constructor of `DefaultDeviceInfoProvider`, which its `getDeviceInfo` returns the work of. -/
def defaultDeviceInfo (chained : ChainedLogLevel) : DeviceInfo where
  name := "Kinesis_Video_Device"
  storageSize := 256 * 1024 * 1024
  rootDirectory := "/tmp"
  streamCount := 16
  loggerLogLevel := match chained with
    | .trace => .verbose
    | .debug => .debug
    | .info => .info
    | .warn => .warn
    | .error => .error
    | .fatal => .fatal
    | .other => .info

def KvsSinkDeviceInfoProvider.getDeviceInfo (provider : KvsSinkDeviceInfoProvider)
    (chained : ChainedLogLevel) : DeviceInfo :=
  { defaultDeviceInfo chained with
    storageSize := provider.storageSizeMb.toUInt64 * 1024 * 1024
    stopStreamTimeout := provider.stopStreamTimeoutSec.toUInt64 * hundredsOfNanosInASecond
    serviceCallCompletionTimeout :=
      provider.serviceCallCompletionTimeoutSec.toUInt64 * hundredsOfNanosInASecond
    serviceCallConnectionTimeout :=
      provider.serviceCallConnectionTimeoutSec.toUInt64 * hundredsOfNanosInASecond }

/-! ## The settings -/

/-- The properties of an element that are durations or sizes, each a `guint`. -/
structure DurationSettings where
  retentionPeriod : UInt32
  maxLatency : UInt32
  fragmentDuration : UInt32
  timecodeScale : UInt32
  bufferDuration : UInt32
  replayDuration : UInt32
  connectionStaleness : UInt32
  storageSize : UInt32
  stopStreamTimeout : UInt32
  connectionTimeout : UInt32
  completionTimeout : UInt32
  deriving DecidableEq, Repr

namespace DurationSettings

def properties (settings : DurationSettings) : List Property :=
  [.retentionPeriod settings.retentionPeriod, .maxLatency settings.maxLatency,
    .fragmentDuration settings.fragmentDuration, .timecodeScale settings.timecodeScale,
    .bufferDuration settings.bufferDuration, .replayDuration settings.replayDuration,
    .connectionStaleness settings.connectionStaleness, .storageSize settings.storageSize,
    .stopStreamTimeout settings.stopStreamTimeout, .connectionTimeout settings.connectionTimeout,
    .completionTimeout settings.completionTimeout]

/-- An element on which all of them were set. -/
def assign (settings : DurationSettings) (sink : GstKvsSink) : GstKvsSink :=
  settings.properties.foldl gstKvsSinkSetProperty sink

/-- The configured quantities, in hundreds of nanoseconds. -/
structure InStream (settings : DurationSettings) (durations : StreamInfoDurations) : Prop where
  retention : durations.retention.toNat = settings.retentionPeriod.toNat * 36000000000
  maxLatency : durations.maxLatency.toNat = settings.maxLatency.toNat * 10000000
  fragmentDuration : durations.fragmentDuration.toNat = settings.fragmentDuration.toNat * 10000
  timecodeScale : durations.timecodeScale.toNat = settings.timecodeScale.toNat * 10000
  bufferDuration : durations.bufferDuration.toNat = settings.bufferDuration.toNat * 10000000
  replayDuration : durations.replayDuration.toNat = settings.replayDuration.toNat * 10000000
  connectionStaleness :
    durations.connectionStalenessDuration.toNat = settings.connectionStaleness.toNat * 10000000

/-- The configured quantities, in hundreds of nanoseconds and in bytes. -/
structure InDevice (settings : DurationSettings) (info : DeviceInfo) : Prop where
  storageSize : info.storageSize.toNat = settings.storageSize.toNat * 1048576
  stopStreamTimeout : info.stopStreamTimeout.toNat = settings.stopStreamTimeout.toNat * 10000000
  connectionTimeout : info.serviceCallConnectionTimeout.toNat = settings.connectionTimeout.toNat * 10000000
  completionTimeout : info.serviceCallCompletionTimeout.toNat = settings.completionTimeout.toNat * 10000000

/-- The count of nanoseconds between the two computations is the product itself. -/
def CastKeeps (nanosInUnit count : UInt64) : Prop :=
  (durationCast nanosInUnit count).toInt = count.toNat * nanosInUnit.toNat

/-- No computation on the way has wrapped. -/
structure NothingWraps (settings : DurationSettings) : Prop where
  retention : CastKeeps nanosInAnHour settings.retentionPeriod.toUInt64
  latencyMilliseconds : (secondsInMilliseconds settings.maxLatency).toNat = settings.maxLatency.toNat * 1000
  maxLatency : CastKeeps nanosInAMillisecond (secondsInMilliseconds settings.maxLatency)
  fragmentDuration : CastKeeps nanosInAMillisecond settings.fragmentDuration.toUInt64
  timecodeScale : CastKeeps nanosInAMillisecond settings.timecodeScale.toUInt64
  bufferDuration : CastKeeps nanosInASecond settings.bufferDuration.toUInt64
  replayDuration : CastKeeps nanosInASecond settings.replayDuration.toUInt64
  connectionStaleness : CastKeeps nanosInASecond settings.connectionStaleness.toUInt64
  storageKilobytes : (settings.storageSize.toUInt64 * 1024).toNat = settings.storageSize.toNat * 1024
  storageSize : (settings.storageSize.toUInt64 * 1024 * 1024).toNat = settings.storageSize.toNat * 1048576
  timeouts : ∀ timeout ∈ [settings.stopStreamTimeout, settings.connectionTimeout, settings.completionTimeout],
    (timeout.toUInt64 * hundredsOfNanosInASecond).toNat = timeout.toNat * 10000000

/-! ## Which quantities are exact -/

variable {settings : DurationSettings}

/-- Within the signed range the units that come out are those that went in. -/
theorem in_time_units_exact {nanosInUnit count : UInt64} (whole : 100 ∣ nanosInUnit.toNat)
    (fits : count.toNat * nanosInUnit.toNat < 2 ^ 63) :
    100 * (inTimeUnits nanosInUnit count).toNat = count.toNat * nanosInUnit.toNat :=
  (cast_exact_iff whole).mpr (.inl fits)

/-- Seconds that were given as a `guint`. -/
theorem seconds_exact (seconds : UInt32) :
    (inTimeUnits nanosInASecond seconds.toUInt64).toNat = seconds.toNat * 10000000 ∧
      CastKeeps nanosInASecond seconds.toUInt64 := by
  have bound := seconds.toNat_lt
  have unit : nanosInASecond.toNat = 1000000000 := rfl
  have fits : seconds.toUInt64.toNat * nanosInASecond.toNat < 2 ^ 63 := by
    rw [unit, UInt32.toNat_toUInt64]
    omega
  have exactly := in_time_units_exact (by decide) fits
  rw [unit, UInt32.toNat_toUInt64] at exactly
  exact ⟨by omega, cast_keeps_iff.mpr fits⟩

/-- Milliseconds, as long as there are not more than a thousand times a `guint` of them. -/
theorem milliseconds_exact (milliseconds : UInt64) (bound : milliseconds.toNat < 1000 * 2 ^ 32) :
    (inTimeUnits nanosInAMillisecond milliseconds).toNat = milliseconds.toNat * 10000 ∧
      CastKeeps nanosInAMillisecond milliseconds := by
  have unit : nanosInAMillisecond.toNat = 1000000 := rfl
  have fits : milliseconds.toNat * nanosInAMillisecond.toNat < 2 ^ 63 := by
    rw [unit]
    omega
  have exactly := in_time_units_exact (by decide) fits
  rw [unit] at exactly
  exact ⟨by omega, cast_keeps_iff.mpr fits⟩

private theorem given_milliseconds_exact (milliseconds : UInt32) :
    (inTimeUnits nanosInAMillisecond milliseconds.toUInt64).toNat = milliseconds.toNat * 10000 ∧
      CastKeeps nanosInAMillisecond milliseconds.toUInt64 := by
  have bound := milliseconds.toNat_lt
  have exactly := milliseconds_exact milliseconds.toUInt64 (by rw [UInt32.toNat_toUInt64]; omega)
  rw [UInt32.toNat_toUInt64] at exactly
  exact exactly

private theorem seconds_in_milliseconds (seconds : UInt32) :
    (secondsInMilliseconds seconds).toNat = seconds.toNat * 1000 := by
  have bound := seconds.toNat_lt
  have product : secondsInMilliseconds seconds = seconds.toUInt64 * 1000 := by
    rw [secondsInMilliseconds, Int64.toUInt64_mul]
    rfl
  rw [product, UInt64.toNat_mul, UInt32.toNat_toUInt64]
  change seconds.toNat * 1000 % 2 ^ 64 = _
  omega

/-- The two ranges of hours that come out right: without a wrap, and where the
quotient wraps back. -/
theorem retention_exact_iff (hours : UInt32) :
    (inTimeUnits nanosInAnHour hours.toUInt64).toNat = hours.toNat * 36000000000 ↔
      hours.toNat ≤ 2562047 ∨ (509847510 ≤ hours.toNat ∧ hours.toNat ≤ 512409557) := by
  have exactly := @cast_exact_iff nanosInAnHour hours.toUInt64 (by decide)
  have unit : nanosInAnHour.toNat = 3600000000000 := rfl
  rw [unit, UInt32.toNat_toUInt64] at exactly
  unfold inTimeUnits
  omega

private theorem retention_kept_iff (hours : UInt32) :
    CastKeeps nanosInAnHour hours.toUInt64 ↔ hours.toNat ≤ 2562047 := by
  have unit : nanosInAnHour.toNat = 3600000000000 := rfl
  rw [CastKeeps, cast_keeps_iff, unit, UInt32.toNat_toUInt64]
  omega

private theorem bytes_exact (megabytes : UInt32) :
    (megabytes.toUInt64 * 1024).toNat = megabytes.toNat * 1024 ∧
      (megabytes.toUInt64 * 1024 * 1024).toNat = megabytes.toNat * 1048576 := by
  have bound := megabytes.toNat_lt
  rw [UInt64.toNat_mul, UInt64.toNat_mul, UInt32.toNat_toUInt64]
  change megabytes.toNat * 1024 % 2 ^ 64 = _ ∧ megabytes.toNat * 1024 % 2 ^ 64 * 1024 % 2 ^ 64 = _
  omega

private theorem timeout_exact (seconds : UInt32) :
    (seconds.toUInt64 * hundredsOfNanosInASecond).toNat = seconds.toNat * 10000000 := by
  have bound := seconds.toNat_lt
  rw [UInt64.toNat_mul, UInt32.toNat_toUInt64]
  change seconds.toNat * 10000000 % 2 ^ 64 = _
  omega

/-- Only the hours can wrap. -/
theorem nothing_wraps_iff (settings : DurationSettings) :
    settings.NothingWraps ↔ settings.retentionPeriod.toNat ≤ 2562047 := by
  rw [← retention_kept_iff]
  refine ⟨NothingWraps.retention, fun retention => ?_⟩
  have bound := settings.maxLatency.toNat_lt
  have latency := seconds_in_milliseconds settings.maxLatency
  exact {
    retention
    latencyMilliseconds := latency
    maxLatency := (milliseconds_exact _ (by rw [latency]; omega)).2
    fragmentDuration := (given_milliseconds_exact _).2
    timecodeScale := (given_milliseconds_exact _).2
    bufferDuration := (seconds_exact _).2
    replayDuration := (seconds_exact _).2
    connectionStaleness := (seconds_exact _).2
    storageKilobytes := (bytes_exact _).1
    storageSize := (bytes_exact _).2
    timeouts := fun timeout _ => timeout_exact timeout }

/-- The sizes and timeouts of the device are always right. -/
theorem device_exact (settings : DurationSettings) (chained : ChainedLogLevel) :
    settings.InDevice (KvsSinkDeviceInfoProvider.getDeviceInfo ⟨settings.storageSize,
      settings.stopStreamTimeout, settings.connectionTimeout, settings.completionTimeout⟩ chained) where
  storageSize := (bytes_exact _).2
  stopStreamTimeout := timeout_exact _
  connectionTimeout := timeout_exact _
  completionTimeout := timeout_exact _

/-- The configuration declares the durations of the settings. -/
structure Declared (settings : DurationSettings) (configuration : StreamConfiguration) : Prop where
  retention : configuration.retentionPeriodHours = settings.retentionPeriod
  maxLatency : configuration.maxLatencySeconds = settings.maxLatency
  fragmentDuration : configuration.fragmentDurationMiliseconds = settings.fragmentDuration
  timecodeScale : configuration.timecodeScaleMilliseconds = settings.timecodeScale
  bufferDuration : configuration.bufferDurationSeconds = settings.bufferDuration
  replayDuration : configuration.replayDurationSeconds = settings.replayDuration
  connectionStaleness : configuration.connectionStalenessSeconds = settings.connectionStaleness

/-- Of what a stream declares only the retention can be wrong. -/
theorem in_stream_iff (declared : settings.Declared configuration) :
    settings.InStream configuration.durations ↔ settings.retentionPeriod.toNat ≤ 2562047 ∨
      (509847510 ≤ settings.retentionPeriod.toNat ∧ settings.retentionPeriod.toNat ≤ 512409557) := by
  rw [← retention_exact_iff]
  obtain ⟨retention, maxLatency, fragment, timecode, buffer, replay, staleness⟩ := declared
  unfold StreamConfiguration.durations
  rw [retention, maxLatency, fragment, timecode, buffer, replay, staleness]
  refine ⟨InStream.retention, fun exactly => ?_⟩
  have bound := settings.maxLatency.toNat_lt
  have latency := seconds_in_milliseconds settings.maxLatency
  have milliseconds := (milliseconds_exact (secondsInMilliseconds settings.maxLatency)
    (by rw [latency]; omega)).1
  rw [latency] at milliseconds
  exact {
    retention := exactly
    maxLatency := by
      rw [milliseconds]
      omega
    fragmentDuration := (given_milliseconds_exact _).1
    timecodeScale := (given_milliseconds_exact _).1
    bufferDuration := (seconds_exact _).1
    replayDuration := (seconds_exact _).1
    connectionStaleness := (seconds_exact _).1 }

end DurationSettings

/-! ## The way of the settings -/

def GstKvsSink.durationSettings (sink : GstKvsSink) : DurationSettings where
  retentionPeriod := sink.retentionPeriodHours
  maxLatency := sink.maxLatencySeconds
  fragmentDuration := sink.fragmentDurationMiliseconds
  timecodeScale := sink.timecodeScaleMilliseconds
  bufferDuration := sink.bufferDurationSeconds
  replayDuration := sink.replayDurationSeconds
  connectionStaleness := sink.connectionStalenessSeconds
  storageSize := sink.storageSize
  stopStreamTimeout := sink.stopStreamTimeout
  connectionTimeout := sink.serviceConnectionTimeout
  completionTimeout := sink.serviceCompletionTimeout

private theorem assigned_settings (settings : DurationSettings) (sink : GstKvsSink) :
    (settings.assign sink).durationSettings = settings := rfl

/-- Where a call hands over durations or sizes, they are those of the settings. -/
def Call.Carries (settings : DurationSettings) : Call → Prop
  | .createSync _ device => device = ⟨settings.storageSize, settings.stopStreamTimeout,
      settings.connectionTimeout, settings.completionTimeout⟩
  | .createStreamSync _ definition _ => settings.Declared definition.toStreamConfiguration
  | _ => True

/-- A stage of a start keeps the settings and hands over nothing else. -/
structure Passes (sink after : GstKvsSink) : Prop where
  settings : after.durationSettings = sink.durationSettings
  calls : Grows (Call.Carries sink.durationSettings) sink.calls after.calls

theorem Passes.trans (first : Passes sink middle) (second : Passes middle after) : Passes sink after where
  settings := second.settings.trans first.settings
  calls := first.calls.trans (first.settings ▸ second.calls)

private theorem passes_silently (settings : after.durationSettings = sink.durationSettings)
    (calls : after.calls = sink.calls) : Passes sink after :=
  ⟨settings, calls ▸ Grows.refl _⟩

private theorem producer_init_passes (sink : GstKvsSink) (outcome : ChangeStateOutcome) :
    Passes sink (kinesisVideoProducerInit sink outcome).1 := by
  constructor
  · obtain ⟨_, _, _, _, changed, _⟩ := producer_init_changes sink outcome
    rw [changed]
    rfl
  · have created : Call.Carries sink.durationSettings (.createSync sink.nextProducer
      ⟨sink.storageSize, sink.stopStreamTimeout, sink.serviceConnectionTimeout,
        sink.serviceCompletionTimeout⟩) := rfl
    have ends := producer_init_ends sink outcome
    generalize kinesisVideoProducerInit sink outcome = finished at ends
    cases ends with
    | unnamed | noCredentials | noUserAgent | noClient => exact .refl _
    | produced =>
      unfold GstKvsSink.renewed
      cases sink.data.kinesisVideoProducer with
      | none => exact .snoc created _
      | some old =>
        simp only [destroyProducer]
        exact (Grows.snoc created _).then trivial

private theorem init_track_data_passes (pic : Pic) (sink : GstKvsSink) (outcome : ChangeStateOutcome) :
    Passes sink (initTrackData pic sink outcome).1 := by
  obtain ⟨_, _, _, _, _, changed⟩ := track_data_changes pic sink outcome
  rw [changed]
  exact passes_silently rfl rfl

private theorem prepared_passes (sink : GstKvsSink) : Passes sink sink.prepared := by
  refine passes_silently ?_ (prepared_keeps sink).calls
  obtain ⟨_, _, _, _, _, _, _, _, changed⟩ := prepared_changes sink
  unfold GstKvsSink.prepared
  rw [changed]
  rfl

/-- What is declared are the settings of the sink. -/
theorem define_stream_declares (defined : defineStream pic sink residue = (heap, .ok definition)) :
    sink.durationSettings.Declared definition.toStreamConfiguration := by
  obtain ⟨_, _, _, configuration⟩ := defined_configuration defined
  rw [configuration]
  exact ⟨rfl, rfl, rfl, rfl, rfl, rfl, rfl⟩

private theorem create_sync_passes (sink : GstKvsSink)
    (declared : sink.durationSettings.Declared definition.toStreamConfiguration) (pic : Pic) (status : Status) :
    Passes sink (createStreamSync pic sink definition status).1 := by
  have ends := create_sync_ends pic sink definition status
  generalize createStreamSync pic sink definition status = finished at ends
  cases ends with
  | noProducer => exact passes_silently rfl rfl
  | refused => exact ⟨rfl, .snoc (by exact declared) _⟩
  | created => exact ⟨rfl, .snoc (by exact declared) _⟩

private theorem attempt_passes (pic : Pic) (sink : GstKvsSink) (residue : ℕ → String) (status : Status) :
    Passes sink (createKinesisVideoStream pic sink residue status).1 := by
  have prepared := prepared_passes sink
  have ready : applyMediaType (applyFileStartTime sink) = sink.prepared := rfl
  unfold createKinesisVideoStream
  simp only [ready]
  split <;> rename_i defined
  · exact prepared.trans (passes_silently rfl rfl)
  · rename_i heap definition
    have declared := define_stream_declares defined
    have asks := create_sync_passes { sink.prepared with heap } declared pic status
    have onward : Passes sink { sink.prepared with heap } := prepared.trans (passes_silently rfl rfl)
    split <;> rename_i asked <;> rw [asked] at asks
    · exact onward.trans asks
    · exact (onward.trans asks).trans (passes_silently rfl rfl)

private theorem attempts_pass (ran : kinesisVideoStreamInitLoop pic outcome retryCount sink = (after, result)) :
    Passes sink after :=
  attempts_keep (Passes sink)
    (fun before _ status _ passes attempt =>
      passes.trans (of_stage (attempt_passes pic before outcome.residue status) attempt))
    (passes_silently rfl rfl) ran

private theorem fail_passes (sink : GstKvsSink) (message : String) (raised : Raised) :
    Passes sink (failChangeState sink message raised).1 := by
  unfold failChangeState
  split
  · exact passes_silently rfl rfl
  · exact ⟨rfl, .snoc trivial _⟩

/-- Whatever a start hands to the platform carries the settings. -/
theorem null_to_ready_passes (pic : Pic) (sink : GstKvsSink) (outcome : ChangeStateOutcome) :
    Passes sink (nullToReady pic sink outcome).1 := by
  have produces := producer_init_passes sink outcome
  have walks (held : GstKvsSink) := init_track_data_passes pic held outcome
  have forgets (walked : GstKvsSink) : Passes walked walked.forgetTimeline := passes_silently rfl rfl
  have ends := null_to_ready_ends pic sink outcome
  generalize nullToReady pic sink outcome = finished at ends
  cases ends with
  | noProducer initialized => exact (of_stage produces initialized).trans (fail_passes ..)
  | noTracks initialized scanned =>
    have walked := (of_stage produces initialized).trans (of_stage (walks _) scanned)
    exact walked.trans (fail_passes ..)
  | noStream initialized scanned streamed =>
    have walked := (of_stage produces initialized).trans (of_stage (walks _) scanned)
    exact ((walked.trans (forgets _)).trans (attempts_pass streamed)).trans (fail_passes ..)
  | started initialized scanned streamed =>
    have walked := (of_stage produces initialized).trans (of_stage (walks _) scanned)
    exact (walked.trans (forgets _)).trans (attempts_pass streamed)

private theorem start_passes (pic : Pic) (sink : GstKvsSink) (outcome : ChangeStateOutcome) :
    Passes sink (gstKvsSinkChangeState pic sink .nullToReady outcome).1 := by
  have started := null_to_ready_passes pic sink outcome
  have upward : upwardTransition pic sink .nullToReady outcome = nullToReady pic sink outcome := rfl
  unfold gstKvsSinkChangeState
  rw [upward]
  split <;> rename_i ready
  · rw [ready] at started
    split
    · exact started.trans ⟨rfl, .snoc trivial _⟩
    · exact started
  · exact started

/-! ## What reaches the platform -/

/-- Where a call hands over durations or sizes, the platform reads the configured
quantities from them. -/
def Call.ReachesPic (settings : DurationSettings) (chained : ChainedLogLevel) : Call → Prop
  | .createSync _ device => settings.InDevice (device.getDeviceInfo chained)
  | .createStreamSync _ definition _ => settings.InStream definition.durations
  | _ => True

/-- A stream is asked for. -/
def Call.declaresStream : Call → Bool
  | .createStreamSync _ _ _ => true
  | _ => false

/-- For a call that carries the settings only a declared retention can be wrong. -/
theorem carried_reaches_iff (carries : Call.Carries settings call) (chained : ChainedLogLevel) :
    call.ReachesPic settings chained ↔ (call.declaresStream = true →
      settings.retentionPeriod.toNat ≤ 2562047 ∨
        (509847510 ≤ settings.retentionPeriod.toNat ∧ settings.retentionPeriod.toNat ≤ 512409557)) := by
  cases call with
  | createSync producer device =>
    cases carries
    exact iff_of_true (DurationSettings.device_exact settings chained) nofun
  | createStreamSync producer definition stream =>
    exact (DurationSettings.in_stream_iff carries).trans (by simp [Call.declaresStream])
  | _ => exact iff_of_true trivial (by simp [Call.declaresStream])

/-- **Durations and sizes.** When an element with these settings starts and asks
for a stream, everything that it hands over is exact, and nothing has wrapped on
the way, precisely if the retention is below 292 years. The values alone come out
right in one more range, behind a hundred wraps. -/
theorem durations_reach_pic_iff (settings : DurationSettings) (pic : Pic) (sink : GstKvsSink)
    (outcome : ChangeStateOutcome) (chained : ChainedLogLevel)
    (asks : ∃ call ∈ (gstKvsSinkChangeState pic (settings.assign sink) .nullToReady outcome).1.since
      (settings.assign sink), call.declaresStream = true) :
    let handed := (gstKvsSinkChangeState pic (settings.assign sink) .nullToReady outcome).1.since
      (settings.assign sink)
    (((∀ call ∈ handed, call.ReachesPic settings chained) ∧ settings.NothingWraps) ↔
        settings.retentionPeriod.toNat ≤ 2562047) ∧
      ((∀ call ∈ handed, call.ReachesPic settings chained) ↔ settings.retentionPeriod.toNat ≤ 2562047 ∨
        (509847510 ≤ settings.retentionPeriod.toNat ∧ settings.retentionPeriod.toNat ≤ 512409557)) := by
  intro handed
  obtain ⟨stream, member, declares⟩ := asks
  have carries := since_of_grows (start_passes pic (settings.assign sink) outcome).calls
  rw [assigned_settings] at carries
  have reaches : (∀ call ∈ handed, call.ReachesPic settings chained) ↔
      settings.retentionPeriod.toNat ≤ 2562047 ∨
        (509847510 ≤ settings.retentionPeriod.toNat ∧ settings.retentionPeriod.toNat ≤ 512409557) := by
    constructor
    · intro all
      exact (carried_reaches_iff (carries stream member) chained).mp (all stream member) declares
    · intro right call handedOver
      exact (carried_reaches_iff (carries call handedOver) chained).mpr fun _ => right
  refine ⟨?_, reaches⟩
  rw [reaches, DurationSettings.nothing_wraps_iff]
  omega

/-- The defaults of the element, with this retention. -/
def defaultDurations (retentionPeriod : UInt32) : DurationSettings where
  retentionPeriod := retentionPeriod
  maxLatency := 60
  fragmentDuration := 2000
  timecodeScale := 1
  bufferDuration := 120
  replayDuration := 40
  connectionStaleness := 60
  storageSize := 128
  stopStreamTimeout := 120
  connectionTimeout := 5
  completionTimeout := 10

/-- A fresh element with a video pad and these settings. -/
def videoElement (settings : DurationSettings) : GstKvsSink :=
  settings.assign (gstKvsSinkRequestNewPad (gstKvsSinkInit 0) .video true).1

/-- What its start hands over when the pad has a peer with video. -/
def videoStart (settings : DurationSettings) : List Call :=
  (gstKvsSinkChangeState .sample (videoElement settings) .nullToReady
    { allowedCaps := fun _ => some [h264Caps] }).1.since (videoElement settings)

theorem day_of_retention_reaches_pic :
    (∀ call ∈ videoStart (defaultDurations 24), call.ReachesPic (defaultDurations 24) .info) ∧
      (defaultDurations 24).NothingWraps :=
  (durations_reach_pic_iff (defaultDurations 24) .sample _ { allowedCaps := fun _ => some [h264Caps] } .info
    (by decide)).1.mpr (by decide)

/-- One hour above the limit wraps to more than fifty thousand years. -/
theorem long_retention_wraps :
    ¬ ∀ call ∈ videoStart (defaultDurations 2562048), call.ReachesPic (defaultDurations 2562048) .info := by
  intro reaches
  have asked : ∃ call ∈ videoStart (defaultDurations 2562048), call.declaresStream = true := by decide
  obtain ⟨call, member, declares⟩ := asked
  have carries : Call.Carries (defaultDurations 2562048) call :=
    since_of_grows (start_passes .sample (videoElement (defaultDurations 2562048)) _).calls call member
  rcases (carried_reaches_iff carries .info).mp (reaches call member) declares with low | ⟨high, _⟩
  · exact absurd low (by decide)
  · exact absurd high (by decide)

end KvsProducer
