import Mathlib.Data.Finset.Insert
import KvsProducer.GLib
import KvsProducer.StreamDefinition

/-! The state of one kvssink element, and the record of what it has asked of
the objects around it. Statements about the element are statements about that
record: which stream was started, fed, reset, stopped or released, and when. -/
namespace KvsProducer
open Gst GLib KvsSinkUtil

inductive MediaType where
  | audioVideo | videoOnly | audioOnly
  deriving DecidableEq, Repr

/-- The entry of one pad in the collect list. The end-of-stream mark belongs to
`GstCollectPads`, which stops delivering buffers of a marked pad. -/
structure GstKvsSinkTrackData where
  pad : PadId
  eos : Bool
  trackType : MkvTrackInfoType
  trackId : ℕ
  deriving DecidableEq, Repr

structure Frame where
  flags : FrameFlags
  index : UInt32
  decodingTs : UInt64
  presentationTs : UInt64
  duration : UInt64
  size : UInt32
  frameData : List UInt8
  trackId : ℕ
  deriving DecidableEq, Repr

structure KvsSinkDeviceInfoProvider where
  storageSizeMb : UInt32
  stopStreamTimeoutSec : UInt32
  serviceCallConnectionTimeoutSec : UInt32
  serviceCallCompletionTimeoutSec : UInt32
  deriving DecidableEq, Repr

/-- `KinesisVideoProducer` and `KinesisVideoStream` objects, numbered in the
order of their construction. -/
abbrev ProducerId := ℕ
abbrev StreamId := ℕ

inductive ElementError where
  | libraryInit (message : String)
  | streamError (status : Status)
  | failedToStartStream
  deriving DecidableEq, Repr

/-- One thing the element did that can be seen from outside. -/
inductive Call where
  | createSync (producer : ProducerId) (device : KvsSinkDeviceInfoProvider)
  | destroyProducer (producer : ProducerId)
  | createStreamSync (producer : ProducerId) (definition : StreamDefinition)
      (stream : Option StreamId)
  | start (stream : StreamId) (trackId : ℕ) (accepted : Bool)
  | putFragmentMetadata (stream : StreamId) (name value : String) (persistent accepted : Bool)
  | statusPutFrame (stream : StreamId) (frame : Frame) (status : Status)
  | putEofr (stream : StreamId) (status : Status)
  | resetStream (stream : StreamId) (done : Bool)
  | stopSync (stream : StreamId) (done : Bool)
  | emitMetrics (framePts : UInt64) (onFirstFrame : Bool)
  | postEos
  | elementError (error : ElementError)
  | putFrameWarning (status : Status)
  | streamErrorReport (status : Status)
  | bufferArrived
  | releaseBuffer
  | bufferDone (ret : GstFlowReturn)
  | callbackAfterFinalize

/-- `KvsSinkCustomData`. -/
structure KvsSinkCustomData where
  kinesisVideoProducer : Option ProducerId := none
  kinesisVideoStream : Option StreamId := none
  trackCpdReceived : Finset ℕ := ∅
  mediaType : MediaType := .videoOnly
  firstVideoFrame : Bool := true
  useOriginalPts : Bool := false
  getMetrics : Bool := false
  frameCount : UInt32 := 0
  onFirstFrame : Bool := true
  streamStatus : Status := statusSuccess
  lastDts : UInt64 := 0
  ptsBase : UInt64 := 0
  firstPts : UInt64 := gstClockTimeNone
  producerStartTime : UInt64 := gstClockTimeNone

/-- `GstKvsSink` with the data it owns, the pads of its element, and the heap
blocks behind its owning string fields. -/
structure GstKvsSink where
  state : GstState := .null
  pads : List PadId := []
  nextPad : PadId := 0
  collect : List GstKvsSinkTrackData := []
  numStreams : UInt32 := 0
  numAudioStreams : UInt32 := 0
  numVideoStreams : UInt32 := 0
  streamName : Option String
  userAgent : Option String
  retentionPeriodHours : UInt32
  kmsKeyId : Option String
  streamingType : StreamingType
  contentType : GCharPtr := none
  maxLatencySeconds : UInt32
  fragmentDurationMiliseconds : UInt32
  timecodeScaleMilliseconds : UInt32
  keyFrameFragmentation : Bool
  frameTimecodes : Bool
  absoluteFragmentTimes : Bool
  fragmentAcks : Bool
  restartOnError : Bool
  recalculateMetrics : Bool
  allowCreateStream : Bool
  framerate : UInt32
  avgBandwidthBps : UInt32
  bufferDurationSeconds : UInt32
  replayDurationSeconds : UInt32
  connectionStalenessSeconds : UInt32
  codecId : GCharPtr
  trackName : GCharPtr
  storageSize : UInt32
  stopStreamTimeout : UInt32
  serviceConnectionTimeout : UInt32
  serviceCompletionTimeout : UInt32
  streamTags : Option GstStructure := none
  fileStartTime : UInt64
  trackInfoType : MkvTrackInfoType
  audioCodecId : GCharPtr
  data : KvsSinkCustomData := {}
  /-- The use count of the shared `KvsSinkCustomData`: one for the field `data`
  of the element, one for every live `KvsSinkStreamCallbackProvider`. -/
  dataUseCount : ℕ := 1
  heap : Heap
  nextProducer : ProducerId := 0
  nextStream : StreamId := 0
  calls : List Call := []
  finalized : Bool := false
  crashed : Bool := false

def defaultCodecIdH264 : String := "V_MPEG4/ISO/AVC"
def defaultCodecIdH265 : String := "V_MPEGH/ISO/HEVC"
def defaultTrackName : String := "kinesis_video"
def defaultAudioTrackName : String := "audio"
def defaultAudioCodecIdAac : String := "A_AAC"
def defaultAudioCodecIdPcm : String := "A_MS/ACM"
def defaultStreamFramerateHighDensity : UInt32 := 100
def kvsSinkDefaultTrackId : ℕ := 1
def kvsSinkDefaultAudioTrackId : ℕ := 2

/-- `gst_kvs_sink_init`, at a given wall-clock time in seconds. -/
def gstKvsSinkInit (now : UInt64) : GstKvsSink :=
  let (codecId, heap) := gStrdup {} defaultCodecIdH264
  let (trackName, heap) := gStrdup heap defaultTrackName
  let (audioCodecId, heap) := gStrdup heap defaultAudioCodecIdAac
  { streamName := some "DEFAULT_STREAM"
    userAgent := some "AWS-SDK-KVS-CPP-CLIENT/UNKNOWN"
    retentionPeriodHours := 2
    kmsKeyId := some ""
    streamingType := .realtime
    maxLatencySeconds := 60
    fragmentDurationMiliseconds := 2000
    timecodeScaleMilliseconds := 1
    keyFrameFragmentation := true
    frameTimecodes := true
    absoluteFragmentTimes := true
    fragmentAcks := true
    restartOnError := true
    recalculateMetrics := true
    allowCreateStream := true
    framerate := 25
    avgBandwidthBps := 4 * 1024 * 1024
    bufferDurationSeconds := 120
    replayDurationSeconds := 40
    connectionStalenessSeconds := 60
    codecId := some codecId
    trackName := some trackName
    storageSize := 128
    stopStreamTimeout := 120
    serviceConnectionTimeout := 5
    serviceCompletionTimeout := 10
    fileStartTime := now
    trackInfoType := .video
    audioCodecId := some audioCodecId
    heap := heap }

namespace GstKvsSink

/-- Appends to the record of what the element did. -/
def log (sink : GstKvsSink) (call : Call) : GstKvsSink := { sink with calls := sink.calls ++ [call] }

/-- Dereferencing a NULL pointer, or an exception nobody catches. -/
def crash (sink : GstKvsSink) : GstKvsSink := { sink with crashed := true }

def trackOf (sink : GstKvsSink) (pad : PadId) : Option GstKvsSinkTrackData :=
  sink.collect.find? (·.pad == pad)

end GstKvsSink

/-- The properties an application can set, among those the modelled functions read. -/
inductive Property where
  | streamName (value : Option String)
  | userAgent (value : Option String)
  | retentionPeriod (value : UInt32)
  | streamingType (value : StreamingType)
  | contentType (value : Option String)
  | maxLatency (value : UInt32)
  | fragmentDuration (value : UInt32)
  | timecodeScale (value : UInt32)
  | keyFrameFragmentation (value : Bool)
  | frameTimecodes (value : Bool)
  | absoluteFragmentTimes (value : Bool)
  | fragmentAcks (value : Bool)
  | restartOnError (value : Bool)
  | recalculateMetrics (value : Bool)
  | framerate (value : UInt32)
  | avgBandwidthBps (value : UInt32)
  | bufferDuration (value : UInt32)
  | replayDuration (value : UInt32)
  | connectionStaleness (value : UInt32)
  | codecId (value : Option String)
  | trackName (value : Option String)
  | storageSize (value : UInt32)
  | stopStreamTimeout (value : UInt32)
  | connectionTimeout (value : UInt32)
  | completionTimeout (value : UInt32)
  | streamTags (value : Option GstStructure)
  | fileStartTime (value : UInt64)
  | useOriginalPts (value : Bool)
  | getKvsMetrics (value : Bool)
  | allowCreateStream (value : Bool)

/-- `g_free(field); field = g_strdup(value)`, where `g_strdup(NULL)` is NULL. -/
def replaceString (heap : Heap) (field : GCharPtr) (value : Option String) : GCharPtr × Heap :=
  let heap := gFree heap field
  match value with
  | none => (none, heap)
  | some text =>
    let (string, heap) := gStrdup heap text
    (some string, heap)

/-- `gst_kvs_sink_set_property`. -/
def gstKvsSinkSetProperty (sink : GstKvsSink) : Property → GstKvsSink
  | .streamName value => { sink with streamName := value }
  | .userAgent value => { sink with userAgent := value }
  | .retentionPeriod value => { sink with retentionPeriodHours := value }
  | .streamingType value => { sink with streamingType := value }
  | .contentType value =>
    let (contentType, heap) := replaceString sink.heap sink.contentType value
    { sink with contentType, heap }
  | .maxLatency value => { sink with maxLatencySeconds := value }
  | .fragmentDuration value => { sink with fragmentDurationMiliseconds := value }
  | .timecodeScale value => { sink with timecodeScaleMilliseconds := value }
  | .keyFrameFragmentation value => { sink with keyFrameFragmentation := value }
  | .frameTimecodes value => { sink with frameTimecodes := value }
  | .absoluteFragmentTimes value => { sink with absoluteFragmentTimes := value }
  | .fragmentAcks value => { sink with fragmentAcks := value }
  | .restartOnError value => { sink with restartOnError := value }
  | .recalculateMetrics value => { sink with recalculateMetrics := value }
  | .framerate value => { sink with framerate := value }
  | .avgBandwidthBps value => { sink with avgBandwidthBps := value }
  | .bufferDuration value => { sink with bufferDurationSeconds := value }
  | .replayDuration value => { sink with replayDurationSeconds := value }
  | .connectionStaleness value => { sink with connectionStalenessSeconds := value }
  | .codecId value =>
    let (codecId, heap) := replaceString sink.heap sink.codecId value
    { sink with codecId, heap }
  | .trackName value =>
    let (trackName, heap) := replaceString sink.heap sink.trackName value
    { sink with trackName, heap }
  | .storageSize value => { sink with storageSize := value }
  | .stopStreamTimeout value => { sink with stopStreamTimeout := value }
  | .connectionTimeout value => { sink with serviceConnectionTimeout := value }
  | .completionTimeout value => { sink with serviceCompletionTimeout := value }
  | .streamTags value => { sink with streamTags := value }
  | .fileStartTime value => { sink with fileStartTime := value }
  | .useOriginalPts value => { sink with data := { sink.data with useOriginalPts := value } }
  | .getKvsMetrics value => { sink with data := { sink.data with getMetrics := value } }
  | .allowCreateStream value => { sink with allowCreateStream := value }

end KvsProducer
