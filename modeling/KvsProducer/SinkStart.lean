import KvsProducer.Sink

/-! How a kvssink starts and stops a session: the producer, the tracks, the
stream with its retries, and the state changes around them. Effects made before
an exception is thrown stay, so every function returns the sink beside its
result. -/
namespace KvsProducer
open Gst GLib KvsSinkUtil

/-- What the surroundings answer during one state change. -/
structure ChangeStateOutcome where
  /-- How the choice of a credential provider ended. -/
  credentials : Except Raised Unit := .ok ()
  /-- What `createKinesisVideoClientSync` returned. -/
  clientStatus : Status := statusSuccess
  /-- `gst_pad_get_allowed_caps`, NULL when the pad has no peer. -/
  allowedCaps : PadId → Option GstCaps := fun _ => none
  /-- What `createKinesisVideoStreamSync` returned, for each attempt. -/
  createStatus : ℕ → Status := fun _ => statusSuccess
  /-- What a released block holds when it is read. -/
  residue : ℕ → String := fun _ => ""
  /-- `stopKinesisVideoStreamSync` succeeded. -/
  stopped : Bool := true
  /-- The state change of the parent class succeeded. -/
  parentChanged : Bool := true

/-! ## The producer -/

/-- Destroying a producer frees its streams and its client, and its callback
provider gives up its share of the custom data. -/
def destroyProducer (sink : GstKvsSink) : Option ProducerId → GstKvsSink
  | none => sink
  | some producer =>
    { sink.log (.destroyProducer producer) with dataUseCount := sink.dataUseCount - 1 }

/-- `kinesis_video_producer_init`. The callback provider holds the custom data
from its construction; every failure after that destroys it again. -/
def kinesisVideoProducerInit (sink : GstKvsSink) (outcome : ChangeStateOutcome) :
    GstKvsSink × Except Raised Unit :=
  match throwIfNull sink.streamName "kvssink->stream_name" with
  | .error raised => (sink, .error raised)
  | .ok _ =>
    let device : KvsSinkDeviceInfoProvider :=
      ⟨sink.storageSize, sink.stopStreamTimeout, sink.serviceConnectionTimeout,
        sink.serviceCompletionTimeout⟩
    let held := { sink with dataUseCount := sink.dataUseCount + 1 }
    let unwound := { held with dataUseCount := held.dataUseCount - 1 }
    match outcome.credentials with
    | .error raised => (unwound, .error raised)
    | .ok () =>
      match throwIfNull sink.userAgent "kvssink->user_agent" with
      | .error raised => (unwound, .error raised)
      | .ok _ =>
        if statusFailed outcome.clientStatus then
          (unwound, .error (.runtimeError
            (" Unable to create Kinesis Video client. Error status: 0x" ++
              statusHex outcome.clientStatus)))
        else
          -- the assignment to the unique_ptr destroys the producer it held before
          let created := held.log (.createSync held.nextProducer device)
          let replaced := destroyProducer created sink.data.kinesisVideoProducer
          ({ replaced with
            data := { replaced.data with kinesisVideoProducer := some held.nextProducer }
            nextProducer := held.nextProducer + 1 }, .ok ())

/-! ## The tracks -/

def gstreamerMediaTypeH264 : String := "video/x-h264"
def gstreamerMediaTypeH265 : String := "video/x-h265"
def gstreamerMediaTypeAac : String := "audio/mpeg"
def gstreamerMediaTypeAlaw : String := "audio/x-alaw"
def gstreamerMediaTypeMulaw : String := "audio/x-mulaw"
def maxGstreamerMediaTypeLen : ℕ := 16

/-- `strncmp(a, b, n) == 0`. -/
def strncmpEq (a b : String) (n : ℕ) : Bool := a.toList.take n == b.toList.take n

/-- What the walk of `init_track_data` changes besides the tracks themselves. -/
structure TrackScan where
  heap : Heap
  codecId : GCharPtr
  audioCodecId : GCharPtr
  videoContentType : GCharPtr := none
  audioContentType : GCharPtr := none

/-- `g_free(field); field = g_strdup(text)` on the field of the video codec. -/
def TrackScan.setCodecId (scan : TrackScan) (text : String) : TrackScan :=
  let (codecId, heap) := gStrdup (gFree scan.heap scan.codecId) text
  { scan with codecId := some codecId, heap }

/-- `g_free(field); field = g_strdup(text)` on the field of the audio codec. -/
def TrackScan.setAudioCodecId (scan : TrackScan) (text : String) : TrackScan :=
  let (audioCodecId, heap) := gStrdup (gFree scan.heap scan.audioCodecId) text
  { scan with audioCodecId := some audioCodecId, heap }

def TrackScan.setVideoContentType (scan : TrackScan) (text : String) : TrackScan :=
  let (videoContentType, heap) := gStrdup scan.heap text
  { scan with videoContentType := some videoContentType, heap }

def TrackScan.setAudioContentType (scan : TrackScan) (text : String) : TrackScan :=
  let (audioContentType, heap) := gStrdup scan.heap text
  { scan with audioContentType := some audioContentType, heap }

/-- The video branch of the walk. -/
def initVideoTrack (pic : Pic) (streamName : String) (caps : Option GstCaps) (scan : TrackScan) :
    TrackScan × Except Raised Unit :=
  match caps with
  | none =>
    (scan, .error (.runtimeError
      ("Error, GStreamer pad returned NULL caps. Pad has no peer for stream: " ++ streamName)))
  | some [] =>
    (scan, .error (.runtimeError ("Error, GStreamer caps are empty for stream: " ++ streamName)))
  | some (first :: _) =>
    if strncmpEq first.name gstreamerMediaTypeH264 maxGstreamerMediaTypeLen then
      (scan.setVideoContentType pic.mkvH264ContentType, .ok ())
    else if strncmpEq first.name gstreamerMediaTypeH265 maxGstreamerMediaTypeLen then
      ((scan.setCodecId defaultCodecIdH265).setVideoContentType pic.mkvH265ContentType, .ok ())
    else (scan, .error (.runtimeError
      ("Error, media type " ++ first.name ++ " not accepted by kvssink for " ++ streamName)))

/-- The audio branch of the walk. It does not look whether there are caps:
without any, the media type it compares is NULL. -/
def initAudioTrack (pic : Pic) (caps : Option GstCaps) (scan : TrackScan) :
    TrackScan × Except Raised Unit :=
  match caps with
  | none => (scan, .error .uncaught)
  | some [] => (scan, .error .uncaught)
  | some (first :: _) =>
    if strncmpEq first.name gstreamerMediaTypeAac maxGstreamerMediaTypeLen then
      (scan.setAudioContentType pic.mkvAacContentType, .ok ())
    else if strncmpEq first.name gstreamerMediaTypeAlaw maxGstreamerMediaTypeLen then
      ((scan.setAudioCodecId defaultAudioCodecIdPcm).setAudioContentType pic.mkvAlawContentType,
        .ok ())
    else if strncmpEq first.name gstreamerMediaTypeMulaw maxGstreamerMediaTypeLen then
      ((scan.setAudioCodecId defaultAudioCodecIdPcm).setAudioContentType pic.mkvMulawContentType,
        .ok ())
    else (scan, .error (.runtimeError
      ("Error, media type " ++ first.name ++ "not accepted by kvssink")))

/-- The track id a track leaves the walk with. -/
def initTrackId (mediaType : MediaType) (track : GstKvsSinkTrackData) : GstKvsSinkTrackData :=
  match mediaType, track.trackType with
  | .audioVideo, .video => { track with trackId := kvsSinkDefaultTrackId }
  | .audioVideo, .audio => { track with trackId := kvsSinkDefaultAudioTrackId }
  | _, _ => track

/-- The loop of `init_track_data`; an exception leaves the later tracks alone. -/
def initTracks (pic : Pic) (streamName : String) (mediaType : MediaType)
    (allowedCaps : PadId → Option GstCaps) :
    List GstKvsSinkTrackData → TrackScan → List GstKvsSinkTrackData × TrackScan × Except Raised Unit
  | [], scan => ([], scan, .ok ())
  | track :: rest, scan =>
    let (scanned, result) := match track.trackType with
      | .video => initVideoTrack pic streamName (allowedCaps track.pad) scan
      | .audio => initAudioTrack pic (allowedCaps track.pad) scan
    match result with
    | .error raised => (initTrackId mediaType track :: rest, scanned, .error raised)
    | .ok () =>
      let (tracks, final, result) := initTracks pic streamName mediaType allowedCaps rest scanned
      (initTrackId mediaType track :: tracks, final, result)

/-- The content type the switch of `init_track_data` stores, if it stores any. -/
def joinContentType (mediaType : MediaType) (video audio : GCharPtr) : Option String :=
  match mediaType, video, audio with
  | .audioVideo, some video, some audio => some (video.text ++ "," ++ audio.text)
  | .audioOnly, _, some audio => some audio.text
  | .videoOnly, some video, _ => some video.text
  | _, _, _ => none

/-- The switch that ends `init_track_data`, and the two temporary strings it frees. -/
def storeContentType (sink : GstKvsSink) (video audio : GCharPtr) : GstKvsSink :=
  match joinContentType sink.data.mediaType video audio with
  | some text =>
    let (contentType, heap) := gStrdup sink.heap text
    { sink with contentType := some contentType, heap := gFree (gFree heap video) audio }
  | none => { sink with heap := gFree (gFree sink.heap video) audio }

/-- `init_track_data`. -/
def initTrackData (pic : Pic) (sink : GstKvsSink) (outcome : ChangeStateOutcome) :
    GstKvsSink × Except Raised Unit :=
  let (tracks, scan, result) := initTracks pic (sink.streamName.getD "") sink.data.mediaType
    outcome.allowedCaps sink.collect
    { heap := sink.heap, codecId := sink.codecId, audioCodecId := sink.audioCodecId }
  let walked := { sink with
    collect := tracks, heap := scan.heap, codecId := scan.codecId, audioCodecId := scan.audioCodecId }
  match result with
  | .error raised => (walked, .error raised)
  | .ok () =>
    let stored := storeContentType walked scan.videoContentType scan.audioContentType
    (stored, (throwIfNull stored.contentType "kvssink->content_type").map fun _ => ())

/-! ## The stream -/

/-- The offline branch of `create_kinesis_video_stream`: seconds to nanoseconds
in the signed 64-bit representation of `std::chrono`. -/
def applyFileStartTime (sink : GstKvsSink) : GstKvsSink :=
  if sink.streamingType = .offline ∧ sink.fileStartTime ≠ 0 then
    { sink with
      absoluteFragmentTimes := true
      data := { sink.data with ptsBase := (sink.fileStartTime.toInt64 * 1000000000).toUInt64 } }
  else sink

/-- The switch on the media type of `create_kinesis_video_stream`. The audio-only
branch makes two owning fields point to one block. -/
def applyMediaType (sink : GstKvsSink) : GstKvsSink :=
  match sink.data.mediaType with
  | .audioVideo => { sink with framerate := max sink.framerate defaultStreamFramerateHighDensity }
  | .audioOnly =>
    let heap := gFree (gFree sink.heap sink.codecId) sink.trackName
    let (trackName, heap) := gStrdup heap defaultAudioTrackName
    { sink with
      codecId := sink.audioCodecId
      trackName := some trackName
      trackInfoType := .audio
      keyFrameFragmentation := false
      framerate := max sink.framerate defaultStreamFramerateHighDensity
      heap }
  | .videoOnly => sink

/-- The call of `gstructToMap` for the tags, if there are any. -/
def readStreamTags (streamTags : Option GstStructure) : Except Raised Bool × StringMap :=
  match streamTags with
  | none => (.ok false, ∅)
  | some tags => gstructToMap tags ∅

/-- The tags handed on, when they could be converted. -/
def parsedStreamTags (streamTags : Option GstStructure) : Option StringMap :=
  match readStreamTags streamTags with
  | (.ok true, map) => some map
  | _ => none

/-- The pointers that must not be NULL, in the order of the checks. -/
structure CheckedStrings where
  streamName : String
  contentType : GString
  kmsKeyId : String
  codecId : GString
  trackName : GString

def checkStrings (sink : GstKvsSink) : Except Raised CheckedStrings := do
  let streamName ← throwIfNull sink.streamName "kvssink->stream_name"
  let contentType ← throwIfNull sink.contentType "kvssink->content_type"
  let _ ← throwIfNull sink.userAgent "kvssink->user_agent"
  let kmsKeyId ← throwIfNull sink.kmsKeyId "kvssink->kms_key_id"
  let codecId ← throwIfNull sink.codecId "kvssink->codec_id"
  let trackName ← throwIfNull sink.trackName "kvssink->track_name"
  return { streamName, contentType, kmsKeyId, codecId, trackName }

/-- The configuration and default track that a sink declares, from the texts it read. -/
def streamConfiguration (sink : GstKvsSink) (streamName kmsKeyId contentType : String) :
    StreamConfiguration :=
  { streamName
    retentionPeriodHours := sink.retentionPeriodHours
    tags := parsedStreamTags sink.streamTags
    kmsKeyId
    streamingType := sink.streamingType
    contentType
    maxLatencySeconds := sink.maxLatencySeconds
    fragmentDurationMiliseconds := sink.fragmentDurationMiliseconds
    timecodeScaleMilliseconds := sink.timecodeScaleMilliseconds
    keyFrameFragmentation := sink.keyFrameFragmentation
    frameTimecodes := sink.frameTimecodes
    absoluteFragmentTimes := sink.absoluteFragmentTimes
    fragmentAcks := sink.fragmentAcks
    restartOnError := sink.restartOnError
    recalculateMetrics := sink.recalculateMetrics
    allowStreamCreation := sink.allowCreateStream
    frameRate := sink.framerate
    avgBandwidthBps := sink.avgBandwidthBps
    bufferDurationSeconds := sink.bufferDurationSeconds
    replayDurationSeconds := sink.replayDurationSeconds
    connectionStalenessSeconds := sink.connectionStalenessSeconds }

/-- The second track of an audio and video session. -/
def addAudioTrack (sink : GstKvsSink) (heap : Heap) (residue : ℕ → String)
    (definition : StreamDefinition) : Heap × Except Raised StreamDefinition :=
  match sink.data.mediaType with
  | .audioVideo =>
    match sink.audioCodecId with
    | none => (heap, .error .uncaught)
    | some audioCodecId =>
      let (codecId, heap) := readString heap (residue audioCodecId.address) audioCodecId
      (heap, .ok ((definition.addTrack
        { trackId := kvsSinkDefaultAudioTrackId, trackName := defaultAudioTrackName, codecId,
          trackType := .audio }).setFrameOrderMode .multiTrackAvComparePtsOneMsCompensateEofr))
  | _ => (heap, .ok definition)

/-- Building the `StreamDefinition` of one attempt. The source reads the tags
before the start time and the media type; what that throws ends the process, so
that nobody sees what these two write. -/
def defineStream (pic : Pic) (sink : GstKvsSink) (residue : ℕ → String) :
    Heap × Except Raised StreamDefinition :=
  match (readStreamTags sink.streamTags).1, checkStrings sink with
  | .error raised, _ => (sink.heap, .error raised)
  | .ok _, .error raised => (sink.heap, .error raised)
  | .ok _, .ok strings =>
    let (contentType, heap) :=
      readString sink.heap (residue strings.contentType.address) strings.contentType
    let (codecId, heap) := readString heap (residue strings.codecId.address) strings.codecId
    let (trackName, heap) := readString heap (residue strings.trackName.address) strings.trackName
    match StreamDefinition.new pic
        (streamConfiguration sink strings.streamName strings.kmsKeyId contentType)
        { trackId := kvsSinkDefaultTrackId, trackName, codecId, trackType := sink.trackInfoType } with
    | .error raised => (heap, .error raised)
    | .ok definition => addAudioTrack sink heap residue definition

/-- `KinesisVideoProducer::createStreamSync`, as far as the sink can tell. -/
def createStreamSync (pic : Pic) (sink : GstKvsSink) (definition : StreamDefinition)
    (status : Status) : GstKvsSink × Except Raised StreamId :=
  match sink.data.kinesisVideoProducer with
  | none => (sink, .error .uncaught)
  | some producer =>
    if pic.maxSupportedTrackCountPerStream < definition.getTrackCount then
      (sink.log (.createStreamSync producer definition none),
        .error (.runtimeError ("Exceeded maximum track count: " ++
          toString pic.maxSupportedTrackCountPerStream)))
    else if statusFailed status then
      (sink.log (.createStreamSync producer definition none),
        .error (.runtimeError (" Unable to create Kinesis Video stream. " ++ definition.streamName ++
          " Error status: 0x" ++ statusHex status)))
    else
      ({ sink.log (.createStreamSync producer definition (some sink.nextStream)) with
        nextStream := sink.nextStream + 1 }, .ok sink.nextStream)

/-- The stream that was created takes the place of the one held before. -/
def GstKvsSink.holdStream (sink : GstKvsSink) (stream : StreamId) : GstKvsSink :=
  { sink with data := { sink.data with kinesisVideoStream := some stream, frameCount := 0 } }

/-- `create_kinesis_video_stream`. -/
def createKinesisVideoStream (pic : Pic) (sink : GstKvsSink) (residue : ℕ → String)
    (status : Status) : GstKvsSink × Except Raised Unit :=
  let prepared := applyMediaType (applyFileStartTime sink)
  match defineStream pic prepared residue with
  | (heap, .error raised) => ({ prepared with heap }, .error raised)
  | (heap, .ok definition) =>
    match createStreamSync pic { prepared with heap } definition status with
    | (asked, .error raised) => (asked, .error raised)
    | (asked, .ok stream) => (asked.holdStream stream, .ok ())

def defaultTotalRetry : ℕ := 4

/-- The loop of `kinesis_video_stream_init` with its remaining `retry_count`. -/
def kinesisVideoStreamInitLoop (pic : Pic) (outcome : ChangeStateOutcome) :
    ℕ → GstKvsSink → GstKvsSink × Except Raised Unit
  | 0, sink => (sink, .error (.runtimeError ""))
  | retryCount + 1, sink =>
    match createKinesisVideoStream pic sink outcome.residue
        (outcome.createStatus (defaultTotalRetry - (retryCount + 1))) with
    | (created, .ok ()) => (created, .ok ())
    | (tried, .error (.runtimeError what)) =>
      if retryCount = 0 then (tried, .error (.runtimeError what))
      else kinesisVideoStreamInitLoop pic outcome retryCount tried
    -- an internal check is not retried, and anything else is not caught here
    | (tried, .error raised) => (tried, .error raised)

/-- `kinesis_video_stream_init`. -/
def kinesisVideoStreamInit (pic : Pic) (sink : GstKvsSink) (outcome : ChangeStateOutcome) :
    GstKvsSink × Except Raised Unit :=
  kinesisVideoStreamInitLoop pic outcome defaultTotalRetry sink

/-! ## State changes -/

inductive ChangeStateReturn where
  | success | failure | crash
  deriving DecidableEq, Repr

/-- The clean-up of `gst_kvs_sink_change_state` after an exception, or what an
exception that nobody catches does. -/
def failChangeState (sink : GstKvsSink) (message : String) (raised : Raised) :
    GstKvsSink × ChangeStateReturn :=
  match raised with
  | .uncaught => (sink.crash, .crash)
  | caught => (sink.log (.elementError (.libraryInit (message ++ caught.what))), .failure)

/-- The anchors of the live timeline are forgotten. -/
def GstKvsSink.forgetTimeline (sink : GstKvsSink) : GstKvsSink :=
  { sink with
    data := { sink.data with firstPts := gstClockTimeNone, producerStartTime := gstClockTimeNone } }

/-- What `gst_kvs_sink_change_state` does for NULL_TO_READY before the parent class. -/
def nullToReady (pic : Pic) (sink : GstKvsSink) (outcome : ChangeStateOutcome) :
    GstKvsSink × ChangeStateReturn :=
  match kinesisVideoProducerInit sink outcome with
  | (held, .error raised) => failChangeState held "Failed to init kvs producer. Error: " raised
  | (held, .ok ()) =>
    match initTrackData pic held outcome with
    | (walked, .error raised) =>
      failChangeState walked "Failed to init kvs producer. Error: " raised
    | (walked, .ok ()) =>
      match kinesisVideoStreamInit pic walked.forgetTimeline outcome with
      | (tried, .error raised) => failChangeState tried "Failed to create stream. Error: " raised
      | (created, .ok ()) => (created, .success)

/-- `gst_collect_pads_start` forgets the end-of-stream marks of an earlier session. -/
def GstKvsSink.collectPadsStart (sink : GstKvsSink) : GstKvsSink :=
  { sink with collect := sink.collect.map fun track => { track with eos := false } }

/-- The upward half of `gst_kvs_sink_change_state`. -/
def upwardTransition (pic : Pic) (sink : GstKvsSink) (transition : GstStateChange)
    (outcome : ChangeStateOutcome) : GstKvsSink × ChangeStateReturn :=
  match transition with
  | .nullToReady => nullToReady pic sink outcome
  | .readyToPaused => (sink.collectPadsStart, .success)
  | _ => (sink, .success)

/-- The downward half, which runs only after the parent class has succeeded. -/
def downwardTransition (sink : GstKvsSink) (transition : GstStateChange)
    (outcome : ChangeStateOutcome) : GstKvsSink × ChangeStateReturn :=
  match transition with
  | .pausedToReady =>
    match sink.data.kinesisVideoStream with
    | none => (sink.crash, .crash)
    | some stream => (sink.log (.stopSync stream outcome.stopped), .success)
  | _ => (sink, .success)

/-- `gst_kvs_sink_change_state`. -/
def gstKvsSinkChangeState (pic : Pic) (sink : GstKvsSink) (transition : GstStateChange)
    (outcome : ChangeStateOutcome) : GstKvsSink × ChangeStateReturn :=
  match upwardTransition pic sink transition outcome with
  | (sink, .success) =>
    if !outcome.parentChanged then
      (sink.log (.elementError (.libraryInit "")), .failure)
    else downwardTransition sink transition outcome
  | stopped => stopped

/-- `gst_kvs_sink_finalize`: the owning strings go, then the element's share of
the custom data, and with the last share the producer it owns. -/
def gstKvsSinkFinalize (sink : GstKvsSink) : GstKvsSink :=
  let heap := gFree (gFree (gFree (gFree sink.heap sink.contentType) sink.codecId) sink.trackName)
    sink.audioCodecId
  let released := { sink with heap, finalized := true, dataUseCount := sink.dataUseCount - 1 }
  if released.dataUseCount = 0 then destroyProducer released sink.data.kinesisVideoProducer
  else released

end KvsProducer
