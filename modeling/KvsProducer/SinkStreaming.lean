import KvsProducer.Sink

/-! What a kvssink does while pads are active: serialized events, buffers, and
the error reports that the callback thread leaves for the buffer handler. -/
namespace KvsProducer
open Gst

/-! ## Events -/

inductive SinkEvent where
  | caps (structure' : CapsStructure)
  | addMetadata (name value : String) (persist : Bool)
  | eos
  | other
  deriving DecidableEq, Repr

/-- What the surroundings answer during one event. -/
structure SinkEventOutcome where
  /-- `mkvgenGeneratePcmCpd` succeeded. -/
  pcmCpdGenerated : Bool := true
  /-- What `KinesisVideoStream::start` returned. -/
  started : Bool := true
  /-- What `putFragmentMetadata` returned. -/
  metadataAccepted : Bool := true
  /-- The status of the end-of-fragment frame. -/
  eofrStatus : Status := statusSuccess
  deriving DecidableEq, Repr

def isPcmMediaType (name : String) : Bool := name == "audio/x-alaw" || name == "audio/x-mulaw"

/-- `data->kinesis_video_stream->start(...)` for one track, and the element
error that a refusal posts. -/
def startStream (sink : GstKvsSink) (trackId : ℕ) (started : Bool) : GstKvsSink :=
  match sink.data.kinesisVideoStream with
  | none => sink.crash
  | some stream =>
    let sink := sink.log (.start stream trackId started)
    if started then sink else sink.log (.elementError .failedToStartStream)

/-- The GST_EVENT_CAPS case of `gst_kvs_sink_handle_sink_event`. -/
def handleCapsEvent (sink : GstKvsSink) (track : GstKvsSinkTrackData) (structure' : CapsStructure)
    (outcome : SinkEventOutcome) : GstKvsSink :=
  if isPcmMediaType structure'.name then
    if structure'.rate.getD 0 == 0 || structure'.channels.getD 0 == 0 then sink
    else if !outcome.pcmCpdGenerated then sink
    else startStream sink track.trackId outcome.started
  else if track.trackId ∉ sink.data.trackCpdReceived ∧ structure'.codecData.isSome then
    -- the track is recorded before the stream is asked
    let sink := { sink with data := { sink.data with
      trackCpdReceived := insert track.trackId sink.data.trackCpdReceived } }
    startStream sink track.trackId outcome.started
  else sink

/-- The GST_EVENT_EOS case: one end-of-fragment frame and one message, whatever
the other pads are doing. -/
def handleEosEvent (sink : GstKvsSink) (outcome : SinkEventOutcome) : GstKvsSink :=
  let sink := match sink.data.kinesisVideoStream with
    | some stream => sink.log (.putEofr stream outcome.eofrStatus)
    | none => sink
  sink.log .postEos

/-- `gst_kvs_sink_handle_sink_event`. -/
def gstKvsSinkHandleSinkEvent (sink : GstKvsSink) (track : GstKvsSinkTrackData) (event : SinkEvent)
    (outcome : SinkEventOutcome) : GstKvsSink :=
  match event with
  | .caps structure' => handleCapsEvent sink track structure' outcome
  | .addMetadata name value persist =>
    match sink.data.kinesisVideoStream with
    | none => sink.crash
    | some stream =>
      sink.log (.putFragmentMetadata stream name value persist outcome.metadataAccepted)
  | .eos => handleEosEvent sink outcome
  | .other => sink

/-- `gst_collect_pads_event_default` marks the pad that has ended. -/
def markEos (pad : PadId) (track : GstKvsSinkTrackData) : GstKvsSinkTrackData :=
  if track.pad == pad then { track with eos := true } else track

/-! ## Error reports -/

/-- `KvsSinkStreamCallbackProvider::streamErrorReportHandler`. -/
def streamErrorReportHandler (pic : Pic) (sink : GstKvsSink) (status : Status) : GstKvsSink :=
  let sink := sink.log (.streamErrorReport status)
  if !pic.isRecoverableError status then
    { sink with data := { sink.data with streamStatus := status } }
  else sink

/-! ## Buffers -/

/-- What the surroundings answer while one buffer is handled. -/
structure BufferOutcome where
  /-- What `resetStream` returned. -/
  resetDone : Bool := true
  /-- `gst_buffer_map` succeeded. -/
  mapped : Bool := true
  /-- `systemCurrentTime()` in nanoseconds. -/
  now : UInt64 := 0
  /-- The status of `putKinesisVideoFrame`. -/
  putStatus : Status := statusSuccess
  /-- `getKinesisVideoStreamMetrics` succeeded when `put_frame` asked. -/
  streamMetricsRead : Bool := true
  /-- `getKinesisVideoMetrics` succeeded when `put_frame` asked. -/
  clientMetricsRead : Bool := true
  deriving DecidableEq, Repr

def defaultTimeUnitInNanos : UInt64 := 100
def hundredsOfNanosInAMillisecond : UInt64 := 10000
def defaultFrameDurationMs : UInt64 := 2

/-- `std::chrono::nanoseconds(value)` and back through `count()`: a signed
64-bit representation in between. -/
def throughNanoseconds (value : UInt64) : UInt64 := value.toInt64.toUInt64

/-- `create_kinesis_video_frame`. -/
def createKinesisVideoFrame (pts dts : UInt64) (flags : FrameFlags) (frameData : List UInt8)
    (trackId : ℕ) (index : UInt32) : Frame where
  flags := flags
  index := index
  decodingTs := throughNanoseconds dts / defaultTimeUnitInNanos
  presentationTs := throughNanoseconds pts / defaultTimeUnitInNanos
  duration := 0
  size := UInt32.ofNat frameData.length
  frameData := frameData
  trackId := trackId

/-- How `put_frame` ends: with the status of the frame, or with the exception
of `getMetrics` after the frame was submitted. -/
inductive PutFrameEnd where
  | returned (status : Status)
  | threw
  | nullStream
  deriving DecidableEq, Repr

/-- The metrics are read after a successful put of a key frame, or of the
first frame, when the property asks for them. -/
def readsMetrics (sink : GstKvsSink) (flags : FrameFlags) (putStatus : Status) : Bool :=
  sink.data.getMetrics && !statusFailed putStatus &&
    (flags == .keyFrame || sink.data.onFirstFrame)

/-- `data->on_first_frame = false`. -/
def GstKvsSink.noteFirstFrame (sink : GstKvsSink) : GstKvsSink :=
  { sink with data := { sink.data with onFirstFrame := false } }

/-- `put_frame`. The metrics that `statusPutFrame` prints on its own are caught
there and leave no trace. -/
def putFrame (sink : GstKvsSink) (frameData : List UInt8) (pts dts : UInt64) (flags : FrameFlags)
    (trackId : ℕ) (index : UInt32) (outcome : BufferOutcome) : GstKvsSink × PutFrameEnd :=
  match sink.data.kinesisVideoStream with
  | none => (sink, .nullStream)
  | some stream =>
    let frame := createKinesisVideoFrame pts dts flags frameData trackId index
    let submitted := sink.log (.statusPutFrame stream frame outcome.putStatus)
    if readsMetrics sink flags outcome.putStatus then
      if !outcome.streamMetricsRead || !outcome.clientMetricsRead then (submitted, .threw)
      else
        let emitted := submitted.log (.emitMetrics frame.presentationTs sink.data.onFirstFrame)
        (emitted.noteFirstFrame, .returned outcome.putStatus)
    else (submitted, .returned outcome.putStatus)

/-- The buffers that are dropped for their flags. -/
def isDroppable (buffer : GstBuffer) : Bool :=
  buffer.flagIsSet bufferFlagCorrupted ||
  buffer.flagIsSet bufferFlagDecodeOnly ||
  buffer.flags == bufferFlagDiscont ||
  (buffer.flagIsSet bufferFlagDiscont && buffer.flagIsSet bufferFlagDeltaUnit) ||
  (buffer.flagIsSet bufferFlagHeader && (!buffer.ptsIsValid || !buffer.dtsIsValid))

/-- The timestamps a buffer has before it is mapped. -/
def settleTimestamps (sink : GstKvsSink) (buffer : GstBuffer) : GstBuffer :=
  if isOfflineStreamingMode sink.streamingType then
    if !sink.data.useOriginalPts then
      { buffer with dts := 0, pts := buffer.pts + sink.data.ptsBase }
    else { buffer with pts := buffer.dts }
  else if !buffer.dtsIsValid then
    { buffer with
      dts := sink.data.lastDts +
        defaultFrameDurationMs * hundredsOfNanosInAMillisecond * defaultTimeUnitInNanos }
  else buffer

/-- The flags of the frame made from a buffer of this track. -/
def frameFlagsOf (mediaType : MediaType) (trackType : MkvTrackInfoType) (delta : Bool) : FrameFlags :=
  match mediaType with
  | .audioOnly | .videoOnly => if !delta then .keyFrame else .none
  | .audioVideo => if !delta && trackType == .video then .keyFrame else .none

/-- The element remembers that a key frame of the video track went by. -/
def noteVideoKeyFrame (sink : GstKvsSink) (track : GstKvsSinkTrackData) (delta : Bool) : GstKvsSink :=
  if sink.data.mediaType = .audioVideo ∧ delta = false ∧ track.trackType = .video then
    { sink with data := { sink.data with firstVideoFrame := false } }
  else sink

/-- The live timeline: its two anchors are set by the first buffer that gets
here, and the presentation time is moved by their difference. -/
def anchorTimeline (sink : GstKvsSink) (buffer : GstBuffer) (now : UInt64) : GstKvsSink × GstBuffer :=
  if isOfflineStreamingMode sink.streamingType then (sink, buffer)
  else
    let firstPts := if sink.data.firstPts = gstClockTimeNone then buffer.pts else sink.data.firstPts
    let producerStartTime :=
      if sink.data.producerStartTime = gstClockTimeNone then now else sink.data.producerStartTime
    let sink := { sink with data := { sink.data with firstPts, producerStartTime } }
    if !sink.data.useOriginalPts then
      (sink, { buffer with pts := buffer.pts + (producerStartTime - firstPts) })
    else (sink, { buffer with pts := buffer.dts })

/-- The CleanUp label: the buffer, if there is one, is given back, and a failed
put is reported. -/
def cleanUpBuffer (sink : GstKvsSink) (arrived : Bool) (putStatus : Status) (ret : GstFlowReturn) :
    GstKvsSink :=
  let sink := if arrived then sink.log .releaseBuffer else sink
  let sink := if statusFailed putStatus then sink.log (.putFrameWarning putStatus) else sink
  sink.log (.bufferDone ret)

/-- `data->frame_count++`. -/
def GstKvsSink.countFrame (sink : GstKvsSink) : GstKvsSink :=
  { sink with data := { sink.data with frameCount := sink.data.frameCount + 1 } }

/-- `data->last_dts = buf->dts`. -/
def GstKvsSink.noteDts (sink : GstKvsSink) (buffer : GstBuffer) : GstKvsSink :=
  { sink with data := { sink.data with lastDts := buffer.dts } }

/-- The mapped buffer becomes a frame. An exception leaves the handler, and
nothing between it and the C caller catches it. -/
def submitBuffer (sink : GstKvsSink) (track : GstKvsSinkTrackData) (buffer : GstBuffer)
    (outcome : BufferOutcome) : GstKvsSink :=
  let delta := buffer.flagIsSet bufferFlagDeltaUnit
  let flags := frameFlagsOf sink.data.mediaType track.trackType delta
  let (sink, buffer) := anchorTimeline (noteVideoKeyFrame sink track delta) buffer outcome.now
  match putFrame sink buffer.bytes buffer.pts buffer.dts flags track.trackId sink.data.frameCount
      outcome with
  | (sink, .returned status) => cleanUpBuffer sink.countFrame true status .ok
  | (sink, .threw) => sink.crash
  | (sink, .nullStream) => sink.crash

/-- `gst_kvs_sink_handle_buffer` from the test `buf != NULL` on. -/
def handleArrivedBuffer (sink : GstKvsSink) (track : GstKvsSinkTrackData) (buffer : GstBuffer)
    (outcome : BufferOutcome) : GstKvsSink :=
  if isDroppable buffer then cleanUpBuffer sink true statusSuccess .ok
  else
    let settled := settleTimestamps sink buffer
    if !outcome.mapped then cleanUpBuffer (sink.noteDts settled) true statusSuccess .ok
    else submitBuffer (sink.noteDts settled) track settled outcome

/-- What the loaded status makes of a buffer. -/
inductive StreamErrorGate where
  | proceed | fatal | reset
  deriving DecidableEq, Repr

def streamErrorGate (pic : Pic) (streamingType : StreamingType) (status : Status) : StreamErrorGate :=
  if statusFailed status then
    if isOfflineStreamingMode streamingType || !pic.isRetriableError status then .fatal else .reset
  else .proceed

/-- The fatal branch of the handler. -/
def failBuffer (sink : GstKvsSink) (arrived : Bool) (status : Status) : GstKvsSink :=
  cleanUpBuffer (sink.log (.elementError (.streamError status))) arrived statusSuccess .error

/-- `data->kinesis_video_stream->resetStream()`, whose result is not looked at. -/
def resetHeldStream (sink : GstKvsSink) (outcome : BufferOutcome) : GstKvsSink :=
  match sink.data.kinesisVideoStream with
  | none => sink.crash
  | some stream => sink.log (.resetStream stream outcome.resetDone)

/-- `data->stream_status = STATUS_SUCCESS`. -/
def clearStreamStatus (sink : GstKvsSink) : GstKvsSink :=
  { sink with data := { sink.data with streamStatus := statusSuccess } }

/-- The rest of the handler once the error gate has let the call through. -/
def handleBufferBody (sink : GstKvsSink) (arrival : Option (GstKvsSinkTrackData × GstBuffer))
    (outcome : BufferOutcome) : GstKvsSink :=
  match arrival with
  | none => cleanUpBuffer sink false statusSuccess .ok
  | some (track, buffer) => handleArrivedBuffer sink track buffer outcome

/-- `gst_kvs_sink_handle_buffer`. GstCollectPads calls it without a buffer once
all pads have ended. -/
def gstKvsSinkHandleBuffer (pic : Pic) (sink : GstKvsSink)
    (arrival : Option (GstKvsSinkTrackData × GstBuffer)) (outcome : BufferOutcome) : GstKvsSink :=
  let sink := sink.log .bufferArrived
  match streamErrorGate pic sink.streamingType sink.data.streamStatus with
  | .fatal => failBuffer sink arrival.isSome sink.data.streamStatus
  | .reset =>
    let sink := resetHeldStream sink outcome
    if sink.crashed then sink else handleBufferBody (clearStreamStatus sink) arrival outcome
  | .proceed => handleBufferBody sink arrival outcome

end KvsProducer
