import KvsProducer.Leases
import KvsProducer.StreamDefinition
import KvsProducer.ThreadSafeMap

/-! A `KinesisVideoProducer` with the streams it has built, the registry of its
active streams, and the record of what the client library did for it. The
library hands out stream handles and takes them back; who holds which handle is
read off its record. -/
namespace KvsProducer
open Gst Leases

/-- `STREAM_HANDLE`. -/
abbrev StreamHandle := UInt64

/-- `INVALID_STREAM_HANDLE_VALUE`; a stream asserts not to have it when it sends a frame. -/
def invalidStreamHandleValue : StreamHandle := 0

/-- `KinesisVideoStream` objects of one producer, numbered in the order of their construction. -/
abbrev StreamObject := ℕ

structure KinesisVideoStream where
  streamHandle : StreamHandle := invalidStreamHandleValue
  streamName : String
  freeKinesisVideoStreamFlag : Bool := false
  deriving DecidableEq, Repr

/-- What the client library did. -/
inductive ClientCall where
  | createdStream (stream : StreamObject) (handle : StreamHandle)
  | freedStream (stream : StreamObject) (handle : StreamHandle)
  | freedClient
  deriving DecidableEq, Repr

/-- Handles are leased to the objects that store them. -/
def ClientCall.turn : ClientCall → Option (Turn StreamObject StreamHandle)
  | .createdStream stream handle => some (.taken stream handle)
  | .freedStream stream handle => some (.returned stream handle)
  | .freedClient => none

structure KinesisVideoProducer where
  streams : List KinesisVideoStream := []
  activeStreams : ThreadSafeMap StreamHandle StreamObject := {}
  /-- The `shared_ptr`s to streams that the application holds, one entry each. -/
  held : List StreamObject := []
  clientCalls : List ClientCall := []
  destroyed : Bool := false

/-- What creating a stream in the client library can come to. A failure leaves
the handle invalid. -/
inductive CreateAnswer where
  | failed (status : Status)
  | created (handle : StreamHandle)

namespace KinesisVideoProducer

/-- `*getStreamHandle()`. -/
def handleOf (self : KinesisVideoProducer) (stream : StreamObject) : StreamHandle :=
  match self.streams[stream]? with
  | none => invalidStreamHandleValue
  | some object => object.streamHandle

def turns (self : KinesisVideoProducer) : List (Turn StreamObject StreamHandle) :=
  self.clientCalls.filterMap ClientCall.turn

/-- The object to which the client library has handed out the handle. -/
def owner (self : KinesisVideoProducer) (handle : StreamHandle) : Option StreamObject :=
  holder self.turns handle

/-- The library answers with a valid handle that nobody holds. A handle that was
freed may come again. -/
def mayAnswer (self : KinesisVideoProducer) : CreateAnswer → Bool
  | .failed status => statusFailed status
  | .created handle => handle != invalidStreamHandleValue && (self.owner handle).isNone

/-! ## One stream -/

/-- The constructor `KinesisVideoStream::KinesisVideoStream`. -/
def build (self : KinesisVideoProducer) (streamName : String) : KinesisVideoProducer :=
  { self with streams := self.streams ++ [{ streamName }] }

/-- `createKinesisVideoStream` when it succeeds. -/
def createKinesisVideoStream (self : KinesisVideoProducer) (stream : StreamObject)
    (handle : StreamHandle) : KinesisVideoProducer :=
  match self.streams[stream]? with
  | none => self
  | some object => { self with
      streams := self.streams.set stream { object with streamHandle := handle }
      clientCalls := self.clientCalls ++ [.createdStream stream handle] }

/-- `freeKinesisVideoStream` on the handle of the stream: an invalid handle is
left alone, a valid one released and made invalid. -/
def freeKinesisVideoStream (self : KinesisVideoProducer) (stream : StreamObject) :
    KinesisVideoProducer :=
  match self.streams[stream]? with
  | none => self
  | some object =>
    if object.streamHandle = invalidStreamHandleValue then self
    else { self with
      streams := self.streams.set stream { object with streamHandle := invalidStreamHandleValue }
      clientCalls := self.clientCalls ++ [.freedStream stream object.streamHandle] }

/-- `KinesisVideoStream::free`, under `std::call_once`. -/
def free (self : KinesisVideoProducer) (stream : StreamObject) : KinesisVideoProducer :=
  match self.streams[stream]? with
  | none => self
  | some object =>
    if object.freeKinesisVideoStreamFlag then self
    else freeKinesisVideoStream { self with
      streams := self.streams.set stream { object with freeKinesisVideoStreamFlag := true } } stream

/-- Giving up a `shared_ptr`: the last one runs `~KinesisVideoStream`, which frees. -/
def release (self : KinesisVideoProducer) (stream : StreamObject) : KinesisVideoProducer :=
  if self.held.contains stream || self.activeStreams.holds stream then self else self.free stream

/-- `active_streams_.put(*kinesis_video_stream->getStreamHandle(), kinesis_video_stream)`. -/
def putStream (self : KinesisVideoProducer) (stream : StreamObject) : KinesisVideoProducer :=
  { self with activeStreams := self.activeStreams.put (self.handleOf stream) stream }

def removeHandle (self : KinesisVideoProducer) (handle : StreamHandle) : KinesisVideoProducer :=
  { self with activeStreams := self.activeStreams.remove handle }

/-- The application gets the `shared_ptr` to a new stream. -/
def hold (self : KinesisVideoProducer) (stream : StreamObject) : KinesisVideoProducer :=
  { self with held := self.held ++ [stream] }

/-! ## The operations -/

/-- What `createStream` and `createStreamSync` have in common: they differ only
in the function of the library that they ask. -/
def createStreamWith (pic : Pic) (self : KinesisVideoProducer) (definition : StreamDefinition)
    (answer : CreateAnswer) : KinesisVideoProducer × Except Raised StreamObject :=
  if pic.maxSupportedTrackCountPerStream < definition.getTrackCount then
    (self, .error (.runtimeError ("Exceeded maximum track count: " ++
      toString pic.maxSupportedTrackCountPerStream)))
  else
    let stream := self.streams.length
    let built := self.build definition.streamName
    match answer with
    | .failed status =>
      (built.release stream, .error (.runtimeError (" Unable to create Kinesis Video stream. " ++
        definition.streamName ++ " Error status: 0x" ++ statusHex status)))
    | .created handle =>
      (((built.createKinesisVideoStream stream handle).putStream stream).hold stream, .ok stream)

/-- `KinesisVideoProducer::createStream`, with the answer of `createKinesisVideoStream`. -/
def createStream (pic : Pic) (self : KinesisVideoProducer) (definition : StreamDefinition)
    (answer : CreateAnswer) : KinesisVideoProducer × Except Raised StreamObject :=
  self.createStreamWith pic definition answer

/-- `KinesisVideoProducer::createStreamSync`, with the answer of `createKinesisVideoStreamSync`. -/
def createStreamSync (pic : Pic) (self : KinesisVideoProducer) (definition : StreamDefinition)
    (answer : CreateAnswer) : KinesisVideoProducer × Except Raised StreamObject :=
  self.createStreamWith pic definition answer

/-- `KinesisVideoProducer::freeStream`, where `shutdownStream` does not throw. -/
def freeStream (self : KinesisVideoProducer) (stream : Option StreamObject) :
    KinesisVideoProducer × Except Raised Unit :=
  match stream with
  | none => (self, .error (.runtimeError "Kinesis Video stream can't be null"))
  | some stream =>
    let streamHandle := self.handleOf stream
    ((self.free stream).removeHandle streamHandle, .ok ())

/-- The loop of `freeStreams`. The handler of an exception reads the name of the
stream, also of one that is missing. -/
def freeStreamsLoop : ℕ → KinesisVideoProducer → KinesisVideoProducer × Except Raised Unit
  | 0, self => (self, .ok ())
  | rounds + 1, self =>
    match self.activeStreams.getAt 0 with
    | none => (self, .error .uncaught)
    | some stream => freeStreamsLoop rounds ((self.freeStream (some stream)).1.release stream)

/-- `KinesisVideoProducer::freeStreams`. -/
def freeStreams (self : KinesisVideoProducer) : KinesisVideoProducer × Except Raised Unit :=
  freeStreamsLoop self.activeStreams.size self

/-- The members go after the body of the destructor, the registry with its `shared_ptr`s. -/
def dropRegistry (self : KinesisVideoProducer) : KinesisVideoProducer :=
  self.activeStreams.map.toList.foldl (fun self entry =>
    (self.removeHandle entry.1).release entry.2) self

/-- `KinesisVideoProducer::~KinesisVideoProducer`. -/
def destroy (self : KinesisVideoProducer) : KinesisVideoProducer × Except Raised Unit :=
  match self.freeStreams with
  | (freed, .error raised) => (freed, .error raised)
  | (freed, .ok ()) =>
    let closed : KinesisVideoProducer :=
      { freed with clientCalls := freed.clientCalls ++ [.freedClient], destroyed := true }
    (closed.dropRegistry, .ok ())

end KinesisVideoProducer

end KvsProducer
