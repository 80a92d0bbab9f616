import Mathlib.Data.List.Basic

/-! The part of GStreamer and of the C producer that a sink sees: element
states, caps, buffers, and the values the C producer decides. Flags and clock
times keep their machine width, because the sink computes with them. -/
namespace KvsProducer.Gst

inductive GstState where
  | null | ready | paused | playing
  deriving DecidableEq, Repr

inductive GstStateChange where
  | nullToReady | readyToPaused | pausedToPlaying
  | playingToPaused | pausedToReady | readyToNull
  deriving DecidableEq, Repr

/-- The state an element must be in for GStreamer to ask for the change. -/
def GstStateChange.current : GstStateChange → GstState
  | .nullToReady => .null
  | .readyToPaused => .ready
  | .pausedToPlaying => .paused
  | .playingToPaused => .playing
  | .pausedToReady => .paused
  | .readyToNull => .ready

/-- The state an element is in once the change has succeeded. -/
def GstStateChange.next : GstStateChange → GstState
  | .nullToReady => .ready
  | .readyToPaused => .paused
  | .pausedToPlaying => .playing
  | .playingToPaused => .paused
  | .pausedToReady => .ready
  | .readyToNull => .null

/-- Pads carry buffers and serialized events only while they are active. -/
def GstState.streaming : GstState → Bool
  | .null | .ready => false
  | .paused | .playing => true

inductive GstFlowReturn where
  | ok | error
  deriving DecidableEq, Repr

abbrev PadId := ℕ

/-- One structure of a `GstCaps`: its media type name and the fields the sink reads. -/
structure CapsStructure where
  name : String
  rate : Option Int := none
  channels : Option Int := none
  codecData : Option String := none
  deriving DecidableEq, Repr

abbrev GstCaps := List CapsStructure

abbrev GstClockTime := UInt64

def gstClockTimeNone : GstClockTime := 0xFFFFFFFFFFFFFFFF

def bufferFlagDecodeOnly : UInt32 := 0x20
def bufferFlagDiscont : UInt32 := 0x40
def bufferFlagCorrupted : UInt32 := 0x100
def bufferFlagHeader : UInt32 := 0x400
def bufferFlagDeltaUnit : UInt32 := 0x2000

structure GstBuffer where
  flags : UInt32
  pts : GstClockTime
  dts : GstClockTime
  bytes : List UInt8
  deriving DecidableEq, Repr

/-- `GST_BUFFER_FLAG_IS_SET`. -/
def GstBuffer.flagIsSet (buffer : GstBuffer) (flag : UInt32) : Bool := buffer.flags &&& flag != 0

/-- `GST_BUFFER_PTS_IS_VALID`. -/
def GstBuffer.ptsIsValid (buffer : GstBuffer) : Bool := buffer.pts != gstClockTimeNone

/-- `GST_BUFFER_DTS_IS_VALID`. -/
def GstBuffer.dtsIsValid (buffer : GstBuffer) : Bool := buffer.dts != gstClockTimeNone

/-- A `STATUS` of the C producer. -/
abbrev Status := UInt32

def statusSuccess : Status := 0

def statusFailed (status : Status) : Bool := status != statusSuccess

/-- A status as `std::hex` prints it. -/
def statusHex (status : Status) : String := String.ofList (Nat.toDigits 16 status.toNat)

inductive StreamingType where
  | realtime | nearRealtime | offline
  deriving DecidableEq, Repr

def isOfflineStreamingMode (streamingType : StreamingType) : Bool :=
  streamingType == .offline

inductive MkvTrackInfoType where
  | video | audio
  deriving DecidableEq, Repr

inductive FrameFlags where
  | none | keyFrame
  deriving DecidableEq, Repr

/-- What the headers of the C producer fix: its two classes of errors, its names
for content types and the lengths it admits. They are not part of this repository. -/
structure Pic where
  isRecoverableError : Status → Bool
  isRetriableError : Status → Bool
  mkvH264ContentType : String
  mkvH265ContentType : String
  mkvAacContentType : String
  mkvAlawContentType : String
  mkvMulawContentType : String
  maxStreamNameLen : ℕ
  maxArnLen : ℕ
  maxContentTypeLen : ℕ
  mkvMaxCodecIdLen : ℕ
  mkvMaxTrackNameLen : ℕ
  maxSupportedTrackCountPerStream : ℕ
  tagCurrentVersion : ℕ
  maxTagNameLen : ℕ
  maxTagValueLen : ℕ

/-- Headers under which 1 is a recoverable status and 2 one that may be retried. -/
def Pic.sample : Pic where
  isRecoverableError status := status == 1
  isRetriableError status := status == 2
  mkvH264ContentType := "video/h264"
  mkvH265ContentType := "video/h265"
  mkvAacContentType := "audio/aac"
  mkvAlawContentType := "audio/alaw"
  mkvMulawContentType := "audio/mulaw"
  maxStreamNameLen := 256
  maxArnLen := 1024
  maxContentTypeLen := 128
  mkvMaxCodecIdLen := 32
  mkvMaxTrackNameLen := 32
  maxSupportedTrackCountPerStream := 3
  tagCurrentVersion := 0
  maxTagNameLen := 128
  maxTagValueLen := 1024

/-- How a C++ function ends when it does not return. Only a `runtime_error` is
caught by the callers of this repository; anything else ends the process. -/
inductive Raised where
  | internalCheck (pointer : String)
  | runtimeError (what : String)
  | uncaught
  deriving DecidableEq, Repr

/-- `KVSSINK_THROW_IF_NULL`. -/
def throwIfNull (pointer : Option α) (name : String) : Except Raised α :=
  match pointer with
  | some value => .ok value
  | none => .error (.internalCheck name)

theorem throw_if_null_ok {pointer : Option α} (passed : throwIfNull pointer name = .ok value) :
    pointer = some value := by
  cases pointer <;> cases passed
  rfl

theorem throw_if_null_error {pointer : Option α} (threw : throwIfNull pointer name = .error raised) :
    pointer = none := by
  cases pointer <;> cases threw
  rfl

theorem throw_if_null_caught {pointer : Option α} (threw : throwIfNull pointer name = .error raised) :
    raised ≠ .uncaught := by
  cases pointer <;> cases threw
  nofun

/-- `err.what()`, with the prefix that marks an internal check. -/
def Raised.what : Raised → String
  | .internalCheck pointer => "Assertion failed: " ++ pointer ++ " is unexpectedly NULL!"
  | .runtimeError what => what
  | .uncaught => ""

end KvsProducer.Gst
