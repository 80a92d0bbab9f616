import KvsProducer.KinesisVideoProducer
import KvsProducer.Recoverability

/-! The events of the client library on their way to an element. The default
callback provider hands each of them to the provider of the stream or of the
client, if that has a callback for it; the providers of kvssink let two of them
through to the application, and of those the element itself hears one. -/
namespace KvsProducer
open Gst Runs

/-- `UPLOAD_HANDLE`. -/
abbrev UploadHandle := UInt64

inductive FragmentAckType where
  | undefined | buffering | received | persisted | error | idle
  deriving DecidableEq, Repr

structure FragmentAck where
  ackType : FragmentAckType
  timestamp : UInt64
  deriving DecidableEq, Repr

/-- An event as the library reports it, with all it carries. -/
inductive LibraryEvent where
  | streamUnderflowReport (stream : StreamHandle)
  | streamLatencyPressure (stream : StreamHandle) (bufferDuration : UInt64)
  | droppedFrameReport (stream : StreamHandle) (timecode : UInt64)
  | droppedFragmentReport (stream : StreamHandle) (timecode : UInt64)
  | bufferDurationOverflowPressure (stream : StreamHandle) (remainingDuration : UInt64)
  | streamConnectionStale (stream : StreamHandle) (lastAckDuration : UInt64)
  | streamErrorReport (stream : StreamHandle) (upload : UploadHandle) (fragmentTimecode : UInt64) (status : Status)
  | streamReady (stream : StreamHandle)
  | streamClosed (stream : StreamHandle) (upload : UploadHandle)
  | streamDataAvailable (stream : StreamHandle) (streamName : String) (upload : UploadHandle)
      (durationAvailable sizeAvailable : UInt64)
  | fragmentAckReceived (stream : StreamHandle) (upload : UploadHandle) (fragmentAck : Option FragmentAck)
  | clientReady (client : UInt64)
  | storageOverflowPressure (bytesRemaining : UInt64)

section Providers
variable (State : Type)

/-- A callback, with what it does to the object behind the custom data. -/
abbrev Callback := State → State × Status

/-- `StreamCallbackProvider`, whose callbacks are all optional. There are two for
the buffer duration, and `getBufferDurationOverFlowCallback` has no caller. -/
structure StreamCallbackProvider where
  bufferDurationOverFlow : Option (StreamHandle → UInt64 → Callback State) := none
  streamUnderflowReport : Option (StreamHandle → Callback State) := none
  streamLatencyPressure : Option (StreamHandle → UInt64 → Callback State) := none
  droppedFrameReport : Option (StreamHandle → UInt64 → Callback State) := none
  streamConnectionStale : Option (StreamHandle → UInt64 → Callback State) := none
  droppedFragmentReport : Option (StreamHandle → UInt64 → Callback State) := none
  streamErrorReport : Option (StreamHandle → UploadHandle → UInt64 → Status → Callback State) := none
  streamReady : Option (StreamHandle → Callback State) := none
  streamClosed : Option (StreamHandle → UploadHandle → Callback State) := none
  streamDataAvailable : Option (StreamHandle → String → UploadHandle → UInt64 → UInt64 → Callback State) := none
  fragmentAckReceived : Option (StreamHandle → UploadHandle → Option FragmentAck → Callback State) := none
  bufferDurationOverflowPressure : Option (StreamHandle → UInt64 → Callback State) := none

structure ClientCallbackProvider where
  clientReady : Option (UInt64 → Callback State) := none
  storageOverflowPressure : Option (UInt64 → Callback State) := none

structure DefaultCallbackProvider where
  clientCallbackProvider : ClientCallbackProvider State
  streamCallbackProvider : StreamCallbackProvider State

end Providers

/-! ## The default callback provider -/

namespace DefaultCallbackProvider
variable {State : Type} (self : DefaultCallbackProvider State)

/-- What the handlers have in common: the callback is asked if there is one. -/
def forward (callback : Option (Callback State)) : Callback State := fun state =>
  match callback with
  | some callback => callback state
  | none => (state, statusSuccess)

def streamUnderflowReportHandler (stream : StreamHandle) : Callback State :=
  forward (self.streamCallbackProvider.streamUnderflowReport.map (· stream))

def streamLatencyPressureHandler (stream : StreamHandle) (bufferDuration : UInt64) : Callback State :=
  forward (self.streamCallbackProvider.streamLatencyPressure.map (· stream bufferDuration))

def droppedFrameReportHandler (stream : StreamHandle) (timecode : UInt64) : Callback State :=
  forward (self.streamCallbackProvider.droppedFrameReport.map (· stream timecode))

def droppedFragmentReportHandler (stream : StreamHandle) (timecode : UInt64) : Callback State :=
  forward (self.streamCallbackProvider.droppedFragmentReport.map (· stream timecode))

def bufferDurationOverflowPressureHandler (stream : StreamHandle) (remainingDuration : UInt64) : Callback State :=
  forward (self.streamCallbackProvider.bufferDurationOverflowPressure.map (· stream remainingDuration))

def streamConnectionStaleHandler (stream : StreamHandle) (lastAckDuration : UInt64) : Callback State :=
  forward (self.streamCallbackProvider.streamConnectionStale.map (· stream lastAckDuration))

def streamErrorHandler (stream : StreamHandle) (upload : UploadHandle) (fragmentTimecode : UInt64)
    (status : Status) : Callback State :=
  forward (self.streamCallbackProvider.streamErrorReport.map (· stream upload fragmentTimecode status))

def streamReadyHandler (stream : StreamHandle) : Callback State :=
  forward (self.streamCallbackProvider.streamReady.map (· stream))

/-- The status of the callback is logged and not returned. -/
def streamClosedHandler (stream : StreamHandle) (upload : UploadHandle) : Callback State := fun state =>
  match self.streamCallbackProvider.streamClosed with
  | some callback => ((callback stream upload state).1, statusSuccess)
  | none => (state, statusSuccess)

def streamDataAvailableHandler (stream : StreamHandle) (streamName : String) (upload : UploadHandle)
    (durationAvailable sizeAvailable : UInt64) : Callback State :=
  forward (self.streamCallbackProvider.streamDataAvailable.map
    (· stream streamName upload durationAvailable sizeAvailable))

def fragmentAckReceivedHandler (stream : StreamHandle) (upload : UploadHandle)
    (fragmentAck : Option FragmentAck) : Callback State :=
  forward (self.streamCallbackProvider.fragmentAckReceived.map (· stream upload fragmentAck))

def clientReadyHandler (client : UInt64) : Callback State :=
  forward (self.clientCallbackProvider.clientReady.map (· client))

def storageOverflowPressureHandler (bytesRemaining : UInt64) : Callback State :=
  forward (self.clientCallbackProvider.storageOverflowPressure.map (· bytesRemaining))

/-- The handler of each event, as `getStreamCallbacks` and `getProducerCallbacks` name them. -/
def handle : LibraryEvent → Callback State
  | .streamUnderflowReport stream => self.streamUnderflowReportHandler stream
  | .streamLatencyPressure stream bufferDuration => self.streamLatencyPressureHandler stream bufferDuration
  | .droppedFrameReport stream timecode => self.droppedFrameReportHandler stream timecode
  | .droppedFragmentReport stream timecode => self.droppedFragmentReportHandler stream timecode
  | .bufferDurationOverflowPressure stream remainingDuration =>
    self.bufferDurationOverflowPressureHandler stream remainingDuration
  | .streamConnectionStale stream lastAckDuration => self.streamConnectionStaleHandler stream lastAckDuration
  | .streamErrorReport stream upload fragmentTimecode status =>
    self.streamErrorHandler stream upload fragmentTimecode status
  | .streamReady stream => self.streamReadyHandler stream
  | .streamClosed stream upload => self.streamClosedHandler stream upload
  | .streamDataAvailable stream streamName upload durationAvailable sizeAvailable =>
    self.streamDataAvailableHandler stream streamName upload durationAvailable sizeAvailable
  | .fragmentAckReceived stream upload fragmentAck => self.fragmentAckReceivedHandler stream upload fragmentAck
  | .clientReady client => self.clientReadyHandler client
  | .storageOverflowPressure bytesRemaining => self.storageOverflowPressureHandler bytesRemaining

end DefaultCallbackProvider

/-! ## The providers of kvssink -/

/-- A signal of the element, `stream-error` or `fragment-ack`. -/
inductive Signal where
  | streamError (status : Status)
  | fragmentAck (fragmentAck : FragmentAck)
  deriving DecidableEq, Repr

/-- An element with what its application and the library see of the callbacks. -/
structure ObservedElement where
  sink : GstKvsSink
  signals : List Signal := []
  /-- What the library got back, event by event. -/
  answers : List Status := []
  /-- Uses of `data->kvs_sink` after the end of the element, but for error reports. -/
  lateUses : ℕ := 0
  /-- A stream name that is NULL was made a `std::string`. -/
  namelessClosed : Bool := false

/-- `g_signal_emit` on `data->kvs_sink`. -/
def ObservedElement.emit (element : ObservedElement) (signal : Signal) : ObservedElement :=
  if element.sink.finalized then { element with lateUses := element.lateUses + 1 }
  else { element with signals := element.signals ++ [signal] }

namespace KvsSinkStreamCallbackProvider

/-- The handlers that only log what they are told. -/
def logged : Callback ObservedElement := fun element => (element, statusSuccess)

def streamErrorReportHandler (pic : Pic) (status : Status) : Callback ObservedElement := fun element =>
  let reported := { element with sink := streamErrorReport pic element.sink status }
  if !pic.isRecoverableError status then (reported.emit (.streamError status), statusSuccess)
  else (reported, statusSuccess)

def streamClosedHandler : Callback ObservedElement := fun element =>
  if element.sink.finalized then ({ element with lateUses := element.lateUses + 1 }, statusSuccess)
  else
    match element.sink.streamName with
    | some _ => (element, statusSuccess)
    | none => ({ element with namelessClosed := true }, statusSuccess)

def fragmentAckReceivedHandler (fragmentAck : Option FragmentAck) : Callback ObservedElement := fun element =>
  match fragmentAck with
  | some ack => (element.emit (.fragmentAck ack), statusSuccess)
  | none => (element, statusSuccess)

end KvsSinkStreamCallbackProvider

open KvsSinkStreamCallbackProvider in
/-- `KvsSinkStreamCallbackProvider`. Its callback for the buffer duration is the one without a caller. -/
def kvsSinkStreamCallbackProvider (pic : Pic) : StreamCallbackProvider ObservedElement where
  bufferDurationOverFlow := some fun _ _ => logged
  streamUnderflowReport := some fun _ => logged
  streamConnectionStale := some fun _ _ => logged
  streamErrorReport := some fun _ _ _ status => KvsSinkStreamCallbackProvider.streamErrorReportHandler pic status
  droppedFrameReport := some fun _ _ => logged
  streamLatencyPressure := some fun _ _ => logged
  droppedFragmentReport := some fun _ _ => logged
  streamClosed := some fun _ _ => streamClosedHandler
  fragmentAckReceived := some fun _ _ fragmentAck => fragmentAckReceivedHandler fragmentAck

/-- `KvsSinkClientCallbackProvider`. -/
def kvsSinkClientCallbackProvider : ClientCallbackProvider ObservedElement where
  storageOverflowPressure := some fun _ => KvsSinkStreamCallbackProvider.logged

/-- The provider that `kinesis_video_producer_init` makes. -/
def kvsSinkCallbackProvider (pic : Pic) : DefaultCallbackProvider ObservedElement :=
  ⟨kvsSinkClientCallbackProvider, kvsSinkStreamCallbackProvider pic⟩

/-! ## The element and the library -/

inductive ObservedInput where
  | element (input : Input)
  | library (event : LibraryEvent)

def ObservedElement.accepts (element : ObservedElement) : ObservedInput → Bool
  | .element (.streamErrorReport _) => false
  | .element input => !element.namelessClosed && KvsProducer.accepts element.sink input
  | .library _ => !element.namelessClosed && !element.sink.crashed && element.sink.callbackPossible

def ObservedElement.apply (pic : Pic) (element : ObservedElement) : ObservedInput → ObservedElement
  | .element input => { element with sink := applyInput pic element.sink input }
  | .library event =>
    let (after, status) := (kvsSinkCallbackProvider pic).handle event element
    { after with answers := after.answers ++ [status] }

def observedStep (pic : Pic) (element : ObservedElement) (input : ObservedInput) : Option ObservedElement :=
  if element.accepts input then some (element.apply pic input) else none

/-- What the element hears of an input. -/
def ObservedInput.heard : ObservedInput → Option Input
  | .element input => some input
  | .library (.streamErrorReport _ _ _ status) => some (.streamErrorReport status)
  | .library _ => none

/-- What the application is told of an input. -/
def ObservedInput.signal (pic : Pic) : ObservedInput → Option Signal
  | .library (.streamErrorReport _ _ _ status) =>
    if pic.isRecoverableError status then none else some (.streamError status)
  | .library (.fragmentAckReceived _ _ fragmentAck) => fragmentAck.map .fragmentAck
  | _ => none

def ObservedInput.closesStream : ObservedInput → Bool
  | .library (.streamClosed _ _) => true
  | _ => false

def ObservedInput.ends : ObservedInput → Bool
  | .element .finalize => true
  | _ => false

/-! ## What one input does -/

variable {element next : ObservedElement} {input : ObservedInput}

@[simp] theorem emit_sink (element : ObservedElement) (signal : Signal) : (element.emit signal).sink = element.sink := by
  unfold ObservedElement.emit
  split <;> rfl

@[simp] theorem emit_nameless (element : ObservedElement) (signal : Signal) :
    (element.emit signal).namelessClosed = element.namelessClosed := by
  unfold ObservedElement.emit
  split <;> rfl

@[simp] theorem emit_answers (element : ObservedElement) (signal : Signal) :
    (element.emit signal).answers = element.answers := by
  unfold ObservedElement.emit
  split <;> rfl

private theorem emit_signals (element : ObservedElement) (signal : Signal) :
    (element.emit signal).signals = element.signals ++ if element.sink.finalized then [] else [signal] := by
  unfold ObservedElement.emit
  split <;> simp

/-- What a library event does to an element: one kind reaches the element, two reach its
application, a closed stream reads the name, and all are answered with success. -/
structure EventHandled (pic : Pic) (element : ObservedElement) (event : LibraryEvent)
    (handled : ObservedElement × Status) : Prop where
  sink : handled.1.sink =
    ((ObservedInput.library event).heard.map (applyInput pic element.sink)).getD element.sink
  signals : handled.1.signals = element.signals ++
    if element.sink.finalized then [] else ((ObservedInput.library event).signal pic).toList
  nameless : handled.1.namelessClosed = true ↔ element.namelessClosed = true ∨
    (ObservedInput.library event).closesStream = true ∧ element.sink.finalized = false ∧ element.sink.streamName = none
  answers : handled.1.answers = element.answers
  success : handled.2 = statusSuccess

private theorem logged_handled (unheard : (ObservedInput.library event).heard = none)
    (silent : (ObservedInput.library event).signal pic = none)
    (open' : (ObservedInput.library event).closesStream = false) (element : ObservedElement) :
    EventHandled pic element event (element, statusSuccess) where
  sink := by rw [unheard]; rfl
  signals := by simp [silent]
  nameless := by simp [open']
  answers := rfl
  success := rfl

private theorem report_keeps_finalized (pic : Pic) (sink : GstKvsSink) (status : Status) :
    (streamErrorReport pic sink status).finalized = sink.finalized :=
  (input_keeps_key pic sink (.streamErrorReport status)).2 (by rintro ⟨⟩)

theorem error_report_handled (pic : Pic) (element : ObservedElement) (stream : StreamHandle) (upload : UploadHandle)
    (fragmentTimecode : UInt64) (status : Status) :
    EventHandled pic element (.streamErrorReport stream upload fragmentTimecode status)
      (KvsSinkStreamCallbackProvider.streamErrorReportHandler pic status element) := by
  have kept := report_keeps_finalized pic element.sink status
  unfold KvsSinkStreamCallbackProvider.streamErrorReportHandler
  cases recoverable : pic.isRecoverableError status with
  | true => exact ⟨rfl, by simp [ObservedInput.signal, recoverable], by simp [ObservedInput.closesStream], rfl, rfl⟩
  | false =>
    refine ⟨by simp; rfl, ?_, by simp [ObservedInput.closesStream], by simp, rfl⟩
    simp [emit_signals, kept, ObservedInput.signal, recoverable]

theorem ack_handled (pic : Pic) (element : ObservedElement) (stream : StreamHandle) (upload : UploadHandle)
    (fragmentAck : Option FragmentAck) :
    EventHandled pic element (.fragmentAckReceived stream upload fragmentAck)
      (KvsSinkStreamCallbackProvider.fragmentAckReceivedHandler fragmentAck element) := by
  cases fragmentAck with
  | none => exact logged_handled rfl rfl rfl element
  | some ack =>
    unfold KvsSinkStreamCallbackProvider.fragmentAckReceivedHandler
    exact ⟨by simp; rfl, by simp [emit_signals, ObservedInput.signal], by simp [ObservedInput.closesStream], by simp, rfl⟩

theorem closed_handled (pic : Pic) (element : ObservedElement) (stream : StreamHandle) (upload : UploadHandle) :
    EventHandled pic element (.streamClosed stream upload)
      (KvsSinkStreamCallbackProvider.streamClosedHandler element) := by
  unfold KvsSinkStreamCallbackProvider.streamClosedHandler
  cases ended : element.sink.finalized with
  | true =>
    rw [if_pos rfl]
    exact ⟨rfl, by simp [ended], by simp [ended], rfl, rfl⟩
  | false =>
    simp only [Bool.false_eq_true, if_false]
    cases named : element.sink.streamName with
    | some name => exact ⟨rfl, by simp [ObservedInput.signal], by simp [named], rfl, rfl⟩
    | none => exact ⟨rfl, by simp [ObservedInput.signal], by simp [named, ended, ObservedInput.closesStream], rfl, rfl⟩

private theorem event_handled (pic : Pic) (element : ObservedElement) (event : LibraryEvent) :
    EventHandled pic element event ((kvsSinkCallbackProvider pic).handle event element) := by
  cases event with
  | streamErrorReport stream upload fragmentTimecode status =>
    exact error_report_handled pic element stream upload fragmentTimecode status
  | streamClosed stream upload =>
    have handled := closed_handled pic element stream upload
    exact ⟨handled.sink, handled.signals, handled.nameless, handled.answers, rfl⟩
  | fragmentAckReceived stream upload fragmentAck => exact ack_handled pic element stream upload fragmentAck
  | _ => exact logged_handled rfl rfl rfl element

/-! ## Whole runs -/

private theorem observed_step_eq_some : observedStep pic element input = some next ↔
    element.accepts input = true ∧ element.apply pic input = next := by
  unfold observedStep
  split <;> simp_all

/-- The element takes a step where it hears something. -/
theorem heard_step (accepted : observedStep pic element input = some next) (heard : input.heard = some said) :
    step pic element.sink said = some next.sink := by
  obtain ⟨admitted, rfl⟩ := observed_step_eq_some.mp accepted
  cases input with
  | element said =>
    cases heard
    refine step_eq_some.mpr ⟨?_, rfl⟩
    cases said with
    | streamErrorReport status => cases admitted
    | _ =>
      simp only [ObservedElement.accepts, Bool.and_eq_true] at admitted
      exact admitted.2
  | library event =>
    have handled := (event_handled pic element event).sink
    rw [heard] at handled
    refine step_eq_some.mpr ⟨?_, handled.symm⟩
    simp only [ObservedElement.accepts, Bool.and_eq_true] at admitted
    cases event with
    | streamErrorReport =>
      cases heard
      simp only [accepts, Bool.and_eq_true]
      exact ⟨admitted.1.2, admitted.2⟩
    | _ => cases heard

theorem unheard_step (accepted : observedStep pic element input = some next) (unheard : input.heard = none) :
    next.sink = element.sink := by
  obtain ⟨_, rfl⟩ := observed_step_eq_some.mp accepted
  cases input with
  | element input => cases unheard
  | library event =>
    have handled := (event_handled pic element event).sink
    rw [unheard] at handled
    exact handled

/-- The element of a run hears what it hears, and nothing else. -/
theorem element_hears (ran : run (observedStep pic) element inputs = some final) :
    run (step pic) element.sink (inputs.filterMap ObservedInput.heard) = some final.sink :=
  run_heard (fun _ _ _ _ accepted heard => heard_step accepted heard)
    (fun _ _ _ accepted unheard => unheard_step accepted unheard) ran

end KvsProducer
