import KvsProducer.Runs
import KvsProducer.SinkPads
import KvsProducer.SinkStart
import KvsProducer.SinkStreaming

/-! One kvssink element as a machine: the inputs GStreamer, the application and
the callback thread give it, when each of them can come, and what it does then. -/
namespace KvsProducer
open Gst Runs

inductive Input where
  | requestNewPad (templ : PadTemplate) (elementAddPad : Bool)
  | releasePad (pad : PadId) (elementRemovePad : Bool)
  | setProperty (property : Property)
  | changeState (transition : GstStateChange) (outcome : ChangeStateOutcome)
  | sinkEvent (pad : PadId) (event : SinkEvent) (outcome : SinkEventOutcome)
  | buffer (pad : PadId) (buffer : GstBuffer) (outcome : BufferOutcome)
  | noBuffer (outcome : BufferOutcome)
  | streamErrorReport (status : Status)
  | finalize

/-- The input asks for a new session. -/
def Input.startsSession : Input → Bool
  | .changeState .nullToReady _ => true
  | _ => false

/-- The pad is on the element, has its collect entry, and has not ended. -/
def GstKvsSink.padDelivers (sink : GstKvsSink) (pad : PadId) : Bool :=
  sink.state.streaming && sink.pads.contains pad && (sink.trackOf pad).any (!·.eos)

/-- A callback can come while the custom data and a producer with its client exist. -/
def GstKvsSink.callbackPossible (sink : GstKvsSink) : Bool :=
  0 < sink.dataUseCount && sink.data.kinesisVideoProducer.isSome

/-- Whether the input can come in this state. Pads carry data only in PAUSED
and PLAYING, a pad that has ended delivers nothing more, and a state change is
asked for in the state it starts from. -/
def accepts (sink : GstKvsSink) : Input → Bool
  | .streamErrorReport _ => !sink.crashed && sink.callbackPossible
  | input =>
    !sink.crashed && !sink.finalized &&
      match input with
      | .requestNewPad _ _ => true
      | .releasePad pad _ => sink.pads.contains pad
      | .setProperty _ => true
      | .changeState transition _ => sink.state == transition.current
      | .sinkEvent pad _ _ => sink.padDelivers pad
      | .buffer pad _ _ => sink.padDelivers pad
      | .noBuffer _ => sink.state.streaming
      | .streamErrorReport _ => true
      | .finalize => sink.state == .null

/-- The element is in its new state. -/
def GstKvsSink.enter (sink : GstKvsSink) (state : GstState) : GstKvsSink := { sink with state }

/-- GStreamer moves the element on only when the change succeeded. -/
def changeState (pic : Pic) (sink : GstKvsSink) (transition : GstStateChange)
    (outcome : ChangeStateOutcome) : GstKvsSink :=
  match gstKvsSinkChangeState pic sink transition outcome with
  | (sink, .success) => sink.enter transition.next
  | (sink, _) => sink

def sinkEvent (sink : GstKvsSink) (pad : PadId) (event : SinkEvent) (outcome : SinkEventOutcome) :
    GstKvsSink :=
  match sink.trackOf pad with
  | none => sink
  | some track =>
    let handled := gstKvsSinkHandleSinkEvent sink track event outcome
    match event with
    | .eos => { handled with collect := handled.collect.map (markEos pad) }
    | _ => handled

def bufferFromPad (pic : Pic) (sink : GstKvsSink) (pad : PadId) (buffer : GstBuffer)
    (outcome : BufferOutcome) : GstKvsSink :=
  match sink.trackOf pad with
  | none => sink
  | some track => gstKvsSinkHandleBuffer pic sink (some (track, buffer)) outcome

/-- The report handler reaches the element through `data->kvs_sink`, which
nothing resets. -/
def streamErrorReport (pic : Pic) (sink : GstKvsSink) (status : Status) : GstKvsSink :=
  let sink := if sink.finalized then sink.log .callbackAfterFinalize else sink
  streamErrorReportHandler pic sink status

def applyInput (pic : Pic) (sink : GstKvsSink) : Input → GstKvsSink
  | .requestNewPad templ elementAddPad => (gstKvsSinkRequestNewPad sink templ elementAddPad).1
  | .releasePad pad elementRemovePad => gstKvsSinkReleasePad sink pad elementRemovePad
  | .setProperty property => gstKvsSinkSetProperty sink property
  | .changeState transition outcome => changeState pic sink transition outcome
  | .sinkEvent pad event outcome => sinkEvent sink pad event outcome
  | .buffer pad buffer outcome => bufferFromPad pic sink pad buffer outcome
  | .noBuffer outcome => gstKvsSinkHandleBuffer pic sink none outcome
  | .streamErrorReport status => streamErrorReport pic sink status
  | .finalize => gstKvsSinkFinalize sink

def step (pic : Pic) (sink : GstKvsSink) (input : Input) : Option GstKvsSink :=
  if accepts sink input then some (applyInput pic sink input) else none

/-- The element after these inputs, from its creation. -/
abbrev runFromInit (pic : Pic) (now : UInt64) (inputs : List Input) : Option GstKvsSink :=
  run (step pic) (gstKvsSinkInit now) inputs

/-- Peers of the pads that offer H.264 with codec data. -/
def h264Caps : CapsStructure := { name := "video/x-h264", codecData := some "0164001f" }

/-- NULL to PAUSED, when every pad has a peer with these caps. -/
def upTo (allowedCaps : PadId → Option GstCaps) : List Input :=
  [.changeState .nullToReady { allowedCaps }, .changeState .readyToPaused {}]

/-- PAUSED to NULL. -/
def downToNull : List Input := [.changeState .pausedToReady {}, .changeState .readyToNull {}]

theorem step_eq_some : step pic sink input = some next ↔
    accepts sink input = true ∧ applyInput pic sink input = next := by
  unfold step
  split <;> simp_all

end KvsProducer
