import KvsProducer.LibraryEvents

/-! The upload of files by the GStreamer sample. Three parties share its data: the
main thread, which goes through the files and over them again after an error, the
streaming thread of the pipeline, and the callbacks of the client library, which
report errors and acknowledge fragments while the others are at work. -/
namespace KvsProducer
open Gst Runs
namespace FileUpload

inductive StreamSource where
  | file | live | rtsp
  deriving DecidableEq, Repr

/-- What the arguments ask for. Only a path in the first place makes it an upload. -/
inductive Job where
  | live
  | rtsp
  | files (first : String) (others : List String)

def Job.source : Job → StreamSource
  | .live => .live
  | .rtsp => .rtsp
  | .files _ _ => .file

def Job.paths : Job → List String
  | .files first others => first :: others
  | _ => []

structure FileInfo where
  path : String
  lastFragmentTs : UInt64 := 0
  deriving DecidableEq, Repr

/-- A `GMainLoop`. One that is quit before it runs forgets about it. -/
inductive MainLoop where
  | idle | running | quit | freed
  deriving DecidableEq, Repr

/-- The streaming thread. It is inside `eos_cb` while it is `ending`. -/
inductive Streaming where
  | stopped | playing | ending | ended
  deriving DecidableEq, Repr

/-- What the main thread does next; most of it is about the file with some index. -/
inductive Phase where
  /-- The top of the loop that tries again. -/
  | beginPass
  /-- The condition of the loop over the files. -/
  | nextFile (i : ℕ) (continueUploading : Bool)
  /-- `gstreamer_init`, up to setting the pipeline to playing. -/
  | starting (i : ℕ)
  | makingLoop (i : ℕ)
  | runningLoop (i : ℕ)
  | inLoop (i : ℕ)
  | stoppingPipeline (i : ℕ)
  | freeingLoop (i : ℕ)
  | clearingLoop (i : ℕ)
  /-- `gstreamer_init` has returned. -/
  | checkingStatus (i : ℕ)
  | stopping (i : ℕ)
  | stoppingSync (i : ℕ)
  /-- The loop over the files is over. -/
  | passDone
  | resettingStream
  | clearingStatus
  /-- Streaming from a source that is no file is over. -/
  | finishing
  | freeingStream
  | returned (code : ℕ)
  deriving DecidableEq, Repr

/-- What the program asks of its stream. -/
inductive StreamCall where
  | start (codecData : String)
  | putFrame (frame : Frame)
  | putEventMetadata
  | stop
  | stopSync
  | resetStream
  | freeStream
  deriving DecidableEq, Repr

/-- What the program prints, as far as it tells how the upload goes. -/
inductive Message where
  | attempt (i : ℕ)
  | endOfStream (i : ℕ)
  | gstreamerError
  | terminating
  | finishedSending (i : ℕ)
  | fatal (status : Status)
  | allPersisted
  | persisted (i : ℕ)
  | failedAfterRetrying (i : ℕ)
  deriving DecidableEq, Repr

/-- How the program is brought down. -/
inductive Fault where
  /-- `file_list.at` throws in a callback of the library. -/
  | outOfRange
  /-- `file_list[i]` is read past the end. -/
  | pastEnd
  /-- A main loop is quit that was freed. -/
  | freedLoop
  /-- The codec data of the caps is no string. -/
  | noCodecData
  /-- A buffer is unmapped whose pointer was never assigned. -/
  | unassignedBuffer
  deriving DecidableEq, Repr

/-- `CustomData`, with the local variables and the whereabouts of the threads. -/
structure Upload where
  streamSource : StreamSource
  fileList : List FileInfo
  producerStartTime : UInt64
  useAbsoluteFragmentTimes : Bool := true
  currentFileIdx : ℕ := 0
  lastUnpersistedFileIdx : ℕ := 0
  streamStatus : Status := statusSuccess
  basePts : UInt64 := 0
  maxFramePts : UInt64 := 0
  keyFramePts : UInt64 := 0
  syntheticDts : UInt64 := 0
  firstPts : GstClockTime := gstClockTimeNone
  streamStarted : Bool := false
  mainLoop : Option MainLoop := none
  fileRetryCount : ℕ := 3
  doRetry : Bool := true
  /-- `stream_status` of `main`. -/
  checkedStatus : Status := statusSuccess
  phase : Phase
  streaming : Streaming := .stopped
  /-- How many error reports are about to look at the main loop. -/
  checking : ℕ := 0
  /-- How many error reports are about to quit it. -/
  quitting : ℕ := 0
  fault : Option Fault := none
  calls : List StreamCall := []
  messages : List Message := []

/-- `main` after `kinesis_video_stream_init`, and with the `do` of its loop behind it. -/
def Job.begin (job : Job) (now : UInt64) : Upload where
  streamSource := job.source
  fileList := job.paths.map ({ path := · })
  producerStartTime := now
  phase := if job.source = .file then .beginPass else .starting 0

namespace Upload

def call (upload : Upload) (made : List StreamCall) : Upload := { upload with calls := upload.calls ++ made }

def print (upload : Upload) (message : Message) : Upload :=
  { upload with messages := upload.messages ++ [message] }

def crash (upload : Upload) (fault : Fault) : Upload := { upload with fault := some fault }

def goTo (upload : Upload) (phase : Phase) : Upload := { upload with phase }

/-- `g_main_loop_quit(data->main_loop)`. -/
def quitMainLoop (upload : Upload) : Upload :=
  match upload.mainLoop with
  | none => upload
  | some .idle => upload
  | some .freed => upload.crash .freedLoop
  | some _ => { upload with mainLoop := some .quit }

end Upload

/-! ## The streaming thread -/

/-- A sample of the pipeline, and whether its buffer can be mapped. -/
structure NewSample where
  buffer : GstBuffer
  codecData : Option String
  mapped : Bool := true
  /-- What the frame holds in the field that is not set. -/
  residue : UInt32 := 0
  /-- The storage of `info` happens to hold a `data` that is not NULL. -/
  infoResidue : Bool := false

def defaultTrackId : ℕ := 1
def defaultFrameDurationMs : UInt64 := 1
def nanosInAMillisecond : UInt64 := 1000000

/-- Sources that are files have no meaningful dts. -/
def settleDts (upload : Upload) (buffer : GstBuffer) : Upload × GstBuffer :=
  if upload.streamSource = .file ∨ buffer.dtsIsValid = false then
    let dts := upload.syntheticDts +
      defaultFrameDurationMs * hundredsOfNanosInAMillisecond * defaultTimeUnitInNanos
    ({ upload with syntheticDts := dts }, { buffer with dts })
  else ({ upload with syntheticDts := buffer.dts }, buffer)

/-- The timestamps of the files follow one another, and all of them are absolute. -/
def settlePts (upload : Upload) (buffer : GstBuffer) (flags : FrameFlags) : Upload × GstBuffer :=
  if upload.streamSource = .file then
    let pts := buffer.pts + (upload.basePts + upload.producerStartTime)
    ({ upload with
        maxFramePts := max upload.maxFramePts buffer.pts
        keyFramePts := if flags = .keyFrame then pts else upload.keyFramePts }, { buffer with pts })
  else if upload.useAbsoluteFragmentTimes then
    let firstPts := if upload.firstPts = gstClockTimeNone then buffer.pts else upload.firstPts
    ({ upload with firstPts }, { buffer with pts := buffer.pts + (upload.producerStartTime - firstPts) })
  else (upload, buffer)

/-- The timestamps of a frame, after which its buffer is mapped. -/
def settleTimestamps (upload : Upload) (buffer : GstBuffer) (flags : FrameFlags) : Upload × GstBuffer :=
  let timed := settleDts upload buffer
  settlePts timed.1 timed.2 flags

/-- `put_frame` and the metadata of a key frame. -/
def putFrame (upload : Upload) (buffer : GstBuffer) (flags : FrameFlags) (residue : UInt32) : Upload :=
  let frame := createKinesisVideoFrame buffer.pts buffer.dts flags buffer.bytes defaultTrackId residue
  upload.call (if flags = .keyFrame then [.putFrame frame, .putEventMetadata] else [.putFrame frame])

def frameFlags (buffer : GstBuffer) : FrameFlags :=
  if buffer.flagIsSet bufferFlagDeltaUnit then .none else .keyFrame

/-- The rest of `on_new_sample`, when the stream is started. -/
def takeBuffer (upload : Upload) (sample : NewSample) : Upload :=
  if isDroppable sample.buffer then upload
  else
    let flags := frameFlags sample.buffer
    let settled := settleTimestamps upload sample.buffer flags
    if sample.mapped then putFrame settled.1 settled.2 flags sample.residue else settled.1

/-- `on_new_sample` -/
def onNewSample (upload : Upload) (sample : NewSample) : Upload × GstFlowReturn :=
  if statusFailed upload.streamStatus then
    -- the jump to the clean-up passes over the assignments to `info.data` and `buffer`
    (if sample.infoResidue then upload.crash .unassignedBuffer else upload, .error)
  else if upload.streamStarted then (takeBuffer upload sample, .ok)
  else
    match sample.codecData with
    | none => (upload.crash .noCodecData, .ok)
    | some codecData =>
      (takeBuffer { upload.call [.start codecData] with streamStarted := true } sample, .ok)

/-- The timestamps of the next file start a millisecond after the last of this one. -/
def Upload.nextBasePts (upload : Upload) : UInt64 :=
  upload.basePts + (upload.maxFramePts + nanosInAMillisecond)

/-- `eos_cb`, up to the end of the block that holds the mutex. -/
def eosCb (upload : Upload) : Upload :=
  let padded := { upload with basePts := upload.nextBasePts, maxFramePts := 0 }
  if upload.currentFileIdx < upload.fileList.length then
    { padded.print (.endOfStream upload.currentFileIdx) with
      fileList := upload.fileList.modify upload.currentFileIdx
        ({ · with lastFragmentTs := upload.keyFramePts })
      streaming := .ending }
  else padded.crash .outOfRange

/-! ## The callbacks of the library -/

def terminates (pic : Pic) (source : StreamSource) (status : Status) : Bool :=
  (pic.isRetriableError status && source == .file) ||
    (!pic.isRetriableError status && !pic.isRecoverableError status)

/-- `streamErrorReportHandler`, up to where it looks at the main loop. -/
def streamErrorReportHandler (pic : Pic) (upload : Upload) (status : Status) : Upload :=
  if terminates pic upload.streamSource status then
    { upload with streamStatus := status, checking := upload.checking + 1 }
  else upload

def lookAtLoop (upload : Upload) : Upload :=
  let looked := { upload with checking := upload.checking - 1 }
  if upload.mainLoop.isSome then { looked.print .terminating with quitting := upload.quitting + 1 }
  else looked

/-- The millisecond of the last fragment of a file. -/
def FileInfo.lastFragmentMs (file : FileInfo) : UInt64 := file.lastFragmentTs / nanosInAMillisecond

/-- `fragmentAckReceivedHandler`, which holds the mutex of the file list. -/
def fragmentAckReceivedHandler (upload : Upload) (ack : FragmentAck) : Upload :=
  if upload.streamSource = .file ∧ ack.ackType = .persisted then
    match upload.fileList[upload.lastUnpersistedFileIdx]? with
    | none => upload.crash .outOfRange
    | some file =>
      if file.lastFragmentMs ≠ 0 ∧ file.lastFragmentMs = ack.timestamp then
        { upload.print (.persisted upload.lastUnpersistedFileIdx) with
          lastUnpersistedFileIdx := upload.lastUnpersistedFileIdx + 1 }
      else upload
  else upload

/-! ## The main thread -/

/-- `stream_status` is looked at, and what follows from it. -/
def checkStatus (pic : Pic) (upload : Upload) (i : ℕ) : Upload :=
  if upload.streamSource = .file then
    let checked := { upload with checkedStatus := upload.streamStatus }
    if statusFailed upload.streamStatus then
      if pic.isRetriableError upload.streamStatus then { checked with doRetry := true }.goTo (.stopping i)
      else { checked.print (.fatal upload.streamStatus) with doRetry := false }.goTo (.stopping i)
    else
      let sent := checked.print (.finishedSending i)
      if i = upload.fileList.length - 1 then sent.goTo (.stoppingSync i) else sent.goTo (.nextFile (i + 1) true)
  else upload.goTo .finishing

/-- The end of a pass over the files. -/
def finishPass (upload : Upload) : Upload :=
  if upload.doRetry then
    let counted := { upload with fileRetryCount := upload.fileRetryCount - 1 }
    if upload.fileRetryCount - 1 = 0 then
      let i := upload.lastUnpersistedFileIdx
      if i < upload.fileList.length then
        { (counted.print (.failedAfterRetrying i)).call [.stop] with doRetry := false }.goTo .freeingStream
      else counted.crash .pastEnd
    else counted.goTo .resettingStream
  else upload.goTo .freeingStream

/-- The next step of the main thread, where no answer is needed for it. -/
def advance (pic : Pic) (upload : Upload) : Upload :=
  match upload.phase with
  | .beginPass => upload.goTo (.nextFile upload.lastUnpersistedFileIdx true)
  | .nextFile i continueUploading =>
    if i < upload.fileList.length ∧ continueUploading = true then
      { upload.print (.attempt i) with currentFileIdx := i }.goTo (.starting i)
    else upload.goTo .passDone
  | .makingLoop i => { upload with mainLoop := some .idle }.goTo (.runningLoop i)
  | .runningLoop i => { upload with mainLoop := some .running }.goTo (.inLoop i)
  | .inLoop i => upload.goTo (.stoppingPipeline i)
  | .stoppingPipeline i => { upload with streaming := .stopped }.goTo (.freeingLoop i)
  | .freeingLoop i => { upload with mainLoop := some .freed }.goTo (.clearingLoop i)
  | .clearingLoop i => { upload with mainLoop := none }.goTo (.checkingStatus i)
  | .checkingStatus i => checkStatus pic upload i
  | .stopping i => (upload.call [.stop]).goTo (.nextFile (i + 1) false)
  | .passDone => finishPass upload
  | .resettingStream => (upload.call [.resetStream]).goTo .clearingStatus
  | .clearingStatus =>
    { upload with streamStatus := statusSuccess, streamStarted := false }.goTo .beginPass
  | .freeingStream => (upload.call [.freeStream]).goTo (.returned 0)
  | _ => upload

/-- `gstreamer_init` gets the pipeline to play, or returns 1. -/
def gstreamerInit (upload : Upload) (plays : Bool) : Upload :=
  match upload.phase with
  | .starting i =>
    if plays then
      { upload with firstPts := gstClockTimeNone, streaming := .playing }.goTo (.makingLoop i)
    else { upload with firstPts := gstClockTimeNone }.goTo (.returned 1)
  | _ => upload

/-- `stopSync` comes back. -/
def stopSync (upload : Upload) (succeeded : Bool) : Upload :=
  match upload.phase with
  | .stoppingSync i =>
    let stopped := (upload.call [.stopSync]).goTo (.nextFile (i + 1) true)
    if succeeded then { stopped.print .allPersisted with doRetry := false } else { stopped with doRetry := true }
  -- the local status is never written here, so `stop` is never called
  | .finishing => (upload.call [if statusFailed upload.checkedStatus then .stop else .stopSync]).goTo .freeingStream
  | _ => upload

/-! ## The machine -/

inductive Input where
  /-- The main thread takes its next step. -/
  | advance
  | gstreamerInit (plays : Bool)
  | stopSync (succeeded : Bool)
  /-- A message of the bus, dispatched by the main loop to `error_cb`. -/
  | busError
  | newSample (sample : NewSample)
  /-- `eos_cb`, in its two steps. -/
  | eos
  | eosQuit
  /-- `streamErrorReportHandler`, in its three. -/
  | errorReport (status : Status)
  | lookAtLoop
  | quitLoop
  | fragmentAck (ack : FragmentAck)

def Phase.needsAnswer : Phase → Bool
  | .starting _ | .stoppingSync _ | .finishing | .returned _ => true
  | _ => false

def Upload.ready (upload : Upload) : Bool :=
  match upload.phase with
  | .inLoop _ => upload.mainLoop == some .quit
  -- `gst_element_set_state` waits for the streaming thread
  | .stoppingPipeline _ => upload.streaming != .ending
  | phase => !phase.needsAnswer

def Phase.isInLoop : Phase → Bool
  | .inLoop _ => true
  | _ => false

def Phase.isStarting : Phase → Bool
  | .starting _ => true
  | _ => false

def Phase.isStoppingSync : Phase → Bool
  | .stoppingSync _ | .finishing => true
  | _ => false

def Phase.hasReturned : Phase → Bool
  | .returned _ => true
  | _ => false

def accepts (upload : Upload) (input : Input) : Bool :=
  upload.fault.isNone && !upload.phase.hasReturned &&
    match input with
    | .advance => upload.ready
    | .gstreamerInit _ => upload.phase.isStarting
    | .stopSync _ => upload.phase.isStoppingSync
    | .busError => upload.phase.isInLoop
    | .newSample _ => upload.streaming == .playing
    -- only the sink of a file is asked for its end
    | .eos => upload.streaming == .playing && upload.streamSource == .file
    | .eosQuit => upload.streaming == .ending
    | .errorReport _ => true
    | .lookAtLoop => upload.checking != 0
    | .quitLoop => upload.quitting != 0
    | .fragmentAck _ => true

def apply (pic : Pic) (upload : Upload) : Input → Upload
  | .advance => FileUpload.advance pic upload
  | .gstreamerInit plays => FileUpload.gstreamerInit upload plays
  | .stopSync succeeded => FileUpload.stopSync upload succeeded
  | .busError => (upload.print .gstreamerError).quitMainLoop
  | .newSample sample => (onNewSample upload sample).1
  | .eos => eosCb upload
  | .eosQuit => { upload.quitMainLoop with streaming := .ended }
  | .errorReport status => streamErrorReportHandler pic upload status
  | .lookAtLoop => FileUpload.lookAtLoop upload
  | .quitLoop => { upload.quitMainLoop with quitting := upload.quitting - 1 }
  | .fragmentAck ack => fragmentAckReceivedHandler upload ack

def step (pic : Pic) (upload : Upload) (input : Input) : Option Upload :=
  if accepts upload input then some (apply pic upload input) else none

variable {pic : Pic} {before after upload next final : Upload} {input : Input} {job : Job} {now : UInt64}

/-- What a step can do. -/
inductive Steps (pic : Pic) (before : Upload) : Input → Upload → Prop where
  | passBegins (found : before.phase = .beginPass) :
      Steps pic before .advance (before.goTo (.nextFile before.lastUnpersistedFileIdx true))
  | attempts (found : before.phase = .nextFile i true) (more : i < before.fileList.length) :
      Steps pic before .advance ({ before.print (.attempt i) with currentFileIdx := i }.goTo (.starting i))
  | passOver (found : before.phase = .nextFile i continueUploading)
      (passed : ¬(i < before.fileList.length ∧ continueUploading = true)) :
      Steps pic before .advance (before.goTo .passDone)
  | plays (found : before.phase = .starting i) : Steps pic before (.gstreamerInit true)
      ({ before with firstPts := gstClockTimeNone, streaming := .playing }.goTo (.makingLoop i))
  | cannotPlay (found : before.phase = .starting i) : Steps pic before (.gstreamerInit false)
      ({ before with firstPts := gstClockTimeNone }.goTo (.returned 1))
  | loopMade (found : before.phase = .makingLoop i) :
      Steps pic before .advance ({ before with mainLoop := some .idle }.goTo (.runningLoop i))
  | loopRun (found : before.phase = .runningLoop i) :
      Steps pic before .advance ({ before with mainLoop := some .running }.goTo (.inLoop i))
  | loopLeft (found : before.phase = .inLoop i) (quit : before.mainLoop = some .quit) :
      Steps pic before .advance (before.goTo (.stoppingPipeline i))
  | pipelineStopped (found : before.phase = .stoppingPipeline i) (free : before.streaming ≠ .ending) :
      Steps pic before .advance ({ before with streaming := .stopped }.goTo (.freeingLoop i))
  | loopFreed (found : before.phase = .freeingLoop i) :
      Steps pic before .advance ({ before with mainLoop := some .freed }.goTo (.clearingLoop i))
  | loopCleared (found : before.phase = .clearingLoop i) :
      Steps pic before .advance ({ before with mainLoop := none }.goTo (.checkingStatus i))
  | statusChecked (found : before.phase = .checkingStatus i) :
      Steps pic before .advance (checkStatus pic before i)
  | stopped (found : before.phase = .stopping i) :
      Steps pic before .advance ((before.call [.stop]).goTo (.nextFile (i + 1) false))
  | passFinished (found : before.phase = .passDone) : Steps pic before .advance (finishPass before)
  | streamReset (found : before.phase = .resettingStream) :
      Steps pic before .advance ((before.call [.resetStream]).goTo .clearingStatus)
  | statusCleared (found : before.phase = .clearingStatus) : Steps pic before .advance
      ({ before with streamStatus := statusSuccess, streamStarted := false }.goTo .beginPass)
  | streamFreed (found : before.phase = .freeingStream) :
      Steps pic before .advance ((before.call [.freeStream]).goTo (.returned 0))
  | allSent (found : before.phase = .stoppingSync i) : Steps pic before (.stopSync true)
      { ((before.call [.stopSync]).goTo (.nextFile (i + 1) true)).print .allPersisted with doRetry := false }
  | notAllSent (found : before.phase = .stoppingSync i) : Steps pic before (.stopSync false)
      { (before.call [.stopSync]).goTo (.nextFile (i + 1) true) with doRetry := true }
  | finished (found : before.phase = .finishing) (succeeded : Bool) : Steps pic before (.stopSync succeeded)
      ((before.call [if statusFailed before.checkedStatus then .stop else .stopSync]).goTo .freeingStream)
  | busError (found : before.phase = .inLoop i) :
      Steps pic before .busError (before.print .gstreamerError).quitMainLoop
  | newSample (playing : before.streaming = .playing) (sample : NewSample) :
      Steps pic before (.newSample sample) (onNewSample before sample).1
  | eos (playing : before.streaming = .playing) (ofFile : before.streamSource = .file) :
      Steps pic before .eos (eosCb before)
  | eosQuit (ending : before.streaming = .ending) :
      Steps pic before .eosQuit { before.quitMainLoop with streaming := .ended }
  | errorReport (status : Status) :
      Steps pic before (.errorReport status) (streamErrorReportHandler pic before status)
  | lookAtLoop (inside : before.checking ≠ 0) : Steps pic before .lookAtLoop (lookAtLoop before)
  | quitLoop (inside : before.quitting ≠ 0) :
      Steps pic before .quitLoop { before.quitMainLoop with quitting := before.quitting - 1 }
  | fragmentAck (ack : FragmentAck) :
      Steps pic before (.fragmentAck ack) (fragmentAckReceivedHandler before ack)

theorem step_eq_some : step pic upload input = some next ↔
    accepts upload input = true ∧ apply pic upload input = next := by
  simp [step]

private theorem main_steps (ready : before.ready = true) : Steps pic before .advance (advance pic before) := by
  unfold advance
  unfold Upload.ready at ready
  cases found : before.phase with
  | beginPass => exact .passBegins found
  | nextFile i continueUploading =>
    simp only
    split
    · rename_i more
      obtain ⟨more, rfl⟩ := more
      exact .attempts found more
    · rename_i passed
      exact .passOver found passed
  | makingLoop i => exact .loopMade found
  | runningLoop i => exact .loopRun found
  | inLoop i =>
    simp only [found, beq_iff_eq] at ready
    exact .loopLeft found ready
  | stoppingPipeline i =>
    simp only [found, bne_iff_ne, ne_eq] at ready
    exact .pipelineStopped found ready
  | freeingLoop i => exact .loopFreed found
  | clearingLoop i => exact .loopCleared found
  | checkingStatus i => exact .statusChecked found
  | stopping i => exact .stopped found
  | passDone => exact .passFinished found
  | resettingStream => exact .streamReset found
  | clearingStatus => exact .statusCleared found
  | freeingStream => exact .streamFreed found
  | _ => simp [found, Phase.needsAnswer] at ready

private theorem init_steps (found : before.phase.isStarting = true) :
    Steps pic before (.gstreamerInit plays) (gstreamerInit before plays) := by
  unfold gstreamerInit
  cases at' : before.phase with
  | starting i =>
    cases plays with
    | true => exact .plays at'
    | false => exact .cannotPlay at'
  | _ => simp [at', Phase.isStarting] at found

private theorem sync_steps (found : before.phase.isStoppingSync = true) :
    Steps pic before (.stopSync succeeded) (stopSync before succeeded) := by
  unfold stopSync
  cases at' : before.phase with
  | stoppingSync i =>
    cases succeeded with
    | true => exact .allSent at'
    | false => exact .notAllSent at'
  | finishing => exact .finished at' succeeded
  | _ => simp [at', Phase.isStoppingSync] at found

/-- Every step is one of those, taken by a program that runs. -/
theorem step_steps (accepted : step pic before input = some after) :
    before.fault = none ∧ before.phase.hasReturned = false ∧ Steps pic before input after := by
  obtain ⟨admitted, rfl⟩ := step_eq_some.mp accepted
  simp only [accepts, Bool.and_eq_true, Option.isNone_iff_eq_none, Bool.not_eq_true'] at admitted
  obtain ⟨⟨unharmed, running⟩, admitted⟩ := admitted
  refine ⟨unharmed, running, ?_⟩
  cases input with
  | advance => exact main_steps admitted
  | gstreamerInit plays => exact init_steps admitted
  | stopSync succeeded => exact sync_steps admitted
  | busError =>
    cases found : before.phase with
    | inLoop i => exact .busError found
    | _ => simp [found, Phase.isInLoop] at admitted
  | newSample sample => exact .newSample (by simpa using admitted) sample
  | eos =>
    simp only [Bool.and_eq_true, beq_iff_eq] at admitted
    exact .eos admitted.1 admitted.2
  | eosQuit => exact .eosQuit (by simpa using admitted)
  | errorReport status => exact .errorReport status
  | lookAtLoop => exact .lookAtLoop (by simpa using admitted)
  | quitLoop => exact .quitLoop (by simpa using admitted)
  | fragmentAck ack => exact .fragmentAck ack

/-! ## What a step changes -/

def MainLoop.afterQuit : MainLoop → MainLoop
  | .running => .quit
  | loop => loop

theorem quit_changes (upload : Upload) : upload.quitMainLoop =
    { upload with
      mainLoop := upload.mainLoop.map MainLoop.afterQuit
      fault := if upload.mainLoop = some .freed then some .freedLoop else upload.fault } := by
  unfold Upload.quitMainLoop Upload.crash
  cases upload with
  | mk =>
    rename_i mainLoop _ _ _ _ _ _ _ _ _ _
    cases mainLoop with
    | none => rfl
    | some loop => cases loop <;> rfl

/-- What `on_new_sample` writes. -/
def SampleTaken (before after : Upload) : Prop := after = { before with
  syntheticDts := after.syntheticDts, maxFramePts := after.maxFramePts, keyFramePts := after.keyFramePts,
  firstPts := after.firstPts, streamStarted := after.streamStarted, fault := after.fault, calls := after.calls }

theorem SampleTaken.trans (first : SampleTaken before next) (second : SampleTaken next after) :
    SampleTaken before after := by
  unfold SampleTaken at *
  rw [second, first]

private theorem dts_changes (upload : Upload) (buffer : GstBuffer) :
    ∃ syntheticDts, (settleDts upload buffer).1 = { upload with syntheticDts } := by
  unfold settleDts
  split <;> exact ⟨_, rfl⟩

private theorem pts_changes (upload : Upload) (buffer : GstBuffer) (flags : FrameFlags) :
    ∃ maxFramePts keyFramePts firstPts, (settlePts upload buffer flags).1 =
      { upload with maxFramePts, keyFramePts, firstPts } := by
  unfold settlePts
  split
  · exact ⟨_, _, _, rfl⟩
  · split <;> exact ⟨_, _, _, rfl⟩

/-- What settling the timestamps of a frame writes. -/
theorem settle_changes (upload : Upload) (buffer : GstBuffer) (flags : FrameFlags) :
    ∃ syntheticDts maxFramePts keyFramePts firstPts, (settleTimestamps upload buffer flags).1 =
      { upload with syntheticDts, maxFramePts, keyFramePts, firstPts } := by
  obtain ⟨syntheticDts, dts⟩ := dts_changes upload buffer
  obtain ⟨maxFramePts, keyFramePts, firstPts, pts⟩ :=
    pts_changes (settleDts upload buffer).1 (settleDts upload buffer).2 flags
  refine ⟨syntheticDts, maxFramePts, keyFramePts, firstPts, ?_⟩
  unfold settleTimestamps
  simp only
  rw [pts, dts]

private theorem put_changes (upload : Upload) (buffer : GstBuffer) (flags : FrameFlags) (residue : UInt32) :
    SampleTaken upload (putFrame upload buffer flags residue) := rfl

theorem take_changes (upload : Upload) (sample : NewSample) : SampleTaken upload (takeBuffer upload sample) := by
  unfold takeBuffer
  split
  · rfl
  · obtain ⟨dts, maxPts, keyPts, firstPts, changed⟩ :=
      settle_changes upload sample.buffer (frameFlags sample.buffer)
    -- The timestamps are arbitrary from here on, so that nothing computes with their constants.
    have settled : SampleTaken upload (settleTimestamps upload sample.buffer (frameFlags sample.buffer)).1 := by
      rw [changed]
      rfl
    simp only
    split
    · exact settled.trans (put_changes _ _ _ _)
    · exact settled

theorem sample_changes (upload : Upload) (sample : NewSample) :
    SampleTaken upload (onNewSample upload sample).1 := by
  unfold onNewSample
  split
  · split <;> rfl
  · split
    · exact take_changes upload sample
    · cases sample.codecData with
      | none => rfl
      | some codecData =>
        have started : SampleTaken upload { upload.call [.start codecData] with streamStarted := true } := rfl
        exact started.trans (take_changes _ sample)

/-- What `eos_cb` writes, whatever the base of the next file is. -/
theorem eos_changes (upload : Upload) : ∃ base, eosCb upload =
    let padded := { upload with basePts := base, maxFramePts := 0 }
    if upload.currentFileIdx < upload.fileList.length then
      { padded.print (.endOfStream upload.currentFileIdx) with
        fileList := upload.fileList.modify upload.currentFileIdx
          ({ · with lastFragmentTs := upload.keyFramePts })
        streaming := .ending }
    else padded.crash .outOfRange :=
  ⟨upload.nextBasePts, rfl⟩

/-! ## Where the threads can be -/

/-- The file that is being attempted. -/
def Phase.attempt : Phase → Option ℕ
  | .starting i | .makingLoop i | .runningLoop i | .inLoop i | .stoppingPipeline i | .freeingLoop i
  | .clearingLoop i | .checkingStatus i | .stopping i | .stoppingSync i => some i
  | _ => none

/-- The pipeline has been set to playing and not yet been stopped. -/
def Phase.pipelineUp : Phase → Bool
  | .makingLoop _ | .runningLoop _ | .inLoop _ | .stoppingPipeline _ => true
  | _ => false

/-- The main loop as the main thread has it in this phase. -/
def Phase.Holds : Phase → Option MainLoop → Prop
  | .runningLoop _, loop => loop = some .idle
  | .inLoop _, loop => loop = some .running ∨ loop = some .quit
  | .stoppingPipeline _, loop | .freeingLoop _, loop => loop = some .quit
  | .clearingLoop _, loop => loop = some .freed
  | _, loop => loop = none

/-- How the threads of a running upload stand to each other. -/
structure Orderly (upload : Upload) : Prop where
  counted : upload.lastUnpersistedFileIdx ≤ upload.fileList.length
  attempted : upload.streamSource = .file → ∀ i, upload.phase.attempt = some i →
    upload.currentFileIdx = i ∧ i < upload.fileList.length
  loop : upload.phase.Holds upload.mainLoop
  pipeline : upload.streaming ≠ .stopped → upload.phase.pipelineUp = true

theorem begin_orderly (job : Job) (now : UInt64) : Orderly (job.begin now) := by
  cases job with
  | files first others => exact ⟨Nat.zero_le _, by rintro _ i ⟨⟩, rfl, fun plays => absurd rfl plays⟩
  | _ => exact ⟨Nat.zero_le _, by rintro ⟨⟩, rfl, fun plays => absurd rfl plays⟩

theorem Orderly.quit (orderly : Orderly upload) : Orderly upload.quitMainLoop where
  counted := by rw [quit_changes]; exact orderly.counted
  attempted := by rw [quit_changes]; exact orderly.attempted
  loop := by
    have loop := orderly.loop
    rw [quit_changes]
    change upload.phase.Holds (upload.mainLoop.map MainLoop.afterQuit)
    cases found : upload.phase <;> rw [found] at loop <;> simp only [Phase.Holds] at loop ⊢ <;>
      first
        | (rw [loop]; rfl)
        | (rcases loop with loop | loop <;> rw [loop] <;> simp [MainLoop.afterQuit])
  pipeline := by rw [quit_changes]; exact orderly.pipeline

theorem Orderly.sample (orderly : Orderly before) (taken : SampleTaken before after) : Orderly after := by
  rw [SampleTaken] at taken
  rw [taken]
  exact ⟨orderly.counted, orderly.attempted, orderly.loop, orderly.pipeline⟩

/-- Where no pipeline is up, none plays. -/
theorem Orderly.still (orderly : Orderly upload) (down : upload.phase.pipelineUp = false) :
    upload.streaming = .stopped := by
  by_contra plays
  rw [orderly.pipeline plays] at down
  cases down

private theorem orderly_check (orderly : Orderly before) (found : before.phase = .checkingStatus i) :
    Orderly (checkStatus pic before i) := by
  have still := orderly.still (by rw [found]; rfl)
  have loop := orderly.loop
  rw [found] at loop
  have attempted := orderly.attempted
  rw [found] at attempted
  have at' (file : before.streamSource = .file) := attempted file i rfl
  unfold checkStatus
  split
  · rename_i file
    have same : ∀ j, some i = some j → before.currentFileIdx = j ∧ j < before.fileList.length := by
      rintro j ⟨⟩
      exact at' file
    simp only
    split
    · split <;> exact ⟨orderly.counted, fun _ => same, loop, fun plays => absurd still plays⟩
    · split
      · exact ⟨orderly.counted, fun _ => same, loop, fun plays => absurd still plays⟩
      · exact ⟨orderly.counted, by rintro _ j ⟨⟩, loop, fun plays => absurd still plays⟩
  · exact ⟨orderly.counted, by rintro _ j ⟨⟩, loop, fun plays => absurd still plays⟩

private theorem orderly_finish (orderly : Orderly before) (found : before.phase = .passDone) :
    Orderly (finishPass before) := by
  have still := orderly.still (by rw [found]; rfl)
  have loop := orderly.loop
  rw [found] at loop
  have attempted := orderly.attempted
  rw [found] at attempted
  unfold finishPass
  split
  · simp only
    split
    · split
      · exact ⟨orderly.counted, by rintro _ j ⟨⟩, loop, fun plays => absurd still plays⟩
      · exact ⟨orderly.counted, found ▸ attempted, found ▸ loop, fun plays => absurd still plays⟩
    · exact ⟨orderly.counted, by rintro _ j ⟨⟩, loop, fun plays => absurd still plays⟩
  · exact ⟨orderly.counted, by rintro _ j ⟨⟩, loop, fun plays => absurd still plays⟩

theorem orderly_end (orderly : Orderly before) (playing : before.streaming = .playing) : Orderly (eosCb before) := by
  have up := orderly.pipeline (by rw [playing]; rintro ⟨⟩)
  obtain ⟨base, changed⟩ := eos_changes before
  simp only [changed]
  split
  · have kept : (before.fileList.modify before.currentFileIdx
        ({ · with lastFragmentTs := before.keyFramePts })).length = before.fileList.length :=
      List.length_modify ..
    refine ⟨orderly.counted.trans_eq kept.symm, fun file i attempting => ?_, orderly.loop, fun _ => up⟩
    obtain ⟨same, within⟩ := orderly.attempted file i attempting
    exact ⟨same, within.trans_eq kept.symm⟩
  · exact ⟨orderly.counted, orderly.attempted, orderly.loop, fun _ => up⟩

private theorem orderly_report (orderly : Orderly before) (status : Status) :
    Orderly (streamErrorReportHandler pic before status) := by
  unfold streamErrorReportHandler
  split
  · exact ⟨orderly.counted, orderly.attempted, orderly.loop, orderly.pipeline⟩
  · exact orderly

private theorem orderly_look (orderly : Orderly before) : Orderly (lookAtLoop before) := by
  unfold lookAtLoop
  simp only
  split <;> exact ⟨orderly.counted, orderly.attempted, orderly.loop, orderly.pipeline⟩

private theorem orderly_ack (orderly : Orderly before) (ack : FragmentAck) :
    Orderly (fragmentAckReceivedHandler before ack) := by
  unfold fragmentAckReceivedHandler
  split
  · cases listed : before.fileList[before.lastUnpersistedFileIdx]? with
    | none => exact ⟨orderly.counted, orderly.attempted, orderly.loop, orderly.pipeline⟩
    | some file =>
      have within := (List.getElem?_eq_some_iff.mp listed).1
      simp only
      split
      · exact ⟨within, orderly.attempted, orderly.loop, orderly.pipeline⟩
      · exact orderly
  · exact orderly

/-- Every step keeps the threads in order. -/
theorem steps_orderly (orderly : Orderly before) (steps : Steps pic before input after) : Orderly after := by
  have loop := orderly.loop
  have attempted := orderly.attempted
  cases steps with
  | passBegins found | streamReset found | statusCleared found | streamFreed found | finished found
  | cannotPlay found | loopCleared found =>
    have still := orderly.still (by rw [found]; rfl)
    rw [found] at loop attempted
    exact ⟨orderly.counted, by first | exact attempted | rintro _ j ⟨⟩, by first | rfl | exact loop,
      fun plays => absurd still plays⟩
  | passOver found passed | stopped found | allSent found | notAllSent found =>
    have still := orderly.still (by rw [found]; rfl)
    rw [found] at loop
    exact ⟨orderly.counted, by rintro _ j ⟨⟩, loop, fun plays => absurd still plays⟩
  | attempts found more =>
    have still := orderly.still (by rw [found]; rfl)
    rw [found] at loop
    exact ⟨orderly.counted, by rintro _ j ⟨⟩; exact ⟨rfl, more⟩, loop, fun plays => absurd still plays⟩
  | plays found | loopMade found | loopRun found | loopLeft found quit =>
    rw [found] at loop attempted
    exact ⟨orderly.counted, attempted, by first | exact quit | exact .inl rfl | rfl | exact loop, fun _ => rfl⟩
  | pipelineStopped found free | loopFreed found =>
    rw [found] at loop attempted
    refine ⟨orderly.counted, attempted, by first | exact loop | rfl, fun plays => ?_⟩
    first
      | exact absurd rfl plays
      | exact absurd (orderly.still (by rw [found]; rfl)) plays
  | statusChecked found => exact orderly_check orderly found
  | passFinished found => exact orderly_finish orderly found
  | busError found => exact Orderly.quit ⟨orderly.counted, orderly.attempted, orderly.loop, orderly.pipeline⟩
  | newSample playing sample => exact orderly.sample (sample_changes before sample)
  | eos playing ofFile => exact orderly_end orderly playing
  | eosQuit ending =>
    have quit := orderly.quit
    exact ⟨quit.counted, quit.attempted, quit.loop, fun _ => by
      rw [quit_changes]
      exact orderly.pipeline (by rw [ending]; rintro ⟨⟩)⟩
  | errorReport status => exact orderly_report orderly status
  | lookAtLoop inside => exact orderly_look orderly
  | quitLoop inside =>
    have quit := orderly.quit
    exact ⟨quit.counted, quit.attempted, quit.loop, quit.pipeline⟩
  | fragmentAck ack => exact orderly_ack orderly ack

theorem run_orderly (reached : Reaches (step pic) (job.begin now) final) : Orderly final :=
  invariant_reached (fun _ _ _ orderly accepted => steps_orderly orderly (step_steps accepted).2.2)
    (begin_orderly job now) reached

/-! ## What brings the program down -/

def keyFrameAt (pts : UInt64) : NewSample where
  buffer := { flags := 0, pts, dts := gstClockTimeNone, bytes := [1] }
  codecData := some "01"

/-- A file is attempted and sent to its end. -/
def uploadFile (samples : List NewSample) : List Input :=
  [.advance, .gstreamerInit true, .advance, .advance] ++ samples.map .newSample ++
    [.eos, .eosQuit, .advance, .advance, .advance, .advance, .advance]

/-- Two files, whose last fragments are acknowledged. -/
def twoFiles : List Input :=
  [.advance] ++ uploadFile [keyFrameAt 0, keyFrameAt 2000000] ++ [.fragmentAck ⟨.persisted, 7⟩] ++
    uploadFile [keyFrameAt 0] ++ [.fragmentAck ⟨.persisted, 8⟩]

end FileUpload
end KvsProducer
