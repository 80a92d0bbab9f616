import KvsProducer.HeldStream
import KvsProducer.SessionTimeline

/-! What can bring down the process of an element: an exception that leaves one of
its functions for the C code around them, a failed assertion, a pointer to nothing,
a string that is released twice or read after its release, or a callback that comes
when the element is gone. Outside these few inputs no run does any of it. -/
namespace KvsProducer
open Gst History Runs

/-- No string has been released twice or read after its release, and none will be
when the element releases them in the end. -/
structure GstKvsSink.StringsSound (sink : GstKvsSink) : Prop where
  soFar : sink.heap.faults = []
  atTheEnd : sink.finalized = false → (gstKvsSinkFinalize sink).heap.faults = []

theorem clean_up_keeps_crashed (sink : GstKvsSink) (arrived : Bool) (status : Status) (ret : GstFlowReturn) :
    (cleanUpBuffer sink arrived status ret).crashed = sink.crashed := by
  unfold cleanUpBuffer
  cases arrived <;> cases statusFailed status <;> rfl

private theorem no_buffer_survives (pic : Pic) (held : sink.data.kinesisVideoStream = some stream)
    (alive : sink.crashed = false) (outcome : BufferOutcome) :
    (gstKvsSinkHandleBuffer pic sink none outcome).crashed = false := by
  cases gate : streamErrorGate pic sink.streamingType sink.data.streamStatus with
  | fatal =>
    rw [handler_fails gate]
    exact (clean_up_keeps_crashed ..).trans alive
  | proceed =>
    rw [handler_proceeds gate]
    exact (clean_up_keeps_crashed ..).trans alive
  | reset =>
    rw [handler_resets gate held alive]
    exact (clean_up_keeps_crashed ..).trans alive

theorem start_stream_survives (held : sink.data.kinesisVideoStream = some stream) (trackId : ℕ) (started : Bool) :
    (startStream sink trackId started).crashed = sink.crashed := by
  simp only [startStream, held]
  split <;> rfl

theorem event_survives (held : sink.data.kinesisVideoStream = some stream) (pad : PadId) (event : SinkEvent)
    (outcome : SinkEventOutcome) : (sinkEvent sink pad event outcome).crashed = sink.crashed := by
  unfold sinkEvent
  split
  · rfl
  · rename_i track _
    cases event with
    | caps structure' =>
      simp only [gstKvsSinkHandleSinkEvent, handleCapsEvent]
      split
      · split
        · rfl
        · split
          · rfl
          · exact start_stream_survives held _ _
      · split
        · exact start_stream_survives (by exact held) _ _
        · rfl
    | addMetadata name value persist => simp only [gstKvsSinkHandleSinkEvent, held]; rfl
    | eos => simp only [gstKvsSinkHandleSinkEvent, handleEosEvent, held]; rfl
    | other => rfl

/-! ## Steps -/

/-- What every run keeps and the exact condition rests on. -/
structure Grounded (sink : GstKvsSink) : Prop where
  known : StreamsKnown sink
  audio : sink.audioCodecId ≠ none
  strings : sink.StringsKept ∨ sink.StringsLost

theorem step_keeps_grounded (grounded : Grounded sink) (accepted : step pic sink input = some next) :
    Grounded next where
  known := step_keeps_streams_known grounded.known accepted
  audio := step_keeps_audio_codec grounded.audio accepted
  strings := by
    by_cases stays : sink.StringsKept ∧ KeepsOwners pic sink input
    · exact .inl ((step_strings grounded.strings accepted).1 stays)
    · exact .inr ((step_strings grounded.strings accepted).2 stays)

/-- Strings that have their owners are sound, and lost ones are not. -/
theorem strings_sound_iff {sink : GstKvsSink} (background : sink.StringsKept ∨ sink.StringsLost) :
    sink.StringsSound ↔ sink.StringsKept := by
  constructor
  · intro sound
    refine background.resolve_right ?_
    rintro (⟨lives, lost⟩ | ⟨_, fault⟩)
    · exact finalize_lost lost (sound.atTheEnd lives)
    · exact fault sound.soFar
  · intro kept
    refine ⟨kept_no_fault kept, fun lives => ?_⟩
    exact finalize_healthy ((kept_alive lives).1.mp kept)

/-- One step leaves sound strings sound unless an audio-only session comes to a stream. -/
theorem sound_step (grounded : Grounded sink) (sound : sink.StringsSound)
    (accepted : step pic sink input = some next) : next.StringsSound ↔ KeepsOwners pic sink input := by
  have kept := (strings_sound_iff grounded.strings).mp sound
  have stepped := step_strings grounded.strings accepted
  rw [strings_sound_iff (step_keeps_grounded grounded accepted).strings]
  refine ⟨fun keeps => ?_, fun keeps => stepped.1 ⟨kept, keeps⟩⟩
  by_contra spoils
  exact kept_not_lost keeps (stepped.2 fun both => spoils both.2)

private theorem streaming_outside_null (streaming : GstState.streaming state = true) : state ≠ .null := by
  rintro rfl
  cases streaming

/-- Inputs besides starts, buffers and reports never crash. -/
theorem quiet_input_survives (grounded : Grounded sink) (alive : sink.crashed = false)
    (admitted : accepts sink input = true) (noStart : ∀ outcome, input ≠ .changeState .nullToReady outcome)
    (noBuffer : ∀ pad buffer outcome, input ≠ .buffer pad buffer outcome) (pic : Pic) :
    (applyInput pic sink input).crashed = false := by
  cases input with
  | requestNewPad templ added =>
    exact (congrArg (·.crashed) (request_keeps_padless sink templ added) :).trans alive
  | releasePad pad removed =>
    exact (congrArg (·.crashed) (release_keeps_padless sink pad removed) :).trans alive
  | setProperty property => cases property <;> exact alive
  | changeState transition outcome =>
    have before : sink.state = transition.current := accepted_transition admitted
    have changed := change_state_cases pic sink transition outcome
    simp only [applyInput]
    generalize changeState pic sink transition outcome = next at changed
    cases changed with
    | started | startedInVain | notStarted => exact absurd rfl (noStart outcome)
    | collecting | collectingInVain | stopped | moved | refused => exact alive
    | nothingToStop _ none =>
      obtain ⟨stream, held⟩ := grounded.known.held (by rw [before]; rintro ⟨⟩)
      rw [none] at held
      cases held
  | sinkEvent pad event outcome =>
    simp only [accepts, GstKvsSink.padDelivers, Bool.and_eq_true] at admitted
    obtain ⟨stream, held⟩ := grounded.known.held (streaming_outside_null admitted.2.1.1)
    exact (event_survives held pad event outcome).trans alive
  | buffer pad buffer outcome => exact absurd rfl (noBuffer pad buffer outcome)
  | noBuffer outcome =>
    simp only [accepts, Bool.and_eq_true] at admitted
    obtain ⟨stream, held⟩ := grounded.known.held (streaming_outside_null admitted.2)
    exact no_buffer_survives pic held alive outcome
  | streamErrorReport status =>
    simp only [applyInput, streamErrorReport, streamErrorReportHandler]
    split <;> split <;> exact alive
  | finalize =>
    simp only [applyInput, gstKvsSinkFinalize]
    split
    · unfold destroyProducer
      split <;> exact alive
    · exact alive

end KvsProducer
