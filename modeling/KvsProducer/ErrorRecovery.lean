import KvsProducer.SessionErrors

/-! Recovery from a retriable error. The handler resets the stream, clears the
status and goes on with its buffer, and does not look at what the reset returned.
The record of the element says what the handler should have waited for. -/
namespace KvsProducer
open Gst History Runs

/-- The report of a retriable error that the callback keeps for the handler. -/
def retriableReport (pic : Pic) (status : Status) : Bool :=
  statusFailed status && !pic.isRecoverableError status && pic.isRetriableError status

/-- Whether a reset is still awaited after one more entry of the record. -/
def stillAwaits (pic : Pic) (awaits : Bool) : Call → Bool
  | .streamErrorReport status => awaits || retriableReport pic status
  | .resetStream _ done => awaits && !done
  | _ => awaits

/-- A retriable error was reported, and no reset has returned true since. -/
def awaitsReset (pic : Pic) (calls : List Call) : Bool := calls.foldl (stillAwaits pic) false

/-- A frame is submitted when no reset is awaited. -/
def FitsRecovery (pic : Pic) (before : List Call) (call : Call) : Prop :=
  call.isFrame = true → awaitsReset pic before = false

/-- **Recovery resets the stream.** Frames are only submitted once the reset has
succeeded, and until then the error is pending. -/
structure ResetComesFirst (pic : Pic) (sink : GstKvsSink) : Prop where
  frames : EachEntry (FitsRecovery pic) sink.calls
  pending : awaitsReset pic sink.calls = true → statusFailed sink.data.streamStatus = true

/-- The reset that the handler asks for succeeds, and no report of a success
takes the place of an error that awaits its reset. -/
def KeepsPending (pic : Pic) (sink : GstKvsSink) : Input → Prop
  | .buffer _ _ outcome | .noBuffer outcome =>
    streamErrorGate pic sink.streamingType sink.data.streamStatus = .reset → outcome.resetDone = true
  | .streamErrorReport status =>
    awaitsReset pic sink.calls = true → pic.isRecoverableError status = false → statusFailed status = true
  | _ => True

instance (pic : Pic) (sink : GstKvsSink) (input : Input) : Decidable (KeepsPending pic sink input) := by
  cases input <;> unfold KeepsPending <;> infer_instance

/-! ## The record -/

/-- The call is neither a report nor a reset. -/
def Neutral (call : Call) : Prop := ∀ pic awaits, stillAwaits pic awaits call = awaits

private theorem awaits_append_neutral (pic : Pic) (grown : Grows Neutral before after) :
    awaitsReset pic after = awaitsReset pic before :=
  grown.foldl_unchanged (fun awaits _ neutral => neutral pic awaits) false

private theorem body_neutral (made : BodyCall held trackId call) : Neutral call := by
  cases made <;> exact fun _ _ => rfl

private theorem frameless_body (call : Call) (made : BodyCall none none call) :
    Neutral call ∧ call.isFrame = false := by
  cases made with
  | put held => cases held
  | metrics | release | warning | done => exact ⟨fun _ _ => rfl, rfl⟩

/-- Entries that are no frames fit anywhere. -/
theorem frameless_fit (old : EachEntry (FitsRecovery pic) before)
    (grown : Grows (fun call => call.isFrame = false) before after) :
    EachEntry (FitsRecovery pic) after := by
  obtain ⟨added, rfl, frameless⟩ := grown
  apply old.append
  intro early call late split isFrame
  rw [frameless call (by simp [split])] at isFrame
  cases isFrame

/-- Frames fit when no reset is awaited before them. -/
theorem neutral_fit (old : EachEntry (FitsRecovery pic) before) (grown : Grows Neutral before after)
    (clear : awaitsReset pic before = false) : EachEntry (FitsRecovery pic) after := by
  obtain ⟨added, rfl, neutral⟩ := grown
  apply old.append
  intro early call late split _
  have grew : Grows Neutral before (before ++ early) :=
    ⟨early, rfl, fun entry member => neutral entry (by simp [split, member])⟩
  exact (awaits_append_neutral pic grew).trans clear

/-! ## Inputs that are neither buffers nor reports -/

private theorem quiet_input_neutral (quiet : input.leavesStatus = true) (made : InputCall sink input call) :
    Neutral call ∧ call.isFrame = false := by
  cases made with
  | event _ made => cases made <;> exact ⟨fun _ _ => rfl, rfl⟩
  | setUp made => cases made <;> exact ⟨fun _ _ => rfl, rfl⟩
  | destroyed | stopped => exact ⟨fun _ _ => rfl, rfl⟩
  | buffer | noBuffer | late | report => cases quiet

/-! ## One step -/

/-- What is known of every element: the stream it holds, and that a retriable
error in the register awaits its reset. -/
structure RecoveryTraced (pic : Pic) (sink : GstKvsSink) : Prop where
  known : StreamsKnown sink
  awaited : statusFailed sink.data.streamStatus = true →
    pic.isRetriableError sink.data.streamStatus = true → awaitsReset pic sink.calls = true

private theorem reset_gate (gate : streamErrorGate pic streamingType status = .reset) :
    statusFailed status = true ∧ pic.isRetriableError status = true := by
  unfold streamErrorGate at gate
  split at gate
  · rename_i failed
    split at gate
    · cases gate
    · rename_i retriable
      simp only [Bool.or_eq_true, Bool.not_eq_true', not_or, Bool.not_eq_false] at retriable
      exact ⟨failed, retriable.2⟩
  · cases gate

/-- What a call of the handler does to the record and the register. -/
inductive Recovers (pic : Pic) (sink : GstKvsSink) (outcome : BufferOutcome) (next : GstKvsSink) : Prop where
  | refused : streamErrorGate pic sink.streamingType sink.data.streamStatus = .fatal →
      next.data.streamStatus = sink.data.streamStatus →
      Grows (fun call => Neutral call ∧ call.isFrame = false) sink.calls next.calls →
      Recovers pic sink outcome next
  | proceeded : sink.data.streamStatus = statusSuccess → next.data.streamStatus = statusSuccess →
      Grows Neutral sink.calls next.calls → Recovers pic sink outcome next
  | reset (stream : StreamId) :
      streamErrorGate pic sink.streamingType sink.data.streamStatus = .reset →
      next.data.streamStatus = statusSuccess →
      Grows Neutral (sink.calls ++ [.bufferArrived, .resetStream stream outcome.resetDone]) next.calls →
      Recovers pic sink outcome next

private theorem handler_recovers (pic : Pic) (held : sink.data.kinesisVideoStream = some stream)
    (alive : sink.crashed = false) (arrival : Option (GstKvsSinkTrackData × GstBuffer))
    (outcome : BufferOutcome) :
    Recovers pic sink outcome (gstKvsSinkHandleBuffer pic sink arrival outcome) := by
  have body (entered : GstKvsSink) : (handleBufferBody entered arrival outcome).data.streamStatus =
      entered.data.streamStatus ∧
      Grows Neutral entered.calls (handleBufferBody entered arrival outcome).calls :=
    ⟨congrArg (·.data.streamStatus) (body_keeps_frameless entered arrival outcome),
      (body_calls entered arrival outcome).imp fun _ => body_neutral⟩
  cases gate : streamErrorGate pic sink.streamingType sink.data.streamStatus with
  | fatal =>
    have cleanUp : Grows (fun call => Neutral call ∧ call.isFrame = false) _ _ :=
      (clean_up_calls ((sink.log .bufferArrived).log (.elementError (.streamError sink.data.streamStatus)))
        arrival.isSome statusSuccess .error).imp frameless_body
    rw [handler_fails gate]
    refine .refused gate (congrArg (·.data.streamStatus) (clean_up_keeps_frameless _ _ _ _)) ?_
    exact ((Grows.snoc ⟨fun _ _ => rfl, rfl⟩ _).then ⟨fun _ _ => rfl, rfl⟩).trans cleanUp
  | proceed =>
    have clear := (gate_proceeds_iff _ _ _).mp gate
    obtain ⟨status, grown⟩ := body (sink.log .bufferArrived)
    rw [handler_proceeds gate]
    exact .proceeded clear (status.trans clear) ((Grows.snoc (fun _ _ => rfl) _).trans grown)
  | reset =>
    obtain ⟨status, grown⟩ := body (clearStreamStatus
      ((sink.log .bufferArrived).log (.resetStream stream outcome.resetDone)))
    rw [handler_resets gate held alive]
    refine .reset stream gate status ?_
    simpa using grown

private theorem awaits_after_reset (pic : Pic) (calls : List Call) (stream : StreamId) (done : Bool) :
    awaitsReset pic (calls ++ [.bufferArrived, .resetStream stream done]) =
      (awaitsReset pic calls && !done) := by
  simp only [awaitsReset, List.foldl_append, List.foldl_cons, List.foldl_nil, stillAwaits]

/-- The register holds no failure whose reset is not awaited. -/
theorem Recovers.awaited (recovers : Recovers pic sink outcome next)
    (awaited : statusFailed sink.data.streamStatus = true →
      pic.isRetriableError sink.data.streamStatus = true → awaitsReset pic sink.calls = true) :
    statusFailed next.data.streamStatus = true →
      pic.isRetriableError next.data.streamStatus = true → awaitsReset pic next.calls = true := by
  cases recovers with
  | refused _ status grown =>
    rw [status, awaits_append_neutral pic (grown.imp fun _ => And.left)]
    exact awaited
  | proceeded _ status | reset _ _ status =>
    rw [status]
    exact nofun

/-- A call keeps frames behind the reset exactly if the reset it makes, if any, succeeds. -/
theorem Recovers.keeps_iff (recovers : Recovers pic sink outcome next) (traced : RecoveryTraced pic sink)
    (good : ResetComesFirst pic sink) : ResetComesFirst pic next ↔
      (streamErrorGate pic sink.streamingType sink.data.streamStatus = .reset → outcome.resetDone = true) := by
  cases recovers with
  | refused gate status grown =>
    refine iff_of_true ⟨frameless_fit good.frames (grown.imp fun _ => And.right), ?_⟩ ?_
    · rw [status, awaits_append_neutral pic (grown.imp fun _ => And.left)]
      exact good.pending
    · intro resets
      rw [gate] at resets
      cases resets
  | proceeded clear status grown =>
    have none : awaitsReset pic sink.calls = false := by
      by_contra awaits
      have failed := good.pending (by simpa using awaits)
      rw [clear] at failed
      cases failed
    refine iff_of_true ⟨neutral_fit good.frames grown none, ?_⟩ ?_
    · rw [awaits_append_neutral pic grown, none]
      exact nofun
    · intro resets
      rw [(gate_proceeds_iff ..).mpr clear] at resets
      cases resets
  | reset stream gate status grown =>
    obtain ⟨failed, retriable⟩ := reset_gate gate
    have awaits := awaits_after_reset pic sink.calls stream outcome.resetDone
    rw [traced.awaited failed retriable, Bool.true_and] at awaits
    constructor
    · intro kept _
      by_contra missed
      have pending := kept.pending (by
        rw [awaits_append_neutral pic grown, awaits]
        simpa using missed)
      rw [status] at pending
      cases pending
    · intro resets
      have done := resets gate
      rw [done] at awaits grown
      have entered : EachEntry (FitsRecovery pic) (sink.calls ++ [.bufferArrived, .resetStream stream true]) :=
        frameless_fit good.frames ⟨_, rfl, by simp [Call.isFrame]⟩
      refine ⟨neutral_fit entered grown awaits, ?_⟩
      rw [awaits_append_neutral pic grown, awaits]
      exact nofun

/-- What a report does to the record and the register. -/
theorem report_effect (pic : Pic) (sink : GstKvsSink) (status : Status) :
    awaitsReset pic (streamErrorReport pic sink status).calls =
        (awaitsReset pic sink.calls || retriableReport pic status) ∧
      (streamErrorReport pic sink status).data.streamStatus =
        (if pic.isRecoverableError status then sink.data.streamStatus else status) := by
  unfold streamErrorReport streamErrorReportHandler
  cases recoverable : pic.isRecoverableError status <;> cases sink.finalized <;>
    exact ⟨by simp [awaitsReset, stillAwaits], rfl⟩

private theorem report_keeps_iff (good : ResetComesFirst pic sink) (status : Status) :
    ResetComesFirst pic (streamErrorReport pic sink status) ↔
      (awaitsReset pic sink.calls = true → pic.isRecoverableError status = false →
        statusFailed status = true) := by
  obtain ⟨awaits, register⟩ := report_effect pic sink status
  have frames : EachEntry (FitsRecovery pic) (streamErrorReport pic sink status).calls := by
    apply frameless_fit good.frames
    apply (report_calls pic sink status).imp
    intro call made
    cases made <;> rfl
  have reduced : ResetComesFirst pic (streamErrorReport pic sink status) ↔
      (awaitsReset pic (streamErrorReport pic sink status).calls = true →
        statusFailed (streamErrorReport pic sink status).data.streamStatus = true) :=
    ⟨ResetComesFirst.pending, fun pending => ⟨frames, pending⟩⟩
  rw [reduced, awaits, register]
  unfold retriableReport
  cases recoverable : pic.isRecoverableError status with
  | true => simpa using good.pending
  | false =>
    simp only [Bool.false_eq_true, if_false]
    cases failed : statusFailed status <;> simp

/-! ## Every run -/

private theorem handler_ready (traced : RecoveryTraced pic sink) (outside : sink.state ≠ .null)
    (alive : sink.crashed = false) (arrival : Option (GstKvsSinkTrackData × GstBuffer))
    (outcome : BufferOutcome) :
    Recovers pic sink outcome (gstKvsSinkHandleBuffer pic sink arrival outcome) := by
  obtain ⟨stream, held⟩ := traced.known.held outside
  exact handler_recovers pic held alive arrival outcome

/-- An accepted buffer, with or without content, is a call of the handler. -/
theorem accepted_recovers (traced : RecoveryTraced pic sink) (accepted : step pic sink input = some next)
    (isCall : (∃ pad buffer, input = .buffer pad buffer outcome) ∨ input = .noBuffer outcome) :
    Recovers pic sink outcome next := by
  obtain ⟨admitted, rfl⟩ := step_eq_some.mp accepted
  rcases isCall with ⟨pad, buffer, rfl⟩ | rfl
  · have alive := admitted
    simp only [accepts, GstKvsSink.padDelivers, Bool.and_eq_true, Bool.not_eq_true',
      Option.any_eq_true] at alive
    obtain ⟨⟨alive, _⟩, _, track, found, _⟩ := alive
    simp only [applyInput, bufferFromPad, found]
    exact handler_ready traced (buffer_outside_null admitted) alive _ outcome
  · simp only [accepts, Bool.and_eq_true, Bool.not_eq_true'] at admitted
    obtain ⟨⟨alive, _⟩, streaming⟩ := admitted
    refine handler_ready traced ?_ alive _ outcome
    intro null
    rw [null] at streaming
    cases streaming

private theorem step_keeps_recovery_traced (traced : RecoveryTraced pic sink)
    (accepted : step pic sink input = some next) : RecoveryTraced pic next := by
  refine ⟨step_keeps_streams_known traced.known accepted, ?_⟩
  by_cases quiet : input.leavesStatus = true
  · obtain ⟨_, rfl⟩ := step_eq_some.mp accepted
    have grown := (input_calls pic sink input).imp fun _ made => (quiet_input_neutral quiet made).1
    rw [quiet_input_keeps_status pic sink quiet, awaits_append_neutral pic grown]
    exact traced.awaited
  · cases input with
    | buffer pad buffer outcome =>
      exact (accepted_recovers traced accepted (.inl ⟨pad, buffer, rfl⟩)).awaited traced.awaited
    | noBuffer outcome =>
      exact (accepted_recovers traced accepted (.inr rfl)).awaited traced.awaited
    | streamErrorReport status =>
      obtain ⟨_, rfl⟩ := step_eq_some.mp accepted
      obtain ⟨awaits, register⟩ := report_effect pic sink status
      simp only [applyInput]
      rw [awaits, register]
      cases recoverable : pic.isRecoverableError status with
      | true =>
        intro failed retriable
        rw [traced.awaited failed retriable, Bool.true_or]
      | false =>
        simp only [Bool.false_eq_true, if_false]
        intro failed retriable
        simp [retriableReport, failed, recoverable, retriable]
    | _ => exact absurd rfl quiet

private theorem step_keeps_pending_iff (traced : RecoveryTraced pic sink) (good : ResetComesFirst pic sink)
    (accepted : step pic sink input = some next) :
    ResetComesFirst pic next ↔ KeepsPending pic sink input := by
  by_cases quiet : input.leavesStatus = true
  · obtain ⟨_, rfl⟩ := step_eq_some.mp accepted
    have grown := (input_calls pic sink input).imp fun _ made => quiet_input_neutral quiet made
    refine iff_of_true ⟨frameless_fit good.frames (grown.imp fun _ => And.right), ?_⟩ ?_
    · rw [quiet_input_keeps_status pic sink quiet, awaits_append_neutral pic (grown.imp fun _ => And.left)]
      exact good.pending
    · cases input <;> trivial
  · cases input with
    | buffer pad buffer outcome =>
      exact (accepted_recovers traced accepted (.inl ⟨pad, buffer, rfl⟩)).keeps_iff traced good
    | noBuffer outcome =>
      exact (accepted_recovers traced accepted (.inr rfl)).keeps_iff traced good
    | streamErrorReport status =>
      obtain ⟨_, rfl⟩ := step_eq_some.mp accepted
      exact report_keeps_iff good status
    | _ => exact absurd rfl quiet

/-- However an element is used, frames wait for the reset that a retriable error
needs exactly when every reset the handler asks for succeeds, and no report of a
success overwrites the error. -/
theorem recovery_waits_for_reset_iff (pic : Pic) (now : UInt64) (inputs : List Input) :
    Throughout (step pic) (ResetComesFirst pic) (gstKvsSinkInit now) inputs ↔
      EachStep (step pic) (KeepsPending pic) (gstKvsSinkInit now) inputs := by
  apply @throughout_iff_each_step _ _ _ _ _ (RecoveryTraced pic)
  · exact fun _ _ _ traced accepted => step_keeps_recovery_traced traced accepted
  · exact fun _ _ _ traced good accepted => step_keeps_pending_iff traced good accepted
  · exact ⟨init_streams_known now, nofun⟩
  · exact ⟨each_entry_nil, nofun⟩

/-- A session with one pad in which a retriable error is reported before a
buffer, whose reset fails. -/
def failedReset : List Input :=
  [.requestNewPad .video true] ++ upTo (fun _ => some [h264Caps]) ++
    [.streamErrorReport 2, .buffer 0 ⟨0, 0, 0, [1]⟩ { resetDone := false }]

/-- The status is clear and the frame is submitted although no reset has succeeded. -/
theorem failed_reset_clears_the_error :
    ¬ ∀ (pic : Pic) (now : UInt64) (inputs : List Input),
      Throughout (step pic) (ResetComesFirst pic) (gstKvsSinkInit now) inputs := by
  intro always
  have evaluated : (run (step .sample) (gstKvsSinkInit 0) failedReset).map (fun sink =>
      (awaitsReset .sample sink.calls, sink.data.streamStatus,
        sink.calls.any (·.isFrame))) = some (true, statusSuccess, true) := by decide
  obtain ⟨sink, ran, facts⟩ := Option.map_eq_some_iff.mp evaluated
  simp only [Prod.mk.injEq] at facts
  have pending := ((always .sample 0 failedReset).at_end ran).pending facts.1
  rw [facts.2.1] at pending
  cases pending

end KvsProducer
