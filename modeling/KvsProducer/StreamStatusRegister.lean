import KvsProducer.SinkMachineProofs

/-! The error register between its two threads. The callback thread stores what
it is told, and the buffer handler loads, resets the stream and stores a clear
status, with anything in between. Both stores can overwrite a fatal status. -/
namespace KvsProducer
open Gst History Runs

/-! ## The handler, step by step -/

/-- One call of the buffer handler, with the answers it is going to get. -/
structure HandlerCall where
  arrival : Option (GstKvsSinkTrackData × GstBuffer)
  outcome : BufferOutcome

/-- Where the buffer handler is. -/
inductive HandlerPc where
  | idle
  | loaded (call : HandlerCall) (status : Status)
  | wasReset (call : HandlerCall)
  | cleared (call : HandlerCall)

structure Session where
  sink : GstKvsSink
  handler : HandlerPc := .idle

/-- One atomic step: a report is stored, a call starts and loads the register,
or the call in progress goes on. -/
inductive SessionStep where
  | report (status : Status)
  | enter (arrival : Option (PadId × GstBuffer)) (outcome : BufferOutcome)
  | advance

/-- The input of the whole call. -/
def arrivalInput (arrival : Option (PadId × GstBuffer)) (outcome : BufferOutcome) : Input :=
  match arrival with
  | none => .noBuffer outcome
  | some (pad, buffer) => .buffer pad buffer outcome

/-- The track and the buffer that `GstCollectPads` hands to the handler. -/
def GstKvsSink.arrived (sink : GstKvsSink) (arrival : Option (PadId × GstBuffer)) :
    Option (GstKvsSinkTrackData × GstBuffer) :=
  arrival.bind fun (pad, buffer) => (sink.trackOf pad).map fun track => (track, buffer)

def advanceHandler (pic : Pic) (session : Session) : Option Session :=
  match session.handler with
  | .idle => none
  | .loaded call status =>
    match streamErrorGate pic session.sink.streamingType status with
    | .fatal => some ⟨failBuffer session.sink call.arrival.isSome status, .idle⟩
    | .reset => some ⟨resetHeldStream session.sink call.outcome, .wasReset call⟩
    | .proceed => some ⟨handleBufferBody session.sink call.arrival call.outcome, .idle⟩
  | .wasReset call =>
    if session.sink.crashed then none else some ⟨clearStreamStatus session.sink, .cleared call⟩
  | .cleared call => some ⟨handleBufferBody session.sink call.arrival call.outcome, .idle⟩

/-- `GstCollectPads` makes one call at a time; a report comes whenever it likes. -/
def sessionStep (pic : Pic) (session : Session) : SessionStep → Option Session
  | .report status =>
    if accepts session.sink (.streamErrorReport status) then
      some { session with sink := streamErrorReport pic session.sink status }
    else none
  | .enter arrival outcome =>
    match session.handler with
    | .idle =>
      if accepts session.sink (arrivalInput arrival outcome) then
        some ⟨session.sink.log .bufferArrived,
          .loaded ⟨session.sink.arrived arrival, outcome⟩ session.sink.data.streamStatus⟩
      else none
    | _ => none
  | .advance => advanceHandler pic session

private theorem enter_cases (entered : sessionStep pic session (.enter arrival outcome) = some next) :
    session.handler = .idle ∧
      accepts session.sink (arrivalInput arrival outcome) = true ∧
      next = ⟨session.sink.log .bufferArrived,
        .loaded ⟨session.sink.arrived arrival, outcome⟩ session.sink.data.streamStatus⟩ := by
  unfold sessionStep at entered
  simp only at entered
  split at entered
  · rename_i idle
    split at entered <;> rename_i admitted
    · cases entered
      exact ⟨idle, admitted, rfl⟩
    · cases entered
  · cases entered

/-- A pad that delivers has its entry. -/
theorem arrival_handled (admitted : accepts sink (arrivalInput arrival outcome) = true) :
    applyInput pic sink (arrivalInput arrival outcome) =
      gstKvsSinkHandleBuffer pic sink (sink.arrived arrival) outcome := by
  cases arrival with
  | none => rfl
  | some arrived =>
    obtain ⟨pad, buffer⟩ := arrived
    simp only [arrivalInput, accepts, GstKvsSink.padDelivers, Bool.and_eq_true, Option.any_eq_true]
      at admitted
    obtain ⟨_, _, track, found, _⟩ := admitted
    simp only [arrivalInput, applyInput, bufferFromPad, GstKvsSink.arrived, found, Option.bind_some,
      Option.map_some]

private theorem advance_reaches (advanced : advanceHandler pic session = some next)
    (later : Reaches (sessionStep pic) next final) : Reaches (sessionStep pic) session final :=
  Reaches.trans ⟨[.advance], by simp [sessionStep, advanced]⟩ later

/-- A call that nothing interrupts is the handler as a whole. -/
theorem uninterrupted_call
    (entered : sessionStep pic ⟨sink, .idle⟩ (.enter arrival outcome) = some session)
    (survives : (applyInput pic sink (arrivalInput arrival outcome)).crashed = false) :
    Reaches (sessionStep pic) session
      ⟨applyInput pic sink (arrivalInput arrival outcome), .idle⟩ := by
  obtain ⟨_, admitted, rfl⟩ := enter_cases entered
  rw [arrival_handled admitted] at survives ⊢
  have streaming : (sink.log .bufferArrived).streamingType = sink.streamingType := rfl
  simp only [gstKvsSinkHandleBuffer, log_data, streaming] at survives ⊢
  cases gate : streamErrorGate pic sink.streamingType sink.data.streamStatus with
  | fatal =>
    apply advance_reaches _ (.refl _ _)
    simp only [advanceHandler, streaming, gate]
  | proceed =>
    apply advance_reaches _ (.refl _ _)
    simp only [advanceHandler, streaming, gate]
  | reset =>
    simp only [gate] at survives ⊢
    have standing : (resetHeldStream (sink.log .bufferArrived) outcome).crashed = false := by
      by_contra crashed
      simp only [Bool.not_eq_false] at crashed
      rw [if_pos crashed, crashed] at survives
      cases survives
    rw [if_neg (by simp [standing])]
    have reset : advanceHandler pic ⟨sink.log .bufferArrived,
        .loaded ⟨sink.arrived arrival, outcome⟩ sink.data.streamStatus⟩ =
        some ⟨resetHeldStream (sink.log .bufferArrived) outcome,
          .wasReset ⟨sink.arrived arrival, outcome⟩⟩ := by
      simp only [advanceHandler, streaming, gate]
    have cleared : advanceHandler pic ⟨resetHeldStream (sink.log .bufferArrived) outcome,
          .wasReset ⟨sink.arrived arrival, outcome⟩⟩ =
        some ⟨clearStreamStatus (resetHeldStream (sink.log .bufferArrived) outcome),
          .cleared ⟨sink.arrived arrival, outcome⟩⟩ := by
      simp only [advanceHandler, standing, Bool.false_eq_true, if_false]
    exact advance_reaches reset (advance_reaches cleared (advance_reaches rfl (.refl _ _)))

/-! ## Fatal statuses -/

/-- Neither recoverable nor retriable. -/
def IsFatal (pic : Pic) (status : Status) : Prop :=
  pic.isRecoverableError status = false ∧ pic.isRetriableError status = false

/-- The status makes the handler of a live stream fail its buffer. -/
def Refuses (pic : Pic) (status : Status) : Prop :=
  statusFailed status = true ∧ pic.isRetriableError status = false

def FatalReported (pic : Pic) (calls : List Call) : Prop :=
  ∃ status, IsFatal pic status ∧ .streamErrorReport status ∈ calls

/-- Every call of the handler that started after a fatal report submitted no
frame, and did not return anything but an error. -/
def CallsRefused (pic : Pic) (started sink : GstKvsSink) : Prop :=
  ∀ before after, sink.since started = before ++ .bufferArrived :: after →
    FatalReported pic before →
    ∀ call ∈ after, call.isFrame = false ∧ ∀ ret, call = .bufferDone ret → ret = .error

/-- The call returned an error and submitted no frame. -/
def CallRefused (before after : GstKvsSink) : Prop :=
  ∃ added, after.calls = before.calls ++ added ∧ .bufferDone .error ∈ added ∧
    ∀ call ∈ added, call.isFrame = false

/-- **No fatal report is lost.** The calls that came after it were refused, and
one that started now would be. -/
structure FatalNotLost (pic : Pic) (started : GstKvsSink) (session : Session) : Prop where
  past : CallsRefused pic started session.sink
  next : FatalReported pic (session.sink.since started) → ∀ arrival outcome,
    CallRefused session.sink (gstKvsSinkHandleBuffer pic session.sink arrival outcome)

/-- The step overwrites no fatal status: after a fatal report nothing is stored
that the handler would not refuse, be it a report or the handler's own clear status. -/
def KeepsFatal (pic : Pic) (started : GstKvsSink) (session : Session) : SessionStep → Prop
  | .report status =>
    FatalReported pic (session.sink.since started ++ [.streamErrorReport status]) →
      pic.isRecoverableError status = false → Refuses pic status
  | .enter _ _ => True
  | .advance =>
    match session.handler with
    | .wasReset _ => ¬ FatalReported pic (session.sink.since started)
    | _ => True

/-! ## The register -/

theorem live_gate (live : isOfflineStreamingMode streamingType = false) (pic : Pic) (status : Status) :
    streamErrorGate pic streamingType status = .fatal ↔ Refuses pic status := by
  unfold streamErrorGate Refuses
  by_cases failed : statusFailed status = true
  · by_cases retriable : pic.isRetriableError status = true
    · simp [failed, live, retriable]
    · simp [failed, live, retriable]
  · simp [failed]

/-- The call is neither a report nor the start of a call. -/
def Unmarked (call : Call) : Prop := call ≠ .bufferArrived ∧ ∀ status, call ≠ .streamErrorReport status

private theorem body_unmarked (made : BodyCall held trackId call) : Unmarked call := by
  cases made <;> exact ⟨nofun, nofun⟩

private theorem fatal_reported_append (pic : Pic) (calls added : List Call)
    (unmarked : ∀ call ∈ added, ∀ status, call ≠ .streamErrorReport status) :
    FatalReported pic (calls ++ added) ↔ FatalReported pic calls := by
  constructor
  · rintro ⟨status, fatal, member⟩
    rcases List.mem_append.mp member with earlier | later
    · exact ⟨status, fatal, earlier⟩
    · exact absurd rfl (unmarked _ later status)
  · rintro ⟨status, fatal, member⟩
    exact ⟨status, fatal, List.mem_append_left _ member⟩

/-- What the handler adds when it fails a buffer. -/
theorem fail_buffer_calls (sink : GstKvsSink) (arrived : Bool) (status : Status) :
    ∃ added, (failBuffer sink arrived status).calls = sink.calls ++ added ∧
      .bufferDone .error ∈ added ∧
      ∀ call ∈ added, Unmarked call ∧ call.isFrame = false ∧
        ∀ ret, call = .bufferDone ret → ret = .error := by
  cases arrived with
  | true =>
    refine ⟨[.elementError (.streamError status), .releaseBuffer, .bufferDone .error], ?_, ?_, ?_⟩
    · simp [failBuffer, cleanUpBuffer, statusFailed]
    · simp
    · simp [Unmarked, Call.isFrame]
  | false =>
    refine ⟨[.elementError (.streamError status), .bufferDone .error], ?_, ?_, ?_⟩
    · simp [failBuffer, cleanUpBuffer, statusFailed]
    · simp
    · simp [Unmarked, Call.isFrame]

/-- A call without a buffer fails only at the error gate. -/
theorem empty_call_fails_nothing (passes : streamErrorGate pic sink.streamingType sink.data.streamStatus ≠ .fatal) :
    ∃ added, (gstKvsSinkHandleBuffer pic sink none {}).calls = sink.calls ++ added ∧
      .bufferDone .error ∉ added := by
  have streaming : (sink.log .bufferArrived).streamingType = sink.streamingType := rfl
  simp only [gstKvsSinkHandleBuffer, log_data, streaming]
  cases gate : streamErrorGate pic sink.streamingType sink.data.streamStatus with
  | fatal => exact absurd gate passes
  | proceed =>
    exact ⟨[.bufferArrived, .bufferDone .ok],
      by simp [handleBufferBody, cleanUpBuffer, statusFailed], by simp⟩
  | reset =>
    have wasReset : ∃ added, (resetHeldStream (sink.log .bufferArrived) {}).calls =
        sink.calls ++ added ∧ .bufferDone .error ∉ added := by
      unfold resetHeldStream
      split
      · exact ⟨[.bufferArrived], by simp, by simp⟩
      · exact ⟨[.bufferArrived, .resetStream _ true], by simp; rfl, by simp⟩
    generalize resetHeldStream (sink.log .bufferArrived) {} = afterReset at wasReset
    obtain ⟨added, made, silent⟩ := wasReset
    simp only
    split
    · exact ⟨added, made, silent⟩
    · exact ⟨added ++ [.bufferDone .ok],
        by simp [handleBufferBody, cleanUpBuffer, statusFailed, made], by simp [silent]⟩

/-- A call made now is refused exactly when the register holds a status that
the handler refuses. -/
theorem call_refused_iff {sink : GstKvsSink}
    (live : isOfflineStreamingMode sink.streamingType = false) (pic : Pic) :
    (∀ arrival outcome, CallRefused sink (gstKvsSinkHandleBuffer pic sink arrival outcome)) ↔
      Refuses pic sink.data.streamStatus := by
  have streaming : (sink.log .bufferArrived).streamingType = sink.streamingType := rfl
  constructor
  · intro refused
    by_contra passes
    rw [← live_gate live] at passes
    obtain ⟨added, made, failed, _⟩ := refused none {}
    obtain ⟨same, made', silent⟩ := empty_call_fails_nothing passes
    rw [List.append_cancel_left (made.symm.trans made')] at failed
    exact silent failed
  · intro refuses arrival outcome
    have gate := (live_gate live pic sink.data.streamStatus).mpr refuses
    simp only [gstKvsSinkHandleBuffer, log_data, streaming, gate]
    obtain ⟨added, made, failed, kinds⟩ :=
      fail_buffer_calls (sink.log .bufferArrived) arrival.isSome sink.data.streamStatus
    refine ⟨.bufferArrived :: added, by simp [made], List.mem_cons_of_mem _ failed, ?_⟩
    intro call member
    rcases List.mem_cons.mp member with rfl | later
    · rfl
    · exact (kinds call later).2.1

/-! ## One step -/

/-- A call in progress is going to be refused. -/
def HandlerPc.Refuses (pic : Pic) : HandlerPc → Prop
  | .idle => True
  | .loaded _ status => KvsProducer.Refuses pic status
  | _ => False

/-- What the handler can do when it goes on in a live session. -/
inductive Advances (pic : Pic) (session : Session) : Session → Prop where
  | refused : session.handler = .loaded call status → Refuses pic status →
      Advances pic session ⟨failBuffer session.sink call.arrival.isSome status, .idle⟩
  | cleared : session.handler = .wasReset call →
      Advances pic session ⟨clearStreamStatus session.sink, .cleared call⟩
  | went : ¬ session.handler.Refuses pic → (∀ call, session.handler ≠ .wasReset call) →
      after.data.streamStatus = session.sink.data.streamStatus →
      after.streamingType = session.sink.streamingType →
      Grows Unmarked session.sink.calls after.calls →
      Advances pic session ⟨after, handler⟩

private theorem advance_cases (live : isOfflineStreamingMode session.sink.streamingType = false)
    (advanced : advanceHandler pic session = some next) : Advances pic session next := by
  have body (call : HandlerCall) (refuses : ¬ session.handler.Refuses pic)
      (elsewhere : ∀ call, session.handler ≠ .wasReset call) : Advances pic session
        ⟨handleBufferBody session.sink call.arrival call.outcome, .idle⟩ := by
    have kept := body_keeps_frameless session.sink call.arrival call.outcome
    exact .went refuses elsewhere (congrArg (·.data.streamStatus) kept)
      (congrArg (·.streamingType) kept)
      ((body_calls session.sink call.arrival call.outcome).imp fun _ => body_unmarked)
  unfold advanceHandler at advanced
  split at advanced <;> rename_i here
  · cases advanced
  · rename_i call status
    have loaded : session.handler.Refuses pic ↔ Refuses pic status := by rw [here]; rfl
    have gate := live_gate live pic status
    split at advanced <;> rename_i passed <;> cases advanced
    · exact .refused here (gate.mp passed)
    · have refuses : ¬ session.handler.Refuses pic := by
        rw [loaded, ← gate, passed]
        nofun
      have elsewhere (call : HandlerCall) : session.handler ≠ .wasReset call := by rw [here]; nofun
      unfold resetHeldStream
      split
      · exact .went refuses elsewhere rfl rfl (.refl _)
      · exact .went refuses elsewhere rfl rfl (.snoc ⟨nofun, nofun⟩ _)
    · apply body
      · rw [loaded, ← gate, passed]
        nofun
      · rw [here]
        nofun
  · split at advanced <;> cases advanced
    exact .cleared here
  · cases advanced
    apply body
    · rw [here]
      exact not_false
    · rw [here]
      nofun

/-- A session of a live stream, some time after its start. -/
structure LiveSession (started : GstKvsSink) (session : Session) : Prop where
  live : isOfflineStreamingMode session.sink.streamingType = false
  began : started.calls <+: session.sink.calls

/-- A report is the last entry of the record, and the register holds it unless
it is recoverable. -/
theorem report_changes (pic : Pic) (sink : GstKvsSink) (status : Status) :
    ∃ late, (streamErrorReport pic sink status).calls =
        sink.calls ++ (late ++ [.streamErrorReport status]) ∧
      (∀ call ∈ late, call = .callbackAfterFinalize) ∧
      (streamErrorReport pic sink status).streamingType = sink.streamingType ∧
      (streamErrorReport pic sink status).data.streamStatus =
        if pic.isRecoverableError status then sink.data.streamStatus else status := by
  have reported (called : GstKvsSink) :
      (streamErrorReportHandler pic called status).calls =
          called.calls ++ [.streamErrorReport status] ∧
        (streamErrorReportHandler pic called status).streamingType = called.streamingType ∧
        (streamErrorReportHandler pic called status).data.streamStatus =
          if pic.isRecoverableError status then called.data.streamStatus else status := by
    unfold streamErrorReportHandler
    cases pic.isRecoverableError status <;> exact ⟨rfl, rfl, rfl⟩
  unfold streamErrorReport
  cases sink.finalized with
  | false =>
    obtain ⟨calls, streaming, stored⟩ := reported sink
    exact ⟨[], calls, by simp, streaming, stored⟩
  | true =>
    obtain ⟨calls, streaming, stored⟩ := reported (sink.log .callbackAfterFinalize)
    exact ⟨[.callbackAfterFinalize], by simp [calls], by simp, streaming, stored⟩

/-- What a step adds to the record of a live session. -/
theorem session_step_adds {session next : Session} (running : LiveSession started session)
    (accepted : sessionStep pic session input = some next) :
    ∃ added, next.sink.calls = session.sink.calls ++ added ∧
      next.sink.streamingType = session.sink.streamingType := by
  cases input with
  | report status =>
    unfold sessionStep at accepted
    simp only at accepted
    split at accepted <;> cases accepted
    obtain ⟨late, calls, _, streaming, _⟩ := report_changes pic session.sink status
    exact ⟨_, calls, streaming⟩
  | enter arrival outcome =>
    obtain ⟨_, _, rfl⟩ := enter_cases accepted
    exact ⟨_, rfl, rfl⟩
  | advance =>
    cases advance_cases running.live accepted with
    | @refused call status _ _ =>
      obtain ⟨added, made, _⟩ := fail_buffer_calls session.sink call.arrival.isSome status
      have kept : (failBuffer session.sink call.arrival.isSome status).framelessPart =
          session.sink.framelessPart :=
        (clean_up_keeps_frameless _ _ _ _).trans (log_frameless _ _)
      exact ⟨added, made, congrArg (·.streamingType) kept⟩
    | cleared => exact ⟨[], by simp, rfl⟩
    | went _ _ _ streaming grown =>
      obtain ⟨added, made, _⟩ := grown
      exact ⟨added, made, streaming⟩

private theorem session_goes_on {session next : Session} (running : LiveSession started session)
    (accepted : sessionStep pic session input = some next) : LiveSession started next := by
  obtain ⟨added, made, streaming⟩ := session_step_adds running accepted
  exact ⟨streaming ▸ running.live, made ▸ running.began.trans (List.prefix_append _ _)⟩

/-- Once a fatal status was reported the register holds one the handler refuses. -/
def FatalHeld (pic : Pic) (started : GstKvsSink) (session : Session) : Prop :=
  FatalReported pic (session.sink.since started) → Refuses pic session.sink.data.streamStatus

private theorem unmarked_keeps_reported {before after : GstKvsSink} (began : started.calls <+: before.calls)
    (grown : Grows Unmarked before.calls after.calls) :
    FatalReported pic (after.since started) ↔ FatalReported pic (before.since started) := by
  obtain ⟨added, made, unmarked⟩ := grown
  rw [since_append began made]
  exact fatal_reported_append pic _ _ fun call member => (unmarked call member).2

/-- A step keeps the register exactly when it overwrites no fatal status. -/
theorem fatal_held_iff {session next : Session} (running : LiveSession started session)
    (held : FatalHeld pic started session) (accepted : sessionStep pic session input = some next) :
    FatalHeld pic started next ↔ KeepsFatal pic started session input := by
  unfold FatalHeld KeepsFatal
  cases input with
  | report status =>
    unfold sessionStep at accepted
    simp only at accepted
    split at accepted <;> cases accepted
    obtain ⟨late, calls, lateOnly, _, stored⟩ := report_changes pic session.sink status
    have reported : FatalReported pic ((streamErrorReport pic session.sink status).since started) ↔
        FatalReported pic (session.sink.since started ++ [.streamErrorReport status]) := by
      rw [since_append running.began calls]
      constructor
      · rintro ⟨fatal, isFatal, member⟩
        simp only [List.mem_append, List.mem_singleton] at member ⊢
        refine ⟨fatal, isFatal, ?_⟩
        rcases member with earlier | after | now
        · exact List.mem_append_left _ earlier
        · cases lateOnly _ after
        · exact List.mem_append_right _ (List.mem_singleton.mpr now)
      · rintro ⟨fatal, isFatal, member⟩
        refine ⟨fatal, isFatal, ?_⟩
        rcases List.mem_append.mp member with earlier | now
        · exact List.mem_append_left _ earlier
        · exact List.mem_append_right _ (List.mem_append_right _ now)
    simp only [reported, stored]
    cases recoverable : pic.isRecoverableError status with
    | false => simp
    | true =>
      have quiet : FatalReported pic (session.sink.since started ++ [.streamErrorReport status]) →
          FatalReported pic (session.sink.since started) := by
        rintro ⟨fatal, isFatal, member⟩
        rcases List.mem_append.mp member with earlier | now
        · exact ⟨fatal, isFatal, earlier⟩
        · cases List.mem_singleton.mp now
          exact nomatch recoverable.symm.trans isFatal.1
      simp only [if_true, Bool.true_eq_false, false_implies, implies_true, iff_true]
      exact fun later => held (quiet later)
  | enter arrival outcome =>
    obtain ⟨_, _, rfl⟩ := enter_cases accepted
    have same := fatal_reported_append pic (session.sink.since started) [.bufferArrived] (by simp)
    rw [← since_append running.began (log_calls session.sink .bufferArrived)] at same
    simp only [same, iff_true]
    exact held
  | advance =>
    cases advance_cases running.live accepted with
    | @refused call status here _ =>
      obtain ⟨added, made, _, kinds⟩ := fail_buffer_calls session.sink call.arrival.isSome status
      have grown : Grows Unmarked session.sink.calls
          (failBuffer session.sink call.arrival.isSome status).calls :=
        ⟨added, made, fun call member => (kinds call member).1⟩
      have stored : (failBuffer session.sink call.arrival.isSome status).data.streamStatus =
          session.sink.data.streamStatus := by
        unfold failBuffer cleanUpBuffer
        cases call.arrival <;> rfl
      simp only [unmarked_keeps_reported running.began grown, stored, here, iff_true]
      exact held
    | cleared here =>
      have passes : ¬ Refuses pic (clearStreamStatus session.sink).data.streamStatus := by
        rintro ⟨failed, _⟩
        cases failed
      simp only [here]
      exact ⟨fun kept reported => passes (kept reported), fun quiet reported => absurd reported quiet⟩
    | went _ elsewhere stored _ grown =>
      simp only [unmarked_keeps_reported running.began grown, stored]
      exact iff_of_true held trivial

/-! ## A whole session -/

/-- The calls that started after a fatal report were refused so far, and so will
be the one in progress, if it is one of them. -/
structure CallsAnswered (pic : Pic) (started : GstKvsSink) (session : Session) : Prop where
  past : CallsRefused pic started session.sink
  current : ∀ before after, session.sink.since started = before ++ .bufferArrived :: after →
    FatalReported pic before → session.handler.Refuses pic

/-- Entries that start no call leave it to the calls that are there to be refused. -/
theorem CallsAnswered.extend {before after : GstKvsSink} (answered : CallsAnswered pic started ⟨before, handler⟩)
    (grew : after.since started = before.since started ++ added)
    (starts : .bufferArrived ∉ added)
    (refused : handler.Refuses pic → (∀ call ∈ added, call.isFrame = false ∧
        ∀ ret, call = .bufferDone ret → ret = .error) ∧ next.Refuses pic) :
    CallsAnswered pic started ⟨after, next⟩ := by
  have located (early late : List Call)
      (split : after.since started = early ++ .bufferArrived :: late) :
      ∃ rest, before.since started = early ++ .bufferArrived :: rest ∧ late = rest ++ added :=
    split_before_added starts (grew.symm.trans split)
  constructor
  · intro early late split fatal call member
    obtain ⟨rest, earlier, rfl⟩ := located early late split
    have current := refused (answered.current early rest earlier fatal)
    rcases List.mem_append.mp member with old | new
    · exact answered.past early rest earlier fatal call old
    · exact current.1 call new
  · intro early late split fatal
    obtain ⟨rest, earlier, rfl⟩ := located early late split
    exact (refused (answered.current early rest earlier fatal)).2

private theorem answered_step {session next : Session} (running : LiveSession started session)
    (held : FatalHeld pic started session) (answered : CallsAnswered pic started session)
    (accepted : sessionStep pic session input = some next) : CallsAnswered pic started next := by
  obtain ⟨sink, handler⟩ := session
  cases input with
  | report status =>
    unfold sessionStep at accepted
    simp only at accepted
    split at accepted <;> cases accepted
    obtain ⟨late, calls, lateOnly, _, _⟩ := report_changes pic sink status
    have added := since_append running.began calls
    apply answered.extend added
    · intro starts
      rcases List.mem_append.mp starts with late | now
      · cases lateOnly _ late
      · cases List.mem_singleton.mp now
    · intro refuses
      refine ⟨fun call member => ?_, refuses⟩
      rcases List.mem_append.mp member with late | now
      · rw [lateOnly call late]
        exact ⟨rfl, nofun⟩
      · rw [List.mem_singleton.mp now]
        exact ⟨rfl, nofun⟩
  | enter arrival outcome =>
    obtain ⟨idle, _, rfl⟩ := enter_cases accepted
    have grew := since_append running.began (log_calls sink .bufferArrived)
    simp only at idle
    subst idle
    constructor
    · intro early late split fatal call member
      obtain ⟨_, rfl⟩ | ⟨rest, earlier, rfl⟩ := split_snoc (grew.symm.trans split)
      · cases member
      · rcases List.mem_append.mp member with old | now
        · exact answered.past early rest earlier fatal call old
        · rw [List.mem_singleton.mp now]
          exact ⟨rfl, nofun⟩
    · intro early late split fatal
      apply held
      obtain ⟨all, _⟩ | ⟨rest, earlier, _⟩ := split_snoc (grew.symm.trans split)
      · exact all ▸ fatal
      · obtain ⟨status, isFatal, member⟩ := fatal
        exact ⟨status, isFatal, earlier ▸ List.mem_append_left _ member⟩
  | advance =>
    cases advance_cases running.live accepted with
    | @refused call status here refuses =>
      obtain ⟨added, made, _, kinds⟩ := fail_buffer_calls sink call.arrival.isSome status
      apply answered.extend (since_append running.began made)
      · intro starts
        exact (kinds _ starts).1.1 rfl
      · intro _
        exact ⟨fun call member => (kinds call member).2, trivial⟩
    | cleared here =>
      have grew : (clearStreamStatus sink).since started = sink.since started ++ [] :=
        (List.append_nil _).symm
      apply answered.extend grew (List.not_mem_nil)
      intro refuses
      simp only at here
      rw [here] at refuses
      exact refuses.elim
    | went refuses _ _ _ grown =>
      obtain ⟨added, made, unmarked⟩ := grown
      apply answered.extend (since_append running.began made)
      · intro starts
        exact (unmarked _ starts).1 rfl
      · intro would
        exact absurd would refuses

private theorem fatal_not_lost_iff {session : Session} (running : LiveSession started session) :
    FatalNotLost pic started session ↔
      CallsRefused pic started session.sink ∧ FatalHeld pic started session := by
  have register := call_refused_iff running.live pic
  constructor
  · rintro ⟨past, next⟩
    exact ⟨past, fun reported => register.mp (next reported)⟩
  · rintro ⟨past, held⟩
    exact ⟨past, fun reported => register.mpr (held reported)⟩

/-- No fatal report of a live session is lost exactly when nothing is stored
over a fatal status. -/
theorem fatal_never_lost_iff_never_overwritten
    (live : isOfflineStreamingMode started.streamingType = false) :
    Throughout (sessionStep pic) (FatalNotLost pic started) ⟨started, .idle⟩ steps ↔
      EachStep (sessionStep pic) (KeepsFatal pic started) ⟨started, .idle⟩ steps := by
  have begins : LiveSession started ⟨started, .idle⟩ := ⟨live, List.prefix_refl _⟩
  have nothing : GstKvsSink.since started started = [] := List.drop_length
  have heldFirst : FatalHeld pic started ⟨started, .idle⟩ := by
    rintro ⟨_, _, member⟩
    rw [nothing] at member
    cases member
  have running : Throughout (sessionStep pic) (LiveSession started) ⟨started, .idle⟩ steps :=
    invariant_throughout (fun _ _ _ running _ accepted => session_goes_on running accepted) begins
      (each_step_of_forall fun _ _ => trivial)
  have register : Throughout (sessionStep pic) (FatalHeld pic started) ⟨started, .idle⟩ steps ↔
      EachStep (sessionStep pic) (KeepsFatal pic started) ⟨started, .idle⟩ steps :=
    throughout_iff_each_step (fun _ _ _ => session_goes_on)
      (fun _ _ _ running held accepted => fatal_held_iff running held accepted) begins heldFirst
  rw [← register]
  constructor
  · intro kept
    apply (running.and kept).imp
    rintro session ⟨runs, notLost⟩
    exact ((fatal_not_lost_iff runs).mp notLost).2
  · intro held
    have answeredFirst : CallsAnswered pic started ⟨started, .idle⟩ := by
      constructor
      · intro before after split
        rw [nothing] at split
        simp at split
      · intro _ _ _ _
        trivial
    have answered : Throughout (sessionStep pic) (CallsAnswered pic started) ⟨started, .idle⟩ steps :=
      (running.and held).carries (fun _ _ _ known answered accepted =>
        answered_step known.1 known.2 answered accepted) answeredFirst
    apply ((running.and held).and answered).imp
    rintro session ⟨⟨runs, holds⟩, calls⟩
    exact (fatal_not_lost_iff runs).mpr ⟨calls.past, holds⟩

/-- An element with one video pad in PAUSED, and a buffer for it. -/
def videoSession : List Input :=
  [.requestNewPad .video true] ++ upTo fun _ => some [h264Caps]

def videoBuffer : SessionStep := .enter (some (0, ⟨0, 0, 0, [1]⟩)) {}

/-- A fatal report alone is not lost. -/
theorem fatal_report_refuses_the_next_buffer :
    ∃ started, runFromInit .sample 0 videoSession = some started ∧
      Throughout (sessionStep .sample) (FatalNotLost .sample started) ⟨started, .idle⟩
        [.report 3, videoBuffer, .advance] := by
  have evaluated : (runFromInit .sample 0 videoSession).map (·.streamingType) = some .realtime := by
    decide
  obtain ⟨started, ran, streaming⟩ := Option.map_eq_some_iff.mp evaluated
  have live : isOfflineStreamingMode started.streamingType = false := by rw [streaming]; rfl
  refine ⟨started, ran, (fatal_never_lost_iff_never_overwritten live).mpr ?_⟩
  intro reported _
  refine ⟨fun _ _ => ⟨by decide, by decide⟩, fun entered accepted => ⟨trivial, fun refused _ => ⟨?_, trivial⟩⟩⟩
  obtain ⟨_, _, rfl⟩ := enter_cases accepted
  trivial

def Call.isArrival : Call → Bool
  | .bufferArrived => true
  | _ => false

def Call.reports (status : Status) : Call → Bool
  | .streamErrorReport reported => reported == status
  | _ => false

/-- A frame of a call that started after a fatal report. -/
theorem not_refused {started sink : GstKvsSink} (position : ℕ) (fatal : IsFatal pic status)
    (reported : ((sink.since started).take position).any (Call.reports status) = true)
    (arrives : ((sink.since started)[position]?).any Call.isArrival = true)
    (submits : ((sink.since started).drop (position + 1)).any Call.isFrame = true) :
    ¬ CallsRefused pic started sink := by
  intro refused
  obtain ⟨entry, here, arrival⟩ := (Option.any_eq_true _ _).mp arrives
  obtain ⟨report, before, same⟩ := List.any_eq_true.mp reported
  obtain ⟨frame, after, isFrame⟩ := List.any_eq_true.mp submits
  have atEntry : entry = .bufferArrived := by
    unfold Call.isArrival at arrival
    split at arrival
    · rfl
    · cases arrival
  have atReport : report = .streamErrorReport status := by
    unfold Call.reports at same
    split at same
    · rw [beq_iff_eq.mp same]
    · cases same
  obtain ⟨inside, at'⟩ := List.getElem?_eq_some_iff.mp here
  have split : sink.since started = (sink.since started).take position ++
      .bufferArrived :: (sink.since started).drop (position + 1) := by
    rw [← atEntry, ← at', List.getElem_cons_drop, List.take_append_drop]
  have silent := (refused _ _ split ⟨status, fatal, atReport ▸ before⟩ frame after).1
  exact nomatch silent.symm.trans isFrame

/-- Two sessions that lose a fatal report: a retriable report overwrites it, and
the handler clears it after the reset for an earlier one. -/
theorem fatal_report_is_overwritten :
    ∃ started, runFromInit .sample 0 videoSession = some started ∧
      (∃ final, run (sessionStep .sample) ⟨started, .idle⟩
          [.report 3, .report 2, videoBuffer, .advance, .advance, .advance] = some final ∧
        ¬ CallsRefused .sample started final.sink) ∧
      ∃ final, run (sessionStep .sample) ⟨started, .idle⟩
          [.report 2, videoBuffer, .advance, .report 3, .advance, .advance, videoBuffer, .advance] =
            some final ∧
        ¬ CallsRefused .sample started final.sink := by
  have evaluated : (runFromInit .sample 0 videoSession).map (fun started =>
      ((run (sessionStep .sample) ⟨started, .idle⟩
          [.report 3, .report 2, videoBuffer, .advance, .advance, .advance]).map fun final =>
        (((final.sink.since started).take 2).any (Call.reports 3),
          ((final.sink.since started)[2]?).any Call.isArrival,
          ((final.sink.since started).drop 3).any Call.isFrame),
      (run (sessionStep .sample) ⟨started, .idle⟩
          [.report 2, videoBuffer, .advance, .report 3, .advance, .advance, videoBuffer, .advance]).map
        fun final =>
        (((final.sink.since started).take 7).any (Call.reports 3),
          ((final.sink.since started)[7]?).any Call.isArrival,
          ((final.sink.since started).drop 8).any Call.isFrame))) =
      some (some (true, true, true), some (true, true, true)) := by decide
  obtain ⟨started, ran, facts⟩ := Option.map_eq_some_iff.mp evaluated
  simp only [Prod.mk.injEq] at facts
  obtain ⟨first, second⟩ := facts
  obtain ⟨final, ranOn, facts⟩ := Option.map_eq_some_iff.mp first
  obtain ⟨final', ranOn', facts'⟩ := Option.map_eq_some_iff.mp second
  simp only [Prod.mk.injEq] at facts facts'
  have fatal : IsFatal .sample 3 := ⟨by decide, by decide⟩
  exact ⟨started, ran, ⟨final, ranOn, not_refused 2 fatal facts.1 facts.2.1 facts.2.2⟩,
    final', ranOn', not_refused 7 fatal facts'.1 facts'.2.1 facts'.2.2⟩

end KvsProducer
