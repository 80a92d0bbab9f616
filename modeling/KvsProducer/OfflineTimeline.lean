import KvsProducer.SessionTimeline

/-! The offline timeline. The start time of a file is applied when a stream is
created, and only if it is not zero; nothing takes back what it wrote. A session
without a start time therefore depends on the sessions before it, and this file
keeps the record of what they imposed. -/
namespace KvsProducer
open Gst GLib History Runs

/-- The start time of a file in nanoseconds, as the element computes it. -/
def startTimeInNanos (fileStartTime : UInt64) : UInt64 := (fileStartTime.toInt64 * 1000000000).toUInt64

private theorem start_time_zero : startTimeInNanos 0 = 0 := by decide

/-- The signed multiplication wraps as the unsigned one does. -/
theorem start_time_wraps (fileStartTime : UInt64) :
    startTimeInNanos fileStartTime = fileStartTime * 1000000000 := by
  apply UInt64.toBitVec_inj.mp
  rfl

private theorem start_time_exact (fits : fileStartTime.toNat * 1000000000 < 2 ^ 64) :
    (startTimeInNanos fileStartTime).toNat = fileStartTime.toNat * 1000000000 := by
  rw [start_time_wraps, UInt64.toNat_mul]
  exact Nat.mod_eq_of_lt fits

/-- The two fields that a start time writes. -/
structure TimestampBase where
  absoluteFragmentTimes : Bool
  ptsBase : UInt64
  deriving DecidableEq, Repr

def GstKvsSink.timestampBase (sink : GstKvsSink) : TimestampBase :=
  ⟨sink.absoluteFragmentTimes, sink.data.ptsBase⟩

/-- A stream that the element creates now gets the start time of its file. -/
def GstKvsSink.hasStartTime (sink : GstKvsSink) : Bool :=
  isOfflineStreamingMode sink.streamingType && sink.fileStartTime != 0

/-- The two fields after an attempt to create a stream. -/
def GstKvsSink.settledBase (sink : GstKvsSink) : TimestampBase :=
  if sink.hasStartTime then ⟨true, startTimeInNanos sink.fileStartTime⟩ else sink.timestampBase

/-- NULL_TO_READY comes as far as creating a stream. -/
def reachesCreation (pic : Pic) (sink : GstKvsSink) (outcome : ChangeStateOutcome) : Bool :=
  match kinesisVideoProducerInit sink outcome with
  | (_, .error _) => false
  | (held, .ok ()) =>
    match initTrackData pic held outcome with
    | (_, .error _) => false
    | (_, .ok ()) => true

/-! ## Creating a stream -/

/-- What settling the base looks at and writes. -/
structure SameBase (before after : GstKvsSink) : Prop where
  streamingType : after.streamingType = before.streamingType
  fileStartTime : after.fileStartTime = before.fileStartTime
  base : after.timestampBase = before.timestampBase

theorem SameBase.settled (same : SameBase before after) : after.settledBase = before.settledBase := by
  unfold GstKvsSink.settledBase GstKvsSink.hasStartTime
  rw [same.streamingType, same.fileStartTime, same.base]

/-- An attempt to create a stream settles the base, once and for all attempts. -/
structure Settles (before after : GstKvsSink) : Prop where
  streamingType : after.streamingType = before.streamingType
  fileStartTime : after.fileStartTime = before.fileStartTime
  base : after.timestampBase = before.settledBase

theorem Settles.again (settles : Settles before after) : after.settledBase = before.settledBase := by
  have time : after.hasStartTime = before.hasStartTime := by
    unfold GstKvsSink.hasStartTime
    rw [settles.streamingType, settles.fileStartTime]
  have base := settles.base
  unfold GstKvsSink.settledBase at base ⊢
  rw [time, settles.fileStartTime]
  by_cases timed : before.hasStartTime = true
  · rw [if_pos timed, if_pos timed]
  · rw [if_neg timed] at base ⊢
    rw [if_neg timed]
    exact base

theorem Settles.then_same (settles : Settles before middle) (same : SameBase middle after) :
    Settles before after :=
  ⟨same.streamingType.trans settles.streamingType, same.fileStartTime.trans settles.fileStartTime,
    same.base.trans settles.base⟩

theorem Settles.then_settles (first : Settles before middle) (second : Settles middle after) :
    Settles before after :=
  ⟨second.streamingType.trans first.streamingType, second.fileStartTime.trans first.fileStartTime,
    second.base.trans first.again⟩

private theorem file_start_time_settles (sink : GstKvsSink) : Settles sink (applyFileStartTime sink) := by
  have condition : (sink.streamingType = .offline ∧ sink.fileStartTime ≠ 0) ↔ sink.hasStartTime = true := by
    simp [GstKvsSink.hasStartTime, isOfflineStreamingMode]
  unfold applyFileStartTime
  by_cases timed : sink.hasStartTime = true
  · have settled : sink.settledBase = ⟨true, startTimeInNanos sink.fileStartTime⟩ := if_pos timed
    rw [if_pos (condition.mpr timed)]
    exact ⟨rfl, rfl, settled.symm⟩
  · rw [if_neg (timed ∘ condition.mp)]
    exact ⟨rfl, rfl, (if_neg timed).symm⟩

private theorem prepared_settles (sink : GstKvsSink) : Settles sink sink.prepared := by
  have media (ready : GstKvsSink) : SameBase ready (applyMediaType ready) := by
    unfold applyMediaType
    split <;> exact ⟨rfl, rfl, rfl⟩
  exact (file_start_time_settles sink).then_same (media _)

private theorem attempt_settles (attempt : createKinesisVideoStream pic sink residue status = (after, result)) :
    Settles sink after := by
  have settled := prepared_settles sink
  cases result with
  | ok done =>
    obtain ⟨producer, heap, definition, _, _, rfl⟩ := create_stream_built attempt
    generalize sink.prepared = ready at settled
    exact settled.then_same ⟨rfl, rfl, rfl⟩
  | error raised =>
    obtain ⟨calls, rfl, _⟩ := create_stream_failed attempt
    generalize sink.prepared = ready at settled
    exact settled.then_same ⟨rfl, rfl, rfl⟩

/-- However often the creation is tried, the base is that of the first attempt. -/
theorem attempts_settle
    (ran : kinesisVideoStreamInitLoop pic outcome (retryCount + 1) sink = (after, result)) :
    Settles sink after := by
  obtain ⟨_, last | ⟨tried, what, failed, again⟩⟩ := init_loop_round ran
  · exact attempt_settles last
  · exact attempts_keep (Settles sink)
      (fun _ _ _ _ settles attempt => settles.then_settles (attempt_settles attempt))
      (attempt_settles failed) again

theorem SameBase.trans (first : SameBase before middle) (second : SameBase middle after) :
    SameBase before after :=
  ⟨second.streamingType.trans first.streamingType, second.fileStartTime.trans first.fileStartTime,
    second.base.trans first.base⟩

private theorem fail_keeps_base (failed : failChangeState sink message raised = (after, result)) :
    SameBase sink after := by
  unfold failChangeState at failed
  split at failed <;> cases failed <;> exact ⟨rfl, rfl, rfl⟩

theorem producer_init_keeps_base (initialized : kinesisVideoProducerInit sink outcome = (held, result)) :
    SameBase sink held := by
  obtain ⟨_, _, _, _, changed, _⟩ := producer_init_changes sink outcome
  rw [initialized] at changed
  simp only at changed
  subst changed
  exact ⟨rfl, rfl, rfl⟩

private theorem init_track_data_keeps_base (scanned : initTrackData pic sink outcome = (walked, result)) :
    SameBase sink walked := by
  obtain ⟨_, _, _, _, _, changed⟩ := track_data_changes pic sink outcome
  rw [scanned] at changed
  simp only at changed
  subst changed
  exact ⟨rfl, rfl, rfl⟩

/-- What NULL_TO_READY makes of the base, whether it succeeds or not. -/
theorem null_to_ready_base (ran : nullToReady pic sink outcome = (after, result)) :
    after.timestampBase =
      if reachesCreation pic sink outcome = true then sink.settledBase else sink.timestampBase := by
  have ready {held walked : GstKvsSink} (initialized : kinesisVideoProducerInit sink outcome = (held, .ok ()))
      (scanned : initTrackData pic held outcome = (walked, .ok ())) :
      reachesCreation pic sink outcome = true ∧ SameBase sink walked.forgetTimeline := by
    have walks := (producer_init_keeps_base initialized).trans (init_track_data_keeps_base scanned)
    exact ⟨by simp [reachesCreation, initialized, scanned], walks.trans ⟨rfl, rfl, rfl⟩⟩
  have ends := null_to_ready_ends pic sink outcome
  rw [ran] at ends
  generalize ended : (after, result) = finished at ends
  cases ends with
  | noProducer initialized =>
    have early : ¬ reachesCreation pic sink outcome = true := by simp [reachesCreation, initialized]
    rw [if_neg early]
    exact ((producer_init_keeps_base initialized).trans (fail_keeps_base ended.symm)).base
  | noTracks initialized scanned =>
    have early : ¬ reachesCreation pic sink outcome = true := by
      simp [reachesCreation, initialized, scanned]
    have walks := (producer_init_keeps_base initialized).trans (init_track_data_keeps_base scanned)
    rw [if_neg early]
    exact (walks.trans (fail_keeps_base ended.symm)).base
  | noStream initialized scanned streamed =>
    obtain ⟨reaches, same⟩ := ready initialized scanned
    rw [if_pos reaches, ← same.settled]
    exact (fail_keeps_base ended.symm).base.trans (attempts_settle streamed).base
  | started initialized scanned streamed =>
    obtain ⟨reaches, same⟩ := ready initialized scanned
    cases ended
    rw [if_pos reaches, ← same.settled]
    exact (attempts_settle streamed).base

/-- A definition is built with the flag that the sink has. -/
theorem defined_absolute (defined : defineStream pic sink residue = (heap, .ok definition)) :
    definition.absoluteFragmentTimes = sink.absoluteFragmentTimes := by
  obtain ⟨_, _, _, configuration⟩ := defined_configuration defined
  exact congrArg (·.absoluteFragmentTimes) configuration

/-- The stream of a session is declared with the flag that its element is left with. -/
theorem session_declares_absolute (ran : nullToReady pic sink outcome = (created, .success)) :
    ∃ definition, created.declarations = sink.declarations ++ [(sink.nextStream, definition)] ∧
      definition.absoluteFragmentTimes = created.timestampBase.absoluteFragmentTimes := by
  obtain ⟨definition, declares⟩ := session_declares ran
  refine ⟨definition, declares.declared, ?_⟩
  obtain ⟨_, walked, _, _, streamed⟩ := null_to_ready_stages ran
  have attempts : ∃ tried status, True ∧
      createKinesisVideoStream pic tried outcome.residue status = (created, .ok ()) :=
    last_attempt (fun _ _ _ _ _ _ => trivial) trivial streamed
  obtain ⟨tried, status, _, attempt⟩ := attempts
  obtain ⟨producer, heap, built, defined, _, rfl⟩ := create_stream_built attempt
  have declared := declares.declared
  generalize tried.prepared = ready at defined declared ⊢
  rw [created_declarations] at declared
  have last := List.cons.inj (List.append_inj' declared rfl).2
  have absolute : built.absoluteFragmentTimes = ready.absoluteFragmentTimes := defined_absolute defined
  rw [(Prod.mk.inj last.1).2] at absolute
  exact absolute

/-! ## What earlier sessions imposed -/

/-- An element, what the application configured, and what its streams imposed. -/
structure Told where
  sink : GstKvsSink
  /-- `absolute-fragment-times` as it was last set. -/
  configured : Bool := true
  /-- A start time was applied since then. -/
  imposedSince : Bool := false
  /-- The start time that was last applied, and 0 if none ever was. -/
  imposed : UInt64 := 0

/-- The input applies a start time to a stream. -/
def appliesStartTime (pic : Pic) (sink : GstKvsSink) : Input → Bool
  | .changeState .nullToReady outcome => reachesCreation pic sink outcome && sink.hasStartTime
  | _ => false

def Told.hear (pic : Pic) (told : Told) (input : Input) (next : GstKvsSink) : Told :=
  if appliesStartTime pic told.sink input then
    { told with sink := next, imposedSince := true, imposed := told.sink.fileStartTime }
  else
    match input with
    | .setProperty (.absoluteFragmentTimes value) =>
      { told with sink := next, configured := value, imposedSince := false }
    | _ => { told with sink := next }

def toldStep (pic : Pic) (told : Told) (input : Input) : Option Told :=
  (step pic told.sink input).map (told.hear pic input)

/-- The two fields as the record has them. -/
def Told.base (told : Told) : TimestampBase :=
  ⟨told.configured || told.imposedSince, startTimeInNanos told.imposed⟩

/-- The record explains the two fields. -/
def Explained (told : Told) : Prop := told.sink.timestampBase = told.base

private theorem base_of_session {after before : GstKvsSink} (same : after.sessionPart = before.sessionPart) :
    after.timestampBase = before.timestampBase :=
  congrArg (fun sink => TimestampBase.mk sink.absoluteFragmentTimes sink.data.ptsBase) same

private theorem base_of_padless {after before : GstKvsSink} (same : after.padlessPart = before.padlessPart) :
    after.timestampBase = before.timestampBase :=
  congrArg (fun sink => TimestampBase.mk sink.absoluteFragmentTimes sink.data.ptsBase) same

/-- Only NULL_TO_READY and the property itself write the base. -/
theorem other_inputs_keep_base (pic : Pic) (sink : GstKvsSink) (input : Input)
    (noProperty : ∀ value, input ≠ .setProperty (.absoluteFragmentTimes value))
    (noStart : ∀ outcome, input ≠ .changeState .nullToReady outcome) :
    (applyInput pic sink input).timestampBase = sink.timestampBase := by
  cases input with
  | buffer pad buffer outcome =>
    exact base_of_session (buffer_from_pad_keeps_session pic sink pad buffer outcome)
  | noBuffer outcome => exact base_of_session (buffer_keeps_session pic sink none outcome)
  | changeState transition outcome =>
    have changed := change_state_cases pic sink transition outcome
    simp only [applyInput]
    generalize changeState pic sink transition outcome = next at changed
    cases changed with
    | started | startedInVain | notStarted => exact absurd rfl (noStart outcome)
    | collecting | collectingInVain | stopped | nothingToStop | moved | refused => rfl
  | requestNewPad templ added => exact base_of_padless (request_keeps_padless sink templ added)
  | releasePad pad removed => exact base_of_padless (release_keeps_padless sink pad removed)
  | setProperty property =>
    cases property with
    | absoluteFragmentTimes value => exact absurd rfl (noProperty value)
    | _ => rfl
  | sinkEvent pad event outcome =>
    obtain ⟨_, _, _, _, changed, _, _⟩ := sink_event_changes sink pad event outcome
    simp only [applyInput, changed]
    rfl
  | streamErrorReport status => exact base_of_session (error_report_keeps_session pic sink status)
  | finalize =>
    obtain ⟨_, _, _, changed, _⟩ := finalize_changes sink
    simp only [applyInput, changed]
    rfl

/-- A change of state makes of the base what NULL_TO_READY makes of it. -/
theorem start_base (pic : Pic) (sink : GstKvsSink) (outcome : ChangeStateOutcome) :
    (changeState pic sink .nullToReady outcome).timestampBase =
      if reachesCreation pic sink outcome = true then sink.settledBase else sink.timestampBase := by
  have entered (created : GstKvsSink) (state : GstState) :
      (created.enter state).timestampBase = created.timestampBase := rfl
  have logged (created : GstKvsSink) (call : Call) : (created.log call).timestampBase = created.timestampBase := rfl
  have changed := change_state_cases pic sink .nullToReady outcome
  generalize changeState pic sink .nullToReady outcome = next at changed
  cases changed with
  | started ran =>
    rw [entered]
    exact null_to_ready_base ran
  | startedInVain ran =>
    rw [logged]
    exact null_to_ready_base ran
  | notStarted ran => exact null_to_ready_base ran
  | moved _ across => simp at across
  | refused _ up => exact absurd rfl up

/-- A start applies a start time, or leaves the base as it is. -/
theorem start_settles (pic : Pic) (sink : GstKvsSink) (outcome : ChangeStateOutcome) :
    (changeState pic sink .nullToReady outcome).timestampBase =
      if appliesStartTime pic sink (.changeState .nullToReady outcome) = true then
        ⟨true, startTimeInNanos sink.fileStartTime⟩
      else sink.timestampBase := by
  rw [start_base]
  unfold GstKvsSink.settledBase appliesStartTime
  by_cases reaches : reachesCreation pic sink outcome = true
  · by_cases timed : sink.hasStartTime = true
    · simp [reaches, timed]
    · simp [reaches, timed]
  · simp [reaches]

theorem told_step_keeps_explained (explained : Explained told) (heard : toldStep pic told input = some next) :
    Explained next := by
  obtain ⟨after, accepted, rfl⟩ := Option.map_eq_some_iff.mp heard
  obtain ⟨_, rfl⟩ := step_eq_some.mp accepted
  unfold Explained at explained ⊢
  obtain ⟨outcome, rfl⟩ | noStart := start_or_not input
  · have base := start_settles pic told.sink outcome
    simp only [applyInput]
    generalize changeState pic told.sink .nullToReady outcome = after at base
    unfold Told.hear
    split at base <;> rename_i applies
    · rw [if_pos applies]
      simpa [Told.base] using base
    · rw [if_neg applies]
      exact base.trans explained
  · have quiet : ¬ appliesStartTime pic told.sink input = true := by
      intro applies
      unfold appliesStartTime at applies
      split at applies
      · exact noStart _ rfl
      · cases applies
    unfold Told.hear
    rw [if_neg quiet]
    by_cases sets : ∃ value, input = .setProperty (.absoluteFragmentTimes value)
    · obtain ⟨value, rfl⟩ := sets
      have ptsBase : told.sink.data.ptsBase = startTimeInNanos told.imposed :=
        congrArg TimestampBase.ptsBase explained
      simp [applyInput, gstKvsSinkSetProperty, GstKvsSink.timestampBase, Told.base, ptsBase]
    · have base := other_inputs_keep_base pic told.sink input (fun value same => sets ⟨value, same⟩) noStart
      generalize applyInput pic told.sink input = after at base
      split
      · exact absurd ⟨_, rfl⟩ sets
      · exact base.trans explained

private theorem heard_explained (heard : run (toldStep pic) { sink := gstKvsSinkInit now } inputs = some told) :
    Explained told := by
  apply invariant_reached (fun _ _ _ explained heard => told_step_keeps_explained explained heard) _
    ⟨inputs, heard⟩
  unfold Explained Told.base
  rw [start_time_zero]
  rfl

/-! ## A session -/

/-- The frames of a session whose stream got this start time. A buffer with a
time becomes a frame at that time after the start time, when the sum fits. -/
def FollowsStartTime (sink : GstKvsSink) (fileStartTime : UInt64) : Prop :=
  isOfflineStreamingMode sink.streamingType = true → sink.data.useOriginalPts = false →
    ∀ track buffer now, buffer.ptsIsValid = true →
      buffer.pts.toNat + fileStartTime.toNat * 1000000000 < 2 ^ 64 →
        (frameOf sink track buffer now).presentationTs.toNat =
          (buffer.pts.toNat + fileStartTime.toNat * 1000000000) / 100

/-- The stream was created under the configured flag, unless a start time asks
for absolute times, and an offline session follows the start time to its end. -/
structure SessionFollows (pic : Pic) (told : Told) (started : GstKvsSink) : Prop where
  declared : ∃ definition,
    started.declarations = told.sink.declarations ++ [(told.sink.nextStream, definition)] ∧
      (told.sink.fileStartTime = 0 → definition.absoluteFragmentTimes = told.configured)
  frames : isOfflineStreamingMode told.sink.streamingType = true →
    ∀ inputs sink, run (step pic) started inputs = some sink →
      (∀ input ∈ inputs, input.startsSession = false) → FollowsStartTime sink told.sink.fileStartTime

/-- The session gets a start time of its own, or finds nothing that an earlier
one has left. -/
def NothingLeft (told : Told) : Prop :=
  told.sink.fileStartTime = 0 →
    (told.imposedSince = true → told.configured = true) ∧
    (isOfflineStreamingMode told.sink.streamingType = true → startTimeInNanos told.imposed = 0)

/-- Within a session the base of the timestamps stays. -/
theorem session_keeps_pts_base (quiet : input.startsSession = false) (accepted : step pic sink input = some next) :
    next.data.ptsBase = sink.data.ptsBase := by
  obtain ⟨_, rfl⟩ := step_eq_some.mp accepted
  by_cases sets : ∃ value, input = .setProperty (.absoluteFragmentTimes value)
  · obtain ⟨value, rfl⟩ := sets
    rfl
  · have kept := other_inputs_keep_base pic sink input (fun value same => sets ⟨value, same⟩) (by
      rintro outcome rfl
      cases quiet)
    exact congrArg TimestampBase.ptsBase kept

private theorem run_keeps_pts_base (quiet : ∀ input ∈ inputs, input.startsSession = false)
    (ran : run (step pic) started inputs = some sink) : sink.data.ptsBase = started.data.ptsBase := by
  induction inputs generalizing started with
  | nil =>
    cases ran
    rfl
  | cons input rest ih =>
    obtain ⟨next, accepted, ran⟩ := Option.bind_eq_some_iff.mp ran
    have later := ih (fun other member => quiet other (List.mem_cons_of_mem _ member)) ran
    exact later.trans (session_keeps_pts_base (quiet input (List.mem_cons_self ..)) accepted)

/-- An offline frame carries the time of its buffer after the base. -/
theorem offline_frame (offline : isOfflineStreamingMode sink.streamingType = true)
    (moves : sink.data.useOriginalPts = false) (track : GstKvsSinkTrackData) (buffer : GstBuffer)
    (now : UInt64) :
    (frameOf sink track buffer now).presentationTs = (buffer.pts + sink.data.ptsBase) / 100 := by
  simp only [frameOf, presentationTime, offline, moves]
  rfl

private theorem follows_of_base (base : sink.data.ptsBase = startTimeInNanos fileStartTime) :
    FollowsStartTime sink fileStartTime := by
  intro offline moves track buffer now _ fits
  have exact := @start_time_exact fileStartTime (by omega)
  rw [offline_frame offline moves, base, UInt64.toNat_div, UInt64.toNat_add, exact,
    Nat.mod_eq_of_lt fits]
  rfl

/-- Two buffers tell whether there is a base. -/
theorem base_of_follows (offline : isOfflineStreamingMode sink.streamingType = true)
    (moves : sink.data.useOriginalPts = false) (follows : FollowsStartTime sink 0) :
    sink.data.ptsBase = 0 := by
  have probe (pts : UInt64) (small : pts.toNat < 100) : (pts + sink.data.ptsBase).toNat < 100 := by
    have valid : GstBuffer.ptsIsValid ⟨0, pts, 0, []⟩ = true := by
      simp only [GstBuffer.ptsIsValid, bne_iff_ne]
      rintro rfl
      exact absurd small (by decide)
    have time := follows offline moves ⟨0, false, .video, 0⟩ ⟨0, pts, 0, []⟩ 0 valid (by
      simp only [UInt64.toNat_zero]
      omega)
    rw [offline_frame offline moves, UInt64.toNat_div] at time
    change _ / 100 = _ at time
    simp only [UInt64.toNat_zero] at time
    omega
  have bound := sink.data.ptsBase.toNat_lt
  have low := probe 0 (by decide)
  have high := probe 99 (by decide)
  rw [UInt64.toNat_add] at low high
  apply UInt64.toNat_inj.mp
  change _ = 0
  change (0 + _) % _ < _ at low
  change (99 + _) % _ < _ at high
  omega

private theorem started_reaches (ran : nullToReady pic sink outcome = (created, .success)) :
    reachesCreation pic sink outcome = true := by
  obtain ⟨held, walked, initialized, scanned, _⟩ := null_to_ready_stages ran
  simp [reachesCreation, initialized, scanned]

/-- The base of a session that has just started. -/
theorem started_base (explained : Explained told)
    (ran : nullToReady pic told.sink outcome = (created, .success)) :
    created.timestampBase =
      if told.sink.hasStartTime = true then ⟨true, startTimeInNanos told.sink.fileStartTime⟩
      else told.base := by
  have base := null_to_ready_base ran
  rw [if_pos (started_reaches ran)] at base
  rw [base, ← explained]
  rfl

private theorem timed_base_follows {started : GstKvsSink} (left : NothingLeft told)
    (offline : isOfflineStreamingMode told.sink.streamingType = true)
    (base : started.timestampBase =
      if told.sink.hasStartTime = true then ⟨true, startTimeInNanos told.sink.fileStartTime⟩
      else told.base) :
    started.data.ptsBase = startTimeInNanos told.sink.fileStartTime := by
  have ptsBase := congrArg TimestampBase.ptsBase base
  by_cases unset : told.sink.fileStartTime = 0
  · have untimed : ¬ told.sink.hasStartTime = true := by simp [GstKvsSink.hasStartTime, unset]
    rw [if_neg untimed] at ptsBase
    rw [unset, start_time_zero]
    exact ptsBase.trans ((left unset).2 offline)
  · have timed : told.sink.hasStartTime = true := by simp [GstKvsSink.hasStartTime, offline, unset]
    rw [if_pos timed] at ptsBase
    exact ptsBase

private theorem created_follows (explained : Explained told)
    (ran : nullToReady pic told.sink outcome = (created, .success)) (left : NothingLeft told) :
    SessionFollows pic told (created.enter .ready) := by
  have base := started_base explained ran
  constructor
  · obtain ⟨definition, declared, absolute⟩ := session_declares_absolute ran
    refine ⟨definition, declared, fun unset => ?_⟩
    have untimed : ¬ told.sink.hasStartTime = true := by simp [GstKvsSink.hasStartTime, unset]
    rw [absolute, base, if_neg untimed]
    simpa [Told.base] using (left unset).1
  · intro offline inputs sink ran quiet
    apply follows_of_base
    have kept := run_keeps_pts_base quiet ran
    rw [kept]
    exact timed_base_follows left offline base

private theorem created_left_nothing (explained : Explained told) (creates : CreatesStream told.sink created)
    (ran : nullToReady pic told.sink outcome = (created, .success))
    (alive : accepts (created.enter .ready) (.setProperty (.useOriginalPts false)) = true)
    (follows : SessionFollows pic told (created.enter .ready)) : NothingLeft told := by
  intro unset
  have untimed : ¬ told.sink.hasStartTime = true := by simp [GstKvsSink.hasStartTime, unset]
  have base := started_base explained ran
  rw [if_neg untimed] at base
  constructor
  · obtain ⟨definition, declared, absolute⟩ := session_declares_absolute ran
    obtain ⟨other, declaredToo, configured⟩ := follows.declared
    have same : definition = other := by
      have both := declared.symm.trans declaredToo
      simpa using both
    rw [same, configured unset, base] at absolute
    intro imposed
    simpa [Told.base, imposed] using absolute
  · intro offline
    have moved := follows.frames offline [.setProperty (.useOriginalPts false)]
      (gstKvsSinkSetProperty (created.enter .ready) (.useOriginalPts false))
      (by rw [run_cons, step_eq_some.mpr ⟨alive, rfl⟩]; rfl) (by simp [Input.startsSession])
    rw [unset] at moved
    have streamingType : created.streamingType = told.sink.streamingType :=
      congrArg (·.streamingType) creates.lasting
    have none := base_of_follows (by simpa [gstKvsSinkSetProperty, GstKvsSink.enter, streamingType] using offline)
      rfl moved
    exact (congrArg TimestampBase.ptsBase base).symm.trans none

/-- A submission is the frame of its buffer. -/
theorem buffer_submits (known : StreamsKnown sink)
    (accepted : step pic sink (.buffer pad buffer outcome) = some next) :
    next.frames = sink.frames ∨ ∃ track, sink.trackOf pad = some track ∧
      next.frames = sink.frames ++ [frameOf sink track buffer outcome.now] := by
  obtain ⟨track, found, effect⟩ := buffer_step known accepted
  cases effect with
  | refused _ frames _ => exact .inl frames
  | taken _ taken =>
    cases taken with
    | dropped _ frames _ | unmapped _ _ frames _ => exact .inl frames
    | sent _ _ frames _ | threw _ _ frames _ _ => exact .inr ⟨track, found, frames⟩

/-- The element of the record runs by itself. -/
theorem told_runs (heard : run (toldStep pic) told inputs = some final) :
    run (step pic) told.sink inputs = some final.sink := by
  have hears (before : Told) (input : Input) (next : GstKvsSink) :
      (before.hear pic input next).sink = next := by
    unfold Told.hear
    split
    · rfl
    · split <;> rfl
  induction inputs generalizing told with
  | nil =>
    cases heard
    rfl
  | cons input rest ih =>
    obtain ⟨middle, heardFirst, heard⟩ := Option.bind_eq_some_iff.mp heard
    obtain ⟨next, accepted, rfl⟩ := Option.map_eq_some_iff.mp heardFirst
    have ran := ih heard
    rw [hears] at ran
    rw [run_cons, accepted]
    exact ran

/-- **The offline timeline.** A session follows the start time of its file, and
its stream the configured flag, exactly if it has a start time or the earlier
ones have left nothing behind. The frames meant are those of its buffers. -/
theorem offline_session_follows_start_time
    (heard : run (toldStep pic) { sink := gstKvsSinkInit now } earlier = some told)
    (began : step pic told.sink (.changeState .nullToReady outcome) = some started)
    (inReady : started.state = .ready) :
    (SessionFollows pic told started ↔ NothingLeft told) ∧
      ∀ inputs sink pad buffer handling next, run (step pic) started inputs = some sink →
        step pic sink (.buffer pad buffer handling) = some next →
          next.frames = sink.frames ∨ ∃ track, sink.trackOf pad = some track ∧
            next.frames = sink.frames ++ [frameOf sink track buffer handling.now] := by
  have explained := heard_explained heard
  have known := step_keeps_streams_known (reachable_streams_known (told_runs heard)) began
  constructor
  · obtain ⟨admitted, rfl⟩ := step_eq_some.mp began
    obtain ⟨created, ran, creates, entered⟩ := session_began admitted inReady
    simp only [applyInput, entered]
    constructor
    · apply created_left_nothing explained creates ran
      have finalized : created.finalized = told.sink.finalized := congrArg (·.finalized) creates.lasting
      have crashed : created.crashed = told.sink.crashed := creates.crashed
      simp only [accepts, Bool.and_eq_true, Bool.not_eq_true'] at admitted ⊢
      exact ⟨⟨crashed.trans admitted.1.1, finalized.trans admitted.1.2⟩, trivial⟩
    · exact created_follows explained ran
  · intro inputs sink pad buffer handling next ran accepted
    apply buffer_submits _ accepted
    exact invariant_reached (fun _ _ _ known accepted => step_keeps_streams_known known accepted) known
      ⟨inputs, ran⟩

/-- An offline session with relative times configured, and a start time of 5 seconds. -/
def sessionWithStartTime : List Input :=
  [.requestNewPad .video true, .setProperty (.streamingType .offline),
    .setProperty (.absoluteFragmentTimes false), .setProperty (.fileStartTime 5)] ++
    upTo (fun _ => some [h264Caps]) ++ downToNull

theorem second_start_time_is_followed :
    ∃ told started, run (toldStep .sample) { sink := gstKvsSinkInit 0 }
        (sessionWithStartTime ++ [.setProperty (.fileStartTime 7)]) = some told ∧
      step .sample told.sink (.changeState .nullToReady { allowedCaps := fun _ => some [h264Caps] }) =
        some started ∧ SessionFollows .sample told started := by
  have evaluated : (run (toldStep .sample) { sink := gstKvsSinkInit 0 }
      (sessionWithStartTime ++ [.setProperty (.fileStartTime 7)])).bind (fun told =>
        (step .sample told.sink (.changeState .nullToReady { allowedCaps := fun _ => some [h264Caps] })).map
          fun started => (started.state, told.sink.fileStartTime)) = some (.ready, 7) := by decide
  obtain ⟨told, heard, evaluated⟩ := Option.bind_eq_some_iff.mp evaluated
  obtain ⟨started, began, facts⟩ := Option.map_eq_some_iff.mp evaluated
  simp only [Prod.mk.injEq] at facts
  have left : NothingLeft told := by
    intro unset
    rw [facts.2] at unset
    exact absurd unset (by decide)
  exact ⟨told, started, heard, began, (offline_session_follows_start_time heard began facts.1).1.mpr left⟩

/-- The next session has no start time, and still gets the absolute times and the
5 seconds of the one before. -/
theorem start_time_outlives_its_session :
    ((run (toldStep .sample) { sink := gstKvsSinkInit 0 }
      (sessionWithStartTime ++ [.setProperty (.fileStartTime 0)] ++ upTo (fun _ => some [h264Caps]) ++
        [.buffer 0 ⟨0, 0, 0, [1]⟩ {}])).map fun told =>
      (told.configured, told.sink.streamingType, told.sink.data.useOriginalPts,
        told.sink.declarations.map fun declared => declared.2.absoluteFragmentTimes,
        told.sink.frames.map (·.presentationTs))) =
      some (false, .offline, false, [true, true], [50000000]) := by decide

end KvsProducer
