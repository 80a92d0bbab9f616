import KvsProducer.SinkMachineProofs

/-! Who holds the custom data of an element. The element has one share, and the
callback provider inside the producer another; but the custom data owns the
producer, so once a session made a producer the two keep each other alive. -/
namespace KvsProducer
open Gst History Runs

/-- The calls that create or destroy a producer. -/
def Call.ofProducer : Call → Bool
  | .createSync _ _ | .destroyProducer _ => true
  | _ => false

/-- The shares of the custom data, the producer it owns, and the producers made
and destroyed so far. -/
structure Holders where
  useCount : ℕ
  producer : Option ProducerId
  nextProducer : ProducerId
  record : List Call

def GstKvsSink.holders (sink : GstKvsSink) : Holders :=
  ⟨sink.dataUseCount, sink.data.kinesisVideoProducer, sink.nextProducer,
    sink.calls.filter Call.ofProducer⟩

/-- The holders without the record, and whether the element is one of them. -/
def GstKvsSink.shares (sink : GstKvsSink) : ℕ × Option ProducerId × ProducerId × Bool :=
  (sink.dataUseCount, sink.data.kinesisVideoProducer, sink.nextProducer, sink.finalized)

/-- What `kinesis_video_producer_init` has to find, and to be given, to come to
a producer. -/
def CreatesProducer (sink : GstKvsSink) : Input → Prop
  | .changeState .nullToReady outcome =>
    sink.streamName.isSome = true ∧ outcome.credentials = .ok () ∧ sink.userAgent.isSome = true ∧
      statusFailed outcome.clientStatus = false
  | _ => False

/-- One share for the element until it is finalized, and one for the provider
inside the producer that the custom data owns. Nothing destroys that producer. -/
structure Holders.Counted (finalized : Bool) (holders : Holders) : Prop where
  count : holders.useCount =
    (if finalized then 0 else 1) + (if holders.producer.isSome then 1 else 0)
  unused : holders.producer = none → holders.record = []
  below : ∀ producer, holders.producer = some producer → producer < holders.nextProducer
  destroyedBelow : ∀ producer, .destroyProducer producer ∈ holders.record →
    producer < holders.nextProducer
  kept : ∀ producer, holders.producer = some producer → .destroyProducer producer ∉ holders.record

/-! ## The stages after the producer -/

@[simp] theorem log_holders (sink : GstKvsSink) (call : Call) (other : call.ofProducer = false) :
    (sink.log call).holders = sink.holders := by
  simp [GstKvsSink.holders, GstKvsSink.log, List.filter_append, other]

private theorem init_track_data_keeps_holders (scanned : initTrackData pic sink outcome = (walked, result)) :
    walked.holders = sink.holders := by
  obtain ⟨_, _, _, _, _, changed⟩ := track_data_changes pic sink outcome
  rw [scanned] at changed
  cases changed
  rfl

private theorem media_type_keeps_holders (sink : GstKvsSink) :
    (applyMediaType (applyFileStartTime sink)).holders = sink.holders := by
  obtain ⟨_, _, _, _, _, _, _, _, changed⟩ := prepared_changes sink
  rw [changed]
  rfl

private theorem create_stream_keeps_holders
    (created : createKinesisVideoStream pic sink residue status = (after, result)) :
    after.holders = sink.holders := by
  have prepared := media_type_keeps_holders sink
  unfold createKinesisVideoStream at created
  generalize applyMediaType (applyFileStartTime sink) = ready at created prepared
  have asked (heap : GLib.Heap) (definition : StreamDefinition) :
      (createStreamSync pic { ready with heap } definition status).1.holders = sink.holders := by
    have ends := create_sync_ends pic { ready with heap } definition status
    rw [← prepared]
    generalize createStreamSync pic { ready with heap } definition status = finished at ends
    cases ends with
    | noProducer => rfl
    | refused => exact log_holders _ _ rfl
    | created => exact log_holders { ready with heap } _ rfl
  simp only at created
  split at created
  · cases created
    exact prepared
  · rename_i heap definition _
    have kept := asked heap definition
    split at created <;> rename_i made <;> rw [made] at kept <;> cases created
    · exact kept
    · exact kept

private theorem stream_init_loop_keeps_holders
    (ran : kinesisVideoStreamInitLoop pic outcome retryCount sink = (after, result)) :
    after.holders = sink.holders :=
  attempts_keep (·.holders = sink.holders)
    (fun _ _ _ _ before attempt => (create_stream_keeps_holders attempt).trans before) rfl ran

private theorem fail_keeps_holders (sink : GstKvsSink) (message : String) (raised : Raised) :
    (failChangeState sink message raised).1.holders = sink.holders := by
  cases raised with
  | uncaught => rfl
  | internalCheck | runtimeError => exact log_holders _ _ rfl

/-- Nothing after `kinesis_video_producer_init` takes or gives a share. -/
theorem null_to_ready_holders (pic : Pic) (sink : GstKvsSink) (outcome : ChangeStateOutcome) :
    (nullToReady pic sink outcome).1.holders =
      (kinesisVideoProducerInit sink outcome).1.holders := by
  have ends := null_to_ready_ends pic sink outcome
  generalize nullToReady pic sink outcome = finished at ends
  cases ends with
  | noProducer initialized =>
    rw [initialized]
    exact fail_keeps_holders _ _ _
  | noTracks initialized scanned =>
    rw [initialized]
    exact (fail_keeps_holders _ _ _).trans (init_track_data_keeps_holders scanned)
  | noStream initialized scanned streamed =>
    rw [initialized]
    have walked := init_track_data_keeps_holders scanned
    have tried := (stream_init_loop_keeps_holders streamed).trans walked
    exact (fail_keeps_holders _ _ _).trans tried
  | started initialized scanned streamed =>
    rw [initialized]
    have walked := init_track_data_keeps_holders scanned
    exact (stream_init_loop_keeps_holders streamed).trans walked

/-- A new producer takes a share, and the one it replaces gives up its own. -/
def GstKvsSink.renewedHolders (sink : GstKvsSink) (device : KvsSinkDeviceInfoProvider) : Holders :=
  match sink.data.kinesisVideoProducer with
  | none => ⟨sink.dataUseCount + 1, some sink.nextProducer, sink.nextProducer + 1,
      sink.calls.filter Call.ofProducer ++ [.createSync sink.nextProducer device]⟩
  | some old => ⟨sink.dataUseCount, some sink.nextProducer, sink.nextProducer + 1,
      sink.calls.filter Call.ofProducer ++
        [.createSync sink.nextProducer device, .destroyProducer old]⟩

private theorem renewed_holders (sink : GstKvsSink) :
    sink.renewed.holders = sink.renewedHolders ⟨sink.storageSize, sink.stopStreamTimeout,
      sink.serviceConnectionTimeout, sink.serviceCompletionTimeout⟩ := by
  cases held : sink.data.kinesisVideoProducer with
  | none =>
    simp [GstKvsSink.renewed, GstKvsSink.renewedHolders, GstKvsSink.holders, destroyProducer,
      GstKvsSink.log, Call.ofProducer, held]
  | some old =>
    simp [GstKvsSink.renewed, GstKvsSink.renewedHolders, GstKvsSink.holders, destroyProducer,
      GstKvsSink.log, Call.ofProducer, held]

theorem creates_producer_iff : CreatesProducer sink (.changeState .nullToReady outcome) ↔
    sink.streamName.isSome = true ∧ outcome.credentials = .ok () ∧ sink.userAgent.isSome = true ∧
      statusFailed outcome.clientStatus = false := Iff.rfl

/-- NULL_TO_READY takes a share with a new producer, which replaces the one held
before and its share; where it comes to no producer, nothing changes. -/
theorem producer_init_holders (sink : GstKvsSink) (outcome : ChangeStateOutcome) :
    (¬ CreatesProducer sink (.changeState .nullToReady outcome) ∧
        (kinesisVideoProducerInit sink outcome).1.holders = sink.holders) ∨
      CreatesProducer sink (.changeState .nullToReady outcome) ∧
        ∃ device, (kinesisVideoProducerInit sink outcome).1.holders = sink.renewedHolders device := by
  rw [creates_producer_iff]
  have ends := producer_init_ends sink outcome
  generalize kinesisVideoProducerInit sink outcome = finished at ends
  cases ends with
  | unnamed named => exact .inl ⟨by simp [named], rfl⟩
  | noCredentials _ chosen => exact .inl ⟨by simp [chosen], rfl⟩
  | noUserAgent _ agent => exact .inl ⟨by simp [agent], rfl⟩
  | noClient _ client => exact .inl ⟨by simp [client], rfl⟩
  | produced named chosen agent client =>
    exact .inr ⟨by simp [named, chosen, agent, client], _, renewed_holders sink⟩

/-! ## One input -/

private theorem input_not_of_producer (made : InputCall sink input call)
    (still : ∀ transition outcome, input ≠ .changeState transition outcome)
    (open' : input ≠ .finalize) : call.ofProducer = false := by
  cases made with
  | event _ made => cases made <;> rfl
  | buffer _ made | noBuffer made =>
    cases made with
    | arrived | error | reset => rfl
    | body made => cases made <;> rfl
  | late | report => rfl
  | destroyed => exact absurd rfl open'
  | setUp | stopped => exact absurd rfl (still _ _)

private theorem other_inputs_keep_shares (pic : Pic) (sink : GstKvsSink) (input : Input)
    (still : ∀ transition outcome, input ≠ .changeState transition outcome)
    (open' : input ≠ .finalize) : (applyInput pic sink input).shares = sink.shares := by
  have of_session {before after : GstKvsSink} (same : after.sessionPart = before.sessionPart) :
      after.shares = before.shares := (congrArg GstKvsSink.shares same :)
  cases input with
  | requestNewPad templ added =>
    exact (congrArg GstKvsSink.shares (request_keeps_padless sink templ added) :)
  | releasePad pad removed =>
    exact (congrArg GstKvsSink.shares (release_keeps_padless sink pad removed) :)
  | setProperty property => cases property <;> rfl
  | changeState transition outcome => exact absurd rfl (still transition outcome)
  | sinkEvent pad event outcome =>
    obtain ⟨_, _, _, _, changed, _⟩ := sink_event_changes sink pad event outcome
    simp only [applyInput, changed]
    rfl
  | buffer pad buffer outcome =>
    exact of_session (buffer_from_pad_keeps_session pic sink pad buffer outcome)
  | noBuffer outcome => exact of_session (buffer_keeps_session pic sink none outcome)
  | streamErrorReport status => exact of_session (error_report_keeps_session pic sink status)
  | finalize => exact absurd rfl open'

/-- Only changes of state and the end of the element touch its holders. -/
theorem other_inputs_keep_holders (pic : Pic) (sink : GstKvsSink) (input : Input)
    (still : ∀ transition outcome, input ≠ .changeState transition outcome)
    (open' : input ≠ .finalize) : (applyInput pic sink input).holders = sink.holders ∧
      (applyInput pic sink input).finalized = sink.finalized := by
  have shares := other_inputs_keep_shares pic sink input still open'
  obtain ⟨added, calls, kinds⟩ := (input_stays pic sink input still).2
  have recorded : (applyInput pic sink input).calls.filter Call.ofProducer =
      sink.calls.filter Call.ofProducer := by
    have silent : added.filter Call.ofProducer = [] :=
      List.filter_eq_nil_iff.mpr fun call member => by
        simp [input_not_of_producer (kinds call member) still open']
    rw [calls, List.filter_append, silent, List.append_nil]
  simp only [GstKvsSink.shares, Prod.mk.injEq] at shares
  exact ⟨by simp only [GstKvsSink.holders, recorded, shares], shares.2.2.2⟩

private theorem change_state_holders (pic : Pic) (sink : GstKvsSink) (transition : GstStateChange)
    (outcome : ChangeStateOutcome) :
    (changeState pic sink transition outcome).holders =
      if transition = .nullToReady then (kinesisVideoProducerInit sink outcome).1.holders
      else sink.holders := by
  have started := null_to_ready_holders pic sink outcome
  have changed := change_state_cases pic sink transition outcome
  generalize changeState pic sink transition outcome = next at changed
  cases changed with
  | started ran =>
    rw [ran] at started
    exact started
  | startedInVain ran =>
    rw [ran] at started
    exact (log_holders _ _ rfl).trans started
  | notStarted ran =>
    rw [ran] at started
    exact started
  | collecting => rfl
  | collectingInVain =>
    exact log_holders sink.collectPadsStart (.elementError (.libraryInit "")) rfl
  | stopped _ held => exact (log_holders sink (.stopSync _ outcome.stopped) rfl :)
  | nothingToStop => rfl
  | moved _ across =>
    rcases across with rfl | rfl | rfl
    · rfl
    · rfl
    · rfl
  | refused _ notUp _ =>
    rw [if_neg notUp]
    exact log_holders _ _ rfl

theorem change_state_finalized (pic : Pic) (sink : GstKvsSink) (transition : GstStateChange)
    (outcome : ChangeStateOutcome) :
    (changeState pic sink transition outcome).finalized = sink.finalized :=
  congrArg (·.finalized) (change_state_keeps_unmoved pic sink transition outcome)

private theorem finalize_holders (sink : GstKvsSink) (shared : 1 < sink.dataUseCount ∨
    sink.data.kinesisVideoProducer = none) :
    (gstKvsSinkFinalize sink).holders =
      { sink.holders with useCount := sink.dataUseCount - 1 } := by
  unfold gstKvsSinkFinalize
  simp only
  split
  · rename_i last
    have unowned : sink.data.kinesisVideoProducer = none := shared.resolve_left (by omega)
    rw [unowned]
    rfl
  · rfl

/-- A change of producer keeps the count. -/
theorem renewed_counted {sink : GstKvsSink} (counted : sink.holders.Counted false) (device : KvsSinkDeviceInfoProvider) :
    (sink.renewedHolders device).Counted false := by
  have count := counted.count
  unfold GstKvsSink.renewedHolders
  cases held : sink.data.kinesisVideoProducer with
  | none =>
    have unused : sink.calls.filter Call.ofProducer = [] := counted.unused held
    have alone : sink.dataUseCount = 1 := by simpa [GstKvsSink.holders, held] using count
    constructor <;> simp [unused, alone]
  | some old =>
    have shared : sink.dataUseCount = 2 := by simpa [GstKvsSink.holders, held] using count
    have oldBelow : old < sink.nextProducer := counted.below old held
    have destroyedBelow (producer : ProducerId)
        (member : .destroyProducer producer ∈ sink.calls.filter Call.ofProducer ++
          [.createSync sink.nextProducer device, .destroyProducer old]) :
        producer < sink.nextProducer := by
      rcases List.mem_append.mp member with earlier | now
      · exact counted.destroyedBelow producer earlier
      · simp only [List.mem_cons, List.not_mem_nil, or_false] at now
        rcases now with made | gone
        · cases made
        · cases gone
          exact oldBelow
    constructor
    · simp [shared]
    · intro gone
      cases gone
    · rintro producer ⟨⟩
      exact Nat.lt_succ_self _
    · intro producer member
      exact Nat.lt_succ_of_lt (destroyedBelow producer member)
    · rintro producer ⟨⟩ member
      exact Nat.lt_irrefl _ (destroyedBelow _ member)

/-- What an accepted input does with the holders. -/
theorem step_holders {sink : GstKvsSink} (counted : sink.holders.Counted sink.finalized)
    (accepted : step pic sink input = some next) :
    (∃ device, CreatesProducer sink input ∧ next.finalized = sink.finalized ∧
      sink.finalized = false ∧ next.holders = sink.renewedHolders device) ∨
    (¬ CreatesProducer sink input ∧ next.finalized = sink.finalized ∧
      next.holders = sink.holders) ∨
    (¬ CreatesProducer sink input ∧ sink.finalized = false ∧ next.finalized = true ∧
      next.holders = { sink.holders with useCount := sink.dataUseCount - 1 }) := by
  obtain ⟨admitted, rfl⟩ := step_eq_some.mp accepted
  by_cases ended : input = .finalize
  · subst ended
    have running : sink.finalized = false := by
      simp only [accepts, Bool.and_eq_true, Bool.not_eq_true'] at admitted
      exact admitted.1.2
    have count := counted.count
    have shared : 1 < sink.dataUseCount ∨ sink.data.kinesisVideoProducer = none := by
      cases held : sink.data.kinesisVideoProducer with
      | none => exact .inr rfl
      | some producer =>
        simp only [GstKvsSink.holders, running, held, Option.isSome_some, Bool.false_eq_true,
          if_false, if_true] at count
        exact .inl (by omega)
    have marked : (gstKvsSinkFinalize sink).finalized = true := by
      obtain ⟨_, _, _, changed, _⟩ := finalize_changes sink
      rw [changed]
    exact .inr (.inr ⟨not_false, running, marked, finalize_holders sink shared⟩)
  · obtain ⟨transition, outcome, rfl⟩ | still := state_change_or_not input
    · have finalized := change_state_finalized pic sink transition outcome
      have holders := change_state_holders pic sink transition outcome
      by_cases start : transition = .nullToReady
      · subst start
        rw [if_pos rfl] at holders
        obtain ⟨idle, kept⟩ | ⟨creates, device, renewed⟩ := producer_init_holders sink outcome
        · exact .inr (.inl ⟨idle, finalized, holders.trans kept⟩)
        · exact .inl ⟨device, creates, finalized, (accepted_untouched admitted).2,
            holders.trans renewed⟩
      · rw [if_neg start] at holders
        have idle : ¬ CreatesProducer sink (.changeState transition outcome) := by
          cases transition with
          | nullToReady => exact absurd rfl start
          | _ => exact not_false
        exact .inr (.inl ⟨idle, finalized, holders⟩)
    · have idle : ¬ CreatesProducer sink input := by
        cases input with
        | changeState transition outcome => exact absurd rfl (still transition outcome)
        | _ => exact not_false
      obtain ⟨kept, finalized⟩ := other_inputs_keep_holders pic sink input still ended
      exact .inr (.inl ⟨idle, finalized, kept⟩)

theorem step_keeps_counted {sink : GstKvsSink} (counted : sink.holders.Counted sink.finalized)
    (accepted : step pic sink input = some next) : next.holders.Counted next.finalized := by
  obtain ⟨device, _, finalized, running, holders⟩ | ⟨_, finalized, holders⟩ |
    ⟨_, running, finalized, holders⟩ := step_holders counted accepted
  · rw [finalized, running, holders]
    rw [running] at counted
    exact renewed_counted counted device
  · rw [finalized, holders]
    exact counted
  · rw [finalized, holders]
    rw [running] at counted
    have count : sink.dataUseCount = _ := counted.count
    refine ⟨?_, counted.unused, counted.below, counted.destroyedBelow, counted.kept⟩
    simp only [count, Bool.false_eq_true, if_false, if_true]
    omega

/-- The use count is right, and nothing destroyed the producer in hand. -/
def SharesCounted (sink : GstKvsSink) : Prop := sink.holders.Counted sink.finalized

theorem init_shares_counted (now : UInt64) : SharesCounted (gstKvsSinkInit now) := by
  constructor
  · rfl
  · intro _
    rfl
  · rintro producer ⟨⟩
  · intro producer member
    cases member
  · rintro producer ⟨⟩

private theorem reachable_shares_counted (ran : runFromInit pic now inputs = some sink) :
    SharesCounted sink :=
  invariant_reached (fun _ _ _ counted accepted => step_keeps_counted counted accepted)
    (init_shares_counted now) ⟨inputs, ran⟩

/-- A producer once made is never given up, only replaced. -/
theorem producer_stays {sink : GstKvsSink} (counted : SharesCounted sink)
    (accepted : step pic sink input = some next) :
    next.data.kinesisVideoProducer = none ↔
      sink.data.kinesisVideoProducer = none ∧ ¬ CreatesProducer sink input := by
  change next.holders.producer = none ↔ sink.holders.producer = none ∧ _
  obtain ⟨device, creates, _, _, holders⟩ | ⟨idle, _, holders⟩ | ⟨idle, _, _, holders⟩ :=
    step_holders counted accepted
  · have made : (sink.renewedHolders device).producer = some sink.nextProducer := by
      unfold GstKvsSink.renewedHolders
      split <;> rfl
    simp [holders, made, creates]
  · simp [holders, idle]
  · simp [holders, idle]

/-- The element holds no producer as long as no session came to one. -/
theorem no_producer_iff {final : GstKvsSink} (ran : runFromInit pic now inputs = some final) :
    final.data.kinesisVideoProducer = none ↔
      EachStep (step pic) (fun sink input => ¬ CreatesProducer sink input) (gstKvsSinkInit now) inputs := by
  have exact_run := at_end_iff_each_step (fun _ _ _ => step_keeps_counted)
    (fun _ _ _ counted accepted => producer_stays counted accepted) (init_shares_counted now) ran
  rw [exact_run]
  exact and_iff_right rfl

/-! ## The end of an element -/

/-- **The release of an element.** Its custom data is gone, every producer that
was made is destroyed, and no error report can be delivered any more. -/
structure ReleasedAtEnd (pic : Pic) (final : GstKvsSink) : Prop where
  count : final.dataUseCount = 0
  destroyed : ∀ producer device, .createSync producer device ∈ final.calls →
    .destroyProducer producer ∈ final.calls
  silent : ∀ status, step pic final (.streamErrorReport status) = none

/-- Finalizing releases the custom data exactly of an element that never came to
a producer: the provider inside a producer keeps its owner alive. -/
theorem finalize_releases_iff_no_producer {final : GstKvsSink}
    (ran : runFromInit pic now inputs = some sink) (ended : step pic sink .finalize = some final) :
    ReleasedAtEnd pic final ↔
      EachStep (step pic) (fun sink input => ¬ CreatesProducer sink input) (gstKvsSinkInit now) inputs := by
  have counted := reachable_shares_counted ran
  have countedEnd : SharesCounted final := step_keeps_counted counted ended
  have finalized : final.finalized = true := by
    obtain ⟨_, rfl⟩ := step_eq_some.mp ended
    obtain ⟨_, _, _, changed, _⟩ := finalize_changes sink
    simp only [applyInput, changed]
  have kept := producer_stays counted ended
  rw [← no_producer_iff ran]
  have same : final.data.kinesisVideoProducer = none ↔ sink.data.kinesisVideoProducer = none :=
    kept.trans (and_iff_left not_false)
  rw [← same]
  have count := countedEnd.count
  simp only [finalized, GstKvsSink.holders, if_true] at count
  constructor
  · intro released
    cases held : final.data.kinesisVideoProducer with
    | none => rfl
    | some producer => simp [released.count, held] at count
  · intro unowned
    have nothing : final.calls.filter Call.ofProducer = [] := countedEnd.unused unowned
    constructor
    · simp [count, unowned]
    · intro producer device member
      exact absurd rfl (List.filter_eq_nil_iff.mp nothing _ member)
    · intro status
      have refused : accepts final (.streamErrorReport status) = false := by
        simp [accepts, GstKvsSink.callbackPossible, unowned]
      simp [step, refused]

/-- An element whose only session found no credentials lets go of everything. -/
theorem element_without_credentials_is_released :
    ∃ sink final, runFromInit .sample 0 [.requestNewPad .video true,
        .changeState .nullToReady { credentials := .error (.runtimeError "no credentials") }] =
          some sink ∧
      step .sample sink .finalize = some final ∧ ReleasedAtEnd .sample final := by
  have evaluated : (runFromInit .sample 0 [.requestNewPad .video true,
      .changeState .nullToReady { credentials := .error (.runtimeError "no credentials") }]).map
      (fun sink => accepts sink .finalize) = some true := by decide
  obtain ⟨sink, ran, admitted⟩ := Option.map_eq_some_iff.mp evaluated
  have ended : step .sample sink .finalize = some (applyInput .sample sink .finalize) :=
    step_eq_some.mpr ⟨admitted, rfl⟩
  refine ⟨sink, _, ran, ended, (finalize_releases_iff_no_producer ran ended).mpr ?_⟩
  intro requested _
  refine ⟨not_false, fun failed _ => ⟨?_, trivial⟩⟩
  intro creates
  cases creates.2.1

/-- After one session and the end of the element its custom data is still there,
and an error report reaches the finalized element. -/
theorem one_session_outlives_the_element :
    ∃ sink final reported, runFromInit .sample 0 ([.requestNewPad .video true] ++
        upTo (fun _ => some [h264Caps]) ++ downToNull) = some sink ∧
      step .sample sink .finalize = some final ∧ ¬ ReleasedAtEnd .sample final ∧
      step .sample final (.streamErrorReport 3) = some reported ∧
      (reported.calls.any fun call => call matches .callbackAfterFinalize) = true := by
  have evaluated : (runFromInit .sample 0 ([.requestNewPad .video true] ++
      upTo (fun _ => some [h264Caps]) ++ downToNull)).map (fun sink =>
        (step .sample sink .finalize).map (fun final => (final.dataUseCount,
          (step .sample final (.streamErrorReport 3)).map (fun reported =>
            reported.calls.any fun call => call matches .callbackAfterFinalize)))) =
      some (some (1, some true)) := by decide
  obtain ⟨sink, ran, facts⟩ := Option.map_eq_some_iff.mp evaluated
  obtain ⟨final, ended, facts⟩ := Option.map_eq_some_iff.mp facts
  simp only [Prod.mk.injEq] at facts
  obtain ⟨count, facts⟩ := facts
  obtain ⟨reported, arrived, late⟩ := Option.map_eq_some_iff.mp facts
  refine ⟨sink, final, reported, ran, ended, fun released => ?_, arrived, late⟩
  rw [released.count] at count
  cases count

end KvsProducer
