import KvsProducer.HeldStream
import KvsProducer.StopAndRestart

/-! The order in which an element calls the client library. The library asks of
its callers that a producer is alive when it is asked or destroyed, that it is
destroyed once, and that a stream is used only while its producer lives. No run
of an element breaks these rules, although the element checks none of them. -/
namespace KvsProducer
open Gst GLib History Runs

/-- The producer was made, and is not destroyed yet. -/
def Alive (calls : List Call) (producer : ProducerId) : Prop :=
  (∃ device, .createSync producer device ∈ calls) ∧ .destroyProducer producer ∉ calls

/-- The stream is the last one that was created, and its producer is alive. -/
def Current (calls : List Call) (stream : StreamId) : Prop :=
  ∃ producer, Alive calls producer ∧ (calls.filterMap Call.creation).getLast? = some (producer, stream)

/-- What the library asks of a call that comes after these. -/
def Orderly (pic : Pic) (before : List Call) : Call → Prop
  | .createSync producer _ => ∀ device, .createSync producer device ∉ before
  | .destroyProducer producer => Alive before producer
  | .createStreamSync producer definition stream =>
    Alive before producer ∧ ∀ new ∈ stream, (∀ created ∈ before.filterMap Call.creation, created.2 ≠ new) ∧
      definition.getTrackCount ≤ pic.maxSupportedTrackCountPerStream
  | call => ∀ stream, call.usedStream = some stream → Current before stream

/-- The call neither makes, destroys nor asks a producer. -/
def Call.leavesProducers : Call → Bool
  | .createSync _ _ | .destroyProducer _ | .createStreamSync _ _ _ => false
  | _ => true

/-! ## Calls that leave the producers alone -/

theorem leaves_creations (leaves : Call.leavesProducers call = true) : call.creation = none := by
  cases call with
  | createStreamSync => cases leaves
  | _ => rfl

theorem orderly_leaving (leaves : Call.leavesProducers call = true) :
    Orderly pic before call ↔ ∀ stream, call.usedStream = some stream → Current before stream := by
  cases call with
  | createSync | destroyProducer | createStreamSync => cases leaves
  | _ => exact Iff.rfl

private theorem alive_append_leaving (leaves : ∀ call ∈ added, Call.leavesProducers call = true) :
    Alive (calls ++ added) producer ↔ Alive calls producer := by
  have absent (call : Call) (touches : call.leavesProducers = false) : call ∉ added := by
    intro member
    rw [leaves call member] at touches
    cases touches
  constructor
  · rintro ⟨⟨device, made⟩, living⟩
    refine ⟨⟨device, ?_⟩, fun gone => living (List.mem_append_left added gone)⟩
    exact (List.mem_append.mp made).resolve_right (absent _ rfl)
  · rintro ⟨⟨device, made⟩, living⟩
    refine ⟨⟨device, List.mem_append_left added made⟩, fun gone => ?_⟩
    rcases List.mem_append.mp gone with before | now
    · exact living before
    · exact absent _ rfl now

private theorem current_append_leaving (leaves : ∀ call ∈ added, Call.leavesProducers call = true) :
    Current (calls ++ added) stream ↔ Current calls stream := by
  have silent : added.filterMap Call.creation = [] :=
    List.filterMap_eq_nil_iff.mpr fun call member => leaves_creations (leaves call member)
  simp only [Current, alive_append_leaving leaves, List.filterMap_append, silent, List.append_nil]

private theorem current_log (leaves : Call.leavesProducers call = true) :
    Current (calls ++ [call]) stream ↔ Current calls stream :=
  current_append_leaving fun _ member => List.mem_singleton.mp member ▸ leaves

/-- Calls of a kind that leaves the producers alone and uses the current stream are in order. -/
theorem orderly_grows (orderly : EachEntry (Orderly pic) before) (grown : Grows kind before after)
    (leaves : ∀ call, kind call → call.leavesProducers = true)
    (uses : ∀ call, kind call → ∀ stream, call.usedStream = some stream → Current before stream) :
    EachEntry (Orderly pic) after := by
  obtain ⟨added, rfl, kinds⟩ := grown
  apply orderly.append
  rintro early entry late rfl
  have admitted := kinds entry (by simp)
  rw [orderly_leaving (leaves entry admitted)]
  intro stream used
  rw [current_append_leaving fun call member => leaves call (kinds call (by simp [member]))]
  exact uses entry admitted stream used

/-! ## The producers -/

/-- The producers on record are those below the next one, and all of them but the
one in hand are destroyed. -/
structure Recorded (holders : Holders) : Prop where
  made : ∀ producer, (∃ device, .createSync producer device ∈ holders.record) ↔
    producer < holders.nextProducer
  destroyed : ∀ producer, .destroyProducer producer ∈ holders.record ↔
    producer < holders.nextProducer ∧ holders.producer ≠ some producer

private theorem below_iff_not_last (producer next : ℕ) :
    producer < next ↔ producer < next + 1 ∧ ¬ next = producer := by omega

private theorem init_recorded (now : UInt64) : Recorded (gstKvsSinkInit now).holders := by
  have nothing : (gstKvsSinkInit now).holders.record = [] := rfl
  have first : (gstKvsSinkInit now).holders.nextProducer = 0 := rfl
  constructor <;> simp [nothing, first]

private theorem renewed_recorded {sink : GstKvsSink} (counted : sink.holders.Counted false)
    (recorded : Recorded sink.holders) (device : KvsSinkDeviceInfoProvider) :
    Recorded (sink.renewedHolders device) := by
  have made (producer : ProducerId) :
      (∃ device, .createSync producer device ∈ sink.calls.filter Call.ofProducer) ↔
        producer < sink.nextProducer := recorded.made producer
  have destroyed (producer : ProducerId) :
      .destroyProducer producer ∈ sink.calls.filter Call.ofProducer ↔
        producer < sink.nextProducer ∧ sink.data.kinesisVideoProducer ≠ some producer :=
    recorded.destroyed producer
  unfold GstKvsSink.renewedHolders
  cases held : sink.data.kinesisVideoProducer with
  | none =>
    constructor
    · intro producer
      simp only [List.mem_append, List.mem_singleton, exists_or, made]
      constructor
      · rintro (below | ⟨_, ⟨⟩⟩)
        · exact Nat.lt_succ_of_lt below
        · exact Nat.lt_succ_self _
      · intro below
        rcases Nat.lt_succ_iff_lt_or_eq.mp below with below | rfl
        · exact .inl below
        · exact .inr ⟨device, rfl⟩
    · intro producer
      simp only [List.mem_append, List.mem_singleton, reduceCtorEq, or_false, destroyed, held,
        ne_eq, not_false_eq_true, and_true, Option.some.injEq]
      exact below_iff_not_last producer sink.nextProducer
  | some old =>
    have below : old < sink.nextProducer := counted.below old held
    constructor
    · intro producer
      simp only [List.mem_append, List.mem_cons, List.not_mem_nil, reduceCtorEq, or_false, exists_or, made]
      constructor
      · rintro (below | ⟨_, ⟨⟩⟩)
        · exact Nat.lt_succ_of_lt below
        · exact Nat.lt_succ_self _
      · intro below
        rcases Nat.lt_succ_iff_lt_or_eq.mp below with below | rfl
        · exact .inl below
        · exact .inr ⟨device, rfl⟩
    · intro producer
      simp only [List.mem_append, List.mem_cons, List.not_mem_nil, reduceCtorEq, or_false, false_or,
        Call.destroyProducer.injEq, destroyed, held, ne_eq, Option.some.injEq]
      rw [← below_iff_not_last producer sink.nextProducer]
      constructor
      · rintro (⟨earlier, _⟩ | rfl)
        · exact earlier
        · exact below
      · intro earlier
        by_cases same : old = producer
        · exact .inr same.symm
        · exact .inl ⟨earlier, same⟩

private theorem step_keeps_recorded {sink : GstKvsSink} (counted : SharesCounted sink)
    (recorded : Recorded sink.holders) (accepted : step pic sink input = some next) :
    Recorded next.holders := by
  obtain ⟨device, _, _, running, holders⟩ | ⟨_, _, holders⟩ | ⟨_, _, _, holders⟩ :=
    step_holders counted accepted
  · unfold SharesCounted at counted
    rw [running] at counted
    rw [holders]
    exact renewed_recorded counted recorded device
  · rw [holders]
    exact recorded
  · rw [holders]
    exact ⟨recorded.made, recorded.destroyed⟩

/-- The one producer that is alive is the one in hand. -/
theorem alive_iff_held {sink : GstKvsSink} (counted : SharesCounted sink) (recorded : Recorded sink.holders) :
    Alive sink.calls producer ↔ sink.data.kinesisVideoProducer = some producer := by
  have on_record (call : Call) (of : call.ofProducer = true) :
      call ∈ sink.calls ↔ call ∈ sink.holders.record := by
    simp [GstKvsSink.holders, of]
  have made : (∃ device, .createSync producer device ∈ sink.calls) ↔ producer < sink.nextProducer := by
    simp only [on_record _ (show Call.ofProducer (.createSync producer _) = true from rfl)]
    exact recorded.made producer
  unfold Alive
  rw [made, on_record (.destroyProducer producer) rfl, recorded.destroyed producer]
  change _ ∧ ¬ (_ ∧ sink.data.kinesisVideoProducer ≠ some producer) ↔ _
  constructor
  · rintro ⟨below, notDestroyed⟩
    by_contra other
    exact notDestroyed ⟨below, other⟩
  · intro held
    exact ⟨counted.below producer held, fun destroyed => destroyed.2 held⟩

/-! ## Starting -/

/-- A start that came to a producer: it is in hand and alive, the record is in
order, and the next stream is a new one. -/
structure Asking (pic : Pic) (producer : ProducerId) (sink : GstKvsSink) : Prop where
  held : sink.data.kinesisVideoProducer = some producer
  alive : Alive sink.calls producer
  orderly : EachEntry (Orderly pic) sink.calls
  fresh : ∀ created ∈ sink.creations, created.2 < sink.nextStream

theorem Asking.of_same (asking : Asking pic producer before)
    (held : after.data.kinesisVideoProducer = before.data.kinesisVideoProducer)
    (calls : after.calls = before.calls) (next : after.nextStream = before.nextStream) :
    Asking pic producer after where
  held := held.trans asking.held
  alive := calls ▸ asking.alive
  orderly := calls ▸ asking.orderly
  fresh := by
    rw [GstKvsSink.creations, calls, next]
    exact asking.fresh

private theorem alive_after_asking (alive : Alive calls producer) (asked : ProducerId)
    (definition : StreamDefinition) (stream : Option StreamId) :
    Alive (calls ++ [.createStreamSync asked definition stream]) producer := by
  obtain ⟨⟨device, made⟩, living⟩ := alive
  refine ⟨⟨device, List.mem_append_left _ made⟩, fun gone => ?_⟩
  rcases List.mem_append.mp gone with before | now
  · exact living before
  · cases List.mem_singleton.mp now

/-- Asking for a stream is in order, granted or not. -/
theorem create_sync_asks (asking : Asking pic producer sink)
    (asked : createStreamSync pic sink definition status = (after, result)) : Asking pic producer after := by
  have ends := create_sync_ends pic sink definition status
  rw [asked] at ends
  have held := asking.held
  cases ends with
  | noProducer missing => exact asking
  | refused other =>
    cases held.symm.trans other
    refine ⟨held, alive_after_asking asking.alive _ _ _, asking.orderly.snoc ⟨asking.alive, ?_⟩, ?_⟩
    · rintro new ⟨⟩
    · have same : (sink.log (.createStreamSync producer definition none)).creations = sink.creations :=
        creations_of_grows (.snoc (create_sync_declares_nothing _ _) _)
      rw [same]
      exact asking.fresh
  | created other few =>
    cases held.symm.trans other
    refine ⟨held, alive_after_asking asking.alive _ _ _, asking.orderly.snoc ⟨asking.alive, ?_⟩, ?_⟩
    · rintro new ⟨⟩
      exact ⟨fun created member => Nat.ne_of_lt (asking.fresh created member), few⟩
    · intro created member
      simp only [GstKvsSink.creations, GstKvsSink.log, List.filterMap_append, List.mem_append] at member
      rcases member with before | now
      · exact Nat.lt_succ_of_lt (asking.fresh created before)
      · cases List.mem_singleton.mp now
        exact Nat.lt_succ_self _

private theorem attempt_asks (asking : Asking pic producer sink)
    (attempt : createKinesisVideoStream pic sink residue status = (after, result)) :
    Asking pic producer after := by
  have same := prepared_keeps sink
  have ready : applyMediaType (applyFileStartTime sink) = sink.prepared := rfl
  have prepared (heap : Heap) : Asking pic producer { sink.prepared with heap } :=
    asking.of_same same.producer same.calls same.nextStream
  unfold createKinesisVideoStream at attempt
  simp only [ready] at attempt
  split at attempt
  · cases attempt
    exact prepared _
  · split at attempt <;> rename_i asked <;> cases attempt
    · exact create_sync_asks (prepared _) asked
    · exact (create_sync_asks (prepared _) asked).of_same rfl rfl rfl

/-- The record is in order, and the next stream is a new one. -/
structure InOrder (pic : Pic) (sink : GstKvsSink) : Prop where
  orderly : EachEntry (Orderly pic) sink.calls
  fresh : ∀ created ∈ sink.creations, created.2 < sink.nextStream

theorem Asking.inOrder (asking : Asking pic producer sink) : InOrder pic sink := ⟨asking.orderly, asking.fresh⟩

/-- Calls that ask nothing of the library for a stream keep the order. -/
theorem InOrder.grow (here : InOrder pic before) (grown : Grows kind before.calls after.calls)
    (next : after.nextStream = before.nextStream) (leaves : ∀ call, kind call → call.leavesProducers = true)
    (uses : ∀ call, kind call → ∀ stream, call.usedStream = some stream → Current before.calls stream) :
    InOrder pic after where
  orderly := orderly_grows here.orderly grown leaves uses
  fresh := by
    have silent : after.creations = before.creations := creations_of_grows (grown.imp fun call made => by
      have leaving := leaves call made
      cases call with
      | createStreamSync => cases leaving
      | _ => rfl)
    rw [silent, next]
    exact here.fresh

theorem InOrder.error (here : InOrder pic sink) (error : ElementError) :
    InOrder pic (sink.log (.elementError error)) := by
  have grown : Grows (· = Call.elementError error) sink.calls (sink.log (.elementError error)).calls :=
    .snoc (by rfl) _
  apply here.grow grown rfl
  · rintro call rfl
    rfl
  · rintro call rfl stream ⟨⟩

private theorem fail_in_order (here : InOrder pic sink) (message : String) (raised : Raised) :
    InOrder pic (failChangeState sink message raised).1 := by
  cases raised with
  | uncaught => exact ⟨here.orderly, here.fresh⟩
  | internalCheck | runtimeError => exact here.error _

/-- What holds of an element between two inputs. -/
structure InProtocol (pic : Pic) (sink : GstKvsSink) : Prop extends InOrder pic sink where
  known : StreamsKnown sink
  numbered : ProducersNumbered sink
  recorded : Recorded sink.holders
  single : (sink.creations.map (·.1)).Nodup
  last : sink.data.kinesisVideoStream = sink.creations.getLast?.map (·.2)
  latest : ∀ created ∈ sink.creations, sink.data.kinesisVideoProducer = some created.1 →
    sink.creations.getLast? = some created
  current : sink.state ≠ .null → ∀ stream, sink.data.kinesisVideoStream = some stream →
    Current sink.calls stream

private theorem renewed_calls (sink : GstKvsSink) :
    ∃ device, sink.renewed.calls = sink.calls ++ .createSync sink.nextProducer device ::
      (sink.data.kinesisVideoProducer.map Call.destroyProducer).toList := by
  unfold GstKvsSink.renewed
  cases sink.data.kinesisVideoProducer with
  | none => exact ⟨_, rfl⟩
  | some old => exact ⟨_, by simp [destroyProducer, GstKvsSink.log]; rfl⟩

/-- The new producer is a fresh one, and the one it replaces is still alive then. -/
theorem renewed_asks (here : InProtocol pic sink) : Asking pic sink.nextProducer sink.renewed := by
  obtain ⟨device, calls⟩ := renewed_calls sink
  have recorded := here.recorded
  have counted := here.numbered.counted
  have living (producer : ProducerId) := @alive_iff_held producer sink counted recorded
  have unmade (producer : ProducerId) (alive : Alive sink.calls producer) : producer < sink.nextProducer :=
    counted.below producer ((living producer).mp alive)
  have notMade (other : KvsSinkDeviceInfoProvider) : .createSync sink.nextProducer other ∉ sink.calls := by
    intro member
    have below := (recorded.made sink.nextProducer).mp ⟨other, List.mem_filter.mpr ⟨member, rfl⟩⟩
    exact Nat.lt_irrefl _ below
  have notDestroyed : .destroyProducer sink.nextProducer ∉ sink.calls := by
    intro member
    have below := (recorded.destroyed sink.nextProducer).mp (List.mem_filter.mpr ⟨member, rfl⟩)
    exact Nat.lt_irrefl _ below.1
  have made : EachEntry (Orderly pic) (sink.calls ++ [.createSync sink.nextProducer device]) :=
    here.orderly.snoc notMade
  refine ⟨rfl, ?_, ?_, ?_⟩
  · refine ⟨⟨device, by simp [calls]⟩, ?_⟩
    rw [calls]
    intro gone
    cases held : sink.data.kinesisVideoProducer with
    | none => simp [held, notDestroyed] at gone
    | some old =>
      have below := counted.below old held
      simp only [held, Option.map_some, Option.toList_some, List.mem_append, List.mem_cons,
        List.not_mem_nil, reduceCtorEq, Call.destroyProducer.injEq, or_false, false_or] at gone
      rcases gone with gone | same
      · exact notDestroyed gone
      · exact Nat.ne_of_lt below same.symm
  · rw [calls]
    cases held : sink.data.kinesisVideoProducer with
    | none => exact made
    | some old =>
      have alive : Alive sink.calls old := (living old).mpr held
      have still : Orderly pic (sink.calls ++ [.createSync sink.nextProducer device]) (.destroyProducer old) := by
        obtain ⟨⟨first, created⟩, lives⟩ := alive
        exact ⟨⟨first, List.mem_append_left _ created⟩, by simp [lives]⟩
      have both := made.snoc still
      rwa [List.append_assoc] at both
  · have silent : sink.renewed.creations = sink.creations := by
      rw [GstKvsSink.creations, calls, List.filterMap_append]
      have nothing : (Call.createSync sink.nextProducer device ::
          (sink.data.kinesisVideoProducer.map Call.destroyProducer).toList).filterMap Call.creation = [] := by
        cases sink.data.kinesisVideoProducer <;> rfl
      rw [nothing, List.append_nil]
      rfl
    have next : sink.renewed.nextStream = sink.nextStream := by
      unfold GstKvsSink.renewed
      cases sink.data.kinesisVideoProducer <;> rfl
    rw [silent, next]
    exact here.fresh

/-- Whatever becomes of a start, its calls are in order. -/
theorem start_in_order (here : InProtocol pic sink) (outcome : ChangeStateOutcome) :
    InOrder pic (nullToReady pic sink outcome).1 := by
  have produced {held : GstKvsSink} {raised : Raised}
      (initialized : kinesisVideoProducerInit sink outcome = (held, .error raised)) : held = sink := by
    have ends := producer_init_ends sink outcome
    rw [initialized] at ends
    cases ends with
    | unnamed | noCredentials | noUserAgent | noClient => rfl
  have asks {held walked : GstKvsSink} {result : Except Raised Unit}
      (initialized : kinesisVideoProducerInit sink outcome = (held, .ok ()))
      (scanned : initTrackData pic held outcome = (walked, result)) : Asking pic sink.nextProducer walked := by
    have asking : Asking pic sink.nextProducer held := by
      have ends := producer_init_ends sink outcome
      rw [initialized] at ends
      cases ends with
      | produced => exact renewed_asks here
    obtain ⟨_, _, _, _, _, changed⟩ := track_data_changes pic held outcome
    rw [scanned] at changed
    cases changed
    exact asking.of_same rfl rfl rfl
  have asked {held walked tried : GstKvsSink} {scan result : Except Raised Unit}
      (initialized : kinesisVideoProducerInit sink outcome = (held, .ok ()))
      (scanned : initTrackData pic held outcome = (walked, scan))
      (streamed : kinesisVideoStreamInit pic walked.forgetTimeline outcome = (tried, result)) :
      Asking pic sink.nextProducer tried := by
    have forgotten : Asking pic sink.nextProducer walked.forgetTimeline :=
      (asks initialized scanned).of_same rfl rfl rfl
    exact attempts_keep _ (fun _ _ _ _ asking attempt => attempt_asks asking attempt) forgotten streamed
  have ends := null_to_ready_ends pic sink outcome
  generalize nullToReady pic sink outcome = finished at ends
  cases ends with
  | noProducer initialized =>
    cases produced initialized
    exact fail_in_order here.toInOrder _ _
  | noTracks initialized scanned => exact fail_in_order (asks initialized scanned).inOrder _ _
  | noStream initialized scanned streamed =>
    exact fail_in_order (asked initialized scanned streamed).inOrder _ _
  | started initialized scanned streamed => exact (asked initialized scanned streamed).inOrder

/-! ## Steps -/

private theorem init_in_protocol (now : UInt64) : InProtocol pic (gstKvsSinkInit now) where
  orderly := each_entry_nil
  fresh _ member := by cases member
  known := init_streams_known now
  numbered := init_producers_numbered now
  recorded := init_recorded now
  single := List.nodup_nil
  last := rfl
  latest _ member := by cases member
  current outside := absurd rfl outside

/-- Each producer is granted one stream, since each start brings a producer of its own. -/
theorem step_grants_once (numbered : ProducersNumbered sink) (single : (sink.creations.map (·.1)).Nodup)
    (accepted : step pic sink input = some next) : (next.creations.map (·.1)).Nodup := by
  obtain same | ⟨_, stream, grown⟩ := step_creations numbered.audio accepted
  · rwa [same]
  · rw [grown, List.map_append, List.map_singleton]
    refine List.nodup_append.mpr ⟨single, List.nodup_singleton _, ?_⟩
    intro producer before new isNew
    obtain ⟨created, member, rfl⟩ := List.mem_map.mp before
    rw [List.mem_singleton.mp isNew]
    exact Nat.ne_of_lt (numbered.below created member)

/-- What the producer in hand has granted is the last stream that was created. -/
theorem step_keeps_latest (numbered : ProducersNumbered sink)
    (latest : ∀ created ∈ sink.creations, sink.data.kinesisVideoProducer = some created.1 →
      sink.creations.getLast? = some created)
    (accepted : step pic sink input = some next) :
    ∀ created ∈ next.creations, next.data.kinesisVideoProducer = some created.1 →
      next.creations.getLast? = some created := by
  intro created member held
  have older (before : created ∈ sink.creations) (renewed : next.data.kinesisVideoProducer = some sink.nextProducer) :
      False := by
    have same : created.1 = sink.nextProducer := (Option.some.inj (renewed.symm.trans held)).symm
    exact absurd (numbered.below created before) (same ▸ Nat.lt_irrefl _)
  obtain same | ⟨creates, stream, grown⟩ := step_creations numbered.audio accepted
  · rw [same] at member ⊢
    obtain ⟨_, renewed, _⟩ | ⟨_, kept, _⟩ := step_producer numbered.counted accepted
    · exact (older member renewed).elim
    · exact latest created member (kept.symm.trans held)
  · rw [grown] at member ⊢
    obtain ⟨_, renewed, _⟩ | ⟨idle, _⟩ := step_producer numbered.counted accepted
    · rcases List.mem_append.mp member with before | new
      · exact (older before renewed).elim
      · cases List.mem_singleton.mp new
        exact List.getLast?_concat
    · exact absurd creates idle

/-- The stream in hand is the last one that was created. -/
theorem step_holds_last (numbered : ProducersNumbered sink)
    (last : sink.data.kinesisVideoStream = sink.creations.getLast?.map (·.2))
    (accepted : step pic sink input = some next) :
    next.data.kinesisVideoStream = next.creations.getLast?.map (·.2) := by
  obtain ⟨_, rfl⟩ := step_eq_some.mp accepted
  obtain ⟨outcome, rfl⟩ | noStart := start_or_not input
  · obtain ⟨stream, creations, _⟩ := started_holds pic sink outcome
    simp only [applyInput]
    rw [stream, creations]
    have ends := start_ends numbered.audio pic outcome
    rcases ran : nullToReady pic sink outcome with ⟨after, result⟩
    rw [ran] at ends
    cases ends with
    | idle _ same silent => rw [same, silent, last]
    | failed _ _ _ _ same silent => rw [same, silent, last]
    | crashed _ silent =>
      obtain ⟨impossible, _⟩ | ⟨_, kept⟩ := null_to_ready_cases ran
      · cases impossible
      · rw [kept.stream, silent, last]
    | created _ _ holds grown => rw [holds, grown, List.getLast?_concat]; rfl
  · have same := other_inputs_hold_same pic sink noStart
    rw [same.stream, same.creations, last]

theorem InProtocol.after (here : InProtocol pic sink) (accepted : step pic sink input = some next)
    (ordered : InOrder pic next)
    (current : next.state ≠ .null → ∀ stream, next.data.kinesisVideoStream = some stream →
      Current next.calls stream) : InProtocol pic next where
  toInOrder := ordered
  known := step_keeps_streams_known here.known accepted
  numbered := step_keeps_numbered here.numbered accepted
  recorded := step_keeps_recorded here.numbered.counted here.recorded accepted
  single := step_grants_once here.numbered here.single accepted
  last := step_holds_last here.numbered here.last accepted
  latest := step_keeps_latest here.numbered here.latest accepted
  current := current

/-- Apart from changes of state and the end of the element, inputs leave the producers alone. -/
theorem input_leaves_producers (made : InputCall sink input call)
    (still : ∀ transition outcome, input ≠ .changeState transition outcome) (open' : input ≠ .finalize) :
    call.leavesProducers = true := by
  cases made with
  | event found made => cases made <;> rfl
  | buffer found made =>
    cases made with
    | body made => cases made <;> rfl
    | _ => rfl
  | noBuffer made =>
    cases made with
    | body made => cases made <;> rfl
    | _ => rfl
  | late | report => rfl
  | destroyed => exact absurd rfl open'
  | setUp | stopped => exact absurd rfl (still _ _)

/-- The element is finalized while it shares its data with a producer, or has none. -/
theorem finalize_calls (counted : SharesCounted sink) (running : sink.finalized = false) :
    (gstKvsSinkFinalize sink).calls = sink.calls := by
  unfold gstKvsSinkFinalize
  simp only
  split
  · rename_i last
    have count : sink.dataUseCount = _ := counted.count
    cases held : sink.data.kinesisVideoProducer with
    | none => rfl
    | some producer =>
      simp only [GstKvsSink.holders, running, held, Option.isSome_some, Bool.false_eq_true, if_false,
        if_true] at count
      omega
  · rfl

private theorem quiet_step_in_protocol (here : InProtocol pic sink) (accepted : step pic sink input = some next)
    (still : ∀ transition outcome, input ≠ .changeState transition outcome) : InProtocol pic next := by
  obtain ⟨admitted, rfl⟩ := step_eq_some.mp accepted
  obtain ⟨stays, grown⟩ := input_stays pic sink input still
  by_cases ends : input = .finalize
  · subst ends
    have running : sink.finalized = false := by
      simp only [accepts, Bool.and_eq_true, Bool.not_eq_true'] at admitted
      exact admitted.1.2
    have calls : (applyInput pic sink .finalize).calls = sink.calls :=
      finalize_calls here.numbered.counted running
    apply here.after accepted
    · refine ⟨calls ▸ here.orderly, ?_⟩
      rw [GstKvsSink.creations, calls, stays.nextStream]
      exact here.fresh
    · rw [stays.state, stays.stream, calls]
      exact here.current
  · have leaves (call : Call) (made : InputCall sink input call) : call.leavesProducers = true :=
      input_leaves_producers made still ends
    have uses (call : Call) (made : InputCall sink input call) (stream : StreamId)
        (used : call.usedStream = some stream) : Current sink.calls stream := by
      refine here.current ?_ stream (input_uses_held made used)
      intro null
      rw [inactive_input_uses_no_stream admitted (by rw [null]; rfl) still made] at used
      cases used
    apply here.after accepted (here.toInOrder.grow grown stays.nextStream leaves uses)
    rw [stays.state, stays.stream]
    intro outside stream held
    obtain ⟨added, made, kinds⟩ := grown
    rw [made, current_append_leaving fun call member => leaves call (kinds call member)]
    exact here.current outside stream held

/-- A start that comes through holds the last stream, of a producer that lives. -/
theorem started_current (here : InProtocol pic sink)
    (accepted : step pic sink (.changeState .nullToReady outcome) = some next)
    (outside : next.state ≠ .null) (held : next.data.kinesisVideoStream = some stream) :
    Current next.calls stream := by
  have counted := step_keeps_counted here.numbered.counted accepted
  have recorded := step_keeps_recorded here.numbered.counted here.recorded accepted
  have producers := step_producer here.numbered.counted accepted
  obtain ⟨admitted, rfl⟩ := step_eq_some.mp accepted
  have null : sink.state = .null := accepted_transition admitted
  have stays {next : GstKvsSink} (lasting : next.lastingPart = sink.lastingPart) : next.state = .null :=
    (congrArg (·.state) lasting).trans null
  have success : (nullToReady pic sink outcome).2 = .success := by
    have changed := change_state_cases pic sink .nullToReady outcome
    simp only [applyInput] at outside
    generalize changeState pic sink .nullToReady outcome = next at changed outside
    cases changed with
    | started ran => rw [ran]
    | startedInVain _ creates => exact absurd (stays creates.lasting) outside
    | notStarted _ _ kept => exact absurd (stays kept.lasting) outside
    | moved _ across => rcases across with impossible | impossible | impossible <;> cases impossible
    | refused _ up => exact absurd rfl up
  obtain ⟨sameStream, creations, _⟩ := started_holds pic sink outcome
  have ends := start_ends here.numbered.audio pic outcome
  generalize nullToReady pic sink outcome = ended at ends success sameStream creations
  cases ends with
  | idle _ _ _ failed => exact absurd success failed
  | crashed | failed => cases success
  | created comes _ holds grown =>
    cases (sameStream.trans holds).symm.trans held
    obtain ⟨_, renewed, _⟩ | ⟨idle, _⟩ := producers
    · refine ⟨sink.nextProducer, (alive_iff_held counted recorded).mpr renewed, ?_⟩
      have last : (changeState pic sink .nullToReady outcome).creations.getLast? =
          some (sink.nextProducer, stream) := by
        rw [creations, grown, List.getLast?_concat]
      exact last
    · exact absurd comes.produces idle

private theorem change_step_in_protocol (here : InProtocol pic sink)
    (accepted : step pic sink (.changeState transition outcome) = some next)
    (notStart : transition ≠ .nullToReady) : InProtocol pic next := by
  obtain ⟨admitted, rfl⟩ := step_eq_some.mp accepted
  have before : sink.state = transition.current := accepted_transition admitted
  have outside : sink.state ≠ .null := by
    rw [before]
    cases transition with
    | nullToReady => exact absurd rfl notStart
    | _ => rintro ⟨⟩
  have current := here.current outside
  simp only [applyInput] at accepted ⊢
  have changed := change_state_cases pic sink transition outcome
  generalize changeState pic sink transition outcome = next at changed accepted
  cases changed with
  | started | startedInVain | notStarted => exact absurd rfl notStart
  | collecting | nothingToStop | moved =>
    exact here.after accepted ⟨here.orderly, here.fresh⟩ fun _ => current
  | collectingInVain =>
    have begun : InOrder pic sink.collectPadsStart := ⟨here.orderly, here.fresh⟩
    exact here.after accepted (begun.error _) fun _ stream held => (current_log rfl).mpr (current stream held)
  | refused =>
    exact here.after accepted (here.toInOrder.error _) fun _ stream held =>
      (current_log rfl).mpr (current stream held)
  | @stopped stream _ _ held =>
    have grown : Grows (· = Call.stopSync stream outcome.stopped) sink.calls
        ((sink.log (.stopSync stream outcome.stopped)).enter .ready).calls := .snoc (by rfl) _
    refine here.after accepted (here.toInOrder.grow grown rfl ?_ ?_) fun _ other same =>
      (current_log rfl).mpr (current other same)
    · rintro call rfl
      rfl
    · rintro call rfl used ⟨⟩
      exact current stream held

private theorem step_in_protocol (here : InProtocol pic sink) (accepted : step pic sink input = some next) :
    InProtocol pic next := by
  obtain ⟨transition, outcome, rfl⟩ | still := state_change_or_not input
  · by_cases starts : transition = .nullToReady
    · subst starts
      refine here.after accepted ?_ fun outside stream held => started_current here accepted outside held
      have started := start_in_order here outcome
      obtain ⟨_, rfl⟩ := step_eq_some.mp accepted
      have changed := change_state_cases pic sink .nullToReady outcome
      simp only [applyInput]
      generalize changeState pic sink .nullToReady outcome = next at changed
      cases changed with
      | started ran | notStarted ran =>
        rw [ran] at started
        exact ⟨started.orderly, started.fresh⟩
      | startedInVain ran =>
        rw [ran] at started
        exact started.error _
      | moved _ across => rcases across with impossible | impossible | impossible <;> cases impossible
      | refused _ up => exact absurd rfl up
    · exact change_step_in_protocol here accepted starts
  · exact quiet_step_in_protocol here accepted still

/-! ## Whole runs -/

/-- What the library can rely on: every call was in order when it was made, no
producer is alive but the one in hand, and each grants at most one stream. -/
structure KeepsToProtocol (pic : Pic) (sink : GstKvsSink) : Prop where
  orderly : EachEntry (Orderly pic) sink.calls
  alive : ∀ producer, Alive sink.calls producer ↔ sink.data.kinesisVideoProducer = some producer
  single : (sink.creations.map (·.1)).Nodup

theorem reachable_in_protocol (ran : runFromInit pic now inputs = some final) : InProtocol pic final :=
  invariant_reached (fun _ _ _ here accepted => step_in_protocol here accepted) (init_in_protocol now) ⟨inputs, ran⟩

/-- **The protocol of the client library.** In every run, an element asks only
producers that are alive, destroys each of them once, and uses a stream only as
long as it is the last one created and its producer lives. -/
theorem element_keeps_to_protocol (ran : runFromInit pic now inputs = some final) :
    KeepsToProtocol pic final := by
  have here := reachable_in_protocol ran
  exact ⟨here.orderly, fun _ => alive_iff_held here.numbered.counted here.recorded, here.single⟩

/-- Two sessions with a frame each, and between them a start that fails behind its producer. -/
def threeStarts : List Input :=
  let failed := .changeState .nullToReady { allowedCaps := fun _ => some [{ name := "video/x-raw" }] }
  let session := upTo (fun _ => some [h264Caps]) ++ [.buffer 0 ⟨0, 700, 0, [1]⟩ {}] ++ downToNull
  [.requestNewPad .video true] ++ session ++ [failed] ++ session ++ [.finalize]

theorem three_starts_keep_to_protocol :
    ∃ final, runFromInit .sample 0 threeStarts = some final ∧
      (final.calls.filterMap Call.usedStream, final.data.kinesisVideoProducer) = ([0, 0, 1, 1], some 2) ∧
      KeepsToProtocol .sample final := by
  have evaluated : (runFromInit .sample 0 threeStarts).map (fun final =>
      (final.calls.filterMap Call.usedStream, final.data.kinesisVideoProducer)) =
        some ([0, 0, 1, 1], some 2) := by decide
  obtain ⟨final, ran, seen⟩ := Option.map_eq_some_iff.mp evaluated
  exact ⟨final, ran, seen, element_keeps_to_protocol ran⟩

end KvsProducer
