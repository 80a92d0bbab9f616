import KvsProducer.StreamLifecycle

/-! Freeing all streams when `shutdownStream` of the callback provider may throw.
The loop runs once for each stream that is active at its start and always takes
the first of those that are left, so a stream that cannot be freed stays in its way. -/
namespace KvsProducer
open Gst Leases Runs

/-- The virtual `CallbackProvider::shutdownStream`: for each handle, what it throws if it throws. -/
abbrev ShutdownStream := StreamHandle → Option String

/-- The implementation of `CallbackProvider` itself, which does nothing. -/
def neverThrows : ShutdownStream := fun _ => none

namespace KinesisVideoProducer

/-- A run of `freeStreams`, with the streams on which it called `freeStream`. -/
structure Freeing where
  producer : KinesisVideoProducer
  attempts : List StreamObject := []
  result : Except Raised Unit := .ok ()

section Operations
variable (shutdownStream : ShutdownStream)

/-- `KinesisVideoProducer::freeStream`. The stream is shut down before anything is changed. -/
def freeStreamWith (self : KinesisVideoProducer) (stream : Option StreamObject) :
    KinesisVideoProducer × Except Raised Unit :=
  match stream with
  | none => (self, .error (.runtimeError "Kinesis Video stream can't be null"))
  | some stream =>
    let streamHandle := self.handleOf stream
    match shutdownStream streamHandle with
    | some what => (self, .error (.runtimeError what))
    | none => ((self.free stream).removeHandle streamHandle, .ok ())

/-- The loop of `freeStreams`. Its handler logs what was thrown, and the next
round takes the first stream again. -/
def freeStreamsLoopWith : ℕ → KinesisVideoProducer → Freeing
  | 0, self => { producer := self }
  | rounds + 1, self =>
    match self.activeStreams.getAt 0 with
    | none => { producer := self, result := .error .uncaught }
    | some stream =>
      let rest := freeStreamsLoopWith rounds
        ((self.freeStreamWith shutdownStream (some stream)).1.release stream)
      { rest with attempts := stream :: rest.attempts }

/-- `KinesisVideoProducer::freeStreams`. -/
def freeStreamsWith (self : KinesisVideoProducer) : Freeing :=
  freeStreamsLoopWith shutdownStream self.activeStreams.size self

/-- `KinesisVideoProducer::~KinesisVideoProducer`. -/
def destroyWith (self : KinesisVideoProducer) : KinesisVideoProducer × Except Raised Unit :=
  let freeing := self.freeStreamsWith shutdownStream
  match freeing.result with
  | .error raised => (freeing.producer, .error raised)
  | .ok () =>
    let closed : KinesisVideoProducer := { freeing.producer with
      clientCalls := freeing.producer.clientCalls ++ [.freedClient], destroyed := true }
    (closed.dropRegistry, .ok ())

def applyWith (pic : Pic) (self : KinesisVideoProducer) : Input → KinesisVideoProducer
  | .freeStream stream => (self.freeStreamWith shutdownStream stream).1
  | .freeStreams => (self.freeStreamsWith shutdownStream).producer
  | .destroy => (self.destroyWith shutdownStream).1
  | input => self.apply pic input

end Operations

/-- One operation of the application, with what the provider does during it. -/
def stepWith (pic : Pic) (self : KinesisVideoProducer) (input : ShutdownStream × Input) :
    Option KinesisVideoProducer :=
  if self.accepts input.2 then some (self.applyWith input.1 pic input.2) else none

/-! ## A provider that never throws -/

private theorem never_throws_free_stream (self : KinesisVideoProducer) (stream : Option StreamObject) :
    self.freeStreamWith neverThrows stream = self.freeStream stream := by
  cases stream <;> rfl

private theorem never_throws_loop (rounds : ℕ) (self : KinesisVideoProducer) :
    ((freeStreamsLoopWith neverThrows rounds self).producer,
      (freeStreamsLoopWith neverThrows rounds self).result) = freeStreamsLoop rounds self := by
  induction rounds generalizing self with
  | zero => rfl
  | succ rounds ih =>
    simp only [freeStreamsLoopWith, freeStreamsLoop, never_throws_free_stream]
    cases self.activeStreams.getAt 0 with
    | none => rfl
    | some stream => exact ih _

/-- The producer whose provider never throws is the one without a provider. -/
theorem never_throws_step (pic : Pic) (self : KinesisVideoProducer) (input : Input) :
    stepWith pic self (neverThrows, input) = step pic self input := by
  have freeing := never_throws_loop self.activeStreams.size self
  have same : self.applyWith neverThrows pic input = self.apply pic input := by
    cases input with
    | freeStream stream => simp only [applyWith, apply, never_throws_free_stream]
    | freeStreams =>
      simp only [applyWith, apply, freeStreamsWith, freeStreams, ← freeing]
    | destroy =>
      simp only [applyWith, apply, destroyWith, destroy, freeStreamsWith, freeStreams, ← freeing]
      split <;> rename_i failed <;> simp only [failed]
    | createStream | createStreamSync | drop => rfl
  unfold stepWith step
  rw [same]

variable {self next : KinesisVideoProducer} {stream other : StreamObject} {handle : StreamHandle}
  {shutdownStream : ShutdownStream}

/-! ## One round -/

private theorem free_stream_throws (throws : shutdownStream (self.handleOf stream) = some what) :
    self.freeStreamWith shutdownStream (some stream) = (self, .error (.runtimeError what)) := by
  simp only [freeStreamWith, throws]

private theorem free_stream_quiet (quiet : shutdownStream (self.handleOf stream) = none) :
    self.freeStreamWith shutdownStream (some stream) = self.freeStream (some stream) := by
  simp only [freeStreamWith, freeStream, quiet]

/-- What freeing leaves as it was, however it ends. -/
structure Onward (before after : KinesisVideoProducer) : Prop where
  calls : before.clientCalls <+: after.clientCalls
  freed : ∀ stream, before.Freed stream → after.Freed stream
  gone : ∀ handle, before.activeStreams.get handle = none → after.activeStreams.get handle = none
  destroyed : after.destroyed = before.destroyed

theorem Onward.refl (self : KinesisVideoProducer) : Onward self self :=
  ⟨List.prefix_refl _, fun _ => id, fun _ => id, rfl⟩

theorem Onward.trans {before middle after : KinesisVideoProducer} (first : Onward before middle)
    (second : Onward middle after) : Onward before after where
  calls := first.calls.trans second.calls
  freed stream freed := second.freed stream (first.freed stream freed)
  gone handle gone := second.gone handle (first.gone handle gone)
  destroyed := second.destroyed.trans first.destroyed

/-- A stream that is freed is off the registry and on the library's record. -/
structure FreedFrom (before : KinesisVideoProducer) (handle : StreamHandle) (stream : StreamObject)
    (after : KinesisVideoProducer) : Prop where
  sound : after.Sound
  onward : Onward before after
  freed : after.Freed stream
  returned : .freedStream stream handle ∈ after.clientCalls
  registry : after.activeStreams = before.activeStreams.remove handle

private theorem active_open (sound : self.Sound) (active : self.activeStreams.get handle = some stream) :
    self.Open stream ∧ self.handleOf stream = handle :=
  sound.book.owned stream handle ((sound.registered handle).symm.trans active)

private theorem free_stream_frees (sound : self.Sound) (active : self.activeStreams.get handle = some stream) :
    FreedFrom self handle stream (self.freeStream (some stream)).1 := by
  obtain ⟨isOpen, own⟩ := active_open sound active
  have taken := free_stream_open sound isOpen
  have gives := free_open sound.book isOpen
  have registry := taken.registry
  rw [own] at registry
  have calls : (self.freeStream (some stream)).1.clientCalls =
      self.clientCalls ++ [.freedStream stream handle] := by
    rw [← own]
    exact gives.calls
  refine ⟨taken.sound, ⟨⟨_, calls.symm⟩, fun other freed => gives.freed_after freed, ?_, taken.destroyed⟩,
    taken.freed, ?_, registry⟩
  · intro other gone
    rw [registry]
    by_cases here : other = handle
    · rw [here]
      exact ThreadSafeMap.get_remove _ _
    · rw [ThreadSafeMap.get_remove_other here]
      exact gone
  · rw [calls]
    exact List.mem_append_right _ (List.mem_singleton_self _)

/-- A round on a stream that cannot be shut down changes nothing. -/
theorem round_throws (sound : self.Sound) (active : self.activeStreams.get handle = some stream)
    (throws : shutdownStream handle = some what) :
    (self.freeStreamWith shutdownStream (some stream)).1.release stream = self := by
  rw [← (active_open sound active).2] at throws
  have kept : self.activeStreams.holds stream = true := ThreadSafeMap.holds_iff.mpr ⟨handle, active⟩
  rw [free_stream_throws throws]
  unfold release
  rw [if_pos (by simp [kept])]

/-- Every other round frees its stream. -/
theorem round_frees (sound : self.Sound) (active : self.activeStreams.get handle = some stream)
    (quiet : shutdownStream handle = none) :
    FreedFrom self handle stream ((self.freeStreamWith shutdownStream (some stream)).1.release stream) := by
  rw [← (active_open sound active).2] at quiet
  have frees := free_stream_frees sound active
  rw [free_stream_quiet quiet, release_freed frees.freed]
  exact frees

/-- A stream that was freed is not active any more, and the others still are. -/
theorem FreedFrom.active (frees : FreedFrom self handle stream next) {otherHandle : StreamHandle} :
    next.activeStreams.get otherHandle = some other ↔
      self.activeStreams.get otherHandle = some other ∧ otherHandle ≠ handle := by
  rw [frees.registry]
  by_cases here : otherHandle = handle
  · subst here
    simp
  · rw [ThreadSafeMap.get_remove_other here]
    simp [here]

theorem FreedFrom.fewer (frees : FreedFrom self handle stream next)
    (active : self.activeStreams.get handle = some stream) :
    next.activeStreams.size + 1 = self.activeStreams.size := by
  rw [frees.registry]
  exact ThreadSafeMap.size_remove active

/-- The stream that a round takes has the least handle. -/
theorem first_active (first : self.activeStreams.getAt 0 = some stream) :
    ∃ handle, self.activeStreams.get handle = some stream ∧
      ∀ otherHandle other, self.activeStreams.get otherHandle = some other → handle ≤ otherHandle := by
  obtain ⟨handle, active, least⟩ := ThreadSafeMap.get_at_zero_least first
  refine ⟨handle, active, fun otherHandle other present => ?_⟩
  rcases least otherHandle other present with rfl | below
  · exact UInt64.le_refl _
  · exact UInt64.le_of_lt (compareOfLessAndEq_eq_lt.mp below)

/-! ## The loop -/

/-- The loop cannot go beyond a stream that cannot be shut down. -/
theorem loop_stuck (rounds : ℕ) (sound : self.Sound) (first : self.activeStreams.getAt 0 = some stream)
    (throws : shutdownStream (self.handleOf stream) = some what) :
    freeStreamsLoopWith shutdownStream rounds self =
      { producer := self, attempts := List.replicate rounds stream } := by
  obtain ⟨handle, active⟩ := ThreadSafeMap.get_at_zero_some first
  rw [(active_open sound active).2] at throws
  induction rounds with
  | zero => rfl
  | succ rounds ih =>
    simp only [freeStreamsLoopWith, first, round_throws sound active throws, ih]
    rfl

/-- However many rounds throw, the loop comes to its end. -/
structure Completed (before : KinesisVideoProducer) (freeing : Freeing) : Prop where
  sound : freeing.producer.Sound
  onward : Onward before freeing.producer
  result : freeing.result = .ok ()
  attempts : ∀ stream ∈ freeing.attempts, ∃ handle, before.activeStreams.get handle = some stream

private theorem loop_completes (rounds : ℕ) (sound : self.Sound) (enough : rounds ≤ self.activeStreams.size) :
    Completed self (freeStreamsLoopWith shutdownStream rounds self) := by
  induction rounds generalizing self with
  | zero => exact ⟨sound, Onward.refl _, rfl, nofun⟩
  | succ rounds ih =>
    cases first : self.activeStreams.getAt 0 with
    | none =>
      rw [ThreadSafeMap.get_at_zero_none first] at enough
      omega
    | some stream =>
      obtain ⟨handle, active⟩ := ThreadSafeMap.get_at_zero_some first
      cases outcome : shutdownStream handle with
      | some what =>
        have rest := ih sound (by omega)
        simp only [freeStreamsLoopWith, first, round_throws sound active outcome]
        refine ⟨rest.sound, rest.onward, rest.result, ?_⟩
        intro other attempted
        rcases List.mem_cons.mp attempted with rfl | later
        · exact ⟨handle, active⟩
        · exact rest.attempts other later
      | none =>
        have frees := round_frees sound active outcome
        have fewer := frees.fewer active
        have rest := ih frees.sound (by omega)
        simp only [freeStreamsLoopWith, first]
        refine ⟨rest.sound, frees.onward.trans rest.onward, rest.result, ?_⟩
        intro other attempted
        rcases List.mem_cons.mp attempted with rfl | later
        · exact ⟨handle, active⟩
        · obtain ⟨otherHandle, present⟩ := rest.attempts other later
          exact ⟨otherHandle, (frees.active.mp present).1⟩

private theorem free_streams_complete (sound : self.Sound) :
    Completed self (self.freeStreamsWith shutdownStream) := loop_completes _ sound (Nat.le_refl _)

/-- The only stream that cannot be shut down, if any, is the last in the order of the handles. -/
def OnlyLastThrows (shutdownStream : ShutdownStream) (producer : KinesisVideoProducer) : Prop :=
  ∀ handle stream otherHandle other, producer.activeStreams.get handle = some stream →
    producer.activeStreams.get otherHandle = some other → (shutdownStream handle).isSome → otherHandle ≤ handle

theorem OnlyLastThrows.rest (only : OnlyLastThrows shutdownStream self)
    (frees : FreedFrom self handle stream next) : OnlyLastThrows shutdownStream next := by
  intro handle stream otherHandle other active present throws
  exact only handle stream otherHandle other (frees.active.mp active).1 (frees.active.mp present).1 throws

/-- A stream that is still active was not the one freed. -/
theorem FreedFrom.apart (frees : FreedFrom self handle stream next)
    (active : next.activeStreams.get otherHandle = some other) : other ≠ stream := by
  rintro rfl
  exact freed_not_open frees.freed (active_open frees.sound active).1

/-- What becomes of one active stream. -/
structure FreedOnce (shutdownStream : ShutdownStream) (handle : StreamHandle) (stream : StreamObject)
    (freeing : Freeing) : Prop where
  attempted : freeing.attempts.count stream = 1
  freed : shutdownStream handle = none → freeing.producer.Freed stream
  removed : shutdownStream handle = none → freeing.producer.activeStreams.get handle = none
  returned : shutdownStream handle = none → .freedStream stream handle ∈ freeing.producer.clientCalls

/-- As long as only the last one throws, every round has its own stream. -/
theorem loop_frees_each (rounds : ℕ) (sound : self.Sound) (size : self.activeStreams.size = rounds)
    (only : OnlyLastThrows shutdownStream self)
    (active : self.activeStreams.get handle = some stream) :
    FreedOnce shutdownStream handle stream (freeStreamsLoopWith shutdownStream rounds self) := by
  induction rounds generalizing self with
  | zero =>
    rw [ThreadSafeMap.get_of_size_zero size] at active
    cases active
  | succ rounds ih =>
    cases first : self.activeStreams.getAt 0 with
    | none =>
      rw [ThreadSafeMap.get_at_zero_none first] at size
      cases size
    | some firstStream =>
      obtain ⟨firstHandle, firstActive, least⟩ := first_active first
      cases outcome : shutdownStream firstHandle with
      | some what =>
        -- The first stream is also the last, so it is the only one.
        have alone {otherHandle : StreamHandle} {other : StreamObject}
            (present : self.activeStreams.get otherHandle = some other) : otherHandle = firstHandle :=
          UInt64.le_antisymm (only _ _ _ _ firstActive present (by simp [outcome])) (least _ _ present)
        have emptied : (self.activeStreams.remove firstHandle).size = 0 := by
          apply ThreadSafeMap.size_of_get_none
          intro otherHandle
          by_cases here : otherHandle = firstHandle
          · rw [here]
            exact ThreadSafeMap.get_remove _ _
          · rw [ThreadSafeMap.get_remove_other here]
            cases present : self.activeStreams.get otherHandle with
            | none => rfl
            | some other => exact absurd (alone present) here
        have one := ThreadSafeMap.size_remove firstActive
        have noMore : rounds = 0 := by omega
        subst noMore
        cases alone active
        cases firstActive.symm.trans active
        simp only [freeStreamsLoopWith, first]
        refine ⟨by simp, ?_, ?_, ?_⟩ <;> rw [outcome] <;> exact nofun
      | none =>
        have frees := round_frees sound firstActive outcome
        have fewer := frees.fewer firstActive
        simp only [freeStreamsLoopWith, first]
        have rest := @loop_completes _ shutdownStream rounds frees.sound (by omega)
        by_cases here : handle = firstHandle
        · subst here
          cases firstActive.symm.trans active
          have never : stream ∉ (freeStreamsLoopWith shutdownStream rounds _).attempts := fun again =>
            let ⟨_, present⟩ := rest.attempts stream again
            frees.apart present rfl
          refine ⟨?_, fun _ => rest.onward.freed stream frees.freed, fun _ => rest.onward.gone handle ?_,
            fun _ => rest.onward.calls.subset frees.returned⟩
          · rw [List.count_cons_self, List.count_eq_zero_of_not_mem never]
          · rw [frees.registry]
            exact ThreadSafeMap.get_remove _ _
        · have still := frees.active.mpr ⟨active, here⟩
          have later := ih frees.sound (by omega) (only.rest frees) still
          refine ⟨?_, later.freed, later.removed, later.returned⟩
          rw [List.count_cons_of_ne (frees.apart still).symm]
          exact later.attempted

/-- A stream before the last one that cannot be shut down takes more rounds than its own. -/
theorem loop_attempts_twice (rounds : ℕ) (sound : self.Sound) (size : self.activeStreams.size = rounds)
    (active : self.activeStreams.get handle = some stream) (throws : shutdownStream handle = some what)
    (present : self.activeStreams.get otherHandle = some other) (before : handle < otherHandle) :
    ∃ twice twiceHandle, self.activeStreams.get twiceHandle = some twice ∧
      1 < (freeStreamsLoopWith shutdownStream rounds self).attempts.count twice := by
  induction rounds generalizing self with
  | zero =>
    rw [ThreadSafeMap.get_of_size_zero size] at active
    cases active
  | succ rounds ih =>
    cases first : self.activeStreams.getAt 0 with
    | none =>
      rw [ThreadSafeMap.get_at_zero_none first] at size
      cases size
    | some firstStream =>
      obtain ⟨firstHandle, firstActive, least⟩ := first_active first
      have notLast : otherHandle ≠ firstHandle := by
        rintro rfl
        exact UInt64.not_lt.mpr (least _ _ active) before
      cases outcome : shutdownStream firstHandle with
      | some why =>
        refine ⟨firstStream, firstHandle, firstActive, ?_⟩
        have stuck := loop_stuck (rounds + 1) sound first
          (by rw [(active_open sound firstActive).2]; exact outcome)
        rw [stuck]
        have left : (self.activeStreams.remove firstHandle).get otherHandle = some other := by
          rw [ThreadSafeMap.get_remove_other notLast]
          exact present
        have one := ThreadSafeMap.size_remove firstActive
        have two := ThreadSafeMap.size_remove left
        simp only [List.count_replicate_self]
        omega
      | none =>
        have frees := round_frees sound firstActive outcome
        have fewer := frees.fewer firstActive
        have apart : handle ≠ firstHandle := by
          rintro rfl
          rw [throws] at outcome
          cases outcome
        obtain ⟨twice, twiceHandle, twiceActive, more⟩ := ih frees.sound (by omega)
          (frees.active.mpr ⟨active, apart⟩) (frees.active.mpr ⟨present, notLast⟩)
        refine ⟨twice, twiceHandle, (frees.active.mp twiceActive).1, ?_⟩
        simp only [freeStreamsLoopWith, first]
        rw [List.count_cons_of_ne (frees.apart twiceActive).symm]
        exact more

/-! ## The end of the producer -/

/-- Freeing whatever it is only adds to the record. -/
structure Adds (before after : KinesisVideoProducer) : Prop where
  calls : before.clientCalls <+: after.clientCalls
  destroyed : after.destroyed = before.destroyed

theorem Adds.refl (self : KinesisVideoProducer) : Adds self self := ⟨List.prefix_refl _, rfl⟩

theorem Adds.trans {before middle after : KinesisVideoProducer} (first : Adds before middle)
    (second : Adds middle after) : Adds before after :=
  ⟨first.calls.trans second.calls, second.destroyed.trans first.destroyed⟩

private theorem free_kinesis_video_stream_adds (self : KinesisVideoProducer) (stream : StreamObject) :
    Adds self (self.freeKinesisVideoStream stream) := by
  unfold freeKinesisVideoStream
  split
  · exact Adds.refl self
  · split
    · exact Adds.refl self
    · exact ⟨List.prefix_append _ _, rfl⟩

private theorem release_adds (self : KinesisVideoProducer) (stream : StreamObject) :
    Adds self (self.release stream) := by
  unfold release
  split
  · exact Adds.refl self
  · unfold free
    split
    · exact Adds.refl self
    · split
      · exact Adds.refl self
      · apply Adds.trans _ (free_kinesis_video_stream_adds _ stream)
        exact ⟨List.prefix_refl _, rfl⟩

/-- What the registry still holds is freed late, after everything on the record. -/
theorem drop_registry_adds (self : KinesisVideoProducer) : Adds self self.dropRegistry := by
  unfold dropRegistry
  generalize self.activeStreams.map.toList = entries
  induction entries generalizing self with
  | nil => exact Adds.refl self
  | cons entry rest ih =>
    have removed : Adds self (self.removeHandle entry.1) := ⟨List.prefix_refl _, rfl⟩
    rw [List.foldl_cons]
    exact (removed.trans (release_adds _ entry.2)).trans (ih _)

/-- The client is freed once `freeStreams` has returned. -/
theorem destroy_adds (sound : self.Sound) :
    (self.freeStreamsWith shutdownStream).producer.clientCalls ++ [.freedClient] <+:
        (self.destroyWith shutdownStream).1.clientCalls ∧
      (self.destroyWith shutdownStream).1.destroyed = true := by
  have done : (self.freeStreamsWith shutdownStream).result = .ok () := (free_streams_complete sound).result
  unfold destroyWith
  simp only [done]
  generalize (self.freeStreamsWith shutdownStream).producer = freed
  have late := drop_registry_adds
    { freed with clientCalls := freed.clientCalls ++ [.freedClient], destroyed := true }
  exact ⟨late.calls, late.destroyed⟩

/-- `freeStreams` does what it is for: each active stream is tried once, and
those that can be shut down are released before the client. -/
structure FreesEach (shutdownStream : ShutdownStream) (producer : KinesisVideoProducer) : Prop where
  each : ∀ handle stream, producer.activeStreams.get handle = some stream →
    FreedOnce shutdownStream handle stream (producer.freeStreamsWith shutdownStream)
  beforeClient : ∀ handle stream, producer.activeStreams.get handle = some stream →
    shutdownStream handle = none → ∃ earlier, earlier ++ [.freedClient] <+:
      (producer.destroyWith shutdownStream).1.clientCalls ∧
        .freedClient ∉ earlier ∧ .freedStream stream handle ∈ earlier

private theorem completed_no_client (sound : self.Sound) (alive : self.destroyed = false) :
    .freedClient ∉ (self.freeStreamsWith shutdownStream).producer.clientCalls :=
  have completed := free_streams_complete sound
  completed.sound.clientLive (completed.onward.destroyed.trans alive)

private theorem frees_each (sound : self.Sound) (alive : self.destroyed = false)
    (only : OnlyLastThrows shutdownStream self) : FreesEach shutdownStream self := by
  have each (handle : StreamHandle) (stream : StreamObject)
      (active : self.activeStreams.get handle = some stream) :
      FreedOnce shutdownStream handle stream (self.freeStreamsWith shutdownStream) :=
    loop_frees_each _ sound rfl only active
  refine ⟨each, fun handle stream active quiet => ?_⟩
  exact ⟨_, (destroy_adds sound).1, completed_no_client sound alive, (each handle stream active).returned quiet⟩

private theorem only_last_throws (sound : self.Sound) (frees : FreesEach shutdownStream self) :
    OnlyLastThrows shutdownStream self := by
  intro handle stream otherHandle other active present throws
  obtain ⟨what, thrown⟩ := Option.isSome_iff_exists.mp throws
  by_contra later
  obtain ⟨twice, twiceHandle, twiceActive, more⟩ :=
    loop_attempts_twice _ sound rfl active thrown present (UInt64.not_le.mp later)
  have once := (frees.each twiceHandle twice twiceActive).attempted
  unfold freeStreamsWith at once
  omega

/-! ## Every producer -/

/-- A producer that has not come to its end is in order, whatever its provider threw. -/
def SoundAlive (producer : KinesisVideoProducer) : Prop := producer.destroyed = false → producer.Sound

private theorem free_stream_with_keeps_sound (sound : self.Sound) (admitted : stream ∈ self.held) :
    (self.freeStreamWith shutdownStream (some stream)).1.Sound := by
  cases outcome : shutdownStream (self.handleOf stream) with
  | some what =>
    rw [free_stream_throws outcome]
    exact sound
  | none =>
    rw [free_stream_quiet outcome]
    rcases open_or_freed (sound.heldBuilt stream admitted) with isOpen | freed
    · exact (free_stream_open sound isOpen).sound
    · rw [free_stream_freed sound freed]
      exact sound

theorem step_with_keeps_sound (sound : SoundAlive self) (accepted : stepWith pic self input = some next) :
    SoundAlive next := by
  unfold stepWith at accepted
  split at accepted
  · rename_i admitted
    cases accepted
    intro alive
    obtain ⟨shutdownStream, input⟩ := input
    cases input with
    | freeStream stream =>
      cases stream with
      | none => exact sound alive
      | some stream =>
        simp only [accepts, Bool.and_eq_true, Bool.not_eq_true', List.contains_iff_mem] at admitted
        exact free_stream_with_keeps_sound (sound admitted.1) admitted.2
    | freeStreams =>
      simp only [accepts, Bool.not_eq_true'] at admitted
      exact (free_streams_complete (sound admitted)).sound
    | destroy =>
      simp only [accepts, Bool.not_eq_true'] at admitted
      simp only [applyWith, (destroy_adds (sound admitted)).2] at alive
      cases alive
    | createStream definition answer | createStreamSync definition answer =>
      simp only [accepts, Bool.and_eq_true, Bool.not_eq_true'] at admitted
      exact create_keeps_sound (sound admitted.1) pic definition admitted.2
    | drop stream =>
      simp only [accepts, List.contains_iff_mem] at admitted
      have adds := release_adds { self with held := self.held.erase stream } stream
      exact drop_keeps_sound (sound (adds.destroyed.symm.trans alive)) admitted
  · cases accepted

/-- However the application has used the producer and whatever its provider
threw before, freeing all streams does its work exactly when only the last of
them cannot be shut down. -/
theorem freeing_goes_on_iff_only_last_throws (pic : Pic) (shutdownStream : ShutdownStream)
    (reached : Reaches (stepWith pic) {} self) (alive : self.destroyed = false) :
    FreesEach shutdownStream self ↔ OnlyLastThrows shutdownStream self := by
  have sound : self.Sound :=
    invariant_reached (fun _ _ _ held accepted => step_with_keeps_sound held accepted)
      (fun _ => init_sound) reached alive
  constructor
  · exact only_last_throws sound
  · exact frees_each sound alive

def bareDefinition (streamName : String) : StreamDefinition where
  streamName := streamName
  retentionPeriodHours := 2
  tags := none
  kmsKeyId := ""
  streamingType := .realtime
  contentType := "video/h264"
  maxLatencySeconds := 60
  fragmentDurationMiliseconds := 2000
  timecodeScaleMilliseconds := 1
  keyFrameFragmentation := true
  frameTimecodes := true
  absoluteFragmentTimes := false
  fragmentAcks := true
  restartOnError := true
  recalculateMetrics := true
  allowStreamCreation := true
  frameRate := 25
  avgBandwidthBps := 4194304
  bufferDurationSeconds := 120
  replayDurationSeconds := 40
  connectionStalenessSeconds := 60
  frameOrderMode := .passThrough
  trackInfo := []

/-- Two streams, of which the one created second has the smaller handle. -/
def lobbyAndGarage : List (ShutdownStream × Input) :=
  [(neverThrows, .createStreamSync (bareDefinition "lobby") (.created 9)),
    (neverThrows, .createStreamSync (bareDefinition "garage") (.created 5))]

/-- A provider that cannot shut down one stream. -/
def throwsOn (handle : StreamHandle) : ShutdownStream := fun streamHandle =>
  if streamHandle = handle then some "curl" else none

private theorem lobby_and_garage_reached :
    ∃ self, Reaches (stepWith .sample) {} self ∧ self.destroyed = false ∧
      self.activeStreams.map.toList = [(5, 1), (9, 0)] ∧
      (self.freeStreamsWith (throwsOn 5)).attempts = [1, 1] := by
  have evaluated : (run (stepWith .sample) {} lobbyAndGarage).map (fun self =>
      (self.destroyed, self.activeStreams.map.toList, (self.freeStreamsWith (throwsOn 5)).attempts)) =
        some (false, [(5, 1), (9, 0)], [1, 1]) := by decide
  obtain ⟨self, ran, facts⟩ := Option.map_eq_some_iff.mp evaluated
  simp only [Prod.mk.injEq] at facts
  exact ⟨self, ⟨_, ran⟩, facts⟩

/-- A failure on the greater handle comes last and keeps nothing alive. -/
theorem garage_is_freed_before_lobby_throws :
    ∃ self, Reaches (stepWith .sample) {} self ∧ self.activeStreams.get 9 = some 0 ∧
      self.activeStreams.get 5 = some 1 ∧ FreesEach (throwsOn 9) self := by
  obtain ⟨self, reached, alive, entries, _⟩ := lobby_and_garage_reached
  have listed {handle : StreamHandle} {stream : StreamObject} :
      self.activeStreams.get handle = some stream ↔ (handle, stream) ∈ [((5 : StreamHandle), 1), (9, 0)] := by
    rw [← entries]
    exact Std.ExtTreeMap.mem_toList_iff_getElem?_eq_some.symm
  refine ⟨self, reached, listed.mpr (by decide), listed.mpr (by decide), ?_⟩
  apply (freeing_goes_on_iff_only_last_throws .sample (throwsOn 9) reached alive).mpr
  intro handle stream otherHandle other active present throws
  have last : handle = 9 := by
    by_contra apart
    simp [throwsOn, apart] at throws
  subst last
  rcases List.mem_pair.mp (listed.mp present) with same | same <;> cases same <;> decide

/-- The stream with the smaller handle cannot be shut down and is tried in both
rounds; the other one is never tried. -/
theorem lobby_is_never_tried :
    ¬ ∀ (pic : Pic) (shutdownStream : ShutdownStream) (self : KinesisVideoProducer),
      Reaches (stepWith pic) {} self → self.destroyed = false → FreesEach shutdownStream self := by
  intro always
  obtain ⟨self, reached, alive, entries, attempts⟩ := lobby_and_garage_reached
  have active : self.activeStreams.get 9 = some 0 :=
    Std.ExtTreeMap.mem_toList_iff_getElem?_eq_some.mp (by rw [entries]; decide)
  have once := ((always .sample (throwsOn 5) self reached alive).each 9 0 active).attempted
  rw [attempts] at once
  cases once

end KinesisVideoProducer

end KvsProducer
