import KvsProducer.RegistryRaces

/-! One call of `freeStreams` while other threads create and free streams. Its
number of rounds is read once, and each round takes the first stream that is
there at its own moment. Other threads can empty the registry in between, and
the handler of the exception that this raises reads the name of no stream. -/
namespace KvsProducer
open Gst Leases Runs

namespace FreeStreamsRaces
open RegistryRaces

/-- Where the call of `freeStreams` is, with the rounds that come after the one
it is in. -/
inductive Sweep where
  | notStarted
  | looping (rounds : ℕ)
  /-- `getAt(0)` has answered; next `freeStream` looks at the pointer. -/
  | taken (rounds : ℕ) (stream : Option StreamObject)
  /-- The handle has been read; next the stream is shut down and freed. -/
  | freeing (rounds : ℕ) (stream : StreamObject) (handle : StreamHandle)
  /-- The stream has been freed; next the handle that was read is removed. -/
  | removing (rounds : ℕ) (stream : StreamObject) (handle : StreamHandle)
  /-- `freeStream` has returned, or what it threw has been caught; next the name
  of the stream is logged and the pointer given up. -/
  | logging (rounds : ℕ) (stream : Option StreamObject)
  | finished
  | crashed
  deriving DecidableEq, Repr

/-- The pointer that `getAt(0)` gave to the round, as long as it is used. -/
def Sweep.pointer : Sweep → Option (Option StreamObject)
  | .taken _ stream | .logging _ stream => some stream
  | .freeing _ stream _ | .removing _ stream _ => some (some stream)
  | .notStarted | .looping _ | .finished | .crashed => none

/-- The rounds that have not yet removed the entry of their stream. -/
def Sweep.toGo : Sweep → Option ℕ
  | .looping rounds | .logging rounds _ => some rounds
  | .taken rounds _ | .freeing rounds _ _ | .removing rounds _ _ => some (rounds + 1)
  | .notStarted | .finished | .crashed => none

/-- What has happened to the registry since its size was read. -/
structure Ledger where
  /-- Entries that other threads have made. -/
  put : ℕ := 0
  /-- Entries that other threads have removed. -/
  removed : ℕ := 0
  /-- Rounds of `freeStreams` that are over and have removed no entry. -/
  spared : ℕ := 0

structure State where
  threads : Threads := {}
  sweep : Sweep := .notStarted
  ledger : Ledger := {}

inductive Input where
  /-- A step of another thread. -/
  | other (input : RegistryRaces.Input)
  /-- `createStream` of another thread, when the library refuses. -/
  | createFails (thread : ThreadId) (streamName : String)
  /-- `shutdownStream` throws, and with it `freeStream` of another thread. -/
  | freeThrows (thread : ThreadId)
  /-- `freeStreams` is called. -/
  | begin
  /-- The next step of `freeStreams`. -/
  | proceed
  /-- `shutdownStream` throws in the round of `freeStreams`. -/
  | roundThrows

/-- How the ledger counts a step of another thread: an entry is made by a put
under a free handle and removed by a removal that finds one. -/
def Ledger.count (self : Ledger) (threads : Threads) : RegistryRaces.Input → Ledger
  | .create _ _ _ | .free _ _ => self
  | .advance thread =>
    match threads.working thread with
    | some (.putting stream) =>
      if (threads.producer.activeStreams.get (threads.producer.handleOf stream)).isNone
        then { self with put := self.put + 1 } else self
    | some (.removing _ handle) =>
      if (threads.producer.activeStreams.get handle).isSome
        then { self with removed := self.removed + 1 } else self
    | some (.freeing _ _) | none => self

namespace State

def producer (self : State) : KinesisVideoProducer := self.threads.producer

def withProducer (self : State) (producer : KinesisVideoProducer) : State :=
  { self with threads := { self.threads with producer } }

def goTo (self : State) (sweep : Sweep) : State := { self with sweep }

/-- A round ends without having removed an entry. -/
def spare (self : State) : State :=
  { self with ledger := { self.ledger with spared := self.ledger.spared + 1 } }

/-- The next atomic step of `freeStreams`. -/
def proceed (self : State) : Option State :=
  match self.sweep with
  | .notStarted | .finished | .crashed => none
  | .looping 0 => some (self.goTo .finished)
  | .looping (rounds + 1) => some (self.goTo (.taken rounds (self.producer.activeStreams.getAt 0)))
  -- `freeStream` throws, and the handler catches it.
  | .taken rounds none => some (self.spare.goTo (.logging rounds none))
  | .taken rounds (some stream) =>
    some (self.goTo (.freeing rounds stream (self.producer.handleOf stream)))
  | .freeing rounds stream handle =>
    some ((self.withProducer (self.producer.free stream)).goTo (.removing rounds stream handle))
  | .removing rounds stream handle =>
    let counted := if (self.producer.activeStreams.get handle).isSome then self else self.spare
    some ((counted.withProducer (self.producer.removeHandle handle)).goTo (.logging rounds (some stream)))
  | .logging rounds (some stream) =>
    some ((self.withProducer (self.producer.release stream)).goTo (.looping rounds))
  -- The handler reads `stream->stream_name_`.
  | .logging _ none => some (self.goTo .crashed)

end State

def step (self : State) : Input → Option State
  | .other input =>
    (RegistryRaces.step self.threads input).map fun threads =>
      { self with threads, ledger := self.ledger.count self.threads input }
  | .createFails thread streamName =>
    if (self.threads.working thread).isNone then
      some (self.withProducer ((self.producer.build streamName).release self.producer.streams.length))
    else none
  | .freeThrows thread =>
    match self.threads.working thread with
    | some (.freeing _ _) => some { self with threads := self.threads.goTo thread none }
    | _ => none
  | .begin =>
    match self.sweep with
    | .notStarted =>
      some { self with sweep := .looping self.producer.activeStreams.size, ledger := {} }
    | _ => none
  | .proceed => self.proceed
  | .roundThrows =>
    match self.sweep with
    | .freeing rounds stream _ => some (self.spare.goTo (.logging rounds (some stream)))
    | _ => none

/-- The pointer that the round of `freeStreams` works with is not null. -/
def NeverNull (state : State) : Prop := state.sweep.pointer ≠ some none

/-- When a round takes its stream, the other threads have removed fewer entries
than they have made, together with one for each round still to go, this one
included, and one for each earlier round that removed none. -/
def EntryLeft (state : State) : Input → Prop
  | .proceed =>
    match state.sweep with
    | .looping (rounds + 1) =>
      state.ledger.removed < state.ledger.put + state.ledger.spared + (rounds + 1)
    | _ => True
  | _ => True

variable {state next : State}

/-! ## The balance of the registry -/

/-- Freeing and building objects leave the registry alone. -/
theorem free_active_streams (producer : KinesisVideoProducer) (stream : StreamObject) :
    (producer.free stream).activeStreams = producer.activeStreams := by
  simp only [KinesisVideoProducer.free]
  cases producer.streams[stream]? with
  | none => rfl
  | some object =>
    simp only [KinesisVideoProducer.freeKinesisVideoStream]
    repeat' split
    all_goals rfl

private theorem release_active_streams (producer : KinesisVideoProducer) (stream : StreamObject) :
    (producer.release stream).activeStreams = producer.activeStreams := by
  unfold KinesisVideoProducer.release
  split
  · rfl
  · exact free_active_streams producer stream

/-- What is in the registry, with what other threads have removed, is what they
have made, with the rounds that have removed nothing or are still to go. -/
def Balanced (state : State) : Prop :=
  ∀ toGo, state.sweep.toGo = some toGo →
    state.producer.activeStreams.size + state.ledger.removed =
      state.ledger.put + state.ledger.spared + toGo

/-- A step of another thread changes the registry as the ledger counts it. -/
theorem other_counts (accepted : RegistryRaces.step threads input = some after) (ledger : Ledger) :
    after.producer.activeStreams.size + (ledger.count threads input).removed + ledger.put =
      threads.producer.activeStreams.size + ledger.removed + (ledger.count threads input).put ∧
    (ledger.count threads input).spared = ledger.spared := by
  cases step_cases accepted with
  | created idle valid free => exact ⟨rfl, rfl⟩
  | read idle member => exact ⟨rfl, rfl⟩
  | @put thread stream phase =>
    change ((threads.producer.activeStreams.put (threads.producer.handleOf stream) stream).size + _ + _ = _)
      ∧ _
    simp only [Ledger.count, phase]
    cases found : threads.producer.activeStreams.get (threads.producer.handleOf stream) with
    | none =>
      rw [ThreadSafeMap.size_put found]
      exact ⟨by simp only [Option.isNone_none, if_true]; omega, rfl⟩
    | some held =>
      rw [ThreadSafeMap.size_put_taken found]
      exact ⟨rfl, rfl⟩
  | @freed thread stream handle phase =>
    change ((threads.producer.free stream).activeStreams.size + _ + _ = _) ∧ _
    rw [free_active_streams]
    simp only [Ledger.count, phase, and_self]
  | @removed thread stream handle phase =>
    change ((threads.producer.activeStreams.remove handle).size + _ + _ = _) ∧ _
    simp only [Ledger.count, phase]
    cases found : threads.producer.activeStreams.get handle with
    | none =>
      rw [ThreadSafeMap.remove_missing found]
      exact ⟨rfl, rfl⟩
    | some held =>
      have fewer := ThreadSafeMap.size_remove found
      exact ⟨by simp only [Option.isSome_some, if_true]; omega, rfl⟩

/-- What an input does. -/
inductive Steps (state : State) : Input → State → Prop where
  | other : RegistryRaces.step state.threads input = some threads →
      Steps state (.other input) { state with threads, ledger := state.ledger.count state.threads input }
  | refused : state.threads.working thread = none →
      Steps state (.createFails thread streamName)
        (state.withProducer ((state.producer.build streamName).release state.producer.streams.length))
  | thrown : Steps state (.freeThrows thread) { state with threads := state.threads.goTo thread none }
  | begun : state.sweep = .notStarted →
      Steps state .begin
        { state with sweep := .looping state.producer.activeStreams.size, ledger := {} }
  | ended : state.sweep = .looping 0 → Steps state .proceed (state.goTo .finished)
  | took : state.sweep = .looping (rounds + 1) →
      Steps state .proceed (state.goTo (.taken rounds (state.producer.activeStreams.getAt 0)))
  | missing : state.sweep = .taken rounds none →
      Steps state .proceed (state.spare.goTo (.logging rounds none))
  | read : state.sweep = .taken rounds (some stream) →
      Steps state .proceed (state.goTo (.freeing rounds stream (state.producer.handleOf stream)))
  | freed : state.sweep = .freeing rounds stream handle →
      Steps state .proceed
        ((state.withProducer (state.producer.free stream)).goTo (.removing rounds stream handle))
  | removed : state.sweep = .removing rounds stream handle →
      state.producer.activeStreams.get handle = some held →
      Steps state .proceed
        ((state.withProducer (state.producer.removeHandle handle)).goTo (.logging rounds (some stream)))
  | removedNothing : state.sweep = .removing rounds stream handle →
      state.producer.activeStreams.get handle = none →
      Steps state .proceed
        ((state.spare.withProducer (state.producer.removeHandle handle)).goTo
          (.logging rounds (some stream)))
  | logged : state.sweep = .logging rounds (some stream) →
      Steps state .proceed
        ((state.withProducer (state.producer.release stream)).goTo (.looping rounds))
  | crashed : state.sweep = .logging rounds none → Steps state .proceed (state.goTo .crashed)
  | roundThrown : state.sweep = .freeing rounds stream handle →
      Steps state .roundThrows (state.spare.goTo (.logging rounds (some stream)))

private theorem proceed_cases (accepted : state.proceed = some next) : Steps state .proceed next := by
  unfold State.proceed at accepted
  cases phase : state.sweep with
  | notStarted | finished | crashed =>
    simp only [phase] at accepted
    cases accepted
  | looping rounds =>
    simp only [phase] at accepted
    cases rounds with
    | zero =>
      cases accepted
      exact .ended phase
    | succ rounds =>
      cases accepted
      exact .took phase
  | taken rounds pointer =>
    simp only [phase] at accepted
    cases pointer with
    | none =>
      cases accepted
      exact .missing phase
    | some stream =>
      cases accepted
      exact .read phase
  | freeing rounds stream handle =>
    simp only [phase] at accepted
    cases accepted
    exact .freed phase
  | removing rounds stream handle =>
    simp only [phase] at accepted
    cases found : state.producer.activeStreams.get handle with
    | none =>
      simp only [found] at accepted
      cases accepted
      exact .removedNothing phase found
    | some held =>
      simp only [found] at accepted
      cases accepted
      exact .removed phase found
  | logging rounds pointer =>
    simp only [phase] at accepted
    cases pointer with
    | none =>
      cases accepted
      exact .crashed phase
    | some stream =>
      cases accepted
      exact .logged phase

theorem step_cases (accepted : step state input = some next) : Steps state input next := by
  cases input with
  | other input =>
    obtain ⟨threads, moved, rfl⟩ := Option.map_eq_some_iff.mp accepted
    exact .other moved
  | createFails thread streamName =>
    simp only [step] at accepted
    split at accepted
    · rename_i idle
      cases accepted
      exact .refused (Option.isNone_iff_eq_none.mp idle)
    · cases accepted
  | freeThrows thread =>
    simp only [step] at accepted
    split at accepted
    · cases accepted
      exact .thrown
    · cases accepted
  | begin =>
    simp only [step] at accepted
    split at accepted
    · rename_i phase
      cases accepted
      exact .begun phase
    · cases accepted
  | proceed => exact proceed_cases accepted
  | roundThrows =>
    simp only [step] at accepted
    split at accepted
    · rename_i rounds stream handle phase
      cases accepted
      exact .roundThrown phase
    · cases accepted

/-- A move within a round, or between two, that changes no entry. -/
theorem Balanced.moves (balanced : Balanced state) (sweep : next.sweep.toGo = state.sweep.toGo)
    (ledger : next.ledger = state.ledger)
    (registry : next.producer.activeStreams = state.producer.activeStreams) : Balanced next := by
  intro toGo going
  rw [ledger, registry]
  exact balanced toGo (sweep.symm.trans going)

/-- A round is over without having removed an entry. -/
theorem Balanced.spares (balanced : Balanced state) (phase : state.sweep.toGo = some (rounds + 1))
    (pointer : Option StreamObject) : Balanced (state.spare.goTo (.logging rounds pointer)) := by
  intro toGo going
  cases going
  have before := balanced (rounds + 1) phase
  simp only [State.goTo, State.spare, State.producer] at before ⊢
  omega

private theorem step_keeps_balanced (balanced : Balanced state) (accepted : step state input = some next) :
    Balanced next := by
  cases step_cases accepted with
  | @other input threads moved =>
    intro toGo going
    have before := balanced toGo going
    obtain ⟨counts, spared⟩ := other_counts moved state.ledger
    simp only [State.producer] at before ⊢
    omega
  | refused idle => exact balanced.moves rfl rfl (release_active_streams _ _)
  | thrown => exact balanced.moves rfl rfl rfl
  | begun phase =>
    intro toGo going
    cases going
    simp [State.producer]
  | ended phase => exact nofun
  | took phase => exact balanced.moves (by rw [phase]; rfl) rfl rfl
  | missing phase => exact balanced.spares (by rw [phase]; rfl) none
  | read phase => exact balanced.moves (by rw [phase]; rfl) rfl rfl
  | freed phase => exact balanced.moves (by rw [phase]; rfl) rfl (free_active_streams _ _)
  | @removed rounds stream handle held phase found =>
    intro toGo going
    cases going
    have before := balanced (rounds + 1) (by rw [phase]; rfl)
    have fewer := ThreadSafeMap.size_remove found
    change (state.producer.activeStreams.remove handle).size + state.ledger.removed =
      state.ledger.put + state.ledger.spared + rounds
    omega
  | @removedNothing rounds stream handle phase found =>
    refine (balanced.spares (by rw [phase]; rfl) (some stream)).moves rfl rfl ?_
    exact ThreadSafeMap.remove_missing found
  | logged phase => exact balanced.moves (by rw [phase]; rfl) rfl (release_active_streams _ _)
  | crashed phase => exact nofun
  | roundThrown phase => exact balanced.spares (by rw [phase]; rfl) _

/-! ## The exact condition -/

/-- By the balance, a round finds the registry empty exactly if too many entries
have been removed. -/
theorem entry_left_iff (balanced : Balanced state) (looping : state.sweep = .looping (rounds + 1)) :
    state.producer.activeStreams.getAt 0 ≠ none ↔
      state.ledger.removed < state.ledger.put + state.ledger.spared + (rounds + 1) := by
  have before := balanced (rounds + 1) (by rw [looping]; rfl)
  rw [Ne, ThreadSafeMap.get_at_zero_none_iff]
  omega

/-- A step leads to no null pointer exactly if it meets the condition. -/
theorem never_null_iff (balanced : Balanced state) (good : NeverNull state)
    (accepted : step state input = some next) : NeverNull next ↔ EntryLeft state input := by
  cases step_cases accepted with
  | other | refused | thrown => exact iff_of_true good trivial
  | begun | roundThrown => exact iff_of_true (by rintro ⟨⟩) trivial
  | @took rounds phase =>
    have left := entry_left_iff balanced phase
    simp only [EntryLeft, phase, ← left]
    exact not_congr Option.some_inj
  | missing phase | crashed phase => exact absurd (congrArg Sweep.pointer phase) good
  | ended phase | read phase | freed phase | removed phase | removedNothing phase | logged phase =>
    refine iff_of_true (by rintro ⟨⟩) ?_
    simp only [EntryLeft, phase]

/-- In every interleaving, `freeStreams` works with streams that are there
exactly if each of its rounds begins before the other threads have removed too
many entries. -/
theorem sweep_takes_streams_iff (inputs : List Input) :
    Throughout step NeverNull {} inputs ↔ EachStep step EntryLeft {} inputs :=
  throughout_iff_each_step (fun _ _ _ => step_keeps_balanced)
    (fun _ _ _ balanced good accepted => never_null_iff balanced good accepted) nofun nofun

/-- The only stream is freed by another thread after its presence was counted. -/
def freedInBetween : List Input :=
  [.other (.create 0 "lobby" 5), .other (.advance 0), .begin, .other (.free 0 0),
    .other (.advance 0), .other (.advance 0), .proceed, .proceed, .proceed]

/-- The round takes a null pointer, and the handler reads the name of its stream. -/
theorem sweep_takes_null : ¬ ∀ inputs, Throughout step NeverNull {} inputs := by
  intro always
  have taken : (run step {} (freedInBetween.take 7)).map (·.sweep) = some (.taken 0 none) := by decide
  obtain ⟨state, ran, seen⟩ := Option.map_eq_some_iff.mp taken
  exact (always _).at_end ran (by rw [seen]; rfl)

example : (run step {} freedInBetween).map (·.sweep) = some .crashed := by decide

/-- While `freeStreams` is in its loop, no other thread removes a handle. -/
def Undisturbed (state : State) : Input → Prop
  | .other (.advance thread) =>
    state.sweep.toGo = none ∨ ∀ stream handle, state.threads.working thread ≠ some (.removing stream handle)
  | _ => True

/-- In the loop the ledger has counted no removal of another thread. -/
def Untouched (state : State) : Prop := state.sweep.toGo ≠ none → state.ledger.removed = 0

private theorem step_keeps_untouched (untouched : Untouched state) (undisturbed : Undisturbed state input)
    (accepted : step state input = some next) : Untouched next := by
  cases step_cases accepted with
  | @other input threads moved =>
    intro going
    have before := untouched going
    cases input with
    | create | free => exact before
    | advance thread =>
      have spares := undisturbed.resolve_left going
      change (state.ledger.count state.threads (.advance thread)).removed = 0
      simp only [Ledger.count]
      split
      · split <;> exact before
      · rename_i stream handle phase
        exact absurd phase (spares stream handle)
      · exact before
      · exact before
  | refused | thrown => exact untouched
  | begun => exact fun _ => rfl
  | ended | crashed => exact fun going => absurd rfl going
  | took phase | missing phase | read phase | freed phase | removed phase | removedNothing phase
  | logged phase | roundThrown phase =>
    intro _
    exact untouched (by rw [phase]; rintro ⟨⟩)

/-- Other threads may create streams and free them up to the removal: without a
removal during the loop every round has its stream. -/
theorem undisturbed_sweep_takes_streams (undisturbed : EachStep step Undisturbed {} inputs) :
    Throughout step NeverNull {} inputs := by
  have all : Throughout step (fun state => (Balanced state ∧ Untouched state) ∧ NeverNull state) {} inputs := by
    apply invariant_throughout _ ⟨⟨nofun, fun going => absurd rfl going⟩, nofun⟩ undisturbed
    rintro state input next ⟨⟨balanced, untouched⟩, good⟩ quiet accepted
    refine ⟨⟨step_keeps_balanced balanced accepted, step_keeps_untouched untouched quiet accepted⟩, ?_⟩
    apply (never_null_iff balanced good accepted).mpr
    unfold EntryLeft
    split
    · split
      · rename_i rounds phase
        have none := untouched (by rw [phase]; nofun)
        omega
      · trivial
    · trivial
  exact all.imp fun _ holds => holds.2

end FreeStreamsRaces

end KvsProducer
