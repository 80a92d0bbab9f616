import KvsProducer.StreamLifecycle

/-! The streams of a producer that many threads use. Creating and freeing take
two and three atomic steps, and between them another thread may be handed the
handle that was just given back. The registry loses a stream exactly when a put
finds the handle still registered, or a removal comes after the handle has been
registered anew. -/
namespace KvsProducer
open Gst Leases Runs

namespace RegistryRaces
open KinesisVideoProducer (Registered)

abbrev ThreadId := ℕ

/-- Where a thread is inside an operation: what its next atomic step is. -/
inductive Phase where
  /-- The library has created the stream; next it is put on the registry. -/
  | putting (stream : StreamObject)
  /-- The handle has been read; next the stream is freed. -/
  | freeing (stream : StreamObject) (handle : StreamHandle)
  /-- The stream has been freed; next the handle that was read is removed. -/
  | removing (stream : StreamObject) (handle : StreamHandle)
  deriving DecidableEq, Repr

structure Threads where
  producer : KinesisVideoProducer := {}
  working : ThreadId → Option Phase := fun _ => none

inductive Input where
  /-- `createStream` up to the answer of the library. -/
  | create (thread : ThreadId) (streamName : String) (handle : StreamHandle)
  /-- `freeStream` up to the reading of the handle. -/
  | free (thread : ThreadId) (stream : StreamObject)
  /-- The next step of the operation the thread is in. -/
  | advance (thread : ThreadId)

def Input.thread : Input → ThreadId
  | .create thread _ _ | .free thread _ | .advance thread => thread

namespace Threads

def goTo (self : Threads) (thread : ThreadId) (phase : Option Phase) : Threads :=
  { self with working := fun other => if other = thread then phase else self.working other }

@[simp] theorem goTo_producer (self : Threads) (thread : ThreadId) (phase : Option Phase) :
    (self.goTo thread phase).producer = self.producer := rfl

/-- The atomic step that a thread in this phase takes, and its phase afterwards. -/
def perform (producer : KinesisVideoProducer) : Phase → KinesisVideoProducer × Option Phase
  | .putting stream => ((producer.putStream stream).hold stream, none)
  | .freeing stream handle => (producer.free stream, some (.removing stream handle))
  | .removing _ handle => (producer.removeHandle handle, none)

/-- An idle thread may start an operation, on a stream that a creation has
returned if it is a freeing; a working one takes its next step. -/
def accepts (self : Threads) : Input → Bool
  | .create thread _ handle =>
    (self.working thread).isNone && self.producer.mayAnswer (.created handle)
  | .free thread stream => (self.working thread).isNone && self.producer.held.contains stream
  | .advance thread => (self.working thread).isSome

def apply (self : Threads) : Input → Threads
  | .create thread streamName handle =>
    let stream := self.producer.streams.length
    { self with
      producer := (self.producer.build streamName).createKinesisVideoStream stream handle }.goTo
        thread (some (.putting stream))
  | .free thread stream =>
    self.goTo thread (some (.freeing stream (self.producer.handleOf stream)))
  | .advance thread =>
    match self.working thread with
    | none => self
    | some phase =>
      let done := perform self.producer phase
      { self with producer := done.1 }.goTo thread done.2

end Threads

def step (self : Threads) (input : Input) : Option Threads :=
  if self.accepts input then some (self.apply input) else none

/-- No operation is in progress. -/
def Threads.Quiet (self : Threads) : Prop := ∀ thread, self.working thread = none

/-- Every stream that a creation has returned, and nobody has freed, stands in
the registry under its handle. -/
def Threads.NoneLost (self : Threads) : Prop :=
  ∀ stream handle, self.producer.owner handle = some stream →
    (∀ thread, self.working thread ≠ some (.putting stream)) →
      self.producer.activeStreams.get handle = some stream

/-- The step puts a stream under a handle that is free in the registry, and
removes no handle under which a stream stands that has it. -/
def KeepsRegistered (self : Threads) : Input → Prop
  | .advance thread =>
    match self.working thread with
    | some (.putting stream) =>
      self.producer.activeStreams.get (self.producer.handleOf stream) = none
    | some (.removing _ handle) =>
      ∀ stream, self.producer.activeStreams.get handle = some stream →
        self.producer.owner handle ≠ some stream
    | _ => True
  | _ => True

/-- A thread that is in another phase than this one was not the one that moved on. -/
theorem goTo_keeps {state : Threads} {producer : KinesisVideoProducer}
    (phase : state.working other = some working) (apart : state.working thread ≠ some working) :
    (Threads.goTo { state with producer } thread after).working other = some working := by
  have different : other ≠ thread := by
    rintro rfl
    exact apart phase
  exact (if_neg different).trans phase

/-- A phase that a move does not lead to is the one of another thread, from before. -/
theorem goTo_before {state : Threads} (phase : (state.goTo thread after).working other = some working)
    (elsewhere : after ≠ some working) : other ≠ thread ∧ state.working other = some working := by
  simp only [Threads.goTo] at phase
  split at phase
  · exact absurd phase elsewhere
  · rename_i different
    exact ⟨different, phase⟩

/-! ## What holds in every interleaving -/

/-- What the phases of the threads say about the objects, and where the entries
of the registry come from: an entry of a freed stream is about to be removed. -/
structure Traced (state : Threads) : Prop where
  book : state.producer.Bookkept
  heldBuilt : ∀ stream ∈ state.producer.held, stream < state.producer.streams.length
  putting : ∀ thread stream, state.working thread = some (.putting stream) →
    state.producer.Open stream ∧ stream ∉ state.producer.held ∧
      (∀ other, state.working other = some (.putting stream) → other = thread) ∧
      ∀ handle, state.producer.activeStreams.get handle ≠ some stream
  freeing : ∀ thread stream handle, state.working thread = some (.freeing stream handle) →
    stream ∈ state.producer.held ∧
      (state.producer.Open stream → state.producer.handleOf stream = handle)
  removing : ∀ thread stream handle, state.working thread = some (.removing stream handle) →
    state.producer.Freed stream
  entries : ∀ handle stream, state.producer.activeStreams.get handle = some stream →
    (state.producer.Open stream ∧ state.producer.handleOf stream = handle) ∨
      ∃ thread, state.working thread = some (.removing stream handle)

variable {state next : Threads}

private theorem init_traced : Traced {} where
  book := KinesisVideoProducer.init_bookkept_producer
  heldBuilt _ member := by cases member
  putting _ _ phase := by cases phase
  freeing _ _ _ phase := by cases phase
  removing _ _ _ phase := by cases phase
  entries handle _ found := by
    rw [show ({} : Threads).producer.activeStreams.get handle = none from ThreadSafeMap.get_empty handle]
      at found
    cases found

private theorem open_built {producer : KinesisVideoProducer} (isOpen : producer.Open stream) :
    stream < producer.streams.length := by
  obtain ⟨_, found, _⟩ := isOpen
  exact (List.getElem?_eq_some_iff.mp found).choose

private theorem freed_built {producer : KinesisVideoProducer} (freed : producer.Freed stream) :
    stream < producer.streams.length := by
  obtain ⟨_, found, _⟩ := freed
  exact (List.getElem?_eq_some_iff.mp found).choose

/-- The registry knows only objects that have been built. -/
theorem Traced.entry_built (traced : Traced state)
    (found : state.producer.activeStreams.get handle = some stream) :
    stream < state.producer.streams.length := by
  rcases traced.entries handle stream found with ⟨isOpen, _⟩ | ⟨thread, phase⟩
  · exact open_built isOpen
  · exact freed_built (traced.removing thread stream handle phase)

private theorem create_traced (traced : Traced state) (idle : state.working thread = none)
    (valid : handle ≠ invalidStreamHandleValue) (free : state.producer.owner handle = none)
    (streamName : String) :
    Traced (Threads.goTo { state with producer := state.producer.created streamName handle } thread
      (some (.putting state.producer.streams.length))) := by
  have longer : (state.producer.created streamName handle).streams.length =
      state.producer.streams.length + 1 := by simp [KinesisVideoProducer.created]
  constructor
  · exact KinesisVideoProducer.create_keeps_bookkept traced.book valid free streamName
  · intro stream member
    change stream < (state.producer.created streamName handle).streams.length
    rw [longer]
    exact Nat.lt_succ_of_lt (traced.heldBuilt stream member)
  · intro other stream phase
    simp only [Threads.goTo] at phase ⊢
    split at phase
    · rename_i here
      cases phase
      refine ⟨(KinesisVideoProducer.created_open ..).mpr (.inl rfl), ?_, ?_, ?_⟩
      · exact fun member => Nat.lt_irrefl _ (traced.heldBuilt _ member)
      · intro again phase
        split at phase
        · rename_i same
          exact same.trans here.symm
        · exact absurd (open_built (traced.putting again _ phase).1) (Nat.lt_irrefl _)
      · exact fun given found => Nat.lt_irrefl _ (traced.entry_built found)
    · obtain ⟨isOpen, unheld, alone, unregistered⟩ := traced.putting other stream phase
      refine ⟨(KinesisVideoProducer.created_open ..).mpr (.inr isOpen), unheld, ?_, unregistered⟩
      intro again phase
      split at phase
      · cases phase
        exact absurd (open_built isOpen) (Nat.lt_irrefl _)
      · exact alone again phase
  · intro other stream given phase
    obtain ⟨member, reads⟩ := traced.freeing other stream given (goTo_before phase (by rintro ⟨⟩)).2
    refine ⟨member, fun isOpen => ?_⟩
    have old : stream ≠ state.producer.streams.length := Nat.ne_of_lt (traced.heldBuilt stream member)
    change (state.producer.created streamName handle).handleOf stream = given
    rw [KinesisVideoProducer.created_handle_of, if_neg old]
    exact reads (((KinesisVideoProducer.created_open ..).mp isOpen).resolve_left old)
  · intro other stream given phase
    exact (KinesisVideoProducer.created_freed ..).mpr
      (traced.removing other stream given (goTo_before phase (by rintro ⟨⟩)).2)
  · intro given stream found
    rcases traced.entries given stream found with ⟨isOpen, own⟩ | ⟨other, phase⟩
    · refine .inl ⟨(KinesisVideoProducer.created_open ..).mpr (.inr isOpen), ?_⟩
      have old : stream ≠ state.producer.streams.length := Nat.ne_of_lt (open_built isOpen)
      exact (KinesisVideoProducer.created_handle_of ..).trans ((if_neg old).trans own)
    · exact .inr ⟨other, goTo_keeps phase (by simp [idle])⟩

/-- Reading the handle of a stream that the application holds. -/
theorem free_traced (traced : Traced state) (idle : state.working thread = none)
    (member : stream ∈ state.producer.held) :
    Traced (state.goTo thread (some (.freeing stream (state.producer.handleOf stream)))) := by
  constructor
  · exact traced.book
  · exact traced.heldBuilt
  · intro other put phase
    obtain ⟨isOpen, unheld, alone, unregistered⟩ :=
      traced.putting other put (goTo_before phase nofun).2
    exact ⟨isOpen, unheld, fun again phase => alone again (goTo_before phase nofun).2, unregistered⟩
  · intro other freed given phase
    simp only [Threads.goTo] at phase ⊢
    split at phase
    · cases phase
      exact ⟨member, fun _ => rfl⟩
    · exact traced.freeing other freed given phase
  · intro other freed given phase
    exact traced.removing other freed given (goTo_before phase nofun).2
  · intro given entry found
    rcases traced.entries given entry found with here | ⟨other, phase⟩
    · exact .inl here
    · exact .inr ⟨other, goTo_keeps phase (by simp [idle])⟩

/-- An entry of the registry after a put is the new one or was there before. -/
theorem entry_after_put {producer : KinesisVideoProducer}
    (found : (producer.putStream stream).activeStreams.get given = some entry) :
    producer.activeStreams.get given = some entry ∨
      entry = stream ∧ given = producer.handleOf stream := by
  simp only [KinesisVideoProducer.putStream] at found
  cases taken : producer.activeStreams.get (producer.handleOf stream) with
  | some other =>
    rw [ThreadSafeMap.get_put_taken taken] at found
    exact .inl found
  | none =>
    by_cases here : given = producer.handleOf stream
    · subst here
      rw [ThreadSafeMap.get_put taken] at found
      cases found
      exact .inr ⟨rfl, rfl⟩
    · rw [ThreadSafeMap.get_put_other here] at found
      exact .inl found

private theorem put_traced (traced : Traced state) (phase : state.working thread = some (.putting stream)) :
    Traced (Threads.goTo { state with producer := (state.producer.putStream stream).hold stream }
      thread none) := by
  obtain ⟨isOpen, unheld, alone, _⟩ := traced.putting thread stream phase
  constructor
  · exact traced.book.of_same rfl rfl
  · intro other member
    rcases List.mem_append.mp member with old | new
    · exact traced.heldBuilt other old
    · cases List.mem_singleton.mp new
      exact open_built isOpen
  · intro other put otherPhase
    obtain ⟨apart, otherPhase⟩ := goTo_before otherPhase nofun
    obtain ⟨openToo, unheldToo, aloneToo, unregistered⟩ := traced.putting other put otherPhase
    have different : put ≠ stream := by
      rintro rfl
      exact apart (alone other otherPhase)
    refine ⟨openToo, ?_, fun again phaseAgain => aloneToo again (goTo_before phaseAgain nofun).2,
      fun given found => ?_⟩
    · intro member
      rcases List.mem_append.mp member with old | new
      · exact unheldToo old
      · exact different (List.mem_singleton.mp new)
    · rcases entry_after_put found with old | ⟨same, _⟩
      · exact unregistered given old
      · exact different same
  · intro other freed given otherPhase
    obtain ⟨member, reads⟩ := traced.freeing other freed given (goTo_before otherPhase nofun).2
    exact ⟨List.mem_append_left _ member, reads⟩
  · intro other freed given otherPhase
    exact traced.removing other freed given (goTo_before otherPhase nofun).2
  · intro given entry found
    rcases entry_after_put found with old | ⟨rfl, rfl⟩
    · rcases traced.entries given entry old with here | ⟨other, otherPhase⟩
      · exact .inl here
      · exact .inr ⟨other, goTo_keeps otherPhase (by simp [phase])⟩
    · exact .inl ⟨isOpen, rfl⟩

/-- Freeing for the first time takes the handle back; after that it does nothing. -/
theorem freed_traced (traced : Traced state)
    (phase : state.working thread = some (.freeing stream handle)) :
    Traced (Threads.goTo { state with producer := state.producer.free stream } thread
      (some (.removing stream handle))) := by
  obtain ⟨member, reads⟩ := traced.freeing thread stream handle phase
  rcases KinesisVideoProducer.open_or_freed (traced.heldBuilt stream member) with isOpen | freed
  · have gives := KinesisVideoProducer.free_open traced.book isOpen
    constructor
    · exact gives.keeps_bookkept traced.book isOpen
    · intro other held
      change other ∈ (state.producer.free stream).held at held
      change other < (state.producer.free stream).streams.length
      rw [gives.held] at held
      rw [gives.length]
      exact traced.heldBuilt other held
    · intro other put otherPhase
      obtain ⟨openToo, unheld, alone, unregistered⟩ :=
        traced.putting other put (goTo_before otherPhase (by rintro ⟨⟩)).2
      have different : put ≠ stream := by
        rintro rfl
        exact unheld member
      simp only [Threads.goTo_producer, gives.held, gives.activeStreams]
      exact ⟨gives.open_iff.mpr ⟨openToo, different⟩, unheld,
        fun again phaseAgain => alone again (goTo_before phaseAgain (by rintro ⟨⟩)).2, unregistered⟩
    · intro other other' given otherPhase
      obtain ⟨held, readsToo⟩ := traced.freeing other other' given (goTo_before otherPhase (by rintro ⟨⟩)).2
      simp only [Threads.goTo_producer, gives.held]
      refine ⟨held, fun openStill => ?_⟩
      obtain ⟨openBefore, different⟩ := gives.open_iff.mp openStill
      exact (gives.handle_of different).trans (readsToo openBefore)
    · intro other other' given otherPhase
      simp only [Threads.goTo] at otherPhase ⊢
      split at otherPhase
      · cases otherPhase
        exact gives.freed.1
      · exact gives.freed_after (traced.removing other other' given otherPhase)
    · intro given entry found
      change (state.producer.free stream).activeStreams.get given = some entry at found
      rw [gives.activeStreams] at found
      rcases traced.entries given entry found with ⟨openBefore, own⟩ | ⟨other, otherPhase⟩
      · by_cases here : entry = stream
        · subst here
          cases (reads isOpen).symm.trans own
          exact .inr ⟨thread, if_pos rfl⟩
        · exact .inl ⟨gives.open_iff.mpr ⟨openBefore, here⟩, (gives.handle_of here).trans own⟩
      · exact .inr ⟨other, goTo_keeps otherPhase (by simp [phase])⟩
  · rw [KinesisVideoProducer.free_freed freed]
    constructor
    · exact traced.book
    · exact traced.heldBuilt
    · intro other put otherPhase
      obtain ⟨openToo, unheld, alone, unregistered⟩ :=
        traced.putting other put (goTo_before otherPhase (by rintro ⟨⟩)).2
      exact ⟨openToo, unheld, fun again phaseAgain => alone again (goTo_before phaseAgain (by rintro ⟨⟩)).2,
        unregistered⟩
    · intro other other' given otherPhase
      exact traced.freeing other other' given (goTo_before otherPhase (by rintro ⟨⟩)).2
    · intro other other' given otherPhase
      simp only [Threads.goTo] at otherPhase ⊢
      split at otherPhase
      · cases otherPhase
        exact freed
      · exact traced.removing other other' given otherPhase
    · intro given entry found
      rcases traced.entries given entry found with here | ⟨other, otherPhase⟩
      · exact .inl here
      · exact .inr ⟨other, goTo_keeps otherPhase (by simp [phase])⟩

private theorem removed_traced (traced : Traced state)
    (phase : state.working thread = some (.removing stream handle)) :
    Traced (Threads.goTo { state with producer := state.producer.removeHandle handle } thread none) := by
  have remains {given : StreamHandle} {entry : StreamObject}
      (found : (state.producer.removeHandle handle).activeStreams.get given = some entry) :
      given ≠ handle ∧ state.producer.activeStreams.get given = some entry := by
    simp only [KinesisVideoProducer.removeHandle] at found
    by_cases here : given = handle
    · subst here
      rw [ThreadSafeMap.get_remove] at found
      cases found
    · rw [ThreadSafeMap.get_remove_other here] at found
      exact ⟨here, found⟩
  constructor
  · exact traced.book.of_same rfl rfl
  · exact traced.heldBuilt
  · intro other put otherPhase
    obtain ⟨openToo, unheld, alone, unregistered⟩ :=
      traced.putting other put (goTo_before otherPhase (by rintro ⟨⟩)).2
    exact ⟨openToo, unheld, fun again phaseAgain => alone again (goTo_before phaseAgain (by rintro ⟨⟩)).2,
      fun given found => unregistered given (remains found).2⟩
  · intro other other' given otherPhase
    exact traced.freeing other other' given (goTo_before otherPhase (by rintro ⟨⟩)).2
  · intro other other' given otherPhase
    exact traced.removing other other' given (goTo_before otherPhase (by rintro ⟨⟩)).2
  · intro given entry found
    obtain ⟨apart, before⟩ := remains found
    rcases traced.entries given entry before with here | ⟨other, otherPhase⟩
    · exact .inl here
    · refine .inr ⟨other, goTo_keeps otherPhase ?_⟩
      rw [phase]
      rintro ⟨⟩
      exact apart rfl

/-! ## One step -/

/-- What an input does. -/
inductive Steps (state : Threads) : Input → Threads → Prop where
  | created : state.working thread = none → handle ≠ invalidStreamHandleValue →
      state.producer.owner handle = none →
      Steps state (.create thread streamName handle)
        (Threads.goTo { state with producer := state.producer.created streamName handle } thread
          (some (.putting state.producer.streams.length)))
  | read : state.working thread = none → stream ∈ state.producer.held →
      Steps state (.free thread stream)
        (state.goTo thread (some (.freeing stream (state.producer.handleOf stream))))
  | put : state.working thread = some (.putting stream) →
      Steps state (.advance thread)
        (Threads.goTo { state with producer := (state.producer.putStream stream).hold stream }
          thread none)
  | freed : state.working thread = some (.freeing stream handle) →
      Steps state (.advance thread)
        (Threads.goTo { state with producer := state.producer.free stream } thread
          (some (.removing stream handle)))
  | removed : state.working thread = some (.removing stream handle) →
      Steps state (.advance thread)
        (Threads.goTo { state with producer := state.producer.removeHandle handle } thread none)

theorem step_cases (accepted : step state input = some next) : Steps state input next := by
  unfold step at accepted
  split at accepted
  · rename_i admitted
    cases accepted
    cases input with
    | create thread streamName handle =>
      simp only [Threads.accepts, KinesisVideoProducer.mayAnswer, Bool.and_eq_true, bne_iff_ne,
        Option.isNone_iff_eq_none] at admitted
      obtain ⟨idle, valid, free⟩ := admitted
      simp only [Threads.apply, KinesisVideoProducer.build_created]
      exact .created idle valid free
    | free thread stream =>
      simp only [Threads.accepts, Bool.and_eq_true, Option.isNone_iff_eq_none, List.contains_iff_mem]
        at admitted
      exact .read admitted.1 admitted.2
    | advance thread =>
      simp only [Threads.accepts] at admitted
      obtain ⟨phase, working⟩ := Option.isSome_iff_exists.mp admitted
      simp only [Threads.apply, working]
      cases phase with
      | putting stream => exact .put working
      | freeing stream handle => exact .freed working
      | removing stream handle => exact .removed working
  · cases accepted

private theorem step_keeps_traced (traced : Traced state) (accepted : step state input = some next) :
    Traced next := by
  cases step_cases accepted with
  | created idle valid free => exact create_traced traced idle valid free _
  | read idle member => exact free_traced traced idle member
  | put phase => exact put_traced traced phase
  | freed phase => exact freed_traced traced phase
  | removed phase => exact removed_traced traced phase

/-- A step keeps every stream in the registry exactly if it meets the condition. -/
theorem none_lost_iff (traced : Traced state) (good : state.NoneLost)
    (accepted : step state input = some next) : next.NoneLost ↔ KeepsRegistered state input := by
  cases step_cases accepted with
  | @created thread handle streamName idle valid free =>
    refine iff_of_true (fun stream given held settled => ?_) trivial
    change (state.producer.created streamName handle).owner given = some stream at held
    rw [KinesisVideoProducer.created_owner] at held
    split at held
    · cases held
      exact absurd (if_pos rfl) (settled thread)
    · apply good stream given held
      intro other phase
      exact settled other (goTo_keeps phase (by simp [idle]))
  | @read thread stream idle member =>
    refine iff_of_true (fun entry given held settled => ?_) trivial
    apply good entry given held
    intro other phase
    exact settled other (goTo_keeps phase (by simp [idle]))
  | @put thread stream phase =>
    obtain ⟨isOpen, _, alone, unregistered⟩ := traced.putting thread stream phase
    have mine := traced.book.opened stream isOpen
    simp only [KeepsRegistered, phase]
    constructor
    · intro goodNext
      by_contra taken
      obtain ⟨other, found⟩ := Option.ne_none_iff_exists'.mp taken
      have lost : (state.producer.activeStreams.put (state.producer.handleOf stream) stream).get
          (state.producer.handleOf stream) = some stream := by
        apply goodNext stream _ mine
        intro again phaseAgain
        obtain ⟨apart, before⟩ := goTo_before phaseAgain (by rintro ⟨⟩)
        exact apart (alone again before)
      rw [ThreadSafeMap.get_put_taken found] at lost
      exact unregistered _ lost
    · intro free entry given held settled
      change (state.producer.activeStreams.put (state.producer.handleOf stream) stream).get given =
        some entry
      change state.producer.owner given = some entry at held
      by_cases here : given = state.producer.handleOf stream
      · subst here
        cases mine.symm.trans held
        exact ThreadSafeMap.get_put free stream
      · rw [ThreadSafeMap.get_put_other here]
        obtain ⟨_, own⟩ := traced.book.owned entry given held
        apply good entry given held
        intro other otherPhase
        apply settled other (goTo_keeps otherPhase _)
        rw [phase]
        rintro ⟨⟩
        exact here own.symm
  | @freed thread stream handle phase =>
    have before : KeepsRegistered state (.advance thread) := by
      simp only [KeepsRegistered, phase]
    refine iff_of_true (fun entry given held settled => ?_) before
    have unput (other : ThreadId) : state.working other ≠ some (.putting entry) := fun otherPhase =>
      settled other (goTo_keeps otherPhase (by simp [phase]))
    obtain ⟨member, _⟩ := traced.freeing thread stream handle phase
    change (state.producer.free stream).owner given = some entry at held
    change (state.producer.free stream).activeStreams.get given = some entry
    rcases KinesisVideoProducer.open_or_freed (traced.heldBuilt stream member) with isOpen | freed
    · have gives := KinesisVideoProducer.free_open traced.book isOpen
      rw [gives.owner] at held
      rw [gives.activeStreams]
      split at held
      · cases held
      · exact good entry given held unput
    · rw [KinesisVideoProducer.free_freed freed] at held ⊢
      exact good entry given held unput
  | @removed thread stream handle phase =>
    simp only [KeepsRegistered, phase]
    constructor
    · intro goodNext entry found held
      have kept : (state.producer.activeStreams.remove handle).get handle = some entry := by
        apply goodNext entry handle held
        intro other otherPhase
        exact (traced.putting other entry (goTo_before otherPhase (by rintro ⟨⟩)).2).2.2.2 handle found
      rw [ThreadSafeMap.get_remove] at kept
      cases kept
    · intro spared entry given held settled
      have before := good entry given held fun other otherPhase =>
        settled other (goTo_keeps otherPhase (by simp [phase]))
      have apart : given ≠ handle := by
        rintro rfl
        exact spared entry before held
      exact (ThreadSafeMap.get_remove_other apart).trans before

/-! ## Whole runs -/

/-- When no thread is inside an operation, an entry belongs to an open stream. -/
theorem Traced.registered (traced : Traced state) (noneLost : state.NoneLost) (quiet : state.Quiet) :
    Registered state.producer := by
  intro handle
  cases found : state.producer.activeStreams.get handle with
  | some stream =>
    rcases traced.entries handle stream found with ⟨isOpen, own⟩ | ⟨thread, phase⟩
    · rw [← own]
      exact (traced.book.opened stream isOpen).symm
    · rw [quiet thread] at phase
      cases phase
  | none =>
    cases held : state.producer.owner handle with
    | none => rfl
    | some stream =>
      have kept := noneLost stream handle held fun thread => by simp [quiet thread]
      rw [found] at kept
      cases kept

/-- No run of any threads loses a stream from the registry exactly if each put
finds its handle free, and each removal an entry that no unfreed stream needs.
Whenever no operation is in progress in such a run, the registry is the record
of the handles that are out. -/
theorem registry_survives_threads (inputs : List Input) :
    (EachStep step KeepsRegistered {} inputs ↔ Throughout step Threads.NoneLost {} inputs) ∧
      (EachStep step KeepsRegistered {} inputs →
        Throughout step (fun state => state.Quiet → Registered state.producer) {} inputs) := by
  have lossless : Throughout step Threads.NoneLost {} inputs ↔ EachStep step KeepsRegistered {} inputs := by
    apply throughout_iff_each_step (fun _ _ _ => step_keeps_traced) _ init_traced
    · intro stream handle held
      cases held
    · exact fun _ _ _ traced good accepted => none_lost_iff traced good accepted
  refine ⟨lossless.symm, fun all => ?_⟩
  have traced : Throughout step Traced {} inputs :=
    invariant_throughout (fun _ _ _ traced _ accepted => step_keeps_traced traced accepted) init_traced all
  apply (traced.and (lossless.mpr all)).imp
  rintro state ⟨traced, noneLost⟩ quiet
  exact traced.registered noneLost quiet

/-- One thread frees a stream and another is given its handle, before the first
has removed it. -/
def handleComesBack : List Input :=
  [.create 0 "lobby" 5, .advance 0, .free 0 0, .advance 0, .create 1 "lobby" 5, .advance 1, .advance 0]

/-- A thread that gives no input stays where it was. -/
theorem step_keeps_others (accepted : step state input = some next) (apart : thread ≠ input.thread) :
    next.working thread = state.working thread := by
  cases step_cases accepted <;> exact if_neg apart

private theorem run_keeps_others (ran : run step state inputs = some next)
    (apart : ∀ input ∈ inputs, thread ≠ input.thread) : next.working thread = state.working thread := by
  induction inputs generalizing state with
  | nil =>
    cases ran
    rfl
  | cons input rest ih =>
    rw [run_cons] at ran
    obtain ⟨middle, accepted, ran⟩ := Option.bind_eq_some_iff.mp ran
    have later := ih ran fun other member => apart other (List.mem_cons_of_mem input member)
    exact later.trans (step_keeps_others accepted (apart input List.mem_cons_self))

/-- The put finds the handle taken and the removal deletes the entry: the second
stream is open, owns the handle, and stands nowhere in the registry. -/
theorem second_stream_is_lost :
    ¬ ∀ inputs, Throughout step (fun state => state.Quiet → Registered state.producer) {} inputs := by
  intro always
  have final : (run step {} handleComesBack).map (fun state =>
      (state.working 0, state.working 1, state.producer.activeStreams.get 5, state.producer.owner 5)) =
        some (none, none, none, some 1) := by decide
  obtain ⟨state, ran, seen⟩ := Option.map_eq_some_iff.mp final
  simp only [Prod.mk.injEq] at seen
  obtain ⟨zero, one, missing, owned⟩ := seen
  have quiet : state.Quiet := by
    intro thread
    by_cases first : thread = 0
    · exact first ▸ zero
    · by_cases second : thread = 1
      · exact second ▸ one
      · apply run_keeps_others ran
        simp [handleComesBack, Input.thread, first, second]
  have registered := (always handleComesBack).at_end ran quiet 5
  rw [missing, owned] at registered
  cases registered

end RegistryRaces

end KvsProducer
