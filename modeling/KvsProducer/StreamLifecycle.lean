import KvsProducer.Runs
import KvsProducer.StreamHandles

/-! The streams of a producer that one thread uses. The registry is the
library's record of the handles that are out, operation by operation, and the
end of the producer gives every handle back. -/
namespace KvsProducer
open Gst Leases Runs

namespace KinesisVideoProducer

/-- What the application can do with a producer and its streams. -/
inductive Input where
  | createStream (definition : StreamDefinition) (answer : CreateAnswer)
  | createStreamSync (definition : StreamDefinition) (answer : CreateAnswer)
  | freeStream (stream : Option StreamObject)
  | freeStreams
  | drop (stream : StreamObject)
  | destroy

/-- The application passes on and drops pointers it holds, and the library
answers as it may. -/
def accepts (self : KinesisVideoProducer) : Input → Bool
  | .createStream _ answer | .createStreamSync _ answer => !self.destroyed && self.mayAnswer answer
  | .freeStream none | .freeStreams | .destroy => !self.destroyed
  | .freeStream (some stream) => !self.destroyed && self.held.contains stream
  | .drop stream => self.held.contains stream

def apply (pic : Pic) (self : KinesisVideoProducer) : Input → KinesisVideoProducer
  | .createStream definition answer => (self.createStream pic definition answer).1
  | .createStreamSync definition answer => (self.createStreamSync pic definition answer).1
  | .freeStream stream => (self.freeStream stream).1
  | .freeStreams => self.freeStreams.1
  | .drop stream => { self with held := self.held.erase stream }.release stream
  | .destroy => self.destroy.1

def step (pic : Pic) (self : KinesisVideoProducer) (input : Input) : Option KinesisVideoProducer :=
  if self.accepts input then some (self.apply pic input) else none

/-- The registry is the record of the handles that are out. -/
def Registered (self : KinesisVideoProducer) : Prop :=
  ∀ handle, self.activeStreams.get handle = self.owner handle

/-- What one operation leaves to the next. -/
structure Sound (producer : KinesisVideoProducer) : Prop where
  book : producer.Bookkept
  registered : producer.Registered
  heldBuilt : ∀ stream ∈ producer.held, stream < producer.streams.length
  clientLive : producer.destroyed = false → .freedClient ∉ producer.clientCalls

variable {self next : KinesisVideoProducer} {stream : StreamObject} {handle : StreamHandle}

/-! ## Creating -/

private theorem created_sound (sound : self.Sound) (valid : handle ≠ invalidStreamHandleValue)
    (free : self.owner handle = none) (streamName : String) :
    (((self.created streamName handle).putStream self.streams.length).hold self.streams.length).Sound := by
  have book := create_keeps_bookkept sound.book valid free streamName
  have handleIs : (self.created streamName handle).handleOf self.streams.length = handle := by
    rw [created_handle_of, if_pos rfl]
  have unregistered : (self.created streamName handle).activeStreams.get handle = none :=
    (sound.registered handle).trans free
  constructor
  · exact book.of_same rfl rfl
  · intro other
    have put : (((self.created streamName handle).putStream self.streams.length).hold
        self.streams.length).activeStreams =
          (self.created streamName handle).activeStreams.put handle self.streams.length := by
      simp only [putStream, hold, handleIs]
    rw [put]
    refine Eq.trans ?_ (created_owner self streamName handle other).symm
    by_cases here : other = handle
    · subst here
      rw [if_pos rfl]
      exact ThreadSafeMap.get_put unregistered _
    · rw [if_neg here, ThreadSafeMap.get_put_other here]
      exact sound.registered other
  · intro stream member
    have longer : (self.created streamName handle).streams.length = self.streams.length + 1 := by
      simp [created]
    change stream < (self.created streamName handle).streams.length
    rw [longer]
    rcases List.mem_append.mp member with old | new
    · exact Nat.lt_succ_of_lt (sound.heldBuilt stream old)
    · cases List.mem_singleton.mp new
      exact Nat.lt_succ_self _
  · intro live member
    rcases List.mem_append.mp member with old | new
    · exact sound.clientLive live old
    · cases List.mem_singleton.mp new

/-- The object of a creation that failed, freed with its last pointer. -/
def createdInVain (self : KinesisVideoProducer) (streamName : String) : KinesisVideoProducer :=
  { self with streams := self.streams ++ [{ streamName, freeKinesisVideoStreamFlag := true }] }

theorem failed_creation (sound : self.Sound) (streamName : String) :
    (self.build streamName).release self.streams.length = self.createdInVain streamName := by
  have unheld : self.streams.length ∉ self.held := fun member =>
    Nat.lt_irrefl _ (sound.heldBuilt _ member)
  have unregistered : ¬ self.activeStreams.holds self.streams.length = true := by
    rw [ThreadSafeMap.holds_iff]
    rintro ⟨handle, found⟩
    rw [sound.registered] at found
    obtain ⟨⟨object, built, _⟩, _⟩ := sound.book.owned _ _ found
    simp at built
  have dropped : (self.build streamName).release self.streams.length =
      (self.build streamName).free self.streams.length := by
    unfold release
    exact if_neg (by simp [build, unheld, unregistered])
  rw [dropped]
  unfold free freeKinesisVideoStream
  simp [build, createdInVain]

theorem in_vain_streams (self : KinesisVideoProducer) (streamName : String) (other : StreamObject) :
    (self.createdInVain streamName).streams[other]? =
      if other = self.streams.length then some { streamName, freeKinesisVideoStreamFlag := true }
      else self.streams[other]? := by
  unfold createdInVain
  exact with_object _ _ other

/-- A creation that failed leaves a freed object behind, and nothing else. -/
theorem created_in_vain_sound (sound : self.Sound) (streamName : String) :
    (self.createdInVain streamName).Sound := by
  have longer : (self.createdInVain streamName).streams.length = self.streams.length + 1 := by
    simp [createdInVain]
  have opens (stream : StreamObject) : (self.createdInVain streamName).Open stream ↔ self.Open stream := by
    unfold Open
    rw [in_vain_streams]
    by_cases new : stream = self.streams.length
    · simp [new]
    · simp [new]
  have handles (stream : StreamObject) :
      (self.createdInVain streamName).handleOf stream = self.handleOf stream := by
    unfold handleOf
    rw [in_vain_streams]
    by_cases new : stream = self.streams.length
    · simp [new]
    · rw [if_neg new]
  have owner : (self.createdInVain streamName).owner = self.owner := rfl
  refine ⟨?_, ?_, ?_, sound.clientLive⟩
  · constructor
    · exact sound.book.lawful
    · exact sound.book.valid
    · intro stream handle taken
      rw [longer]
      exact Nat.lt_succ_of_lt (sound.book.born stream handle taken)
    · intro stream isOpen
      rw [handles, owner]
      exact sound.book.opened stream ((opens stream).mp isOpen)
    · intro stream freed
      rw [handles]
      obtain ⟨object, found, set⟩ := freed
      rw [in_vain_streams] at found
      by_cases new : stream = self.streams.length
      · subst new
        simp [handleOf]
      · rw [if_neg new] at found
        exact sound.book.closed stream ⟨object, found, set⟩
    · intro stream handle held
      rw [opens, handles]
      exact sound.book.owned stream handle held
  · exact sound.registered
  · intro stream member
    rw [longer]
    exact Nat.lt_succ_of_lt (sound.heldBuilt stream member)

theorem create_keeps_sound (sound : self.Sound) (pic : Pic) (definition : StreamDefinition)
    (admitted : self.mayAnswer answer = true) :
    (self.createStreamWith pic definition answer).1.Sound := by
  unfold createStreamWith
  by_cases tooMany : pic.maxSupportedTrackCountPerStream < definition.getTrackCount
  · rw [if_pos tooMany]
    exact sound
  · rw [if_neg tooMany]
    cases answer with
    | failed status =>
      simp only [failed_creation sound]
      exact created_in_vain_sound sound _
    | created handle =>
      simp only [mayAnswer, Bool.and_eq_true, bne_iff_ne, Option.isNone_iff_eq_none] at admitted
      simp only [build_created]
      exact created_sound sound admitted.1 admitted.2 _

/-- A new object has the handle with which the library answered: it is on record,
in the registry and with the application. -/
structure HandsOut (before : KinesisVideoProducer) (handle : StreamHandle)
    (answer : KinesisVideoProducer × Except Raised StreamObject) : Prop where
  returned : answer.2 = .ok before.streams.length
  recorded : answer.1.clientCalls = before.clientCalls ++ [.createdStream before.streams.length handle]
  registered : answer.1.activeStreams.get handle = some before.streams.length
  held : before.streams.length ∈ answer.1.held

private theorem create_hands_out (sound : self.Sound) (admitted : self.mayAnswer (.created handle) = true)
    (few : definition.getTrackCount ≤ pic.maxSupportedTrackCountPerStream) :
    HandsOut self handle (self.createStreamWith pic definition (.created handle)) := by
  simp only [mayAnswer, Bool.and_eq_true, bne_iff_ne, Option.isNone_iff_eq_none] at admitted
  have after := created_sound sound admitted.1 admitted.2 definition.streamName
  unfold createStreamWith
  rw [if_neg (Nat.not_lt.mpr few)]
  simp only [build_created]
  refine ⟨rfl, rfl, ?_, List.mem_append_right _ List.mem_cons_self⟩
  rw [after.registered handle]
  exact (created_owner self definition.streamName handle handle).trans (if_pos rfl)

/-! ## Freeing -/

/-- Freeing an open stream takes it off the registry. -/
structure TakenOff (before : KinesisVideoProducer) (stream : StreamObject)
    (after : KinesisVideoProducer) : Prop where
  sound : after.Sound
  freed : after.Freed stream
  registry : after.activeStreams = before.activeStreams.remove (before.handleOf stream)
  destroyed : after.destroyed = before.destroyed

theorem free_stream_open (sound : self.Sound) (isOpen : self.Open stream) :
    TakenOff self stream (self.freeStream (some stream)).1 := by
  have gives := free_open sound.book isOpen
  have registry : (self.freeStream (some stream)).1.activeStreams =
      self.activeStreams.remove (self.handleOf stream) := by
    simp only [freeStream, removeHandle, gives.activeStreams]
  refine ⟨⟨(gives.keeps_bookkept sound.book isOpen).of_same rfl rfl, ?_, ?_, ?_⟩, gives.freed.1, registry,
    gives.destroyed⟩
  · intro handle
    rw [registry]
    refine Eq.trans ?_ (gives.owner handle).symm
    by_cases here : handle = self.handleOf stream
    · subst here
      rw [if_pos rfl, ThreadSafeMap.get_remove]
    · rw [if_neg here, ThreadSafeMap.get_remove_other here]
      exact sound.registered handle
  · intro other member
    change other ∈ (self.free stream).held at member
    change other < (self.free stream).streams.length
    rw [gives.held] at member
    rw [gives.length]
    exact sound.heldBuilt other member
  · intro live member
    change (self.free stream).destroyed = false at live
    change _ ∈ (self.free stream).clientCalls at member
    rw [gives.destroyed] at live
    rw [gives.calls] at member
    rcases List.mem_append.mp member with old | new
    · exact sound.clientLive live old
    · cases List.mem_singleton.mp new

/-- Freeing a freed stream again removes the invalid handle, which is never registered. -/
theorem free_stream_freed (sound : self.Sound) (freed : self.Freed stream) :
    self.freeStream (some stream) = (self, .ok ()) := by
  have unregistered : self.activeStreams.get invalidStreamHandleValue = none :=
    (sound.registered _).trans sound.book.valid
  simp only [freeStream, free_freed freed, sound.book.closed stream freed, removeHandle,
    ThreadSafeMap.remove_missing unregistered]

/-- The last pointer to a freed stream goes without a trace. -/
theorem release_freed (freed : self.Freed stream) : self.release stream = self := by
  unfold release
  split
  · rfl
  · exact free_freed freed

/-- Every round of `freeStreams` takes one stream off, so as many rounds as
there are streams leave none. -/
theorem free_streams_loop (rounds : ℕ) (sound : self.Sound) (size : self.activeStreams.size = rounds) :
    ∃ after, freeStreamsLoop rounds self = (after, .ok ()) ∧ after.Sound ∧
      after.activeStreams.size = 0 ∧ after.destroyed = self.destroyed := by
  induction rounds generalizing self with
  | zero => exact ⟨self, rfl, sound, size, rfl⟩
  | succ rounds ih =>
    cases first : self.activeStreams.getAt 0 with
    | none =>
      rw [ThreadSafeMap.get_at_zero_none first] at size
      cases size
    | some stream =>
      obtain ⟨handle, found⟩ := ThreadSafeMap.get_at_zero_some first
      obtain ⟨isOpen, own⟩ := sound.book.owned stream handle ((sound.registered handle).symm.trans found)
      have taken := free_stream_open sound isOpen
      have fewer : (self.freeStream (some stream)).1.activeStreams.size = rounds := by
        rw [taken.registry, own]
        have one := ThreadSafeMap.size_remove found
        omega
      obtain ⟨after, ran, done⟩ := ih taken.sound fewer
      refine ⟨after, ?_, done.1, done.2.1, done.2.2.trans taken.destroyed⟩
      unfold freeStreamsLoop
      simp only [first, release_freed taken.freed]
      exact ran

theorem free_streams_empties (sound : self.Sound) :
    ∃ after, self.freeStreams = (after, .ok ()) ∧ after.Sound ∧ after.activeStreams.size = 0 ∧
      after.destroyed = self.destroyed := free_streams_loop _ sound rfl

/-! ## Dropping pointers and the end -/

/-- A stream that is registered survives the last pointer of the application. -/
theorem drop_keeps_sound (sound : self.Sound) (member : stream ∈ self.held) :
    ({ self with held := self.held.erase stream }.release stream).Sound := by
  have dropped : KinesisVideoProducer.Sound { self with held := self.held.erase stream } :=
    ⟨sound.book.of_same rfl rfl, sound.registered,
      fun other held => sound.heldBuilt other (List.mem_of_mem_erase held), sound.clientLive⟩
  rcases open_or_freed (sound.heldBuilt stream member) with isOpen | freed
  · have registered : self.activeStreams.get (self.handleOf stream) = some stream :=
      (sound.registered _).trans (sound.book.opened stream isOpen)
    have holds := ThreadSafeMap.holds_iff.mpr ⟨_, registered⟩
    unfold release
    rw [if_pos (by simp [holds])]
    exact dropped
  · have freedStill : KinesisVideoProducer.Freed { self with held := self.held.erase stream } stream := freed
    rw [release_freed freedStill]
    exact dropped

/-- The record of a producer that came to its end: each stream that was created
was freed, once, before the client was. -/
def AllReleased (calls : List ClientCall) : Prop :=
  ∃ earlier, calls = earlier ++ [.freedClient] ∧ .freedClient ∉ earlier ∧
    ∀ stream handle, .createdStream stream handle ∈ earlier →
      earlier.count (.createdStream stream handle) = 1 ∧ earlier.count (.freedStream stream handle) = 1

private theorem turns_count (calls : List ClientCall) (stream : StreamObject) (handle : StreamHandle) :
    (calls.filterMap ClientCall.turn).count (.taken stream handle) =
        calls.count (.createdStream stream handle) ∧
      (calls.filterMap ClientCall.turn).count (.returned stream handle) =
        calls.count (.freedStream stream handle) := by
  induction calls with
  | nil => exact ⟨rfl, rfl⟩
  | cons call rest ih =>
    cases call with
    | createdStream | freedStream => simp [ClientCall.turn, List.count_cons, ih.1, ih.2]
    | freedClient => simp [List.filterMap_cons, ClientCall.turn, ih.1, ih.2]

/-- The destructor frees the streams, then the client, and finds nothing left to drop. -/
theorem destroy_releases (sound : self.Sound) (alive : self.destroyed = false) :
    self.destroy.1.Sound ∧ AllReleased self.destroy.1.clientCalls := by
  obtain ⟨freed, ran, freedSound, empty, same⟩ := free_streams_empties sound
  have nothing : freed.activeStreams.map.toList = [] := by
    rw [← List.length_eq_zero_iff, Std.ExtTreeMap.length_toList]
    exact empty
  have ended : self.destroy.1 =
      { freed with clientCalls := freed.clientCalls ++ [.freedClient], destroyed := true } := by
    unfold destroy dropRegistry
    simp only [ran, nothing, List.foldl_nil]
  have unregistered (handle : StreamHandle) : freed.owner handle = none :=
    (freedSound.registered handle).symm.trans (ThreadSafeMap.get_of_size_zero empty handle)
  have turns : self.destroy.1.turns = freed.turns := by
    rw [ended]
    unfold KinesisVideoProducer.turns
    rw [List.filterMap_append]
    exact List.append_nil _
  constructor
  · rw [ended] at turns ⊢
    refine ⟨freedSound.book.of_same rfl turns, ?_, freedSound.heldBuilt, nofun⟩
    intro handle
    unfold KinesisVideoProducer.owner
    rw [turns]
    exact freedSound.registered handle
  · refine ⟨freed.clientCalls, by rw [ended], freedSound.clientLive (same.trans alive), ?_⟩
    intro stream handle created
    obtain ⟨createdCount, freedCount⟩ := turns_count freed.clientCalls stream handle
    have taken : .taken stream handle ∈ freed.turns := by
      rw [← List.count_pos_iff]
      exact createdCount ▸ List.count_pos_iff.mpr created
    rw [← createdCount, ← freedCount]
    exact freedSound.book.lawful.all_returned unregistered taken

/-! ## Every run -/

private theorem step_keeps_sound (sound : self.Sound) (accepted : step pic self input = some next) :
    next.Sound := by
  unfold step at accepted
  split at accepted
  · rename_i admitted
    cases accepted
    cases input with
    | createStream definition answer | createStreamSync definition answer =>
      simp only [accepts, Bool.and_eq_true] at admitted
      exact create_keeps_sound sound pic definition admitted.2
    | freeStream stream =>
      cases stream with
      | none => exact sound
      | some stream =>
        simp only [accepts, Bool.and_eq_true, List.contains_iff_mem] at admitted
        rcases open_or_freed (sound.heldBuilt stream admitted.2) with isOpen | freed
        · exact (free_stream_open sound isOpen).sound
        · simp only [apply, free_stream_freed sound freed]
          exact sound
    | freeStreams =>
      obtain ⟨after, ran, freedSound, _⟩ := free_streams_empties sound
      simp only [apply, ran]
      exact freedSound
    | drop stream =>
      simp only [accepts, List.contains_iff_mem] at admitted
      exact drop_keeps_sound sound admitted
    | destroy =>
      simp only [accepts, Bool.not_eq_true'] at admitted
      exact (destroy_releases sound admitted).1
  · cases accepted

/-- What an application relies on after each operation: the registry maps exactly
the handles that are out to the objects that have them, a handle that comes is
recorded and registered, freeing again does nothing, freeing all leaves nothing,
and the destructor gives everything back. -/
structure LifecycleKept (pic : Pic) (producer : KinesisVideoProducer) : Prop where
  lawful : Lawful producer.turns
  exact : ∀ handle, producer.activeStreams.get handle = producer.owner handle
  own : ∀ handle stream, producer.activeStreams.get handle = some stream →
    producer.handleOf stream = handle ∧ handle ≠ invalidStreamHandleValue
  created : ∀ definition handle, definition.getTrackCount ≤ pic.maxSupportedTrackCountPerStream →
    producer.mayAnswer (.created handle) = true →
      HandsOut producer handle (producer.createStream pic definition (.created handle)) ∧
        HandsOut producer handle (producer.createStreamSync pic definition (.created handle))
  again : ∀ stream, producer.Freed stream → producer.freeStream (some stream) = (producer, .ok ())
  emptied : ∀ next, step pic producer .freeStreams = some next →
    producer.freeStreams = (next, .ok ()) ∧ ∀ handle, next.activeStreams.get handle = none
  released : ∀ next, step pic producer .destroy = some next → AllReleased next.clientCalls

theorem Sound.lifecycle (sound : self.Sound) (pic : Pic) : LifecycleKept pic self := by
  constructor
  · exact sound.book.lawful
  · exact sound.registered
  · intro handle stream found
    have held := (sound.registered handle).symm.trans found
    refine ⟨(sound.book.owned stream handle held).2, ?_⟩
    rintro rfl
    rw [sound.book.valid] at held
    cases held
  · intro definition handle few admitted
    exact ⟨create_hands_out sound admitted few, create_hands_out sound admitted few⟩
  · intro stream freed
    exact free_stream_freed sound freed
  · intro next accepted
    obtain ⟨after, ran, _, empty, _⟩ := free_streams_empties sound
    unfold step at accepted
    split at accepted <;> cases accepted
    simp only [apply, ran]
    exact ⟨trivial, fun handle => ThreadSafeMap.get_of_size_zero empty handle⟩
  · intro next accepted
    unfold step at accepted
    split at accepted <;> cases accepted
    rename_i admitted
    simp only [accepts, Bool.not_eq_true'] at admitted
    exact (destroy_releases sound admitted).2

theorem init_sound : Sound {} where
  book := init_bookkept_producer
  registered _ := ThreadSafeMap.get_empty _
  heldBuilt _ member := by cases member
  clientLive _ member := by cases member

/-- However an application creates, frees and drops streams, a new producer
keeps its registry exact after every operation. -/
theorem stream_lifecycle_is_kept (pic : Pic) (inputs : List Input) :
    Throughout (step pic) (LifecycleKept pic) {} inputs := by
  have all : EachStep (step pic) (fun _ _ => True) {} inputs := each_step_of_forall fun _ _ => trivial
  have sound : Throughout (step pic) Sound {} inputs :=
    invariant_throughout (fun _ _ _ sound _ accepted => step_keeps_sound sound accepted) init_sound all
  exact sound.imp fun _ sound => sound.lifecycle pic

end KinesisVideoProducer

end KvsProducer
