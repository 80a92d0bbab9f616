import Mathlib.Logic.Function.Basic
import KvsProducer.ClientProtocol
import KvsProducer.FreeStreams

/-! The producers behind an element. The record of an element names its producers
and streams by numbers; here each number is an object with its registry and its
handles, and every call on the record is carried out on them. What the element
asks is never refused, its stream always has a handle, and no handle stays out. -/
namespace KvsProducer
open Gst History Runs

/-- What the client library answers: a valid handle for each stream that it
creates, and a failure where it creates none. -/
structure ClientAnswers where
  handle : StreamId → StreamHandle
  refusal : Status
  valid : ∀ stream, handle stream ≠ invalidStreamHandleValue
  failed : statusFailed refusal = true

/-- The `shared_ptr` in `data->kinesis_video_stream`: an object of one of the producers. -/
structure StreamInHand where
  stream : StreamId
  producer : ProducerId
  object : StreamObject
  deriving DecidableEq, Repr

structure ProducersInUse where
  producers : ProducerId → Option KinesisVideoProducer := fun _ => none
  hand : Option StreamInHand := none

namespace ProducersInUse

def withProducer (self : ProducersInUse) (id : ProducerId) (producer : KinesisVideoProducer) : ProducersInUse :=
  { self with producers := Function.update self.producers id (some producer) }

/-- One operation of a producer that exists and may be asked for it. -/
def operate (pic : Pic) (self : ProducersInUse) (id : ProducerId) (input : KinesisVideoProducer.Input) :
    Option ProducersInUse :=
  match self.producers id with
  | none => none
  | some producer => (KinesisVideoProducer.step pic producer input).map (self.withProducer id)

/-- The pointer to the stream before is given up when a new one takes its place. -/
def take (pic : Pic) (self : ProducersInUse) (hand : StreamInHand) : Option ProducersInUse :=
  match self.hand with
  | none => some { self with hand := some hand }
  | some old => (self.operate pic old.producer (.drop old.object)).map fun dropped =>
      { dropped with hand := some hand }

/-- The stream is the one in hand, its producer lives, and the library has given
out its handle; `statusPutFrame` asserts as much. -/
def reaches (self : ProducersInUse) (stream : StreamId) : Bool :=
  match self.hand with
  | none => false
  | some hand =>
    match self.producers hand.producer with
    | none => false
    | some producer => hand.stream == stream && !producer.destroyed &&
      producer.handleOf hand.object != invalidStreamHandleValue &&
      producer.owner (producer.handleOf hand.object) == some hand.object

/-- A call of the element, carried out. -/
def perform (pic : Pic) (answers : ClientAnswers) (self : ProducersInUse) : Call → Option ProducersInUse
  | .createSync id _ => if (self.producers id).isSome then none else some (self.withProducer id {})
  | .destroyProducer id => self.operate pic id .destroy
  | .createStreamSync id definition none =>
    self.operate pic id (.createStreamSync definition (.failed answers.refusal))
  | .createStreamSync id definition (some stream) =>
    match self.producers id with
    | none => none
    | some producer =>
      (self.operate pic id (.createStreamSync definition (.created (answers.handle stream)))).bind
        (·.take pic ⟨stream, id, producer.streams.length⟩)
  | call =>
    match call.usedStream with
    | none => some self
    | some stream => if self.reaches stream then some self else none

end ProducersInUse

/-! ## One producer -/

namespace KinesisVideoProducer

variable {self : KinesisVideoProducer} {stream : StreamObject}

private theorem free_keeps_held (self : KinesisVideoProducer) (stream : StreamObject) :
    (self.free stream).held = self.held := by
  unfold free freeKinesisVideoStream
  split
  · rfl
  · split
    · rfl
    · dsimp only
      split
      · rfl
      · split <;> rfl

private theorem release_keeps_held (self : KinesisVideoProducer) (stream : StreamObject) :
    (self.release stream).held = self.held := by
  unfold release
  split
  · rfl
  · exact free_keeps_held self stream

private theorem loop_keeps_held (rounds : ℕ) (self : KinesisVideoProducer) :
    (freeStreamsLoop rounds self).1.held = self.held := by
  induction rounds generalizing self with
  | zero => rfl
  | succ rounds ih =>
    unfold freeStreamsLoop
    split
    · rfl
    · rw [ih, release_keeps_held]
      exact free_keeps_held self _

/-- What the destructor leaves: nothing is open, and the pointers of the application stay. -/
structure Ended (before after : KinesisVideoProducer) : Prop where
  sound : after.Sound
  destroyed : after.destroyed = true
  held : after.held = before.held
  released : AllReleased after.clientCalls
  shut : ∀ stream, ¬ after.Open stream

theorem destroy_ends (sound : self.Sound) (alive : self.destroyed = false) : Ended self self.destroy.1 := by
  obtain ⟨after, released⟩ := destroy_releases sound alive
  obtain ⟨freed, ran, _, empty, _⟩ := free_streams_empties sound
  have kept : freed.held = self.held := by
    have same := loop_keeps_held self.activeStreams.size self
    change self.freeStreams.1.held = self.held at same
    rwa [ran] at same
  have nothing : freed.activeStreams.map.toList = [] := by
    rw [← List.length_eq_zero_iff, Std.ExtTreeMap.length_toList]
    exact empty
  have ended : self.destroy.1 =
      { freed with clientCalls := freed.clientCalls ++ [.freedClient], destroyed := true } := by
    unfold destroy dropRegistry
    simp only [ran, nothing, List.foldl_nil]
  refine ⟨after, by rw [ended], by rw [ended]; exact kept, released, fun stream isOpen => ?_⟩
  have owned := after.book.opened stream isOpen
  rw [← after.registered, ended] at owned
  rw [ThreadSafeMap.get_of_size_zero empty] at owned
  cases owned

/-- Giving up a pointer of the application changes nothing else: the registry still has the
stream, or it is freed already. -/
theorem drop_changes (sound : self.Sound) (member : stream ∈ self.held) :
    { self with held := self.held.erase stream }.release stream = { self with held := self.held.erase stream } := by
  rcases open_or_freed (sound.heldBuilt stream member) with isOpen | freed
  · have registered : self.activeStreams.get (self.handleOf stream) = some stream :=
      (sound.registered _).trans (sound.book.opened stream isOpen)
    have holds := ThreadSafeMap.holds_iff.mpr ⟨_, registered⟩
    unfold release
    rw [if_pos (by simp [holds])]
  · have freedStill : KinesisVideoProducer.Freed { self with held := self.held.erase stream } stream := freed
    rw [release_freed freedStill]

/-- What an operation leaves that opens and closes no stream. -/
structure SameStreams (before after : KinesisVideoProducer) : Prop where
  sound : after.Sound
  destroyed : after.destroyed = before.destroyed
  calls : after.clientCalls = before.clientCalls
  opens : ∀ stream, after.Open stream ↔ before.Open stream

private theorem dropped_same (sound : self.Sound) (member : stream ∈ self.held) :
    SameStreams self ({ self with held := self.held.erase stream }.release stream) := by
  have after := drop_keeps_sound sound member
  rw [drop_changes sound member] at after ⊢
  exact ⟨after, rfl, rfl, fun _ => Iff.rfl⟩

private theorem refused_same (sound : self.Sound) (pic : Pic) (definition : StreamDefinition) (status : Status)
    (failed : statusFailed status = true) :
    SameStreams self (self.createStreamSync pic definition (.failed status)).1 ∧
      (self.createStreamSync pic definition (.failed status)).1.held = self.held := by
  have after : (self.createStreamWith pic definition (.failed status)).1.Sound :=
    create_keeps_sound sound pic definition failed
  unfold createStreamSync
  unfold createStreamWith at after ⊢
  split
  · exact ⟨⟨sound, rfl, rfl, fun _ => Iff.rfl⟩, rfl⟩
  · rename_i few
    rw [if_neg few] at after
    simp only [failed_creation sound] at after ⊢
    refine ⟨⟨after, rfl, rfl, fun stream => ?_⟩, rfl⟩
    unfold Open
    rw [in_vain_streams]
    by_cases new : stream = self.streams.length
    · simp [new]
    · simp [new]

/-- The producer with one stream more. -/
structure Granted (before after : KinesisVideoProducer) : Prop where
  sound : after.Sound
  destroyed : after.destroyed = before.destroyed
  held : after.held = before.held ++ [before.streams.length]
  opens : ∀ stream, after.Open stream ↔ stream = before.streams.length ∨ before.Open stream

private theorem granted_stream (sound : self.Sound) {handle : StreamHandle} {definition : StreamDefinition}
    (few : definition.getTrackCount ≤ pic.maxSupportedTrackCountPerStream)
    (admitted : self.mayAnswer (.created handle) = true) :
    Granted self (self.createStreamSync pic definition (.created handle)).1 := by
  have after := create_keeps_sound sound pic definition admitted
  unfold createStreamSync
  unfold createStreamWith at after ⊢
  rw [if_neg (Nat.not_lt.mpr few)] at after ⊢
  simp only [build_created] at after ⊢
  exact ⟨after, rfl, rfl, created_open self _ _⟩

end KinesisVideoProducer

/-! ## The record and the producers -/

/-- A producer is as the record has it. -/
structure AsRecorded (calls : List Call) (id : ProducerId) (producer : KinesisVideoProducer) : Prop where
  sound : producer.Sound
  ended : producer.destroyed = true ↔ .destroyProducer id ∈ calls
  released : producer.destroyed = true →
    KinesisVideoProducer.AllReleased producer.clientCalls ∧ ∀ object, ¬ producer.Open object
  ungranted : (∀ created ∈ calls.filterMap Call.creation, created.1 ≠ id) → ∀ object, ¬ producer.Open object

/-- The pointer in hand is one of its producer's, and as long as that lives its stream is the open one. -/
structure StreamInHand.Backed (hand : StreamInHand) (producer : KinesisVideoProducer) : Prop where
  held : hand.object ∈ producer.held
  isOpen : producer.destroyed = false → producer.Open hand.object
  only : ∀ object, producer.Open object → object = hand.object

/-- The producers are those on the record, and the pointer in hand is to the last stream created. -/
structure FollowsRecord (calls : List Call) (inUse : ProducersInUse) : Prop where
  made : ∀ id, (inUse.producers id).isSome = true ↔ ∃ device, .createSync id device ∈ calls
  destroyedMade : ∀ id, .destroyProducer id ∈ calls → (inUse.producers id).isSome = true
  each : ∀ id producer, inUse.producers id = some producer → AsRecorded calls id producer
  last : inUse.hand.map (fun hand => (hand.producer, hand.stream)) = (calls.filterMap Call.creation).getLast?
  backed : ∀ hand, inUse.hand = some hand → ∃ producer, inUse.producers hand.producer = some producer ∧ hand.Backed producer

private theorem init_follows : FollowsRecord [] {} where
  made _ := ⟨nofun, fun ⟨_, member⟩ => by cases member⟩
  destroyedMade _ member := by cases member
  each _ _ found := by cases found
  last := rfl
  backed _ inHand := by cases inHand

variable {calls : List Call} {inUse : ProducersInUse} {producer next : KinesisVideoProducer} {id other : ProducerId}

theorem AsRecorded.later (recorded : AsRecorded calls id producer) (call : Call)
    (lasts : call ≠ .destroyProducer id) : AsRecorded (calls ++ [call]) id producer where
  sound := recorded.sound
  ended := by
    rw [recorded.ended, List.mem_append, List.mem_singleton]
    exact ⟨.inl, fun member => member.resolve_right lasts.symm⟩
  released := recorded.released
  ungranted none := recorded.ungranted fun created member => none created (by
    rw [List.filterMap_append]
    exact List.mem_append_left _ member)

theorem AsRecorded.same (recorded : AsRecorded calls id producer)
    (same : KinesisVideoProducer.SameStreams producer next) : AsRecorded calls id next where
  sound := same.sound
  ended := by rw [same.destroyed, recorded.ended]
  released ended := by
    rw [same.destroyed] at ended
    obtain ⟨released, shut⟩ := recorded.released ended
    exact ⟨same.calls ▸ released, fun object isOpen => shut object ((same.opens object).mp isOpen)⟩
  ungranted none object isOpen := recorded.ungranted none object ((same.opens object).mp isOpen)

theorem StreamInHand.Backed.same {hand : StreamInHand} (backed : hand.Backed producer)
    (same : KinesisVideoProducer.SameStreams producer next) (held : hand.object ∈ next.held) :
    hand.Backed next where
  held := held
  isOpen living := (same.opens _).mpr (backed.isOpen (same.destroyed.symm.trans living))
  only object isOpen := backed.only object ((same.opens object).mp isOpen)

namespace ProducersInUse

@[simp] theorem with_producer_hand (self : ProducersInUse) (id : ProducerId) (producer : KinesisVideoProducer) :
    (self.withProducer id producer).hand = self.hand := rfl

@[simp] theorem with_producer_same (self : ProducersInUse) (id : ProducerId) (producer : KinesisVideoProducer) :
    (self.withProducer id producer).producers id = some producer := Function.update_self ..

theorem with_producer_other (self : ProducersInUse) (producer : KinesisVideoProducer) (apart : other ≠ id) :
    (self.withProducer id producer).producers other = self.producers other := Function.update_of_ne apart ..

private theorem operate_found (found : inUse.producers id = some producer) {input : KinesisVideoProducer.Input}
    (admitted : producer.accepts input = true) :
    inUse.operate pic id input = some (inUse.withProducer id (producer.apply pic input)) := by
  simp only [operate, found, KinesisVideoProducer.step, admitted, if_true, Option.map_some]

/-- A producer that is replaced by what an operation made of it leaves the others alone. -/
theorem replaced_each (each : ∀ id producer, inUse.producers id = some producer → AsRecorded calls id producer)
    (now : AsRecorded later id next)
    (others : ∀ other producer, other ≠ id → AsRecorded calls other producer → AsRecorded later other producer)
    (found : (inUse.withProducer id next).producers other = some producer) : AsRecorded later other producer := by
  by_cases here : other = id
  · subst here
    rw [with_producer_same] at found
    cases found
    exact now
  · rw [with_producer_other _ _ here] at found
    exact others other producer here (each other producer found)

/-- The same producers are there after one of them was replaced. -/
theorem replaced_some (there : (inUse.producers id).isSome = true) (next : KinesisVideoProducer) (other : ProducerId) :
    ((inUse.withProducer id next).producers other).isSome = (inUse.producers other).isSome := by
  by_cases here : other = id
  · subst here
    rw [with_producer_same, there]
    rfl
  · rw [with_producer_other _ _ here]

/-! ## The calls -/

/-- A producer that is alive on the record is there, and not destroyed. -/
theorem alive_found (follows : FollowsRecord calls inUse) (alive : Alive calls id) :
    ∃ producer, inUse.producers id = some producer ∧ AsRecorded calls id producer ∧ producer.destroyed = false := by
  obtain ⟨made, lives⟩ := alive
  obtain ⟨producer, found⟩ := Option.isSome_iff_exists.mp ((follows.made id).mpr made)
  have recorded := follows.each id producer found
  exact ⟨producer, found, recorded, Bool.eq_false_iff.mpr fun ended => lives (recorded.ended.mp ended)⟩

private theorem create_sync_follows (follows : FollowsRecord calls inUse) (answers : ClientAnswers)
    (fresh : ∀ device, .createSync id device ∉ calls) (device : KvsSinkDeviceInfoProvider) :
    ∃ next, inUse.perform pic answers (.createSync id device) = some next ∧
      FollowsRecord (calls ++ [.createSync id device]) next := by
  have missing : (inUse.producers id).isSome = false := by
    rw [Bool.eq_false_iff]
    intro there
    obtain ⟨other, made⟩ := (follows.made id).mp there
    exact fresh other made
  have lives : .destroyProducer id ∉ calls := by
    intro gone
    rw [follows.destroyedMade id gone] at missing
    cases missing
  have new : AsRecorded (calls ++ [.createSync id device]) id {} := by
    refine ⟨KinesisVideoProducer.init_sound, ?_, by rintro ⟨⟩, ?_⟩
    · simp [lives]
    · rintro _ object ⟨_, found, _⟩
      cases found
  have there (other : ProducerId) : ((inUse.withProducer id {}).producers other).isSome = true ↔
      other = id ∨ (inUse.producers other).isSome = true := by
    by_cases here : other = id
    · simp [here]
    · simp [with_producer_other _ _ here, here]
  refine ⟨inUse.withProducer id {}, by simp [perform, missing], ?_, ?_, ?_, ?_, ?_⟩
  · intro other
    simp only [there, follows.made other, List.mem_append, List.mem_singleton, Call.createSync.injEq, exists_or]
    constructor
    · rintro (rfl | made)
      · exact .inr ⟨device, rfl, rfl⟩
      · exact .inl made
    · rintro (made | ⟨_, same, _⟩)
      · exact .inr made
      · exact .inl same
  · intro other gone
    simp only [List.mem_append, List.mem_singleton, reduceCtorEq, or_false] at gone
    exact (there other).mpr (.inr (follows.destroyedMade other gone))
  · intro other producer found
    exact replaced_each follows.each new (fun _ _ _ recorded => recorded.later _ (by rintro ⟨⟩)) found
  · rw [with_producer_hand, follows.last, List.filterMap_append]
    exact congrArg List.getLast? (List.append_nil _).symm
  · intro hand inHand
    obtain ⟨producer, found, backed⟩ := follows.backed hand inHand
    have apart : hand.producer ≠ id := by
      rintro rfl
      rw [found] at missing
      cases missing
    exact ⟨producer, (with_producer_other _ _ apart).trans found, backed⟩

theorem destroy_follows (follows : FollowsRecord calls inUse) (answers : ClientAnswers) (alive : Alive calls id) :
    ∃ next, inUse.perform pic answers (.destroyProducer id) = some next ∧
      FollowsRecord (calls ++ [.destroyProducer id]) next := by
  obtain ⟨producer, found, recorded, living⟩ := alive_found follows alive
  have ends := KinesisVideoProducer.destroy_ends recorded.sound living
  have admitted : producer.accepts .destroy = true := by simp [KinesisVideoProducer.accepts, living]
  have now : AsRecorded (calls ++ [.destroyProducer id]) id producer.destroy.1 :=
    ⟨ends.sound, by simp [ends.destroyed], fun _ => ⟨ends.released, ends.shut⟩, fun _ => ends.shut⟩
  have there : (inUse.producers id).isSome = true := by rw [found]; rfl
  refine ⟨inUse.withProducer id producer.destroy.1, operate_found found admitted, ?_, ?_, ?_, ?_, ?_⟩
  · intro other
    rw [replaced_some there, follows.made]
    simp
  · intro other gone
    rw [replaced_some there]
    rcases List.mem_append.mp gone with before | last
    · exact follows.destroyedMade other before
    · cases List.mem_singleton.mp last
      exact there
  · intro other one at'
    refine replaced_each follows.each now (fun other _ apart recorded => recorded.later _ ?_) at'
    rintro ⟨⟩
    exact apart rfl
  · rw [with_producer_hand, follows.last, List.filterMap_append]
    exact congrArg List.getLast? (List.append_nil _).symm
  · intro hand inHand
    obtain ⟨held, at', backed⟩ := follows.backed hand inHand
    by_cases here : hand.producer = id
    · subst here
      cases found.symm.trans at'
      refine ⟨_, with_producer_same .., ends.held ▸ backed.held, ?_, fun object isOpen => absurd isOpen (ends.shut object)⟩
      intro living
      rw [ends.destroyed] at living
      cases living
    · exact ⟨held, (with_producer_other _ _ here).trans at', backed⟩

/-- A producer that is replaced with the same streams and pointers follows the record as before. -/
theorem same_follows (follows : FollowsRecord calls inUse) (found : inUse.producers id = some producer)
    (same : KinesisVideoProducer.SameStreams producer next) (held : next.held = producer.held)
    (silent : call.creation = none) (notMade : ∀ id device, call ≠ .createSync id device)
    (notDestroyed : ∀ id, call ≠ .destroyProducer id) :
    FollowsRecord (calls ++ [call]) (inUse.withProducer id next) := by
  have there : (inUse.producers id).isSome = true := by rw [found]; rfl
  constructor
  · intro other
    rw [replaced_some there, follows.made]
    simp [(notMade _ _).symm]
  · intro other gone
    rw [replaced_some there]
    simp only [List.mem_append, List.mem_singleton, (notDestroyed other).symm, or_false] at gone
    exact follows.destroyedMade other gone
  · intro other one at'
    exact replaced_each follows.each (((follows.each id producer found).same same).later _ (notDestroyed id))
      (fun other _ _ recorded => recorded.later _ (notDestroyed other)) at'
  · rw [with_producer_hand, follows.last, List.filterMap_append]
    simp [silent]
  · intro hand inHand
    obtain ⟨behind, at', backed⟩ := follows.backed hand inHand
    by_cases here : hand.producer = id
    · subst here
      cases found.symm.trans at'
      exact ⟨next, with_producer_same .., backed.same same (held ▸ backed.held)⟩
    · exact ⟨behind, (with_producer_other _ _ here).trans at', backed⟩

theorem refused_follows (follows : FollowsRecord calls inUse) (answers : ClientAnswers) (alive : Alive calls id)
    (definition : StreamDefinition) :
    ∃ next, inUse.perform pic answers (.createStreamSync id definition none) = some next ∧
      FollowsRecord (calls ++ [.createStreamSync id definition none]) next := by
  obtain ⟨producer, found, recorded, living⟩ := alive_found follows alive
  have admitted : producer.accepts (.createStreamSync definition (.failed answers.refusal)) = true := by
    simp [KinesisVideoProducer.accepts, living, KinesisVideoProducer.mayAnswer, answers.failed]
  obtain ⟨same, held⟩ := KinesisVideoProducer.refused_same recorded.sound pic definition answers.refusal answers.failed
  exact ⟨_, operate_found found admitted,
    same_follows follows found same held rfl (fun _ _ => by rintro ⟨⟩) (fun _ => by rintro ⟨⟩)⟩

/-- A new pointer in hand, where the one before belongs to another producer. -/
theorem take_keeps (each : ∀ id producer, inUse.producers id = some producer → AsRecorded calls id producer)
    (hand : StreamInHand)
    (before : ∀ old, inUse.hand = some old → old.producer ≠ hand.producer ∧
      ∃ behind, inUse.producers old.producer = some behind ∧ old.object ∈ behind.held) :
    ∃ producers, inUse.take pic hand = some ⟨producers, some hand⟩ ∧
      producers hand.producer = inUse.producers hand.producer ∧
      (∀ id, (producers id).isSome = (inUse.producers id).isSome) ∧
      ∀ id producer, producers id = some producer → AsRecorded calls id producer := by
  unfold take
  cases inHand : inUse.hand with
  | none => exact ⟨_, rfl, rfl, fun _ => rfl, each⟩
  | some old =>
    obtain ⟨apart, behind, found, held⟩ := before old inHand
    have admitted : behind.accepts (.drop old.object) = true := List.contains_iff_mem.mpr held
    have recorded := each old.producer behind found
    have same := KinesisVideoProducer.dropped_same recorded.sound held
    have there : (inUse.producers old.producer).isSome = true := by rw [found]; rfl
    simp only [operate_found found admitted, Option.map_some]
    exact ⟨_, rfl, with_producer_other _ _ apart.symm, replaced_some there _,
      fun other one at' => replaced_each each (recorded.same same) (fun _ _ _ recorded => recorded) at'⟩

/-- The pointer in hand is to a stream of another producer than one that has granted none. -/
theorem hand_elsewhere (follows : FollowsRecord calls inUse)
    (first : ∀ created ∈ calls.filterMap Call.creation, created.1 ≠ id) (inHand : inUse.hand = some old) :
    old.producer ≠ id ∧ ∃ behind, inUse.producers old.producer = some behind ∧ old.object ∈ behind.held := by
  obtain ⟨behind, at', backed⟩ := follows.backed old inHand
  refine ⟨first (old.producer, old.stream) ?_, behind, at', backed.held⟩
  have last := follows.last
  rw [inHand] at last
  exact List.mem_of_getLast? last.symm

theorem granted_follows (follows : FollowsRecord calls inUse) (answers : ClientAnswers) (alive : Alive calls id)
    (few : StreamDefinition.getTrackCount definition ≤ pic.maxSupportedTrackCountPerStream)
    (first : ∀ created ∈ calls.filterMap Call.creation, created.1 ≠ id) (stream : StreamId) :
    ∃ next, inUse.perform pic answers (.createStreamSync id definition (some stream)) = some next ∧
      FollowsRecord (calls ++ [.createStreamSync id definition (some stream)]) next := by
  obtain ⟨producer, found, recorded, living⟩ := alive_found follows alive
  have shut := recorded.ungranted first
  have answered : producer.mayAnswer (.created (answers.handle stream)) = true := by
    simp only [KinesisVideoProducer.mayAnswer, Bool.and_eq_true, bne_iff_ne, Option.isNone_iff_eq_none]
    refine ⟨answers.valid stream, Option.eq_none_iff_forall_ne_some.mpr fun object owned => ?_⟩
    exact shut object (recorded.sound.book.owned object _ owned).1
  have admitted : producer.accepts (.createStreamSync definition (.created (answers.handle stream))) = true := by
    simp [KinesisVideoProducer.accepts, living, answered]
  have granted := KinesisVideoProducer.granted_stream recorded.sound few answered
  have operated := @operate_found inUse producer id pic found _ admitted
  simp only [KinesisVideoProducer.apply] at operated
  generalize (producer.createStreamSync pic definition (.created (answers.handle stream))).1 = next at granted operated
  have there : (inUse.producers id).isSome = true := by rw [found]; rfl
  have now : AsRecorded (calls ++ [.createStreamSync id definition (some stream)]) id next := by
    refine ⟨granted.sound, ?_, ?_, fun none => absurd rfl (none (id, stream) ?_)⟩
    · rw [granted.destroyed, recorded.ended]
      simp
    · intro ended
      rw [granted.destroyed, living] at ended
      cases ended
    · rw [List.filterMap_append]
      exact List.mem_append_right _ (List.mem_singleton_self _)
  have each (other : ProducerId) (one : KinesisVideoProducer)
      (at' : (inUse.withProducer id next).producers other = some one) :
      AsRecorded (calls ++ [.createStreamSync id definition (some stream)]) other one :=
    replaced_each follows.each now (fun _ _ _ recorded => recorded.later _ (by rintro ⟨⟩)) at'
  obtain ⟨producers, takes, kept, same, eachAfter⟩ := @take_keeps _ _ pic each ⟨stream, id, producer.streams.length⟩
    fun old inHand => by
      obtain ⟨apart, behind, at', held⟩ := hand_elsewhere follows first inHand
      exact ⟨apart, behind, (with_producer_other _ _ apart).trans at', held⟩
  refine ⟨⟨producers, some ⟨stream, id, producer.streams.length⟩⟩, ?_, ?_, ?_, eachAfter, ?_, ?_⟩
  · simp only [perform, found, operated, Option.bind_some, takes]
  · intro other
    simp only [same, replaced_some there, follows.made]
    simp
  · intro other gone
    simp only [same, replaced_some there]
    simp only [List.mem_append, List.mem_singleton, reduceCtorEq, or_false] at gone
    exact follows.destroyedMade other gone
  · rw [List.filterMap_append]
    exact List.getLast?_concat.symm
  · rintro hand ⟨⟩
    refine ⟨next, kept.trans (with_producer_same ..), ?_, fun _ => (granted.opens _).mpr (.inl rfl), ?_⟩
    · rw [granted.held]
      exact List.mem_append_right _ (List.mem_singleton_self _)
    · intro object isOpen
      exact ((granted.opens object).mp isOpen).resolve_right (shut object)

/-- The stream that the record calls current answers. -/
theorem current_reached (follows : FollowsRecord calls inUse) (current : Current calls stream) :
    inUse.reaches stream = true := by
  obtain ⟨id, alive, last⟩ := current
  obtain ⟨producer, found, recorded, living⟩ := alive_found follows alive
  rw [← follows.last] at last
  obtain ⟨hand, inHand, same⟩ := Option.map_eq_some_iff.mp last
  obtain ⟨rfl, rfl⟩ := Prod.mk.inj same
  obtain ⟨behind, at', backed⟩ := follows.backed hand inHand
  cases found.symm.trans at'
  have isOpen := backed.isOpen living
  have owned := recorded.sound.book.opened hand.object isOpen
  have valid : producer.handleOf hand.object ≠ invalidStreamHandleValue := by
    intro invalid
    rw [invalid, recorded.sound.book.valid] at owned
    cases owned
  simp [reaches, inHand, found, living, owned, valid]

private theorem leaving_follows (follows : FollowsRecord calls inUse) (answers : ClientAnswers)
    (leaves : Call.leavesProducers call = true)
    (current : ∀ stream, call.usedStream = some stream → Current calls stream) :
    inUse.perform pic answers call = some inUse ∧ FollowsRecord (calls ++ [call]) inUse := by
  have silent := leaves_creations leaves
  have notMade (id : ProducerId) (device : KvsSinkDeviceInfoProvider) : call ≠ .createSync id device := by
    rintro rfl
    cases leaves
  have notDestroyed (id : ProducerId) : call ≠ .destroyProducer id := by
    rintro rfl
    cases leaves
  constructor
  · have performed : inUse.perform pic answers call = (match call.usedStream with
        | none => some inUse
        | some stream => if inUse.reaches stream then some inUse else none) := by
      cases call with
      | createSync | destroyProducer | createStreamSync => cases leaves
      | _ => rfl
    rw [performed]
    cases used : call.usedStream with
    | none => rfl
    | some stream => simp only [current_reached follows (current stream used), if_true]
  · refine ⟨?_, ?_, fun id producer found => (follows.each id producer found).later call (notDestroyed id), ?_,
      follows.backed⟩
    · intro id
      rw [follows.made]
      simp [(notMade id _).symm]
    · intro id gone
      simp only [List.mem_append, List.mem_singleton, (notDestroyed id).symm, or_false] at gone
      exact follows.destroyedMade id gone
    · rw [follows.last, List.filterMap_append]
      simp [silent]

/-- An orderly call is never refused. -/
theorem orderly_follows (follows : FollowsRecord calls inUse) (answers : ClientAnswers)
    (orderly : Orderly pic calls call) (single : ((calls ++ [call]).filterMap Call.creation |>.map (·.1)).Nodup) :
    ∃ next, inUse.perform pic answers call = some next ∧ FollowsRecord (calls ++ [call]) next := by
  by_cases leaves : Call.leavesProducers call = true
  · exact ⟨inUse, leaving_follows follows answers leaves ((orderly_leaving leaves).mp orderly)⟩
  · cases call with
    | createSync id device => exact create_sync_follows follows answers orderly device
    | destroyProducer id => exact destroy_follows follows answers orderly
    | createStreamSync id definition stream =>
      cases stream with
      | none => exact refused_follows follows answers orderly.1 definition
      | some stream =>
        refine granted_follows follows answers orderly.1 (orderly.2 stream rfl).2 ?_ stream
        rintro created before rfl
        rw [List.filterMap_append, List.map_append] at single
        exact (List.nodup_append.mp single).2.2 _ (List.mem_map_of_mem before) _ (List.mem_singleton_self _) rfl
    | _ => exact absurd rfl leaves

/-- A whole record in order can be carried out. -/
theorem record_carried_out (answers : ClientAnswers) (orderly : EachEntry (Orderly pic) calls)
    (single : (calls.filterMap Call.creation |>.map (·.1)).Nodup) :
    ∃ inUse, run (perform pic answers) {} calls = some inUse ∧ FollowsRecord calls inUse := by
  induction calls using List.reverseRecOn with
  | nil => exact ⟨{}, rfl, init_follows⟩
  | append_singleton calls call ih =>
    have earlier : (calls.filterMap Call.creation |>.map (·.1)).Nodup := by
      rw [List.filterMap_append, List.map_append] at single
      exact (List.nodup_append.mp single).1
    have orderlyEarlier : EachEntry (Orderly pic) calls := fun before entry after same =>
      orderly before entry (after ++ [call]) (by simp [same])
    obtain ⟨inUse, ran, follows⟩ := ih orderlyEarlier earlier
    obtain ⟨next, performed, followsNext⟩ := orderly_follows follows answers (orderly calls call [] rfl) single
    exact ⟨next, by rw [run_snoc, ran]; exact performed, followsNext⟩

end ProducersInUse

/-! ## Whole runs -/

/-- What is behind an element: its stream is the object in hand, the one producer
that lives is the one it holds, those destroyed have given back all they took, each
registry is exact, and a handle is out only for the stream in hand. -/
structure ProducersKept (sink : GstKvsSink) (inUse : ProducersInUse) : Prop where
  hand : inUse.hand.map (·.stream) = sink.data.kinesisVideoStream
  alive : ∀ id, (∃ producer, inUse.producers id = some producer ∧ producer.destroyed = false) ↔
    sink.data.kinesisVideoProducer = some id
  released : ∀ id producer, inUse.producers id = some producer → producer.destroyed = true →
    KinesisVideoProducer.AllReleased producer.clientCalls
  registered : ∀ id producer, inUse.producers id = some producer → producer.Registered
  out : ∀ id producer handle object, inUse.producers id = some producer →
    producer.owner handle = some object →
      sink.data.kinesisVideoProducer = some id ∧
        ∃ hand, inUse.hand = some hand ∧ hand.producer = id ∧ hand.object = object

theorem FollowsRecord.alive_iff (follows : FollowsRecord calls inUse) :
    (∃ producer, inUse.producers id = some producer ∧ producer.destroyed = false) ↔ Alive calls id := by
  constructor
  · rintro ⟨producer, found, living⟩
    refine ⟨(follows.made id).mp (by rw [found]; rfl), fun gone => ?_⟩
    have ended := (follows.each id producer found).ended.mpr gone
    rw [living] at ended
    cases ended
  · intro alive
    obtain ⟨producer, found, _, living⟩ := ProducersInUse.alive_found follows alive
    exact ⟨producer, found, living⟩

private theorem kept_of_follows (here : InProtocol pic sink) (follows : FollowsRecord sink.calls inUse) :
    ProducersKept sink inUse := by
  have living (id : ProducerId) :
      (∃ producer, inUse.producers id = some producer ∧ producer.destroyed = false) ↔
        sink.data.kinesisVideoProducer = some id :=
    follows.alive_iff.trans (alive_iff_held here.numbered.counted here.recorded)
  have last : inUse.hand.map (fun hand => (hand.producer, hand.stream)) = sink.creations.getLast? := follows.last
  refine ⟨?_, living, fun id producer found ended => ((follows.each id producer found).released ended).1,
    fun id producer found => (follows.each id producer found).sound.registered, ?_⟩
  · rw [here.last, ← last, Option.map_map]
    rfl
  · intro id producer handle object found owned
    have recorded := follows.each id producer found
    have isOpen := (recorded.sound.book.owned object handle owned).1
    have lives : producer.destroyed = false :=
      Bool.eq_false_iff.mpr fun ended => (recorded.released ended).2 object isOpen
    have held := (living id).mp ⟨producer, found, lives⟩
    -- An open stream was granted, and what the producer in hand granted is the last stream created.
    have granted : ∃ created ∈ sink.creations, created.1 = id := by
      by_contra none
      exact recorded.ungranted (fun created member same => none ⟨created, member, same⟩) object isOpen
    obtain ⟨created, member, rfl⟩ := granted
    rw [here.latest created member held] at last
    obtain ⟨hand, inHand, same⟩ := Option.map_eq_some_iff.mp last
    have producers : hand.producer = created.1 := congrArg Prod.fst same
    obtain ⟨behind, at', backed⟩ := follows.backed hand inHand
    rw [producers] at at'
    cases found.symm.trans at'
    exact ⟨held, hand, inHand, producers, (backed.only object isOpen).symm⟩

/-- **The element runs its producers.** Whatever the client library answers, every
call of every run can be carried out on the producers and streams themselves: none
is refused, a stream has a valid handle whenever a frame is put, and no producer
but the one the element holds is left with anything of the library's. -/
theorem element_runs_its_producers (answers : ClientAnswers) (ran : runFromInit pic now inputs = some final) :
    ∃ inUse, run (ProducersInUse.perform pic answers) {} final.calls = some inUse ∧ ProducersKept final inUse := by
  have here := reachable_in_protocol ran
  obtain ⟨inUse, carried, follows⟩ := ProducersInUse.record_carried_out answers here.orderly here.single
  exact ⟨inUse, carried, kept_of_follows here follows⟩

/-- Each client counts its handles from 1, and an element asks each of them for one. -/
def countingAnswers : ClientAnswers where
  handle _ := 1
  refusal := 1
  valid _ := by decide
  failed := by decide

theorem three_starts_run_their_producers :
    ∃ final inUse, runFromInit .sample 0 threeStarts = some final ∧
      run (ProducersInUse.perform .sample countingAnswers) {} final.calls = some inUse ∧
      inUse.hand.map (·.stream) = some 1 ∧ ProducersKept final inUse := by
  have evaluated : (runFromInit .sample 0 threeStarts).map (fun final => final.data.kinesisVideoStream) =
      some (some 1) := by decide
  obtain ⟨final, ran, last⟩ := Option.map_eq_some_iff.mp evaluated
  obtain ⟨inUse, carried, kept⟩ := element_runs_its_producers countingAnswers ran
  exact ⟨final, inUse, ran, carried, kept.hand.trans last, kept⟩

end KvsProducer
