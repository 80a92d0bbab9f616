import KvsProducer.KinesisVideoProducer

/-! The handles of the streams of a producer. An object has a handle from its
creation in the library until it is freed, and the library's record agrees. This
holds between any two steps of any number of threads, because each step on an
object is atomic. -/
namespace KvsProducer
open Leases

namespace KinesisVideoProducer

/-- The object has been built and not freed. -/
def Open (self : KinesisVideoProducer) (stream : StreamObject) : Prop :=
  ∃ object, self.streams[stream]? = some object ∧ object.freeKinesisVideoStreamFlag = false

/-- The object has been freed. -/
def Freed (self : KinesisVideoProducer) (stream : StreamObject) : Prop :=
  ∃ object, self.streams[stream]? = some object ∧ object.freeKinesisVideoStreamFlag = true

/-- The library's record and the handles in the objects agree. -/
structure Bookkept (producer : KinesisVideoProducer) : Prop where
  lawful : Lawful producer.turns
  valid : producer.owner invalidStreamHandleValue = none
  born : ∀ stream handle, .taken stream handle ∈ producer.turns → stream < producer.streams.length
  opened : ∀ stream, producer.Open stream → producer.owner (producer.handleOf stream) = some stream
  closed : ∀ stream, producer.Freed stream → producer.handleOf stream = invalidStreamHandleValue
  owned : ∀ stream handle, producer.owner handle = some stream → producer.Open stream ∧ producer.handleOf stream = handle

variable {self : KinesisVideoProducer} {stream other : StreamObject} {handle : StreamHandle}

theorem open_or_freed (built : stream < self.streams.length) : self.Open stream ∨ self.Freed stream := by
  cases flag : self.streams[stream].freeKinesisVideoStreamFlag with
  | false => exact .inl ⟨_, List.getElem?_eq_getElem built, flag⟩
  | true => exact .inr ⟨_, List.getElem?_eq_getElem built, flag⟩

theorem freed_not_open (freed : self.Freed stream) : ¬ self.Open stream := by
  rintro ⟨object, found, unset⟩
  obtain ⟨same, foundToo, set⟩ := freed
  cases found.symm.trans foundToo
  rw [set] at unset
  cases unset

theorem init_bookkept_producer : Bookkept {} where
  lawful := lawful_nil
  valid := rfl
  born _ _ member := by cases member
  opened _ isOpen := by obtain ⟨_, found, _⟩ := isOpen; cases found
  closed _ freed := by obtain ⟨_, found, _⟩ := freed; cases found
  owned _ _ held := by cases held

/-! ## Creating -/

/-- The producer once the library has created a stream for a new object. -/
def created (self : KinesisVideoProducer) (streamName : String) (handle : StreamHandle) :
    KinesisVideoProducer :=
  { self with
    streams := self.streams ++ [{ streamHandle := handle, streamName }]
    clientCalls := self.clientCalls ++ [.createdStream self.streams.length handle] }

theorem build_created (self : KinesisVideoProducer) (streamName : String) (handle : StreamHandle) :
    (self.build streamName).createKinesisVideoStream self.streams.length handle =
      self.created streamName handle := by
  simp [createKinesisVideoStream, build, created]

theorem created_owner (self : KinesisVideoProducer) (streamName : String) (handle other : StreamHandle) :
    (self.created streamName handle).owner other =
      if other = handle then some self.streams.length else self.owner other := by
  unfold owner turns created
  rw [List.filterMap_append]
  exact congrFun (holder_snoc _ (.taken self.streams.length handle)) other

theorem with_object (streams : List KinesisVideoStream) (built : KinesisVideoStream) (other : StreamObject) :
    (streams ++ [built])[other]? = if other = streams.length then some built else streams[other]? := by
  by_cases new : other = streams.length
  · subst new
    simp
  · rw [if_neg new]
    rcases Nat.lt_or_gt_of_ne new with old | beyond
    · exact List.getElem?_append_left old
    · rw [List.getElem?_eq_none_iff.mpr (Nat.le_of_lt beyond), List.getElem?_eq_none_iff]
      simp only [List.length_append, List.length_singleton]
      omega

private theorem created_streams (self : KinesisVideoProducer) (streamName : String) (handle : StreamHandle)
    (other : StreamObject) : (self.created streamName handle).streams[other]? =
      if other = self.streams.length then some { streamHandle := handle, streamName }
      else self.streams[other]? := by
  unfold created
  exact with_object _ _ other

theorem created_handle_of (self : KinesisVideoProducer) (streamName : String)
    (handle : StreamHandle) (other : StreamObject) : (self.created streamName handle).handleOf other =
      if other = self.streams.length then handle else self.handleOf other := by
  unfold handleOf
  rw [created_streams]
  by_cases new : other = self.streams.length
  · rw [if_pos new, if_pos new]
  · rw [if_neg new, if_neg new]

/-- A new object is open, and nothing else is opened. -/
theorem created_open (self : KinesisVideoProducer) (streamName : String) (handle : StreamHandle)
    (other : StreamObject) : (self.created streamName handle).Open other ↔
      other = self.streams.length ∨ self.Open other := by
  unfold Open
  rw [created_streams]
  by_cases new : other = self.streams.length
  · simp [new]
  · simp [new]

theorem created_freed (self : KinesisVideoProducer) (streamName : String) (handle : StreamHandle)
    (other : StreamObject) : (self.created streamName handle).Freed other ↔ self.Freed other := by
  unfold Freed
  rw [created_streams]
  by_cases new : other = self.streams.length
  · simp [new]
  · simp [new]

/-- The library handing out a handle that nobody holds. -/
theorem create_keeps_bookkept (book : self.Bookkept) (valid : handle ≠ invalidStreamHandleValue)
    (free : self.owner handle = none) (streamName : String) :
    (self.created streamName handle).Bookkept := by
  have turns : (self.created streamName handle).turns =
      self.turns ++ [.taken self.streams.length handle] := List.filterMap_append
  constructor
  · rw [turns]
    apply book.lawful.snoc
    refine ⟨free, fun before => ?_⟩
    exact Nat.lt_irrefl _ (book.born _ _ before)
  · rw [created_owner, if_neg (Ne.symm valid)]
    exact book.valid
  · intro stream given taken
    have longer : (self.created streamName handle).streams.length = self.streams.length + 1 := by
      simp [created]
    rw [turns] at taken
    rw [longer]
    rcases List.mem_append.mp taken with before | new
    · exact Nat.lt_succ_of_lt (book.born _ _ before)
    · cases List.mem_singleton.mp new
      exact Nat.lt_succ_self _
  · intro stream isOpen
    rw [created_handle_of, created_owner]
    by_cases new : stream = self.streams.length
    · simp [new]
    · have before := ((created_open ..).mp isOpen).resolve_left new
      have held := book.opened stream before
      rw [if_neg new, if_neg]
      · exact held
      · rintro rfl
        rw [free] at held
        cases held
  · intro stream freed
    have before := (created_freed ..).mp freed
    have built : stream ≠ self.streams.length := by
      rintro rfl
      obtain ⟨object, found, _⟩ := before
      simp at found
    rw [created_handle_of, if_neg built]
    exact book.closed stream before
  · intro stream given held
    rw [created_owner] at held
    rw [created_open, created_handle_of]
    split at held
    · rename_i same
      cases held
      simp [same]
    · obtain ⟨isOpen, same⟩ := book.owned stream given held
      refine ⟨.inr isOpen, ?_⟩
      rw [if_neg]
      · exact same
      · rintro rfl
        obtain ⟨object, found, _⟩ := isOpen
        simp at found

/-! ## Freeing -/

/-- What freeing an open object changes. -/
structure GivesBack (before : KinesisVideoProducer) (stream : StreamObject)
    (after : KinesisVideoProducer) : Prop where
  length : after.streams.length = before.streams.length
  others : ∀ other, other ≠ stream → after.streams[other]? = before.streams[other]?
  freed : after.Freed stream ∧ after.handleOf stream = invalidStreamHandleValue
  turns : after.turns = before.turns ++ [.returned stream (before.handleOf stream)]
  calls : after.clientCalls = before.clientCalls ++ [.freedStream stream (before.handleOf stream)]
  activeStreams : after.activeStreams = before.activeStreams
  held : after.held = before.held
  destroyed : after.destroyed = before.destroyed

theorem free_open (book : self.Bookkept) (isOpen : self.Open stream) :
    GivesBack self stream (self.free stream) := by
  obtain ⟨object, found, unset⟩ := id isOpen
  obtain ⟨built, indexed⟩ := List.getElem?_eq_some_iff.mp found
  have handle : self.handleOf stream = object.streamHandle := by
    unfold handleOf
    rw [found]
  have valid : object.streamHandle ≠ invalidStreamHandleValue := by
    intro invalid
    have owner := book.opened stream isOpen
    rw [handle, invalid, book.valid] at owner
    cases owner
  have changed : self.free stream = { self with
      streams := self.streams.set stream { object with
        freeKinesisVideoStreamFlag := true, streamHandle := invalidStreamHandleValue }
      clientCalls := self.clientCalls ++ [.freedStream stream object.streamHandle] } := by
    unfold free freeKinesisVideoStream
    simp [indexed, unset, valid, built]
  have now : (self.free stream).streams[stream]? = some { object with
      freeKinesisVideoStreamFlag := true, streamHandle := invalidStreamHandleValue } := by
    rw [changed]
    exact List.getElem?_set_self built
  constructor
  · rw [changed]
    exact List.length_set
  · intro other apart
    rw [changed]
    exact List.getElem?_set_ne (Ne.symm apart)
  · refine ⟨⟨_, now, rfl⟩, ?_⟩
    unfold handleOf
    rw [now]
  · rw [changed, handle]
    exact List.filterMap_append
  · rw [changed, handle]
  · rw [changed]
  · rw [changed]
  · rw [changed]

theorem free_freed (freed : self.Freed stream) : self.free stream = self := by
  obtain ⟨object, found, set⟩ := freed
  unfold free
  simp [found, set]

variable {before after : KinesisVideoProducer}

theorem GivesBack.owner (gives : GivesBack before stream after) (handle : StreamHandle) :
    after.owner handle =
      if handle = before.handleOf stream then none else before.owner handle := by
  unfold KinesisVideoProducer.owner
  rw [gives.turns]
  exact congrFun (holder_snoc _ (.returned stream (before.handleOf stream))) handle

theorem GivesBack.handle_of (gives : GivesBack before stream after) (apart : other ≠ stream) :
    after.handleOf other = before.handleOf other := by
  unfold handleOf
  rw [gives.others other apart]

/-- Freeing opens nothing and closes one object. -/
theorem GivesBack.open_iff (gives : GivesBack before stream after) :
    after.Open other ↔ before.Open other ∧ other ≠ stream := by
  by_cases here : other = stream
  · subst here
    exact ⟨fun isOpen => absurd isOpen (freed_not_open gives.freed.1), fun both => absurd rfl both.2⟩
  · unfold Open
    rw [gives.others other here]
    exact ⟨fun isOpen => ⟨isOpen, here⟩, fun both => both.1⟩

theorem GivesBack.freed_before (gives : GivesBack before stream after) (apart : other ≠ stream)
    (freed : after.Freed other) : before.Freed other := by
  obtain ⟨object, found, set⟩ := freed
  rw [gives.others other apart] at found
  exact ⟨object, found, set⟩

theorem GivesBack.freed_after (gives : GivesBack before stream after) (freed : before.Freed other) :
    after.Freed other := by
  by_cases here : other = stream
  · subst here
    exact gives.freed.1
  · obtain ⟨object, found, set⟩ := freed
    exact ⟨object, (gives.others other here).trans found, set⟩

/-- The library taking back the handle of an open object. -/
theorem GivesBack.keeps_bookkept (gives : GivesBack before stream after) (book : before.Bookkept)
    (isOpen : before.Open stream) : after.Bookkept := by
  have mine := book.opened stream isOpen
  constructor
  · rw [gives.turns]
    exact book.lawful.snoc mine
  · rw [gives.owner]
    split
    · rfl
    · exact book.valid
  · intro other handle taken
    rw [gives.turns] at taken
    rw [gives.length]
    rcases List.mem_append.mp taken with old | new
    · exact book.born other handle old
    · cases List.mem_singleton.mp new
  · intro other isOpen
    obtain ⟨openBefore, apart⟩ := gives.open_iff.mp isOpen
    have held := book.opened other openBefore
    rw [gives.handle_of apart, gives.owner, if_neg]
    · exact held
    · intro same
      rw [same, mine] at held
      exact apart (Option.some.inj held).symm
  · intro other freed
    by_cases here : other = stream
    · subst here
      exact gives.freed.2
    · rw [gives.handle_of here]
      exact book.closed other (gives.freed_before here freed)
  · intro other handle held
    rw [gives.owner] at held
    split at held
    · cases held
    · rename_i apart
      obtain ⟨openBefore, same⟩ := book.owned other handle held
      have different : other ≠ stream := by
        rintro rfl
        exact apart same.symm
      exact ⟨gives.open_iff.mpr ⟨openBefore, different⟩, (gives.handle_of different).trans same⟩

/-! ## What does not touch the handles -/

/-- The objects and the record are the same. -/
theorem Bookkept.of_same (book : before.Bookkept) (streams : after.streams = before.streams)
    (calls : after.turns = before.turns) : after.Bookkept := by
  have owner : after.owner = before.owner := by
    unfold KinesisVideoProducer.owner
    rw [calls]
  have handles : after.handleOf = before.handleOf := by
    unfold handleOf
    rw [streams]
  have opens : after.Open = before.Open := by
    unfold Open
    rw [streams]
  have freed : after.Freed = before.Freed := by
    unfold Freed
    rw [streams]
  constructor
  · exact calls ▸ book.lawful
  · exact owner ▸ book.valid
  · rw [calls, streams]
    exact book.born
  · rw [opens, owner, handles]
    exact book.opened
  · rw [freed, handles]
    exact book.closed
  · rw [opens, owner, handles]
    exact book.owned

end KinesisVideoProducer

end KvsProducer
