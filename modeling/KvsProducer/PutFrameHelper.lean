import KvsProducer.NewArrays
import KvsProducer.Runs
import KvsProducer.Sink

/-! `PutFrameHelper`: one buffer for the data of the next frame, and a flag that
is to tell the application whether a frame was lost. -/
namespace KvsProducer
open Gst NewArrays Runs

/-- The frame of one `statusPutFrame` call. -/
inductive HandedFrame where
  | normal (frame : Frame)
  /-- `EOFR_FRAME_INITIALIZER`. -/
  | eofr
  deriving DecidableEq, Repr

structure PutFrameHelper where
  putFrameStatus : Bool
  dataBuffer : Address
  dataBufferSize : UInt32
  memory : Memory
  /-- The frames handed to the stream so far, with what `statusPutFrame` returned. -/
  handed : List (HandedFrame × Status) := []
  deriving DecidableEq, Repr

namespace PutFrameHelper

def defaultMkvTimecodeScaleNs : UInt64 := 1000000
def defaultMaxAudioQueueSize : UInt32 := 200
def defaultMaxVideoQueueSize : UInt32 := 50
def defaultBufferSizeAudio : UInt32 := 50 * 1024
def defaultBufferSizeVideo : UInt32 := 100 * 1024

/-- The constructor. The buffer gets the size of the video queue; no other
size is looked at. -/
def new (memory : Memory) (_mkvTimecodeScaleNs : UInt64 := defaultMkvTimecodeScaleNs)
    (_maxAudioQueueSize : UInt32 := defaultMaxAudioQueueSize)
    (maxVideoQueueSize : UInt32 := defaultMaxVideoQueueSize)
    (_initialBufferSizeAudio : UInt32 := defaultBufferSizeAudio)
    (_initialBufferSizeVideo : UInt32 := defaultBufferSizeVideo) : PutFrameHelper :=
  let (memory, dataBuffer) := memory.new maxVideoQueueSize.toNat
  { putFrameStatus := true, dataBuffer, dataBufferSize := maxVideoQueueSize, memory }

/-- `kinesis_video_stream->statusPutFrame(frame)` and what both callers do with its answer. -/
def statusPutFrame (self : PutFrameHelper) (frame : HandedFrame) (status : Status) : PutFrameHelper :=
  let self := { self with handed := self.handed ++ [(frame, status)] }
  if statusFailed status then { self with putFrameStatus := false } else self

def putFrameMultiTrack (self : PutFrameHelper) (frame : Frame) (_isVideo : Bool) (status : Status) :
    PutFrameHelper := self.statusPutFrame (.normal frame) status

def flush (self : PutFrameHelper) : PutFrameHelper := self

/-- `getFrameDataBuffer`, which returns nothing when `new[]` throws. By then the
old buffer is gone and the new size is stored. -/
def getFrameDataBuffer (self : PutFrameHelper) (requestedBufferSize : UInt32) (_isVideo allocated : Bool) :
    PutFrameHelper × Option Address :=
  if requestedBufferSize > self.dataBufferSize then
    let self := { self with memory := self.memory.delete self.dataBuffer }
    let self := { self with dataBufferSize := requestedBufferSize + requestedBufferSize / 2 }
    if allocated then
      let (memory, dataBuffer) := self.memory.new self.dataBufferSize.toNat
      ({ self with memory, dataBuffer }, some dataBuffer)
    else (self, none)
  else (self, some self.dataBuffer)

def putFrameFailed (self : PutFrameHelper) : Bool := self.putFrameStatus

def putEofr (self : PutFrameHelper) (status : Status) : PutFrameHelper := self.statusPutFrame .eofr status

def destructor (self : PutFrameHelper) : Memory := self.memory.delete self.dataBuffer

/-- One call of the application, with the answers of the stream and of `new[]`. -/
inductive Call where
  | getFrameDataBuffer (requestedBufferSize : UInt32) (isVideo allocated : Bool)
  | putFrameMultiTrack (frame : Frame) (isVideo : Bool) (status : Status)
  | putEofr (status : Status)
  | flush
  | putFrameFailed
  deriving DecidableEq, Repr

/-- The helper after a call. -/
def step (self : PutFrameHelper) : Call → Option PutFrameHelper
  | .getFrameDataBuffer requestedBufferSize isVideo allocated =>
    some (self.getFrameDataBuffer requestedBufferSize isVideo allocated).1
  | .putFrameMultiTrack frame isVideo status => some (self.putFrameMultiTrack frame isVideo status)
  | .putEofr status => some (self.putEofr status)
  | .flush => some self.flush
  | .putFrameFailed => some self

variable {self next : PutFrameHelper}

private theorem get_held_buffer (fits : requested ≤ self.dataBufferSize) (isVideo allocated : Bool) :
    self.getFrameDataBuffer requested isVideo allocated = (self, some self.dataBuffer) := by
  rw [getFrameDataBuffer, if_neg (UInt32.not_lt.mpr fits)]

/-- What a call does to the helper: nothing, it notes a frame, or it replaces the buffer. -/
inductive Change (self : PutFrameHelper) : Call → PutFrameHelper → Prop where
  | held : Change self call self
  | put (frame : HandedFrame) (status : Status) : Change self call (self.statusPutFrame frame status)
  | replaced (larger : self.dataBufferSize < requested) (isVideo allocated : Bool) :
      Change self (.getFrameDataBuffer requested isVideo allocated)
        (self.getFrameDataBuffer requested isVideo allocated).1

private theorem step_changes (taken : self.step call = some next) : Change self call next := by
  cases call with
  | getFrameDataBuffer requested isVideo allocated =>
    cases taken
    by_cases larger : self.dataBufferSize < requested
    · exact .replaced larger isVideo allocated
    · rw [get_held_buffer (UInt32.not_lt.mp larger)]
      exact .held
  | putFrameMultiTrack frame isVideo status =>
    cases taken
    exact .put (.normal frame) status
  | putEofr status =>
    cases taken
    exact .put .eofr status
  | flush | putFrameFailed =>
    cases taken
    exact .held

/-! ## The buffer -/

/-- The stored size is that of the array behind the pointer. -/
def Sized (self : PutFrameHelper) : Prop :=
  self.memory.bytes self.dataBuffer = some self.dataBufferSize.toNat

/-- What a caller that asks for a buffer relies on. -/
structure LargeEnough (helper : PutFrameHelper) (requestedBufferSize : UInt32)
    (answer : PutFrameHelper × Option Address) : Prop where
  large : ∀ buffer, answer.2 = some buffer →
    ∃ bytes, answer.1.memory.bytes buffer = some bytes ∧ requestedBufferSize.toNat ≤ bytes
  unchanged : requestedBufferSize ≤ helper.dataBufferSize → answer = (helper, some helper.dataBuffer)

def HandsOut (self : PutFrameHelper) : Call → Prop
  | .getFrameDataBuffer requestedBufferSize isVideo allocated =>
    LargeEnough self requestedBufferSize (self.getFrameDataBuffer requestedBufferSize isVideo allocated)
  | _ => True

/-- The largest request whose half can be added without overflow. -/
def largestGrowth : UInt32 := 2863311530

/-- The request fits the buffer, or a larger one is there and its size is a `uint32_t`. -/
def Fits (self : PutFrameHelper) : Call → Prop
  | .getFrameDataBuffer requestedBufferSize _ allocated =>
    requestedBufferSize ≤ self.dataBufferSize ∨
      (requestedBufferSize ≤ largestGrowth ∧ allocated = true)
  | _ => True

/-- With its half a request is at least as large as before, unless the sum overflows. -/
theorem grown_covers_iff (requested : UInt32) :
    requested.toNat ≤ (requested + requested / 2).toNat ↔ requested ≤ largestGrowth := by
  have bound := requested.toNat_lt
  have limit : largestGrowth.toNat = 2863311530 := rfl
  rw [UInt32.toNat_add, UInt32.toNat_div, UInt32.le_iff_toNat_le, limit,
    show (2 : UInt32).toNat = 2 from rfl]
  by_cases within : requested.toNat + requested.toNat / 2 < 2 ^ 32
  · rw [Nat.mod_eq_of_lt within]
    omega
  · -- what is left of the sum is smaller than the half alone
    rw [Nat.mod_eq_sub_mod (by omega), Nat.mod_eq_of_lt (by omega)]
    omega

private theorem new_sized (memory : Memory) :
    (new memory scale audioQueue videoQueue audioSize videoSize).Sized := bytes_new memory _

private theorem status_put_frame_sized (sized : self.Sized) (frame : HandedFrame) (status : Status) :
    (self.statusPutFrame frame status).Sized := by
  unfold statusPutFrame
  dsimp only
  split
  · exact sized
  · exact sized

/-- What is handed out and kept when a larger array is made. -/
theorem get_grown_buffer (larger : self.dataBufferSize < requested) (isVideo : Bool) :
    (∃ buffer, (self.getFrameDataBuffer requested isVideo true).2 = some buffer ∧
      (self.getFrameDataBuffer requested isVideo true).1.memory.bytes buffer =
        some (requested + requested / 2).toNat) ∧
    (self.getFrameDataBuffer requested isVideo true).1.Sized := by
  rw [getFrameDataBuffer, if_pos larger]
  exact ⟨⟨_, rfl, bytes_new ..⟩, bytes_new ..⟩

/-- When there is no larger array, the pointer is left to the deleted one. -/
theorem unsized_without_memory (larger : self.dataBufferSize < requested) (isVideo : Bool) :
    ¬ (self.getFrameDataBuffer requested isVideo false).1.Sized := by
  rw [getFrameDataBuffer, if_pos larger, Sized]
  simp

private theorem sized_kept (sized : self.Sized) (fits : self.Fits call) (taken : self.step call = some next) :
    next.Sized := by
  cases step_changes taken with
  | held => exact sized
  | put frame status => exact status_put_frame_sized sized frame status
  | replaced larger isVideo allocated =>
    obtain held | ⟨_, rfl⟩ := fits
    · exact absurd larger (UInt32.not_lt.mpr held)
    · exact (get_grown_buffer larger isVideo).2

/-- Between two states with the right size, a call hands out what was asked for
precisely if the request fits. -/
theorem hands_out_iff_fits (sized : self.Sized) (sizedAfter : next.Sized)
    (taken : self.step call = some next) : self.HandsOut call ↔ self.Fits call := by
  cases call with
  | getFrameDataBuffer requested isVideo allocated =>
    cases taken
    by_cases larger : self.dataBufferSize < requested
    · have beyond : ¬ requested ≤ self.dataBufferSize := UInt32.not_le.mpr larger
      cases allocated with
      | false => exact absurd sizedAfter (unsized_without_memory larger isVideo)
      | true =>
        obtain ⟨⟨buffer, given, bytes⟩, _⟩ := get_grown_buffer larger isVideo
        constructor
        · intro handsOut
          have answer : LargeEnough self requested (self.getFrameDataBuffer requested isVideo true) := handsOut
          obtain ⟨size, found, covers⟩ := answer.large buffer given
          rw [bytes] at found
          cases found
          exact .inr ⟨(grown_covers_iff requested).mp covers, rfl⟩
        · rintro (held | ⟨grows, _⟩)
          · exact absurd held beyond
          · refine ⟨fun other same => ?_, fun held => absurd held beyond⟩
            rw [given] at same
            cases same
            exact ⟨_, bytes, (grown_covers_iff requested).mpr grows⟩
    · have held := UInt32.not_lt.mp larger
      refine ⟨fun _ => .inl held, fun _ => ?_⟩
      simp only [HandsOut, get_held_buffer held]
      refine ⟨fun buffer same => ?_, fun _ => rfl⟩
      cases same
      exact ⟨_, sized, UInt32.le_iff_toNat_le.mp held⟩
  | putFrameMultiTrack | putEofr | flush | putFrameFailed => exact Iff.rfl

/-- **Room for every frame.** From its construction on, a helper knows the size
of its buffer and hands out what is asked for precisely if every request either
fits the buffer of its time or can be grown by half and allocated. -/
theorem buffers_large_enough_iff (memory : Memory) (mkvTimecodeScaleNs : UInt64)
    (maxAudioQueueSize maxVideoQueueSize initialBufferSizeAudio initialBufferSizeVideo : UInt32)
    (calls : List Call) :
    let helper := new memory mkvTimecodeScaleNs maxAudioQueueSize maxVideoQueueSize
      initialBufferSizeAudio initialBufferSizeVideo
    (Throughout step Sized helper calls ∧ EachStep step HandsOut helper calls) ↔
      EachStep step Fits helper calls := by
  intro helper
  have exactly (sized : Throughout step Sized helper calls) :
      EachStep step HandsOut helper calls ↔ EachStep step Fits helper calls :=
    sized.each_step_iff fun state call next held heldAfter taken => hands_out_iff_fits held heldAfter taken
  constructor
  · rintro ⟨sized, handsOut⟩
    exact (exactly sized).mp handsOut
  · intro fits
    have sized : Throughout step Sized helper calls :=
      invariant_throughout (fun state call next held fit taken => sized_kept held fit taken)
        (new_sized memory) fits
    exact ⟨sized, (exactly sized).mpr fits⟩

/-- Beside its own buffer the helper has changed nothing of the memory that it
found, where its buffer was not yet there. -/
structure Leaves (initial : Memory) (helper : PutFrameHelper) : Prop where
  own : initial.bytes helper.dataBuffer = none
  others : ∀ other, other ≠ helper.dataBuffer → helper.memory.bytes other = initial.bytes other

private theorem new_leaves (memory : Memory) :
    Leaves memory (new memory scale audioQueue videoQueue audioSize videoSize) where
  own := bytes_fresh memory
  others _ apart := bytes_new_of_ne memory apart

theorem Leaves.delete (leaves : Leaves initial self) (other : Address) :
    (self.memory.delete self.dataBuffer).bytes other = initial.bytes other := by
  by_cases same : other = self.dataBuffer
  · subst same
    rw [bytes_delete, leaves.own]
  · rw [bytes_delete_of_ne same, leaves.others other same]

private theorem leaves_kept (leaves : Leaves initial self) (taken : self.step call = some next) :
    Leaves initial next := by
  cases step_changes taken with
  | held => exact leaves
  | put frame status =>
    unfold statusPutFrame
    dsimp only
    split
    · exact ⟨leaves.own, leaves.others⟩
    · exact ⟨leaves.own, leaves.others⟩
  | replaced larger isVideo allocated =>
    rw [getFrameDataBuffer, if_pos larger]
    cases allocated with
    | false => exact ⟨leaves.own, fun other _ => leaves.delete other⟩
    | true =>
      constructor
      · exact (leaves.delete _).symm.trans (bytes_fresh ..)
      · exact fun other apart => (bytes_new_of_ne _ apart).trans (leaves.delete other)

/-- A helper that always found room ends with its buffer still there to be
deleted, and then leaves the memory as it found it. -/
theorem destructor_leaves_nothing (memory : Memory) (fits : EachStep step Fits
      (new memory scale audioQueue videoQueue audioSize videoSize) calls)
    (ran : run step (new memory scale audioQueue videoQueue audioSize videoSize) calls = some final) :
    final.Sized ∧ ∀ address, final.destructor.bytes address = memory.bytes address := by
  have keeps : ∀ helper call next, helper.Sized ∧ Leaves memory helper → helper.Fits call →
      step helper call = some next → next.Sized ∧ Leaves memory next :=
    fun helper call next held fit taken => ⟨sized_kept held.1 fit taken, leaves_kept held.2 taken⟩
  have both := invariant_throughout keeps ⟨new_sized memory, new_leaves memory⟩ fits
  exact ⟨(both.at_end ran).1, (both.at_end ran).2.delete⟩

/-- One byte more than can be grown: the sum overflows to zero, and the buffer
that is handed out has no bytes. -/
theorem grown_to_nothing :
    ¬ EachStep step HandsOut (new ⟨[]⟩) [.getFrameDataBuffer 2863311531 true true] := by
  intro always
  have answer : LargeEnough (new ⟨[]⟩) 2863311531
    ((new ⟨[]⟩).getFrameDataBuffer 2863311531 true true) := (always _ rfl).1
  obtain ⟨bytes, found, covers⟩ := answer.large 1 rfl
  cases found
  exact absurd covers (by decide)

/-! ## The flag -/

/-- `putFrameFailed` tells the truth about what was handed to the stream so far. -/
def ReportsFailures (self : PutFrameHelper) : Prop :=
  self.putFrameFailed = true ↔ ∃ put ∈ self.handed, put.2 ≠ statusSuccess

/-- The flag stands for success, not for failure. -/
def FlagIsSuccess (self : PutFrameHelper) : Prop :=
  self.putFrameStatus = true ↔ ∀ put ∈ self.handed, put.2 = statusSuccess

private theorem status_put_frame_flag (flag : self.FlagIsSuccess) (frame : HandedFrame) (status : Status) :
    (self.statusPutFrame frame status).FlagIsSuccess := by
  unfold statusPutFrame FlagIsSuccess at *
  dsimp only
  by_cases succeeded : status = statusSuccess
  · simp [statusFailed, succeeded, or_imp, forall_and, flag]
  · simp [statusFailed, succeeded, or_imp, forall_and]

private theorem flag_kept (flag : self.FlagIsSuccess) (taken : self.step call = some next) :
    next.FlagIsSuccess := by
  cases step_changes taken with
  | held => exact flag
  | put frame status => exact status_put_frame_flag flag frame status
  | replaced larger isVideo allocated =>
    rw [getFrameDataBuffer, if_pos larger]
    cases allocated with
    | false => exact flag
    | true => exact flag

private theorem flag_throughout (memory : Memory) (mkvTimecodeScaleNs : UInt64)
    (maxAudioQueueSize maxVideoQueueSize initialBufferSizeAudio initialBufferSizeVideo : UInt32)
    (calls : List Call) :
    Throughout step FlagIsSuccess (new memory mkvTimecodeScaleNs maxAudioQueueSize maxVideoQueueSize
      initialBufferSizeAudio initialBufferSizeVideo) calls := by
  have all : EachStep step (fun _ _ => True) (new memory mkvTimecodeScaleNs maxAudioQueueSize
    maxVideoQueueSize initialBufferSizeAudio initialBufferSizeVideo) calls := each_step_of_forall fun _ _ => trivial
  exact invariant_throughout (fun state call next flag _ taken => flag_kept flag taken)
    (by simp [FlagIsSuccess, new]) all

/-- **The answer is inverted.** Whatever is called and whatever the stream
returns, `putFrameFailed` is never right. -/
theorem put_frame_failed_inverted (memory : Memory) (mkvTimecodeScaleNs : UInt64)
    (maxAudioQueueSize maxVideoQueueSize initialBufferSizeAudio initialBufferSizeVideo : UInt32)
    (calls : List Call) :
    Throughout step (fun helper => ¬ helper.ReportsFailures) (new memory mkvTimecodeScaleNs
      maxAudioQueueSize maxVideoQueueSize initialBufferSizeAudio initialBufferSizeVideo) calls := by
  refine (flag_throughout ..).imp fun helper flag reports => ?_
  have both : (∀ put ∈ helper.handed, put.2 = statusSuccess) ↔ ∃ put ∈ helper.handed, put.2 ≠ statusSuccess :=
    flag.symm.trans reports
  by_cases failed : ∃ put ∈ helper.handed, put.2 ≠ statusSuccess
  · obtain ⟨put, member, unsuccessful⟩ := failed
    exact unsuccessful (both.mpr ⟨put, member, unsuccessful⟩ put member)
  · apply failed
    apply both.mp
    intro put member
    by_contra unsuccessful
    exact failed ⟨put, member, unsuccessful⟩

/-- The only frame was taken, and a failure is reported. -/
theorem failure_without_failed_frame :
    ¬ Throughout step ReportsFailures (new ⟨[]⟩) [.putEofr statusSuccess] := by
  intro always
  obtain ⟨put, member, unsuccessful⟩ := (always.2 _ rfl : ReportsFailures _).mp rfl
  cases List.mem_singleton.mp member
  exact unsuccessful rfl

end PutFrameHelper
end KvsProducer
