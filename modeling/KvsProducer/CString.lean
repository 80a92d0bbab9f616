import Mathlib.Data.List.Basic

/-! Byte buffers of C, and the strings in them that end with NUL. Going beyond the
bytes that were allocated has no result. -/
namespace KvsProducer.CString

abbrev Bytes := List UInt8

/-- The bytes of a `std::string`. -/
def bytesOf (text : String) : Bytes := text.toByteArray.data.toList

/-- The bytes behind a pointer, as many as were allocated. -/
abbrev Buffer := List UInt8

/-- `calloc`: this many elements of this size, all of them zero. -/
def calloc (count size : ℕ) : Buffer := List.replicate (count * size) 0

/-- `memcpy` to the front of a buffer. -/
def memcpy (buffer : Buffer) (source : Bytes) : Option Buffer :=
  if buffer.length < source.length then none else some (source ++ buffer.drop source.length)

/-- `strncpy` of the characters of a string: up to this many bytes, of which those
behind the end of the string are zero. There may be no NUL left to end the copy. -/
def strncpy (buffer : Buffer) (source : Bytes) (count : ℕ) : Option Buffer :=
  if buffer.length < count then none
  else
    let text := (source.takeWhile (· ≠ 0)).take count
    some (text ++ List.replicate (count - text.length) 0 ++ buffer.drop count)

/-- The string at the front of a buffer, up to its NUL. -/
def readCString : Buffer → Option Bytes
  | [] => none
  | byte :: rest => if byte = 0 then some [] else (readCString rest).map (byte :: ·)

/-- What is copied into fresh memory is followed by zeros to the end of it. -/
theorem memcpy_calloc (fits : source.length ≤ count * size) :
    memcpy (calloc count size) source =
      some (source ++ List.replicate (count * size - source.length) 0) := by
  simp [memcpy, calloc, Nat.not_lt.mpr fits]

/-- A string reads as it was written when a NUL follows it. -/
theorem read_terminated (text rest : Bytes) (noNul : 0 ∉ text) :
    readCString (text ++ 0 :: rest) = some text := by
  induction text with
  | nil => rfl
  | cons byte text ih =>
    have other : byte ≠ 0 := fun same => noNul (same ▸ List.mem_cons_self)
    have later := ih fun member => noNul (List.mem_cons_of_mem _ member)
    rw [List.cons_append, readCString, if_neg other, later]
    rfl

/-- A buffer without a NUL has no end to read to. -/
theorem read_unterminated (buffer : Buffer) (noNul : 0 ∉ buffer) : readCString buffer = none := by
  induction buffer with
  | nil => rfl
  | cons byte rest ih =>
    have other : byte ≠ 0 := fun same => noNul (same ▸ List.mem_cons_self)
    rw [readCString, if_neg other, ih fun member => noNul (List.mem_cons_of_mem _ member)]
    rfl

/-- More zeros in front of the NUL change nothing. -/
theorem read_padded (text rest : Bytes) (zeros : ℕ) (noNul : 0 ∉ text) :
    readCString (text ++ List.replicate zeros 0 ++ 0 :: rest) = some text := by
  cases zeros with
  | zero => simpa using read_terminated text rest noNul
  | succ zeros =>
    rw [List.replicate_succ, List.append_assoc, List.cons_append]
    exact read_terminated text _ noNul

/-- A copy to a buffer with one byte more than the limit, ended by force, reads as
the string up to the limit. -/
theorem read_bounded_copy (source : Bytes) (room : buffer.length = limit + 1) :
    ∃ copy, strncpy buffer source (limit + 1) = some copy ∧
      readCString (copy.set limit 0) = some ((source.takeWhile (· ≠ 0)).take limit) := by
  refine ⟨_, if_neg (by omega), ?_⟩
  generalize same : source.takeWhile (· ≠ 0) = text
  have noNul : 0 ∉ text.take limit := by
    intro member
    have kept := List.mem_of_mem_take member
    rw [← same] at kept
    simpa using List.all_eq_true.mp List.all_takeWhile 0 kept
  rw [List.drop_eq_nil_of_le (by omega), List.append_nil]
  have length : (text.take (limit + 1) ++
      List.replicate (limit + 1 - (text.take (limit + 1)).length) (0 : UInt8)).length = limit + 1 := by
    simp only [List.length_append, List.length_replicate, List.length_take]
    omega
  rw [List.set_eq_take_append_cons_drop, if_pos (by omega), List.take_append, List.take_take,
    List.take_replicate, show min limit (limit + 1) = limit by omega]
  exact read_padded _ _ _ noNul

end KvsProducer.CString
