import Mathlib.Data.List.Basic
import Mathlib.Data.Nat.Notation

/-! Arrays made by `new[]` and released by `delete[]`. The address of an array is
its number among all that were ever made, so an address is never used again and
a pointer that outlived its array is told from every live one. -/
namespace KvsProducer.NewArrays

abbrev Address := ℕ

/-- For each array its number of bytes, until it is deleted. -/
structure Memory where
  arrays : List (Option ℕ) := []
  deriving DecidableEq, Repr

/-- How many bytes a pointer may be used for, if its array is there. -/
def Memory.bytes (memory : Memory) (address : Address) : Option ℕ := memory.arrays[address]?.join

/-- `new uint8_t[size]` that does not throw. -/
def Memory.new (memory : Memory) (size : ℕ) : Memory × Address :=
  (⟨memory.arrays ++ [some size]⟩, memory.arrays.length)

/-- `delete [] address`. -/
def Memory.delete (memory : Memory) (address : Address) : Memory := ⟨memory.arrays.set address none⟩

@[simp] theorem bytes_new (memory : Memory) (size : ℕ) :
    (memory.new size).1.bytes (memory.new size).2 = some size := by
  simp [Memory.new, Memory.bytes]

@[simp] theorem bytes_delete (memory : Memory) (address : Address) :
    (memory.delete address).bytes address = none := by
  rw [Memory.bytes, Memory.delete, List.getElem?_set_self']
  cases memory.arrays[address]? <;> rfl

/-- Nothing is behind the next address yet. -/
theorem bytes_fresh (memory : Memory) : memory.bytes memory.arrays.length = none := by
  simp [Memory.bytes]

/-- Making an array leaves all others alone. -/
theorem bytes_new_of_ne (memory : Memory) (apart : other ≠ (memory.new size).2) :
    (memory.new size).1.bytes other = memory.bytes other := by
  unfold Memory.bytes
  by_cases within : other < memory.arrays.length
  · rw [Memory.new, List.getElem?_append_left within]
  · have beyond : memory.arrays.length < other :=
      Nat.lt_of_le_of_ne (Nat.le_of_not_lt within) (Ne.symm apart)
    rw [Memory.new, List.getElem?_eq_none (by simp; omega), List.getElem?_eq_none (by omega)]

theorem bytes_delete_of_ne (apart : other ≠ address) (memory : Memory) :
    (memory.delete address).bytes other = memory.bytes other := by
  rw [Memory.bytes, Memory.delete, List.getElem?_set_ne (Ne.symm apart)]
  rfl

end KvsProducer.NewArrays
