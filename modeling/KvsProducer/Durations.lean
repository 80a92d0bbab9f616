import Mathlib.Algebra.Group.Int.Defs
import Mathlib.Algebra.Group.Nat.Defs
import Mathlib.Data.Nat.Notation

/-! Durations in 64-bit words. A duration is a count of units; casting it to
nanoseconds multiplies in unsigned arithmetic and reads the result as signed, and
both may leave the range. What comes out is compared with the integers. -/
namespace KvsProducer.Durations

/-! ## Wrapped products -/

/-- A remainder stays above a bound precisely if the number itself is more than
this bound behind every multiple that it has passed. -/
theorem remainder_exceeds_iff {modulus low number : ℕ} (positive : 0 < modulus) (exceeds : low < number) :
    low < number % modulus ↔
      ∀ wraps, 0 < wraps → number < wraps * modulus ∨ wraps * modulus + low < number := by
  have split : number / modulus * modulus + number % modulus = number := Nat.div_add_mod' number modulus
  have small := Nat.mod_lt number positive
  constructor
  · intro above wraps _
    rcases Nat.lt_or_ge (number / modulus) wraps with later | passed
    · left
      have next : (number / modulus + 1) * modulus ≤ wraps * modulus := Nat.mul_le_mul_right modulus later
      rw [Nat.succ_mul] at next
      omega
    · right
      have before : wraps * modulus ≤ number / modulus * modulus := Nat.mul_le_mul_right modulus passed
      omega
  · intro clear
    rcases Nat.eq_zero_or_pos (number / modulus) with never | passed
    · rw [never, Nat.zero_mul] at split
      omega
    · have last := clear (number / modulus) passed
      omega

/-! ## Signed readings -/

/-- A word read as a signed number. -/
theorem signed_value (word : UInt64) :
    word.toInt64.toInt = if word.toNat < 2 ^ 63 then (word.toNat : Int) else (word.toNat : Int) - 2 ^ 64 := by
  change word.toBitVec.toInt = _
  rw [BitVec.toInt_eq_toNat_cond]
  change (if 2 * word.toNat < 2 ^ 64 then (word.toNat : Int) else (word.toNat : Int) - 2 ^ 64) = _
  by_cases low : word.toNat < 2 ^ 63
  · rw [if_pos low, if_pos (by omega)]
  · rw [if_neg low, if_neg (by omega)]

/-- A signed number stored in a word. -/
theorem stored_value (value : Int64) :
    (value.toUInt64.toNat : Int) = if 0 ≤ value.toInt then value.toInt else value.toInt + 2 ^ 64 := by
  have reading := signed_value value.toUInt64
  have bound := value.toUInt64.toNat_lt
  rw [Int64.toInt64_toUInt64] at reading
  split at reading
  · rw [if_pos (by omega)]
    omega
  · rw [if_neg (by omega)]
    omega

/-! ## Casts -/

/-- `duration_cast<nanoseconds>` of an unsigned count: the product is taken in the
unsigned common type and stored in the signed count of the nanoseconds. -/
def durationCast (nanosInUnit count : UInt64) : Int64 := (count * nanosInUnit).toInt64

/-- A count of nanoseconds in units of a hundred of them, by a signed division. -/
def hundredsOf (nanoseconds : Int64) : UInt64 := (nanoseconds / 100).toUInt64

/-- The quotient of a signed division, which is rounded towards zero. -/
theorem hundreds_of_value (nanoseconds : Int64) :
    ((hundredsOf nanoseconds).toNat : Int) =
      if 0 ≤ nanoseconds.toInt then nanoseconds.toInt / 100
      else if -100 < nanoseconds.toInt then 0 else 2 ^ 64 - -nanoseconds.toInt / 100 := by
  have quotient : (nanoseconds / 100).toInt = nanoseconds.toInt.tdiv 100 :=
    Int64.toInt_div_of_ne_right nanoseconds 100 (by decide)
  rw [hundredsOf, stored_value, quotient]
  by_cases positive : 0 ≤ nanoseconds.toInt
  · rw [if_pos positive, Int.tdiv_eq_ediv_of_nonneg positive, if_pos (by omega)]
  · have rounded : nanoseconds.toInt.tdiv 100 = -(-nanoseconds.toInt / 100) := by
      rw [← Int.tdiv_eq_ediv_of_nonneg (by omega), Int.neg_tdiv, Int.neg_neg]
    rw [if_neg positive, rounded]
    split <;> split <;> omega

/-- The count of the nanoseconds is the product precisely if that is a signed word. -/
theorem cast_keeps_iff {nanosInUnit count : UInt64} :
    (durationCast nanosInUnit count).toInt = count.toNat * nanosInUnit.toNat ↔
      count.toNat * nanosInUnit.toNat < 2 ^ 63 := by
  rw [durationCast, signed_value, UInt64.toNat_mul, ← Int.natCast_mul]
  generalize count.toNat * nanosInUnit.toNat = nanoseconds
  split
  · omega
  · omega

/-- **Exact casts.** For units of whole hundreds of nanoseconds, the count that
comes out is the duration precisely if its nanoseconds are a signed word, or lie
so close below a hundred times the range that the wrapped quotient wraps back. -/
theorem cast_exact_iff {nanosInUnit count : UInt64} (whole : 100 ∣ nanosInUnit.toNat) :
    100 * (hundredsOf (durationCast nanosInUnit count)).toNat = count.toNat * nanosInUnit.toNat ↔
      count.toNat * nanosInUnit.toNat < 2 ^ 63 ∨
        (100 * 2 ^ 64 ≤ count.toNat * nanosInUnit.toNat + 2 ^ 63 ∧
          count.toNat * nanosInUnit.toNat < 100 * 2 ^ 64) := by
  have value := hundreds_of_value (durationCast nanosInUnit count)
  have reading := signed_value (count * nanosInUnit)
  rw [UInt64.toNat_mul] at reading
  rw [durationCast, reading] at value
  obtain ⟨hundreds, product⟩ : 100 ∣ count.toNat * nanosInUnit.toNat := Nat.dvd_mul_left_of_dvd whole _
  rw [durationCast]
  clear reading whole
  generalize count.toNat * nanosInUnit.toNat = nanoseconds at *
  generalize (hundredsOf (count * nanosInUnit).toInt64).toNat = units at *
  have split := Nat.div_add_mod nanoseconds (2 ^ 64)
  -- only without a wrap, or behind the ninety-ninth, can the quotient be right
  by_cases low : nanoseconds % 2 ^ 64 < 2 ^ 63
  · rw [if_pos low, if_pos (by omega)] at value
    rcases Nat.lt_trichotomy (nanoseconds / 2 ^ 64) 99 with few | last | many
    · omega
    · omega
    · omega
  · rw [if_neg low, if_neg (by omega)] at value
    rcases Nat.lt_trichotomy (nanoseconds / 2 ^ 64) 99 with few | last | many
    · split at value <;> omega
    · rw [last] at split
      split at value <;> omega
    · split at value <;> omega

end KvsProducer.Durations
