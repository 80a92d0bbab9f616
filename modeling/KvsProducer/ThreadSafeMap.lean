import Mathlib.Data.Nat.Notation
import Std.Data.ExtTreeMap.Lemmas

/-! `ThreadSafeMap`: a `std::map` whose operations are atomic under its mutex.
Putting never replaces, and removing goes by the key alone; what this means for
the owner of a key is the business of the callers. -/
namespace KvsProducer

structure ThreadSafeMap (K V : Type) [Ord K] where
  map : Std.ExtTreeMap K V compare := ∅

namespace ThreadSafeMap

variable {K V : Type} [Ord K] [Std.TransOrd K]

/-- `map_.emplace` keeps the value of a key that is already there. -/
def put (self : ThreadSafeMap K V) (k : K) (v : V) : ThreadSafeMap K V := ⟨self.map.insertIfNew k v⟩

def get (self : ThreadSafeMap K V) (k : K) : Option V := self.map[k]?

/-- The walk of `getAt`. The counter it compares with the index is never advanced. -/
def findAt (curIndex index : Int) : List (K × V) → Option V
  | [] => none
  | (_, value) :: rest => if curIndex = index then some value else findAt curIndex index rest

def getAt (self : ThreadSafeMap K V) (index : Int) : Option V :=
  if index < 0 ∨ (self.map.size : Int) ≤ index then none else findAt 0 index self.map.toList

def remove (self : ThreadSafeMap K V) (k : K) : ThreadSafeMap K V := ⟨self.map.erase k⟩

/-- `getMap().size()`. -/
def size (self : ThreadSafeMap K V) : ℕ := self.map.size

/-- The value stands under some key. -/
def holds [BEq V] (self : ThreadSafeMap K V) (v : V) : Bool := self.map.toList.any (·.2 == v)

variable {self : ThreadSafeMap K V} {k other : K} {v held : V}

@[simp] theorem get_empty (k : K) : (⟨∅⟩ : ThreadSafeMap K V).get k = none :=
  Std.ExtTreeMap.getElem?_empty

theorem get_at_zero (self : ThreadSafeMap K V) : self.getAt 0 = self.map.toList.head?.map (·.2) := by
  have length : self.map.toList.length = self.map.size := Std.ExtTreeMap.length_toList
  unfold getAt
  cases listed : self.map.toList with
  | nil => simp [listed] at length ⊢; omega
  | cons first rest =>
    rw [listed] at length
    have some : ¬ ((0 : Int) < 0 ∨ (self.map.size : Int) ≤ 0) := by
      simp only [List.length_cons] at length
      omega
    rw [if_neg some]
    simp [findAt]

/-- The counter stands still, so every other index finds nothing. -/
theorem get_at_other (apart : index ≠ 0) : self.getAt index = none := by
  have still (entries : List (K × V)) : findAt 0 index entries = none := by
    induction entries with
    | nil => rfl
    | cons first rest ih =>
      rw [findAt, if_neg (Ne.symm apart)]
      exact ih
  unfold getAt
  split
  · rfl
  · exact still _

theorem get_at_zero_none (nothing : self.getAt 0 = none) : self.size = 0 := by
  rw [get_at_zero, Option.map_eq_none_iff, List.head?_eq_none_iff] at nothing
  rw [size, ← Std.ExtTreeMap.length_toList, nothing]
  rfl

theorem get_of_size_zero (empty : self.size = 0) (k : K) : self.get k = none := by
  have nothing := Std.ExtTreeMap.eq_empty_iff_size_eq_zero.mpr empty
  rw [get, nothing]
  exact Std.ExtTreeMap.getElem?_empty

@[simp] theorem get_remove (self : ThreadSafeMap K V) (k : K) : (self.remove k).get k = none :=
  Std.ExtTreeMap.getElem?_erase_self

theorem size_remove (found : self.get k = some v) : (self.remove k).size + 1 = self.size := by
  have member : k ∈ self.map := by
    rw [← Std.ExtTreeMap.isSome_getElem?_iff_mem]
    simp [show self.map[k]? = some v from found]
  have nonempty : self.map.size ≠ 0 := by
    intro empty
    cases found.symm.trans (get_of_size_zero empty k)
  have erased : (self.map.erase k).size = if self.map.contains k then self.map.size - 1 else self.map.size :=
    Std.ExtTreeMap.size_erase
  rw [if_pos (Std.ExtTreeMap.contains_iff_mem.mpr member)] at erased
  simp only [size, remove, erased]
  omega

/-- A key that is taken keeps its value. -/
theorem get_put_taken (taken : self.get k = some held) (v : V) (other : K) :
    (self.put k v).get other = self.get other := by
  have member : k ∈ self.map := by
    rw [← Std.ExtTreeMap.isSome_getElem?_iff_mem]
    simp [show self.map[k]? = some held from taken]
  rw [get, put, Std.ExtTreeMap.getElem?_insertIfNew, if_neg (·.2 member)]
  rfl

theorem size_put_taken (taken : self.get k = some held) (v : V) : (self.put k v).size = self.size := by
  have member : k ∈ self.map := by
    rw [← Std.ExtTreeMap.isSome_getElem?_iff_mem]
    simp [show self.map[k]? = some held from taken]
  rw [size, size, put, Std.ExtTreeMap.size_insertIfNew, if_pos member]

theorem size_put (free : self.get k = none) (v : V) : (self.put k v).size = self.size + 1 := by
  have missing : k ∉ self.map := by
    rw [← Std.ExtTreeMap.isSome_getElem?_iff_mem]
    simp [show self.map[k]? = none from free]
  rw [size, size, put, Std.ExtTreeMap.size_insertIfNew, if_neg missing]

theorem get_at_zero_none_iff : self.getAt 0 = none ↔ self.size = 0 := by
  refine ⟨get_at_zero_none, fun empty => ?_⟩
  rw [get_at_zero, Option.map_eq_none_iff, List.head?_eq_none_iff, ← List.length_eq_zero_iff,
    Std.ExtTreeMap.length_toList]
  exact empty

variable [Std.LawfulEqOrd K]

theorem get_put (free : self.get k = none) (v : V) : (self.put k v).get k = some v := by
  have missing : k ∉ self.map := by
    rw [← Std.ExtTreeMap.isSome_getElem?_iff_mem]
    simp [show self.map[k]? = none from free]
  rw [get, put, Std.ExtTreeMap.getElem?_insertIfNew, if_pos ⟨Std.ReflCmp.compare_self, missing⟩]

theorem get_put_other (apart : other ≠ k) (v : V) : (self.put k v).get other = self.get other := by
  have different : compare k other ≠ .eq := by simpa using Ne.symm apart
  rw [get, put, Std.ExtTreeMap.getElem?_insertIfNew, if_neg (different ·.1)]
  rfl

theorem get_remove_other (apart : other ≠ k) : (self.remove k).get other = self.get other := by
  have different : compare k other ≠ .eq := by simpa using Ne.symm apart
  rw [get, remove, Std.ExtTreeMap.getElem?_erase, if_neg different]
  rfl

/-- The walk starts at the least key. -/
theorem get_at_zero_least (found : self.getAt 0 = some v) :
    ∃ k, self.get k = some v ∧ ∀ other held, self.get other = some held → other = k ∨ compare k other = .lt := by
  rw [get_at_zero, Option.map_eq_some_iff] at found
  obtain ⟨⟨k, value⟩, first, rfl⟩ := found
  obtain ⟨rest, listed⟩ := List.head?_eq_some_iff.mp first
  have ordered := @Std.ExtTreeMap.ordered_keys_toList _ _ _ self.map _
  rw [listed, List.pairwise_cons] at ordered
  have entry {other : K} {held : V} : (other, held) ∈ (k, value) :: rest ↔ self.get other = some held := by
    rw [← listed]
    exact Std.ExtTreeMap.mem_toList_iff_getElem?_eq_some
  refine ⟨k, entry.mp List.mem_cons_self, fun other held present => ?_⟩
  rcases List.mem_cons.mp (entry.mpr present) with same | later
  · cases same
    exact .inl rfl
  · exact .inr (ordered.1 _ later)

theorem get_at_zero_some (found : self.getAt 0 = some v) : ∃ k, self.get k = some v := by
  obtain ⟨k, present, _⟩ := get_at_zero_least found
  exact ⟨k, present⟩

theorem size_of_get_none (nothing : ∀ k, self.get k = none) : self.size = 0 := by
  apply get_at_zero_none
  cases first : self.getAt 0 with
  | none => rfl
  | some held =>
    obtain ⟨k, present⟩ := get_at_zero_some first
    rw [nothing k] at present
    cases present

theorem holds_iff [BEq V] [LawfulBEq V] : self.holds v = true ↔ ∃ k, self.get k = some v := by
  unfold holds
  rw [List.any_eq_true]
  constructor
  · rintro ⟨⟨k, value⟩, member, same⟩
    cases eq_of_beq same
    exact ⟨k, Std.ExtTreeMap.mem_toList_iff_getElem?_eq_some.mp member⟩
  · rintro ⟨k, found⟩
    exact ⟨(k, v), Std.ExtTreeMap.mem_toList_iff_getElem?_eq_some.mpr found, beq_self_eq_true v⟩

/-- Removing a key that is not there changes nothing. -/
theorem remove_missing (missing : self.get k = none) : self.remove k = self := by
  have same : self.map.erase k = self.map := by
    apply Std.ExtTreeMap.ext_getElem?
    intro other
    by_cases here : other = k
    · subst here
      exact (get_remove self other).trans missing.symm
    · exact get_remove_other here
  simp only [remove, same]

end ThreadSafeMap
end KvsProducer
