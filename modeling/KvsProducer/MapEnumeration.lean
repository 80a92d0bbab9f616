import KvsProducer.MapHistories

/-! Reading the entries of a `ThreadSafeMap` by position. The position of a key is
the number of smaller keys, so no walk decides what `getAt` ought to return. -/
namespace KvsProducer

/-! ## Positions in sorted lists -/

/-- In a strictly sorted list each entry stands behind exactly the smaller ones. -/
theorem smaller_before_position {K : Type} [Ord K] [Std.TransOrd K] {keys : List K} {i : ℕ}
    {k : K} (sorted : keys.Pairwise (fun a b => compare a b = .lt)) (at_position : keys[i]? = some k) :
    keys.countP (fun key => compare key k == .lt) = i := by
  induction keys generalizing i with
  | nil => simp at at_position
  | cons first rest ih =>
    obtain ⟨least, ordered⟩ := List.pairwise_cons.mp sorted
    cases i with
    | zero =>
      cases at_position
      rw [List.countP_eq_zero]
      intro key member smaller
      have before : compare key k = .lt := by simpa using smaller
      rcases List.mem_cons.mp member with rfl | later
      · have itself : compare key key = .eq := Std.ReflCmp.compare_self
        cases itself.symm.trans before
      · cases (Std.OrientedCmp.eq_swap.trans (congrArg Ordering.swap (least key later))).symm.trans before
    | succ i =>
      have within : rest[i]? = some k := at_position
      have smaller := least k (List.mem_of_getElem? within)
      rw [List.countP_cons_of_pos (by simp [smaller]), ih ordered within]

namespace ThreadSafeMap

variable {K V P : Type} [Ord K] [Std.TransOrd K] {self : ThreadSafeMap K V} {k other : K} {v w : V} {i : ℕ}

/-- How many keys are smaller than this one. -/
def rank (self : ThreadSafeMap K V) (k : K) : ℕ := self.map.keys.countP fun key => compare key k == .lt

private theorem rank_same_key (same : compare k other = .eq) : self.rank k = self.rank other := by
  unfold rank
  congr 1
  funext key
  rw [Std.TransCmp.congr_right same]

/-- The walk passes the entries by rank: the one in position `i` has `i` smaller keys. -/
theorem stored_at_rank_iff : (∃ k, self.get k = some v ∧ self.rank k = i) ↔
    self.map.toList[i]?.map (·.2) = some v := by
  have positioned {i : ℕ} {key : K} {value : V} (there : self.map.toList[i]? = some (key, value)) :
      self.rank key = i := by
    refine smaller_before_position Std.ExtTreeMap.ordered_keys ?_
    rw [← Std.ExtTreeMap.map_fst_toList_eq_keys, List.getElem?_map, there]
    rfl
  constructor
  · rintro ⟨k, held, rfl⟩
    obtain ⟨key, same, member⟩ :=
      Std.ExtTreeMap.getElem?_eq_some_iff_exists_compare_eq_eq_and_mem_toList.mp held
    obtain ⟨i, there⟩ := List.getElem?_of_mem member
    rw [rank_same_key same, positioned there, there]
    rfl
  · intro found
    obtain ⟨⟨key, value⟩, there, rfl⟩ := Option.map_eq_some_iff.mp found
    refine ⟨key, ?_, positioned there⟩
    exact Std.ExtTreeMap.getElem?_eq_some_iff_exists_compare_eq_eq_and_mem_toList.mpr
      ⟨key, Std.ReflCmp.compare_self, List.mem_of_getElem? there⟩

/-- Every position below the size is the rank of a key. -/
theorem some_key_at_rank (within : i < self.size) : ∃ k v, self.get k = some v ∧ self.rank k = i := by
  have short : i < self.map.toList.length := by
    rw [Std.ExtTreeMap.length_toList]
    exact within
  obtain ⟨k, held, ranked⟩ := stored_at_rank_iff.mpr
    (show self.map.toList[i]?.map (·.2) = some (self.map.toList[i].2) by
      rw [List.getElem?_eq_getElem short]; rfl)
  exact ⟨k, _, held, ranked⟩

/-- There is one value at each rank. -/
theorem same_rank_same_value (held : self.get k = some v) (heldToo : self.get other = some w)
    (ranks : self.rank k = self.rank other) : v = w := by
  have one := stored_at_rank_iff.mp ⟨k, held, rfl⟩
  have two := stored_at_rank_iff.mp ⟨other, heldToo, rfl⟩
  rw [ranks] at one
  exact Option.some.inj (one.symm.trans two)

section Pointers

variable {map : ThreadSafeMap K (Option P)} {v : Option P} {index : Int}

/-- The pointer that `getAt` returns. -/
def foundAt (self : ThreadSafeMap K (Option P)) (index : Int) : Option P := (self.getAt index).join

/-- The stored pointers by ascending key. -/
def values (self : ThreadSafeMap K (Option P)) : List (Option P) := self.map.toList.map (·.2)

/-- `getAt` returns the value under the key of this rank, and `nullptr` when the
index is out of range. -/
structure EnumeratesAt (map : ThreadSafeMap K (Option P)) (index : Int) : Prop where
  within : 0 ≤ index → index < map.size →
    ∃ k v, map.get k = some v ∧ (map.rank k : Int) = index ∧ map.foundAt index = v
  outside : index < 0 ∨ (map.size : Int) ≤ index → map.foundAt index = none

/-- The calls `getAt(0)` to `getAt(n-1)` return the stored values, each once. -/
def VisitsEachValueOnce (map : ThreadSafeMap K (Option P)) : Prop :=
  ((List.range map.size).map fun i : ℕ => map.foundAt i).Perm map.values

theorem found_at_outside (outside : index < 0 ∨ (map.size : Int) ≤ index) : map.foundAt index = none := by
  have answer : map.getAt index = none := if_pos outside
  rw [foundAt, answer]
  rfl

private theorem found_at_zero (held : map.get k = some v) (least : map.rank k = 0) : map.foundAt 0 = v := by
  have first := stored_at_rank_iff.mp ⟨k, held, least⟩
  rw [foundAt, get_at_zero, List.head?_eq_getElem?, first]
  rfl

private theorem found_at_other (apart : index ≠ 0) : map.foundAt index = none := by
  rw [foundAt, get_at_other apart]
  rfl

/-- One index is answered correctly precisely if the walk need not move for it. -/
theorem enumerates_at_iff (map : ThreadSafeMap K (Option P)) (index : Int) :
    EnumeratesAt map index ↔ index ≤ 0 ∨ map.size ≤ index ∨
      ∀ k v, map.get k = some v → (map.rank k : Int) = index → v = none := by
  constructor
  · intro right
    by_cases inside : 0 < index ∧ index < map.size
    · obtain ⟨k, v, held, ranked, found⟩ := right.within (by omega) inside.2
      rw [found_at_other (by omega)] at found
      refine .inr (.inr fun other w heldToo rankedToo => ?_)
      rw [same_rank_same_value heldToo held (by omega), found]
    · omega
  · intro still
    refine ⟨fun nonnegative below => ?_, found_at_outside⟩
    have inside : index.toNat < map.size := by omega
    obtain ⟨k, v, held, ranked⟩ := some_key_at_rank inside
    refine ⟨k, v, held, by omega, ?_⟩
    by_cases first : index = 0
    · subst first
      exact found_at_zero held ranked
    · rcases still with low | high | null
      · omega
      · omega
      · rw [found_at_other first, null k v held (by omega)]

/-- The first value, and `nullptr` in place of every other one. -/
theorem visited_values (map : ThreadSafeMap K (Option P)) :
    ((List.range map.size).map fun i : ℕ => map.foundAt i) =
      map.values.take 1 ++ (map.values.drop 1).map fun _ => none := by
  have length : map.values.length = map.size := by
    rw [values, List.length_map, Std.ExtTreeMap.length_toList]
    rfl
  have first : map.foundAt 0 = map.values.head?.join := by
    rw [foundAt, get_at_zero, values, List.head?_map]
  rw [← length]
  generalize map.values = stored at first
  apply List.ext_getElem
  · simp only [List.length_map, List.length_range, List.length_append, List.length_take, List.length_drop]
    omega
  · intro i _ short
    cases i with
    | zero =>
      cases stored with
      | nil => simp at short
      | cons least rest => simpa using first
    | succ i =>
      have beyond : (stored.take 1).length ≤ i + 1 := by
        rw [List.length_take]
        omega
      rw [List.getElem_append_right beyond]
      simpa using found_at_other (by omega)

/-- All the calls together visit every value once precisely if only the value
under the least key may be anything but `nullptr`. -/
theorem visits_each_value_iff (map : ThreadSafeMap K (Option P)) :
    VisitsEachValueOnce map ↔ ∀ k v, map.get k = some v → 0 < map.rank k → v = none := by
  rw [VisitsEachValueOnce, visited_values]
  conv => enter [1, 2]; rw [← List.take_append_drop 1 map.values]
  rw [List.perm_append_left_iff]
  have behind {v : Option P} : v ∈ map.values.drop 1 ↔ ∃ k, map.get k = some v ∧ 0 < map.rank k := by
    rw [List.mem_iff_getElem?]
    constructor
    · rintro ⟨i, there⟩
      rw [List.getElem?_drop, values, List.getElem?_map] at there
      obtain ⟨k, held, ranked⟩ := stored_at_rank_iff.mpr there
      exact ⟨k, held, by omega⟩
    · rintro ⟨k, held, later⟩
      refine ⟨map.rank k - 1, ?_⟩
      rw [List.getElem?_drop, values, List.getElem?_map, show 1 + (map.rank k - 1) = map.rank k by omega]
      exact stored_at_rank_iff.mp ⟨k, held, rfl⟩
  constructor
  · intro same k v held later
    have null := same.symm.subset (behind.mpr ⟨k, held, later⟩)
    simp only [List.mem_map] at null
    obtain ⟨_, _, rfl⟩ := null
    rfl
  · intro null
    have nulls : ∀ v ∈ map.values.drop 1, v = none := by
      intro v member
      obtain ⟨k, held, later⟩ := behind.mp member
      exact null k v held later
    rw [List.map_const', ← List.eq_replicate_of_mem nulls]

/-- **Enumeration.** For every map and index, `getAt` is right precisely if the
index is not behind the first entry or the pointer there is null; and the
positions together give every value once precisely if all pointers but the first
are null. -/
theorem get_at_enumerates_iff (map : ThreadSafeMap K (Option P)) :
    (∀ index : Int, EnumeratesAt map index ↔ index ≤ 0 ∨ map.size ≤ index ∨
      ∀ k v, map.get k = some v → (map.rank k : Int) = index → v = none) ∧
    (VisitsEachValueOnce map ↔ ∀ k v, map.get k = some v → 0 < map.rank k → v = none) :=
  ⟨enumerates_at_iff map, visits_each_value_iff map⟩

/-- Two keys, put in the wrong order. -/
def nullBehindStream : ThreadSafeMap UInt64 (Option ℕ) := (ThreadSafeMap.put ⟨∅⟩ 9 none).put 5 (some 1)

/-- With a null pointer behind the stream both positions and every value are found. -/
theorem null_behind_stream_enumerated :
    EnumeratesAt nullBehindStream 0 ∧ EnumeratesAt nullBehindStream 1 ∧ VisitsEachValueOnce nullBehindStream := by
  have free : (ThreadSafeMap.put ⟨∅⟩ (9 : UInt64) (none : Option ℕ)).get 5 = none := by
    rw [get_put_other (by decide), get_empty]
  have behind (k : UInt64) (v : Option ℕ) (held : nullBehindStream.get k = some v)
      (later : 0 < nullBehindStream.rank k) : v = none := by
    rw [nullBehindStream, get_put_free free, get_put_free (get_empty 9), get_empty] at held
    split at held
    · rename_i same
      have least : nullBehindStream.rank 5 = 0 := by decide
      rw [← rank_same_key same, least] at later
      exact absurd later (lt_irrefl 0)
    · split at held <;> cases held
      rfl
  obtain ⟨found, visited⟩ := get_at_enumerates_iff nullBehindStream
  refine ⟨(found 0).mpr (.inl (by omega)), (found 1).mpr (.inr (.inr fun k v held second => ?_)),
    visited.mpr behind⟩
  exact behind k v held (by omega)

/-- Of two streams the second is never found. -/
theorem second_stream_not_found :
    ¬ EnumeratesAt ((ThreadSafeMap.put ⟨∅⟩ (5 : UInt64) (some 1)).put 9 (some 2)) 1 := by
  intro right
  have free : (ThreadSafeMap.put ⟨∅⟩ (5 : UInt64) (some 1)).get 9 = none := by
    rw [get_put_other (by decide), get_empty]
  have two : ((ThreadSafeMap.put ⟨∅⟩ (5 : UInt64) (some 1)).put 9 (some 2)).size = 2 := by
    rw [size_put free, size_put (get_empty 5)]
    rfl
  obtain ⟨k, v, held, _, found⟩ := right.within (by omega) (by omega)
  rw [found_at_other (by omega)] at found
  cases found
  rw [get_put_free free, get_put_free (get_empty 5), get_empty] at held
  split at held
  · cases held
  · split at held
    · cases held
    · cases held

end Pointers

end ThreadSafeMap
end KvsProducer
