import KvsProducer.Runs
import KvsProducer.ThreadSafeMap

/-! What a `ThreadSafeMap` of pointers answers after any history of calls, compared
with the last write to a key in that history. Keys are the same when neither
comes before the other, as for every `std::map`. -/
namespace KvsProducer
open Runs

namespace ThreadSafeMap

/-! ## Histories -/

/-- One call. Each is atomic under the mutex, so the calls of all threads have one order. -/
inductive Operation (K V : Type) where
  | put (k : K) (v : V)
  | get (k : K)
  | remove (k : K)
  | exists' (k : K)
  deriving DecidableEq, Repr

def Operation.key : Operation K V → K
  | .put k _ => k
  | .get k => k
  | .remove k => k
  | .exists' k => k

section Histories

variable {K V : Type} [Ord K] {history : List (Operation K V)} {operation : Operation K V} {k : K} {v : V}

/-- A put or a removal of this key. -/
def Operation.Writes (operation : Operation K V) (k : K) : Prop :=
  match operation with
  | .put key _ => compare key k = .eq
  | .remove key => compare key k = .eq
  | _ => False

/-- The value of the most recent put of the key, where no removal followed. It is
read off the history and asks no map. -/
def LastPut (history : List (Operation K V)) (k : K) (v : V) : Prop :=
  ∃ before key after, history = before ++ .put key v :: after ∧ compare key k = .eq ∧
    ∀ operation ∈ after, ¬ operation.Writes k

theorem no_last_put_at_first : ¬ LastPut ([] : List (Operation K V)) k v := by
  rintro ⟨before, key, after, split, _⟩
  simp at split

theorem last_put_snoc : LastPut (history ++ [operation]) k v ↔
    (∃ key, operation = .put key v ∧ compare key k = .eq) ∨
      (¬ operation.Writes k ∧ LastPut history k v) := by
  constructor
  · rintro ⟨before, key, after, split, same, untouched⟩
    obtain rfl | ⟨middle, last, rfl⟩ := List.eq_nil_or_concat after
    · obtain ⟨_, final⟩ := List.append_inj' split rfl
      cases final
      exact .inl ⟨key, rfl, same⟩
    · rw [List.concat_eq_append, ← List.cons_append, ← List.append_assoc] at split
      obtain ⟨rfl, final⟩ := List.append_inj' split rfl
      cases final
      refine .inr ⟨untouched _ (by simp), before, key, middle, rfl, same, fun each member => ?_⟩
      exact untouched each (by simp [member])
  · rintro (⟨key, rfl, same⟩ | ⟨untouched, before, key, after, rfl, same, later⟩)
    · exact ⟨history, key, [], rfl, same, by simp⟩
    · refine ⟨before, key, after ++ [operation], by simp, same, fun each member => ?_⟩
      rcases List.mem_append.mp member with earlier | last
      · exact later each earlier
      · cases List.mem_singleton.mp last
        exact untouched

end Histories

/-! ## The map -/

variable {K P : Type} [Ord K] [Std.TransOrd K]

section Keys

variable {V : Type} {self : ThreadSafeMap K V} {k other : K}

/-- What `exists` returns under the mutex. -/
def contains (self : ThreadSafeMap K V) (k : K) : Bool := self.map.contains k

theorem contains_iff : self.contains k = true ↔ ∃ v, self.get k = some v := by
  rw [contains, Std.ExtTreeMap.contains_eq_isSome_getElem?, Option.isSome_iff_exists]
  rfl

theorem get_same_key (same : compare k other = .eq) : self.get k = self.get other :=
  Std.ExtTreeMap.getElem?_congr same

theorem get_put_free (free : self.get k = none) (v : V) (other : K) :
    (self.put k v).get other = if compare k other = .eq then some v else self.get other := by
  have missing : k ∉ self.map := by
    rw [← Std.ExtTreeMap.isSome_getElem?_iff_mem]
    simp [show self.map[k]? = none from free]
  rw [get, put, Std.ExtTreeMap.getElem?_insertIfNew]
  simp only [missing, not_false_eq_true, and_true]
  rfl

theorem get_removed (self : ThreadSafeMap K V) (k other : K) :
    (self.remove k).get other = if compare k other = .eq then none else self.get other :=
  Std.ExtTreeMap.getElem?_erase

end Keys

/-- The pointer that `get` returns: `nullptr` for a key that is not there. -/
def found (self : ThreadSafeMap K (Option P)) (k : K) : Option P := (self.get k).join

def Operation.apply (self : ThreadSafeMap K (Option P)) : Operation K (Option P) → ThreadSafeMap K (Option P)
  | .put k v => self.put k v
  | .remove k => self.remove k
  | .get _ => self
  | .exists' _ => self

/-- A map beside the calls that were made on it. -/
structure Recorded (K P : Type) [Ord K] [Std.TransOrd K] where
  map : ThreadSafeMap K (Option P) := ⟨∅⟩
  history : List (Operation K (Option P)) := []

def record (state : Recorded K P) (operation : Operation K (Option P)) : Option (Recorded K P) :=
  some ⟨operation.apply state.map, state.history ++ [operation]⟩

/-- What a finite map with last-write-wins answers. -/
structure LastWriteWins (state : Recorded K P) : Prop where
  written : ∀ k v, LastPut state.history k v → state.map.found k = v
  missing : ∀ k, (∀ v, ¬ LastPut state.history k v) → state.map.found k = none
  present : ∀ k, state.map.contains k = true ↔ ∃ v, LastPut state.history k v

/-- The call changes no answer about another key. -/
def LeavesOtherKeys (state : Recorded K P) (operation : Operation K (Option P)) : Prop :=
  ∀ k, compare operation.key k ≠ .eq →
    (operation.apply state.map).found k = state.map.found k ∧
    (operation.apply state.map).contains k = state.map.contains k

/-- A value is put where none is held, or where this very value is held. -/
def PutsFreely (state : Recorded K P) : Operation K (Option P) → Prop
  | .put k v => ∀ held, state.map.get k = some held → held = v
  | _ => True

variable {state next : Recorded K P} {operation : Operation K (Option P)} {k : K} {v : Option P}

/-- The entries are the last writes. -/
def HoldsLastPuts (state : Recorded K P) : Prop :=
  ∀ k v, state.map.get k = some v ↔ LastPut state.history k v

theorem last_write_wins_of_entries (entries : HoldsLastPuts state) : LastWriteWins state where
  written k v last := by rw [found, (entries k v).mpr last]; rfl
  missing k none := by
    cases held : state.map.get k with
    | none => rw [found, held]; rfl
    | some v => exact absurd ((entries k v).mp held) (none v)
  present k := by
    rw [contains_iff]
    exact exists_congr fun v => entries k v

theorem entries_of_last_write_wins (wins : LastWriteWins state) : HoldsLastPuts state := by
  intro k v
  constructor
  · intro held
    obtain ⟨last, put⟩ := (wins.present k).mp (contains_iff.mpr ⟨v, held⟩)
    have answer := wins.written k last put
    rw [found, held] at answer
    cases answer
    exact put
  · intro put
    obtain ⟨held, here⟩ := contains_iff.mp ((wins.present k).mpr ⟨v, put⟩)
    have answer := wins.written k v put
    rw [found, here] at answer
    cases answer
    exact here

theorem get_apply_put_freely (freely : PutsFreely state (.put k v)) (other : K) :
    (state.map.put k v).get other = if compare k other = .eq then some v else state.map.get other := by
  cases held : state.map.get k with
  | none => exact get_put_free held v other
  | some old =>
    cases freely old held
    rw [get_put_taken held]
    split
    · rename_i same
      rw [← get_same_key same, held]
    · rfl

/-- One call keeps the map at the last writes precisely if it does not put over
another value. -/
theorem entries_kept_iff (entries : HoldsLastPuts state) (taken : record state operation = some next) :
    HoldsLastPuts next ↔ PutsFreely state operation := by
  cases taken
  cases operation with
  | put k v =>
    constructor
    · intro after held here
      have put : LastPut (state.history ++ [.put k v]) k v :=
        last_put_snoc.mpr (.inl ⟨k, rfl, Std.ReflCmp.compare_self⟩)
      have kept : (state.map.put k v).get k = some held := (get_put_taken here v k).trans here
      cases kept.symm.trans ((after k v).mpr put)
      rfl
    · intro freely other value
      change (state.map.put k v).get other = some value ↔ _
      rw [get_apply_put_freely freely, last_put_snoc]
      by_cases same : compare k other = .eq
      · simp [same, Operation.Writes]
      · simp [same, Operation.Writes, entries other value]
  | remove k =>
    refine iff_of_true (fun other value => ?_) trivial
    change (state.map.remove k).get other = some value ↔ _
    rw [get_removed, last_put_snoc]
    by_cases same : compare k other = .eq
    · simp [same, Operation.Writes]
    · simp [same, Operation.Writes, entries other value]
  | get | exists' =>
    refine iff_of_true (fun other value => ?_) trivial
    change state.map.get other = some value ↔ _
    rw [last_put_snoc]
    simpa [Operation.Writes] using entries other value

theorem other_keys_left (state : Recorded K P) (operation : Operation K (Option P)) :
    LeavesOtherKeys state operation := by
  intro k apart
  have same : (operation.apply state.map).get k = state.map.get k := by
    cases operation with
    | put key v =>
      cases held : state.map.get key with
      | none => exact (get_put_free held v k).trans (if_neg apart)
      | some old => exact get_put_taken held v k
    | remove key => exact (get_removed state.map key k).trans (if_neg apart)
    | get | exists' => rfl
  refine ⟨by rw [found, same, found], Bool.eq_iff_iff.mpr ?_⟩
  rw [contains_iff, contains_iff, same]

/-- **Last write wins.** After every history of calls the map answers by the last
write to each key precisely if no value was ever put over a different one. The
answers for other keys are never touched. -/
theorem last_write_wins_iff (operations : List (Operation K (Option P))) :
    (Throughout record LastWriteWins ({} : Recorded K P) operations ∧
      EachStep record LeavesOtherKeys ({} : Recorded K P) operations) ↔
    EachStep record PutsFreely ({} : Recorded K P) operations := by
  rw [and_iff_left (each_step_of_forall other_keys_left)]
  have keeps : ∀ (state : Recorded K P) operation next, True → record state operation = some next → True :=
    fun _ _ _ _ _ => trivial
  refine throughout_iff_each_step keeps (fun state operation next _ wins taken => ?_) trivial ?_
  · rw [← entries_kept_iff (entries_of_last_write_wins wins) taken]
    exact ⟨entries_of_last_write_wins, last_write_wins_of_entries⟩
  · exact last_write_wins_of_entries fun k v => iff_of_false (by simp) no_last_put_at_first

/-- A handle that is put twice with one pointer, removed, and used again for another. -/
theorem removed_handle_wins_again :
    (Throughout record LastWriteWins ({} : Recorded UInt64 ℕ)
        [.put 5 (some 1), .put 5 (some 1), .remove 5, .put 5 (some 2)] ∧
      EachStep record LeavesOtherKeys ({} : Recorded UInt64 ℕ)
        [.put 5 (some 1), .put 5 (some 1), .remove 5, .put 5 (some 2)]) := by
  apply (last_write_wins_iff _).mpr
  rintro _ ⟨⟩
  refine ⟨fun held here => by simp at here, ?_⟩
  rintro _ ⟨⟩
  refine ⟨fun held here => ?_, ?_⟩
  · cases (get_put (get_empty 5) (some 1)).symm.trans here
    rfl
  rintro _ ⟨⟩
  refine ⟨trivial, ?_⟩
  rintro _ ⟨⟩
  refine ⟨fun held here => ?_, trivial⟩
  cases (get_remove _ 5).symm.trans here

/-- The second put is lost without a sign. -/
theorem second_put_is_lost :
    ¬ Throughout record LastWriteWins ({} : Recorded UInt64 ℕ) [.put 5 (some 1), .put 5 (some 2)] := by
  intro always
  have wins : LastWriteWins _ := (always.2 _ rfl).2 _ rfl
  have answer := wins.written 5 (some 2) ⟨[.put 5 (some 1)], 5, [], rfl, rfl, by simp⟩
  have first : (ThreadSafeMap.put ⟨∅⟩ 5 (some 1)).get (5 : UInt64) = some (some 1) := get_put (get_empty 5) _
  have kept : (((ThreadSafeMap.put ⟨∅⟩ 5 (some 1)).put 5 (some 2)).get (5 : UInt64)) = some (some 1) :=
    (get_put_taken first _ _).trans first
  rw [found] at answer
  cases (congrArg Option.join kept).symm.trans answer

end ThreadSafeMap
end KvsProducer
