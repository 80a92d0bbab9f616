import Mathlib.Data.List.Induction
import KvsProducer.History

/-! Resources that are held by one owner at a time. A record of takings and
returns says who holds what; it is lawful when only free resources are taken, no
owner takes one twice, and only the holder returns it. A lawful record accounts
for every taking: it is still held, or it was returned, once. -/
namespace KvsProducer.Leases
open History

variable {Owner Resource : Type*}

inductive Turn (Owner Resource : Type*) where
  | taken (owner : Owner) (resource : Resource)
  | returned (owner : Owner) (resource : Resource)
  deriving DecidableEq, Repr

variable [DecidableEq Resource]

/-- Who holds a resource after one more turn. -/
def heldAfter (held : Resource → Option Owner) : Turn Owner Resource → Resource → Option Owner
  | .taken owner taken, resource => if resource = taken then some owner else held resource
  | .returned _ back, resource => if resource = back then none else held resource

/-- Who holds a resource after these turns. -/
def holder (turns : List (Turn Owner Resource)) : Resource → Option Owner :=
  turns.foldl heldAfter fun _ => none

/-- The turn is in order after these turns. -/
def InOrder (before : List (Turn Owner Resource)) : Turn Owner Resource → Prop
  | .taken owner resource => holder before resource = none ∧ .taken owner resource ∉ before
  | .returned owner resource => holder before resource = some owner

abbrev Lawful (turns : List (Turn Owner Resource)) : Prop := EachEntry InOrder turns

variable {turns : List (Turn Owner Resource)} {owner : Owner} {resource other : Resource}


theorem holder_snoc (turns : List (Turn Owner Resource)) (turn : Turn Owner Resource) :
    holder (turns ++ [turn]) = heldAfter (holder turns) turn := by
  rw [holder, List.foldl_append]
  rfl

theorem holder_taken (turns : List (Turn Owner Resource)) (owner : Owner) (resource : Resource) :
    holder (turns ++ [.taken owner resource]) resource = some owner := by
  rw [holder_snoc]
  exact if_pos rfl

theorem holder_returned (turns : List (Turn Owner Resource)) (owner : Owner) (resource : Resource) :
    holder (turns ++ [.returned owner resource]) resource = none := by
  rw [holder_snoc]
  exact if_pos rfl

theorem holder_taken_other (turns : List (Turn Owner Resource)) (owner : Owner) (apart : other ≠ resource) :
    holder (turns ++ [.taken owner resource]) other = holder turns other := by
  rw [holder_snoc]
  exact if_neg apart

theorem holder_returned_other (turns : List (Turn Owner Resource)) (owner : Owner) (apart : other ≠ resource) :
    holder (turns ++ [.returned owner resource]) other = holder turns other := by
  rw [holder_snoc]
  exact if_neg apart

theorem lawful_nil : Lawful ([] : List (Turn Owner Resource)) := each_entry_nil

/-- A lawful record stays lawful by a turn that is in order. -/
theorem Lawful.snoc (lawful : Lawful turns) (inOrder : InOrder turns turn) : Lawful (turns ++ [turn]) :=
  EachEntry.snoc lawful inOrder

theorem Lawful.earlier (lawful : Lawful (turns ++ [turn])) : Lawful turns ∧ InOrder turns turn := by
  refine ⟨fun before entry after split => ?_, lawful turns turn [] rfl⟩
  subst split
  apply lawful before entry (after ++ [turn])
  rw [List.append_assoc, List.cons_append]

variable [DecidableEq Owner]

/-- Every taking is on record at most once, and its return once unless it is still held. -/
structure Accounted (turns : List (Turn Owner Resource)) (owner : Owner) (resource : Resource) : Prop where
  taken : turns.count (.taken owner resource) ≤ 1
  returned : turns.count (.returned owner resource) + (if holder turns resource = some owner then 1 else 0) =
    turns.count (.taken owner resource)

theorem lawful_accounts (lawful : Lawful turns) (owner : Owner) (resource : Resource) :
    Accounted turns owner resource := by
  induction turns using List.reverseRecOn with
  | nil => exact ⟨Nat.zero_le _, rfl⟩
  | append_singleton turns turn ih =>
    obtain ⟨earlier, inOrder⟩ := lawful.earlier
    obtain ⟨once, back⟩ := ih earlier
    cases turn with
    | taken taker given =>
      obtain ⟨free, fresh⟩ := inOrder
      by_cases here : resource = given
      · subst here
        have unheld : ¬ holder turns resource = some owner := by simp [free]
        by_cases mine : taker = owner
        · subst mine
          have none := List.count_eq_zero.mpr fresh
          constructor
          · simp [List.count_append, none]
          · simp [List.count_append, holder_taken, none, unheld] at back ⊢
            omega
        · constructor
          · simpa [List.count_append, mine] using once
          · simpa [List.count_append, holder_taken, mine, unheld] using back
      · have still := holder_taken_other turns taker here
        constructor
        · simpa [List.count_append, Ne.symm here] using once
        · simpa [List.count_append, still, Ne.symm here] using back
    | returned giver given =>
      have held : holder turns given = some giver := inOrder
      constructor
      · simpa [List.count_append] using once
      · by_cases here : resource = given
        · subst here
          by_cases mine : giver = owner
          · subst mine
            simpa [List.count_append, holder_returned, held] using back
          · simpa [List.count_append, holder_returned, held, mine] using back
        · have still := holder_returned_other turns giver here
          simpa [List.count_append, still, Ne.symm here] using back

/-- Every taking was given back once, when nothing is held any more. -/
theorem Lawful.all_returned (lawful : Lawful turns) (free : ∀ resource, holder turns resource = none)
    (taken : .taken owner resource ∈ turns) :
    turns.count (.taken owner resource) = 1 ∧ turns.count (.returned owner resource) = 1 := by
  obtain ⟨once, back⟩ := lawful_accounts lawful owner resource
  rw [if_neg (by simp [free])] at back
  have some := List.count_pos_iff.mpr taken
  omega

end KvsProducer.Leases
