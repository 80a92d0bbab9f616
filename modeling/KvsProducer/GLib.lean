import Mathlib.Data.Multiset.Basic
import Mathlib.Data.Multiset.MapFold
import Mathlib.Data.Multiset.UnionInter
import Mathlib.Data.Multiset.ZeroCons

/-! Strings owned by C fields. Every `g_strdup` or `g_strjoin` hands out an
address never used before, `g_free` retires it, and touching a retired address
is recorded as a fault instead of being given a meaning. -/
namespace KvsProducer.GLib

/-- The block one `g_strdup` or `g_strjoin` returns, with the characters kept there. -/
structure GString where
  address : ℕ
  text : String
  deriving DecidableEq, Repr

/-- A `gchar *` field, which may be NULL. -/
abbrev GCharPtr := Option GString

inductive MemoryFault where
  | doubleFree (address : ℕ)
  | readAfterFree (address : ℕ)
  deriving DecidableEq, Repr

structure Heap where
  next : ℕ := 0
  freed : List ℕ := []
  faults : List MemoryFault := []
  deriving DecidableEq, Repr

def gStrdup (heap : Heap) (text : String) : GString × Heap :=
  (⟨heap.next, text⟩, { heap with next := heap.next + 1 })

/-- `g_free` ignores NULL. -/
def gFree (heap : Heap) : GCharPtr → Heap
  | none => heap
  | some string =>
    if string.address ∈ heap.freed then
      { heap with faults := heap.faults ++ [.doubleFree string.address] }
    else { heap with freed := string.address :: heap.freed }

/-- Copying the characters out of a non-NULL pointer, as `std::string(pointer)`
does. A released block holds whatever its next user left there: the residue. -/
def readString (heap : Heap) (residue : String) (string : GString) : String × Heap :=
  if string.address ∈ heap.freed then
    (residue, { heap with faults := heap.faults ++ [.readAfterFree string.address] })
  else (string.text, heap)

@[simp] theorem free_null (heap : Heap) : gFree heap none = heap := rfl

/-! ## Ownership -/

/-- The blocks behind a pointer. -/
def blocksOf : GCharPtr → Multiset GString
  | none => 0
  | some string => {string}

@[simp] theorem blocks_of_some (string : GString) : blocksOf (some string) = {string} := rfl
@[simp] theorem blocks_of_none : blocksOf none = 0 := rfl

/-- These blocks are allocated, each once, and nothing has gone wrong so far. -/
structure Owned (heap : Heap) (blocks : Multiset GString) : Prop where
  apart : (blocks.map GString.address).Nodup
  handedOut : ∀ block ∈ blocks, block.address < heap.next
  held : ∀ block ∈ blocks, block.address ∉ heap.freed
  retired : ∀ address ∈ heap.freed, address < heap.next
  noFault : heap.faults = []

theorem Owned.mono (owned : Owned heap blocks) (fewer : few ≤ blocks) : Owned heap few where
  apart := Multiset.nodup_of_le (Multiset.map_le_map fewer) owned.apart
  handedOut block member := owned.handedOut block (Multiset.mem_of_le fewer member)
  held block member := owned.held block (Multiset.mem_of_le fewer member)
  retired := owned.retired
  noFault := owned.noFault

theorem Owned.strdup (owned : Owned heap blocks) (text : String) :
    Owned (gStrdup heap text).2 ({(gStrdup heap text).1} + blocks) := by
  constructor
  · rw [Multiset.singleton_add, Multiset.map_cons, Multiset.nodup_cons]
    refine ⟨fun member => ?_, owned.apart⟩
    obtain ⟨block, inside, same⟩ := Multiset.mem_map.mp member
    exact Nat.ne_of_lt (owned.handedOut block inside) same
  · intro block member
    rcases Multiset.mem_add.mp member with new | old
    · cases Multiset.mem_singleton.mp new
      exact Nat.lt_succ_self _
    · exact Nat.lt_succ_of_lt (owned.handedOut block old)
  · intro block member freed
    rcases Multiset.mem_add.mp member with new | old
    · cases Multiset.mem_singleton.mp new
      exact Nat.lt_irrefl _ (owned.retired _ freed)
    · exact owned.held block old freed
  · intro address freed
    exact Nat.lt_succ_of_lt (owned.retired address freed)
  · exact owned.noFault

/-- Releasing a block gives up the right to it, and to nothing else. -/
theorem Owned.free (owned : Owned heap ({block} + blocks)) : Owned (gFree heap (some block)) blocks := by
  have mine : block ∈ {block} + blocks := Multiset.mem_add.mpr (.inl (Multiset.mem_singleton_self _))
  have released : gFree heap (some block) = { heap with freed := block.address :: heap.freed } := by
    simp [gFree, owned.held block mine]
  have apart := owned.apart
  rw [Multiset.singleton_add, Multiset.map_cons, Multiset.nodup_cons] at apart
  have rest (other : GString) (member : other ∈ blocks) : other ∈ {block} + blocks :=
    Multiset.mem_add.mpr (.inr member)
  rw [released]
  constructor
  · exact apart.2
  · intro other member
    exact owned.handedOut other (rest other member)
  · intro other member freed
    rcases List.mem_cons.mp freed with same | before
    · exact apart.1 (Multiset.mem_map.mpr ⟨other, member, same⟩)
    · exact owned.held other (rest other member) before
  · intro address freed
    rcases List.mem_cons.mp freed with rfl | before
    · exact owned.handedOut block mine
    · exact owned.retired address before
  · exact owned.noFault

theorem Owned.free_pointer (owned : Owned heap (blocksOf pointer + blocks)) :
    Owned (gFree heap pointer) blocks := by
  cases pointer with
  | none => simpa using owned
  | some block => exact owned.free

/-- An owned block reads as it was written. -/
theorem Owned.read (owned : Owned heap blocks) (member : block ∈ blocks) (residue : String) :
    readString heap residue block = (block.text, heap) := by
  simp [readString, owned.held block member]

/-! ## Ownership lost -/

/-- What was released stays released, and what went wrong cannot be undone. -/
structure Later (before after : Heap) : Prop where
  freed : ∀ address ∈ before.freed, address ∈ after.freed
  faults : before.faults ≠ [] → after.faults ≠ []

theorem Later.refl (heap : Heap) : Later heap heap := ⟨fun _ => id, id⟩

theorem Later.trans (first : Later before middle) (second : Later middle after) : Later before after :=
  ⟨fun address member => second.freed address (first.freed address member), second.faults ∘ first.faults⟩

theorem free_later (heap : Heap) (pointer : GCharPtr) : Later heap (gFree heap pointer) := by
  cases pointer with
  | none => exact ⟨fun _ => id, id⟩
  | some block =>
    simp only [gFree]
    split
    · exact ⟨fun _ => id, fun _ => by simp⟩
    · exact ⟨fun _ => List.mem_cons_of_mem _, id⟩

theorem strdup_later (heap : Heap) (text : String) : Later heap (gStrdup heap text).2 := ⟨fun _ => id, id⟩

theorem read_later (heap : Heap) (residue : String) (block : GString) :
    Later heap (readString heap residue block).2 := by
  unfold readString
  split
  · exact ⟨fun _ => id, fun _ => by simp⟩
  · exact ⟨fun _ => id, id⟩

/-- The block behind the pointer has been released. -/
def Released (heap : Heap) (pointer : GCharPtr) : Prop :=
  ∃ block, pointer = some block ∧ block.address ∈ heap.freed

/-- Two fields that cannot both release what they point to any more. -/
def Doomed (heap : Heap) (one other : GCharPtr) : Prop :=
  heap.faults ≠ [] ∨ Released heap one ∨ Released heap other ∨
    ∃ mine yours, one = some mine ∧ other = some yours ∧ mine.address = yours.address

theorem Released.later (released : Released before pointer) (later : Later before after) :
    Released after pointer := by
  obtain ⟨block, same, member⟩ := released
  exact ⟨block, same, later.freed _ member⟩

theorem Doomed.later (doomed : Doomed before one other) (later : Later before after) :
    Doomed after one other :=
  doomed.imp later.faults (Or.imp (·.later later) (Or.imp_left (·.later later)))

theorem Doomed.symm (doomed : Doomed heap one other) : Doomed heap other one := by
  rcases doomed with fault | mine | yours | ⟨mine, yours, one, other, same⟩
  · exact .inl fault
  · exact .inr (.inr (.inl mine))
  · exact .inr (.inl yours)
  · exact .inr (.inr (.inr ⟨yours, mine, other, one, same.symm⟩))

theorem free_released (released : Released heap pointer) : (gFree heap pointer).faults ≠ [] := by
  obtain ⟨block, rfl, member⟩ := released
  simp [gFree, member]

theorem read_released (freed : block.address ∈ heap.freed) (residue : String) :
    (readString heap residue block).2.faults ≠ [] := by
  simp [readString, freed]

/-- When one of the two is released, nothing can go well with the other. -/
theorem Doomed.free (doomed : Doomed heap one other) :
    (gFree heap one).faults ≠ [] ∨ Released (gFree heap one) other := by
  have later := free_later heap one
  rcases doomed with fault | mine | yours | ⟨mine, yours, rfl, rfl, same⟩
  · exact .inl (later.faults fault)
  · exact .inl (free_released mine)
  · exact .inr (yours.later later)
  · refine .inr ⟨yours, rfl, ?_⟩
    rw [← same]
    simp only [gFree]
    split
    · assumption
    · exact List.mem_cons_self

/-- What an owner has is not lost. -/
theorem Owned.not_doomed (owned : Owned heap (blocksOf one + (blocksOf other + blocks))) :
    ¬ Doomed heap one other := by
  rintro (fault | ⟨block, rfl, member⟩ | ⟨block, rfl, member⟩ | ⟨mine, yours, rfl, rfl, same⟩)
  · exact fault owned.noFault
  · exact owned.held block (by simp) member
  · exact owned.held block (by simp) member
  · have apart := owned.apart
    simp [same] at apart

/-! ## Blocks beside foreign pointers -/

/-- These blocks are allocated, each once, and the foreign pointers, which may have
been released, point to none of them. -/
structure HeldBeside (heap : Heap) (blocks foreign : Multiset GString) : Prop where
  apart : (blocks.map GString.address).Nodup
  held : ∀ block ∈ blocks, block.address ∉ heap.freed
  handedOut : ∀ block ∈ blocks + foreign, block.address < heap.next
  retired : ∀ address ∈ heap.freed, address < heap.next
  strange : ∀ block ∈ blocks, ∀ other ∈ foreign, block.address ≠ other.address

theorem HeldBeside.mono (beside : HeldBeside heap blocks foreign) (fewer : few ≤ blocks)
    (known : ∀ other ∈ strangers, other ∈ foreign) : HeldBeside heap few strangers where
  apart := Multiset.nodup_of_le (Multiset.map_le_map fewer) beside.apart
  held block member := beside.held block (Multiset.mem_of_le fewer member)
  handedOut block member := beside.handedOut block <| Multiset.mem_add.mpr <|
    (Multiset.mem_add.mp member).imp (Multiset.mem_of_le fewer) (known block)
  retired := beside.retired
  strange block member other inside :=
    beside.strange block (Multiset.mem_of_le fewer member) other (known other inside)

theorem HeldBeside.strdup (beside : HeldBeside heap blocks foreign) (text : String) :
    HeldBeside (gStrdup heap text).2 ({(gStrdup heap text).1} + blocks) foreign := by
  have new (other : GString) (member : other ∈ blocks + foreign) :
      (gStrdup heap text).1.address ≠ other.address := (Nat.ne_of_lt (beside.handedOut other member)).symm
  constructor
  · rw [Multiset.singleton_add, Multiset.map_cons, Multiset.nodup_cons]
    refine ⟨fun member => ?_, beside.apart⟩
    obtain ⟨block, inside, same⟩ := Multiset.mem_map.mp member
    exact new block (Multiset.mem_add.mpr (.inl inside)) same.symm
  · intro block member freed
    rcases Multiset.mem_add.mp member with fresh | old
    · cases Multiset.mem_singleton.mp fresh
      exact Nat.lt_irrefl _ (beside.retired _ freed)
    · exact beside.held block old freed
  · intro block member
    rw [Multiset.add_assoc] at member
    rcases Multiset.mem_add.mp member with fresh | old
    · cases Multiset.mem_singleton.mp fresh
      exact Nat.lt_succ_self _
    · exact Nat.lt_succ_of_lt (beside.handedOut block old)
  · exact fun address freed => Nat.lt_succ_of_lt (beside.retired address freed)
  · intro block member other inside
    rcases Multiset.mem_add.mp member with fresh | old
    · cases Multiset.mem_singleton.mp fresh
      exact new other (Multiset.mem_add.mpr (.inr inside))
    · exact beside.strange block old other inside

/-- A block may be left to the foreign pointers. -/
theorem HeldBeside.give_away (beside : HeldBeside heap ({block} + blocks) foreign) :
    HeldBeside heap blocks ({block} + foreign) where
  apart := (beside.mono (Multiset.le_add_left _ _) fun _ => id).apart
  held := (beside.mono (Multiset.le_add_left _ _) fun _ => id).held
  handedOut other member := beside.handedOut other (by
    simp only [Multiset.mem_add] at member ⊢
    exact or_assoc.mpr (or_left_comm.mp member))
  retired := beside.retired
  strange mine member other inside same := by
    rcases Multiset.mem_add.mp inside with given | before
    · cases Multiset.mem_singleton.mp given
      have apart := beside.apart
      rw [Multiset.singleton_add, Multiset.map_cons, Multiset.nodup_cons] at apart
      exact apart.1 (Multiset.mem_map.mpr ⟨mine, member, same⟩)
    · exact beside.strange mine (Multiset.mem_add.mpr (.inr member)) other before same

theorem HeldBeside.free_pointer (beside : HeldBeside heap (blocksOf pointer + blocks) foreign) :
    HeldBeside (gFree heap pointer) blocks foreign ∧ (gFree heap pointer).faults = heap.faults := by
  cases pointer with
  | none => exact ⟨by simpa using beside, rfl⟩
  | some block =>
    have mine : block ∈ blocksOf (some block) + blocks := by simp
    have given := HeldBeside.give_away beside
    have released : gFree heap (some block) = { heap with freed := block.address :: heap.freed } := by
      simp [gFree, beside.held block mine]
    rw [released]
    refine ⟨⟨given.apart, ?_, ?_, ?_, ?_⟩, rfl⟩
    · intro other member freed
      rcases List.mem_cons.mp freed with same | before
      · exact given.strange other member block (by simp) same
      · exact given.held other member before
    · exact fun other member => beside.handedOut other (by
        rw [Multiset.add_assoc]
        exact Multiset.mem_add.mpr (.inr member))
    · intro address freed
      rcases List.mem_cons.mp freed with rfl | before
      · exact beside.handedOut block (Multiset.mem_add.mpr (.inl mine))
      · exact beside.retired address before
    · exact fun other member strange inside => given.strange other member strange (by simp [inside])

/-- Releasing a block that is held does not release what a foreign pointer points to. -/
theorem HeldBeside.free_leaves (beside : HeldBeside heap (blocksOf pointer + blocks) foreign)
    (known : ∀ block, other = some block → block ∈ foreign) (unreleased : ¬ Released heap other) :
    ¬ Released (gFree heap pointer) other := by
  rintro ⟨strange, same, freed⟩
  cases pointer with
  | none => exact unreleased ⟨strange, same, freed⟩
  | some block =>
    have mine : block ∈ blocksOf (some block) + blocks := by simp
    simp only [gFree, beside.held block mine, if_false] at freed
    rcases List.mem_cons.mp freed with here | before
    · exact beside.strange block mine strange (known strange same) here.symm
    · exact unreleased ⟨strange, same, before⟩

/-- Releasing what a foreign pointer points to, even twice, takes nothing away. -/
theorem HeldBeside.free_foreign (beside : HeldBeside heap blocks foreign) (pointer : GCharPtr)
    (known : ∀ block, pointer = some block → block ∈ foreign) :
    HeldBeside (gFree heap pointer) blocks foreign := by
  cases pointer with
  | none => exact beside
  | some block =>
    simp only [gFree]
    split
    · exact ⟨beside.apart, beside.held, beside.handedOut, beside.retired, beside.strange⟩
    · refine ⟨beside.apart, fun other member freed => ?_, beside.handedOut, fun address freed => ?_,
        beside.strange⟩
      · rcases List.mem_cons.mp freed with same | before
        · exact beside.strange other member block (known block rfl) same
        · exact beside.held other member before
      · rcases List.mem_cons.mp freed with rfl | before
        · exact beside.handedOut block (Multiset.mem_add.mpr (.inr (known block rfl)))
        · exact beside.retired address before

theorem HeldBeside.read (beside : HeldBeside heap blocks foreign) (member : block ∈ blocks)
    (residue : String) : (readString heap residue block).2 = heap := by
  simp [readString, beside.held block member]

/-- Reading a block changes nothing but the record of what went wrong. -/
theorem HeldBeside.faulted (beside : HeldBeside before blocks foreign) (freed : after.freed = before.freed)
    (next : after.next = before.next) : HeldBeside after blocks foreign where
  apart := beside.apart
  held block member := by rw [freed]; exact beside.held block member
  handedOut block member := by rw [next]; exact beside.handedOut block member
  retired address member := by rw [freed] at member; rw [next]; exact beside.retired address member
  strange := beside.strange

theorem free_unreleased (unreleased : ¬ Released heap pointer) : (gFree heap pointer).faults = heap.faults := by
  cases pointer with
  | none => rfl
  | some block =>
    have live : block.address ∉ heap.freed := fun freed => unreleased ⟨block, rfl, freed⟩
    simp [gFree, live]

/-- A new block is not a released one. -/
theorem new_unreleased (retired : ∀ address ∈ heap.freed, address < heap.next) (text : String) :
    ¬ Released (gStrdup heap text).2 (some (gStrdup heap text).1) := by
  rintro ⟨block, same, freed⟩
  cases same
  exact Nat.lt_irrefl _ (retired _ freed)

end KvsProducer.GLib
