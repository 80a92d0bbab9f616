import Mathlib.Data.List.Basic

/-! Append-only records. A component that only ever appends is described by the
kinds of entries it may add; what a reader computes from the record by a fold is
then unchanged by entries of a kind the fold ignores. -/
namespace KvsProducer.History

variable {Entry Summary : Type*} {kind other : Entry → Prop} {before middle after : List Entry}

/-- The later record is the earlier one with some entries of this kind after it. -/
def Grows (kind : Entry → Prop) (before after : List Entry) : Prop :=
  ∃ added, after = before ++ added ∧ ∀ entry ∈ added, kind entry

theorem Grows.refl (record : List Entry) : Grows kind record record :=
  ⟨[], (List.append_nil record).symm, fun _ member => absurd member List.not_mem_nil⟩

theorem Grows.snoc {entry : Entry} (admitted : kind entry) (record : List Entry) :
    Grows kind record (record ++ [entry]) :=
  ⟨[entry], rfl, fun _ member => List.mem_singleton.mp member ▸ admitted⟩

theorem Grows.trans (first : Grows kind before middle) (second : Grows kind middle after) :
    Grows kind before after := by
  obtain ⟨early, rfl, earlyKind⟩ := first
  obtain ⟨late, rfl, lateKind⟩ := second
  refine ⟨early ++ late, List.append_assoc _ _ _, fun entry member => ?_⟩
  rcases List.mem_append.mp member with inEarly | inLate
  · exact earlyKind entry inEarly
  · exact lateKind entry inLate

theorem Grows.then {entry : Entry} (grown : Grows kind before after) (admitted : kind entry) :
    Grows kind before (after ++ [entry]) :=
  grown.trans (.snoc admitted after)

theorem Grows.imp (weaker : ∀ entry, kind entry → other entry) (grown : Grows kind before after) :
    Grows other before after := by
  obtain ⟨added, grew, admitted⟩ := grown
  exact ⟨added, grew, fun entry member => weaker entry (admitted entry member)⟩

theorem Grows.keeps {entry : Entry} (grown : Grows kind before after) (member : entry ∈ before) :
    entry ∈ after := by
  obtain ⟨added, rfl, _⟩ := grown
  exact List.mem_append_left added member

theorem Grows.old_or_new {entry : Entry} (grown : Grows kind before after) (member : entry ∈ after) :
    entry ∈ before ∨ kind entry := by
  obtain ⟨added, rfl, admitted⟩ := grown
  exact (List.mem_append.mp member).imp_right (admitted entry)

/-- Entries of a kind are ignored by a fold that does nothing on each of them. -/
theorem Grows.foldl_unchanged {summarize : Summary → Entry → Summary}
    (ignored : ∀ summary entry, kind entry → summarize summary entry = summary)
    (grown : Grows kind before after) (initial : Summary) :
    after.foldl summarize initial = before.foldl summarize initial := by
  obtain ⟨added, rfl, admitted⟩ := grown
  rw [List.foldl_append]
  generalize before.foldl summarize initial = summary
  induction added with
  | nil => rfl
  | cons entry rest ih =>
    rw [List.foldl_cons, ignored summary entry (admitted entry List.mem_cons_self)]
    exact ih fun later member => admitted later (List.mem_cons_of_mem entry member)

/-- Every entry fits what was on record when it was made. -/
def EachEntry (fits : List Entry → Entry → Prop) (record : List Entry) : Prop :=
  ∀ before entry after, record = before ++ entry :: after → fits before entry

theorem each_entry_nil {fits : List Entry → Entry → Prop} : EachEntry fits [] := by
  intro before entry after split
  cases before <;> cases split

/-- Entries made later have to fit the whole record before them. -/
theorem EachEntry.append {fits : List Entry → Entry → Prop} {record added : List Entry}
    (old : EachEntry fits record)
    (new : ∀ early entry late, added = early ++ entry :: late → fits (record ++ early) entry) :
    EachEntry fits (record ++ added) := by
  intro before entry after split
  rcases List.append_eq_append_iff.mp split with ⟨early, rfl, same⟩ | ⟨rest, rfl, same⟩
  · exact new early entry after same
  · cases rest with
    | nil =>
      rw [List.append_nil] at new
      simpa using new [] entry after same.symm
    | cons first rest =>
      obtain ⟨rfl, _⟩ := List.cons.inj same
      exact old before entry rest rfl

/-- One more entry that fits the whole record before it. -/
theorem EachEntry.snoc {fits : List Entry → Entry → Prop} {record : List Entry} {entry : Entry}
    (old : EachEntry fits record) (new : fits record entry) : EachEntry fits (record ++ [entry]) := by
  apply old.append
  intro early last late split
  cases early with
  | nil =>
    cases split
    rw [List.append_nil]
    exact new
  | cons first rest =>
    obtain ⟨_, impossible⟩ := List.cons.inj split
    cases rest <;> cases impossible

/-- A kind of entry that was not added later stands where it stood. -/
theorem split_before_added {record added : List Entry} {entry : Entry} (foreign : entry ∉ added)
    (split : record ++ added = before ++ entry :: after) :
    ∃ rest, record = before ++ entry :: rest ∧ after = rest ++ added := by
  rcases List.append_eq_append_iff.mp split with ⟨early, rfl, same⟩ | ⟨rest, rfl, same⟩
  · exact absurd (same ▸ List.mem_append_right early List.mem_cons_self) foreign
  · cases rest with
    | nil =>
      rw [List.nil_append] at same
      exact absurd (same ▸ List.mem_cons_self) foreign
    | cons first rest =>
      obtain ⟨rfl, rfl⟩ := List.cons.inj same
      exact ⟨rest, rfl, rfl⟩

/-- An entry of a record is the one made last, or stood there before. -/
theorem split_snoc {record : List Entry} {last entry : Entry}
    (split : record ++ [last] = before ++ entry :: after) :
    (record = before ∧ after = []) ∨ ∃ rest, record = before ++ entry :: rest ∧ after = rest ++ [last] := by
  rcases List.eq_nil_or_concat after with rfl | ⟨rest, final, rfl⟩
  · exact .inl ⟨List.append_inj_left' split rfl, rfl⟩
  · rw [List.concat_eq_append, ← List.cons_append, ← List.append_assoc] at split
    cases List.append_inj_right' split rfl
    exact .inr ⟨rest, List.append_inj_left' split rfl, List.concat_eq_append⟩

/-! ## Since an entry -/

/-- The entry is on record, and what came after the last such entry fits. -/
def Since (entry : Entry) (fits : List Entry → Prop) (record : List Entry) : Prop :=
  ∃ before after, record = before ++ entry :: after ∧ entry ∉ after ∧ fits after

variable {entry : Entry} {fits : List Entry → Prop} {record : List Entry}

theorem Since.fresh (record : List Entry) (nothing : fits []) : Since entry fits (record ++ [entry]) :=
  ⟨record, [], rfl, List.not_mem_nil, nothing⟩

/-- More entries come after the last one, and what fits may change with them. -/
theorem Since.append {fitsNow : List Entry → Prop} (since : Since entry fits record) (foreign : entry ∉ added)
    (onward : ∀ after, fits after → fitsNow (after ++ added)) : Since entry fitsNow (record ++ added) := by
  obtain ⟨before, after, rfl, last, fitted⟩ := since
  refine ⟨before, after ++ added, by simp, ?_, onward after fitted⟩
  rw [List.mem_append]
  exact fun member => member.elim last foreign

/-- What no later entry undoes still fits when the record has grown. -/
theorem Since.grow (since : Since entry fits record) (grown : Grows kind record after) (foreign : ¬kind entry)
    (lasts : ∀ earlier added, fits earlier → fits (earlier ++ added)) : Since entry fits after := by
  obtain ⟨added, rfl, admitted⟩ := grown
  exact since.append (fun member => foreign (admitted entry member)) (fun earlier fitted => lasts earlier added fitted)

end KvsProducer.History
