import Mathlib.Algebra.Group.Nat.Defs
import Std.Data.ExtTreeMap.Lemmas
import KvsProducer.CString

/-! Tags as C strings. The buffer of a string has the size of a product that
leaves room for its NUL, and for more, but is empty for an empty string. -/
namespace KvsProducer
open CString

/-- `std::map<std::string, std::string>`, ordered by the bytes of its keys. -/
abbrev TagMap := Std.ExtTreeMap Bytes Bytes compare

/-- Three constants of the platform independent code. -/
structure TagConstants where
  tagCurrentVersion : ℕ
  maxTagNameLen : ℕ
  maxTagValueLen : ℕ

structure Tag where
  version : ℕ
  name : Buffer
  value : Buffer
  deriving DecidableEq, Repr

/-- A failed `assert`, or a copy beyond the end of a buffer. -/
inductive TagFault where
  | assertion | overrun
  deriving DecidableEq, Repr

/-- `calloc(text.size() + 1, text.size())`, and the copy of the characters into it. -/
def tagString (text : Bytes) : Except TagFault Buffer :=
  match memcpy (calloc (text.length + 1) text.length) text with
  | none => .error .overrun
  | some buffer => .ok buffer

/-- One round of the loop in `asPTag`. -/
def makeTag (constants : TagConstants) (pair : Bytes × Bytes) : Except TagFault Tag :=
  let (name, val) := pair
  if constants.maxTagNameLen < name.length then .error .assertion
  else if constants.maxTagValueLen < val.length then .error .assertion
  else do
    let name ← tagString name
    let value ← tagString val
    return { version := constants.tagCurrentVersion, name, value }

/-- `StreamTags::asPTag`, which walks the map in the order of its keys. -/
def asPTag (constants : TagConstants) (tags : Option TagMap) : Except TagFault (Option (List Tag)) :=
  match tags with
  | none => .ok none
  | some tags => (tags.toList.mapM (makeTag constants)).map some

/-- `StreamTags::count`. -/
def count : Option TagMap → ℕ
  | none => 0
  | some tags => tags.size

/-- What the constructor of a `StreamDefinition` keeps of its tags. -/
structure TagInfo where
  tagCount : UInt32
  tags : Option (List Tag)

def tagInfo (constants : TagConstants) (tags : Option TagMap) : Except TagFault TagInfo :=
  (asPTag constants tags).map fun array => { tagCount := UInt32.ofNat (count tags), tags := array }

/-- The strings that `~StreamDefinition` frees, tag by tag. -/
def TagInfo.freed (info : TagInfo) : List Buffer :=
  ((info.tags.getD []).take info.tagCount.toNat).flatMap fun tag => [tag.name, tag.value]

/-! ## Reading them back -/

def readTag (tag : Tag) : Option (Bytes × Bytes) := do
  let name ← readCString tag.name
  let value ← readCString tag.value
  return (name, value)

/-- An array of that many tags, each with two C strings. -/
def readTags (array : Option (List Tag)) (count : ℕ) : Option (List (Bytes × Bytes)) :=
  let tags := array.getD []
  if tags.length < count then none else (tags.take count).mapM readTag

/-- A map whose strings are short enough, and have no NUL. -/
structure Convertible (constants : TagConstants) (tags : TagMap) : Prop where
  name : ∀ name value : Bytes, tags[name]? = some value →
    name.length ≤ constants.maxTagNameLen ∧ 0 ∉ name
  value : ∀ name value : Bytes, tags[name]? = some value →
    value.length ≤ constants.maxTagValueLen ∧ 0 ∉ value

/-- What is read back are the pairs of the map, in the order of its keys. -/
def SurvivesConversion (constants : TagConstants) (tags : TagMap) : Prop :=
  ∃ array pairs, asPTag constants (some tags) = .ok array ∧ readTags array (count (some tags)) = some pairs ∧
    (∀ name value, (name, value) ∈ pairs ↔ tags[name]? = some value) ∧
    pairs.Pairwise fun one other => compare one.1 other.1 = .lt

/-! ## One string -/

/-- The buffer of a string has room for it. -/
theorem tag_string_made (text : Bytes) : ∃ buffer, tagString text = .ok buffer := by
  have room : text.length ≤ (text.length + 1) * text.length := Nat.le_mul_of_pos_left _ (Nat.succ_pos _)
  unfold tagString
  rw [memcpy_calloc room]
  exact ⟨_, rfl⟩

/-- Nothing but the assertions stands against a tag. -/
theorem make_tag_ok_iff (constants : TagConstants) (pair : Bytes × Bytes) :
    (∃ tag, makeTag constants pair = .ok tag) ↔
      pair.1.length ≤ constants.maxTagNameLen ∧ pair.2.length ≤ constants.maxTagValueLen := by
  obtain ⟨name, named⟩ := tag_string_made pair.1
  obtain ⟨value, valued⟩ := tag_string_made pair.2
  simp only [makeTag, named, valued]
  split
  · exact iff_of_false nofun fun short => by omega
  · split
    · exact iff_of_false nofun fun short => by omega
    · exact iff_of_true ⟨_, rfl⟩ (by omega)

/-- A string gets its NUL, unless it is empty. -/
theorem tag_string_reads (text : Bytes) (noNul : 0 ∉ text) : ∃ buffer, tagString text = .ok buffer ∧
    readCString buffer = if text = [] then none else some text := by
  have room : text.length ≤ (text.length + 1) * text.length := Nat.le_mul_of_pos_left _ (Nat.succ_pos _)
  unfold tagString
  rw [memcpy_calloc room]
  refine ⟨_, rfl, ?_⟩
  split
  · subst_vars
    exact read_unterminated [] List.not_mem_nil
  · rename_i some
    have positive : 0 < text.length := List.length_pos_iff.mpr some
    have more : (text.length + 1) * text.length - text.length =
        (text.length * text.length - 1) + 1 := by
      have square : 0 < text.length * text.length := Nat.mul_pos positive positive
      rw [Nat.add_mul, Nat.one_mul, Nat.add_sub_cancel]
      omega
    rw [more, List.replicate_succ]
    exact read_terminated text _ noNul

/-- A pair that is short enough becomes a tag, which reads back if neither part is empty. -/
theorem tag_reads {constants : TagConstants} {name value : Bytes}
    (short : name.length ≤ constants.maxTagNameLen ∧ 0 ∉ name)
    (shortValue : value.length ≤ constants.maxTagValueLen ∧ 0 ∉ value) :
    ∃ tag, makeTag constants (name, value) = .ok tag ∧
      readTag tag = if name = [] ∨ value = [] then none else some (name, value) := by
  obtain ⟨nameBuffer, named, nameReads⟩ := tag_string_reads name short.2
  obtain ⟨valueBuffer, valued, valueReads⟩ := tag_string_reads value shortValue.2
  refine ⟨⟨constants.tagCurrentVersion, nameBuffer, valueBuffer⟩, ?_, ?_⟩
  · simp only [makeTag, if_neg (Nat.not_lt.mpr short.1), if_neg (Nat.not_lt.mpr shortValue.1), named, valued]
    rfl
  · simp only [readTag, nameReads, valueReads]
    by_cases empty : name = []
    · simp [empty]
    · by_cases emptyValue : value = [] <;> simp [empty, emptyValue]

/-! ## The array -/

/-- Nothing but the assertions stands against the conversion. -/
theorem make_tags_ok_iff (constants : TagConstants) (pairs : List (Bytes × Bytes)) :
    (∃ array, pairs.mapM (makeTag constants) = .ok array) ↔
      ∀ pair ∈ pairs, pair.1.length ≤ constants.maxTagNameLen ∧ pair.2.length ≤ constants.maxTagValueLen := by
  induction pairs with
  | nil => exact iff_of_true ⟨[], rfl⟩ (by simp)
  | cons pair pairs ih =>
    rw [List.forall_mem_cons, ← make_tag_ok_iff, ← ih, List.mapM_cons]
    cases makeTag constants pair with
    | error fault => exact iff_of_false nofun nofun
    | ok tag =>
      cases pairs.mapM (makeTag constants) with
      | error fault => exact iff_of_false nofun nofun
      | ok array => exact iff_of_true ⟨_, rfl⟩ ⟨⟨_, rfl⟩, _, rfl⟩

theorem as_ptag_ok_iff (constants : TagConstants) (tags : TagMap) :
    (∃ array, asPTag constants (some tags) = .ok array) ↔ ∀ pair ∈ tags.toList,
      pair.1.length ≤ constants.maxTagNameLen ∧ pair.2.length ≤ constants.maxTagValueLen := by
  rw [← make_tags_ok_iff]
  simp only [asPTag]
  cases tags.toList.mapM (makeTag constants) with
  | error fault => exact iff_of_false nofun nofun
  | ok array => exact iff_of_true ⟨_, rfl⟩ ⟨_, rfl⟩

/-- The array has a tag for every pair, and reads back if no string is empty. -/
theorem tags_read {constants : TagConstants} (pairs : List (Bytes × Bytes))
    (short : ∀ pair ∈ pairs, (pair.1.length ≤ constants.maxTagNameLen ∧ 0 ∉ pair.1) ∧
      (pair.2.length ≤ constants.maxTagValueLen ∧ 0 ∉ pair.2)) :
    ∃ array, pairs.mapM (makeTag constants) = .ok array ∧ array.length = pairs.length ∧
      array.mapM readTag =
        if ∃ pair ∈ pairs, pair.1 = [] ∨ pair.2 = [] then none else some pairs := by
  induction pairs with
  | nil => exact ⟨[], rfl, rfl, rfl⟩
  | cons pair pairs ih =>
    obtain ⟨name, value⟩ := pair
    obtain ⟨array, made, length, read⟩ := ih fun pair member => short pair (List.mem_cons_of_mem _ member)
    have here := short (name, value) List.mem_cons_self
    obtain ⟨tag, tagged, reads⟩ := tag_reads here.1 here.2
    refine ⟨tag :: array, ?_, congrArg (· + 1) length, ?_⟩
    · rw [List.mapM_cons, tagged, made]
      rfl
    · rw [List.mapM_cons, reads, read]
      simp only [List.mem_cons, exists_eq_or_imp]
      by_cases empty : name = [] ∨ value = []
      · simp [empty]
      · by_cases rest : ∃ pair ∈ pairs, pair.1 = [] ∨ pair.2 = []
        · simp [empty, rest]
        · simp [empty, rest]

/-- The conversion of a map that is convertible, and what its array reads as. -/
theorem converted_tags (convertible : Convertible constants tags) :
    ∃ array, asPTag constants (some tags) = .ok (some array) ∧ array.length = count (some tags) ∧
      readTags (some array) (count (some tags)) =
        if ∃ pair ∈ tags.toList, pair.1 = [] ∨ pair.2 = [] then none else some tags.toList := by
  obtain ⟨array, made, length, read⟩ := @tags_read constants tags.toList fun pair member =>
    have held := Std.ExtTreeMap.mem_toList_iff_getElem?_eq_some.mp member
    ⟨convertible.name pair.1 pair.2 held, convertible.value pair.1 pair.2 held⟩
  have size : array.length = count (some tags) := length.trans Std.ExtTreeMap.length_toList
  refine ⟨array, ?_, size, ?_⟩
  · simp only [asPTag, made]
    rfl
  · rw [readTags, Option.getD_some, if_neg (by omega), ← size, List.take_length, read]

/-- The destructor walks the array to its end, as long as its length has 32 bits. -/
theorem destructor_frees_all (convertible : Convertible constants tags)
    (built : tagInfo constants (some tags) = .ok info) (few : tags.size < 2 ^ 32) :
    info.freed = (info.tags.getD []).flatMap fun tag => [tag.name, tag.value] := by
  obtain ⟨array, converted, length, _⟩ := converted_tags convertible
  rw [tagInfo, converted] at built
  cases built
  have whole : (UInt32.ofNat (count (some tags))).toNat = array.length := by
    rw [length]
    exact UInt32.toNat_ofNat_of_lt' few
  simp only [TagInfo.freed, whole, Option.getD_some, List.take_length]

/-- The reader leaves the buffer of an empty string. -/
theorem surviving_strings_nonempty (convertible : Convertible constants tags)
    (survives : SurvivesConversion constants tags) (name value : Bytes) (held : tags[name]? = some value) :
    name ≠ [] ∧ value ≠ [] := by
  have inside : (name, value) ∈ tags.toList := Std.ExtTreeMap.mem_toList_iff_getElem?_eq_some.mpr held
  obtain ⟨array, converted, _, read⟩ := converted_tags convertible
  obtain ⟨again, pairs, same, readBack, _⟩ := survives
  rw [converted] at same
  cases same
  rw [read] at readBack
  split at readBack
  · cases readBack
  · rename_i none
    exact ⟨fun empty => none ⟨_, inside, .inl empty⟩, fun empty => none ⟨_, inside, .inr empty⟩⟩

/-- **Tags.** A map of short strings without NUL survives its conversion to C
exactly if none of its names and values is empty. -/
theorem tags_survive_iff (convertible : Convertible constants tags) :
    SurvivesConversion constants tags ↔
      ∀ name value : Bytes, tags[name]? = some value → name ≠ [] ∧ value ≠ [] := by
  refine ⟨surviving_strings_nonempty convertible, fun nonempty => ?_⟩
  obtain ⟨array, converted, _, read⟩ := converted_tags convertible
  refine ⟨array, tags.toList, converted, ?_,
    fun name value => Std.ExtTreeMap.mem_toList_iff_getElem?_eq_some, Std.ExtTreeMap.ordered_keys_toList⟩
  rw [read, if_neg]
  rintro ⟨pair, member, empty⟩
  obtain ⟨name, value⟩ :=
    nonempty pair.1 pair.2 (Std.ExtTreeMap.mem_toList_iff_getElem?_eq_some.mp member)
  exact empty.elim name value

def sampleTagConstants : TagConstants := { tagCurrentVersion := 0, maxTagNameLen := 128, maxTagValueLen := 1024 }

/-- A map with one tag. -/
def singleTag (name value : Bytes) : TagMap := (∅ : TagMap).insert name value

private theorem single_tag_holds (name value : Bytes) {other held : Bytes} :
    (singleTag name value)[other]? = some held ↔ name = other ∧ value = held := by
  rw [singleTag, Std.ExtTreeMap.getElem?_insert]
  simp

private theorem single_tag_convertible {name value : Bytes}
    (short : name.length ≤ constants.maxTagNameLen ∧ 0 ∉ name)
    (shortValue : value.length ≤ constants.maxTagValueLen ∧ 0 ∉ value) :
    Convertible constants (singleTag name value) where
  name _ _ found := (single_tag_holds name value |>.mp found).1 ▸ short
  value _ _ found := (single_tag_holds name value |>.mp found).2 ▸ shortValue

/-- A map with a second tag, whose name sorts before the first. -/
def twoTags : TagMap := (singleTag [115, 105] [108, 111]).insert [102] [49]

private theorem two_tags_hold {name value : Bytes} (held : twoTags[name]? = some value) :
    (name, value) ∈ [([102], [49]), (([115, 105], [108, 111]) : Bytes × Bytes)] := by
  rw [twoTags, Std.ExtTreeMap.getElem?_insert] at held
  split at held
  · rename_i here
    cases Std.LawfulEqCmp.eq_of_compare here
    cases held
    simp
  · obtain ⟨rfl, rfl⟩ := (single_tag_holds _ _).mp held
    simp

/-- Tags with names and values survive. -/
theorem tag_with_value_survives : SurvivesConversion sampleTagConstants twoTags := by
  have small : ∀ pair ∈ [([102], [49]), (([115, 105], [108, 111]) : Bytes × Bytes)],
      ((pair.1.length ≤ 128 ∧ 0 ∉ pair.1) ∧ pair.2.length ≤ 1024 ∧ 0 ∉ pair.2) ∧
        pair.1 ≠ [] ∧ pair.2 ≠ [] := by decide
  refine (tags_survive_iff ⟨fun _ _ held => ?_, fun _ _ held => ?_⟩).mpr fun _ _ held => ?_
  · exact (small _ (two_tags_hold held)).1.1
  · exact (small _ (two_tags_hold held)).1.2
  · exact (small _ (two_tags_hold held)).2

/-- The value of a tag may be empty; its buffer then has no byte to end it. -/
theorem empty_value_is_lost : ¬ ∀ constants tags, Convertible constants tags →
    SurvivesConversion constants tags := by
  intro always
  have convertible : Convertible sampleTagConstants (singleTag [115, 105] []) :=
    single_tag_convertible (by decide) (by decide)
  have held : (singleTag [115, 105] [])[([115, 105] : Bytes)]? = some [] :=
    (single_tag_holds _ _).mpr ⟨rfl, rfl⟩
  exact (surviving_strings_nonempty convertible (always _ _ convertible) _ _ held).2 rfl

end KvsProducer
