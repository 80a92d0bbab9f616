import Mathlib.Data.Finset.Lattice.Basic
import Mathlib.Data.List.TakeWhile
import KvsProducer.KvsSinkUtil

/-! What a structure leaves in the map it is copied to. The visitor writes into
the map of the caller, so the fields before the first one that it refuses stay
there; a structure that is copied whole extends the map by its new names. -/
namespace KvsProducer.KvsSinkUtil
open Gst

/-- The field is one that the visitor stores. -/
def isStored (field : String × GValue) : Bool :=
  match field.2 with
  | .string text => !(text.isEmpty || field.1.isEmpty)
  | .nullString | .other => false

/-- The fields that have been stored when the visitor stops. -/
def storedFields (structure' : GstStructure) : GstStructure := structure'.takeWhile isStored

/-- The map has the entries it had, and the fields under names that were free. -/
def Extended (userMap map : StringMap) (fields : GstStructure) : Prop :=
  ∀ key value, map[key]? = some value ↔
    userMap[key]? = some value ∨ (userMap[key]? = none ∧ (key, .string value) ∈ fields)

/-- **All or nothing.** A conversion that fails leaves the map alone, and one
that succeeds has put in every field. -/
structure AllOrNothing (structure' : GstStructure) (userMap : StringMap) : Prop where
  refused : (gstructToMap structure' userMap).1 = .ok false →
    (gstructToMap structure' userMap).2 = userMap
  converted : (gstructToMap structure' userMap).1 = .ok true →
    (∀ field ∈ structure', ∃ text, field.2 = .string text ∧ text ≠ "") ∧
      Extended userMap (gstructToMap structure' userMap).2 structure'

/-- The value of the first field that is not stored. -/
def firstUnstored (structure' : GstStructure) : Option GValue :=
  (structure'.find? fun field => !isStored field).map Prod.snd

/-- Every field is stored, or every field before the first other one has a name
that is already a key, or that first one is a NULL string and nothing is returned. -/
def LeavesNoTrace (structure' : GstStructure) (userMap : StringMap) : Prop :=
  (∀ field ∈ structure', isStored field = true) ∨
    (∀ field ∈ storedFields structure', userMap[field.1]?.isSome = true) ∨
    firstUnstored structure' = some .nullString

/-- What a visitor returns that stops at this value. -/
def walkEnd : Option GValue → Except Raised Bool
  | none => .ok true
  | some .nullString => .error .uncaught
  | some _ => .ok false

variable {structure' fields : GstStructure} {userMap map : StringMap}

private theorem stored_text (stored : isStored field = true) :
    ∃ text, field.2 = .string text ∧ text ≠ "" ∧ field.1 ≠ "" := by
  unfold isStored at stored
  split at stored
  · rename_i text held
    simp only [Bool.not_eq_true', Bool.or_eq_false_iff, String.isEmpty_eq_false_iff] at stored
    exact ⟨text, held, stored.1, stored.2⟩
  · cases stored
  · cases stored

/-- The visitor stores a field, or stops there and leaves the map alone. -/
theorem set_params_cases (field : String × GValue) (map : StringMap) :
    (∃ text, isStored field = true ∧ field.2 = .string text ∧
        setParams field.1 field.2 map = (.ok true, map.insertIfNew field.1 text)) ∨
      (isStored field = false ∧ walkEnd (some field.2) ≠ .ok true ∧
        setParams field.1 field.2 map = (walkEnd (some field.2), map)) := by
  obtain ⟨name, value⟩ := field
  unfold isStored setParams
  cases value with
  | other => exact .inr ⟨rfl, nofun, rfl⟩
  | nullString => exact .inr ⟨rfl, nofun, rfl⟩
  | string text =>
    simp only
    cases (text.isEmpty || name.isEmpty) with
    | true => exact .inr ⟨rfl, nofun, rfl⟩
    | false => exact .inl ⟨text, rfl, rfl, rfl⟩

private theorem walk_end_ok_iff (stopped : Option GValue) : walkEnd stopped = .ok true ↔ stopped = none := by
  cases stopped with
  | none => exact iff_of_true rfl rfl
  | some value => cases value <;> exact iff_of_false nofun nofun

private theorem walk_end_refuses_iff (stopped : Option GValue) :
    walkEnd stopped = .ok false ↔ stopped ≠ none ∧ stopped ≠ some .nullString := by
  cases stopped with
  | none => exact iff_of_false nofun fun both => both.1 rfl
  | some value => cases value <;> simp [walkEnd]

/-- A visitor that is not told to go on ends the walk. -/
theorem foreach_stops {visit : String → GValue → StringMap → Except Raised Bool × StringMap}
    (visited : visit field.1 field.2 map = (ended, final)) (stops : ended ≠ .ok true) :
    gstStructureForeach visit (field :: rest) map = (ended, final) := by
  unfold gstStructureForeach
  rw [visited]
  split
  · rename_i went
    cases went
    exact absurd rfl stops
  · rfl

/-- What a walk raises is never caught. -/
theorem walk_raises_uncaught
    (raises : (gstStructureForeach setParams structure' map).1 = .error raised) : raised = .uncaught := by
  induction structure' generalizing map with
  | nil => cases raises
  | cons field rest ih =>
    obtain ⟨text, _, _, visited⟩ | ⟨_, stops, visited⟩ := set_params_cases field map
    · simp only [gstStructureForeach, visited] at raises
      exact ih raises
    · rw [foreach_stops visited stops] at raises
      cases held : field.2 with
      | nullString =>
        rw [held] at raises
        cases raises
        rfl
      | string | other =>
        rw [held] at raises
        cases raises

private theorem first_unstored_none_iff :
    firstUnstored structure' = none ↔ ∀ field ∈ structure', isStored field = true := by
  simp [firstUnstored]

/-- An insertion extends the map by one field. -/
theorem extended_insert (map : StringMap) (name text : String) :
    Extended map (map.insertIfNew name text) [(name, .string text)] := by
  intro key value
  rw [Std.ExtTreeMap.getElem?_insertIfNew]
  simp only [List.mem_singleton, Prod.mk.injEq, GValue.string.injEq]
  by_cases here : name = key
  · subst here
    simp only [Std.ReflCmp.compare_self, true_and, ← Std.ExtTreeMap.isSome_getElem?_iff_mem]
    cases found : map[name]? with
    | none => simp [eq_comm]
    | some held => simp
  · have different : compare name key ≠ .eq := by simpa using here
    rw [if_neg (different ·.1)]
    simp [Ne.symm here]

/-- Extending by fields with other names goes on from an extension. -/
theorem Extended.cons (first : Extended userMap map [(name, .string text)])
    (apart : name ∉ fields.map Prod.fst) (later : Extended map final fields) :
    Extended userMap final ((name, .string text) :: fields) := by
  intro key value
  have other (member : (key, GValue.string value) ∈ fields) : key ≠ name := by
    rintro rfl
    exact apart (List.mem_map_of_mem member)
  have free : map[key]? = none ↔ userMap[key]? = none ∧ key ≠ name := by
    have none_iff (map : StringMap) : map[key]? = none ↔ ∀ value, map[key]? ≠ some value :=
      Option.eq_none_iff_forall_ne_some
    rw [none_iff map]
    simp only [ne_eq, first key, List.mem_singleton, Prod.mk.injEq, GValue.string.injEq, not_or, not_and]
    constructor
    · intro nothing
      have before := (none_iff userMap).mpr fun value => (nothing value).1
      exact ⟨before, fun same => (nothing text).2 before same rfl⟩
    · rintro ⟨before, different⟩ value
      exact ⟨(none_iff userMap).mp before value, fun _ same => absurd same different⟩
  rw [later key value, first key value, free]
  rw [List.mem_singleton, List.mem_cons, Prod.mk.injEq, GValue.string.injEq]
  constructor
  · rintro ((before | ⟨before, here⟩) | ⟨⟨before, _⟩, member⟩)
    · exact .inl before
    · exact .inr ⟨before, .inl here⟩
    · exact .inr ⟨before, .inr member⟩
  · rintro (before | ⟨before, here | member⟩)
    · exact .inl (.inl before)
    · exact .inl (.inr ⟨before, here⟩)
    · exact .inr ⟨⟨before, other member⟩, member⟩

/-- The first field that is not stored says what the walk returns, and those
before it extend the map. -/
theorem foreach_extends (distinct : (structure'.map Prod.fst).Nodup) (map : StringMap) :
    (gstStructureForeach setParams structure' map).1 = walkEnd (firstUnstored structure') ∧
      Extended map (gstStructureForeach setParams structure' map).2 (storedFields structure') := by
  induction structure' generalizing map with
  | nil => exact ⟨rfl, fun key value => by simp [gstStructureForeach, storedFields]⟩
  | cons field rest ih =>
    rw [List.map_cons, List.nodup_cons] at distinct
    unfold storedFields firstUnstored
    obtain ⟨text, stored, held, visited⟩ | ⟨refused, stops, visited⟩ := set_params_cases field map
    · obtain ⟨ret, extended⟩ := ih distinct.2 (map.insertIfNew field.1 text)
      have same : field = (field.1, .string text) := by rw [← held]
      have apart : field.1 ∉ (storedFields rest).map Prod.fst := fun member =>
        distinct.1 ((List.takeWhile_prefix isStored).map Prod.fst |>.subset member)
      have later : (field :: rest).find? (fun field => !isStored field) =
          rest.find? fun field => !isStored field := List.find?_cons_of_neg (by simp [stored])
      rw [List.takeWhile_cons, if_pos stored, later]
      simp only [gstStructureForeach, visited]
      refine ⟨ret, ?_⟩
      rw [same]
      exact (extended_insert map field.1 text).cons apart extended
    · have here : (field :: rest).find? (fun field => !isStored field) = some field :=
        List.find?_cons_of_pos (by simp [refused])
      rw [foreach_stops visited stops, here, List.takeWhile_cons, refused]
      exact ⟨rfl, fun key value => by simp⟩

/-- The temporary map is empty, so what is merged in at the end is nothing. -/
theorem gstruct_to_map_eq (structure' : GstStructure) (userMap : StringMap) :
    gstructToMap structure' userMap = gstStructureForeach setParams structure' userMap := by
  have nothing (map : StringMap) :
      (∅ : StringMap).foldl (fun map key value => map.insertIfNew key value) map = map := by
    rw [Std.ExtTreeMap.foldl_eq_foldl_toList, Std.ExtTreeMap.toList_eq_nil_iff.mpr rfl]
    rfl
  unfold gstructToMap
  simp only [nothing]
  split
  · rename_i went
    exact went.symm
  · rfl

private theorem stored_fields_all (all : ∀ field ∈ structure', isStored field = true) :
    storedFields structure' = structure' := List.takeWhile_eq_self_iff.mpr all

/-- Nothing has been added exactly if every stored field had its name taken. -/
theorem extended_unchanged_iff (stored : ∀ field ∈ fields, ∃ text, field.2 = .string text)
    (extended : Extended userMap map fields) :
    map = userMap ↔ ∀ field ∈ fields, userMap[field.1]?.isSome = true := by
  constructor
  · rintro rfl field member
    obtain ⟨text, held⟩ := stored field member
    have entry : (field.1, GValue.string text) ∈ fields := by
      rw [← held]
      exact member
    cases found : map[field.1]? with
    | some value => rfl
    | none =>
      rw [← found, (extended field.1 text).mpr (.inr ⟨found, entry⟩)]
      rfl
  · intro taken
    apply Std.ExtTreeMap.ext_getElem?
    intro key
    apply Option.ext
    intro value
    rw [extended key value]
    constructor
    · rintro (before | ⟨free, member⟩)
      · exact before
      · have some := taken _ member
        rw [free] at some
        cases some
    · exact .inl

instance (structure' : GstStructure) (userMap : StringMap) : Decidable (LeavesNoTrace structure' userMap) :=
  inferInstanceAs (Decidable (_ ∨ _ ∨ _))

/-- The conversion is all or nothing exactly if it leaves no trace when it fails. -/
theorem conversion_is_all_or_nothing_iff (distinct : (structure'.map Prod.fst).Nodup)
    (userMap : StringMap) : AllOrNothing structure' userMap ↔ LeavesNoTrace structure' userMap := by
  obtain ⟨ret, extended⟩ := foreach_extends distinct userMap
  rw [← gstruct_to_map_eq] at ret extended
  have stored (field : String × GValue) (member : field ∈ storedFields structure') :
      ∃ text, field.2 = .string text := by
    obtain ⟨text, held, _⟩ := stored_text (List.mem_takeWhile_imp member)
    exact ⟨text, held⟩
  have unchanged := extended_unchanged_iff stored extended
  by_cases all : ∀ field ∈ structure', isStored field = true
  · refine iff_of_true ⟨fun refused => ?_, fun _ => ⟨fun field member => ?_, ?_⟩⟩ (.inl all)
    · rw [ret, first_unstored_none_iff.mpr all] at refused
      cases refused
    · obtain ⟨text, held, some, _⟩ := stored_text (all field member)
      exact ⟨text, held, some⟩
    · rwa [stored_fields_all all] at extended
  · have stops : firstUnstored structure' ≠ none := fun none => all (first_unstored_none_iff.mp none)
    have refused : (gstructToMap structure' userMap).1 = .ok false ↔
        firstUnstored structure' ≠ some .nullString := by
      rw [ret, walk_end_refuses_iff, and_iff_right stops]
    unfold LeavesNoTrace
    rw [or_iff_right all, ← unchanged]
    constructor
    · intro whole
      by_cases throws : firstUnstored structure' = some .nullString
      · exact .inr throws
      · exact .inl (whole.refused (refused.mpr throws))
    · refine fun same => ⟨fun returned => same.resolve_right (refused.mp returned), fun converted => ?_⟩
      rw [ret, walk_end_ok_iff] at converted
      exact absurd converted stops

/-- The tags `site` and `camera` are taken over whole. -/
theorem tags_are_taken_over : AllOrNothing [("site", .string "lobby"), ("camera", .string "east")] ∅ :=
  (conversion_is_all_or_nothing_iff (by decide) ∅).mpr (by decide)

/-- A number behind the first tag fails the conversion and leaves that tag in the map. -/
theorem refused_tags_leave_their_first :
    ¬ ∀ (structure' : GstStructure) (userMap : StringMap), (structure'.map Prod.fst).Nodup →
      AllOrNothing structure' userMap := by
  intro always
  have refused := (always [("site", .string "lobby"), ("floor", .other)] ∅ (by decide)).refused (by decide)
  have left : (gstructToMap [("site", .string "lobby"), ("floor", .other)] ∅).2["site"]? =
      some "lobby" := by decide
  rw [refused] at left
  cases left.symm.trans Std.ExtTreeMap.getElem?_empty

/-! ## The parameters of an IoT certificate -/

/-- The keys that must be there. -/
def requiredParams : Finset String :=
  {iotGetCredentialEndpoint, certificatePath, privateKeyPath, caCertPath, roleAliases}

/-- The keys that may be there besides. -/
def optionalParams : Finset String := {iotThingName, iotConnectionTimeout, iotCompletionTimeout}

/-- The names of the fields of a structure. -/
def fieldNames (structure' : GstStructure) : Finset String := (structure'.map Prod.fst).toFinset

private theorem insert_if_absent (paramsKeySet : Finset String) (key : String) :
    insertIfAbsent paramsKeySet key = insert key paramsKeySet := by
  unfold insertIfAbsent
  split
  · rename_i present
    exact (Finset.insert_eq_of_mem present).symm
  · rfl

/-- The comparison of sets is a two-sided inclusion. -/
theorem completed_eq_iff (keys : Finset String) :
    insertIfAbsent (insertIfAbsent (insertIfAbsent keys iotThingName) iotConnectionTimeout)
        iotCompletionTimeout = iotParamSet ↔
      requiredParams ⊆ keys ∧ keys ⊆ requiredParams ∪ optionalParams := by
  have completed : insertIfAbsent (insertIfAbsent (insertIfAbsent keys iotThingName) iotConnectionTimeout)
      iotCompletionTimeout = keys ∪ optionalParams := by
    ext key
    simp only [insert_if_absent, optionalParams, Finset.mem_insert, Finset.mem_union, Finset.mem_singleton]
    tauto
  have all : iotParamSet = requiredParams ∪ optionalParams := by decide
  have apart : ∀ key ∈ requiredParams, key ∉ optionalParams := by decide
  rw [completed, all]
  constructor
  · intro same
    refine ⟨fun key member => ?_, same ▸ Finset.subset_union_left⟩
    have either : key ∈ keys ∪ optionalParams := same ▸ Finset.mem_union_left _ member
    exact (Finset.mem_union.mp either).resolve_right (apart key member)
  · rintro ⟨required, known⟩
    exact Finset.Subset.antisymm (Finset.union_subset known Finset.subset_union_right)
      (Finset.union_subset_union_left required)

/-- An empty map is extended by exactly the fields. -/
theorem extended_empty_iff {key value : String} (extended : Extended ∅ map fields) :
    map[key]? = some value ↔ (key, .string value) ∈ fields := by
  rw [extended key value]
  simp

/-- The keys of the map are the names of the fields. -/
theorem keys_of_extended (stored : ∀ field ∈ fields, ∃ text, field.2 = .string text)
    (extended : Extended ∅ map fields) : map.keys.toFinset = fieldNames fields := by
  ext key
  rw [List.mem_toFinset, Std.ExtTreeMap.mem_keys, ← Std.ExtTreeMap.isSome_getElem?_iff_mem,
    Option.isSome_iff_exists, fieldNames, List.mem_toFinset, List.mem_map]
  constructor
  · rintro ⟨value, found⟩
    exact ⟨_, (extended_empty_iff extended).mp found, rfl⟩
  · rintro ⟨field, member, rfl⟩
    obtain ⟨text, held⟩ := stored field member
    exact ⟨text, (extended_empty_iff extended).mpr (held ▸ member)⟩

/-- What cannot be copied is not compared with the documented names. -/
theorem parse_stops (stops : (gstructToMap structure' userMap).1 ≠ .ok true) :
    parseIotCredentialGstructure structure' userMap = gstructToMap structure' userMap := by
  unfold parseIotCredentialGstructure
  split
  · rename_i went
    exact absurd (congrArg Prod.fst went) stops
  · rfl

/-- **Documented parameters.** The structures that are accepted, from an empty
map, are those with every required name, no unknown one, and a text that is not
empty under each; what is accepted is in the map, and nothing else. -/
theorem iot_parameters_accepted_iff (distinct : (structure'.map Prod.fst).Nodup) :
    ((parseIotCredentialGstructure structure' ∅).1 = .ok true ↔
        (∀ field ∈ structure', ∃ text, field.2 = .string text ∧ text ≠ "") ∧
          requiredParams ⊆ fieldNames structure' ∧
          fieldNames structure' ⊆ requiredParams ∪ optionalParams) ∧
      ((parseIotCredentialGstructure structure' ∅).1 = .ok true → ∀ key value,
        (parseIotCredentialGstructure structure' ∅).2[key]? = some value ↔
          (key, .string value) ∈ structure') := by
  obtain ⟨ret, extended⟩ := foreach_extends distinct ∅
  rw [← gstruct_to_map_eq] at ret extended
  by_cases all : ∀ field ∈ structure', isStored field = true
  · have stored (field : String × GValue) (member : field ∈ structure') :
        ∃ text, field.2 = .string text ∧ text ≠ "" := by
      obtain ⟨text, held, some, _⟩ := stored_text (all field member)
      exact ⟨text, held, some⟩
    rw [stored_fields_all all] at extended
    have keys := keys_of_extended (fun field member => (stored field member).imp fun _ => And.left) extended
    rw [first_unstored_none_iff.mpr all] at ret
    have whole : gstructToMap structure' ∅ = (.ok true, (gstructToMap structure' ∅).2) := Prod.ext ret rfl
    unfold parseIotCredentialGstructure
    rw [whole]
    simp only [keys, Except.ok.injEq, decide_eq_true_eq, completed_eq_iff]
    exact ⟨(and_iff_right stored).symm, fun _ _ _ => extended_empty_iff extended⟩
  · have stops : (gstructToMap structure' ∅).1 ≠ .ok true := fun went =>
      all (first_unstored_none_iff.mp ((walk_end_ok_iff _).mp (ret.symm.trans went)))
    rw [parse_stops stops]
    refine ⟨iff_of_false stops ?_, fun went => absurd went stops⟩
    rintro ⟨stored, _, known⟩
    apply all
    intro field member
    obtain ⟨text, held, some⟩ := stored field member
    have named : field.1 ≠ "" := by
      intro empty
      have inside := known (List.mem_toFinset.mpr (List.mem_map_of_mem member))
      rw [empty] at inside
      revert inside
      decide
    simp [isStored, held, some, named]

def certificateWithTimeout : GstStructure :=
  [("endpoint", .string "iot.example"), ("cert-path", .string "cert.pem"), ("key-path", .string "key.pem"),
    ("ca-path", .string "ca.pem"), ("role-aliases", .string "camera"), ("connection-timeout", .string "3")]

/-- The five required parameters and a timeout are accepted, and the map has no thing name. -/
theorem certificate_with_timeout_accepted :
    (parseIotCredentialGstructure certificateWithTimeout ∅).1 = .ok true ∧
      (parseIotCredentialGstructure certificateWithTimeout ∅).2["connection-timeout"]? = some "3" ∧
      (parseIotCredentialGstructure certificateWithTimeout ∅).2[iotThingName]? = none := by
  have accepted := @iot_parameters_accepted_iff certificateWithTimeout (by decide)
  have here : (parseIotCredentialGstructure certificateWithTimeout ∅).1 = .ok true := by decide
  refine ⟨here, (accepted.2 here _ _).mpr (by decide), ?_⟩
  rw [Option.eq_none_iff_forall_ne_some]
  intro value found
  have member := (accepted.2 here iotThingName value).mp found
  simp [certificateWithTimeout, iotThingName] at member

end KvsProducer.KvsSinkUtil
