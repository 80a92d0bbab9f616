import KvsProducer.PadBookkeeping

/-! The pads that are attached to the element, and what the element keeps beside
them: three counters, which count them, and the media type, which a release
forgets. -/
namespace KvsProducer
open Gst History Runs

/-- How many attached pads are of this kind. -/
def GstKvsSink.attached (sink : GstKvsSink) (kind : MkvTrackInfoType) : ℕ :=
  sink.pads.countP fun pad => (sink.trackOf pad).any (·.trackType = kind)

structure CountersAgree (sink : GstKvsSink) : Prop where
  videos : sink.numVideoStreams.toNat = sink.attached .video
  audios : sink.numAudioStreams.toNat = sink.attached .audio
  streams : sink.numStreams.toNat = sink.attached .video + sink.attached .audio
  oneVideo : sink.attached .video ≤ 1
  oneAudio : sink.attached .audio ≤ 1

/-- While there are pads, the media type says which kinds they are of. -/
structure MediaTypeAgrees (sink : GstKvsSink) : Prop where
  audioVideo : sink.data.mediaType = .audioVideo ↔ 0 < sink.attached .video ∧ 0 < sink.attached .audio
  videoOnly : sink.data.mediaType = .videoOnly ↔ 0 < sink.attached .video ∧ sink.attached .audio = 0
  audioOnly : sink.data.mediaType = .audioOnly ↔ sink.attached .video = 0 ∧ 0 < sink.attached .audio

structure PadsAgree (sink : GstKvsSink) : Prop where
  counters : CountersAgree sink
  mediaType : sink.pads ≠ [] → MediaTypeAgrees sink

/-- `gst_element_add_pad` and `gst_element_remove_pad` succeed. -/
def Input.padsSucceed : Input → Bool
  | .requestNewPad _ added => added
  | .releasePad _ removed => removed
  | _ => true

/-- The element where every pad that is wanted can be added and removed. -/
def padStep (pic : Pic) (sink : GstKvsSink) (input : Input) : Option GstKvsSink :=
  if input.padsSucceed then step pic sink input else none

/-! ## Pads and entries -/

/-- Each attached pad has its entry and each entry its pad. -/
structure PadsTogether (sink : GstKvsSink) : Prop where
  distinct : PadsDistinct sink
  counted : PadsCounted sink
  listed : sink.pads = sink.collect.map (·.pad)
  streams : sink.numStreams.toNat = sink.collect.length

/-- The entry of a pad is found. -/
theorem entry_found {tracks : List GstKvsSinkTrackData} (distinct : (tracks.map (·.pad)).Nodup)
    (member : track ∈ tracks) :
    tracks.find? (·.pad == track.pad) = some track := by
  induction tracks with
  | nil => cases member
  | cons first rest ih =>
    rw [List.map_cons, List.nodup_cons] at distinct
    rcases List.mem_cons.mp member with rfl | later
    · exact List.find?_cons_of_pos (beq_self_eq_true _)
    · have apart : (first.pad == track.pad) = false := by
        rw [beq_eq_false_iff_ne]
        intro same
        apply distinct.1
        rw [same]
        exact List.mem_map_of_mem later
      simp only [List.find?_cons, apart]
      exact ih distinct.2 later

theorem PadsTogether.attached_count (together : PadsTogether sink) (kind : MkvTrackInfoType) :
    sink.attached kind = countOf kind sink.collect := by
  unfold GstKvsSink.attached countOf
  rw [together.listed, List.countP_map]
  apply List.countP_congr
  intro track member
  have found : sink.trackOf track.pad = some track := entry_found together.distinct.distinct member
  simp [found]

private theorem two_kinds (tracks : List GstKvsSinkTrackData) :
    tracks.length = countOf .video tracks + countOf .audio tracks := by
  induction tracks with
  | nil => rfl
  | cons track rest ih =>
    simp only [countOf, List.countP_cons, List.length_cons] at ih ⊢
    cases kind : track.trackType with
    | video =>
      simp
      omega
    | audio =>
      simp
      omega

theorem PadsTogether.counters (together : PadsTogether sink) : CountersAgree sink := by
  have counted := together.counted
  constructor
  · rw [together.attached_count]
    exact counted.videos
  · rw [together.attached_count]
    exact counted.audios
  · rw [together.attached_count, together.attached_count, together.streams]
    exact two_kinds sink.collect
  · rw [together.attached_count]
    exact counted.oneVideo
  · rw [together.attached_count]
    exact counted.oneAudio

/-! ## Requests and releases that succeed -/

/-- What a request does whose pad is added, and one that is refused. -/
theorem request_streams (sink : GstKvsSink) (templ : PadTemplate) :
    (gstKvsSinkRequestNewPad sink templ true).1 = sink ∨
      (gstKvsSinkRequestNewPad sink templ true).1.numStreams = sink.numStreams + 1 ∧
      (gstKvsSinkRequestNewPad sink templ true).1.data.mediaType =
        requestedMediaType (gstKvsSinkRequestNewPad sink templ true).1.numVideoStreams
          (gstKvsSinkRequestNewPad sink templ true).1.numAudioStreams := by
  unfold gstKvsSinkRequestNewPad
  cases templ with
  | other => exact .inl rfl
  | audio | video =>
    simp only
    split
    · exact .inl rfl
    · exact .inr ⟨rfl, rfl⟩

/-- A release keeps the media type, whichever pad goes. -/
theorem release_streams (sink : GstKvsSink) (pad : PadId) :
    (gstKvsSinkReleasePad sink pad true).numStreams = sink.numStreams - 1 ∧
      (gstKvsSinkReleasePad sink pad true).data.mediaType = sink.data.mediaType ∧
      (gstKvsSinkReleasePad sink pad true).pads = sink.pads.filter (· != pad) := by
  obtain ⟨_, _, counted⟩ := count_released_changes pad sink.collect sink
  unfold gstKvsSinkReleasePad
  rw [counted]
  exact ⟨rfl, rfl, rfl⟩

private theorem request_keeps_together (together : PadsTogether sink) (templ : PadTemplate) :
    PadsTogether (gstKvsSinkRequestNewPad sink templ true).1 := by
  have distinct := request_keeps_distinct together.distinct templ true
  have counted := request_keeps_counted together.counted templ true
  rcases request_streams sink templ with same | ⟨streams, _⟩
  · rw [same]
    exact together
  · obtain ⟨same, _⟩ | ⟨trackType, _, _, collect, listed⟩ := request_cases sink templ true
    · rw [same]
      exact together
    · refine ⟨distinct, counted, ?_, ?_⟩
      · rw [listed, collect, if_pos rfl, together.listed, List.map_append]
        rfl
      · have few : sink.collect.length ≤ 2 := by
          have both := two_kinds sink.collect
          have oneVideo := together.counted.oneVideo
          have oneAudio := together.counted.oneAudio
          omega
        rw [streams, collect, List.length_append, UInt32.toNat_add, together.streams]
        simp only [List.length_singleton]
        change (_ + 1) % _ = _
        omega

private theorem release_keeps_together (together : PadsTogether sink) (attached : pad ∈ sink.pads) :
    PadsTogether (gstKvsSinkReleasePad sink pad true) := by
  obtain ⟨streams, _, pads⟩ := release_streams sink pad
  obtain ⟨collect, _, _⟩ := release_collect sink pad true
  refine ⟨release_keeps_distinct together.distinct pad true,
    release_keeps_counted together.counted pad true, ?_, ?_⟩
  · rw [pads, collect, together.listed, List.filter_map]
    rfl
  · have one : (sink.collect.filter (·.pad != pad)).length + 1 = sink.collect.length := by
      rw [together.listed] at attached
      have erased := List.length_erase_of_mem attached
      rw [together.distinct.distinct.erase_eq_filter, List.filter_map, List.length_map, List.length_map]
        at erased
      have some := List.length_pos_of_mem attached
      rw [List.length_map] at some
      change (sink.collect.filter (·.pad != pad)).length = _ at erased
      omega
    have counted := together.streams
    rw [streams, collect, UInt32.toNat_sub_of_le]
    · change _ - 1 = _
      omega
    · rw [UInt32.le_iff_toNat_le]
      change 1 ≤ _
      omega

/-- Only requests and releases write the counter of all pads. -/
theorem other_inputs_keep_streams (pic : Pic) (sink : GstKvsSink) (input : Input)
    (noRequest : ∀ templ added, input ≠ .requestNewPad templ added)
    (noRelease : ∀ pad removed, input ≠ .releasePad pad removed) :
    (applyInput pic sink input).numStreams = sink.numStreams := by
  have session {before after : GstKvsSink} (same : after.sessionPart = before.sessionPart) :
      after.numStreams = before.numStreams := congrArg (·.numStreams) same
  cases input with
  | requestNewPad templ added => exact absurd rfl (noRequest templ added)
  | releasePad pad removed => exact absurd rfl (noRelease pad removed)
  | setProperty property => cases property <;> rfl
  | changeState transition outcome =>
    exact congrArg (·.numStreams) (change_state_keeps_unmoved pic sink transition outcome)
  | sinkEvent pad event outcome =>
    obtain ⟨_, _, _, _, changed, _, _⟩ := sink_event_changes sink pad event outcome
    simp only [applyInput, changed]
  | buffer pad buffer outcome => exact session (buffer_from_pad_keeps_session pic sink pad buffer outcome)
  | noBuffer outcome => exact session (buffer_keeps_session pic sink none outcome)
  | streamErrorReport status => exact session (error_report_keeps_session pic sink status)
  | finalize =>
    obtain ⟨_, _, _, changed, _⟩ := finalize_changes sink
    simp only [applyInput, changed]

theorem PadsStay.together (stays : PadsStay before after) (streams : after.numStreams = before.numStreams)
    (together : PadsTogether before) : PadsTogether after := by
  refine ⟨stays.distinct together.distinct, stays.counted together.counted, ?_, ?_⟩
  · rw [stays.pads, together.listed, same_tracks_pads stays.tracks]
  · rw [streams, together.streams]
    exact stays.tracks.length_eq

theorem pad_step_cases (accepted : padStep pic sink input = some next) :
    input.padsSucceed = true ∧ accepts sink input = true ∧ applyInput pic sink input = next := by
  unfold padStep at accepted
  split at accepted
  · rename_i succeed
    exact ⟨succeed, step_eq_some.mp accepted⟩
  · cases accepted

theorem step_keeps_pads_together (together : PadsTogether sink)
    (accepted : padStep pic sink input = some next) : PadsTogether next := by
  obtain ⟨succeed, admitted, rfl⟩ := pad_step_cases accepted
  by_cases request : ∃ templ added, input = .requestNewPad templ added
  · obtain ⟨templ, added, rfl⟩ := request
    cases succeed
    exact request_keeps_together together templ
  · by_cases release : ∃ pad removed, input = .releasePad pad removed
    · obtain ⟨pad, removed, rfl⟩ := release
      cases succeed
      simp only [accepts, Bool.and_eq_true, List.contains_iff_mem] at admitted
      exact release_keeps_together together admitted.2
    · have noRequest (templ : PadTemplate) (added : Bool) : input ≠ .requestNewPad templ added :=
        fun is => request ⟨templ, added, is⟩
      have noRelease (pad : PadId) (removed : Bool) : input ≠ .releasePad pad removed :=
        fun is => release ⟨pad, removed, is⟩
      exact (other_inputs_keep_pads pic sink input noRequest noRelease).together
        (other_inputs_keep_streams pic sink input noRequest noRelease) together

/-! ## The media type -/

theorem PadsStay.agrees (stays : PadsStay before after) (together : PadsTogether before)
    (togetherAfter : PadsTogether after) (agrees : PadsAgree before) : PadsAgree after := by
  have attached (kind : MkvTrackInfoType) : after.attached kind = before.attached kind := by
    rw [together.attached_count, togetherAfter.attached_count]
    exact same_tracks_count stays.tracks kind
  refine ⟨togetherAfter.counters, fun some => ?_⟩
  have media := agrees.mediaType (stays.pads ▸ some)
  constructor
  · rw [stays.mediaType, attached, attached]
    exact media.audioVideo
  · rw [stays.mediaType, attached, attached]
    exact media.videoOnly
  · rw [stays.mediaType, attached, attached]
    exact media.audioOnly

/-- What a refused request should leave as it was. -/
structure LeavesNoTrace (before after : GstKvsSink) : Prop where
  numAudioStreams : after.numAudioStreams = before.numAudioStreams
  numVideoStreams : after.numVideoStreams = before.numVideoStreams
  numStreams : after.numStreams = before.numStreams
  mediaType : after.data.mediaType = before.data.mediaType
  collect : after.collect = before.collect

/-- The request comes as far as `gst_element_add_pad`. -/
def GstKvsSink.ReachesAddPad (sink : GstKvsSink) (templ : PadTemplate) : Prop :=
  ∃ trackType, sink.Grants templ trackType

/-- An entry whose pad the element never got, and never will. -/
structure Dangles (sink : GstKvsSink) (track : GstKvsSinkTrackData) : Prop where
  entry : ∃ here ∈ sink.collect, here.pad = track.pad ∧ here.trackType = track.trackType
  apart : track.pad ∉ sink.pads
  below : track.pad < sink.nextPad

private theorem request_keeps_dangling (dangles : Dangles sink track) (templ : PadTemplate) (added : Bool) :
    Dangles (gstKvsSinkRequestNewPad sink templ added).1 track := by
  obtain ⟨same, _⟩ | ⟨trackType, _, nextPad, collect, listed⟩ := request_cases sink templ added
  · rw [same]
    exact dangles
  · obtain ⟨here, member, same⟩ := dangles.entry
    refine ⟨⟨here, ?_, same⟩, ?_, ?_⟩
    · rw [collect]
      exact List.mem_append_left _ member
    · rw [listed]
      cases added with
      | false => exact dangles.apart
      | true =>
        intro member
        rcases List.mem_append.mp member with old | new
        · exact dangles.apart old
        · exact absurd dangles.below (by rw [List.mem_singleton.mp new]; exact Nat.lt_irrefl _)
    · rw [nextPad]
      exact Nat.lt_succ_of_lt dangles.below

theorem release_keeps_dangling (dangles : Dangles sink track) (attached : pad ∈ sink.pads) (removed : Bool) :
    Dangles (gstKvsSinkReleasePad sink pad removed) track := by
  obtain ⟨collect, nextPad, listed⟩ := release_collect sink pad removed
  obtain ⟨here, member, same⟩ := dangles.entry
  have other : here.pad ≠ pad := by
    intro same'
    exact dangles.apart (same.1 ▸ same' ▸ attached)
  refine ⟨⟨here, ?_, same⟩, fun member => dangles.apart (listed _ member), nextPad ▸ dangles.below⟩
  rw [collect]
  exact List.mem_filter.mpr ⟨member, by simpa using other⟩

theorem PadsStay.dangling (stays : PadsStay before after) (dangles : Dangles before track) :
    Dangles after track := by
  obtain ⟨here, member, same⟩ := dangles.entry
  refine ⟨?_, stays.pads ▸ dangles.apart, stays.nextPad ▸ dangles.below⟩
  obtain ⟨position, bound, rfl⟩ := List.mem_iff_getElem.mp member
  have boundAfter : position < after.collect.length := stays.tracks.length_eq ▸ bound
  have moved := stays.tracks.get bound boundAfter
  exact ⟨after.collect[position], List.getElem_mem boundAfter, moved.1.trans same.1, moved.2.1.trans same.2⟩

/-- Nothing removes an entry whose pad was never attached. -/
theorem step_keeps_dangling (dangles : Dangles sink track) (accepted : step pic sink input = some next) :
    Dangles next track := by
  obtain ⟨admitted, rfl⟩ := step_eq_some.mp accepted
  by_cases request : ∃ templ added, input = .requestNewPad templ added
  · obtain ⟨templ, added, rfl⟩ := request
    exact request_keeps_dangling dangles templ added
  · by_cases release : ∃ pad removed, input = .releasePad pad removed
    · obtain ⟨pad, removed, rfl⟩ := release
      simp only [accepts, Bool.and_eq_true, List.contains_iff_mem] at admitted
      exact release_keeps_dangling dangles admitted.2 removed
    · exact (other_inputs_keep_pads pic sink input (fun templ added is => request ⟨templ, added, is⟩)
        fun pad removed is => release ⟨pad, removed, is⟩).dangling dangles

/-- A kind of which there is an entry is not granted. -/
theorem entry_refuses (counted : PadsCounted sink) (entry : ∃ here ∈ sink.collect, here.trackType = trackType) :
    ¬ sink.Grants templ trackType := by
  obtain ⟨here, member, rfl⟩ := entry
  have some := count_pos member
  intro grants
  cases templ with
  | other => exact grants
  | audio =>
    obtain ⟨kind, free⟩ := grants
    rw [kind] at some
    apply free
    apply UInt32.toNat_inj.mp
    have one := counted.oneAudio
    rw [counted.audios]
    change _ = 1
    omega
  | video =>
    obtain ⟨kind, free⟩ := grants
    rw [kind] at some
    apply free
    apply UInt32.toNat_inj.mp
    have one := counted.oneVideo
    rw [counted.videos]
    change _ = 1
    omega

/-- What a request returns. -/
theorem request_returns (sink : GstKvsSink) (templ : PadTemplate) (added : Bool) :
    (gstKvsSinkRequestNewPad sink templ added).2 = none ↔ ¬ sink.ReachesAddPad templ ∨ added = false := by
  unfold GstKvsSink.ReachesAddPad gstKvsSinkRequestNewPad addRequestedPad
  cases templ with
  | other => simp [GstKvsSink.Grants]
  | audio => by_cases taken : sink.numAudioStreams = 1 <;> cases added <;> simp [GstKvsSink.Grants, taken]
  | video => by_cases taken : sink.numVideoStreams = 1 <;> cases added <;> simp [GstKvsSink.Grants, taken]

/-- A request that fails at its last step leaves an entry that nothing removes. -/
theorem failed_add_dangles (distinct : PadsDistinct sink) (grants : sink.Grants templ trackType) :
    Dangles (gstKvsSinkRequestNewPad sink templ false).1
      ⟨sink.nextPad, false, trackType, kvsSinkDefaultTrackId⟩ := by
  obtain ⟨_, denied⟩ | ⟨kind, grantsToo, nextPad, collect, listed⟩ := request_cases sink templ false
  · exact absurd grants (denied trackType)
  · have same : kind = trackType := by
      cases templ with
      | other => exact absurd grants id
      | audio | video => exact grantsToo.1.trans grants.1.symm
    subst same
    constructor
    · refine ⟨_, ?_, rfl, rfl⟩
      rw [collect]
      exact List.mem_append_right _ (List.mem_singleton_self _)
    · rw [listed]
      intro member
      exact Nat.lt_irrefl _ (distinct.listed _ member)
    · rw [nextPad]
      exact Nat.lt_succ_self _

private theorem request_traceless_iff (sink : GstKvsSink) (templ : PadTemplate) (added : Bool) :
    LeavesNoTrace sink (gstKvsSinkRequestNewPad sink templ added).1 ↔ ¬ sink.ReachesAddPad templ := by
  obtain ⟨same, denied⟩ | ⟨trackType, grants, _, collect, _⟩ := request_cases sink templ added
  · rw [same]
    exact iff_of_true ⟨rfl, rfl, rfl, rfl, rfl⟩ fun ⟨trackType, grants⟩ => denied trackType grants
  · refine iff_of_false (fun traceless => ?_) fun denied => denied ⟨trackType, grants⟩
    have longer := congrArg List.length (collect.symm.trans traceless.collect)
    simp at longer

/-- **Refused requests.** A request that returns no pad leaves no trace exactly if
it does not come as far as `gst_element_add_pad`. One that fails there takes its
kind away from the element: no later request for it gets a pad. -/
theorem refused_request_leaves_no_trace (reached : runFromInit pic now inputs = some sink)
    (refused : (gstKvsSinkRequestNewPad sink templ added).2 = none) :
    (LeavesNoTrace sink (gstKvsSinkRequestNewPad sink templ added).1 ↔ ¬ sink.ReachesAddPad templ) ∧
      (sink.ReachesAddPad templ → ∀ rest later,
        run (step pic) (gstKvsSinkRequestNewPad sink templ added).1 rest = some later →
          ∀ addedLater, (gstKvsSinkRequestNewPad later templ addedLater).2 = none) := by
  refine ⟨request_traceless_iff sink templ added, ?_⟩
  rintro ⟨trackType, grants⟩ rest later ran addedLater
  have failed : added = false :=
    ((request_returns sink templ added).mp refused).resolve_left fun denied => denied ⟨trackType, grants⟩
  subst failed
  have counted : PadsCounted sink := invariant_reached
    (fun _ _ _ counted accepted => step_keeps_pads_counted counted accepted) (init_pads_counted now) ⟨inputs, reached⟩
  have dangles := invariant_reached (fun _ _ _ dangles accepted => step_keeps_dangling dangles accepted)
    (failed_add_dangles (reachable_pads_distinct reached) grants) ⟨rest, ran⟩
  have countedLater : PadsCounted later := invariant_reached
    (fun _ _ _ counted accepted => step_keeps_pads_counted counted accepted)
    (request_keeps_counted counted templ false) ⟨rest, ran⟩
  apply (request_returns later templ addedLater).mpr
  left
  rintro ⟨kind, again⟩
  have same : kind = trackType := by
    cases templ with
    | other => exact absurd grants id
    | audio | video => exact again.1.trans grants.1.symm
  subst same
  obtain ⟨here, member, _, ofKind⟩ := dangles.entry
  exact entry_refuses countedLater ⟨here, member, ofKind⟩ again

/-- A second video pad is refused without a trace, and so is a foreign template. -/
theorem second_video_pad_leaves_no_trace :
    ∃ sink, runFromInit .sample 0 [.requestNewPad .video true] = some sink ∧
      LeavesNoTrace sink (gstKvsSinkRequestNewPad sink .video true).1 ∧
      LeavesNoTrace sink (gstKvsSinkRequestNewPad sink .other true).1 := by
  have evaluated : (runFromInit .sample 0 [.requestNewPad .video true]).map (fun sink =>
      ((gstKvsSinkRequestNewPad sink .video true).2, (gstKvsSinkRequestNewPad sink .other true).2,
        sink.numVideoStreams)) = some (none, none, 1) := by decide
  obtain ⟨sink, reached, facts⟩ := Option.map_eq_some_iff.mp evaluated
  simp only [Prod.mk.injEq] at facts
  obtain ⟨video, other, one⟩ := facts
  refine ⟨sink, reached, (refused_request_leaves_no_trace reached video).1.mpr ?_,
    (refused_request_leaves_no_trace reached other).1.mpr ?_⟩
  · rintro ⟨_, _, free⟩
    exact free one
  · rintro ⟨_, ⟨⟩⟩

/-- The first video pad cannot be added; the next one is refused as the second. -/
theorem failed_add_takes_video_away :
    ((run (step .sample) (gstKvsSinkInit 0) [.requestNewPad .video false]).map fun sink =>
        (sink.pads, sink.numVideoStreams, sink.collect.length, (gstKvsSinkRequestNewPad sink .video true).2)) =
      some ([], 1, 1, none) ∧
    (gstKvsSinkRequestNewPad (gstKvsSinkInit 0) .video false).2 = none := by decide

end KvsProducer
