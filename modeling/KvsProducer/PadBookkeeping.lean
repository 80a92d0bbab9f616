import KvsProducer.SinkMachineProofs

/-! The collect list along a run. Only requests and releases change which pads
it lists; everything else may at most move ids and end-of-stream marks. Every
pad has one entry, because pads are never numbered twice. -/
namespace KvsProducer
open Gst History Runs

/-- The entry belongs to a pad that is on the element. -/
def GstKvsSink.Attached (sink : GstKvsSink) (track : GstKvsSinkTrackData) : Prop :=
  track ∈ sink.collect ∧ track.pad ∈ sink.pads

/-- An entry for the same pad, of the same kind. Its id is the old one, or the
one that a start with this media type writes. -/
def SameTrack (mediaType : MediaType) (before after : GstKvsSinkTrackData) : Prop :=
  after.pad = before.pad ∧ after.trackType = before.trackType ∧
    (after.trackId = before.trackId ∨ after.trackId = (initTrackId mediaType before).trackId)

private theorem same_track_refl (mediaType : MediaType) (tracks : List GstKvsSinkTrackData) :
    List.Forall₂ (SameTrack mediaType) tracks tracks :=
  List.forall₂_same.mpr fun _ _ => ⟨rfl, rfl, .inl rfl⟩

private theorem same_track_map {change : GstKvsSinkTrackData → GstKvsSinkTrackData}
    (same : ∀ track, SameTrack mediaType track (change track)) (tracks : List GstKvsSinkTrackData) :
    List.Forall₂ (SameTrack mediaType) tracks (tracks.map change) :=
  List.forall₂_map_right_iff.mpr (List.forall₂_same.mpr fun track _ => same track)

theorem init_track_id_same (mediaType : MediaType) (track : GstKvsSinkTrackData) :
    SameTrack mediaType track (initTrackId mediaType track) := by
  unfold SameTrack initTrackId
  split <;> simp

theorem Renumbered.same_tracks (numbered : Renumbered mediaType before after) :
    List.Forall₂ (SameTrack mediaType) before after := by
  refine numbered.imp ?_
  rintro track changed (rfl | rfl)
  · exact ⟨rfl, rfl, .inl rfl⟩
  · exact init_track_id_same mediaType track

theorem mark_eos_same (mediaType : MediaType) (pad : PadId) (track : GstKvsSinkTrackData) :
    SameTrack mediaType track (markEos pad track) := by
  unfold markEos
  split <;> exact ⟨rfl, rfl, .inl rfl⟩

/-- What an input leaves alone that neither requests nor releases a pad. -/
structure PadsStay (before after : GstKvsSink) : Prop where
  pads : after.pads = before.pads
  nextPad : after.nextPad = before.nextPad
  numAudioStreams : after.numAudioStreams = before.numAudioStreams
  numVideoStreams : after.numVideoStreams = before.numVideoStreams
  mediaType : after.data.mediaType = before.data.mediaType
  tracks : List.Forall₂ (SameTrack before.data.mediaType) before.collect after.collect

theorem PadsStay.refl (sink : GstKvsSink) : PadsStay sink sink :=
  ⟨rfl, rfl, rfl, rfl, rfl, same_track_refl _ _⟩

theorem PadsStay.of_session (same : after.sessionPart = before.sessionPart) :
    PadsStay before after := by
  have collect : after.collect = before.collect := congrArg (·.collect) same
  exact ⟨congrArg (·.pads) same, congrArg (·.nextPad) same, congrArg (·.numAudioStreams) same,
    congrArg (·.numVideoStreams) same, congrArg (·.data.mediaType) same,
    collect ▸ same_track_refl _ _⟩

theorem PadsStay.of_lasting (lasting : after.lastingPart = before.lastingPart)
    (tracks : Renumbered before.data.mediaType before.collect after.collect) :
    PadsStay before after :=
  ⟨congrArg (·.pads) lasting, congrArg (·.nextPad) lasting, congrArg (·.numAudioStreams) lasting,
    congrArg (·.numVideoStreams) lasting, congrArg (·.data.mediaType) lasting, tracks.same_tracks⟩

private theorem change_state_keeps_pads (pic : Pic) (sink : GstKvsSink) (transition : GstStateChange)
    (outcome : ChangeStateOutcome) : PadsStay sink (changeState pic sink transition outcome) := by
  have started : PadsStay sink sink.collectPadsStart :=
    ⟨rfl, rfl, rfl, rfl, rfl, @same_track_map _ (fun track => { track with eos := false })
      (fun _ => ⟨rfl, rfl, .inl rfl⟩) sink.collect⟩
  have changed := change_state_cases pic sink transition outcome
  generalize changeState pic sink transition outcome = next at changed
  cases changed with
  | started _ creates =>
    have kept := PadsStay.of_lasting creates.lasting creates.tracks
    exact ⟨kept.pads, kept.nextPad, kept.numAudioStreams, kept.numVideoStreams, kept.mediaType,
      kept.tracks⟩
  | startedInVain _ creates =>
    have kept := PadsStay.of_lasting creates.lasting creates.tracks
    exact ⟨kept.pads, kept.nextPad, kept.numAudioStreams, kept.numVideoStreams, kept.mediaType,
      kept.tracks⟩
  | notStarted _ _ kept => exact .of_lasting kept.lasting kept.tracks
  | collecting | collectingInVain =>
    exact ⟨rfl, rfl, rfl, rfl, rfl, started.tracks⟩
  | stopped | nothingToStop | moved | refused =>
    exact ⟨rfl, rfl, rfl, rfl, rfl, same_track_refl _ _⟩

/-- Only requests and releases change which pads the element has. -/
theorem other_inputs_keep_pads (pic : Pic) (sink : GstKvsSink) (input : Input)
    (noRequest : ∀ templ added, input ≠ .requestNewPad templ added)
    (noRelease : ∀ pad removed, input ≠ .releasePad pad removed) :
    PadsStay sink (applyInput pic sink input) := by
  cases input with
  | requestNewPad templ added => exact absurd rfl (noRequest templ added)
  | releasePad pad removed => exact absurd rfl (noRelease pad removed)
  | setProperty property =>
    have kept := set_property_keeps_element sink property
    exact ⟨kept.pads, kept.nextPad, kept.numAudioStreams, kept.numVideoStreams,
      congrArg (·.mediaType) kept.data, kept.collect ▸ same_track_refl _ _⟩
  | changeState transition outcome => exact change_state_keeps_pads pic sink transition outcome
  | sinkEvent pad event outcome =>
    obtain ⟨_, _, _, collect, changed, marked, _⟩ := sink_event_changes sink pad event outcome
    simp only [applyInput, changed]
    refine ⟨rfl, rfl, rfl, rfl, rfl, ?_⟩
    rcases marked with same | ⟨_, same⟩
    · exact same ▸ same_track_refl _ _
    · exact same ▸ same_track_map (mark_eos_same _ pad) _
  | buffer pad buffer outcome =>
    exact .of_session (buffer_from_pad_keeps_session pic sink pad buffer outcome)
  | noBuffer outcome => exact .of_session (buffer_keeps_session pic sink none outcome)
  | streamErrorReport status => exact .of_session (error_report_keeps_session pic sink status)
  | finalize =>
    obtain ⟨_, _, _, changed, _⟩ := finalize_changes sink
    simp only [applyInput, changed]
    exact ⟨rfl, rfl, rfl, rfl, rfl, same_track_refl _ _⟩

/-! ## One entry for each pad -/

/-- Pads are numbered once, so no two entries are about the same pad. -/
structure PadsDistinct (sink : GstKvsSink) : Prop where
  distinct : (sink.collect.map (·.pad)).Nodup
  below : ∀ pad ∈ sink.collect.map (·.pad), pad < sink.nextPad
  listed : ∀ pad ∈ sink.pads, pad < sink.nextPad

theorem same_tracks_pads (same : List.Forall₂ (SameTrack mediaType) before after) :
    after.map (·.pad) = before.map (·.pad) := by
  induction same with
  | nil => rfl
  | cons here _ ih => simp only [List.map_cons, here.1, ih]

/-- The request comes to a pad of this kind, of which there is none yet. -/
def GstKvsSink.Grants (sink : GstKvsSink) : PadTemplate → MkvTrackInfoType → Prop
  | .audio, trackType => trackType = .audio ∧ sink.numAudioStreams ≠ 1
  | .video, trackType => trackType = .video ∧ sink.numVideoStreams ≠ 1
  | .other, _ => False

/-- What a request leaves behind that was granted. -/
structure PadAdded (before : GstKvsSink) (trackType : MkvTrackInfoType) (added : Bool)
    (after : GstKvsSink) : Prop where
  nextPad : after.nextPad = before.nextPad + 1
  collect : after.collect =
    before.collect ++ [⟨before.nextPad, false, trackType, kvsSinkDefaultTrackId⟩]
  pads : after.pads = if added then before.pads ++ [before.nextPad] else before.pads

/-- A request adds one entry for a new pad, or changes nothing. -/
theorem request_cases (sink : GstKvsSink) (templ : PadTemplate) (added : Bool) :
    ((gstKvsSinkRequestNewPad sink templ added).1 = sink ∧ ∀ trackType, ¬ sink.Grants templ trackType) ∨
      ∃ trackType, sink.Grants templ trackType ∧
        PadAdded sink trackType added (gstKvsSinkRequestNewPad sink templ added).1 := by
  unfold gstKvsSinkRequestNewPad
  cases templ with
  | other => exact .inl ⟨rfl, fun _ => not_false⟩
  | audio =>
    simp only
    split
    · rename_i taken
      exact .inl ⟨rfl, fun _ grants => grants.2 (by simpa using taken)⟩
    · rename_i free
      refine .inr ⟨.audio, ⟨rfl, by simpa using free⟩, ?_⟩
      cases added <;> exact ⟨rfl, rfl, rfl⟩
  | video =>
    simp only
    split
    · rename_i taken
      exact .inl ⟨rfl, fun _ grants => grants.2 (by simpa using taken)⟩
    · rename_i free
      refine .inr ⟨.video, ⟨rfl, by simpa using free⟩, ?_⟩
      cases added <;> exact ⟨rfl, rfl, rfl⟩

/-- The walk of a release touches only the two counters of kinds. -/
theorem count_released_changes (pad : PadId) (tracks : List GstKvsSinkTrackData) (sink : GstKvsSink) :
    ∃ numAudioStreams numVideoStreams, tracks.foldl (countReleasedPad pad) sink =
      { sink with numAudioStreams, numVideoStreams } := by
  induction tracks generalizing sink with
  | nil => exact ⟨_, _, rfl⟩
  | cons track rest ih =>
    have one : ∃ numAudioStreams numVideoStreams, countReleasedPad pad sink track =
        { sink with numAudioStreams, numVideoStreams } := by
      unfold countReleasedPad
      split
      · split <;> exact ⟨_, _, rfl⟩
      · exact ⟨_, _, rfl⟩
    obtain ⟨_, _, counted⟩ := one
    rw [List.foldl_cons, counted]
    exact ih _

theorem release_collect (sink : GstKvsSink) (pad : PadId) (removed : Bool) :
    (gstKvsSinkReleasePad sink pad removed).collect = sink.collect.filter (·.pad != pad) ∧
      (gstKvsSinkReleasePad sink pad removed).nextPad = sink.nextPad ∧
      ∀ other ∈ (gstKvsSinkReleasePad sink pad removed).pads, other ∈ sink.pads := by
  obtain ⟨_, _, counted⟩ := count_released_changes pad sink.collect sink
  unfold gstKvsSinkReleasePad
  rw [counted]
  cases removed with
  | false => exact ⟨rfl, rfl, fun _ member => member⟩
  | true => exact ⟨rfl, rfl, fun _ member => List.mem_of_mem_filter member⟩

theorem PadsStay.distinct (stays : PadsStay before after) (held : PadsDistinct before) :
    PadsDistinct after := by
  have pads := same_tracks_pads stays.tracks
  constructor
  · rw [pads]
    exact held.distinct
  · rw [pads, stays.nextPad]
    exact held.below
  · rw [stays.pads, stays.nextPad]
    exact held.listed

theorem request_keeps_distinct (held : PadsDistinct sink) (templ : PadTemplate) (added : Bool) :
    PadsDistinct (gstKvsSinkRequestNewPad sink templ added).1 := by
  obtain ⟨same, _⟩ | ⟨trackType, _, nextPad, collect, listed⟩ := request_cases sink templ added
  · rw [same]
    exact held
  · have pads : (gstKvsSinkRequestNewPad sink templ added).1.collect.map (·.pad) =
        sink.collect.map (·.pad) ++ [sink.nextPad] := by simp [collect]
    constructor
    · rw [pads, List.nodup_append]
      refine ⟨held.distinct, List.nodup_singleton _, ?_⟩
      rintro pad member _ other rfl
      cases List.mem_singleton.mp other
      exact Nat.lt_irrefl _ (held.below _ member)
    · rw [pads, nextPad]
      intro pad member
      rcases List.mem_append.mp member with old | new
      · exact Nat.lt_succ_of_lt (held.below pad old)
      · cases List.mem_singleton.mp new
        exact Nat.lt_succ_self _
    · rw [listed, nextPad]
      intro pad member
      cases added with
      | false => exact Nat.lt_succ_of_lt (held.listed pad member)
      | true =>
        rcases List.mem_append.mp member with old | new
        · exact Nat.lt_succ_of_lt (held.listed pad old)
        · cases List.mem_singleton.mp new
          exact Nat.lt_succ_self _

theorem release_keeps_distinct (held : PadsDistinct sink) (pad : PadId) (removed : Bool) :
    PadsDistinct (gstKvsSinkReleasePad sink pad removed) := by
  obtain ⟨collect, nextPad, pads⟩ := release_collect sink pad removed
  have kept : ((gstKvsSinkReleasePad sink pad removed).collect.map (·.pad)).Sublist
      (sink.collect.map (·.pad)) := collect ▸ List.filter_sublist.map _
  exact ⟨held.distinct.sublist kept, fun other member => nextPad ▸ held.below other (kept.mem member),
    fun other member => nextPad ▸ held.listed other (pads other member)⟩

theorem step_keeps_pads_distinct (held : PadsDistinct sink)
    (accepted : step pic sink input = some next) : PadsDistinct next := by
  obtain ⟨_, rfl⟩ := step_eq_some.mp accepted
  by_cases request : ∃ templ added, input = .requestNewPad templ added
  · obtain ⟨templ, added, rfl⟩ := request
    exact request_keeps_distinct held templ added
  · by_cases release : ∃ pad removed, input = .releasePad pad removed
    · obtain ⟨pad, removed, rfl⟩ := release
      exact release_keeps_distinct held pad removed
    · have stays := other_inputs_keep_pads pic sink input
        (fun templ added is => request ⟨templ, added, is⟩)
        (fun pad removed is => release ⟨pad, removed, is⟩)
      exact stays.distinct held

theorem init_pads_distinct (now : UInt64) : PadsDistinct (gstKvsSinkInit now) := by
  constructor
  · exact List.nodup_nil
  · intro pad member
    cases member
  · intro pad member
    cases member

theorem reachable_pads_distinct (ran : runFromInit pic now inputs = some sink) : PadsDistinct sink :=
  invariant_reached (fun _ _ _ held accepted => step_keeps_pads_distinct held accepted)
    (init_pads_distinct now) ⟨inputs, ran⟩

/-! ## Counters, media type and ids -/

/-- How many entries are of this kind. -/
def countOf (trackType : MkvTrackInfoType) (tracks : List GstKvsSinkTrackData) : ℕ :=
  tracks.countP (·.trackType = trackType)

/-- The media type names every kind of which there is an entry. -/
def MediaType.covers : MediaType → MkvTrackInfoType → Prop
  | .audioVideo, _ => True
  | .videoOnly, trackType => trackType = .video
  | .audioOnly, trackType => trackType = .audio

/-- The counters count the entries, at most one of each kind; the media type
covers them; and only the audio entry of an audio and video element may have
left the default id. -/
structure PadsCounted (sink : GstKvsSink) : Prop where
  videos : sink.numVideoStreams.toNat = countOf .video sink.collect
  audios : sink.numAudioStreams.toNat = countOf .audio sink.collect
  oneVideo : countOf .video sink.collect ≤ 1
  oneAudio : countOf .audio sink.collect ≤ 1
  covered : ∀ track ∈ sink.collect, sink.data.mediaType.covers track.trackType
  ids : ∀ track ∈ sink.collect, track.trackType = .video ∨ sink.data.mediaType ≠ .audioVideo →
    track.trackId = kvsSinkDefaultTrackId

theorem same_tracks_count (same : List.Forall₂ (SameTrack mediaType) before after)
    (trackType : MkvTrackInfoType) : countOf trackType after = countOf trackType before := by
  induction same with
  | nil => rfl
  | cons here _ ih =>
    simp only [countOf, List.countP_cons] at ih ⊢
    rw [ih, here.2.1]

private theorem same_tracks_member (same : List.Forall₂ (SameTrack mediaType) before after)
    (member : track ∈ after) : ∃ old ∈ before, SameTrack mediaType old track := by
  induction same with
  | nil => cases member
  | cons here _ ih =>
    rcases List.mem_cons.mp member with rfl | later
    · exact ⟨_, List.mem_cons_self, here⟩
    · obtain ⟨old, inside, same⟩ := ih later
      exact ⟨old, List.mem_cons_of_mem _ inside, same⟩

theorem PadsStay.counted (stays : PadsStay before after) (counted : PadsCounted before) :
    PadsCounted after := by
  have counts := same_tracks_count stays.tracks
  constructor
  · rw [stays.numVideoStreams, counts, counted.videos]
  · rw [stays.numAudioStreams, counts, counted.audios]
  · rw [counts]
    exact counted.oneVideo
  · rw [counts]
    exact counted.oneAudio
  · intro track member
    obtain ⟨old, inside, same⟩ := same_tracks_member stays.tracks member
    rw [stays.mediaType, same.2.1]
    exact counted.covered old inside
  · intro track member settled
    obtain ⟨old, inside, same⟩ := same_tracks_member stays.tracks member
    rw [stays.mediaType, same.2.1] at settled
    have id := counted.ids old inside settled
    rcases same.2.2 with kept | written
    · rw [kept, id]
    · rw [written]
      unfold initTrackId
      split
      · rfl
      · rename_i media kind
        simp [media, kind] at settled
      · exact id

theorem count_eq_zero (none : countOf trackType tracks = 0) (member : track ∈ tracks) :
    track.trackType ≠ trackType := by
  have absent := List.countP_eq_zero.mp none track member
  simpa using absent

theorem count_pos (member : track ∈ tracks) : 0 < countOf track.trackType tracks :=
  List.countP_pos_iff.mpr ⟨track, member, by simp⟩

/-- The media type of a request covers every kind that is counted. -/
theorem requested_covers (trackType : MkvTrackInfoType) (numVideoStreams numAudioStreams : UInt32)
    (counted : 0 < (match trackType with | .video => numVideoStreams | .audio => numAudioStreams).toNat) :
    (requestedMediaType numVideoStreams numAudioStreams).covers trackType := by
  have positive (count : UInt32) : (count > 0) = (0 < count.toNat) := by
    simp [UInt32.lt_iff_toNat_lt]
  unfold requestedMediaType
  simp only [positive, Bool.and_eq_true, decide_eq_true_eq]
  cases trackType with
  | video =>
    simp only at counted
    by_cases audio : 0 < numAudioStreams.toNat
    · simp [counted, audio, MediaType.covers]
    · simp [counted, audio, MediaType.covers]
  | audio =>
    simp only at counted
    by_cases video : 0 < numVideoStreams.toNat
    · simp [counted, video, MediaType.covers]
    · simp [video, MediaType.covers]

/-- A request that is granted adds the first entry of its kind. -/
theorem granted_counted {sink asked : GstKvsSink} (counted : PadsCounted sink)
    (trackType : MkvTrackInfoType) (added : Bool) (free : countOf trackType sink.collect = 0)
    (collect : asked.collect = sink.collect)
    (videos : asked.numVideoStreams.toNat =
      countOf .video (sink.collect ++ [⟨asked.nextPad, false, trackType, kvsSinkDefaultTrackId⟩]))
    (audios : asked.numAudioStreams.toNat =
      countOf .audio (sink.collect ++ [⟨asked.nextPad, false, trackType, kvsSinkDefaultTrackId⟩])) :
    PadsCounted (addRequestedPad asked trackType added).1 := by
  have split (kind : MkvTrackInfoType) :
      countOf kind (sink.collect ++ [⟨asked.nextPad, false, trackType, kvsSinkDefaultTrackId⟩]) =
        countOf kind sink.collect + if trackType = kind then 1 else 0 := by
    simp [countOf, List.countP_append, List.countP_cons]
  have atMostOne (kind : MkvTrackInfoType) (few : countOf kind sink.collect ≤ 1) :
      countOf kind (sink.collect ++ [⟨asked.nextPad, false, trackType, kvsSinkDefaultTrackId⟩]) ≤ 1 := by
    rw [split]
    by_cases same : trackType = kind
    · subst same
      simp [free]
    · simp [same, few]
  have covered (track : GstKvsSinkTrackData)
      (member : track ∈ sink.collect ++ [⟨asked.nextPad, false, trackType, kvsSinkDefaultTrackId⟩]) :
      (requestedMediaType asked.numVideoStreams asked.numAudioStreams).covers track.trackType := by
    have present := count_pos member
    apply requested_covers
    cases kind : track.trackType with
    | video => simpa only [videos, kind] using present
    | audio => simpa only [audios, kind] using present
  have after : PadsCounted { asked with
      data := { asked.data with
        mediaType := requestedMediaType asked.numVideoStreams asked.numAudioStreams }
      collect := sink.collect ++ [⟨asked.nextPad, false, trackType, kvsSinkDefaultTrackId⟩] } := by
    refine ⟨videos, audios, atMostOne _ counted.oneVideo, atMostOne _ counted.oneAudio, covered, ?_⟩
    intro track member settled
    rcases List.mem_append.mp member with old | new
    · by_cases video : track.trackType = .video
      · exact counted.ids track old (.inl video)
      · have media := settled.resolve_left video
        have coversOld := covered track (List.mem_append_left _ old)
        have coversNew := covered _ (List.mem_append_right _ (List.mem_singleton_self _))
        have apart := count_eq_zero free old
        have audio : track.trackType = .audio := by
          cases kind : track.trackType with
          | video => exact absurd kind video
          | audio => rfl
        have newVideo : trackType = .video := by
          cases kind : trackType with
          | video => rfl
          | audio => exact absurd (audio.trans kind.symm) apart
        -- two kinds are covered, so it is an audio and video element
        simp only [audio, newVideo] at coversOld coversNew media
        cases mediaType : requestedMediaType asked.numVideoStreams asked.numAudioStreams with
        | audioVideo => exact absurd mediaType media
        | videoOnly => rw [mediaType] at coversOld; cases coversOld
        | audioOnly => rw [mediaType] at coversNew; cases coversNew
    · rw [List.mem_singleton.mp new]
  unfold addRequestedPad
  simp only [collect]
  cases added
  · exact ⟨after.videos, after.audios, after.oneVideo, after.oneAudio, after.covered, after.ids⟩
  · exact ⟨after.videos, after.audios, after.oneVideo, after.oneAudio, after.covered, after.ids⟩

theorem request_keeps_counted (counted : PadsCounted sink) (templ : PadTemplate) (added : Bool) :
    PadsCounted (gstKvsSinkRequestNewPad sink templ added).1 := by
  have one_more (kind : MkvTrackInfoType) (pad : PadId) (few : countOf kind sink.collect ≤ 1)
      (count : UInt32) (counts : count.toNat = countOf kind sink.collect) (taken : count ≠ 1) :
      countOf kind sink.collect = 0 ∧ (count + 1).toNat = countOf kind
        (sink.collect ++ [⟨pad, false, kind, kvsSinkDefaultTrackId⟩]) := by
    have free : count.toNat = 0 := by
      have differs : count.toNat ≠ 1 := fun same => taken (UInt32.toNat_inj.mp same)
      omega
    have zero : countOf kind sink.collect = 0 := counts ▸ free
    have split : countOf kind (sink.collect ++ [⟨pad, false, kind, kvsSinkDefaultTrackId⟩]) =
        countOf kind sink.collect + 1 := by simp [countOf, List.countP_append]
    refine ⟨zero, ?_⟩
    rw [split, zero, UInt32.toNat_add, free]
    rfl
  have other (kind new : MkvTrackInfoType) (pad : PadId) (apart : new ≠ kind) :
      countOf kind (sink.collect ++ [⟨pad, false, new, kvsSinkDefaultTrackId⟩]) =
        countOf kind sink.collect := by
    simp [countOf, List.countP_append, apart]
  unfold gstKvsSinkRequestNewPad
  cases templ with
  | other => exact counted
  | audio =>
    simp only
    split
    · exact counted
    · rename_i taken
      obtain ⟨free, more⟩ := one_more .audio sink.nextPad counted.oneAudio sink.numAudioStreams
        counted.audios (by simpa using taken)
      refine granted_counted counted .audio added free ?_ ?_ ?_
      · rfl
      · rw [other .video .audio _ nofun]
        exact counted.videos
      · exact more
  | video =>
    simp only
    split
    · exact counted
    · rename_i taken
      obtain ⟨free, more⟩ := one_more .video sink.nextPad counted.oneVideo sink.numVideoStreams
        counted.videos (by simpa using taken)
      refine granted_counted counted .video added free ?_ ?_ ?_
      · rfl
      · exact more
      · rw [other .audio .video _ nofun]
        exact counted.audios

/-- The walk of a release takes as many from a counter as there are entries of
its kind for the pad. -/
theorem count_released_counters (pad : PadId) (tracks : List GstKvsSinkTrackData) (sink : GstKvsSink)
    (videos : tracks.countP (fun track => track.pad = pad ∧ track.trackType = .video) ≤
      sink.numVideoStreams.toNat)
    (audios : tracks.countP (fun track => track.pad = pad ∧ track.trackType = .audio) ≤
      sink.numAudioStreams.toNat) :
    (tracks.foldl (countReleasedPad pad) sink).numVideoStreams.toNat =
        sink.numVideoStreams.toNat -
          tracks.countP (fun track => track.pad = pad ∧ track.trackType = .video) ∧
      (tracks.foldl (countReleasedPad pad) sink).numAudioStreams.toNat =
        sink.numAudioStreams.toNat -
          tracks.countP (fun track => track.pad = pad ∧ track.trackType = .audio) := by
  induction tracks generalizing sink with
  | nil => exact ⟨rfl, rfl⟩
  | cons track rest ih =>
    have one_less (count : UInt32) (some : 0 < count.toNat) : (count - 1).toNat = count.toNat - 1 :=
      UInt32.toNat_sub_of_le _ _ (UInt32.le_iff_toNat_le.mpr some)
    rw [List.foldl_cons]
    by_cases here : track.pad = pad
    · cases kind : track.trackType with
      | video =>
        have counted : countReleasedPad pad sink track =
            { sink with numVideoStreams := sink.numVideoStreams - 1 } := by
          simp [countReleasedPad, here, kind]
        simp only [List.countP_cons, here, kind] at videos audios ⊢
        have less := one_less sink.numVideoStreams (by simp at videos; omega)
        rw [counted]
        obtain ⟨video, audio⟩ := ih { sink with numVideoStreams := sink.numVideoStreams - 1 }
          (by simp at videos ⊢; omega) (by simpa using audios)
        constructor
        · rw [video]; simp; omega
        · rw [audio]; simp
      | audio =>
        have counted : countReleasedPad pad sink track =
            { sink with numAudioStreams := sink.numAudioStreams - 1 } := by
          simp [countReleasedPad, here, kind]
        simp only [List.countP_cons, here, kind] at videos audios ⊢
        have less := one_less sink.numAudioStreams (by simp at audios; omega)
        rw [counted]
        obtain ⟨video, audio⟩ := ih { sink with numAudioStreams := sink.numAudioStreams - 1 }
          (by simpa using videos) (by simp at audios ⊢; omega)
        constructor
        · rw [video]; simp
        · rw [audio]; simp; omega
    · have counted : countReleasedPad pad sink track = sink := by simp [countReleasedPad, here]
      simp only [List.countP_cons, here] at videos audios ⊢
      rw [counted]
      simpa using ih sink (by simpa using videos) (by simpa using audios)

theorem count_after_release (kind : MkvTrackInfoType) (pad : PadId) (tracks : List GstKvsSinkTrackData) :
    countOf kind tracks = countOf kind (tracks.filter (·.pad != pad)) +
      tracks.countP (fun track => track.pad = pad ∧ track.trackType = kind) := by
  rw [countOf, List.countP_eq_countP_filter_add tracks _ (·.pad != pad)]
  congr 1
  rw [List.countP_filter]
  apply List.countP_congr
  intro track _
  simp [and_comm]

theorem release_keeps_counted (counted : PadsCounted sink) (pad : PadId) (removed : Bool) :
    PadsCounted (gstKvsSinkReleasePad sink pad removed) := by
  have videos := count_after_release .video pad sink.collect
  have audios := count_after_release .audio pad sink.collect
  have counters := count_released_counters pad sink.collect sink
    (by rw [counted.videos]; omega) (by rw [counted.audios]; omega)
  have sameMedia : (sink.collect.foldl (countReleasedPad pad) sink).data.mediaType =
      sink.data.mediaType := by
    obtain ⟨_, _, walked⟩ := count_released_changes pad sink.collect sink
    rw [walked]
  obtain ⟨collect, _⟩ := release_collect sink pad removed
  have after : (gstKvsSinkReleasePad sink pad removed).data.mediaType = sink.data.mediaType ∧
      (gstKvsSinkReleasePad sink pad removed).numVideoStreams =
        (sink.collect.foldl (countReleasedPad pad) sink).numVideoStreams ∧
      (gstKvsSinkReleasePad sink pad removed).numAudioStreams =
        (sink.collect.foldl (countReleasedPad pad) sink).numAudioStreams := by
    unfold gstKvsSinkReleasePad
    cases removed <;> exact ⟨sameMedia, rfl, rfl⟩
  have oneVideo := counted.oneVideo
  have oneAudio := counted.oneAudio
  constructor
  · rw [after.2.1, counters.1, counted.videos, collect]
    omega
  · rw [after.2.2, counters.2, counted.audios, collect]
    omega
  · rw [collect]
    omega
  · rw [collect]
    omega
  · intro track member
    rw [collect] at member
    rw [after.1]
    exact counted.covered track (List.mem_of_mem_filter member)
  · intro track member settled
    rw [collect] at member
    rw [after.1] at settled
    exact counted.ids track (List.mem_of_mem_filter member) settled

theorem step_keeps_pads_counted (counted : PadsCounted sink)
    (accepted : step pic sink input = some next) : PadsCounted next := by
  obtain ⟨_, rfl⟩ := step_eq_some.mp accepted
  by_cases request : ∃ templ added, input = .requestNewPad templ added
  · obtain ⟨templ, added, rfl⟩ := request
    exact request_keeps_counted counted templ added
  · by_cases release : ∃ pad removed, input = .releasePad pad removed
    · obtain ⟨pad, removed, rfl⟩ := release
      exact release_keeps_counted counted pad removed
    · have stays := other_inputs_keep_pads pic sink input
        (fun templ added is => request ⟨templ, added, is⟩)
        (fun pad removed is => release ⟨pad, removed, is⟩)
      exact stays.counted counted

theorem init_pads_counted (now : UInt64) : PadsCounted (gstKvsSinkInit now) := by
  refine ⟨rfl, rfl, Nat.zero_le _, Nat.zero_le _, ?_, ?_⟩
  · intro track member
    cases member
  · intro track member
    cases member

end KvsProducer
