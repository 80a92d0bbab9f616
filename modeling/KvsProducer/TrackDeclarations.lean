import KvsProducer.PadBookkeeping
import KvsProducer.StreamCreation

/-! Whether the frames of a pad carry the id of a track of their kind. The ids
are written when a pad is requested and when a session starts; the tracks are
declared when the stream is created. They agree for as long as no pad comes in
between, and as the type of the first track is not left over. -/
namespace KvsProducer
open Gst History Runs

/-- What the stream in hand was declared with. -/
def GstKvsSink.CurrentDefinition (sink : GstKvsSink) (definition : StreamDefinition) : Prop :=
  ∃ stream, sink.data.kinesisVideoStream = some stream ∧ (stream, definition) ∈ sink.declarations

/-- The next buffer of the pad can be submitted as this frame. -/
def FrameFrom (pic : Pic) (sink : GstKvsSink) (pad : PadId) (frame : Frame) : Prop :=
  ∃ buffer outcome next stream status, step pic sink (.buffer pad buffer outcome) = some next ∧
    .statusPutFrame stream frame status ∈ next.since sink

/-- **Frames of different pads never share a track.** In a session the entry of
every attached pad names a track of its kind, a frame names the track of its
pad, and two pads never name the same. -/
structure TracksApart (pic : Pic) (sink : GstKvsSink) : Prop where
  declared : sink.state ≠ .null → ∀ track, sink.Attached track →
    ∃ definition, sink.CurrentDefinition definition ∧ definition.Declares track.trackId track.trackType
  submitted : ∀ pad frame, FrameFrom pic sink pad frame →
    ∃ track definition, sink.trackOf pad = some track ∧ sink.CurrentDefinition definition ∧
      definition.Declares frame.trackId track.trackType
  apart : ∀ pad other frame otherFrame, pad ≠ other → FrameFrom pic sink pad frame →
    FrameFrom pic sink other otherFrame → frame.trackId ≠ otherFrame.trackId

/-- A pad that joins a session is of the kind its stream declares for the
default id, and a start with a video pad does not inherit the type that an
audio session left behind. -/
def KeepsTracksApart (pic : Pic) (sink : GstKvsSink) : Input → Prop
  | .requestNewPad templ true =>
    sink.state ≠ .null → ∀ trackType, sink.Grants templ trackType →
      ∀ definition, sink.CurrentDefinition definition →
        definition.Declares kvsSinkDefaultTrackId trackType
  | .changeState .nullToReady outcome =>
    (changeState pic sink .nullToReady outcome).state = .ready →
      (∃ track, sink.Attached track ∧ track.trackType = .video) → sink.trackInfoType = .video
  | _ => True

/-! ## The definition of the session -/

/-- In a session the stream in hand has one definition, with the tracks of a
start; and streams are numbered in order. -/
structure SessionDefined (sink : GstKvsSink) : Prop where
  below : ∀ entry ∈ sink.declarations, entry.1 < sink.nextStream
  shape : sink.state ≠ .null → ∃ definition mediaType,
    (∀ other, sink.CurrentDefinition other ↔ other = definition) ∧
      definition.trackInfo.map StreamTrackInfo.kind = declaredTracks mediaType sink.trackInfoType

/-- What every input leaves alone that neither requests a pad nor starts a session. -/
structure SessionStays (before after : GstKvsSink) : Prop where
  fromActive : after.state ≠ .null → before.state ≠ .null
  stream : after.data.kinesisVideoStream = before.data.kinesisVideoStream
  nextStream : after.nextStream = before.nextStream
  trackInfoType : after.trackInfoType = before.trackInfoType
  pads : ∀ pad ∈ after.pads, pad ∈ before.pads
  entries : ∀ track ∈ after.collect, ∃ old ∈ before.collect,
    old.pad = track.pad ∧ old.trackType = track.trackType ∧ old.trackId = track.trackId

theorem SessionStays.of_same {before after : GstKvsSink} (state : after.state = before.state)
    (stream : after.data.kinesisVideoStream = before.data.kinesisVideoStream)
    (nextStream : after.nextStream = before.nextStream)
    (trackInfoType : after.trackInfoType = before.trackInfoType)
    (pads : after.pads = before.pads) (collect : after.collect = before.collect) :
    SessionStays before after :=
  ⟨state ▸ id, stream, nextStream, trackInfoType, pads ▸ fun _ member => member,
    collect ▸ fun track member => ⟨track, member, rfl, rfl, rfl⟩⟩

theorem SessionStays.of_session (same : GstKvsSink.sessionPart after = GstKvsSink.sessionPart before) :
    SessionStays before after :=
  .of_same (congrArg (·.state) same) (session_stream same) (congrArg (·.nextStream) same)
    (congrArg (·.trackInfoType) same) (congrArg (·.pads) same) (congrArg (·.collect) same)

private theorem change_state_stays (admitted : accepts sink (.changeState transition outcome) = true)
    (running : transition ≠ .nullToReady) (pic : Pic) :
    SessionStays sink (changeState pic sink transition outcome) := by
  have active : transition ≠ .readyToNull → sink.state ≠ .null := by
    rw [accepted_transition admitted]
    cases transition with
    | nullToReady => exact absurd rfl running
    | readyToPaused | pausedToPlaying | playingToPaused | pausedToReady | readyToNull =>
      intro _
      nofun
  have changed := change_state_cases pic sink transition outcome
  generalize changeState pic sink transition outcome = next at changed
  have unmarked : ∀ track ∈ sink.collectPadsStart.collect, ∃ old ∈ sink.collect,
      old.pad = track.pad ∧ old.trackType = track.trackType ∧ old.trackId = track.trackId := by
    intro track member
    obtain ⟨old, inside, rfl⟩ := List.mem_map.mp member
    exact ⟨old, inside, rfl, rfl, rfl⟩
  cases changed with
  | started | startedInVain | notStarted => exact absurd rfl running
  | collecting =>
    exact ⟨fun _ => active nofun, rfl, rfl, rfl, fun _ member => member, unmarked⟩
  | collectingInVain => exact ⟨id, rfl, rfl, rfl, fun _ member => member, unmarked⟩
  | stopped =>
    exact ⟨fun _ => active nofun, rfl, rfl, rfl, fun _ member => member,
      fun track member => ⟨track, member, rfl, rfl, rfl⟩⟩
  | nothingToStop => exact .of_same rfl rfl rfl rfl rfl rfl
  | moved _ across =>
    refine ⟨fun left => ?_, rfl, rfl, rfl, fun _ member => member,
      fun track member => ⟨track, member, rfl, rfl, rfl⟩⟩
    rcases across with rfl | rfl | rfl
    · exact active nofun
    · exact active nofun
    · exact absurd rfl left
  | refused => exact .of_same rfl rfl rfl rfl rfl rfl

private theorem plain_input_stays (admitted : accepts sink input = true)
    (noRequest : ∀ templ added, input ≠ .requestNewPad templ added)
    (noStart : ∀ outcome, input ≠ .changeState .nullToReady outcome) (pic : Pic) :
    SessionStays sink (applyInput pic sink input) := by
  cases input with
  | requestNewPad templ added => exact absurd rfl (noRequest templ added)
  | releasePad pad removed =>
    have same := release_keeps_padless sink pad removed
    obtain ⟨collect, _, pads⟩ := release_collect sink pad removed
    refine ⟨(congrArg (·.state) same : _ = sink.state) ▸ id, congrArg (·.data.kinesisVideoStream) same,
      congrArg (·.nextStream) same, congrArg (·.trackInfoType) same, pads, ?_⟩
    intro track member
    rw [applyInput, collect] at member
    exact ⟨track, List.mem_of_mem_filter member, rfl, rfl, rfl⟩
  | setProperty property =>
    have kept := set_property_keeps_element sink property
    exact .of_same kept.state (congrArg (·.kinesisVideoStream) kept.data) kept.nextStream
      kept.trackInfoType kept.pads kept.collect
  | changeState transition outcome =>
    exact change_state_stays admitted (fun start => noStart outcome (by rw [start])) pic
  | sinkEvent pad event outcome =>
    obtain ⟨_, _, _, collect, changed, marked, _⟩ := sink_event_changes sink pad event outcome
    simp only [applyInput, changed]
    refine ⟨id, rfl, rfl, rfl, fun _ member => member, fun track member => ?_⟩
    rcases marked with same | ⟨_, same⟩
    · exact ⟨track, same ▸ member, rfl, rfl, rfl⟩
    · simp only [same] at member
      obtain ⟨old, inside, rfl⟩ := List.mem_map.mp member
      unfold markEos
      split <;> exact ⟨old, inside, rfl, rfl, rfl⟩
  | buffer pad buffer outcome =>
    exact .of_session (buffer_from_pad_keeps_session pic sink pad buffer outcome)
  | noBuffer outcome => exact .of_session (buffer_keeps_session pic sink none outcome)
  | streamErrorReport status => exact .of_session (error_report_keeps_session pic sink status)
  | finalize =>
    obtain ⟨_, _, _, changed, _⟩ := finalize_changes sink
    simp only [applyInput, changed]
    exact .of_same rfl rfl rfl rfl rfl rfl

private theorem request_stays (sink : GstKvsSink) (templ : PadTemplate) (added : Bool) :
    (gstKvsSinkRequestNewPad sink templ added).1.state = sink.state ∧
      (gstKvsSinkRequestNewPad sink templ added).1.data.kinesisVideoStream =
        sink.data.kinesisVideoStream ∧
      (gstKvsSinkRequestNewPad sink templ added).1.nextStream = sink.nextStream ∧
      (gstKvsSinkRequestNewPad sink templ added).1.trackInfoType = sink.trackInfoType := by
  have same := request_keeps_padless sink templ added
  exact ⟨congrArg (·.state) same, congrArg (·.data.kinesisVideoStream) same,
    congrArg (·.nextStream) same, congrArg (·.trackInfoType) same⟩

theorem SessionDefined.stays (defined : SessionDefined before)
    (fromActive : after.state ≠ .null → before.state ≠ .null)
    (stream : after.data.kinesisVideoStream = before.data.kinesisVideoStream)
    (nextStream : after.nextStream = before.nextStream)
    (trackInfoType : after.trackInfoType = before.trackInfoType)
    (declarations : after.declarations = before.declarations) : SessionDefined after := by
  constructor
  · rw [declarations, nextStream]
    exact defined.below
  · intro active
    rw [trackInfoType]
    simp only [GstKvsSink.CurrentDefinition, stream, declarations]
    exact defined.shape (fromActive active)

/-- A start that succeeds declares the tracks of the session. -/
theorem session_defined_start (below : ∀ entry ∈ sink.declarations, entry.1 < sink.nextStream)
    (creates : CreatesStream sink created) (session : SessionDeclared sink created definition) :
    (∀ entry ∈ created.declarations, entry.1 < created.nextStream) ∧
      ∀ other, created.CurrentDefinition other ↔ other = definition := by
  constructor
  · rw [session.declared, creates.nextStream]
    intro entry member
    rcases List.mem_append.mp member with old | new
    · exact Nat.lt_succ_of_lt (below entry old)
    · cases List.mem_singleton.mp new
      exact Nat.lt_succ_self _
  · intro other
    simp only [GstKvsSink.CurrentDefinition, creates.stream, session.declared, Option.some.injEq]
    constructor
    · rintro ⟨_, rfl, member⟩
      rcases List.mem_append.mp member with old | new
      · exact absurd (below _ old) (Nat.lt_irrefl _)
      · cases List.mem_singleton.mp new
        rfl
    · rintro rfl
      exact ⟨_, rfl, List.mem_append_right _ (List.mem_singleton_self _)⟩

private theorem step_keeps_defined (defined : SessionDefined sink)
    (accepted : step pic sink input = some next) : SessionDefined next := by
  obtain ⟨admitted, rfl⟩ := step_eq_some.mp accepted
  by_cases start : ∃ outcome, input = .changeState .nullToReady outcome
  · obtain ⟨outcome, rfl⟩ := start
    have null : sink.state = .null := accepted_transition admitted
    have changed := change_state_cases pic sink .nullToReady outcome
    simp only [applyInput]
    generalize changeState pic sink .nullToReady outcome = next at changed
    cases changed with
    | started ran creates =>
      obtain ⟨definition, session⟩ := session_declares ran
      obtain ⟨below, current⟩ := session_defined_start defined.below creates session
      refine ⟨below, fun _ => ⟨definition, sink.data.mediaType, current, ?_⟩⟩
      exact session.tracks.trans (by rw [← session.trackInfoType]; rfl)
    | @startedInVain _ created ran creates =>
      obtain ⟨definition, session⟩ := session_declares ran
      obtain ⟨below, _⟩ := session_defined_start defined.below creates session
      have logged : (created.log (.elementError (.libraryInit ""))).declarations =
          created.declarations := declarations_of_grows (.snoc (error_declares_nothing _) _)
      refine ⟨logged ▸ below, fun active => ?_⟩
      exact absurd ((congrArg (·.state) creates.lasting).trans null) active
    | notStarted ran failed kept =>
      have silent := failed_start_declares_nothing ran failed
      refine ⟨by rw [silent, kept.nextStream]; exact defined.below, fun active => ?_⟩
      exact absurd ((congrArg (·.state) kept.lasting).trans null) active
    | moved _ across => simp at across
    | refused _ up => exact absurd rfl up
  · have silent := step_declarations accepted fun outcome is => start ⟨outcome, is⟩
    by_cases request : ∃ templ added, input = .requestNewPad templ added
    · obtain ⟨templ, added, rfl⟩ := request
      obtain ⟨state, stream, nextStream, trackInfoType⟩ := request_stays sink templ added
      exact defined.stays (fun active => state ▸ active) stream nextStream trackInfoType silent
    · have stays := plain_input_stays admitted (fun templ added is => request ⟨templ, added, is⟩)
        (fun outcome is => start ⟨outcome, is⟩) pic
      exact defined.stays stays.fromActive stays.stream stays.nextStream stays.trackInfoType silent

/-! ## The entries -/

/-- The entry of every attached pad names a track of its kind, once there is a session. -/
def EntriesDeclared (sink : GstKvsSink) : Prop :=
  sink.state ≠ .null → ∀ track, sink.Attached track →
    ∃ definition, sink.CurrentDefinition definition ∧ definition.Declares track.trackId track.trackType

/-- The element as every run leaves it. -/
structure Bookkept (sink : GstKvsSink) : Prop where
  distinct : PadsDistinct sink
  counted : PadsCounted sink
  defined : SessionDefined sink

private theorem step_keeps_bookkept (kept : Bookkept sink) (accepted : step pic sink input = some next) :
    Bookkept next :=
  ⟨step_keeps_pads_distinct kept.distinct accepted, step_keeps_pads_counted kept.counted accepted,
    step_keeps_defined kept.defined accepted⟩

private theorem declares_iff {definition : StreamDefinition}
    (shape : definition.trackInfo.map StreamTrackInfo.kind = declaredTracks mediaType first)
    (trackId : ℕ) (trackType : MkvTrackInfoType) :
    definition.Declares trackId trackType ↔ (trackId, trackType) ∈ declaredTracks mediaType first := by
  rw [← shape]
  simp [StreamDefinition.Declares, StreamTrackInfo.kind, List.mem_map]

/-- No id is declared with two types. -/
theorem declared_once (one : (trackId, kind) ∈ declaredTracks mediaType first)
    (other : (trackId, otherKind) ∈ declaredTracks mediaType first) : kind = otherKind := by
  unfold declaredTracks at one other
  cases mediaType with
  | audioVideo =>
    simp only [List.mem_cons, Prod.mk.injEq, List.not_mem_nil, or_false] at one other
    rcases one with ⟨rfl, rfl⟩ | ⟨rfl, rfl⟩ <;> rcases other with ⟨same, rfl⟩ | ⟨same, rfl⟩
    · rfl
    · exact absurd same (by decide)
    · exact absurd same (by decide)
    · rfl
  | videoOnly | audioOnly =>
    simp only [List.mem_singleton, Prod.mk.injEq] at one other
    exact one.2.trans other.2.symm

/-- A start writes ids that its stream declares, if the type of the first track
is not left over from an audio session. -/
theorem numbered_declared (counted : PadsCounted sink) (member : track ∈ sink.collect) :
    ((initTrackId sink.data.mediaType track).trackId, track.trackType) ∈
        declaredTracks sink.data.mediaType sink.firstTrackType ↔
      (track.trackType = .video → sink.trackInfoType = .video) := by
  have covered := counted.covered track member
  have settled := counted.ids track member
  unfold GstKvsSink.firstTrackType
  cases media : sink.data.mediaType with
  | audioVideo =>
    cases kind : track.trackType with
    | video =>
      have first : (initTrackId .audioVideo track).trackId = kvsSinkDefaultTrackId := by
        simp [initTrackId, kind]
      simp [declaredTracks, first, eq_comm]
    | audio =>
      have second : (initTrackId .audioVideo track).trackId = kvsSinkDefaultAudioTrackId := by
        simp [initTrackId, kind]
      simp [declaredTracks, second]
  | videoOnly =>
    rw [media] at covered settled
    have kind : track.trackType = .video := covered
    have first : (initTrackId .videoOnly track).trackId = kvsSinkDefaultTrackId :=
      settled (.inr nofun)
    simp [declaredTracks, first, kind, eq_comm]
  | audioOnly =>
    rw [media] at covered settled
    have kind : track.trackType = .audio := covered
    have first : (initTrackId .audioOnly track).trackId = kvsSinkDefaultTrackId :=
      settled (.inr nofun)
    simp [declaredTracks, first, kind]

/-- A start that succeeds. -/
theorem start_declares_entries (kept : Bookkept sink) (creates : CreatesStream sink created)
    (session : SessionDeclared sink created definition) :
    EntriesDeclared (created.enter .ready) ↔
      ((∃ track, sink.Attached track ∧ track.trackType = .video) → sink.trackInfoType = .video) := by
  obtain ⟨_, current⟩ := session_defined_start kept.defined.below creates session
  have pads : created.pads = sink.pads := (congrArg (·.pads) creates.lasting :)
  have kindKept (track : GstKvsSinkTrackData) :
      (initTrackId sink.data.mediaType track).trackType = track.trackType :=
    (init_track_id_same _ _).2.1
  have padKept (track : GstKvsSinkTrackData) :
      (initTrackId sink.data.mediaType track).pad = track.pad := (init_track_id_same _ _).1
  constructor
  · rintro declared ⟨track, ⟨member, listed⟩, video⟩
    have attached : (created.enter .ready).Attached (initTrackId sink.data.mediaType track) := by
      refine ⟨?_, ?_⟩
      · exact session.collect ▸ List.mem_map_of_mem member
      · rw [padKept]
        exact pads ▸ listed
    obtain ⟨other, here, declares⟩ := declared nofun _ attached
    rw [(current other).mp here, declares_iff session.tracks, kindKept] at declares
    exact (numbered_declared kept.counted member).mp declares video
  · rintro inherits _ track ⟨member, listed⟩
    change track ∈ created.collect at member
    rw [session.collect] at member
    obtain ⟨old, inside, rfl⟩ := List.mem_map.mp member
    refine ⟨definition, (current definition).mpr rfl, ?_⟩
    rw [declares_iff session.tracks, kindKept]
    apply (numbered_declared kept.counted inside).mpr
    intro video
    refine inherits ⟨old, ⟨inside, ?_⟩, video⟩
    rw [← padKept old, ← pads]
    exact listed

/-- A request while a session runs. -/
theorem request_declares_entries (kept : Bookkept sink) (good : EntriesDeclared sink)
    (templ : PadTemplate) (added : Bool) :
    EntriesDeclared (gstKvsSinkRequestNewPad sink templ added).1 ↔
      KeepsTracksApart pic sink (.requestNewPad templ added) := by
  obtain ⟨state, stream, _, _⟩ := request_stays sink templ added
  have calls : (gstKvsSinkRequestNewPad sink templ added).1.calls = sink.calls :=
    congrArg (·.calls) (request_keeps_padless sink templ added)
  have current (definition : StreamDefinition) :
      (gstKvsSinkRequestNewPad sink templ added).1.CurrentDefinition definition ↔
        sink.CurrentDefinition definition := by
    simp only [GstKvsSink.CurrentDefinition, GstKvsSink.declarations, stream, calls]
  obtain ⟨same, refused⟩ | ⟨trackType, grants, nextPad, collect, pads⟩ :=
    request_cases sink templ added
  · rw [same]
    refine iff_of_true good ?_
    cases added with
    | false => trivial
    | true => exact fun _ trackType grants => absurd grants (refused trackType)
  · have onlyKind (other : MkvTrackInfoType) (also : sink.Grants templ other) : other = trackType := by
      cases templ with
      | audio | video => exact also.1.trans grants.1.symm
      | other => exact also.elim
    -- the entries that were attached before still are, with the ids they had
    have old (track : GstKvsSinkTrackData) (member : track ∈ sink.collect)
        (listed : track.pad ∈ (gstKvsSinkRequestNewPad sink templ added).1.pads) :
        sink.Attached track := by
      refine ⟨member, ?_⟩
      rw [pads] at listed
      have below := kept.distinct.below _ (List.mem_map_of_mem member)
      cases added with
      | false => exact listed
      | true =>
        rcases List.mem_append.mp listed with before | new
        · exact before
        · exact absurd (List.mem_singleton.mp new) (Nat.ne_of_lt below)
    cases added with
    | false =>
      refine iff_of_true ?_ trivial
      rintro active track ⟨member, listed⟩
      simp only [current]
      rw [collect] at member
      rcases List.mem_append.mp member with before | new
      · exact good (state ▸ active) track (old track before listed)
      · cases List.mem_singleton.mp new
        rw [pads] at listed
        exact absurd (kept.distinct.listed _ listed) (Nat.lt_irrefl _)
    | true =>
      have new : (gstKvsSinkRequestNewPad sink templ true).1.Attached
          ⟨sink.nextPad, false, trackType, kvsSinkDefaultTrackId⟩ :=
        ⟨collect ▸ List.mem_append_right _ (List.mem_singleton_self _),
          pads ▸ List.mem_append_right _ (List.mem_singleton_self _)⟩
      constructor
      · intro declared active other also definition here
        cases onlyKind other also
        obtain ⟨same, there, declares⟩ := declared (state.symm ▸ active) _ new
        obtain ⟨unique, _, only, _⟩ := kept.defined.shape active
        rw [(only definition).mp here, ← (only same).mp ((current same).mp there)]
        exact declares
      · rintro meets active track ⟨member, listed⟩
        simp only [current]
        rw [state] at active
        rw [collect] at member
        rcases List.mem_append.mp member with before | added
        · exact good active track (old track before listed)
        · cases List.mem_singleton.mp added
          obtain ⟨definition, _, only, _⟩ := kept.defined.shape active
          have here := (only definition).mpr rfl
          exact ⟨definition, here, meets active trackType grants definition here⟩

/-- **One step.** The entries go on naming tracks of their kinds exactly when the
step keeps the tracks apart. -/
theorem entries_declared_iff (kept : Bookkept sink) (good : EntriesDeclared sink)
    (accepted : step pic sink input = some next) :
    EntriesDeclared next ↔ KeepsTracksApart pic sink input := by
  obtain ⟨admitted, rfl⟩ := step_eq_some.mp accepted
  by_cases start : ∃ outcome, input = .changeState .nullToReady outcome
  · obtain ⟨outcome, rfl⟩ := start
    have null : sink.state = .null := accepted_transition admitted
    have stopped (after : GstKvsSink) (same : changeState pic sink .nullToReady outcome = after)
        (stays : after.state = .null) :
        EntriesDeclared after ↔ KeepsTracksApart pic sink (.changeState .nullToReady outcome) := by
      refine iff_of_true (fun active => absurd stays active) fun ready => ?_
      rw [same, stays] at ready
      cases ready
    have changed := change_state_cases pic sink .nullToReady outcome
    simp only [applyInput]
    generalize same : changeState pic sink .nullToReady outcome = next at changed
    cases changed with
    | started ran creates =>
      obtain ⟨definition, session⟩ := session_declares ran
      rw [start_declares_entries kept creates session]
      simp only [KeepsTracksApart, same]
      exact ⟨fun inherits _ => inherits, fun inherits => inherits rfl⟩
    | startedInVain _ creates => exact stopped _ same ((congrArg (·.state) creates.lasting).trans null)
    | notStarted _ _ unstarted =>
      exact stopped _ same ((congrArg (·.state) unstarted.lasting).trans null)
    | moved _ across => simp at across
    | refused _ up => exact absurd rfl up
  · by_cases request : ∃ templ added, input = .requestNewPad templ added
    · obtain ⟨templ, added, rfl⟩ := request
      exact request_declares_entries kept good templ added
    · have noStart (outcome : ChangeStateOutcome) : input ≠ .changeState .nullToReady outcome :=
        fun is => start ⟨outcome, is⟩
      have noRequest (templ : PadTemplate) (added : Bool) : input ≠ .requestNewPad templ added :=
        fun is => request ⟨templ, added, is⟩
      have stays := plain_input_stays admitted noRequest noStart pic
      have silent := step_declarations accepted noStart
      have meets : KeepsTracksApart pic sink input := by
        unfold KeepsTracksApart
        split
        · exact absurd rfl (noRequest _ _)
        · exact absurd rfl (noStart _)
        · trivial
      refine iff_of_true ?_ meets
      rintro active track ⟨member, listed⟩
      obtain ⟨old, inside, pad, kind, id⟩ := stays.entries track member
      obtain ⟨definition, here, declares⟩ :=
        good (stays.fromActive active) old ⟨inside, pad ▸ stays.pads _ listed⟩
      refine ⟨definition, ?_, ?_⟩
      · simp only [GstKvsSink.CurrentDefinition, stays.stream, silent]
        exact here
      · rw [← kind, ← id]
        exact declares

/-! ## The frames -/

/-- A frame carries the id in the entry of the pad it came from. -/
theorem frame_from_attached (submits : FrameFrom pic sink pad frame) :
    ∃ track, sink.trackOf pad = some track ∧ frame.trackId = track.trackId ∧
      sink.state ≠ .null ∧ sink.Attached track ∧ track.pad = pad := by
  obtain ⟨buffer, outcome, next, stream, status, accepted, member⟩ := submits
  obtain ⟨admitted, rfl⟩ := step_eq_some.mp accepted
  have made := since_of_grows (input_calls pic sink (.buffer pad buffer outcome)) _ member
  obtain ⟨track, found, same⟩ : ∃ track, sink.trackOf pad = some track ∧
      frame.trackId = track.trackId := by
    cases made with
    | buffer found made =>
      cases made with
      | body made =>
        cases made with
        | put _ id => exact ⟨_, found, (Option.some.inj id).symm⟩
  have pads : pad ∈ sink.pads := by
    simp only [accepts, GstKvsSink.padDelivers, Bool.and_eq_true] at admitted
    simpa using admitted.2.1.2
  have isPad : track.pad = pad := by
    have holds := List.find?_some found
    simpa using holds
  have inside : track ∈ sink.collect := List.mem_of_find?_eq_some found
  exact ⟨track, found, same, buffer_outside_null admitted, ⟨inside, isPad ▸ pads⟩, isPad⟩

/-- There is one entry of each kind. -/
theorem one_entry_of_a_kind (few : countOf kind tracks ≤ 1) (one : first ∈ tracks) (other : second ∈ tracks)
    (firstKind : first.trackType = kind) (secondKind : second.trackType = kind) : first = second := by
  have among (track : GstKvsSinkTrackData) (member : track ∈ tracks) (isKind : track.trackType = kind) :
      track ∈ tracks.filter (·.trackType = kind) := List.mem_filter.mpr ⟨member, by simpa using isKind⟩
  have short : (tracks.filter (·.trackType = kind)).length ≤ 1 := by
    rw [← List.countP_eq_length_filter]
    exact few
  have here := among first one firstKind
  have there := among second other secondKind
  generalize tracks.filter (·.trackType = kind) = same at short here there
  cases same with
  | nil => cases here
  | cons head rest =>
    have alone : rest = [] := List.length_eq_zero_iff.mp (by simpa using short)
    subst alone
    rw [List.mem_singleton.mp here, List.mem_singleton.mp there]

private theorem tracks_apart_iff (kept : Bookkept sink) : TracksApart pic sink ↔ EntriesDeclared sink := by
  constructor
  · exact TracksApart.declared
  · intro declared
    refine ⟨declared, ?_, ?_⟩
    · intro pad frame submits
      obtain ⟨track, found, same, active, attached, _⟩ := frame_from_attached submits
      obtain ⟨definition, here, declares⟩ := declared active track attached
      exact ⟨track, definition, found, here, same ▸ declares⟩
    · intro pad other frame otherFrame apart submits submitsOther sameId
      obtain ⟨track, _, same, active, attached, isPad⟩ := frame_from_attached submits
      obtain ⟨track', _, same', _, attached', isPad'⟩ := frame_from_attached submitsOther
      obtain ⟨definition, here, declares⟩ := declared active track attached
      obtain ⟨definition', here', declares'⟩ := declared active track' attached'
      obtain ⟨unique, mediaType, only, shape⟩ := kept.defined.shape active
      rw [(only _).mp here, declares_iff shape] at declares
      rw [(only _).mp here', declares_iff shape, ← same', ← sameId, same] at declares'
      have kinds := declared_once declares declares'
      have few : countOf track.trackType sink.collect ≤ 1 := by
        cases track.trackType with
        | video => exact kept.counted.oneVideo
        | audio => exact kept.counted.oneAudio
      have sameTrack := one_entry_of_a_kind few attached.1 attached'.1 rfl kinds.symm
      exact apart (by rw [← isPad, ← isPad', sameTrack])

private theorem init_bookkept (now : UInt64) : Bookkept (gstKvsSinkInit now) := by
  refine ⟨reachable_pads_distinct (rfl : runFromInit .sample now [] = _), init_pads_counted now, ?_, ?_⟩
  · intro entry member
    cases member
  · intro active
    exact absurd rfl active

/-- Over every run of requests, releases, state changes and buffers, the tracks
stay apart exactly when every step keeps them so. -/
theorem tracks_stay_apart_iff (pic : Pic) (now : UInt64) (inputs : List Input) :
    Throughout (step pic) (TracksApart pic) (gstKvsSinkInit now) inputs ↔
      EachStep (step pic) (KeepsTracksApart pic) (gstKvsSinkInit now) inputs := by
  apply throughout_iff_each_step (fun _ _ _ => step_keeps_bookkept)
  · intro sink input next kept good accepted
    rw [tracks_apart_iff (step_keeps_bookkept kept accepted)]
    exact entries_declared_iff kept good.declared accepted
  · exact init_bookkept now
  · exact (tracks_apart_iff (init_bookkept now)).mpr fun active => absurd rfl active

def Call.submission : Call → Option (StreamId × Frame × Status)
  | .statusPutFrame stream frame status => some (stream, frame, status)
  | _ => none

/-- The ids of the frames that a buffer of the pad becomes. -/
def submittedIds (sink : GstKvsSink) (pad : PadId) : Option (List ℕ) :=
  (step .sample sink (.buffer pad ⟨0, 0, 0, [1]⟩ {})).map fun next =>
    ((next.since sink).filterMap Call.submission).map (·.2.1.trackId)

private theorem submitted_id (ids : submittedIds sink pad = some [trackId]) :
    ∃ frame, FrameFrom .sample sink pad frame ∧ frame.trackId = trackId := by
  obtain ⟨next, accepted, only⟩ := Option.map_eq_some_iff.mp ids
  have member : trackId ∈ ((next.since sink).filterMap Call.submission).map (·.2.1.trackId) :=
    only ▸ List.mem_singleton_self _
  obtain ⟨⟨stream, frame, status⟩, inside, same⟩ := List.mem_map.mp member
  obtain ⟨call, made, submission⟩ := List.mem_filterMap.mp inside
  have isPut : call = .statusPutFrame stream frame status := by
    unfold Call.submission at submission
    split at submission <;> cases submission
    rfl
  exact ⟨frame, ⟨_, _, next, stream, status, accepted, isPut ▸ made⟩, same⟩

/-- An audio pad requested in PAUSED submits its frames on the video track. -/
theorem late_audio_pad_shares_the_video_track :
    ∃ sink, runFromInit .sample 0 ([.requestNewPad .video true] ++ upTo (fun _ => some [h264Caps]) ++
        [.requestNewPad .audio true]) = some sink ∧ ¬ TracksApart .sample sink := by
  have evaluated : (runFromInit .sample 0 ([.requestNewPad .video true] ++
      upTo (fun _ => some [h264Caps]) ++ [.requestNewPad .audio true])).map (fun sink =>
        (submittedIds sink 0, submittedIds sink 1)) = some (some [1], some [1]) := by decide
  obtain ⟨sink, ran, facts⟩ := Option.map_eq_some_iff.mp evaluated
  simp only [Prod.mk.injEq] at facts
  obtain ⟨video, submitsVideo, videoId⟩ := submitted_id facts.1
  obtain ⟨audio, submitsAudio, audioId⟩ := submitted_id facts.2
  exact ⟨sink, ran, fun apart =>
    apart.apart 0 1 video audio (by decide) submitsVideo submitsAudio (videoId.trans audioId.symm)⟩

end KvsProducer
