import KvsProducer.PadBookkeeping

/-! The end of a stream with several pads. The handler of a pad's end of stream
looks at that pad only, so the announcement comes once for each pad. It comes
once, and last, exactly when there is only one pad to end. -/
namespace KvsProducer
open Gst History Runs

def Call.isEofr : Call → Bool
  | .putEofr _ _ => true
  | _ => false

def Call.isEos : Call → Bool
  | .postEos => true
  | _ => false

/-- Every attached pad has received its end of stream. -/
def AllEnded (sink : GstKvsSink) : Prop := ∀ track, sink.Attached track → track.eos = true

/-- The end-of-fragment frame and the message come once when all attached pads
have ended, not before, and no frame comes after them. -/
structure EndAnnouncedOnce (started sink : GstKvsSink) : Prop where
  once : AllEnded sink →
    (sink.since started).countP Call.isEofr = 1 ∧ (sink.since started).countP Call.isEos = 1
  notBefore : ¬ AllEnded sink →
    (sink.since started).countP Call.isEofr = 0 ∧ (sink.since started).countP Call.isEos = 0
  last : EachEntry (fun before call => call.isFrame = true →
    before.countP Call.isEofr = 0 ∧ before.countP Call.isEos = 0) (sink.since started)

/-- The inputs of a session: buffers and events of its pads, and what does not
take the pads away or down. -/
def SessionInput : Input → Prop
  | .buffer _ _ _ | .noBuffer _ | .sinkEvent _ _ _ | .streamErrorReport _ | .setProperty _ => True
  | .changeState transition _ => transition = .pausedToPlaying ∨ transition = .playingToPaused
  | _ => False

/-- The input is the end of stream of a pad. -/
def IsEosEvent (input : Input) : Prop := ∃ pad outcome, input = .sinkEvent pad .eos outcome

/-- All attached entries are about one pad. -/
def SinglePad (sink : GstKvsSink) : Prop :=
  ∀ first second, sink.Attached first → sink.Attached second → first.pad = second.pad

/-- The call announces nothing. -/
def Silent (call : Call) : Prop := call.isEofr = false ∧ call.isEos = false

/-! ## Before the end -/

/-- The session goes on: no pad has ended, and nothing was announced. -/
structure StillRunning (started sink : GstKvsSink) : Prop where
  streaming : sink.state.streaming = true
  pads : sink.pads = started.pads
  collect : sink.collect = started.collect
  known : StreamsKnown sink
  silent : Grows Silent started.calls sink.calls

private theorem silent_counts {calls : List Call} (silent : ∀ call ∈ calls, Silent call) :
    calls.countP Call.isEofr = 0 ∧ calls.countP Call.isEos = 0 := by
  constructor
  · rw [List.countP_eq_zero]
    intro call member
    simp [(silent call member).1]
  · rw [List.countP_eq_zero]
    intro call member
    simp [(silent call member).2]

theorem StillRunning.announced_once (running : StillRunning started sink)
    (unended : ¬ AllEnded started) : EndAnnouncedOnce started sink := by
  have silent := since_of_grows running.silent
  have same : AllEnded sink ↔ AllEnded started := by
    simp only [AllEnded, GstKvsSink.Attached, running.collect, running.pads]
  constructor
  · intro ended
    exact absurd (same.mp ended) unended
  · intro _
    exact silent_counts silent
  · intro before call after split _
    apply silent_counts
    intro earlier member
    exact silent earlier (split ▸ List.mem_append_left _ member)

private theorem body_is_silent (made : BodyCall held trackId call) : Silent call := by
  cases made <;> exact ⟨rfl, rfl⟩

private theorem buffer_is_silent (made : BufferCall held trackId call) : Silent call := by
  cases made with
  | arrived | error | reset => exact ⟨rfl, rfl⟩
  | body made => exact body_is_silent made

/-- Only the end of stream of a pad announces anything. -/
theorem session_input_is_silent (session : SessionInput input) (quiet : ¬ IsEosEvent input)
    (made : InputCall sink input call) : Silent call := by
  cases made with
  | @event pad track event call outcome found made =>
    cases made with
    | start | refused | metadata => exact ⟨rfl, rfl⟩
    | eofr isEos => exact absurd ⟨pad, outcome, by rw [isEos]⟩ quiet
    | posted isEos => exact absurd ⟨pad, outcome, by rw [isEos]⟩ quiet
  | buffer _ made => exact buffer_is_silent made
  | noBuffer made => exact buffer_is_silent made
  | late | report | destroyed | stopped => exact ⟨rfl, rfl⟩
  | setUp made => cases made <;> exact ⟨rfl, rfl⟩

/-- Changes between PAUSED and PLAYING keep the pads active. -/
theorem session_change_stays (streaming : sink.state.streaming = true)
    (across : transition = .pausedToPlaying ∨ transition = .playingToPaused) :
    (changeState pic sink transition outcome).state.streaming = true ∧
      (changeState pic sink transition outcome).collect = sink.collect := by
  have changed := change_state_cases pic sink transition outcome
  generalize changeState pic sink transition outcome = next at changed
  cases changed with
  | moved =>
    rcases across with rfl | rfl
    · exact ⟨rfl, rfl⟩
    · exact ⟨rfl, rfl⟩
  | refused => exact ⟨streaming, rfl⟩
  | started | startedInVain | notStarted | collecting | collectingInVain | stopped | nothingToStop =>
    simp at across

private theorem session_entries {after before : GstKvsSink} (streaming : before.state.streaming = true)
    (same : after.sessionPart = before.sessionPart) :
    after.state.streaming = true ∧ after.collect = before.collect :=
  ⟨(congrArg (·.state.streaming) same).trans streaming, congrArg (·.collect) same⟩

/-- An input of a session, other than an end of stream, leaves the pads active
and their entries as they are. -/
theorem session_input_keeps_entries (pic : Pic) (session : SessionInput input) (quiet : ¬ IsEosEvent input)
    (streaming : sink.state.streaming = true) :
    (applyInput pic sink input).state.streaming = true ∧
      (applyInput pic sink input).collect = sink.collect := by
  cases input with
  | requestNewPad | releasePad | finalize => exact session.elim
  | changeState transition outcome => exact session_change_stays streaming session
  | setProperty property =>
    have kept := set_property_keeps_element sink property
    exact ⟨(congrArg GstState.streaming kept.state).trans streaming, kept.collect⟩
  | sinkEvent pad event outcome =>
    obtain ⟨_, _, _, collect, changed, marked, _⟩ := sink_event_changes sink pad event outcome
    simp only [applyInput, changed]
    refine ⟨streaming, ?_⟩
    rcases marked with same | ⟨isEos, _⟩
    · exact same
    · exact absurd ⟨pad, outcome, by rw [isEos]⟩ quiet
  | buffer pad buffer outcome =>
    exact session_entries streaming (buffer_from_pad_keeps_session pic sink pad buffer outcome)
  | noBuffer outcome => exact session_entries streaming (buffer_keeps_session pic sink none outcome)
  | streamErrorReport status =>
    exact session_entries streaming (error_report_keeps_session pic sink status)

private theorem session_input_keeps_pads (pic : Pic) (sink : GstKvsSink) (session : SessionInput input) :
    PadsStay sink (applyInput pic sink input) := by
  apply other_inputs_keep_pads
  · rintro templ added rfl
    exact session
  · rintro pad removed rfl
    exact session

private theorem still_running_step (running : StillRunning started sink) (session : SessionInput input)
    (quiet : ¬ IsEosEvent input) (accepted : step pic sink input = some next) :
    StillRunning started next := by
  have known := step_keeps_streams_known running.known accepted
  obtain ⟨_, rfl⟩ := step_eq_some.mp accepted
  obtain ⟨streaming, collect⟩ :=
    session_input_keeps_entries pic session quiet running.streaming
  have pads := (session_input_keeps_pads pic sink session).pads
  have silent : Grows Silent sink.calls (applyInput pic sink input).calls :=
    (input_calls pic sink input).imp fun _ => session_input_is_silent session quiet
  exact ⟨streaming, pads.trans running.pads, collect.trans running.collect, known,
    running.silent.trans silent⟩

/-! ## The end -/

/-- What the end of stream of one pad does while the session goes on. -/
theorem eos_event_changes (running : StillRunning started sink)
    (accepted : step pic sink (.sinkEvent pad .eos outcome) = some next) :
    ∃ stream track, sink.Attached track ∧ track.pad = pad ∧ next.state = sink.state ∧
      next.pads = sink.pads ∧ next.collect = sink.collect.map (markEos pad) ∧
      next.calls = sink.calls ++ [.putEofr stream outcome.eofrStatus, .postEos] := by
  obtain ⟨admitted, rfl⟩ := step_eq_some.mp accepted
  obtain ⟨stream, held⟩ := running.known.held (delivered_outside_null admitted)
  simp only [accepts, GstKvsSink.padDelivers, Bool.and_eq_true, List.contains_iff_mem] at admitted
  obtain ⟨_, ⟨_, attached⟩, unended⟩ := admitted
  cases found : sink.trackOf pad with
  | none => simp [found] at unended
  | some track =>
    have same : track.pad = pad := by simpa using List.find?_some found
    refine ⟨stream, track, ⟨List.mem_of_find?_eq_some found, same ▸ attached⟩, same, ?_⟩
    simp only [applyInput, sinkEvent, found, gstKvsSinkHandleSinkEvent, handleEosEvent, held]
    exact ⟨rfl, rfl, rfl, by simp⟩

/-- All pads have ended, and the announcement is the last thing that matters. -/
structure Announced (started sink : GstKvsSink) : Prop where
  streaming : sink.state.streaming = true
  ended : AllEnded sink
  record : ∃ before stream status, Grows Silent started.calls before ∧
    Grows (fun call => Silent call ∧ call.isFrame = false)
      (before ++ [.putEofr stream status, .postEos]) sink.calls

theorem Announced.announced_once (announced : Announced started sink) :
    EndAnnouncedOnce started sink := by
  obtain ⟨_, stream, status, ⟨early, rfl, silentEarly⟩, ⟨late, grew, silentLate⟩⟩ := announced.record
  have since : sink.since started = early ++ (.putEofr stream status :: .postEos :: late) := by
    simp [GstKvsSink.since, grew]
  obtain ⟨noEofr, noEos⟩ := silent_counts silentEarly
  obtain ⟨noLateEofr, noLateEos⟩ := silent_counts fun call member => (silentLate call member).1
  constructor
  · intro _
    rw [since]
    simp [List.countP_cons, noEofr, noEos, noLateEofr, noLateEos, Call.isEofr, Call.isEos]
  · intro unended
    exact absurd announced.ended unended
  · rw [since]
    apply EachEntry.append
    · intro before call after split _
      apply silent_counts
      intro earlier member
      exact silentEarly earlier (split ▸ List.mem_append_left _ member)
    · intro before call after split frame
      -- after the announcement there is no frame to speak of
      have member : call ∈ Call.putEofr stream status :: .postEos :: late :=
        split ▸ List.mem_append_right _ List.mem_cons_self
      rcases List.mem_cons.mp member with rfl | member
      · cases frame
      · rcases List.mem_cons.mp member with rfl | member
        · cases frame
        · exact absurd frame (by simp [(silentLate call member).2])

/-- With a single pad, its end of stream is the announcement. -/
theorem single_pad_ends (running : StillRunning started sink) (single : SinglePad started)
    (accepted : step pic sink (.sinkEvent pad .eos outcome) = some next) : Announced started next := by
  obtain ⟨stream, track, attached, same, state, pads, collect, calls⟩ :=
    eos_event_changes running accepted
  refine ⟨by rw [state]; exact running.streaming, ?_, ?_⟩
  · rintro marked ⟨member, listed⟩
    rw [collect] at member
    obtain ⟨before, old, rfl⟩ := List.mem_map.mp member
    have samePad := (mark_eos_same sink.data.mediaType pad before).1
    have here : started.Attached before := by
      refine ⟨running.collect ▸ old, ?_⟩
      rw [← running.pads, ← pads, ← samePad]
      exact listed
    have there : started.Attached track :=
      ⟨running.collect ▸ attached.1, running.pads ▸ attached.2⟩
    have isPad : before.pad = pad := (single before track here there).trans same
    simp [markEos, isPad]
  · exact ⟨sink.calls, stream, outcome.eofrStatus, running.silent, calls ▸ .refl _⟩

/-- With a second pad, the first end of stream already announces the end. -/
theorem several_pads_announce_early (running : StillRunning started sink)
    (fresh : ∀ track ∈ started.collect, track.eos = false) (several : ¬ SinglePad started)
    (accepted : step pic sink (.sinkEvent pad .eos outcome) = some next) :
    ¬ EndAnnouncedOnce started next := by
  intro announced
  obtain ⟨stream, track, attached, same, state, pads, collect, calls⟩ :=
    eos_event_changes running accepted
  have other : ∃ track, started.Attached track ∧ track.pad ≠ pad := by
    by_contra none
    push Not at none
    exact several fun first second here there => (none first here).trans (none second there).symm
  obtain ⟨other, stays, apart⟩ := other
  have unended : ¬ AllEnded next := by
    intro ended
    have unmarked : markEos pad other = other := by simp [markEos, apart]
    have member : next.Attached other := by
      refine ⟨?_, by rw [pads, running.pads]; exact stays.2⟩
      rw [collect, running.collect]
      exact List.mem_map.mpr ⟨other, stays.1, unmarked⟩
    exact Bool.noConfusion ((fresh other stays.1).symm.trans (ended other member))
  obtain ⟨early, grew, _⟩ := running.silent
  have since : next.since started = early ++ [.putEofr stream outcome.eofrStatus, .postEos] := by
    simp [GstKvsSink.since, calls, grew]
  have count := (announced.notBefore unended).2
  rw [since] at count
  simp [Call.isEos] at count

private theorem ended_pads_deliver_nothing (ended : AllEnded sink) (pad : PadId) :
    sink.padDelivers pad = false := by
  by_contra delivers
  simp only [Bool.not_eq_false, GstKvsSink.padDelivers, Bool.and_eq_true, List.contains_iff_mem]
    at delivers
  obtain ⟨⟨_, attached⟩, unended⟩ := delivers
  cases found : sink.trackOf pad with
  | none => simp [found] at unended
  | some track =>
    have same : track.pad = pad := by simpa using List.find?_some found
    have marked := ended track ⟨List.mem_of_find?_eq_some found, same ▸ attached⟩
    simp [found, marked] at unended

/-- Without a buffer there is no frame. -/
theorem ended_input_is_quiet (ended : AllEnded sink) (admitted : accepts sink input = true)
    (session : SessionInput input) (made : InputCall sink input call) :
    Silent call ∧ call.isFrame = false := by
  cases made with
  | event => simp [accepts, ended_pads_deliver_nothing ended] at admitted
  | buffer => simp [accepts, ended_pads_deliver_nothing ended] at admitted
  | noBuffer made =>
    refine ⟨buffer_is_silent made, ?_⟩
    cases made with
    | arrived | error | reset => rfl
    | body made =>
      cases made with
      | put _ isTrack => cases isTrack
      | metrics | release | warning | done => rfl
  | late | report | destroyed | stopped => exact ⟨⟨rfl, rfl⟩, rfl⟩
  | setUp made => cases made <;> exact ⟨⟨rfl, rfl⟩, rfl⟩

/-- Once all pads have ended, nothing of the session announces or submits anything. -/
theorem announced_step (announced : Announced started sink) (session : SessionInput input)
    (accepted : step pic sink input = some next) : Announced started next := by
  obtain ⟨admitted, rfl⟩ := step_eq_some.mp accepted
  have quiet : ¬ IsEosEvent input := by
    rintro ⟨pad, outcome, rfl⟩
    simp [accepts, ended_pads_deliver_nothing announced.ended] at admitted
  obtain ⟨streaming, collect⟩ :=
    session_input_keeps_entries pic session quiet announced.streaming
  have pads := (session_input_keeps_pads pic sink session).pads
  refine ⟨streaming, ?_, ?_⟩
  · rintro track ⟨member, listed⟩
    exact announced.ended track ⟨collect ▸ member, pads ▸ listed⟩
  · obtain ⟨before, stream, status, early, late⟩ := announced.record
    refine ⟨before, stream, status, early, late.trans ?_⟩
    exact (input_calls pic sink input).imp fun _ =>
      ended_input_is_quiet announced.ended admitted session

/-! ## Sessions -/

private theorem running_or_announced_step (single : SinglePad started)
    (held : StillRunning started sink ∨ Announced started sink) (session : SessionInput input)
    (accepted : step pic sink input = some next) :
    StillRunning started next ∨ Announced started next := by
  rcases held with running | announced
  · by_cases quiet : IsEosEvent input
    · obtain ⟨pad, outcome, rfl⟩ := quiet
      exact .inr (single_pad_ends running single accepted)
    · exact .inl (still_running_step running session quiet accepted)
  · exact .inr (announced_step announced session accepted)

/-- With several pads, a run that contains an end of stream announces too early. -/
theorem several_pads_fail (running : StillRunning started sink)
    (fresh : ∀ track ∈ started.collect, track.eos = false) (several : ¬ SinglePad started)
    (session : ∀ input ∈ inputs, SessionInput input) (ends : ∃ input ∈ inputs, IsEosEvent input)
    (ran : run (step pic) sink inputs = some final) :
    ¬ Throughout (step pic) (EndAnnouncedOnce started) sink inputs := by
  induction inputs generalizing sink with
  | nil =>
    obtain ⟨_, member, _⟩ := ends
    cases member
  | cons input rest ih =>
    rintro ⟨_, later⟩
    rw [run_cons] at ran
    obtain ⟨next, accepted, ran⟩ := Option.bind_eq_some_iff.mp ran
    by_cases quiet : IsEosEvent input
    · obtain ⟨pad, outcome, rfl⟩ := quiet
      apply several_pads_announce_early running fresh several accepted
      exact throughout_iff_prefixes.mp (later next accepted) [] next List.nil_prefix rfl
    · have here := session input List.mem_cons_self
      refine ih (still_running_step running here quiet accepted) ?_ ?_ ran (later next accepted)
      · exact fun input member => session input (List.mem_cons_of_mem _ member)
      · obtain ⟨ending, member, isEos⟩ := ends
        rcases List.mem_cons.mp member with rfl | member
        · exact absurd isEos quiet
        · exact ⟨ending, member, isEos⟩

/-- READY_TO_PAUSED starts a session in which no pad has ended. -/
theorem session_starts (reached : runFromInit pic now earlier = some ready)
    (began : step pic ready (.changeState .readyToPaused outcome) = some started)
    (paused : started.state = .paused) :
    StillRunning started started ∧ ∀ track ∈ started.collect, track.eos = false := by
  have known := step_keeps_streams_known (reachable_streams_known reached) began
  obtain ⟨admitted, rfl⟩ := step_eq_some.mp began
  have current : ready.state = .ready := accepted_transition admitted
  refine ⟨⟨by rw [paused]; rfl, rfl, rfl, known, .refl _⟩, ?_⟩
  have changed := change_state_cases pic ready .readyToPaused outcome
  simp only [applyInput] at paused ⊢
  generalize changeState pic ready .readyToPaused outcome = next at changed paused
  cases changed with
  | collecting =>
    intro track member
    obtain ⟨_, _, rfl⟩ := List.mem_map.mp member
    rfl
  | collectingInVain => cases paused.symm.trans current
  | moved _ across => simp at across
  | refused _ _ other => exact absurd rfl other

/-- **End of stream.** In every session with an attached pad, the end is
announced once, when the last attached pad ends, and no frame comes after it,
exactly when there is a single attached pad or no pad ends. -/
theorem end_is_announced_once_for_a_single_pad (reached : runFromInit pic now earlier = some ready)
    (began : step pic ready (.changeState .readyToPaused outcome) = some started)
    (paused : started.state = .paused) (attached : ∃ track, started.Attached track)
    (session : ∀ input ∈ inputs, SessionInput input)
    (ran : run (step pic) started inputs = some final) :
    Throughout (step pic) (EndAnnouncedOnce started) started inputs ↔
      SinglePad started ∨ ∀ input ∈ inputs, ¬ IsEosEvent input := by
  obtain ⟨running, fresh⟩ := session_starts reached began paused
  have unended : ¬ AllEnded started := by
    intro ended
    obtain ⟨track, here⟩ := attached
    exact Bool.noConfusion ((fresh track here.1).symm.trans (ended track here))
  constructor
  · intro always
    by_contra several
    push Not at several
    exact several_pads_fail running fresh several.1 session several.2 ran always
  · rintro (single | quiet)
    · have kept : Throughout (step pic)
          (fun sink => StillRunning started sink ∨ Announced started sink) started inputs := by
        apply invariant_throughout (fun sink input next held session accepted =>
          running_or_announced_step single held session accepted) (.inl running)
        exact each_step_of_members fun _ => session
      apply kept.imp
      rintro sink (running | announced)
      · exact running.announced_once unended
      · exact announced.announced_once
    · have meets : EachStep (step pic) (fun _ input => SessionInput input ∧ ¬ IsEosEvent input)
          started inputs :=
        each_step_of_members fun _ input member => ⟨session input member, quiet input member⟩
      have kept := invariant_throughout (fun sink input next held met accepted =>
        still_running_step held met.1 met.2 accepted) running meets
      exact kept.imp fun sink running => running.announced_once unended

def aacCaps : CapsStructure := { name := "audio/mpeg" }

/-- A video pad and an audio pad, in that order, and their peers. -/
def audioAndVideo (videoCaps : CapsStructure) : List Input :=
  [.requestNewPad .video true, .requestNewPad .audio true,
    .changeState .nullToReady { allowedCaps := fun pad => some [if pad = 0 then videoCaps else aacCaps] }]

/-- The end of one pad of two is announced as the end of the stream, and the
next buffer of the other pad comes after it. -/
theorem audio_end_announced_before_video :
    ∃ ready started, runFromInit .sample 0 (audioAndVideo h264Caps) = some ready ∧
      step .sample ready (.changeState .readyToPaused {}) = some started ∧ started.state = .paused ∧
      ¬ Throughout (step .sample) (EndAnnouncedOnce started) started
        [.sinkEvent 1 .eos {}, .buffer 0 ⟨0, 0, 0, [1]⟩ {}] := by
  have evaluated : (runFromInit .sample 0 (audioAndVideo h264Caps ++
      [.changeState .readyToPaused {}])).map (fun sink => (sink.state, sink.collect, sink.pads,
        (run (step .sample) sink [.sinkEvent 1 .eos {}, .buffer 0 ⟨0, 0, 0, [1]⟩ {}]).isSome)) =
      some (.paused, [⟨0, false, .video, 1⟩, ⟨1, false, .audio, 2⟩], [0, 1], true) := by decide
  obtain ⟨started, ran, facts⟩ := Option.map_eq_some_iff.mp evaluated
  simp only [Prod.mk.injEq] at facts
  obtain ⟨paused, collect, pads, goesOn⟩ := facts
  rw [runFromInit, run_snoc] at ran
  obtain ⟨ready, reached, began⟩ := Option.bind_eq_some_iff.mp ran
  obtain ⟨final, ranOn⟩ := Option.isSome_iff_exists.mp goesOn
  obtain ⟨running, fresh⟩ := session_starts reached began paused
  refine ⟨ready, started, reached, began, paused, ?_⟩
  apply several_pads_fail running fresh ?_ ?_ ?_ ranOn
  · intro single
    have same := single ⟨0, false, .video, 1⟩ ⟨1, false, .audio, 2⟩
      ⟨by simp [collect], by simp [pads]⟩ ⟨by simp [collect], by simp [pads]⟩
    exact absurd same (by decide)
  · simp [SessionInput]
  · exact ⟨_, List.mem_cons_self, 1, {}, rfl⟩

/-- A single pad ends once. -/
theorem single_video_pad_announces_its_end :
    ∃ ready started, runFromInit .sample 0 [.requestNewPad .video true,
        .changeState .nullToReady { allowedCaps := fun _ => some [h264Caps] }] = some ready ∧
      step .sample ready (.changeState .readyToPaused {}) = some started ∧
      Throughout (step .sample) (EndAnnouncedOnce started) started
        [.buffer 0 ⟨0, 0, 0, [1]⟩ {}, .sinkEvent 0 .eos {}, .noBuffer {}] := by
  have evaluated : (runFromInit .sample 0 ([.requestNewPad .video true,
      .changeState .nullToReady { allowedCaps := fun _ => some [h264Caps] }] ++
      [.changeState .readyToPaused {}])).map (fun sink => (sink.state, sink.collect, sink.pads,
        (run (step .sample) sink
          [.buffer 0 ⟨0, 0, 0, [1]⟩ {}, .sinkEvent 0 .eos {}, .noBuffer {}]).isSome)) =
      some (.paused, [⟨0, false, .video, 1⟩], [0], true) := by decide
  obtain ⟨started, ran, facts⟩ := Option.map_eq_some_iff.mp evaluated
  simp only [Prod.mk.injEq] at facts
  obtain ⟨paused, collect, pads, goesOn⟩ := facts
  rw [runFromInit, run_snoc] at ran
  obtain ⟨ready, reached, began⟩ := Option.bind_eq_some_iff.mp ran
  obtain ⟨final, ranOn⟩ := Option.isSome_iff_exists.mp goesOn
  have attached : started.Attached ⟨0, false, .video, 1⟩ := ⟨by simp [collect], by simp [pads]⟩
  refine ⟨ready, started, reached, began,
    (end_is_announced_once_for_a_single_pad reached began paused ⟨_, attached⟩ ?_ ranOn).mpr (.inl ?_)⟩
  · simp [SessionInput]
  · rintro first second ⟨here, _⟩ ⟨there, _⟩
    simp only [collect, List.mem_singleton] at here there
    rw [here, there]

end KvsProducer
