import KvsProducer.History
import KvsProducer.UploadLedger

/-! What the program means when it says that all files have been persisted. It looks
at the status of the stream after each file, so the files are on their way whole as
long as nothing but the stream can cut an upload short. -/
namespace KvsProducer
open Gst History Runs
namespace FileUpload

/-- Since the file was last attempted, its end was reached. -/
def Ended (j : ℕ) (messages : List Message) : Prop := Since (.attempt j) (.endOfStream j ∈ ·) messages

/-- Since the file was last attempted, its end was reached and it passed for sent. -/
def SentWhole (j : ℕ) (messages : List Message) : Prop :=
  Since (.attempt j) (fun since => ∃ early late, since = early ++ .finishedSending j :: late ∧
    .endOfStream j ∈ early) messages

def Attempting (i : ℕ) (messages : List Message) : Prop := Since (.attempt i) (fun _ => True) messages

/-- Nothing is left to do about the file. -/
def Upload.Done (upload : Upload) (j : ℕ) : Prop :=
  j < upload.lastUnpersistedFileIdx ∨ SentWhole j upload.messages

/-- Why an attempt is over: the end of the file, or an error of the stream. -/
def Upload.Explained (upload : Upload) (i : ℕ) : Prop :=
  statusFailed upload.streamStatus = true ∨ Ended i upload.messages

/-- What holds in a phase of the main thread. -/
def Phase.Knows (upload : Upload) : Phase → Prop
  | .nextFile i true => ∀ j < i, upload.Done j
  | .starting i | .makingLoop i | .runningLoop i => Attempting i upload.messages ∧ ∀ j < i, upload.Done j
  | .inLoop i => Attempting i upload.messages ∧ (∀ j < i, upload.Done j) ∧
      (upload.mainLoop = some .quit → upload.Explained i)
  | .stoppingPipeline i | .freeingLoop i | .clearingLoop i | .checkingStatus i =>
    Attempting i upload.messages ∧ (∀ j < i, upload.Done j) ∧ upload.Explained i
  | .stoppingSync i => i + 1 = upload.fileList.length ∧ ∀ j < i + 1, upload.Done j
  | _ => True

/-- No file will be attempted any more. -/
def Phase.IsOver (files : ℕ) : Phase → Prop
  | .nextFile i _ => i = files
  | .passDone | .freeingStream | .returned _ => True
  | _ => False

/-- The steps that keep to errors of the stream: the library reports errors only,
GStreamer fails only after the stream has, and the status is not cleared while a report
is being handled. -/
def Input.Attributed (upload : Upload) : Input → Prop
  | .errorReport status => statusFailed status = true
  | .busError => statusFailed upload.streamStatus = true
  | .advance => upload.phase = .clearingStatus → upload.checking = 0 ∧ upload.quitting = 0
  | _ => True

instance decidableAttributed (upload : Upload) (input : Input) : Decidable (input.Attributed upload) :=
  match input with
  | .errorReport status => inferInstanceAs (Decidable (statusFailed status = true))
  | .busError => inferInstanceAs (Decidable (statusFailed upload.streamStatus = true))
  | .advance => inferInstanceAs
    (Decidable (upload.phase = .clearingStatus → upload.checking = 0 ∧ upload.quitting = 0))
  | .gstreamerInit _ | .stopSync _ | .newSample _ | .eos | .eosQuit | .lookAtLoop | .quitLoop | .fragmentAck _ =>
    isTrue trivial

structure Sending (upload : Upload) : Prop where
  ofFile : upload.streamSource = .file
  knows : upload.phase.Knows upload
  ending : upload.streaming = .ending → Ended upload.currentFileIdx upload.messages
  reports : upload.checking ≠ 0 ∨ upload.quitting ≠ 0 → statusFailed upload.streamStatus = true
  told : .allPersisted ∈ upload.messages → (∀ j < upload.fileList.length, upload.Done j) ∧
    upload.doRetry = false ∧ upload.phase.IsOver upload.fileList.length

variable {pic : Pic} {before after upload next final : Upload} {input : Input} {job : Job} {now : UInt64}

/-! ## Beside the main thread -/

/-- A message that neither begins an attempt nor ends the upload. -/
def Message.Aside (message : Message) : Prop := message ≠ .allPersisted ∧ ∀ j, message ≠ .attempt j

private theorem attempt_not_aside (j : ℕ) : ¬(Message.attempt j).Aside := fun aside => aside.2 j rfl

theorem ended_grows (ended : Ended j messages) (grown : Grows Message.Aside messages later) : Ended j later :=
  Since.grow ended grown (attempt_not_aside j) fun _ _ member => List.mem_append_left _ member

theorem attempting_grows (attempting : Attempting i messages) (grown : Grows Message.Aside messages later) :
    Attempting i later :=
  Since.grow attempting grown (attempt_not_aside i) fun _ _ _ => trivial

private theorem sent_lasts (earlier added : List Message)
    (sent : ∃ early late, earlier = early ++ .finishedSending j :: late ∧ .endOfStream j ∈ early) :
    ∃ early late, earlier ++ added = early ++ .finishedSending j :: late ∧ .endOfStream j ∈ early := by
  obtain ⟨early, late, rfl, ended⟩ := sent
  exact ⟨early, late ++ added, by simp, ended⟩

/-- What stays when the files counted and the messages grow. -/
structure Onward (before after : Upload) : Prop where
  counted : before.lastUnpersistedFileIdx ≤ after.lastUnpersistedFileIdx
  printed : Grows Message.Aside before.messages after.messages

theorem Onward.done (onward : Onward before after) (done : before.Done j) : after.Done j :=
  done.imp (fun below => below.trans_le onward.counted)
    (fun sent => Since.grow sent onward.printed (attempt_not_aside j) sent_lasts)

/-- What the others may do while the main thread stands in a phase. -/
structure Meanwhile (before after : Upload) : Prop extends Onward before after where
  phase : after.phase = before.phase
  source : after.streamSource = before.streamSource
  current : after.currentFileIdx = before.currentFileIdx
  files : after.fileList.length = before.fileList.length
  retry : after.doRetry = before.doRetry
  status : statusFailed before.streamStatus = true → statusFailed after.streamStatus = true
  loop : after.mainLoop = some .quit → before.mainLoop = some .quit ∨ after.Explained after.currentFileIdx

theorem Meanwhile.explained (meanwhile : Meanwhile before after) (explained : before.Explained i) :
    after.Explained i :=
  explained.imp meanwhile.status (fun ended => ended_grows ended meanwhile.printed)

theorem Meanwhile.knows (meanwhile : Meanwhile before after) (orderly : Orderly before) (sending : Sending before) :
    after.phase.Knows after := by
  have knows := sending.knows
  have attempted := orderly.attempted sending.ofFile
  rw [meanwhile.phase]
  cases found : before.phase with
  | nextFile i continueUploading =>
    cases continueUploading with
    | true =>
      rw [found] at knows
      exact fun j below => meanwhile.done (knows j below)
    | false => trivial
  | starting i | makingLoop i | runningLoop i =>
    rw [found] at knows
    exact ⟨attempting_grows knows.1 meanwhile.printed, fun j below => meanwhile.done (knows.2 j below)⟩
  | inLoop i =>
    rw [found] at knows attempted
    refine ⟨attempting_grows knows.1 meanwhile.printed, fun j below => meanwhile.done (knows.2.1 j below), ?_⟩
    intro quit
    rcases meanwhile.loop quit with before | explained
    · exact meanwhile.explained (knows.2.2 before)
    · rw [meanwhile.current, (attempted i rfl).1] at explained
      exact explained
  | stoppingPipeline i | freeingLoop i | clearingLoop i | checkingStatus i =>
    rw [found] at knows
    exact ⟨attempting_grows knows.1 meanwhile.printed, fun j below => meanwhile.done (knows.2.1 j below),
      meanwhile.explained knows.2.2⟩
  | stoppingSync i =>
    rw [found] at knows
    exact ⟨knows.1.trans meanwhile.files.symm, fun j below => meanwhile.done (knows.2 j below)⟩
  | _ => trivial

theorem Meanwhile.told (meanwhile : Meanwhile before after) (sending : Sending before) :
    .allPersisted ∈ after.messages → (∀ j < after.fileList.length, after.Done j) ∧
      after.doRetry = false ∧ after.phase.IsOver after.fileList.length := by
  intro member
  have earlier : .allPersisted ∈ before.messages :=
    (meanwhile.printed.old_or_new member).elim id (fun aside => absurd rfl aside.1)
  obtain ⟨done, given, isOver⟩ := sending.told earlier
  rw [meanwhile.files, meanwhile.phase, meanwhile.retry]
  exact ⟨fun j below => meanwhile.done (done j below), given, isOver⟩

/-- A step beside the main thread keeps what it knows. -/
theorem Sending.meanwhile (sending : Sending before) (orderly : Orderly before) (meanwhile : Meanwhile before after)
    (ending : after.streaming = .ending → Ended after.currentFileIdx after.messages)
    (reports : after.checking ≠ 0 ∨ after.quitting ≠ 0 → statusFailed after.streamStatus = true) :
    Sending after :=
  ⟨meanwhile.source.trans sending.ofFile, meanwhile.knows orderly sending, ending, reports, meanwhile.told sending⟩

theorem Onward.printed' (upload : Upload) (aside : message.Aside) : Onward upload (upload.print message) :=
  ⟨le_rfl, .snoc aside _⟩

theorem quit_meanwhile (explained : before.Explained before.currentFileIdx) : Meanwhile before before.quitMainLoop := by
  rw [quit_changes]
  exact ⟨⟨le_rfl, .refl _⟩, rfl, rfl, rfl, rfl, rfl, id, fun _ => .inr explained⟩

private theorem bus_error_sends (sending : Sending before) (orderly : Orderly before)
    (attributed : statusFailed before.streamStatus = true) : Sending (before.print .gstreamerError).quitMainLoop := by
  have aside : Message.gstreamerError.Aside := ⟨by rintro ⟨⟩, fun j => by rintro ⟨⟩⟩
  have printed : Onward before (before.print .gstreamerError) := .printed' before aside
  have meanwhile : Meanwhile before (before.print .gstreamerError).quitMainLoop := by
    rw [quit_changes]
    exact ⟨⟨le_rfl, printed.printed⟩, rfl, rfl, rfl, rfl, rfl, id, fun _ => .inr (.inl attributed)⟩
  refine sending.meanwhile orderly meanwhile ?_ ?_
  · rw [quit_changes]
    exact fun ending => ended_grows (sending.ending ending) printed.printed
  · rw [quit_changes]
    exact sending.reports

theorem sample_sends (sending : Sending before) (orderly : Orderly before) (taken : SampleTaken before after) :
    Sending after := by
  unfold SampleTaken at taken
  rw [taken]
  exact sending.meanwhile orderly ⟨⟨le_rfl, .refl _⟩, rfl, rfl, rfl, rfl, rfl, id, .inl⟩ sending.ending sending.reports

/-- The end of the file comes while the file is being attempted. -/
theorem end_sends (sending : Sending before) (orderly : Orderly before) (playing : before.streaming = .playing) :
    Sending (eosCb before) := by
  have up := orderly.pipeline (by rw [playing]; rintro ⟨⟩)
  have attempting : Attempting before.currentFileIdx before.messages := by
    have knows := sending.knows
    have attempted := orderly.attempted sending.ofFile
    cases found : before.phase <;> rw [found] at up knows attempted <;>
      first
        | exact (attempted _ rfl).1 ▸ knows.1
        | cases up
  have aside : (Message.endOfStream before.currentFileIdx).Aside := ⟨by rintro ⟨⟩, fun j => by rintro ⟨⟩⟩
  have printed : Onward before (before.print (.endOfStream before.currentFileIdx)) := .printed' before aside
  have ended : Ended before.currentFileIdx (before.messages ++ [.endOfStream before.currentFileIdx]) :=
    attempting.append (by simp) fun earlier _ => List.mem_append_right earlier (List.mem_singleton_self _)
  obtain ⟨base, changed⟩ := eos_changes before
  simp only [changed]
  split
  · have files : (before.fileList.modify before.currentFileIdx
        ({ · with lastFragmentTs := before.keyFramePts })).length = before.fileList.length :=
      List.length_modify ..
    exact sending.meanwhile orderly ⟨⟨le_rfl, printed.printed⟩, rfl, rfl, rfl, files, rfl, id, .inl⟩
      (fun _ => ended) sending.reports
  · exact sending.meanwhile orderly ⟨⟨le_rfl, .refl _⟩, rfl, rfl, rfl, rfl, rfl, id, .inl⟩ sending.ending sending.reports

theorem report_sends (sending : Sending before) (orderly : Orderly before) (failed : statusFailed status = true) :
    Sending (streamErrorReportHandler pic before status) := by
  unfold streamErrorReportHandler
  split
  · exact sending.meanwhile orderly ⟨⟨le_rfl, .refl _⟩, rfl, rfl, rfl, rfl, rfl, fun _ => failed, .inl⟩ sending.ending
      (fun _ => failed)
  · exact sending

theorem look_sends (sending : Sending before) (orderly : Orderly before) (inside : before.checking ≠ 0) :
    Sending (lookAtLoop before) := by
  have failed := sending.reports (.inl inside)
  have aside : Message.terminating.Aside := ⟨by rintro ⟨⟩, fun j => by rintro ⟨⟩⟩
  have printed : Onward before (before.print .terminating) := .printed' before aside
  unfold lookAtLoop
  simp only
  split
  · exact sending.meanwhile orderly ⟨⟨le_rfl, printed.printed⟩, rfl, rfl, rfl, rfl, rfl, id, .inl⟩
      (fun ending => ended_grows (sending.ending ending) printed.printed) (fun _ => failed)
  · exact sending.meanwhile orderly ⟨⟨le_rfl, .refl _⟩, rfl, rfl, rfl, rfl, rfl, id, .inl⟩ sending.ending (fun _ => failed)

private theorem ack_sends (sending : Sending before) (orderly : Orderly before) (ack : FragmentAck) :
    Sending (fragmentAckReceivedHandler before ack) := by
  have aside (i : ℕ) : (Message.persisted i).Aside := ⟨by rintro ⟨⟩, fun j => by rintro ⟨⟩⟩
  unfold fragmentAckReceivedHandler
  split
  · cases before.fileList[before.lastUnpersistedFileIdx]? with
    | none =>
      exact sending.meanwhile orderly ⟨⟨le_rfl, .refl _⟩, rfl, rfl, rfl, rfl, rfl, id, .inl⟩ sending.ending sending.reports
    | some file =>
      simp only
      split
      · have printed : Grows Message.Aside before.messages
            (before.messages ++ [.persisted before.lastUnpersistedFileIdx]) := .snoc (aside _) _
        exact sending.meanwhile orderly ⟨⟨Nat.le_succ _, printed⟩, rfl, rfl, rfl, rfl, rfl, id, .inl⟩
          (fun ending => ended_grows (sending.ending ending) printed) sending.reports
      · exact sending
  · exact sending

/-! ## The main thread -/

/-- The status is looked at: what passes for sent has come to its end. -/
theorem check_sends (sending : Sending before) (orderly : Orderly before) (found : before.phase = .checkingStatus i) :
    Sending (checkStatus pic before i) := by
  have knows := sending.knows
  rw [found] at knows
  obtain ⟨_, done, explained⟩ := knows
  have attempted := orderly.attempted sending.ofFile
  rw [found] at attempted
  obtain ⟨_, within⟩ := attempted i rfl
  have still := orderly.still (by rw [found]; rfl)
  have untold : .allPersisted ∉ before.messages := fun member => by
    have isOver := (sending.told member).2.2
    rw [found] at isOver
    exact isOver
  have told (message : Message) (other : message ≠ .allPersisted) :
      .allPersisted ∉ before.messages ++ [message] := by
    simp [untold, other.symm]
  have silent (upload : Upload) (same : upload.streaming = before.streaming) :
      upload.streaming = .ending → Ended upload.currentFileIdx upload.messages := by
    rw [same, still]
    rintro ⟨⟩
  unfold checkStatus
  rw [if_pos sending.ofFile]
  simp only
  cases failed : statusFailed before.streamStatus with
  | true =>
    rw [if_pos rfl]
    split
    · exact ⟨sending.ofFile, trivial, silent _ rfl, sending.reports, fun member => absurd member untold⟩
    · exact ⟨sending.ofFile, trivial, silent _ rfl, sending.reports,
        fun member => absurd member (told _ (by rintro ⟨⟩))⟩
  | false =>
    have ended : Ended i before.messages := explained.resolve_left (by rw [failed]; rintro ⟨⟩)
    have sent : SentWhole i (before.messages ++ [.finishedSending i]) :=
      ended.append (by simp) fun earlier member => ⟨earlier, [], rfl, member⟩
    have aside : (Message.finishedSending i).Aside := ⟨by rintro ⟨⟩, fun j => by rintro ⟨⟩⟩
    have printed : Onward before (before.print (.finishedSending i)) := .printed' before aside
    have doneNow (j : ℕ) (below : j < i + 1) : (before.print (.finishedSending i)).Done j := by
      rcases Nat.lt_succ_iff_lt_or_eq.mp below with earlier | rfl
      · exact printed.done (done j earlier)
      · exact .inr sent
    simp only [Bool.false_eq_true, if_false]
    split
    · rename_i last
      have all : i + 1 = before.fileList.length := by omega
      exact ⟨sending.ofFile, ⟨all, doneNow⟩, silent _ rfl, sending.reports,
        fun member => absurd member (told _ (by rintro ⟨⟩))⟩
    · exact ⟨sending.ofFile, doneNow, silent _ rfl, sending.reports,
        fun member => absurd member (told _ (by rintro ⟨⟩))⟩

theorem finish_sends (sending : Sending before) (orderly : Orderly before) (found : before.phase = .passDone) :
    Sending (finishPass before) := by
  have still := orderly.still (by rw [found]; rfl)
  have silent (upload : Upload) (same : upload.streaming = before.streaming) :
      upload.streaming = .ending → Ended upload.currentFileIdx upload.messages := by
    rw [same, still]
    rintro ⟨⟩
  unfold finishPass
  cases retries : before.doRetry with
  | false =>
    simp only [Bool.false_eq_true, if_false]
    refine ⟨sending.ofFile, trivial, silent _ rfl, sending.reports, fun member => ?_⟩
    obtain ⟨done, given, _⟩ := sending.told member
    exact ⟨done, given, trivial⟩
  | true =>
    have untold : .allPersisted ∉ before.messages := fun member => by
      have given := (sending.told member).2.1
      rw [retries] at given
      cases given
    rw [if_pos rfl]
    simp only
    split
    · split
      · have toldNothing : .allPersisted ∉
            before.messages ++ [.failedAfterRetrying before.lastUnpersistedFileIdx] := by
          simp [untold]
        exact ⟨sending.ofFile, trivial, silent _ rfl, sending.reports, fun member => absurd member toldNothing⟩
      · exact ⟨sending.ofFile, found ▸ trivial, silent _ rfl, sending.reports, fun member => absurd member untold⟩
    · exact ⟨sending.ofFile, trivial, silent _ rfl, sending.reports, fun member => absurd member untold⟩

/-- A step of the main thread while no pipeline is up. -/
theorem Sending.move (sending : Sending before) (orderly : Orderly before) (found : before.phase = here)
    (down : here.pipelineUp = false) (source : after.streamSource = before.streamSource)
    (streaming : after.streaming = before.streaming)
    (reports : after.checking ≠ 0 ∨ after.quitting ≠ 0 → statusFailed after.streamStatus = true)
    (knows : after.phase.Knows after) (told : .allPersisted ∈ after.messages →
      (∀ j < after.fileList.length, after.Done j) ∧ after.doRetry = false ∧
        after.phase.IsOver after.fileList.length) : Sending after := by
  have still := orderly.still (by rw [found]; exact down)
  refine ⟨source.trans sending.ofFile, knows, ?_, reports, told⟩
  rw [streaming, still]
  rintro ⟨⟩

/-- Where more attempts may come, the end has not been told. -/
theorem Sending.untold (sending : Sending before) (found : before.phase = here)
    (goesOn : ¬here.IsOver before.fileList.length) : .allPersisted ∉ before.messages := by
  intro member
  have isOver := (sending.told member).2.2
  rw [found] at isOver
  exact goesOn isOver

theorem attempt_sends (sending : Sending before) (orderly : Orderly before) (found : before.phase = .nextFile i true)
    (more : i < before.fileList.length) :
    Sending ({ before.print (.attempt i) with currentFileIdx := i }.goTo (.starting i)) := by
  have knows := sending.knows
  rw [found] at knows
  have still := orderly.still (by rw [found]; rfl)
  have untold := sending.untold found (by intro isOver; exact absurd isOver (Nat.ne_of_lt more))
  have silent : .allPersisted ∉ before.messages ++ [Message.attempt i] := by simp [untold]
  refine ⟨sending.ofFile, ⟨Since.fresh _ trivial, fun j below => ?_⟩, fun ending => absurd ending ?_,
    sending.reports, fun member => absurd member silent⟩
  · rcases knows j below with counted | sent
    · exact .inl counted
    · have other : Message.attempt j ∉ [Message.attempt i] := by
        simp only [List.mem_singleton, Message.attempt.injEq]
        omega
      exact .inr (sent.append other fun earlier => sent_lasts earlier [.attempt i])
  · change before.streaming ≠ .ending
    rw [still]
    rintro ⟨⟩

private theorem all_sent_sends (sending : Sending before) (orderly : Orderly before)
    (found : before.phase = .stoppingSync i) : Sending { ((before.call [.stopSync]).goTo
      (.nextFile (i + 1) true)).print .allPersisted with doRetry := false } := by
  have knows := sending.knows
  rw [found] at knows
  obtain ⟨all, done⟩ := knows
  have still := orderly.still (by rw [found]; rfl)
  have grown : Grows (fun message => ∀ j, message ≠ .attempt j) before.messages (before.messages ++ [.allPersisted]) :=
    .snoc (fun j => by rintro ⟨⟩) _
  have doneNow (j : ℕ) (below : j < i + 1) :
      j < before.lastUnpersistedFileIdx ∨ SentWhole j (before.messages ++ [.allPersisted]) :=
    (done j below).imp_right fun sent => Since.grow sent grown (fun aside => aside j rfl) sent_lasts
  refine ⟨sending.ofFile, doneNow, fun ending => absurd ending ?_, sending.reports,
    fun _ => ⟨fun j below => doneNow j (all ▸ below), rfl, all⟩⟩
  change before.streaming ≠ .ending
  rw [still]
  rintro ⟨⟩

theorem steps_send (sending : Sending before) (orderly : Orderly before) (steps : Steps pic before input after)
    (attributed : input.Attributed before) : Sending after := by
  have knows := sending.knows
  cases steps with
  | passBegins found =>
    exact sending.move orderly found rfl rfl rfl sending.reports (fun j below => .inl below)
      (fun member => absurd member (sending.untold found id))
  | attempts found more => exact attempt_sends sending orderly found more
  | passOver found passed =>
    exact sending.move orderly found rfl rfl rfl sending.reports trivial
      (fun member => ⟨(sending.told member).1, (sending.told member).2.1, trivial⟩)
  | plays found =>
    rw [found] at knows
    exact ⟨sending.ofFile, knows, (by rintro ⟨⟩), sending.reports,
      fun member => absurd member (sending.untold found id)⟩
  | cannotPlay found =>
    exact sending.move orderly found rfl rfl rfl sending.reports trivial
      (fun member => absurd member (sending.untold found id))
  | loopMade found =>
    rw [found] at knows
    exact ⟨sending.ofFile, knows, sending.ending, sending.reports,
      fun member => absurd member (sending.untold found id)⟩
  | loopRun found =>
    rw [found] at knows
    exact ⟨sending.ofFile, ⟨knows.1, knows.2, by rintro ⟨⟩⟩, sending.ending, sending.reports,
      fun member => absurd member (sending.untold found id)⟩
  | loopLeft found quit =>
    rw [found] at knows
    exact ⟨sending.ofFile, ⟨knows.1, knows.2.1, knows.2.2 quit⟩, sending.ending, sending.reports,
      fun member => absurd member (sending.untold found id)⟩
  | pipelineStopped found free =>
    rw [found] at knows
    exact ⟨sending.ofFile, knows, (by rintro ⟨⟩), sending.reports,
      fun member => absurd member (sending.untold found id)⟩
  | loopFreed found | loopCleared found =>
    rw [found] at knows
    exact sending.move orderly found rfl rfl rfl sending.reports knows
      (fun member => absurd member (sending.untold found id))
  | statusChecked found => exact check_sends sending orderly found
  | stopped found | streamReset found =>
    exact sending.move orderly found rfl rfl rfl sending.reports trivial
      (fun member => absurd member (sending.untold found id))
  | passFinished found => exact finish_sends sending orderly found
  | statusCleared found =>
    obtain ⟨checking, quitting⟩ := attributed found
    exact sending.move orderly found rfl rfl rfl
      (fun inside => absurd inside (by simp [Upload.goTo, checking, quitting])) trivial
      (fun member => absurd member (sending.untold found id))
  | streamFreed found =>
    exact sending.move orderly found rfl rfl rfl sending.reports trivial
      (fun member => ⟨(sending.told member).1, (sending.told member).2.1, trivial⟩)
  | allSent found => exact all_sent_sends sending orderly found
  | notAllSent found =>
    rw [found] at knows
    exact sending.move orderly found rfl rfl rfl sending.reports knows.2
      (fun member => absurd member (sending.untold found id))
  | finished found succeeded =>
    exact sending.move orderly found rfl rfl rfl sending.reports trivial
      (fun member => absurd member (sending.untold found id))
  | busError found => exact bus_error_sends sending orderly attributed
  | newSample playing sample => exact sample_sends sending orderly (sample_changes before sample)
  | eos playing ofFile => exact end_sends sending orderly playing
  | eosQuit ending =>
    have explained : before.Explained before.currentFileIdx := .inr (sending.ending ending)
    have quit := quit_meanwhile explained
    have meanwhile : Meanwhile before { before.quitMainLoop with streaming := .ended } :=
      ⟨⟨quit.counted, quit.printed⟩, quit.phase, quit.source, quit.current, quit.files, quit.retry, quit.status,
        quit.loop⟩
    refine sending.meanwhile orderly meanwhile (by rintro ⟨⟩) ?_
    rw [quit_changes]
    exact sending.reports
  | errorReport status => exact report_sends sending orderly attributed
  | lookAtLoop inside => exact look_sends sending orderly inside
  | quitLoop inside =>
    have failed := sending.reports (.inr inside)
    have quit := quit_meanwhile (.inl failed)
    have meanwhile : Meanwhile before { before.quitMainLoop with quitting := before.quitting - 1 } :=
      ⟨⟨quit.counted, quit.printed⟩, quit.phase, quit.source, quit.current, quit.files, quit.retry, quit.status,
        quit.loop⟩
    refine sending.meanwhile orderly meanwhile ?_ ?_
    · rw [quit_changes]
      exact sending.ending
    · rw [quit_changes]
      exact fun _ => failed
  | fragmentAck ack => exact ack_sends sending orderly ack

private theorem begin_sends (first : String) (others : List String) (now : UInt64) :
    Sending ((Job.files first others).begin now) :=
  ⟨rfl, trivial, by rintro ⟨⟩, fun inside => absurd inside (by simp [Job.begin]), fun member => by cases member⟩

/-- **All files have been persisted.** Take any run of an upload in which the library
reports errors only, GStreamer fails only after the stream has, and the status of the
stream is never cleared while a report is being handled. When the program says that all
files have been persisted, each file either counts as persisted or was uploaded to its
end when it was last attempted, and passed for sent after that. -/
theorem all_persisted_means_sent (ran : run (step pic) ((Job.files first others).begin now) inputs = some final)
    (attributed : EachStep (step pic) (fun upload input => input.Attributed upload)
      ((Job.files first others).begin now) inputs) (said : .allPersisted ∈ final.messages) :
    ∀ j < final.fileList.length, j < final.lastUnpersistedFileIdx ∨ SentWhole j final.messages := by
  have keeps : ∀ upload input next, (Orderly upload ∧ Sending upload) → input.Attributed upload →
      step pic upload input = some next → Orderly next ∧ Sending next := by
    rintro upload input next ⟨orderly, sending⟩ attributed accepted
    have steps := (step_steps accepted).2.2
    exact ⟨steps_orderly orderly steps, steps_send sending orderly steps attributed⟩
  have always := invariant_throughout keeps ⟨begin_orderly _ now, begin_sends first others now⟩ attributed
  exact ((always.at_end ran).2.told said).1

/-- An error of the stream in the first file, up to the second pass. -/
def failedPass (quits : List Input) : List Input :=
  [.advance, .advance, .gstreamerInit true, .advance, .advance, .newSample (keyFrameAt 0), .errorReport 2] ++ quits ++
    List.replicate 10 .advance

theorem retried_files_are_sent :
    ∃ final, run (step .sample) ((Job.files "a.mkv" ["b.mkv"]).begin 5000000)
        (failedPass [.lookAtLoop, .quitLoop] ++ twoFiles ++ [.stopSync true]) = some final ∧
      ∀ j < final.fileList.length, j < final.lastUnpersistedFileIdx ∨ SentWhole j final.messages := by
  have evaluated : (run (step .sample) ((Job.files "a.mkv" ["b.mkv"]).begin 5000000)
      (failedPass [.lookAtLoop, .quitLoop] ++ twoFiles ++ [.stopSync true])).map
        (fun final => decide (.allPersisted ∈ final.messages)) = some true := by decide
  obtain ⟨final, ran, said⟩ := Option.map_eq_some_iff.mp evaluated
  exact ⟨final, ran, all_persisted_means_sent ran (by decide) (of_decide_eq_true said)⟩

/-- A report that is still being handled at the retry quits the next upload of the first
file, which is then taken for sent without its end. -/
example : (run (step .sample) ((Job.files "a.mkv" ["b.mkv"]).begin 5000000)
    (failedPass [.busError] ++ [.advance, .advance, .gstreamerInit true, .advance, .advance, .lookAtLoop, .quitLoop] ++
      List.replicate 5 .advance ++ uploadFile [keyFrameAt 0] ++ [.stopSync true])).map
        (fun final => (decide (.allPersisted ∈ final.messages), decide (.endOfStream 0 ∈ final.messages))) =
      some (true, false) := by decide

end FileUpload
end KvsProducer
