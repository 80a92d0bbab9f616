import KvsProducer.FileUpload

/-! Which files count as persisted. A file is counted by the acknowledgement of its
last fragment, which the main thread, the streaming thread and the library each know
a part of: the index, the timestamp and the acknowledgement. -/
namespace KvsProducer
open Gst Runs
namespace FileUpload

def Message.persistedFile : Message → Option ℕ
  | .persisted i => some i
  | _ => none

def Upload.persistedFiles (upload : Upload) : List ℕ := upload.messages.filterMap Message.persistedFile

/-- Nothing is counted and no end recorded. -/
structure SameLedger (before after : Upload) : Prop where
  fileList : after.fileList = before.fileList
  lastUnpersisted : after.lastUnpersistedFileIdx = before.lastUnpersistedFileIdx
  files : after.persistedFiles = before.persistedFiles

/-- What a step does to the ledger. -/
inductive LedgerStep (before : Upload) : Input → Upload → Prop where
  | counts (ack : FragmentAck) (persisted : ack.ackType = .persisted)
      (listed : before.fileList[before.lastUnpersistedFileIdx]? = some file)
      (known : ack.timestamp ≠ 0) (same : file.lastFragmentMs = ack.timestamp)
      (fileList : after.fileList = before.fileList)
      (count : after.lastUnpersistedFileIdx = before.lastUnpersistedFileIdx + 1)
      (files : after.persistedFiles = before.persistedFiles ++ [before.lastUnpersistedFileIdx]) :
      LedgerStep before (.fragmentAck ack) after
  | ends (fileList : after.fileList = before.fileList.modify before.currentFileIdx
        ({ · with lastFragmentTs := before.keyFramePts }))
      (count : after.lastUnpersistedFileIdx = before.lastUnpersistedFileIdx)
      (files : after.persistedFiles = before.persistedFiles) : LedgerStep before .eos after
  | keeps (same : SameLedger before after) : LedgerStep before input after

variable {pic : Pic} {before after upload next final : Upload} {input : Input} {job : Job} {now : UInt64}

theorem SameLedger.quit (same : SameLedger before after) : SameLedger before after.quitMainLoop := by
  rw [quit_changes]
  exact ⟨same.fileList, same.lastUnpersisted, same.files⟩

theorem SameLedger.printed (upload : Upload) (silent : message.persistedFile = none) :
    SameLedger upload (upload.print message) where
  fileList := rfl
  lastUnpersisted := rfl
  files := by simp [Upload.persistedFiles, Upload.print, silent]

private theorem check_same_ledger (upload : Upload) (i : ℕ) : SameLedger upload (checkStatus pic upload i) := by
  unfold checkStatus
  split
  · simp only
    split
    · split
      · exact ⟨rfl, rfl, rfl⟩
      · have printed : SameLedger upload (upload.print (.fatal upload.streamStatus)) := .printed upload rfl
        exact ⟨rfl, rfl, printed.files⟩
    · have printed : SameLedger upload (upload.print (.finishedSending i)) := .printed upload rfl
      split <;> exact ⟨rfl, rfl, printed.files⟩
  · exact ⟨rfl, rfl, rfl⟩

private theorem finish_same_ledger (upload : Upload) : SameLedger upload (finishPass upload) := by
  unfold finishPass
  split
  · simp only
    split
    · split
      · have printed : SameLedger upload (upload.print (.failedAfterRetrying upload.lastUnpersistedFileIdx)) :=
          .printed upload rfl
        exact ⟨rfl, rfl, printed.files⟩
      · exact ⟨rfl, rfl, rfl⟩
    · exact ⟨rfl, rfl, rfl⟩
  · exact ⟨rfl, rfl, rfl⟩

private theorem end_ledger (upload : Upload) : LedgerStep upload .eos (eosCb upload) := by
  obtain ⟨base, changed⟩ := eos_changes upload
  simp only [changed]
  split
  · have printed : SameLedger upload (upload.print (.endOfStream upload.currentFileIdx)) := .printed upload rfl
    exact .ends rfl rfl printed.files
  · exact .keeps ⟨rfl, rfl, rfl⟩

private theorem ack_ledger (upload : Upload) (ack : FragmentAck) :
    LedgerStep upload (.fragmentAck ack) (fragmentAckReceivedHandler upload ack) := by
  unfold fragmentAckReceivedHandler
  split
  · rename_i looked
    cases listed : upload.fileList[upload.lastUnpersistedFileIdx]? with
    | none => exact .keeps ⟨rfl, rfl, rfl⟩
    | some file =>
      simp only
      split
      · rename_i last
        have known : ack.timestamp ≠ 0 := last.2 ▸ last.1
        refine .counts ack looked.2 listed known last.2 rfl rfl ?_
        simp [Upload.persistedFiles, Upload.print, Message.persistedFile]
      · exact .keeps ⟨rfl, rfl, rfl⟩
  · exact .keeps ⟨rfl, rfl, rfl⟩

private theorem steps_ledger (steps : Steps pic before input after) : LedgerStep before input after := by
  cases steps with
  | statusChecked found => exact .keeps (check_same_ledger before _)
  | passFinished found => exact .keeps (finish_same_ledger before)
  | busError found => exact .keeps (SameLedger.printed before rfl).quit
  | newSample playing sample =>
    have taken := sample_changes before sample
    unfold SampleTaken at taken
    rw [taken]
    exact .keeps ⟨rfl, rfl, rfl⟩
  | eos playing ofFile => exact end_ledger before
  | eosQuit ending =>
    have same : SameLedger before before.quitMainLoop := .quit ⟨rfl, rfl, rfl⟩
    exact .keeps ⟨same.fileList, same.lastUnpersisted, same.files⟩
  | errorReport status =>
    unfold streamErrorReportHandler
    split <;> exact .keeps ⟨rfl, rfl, rfl⟩
  | lookAtLoop inside =>
    have printed : SameLedger before (before.print .terminating) := .printed before rfl
    unfold lookAtLoop
    simp only
    split
    · exact .keeps ⟨rfl, rfl, printed.files⟩
    · exact .keeps ⟨rfl, rfl, rfl⟩
  | quitLoop inside =>
    have same : SameLedger before before.quitMainLoop := .quit ⟨rfl, rfl, rfl⟩
    exact .keeps ⟨same.fileList, same.lastUnpersisted, same.files⟩
  | fragmentAck ack => exact ack_ledger before ack
  | attempts found more =>
    have printed (i : ℕ) : SameLedger before (before.print (.attempt i)) := .printed before rfl
    exact .keeps ⟨rfl, rfl, (printed _).files⟩
  | allSent found =>
    have printed : SameLedger before (before.print .allPersisted) := .printed before rfl
    exact .keeps ⟨rfl, rfl, printed.files⟩
  | _ => exact .keeps ⟨rfl, rfl, rfl⟩

/-! ## Whole uploads -/

/-- An upload of the file came to its end, with this timestamp on its last fragment. -/
def CameToEnd (pic : Pic) (start : Upload) (inputs : List Input) (j : ℕ) (lastFragmentTs : UInt64) : Prop :=
  ∃ earlier later upload, inputs = earlier ++ .eos :: later ∧ run (step pic) start earlier = some upload ∧
    upload.currentFileIdx = j ∧ upload.keyFramePts = lastFragmentTs

/-- The file was the first one not counted when the millisecond of its last fragment
was acknowledged as persisted. -/
def Acknowledged (pic : Pic) (start : Upload) (inputs : List Input) (j : ℕ) : Prop :=
  ∃ earlier ack later upload lastFragmentTs, inputs = earlier ++ .fragmentAck ack :: later ∧
    run (step pic) start earlier = some upload ∧ upload.lastUnpersistedFileIdx = j ∧
      ack.ackType = .persisted ∧ ack.timestamp ≠ 0 ∧ ack.timestamp = lastFragmentTs / nanosInAMillisecond ∧
        CameToEnd pic start earlier j lastFragmentTs

theorem CameToEnd.extend (came : CameToEnd pic start inputs j ts) (input : Input) :
    CameToEnd pic start (inputs ++ [input]) j ts := by
  obtain ⟨earlier, later, upload, rfl, ran, same, key⟩ := came
  exact ⟨earlier, later ++ [input], upload, by simp, ran, same, key⟩

theorem Acknowledged.extend (acknowledged : Acknowledged pic start inputs j) (input : Input) :
    Acknowledged pic start (inputs ++ [input]) j := by
  obtain ⟨earlier, ack, later, upload, ts, rfl, rest⟩ := acknowledged
  exact ⟨earlier, ack, later ++ [input], upload, ts, by simp, rest⟩

/-- The files are counted one after the other, each when its last fragment is known
to be persisted. -/
structure FilesCounted (pic : Pic) (start : Upload) (inputs : List Input) (final : Upload) : Prop where
  within : final.lastUnpersistedFileIdx ≤ final.fileList.length
  inOrder : final.persistedFiles = List.range final.lastUnpersistedFileIdx
  acknowledged : ∀ j < final.lastUnpersistedFileIdx, Acknowledged pic start inputs j

/-- The same with what the list of files remembers. -/
structure Accounted (pic : Pic) (start : Upload) (inputs : List Input) (upload : Upload) : Prop
    extends FilesCounted pic start inputs upload where
  remembered : ∀ j file, upload.fileList[j]? = some file → file.lastFragmentTs ≠ 0 →
    CameToEnd pic start inputs j file.lastFragmentTs

private theorem begin_accounted (pic : Pic) (job : Job) (now : UInt64) :
    Accounted pic (job.begin now) [] (job.begin now) where
  within := Nat.zero_le _
  inOrder := rfl
  acknowledged _ below := absurd below (Nat.not_lt_zero _)
  remembered j file listed known := by
    have fresh : file.lastFragmentTs = 0 := by
      obtain ⟨path, _, rfl⟩ := List.mem_map.mp (List.mem_of_getElem? listed)
      rfl
    exact absurd fresh known

/-- What one more input adds to the account. -/
theorem step_accounts (accounted : Accounted pic start inputs before) (ran : run (step pic) start inputs = some before)
    (orderly : Orderly after) (ledger : LedgerStep before input after) :
    Accounted pic start (inputs ++ [input]) after := by
  have within := orderly.counted
  cases ledger with
  | counts ack persisted listed known same fileList count files =>
    rename_i file
    have nonzero : file.lastFragmentTs ≠ 0 := by
      intro zero
      refine known (same.symm.trans ?_)
      rw [FileInfo.lastFragmentMs, zero]
      rfl
    refine ⟨⟨within, ?_, fun j below => ?_⟩, fun j other found known => ?_⟩
    · rw [files, accounted.inOrder, count, List.range_succ]
    · rcases Nat.lt_succ_iff_lt_or_eq.mp (count ▸ below) with earlier | rfl
      · exact (accounted.acknowledged j earlier).extend _
      · exact ⟨inputs, ack, [], before, file.lastFragmentTs, rfl, ran, rfl, persisted, known, same.symm,
          accounted.remembered _ file listed nonzero⟩
    · exact (accounted.remembered j other (fileList ▸ found) known).extend _
  | ends fileList count files =>
    refine ⟨⟨within, ?_, fun j below => ?_⟩, fun j other found known => ?_⟩
    · rw [files, accounted.inOrder, count]
    · exact (accounted.acknowledged j (count ▸ below)).extend _
    · rw [fileList, List.getElem?_modify] at found
      by_cases current : before.currentFileIdx = j
      · simp only [current, if_true] at found
        obtain ⟨file, _, rfl⟩ := Option.map_eq_some_iff.mp found
        exact ⟨inputs, [], before, rfl, ran, current, rfl⟩
      · simp only [current, if_false, Option.map_eq_map, Option.map_id_fun', id] at found
        exact (accounted.remembered j other found known).extend _
  | keeps same =>
    refine ⟨⟨within, ?_, fun j below => ?_⟩, fun j other found known => ?_⟩
    · rw [same.files, accounted.inOrder, same.lastUnpersisted]
    · exact (accounted.acknowledged j (same.lastUnpersisted ▸ below)).extend _
    · exact (accounted.remembered j other (same.fileList ▸ found) known).extend _

/-- **Persisted files.** However the main thread, the streaming thread and the callbacks
of the library interleave, the files are counted as persisted in their order and each
once, and a file is counted only when a fragment is acknowledged as persisted whose
millisecond is that of the last key frame taken in before an upload of that file ended. -/
theorem files_are_counted_in_order (ran : run (step pic) (job.begin now) inputs = some final) :
    FilesCounted pic (job.begin now) inputs final := by
  suffices accounted : Accounted pic (job.begin now) inputs final from accounted.toFilesCounted
  induction inputs using List.reverseRecOn generalizing final with
  | nil =>
    cases ran
    exact begin_accounted pic job now
  | append_singleton earlier last ih =>
    have reached : Reaches (step pic) (job.begin now) final := ⟨_, ran⟩
    rw [run_snoc] at ran
    obtain ⟨before, ranBefore, accepted⟩ := Option.bind_eq_some_iff.mp ran
    exact step_accounts (ih ranBefore) ranBefore (run_orderly reached) (steps_ledger (step_steps accepted).2.2)

theorem two_files_are_counted :
    ∃ final, run (step .sample) ((Job.files "a.mkv" ["b.mkv"]).begin 5000000) twoFiles = some final ∧
      final.lastUnpersistedFileIdx = 2 ∧
      FilesCounted .sample ((Job.files "a.mkv" ["b.mkv"]).begin 5000000) twoFiles final := by
  have evaluated : (run (step .sample) ((Job.files "a.mkv" ["b.mkv"]).begin 5000000) twoFiles).map
      Upload.lastUnpersistedFileIdx = some 2 := by decide
  obtain ⟨final, ran, counted⟩ := Option.map_eq_some_iff.mp evaluated
  exact ⟨final, ran, counted, files_are_counted_in_order ran⟩

end FileUpload
end KvsProducer
