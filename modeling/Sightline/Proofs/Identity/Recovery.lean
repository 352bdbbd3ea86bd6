import Sightline.Proofs.Identity.Run

/-! When a peripheral that is saved again, after a write of it has failed, comes to be on disk.

Saving what is remembered already writes nothing, and what is remembered says nothing of the disk.
`IdentityFile.save_recovers_iff` tells exactly when a save leads to the disk; a failed write before it
that nothing made good is the one case in which it does not (`IdentityFile.save_not_recovered`). -/

set_option autoImplicit false

namespace Sightline.IdentityFile

variable {δ : Type} [Disk δ]

theorem aimed_of_run {file later : IdentityFile} {disk after : δ} {events : List IdentityEvent}
    (aimed : file.Aimed) (run : IdentityRun file disk events later after) :
    later.path = file.path ∧ later.Aimed := by
  induction run with
  | start => exact ⟨rfl, aimed⟩
  | next run step ih =>
    obtain ⟨place, aimed⟩ := ih
    obtain ⟨same, next⟩ := aimed.step step
    exact ⟨same.trans place, next⟩

/-- The peripheral is remembered and not on disk, and nothing waits for the writer. -/
structure Lost (id : PeripheralId) (file : IdentityFile) (disk : δ) : Prop where
  remembered : file.current = some id
  idle : file.pending = []
  missing : IdentityFile.load disk file.path ≠ .ok (some id)

theorem Lost.saved {id : PeripheralId} {file : IdentityFile} {disk : δ} (lost : Lost id file disk) :
    ((IdentityChange.save id).ask file).2 = file := by
  simp [IdentityChange.ask, IdentityStore.save, IdentityFile.save, lost.remembered]

theorem Lost.run {id : PeripheralId} {file later : IdentityFile} {disk after : δ}
    {events : List IdentityEvent} (lost : Lost id file disk)
    (run : IdentityRun file disk events later after)
    (only : ∀ event ∈ events,
      event = .called (.save id) ∨ event = .written ∨ event = .elsewhere) :
    Lost id later after := by
  induction run with
  | start => exact lost
  | @next events event before after diskBefore diskAfter run step ih =>
    have lost := ih fun event h => only event (by simp [h])
    have last := only event (by simp)
    -- Nothing is queued, and a save of the remembered id queues nothing; no disk of its own heals.
    cases step with
    | called change =>
      obtain rfl : change = .save id := by simpa using last
      rw [lost.saved]
      exact lost
    | written waits => simp [lost.idle] at waits
    | failed | stopped => simp at last
    | elsewhere same =>
      refine ⟨lost.remembered, lost.idle, fun load => lost.missing ?_⟩
      exact load_some_of_same (fun content => (same content).symm) load

/-- A save leaves the peripheral waiting for the writer, unless it was remembered before; then what was
waiting, or is on disk, is the same peripheral. -/
theorem kept_of_saved {id : PeripheralId} {file : IdentityFile} {disk : δ} (aimed : file.Aimed)
    (saved : ((IdentityChange.save id).ask file).1 = .ok ())
    (hopeful : file.current ≠ some id ∨ file.pending ≠ [] ∨
      IdentityFile.load disk file.path = .ok (some id)) :
    ((IdentityChange.save id).ask file).2.Kept disk ∧
      ((IdentityChange.save id).ask file).2.current = some id := by
  have next := (aimed.step (.called file disk (.save id))).2
  rcases file.ask_cases (.save id) with ⟨-, same, current⟩ | ⟨-, -, changed⟩ | ⟨-, refused, -⟩
  · rw [same] at next ⊢
    refine ⟨⟨next, fun idle => ?_⟩, current⟩
    rw [current]
    exact (hopeful.resolve_left fun other => other current).resolve_left fun waits => waits idle
  · rw [changed] at next ⊢
    exact ⟨⟨next, by simp⟩, rfl⟩
  · rw [refused] at saved
    cases saved

variable [LawfulDisk δ]

theorem Kept.run {id : PeripheralId} {file later : IdentityFile} {disk after : δ}
    {events : List IdentityEvent} (kept : file.Kept disk) (remembered : file.current = some id)
    (run : IdentityRun file disk events later after)
    (only : ∀ event ∈ events,
      event = .called (.save id) ∨ event = .written ∨ event = .elsewhere) :
    later.Kept after ∧ later.current = some id := by
  induction run with
  | start => exact ⟨kept, remembered⟩
  | @next events event before after diskBefore diskAfter run step ih =>
    obtain ⟨kept, remembered⟩ := ih fun event h => only event (by simp [h])
    have last := only event (by simp)
    -- Saving the same id again queues nothing, so what is queued still ends in it.
    cases step with
    | called change =>
      obtain rfl : change = .save id := by simpa using last
      refine ⟨kept.called _, ?_⟩
      simp [IdentityChange.ask, IdentityStore.save, IdentityFile.save, remembered]
    | written waits succeeds =>
      refine ⟨kept.written waits succeeds, ?_⟩
      rw [writeNext_cons waits]
      exact remembered
    | failed | stopped => simp at last
    | elsewhere same => exact ⟨kept.elsewhere remembered same, remembered⟩

/-! ### A write that fails -/

theorem willing_empty (text : String) :
    Disk.Willing ({} : FileTree) ⟨["user", "glasses.json"]⟩ text :=
  .of_parent rfl rfl rfl

theorem unwilling_blocked (text : String) :
    ¬Disk.Willing (⟨[(["user"], .file [])]⟩ : FileTree) ⟨["user", "glasses.json"]⟩ text := by
  intro willing
  have written : Except.error DiskFault.notFolder = Except.ok () := willing.file
  cases written

/-- A file stands where the folder should be, so the write fails; then it is taken away. -/
theorem run_blocked :
    IdentityRun { path := ⟨["user", "glasses.json"]⟩, current := none } ({} : FileTree)
      [.called (.save ⟨"glasses"⟩), .elsewhere, .failed, .elsewhere]
      { path := ⟨["user", "glasses.json"]⟩, current := some ⟨"glasses"⟩ } ({} : FileTree) := by
  have missing : Disk.read ({} : FileTree) ⟨["user", "glasses.json"]⟩ = .error .notFound := rfl
  have barred : Disk.read (⟨[(["user"], .file [])]⟩ : FileTree) ⟨["user", "glasses.json"]⟩ =
      .error .notFolder := rfl
  have unread : ∀ content,
      Disk.read (⟨[(["user"], .file [])]⟩ : FileTree) ⟨["user", "glasses.json"]⟩ = .ok content ↔
        Disk.read ({} : FileTree) ⟨["user", "glasses.json"]⟩ = .ok content := by
    simp [missing, barred]
  have saved := (@IdentityRun.start FileTree _
    { path := ⟨["user", "glasses.json"]⟩, current := none } {}).next
      (.called _ _ (.save ⟨"glasses"⟩))
  have blocked := saved.next (.elsewhere unread)
  have failed := blocked.next (.failed rfl (unwilling_blocked _))
  exact failed.next (.elsewhere fun content => (unread content).symm)

/-! ### Saving after a failure -/

/-- Whatever was called and whatever failed before: let a save answer well, nothing but the same save be
called from then on, and all that the writer still does succeed. Once the writer has finished, the file
opens with the peripheral exactly if it was not remembered before that save, or something was still
waiting to be written, or it is on disk already. -/
theorem save_recovers_iff {disk before after : δ} {path : Path} {opened file later : IdentityFile}
    {past future : List IdentityEvent} {id : PeripheralId}
    (opens : IdentityFile.start disk path = .ok opened)
    (run : IdentityRun opened disk past file before)
    (saved : ((IdentityChange.save id).ask file).1 = .ok ())
    (onward : IdentityRun ((IdentityChange.save id).ask file).2 before future later after)
    (only : ∀ event ∈ future,
      event = .called (.save id) ∨ event = .written ∨ event = .elsewhere)
    (succeed : AllSucceed path after later.pending) :
    IdentityFile.load (later.finish after) path = .ok (some id) ↔
      file.current ≠ some id ∨ file.pending ≠ [] ∨
        IdentityFile.load before path = .ok (some id) := by
  obtain ⟨current, -, rfl⟩ := start_eq_ok.mp opens
  obtain ⟨place, aimed⟩ := aimed_of_run (aimed_idle rfl) run
  obtain ⟨onPlace, -⟩ := aimed_of_run (aimed.step (.called file before (.save id))).2 onward
  have same : later.path = path := by
    rw [onPlace, (aimed.step (.called file before (.save id))).1, place]
  subst same
  constructor
  · -- Without hope nothing is queued, and the calls that follow queue nothing either.
    intro load
    apply Classical.byContradiction
    intro hopeless
    simp only [not_or, Classical.not_not] at hopeless
    obtain ⟨remembered, idle, missing⟩ := hopeless
    have lost : Lost id file before := ⟨remembered, idle, by rwa [place]⟩
    rw [lost.saved] at onward
    have still := lost.run onward only
    rw [IdentityFile.finish, still.idle] at load
    exact still.missing load
  · intro hopeful
    rw [← place] at hopeful
    obtain ⟨kept, remembered⟩ := kept_of_saved aimed saved hopeful
    obtain ⟨kept, remembered⟩ := kept.run remembered onward only
    rw [kept.finish succeed, remembered]

/-- After a write that failed, saving another peripheral leads to the disk. -/
theorem save_recovers_other :
    ∃ (file : IdentityFile) (before : FileTree),
      IdentityRun { path := ⟨["user", "glasses.json"]⟩, current := none } ({} : FileTree)
        [.called (.save ⟨"glasses"⟩), .elsewhere, .failed, .elsewhere] file before ∧
      ((IdentityChange.save ⟨"spare"⟩).ask file).1 = .ok () ∧
      IdentityFile.load (((IdentityChange.save ⟨"spare"⟩).ask file).2.finish before)
        ⟨["user", "glasses.json"]⟩ = .ok (some ⟨"spare"⟩) := by
  have opens : IdentityFile.start ({} : FileTree) ⟨["user", "glasses.json"]⟩ =
      .ok { path := ⟨["user", "glasses.json"]⟩, current := none } := rfl
  have succeed : AllSucceed ⟨["user", "glasses.json"]⟩ ({} : FileTree) [.save ⟨"spare"⟩] :=
    ⟨willing_empty _, trivial⟩
  have saved : ((IdentityChange.save ⟨"spare"⟩).ask (IdentityFile.mk ⟨["user", "glasses.json"]⟩
      (some ⟨"glasses"⟩) [] true)).1 = .ok () := rfl
  have recovers := save_recovers_iff opens run_blocked saved .start (by simp) succeed
  exact ⟨_, _, run_blocked, saved, recovers.mpr (.inl (by decide))⟩

/-- Saving the same peripheral again answers well too, and the disk is willing to hold it now, but
nothing is written. -/
theorem save_not_recovered :
    ∃ (opened file : IdentityFile) (before : FileTree),
      IdentityFile.start ({} : FileTree) ⟨["user", "glasses.json"]⟩ = .ok opened ∧
      IdentityRun opened ({} : FileTree)
        [.called (.save ⟨"glasses"⟩), .elsewhere, .failed, .elsewhere] file before ∧
      Disk.Willing before ⟨["user", "glasses.json"]⟩ (Remembered.pretty ⟨some ⟨"glasses"⟩⟩) ∧
      ((IdentityChange.save ⟨"glasses"⟩).ask file).1 = .ok () ∧
      AllSucceed ⟨["user", "glasses.json"]⟩ before
        ((IdentityChange.save ⟨"glasses"⟩).ask file).2.pending ∧
      IdentityFile.load (((IdentityChange.save ⟨"glasses"⟩).ask file).2.finish before)
        ⟨["user", "glasses.json"]⟩ ≠ .ok (some ⟨"glasses"⟩) := by
  have idle : IdentityFile.load ({} : FileTree) ⟨["user", "glasses.json"]⟩ = .ok none := rfl
  refine ⟨_, _, _, rfl, run_blocked, willing_empty _, rfl, trivial, fun load => ?_⟩
  cases idle.symm.trans load

end Sightline.IdentityFile
