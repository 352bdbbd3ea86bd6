import Sightline.Identity
import Sightline.Proofs.Disk
import Sightline.Proofs.Json.Record

/-! What can happen to an identity file: calls, the writer's work on what waits for it, and whatever
else goes on on the disk.

What is remembered and what is on disk drift apart and come together again. As long as something waits,
the last of it is what is remembered (`IdentityFile.Aimed`); once nothing waits and nothing has failed,
the file holds it (`IdentityFile.Kept`). -/

set_option autoImplicit false

namespace Sightline

open Json

theorem Remembered.form_accepts (record : Remembered) :
    Remembered.form.Accepts record.document record := by
  obtain ⟨peripheral⟩ := record
  cases peripheral with
  | none =>
    have absent : PeripheralId.form.optional.Accepts .null none := Form.optional_accepts_null _
    exact Form.record_accepts (.field rfl rfl (absent.map _) (.none _)) rfl
  | some id =>
    have present : PeripheralId.form.optional.Accepts id.document (some id) :=
      Form.optional_accepts_string ((Form.text_accepts id.text).map PeripheralId.mk)
    exact Form.record_accepts (.field rfl rfl (present.map _) (.none _)) rfl

section

variable {ω : Type} [IdentityStore ω]

def IdentityChange.ask (change : IdentityChange) (store : ω) : Except String Unit × ω :=
  match change with
  | .save id => IdentityStore.save store id
  | .clear => IdentityStore.clear store

end

variable {δ : Type} [Disk δ]

/-- Every use of the disk that the writer makes for a change succeeds. A file that is to be removed may
be missing. -/
def IdentityChange.Succeeds (disk : δ) (path : Path) : IdentityChange → Prop
  | .save id => Disk.Willing disk path (Remembered.pretty ⟨some id⟩)
  | .clear => (Disk.remove disk path).1 = .ok () ∨ (Disk.remove disk path).1 = .error .notFound

inductive IdentityEvent where
  | called (change : IdentityChange)
  /-- The writer brings the oldest change that waits to the disk. -/
  | written
  /-- The writer tries to, and fails. -/
  | failed
  /-- The writer is gone. -/
  | stopped
  /-- Something else changes the disk, but not what can be read from the file. -/
  | elsewhere
  deriving DecidableEq, Repr

inductive IdentityStep : IdentityFile → δ → IdentityEvent → IdentityFile → δ → Prop
  | called (file : IdentityFile) (disk : δ) (change : IdentityChange) :
      IdentityStep file disk (.called change) (change.ask file).2 disk
  | written {file : IdentityFile} {disk : δ} {oldest : IdentityChange}
      {more : List IdentityChange} (waits : file.pending = oldest :: more)
      (succeeds : oldest.Succeeds disk file.path) :
      IdentityStep file disk .written (file.writeNext disk).1 (file.writeNext disk).2
  | failed {file : IdentityFile} {disk : δ} {oldest : IdentityChange}
      {more : List IdentityChange} (waits : file.pending = oldest :: more)
      (fails : ¬oldest.Succeeds disk file.path) :
      IdentityStep file disk .failed (file.writeNext disk).1 (file.writeNext disk).2
  | stopped (file : IdentityFile) (disk : δ) : IdentityStep file disk .stopped file.stop disk
  | elsewhere {file : IdentityFile} {disk after : δ}
      (same : ∀ content,
        Disk.read after file.path = .ok content ↔ Disk.read disk file.path = .ok content) :
      IdentityStep file disk .elsewhere file after

/-- A file and its disk after events, which are listed in the order in which they happened. -/
inductive IdentityRun (file : IdentityFile) (disk : δ) :
    List IdentityEvent → IdentityFile → δ → Prop
  | start : IdentityRun file disk [] file disk
  | next {events : List IdentityEvent} {event : IdentityEvent} {before after : IdentityFile}
      {diskBefore diskAfter : δ} (run : IdentityRun file disk events before diskBefore)
      (step : IdentityStep before diskBefore event after diskAfter) :
      IdentityRun file disk (events ++ [event]) after diskAfter

namespace IdentityFile

/-! ### Calls -/

theorem change_cases (file : IdentityFile) (change : IdentityChange) :
    (file.writing = true ∧ file.change change =
      (.ok (), { file with current := change.result, pending := file.pending ++ [change] })) ∨
    (file.writing = false ∧ file.change change = (.error .writerStopped, file)) := by
  by_cases writing : file.writing = true
  · exact .inl ⟨writing, if_pos writing⟩
  · exact .inr ⟨Bool.eq_false_iff.mpr writing, if_neg writing⟩

theorem ask_save (file : IdentityFile) (id : PeripheralId) : (IdentityChange.save id).ask file =
    ((file.save id).1.mapError IdentityError.message, (file.save id).2) := rfl

theorem ask_clear (file : IdentityFile) : IdentityChange.clear.ask file =
    ((file.change .clear).1.mapError IdentityError.message, (file.change .clear).2) := rfl

theorem ask_cases (file : IdentityFile) (change : IdentityChange) :
    ((change.ask file).1 = .ok () ∧ (change.ask file).2 = file ∧ file.current = change.result) ∨
    (file.writing = true ∧ (change.ask file).1 = .ok () ∧ (change.ask file).2 =
      { file with current := change.result, pending := file.pending ++ [change] }) ∨
    (file.writing = false ∧ (change.ask file).1 = .error IdentityError.writerStopped.message ∧
      (change.ask file).2 = file) := by
  cases change with
  | save id =>
    rw [ask_save]
    by_cases same : file.current = some id
    · -- What is remembered already is not queued again.
      have elided : file.save id = (.ok (), file) := if_pos same
      rw [elided]
      exact .inl ⟨rfl, rfl, same⟩
    · have queued : file.save id = file.change (.save id) := if_neg same
      rw [queued]
      rcases file.change_cases (.save id) with ⟨writing, changed⟩ | ⟨gone, refused⟩
      · rw [changed]
        exact .inr (.inl ⟨writing, rfl, rfl⟩)
      · rw [refused]
        exact .inr (.inr ⟨gone, rfl, rfl⟩)
  | clear =>
    rw [ask_clear]
    rcases file.change_cases .clear with ⟨writing, changed⟩ | ⟨gone, refused⟩
    · rw [changed]
      exact .inr (.inl ⟨writing, rfl, rfl⟩)
    · rw [refused]
      exact .inr (.inr ⟨gone, rfl, rfl⟩)

theorem writeNext_cons {file : IdentityFile} {disk : δ} {oldest : IdentityChange}
    {more : List IdentityChange} (waits : file.pending = oldest :: more) :
    file.writeNext disk = ({ file with pending := more }, apply file.path disk oldest) := by
  simp [writeNext, waits]

/-! ### What the file holds -/

theorem load_saved {disk : δ} {path : Path} {id : PeripheralId}
    (read : Disk.read disk path = .ok (Bytes.ofText (Remembered.pretty ⟨some id⟩))) :
    IdentityFile.load disk path = .ok (some id) := by
  have parsed : Remembered.form.parse (Bytes.ofText (Remembered.pretty ⟨some id⟩)) =
      .ok ⟨some id⟩ := Form.parse_pretty (Remembered.form_accepts _)
  simp [IdentityFile.load, Disk.readText_of_read read, parsed]

theorem load_removed {disk : δ} {path : Path} (gone : Disk.read disk path = .error .notFound) :
    IdentityFile.load disk path = .ok none := by
  simp [IdentityFile.load, Disk.readText, gone]

theorem load_some_of_same {disk after : δ} {path : Path} {id : PeripheralId}
    (same : ∀ content, Disk.read after path = .ok content ↔ Disk.read disk path = .ok content)
    (load : IdentityFile.load disk path = .ok (some id)) :
    IdentityFile.load after path = .ok (some id) := by
  cases read : Disk.read disk path with
  | error fault => cases fault <;> simp [IdentityFile.load, Disk.readText, read] at load
  | ok content =>
    have read' := (same content).mpr read
    simpa only [IdentityFile.load, Disk.readText, read, read'] using load

theorem load_apply [LawfulDisk δ] {disk : δ} {path : Path} {change : IdentityChange}
    (succeeds : change.Succeeds disk path) :
    IdentityFile.load (apply path disk change) path = .ok change.result := by
  cases change with
  | save id =>
    obtain ⟨after, written, read, -⟩ := Disk.Willing.kept succeeds
    rw [apply, written]
    exact load_saved read
  | clear => exact load_removed (LawfulDisk.read_of_remove rfl succeeds)

theorem start_eq_ok {disk : δ} {path : Path} {file : IdentityFile} :
    IdentityFile.start disk path = .ok file ↔
      ∃ current, IdentityFile.load disk path = .ok current ∧ file = { path, current } := by
  unfold IdentityFile.start
  cases IdentityFile.load disk path with
  | error fault => simp [Except.map]
  | ok current => simp [Except.map, eq_comm]

/-! ### Invariants -/

def Aimed (file : IdentityFile) : Prop :=
  ∀ change, file.pending.getLast? = some change → file.current = change.result

theorem aimed_idle {file : IdentityFile} (idle : file.pending = []) : file.Aimed := by
  simp [Aimed, idle]

theorem Aimed.step {file after : IdentityFile} {disk diskAfter : δ} {event : IdentityEvent}
    (aimed : file.Aimed) (step : IdentityStep file disk event after diskAfter) :
    after.path = file.path ∧ after.Aimed := by
  -- Doing the oldest change leaves the newest one last, whatever the disk answers.
  have work : ∀ {oldest more}, file.pending = oldest :: more →
      (file.writeNext disk).1.path = file.path ∧ (file.writeNext disk).1.Aimed := by
    intro oldest more waits
    rw [writeNext_cons waits]
    refine ⟨rfl, fun change last => aimed change ?_⟩
    rw [waits, List.getLast?_cons, last]
    rfl
  cases step with
  | called change =>
    rcases file.ask_cases change with ⟨-, same, -⟩ | ⟨-, -, changed⟩ | ⟨-, -, same⟩
    · rw [same]
      exact ⟨rfl, aimed⟩
    · rw [changed]
      refine ⟨rfl, fun last h => ?_⟩
      rw [List.getLast?_concat, Option.some.injEq] at h
      rw [h]
    · rw [same]
      exact ⟨rfl, aimed⟩
  | written waits => exact work waits
  | failed waits => exact work waits
  | stopped => exact ⟨rfl, by simp [Aimed, stop]⟩
  | elsewhere => exact ⟨rfl, aimed⟩

structure Kept (file : IdentityFile) (disk : δ) : Prop where
  aimed : file.Aimed
  settled : file.pending = [] → IdentityFile.load disk file.path = .ok file.current

theorem Kept.called {file : IdentityFile} {disk : δ} (kept : file.Kept disk)
    (change : IdentityChange) : (change.ask file).2.Kept disk := by
  refine ⟨(kept.aimed.step (.called file disk change)).2, ?_⟩
  rcases file.ask_cases change with ⟨-, same, -⟩ | ⟨-, -, changed⟩ | ⟨-, -, same⟩
  · rw [same]
    exact kept.settled
  · rw [changed]
    simp
  · rw [same]
    exact kept.settled

theorem Kept.elsewhere {file : IdentityFile} {disk after : δ} {id : PeripheralId}
    (kept : file.Kept disk) (remembered : file.current = some id)
    (same : ∀ content,
      Disk.read after file.path = .ok content ↔ Disk.read disk file.path = .ok content) :
    file.Kept after := by
  refine ⟨kept.aimed, fun idle => ?_⟩
  have load := kept.settled idle
  rw [remembered] at load ⊢
  exact load_some_of_same same load

variable [LawfulDisk δ]

theorem Kept.written {file : IdentityFile} {disk : δ} {oldest : IdentityChange}
    {more : List IdentityChange} (kept : file.Kept disk) (waits : file.pending = oldest :: more)
    (succeeds : oldest.Succeeds disk file.path) :
    (file.writeNext disk).1.Kept (file.writeNext disk).2 := by
  refine ⟨(kept.aimed.step (.written waits succeeds)).2, ?_⟩
  rw [writeNext_cons waits]
  rintro rfl
  rw [kept.aimed oldest (by rw [waits]; rfl)]
  exact load_apply succeeds

/-! ### The end -/

/-- Every change in turn succeeds on the disk that those before it left. -/
def AllSucceed (path : Path) : δ → List IdentityChange → Prop
  | _, [] => True
  | disk, change :: more => change.Succeeds disk path ∧ AllSucceed path (apply path disk change) more

theorem Kept.finish {file : IdentityFile} {disk : δ} (kept : file.Kept disk)
    (succeed : AllSucceed file.path disk file.pending) :
    IdentityFile.load (file.finish disk) file.path = .ok file.current := by
  obtain ⟨path, current, pending, writing⟩ := file
  induction pending generalizing disk with
  | nil => exact kept.settled rfl
  | cons oldest more ih => exact ih (kept.written rfl succeed.1) succeed.2

end IdentityFile

end Sightline
