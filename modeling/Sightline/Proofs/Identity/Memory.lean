import Sightline.Proofs.Identity.Run

/-! An identity file whose disk works is no different from remembering in memory, except that what is
remembered outlives the program.

Main statement: `IdentityFile.refines_memory`. The writer may fall behind the calls by any number of
changes, and catch up at any time. -/

set_option autoImplicit false

namespace Sightline

open Json

namespace IdentityMemory

def hear (memory : IdentityMemory) : IdentityEvent → IdentityMemory
  | .called change => (change.ask memory).2
  | .written | .failed | .stopped | .elsewhere => memory

def after (memory : IdentityMemory) (events : List IdentityEvent) : IdentityMemory :=
  events.foldl hear memory

@[simp] theorem after_concat (memory : IdentityMemory) (events : List IdentityEvent)
    (event : IdentityEvent) :
    memory.after (events ++ [event]) = (memory.after events).hear event := by
  simp [after]

theorem ask_eq (memory : IdentityMemory) (change : IdentityChange) :
    change.ask memory = (.ok (), ⟨change.result⟩) := by
  cases change <;> rfl

end IdentityMemory

namespace IdentityFile

variable {δ : Type} [Disk δ]

inductive Holds (disk : δ) (path : Path) : Option PeripheralId → Prop
  | missing (gone : Disk.read disk path = .error .notFound) : Holds disk path none
  | record {text : String} {record : Remembered} (read : Disk.readText disk path = .ok text)
      (parsed : Remembered.form.parse (Bytes.ofText text) = .ok record) :
      Holds disk path record.peripheral

theorem Holds.load {disk : δ} {path : Path} {current : Option PeripheralId}
    (holds : Holds disk path current) : IdentityFile.load disk path = .ok current := by
  cases holds with
  | missing gone => exact load_removed gone
  | record read parsed => simp only [IdentityFile.load, read, parsed]

theorem ask_current {file : IdentityFile} (writing : file.writing = true) (change : IdentityChange) :
    (change.ask file).1 = .ok () ∧ (change.ask file).2.current = change.result ∧
      (change.ask file).2.writing = true := by
  rcases file.ask_cases change with ⟨answer, same, current⟩ | ⟨_, answer, changed⟩ | ⟨gone, _⟩
  · exact ⟨answer, by rw [same, current], by rw [same, writing]⟩
  · exact ⟨answer, by rw [changed], by rw [changed, writing]⟩
  · rw [writing] at gone
    cases gone

structure Follows (path : Path) (file : IdentityFile) (disk : δ) (memory : IdentityMemory) : Prop where
  place : file.path = path
  writing : file.writing = true
  kept : file.Kept disk
  current : file.current = memory.slot

theorem follows_start {disk : δ} {path : Path} {file : IdentityFile}
    (opened : IdentityFile.start disk path = .ok file) : Follows path file disk ⟨file.current⟩ := by
  obtain ⟨current, load, rfl⟩ := start_eq_ok.mp opened
  exact ⟨rfl, rfl, ⟨by simp [Aimed], fun _ => load⟩, rfl⟩

variable [LawfulDisk δ]

theorem Follows.run {path : Path} {file later : IdentityFile} {disk after : δ}
    {memory : IdentityMemory} {events : List IdentityEvent} (follows : Follows path file disk memory)
    (run : IdentityRun file disk events later after)
    (working : ∀ event ∈ events, event = .written ∨ ∃ change, event = .called change) :
    Follows path later after (memory.after events) := by
  induction run with
  | start => exact follows
  | @next events event before after diskBefore diskAfter run step ih =>
    obtain ⟨place, writing, kept, current⟩ := ih fun event h => working event (by simp [h])
    cases step with
    | called change =>
      obtain ⟨-, result, still⟩ := ask_current writing change
      rw [IdentityMemory.after_concat, IdentityMemory.hear, IdentityMemory.ask_eq]
      exact ⟨(kept.aimed.step (.called before diskBefore change)).1.trans place, still,
        kept.called change, result⟩
    | written waits succeeds =>
      have next := kept.written waits succeeds
      rw [IdentityMemory.after_concat, IdentityMemory.hear]
      rw [writeNext_cons waits] at next ⊢
      exact ⟨place, writing, next, current⟩
    | failed | stopped | elsewhere => simpa using working _ (List.mem_concat_self ..)

/-- A file that is missing or in order can be opened. Where all that the writer does succeeds, the file
loads after every call what memory alone would hold, and gives the same answers. Once the writer has
finished, the same file opens with what was loaded last. A call that is refused changes nothing. -/
theorem refines_memory {disk : δ} {path : Path} {initial : Option PeripheralId}
    (holds : Holds disk path initial) :
    (∃ file, IdentityFile.start disk path = .ok file ∧ IdentityStore.load file = .ok initial ∧
      ∀ (events : List IdentityEvent) (later : IdentityFile) (after : δ),
        IdentityRun file disk events later after →
        (∀ event ∈ events, event = .written ∨ ∃ change, event = .called change) →
          let memory := IdentityMemory.after ⟨initial⟩ events
          IdentityStore.load later = IdentityStore.load memory ∧
          (∀ change : IdentityChange, (change.ask later).1 = (change.ask memory).1) ∧
          (AllSucceed path after later.pending →
            ∃ reopened, IdentityFile.start (later.finish after) path = .ok reopened ∧
              IdentityStore.load reopened = IdentityStore.load later)) ∧
      ∀ (file : IdentityFile) (change : IdentityChange) (reason : String),
        (change.ask file).1 = .error reason →
          IdentityStore.load (change.ask file).2 = IdentityStore.load file := by
  have opened : IdentityFile.start disk path = .ok { path, current := initial } :=
    start_eq_ok.mpr ⟨initial, holds.load, rfl⟩
  constructor
  · refine ⟨_, opened, rfl, ?_⟩
    -- The file stays in step with the memory, so both answer alike, and what it has queued is what
    -- the disk will hold.
    intro events later after run working memory
    obtain ⟨place, writing, kept, current⟩ := (follows_start opened).run run working
    refine ⟨congrArg Except.ok current, ?_, ?_⟩
    · intro change
      rw [(ask_current writing change).1, IdentityMemory.ask_eq]
    · intro succeed
      have load := kept.finish (by rw [place]; exact succeed)
      rw [place] at load
      exact ⟨_, start_eq_ok.mpr ⟨_, load, rfl⟩, rfl⟩
  · intro file change reason refused
    rcases file.ask_cases change with ⟨answer, -⟩ | ⟨-, answer, -⟩ | ⟨-, -, same⟩
    · rw [answer] at refused
      cases refused
    · rw [answer] at refused
      cases refused
    · rw [same]

/-- The file held another peripheral, the new name has to be escaped, and the writer is one change
behind. -/
theorem refines_memory_quoted :
    ∃ (file later : IdentityFile) (disk after : FileTree),
      Holds disk ⟨["glasses.json"]⟩ (some ⟨"old"⟩) ∧
      IdentityFile.start disk ⟨["glasses.json"]⟩ = .ok file ∧
      IdentityRun file disk [.called .clear, .written, .called (.save ⟨"\"new\"\\"⟩)] later after ∧
      later.pending = [.save ⟨"\"new\"\\"⟩] ∧
      IdentityStore.load later = .ok (some ⟨"\"new\"\\"⟩) ∧
      ∃ reopened, IdentityFile.start (later.finish after) ⟨["glasses.json"]⟩ = .ok reopened ∧
        IdentityStore.load reopened = .ok (some ⟨"\"new\"\\"⟩) := by
  have read : Disk.readText (⟨[(["glasses.json"],
      .file (Bytes.ofText (Remembered.pretty ⟨some ⟨"old"⟩⟩)))]⟩ : FileTree) ⟨["glasses.json"]⟩ =
        .ok (Remembered.pretty ⟨some ⟨"old"⟩⟩) := Disk.readText_of_read rfl
  have holds := Holds.record read (Form.parse_pretty (Remembered.form_accepts _))
  have willing : ∀ text, Disk.Willing ({} : FileTree) ⟨["glasses.json"]⟩ text :=
    fun _ => .of_parent rfl rfl rfl
  have opened := start_eq_ok.mpr ⟨_, holds.load, rfl⟩
  have cleared := (@IdentityRun.start FileTree _ { path := ⟨["glasses.json"]⟩, current := some ⟨"old"⟩ }
    ⟨[(["glasses.json"], .file (Bytes.ofText (Remembered.pretty ⟨some ⟨"old"⟩⟩)))]⟩).next
      (.called _ _ .clear)
  have saved := (cleared.next (.written rfl (.inl rfl))).next (.called _ _ (.save ⟨"\"new\"\\"⟩))
  obtain ⟨⟨file, opens, -, refines⟩, -⟩ := refines_memory holds
  cases opens.symm.trans opened
  obtain ⟨load, -, reopens⟩ := refines _ _ _ saved (by simp)
  exact ⟨_, _, _, _, holds, opened, saved, rfl, load, reopens ⟨willing _, trivial⟩⟩

end IdentityFile

end Sightline
