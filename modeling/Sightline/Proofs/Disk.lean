import Sightline.Disk.FileTree

/-! What can be relied on when uses of a disk succeed: a file that was written is there and reads as it
was written, one that was removed is gone, and a folder that was made is there.

Uses that fail promise nothing. That everything needed to write a file succeeds is a condition of its
own (`Disk.Willing`). The tree of files and folders keeps the laws. -/

set_option autoImplicit false

namespace Sightline

class LawfulDisk (δ : Type) [Disk δ] : Prop where
  read_of_write {disk after : δ} {path : Path} {content : Bytes}
    (written : Disk.write disk path content = (.ok (), after)) : Disk.read after path = .ok content
  isThere_of_read {disk : δ} {path : Path} {content : Bytes}
    (read : Disk.read disk path = .ok content) : Disk.isThere disk path = true
  isThere_of_write {disk after : δ} {path other : Path} {content : Bytes}
    (written : Disk.write disk path content = (.ok (), after))
    (there : Disk.isThere disk other = true) : Disk.isThere after other = true
  /-- A file that cannot be removed because it is not there is gone as well. -/
  read_of_remove {disk after : δ} {path : Path} {result : Except DiskFault Unit}
    (removed : Disk.remove disk path = (result, after))
    (gone : result = .ok () ∨ result = .error .notFound) : Disk.read after path = .error .notFound
  isThere_of_makeFolders {disk after : δ} {path : Path}
    (made : Disk.makeFolders disk path = (.ok (), after)) (named : path.isEmpty = false) :
    Disk.isThere after path = true

namespace Disk

variable {δ : Type} [Disk δ]

def withFolder (disk : δ) (path : Path) : δ :=
  match path.parent? with
  | none => disk
  | some folder => (ensureFolder disk folder).2

/-- Every use of the disk that it takes to write a file succeeds: making its folder, if that is
missing, and writing the file itself. -/
structure Willing (disk : δ) (path : Path) (text : String) : Prop where
  folder : ∀ folder, path.parent? = some folder → (ensureFolder disk folder).1 = .ok ()
  file : (write (withFolder disk path) path (Bytes.ofText text)).1 = .ok ()

theorem Willing.of_parent {disk : δ} {path folder : Path} {text : String}
    (parent : path.parent? = some folder) (ensured : (ensureFolder disk folder).1 = .ok ())
    (file : (Disk.write (withFolder disk path) path (Bytes.ofText text)).1 = .ok ()) :
    Willing disk path text := by
  refine ⟨fun other above => ?_, file⟩
  obtain rfl := Option.some.inj (parent.symm.trans above)
  exact ensured

theorem Willing.write {disk : δ} {path : Path} {text : String} (willing : Willing disk path text) :
    ∃ after, Disk.write (withFolder disk path) path (Bytes.ofText text) = (.ok (), after) ∧
      writeText disk path text = (.ok (), after) := by
  obtain ⟨folder, file⟩ := willing
  refine ⟨_, Prod.ext file rfl, ?_⟩
  unfold withFolder at file ⊢
  unfold writeText
  cases parent : path.parent? with
  | none =>
    simp only [parent] at file ⊢
    exact Prod.ext file rfl
  | some above =>
    simp only [parent] at file ⊢
    rw [folder above parent]
    exact Prod.ext file rfl

theorem readText_of_read {disk : δ} {path : Path} {text : String}
    (read : Disk.read disk path = .ok (Bytes.ofText text)) : readText disk path = .ok text := by
  simp [readText, read]

variable [LawfulDisk δ]

theorem isThere_withFolder {disk : δ} {path folder : Path} (parent : path.parent? = some folder)
    (ensured : (ensureFolder disk folder).1 = .ok ()) (named : folder.isEmpty = false) :
    isThere (withFolder disk path) folder = true := by
  simp only [withFolder, parent]
  unfold ensureFolder at ensured ⊢
  split
  · next there => exact there
  · next missing =>
    rw [if_neg missing] at ensured
    exact LawfulDisk.isThere_of_makeFolders (Prod.ext ensured rfl) named

theorem Willing.kept {disk : δ} {path : Path} {text : String} (willing : Willing disk path text) :
    ∃ after, writeText disk path text = (.ok (), after) ∧
      Disk.read after path = .ok (Bytes.ofText text) ∧
      ∀ folder, path.parent? = some folder → folder.isEmpty = false →
        isThere after folder = true := by
  obtain ⟨after, written, answer⟩ := willing.write
  refine ⟨after, answer, LawfulDisk.read_of_write written, ?_⟩
  intro folder parent named
  exact LawfulDisk.isThere_of_write written
    (isThere_withFolder parent (willing.folder folder parent) named)

end Disk

/-! ### The tree -/

namespace FileTree

def Leads (answer : Except DiskFault Place) : Prop :=
  answer = .ok .folder ∨ ∃ place content, answer = .ok (.file place content)

theorem isThere_iff {tree : FileTree} {path : Path} :
    tree.isThere path = true ↔ Leads (tree.locate path) := by
  unfold isThere Leads
  split <;> simp_all

theorem leads_put {tree : FileTree} {place : List String} (content : Bytes)
    (free : tree.node? place ≠ some .folder) {folder parts : List String}
    (leads : Leads (tree.follow folder parts)) :
    Leads ((tree.put place (.file content)).follow folder parts) := by
  fun_induction follow tree folder parts with
  | case1 => exact .inl rfl
  | case2 _ _ _ idle ih =>
    rw [follow, if_pos idle]
    exact ih leads
  | case3 _ _ idle ih =>
    rw [follow, if_neg idle, if_pos rfl]
    exact ih leads
  | case4 | case7 | case8 | case9 => simp [Leads] at leads
  | case5 _ _ _ idle up long here found ih =>
    have distinct : here ≠ place := by
      rintro rfl
      exact free found
    rw [follow, if_neg idle, if_neg up, if_neg long]
    simp only [node?_put_of_ne _ _ distinct, found, here]
    exact ih leads
  | case6 _ _ _ idle up long here before found last =>
    -- Only here, at its end, can the path come upon the file that is put.
    rw [follow, if_neg idle, if_neg up, if_neg long]
    by_cases same : here = place
    · subst same
      simp [Leads, last, here]
    · simp only [node?_put_of_ne _ _ same, found, last, here]
      exact .inr ⟨_, _, rfl⟩

theorem follow_erase {tree : FileTree} {folder parts place : List String} {content : Bytes}
    (found : tree.follow folder parts = .ok (.file place content)) :
    (tree.erase place).follow folder parts = .ok (.vacant place) := by
  have free := node?_of_follow (.inr ⟨content, found⟩)
  fun_induction follow tree folder parts with
  | case1 | case4 | case7 | case8 | case9 => simp at found
  | case2 _ _ _ idle ih =>
    rw [follow, if_pos idle]
    exact ih found
  | case3 _ _ idle ih =>
    rw [follow, if_neg idle, if_pos rfl]
    exact ih found
  -- A folder on the way stays: what is erased is a file.
  | case5 _ _ _ idle up long here folder ih =>
    have distinct : here ≠ place := by
      rintro rfl
      exact free folder
    rw [follow, if_neg idle, if_neg up, if_neg long]
    simp only [node?_erase_of_ne _ distinct, folder, here]
    exact ih found
  | case6 _ _ _ idle up long here before _ last =>
    simp only [Except.ok.injEq, Place.file.injEq] at found
    obtain ⟨rfl, _⟩ := found
    rw [follow, if_neg idle, if_neg up, if_neg long]
    simp [last, here]

theorem follow_idle {tree : FileTree} {idle : List String} (every : ∀ part ∈ idle, Path.isIdle part)
    (folder : List String) : tree.follow folder idle = .ok .folder := by
  induction idle with
  | nil => rfl
  | cons part more ih =>
    rw [follow, if_pos (every part List.mem_cons_self)]
    exact ih fun part h => every part (List.mem_cons_of_mem _ h)

theorem follow_put_folder {tree : FileTree} {folder parts place idle : List String}
    (vacant : tree.follow folder parts = .ok (.vacant place))
    (every : ∀ part ∈ idle, Path.isIdle part) :
    (tree.put place .folder).follow folder (parts ++ idle) = .ok .folder := by
  have free := node?_of_follow (.inl vacant)
  fun_induction follow tree folder parts with
  | case1 | case4 | case6 | case7 | case9 => simp at vacant
  | case2 _ _ _ lead ih =>
    rw [List.cons_append, follow, if_pos lead]
    exact ih vacant
  | case3 _ _ lead ih =>
    rw [List.cons_append, follow, if_neg lead, if_pos rfl]
    exact ih vacant
  | case5 _ _ _ lead up long here found ih =>
    have distinct : here ≠ place := by
      rintro rfl
      exact free found
    rw [List.cons_append, follow, if_neg lead, if_neg up, if_neg long]
    simp only [node?_put_of_ne _ _ distinct, found, here]
    exact ih vacant
  | case8 _ part more lead up long here _ last =>
    simp only [Except.ok.injEq, Place.vacant.injEq] at vacant
    subst vacant
    -- The folder is made where the path ended, and idle parts lead on from it to itself.
    rw [List.cons_append, follow, if_neg lead, if_neg up, if_neg long]
    simp only [here, node?_put, List.isEmpty_iff.mp last, List.nil_append]
    exact follow_idle every _

theorem parts_eq_unslashed (path : Path) :
    ∃ idle, path.parts = path.unslashed.parts ++ idle ∧ ∀ part ∈ idle, Path.isIdle part := by
  refine ⟨(path.parts.reverse.takeWhile (· = "")).reverse, ?_, ?_⟩
  · rw [Path.unslashed, ← List.reverse_append, List.takeWhile_append_dropWhile,
      List.reverse_reverse]
  · intro part h
    have blank := List.all_eq_true.mp List.all_takeWhile part (List.mem_reverse.mp h)
    simp only [decide_eq_true_eq] at blank
    simp [Path.isIdle, blank]

theorem isThere_of_makeFolder {tree made : FileTree} {path : Path}
    (h : tree.makeFolder path = (.ok (), made)) : made.isThere path = true := by
  obtain ⟨idle, parts, every⟩ := parts_eq_unslashed path
  unfold makeFolder at h
  split at h
  · simp at h
  · simp at h
  · next accepted vacant =>
    simp only [Prod.mk.injEq, true_and] at h
    subst h
    rw [isThere_iff, locate, accepted, parts]
    exact .inl (follow_put_folder vacant every)
  · simp at h
  · simp at h

theorem isThere_of_settleFolder {tree made : FileTree} {path : Path}
    (h : tree.settleFolder path (tree.makeFolder path) = (.ok (), made)) :
    made.isThere path = true := by
  match answer : tree.makeFolder path with
  | (.ok (), after) =>
    rw [answer, settleFolder] at h
    cases h
    exact isThere_of_makeFolder answer
  | (.error fault, after) =>
    rw [answer, settleFolder, Prod.mk.injEq] at h
    obtain ⟨settled, rfl⟩ := h
    split at settled
    · next folder =>
      unfold isFolder at folder
      unfold isThere
      split at folder
      · next found => rw [found]
      · cases folder
    · cases settled

theorem isThere_of_makeChain {tree made : FileTree} {path : Path} {above : List Path}
    (h : tree.makeChain (path :: above) = (.ok (), made)) : made.isThere path = true := by
  rw [makeChain] at h
  split at h
  · split at h
    · simp at h
    · exact isThere_of_settleFolder h
  · exact isThere_of_settleFolder h

theorem ancestors_eq_cons {path : Path} (named : path.isEmpty = false) :
    ∃ above, path.ancestors = path :: above := by
  have parent : path.parent? = some (Path.trimmed ⟨path.trimmed.parts.dropLast⟩) := by
    simp [Path.parent?, named]
  cases parts : path.parts with
  | nil => simp [Path.isEmpty, Path.trimmed, parts] at named
  | cons part more =>
    simp only [Path.ancestors, parts, List.length_cons, Path.ancestors.climb, parent]
    exact ⟨_, rfl⟩

theorem read_of_remove {tree after : FileTree} {path : Path} {result : Except DiskFault Unit}
    (removed : tree.remove path = (result, after))
    (gone : result = .ok () ∨ result = .error .notFound) :
    after.read path = .error .notFound := by
  -- Either nothing was there before, or the file that was there is gone.
  unfold remove at removed
  split at removed
  · next found =>
    cases removed
    simp only [reduceCtorEq, Except.error.injEq, false_or] at gone
    rw [read, found, gone]
  · cases removed
    simp at gone
  · next found =>
    cases removed
    rw [read, found]
  · next found =>
    cases removed
    unfold locate at found
    split at found
    · cases found
    · next accepted =>
      rw [read, locate, accepted]
      simp only [follow_erase found]

theorem isThere_of_read {tree : FileTree} {path : Path} {content : Bytes}
    (h : tree.read path = .ok content) : tree.isThere path = true := by
  unfold read at h
  split at h
  · cases h
  · cases h
  · cases h
  · next found => rw [isThere, found]

theorem isThere_of_write {tree after : FileTree} {path other : Path} {content : Bytes}
    (written : tree.write path content = (.ok (), after)) (there : tree.isThere other = true) :
    after.isThere other = true := by
  obtain ⟨place, found, rfl⟩ := write_cases written
  rw [isThere_iff] at there ⊢
  unfold locate at found there ⊢
  split at there
  · simp [Leads] at there
  · split at found
    · simp at found
    · exact leads_put content (node?_of_follow found) there

instance : LawfulDisk FileTree where
  read_of_write := read_of_write
  isThere_of_read := isThere_of_read
  isThere_of_write := isThere_of_write
  read_of_remove := read_of_remove
  isThere_of_makeFolders {tree after path} made named := by
    obtain ⟨above, ancestors⟩ := ancestors_eq_cons named
    change tree.makeChain path.ancestors = _ at made
    rw [ancestors] at made
    exact isThere_of_makeChain made

end FileTree

end Sightline
