import Sightline.Disk

/-! A disk in memory: a tree of files and folders, each under the names that lead to it from the root.

The root is always there. A path is followed part by part, and everything but its last part has to
be a folder. -/

set_option autoImplicit false

namespace Sightline

inductive Node where
  | folder
  | file (content : Bytes)
  deriving DecidableEq, Repr

structure FileTree where
  entries : List (List String × Node) := []
  deriving DecidableEq, Repr

inductive Place where
  | folder
  | file (place : List String) (content : Bytes)
  /-- To nothing yet, though all folders above are there. -/
  | vacant (place : List String)
  deriving DecidableEq, Repr

namespace FileTree

def nameLimit : Nat := 255

def pathLimit : Nat := 4096

def node? (tree : FileTree) (place : List String) : Option Node :=
  (tree.entries.find? (·.1 = place)).map (·.2)

def erase (tree : FileTree) (place : List String) : FileTree :=
  ⟨tree.entries.filter (·.1 ≠ place)⟩

def put (tree : FileTree) (place : List String) (node : Node) : FileTree :=
  ⟨(place, node) :: (tree.erase place).entries⟩

@[simp] theorem node?_erase (tree : FileTree) (place : List String) :
    (tree.erase place).node? place = none := by
  simp [node?, erase]

theorem node?_erase_of_ne (tree : FileTree) {place other : List String} (distinct : other ≠ place) :
    (tree.erase place).node? other = tree.node? other := by
  simp only [node?, erase, List.find?_filter]
  congr 2
  funext entry
  by_cases same : entry.1 = other
  · simp [same, distinct]
  · simp [same]

@[simp] theorem node?_put (tree : FileTree) (place : List String) (node : Node) :
    (tree.put place node).node? place = some node := by
  simp [node?, put]

theorem node?_put_of_ne (tree : FileTree) (node : Node) {place other : List String}
    (distinct : other ≠ place) : (tree.put place node).node? other = tree.node? other := by
  rw [← tree.node?_erase_of_ne distinct]
  simp [node?, put, Ne.symm distinct]

def follow (tree : FileTree) (folder : List String) : List String → Except DiskFault Place
  | [] => .ok .folder
  | part :: more =>
    if Path.isIdle part then tree.follow folder more
    else if part = ".." then tree.follow folder.dropLast more
    else if nameLimit < part.utf8ByteSize then .error .nameTooLong
    else
      let place := folder ++ [part]
      match tree.node? place with
      | some .folder => tree.follow place more
      | some (.file content) => if more.isEmpty then .ok (.file place content) else .error .notFolder
      | none => if more.isEmpty then .ok (.vacant place) else .error .notFound

theorem node?_of_follow {tree : FileTree} {folder parts place : List String}
    (h : tree.follow folder parts = .ok (.vacant place) ∨
      ∃ before, tree.follow folder parts = .ok (.file place before)) :
    tree.node? place ≠ some .folder := by
  fun_induction follow tree folder parts with
  | case1 | case4 | case7 | case9 => simp at h
  | case2 _ _ _ _ ih | case3 _ _ _ ih | case5 _ _ _ _ _ _ _ _ ih => exact ih h
  | case6 _ _ _ _ _ _ _ _ found =>
    simp only [Except.ok.injEq, Place.file.injEq, reduceCtorEq, false_or] at h
    obtain ⟨_, rfl, _⟩ := h
    simp [found]
  | case8 _ _ _ _ _ _ _ missing =>
    simp only [Except.ok.injEq, Place.vacant.injEq, reduceCtorEq, exists_false, or_false] at h
    subst h
    simp [missing]

theorem follow_put {tree : FileTree} {folder parts place : List String} (content : Bytes)
    (h : tree.follow folder parts = .ok (.vacant place) ∨
      ∃ before, tree.follow folder parts = .ok (.file place before)) :
    (tree.put place (.file content)).follow folder parts = .ok (.file place content) := by
  have free := node?_of_follow h
  fun_induction follow tree folder parts with
  | case1 | case4 | case7 | case9 => simp at h
  | case2 _ _ _ idle ih =>
    rw [follow, if_pos idle]
    exact ih h
  | case3 _ _ idle ih =>
    rw [follow, if_neg idle, if_pos rfl]
    exact ih h
  -- A folder on the way: it is not the place written, since that place holds no folder.
  | case5 folder part _ idle up long place' found ih =>
    have distinct : place' ≠ place := by
      rintro rfl
      exact free found
    rw [follow, if_neg idle, if_neg up, if_neg long]
    simp only [node?_put_of_ne _ _ distinct, found, place']
    exact ih h
  | case6 _ _ _ idle up long place' _ _ last =>
    simp only [Except.ok.injEq, Place.file.injEq, reduceCtorEq, false_or] at h
    obtain ⟨_, rfl, _⟩ := h
    rw [follow, if_neg idle, if_neg up, if_neg long]
    simp [last, place']
  | case8 _ _ _ idle up long place' _ last =>
    simp only [Except.ok.injEq, Place.vacant.injEq, reduceCtorEq, exists_false, or_false] at h
    subst h
    rw [follow, if_neg idle, if_neg up, if_neg long]
    simp [last, place']

def refusal? (path : Path) : Option DiskFault :=
  if path.text.toList.contains (Char.ofNat 0) then some .strayZero
  else if path.isEmpty then some .notFound
  else if pathLimit ≤ path.size then some .nameTooLong
  else none

def locate (tree : FileTree) (path : Path) : Except DiskFault Place :=
  match refusal? path with
  | some fault => .error fault
  | none => tree.follow [] path.parts

def isThere (tree : FileTree) (path : Path) : Bool :=
  match tree.locate path with
  | .ok .folder | .ok (.file _ _) => true
  | .ok (.vacant _) | .error _ => false

def isFolder (tree : FileTree) (path : Path) : Bool :=
  match tree.locate path with
  | .ok .folder => true
  | _ => false

def read (tree : FileTree) (path : Path) : Except DiskFault Bytes :=
  match tree.locate path with
  | .error fault => .error fault
  | .ok .folder => .error .isFolder
  | .ok (.vacant _) => .error .notFound
  | .ok (.file _ content) => .ok content

/-- A path with a slash at its end cannot be that of a file to be written, whatever its last name. -/
def write (tree : FileTree) (path : Path) (content : Bytes) : Except DiskFault Unit × FileTree :=
  if path = path.unslashed then
    match tree.locate path with
    | .error fault => (.error fault, tree)
    | .ok .folder => (.error .isFolder, tree)
    | .ok (.vacant place) | .ok (.file place _) => (.ok (), tree.put place (.file content))
  else
    match refusal? path, tree.follow [] (path.unslashed.parts.dropLast ++ ["."]) with
    | some fault, _ | none, .error fault => (.error fault, tree)
    | none, .ok _ => (.error .isFolder, tree)

theorem locate_put {tree : FileTree} {path : Path} {place : List String} (content : Bytes)
    (h : tree.locate path = .ok (.vacant place) ∨
      ∃ before, tree.locate path = .ok (.file place before)) :
    (tree.put place (.file content)).locate path = .ok (.file place content) := by
  unfold locate at h ⊢
  split at h
  · simp at h
  · exact follow_put content h

theorem write_cases {tree written : FileTree} {path : Path} {content : Bytes}
    (h : tree.write path content = (.ok (), written)) :
    ∃ place, (tree.locate path = .ok (.vacant place) ∨
        ∃ before, tree.locate path = .ok (.file place before)) ∧
      written = tree.put place (.file content) := by
  unfold write at h
  split at h
  · split at h
    · simp at h
    · simp at h
    all_goals
      next found =>
        simp only [Prod.mk.injEq, true_and] at h
        exact ⟨_, by simp [found], h.symm⟩
  · split at h <;> simp at h

theorem read_of_write {tree written : FileTree} {path : Path} {content : Bytes}
    (h : tree.write path content = (.ok (), written)) : written.read path = .ok content := by
  obtain ⟨place, found, rfl⟩ := write_cases h
  rw [read, locate_put content found]

def remove (tree : FileTree) (path : Path) : Except DiskFault Unit × FileTree :=
  match tree.locate path with
  | .error fault => (.error fault, tree)
  | .ok .folder => (.error .isFolder, tree)
  | .ok (.vacant _) => (.error .notFound, tree)
  | .ok (.file place _) => (.ok (), tree.erase place)

def makeFolder (tree : FileTree) (path : Path) : Except DiskFault Unit × FileTree :=
  match refusal? path, tree.follow [] path.unslashed.parts with
  | some fault, _ | none, .error fault => (.error fault, tree)
  | none, .ok (.vacant place) => (.ok (), tree.put place .folder)
  | none, .ok .folder | none, .ok (.file _ _) => (.error .alreadyThere, tree)

def settleFolder (tree : FileTree) (path : Path) :
    Except DiskFault Unit × FileTree → Except DiskFault Unit × FileTree
  | (.ok (), made) => (.ok (), made)
  | (.error fault, _) => (if tree.isFolder path then .ok () else .error fault, tree)

/-- Makes the first folder of a list, where each is in the next. Those above it are made only if one
of them is missing, and then from the top down. -/
def makeChain (tree : FileTree) : List Path → Except DiskFault Unit × FileTree
  | [] => (.ok (), tree)
  | path :: above =>
    match tree.makeFolder path with
    | (.error .notFound, _) =>
      match tree.makeChain above with
      | (.error fault, made) => (.error fault, made)
      | (.ok (), made) => made.settleFolder path (made.makeFolder path)
    | answer => tree.settleFolder path answer

instance : Disk FileTree where
  isThere := isThere
  read := read
  write := write
  remove := remove
  makeFolders tree path := tree.makeChain path.ancestors

def listing (tree : FileTree) : List String :=
  let names := tree.entries.map fun (place, node) =>
    "/".intercalate place ++ (if node = .folder then "/" else "")
  names.mergeSort fun a b => decide (a ≤ b)

end FileTree

end Sightline
