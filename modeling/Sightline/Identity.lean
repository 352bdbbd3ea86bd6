import Sightline.Disk
import Sightline.Settings.Json

/-! The remembered peripheral on disk.

The file is read once. From then on what is remembered is answered from memory, and changes wait in
order for a writer that works beside the program and stops after a store is given up. A change that
cannot be written is lost; the next one is tried all the same. -/

set_option autoImplicit false

namespace Sightline

open Json

structure Remembered where
  peripheral : Option PeripheralId := none
  deriving DecidableEq, Repr

namespace Remembered

def fields : List (RecordField Remembered) :=
  [{ name := "last_peripheral"
     requiredInList := true
     form := (Form.optional PeripheralId.form).map fun peripheral record =>
       { record with peripheral } }]

def form : Form Remembered := .record "struct IdentityRecord" fields {}

def document (record : Remembered) : Document :=
  .object
    [("last_peripheral",
      match record.peripheral with
      | none => .null
      | some id => id.document)]

def pretty (record : Remembered) : String := record.document.pretty

end Remembered

inductive IdentityError where
  | disk (fault : DiskFault)
  | format (fault : Fault)
  | writerStopped
  deriving DecidableEq, Repr

def IdentityError.message : IdentityError → String
  | .disk fault => "identity store io error: " ++ fault.message
  | .format fault => "identity store format error: " ++ fault.message
  | .writerStopped => "identity writer has stopped"

inductive IdentityChange where
  | save (id : PeripheralId)
  | clear
  deriving DecidableEq, Repr

def IdentityChange.result : IdentityChange → Option PeripheralId
  | .save id => some id
  | .clear => none

/-- The remembered peripheral, with the changes that are not on disk yet. -/
structure IdentityFile where
  path : Path
  current : Option PeripheralId
  /-- Changes that wait for the writer, the oldest first. -/
  pending : List IdentityChange := []
  writing : Bool := true
  deriving DecidableEq, Repr

namespace IdentityFile

variable {δ : Type} [Disk δ]

def location (folder : Path) : Path := folder.join "peripheral.json"

def load (disk : δ) (path : Path) : Except IdentityError (Option PeripheralId) :=
  match Disk.readText disk path with
  | .error .notFound => .ok none
  | .error fault => .error (.disk fault)
  | .ok text =>
    match Remembered.form.parse (Bytes.ofText text) with
    | .error fault => .error (.format fault)
    | .ok record => .ok record.peripheral

def start (disk : δ) (path : Path) : Except IdentityError IdentityFile :=
  (load disk path).map fun current => { path, current }

def change (file : IdentityFile) (change : IdentityChange) :
    Except IdentityError Unit × IdentityFile :=
  if file.writing then
    (.ok (), { file with current := change.result, pending := file.pending ++ [change] })
  else (.error .writerStopped, file)

/-- Remembers a peripheral. Nothing is written if it is the one that is remembered. -/
def save (file : IdentityFile) (id : PeripheralId) : Except IdentityError Unit × IdentityFile :=
  if file.current = some id then (.ok (), file) else file.change (.save id)

def clear (file : IdentityFile) : Except IdentityError Unit × IdentityFile := file.change .clear

def stop (file : IdentityFile) : IdentityFile := { file with pending := [], writing := false }

def apply (path : Path) (disk : δ) : IdentityChange → δ
  | .save id => (Disk.writeText disk path (Remembered.pretty ⟨some id⟩)).2
  | .clear => (Disk.remove disk path).2

def writeNext (file : IdentityFile) (disk : δ) : IdentityFile × δ :=
  match file.pending with
  | [] => (file, disk)
  | oldest :: pending => ({ file with pending }, apply file.path disk oldest)

/-- Gives the store up and waits for the writer: all that is pending goes to disk, in order. -/
def finish (file : IdentityFile) (disk : δ) : δ := file.pending.foldl (apply file.path) disk

instance : IdentityStore IdentityFile where
  load file := .ok file.current
  save file id :=
    let (saved, file) := file.save id
    (saved.mapError IdentityError.message, file)
  clear file :=
    let (cleared, file) := file.clear
    (cleared.mapError IdentityError.message, file)

end IdentityFile

structure IdentityMemory where
  slot : Option PeripheralId := none
  deriving DecidableEq, Repr

instance : IdentityStore IdentityMemory where
  load memory := .ok memory.slot
  save _ id := (.ok (), ⟨some id⟩)
  clear _ := (.ok (), ⟨none⟩)

end Sightline
