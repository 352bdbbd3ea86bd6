import Sightline.Bytes
import Sightline.Disk.Path

/-! The disk as the program sees it: files and folders under paths, and what can go wrong with them.

A disk lives in surroundings `δ` about which nothing is promised: every use of it may fail, and a
use that fails may still have changed something. -/

set_option autoImplicit false

namespace Sightline

inductive DiskFault where
  | notFound
  | notFolder
  | isFolder
  | alreadyThere
  | nameTooLong
  /-- No name holds a zero byte. -/
  | strayZero
  | notText
  deriving DecidableEq, Repr

def DiskFault.message : DiskFault → String
  | .notFound => "No such file or directory (os error 2)"
  | .notFolder => "Not a directory (os error 20)"
  | .isFolder => "Is a directory (os error 21)"
  | .alreadyThere => "File exists (os error 17)"
  | .nameTooLong => "File name too long (os error 36)"
  | .strayZero => "file name contained an unexpected NUL byte"
  | .notText => "stream did not contain valid UTF-8"

class Disk (δ : Type) where
  isThere : δ → Path → Bool
  read : δ → Path → Except DiskFault Bytes
  /-- Replaces the content of a file, or makes the file. -/
  write : δ → Path → Bytes → Except DiskFault Unit × δ
  remove : δ → Path → Except DiskFault Unit × δ
  /-- Makes a folder and the missing ones above it. A folder that is there already will do. -/
  makeFolders : δ → Path → Except DiskFault Unit × δ

namespace Disk

variable {δ : Type} [Disk δ]

def readText (disk : δ) (path : Path) : Except DiskFault String :=
  match read disk path with
  | .error fault => .error fault
  | .ok content =>
    match Bytes.text? content with
    | none => .error .notText
    | some text => .ok text

def ensureFolder (disk : δ) (path : Path) : Except DiskFault Unit × δ :=
  if isThere disk path then (.ok (), disk) else makeFolders disk path

def writeText (disk : δ) (path : Path) (text : String) : Except DiskFault Unit × δ :=
  let (made, disk) : Except DiskFault Unit × δ :=
    match path.parent? with
    | none => (.ok (), disk)
    | some folder => ensureFolder disk folder
  match made with
  | .error fault => (.error fault, disk)
  | .ok () => write disk path (Bytes.ofText text)

end Disk

end Sightline
