import Sightline.Disk
import Sightline.Settings.Json

/-! The settings on disk. Where there is no file the settings are the defaults; a file that cannot be
read or understood is a failure, never silently replaced. -/

set_option autoImplicit false

namespace Sightline

def programFolder (home : Path) : Path := home.join "glimpse-companion"

def Settings.location (home : Path) : Path := (programFolder home).join "config.json"

inductive SettingsError where
  | disk (fault : DiskFault)
  | format (fault : Json.Fault)
  deriving DecidableEq, Repr

def SettingsError.message : SettingsError → String
  | .disk fault => fault.message
  | .format fault => fault.message

namespace Settings

variable {δ : Type} [Disk δ]

def load (disk : δ) (path : Path) : Except SettingsError Settings :=
  if Disk.isThere disk path then
    match Disk.readText disk path with
    | .error fault => .error (.disk fault)
    | .ok text => (Settings.parse (Bytes.ofText text)).mapError .format
  else .ok {}

def save (disk : δ) (path : Path) (settings : Settings) : Except DiskFault Unit × δ :=
  Disk.writeText disk path settings.pretty

end Settings

end Sightline
