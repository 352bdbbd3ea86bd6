import Sightline.Proofs.Disk
import Sightline.Proofs.Json.Record
import Sightline.Settings.File

/-! Settings come back from what is written of them, and from the file they were saved to.

Main statement: `Settings.round_trip`. Each section has a form that accepts its document, field by
field; the whole is one more record of three such fields. -/

set_option autoImplicit false

namespace Sightline

open Json

theorem Uuid.form_accepts (uuid : Uuid) : Uuid.form.Accepts uuid.document uuid :=
  Form.textAs_accepts (by rw [Uuid.parse_text]; rfl)

theorem word16_accepts (n : UInt16) : word16.Accepts (.natural n.toNat) n :=
  Form.natural_map_accepts n.toNat_lt (by decide) UInt16.ofNat_toNat

theorem word32_accepts (n : UInt32) : word32.Accepts (.natural n.toNat) n :=
  Form.natural_map_accepts n.toNat_lt (by decide) UInt32.ofNat_toNat

theorem word64_accepts (n : UInt64) : word64.Accepts (.natural n.toNat) n :=
  Form.natural_map_accepts n.toNat_lt (Nat.le_refl _) UInt64.ofNat_toNat

theorem size64_accepts (n : UInt64) : size64.Accepts (.natural n.toNat) n :=
  Form.natural_map_accepts n.toNat_lt (Nat.le_refl _) UInt64.ofNat_toNat

theorem Concurrency.form_accepts (policy : Concurrency) :
    Concurrency.form.Accepts (.string policy.name) policy := by
  apply Form.oneOf_accepts
  cases policy <;> rfl

theorem RadioSettings.form_accepts (settings : RadioSettings) :
    RadioSettings.form.Accepts settings.document settings :=
  Form.record_accepts
    (.field rfl rfl ((Uuid.form_accepts settings.service).map _) <|
      .field rfl rfl ((Uuid.form_accepts settings.keepAlive).map _) <|
      .field rfl rfl ((word16_accepts settings.psm).map _) <|
      .field rfl rfl ((size64_accepts settings.mtu).map _) <|
      .field rfl rfl ((word64_accepts settings.scanSeconds).map _) <|
      .field rfl rfl ((word32_accepts settings.frameLimit).map _) <|
      .none _)
    rfl

theorem ServiceSettings.form_accepts (settings : ServiceSettings) :
    ServiceSettings.form.Accepts settings.document settings :=
  Form.record_accepts
    (.field rfl rfl ((Form.text_accepts settings.base).map _) <|
      .field rfl rfl ((Form.text_accepts settings.visionModel).map _) <|
      .field rfl rfl ((Form.text_accepts settings.prompt).map _) <|
      .field rfl rfl ((Form.text_accepts settings.detail).map _) <|
      .field rfl rfl ((Form.text_accepts settings.speechModel).map _) <|
      .field rfl rfl ((Form.text_accepts settings.voice).map _) <|
      .field rfl rfl ((Form.text_accepts settings.manner).map _) <|
      .field rfl rfl ((Form.text_accepts settings.audioFormat).map _) <|
      .field rfl rfl ((word64_accepts settings.timeoutSeconds).map _) <|
      .none _)
    rfl

theorem PipelineSettings.form_accepts (settings : PipelineSettings) :
    PipelineSettings.form.Accepts settings.document settings :=
  Form.record_accepts
    (.field rfl rfl ((Concurrency.form_accepts settings.concurrency).map _) <|
      .field rfl rfl ((word64_accepts settings.leaseSeconds).map _) <|
      .none _)
    rfl

namespace Settings

theorem form_accepts (settings : Settings) : Settings.form.Accepts settings.document settings :=
  Form.record_accepts
    (.field rfl rfl ((RadioSettings.form_accepts settings.radio).map _) <|
      .field rfl rfl ((ServiceSettings.form_accepts settings.services).map _) <|
      .field rfl rfl ((PipelineSettings.form_accepts settings.pipeline).map _) <|
      .none _)
    rfl

theorem parse_pretty (settings : Settings) :
    Settings.parse (Bytes.ofText settings.pretty) = .ok settings :=
  Form.parse_pretty settings.form_accepts

variable {δ : Type} [Disk δ] [LawfulDisk δ]

theorem load_of_read {disk : δ} {path : Path} {settings : Settings}
    (read : Disk.read disk path = .ok (Bytes.ofText settings.pretty)) :
    Settings.load disk path = .ok settings := by
  rw [Settings.load, if_pos (LawfulDisk.isThere_of_read read), Disk.readText_of_read read]
  simp only [parse_pretty]
  rfl

/-- All settings read back from their text. On a disk that is willing to hold the file they are saved,
the folder of the file is there from then on, and the file loads as the same settings. -/
theorem round_trip (settings : Settings) :
    Settings.parse (Bytes.ofText settings.pretty) = .ok settings ∧
      ∀ (disk : δ) (path : Path), Disk.Willing disk path settings.pretty →
        ∃ after, Settings.save disk path settings = (.ok (), after) ∧
          Settings.load after path = .ok settings ∧
          ∀ folder, path.parent? = some folder → folder.isEmpty = false →
            Disk.isThere after folder = true := by
  refine ⟨parse_pretty settings, ?_⟩
  intro disk path willing
  obtain ⟨after, saved, read, folders⟩ := willing.kept
  exact ⟨after, saved, load_of_read read, folders⟩

/-- Two folders are missing, and the texts hold what has to be escaped. -/
theorem round_trip_nested :
    let settings : Settings :=
      { radio := { psm := 65535, mtu := 18446744073709551615 }
        services := { prompt := "\"left\\right\"\n\x01€👓", voice := "" }
        pipeline := { concurrency := .dropWhileBusy, leaseSeconds := 0 } }
    let path : Path := ⟨["user", "glasses", "config.json"]⟩
    Disk.Willing ({} : FileTree) path settings.pretty ∧
      ∃ after, Settings.save ({} : FileTree) path settings = (.ok (), after) ∧
        Settings.load after path = .ok settings ∧
        Disk.isThere after ⟨["user", "glasses"]⟩ = true := by
  intro settings path
  have willing : ∀ text, Disk.Willing ({} : FileTree) ⟨["user", "glasses", "config.json"]⟩ text :=
    fun _ => .of_parent rfl rfl rfl
  obtain ⟨after, saved, loaded, folders⟩ := (round_trip settings).2 _ _ (willing settings.pretty)
  exact ⟨willing settings.pretty, after, saved, loaded, folders _ rfl (by decide)⟩

end Settings

end Sightline
