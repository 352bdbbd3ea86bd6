import Sightline.Json.Document
import Sightline.Json.Record
import Sightline.Link.State
import Sightline.Settings
import Sightline.Uuid.Parse

/-! The settings as JSON. A file may hold any part of them; what it leaves out keeps its default, and
entries that are no settings are passed over. -/

set_option autoImplicit false

namespace Sightline

open Json

def Uuid.form : Form Uuid :=
  .textAs "a formatted UUID string" fun text =>
    (Uuid.parse text).mapError fun error => "UUID parsing failed: " ++ error.message

def Uuid.document (uuid : Uuid) : Document := .string uuid.text

def word16 : Form UInt16 := (Form.natural "u16" 65536).map UInt16.ofNat

def word32 : Form UInt32 := (Form.natural "u32" 4294967296).map UInt32.ofNat

def word64 : Form UInt64 := (Form.natural "u64" Json.wordLimit).map UInt64.ofNat

def size64 : Form UInt64 := (Form.natural "usize" Json.wordLimit).map UInt64.ofNat

namespace RadioSettings

def fields : List (RecordField RadioSettings) :=
  [{ name := "service_uuid"
     form := Uuid.form.map fun service settings => { settings with service } },
   { name := "keep_alive_uuid"
     form := Uuid.form.map fun keepAlive settings => { settings with keepAlive } },
   { name := "psm", form := word16.map fun psm settings => { settings with psm } },
   { name := "mtu", form := size64.map fun mtu settings => { settings with mtu } },
   { name := "scan_timeout_secs"
     form := word64.map fun scanSeconds settings => { settings with scanSeconds } },
   { name := "max_frame_len"
     form := word32.map fun frameLimit settings => { settings with frameLimit } }]

def form : Form RadioSettings := .record "struct RadioConfig" fields {}

def document (settings : RadioSettings) : Document :=
  .object
    [("service_uuid", settings.service.document),
     ("keep_alive_uuid", settings.keepAlive.document),
     ("psm", .natural settings.psm.toNat),
     ("mtu", .natural settings.mtu.toNat),
     ("scan_timeout_secs", .natural settings.scanSeconds.toNat),
     ("max_frame_len", .natural settings.frameLimit.toNat)]

end RadioSettings

namespace ServiceSettings

def fields : List (RecordField ServiceSettings) :=
  [{ name := "api_base", form := Form.text.map fun base settings => { settings with base } },
   { name := "vision_model"
     form := Form.text.map fun visionModel settings => { settings with visionModel } },
   { name := "vision_prompt", form := Form.text.map fun prompt settings => { settings with prompt } },
   { name := "image_detail", form := Form.text.map fun detail settings => { settings with detail } },
   { name := "tts_model"
     form := Form.text.map fun speechModel settings => { settings with speechModel } },
   { name := "tts_voice", form := Form.text.map fun voice settings => { settings with voice } },
   { name := "tts_instructions"
     form := Form.text.map fun manner settings => { settings with manner } },
   { name := "tts_response_format"
     form := Form.text.map fun audioFormat settings => { settings with audioFormat } },
   { name := "request_timeout_secs"
     form := word64.map fun timeoutSeconds settings => { settings with timeoutSeconds } }]

def form : Form ServiceSettings := .record "struct ServiceConfig" fields {}

def document (settings : ServiceSettings) : Document :=
  .object
    [("api_base", .string settings.base),
     ("vision_model", .string settings.visionModel),
     ("vision_prompt", .string settings.prompt),
     ("image_detail", .string settings.detail),
     ("tts_model", .string settings.speechModel),
     ("tts_voice", .string settings.voice),
     ("tts_instructions", .string settings.manner),
     ("tts_response_format", .string settings.audioFormat),
     ("request_timeout_secs", .natural settings.timeoutSeconds.toNat)]

end ServiceSettings

namespace Concurrency

def names : List (String × Concurrency) :=
  [("concurrent", .concurrent), ("drop_while_busy", .dropWhileBusy)]

def name : Concurrency → String
  | .concurrent => "concurrent"
  | .dropWhileBusy => "drop_while_busy"

def form : Form Concurrency := .oneOf names

end Concurrency

namespace PipelineSettings

def fields : List (RecordField PipelineSettings) :=
  [{ name := "concurrency"
     form := Concurrency.form.map fun concurrency settings => { settings with concurrency } },
   { name := "lease_budget_secs"
     form := word64.map fun leaseSeconds settings => { settings with leaseSeconds } }]

def form : Form PipelineSettings := .record "struct PipelineConfig" fields {}

def document (settings : PipelineSettings) : Document :=
  .object
    [("concurrency", .string settings.concurrency.name),
     ("lease_budget_secs", .natural settings.leaseSeconds.toNat)]

end PipelineSettings

namespace Settings

def fields : List (RecordField Settings) :=
  [{ name := "radio"
     form := RadioSettings.form.map fun radio settings => { settings with radio } },
   { name := "services"
     form := ServiceSettings.form.map fun services settings => { settings with services } },
   { name := "pipeline"
     form := PipelineSettings.form.map fun pipeline settings => { settings with pipeline } }]

def form : Form Settings := .record "struct AppConfig" fields {}

def document (settings : Settings) : Document :=
  .object
    [("radio", settings.radio.document),
     ("services", settings.services.document),
     ("pipeline", settings.pipeline.document)]

def parse (input : Bytes) : Except Fault Settings := form.parse input

def pretty (settings : Settings) : String := settings.document.pretty

end Settings

/-! ### Values of the connection -/

def ConnectionState.form : Form ConnectionState :=
  .oneOf (ConnectionState.all.map fun state => (state.name, state))

def ConnectionState.document (state : ConnectionState) : Document := .string state.name

def PeripheralId.form : Form PeripheralId := Form.text.map PeripheralId.mk

def PeripheralId.document (id : PeripheralId) : Document := .string id.text

end Sightline
