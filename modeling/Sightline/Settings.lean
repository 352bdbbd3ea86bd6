import Sightline.Uuid

/-! The settings of the program and their defaults. Counts that are read from a settings file have
the width of the machine word that holds them. -/

set_option autoImplicit false

namespace Sightline

def glassesService : Uuid := ⟨0xdcbc72551e9e49a0a360b0430b6c6905⟩

/-- The characteristic by which the glasses wake this device. -/
def keepAliveCharacteristic : Uuid := ⟨0x371a55c8f2514ad290b3c7c195b049be⟩

def defaultPsm : UInt16 := 150

def defaultMtu : UInt64 := 1251

def defaultFrameLimit : UInt32 := 16777216

def defaultScanSeconds : UInt64 := 10

/-- How often the channel is reopened on one link before the link is dropped. -/
def maxReopens : Nat := 3

structure RadioSettings where
  service : Uuid := glassesService
  keepAlive : Uuid := keepAliveCharacteristic
  psm : UInt16 := defaultPsm
  /-- Bytes per stream use, reading and writing. -/
  mtu : UInt64 := defaultMtu
  scanSeconds : UInt64 := defaultScanSeconds
  /-- A frame announcing more than this kills the channel. -/
  frameLimit : UInt32 := defaultFrameLimit
  deriving DecidableEq, Repr

def defaultPrompt : String :=
  "You are seeing this for me. Concisely describe what is directly in front of me, and mention "
    ++ "key objects to my left and right. Focus on object placement and distance. For example, "
    ++ "'A red mug is in front of you, slightly to your left. Your keys are to your right.' "
    ++ "Be direct and brief."

structure ServiceSettings where
  /-- The address that both services hang off. -/
  base : String := "https://api.openai.com/v1"
  visionModel : String := "o4-mini"
  prompt : String := defaultPrompt
  /-- How closely the image is looked at: low, high or auto. -/
  detail : String := "auto"
  speechModel : String := "gpt-4o-mini-tts"
  voice : String := "alloy"
  manner : String := "Speak quickly, calmly, and clearly."
  audioFormat : String := "mp3"
  /-- Seconds that one whole request may take. -/
  timeoutSeconds : UInt64 := 60
  deriving DecidableEq, Repr

inductive Concurrency where
  /-- It is worked on too; of two results ready at the same time one cannot be sent. -/
  | concurrent
  /-- It is dropped. -/
  | dropWhileBusy
  deriving DecidableEq, Repr

structure PipelineSettings where
  concurrency : Concurrency := .concurrent
  /-- Seconds of background time before the host takes it back. -/
  leaseSeconds : UInt64 := 30
  deriving DecidableEq, Repr

structure Settings where
  radio : RadioSettings := {}
  services : ServiceSettings := {}
  pipeline : PipelineSettings := {}
  deriving DecidableEq, Repr

end Sightline
