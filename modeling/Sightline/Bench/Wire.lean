import Sightline.Channel.Piped

/-! Stream pairs on the bench: scripted ones, which serve and fail as planned, and piped ones. -/

set_option autoImplicit false

namespace Sightline.Bench

inductive ReadPlan where
  /-- It serves at most so many bytes. -/
  | cap (count : Nat)
  | fail (reason : String)
  deriving DecidableEq, Repr

inductive WritePlan where
  /-- It takes at most so many bytes. -/
  | cap (count : Nat)
  | fail (reason : String)
  /-- It claims so many bytes, whatever was offered. -/
  | claim (count : Nat)
  deriving DecidableEq, Repr

/-- A scripted stream pair. Each plan entry serves one call; without entries the source serves all
that is asked and the sink takes all that is offered. -/
structure Script where
  queue : Bytes := []
  /-- Bytes that the source reports beyond those it holds. -/
  extra : Nat := 0
  reads : List ReadPlan := []
  writes : List WritePlan := []
  deriving DecidableEq, Repr

namespace Script

def read (script : Script) (wanted : Nat) : Except String Bytes × Script :=
  match script.reads with
  | [] => (.ok (script.queue.take wanted), { script with queue := script.queue.drop wanted })
  | .cap count :: reads =>
    (.ok (script.queue.take (min wanted count)),
      { script with queue := script.queue.drop (min wanted count), reads })
  | .fail reason :: reads => (.error reason, { script with reads })

def write (script : Script) (offered : Bytes) : Except String Nat × Script :=
  match script.writes with
  | [] => (.ok offered.length, script)
  | .cap count :: writes => (.ok (min offered.length count), { script with writes })
  | .fail reason :: writes => (.error reason, { script with writes })
  | .claim count :: writes => (.ok count, { script with writes })

end Script

inductive Wire where
  | scripted (script : Script)
  | piped (pair : PipePair)
  deriving DecidableEq, Repr

namespace Wire

def available : Wire → Nat
  | .scripted script => script.queue.length + script.extra
  | .piped pair => pair.inbound.queue.length

def held : Wire → Nat
  | .scripted script => script.queue.length
  | .piped pair => pair.inbound.queue.length

def read (wanted : Nat) : Wire → Except String Bytes × Wire
  | .scripted script =>
    let (answer, script) := script.read wanted
    (answer, .scripted script)
  | .piped pair =>
    let (got, pair) := pair.read wanted
    (.ok got, .piped pair)

def write (offered : Bytes) : Wire → Except String Nat × Wire
  | .scripted script =>
    let (answer, script) := script.write offered
    (answer, .scripted script)
  | .piped pair =>
    let (answer, pair) := pair.write offered
    (answer, .piped pair)

def closeInbound : Wire → Wire
  | .scripted script => .scripted { script with queue := [] }
  | .piped pair => .piped pair.closeInbound

def closeOutbound : Wire → Wire
  | .scripted script => .scripted script
  | .piped pair => .piped pair.closeOutbound

theorem length_le_of_read {wire wire' : Wire} {wanted : Nat} {got : Bytes}
    (h : wire.read wanted = (.ok got, wire')) : got.length ≤ wanted := by
  cases wire with
  | scripted script =>
    simp only [read, Script.read] at h
    split at h <;> simp at h <;> obtain ⟨rfl, -⟩ := h <;> simp only [List.length_take] <;> omega
  | piped pair =>
    simp only [read, Prod.mk.injEq, Except.ok.injEq] at h
    obtain ⟨rfl, -⟩ := h
    exact pair.length_le_of_read wanted

theorem held_of_read {wire wire' : Wire} {wanted : Nat} {got : Bytes}
    (h : wire.read wanted = (.ok got, wire')) : wire'.held + got.length ≤ wire.held := by
  cases wire with
  | scripted script =>
    simp only [read, Script.read] at h
    split at h <;> simp at h <;> obtain ⟨rfl, rfl⟩ := h <;>
      simp [held, List.length_take, List.length_drop] <;> omega
  | piped pair =>
    simp only [read, Prod.mk.injEq, Except.ok.injEq] at h
    obtain ⟨rfl, rfl⟩ := h
    exact Nat.le_of_eq (pair.held_of_read wanted)

def feed (bytes : Bytes) : Wire → Option Bool × Wire
  | .scripted script => (none, .scripted { script with queue := script.queue ++ bytes })
  | .piped pair =>
    let (taken, pair) := pair.feed bytes
    (some taken, .piped pair)

def take (most : Nat) : Wire → Option Taken × Wire
  | .scripted script => (none, .scripted script)
  | .piped pair =>
    let (taken, pair) := pair.take most
    (some taken, .piped pair)

def rescript (change : Script → Script) : Wire → Wire
  | .scripted script => .scripted (change script)
  | .piped pair => .piped pair

def closed? : Wire → Option (Bool × Bool)
  | .scripted _ => none
  | .piped pair => some (pair.inbound.closed, pair.outbound.closed)

end Wire

end Sightline.Bench
