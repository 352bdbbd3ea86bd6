import Sightline.Proofs.Channel.Ledger

/-! Runs of a session, and how the submissions made in them end.

Between two operations the surroundings may become anything, so a run covers every sink there is. A
session that was closed or dropped is gone. -/

set_option autoImplicit false

namespace Sightline.Session

variable {ω : Type} [Streams ω]

/-- A session after some operations, none if it has ended, and the ledger of its submissions. A tag
names one submission only. -/
inductive Run (ω : Type) [Streams ω] : Option Session → Ledger → Prop where
  | start (pair : StreamPair) (mtu limit : Nat) : Run ω (some (start pair mtu limit)) {}
  | handle {session : Session} {ledger : Ledger} (event : StreamEvent) (world : ω) :
      Run ω (some session) ledger →
      Run ω (some (session.handle event world).2.session)
        (ledger.book (factsOf (session.handle event world).2.notes))
  | receive {session : Session} {ledger : Ledger} (world : ω) : Run ω (some session) ledger →
      Run ω (some (session.receive world).2.session)
        (ledger.book (factsOf (session.receive world).2.notes))
  | resume {session : Session} {ledger : Ledger} (world : ω) : Run ω (some session) ledger →
      Run ω (some (session.resume world).session)
        (ledger.book (factsOf (session.resume world).notes))
  | submit {session : Session} {ledger : Ledger} (payload : Bytes) {tag : Tag} (world : ω) :
      Run ω (some session) ledger → tag ∉ ledger.tags →
      Run ω (some (session.submit payload tag world).2.session)
        ((ledger.enter payload tag (session.submit payload tag world).1).book
          (factsOf (session.submit payload tag world).2.notes))
  | close {session : Session} {ledger : Ledger} (world : ω) : Run ω (some session) ledger →
      Run ω none (ledger.book (factsOf (session.close world).2))
  /-- The session goes away without being closed. -/
  | drop {session : Session} {ledger : Ledger} : Run ω (some session) ledger →
      Run ω none (ledger.book (factsOf session.abandoned))

end Sightline.Session

namespace Sightline.Ledger

open Session

variable {ω : Type} [Streams ω] {session : Session} {ledger : Ledger}

theorem Balanced.handle (balanced : Balanced session.outgoing ledger) (event : StreamEvent)
    (world : ω) : Balanced (session.handle event world).2.session.outgoing
      (ledger.book (factsOf (session.handle event world).2.notes)) :=
  balanced.sends (session.handle_sends event world balanced.unfinished)

theorem Balanced.submit (balanced : Balanced session.outgoing ledger) (payload : Bytes) {tag : Tag}
    (world : ω) (fresh : tag ∉ ledger.tags) :
    Balanced (session.submit payload tag world).2.session.outgoing
      ((ledger.enter payload tag (session.submit payload tag world).1).book
        (factsOf (session.submit payload tag world).2.notes)) := by
  rcases session.submit_cases payload tag world with ⟨answer, idle, -, turn⟩ | ⟨refusal, -, refused⟩
  · rw [idle] at balanced
    have accepted := balanced.accept payload fresh
    rw [answer, turn]
    have pumped := pump_sends { session with outgoing := some (begun payload tag) } world
      accepted.unfinished
    exact accepted.sends pumped
  · rw [refused]
    exact balanced.refuse payload fresh refusal

theorem Balanced.close (balanced : Balanced session.outgoing ledger) (world : ω) :
    Balanced none (ledger.book (factsOf (session.close world).2)) :=
  balanced.sends (session.close_sends world balanced.unfinished)

theorem balanced_of_run {session? : Option Session} (run : Run ω session? ledger) :
    Balanced (session?.bind Session.outgoing) ledger := by
  induction run with
  | start => exact balanced_empty
  | handle event world _ ih => exact ih.handle event world
  | receive world _ ih => exact ih.sends (.quiet (receive_quiet _ world))
  | resume world _ ih => exact ih.sends (resume_sends _ world ih.unfinished)
  | submit payload world _ fresh ih => exact ih.submit payload world fresh
  | close world _ ih => exact ih.close world
  | drop _ ih => exact ih.sends (abandoned_sends _ ih.unfinished)

end Sightline.Ledger
