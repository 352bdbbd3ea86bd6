import Sightline.Bench.Rig
import Sightline.Proofs.Channel.Completion
import Sightline.Proofs.Link.Sends

/-! How the submissions made through a connection end.

The ledger of a connection is booked from its effects. What an operation does to the frame under way
keeps it balanced. -/

set_option autoImplicit false

namespace Sightline

open LinkEffect (factsIn)

namespace LinkTurn

variable {ω : Type} {manager : Manager} {ledger : Ledger}

theorem balanced_submit [Streams ω] (balanced : ledger.Balanced manager.outgoing) (payload : Bytes)
    {tag : Tag} (world : ω) (fresh : tag ∉ ledger.tags) :
    ((ledger.enter payload tag (submit { manager, world } payload tag).1).book
      (factsIn (submit { manager, world } payload tag).2.effects)).Balanced
      (submit { manager, world } payload tag).2.manager.outgoing := by
  rcases submit_cases manager world payload tag with ⟨answer, idle, sends⟩ | ⟨refusal, refused⟩
  · rw [idle] at balanced
    rw [answer]
    exact (balanced.accept payload fresh).sends sends
  · rw [refused]
    exact balanced.refuse payload fresh refusal

theorem balanced_operate [Radio ω] [Streams ω] [IdentityStore ω]
    (balanced : ledger.Balanced manager.outgoing) (settings : RadioSettings)
    {operation : LinkOperation} (world : ω) (other : ∀ payload tag, operation ≠ .submit payload tag) :
    (ledger.book (factsIn (operate { manager, world } settings operation).effects)).Balanced
      (operate { manager, world } settings operation).manager.outgoing := by
  have start : ∀ o ∈ ({ manager, world } : LinkTurn ω).manager.outgoing, o.Unfinished :=
    balanced.unfinished
  obtain ⟨facts, booked, chain⟩ := sent_operate start settings other
  rw [booked]
  exact balanced.chain chain

end LinkTurn

/-- A manager after some operations, and the ledger of the submissions made through it. A tag names one
submission only. -/
inductive Manager.Booked (ω : Type) [Radio ω] [Streams ω] [IdentityStore ω]
    (settings : RadioSettings) : Manager → Ledger → Prop where
  | new : Booked ω settings {} {}
  | operate {manager : Manager} {ledger : Ledger} (operation : LinkOperation) (world : ω) :
      Booked ω settings manager ledger → (∀ payload tag, operation ≠ .submit payload tag) →
      Booked ω settings (LinkTurn.operate { manager, world } settings operation).manager
        (ledger.book (factsIn (LinkTurn.operate { manager, world } settings operation).effects))
  | submit {manager : Manager} {ledger : Ledger} (payload : Bytes) {tag : Tag} (world : ω) :
      Booked ω settings manager ledger → tag ∉ ledger.tags →
      Booked ω settings (LinkTurn.submit { manager, world } payload tag).2.manager
        ((ledger.enter payload tag (LinkTurn.submit { manager, world } payload tag).1).book
          (factsIn (LinkTurn.submit { manager, world } payload tag).2.effects))

variable {ω : Type} [Radio ω] [Streams ω] [IdentityStore ω]

theorem Manager.balanced_of_booked {settings : RadioSettings} {manager : Manager} {ledger : Ledger}
    (booked : manager.Booked ω settings ledger) : ledger.Balanced manager.outgoing := by
  induction booked with
  | new => exact Ledger.balanced_empty
  | operate operation world _ other ih => exact LinkTurn.balanced_operate ih settings world other
  | submit payload world _ fresh ih => exact LinkTurn.balanced_submit ih payload world fresh

/-- Whatever the sink answers and in whatever order things happen: a refused submission is never told a
result; an accepted one is told one result at most, and exactly one once the session has ended; it is
told success only if the sink took its whole frame, and failure only if the sink took less. A session is
sending exactly while one accepted submission waits for its result; and in a connection whose slot holds
no session, none does. -/
theorem sendings_told_once (settings : RadioSettings) :
    (∀ (session? : Option Session) (ledger : Ledger), Session.Run ω session? ledger →
      ledger.Truthful ∧
      (∀ session, session? = some session →
        ledger.waiting.length = if session.isSending then 1 else 0) ∧
      (session? = none → ∀ sending ∈ ledger.accepted, sending.results.length = 1)) ∧
    (∀ (manager : Manager) (ledger : Ledger), manager.Booked ω settings ledger →
      ledger.Truthful ∧
      ((∀ session, manager.slot ≠ .live session) →
        ∀ sending ∈ ledger.accepted, sending.results.length = 1)) := by
  constructor
  -- Both halves read the same ledger off its balance, with and without a session at the end.
  · intro session? ledger run
    have balanced := Ledger.balanced_of_run run
    refine ⟨balanced.truthful, ?_, ?_⟩
    · rintro session rfl
      exact balanced.waiting
    · rintro rfl
      exact balanced.settled
  · intro manager ledger booked
    have balanced := Manager.balanced_of_booked booked
    refine ⟨balanced.truthful, ?_⟩
    intro absent
    rw [Manager.outgoing_of_absent fun session live => absurd live (absent session)] at balanced
    exact balanced.settled

/-- A session that is dropped with a frame under way. -/
theorem sendings_told_once_dropped :
    ∃ ledger, Session.Run Bench.Rig none ledger ∧ ledger.accepted.length = 1 ∧
      ∀ sending ∈ ledger.accepted, sending.results.length = 1 := by
  have fresh : 0 ∉ Ledger.tags {} := by simp [Ledger.tags]
  have run := Session.Run.drop <|
    Session.Run.submit [7, 8] ({} : Bench.Rig) (.start ⟨1, 0⟩ 4 8) fresh
  refine ⟨_, run, by decide +kernel, ?_⟩
  exact ((sendings_told_once {}).1 none _ run).2.2 rfl

end Sightline
