import Sightline.Proofs.Channel.Session
import Sightline.Proofs.Link.Run

/-! Turns that take no peripheral up.

A turn is `Unbound` if nothing was saved, connected to or opened in it and the store is left empty. The
small steps of an operation are gone through here for one that works with such a store. -/

set_option autoImplicit false

namespace Sightline

section Store

variable {ω : Type} [IdentityStore ω]

def Later (works : ω → Prop) (before after : ω) : Prop :=
  works after ∧ IdentityStore.load after = IdentityStore.load before

def Forgotten (works : ω → Prop) (world : ω) : Prop :=
  works world ∧ IdentityStore.load world = .ok none

theorem Forgotten.later {works : ω → Prop} {before after : ω} (forgotten : Forgotten works before)
    (later : Later works before after) : Forgotten works after :=
  ⟨later.1, later.2.trans forgotten.2⟩

/-- A store that works: it can be cleared, and neither the radio nor the streams touch it. -/
structure WorkingStore [Radio ω] [Streams ω] (works : ω → Prop) : Prop where
  clear : ∀ world, works world → (IdentityStore.clear world).1 = .ok () ∧
    Forgotten works (IdentityStore.clear world).2
  perform : ∀ world request, works world → Later works world (Radio.perform world request)
  read : ∀ world handle wanted, works world →
    Later works world (Streams.read world handle wanted).2
  write : ∀ world handle offered, works world →
    Later works world (Streams.write world handle offered).2
  closeInbound : ∀ world handle, works world →
    Later works world (Streams.closeInbound world handle)
  closeOutbound : ∀ world handle, works world →
    Later works world (Streams.closeOutbound world handle)

end Store

/-- The effects that take a peripheral up again. -/
def LinkEffect.Binds : LinkEffect → Prop
  | .saveIdentity _ | .radio (.connect _ _) | .radio (.openChannel _ _) => True
  | _ => False

theorem LinkEffect.unbinding_note (pair : StreamPair) (note : Session.Note) :
    ¬(ofNote pair note).Binds := by
  cases note <;> simp [ofNote, Binds]

namespace LinkTurn

variable {ω : Type}

def Unbound [IdentityStore ω] (works : ω → Prop) (turn : LinkTurn ω) : Prop :=
  (∀ effect ∈ turn.effects, ¬effect.Binds) ∧ Forgotten works turn.world

namespace Unbound

variable [IdentityStore ω] {works : ω → Prop} {turn : LinkTurn ω}

theorem push (unbound : turn.Unbound works) {next : LinkTurn ω} {effect : LinkEffect}
    (harmless : ¬effect.Binds) (effects : next.effects = turn.effects.push effect)
    (forgotten : Forgotten works next.world) : next.Unbound works := by
  refine ⟨?_, forgotten⟩
  intro other member
  rw [effects] at member
  rcases Array.mem_push.mp member with before | rfl
  · exact unbound.1 other before
  · exact harmless

theorem publish (unbound : turn.Unbound works) (state : ConnectionState) :
    (turn.publish state).Unbound works :=
  unbound.push (by simp [LinkEffect.Binds]) rfl unbound.2

theorem notes (unbound : turn.Unbound works) {next : LinkTurn ω} (pair : StreamPair)
    (notes : Array Session.Note) (effects : next.effects = turn.effects ++ notes.map (.ofNote pair))
    (forgotten : Forgotten works next.world) : next.Unbound works := by
  refine ⟨?_, forgotten⟩
  intro effect member
  rw [effects] at member
  rcases Array.mem_append.mp member with before | noted
  · exact unbound.1 effect before
  · obtain ⟨note, -, rfl⟩ := Array.mem_map.mp noted
    exact LinkEffect.unbinding_note pair note

variable [Radio ω] [Streams ω] (store : WorkingStore works)

include store

theorem request (unbound : turn.Unbound works) {request : RadioRequest}
    (harmless : ¬(LinkEffect.radio request).Binds) : (turn.request request).Unbound works :=
  unbound.push harmless rfl (unbound.2.later (store.perform _ _ unbound.2.1))

theorem closed {world : ω} (forgotten : Forgotten works world) (handle : Handle) :
    Forgotten works (Streams.closeOutbound (Streams.closeInbound world handle) handle) := by
  have inbound := forgotten.later (store.closeInbound world handle forgotten.1)
  exact inbound.later (store.closeOutbound _ handle inbound.1)

theorem teardown (unbound : turn.Unbound works) : turn.teardown.Unbound works := by
  unfold LinkTurn.teardown
  split
  · next session _ => exact unbound.notes session.pair _ rfl (closed store unbound.2 _)
  · exact unbound

theorem refuse (unbound : turn.Unbound works) (pair : StreamPair) :
    (turn.refuse pair).Unbound works :=
  unbound.notes pair #[.call .closeInbound, .call .closeOutbound]
    (by simp [LinkTurn.refuse, LinkEffect.ofNote]) (closed store unbound.2 _)

theorem handle (unbound : turn.Unbound works) (session : Session) (event : StreamEvent) :
    (turn.absorb session.pair (session.handle event turn.world).2).Unbound works := by
  refine unbound.notes session.pair _ rfl
    (session.handle_keeps (Forgotten works) ?_ ?_ event unbound.2)
  · intro world wanted forgotten
    exact forgotten.later (store.read world _ wanted forgotten.1)
  · intro world offered forgotten
    exact forgotten.later (store.write world _ offered forgotten.1)

theorem submit (unbound : turn.Unbound works) (session : Session) (payload : Bytes) (tag : Tag) :
    (turn.absorb session.pair (session.submit payload tag turn.world).2).Unbound works := by
  refine unbound.notes session.pair _ rfl
    (session.submit_keeps (Forgotten works) ?_ payload tag unbound.2)
  intro world offered forgotten
  exact forgotten.later (store.write world _ offered forgotten.1)

end Unbound

end LinkTurn

end Sightline
