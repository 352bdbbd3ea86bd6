import Sightline.Bench.Rig
import Sightline.Proofs.Link.Moves
import Sightline.Proofs.Link.Renumbering
import Sightline.Proofs.Link.Steps

/-! What is left of a connection when the radio goes off.

Nothing: a manager that was told so and a new one reply the same to everything that comes later, up to
the numbers of scan attempts (`powerLoss_forgets`). Timers that were started before are late for good. -/

set_option autoImplicit false

namespace Sightline

inductive LinkAnswer where
  | done
  | wish (answer : Except ConnectRefusal Unit)
  | frames (frames : List Bytes)
  | submission (answer : Except SendError Unit)

/-- All that can be seen of an operation: its answer, what the manager shows of itself afterwards, what
was done to the surroundings and what they are then. -/
structure LinkReply (ω : Type) where
  answer : LinkAnswer
  state : ConnectionState
  tracked : Option PeripheralId
  effects : Array LinkEffect
  world : ω

def LinkReply.shift {ω : Type} (distance : Nat) (reply : LinkReply ω) : LinkReply ω :=
  { reply with effects := reply.effects.map (.shift distance) }

section

variable {ω : Type} [Radio ω] [Streams ω] [IdentityStore ω]

def LinkTurn.answer (turn : LinkTurn ω) (settings : RadioSettings) : LinkOperation → LinkAnswer
  | .connect => .wish (turn.connect settings).1
  | .streamEvent event => .frames (turn.streamEvent settings event).1
  | .submit payload tag => .submission (turn.submit payload tag).1
  | .disconnect | .scanTimeout _ | .report _ => .done

/-- What a manager replies to some operations, each in the surroundings that it meets. At `none` nothing
is asked of it. -/
def Manager.replies (settings : RadioSettings) :
    Manager → List (Option LinkOperation × ω) → List (LinkReply ω)
  | _, [] => []
  | manager, (none, world) :: later =>
    ⟨.done, manager.state, manager.tracked, #[], world⟩ :: manager.replies settings later
  | manager, (some operation, world) :: later =>
    let turn := LinkTurn.operate { manager, world } settings operation
    ⟨LinkTurn.answer { manager, world } settings operation, turn.manager.state,
      turn.manager.tracked, turn.effects, turn.world⟩ :: turn.manager.replies settings later

end

/-- An operation as a manager knows it that counts scan attempts from the given one. A timer from before
is nothing to it. -/
def LinkOperation.rebased (first : Nat) : LinkOperation → Option LinkOperation
  | .scanTimeout attempt => if attempt < first then none else some (.scanTimeout (attempt - first))
  | operation => some operation

theorem LinkOperation.rebased_cases (first : Nat) (operation : LinkOperation) :
    (∃ known, operation.rebased first = some known ∧ operation = known.shift first) ∨
      (operation.rebased first = none ∧ ∃ attempt < first, operation = .scanTimeout attempt) := by
  cases operation with
  | scanTimeout attempt =>
    by_cases late : attempt < first
    · exact .inr ⟨by simp [rebased, late], attempt, late, rfl⟩
    · refine .inl ⟨.scanTimeout (attempt - first), by simp [rebased, late], ?_⟩
      simp only [shift]
      congr
      omega
  | connect | disconnect | report | streamEvent | submit => exact .inl ⟨_, rfl, rfl⟩

variable {ω : Type} [Radio ω] [Streams ω] [IdentityStore ω] {settings : RadioSettings}

namespace LinkTurn

omit [IdentityStore ω] in
theorem shift_answer (distance : Nat) (turn : LinkTurn ω) (settings : RadioSettings)
    (operation : LinkOperation) :
    (turn.shift distance).answer settings (operation.shift distance)
      = turn.answer settings operation := by
  cases operation with
  | connect =>
    exact congrArg (fun result => LinkAnswer.wish result.1) (turn.shift_connect distance settings)
  | streamEvent event =>
    exact congrArg (fun result => LinkAnswer.frames result.1)
      (turn.shift_streamEvent distance settings event)
  | submit payload tag =>
    exact congrArg (fun result => LinkAnswer.submission result.1)
      (turn.shift_submit distance payload tag)
  | disconnect | scanTimeout | report => rfl

end LinkTurn

/-- A manager whose attempts are numbered further on cannot be told from one that counts from zero. -/
theorem Manager.replies_shift (settings : RadioSettings) (distance : Nat) (manager : Manager)
    (moves : List (LinkOperation × ω)) :
    (manager.shift distance).replies settings (moves.map fun move => (some move.1, move.2))
      = (manager.replies settings (moves.map fun move => (move.1.rebased distance, move.2))).map
        (.shift distance) := by
  induction moves generalizing manager with
  | nil => rfl
  | cons move moves ih =>
    obtain ⟨operation, world⟩ := move
    rcases operation.rebased_cases distance with ⟨known, rebased, rfl⟩ | ⟨rebased, attempt, late, rfl⟩
    · have operated := LinkTurn.shift_operate distance { manager, world } settings known
      have answered := LinkTurn.shift_answer distance { manager, world } settings known
      rw [LinkTurn.shift_start] at operated answered
      simp only [List.map_cons, rebased, replies, operated, answered, LinkTurn.shift_manager, ih]
      rfl
    · have ignored := LinkTurn.shift_scanTimeout_late distance { manager, world } late
      rw [LinkTurn.shift_start] at ignored
      simp only [List.map_cons, rebased, replies, LinkTurn.operate, LinkTurn.answer, ignored, ih]
      simp [LinkReply.shift]

/-! ### Timers -/

namespace LinkEffect

def timer? : LinkEffect → Option Nat
  | .scanTimer attempt => some attempt
  | _ => none

def timersIn (effects : Array LinkEffect) : List Nat := effects.toList.filterMap timer?

@[simp] theorem timersIn_empty : timersIn #[] = [] := rfl

@[simp] theorem timersIn_push (effects : Array LinkEffect) (effect : LinkEffect) :
    timersIn (effects.push effect) = timersIn effects ++ effect.timer?.toList := by
  cases same : effect.timer? <;> simp [timersIn, same]

@[simp] theorem timersIn_append (effects more : Array LinkEffect) :
    timersIn (effects ++ more) = timersIn effects ++ timersIn more := by
  simp [timersIn]

@[simp] theorem timersIn_notes (pair : StreamPair) (notes : Array Session.Note) :
    timersIn (notes.map (ofNote pair)) = [] := by
  rw [timersIn, List.filterMap_eq_nil_iff]
  intro effect noted
  obtain ⟨note, -, rfl⟩ := Array.mem_map.mp (Array.mem_toList_iff.mp noted)
  cases note <;> rfl

end LinkEffect

open LinkEffect (timersIn)

theorem Manager.Operates.attempt_le {manager later : Manager} {operation : LinkOperation}
    {asked : List RadioRequest} (operates : Operates settings manager operation later asked) :
    manager.attempt ≤ later.attempt := by
  cases operates <;> simp

namespace LinkTurn

theorem timers_of_steps {given : Option StreamPair} {start turn : LinkTurn ω}
    (steps : Steps given start turn) : timersIn turn.effects = timersIn start.effects := by
  induction steps with
  | refl => rfl
  | publish | request | saveIdentity | clearIdentity =>
    simpa [publish, LinkTurn.request, saveIdentity, clearIdentity, LinkEffect.timer?]
  | notes | setSlot | adopt => simpa [setSlot]
  | teardown _ ih =>
    unfold teardown
    split
    · simpa
    · exact ih
  | @refuse turn pair _ _ ih =>
    have silent : timersIn #[.stream pair .closeInbound, .stream pair .closeOutbound] = [] := rfl
    simpa [refuse, silent] using ih
  | handle event _ _ ih => simpa [absorb] using ih

omit [Streams ω] [IdentityStore ω] in
theorem timers_startScan (turn : LinkTurn ω) (settings : RadioSettings) :
    timersIn (turn.startScan settings).effects
      = timersIn turn.effects ++ [(turn.startScan settings).manager.attempt] := by
  simp [startScan, publish, LinkTurn.request, nextAttempt, LinkEffect.timer?]

theorem timers_unwished (turn : LinkTurn ω) (settings : RadioSettings) {operation : LinkOperation}
    (unwished : operation ≠ .connect) :
    timersIn (turn.operate settings operation).effects = timersIn turn.effects := by
  by_cases submission : ∃ payload tag, operation = .submit payload tag
  · obtain ⟨payload, tag, rfl⟩ := submission
    change timersIn (turn.submit payload tag).2.effects = timersIn turn.effects
    unfold submit
    split
    · split
      · simp [absorb]
      · rfl
    · rfl
  · rw [not_exists] at submission
    have steps := turn.steps_operate settings unwished fun payload tag same =>
      submission payload ⟨tag, same⟩
    exact timers_of_steps steps

/-- The only timer that an operation starts is for the scan attempt that it begins. -/
theorem timers_operate (turn : LinkTurn ω) (settings : RadioSettings) (operation : LinkOperation) :
    ∀ attempt ∈ timersIn (turn.operate settings operation).effects,
      attempt ∈ timersIn turn.effects ∨
        attempt = (turn.operate settings operation).manager.attempt := by
  by_cases wished : operation = .connect
  · subst wished
    rcases turn.connect_cases settings with ⟨accepted, -⟩ | ⟨refusal, refused⟩
    · simp [operate, accepted, timers_startScan]
    · simp only [operate, refused]
      exact fun attempt earlier => .inl earlier
  · rw [turn.timers_unwished settings wished]
    exact fun attempt started => .inl started

end LinkTurn

theorem Manager.Logged.timers {manager : Manager} {operations : List LinkOperation}
    {effects : Array LinkEffect} (logged : manager.Logged ω settings operations effects) :
    ∀ attempt ∈ timersIn effects, attempt ≤ manager.attempt := by
  induction logged with
  | new => simp
  | @operate manager operations effects operation world _ ih =>
    have grows := (operates settings manager world operation).attempt_le
    intro attempt started
    rw [LinkEffect.timersIn_append] at started
    rcases List.mem_append.mp started with earlier | now
    · exact Nat.le_trans (ih attempt earlier) grows
    · rcases LinkTurn.timers_operate _ settings operation attempt now with before | rfl
      · simp at before
      · exact Nat.le_refl _

/-! ### The loss of power -/

namespace LinkTurn

theorem powerLost (manager : Manager) (world : ω) {power : Power} (lost : power ≠ .on) :
    operate { manager, world } settings (.report (.power power))
      = ({ manager, world } : LinkTurn ω).reset := by
  cases power with
  | on => exact absurd rfl lost
  | off | unknown => rfl

omit [Radio ω] [IdentityStore ω] in
theorem effects_reset {manager : Manager} {session : Session} (world : ω)
    (live : manager.slot = .live session) :
    ({ manager, world } : LinkTurn ω).reset.effects.toList
      = [.stream session.pair .closeInbound, .stream session.pair .closeOutbound]
        ++ session.outgoing.toList.map (fun frame => .completed frame.tag (.error .sessionClosed))
        ++ [.published .disconnected] := by
  have abandoned : session.abandoned.toList.map (LinkEffect.ofNote session.pair)
      = session.outgoing.toList.map (fun frame => .completed frame.tag (.error .sessionClosed)) := by
    unfold Session.abandoned
    split <;> simp_all [LinkEffect.ofNote]
  simp [reset, nextAttempt, teardown, live, publish, Session.close, abandoned, LinkEffect.ofNote]

end LinkTurn

/-- Whatever was before, when the radio goes off or is said to be in an unknown state, the manager shows
what a new one does, and from then on replies to any operations in any surroundings what a new one
replies, with its scan attempts numbered `first` further on. Every timer that was started before is for an
attempt before `first`: nothing comes of it. A session that was open is closed, both its streams and the
frame under way in it, and nothing else is done. -/
theorem powerLoss_forgets {manager : Manager} {operations : List LinkOperation}
    {effects : Array LinkEffect} (logged : manager.Logged ω settings operations effects)
    {power : Power} (lost : power ≠ .on) (world : ω) :
    let left := LinkTurn.operate { manager, world } settings (.report (.power power))
    let first := manager.attempt + 1
    left.manager.state = ({} : Manager).state ∧ left.manager.tracked = ({} : Manager).tracked ∧
    (∀ moves : List (LinkOperation × ω),
      left.manager.replies settings (moves.map fun move => (some move.1, move.2))
        = (({} : Manager).replies settings
          (moves.map fun move => (move.1.rebased first, move.2))).map (.shift first)) ∧
    (∀ attempt, .scanTimer attempt ∈ effects ++ left.effects → attempt < first) ∧
    (∀ session, manager.slot = .live session → left.effects.toList
      = [.stream session.pair .closeInbound, .stream session.pair .closeOutbound]
        ++ session.outgoing.toList.map (fun frame => .completed frame.tag (.error .sessionClosed))
        ++ [.published .disconnected]) := by
  intro left first
  have reset : left = ({ manager, world } : LinkTurn ω).reset := LinkTurn.powerLost manager world lost
  have forgotten : left.manager = ({} : Manager).shift first := by
    rw [reset, LinkTurn.manager_reset]
    simp [Manager.shift, first]
  refine ⟨by rw [forgotten]; rfl, by rw [forgotten]; rfl, fun moves => ?_, fun attempt started => ?_,
    fun session live => ?_⟩
  · rw [forgotten]
    exact Manager.replies_shift settings first {} moves
  · -- The loss of power starts no timer, so all were started before it.
    have silent : timersIn left.effects = [] := by
      have steps : LinkTurn.Steps none { manager, world } left := reset ▸ LinkTurn.Steps.refl.reset
      exact LinkTurn.timers_of_steps steps
    have among : attempt ∈ timersIn (effects ++ left.effects) :=
      List.mem_filterMap.mpr ⟨_, Array.mem_toList_iff.mpr started, rfl⟩
    rw [LinkEffect.timersIn_append, silent, List.append_nil] at among
    exact Nat.lt_succ_of_le (logged.timers attempt among)
  · rw [reset]
    exact LinkTurn.effects_reset world live

/-- A scan finds the glasses, and the radio goes off while a frame is sent to them. The next scan is not
ended by the timer of the first one, but by its own. -/
theorem powerLoss_forgets_sending :
    ∃ manager operations effects, Manager.Logged Bench.Rig {} manager operations effects ∧
      timersIn effects = [1] ∧
      let rig : Bench.Rig := { power := .on }
      let left := LinkTurn.operate { manager, world := rig } {} (.report (.power .off))
      .completed 5 (.error .sessionClosed) ∈ left.effects ∧
      left.manager.replies {}
          [(some .connect, rig), (some (.scanTimeout 1), rig), (some (.scanTimeout 4), rig)]
        = (({} : Manager).replies {}
          [(some .connect, rig), (none, rig), (some (.scanTimeout 1), rig)]).map (.shift 3) := by
  let glasses : PeripheralId := ⟨"glasses"⟩
  let rig : Bench.Rig := { power := .on }
  have run : ∃ manager operations effects, Manager.Logged Bench.Rig {} manager operations effects ∧
      timersIn effects = [1] ∧ manager.attempt = 2 ∧
      (manager.session?.bind Session.outgoing).map Outgoing.tag = some 5 := by
    refine ⟨_, _, _, Manager.Logged.new
      |>.operate .connect rig
      |>.operate (.report (.discovered glasses none none)) rig
      |>.operate (.report (.connected glasses)) rig
      |>.operate (.report (.channelOpened glasses (.ok ⟨7, 0⟩))) rig
      |>.operate (.streamEvent ⟨7, .inbound, .opened⟩) rig
      |>.operate (.streamEvent ⟨7, .outbound, .opened⟩) rig
      |>.operate (.submit [1, 2, 3] 5) rig, ?_⟩
    decide +kernel
  obtain ⟨manager, operations, effects, logged, timers, attempt, sending⟩ := run
  have lost : Power.off ≠ .on := by decide
  obtain ⟨-, -, forgets, -, closes⟩ := powerLoss_forgets logged lost rig
  have given_up : LinkEffect.completed 5 (.error .sessionClosed)
      ∈ (LinkTurn.operate { manager, world := rig } {} (.report (.power .off))).effects.toList := by
    cases slot : manager.slot with
    | vacant | opening => simp [Manager.session?, slot] at sending
    | live session =>
      obtain ⟨frame, under_way, tag⟩ : ∃ frame, session.outgoing = some frame ∧ frame.tag = 5 := by
        simpa [Manager.session?, slot] using sending
      rw [closes session slot, under_way]
      simp [tag]
  refine ⟨manager, operations, effects, logged, timers, Array.mem_toList_iff.mp given_up, ?_⟩
  have same := forgets [(.connect, rig), (.scanTimeout 1, rig), (.scanTimeout 4, rig)]
  rwa [attempt] at same

end Sightline
