import Mathlib.Data.List.Nodup
import Sightline.Bench.Rig
import Sightline.Proofs.Channel.Session
import Sightline.Proofs.Link.Steps

/-! Who closes the streams that are handed over.

Streams are held from the moment they are adopted until their session is torn down, and are closed then,
both halves once; streams that are not adopted are closed at once. `Custody` says what is done with the
streams held while none are handed over; every operation obeys it. -/

set_option autoImplicit false

namespace Sightline

def StreamCall.closes : StreamCall → Bool
  | .closeInbound | .closeOutbound => true
  | .read _ _ | .write _ _ => false

def StreamCall.Unclosed (calls : List StreamCall) : Prop := ∀ call ∈ calls, call.closes = false

/-- Both halves of a stream pair were closed once, and nothing was done with them afterwards. -/
def StreamCall.Released (calls : List StreamCall) : Prop :=
  ∃ earlier, calls = earlier ++ [.closeInbound, .closeOutbound] ∧ Unclosed earlier

namespace StreamCall

theorem Unclosed.append {calls more : List StreamCall} (unclosed : Unclosed calls)
    (further : Unclosed more) : Unclosed (calls ++ more) :=
  fun call member => (List.mem_append.mp member).elim (unclosed call) (further call)

theorem Unclosed.release {calls more : List StreamCall} (unclosed : Unclosed calls)
    (released : Released more) : Released (calls ++ more) := by
  obtain ⟨earlier, rfl, further⟩ := released
  exact ⟨calls ++ earlier, (List.append_assoc ..).symm, unclosed.append further⟩

end StreamCall

open StreamCall (Unclosed Released)

/-! ### What a session does with its streams -/

namespace Session

def Note.use? : Note → Option StreamCall
  | .call use => some use
  | .completed _ _ | .overflow | .unbuffered => none

def usesOf (notes : Array Note) : List StreamCall := notes.toList.filterMap Note.use?

@[simp] theorem usesOf_empty : usesOf #[] = [] := rfl

@[simp] theorem usesOf_push (notes : Array Note) (note : Note) :
    usesOf (notes.push note) = usesOf notes ++ note.use?.toList := by
  cases same : note.use? <;> simp [usesOf, same]

@[simp] theorem usesOf_calls (calls : Array StreamCall) :
    usesOf (calls.map .call) = calls.toList := by
  rw [usesOf, Array.toList_map, List.filterMap_map]
  exact List.filterMap_some

theorem usesOf_unbuffered (notes : Array Note) : usesOf (#[.unbuffered] ++ notes) = usesOf notes := by
  simp [usesOf, List.filterMap_cons, Note.use?]

variable {ω : Type} [Streams ω] (session : Session) (world : ω)

theorem pump_pair : (session.pump world).session.pair = session.pair := by
  obtain ⟨writable, outgoing, same⟩ := session.pump_frame world
  rw [same]

theorem pump_unclosed : Unclosed (usesOf (session.pump world).notes) := by
  unfold pump
  split
  · simp [Unclosed]
  · next outgoing _ =>
    have writes : Unclosed (usesOf ((outgoing.pump session.pair.handle session.mtu session.writable
        world).calls.map .call)) := by
      rw [usesOf_calls]
      intro call member
      exact outgoing.calls_of_pump (·.closes = false) (fun _ _ => rfl) _ _ _ _ call
        (Array.mem_toList_iff.mp member)
    simp only
    split
    · exact writes
    all_goals simpa [Note.use?] using writes

theorem usesOf_receive : usesOf (session.receive world).2.notes =
    (session.incoming.drain session.pair.handle session.mtu world).calls.toList := by
  simp only [receive]
  split
  · exact usesOf_calls _
  · rw [usesOf_unbuffered, usesOf_calls]

theorem receive_unclosed : Unclosed (usesOf (session.receive world).2.notes) := by
  rw [usesOf_receive]
  intro call member
  exact session.incoming.calls_of_drain (·.closes = false) _ _ _ (fun _ _ _ => rfl) call
    (Array.mem_toList_iff.mp member)

theorem handle_unclosed (event : StreamEvent) :
    (session.handle event world).2.session.pair = session.pair ∧
      Unclosed (usesOf (session.handle event world).2.notes) := by
  have received := session.receive_unclosed world
  have handles := session.handles event world
  generalize session.handle event world = handled at handles ⊢
  obtain ⟨outcome, turn⟩ := handled
  cases handles with
  | ignored | opened | reported | ended => exact ⟨rfl, by simp [Unclosed]⟩
  | received | broken => exact ⟨rfl, received⟩
  | resumed =>
    exact ⟨pump_pair { session with writable := true } world,
      pump_unclosed { session with writable := true } world⟩

theorem submit_unclosed (payload : Bytes) (tag : Tag) :
    (session.submit payload tag world).2.session.pair = session.pair ∧
      Unclosed (usesOf (session.submit payload tag world).2.notes) := by
  unfold submit
  split
  · exact ⟨rfl, by simp [Unclosed]⟩
  · split
    · exact ⟨rfl, by simp [Unclosed]⟩
    · next begun _ =>
      exact ⟨pump_pair { session with outgoing := some begun } world,
        pump_unclosed { session with outgoing := some begun } world⟩

theorem usesOf_close : usesOf (session.close world).2 = [.closeInbound, .closeOutbound] := by
  have silent : usesOf session.abandoned = [] := by
    unfold abandoned
    split <;> rfl
  rw [usesOf] at silent ⊢
  simp [close, silent, Note.use?]

end Session

/-! ### What an operation does with the streams held -/

namespace LinkEffect

def use? : LinkEffect → Option (StreamPair × StreamCall)
  | .stream pair call => some (pair, call)
  | _ => none

def usesIn (effects : Array LinkEffect) : List (StreamPair × StreamCall) :=
  effects.toList.filterMap use?

@[simp] theorem usesIn_empty : usesIn #[] = [] := rfl

@[simp] theorem usesIn_push (effects : Array LinkEffect) (effect : LinkEffect) :
    usesIn (effects.push effect) = usesIn effects ++ effect.use?.toList := by
  cases same : effect.use? <;> simp [usesIn, same]

@[simp] theorem usesIn_append (effects more : Array LinkEffect) :
    usesIn (effects ++ more) = usesIn effects ++ usesIn more := by
  simp [usesIn]

@[simp] theorem usesIn_notes (pair : StreamPair) (notes : Array Session.Note) :
    usesIn (notes.map (ofNote pair)) = (Session.usesOf notes).map (pair, ·) := by
  have same : use? ∘ ofNote pair = fun note => note.use?.map (pair, ·) := by
    funext note
    cases note <;> rfl
  rw [usesIn, Session.usesOf, Array.toList_map, List.filterMap_map, same, List.map_filterMap]

def callsOn (handle : Handle) (uses : List (StreamPair × StreamCall)) : List StreamCall :=
  (uses.filter (·.1.handle = handle)).map Prod.snd

@[simp] theorem callsOn_append (handle : Handle) (uses more : List (StreamPair × StreamCall)) :
    callsOn handle (uses ++ more) = callsOn handle uses ++ callsOn handle more := by
  simp [callsOn]

theorem callsOn_same (pair : StreamPair) (calls : List StreamCall) :
    callsOn pair.handle (calls.map (pair, ·)) = calls := by
  simp [callsOn, List.filter_map, Function.comp_def]

theorem callsOn_other (handle : Handle) {uses : List (StreamPair × StreamCall)}
    (other : ∀ use ∈ uses, use.1.handle ≠ handle) : callsOn handle uses = [] := by
  rw [callsOn, List.map_eq_nil_iff, List.filter_eq_nil_iff]
  simpa using other

end LinkEffect

open LinkEffect (usesIn callsOn)

def Manager.held? (manager : Manager) : Option StreamPair := manager.session?.map Session.pair

/-- From the streams held at one moment to those held at a later one, with all uses of streams in
between, when none are handed over. -/
inductive Custody : Option StreamPair → Option StreamPair → List (StreamPair × StreamCall) → Prop where
  | absent : Custody none none []
  | kept {pair : StreamPair} {calls : List StreamCall} : Unclosed calls →
      Custody (some pair) (some pair) (calls.map (pair, ·))
  | released {pair : StreamPair} {calls : List StreamCall} : Released calls →
      Custody (some pair) none (calls.map (pair, ·))

namespace Custody

theorem refl (held : Option StreamPair) : Custody held held [] := by
  cases held with
  | none => exact .absent
  | some pair =>
    have unused : Unclosed [] := by simp [Unclosed]
    exact .kept unused

theorem trans {before between after : Option StreamPair} {uses more : List (StreamPair × StreamCall)}
    (custody : Custody before between uses) (further : Custody between after more) :
    Custody before after (uses ++ more) := by
  cases custody with
  | absent => simpa using further
  | kept unclosed =>
    cases further with
    | kept still =>
      rw [← List.map_append]
      exact .kept (unclosed.append still)
    | released released =>
      rw [← List.map_append]
      exact .released (unclosed.release released)
  | released released =>
    -- Nothing is held any more, so nothing is used.
    cases further with
    | absent =>
      rw [List.append_nil]
      exact .released released

end Custody

theorem Manager.held?_of_absent {manager : Manager}
    (absent : ∀ session, manager.slot ≠ .live session) : manager.held? = none := by
  unfold Manager.held? Manager.session?
  split
  · next session live => exact absurd live (absent session)
  · rfl

namespace LinkTurn

variable {ω : Type}

def Keeps (start turn : LinkTurn ω) : Prop :=
  ∃ uses, usesIn turn.effects = usesIn start.effects ++ uses ∧
    Custody start.manager.held? turn.manager.held? uses

theorem Keeps.refl (turn : LinkTurn ω) : turn.Keeps turn := ⟨[], by simp, .refl _⟩

section

variable {start turn : LinkTurn ω} (keeps : start.Keeps turn)

include keeps

theorem Keeps.silent {next : LinkTurn ω} (held : next.manager.held? = turn.manager.held?)
    (uses : usesIn next.effects = usesIn turn.effects) : start.Keeps next := by
  unfold Keeps
  rw [held, uses]
  exact keeps

theorem Keeps.absorb {session : Session} {result : Session.Turn ω}
    (live : turn.manager.slot = .live session) (same : result.session.pair = session.pair)
    (unclosed : Unclosed (Session.usesOf result.notes)) :
    start.Keeps (turn.absorb session.pair result) := by
  obtain ⟨uses, earlier, custody⟩ := keeps
  refine ⟨uses ++ (Session.usesOf result.notes).map (session.pair, ·), ?_, custody.trans ?_⟩
  · simp [LinkTurn.absorb, earlier]
  · simpa [LinkTurn.absorb, Manager.held?, Manager.session?, live, same] using .kept unclosed

variable [Streams ω]

theorem Keeps.teardown : start.Keeps turn.teardown := by
  cases slot : turn.manager.slot with
  | vacant | opening id =>
    refine keeps.silent ?_ ?_
    · simp [Manager.held?, Manager.session?, slot]
    · simp [LinkTurn.teardown, slot, setSlot]
  | live session =>
    obtain ⟨uses, earlier, custody⟩ := keeps
    refine ⟨uses ++ (Session.usesOf (session.close turn.world).2).map (session.pair, ·), ?_,
      custody.trans ?_⟩
    · simp [LinkTurn.teardown, slot, earlier]
    · rw [session.usesOf_close]
      have both : Released [.closeInbound, .closeOutbound] := ⟨[], rfl, by simp [Unclosed]⟩
      have custody : Custody (some session.pair) none _ := .released both
      simpa [Manager.held?, Manager.session?, slot] using custody

end

theorem keeps_connect [Radio ω] (turn : LinkTurn ω) (settings : RadioSettings) :
    turn.Keeps (turn.connect settings).2 := by
  rcases turn.connect_cases settings with ⟨accepted, -⟩ | ⟨refusal, refused⟩
  · rw [accepted]
    refine (Keeps.refl turn).silent rfl ?_
    simp [startScan, publish, LinkTurn.request, nextAttempt, LinkEffect.use?]
  · rw [refused]
    exact .refl turn

theorem keeps_submit [Streams ω] (turn : LinkTurn ω) (payload : Bytes) (tag : Tag) :
    turn.Keeps (turn.submit payload tag).2 := by
  unfold submit
  split
  · next session live =>
    split
    · obtain ⟨same, unclosed⟩ := session.submit_unclosed turn.world payload tag
      exact (Keeps.refl turn).absorb live same unclosed
    · exact .refl turn
  · exact .refl turn

variable [Radio ω] [Streams ω] [IdentityStore ω] {start turn : LinkTurn ω}

theorem keeps_of_steps (steps : Steps none start turn) : start.Keeps turn := by
  induction steps with
  | refl => exact .refl start
  | publish state _ _ ih => exact ih.silent rfl (by simp [publish, LinkEffect.use?])
  | request request _ ih => exact ih.silent rfl (by simp [LinkTurn.request, LinkEffect.use?])
  | saveIdentity id _ ih => exact ih.silent rfl (by simp [saveIdentity, LinkEffect.use?])
  | clearIdentity _ ih => exact ih.silent rfl (by simp [clearIdentity, LinkEffect.use?])
  | notes _ _ slot ih => exact ih.silent (by simp [Manager.held?, Manager.session?, slot]) rfl
  | setSlot _ absent later ih =>
    refine ih.silent ?_ rfl
    rw [Manager.held?_of_absent absent]
    exact Manager.held?_of_absent later
  | adopt _ _ handed _ _ => simp at handed
  | teardown _ ih => exact ih.teardown
  | refuse _ handed _ => simp at handed
  | @handle turn session event _ live ih =>
    obtain ⟨same, unclosed⟩ := session.handle_unclosed turn.world event
    exact ih.absorb live same unclosed

theorem keeps_operate (turn : LinkTurn ω) (settings : RadioSettings) {operation : LinkOperation}
    (nothing : operation.handed? = none) : turn.Keeps (turn.operate settings operation) := by
  by_cases wished : operation = .connect
  · subst wished
    exact turn.keeps_connect settings
  by_cases submission : ∃ payload tag, operation = .submit payload tag
  · obtain ⟨payload, tag, rfl⟩ := submission
    exact turn.keeps_submit payload tag
  · rw [not_exists] at submission
    have steps := turn.steps_operate settings wished fun payload tag same =>
      submission payload ⟨tag, same⟩
    rw [nothing] at steps
    exact keeps_of_steps steps

/-- Streams that are handed over are adopted by an empty slot that waits for them, and are closed at once
by any other. -/
theorem operate_handed (turn : LinkTurn ω) (settings : RadioSettings) {operation : LinkOperation}
    {pair : StreamPair} (handed : operation.handed? = some pair) :
    (turn.manager.held? = none ∧ (turn.operate settings operation).manager.held? = some pair ∧
        (turn.operate settings operation).effects = turn.effects) ∨
      turn.operate settings operation = turn.refuse pair := by
  obtain ⟨id, rfl⟩ := LinkOperation.handed?_eq_some.mp handed
  by_cases expected : turn.manager.slot = .opening id
  · left
    simp [operate, report, channelOpened, expected, setSlot, Manager.held?, Manager.session?,
      Session.start]
  · right
    simp [operate, report, channelOpened, expected]

end LinkTurn

/-! ### Every run -/

/-- What a run has done with the streams handed over in it. -/
structure Owned (held : Option StreamPair) (handed : List StreamPair)
    (uses : List (StreamPair × StreamCall)) : Prop where
  held_handed : ∀ pair ∈ held, pair ∈ handed
  unclosed : ∀ pair ∈ held, Unclosed (callsOn pair.handle uses)
  released : ∀ pair ∈ handed, held ≠ some pair → Released (callsOn pair.handle uses)
  used_handed : ∀ use ∈ uses, use.1 ∈ handed

namespace Owned

open LinkEffect (callsOn_append callsOn_same callsOn_other)

variable {held : Option StreamPair} {handed : List StreamPair} {uses : List (StreamPair × StreamCall)}
  (owned : Owned held handed uses)

include owned

theorem use {held' : Option StreamPair} {pair : StreamPair} {calls : List StreamCall}
    (distinct : (handed.map StreamPair.handle).Nodup) (holds : held = some pair)
    (later : (held' = some pair ∧ Unclosed calls) ∨ (held' = none ∧ Released calls)) :
    Owned held' handed (uses ++ calls.map (pair, ·)) := by
  have mine : pair ∈ handed := owned.held_handed pair holds
  have before : Unclosed (callsOn pair.handle uses) := owned.unclosed pair holds
  have same : callsOn pair.handle (uses ++ calls.map (pair, ·)) = callsOn pair.handle uses ++ calls := by
    rw [callsOn_append, callsOn_same]
  -- Distinct handles keep the uses of one pair out of the account of another.
  have others : ∀ other ∈ handed, other ≠ pair →
      callsOn other.handle (uses ++ calls.map (pair, ·)) = callsOn other.handle uses := by
    intro other member different
    have untouched : callsOn other.handle (calls.map (pair, ·)) = [] := by
      refine callsOn_other _ fun use used handles => ?_
      obtain ⟨call, -, rfl⟩ := List.mem_map.mp used
      exact different (List.inj_on_of_nodup_map distinct mine member handles).symm
    rw [callsOn_append, untouched, List.append_nil]
  refine ⟨?_, ?_, ?_, ?_⟩
  · rcases later with ⟨rfl, -⟩ | ⟨rfl, -⟩
    · rintro _ ⟨rfl⟩
      exact mine
    · simp
  · rcases later with ⟨rfl, unclosed⟩ | ⟨rfl, -⟩
    · rintro _ ⟨rfl⟩
      rw [same]
      exact before.append unclosed
    · simp
  · intro other member unheld
    by_cases different : other = pair
    · subst different
      rcases later with ⟨rfl, -⟩ | ⟨-, released⟩
      · exact absurd rfl unheld
      · rw [same]
        exact before.release released
    · rw [others other member different]
      refine owned.released other member ?_
      rw [holds]
      exact fun held => different (Option.some.inj held).symm
  · intro use used
    rcases List.mem_append.mp used with earlier | now
    · exact owned.used_handed use earlier
    · obtain ⟨call, -, rfl⟩ := List.mem_map.mp now
      exact mine

theorem custody {held' : Option StreamPair} {more : List (StreamPair × StreamCall)}
    (distinct : (handed.map StreamPair.handle).Nodup) (custody : Custody held held' more) :
    Owned held' handed (uses ++ more) := by
  cases custody with
  | absent => simpa using owned
  | kept unclosed => exact owned.use distinct rfl (.inl ⟨rfl, unclosed⟩)
  | released released => exact owned.use distinct rfl (.inr ⟨rfl, released⟩)

section

variable {pair : StreamPair} (fresh : pair.handle ∉ handed.map StreamPair.handle)

include fresh

theorem unused : callsOn pair.handle uses = [] :=
  callsOn_other _ fun use used same =>
    fresh (List.mem_map.mpr ⟨use.1, owned.used_handed use used, same⟩)

theorem adopt (empty : held = none) : Owned (some pair) (handed ++ [pair]) uses := by
  have unused := owned.unused fresh
  refine ⟨?_, ?_, ?_, ?_⟩
  · rintro _ ⟨rfl⟩
    simp
  · rintro _ ⟨rfl⟩
    simp [unused, Unclosed]
  · intro other member unheld
    rcases List.mem_append.mp member with earlier | now
    · exact owned.released other earlier (by simp [empty])
    · obtain rfl := List.mem_singleton.mp now
      exact absurd rfl unheld
  · intro use used
    exact List.mem_append_left _ (owned.used_handed use used)

theorem refuse : Owned held (handed ++ [pair])
    (uses ++ [(pair, .closeInbound), (pair, .closeOutbound)]) := by
  have unused := owned.unused fresh
  have others : ∀ other ∈ handed, callsOn other.handle
      (uses ++ [(pair, .closeInbound), (pair, .closeOutbound)]) = callsOn other.handle uses := by
    intro other member
    have different : pair.handle ≠ other.handle := fun same =>
      fresh (List.mem_map.mpr ⟨other, member, same.symm⟩)
    have untouched : callsOn other.handle [(pair, .closeInbound), (pair, .closeOutbound)] = [] :=
      callsOn_other _ (by simp [different])
    rw [callsOn_append, untouched, List.append_nil]
  refine ⟨?_, ?_, ?_, ?_⟩
  · intro other holds
    exact List.mem_append_left _ (owned.held_handed other holds)
  · intro other holds
    rw [others other (owned.held_handed other holds)]
    exact owned.unclosed other holds
  · intro other member unheld
    rcases List.mem_append.mp member with earlier | now
    · rw [others other earlier]
      exact owned.released other earlier unheld
    · obtain rfl := List.mem_singleton.mp now
      refine ⟨[], ?_, by simp [Unclosed]⟩
      rw [callsOn_append, unused]
      simp [callsOn]
  · intro use used
    rcases List.mem_append.mp used with earlier | now
    · exact List.mem_append_left _ (owned.used_handed use earlier)
    · have here : use.1 = pair := by
        simp only [List.mem_cons, List.not_mem_nil, or_false] at now
        rcases now with rfl | rfl <;> rfl
      simp [here]

end

end Owned

variable {ω : Type} [Radio ω] [Streams ω] [IdentityStore ω] {settings : RadioSettings}
  {manager : Manager} {operations : List LinkOperation} {effects : Array LinkEffect}

def LinkOperation.handedIn (operations : List LinkOperation) : List StreamPair :=
  operations.filterMap handed?

theorem LinkTurn.owned_operate {handed : List StreamPair}
    (owned : Owned manager.held? handed (usesIn effects))
    (operation : LinkOperation) (world : ω)
    (distinct : ((handed ++ operation.handed?.toList).map StreamPair.handle).Nodup) :
    Owned (operate { manager, world } settings operation).manager.held?
      (handed ++ operation.handed?.toList)
      (usesIn (effects ++ (operate { manager, world } settings operation).effects)) := by
  rw [LinkEffect.usesIn_append]
  cases given : operation.handed? with
  | none =>
    rw [given] at distinct
    obtain ⟨uses, used, custody⟩ := keeps_operate { manager, world } settings given
    rw [used]
    simpa using owned.custody (by simpa using distinct) custody
  | some pair =>
    rw [given, List.map_append] at distinct
    have fresh : pair.handle ∉ handed.map StreamPair.handle := fun earlier =>
      (List.nodup_append.mp distinct).2.2 _ earlier _ (by simp) rfl
    rcases operate_handed { manager, world } settings given with ⟨empty, held, effects⟩ | refused
    · rw [held, effects]
      simpa using owned.adopt fresh empty
    · rw [refused]
      exact owned.refuse fresh

theorem Manager.Logged.owned (logged : manager.Logged ω settings operations effects)
    (distinct : ((LinkOperation.handedIn operations).map StreamPair.handle).Nodup) :
    Owned manager.held? (LinkOperation.handedIn operations) (usesIn effects) := by
  induction logged with
  | new =>
    refine ⟨?_, ?_, ?_, ?_⟩
    all_goals simp [held?, session?, LinkOperation.handedIn]
  | @operate manager operations effects operation world _ ih =>
    have handed : LinkOperation.handedIn (operations ++ [operation])
        = LinkOperation.handedIn operations ++ operation.handed?.toList := by
      cases given : operation.handed? <;> simp [LinkOperation.handedIn, given]
    rw [handed] at distinct ⊢
    have earlier := List.Nodup.sublist ((List.sublist_append_left _ _).map _) distinct
    exact LinkTurn.owned_operate (ih earlier) operation world distinct

/-- Whatever is reported and asked, and whatever the radio answers, every stream pair that was ever handed
over is either the one that the manager holds, and then neither half of it was closed, or it is not held,
and then both halves were closed once and nothing was done with them afterwards. So one pair at most is
unclosed. The manager holds and uses only streams that were handed over. -/
theorem streams_owned (logged : manager.Logged ω settings operations effects)
    (distinct : ((LinkOperation.handedIn operations).map StreamPair.handle).Nodup) :
    (∀ pair ∈ LinkOperation.handedIn operations,
      (manager.held? = some pair ∧ Unclosed (callsOn pair.handle (usesIn effects))) ∨
        (manager.held? ≠ some pair ∧ Released (callsOn pair.handle (usesIn effects)))) ∧
    (∀ first ∈ LinkOperation.handedIn operations, ∀ second ∈ LinkOperation.handedIn operations,
      ¬Released (callsOn first.handle (usesIn effects)) →
      ¬Released (callsOn second.handle (usesIn effects)) → first = second) ∧
    (∀ pair, manager.held? = some pair → pair ∈ LinkOperation.handedIn operations) ∧
    (∀ pair call, .stream pair call ∈ effects → pair ∈ LinkOperation.handedIn operations) := by
  have owned := logged.owned distinct
  refine ⟨?_, ?_, owned.held_handed, ?_⟩
  · intro pair member
    by_cases holds : manager.held? = some pair
    · exact .inl ⟨holds, owned.unclosed pair holds⟩
    · exact .inr ⟨holds, owned.released pair member holds⟩
  -- Two pairs that are not released are both the one that is held.
  · have holds : ∀ pair ∈ LinkOperation.handedIn operations,
        ¬Released (callsOn pair.handle (usesIn effects)) → manager.held? = some pair :=
      fun pair member unreleased =>
        Decidable.by_contra fun unheld => unreleased (owned.released pair member unheld)
    intro first firstHanded second secondHanded firstOpen secondOpen
    have held := holds first firstHanded firstOpen
    exact Option.some.inj (held.symm.trans (holds second secondHanded secondOpen))
  · intro pair call done
    have used : (pair, call) ∈ usesIn effects :=
      List.mem_filterMap.mpr ⟨_, Array.mem_toList_iff.mpr done, rfl⟩
    exact owned.used_handed _ used

/-- A channel that nobody waits for is refused, the one that was asked for dies and is opened again. -/
theorem streams_owned_reopened :
    let refused : StreamPair := ⟨1, 0⟩
    let lost : StreamPair := ⟨7, 1⟩
    let current : StreamPair := ⟨7, 2⟩
    ∃ manager operations effects, Manager.Logged Bench.Rig {} manager operations effects ∧
      LinkOperation.handedIn operations = [refused, lost, current] ∧
      manager.held? = some current ∧ Released (callsOn refused.handle (usesIn effects)) ∧
      Released (callsOn lost.handle (usesIn effects)) ∧
      Unclosed (callsOn current.handle (usesIn effects)) := by
  intro refused lost current
  let glasses : PeripheralId := ⟨"glasses"⟩
  let rig : Bench.Rig := { power := .on, saved := some glasses, links := [(glasses, .connected)] }
  have run : ∃ manager operations effects, Manager.Logged Bench.Rig {} manager operations effects ∧
      LinkOperation.handedIn operations = [refused, lost, current] ∧
      manager.held? = some current := by
    refine ⟨_, _, _, Manager.Logged.new
      |>.operate (.report (.power .on)) rig
      |>.operate (.report (.connected glasses)) rig
      |>.operate (.report (.channelOpened ⟨"other"⟩ (.ok refused))) rig
      |>.operate (.report (.channelOpened glasses (.ok lost))) rig
      |>.operate (.streamEvent ⟨7, .inbound, .ended⟩) rig
      |>.operate (.report (.channelOpened glasses (.ok current))) rig, ?_⟩
    decide +kernel
  obtain ⟨manager, operations, effects, logged, handed, held⟩ := run
  have distinct : ((LinkOperation.handedIn operations).map StreamPair.handle).Nodup := by
    rw [handed]
    decide
  have owned := (streams_owned logged distinct).1
  have unheld {pair : StreamPair} (other : pair ≠ current) : manager.held? ≠ some pair := by
    rw [held]
    exact fun same => other (Option.some.inj same).symm
  refine ⟨manager, operations, effects, logged, handed, held, ?_, ?_, ?_⟩
  · have left := (owned refused (by simp [handed])).resolve_left fun holds =>
      unheld (by decide) holds.1
    exact left.2
  · have left := (owned lost (by simp [handed])).resolve_left fun holds =>
      unheld (by decide) holds.1
    exact left.2
  · have kept := (owned current (by simp [handed])).resolve_right fun gone => gone.1 held
    exact kept.2

end Sightline
