import Sightline.Channel.Pipe

/-! What goes through a pipe, over every history.

A history lists the uses that were made of a pipe, from both sides and in any order, with what each of
them answered. `Drain` is the task on the far side of an outbound pipe, with the wake-ups that the
session sends it. A call of the session changes the pipe first and makes its wake-up afterwards, so the
task may take a step in between. Main statement: nothing is lost, neither a byte nor a wake-up
(`pipes_lossless`). -/

set_option autoImplicit false

namespace Sightline

/-! ### The outbound pipe -/

namespace OutboundPipe

inductive Use where
  | wrote (offered : Bytes) (answer : Except String Nat)
  | closed
  | took (most : Nat) (taken : Taken)
  | waited (ready : Bool)

namespace Use

def accepted : Use → Bytes
  | .wrote offered (.ok count) => offered.take count
  | _ => []

def removed : Use → Bytes
  | .took _ taken => taken.bytes
  | _ => []

def isShort : Use → Bool
  | .wrote offered (.ok count) => count < offered.length
  | _ => false

def reports : Use → Bool
  | .took _ taken => taken.spaceFreed
  | _ => false

end Use

/-- All histories of a pipe, each with the pipe that it leaves. -/
inductive Run (capacity : Nat) : List Use → OutboundPipe → Prop where
  | made : Run capacity [] (ofCapacity capacity)
  | write {uses : List Use} {pipe : OutboundPipe} (bytes : Bytes) : Run capacity uses pipe →
      Run capacity (uses ++ [.wrote bytes (pipe.write bytes).1]) (pipe.write bytes).2
  | close {uses : List Use} {pipe : OutboundPipe} : Run capacity uses pipe →
      Run capacity (uses ++ [.closed]) pipe.close
  | take {uses : List Use} {pipe : OutboundPipe} (most : Nat) : Run capacity uses pipe →
      Run capacity (uses ++ [.took most (pipe.take most).1]) (pipe.take most).2
  | wait {uses : List Use} {pipe : OutboundPipe} : Run capacity uses pipe →
      Run capacity (uses ++ [.waited pipe.awaken.1]) pipe.awaken.2

/-- Some write was short, and no take has told of room since. -/
def FellShort (uses : List Use) : Prop :=
  ∃ before use after, uses = before ++ use :: after ∧ use.isShort = true ∧
    ∀ later ∈ after, later.reports = false

theorem not_fellShort_nil : ¬ FellShort [] := by
  rintro ⟨before, use, after, here, -⟩
  simp at here

theorem fellShort_concat (uses : List Use) (last : Use) :
    FellShort (uses ++ [last]) ↔
      last.isShort = true ∨ (last.reports = false ∧ FellShort uses) := by
  constructor
  · rintro ⟨before, use, after, here, short, silent⟩
    -- The short write is the last use itself, or the last use comes after it and must not have
    -- reported.
    rcases List.eq_nil_or_concat after with rfl | ⟨after, final, rfl⟩
    · obtain ⟨-, same⟩ := List.append_inj' here rfl
      exact .inl (List.singleton_inj.mp same ▸ short)
    · rw [List.concat_eq_append, ← List.cons_append, ← List.append_assoc] at here
      obtain ⟨rfl, same⟩ := List.append_inj' here rfl
      obtain rfl := List.singleton_inj.mp same
      simp only [List.concat_eq_append, List.mem_append, List.mem_singleton] at silent
      exact .inr ⟨silent _ (.inr rfl), before, use, after, rfl, short,
        fun later member => silent later (.inl member)⟩
  · rintro (short | ⟨silent, before, use, after, rfl, short, quiet⟩)
    · exact ⟨uses, last, [], rfl, short, by simp⟩
    · refine ⟨before, use, after ++ [last], by simp, short, fun later member => ?_⟩
      rcases List.mem_append.mp member with member | member
      · exact quiet later member
      · exact List.mem_singleton.mp member ▸ silent

/-- A pipe accounts for its history. -/
structure Accounts (capacity : Nat) (uses : List Use) (pipe : OutboundPipe) : Prop where
  size : pipe.capacity = max capacity 1
  whole : uses.flatMap Use.removed ++ pipe.queue = uses.flatMap Use.accepted
  within : pipe.queue.length ≤ pipe.capacity
  full : pipe.blocked = true → pipe.queue.length = pipe.capacity
  short : pipe.blocked = true ↔ FellShort uses
  ended : pipe.closed = true ↔ .closed ∈ uses

namespace Accounts

variable {capacity : Nat} {uses : List Use} {pipe : OutboundPipe}

theorem made : Accounts capacity [] (ofCapacity capacity) where
  size := rfl
  whole := rfl
  within := Nat.zero_le _
  full := fun blocked => Bool.noConfusion blocked
  short := ⟨fun blocked => Bool.noConfusion blocked, fun fell => (not_fellShort_nil fell).elim⟩
  ended := by simp [ofCapacity]

theorem write (accounts : Accounts capacity uses pipe) (bytes : Bytes) :
    Accounts capacity (uses ++ [.wrote bytes (pipe.write bytes).1]) (pipe.write bytes).2 := by
  obtain ⟨size, whole, within, full, short, ended⟩ := accounts
  cases shut : pipe.closed with
  | true =>
    simp only [OutboundPipe.write, shut, if_true]
    refine ⟨size, by simpa [Use.removed, Use.accepted] using whole, within, full, ?_, ?_⟩
    · rw [fellShort_concat, short]
      simp [Use.isShort, Use.reports]
    · simpa using ended
  | false =>
    simp only [OutboundPipe.write, shut, Bool.false_eq_true, if_false]
    refine ⟨size, ?_, ?_, ?_, ?_, ?_⟩
    · simp [Use.removed, Use.accepted, ← whole]
    · simp only [List.length_append, List.length_take]
      omega
    · -- A full pipe has no room, and a short write has used all there was.
      intro blocked
      simp only [Bool.or_eq_true, decide_eq_true_eq] at blocked
      simp only [List.length_append, List.length_take] at blocked ⊢
      rcases blocked with blocked | cut
      · have := full blocked
        omega
      · omega
    · rw [fellShort_concat, ← short]
      simp [Use.isShort, Use.reports, or_comm]
    · simpa [shut] using ended

theorem close (accounts : Accounts capacity uses pipe) :
    Accounts capacity (uses ++ [.closed]) pipe.close := by
  obtain ⟨size, whole, within, full, short, -⟩ := accounts
  refine ⟨size, by simpa [Use.removed, Use.accepted, OutboundPipe.close] using whole, within, full,
    ?_, by simp [OutboundPipe.close]⟩
  rw [fellShort_concat, ← short]
  simp [Use.isShort, Use.reports, OutboundPipe.close]

theorem take (accounts : Accounts capacity uses pipe) (most : Nat) :
    Accounts capacity (uses ++ [.took most (pipe.take most).1]) (pipe.take most).2 := by
  obtain ⟨size, whole, within, full, short, ended⟩ := accounts
  refine ⟨size, ?_, ?_, ?_, ?_, by simpa [OutboundPipe.take] using ended⟩
  · simpa [Use.removed, Use.accepted, OutboundPipe.take] using whole
  · simp only [OutboundPipe.take, List.length_drop]
    omega
  · -- The mark stays only where nothing was removed, and there the pipe is as full as before.
    simp only [OutboundPipe.take]
    intro blocked
    have none_removed : pipe.queue.take most = [] ∧ pipe.blocked = true := by
      cases marked : pipe.blocked <;> simp_all
    obtain ⟨empty, marked⟩ := none_removed
    have unmoved := List.take_append_drop most pipe.queue
    rw [empty, List.nil_append] at unmoved
    rw [unmoved]
    exact full marked
  · rw [fellShort_concat, ← short]
    simp only [Use.isShort, Use.reports, OutboundPipe.take]
    cases pipe.blocked <;> simp

theorem wait (accounts : Accounts capacity uses pipe) :
    Accounts capacity (uses ++ [.waited pipe.awaken.1]) pipe.awaken.2 := by
  obtain ⟨size, whole, within, full, short, ended⟩ := accounts
  refine ⟨size, by simpa [Use.removed, Use.accepted, awaken] using whole, within, full, ?_,
    by simpa [awaken] using ended⟩
  rw [fellShort_concat, ← short]
  simp [Use.isShort, Use.reports, awaken]

end Accounts

theorem Run.accounts {capacity : Nat} {uses : List Use} {pipe : OutboundPipe}
    (run : Run capacity uses pipe) : Accounts capacity uses pipe := by
  induction run with
  | made => exact .made
  | write bytes _ ih => exact ih.write bytes
  | close _ ih => exact ih.close
  | take most _ ih => exact ih.take most
  | wait _ ih => exact ih.wait

end OutboundPipe

/-! ### The task that empties it -/

/-- Where a task is that waits and takes everything by turns. -/
inductive Errand where
  /-- Before its next wait. -/
  | idle
  | parked
  /-- Before its next take. -/
  | woken
  deriving DecidableEq, Repr

/-- An outbound pipe, the task that empties it, and what stands between them. -/
structure Drain where
  pipe : OutboundPipe
  task : Errand := .idle
  /-- A call of the session has changed the pipe and has not made its wake-up yet. -/
  owed : Bool := false
  /-- The pipe was closed, and the task was not woken for it. -/
  unheard : Bool := false

namespace Drain

def call (drain : Drain) (change : OutboundPipe → OutboundPipe) : Drain :=
  let changed := change { drain.pipe with signalled := false }
  { drain with
    pipe := { changed with signalled := drain.pipe.signalled }
    owed := changed.signalled }

def write (drain : Drain) (bytes : Bytes) : Drain := drain.call fun pipe => (pipe.write bytes).2

def close (drain : Drain) : Drain := { drain.call OutboundPipe.close with unheard := true }

/-- The wake-up of a call. The task that is parked gets it; otherwise it is stored, once at most. -/
def notify (drain : Drain) : Drain :=
  if drain.task = .parked then { drain with task := .woken, owed := false, unheard := false }
  else { drain with pipe := { drain.pipe with signalled := true }, owed := false }

/-- The task waits. A wake-up from before the one that is owed does not count as that one. -/
def wait (drain : Drain) : Drain :=
  let (ready, pipe) := drain.pipe.awaken
  if ready then { drain with pipe, task := .woken, unheard := drain.unheard && drain.owed }
  else { drain with pipe, task := .parked }

def take (drain : Drain) : Taken × Drain :=
  let (taken, pipe) := drain.pipe.take drain.pipe.queue.length
  (taken, { drain with pipe, task := .idle })

def settle (drain : Drain) : Drain := if drain.owed then drain.notify else drain

/-- Where the steps of the session and of the task can lead, in any order. The session makes one call
at a time. -/
inductive Run (capacity : Nat) : Drain → Prop where
  | made : Run capacity { pipe := .ofCapacity capacity }
  | write {drain : Drain} (bytes : Bytes) : Run capacity drain → drain.owed = false →
      Run capacity (drain.write bytes)
  | close {drain : Drain} : Run capacity drain → drain.owed = false → Run capacity drain.close
  | notify {drain : Drain} : Run capacity drain → drain.owed = true → Run capacity drain.notify
  | wait {drain : Drain} : Run capacity drain → drain.task = .idle → Run capacity drain.wait
  | take {drain : Drain} : Run capacity drain → drain.task = .woken → Run capacity drain.take.2

/-- With a task that is not parked, a call as a whole is the pipe's own. -/
theorem settle_write {drain : Drain} (awake : drain.task ≠ .parked) (bytes : Bytes) :
    (drain.write bytes).settle.pipe = (drain.pipe.write bytes).2 := by
  -- The first half hides the stored wake-up from the write, the second puts both together.
  obtain ⟨⟨queue, capacity, closed, blocked, signalled⟩, task, owed, unheard⟩ := drain
  cases closed with
  | true => simp [write, call, settle, OutboundPipe.write]
  | false =>
    cases taken : (bytes.take (capacity - queue.length)).isEmpty <;>
      simp_all [write, call, settle, notify, OutboundPipe.write]

theorem settle_close {drain : Drain} (awake : drain.task ≠ .parked) :
    drain.close.settle.pipe = drain.pipe.close := by
  simp [close, call, settle, notify, OutboundPipe.close, awake]

/-- Whatever the task has to be woken for, it is awake, or a wake-up is stored or owed. -/
structure Aware (drain : Drain) : Prop where
  unstored : drain.task = .parked → drain.pipe.signalled = false
  held : drain.pipe.queue ≠ [] →
    drain.owed = true ∨ drain.pipe.signalled = true ∨ drain.task = .woken
  shut : drain.unheard = true → drain.owed = true ∨ drain.pipe.signalled = true

namespace Aware

variable {drain : Drain}

theorem call (aware : drain.Aware) (settled : drain.owed = false)
    {change : OutboundPipe → OutboundPipe}
    (told : ∀ pipe, (change pipe).signalled = true ∨ (change pipe).queue = pipe.queue) :
    (drain.call change).Aware := by
  obtain ⟨unstored, held, shut⟩ := aware
  -- With no call under way, what the task has to be woken for is stored, or it is awake.
  simp only [settled, Bool.false_eq_true, false_or] at held shut
  refine ⟨unstored, fun queued => ?_, fun unheard => .inr (shut unheard)⟩
  rcases told { drain.pipe with signalled := false } with told | same
  · exact .inl told
  · exact .inr (held (same ▸ queued))

theorem write (aware : drain.Aware) (settled : drain.owed = false) (bytes : Bytes) :
    (drain.write bytes).Aware := by
  refine aware.call settled fun pipe => ?_
  cases shut : pipe.closed with
  | true => exact .inr (by simp [OutboundPipe.write, shut])
  | false =>
    simp only [OutboundPipe.write, shut, Bool.false_eq_true, if_false]
    cases accepted : bytes.take (pipe.capacity - pipe.queue.length) <;> simp

theorem close (aware : drain.Aware) (settled : drain.owed = false) : drain.close.Aware :=
  { aware.call settled fun _ => .inl rfl with shut := fun _ => .inl rfl }

theorem notify (drain : Drain) : drain.notify.Aware := by
  by_cases parked : drain.task = .parked
  · simp only [Drain.notify, parked, if_true]
    exact ⟨Errand.noConfusion, fun _ => .inr (.inr rfl), Bool.noConfusion⟩
  · simp only [Drain.notify, parked, if_false]
    exact ⟨fun waits => (parked waits).elim, fun _ => .inr (.inl rfl), fun _ => .inr rfl⟩

theorem wait (aware : drain.Aware) (idle : drain.task = .idle) : drain.wait.Aware := by
  obtain ⟨-, held, shut⟩ := aware
  cases stored : drain.pipe.signalled with
  | true =>
    simp only [Drain.wait, OutboundPipe.awaken, stored, if_true]
    refine ⟨Errand.noConfusion, fun _ => .inr (.inr rfl), fun unheard => .inl ?_⟩
    exact (Bool.and_eq_true_iff.mp unheard).2
  | false =>
    simp only [stored, idle, Bool.false_eq_true, reduceCtorEq, or_false] at held shut
    simp only [Drain.wait, OutboundPipe.awaken, stored, Bool.false_eq_true, if_false]
    exact ⟨fun _ => rfl, fun queued => .inl (held queued), fun unheard => .inl (shut unheard)⟩

theorem take (aware : drain.Aware) : drain.take.2.Aware where
  unstored := Errand.noConfusion
  held := fun queued => (queued List.drop_length).elim
  shut := aware.shut

end Aware

theorem Run.aware {capacity : Nat} {drain : Drain} (run : Run capacity drain) : drain.Aware := by
  induction run with
  | made => exact ⟨Errand.noConfusion, fun queued => (queued rfl).elim, Bool.noConfusion⟩
  | write bytes _ settled ih => exact ih.write settled bytes
  | close _ settled ih => exact ih.close settled
  | notify => exact .notify _
  | wait _ idle ih => exact ih.wait idle
  | take _ _ ih => exact ih.take

/-- Once the call has ended, a task that there is something for is before a take, or before a wait that
leads it there. -/
theorem Aware.settle {drain : Drain} (aware : drain.Aware)
    (due : drain.pipe.queue ≠ [] ∨ drain.unheard = true) :
    drain.settle.task = .woken ∨
      (drain.settle.task = .idle ∧ drain.settle.wait.task = .woken) := by
  obtain ⟨unstored, held, shut⟩ := aware
  cases owed : drain.owed with
  | true =>
    cases task : drain.task <;>
      simp [Drain.settle, owed, Drain.notify, task, Drain.wait, OutboundPipe.awaken]
  | false =>
    have stored : drain.pipe.signalled = true ∨ drain.task = .woken := by
      rcases due with queued | unheard
      · simpa [owed] using held queued
      · exact .inl (by simpa [owed] using shut unheard)
    simp only [Drain.settle, owed, Bool.false_eq_true, if_false]
    cases task : drain.task with
    | idle => exact .inr ⟨rfl, by simp_all [Drain.wait, OutboundPipe.awaken]⟩
    | parked => simp_all
    | woken => exact .inl rfl

end Drain

/-! ### The inbound pipe -/

namespace InboundPipe

inductive Use where
  | pushed (bytes : Bytes) (kept : Bool)
  | gave (wanted : Nat) (bytes : Bytes)
  | closed

namespace Use

def accepted : Use → Bytes
  | .pushed bytes true => bytes
  | _ => []

def given : Use → Bytes
  | .gave _ bytes => bytes
  | _ => []

end Use

/-- All histories of a pipe, each with the pipe that it leaves. -/
inductive Run : List Use → InboundPipe → Prop where
  | made : Run [] {}
  | push {uses : List Use} {pipe : InboundPipe} (bytes : Bytes) : Run uses pipe →
      Run (uses ++ [.pushed bytes (pipe.push bytes).1]) (pipe.push bytes).2
  | read {uses : List Use} {pipe : InboundPipe} (wanted : Nat) : Run uses pipe →
      Run (uses ++ [.gave wanted (pipe.read wanted).1]) (pipe.read wanted).2
  | close {uses : List Use} {pipe : InboundPipe} : Run uses pipe →
      Run (uses ++ [.closed]) pipe.close

structure Accounts (uses : List Use) (pipe : InboundPipe) : Prop where
  ended : pipe.closed = true ↔ .closed ∈ uses
  whole : pipe.closed = false → uses.flatMap Use.given ++ pipe.queue = uses.flatMap Use.accepted
  dropped : pipe.closed = true → pipe.queue = []
  front : uses.flatMap Use.given <+: uses.flatMap Use.accepted

namespace Accounts

variable {uses : List Use} {pipe : InboundPipe}

theorem push (accounts : Accounts uses pipe) (bytes : Bytes) :
    Accounts (uses ++ [.pushed bytes (pipe.push bytes).1]) (pipe.push bytes).2 := by
  obtain ⟨ended, whole, dropped, front⟩ := accounts
  cases shut : pipe.closed with
  | true =>
    simp only [InboundPipe.push, shut, if_true]
    refine ⟨by simpa using ended, by simp [shut], dropped, ?_⟩
    simpa [Use.given, Use.accepted] using front
  | false =>
    simp only [InboundPipe.push, shut, Bool.false_eq_true, if_false]
    refine ⟨by simpa [shut] using ended, fun _ => ?_, by simp, ?_⟩
    · simp [Use.given, Use.accepted, ← whole shut]
    · simpa [Use.given, Use.accepted] using front.trans (List.prefix_append _ bytes)

theorem read (accounts : Accounts uses pipe) (wanted : Nat) :
    Accounts (uses ++ [.gave wanted (pipe.read wanted).1]) (pipe.read wanted).2 := by
  obtain ⟨ended, whole, dropped, front⟩ := accounts
  simp only [InboundPipe.read]
  refine ⟨by simpa using ended, fun opened => ?_, fun shut => by simp [dropped shut], ?_⟩
  · simpa [Use.given, Use.accepted] using whole opened
  · simp only [List.flatMap_append, Use.given, Use.accepted, List.flatMap_singleton, List.append_nil]
    cases shut : pipe.closed with
    | true => simpa [dropped shut] using front
    | false =>
      rw [← whole shut]
      exact (List.prefix_append_right_inj _).mpr (List.take_prefix wanted pipe.queue)

theorem close (accounts : Accounts uses pipe) : Accounts (uses ++ [.closed]) pipe.close where
  ended := by simp [InboundPipe.close]
  whole := Bool.noConfusion
  dropped := fun _ => rfl
  front := by simpa [Use.given, Use.accepted] using accounts.front

end Accounts

theorem Run.accounts {uses : List Use} {pipe : InboundPipe} (run : Run uses pipe) :
    Accounts uses pipe := by
  induction run with
  | made => exact ⟨by simp, fun _ => rfl, fun _ => rfl, List.nil_prefix⟩
  | push bytes _ ih => exact ih.push bytes
  | read wanted _ ih => exact ih.read wanted
  | close _ ih => exact ih.close

end InboundPipe

/-- Neither bytes nor wake-ups are lost. An outbound pipe gives out the accepted bytes in order, never
holds more than its capacity, takes all that there is room for until it is closed, and tells of room with
a take that removes something after a write fell short. The task behind it is not left parked with bytes
to take, or with a close that it was not woken for, once the session's call has ended. An inbound pipe
gives out the accepted bytes in order until it is closed, and nothing from then on. -/
theorem pipes_lossless :
    (∀ (capacity : Nat) (uses : List OutboundPipe.Use) (pipe : OutboundPipe),
      OutboundPipe.Run capacity uses pipe →
      let room := pipe.capacity - pipe.queue.length
      uses.flatMap OutboundPipe.Use.removed ++ pipe.queue
        = uses.flatMap OutboundPipe.Use.accepted ∧
      pipe.capacity = max capacity 1 ∧ pipe.queue.length ≤ pipe.capacity ∧
      (pipe.blocked = true → pipe.queue.length = pipe.capacity) ∧
      (∀ bytes, .closed ∉ uses →
        (pipe.write bytes).1 = .ok (min bytes.length room) ∧
          (pipe.write bytes).2.queue = pipe.queue ++ bytes.take room) ∧
      (∀ bytes, .closed ∈ uses → pipe.write bytes = (.error OutboundPipe.closedReason, pipe)) ∧
      (∀ most, (pipe.take most).1.bytes = pipe.queue.take most ∧
        (pipe.take most).2.queue = pipe.queue.drop most ∧
        ((pipe.take most).1.spaceFreed = true ↔
          (pipe.take most).1.bytes ≠ [] ∧ OutboundPipe.FellShort uses))) ∧
    (∀ (capacity : Nat) (drain : Drain), drain.Run capacity →
      (drain.pipe.queue ≠ [] ∨ drain.unheard = true →
        drain.settle.task = .woken ∨
          (drain.settle.task = .idle ∧ drain.settle.wait.task = .woken)) ∧
      drain.take.1.bytes = drain.pipe.queue ∧
      (drain.task ≠ .parked →
        (∀ bytes, (drain.write bytes).settle.pipe = (drain.pipe.write bytes).2) ∧
          drain.close.settle.pipe = drain.pipe.close)) ∧
    (∀ (uses : List InboundPipe.Use) (pipe : InboundPipe), InboundPipe.Run uses pipe →
      uses.flatMap InboundPipe.Use.given <+: uses.flatMap InboundPipe.Use.accepted ∧
      (.closed ∉ uses →
        uses.flatMap InboundPipe.Use.given ++ pipe.queue
          = uses.flatMap InboundPipe.Use.accepted ∧
        ∀ bytes, (pipe.push bytes).1 = true) ∧
      (.closed ∈ uses →
        pipe.queue = [] ∧ (∀ bytes, pipe.push bytes = (false, pipe)) ∧
          ∀ wanted, (pipe.read wanted).1 = [])) := by
  refine ⟨fun capacity uses pipe run => ?_, fun capacity drain run => ?_, fun uses pipe run => ?_⟩
  -- The outbound pipe: its ledger is kept by every use.
  · obtain ⟨size, whole, within, full, short, ended⟩ := run.accounts
    refine ⟨whole, size, within, full, fun bytes opened => ?_, fun bytes shut => ?_,
      fun most => ⟨rfl, rfl, ?_⟩⟩
    · rw [← ended, Bool.not_eq_true] at opened
      simp [OutboundPipe.write, opened, Nat.min_comm]
    · simp only [OutboundPipe.write, ended.mpr shut, if_true]
    · rw [← short]
      simp [OutboundPipe.take, and_comm]
  -- The task that empties it: no wake-up is missed while it sleeps.
  · refine ⟨run.aware.settle, List.take_length, fun awake => ⟨?_, Drain.settle_close awake⟩⟩
    exact Drain.settle_write awake
  -- The inbound pipe: closing it drops the queue and nothing is taken in after that.
  · obtain ⟨ended, whole, dropped, front⟩ := run.accounts
    refine ⟨front, fun opened => ?_, fun shut => ?_⟩
    · rw [← ended, Bool.not_eq_true] at opened
      exact ⟨whole opened, by simp [InboundPipe.push, opened]⟩
    · have closed := ended.mpr shut
      exact ⟨dropped closed, by simp [InboundPipe.push, closed],
        by simp [InboundPipe.read, dropped closed]⟩

/-- A short write and the take that tells of room; a parked task that a write wakes; a pipe that is
closed with a byte in it. -/
theorem pipes_lossless_short :
    (∃ uses pipe, OutboundPipe.Run 2 uses pipe ∧ uses = [.wrote [1, 2, 3] (.ok 2)] ∧
      (pipe.take 1).1 = ⟨[1], true⟩ ∧ OutboundPipe.FellShort uses) ∧
    (∃ drain : Drain, drain.Run 2 ∧ drain.task = .parked ∧ drain.pipe.queue = [7] ∧
      drain.settle.task = .woken) ∧
    (∃ uses pipe, InboundPipe.Run uses pipe ∧
      uses = [.pushed [1, 2] true, .gave 1 [1], .closed] ∧ (pipe.read 1).1 = []) := by
  obtain ⟨outbound, awake, inbound⟩ := pipes_lossless
  refine ⟨?_, ?_, ?_⟩
  · have fresh : OutboundPipe.Run 2 [] (.ofCapacity 2) := .made
    have run := fresh.write [1, 2, 3]
    obtain ⟨-, -, -, -, -, -, takes⟩ := outbound _ _ _ run
    exact ⟨_, _, run, rfl, rfl, ((takes 1).2.2.mp rfl).2⟩
  · have fresh : Drain.Run 2 { pipe := .ofCapacity 2 } := .made
    have run := (fresh.wait rfl).write [7] rfl
    have woken := (awake _ _ run).1 (.inl (by decide))
    exact ⟨_, run, rfl, rfl, woken.resolve_right (by decide)⟩
  · have run := ((InboundPipe.Run.made.push [1, 2]).read 1).close
    have shut := (inbound _ _ run).2.2 (by simp)
    exact ⟨_, _, run, rfl, shut.2.2 1⟩

end Sightline
