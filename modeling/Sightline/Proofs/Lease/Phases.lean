import Sightline.Proofs.Lease.Lots

/-! Histories of a timed host, and what they tell of each token.

A history lists the leases that were begun, the tokens that were ended and the steps that watchers took;
between them the clock may go on. A lease is open (`Open`) from its beginning until it is ended or lapses,
and from its lapse it is overdue (`Overdue`). What a host holds for a token comes in five phases (`Phase`),
in one of which every history leaves it (`Run.kept`). -/

set_option autoImplicit false

namespace Sightline

namespace TimedHost

variable {ν : Type}

/-- All histories of a host with this budget, each with the time that it reaches and the host that it
leaves. Any token may be ended at any time, and the watchers take steps in any order. -/
inductive Run (budget : Nat) : List (Entry ν) → Nat → TimedHost ν → Prop where
  | start (now : Nat) : Run budget [] now { budget }
  | begin {log : List (Entry ν)} {now : Nat} {host : TimedHost ν} (notice : ν) :
      Run budget log now host →
      Run budget (log ++ [.began now (host.begin notice).1 notice]) now (host.begin notice).2
  | finish {log : List (Entry ν)} {now : Nat} {host : TimedHost ν} (token : Token) :
      Run budget log now host → Run budget (log ++ [.ended token]) now (host.finish token)
  | advance {log : List (Entry ν)} {now : Nat} {host : TimedHost ν} (millis : Nat) :
      Run budget log now host → Run budget log (now + millis) host
  | step {log : List (Entry ν)} {now : Nat} {host : TimedHost ν} (clockFirst : Bool)
      (token : Token) : (host.lot token).watch ≠ none → Run budget log now host →
      Run budget (log ++ [.stepped now token (host.step now clockFirst token).1]) now
        (host.step now clockFirst token).2

def own (token : Token) (log : List (Entry ν)) : List (Entry ν) := log.filter (·.token = token)

/-- The lease was begun, has not been ended since then, and has not lapsed. -/
def Open (log : List (Entry ν)) (start : Nat) (token : Token) (notice : ν) : Prop :=
  (∃ before after, log = before ++ .began start token notice :: after ∧ .ended token ∉ after) ∧
    ∀ time, .stepped time token .lapsed ∉ log

/-- The lease lapsed. It had not been ended since it was begun, and `wait` was over. -/
def Overdue (wait : Nat) (log : List (Entry ν)) (now : Nat) (token : Token) (notice : ν) : Prop :=
  ∃ front start since lapse back,
    log = front ++ .began start token notice :: since ++ .stepped lapse token .lapsed :: back ∧
    .ended token ∉ since ∧ start + wait ≤ lapse ∧ lapse ≤ now

theorem split_concat {α : Type} {log before after : List α} {last here : α}
    (same : log ++ [last] = before ++ here :: after) :
    (after = [] ∧ log = before ∧ last = here) ∨
      ∃ rest, after = rest ++ [last] ∧ log = before ++ here :: rest := by
  rcases List.eq_nil_or_concat after with rfl | ⟨rest, final, rfl⟩
  · obtain ⟨rfl, ends⟩ := List.append_inj' same rfl
    exact .inl ⟨rfl, rfl, List.singleton_inj.mp ends⟩
  · rw [List.concat_eq_append, ← List.cons_append, ← List.append_assoc] at same
    obtain ⟨rfl, ends⟩ := List.append_inj' same rfl
    obtain rfl := List.singleton_inj.mp ends
    exact .inr ⟨rest, List.concat_eq_append, rfl⟩

theorem mem_concat {α : Type} {log : List α} {last entry : α} (member : entry ∈ log ++ [last]) :
    entry ∈ log ∨ entry = last := by
  simpa using member

namespace Open

variable {log : List (Entry ν)} {start : Nat} {token : Token} {notice : ν} {last : Entry ν}

theorem mem (opened : Open log start token notice) : .began start token notice ∈ log := by
  obtain ⟨⟨before, after, rfl, -⟩, -⟩ := opened
  simp

theorem concat (opened : Open log start token notice) (unended : last ≠ .ended token)
    (kept : ∀ time, last ≠ .stepped time token .lapsed) :
    Open (log ++ [last]) start token notice := by
  obtain ⟨⟨before, after, rfl, since⟩, unlapsed⟩ := opened
  refine ⟨⟨before, after ++ [last], by simp, ?_⟩, fun time member => ?_⟩
  · simpa [since] using unended.symm
  · rcases mem_concat member with member | same
    · exact unlapsed time member
    · exact kept time same.symm

theorem of_concat (opened : Open (log ++ [last]) start token notice) :
    last = .began start token notice ∨
      (Open log start token notice ∧ last ≠ .ended token ∧
        ∀ time, last ≠ .stepped time token .lapsed) := by
  obtain ⟨⟨before, after, here, since⟩, unlapsed⟩ := opened
  rcases split_concat here with ⟨rfl, rfl, rfl⟩ | ⟨rest, rfl, rfl⟩
  · exact .inl rfl
  · rw [List.mem_append, List.mem_singleton, not_or] at since
    refine .inr ⟨⟨⟨before, rest, rfl, since.1⟩, fun time member => ?_⟩, Ne.symm since.2, ?_⟩
    · exact unlapsed time (List.mem_append_left _ member)
    · rintro time rfl
      exact unlapsed time (by simp)

theorem overdue (opened : Open log start token notice) {wait now : Nat} (due : start + wait ≤ now) :
    Overdue wait (log ++ [.stepped now token .lapsed]) now token notice := by
  obtain ⟨⟨before, after, rfl, since⟩, -⟩ := opened
  exact ⟨before, start, after, now, [], rfl, since, due, Nat.le_refl now⟩

end Open

namespace Overdue

variable {wait now : Nat} {log : List (Entry ν)} {token : Token} {notice : ν}

theorem began (overdue : Overdue wait log now token notice) :
    ∃ start, .began start token notice ∈ log := by
  obtain ⟨front, start, since, lapse, back, rfl, -⟩ := overdue
  exact ⟨start, by simp⟩

theorem lapsed (overdue : Overdue wait log now token notice) :
    ∃ time, .stepped time token .lapsed ∈ log := by
  obtain ⟨front, start, since, lapse, back, rfl, -⟩ := overdue
  exact ⟨lapse, by simp⟩

theorem concat (overdue : Overdue wait log now token notice) (last : Entry ν) :
    Overdue wait (log ++ [last]) now token notice := by
  obtain ⟨front, start, since, lapse, back, rfl, rest⟩ := overdue
  exact ⟨front, start, since, lapse, back ++ [last], by simp, rest⟩

theorem later (overdue : Overdue wait log now token notice) (millis : Nat) :
    Overdue wait log (now + millis) token notice := by
  obtain ⟨front, start, since, lapse, back, same, unended, due, past⟩ := overdue
  exact ⟨front, start, since, lapse, back, same, unended, due, by omega⟩

end Overdue

/-- What a host holds for a token, as the history tells it; `wait` is how long its timers wait. -/
inductive Phase (wait : Nat) (log : List (Entry ν)) (now : Nat) (token : Token) : Lot ν → Prop where
  | unknown : (∀ entry ∈ log, entry.token = token → entry = .ended token) →
      Phase wait log now token {}
  | unstarted {start : Nat} {notice : ν} : Open log start token notice → start ≤ now →
      (∀ time outcome, .stepped time token outcome ∉ log) →
      Phase wait log now token ⟨some notice, some (.waiting none)⟩
  | asleep {start first : Nat} {notice : ν} : Open log start token notice → start ≤ first →
      first ≤ now →
      (∀ time outcome, .stepped time token outcome ∈ log →
        first ≤ time ∧ ∃ deadline, outcome = .waits deadline) →
      Phase wait log now token ⟨some notice, some (.waiting (some (first + wait)))⟩
  | overdue {notice : ν} : Overdue wait log now token notice →
      (∀ time told, .stepped time token (.expired told) ∉ log) →
      Phase wait log now token ⟨none, some (.lapsed notice)⟩
  | closed {start : Nat} {notice : ν} {watch : Option (Watch ν)} :
      .began start token notice ∈ log → (∀ start notice, ¬ Open log start token notice) →
      (∀ time, .stepped time token .lapsed ∈ log →
        ∃ later told, .stepped later token (.expired told) ∈ log) →
      (∀ told, watch ≠ some (.lapsed told)) → Phase wait log now token ⟨none, watch⟩

namespace Phase

variable {wait now : Nat} {log : List (Entry ν)} {token : Token} {lot : Lot ν}

theorem later (phase : Phase wait log now token lot) (millis : Nat) :
    Phase wait log (now + millis) token lot := by
  cases phase with
  | unknown strays => exact .unknown strays
  | unstarted opened past fresh => exact .unstarted opened (by omega) fresh
  | asleep opened begun past least => exact .asleep opened begun (by omega) least
  | overdue lapsed untold => exact .overdue (lapsed.later millis) untold
  | closed begun ended told kept => exact .closed begun ended told kept

theorem closed_concat {start : Nat} {notice : ν} {watch : Option (Watch ν)} {last : Entry ν}
    (begun : .began start token notice ∈ log) (ended : ∀ start notice, ¬ Open log start token notice)
    (told : ∀ time, .stepped time token .lapsed ∈ log →
      ∃ later notice, .stepped later token (.expired notice) ∈ log)
    (unbegun : ∀ start notice, last ≠ .began start token notice)
    (unlapsed : ∀ time, last ≠ .stepped time token .lapsed)
    (kept : ∀ told, watch ≠ some (.lapsed told)) :
    Phase wait (log ++ [last]) now token ⟨none, watch⟩ := by
  refine .closed (List.mem_append_left _ begun) (fun start notice opened => ?_)
    (fun time member => ?_) kept
  · rcases opened.of_concat with same | ⟨opened, -⟩
    · exact unbegun start notice same
    · exact ended start notice opened
  · rcases mem_concat member with member | same
    · obtain ⟨later, notice, member⟩ := told time member
      exact ⟨later, notice, List.mem_append_left _ member⟩
    · exact (unlapsed time same.symm).elim

/-- What is done with another token changes nothing. -/
theorem frame (phase : Phase wait log now token lot) {last : Entry ν}
    (apart : last.token ≠ token) : Phase wait (log ++ [last]) now token lot := by
  -- All that a phase says is about entries of its own token, and those are the ones from before.
  have before {entry : Entry ν} (member : entry ∈ log ++ [last]) (own : entry.token = token) :
      entry ∈ log := by
    rcases mem_concat member with member | rfl
    · exact member
    · exact (apart own).elim
  have still {start : Nat} {notice : ν} (opened : Open log start token notice) :
      Open (log ++ [last]) start token notice :=
    opened.concat (fun same => apart (same ▸ rfl)) fun _ same => apart (same ▸ rfl)
  cases phase with
  | unknown strays => exact .unknown fun entry member own => strays entry (before member own) own
  | unstarted opened past fresh =>
    exact .unstarted (still opened) past fun time outcome member =>
      fresh time outcome (before member rfl)
  | asleep opened begun past least =>
    exact .asleep (still opened) begun past fun time outcome member =>
      least time outcome (before member rfl)
  | overdue lapsed untold =>
    exact .overdue (lapsed.concat last) fun time told member => untold time told (before member rfl)
  | closed begun ended told kept =>
    exact closed_concat begun ended told (fun _ _ same => apart (same ▸ rfl))
      (fun _ same => apart (same ▸ rfl)) kept

theorem fresh (phase : Phase wait log now token lot)
    (unbegun : ∀ start notice, .began start token notice ∉ log) :
    lot = {} ∧ ∀ entry ∈ log, entry.token = token → entry = .ended token := by
  cases phase with
  | unknown strays => exact ⟨rfl, strays⟩
  | unstarted opened | asleep opened => exact (unbegun _ _ opened.mem).elim
  | overdue lapsed =>
    obtain ⟨start, begun⟩ := lapsed.began
    exact (unbegun _ _ begun).elim
  | closed begun => exact (unbegun _ _ begun).elim

theorem begin (strays : ∀ entry ∈ log, entry.token = token → entry = .ended token) (notice : ν) :
    Phase wait (log ++ [.began now token notice]) now token ⟨some notice, some (.waiting none)⟩ := by
  have unstepped (time : Nat) (outcome : Outcome ν) : .stepped time token outcome ∉ log := by
    intro member
    cases strays _ member rfl
  refine .unstarted ⟨⟨log, [], rfl, by simp⟩, fun time => ?_⟩ (Nat.le_refl now)
    fun time outcome => ?_
  · simpa using unstepped time .lapsed
  · simpa using unstepped time outcome

theorem shut {start : Nat} {notice : ν} {watch : Option (Watch ν)}
    (opened : Open log start token notice) (kept : ∀ told, watch ≠ some (.lapsed told)) :
    Phase wait (log ++ [.ended token]) now token ⟨none, watch⟩ := by
  refine .closed (List.mem_append_left _ opened.mem) (fun start notice opened => ?_)
    (fun time member => ?_) kept
  · rcases opened.of_concat with same | ⟨-, unended, -⟩
    · cases same
    · exact unended rfl
  · rcases mem_concat member with member | same
    · exact (opened.2 time member).elim
    · cases same

theorem finish (phase : Phase wait log now token lot) :
    Phase wait (log ++ [.ended token]) now token { lot with notice := none } := by
  cases phase with
  | unknown strays =>
    refine .unknown fun entry member own => ?_
    rcases mem_concat member with member | same
    · exact strays entry member own
    · exact same
  | unstarted opened | asleep opened => exact shut opened nofun
  | overdue lapsed untold =>
    -- The end comes too late: the expiry is told all the same.
    exact .overdue (lapsed.concat _) fun time told => by simpa using untold time told
  | closed begun ended told kept => exact closed_concat begun ended told nofun nofun kept

variable {notice : ν} {set : Option Nat}

theorem ended (phase : Phase wait log now token ⟨none, some (.waiting set)⟩) :
    Phase wait (log ++ [.stepped now token .ended]) now token {} := by
  cases phase with
  | closed begun ended told => exact closed_concat begun ended told nofun nofun nofun

theorem lapsed (phase : Phase wait log now token ⟨some notice, some (.waiting set)⟩)
    {host : TimedHost ν} (same : min host.budget longestWait = wait)
    (reached : host.deadline now set ≤ now) :
    Phase wait (log ++ [.stepped now token .lapsed]) now token ⟨none, some (.lapsed notice)⟩ := by
  cases phase with
  | unstarted opened past fresh =>
    rw [deadline, same, Option.getD_none] at reached
    refine .overdue (opened.overdue (by omega)) fun time told => ?_
    simpa using fresh time (.expired told)
  | asleep opened begun _ least =>
    rw [deadline, Option.getD_some] at reached
    refine .overdue (opened.overdue (by omega)) fun time told member => ?_
    obtain ⟨-, deadline, waits⟩ := least time (.expired told) (by simpa using member)
    cases waits

theorem told {held : Option ν} (phase : Phase wait log now token ⟨held, some (.lapsed notice)⟩) :
    Phase wait (log ++ [.stepped now token (.expired notice)]) now token ⟨held, none⟩ := by
  cases phase with
  | overdue lapsed =>
    obtain ⟨start, begun⟩ := lapsed.began
    refine .closed (List.mem_append_left _ begun) (fun _ _ opened => ?_)
      (fun _ _ => ⟨now, notice, by simp⟩) nofun
    obtain ⟨time, member⟩ := lapsed.lapsed
    exact opened.2 time (List.mem_append_left _ member)
  | closed _ _ _ kept => exact (kept notice rfl).elim

theorem waits (phase : Phase wait log now token ⟨some notice, some (.waiting set)⟩)
    {host : TimedHost ν} (same : min host.budget longestWait = wait) :
    Phase wait (log ++ [.stepped now token (.waits (host.deadline now set))]) now token
      ⟨some notice, some (.waiting (some (host.deadline now set)))⟩ := by
  have still {start deadline : Nat} (opened : Open log start token notice) :
      Open (log ++ [.stepped now token (.waits deadline)]) start token notice :=
    opened.concat (by simp) (by simp)
  -- The first step sets the deadline; a later one finds it set and leaves it.
  cases phase with
  | unstarted opened past fresh =>
    rw [show host.deadline now none = now + wait by rw [deadline, same, Option.getD_none]]
    refine .asleep (still opened) past (Nat.le_refl now) fun time outcome member => ?_
    rcases mem_concat member with member | here
    · exact (fresh time outcome member).elim
    · obtain ⟨rfl, -, rfl⟩ := Entry.stepped.inj here
      exact ⟨Nat.le_refl time, _, rfl⟩
  | asleep opened begun past least =>
    refine .asleep (still opened) begun past fun time outcome member => ?_
    rcases mem_concat member with member | here
    · exact least time outcome member
    · obtain ⟨rfl, -, rfl⟩ := Entry.stepped.inj here
      exact ⟨past, _, rfl⟩

theorem step {host : TimedHost ν} (phase : Phase wait log now token (host.lot token))
    (same : min host.budget longestWait = wait) (clockFirst : Bool)
    (watched : (host.lot token).watch ≠ none) :
    Phase wait (log ++ [.stepped now token (host.step now clockFirst token).1]) now token
      ((host.lot token).after (.stepped now token (host.step now clockFirst token).1)) := by
  cases host.taken now clockFirst token with
  | idle idle => exact (watched idle).elim
  | tells held took =>
    rw [held] at phase ⊢
    rw [took]
    exact phase.told
  | ends held took =>
    rw [held] at phase ⊢
    rw [took]
    exact phase.ended
  | lapses held due took =>
    rw [held] at phase ⊢
    rw [took]
    exact phase.lapsed same due
  | waits held _ took =>
    rw [held] at phase ⊢
    rw [took]
    exact phase.waits same

theorem moved {host next : TimedHost ν} {last : Entry ν} (moved : host.Moved last next)
    (phases : ∀ token, Phase wait log now token (host.lot token))
    (own : Phase wait (log ++ [last]) now last.token ((host.lot last.token).after last))
    (token : Token) : Phase wait (log ++ [last]) now token (next.lot token) := by
  rw [moved token]
  by_cases same : token = last.token
  · rw [if_pos same, same]
    exact own
  · rw [if_neg same]
    exact (phases token).frame (Ne.symm same)

theorem untold {held : Option ν} (phase : Phase wait log now token ⟨held, some (.lapsed notice)⟩) :
    Overdue wait log now token notice ∧ ∀ time told, .stepped time token (.expired told) ∉ log := by
  cases phase with
  | overdue lapsed untold => exact ⟨lapsed, untold⟩
  | closed _ _ _ kept => exact (kept notice rfl).elim

/-- The leases that are live are those that are open. -/
theorem notice_iff (phase : Phase wait log now token lot)
    (unique : ∀ start notice start' notice', .began start token notice ∈ log →
      .began start' token notice' ∈ log → start = start' ∧ notice = notice') :
    lot.notice = some notice ↔ ∃ start, Open log start token notice := by
  -- A token is begun once, so the notice held is that of its one beginning.
  cases phase with
  | unknown strays =>
    refine ⟨nofun, fun ⟨start, opened⟩ => ?_⟩
    cases strays _ opened.mem rfl
  | unstarted opened | asleep opened =>
    constructor
    · intro held
      obtain rfl := Option.some.inj held
      exact ⟨_, opened⟩
    · rintro ⟨start, other⟩
      rw [(unique _ _ _ _ opened.mem other.mem).2]
  | overdue lapsed =>
    obtain ⟨time, member⟩ := lapsed.lapsed
    exact ⟨nofun, fun ⟨start, opened⟩ => (opened.2 time member).elim⟩
  | closed begun ended =>
    exact ⟨nofun, fun ⟨start, opened⟩ => (ended _ _ opened).elim⟩

end Phase

/-! ### What histories keep -/

theorem unissued (host : TimedHost ν) : host.issued + 1 ∉ List.range' 1 host.issued := by
  simp [List.mem_range'_1, Nat.add_comm]

structure Kept (budget : Nat) (log : List (Entry ν)) (now : Nat) (host : TimedHost ν) : Prop where
  configured : host.budget = budget
  tokens : log.filterMap Entry.begun? = List.range' 1 host.issued
  unique : ∀ token start notice start' notice', .began start token notice ∈ log →
    .began start' token notice' ∈ log → start = start' ∧ notice = notice'
  distinct : (host.live.map (·.1)).Nodup
  phase : ∀ token, Phase (min budget longestWait) log now token (host.lot token)

namespace Kept

variable {budget now : Nat} {log : List (Entry ν)} {host : TimedHost ν}

theorem unbegun (kept : Kept budget log now host) {token : Token}
    (unissued : token ∉ List.range' 1 host.issued) (start : Nat) (notice : ν) :
    .began start token notice ∉ log := fun member =>
  unissued (kept.tokens ▸ List.mem_filterMap.mpr ⟨_, member, rfl⟩)

theorem fresh (kept : Kept budget log now host) {token : Token}
    (unissued : token ∉ List.range' 1 host.issued) :
    host.lot token = {} ∧ ∀ entry ∈ log, entry.token = token → entry = .ended token :=
  (kept.phase token).fresh (kept.unbegun unissued)

theorem begin (kept : Kept budget log now host) (notice : ν) :
    Kept budget (log ++ [.began now (host.begin notice).1 notice]) now (host.begin notice).2 := by
  -- The new token was never given out, though it may have been ended before.
  have unbegun := kept.unbegun host.unissued
  obtain ⟨fresh, strays⟩ := kept.fresh host.unissued
  refine ⟨kept.configured, ?_, ?_, ?_, ?_⟩
  · rw [List.filterMap_append, kept.tokens, TimedHost.begin, List.range'_concat]
    simp [Entry.begun?, Nat.add_comm]
  · intro token start told start' told' one other
    rcases List.mem_append.mp one with one | one <;> rcases List.mem_append.mp other with other | other
    · exact kept.unique _ _ _ _ _ one other
    · obtain ⟨-, rfl, -⟩ := by simpa using other
      exact (unbegun _ _ one).elim
    · obtain ⟨-, rfl, -⟩ := by simpa using one
      exact (unbegun _ _ other).elim
    · obtain ⟨rfl, -, rfl⟩ := by simpa using one
      obtain ⟨rfl, -, rfl⟩ := by simpa using other
      exact ⟨rfl, rfl⟩
  · rw [TimedHost.begin, List.map_append, List.nodup_append]
    refine ⟨kept.distinct, by simp, fun token member last same => ?_⟩
    obtain ⟨pair, live, rfl⟩ := List.mem_map.mp member
    obtain rfl := List.mem_singleton.mp same
    exact row?_eq_none.mp (congrArg Lot.notice fresh) pair live
  · exact Phase.moved (moved_begin fresh now notice) kept.phase (.begin strays notice)

theorem pass (kept : Kept budget log now host) {last : Entry ν} (quiet : last.begun? = none)
    {next : TimedHost ν} (configured : next.budget = host.budget) (issued : next.issued = host.issued)
    (live : next.live.Sublist host.live) (moved : host.Moved last next)
    (own : Phase (min budget longestWait) (log ++ [last]) now last.token
      ((host.lot last.token).after last)) : Kept budget (log ++ [last]) now next := by
  refine ⟨configured.trans kept.configured, ?_, ?_, kept.distinct.sublist (live.map _),
    Phase.moved moved kept.phase own⟩
  · rw [List.filterMap_append, kept.tokens, issued]
    simp [quiet]
  · have before {start : Nat} {token : Token} {notice : ν}
        (member : .began start token notice ∈ log ++ [last]) : .began start token notice ∈ log := by
      rcases List.mem_append.mp member with member | member
      · exact member
      · rw [← List.mem_singleton.mp member] at quiet
        cases quiet
    exact fun _ _ _ _ _ one other => kept.unique _ _ _ _ _ (before one) (before other)

theorem finish (kept : Kept budget log now host) (gone : Token) :
    Kept budget (log ++ [.ended gone]) now (host.finish gone) :=
  kept.pass rfl rfl rfl List.filter_sublist (moved_finish host gone) (kept.phase gone).finish

theorem step (kept : Kept budget log now host) (clockFirst : Bool) {token : Token}
    (watched : (host.lot token).watch ≠ none) :
    Kept budget (log ++ [.stepped now token (host.step now clockFirst token).1]) now
      (host.step now clockFirst token).2 := by
  obtain ⟨configured, issued, live⟩ := step_fields host now clockFirst token
  refine kept.pass rfl configured issued live (moved_step watched now clockFirst) ?_
  exact (kept.phase token).step (by rw [kept.configured]) clockFirst watched

end Kept

theorem Run.kept {budget now : Nat} {log : List (Entry ν)} {host : TimedHost ν}
    (run : Run budget log now host) : Kept budget log now host := by
  induction run with
  | start now =>
    exact ⟨rfl, rfl, fun _ _ _ _ _ member => by simp at member, List.nodup_nil,
      fun token => .unknown (by simp)⟩
  | begin notice _ ih => exact ih.begin notice
  | finish token _ ih => exact ih.finish token
  | advance millis _ ih =>
    exact { ih with phase := fun token => (ih.phase token).later millis }
  | step clockFirst token watched _ ih => exact ih.step clockFirst watched

end TimedHost

end Sightline
