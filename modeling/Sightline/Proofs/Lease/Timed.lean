import Sightline.Proofs.Lease.Phases

/-! Leases of a timed host, over every history.

Main statement: an expiry is told once at most, after a lapse in time, and of a lease that was open until
then; a lease that is not ended expires; and what a host holds for a token follows from what was done with
that token, whatever was done with others (`leases_expire_once`). -/

set_option autoImplicit false

namespace Sightline

namespace TimedHost

variable {ν : Type}

/-- The watcher has finished, or sleeps for a live lease that is not due. -/
def Lot.Settled (lot : Lot ν) (now : Nat) : Prop :=
  ∀ watch, lot.watch = some watch →
    lot.notice ≠ none ∧ ∃ deadline, watch = .waiting (some deadline) ∧ now < deadline

def Settled (host : TimedHost ν) (now : Nat) : Prop := ∀ token, (host.lot token).Settled now

theorem Phase.undue {wait now : Nat} {log : List (Entry ν)} {token : Token} {lot : Lot ν}
    (phase : Phase wait log now token lot) (settled : lot.Settled now) {start : Nat} {notice : ν}
    (opened : Open log start token notice)
    (unique : ∀ other told, .began other token told ∈ log → start = other)
    {outcome : Outcome ν} (started : .stepped start token outcome ∈ log) : now < start + wait := by
  cases phase with
  | unknown strays => cases strays _ opened.mem rfl
  | unstarted _ _ fresh => exact (fresh _ _ started).elim
  | asleep same begun _ least =>
    obtain ⟨-, deadline, ends, ahead⟩ := settled _ rfl
    have once := unique _ _ same.mem
    have first := (least _ _ started).1
    rw [← Option.some.inj (Watch.waiting.inj ends)] at ahead
    omega
  | overdue lapsed =>
    obtain ⟨time, member⟩ := lapsed.lapsed
    exact (opened.2 time member).elim
  | closed _ ended => exact (ended _ _ opened).elim

theorem Phase.tells {wait now : Nat} {log : List (Entry ν)} {token : Token} {lot : Lot ν}
    (phase : Phase wait log now token lot) (settled : lot.Settled now) {time : Nat}
    (lapsed : .stepped time token .lapsed ∈ log) :
    ∃ later told, .stepped later token (.expired told) ∈ log := by
  cases phase with
  | unknown strays => cases strays _ lapsed rfl
  | unstarted opened | asleep opened => exact (opened.2 time lapsed).elim
  | overdue =>
    obtain ⟨-, deadline, waits, -⟩ := settled _ rfl
    cases waits
  | closed _ _ told => exact told time lapsed

theorem foldl_own (token : Token) (log : List (Entry ν)) (last : Entry ν) :
    (own token (log ++ [last])).foldl Lot.after {}
      = if token = last.token then ((own token log).foldl Lot.after {}).after last
        else (own token log).foldl Lot.after {} := by
  rw [own, List.filter_append]
  by_cases same : token = last.token
  · simp [own, same]
  · simp [own, same, Ne.symm same]

theorem settled_step {host : TimedHost ν} {token : Token} (watched : (host.lot token).watch ≠ none)
    (now : Nat) (clockFirst : Bool) :
    ((host.step now clockFirst token).2.lot token).Settled now ∨
      ∃ notice, (host.step now clockFirst token).2.lot token = ⟨none, some (.lapsed notice)⟩ := by
  have own : (host.step now clockFirst token).2.lot token = (host.lot token).after _ :=
    (moved_step watched now clockFirst token).trans (if_pos rfl)
  rw [own]
  cases host.taken now clockFirst token with
  | idle idle => exact (watched idle).elim
  | tells _ took | ends _ took =>
    left
    simp [took, Lot.Settled, Lot.after]
  | lapses held _ took =>
    right
    simp [took, held, Lot.after]
  | waits held ahead took =>
    left
    simp [took, held, Lot.Settled, Lot.after, ahead]

theorem settled_tell {host : TimedHost ν} {token : Token} {notice : ν}
    (pending : host.lot token = ⟨none, some (.lapsed notice)⟩) (now : Nat) (clockFirst : Bool) :
    ((host.step now clockFirst token).2.lot token).Settled now := by
  rw [step_eq, pending, lot_unwatch, if_pos rfl]
  exact nofun

namespace Run

variable {budget now : Nat} {log : List (Entry ν)} {host : TimedHost ν}

/-- What a host holds for a token follows from what was done with that token. -/
theorem lot_eq (run : Run budget log now host) (token : Token) :
    host.lot token = (own token log).foldl Lot.after {} := by
  induction run with
  | start => rfl
  | @begin log now host notice run ih =>
    have moved := moved_begin (run.kept.fresh host.unissued).1 now notice
    rw [moved token, foldl_own, ← ih]
  | finish gone _ ih =>
    rw [moved_finish _ gone token, foldl_own, ← ih]
  | advance _ _ ih => exact ih
  | step clockFirst stepped watched _ ih =>
    rw [moved_step watched _ clockFirst token, foldl_own, ← ih]

theorem settles_one (run : Run budget log now host) {token : Token}
    (watched : (host.lot token).watch ≠ none) :
    ∃ (more : List (Entry ν)) (next : TimedHost ν), Run budget (log ++ more) now next ∧
      next.issued = host.issued ∧ (next.lot token).Settled now ∧
      (∀ other, other ≠ token → next.lot other = host.lot other) ∧
      ∀ entry ∈ more, ∃ token outcome, entry = .stepped now token outcome := by
  have first := run.step true token watched
  have issued := (step_fields host now true token).2.1
  have others (other : Token) (apart : other ≠ token) :=
    (moved_step watched now true other).trans (if_neg apart)
  rcases settled_step watched now true with settled | ⟨notice, pending⟩
  · exact ⟨_, _, first, issued, settled, others, by simp⟩
  · have still : ((host.step now true token).2.lot token).watch ≠ none := by simp [pending]
    have second := first.step true token still
    rw [List.append_assoc] at second
    refine ⟨_, _, second, (step_fields _ now true token).2.1.trans issued,
      settled_tell pending now true, fun other apart => ?_, by simp⟩
    exact ((moved_step still now true other).trans (if_neg apart)).trans (others other apart)

theorem settles_each (run : Run budget log now host) (tokens : List Token) :
    ∃ (more : List (Entry ν)) (next : TimedHost ν), Run budget (log ++ more) now next ∧
      next.issued = host.issued ∧ (∀ token ∈ tokens, (next.lot token).Settled now) ∧
      ∀ entry ∈ more, ∃ token outcome, entry = .stepped now token outcome := by
  -- What settles one watcher leaves those alone that were settled before it.
  induction tokens with
  | nil => exact ⟨[], host, by simpa using run, rfl, by simp, by simp⟩
  | cons token tokens ih =>
    obtain ⟨more, next, on, issued, settled, steps⟩ := ih
    by_cases watched : (next.lot token).watch = none
    · have finished : (next.lot token).Settled now := by simp [Lot.Settled, watched]
      exact ⟨more, next, on, issued, List.forall_mem_cons.mpr ⟨finished, settled⟩, steps⟩
    · obtain ⟨last, final, on, same, here, others, ends⟩ := on.settles_one watched
      rw [List.append_assoc] at on
      refine ⟨_, final, on, same.trans issued, fun other member => ?_, fun entry member => ?_⟩
      · by_cases own : other = token
        · exact own ▸ here
        · exact others other own ▸ settled other ((List.mem_cons.mp member).resolve_left own)
      · exact (List.mem_append.mp member).elim (steps entry) (ends entry)

/-- Watchers can always be brought to where none has anything to do. -/
theorem settles (run : Run budget log now host) :
    ∃ (more : List (Entry ν)) (next : TimedHost ν), Run budget (log ++ more) now next ∧
      next.Settled now ∧ ∀ entry ∈ more, ∃ token outcome, entry = .stepped now token outcome := by
  obtain ⟨more, next, on, issued, settled, steps⟩ := run.settles_each (List.range' 1 host.issued)
  refine ⟨more, next, on, fun token => ?_, steps⟩
  by_cases known : token ∈ List.range' 1 host.issued
  · exact settled token known
  · rw [← issued] at known
    rw [(on.kept.fresh known).1]
    simp [Lot.Settled]

theorem live_iff (run : Run budget log now host) (token : Token) (notice : ν) :
    (token, notice) ∈ host.live ↔ ∃ start, Open log start token notice := by
  rw [← row?_eq_some run.kept.distinct]
  exact (run.kept.phase token).notice_iff (run.kept.unique token)

theorem told_nodup (run : Run budget log now host) : (log.filterMap Entry.told?).Nodup := by
  induction run with
  | start => simp
  | begin | finish =>
    simpa only [List.filterMap_append, List.filterMap_cons, Entry.told?, List.filterMap_nil,
      List.append_nil]
  | advance _ _ ih => exact ih
  | @step log now host clockFirst token watched run ih =>
    cases host.taken now clockFirst token with
    | idle idle => exact (watched idle).elim
    | ends _ took | lapses _ _ took | waits _ _ took =>
      simpa only [took, List.filterMap_append, List.filterMap_cons, Entry.told?, List.filterMap_nil,
        List.append_nil]
    | @tells held notice pending took =>
      -- A watcher that is about to tell has not told before, and it goes with the telling.
      have untold := (pending ▸ run.kept.phase token).untold.2
      have absent : token ∉ log.filterMap Entry.told? := by
        intro member
        obtain ⟨entry, member, told⟩ := List.mem_filterMap.mp member
        match entry, told with
        | .stepped time _ (.expired before), rfl => exact untold time before member
      rw [took, List.filterMap_append]
      refine List.nodup_append.mpr ⟨ih, List.pairwise_singleton _ _, fun one member other same => ?_⟩
      obtain rfl : other = token := List.mem_singleton.mp same
      rintro rfl
      exact absent member

/-- What is told has lapsed before, and was open long enough until then. -/
theorem expired (run : Run budget log now host) {before after : List (Entry ν)} {time : Nat}
    {token : Token} {notice : ν}
    (here : log = before ++ .stepped time token (.expired notice) :: after) :
    Overdue (min budget longestWait) before time token notice := by
  induction run generalizing after with
  | start => simp at here
  | begin notice _ ih | finish gone _ ih =>
    rcases split_concat here with ⟨-, -, same⟩ | ⟨rest, -, here⟩
    · cases same
    · exact ih here
  | advance _ _ ih => exact ih here
  | @step log now host clockFirst token watched run ih =>
    rcases split_concat here with ⟨-, rfl, same⟩ | ⟨rest, -, here⟩
    · obtain ⟨rfl, rfl, outcome⟩ := Entry.stepped.inj same
      cases host.taken now clockFirst token with
      | idle _ took | ends _ took | lapses _ _ took | waits _ _ took =>
        rw [took] at outcome
        cases outcome
      | tells pending took =>
        rw [took] at outcome
        obtain rfl := Outcome.expired.inj outcome
        exact (pending ▸ run.kept.phase token).untold.1
    · exact ih here

/-- A lease that is not ended has expired once its time is over. -/
theorem expires (run : Run budget log now host) {before after : List (Entry ν)} {start : Nat}
    {token : Token} {notice : ν} {outcome : Outcome ν}
    (here : log = before ++ .began start token notice :: after) (unended : .ended token ∉ after)
    (started : .stepped start token outcome ∈ log) (reached : start + min budget longestWait ≤ now)
    (settled : host.Settled now) : ∃ time, .stepped time token (.expired notice) ∈ log := by
  have begun : .began start token notice ∈ log := by simp [here]
  have phase := run.kept.phase token
  by_cases lapsed : ∃ time, .stepped time token .lapsed ∈ log
  · obtain ⟨time, lapsed⟩ := lapsed
    obtain ⟨later, told, member⟩ := phase.tells (settled token) lapsed
    -- It was told with its own notice, as the lease is begun only once.
    obtain ⟨front, back, split⟩ := List.append_of_mem member
    obtain ⟨first, other⟩ := (run.expired split).began
    have same := (run.kept.unique _ _ _ _ _ begun (split ▸ List.mem_append_left _ other)).2
    exact ⟨later, same ▸ member⟩
  · have opened : Open log start token notice :=
      ⟨⟨before, after, here, unended⟩, fun time member => lapsed ⟨time, member⟩⟩
    have undue := phase.undue (settled token) opened
      (fun _ _ other => (run.kept.unique _ _ _ _ _ begun other).1) started
    omega

theorem taking (run : Run budget log now host) {token : Token}
    (watched : (host.lot token).watch ≠ none) {outcome : Outcome ν}
    (took : (host.step now true token).1 = outcome) :
    ∃ next, Run budget (log ++ [.stepped now token outcome]) now next ∧
      next.lot token = (host.lot token).after (.stepped now token outcome) := by
  have moved := (moved_step watched now true token).trans (if_pos rfl)
  have on := run.step true token watched
  rw [took] at moved on
  exact ⟨_, on, moved⟩

theorem lapses (budget : Nat) (notice : ν) :
    ∃ (since : List (Entry ν)) (host : TimedHost ν),
      Run budget (.began 0 1 notice :: since ++ [.stepped (min budget longestWait) 1 .lapsed])
        (min budget longestWait) host ∧ host.lot 1 = ⟨none, some (.lapsed notice)⟩ := by
  have begun : Run budget [.began 0 1 notice] 0 (TimedHost.begin { budget } notice).2 :=
    (Run.start 0).begin notice
  have fresh : (TimedHost.begin { budget } notice).2.lot 1 = ⟨some notice, some (.waiting none)⟩ := rfl
  have ends : (TimedHost.begin { budget } notice).2.deadline 0 none = min budget longestWait :=
    Nat.zero_add _
  -- Without a budget the first step finds the deadline met; otherwise it takes a second one.
  by_cases instant : min budget longestWait = 0
  · obtain ⟨host, run, lapsed⟩ := begun.taking (by simp [fresh])
      (outcome_due fresh (by omega) true)
    exact ⟨[], host, by rwa [instant], lapsed⟩
  · obtain ⟨asleep, run, held⟩ := begun.taking (by simp [fresh])
      (outcome_ahead fresh (by omega) true)
    rw [ends, fresh, Lot.after] at held
    have late := run.advance (min budget longestWait)
    rw [Nat.zero_add] at late
    obtain ⟨host, run, lapsed⟩ := late.taking (by simp [held])
      (outcome_due held (Nat.le_refl _) true)
    exact ⟨_, host, run, by rw [lapsed, held]; rfl⟩

end Run

/-- No expiry is told before the budget of its lease is over. -/
def Patient (budget : Nat) (log : List (Entry ν)) : Prop :=
  ∀ before time token notice after, log = before ++ .stepped time token (.expired notice) :: after →
    ∃ start, .began start token notice ∈ before ∧ start + budget ≤ time

/-- No expiry is told of a token that was ended before. -/
def Final (log : List (Entry ν)) : Prop :=
  ∀ before time token notice after, log = before ++ .stepped time token (.expired notice) :: after →
    .ended token ∉ before

/-- No token was ended before it was given out, nor after its lease lapsed and before that was told. -/
def Uncrossed (log : List (Entry ν)) : Prop :=
  ∀ front start since lapse back time token notice after,
    log = front ++ .began start token notice :: since ++ .stepped lapse token .lapsed :: back ++
      .stepped time token (.expired notice) :: after → .ended token ∉ front ∧ .ended token ∉ back

namespace Run

variable {budget now : Nat} {log : List (Entry ν)} {host : TimedHost ν}

/-- With every budget a lease may be ended between its lapse and the telling. -/
theorem crossed (budget : Nat) (notice : ν) :
    ∃ (since : List (Entry ν)) (host : TimedHost ν),
      Run budget (.began 0 1 notice :: since ++ [.stepped (min budget longestWait) 1 .lapsed,
        .ended 1, .stepped (min budget longestWait) 1 (.expired notice)])
        (min budget longestWait) host := by
  obtain ⟨since, host, run, lapsed⟩ := lapses budget notice
  have pending : (host.finish 1).lot 1 = ⟨none, some (.lapsed notice)⟩ := by
    rw [lot_finish, if_pos rfl, lapsed]
  have watched : ((host.finish 1).lot 1).watch ≠ none := by simp [pending]
  have tells : ((host.finish 1).step (min budget longestWait) true 1).1 = .expired notice := by
    rw [step_eq, pending]
  obtain ⟨next, run, -⟩ := (run.finish 1).taking watched tells
  exact ⟨since, next, by simpa using run⟩

theorem patient_iff (notice : ν) :
    (∀ (log : List (Entry ν)) now host, Run budget log now host → Patient budget log) ↔
      budget ≤ longestWait := by
  constructor
  · intro patient
    obtain ⟨since, host, run⟩ := crossed budget notice
    obtain ⟨start, -, past⟩ := patient _ _ _ run (.began 0 1 notice :: since ++
      [.stepped (min budget longestWait) 1 .lapsed, .ended 1]) (min budget longestWait) 1 notice []
      (by simp)
    omega
  · intro short log now host run before time token notice after here
    obtain ⟨front, start, since, lapse, back, rfl, -, due, past⟩ := run.expired here
    exact ⟨start, by simp, by omega⟩

theorem final_iff (run : Run budget log now host) : Final log ↔ Uncrossed log := by
  constructor
  · intro final front start since lapse back time token notice after here
    have unended := final _ time token notice after here
    simp only [List.mem_append, List.mem_cons, not_or] at unended
    exact ⟨unended.1.1, unended.2.2⟩
  · intro uncrossed before time token notice after here member
    obtain ⟨front, start, since, lapse, back, rfl, unended, -⟩ := run.expired here
    obtain ⟨early, late⟩ := uncrossed front start since lapse back time token notice after here
    simp [early, unended, late] at member

end Run

/-- Whatever is done, in whichever order: no token is given out twice, and no expiry is told twice. What
is told had lapsed before: since its lease was begun it had not been ended until then, and the budget was
over, or as much of it as a timer waits. So the budget is kept by all histories only if a timer can wait
so long (`Patient`); and an expiry is told of a token that was ended if the end came too early, before the
token was given out, or between the lapse and the telling (`Uncrossed`), as it may with every budget. A
lease that is not ended, and whose watcher set out as soon as it was begun, has expired once its time is
over and no watcher has anything to do, to which they can always be brought. The table holds the open
leases, each once. Which of deadline and end is looked at first plays no part; nor does anything that was
done with other tokens. -/
theorem leases_expire_once {budget now : Nat} {log : List (Entry ν)} {host : TimedHost ν}
    (run : Run budget log now host) :
    let wait := min budget longestWait
    (log.filterMap Entry.begun?).Nodup ∧
    (log.filterMap Entry.told?).Nodup ∧
    (∀ before time token notice after,
      log = before ++ .stepped time token (.expired notice) :: after →
      Overdue wait before time token notice) ∧
    (∀ _ : ν, (∀ (log' : List (Entry ν)) now' host', Run budget log' now' host' →
      Patient budget log') ↔ budget ≤ longestWait) ∧
    (Final log ↔ Uncrossed log) ∧
    (∀ notice : ν, ∃ since host', Run budget (.began 0 1 notice :: since ++
      [.stepped wait 1 .lapsed, .ended 1, .stepped wait 1 (.expired notice)]) wait host') ∧
    (∀ before start token notice after outcome,
      log = before ++ .began start token notice :: after → .ended token ∉ after →
      .stepped start token outcome ∈ log → start + wait ≤ now → host.Settled now →
      ∃ time, .stepped time token (.expired notice) ∈ log) ∧
    (∃ more next, Run budget (log ++ more) now next ∧ next.Settled now ∧
      ∀ entry ∈ more, ∃ token outcome, entry = .stepped now token outcome) ∧
    (∀ token notice, (token, notice) ∈ host.live ↔ ∃ start, Open log start token notice) ∧
    (host.live.map (·.1)).Nodup ∧
    (∀ time token, host.step time true token = host.step time false token) ∧
    (∀ log' now' host', Run budget log' now' host' → ∀ token, own token log = own token log' →
      host.lot token = host'.lot token ∧ ∀ time clockFirst,
        (host.step time clockFirst token).1 = (host'.step time clockFirst token).1) := by
  intro wait
  have kept := run.kept
  refine ⟨kept.tokens ▸ List.nodup_range', run.told_nodup, fun _ _ _ _ _ here => run.expired here,
    Run.patient_iff, run.final_iff, Run.crossed budget, ?_, run.settles, run.live_iff, kept.distinct,
    fun time token => ?_, ?_⟩
  · exact fun _ _ _ _ _ _ here unended started => run.expires here unended started
  · rw [step_eq, step_eq]
  -- What a step does depends on the lot and the budget only, and the lot on its own entries.
  · intro log' now' host' other token same
    have lots : host.lot token = host'.lot token := by rw [run.lot_eq, other.lot_eq, same]
    have budgets : host.budget = host'.budget := by rw [kept.configured, other.kept.configured]
    exact ⟨lots, fun time clockFirst => outcome_congr budgets lots time clockFirst⟩

/-- Of two leases one is ended and the other expires. The end of a token that was never given out changes
nothing. -/
theorem leases_expire_once_second :
    ∃ (log : List (Entry String)) (host : TimedHost String), Run 5 log 5 host ∧
      .began 0 2 "second" ∈ log ∧ .ended 2 ∉ log ∧ host.Settled 5 ∧
      ∃ time, .stepped time 2 (.expired "second") ∈ log := by
  have begun : Run 5 _ 0 _ := ((Run.start 0).begin "first").begin "second"
  have started := (begun.step true 1 (by decide)).step false 2 (by decide)
  have ended := ((started.finish 1).finish 9).advance 5
  have lapsed := (ended.step true 1 (by decide)).step false 2 (by decide)
  have run : Run 5 [.began 0 1 "first", .began 0 2 "second", .stepped 0 1 (.waits 5),
      .stepped 0 2 (.waits 5), .ended 1, .ended 9, .stepped 5 1 .ended, .stepped 5 2 .lapsed,
      .stepped 5 2 (.expired "second")] 5 ⟨5, 2, [], []⟩ := lapsed.step true 2 (by decide)
  have settled : Settled (⟨5, 2, [], []⟩ : TimedHost String) 5 := by
    intro token watch watching
    cases watching
  obtain ⟨-, -, -, -, -, -, expires, -⟩ := leases_expire_once run
  refine ⟨_, _, run, by simp, by simp, settled, ?_⟩
  exact expires [.began 0 1 "first"] 0 2 "second" _ (.waits 5) rfl (by simp) (by simp) (by decide)
    settled

/-- A timer waits no longer than thirty years, so a lease with a longer budget expires before its time.
And a lease that is ended when it has lapsed is told to have expired all the same. -/
theorem expiry_untimely :
    (∃ (log : List (Entry String)) (host : TimedHost String),
      Run 946080000001 log 946080000000 host ∧
      log = [.began 0 1 "a", .stepped 0 1 (.waits 946080000000), .stepped 946080000000 1 .lapsed,
        .stepped 946080000000 1 (.expired "a")] ∧
      ¬ Patient 946080000001 log) ∧
    ∃ (log : List (Entry String)) (host : TimedHost String), Run 5 log 5 host ∧
      log = [.began 0 1 "a", .stepped 0 1 (.waits 5), .stepped 5 1 .lapsed, .ended 1,
        .stepped 5 1 (.expired "a")] ∧
      ¬ Final log := by
  constructor
  · have begun : Run 946080000001 _ 0 _ := (Run.start 0).begin "a"
    have started := begun.step true 1 (by decide)
    have lapsed := (started.advance 946080000000).step true 1 (by decide)
    have run := lapsed.step true 1 (by decide)
    refine ⟨_, _, run, rfl, fun patient => ?_⟩
    obtain ⟨start, -, past⟩ := patient _ _ _ _ [] rfl
    omega
  · have begun : Run 5 _ 0 _ := (Run.start 0).begin "a"
    have started := begun.step true 1 (by decide)
    have lapsed := (started.advance 5).step true 1 (by decide)
    have run := (lapsed.finish 1).step true 1 (by decide)
    refine ⟨_, _, run, rfl, fun final => ?_⟩
    exact final _ _ _ _ [] rfl (by simp)

end TimedHost

end Sightline
