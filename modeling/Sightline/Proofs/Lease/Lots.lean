import Sightline.Lease.Timed

/-! What a timed host holds for a token (`Lot`), and what is done with a token.

A step of a watcher is one of five (`Taken`), settled by the token's lot alone (`step_eq`). Whatever is done
with a token changes its own lot as `Lot.after` says and leaves those of others alone (`Moved`). -/

set_option autoImplicit false

namespace Sightline

namespace TimedHost

/-! ### What a table holds for a token -/

section Lookup

variable {β : Type}

def row? (table : List (Token × β)) (token : Token) : Option β :=
  (table.find? (·.1 = token)).map (·.2)

theorem row?_cons (other : Token) (value : β) (table : List (Token × β)) (token : Token) :
    row? ((other, value) :: table) token
      = if token = other then some value else row? table token := by
  by_cases same : token = other
  · simp [row?, same]
  · simp [row?, same, Ne.symm same]

theorem row?_concat (table : List (Token × β)) (other : Token) (value : β) (token : Token) :
    row? (table ++ [(other, value)]) token
      = (row? table token).or (if token = other then some value else none) := by
  induction table with
  | nil =>
    rw [List.nil_append, row?_cons]
    rfl
  | cons head rest ih =>
    rw [List.cons_append, row?_cons, row?_cons, ih]
    split <;> simp

theorem row?_filter (table : List (Token × β)) (gone token : Token) :
    row? (table.filter (·.1 ≠ gone)) token
      = if token = gone then none else row? table token := by
  induction table with
  | nil => simp [row?]
  | cons head rest ih =>
    obtain ⟨other, value⟩ := head
    by_cases drop : other = gone
    · rw [List.filter_cons_of_neg (by simp [drop]), ih, row?_cons, drop]
      split <;> simp_all
    · rw [List.filter_cons_of_pos (by simp [drop]), row?_cons, ih, row?_cons]
      split <;> simp_all

theorem row?_replace (table : List (Token × β)) (changed : Token) (value : β) (token : Token) :
    row? (table.map fun (other, held) =>
        if other = changed then (other, value) else (other, held)) token
      = if token = changed then (row? table token).map fun _ => value else row? table token := by
  induction table with
  | nil => simp [row?]
  | cons head rest ih =>
    obtain ⟨other, held⟩ := head
    rw [List.map_cons, row?_cons]
    by_cases here : other = changed
    · simp only [here, if_true]
      rw [row?_cons, ih]
      split <;> simp
    · simp only [here, if_false]
      rw [row?_cons, ih]
      split <;> simp_all

theorem row?_eq_none {table : List (Token × β)} {token : Token} :
    row? table token = none ↔ ∀ pair ∈ table, pair.1 ≠ token := by
  simp [row?]

theorem row?_eq_some {table : List (Token × β)} (distinct : (table.map (·.1)).Nodup)
    {token : Token} {value : β} : row? table token = some value ↔ (token, value) ∈ table := by
  induction table with
  | nil => simp [row?]
  | cons head rest ih =>
    obtain ⟨other, held⟩ := head
    rw [List.map_cons, List.nodup_cons] at distinct
    rw [row?_cons, List.mem_cons, Prod.mk.injEq]
    by_cases same : token = other
    · subst same
      have absent : (token, value) ∉ rest :=
        fun member => distinct.1 (List.mem_map.mpr ⟨_, member, rfl⟩)
      simp [absent, eq_comm]
    · simp [same, ih distinct.2]

end Lookup

/-! ### What a host holds for a token -/

/-- The notice of a live lease, and how far its watcher has got if it has not finished. -/
structure Lot (ν : Type) where
  notice : Option ν := none
  watch : Option (Watch ν) := none

inductive Entry (ν : Type) where
  | began (now : Nat) (token : Token) (notice : ν)
  | ended (token : Token)
  /-- A step of the watcher. -/
  | stepped (now : Nat) (token : Token) (outcome : Outcome ν)

variable {ν : Type}

namespace Entry

def token : Entry ν → Token
  | .began _ token _ => token
  | .ended token => token
  | .stepped _ token _ => token

def begun? : Entry ν → Option Token
  | .began _ token _ => some token
  | _ => none

def told? : Entry ν → Option Token
  | .stepped _ token (.expired _) => some token
  | _ => none

end Entry

def Lot.after (lot : Lot ν) : Entry ν → Lot ν
  | .began _ _ notice => ⟨some notice, some (.waiting none)⟩
  | .ended _ => { lot with notice := none }
  | .stepped _ _ (.waits deadline) => { lot with watch := some (.waiting (some deadline)) }
  | .stepped _ _ .lapsed => ⟨none, lot.notice.map .lapsed⟩
  | .stepped _ _ .ended | .stepped _ _ (.expired _) => { lot with watch := none }

def lot (host : TimedHost ν) (token : Token) : Lot ν :=
  ⟨row? host.live token, row? host.watchers token⟩

def deadline (host : TimedHost ν) (now : Nat) (set : Option Nat) : Nat :=
  set.getD (now + min host.budget longestWait)

theorem finish_of_absent {host : TimedHost ν} {token : Token}
    (absent : (host.lot token).notice = none) : host.finish token = host := by
  have kept : host.live.filter (·.1 ≠ token) = host.live :=
    List.filter_eq_self.mpr fun pair member => by
      simpa using row?_eq_none.mp absent pair member
  rw [finish, kept]

/-- What a step does is settled by what the host holds for the token. Which of deadline and end is looked
at first plays no part. -/
theorem step_eq (host : TimedHost ν) (now : Nat) (clockFirst : Bool) (token : Token) :
    host.step now clockFirst token =
      match host.lot token with
      | ⟨_, none⟩ => (.ended, host)
      | ⟨_, some (.lapsed notice)⟩ => (.expired notice, host.unwatch token)
      | ⟨none, some (.waiting _)⟩ => (.ended, host.unwatch token)
      | ⟨some notice, some (.waiting set)⟩ =>
        if host.deadline now set ≤ now then
          (.lapsed, (host.finish token).rewatch token (.lapsed notice))
        else
          (.waits (host.deadline now set),
            host.rewatch token (.waiting (some (host.deadline now set)))) := by
  unfold step
  cases found : host.watchers.find? (·.1 = token) with
  | none => simp [lot, row?, found]
  | some pair =>
    obtain ⟨other, watch⟩ := pair
    have watching : row? host.watchers token = some watch := by simp [row?, found]
    cases watch with
    | lapsed notice => simp [lot, watching]
    | waiting set =>
      cases live : host.notice? token with
      | none =>
        -- Ending a lease that is not live does nothing, so here the two orders come to the same.
        have same := finish_of_absent (show (host.lot token).notice = none from live)
        simp [lot, show row? host.live token = none from live, watching, same]
      | some notice =>
        rw [lot, watching, show row? host.live token = some notice from live]
        simp only [deadline, Option.isNone_some, Bool.not_false, Bool.or_true, Bool.and_true,
          decide_eq_true_eq, Bool.false_eq_true, if_false]
        rfl

theorem outcome_due {host : TimedHost ν} {now : Nat} {token : Token} {notice : ν} {set : Option Nat}
    (held : host.lot token = ⟨some notice, some (.waiting set)⟩) (due : host.deadline now set ≤ now)
    (clockFirst : Bool) : (host.step now clockFirst token).1 = .lapsed := by
  rw [step_eq, held]
  exact congrArg Prod.fst (if_pos due)

theorem outcome_ahead {host : TimedHost ν} {now : Nat} {token : Token} {notice : ν} {set : Option Nat}
    (held : host.lot token = ⟨some notice, some (.waiting set)⟩) (ahead : now < host.deadline now set)
    (clockFirst : Bool) :
    (host.step now clockFirst token).1 = .waits (host.deadline now set) := by
  rw [step_eq, held]
  exact congrArg Prod.fst (if_neg (Nat.not_le_of_lt ahead))

theorem outcome_congr {host host' : TimedHost ν} {token : Token} (budgets : host.budget = host'.budget)
    (lots : host.lot token = host'.lot token) (now : Nat) (clockFirst : Bool) :
    (host.step now clockFirst token).1 = (host'.step now clockFirst token).1 := by
  rw [step_eq, step_eq, lots]
  rcases host'.lot token with ⟨_ | notice, _ | set | told⟩
  · rfl
  · rfl
  · rfl
  · rfl
  · have ends : host.deadline now set = host'.deadline now set := by rw [deadline, deadline, budgets]
    simp only [ends]
    split <;> rfl
  · rfl

inductive Taken (host : TimedHost ν) (now : Nat) (token : Token) (taken : Outcome ν × TimedHost ν) :
    Prop where
  | idle (idle : (host.lot token).watch = none) (took : taken = (.ended, host))
  | tells {held : Option ν} {notice : ν} (lot : host.lot token = ⟨held, some (.lapsed notice)⟩)
      (took : taken = (.expired notice, host.unwatch token))
  | ends {set : Option Nat} (lot : host.lot token = ⟨none, some (.waiting set)⟩)
      (took : taken = (.ended, host.unwatch token))
  | lapses {notice : ν} {set : Option Nat} (lot : host.lot token = ⟨some notice, some (.waiting set)⟩)
      (due : host.deadline now set ≤ now)
      (took : taken = (.lapsed, (host.finish token).rewatch token (.lapsed notice)))
  | waits {notice : ν} {set : Option Nat} (lot : host.lot token = ⟨some notice, some (.waiting set)⟩)
      (ahead : now < host.deadline now set)
      (took : taken = (.waits (host.deadline now set),
        host.rewatch token (.waiting (some (host.deadline now set)))))

theorem taken (host : TimedHost ν) (now : Nat) (clockFirst : Bool) (token : Token) :
    Taken host now token (host.step now clockFirst token) := by
  have does := host.step_eq now clockFirst token
  cases held : host.lot token with
  | mk notice watch =>
    rw [held] at does
    match notice, watch with
    | _, none => exact .idle (by rw [held]) does
    | _, some (.lapsed _) => exact .tells held does
    | none, some (.waiting _) => exact .ends held does
    | some _, some (.waiting set) =>
      by_cases due : host.deadline now set ≤ now
      · exact .lapses held due (does.trans (if_pos due))
      · exact .waits held (Nat.lt_of_not_le due) (does.trans (if_neg due))

theorem lot_finish (host : TimedHost ν) (gone token : Token) :
    (host.finish gone).lot token
      = if token = gone then { host.lot token with notice := none } else host.lot token := by
  simp only [lot, finish, row?_filter]
  split <;> rfl

theorem lot_unwatch (host : TimedHost ν) (gone token : Token) :
    (host.unwatch gone).lot token
      = if token = gone then { host.lot token with watch := none } else host.lot token := by
  simp only [lot, unwatch, row?_filter]
  split <;> rfl

theorem lot_rewatch (host : TimedHost ν) (changed : Token) (watch : Watch ν) (token : Token) :
    (host.rewatch changed watch).lot token
      = if token = changed then
          { host.lot token with watch := (host.lot token).watch.map fun _ => watch }
        else host.lot token := by
  simp only [lot, rewatch, row?_replace]
  split <;> rfl

/-- The entry says what the next host holds for its token; for all others the host holds what it held. -/
def Moved (host : TimedHost ν) (last : Entry ν) (next : TimedHost ν) : Prop :=
  ∀ token, next.lot token
    = if token = last.token then (host.lot token).after last else host.lot token

theorem moved_begin {host : TimedHost ν} (fresh : host.lot (host.issued + 1) = {}) (now : Nat)
    (notice : ν) : host.Moved (.began now (host.begin notice).1 notice) (host.begin notice).2 := by
  intro token
  simp only [lot, Lot.mk.injEq] at fresh
  simp only [lot, begin, row?_concat, Entry.token, Lot.after]
  by_cases same : token = host.issued + 1
  · simp [same, fresh]
  · simp [same]

theorem moved_finish (host : TimedHost ν) (gone : Token) :
    host.Moved (.ended gone) (host.finish gone) :=
  host.lot_finish gone

theorem moved_step {host : TimedHost ν} {changed : Token}
    (watched : (host.lot changed).watch ≠ none) (now : Nat) (clockFirst : Bool) :
    host.Moved (.stepped now changed (host.step now clockFirst changed).1)
      (host.step now clockFirst changed).2 := by
  intro token
  cases host.taken now clockFirst changed with
  | idle idle => exact (watched idle).elim
  | tells _ took | ends _ took =>
    rw [took]
    exact lot_unwatch host changed token
  | lapses held _ took =>
    rw [took, lot_rewatch, lot_finish, Entry.token]
    split
    · next here => simp [here, held, Lot.after]
    · rfl
  | waits held _ took =>
    rw [took, lot_rewatch, Entry.token]
    split
    · next here => rw [here, held, Lot.after, Option.map_some]
    · rfl

theorem step_fields (host : TimedHost ν) (now : Nat) (clockFirst : Bool) (token : Token) :
    (host.step now clockFirst token).2.budget = host.budget ∧
      (host.step now clockFirst token).2.issued = host.issued ∧
      (host.step now clockFirst token).2.live.Sublist host.live := by
  cases host.taken now clockFirst token with
  | idle _ took | tells _ took | ends _ took | waits _ _ took =>
    rw [took]
    exact ⟨rfl, rfl, List.Sublist.refl _⟩
  | lapses _ _ took =>
    rw [took]
    exact ⟨rfl, rfl, List.filter_sublist⟩

end TimedHost

end Sightline
