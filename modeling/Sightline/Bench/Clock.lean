/-! A stopped clock that moves only when told to, and the timers that wait for it. -/

set_option autoImplicit false

namespace Sightline.Bench

structure Clock (Job : Type) where
  now : Nat := 0
  timers : List (Nat × Job) := []

namespace Clock

variable {Job : Type}

def set (clock : Clock Job) (deadline : Nat) (job : Job) : Clock Job :=
  { clock with timers := clock.timers ++ [(deadline, job)] }

/-- Moves the clock; gives the jobs that are due, by deadline, and in the order in which their timers
were set where deadlines are equal. -/
def advance (clock : Clock Job) (millis : Nat) : List Job × Clock Job :=
  let now := clock.now + millis
  let due := (clock.timers.filter (·.1 ≤ now)).mergeSort (·.1 ≤ ·.1)
  (due.map (·.2), { now, timers := clock.timers.filter (now < ·.1) })

end Clock

end Sightline.Bench
