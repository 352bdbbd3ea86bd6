import Sightline.Proofs.Link.Invariant
import Sightline.Proofs.Link.Moves

/-! Runs of a connection that remember what was done.

A run leaves its steps behind, the latest first, so that a property can speak of everything since some
event (`LinkStep.since`). What holds at the start and is kept by all the ways in which an operation is
applied holds after every run (`Manager.Run.holds`). -/

set_option autoImplicit false

namespace Sightline

/-- One operation of a run: the manager that it met and the one that it left, and what it asked of the
radio. -/
structure LinkStep where
  before : Manager
  operation : LinkOperation
  after : Manager
  asked : List RadioRequest

/-- The radio reported that it is off, or that it does not know. -/
def LinkStep.losesPower (step : LinkStep) : Bool :=
  match step.operation with
  | .report (.power power) => power ≠ .on
  | _ => false

/-- The steps since the last one that is marked, the latest first; all of them if none is. -/
def LinkStep.since (marked : LinkStep → Bool) (past : List LinkStep) : List LinkStep :=
  past.takeWhile fun step => !marked step

@[simp] theorem LinkStep.since_nil (marked : LinkStep → Bool) : since marked [] = [] := rfl

theorem LinkStep.since_cons (marked : LinkStep → Bool) (step : LinkStep) (past : List LinkStep) :
    since marked (step :: past) = if marked step then [] else step :: since marked past := by
  cases same : marked step <;> simp [since, same]

theorem LinkStep.since_subset (marked : LinkStep → Bool) (past : List LinkStep) :
    since marked past ⊆ past :=
  (List.takeWhile_sublist _).subset

namespace Manager

def step {ω : Type} [Radio ω] [Streams ω] [IdentityStore ω] (manager : Manager)
    (settings : RadioSettings) (world : ω) (operation : LinkOperation) : LinkStep where
  before := manager
  operation
  after := (LinkTurn.operate { manager, world } settings operation).manager
  asked := (LinkTurn.operate { manager, world } settings operation).requests

/-- A manager and the steps that led to it from a new one. As in `Reachable`, the surroundings may become
anything between two steps. -/
inductive Run (ω : Type) [Radio ω] [Streams ω] [IdentityStore ω] (settings : RadioSettings) :
    List LinkStep → Manager → Prop where
  | new : Run ω settings [] {}
  | step {past : List LinkStep} {manager : Manager} (operation : LinkOperation) (world : ω) :
      Run ω settings past manager →
      Run ω settings (manager.step settings world operation :: past)
        (manager.step settings world operation).after

variable {ω : Type} [Radio ω] [Streams ω] [IdentityStore ω] {settings : RadioSettings}
  {past : List LinkStep} {manager : Manager}

theorem Run.reachable (run : Run ω settings past manager) : manager.Reachable ω settings := by
  induction run with
  | new => exact .new
  | step operation world _ ih => exact ih.step operation world

theorem Run.consistent (run : Run ω settings past manager) : manager.Consistent :=
  consistent_of_reachable run.reachable

/-- What a run keeps, from what its steps keep. -/
@[elab_as_elim] theorem Run.holds {kept : List LinkStep → Manager → Prop} (new : kept [] {})
    (step : ∀ past step, Run ω settings past step.before →
      Operates settings step.before step.operation step.after step.asked →
      kept past step.before → kept (step :: past) step.after)
    (run : Run ω settings past manager) : kept past manager := by
  induction run with
  | new => exact new
  | @step past manager operation world before ih =>
    exact step past (manager.step settings world operation) before
      (operates settings manager world operation) ih

theorem Run.operated (run : Run ω settings past manager) : ∀ step ∈ past,
    step.before.Consistent ∧
      Operates settings step.before step.operation step.after step.asked := by
  induction run with
  | new => simp
  | step operation world before ih =>
    refine List.forall_mem_cons.mpr ⟨⟨before.consistent, ?_⟩, ih⟩
    exact operates settings _ world operation

end Manager

end Sightline
