/-
Module: SakalaAgent.Transition.Runs
Layer: Transition (library)
Purpose: Executable transition systems. A step either is not possible in a state or leads to one
  next state; nondeterminism is the choice of the action. A run is a list of actions, and a
  statement about every reachable state is a statement about the end of every run.
Trusted boundary: none
Main exports: exec, Along, exec_invariant, exec_invariant_along
-/

namespace Transition

variable {σ τ α β : Type}

/-- Take the actions one after the other; `none` as soon as one of them is not possible. -/
def exec (step : σ → α → Option σ) : σ → List α → Option σ
  | s, [] => some s
  | s, action :: actions => (step s action).bind fun s' => exec step s' actions

/-- Every step of the run is taken in a state that, with the action, meets `cond`. -/
def Along (step : σ → α → Option σ) (cond : σ → α → Prop) : σ → List α → Prop
  | _, [] => True
  | s, action :: actions => cond s action ∧ ∀ s', step s action = some s' → Along step cond s' actions

section Exec

variable {step : σ → α → Option σ}

@[simp] theorem exec_nil (s : σ) : exec step s [] = some s := rfl

theorem exec_cons (s : σ) (action : α) (actions : List α) :
    exec step s (action :: actions) = (step s action).bind fun s' => exec step s' actions := rfl

theorem exec_cons_eq_some {s s' : σ} {action : α} {actions : List α} :
    exec step s (action :: actions) = some s' ↔
      ∃ mid, step s action = some mid ∧ exec step mid actions = some s' := by
  simp [exec_cons, Option.bind_eq_some_iff]

theorem exec_append (s : σ) (first second : List α) :
    exec step s (first ++ second) = (exec step s first).bind fun s' => exec step s' second := by
  induction first generalizing s with
  | nil => rfl
  | cons action actions ih =>
      rw [List.cons_append, exec_cons, exec_cons, Option.bind_assoc]
      congr 1
      funext s'
      exact ih s'

theorem along_cons {cond : σ → α → Prop} {s s' : σ} {action : α} {actions : List α}
    (stepped : step s action = some s') :
    Along step cond s (action :: actions) ↔ cond s action ∧ Along step cond s' actions := by
  simp [Along, stepped]

instance decidableAlong {cond : σ → α → Prop} [∀ s action, Decidable (cond s action)] :
    ∀ (s : σ) (actions : List α), Decidable (Along step cond s actions)
  | _, [] => .isTrue trivial
  | s, action :: actions =>
      match stepped : step s action with
      | some s' =>
          have : Decidable (Along step cond s' actions) := decidableAlong s' actions
          decidable_of_iff _ (along_cons stepped).symm
      | none => decidable_of_iff (cond s action) (by simp [Along, stepped])

/-- A condition on the actions alone holds along a run when it holds of each of its actions. -/
theorem along_of_forall {cond : α → Prop} {s : σ} {actions : List α}
    (all : ∀ action ∈ actions, cond action) : Along step (fun _ action => cond action) s actions := by
  induction actions generalizing s with
  | nil => trivial
  | cons action actions ih =>
      refine ⟨all action List.mem_cons_self, fun s' _ => ih ?_⟩
      exact fun action member => all action (List.mem_cons_of_mem _ member)

/-- The rule for conditional invariants: only steps that meet `cond` have to keep `Inv`. -/
theorem exec_invariant_along (cond : σ → α → Prop) (Inv : σ → Prop)
    (preserved : ∀ s action s', Inv s → cond s action → step s action = some s' → Inv s')
    {s s' : σ} {actions : List α} (start : Inv s) (met : Along step cond s actions)
    (run : exec step s actions = some s') : Inv s' := by
  induction actions generalizing s with
  | nil =>
      obtain rfl : s = s' := by simpa using run
      exact start
  | cons action actions ih =>
      obtain ⟨mid, first, rest⟩ := exec_cons_eq_some.mp run
      exact ih (preserved s action mid start met.1 first) (met.2 mid first) rest

/-- The rule for invariants. -/
theorem exec_invariant (Inv : σ → Prop)
    (preserved : ∀ s action s', Inv s → step s action = some s' → Inv s')
    {s s' : σ} {actions : List α} (start : Inv s) (run : exec step s actions = some s') : Inv s' :=
  exec_invariant_along (fun _ _ => True) Inv
    (fun s action s' holds _ stepped => preserved s action s' holds stepped) start
    (along_of_forall fun _ _ => trivial) run

/-- A step condition of the system that follows from another one. -/
theorem Along.mono {cond cond' : σ → α → Prop} (weaker : ∀ s action, cond s action → cond' s action)
    {s : σ} {actions : List α} (met : Along step cond s actions) : Along step cond' s actions := by
  induction actions generalizing s with
  | nil => trivial
  | cons action actions ih => exact ⟨weaker s action met.1, fun s' stepped => ih (met.2 s' stepped)⟩

/-- A step condition that follows from an invariant holds along every run. -/
theorem along_of_invariant {cond : σ → α → Prop} (Inv : σ → Prop)
    (preserved : ∀ s action s', Inv s → step s action = some s' → Inv s')
    (meets : ∀ s action, Inv s → cond s action) {s : σ} (start : Inv s) (actions : List α) :
    Along step cond s actions := by
  induction actions generalizing s with
  | nil => trivial
  | cons action actions ih =>
      refine ⟨meets s action start, ?_⟩
      intro s' stepped
      exact ih (preserved s action s' start stepped)

end Exec

end Transition
