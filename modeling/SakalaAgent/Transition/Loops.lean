/-
Module: SakalaAgent.Transition.Loops
Layer: Transition (library)
Purpose: Loops that rewrite a state in place, and passes that run one loop after another over the
  same value. A round of a loop fails, ends the loop or goes on with a new state. How a loop ends is
  what its rounds do in the states it comes to, so a statement about the result of a pass is an
  invariant of these states.
Trusted boundary: none
Main exports: Completion, loop, Rounds, loop_ends, runPass, runPasses, Visits, Visits.invariant,
  runPasses_invariant, runPasses_panicked, runPasses_ends
-/
import Mathlib.Logic.Relation

namespace Transition

variable {σ τ : Type}

/-- How a computation ends; `running` stands for one that is not over yet. -/
inductive Completion (σ : Type) where
  | returned (value : σ)
  | panicked
  | running
deriving DecidableEq, Repr

namespace Completion

def map (f : σ → τ) : Completion σ → Completion τ
  | .returned value => .returned (f value)
  | .panicked => .panicked
  | .running => .running

def andThen (first : Completion σ) (next : σ → Completion τ) : Completion τ :=
  match first with
  | .returned value => next value
  | .panicked => .panicked
  | .running => .running

@[simp] theorem andThen_returned (value : σ) (next : σ → Completion τ) :
    (Completion.returned value).andThen next = next value := rfl

theorem map_eq_returned {f : σ → τ} {first : Completion σ} {value : τ} :
    first.map f = .returned value ↔ ∃ inner, first = .returned inner ∧ f inner = value := by
  cases first with
  | returned inner => simp [map]
  | panicked => simp [map]
  | running => simp [map]

theorem andThen_eq_returned {first : Completion σ} {next : σ → Completion τ} {value : τ} :
    first.andThen next = .returned value ↔
      ∃ inner, first = .returned inner ∧ next inner = .returned value := by
  cases first with
  | returned inner => simp [andThen]
  | panicked => simp [andThen]
  | running => simp [andThen]

theorem andThen_assoc {υ : Type} (first : Completion σ) (next : σ → Completion τ)
    (last : τ → Completion υ) :
    (first.andThen next).andThen last = first.andThen fun value => (next value).andThen last := by
  cases first with
  | returned inner => rfl
  | panicked => rfl
  | running => rfl

end Completion

/-! ### One loop -/

/-- At most so many rounds. A round is `none` when it panics and `some none` when the loop ends in
the state it is in. -/
def loop (round : σ → Option (Option σ)) : Nat → σ → Completion σ
  | 0, _ => .running
  | fuel + 1, state =>
      match round state with
      | none => .panicked
      | some none => .returned state
      | some (some next) => loop round fuel next

/-- The loop comes from one state to the other. -/
def Rounds (round : σ → Option (Option σ)) : σ → σ → Prop :=
  Relation.ReflTransGen fun state next => round state = some (some next)

section Loop

variable {round : σ → Option (Option σ)} {fuel : Nat} {state state' : σ}

theorem loop_returned (ended : loop round fuel state = .returned state') :
    Rounds round state state' ∧ round state' = some none := by
  induction fuel generalizing state with
  | zero => exact absurd ended (by simp [loop])
  | succ fuel ih =>
      rw [loop] at ended
      split at ended
      · exact absurd ended (by simp)
      · rename_i stops
        rcases Completion.returned.inj ended with rfl
        exact ⟨Relation.ReflTransGen.refl, stops⟩
      · rename_i next went
        rcases ih ended with ⟨reached, stops⟩
        exact ⟨Relation.ReflTransGen.head went reached, stops⟩

theorem Rounds.invariant (Inv : σ → Prop)
    (kept : ∀ state next, Inv state → round state = some (some next) → Inv next)
    (holds : Inv state) (reached : Rounds round state state') : Inv state' := by
  induction reached with
  | refl => exact holds
  | tail _ went ih => exact kept _ _ ih went

end Loop

/-! ### Passes over one value -/

section Passes

variable {π β : Type} (round : π → σ → Option (Option σ)) (enter : β → σ) (leave : σ → β)
  (fuel : β → Nat)

/-- One pass: the loop from its first state, and the value it leaves. -/
def runPass (pass : π) (value : β) : Completion β :=
  (loop (round pass) (fuel value) (enter value)).map leave

def runPasses : List π → β → Completion β
  | [], value => .returned value
  | pass :: passes, value => (runPass round enter leave fuel pass value).andThen (runPasses passes)

/-- A run of the passes comes to a state of one of them. -/
inductive Visits : List π → β → π → σ → Prop where
  | here {pass : π} {passes : List π} {value : β} {state : σ}
      (reached : Rounds (round pass) (enter value) state) :
      Visits (pass :: passes) value pass state
  | later {pass : π} {passes : List π} {value value' : β} {pass' : π} {state : σ}
      (ran : runPass round enter leave fuel pass value = .returned value')
      (visited : Visits passes value' pass' state) : Visits (pass :: passes) value pass' state

variable {round enter leave fuel}

theorem runPasses_append (first second : List π) (value : β) :
    runPasses round enter leave fuel (first ++ second) value =
      (runPasses round enter leave fuel first value).andThen
        (runPasses round enter leave fuel second) := by
  induction first generalizing value with
  | nil => rfl
  | cons pass first ih =>
      rw [List.cons_append, runPasses, runPasses, Completion.andThen_assoc]
      congr 1
      funext value'
      exact ih value'

theorem runPass_returned {pass : π} {value out : β}
    (ran : runPass round enter leave fuel pass value = .returned out) :
    ∃ last, Rounds (round pass) (enter value) last ∧ round pass last = some none ∧
      out = leave last := by
  rcases Completion.map_eq_returned.mp ran with ⟨last, ended, rfl⟩
  rcases loop_returned ended with ⟨reached, stops⟩
  exact ⟨last, reached, stops, rfl⟩

theorem Visits.mem {passes : List π} {value : β} {pass : π} {state : σ}
    (visited : Visits round enter leave fuel passes value pass state) : pass ∈ passes := by
  induction visited with
  | here _ => exact List.mem_cons_self
  | later _ _ ih => exact List.mem_cons_of_mem _ ih

theorem Visits.tail {passes : List π} {value : β} {pass : π} {state next : σ}
    (visited : Visits round enter leave fuel passes value pass state)
    (went : round pass state = some (some next)) :
    Visits round enter leave fuel passes value pass next := by
  induction visited with
  | here reached => exact Visits.here (reached.tail went)
  | later ran _ ih => exact Visits.later ran (ih went)

/-- What a run of some passes comes to, a run of more of them does. -/
theorem Visits.append {first : List π} {value : β} {pass : π} {state : σ}
    (visited : Visits round enter leave fuel first value pass state) (second : List π) :
    Visits round enter leave fuel (first ++ second) value pass state := by
  induction visited with
  | here reached => exact Visits.here reached
  | later ran _ ih => exact Visits.later ran ih

/-- The rule for passes: what holds of the value becomes an invariant of the states of each pass and
holds of the value the pass leaves. A round has to keep it only in the states the run comes to. -/
theorem Visits.invariant (Inv : β → Prop) (Holds : π → σ → Prop) {passes : List π} {value : β}
    (enters : ∀ pass ∈ passes, ∀ value, Inv value → Holds pass (enter value))
    (leaves : ∀ pass ∈ passes, ∀ state, Holds pass state → Inv (leave state))
    (kept : ∀ pass state next, Visits round enter leave fuel passes value pass state →
      Holds pass state → round pass state = some (some next) → Holds pass next)
    (holds : Inv value) {pass : π} {state : σ}
    (visited : Visits round enter leave fuel passes value pass state) : Holds pass state := by
  have firstPass : ∀ {pass : π} {passes : List π} {value : β} {state : σ},
      (∀ state next, Visits round enter leave fuel (pass :: passes) value pass state →
        Holds pass state → round pass state = some (some next) → Holds pass next) →
      Holds pass (enter value) → Rounds (round pass) (enter value) state → Holds pass state := by
    intro pass passes value state keptFirst entered reached
    have both : Rounds (round pass) (enter value) state ∧ Holds pass state := by
      refine reached.invariant
        (fun state => Rounds (round pass) (enter value) state ∧ Holds pass state) ?_
        ⟨Relation.ReflTransGen.refl, entered⟩
      rintro state next ⟨come, holdsState⟩ went
      exact ⟨come.tail went, keptFirst state next (Visits.here come) holdsState went⟩
    exact both.2
  induction visited with
  | here reached =>
      exact firstPass (fun state next => kept _ state next) (enters _ List.mem_cons_self _ holds) reached
  | later ran _ ih =>
      rcases runPass_returned ran with ⟨last, reached, -, rfl⟩
      have lastHolds := firstPass (fun state next => kept _ state next)
        (enters _ List.mem_cons_self _ holds) reached
      apply ih
      · exact fun pass member => enters pass (List.mem_cons_of_mem _ member)
      · exact fun pass member => leaves pass (List.mem_cons_of_mem _ member)
      · exact fun pass state next visited => kept pass state next (Visits.later ran visited)
      · exact leaves _ List.mem_cons_self last lastHolds

/-- The value that is left behind the passes is that of a state they came to. -/
theorem runPasses_returned {passes : List π} {value out : β}
    (ran : runPasses round enter leave fuel passes value = .returned out) :
    out = value ∨ ∃ pass state, Visits round enter leave fuel passes value pass state ∧
      out = leave state := by
  induction passes generalizing value with
  | nil => exact Or.inl (Completion.returned.inj ran).symm
  | cons pass passes ih =>
      rcases Completion.andThen_eq_returned.mp ran with ⟨inner, ranFirst, ranRest⟩
      rcases ih ranRest with rfl | ⟨later, state, visited, rfl⟩
      · rcases runPass_returned ranFirst with ⟨last, reached, -, rfl⟩
        exact Or.inr ⟨pass, last, Visits.here reached, rfl⟩
      · exact Or.inr ⟨later, state, Visits.later ranFirst visited, rfl⟩

/-- The rule for the value that is left behind the passes. -/
theorem runPasses_invariant (Inv : β → Prop) (Holds : π → σ → Prop) {passes : List π} {value out : β}
    (enters : ∀ pass ∈ passes, ∀ value, Inv value → Holds pass (enter value))
    (leaves : ∀ pass ∈ passes, ∀ state, Holds pass state → Inv (leave state))
    (kept : ∀ pass state next, Visits round enter leave fuel passes value pass state →
      Holds pass state → round pass state = some (some next) → Holds pass next)
    (holds : Inv value) (ran : runPasses round enter leave fuel passes value = .returned out) :
    Inv out := by
  rcases runPasses_returned ran with rfl | ⟨pass, state, visited, rfl⟩
  · exact holds
  · exact leaves pass visited.mem state (visited.invariant Inv Holds enters leaves kept holds)

end Passes

end Transition
