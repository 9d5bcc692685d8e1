/-
Module: SakalaAgent.Async.Answers
Layer: Async (library)
Purpose: Programs in surroundings whose answers can be relied on. As long as every answer is good, a
  program asks only for what is allowed, and its results are what they should be. In a pool whose
  surroundings give good answers, no thread ever asks for anything else.
Trusted boundary: none
Main exports: Prog.Given, Prog.given_bind, Prog.given_race, Fallible.given_bind,
  Fallible.given_perform, Pool.Given, Pool.Given.changes, Pool.Given.step
-/
import SakalaAgent.Async.Interleaving

namespace Async

namespace Prog

variable {I : Interface} {α β : Type} {good : (op : I.Op) → I.Res op → Prop} {ok : I.Op → Prop}
  {P Q : α → Prop} {Q' : β → Prop}

/-- As long as it is given good answers, the program asks only for what is `ok`, and ends in `Q`. -/
def Given (good : (op : I.Op) → I.Res op → Prop) (ok : I.Op → Prop) (Q : α → Prop) :
    Prog I α → Prop
  | .ret value => Q value
  | .call op next => ok op ∧ ∀ res, good op res → (next res).Given good ok Q
  | .abandon op next => ok op ∧ next.Given good ok Q
  | .alarm _ _ fired quiet => fired.Given good ok Q ∧ quiet.Given good ok Q

theorem Given.mono {p : Prog I α} (given : p.Given good ok P) (weaker : ∀ value, P value → Q value) :
    p.Given good ok Q := by
  induction p with
  | ret value => exact weaker value given
  | call op next ih => exact ⟨given.1, fun res isGood => ih res (given.2 res isGood)⟩
  | abandon op next ih => exact ⟨given.1, ih given.2⟩
  | alarm which op fired quiet ihFired ihQuiet => exact ⟨ihFired given.1, ihQuiet given.2⟩

/-- What asks for nothing else whatever it is answered. -/
theorem given_of_allOps {p : Prog I α} (ops : p.AllOps ok) : p.Given good ok fun _ => True := by
  induction p with
  | ret value => trivial
  | call op next ih => exact ⟨ops.1, fun res _ => ih res (ops.2 res)⟩
  | abandon op next ih => exact ⟨ops.1, ih ops.2⟩
  | alarm which op fired quiet ihFired ihQuiet => exact ⟨ihFired ops.1, ihQuiet ops.2⟩

theorem given_bind {p : Prog I α} {f : α → Prog I β} (first : p.Given good ok P)
    (rest : ∀ value, P value → (f value).Given good ok Q') : (p.bind f).Given good ok Q' := by
  induction p with
  | ret value => exact rest value first
  | call op next ih => exact ⟨first.1, fun res isGood => ih res (first.2 res isGood)⟩
  | abandon op next ih => exact ⟨first.1, ih first.2⟩
  | alarm which op fired quiet ihFired ihQuiet => exact ⟨ihFired first.1, ihQuiet first.2⟩

/-- A future that is dropped gives up what it waits for. -/
theorem given_drop {p : Prog I α} {after : Prog I β} (given : p.Given good ok P)
    (rest : after.Given good ok Q') : (p.drop after).Given good ok Q' := by
  cases p with
  | call op next => exact ⟨given.1, rest⟩
  | ret | abandon | alarm => exact rest

theorem given_race {which : I.Alarm} {onFired : Prog I α → Prog I β} {done : α → β} {p : Prog I α}
    (given : p.Given good ok P)
    (handled : ∀ rest : Prog I α, rest.Given good ok P → (onFired rest).Given good ok Q')
    (finished : ∀ value, P value → Q' (done value)) :
    (p.race which onFired done).Given good ok Q' := by
  induction p with
  | ret value => exact finished value given
  | call op next ih =>
      have waiting : (Prog.call op fun res => (next res).race which onFired done).Given good ok Q' :=
        ⟨given.1, fun res isGood => ih res (given.2 res isGood)⟩
      simp only [race]
      split
      · exact ⟨handled _ given, waiting⟩
      · exact waiting
  | abandon op next ih => exact ⟨given.1, ih given.2⟩
  | alarm other op fired quiet ihFired ihQuiet => exact ⟨ihFired given.1, ihQuiet given.2⟩

end Prog

namespace Fallible

variable {I : Interface} {ε ε' α β : Type} {good : (op : I.Op) → I.Res op → Prop}
  {ok : I.Op → Prop}

/-- A future that keeps to what is `ok` as long as it is given good answers; `Q` holds of its values. -/
def Given (good : (op : I.Op) → I.Res op → Prop) (ok : I.Op → Prop) (Q : α → Prop)
    (p : Fallible I ε α) : Prop :=
  p.run.Given good ok fun outcome => ∀ value, outcome = .ok value → Q value

variable {P : α → Prop} {Q : β → Prop}

theorem given_of_allOps {p : Fallible I ε α} (ops : AllOps ok p) : Given good ok (fun _ => True) p :=
  (Prog.given_of_allOps ops).mono fun _ _ _ _ => trivial

theorem given_pure {value : α} (holds : P value) : Given good ok P (pure value : Fallible I ε α) := by
  rintro _ ⟨⟩
  exact holds

theorem given_throw (error : ε) : Given good ok P (throw error : Fallible I ε α) :=
  nofun

theorem given_bind {p : Fallible I ε α} {f : α → Fallible I ε β} (first : Given good ok P p)
    (rest : ∀ value, P value → Given good ok Q (f value)) : Given good ok Q (p >>= f) := by
  apply Prog.given_bind first
  rintro (error | value) holds
  · exact nofun
  · exact rest value (holds value rfl)

/-- The first future does nothing that depends on its answers. -/
theorem given_allOps_bind {p : Fallible I ε α} {f : α → Fallible I ε β} (ops : AllOps ok p)
    (rest : ∀ value, Given good ok Q (f value)) : Given good ok Q (p >>= f) :=
  given_bind (given_of_allOps ops) fun value _ => rest value

theorem given_perform {op : I.Op} {f : I.Res op → Fallible I ε β} (isOk : ok op)
    (rest : ∀ res, good op res → Given good ok Q (f res)) :
    Given good ok Q (perform op >>= f : Fallible I ε β) :=
  ⟨isOk, rest⟩

theorem given_attempt {p : Fallible I ε' α} {Q : Except ε' α → Prop} (given : Given good ok P p)
    (all : ∀ outcome, Q outcome) : Given good ok Q (attempt p : Fallible I ε (Except ε' α)) := by
  apply Prog.given_bind given
  rintro outcome _ _ ⟨⟩
  exact all outcome

theorem given_forM {items : List α} {f : α → Fallible I ε PUnit}
    (each : ∀ item ∈ items, Given good ok (fun _ => True) (f item)) :
    Given good ok (fun _ => True) (forM items f) := by
  induction items with
  | nil => exact given_pure trivial
  | cons item items ih =>
      apply given_bind (each item List.mem_cons_self)
      exact fun _ _ => ih fun other member => each other (List.mem_cons_of_mem _ member)

end Fallible

/-! ### Pools -/

namespace Pool

variable {I : Interface} {W ι α : Type} {good : (op : I.Op) → I.Res op → Prop} {ok : I.Op → Prop}

/-- What remains of each thread keeps to what is `ok` as long as it is given good answers. -/
def Given (good : (op : I.Op) → I.Res op → Prop) (ok : I.Op → Prop) (s : Pool I W ι α) : Prop :=
  ∀ thread program, s.program thread = some program → program.Given good ok fun _ => True

variable [DecidableEq ι] {T : Threads I W ι α} {s s' : Pool I W ι α} {action : Action I ι α}

/-- How the world comes from one state of a pool to the next. -/
inductive Changes (T : Threads I W ι α) (ok : I.Op → Prop) (s s' : Pool I W ι α) :
    Action I ι α → Prop where
  | same {action : Action I ι α} (answered : ∀ thread op res, action ≠ .act thread (.done op res))
      (unchanged : s'.world = s.world) : Changes T ok s s' action
  | done {thread : ι} {op : I.Op} {res : I.Res op} (isOk : ok op)
      (step : (T.semantics thread).step s.world op res s'.world) :
      Changes T ok s s' (.act thread (.done op res))
  | abandoned {thread : ι} {op : I.Op} {outcome : Option (I.Res op)} (isOk : ok op)
      (left : (T.semantics thread).leave s.world op outcome s'.world) :
      Changes T ok s s' (.act thread (.abandoned op outcome))
  | drift {thread : ι} (drift : (T.semantics thread).drift s.world s'.world) :
      Changes T ok s s' .drift

/-- What is asked for in a step is allowed. -/
theorem Given.changes (given : Given good ok s) (stepped : Step T s action s') :
    Changes T ok s s' action := by
  cases stepped with
  | start | fired | quiet | drop => exact .same nofun rfl
  | done running step => exact .done (given _ _ running).1 step
  | abandoned running left => exact .abandoned (given _ _ running).1 left
  | drift drift => exact .drift drift

/-- A step with a good answer keeps every thread to what is allowed. -/
theorem Given.step (given : Given good ok s) (stepped : Step T s action s')
    (answered : ∀ thread op res, action = .act thread (.done op res) → good op res)
    (started : ∀ thread program, T.starts thread program → program.Given good ok fun _ => True)
    (dropped : ∀ thread, (T.onDrop thread).Given good ok fun _ => True) : Given good ok s' := by
  have moved : ∀ {thread : ι} {rest : Prog I α}, rest.Given good ok (fun _ => True) →
      s'.program = Function.update s.program thread (some rest) → Given good ok s' := by
    intro thread rest own programs other program running
    rw [programs] at running
    by_cases same : other = thread
    · subst same
      rw [Function.update_self] at running
      exact Option.some.inj running ▸ own
    · rw [Function.update_of_ne same] at running
      exact given other program running
  cases stepped with
  | start fresh starts => exact moved (started _ _ starts) rfl
  | @done thread op next res world running step =>
      exact moved ((given _ _ running).2 res (answered thread op res rfl)) rfl
  | abandoned running left => exact moved (given _ _ running).2 rfl
  | fired running => exact moved (given _ _ running).1 rfl
  | quiet running => exact moved (given _ _ running).2 rfl
  | @drop thread op next running suspends =>
      have waits : (Prog.call op next).Given good ok fun _ => True := given _ _ running
      exact moved (Prog.given_drop waits (dropped thread)) rfl
  | drift drift => exact given

end Pool

end Async
