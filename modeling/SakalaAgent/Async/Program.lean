/-
Module: SakalaAgent.Async.Program
Layer: Async (library)
Purpose: Futures as trees of awaited operations. A program asks its surroundings to perform
  operations one after the other; at every operation it may suspend, and a program that is being
  raced against an alarm can be left exactly there.
Trusted boundary: none
Main exports: Interface, Prog, Prog.race, Prog.timeout, Prog.AllOps, Prog.Yields, Fallible
-/

namespace Async

/-- What a program may ask for: operations, the answers to them, which of them can suspend the
program that waits for them, and the alarms (timers, cancellation tokens) it can be raced with. -/
structure Interface where
  Op : Type
  Res : Op → Type
  suspends : Op → Bool
  Alarm : Type

/-- A future over `I`. `abandon op` stands where nobody waits for `op` any more, which had been
asked for; `alarm which op` is a suspension point (waiting for `op`) at which the surroundings
decide whether the alarm is seen. -/
inductive Prog (I : Interface) (α : Type) : Type where
  | ret (value : α)
  | call (op : I.Op) (next : I.Res op → Prog I α)
  | abandon (op : I.Op) (next : Prog I α)
  | alarm (which : I.Alarm) (op : I.Op) (fired quiet : Prog I α)

namespace Prog

variable {I J : Interface} {α β γ ε ε' : Type}

/-- Run one program and continue with its result. -/
def bind : Prog I α → (α → Prog I β) → Prog I β
  | .ret value, f => f value
  | .call op next, f => .call op fun res => (next res).bind f
  | .abandon op next, f => .abandon op (next.bind f)
  | .alarm which op fired quiet, f => .alarm which op (fired.bind f) (quiet.bind f)

instance : Monad (Prog I) where
  pure := .ret
  bind := bind

theorem pure_eq (value : α) : (pure value : Prog I α) = .ret value := rfl

theorem bind_eq (p : Prog I α) (f : α → Prog I β) : p >>= f = p.bind f := rfl

theorem bind_ret (p : Prog I α) : p.bind .ret = p := by
  induction p with
  | ret value => rfl
  | call op next ih => simp only [bind, ih]
  | abandon op next ih => simp only [bind, ih]
  | alarm which op fired quiet ihFired ihQuiet => simp only [bind, ihFired, ihQuiet]

theorem bind_assoc (p : Prog I α) (f : α → Prog I β) (g : β → Prog I γ) :
    (p.bind f).bind g = p.bind fun value => (f value).bind g := by
  induction p with
  | ret value => rfl
  | call op next ih => simp only [bind, ih]
  | abandon op next ih => simp only [bind, ih]
  | alarm which op fired quiet ihFired ihQuiet => simp only [bind, ihFired, ihQuiet]

instance : LawfulMonad (Prog I) where
  map_const := rfl
  id_map p := bind_ret p
  seqLeft_eq p q := (bind_assoc p (fun value => .ret (Function.const _ value))
    fun f => q.bind fun value => .ret (f value)).symm
  seqRight_eq p q := by
    refine (congrArg p.bind (funext fun _ => (bind_ret q).symm)).trans ?_
    exact (bind_assoc p (fun value => .ret (Function.const _ id value))
      fun f => q.bind fun value => .ret (f value)).symm
  pure_seq f p := rfl
  bind_pure_comp _ _ := rfl
  bind_map _ _ := rfl
  pure_bind _ _ := rfl
  bind_assoc p f g := bind_assoc p f g

/-- Ask for one operation and wait for the answer. -/
def perform (op : I.Op) : Prog I (I.Res op) :=
  .call op .ret

/-- Drop a future: what it is waiting for is abandoned, and nothing else of it runs. -/
def drop : Prog I α → Prog I β → Prog I β
  | .call op _, next => .abandon op next
  | _, next => next

/-- Poll a future together with an alarm, the future first. At every suspension point the alarm may
be seen; `onFired` then decides what becomes of the rest of the future. -/
def race (which : I.Alarm) (onFired : Prog I α → Prog I β) (done : α → β) : Prog I α → Prog I β
  | .ret value => .ret (done value)
  | .call op next =>
      let waiting := Prog.call op fun res => (next res).race which onFired done
      if I.suspends op then .alarm which op (onFired (.call op next)) waiting else waiting
  | .abandon op next => .abandon op (next.race which onFired done)
  | .alarm other op fired quiet =>
      .alarm other op (fired.race which onFired done) (quiet.race which onFired done)

/-- Poll a future by reference until an alarm is seen: what remains of it then is kept. -/
def pollUntil (which : I.Alarm) (p : Prog I α) : Prog I (α ⊕ Prog I α) :=
  p.race which (fun rest => .ret (.inr rest)) .inl

/-- A future with a deadline: `none` when the alarm was seen first and the future was dropped. -/
def timeout (which : I.Alarm) (p : Prog I α) : Prog I (Option α) :=
  p.race which (fun rest => rest.drop (.ret none)) some

/-- Every operation a program may ask for satisfies `ok`. -/
def AllOps (ok : I.Op → Prop) : Prog I α → Prop
  | .ret _ => True
  | .call op next => ok op ∧ ∀ res, (next res).AllOps ok
  | .abandon op next => ok op ∧ next.AllOps ok
  | .alarm _ _ fired quiet => fired.AllOps ok ∧ quiet.AllOps ok

/-- Every result a program can have satisfies `good`, whatever it is answered. -/
def Yields (good : α → Prop) : Prog I α → Prop
  | .ret value => good value
  | .call _ next => ∀ res, (next res).Yields good
  | .abandon _ next => next.Yields good
  | .alarm _ _ fired quiet => fired.Yields good ∧ quiet.Yields good

/-! ### Conditions on the operations of a program -/

section AllOps

variable {ok ok' : I.Op → Prop}

theorem AllOps.mono (weaker : ∀ op, ok op → ok' op) {p : Prog I α} (ops : p.AllOps ok) :
    p.AllOps ok' := by
  induction p with
  | ret value => trivial
  | call op next ih => exact ⟨weaker op ops.1, fun res => ih res (ops.2 res)⟩
  | abandon op next ih => exact ⟨weaker op ops.1, ih ops.2⟩
  | alarm which op fired quiet ihFired ihQuiet => exact ⟨ihFired ops.1, ihQuiet ops.2⟩

theorem allOps_of_forall (all : ∀ op, ok op) (p : Prog I α) : p.AllOps ok := by
  induction p with
  | ret value => trivial
  | call op next ih => exact ⟨all op, ih⟩
  | abandon op next ih => exact ⟨all op, ih⟩
  | alarm which op fired quiet ihFired ihQuiet => exact ⟨ihFired, ihQuiet⟩

@[simp] theorem allOps_ret (value : α) : (Prog.ret value).AllOps ok := trivial

@[simp] theorem allOps_perform {op : I.Op} : (perform op).AllOps ok ↔ ok op := by
  simp [perform, AllOps]

theorem allOps_bind {p : Prog I α} {f : α → Prog I β} (first : p.AllOps ok)
    (rest : ∀ value, (f value).AllOps ok) : (p.bind f).AllOps ok := by
  induction p with
  | ret value => exact rest value
  | call op next ih => exact ⟨first.1, fun res => ih res (first.2 res)⟩
  | abandon op next ih => exact ⟨first.1, ih first.2⟩
  | alarm which op fired quiet ihFired ihQuiet => exact ⟨ihFired first.1, ihQuiet first.2⟩

theorem allOps_drop {p : Prog I α} {after : Prog I β} (first : p.AllOps ok)
    (rest : after.AllOps ok) : (p.drop after).AllOps ok := by
  cases p with
  | ret value => exact rest
  | call op next => exact ⟨first.1, rest⟩
  | abandon op next => exact rest
  | alarm which op fired quiet => exact rest

theorem allOps_race {which : I.Alarm} {onFired : Prog I α → Prog I β} {done : α → β}
    {p : Prog I α} (ops : p.AllOps ok)
    (handled : ∀ rest : Prog I α, rest.AllOps ok → (onFired rest).AllOps ok) :
    (p.race which onFired done).AllOps ok := by
  induction p with
  | ret value => trivial
  | call op next ih =>
      have waiting : (Prog.call op fun res => (next res).race which onFired done).AllOps ok :=
        ⟨ops.1, fun res => ih res (ops.2 res)⟩
      simp only [race]
      split
      · exact ⟨handled _ ops, waiting⟩
      · exact waiting
  | abandon op next ih => exact ⟨ops.1, ih ops.2⟩
  | alarm other op fired quiet ihFired ihQuiet => exact ⟨ihFired ops.1, ihQuiet ops.2⟩

theorem allOps_timeout {which : I.Alarm} {p : Prog I α} (ops : p.AllOps ok) :
    (p.timeout which).AllOps ok :=
  allOps_race ops fun _ rest => allOps_drop rest trivial

end AllOps

/-! ### Conditions on the results of a program -/

theorem yields_of_forall {good : α → Prop} (all : ∀ value, good value) (p : Prog I α) :
    p.Yields good := by
  induction p with
  | ret value => exact all value
  | call op next ih => exact ih
  | abandon op next ih => exact ih
  | alarm which op fired quiet ihFired ihQuiet => exact ⟨ihFired, ihQuiet⟩

theorem yields_bind {p : Prog I α} {f : α → Prog I β} {good : α → Prop} {good' : β → Prop}
    (first : p.Yields good) (rest : ∀ value, good value → (f value).Yields good') :
    (p.bind f).Yields good' := by
  induction p with
  | ret value => exact rest value first
  | call op next ih => exact fun res => ih res (first res)
  | abandon op next ih => exact ih first
  | alarm which op fired quiet ihFired ihQuiet => exact ⟨ihFired first.1, ihQuiet first.2⟩

end Prog

/-! ### Futures that can fail -/

/-- A future that can fail: `?` is the bind of this monad. -/
abbrev Fallible (I : Interface) (ε α : Type) : Type := ExceptT ε (Prog I) α

namespace Fallible

variable {I : Interface} {α ε ε' : Type}

/-- An operation that cannot fail. -/
def perform (op : I.Op) : Fallible I ε (I.Res op) :=
  ExceptT.lift (Prog.perform op)

/-- The outcome of a fallible future as a value, for code that matches on it. -/
def attempt (p : Fallible I ε α) : Fallible I ε' (Except ε α) :=
  ExceptT.lift p.run

/-- Continue with an outcome that is already there (`?` on a value). -/
def ofExcept (outcome : Except ε α) : Fallible I ε α :=
  ExceptT.mk (.ret outcome)

/-- `map_err`: the same future, its error translated. -/
def mapErr (f : ε → ε') (p : Fallible I ε α) : Fallible I ε' α :=
  ExceptT.mk (p.run.bind fun outcome => .ret (outcome.mapError f))

variable {β : Type} {ok : I.Op → Prop}

/-- Every operation a fallible future may ask for satisfies `ok`. -/
def AllOps (ok : I.Op → Prop) (p : Fallible I ε α) : Prop :=
  p.run.AllOps ok

theorem AllOps.mono {ok' : I.Op → Prop} (weaker : ∀ op, ok op → ok' op) {p : Fallible I ε α}
    (ops : AllOps ok p) : AllOps ok' p :=
  Prog.AllOps.mono weaker ops

@[simp] theorem allOps_pure (value : α) : AllOps ok (pure value : Fallible I ε α) := trivial

@[simp] theorem allOps_throw (error : ε) : AllOps ok (throw error : Fallible I ε α) := trivial

@[simp] theorem allOps_ofExcept (outcome : Except ε α) :
    AllOps ok (ofExcept outcome : Fallible I ε α) := trivial

theorem allOps_bind {p : Fallible I ε α} {f : α → Fallible I ε β} (first : AllOps ok p)
    (rest : ∀ value, AllOps ok (f value)) : AllOps ok (p >>= f) := by
  refine Prog.allOps_bind first fun outcome => ?_
  cases outcome with
  | ok value => exact rest value
  | error error => trivial

theorem allOps_perform {op : I.Op} (allowed : ok op) :
    AllOps ok (perform op : Fallible I ε (I.Res op)) :=
  ⟨allowed, fun _ => trivial⟩

theorem allOps_attempt {p : Fallible I ε α} (ops : AllOps ok p) :
    AllOps ok (attempt p : Fallible I ε' (Except ε α)) :=
  Prog.allOps_bind ops fun _ => trivial

theorem allOps_mapErr {f : ε → ε'} {p : Fallible I ε α} (ops : AllOps ok p) :
    AllOps ok (mapErr f p) :=
  Prog.allOps_bind ops fun _ => trivial

theorem allOps_forM {items : List α} {f : α → Fallible I ε PUnit}
    (each : ∀ item ∈ items, AllOps ok (f item)) : AllOps ok (forM items f) := by
  induction items with
  | nil => trivial
  | cons item items ih =>
      exact allOps_bind (each item List.mem_cons_self) fun _ =>
        ih fun other member => each other (List.mem_cons_of_mem _ member)

/-! ### Futures that do not fail -/

/-- Whatever the future is answered, it does not fail. -/
def Succeeds (p : Fallible I ε α) : Prop :=
  p.run.Yields fun outcome => ∃ value, outcome = .ok value

theorem succeeds_pure (value : α) : Succeeds (pure value : Fallible I ε α) :=
  ⟨value, rfl⟩

theorem succeeds_perform (op : I.Op) : Succeeds (perform op : Fallible I ε (I.Res op)) :=
  fun res => ⟨res, rfl⟩

theorem succeeds_attempt (p : Fallible I ε α) :
    Succeeds (attempt p : Fallible I ε' (Except ε α)) :=
  Prog.yields_bind (Prog.yields_of_forall (fun _ => trivial) p.run)
    fun outcome (_ : True) => ⟨outcome, rfl⟩

theorem succeeds_bind {p : Fallible I ε α} {f : α → Fallible I ε β} (first : Succeeds p)
    (rest : ∀ value, Succeeds (f value)) : Succeeds (p >>= f) := by
  apply Prog.yields_bind first
  rintro _ ⟨value, rfl⟩
  exact rest value

theorem succeeds_forM {items : List α} {f : α → Fallible I ε PUnit}
    (each : ∀ item ∈ items, Succeeds (f item)) : Succeeds (forM items f) := by
  induction items with
  | nil => exact succeeds_pure _
  | cons item items ih =>
      apply succeeds_bind (each item List.mem_cons_self)
      exact fun _ => ih fun other member => each other (List.mem_cons_of_mem _ member)

end Fallible

end Async
