/-
Module: SakalaAgent.Async.Discipline
Layer: Async (library)
Purpose: Programs that keep to a discipline. A discipline has states; each allows some operations,
  and an answer leads from one state to the next, as taking and giving back a resource does. A
  program keeps to it whatever it is answered, and it can only be left within given states; so a
  thread that is dropped there can be continued in the discipline. In a pool, the state of a thread
  is read off its history.
Trusted boundary: none
Main exports: Discipline, Prog.Keeps, Prog.awaited, Prog.Ready, Prog.keeps_race, Prog.keeps_timeout,
  Fallible.keeps_bind, Fallible.keeps_bind_succeeds, Pool.Disciplined, Pool.Disciplined.step
-/
import SakalaAgent.Async.Interleaving

namespace Async

/-- What is allowed in each state, and what an answer makes of it. -/
structure Discipline (I : Interface) (σ : Type) where
  allows : σ → I.Op → Prop
  after : σ → (op : I.Op) → I.Res op → σ

namespace Discipline

variable {I : Interface} {σ : Type} (D : Discipline I σ)

/-- What an event makes of a state. An operation nobody waits for any more changes nothing. -/
def next (s : σ) : Event I → σ
  | .done op res => D.after s op res
  | _ => s

/-- The state a history leads to. -/
def state (s : σ) (h : History I) : σ :=
  h.foldl D.next s

theorem state_append (s : σ) (h : History I) (event : Event I) :
    D.state s (h ++ [event]) = D.next (D.state s h) event := by
  simp only [state, List.foldl_append, List.foldl_cons, List.foldl_nil]

/-- The operation is allowed in the state, and does not change it. -/
def Idle (s : σ) (op : I.Op) : Prop :=
  D.allows s op ∧ ∀ res, D.after s op res = s

end Discipline

namespace Prog

variable {I : Interface} {σ α β : Type} {D : Discipline I σ} {within within' : σ → Prop}
  {Q Q' : α → σ → Prop} {s : σ}

/-- Whatever it is answered, the program asks for what is allowed, waits only within some states, and
ends in `Q`. -/
def Keeps (D : Discipline I σ) (within : σ → Prop) (Q : α → σ → Prop) : Prog I α → σ → Prop
  | .ret value, s => Q value s
  | .call op next, s => D.allows s op ∧ (I.suspends op = true → within s) ∧
      ∀ res, (next res).Keeps D within Q (D.after s op res)
  | .abandon op next, s => D.allows s op ∧ next.Keeps D within Q s
  | .alarm _ _ fired quiet, s => fired.Keeps D within Q s ∧ quiet.Keeps D within Q s

/-- What the program waits for as long as no alarm is seen. -/
def awaited : Prog I α → Option I.Op
  | .call op _ => some op
  | .alarm _ _ _ quiet => quiet.awaited
  | _ => none

/-- What is waited for is allowed. -/
theorem Keeps.awaited {p : Prog I α} (keeps : p.Keeps D within Q s) {op : I.Op}
    (awaits : p.awaited = some op) : D.allows s op := by
  induction p with
  | ret value => cases awaits
  | call other next ih =>
      obtain rfl := Option.some.inj awaits
      exact keeps.1
  | abandon other next ih => cases awaits
  | alarm which other fired quiet ihFired ihQuiet => exact ihQuiet keeps.2 awaits

theorem keeps_mono {p : Prog I α} (pre : p.Keeps D within Q s)
    (weaker : ∀ s, within s → within' s) (hQ : ∀ value s, Q value s → Q' value s) :
    p.Keeps D within' Q' s := by
  induction p generalizing s with
  | ret value => exact hQ value s pre
  | call op next ih =>
      obtain ⟨allowed, left, continued⟩ := pre
      exact ⟨allowed, fun suspends => weaker s (left suspends), fun res => ih res (continued res)⟩
  | abandon op next ih => exact ⟨pre.1, ih pre.2⟩
  | alarm which op fired quiet ihFired ihQuiet => exact ⟨ihFired pre.1, ihQuiet pre.2⟩

theorem keeps_bind {p : Prog I α} {f : α → Prog I β} {Q : β → σ → Prop}
    (pre : p.Keeps D within (fun value s => (f value).Keeps D within Q s) s) :
    (p.bind f).Keeps D within Q s := by
  induction p generalizing s with
  | ret value => exact pre
  | call op next ih =>
      obtain ⟨allowed, left, continued⟩ := pre
      exact ⟨allowed, left, fun res => ih res (continued res)⟩
  | abandon op next ih => exact ⟨pre.1, ih pre.2⟩
  | alarm which op fired quiet ihFired ihQuiet => exact ⟨ihFired pre.1, ihQuiet pre.2⟩

/-- What every result satisfies holds at the end. -/
theorem keeps_yields {p : Prog I α} {good : α → Prop} (yields : p.Yields good)
    (pre : p.Keeps D within Q s) :
    p.Keeps D within (fun value s => good value ∧ Q value s) s := by
  induction p generalizing s with
  | ret value => exact ⟨yields, pre⟩
  | call op next ih =>
      obtain ⟨allowed, left, continued⟩ := pre
      exact ⟨allowed, left, fun res => ih res (yields res) (continued res)⟩
  | abandon op next ih => exact ⟨pre.1, ih yields pre.2⟩
  | alarm which op fired quiet ihFired ihQuiet =>
      exact ⟨ihFired yields.1 pre.1, ihQuiet yields.2 pre.2⟩

/-- A program whose operations all leave the state as it is ends where it began. -/
theorem keeps_of_idle {p : Prog I α} (ops : p.AllOps (D.Idle s)) (left : within s) :
    p.Keeps D within (fun _ s' => s' = s) s := by
  induction p with
  | ret value => rfl
  | call op next ih =>
      obtain ⟨⟨allowed, unchanged⟩, rest⟩ := ops
      refine ⟨allowed, fun _ => left, fun res => ?_⟩
      rw [unchanged res]
      exact ih res (rest res)
  | abandon op next ih => exact ⟨ops.1.1, ih ops.2⟩
  | alarm which op fired quiet ihFired ihQuiet => exact ⟨ihFired ops.1, ihQuiet ops.2⟩

/-- What a future waits for is given up, and something else follows. -/
theorem keeps_drop {op : I.Op} (next : I.Res op → Prog I α) {after : Prog I β}
    {Q' : β → σ → Prop} (allowed : D.allows s op) (rest : after.Keeps D within' Q' s) :
    ((Prog.call op next).drop after).Keeps D within' Q' s :=
  ⟨allowed, rest⟩

/-- The handler of a race starts where the future waits. -/
theorem keeps_race {which : I.Alarm} {onFired : Prog I α → Prog I β} {done : α → β}
    {p : Prog I α} {Q' : β → σ → Prop} (pre : p.Keeps D within Q s)
    (handled : ∀ op next s, within s → (Prog.call op next).Keeps D within Q s →
      (onFired (.call op next)).Keeps D within' Q' s)
    (weaker : ∀ s, within s → within' s) (hQ : ∀ value s, Q value s → Q' (done value) s) :
    (p.race which onFired done).Keeps D within' Q' s := by
  induction p generalizing s with
  | ret value => exact hQ value s pre
  | call op next ih =>
      obtain ⟨allowed, left, continued⟩ := pre
      have waiting : (Prog.call op fun res => (next res).race which onFired done).Keeps D within'
          Q' s :=
        ⟨allowed, fun suspends => weaker s (left suspends), fun res => ih res (continued res)⟩
      simp only [race]
      split
      · rename_i suspends
        exact ⟨handled op next s (left suspends) ⟨allowed, left, continued⟩, waiting⟩
      · exact waiting
  | abandon op next ih => exact ⟨pre.1, ih pre.2⟩
  | alarm other op fired quiet ihFired ihQuiet => exact ⟨ihFired pre.1, ihQuiet pre.2⟩

/-- A future that is dropped at its deadline is dropped where it waits. -/
theorem keeps_timeout {which : I.Alarm} {p : Prog I α} {Q' : Option α → σ → Prop}
    (pre : p.Keeps D within Q s) (weaker : ∀ s, within s → within' s)
    (hQ : ∀ value s, Q value s → Q' (some value) s) (dropped : ∀ s, within s → Q' none s) :
    (p.timeout which).Keeps D within' Q' s := by
  apply keeps_race pre _ weaker hQ
  intro op next s left rest
  exact keeps_drop next rest.1 (dropped s left)

end Prog

namespace Fallible

variable {I : Interface} {σ ε ε' α β : Type} {D : Discipline I σ} {within : σ → Prop}
  {P : Except ε α → σ → Prop} {Q : Except ε β → σ → Prop} {s : σ}

theorem keeps_bind {p : Fallible I ε α} {f : α → Fallible I ε β}
    (first : p.run.Keeps D within P s)
    (failed : ∀ error s, P (.error error) s → Q (.error error) s)
    (rest : ∀ value s, P (.ok value) s → (f value).run.Keeps D within Q s) :
    (p >>= f).run.Keeps D within Q s := by
  apply Prog.keeps_bind
  apply Prog.keeps_mono first (fun _ left => left)
  rintro (error | value) s holds
  · exact failed error s holds
  · exact rest value s holds

/-- A future that does not fail is always continued. -/
theorem keeps_bind_succeeds {p : Fallible I ε α} {f : α → Fallible I ε β} (succeeds : Succeeds p)
    (first : p.run.Keeps D within P s)
    (rest : ∀ value s, P (.ok value) s → (f value).run.Keeps D within Q s) :
    (p >>= f).run.Keeps D within Q s := by
  apply keeps_bind (Prog.keeps_yields succeeds first)
  · rintro error s ⟨⟨value, failed⟩, _⟩
    cases failed
  · exact fun value s holds => rest value s holds.2

theorem keeps_attempt {P : Except ε' α → σ → Prop} {p : Fallible I ε' α}
    {f : Except ε' α → Fallible I ε β} (first : p.run.Keeps D within P s)
    (rest : ∀ outcome s, P outcome s → (f outcome).run.Keeps D within Q s) :
    (attempt p >>= f).run.Keeps D within Q s := by
  apply Prog.keeps_bind
  apply Prog.keeps_bind
  exact Prog.keeps_mono first (fun _ left => left) rest

theorem keeps_perform {op : I.Op} {f : I.Res op → Fallible I ε β} (allowed : D.allows s op)
    (left : I.suspends op = true → within s)
    (rest : ∀ res, (f res).run.Keeps D within Q (D.after s op res)) :
    (perform op >>= f).run.Keeps D within Q s :=
  ⟨allowed, left, rest⟩

end Fallible

/-! ### Pools -/

namespace Pool

variable {I : Interface} {W ι α σ : Type}

/-- What remains of each thread keeps to the discipline, in the state its history leads to. -/
structure Disciplined (D : Discipline I σ) (start : σ) (within : σ → Prop) (Q : α → σ → Prop)
    (s : Pool I W ι α) : Prop where
  fresh : ∀ thread, s.program thread = none → s.history thread = []
  keeps : ∀ thread program, s.program thread = some program →
    program.Keeps D within Q (D.state start (s.history thread))

variable {D : Discipline I σ} {start : σ} {within : σ → Prop} {Q : α → σ → Prop}

theorem disciplined_empty (world : W) :
    Disciplined D start within Q (Pool.empty world : Pool I W ι α) where
  fresh _ _ := rfl
  keeps := nofun

variable [DecidableEq ι] {T : Threads I W ι α} {s s' : Pool I W ι α} {action : Action I ι α}

/-- The rest of a thread that moves is all there is to check. -/
theorem Disciplined.moved (disciplined : Disciplined D start within Q s)
    (stepped : Step T s action s') {thread : ι} {program : Prog I α}
    (moves : action.thread = some thread) (running : s'.program thread = some program)
    (keeps : program.Keeps D within Q (D.state start (s'.history thread))) :
    Disciplined D start within Q s' where
  fresh := stepped.fresh disciplined.fresh
  keeps other found runs := by
    by_cases same : other = thread
    · subst same
      obtain rfl := Option.some.inj (running.symm.trans runs)
      exact keeps
    · have still : action.thread ≠ some other := by
        rw [moves]
        exact fun moved => same (Option.some.inj moved).symm
      obtain ⟨program, history⟩ := stepped.unmoved still
      rw [history]
      exact disciplined.keeps other found (program.symm.trans runs)

/-- A step keeps every thread to the discipline, if those that are started begin in it and those that
are dropped where they wait are continued in it. -/
theorem Disciplined.step (disciplined : Disciplined D start within Q s)
    (stepped : Step T s action s')
    (started : ∀ thread program, T.starts thread program → program.Keeps D within Q start)
    (dropped : ∀ thread state, within state → (T.onDrop thread).Keeps D within Q state) :
    Disciplined D start within Q s' := by
  cases stepped with
  | @start thread program fresh starts =>
      apply disciplined.moved (.start fresh starts) rfl (Function.update_self ..)
      have nothing : (s.become thread program).history thread = [] :=
        disciplined.fresh thread fresh
      rw [nothing]
      exact started thread program starts
  | @done thread op next res world running step =>
      obtain ⟨_, _, continued⟩ := disciplined.keeps thread _ running
      apply disciplined.moved (.done running step) rfl (Function.update_self ..)
      have history : (s.next thread (next res) (.done op res) world).history thread =
          s.history thread ++ [.done op res] := Function.update_self ..
      rw [history, D.state_append]
      exact continued res
  | @abandoned thread op next outcome world running left =>
      obtain ⟨_, rest⟩ := disciplined.keeps thread _ running
      apply disciplined.moved (.abandoned running left) rfl (Function.update_self ..)
      have history : (s.next thread next (.abandoned op outcome) world).history thread =
          s.history thread ++ [.abandoned op outcome] := Function.update_self ..
      rw [history, D.state_append]
      exact rest
  | @fired thread which op fired quiet running =>
      obtain ⟨rest, _⟩ := disciplined.keeps thread _ running
      apply disciplined.moved (T := T) (.fired running) rfl (Function.update_self ..)
      have history : (s.next thread fired (.fired which op) s.world).history thread =
          s.history thread ++ [.fired which op] := Function.update_self ..
      rw [history, D.state_append]
      exact rest
  | @quiet thread which op fired quiet running =>
      obtain ⟨_, rest⟩ := disciplined.keeps thread _ running
      exact disciplined.moved (T := T) (.quiet running) rfl (Function.update_self ..) rest
  | @drop thread op next running suspends =>
      obtain ⟨allowed, left, _⟩ := disciplined.keeps thread _ running
      apply disciplined.moved (.drop running suspends) rfl (Function.update_self ..)
      exact Prog.keeps_drop next allowed (dropped thread _ (left suspends))
  | drift drift =>
      exact ⟨disciplined.fresh, disciplined.keeps⟩

end Pool

end Async
