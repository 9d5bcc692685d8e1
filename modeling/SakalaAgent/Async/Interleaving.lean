/-
Module: SakalaAgent.Async.Interleaving
Layer: Async (library)
Purpose: Programs that run side by side on shared surroundings. A pool takes one operation of one
  thread at a time, and the surroundings may change on their own in between; a thread can be dropped
  where it is suspended. A thread is verified on its own, against a contract: what it relies on about
  the changes others make, and what it asserts at each operation it asks for. Threads that meet
  their contracts keep doing so in every pool in which the rest does what each of them relies on.
Trusted boundary: none
Main exports: Contract, Prog.safe, Pool, Threads, Pool.Step, Pool.Runs, Pool.Safe,
  Pool.Safe.step, Pool.Step.world
-/
import SakalaAgent.Async.Semantics
import Mathlib.Logic.Function.Basic
import Mathlib.Logic.Relation

namespace Async

/-! ### One thread -/

/-- What a thread and the rest of the pool owe each other. The changes a thread relies on may depend on
its history; `left` has to hold wherever it may be dropped, behind the operation it is left at. -/
structure Contract (I : Interface) (W : Type) where
  rely : History I → W → W → Prop
  asserts : W → History I → I.Op → Prop
  left : W → History I → Prop

namespace Contract

variable {I : Interface} {W : Type}

/-- Any number of changes others make. -/
def Others (C : Contract I W) (h : History I) : W → W → Prop :=
  Relation.ReflTransGen (C.rely h)

theorem Others.keeps {C : Contract I W} {h : History I} {w w' : W} (P : W → Prop)
    (stable : ∀ w w', P w → C.rely h w w' → P w') (others : C.Others h w w') (holds : P w) :
    P w' := by
  induction others with
  | refl => exact holds
  | tail _ last ih => exact stable _ _ ih last

/-- The contract does not look at the history. -/
structure Blind (C : Contract I W) : Prop where
  rely : ∀ h h', C.rely h = C.rely h'
  asserts : ∀ {w : W} (h h' : History I) {op : I.Op}, C.asserts w h op ↔ C.asserts w h' op
  left : ∀ {w : W} (h h' : History I), C.left w h ↔ C.left w h'

theorem Blind.others {C : Contract I W} (blind : C.Blind) (h h' : History I) {w w' : W}
    (others : C.Others h' w w') : C.Others h w w' := by
  unfold Others at others ⊢
  rwa [blind.rely h h']

end Contract

namespace Prog

variable {I : Interface} {W α β : Type} {S : Semantics I W} {C : Contract I W}

/-- Whatever others do within what the thread relies on, it asserts what it has to at each of its
operations, and ends in `Q`. -/
def safe (S : Semantics I W) (C : Contract I W) (Q : α → W → History I → Prop) :
    Prog I α → W → History I → Prop
  | .ret value, w, h => ∀ w₀, C.Others h w w₀ → Q value w₀ h
  | .call op next, w, h => ∀ w₀, C.Others h w w₀ → C.asserts w₀ h op ∧
      (I.suspends op = true → ∀ outcome w', S.leave w₀ op outcome w' →
        C.left w' (h ++ [.abandoned op outcome])) ∧
      ∀ res w', S.step w₀ op res w' → (next res).safe S C Q w' (h ++ [.done op res])
  | .abandon op next, w, h => ∀ w₀, C.Others h w w₀ → C.asserts w₀ h op ∧
      ∀ outcome w', S.leave w₀ op outcome w' → next.safe S C Q w' (h ++ [.abandoned op outcome])
  | .alarm which op fired quiet, w, h => ∀ w₀, C.Others h w w₀ →
      fired.safe S C Q w₀ (h ++ [.fired which op]) ∧ quiet.safe S C Q w₀ h

/-- What is known of a thread is known after changes others make. -/
theorem safe_others {p : Prog I α} {Q : α → W → History I → Prop} {w w' : W} {h : History I}
    (pre : p.safe S C Q w h) (others : C.Others h w w') : p.safe S C Q w' h := by
  cases p with
  | ret value => exact fun w₀ later => pre w₀ (others.trans later)
  | call op next => exact fun w₀ later => pre w₀ (others.trans later)
  | abandon op next => exact fun w₀ later => pre w₀ (others.trans later)
  | alarm which op fired quiet => exact fun w₀ later => pre w₀ (others.trans later)

theorem safe_mono {p : Prog I α} {Q Q' : α → W → History I → Prop} {w : W} {h : History I}
    (pre : p.safe S C Q w h) (hQ : ∀ value w h, Q value w h → Q' value w h) :
    p.safe S C Q' w h := by
  induction p generalizing w h with
  | ret value => exact fun w₀ others => hQ value w₀ h (pre w₀ others)
  | call op next ih =>
      intro w₀ others
      obtain ⟨asserted, left, continued⟩ := pre w₀ others
      exact ⟨asserted, left, fun res w' step => ih res (continued res w' step)⟩
  | abandon op next ih =>
      intro w₀ others
      obtain ⟨asserted, continued⟩ := pre w₀ others
      exact ⟨asserted, fun outcome w' leave => ih (continued outcome w' leave)⟩
  | alarm which op fired quiet ihFired ihQuiet =>
      intro w₀ others
      obtain ⟨seen, notSeen⟩ := pre w₀ others
      exact ⟨ihFired seen, ihQuiet notSeen⟩

theorem safe_bind {p : Prog I α} {f : α → Prog I β} {Q : β → W → History I → Prop} {w : W}
    {h : History I} (pre : p.safe S C (fun value w h => (f value).safe S C Q w h) w h) :
    (p.bind f).safe S C Q w h := by
  induction p generalizing w h with
  | ret value => exact pre w .refl
  | call op next ih =>
      intro w₀ others
      obtain ⟨asserted, left, continued⟩ := pre w₀ others
      exact ⟨asserted, left, fun res w' step => ih res (continued res w' step)⟩
  | abandon op next ih =>
      intro w₀ others
      obtain ⟨asserted, continued⟩ := pre w₀ others
      exact ⟨asserted, fun outcome w' leave => ih (continued outcome w' leave)⟩
  | alarm which op fired quiet ihFired ihQuiet =>
      intro w₀ others
      obtain ⟨seen, notSeen⟩ := pre w₀ others
      exact ⟨ihFired seen, ihQuiet notSeen⟩

/-- Leaving a thread that waits for something: what it asks for is abandoned with its assertion. -/
theorem safe_drop {op : I.Op} {next : I.Res op → Prog I α} {after : Prog I β}
    {Q : α → W → History I → Prop} {Q' : β → W → History I → Prop} {w : W} {h : History I}
    (suspends : I.suspends op = true) (pre : (Prog.call op next).safe S C Q w h)
    (continued : ∀ w' h', C.left w' h' → after.safe S C Q' w' h') :
    ((Prog.call op next).drop after).safe S C Q' w h := by
  intro w₀ others
  obtain ⟨asserted, left, _⟩ := pre w₀ others
  exact ⟨asserted, fun outcome w' leave => continued w' _ (left suspends outcome w' leave)⟩

/-- A thread that runs by itself, in surroundings whose own changes it relies on. -/
theorem safe_sound {S' : Semantics I W} {p : Prog I α} {Q : α → W → History I → Prop} {w w' : W}
    {h h' : History I} {value : α}
    (step : ∀ {w op res w'}, S'.step w op res w' → S.step w op res w')
    (leave : ∀ {w op outcome w'}, S'.leave w op outcome w' → S.leave w op outcome w')
    (drift : ∀ {h w w'}, S'.drift w w' → C.rely h w w') (run : Exec S' p w h value w' h')
    (pre : p.safe S C Q w h) : Q value w' h' := by
  have others : ∀ {h w w'}, Drifts S' w w' → C.Others h w w' := by
    intro h w w' drifts
    induction drifts with
    | refl w => exact .refl
    | head first _ ih => exact .head (drift first) ih
  induction run with
  | ret value w h => exact pre w .refl
  | call drifts res stepped _ ih => exact ih ((pre _ (others drifts)).2.2 res _ (step stepped))
  | abandon drifts outcome left _ ih =>
      exact ih ((pre _ (others drifts)).2 outcome _ (leave left))
  | fired _ ih => exact ih (pre _ .refl).1
  | quiet _ ih => exact ih (pre _ .refl).2

/-- A thread that has come to a rest of itself, in surroundings whose own changes it relies on. -/
theorem safe_comes {p p' : Prog I α} {Q : α → W → History I → Prop} {w w' : W} {h h' : History I}
    (drift : ∀ {h w w'}, S.drift w w' → C.rely h w w') (comes : Comes S p w h p' w' h')
    (pre : p.safe S C Q w h) : p'.safe S C Q w' h' := by
  induction comes with
  | refl p w h => exact pre
  | drift first _ ih => exact ih (safe_others pre (.single (drift first)))
  | call res step _ ih => exact ih ((pre _ .refl).2.2 res _ step)
  | abandon outcome left _ ih => exact ih ((pre _ .refl).2 outcome _ left)
  | fired _ ih => exact ih (pre _ .refl).1
  | quiet _ ih => exact ih (pre _ .refl).2

/-! ### Invariants of a thread -/

/-- `Inv` survives every operation allowed by `ok` and every change others make, and gives what has to
be asserted. -/
structure Maintains (S : Semantics I W) (C : Contract I W) (ok : I.Op → Prop)
    (Inv : W → History I → Prop) : Prop where
  asserts : ∀ op, ok op → ∀ w h, Inv w h → C.asserts w h op
  done : ∀ op, ok op → ∀ w h res w', Inv w h → S.step w op res w' → Inv w' (h ++ [.done op res])
  abandoned : ∀ op, ok op → ∀ w h outcome w', Inv w h → S.leave w op outcome w' →
    Inv w' (h ++ [.abandoned op outcome])
  fired : ∀ which op w h, Inv w h → Inv w (h ++ [.fired which op])
  rely : ∀ w h w', Inv w h → C.rely h w w' → Inv w' h

theorem Maintains.others {ok : I.Op → Prop} {Inv : W → History I → Prop}
    (kept : Maintains S C ok Inv) {w w' : W} {h : History I} (others : C.Others h w w')
    (holds : Inv w h) : Inv w' h :=
  others.keeps (fun w => Inv w h) (fun w w' => kept.rely w h w') holds

theorem safe_of_allOps {ok : I.Op → Prop} {Inv : W → History I → Prop}
    (kept : Maintains S C ok Inv) {p : Prog I α} {Q : α → W → History I → Prop} {w : W}
    {h : History I} (ops : p.AllOps ok) (holds : Inv w h) (hQ : ∀ value w h, Inv w h → Q value w h)
    (hD : ∀ w h, Inv w h → C.left w h) : p.safe S C Q w h := by
  induction p generalizing w h with
  | ret value => exact fun w₀ others => hQ value w₀ h (kept.others others holds)
  | call op next ih =>
      intro w₀ others
      have before := kept.others others holds
      refine ⟨kept.asserts op ops.1 w₀ h before, ?_, ?_⟩
      · intro _ outcome w' left
        exact hD w' _ (kept.abandoned op ops.1 w₀ h outcome w' before left)
      · intro res w' step
        exact ih res (ops.2 res) (kept.done op ops.1 w₀ h res w' before step)
  | abandon op next ih =>
      intro w₀ others
      have before := kept.others others holds
      refine ⟨kept.asserts op ops.1 w₀ h before, ?_⟩
      intro outcome w' left
      exact ih ops.2 (kept.abandoned op ops.1 w₀ h outcome w' before left)
  | alarm which op fired quiet ihFired ihQuiet =>
      intro w₀ others
      have before := kept.others others holds
      exact ⟨ihFired ops.1 (kept.fired which op w₀ h before), ihQuiet ops.2 before⟩

/-- Under a contract that does not look at the history, a thread may have any. -/
theorem safe_history (blind : C.Blind) {p : Prog I α} {Q : α → W → Prop} {w : W}
    {h : History I} (h' : History I) (pre : p.safe S C (fun value w _ => Q value w) w h) :
    p.safe S C (fun value w _ => Q value w) w h' := by
  induction p generalizing w h h' with
  | ret value => exact fun w₀ others => pre w₀ (blind.others h h' others)
  | call op next ih =>
      intro w₀ others
      obtain ⟨asserted, left, continued⟩ := pre w₀ (blind.others h h' others)
      refine ⟨(blind.asserts h h').mp asserted, ?_, ?_⟩
      · intro suspends outcome w' leave
        exact (blind.left _ _).mp (left suspends outcome w' leave)
      · intro res w' step
        exact ih res _ (continued res w' step)
  | abandon op next ih =>
      intro w₀ others
      obtain ⟨asserted, continued⟩ := pre w₀ (blind.others h h' others)
      exact ⟨(blind.asserts h h').mp asserted, fun outcome w' leave => ih _ (continued outcome w' leave)⟩
  | alarm which op fired quiet ihFired ihQuiet =>
      intro w₀ others
      obtain ⟨seen, notSeen⟩ := pre w₀ (blind.others h h' others)
      exact ⟨ihFired _ seen, ihQuiet _ notSeen⟩

/-- The rule of `race`. At every suspension point the handler starts with a rest of the future of which
all is known that was known of the whole. -/
theorem safe_race (blind : C.Blind) {which : I.Alarm} {onFired : Prog I α → Prog I β}
    {done : α → β} {p : Prog I α} {Q : α → W → Prop} {Q' : β → W → History I → Prop} {w : W}
    {h : History I} (pre : p.safe S C (fun value w _ => Q value w) w h)
    (handled : ∀ op next w h, I.suspends op = true →
      (Prog.call op next).safe S C (fun value w _ => Q value w) w h →
      (onFired (.call op next)).safe S C Q' w h)
    (hQ : ∀ value w h, Q value w → Q' (done value) w h) :
    (p.race which onFired done).safe S C Q' w h := by
  induction p generalizing w h with
  | ret value => exact fun w₀ others => hQ value w₀ h (pre w₀ others)
  | call op next ih =>
      have waiting : ∀ w, (Prog.call op next).safe S C (fun value w _ => Q value w) w h →
          (Prog.call op fun res => (next res).race which onFired done).safe S C Q' w h := by
        intro w pre w₀ others
        obtain ⟨asserted, left, continued⟩ := pre w₀ others
        exact ⟨asserted, left, fun res w' step => ih res (continued res w' step)⟩
      simp only [race]
      split
      · rename_i suspends
        intro w₀ others
        have before := safe_others pre others
        exact ⟨handled op next w₀ _ suspends (safe_history blind _ before), waiting w₀ before⟩
      · exact waiting w pre
  | abandon op next ih =>
      intro w₀ others
      obtain ⟨asserted, continued⟩ := pre w₀ others
      exact ⟨asserted, fun outcome w' leave => ih (continued outcome w' leave)⟩
  | alarm other op fired quiet ihFired ihQuiet =>
      intro w₀ others
      obtain ⟨first, second⟩ := pre w₀ others
      exact ⟨ihFired first, ihQuiet second⟩

/-- The rule of `timeout`: a future whose alarm is seen is dropped. -/
theorem safe_timeout (blind : C.Blind) {which : I.Alarm} {p : Prog I α} {Q : α → W → Prop}
    {Q' : Option α → W → History I → Prop} {w : W} {h : History I}
    (pre : p.safe S C (fun value w _ => Q value w) w h)
    (hQ : ∀ value w h, Q value w → Q' (some value) w h)
    (dropped : ∀ w h w', C.left w h → C.Others h w w' → Q' none w' h) :
    (p.timeout which).safe S C Q' w h := by
  apply safe_race blind pre _ hQ
  intro op next w h suspends rest
  apply safe_drop suspends rest
  exact fun w h left w' others => dropped w h w' left others

end Prog

namespace Fallible

variable {I : Interface} {W α β ε ε' : Type} {S : Semantics I W} {C : Contract I W}
  {Q : Except ε β → W → History I → Prop} {w : W} {h : History I}

theorem safe_bind {p : Fallible I ε α} {f : α → Fallible I ε β}
    (pre : Prog.safe S C (fun outcome w h => match outcome with
      | .ok value => Prog.safe S C Q (f value).run w h
      | .error error => Prog.safe S C Q (.ret (.error error)) w h) p.run w h) :
    Prog.safe S C Q (p >>= f).run w h := by
  refine Prog.safe_bind (Prog.safe_mono pre ?_)
  intro outcome w h holds
  cases outcome with
  | ok value => exact holds
  | error error => exact holds

theorem safe_attempt {p : Fallible I ε' α} {f : Except ε' α → Fallible I ε β}
    (pre : Prog.safe S C (fun outcome w h => Prog.safe S C Q (f outcome).run w h) p.run w h) :
    Prog.safe S C Q (attempt p >>= f).run w h := by
  refine safe_bind (Prog.safe_bind (Prog.safe_mono pre ?_))
  intro outcome w h holds w₀ others
  exact Prog.safe_others holds others

end Fallible

/-! ### Pools -/

/-- Threads with what remains of their programs and with what each of them has done. -/
structure Pool (I : Interface) (W ι α : Type) where
  world : W
  program : ι → Option (Prog I α)
  history : ι → History I

/-- How the threads of a pool are run: their surroundings, the programs they may be started with, and
what is run when one is dropped. -/
structure Threads (I : Interface) (W ι α : Type) where
  semantics : ι → Semantics I W
  starts : ι → Prog I α → Prop
  onDrop : ι → Prog I α

namespace Pool

variable {I : Interface} {W ι α : Type}

inductive Action (I : Interface) (ι α : Type) where
  | start (thread : ι) (program : Prog I α)
  | act (thread : ι) (event : Event I)
  | quiet (thread : ι)
  | drop (thread : ι)
  | drift

/-- The thread that moves. -/
def Action.thread : Action I ι α → Option ι
  | .start thread _ | .act thread _ | .quiet thread | .drop thread => some thread
  | .drift => none

variable [DecidableEq ι]

/-- A pool in which nothing has been started. -/
def empty (world : W) : Pool I W ι α where
  world := world
  program _ := none
  history _ := []

/-- One thread goes on to a program, with one more event. -/
def next (s : Pool I W ι α) (thread : ι) (program : Prog I α) (event : Event I) (world : W) :
    Pool I W ι α where
  world := world
  program := Function.update s.program thread (some program)
  history := Function.update s.history thread (s.history thread ++ [event])

/-- One thread goes on to a program, and nothing else happens. -/
def become (s : Pool I W ι α) (thread : ι) (program : Prog I α) : Pool I W ι α :=
  { s with program := Function.update s.program thread (some program) }

inductive Step (T : Threads I W ι α) : Pool I W ι α → Action I ι α → Pool I W ι α → Prop where
  | start {s : Pool I W ι α} {thread : ι} {program : Prog I α}
      (fresh : s.program thread = none) (starts : T.starts thread program) :
      Step T s (.start thread program) (s.become thread program)
  | done {s : Pool I W ι α} {thread : ι} {op : I.Op} {next : I.Res op → Prog I α} {res : I.Res op}
      {world : W} (running : s.program thread = some (.call op next))
      (step : (T.semantics thread).step s.world op res world) :
      Step T s (.act thread (.done op res)) (s.next thread (next res) (.done op res) world)
  | abandoned {s : Pool I W ι α} {thread : ι} {op : I.Op} {next : Prog I α}
      {outcome : Option (I.Res op)} {world : W}
      (running : s.program thread = some (.abandon op next))
      (left : (T.semantics thread).leave s.world op outcome world) :
      Step T s (.act thread (.abandoned op outcome))
        (s.next thread next (.abandoned op outcome) world)
  | fired {s : Pool I W ι α} {thread : ι} {which : I.Alarm} {op : I.Op} {fired quiet : Prog I α}
      (running : s.program thread = some (.alarm which op fired quiet)) :
      Step T s (.act thread (.fired which op)) (s.next thread fired (.fired which op) s.world)
  | quiet {s : Pool I W ι α} {thread : ι} {which : I.Alarm} {op : I.Op} {fired quiet : Prog I α}
      (running : s.program thread = some (.alarm which op fired quiet)) :
      Step T s (.quiet thread) (s.become thread quiet)
  | drop {s : Pool I W ι α} {thread : ι} {op : I.Op} {next : I.Res op → Prog I α}
      (running : s.program thread = some (.call op next)) (suspends : I.suspends op = true) :
      Step T s (.drop thread) (s.become thread ((Prog.call op next).drop (T.onDrop thread)))
  | drift {s : Pool I W ι α} {thread : ι} {world : W}
      (drift : (T.semantics thread).drift s.world world) :
      Step T s .drift { s with world }

/-- The runs whose steps all meet a condition. -/
def Runs (T : Threads I W ι α) (cond : Pool I W ι α → Action I ι α → Pool I W ι α → Prop) :
    Pool I W ι α → Pool I W ι α → Prop :=
  Relation.ReflTransGen fun s s' => ∃ action, Step T s action s' ∧ cond s action s'

/-- The rule for invariants of pools. -/
theorem Runs.invariant {T : Threads I W ι α}
    {cond : Pool I W ι α → Action I ι α → Pool I W ι α → Prop} (Inv : Pool I W ι α → Prop)
    (preserved : ∀ s action s', Inv s → Step T s action s' → cond s action s' → Inv s')
    {s s' : Pool I W ι α} (start : Inv s) (run : Runs T cond s s') : Inv s' := by
  induction run with
  | refl => exact start
  | tail _ last ih =>
      obtain ⟨action, stepped, met⟩ := last
      exact preserved _ action _ ih stepped met

/-- A run keeps to whatever follows from a condition on its steps and an invariant. -/
theorem Runs.strengthen {T : Threads I W ι α}
    {cond cond' : Pool I W ι α → Action I ι α → Pool I W ι α → Prop} (Inv : Pool I W ι α → Prop)
    (preserved : ∀ s action s', Inv s → Step T s action s' → cond s action s' → Inv s')
    (follows : ∀ s action s', Inv s → Step T s action s' → cond s action s' → cond' s action s')
    {s s' : Pool I W ι α} (start : Inv s) (run : Runs T cond s s') : Runs T cond' s s' := by
  induction run with
  | refl => exact .refl
  | tail before last ih =>
      have holds := Runs.invariant Inv preserved start before
      obtain ⟨action, stepped, met⟩ := last
      exact ih.tail ⟨action, stepped, follows _ action _ holds stepped met⟩

/-- A run whose steps all meet a condition is one of threads that only make such steps. -/
theorem Runs.restrict {T T' : Threads I W ι α}
    {cond : Pool I W ι α → Action I ι α → Pool I W ι α → Prop}
    (starts : ∀ thread program, T.starts thread program → T'.starts thread program)
    (onDrop : T.onDrop = T'.onDrop)
    (step : ∀ s s' thread op res, cond s (.act thread (.done op res)) s' →
      (T.semantics thread).step s.world op res s'.world →
      (T'.semantics thread).step s.world op res s'.world)
    (leave : ∀ s s' thread op outcome, cond s (.act thread (.abandoned op outcome)) s' →
      (T.semantics thread).leave s.world op outcome s'.world →
      (T'.semantics thread).leave s.world op outcome s'.world)
    (drift : ∀ s s' thread, cond s .drift s' → (T.semantics thread).drift s.world s'.world →
      (T'.semantics thread).drift s.world s'.world)
    {s s' : Pool I W ι α} (run : Runs T cond s s') : Runs T' cond s s' := by
  refine Relation.ReflTransGen.mono ?_ _ _ run
  rintro s s' ⟨action, stepped, met⟩
  refine ⟨action, ?_, met⟩
  cases stepped with
  | start fresh allowed => exact .start fresh (starts _ _ allowed)
  | done running moved => exact .done running (step _ _ _ _ _ met moved)
  | abandoned running left => exact .abandoned running (leave _ _ _ _ _ met left)
  | fired running => exact .fired running
  | quiet running => exact .quiet running
  | drop running suspends =>
      rw [onDrop]
      exact .drop running suspends
  | drift moved => exact .drift (drift _ _ _ met moved)

/-! ### Contracts in a pool -/

/-- Each thread is still safe. -/
def Safe (T : Threads I W ι α) (C : ι → Contract I W) (Q : ι → α → W → History I → Prop)
    (s : Pool I W ι α) : Prop :=
  ∀ thread program, s.program thread = some program →
    program.safe (T.semantics thread) (C thread) (Q thread) s.world (s.history thread)

variable {T : Threads I W ι α} {C : ι → Contract I W} {Q : ι → α → W → History I → Prop}
  {s s' : Pool I W ι α} {action : Action I ι α}

/-- The world changes by an operation that a thread has the right to, or on its own. -/
inductive Change (T : Threads I W ι α) (C : ι → Contract I W) (s : Pool I W ι α) (world : W) :
    Action I ι α → Prop where
  | same {action : Action I ι α} (unchanged : world = s.world) : Change T C s world action
  | done {thread : ι} {op : I.Op} {res : I.Res op}
      (asserted : (C thread).asserts s.world (s.history thread) op)
      (step : (T.semantics thread).step s.world op res world) :
      Change T C s world (.act thread (.done op res))
  | abandoned {thread : ι} {op : I.Op} {outcome : Option (I.Res op)}
      (asserted : (C thread).asserts s.world (s.history thread) op)
      (left : (T.semantics thread).leave s.world op outcome world) :
      Change T C s world (.act thread (.abandoned op outcome))
  | drift {thread : ι} (drift : (T.semantics thread).drift s.world world) :
      Change T C s world .drift

theorem Step.world (safe : Safe T C Q s) (stepped : Step T s action s') :
    Change T C s s'.world action := by
  cases stepped with
  | start | fired | quiet | drop => exact .same rfl
  | done running step => exact .done (safe _ _ running _ .refl).1 step
  | abandoned running left => exact .abandoned (safe _ _ running _ .refl).1 left
  | drift drift => exact .drift drift

theorem history_other {thread other : ι} (ne : other ≠ thread) (program : Prog I α)
    (event : Event I) (world : W) :
    (s.next thread program event world).history other = s.history other :=
  Function.update_of_ne ne ..

/-- A thread that does not move keeps its program and its history. -/
theorem Step.unmoved (stepped : Step T s action s') {other : ι} (still : action.thread ≠ some other) :
    s'.program other = s.program other ∧ s'.history other = s.history other := by
  have ne : ∀ {thread : ι}, some thread ≠ some other → other ≠ thread :=
    fun different same => different (congrArg some same.symm)
  cases stepped with
  | start | quiet | drop => exact ⟨Function.update_of_ne (ne still) .., rfl⟩
  | done | abandoned | fired =>
      exact ⟨Function.update_of_ne (ne still) .., history_other (ne still) ..⟩
  | drift => exact ⟨rfl, rfl⟩

/-- A history grows by what its thread does, one event at a time. -/
theorem Step.history (stepped : Step T s action s') (thread : ι) :
    s'.history thread = s.history thread ∨
      ∃ event, action = .act thread event ∧ s'.history thread = s.history thread ++ [event] := by
  by_cases moves : action.thread = some thread
  · cases stepped with
    | start | quiet | drop | drift => exact .inl rfl
    | done | abandoned | fired =>
        obtain rfl := Option.some.inj moves
        exact .inr ⟨_, rfl, Function.update_self ..⟩
  · exact .inl (stepped.unmoved moves).2

/-- Nothing has been done by a thread that has not been started. -/
theorem Step.fresh (stepped : Step T s action s')
    (fresh : ∀ thread, s.program thread = none → s.history thread = []) (thread : ι)
    (absent : s'.program thread = none) : s'.history thread = [] := by
  by_cases moves : action.thread = some thread
  · have started : ∀ {program : Prog I α},
        Function.update s.program thread (some program) thread ≠ none := by
      intro program none
      rw [Function.update_self] at none
      cases none
    cases stepped with
    | start | done | abandoned | fired | quiet | drop =>
        obtain rfl := Option.some.inj moves
        exact absurd absent started
    | drift => cases moves
  · obtain ⟨program, history⟩ := stepped.unmoved moves
    rw [history]
    exact fresh thread (program.symm.trans absent)

/-- Threads that are not the one that moves stay safe where they can rely on the change. -/
theorem Safe.others (safe : Safe T C Q s) {thread : ι} {program' : Prog I α}
    {h : History I} {world : W} (own : program'.safe (T.semantics thread) (C thread) (Q thread)
      world h) (programs : s'.program = Function.update s.program thread (some program'))
    (own' : s'.history thread = h)
    (histories : ∀ other, other ≠ thread → s'.history other = s.history other)
    (world' : s'.world = world)
    (relied : ∀ other, other ≠ thread → s.program other ≠ none →
      (C other).rely (s.history other) s.world s'.world ∨ s'.world = s.world) :
    Safe T C Q s' := by
  intro other found running
  rw [programs] at running
  by_cases same : other = thread
  · subst same
    rw [Function.update_self] at running
    obtain rfl := Option.some.inj running
    rw [own', world']
    exact own
  · rw [Function.update_of_ne same] at running
    rw [histories other same]
    rcases relied other same (by simp [running]) with change | unchanged
    · exact Prog.safe_others (safe other found running) (.single change)
    · rw [unchanged]
      exact safe other found running

/-- A step keeps every thread safe, if a thread that is started is safe, one that is dropped may be
dropped, and the others can rely on what has changed. -/
theorem Safe.step (safe : Safe T C Q s) (stepped : Step T s action s')
    (started : ∀ thread program, action = .start thread program → T.starts thread program →
      program.safe (T.semantics thread) (C thread) (Q thread) s.world (s.history thread))
    (dropped : ∀ thread, action = .drop thread → ∀ world h, (C thread).left world h →
      (T.onDrop thread).safe (T.semantics thread) (C thread) (Q thread) world h)
    (relied : ∀ other, action.thread ≠ some other → s.program other ≠ none →
      (C other).rely (s.history other) s.world s'.world ∨ s'.world = s.world) :
    Safe T C Q s' := by
  have ne : ∀ {thread other : ι}, other ≠ thread → some thread ≠ some other :=
    fun different same => different (Option.some.inj same).symm
  cases stepped with
  | start fresh starts =>
      exact safe.others (started _ _ rfl starts) rfl rfl (fun _ _ => rfl) rfl
        fun other different running => relied other (ne different) running
  | done running step =>
      refine safe.others ((safe _ _ running _ .refl).2.2 _ _ step) rfl ?_
        (fun other different => history_other different ..) rfl
        fun other different running => relied other (ne different) running
      exact Function.update_self ..
  | abandoned running left =>
      refine safe.others ((safe _ _ running _ .refl).2 _ _ left) rfl ?_
        (fun other different => history_other different ..) rfl
        fun other different running => relied other (ne different) running
      exact Function.update_self ..
  | fired running =>
      refine safe.others (safe _ _ running _ .refl).1 rfl ?_
        (fun other different => history_other different ..) rfl
        fun other different running => relied other (ne different) running
      exact Function.update_self ..
  | quiet running =>
      exact safe.others (safe _ _ running _ .refl).2 rfl rfl (fun _ _ => rfl) rfl
        fun other different running => relied other (ne different) running
  | @drop thread op next running suspends =>
      have own := Prog.safe_drop suspends (safe _ _ running)
        (dropped thread rfl)
      exact safe.others own rfl rfl (fun _ _ => rfl) rfl
        fun other different running => relied other (ne different) running
  | drift drift =>
      intro other found running
      have alive : s.program other ≠ none := fun nothing => by
        rw [show s.program other = some found from running] at nothing
        cases nothing
      rcases relied other (fun impossible => by cases impossible) alive with change | unchanged
      · exact Prog.safe_others (safe other found running) (.single change)
      · rw [unchanged]
        exact safe other found running

end Pool

end Async
