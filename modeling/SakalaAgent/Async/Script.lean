/-
Module: SakalaAgent.Async.Script
Layer: Async (library)
Purpose: Runs that are computed. A script says how each operation is answered and which alarms are
  seen; a script whose answers the surroundings can give turns a program, or a pool with a schedule,
  into a run.
Trusted boundary: none
Main exports: Script, Script.guarded, Prog.play, Prog.play_sound, Pool.Move, Pool.play, Pool.play_sound
-/
import SakalaAgent.Async.Interleaving

namespace Async

/-- One way to answer: no answer means that the script has come to its end. -/
structure Script (I : Interface) (W : Type) where
  answer : History I → W → (op : I.Op) → Option (I.Res op × W)
  leave : W → (op : I.Op) → Option (Option (I.Res op) × W)
  fires : History I → I.Alarm → I.Op → Bool

/-- The surroundings can answer as the script does. -/
structure Script.Sound {I : Interface} {W : Type} (script : Script I W) (S : Semantics I W) :
    Prop where
  answer : ∀ {h w op res w'}, script.answer h w op = some (res, w') → S.step w op res w'
  leave : ∀ {w op outcome w'}, script.leave w op = some (outcome, w') → S.leave w op outcome w'

/-- A script that comes to its end at an operation that is not allowed. -/
def Script.guarded {I : Interface} {W : Type} (script : Script I W) (allowed : W → I.Op → Bool) :
    Script I W :=
  { script with
    answer := fun h w op => if allowed w op then script.answer h w op else none }

theorem Script.Sound.guarded {I : Interface} {W : Type} {script : Script I W} {S : Semantics I W}
    (sound : script.Sound S) (allowed : W → I.Op → Bool) : (script.guarded allowed).Sound
      { S with step := fun w op res w' => S.step w op res w' ∧ allowed w op = true } where
  answer := by
    intro h w op res w' answered
    unfold Script.guarded at answered
    dsimp only at answered
    split at answered
    · rename_i may
      exact ⟨sound.answer answered, may⟩
    · cases answered
  leave := sound.leave

namespace Prog

variable {I : Interface} {W α : Type} {S : Semantics I W} {script : Script I W}

/-- The run of a program under a script. -/
def play (script : Script I W) : Prog I α → W → History I → Option (α × W × History I)
  | .ret value, w, h => some (value, w, h)
  | .call op next, w, h =>
      match script.answer h w op with
      | some (res, w') => (next res).play script w' (h ++ [.done op res])
      | none => none
  | .abandon op next, w, h =>
      match script.leave w op with
      | some (outcome, w') => next.play script w' (h ++ [.abandoned op outcome])
      | none => none
  | .alarm which op fired quiet, w, h =>
      if script.fires h which op then fired.play script w (h ++ [.fired which op])
      else quiet.play script w h

theorem play_sound (sound : script.Sound S) {p : Prog I α} {w w' : W} {h h' : History I}
    {value : α} (played : p.play script w h = some (value, w', h')) :
    Exec S p w h value w' h' := by
  induction p generalizing w h with
  | ret result =>
      cases played
      exact .ret ..
  | call op next ih =>
      unfold play at played
      split at played
      · rename_i res w₁ answered
        exact .call (.refl w) res (sound.answer answered) (ih res played)
      · cases played
  | abandon op next ih =>
      unfold play at played
      split at played
      · rename_i outcome w₁ left
        exact .abandon (.refl w) outcome (sound.leave left) (ih played)
      · cases played
  | alarm which op fired quiet ihFired ihQuiet =>
      unfold play at played
      split at played
      · exact .fired (ihFired played)
      · exact .quiet (ihQuiet played)

end Prog

namespace Pool

variable {I : Interface} {W ι α : Type} [DecidableEq ι]

/-- One entry of a schedule: a thread is started, goes on for so many steps at most, or the
surroundings change on their own. -/
inductive Move (I : Interface) (W ι α : Type) where
  | start (thread : ι) (program : Prog I α)
  | go (thread : ι) (steps : Nat)
  | drift (change : W → Option W)

/-- One step of one thread. -/
def advance (script : ι → Script I W) (thread : ι) (s : Pool I W ι α) : Option (Pool I W ι α) :=
  match s.program thread with
  | some (.call op next) =>
      match (script thread).answer (s.history thread) s.world op with
      | some (res, world) => some (s.next thread (next res) (.done op res) world)
      | none => none
  | some (.abandon op next) =>
      match (script thread).leave s.world op with
      | some (outcome, world) => some (s.next thread next (.abandoned op outcome) world)
      | none => none
  | some (.alarm which op fired quiet) =>
      if (script thread).fires (s.history thread) which op then
        some (s.next thread fired (.fired which op) s.world)
      else some (s.become thread quiet)
  | _ => none

/-- What a thread has returned, if it has come to its end. -/
def returned (s : Pool I W ι α) (thread : ι) : Option α :=
  match s.program thread with
  | some (.ret value) => some value
  | _ => none

/-- So many steps of one thread, or as many as it makes. -/
def advances (script : ι → Script I W) (thread : ι) : Nat → Pool I W ι α → Pool I W ι α
  | 0, s => s
  | steps + 1, s =>
      match s.advance script thread with
      | some s' => s'.advances script thread steps
      | none => s

/-- The run of a pool under a schedule. -/
def play (script : ι → Script I W) : List (Move I W ι α) → Pool I W ι α → Option (Pool I W ι α)
  | [], s => some s
  | .start thread program :: moves, s =>
      match s.program thread with
      | none => play script moves (s.become thread program)
      | some _ => none
  | .go thread steps :: moves, s => play script moves (s.advances script thread steps)
  | .drift change :: moves, s =>
      match change s.world with
      | some world => play script moves { s with world }
      | none => none

/-- A step that a script makes. -/
def Scripted (script : ι → Script I W) (s : Pool I W ι α) (s' : Pool I W ι α) :
    Action I ι α → Prop
  | .act thread (.done op res) =>
      (script thread).answer (s.history thread) s.world op = some (res, s'.world)
  | .act thread (.abandoned op outcome) =>
      (script thread).leave s.world op = some (outcome, s'.world)
  | .act _ (.fired _ _) => True
  | .start _ _ => True
  | .quiet _ => True
  | .drop _ => False
  | .drift => False

/-- A schedule starts only what may be started, and changes the surroundings only as they can. -/
def Scheduled (T : Threads I W ι α) (cond : Pool I W ι α → Action I ι α → Pool I W ι α → Prop) :
    Move I W ι α → Prop
  | .start thread program => T.starts thread program
  | .go _ _ => True
  | .drift change => ∀ (s : Pool I W ι α) world, change s.world = some world →
      (∃ thread, (T.semantics thread).drift s.world world) ∧ cond s .drift { s with world }

variable {T : Threads I W ι α} {script : ι → Script I W} {s s' : Pool I W ι α} {thread : ι}
  {cond : Pool I W ι α → Action I ι α → Pool I W ι α → Prop}

omit [DecidableEq ι] in
theorem program_of_returned {value : α} (returned : s.returned thread = some value) :
    s.program thread = some (.ret value) := by
  unfold Pool.returned at returned
  split at returned
  · rename_i result running
    cases returned
    exact running
  · cases returned

/-- A thread that has come to its end stays there. -/
theorem Step.returned {action : Action I ι α} {value : α} (stepped : Step T s action s')
    (returned : s.returned thread = some value) : s'.returned thread = some value := by
  have ended := program_of_returned returned
  by_cases moves : action.thread = some thread
  · cases stepped with
    | start running | done running | abandoned running | fired running | quiet running
    | drop running =>
        obtain rfl := Option.some.inj moves
        rw [ended] at running
        cases running
    | drift => cases moves
  · unfold Pool.returned
    rw [(stepped.unmoved moves).1, ended]

theorem advance_sound (sound : (script thread).Sound (T.semantics thread))
    (advanced : s.advance script thread = some s') :
    ∃ action, Step T s action s' ∧ Scripted script s s' action := by
  unfold advance at advanced
  split at advanced
  · rename_i op next running
    split at advanced
    · rename_i res world answered
      cases advanced
      exact ⟨_, .done running (sound.answer answered), answered⟩
    · cases advanced
  · rename_i op next running
    split at advanced
    · rename_i outcome world left
      cases advanced
      exact ⟨_, .abandoned running (sound.leave left), left⟩
    · cases advanced
  · rename_i which op fired quiet running
    split at advanced
    · cases advanced
      exact ⟨_, .fired running, trivial⟩
    · cases advanced
      exact ⟨_, .quiet running, trivial⟩
  · cases advanced

variable (met : ∀ s action s', Scripted script s s' action → cond s action s')

include met

theorem advances_sound (sound : (script thread).Sound (T.semantics thread)) (steps : Nat) :
    Runs T cond s (s.advances script thread steps) := by
  induction steps generalizing s with
  | zero => exact .refl
  | succ steps ih =>
      unfold advances
      split
      · rename_i s₁ first
        obtain ⟨action, stepped, scripted⟩ := advance_sound sound first
        exact .head ⟨action, stepped, met _ _ _ scripted⟩ ih
      · exact .refl

theorem play_sound (sound : ∀ thread, (script thread).Sound (T.semantics thread))
    {moves : List (Move I W ι α)} (scheduled : ∀ move ∈ moves, Scheduled T cond move)
    (played : s.play script moves = some s') : Runs T cond s s' := by
  induction moves generalizing s with
  | nil =>
      cases played
      exact .refl
  | cons move moves ih =>
      have now := scheduled move List.mem_cons_self
      have later : ∀ move ∈ moves, Scheduled T cond move :=
        fun other member => scheduled other (List.mem_cons_of_mem _ member)
      cases move with
      | start thread program =>
          unfold play at played
          split at played
          · rename_i fresh
            exact .head ⟨_, .start fresh now, met _ _ _ trivial⟩ (ih later played)
          · cases played
      | go thread steps =>
          unfold play at played
          exact (advances_sound met (sound thread) steps).trans (ih later played)
      | drift change =>
          unfold play at played
          split at played
          · rename_i world changed
            obtain ⟨⟨thread, drift⟩, holds⟩ := now s world changed
            exact .head ⟨_, .drift drift, holds⟩ (ih later played)
          · cases played

end Pool

end Async
