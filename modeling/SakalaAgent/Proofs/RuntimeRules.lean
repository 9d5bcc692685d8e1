/-
Module: SakalaAgent.Proofs.RuntimeRules
Layer: Proofs
Purpose: Threads of the runtime under a contract that does not look at the history: rules for the
  futures that uphold a condition, among them those with a deadline and those raced with the
  cancellation of their request.
Trusted boundary: none
Main exports: Upholds, Upholds.Safe, Upholds.safe_withTimeout, Upholds.safe_untilCancelled
-/
import SakalaAgent.Async.Interleaving
import SakalaAgent.Runtime.Executor

namespace SakalaAgent

open Async

/-- A condition that others keep and that holds wherever a thread may be dropped; looking at the flag
of the cutover is allowed and changes nothing. -/
structure Upholds {W : Type} (S : Semantics Runtime W) (C : Contract Runtime W) (Good : W → Prop) :
    Prop where
  blind : C.Blind
  rely : ∀ {h w w'}, Good w → C.rely h w w' → Good w'
  left : ∀ {w h}, C.left w h ↔ Good w
  flag : ∀ {w h}, C.asserts w h .routeActivated
  reads : ∀ {w res w'}, S.step w .routeActivated res w' → w' = w

namespace Upholds

variable {W : Type} {S : Semantics Runtime W} {C : Contract Runtime W} {Good : W → Prop}
  {α β : Type} {w w' : W} {h : History Runtime}

/-- Wherever the future is, the condition holds. -/
abbrev Safe (_ : Upholds S C Good) (p : Prog Runtime α) (w : W) (h : History Runtime) : Prop :=
  p.safe S C (fun _ w _ => Good w) w h

theorem others (upholds : Upholds S C Good) (others : C.Others h w w') (good : Good w) : Good w' :=
  others.keeps Good (fun _ _ => upholds.rely) good

theorem safe_ret (upholds : Upholds S C Good) {value : α} {Q : α → W → History Runtime → Prop}
    (good : Good w) (hQ : ∀ w, Good w → Q value w h) : (Prog.ret value).safe S C Q w h :=
  fun _ changes => hQ _ (upholds.others changes good)

theorem safe_end (upholds : Upholds S C Good) {value : α} (good : Good w) :
    upholds.Safe (.ret value) w h :=
  upholds.safe_ret good fun _ good => good

theorem safe_bind (upholds : Upholds S C Good) {p : RuntimeM α} {f : α → RuntimeM β}
    (first : upholds.Safe p.run w h)
    (rest : ∀ value w h, Good w → upholds.Safe (f value).run w h) :
    upholds.Safe (p >>= f).run w h := by
  apply Fallible.safe_bind
  apply Prog.safe_mono first
  rintro (error | value) w h good
  · exact upholds.safe_end good
  · exact rest value w h good

theorem safe_attempt (upholds : Upholds S C Good) {p : RuntimeM α}
    {f : Except RuntimeError α → RuntimeM β} (first : upholds.Safe p.run w h)
    (rest : ∀ outcome w h, Good w → upholds.Safe (f outcome).run w h) :
    upholds.Safe (Fallible.attempt p >>= f).run w h := by
  apply Fallible.safe_attempt
  exact Prog.safe_mono first rest

/-- A deadline, behind which a future is dropped. -/
theorem safe_withTimeout (upholds : Upholds S C Good) {which : RuntimeAlarm} {operation : String}
    {seconds : Nat} {future : RuntimeM α} (first : upholds.Safe future.run w h) :
    upholds.Safe (withTimeout which operation seconds future).run w h := by
  apply Prog.safe_bind
  apply Prog.safe_timeout upholds.blind first
  · exact fun _ _ _ good => upholds.safe_end good
  · intro w h w' left changes
    exact upholds.safe_end (upholds.others changes (upholds.left.mp left))

/-- A cancellation that is seen drops the future or waits for it, as the flag of the cutover says. -/
theorem safe_untilCancelled (upholds : Upholds S C Good) {future : RuntimeM Unit}
    (first : upholds.Safe future.run w h) : upholds.Safe (untilCancelled future).run w h := by
  apply Prog.safe_bind
  apply Prog.safe_race upholds.blind first
  case hQ => exact fun _ _ _ good => upholds.safe_end good
  intro op next w h suspends rest w₀ changes
  refine ⟨upholds.flag, (fun suspends => nomatch suspends), fun activated w' step => ?_⟩
  obtain rfl := upholds.reads step
  have rest := Prog.safe_others rest changes
  cases activated with
  | true =>
      apply Prog.safe_mono (Prog.safe_history upholds.blind _ rest)
      exact fun _ _ _ good => upholds.safe_end good
  | false =>
      apply Prog.safe_drop suspends (Prog.safe_history upholds.blind _ rest)
      intro w h left w' changes
      exact upholds.safe_end (upholds.others changes (upholds.left.mp left))

end Upholds

end SakalaAgent
