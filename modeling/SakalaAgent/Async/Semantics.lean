/-
Module: SakalaAgent.Async.Semantics
Layer: Async (library)
Purpose: Running programs. The surroundings answer an operation and may change on their own between
  two operations; a history records what a program asked for and which alarms it saw. `Exec` gives
  the finished runs. The predicate transformer `wp` is how every run is reasoned about, and `CanEnd`
  is how one is put together. `wp` carries a second condition, the one that has to hold wherever the
  program may be left.
Trusted boundary: none
Main exports: Semantics, History, Exec, Prog.wp, Prog.CanEnd, Prog.wp_sound, Prog.wp_race, Preserves
-/
import SakalaAgent.Async.Program

namespace Async

/-- One entry of a history. An operation nobody waits for any more has ended with an answer that is
not read, or is left in flight. -/
inductive Event (I : Interface) where
  | done (op : I.Op) (res : I.Res op)
  | abandoned (op : I.Op) (outcome : Option (I.Res op))
  | fired (which : I.Alarm) (op : I.Op)

/-- What an entry shows to have been asked for. -/
def Event.asked {I : Interface} : Event I → Option I.Op
  | .done op _ => some op
  | .abandoned op _ => some op
  | .fired _ _ => none

/-- What has happened so far, in order. -/
abbrev History (I : Interface) : Type := List (Event I)

/-- How the surroundings behave: the states an operation can lead to with a given answer, the states
an operation can lead to when it is left, and the changes that need no operation. -/
structure Semantics (I : Interface) (W : Type) where
  step : W → (op : I.Op) → I.Res op → W → Prop
  leave : W → (op : I.Op) → Option (I.Res op) → W → Prop
  drift : W → W → Prop

/-- Any number of changes that need no operation. -/
inductive Drifts {I : Interface} {W : Type} (S : Semantics I W) : W → W → Prop where
  | refl (w : W) : Drifts S w w
  | head {w w₁ w' : W} (first : S.drift w w₁) (rest : Drifts S w₁ w') : Drifts S w w'

theorem Drifts.trans {I : Interface} {W : Type} {S : Semantics I W} {w w' w'' : W}
    (first : Drifts S w w') (second : Drifts S w' w'') : Drifts S w w'' := by
  induction first with
  | refl w => exact second
  | head step _ ih => exact .head step (ih second)

theorem Drifts.keeps {I : Interface} {W : Type} {S : Semantics I W} (P : W → Prop)
    (stable : ∀ w w', P w → S.drift w w' → P w') {w w' : W} (drifts : Drifts S w w')
    (holds : P w) : P w' := by
  induction drifts with
  | refl w => exact holds
  | head first _ ih => exact ih (stable _ _ holds first)

/-- The finished runs of a program, from a state and a history to a result, a state and a longer
history. -/
inductive Exec {I : Interface} {W α : Type} (S : Semantics I W) :
    Prog I α → W → History I → α → W → History I → Prop where
  | ret (value : α) (w : W) (h : History I) : Exec S (.ret value) w h value w h
  | call {op : I.Op} {next : I.Res op → Prog I α} {w w₀ w₁ w' : W} {h h' : History I} {value : α}
      (drifts : Drifts S w w₀) (res : I.Res op) (step : S.step w₀ op res w₁)
      (rest : Exec S (next res) w₁ (h ++ [.done op res]) value w' h') :
      Exec S (.call op next) w h value w' h'
  | abandon {op : I.Op} {next : Prog I α} {w w₀ w₁ w' : W} {h h' : History I} {value : α}
      (drifts : Drifts S w w₀) (outcome : Option (I.Res op)) (left : S.leave w₀ op outcome w₁)
      (rest : Exec S next w₁ (h ++ [.abandoned op outcome]) value w' h') :
      Exec S (.abandon op next) w h value w' h'
  | fired {which : I.Alarm} {op : I.Op} {fired quiet : Prog I α} {w w' : W} {h h' : History I}
      {value : α} (rest : Exec S fired w (h ++ [.fired which op]) value w' h') :
      Exec S (.alarm which op fired quiet) w h value w' h'
  | quiet {which : I.Alarm} {op : I.Op} {fired quiet : Prog I α} {w w' : W} {h h' : History I}
      {value : α} (rest : Exec S quiet w h value w' h') :
      Exec S (.alarm which op fired quiet) w h value w' h'

namespace Prog

variable {I : Interface} {W α β : Type} {S : Semantics I W}

/-- Every run ends in `Q`, and wherever the program may be left `D` holds afterwards. -/
def wp (S : Semantics I W) (Q : α → W → History I → Prop) (D : W → History I → Prop) :
    Prog I α → W → History I → Prop
  | .ret value, w, h => Q value w h
  | .call op next, w, h => ∀ w₀, Drifts S w w₀ →
      (I.suspends op = true → ∀ outcome w', S.leave w₀ op outcome w' →
        D w' (h ++ [.abandoned op outcome])) ∧
      ∀ res w', S.step w₀ op res w' → (next res).wp S Q D w' (h ++ [.done op res])
  | .abandon op next, w, h => ∀ w₀, Drifts S w w₀ →
      ∀ outcome w', S.leave w₀ op outcome w' → next.wp S Q D w' (h ++ [.abandoned op outcome])
  | .alarm which op fired quiet, w, h =>
      fired.wp S Q D w (h ++ [.fired which op]) ∧ quiet.wp S Q D w h

theorem wp_sound {p : Prog I α} {w w' : W} {h h' : History I} {value : α}
    (Q : α → W → History I → Prop) {D : W → History I → Prop}
    (run : Exec S p w h value w' h') (pre : p.wp S Q D w h) : Q value w' h' := by
  induction run with
  | ret value w h => exact pre
  | call drifts res step _ ih => exact ih ((pre _ drifts).2 res _ step)
  | abandon drifts outcome left _ ih => exact ih (pre _ drifts outcome _ left)
  | fired _ ih => exact ih pre.1
  | quiet _ ih => exact ih pre.2

/-! ### Rules -/

theorem wp_mono {p : Prog I α} {Q Q' : α → W → History I → Prop} {D D' : W → History I → Prop}
    {w : W} {h : History I} (pre : p.wp S Q D w h)
    (hQ : ∀ value w h, Q value w h → Q' value w h) (hD : ∀ w h, D w h → D' w h) :
    p.wp S Q' D' w h := by
  induction p generalizing w h with
  | ret value => exact hQ value w h pre
  | call op next ih =>
      exact fun w₀ drifts =>
        ⟨fun suspends outcome w' left => hD _ _ ((pre w₀ drifts).1 suspends outcome w' left),
          fun res w' step => ih res ((pre w₀ drifts).2 res w' step)⟩
  | abandon op next ih =>
      exact fun w₀ drifts outcome w' left => ih (pre w₀ drifts outcome w' left)
  | alarm which op fired quiet ihFired ihQuiet => exact ⟨ihFired pre.1, ihQuiet pre.2⟩

/-- What every result satisfies holds where a run ends. -/
theorem wp_yields {p : Prog I α} {good : α → Prop} {Q : α → W → History I → Prop}
    {D : W → History I → Prop} {w : W} {h : History I} (yields : p.Yields good)
    (pre : p.wp S Q D w h) : p.wp S (fun value w h => good value ∧ Q value w h) D w h := by
  induction p generalizing w h with
  | ret value => exact ⟨yields, pre⟩
  | call op next ih =>
      intro w₀ drifts
      obtain ⟨left, continued⟩ := pre w₀ drifts
      exact ⟨left, fun res w' step => ih res (yields res) (continued res w' step)⟩
  | abandon op next ih =>
      exact fun w₀ drifts outcome w' left => ih yields (pre w₀ drifts outcome w' left)
  | alarm which op fired quiet ihFired ihQuiet =>
      exact ⟨ihFired yields.1 pre.1, ihQuiet yields.2 pre.2⟩

theorem wp_bind {p : Prog I α} {f : α → Prog I β} {Q : β → W → History I → Prop}
    {D : W → History I → Prop} {w : W} {h : History I} :
    (p.bind f).wp S Q D w h ↔ p.wp S (fun value w h => (f value).wp S Q D w h) D w h := by
  induction p generalizing w h with
  | ret value => rfl
  | call op next ih => simp only [bind, wp, ih]
  | abandon op next ih => simp only [bind, wp, ih]
  | alarm which op fired quiet ihFired ihQuiet => simp only [bind, wp, ihFired, ihQuiet]

/-- What is known of a future that waits is known after changes that need no operation. -/
theorem wp_call_drifts {op : I.Op} {next : I.Res op → Prog I α} {Q : α → W → History I → Prop}
    {D : W → History I → Prop} {w w' : W} {h : History I}
    (pre : (Prog.call op next).wp S Q D w h) (drifts : Drifts S w w') :
    (Prog.call op next).wp S Q D w' h :=
  fun w₀ later => pre w₀ (drifts.trans later)

/-- Leaving a future that waits for something leads to where its second condition says. -/
theorem wp_drop {op : I.Op} {next : I.Res op → Prog I α} {after : Prog I β}
    {Q : α → W → History I → Prop} {D : W → History I → Prop} {Q' : β → W → History I → Prop}
    {D' : W → History I → Prop} {w : W} {h h' : History I} (suspends : I.suspends op = true)
    (pre : (Prog.call op next).wp S Q D w h)
    (continued : ∀ w' outcome, D w' (h ++ [.abandoned op outcome]) →
      after.wp S Q' D' w' (h' ++ [.abandoned op outcome])) :
    ((Prog.call op next).drop after).wp S Q' D' w h' :=
  fun w₀ drifts outcome w' left =>
    continued w' outcome ((pre w₀ drifts).1 suspends outcome w' left)

/-! ### Runs that there are -/

section CanEnd

variable {good : Event I → Prop} {w w₁ w' : W}

theorem exec_bind {p : Prog I α} {f : α → Prog I β} {h h' h'' : History I} {value : α} {result : β}
    (first : Exec S p w h value w₁ h') (rest : Exec S (f value) w₁ h' result w' h'') :
    Exec S (p.bind f) w h result w' h'' := by
  induction first with
  | ret value w h => exact rest
  | call drifts res step _ ih => exact .call drifts res step (ih rest)
  | abandon drifts outcome left _ ih => exact .abandon drifts outcome left (ih rest)
  | fired _ ih => exact .fired (ih rest)
  | quiet _ ih => exact .quiet (ih rest)

end CanEnd

/-- A run only adds to its history. -/
theorem prefix_of_exec {p : Prog I α} {w w' : W} {h h' : History I} {value : α}
    (run : Exec S p w h value w' h') : h <+: h' := by
  induction run with
  | ret value w h => exact List.prefix_rfl
  | call _ _ _ _ ih | abandon _ _ _ _ ih | fired _ ih =>
      exact (List.prefix_append _ _).trans ih
  | quiet _ ih => exact ih

/-- A run of a future that waits begins with the answer. -/
theorem exec_call {op : I.Op} {next : I.Res op → Prog I α} {w w' : W} {h h' : History I} {value : α}
    (run : Exec S (.call op next) w h value w' h') : ∃ w₀ res w₁, Drifts S w w₀ ∧
      S.step w₀ op res w₁ ∧ Exec S (next res) w₁ (h ++ [.done op res]) value w' h' := by
  cases run with
  | call drifts res step rest => exact ⟨_, res, _, drifts, step, rest⟩

/-- A future has a run when its surroundings answer everything it may ask for. -/
theorem exists_exec (ok : I.Op → Prop) (Inv : W → Prop)
    (answers : ∀ op, ok op → ∀ w, Inv w → ∃ res w', S.step w op res w' ∧ Inv w')
    (leaves : ∀ op, ok op → ∀ w, Inv w → ∃ outcome w', S.leave w op outcome w' ∧ Inv w')
    {p : Prog I α} (ops : p.AllOps ok) {w : W} (holds : Inv w) (h : History I) :
    ∃ value w' h', Exec S p w h value w' h' ∧ Inv w' := by
  induction p generalizing w h with
  | ret value => exact ⟨value, w, h, .ret value w h, holds⟩
  | call op next ih =>
      obtain ⟨res, w₁, step, kept⟩ := answers op ops.1 w holds
      obtain ⟨value, w', h', run, ends⟩ := ih res (ops.2 res) kept (h ++ [.done op res])
      exact ⟨value, w', h', .call (.refl w) res step run, ends⟩
  | abandon op next ih =>
      obtain ⟨outcome, w₁, left, kept⟩ := leaves op ops.1 w holds
      obtain ⟨value, w', h', run, ends⟩ := ih ops.2 kept (h ++ [.abandoned op outcome])
      exact ⟨value, w', h', .abandon (.refl w) outcome left run, ends⟩
  | alarm which op fired quiet _ ihQuiet =>
      obtain ⟨value, w', h', run, ends⟩ := ihQuiet ops.2 holds h
      exact ⟨value, w', h', .quiet run, ends⟩

/-! ### The states of a run -/

/-- A run of a future has come to a rest of the future, in a state and with a history. -/
inductive Comes (S : Semantics I W) :
    Prog I α → W → History I → Prog I α → W → History I → Prop where
  | refl (p : Prog I α) (w : W) (h : History I) : Comes S p w h p w h
  | drift {p p' : Prog I α} {w w₁ w' : W} {h h' : History I} (first : S.drift w w₁)
      (rest : Comes S p w₁ h p' w' h') : Comes S p w h p' w' h'
  | call {op : I.Op} {next : I.Res op → Prog I α} {p' : Prog I α} {w w₁ w' : W}
      {h h' : History I} (res : I.Res op) (step : S.step w op res w₁)
      (rest : Comes S (next res) w₁ (h ++ [.done op res]) p' w' h') :
      Comes S (.call op next) w h p' w' h'
  | abandon {op : I.Op} {next p' : Prog I α} {w w₁ w' : W} {h h' : History I}
      (outcome : Option (I.Res op)) (left : S.leave w op outcome w₁)
      (rest : Comes S next w₁ (h ++ [.abandoned op outcome]) p' w' h') :
      Comes S (.abandon op next) w h p' w' h'
  | fired {which : I.Alarm} {op : I.Op} {fired quiet p' : Prog I α} {w w' : W}
      {h h' : History I} (rest : Comes S fired w (h ++ [.fired which op]) p' w' h') :
      Comes S (.alarm which op fired quiet) w h p' w' h'
  | quiet {which : I.Alarm} {op : I.Op} {fired quiet p' : Prog I α} {w w' : W}
      {h h' : History I} (rest : Comes S quiet w h p' w' h') :
      Comes S (.alarm which op fired quiet) w h p' w' h'

/-- What a future does next to the state: the operation it waits for is carried out, or one that nobody
waits for any more is left. -/
inductive Acts (S : Semantics I W) : Prog I α → W → W → Prop where
  | call {op : I.Op} {next : I.Res op → Prog I α} {w w' : W} (res : I.Res op)
      (step : S.step w op res w') : Acts S (.call op next) w w'
  | abandon {op : I.Op} {next : Prog I α} {w w' : W} (outcome : Option (I.Res op))
      (left : S.leave w op outcome w') : Acts S (.abandon op next) w w'

/-! ### Invariants -/

/-- `Inv` survives every operation allowed by `ok`, awaited or left, every alarm, and every change
that needs no operation. -/
structure Preserves (S : Semantics I W) (ok : I.Op → Prop) (Inv : W → History I → Prop) : Prop where
  done : ∀ op, ok op → ∀ w h res w', Inv w h → S.step w op res w' → Inv w' (h ++ [.done op res])
  abandoned : ∀ op, ok op → ∀ w h outcome w', Inv w h → S.leave w op outcome w' →
    Inv w' (h ++ [.abandoned op outcome])
  fired : ∀ which op w h, Inv w h → Inv w (h ++ [.fired which op])
  drift : ∀ w h w', Inv w h → S.drift w w' → Inv w' h

theorem Preserves.drifts {ok : I.Op → Prop} {Inv : W → History I → Prop}
    (kept : Preserves S ok Inv) {w w' : W} {h : History I} (drifts : Drifts S w w')
    (holds : Inv w h) : Inv w' h :=
  drifts.keeps (fun w => Inv w h) (fun w w' => kept.drift w h w') holds

/-- An invariant with a parameter that is fixed by what is known of it. -/
theorem Preserves.exists_and {ι : Type} {ok : I.Op → Prop} {P : ι → Prop}
    {Inv : ι → W → History I → Prop} (kept : ∀ index, Preserves S ok (Inv index)) :
    Preserves S ok fun w h => ∃ index, P index ∧ Inv index w h where
  done op isOk w h res w' holds step := by
    obtain ⟨index, known, holds⟩ := holds
    exact ⟨index, known, (kept index).done op isOk w h res w' holds step⟩
  abandoned op isOk w h outcome w' holds left := by
    obtain ⟨index, known, holds⟩ := holds
    exact ⟨index, known, (kept index).abandoned op isOk w h outcome w' holds left⟩
  fired which op w h holds := by
    obtain ⟨index, known, holds⟩ := holds
    exact ⟨index, known, (kept index).fired which op w h holds⟩
  drift w h w' holds changes := by
    obtain ⟨index, known, holds⟩ := holds
    exact ⟨index, known, (kept index).drift w h w' holds changes⟩

theorem wp_of_allOps {ok : I.Op → Prop} {Inv : W → History I → Prop} (kept : Preserves S ok Inv)
    {p : Prog I α} {w : W} {h : History I} (ops : p.AllOps ok) (holds : Inv w h) :
    p.wp S (fun _ => Inv) Inv w h := by
  induction p generalizing w h with
  | ret value => exact holds
  | call op next ih =>
      intro w₀ drifts
      have before := kept.drifts drifts holds
      exact ⟨fun _ outcome w' left => kept.abandoned op ops.1 w₀ h outcome w' before left,
        fun res w' step => ih res (ops.2 res) (kept.done op ops.1 w₀ h res w' before step)⟩
  | abandon op next ih =>
      intro w₀ drifts outcome w' left
      have before := kept.drifts drifts holds
      exact ih ops.2 (kept.abandoned op ops.1 w₀ h outcome w' before left)
  | alarm which op fired quiet ihFired ihQuiet =>
      exact ⟨ihFired ops.1 (kept.fired which op w h holds), ihQuiet ops.2 holds⟩

/-- The invariant rule with the conditions that are asked for. -/
theorem wp_preserved {ok : I.Op → Prop} {Inv : W → History I → Prop} (kept : Preserves S ok Inv)
    {p : Prog I α} {Q : α → W → History I → Prop} {D : W → History I → Prop} {w : W}
    {h : History I} (ops : p.AllOps ok) (holds : Inv w h)
    (hQ : ∀ value w h, Inv w h → Q value w h) (hD : ∀ w h, Inv w h → D w h) :
    p.wp S Q D w h :=
  wp_mono (wp_of_allOps kept ops holds) hQ hD

/-- The rule of `race`. At every suspension point the handler starts where the invariant holds, with a
rest of the future of which all is known that was known of the whole. -/
theorem wp_race {ok : I.Op → Prop} {Inv : W → History I → Prop} (kept : Preserves S ok Inv)
    {which : I.Alarm} {onFired : Prog I α → Prog I β} {done : α → β} {p : Prog I α}
    {Q : α → W → History I → Prop} {D : W → History I → Prop} {Q' : β → W → History I → Prop}
    {D' : W → History I → Prop} {w : W} {h : History I} (ops : p.AllOps ok) (holds : Inv w h)
    (pre : p.wp S Q D w h)
    (handled : ∀ op next w h, I.suspends op = true → Inv w h → (Prog.call op next).wp S Q D w h →
      (onFired (.call op next)).wp S Q' D' w (h ++ [.fired which op]))
    (hQ : ∀ value w h, Q value w h → Q' (done value) w h) (hD : ∀ w h, D w h → D' w h) :
    (p.race which onFired done).wp S Q' D' w h := by
  induction p generalizing w h with
  | ret value => exact hQ value w h pre
  | call op next ih =>
      have waiting : (Prog.call op fun res => (next res).race which onFired done).wp S Q' D' w h := by
        intro w₀ drifts
        have before := kept.drifts drifts holds
        exact ⟨fun suspends outcome w' left => hD _ _ ((pre w₀ drifts).1 suspends outcome w' left),
          fun res w' step => ih res (ops.2 res) (kept.done op ops.1 w₀ h res w' before step)
            ((pre w₀ drifts).2 res w' step)⟩
      simp only [race]
      split
      · rename_i suspends
        exact ⟨handled op next w h suspends holds pre, waiting⟩
      · exact waiting
  | abandon op next ih =>
      intro w₀ drifts outcome w' left
      have before := kept.drifts drifts holds
      exact ih ops.2 (kept.abandoned op ops.1 w₀ h outcome w' before left)
        (pre w₀ drifts outcome w' left)
  | alarm other op fired quiet ihFired ihQuiet =>
      exact ⟨ihFired ops.1 (kept.fired other op w h holds) pre.1, ihQuiet ops.2 holds pre.2⟩

/-- A race of a future that keeps an invariant: the handler starts where it holds, and so does what
follows the future. -/
theorem wp_race_of_allOps {ok : I.Op → Prop} {Inv : W → History I → Prop}
    (kept : Preserves S ok Inv) {which : I.Alarm} {onFired : Prog I α → Prog I β} {done : α → β}
    {p : Prog I α} {Q : β → W → History I → Prop} {D : W → History I → Prop} {w : W}
    {h : History I} (ops : p.AllOps ok) (holds : Inv w h)
    (handled : ∀ rest : Prog I α, rest.AllOps ok → ∀ w h, Inv w h → (onFired rest).wp S Q D w h)
    (hQ : ∀ value w h, Inv w h → Q (done value) w h) (hD : ∀ w h, Inv w h → D w h) :
    (p.race which onFired done).wp S Q D w h := by
  induction p generalizing w h with
  | ret value => exact hQ value w h holds
  | call op next ih =>
      have waiting : (Prog.call op fun res => (next res).race which onFired done).wp S Q D w h := by
        intro w₀ drifts
        have before := kept.drifts drifts holds
        exact ⟨fun _ outcome w' left => hD _ _ (kept.abandoned op ops.1 w₀ h outcome w' before left),
          fun res w' step => ih res (ops.2 res) (kept.done op ops.1 w₀ h res w' before step)⟩
      simp only [race]
      split
      · exact ⟨handled _ ops w _ (kept.fired which op w h holds), waiting⟩
      · exact waiting
  | abandon op next ih =>
      intro w₀ drifts outcome w' left
      exact ih ops.2 (kept.abandoned op ops.1 w₀ h outcome w' (kept.drifts drifts holds) left)
  | alarm other op fired quiet ihFired ihQuiet =>
      exact ⟨ihFired ops.1 (kept.fired other op w h holds), ihQuiet ops.2 holds⟩

theorem wp_pollUntil_of_allOps {ok : I.Op → Prop} {Inv : W → History I → Prop}
    (kept : Preserves S ok Inv) {which : I.Alarm} {p : Prog I α}
    {Q : α ⊕ Prog I α → W → History I → Prop} {D : W → History I → Prop} {w : W} {h : History I}
    (ops : p.AllOps ok) (holds : Inv w h) (yielded : ∀ value w h, Inv w h → Q (.inl value) w h)
    (remains : ∀ rest : Prog I α, rest.AllOps ok → ∀ w h, Inv w h → Q (.inr rest) w h)
    (hD : ∀ w h, Inv w h → D w h) : (p.pollUntil which).wp S Q D w h :=
  wp_race_of_allOps kept ops holds remains yielded hD

/-! ### The states of a run -/

section Comes

variable {p p' : Prog I α} {w w₁ w' : W} {h h₁ h' : History I}

theorem Comes.drifts (drifts : Drifts S w w₁) (rest : Comes S p w₁ h p' w' h') :
    Comes S p w h p' w' h' := by
  induction drifts with
  | refl w => exact rest
  | head first _ ih => exact .drift first (ih rest)

/-- A future that waits still waits, or has been answered. -/
theorem comes_call {op : I.Op} {next : I.Res op → Prog I α}
    (comes : Comes S (.call op next) w h p' w' h') :
    (h' = h ∧ Drifts S w w') ∨ ∃ w₀ res w₁, Drifts S w w₀ ∧ S.step w₀ op res w₁ ∧
      Comes S (next res) w₁ (h ++ [.done op res]) p' w' h' := by
  generalize waits : Prog.call op next = p at comes
  induction comes with
  | refl p w h => exact .inl ⟨rfl, .refl w⟩
  | drift first _ ih =>
      rcases ih waits with ⟨same, drifts⟩ | ⟨w₀, res, w₁, drifts, rest⟩
      · exact .inl ⟨same, .head first drifts⟩
      · exact .inr ⟨w₀, res, w₁, .head first drifts, rest⟩
  | call res step rest _ =>
      cases waits
      exact .inr ⟨_, res, _, .refl _, step, rest⟩
  | abandon | fired | quiet => cases waits

/-- A run of the first future, and then a part of one of what follows its value. -/
theorem comes_bind {f : α → Prog I β} {value : α} {q : Prog I β}
    (run : Exec S p w h value w₁ h₁) (rest : Comes S (f value) w₁ h₁ q w' h') :
    Comes S (p.bind f) w h q w' h' := by
  induction run with
  | ret value w h => exact rest
  | call drifts res step _ ih => exact .drifts drifts (.call res step (ih rest))
  | abandon drifts outcome left _ ih => exact .drifts drifts (.abandon outcome left (ih rest))
  | fired _ ih => exact .fired (ih rest)
  | quiet _ ih => exact .quiet (ih rest)

/-- A run comes to each operation that it has carried out. -/
theorem comes_of_exec {value : α} {before after : History I} {op : I.Op} {res : I.Res op}
    (run : Exec S p w h value w' h') (same : h' = h ++ (before ++ .done op res :: after)) :
    ∃ rest w₁ w₂, Comes S p w h rest w₁ (h ++ before) ∧ Acts S rest w₁ w₂ := by
  -- what is added first stands at the beginning
  have begins : ∀ {first : Event I} {h h' : History I} {e : Event I} {rest : History I},
      h ++ [first] <+: h' → h' = h ++ e :: rest → e = first ∧ h' = h ++ [first] ++ rest := by
    rintro first h _ e rest ⟨more, rfl⟩ whole
    rw [List.append_assoc] at whole
    cases List.append_cancel_left whole
    exact ⟨rfl, rfl⟩
  induction run generalizing before with
  | ret value w h => simp at same
  | call drifts answer step rest ih =>
      cases before with
      | nil => exact ⟨_, _, _, .drifts drifts (by simpa using .refl _ _ _), .call answer step⟩
      | cons first before =>
          obtain ⟨rfl, whole⟩ := begins (prefix_of_exec rest) same
          obtain ⟨p', w₁, w₂, comes, acts⟩ := ih whole
          rw [List.append_assoc] at comes
          exact ⟨p', w₁, w₂, .drifts drifts (.call answer step comes), acts⟩
  | abandon drifts outcome left rest ih =>
      cases before with
      | nil => exact ⟨_, _, _, .drifts drifts (by simpa using .refl _ _ _), .abandon outcome left⟩
      | cons first before =>
          obtain ⟨rfl, whole⟩ := begins (prefix_of_exec rest) same
          obtain ⟨p', w₁, w₂, comes, acts⟩ := ih whole
          rw [List.append_assoc] at comes
          exact ⟨p', w₁, w₂, .drifts drifts (.abandon outcome left comes), acts⟩
  | fired rest ih =>
      cases before with
      | nil =>
          obtain ⟨other, _⟩ := begins (prefix_of_exec rest) same
          cases other
      | cons first before =>
          obtain ⟨rfl, whole⟩ := begins (prefix_of_exec rest) same
          obtain ⟨p', w₁, w₂, comes, acts⟩ := ih whole
          rw [List.append_assoc] at comes
          exact ⟨p', w₁, w₂, .fired comes, acts⟩
  | quiet rest ih =>
      obtain ⟨p', w₁, w₂, comes, acts⟩ := ih same
      exact ⟨p', w₁, w₂, .quiet comes, acts⟩

/-- An invariant holds wherever a run comes. -/
theorem Preserves.comes {ok : I.Op → Prop} {Inv : W → History I → Prop}
    (kept : Preserves S ok Inv) (ops : p.AllOps ok) (holds : Inv w h)
    (comes : Comes S p w h p' w' h') : Inv w' h' := by
  induction comes with
  | refl p w h => exact holds
  | drift first _ ih => exact ih ops (kept.drift _ _ _ holds first)
  | call res step _ ih => exact ih (ops.2 res) (kept.done _ ops.1 _ _ res _ holds step)
  | abandon outcome left _ ih => exact ih ops.2 (kept.abandoned _ ops.1 _ _ outcome _ holds left)
  | fired _ ih => exact ih ops.1 (kept.fired _ _ _ _ holds)
  | quiet _ ih => exact ih ops.2 holds

end Comes

end Prog

/-! ### Futures that can fail -/

namespace Fallible

variable {I : Interface} {W α β ε ε' : Type} {S : Semantics I W}
  {Q : Except ε β → W → History I → Prop} {D : W → History I → Prop} {w : W} {h : History I}

/-- `?` goes on with a value and ends with an error. -/
theorem wp_bind {p : Fallible I ε α} {f : α → Fallible I ε β} :
    Prog.wp S Q D (p >>= f).run w h ↔ Prog.wp S (fun outcome w h => match outcome with
      | .ok value => Prog.wp S Q D (f value).run w h
      | .error error => Q (.error error) w h) D p.run w h := by
  refine Prog.wp_bind.trans (iff_of_eq ?_)
  congr
  funext outcome w h
  cases outcome <;> rfl

theorem wp_attempt {p : Fallible I ε' α} {f : Except ε' α → Fallible I ε β} :
    Prog.wp S Q D (attempt p >>= f).run w h ↔
      Prog.wp S (fun outcome w h => Prog.wp S Q D (f outcome).run w h) D p.run w h := by
  rw [wp_bind]
  exact Prog.wp_bind

theorem wp_perform {op : I.Op} {f : I.Res op → Fallible I ε β} :
    Prog.wp S Q D (perform op >>= f).run w h ↔
      (Prog.call op fun res => (f res).run).wp S Q D w h :=
  Iff.rfl

theorem wp_ofExcept {outcome : Except ε α} {f : α → Fallible I ε β} :
    Prog.wp S Q D (ofExcept outcome >>= f).run w h ↔ match outcome with
      | .ok value => Prog.wp S Q D (f value).run w h
      | .error error => Q (.error error) w h := by
  rw [wp_bind]
  exact Iff.rfl

/-! ### Runs that there are -/

variable {good : Event I → Prop} {w₁ w' : W} {result : Except ε β}

/-- A future that asks first still waits, or has been answered. -/
theorem comes_perform {op : I.Op} {f : I.Res op → Fallible I ε β} {p' : Prog I (Except ε β)}
    {h' : History I} (comes : Prog.Comes S (perform op >>= f).run w h p' w' h') :
    (h' = h ∧ Drifts S w w') ∨ ∃ w₀ res w₁, Drifts S w w₀ ∧ S.step w₀ op res w₁ ∧
      Prog.Comes S (f res).run w₁ (h ++ [.done op res]) p' w' h' :=
  Prog.comes_call comes

/-- A run of the first future, and then one of what follows its value. -/
theorem exists_exec_bind {p : Fallible I ε α} {f : α → Fallible I ε β} {P P' : W → Prop}
    (first : ∃ outcome w₁ h₁, Exec S p.run w h outcome w₁ h₁ ∧ P w₁)
    (rest : ∀ value w₁ h₁, P w₁ →
      ∃ result w' h', Exec S (f value).run w₁ h₁ result w' h' ∧ P' w')
    (ends : ∀ w, P w → P' w) :
    ∃ result w' h', Exec S (p >>= f).run w h result w' h' ∧ P' w' := by
  obtain ⟨outcome, w₁, h₁, run, holds⟩ := first
  cases outcome with
  | ok value =>
      obtain ⟨result, w', h', continued, holds'⟩ := rest value w₁ h₁ holds
      exact ⟨result, w', h', Prog.exec_bind run continued, holds'⟩
  | error error =>
      exact ⟨.error error, w₁, h₁, Prog.exec_bind run (.ret _ _ _), ends w₁ holds⟩

end Fallible

end Async
