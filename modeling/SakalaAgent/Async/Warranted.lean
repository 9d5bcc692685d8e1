/-
Module: SakalaAgent.Async.Warranted
Layer: Async (library)
Purpose: What a program has done when it asks for an operation. `Warranted` says of every operation
  that a condition on the history and the operation holds, whatever the surroundings answer;
  `Finishes` says that a history is the one of a finished run of a program. Conditions that stay true
  in longer histories pass through races and timeouts, and hold of each step of a pool.
Trusted boundary: none
Main exports: Prog.Warranted, Prog.Finishes, Prog.warranted_race, Prog.warranted_of_allOps,
  Pool.Step.warranted, Pool.Step.asked
-/
import SakalaAgent.Async.Interleaving

namespace Async

namespace Prog

variable {I : Interface} {α β : Type} {ok ok' : History I → I.Op → Prop}
  {Q Q' : α → History I → Prop} {h h' : History I}

/-- At each operation the program asks for, `ok` holds of what has happened and the operation; and its
results meet `Q`. -/
def Warranted (ok : History I → I.Op → Prop) (Q : α → History I → Prop) :
    Prog I α → History I → Prop
  | .ret value, h => Q value h
  | .call op next, h => ok h op ∧ ∀ res, (next res).Warranted ok Q (h ++ [.done op res])
  | .abandon op next, h =>
      ok h op ∧ ∀ outcome, next.Warranted ok Q (h ++ [.abandoned op outcome])
  | .alarm which op fired quiet, h =>
      fired.Warranted ok Q (h ++ [.fired which op]) ∧ quiet.Warranted ok Q h

/-- The program, answered as the history says, comes to its end with the value. -/
inductive Finishes : Prog I α → History I → α → Prop where
  | ret (value : α) : Finishes (.ret value) [] value
  | call {op : I.Op} {next : I.Res op → Prog I α} {res : I.Res op} {h : History I} {value : α}
      (rest : Finishes (next res) h value) : Finishes (.call op next) (.done op res :: h) value
  | abandon {op : I.Op} {next : Prog I α} {outcome : Option (I.Res op)} {h : History I} {value : α}
      (rest : Finishes next h value) :
      Finishes (.abandon op next) (.abandoned op outcome :: h) value
  | fired {which : I.Alarm} {op : I.Op} {fired quiet : Prog I α} {h : History I} {value : α}
      (rest : Finishes fired h value) :
      Finishes (.alarm which op fired quiet) (.fired which op :: h) value
  | quiet {which : I.Alarm} {op : I.Op} {fired quiet : Prog I α} {h : History I} {value : α}
      (rest : Finishes quiet h value) : Finishes (.alarm which op fired quiet) h value

/-- What is added to the history by a run is a history the program finishes with. -/
theorem finishes_of_exec {W : Type} {S : Semantics I W} {p : Prog I α} {w w' : W} {value : α}
    (run : Exec S p w h value w' h') : ∃ added, h' = h ++ added ∧ p.Finishes added value := by
  induction run with
  | ret value w h => exact ⟨[], (List.append_nil h).symm, .ret value⟩
  | call _ res _ _ ih =>
      obtain ⟨added, rfl, finishes⟩ := ih
      exact ⟨_, List.append_assoc .., .call finishes⟩
  | abandon _ outcome _ _ ih =>
      obtain ⟨added, rfl, finishes⟩ := ih
      exact ⟨_, List.append_assoc .., .abandon finishes⟩
  | fired _ ih =>
      obtain ⟨added, rfl, finishes⟩ := ih
      exact ⟨_, List.append_assoc .., .fired finishes⟩
  | quiet _ ih =>
      obtain ⟨added, same, finishes⟩ := ih
      exact ⟨added, same, .quiet finishes⟩

/-- Every operation a history shows to have been asked for is one of the allowed. -/
def Asked (allowed : I.Op → Prop) (h : History I) : Prop :=
  ∀ event ∈ h, ∀ op, event.asked = some op → allowed op

section Asked

variable {allowed : I.Op → Prop}

theorem asked_nil : Asked allowed ([] : History I) :=
  nofun

theorem asked_cons {event : Event I} :
    Asked allowed (event :: h) ↔ (∀ op, event.asked = some op → allowed op) ∧ Asked allowed h :=
  List.forall_mem_cons

theorem asked_append : Asked allowed (h ++ h') ↔ Asked allowed h ∧ Asked allowed h' :=
  List.forall_mem_append

theorem Asked.mono {allowed' : I.Op → Prop} (asked : Asked allowed h)
    (weaker : ∀ op, allowed op → allowed' op) : Asked allowed' h :=
  fun event member op isAsked => weaker op (asked event member op isAsked)

theorem asked_done {op : I.Op} {res : I.Res op} (allows : allowed op) (rest : Asked allowed h) :
    Asked allowed (.done op res :: h) :=
  asked_cons.mpr ⟨by rintro _ ⟨⟩; exact allows, rest⟩

theorem asked_abandoned {op : I.Op} {outcome : Option (I.Res op)} (allows : allowed op)
    (rest : Asked allowed h) : Asked allowed (.abandoned op outcome :: h) :=
  asked_cons.mpr ⟨by rintro _ ⟨⟩; exact allows, rest⟩

theorem asked_fired {which : I.Alarm} {op : I.Op} (rest : Asked allowed h) :
    Asked allowed (.fired which op :: h) :=
  asked_cons.mpr ⟨nofun, rest⟩

/-- A finished run asks for what the program may ask for. -/
theorem Finishes.asked {p : Prog I α} {value : α} (run : p.Finishes h value)
    (ops : p.AllOps allowed) : Asked allowed h := by
  induction run with
  | ret value => exact asked_nil
  | call _ ih => exact asked_done ops.1 (ih (ops.2 _))
  | abandon _ ih => exact asked_abandoned ops.1 (ih ops.2)
  | fired _ ih => exact asked_fired (ih ops.1)
  | quiet _ ih => exact ih ops.2

end Asked

/-- A finished run has one of the results of the program. -/
theorem Finishes.result {p : Prog I α} {value : α} {good : α → Prop} (run : p.Finishes h value)
    (yields : p.Yields good) : good value := by
  induction run with
  | ret value => exact yields
  | call _ ih => exact ih (yields _)
  | abandon _ ih => exact ih yields
  | fired _ ih => exact ih yields.1
  | quiet _ ih => exact ih yields.2

/-- Each answered operation that is added to a history is warranted by what has happened before it. -/
def Meets (ok : History I → I.Op → Prop) (h added : History I) : Prop :=
  ∀ before op res after, added = before ++ .done op res :: after → ok (h ++ before) op

theorem meets_nil : Meets ok h [] := by
  intro before op res after same
  cases (List.append_eq_nil_iff.mp same.symm).2

theorem meets_cons {event : Event I} {added : History I}
    (first : ∀ op res, event = .done op res → ok h op) (later : Meets ok (h ++ [event]) added) :
    Meets ok h (event :: added) := by
  intro before op res after split
  cases before with
  | nil =>
      rw [List.append_nil]
      exact first op res (List.cons.inj split).1
  | cons other before =>
      obtain ⟨same, rest⟩ := List.cons.inj split
      have warranted := later before op res after rest
      rwa [List.append_assoc, same] at warranted

/-- A finished run asks for what is warranted, and ends as it should. -/
theorem Finishes.warranted {p : Prog I α} {value : α} {added : History I}
    (run : p.Finishes added value) (pre : p.Warranted ok Q h) :
    Meets ok h added ∧ Q value (h ++ added) := by
  induction run generalizing h with
  | ret value =>
      rw [List.append_nil]
      exact ⟨meets_nil, pre⟩
  | @call op next res added value _ ih =>
      obtain ⟨later, ended⟩ := ih (pre.2 res)
      rw [List.append_assoc] at ended
      refine ⟨meets_cons (fun other _ same => ?_) later, ended⟩
      cases same
      exact pre.1
  | @abandon op next outcome added value _ ih =>
      obtain ⟨later, ended⟩ := ih (pre.2 outcome)
      rw [List.append_assoc] at ended
      exact ⟨meets_cons (fun _ _ same => by cases same) later, ended⟩
  | @fired which op fired quiet added value _ ih =>
      obtain ⟨later, ended⟩ := ih pre.1
      rw [List.append_assoc] at ended
      exact ⟨meets_cons (fun _ _ same => by cases same) later, ended⟩
  | quiet _ ih => exact ih pre.2

/-- A finished run of a program and its continuation is one of each. -/
theorem finishes_bind {p : Prog I α} {f : α → Prog I β} {result : β}
    (run : (p.bind f).Finishes h result) : ∃ first value rest, h = first ++ rest ∧
      p.Finishes first value ∧ (f value).Finishes rest result := by
  induction p generalizing h with
  | ret value => exact ⟨[], value, h, rfl, .ret value, run⟩
  | call op next ih =>
      cases run with
      | call run =>
          obtain ⟨first, value, rest, rfl, started, continued⟩ := ih _ run
          exact ⟨_, value, rest, rfl, .call started, continued⟩
  | abandon op next ih =>
      cases run with
      | abandon run =>
          obtain ⟨first, value, rest, rfl, started, continued⟩ := ih run
          exact ⟨_, value, rest, rfl, .abandon started, continued⟩
  | alarm which op fired quiet ihFired ihQuiet =>
      cases run with
      | fired run =>
          obtain ⟨first, value, rest, rfl, started, continued⟩ := ihFired run
          exact ⟨_, value, rest, rfl, .fired started, continued⟩
      | quiet run =>
          obtain ⟨first, value, rest, rfl, started, continued⟩ := ihQuiet run
          exact ⟨first, value, rest, rfl, .quiet started, continued⟩

/-- A raced program has finished, or its alarm was seen where it waited: what it had done is what it may
do, and each way to finish from there is one of the program. -/
theorem finishes_race {allowed : I.Op → Prop} {which : I.Alarm} {onFired : Prog I α → Prog I β}
    {done : α → β} {p : Prog I α} {result : β} (ops : p.AllOps allowed)
    (run : (p.race which onFired done).Finishes h result) :
    (∃ value, p.Finishes h value ∧ result = done value) ∨
      ∃ first op next rest, h = first ++ .fired which op :: rest ∧ Asked allowed first ∧
        (∀ later value, (Prog.call op next).Finishes later value →
          p.Finishes (first ++ later) value) ∧
        (onFired (.call op next)).Finishes rest result := by
  induction p generalizing h with
  | ret value =>
      cases run
      exact .inl ⟨value, .ret value, rfl⟩
  | call op next ih =>
      have waited : ∀ {h}, (Prog.call op fun res => (next res).race which onFired done).Finishes h
          result → (∃ value, (Prog.call op next).Finishes h value ∧ result = done value) ∨
            ∃ first op' next' rest, h = first ++ .fired which op' :: rest ∧ Asked allowed first ∧
              (∀ later value, (Prog.call op' next').Finishes later value →
                (Prog.call op next).Finishes (first ++ later) value) ∧
              (onFired (.call op' next')).Finishes rest result := by
        intro h run
        cases run with
        | @call _ _ res _ _ run =>
            rcases ih res (ops.2 res) run with
              ⟨value, run, same⟩ | ⟨first, op', next', rest, rfl, asked, reached, handled⟩
            · exact .inl ⟨value, .call run, same⟩
            · exact .inr ⟨.done op res :: first, op', next', rest, rfl, asked_done ops.1 asked,
                fun later value run => .call (reached later value run), handled⟩
      simp only [race] at run
      split at run
      · cases run with
        | fired run => exact .inr ⟨[], op, next, _, rfl, asked_nil, fun later value run => run, run⟩
        | quiet run => exact waited run
      · exact waited run
  | abandon op next ih =>
      cases run with
      | @abandon _ _ outcome _ _ run =>
          rcases ih ops.2 run with
            ⟨value, run, same⟩ | ⟨first, op', next', rest, rfl, asked, reached, handled⟩
          · exact .inl ⟨value, .abandon run, same⟩
          · exact .inr ⟨.abandoned op outcome :: first, op', next', rest, rfl,
              asked_abandoned ops.1 asked, fun later value run => .abandon (reached later value run),
              handled⟩
  | alarm other op fired quiet ihFired ihQuiet =>
      cases run with
      | fired run =>
          rcases ihFired ops.1 run with
            ⟨value, run, same⟩ | ⟨first, op', next', rest, rfl, asked, reached, handled⟩
          · exact .inl ⟨value, .fired run, same⟩
          · exact .inr ⟨.fired other op :: first, op', next', rest, rfl, asked_fired asked,
              fun later value run => .fired (reached later value run), handled⟩
      | quiet run =>
          rcases ihQuiet ops.2 run with
            ⟨value, run, same⟩ | ⟨first, op', next', rest, rfl, asked, reached, handled⟩
          · exact .inl ⟨value, .quiet run, same⟩
          · exact .inr ⟨first, op', next', rest, rfl, asked,
              fun later value run => .quiet (reached later value run), handled⟩

/-! ### Rules -/

theorem warranted_mono {p : Prog I α} (pre : p.Warranted ok Q h)
    (hQ : ∀ value h, Q value h → Q' value h) : p.Warranted ok Q' h := by
  induction p generalizing h with
  | ret value => exact hQ value h pre
  | call op next ih => exact ⟨pre.1, fun res => ih res (pre.2 res)⟩
  | abandon op next ih => exact ⟨pre.1, fun outcome => ih (pre.2 outcome)⟩
  | alarm which op fired quiet ihFired ihQuiet => exact ⟨ihFired pre.1, ihQuiet pre.2⟩

theorem Warranted.allow {p : Prog I α} (pre : p.Warranted ok Q h)
    (weaker : ∀ h op, ok h op → ok' h op) : p.Warranted ok' Q h := by
  induction p generalizing h with
  | ret value => exact pre
  | call op next ih => exact ⟨weaker h op pre.1, fun res => ih res (pre.2 res)⟩
  | abandon op next ih => exact ⟨weaker h op pre.1, fun outcome => ih (pre.2 outcome)⟩
  | alarm which op fired quiet ihFired ihQuiet => exact ⟨ihFired pre.1, ihQuiet pre.2⟩

theorem warranted_bind {p : Prog I α} {f : α → Prog I β} {Q : β → History I → Prop}
    (pre : p.Warranted ok (fun value h => (f value).Warranted ok Q h) h) :
    (p.bind f).Warranted ok Q h := by
  induction p generalizing h with
  | ret value => exact pre
  | call op next ih => exact ⟨pre.1, fun res => ih res (pre.2 res)⟩
  | abandon op next ih => exact ⟨pre.1, fun outcome => ih (pre.2 outcome)⟩
  | alarm which op fired quiet ihFired ihQuiet => exact ⟨ihFired pre.1, ihQuiet pre.2⟩

theorem warranted_perform_bind {op : I.Op} {f : I.Res op → Prog I β} {Q : β → History I → Prop}
    (asked : ok h op) (rest : ∀ res, (f res).Warranted ok Q (h ++ [.done op res])) :
    (perform op >>= f).Warranted ok Q h :=
  ⟨asked, rest⟩

/-- A future that asks for nothing but what is warranted anyway; its run is a part of the history. -/
theorem warranted_of_allOps {allowed : I.Op → Prop} {p : Prog I α} (ops : p.AllOps allowed)
    (warranted : ∀ h op, allowed op → ok h op) :
    p.Warranted ok (fun value h' => ∃ run, h' = h ++ run ∧ p.Finishes run value) h := by
  induction p generalizing h with
  | ret value => exact ⟨[], by simp, .ret value⟩
  | call op next ih =>
      refine ⟨warranted h op ops.1, fun res => ?_⟩
      apply warranted_mono (ih res (ops.2 res))
      rintro value h' ⟨run, rfl, finishes⟩
      exact ⟨.done op res :: run, by simp, .call finishes⟩
  | abandon op next ih =>
      refine ⟨warranted h op ops.1, fun outcome => ?_⟩
      apply warranted_mono (ih ops.2)
      rintro value h' ⟨run, rfl, finishes⟩
      exact ⟨.abandoned op outcome :: run, by simp, .abandon finishes⟩
  | alarm which op fired quiet ihFired ihQuiet =>
      constructor
      · apply warranted_mono (ihFired ops.1)
        rintro value h' ⟨run, rfl, finishes⟩
        exact ⟨.fired which op :: run, by simp, .fired finishes⟩
      · apply warranted_mono (ihQuiet ops.2)
        rintro value h' ⟨run, rfl, finishes⟩
        exact ⟨run, rfl, .quiet finishes⟩

/-- What each warranted operation keeps holds wherever a run comes. -/
theorem comes_of_warranted {W : Type} {S : Semantics I W} {Inv : W → History I → Prop}
    {p p' : Prog I α} {w w' : W}
    (done : ∀ {w h op res w'}, ok h op → Inv w h → S.step w op res w' → Inv w' (h ++ [.done op res]))
    (abandoned : ∀ {w h op outcome w'}, ok h op → Inv w h → S.leave w op outcome w' →
      Inv w' (h ++ [.abandoned op outcome]))
    (fired : ∀ {w h which op}, Inv w h → Inv w (h ++ [.fired which op]))
    (drift : ∀ {w h w'}, Inv w h → S.drift w w' → Inv w' h) (pre : p.Warranted ok Q h)
    (holds : Inv w h) (comes : Comes S p w h p' w' h') : Inv w' h' := by
  induction comes with
  | refl p w h => exact holds
  | drift first _ ih => exact ih pre (drift holds first)
  | call res step _ ih => exact ih (pre.2 res) (done pre.1 holds step)
  | abandon outcome left _ ih => exact ih (pre.2 outcome) (abandoned pre.1 holds left)
  | fired _ ih => exact ih pre.1 (fired holds)
  | quiet _ ih => exact ih pre.2 holds

/-! ### Longer histories -/

/-- The condition stays true when more has happened, before or in between. -/
def Grows (P : History I → Prop) : Prop :=
  ∀ h h', h.Sublist h' → P h → P h'

section Grows

variable (grows : ∀ op, Grows fun h => ok h op)
include grows

theorem Warranted.grow {p : Prog I α} (growsQ : ∀ value, Grows (Q value))
    (pre : p.Warranted ok Q h) (longer : h.Sublist h') : p.Warranted ok Q h' := by
  induction p generalizing h h' with
  | ret value => exact growsQ value h h' longer pre
  | call op next ih =>
      exact ⟨grows op h h' longer pre.1,
        fun res => ih res (pre.2 res) (longer.append (.refl _))⟩
  | abandon op next ih =>
      exact ⟨grows op h h' longer pre.1,
        fun outcome => ih (pre.2 outcome) (longer.append (.refl _))⟩
  | alarm which op fired quiet ihFired ihQuiet =>
      exact ⟨ihFired pre.1 (longer.append (.refl _)), ihQuiet pre.2 longer⟩

/-- What is left of a future is dropped. -/
theorem warranted_drop {p : Prog I α} {after : Prog I β} {Q' : β → History I → Prop}
    (growsQ : ∀ value, Grows (Q' value)) (pre : p.Warranted ok Q h)
    (rest : after.Warranted ok Q' h) : (p.drop after).Warranted ok Q' h := by
  cases p with
  | call op next =>
      refine ⟨pre.1, fun outcome => ?_⟩
      exact rest.grow grows growsQ (List.sublist_append_left ..)
  | ret | abandon | alarm => exact rest

/-- The handler of a race starts with a rest of the future that is as warranted as the whole. -/
theorem warranted_race {which : I.Alarm} {onFired : Prog I α → Prog I β} {done : α → β}
    {p : Prog I α} {Q' : β → History I → Prop} (growsQ : ∀ value, Grows (Q value))
    (pre : p.Warranted ok Q h)
    (handled : ∀ rest : Prog I α, ∀ h, rest.Warranted ok Q h → (onFired rest).Warranted ok Q' h)
    (hQ : ∀ value h, Q value h → Q' (done value) h) :
    (p.race which onFired done).Warranted ok Q' h := by
  induction p generalizing h with
  | ret value => exact hQ value h pre
  | call op next ih =>
      have waiting : (Prog.call op fun res => (next res).race which onFired done).Warranted ok
          Q' h := ⟨pre.1, fun res => ih res (pre.2 res)⟩
      simp only [race]
      split
      · refine ⟨handled _ _ ?_, waiting⟩
        exact Warranted.grow grows growsQ (p := .call op next) pre (List.sublist_append_left ..)
      · exact waiting
  | abandon op next ih => exact ⟨pre.1, fun outcome => ih (pre.2 outcome)⟩
  | alarm other op fired quiet ihFired ihQuiet => exact ⟨ihFired pre.1, ihQuiet pre.2⟩

end Grows

end Prog

/-! ### Futures that can fail -/

namespace Fallible

variable {I : Interface} {α β ε ε' : Type} {ok : History I → I.Op → Prop} {h : History I}

theorem warranted_bind {p : Fallible I ε α} {f : α → Fallible I ε β}
    {Q : Except ε β → History I → Prop}
    (pre : p.run.Warranted ok (fun outcome h => match outcome with
      | .ok value => (f value).run.Warranted ok Q h
      | .error error => Q (.error error) h) h) : (p >>= f).run.Warranted ok Q h := by
  apply Prog.warranted_bind
  apply Prog.warranted_mono pre
  intro outcome h holds
  cases outcome with
  | ok value => exact holds
  | error error => exact holds

end Fallible

namespace Fallible

variable {I : Interface} {α β ε : Type} {ok : History I → I.Op → Prop} {allowed : I.Op → Prop}
  {h : History I} {Q : Except ε β → History I → Prop}

/-- A future that asks for nothing but what is warranted anyway, and keeps what is known. -/
theorem warranted_keeps_bind {P : History I → Prop} (grows : ∀ h h', h.Sublist h' → P h → P h')
    {p : Fallible I ε α} {f : α → Fallible I ε β} (ops : AllOps allowed p)
    (warranted : ∀ h op, allowed op → ok h op) (holds : P h)
    (rest : ∀ value h, P h → (f value).run.Warranted ok Q h)
    (failed : ∀ error h, P h → Q (.error error) h) : (p >>= f).run.Warranted ok Q h := by
  apply Fallible.warranted_bind
  apply Prog.warranted_mono (Prog.warranted_of_allOps ops warranted)
  rintro outcome h' ⟨run, rfl, -⟩
  have kept : P (h ++ run) := grows h _ (List.sublist_append_left h run) holds
  cases outcome with
  | ok value => exact rest value _ kept
  | error error => exact failed error _ kept

theorem warranted_ofExcept_bind {outcome : Except ε α} {f : α → Fallible I ε β}
    (rest : ∀ value, outcome = .ok value → (f value).run.Warranted ok Q h)
    (failed : ∀ error, Q (.error error) h) : (ofExcept outcome >>= f).run.Warranted ok Q h := by
  cases outcome with
  | ok value => exact rest value rfl
  | error error => exact failed error

/-- A future of which nothing needs to be known. -/
theorem warranted_any_bind {p : Fallible I ε α} {f : α → Fallible I ε β} (ops : AllOps allowed p)
    (warranted : ∀ h op, allowed op → ok h op) (rest : ∀ value h, (f value).run.Warranted ok Q h)
    (failed : ∀ error h, Q (.error error) h) : (p >>= f).run.Warranted ok Q h :=
  warranted_keeps_bind (P := fun _ => True) (fun _ _ _ _ => trivial) ops warranted trivial
    (fun value h _ => rest value h) fun error h _ => failed error h

end Fallible

namespace Fallible

variable {I : Interface} {α β ε ε' : Type} {h : History I}

/-- A finished run of two futures: the first one fails, or both have run. -/
theorem finishes_bind {p : Fallible I ε α} {f : α → Fallible I ε β} {result : Except ε β}
    (run : (p >>= f).run.Finishes h result) :
    (∃ error, p.run.Finishes h (.error error) ∧ result = .error error) ∨
      ∃ first value rest, h = first ++ rest ∧ p.run.Finishes first (.ok value) ∧
        (f value).run.Finishes rest result := by
  obtain ⟨first, outcome, rest, rfl, started, continued⟩ := Prog.finishes_bind run
  cases outcome with
  | ok value => exact .inr ⟨first, value, rest, rfl, started, continued⟩
  | error error =>
      cases continued
      rw [List.append_nil]
      exact .inl ⟨error, started, rfl⟩

/-- A finished run of a future that does not fail and of another one has run both. -/
theorem Succeeds.finishes_bind {p : Fallible I ε α} {f : α → Fallible I ε β} {result : Except ε β}
    (succeeds : Succeeds p) (run : (p >>= f).run.Finishes h result) :
    ∃ first value rest, h = first ++ rest ∧ p.run.Finishes first (.ok value) ∧
      (f value).run.Finishes rest result := by
  rcases Fallible.finishes_bind run with ⟨error, failed, _⟩ | both
  · obtain ⟨value, same⟩ := failed.result succeeds
    cases same
  · exact both

end Fallible

/-! ### Pools -/

namespace Pool

variable {I : Interface} {W ι α : Type} [DecidableEq ι] {T : Threads I W ι α}
  {ok : History I → I.Op → Prop} {s s' : Pool I W ι α} {action : Action I ι α} {thread : ι}

/-- A thread that has a program behind a step and had none before it has been started. -/
theorem Step.started (stepped : Step T s action s') {program : Prog I α}
    (fresh : s.program thread = none) (running : s'.program thread = some program) :
    action = .start thread program := by
  have unmoved : ∀ {mover : ι} {own next : Prog I α}, s.program mover = some own →
      Function.update s.program mover (some next) thread ≠ some program := by
    intro mover own next before after
    have other : thread ≠ mover := by
      rintro rfl
      rw [fresh] at before
      cases before
    rw [Function.update_of_ne other, fresh] at after
    cases after
  cases stepped with
  | @start mover next =>
      have running : Function.update s.program mover (some next) thread = some program := running
      by_cases same : thread = mover
      · subst same
        rw [Function.update_self] at running
        rw [Option.some.inj running]
      · rw [Function.update_of_ne same, fresh] at running
        cases running
  | done own | abandoned own | fired own | quiet own | drop own =>
      exact absurd running (unmoved own)
  | drift =>
      rw [show s.program thread = some program from running] at fresh
      cases fresh

/-- What is left of a thread is warranted behind a step, if it was before it, if the program it is
started with is, and if what is run when it is dropped is. -/
theorem Step.warranted (grows : ∀ op, Prog.Grows fun h => ok h op) (stepped : Step T s action s')
    (before : ∀ program, s.program thread = some program →
      program.Warranted ok (fun _ _ => True) (s.history thread))
    (started : ∀ program, T.starts thread program →
      action = .start thread program → program.Warranted ok (fun _ _ => True) (s.history thread))
    (dropped : ∀ h, (T.onDrop thread).Warranted ok (fun _ _ => True) h) {program : Prog I α}
    (running : s'.program thread = some program) :
    program.Warranted ok (fun _ _ => True) (s'.history thread) := by
  have moved : ∀ {mover next event world}, s' = s.next mover next event world →
      (mover = thread → next.Warranted ok (fun _ _ => True) (s.history thread ++ [event])) →
      program.Warranted ok (fun _ _ => True) (s'.history thread) := by
    rintro mover next event world rfl continued
    have running : Function.update s.program mover (some next) thread = some program := running
    by_cases same : thread = mover
    · subst same
      rw [Function.update_self] at running
      obtain rfl := Option.some.inj running
      simpa [Pool.next] using continued rfl
    · rw [history_other same]
      rw [Function.update_of_ne same] at running
      exact before program running
  have became : ∀ {mover next}, s' = s.become mover next →
      (mover = thread → next.Warranted ok (fun _ _ => True) (s.history thread)) →
      program.Warranted ok (fun _ _ => True) (s'.history thread) := by
    rintro mover next rfl continued
    have running : Function.update s.program mover (some next) thread = some program := running
    by_cases same : thread = mover
    · subst same
      rw [Function.update_self] at running
      obtain rfl := Option.some.inj running
      exact continued rfl
    · rw [Function.update_of_ne same] at running
      exact before program running
  cases stepped with
  | start fresh starts =>
      apply became rfl
      rintro rfl
      exact started _ starts rfl
  | done own step =>
      apply moved rfl
      rintro rfl
      exact (before _ own).2 _
  | abandoned own left =>
      apply moved rfl
      rintro rfl
      exact (before _ own).2 _
  | fired own =>
      apply moved rfl
      rintro rfl
      exact (before _ own).1
  | quiet own =>
      apply became rfl
      rintro rfl
      exact (before _ own).2
  | drop own suspends =>
      apply became rfl
      rintro rfl
      exact Prog.warranted_drop grows (fun _ _ _ _ _ => trivial) (before _ own) (dropped _)
  | drift drift => exact before program running

/-- What a thread asks for is warranted. -/
theorem Step.asked {op : I.Op} {res : I.Res op} (stepped : Step T s (.act thread (.done op res)) s')
    (before : ∀ program, s.program thread = some program →
      program.Warranted ok (fun _ _ => True) (s.history thread)) : ok (s.history thread) op := by
  cases stepped with
  | done own step => exact (before _ own).1

end Pool

end Async
