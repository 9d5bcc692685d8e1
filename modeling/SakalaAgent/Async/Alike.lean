/-
Module: SakalaAgent.Async.Alike
Layer: Async (library)
Purpose: Programs that do the same whatever the answers to some operations are. Those operations are
  silent; what is heard of a history are the others, and the alarms. Two programs that are alike, and
  whose other operations and alarms have the same outcomes, do the same and come to the same result.
  A program that is alike itself does not depend on the silent answers; races and timeouts keep that.
Trusted boundary: none
Main exports: Heard, heard, SameOutcomes, Prog.Alike, Prog.Alike.agree, Prog.Alike.race, Prog.Deaf,
  Prog.Deaf.agree, Fallible.deaf_bind, Fallible.deaf_attempt
-/
import Mathlib
import SakalaAgent.Async.Warranted

namespace Async

/-! ### What is heard -/

/-- An entry of a history that does not tell of a silent operation. -/
inductive Heard (I : Interface) where
  | done (op : I.Op) (res : I.Res op)
  | abandoned (op : I.Op) (outcome : Option (I.Res op))
  | fired (which : I.Alarm) (op : Option I.Op)

section Heard

variable {I : Interface} (silent : I.Op → Bool)

/-- The operation, unless it is silent. -/
def audible (op : I.Op) : Option I.Op :=
  if silent op then none else some op

def Event.heard : Event I → Option (Heard I)
  | .done op res => if silent op then none else some (.done op res)
  | .abandoned op outcome => if silent op then none else some (.abandoned op outcome)
  | .fired which op => some (.fired which (audible silent op))

def heard (h : History I) : List (Heard I) :=
  h.filterMap (Event.heard silent)

variable {silent} {op : I.Op} {h : History I}

theorem heard_done (isHeard : silent op = false) (res : I.Res op) :
    heard silent (.done op res :: h) = .done op res :: heard silent h := by
  simp [heard, Event.heard, isHeard]

theorem heard_abandoned (isHeard : silent op = false) (outcome : Option (I.Res op)) :
    heard silent (.abandoned op outcome :: h) = .abandoned op outcome :: heard silent h := by
  simp [heard, Event.heard, isHeard]

theorem heard_fired (which : I.Alarm) :
    heard silent (.fired which op :: h) = .fired which (audible silent op) :: heard silent h := rfl

theorem heard_done_of_silent (hidden : silent op = true) (res : I.Res op) :
    heard silent (.done op res :: h) = heard silent h := by
  simp [heard, Event.heard, hidden]

theorem heard_abandoned_of_silent (hidden : silent op = true) (outcome : Option (I.Res op)) :
    heard silent (.abandoned op outcome :: h) = heard silent h := by
  simp [heard, Event.heard, hidden]

theorem mem_heard_done (isHeard : silent op = false) {res : I.Res op} :
    Heard.done op res ∈ heard silent h ↔ Event.done op res ∈ h := by
  constructor
  · intro member
    obtain ⟨event, inside, same⟩ := List.mem_filterMap.mp member
    cases event with
    | done op' res' =>
        simp only [Event.heard] at same
        split at same
        · cases same
        · cases same
          exact inside
    | abandoned op' outcome =>
        simp only [Event.heard] at same
        split at same <;> cases same
    | fired which op' => cases same
  · intro member
    exact List.mem_filterMap.mpr ⟨_, member, by simp [Event.heard, isHeard]⟩

/-- What an entry shows to have been asked for. -/
def Heard.asked : Heard I → Option I.Op
  | .done op _ => some op
  | .abandoned op _ => some op
  | .fired _ _ => none

/-- What is heard to have been asked for is what has been asked for, less the silent operations. -/
theorem asked_heard (h : History I) :
    (heard silent h).filterMap Heard.asked =
      (h.filterMap Event.asked).filter fun op => !silent op := by
  induction h with
  | nil => rfl
  | cons event h ih =>
      cases event with
      | done op res =>
          cases hidden : silent op with
          | true =>
              rw [heard_done_of_silent hidden, ih]
              simp [Event.asked, hidden]
          | false =>
              rw [heard_done hidden]
              simp [Event.asked, Heard.asked, hidden, ih]
      | abandoned op outcome =>
          cases hidden : silent op with
          | true =>
              rw [heard_abandoned_of_silent hidden, ih]
              simp [Event.asked, hidden]
          | false =>
              rw [heard_abandoned hidden]
              simp [Event.asked, Heard.asked, hidden, ih]
      | fired which op => exact ih

end Heard

variable {I : Interface} {α β ε : Type} {silent : I.Op → Bool}

/-- The surroundings treat two runs in the same way: where as much has been heard of both, the same
operation has the same outcome, and an alarm is seen in both or in neither. -/
def SameOutcomes : List (Heard I) → List (Heard I) → Prop
  | .fired which op :: h, .fired which' op' :: h' => which = which' ∧ op = op' ∧ SameOutcomes h h'
  | .fired _ _ :: _, _ => False
  | _, .fired _ _ :: _ => False
  | .done op res :: h, .done op' res' :: h' =>
      ∀ same : op = op', same ▸ res = res' ∧ SameOutcomes h h'
  | .abandoned op outcome :: h, .abandoned op' outcome' :: h' =>
      ∀ same : op = op', same ▸ outcome = outcome' ∧ SameOutcomes h h'
  | _, _ => True

theorem sameOutcomes_fired {which : I.Alarm} {op : Option I.Op} {h h' : List (Heard I)}
    (same : SameOutcomes (.fired which op :: h) h') :
    ∃ rest, h' = .fired which op :: rest ∧ SameOutcomes h rest := by
  match h' with
  | .fired which' op' :: rest =>
      obtain ⟨rfl, rfl, same⟩ := same
      exact ⟨rest, rfl, same⟩
  | [] | .done _ _ :: _ | .abandoned _ _ :: _ => exact same.elim

theorem sameOutcomes_refl (h : List (Heard I)) : SameOutcomes h h := by
  induction h with
  | nil => trivial
  | cons event h ih =>
      cases event with
      | done op res => exact fun _ => ⟨rfl, ih⟩
      | abandoned op outcome => exact fun _ => ⟨rfl, ih⟩
      | fired which op => exact ⟨rfl, rfl, ih⟩

theorem SameOutcomes.symm {h h' : List (Heard I)} (same : SameOutcomes h h') :
    SameOutcomes h' h := by
  induction h generalizing h' with
  | nil =>
      match h' with
      | [] | .done _ _ :: _ | .abandoned _ _ :: _ => trivial
      | .fired _ _ :: _ => exact same
  | cons event h ih =>
      match event, h' with
      | .fired which op, h' =>
          obtain ⟨rest, rfl, later⟩ := sameOutcomes_fired same
          exact ⟨rfl, rfl, ih later⟩
      | .done op res, .done op' res' :: rest =>
          rintro rfl
          obtain ⟨rfl, later⟩ := same rfl
          exact ⟨rfl, ih later⟩
      | .abandoned op outcome, .abandoned op' outcome' :: rest =>
          rintro rfl
          obtain ⟨rfl, later⟩ := same rfl
          exact ⟨rfl, ih later⟩
      | .done _ _, [] | .done _ _, .abandoned _ _ :: _ => trivial
      | .abandoned _ _, [] | .abandoned _ _, .done _ _ :: _ => trivial
      | .done _ _, .fired _ _ :: _ | .abandoned _ _, .fired _ _ :: _ => exact same

namespace Prog

variable {p q q' : Prog I α}

/-! ### Programs that are alike -/

/-- One step nothing is heard of. -/
inductive SilentStep (silent : I.Op → Bool) : Prog I α → Prog I α → Prop where
  | call {op : I.Op} {next : I.Res op → Prog I α} (hidden : silent op = true) (res : I.Res op) :
      SilentStep silent (.call op next) (next res)
  | abandon {op : I.Op} {next : Prog I α} (hidden : silent op = true) :
      SilentStep silent (.abandon op next) next
  | quiet {which : I.Alarm} {op : I.Op} {fired quiet : Prog I α} :
      SilentStep silent (.alarm which op fired quiet) quiet

/-- Any number of steps nothing is heard of. -/
abbrev Silently (silent : I.Op → Bool) : Prog I α → Prog I α → Prop :=
  Relation.ReflTransGen (SilentStep silent)

/-- What one of the programs does that can be heard, the other does too, sooner or later: the answers to
silent operations do not matter, and a handler of an alarm is like every handler that the other program
has for it between the same operations. -/
inductive Alike (silent : I.Op → Bool) : Prog I α → Prog I α → Prop where
  | ret (value : α) : Alike silent (.ret value) (.ret value)
  | call {op : I.Op} {next next' : I.Res op → Prog I α} (isHeard : silent op = false)
      (rest : ∀ res, Alike silent (next res) (next' res)) :
      Alike silent (.call op next) (.call op next')
  | abandon {op : I.Op} {next next' : Prog I α} (isHeard : silent op = false)
      (rest : Alike silent next next') : Alike silent (.abandon op next) (.abandon op next')
  | callLeft {op : I.Op} {next : I.Res op → Prog I α} {q : Prog I α} (hidden : silent op = true)
      (rest : ∀ res, Alike silent (next res) q) : Alike silent (.call op next) q
  | callRight {op : I.Op} {next : I.Res op → Prog I α} {p : Prog I α} (hidden : silent op = true)
      (rest : ∀ res, Alike silent p (next res)) : Alike silent p (.call op next)
  | abandonLeft {op : I.Op} {next q : Prog I α} (hidden : silent op = true)
      (rest : Alike silent next q) : Alike silent (.abandon op next) q
  | abandonRight {op : I.Op} {next p : Prog I α} (hidden : silent op = true)
      (rest : Alike silent p next) : Alike silent p (.abandon op next)
  | alarmLeft {which : I.Alarm} {op : I.Op} {fired quiet q : Prog I α}
      (unseen : Alike silent quiet q)
      (seen : ∀ op' fired' quiet', Silently silent q (.alarm which op' fired' quiet') →
        audible silent op' = audible silent op → Alike silent fired fired') :
      Alike silent (.alarm which op fired quiet) q
  | alarmRight {which : I.Alarm} {op : I.Op} {fired quiet p : Prog I α}
      (unseen : Alike silent p quiet)
      (seen : ∀ op' fired' quiet', Silently silent p (.alarm which op' fired' quiet') →
        audible silent op' = audible silent op → Alike silent fired' fired) :
      Alike silent p (.alarm which op fired quiet)

theorem Alike.symm (alike : Alike silent p q) : Alike silent q p := by
  induction alike with
  | ret value => exact .ret value
  | call isHeard _ ih => exact .call isHeard ih
  | abandon isHeard _ ih => exact .abandon isHeard ih
  | callLeft hidden _ ih => exact .callRight hidden ih
  | callRight hidden _ ih => exact .callLeft hidden ih
  | abandonLeft hidden _ ih => exact .abandonRight hidden ih
  | abandonRight hidden _ ih => exact .abandonLeft hidden ih
  | alarmLeft _ _ ih ihSeen => exact .alarmRight ih ihSeen
  | alarmRight _ _ ih ihSeen => exact .alarmLeft ih ihSeen

theorem Alike.silentStep (alike : Alike silent p q) (step : SilentStep silent q q') :
    Alike silent p q' := by
  induction alike generalizing q' with
  | ret value => cases step
  | call isHeard _ _ =>
      cases step with
      | call hidden res => simp [isHeard] at hidden
  | abandon isHeard _ _ =>
      cases step with
      | abandon hidden => simp [isHeard] at hidden
  | callLeft hidden _ ih => exact .callLeft hidden fun res => ih res step
  | callRight hidden rest _ =>
      cases step with
      | call _ res => exact rest res
  | abandonLeft hidden _ ih => exact .abandonLeft hidden (ih step)
  | abandonRight hidden rest _ =>
      cases step with
      | abandon _ => exact rest
  | alarmLeft _ seen ih _ =>
      apply Alike.alarmLeft (ih step)
      intro op' fired' quiet' steps same
      exact seen op' fired' quiet' (.head step steps) same
  | alarmRight unseen _ _ _ =>
      cases step with
      | quiet => exact unseen

theorem Alike.silently (alike : Alike silent p q) (steps : Silently silent q q') :
    Alike silent p q' := by
  induction steps with
  | refl => exact alike
  | tail _ step ih => exact ih.silentStep step

/-- A run in which an alarm is heard first comes silently to that alarm. -/
theorem Finishes.sees {h : History I} {value : α} {which : I.Alarm} {op : Option I.Op}
    {rest : List (Heard I)} (run : p.Finishes h value)
    (first : heard silent h = .fired which op :: rest) :
    ∃ op' fired quiet h', Silently silent p (.alarm which op' fired quiet) ∧
      audible silent op' = op ∧ fired.Finishes h' value ∧ heard silent h' = rest := by
  induction run with
  | ret value => cases first
  | @call op' next res h value run ih =>
      cases hidden : silent op' with
      | false =>
          rw [heard_done hidden] at first
          cases first
      | true =>
          rw [heard_done_of_silent hidden] at first
          obtain ⟨op, fired, quiet, h', steps, found⟩ := ih first
          exact ⟨op, fired, quiet, h', .head (.call hidden res) steps, found⟩
  | @abandon op' next outcome h value run ih =>
      cases hidden : silent op' with
      | false =>
          rw [heard_abandoned hidden] at first
          cases first
      | true =>
          rw [heard_abandoned_of_silent hidden] at first
          obtain ⟨op, fired, quiet, h', steps, found⟩ := ih first
          exact ⟨op, fired, quiet, h', .head (.abandon hidden) steps, found⟩
  | @fired which' op' fired quiet h value run ih =>
      rw [heard_fired] at first
      cases first
      exact ⟨op', fired, quiet, h, .refl, rfl, run, rfl⟩
  | quiet run ih =>
      obtain ⟨op, fired, quiet, h', steps, found⟩ := ih first
      exact ⟨op, fired, quiet, h', .head .quiet steps, found⟩

/-- Two runs with the same outcomes do the same and have the same result. -/
theorem Alike.agree {h h' : History I} {value value' : α} (alike : Alike silent p q)
    (run : p.Finishes h value) (run' : q.Finishes h' value')
    (same : SameOutcomes (heard silent h) (heard silent h')) :
    value = value' ∧ heard silent h = heard silent h' := by
  induction alike generalizing h h' with
  | ret value =>
      cases run
      cases run'
      exact ⟨rfl, rfl⟩
  | call isHeard _ ih =>
      cases run with
      | call run =>
          cases run' with
          | call run' =>
              rw [heard_done isHeard, heard_done isHeard] at same ⊢
              obtain ⟨rfl, later⟩ := same rfl
              obtain ⟨values, rest⟩ := ih _ run run' later
              exact ⟨values, congrArg _ rest⟩
  | abandon isHeard _ ih =>
      cases run with
      | abandon run =>
          cases run' with
          | abandon run' =>
              rw [heard_abandoned isHeard, heard_abandoned isHeard] at same ⊢
              obtain ⟨rfl, later⟩ := same rfl
              obtain ⟨values, rest⟩ := ih run run' later
              exact ⟨values, congrArg _ rest⟩
  | callLeft hidden _ ih =>
      cases run with
      | call run =>
          rw [heard_done_of_silent hidden] at same ⊢
          exact ih _ run run' same
  | callRight hidden _ ih =>
      cases run' with
      | call run' =>
          rw [heard_done_of_silent hidden] at same ⊢
          exact ih _ run run' same
  | abandonLeft hidden _ ih =>
      cases run with
      | abandon run =>
          rw [heard_abandoned_of_silent hidden] at same ⊢
          exact ih run run' same
  | abandonRight hidden _ ih =>
      cases run' with
      | abandon run' =>
          rw [heard_abandoned_of_silent hidden] at same ⊢
          exact ih run run' same
  | alarmLeft _ _ ih ihSeen =>
      cases run with
      | fired run =>
          rw [heard_fired] at same ⊢
          obtain ⟨rest, first, later⟩ := sameOutcomes_fired same
          obtain ⟨op', fired', quiet', h'', steps, place, run', rfl⟩ := run'.sees first
          obtain ⟨values, sameRest⟩ := ihSeen op' fired' quiet' steps place run run' later
          exact ⟨values, first ▸ congrArg _ sameRest⟩
      | quiet run => exact ih run run' same
  | alarmRight _ _ ih ihSeen =>
      cases run' with
      | fired run' =>
          rw [heard_fired] at same ⊢
          obtain ⟨rest, first, later⟩ := sameOutcomes_fired same.symm
          obtain ⟨op', fired', quiet', h'', steps, place, run, rfl⟩ := run.sees first
          obtain ⟨values, sameRest⟩ := ihSeen op' fired' quiet' steps place run run' later.symm
          exact ⟨values, first ▸ congrArg _ sameRest⟩
      | quiet run' => exact ih run run' same

/-! ### The alarms of a program -/

/-- Every alarm the program may see is one of the given. -/
def Alarms (alarms : Set I.Alarm) : Prog I α → Prop
  | .ret _ => True
  | .call _ next => ∀ res, (next res).Alarms alarms
  | .abandon _ next => next.Alarms alarms
  | .alarm which _ fired quiet => which ∈ alarms ∧ fired.Alarms alarms ∧ quiet.Alarms alarms

section Alarms

variable {alarms alarms' : Set I.Alarm}

theorem Alarms.mono (subset : alarms ⊆ alarms') {p : Prog I α} (all : p.Alarms alarms) :
    p.Alarms alarms' := by
  induction p with
  | ret value => trivial
  | call op next ih => exact fun res => ih res (all res)
  | abandon op next ih => exact ih all
  | alarm which op fired quiet ihFired ihQuiet =>
      exact ⟨subset all.1, ihFired all.2.1, ihQuiet all.2.2⟩

theorem alarms_bind {p : Prog I α} {f : α → Prog I β} (first : p.Alarms alarms)
    (rest : ∀ value, (f value).Alarms alarms) : (p.bind f).Alarms alarms := by
  induction p with
  | ret value => exact rest value
  | call op next ih => exact fun res => ih res (first res)
  | abandon op next ih => exact ih first
  | alarm which op fired quiet ihFired ihQuiet =>
      exact ⟨first.1, ihFired first.2.1, ihQuiet first.2.2⟩

theorem alarms_drop {p : Prog I α} {after : Prog I β} (rest : after.Alarms alarms) :
    (p.drop after).Alarms alarms := by
  cases p <;> exact rest

theorem alarms_race {which : I.Alarm} {onFired : Prog I α → Prog I β} {done : α → β} {p : Prog I α}
    (isOne : which ∈ alarms) (all : p.Alarms alarms)
    (handled : ∀ rest : Prog I α, rest.Alarms alarms → (onFired rest).Alarms alarms) :
    (p.race which onFired done).Alarms alarms := by
  induction p with
  | ret value => trivial
  | call op next ih =>
      simp only [race]
      split
      · exact ⟨isOne, handled _ all, fun res => ih res (all res)⟩
      · exact fun res => ih res (all res)
  | abandon op next ih => exact ih all
  | alarm other op fired quiet ihFired ihQuiet =>
      exact ⟨all.1, ihFired all.2.1, ihQuiet all.2.2⟩

theorem SilentStep.keepsAlarms (step : SilentStep silent p q) (all : p.Alarms alarms) :
    q.Alarms alarms := by
  cases step with
  | call _ res => exact all res
  | abandon _ => exact all
  | quiet => exact all.2.2

theorem alarms_of_silently (steps : Silently silent p q) (all : p.Alarms alarms) :
    q.Alarms alarms := by
  induction steps with
  | refl => exact all
  | tail _ step ih => exact step.keepsAlarms ih

end Alarms

/-! ### Programs that are put together -/

/-- Silent steps of a program and its continuation end in the program or in the continuation. -/
theorem silently_bind {f : α → Prog I β} {r : Prog I β} (steps : Silently silent (p.bind f) r) :
    (∃ p', Silently silent p p' ∧ r = p'.bind f) ∨
      ∃ value, Silently silent p (.ret value) ∧ Silently silent (f value) r := by
  induction steps with
  | refl => exact .inl ⟨p, .refl, rfl⟩
  | tail _ step ih =>
      rcases ih with ⟨p', before, rfl⟩ | ⟨value, before, after⟩
      · cases p' with
        | ret value => exact .inr ⟨value, before, .single step⟩
        | call op next =>
            cases step with
            | call hidden res => exact .inl ⟨next res, before.tail (.call hidden res), rfl⟩
        | abandon op next =>
            cases step with
            | abandon hidden => exact .inl ⟨next, before.tail (.abandon hidden), rfl⟩
        | alarm which op fired quiet =>
            cases step with
            | quiet => exact .inl ⟨quiet, before.tail .quiet, rfl⟩
      · exact .inr ⟨value, before, after.tail step⟩

/-- A continuation that does not know the alarm has not seen it. -/
theorem sees_bind {f : α → Prog I β} {which : I.Alarm} {op : I.Op} {fired quiet : Prog I β}
    {alarms : Set I.Alarm} (isOne : which ∈ alarms) (apart : ∀ value, (f value).Alarms alarmsᶜ)
    (steps : Silently silent (p.bind f) (.alarm which op fired quiet)) :
    ∃ fired' quiet', Silently silent p (.alarm which op fired' quiet') ∧ fired = fired'.bind f := by
  have outside : ∀ value, ¬Silently silent (f value) (.alarm which op fired quiet) := by
    intro value steps
    exact (alarms_of_silently steps (apart value)).1 isOne
  rcases silently_bind steps with ⟨p', before, isBind⟩ | ⟨value, before, after⟩
  · cases p' with
    | ret value => exact absurd (isBind ▸ .refl) (outside value)
    | call => cases isBind
    | abandon => cases isBind
    | alarm which' op' fired' quiet' =>
        cases isBind
        exact ⟨fired', quiet', before, rfl⟩
  · exact absurd after (outside value)

theorem Alike.bind {f g : α → Prog I β} {alarms : Set I.Alarm} (alike : Alike silent p q)
    (all : p.Alarms alarms) (all' : q.Alarms alarms)
    (rest : ∀ value, Alike silent (f value) (g value))
    (apart : ∀ value, (f value).Alarms alarmsᶜ) (apart' : ∀ value, (g value).Alarms alarmsᶜ) :
    Alike silent (p.bind f) (q.bind g) := by
  induction alike with
  | ret value => exact rest value
  | call isHeard _ ih => exact .call isHeard fun res => ih res (all res) (all' res)
  | abandon isHeard _ ih => exact .abandon isHeard (ih all all')
  | callLeft hidden _ ih => exact .callLeft hidden fun res => ih res (all res) all'
  | callRight hidden _ ih => exact .callRight hidden fun res => ih res all (all' res)
  | abandonLeft hidden _ ih => exact .abandonLeft hidden (ih all all')
  | abandonRight hidden _ ih => exact .abandonRight hidden (ih all all')
  | alarmLeft _ _ ih ihSeen =>
      apply Alike.alarmLeft (ih all.2.2 all')
      intro op' fired' quiet' steps place
      obtain ⟨fired, quiet, before, rfl⟩ := sees_bind all.1 apart' steps
      exact ihSeen op' fired quiet before place all.2.1 (alarms_of_silently before all').2.1
  | alarmRight _ _ ih ihSeen =>
      apply Alike.alarmRight (ih all all'.2.2)
      intro op' fired' quiet' steps place
      obtain ⟨fired, quiet, before, rfl⟩ := sees_bind all'.1 apart steps
      exact ihSeen op' fired quiet before place (alarms_of_silently before all).2.1 all'.2.1

section Race

variable {which other : I.Alarm} {onFired onFired' : Prog I α → Prog I β} {done : α → β}
  {op : I.Op}

/-- Silent steps of a raced program are those of the program; they may end behind the question whether
the alarm is seen. -/
theorem silently_race {r : Prog I β} (steps : Silently silent (p.race which onFired done) r) :
    ∃ p', Silently silent p p' ∧ (r = p'.race which onFired done ∨
      ∃ op next, p' = .call op next ∧ r = .call op fun res => (next res).race which onFired done) := by
  induction steps with
  | refl => exact ⟨p, .refl, .inl rfl⟩
  | tail _ step ih =>
      obtain ⟨p', before, rfl | ⟨op, next, rfl, rfl⟩⟩ := ih
      · cases p' with
        | ret value => cases step
        | call op next =>
            simp only [race] at step
            split at step
            · cases step with
              | quiet => exact ⟨.call op next, before, .inr ⟨op, next, rfl, rfl⟩⟩
            · cases step with
              | call hidden res => exact ⟨next res, before.tail (.call hidden res), .inl rfl⟩
        | abandon op next =>
            cases step with
            | abandon hidden => exact ⟨next, before.tail (.abandon hidden), .inl rfl⟩
        | alarm other op fired quiet =>
            cases step with
            | quiet => exact ⟨quiet, before.tail .quiet, .inl rfl⟩
      · cases step with
        | call hidden res => exact ⟨next res, before.tail (.call hidden res), .inl rfl⟩

/-- The alarm of a race is seen where the program waits. -/
theorem sees_race {fired quiet : Prog I β} (all : p.Alarms {which}ᶜ)
    (steps : Silently silent (p.race which onFired done) (.alarm which op fired quiet)) :
    ∃ next, Silently silent p (.call op next) ∧ fired = onFired (.call op next) := by
  obtain ⟨p', before, isRace | ⟨op', next, rfl, isCall⟩⟩ := silently_race steps
  · cases p' with
    | ret value => cases isRace
    | call op' next =>
        simp only [race] at isRace
        split at isRace
        · cases isRace
          exact ⟨next, before, rfl⟩
        · cases isRace
    | abandon => cases isRace
    | alarm other op' fired' quiet' =>
        cases isRace
        exact absurd rfl (alarms_of_silently before all).1
  · cases isCall

/-- The other alarms of a raced program are those of the program. -/
theorem sees_race_other {fired quiet : Prog I β} (isOther : other ≠ which)
    (steps : Silently silent (p.race which onFired done) (.alarm other op fired quiet)) :
    ∃ fired' quiet', Silently silent p (.alarm other op fired' quiet') ∧
      fired = fired'.race which onFired done := by
  obtain ⟨p', before, isRace | ⟨op', next, rfl, isCall⟩⟩ := silently_race steps
  · cases p' with
    | ret value => cases isRace
    | call op' next =>
        simp only [race] at isRace
        split at isRace
        · cases isRace
          exact absurd rfl isOther
        · cases isRace
    | abandon => cases isRace
    | alarm other op' fired' quiet' =>
        cases isRace
        exact ⟨fired', quiet', before, rfl⟩
  · cases isCall

/-- The handlers of a race do alike with rests that wait for the same, or for something silent. -/
def Handles (silent : I.Op → Bool) (onFired onFired' : Prog I α → Prog I β) : Prop :=
  ∀ op op' next next', audible silent op' = audible silent op →
    Alike silent (.call op next) (.call op' next') →
    Alike silent (onFired (.call op next)) (onFired' (.call op' next'))

theorem Handles.symm (handles : Handles silent onFired onFired') :
    Handles silent onFired' onFired := by
  intro op op' next next' place alike
  exact (handles op' op next' next place.symm alike.symm).symm

/-- A program that waits, raced, is like another one raced if it is when the alarm is not seen. -/
theorem Alike.raceLeft {next : I.Res op → Prog I α} (handles : Handles silent onFired onFired')
    (all' : q.Alarms {which}ᶜ) (alike : Alike silent (.call op next) q)
    (waiting : Alike silent (.call op fun res => (next res).race which onFired done)
      (q.race which onFired' done)) :
    Alike silent ((Prog.call op next).race which onFired done) (q.race which onFired' done) := by
  simp only [race]
  split
  · apply Alike.alarmLeft waiting
    intro op' fired' quiet' steps place
    obtain ⟨next', before, rfl⟩ := sees_race all' steps
    exact handles op op' next next' place (alike.silently before)
  · exact waiting

theorem Alike.raceRight {next : I.Res op → Prog I α} (handles : Handles silent onFired onFired')
    (all : p.Alarms {which}ᶜ) (alike : Alike silent p (.call op next))
    (waiting : Alike silent (p.race which onFired done)
      (.call op fun res => (next res).race which onFired' done)) :
    Alike silent (p.race which onFired done) ((Prog.call op next).race which onFired' done) :=
  (Alike.raceLeft handles.symm all alike.symm waiting.symm).symm

theorem Alike.race (alike : Alike silent p q) (handles : Handles silent onFired onFired')
    (all : p.Alarms {which}ᶜ) (all' : q.Alarms {which}ᶜ) :
    Alike silent (p.race which onFired done) (q.race which onFired' done) := by
  induction alike with
  | ret value => exact .ret _
  | @call op next next' isHeard rest ih =>
      -- Where both wait for the same, neither comes silently to the alarm once it was not seen.
      have waiting := Alike.call isHeard fun res => ih res (all res) (all' res)
      apply Alike.raceLeft handles all' (.call isHeard rest)
      simp only [Prog.race]
      split
      · apply Alike.alarmRight waiting
        intro op' fired' quiet' steps place
        rcases Relation.ReflTransGen.cases_head steps with isCall | ⟨_, step, _⟩
        · cases isCall
        · cases step with
          | call hidden res => simp [isHeard] at hidden
      · exact waiting
  | abandon isHeard _ ih => exact .abandon isHeard (ih all all')
  | callLeft hidden rest ih =>
      apply Alike.raceLeft handles all' (.callLeft hidden rest)
      exact .callLeft hidden fun res => ih res (all res) all'
  | callRight hidden rest ih =>
      apply Alike.raceRight handles all (.callRight hidden rest)
      exact .callRight hidden fun res => ih res all (all' res)
  | abandonLeft hidden _ ih => exact .abandonLeft hidden (ih all all')
  | abandonRight hidden _ ih => exact .abandonRight hidden (ih all all')
  | alarmLeft _ _ ih ihSeen =>
      apply Alike.alarmLeft (ih all.2.2 all')
      intro op' fired' quiet' steps place
      obtain ⟨fired, quiet, before, rfl⟩ := sees_race_other all.1 steps
      exact ihSeen op' fired quiet before place all.2.1 (alarms_of_silently before all').2.1
  | alarmRight _ _ ih ihSeen =>
      apply Alike.alarmRight (ih all all'.2.2)
      intro op' fired' quiet' steps place
      obtain ⟨fired, quiet, before, rfl⟩ := sees_race_other all'.1 steps
      exact ihSeen op' fired quiet before place (alarms_of_silently before all).2.1 all'.2.1

/-- Rests that wait for the same, or for something silent, are dropped alike. -/
theorem alike_drop {op' : I.Op} (next : I.Res op → Prog I α) (next' : I.Res op' → Prog I α)
    {after after' : Prog I β} (place : audible silent op' = audible silent op)
    (rest : Alike silent after after') :
    Alike silent ((Prog.call op next).drop after) ((Prog.call op' next').drop after') := by
  unfold audible at place
  cases hidden : silent op with
  | true =>
      have hidden' : silent op' = true := by
        cases found : silent op' with
        | true => rfl
        | false => simp [hidden, found] at place
      exact .abandonLeft hidden (.abandonRight hidden' rest)
  | false =>
      obtain rfl : op' = op := by
        cases found : silent op' with
        | true => simp [hidden, found] at place
        | false => simpa [hidden, found] using place
      exact .abandon hidden rest

end Race

/-! ### Programs without heard operations -/

/-- Nothing is heard of the program, and its result is fixed. -/
structure Mute (silent : I.Op → Bool) (value : α) (p : Prog I α) : Prop where
  ops : p.AllOps fun op => silent op = true
  result : p.Yields (· = value)
  noAlarms : p.Alarms ∅

theorem Mute.alike {value : α} (mute : Mute silent value p) (mute' : Mute silent value q) :
    Alike silent p q := by
  induction p with
  | ret result =>
      obtain rfl : result = value := mute.result
      induction q with
      | ret result =>
          obtain rfl : result = _ := mute'.result
          exact .ret _
      | call op next ih =>
          apply Alike.callRight mute'.ops.1
          exact fun res => ih res ⟨mute'.ops.2 res, mute'.result res, mute'.noAlarms res⟩
      | abandon op next ih =>
          exact .abandonRight mute'.ops.1 (ih ⟨mute'.ops.2, mute'.result, mute'.noAlarms⟩)
      | alarm => exact absurd mute'.noAlarms.1 (Set.notMem_empty _)
  | call op next ih =>
      apply Alike.callLeft mute.ops.1
      exact fun res => ih res ⟨mute.ops.2 res, mute.result res, mute.noAlarms res⟩
  | abandon op next ih =>
      exact .abandonLeft mute.ops.1 (ih ⟨mute.ops.2, mute.result, mute.noAlarms⟩)
  | alarm => exact absurd mute.noAlarms.1 (Set.notMem_empty _)

/-! ### Programs that do not depend on silent answers -/

/-- The program is like itself, and sees the given alarms only. -/
structure Deaf (silent : I.Op → Bool) (alarms : Set I.Alarm) (p : Prog I α) : Prop where
  alike : Alike silent p p
  alarms : p.Alarms alarms

section Deaf

variable {alarms alarms' : Set I.Alarm}

theorem Deaf.mono (subset : alarms ⊆ alarms') {p : Prog I α} (deaf : Deaf silent alarms p) :
    Deaf silent alarms' p :=
  ⟨deaf.alike, deaf.alarms.mono subset⟩

/-- Two runs whose heard operations and alarms have the same outcomes do the same. -/
theorem Deaf.agree {h h' : History I} {value value' : α} (deaf : Deaf silent alarms p)
    (run : p.Finishes h value) (run' : p.Finishes h' value')
    (same : SameOutcomes (heard silent h) (heard silent h')) :
    value = value' ∧ heard silent h = heard silent h' :=
  deaf.alike.agree run run' same

theorem deaf_ret (value : α) : Deaf silent alarms (.ret value) :=
  ⟨.ret value, trivial⟩

theorem deaf_perform {op : I.Op} (isHeard : silent op = false) :
    Deaf silent alarms (perform op) :=
  ⟨.call isHeard .ret, fun _ => trivial⟩

theorem Mute.deaf {value : α} (mute : Mute silent value p) : Deaf silent alarms p :=
  ⟨mute.alike mute, mute.noAlarms.mono (Set.empty_subset _)⟩

theorem deaf_bind {f : α → Prog I β} (apart : Disjoint alarms alarms')
    (first : Deaf silent alarms p) (rest : ∀ value, Deaf silent alarms' (f value)) :
    Deaf silent (alarms ∪ alarms') (p.bind f) := by
  have outside : ∀ value, (f value).Alarms alarmsᶜ :=
    fun value => (rest value).alarms.mono apart.subset_compl_left
  constructor
  · exact first.alike.bind first.alarms first.alarms (fun value => (rest value).alike) outside outside
  · apply alarms_bind (first.alarms.mono Set.subset_union_left)
    exact fun value => (rest value).alarms.mono Set.subset_union_right

theorem deaf_race {which : I.Alarm} {onFired : Prog I α → Prog I β} {done : α → β}
    (fresh : which ∉ alarms) (deaf : Deaf silent alarms p) (handles : Handles silent onFired onFired)
    (handled : ∀ rest : Prog I α, rest.Alarms (insert which alarms) →
      (onFired rest).Alarms (insert which alarms)) :
    Deaf silent (insert which alarms) (p.race which onFired done) := by
  have others : p.Alarms {which}ᶜ := by
    apply deaf.alarms.mono
    rintro alarm member rfl
    exact fresh member
  constructor
  · exact deaf.alike.race handles others others
  · exact alarms_race (Set.mem_insert ..) (deaf.alarms.mono (Set.subset_insert ..)) handled

theorem deaf_timeout {which : I.Alarm} (fresh : which ∉ alarms) (deaf : Deaf silent alarms p) :
    Deaf silent (insert which alarms) (p.timeout which) := by
  apply deaf_race fresh deaf
  · intro op op' next next' place _
    exact alike_drop next next' place (.ret none)
  · exact fun _ _ => alarms_drop trivial

end Deaf

end Prog

/-! ### Futures that can fail -/

namespace Fallible

variable {alarms alarms' : Set I.Alarm} {ε' : Type}

/-- The future does not depend on silent answers. -/
def Deaf (silent : I.Op → Bool) (alarms : Set I.Alarm) (p : Fallible I ε α) : Prop :=
  Prog.Deaf silent alarms p.run

@[simp] theorem deaf_pure (value : α) : Deaf silent alarms (pure value : Fallible I ε α) :=
  Prog.deaf_ret _

@[simp] theorem deaf_throw (error : ε) : Deaf silent alarms (throw error : Fallible I ε α) :=
  Prog.deaf_ret _

@[simp] theorem deaf_ofExcept (outcome : Except ε α) :
    Deaf silent alarms (ofExcept outcome : Fallible I ε α) :=
  Prog.deaf_ret _

theorem Deaf.mono (subset : alarms ⊆ alarms') {p : Fallible I ε α} (deaf : Deaf silent alarms p) :
    Deaf silent alarms' p :=
  Prog.Deaf.mono subset deaf

/-- The alarms of a future and of its continuation are different ones. -/
theorem deaf_bind_apart {p : Fallible I ε α} {f : α → Fallible I ε β}
    (apart : Disjoint alarms alarms') (first : Deaf silent alarms p)
    (rest : ∀ value, Deaf silent alarms' (f value)) :
    Deaf silent (alarms ∪ alarms') (p >>= f) := by
  apply Prog.deaf_bind apart first
  intro outcome
  cases outcome with
  | ok value => exact rest value
  | error error => exact Prog.deaf_ret _

/-- A future without alarms goes first. -/
theorem deaf_bind {p : Fallible I ε α} {f : α → Fallible I ε β} (first : Deaf silent ∅ p)
    (rest : ∀ value, Deaf silent alarms (f value)) : Deaf silent alarms (p >>= f) :=
  Set.empty_union alarms ▸ deaf_bind_apart (Set.empty_disjoint alarms) first rest

/-- The continuation has no alarms. -/
theorem deaf_bind_last {p : Fallible I ε α} {f : α → Fallible I ε β} (first : Deaf silent alarms p)
    (rest : ∀ value, Deaf silent ∅ (f value)) : Deaf silent alarms (p >>= f) :=
  Set.union_empty alarms ▸ deaf_bind_apart (Set.disjoint_empty alarms) first rest

theorem deaf_perform {op : I.Op} (isHeard : silent op = false) :
    Deaf silent alarms (perform op : Fallible I ε (I.Res op)) :=
  ⟨.call isHeard fun _ => .ret _, fun _ => trivial⟩

theorem deaf_attempt {p : Fallible I ε α} (deaf : Deaf silent alarms p) :
    Deaf silent alarms (attempt p : Fallible I ε' (Except ε α)) :=
  Set.union_empty alarms ▸ Prog.deaf_bind (Set.disjoint_empty alarms) deaf fun _ => Prog.deaf_ret _

theorem deaf_forM {items : List α} {f : α → Fallible I ε PUnit}
    (each : ∀ item ∈ items, Deaf silent ∅ (f item)) : Deaf silent ∅ (forM items f) := by
  induction items with
  | nil => exact deaf_pure _
  | cons item items ih =>
      apply deaf_bind (each item List.mem_cons_self)
      exact fun _ => ih fun other member => each other (List.mem_cons_of_mem _ member)

end Fallible

end Async
