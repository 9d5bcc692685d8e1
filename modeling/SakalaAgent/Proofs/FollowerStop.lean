/-
Module: SakalaAgent.Proofs.FollowerStop
Layer: Proofs
Purpose: A log follower whose delivery has stopped. The sink takes the refusal of a line for the end
  of that line and not for an error, so the runner goes on reading; a follower ends with its process,
  or when it is aborted.
Trusted boundary: none
Main exports: LogFollower.StopsAtReported, LogFollower.stops_exact
-/
import SakalaAgent.Runtime.LogFollower
import SakalaAgent.Transition.Runs

namespace SakalaAgent

open Async Transition

namespace LogFollower

/-- The process goes on with its output, and the agent is not shut down. -/
def isCalm : LogFollowerAction → Bool
  | .reporter _ | .line _ _ | .proceed => true
  | _ => false

/-- The lines that are read. -/
def printed (actions : List LogFollowerAction) : List Text :=
  actions.filterMap fun
    | .line _ text => some text
    | _ => none

/-- No line is being passed on. -/
def isAtRest (s : LogFollower) : Bool :=
  match s.position with
  | .passing _ | .logging _ _ => false
  | _ => true

/-- The process is ended, and the task has finished. -/
def isStopped (s : LogFollower) : Bool :=
  match s.position with
  | .ended _ => !s.isRunning
  | _ => false

/-- The first line that would be reported has ended the follower, when it has been passed on. -/
def StopsAtReported (actions : List LogFollowerAction) (s : LogFollower) : Prop :=
  (∃ text ∈ printed actions, isReported text = true) → s.isAtRest = true → s.isStopped = true

variable {s s' : LogFollower}

/-! ### The sink -/

/-- A rest of the sink that ends without an error. -/
abbrev Forgives (rest : SinkRest) : Prop :=
  rest.Yields (· = .ok ())

/-- Whatever becomes of its frames, a line is passed on without an error. -/
theorem forgives_reportFrames (phase : String) (stream : ProcessStream) (frames : List Text) :
    Forgives (reportFrames phase stream frames).run := by
  induction frames with
  | nil => rfl
  | cons frame frames ih =>
      simp only [reportFrames]
      split
      · exact ih
      · rintro (error | _)
        · rfl
        · exact ih

/-- The follower is passing a line on with nothing but frames left, if it is passing one on. -/
def Forgiving (s : LogFollower) : Prop :=
  match s.position with
  | .passing rest => Forgives rest
  | .logging _ next => ∀ outcome, Forgives (next outcome)
  | _ => True

theorem forgiving_pass {rest : SinkRest} (forgives : Forgives rest)
    (passed : s.pass rest = some s') : s'.Forgiving := by
  unfold pass at passed
  split at passed
  · cases passed
    trivial
  · cases forgives
  · cases passed
    exact forgives
  · cases passed

theorem forgiving_proceed (forgiving : s.Forgiving) (stepped : s.proceed = some s') :
    s'.Forgiving := by
  unfold proceed at stepped
  unfold Forgiving at forgiving
  split at stepped
  · split at stepped
    · cases stepped
      trivial
    · cases stepped
  · rename_i rest position
    rw [position] at forgiving
    exact forgiving_pass forgiving stepped
  · rename_i call next position
    rw [position] at forgiving
    split at stepped
    · cases stepped
      exact forgiving _
    · cases stepped
  · split at stepped
    · cases stepped
    · cases stepped
      trivial
  · cases stepped

/-- A step of the reporter leaves the follower where it is. -/
theorem position_reporter {action : Reporter.Action}
    (stepped : s.step (.reporter action) = some s') :
    s'.position = s.position ∧ s'.isClosed = s.isClosed := by
  cases action with
  | drop id =>
      simp only [step] at stepped
      split at stepped
      · cases stepped
      · obtain ⟨reporter, _, rfl⟩ := Option.map_eq_some_iff.mp stepped
        exact ⟨rfl, rfl⟩
  | log | flush | proceed | answer =>
      simp only [step] at stepped
      obtain ⟨reporter, _, rfl⟩ := Option.map_eq_some_iff.mp stepped
      exact ⟨rfl, rfl⟩

theorem forgiving_step {action : LogFollowerAction} (forgiving : s.Forgiving)
    (stepped : s.step action = some s') : s'.Forgiving := by
  cases action with
  | reporter action =>
      rw [Forgiving, (position_reporter stepped).1]
      exact forgiving
  | line stream text =>
      simp only [step] at stepped
      split at stepped
      · split at stepped
        · cases stepped
        · cases stepped
          exact forgives_reportFrames _ _ _
      · cases stepped
  | proceed => exact forgiving_proceed forgiving stepped
  | close stream =>
      simp only [step] at stepped
      split at stepped
      · rename_i position
        cases stepped
        simp [Forgiving, position]
      · cases stepped
  | unreadable error =>
      simp only [step] at stepped
      split at stepped
      · cases stepped
        trivial
      · cases stepped
  | exit =>
      cases stepped
      exact forgiving
  | abort =>
      simp only [step] at stepped
      split at stepped
      · cases stepped
      · cases stepped
        trivial

/-! ### The runner -/

/-- There is a stream to read, and the follower reads it or passes a line of it on. -/
structure Reads (s : LogFollower) : Prop where
  forgiving : s.Forgiving
  isOpen : (s.isClosed .stdout && s.isClosed .stderr) = false
  goesOn : match s.position with
    | .exiting | .ended _ => False
    | _ => True

theorem Reads.notStopped (reads : s.Reads) : s.isStopped = false := by
  have goesOn := reads.goesOn
  unfold isStopped
  split
  · rename_i outcome position
    rw [position] at goesOn
    exact goesOn.elim
  · rfl

theorem Reads.pass {rest : SinkRest} (reads : s.Reads) (position : s.position = .passing rest)
    (passed : s.pass rest = some s') : s'.Reads := by
  have forgives := reads.forgiving
  rw [Forgiving, position] at forgives
  apply Reads.mk (forgiving_pass forgives passed)
  · unfold LogFollower.pass at passed
    split at passed
    · cases passed
      exact reads.isOpen
    · cases forgives
    · cases passed
      exact reads.isOpen
    · cases passed
  · unfold LogFollower.pass at passed
    split at passed
    · cases passed
      trivial
    · cases forgives
    · cases passed
      trivial
    · cases passed

theorem Reads.proceed (reads : s.Reads) (stepped : s.proceed = some s') : s'.Reads := by
  have isOpen := reads.isOpen
  have goesOn := reads.goesOn
  have forgiving := forgiving_proceed reads.forgiving stepped
  unfold LogFollower.proceed at stepped
  split at stepped
  · rw [isOpen] at stepped
    cases stepped
  · rename_i rest position
    exact reads.pass position stepped
  · split at stepped
    · cases stepped
      exact ⟨forgiving, isOpen, trivial⟩
    · cases stepped
  · rename_i position
    rw [position] at goesOn
    exact goesOn.elim
  · cases stepped

/-- A follower that reads goes on reading, whatever it reads and whatever the reporter does. -/
theorem Reads.step {action : LogFollowerAction} (reads : s.Reads) (calm : isCalm action = true)
    (stepped : s.step action = some s') : s'.Reads := by
  have forgiving := forgiving_step reads.forgiving stepped
  cases action with
  | reporter action =>
      obtain ⟨position, isClosed⟩ := position_reporter stepped
      apply Reads.mk forgiving
      · rw [isClosed]
        exact reads.isOpen
      · rw [position]
        exact reads.goesOn
  | line stream text =>
      simp only [LogFollower.step] at stepped
      split at stepped
      · split at stepped
        · cases stepped
        · cases stepped
          exact ⟨forgiving, reads.isOpen, trivial⟩
      · cases stepped
  | proceed => exact reads.proceed stepped
  | close | unreadable | exit | abort => cases calm

theorem Reads.run {actions : List LogFollowerAction} (reads : s.Reads)
    (calm : ∀ action ∈ actions, isCalm action = true)
    (run : exec LogFollower.step s actions = some s') : s'.Reads := by
  apply exec_invariant_along (fun _ action => isCalm action = true) Reads _ reads _ run
  · exact fun _ _ _ reads calm stepped => reads.step calm stepped
  · exact along_of_forall calm

/-- A line that is read shows that there is a stream to read. -/
theorem reads_of_line {stream : ProcessStream} {text : Text}
    (stepped : s.step (.line stream text) = some s') : s'.Reads := by
  simp only [step] at stepped
  split at stepped
  · split at stepped
    · cases stepped
    · rename_i isOpen
      cases stepped
      apply Reads.mk
      · exact forgives_reportFrames _ _ _
      · cases stream <;> simp_all
      · trivial
  · cases stepped

/-! ### A line behind the latch -/

/-- A frame that is not blank is logged; one that is refused ends its line. -/
theorem reportFrames_cons {phase : String} {stream : ProcessStream} {frame : Text}
    {frames : List Text} (solid : Text.isBlank (Text.trimEnd frame) = false) :
    (reportFrames phase stream (frame :: frames)).run =
      .call (.log { stream := stream.logStream, message :=
          s!"[{phase}] {String.ofList (Text.trimEnd frame)}" })
        fun delivered : Except RuntimeExecutionError Unit => match delivered with
          | .ok _ => (reportFrames phase stream frames).run
          | .error _ => .ret (.ok ()) := by
  have visible : ¬Text.isBlank (Text.trimEnd frame) = true := by simp [solid]
  apply (congrArg ExceptT.run (if_neg visible)).trans
  apply congrArg (Prog.call _)
  funext delivered
  cases delivered with
  | ok _ => rfl
  | error error => rfl

/-- The reporter refuses a line at once. -/
theorem refused {reporter : Reporter} {reason : String} (log : DeploymentLog)
    (latched : reporter.state.deliveryStopped = some reason) :
    ∃ refusing, (reporter.spawn .log (.entered log)).step (.proceed reporter.nextCall) =
        some refusing ∧
      refusing.calls reporter.nextCall =
        some ⟨.log, .returned (.error s!"log delivery stopped: {reason}")⟩ := by
  refine ⟨(reporter.spawn .log (.entered log)).returnWith reporter.nextCall .log
    (.error s!"log delivery stopped: {reason}"), ?_, ?_⟩
  · simp [Reporter.step, Reporter.spawn, Reporter.moveTo, Reporter.proceed, Reporter.accept, latched]
  · simp [Reporter.returnWith, Reporter.moveTo]

/-- A frame that is refused ends its line, and the follower reads on. -/
theorem refusal_passed {reason : String} {log : DeploymentLog}
    {next : Except RuntimeExecutionError Unit → SinkRest}
    (latched : s.reporter.state.deliveryStopped = some reason)
    (position : s.position = .passing (.call (.log log) next))
    (forgives : ∀ error, next (.error error) = .ret (.ok ())) :
    ∃ s', exec step s [.proceed, .reporter (.proceed s.reporter.nextCall), .proceed, .proceed] =
      some s' ∧ s'.position = .reading := by
  obtain ⟨reporter, refusing, returned⟩ := refused log latched
  let logging : LogFollower :=
    { s with
      reporter := s.reporter.spawn .log (.entered log)
      position := .logging s.reporter.nextCall next }
  let answered : LogFollower := { logging with reporter }
  let passing : LogFollower := { answered with position := .passing (.ret (.ok ())) }
  have logs : s.step .proceed = some logging := by
    rw [step, proceed, position]
    rfl
  have refuses : logging.step (.reporter (.proceed s.reporter.nextCall)) = some answered := by
    simp only [step, logging, refusing]
    rfl
  have hears : answered.step .proceed = some passing := by
    simp only [step, proceed, answered, logging, returned]
    rw [delivered, Except.mapError, forgives]
  have passes : passing.step .proceed = some { passing with position := .reading } := rfl
  refine ⟨{ passing with position := .reading }, ?_, rfl⟩
  rw [exec_cons, logs, Option.bind_some, exec_cons, refuses, Option.bind_some, exec_cons, hears,
    Option.bind_some, exec_cons, passes]
  rfl

/-- A line that is read is passed on, and the next can be read. -/
theorem passed_on {reason : String} (phase : String) (stream : ProcessStream) (frames : List Text)
    (latched : s.reporter.state.deliveryStopped = some reason)
    (position : s.position = .passing (reportFrames phase stream frames).run) :
    ∃ actions s', exec step s actions = some s' ∧ printed actions = [] ∧
      (∀ action ∈ actions, isCalm action = true) ∧ s'.position = .reading := by
  induction frames with
  | nil =>
      have passes : s.step .proceed = some { s with position := .reading } := by
        rw [step, proceed, position]
        rfl
      refine ⟨[.proceed], { s with position := .reading }, ?_, rfl, by simp [isCalm], rfl⟩
      rw [exec_cons, passes]
      rfl
  | cons frame frames ih =>
      cases blank : Text.isBlank (Text.trimEnd frame) with
      | true =>
          have skipped : reportFrames phase stream (frame :: frames) =
              reportFrames phase stream frames := if_pos blank
          apply ih
          rw [position, skipped]
      | false =>
          rw [reportFrames_cons blank] at position
          obtain ⟨s', run, reading⟩ := refusal_passed latched position fun _ => rfl
          exact ⟨_, s', run, rfl, by simp [isCalm], reading⟩

/-! ### A follower behind the latch -/

/-- A line that would be reported has not ended the follower. -/
theorem reads_of_printed {actions : List LogFollowerAction} {text : Text}
    (run : exec step s actions = some s') (calm : ∀ action ∈ actions, isCalm action = true)
    (isPrinted : text ∈ printed actions) : s'.Reads := by
  obtain ⟨action, member, read⟩ := List.mem_filterMap.mp isPrinted
  obtain ⟨before, after, rfl⟩ := List.append_of_mem member
  rw [exec_append] at run
  obtain ⟨mid, _, run⟩ := Option.bind_eq_some_iff.mp run
  obtain ⟨next, stepped, rest⟩ := exec_cons_eq_some.mp run
  cases action with
  | line stream text =>
      apply (reads_of_line stepped).run _ rest
      exact fun other member => calm other (List.mem_append_right _ (List.mem_cons_of_mem _ member))
  | _ => cases read

/-- A follower whose delivery has stopped. Whatever its process prints from then on and whatever
happens to the reporter, the first line that would be reported ends the follower only if there is no
such line; and each line comes to the point where the next can be read. -/
theorem stops_exact (reason : String) (after : List LogFollowerAction) (s s' : LogFollower)
    (latched : s.reporter.state.deliveryStopped = some reason)
    (later : exec step s after = some s') (calm : ∀ action ∈ after, isCalm action = true)
    (rest : s'.isAtRest = true) :
    (StopsAtReported after s' ↔ ∀ text ∈ printed after, isReported text = false) ∧
    ∀ stream text next, s.step (.line stream text) = some next →
      ∃ actions last, exec step next actions = some last ∧ printed actions = [] ∧
        (∀ action ∈ actions, isCalm action = true) ∧ last.position = .reading := by
  constructor
  · constructor
    · intro stops text isPrinted
      have reads := reads_of_printed later calm isPrinted
      cases reported : isReported text with
      | false => rfl
      | true =>
          have stopped := stops ⟨text, isPrinted, reported⟩ rest
          rw [reads.notStopped] at stopped
          cases stopped
    · rintro silent ⟨text, isPrinted, reported⟩ _
      rw [silent text isPrinted] at reported
      cases reported
  · intro stream text next stepped
    simp only [step] at stepped
    split at stepped
    · split at stepped
      · cases stepped
      · cases stepped
        exact passed_on "runtime" stream (Text.splitOn '\r' text) latched rfl
    · cases stepped

/-! ### A refused line -/

/-- A batch of the follower is rejected: its delivery has stopped. -/
def untilRejected : List LogFollowerAction :=
  [.line .stdout "listening".toList, .proceed, .reporter (.proceed 0), .reporter (.proceed 0),
    .reporter (.proceed 0), .reporter (.proceed 0), .reporter (.answer 0 (some "HTTP 422")),
    .reporter (.proceed 0), .proceed, .proceed]

/-- The container prints another line, which is refused. -/
def untilRefused : List LogFollowerAction :=
  [.line .stdout "request".toList, .proceed, .reporter (.proceed 1), .proceed, .proceed]

/-- The follower of a deployment whose batches hold one line. -/
def rejected : Option LogFollower :=
  exec step (start id { maxBatchLines := some 1 }) untilRejected

theorem rejected_refused : ∃ s s', rejected = some s ∧
    s.reporter.state.deliveryStopped = some "HTTP 422" ∧ exec step s untilRefused = some s' ∧
    s'.isAtRest = true ∧ s'.isStopped = false := by
  have possible : (rejected.bind fun s => (exec step s untilRefused).map fun s' =>
      (s.reporter.state.deliveryStopped, s'.isAtRest, s'.isStopped)) =
        some (some "HTTP 422", true, false) := by
    decide
  obtain ⟨s, first, possible⟩ := Option.bind_eq_some_iff.mp possible
  obtain ⟨s', later, facts⟩ := Option.map_eq_some_iff.mp possible
  simp only [Prod.mk.injEq] at facts
  exact ⟨s, s', first, facts.1, later, facts.2⟩

theorem untilRefused_calm : ∀ action ∈ untilRefused, isCalm action = true := by
  simp [untilRefused, isCalm]

theorem stops_exact_refused : ∃ s s', rejected = some s ∧ exec step s untilRefused = some s' ∧
    (StopsAtReported untilRefused s' ↔
      ∀ text ∈ printed untilRefused, isReported text = false) := by
  obtain ⟨s, s', first, latched, later, rest, _⟩ := rejected_refused
  exact ⟨s, s', first, later,
    (stops_exact "HTTP 422" untilRefused s s' latched later untilRefused_calm rest).1⟩

/-- A refused line of the container, and the follower goes on. -/
theorem follower_goes_on : ∃ s s', exec step (start id { maxBatchLines := some 1 }) untilRejected =
      some s ∧ s.reporter.state.deliveryStopped = some "HTTP 422" ∧
    exec step s untilRefused = some s' ∧ (∀ action ∈ untilRefused, isCalm action = true) ∧
    ¬StopsAtReported untilRefused s' := by
  obtain ⟨s, s', first, latched, later, rest, goesOn⟩ := rejected_refused
  refine ⟨s, s', first, latched, later, untilRefused_calm, fun stops => ?_⟩
  have stopped := stops ⟨"request".toList, by simp [untilRefused, printed], by decide⟩ rest
  rw [goesOn] at stopped
  cases stopped

end LogFollower

end SakalaAgent
