/-
Module: SakalaAgent.Proofs.ProcessRuns
Layer: Proofs
Purpose: The process runner against the single operation that the futures of the runtime know. A run
  that returns has read its lines, passed them on and ended as the future over a process does that is
  answered with these lines; and a process does not outlive a runner that fails or is dropped, nor
  hold it up behind its deadline.
Trusted boundary: none
Main exports: ProcessRun.Moves, ProcessRun.Guarded, ProcessRun.Shows, ProcessRun.run_refines_process,
  ProcessRun.killed_with_runner, ProcessRun.ends_when_due
-/
import SakalaAgent.Async.Semantics
import SakalaAgent.Runtime.ProcessRunner
import SakalaAgent.Proofs.RunningProjects
import SakalaAgent.Transition.Runs

namespace SakalaAgent

open Async Transition

/-! ### The process -/

namespace ChildProcess

variable {child child' : ChildProcess} {stream : ProcessStream}

@[simp] theorem status_settle : child.settle.status = child.status := by
  unfold settle
  split <;> rfl

@[simp] theorem offspring_settle : child.settle.offspring = child.offspring := by
  unfold settle
  split <;> rfl

@[simp] theorem printed_settle : child.settle.printed = child.printed := by
  unfold settle
  split <;> rfl

@[simp] theorem unread_settle : child.settle.unread = child.unread := by
  unfold settle
  split <;> rfl

/-- Pipes are only closed. -/
theorem isClosed_settle (closed : child.isClosed stream = true) :
    child.settle.isClosed stream = true := by
  unfold settle
  split
  · exact closed
  · rfl

theorem runs_settle : child.settle.runs = child.runs := by
  simp only [runs, status_settle, offspring_settle]

@[simp] theorem runs_killGroup : child.killGroup.runs = false := by
  simp [killGroup, runs]

theorem runs_kill (idle : child.runs = false) : child.kill.runs = false := by
  obtain ⟨_, alone⟩ : child.status.isNone = false ∧ child.offspring = false := by
    simpa only [runs, Bool.or_eq_false_iff] using idle
  simp [kill, runs, alone]

/-- What is read and what is written of a process that is left alone. -/
structure SamePipes (child child' : ChildProcess) : Prop where
  printed : child'.printed = child.printed
  unread : child'.unread = child.unread
  isClosed : ∀ stream, child.isClosed stream = true → child'.isClosed stream = true

theorem samePipes_kill : SamePipes child child.kill where
  printed := printed_settle
  unread := unread_settle
  isClosed _ closed := isClosed_settle closed

theorem samePipes_killGroup : SamePipes child child.killGroup where
  printed := printed_settle
  unread := unread_settle
  isClosed _ closed := isClosed_settle closed

theorem SamePipes.trans {child'' : ChildProcess} (first : SamePipes child child')
    (second : SamePipes child' child'') : SamePipes child child'' where
  printed := second.printed.trans first.printed
  unread := second.unread.trans first.unread
  isClosed stream closed := second.isClosed stream (first.isClosed stream closed)

/-- What a step of the group adds to a pipe, which is nothing once the pipe is closed. -/
theorem step_adds (child : ChildProcess) (stream : ProcessStream) {child' : ChildProcess}
    {action : ChildAction} (stepped : child.step action = some child') :
    ∃ more, child'.printed stream = child.printed stream ++ more ∧
      child'.unread stream = child.unread stream ++ more ∧
        (child.isClosed stream = true → more = [] ∧ child'.isClosed stream = true) := by
  unfold step at stepped
  cases action with
  | print other line =>
      simp only at stepped
      split at stepped
      · rename_i writes
        cases stepped
        by_cases same : stream = other
        · subst same
          refine ⟨[line], Function.update_self .., Function.update_self .., fun closed => ?_⟩
          rw [closed] at writes
          simp at writes
        · refine ⟨[], ?_, ?_, fun closed => ⟨rfl, closed⟩⟩
          · simp [Function.update_of_ne same]
          · simp [Function.update_of_ne same]
      · cases stepped
  | close other =>
      simp only at stepped
      split at stepped
      · cases stepped
        refine ⟨[], by simp, by simp, fun closed => ⟨rfl, ?_⟩⟩
        by_cases same : stream = other
        · subst same
          exact Function.update_self ..
        · exact (Function.update_of_ne same ..).trans closed
      · cases stepped
  | fork | exit status | deserted =>
      simp only at stepped
      split at stepped
      · cases stepped
        refine ⟨[], by simp, by simp, fun closed => ⟨rfl, ?_⟩⟩
        first | exact closed | exact isClosed_settle closed
      · cases stepped

/-- A leader that has ended has ended for good. -/
theorem status_step {action : ChildAction} {status : Option Int}
    (stepped : child.step action = some child') (ended : child.status = some status) :
    child'.status = some status := by
  unfold step at stepped
  cases action with
  | exit other =>
      simp only [ended] at stepped
      cases stepped
  | print | fork | close | deserted =>
      simp only at stepped
      split at stepped
      · cases stepped
        first | exact ended | exact status_settle.trans ended
      · cases stepped

/-- A group that has ended does nothing. -/
theorem step_of_not_runs {action : ChildAction} (idle : child.runs = false) :
    child.step action = none := by
  obtain ⟨ended, alone⟩ : child.status.isNone = false ∧ child.offspring = false := by
    simpa only [runs, Bool.or_eq_false_iff] using idle
  cases action with
  | exit status => simp [step, ended]
  | deserted => simp [step, alone]
  | print | fork | close => simp [step, idle]

end ChildProcess

namespace ProcessRun

variable {s s' : ProcessRun} {action : ProcessRunAction}

/-! ### What a step can do -/

/-- The steps of a run, one for each event at each place. -/
inductive Moves (s : ProcessRun) : ProcessRun → Prop where
  | child {child child' : ChildProcess} {action : ChildAction} (started : s.child = some child)
      (stepped : child.step action = some child') : Moves s { s with child := some child' }
  | expire (started : s.child.isSome = true) : Moves s { s with isDue := true }
  | cancel : Moves s { s with isCancelled := true }
  | spawned (position : s.position = .spawning) :
      Moves s { s with child := some {}, isArmed := true, position := .reading }
  | notSpawned (text : String) (position : s.position = .spawning) :
      Moves s (s.failWith (.notStarted text))
  | line {child : ChildProcess} {stream : ProcessStream} {line : Text} {unread : List Text}
      (position : s.position = .reading) (started : s.child = some child)
      (found : child.unread stream = line :: unread) :
      Moves s { s with
        child := some { child with unread := Function.update child.unread stream unread }
        position := .passing (stream, line) (s.sink.line (stream, line)).run }
  | done {child : ChildProcess} {stream : ProcessStream} (position : s.position = .reading)
      (started : s.child = some child) (empty : child.unread stream = [])
      (closed : child.isClosed stream = true) :
      Moves s { s with isDone := Function.update s.isDone stream true }
  | unreadable (error : IoError) (position : s.position = .reading) :
      Moves s (s.failWith (.unreadable error))
  | logged {line : ProcessStream × Text} {log : DeploymentLog}
      {next : Except RuntimeExecutionError Unit → Prog Runtime (Except RuntimeError Unit)}
      (outcome : Except RuntimeExecutionError Unit)
      (position : s.position = .passing line (.call (.log log) next)) :
      Moves s { s with
        reported := s.reported ++ [.done (.log log) outcome]
        position := .passing line (next outcome) }
  | passed {line : ProcessStream × Text} (position : s.position = .passing line (.ret (.ok ()))) :
      Moves s (s.capture line)
  | refused {line : ProcessStream × Text} {error : RuntimeError}
      (position : s.position = .passing line (.ret (.error error))) :
      Moves s (s.endWith (.error error))
  | closed (position : s.position = .reading) (done : ∀ stream, s.isDone stream = true) :
      Moves s { s with position := .exiting }
  | exited {child : ChildProcess} {status : Option Int} (position : s.position = .exiting)
      (started : s.child = some child) (ended : child.status = some status) :
      Moves s ({ s with isArmed := false }.endWith (.ok (s.output status)))
  | cancelled (selecting : s.isSelecting = true) (cancellable : s.spec.cancellable = true)
      (isCancelled : s.isCancelled = true) : Moves s (s.reap .cancelled)
  | timedOut {timeout : Nat} (timed : s.timeout = some timeout) (selecting : s.isSelecting = true)
      (isDue : s.isDue = true) : Moves s (s.reap (.timedOut (timeout / 1000)))
  | reaped {failure : ProcessFailure} (position : s.position = .reaping failure) :
      Moves s ({ s with child := s.child.map ChildProcess.kill }.failWith failure)
  | dropped (running : ∀ outcome, s.position ≠ .ended outcome) :
      Moves s { s.release with position := .dropped }

theorem moves_nextLine {stream : ProcessStream} (stepped : s.nextLine stream = some s') :
    s.Moves s' := by
  unfold nextLine at stepped
  split at stepped
  · rename_i child position started
    split at stepped
    · cases stepped
    split at stepped
    · rename_i line unread found
      cases stepped
      exact .line position started found
    · rename_i empty
      split at stepped
      · rename_i closed
        cases stepped
        exact .done position started empty closed
      · cases stepped
  · cases stepped

theorem moves_runnerStep (stepped : s.runnerStep action = some s') : s.Moves s' := by
  unfold runnerStep at stepped
  split at stepped
  · -- `spawn`
    split at stepped
    · rename_i position
      cases stepped
      exact .spawned position
    · rename_i text position
      cases stepped
      exact .notSpawned text position
    · cases stepped
  · exact moves_nextLine stepped
  · -- `unreadable`
    split at stepped
    · rename_i stream error _ position
      split at stepped
      · cases stepped
      · cases stepped
        exact .unreadable error position
    · cases stepped
  · -- `logged`
    split at stepped
    · rename_i outcome _ line log next position
      cases stepped
      exact .logged outcome position
    · cases stepped
  · -- `passed`
    split at stepped
    · rename_i position
      cases stepped
      exact .passed position
    · rename_i position
      cases stepped
      exact .refused position
    · cases stepped
  · -- `closed`
    split at stepped
    · rename_i position
      split at stepped
      · rename_i done
        cases stepped
        obtain ⟨stdout, stderr⟩ : s.isDone .stdout = true ∧ s.isDone .stderr = true := by
          simpa only [Bool.and_eq_true] using done
        exact .closed position fun
          | .stdout => stdout
          | .stderr => stderr
      · cases stepped
    · cases stepped
  · -- `exited`
    split at stepped
    · rename_i status position ended
      cases stepped
      obtain ⟨child, started, ended⟩ := Option.bind_eq_some_iff.mp ended
      exact .exited position started ended
    · cases stepped
  · -- `cancelled`
    split at stepped
    · rename_i ready
      cases stepped
      obtain ⟨⟨selecting, cancellable⟩, isCancelled⟩ :
          (s.isSelecting = true ∧ s.spec.cancellable = true) ∧ s.isCancelled = true := by
        simpa only [Bool.and_eq_true] using ready
      exact .cancelled selecting cancellable isCancelled
    · cases stepped
  · -- `timedOut`
    split at stepped
    · rename_i timeout timed
      split at stepped
      · rename_i ready
        cases stepped
        obtain ⟨selecting, isDue⟩ := (Bool.and_eq_true_iff ..).mp ready
        exact .timedOut timed selecting isDue
      · cases stepped
    · cases stepped
  · -- `reaped`
    split at stepped
    · rename_i failure position
      cases stepped
      exact .reaped position
    · cases stepped
  · -- `drop`
    split at stepped
    · cases stepped
    · cases stepped
    · rename_i running _
      cases stepped
      exact .dropped running
  · cases stepped

theorem moves_of_step (stepped : s.step action = some s') : s.Moves s' := by
  unfold step at stepped
  split at stepped
  · obtain ⟨child', moved, rfl⟩ := Option.map_eq_some_iff.mp stepped
    obtain ⟨child, started, moved⟩ := Option.bind_eq_some_iff.mp moved
    exact .child started moved
  · split at stepped
    · rename_i timed
      cases stepped
      exact .expire ((Bool.and_eq_true_iff ..).mp timed).2
    · cases stepped
  · cases stepped
    exact .cancel
  · exact moves_runnerStep stepped

/-! ### The guard -/

/-- Nobody of the group is running. -/
def Killed (s : ProcessRun) : Prop :=
  ∀ child, s.child = some child → child.runs = false

/-- The runner is done with a process that it does not report the end of. -/
def isLeft (s : ProcessRun) : Bool :=
  match s.position with
  | .reaping _ | .ended (.error _) | .dropped => true
  | _ => false

/-- The guard is armed as long as the group may have to be killed. -/
structure Guarded (s : ProcessRun) : Prop where
  armed : (∀ output, s.position ≠ .ended (.ok output)) → s.isArmed = true ∨ s.Killed
  left : s.isLeft = true → s.Killed
  ended : ∀ output, s.position = .ended (.ok output) →
    ∃ child, s.child = some child ∧ child.status = some output.code

theorem killed_killGroup (guarded : s.isArmed = true ∨ s.Killed) : s.killGroup.Killed := by
  intro child found
  simp only [killGroup] at found
  split at found
  · obtain ⟨before, _, rfl⟩ := Option.map_eq_some_iff.mp found
    exact ChildProcess.runs_killGroup
  · rename_i unarmed
    rcases guarded with armed | killed
    · exact absurd armed unarmed
    · exact killed child found

theorem killed_release (guarded : s.isArmed = true ∨ s.Killed) : s.release.Killed := by
  intro child found
  obtain ⟨before, present, rfl⟩ := Option.map_eq_some_iff.mp found
  exact ChildProcess.runs_kill (killed_killGroup guarded before present)

/-- A group that has been killed does nothing more. -/
theorem Killed.not_moves {child child' : ChildProcess} {action : ChildAction} (killed : s.Killed)
    (started : s.child = some child) : child.step action ≠ some child' := by
  rw [ChildProcess.step_of_not_runs (killed child started)]
  nofun

/-- A run that fails has killed its group. -/
theorem guarded_failed {error : RuntimeError} (guarded : s.isArmed = true ∨ s.Killed) :
    (s.endWith (.error error)).Guarded where
  armed _ := .inr (killed_release guarded)
  left _ := killed_release guarded
  ended _ same := by cases same

theorem guarded_reap {failure : ProcessFailure} (guarded : s.isArmed = true ∨ s.Killed) :
    (s.reap failure).Guarded where
  armed _ := .inr (killed_killGroup guarded)
  left _ := killed_killGroup guarded
  ended _ same := by cases same

/-- A select is left before the run has ended. -/
theorem unfinished_of_isSelecting (selecting : s.isSelecting = true) (output : ProcessOutput) :
    s.position ≠ .ended (.ok output) := by
  intro position
  simp [isSelecting, position] at selecting

theorem Guarded.step (guarded : s.Guarded) (moves : s.Moves s') : s'.Guarded := by
  have running : ∀ position, s.position = position → (∀ output, position ≠ .ended (.ok output)) →
      s.isArmed = true ∨ s.Killed := by
    rintro _ rfl unfinished
    exact guarded.armed unfinished
  cases moves with
  | @child child child' action started stepped =>
      refine ⟨fun unfinished => ?_, fun left => ?_, fun output position => ?_⟩
      · rcases guarded.armed unfinished with armed | killed
        · exact .inl armed
        · exact absurd stepped (killed.not_moves started)
      · exact absurd stepped ((guarded.left left).not_moves started)
      · obtain ⟨before, present, status⟩ := guarded.ended output position
        obtain rfl : child = before := Option.some.inj (started.symm.trans present)
        exact ⟨child', rfl, ChildProcess.status_step stepped status⟩
  | expire | cancel => exact ⟨guarded.armed, guarded.left, guarded.ended⟩
  | spawned => exact ⟨fun _ => .inl rfl, fun left => (by cases left), fun _ same => (by cases same)⟩
  | notSpawned text position => exact guarded_failed (running _ position nofun)
  | unreadable error position => exact guarded_failed (running _ position nofun)
  | refused position => exact guarded_failed (running _ position nofun)
  | @line child stream line unread position started found =>
      refine ⟨fun _ => ?_, fun left => (by cases left), fun _ same => (by cases same)⟩
      rcases running _ position nofun with armed | killed
      · exact .inl armed
      · exact .inr fun _ found => Option.some.inj found ▸ killed child started
  | @done child stream position started empty closed =>
      refine ⟨fun _ => running _ position nofun, fun left => ?_, fun output same => ?_⟩
      · simp [isLeft, position] at left
      · exact nomatch position.symm.trans same
  | logged outcome position =>
      exact ⟨fun _ => running _ position nofun, fun left => (by cases left),
        fun _ same => (by cases same)⟩
  | passed position =>
      exact ⟨fun _ => running _ position nofun, fun left => (by cases left),
        fun _ same => (by cases same)⟩
  | closed position done =>
      exact ⟨fun _ => running _ position nofun, fun left => (by cases left),
        fun _ same => (by cases same)⟩
  | @exited child status position started ended =>
      refine ⟨fun unfinished => absurd rfl (unfinished _), fun left => (by cases left), ?_⟩
      rintro output same
      obtain rfl : s.output status = output := by
        cases same
        rfl
      refine ⟨child.kill, by simp [endWith, release, killGroup, started], ?_⟩
      simp [ChildProcess.kill, ended, ProcessRun.output]
  | cancelled selecting => exact guarded_reap (guarded.armed (unfinished_of_isSelecting selecting))
  | timedOut timed selecting =>
      exact guarded_reap (guarded.armed (unfinished_of_isSelecting selecting))
  | reaped position =>
      apply guarded_failed
      right
      intro child found
      obtain ⟨before, present, rfl⟩ := Option.map_eq_some_iff.mp found
      have killed : s.Killed := guarded.left (by simp [isLeft, position])
      exact ChildProcess.runs_kill (killed before present)
  | dropped unfinished =>
      have killed := killed_release (guarded.armed fun output => unfinished _)
      exact ⟨fun _ => .inr killed, fun _ => killed, fun _ same => (by cases same)⟩

theorem guarded_start (runner : TokioProcessRunner) (asked : ProcessTimeout) (spec : CommandSpec)
    (sink : OutputSink) : (start runner asked spec sink).Guarded where
  armed _ := .inr nofun
  left left := by cases left
  ended _ same := by cases same

theorem guarded_of_run {runner : TokioProcessRunner} {asked : ProcessTimeout} {spec : CommandSpec}
    {sink : OutputSink} {actions : List ProcessRunAction}
    (run : exec step (start runner asked spec sink) actions = some s) : s.Guarded :=
  exec_invariant Guarded (fun _ _ _ guarded stepped => guarded.step (moves_of_step stepped))
    (guarded_start runner asked spec sink) run

/-! ### What is read and passed on -/

/-- The surroundings may answer what they like. -/
def anyAnswer : Semantics Runtime Unit where
  step _ _ _ _ := True
  leave _ _ _ _ := True
  drift _ _ := False

/-- The lines of one stream. -/
def linesOf (lines : List (ProcessStream × Text)) (stream : ProcessStream) : List Text :=
  lines.filterMap fun line => if line.1 = stream then some line.2 else none

theorem linesOf_concat_self (lines : List (ProcessStream × Text)) (line : ProcessStream × Text) :
    linesOf (lines ++ [line]) line.1 = linesOf lines line.1 ++ [line.2] := by
  simp [linesOf, List.filterMap_append]

theorem linesOf_concat_of_ne {lines : List (ProcessStream × Text)} {line : ProcessStream × Text}
    {stream : ProcessStream} (ne : stream ≠ line.1) :
    linesOf (lines ++ [line]) stream = linesOf lines stream := by
  simp [linesOf, List.filterMap_append, Ne.symm ne]

/-- Passing the lines on to the sink can be answered as reported. -/
def Delivered (sink : OutputSink) (lines : List (ProcessStream × Text))
    (reported : History Runtime) : Prop :=
  ∀ h, Exec anyAnswer (forM lines sink.line : RuntimeM Unit).run () h (.ok ()) () (h ++ reported)

/-- What is left of a line: calls of `log`, whose answers are not errors of the line. -/
def Forwards : Prog Runtime (Except RuntimeError Unit) → Prop
  | .ret outcome => outcome = .ok ()
  | .call (.log _) next => ∀ delivered, Forwards (next delivered)
  | _ => False

theorem forwards_reportFrames (phase : String) (stream : ProcessStream) (frames : List Text) :
    Forwards (reportFrames phase stream frames).run := by
  induction frames with
  | nil => rfl
  | cons frame frames ih =>
      simp only [reportFrames]
      split
      · exact ih
      · rintro (error | _)
        · rfl
        · exact ih

theorem forwards_line (sink : OutputSink) (line : ProcessStream × Text) :
    Forwards (sink.line line).run := by
  cases sink with
  | null => rfl
  | reporter phase => exact forwards_reportFrames _ _ _

/-- What is left of a line, and what has been reported before it and up to here. -/
structure Passing (sink : OutputSink) (line : ProcessStream × Text)
    (rest : Prog Runtime (Except RuntimeError Unit)) (before reported : History Runtime) : Prop where
  continues : ∀ h outcome h', Exec anyAnswer rest () (h ++ reported) outcome () h' →
    Exec anyAnswer (sink.line line).run () (h ++ before) outcome () h'
  forwards : Forwards rest

theorem passing_line (sink : OutputSink) (line : ProcessStream × Text) (reported : History Runtime) :
    Passing sink line (sink.line line).run reported reported where
  continues _ _ _ run := run
  forwards := forwards_line sink line

theorem Passing.logged {sink : OutputSink} {line : ProcessStream × Text} {log : DeploymentLog}
    {next : Except RuntimeExecutionError Unit → Prog Runtime (Except RuntimeError Unit)}
    {before reported : History Runtime}
    (passing : Passing sink line (.call (.log log) next) before reported)
    (outcome : Except RuntimeExecutionError Unit) :
    Passing sink line (next outcome) before (reported ++ [.done (.log log) outcome]) where
  continues h result h' run := by
    apply passing.continues h result h'
    rw [← List.append_assoc] at run
    exact .call (.refl ()) outcome trivial run
  forwards := passing.forwards outcome

theorem Passing.delivered {sink : OutputSink} {lines : List (ProcessStream × Text)}
    {line : ProcessStream × Text} {before reported : History Runtime}
    (passing : Passing sink line (.ret (.ok ())) before reported)
    (delivered : Delivered sink lines before) : Delivered sink (lines ++ [line]) reported := by
  intro h
  have passed : Exec anyAnswer (sink.line line).run () (h ++ before) (.ok ()) () (h ++ reported) :=
    passing.continues h _ _ (.ret _ _ _)
  have last : Exec anyAnswer (forM [line] sink.line : RuntimeM Unit).run () (h ++ before) (.ok ()) ()
      (h ++ reported) := Prog.exec_bind passed (.ret _ _ _)
  rw [List.forM_append]
  exact Prog.exec_bind (delivered h) last

/-- The future over a process that is answered with these lines. -/
theorem exec_runProcess {spec : CommandSpec} {sink : OutputSink} {result : ProcessResult}
    {reported : History Runtime} (delivered : Delivered sink result.lines reported)
    (h : History Runtime) :
    Exec anyAnswer (runProcess spec sink).run () h (processOutcome spec result) ()
      (h ++ .done (.process spec) result :: reported) := by
  have answered : anyAnswer.step () (.process spec) result () := trivial
  refine .call (.refl ()) result answered ?_
  have whole : h ++ .done (.process spec) result :: reported =
      h ++ [.done (.process spec) result] ++ reported := by simp
  rw [whole]
  apply Prog.exec_bind (delivered _)
  unfold processOutcome
  cases result.finish with
  | error failure => exact .ret _ _ _
  | ok code => exact .ret _ _ _

/-! ### The state of a run -/

/-- The line that has been read and not been captured. -/
def inHand (s : ProcessRun) : List (ProcessStream × Text) :=
  match s.position with
  | .passing line _ => [line]
  | _ => []

/-- What the sink was asked for so far is what it takes to pass the lines on. -/
def Reported (s : ProcessRun) (lines : List (ProcessStream × Text)) : Prop :=
  match s.position with
  | .passing line rest =>
      ∃ before, Delivered s.sink lines before ∧ Passing s.sink line rest before s.reported
  | _ => Delivered s.sink lines s.reported

/-- Why a run has failed. -/
def Explained (s : ProcessRun) : ProcessFailure → Prop
  | .notStarted _ => s.child = none
  | .unreadable _ => True
  | .cancelled => s.spec.cancellable = true ∧ s.isCancelled = true
  | .timedOut seconds =>
      s.isDue = true ∧ ∃ timeout, s.timeout = some timeout ∧ seconds = timeout / 1000

/-- The lines are those that were read, in their order, and none of those that were printed is lost. -/
structure Read (process : Option ChildProcess) (lines : List (ProcessStream × Text)) : Prop where
  printed : ∀ child, process = some child → ∀ stream,
    linesOf lines stream ++ child.unread stream = child.printed stream
  nothing : process = none → lines = []

/-- The streams that are done are at their end. -/
def Done (process : Option ChildProcess) (isDone : ProcessStream → Bool) : Prop :=
  ∀ child, process = some child → ∀ stream, isDone stream = true →
    child.unread stream = [] ∧ child.isClosed stream = true

/-- A run that goes on, with the lines that it has captured. -/
structure Tracks (s : ProcessRun) (lines : List (ProcessStream × Text)) : Prop where
  captured : ∀ stream, s.captured stream = SakalaAgent.captured (linesOf lines stream)
  read : Read s.child (lines ++ s.inHand)
  reported : s.Reported lines
  done : Done s.child s.isDone
  spawning : s.position = .spawning → s.child = none ∧ ∀ stream, s.isDone stream = false
  exiting : s.position = .exiting → ∀ stream, s.isDone stream = true
  reaping : ∀ failure, s.position = .reaping failure → s.Explained failure

/-- How a run that has ended relates to its process. -/
structure Shows (s : ProcessRun) (result : ProcessResult) : Prop where
  read : Read s.child result.lines
  /-- The leader has ended as reported, and nothing that was printed is unread. -/
  ended : ∀ status, result.finish = .ok status → ∃ child, s.child = some child ∧
    child.status = some status ∧
      ∀ stream, child.unread stream = [] ∧ child.isClosed stream = true
  failed : ∀ failure, result.finish = .error failure → s.Killed ∧ s.Explained failure

/-- A run is on its way, has ended as one over a process does, or was dropped. -/
inductive Follows (s : ProcessRun) : Prop where
  | tracks (lines : List (ProcessStream × Text)) (tracks : s.Tracks lines)
      (running : ∀ outcome, s.position ≠ .ended outcome)
  | ended (result : ProcessResult) (position : s.position = .ended (processOutcome s.spec result))
      (delivered : Delivered s.sink result.lines s.reported) (shows' : s.Shows result)
  | dropped (position : s.position = .dropped)

/-! ### Processes that are killed -/

/-- What becomes of a process when its pipes are left alone. -/
structure SameOutput (process process' : Option ChildProcess) : Prop where
  child : ∀ child', process' = some child' →
    ∃ child, process = some child ∧ ChildProcess.SamePipes child child'
  nothing : process' = none → process = none

theorem sameOutput_killGroup (s : ProcessRun) : SameOutput s.child s.killGroup.child where
  child child' found := by
    simp only [killGroup] at found
    split at found
    · obtain ⟨child, present, rfl⟩ := Option.map_eq_some_iff.mp found
      exact ⟨child, present, ChildProcess.samePipes_killGroup⟩
    · exact ⟨child', found, rfl, rfl, fun _ closed => closed⟩
  nothing absent := by
    simp only [killGroup] at absent
    split at absent
    · exact Option.map_eq_none_iff.mp absent
    · exact absent

theorem sameOutput_release (s : ProcessRun) : SameOutput s.child s.release.child where
  child child' found := by
    obtain ⟨killed, present, rfl⟩ := Option.map_eq_some_iff.mp found
    obtain ⟨child, present, same⟩ := (sameOutput_killGroup s).child killed present
    exact ⟨child, present, same.trans ChildProcess.samePipes_kill⟩
  nothing absent := (sameOutput_killGroup s).nothing (Option.map_eq_none_iff.mp absent)

theorem SameOutput.read {process process' : Option ChildProcess}
    {lines : List (ProcessStream × Text)} (same : SameOutput process process')
    (read : Read process lines) : Read process' lines where
  printed child' found stream := by
    obtain ⟨child, present, pipes⟩ := same.child child' found
    rw [pipes.unread, pipes.printed]
    exact read.printed child present stream
  nothing absent := read.nothing (same.nothing absent)

theorem SameOutput.done {process process' : Option ChildProcess} {isDone : ProcessStream → Bool}
    (same : SameOutput process process') (done : Done process isDone) : Done process' isDone := by
  intro child' found stream isDone
  obtain ⟨child, present, pipes⟩ := same.child child' found
  obtain ⟨empty, closed⟩ := done child present stream isDone
  exact ⟨by rw [pipes.unread, empty], pipes.isClosed stream closed⟩

/-! ### One step of a run -/

/-- Without a line in hand, what was reported passes on the lines captured. -/
theorem Reported.delivered {lines : List (ProcessStream × Text)} (reported : s.Reported lines)
    (free : s.inHand = []) : Delivered s.sink lines s.reported := by
  unfold Reported at reported
  split at reported
  · rename_i position
    simp [inHand, position] at free
  · exact reported

/-- A run that fails ends as one over a process that fails so. -/
theorem Tracks.failWith {lines : List (ProcessStream × Text)} {failure : ProcessFailure}
    (tracks : s.Tracks lines) (free : s.inHand = []) (guarded : s.isArmed = true ∨ s.Killed)
    (explained : (s.failWith failure).Explained failure) : (s.failWith failure).Follows := by
  have read := tracks.read
  rw [free, List.append_nil] at read
  refine .ended ⟨lines, .error failure⟩ rfl (tracks.reported.delivered free) ?_
  constructor
  · exact (sameOutput_release s).read read
  · nofun
  · intro other same
    cases same
    exact ⟨killed_release guarded, explained⟩

/-- A process that is ended at a select is waited for. -/
theorem Tracks.reap {lines : List (ProcessStream × Text)} {failure : ProcessFailure}
    (tracks : s.Tracks lines) (free : s.inHand = [])
    (explained : (s.reap failure).Explained failure) : (s.reap failure).Follows := by
  have read := tracks.read
  rw [free, List.append_nil] at read
  refine .tracks lines ?_ nofun
  constructor
  · exact tracks.captured
  · rw [show (s.reap failure).inHand = [] from rfl, List.append_nil]
    exact (sameOutput_killGroup s).read read
  · exact tracks.reported.delivered free
  · exact (sameOutput_killGroup s).done tracks.done
  · nofun
  · nofun
  · rintro _ same
    cases same
    exact explained

/-- The group goes on by itself. -/
theorem read_of_child {lines : List (ProcessStream × Text)} {child child' : ChildProcess}
    {action : ChildAction} (read : Read (some child) lines)
    (stepped : child.step action = some child') : Read (some child') lines where
  printed other found stream := by
    obtain rfl : child' = other := Option.some.inj found
    obtain ⟨more, printed, unread, _⟩ := child.step_adds stream stepped
    rw [unread, printed, ← List.append_assoc, read.printed child rfl stream]
  nothing absent := by cases absent

theorem drained_of_child {child child' : ChildProcess} {action : ChildAction}
    {stream : ProcessStream} (stepped : child.step action = some child')
    (drained : child.unread stream = [] ∧ child.isClosed stream = true) :
    child'.unread stream = [] ∧ child'.isClosed stream = true := by
  obtain ⟨more, _, unread, closes⟩ := child.step_adds stream stepped
  obtain ⟨rfl, closed⟩ := closes drained.2
  exact ⟨by rw [unread, drained.1, List.append_nil], closed⟩

theorem Tracks.child {lines : List (ProcessStream × Text)} {child child' : ChildProcess}
    {action : ChildAction} (tracks : s.Tracks lines) (started : s.child = some child)
    (stepped : child.step action = some child') :
    Tracks { s with child := some child' } lines where
  captured := tracks.captured
  read := read_of_child (started ▸ tracks.read) stepped
  reported := tracks.reported
  done other found stream isDone := by
    obtain rfl : child' = other := Option.some.inj found
    exact drained_of_child stepped (tracks.done child started stream isDone)
  spawning position := nomatch started.symm.trans (tracks.spawning position).1
  exiting := tracks.exiting
  reaping failure position := by
    have explained := tracks.reaping failure position
    cases failure with
    | notStarted text => exact nomatch explained.symm.trans started
    | _ => exact explained

/-- A line is read. -/
theorem Tracks.line {lines : List (ProcessStream × Text)} {child : ChildProcess}
    {stream : ProcessStream} {line : Text} {unread : List Text} (tracks : s.Tracks lines)
    (position : s.position = .reading) (started : s.child = some child)
    (found : child.unread stream = line :: unread) :
    Tracks { s with
      child := some { child with unread := Function.update child.unread stream unread }
      position := .passing (stream, line) (s.sink.line (stream, line)).run } lines := by
  have free : s.inHand = [] := by simp [inHand, position]
  have read := tracks.read
  rw [free, List.append_nil] at read
  constructor
  · exact tracks.captured
  · refine ⟨fun other same asked => ?_, nofun⟩
    obtain rfl := Option.some.inj same
    have before := read.printed child started asked
    show linesOf (lines ++ [(stream, line)]) asked ++ Function.update child.unread stream unread asked =
      child.printed asked
    by_cases own : asked = stream
    · subst own
      rw [linesOf_concat_self lines (asked, line), Function.update_self, ← before, found]
      simp
    · rw [linesOf_concat_of_ne own, Function.update_of_ne own, before]
  · exact ⟨s.reported, tracks.reported.delivered free, passing_line s.sink _ s.reported⟩
  · rintro other same asked isDone
    obtain rfl := Option.some.inj same
    obtain ⟨empty, closed⟩ := tracks.done child started asked isDone
    have other : asked ≠ stream := by
      rintro rfl
      exact nomatch empty.symm.trans found
    exact ⟨(Function.update_of_ne other ..).trans empty, closed⟩
  · nofun
  · nofun
  · nofun

/-- A line that has been passed on is captured. -/
theorem Tracks.passed {lines : List (ProcessStream × Text)} {line : ProcessStream × Text}
    (tracks : s.Tracks lines) (position : s.position = .passing line (.ret (.ok ()))) :
    (s.capture line).Tracks (lines ++ [line]) := by
  have read := tracks.read
  rw [show s.inHand = [line] by simp [inHand, position]] at read
  have reported := tracks.reported
  simp only [Reported, position] at reported
  obtain ⟨before, delivered, passing⟩ := reported
  constructor
  · intro stream
    show Function.update s.captured line.1 (appendBounded (s.captured line.1) line.2) stream = _
    by_cases own : stream = line.1
    · subst own
      rw [Function.update_self, linesOf_concat_self, SakalaAgent.captured, List.foldl_append,
        tracks.captured]
      rfl
    · rw [Function.update_of_ne own, linesOf_concat_of_ne own, tracks.captured]
  · rw [show (s.capture line).inHand = [] from rfl, List.append_nil]
    exact ⟨read.printed, read.nothing⟩
  · exact passing.delivered delivered
  · exact tracks.done
  · intro reached
    cases reached
  · intro reached
    cases reached
  · intro failure reached
    cases reached

/-- The end of a stream. -/
theorem Tracks.streamDone {lines : List (ProcessStream × Text)} {child : ChildProcess}
    {stream : ProcessStream} (tracks : s.Tracks lines) (position : s.position = .reading)
    (started : s.child = some child) (empty : child.unread stream = [])
    (closed : child.isClosed stream = true) :
    Tracks { s with isDone := Function.update s.isDone stream true } lines where
  captured := tracks.captured
  read := tracks.read
  reported := tracks.reported
  done := by
    rintro other found asked isDone
    obtain rfl : child = other := Option.some.inj (started.symm.trans found)
    by_cases own : asked = stream
    · subst own
      exact ⟨empty, closed⟩
    · exact tracks.done child started asked ((Function.update_of_ne own ..).symm.trans isDone)
  spawning reached := nomatch position.symm.trans reached
  exiting reached := nomatch position.symm.trans reached
  reaping := tracks.reaping

/-- The process is left alone, or killed. -/
theorem Tracks.sameOutput {lines : List (ProcessStream × Text)} {process : Option ChildProcess}
    (tracks : s.Tracks lines) (same : SameOutput s.child process) :
    Tracks { s with child := process } lines where
  captured := tracks.captured
  read := same.read tracks.read
  reported := tracks.reported
  done := same.done tracks.done
  spawning position := by
    obtain ⟨absent, notDone⟩ := tracks.spawning position
    cases process with
    | none => exact ⟨rfl, notDone⟩
    | some child =>
        obtain ⟨before, present, _⟩ := same.child child rfl
        exact nomatch present.symm.trans absent
  exiting := tracks.exiting
  reaping failure position := by
    have explained := tracks.reaping failure position
    cases failure with
    | notStarted text =>
        cases process with
        | none => rfl
        | some child =>
            obtain ⟨before, present, _⟩ := same.child child rfl
            exact nomatch present.symm.trans explained
    | _ => exact explained

theorem sameOutput_kill (process : Option ChildProcess) :
    SameOutput process (process.map ChildProcess.kill) where
  child child' found := by
    obtain ⟨child, present, rfl⟩ := Option.map_eq_some_iff.mp found
    exact ⟨child, present, ChildProcess.samePipes_kill⟩
  nothing absent := Option.map_eq_none_iff.mp absent

/-- The process has ended, and all of its lines are captured. -/
theorem Tracks.exited {lines : List (ProcessStream × Text)} {child : ChildProcess}
    {status : Option Int} (tracks : s.Tracks lines) (position : s.position = .exiting)
    (started : s.child = some child) (ended : child.status = some status) :
    ({ s with isArmed := false }.endWith (.ok (s.output status))).Follows := by
  have free : s.inHand = [] := by simp [inHand, position]
  have read := tracks.read
  rw [free, List.append_nil] at read
  have same : SameOutput s.child (s.child.map ChildProcess.kill) := sameOutput_kill s.child
  have outcome : Except.ok (s.output status) = processOutcome s.spec ⟨lines, .ok status⟩ := by
    have success : (ProcessResult.mk lines (.ok status)).success = decide (status = some 0) := by
      cases status with
      | none => rfl
      | some code => simp [ProcessResult.success]
    rw [processOutcome, success, output, tracks.captured, tracks.captured]
    rfl
  refine .ended ⟨lines, .ok status⟩ (congrArg RunnerPosition.ended outcome)
    (tracks.reported.delivered free) ?_
  constructor
  · exact same.read read
  · rintro _ same
    cases same
    have kept : child.kill.status = some status := by simp [ChildProcess.kill, ended]
    refine ⟨child.kill, by simp [endWith, release, killGroup, started], kept, fun stream => ?_⟩
    obtain ⟨empty, closed⟩ := tracks.done child started stream (tracks.exiting position stream)
    have pipes : ChildProcess.SamePipes child child.kill := ChildProcess.samePipes_kill
    exact ⟨by rw [pipes.unread, empty], pipes.isClosed stream closed⟩
  · intro failure failed
    cases failed

theorem inHand_of_isSelecting (selecting : s.isSelecting = true) : s.inHand = [] := by
  unfold isSelecting at selecting
  unfold inHand
  cases position : s.position with
  | passing => simp [position] at selecting
  | _ => rfl

theorem Tracks.moves {lines : List (ProcessStream × Text)} (tracks : s.Tracks lines)
    (running : ∀ outcome, s.position ≠ .ended outcome) (guarded : s.Guarded)
    (moves : s.Moves s') : s'.Follows := by
  have free : ∀ position, s.position = position → (∀ line rest, position ≠ .passing line rest) →
      s.inHand = [] := by
    rintro _ rfl resting
    unfold inHand
    split
    · rename_i position
      exact absurd position (resting _ _)
    · rfl
  have armed : s.isArmed = true ∨ s.Killed := guarded.armed fun output => running _
  cases moves with
  | child started stepped => exact .tracks lines (tracks.child started stepped) running
  | expire started =>
      refine .tracks lines ⟨tracks.captured, tracks.read, tracks.reported, tracks.done,
        tracks.spawning, tracks.exiting, fun failure position => ?_⟩ running
      have explained := tracks.reaping failure position
      cases failure with
      | timedOut seconds => exact ⟨rfl, explained.2⟩
      | _ => exact explained
  | cancel =>
      refine .tracks lines ⟨tracks.captured, tracks.read, tracks.reported, tracks.done,
        tracks.spawning, tracks.exiting, fun failure position => ?_⟩ running
      have explained := tracks.reaping failure position
      cases failure with
      | cancelled => exact ⟨explained.1, rfl⟩
      | _ => exact explained
  | spawned position =>
      obtain ⟨absent, notDone⟩ := tracks.spawning position
      have empty := tracks.read.nothing absent
      obtain rfl : lines = [] := (List.append_eq_nil_iff.mp empty).1
      refine .tracks [] ⟨tracks.captured, ⟨?_, nofun⟩, ?_, ?_, nofun, nofun, nofun⟩ nofun
      · rintro child same stream
        obtain rfl := Option.some.inj same
        rfl
      · exact tracks.reported.delivered (free _ position nofun)
      · rintro child same stream isDone
        exact nomatch (notDone stream).symm.trans isDone
  | notSpawned text position =>
      apply tracks.failWith (free _ position nofun) armed
      have absent := (tracks.spawning position).1
      simp [Explained, ProcessRun.failWith, endWith, release, killGroup, absent]
  | line position started found => exact .tracks lines (tracks.line position started found) nofun
  | done position started empty closed =>
      exact .tracks lines (tracks.streamDone position started empty closed) running
  | unreadable error position => exact tracks.failWith (free _ position nofun) armed trivial
  | logged outcome position =>
      have read := tracks.read
      have reported := tracks.reported
      simp only [inHand, position] at read
      simp only [Reported, position] at reported
      obtain ⟨before, delivered, passing⟩ := reported
      refine .tracks lines ⟨tracks.captured, read, ?_, tracks.done, nofun, nofun, nofun⟩ nofun
      exact ⟨before, delivered, passing.logged outcome⟩
  | passed position => exact .tracks _ (tracks.passed position) nofun
  | refused position =>
      have reported := tracks.reported
      simp only [Reported, position] at reported
      obtain ⟨_, _, passing⟩ := reported
      exact nomatch passing.forwards
  | closed position done =>
      have read := tracks.read
      rw [free _ position nofun] at read
      refine .tracks lines ⟨tracks.captured, read, ?_, tracks.done, nofun, ?_, nofun⟩ nofun
      · exact tracks.reported.delivered (free _ position nofun)
      · exact fun _ => done
  | exited position started ended => exact tracks.exited position started ended
  | cancelled selecting cancellable isCancelled =>
      exact tracks.reap (inHand_of_isSelecting selecting) ⟨cancellable, isCancelled⟩
  | timedOut timed selecting isDue =>
      exact tracks.reap (inHand_of_isSelecting selecting) ⟨isDue, _, timed, rfl⟩
  | @reaped failure position =>
      have killed : s.Killed := guarded.left (by simp [isLeft, position])
      have explained := tracks.reaping failure position
      apply (tracks.sameOutput (sameOutput_kill s.child)).failWith (free _ position nofun)
      · right
        intro child found
        obtain ⟨before, present, rfl⟩ := Option.map_eq_some_iff.mp found
        exact ChildProcess.runs_kill (killed before present)
      · cases failure with
        | notStarted text =>
            have absent : s.child = none := explained
            simp [Explained, ProcessRun.failWith, endWith, release, killGroup, absent]
        | _ => exact explained
  | dropped => exact .dropped rfl

/-- A run that has ended stays as it has ended, whatever becomes of the group. -/
theorem Shows.child {result : ProcessResult} {child child' : ChildProcess} {action : ChildAction}
    (shows' : s.Shows result) (started : s.child = some child)
    (stepped : child.step action = some child') :
    Shows { s with child := some child' } result where
  read := read_of_child (started ▸ shows'.read) stepped
  ended status finish := by
    obtain ⟨before, present, ended, drained⟩ := shows'.ended status finish
    obtain rfl : child = before := Option.some.inj (started.symm.trans present)
    exact ⟨child', rfl, ChildProcess.status_step stepped ended,
      fun stream => drained_of_child stepped (drained stream)⟩
  failed failure finish := absurd stepped ((shows'.failed failure finish).1.not_moves started)

theorem Follows.step (follows : s.Follows) (guarded : s.Guarded) (moves : s.Moves s') :
    s'.Follows := by
  cases follows with
  | tracks lines tracks running => exact tracks.moves running guarded moves
  | ended result position delivered shows' =>
      have apart : ∀ place, s.position = place → (∀ outcome, place ≠ .ended outcome) → s'.Follows :=
        fun place same running => absurd (same.symm.trans position) (running _)
      cases moves with
      | child started stepped =>
          exact .ended result position delivered (shows'.child started stepped)
      | expire =>
          refine .ended result position delivered ⟨shows'.read, shows'.ended, fun failure finish => ?_⟩
          obtain ⟨killed, explained⟩ := shows'.failed failure finish
          cases failure with
          | timedOut seconds => exact ⟨killed, rfl, explained.2⟩
          | _ => exact ⟨killed, explained⟩
      | cancel =>
          refine .ended result position delivered ⟨shows'.read, shows'.ended, fun failure finish => ?_⟩
          obtain ⟨killed, explained⟩ := shows'.failed failure finish
          cases failure with
          | cancelled => exact ⟨killed, explained.1, rfl⟩
          | _ => exact ⟨killed, explained⟩
      | cancelled selecting | timedOut timed selecting => simp [isSelecting, position] at selecting
      | dropped running => exact absurd position (running _)
      | spawned reached | notSpawned text reached | line reached | done reached
        | unreadable error reached | logged outcome reached | passed reached | refused reached
        | closed reached | exited reached | reaped reached => exact apart _ reached nofun
  | dropped position =>
      have apart : ∀ place, s.position = place → place ≠ .dropped → s'.Follows :=
        fun place same other => absurd (same.symm.trans position) other
      cases moves with
      | child | expire | cancel => exact .dropped position
      | cancelled selecting | timedOut timed selecting => simp [isSelecting, position] at selecting
      | dropped => exact .dropped rfl
      | spawned reached | notSpawned text reached | line reached | done reached
        | unreadable error reached | logged outcome reached | passed reached | refused reached
        | closed reached | exited reached | reaped reached => exact apart _ reached nofun

/-- Whose call it is stays as it is. -/
structure SameCall (s s' : ProcessRun) : Prop where
  spec : s'.spec = s.spec
  sink : s'.sink = s.sink
  timeout : s'.timeout = s.timeout

theorem sameCall_of_moves (moves : s.Moves s') : SameCall s s' := by
  cases moves <;> exact ⟨rfl, rfl, rfl⟩

/-! ### Runs -/

section Runs

variable {runner : TokioProcessRunner} {asked : ProcessTimeout} {spec : CommandSpec}
  {sink : OutputSink} {actions : List ProcessRunAction}

theorem sameCall_of_run (run : exec step (start runner asked spec sink) actions = some s) :
    SameCall (start runner asked spec sink) s := by
  apply exec_invariant (SameCall (start runner asked spec sink)) _ ⟨rfl, rfl, rfl⟩ run
  intro before action after same stepped
  obtain ⟨spec, sink, timeout⟩ := sameCall_of_moves (moves_of_step stepped)
  exact ⟨spec.trans same.spec, sink.trans same.sink, timeout.trans same.timeout⟩

theorem follows_start : (start runner asked spec sink).Follows := by
  refine .tracks [] ⟨fun _ => rfl, ⟨nofun, fun _ => rfl⟩, fun h => ?_, nofun,
    fun _ => ⟨rfl, fun _ => rfl⟩, nofun, nofun⟩ nofun
  show Exec anyAnswer (forM [] sink.line : RuntimeM Unit).run () h (.ok ()) () (h ++ [])
  rw [List.append_nil]
  exact .ret _ _ _

theorem follows_of_run (run : exec step (start runner asked spec sink) actions = some s) :
    s.Follows := by
  have both : s.Guarded ∧ s.Follows := by
    apply exec_invariant (fun s => s.Guarded ∧ s.Follows) _ ⟨guarded_start .., follows_start⟩ run
    rintro before action after ⟨guarded, follows⟩ stepped
    have moves := moves_of_step stepped
    exact ⟨guarded.step moves, follows.step guarded moves⟩
  exact both.2

/-- A run that returns is a run of the future over one process that is answered with a result: the sink
was asked for the same and answered the same, the outcome is the same, and the result shows what the
process has printed and how it has ended. -/
theorem run_refines_process {outcome : Except RuntimeError ProcessOutput}
    (run : exec step (start runner asked spec sink) actions = some s)
    (ended : s.position = .ended outcome) :
    SameCall (start runner asked spec sink) s ∧ ∃ result : ProcessResult, s.Shows result ∧
      ∀ h, Exec anyAnswer (runProcess spec sink).run () h outcome ()
        (h ++ .done (.process spec) result :: s.reported) := by
  have same := sameCall_of_run run
  refine ⟨same, ?_⟩
  cases follows_of_run run with
  | tracks lines tracks running => exact absurd ended (running outcome)
  | dropped position => exact nomatch position.symm.trans ended
  | ended result position delivered shows' =>
      obtain rfl : processOutcome s.spec result = outcome := by
        cases position.symm.trans ended
        rfl
      refine ⟨result, shows', fun h => ?_⟩
      rw [same.sink] at delivered
      rw [same.spec]
      exact exec_runProcess delivered h

/-! ### A run that prints one line -/

namespace Sample

def freeSpace : CommandSpec where
  line := .df []

def first : ProcessRun :=
  start {} {} freeSpace (.reporter "disk")

/-- The process prints a line, which the reporter refuses, and ends. -/
def oneLine : List ProcessRunAction :=
  [.spawn (.ok ()), .child (.print .stdout "one line".toList), .nextLine .stdout,
    .logged (.error (.reporting "refused")), .passed, .child (.exit (some 0)), .nextLine .stdout,
    .nextLine .stderr, .closed, .exited]

def isOk (s : ProcessRun) : Bool :=
  match s.position with
  | .ended (.ok output) => output.success && output.stdout = "one line\n".toList
  | _ => false

/-- The line is captured, although its delivery failed. -/
theorem ends_ok : ∃ s output, exec step first oneLine = some s ∧ s.position = .ended (.ok output) ∧
    output.stdout = "one line\n".toList := by
  have played : (exec step first oneLine).any isOk = true := by decide +kernel
  obtain ⟨s, run, ok⟩ := (Option.any_eq_true ..).mp played
  unfold isOk at ok
  split at ok
  · rename_i output position
    obtain ⟨_, stdout⟩ := (Bool.and_eq_true_iff ..).mp ok
    exact ⟨s, output, run, position, of_decide_eq_true stdout⟩
  · cases ok

/-- The process is silent, and its deadline passes. -/
def late : ProcessRun :=
  { first with child := some {}, isArmed := true, position := .reading, isDue := true }

theorem late_reached : exec step first [.spawn (.ok ()), .expire] = some late := rfl

end Sample

/-- The run above is one of the future over `df` that is answered with its line. -/
theorem run_refines_process_line : ∃ s output, s.position = .ended (.ok output) ∧
    output.stdout = "one line\n".toList ∧ SameCall Sample.first s ∧
      ∃ result : ProcessResult, s.Shows result ∧
        ∀ h, Exec anyAnswer (runProcess Sample.freeSpace (.reporter "disk")).run () h (.ok output) ()
          (h ++ .done (.process Sample.freeSpace) result :: s.reported) := by
  obtain ⟨s, output, run, position, stdout⟩ := Sample.ends_ok
  exact ⟨s, output, position, stdout, run_refines_process run position⟩

/-! ### The end of a run -/

/-- The run goes on by itself: the process does nothing, and the reporter answers. -/
def isOwn : ProcessRunAction → Bool
  | .logged _ | .passed | .closed | .cancelled | .timedOut | .reaped => true
  | _ => false

/-- The deadline of the run has passed, or its request is cancelled. -/
def IsOver (s : ProcessRun) : Prop :=
  (s.isDue = true ∧ s.timeout.isSome = true) ∨ (s.spec.cancellable = true ∧ s.isCancelled = true)

/-- A way to the end of the run without its process. -/
def CanStop (s : ProcessRun) : Prop :=
  ∃ own s' error, (∀ action ∈ own, isOwn action = true) ∧ exec step s own = some s' ∧
    s'.position = .ended (.error error)

theorem CanStop.cons (own : isOwn action = true) (stepped : s.step action = some s')
    (stops : s'.CanStop) : s.CanStop := by
  obtain ⟨rest, last, error, allOwn, run, ended⟩ := stops
  refine ⟨action :: rest, last, error, List.forall_mem_cons.mpr ⟨own, allOwn⟩, ?_, ended⟩
  exact exec_cons_eq_some.mpr ⟨s', stepped, run⟩

theorem canStop_of_reaping {failure : ProcessFailure} (position : s.position = .reaping failure) :
    s.CanStop := by
  have stepped : s.step .reaped =
      some ({ s with child := s.child.map ChildProcess.kill }.failWith failure) := by
    simp only [step, runnerStep, position]
  exact ⟨[.reaped], _, _, by simp [isOwn], exec_cons_eq_some.mpr ⟨_, stepped, rfl⟩, rfl⟩

theorem canStop_of_isSelecting (isOver : s.IsOver) (selecting : s.isSelecting = true) :
    s.CanStop := by
  rcases isOver with ⟨isDue, timed⟩ | ⟨cancellable, isCancelled⟩
  · obtain ⟨timeout, timed⟩ := Option.isSome_iff_exists.mp timed
    have stepped : s.step .timedOut = some (s.reap (.timedOut (timeout / 1000))) := by
      simp [step, runnerStep, timed, selecting, isDue]
    exact .cons rfl stepped (canStop_of_reaping rfl)
  · have stepped : s.step .cancelled = some (s.reap .cancelled) := by
      simp [step, runnerStep, selecting, cancellable, isCancelled]
    exact .cons rfl stepped (canStop_of_reaping rfl)

theorem canStop_of_reading (isOver : s.IsOver) (position : s.position = .reading) : s.CanStop := by
  by_cases selecting : s.isSelecting = true
  · exact canStop_of_isSelecting isOver selecting
  · have done : (s.isDone .stdout && s.isDone .stderr) = true := by
      simpa [isSelecting, position] using selecting
    have stepped : s.step .closed = some { s with position := .exiting } := by
      simp only [step, runnerStep, position, done, if_true]
    exact .cons rfl stepped (canStop_of_isSelecting isOver rfl)

/-- A line is passed on whatever the reporter answers. -/
theorem canStop_of_passing {line : ProcessStream × Text}
    (rest : Prog Runtime (Except RuntimeError Unit)) (forwards : Forwards rest) :
    ∀ s : ProcessRun, s.IsOver → s.position = .passing line rest → s.CanStop := by
  induction rest with
  | ret outcome =>
      intro s isOver position
      obtain rfl : outcome = .ok () := forwards
      have stepped : s.step .passed = some (s.capture line) := by
        simp only [step, runnerStep, position]
      exact .cons rfl stepped (canStop_of_reading isOver rfl)
  | call op next ih =>
      intro s isOver position
      cases op with
      | log log =>
          let answer : Except RuntimeExecutionError Unit := .ok ()
          have stepped : s.step (.logged answer) = some { s with
              reported := s.reported ++ [.done (.log log) answer]
              position := .passing line (next answer) } := by
            simp only [step, runnerStep, position]
          exact .cons rfl stepped (ih answer (forwards answer) _ isOver rfl)
      | _ => exact forwards.elim
  | abandon | alarm => exact forwards.elim

/-- A started run that has neither ended nor been dropped can end without its process when it is over. -/
theorem Follows.canStop (follows : s.Follows) (isOver : s.IsOver) (started : s.child.isSome = true)
    (running : (∀ outcome, s.position ≠ .ended outcome) ∧ s.position ≠ .dropped) : s.CanStop := by
  cases follows with
  | ended result position => exact absurd position (running.1 _)
  | dropped position => exact absurd position running.2
  | tracks lines tracks =>
      cases position : s.position with
      | spawning =>
          rw [(tracks.spawning position).1] at started
          cases started
      | reading => exact canStop_of_reading isOver position
      | passing line rest =>
          have reported := tracks.reported
          simp only [Reported, position] at reported
          obtain ⟨_, _, passing⟩ := reported
          exact canStop_of_passing rest passing.forwards s isOver position
      | exiting => exact canStop_of_isSelecting isOver (by simp [isSelecting, position])
      | reaping failure => exact canStop_of_reaping position
      | ended outcome => exact absurd position (running.1 outcome)
      | dropped => exact absurd position running.2

/-- A process does not outlive a runner that fails or is dropped, wherever that is; and once the deadline
has passed or the request is cancelled, the runner can end it without its help. -/
theorem killed_with_runner
    (run : exec step (start runner asked spec sink) actions = some s) :
    (s.isLeft = true → s.Killed) ∧
      (s.IsOver → s.child.isSome = true → (∀ outcome, s.position ≠ .ended outcome) →
        s.position ≠ .dropped → ∃ own s' error, (∀ action ∈ own, isOwn action = true) ∧
          exec step s own = some s' ∧ s'.position = .ended (.error error) ∧ s'.Killed) := by
  have guarded := guarded_of_run run
  refine ⟨guarded.left, fun isOver started running present => ?_⟩
  obtain ⟨own, s', error, allOwn, stops, ended⟩ :=
    (follows_of_run run).canStop isOver started ⟨running, present⟩
  refine ⟨own, s', error, allOwn, stops, ended, ?_⟩
  have guarded' : s'.Guarded :=
    exec_invariant Guarded (fun _ _ _ guarded stepped => guarded.step (moves_of_step stepped))
      guarded stops
  exact guarded'.left (by simp [isLeft, ended])

/-- A silent process is ended behind its deadline. -/
theorem killed_with_runner_late : ∃ own s' error, (∀ action ∈ own, isOwn action = true) ∧
    exec step Sample.late own = some s' ∧ s'.position = .ended (.error error) ∧ s'.Killed :=
  (killed_with_runner Sample.late_reached).2 (.inl ⟨rfl, rfl⟩) rfl nofun nofun

end Runs

end ProcessRun

end SakalaAgent
