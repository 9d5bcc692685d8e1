/-
Module: SakalaAgent.Proofs.NodeLifecycle
Layer: Proofs
Purpose: What a `DrainNode` or a `ResumeNode` leaves of the lifecycle state. The state is set before
  the event that announces it is reported, so a command that fails has changed nothing, or it has
  failed with the report of that event and the node is in the state it was meant to reach.
Trusted boundary: none
Main exports: CommandDispatcher.lifecycleAfter, CommandDispatcher.lifecycle_commands
-/
import SakalaAgent.Proofs.DrainedQuiet

namespace SakalaAgent

open Async

namespace CommandDispatcher

variable {R : Interface} {dispatcher : CommandDispatcher R} {command : AgentCommand}
  {prior target : NodeLifecycleState} {h first second : History (Processing R)}

/-! ### The state behind a run -/

/-- The lifecycle state behind one entry of a history. -/
def setBy (state : NodeLifecycleState) : Event (Processing R) → NodeLifecycleState
  | .done (.setLifecycle next) _ => next
  | _ => state

/-- The lifecycle state behind what a command has done, when no other command sets it. -/
def lifecycleAfter (prior : NodeLifecycleState) (h : History (Processing R)) : NodeLifecycleState :=
  h.foldl setBy prior

theorem lifecycleAfter_append :
    lifecycleAfter prior (first ++ second) = lifecycleAfter (lifecycleAfter prior first) second :=
  List.foldl_append ..

theorem setBy_of_silent {event : Event (Processing R)}
    (silent : ∀ op, event.asked = some op → op.Silent) : setBy prior event = prior := by
  cases event with
  | abandoned op outcome => rfl
  | fired which op => rfl
  | done op res =>
      have quiet := silent op rfl
      cases op with
      | setLifecycle state => exact absurd rfl (quiet state)
      | _ => rfl

/-- What leaves the lifecycle state alone has changed nothing. -/
theorem lifecycleAfter_of_silent (silent : Prog.Asked ProcessingOp.Silent h) :
    lifecycleAfter prior h = prior := by
  induction h with
  | nil => rfl
  | cons event rest ih =>
      obtain ⟨quiet, later⟩ := Prog.asked_cons.mp silent
      rw [lifecycleAfter, List.foldl_cons, setBy_of_silent quiet]
      exact ih later

theorem lifecycleAfter_runtime {α : Type} {future : RuntimeFuture R α}
    {outcome : Except RuntimeExecutionError α} (run : future.run.run.Finishes h outcome) :
    lifecycleAfter prior h = prior :=
  lifecycleAfter_of_silent
    ((run.asked future.confined).mono fun _ => ProcessingOp.OfRuntime.silent)

/-! ### The announcement -/

/-- The run ends with the report of an event of the given type, which has failed. -/
def AnnouncementFails (dispatcher : CommandDispatcher R) (command : AgentCommand)
    (announcement : String) (h : History (Processing R)) (error : RuntimeExecutionError) : Prop :=
  ∃ before report event, h = before ++ report ∧ event.eventType = announcement ∧
    (dispatcher.reportEvent command.id event).run.Finishes report (.error error)

theorem AnnouncementFails.later {announcement : String} {error : RuntimeExecutionError}
    (fails : dispatcher.AnnouncementFails command announcement second error) :
    dispatcher.AnnouncementFails command announcement (first ++ second) error := by
  obtain ⟨before, report, event, rfl, rest⟩ := fails
  exact ⟨first ++ before, report, event, (List.append_assoc ..).symm, rest⟩

/-- The state is set, its announcement is reported, and then there is the output. -/
def settle (dispatcher : CommandDispatcher R) (command : AgentCommand) (target : NodeLifecycleState)
    (event : DeploymentEvent) (output : CommandOutput) : Execution R CommandOutput := do
  Fallible.perform (I := Processing R) (.setLifecycle target)
  dispatcher.reportEvent command.id event
  return output

/-- Behind it the node is in the new state, whether the announcement was reported or not. -/
theorem settle_finishes {event : DeploymentEvent} {output : CommandOutput}
    {outcome : Except RuntimeExecutionError CommandOutput}
    (run : (dispatcher.settle command target event output).run.Finishes h outcome) :
    lifecycleAfter prior h = target ∧ ∀ error, outcome = .error error →
      dispatcher.AnnouncementFails command event.eventType h error := by
  cases run with
  | @call _ _ _ rest _ run =>
      have silent : Fallible.AllOps ProcessingOp.Silent
          (dispatcher.reportEvent command.id event) :=
        reportEvent_allOps dispatcher command (fun _ => ProcessingOp.OfRuntime.silent) event
      have set : lifecycleAfter prior (Event.done (.setLifecycle target) () :: rest) =
          lifecycleAfter target rest := rfl
      have reported : (dispatcher.reportEvent command.id event >>= fun _ =>
          (pure output : Execution R CommandOutput)).run.Finishes rest outcome := run
      constructor
      · have ops := Fallible.allOps_bind silent fun _ => Fallible.allOps_pure output
        exact set.trans (lifecycleAfter_of_silent (reported.asked ops))
      · rintro error rfl
        rcases Fallible.finishes_bind reported with ⟨_, failed, same⟩ | ⟨_, _, _, _, _, ended⟩
        · cases same
          exact ⟨[_], rest, event, rfl, rfl, failed⟩
        · cases ended

/-! ### The two commands -/

/-- The state that a command sets, and the event it announces it with. -/
def lifecycleChange : CommandType → Option (NodeLifecycleState × String)
  | .drainNode => some (.draining, "node.drain.started")
  | .resumeNode => some (.active, "node.resume.completed")
  | _ => none

/-- What is known of the node when the command has come to its outcome. -/
structure Settled (dispatcher : CommandDispatcher R) (command : AgentCommand)
    (prior target : NodeLifecycleState) (announcement : String) (h : History (Processing R))
    (outcome : Except RuntimeExecutionError CommandOutput) : Prop where
  reached : ∀ output, outcome = .ok output → lifecycleAfter prior h = target
  failed : ∀ error, outcome = .error error →
    lifecycleAfter prior h = prior ∨
      (lifecycleAfter prior h = target ∧ dispatcher.AnnouncementFails command announcement h error)

/-- What was done before the state was set has not changed it. -/
theorem settled_of_settle {event : DeploymentEvent} {output : CommandOutput}
    {outcome : Except RuntimeExecutionError CommandOutput}
    (run : (dispatcher.settle command target event output).run.Finishes second outcome) :
    dispatcher.Settled command prior target event.eventType (first ++ second) outcome := by
  obtain ⟨state, failing⟩ : lifecycleAfter (lifecycleAfter prior first) second = target ∧
      ∀ error, outcome = .error error →
        dispatcher.AnnouncementFails command event.eventType second error := settle_finishes run
  rw [← lifecycleAfter_append] at state
  constructor
  · exact fun _ _ => state
  · intro error isError
    exact Or.inr ⟨state, (failing error isError).later⟩

theorem settled_of_error {announcement : String} {error : RuntimeExecutionError}
    (unchanged : lifecycleAfter prior h = prior) :
    dispatcher.Settled command prior target announcement h (.error error) where
  reached := nofun
  failed := fun _ _ => Or.inl unchanged

theorem drainNode_settled {outcome : Except RuntimeExecutionError CommandOutput}
    (run : (dispatcher.drainNode command).run.Finishes h outcome) :
    dispatcher.Settled command prior .draining "node.drain.started" h outcome ∧
      lifecycleAfter prior h = .draining := by
  have settles : dispatcher.drainNode command = dispatcher.settle command .draining _ _ := rfl
  rw [settles] at run
  have settled : dispatcher.Settled command prior .draining "node.drain.started" ([] ++ h) outcome :=
    settled_of_settle run
  exact ⟨settled, (settle_finishes run).1⟩

theorem resumeNode_settled {outcome : Except RuntimeExecutionError CommandOutput}
    (run : (dispatcher.resumeNode command).run.Finishes h outcome) :
    dispatcher.Settled command prior .active "node.resume.completed" h outcome := by
  rcases Fallible.finishes_bind run with ⟨error, failed, rfl⟩ | ⟨asking, report, _, rfl, asked, run⟩
  · exact settled_of_error (lifecycleAfter_runtime failed)
  cases fatal : report.hasFatalFailure with
  | true =>
      simp only [fatal, if_true] at run
      cases run
      rw [List.append_nil]
      exact settled_of_error (lifecycleAfter_runtime asked)
  | false =>
      simp only [fatal, Bool.false_eq_true, if_false] at run
      have unchanged : lifecycleAfter prior asking = prior := lifecycleAfter_runtime asked
      rcases Fallible.finishes_bind run with
        ⟨error, failed, rfl⟩ | ⟨counting, capacity, rest, rfl, counted, run⟩
      · apply settled_of_error
        rw [lifecycleAfter_append, unchanged]
        exact lifecycleAfter_runtime failed
      · rw [← List.append_assoc]
        exact settled_of_settle run

/-- A `DrainNode` or a `ResumeNode` that succeeds leaves the node draining, or active. One that fails
has left the state as it was, or its announcement could not be reported behind the change; a
`DrainNode` never leaves the state as it was. -/
theorem lifecycle_commands (dispatcher : CommandDispatcher R) (command : AgentCommand)
    (prior target : NodeLifecycleState) (announcement : String) (h : History (Processing R))
    (outcome : Except RuntimeExecutionError CommandOutput)
    (changes : lifecycleChange command.commandType = some (target, announcement))
    (run : (dispatcher.dispatch command).run.Finishes h outcome) :
    (∀ output, outcome = .ok output → lifecycleAfter prior h = target) ∧
    (∀ error, outcome = .error error → lifecycleAfter prior h = prior ∨
      (lifecycleAfter prior h = target ∧
        dispatcher.AnnouncementFails command announcement h error)) ∧
    (command.commandType = .drainNode → lifecycleAfter prior h = .draining) := by
  cases type : command.commandType with
  | drainNode =>
      have same : dispatcher.dispatch command = dispatcher.drainNode command := by
        simp only [dispatch, type]
      rw [type] at changes
      cases changes
      rw [same] at run
      obtain ⟨settled, draining⟩ : dispatcher.Settled command prior .draining "node.drain.started" h
          outcome ∧ lifecycleAfter prior h = .draining := drainNode_settled run
      exact ⟨settled.reached, settled.failed, fun _ => draining⟩
  | resumeNode =>
      have same : dispatcher.dispatch command = dispatcher.resumeNode command := by
        simp only [dispatch, type]
      rw [type] at changes
      cases changes
      rw [same] at run
      have settled : dispatcher.Settled command prior .active "node.resume.completed" h outcome :=
        resumeNode_settled run
      refine ⟨settled.reached, settled.failed, ?_⟩
      intro drains
      cases drains
  | inspectProject | deployProject | restartProject | stopProject | sleepProject | wakeProject
  | healthCheck | refreshRoute | reconcileWorkload | cleanupRuntime =>
      rw [type] at changes
      cases changes

end CommandDispatcher

/-! A node that is to be drained, and the answer of the control plane to the announcement. -/

namespace Draining

open CommandDispatcher
open CommittedThenFailed (noRuntime answered)

def dispatcher : CommandDispatcher noRuntime :=
  CommittedThenFailed.processor.dispatcher

def command : AgentCommand :=
  { CommittedThenFailed.command with
    commandType := .drainNode
    projectId := none
    deploymentId := none }

/-- The run in which the announcement is answered with the status. -/
def history (status : Nat) : History (Processing noRuntime) :=
  [.done (.setLifecycle .draining) (),
    .done (.client (.events command.id
      [{ eventType := "node.drain.started"
         level := .info
         message := "Node stopped accepting new workload commands."
         metadata := Json.ofEntries [] }])) (answered status)]

theorem finishes_acknowledged : ∃ output,
    (dispatcher.dispatch command).run.Finishes (history 200) (.ok output) :=
  ⟨_, .call (.call (.ret _))⟩

theorem finishes_refused : ∃ error,
    (dispatcher.dispatch command).run.Finishes (history 422) (.error error) :=
  ⟨_, .call (.call (.ret _))⟩

end Draining

theorem lifecycle_commands_drained : ∃ output,
    (Draining.dispatcher.dispatch Draining.command).run.Finishes (Draining.history 200)
        (.ok output) ∧
      CommandDispatcher.lifecycleAfter .maintenance (Draining.history 200) = .draining := by
  obtain ⟨output, run⟩ := Draining.finishes_acknowledged
  have settled := CommandDispatcher.lifecycle_commands Draining.dispatcher Draining.command
    .maintenance .draining "node.drain.started" _ _ rfl run
  exact ⟨output, run, settled.1 output rfl⟩

/-- A refused announcement fails the command, and the node is draining all the same. -/
theorem drained_though_failed :
    ¬ ∀ (R : Interface) (dispatcher : CommandDispatcher R) (command : AgentCommand)
      (prior : NodeLifecycleState) (h : History (Processing R)) (error : RuntimeExecutionError),
      command.commandType = .drainNode ∨ command.commandType = .resumeNode →
      (dispatcher.dispatch command).run.Finishes h (.error error) →
      CommandDispatcher.lifecycleAfter prior h = prior := by
  intro all
  obtain ⟨error, run⟩ := Draining.finishes_refused
  have unchanged := all _ _ _ .active _ error (Or.inl rfl) run
  cases unchanged

end SakalaAgent
