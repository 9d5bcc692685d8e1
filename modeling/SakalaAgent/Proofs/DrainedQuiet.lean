/-
Module: SakalaAgent.Proofs.DrainedQuiet
Layer: Proofs
Purpose: What a drained node does. The loop sets the node drained when it has no task left, and what it
  starts from then on are commands that change the state of the node; of these only a `ResumeNode`
  behind a passed preflight and an answered capacity query sets it active again.
Trusted boundary: none
Main exports: PolledNode.Quiet, CommandDispatcher.Resumed, PolledNode.drained_quiet
-/
import SakalaAgent.Async.Warranted
import SakalaAgent.Core.Scheduler.PolledNode
import SakalaAgent.Proofs.TaskRelease
import SakalaAgent.Proofs.TerminalReport

namespace SakalaAgent

open Async

/-! ### Who sets the lifecycle state -/

/-- The operation leaves the lifecycle state alone. -/
def ProcessingOp.Silent {R : Interface} (op : ProcessingOp R) : Prop :=
  ∀ state, op ≠ .setLifecycle state

theorem ProcessingOp.OfRuntime.silent {R : Interface} {op : ProcessingOp R}
    (confined : op.OfRuntime) : op.Silent := by
  rintro state rfl
  exact confined

namespace CommandDispatcher

variable {R : Interface}

/-- A preflight without a fatal failure has been made, and behind it the capacity was asked for with
success. -/
def Resumed (dispatcher : CommandDispatcher R) (h : History (Processing R)) : Prop :=
  ∃ first second report capacity, (first ++ second).Sublist h ∧
    dispatcher.runtime.preflight.run.run.Finishes first (.ok report) ∧
    report.hasFatalFailure = false ∧
    dispatcher.runtime.capacity.run.run.Finishes second (.ok capacity)

/-- What a command does to the lifecycle state: `DrainNode` sets it draining, and `ResumeNode` sets it
active behind its two questions. -/
def Warrant (dispatcher : CommandDispatcher R) (command : AgentCommand)
    (h : History (Processing R)) (op : ProcessingOp R) : Prop :=
  ∀ state, op = .setLifecycle state →
    (command.commandType = .drainNode ∧ state = .draining) ∨
    (command.commandType = .resumeNode ∧ state = .active ∧ dispatcher.Resumed h)

variable {dispatcher : CommandDispatcher R} {command : AgentCommand} {α β ε : Type}
  {h : History (Processing R)}

theorem warrant_grows (op : ProcessingOp R) :
    Prog.Grows fun h => dispatcher.Warrant command h op := by
  intro h h' longer warrant state sets
  rcases warrant state sets with drains | ⟨resumes, active, asked⟩
  · exact .inl drains
  · obtain ⟨first, second, report, capacity, part, rest⟩ := asked
    exact .inr ⟨resumes, active, first, second, report, capacity, part.trans longer, rest⟩

theorem warrant_of_silent {op : ProcessingOp R} (silent : op.Silent) :
    dispatcher.Warrant command h op :=
  fun state sets => absurd sets (silent state)

/-- A future that leaves the lifecycle state alone; its run is a part of the history. -/
theorem warranted_of_silent {p : Prog (Processing R) α} (silent : p.AllOps ProcessingOp.Silent) :
    p.Warranted (dispatcher.Warrant command)
      (fun value h' => ∃ run, h' = h ++ run ∧ p.Finishes run value) h :=
  Prog.warranted_of_allOps silent fun _ _ => warrant_of_silent

/-- A future that leaves the lifecycle state alone, and what follows it. -/
theorem warranted_silent_bind {p : Fallible (Processing R) ε α}
    {f : α → Fallible (Processing R) ε β} (silent : Fallible.AllOps ProcessingOp.Silent p)
    (rest : ∀ value h, (f value).run.Warranted (dispatcher.Warrant command) (fun _ _ => True) h) :
    (p >>= f).run.Warranted (dispatcher.Warrant command) (fun _ _ => True) h := by
  apply Fallible.warranted_bind
  apply Prog.warranted_mono (warranted_of_silent silent)
  intro outcome h' _
  cases outcome with
  | ok value => exact rest value h'
  | error error => trivial

theorem resumeNode_warranted (resumes : command.commandType = .resumeNode) :
    (dispatcher.resumeNode command).run.Warranted (dispatcher.Warrant command)
      (fun _ _ => True) h := by
  have preflight : dispatcher.runtime.preflight.run.run.AllOps ProcessingOp.Silent :=
    Prog.AllOps.mono (fun _ => ProcessingOp.OfRuntime.silent) dispatcher.runtime.preflight.confined
  have capacity : dispatcher.runtime.capacity.run.run.AllOps ProcessingOp.Silent :=
    Prog.AllOps.mono (fun _ => ProcessingOp.OfRuntime.silent) dispatcher.runtime.capacity.confined
  apply Fallible.warranted_bind
  apply Prog.warranted_mono (warranted_of_silent preflight)
  rintro (error | report) h₁ ⟨first, rfl, passed⟩
  · trivial
  cases fatal : report.hasFatalFailure with
  | true =>
      simp only [fatal, if_true]
      trivial
  | false =>
      simp only [fatal, Bool.false_eq_true, if_false]
      apply Fallible.warranted_bind
      apply Prog.warranted_mono (warranted_of_silent capacity)
      rintro (error | answer) h₂ ⟨second, rfl, answered⟩
      · trivial
      constructor
      · rintro state ⟨⟩
        have part : (first ++ second).Sublist (h ++ first ++ second) := by
          rw [List.append_assoc]
          exact List.sublist_append_right ..
        exact .inr ⟨resumes, rfl, first, second, report, answer, part, passed, fatal, answered⟩
      · intro _
        apply warranted_silent_bind
        · exact reportEvent_allOps dispatcher command (fun _ => ProcessingOp.OfRuntime.silent) _
        · exact fun _ _ => trivial

theorem dispatch_warranted :
    (dispatcher.dispatch command).run.Warranted (dispatcher.Warrant command)
      (fun _ _ => True) h := by
  by_cases resumes : command.commandType = .resumeNode
  · have same : dispatcher.dispatch command = dispatcher.resumeNode command := by
      simp only [dispatch, resumes]
    rw [same]
    exact resumeNode_warranted resumes
  · let allowed (op : ProcessingOp R) : Prop :=
      ∀ state, op = .setLifecycle state → command.commandType = .drainNode ∧ state = .draining
    have ops : Fallible.AllOps allowed (dispatcher.dispatch command) := by
      apply dispatcher.dispatch_allOps command
      · exact fun op confined state sets => absurd sets (confined.silent state)
      · exact fun _ _ sets => nomatch sets
      · rintro drains state ⟨⟩
        exact ⟨drains, rfl⟩
      · exact fun again => absurd again resumes
    apply Prog.warranted_mono
      (Prog.warranted_of_allOps ops fun _ op allows state sets => .inl (allows state sets))
    exact fun _ _ _ => trivial

end CommandDispatcher

namespace CommandProcessor

variable {R : Interface} {processor : CommandProcessor R} {command : AgentCommand} {α : Type}
  {h : History (Processing R)}

/-- What is asked of each operation of a future of the command. -/
abbrev Warranted (processor : CommandProcessor R) (command : AgentCommand)
    (p : Prog (Processing R) α) (h : History (Processing R)) : Prop :=
  p.Warranted (processor.dispatcher.Warrant command) (fun _ _ => True) h

theorem Warranted.mono {p : Prog (Processing R) α} {Q : α → History (Processing R) → Prop}
    (pre : p.Warranted (processor.dispatcher.Warrant command) Q h) :
    processor.Warranted command p h :=
  Prog.warranted_mono pre fun _ _ _ => trivial

theorem warranted_of_silent {p : Prog (Processing R) α} (silent : p.AllOps ProcessingOp.Silent) :
    processor.Warranted command p h :=
  Warranted.mono (CommandDispatcher.warranted_of_silent silent)

theorem warranted_bind {β : Type} {p : Prog (Processing R) α} {f : α → Prog (Processing R) β}
    (pre : p.Warranted (processor.dispatcher.Warrant command)
      (fun value h => processor.Warranted command (f value) h) h) :
    processor.Warranted command (p.bind f) h :=
  Prog.warranted_bind pre

/-- A rest of the execution that is not polled any more is as warranted as the whole. -/
def RestWarranted (processor : CommandProcessor R) (command : AgentCommand)
    (polled : Polled R) (h : History (Processing R)) : Prop :=
  ∀ rest, polled = .inr rest → processor.Warranted command rest h

theorem restWarranted_grows (polled : Polled R) :
    Prog.Grows (processor.RestWarranted command polled) :=
  fun _ _ longer known rest left => (known rest left).grow CommandDispatcher.warrant_grows
    (fun _ _ _ _ _ => trivial) longer

/-- Polling a rest further, until an alarm is seen. -/
theorem pollUntil_warranted (which : ProcessingAlarm R)
    {rest : Prog (Processing R) ExecutionOutcome} (pre : processor.Warranted command rest h) :
    (rest.pollUntil which).Warranted (processor.dispatcher.Warrant command)
      (processor.RestWarranted command) h := by
  apply Prog.warranted_race CommandDispatcher.warrant_grows (fun _ _ _ _ _ => trivial) pre
  · rintro rest h known other ⟨⟩
    exact known
  · rintro value h - other ⟨⟩

/-- A silent future behind which the rest is still what it was. -/
theorem keeping_rest {β : Type} {p : Prog (Processing R) β} {polled : Polled R}
    (silent : p.AllOps ProcessingOp.Silent) (known : processor.RestWarranted command polled h) :
    p.Warranted (processor.dispatcher.Warrant command)
      (fun _ => processor.RestWarranted command polled) h := by
  apply Prog.warranted_mono (CommandDispatcher.warranted_of_silent silent)
  rintro value h' ⟨run, rfl, -⟩
  exact restWarranted_grows polled _ _ (List.sublist_append_left ..) known

theorem deferredCommittedOutput_silent (reason : FinalizationDeferredReason) :
    (deferredCommittedOutput (R := R) reason).AllOps ProcessingOp.Silent :=
  Prog.allOps_bind (Prog.allOps_perform.mpr fun _ sets => nomatch sets) fun _ => trivial

theorem deadlineReached_warranted (executionTimeout : Duration)
    {rest : Prog (Processing R) ExecutionOutcome} (pre : processor.Warranted command rest h) :
    (deadlineReached executionTimeout rest).Warranted (processor.dispatcher.Warrant command)
      (fun outcome => processor.RestWarranted command outcome.2) h := by
  have grown : ∀ {h'}, h.Sublist h' → processor.Warranted command rest h' := fun longer =>
    pre.grow CommandDispatcher.warrant_grows (fun _ _ _ _ _ => trivial) longer
  apply Prog.warranted_perform_bind
  · exact CommandDispatcher.warrant_of_silent fun _ sets => nomatch sets
  intro committed
  cases committed with
  | true =>
      apply Prog.warranted_bind
      apply Prog.warranted_mono (pollUntil_warranted .grace (grown (List.sublist_append_left ..)))
      rintro ((error | output) | left) h' known
      · apply Prog.warranted_bind
        exact keeping_rest (deferredCommittedOutput_silent _) known
      · exact known
      · apply Prog.warranted_perform_bind
        · exact CommandDispatcher.warrant_of_silent fun _ sets => nomatch sets
        intro _
        apply Prog.warranted_bind
        apply keeping_rest (deferredCommittedOutput_silent _)
        exact restWarranted_grows _ _ _ (List.sublist_append_left ..) known
  | false =>
      apply Prog.warranted_perform_bind
      · exact CommandDispatcher.warrant_of_silent fun _ sets => nomatch sets
      intro _
      apply Prog.warranted_bind
      apply Prog.warranted_mono (pollUntil_warranted .cancellationWindow
        (grown ((List.sublist_append_left ..).trans (List.sublist_append_left ..))))
      exact fun _ _ known => known

theorem select_warranted (executionTimeout : Duration)
    {execution : Prog (Processing R) ExecutionOutcome}
    (pre : processor.Warranted command execution h) :
    (select executionTimeout execution).Warranted (processor.dispatcher.Warrant command)
      (fun outcome => processor.RestWarranted command outcome.2) h := by
  apply Prog.warranted_race CommandDispatcher.warrant_grows (fun _ _ _ _ _ => trivial) pre
  · exact fun rest h known => deadlineReached_warranted executionTimeout known
  · rintro value h - other ⟨⟩

theorem fail_silent (client : ApiClient) (commandId : Uuid) (error : RuntimeExecutionError) :
    Fallible.AllOps ProcessingOp.Silent (client.fail (R := R) commandId error) :=
  Fallible.allOps_bind (Fallible.allOps_perform fun _ sets => nomatch sets) fun _ =>
    Fallible.allOps_ofExcept _

theorem preserveCommitted_silent (outcome : ExecutionOutcome) :
    (preserveCommitted (R := R) outcome).AllOps ProcessingOp.Silent := by
  cases outcome with
  | ok output => trivial
  | error error =>
      apply Prog.allOps_bind (Prog.allOps_perform.mpr fun _ sets => nomatch sets)
      intro committed
      cases committed with
      | true => exact Prog.allOps_bind (deferredCommittedOutput_silent _) fun _ => trivial
      | false => trivial

theorem reportTerminal_silent (outcome : ExecutionOutcome) :
    Fallible.AllOps ProcessingOp.Silent (processor.reportTerminal command outcome) := by
  cases outcome with
  | ok output =>
      exact Fallible.allOps_bind (Fallible.allOps_perform fun _ sets => nomatch sets) fun _ =>
        Fallible.allOps_ofExcept _
  | error error => exact Fallible.allOps_bind (fail_silent _ _ _) fun _ => Fallible.allOps_throw _

theorem finish_silent (outcome : ExecutionOutcome) :
    (processor.finish command outcome).AllOps ProcessingOp.Silent := by
  apply Prog.allOps_bind (preserveCommitted_silent outcome)
  intro preserved
  apply Prog.allOps_bind (Prog.allOps_perform.mpr fun _ sets => nomatch sets)
  exact fun _ => reportTerminal_silent preserved

theorem execute_warranted (executionTimeout : Duration) :
    processor.Warranted command (processor.execute command executionTimeout) h := by
  apply Prog.warranted_bind
  apply Prog.warranted_mono
    (select_warranted executionTimeout CommandDispatcher.dispatch_warranted)
  rintro ⟨outcome, polled⟩ h₁ known
  apply Prog.warranted_perform_bind
  · exact CommandDispatcher.warrant_of_silent fun _ sets => nomatch sets
  intro _
  apply Prog.warranted_bind
  apply Prog.warranted_mono (keeping_rest (finish_silent outcome)
    (restWarranted_grows polled _ _ (List.sublist_append_left ..) known))
  intro result h₂ known
  cases polled with
  | inl yielded => trivial
  | inr rest =>
      exact Prog.warranted_drop CommandDispatcher.warrant_grows (fun _ _ _ _ _ => trivial)
        (known rest rfl) trivial

/-- Whatever happens to a command, it sets the lifecycle state as its type allows. -/
theorem process_warranted :
    processor.Warranted command (processor.process command).run h := by
  have claimed : Fallible.AllOps ProcessingOp.Silent (ApiClient.claim (R := R) command.id) :=
    Fallible.allOps_bind (Fallible.allOps_perform fun _ sets => nomatch sets) fun _ =>
      Fallible.allOps_ofExcept _
  apply CommandDispatcher.warranted_silent_bind (Fallible.allOps_attempt claimed)
  intro outcome h₁
  cases outcome with
  | error error => cases error <;> trivial
  | ok _ =>
      apply CommandDispatcher.warranted_silent_bind
      · exact Fallible.allOps_bind (Fallible.allOps_perform fun _ sets => nomatch sets) fun _ =>
          Fallible.allOps_ofExcept _
      · intro _ h₂
        cases processor.commandPolicy command with
        | error error =>
            exact warranted_of_silent
              (Fallible.allOps_bind (fail_silent _ _ _) fun _ => Fallible.allOps_throw _)
        | ok policy => exact execute_warranted policy.1

end CommandProcessor

/-! ### What the loop does -/

/-- The tasks of the second set are tasks of the first, for the same commands. -/
structure CommandExecutions.Kept (e e' : CommandExecutions) : Prop where
  nextTaskId : e'.nextTaskId = e.nextTaskId
  tasks : ∀ id task, (id, task) ∈ e'.tasks →
    ∃ before, (id, before) ∈ e.tasks ∧ before.commandType = task.commandType

namespace CommandExecutions.Kept

variable {e e' : CommandExecutions} {id : TaskId} {task : CommandTask}

theorem of_same (tasks : e'.tasks = e.tasks) (next : e'.nextTaskId = e.nextTaskId) : e.Kept e' where
  nextTaskId := next
  tasks _ task member := ⟨task, tasks ▸ member, rfl⟩

theorem of_join (joined : e.join id = some (task, e')) : e.Kept e' := by
  obtain ⟨-, -, rfl⟩ := join_eq_some.mp joined
  constructor
  · rfl
  · intro other task member
    exact ⟨task, List.mem_of_mem_filter member, rfl⟩

theorem of_finish {outcome : TaskOutcome} (finished : e.finish id outcome = some e') :
    e.Kept e' := by
  unfold finish at finished
  split at finished
  · cases finished
  · split at finished
    · cases finished
      constructor
      · rfl
      · intro other task member
        obtain ⟨⟨number, before⟩, present, same⟩ := List.mem_map.mp member
        by_cases ended : number = id
        · simp only [ended, if_true, Prod.mk.injEq] at same
          obtain ⟨rfl, rfl⟩ := same
          exact ⟨before, ended ▸ present, rfl⟩
        · simp only [ended, if_false, Prod.mk.injEq] at same
          obtain ⟨rfl, rfl⟩ := same
          exact ⟨before, present, rfl⟩
    · cases finished

theorem of_abortAll (e : CommandExecutions) : e.Kept e.abortAll := by
  constructor
  · rfl
  · intro id task member
    obtain ⟨⟨number, before⟩, present, same⟩ := List.mem_map.mp member
    cases same
    exact ⟨before, present, rfl⟩

theorem trans {e'' : CommandExecutions} (first : e.Kept e') (second : e'.Kept e'') : e.Kept e'' := by
  constructor
  · exact second.nextTaskId.trans first.nextTaskId
  · intro id task member
    obtain ⟨middle, present, same⟩ := second.tasks id task member
    obtain ⟨before, old, again⟩ := first.tasks id middle present
    exact ⟨before, old, again.trans same⟩

theorem nil (kept : e.Kept e') (none : e.tasks = []) : e'.tasks = [] := by
  apply List.eq_nil_iff_forall_not_mem.mpr
  rintro ⟨id, task⟩ member
  obtain ⟨before, present, -⟩ := kept.tasks id task member
  rw [none] at present
  cases present

end CommandExecutions.Kept

/-- The next step of the loop neither sets the lifecycle state nor starts a command. -/
def PollerPhase.harmless : PollerPhase → Bool
  | .drained | .starting _ _ => false
  | _ => true

namespace PolledNode

/-- No command task but those that change the state of the node. -/
def Quiet (node : PolledNode) : Prop :=
  ∀ entry ∈ node.executions.tasks,
    entry.2.commandType = .drainNode ∨ entry.2.commandType = .resumeNode

/-- What a step of the loop can do to what the tasks and the loop share. -/
inductive Advanced (node node' : PolledNode) : Prop where
  | went (kept : node.executions.Kept node'.executions) (spawned : node'.spawned = node.spawned)
      (lifecycle : node'.lifecycle = node.lifecycle)
      (drained : node'.poller.phase = .drained →
        node.poller.phase = .drained ∨ node.executions.tasks = [])
      (starting : ∀ command rest, node'.poller.phase = .starting command rest →
        node.poller.phase = .starting command rest ∨
          Poller.considers node.lifecycle command = true)
  | drained (phase : node.poller.phase = .drained)
      (kept : node.executions.Kept node'.executions) (spawned : node'.spawned = node.spawned)
      (lifecycle : node'.lifecycle = .drained)
      (phase' : node'.poller.phase = .polling ∨ node'.poller.phase = .sleeping)
  | started (command : AgentCommand) (rest : List AgentCommand) (task : CommandTask)
      (phase : node.poller.phase = .starting command rest)
      (next : node'.executions.nextTaskId = node.executions.nextTaskId + 1)
      (tasks : node'.executions.tasks =
        node.executions.tasks ++ [(node.executions.nextTaskId, task)])
      (type : task.commandType = command.commandType)
      (spawned : node'.spawned =
        Function.update node.spawned node.executions.nextTaskId (some command))
      (lifecycle : node'.lifecycle = node.lifecycle) (phase' : node'.poller.phase = .offering rest)

namespace Advanced

variable {node : PolledNode} {poller : Poller}

theorem on (kept : node.executions.Kept poller.executions)
    (lifecycle : poller.lifecycle = node.lifecycle) (harmless : poller.phase.harmless = true) :
    Advanced node { node with poller } := by
  refine .went kept rfl lifecycle ?_ ?_
  · intro again
    have again : poller.phase = .drained := again
    rw [again] at harmless
    cases harmless
  · intro command rest again
    have again : poller.phase = .starting command rest := again
    rw [again] at harmless
    cases harmless

theorem beginPoll {before : Poller} (kept : node.executions.Kept before.executions)
    (lifecycle : before.lifecycle = node.lifecycle) :
    Advanced node { node with poller := before.beginPoll } := by
  unfold Poller.beginPoll
  split
  · exact on (kept.trans (.of_same rfl rfl)) lifecycle rfl
  · exact on kept lifecycle rfl

theorem proceed (stepped : node.poller.proceed = some poller) :
    Advanced node { node with poller, spawned := node.spawning } := by
  have same : node.executions.Kept node.executions := .of_same rfl rfl
  unfold spawning
  unfold Poller.proceed at stepped
  cases phase : node.poller.phase with
  | reaping =>
      simp only [phase] at stepped ⊢
      split at stepped
      · cases stepped
      · cases stepped
        exact on same rfl rfl
  | reaped =>
      simp only [phase] at stepped ⊢
      split at stepped
      · rename_i settled
        cases stepped
        exact .went same rfl rfl (fun _ => .inr (List.length_eq_zero_iff.mp settled.2))
          fun _ _ impossible => nomatch impossible
      · cases stepped
        exact beginPoll same rfl
  | drained =>
      simp only [phase] at stepped ⊢
      cases stepped
      unfold Poller.beginPoll
      split
      · exact .drained phase (.of_same rfl rfl) rfl rfl (.inl rfl)
      · exact .drained phase same rfl rfl (.inr rfl)
  | polling => simp [phase] at stepped
  | offering commands =>
      cases commands with
      | nil =>
          simp only [phase] at stepped ⊢
          cases stepped
          exact on same rfl rfl
      | cons command rest =>
          simp only [phase] at stepped ⊢
          split at stepped
          · rename_i considered
            cases stepped
            refine .went same rfl rfl (fun impossible => nomatch impossible) ?_
            rintro _ _ ⟨⟩
            exact .inr considered
          · cases stepped
            exact on same rfl rfl
  | starting command rest =>
      simp only [phase] at stepped ⊢
      cases stepped
      unfold Poller.offer CommandExecutions.tryStart
      cases refused : node.executions.refuses command with
      | true => exact on (.of_same rfl rfl) rfl rfl
      | false => exact .started command rest _ phase rfl rfl rfl rfl rfl rfl
  | sleeping =>
      simp only [phase] at stepped ⊢
      cases stepped
      exact on same rfl rfl
  | cancelling | aborting =>
      simp only [phase] at stepped ⊢
      split at stepped
      · cases stepped
        exact on same rfl rfl
      · cases stepped
  | stopped => simp [phase] at stepped

end Advanced

theorem advance_advanced {node node' : PolledNode} {action : PollerAction}
    (advanced : node.advance action = some node') : Advanced node node' := by
  cases action with
  | proceed =>
      obtain ⟨poller, stepped, rfl⟩ := Option.map_eq_some_iff.mp advanced
      exact .proceed stepped
  | join id =>
      obtain ⟨poller, stepped, rfl⟩ := Option.map_eq_some_iff.mp advanced
      simp only [Poller.step] at stepped
      split at stepped
      · cases stepped
      · rename_i task joined join
        have kept := CommandExecutions.Kept.of_join join
        cases phase : node.poller.phase with
        | reaping =>
            simp only [phase] at stepped
            cases stepped
            have released := CommandExecutions.reapJoined_sameTasks joined id task
            exact .on (kept.trans (.of_same released.tasks released.nextTaskId)) rfl rfl
        | cancelling | aborting =>
            simp only [phase] at stepped
            cases stepped
            have released := CommandExecutions.waitJoined_sameTasks joined id task
            exact .on (kept.trans (.of_same released.tasks released.nextTaskId)) rfl rfl
        | _ => simp [phase] at stepped
  | polled commands =>
      obtain ⟨poller, stepped, rfl⟩ := Option.map_eq_some_iff.mp advanced
      simp only [Poller.step] at stepped
      split at stepped
      · cases stepped
        exact .on (.of_same rfl rfl) rfl rfl
      · cases stepped
        exact .on (.of_same rfl rfl) rfl rfl
      · cases stepped
  | shutdown =>
      obtain ⟨poller, stepped, rfl⟩ := Option.map_eq_some_iff.mp advanced
      simp only [Poller.step] at stepped
      split at stepped
      · cases stepped
        exact .on (.of_same rfl rfl) rfl rfl
      · cases stepped
  | graceElapsed =>
      obtain ⟨poller, stepped, rfl⟩ := Option.map_eq_some_iff.mp advanced
      simp only [Poller.step] at stepped
      split at stepped
      · cases stepped
        exact .on (.of_abortAll _) rfl rfl
      · cases stepped
  | taskEnded id outcome =>
      obtain ⟨poller, stepped, rfl⟩ := Option.map_eq_some_iff.mp advanced
      obtain ⟨executions, finished, rfl⟩ := Option.map_eq_some_iff.mp stepped
      exact .went (.of_finish finished) rfl rfl (fun again => .inl again) fun _ _ again => .inl again
  | lifecycleSet state => cases advanced

/-! ### What holds of the node -/

/-- Nothing is running or about to be started but commands that change the state of the node. -/
structure Hushed (node : PolledNode) : Prop where
  quiet : node.Quiet
  starting : ∀ command rest, node.poller.phase = .starting command rest →
    command.commandType = .drainNode ∨ command.commandType = .resumeNode

theorem Hushed.advanced {node node' : PolledNode} (hushed : node.Hushed)
    (inactive : node.lifecycle ≠ .active) (advanced : Advanced node node') : node'.Hushed := by
  have keeps : node.executions.Kept node'.executions → node'.Quiet := by
    rintro kept ⟨id, task⟩ member
    obtain ⟨before, present, same⟩ := kept.tasks id task member
    rw [← same]
    exact hushed.quiet (id, before) present
  cases advanced with
  | went kept spawned lifecycle drained starting =>
      constructor
      · exact keeps kept
      · intro command rest phase
        rcases starting command rest phase with before | considered
        · exact hushed.starting command rest before
        · have closed : node.lifecycle.acceptsWorkloadCommands = false := by
            simpa [NodeLifecycleState.acceptsWorkloadCommands] using inactive
          simpa [Poller.considers, closed] using (Bool.and_eq_true_iff.mp considered).2
  | drained phase kept spawned lifecycle phase' =>
      constructor
      · exact keeps kept
      · intro command rest again
        rw [again] at phase'
        rcases phase' with impossible | impossible <;> cases impossible
  | started command rest task phase next tasks type spawned lifecycle phase' =>
      constructor
      · intro entry member
        rw [tasks] at member
        rcases List.mem_append.mp member with old | new
        · exact hushed.quiet entry old
        · rw [List.mem_singleton.mp new, type]
          exact hushed.starting command rest phase
      · intro other others again
        rw [again] at phase'
        cases phase'

/-- What the loop and the tasks keep of the node they share. -/
structure Settled (node : PolledNode) : Prop where
  recorded : ∀ id task, (id, task) ∈ node.executions.tasks →
    ∃ command, node.spawned id = some command ∧ command.commandType = task.commandType
  known : ∀ id command, node.spawned id = some command → id < node.executions.nextTaskId
  emptied : node.poller.phase = .drained → node.executions.tasks = []
  hushed : node.lifecycle = .drained → node.Hushed

namespace Settled

variable {node node' : PolledNode}

/-- The command of a task stays what it was. -/
theorem spawned_kept (settled : node.Settled) (advanced : Advanced node node') {id : TaskId}
    {command : AgentCommand} (spawned : node.spawned id = some command) :
    node'.spawned id = some command := by
  cases advanced with
  | went _ same | drained _ _ same => rw [same, spawned]
  | started other rest task phase next tasks type spawning =>
      have old : id ≠ node.executions.nextTaskId := (settled.known id command spawned).ne
      rw [spawning, Function.update_of_ne old, spawned]

theorem advanced (settled : node.Settled) (advanced : Advanced node node') : node'.Settled := by
  have hushed : node'.lifecycle = node.lifecycle → node'.lifecycle = .drained → node'.Hushed := by
    intro same drained
    have before : node.lifecycle = .drained := same ▸ drained
    exact (settled.hushed before).advanced (by simp [before]) advanced
  have kept : node.executions.Kept node'.executions → node'.spawned = node.spawned →
      ∀ id task, (id, task) ∈ node'.executions.tasks →
        ∃ command, node'.spawned id = some command ∧ command.commandType = task.commandType := by
    intro kept same id task member
    obtain ⟨before, present, sameType⟩ := kept.tasks id task member
    obtain ⟨command, spawned, type⟩ := settled.recorded id before present
    exact ⟨command, same ▸ spawned, type.trans sameType⟩
  cases advanced with
  | went keeps spawned lifecycle drained starting =>
      constructor
      · exact kept keeps spawned
      · intro id command found
        rw [keeps.nextTaskId]
        exact settled.known id command (spawned ▸ found)
      · intro phase
        apply keeps.nil
        rcases drained phase with before | none
        · exact settled.emptied before
        · exact none
      · exact hushed lifecycle
  | drained phase keeps spawned lifecycle phase' =>
      have none := keeps.nil (settled.emptied phase)
      constructor
      · exact kept keeps spawned
      · intro id command found
        rw [keeps.nextTaskId]
        exact settled.known id command (spawned ▸ found)
      · exact fun _ => none
      · intro _
        constructor
        · intro entry member
          rw [none] at member
          cases member
        · intro command rest again
          rw [again] at phase'
          rcases phase' with impossible | impossible <;> cases impossible
  | started command rest task phase next tasks type spawned lifecycle phase' =>
      constructor
      · intro id other member
        rw [tasks] at member
        rcases List.mem_append.mp member with old | new
        · obtain ⟨before, found, same⟩ := settled.recorded id other old
          have ne : id ≠ node.executions.nextTaskId := (settled.known id before found).ne
          rw [spawned, Function.update_of_ne ne]
          exact ⟨before, found, same⟩
        · cases List.mem_singleton.mp new
          rw [spawned, Function.update_self]
          exact ⟨command, rfl, type.symm⟩
      · intro id other found
        rw [next]
        by_cases new : id = node.executions.nextTaskId
        · rw [new]
          exact Nat.lt_succ_self _
        · rw [spawned, Function.update_of_ne new] at found
          exact (settled.known id other found).trans (Nat.lt_succ_self _)
      · intro again
        rw [again] at phase'
        cases phase'
      · exact hushed lifecycle

theorem setLifecycle (settled : node.Settled) {state : NodeLifecycleState}
    (open_ : state ≠ .drained) : (node.setLifecycle state).Settled where
  recorded := settled.recorded
  known := settled.known
  emptied := settled.emptied
  hushed drained := absurd drained open_

theorem of_commands (settled : node.Settled) (commands : TaskId → CommandState) :
    ({ node with commands }).Settled where
  recorded := settled.recorded
  known := settled.known
  emptied := settled.emptied
  hushed drained := ⟨(settled.hushed drained).quiet, (settled.hushed drained).starting⟩

end Settled

/-! ### Runs -/

section Runs

variable {R : Interface} {processor : CommandProcessor R}
  {s s' : Pool (Processing R) PolledNode TaskId Unit}
  {action : Pool.Action (Processing R) TaskId Unit}

/-- Each task does what the type of its command allows. -/
structure Keeps (processor : CommandProcessor R)
    (s : Pool (Processing R) PolledNode TaskId Unit) : Prop where
  settled : s.world.Settled
  warranted : ∀ id program, s.program id = some program →
    ∃ command, s.world.spawned id = some command ∧
      processor.Warranted command program (s.history id)

/-- A `ResumeNode` sets the node active, behind a preflight without a fatal failure and an answered
capacity query. -/
def Resumes (processor : CommandProcessor R) (s : Pool (Processing R) PolledNode TaskId Unit)
    (action : Pool.Action (Processing R) TaskId Unit) : Prop :=
  ∃ id command, action = .act id (.done (.setLifecycle .active) ()) ∧
    s.world.spawned id = some command ∧ command.commandType = .resumeNode ∧
    processor.dispatcher.Resumed (s.history id)

/-- What a step does to the node. -/
inductive NodeChange (processor : CommandProcessor R)
    (s : Pool (Processing R) PolledNode TaskId Unit)
    (action : Pool.Action (Processing R) TaskId Unit) (node : PolledNode) : Prop where
  | own (commands : TaskId → CommandState) (same : node = { s.world with commands })
  | drains (same : node = s.world.setLifecycle .draining)
  | resumes (same : node = s.world.setLifecycle .active) (resumed : Resumes processor s action)
  | advanced (advanced : Advanced s.world node)

theorem Keeps.change (keeps : Keeps processor s) (stepped : Pool.Step (threads processor) s action s') :
    NodeChange processor s action s'.world := by
  have unchanged : NodeChange processor s action s.world := .own s.world.commands rfl
  cases stepped with
  | start | fired | quiet | drop => exact unchanged
  | abandoned running left =>
      obtain rfl : _ = s.world := left
      exact unchanged
  | @done id op next res node running step =>
      obtain ⟨command, spawned, warranted⟩ := keeps.warranted id _ running
      have step : s.world.step id op res node := step
      cases op with
      | setLifecycle state =>
          obtain rfl : node = s.world.setLifecycle state := step
          rcases warranted.1 state rfl with ⟨-, rfl⟩ | ⟨resumes, rfl, resumed⟩
          · exact .drains rfl
          · exact .resumes rfl ⟨id, command, rfl, spawned, resumes, resumed⟩
      | _ =>
          obtain ⟨state, -, rfl⟩ := step
          exact .own _ rfl
  | drift drift =>
      rcases drift with ⟨action, advanced⟩ | rfl
      · exact .advanced (advance_advanced advanced)
      · exact .own _ rfl

theorem Keeps.step (keeps : Keeps processor s) (stepped : Pool.Step (threads processor) s action s')
    (driven : Driven processor s action s') : Keeps processor s' := by
  have change := keeps.change stepped
  have spawned_kept : ∀ {id command}, s.world.spawned id = some command →
      s'.world.spawned id = some command := by
    intro id command spawned
    cases change with
    | own commands same => rw [same]; exact spawned
    | drains same | resumes same => rw [same]; exact spawned
    | advanced advanced => exact keeps.settled.spawned_kept advanced spawned
  constructor
  · cases change with
    | own commands same => rw [same]; exact keeps.settled.of_commands commands
    | drains same | resumes same =>
        rw [same]
        exact keeps.settled.setLifecycle nofun
    | advanced advanced => exact keeps.settled.advanced advanced
  · intro id program running
    have known : ∃ command, s.world.spawned id = some command ∧
        (∀ program, s.program id = some program →
          processor.Warranted command program (s.history id)) ∧
        ∀ program, action = .start id program →
          processor.Warranted command program (s.history id) := by
      cases before : s.program id with
      | some own =>
          obtain ⟨command, spawned, warranted⟩ := keeps.warranted id own before
          refine ⟨command, spawned, ?_, ?_⟩
          · rintro program ⟨⟩
            exact warranted
          · rintro program rfl
            cases stepped with
            | start fresh => rw [before] at fresh; cases fresh
      | none =>
          obtain rfl := stepped.started before running
          obtain ⟨-, command, spawned, rfl⟩ := driven
          refine ⟨command, spawned, nofun, ?_⟩
          rintro program ⟨⟩
          apply CommandProcessor.warranted_bind
          apply Prog.warranted_mono CommandProcessor.process_warranted
          exact fun _ _ _ => trivial
    obtain ⟨command, spawned, before, started⟩ := known
    refine ⟨command, spawned_kept spawned, ?_⟩
    exact stepped.warranted CommandDispatcher.warrant_grows before
      (fun program _ => started program) (fun _ => trivial) running

theorem Keeps.start (processor : CommandProcessor R) (connected : Bool) (limit : Nat)
    (lifecycle : NodeLifecycleState) :
    Keeps processor (Pool.empty (PolledNode.new connected limit lifecycle)) := by
  constructor
  · constructor
    · intro id task member
      cases member
    · intro id command spawned
      cases spawned
    · intro phase
      cases phase
    · intro drained
      constructor
      · intro entry member
        cases member
      · intro command rest phase
        cases phase
  · intro id program running
    cases running

theorem Keeps.reaches (keeps : Keeps processor s) (run : Reaches processor s s') :
    Keeps processor s' :=
  run.invariant (Keeps processor) (fun _ _ _ keeps stepped driven => keeps.step stepped driven) keeps

/-- The node is shut for workload commands, and nothing but commands that change its state goes on. -/
structure Shut (node : PolledNode) : Prop where
  lifecycle : node.lifecycle = .drained ∨ node.lifecycle = .draining
  hushed : node.Hushed

theorem Shut.changed {node : PolledNode} (shut : s.world.Shut)
    (change : NodeChange processor s action node) (closed : ¬Resumes processor s action) :
    node.Shut := by
  cases change with
  | own commands own =>
      rw [own]
      exact ⟨shut.lifecycle, ⟨shut.hushed.quiet, shut.hushed.starting⟩⟩
  | drains drains =>
      rw [drains]
      exact ⟨.inr rfl, ⟨shut.hushed.quiet, shut.hushed.starting⟩⟩
  | resumes _ resumed => exact absurd resumed closed
  | advanced advanced =>
      constructor
      · cases advanced with
        | went _ _ lifecycle | started _ _ _ _ _ _ _ _ lifecycle =>
            rw [lifecycle]
            exact shut.lifecycle
        | drained _ _ _ lifecycle => exact .inl lifecycle
      · apply shut.hushed.advanced _ advanced
        intro active
        have lifecycle := shut.lifecycle
        rw [active] at lifecycle
        rcases lifecycle with impossible | impossible <;> cases impossible

/-- Drained means quiet: while the state is drained no other command task is in the set; until a
`ResumeNode` sets the state active the node stays shut, and nobody else sets it active. -/
theorem drained_quiet (processor : CommandProcessor R) (connected : Bool) (limit : Nat)
    (lifecycle : NodeLifecycleState)
    (run : Reaches processor (Pool.empty (.new connected limit lifecycle)) s) :
    (s.world.lifecycle = .drained → s.world.Quiet) ∧
    (s.world.lifecycle = .drained → ∀ s', Pool.Runs (threads processor)
      (fun a action b => Driven processor a action b ∧ ¬Resumes processor a action) s s' →
        s'.world.Quiet ∧
          (s'.world.lifecycle = .drained ∨ s'.world.lifecycle = .draining)) ∧
    ∀ action s', Pool.Step (threads processor) s action s' → Driven processor s action s' →
      s.world.lifecycle ≠ .active → s'.world.lifecycle = .active → Resumes processor s action := by
  have keeps := (Keeps.start processor connected limit lifecycle).reaches run
  refine ⟨fun drained => (keeps.settled.hushed drained).quiet, ?_, ?_⟩
  · intro drained s' later
    have shut : Keeps processor s' ∧ s'.world.Shut := by
      apply later.invariant (fun s => Keeps processor s ∧ s.world.Shut)
      · rintro a action b ⟨keeps, shut⟩ stepped ⟨driven, closed⟩
        exact ⟨keeps.step stepped driven, shut.changed (keeps.change stepped) closed⟩
      · exact ⟨keeps, .inl drained, keeps.settled.hushed drained⟩
    exact ⟨shut.2.hushed.quiet, shut.2.lifecycle⟩
  · intro action s' stepped _ before after
    cases keeps.change stepped with
    | own commands same =>
        rw [same] at after
        exact absurd after before
    | drains same =>
        rw [same] at after
        cases after
    | resumes _ resumed => exact resumed
    | advanced advanced =>
        cases advanced with
        | went _ _ lifecycle | started _ _ _ _ _ _ _ _ lifecycle =>
            exact absurd (lifecycle.symm.trans after) before
        | drained _ _ _ lifecycle =>
            rw [lifecycle] at after
            cases after

/-- A step of the loop behind which no task has ended. -/
theorem reaches_advance (action : PollerAction) {node : PolledNode}
    (advanced : s.world.advance action = some node)
    (unfinished : ∀ entry ∈ node.executions.tasks, entry.2.outcome = none) :
    Reaches processor s { s with world := node } := by
  refine .single ⟨.drift, @Pool.Step.drift _ _ _ _ _ (threads processor) s 0 node
    (.inl ⟨action, advanced⟩), ?_⟩
  rintro id - ⟨task, member, completed⟩
  rw [unfinished (id, task) member] at completed
  cases completed

/-- A task is answered a call of the client. -/
theorem reaches_client (processor : CommandProcessor R) {id : TaskId} {call : ClientCall}
    {next : Responses → Prog (Processing R) Unit} (responses : Responses)
    (waiting : s.program id = some (.call (.client call) next))
    (running : s.world.Running id false) :
    ∃ s', Reaches processor s s' ∧ s'.program id = some (next responses) ∧
      s'.world.poller = s.world.poller := by
  have step : s.world.step (R := R) id (.client call) responses
      { s.world with commands := Function.update s.world.commands id (s.world.commands id) } :=
    ⟨s.world.commands id, rfl, rfl⟩
  refine ⟨_, .single ⟨_, .done waiting step, running⟩, ?_, rfl⟩
  exact Function.update_self ..

end Runs

/-! A drained node that is resumed. -/

namespace Resuming

open CommittedThenFailed (noRuntime answered)

def runtime : RuntimeExecutor noRuntime :=
  { CommittedThenFailed.runtime with
    preflight := { run := pure { checks := [] }, confined := trivial }
    capacity := { run := pure {}, confined := trivial } }

def processor : CommandProcessor noRuntime :=
  { CommittedThenFailed.processor with
    dispatcher := { CommittedThenFailed.processor.dispatcher with runtime } }

def command : AgentCommand :=
  { CommittedThenFailed.command with commandType := .resumeNode, projectId := none }

def start : PolledNode :=
  .new true 4 .drained

/-- The loop has started the command. -/
def started : PolledNode where
  poller :=
    { connected := true
      executions := (CommandExecutions.new 4 {}).started command 0
      lifecycle := .drained
      nextToken := 1
      phase := .offering [] }
  spawned := Function.update (fun _ => none) 0 (some command)
  commands _ := {}

theorem reaches_started : Reaches processor (Pool.empty start) (Pool.empty started) := by
  refine (reaches_advance .proceed rfl (List.forall_mem_nil _)).trans ?_
  refine (reaches_advance .proceed rfl (List.forall_mem_nil _)).trans ?_
  refine (reaches_advance (.polled (some [command])) rfl (List.forall_mem_nil _)).trans ?_
  refine (reaches_advance .proceed rfl (List.forall_mem_nil _)).trans ?_
  refine reaches_advance .proceed rfl ?_
  intro entry member
  cases List.mem_singleton.mp member
  rfl

/-- The task of the command has been claimed and announced, and has asked its two questions. -/
theorem reaches_asked : ∃ s next, Reaches processor (Pool.empty started) s ∧
    s.world.lifecycle = .drained ∧ s.world.Running 0 false ∧
    s.program 0 = some (.call (.setLifecycle .active) next) := by
  have running : started.Running 0 false := ⟨_, List.mem_singleton.mpr rfl, rfl, nofun⟩
  let spawned := (Pool.empty started).become 0 (work processor command)
  have first : Reaches processor (Pool.empty started) spawned :=
    .single ⟨_, .start rfl ⟨command, rfl⟩, running, command, rfl, rfl⟩
  have claiming : spawned.program 0 = some (.call (.client (.claim command.id)) _) := rfl
  obtain ⟨a, claimed, announcing, same⟩ :=
    reaches_client processor (answered 200) claiming running
  have runningStill : a.world.Running 0 false := by
    unfold Running executions
    rw [same]
    exact running
  obtain ⟨b, announced, asked, same'⟩ :=
    reaches_client processor (answered 200) announcing runningStill
  refine ⟨b, _, first.trans (claimed.trans announced), ?_, ?_, asked⟩
  · unfold lifecycle
    rw [same', same]
    rfl
  · unfold Running executions
    rw [same', same]
    exact running

end Resuming

theorem drained_quiet_resuming : ∃ s s', s.world.lifecycle = .drained ∧ s'.world.lifecycle = .active ∧
    s.world.Quiet ∧ ∃ action, Resumes Resuming.processor s action ∧
      Pool.Step (threads Resuming.processor) s action s' := by
  obtain ⟨s, next, run, drained, running, waiting⟩ := Resuming.reaches_asked
  have stepped : Pool.Step (threads Resuming.processor) s (.act 0 (.done (.setLifecycle .active) ()))
      (s.next 0 (next ()) (.done (.setLifecycle .active) ()) (s.world.setLifecycle .active)) :=
    .done waiting rfl
  have holds := drained_quiet Resuming.processor true 4 .drained
    (Resuming.reaches_started.trans run)
  refine ⟨s, _, drained, rfl, holds.1 drained, _, ?_, stepped⟩
  exact holds.2.2 _ _ stepped running (by simp [drained]) rfl

end PolledNode

end SakalaAgent
