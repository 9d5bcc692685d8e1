/-
Module: SakalaAgent.Proofs.TerminalReport
Layer: Proofs
Purpose: How a claimed command ends. The execution of a command keeps two facts about its history
  (the reporter knows the last cutover mark, no terminal report has been made); from there each piece
  of `process` is followed to the terminal report it makes.
Trusted boundary: none
Main exports: terminalCalls, cutoverMarks, CommandProcessor.committed_completes,
  CommandProcessor.terminal_report_exact
-/
import SakalaAgent.Core.Commands.Processor

namespace SakalaAgent

open Async

variable {R : Interface}

/-- The history of a command. -/
abbrev Trace (R : Interface) : Type := History (Processing R)

/-! ### Reading a history -/

/-- The terminal report of a command an operation is, if it is one. -/
def ProcessingOp.terminalCall (commandId : Uuid) : ProcessingOp R → Option ClientCall
  | .client (.complete id result) => if id = commandId then some (.complete id result) else none
  | .client (.fail id payload) => if id = commandId then some (.fail id payload) else none
  | _ => none

/-- The calls of `complete` and `fail` for a command, in order. -/
def terminalCalls (commandId : Uuid) (h : Trace R) : List ClientCall :=
  h.filterMap fun event => event.asked.bind (ProcessingOp.terminalCall commandId)

/-- The outputs the reporter was marked committed with, in order. -/
def cutoverMarks (h : Trace R) : List CommandOutput :=
  h.filterMap fun event => match event with
    | .done (.markDeploymentCommitted output) _ => some output
    | _ => none

/-- The places at which the execution was polled for the last time. -/
def stops (h : Trace R) : List (Option ExecutionOutcome) :=
  h.filterMap fun event => match event with
    | .done (.stopped yielded) _ => some yielded
    | _ => none

/-- The claim of the command was acknowledged. -/
def ClaimSucceeded (commandId : Uuid) (h : Trace R) : Prop :=
  ∃ responses rest, h = .done (.client (.claim commandId)) responses :: rest ∧
    ApiClient.claimOutcome responses = .ok ()

/-- Something was asked for that belongs to the execution of a command. -/
def ExecutionStarted (h : Trace R) : Prop :=
  ∃ event ∈ h, ∃ op, event.asked = some op ∧
    (ProcessingOp.OfExecution op ∨ ∃ yielded, op = .stopped yielded)

section Reading

variable (commandId : Uuid) (first second : Trace R)

@[simp] theorem terminalCalls_append :
    terminalCalls commandId (first ++ second) =
      terminalCalls commandId first ++ terminalCalls commandId second :=
  List.filterMap_append

@[simp] theorem cutoverMarks_append :
    cutoverMarks (first ++ second) = cutoverMarks first ++ cutoverMarks second :=
  List.filterMap_append

@[simp] theorem stops_append : stops (first ++ second) = stops first ++ stops second :=
  List.filterMap_append

theorem terminalCall_eq_none {op : ProcessingOp R} (confined : op.OfExecution) :
    op.terminalCall commandId = none := by
  cases op with
  | client call => cases call <;> first | rfl | exact confined.elim
  | stopped yielded => exact confined.elim
  | _ => rfl

end Reading

/-! ### While the execution is polled -/

/-- The reporter knows of exactly this cutover. -/
structure CommandState.Knows (state : CommandState) (cutover : Option CommandOutput) : Prop where
  flag : state.deploymentCommitted = cutover.isSome
  stored : state.committed = cutover

theorem CommandState.Knows.committedOutput {state : CommandState} {cutover : Option CommandOutput}
    (knows : state.Knows cutover) : state.committedOutput = cutover := by
  unfold CommandState.committedOutput
  rw [knows.flag, knows.stored]
  cases cutover <;> rfl

/-- The history goes on from `base`, no terminal report has been made, the execution has been
stopped as `yields` says, and the reporter knows the last mark. -/
structure Executing (commandId : Uuid) (base : Trace R) (yields : List (Option ExecutionOutcome))
    (state : CommandState) (h : Trace R) : Prop where
  continued : base <+: h
  silent : terminalCalls commandId h = []
  polled : stops h = yields
  knows : state.Knows (cutoverMarks h).getLast?

section Executing

variable {commandId : Uuid} {base h : Trace R} {yields : List (Option ExecutionOutcome)}
  {state state' : CommandState}

/-- An entry that is no mark, no stop and no terminal report. -/
theorem Executing.entry (executing : Executing commandId base yields state h)
    {event : Event (Processing R)} (silent : terminalCalls commandId [event] = [])
    (polled : stops [event] = []) (unmarked : cutoverMarks [event] = [])
    (knows : state'.Knows (cutoverMarks h).getLast?) :
    Executing commandId base yields state' (h ++ [event]) where
  continued := executing.continued.trans (List.prefix_append h [event])
  silent := by rw [terminalCalls_append, executing.silent, silent]; rfl
  polled := by rw [stops_append, executing.polled, polled, List.append_nil]
  knows := by rw [cutoverMarks_append, unmarked, List.append_nil]; exact knows

theorem Executing.marked (executing : Executing commandId base yields state h) (output : CommandOutput) :
    Executing commandId base yields (state.markDeploymentCommitted output)
      (h ++ [.done (.markDeploymentCommitted output) ()]) where
  continued := executing.continued.trans (List.prefix_append h _)
  silent := by rw [terminalCalls_append, executing.silent]; rfl
  polled := by
    rw [stops_append, executing.polled]
    exact List.append_nil _
  knows := by
    rw [cutoverMarks_append]
    have last : (cutoverMarks h ++ [output]).getLast? = some output := List.getLast?_concat
    exact ⟨congrArg Option.isSome last.symm, last.symm⟩

theorem terminalCalls_entry {event : Event (Processing R)} {op : ProcessingOp R}
    (asked : event.asked = some op) (confined : op.OfExecution) :
    terminalCalls commandId [event] = [] := by
  refine List.filterMap_cons_none ?_
  rw [asked]
  exact terminalCall_eq_none commandId confined

/-- Everything an execution may ask for keeps the facts about its history. -/
theorem executing_preserves (commandId : Uuid) (base : Trace R)
    (yields : List (Option ExecutionOutcome)) :
    Prog.Preserves (processingSemantics R) ProcessingOp.OfExecution (Executing commandId base yields) where
  done op confined state h res state' executing step := by
    cases op with
    | markDeploymentCommitted output =>
        obtain rfl : state' = state.markDeploymentCommitted output := step
        exact executing.marked output
    | stopped yielded => exact confined.elim
    | deploymentCommitted =>
        obtain ⟨-, rfl⟩ := step
        exact executing.entry rfl rfl rfl executing.knows
    | committedOutput =>
        obtain ⟨-, rfl⟩ := step
        exact executing.entry rfl rfl rfl executing.knows
    | isCancelled =>
        obtain ⟨-, rfl⟩ := step
        exact executing.entry rfl rfl rfl executing.knows
    | cancel =>
        obtain rfl : state' = { state with cancelled := true } := step
        exact executing.entry rfl rfl rfl ⟨executing.knows.flag, executing.knows.stored⟩
    | client call =>
        obtain rfl : state' = state := step
        exact executing.entry (terminalCalls_entry rfl confined) rfl rfl executing.knows
    | _ =>
        obtain rfl : state' = state := step
        exact executing.entry rfl rfl rfl executing.knows
  abandoned op confined state h outcome state' executing left := by
    obtain rfl : state' = state := left
    exact executing.entry (terminalCalls_entry rfl confined) rfl rfl executing.knows
  fired which op state h executing := executing.entry rfl rfl rfl executing.knows
  drift state h state' executing drift := by
    obtain rfl : state' = { state with cancelled := true } := drift
    exact { executing with knows := ⟨executing.knows.flag, executing.knows.stored⟩ }

theorem Executing.drifts (executing : Executing commandId base yields state h)
    (drifts : Drifts (processingSemantics R) state state') :
    Executing commandId base yields state' h :=
  (executing_preserves commandId base yields).drifts drifts executing

theorem Executing.rebase (executing : Executing commandId base yields state h) :
    Executing commandId h yields state h :=
  { executing with continued := List.prefix_rfl }

theorem Executing.since {h' : Trace R} (executing : Executing commandId h yields state' h')
    (before : Executing commandId base yields state h) :
    Executing commandId base yields state' h' :=
  { executing with continued := before.continued.trans executing.continued }

/-- A deployment that is committed stays committed. -/
theorem Executing.marked_since {cutover : CommandOutput}
    (executing : Executing commandId base yields state h)
    (marked : (cutoverMarks base).getLast? = some cutover) :
    ∃ last, (cutoverMarks h).getLast? = some last := by
  obtain ⟨rest, rfl⟩ := executing.continued
  rw [cutoverMarks_append]
  refine Option.isSome_iff_exists.mp (List.getLast?_isSome.mpr fun empty => ?_)
  rw [(List.append_eq_nil_iff.mp empty).1] at marked
  cases marked

end Executing

/-! ### The pieces of `process` -/

/-- Nothing is asked of a place where `process` may be left: its task is not aborted. -/
def anywhere (_ : CommandState) (_ : Trace R) : Prop := True

section Pieces

variable {α : Type} {commandId : Uuid} {base h : Trace R}
  {yields : List (Option ExecutionOutcome)} {state : CommandState}
  {Q : α → CommandState → Trace R → Prop}

theorem wp_deploymentCommitted {next : Bool → Prog (Processing R) α}
    (executing : Executing commandId base yields state h)
    (continued : ∀ state' event, cutoverMarks [event] = [] →
      Executing commandId base yields state' (h ++ [event]) →
      (next (cutoverMarks h).getLast?.isSome).wp (processingSemantics R) Q anywhere state'
        (h ++ [event])) :
    (Prog.perform (I := Processing R) .deploymentCommitted >>= next).wp (processingSemantics R) Q
      anywhere state h := by
  intro state₀ drifts
  have before := executing.drifts drifts
  refine ⟨fun _ _ _ _ => trivial, ?_⟩
  rintro res state' ⟨rfl, rfl⟩
  rw [before.knows.flag]
  exact continued state' _ rfl (before.entry rfl rfl rfl before.knows)

theorem wp_cancel {next : Unit → Prog (Processing R) α}
    (executing : Executing commandId base yields state h)
    (continued : ∀ state' event, cutoverMarks [event] = [] →
      Executing commandId base yields state' (h ++ [event]) →
      (next ()).wp (processingSemantics R) Q anywhere state' (h ++ [event])) :
    (Prog.perform (I := Processing R) .cancel >>= next).wp (processingSemantics R) Q
      anywhere state h := by
  intro state₀ drifts
  have before := executing.drifts drifts
  refine ⟨fun _ _ _ _ => trivial, ?_⟩
  rintro res state' rfl
  exact continued _ _ rfl (before.entry rfl rfl rfl ⟨before.knows.flag, before.knows.stored⟩)

theorem wp_deferredCommittedOutput {reason : FinalizationDeferredReason} {cutover : CommandOutput}
    {next : CommandOutput → Prog (Processing R) α}
    (executing : Executing commandId base yields state h)
    (marked : (cutoverMarks h).getLast? = some cutover)
    (continued : ∀ state' event, cutoverMarks [event] = [] →
      Executing commandId base yields state' (h ++ [event]) →
      (next (deferredOutput cutover reason)).wp (processingSemantics R) Q anywhere state'
        (h ++ [event])) :
    (CommandProcessor.deferredCommittedOutput reason >>= next).wp (processingSemantics R) Q
      anywhere state h := by
  intro state₀ drifts
  have before := executing.drifts drifts
  refine ⟨fun _ _ _ _ => trivial, ?_⟩
  rintro res state' ⟨rfl, rfl⟩
  have known := before.knows.committedOutput.trans marked
  have read : Executing commandId base yields state' (h ++ [.done .committedOutput state'.committedOutput]) :=
    before.entry rfl rfl rfl before.knows
  have output : deferredOutput (state'.committedOutput.getD {}) reason =
      deferredOutput cutover reason := by rw [known]; rfl
  have rest := continued state' _ rfl read
  rw [← output] at rest
  exact rest

/-- What the select decided: an output is the one the execution yielded, or stands for a cutover. -/
structure Selected (h : Trace R) (outcome : ExecutionOutcome) (polled : Polled R) : Prop where
  output : ∀ output, outcome = .ok output → polled = .inl (.ok output) ∨
    ∃ cutover reason, (cutoverMarks h).getLast? = some cutover ∧
      output = deferredOutput cutover reason
  rest : ∀ rest, polled = .inr rest → rest.AllOps ProcessingOp.OfExecution

theorem Selected.of_yielded (outcome : ExecutionOutcome) :
    Selected (R := R) h outcome (.inl outcome) :=
  ⟨fun _ ok => .inl (by rw [ok]), fun _ remains => nomatch remains⟩

theorem Selected.of_deferred {polled : Polled R} {cutover : CommandOutput}
    {reason : FinalizationDeferredReason} (marked : (cutoverMarks h).getLast? = some cutover)
    (rest : ∀ rest, polled = .inr rest → rest.AllOps ProcessingOp.OfExecution) :
    Selected h (.ok (deferredOutput cutover reason)) polled where
  output _ ok := .inr ⟨cutover, reason, marked, (Except.ok.inj ok).symm⟩
  rest := rest

theorem Selected.of_error {polled : Polled R} {error : RuntimeExecutionError}
    (rest : ∀ rest, polled = .inr rest → rest.AllOps ProcessingOp.OfExecution) :
    Selected h (.error error) polled :=
  { output := fun _ ok => (nomatch ok), rest }

theorem cutoverMarks_entry {event : Event (Processing R)} (unmarked : cutoverMarks [event] = []) :
    cutoverMarks (h ++ [event]) = cutoverMarks h := by
  rw [cutoverMarks_append, unmarked, List.append_nil]

/-- The deadline branch. -/
theorem wp_deadlineReached {rest : Prog (Processing R) ExecutionOutcome} {executionTimeout : Duration}
    {Q : ExecutionOutcome × Polled R → CommandState → Trace R → Prop}
    (confined : rest.AllOps ProcessingOp.OfExecution)
    (executing : Executing commandId base yields state h)
    (decided : ∀ outcome polled state h, Executing commandId base yields state h →
      Selected h outcome polled → Q (outcome, polled) state h) :
    (CommandProcessor.deadlineReached executionTimeout rest).wp (processingSemantics R) Q anywhere
      state h := by
  refine wp_deploymentCommitted executing fun state₁ event₁ unmarked₁ executing₁ => ?_
  rcases marked : (cutoverMarks h).getLast? with _ | cutover
  · refine wp_cancel executing₁ fun state₂ event₂ unmarked₂ executing₂ => Prog.wp_bind.mpr ?_
    refine Prog.wp_pollUntil_of_allOps (executing_preserves commandId base yields) confined
      executing₂ (fun outcome state₃ h₃ executing₃ => ?_) (fun rest confined state₃ h₃ executing₃ => ?_)
      fun _ _ _ => trivial
    · exact decided _ _ _ _ executing₃ (.of_error fun _ remains => nomatch remains)
    · refine decided _ _ _ _ executing₃ (.of_error fun _ remains => ?_)
      cases remains
      exact confined
  · -- the mark stays behind in the history, whatever is marked during the grace period
    have marked₁ := (congrArg List.getLast? (cutoverMarks_entry (h := h) unmarked₁)).trans marked
    refine Prog.wp_bind.mpr (Prog.wp_pollUntil_of_allOps
      (executing_preserves commandId (h ++ [event₁]) yields) confined executing₁.rebase
      (fun outcome state₂ h₂ executing₂ => ?_) (fun rest confined state₂ h₂ executing₂ => ?_)
      fun _ _ _ => trivial)
    · cases outcome with
      | ok output => exact decided _ _ _ _ (executing₂.since executing₁) (.of_yielded _)
      | error error =>
          obtain ⟨last, marked₂⟩ := executing₂.marked_since marked₁
          refine wp_deferredCommittedOutput (executing₂.since executing₁) marked₂
            fun state₃ event₃ unmarked₃ executing₃ => ?_
          refine decided _ _ _ _ executing₃ (.of_deferred ?_ fun _ remains => nomatch remains)
          rw [cutoverMarks_entry unmarked₃, marked₂]
    · obtain ⟨last, marked₂⟩ := executing₂.marked_since marked₁
      refine wp_cancel (executing₂.since executing₁)
        fun state₃ event₃ unmarked₃ executing₃ => ?_
      have marked₃ := (congrArg List.getLast? (cutoverMarks_entry (h := h₂) unmarked₃)).trans marked₂
      refine wp_deferredCommittedOutput executing₃ marked₃
        fun state₄ event₄ unmarked₄ executing₄ => ?_
      refine decided _ _ _ _ executing₄ (.of_deferred ?_ fun _ remains => ?_)
      · rw [cutoverMarks_entry unmarked₄, marked₃]
      · cases remains
        exact confined

/-- The select, whichever of the execution and its deadline comes first. -/
theorem wp_select {execution : Prog (Processing R) ExecutionOutcome} {executionTimeout : Duration}
    {Q : ExecutionOutcome × Polled R → CommandState → Trace R → Prop}
    (confined : execution.AllOps ProcessingOp.OfExecution)
    (executing : Executing commandId base yields state h)
    (decided : ∀ outcome polled state h, Executing commandId base yields state h →
      Selected h outcome polled → Q (outcome, polled) state h) :
    (CommandProcessor.select executionTimeout execution).wp (processingSemantics R) Q anywhere
      state h :=
  Prog.wp_race_of_allOps (executing_preserves commandId base yields) confined executing
    (fun _ confined _ _ executing => wp_deadlineReached confined executing decided)
    (fun outcome _ _ executing => decided _ _ _ _ executing (.of_yielded outcome))
    fun _ _ _ => trivial

/-- The history goes on from `base`, and one terminal report has been made. -/
structure Reported (commandId : Uuid) (base : Trace R) (yields : List (Option ExecutionOutcome))
    (call : ClientCall) (h : Trace R) : Prop where
  continued : base <+: h
  reported : terminalCalls commandId h = [call]
  polled : stops h = yields

theorem Reported.entry {call : ClientCall} (reported : Reported commandId base yields call h)
    {event : Event (Processing R)} (silent : terminalCalls commandId [event] = [])
    (polled : stops [event] = []) : Reported commandId base yields call (h ++ [event]) where
  continued := reported.continued.trans (List.prefix_append h [event])
  reported := by rw [terminalCalls_append, reported.reported, silent, List.append_nil]
  polled := by rw [stops_append, reported.polled, polled, List.append_nil]

theorem Executing.report {call : ClientCall}
    (executing : Executing commandId base yields state h) {event : Event (Processing R)}
    (reported : terminalCalls commandId [event] = [call]) (polled : stops [event] = []) :
    Reported commandId base yields call (h ++ [event]) where
  continued := executing.continued.trans (List.prefix_append h [event])
  reported := by rw [terminalCalls_append, executing.silent, reported, List.nil_append]
  polled := by rw [stops_append, executing.polled, polled, List.append_nil]

theorem terminalCalls_complete (result : Json) (responses : Responses) :
    terminalCalls commandId
      ([.done (.client (.complete commandId result)) responses] : Trace R) =
        [.complete commandId result] := by
  refine List.filterMap_cons_some ?_
  exact if_pos rfl

theorem terminalCalls_fail (payload : FailCommandPayload) (responses : Responses) :
    terminalCalls commandId ([.done (.client (.fail commandId payload)) responses] : Trace R) =
      [.fail commandId payload] := by
  refine List.filterMap_cons_some ?_
  exact if_pos rfl

variable {processor : CommandProcessor R} {command : AgentCommand}

/-- The terminal report an outcome leads to. -/
def terminalReport (commandId : Uuid) : ExecutionOutcome → ClientCall
  | .ok output => .complete commandId output.result
  | .error error => .fail commandId (FailCommandPayload.of error.code error.message)

/-- The outcome with a cutover taken into account. -/
def preserved (cutover : Option CommandOutput) : ExecutionOutcome → ExecutionOutcome
  | .ok output => .ok output
  | .error error =>
      match cutover with
      | none => .error error
      | some cutover => .ok (deferredOutput cutover .runtimeError)

theorem wp_reportTerminal {outcome : ExecutionOutcome}
    {Q : Except CoreError Unit → CommandState → Trace R → Prop}
    (executing : Executing command.id base yields state h)
    (reported : ∀ result state h,
      Reported command.id base yields (terminalReport command.id outcome) h → Q result state h) :
    Prog.wp (processingSemantics R) Q anywhere (processor.reportTerminal command outcome).run
      state h := by
  cases outcome with
  | ok output =>
      intro state₀ drifts
      refine ⟨fun _ _ _ _ => trivial, fun responses state' step => ?_⟩
      exact reported _ _ _ ((executing.drifts drifts).report (terminalCalls_complete _ responses) rfl)
  | error error =>
      intro state₀ drifts
      refine ⟨fun _ _ _ _ => trivial, fun responses state' step => ?_⟩
      have report := (executing.drifts drifts).report
        (terminalCalls_fail (FailCommandPayload.of error.code error.message) responses) rfl
      change Prog.wp _ _ _ (ExceptT.bindCont _ (processor.client.postTerminal _ responses)) _ _
      cases processor.client.postTerminal .failed responses with
      | ok value => exact reported _ _ _ report
      | error error => exact reported _ _ _ report

theorem wp_preserveCommitted {α : Type} {outcome : ExecutionOutcome}
    {next : ExecutionOutcome → Prog (Processing R) α}
    {Q : α → CommandState → Trace R → Prop}
    (executing : Executing commandId base yields state h)
    (continued : ∀ state' h', Executing commandId base yields state' h' →
      (next (preserved (cutoverMarks h).getLast? outcome)).wp (processingSemantics R) Q anywhere
        state' h') :
    (CommandProcessor.preserveCommitted outcome >>= next).wp (processingSemantics R) Q anywhere
      state h := by
  cases outcome with
  | ok output => exact continued state h executing
  | error error =>
      refine wp_deploymentCommitted executing fun state₁ event₁ unmarked₁ executing₁ => ?_
      rcases marked : (cutoverMarks h).getLast? with _ | cutover
      · rw [marked] at continued
        exact continued _ _ executing₁
      · rw [marked] at continued
        have marked₁ :=
          (congrArg List.getLast? (cutoverMarks_entry (h := h) unmarked₁)).trans marked
        change Prog.wp _ _ _
          (CommandProcessor.deferredCommittedOutput .runtimeError >>= fun output => next (.ok output))
          _ _
        exact wp_deferredCommittedOutput executing₁ marked₁
          fun state₂ event₂ _ executing₂ => continued _ _ executing₂

theorem wp_finish {outcome : ExecutionOutcome}
    {Q : Except CoreError Unit → CommandState → Trace R → Prop}
    (executing : Executing command.id base yields state h)
    (reported : ∀ result state h', Reported command.id base yields
      (terminalReport command.id (preserved (cutoverMarks h).getLast? outcome)) h' →
      Q result state h') :
    (processor.finish command outcome).wp (processingSemantics R) Q anywhere state h := by
  refine wp_preserveCommitted executing fun state₁ h₁ executing₁ => ?_
  intro state₂ drifts
  refine ⟨fun _ _ _ _ => trivial, fun flushed state₃ step => ?_⟩
  obtain rfl : state₃ = state₂ := step
  have executing₂ := executing₁.drifts drifts
  exact wp_reportTerminal (executing₂.entry rfl rfl rfl executing₂.knows) reported

/-- How a command whose execution was started ends: the cutover decides, then what was yielded. -/
structure Settled (commandId : Uuid) (cutover : Option CommandOutput)
    (yielded : Option ExecutionOutcome) (call : ClientCall) : Prop where
  committed : ∀ output, cutover = some output → ∃ result, call = .complete commandId result ∧
    ((∀ own, yielded ≠ some (.ok own)) → ∃ reason, result = (deferredOutput output reason).result)
  uncommitted : cutover = none → (∀ own, yielded ≠ some (.ok own)) →
    ∃ payload, call = .fail commandId payload
  /-- What is completed is what was yielded, or the cutover. -/
  told : ∀ result, call = .complete commandId result →
    (∃ own, yielded = some (.ok own) ∧ result = own.result) ∨
      ∃ output reason, cutover = some output ∧ result = (deferredOutput output reason).result

theorem Selected.settled {outcome : ExecutionOutcome} {polled : Polled R}
    (selected : Selected h outcome polled) :
    Settled commandId (cutoverMarks h).getLast? polled.getLeft?
      (terminalReport commandId (preserved (cutoverMarks h).getLast? outcome)) where
  committed output marked := by
    rw [marked]
    cases outcome with
    | error error => exact ⟨_, rfl, fun _ => ⟨.runtimeError, rfl⟩⟩
    | ok own =>
        refine ⟨own.result, rfl, fun failed => ?_⟩
        rcases selected.output own rfl with yielded | ⟨cutover, reason, last, rfl⟩
        · rw [yielded] at failed
          exact absurd rfl (failed own)
        · obtain rfl := Option.some.inj (marked.symm.trans last)
          exact ⟨reason, rfl⟩
  uncommitted unmarked failed := by
    rw [unmarked]
    cases outcome with
    | error error => exact ⟨_, rfl⟩
    | ok own =>
        rcases selected.output own rfl with yielded | ⟨cutover, reason, last, rfl⟩
        · rw [yielded] at failed
          exact absurd rfl (failed own)
        · rw [unmarked] at last
          cases last
  told result completed := by
    cases outcome with
    | error error =>
        cases last : (cutoverMarks h).getLast? with
        | none =>
            rw [last] at completed
            cases completed
        | some output =>
            rw [last] at completed
            cases completed
            exact .inr ⟨output, .runtimeError, rfl, rfl⟩
    | ok own =>
        cases completed
        rcases selected.output own rfl with yielded | ⟨cutover, reason, last, rfl⟩
        · exact .inl ⟨own, congrArg Sum.getLeft? yielded, rfl⟩
        · exact .inr ⟨cutover, reason, last, rfl⟩

/-- The history of a command whose execution was started, split where it was stopped. -/
structure Concluded (commandId : Uuid) (base before : Trace R) (yielded : Option ExecutionOutcome)
    (after : Trace R) (h : Trace R) : Prop where
  split : h = before ++ .done (.stopped yielded) () :: after
  continued : base <+: before
  polled : stops before = []
  settled : ∃ call, terminalCalls commandId h = [call] ∧
    Settled commandId (cutoverMarks before).getLast? yielded call
  quiet : stops after = []

theorem Reported.concluded {call : ClientCall} {yielded : Option ExecutionOutcome} {h' : Trace R}
    (executing : Executing commandId base [] state h)
    (reported : Reported commandId (h ++ [.done (.stopped yielded) ()]) [yielded] call h')
    (settled : Settled commandId (cutoverMarks h).getLast? yielded call) :
    ∃ after, Concluded commandId base h yielded after h' := by
  obtain ⟨after, rfl⟩ := reported.continued
  refine ⟨after, by simp, executing.continued, executing.polled,
    ⟨call, reported.reported, settled⟩, ?_⟩
  have polled := reported.polled
  rw [stops_append, stops_append, executing.polled] at polled
  exact (List.cons.inj polled).2

theorem wp_execute {executionTimeout : Duration} (executing : Executing command.id base [] state h) :
    (processor.execute command executionTimeout).wp (processingSemantics R)
      (fun _ _ h' => ∃ before yielded after, Concluded command.id base before yielded after h')
      anywhere state h := by
  refine Prog.wp_bind.mpr (wp_select (processor.dispatcher.dispatch_ofExecution command) executing
    fun outcome polled state₁ h₁ executing₁ selected => ?_)
  intro state₂ drifts
  refine ⟨fun _ _ _ _ => trivial, fun stopped state₃ step => ?_⟩
  obtain rfl : state₃ = state₂ := step
  have executing₂ := executing₁.drifts drifts
  have stop : Executing command.id (h₁ ++ [.done (.stopped polled.getLeft?) ()])
      [polled.getLeft?] state₃ (h₁ ++ [.done (.stopped polled.getLeft?) ()]) :=
    { continued := List.prefix_rfl
      silent := by rw [terminalCalls_append, executing₂.silent]; rfl
      polled := by rw [stops_append, executing₂.polled]; rfl
      knows := by rw [cutoverMarks_entry rfl]; exact executing₂.knows }
  change Prog.wp _ _ _ ((processor.finish command outcome).bind _) _ _
  refine Prog.wp_bind.mpr (wp_finish stop fun result state₄ h₄ reported => ?_)
  rw [cutoverMarks_entry rfl] at reported
  have concluded : ∀ h', Reported command.id _ _ _ h' → _ := fun h' reported =>
    Reported.concluded executing₂ reported selected.settled
  cases polled with
  | inl yielded => exact ⟨_, _, concluded _ reported⟩
  | inr rest =>
      have confined := selected.rest rest rfl
      cases rest with
      | call op next =>
          intro state₅ _ outcome state₆ left
          exact ⟨_, _, concluded _ (reported.entry (terminalCalls_entry rfl confined.1) rfl)⟩
      | ret value => exact ⟨_, _, concluded _ reported⟩
      | abandon op next => exact ⟨_, _, concluded _ reported⟩
      | alarm which op fired quiet => exact ⟨_, _, concluded _ reported⟩

end Pieces

/-! ### The runs of `process` -/

section Process

variable {processor : CommandProcessor R} {command : AgentCommand}

/-- The claim and the report of the claimed event. -/
def opening (command : AgentCommand) (claim report : Responses) : Trace R :=
  [.done (.client (.claim command.id)) claim,
    .done (.client (.events command.id [CommandProcessor.claimedEvent])) report]

/-- The four ways `process` can go. -/
inductive Course (processor : CommandProcessor R) (command : AgentCommand) : Trace R → Prop where
  | unclaimed (claim : Responses) (error : CoreError)
      (failed : ApiClient.claimOutcome claim = .error error) :
      Course processor command [.done (.client (.claim command.id)) claim]
  | unreported (claim report : Responses) (error : CoreError)
      (claimed : ApiClient.claimOutcome claim = .ok ())
      (failed : processor.client.report 1 report = .error error) :
      Course processor command (opening command claim report)
  | rejected (claim report responses : Responses) (payload : FailCommandPayload)
      (acknowledgement : ReportAcknowledgement) (error : RuntimeExecutionError)
      (claimed : ApiClient.claimOutcome claim = .ok ())
      (reported : processor.client.report 1 report = .ok acknowledgement)
      (refused : processor.commandPolicy command = .error error) :
      Course processor command
        (opening command claim report ++ [.done (.client (.fail command.id payload)) responses])
  | executed (claim report : Responses) (acknowledgement : ReportAcknowledgement)
      (before : Trace R) (yielded : Option ExecutionOutcome) (after h : Trace R)
      (claimed : ApiClient.claimOutcome claim = .ok ())
      (reported : processor.client.report 1 report = .ok acknowledgement)
      (concluded : Concluded command.id (opening command claim report) before yielded after h) :
      Course processor command h

theorem opening_executing (claim report : Responses) {state : CommandState}
    (knows : state.Knows none) :
    Executing (R := R) command.id (opening command claim report) [] state
      (opening command claim report) :=
  ⟨List.prefix_rfl, rfl, rfl, knows⟩

theorem CommandState.Knows.drifts {state state' : CommandState} {cutover : Option CommandOutput}
    (knows : state.Knows cutover) (drifts : Drifts (processingSemantics R) state state') :
    state'.Knows cutover := by
  refine drifts.keeps (fun state => state.Knows cutover) (fun state state' known drift => ?_) knows
  obtain rfl : state' = { state with cancelled := true } := drift
  exact ⟨known.flag, known.stored⟩

/-- A call of the client, before the reporter of the command exists. -/
theorem wp_call {ε α : Type} {call : ClientCall} {answer : Responses → Except ε α}
    {Q : Except ε α → CommandState → Trace R → Prop} {state : CommandState}
    {cutover : Option CommandOutput} {h : Trace R} (knows : state.Knows cutover)
    (answered : ∀ state' responses, state'.Knows cutover →
      Q (answer responses) state' (h ++ [.done (.client call) responses])) :
    Prog.wp (processingSemantics R) Q anywhere
      (Fallible.perform (I := Processing R) (.client call) >>= fun responses =>
        Fallible.ofExcept (answer responses)).run state h := by
  refine Fallible.wp_perform.mpr fun state₁ drifts =>
    ⟨fun _ _ _ _ => trivial, fun responses state₂ step => ?_⟩
  obtain rfl : state₂ = state₁ := step
  exact answered state₂ responses (knows.drifts drifts)

theorem wp_process {state : CommandState} (knows : state.Knows none) :
    Prog.wp (processingSemantics R) (fun _ _ h => Course processor command h) anywhere
      (processor.process command).run state [] := by
  refine Fallible.wp_attempt.mpr (wp_call knows fun state₁ claim knows₁ => ?_)
  cases claimed : ApiClient.claimOutcome claim with
  | error error =>
      have unclaimed : Course processor command [.done (.client (.claim command.id)) claim] :=
        .unclaimed claim error claimed
      cases error <;> exact unclaimed
  | ok value =>
      refine Fallible.wp_bind.mpr (wp_call knows₁ fun state₂ report knows₂ => ?_)
      cases reported : processor.client.report 1 report with
      | error error => exact .unreported claim report error claimed reported
      | ok acknowledgement =>
          cases policy : processor.commandPolicy command with
          | error error =>
              refine Fallible.wp_bind.mpr (wp_call knows₂ fun state₃ responses _ => ?_)
              have rejected : Course processor command (opening command claim report ++ _) :=
                .rejected claim report responses (.of error.code error.message) acknowledgement error
                  claimed reported policy
              cases processor.client.postTerminal .failed responses <;> exact rejected
          | ok accepted =>
              refine Prog.wp_mono (wp_execute (opening_executing claim report knows₂))
                (fun _ _ h concluded => ?_) fun _ _ _ => trivial
              obtain ⟨before, yielded, after, concluded⟩ := concluded
              exact .executed claim report acknowledgement before yielded after h claimed reported
                concluded

theorem process_course {cancelled : Bool} {result : Except CoreError Unit} {state : CommandState}
    {h : Trace R} (run : Exec (processingSemantics R) (processor.process command).run
      { cancelled := cancelled } [] result state h) : Course processor command h := by
  exact Prog.wp_sound (fun _ _ h => Course processor command h) run (wp_process ⟨rfl, rfl⟩)

/-! ### Committed deployments -/

/-- A terminal result that carries a cutover: its fields, or the result itself if it has none, and
that and why the finalization is left to the control plane. -/
structure CarriesCutover (cutover result : Json) : Prop where
  kept : match cutover with
    | .object fields => ∀ key, key ≠ "finalization_deferred" →
        key ≠ "finalization_deferred_reason" → result.get key = Json.Fields.get fields key
    | committedResult => result.get "committed_result" = some committedResult
  isDeferred : result.get "finalization_deferred" = some (.bool true)
  reason : ∃ reason : FinalizationDeferredReason,
    result.get "finalization_deferred_reason" = some reason.toJson

theorem ofEntries_committedResult (committedResult reason : Json) :
    let result := Json.ofEntries [("committed_result", committedResult),
      ("finalization_deferred", .bool true), ("finalization_deferred_reason", reason)]
    result.get "committed_result" = some committedResult ∧
      result.get "finalization_deferred" = some (.bool true) ∧
      result.get "finalization_deferred_reason" = some reason := by
  simp [Json.ofEntries, Json.get, Json.Fields.get_insert_of_ne]

theorem deferredOutput_carries (cutover : CommandOutput) (reason : FinalizationDeferredReason) :
    CarriesCutover cutover.result (deferredOutput cutover reason).result := by
  obtain ⟨result⟩ := cutover
  cases result with
  | object fields =>
      refine ⟨fun key ne₁ ne₂ => ?_, ?_, reason, Json.Fields.get_insert_self _ _ _⟩
      · exact (Json.Fields.get_insert_of_ne _ _ ne₂).trans (Json.Fields.get_insert_of_ne _ _ ne₁)
      · exact (Json.Fields.get_insert_of_ne _ _ (by decide)).trans
          (Json.Fields.get_insert_self _ _ _)
  | _ =>
      obtain ⟨kept, isDeferred, why⟩ := ofEntries_committedResult _ reason.toJson
      exact ⟨kept, isDeferred, reason, why⟩

/-- There is one place at which the execution is stopped. -/
theorem Concluded.unique {commandId : Uuid} {base before before' after after' h : Trace R}
    {yielded yielded' : Option ExecutionOutcome}
    (concluded : Concluded commandId base before yielded after h)
    (split : h = before' ++ .done (.stopped yielded') () :: after') :
    before' = before ∧ yielded' = yielded := by
  rw [concluded.split] at split
  rcases List.append_eq_append_iff.mp split with ⟨gap, front, back⟩ | ⟨gap, front, back⟩
  · cases gap with
    | nil =>
        obtain ⟨same, -⟩ := List.cons.inj back
        cases same
        exact ⟨by simpa using front, rfl⟩
    | cons event gap =>
        obtain ⟨-, rfl⟩ := List.cons.inj back
        have quiet : stops (gap ++ _ :: after') = [] := concluded.quiet
        rw [stops_append] at quiet
        cases (List.append_eq_nil_iff.mp quiet).2
  · cases gap with
    | nil =>
        obtain ⟨same, -⟩ := List.cons.inj back
        cases same
        exact ⟨by simpa using front.symm, rfl⟩
    | cons event gap =>
        obtain ⟨rfl, -⟩ := List.cons.inj back
        have polled := concluded.polled
        rw [front, stops_append] at polled
        cases (List.append_eq_nil_iff.mp polled).2

/-- An execution that is started is polled for the last time before `process` returns. -/
theorem execution_stops {cancelled : Bool} {result : Except CoreError Unit} {state : CommandState}
    {h : Trace R} {event : Event (Processing R)} {op : R.Op}
    (run : Exec (processingSemantics R) (processor.process command).run
      { cancelled := cancelled } [] result state h)
    (started : event ∈ h) (asked : event.asked = some (.runtime op)) :
    ∃ before yielded after, h = before ++ .done (.stopped yielded) () :: after := by
  cases process_course run with
  | unclaimed =>
      obtain rfl := List.mem_singleton.mp started
      cases asked
  | unreported =>
      rcases List.mem_pair.mp started with rfl | rfl <;> cases asked
  | rejected =>
      rcases List.mem_append.mp started with opened | rejected
      · rcases List.mem_pair.mp opened with rfl | rfl <;> cases asked
      · obtain rfl := List.mem_singleton.mp rejected
        cases asked
  | executed claim report acknowledgement before yielded after h claimed reported concluded =>
      exact ⟨before, yielded, after, concluded.split⟩

/-- A deployment that is committed when its execution is polled for the last time is completed, with
its cutover where the execution has not succeeded; otherwise an execution that has not succeeded is
failed. -/
theorem committed_completes {cancelled : Bool} {result : Except CoreError Unit}
    {state : CommandState} {h before after : Trace R} {yielded : Option ExecutionOutcome}
    (run : Exec (processingSemantics R) (processor.process command).run
      { cancelled := cancelled } [] result state h)
    (stopped : h = before ++ .done (.stopped yielded) () :: after) :
    (∀ output, (cutoverMarks before).getLast? = some output →
      ∃ result, terminalCalls command.id h = [.complete command.id result] ∧
        ((∀ own, yielded ≠ some (.ok own)) → CarriesCutover output.result result)) ∧
    (cutoverMarks before = [] → (∀ own, yielded ≠ some (.ok own)) →
      ∃ payload, terminalCalls command.id h = [.fail command.id payload]) := by
  have stops_h : stops h ≠ [] := by
    rw [stopped, stops_append]
    exact List.append_ne_nil_of_right_ne_nil _ (List.cons_ne_nil _ _)
  cases process_course run with
  | unclaimed => exact absurd rfl stops_h
  | unreported => exact absurd rfl stops_h
  | rejected => exact absurd rfl stops_h
  | executed claim report acknowledgement before₁ yielded₁ after₁ h claimed reported concluded =>
      obtain ⟨rfl, rfl⟩ := concluded.unique stopped
      obtain ⟨call, terminal, settled⟩ := concluded.settled
      refine ⟨fun output marked => ?_, fun unmarked failed => ?_⟩
      · obtain ⟨result, rfl, carried⟩ := settled.committed output marked
        refine ⟨result, terminal, fun failed => ?_⟩
        obtain ⟨reason, rfl⟩ := carried failed
        exact deferredOutput_carries output reason
      · obtain ⟨payload, rfl⟩ := settled.uncommitted (by rw [unmarked]; rfl) failed
        exact ⟨payload, terminal⟩

end Process

/-! A deployment that fails behind its cutover: nothing of it suspends but the calls of the client. -/

namespace CommittedThenFailed

def noRuntime : Interface where
  Op := Empty
  Res := Empty.elim
  suspends := Empty.elim
  Alarm := Empty

def unsupported {α : Type} : RuntimeFuture noRuntime α where
  run := throw (.unsupportedCommand "runtime does not support this command")
  confined := trivial

def runtime : RuntimeExecutor noRuntime where
  preflight := unsupported
  capacity := unsupported
  inspectProject _ := unsupported
  deployProject _ :=
    { run := do
        let _ ← Fallible.perform (I := Processing noRuntime)
          (.markDeploymentCommitted { result := .object [("state", .string "live")] })
        throw ⟨"cleanup_failed", "old container could not be removed"⟩
      confined := ⟨trivial, fun _ => trivial⟩ }
  restartProject _ := unsupported
  stopProject _ := unsupported
  sleepProject _ := unsupported
  wakeProject _ := unsupported
  healthCheck _ := unsupported
  refreshRoute _ := unsupported
  reconcileWorkload _ := unsupported
  cleanupRuntime _ := unsupported

def payload : DeployProjectPayload where
  repositoryUrl := "https://example.test/app.git"
  commitSha := "0123456789abcdef0123456789abcdef01234567"
  repositoryAccess := .publicAccess
  domain := "app.example.test"
  containerPort := 8080
  builder := .auto
  environment := []
  resources := {}
  timeouts := {}
  logBounds := {}

def client : ApiClient where
  maxAttempts := 3
  decoder :=
    { acknowledgement := fun _ => .ok { acceptedCount := 1 }
      terminalConflict := fun _ => .error "no conflict"
      conflict := fun _ => .error "no conflict"
      rejection := fun _ => .ok (some "log budget exhausted")
      credentialLease := fun _ => .error "no lease"
      errorText := fun _ => "error" }

def processor : CommandProcessor noRuntime where
  dispatcher :=
    { client := client
      payloads :=
        { deploy := fun _ => .ok payload
          inspect := fun _ => .error "no inspection"
          reconcileWorkload := fun _ => .error "no reconciliation"
          cleanupRuntime := fun _ => .error "no cleanup" }
      runtime := runtime
      reporterFactory := true }
  commandTimeout := Duration.fromSecs 900

def command : AgentCommand where
  id := Uuid.ofNat 1
  commandType := .deployProject
  status := .pending
  projectId := some (Uuid.ofNat 2)
  deploymentId := some (Uuid.ofNat 3)
  payload := .null

/-- The same response to every attempt. -/
def answered (status : Nat) : Responses :=
  fun _ => .ok { status, body := .ok "" }

def cutover : CommandOutput where
  result := .object [("state", .string "live")]

def failure : ExecutionOutcome :=
  .error ⟨"cleanup_failed", "old container could not be removed"⟩

def beforeStop : Trace noRuntime :=
  opening command (answered 200) (answered 200) ++ [.done (.markDeploymentCommitted cutover) ()]

def afterStop : Trace noRuntime :=
  [.done .deploymentCommitted true, .done .committedOutput (some cutover), .done .flush (.ok ()),
    .done (.client (.complete command.id (deferredOutput cutover .runtimeError).result))
      (answered 200)]

theorem run : Exec (processingSemantics noRuntime) (processor.process command).run
    { cancelled := false } [] (.ok ())
    { committed := some cutover, deploymentCommitted := true, cancelled := false }
    (beforeStop ++ .done (.stopped (some failure)) () :: afterStop) := by
  refine .call (.refl _) (answered 200) rfl ?_
  refine .call (.refl _) (answered 200) rfl ?_
  refine .call (.refl _) () rfl ?_
  refine .call (.refl _) () rfl ?_
  refine .call (.refl _) true ⟨rfl, rfl⟩ ?_
  refine .call (.refl _) (some cutover) ⟨rfl, rfl⟩ ?_
  refine .call (.refl _) (.ok ()) rfl ?_
  refine .call (.refl _) (answered 200) rfl ?_
  exact .ret _ _ _

end CommittedThenFailed

theorem committed_completes_deferred : ∃ result,
    terminalCalls CommittedThenFailed.command.id (CommittedThenFailed.beforeStop ++
      .done (.stopped (some CommittedThenFailed.failure)) () :: CommittedThenFailed.afterStop) =
        [.complete CommittedThenFailed.command.id result] ∧
      CarriesCutover CommittedThenFailed.cutover.result result := by
  obtain ⟨result, terminal, carried⟩ :=
    (committed_completes CommittedThenFailed.run rfl).1 CommittedThenFailed.cutover rfl
  exact ⟨result, terminal, carried fun own yielded => nomatch yielded⟩

section Process

variable {processor : CommandProcessor R} {command : AgentCommand}

/-! ### Every claimed command gets a terminal report -/

/-- The report of the claimed event was acknowledged. -/
def ClaimedEventAcknowledged (client : ApiClient) (commandId : Uuid) (h : Trace R) : Prop :=
  ∃ claim report rest acknowledgement, h = .done (.client (.claim commandId)) claim ::
    .done (.client (.events commandId [CommandProcessor.claimedEvent])) report :: rest ∧
    client.report 1 report = .ok acknowledgement

/-- What is asked of a finished `process`: one terminal report if the claim succeeded, otherwise
none, and no execution. -/
def DrivenToReport (commandId : Uuid) (h : Trace R) : Prop :=
  (ClaimSucceeded commandId h → ∃ call, terminalCalls commandId h = [call]) ∧
    (¬ClaimSucceeded commandId h → terminalCalls commandId h = [] ∧ ¬ExecutionStarted h)

theorem not_claimSucceeded {claim : Responses} {error : CoreError} {rest : Trace R}
    (failed : ApiClient.claimOutcome claim = .error error) :
    ¬ClaimSucceeded command.id (.done (.client (.claim command.id)) claim :: rest) := by
  rintro ⟨responses, others, split, claimed⟩
  obtain ⟨same, -⟩ := List.cons.inj split
  cases same
  rw [failed] at claimed
  cases claimed

theorem DrivenToReport.of_call {call : ClientCall} {h : Trace R}
    (claimed : ClaimSucceeded command.id h) (terminal : terminalCalls command.id h = [call]) :
    DrivenToReport command.id h :=
  ⟨fun _ => ⟨call, terminal⟩, fun unclaimed => absurd claimed unclaimed⟩

theorem terminal_report_exact {cancelled : Bool} {result : Except CoreError Unit}
    {state : CommandState} {h : Trace R}
    (run : Exec (processingSemantics R) (processor.process command).run
      { cancelled := cancelled } [] result state h) :
    DrivenToReport command.id h ↔
      ¬ClaimSucceeded command.id h ∨ ClaimedEventAcknowledged processor.client command.id h := by
  cases process_course run with
  | unclaimed claim error failed =>
      have unclaimed : ¬ClaimSucceeded command.id
          ([.done (.client (.claim command.id)) claim] : Trace R) := not_claimSucceeded failed
      refine ⟨fun _ => .inl unclaimed, fun _ => ⟨fun claimed => absurd claimed unclaimed, fun _ => ⟨rfl, ?_⟩⟩⟩
      rintro ⟨event, member, op, asked, confined | ⟨yielded, rfl⟩⟩
      · obtain rfl := List.mem_singleton.mp member
        cases asked
        exact confined
      · obtain rfl := List.mem_singleton.mp member
        cases asked
  | unreported claim report error claimed failed =>
      have succeeded : ClaimSucceeded command.id (opening (R := R) command claim report) :=
        ⟨claim, _, rfl, claimed⟩
      refine ⟨fun driven => ?_, fun condition => ?_⟩
      · obtain ⟨call, terminal⟩ := driven.1 succeeded
        cases terminal
      · rcases condition with unclaimed | ⟨claim', report', rest, acknowledgement, split, reported⟩
        · exact absurd succeeded unclaimed
        · cases split
          rw [failed] at reported
          cases reported
  | rejected claim report responses payload acknowledgement error claimed reported refused =>
      exact iff_of_true (.of_call ⟨claim, _, rfl, claimed⟩ (terminalCalls_fail payload responses))
        (.inr ⟨claim, report, _, acknowledgement, rfl, reported⟩)
  | executed claim report acknowledgement before yielded after h claimed reported concluded =>
      obtain ⟨call, terminal, -⟩ := concluded.settled
      obtain ⟨rest, rfl⟩ := concluded.continued
      obtain rfl := concluded.split
      exact iff_of_true (.of_call ⟨claim, _, rfl, claimed⟩ terminal)
        (.inr ⟨claim, report, _, acknowledgement, rfl, reported⟩)

theorem terminal_report_exact_deferred : DrivenToReport CommittedThenFailed.command.id
    (CommittedThenFailed.beforeStop ++
      .done (.stopped (some CommittedThenFailed.failure)) () :: CommittedThenFailed.afterStop) :=
  (terminal_report_exact CommittedThenFailed.run).mpr
    (.inr ⟨CommittedThenFailed.answered 200, CommittedThenFailed.answered 200, _, _, rfl, rfl⟩)

/-- The claim is acknowledged, the report of the claimed event is rejected, and `process` returns. -/
theorem claimed_without_report : ∃ result state h,
    Exec (processingSemantics CommittedThenFailed.noRuntime)
      (CommittedThenFailed.processor.process CommittedThenFailed.command).run
      { cancelled := false } [] result state h ∧
    ClaimSucceeded CommittedThenFailed.command.id h ∧
    terminalCalls CommittedThenFailed.command.id h = [] := by
  refine ⟨.error (.reportRejected 422 "log budget exhausted"), { cancelled := false },
    opening CommittedThenFailed.command (CommittedThenFailed.answered 200)
      (CommittedThenFailed.answered 422), ?_, ⟨_, _, rfl, rfl⟩, rfl⟩
  refine .call (.refl _) (CommittedThenFailed.answered 200) rfl ?_
  refine .call (.refl _) (CommittedThenFailed.answered 422) rfl ?_
  exact .ret _ _ _

end Process

end SakalaAgent
