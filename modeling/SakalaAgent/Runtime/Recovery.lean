/-
Module: SakalaAgent.Runtime.Recovery
Layer: Runtime
Purpose: The start of an executor: the scan of what an earlier one has left on the node, and the
  recovery of the workloads that are found. A workload whose deployment command is known is followed
  again; one that this agent cannot read is reported.
Trusted boundary: the inspection of stale images, which compares dates that Docker prints with the
  clock, is a parameter.
Main exports: StartupReport, DockerRuntimeExecutor.reconcile, DockerRuntimeExecutor.recover
-/
import SakalaAgent.Runtime.Executor

namespace SakalaAgent

open Async

structure RuntimeStaleImage where
  imageId : Text
  projectId : Option Uuid
  deploymentId : Option Uuid

structure RuntimeCompatibilityIssue where
  containerId : Text
  projectId : Uuid
  deploymentId : Uuid
  reason : String

/-- `RuntimeReconciliationReport` with the fields that only the start of an executor fills. -/
structure StartupReport extends RuntimeReconciliationReport where
  staleRoutes : List RuntimeStaleRoute := []
  staleImages : List RuntimeStaleImage := []
  cleanedWorkspaces : Nat := 0
  recoveredExecutionRecords : Nat := 0
  reattachedLogFollowers : Nat := 0
  compatibilityIssues : List RuntimeCompatibilityIssue := []

/-- A workload that was found is reported. -/
def StartupReport.addIssue (report : StartupReport) (discovered : RuntimeWorkload)
    (reason : String) : StartupReport :=
  { report with
    compatibilityIssues := report.compatibilityIssues ++
      [{ containerId := discovered.containerId
         projectId := discovered.projectId
         deploymentId := discovered.deploymentId
         reason }] }

/-- A workload of which the record is taken over. -/
def StartupReport.addRecord (report : StartupReport) : StartupReport :=
  { report with recoveredExecutionRecords := report.recoveredExecutionRecords + 1 }

def StartupReport.addFollower (report : StartupReport) : StartupReport :=
  { report with reattachedLogFollowers := report.reattachedLogFollowers + 1 }

namespace DockerRuntimeExecutor

def reconcile (executor : DockerRuntimeExecutor)
    (detectStaleImages : RuntimeM (List RuntimeStaleImage)) : RuntimeM StartupReport := do
  let report ← ContainerEngine.detectOrphans
  let staleRoutes ← executor.routes.discoverStaleRoutes (routableRoutes report)
  let staleImages ← detectStaleImages
  let cleanedWorkspaces ← WorkspaceManager.cleanupStale executor.workspaceGcMaxAge
  return { report with staleRoutes, staleImages, cleanedWorkspaces }

/-- What becomes of a workload with its labels. -/
def recoverRecord (reporterFactory : Bool) (report : StartupReport) (workload : ManagedWorkload) :
    RuntimeM StartupReport :=
  if isUpStatus workload.status && reporterFactory then do
    let started ← ContainerEngine.startLogFollower workload.containerId
    return if started then report.addFollower else report
  else return report

/-- One turn of the loop over the workloads that were found. -/
def recoverWorkload (reporterFactory : Bool) (report : StartupReport)
    (discovered : RuntimeWorkload) : RuntimeM StartupReport := do
  let found : Except RuntimeError (Option ManagedWorkload) ← Fallible.attempt
    (ContainerEngine.workload discovered.projectId discovered.deploymentId)
  match found with
  | .ok none => return report
  | .error error =>
      return report.addIssue discovered
        s!"managed workload metadata is incompatible with this Agent: {error.message}; redeploy is required"
  | .ok (some workload) =>
      match workload.commandId with
      | none =>
          return report.addIssue discovered
            "managed workload predates recovery command-id labels; redeploy is required"
      | some _ => recoverRecord reporterFactory report.addRecord workload

def recoverWorkloads (reporterFactory : Bool) :
    List RuntimeWorkload → StartupReport → RuntimeM StartupReport
  | [], report => return report
  | discovered :: rest, report => do
      let report ← recoverWorkload reporterFactory report discovered
      recoverWorkloads reporterFactory rest report

def recover (executor : DockerRuntimeExecutor)
    (detectStaleImages : RuntimeM (List RuntimeStaleImage)) (reporterFactory : Bool) :
    RuntimeM StartupReport := do
  let report ← executor.reconcile detectStaleImages
  recoverWorkloads reporterFactory report.workloads report

end DockerRuntimeExecutor

end SakalaAgent
