/-
Module: SakalaAgent.Runtime.Config
Layer: Runtime
Purpose: The settings of the Docker runtime with their defaults, and the executor they set up. Ages
  and intervals are in seconds.
Trusted boundary: as for the executor.
Main exports: DockerRuntimeConfig, DockerRuntimeExecutor.withRunner
-/
import SakalaAgent.Runtime.Executor

namespace SakalaAgent

structure DockerRuntimeConfig where
  agentId : String := "local-agent-01"
  workspaceRoot : String := "/var/lib/sakala/builds"
  workspaceGcMaxAge : Nat := 86400
  imageGcMaxAge : Nat := 604800
  minWorkspaceFreeBytes : UInt64 := 1024 * 1024 * 1024
  runtimeNetwork : String := "sakala-runtime"
  caddySitesDir : String := "/var/lib/sakala/caddy/sites"
  caddyContainer : String := "sakala-caddy"
  railpackFrontend : String := "ghcr.io/railwayapp/railpack-frontend:v0.23.0"
  resourceSafety : ResourceSafetyConfig := {}
  timeoutSafety : TimeoutSafetyConfig := {}
  maxConcurrentBuilds : Nat := 1
  maxActiveContainers : UInt32 := 20
  healthAttempts : UInt32 := 10
  healthInterval : Nat := 1

def DockerRuntimeExecutor.withRunner (parsers : Parsers)
    (parseReclaimedBytes : Text → Option Nat) (config : DockerRuntimeConfig) :
    DockerRuntimeExecutor where
  parsers := parsers
  workspace := { root := config.workspaceRoot.toList }
  builder :=
    { workspaces := { root := config.workspaceRoot.toList }
      railpackFrontend := config.railpackFrontend }
  containers :=
    { runtimeNetwork := config.runtimeNetwork.toList
      maxActiveContainers := config.maxActiveContainers
      agentId := config.agentId.toList
      parseReclaimedBytes := parseReclaimedBytes }
  resourceSafety := config.resourceSafety
  health := { attempts := config.healthAttempts, printDebug := parsers.printDebug }
  routes := { sitesDir := config.caddySitesDir, container := config.caddyContainer.toList }
  timeoutSafety := config.timeoutSafety
  workspaceGcMaxAge := config.workspaceGcMaxAge
  imageGcMaxAge := config.imageGcMaxAge
  minWorkspaceFreeBytes := config.minWorkspaceFreeBytes

end SakalaAgent
