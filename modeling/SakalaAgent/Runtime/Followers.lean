/-
Module: SakalaAgent.Runtime.Followers
Layer: Runtime
Purpose: The log followers of an executor over its whole life: the register of the container engine,
  the tasks it spawns, and the calls that start them. A deployment names its container, a recovery
  and a restart take the id that `docker ps` printed.
Trusted boundary: Docker gives a new container an id no follower has met; a container keeps its id
  and its name. The application joins its workers before it shuts the executor down.
Main exports: Followers, Followers.startLogFollower, Followers.step
-/
import SakalaAgent.Runtime.Containers

namespace SakalaAgent

abbrev FollowerTask : Type := Nat

/-- How far a follower task is: `docker logs --follow` finds its container when it starts. -/
inductive FollowerProgress where
  | spawned
  | following (containerId : Text)
  | finished
deriving DecidableEq

/-- A follower task and the text it was started with. -/
structure Follower where
  task : FollowerTask
  reference : Text
  progress : FollowerProgress
deriving DecidableEq

/-- The follower state of an executor, the containers of its node, and the workloads its commands
have looked up. -/
structure Followers where
  docker : DockerState
  found : List ManagedWorkload
  /-- `log_followers`: the handles of the tasks by the text they were started with. -/
  register : List (Text × FollowerTask)
  tasks : List Follower
  nextTask : FollowerTask
  isShutDown : Bool

inductive FollowersAction where
  | create (container : Container)
  | remove (containerId : Text)
  | setStatus (containerId status : Text)
  /-- A recovery or a reconciliation looks a workload up. -/
  | lookUp (projectId deploymentId : Uuid)
  /-- A deployment reaches its finalization. -/
  | finalize (projectId deploymentId : Uuid)
  | recover (workload : ManagedWorkload)
  | restartLogFollower (workload : ManagedWorkload)
  /-- The process of a follower finds its container, or none. -/
  | attach (task : FollowerTask)
  | finish (task : FollowerTask)
  | shutdown

/-- A text names a container: by its name, by its id, or by a beginning of its id. -/
def Names (reference : Text) (container : Container) : Prop :=
  container.name = reference ∨ container.id = reference ∨
    (reference ≠ [] ∧ Text.startsWith container.id reference = true)

instance (reference : Text) (container : Container) : Decidable (Names reference container) :=
  inferInstanceAs (Decidable (_ ∨ _ ∨ _))

namespace Followers

/-- An executor that has started no follower yet. -/
def new (docker : DockerState) : Followers where
  docker := docker
  found := []
  register := []
  tasks := []
  nextTask := 0
  isShutDown := false

/-- The task a handle belongs to has ended. -/
def isFinished (s : Followers) (task : FollowerTask) : Bool :=
  s.tasks.all fun follower => follower.task ≠ task || follower.progress = .finished

/-- `start_log_follower`: finished followers leave the register, and a text that is still there
starts nothing. -/
def startLogFollower (s : Followers) (reference : Text) : Bool × Followers :=
  let register := s.register.filter fun entry => !s.isFinished entry.2
  if register.any fun entry => entry.1 = reference then (false, { s with register })
  else
    (true, { s with
      register := (reference, s.nextTask) :: register
      tasks := ⟨s.nextTask, reference, .spawned⟩ :: s.tasks
      nextTask := s.nextTask + 1 })

/-- The progress of one task changes. -/
def setProgress (s : Followers) (task : FollowerTask) (progress : FollowerProgress) : Followers :=
  { s with
    tasks := s.tasks.map fun follower =>
      if follower.task = task then { follower with progress } else follower }

/-- The id of a new container: no task was started with a beginning of it or is on it. -/
def isFreshId (s : Followers) (id : Text) : Bool :=
  s.tasks.all fun follower =>
    follower.reference ≠ id && follower.progress ≠ .following id &&
      (follower.reference.isEmpty || !Text.startsWith id follower.reference)

/-- What `workload` of the container engine returns when its listing succeeds. -/
def workload (docker : DockerState) (projectId deploymentId : Uuid) :
    Except RuntimeError (Option ManagedWorkload) :=
  parseWorkload
    (captured (docker.psLines true false (workloadFilters projectId deploymentId) workloadColumns))
    projectId deploymentId

/-- A recovery, and the action of a reconciliation, start a follower for a workload that is up and
whose deployment command is known. -/
def startForWorkload (s : Followers) (workload : ManagedWorkload) : Option Followers :=
  if workload ∈ s.found ∧ isUpStatus workload.status ∧ workload.commandId.isSome then
    some (s.startLogFollower workload.containerId).2
  else none

def step (s : Followers) : FollowersAction → Option Followers
  | .create container =>
      if fresh : container.id ∉ s.docker.containers.map Container.id ∧
          container.name ∉ s.docker.containers.map Container.name then
        if s.isFreshId container.id then
          some { s with docker := s.docker.add container fresh.1 fresh.2 }
        else none
      else none
  | .remove containerId => some { s with docker := s.docker.remove containerId }
  | .setStatus containerId status =>
      if plain : Plain status then
        some { s with docker := s.docker.setStatus containerId status plain }
      else none
  | .lookUp projectId deploymentId =>
      match workload s.docker projectId deploymentId with
      | .ok (some workload) => some { s with found := workload :: s.found }
      | _ => some s
  | .finalize projectId deploymentId =>
      if s.isShutDown then none
      else some (s.startLogFollower (containerName projectId deploymentId)).2
  | .recover workload => if s.isShutDown then none else s.startForWorkload workload
  | .restartLogFollower workload => if s.isShutDown then none else s.startForWorkload workload
  | .attach task =>
      match s.tasks.find? fun follower => follower.task = task with
      | some ⟨_, reference, .spawned⟩ =>
          match s.docker.resolve reference with
          | some container => some (s.setProgress task (.following container.id))
          | none => some (s.setProgress task .finished)
      | _ => none
  | .finish task => some (s.setProgress task .finished)
  | .shutdown => some { s with register := [], isShutDown := true }

end Followers

end SakalaAgent
