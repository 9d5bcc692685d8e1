/-
Module: SakalaAgent.Runtime.TimedNode
Layer: Runtime
Purpose: The node with a clock. The directory of a workspace has a modification time, the last time at
  which something directly in it was created or removed, and its age is read off the clock.
Trusted boundary: the clock does not go back, and stands still while an operation is carried out; a
  process may have changed a directory at any time up to its end.
Main exports: TimedNode, TimedNode.semantics, TimedNode.script, TimedNode.sound, TimedNode.passed
-/
import SakalaAgent.Core.Commands.Processor
import SakalaAgent.Runtime.NodeScript

namespace SakalaAgent

open Async

/-! ### Modification times -/

/-- The workspace whose modification time the path counts for: it lies directly in its directory, or
is the directory. -/
def FilePath.countsFor : FilePath → Option Text
  | .workspace name => some name
  | .within name relative => if '/' ∈ relative then none else some name
  | _ => none

/-- Something that counts for a workspace has been created or removed. -/
def Files.Changed (files files' : Files) (name : Text) : Prop :=
  ∃ path : FilePath, path.countsFor = some name ∧ (files' path).isSome ≠ (files path).isSome

theorem Files.not_changed_self (files : Files) (name : Text) : ¬files.Changed files name :=
  fun ⟨_, _, different⟩ => different rfl

/-- A node with a clock, and the modification times of the workspaces by their names. -/
structure TimedNode where
  node : Node
  clock : Duration
  modified : Text → Duration
  past : ∀ name, modified name ≤ clock

namespace TimedNode

/-- How old a workspace is. -/
def age (world : TimedNode) (name : Text) : Duration :=
  world.clock - world.modified name

/-- What an operation makes of the modification times. -/
def Stamped (world : TimedNode) (op : RuntimeOp) (world' : TimedNode) : Prop :=
  match op with
  | .process _ => ∀ name, world.modified name ≤ world'.modified name
  | _ => ∀ name,
      (world.node.files.Changed world'.node.files name → world'.modified name = world.clock) ∧
        (¬world.node.files.Changed world'.node.files name →
          world'.modified name = world.modified name)

/-- An age is told in whole seconds. The clock may have been read some time before. -/
def Tells (world : TimedNode) : (op : RuntimeOp) → op.Res → Prop
  | .file (.age (.workspace name)), .ok age =>
      ∃ now, now ≤ world.clock ∧ age = Duration.asSecs (now - world.modified name)
  | _, _ => True

/-- An age that is told was reached. -/
theorem Tells.le_age {world : TimedNode} {name : Text} {age : Nat}
    (told : world.Tells (.file (.age (.workspace name))) (.ok age)) :
    age ≤ Duration.asSecs (world.age name) := by
  obtain ⟨now, before, rfl⟩ := told
  exact Nat.div_le_div_right (Nat.sub_le_sub_right before _)

def step (thread : ThreadId) (world : TimedNode) (op : RuntimeOp) (res : op.Res)
    (world' : TimedNode) : Prop :=
  world.node.step thread op res world'.node ∧ world.Tells op res ∧ world.Stamped op world' ∧
    world'.clock = world.clock

def leave (world : TimedNode) (op : RuntimeOp) (outcome : Option op.Res) (world' : TimedNode) :
    Prop :=
  world.node.leave op outcome world'.node ∧ world.Stamped op world' ∧ world'.clock = world.clock

/-- Time passes. -/
def Waits (world world' : TimedNode) : Prop :=
  world'.node = world.node ∧ world'.modified = world.modified ∧ world.clock ≤ world'.clock

/-- A process in flight has come as far as it comes. -/
def Lands (world world' : TimedNode) : Prop :=
  world.node.Lands world'.node ∧ (∀ name, world.modified name ≤ world'.modified name) ∧
    world'.clock = world.clock

def semantics (thread : ThreadId) : Semantics Runtime TimedNode where
  step := step thread
  leave := leave
  drift world world' := world.Waits world' ∨ world.Lands world'

end TimedNode

/-! ### A timed node that works -/

namespace TimedNode

/-- So much time has passed. -/
def passed (span : Duration) (world : TimedNode) : TimedNode :=
  { world with
    clock := world.clock + span
    past := fun name => Nat.le_add_right_of_le (world.past name) }

theorem waits_passed (span : Duration) (world : TimedNode) : world.Waits (world.passed span) :=
  ⟨rfl, rfl, Nat.le_add_right ..⟩

/-- The path has been created or removed. -/
def changed (world : TimedNode) (path : FilePath) (files : Files) : TimedNode :=
  { world with
    node := { world.node with files }
    modified := fun name =>
      if path.countsFor = some name then world.clock else world.modified name
    past := fun name => by
      split
      · exact Nat.le_refl _
      · exact world.past name }

/-- The operation leaves all files as they are. -/
def isRead : FsOp → Bool
  | .tryExists _ => true
  | .setPermissions _ _ => true
  | .read _ => true
  | .readDir _ => true
  | _ => false

/-- One operation on files that is carried out, if it is one of those a checkout or a cleanup of
workspaces begins with. -/
def answerFile (script : NodeScript) (world : TimedNode) : (op : FsOp) → Option (op.Res × TimedNode)
  | .age (.workspace name) => some (.ok (Duration.asSecs (world.age name)), world)
  | .createDirAll path =>
      if world.node.files path = none then
        some (.ok (), world.changed path (Function.update world.node.files path (some .directory)))
      else some (.ok (), world)
  | .removeDirAll (.workspace name) =>
      if (world.node.files (.workspace name)).isSome then
        some (.ok (), world.changed (.workspace name)
          (world.node.files.answer script (.removeDirAll (.workspace name))).2)
      else none
  | op => if isRead op then some ((world.node.files.answer script op).1, world) else none

def answer (script : NodeScript) (thread : ThreadId) (h : History Runtime) (world : TimedNode) :
    (op : RuntimeOp) → Option (op.Res × TimedNode)
  | .file op => world.answerFile script op
  | op => (script.answer thread h world.node op).map fun answer =>
      (answer.1, { world with node := answer.2 })

def script (script : NodeScript) (thread : ThreadId) : Script Runtime TimedNode where
  answer := answer script thread
  leave _ _ := none
  fires := script.fires

variable {script : NodeScript} {thread : ThreadId} {world : TimedNode} {h : History Runtime}

/-- A change at one path is stamped, as long as nothing else has changed that counts for a workspace. -/
theorem stamped_changed {op : FsOp} {path : FilePath} {files : Files}
    (appears : (files path).isSome ≠ (world.node.files path).isSome)
    (alone : ∀ other name, other.countsFor = some name → path.countsFor ≠ some name →
      files other = world.node.files other) :
    world.Stamped (.file op) (world.changed path files) := by
  intro name
  by_cases counts : path.countsFor = some name
  · exact ⟨fun _ => if_pos counts, fun unchanged => absurd ⟨path, counts, appears⟩ unchanged⟩
  · refine ⟨?_, fun _ => if_neg counts⟩
    rintro ⟨other, counted, different⟩
    exact absurd (congrArg Option.isSome (alone other name counted counts)) different

/-- What changes no file stamps none. -/
theorem stamped_of_files {op : RuntimeOp} {node : Node} (same : node.files = world.node.files) :
    world.Stamped op { world with node } := by
  have unchanged : ∀ name, ¬world.node.files.Changed node.files name := by
    rw [same]
    exact world.node.files.not_changed_self
  cases op with
  | process spec => exact fun name => Nat.le_refl _
  | _ => exact fun name => ⟨fun changed => absurd changed (unchanged name), fun _ => rfl⟩

/-- An operation of the script that only reads. -/
theorem step_of_isRead {op : FsOp} (reads : isRead op = true) :
    world.step thread (.file op) (world.node.files.answer script op).1 world := by
  have unchanged : (world.node.files.answer script op).2 = world.node.files := by
    cases op with
    | read path =>
        simp only [Files.answer]
        split <;> rfl
    | tryExists | setPermissions | readDir => rfl
    | _ => cases reads
  have stepped := Files.answer_step script world.node.files op
  rw [unchanged] at stepped
  refine ⟨⟨_, stepped, rfl⟩, ?_, stamped_of_files rfl, rfl⟩
  cases op with
  | age path => cases reads
  | _ => trivial

theorem countsFor_update {files : Files} {path : FilePath} {entry : Option FileEntry}
    {other : FilePath} {name : Text} (counted : other.countsFor = some name)
    (uncounted : path.countsFor ≠ some name) : Function.update files path entry other = files other := by
  apply Function.update_of_ne
  rintro rfl
  exact uncounted counted

/-- What lies below a workspace counts for it, or for none. -/
theorem below_workspace {name other : Text} {path : FilePath} (counted : path.countsFor = some other)
    (ne : name ≠ other) : Files.below (.workspace name) path = false := by
  cases path with
  | workspace directory =>
      obtain rfl : directory = other := Option.some.inj counted
      exact decide_eq_false ne
  | within directory relative =>
      simp only [FilePath.countsFor] at counted
      split at counted
      · cases counted
      · obtain rfl : directory = other := Option.some.inj counted
        exact decide_eq_false ne
  | sites | site | builds => cases counted

theorem step_of_answerFile {op : FsOp} {res : op.Res} {world' : TimedNode}
    (answered : world.answerFile script op = some (res, world')) :
    world.step thread (.file op) res world' := by
  unfold answerFile at answered
  split at answered
  · rename_i name
    cases answered
    exact ⟨⟨_, rfl, rfl⟩, ⟨world.clock, Nat.le_refl _, rfl⟩, stamped_of_files rfl, rfl⟩
  · rename_i path
    split at answered
    · rename_i absent
      cases answered
      refine ⟨⟨_, .inr ⟨absent, rfl⟩, rfl⟩, trivial, ?_, rfl⟩
      apply stamped_changed
      · simp [absent]
      · exact fun other name => countsFor_update
    · cases answered
      exact ⟨⟨_, .inl rfl, rfl⟩, trivial, stamped_of_files rfl, rfl⟩
  · rename_i name
    split at answered
    · rename_i present
      cases answered
      refine ⟨⟨_, Files.answer_step script _ _, rfl⟩, trivial, ?_, rfl⟩
      apply stamped_changed
      · simp [Files.answer, Files.below, present]
      · intro other directory counted different
        have apart : name ≠ directory := fun same => different (congrArg some same)
        simp [Files.answer, below_workspace counted apart]
    · cases answered
  · split at answered
    · rename_i reads
      cases answered
      exact step_of_isRead reads
    · cases answered

/-- What is neither a process nor an operation on files leaves the files as they are. -/
theorem files_of_answer {op : RuntimeOp} {res : op.Res} {node node' : Node}
    (noFile : ∀ fsOp, op ≠ .file fsOp)
    (answered : script.answer thread h node op = some (res, node')) : node'.files = node.files := by
  cases op with
  | process spec =>
      simp only [NodeScript.answer] at answered
      split at answered <;> cases answered <;> rfl
  | file fsOp => exact absurd rfl (noFile fsOp)
  | lock which =>
      simp only [NodeScript.answer] at answered
      split at answered
      · cases answered
        rfl
      · cases answered
  | acquireBuildPermit =>
      simp only [NodeScript.answer] at answered
      split at answered
      · cases answered
        rfl
      · cases answered
  | _ =>
      cases answered
      rfl

/-- The runs of the script are runs of the timed node. -/
theorem sound (script : NodeScript) (thread : ThreadId) :
    (TimedNode.script script thread).Sound (semantics thread) where
  answer := by
    intro h world op res world' answered
    have answered : answer script thread h world op = some (res, world') := answered
    by_cases file : ∃ fsOp, op = .file fsOp
    · obtain ⟨fsOp, rfl⟩ := file
      exact step_of_answerFile answered
    · have noFile : ∀ fsOp, op ≠ .file fsOp := fun fsOp same => file ⟨fsOp, same⟩
      have mapped : (script.answer thread h world.node op).map (fun answer =>
          (answer.1, ({ world with node := answer.2 } : TimedNode))) = some (res, world') := by
        cases op with
        | file fsOp => exact absurd rfl (noFile fsOp)
        | _ => exact answered
      obtain ⟨⟨res, node⟩, told, same⟩ := Option.map_eq_some_iff.mp mapped
      cases same
      refine ⟨(script.sound thread).answer told, ?_, ?_, rfl⟩
      · cases op with
        | file fsOp => exact absurd rfl (noFile fsOp)
        | _ => trivial
      · exact stamped_of_files (files_of_answer noFile told)
  leave left := by cases left

end TimedNode

end SakalaAgent
