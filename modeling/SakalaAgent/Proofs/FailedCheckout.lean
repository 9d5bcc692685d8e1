/-
Module: SakalaAgent.Proofs.FailedCheckout
Layer: Proofs
Purpose: What a checkout leaves of its workspace. From the first git command on, whatever fails is
  followed by the removal of the workspace. Before that nothing is: permissions that cannot be set or
  a script for the credential that cannot be written end the checkout where it stands.
Trusted boundary: nobody else touches the workspace, git touches nothing of it but the source, and a
  directory whose removal is attempted is gone.
Main exports: checkingOut, Tidy, UnguardedFailure, WorkspaceManager.checkout_tidy_iff
-/
import SakalaAgent.Proofs.RuntimeOps
import SakalaAgent.Runtime.NodeScript

namespace SakalaAgent

open Async

/-! ### The surroundings of a checkout -/

/-- The workspace and what lies in it are the same. -/
def Node.SameWorkspace (workspace : DeploymentWorkspace) (node node' : Node) : Prop :=
  ∀ path, Files.below workspace.root path = true → node'.files path = node.files path

/-- A path at or below the source. -/
def DeploymentWorkspace.inSource (workspace : DeploymentWorkspace) : FilePath → Prop
  | .within name relative =>
      name = workspace.name ∧ (relative = "source".toList ∨ "source/".toList <+: relative)
  | _ => False

/-- What lies in a workspace lies in a directory that is there. -/
def Node.Rooted (workspace : DeploymentWorkspace) (node : Node) : Prop :=
  node.files workspace.root = none →
    ∀ path, Files.below workspace.root path = true → node.files path = none

/-- Git changes nothing in the workspace but its source; a directory is there when it could be made,
and as before when it could not; nothing is left of a directory that is removed. -/
def ObligesCheckout (workspace : DeploymentWorkspace) (node : Node) :
    (op : RuntimeOp) → op.Res → Node → Prop
  | .process _, _, node' => ∀ path, Files.below workspace.root path = true →
      ¬workspace.inSource path → node'.files path = node.files path
  | .file (.createDirAll path), .ok _, node' => (node'.files path).isSome = true
  | .file (.createDirAll path), .error _, node' => node'.files path = node.files path
  | .file (.removeDirAll path), _, node' =>
      ∀ other, Files.below path other = true → node'.files other = none
  | _, _, _ => True

/-- The node of a checkout whose workspace nobody else touches. -/
def checkingOut (thread : ThreadId) (workspace : DeploymentWorkspace) : Semantics Runtime Node where
  step node op res node' := node.step thread op res node' ∧ ObligesCheckout workspace node op res node'
  leave := Node.leave
  drift := Node.SameWorkspace workspace

theorem below_root (workspace : DeploymentWorkspace) :
    Files.below workspace.root workspace.root = true := by
  simp [Files.below, DeploymentWorkspace.root]

theorem Node.Rooted.same {workspace : DeploymentWorkspace} {node node' : Node}
    (rooted : node.Rooted workspace) (same : node.SameWorkspace workspace node') :
    node'.Rooted workspace := by
  intro absent path inside
  rw [same path inside]
  rw [same _ (below_root workspace)] at absent
  exact rooted absent path inside

/-! ### What is left, and where -/

/-- A checkout that fails leaves no workspace, and one that succeeds leaves no script in it. -/
def Tidy (workspace : DeploymentWorkspace) (outcome : Except RuntimeError DeploymentWorkspace)
    (node : Node) : Prop :=
  match outcome with
  | .error _ => node.files workspace.root = none
  | .ok _ => node.files (WorkspaceManager.askpassFile workspace) = none

/-- A step that fails where nothing is taken away: it is not known whether there is an older
workspace, and there is one; or permissions are not set; or the script is not written. -/
def UnguardedFailure (workspace : DeploymentWorkspace) (node : Node) : Event Runtime → Prop
  | .done (.file (.tryExists _)) (.error _) => (node.files workspace.root).isSome = true
  | .done (.file (.setPermissions _ _)) (.error _) => True
  | .done (.file (.write _ _)) (.error _) => True
  | _ => False

/-- No step of the history fails so. -/
def Guarded (workspace : DeploymentWorkspace) (node : Node) (h : History Runtime) : Prop :=
  ∀ event ∈ h, ¬UnguardedFailure workspace node event

section Guarded

variable {workspace : DeploymentWorkspace} {first node : Node} {h : History Runtime}
  {event : Event Runtime}

theorem guarded_nil : Guarded workspace first [] :=
  fun _ member => absurd member List.not_mem_nil

theorem guarded_append_iff :
    Guarded workspace first (h ++ [event]) ↔
      Guarded workspace first h ∧ ¬UnguardedFailure workspace first event := by
  simp only [Guarded, List.mem_append, List.mem_singleton, or_imp, forall_and, forall_eq]

/-- A step that is answered fails nowhere. -/
theorem Guarded.answered {op : FsOp} {value : op.Value} (guarded : Guarded workspace first h) :
    Guarded workspace first (h ++ [.done (.file op) (.ok value)]) := by
  apply guarded_append_iff.mpr ⟨guarded, ?_⟩
  cases op <;> exact id

end Guarded

/-! ### One step -/

section Steps

variable {α : Type} {thread : ThreadId} {workspace : DeploymentWorkspace} {node node' first : Node}
  {h : History Runtime}

theorem Node.SameWorkspace.refl (workspace : DeploymentWorkspace) (node : Node) :
    node.SameWorkspace workspace node :=
  fun _ _ => rfl

theorem Node.SameWorkspace.trans {node'' : Node} (before : node.SameWorkspace workspace node')
    (after : node'.SameWorkspace workspace node'') : node.SameWorkspace workspace node'' :=
  fun path inside => (after path inside).trans (before path inside)

theorem Node.sameWorkspace_of_drifts (drifts : Drifts (checkingOut thread workspace) node node') :
    node.SameWorkspace workspace node' := by
  induction drifts with
  | refl node => exact .refl workspace node
  | head step _ ih => exact Node.SameWorkspace.trans step ih

theorem below_askpassFile (workspace : DeploymentWorkspace) :
    Files.below workspace.root (WorkspaceManager.askpassFile workspace) = true := by
  simp [Files.below, DeploymentWorkspace.root, WorkspaceManager.askpassFile]

theorem askpassFile_ne_root (workspace : DeploymentWorkspace) :
    workspace.root ≠ WorkspaceManager.askpassFile workspace :=
  nofun

theorem askpassFile_not_inSource (workspace : DeploymentWorkspace) :
    ¬workspace.inSource (WorkspaceManager.askpassFile workspace) := by
  intro inside
  rcases inside.2 with same | start
  · revert same
    decide
  · revert start
    decide

/-- An operation on files, from the workspace as it is. -/
theorem wp_fileAnswer {op : FsOp} {Q : Except RuntimeError op.Res → Node → History Runtime → Prop}
    (steps : ∀ (before after : Node) (res : op.Res), node.SameWorkspace workspace before →
      before.files.Step after.files op res →
      ObligesCheckout workspace before (.file op) res after →
      Q (.ok res) after (h ++ [.done (.file op) res])) :
    Prog.wp (checkingOut thread workspace) Q (fun _ _ => True) (tryFileOp op).run node h := by
  intro before drifts
  constructor
  · exact fun _ _ _ _ => trivial
  · intro res after step
    obtain ⟨⟨files, step, rfl⟩, obliges⟩ := step
    exact steps before _ res (Node.sameWorkspace_of_drifts drifts) step obliges

/-- The same where an error ends the future. -/
theorem wp_fileStep {op : FsOp} {Q : Except RuntimeError op.Value → Node → History Runtime → Prop}
    (steps : ∀ (before after : Node) (res : op.Res), node.SameWorkspace workspace before →
      before.files.Step after.files op res →
      ObligesCheckout workspace before (.file op) res after →
      Q (res.mapError RuntimeError.filesystem) after (h ++ [.done (.file op) res])) :
    Prog.wp (checkingOut thread workspace) Q (fun _ _ => True) (fileOp op).run node h := by
  apply Fallible.wp_bind (p := tryFileOp op).mpr
  apply wp_fileAnswer
  exact steps

/-! ### The preparation -/

/-- Nothing is left of an older workspace. -/
def Node.Cleared (workspace : DeploymentWorkspace) (node : Node) : Prop :=
  ∀ path, Files.below workspace.root path = true → node.files path = none

/-- The workspace is there, and no script in it. -/
structure Node.Made (workspace : DeploymentWorkspace) (node : Node) : Prop where
  root : (node.files workspace.root).isSome = true
  askpass : node.files (WorkspaceManager.askpassFile workspace) = none

theorem Node.Made.same (made : node.Made workspace) (same : node.SameWorkspace workspace node') :
    node'.Made workspace where
  root := by
    rw [same _ (below_root workspace)]
    exact made.root
  askpass := by
    rw [same _ (below_askpassFile workspace)]
    exact made.askpass

/-- What the preparation comes to: a workspace without a script unless there is a credential, or an
error, behind which there is no workspace exactly if no step has failed unguarded. -/
def Prepared (workspace : DeploymentWorkspace) (first : Node)
    (credential : Option RepositoryCredential) (outcome : Except RuntimeError Unit) (node : Node)
    (h : History Runtime) : Prop :=
  match outcome with
  | .ok _ => Guarded workspace first h ∧ (credential = none →
      node.files (WorkspaceManager.askpassFile workspace) = none)
  | .error _ => node.files workspace.root = none ↔ Guarded workspace first h

/-- A step behind which the workspace stays. -/
theorem prepared_of_unguarded {credential : Option RepositoryCredential} {error : RuntimeError}
    {event : Event Runtime} (root : (node.files workspace.root).isSome = true)
    (unguarded : UnguardedFailure workspace first event) :
    Prepared workspace first credential (.error error) node (h ++ [event]) := by
  constructor
  · intro gone
    rw [gone] at root
    cases root
  · intro guarded
    exact absurd unguarded (guarded_append_iff.mp guarded).2

/-- A step behind which there is no workspace. -/
theorem prepared_of_guarded {credential : Option RepositoryCredential} {error : RuntimeError}
    {event : Event Runtime} (root : node.files workspace.root = none)
    (guarded : Guarded workspace first h) (harmless : ¬UnguardedFailure workspace first event) :
    Prepared workspace first credential (.error error) node (h ++ [event]) :=
  ⟨fun _ => guarded_append_iff.mpr ⟨guarded, harmless⟩, fun _ => root⟩

theorem wp_writeAskpass {credential : Option RepositoryCredential} (given : credential ≠ none)
    (made : node.Made workspace) (guarded : Guarded workspace first h) :
    Prog.wp (checkingOut thread workspace) (Prepared workspace first credential) (fun _ _ => True)
      (WorkspaceManager.writeAskpass workspace).run node h := by
  apply Fallible.wp_bind.mpr
  apply wp_fileStep
  intro before after res same written _
  have root : (after.files workspace.root).isSome = true := by
    have kept : after.files workspace.root = before.files workspace.root := by
      cases res with
      | ok _ =>
          rw [show after.files = _ from written]
          exact Function.update_of_ne (askpassFile_ne_root workspace) _ _
      | error error =>
          obtain ⟨left, written⟩ := written
          rw [written]
          exact Function.update_of_ne (askpassFile_ne_root workspace) _ _
    rw [kept]
    exact (made.same same).root
  cases res with
  | error error => exact prepared_of_unguarded root trivial
  | ok _ =>
      apply wp_fileStep
      intro before' after' res same kept _
      have sameFiles : after'.files = before'.files := kept
      cases res with
      | error error =>
          have still : (after'.files workspace.root).isSome = true := by
            rw [sameFiles, same _ (below_root workspace)]
            exact root
          exact prepared_of_unguarded still trivial
      | ok _ => exact ⟨guarded.answered.answered, fun absent => absurd absent given⟩

/-- An older workspace is taken away. -/
theorem wp_clear (credential : Option RepositoryCredential) {found : Bool}
    (present : found = (node.files workspace.root).isSome) (rooted : node.Rooted workspace)
    (guarded : Guarded workspace first h) :
    Prog.wp (checkingOut thread workspace) (fun outcome node h => match outcome with
        | .ok _ => node.Cleared workspace ∧ Guarded workspace first h
        | .error error => Prepared workspace first credential (.error error) node h)
      (fun _ _ => True) (onlyIf found (fileOp (.removeDirAll workspace.root))).run node h := by
  cases found with
  | false =>
      have absent : node.files workspace.root = none :=
        Option.not_isSome_iff_eq_none.mp (by simp [← present])
      exact ⟨rooted absent, guarded⟩
  | true =>
      apply wp_fileStep
      intro before after res same _ gone
      cases res with
      | ok _ => exact ⟨gone, guarded.answered⟩
      | error error => exact prepared_of_guarded (gone _ (below_root workspace)) guarded id

/-- The preparation, once it is clear that nothing older is left. -/
theorem wp_make (credential : Option RepositoryCredential) (cleared : node.Cleared workspace)
    (guarded : Guarded workspace first h) :
    Prog.wp (checkingOut thread workspace) (fun outcome node h => match outcome with
        | .ok _ => node.Made workspace ∧ Guarded workspace first h
        | .error error => Prepared workspace first credential (.error error) node h)
      (fun _ _ => True) (fileOp (.createDirAll workspace.root)).run node h := by
  apply wp_fileStep
  intro before after res same step obliges
  have clear : before.Cleared workspace := fun path inside =>
    (same path inside).trans (cleared path inside)
  cases res with
  | error error =>
      have root : after.files workspace.root = none :=
        obliges.trans (clear _ (below_root workspace))
      exact prepared_of_guarded root guarded id
  | ok _ =>
      have absent := clear _ (below_askpassFile workspace)
      refine ⟨⟨obliges, ?_⟩, guarded.answered⟩
      rcases step with kept | ⟨_, made⟩
      · rw [kept]
        exact absent
      · rw [made, Function.update_of_ne (askpassFile_ne_root workspace).symm]
        exact absent

theorem wp_prepareWorkspace (credential : Option RepositoryCredential)
    (rooted : first.Rooted workspace) :
    Prog.wp (checkingOut thread workspace) (Prepared workspace first credential) (fun _ _ => True)
      (WorkspaceManager.prepareWorkspace workspace credential).run first [] := by
  apply Fallible.wp_bind.mpr
  apply wp_fileStep
  intro looked found res same step _
  cases res with
  | error error =>
      have kept : found.files workspace.root = first.files workspace.root := by
        rw [show found.files = looked.files from step]
        exact same _ (below_root workspace)
      change found.files workspace.root = none ↔ Guarded workspace first _
      rw [kept, guarded_append_iff, ← Option.not_isSome_iff_eq_none]
      exact ⟨fun absent => ⟨guarded_nil, absent⟩, fun guarded => guarded.2⟩
  | ok present =>
      obtain ⟨kept, present_eq⟩ := step
      have before : first.SameWorkspace workspace found := by
        rw [Node.SameWorkspace, kept]
        exact same
      apply Fallible.wp_bind.mpr
      apply Prog.wp_mono (wp_clear credential (kept ▸ present_eq)
        (rooted.same before) guarded_nil.answered)
      case hD => exact fun _ _ _ => trivial
      rintro (error | _) node h cleared
      · exact cleared
      apply Fallible.wp_bind.mpr
      apply Prog.wp_mono (wp_make credential cleared.1 cleared.2)
      case hD => exact fun _ _ _ => trivial
      rintro (error | _) node h made
      · exact made
      apply Fallible.wp_bind.mpr
      apply wp_fileStep
      intro before after res same kept _
      have after_made : after.Made workspace :=
        (made.1.same same).same fun path _ => congrFun kept path
      cases res with
      | error error => exact prepared_of_unguarded after_made.root trivial
      | ok _ =>
          cases credential with
          | none => exact ⟨made.2.answered, fun _ => after_made.askpass⟩
          | some credential => exact wp_writeAskpass nofun after_made made.2.answered

/-! ### Behind the preparation -/

/-- No step has failed unguarded, and there is no script that has not been written. -/
def Git (workspace : DeploymentWorkspace) (first : Node) (credential : Option RepositoryCredential)
    (node : Node) (h : History Runtime) : Prop :=
  Guarded workspace first h ∧ (credential = none →
    node.files (WorkspaceManager.askpassFile workspace) = none)

theorem git_preserved (thread : ThreadId) (workspace : DeploymentWorkspace) (first : Node)
    (credential : Option RepositoryCredential) :
    Prog.Preserves (checkingOut thread workspace) (Spawns fun _ => True)
      (Git workspace first credential) where
  done op spawns node h res node' git step := by
    obtain ⟨step, obliges⟩ := step
    cases op with
    | process spec =>
        have kept := obliges _ (below_askpassFile workspace) (askpassFile_not_inSource workspace)
        exact ⟨guarded_append_iff.mpr ⟨git.1, id⟩, fun absent => kept.trans (git.2 absent)⟩
    | log line =>
        obtain rfl : node' = node := step
        exact ⟨guarded_append_iff.mpr ⟨git.1, id⟩, git.2⟩
    | _ => exact absurd spawns not_false
  abandoned op spawns node h outcome node' git left := by
    have files : node'.files = node.files := by
      cases op with
      | process spec => exact left.2 ▸ rfl
      | log line => exact (show _ ∧ node' = node from left).2 ▸ rfl
      | _ => exact absurd spawns not_false
    rw [Git, files]
    exact ⟨guarded_append_iff.mpr ⟨git.1, id⟩, git.2⟩
  fired which op node h git := ⟨guarded_append_iff.mpr ⟨git.1, id⟩, git.2⟩
  drift node h node' git same :=
    ⟨git.1, fun absent => (same _ (below_askpassFile workspace)).trans (git.2 absent)⟩

theorem spawns_runCheckout (manager : WorkspaceManager) (source : RepositorySource) :
    Fallible.AllOps (Spawns fun _ => True) (manager.runCheckout workspace source) := by
  apply Fallible.allOps_forM
  intro entry _
  apply Fallible.allOps_bind (spawns_runChecked trivial _)
  exact fun _ => trivial

/-- Wherever the checkout is given up, the workspace is taken away. -/
theorem wp_abandonCheckout {error : RuntimeError} (guarded : Guarded workspace first h) :
    Prog.wp (checkingOut thread workspace)
      (fun outcome node h => Tidy workspace outcome node ↔ Guarded workspace first h)
      (fun _ _ => True) (WorkspaceManager.abandonCheckout workspace error).run node h := by
  apply Fallible.wp_attempt.mpr
  apply Fallible.wp_bind.mpr
  apply wp_fileAnswer
  intro before after res _ _ gone
  have tidy : after.files workspace.root = none := gone _ (below_root workspace)
  have still : Guarded workspace first (h ++ [.done (.file (.removeDirAll workspace.root)) res]) :=
    guarded_append_iff.mpr ⟨guarded, id⟩
  cases res with
  | ok _ => exact ⟨fun _ => still, fun _ => tidy⟩
  | error error =>
      dsimp only
      split
      · exact ⟨fun _ => still, fun _ => tidy⟩
      · exact ⟨fun _ => still, fun _ => tidy⟩

/-- The script is gone if its removal succeeds. -/
theorem wp_removeAskpass {credential : Option RepositoryCredential}
    (git : Git workspace first credential node h) :
    Prog.wp (checkingOut thread workspace) (fun outcome node h => ∃ removed, outcome = .ok removed ∧
        Guarded workspace first h ∧ (removed.isOk = true →
          node.files (WorkspaceManager.askpassFile workspace) = none))
      (fun _ _ => True) (WorkspaceManager.removeAskpass workspace credential).run node h := by
  cases credential with
  | none => exact ⟨.ok (), rfl, git.1, fun _ => git.2 rfl⟩
  | some credential =>
      apply wp_fileAnswer
      intro before after res _ step _
      refine ⟨res, rfl, guarded_append_iff.mpr ⟨git.1, id⟩, ?_⟩
      intro removed
      cases res with
      | error error => cases removed
      | ok _ =>
          rw [step.2]
          exact Function.update_self ..

theorem wp_checkout (manager : WorkspaceManager) (commandId : Uuid) (source : RepositorySource)
    (rooted : first.Rooted ⟨commandId.toText⟩) :
    Prog.wp (checkingOut thread ⟨commandId.toText⟩)
      (fun outcome node h =>
        Tidy ⟨commandId.toText⟩ outcome node ↔ Guarded ⟨commandId.toText⟩ first h)
      (fun _ _ => True) (manager.checkout commandId source).run first [] := by
  apply Fallible.wp_bind.mpr
  apply Prog.wp_mono (wp_prepareWorkspace source.credential rooted)
  case hD => exact fun _ _ _ => trivial
  rintro (error | _) node h prepared
  · exact prepared
  apply Fallible.wp_attempt.mpr
  apply Prog.wp_preserved (git_preserved thread _ first source.credential)
    (spawns_runCheckout manager source) prepared
  case hD => exact fun _ _ _ => trivial
  intro checkedOut node h git
  apply Fallible.wp_bind.mpr
  apply Prog.wp_mono (wp_removeAskpass git)
  case hD => exact fun _ _ _ => trivial
  rintro outcome node h ⟨removed, rfl, guarded, gone⟩
  cases checkedOut with
  | error error => exact wp_abandonCheckout guarded
  | ok _ =>
      cases removed with
      | error error => exact wp_abandonCheckout guarded
      | ok _ => exact ⟨fun _ => guarded, fun _ => gone rfl⟩

end Steps

/-- A checkout is tidy exactly if none of its steps fails before the first git command. -/
theorem WorkspaceManager.checkout_tidy_iff (manager : WorkspaceManager) (commandId : Uuid)
    (source : RepositorySource) (thread : ThreadId) (node node' : Node) (h : History Runtime)
    (outcome : Except RuntimeError DeploymentWorkspace) (rooted : node.Rooted ⟨commandId.toText⟩)
    (run : Exec (checkingOut thread ⟨commandId.toText⟩) (manager.checkout commandId source).run
      node [] outcome node' h) :
    Tidy ⟨commandId.toText⟩ outcome node' ↔ Guarded ⟨commandId.toText⟩ node h :=
  Prog.wp_sound _ run (wp_checkout manager commandId source rooted)

/-! ### A script that is not written -/

namespace FullDisk

def workspace : DeploymentWorkspace := ⟨(Sample.uuid 1).toText⟩

def source : RepositorySource where
  repositoryUrl := "https://github.com/owner/repository"
  commitSha := "0123456789012345678901234567890123456789"
  credential := some ⟨"x-access-token", "token"⟩

def noSpace : IoError where
  notFound := false
  text := "No space left on device"

/-- The directory has been made. -/
def made : Node :=
  { Sample.node with
    files := Function.update Sample.node.files workspace.root (some .directory) }

/-- The file of the script is there, with nothing in it. -/
def unwritten : Node :=
  { made with
    files := Function.update made.files (WorkspaceManager.askpassFile workspace)
      (some (.file ⟨[], []⟩)) }

def history : History Runtime :=
  [.done (.file (.tryExists workspace.root)) (.ok false),
    .done (.file (.createDirAll workspace.root)) (.ok ()),
    .done (.file (.setPermissions workspace.root 0o700)) (.ok ()),
    .done (.file (.write (WorkspaceManager.askpassFile workspace) { text := askpassScript }))
      (.error noSpace)]

theorem rooted : Sample.node.Rooted workspace :=
  fun _ _ _ => rfl

theorem made_root : made.files workspace.root = some .directory := by
  simp [made]

theorem unwritten_root : unwritten.files workspace.root = some .directory := by
  simp only [unwritten]
  rw [Function.update_of_ne (askpassFile_ne_root workspace), made_root]

theorem createDirAll : (checkingOut 0 workspace).step Sample.node
    (.file (.createDirAll workspace.root)) (.ok ()) made :=
  ⟨⟨_, Or.inr ⟨rfl, rfl⟩, rfl⟩, congrArg Option.isSome made_root⟩

theorem write : (checkingOut 0 workspace).step made
    (.file (.write (WorkspaceManager.askpassFile workspace) { text := askpassScript }))
    (.error noSpace) unwritten :=
  ⟨⟨_, ⟨_, rfl⟩, rfl⟩, trivial⟩

theorem run : Exec (checkingOut 0 workspace)
    (Sample.workspaces.checkout (Sample.uuid 1) source).run Sample.node []
    (.error (.filesystem noSpace)) unwritten history := by
  refine .call (.refl _) (.ok false) ⟨⟨_, ⟨rfl, rfl⟩, rfl⟩, trivial⟩ ?_
  refine .call (.refl _) (.ok ()) createDirAll ?_
  refine .call (.refl _) (.ok ()) ⟨⟨_, rfl, rfl⟩, trivial⟩ ?_
  refine .call (.refl _) (.error noSpace) write ?_
  exact .ret _ _ _

theorem unguarded : ¬Guarded workspace Sample.node history := by
  intro guarded
  exact guarded _ (List.mem_of_getLast? rfl) trivial

end FullDisk

theorem checkout_tidy_iff_full :
    Sample.node.Rooted FullDisk.workspace ∧
      Exec (checkingOut 0 FullDisk.workspace)
        (Sample.workspaces.checkout (Sample.uuid 1) FullDisk.source).run Sample.node []
        (.error (.filesystem FullDisk.noSpace)) FullDisk.unwritten FullDisk.history ∧
      ¬Tidy FullDisk.workspace (.error (.filesystem FullDisk.noSpace)) FullDisk.unwritten := by
  refine ⟨FullDisk.rooted, FullDisk.run, ?_⟩
  intro tidy
  exact FullDisk.unguarded ((WorkspaceManager.checkout_tidy_iff Sample.workspaces (Sample.uuid 1)
    FullDisk.source 0 Sample.node FullDisk.unwritten FullDisk.history
    (.error (.filesystem FullDisk.noSpace)) FullDisk.rooted FullDisk.run).mp tidy)

/-- A checkout of a private repository onto a full disk leaves its workspace behind. -/
theorem checkout_untidy :
    ¬ ∀ (manager : WorkspaceManager) (commandId : Uuid) (source : RepositorySource)
      (thread : ThreadId) (node node' : Node) (h : History Runtime)
      (outcome : Except RuntimeError DeploymentWorkspace),
      node.Rooted ⟨commandId.toText⟩ →
      Exec (checkingOut thread ⟨commandId.toText⟩) (manager.checkout commandId source).run
        node [] outcome node' h →
      Tidy ⟨commandId.toText⟩ outcome node' := by
  intro all
  have tidy := all _ _ _ _ _ _ _ _ FullDisk.rooted FullDisk.run
  exact Option.some_ne_none _ (FullDisk.unwritten_root.symm.trans tidy)

end SakalaAgent
