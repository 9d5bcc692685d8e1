/-
Module: SakalaAgent.Proofs.DiskGuard
Layer: Proofs
Purpose: Whether a node that reports itself ready takes a deployment. The heartbeat and the check
  before a checkout read the same column of `df`; they differ where it has no number, which is no
  reason for the one to be degraded and a failure of the other.
Trusted boundary: both functions see the same outcome of `df`.
Main exports: PosixOutcome, ShowsFreeSpace, diskOutcome_ok_iff, ready_admits_iff
-/
import SakalaAgent.Proofs.FailedDeployment
import SakalaAgent.Proofs.FreeSlots
import SakalaAgent.Runtime.Telemetry
import Mathlib.Data.List.SplitBy

namespace SakalaAgent

open Async

/-! ### The output of `df` -/

/-- The number in the fourth column of a line. -/
def readBlocks (line : Text) : Option Nat :=
  (Text.words line)[3]?.bind (Text.parseNat (2 ^ 64))

/-- Two lines, of which the first has a title and no number in its fourth column. -/
def TwoLines (output header row : Text) : Prop :=
  Text.lines output = [header, row] ∧
    ∃ title, (Text.words header)[3]? = some title ∧ Text.parseNat (2 ^ 64) title = none

/-- `df` does not end well, or it prints two lines. -/
def PosixOutcome (df : ProcessResult) : Prop :=
  df.success = true → ∃ header row, TwoLines (captured df.stdout) header row

/-- `df` ends well and has a number in the fourth column, small enough to be one of bytes. -/
def ShowsFreeSpace (df : ProcessResult) : Prop :=
  df.success = true ∧ ∃ header row blocks, Text.lines (captured df.stdout) = [header, row] ∧
    readBlocks row = some blocks ∧ blocks * 1024 < 2 ^ 64

theorem words_of_isBlank {line : Text} (blank : Text.isBlank line = true) : Text.words line = [] := by
  apply List.filter_eq_nil_iff.mpr
  intro word member
  have inside : ∀ character ∈ word, character ∈ line := by
    intro character inWord
    rw [← List.flatten_splitBy (fun first second =>
      Text.isWhiteSpace first == Text.isWhiteSpace second) line]
    exact List.mem_flatten_of_mem member inWord
  have white : Text.isBlank word = true := by
    apply List.all_eq_true.mpr
    intro character inWord
    exact List.all_eq_true.mp blank character (inside character inWord)
  simp [white]

theorem blockBytes_eq_some {line : Text} {available : UInt64} :
    blockBytes (Text.words line) 3 = some available ↔
      ∃ blocks, readBlocks line = some blocks ∧ blocks * 1024 < 2 ^ 64 ∧
        available = UInt64.ofNat (blocks * 1024) := by
  unfold blockBytes readBlocks
  cases (Text.words line)[3]?.bind (Text.parseNat (2 ^ 64)) with
  | none => simp
  | some blocks =>
      simp only [Option.some.injEq, exists_eq_left']
      by_cases fits : blocks * 1024 < 2 ^ 64
      · rw [if_pos fits, Option.some.injEq, and_iff_right fits, eq_comm]
      · rw [if_neg fits]
        constructor
        · intro none_eq
          cases none_eq
        · intro both
          exact absurd both.1 fits

/-- The check before a checkout reads the fourth column of the last line. -/
theorem parseAvailableDiskBytes_ok_iff {output : Text} {available : UInt64} :
    parseAvailableDiskBytes output = .ok available ↔
      ∃ line, (contentLines output).getLast? = some line ∧
        blockBytes (Text.words line) 3 = some available := by
  unfold parseAvailableDiskBytes blockBytes
  cases (contentLines output).getLast? with
  | none => simp
  | some line =>
      simp only [Option.some.injEq, exists_eq_left']
      generalize (Text.words line)[3]? = column
      cases column with
      | none => simp
      | some word =>
          simp only [Option.bind_some]
          cases Text.parseNat (2 ^ 64) word with
          | none => simp
          | some blocks =>
              dsimp only
              by_cases fits : blocks * 1024 < 2 ^ 64
              · rw [if_pos fits, if_pos fits, Except.ok.injEq, Option.some.injEq]
              · rw [if_neg fits, if_neg fits]
                constructor
                · intro parsed
                  cases parsed
                · intro parsed
                  cases parsed

namespace TwoLines

variable {output header row : Text}

theorem header_solid (two : TwoLines output header row) : Text.isBlank header = false := by
  obtain ⟨_, title, fourth, _⟩ := two
  rw [Bool.eq_false_iff]
  intro blank
  rw [words_of_isBlank blank] at fourth
  cases fourth

theorem header_unread (two : TwoLines output header row) :
    blockBytes (Text.words header) 3 = none := by
  obtain ⟨_, title, fourth, unread⟩ := two
  rw [blockBytes, fourth, Option.bind_some, unread]

/-- The second line that is not blank, if there is one, has the bytes that the second line has. -/
theorem second (two : TwoLines output header row) :
    ((contentLines output)[1]?.bind fun line => blockBytes (Text.words line) 3) =
      blockBytes (Text.words row) 3 := by
  rw [contentLines, two.1, List.filter_cons_of_pos (by simp [two.header_solid])]
  by_cases blank : Text.isBlank row = true
  · rw [List.filter_cons_of_neg (by simp [blank]), words_of_isBlank blank]
    rfl
  · rw [List.filter_cons_of_pos (by simp [blank])]
    rfl

/-- So has the last one. -/
theorem last (two : TwoLines output header row) :
    ((contentLines output).getLast?.bind fun line => blockBytes (Text.words line) 3) =
      blockBytes (Text.words row) 3 := by
  rw [contentLines, two.1, List.filter_cons_of_pos (by simp [two.header_solid])]
  by_cases blank : Text.isBlank row = true
  · rw [List.filter_cons_of_neg (by simp [blank]), words_of_isBlank blank]
    exact two.header_unread
  · rw [List.filter_cons_of_pos (by simp [blank])]
    rfl

theorem parsed_iff (two : TwoLines output header row) {available : UInt64} :
    parseAvailableDiskBytes output = .ok available ↔
      blockBytes (Text.words row) 3 = some available := by
  rw [parseAvailableDiskBytes_ok_iff, ← two.last, Option.bind_eq_some_iff]

end TwoLines

/-! ### The two readings -/

section Readings

variable {executor : DockerRuntimeExecutor} {probes : HostProbes}

theorem diskAvailable_eq (probes : HostProbes) :
    probes.snapshot.diskAvailableBytes =
      probes.df.printed.bind fun output =>
        (contentLines output)[1]?.bind fun line => blockBytes (Text.words line) 3 := by
  change blockBytes probes.diskFields 3 = _
  unfold HostProbes.diskFields
  cases probes.df.printed with
  | none => rfl
  | some output =>
      rw [Option.bind_some, Option.bind_some]
      cases (contentLines output)[1]? with
      | none => rfl
      | some line => rfl

theorem printed_of_success {result : ProcessResult} (succeeded : result.success = true) :
    result.printed = some (captured result.stdout) :=
  if_pos succeeded

theorem printed_of_failure {result : ProcessResult} (failed : result.success = false) :
    result.printed = none :=
  if_neg (by simp [failed])

/-- The heartbeat has a number of free bytes exactly if `df` shows one. -/
theorem showsFreeSpace_iff (posix : PosixOutcome probes.df) :
    ShowsFreeSpace probes.df ↔ ∃ available, probes.snapshot.diskAvailableBytes = some available := by
  rw [diskAvailable_eq]
  cases succeeded : probes.df.success with
  | false => simp [ShowsFreeSpace, succeeded, printed_of_failure succeeded]
  | true =>
      obtain ⟨header, row, two⟩ := posix succeeded
      rw [printed_of_success succeeded, Option.bind_some, two.second]
      constructor
      · intro shows
        obtain ⟨_, _, other, blocks, lines, read, fits⟩ := shows
        have same := (List.cons.inj (two.1.symm.trans lines)).2
        obtain rfl := (List.cons.inj same).1
        exact ⟨_, blockBytes_eq_some.mpr ⟨blocks, read, fits, rfl⟩⟩
      · intro given
        obtain ⟨available, given⟩ := given
        obtain ⟨blocks, read, fits, _⟩ := blockBytes_eq_some.mp given
        exact ⟨succeeded, header, row, blocks, two.1, read, fits⟩

/-- A deployment passes the check exactly if the heartbeat has a number of free bytes which is large
enough. -/
theorem diskOutcome_ok_iff (posix : PosixOutcome probes.df) :
    diskOutcome executor probes.df = .ok () ↔
      ∃ available, probes.snapshot.diskAvailableBytes = some available ∧
        ¬available < executor.minWorkspaceFreeBytes := by
  rw [diskAvailable_eq]
  cases succeeded : probes.df.success with
  | false =>
      rw [printed_of_failure succeeded]
      constructor
      · intro passed
        obtain ⟨output, same, _, verdict⟩ := read_of_processOutcome passed
        rw [same, succeeded] at verdict
        cases verdict
      · intro given
        obtain ⟨_, given, _⟩ := given
        cases given
  | true =>
      obtain ⟨header, row, two⟩ := posix succeeded
      obtain ⟨output, read, success, printed⟩ :=
        @processOutcome_of_success (diskInspection executor) _ succeeded
      rw [printed_of_success succeeded, Option.bind_some, two.second, diskOutcome, read]
      change ((if output.success then _ else _) >>= _) = Except.ok () ↔ _
      rw [if_pos success, printed]
      cases parsed : parseAvailableDiskBytes (captured probes.df.stdout) with
      | ok available =>
          rw [two.parsed_iff.mp parsed]
          change (if _ then _ else _) = Except.ok () ↔ _
          by_cases short : available < executor.minWorkspaceFreeBytes
          · simp [short]
          · simpa [short] using UInt64.not_lt.mp short
      | error error =>
          constructor
          · intro passed
            cases passed
          · intro given
            obtain ⟨available, given, _⟩ := given
            rw [two.parsed_iff.mpr given] at parsed
            cases parsed

end Readings

/-! ### The status and the check -/

namespace DockerRuntimeExecutor

/-- What the check before a checkout comes to when it sees an outcome of `df`. -/
def CapacityChecked (executor : DockerRuntimeExecutor) (df : ProcessResult)
    (outcome : Except RuntimeError Unit) : Prop :=
  executor.ensureWorkspaceCapacity.run.Finishes
    [.done (.process (diskInspection executor)) df] outcome

theorem capacityChecked_iff {executor : DockerRuntimeExecutor} {df : ProcessResult}
    {outcome : Except RuntimeError Unit} :
    executor.CapacityChecked df outcome ↔ outcome = diskOutcome executor df := by
  unfold CapacityChecked
  rw [ensureWorkspaceCapacity_eq]
  constructor
  · intro finishes
    obtain ⟨result, same, rfl⟩ := finishes_once finishes
    cases same
    rfl
  · intro same
    subst same
    exact .call (.ret _)

/-- Nothing but the disk can make the node of these answers degraded. -/
def OtherwiseReady (lifecycle : NodeLifecycleState) (probes : HostProbes)
    (capacity : Option RuntimeCapacity) (snapshots : Option (List RuntimeHealthSnapshot)) : Prop :=
  lifecycle = .active ∧ probes.liveRuntimeOperational = true ∧ capacity.isSome = true ∧
    snapshots.isSome = true

/-- The heartbeat of these answers. -/
def heartbeat (executor : DockerRuntimeExecutor) (lifecycle : NodeLifecycleState)
    (probes : HostProbes) (capacity : Option RuntimeCapacity)
    (snapshots : Option (List RuntimeHealthSnapshot)) : HeartbeatPayload :=
  (executor.heartbeatContext lifecycle).payload probes.nodeTelemetry
    (workloadStatistics capacity snapshots)

variable {executor : DockerRuntimeExecutor} {lifecycle : NodeLifecycleState} {probes : HostProbes}
  {capacity : Option RuntimeCapacity} {snapshots : Option (List RuntimeHealthSnapshot)}

theorem workloadStatistics_available :
    (workloadStatistics capacity snapshots).capacityAvailable = capacity.isSome ∧
      (workloadStatistics capacity snapshots).healthAvailable = snapshots.isSome := by
  cases snapshots with
  | none => exact ⟨rfl, rfl⟩
  | some snapshots => exact ⟨rfl, rfl⟩

theorem isDegraded_eq_false_iff :
    (executor.heartbeatContext .active).isDegraded true probes.snapshot
        (workloadStatistics capacity snapshots) = false ↔
      (probes.liveRuntimeOperational = true ∧ capacity.isSome = true ∧ snapshots.isSome = true) ∧
        diskPressureState probes.snapshot.diskAvailableBytes executor.minWorkspaceFreeBytes ≠
          .critical := by
  obtain ⟨counted, inspected⟩ := @workloadStatistics_available capacity snapshots
  change (!true || decide (some probes.liveRuntimeOperational = some false) ||
    !(workloadStatistics capacity snapshots).capacityAvailable ||
    !(workloadStatistics capacity snapshots).healthAvailable ||
    decide (diskPressureState probes.snapshot.diskAvailableBytes executor.minWorkspaceFreeBytes =
      .critical)) = false ↔ _
  rw [counted, inspected]
  simp only [Bool.or_eq_false_iff, decide_eq_false_iff_not, Bool.not_eq_false', Option.some.injEq,
    Bool.not_eq_false, true_and, and_assoc, ne_eq]

theorem heartbeat_ready_iff :
    (executor.heartbeat lifecycle probes capacity snapshots).status = .ready ↔
      OtherwiseReady lifecycle probes capacity snapshots ∧
        (executor.heartbeat lifecycle probes capacity snapshots).diskPressure.state ≠ .critical := by
  unfold heartbeat HeartbeatRuntimeContext.payload OtherwiseReady
  cases lifecycle with
  | active =>
      have degraded := @isDegraded_eq_false_iff executor probes capacity snapshots
      change (if (executor.heartbeatContext .active).isDegraded true probes.snapshot
        (workloadStatistics capacity snapshots) then NodeStatus.degraded else .ready) = .ready ↔
          _ ∧ diskPressureState probes.snapshot.diskAvailableBytes executor.minWorkspaceFreeBytes ≠
            .critical
      rw [← degraded.trans (and_congr_left' (by simp))]
      cases (executor.heartbeatContext .active).isDegraded true probes.snapshot
        (workloadStatistics capacity snapshots) with
      | false => simp
      | true => simp
  | draining => simp [heartbeatContext]
  | drained => simp [heartbeatContext]
  | maintenance => simp [heartbeatContext]

theorem heartbeat_critical_iff :
    (executor.heartbeat lifecycle probes capacity snapshots).diskPressure.state = .critical ↔
      ∃ available, probes.snapshot.diskAvailableBytes = some available ∧
        available < executor.minWorkspaceFreeBytes := by
  change diskPressureState probes.snapshot.diskAvailableBytes executor.minWorkspaceFreeBytes =
    .critical ↔ _
  unfold diskPressureState
  cases probes.snapshot.diskAvailableBytes with
  | none => simp
  | some available =>
      by_cases short : available < executor.minWorkspaceFreeBytes
      · simp [short]
      · simp [short]

end DockerRuntimeExecutor

/-- The heartbeat and the check come to one verdict: a node that reports itself ready passes the check,
and one that reports a critical disk does not. -/
def SameVerdict (executor : DockerRuntimeExecutor) (lifecycle : NodeLifecycleState)
    (probes : HostProbes) (capacity : Option RuntimeCapacity)
    (snapshots : Option (List RuntimeHealthSnapshot)) : Prop :=
  ((executor.heartbeat lifecycle probes capacity snapshots).status = .ready →
      executor.CapacityChecked probes.df (.ok ())) ∧
    ((executor.heartbeat lifecycle probes capacity snapshots).diskPressure.state = .critical →
      ∃ error, executor.CapacityChecked probes.df (.error error))

/-- A critical disk never passes the check. -/
theorem critical_refused {executor : DockerRuntimeExecutor} {lifecycle : NodeLifecycleState}
    {probes : HostProbes} {capacity : Option RuntimeCapacity}
    {snapshots : Option (List RuntimeHealthSnapshot)} (posix : PosixOutcome probes.df)
    (critical :
      (executor.heartbeat lifecycle probes capacity snapshots).diskPressure.state = .critical) :
    ∃ error, executor.CapacityChecked probes.df (.error error) := by
  obtain ⟨available, given, short⟩ := DockerRuntimeExecutor.heartbeat_critical_iff.mp critical
  cases checked : diskOutcome executor probes.df with
  | error error => exact ⟨error, DockerRuntimeExecutor.capacityChecked_iff.mpr checked.symm⟩
  | ok _ =>
      obtain ⟨other, shown, enough⟩ := (diskOutcome_ok_iff posix).mp checked
      rw [given] at shown
      cases shown
      exact absurd short enough

/-- The two agree unless `df` shows no free space and nothing else makes the node degraded. -/
theorem ready_admits_iff (executor : DockerRuntimeExecutor) (lifecycle : NodeLifecycleState)
    (probes : HostProbes) (capacity : Option RuntimeCapacity)
    (snapshots : Option (List RuntimeHealthSnapshot)) (posix : PosixOutcome probes.df) :
    SameVerdict executor lifecycle probes capacity snapshots ↔
      (DockerRuntimeExecutor.OtherwiseReady lifecycle probes capacity snapshots →
        ShowsFreeSpace probes.df) := by
  rw [showsFreeSpace_iff posix]
  constructor
  · intro verdict otherwise
    by_cases critical :
        (executor.heartbeat lifecycle probes capacity snapshots).diskPressure.state = .critical
    · obtain ⟨available, given, _⟩ := DockerRuntimeExecutor.heartbeat_critical_iff.mp critical
      exact ⟨available, given⟩
    · have ready := DockerRuntimeExecutor.heartbeat_ready_iff.mpr ⟨otherwise, critical⟩
      have passed := DockerRuntimeExecutor.capacityChecked_iff.mp (verdict.1 ready)
      obtain ⟨available, given, _⟩ := (diskOutcome_ok_iff posix).mp passed.symm
      exact ⟨available, given⟩
  · intro shows
    constructor
    · intro ready
      obtain ⟨otherwise, notCritical⟩ := DockerRuntimeExecutor.heartbeat_ready_iff.mp ready
      obtain ⟨available, given⟩ := shows otherwise
      have enough : ¬available < executor.minWorkspaceFreeBytes := fun short =>
        notCritical (DockerRuntimeExecutor.heartbeat_critical_iff.mpr ⟨available, given, short⟩)
      have passed := (diskOutcome_ok_iff posix).mpr ⟨available, given, enough⟩
      exact DockerRuntimeExecutor.capacityChecked_iff.mpr passed.symm
    · exact critical_refused posix

/-! ### A probe that fails -/

namespace UnreadDisk

/-- A process that prints a line, if any, and exits. -/
def exited (lines : List Text) (status : Int) : ProcessResult where
  lines := lines.map fun line => (.stdout, line)
  finish := .ok (some status)

/-- All is well but for `df`. -/
def probes : HostProbes where
  hostname := none
  docker := exited [] 0
  caddy := exited ["true".toList] 0
  network := exited [] 0
  probeCreated := .ok ()
  probeRemoved := .ok ()
  df := exited [] 1
  du := exited [] 0

theorem posix : PosixOutcome probes.df := by
  intro succeeded
  cases succeeded

theorem operational : DockerRuntimeExecutor.OtherwiseReady .active probes (some {}) (some []) := by
  refine ⟨rfl, ?_, rfl, rfl⟩
  decide +kernel

theorem not_showsFreeSpace : ¬ShowsFreeSpace probes.df := by
  intro shows
  cases shows.1

end UnreadDisk

theorem ready_admits_iff_unread :
    PosixOutcome UnreadDisk.probes.df ∧
      ¬SameVerdict Sample.executor .active UnreadDisk.probes (some {}) (some []) := by
  refine ⟨UnreadDisk.posix, ?_⟩
  intro verdict
  exact UnreadDisk.not_showsFreeSpace
    ((ready_admits_iff Sample.executor .active UnreadDisk.probes (some {}) (some [])
      UnreadDisk.posix).mp verdict UnreadDisk.operational)

/-- A node whose `df` fails is ready, and takes no deployment. -/
theorem ready_not_admitted :
    ¬ ∀ (executor : DockerRuntimeExecutor) (probes : HostProbes)
      (capacity : Option RuntimeCapacity) (snapshots : Option (List RuntimeHealthSnapshot)),
      PosixOutcome probes.df → SameVerdict executor .active probes capacity snapshots := by
  intro all
  have verdict := all Sample.executor UnreadDisk.probes (some {}) (some []) UnreadDisk.posix
  have ready : (Sample.executor.heartbeat .active UnreadDisk.probes (some {}) (some [])).status =
      .ready := DockerRuntimeExecutor.heartbeat_ready_iff.mpr ⟨UnreadDisk.operational, nofun⟩
  have passed := DockerRuntimeExecutor.capacityChecked_iff.mp (verdict.1 ready)
  cases passed

end SakalaAgent
