/-
Module: SakalaAgent.Proofs.RouteCommit
Layer: Proofs
Purpose: The route file of a project around a deployment that fails: what a run has done to the file
  is read off its history, and a run that ends without a cutover has left the file as it was unless
  it stopped between the new file and its rollback.
Trusted boundary: none
Main exports: Cutover, cutover, FilesSucceed, Committed, route_kept, route_unchanged_exact
-/
import SakalaAgent.Proofs.RuntimeOps
import SakalaAgent.Runtime.NodeScript

namespace SakalaAgent

open Async

/-! ### Reading a history -/

/-- The operation on files an event is about, and its answer if there is one. -/
def fileEvent : Event Runtime → Option ((op : FsOp) × Option op.Res)
  | .done (.file op) res => some ⟨op, some res⟩
  | .abandoned (.file op) outcome => some ⟨op, outcome⟩
  | _ => none

/-- What a run has done to the route file of a project. -/
inductive Cutover where
  | untouched
  /-- The new file is in its place. -/
  | replaced
  | restored
  /-- The rollback could not take the new file away. -/
  | stuck
deriving DecidableEq, Repr

namespace Cutover

/-- After one operation on files. -/
def afterFile (projectId : Uuid) (state : Cutover) : (op : FsOp) → Option op.Res → Cutover
  | .rename _ target, _ => if target = siteFile projectId then .replaced else state
  | .write path _, _ => if path = siteFile projectId then .restored else state
  | .removeFile path, answer =>
      if path = siteFile projectId then
        match answer with
        | some (.error error) => if error.notFound then .restored else .stuck
        | _ => .restored
      else state
  | _, _ => state

def after (projectId : Uuid) (state : Cutover) (event : Event Runtime) : Cutover :=
  match fileEvent event with
  | some ⟨op, answer⟩ => afterFile projectId state op answer
  | none => state

/-- What is in the place of the route file. -/
def site (route : RouteSpec) (before : Option FileEntry) : Cutover → Option FileEntry
  | .untouched => before
  | .restored => before
  | .replaced => some (.file { text := routeContent route })
  | .stuck => some (.file { text := routeContent route })

/-- The new file is in its place and nothing is on its way to take it back. -/
def IsOpen (state : Cutover) : Prop :=
  state = .replaced ∨ state = .stuck

end Cutover

def cutover (projectId : Uuid) (h : History Runtime) : Cutover :=
  h.foldl (Cutover.after projectId) .untouched

/-- Reads, writes and renames succeed; a file that is not there is read as such. -/
def FsOp.Succeeds : (op : FsOp) → op.Res → Prop
  | .read _, res => ∀ error, res = .error error → error.notFound = true
  | .write _ _, res => res = .ok ()
  | .rename _ _, res => res = .ok ()
  | _, _ => True

def FilesSucceed (h : History Runtime) : Prop :=
  ∀ event ∈ h, ∀ op res, fileEvent event = some ⟨op, some res⟩ → op.Succeeds res

/-- The route was committed. -/
def Committed (h : History Runtime) : Prop :=
  .done (.setRouteActivated true) () ∈ h

theorem cutover_append (projectId : Uuid) (h : History Runtime) (event : Event Runtime) :
    cutover projectId (h ++ [event]) = (cutover projectId h).after projectId event := by
  simp [cutover]

theorem filesSucceed_append {h : History Runtime} {event : Event Runtime} :
    FilesSucceed (h ++ [event]) ↔
      FilesSucceed h ∧ ∀ op res, fileEvent event = some ⟨op, some res⟩ → op.Succeeds res := by
  simp [FilesSucceed, or_imp, forall_and]

/-- Nothing has to hold of a run any more. -/
def Excused (h : History Runtime) : Prop :=
  ¬FilesSucceed h ∨ Committed h

theorem Excused.append {h : History Runtime} (excused : Excused h) (event : Event Runtime) :
    Excused (h ++ [event]) := by
  rcases excused with failed | committed
  · exact .inl fun succeed => failed (filesSucceed_append.mp succeed).1
  · exact .inr (List.mem_append_left _ committed)

/-! ### The file follows the history -/

section Kept

variable (route : RouteSpec) (before : Option FileEntry)

/-- The cutover is at `state`, and so is the file. -/
def At (state : Cutover) (node : Node) (h : History Runtime) : Prop :=
  Excused h ∨ (cutover route.projectId h = state ∧
    node.files (siteFile route.projectId) = state.site route before)

def Kept (node : Node) (h : History Runtime) : Prop :=
  ∃ state, At route before state node h

variable {route before}

/-- Operations that leave the route files alone leave the cutover where it is. -/
theorem after_of_keepsSites {projectId : Uuid} {event : Event Runtime} (state : Cutover)
    (keeps : ∀ op answer, fileEvent event = some ⟨op, answer⟩ → op.keepsSites = true) :
    state.after projectId event = state := by
  simp only [Cutover.after]
  split
  · rename_i op answer about
    have keeps := keeps op answer about
    have notSite : ∀ path : FilePath, (!path.inSites) = true → path ≠ siteFile projectId := by
      rintro path outside rfl
      cases outside
    cases op with
    | rename source target =>
        have outside : (!source.inSites) = true ∧ (!target.inSites) = true := by
          simpa [FsOp.keepsSites] using keeps
        exact if_neg (notSite target outside.2)
    | write path content => exact if_neg (notSite path keeps)
    | removeFile path => exact if_neg (notSite path keeps)
    | _ => rfl
  · rfl

theorem At.quiet {state : Cutover} {node node' : Node} {h : History Runtime}
    (holds : At route before state node h) (same : node.files.SameSites node'.files)
    {event : Event Runtime}
    (keeps : ∀ op answer, fileEvent event = some ⟨op, answer⟩ → op.keepsSites = true) :
    At route before state node' (h ++ [event]) := by
  rcases holds with excused | ⟨there, file⟩
  · exact .inl (excused.append event)
  · right
    rw [cutover_append, after_of_keepsSites _ keeps]
    exact ⟨there, (same _).trans file⟩

/-- A process, in whatever way it ends, changes no route file. -/
theorem Node.Settled.sameSites {node node' : Node} {line : CommandLine} {succeeded : Bool}
    (settled : node.Settled line succeeded node') : node.files.SameSites node'.files := by
  obtain ⟨files, docker, same, rfl, _⟩ := settled
  exact same

theorem Node.Lands.sameSites {node node' : Node} (lands : node.Lands node') :
    node.files.SameSites node'.files := by
  obtain ⟨_, _, _, _, settled⟩ := lands
  exact settled.sameSites

theorem Node.sameSites_of_step {thread : ThreadId} {op : RuntimeOp}
    (keeps : ∀ fsOp, op = .file fsOp → fsOp.keepsSites = true) {node node' : Node} {res : op.Res}
    (step : node.step thread op res node') : node.files.SameSites node'.files := by
  cases op with
  | process spec => exact step.2.sameSites
  | file op =>
      obtain ⟨files, step, rfl⟩ := step
      exact step.sameSites (keeps op rfl)
  | acquireBuildPermit =>
      rcases step with ⟨_, _, rfl⟩ | ⟨_, rfl⟩ <;> exact fun _ => rfl
  | lock which => exact step.2 ▸ fun _ => rfl
  | routeActivated => exact step.2 ▸ fun _ => rfl
  | _ => exact (show node' = _ from step) ▸ fun _ => rfl

theorem Node.sameSites_of_leave {op : RuntimeOp}
    (keeps : ∀ fsOp, op = .file fsOp → fsOp.keepsSites = true) {node node' : Node}
    {outcome : Option op.Res} (left : node.leave op outcome node') :
    node.files.SameSites node'.files := by
  cases op with
  | file op =>
      obtain ⟨res, files, _, step, rfl⟩ := left
      exact step.sameSites (keeps op rfl)
  | _ => exact left.2 ▸ fun _ => rfl

theorem Asks.keepsSites {allowed : CommandLine → Prop} {op : RuntimeOp} (asks : Asks allowed op)
    (fsOp : FsOp) (isFile : op = .file fsOp) : fsOp.keepsSites = true := by
  subst isFile
  exact asks

theorem Node.step_sameSites {thread : ThreadId} {allowed : CommandLine → Prop} {op : RuntimeOp}
    (asks : Asks allowed op) {node node' : Node} {res : op.Res}
    (step : node.step thread op res node') : node.files.SameSites node'.files :=
  sameSites_of_step asks.keepsSites step

theorem Node.leave_sameSites {allowed : CommandLine → Prop} {op : RuntimeOp}
    (asks : Asks allowed op) {node node' : Node} {outcome : Option op.Res}
    (left : node.leave op outcome node') : node.files.SameSites node'.files :=
  sameSites_of_leave asks.keepsSites left

/-- An operation on files that an event is about was asked for. -/
theorem keepsSites_of_asks {allowed : CommandLine → Prop} {op : RuntimeOp}
    (asks : Asks allowed op) {event : Event Runtime} (asked : event.asked = some op)
    (fileOp : FsOp) (answer : Option fileOp.Res)
    (about : fileEvent event = some ⟨fileOp, answer⟩) : fileOp.keepsSites = true := by
  cases event with
  | done other res =>
      obtain rfl : other = op := Option.some.inj asked
      cases other with
      | file _ =>
          cases about
          exact asks
      | _ => cases about
  | abandoned other outcome =>
      obtain rfl : other = op := Option.some.inj asked
      cases other with
      | file _ =>
          cases about
          exact asks
      | _ => cases about
  | fired which other => cases about

theorem at_preserved (thread : ThreadId) (allowed : CommandLine → Prop) (state : Cutover) :
    Prog.Preserves (runtimeSemantics thread) (Asks allowed) (At route before state) where
  done op asks node h res node' holds step :=
    holds.quiet (Node.step_sameSites asks step) (keepsSites_of_asks asks rfl)
  abandoned op asks node h outcome node' holds left :=
    holds.quiet (Node.leave_sameSites asks left) (keepsSites_of_asks asks rfl)
  fired which op node h holds := holds.quiet (fun _ => rfl) (fun _ _ about => nomatch about)
  drift node h node' holds lands := by
    rcases holds with excused | ⟨there, file⟩
    · exact .inl excused
    · exact .inr ⟨there, (lands.sameSites _).trans file⟩

theorem kept_preserved (thread : ThreadId) (allowed : CommandLine → Prop) :
    Prog.Preserves (runtimeSemantics thread) (Asks allowed) (Kept route before) where
  done op asks node h res node' holds step := by
    obtain ⟨state, holds⟩ := holds
    exact ⟨state, (at_preserved thread allowed state).done op asks node h res node' holds step⟩
  abandoned op asks node h outcome node' holds left := by
    obtain ⟨state, holds⟩ := holds
    exact ⟨state, (at_preserved thread allowed state).abandoned op asks node h outcome node' holds
      left⟩
  fired which op node h holds := by
    obtain ⟨state, holds⟩ := holds
    exact ⟨state, (at_preserved thread allowed state).fired which op node h holds⟩
  drift node h node' holds lands := by
    obtain ⟨state, holds⟩ := holds
    exact ⟨state, (at_preserved thread allowed state).drift node h node' holds lands⟩

/-! ### Verifying a future -/

variable {thread : ThreadId} {α : Type} {node : Node} {h : History Runtime}

theorem wp_excused {p : Prog Runtime α} {Q : α → Node → History Runtime → Prop}
    {D : Node → History Runtime → Prop} (excused : Excused h)
    (hQ : ∀ value node h, Excused h → Q value node h) (hD : ∀ node h, Excused h → D node h) :
    p.wp (runtimeSemantics thread) Q D node h := by
  have kept : Prog.Preserves (runtimeSemantics thread) (fun _ => True)
      (fun (_ : Node) h => Excused h) :=
    { done := fun _ _ _ _ _ _ excused _ => excused.append _
      abandoned := fun _ _ _ _ _ _ excused _ => excused.append _
      fired := fun _ _ _ _ excused => excused.append _
      drift := fun _ _ _ excused _ => excused }
  exact Prog.wp_preserved kept (Prog.allOps_of_forall (fun _ => trivial) p) excused hQ hD

/-- One operation on files, from a state the processes in flight keep. An operation that is left
comes to its end all the same. -/
theorem wp_tryFileOp {op : FsOp} (P : Node → Prop) {R : op.Res → Node → History Runtime → Prop}
    {Q : Except RuntimeError op.Res → Node → History Runtime → Prop}
    {D : Node → History Runtime → Prop}
    (stable : ∀ node node', P node → node.Lands node' → P node') (holds : P node)
    (steps : ∀ (node : Node) res files, P node → node.files.Step files op res →
      ∀ event, fileEvent event = some ⟨op, some res⟩ → R res { node with files } (h ++ [event]))
    (hQ : ∀ res node h, R res node h → Q (.ok res) node h)
    (hD : ∀ res node h, R res node h → D node h) :
    Prog.wp (runtimeSemantics thread) Q D (tryFileOp op).run node h := by
  intro node₀ drifts
  have before : P node₀ := drifts.keeps P stable holds
  constructor
  · rintro _ outcome node' ⟨res, files, rfl, step, rfl⟩
    exact hD res _ _ (steps node₀ res files before step _ rfl)
  · rintro res node' ⟨files, step, rfl⟩
    exact hQ res _ _ (steps node₀ res files before step _ rfl)

theorem wp_fileOp {op : FsOp} (P : Node → Prop) {R : op.Res → Node → History Runtime → Prop}
    {Q : Except RuntimeError op.Value → Node → History Runtime → Prop}
    {D : Node → History Runtime → Prop}
    (stable : ∀ node node', P node → node.Lands node' → P node') (holds : P node)
    (steps : ∀ (node : Node) res files, P node → node.files.Step files op res →
      ∀ event, fileEvent event = some ⟨op, some res⟩ → R res { node with files } (h ++ [event]))
    (hQ : ∀ res node h, R res node h → Q (res.mapError RuntimeError.filesystem) node h)
    (hD : ∀ res node h, R res node h → D node h) :
    Prog.wp (runtimeSemantics thread) Q D (fileOp op).run node h := by
  apply Fallible.wp_bind.mpr
  exact wp_tryFileOp P stable holds steps hQ hD

/-! ### The cutover -/

/-- An operation that was to succeed and did not excuses the run. -/
theorem excused_of_not_succeeds {op : FsOp} {res : op.Res} {event : Event Runtime}
    (about : fileEvent event = some ⟨op, some res⟩) (failed : ¬op.Succeeds res) :
    Excused (h ++ [event]) :=
  .inl fun succeed => failed ((filesSucceed_append.mp succeed).2 op res about)

theorem cutover_fileEvent (projectId : Uuid) {op : FsOp} {answer : Option op.Res}
    {event : Event Runtime} (about : fileEvent event = some ⟨op, answer⟩) :
    cutover projectId (h ++ [event]) = (cutover projectId h).afterFile projectId op answer := by
  rw [cutover_append, Cutover.after, about]

theorem temporarySiteFile_ne (projectId : Uuid) :
    temporarySiteFile projectId ≠ siteFile projectId := by
  intro same
  injection same with same
  have lengths := congrArg List.length same
  simp only [List.length_cons, List.length_append] at lengths
  omega

/-- What was read is what was there. -/
def IsBefore (before : Option FileEntry) (previous : Option FileContent) : Prop :=
  before = previous.map FileEntry.file

theorem At.stable {state : Cutover} (node node' : Node) (holds : At route before state node h)
    (lands : node.Lands node') : At route before state node' h :=
  (at_preserved 0 (fun _ => True) state).drift node h node' holds lands

theorem wp_readIfPresent {Q : Except RuntimeError (Option FileContent) → Node →
    History Runtime → Prop} {D : Node → History Runtime → Prop}
    (holds : At route before .untouched node h)
    (hQ : ∀ previous node h, At route before .untouched node h →
      Excused h ∨ IsBefore before previous → Q (.ok previous) node h)
    (failed : ∀ error node h, Excused h → Q (.error error) node h)
    (hD : ∀ node h, At route before .untouched node h → D node h) :
    Prog.wp (runtimeSemantics thread) Q D (readIfPresent (siteFile route.projectId)).run node h := by
  apply Fallible.wp_bind.mpr
  apply wp_tryFileOp (fun node => At route before .untouched node h)
    (R := fun res node h => At route before .untouched node h ∧ (Excused h ∨ match res with
      | .ok content => before = some (.file content)
      | .error error => error.notFound = true ∧ before = none)) At.stable holds
  case steps =>
    intro node res files untouched step event about
    rcases untouched with excused | ⟨there, file⟩
    · exact ⟨.inl (excused.append event), .inl (excused.append event)⟩
    have state := cutover_fileEvent (h := h) route.projectId about
    have same : files = node.files := by cases res <;> exact step.1
    subst same
    refine ⟨.inr ⟨state.trans there, file⟩, ?_⟩
    cases res with
    | ok content => exact .inr (file.symm.trans step.2)
    | error error =>
        cases notFound : error.notFound with
        | true => exact .inr ⟨notFound, file.symm.trans (step.2 notFound)⟩
        | false =>
            left
            apply excused_of_not_succeeds about
            intro succeeds
            rw [succeeds error rfl] at notFound
            contradiction
  case hD => exact fun _ node h reached => hD node h reached.1
  case hQ =>
    rintro (error | content) node h ⟨untouched, known⟩
    · simp only []
      split
      · exact hQ none node h untouched (known.imp id fun absent => absent.2)
      · rename_i found
        rcases known with excused | absent
        · exact failed _ node h excused
        · exact absurd absent.1 found
    · exact hQ (some content) node h untouched known

theorem wp_writeRoute {Q : Except RuntimeError RouteSnapshot → Node → History Runtime → Prop}
    {D : Node → History Runtime → Prop} (holds : At route before .untouched node h)
    (hQ : ∀ previous node h, At route before .replaced node h → IsBefore before previous →
      Q (.ok { path := siteFile route.projectId, previous, changed := true }) node h)
    (excused : ∀ outcome node h, Excused h → Q outcome node h)
    (failed : ∀ error node h, Kept route before node h → Q (.error error) node h)
    (hD : ∀ node h, Kept route before node h → D node h) :
    Prog.wp (runtimeSemantics thread) Q D (writeRoute route).run node h := by
  have untouchedD : ∀ node h, At route before .untouched node h → D node h :=
    fun node h untouched => hD node h ⟨_, untouched⟩
  have excusedD : ∀ node h, Excused h → D node h :=
    fun node h excused => hD node h ⟨.untouched, .inl excused⟩
  -- The directory is there.
  apply Fallible.wp_bind.mpr
  apply Prog.wp_preserved (at_preserved thread (fun _ => True) .untouched) (asks_fileOp rfl) holds
    _ untouchedD
  rintro (error | _) node h untouched
  · exact failed error node h ⟨_, untouched⟩
  -- The old file is read.
  apply Fallible.wp_bind.mpr
  apply wp_readIfPresent untouched
    _ (fun error node h broken => excused _ node h broken) untouchedD
  intro previous node h untouched known
  rcases known with broken | known
  · exact wp_excused broken excused excusedD
  -- The new file is written beside it.
  apply Fallible.wp_bind.mpr
  apply wp_fileOp (fun node => At route before .untouched node h)
    (R := fun _ node h => At route before .untouched node h ∧ (Excused h ∨
      node.files (temporarySiteFile route.projectId) =
        some (.file { text := routeContent route }))) At.stable untouched
  case hD => exact fun _ node h reached => untouchedD node h reached.1
  case steps =>
    intro node res files untouched step event about
    rcases untouched with broken | ⟨there, file⟩
    · exact ⟨.inl (broken.append event), .inl (broken.append event)⟩
    cases res with
    | error error =>
        have broken : Excused (h ++ [event]) :=
          excused_of_not_succeeds about fun succeeds => nomatch succeeds
        exact ⟨.inl broken, .inl broken⟩
    | ok _ =>
        obtain rfl : files = _ := step
        have state := cutover_fileEvent (h := h) route.projectId about
        rw [Cutover.afterFile, if_neg (temporarySiteFile_ne _)] at state
        refine ⟨.inr ⟨state.trans there, ?_⟩, .inr (Function.update_self ..)⟩
        exact (Function.update_of_ne (temporarySiteFile_ne _).symm ..).trans file
  case hQ =>
    rintro (error | _) node h ⟨untouched, written⟩
    · exact failed _ node h ⟨_, untouched⟩
    -- The new file takes its place.
    apply Fallible.wp_bind.mpr
    apply wp_fileOp (fun node => At route before .untouched node h ∧ (Excused h ∨
        node.files (temporarySiteFile route.projectId) =
          some (.file { text := routeContent route })))
      (R := fun res node h => ∃ state, At route before state node h ∧
        (res = .ok () → state = .replaced))
    case stable =>
      intro node node' ⟨untouched, written⟩ lands
      exact ⟨At.stable node node' untouched lands,
        written.imp id fun written => (lands.sameSites _).trans written⟩
    case holds => exact ⟨untouched, written⟩
    case hD => exact fun _ node h ⟨state, there, _⟩ => hD node h ⟨state, there⟩
    case steps =>
      intro node res files ⟨untouched, written⟩ step event about
      rcases untouched with broken | ⟨there, file⟩
      · exact ⟨.replaced, .inl (broken.append event), fun _ => rfl⟩
      rcases written with broken | written
      · exact ⟨.replaced, .inl (broken.append event), fun _ => rfl⟩
      cases res with
      | error error =>
          exact ⟨.replaced, .inl (excused_of_not_succeeds about fun succeeds => nomatch succeeds),
            fun _ => rfl⟩
      | ok _ =>
          obtain ⟨entry, source, rfl⟩ := step
          have state := cutover_fileEvent (h := h) route.projectId about
          rw [Cutover.afterFile, if_pos rfl] at state
          refine ⟨.replaced, .inr ⟨state, ?_⟩, fun _ => rfl⟩
          exact (Function.update_self ..).trans (source.symm.trans written)
    case hQ =>
      rintro (error | _) node h ⟨state, there, replaced⟩
      · exact failed _ node h ⟨_, there⟩
      · exact hQ previous node h (replaced rfl ▸ there) known

/-- The rollback puts back what was there, or cannot take the new file away. -/
theorem wp_restore {previous : Option FileContent} {changed : Bool}
    {Q : Except RuntimeError Unit → Node → History Runtime → Prop}
    {D : Node → History Runtime → Prop} (holds : At route before .replaced node h)
    (known : IsBefore before previous)
    (hQ : ∀ outcome node h, Kept route before node h → Q outcome node h)
    (hD : ∀ node h, Kept route before node h → D node h) :
    Prog.wp (runtimeSemantics thread) Q D
      (RouteSnapshot.restore { path := siteFile route.projectId, previous, changed }).run
      node h := by
  cases previous with
  | some content =>
      apply wp_fileOp (fun node => At route before .replaced node h)
        (R := fun _ node h => Kept route before node h) At.stable holds _
        (fun _ node h kept => hQ _ node h kept) (fun _ => hD)
      intro node res files replaced step event about
      rcases replaced with broken | ⟨there, file⟩
      · exact ⟨.replaced, .inl (broken.append event)⟩
      cases res with
      | error error =>
          exact ⟨.replaced, .inl (excused_of_not_succeeds about fun succeeds => nomatch succeeds)⟩
      | ok _ =>
          obtain rfl : files = _ := step
          have state := cutover_fileEvent (h := h) route.projectId about
          rw [Cutover.afterFile, if_pos rfl] at state
          exact ⟨.restored, .inr ⟨state, (Function.update_self ..).trans known.symm⟩⟩
  | none =>
      apply Fallible.wp_bind.mpr
      apply wp_tryFileOp (fun node => At route before .replaced node h)
        (R := fun _ node h => Kept route before node h) At.stable holds _ _ (fun _ => hD)
      · intro node res files replaced step event about
        rcases replaced with broken | ⟨there, file⟩
        · exact ⟨.replaced, .inl (broken.append event)⟩
        have state := cutover_fileEvent (h := h) route.projectId about
        cases res with
        | ok _ =>
            obtain ⟨_, rfl⟩ := step
            exact ⟨.restored, .inr ⟨state.trans (if_pos rfl),
              (Function.update_self ..).trans known.symm⟩⟩
        | error error =>
            obtain ⟨rfl, absent⟩ := step
            have state := state.trans (if_pos rfl)
            cases notFound : error.notFound with
            | true =>
                exact ⟨.restored, .inr ⟨state.trans (if_pos notFound),
                  (absent notFound).trans known.symm⟩⟩
            | false =>
                have present : ¬error.notFound = true := by simp [notFound]
                exact ⟨.stuck, .inr ⟨state.trans (if_neg present), file⟩⟩
      · rintro (error | _) node h kept
        · dsimp only
          split <;> exact hQ _ node h kept
        · exact hQ _ node h kept

theorem wp_reloadOrRestore (manager : RouteManager) {previous : Option FileContent} {changed : Bool}
    {Q : Except RuntimeError Unit → Node → History Runtime → Prop}
    {D : Node → History Runtime → Prop} (holds : At route before .replaced node h)
    (known : IsBefore before previous)
    (hQ : ∀ outcome node h, Kept route before node h → Q outcome node h)
    (hD : ∀ node h, Kept route before node h → D node h) :
    Prog.wp (runtimeSemantics thread) Q D (manager.reloadOrRestore
      { path := siteFile route.projectId, previous, changed }).run node h := by
  apply Fallible.wp_attempt.mpr
  apply Prog.wp_preserved (at_preserved thread (fun _ => True) .replaced)
    (asks_validateAndReload (fun _ _ => trivial) manager) holds _
    (fun node h replaced => hD node h ⟨_, replaced⟩)
  rintro (error | _) node h replaced
  · apply Fallible.wp_bind.mpr
    apply wp_restore replaced known _ hD
    rintro (error' | _) node h kept
    · exact hQ _ node h kept
    · apply Fallible.wp_bind.mpr
      apply Prog.wp_preserved (kept_preserved thread (fun _ => True))
        (asks_reloadAfterRollback (fun _ _ => trivial) manager) kept _ hD
      rintro (error' | _) node h kept
      · exact hQ _ node h kept
      · exact hQ _ node h kept
  · exact hQ _ node h ⟨_, replaced⟩

/-- An activation, however it ends and wherever it is left. -/
theorem wp_activate (manager : RouteManager)
    {Q : Except RuntimeError Unit → Node → History Runtime → Prop}
    {D : Node → History Runtime → Prop} (holds : At route before .untouched node h)
    (hQ : ∀ outcome node h, Kept route before node h → Q outcome node h)
    (hD : ∀ node h, Kept route before node h → D node h) :
    Prog.wp (runtimeSemantics thread) Q D (manager.activate route).run node h := by
  have released : ∀ (outcome : Except RuntimeError Unit) node h, Kept route before node h →
      Prog.wp (runtimeSemantics thread) Q D
        (do
          Fallible.perform (I := Runtime) (.release .routes)
          Fallible.ofExcept outcome : RuntimeM Unit).run node h := by
    intro outcome node h kept
    apply Prog.wp_preserved (kept_preserved thread (fun _ => True)) _ kept hQ hD
    exact Fallible.allOps_bind (asks_perform trivial) fun _ => Fallible.allOps_ofExcept _
  have took : Fallible.AllOps (Asks fun _ => True)
      (Fallible.perform (I := Runtime) (ε := RuntimeError) (.lock .routes)) := asks_perform trivial
  apply Fallible.wp_bind.mpr
  apply Prog.wp_preserved (at_preserved thread (fun _ => True) .untouched) took holds _
    (fun node h untouched => hD node h ⟨_, untouched⟩)
  rintro (error | _) node h untouched
  · exact hQ _ node h ⟨_, untouched⟩
  apply Fallible.wp_attempt.mpr
  apply Fallible.wp_bind.mpr
  apply wp_writeRoute untouched _ _ _ hD
  · intro previous node h replaced known
    exact wp_reloadOrRestore manager replaced known released hD
  · rintro (error | snapshot) node h broken
    · exact released _ node h ⟨.untouched, .inl broken⟩
    · exact wp_excused broken (fun outcome node h broken => released outcome node h
        ⟨.untouched, .inl broken⟩) (fun node h broken => hD node h ⟨.untouched, .inl broken⟩)
  · exact fun error node h kept => released _ node h kept

/-! ### The deployment -/

/-- The flag of a run is only set by its cutover. -/
def FlagKnown (thread : ThreadId) (node : Node) (h : History Runtime) : Prop :=
  node.activated thread = true → Committed h

theorem flagKnown_preserved (thread : ThreadId) :
    Prog.Preserves (runtimeSemantics thread) (fun _ => True) (FlagKnown thread) where
  done op _ node h res node' known step := by
    have unchanged : node'.activated = node.activated → FlagKnown thread node' (h ++ [.done op res]) :=
      fun same activated => List.mem_append_left _ (known (by rwa [same] at activated))
    cases op with
    | setRouteActivated value =>
        obtain rfl : node' = _ := step
        intro activated
        obtain rfl : value = true := by simpa using activated
        exact List.mem_append_right _ List.mem_cons_self
    | process spec =>
        obtain ⟨files, docker, _, rfl, _⟩ := step.2
        exact unchanged rfl
    | file op =>
        obtain ⟨files, _, rfl⟩ := step
        exact unchanged rfl
    | acquireBuildPermit =>
        rcases step with ⟨_, _, rfl⟩ | ⟨_, rfl⟩ <;> exact unchanged rfl
    | lock which => exact unchanged (by rw [step.2])
    | routeActivated => exact unchanged (by rw [step.2])
    | _ => exact unchanged (by rw [show node' = _ from step])
  abandoned op _ node h outcome node' known left := by
    have same : node'.activated = node.activated := by
      cases op with
      | file op =>
          obtain ⟨res, files, _, _, rfl⟩ := left
          rfl
      | _ => rw [left.2]
    exact fun activated => List.mem_append_left _ (known (by rwa [same] at activated))
  fired which op node h known := fun activated => List.mem_append_left _ (known activated)
  drift node h node' known lands := by
    obtain ⟨_, _, _, _, _, _, _, rfl, _⟩ := lands
    exact known

theorem wp_deployInner (executor : DockerRuntimeExecutor) (deployment : Deployment)
    (isRoute : deployment.request.route = route) (holds : At route before .untouched node h) :
    Prog.wp (runtimeSemantics thread) (fun _ => Kept route before) (Kept route before)
      (executor.deployInner deployment).run node h := by
  have left : ∀ node h, At route before .untouched node h → Kept route before node h :=
    fun node h untouched => ⟨_, untouched⟩
  have untouched : Prog.Preserves (runtimeSemantics thread) (Asks fun _ => True)
      (At route before .untouched) := at_preserved thread _ .untouched
  apply Fallible.wp_bind.mpr
  apply Prog.wp_preserved untouched
    (asks_buildImage (fun _ _ => trivial) executor fun _ _ _ _ => trivial) holds _ left
  rintro (error | builder) node h built
  · exact left node h built
  apply Fallible.wp_bind.mpr
  apply Prog.wp_preserved untouched
    (asks_startCandidate (fun _ _ => trivial) executor fun _ _ => trivial) built _ left
  rintro (error | _) node h started
  · exact left node h started
  apply Fallible.wp_bind.mpr
  rw [isRoute]
  apply wp_activate executor.routes started _ (fun _ _ kept => kept)
  rintro (error | _) node h kept
  · exact kept
  -- From the cutover on nothing is asked of the run any more.
  apply Fallible.wp_perform.mpr
  intro node₀ _
  refine ⟨(fun suspends => nomatch suspends), fun _ node' _ => ?_⟩
  have committed : Excused (h ++ [.done (.setRouteActivated true) ()]) :=
    .inr (List.mem_append_right _ List.mem_cons_self)
  exact wp_excused committed (fun _ _ _ excused => ⟨.untouched, .inl excused⟩)
    fun _ _ excused => ⟨.untouched, .inl excused⟩

/-- Events that are not about files change nothing of what a history says of the route file. -/
theorem Kept.insert {quiet : History Runtime} {event : Event Runtime}
    (none : ∀ other ∈ quiet, fileEvent other = none) (kept : Kept route before node (h ++ [event])) :
    Kept route before node (h ++ quiet ++ [event]) := by
  obtain ⟨state, broken | ⟨there, file⟩⟩ := kept
  · refine ⟨state, .inl ?_⟩
    rcases broken with failed | committed
    · refine .inl fun succeed => failed fun other member => succeed other ?_
      simp only [List.mem_append] at member ⊢
      exact member.imp_left .inl
    · right
      simp only [Committed, List.mem_append] at committed ⊢
      exact committed.imp_left .inl
  · refine ⟨state, .inr ⟨?_, file⟩⟩
    have same : ∀ state, quiet.foldl (Cutover.after route.projectId) state = state := by
      intro state
      induction quiet with
      | nil => rfl
      | cons other quiet ih =>
          have skipped : state.after route.projectId other = state := by
            rw [Cutover.after, none other List.mem_cons_self]
          rw [List.foldl_cons, skipped]
          exact ih fun later member => none later (List.mem_cons_of_mem _ member)
    rw [← there, cutover, cutover, List.foldl_append, List.foldl_append, same, List.foldl_append]

/-- The deployment raced with the cancellation: before the cutover it is left where it waits. -/
theorem wp_untilCancelled {future : RuntimeM Unit}
    {Q : Except RuntimeError (Except RuntimeError Unit) → Node → History Runtime → Prop}
    (flag : FlagKnown thread node h)
    (pre : Prog.wp (runtimeSemantics thread) (fun _ => Kept route before) (Kept route before)
      future.run node h)
    (hQ : ∀ outcome node h, Kept route before node h → Q (.ok outcome) node h) :
    Prog.wp (runtimeSemantics thread) Q (Kept route before) (untilCancelled future).run node h := by
  apply Prog.wp_bind.mpr
  apply Prog.wp_race (flagKnown_preserved thread) (Prog.allOps_of_forall (fun _ => trivial) _) flag
    pre
  case hQ => exact fun outcome node h kept => hQ outcome node h kept
  case hD => exact fun _ _ kept => kept
  intro op next node h suspends flag rest node₀ drifts
  refine ⟨(fun suspends => nomatch suspends), ?_⟩
  rintro activated node' ⟨rfl, rfl⟩
  cases isActivated : node'.activated thread with
  | true =>
      -- The flag is set: the run goes on to its end, and is past its cutover.
      have committed : Committed h :=
        (flagKnown_preserved thread).drifts drifts flag isActivated
      have excused : Excused ((h ++ [.fired .cancelled op]) ++ [.done .routeActivated true]) :=
        (Excused.append (.inr committed) _).append _
      exact wp_excused excused (fun outcome node h broken => hQ outcome node h
        ⟨.untouched, .inl broken⟩) fun _ _ broken => ⟨.untouched, .inl broken⟩
  | false =>
      apply Prog.wp_drop suspends (Prog.wp_call_drifts rest drifts)
      intro node' outcome kept
      apply hQ
      have seen : ∀ event ∈ ([.fired .cancelled op, .done .routeActivated false] : History Runtime),
          fileEvent event = none := by
        intro event member
        simp only [List.mem_cons, List.not_mem_nil, or_false] at member
        rcases member with rfl | rfl <;> rfl
      simpa using Kept.insert seen kept

theorem wp_runCheckedOut (executor : DockerRuntimeExecutor) (deployment : Deployment)
    (isRoute : deployment.request.route = route) (holds : At route before .untouched node h) :
    Prog.wp (runtimeSemantics thread) (fun _ => Kept route before) (Kept route before)
      (executor.runCheckedOut deployment).run node h := by
  have kept : Prog.Preserves (runtimeSemantics thread) (Asks fun _ => True) (Kept route before) :=
    kept_preserved thread _
  apply Fallible.wp_perform.mpr
  intro node₀ drifts
  have started : At route before .untouched node₀ h :=
    (at_preserved thread (fun _ => True) .untouched).drifts drifts holds
  refine ⟨(fun suspends => nomatch suspends), ?_⟩
  rintro _ node' rfl
  have reset : At route before .untouched
      { node₀ with activated := Function.update node₀.activated thread false }
      (h ++ [.done (.setRouteActivated false) ()]) :=
    started.quiet (fun _ => rfl) fun _ _ about => nomatch about
  apply Fallible.wp_bind.mpr
  apply wp_untilCancelled
  · intro activated
    have unset : Function.update node₀.activated thread false thread = true := activated
    rw [Function.update_self] at unset
    contradiction
  · exact wp_deployInner executor deployment isRoute reset
  intro result node h holds
  exact Prog.wp_of_allOps kept (asks_afterDeployment executor trivial trivial result) holds

/-- Wherever a deployment ends, its route file is where the history says. -/
theorem route_kept (executor : DockerRuntimeExecutor) (request : DeployProjectRequest)
    (node : Node) :
    Prog.wp (runtimeSemantics thread) (fun _ => Kept request.route (node.files
      (siteFile request.projectId))) (Kept request.route (node.files (siteFile request.projectId)))
      (executor.runDeployment request).run node [] := by
  apply Fallible.wp_bind.mpr
  apply Prog.wp_preserved (at_preserved thread (fun _ => True) .untouched)
    (asks_prepareDeployment (fun _ _ => trivial) executor request) (.inr ⟨rfl, rfl⟩) _
    fun node h untouched => ⟨_, untouched⟩
  rintro (error | prepared) node h untouched
  · exact ⟨_, untouched⟩
  · exact wp_runCheckedOut executor _ rfl untouched

end Kept

/-! ### The commit point -/

/-- A deployment that ends in an error before its cutover leaves the route file of its project as it
was exactly when it was not left between the new file and its rollback, or the file had the new
content already. -/
theorem route_unchanged_exact (executor : DockerRuntimeExecutor) (thread : ThreadId)
    (request : DeployProjectRequest) (node node' : Node) (h : History Runtime)
    (error : RuntimeError)
    (run : Exec (runtimeSemantics thread) (executor.runDeployment request).run node []
      (.error error) node' h)
    (uncommitted : ¬Committed h) (succeed : FilesSucceed h) :
    node'.files (siteFile request.projectId) = node.files (siteFile request.projectId) ↔
      ¬(cutover request.projectId h).IsOpen ∨
        node.files (siteFile request.projectId) =
          some (.file { text := routeContent request.route }) := by
  obtain ⟨state, broken | ⟨there, file⟩⟩ :=
    Prog.wp_sound (fun _ => Kept request.route _) run (route_kept executor request node)
  · exact absurd broken (not_or.mpr ⟨not_not.mpr succeed, uncommitted⟩)
  have there : cutover request.projectId h = state := there
  rw [show node'.files (siteFile request.projectId) = _ from file, there]
  cases state <;> simp [Cutover.site, Cutover.IsOpen, eq_comm]

/-! ### A cancellation after the new file -/

/-- The cancellation is seen while the router validates the new file. -/
def cancelledScript : NodeScript :=
  { Sample.script with
    fires := fun _ which op =>
      match which, op with
      | .cancelled, .process spec =>
          decide (spec.line = (Sample.executor.routes.command "validate").line)
      | _, _ => false }

def cancelledRun : Option (Except RuntimeError CommandOutput × Node × History Runtime) :=
  (Sample.executor.runDeployment (Sample.deployment 1)).run.play (cancelledScript.script 0)
    Sample.node []

/-- Neither a file that could not be read, written or renamed, nor a cutover. -/
def isPlain : Event Runtime → Bool
  | .done (.file (.read _)) res => match res with
      | .ok _ => true
      | .error error => error.notFound
  | .done (.file (.write _ _)) res => res.isOk
  | .done (.file (.rename _ _)) res => res.isOk
  | .done (.setRouteActivated value) _ => !value
  | .abandoned (.file _) _ => false
  | _ => true

theorem filesSucceed_of_isPlain {h : History Runtime} (plain : h.all isPlain = true) :
    FilesSucceed h := by
  intro event member op res about
  have plain : isPlain event = true := List.all_eq_true.mp plain event member
  have isOk : ∀ {α : Type} {res : Except IoError α}, res.isOk = true → ∃ value, res = .ok value := by
    rintro α (error | value) good
    · cases good
    · exact ⟨value, rfl⟩
  unfold fileEvent at about
  split at about
  · cases about
    cases op with
    | read path =>
        rintro error rfl
        exact plain
    | write path content => exact (isOk plain).elim fun _ same => same
    | rename source target => exact (isOk plain).elim fun _ same => same
    | _ => trivial
  · cases about
    cases plain
  · cases about

theorem not_committed_of_isPlain {h : History Runtime} (plain : h.all isPlain = true) :
    ¬Committed h := by
  intro member
  have plain := List.all_eq_true.mp plain _ member
  cases plain

/-- The deployment is cancelled, nothing has failed before, and the route file is there. -/
def leavesRoute : Except RuntimeError CommandOutput × Node × History Runtime → Bool
  | (.error .cancelled, node, h) => h.all isPlain && (node.files (siteFile (Sample.uuid 1))).isSome
  | _ => false

theorem cancelledRun_ends : ∃ node h, cancelledRun = some (.error .cancelled, node, h) ∧
    ¬Committed h ∧ FilesSucceed h ∧ node.files (siteFile (Sample.uuid 1)) ≠ none := by
  have ends : ∃ run, cancelledRun = some run ∧ leavesRoute run = true := by
    apply (Option.any_eq_true ..).mp
    decide +kernel
  obtain ⟨⟨outcome, node, h⟩, played, checked⟩ := ends
  unfold leavesRoute at checked
  split at checked
  · rename_i outcome node h same
    cases same
    rw [Bool.and_eq_true] at checked
    refine ⟨node, h, played, not_committed_of_isPlain checked.1, filesSucceed_of_isPlain checked.1, ?_⟩
    intro absent
    rw [absent] at checked
    cases checked.2
  · cases checked

/-- The deployment returns an error before its cutover, and its new route file stays. -/
theorem route_left_behind : ∃ node h,
    Exec (runtimeSemantics 0) (Sample.executor.runDeployment (Sample.deployment 1)).run Sample.node []
      (.error .cancelled) node h ∧ ¬Committed h ∧ FilesSucceed h ∧
    node.files (siteFile (Sample.deployment 1).projectId) ≠
      Sample.node.files (siteFile (Sample.deployment 1).projectId) := by
  obtain ⟨node, h, played, uncommitted, succeed, present⟩ := cancelledRun_ends
  exact ⟨node, h, Prog.play_sound (cancelledScript.sound 0) played, uncommitted, succeed, present⟩

/-- The same run, by the theorem: it stopped behind the new file. -/
theorem route_unchanged_exact_left : ∃ node h,
    Exec (runtimeSemantics 0) (Sample.executor.runDeployment (Sample.deployment 1)).run Sample.node []
      (.error .cancelled) node h ∧
    (cutover (Sample.deployment 1).projectId h).IsOpen := by
  obtain ⟨node, h, played, uncommitted, succeed, present⟩ := cancelledRun_ends
  have run := Prog.play_sound (cancelledScript.sound 0) played
  refine ⟨node, h, run, ?_⟩
  have unchanged := route_unchanged_exact Sample.executor 0 (Sample.deployment 1) Sample.node node h
    .cancelled run uncommitted succeed
  by_contra closed
  exact present (unchanged.mpr (.inl closed))

end SakalaAgent
