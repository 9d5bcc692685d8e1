/-
Module: SakalaAgent.Proofs.RouteFile
Layer: Proofs
Purpose: The route file of an accepted payload: four lines, from which the identity, the domain, the
  upstream and the port are read back, whatever texts the payload holds.
Trusted boundary: none
Main exports: readRouteFile, UnderZone, route_not_injectable
-/
import SakalaAgent.Proofs.CommittedDeployment
import SakalaAgent.Proofs.ValidPayload

namespace SakalaAgent

open Async

/-! ### Reading a route file -/

/-- What a route file tells. -/
structure RouteFileParts where
  projectId : Uuid
  deploymentId : Uuid
  domain : Text
  upstream : Text
  port : Nat
deriving DecidableEq

/-- The identities in the marker of a route file. -/
def readMarker (marker : Text) : Option (Uuid × Uuid) := do
  let owner ← Text.stripStart marker managedRoutePrefix
  let identities ← Text.stripEnd owner ".".toList
  let deployment ← Text.stripStart (identities.drop 36) " deployment ".toList
  let projectId ← Uuid.parseText (identities.take 36)
  let deploymentId ← Uuid.parseText deployment
  return (projectId, deploymentId)

/-- What a directive begins with. -/
def directivePrefix : Text := "\treverse_proxy ".toList

/-- The upstream and the port of a directive. -/
def readDirective (directive : Text) : Option (Text × Nat) := do
  let target ← Text.stripStart directive directivePrefix
  match Text.splitOn ':' target with
  | [upstream, port] => do
      let port ← Text.parseNat (2 ^ 16) port
      return (upstream, port)
  | _ => none

/-- A route file that is exactly a marker, a site block for one address with one directive in it, and
the brace that closes the block. -/
def readRouteFile (content : Text) : Option RouteFileParts :=
  match Text.splitOn '\n' content with
  | [marker, opening, directive, ['\x7d'], []] => do
      let (projectId, deploymentId) ← readMarker marker
      let domain ← Text.stripEnd opening ":80 \x7b".toList
      let (upstream, port) ← readDirective directive
      return { projectId, deploymentId, domain, upstream, port }
  | _ => none

theorem readMarker_deploymentPrefix (projectId deploymentId : Uuid) :
    readMarker (deploymentPrefix projectId deploymentId) = some (projectId, deploymentId) := by
  have length : projectId.toText.length = 36 := toText_length projectId
  have marker : deploymentPrefix projectId deploymentId = managedRoutePrefix ++
      ((projectId.toText ++ (" deployment ".toList ++ deploymentId.toText)) ++ ".".toList) := by
    simp only [deploymentPrefix, currentPrefix, ownedPrefix, List.append_assoc]
  have first : (projectId.toText ++ (" deployment ".toList ++ deploymentId.toText)).take 36 =
      projectId.toText := List.take_left' length
  have second : (projectId.toText ++ (" deployment ".toList ++ deploymentId.toText)).drop 36 =
      " deployment ".toList ++ deploymentId.toText := List.drop_left' length
  rw [readMarker, marker, Text.stripStart_append]
  simp only [Option.bind_eq_bind, Option.bind_some, Text.stripEnd_append, first, second,
    Text.stripStart_append, Uuid.parseText_toText]
  rfl

/-! ### The lines -/

def routeOpening (domain : Text) : Text :=
  domain ++ ":80 \x7b".toList

def routeDirective (upstream : Text) (port : UInt16) : Text :=
  directivePrefix ++ (upstream ++ ':' :: natText port.toNat)

theorem not_mem_natText {character : Char} (noDigit : character.isDigit = false) (value : Nat) :
    character ∉ natText value := by
  intro member
  rw [Text.isDigit_of_mem_toString member] at noDigit
  cases noDigit

/-- A text in which nothing is written but the characters of names. -/
structure Solid (text : Text) : Prop where
  noFeed : '\n' ∉ text
  noColon : ':' ∉ text

theorem readDirective_routeDirective {upstream : Text} (solid : Solid upstream) (port : UInt16) :
    readDirective (routeDirective upstream port) = some (upstream, port.toNat) := by
  have digits : ':' ∉ natText port.toNat := not_mem_natText (by decide) port.toNat
  have pieces : Text.splitOn ':' (upstream ++ ':' :: natText port.toNat) =
      [upstream, natText port.toNat] := by
    rw [Text.splitOn_append _ solid.noColon, Text.splitOn_of_not_mem digits]
  have read : Text.parseNat (2 ^ 16) (natText port.toNat) = some port.toNat :=
    Text.parseNat_toString port.toNat_lt
  rw [readDirective, routeDirective, Text.stripStart_append]
  simp only [Option.bind_eq_bind, Option.bind_some, pieces, read]
  rfl

/-- No white space stands in a marker but the blanks of its fixed texts. -/
theorem not_mem_ownedPrefix {character : Char} (space : Text.isWhiteSpace character = true)
    (marker : character ∉ managedRoutePrefix) (projectId : Uuid) :
    character ∉ ownedPrefix projectId := by
  simp only [ownedPrefix, List.mem_append, not_or]
  exact ⟨marker, not_mem_toText space⟩

theorem not_mem_deploymentPrefix {character : Char} (space : Text.isWhiteSpace character = true)
    (marker : character ∉ managedRoutePrefix) (between : character ∉ " deployment ".toList)
    (projectId deploymentId : Uuid) : character ∉ deploymentPrefix projectId deploymentId := by
  have dot : character ∉ ".".toList := by
    intro member
    obtain rfl := List.mem_singleton.mp member
    cases space
  simp only [deploymentPrefix, currentPrefix, List.mem_append, not_or]
  exact ⟨⟨not_mem_ownedPrefix space marker projectId, between⟩, not_mem_toText space, dot⟩

/-- The lines of a route file. -/
theorem splitOn_routeContent {route : RouteSpec} (domain : Solid route.domain.toList)
    (upstream : Solid route.upstream) :
    Text.splitOn '\n' (routeContent route) =
      [deploymentPrefix route.projectId route.deploymentId, routeOpening route.domain.toList,
        routeDirective route.upstream route.port, ['\x7d'], []] := by
  have opening : '\n' ∉ routeOpening route.domain.toList := by
    have fixed : '\n' ∉ ":80 \x7b".toList := by decide
    simp only [routeOpening, List.mem_append, not_or]
    exact ⟨domain.noFeed, fixed⟩
  have directive : '\n' ∉ routeDirective route.upstream route.port := by
    have fixed : '\n' ∉ directivePrefix := by decide
    have digits : '\n' ∉ natText route.port.toNat := not_mem_natText (by decide) route.port.toNat
    simp only [routeDirective, List.mem_append, List.mem_cons, not_or]
    exact ⟨fixed, upstream.noFeed, by decide, digits⟩
  have closing : '\n' ∉ ['\x7d'] := by decide
  have marker : '\n' ∉ deploymentPrefix route.projectId route.deploymentId :=
    not_mem_deploymentPrefix rfl (by decide) (by decide) _ _
  have lines : routeContent route = deploymentPrefix route.projectId route.deploymentId ++
      '\n' :: (routeOpening route.domain.toList ++ '\n' :: (routeDirective route.upstream route.port ++
        '\n' :: (['\x7d'] ++ '\n' :: []))) := by
    simp only [routeContent, routeOpening, routeDirective, List.append_assoc, List.cons_append]
    rfl
  rw [lines, Text.splitOn_append _ marker, Text.splitOn_append _ opening,
    Text.splitOn_append _ directive, Text.splitOn_append _ closing]
  rfl

theorem readRouteFile_routeContent {route : RouteSpec} (domain : Solid route.domain.toList)
    (upstream : Solid route.upstream) :
    readRouteFile (routeContent route) = some
      { projectId := route.projectId
        deploymentId := route.deploymentId
        domain := route.domain.toList
        upstream := route.upstream
        port := route.port.toNat } := by
  rw [readRouteFile, splitOn_routeContent domain upstream]
  simp only [readMarker_deploymentPrefix, routeOpening, Text.stripEnd_append,
    readDirective_routeDirective upstream, Option.bind_eq_bind, Option.bind_some]
  rfl

/-! ### Domains and upstreams -/

/-- The zones of the runtime. -/
def runtimeZones : List Text :=
  ["run.sakala.localhost", "run.staging.sakala.dev", "run.sakala.dev"].map String.toList

/-- A name of one or more labels before a zone of the runtime. -/
def UnderZone (domain : Text) : Prop :=
  ∃ zone ∈ runtimeZones, ∃ host, domain = host ++ '.' :: zone ∧ host ≠ [] ∧
    ∀ label ∈ Text.splitOn '.' host, validLabel label = true

theorem underZone_of_validDomain {domain : Text} (valid : validDomain domain = true) :
    UnderZone domain := by
  simp only [validDomain, Bool.and_eq_true, Bool.or_eq_true, List.all_eq_true] at valid
  obtain ⟨⟨ends, _⟩, labels⟩ := valid
  obtain ⟨zone, isZone, suffix⟩ : ∃ zone ∈ runtimeZones,
      Text.endsWith domain ('.' :: zone) = true := by
    rcases ends with (localhost | staging) | production
    · exact ⟨_, List.mem_cons_self, localhost⟩
    · exact ⟨_, List.mem_cons_of_mem _ List.mem_cons_self, staging⟩
    · exact ⟨_, List.mem_cons_of_mem _ (List.mem_cons_of_mem _ List.mem_cons_self), production⟩
  obtain ⟨host, rfl⟩ := List.isSuffixOf_iff_suffix.mp suffix
  rw [Text.splitOn_append_cons] at labels
  have hosts : ∀ label ∈ Text.splitOn '.' host, validLabel label = true :=
    fun label member => labels label (List.mem_append_left _ member)
  refine ⟨zone, isZone, host, rfl, ?_, hosts⟩
  rintro rfl
  have empty := hosts [] List.mem_cons_self
  cases empty

theorem solid_of_validDomain {domain : Text} (valid : validDomain domain = true) : Solid domain := by
  have absent : ∀ character : Char, character ≠ '.' → isLabelCharacter character = false →
      character ∉ domain := by
    intro character other noLabel member
    rcases mem_of_validDomain valid member with dot | isLabel
    · exact other dot
    · rw [noLabel] at isLabel
      cases isLabel
  exact ⟨absent '\n' (by decide) rfl, absent ':' (by decide) rfl⟩

theorem isLabelCharacter_of_mem_toText {uuid : Uuid} :
    ∀ character ∈ uuid.toText, isLabelCharacter character = true := by
  have digits : ∀ digit, isLabelCharacter (Uuid.hexDigit digit) = true := by decide
  intro character member
  rcases Uuid.mem_toText member with rfl | ⟨digit, rfl⟩
  · rfl
  · exact digits digit

theorem isLabelCharacter_of_mem_containerName {projectId deploymentId : Uuid} :
    ∀ character ∈ containerName projectId deploymentId, isLabelCharacter character = true := by
  have fixed : ∀ character ∈ "sakala-app-".toList, isLabelCharacter character = true := by decide
  intro character member
  rcases List.mem_append.mp member with start | member
  · exact fixed character start
  · rcases List.mem_append.mp member with project | member
    · exact isLabelCharacter_of_mem_toText character (List.mem_of_mem_take project)
    · rcases List.mem_cons.mp member with rfl | deployment
      · rfl
      · exact isLabelCharacter_of_mem_toText character deployment

/-- Each character of a label takes one byte. -/
theorem byteLength_of_isLabelCharacter {text : Text}
    (label : ∀ character ∈ text, isLabelCharacter character = true) :
    Text.byteLength text = text.length := by
  induction text with
  | nil => rfl
  | cons character rest ih =>
      have code := code_of_isLabelCharacter (label character List.mem_cons_self)
      have small : character.val.toNat ≤ 127 := by
        change character.toNat ≤ 127
        omega
      have one : character.utf8Size = 1 :=
        Char.utf8Size_eq_one_iff.mpr (UInt32.le_iff_toNat_le.mpr small)
      rw [Text.byteLength_cons, one, ih fun other member => label other (List.mem_cons_of_mem _ member),
        List.length_cons, Nat.add_comm]

/-- A UUID ends with a digit. -/
theorem getLast?_toText (uuid : Uuid) :
    ∃ digit, uuid.toText.getLast? = some (Uuid.hexDigit digit) := by
  have length : (uuid.digits.drop 20).length = 12 := by simp [uuid.complete]
  obtain ⟨front, digit, behind⟩ : ∃ front digit, uuid.digits.drop 20 = front ++ [digit] := by
    rcases List.eq_nil_or_concat (uuid.digits.drop 20) with empty | ⟨front, digit, same⟩
    · rw [empty] at length
      cases length
    · exact ⟨front, digit, same.trans (List.concat_eq_append ..)⟩
  have last : ((uuid.digits.map Uuid.hexDigit).drop 20).getLast? = some (Uuid.hexDigit digit) := by
    rw [← List.map_drop, behind, List.map_append, List.map_singleton, List.getLast?_concat]
  refine ⟨digit, ?_⟩
  simp only [Uuid.toText, Uuid.hyphenated, List.getLast?_append, List.getLast?_cons, last]
  rfl

/-- A container name is one label of a host name. -/
theorem validLabel_containerName (projectId deploymentId : Uuid) :
    validLabel (containerName projectId deploymentId) = true := by
  have label : ∀ character ∈ containerName projectId deploymentId,
      isLabelCharacter character = true := isLabelCharacter_of_mem_containerName
  have length : Text.byteLength (containerName projectId deploymentId) = 56 :=
    (byteLength_of_isLabelCharacter label).trans (length_containerName projectId deploymentId)
  have last : (containerName projectId deploymentId).getLast? ≠ some '-' := by
    obtain ⟨digit, ends⟩ := getLast?_toText deploymentId
    have noHyphen : ∀ digit, Uuid.hexDigit digit ≠ '-' := by decide
    unfold containerName
    simp only [List.getLast?_append, List.getLast?_cons, ends]
    simpa using noHyphen digit
  have begins : containerName projectId deploymentId = 's' :: ("akala-app-".toList ++
      (projectId.toText.take 8 ++ '-' :: deploymentId.toText)) := rfl
  have isSome : (containerName projectId deploymentId).isEmpty = false := by
    rw [begins]
    rfl
  have first : (containerName projectId deploymentId).head? ≠ some '-' := by
    rw [begins, List.head?_cons]
    decide
  simp only [validLabel, isSome, length, Bool.not_false, Bool.true_and, Bool.and_eq_true,
    decide_eq_true_eq, List.all_eq_true]
  exact ⟨⟨⟨by decide, first⟩, last⟩, label⟩

/-! ### The file that is written -/

variable {thread : ThreadId} {node node' : Node} {h h' : History Runtime}

/-- Whatever a future does, it comes to an outcome or is left. -/
theorem wp_any {α : Type} (p : RuntimeM α) :
    Prog.wp (runtimeSemantics thread) (fun _ _ _ => True) (fun _ _ => True) p.run node h := by
  have kept : Prog.Preserves (runtimeSemantics thread) (fun _ => True)
      (fun (_ : Node) (_ : History Runtime) => True) :=
    { done := fun _ _ _ _ _ _ _ _ => trivial
      abandoned := fun _ _ _ _ _ _ _ _ => trivial
      fired := fun _ _ _ _ _ => trivial
      drift := fun _ _ _ _ _ => trivial }
  exact Prog.wp_preserved kept (Prog.allOps_of_forall (fun _ => trivial) p.run) trivial
    (fun _ _ _ _ => trivial) (fun _ _ _ => trivial)

/-- A step of a future that has to succeed for the future to do so. -/
theorem wp_first {α β : Type} {p : RuntimeM α} {f : α → RuntimeM β} {P : β → Node → Prop}
    (rest : ∀ value node h, Prog.wp (runtimeSemantics thread)
      (fun outcome node _ => ∀ value, outcome = .ok value → P value node) (fun _ _ => True)
      (f value).run node h) :
    Prog.wp (runtimeSemantics thread) (fun outcome node _ => ∀ value, outcome = .ok value →
      P value node) (fun _ _ => True) (p >>= f).run node h := by
  apply Fallible.wp_bind.mpr
  apply Prog.wp_mono (wp_any p)
  · rintro (error | value) node h -
    · exact nofun
    · exact rest value node h
  · exact fun _ _ _ => trivial

/-- An operation on files that has to succeed for the future to do so, from a state the processes in
flight keep. -/
theorem wp_firstFileOp {op : FsOp} {β : Type} {f : op.Value → RuntimeM β} {P : β → Node → Prop}
    (before after : Node → Prop) (holds : before node)
    (stable : ∀ node node', before node → node.Lands node' → before node')
    (steps : ∀ (node : Node) value files, before node → node.files.Step files op (.ok value) →
      after { node with files })
    (rest : ∀ value node h, after node → Prog.wp (runtimeSemantics thread)
      (fun outcome node _ => ∀ value, outcome = .ok value → P value node) (fun _ _ => True)
      (f value).run node h) :
    Prog.wp (runtimeSemantics thread) (fun outcome node _ => ∀ value, outcome = .ok value →
      P value node) (fun _ _ => True) (fileOp op >>= f).run node h := by
  apply Fallible.wp_bind.mpr
  apply wp_fileOp before (R := fun res node _ => ∀ value, res = .ok value → after node) stable holds
  case hD => exact fun _ _ _ _ => trivial
  case steps =>
    rintro node res files holds step event - value rfl
    exact steps node value files holds step
  case hQ =>
    rintro (error | value) node h reached
    · exact nofun
    · exact rest value node h (reached value rfl)

/-- A route that has been written is the content of the file of its project. -/
theorem content_of_writeRoute {route : RouteSpec} {snapshot : RouteSnapshot}
    (run : Exec (runtimeSemantics thread) (writeRoute route).run node h (.ok snapshot) node' h') :
    node'.files (siteFile route.projectId) = some (.file { text := routeContent route }) := by
  have written : Prog.wp (runtimeSemantics thread) (fun outcome node _ => ∀ snapshot,
      outcome = .ok snapshot →
        node.files (siteFile route.projectId) = some (.file { text := routeContent route }))
      (fun _ _ => True) (writeRoute route).run node h := by
    apply wp_first
    intro _ node h
    apply wp_first
    intro previous node h
    -- the temporary file is written, and takes the place of the old one
    apply wp_firstFileOp (fun _ => True) (fun node =>
      node.files (temporarySiteFile route.projectId) =
        some (.file { text := routeContent route })) trivial
    case stable => exact fun _ _ _ _ => trivial
    case steps =>
      rintro node _ files - step
      obtain rfl : files = _ := step
      exact Function.update_self ..
    case rest =>
      intro _ node h temporary
      apply wp_firstFileOp (fun node => node.files (temporarySiteFile route.projectId) =
          some (.file { text := routeContent route })) (fun node =>
        node.files (siteFile route.projectId) = some (.file { text := routeContent route })) temporary
      case stable =>
        intro node node' same lands
        exact (lands.sameSites _).trans same
      case steps =>
        rintro node _ files source step
        obtain ⟨entry, found, rfl⟩ := step
        exact (Function.update_self ..).trans (found.symm.trans source)
      case rest => exact fun _ node h inPlace _ _ => inPlace
  exact Prog.wp_sound _ run written snapshot rfl

/-! ### No injection -/

/-- The route file of an accepted payload has four lines, and each part of it is read back; the domain
lies under a zone of the runtime, and the upstream is one label of a host name. -/
theorem route_not_injectable (parsers : Parsers) (request : DeployProjectRequest)
    (accepted : validatePayload parsers request.payload = .ok ()) :
    Text.splitOn '\n' (routeContent request.route) =
      [deploymentPrefix request.projectId request.deploymentId,
        request.payload.domain.toList ++ ":80 \x7b".toList,
        directivePrefix ++ (containerName request.projectId request.deploymentId ++
          ':' :: natText request.payload.containerPort.toNat), ['\x7d'], []] ∧
    readRouteFile (routeContent request.route) = some
      { projectId := request.projectId
        deploymentId := request.deploymentId
        domain := request.payload.domain.toList
        upstream := containerName request.projectId request.deploymentId
        port := request.payload.containerPort.toNat } ∧
    (∀ character ∈ request.payload.domain.toList,
      character = '.' ∨ isLabelCharacter character = true) ∧
    UnderZone request.payload.domain.toList ∧
    validLabel (containerName request.projectId request.deploymentId) = true ∧
    Text.byteLength (containerName request.projectId request.deploymentId) ≤ 63 ∧
    ∀ (thread : ThreadId) (node node' : Node) (h h' : History Runtime) (snapshot : RouteSnapshot),
      Exec (runtimeSemantics thread) (writeRoute request.route).run node h (.ok snapshot) node' h' →
      node'.files (siteFile request.projectId) =
        some (.file { text := routeContent request.route }) := by
  have checked := accepted_of_validatePayload accepted
  have label := validLabel_containerName request.projectId request.deploymentId
  have domain : Solid request.route.domain.toList := solid_of_validDomain checked.domain
  have upstream : Solid request.route.upstream := by
    have absent : ∀ character : Char, isLabelCharacter character = false →
        character ∉ containerName request.projectId request.deploymentId := by
      intro character noLabel member
      rw [isLabelCharacter_of_mem_containerName character member] at noLabel
      cases noLabel
    exact ⟨absent '\n' (by decide), absent ':' (by decide)⟩
  refine ⟨splitOn_routeContent domain upstream, readRouteFile_routeContent domain upstream, ?_,
    underZone_of_validDomain checked.domain, label, ?_, ?_⟩
  · exact fun character member => mem_of_validDomain checked.domain member
  · simp only [validLabel, Bool.and_eq_true, decide_eq_true_eq] at label
    exact label.1.1.1.2
  · exact fun thread node node' h h' snapshot run => content_of_writeRoute run

theorem route_not_injectable_sample :
    readRouteFile (routeContent (Sample.deployment 1).route) = some
      { projectId := Sample.uuid 1
        deploymentId := Sample.uuid 1
        domain := "app.run.sakala.dev".toList
        upstream := containerName (Sample.uuid 1) (Sample.uuid 1)
        port := 80 } ∧
    UnderZone "app.run.sakala.dev".toList := by
  obtain ⟨_, read, _, zone, _⟩ :=
    route_not_injectable Sample.executor.parsers (Sample.deployment 1) rfl
  exact ⟨read, zone⟩

end SakalaAgent
