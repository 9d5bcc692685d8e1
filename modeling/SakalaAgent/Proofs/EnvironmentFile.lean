/-
Module: SakalaAgent.Proofs.EnvironmentFile
Layer: Proofs
Purpose: The environment of a container, from the payload to what Docker reads of the file: every
  variable of the payload with its value, and PORT, which reads as the port of the route.
Trusted boundary: none
Main exports: environment_round_trip, port_not_canonical
-/
import SakalaAgent.Async.Warranted
import SakalaAgent.Proofs.ValidPayload
import SakalaAgent.Runtime.NodeScript
import SakalaAgent.Text.EnvFile

namespace SakalaAgent

open Async

/-! ### The environment -/

/-- The environment is a map: its names stand in order, each of them once. -/
def IsMap (environment : List (String × String)) : Prop :=
  environment.Pairwise fun first second => first.1 < second.1

instance (environment : List (String × String)) : Decidable (IsMap environment) :=
  inferInstanceAs (Decidable (List.Pairwise _ _))

variable {environment : List (String × String)} {key value : String}

theorem insertVariable_of_lookup (isMap : IsMap environment)
    (isSet : environment.lookup key = some value) (other : String) :
    insertVariable key other environment = environment := by
  induction environment with
  | nil => cases isSet
  | cons entry rest ih =>
      obtain ⟨name, old⟩ := entry
      obtain ⟨before, later⟩ := List.pairwise_cons.mp isMap
      rw [insertVariable]
      split
      · rfl
      · rename_i differs
        have inRest : rest.lookup key = some value := by
          rwa [List.lookup_cons, beq_false_of_ne differs] at isSet
        obtain ⟨_, _, entries, _⟩ := List.lookup_eq_some_iff.mp inRest
        have less : name < key := before (key, value) (by rw [entries]; simp)
        rw [if_neg (String.lt_asymm less), ih later inRest]

theorem insertVariable_perm (absent : environment.lookup key = none) :
    (insertVariable key value environment).Perm ((key, value) :: environment) := by
  induction environment with
  | nil => exact List.Perm.refl _
  | cons entry rest ih =>
      obtain ⟨name, old⟩ := entry
      rw [List.lookup_cons] at absent
      split at absent
      · cases absent
      · rename_i differs
        rw [insertVariable, if_neg (by simpa using differs)]
        split
        · exact List.Perm.refl _
        · exact ((ih absent).cons _).trans (List.Perm.swap ..)

/-- Digits can be written to an environment file under the name PORT. -/
theorem safeEntry_port (port : UInt16) : safeEntry ("PORT", toString port) = true := by
  have name : validEnvKey "PORT".toList = true := by decide
  have digits : ∀ character ∈ (toString port).toList,
      (character ≠ '\n' && character ≠ '\r' && character ≠ '\x00') = true := by
    intro character member
    have inNumber : character ∈ (toString port.toNat).toList := member
    have isDigit : character.isDigit = true := Text.isDigit_of_mem_toString inNumber
    have other : ∀ breaking : Char, breaking.isDigit = false → character ≠ breaking := by
      rintro breaking noDigit rfl
      rw [isDigit] at noDigit
      cases noDigit
    simp [other '\n' rfl, other '\r' rfl, other '\x00' rfl]
  rw [safeEntry, name, Bool.true_and, List.all_eq_true]
  exact digits

/-- What is safe in a payload is still safe with the port. -/
theorem safeEntry_effectiveEnvironment {port : UInt16} (isMap : IsMap environment)
    (safe : ∀ entry ∈ environment, safeEntry entry = true) :
    ∀ entry ∈ effectiveEnvironment environment port, safeEntry entry = true := by
  intro entry member
  rw [effectiveEnvironment] at member
  cases isSet : environment.lookup "PORT" with
  | some value =>
      rw [insertVariable_of_lookup isMap isSet] at member
      exact safe entry member
  | none =>
      rcases List.mem_cons.mp ((insertVariable_perm isSet).mem_iff.mp member) with rfl | before
      · exact safeEntry_port port
      · exact safe entry before

/-! ### The file -/

/-- A variable as the file holds it. -/
def variableText (entry : String × String) : Text × Text :=
  (entry.1.toList, entry.2.toList)

theorem code_of_validEnvKey {key : Text} (valid : validEnvKey key = true) {character : Char}
    (member : character ∈ key) : character = '_' ∨ character.isUpper = true ∨
      character.isDigit = true := by
  cases key with
  | nil => cases member
  | cons first rest =>
      simp only [validEnvKey, Bool.and_eq_true, Bool.or_eq_true, List.all_eq_true,
        decide_eq_true_eq] at valid
      rcases List.mem_cons.mp member with rfl | later
      · rcases valid.1 with underscore | upper
        · exact Or.inl underscore
        · exact Or.inr (Or.inl upper)
      · rcases valid.2 character later with (underscore | upper) | digit
        · exact Or.inl underscore
        · exact Or.inr (Or.inl upper)
        · exact Or.inr (Or.inr digit)

theorem isWhiteSpace_of_isUpper {character : Char} (upper : character.isUpper = true) :
    Text.isWhiteSpace character = false := by
  simp only [Char.isUpper, decide_eq_true_eq, UInt32.le_iff_toNat_le, ge_iff_le] at upper
  obtain ⟨low, high⟩ := upper
  have low' : 65 ≤ character.toNat := low
  have high' : character.toNat ≤ 90 := high
  apply isWhiteSpace_of_graphic
  · omega
  · omega

theorem writable_of_safeEntry {entry : String × String} (safe : safeEntry entry = true) :
    EnvFile.Writable (variableText entry) := by
  simp only [safeEntry, Bool.and_eq_true, List.all_eq_true] at safe
  obtain ⟨name, value⟩ := safe
  have codes : ∀ character ∈ entry.1.toList, character = '_' ∨ character.isUpper = true ∨
      character.isDigit = true := fun character member => code_of_validEnvKey name member
  have absent : ∀ character : Char, character ≠ '_' → character.isUpper = false →
      character.isDigit = false → character ∉ entry.1.toList := by
    intro character other noUpper noDigit member
    rcases codes character member with underscore | upper | digit
    · exact other underscore
    · rw [noUpper] at upper
      cases upper
    · rw [noDigit] at digit
      cases digit
  refine { starts := ?_, name := ?_, value := ?_ }
  · cases same : entry.1.toList with
    | nil =>
        rw [same] at name
        cases name
    | cons first rest =>
        have inside : first ∈ entry.1.toList := same ▸ List.mem_cons_self
        refine ⟨first, rest, same, ?_, ?_⟩
        · rcases codes first inside with rfl | upper | digit
          · rfl
          · exact isWhiteSpace_of_isUpper upper
          · exact Text.isWhiteSpace_of_isDigit digit
        · rintro rfl
          exact absent '#' (by decide) rfl rfl inside
  · exact ⟨absent '=' (by decide) rfl rfl, absent '\n' (by decide) rfl rfl⟩
  · constructor
    · intro member
      simpa using value '\n' member
    · intro member
      simpa using value '\r' member

/-- The text of a file behind one entry of a history. -/
def writtenBy (path : FilePath) (content : Option Text) : Event Runtime → Option Text
  | .done (.file (.createNew other)) (.ok _) => if other = path then some [] else content
  | .done (.file (.append other text)) (.ok _) =>
      if other = path then content.map fun content => content ++ text else content
  | _ => content

/-- The text of a file that a run has created and appended to. -/
def writtenText (path : FilePath) (h : History Runtime) : Option Text :=
  h.foldl (writtenBy path) none

theorem writtenText_append (path : FilePath) (content : Text) (rest : History Runtime) {text : Text} :
    (Event.done (.file (.append path text)) (.ok ()) :: rest : History Runtime).foldl
        (writtenBy path) (some content) = rest.foldl (writtenBy path) (some (content ++ text)) := by
  rw [List.foldl_cons]
  simp [writtenBy]

/-- The lines of the loop stand one behind the other. -/
theorem written_forM {path : FilePath} {entries : List (String × String)} {content : Text}
    {h : History Runtime} {outcome : Unit}
    (run : (forM entries fun entry : String × String =>
      fileOp (.append path s!"{entry.1}={entry.2}\n".toList) : RuntimeM PUnit).run.Finishes h
        (.ok outcome)) :
    h.foldl (writtenBy path) (some content) =
      some (content ++ EnvFile.write (entries.map variableText)) := by
  induction entries generalizing content h with
  | nil =>
      cases run
      simp [EnvFile.write]
  | cons entry entries ih =>
      rcases Fallible.finishes_bind run with
        ⟨_, _, same⟩ | ⟨first, _, rest, rfl, appended, continued⟩
      · cases same
      · cases appended with
        | @call _ _ res _ _ appended =>
            cases res with
            | error error => cases appended
            | ok _ =>
                cases appended
                rw [List.singleton_append, writtenText_append, ih continued]
                have line : s!"{entry.1}={entry.2}\n".toList =
                    EnvFile.line (variableText entry) ++ ['\n'] := by
                  simp only [EnvFile.line, variableText, String.toList_append,
                    List.append_assoc, List.cons_append]
                  rfl
                rw [line, List.append_assoc]
                rfl

/-- A run that has written the file has written every variable of a non-empty environment to it. -/
theorem written_writeEnvFile {workspace : Text} {entries : List (String × String)}
    {h : History Runtime} {hasFile : Bool} (isSome : entries ≠ [])
    (run : (ContainerEngine.writeEnvFile workspace entries).run.Finishes h (.ok hasFile)) :
    hasFile = true ∧ writtenText (ContainerEngine.envFile workspace) h =
      some (EnvFile.write (entries.map variableText)) := by
  have goesOn : entries.isEmpty = false := by simpa using isSome
  unfold ContainerEngine.writeEnvFile at run
  simp only [goesOn, Bool.false_eq_true, if_false] at run
  rcases Fallible.finishes_bind run with ⟨_, _, same⟩ | ⟨first, _, rest, rfl, created, writing⟩
  · cases same
  cases created with
  | @call _ _ res _ _ created =>
      cases res with
      | error error => cases created
      | ok _ =>
          cases created
          rcases Fallible.finishes_bind writing with
            ⟨_, _, same⟩ | ⟨first, _, rest, rfl, appended, ended⟩
          · cases same
          cases ended
          refine ⟨rfl, ?_⟩
          have started : writtenBy (ContainerEngine.envFile workspace) none
              (.done (.file (.createNew (ContainerEngine.envFile workspace))) (.ok ())) =
                some [] := if_pos rfl
          rw [writtenText, List.append_nil, List.singleton_append, List.foldl_cons, started,
            written_forM appended, List.nil_append]

theorem effectiveEnvironment_ne_nil (environment : List (String × String)) (port : UInt16) :
    effectiveEnvironment environment port ≠ [] := by
  cases environment with
  | nil => exact List.cons_ne_nil _ _
  | cons entry rest =>
      rw [effectiveEnvironment, insertVariable]
      split
      · exact List.cons_ne_nil _ _
      · split
        · exact List.cons_ne_nil _ _
        · exact List.cons_ne_nil _ _

/-- What Docker reads of the environment file of a deployment is the environment of its payload, every
value as it was, and PORT: the one of the payload, which reads as the port of the route, or else that
port in digits. -/
theorem environment_round_trip (parsers : Parsers) (deployment : Deployment) (h : History Runtime)
    (hasFile : Bool) (accepted : validatePayload parsers deployment.payload = .ok ())
    (isMap : IsMap deployment.payload.environment)
    (run : (ContainerEngine.writeEnvFile deployment.runRequest.workspace
      (effectiveEnvironment deployment.runRequest.environment
        deployment.runRequest.port)).run.Finishes h (.ok hasFile)) :
    hasFile = true ∧ ∃ content entries,
      writtenText (ContainerEngine.envFile deployment.runRequest.workspace) h = some content ∧
      EnvFile.read content = entries.map (fun entry : String × String =>
        (entry.1.toList, some entry.2.toList)) ∧
      (∀ port, deployment.payload.environment.lookup "PORT" = some port →
        entries = deployment.payload.environment ∧
          Text.parseNat (2 ^ 16) port.toList = some deployment.request.route.port.toNat) ∧
      (deployment.payload.environment.lookup "PORT" = none →
        entries.Perm (("PORT", toString deployment.request.route.port.toNat) ::
          deployment.payload.environment)) := by
  have checked := accepted_of_validatePayload accepted
  obtain ⟨isTrue, written⟩ := written_writeEnvFile (effectiveEnvironment_ne_nil _ _) run
  have writable : ∀ entry ∈ (effectiveEnvironment deployment.payload.environment
      deployment.payload.containerPort).map variableText, EnvFile.Writable entry := by
    intro entry member
    obtain ⟨source, inside, rfl⟩ := List.mem_map.mp member
    exact writable_of_safeEntry (safeEntry_effectiveEnvironment isMap checked.entries _ inside)
  refine ⟨isTrue, _, effectiveEnvironment deployment.payload.environment
    deployment.payload.containerPort, written, ?_, ?_, ?_⟩
  · refine (EnvFile.read_write writable).trans ?_
    rw [List.map_map]
    rfl
  · intro port isSet
    exact ⟨insertVariable_of_lookup isMap isSet _, checked.portEntry port isSet⟩
  · exact insertVariable_perm

/-! ### Ports in another spelling -/

namespace SpelledPort

/-- A deployment on the port 3000 with the given entries. -/
def deployment (environment : List (String × String)) : Deployment where
  request :=
    { Sample.deployment 1 with
      payload := { Sample.payload with containerPort := 3000, environment } }
  prepared :=
    { workspace := { name := "workspace".toList }
      appliedResources := { memoryMb := 256, cpuMillis := 500, pidsLimit := 128 }
      appliedTimeouts := { build := 600, start := 120 } }

def path : FilePath :=
  ContainerEngine.envFile "workspace".toList

/-- The file is created and one line written to it. -/
def history (line : Text) : History Runtime :=
  [.done (.file (.createNew path)) (.ok ()), .done (.file (.append path line)) (.ok ())]

end SpelledPort

open SpelledPort in
theorem environment_round_trip_spelled : ∃ content,
    writtenText path (history "PORT=+3000\n".toList) = some content ∧
      EnvFile.read content = [("PORT".toList, some "+3000".toList)] ∧
      Text.parseNat (2 ^ 16) "+3000".toList = some 3000 := by
  obtain ⟨_, content, entries, written, read, spelled, _⟩ :=
    environment_round_trip Sample.executor.parsers (deployment [("PORT", "+3000")])
      (history "PORT=+3000\n".toList) true rfl (by decide) (.call (.call (.ret _)))
  obtain ⟨rfl, port⟩ := spelled "+3000" rfl
  exact ⟨content, written, read, port⟩

/-- A port with a zero before it is passed on as it is. -/
theorem port_not_canonical :
    ¬ ∀ (parsers : Parsers) (deployment : Deployment) (h : History Runtime) (hasFile : Bool)
      (content : Text), validatePayload parsers deployment.payload = .ok () →
      IsMap deployment.payload.environment →
      (ContainerEngine.writeEnvFile deployment.runRequest.workspace
        (effectiveEnvironment deployment.runRequest.environment
          deployment.runRequest.port)).run.Finishes h (.ok hasFile) →
      writtenText (ContainerEngine.envFile deployment.runRequest.workspace) h = some content →
      ("PORT".toList, some (natText deployment.request.route.port.toNat)) ∈ EnvFile.read content := by
  intro all
  have canonical := all Sample.executor.parsers (SpelledPort.deployment [("PORT", "03000")])
    (SpelledPort.history "PORT=03000\n".toList) true "PORT=03000\n".toList rfl (by decide)
    (.call (.call (.ret _))) rfl
  revert canonical
  decide

end SakalaAgent
