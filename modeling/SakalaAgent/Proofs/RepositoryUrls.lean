/-
Module: SakalaAgent.Proofs.RepositoryUrls
Layer: Proofs
Purpose: Which of the accepted repositories git is told by an address that begins with
  https://github.com/. The check reads the parsed address and git gets the text, so every spelling
  that the parser normalises passes the check as well.
Trusted boundary: the URL parser follows the URL standard; its host parser changes nothing but the
  case of a host in ASCII.
Main exports: Parsers.FollowsStandard, AcceptedSource, WorkspaceManager.AddsRemote,
  remote_is_github_iff
-/
import SakalaAgent.Runtime.Validation
import SakalaAgent.Text.Url

namespace SakalaAgent

open WebUrl

/-! ### The parser -/

def Url.ofRecord (record : Record) : Url where
  scheme := String.ofList record.scheme
  host := some (String.ofList record.host.serialize)
  username := String.ofList record.username
  password := record.password.map String.ofList
  query := record.query.map String.ofList
  fragment := record.fragment.map String.ofList
  pathSegments := some (record.path.map String.ofList)

/-- What is parsed as an https address is parsed as in the standard. -/
def Parsers.FollowsStandard (parsers : Parsers) (parseHost : Text → Option Host) : Prop :=
  ∀ text url, parsers.parseUrl text = .ok url → url.scheme = "https" →
    ∃ record, parse parseHost text.toList = some record ∧ url = .ofRecord record

/-! ### Accepted sources -/

def AcceptedSource (parsers : Parsers) (source : RepositorySource) : Prop :=
  (∃ payload credential, inspectionSource parsers payload credential = .ok source) ∨
    ∃ payload credential, deploymentSource parsers payload credential = .ok source

/-- The address that git is told in a checkout. -/
def WorkspaceManager.AddsRemote (manager : WorkspaceManager) (workspace : DeploymentWorkspace)
    (source : RepositorySource) (address : Text) : Prop :=
  (manager.checkoutCommands workspace source).lookup "git-remote" =
    some (manager.gitIn workspace
      ["remote".toList, "add".toList, "origin".toList, address])

theorem WorkspaceManager.addsRemote (manager : WorkspaceManager) (workspace : DeploymentWorkspace)
    (source : RepositorySource) : manager.AddsRemote workspace source source.repositoryUrl.toList :=
  rfl

section Accepted

variable {parsers : Parsers} {source : RepositorySource}

/-- Both sources are made behind the same check. -/
theorem valid_of_source {checked : Except RuntimeError Unit} {made : RepositorySource}
    (accepted : (do checked; return made) = .ok source) : checked = .ok () ∧ made = source := by
  cases checked with
  | error error => cases accepted
  | ok _ => exact ⟨rfl, Except.ok.inj accepted⟩

theorem AcceptedSource.valid (accepted : AcceptedSource parsers source) :
    validateRepositorySource parsers source.repositoryUrl source.commitSha = .ok () := by
  rcases accepted with ⟨payload, credential, accepted⟩ | ⟨payload, credential, accepted⟩
  · obtain ⟨valid, rfl⟩ := valid_of_source accepted
    exact valid
  · obtain ⟨valid, rfl⟩ := valid_of_source accepted
    exact valid

theorem github_of_valid {repositoryUrl commitSha : String}
    (valid : validateRepositorySource parsers repositoryUrl commitSha = .ok ()) :
    ∃ url, parsers.parseUrl repositoryUrl = .ok url ∧ url.scheme = "https" ∧
      url.host = some "github.com" := by
  unfold validateRepositorySource at valid
  cases parsed : parsers.parseUrl repositoryUrl with
  | error error =>
      rw [parsed] at valid
      cases valid
  | ok url =>
      rw [parsed] at valid
      dsimp only at valid
      split at valid
      · cases valid
      · rename_i isGithub
        simp only [not_or, not_not] at isGithub
        exact ⟨url, rfl, isGithub.1, isGithub.2.1⟩

end Accepted

/-! ### Plain addresses -/

def githubPrefix : Text :=
  "https://github.com/".toList

theorem plain_of_startsWith {address : Text} (starts : Text.startsWith address githubPrefix = true) :
    WebUrl.Plain address := by
  obtain ⟨rest, rfl⟩ := List.isPrefixOf_iff_prefix.mp starts
  have authority : authorityText (githubPrefix ++ rest) = "github.com".toList := rfl
  exact
    { begins := by
        rintro _ ⟨⟩
        rfl
      scheme := by
        change ∀ character ∈ "https".toList, _
        decide
      slashes := rfl
      authority := by
        rw [authority]
        decide
      labels := by
        rw [authority]
        unfold NoPunycode
        decide
      path := rfl }

theorem startsWith_of_plain {parsers : Parsers} {parseHost : Text → Option Host}
    (standard : parsers.FollowsStandard parseHost) (lowers : LowersAscii parseHost)
    {repositoryUrl commitSha : String}
    (valid : validateRepositorySource parsers repositoryUrl commitSha = .ok ())
    (plain : WebUrl.Plain repositoryUrl.toList) :
    Text.startsWith repositoryUrl.toList githubPrefix = true := by
  obtain ⟨url, isUrl, isHttps, isGithub⟩ := github_of_valid valid
  obtain ⟨record, parsed, rfl⟩ := standard repositoryUrl url isUrl isHttps
  have scheme : record.scheme = "https".toList := by
    rw [← isHttps]
    exact String.toList_ofList.symm
  have host : record.host.serialize = "github.com".toList := by
    rw [← Option.some.inj isGithub]
    exact String.toList_ofList.symm
  obtain ⟨⟨rest, isText⟩, isHost⟩ := plain.read parsed
  rw [Host.domain_of_serialize host rfl (by decide)] at isHost
  have authority := plain.domain_eq lowers isHost
  rw [isText, scheme, ← authority]
  exact List.isPrefixOf_iff_prefix.mpr ⟨rest, rfl⟩

/-- An accepted repository is fetched from https://github.com/ exactly if its address is spelled
plainly up to the path. -/
theorem remote_is_github_iff {parsers : Parsers} {parseHost : Text → Option Host}
    (standard : parsers.FollowsStandard parseHost) (lowers : LowersAscii parseHost)
    {source : RepositorySource} (accepted : AcceptedSource parsers source)
    (manager : WorkspaceManager) (workspace : DeploymentWorkspace) :
    ∃ address, manager.AddsRemote workspace source address ∧
      (Text.startsWith address githubPrefix = true ↔ WebUrl.Plain source.repositoryUrl.toList) :=
  ⟨_, manager.addsRemote workspace source, plain_of_startsWith,
    startsWith_of_plain standard lowers accepted.valid⟩

namespace NormalisedAddress

/-- A host parser for names in ASCII. -/
def lowerHost (host : Text) : Option Host :=
  some (.domain (Text.lowerAscii host))

theorem lowers : LowersAscii lowerHost := by
  intro host name _ _ isDomain
  cases isDomain
  rfl

def parseUrl (text : String) : Except String Url :=
  match parse lowerHost text.toList with
  | some record => .ok (.ofRecord record)
  | none => .error "relative URL without a base"

def parsers : Parsers where
  parseUrl := parseUrl
  printDebug := String.ofList

theorem standard : parsers.FollowsStandard lowerHost := by
  intro text url parsed _
  change parseUrl text = .ok url at parsed
  unfold parseUrl at parsed
  split at parsed
  · rename_i record isRecord
    cases parsed
    exact ⟨record, isRecord, rfl⟩
  · cases parsed

def source (repositoryUrl : String) : RepositorySource where
  repositoryUrl := repositoryUrl
  commitSha := "0123456789abcdef0123456789abcdef01234567"
  credential := none

def inspection (repositoryUrl : String) : InspectProjectPayload where
  repositoryUrl := repositoryUrl
  commitSha := "0123456789abcdef0123456789abcdef01234567"
  repositoryAccess := .publicAccess

/-- Of these addresses only the first is spelled plainly, and all of them are accepted. -/
def addresses : List String :=
  ["https://github.com/owner/repository", " https://github.com/owner/repository",
    "ht\ttps://github.com/owner/repository", "HTTPS://github.com/owner/repository",
    "https:github.com/owner/repository", "https:\\github.com/owner/repository",
    "https://GitHub.com/owner/repository", "https://github.com:8443/owner/repository",
    "https://@github.com/owner/repository", "https://github.com\\owner/repository"]

theorem accepts_addresses : ∀ repositoryUrl ∈ addresses,
    inspectionSource parsers (inspection repositoryUrl) none = .ok (source repositoryUrl) := by
  decide +kernel

theorem accepts {repositoryUrl : String} (member : repositoryUrl ∈ addresses) :
    AcceptedSource parsers (source repositoryUrl) :=
  Or.inl ⟨inspection repositoryUrl, none, accepts_addresses repositoryUrl member⟩

def manager : WorkspaceManager where
  root := "/builds".toList

def workspace : DeploymentWorkspace where
  name := "checkout".toList

end NormalisedAddress

open NormalisedAddress in
theorem remote_is_github_iff_normalised :
    (∃ address, manager.AddsRemote workspace (source "https://github.com/owner/repository") address ∧
      (Text.startsWith address githubPrefix = true ↔
        WebUrl.Plain "https://github.com/owner/repository".toList)) ∧
    ∃ address, manager.AddsRemote workspace (source "https:github.com/owner/repository") address ∧
      (Text.startsWith address githubPrefix = true ↔
        WebUrl.Plain "https:github.com/owner/repository".toList) :=
  ⟨remote_is_github_iff standard lowers (accepts (by decide)) manager workspace,
    remote_is_github_iff standard lowers (accepts (by decide)) manager workspace⟩

open NormalisedAddress in
/-- Git reads the address as one of the host https, to be reached through a secure shell. -/
theorem remote_not_github :
    parsers.FollowsStandard lowerHost ∧ LowersAscii lowerHost ∧
      AcceptedSource parsers (source "https:github.com/owner/repository") ∧
      manager.AddsRemote workspace (source "https:github.com/owner/repository")
        "https:github.com/owner/repository".toList ∧
      Text.startsWith "https:github.com/owner/repository".toList githubPrefix = false :=
  ⟨standard, lowers, accepts (by decide), manager.addsRemote workspace _, rfl⟩

end SakalaAgent
