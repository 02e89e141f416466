import Paje.CodeChange.Artifact

/-!
What a durable record is bound to: the normalized input, the artifact, the approval request and the
publication request that are rebuilt from it in every phase.
-/

namespace Paje.CodeChange

open Text Run

structure URL where
  scheme : String
  opaquePart : String := ""
  user : Bool := false
  (host hostname : String)
  port : String := ""
  path : String := ""
  rawPath : String := ""
  rawQuery : String := ""
  fragment : String := ""

/-- `harness.Adapter`. -/
structure Adapter where
  (id version : String)
  probe : SandboxCommand
  agentCommandFor : RuntimeKind → String → Except Errors SandboxCommand
  agentEnvironment : List SecretRequirement → Except Errors (Table String)
  parse : SandboxResult → Except Errors String
  acceptsCapability : String → Bool

/-- The parts of the service's dependencies that are fixed functions of their arguments. -/
structure Service where
  parseURL : String → Option URL
  /-- `none` for a runtime without a registered executor, else its `ValidateProfile` -/
  executor : RuntimeKind → Option (Profile → Errors)
  /-- the registered adapters -/
  adapters : List Adapter
  /-- `Detector.Scan` of a text for leased secrets -/
  scan : List Materialization → String → Bool

def codeChangeID : TemplateID := ⟨"code-change", 1⟩

def TemplateID.text (id : TemplateID) : String := id.name ++ "@v" ++ toString id.version

/-- The checks of `verification.Compile` that do not look at the workspace. -/
def validateSpec (spec : CommandSpec) : Except String Unit := do
  require (¬ containsNul spec.name ∧ ¬ blank spec.name) "name is required"
  require (¬ containsNul spec.directory ∧ ¬ beginsWith "/" (trimSpace spec.directory))
    "directory must be a relative path"
  require (¬ (splitSlash (trimSpace spec.directory).toList).contains ['.', '.'])
    "directory must not contain .."
  let executable := trimSpace spec.executable
  require (executable ≠ "" ∧ ¬ containsNul executable ∧ ¬ executable.toList.any (· ∈ [' ', '\t', '\r', '\n']) ∧
    ¬ isShell executable) "executable must be one shell-free program"
  require (spec.args.length ≤ 64) "too many arguments"
  require (∀ argument ∈ spec.args, ¬ containsNul argument) "argument contains NUL byte"
  require (second ≤ spec.timeout ∧ spec.timeout ≤ 30 * minute) "timeout must be between 1s and 30m0s"

def normalizeSpec (spec : CommandSpec) : CommandSpec :=
  { spec with
    name := trimSpace spec.name
    directory := trimSpace spec.directory
    executable := trimSpace spec.executable }

def normalizeTags (tags : Table String) : Except String (Table String) := do
  require (∀ key ∈ tags.keys, ¬ blank key ∧ ¬ containsNul key) "invalid tag key"
  let normalized := tags.map trimSpace
  require (¬ blank ((normalized.get? "user_id").getD "") ∧ ¬ blank ((normalized.get? "app_id").getD ""))
    "tags.user_id and tags.app_id are required"
  return normalized

def normalizeExclusions (exclusions : List ModuleExclusion) : Except String (List ModuleExclusion) := do
  let normalized := exclusions.map fun exclusion => ⟨trimSpace exclusion.path, trimSpace exclusion.reason⟩
  require (∀ exclusion ∈ normalized, exclusion.path ≠ "" ∧ exclusion.reason ≠ "")
    "module exclusion path and reason are required"
  require (normalized.map ModuleExclusion.path).Nodup "duplicate module exclusion"
  return normalized

def normalizePublication (publication : PublicationSpec) : Except String PublicationSpec := do
  let normalized := { publication with
    provider := (trimSpace publication.provider).toLower
    targetBranch := trimSpace publication.targetBranch
    title := trimSpace publication.title }
  require (normalized.mode = .pullRequest → normalized.provider = "github" ∧ normalized.targetBranch ≠ "")
    "pull_request publication requires provider github and a target branch"
  return normalized

def normalizeAndValidate (input : Input) (memoryLimitSet : Bool) : Except String Input := do
  let profile := (trimSpace input.profile).toLower
  let profile := if profile = "" then "generic" else profile
  let taskDescription := trimSpace input.taskDescription
  let repositoryURI := trimSpace input.repositoryURI
  let baseRef := trimSpace input.baseRef
  require (taskDescription ≠ "" ∧ repositoryURI ≠ "" ∧ baseRef ≠ "")
    "task description, repository URI, and base ref are required"
  require (0 ≤ input.memoryLimit ∧ input.memoryLimit ≤ 1000) "memory limit must be between 0 and 1000"
  let tags ← normalizeTags input.tags
  require (profile = "generic" ∨ profile = "go") "unsupported profile"
  require (input.checks.length ≤ 64) "too many checks"
  require (profile = "generic" → input.checks ≠ []) "generic profile requires at least one check"
  input.checks.forM validateSpec
  let moduleExclusions ← normalizeExclusions input.moduleExclusions
  let publication ← normalizePublication input.publication
  return { input with
    idempotencyKey := trimSpace input.idempotencyKey
    taskDescription
    repositoryURI
    baseRef
    memoryQuery := trimSpace input.memoryQuery
    memoryLimit := if memoryLimitSet then input.memoryLimit else 10
    tags
    profile
    checks := input.checks.map normalizeSpec
    moduleExclusions
    publication }

def safeRepositoryComponent (value : String) : Bool :=
  value ≠ "" && value ≠ "." && value ≠ ".." &&
    value.toList.all fun c => alphanumeric c || c = '-' || c = '_' || c = '.'

def canonicalGitHubRepository (service : Service) (repository : String) : Except String String :=
  let repository := trimSpace repository
  if repository = "" || repository.toList.any (· ∈ ['\x00', '\r', '\n']) then
    .error "GitHub repository is invalid"
  else
    match service.parseURL repository with
    | none => .error "GitHub repository must be a credential-free HTTPS URL"
    | some url => do
      require (url.scheme = "https" ∧ url.opaquePart = "" ∧ url.user = false ∧ url.rawQuery = "" ∧
        url.fragment = "" ∧ url.hostname.toLower = "github.com" ∧ url.port = "" ∧ url.rawPath = "")
        "GitHub repository must be a credential-free HTTPS URL"
      match splitSlash (dropStart "/" url.path).toList with
      | [owner, name] => do
        let owner := String.ofList owner
        let name := dropEnd ".git" (String.ofList name)
        require (safeRepositoryComponent owner ∧ safeRepositoryComponent name)
          "GitHub repository owner or name is invalid"
        return "https://github.com/" ++ owner ++ "/" ++ name ++ ".git"
      | _ => .error "GitHub repository path must contain owner and repository"

section binding

variable [digests : Digests] (service : Service)

def bindingFault {α : Type} (message : String) : Except Errors α := .error [.runBinding message]

def validateProfileBinding (record : CodeRun) (input : Input) : Except Errors Unit :=
  match record.workerProfile with
  | none => require (record.secretBindings = none ∧ record.baseSHA = "")
      [.runBinding "unresolved worker profile"]
  | some profile => do
    let bindings := record.secretBindings.getD []
    require (profile.Exact ∧ profile.id = input.workerProfile ∧ profile.secrets.length = bindings.length)
      [.runBinding "resolved worker profile"]
    require (bindings = profile.secrets.map fun requirement =>
      ⟨requirement.capability, requirement.bindingRevision⟩) [.runBinding "resolved secret binding"]

/-- `validateRunBinding`. The input of the record is its own normal form. -/
def validateRunBinding (record : CodeRun) : Except Errors Input := do
  require (record.template = codeChangeID) [.runBinding "template"]
  match normalizeAndValidate record.input true with
  | .error _ => bindingFault "decode input"
  | .ok input => do
    require (input = record.input) [.runBinding "canonical input"]
    require (record.inputHash = digests.input input ∧ record.idempotencyKey = input.idempotencyKey ∧
      record.repositoryURI = input.repositoryURI ∧ record.baseRef = input.baseRef ∧
      record.publicationMode = input.publication.mode) [.runBinding "immutable fields"]
    require (input.publication.mode = .pullRequest →
      canonicalGitHubRepository service input.repositoryURI = .ok input.repositoryURI)
      [.runBinding "publication repository"]
    validateProfileBinding record input
    return input

def validateArtifactBinding (record : CodeRun) (bundle : Bundle) : Except Errors Unit :=
  match referenceFor bundle with
  | .error _ => bindingFault "canonical artifact"
  | .ok reference => require (record.artifact = some reference ∧ bundle.manifest.runID = record.id ∧
      bundle.manifest.template = record.template ∧ bundle.manifest.repository = record.repositoryURI ∧
      bundle.manifest.baseSHA = record.baseSHA) [.runBinding "artifact manifest"]

def changedPaths (changes : List FileChange) : List String :=
  sortedKeys ((changes.flatMap fun change => [change.oldPath, change.path]).filter (· ≠ ""))

/-- `approvalBindingEvidence`: the request without its descriptive fields. -/
def approvalBindingEvidence (record : CodeRun) (input : Input) (reference : Reference) : ApprovalRequest where
  runID := record.id
  templateID := TemplateID.text record.template
  repository := record.repositoryURI
  baseSHA := record.baseSHA
  targetBranch := input.publication.targetBranch
  publicationMode := input.publication.mode
  publicationBranch := publicationBranch record.id
  artifactDigest := reference.digest

def buildApprovalRequest (record : CodeRun) (input : Input) (reference : Reference) (bundle : Bundle) :
    ApprovalRequest :=
  let changed := changedPaths bundle.manifest.changes
  { approvalBindingEvidence record input reference with
    description := "Review Pajé code change " ++ record.id
    agentSummary := "Agent produced " ++ toString changed.length ++ " changed path(s) with " ++
      toString bundle.verification.length ++ " verification check(s)."
    changedPaths := changed
    verification := bundle.verification.map fun check => { check.durable with output := "" }
    warnings := bundle.warnings }

def sameApprovalRequestBinding (one two : ApprovalRequest) : Prop :=
  one.runID = two.runID ∧ one.templateID = two.templateID ∧ one.repository = two.repository ∧
    one.baseSHA = two.baseSHA ∧ one.targetBranch = two.targetBranch ∧
    one.publicationMode = two.publicationMode ∧ one.publicationBranch = two.publicationBranch ∧
    one.artifactDigest = two.artifactDigest

instance (one two : ApprovalRequest) : Decidable (sameApprovalRequestBinding one two) :=
  inferInstanceAs (Decidable (_ ∧ _))

def modeText : PublicationMode → String
  | .artifact => "artifact"
  | .pullRequest => "pull_request"

def table (entries : List (String × String)) : Table String :=
  entries.foldl (fun t entry => t.put entry.1 entry.2) ∅

def approvalEvidence (request : ApprovalRequest) : Table String :=
  table [("run_id", request.runID), ("template_id", request.templateID), ("repository", request.repository),
    ("base_sha", request.baseSHA), ("target_branch", request.targetBranch),
    ("publication_mode", modeText request.publicationMode),
    ("publication_branch", request.publicationBranch), ("artifact_digest", request.artifactDigest)]

def validateApprovalRequest (request : ApprovalRequest) : Except String Unit := do
  require (validRunID request.runID) "invalid run ID"
  require (present request.templateID) "template ID is required"
  require (present request.repository) "repository is required"
  require (validHex request.baseSHA 40) "base SHA must be 40 hexadecimal characters"
  require (present request.targetBranch) "target branch is required"
  require (request.publicationBranch = publicationBranch request.runID) "publication branch must be the run's"
  require (validHex request.artifactDigest 64) "artifact digest must be 64 hexadecimal characters"

/-- `Result.Validate` of a decision for a request. -/
def validateDecision (decision : Decision) (request : ApprovalRequest) : Except String Unit := do
  validateApprovalRequest request
  require (decision.runID = request.runID) "run ID does not match request"
  require (decision.artifactDigest = request.artifactDigest) "artifact digest does not match request"
  require (present decision.actor) "actor is required"
  require (¬ decision.decidedAt.IsZero) "decision time is required"
  require (decision.approved ∨ present decision.reason) "declined decision requires a reason"

def sameStringMap (one two : Table String) : Bool :=
  one.entries.length = two.entries.length && one.entries.all fun entry => (two.get? entry.1).getD "" = entry.2

def validatePersistedApproval (record : CodeRun) (request : ApprovalRequest) : Except String Unit :=
  match record.approval with
  | none => .error "approval decision is missing"
  | some decision => do
    validateDecision decision request
    match latestStage record.stages "approval" with
    | none => .error "approval stage evidence is missing"
    | some stage => do
      require (stage.status = .succeeded) "approval stage evidence is missing"
      require (sameStringMap stage.evidence (approvalEvidence request)) "approval request binding changed"

def buildPublisherRequest (record : CodeRun) (input : Input) : Except String PublisherRequest :=
  match record.artifact with
  | none => .error "artifact is missing"
  | some reference => .ok {
      runID := record.id
      repository := record.repositoryURI
      baseSHA := record.baseSHA
      targetRef := input.publication.targetBranch
      branch := publicationBranch record.id
      artifact := reference
      title := if input.publication.title = "" then "Pajé code change " ++ record.id else input.publication.title
      body := "Automated Pajé code change.\n\nRun: " ++ record.id ++ "\nArtifact: sha256:" ++ reference.digest
      draft := input.publication.draft }

def buildPublisherRequestWithBundle (record : CodeRun) (input : Input) (bundle : Bundle) :
    Except String PublisherRequest := do
  let request ← buildPublisherRequest record input
  match record.workerProfile with
  | none => .error "worker profile is missing"
  | some profile => do
    require (referenceFor bundle = .ok request.artifact) "artifact bundle reference is not exact"
    let request := { request with
      artifactManifest := some bundle.manifest
      workerProfile := some profile
      executionEvidence := some bundle.executionMetadata
      verification := bundle.verification }
    validatePortable request
    return request

/-- `ValidateVerified` with the checks of `validatePublicationResult`. -/
def validatePublicationResult (result : Publication) (request : PublisherRequest) (provider : String) :
    Except String Unit := do
  validateCore request
  require (present result.provider) "provider is required"
  require (result.branch = request.branch) "result branch does not match request"
  require (validHex result.commitSHA 40) "commit SHA must be 40 hexadecimal characters"
  require (present result.pullRequestID) "pull request ID is required"
  match service.parseURL result.pullRequestURL with
  | none => .error "pull request URL must be an absolute HTTPS URL"
  | some url => do
    require (url.scheme = "https" ∧ url.host ≠ "")
      "pull request URL must be an absolute HTTPS URL"
    require (validHex result.verificationDigest 64)
      "publisher verification digest must be 64 hexadecimal characters"
    require (request.verificationDigest ≠ "" → result.verificationDigest = request.verificationDigest)
      "publisher verification digest does not match request"
    require (result.provider = provider) "publication provider does not match requested provider"
    require (url.user = false ∧ url.rawQuery = "" ∧ url.fragment = "")
      "publication URL contains unsafe components"

def publicationEvidence (request : PublisherRequest) (result : Publication) : Table String :=
  table [("run_id", request.runID), ("base_sha", request.baseSHA), ("target_branch", request.targetRef),
    ("publication_branch", request.branch), ("artifact_digest", request.artifact.digest),
    ("provider", result.provider), ("commit_sha", result.commitSHA), ("pull_request_id", result.pullRequestID),
    ("pull_request_url", result.pullRequestURL), ("publisher_verification_digest", result.verificationDigest)]

def validatePersistedPublication (record : CodeRun) (request : PublisherRequest) (provider : String) :
    Except String Unit :=
  match record.publication with
  | none => .error "publication result is missing"
  | some result => do
    validatePublicationResult service result request provider
    match latestStage record.stages "publish" with
    | none => .error "publication binding evidence is missing or changed"
    | some stage =>
      require (stage.status = .succeeded ∧ sameStringMap stage.evidence (publicationEvidence request result))
        "publication binding evidence is missing or changed"

end binding

end Paje.CodeChange
