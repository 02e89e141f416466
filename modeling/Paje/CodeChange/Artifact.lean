import Paje.CodeChange.Sandbox

/-!
Artifacts and their publication: the canonical form of a bundle with its reference, and what a publisher
requires of a request. The archive itself is represented by its digest and size.
-/

namespace Paje.CodeChange

open Text Run

/-- `evidenceNamePattern`. -/
def validEvidenceName (value : String) : Bool := validStageName value

/-- `evidenceVersionPattern`. -/
def validEvidenceVersion (value : String) : Bool := validExecutable value

/-- `evidenceEnvKeyPattern`. -/
def validEvidenceKey (value : String) : Bool :=
  matchesWord (fun c => upperLetter c || c = '_') (fun c => upperLetter c || digit c || c = '_') 127 value

def validEvidencePlatform (value : String) : Bool :=
  beginsWith "linux/" value && matchesWord (fun c => lowerLetter c || digit c)
    (fun c => lowerLetter c || digit c || c = '_' || c = '-') 31 (dropStart "linux/" value)

/-- Whether the seconds of a duration are written as a canonical number: `encoding/json` writes a value below a
microsecond with an exponent, and a sign may not stand before a zero. -/
def canonicalSeconds (duration : Int) : Prop :=
  duration = 0 ∨ 1000 ≤ duration ∨ duration ≤ -second

instance (duration : Int) : Decidable (canonicalSeconds duration) := inferInstanceAs (Decidable (_ ∨ _))

def validateRuntime (runtime : RuntimeEvidence) : Except String Unit :=
  match runtime.kind with
  | .oci => require (validDigest runtime.imageDigest ∧ validEvidencePlatform runtime.platform ∧ runtime.isolated)
      "portable OCI runtime evidence is invalid"
  | .host => require (runtime.imageDigest = "" ∧ runtime.platform = "" ∧ runtime.isolated = false ∧
      runtime.certified = false) "portable host runtime evidence is invalid"

def ProbeEvidence.Confirmed (probe : ProbeEvidence) : Prop :=
  validEvidenceName probe.name ∧ validEvidenceVersion probe.declaredVersion ∧
    probe.declaredVersion = probe.probedVersion ∧ probe.probePassed

instance (probe : ProbeEvidence) : Decidable probe.Confirmed := inferInstanceAs (Decidable (_ ∧ _))

/-- A child starts in a sandbox that was created, and completes after it has started. -/
def AttemptEvidence.Ordered (attempt : AttemptEvidence) : Prop :=
  (attempt.started → attempt.created) ∧ (attempt.completed → attempt.started)

instance (attempt : AttemptEvidence) : Decidable attempt.Ordered := inferInstanceAs (Decidable (_ ∧ _))

def ExecutionEvidence.Describes (evidence : ExecutionEvidence) (agent : AttemptEvidence) : Prop :=
  agent.id.sequence = 0 ∧ evidence.exitCode = agent.exitCode ∧ evidence.started = agent.started ∧
    evidence.completed = agent.completed ∧ evidence.truncated = agent.truncated

instance (evidence : ExecutionEvidence) (agent : AttemptEvidence) : Decidable (evidence.Describes agent) :=
  inferInstanceAs (Decidable (_ ∧ _))

def agentAttempts (attempts : List AttemptEvidence) : List AttemptEvidence :=
  attempts.filter (·.id.purpose = .agent)

def validateAttempts [Digests] (evidence : ExecutionEvidence) : Except String Unit := do
  require (∀ attempt ∈ evidence.attempts, validateAttempt attempt.id = .ok () ∧ 0 ≤ attempt.duration ∧
    attempt.Ordered) "portable attempt evidence is invalid"
  require (evidence.attempts.map (·.id.key)).Nodup "portable attempt evidence is duplicated"
  require ((agentAttempts evidence.attempts).length ≤ 1 ∧
    ∀ agent ∈ agentAttempts evidence.attempts, evidence.Describes agent)
    "portable agent evidence does not match generic execution fields"
  require (agentAttempts evidence.attempts ≠ []) "portable agent attempt evidence is missing"

def validateKeys (keys : List String) : Except String Unit :=
  require ((∀ key ∈ keys, validEvidenceKey key) ∧ keys.Pairwise (· < ·))
    "portable environment key evidence is invalid"

def validateExecutionEvidence [Digests] (evidence : ExecutionEvidence) : Except String Unit := do
  require (validEvidenceName evidence.profile.name ∧ evidence.profile.revision ≠ 0 ∧
    validDigest evidence.profile.digest) "portable worker profile evidence is invalid"
  validateRuntime evidence.runtime
  require evidence.harness.Confirmed "portable harness evidence is invalid"
  require (∀ tool ∈ evidence.tools, tool.Confirmed) "portable tool evidence is invalid"
  require (evidence.tools.map (·.name)).Nodup "portable tool evidence is duplicated"
  validateAttempts evidence
  validateKeys (evidence.agentEnvironmentKeys.getD [])
  validateKeys evidence.verificationEnvironmentKeys

def canonicalExecutionMetadata [Digests] (evidence : ExecutionEvidence) : Except String Unit := do
  validateExecutionEvidence evidence
  require (canonicalSeconds evidence.duration ∧ ∀ attempt ∈ evidence.attempts, canonicalSeconds attempt.duration)
    "execution metadata is not canonical"

def FileChange.key (change : FileChange) : String :=
  joinNul [change.path, change.oldPath, change.status, change.oldMode, change.newMode]

def sortStrings (values : List String) : List String := values.insertionSort (· ≤ ·)

/-- What `normalizeBundle` requires of a manifest, and the manifest it makes of it. -/
def normalizeManifest (manifest : Manifest) : Except String Manifest := do
  require (¬ blank manifest.runID ∧ ¬ blank manifest.template.name ∧ 0 < manifest.template.version ∧
    ¬ blank manifest.repository ∧ ¬ blank manifest.baseSHA ∧ ¬ blank manifest.treeSHA)
    "manifest identity fields are required"
  require (manifest.schemaVersion = 0 ∨ manifest.schemaVersion = 1) "unsupported schema version"
  require (manifest.memoryCount = manifest.memoryIDs.length) "memory count does not match memory IDs"
  require manifest.memoryIDs.Nodup "memory IDs: duplicate"
  return { manifest with
    schemaVersion := 1
    changes := manifest.changes.insertionSort (·.key ≤ ·.key)
    members := []
    memoryIDs := sortStrings manifest.memoryIDs }

/-- Serializable evidence of a check never has environment values. -/
def CheckResult.durable (result : CheckResult) : CheckResult :=
  { result with command := { result.command with environment := none } }

def normalizeBundle [Digests] (bundle : Bundle) : Except String Bundle := do
  let manifest ← normalizeManifest bundle.manifest
  canonicalExecutionMetadata bundle.executionMetadata
  return { bundle with
    manifest
    warnings := sortStrings bundle.warnings
    verification := bundle.verification.map (·.durable) }

def member (name : String) (payload : String × Int) : Member := ⟨name, payload.1, payload.2⟩

def membersFor [digests : Digests] (bundle : Bundle) : List Member :=
  [member "changes.patch" (digests.patch bundle.changesPatch),
    member "agent-output.txt" (digests.agentOutput bundle.agentOutput),
    member "execution.json" (digests.execution bundle.executionMetadata),
    member "verification.json" (digests.verification bundle.verification),
    member "preflight.json" (digests.preflight bundle.preflight),
    member "warnings.json" (digests.warnings bundle.warnings)]

def canonicalizeBundle [Digests] (bundle : Bundle) : Except String Bundle := do
  let normalized ← normalizeBundle bundle
  return { normalized with manifest := { normalized.manifest with members := membersFor normalized } }

def referenceFor [digests : Digests] (bundle : Bundle) : Except String Reference := do
  let normalized ← canonicalizeBundle bundle
  let archive := digests.archive normalized
  return ⟨normalized.manifest.runID, archive.1, archive.2⟩

def present (value : String) : Bool := !blank value && !containsNul value

def publicationBranch (runID : String) : String := "paje/code-change/" ++ runID

def validateCore (request : PublisherRequest) : Except String Unit := do
  require (validRunID request.runID) "run ID is invalid"
  require (present request.repository) "repository is required"
  require (validHex request.baseSHA 40) "base SHA must be 40 hexadecimal characters"
  require (present request.targetRef) "target ref is required"
  require (request.branch = publicationBranch request.runID) ("branch must be " ++ publicationBranch request.runID)
  require (request.artifact.runID = request.runID) "artifact run ID does not match request"
  require (validHex request.artifact.digest 64) "artifact digest must be 64 hexadecimal characters"
  require (0 < request.artifact.size) "artifact size must be positive"
  require (present request.title) "title is required"

/-- `validateVerificationEnvironmentDeclaration`: at most the one key `GOWORK`. -/
def validateEnvironmentDeclaration (keys : Option (List String)) : Except String Unit :=
  match keys with
  | none => .error "portable frozen verification environment declaration is missing"
  | some keys => require (keys = [] ∨ keys = ["GOWORK"])
      "portable frozen verification environment declaration is invalid"

def verificationPlanMember [digests : Digests] (plan : List CheckResult) (manifest : Manifest) :
    Except String Member := do
  let _ ← normalizeManifest manifest
  return member "verification.json" (digests.verification (plan.map (·.durable)))

def validatePlanBinding [Digests] (plan : List CheckResult) (manifest : Manifest) : Except String Unit := do
  plan.forM fun result => do
    require (result.command.environment = none) "portable frozen verification declaration drifted"
    validateEnvironmentDeclaration result.command.environmentKeys
  match verificationPlanMember plan manifest with
  | .error _ => .error "portable frozen verification plan cannot be encoded"
  | .ok want =>
    match manifest.members.filter (·.name = "verification.json") with
    | [] => .error "portable frozen verification plan digest is missing"
    | members => require (members = [want]) "portable frozen verification plan does not match artifact digest"

/-- The text after the last `@sha256:` of an image. -/
def afterDigestMarker (image : List Char) : Option (List Char) :=
  match image with
  | [] => none
  | c :: cs =>
    match afterDigestMarker cs with
    | some digest => some digest
    | none => if "@sha256:".toList.isPrefixOf (c :: cs) then some ((c :: cs).drop 8) else none

def imageDigest (image : String) : String := String.ofList ((afterDigestMarker image.toList).getD [])

def validateRuntimeEvidence (profile : Profile) (evidence : RuntimeEvidence) : Except String Unit := do
  require (evidence.kind = profile.runtime.kind) "portable runtime evidence does not match worker profile"
  match profile.runtime.kind with
  | .oci =>
    require ((afterDigestMarker profile.runtime.image.toList).isSome ∧
      evidence.imageDigest = imageDigest profile.runtime.image ∧
      evidence.platform = profile.runtime.platform ∧ evidence.isolated)
      "portable runtime evidence does not match worker profile"
  | .host =>
    require (evidence.imageDigest = "" ∧ evidence.platform = "" ∧ evidence.isolated = false ∧
      evidence.certified = false) "portable host runtime evidence is invalid"

def sandboxKeys : List String := ["HOME", "PATH", "TMPDIR"]

def sortedKeys (keys : List String) : List String := sortStrings keys.dedup

def agentRequirementKeys (requirement : SecretRequirement) : Except String (List String) :=
  let presented := if requirement.delivery = .environment then [requirement.target] else []
  if requirement.capability = "harness.codex-auth" then do
    require (requirement.bindingRevision ≠ 0 ∧ requirement.stage = "agent" ∧ requirement.delivery = .directory ∧
      requirement.target = "/run/paje/secrets/codex" ∧ requirement.required)
      "portable Codex auth environment requirement is not exact"
    return "CODEX_HOME" :: presented
  else do
    require (¬ beginsWith "harness." requirement.capability)
      "portable harness environment requirement is unsupported"
    return presented

def validateAgentEnvironmentEvidence (profile : Profile) (keys : Option (List String)) (confirmed : Bool) :
    Except String Unit :=
  if confirmed then
    match keys with
    | none => .error "portable confirmed agent environment evidence is missing"
    | some keys => do
      let required ← profile.secrets.mapM agentRequirementKeys
      require (keys = sortedKeys (sandboxKeys ++ required.flatten))
        "portable agent environment evidence does not match exact declaration"
  else
    require (keys = none) "portable agent environment evidence claims an unconfirmed presentation"

def validateVerificationEnvironmentEvidence (keys : List String) (plan : List CheckResult)
    (attempts : List AttemptEvidence) : Except String Unit :=
  if plan = [] then
    require (attempts = [] ∧ keys = []) "portable verification evidence contradicts the frozen zero-attempt plan"
  else do
    require (attempts.length = plan.length)
      "portable verification attempt evidence does not match frozen plan"
    require (∀ index < plan.length, ∃ attempt ∈ attempts, attempt.id.sequence = index + 1 ∧ attempt.started)
      "portable verification attempt confirmation is missing"
    require (keys = sortedKeys (sandboxKeys ++ plan.flatMap fun scheduled =>
      scheduled.command.environmentKeys.getD []))
      "portable verification environment evidence does not match exact declaration"

def validateToolEvidence (profile : Profile) (tools : List ProbeEvidence) : Except String Unit :=
  require (tools.map (fun tool => (tool.name, tool.declaredVersion, tool.probedVersion)) =
    profile.tools.map (fun tool => (tool.name, tool.version, tool.version)) ∧ ∀ tool ∈ tools, tool.probePassed)
    "portable tool evidence does not match worker profile"

def validateGeneration (agent : AttemptEvidence) (attempts : List AttemptEvidence) : Except String Unit := do
  require (∀ attempt ∈ attempts, attempt.id.stage = agent.id.stage ∧ attempt.id.attempt = agent.id.attempt ∧
    attempt.id.startedAt = agent.id.startedAt) "portable attempt generation evidence drifted"
  let verification := attempts.filter (·.id.purpose = .verification)
  require (∀ attempt ∈ verification, attempt.id.sequence ≠ 0)
    "portable verification attempt sequence is invalid"
  require (verification.map (·.id.sequence)).Nodup "portable verification attempt sequence is duplicated"

def validatePortableAttempts [Digests] (runID : String) (evidence : ExecutionEvidence) :
    Except String AttemptEvidence := do
  require (∀ attempt ∈ evidence.attempts, validateAttempt attempt.id = .ok () ∧ attempt.id.runID = runID ∧
    attempt.Ordered) "portable attempt evidence does not match run"
  require (evidence.attempts.map (·.id.key)).Nodup "portable attempt evidence is duplicated"
  require ((agentAttempts evidence.attempts).length ≤ 1 ∧
    ∀ agent ∈ agentAttempts evidence.attempts, evidence.Describes agent)
    "portable agent evidence is inconsistent"
  match agentAttempts evidence.attempts with
  | [] => .error "portable agent evidence is missing"
  | agent :: _ => return agent

def validatePortableEvidence [Digests] (runID : String) (profile : Profile) (evidence : ExecutionEvidence)
    (plan : List CheckResult) : Except String Unit := do
  require (profile.Exact ∧ profile.digest ≠ "") "worker profile snapshot is not exact and canonical"
  require (evidence.profile = ⟨profile.id.name, profile.id.revision, profile.digest⟩)
    "portable execution profile evidence does not match request"
  validateRuntimeEvidence profile evidence.runtime
  require (evidence.harness.name = profile.harness.id ∧ evidence.harness.declaredVersion = profile.harness.version ∧
    evidence.harness.probedVersion = profile.harness.version ∧ evidence.harness.probePassed)
    "portable harness evidence does not match worker profile"
  validateToolEvidence profile evidence.tools
  let agent ← validatePortableAttempts runID evidence
  validateGeneration agent evidence.attempts
  validateAgentEnvironmentEvidence profile evidence.agentEnvironmentKeys agent.started
  validateVerificationEnvironmentEvidence evidence.verificationEnvironmentKeys plan
    (evidence.attempts.filter (·.id.purpose = .verification))

/-- `ValidatePortable`. A request without the portable values has the zero manifest, which names no run. -/
def validatePortable [Digests] (request : PublisherRequest) : Except String Unit := do
  validateCore request
  match request.artifactManifest, request.workerProfile, request.executionEvidence with
  | some manifest, some profile, some evidence => do
    require (manifest.runID = request.runID) "artifact manifest run ID does not match request"
    require (manifest.repository = request.repository) "artifact manifest repository does not match request"
    require (manifest.baseSHA = request.baseSHA) "artifact manifest base SHA does not match request"
    require (present manifest.treeSHA) "artifact manifest tree SHA is required"
    require (manifest.changes ≠ []) "artifact manifest changes are required"
    validatePlanBinding request.verification manifest
    validatePortableEvidence request.runID profile evidence request.verification
    require (request.verificationDigest ≠ "" → validHex request.verificationDigest 64)
      "publisher verification digest must be 64 hexadecimal characters"
  | _, _, _ => .error "artifact manifest run ID does not match request"

end Paje.CodeChange
