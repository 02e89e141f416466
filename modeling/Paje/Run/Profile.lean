import Paje.Run.Types

/-!
Worker profiles: what an operator may declare, and the one canonical form of a declaration. The
digest of a profile covers everything but itself.
-/

namespace Paje.Run

open Text

/-- `profileNamePattern`, `identifierPattern` and `capabilityPart`. -/
def validIdentifier (value : String) : Bool :=
  matchesWord lowerLetter (fun c => lowerLetter c || digit c || c = '-') 62 value

/-- `versionPattern` and `executablePattern`. -/
def validVersion (value : String) : Bool :=
  matchesWord alphanumeric (fun c => alphanumeric c || c ∈ ['.', '_', '+', '-']) 127 value

/-- `platformPattern`. -/
def validPlatform (value : String) : Bool :=
  beginsWith "linux/" value && matchesWord (fun c => lowerLetter c || digit c)
    (fun c => lowerLetter c || digit c || c ∈ ['.', '_', '-']) 31 (dropStart "linux/" value)

/-- `environmentPattern`. -/
def validEnvironmentName (value : String) : Bool :=
  matchesWord (fun c => upperLetter c || c = '_') (fun c => upperLetter c || digit c || c = '_') 127 value

def ProfileID.text (id : ProfileID) : String :=
  if id.name = "" ∨ id.revision = 0 then "" else id.name ++ "@" ++ toString id.revision

/-! ### Images, tools and secrets -/

def validDigestImage (image : String) : Bool :=
  match cut "@sha256:".toList image.toList with
  | none => false
  | some (name, digest) =>
    name ≠ [] && '@' ∉ name && (String.ofList digest).utf8ByteSize = 64 &&
      digest.all (fun c => digit c || ('a' ≤ c && c ≤ 'f')) &&
      -- a colon after the last slash is a tag
      ':' ∉ (name.reverse.takeWhile (· ≠ '/')) && name.all (· ∉ [' ', '\t', '\r', '\n'])

def reservedCapabilityNamespaces : List String :=
  ["paje", "hatchet", "mem0", "submission", "publisher", "git", "ssh", "registry", "executor"]

def reservedEnvironmentKeys : List String :=
  ["HOME", "PATH", "TMP", "TEMP", "TMPDIR", "PWD", "OLDPWD", "SHELL", "USER", "LOGNAME", "LANG", "CODEX_HOME",
    "GIT_ASKPASS", "SSH_AUTH_SOCK"]

def reservedEnvironmentStarts : List String :=
  ["PAJE_", "HATCHET_", "MEM0_", "SUBMISSION_", "PUBLISHER_", "GIT_", "SSH_", "DOCKER_", "REGISTRY_", "EXECUTOR_"]

def validCapability (capability : String) : Bool :=
  let parts := (capability.toList.splitOn '.').map String.ofList
  2 ≤ parts.length && !parts.head?.any (· ∈ reservedCapabilityNamespaces) && parts.all validIdentifier

def secretRoot : String := "/run/paje/secrets"

def validSecretPath (target : String) : Bool :=
  beginsWith "/" target && clean target = target && beginsWith (secretRoot ++ "/") target

def validEnvironmentTarget (target : String) : Bool :=
  validEnvironmentName target && target ∉ reservedEnvironmentKeys &&
    reservedEnvironmentStarts.all fun start => !beginsWith start target

def targetsOverlap (first second : SecretRequirement) : Bool :=
  if first.delivery = .environment || second.delivery = .environment then
    first.delivery = .environment && second.delivery = .environment && first.target = second.target
  else
    first.target = second.target || beginsWith (second.target ++ "/") first.target ||
      beginsWith (first.target ++ "/") second.target

def validateTool (tool : Tool) : Except String Unit := do
  require (validIdentifier tool.name ∧ validVersion tool.version) "invalid worker tool declaration"
  require (validVersion tool.probe.executable ∧ tool.probe.outputContains ≠ "" ∧
    tool.probe.outputContains.utf8ByteSize ≤ 4096 ∧ '\x00' ∉ tool.probe.outputContains.toList)
    "invalid worker tool probe"
  require (tool.probe.args.length ≤ 128) "worker tool probe has too many arguments"
  require (∀ argument ∈ tool.probe.args, argument.utf8ByteSize ≤ 4096 ∧ '\x00' ∉ argument.toList)
    "invalid worker tool probe argument"

def validateTools (tools : List Tool) : Except String Unit := do
  tools.forM validateTool
  require (tools.map (·.name)).Nodup "duplicate worker tool declaration"

def validateSecret (requirement : SecretRequirement) : Except String Unit := do
  require (validCapability requirement.capability) "invalid or reserved secret capability"
  require (requirement.bindingRevision ≠ 0) "secret binding revision must be positive"
  require (requirement.stage = "agent" ∧ requirement.required)
    "secret requirements must be required and agent-only"
  match requirement.delivery with
  | .file | .directory => require (validSecretPath requirement.target) "invalid secret delivery path"
  | .environment => require (validEnvironmentTarget requirement.target) "invalid secret environment target"

def validateSecrets (secrets : List SecretRequirement) : Except String Unit := do
  secrets.forM validateSecret
  require (secrets.map (·.capability)).Nodup "duplicate secret capability"
  require (secrets.Pairwise fun prior requirement => targetsOverlap prior requirement = false)
    "secret delivery targets overlap"

/-- `DefaultLimits`. -/
def maxResources : Resources where
  cpuMillis := 64000
  memoryBytes := 1099511627776
  pids := 32768

def validateOCI (profile : Profile) : Except String Unit := do
  require (validDigestImage profile.runtime.image) "OCI worker image must use an immutable sha256 digest"
  require (validPlatform profile.runtime.platform) "OCI worker platform must be explicit Linux architecture"
  require (profile.runtime.network ≠ none) "OCI worker network mode is unsupported"
  require profile.runtime.readOnlyRoot "OCI worker root filesystem must be read-only"
  let resources := profile.resources
  require (0 < resources.cpuMillis ∧ resources.cpuMillis ≤ maxResources.cpuMillis ∧
    0 < resources.memoryBytes ∧ resources.memoryBytes ≤ maxResources.memoryBytes ∧
    0 < resources.pids ∧ resources.pids ≤ maxResources.pids)
    "OCI worker resources are outside operator limits"

def validateRuntime (profile : Profile) : Except String Unit :=
  match profile.runtime.kind with
  | .oci => validateOCI profile
  | .host => require (profile.runtime = { kind := .host } ∧ profile.resources = {} ∧ profile.secrets = [])
      "host worker profile declares unsupported isolation or secrets"

def secretOrder (one two : SecretRequirement) : Prop :=
  one.capability < two.capability ∨ one.capability = two.capability ∧ one.target ≤ two.target

instance : DecidableRel secretOrder := fun _ _ => inferInstanceAs (Decidable (_ ∨ _))

def validateAndNormalize (profile : Profile) : Except String Profile := do
  require (profile.apiVersion = "paje.araihu.com/v1alpha1" ∧ profile.kind = "WorkerProfile")
    "unsupported worker profile contract"
  require (validIdentifier profile.id.name ∧ profile.id.revision ≠ 0) "invalid worker profile identity"
  require (validIdentifier profile.harness.id ∧ validVersion profile.harness.version)
    "invalid worker profile harness"
  validateTools profile.tools
  validateSecrets profile.secrets
  validateRuntime profile
  return { profile with
    tools := profile.tools.insertionSort fun one two => one.name ≤ two.name
    secrets := profile.secrets.insertionSort secretOrder }

def canonicalize [sha : ProfileSha] (profile : Profile) : Except String Profile := do
  let normalized ← validateAndNormalize { profile with digest := "" }
  let digest := sha.digest normalized
  require (profile.digest ≠ "" → profile.digest = digest)
    "worker profile digest does not match canonical content"
  return { normalized with digest }

/-- `Canonicalize` gives the profile itself. -/
def Profile.Exact [ProfileSha] (profile : Profile) : Prop := canonicalize profile = .ok profile

instance [ProfileSha] (profile : Profile) : Decidable profile.Exact :=
  inferInstanceAs (Decidable (canonicalize profile = .ok profile))

end Paje.Run
