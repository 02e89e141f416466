import Paje.CodeChange.Resolve

/-!
One execute attempt as a task over its outcome. Before and after every effect the attempt asks
whether it still owns its stage, and an effect of an attempt that does not is marked in the outcome.
-/

namespace Paje.CodeChange

open Text Run

abbrev Attempting := Task Outcome Ask Answer

structure Fence where
  runID : String
  ownership : Ownership

def consult (question : Ask) : Attempting (Answer question) := Task.query question

variable [digests : Digests] (service : Service)

/-- `checkExecuteOwnership`: the loaded record, and no errors if the attempt owns its stage. -/
def checkExecuteOwnership (fence : Fence) : Phase (Option CodeRun × Bool × Errors) := do
  match ← loadBound service fence.runID with
  | .error (record, errors) => return (record, false, errors)
  | .ok (record, _) => do
    let readings ← ask .readings
    return (some record, ownsStage readings record fence.ownership, [])

/-- `check`: whether the attempt owns its stage, with the errors of the look. -/
def Fence.check (fence : Fence) : Attempting (Bool × Errors) := do
  let (record, owned, errors) ← Task.call (checkExecuteOwnership service fence)
  if owned && errors = [] then return (true, [])
  else do
    Task.update (·.withOwnershipLost record errors)
    return (false, errors)

/-- What a result is worth whose child start is not confirmed by its receipt. -/
def confirmed (request : SandboxRequest) (result : SandboxResult) (errors : Errors) : SandboxResult × Errors :=
  match validateChildStartConfirmation request result with
  | .ok _ => (result, errors)
  | .error message => ({ result with started := false, completed := false, receipt := none },
      errors ++ [.provider "internal" "ambiguous_attempt", .text message])

/-- `checkpointAgentLifecycle` after an execution of the agent. -/
def Fence.checkpointAgent (fence : Fence) (request : SandboxRequest) (result : SandboxResult) :
    Attempting Errors := do
  if request.attempt.purpose = .agent && result.started then
    match ← Task.call (mutateRecord service fence.runID (.checkpointAgent fence.ownership result)) with
    | .ok _ => return []
    | .error errors =>
      if .phaseInProgress ∈ errors then do
        let _ ← fence.check service
        return errors
      else return errors
  else return []

def Fence.execute (fence : Fence) (request : SandboxRequest) : Attempting (SandboxResult × Errors) :=
  match validateDeclaration request with
  | .error message => return ({}, [.text message])
  | .ok _ => do
    let (owned, _) ← fence.check service
    if !owned then return ({}, [.phaseInProgress])
    else do
      let answer ← consult (.execute request)
      let (result, errors) := confirmed request answer.1 answer.2
      Task.update (·.recordExecution request result)
      let checkpoint ← fence.checkpointAgent service request result
      let (owned, _) ← fence.check service
      return (result, errors ++ checkpoint ++ if owned then [] else [.phaseInProgress])

def Fence.inspect (fence : Fence) (attempt : AttemptID) : Attempting (SandboxState × Errors) := do
  let (owned, _) ← fence.check service
  if !owned then return (.unknown, [.phaseInProgress])
  else do
    let (state, errors) ← consult (.inspect attempt)
    let (owned, _) ← fence.check service
    return (state, errors ++ if owned then [] else [.phaseInProgress])

def Fence.cancel (fence : Fence) (attempt : AttemptID) : Attempting Errors := do
  let (before, _) ← fence.check service
  let errors ← consult (.cancel attempt)
  let (after, _) ← fence.check service
  Task.update (·.markAttempt attempt fun evidence => { evidence with canceled := errors = [] })
  return errors ++ if before && after then [] else [.phaseInProgress]

def Fence.destroy (fence : Fence) (attempt : AttemptID) : Attempting Errors := do
  let (before, _) ← fence.check service
  let destroyErrors ← consult (.destroy attempt)
  let (after, _) ← fence.check service
  let (state, inspectErrors) ← fence.inspect service attempt
  let destroyed := destroyErrors = [] && inspectErrors = [] && (state = .absent || state = .destroyed)
  Task.update (·.markAttempt attempt fun evidence => { evidence with destroyed })
  return destroyErrors ++ inspectErrors ++
    (if destroyed then [] else [.text "executor termination was not confirmed"]) ++
    if before && after then [] else [.phaseInProgress]

def defaultSandboxTimeout : Int := minute

def defaultOutputLimit : Int := 1048576

def executorAttempt (fence : Fence) (purpose : Purpose) (sequence : Nat) : AttemptID :=
  ⟨fence.runID, fence.ownership.name, fence.ownership.attempt, fence.ownership.startedAt, purpose, sequence⟩

def sandboxEnvironment : Table String :=
  table [("HOME", "/home/paje"), ("PATH", canonicalSandboxPATH), ("TMPDIR", "/tmp")]

/-- `runProbe`: the result with the errors of the execution, and the errors of the cleanup. -/
def Fence.runProbe (fence : Fence) (workspace : String) (profile : Profile) (command : SandboxCommand)
    (sequence : Nat) : Attempting ((SandboxResult × Errors) × Errors) := do
  let attempt := executorAttempt fence .probe sequence
  let execution ← fence.execute service {
    attempt
    profile
    command
    hostPath := workspace
    environment := sandboxEnvironment
    timeout := defaultSandboxTimeout
    outputLimit := defaultOutputLimit }
  let cleanup ← fence.destroy service attempt
  return (execution, cleanup)

def containsText (part whole : String) : Bool := (cut part.toList whole.toList).isSome

def probeSucceeded (result : SandboxResult) (required : String) : Bool :=
  result.created && result.started && result.completed && result.exitCode = 0 && !result.secretDetected &&
    (required = "" || containsText required (result.stdout ++ result.stderr))

def runtimeProbeMatches (profile : Profile) (facts : Table String) : Bool :=
  match profile.runtime.kind with
  | .oci => facts.get? "runtime_kind" = some "oci" && (facts.get? "image").getD "" = profile.runtime.image &&
      (facts.get? "platform").getD "" = profile.runtime.platform && facts.get? "isolated" = some "true"
  | .host => facts.get? "runtime_kind" = some "host" && facts.get? "isolated" = some "false" &&
      facts.get? "certified" = some "false"

/-- `revokeAgentLeases`, the last lease first. -/
def Fence.revoke (fence : Fence) : List SecretLease → Attempting Errors
  | [] => return []
  | lease :: rest => do
    let later ← fence.revoke rest
    let _ ← fence.check service
    let errors ← consult (.revoke lease.id)
    Task.update fun outcome => { outcome with cleanupFailed := outcome.cleanupFailed || errors ≠ [] }
    let _ ← fence.check service
    return later ++ errors

/-- The end of an acquisition that failed: what was leased is revoked. -/
def Fence.abandon (fence : Fence) (leases : List SecretLease) (errors : Errors) :
    Attempting (Except Errors (List SecretLease)) := do
  let revoked ← fence.revoke service leases
  return .error (errors ++ revoked)

/-- `acquireAgentLeases`. -/
def Fence.acquire (fence : Fence) :
    List SecretRequirement → List BindingRef → List SecretLease → Attempting (Except Errors (List SecretLease))
  | [], _, leases => return .ok leases
  | requirement :: rest, bindings, leases => do
    let (owned, errors) ← fence.check service
    if !owned then fence.abandon service leases (.phaseInProgress :: errors)
    else match bindings with
      | [] => fence.abandon service leases [.text "resolved secret binding is missing"]
      | binding :: bindings => do
        let answer ← consult (.acquire fence.ownership binding requirement
          (fence.ownership.startedAt + executeLease))
        match answer with
        | .error errors => fence.abandon service leases errors
        | .ok lease => do
          let (owned, errors) ← fence.check service
          if !owned then fence.abandon service (leases ++ [lease]) (.phaseInProgress :: errors)
          else fence.acquire rest bindings (leases ++ [lease])

def Fence.cleanupAgent (fence : Fence) (leases : List SecretLease) : Attempting Errors := do
  let destroyed ← fence.destroy service (executorAttempt fence .agent 0)
  let revoked ← fence.revoke service leases
  return destroyed ++ revoked

/-- `captureOwned`; a capture that failed is empty. -/
def Fence.capture (fence : Fence) (workspace baseSHA : String) : Attempting (Capture × Errors) := do
  let (owned, errors) ← fence.check service
  if !owned then return (⟨"", [], ""⟩, .phaseInProgress :: errors)
  else do
    let answer ← consult (.capture workspace baseSHA)
    let (owned, errors) ← fence.check service
    let lost : Errors := if owned then [] else .phaseInProgress :: errors
    match answer with
    | .ok capture => return (capture, lost)
    | .error errors => return (⟨"", [], ""⟩, errors ++ lost)

def detectSecretMaterial (canceled : Bool) (secrets : List Materialization) (capture : Capture) : Bool :=
  !canceled && !(service.scan secrets capture.patch || service.scan secrets capture.treeSHA ||
    capture.changes.any fun change => service.scan secrets change.path || service.scan secrets change.oldPath ||
      service.scan secrets change.status || service.scan secrets change.oldMode ||
      service.scan secrets change.newMode)

def inspectionFailed {α : Type} (errors : Errors) : Attempting α := do
  let canceled ← consult .canceled
  Task.stop fun outcome => if outcome.ownershipLost then outcome else
    outcome.withFailure (classifyProfileFailure canceled errors) errors

def inspected {α : Type} (result : Except Errors α) : Attempting α :=
  match result with
  | .ok value => return value
  | .error errors => inspectionFailed errors

/-- `profileOutput`, with the sequence number of the last command. -/
def Fence.output (fence : Fence) (runner : Runner) (sequence : Nat) (directory : String)
    (environment : Option (Table String)) (operation executable : String) (args : List String) :
    Attempting (String × Nat) := do
  let (result, sequence) ← runner.run (fence.execute service) (fence.destroy service) sequence {
    name := operation
    directory
    executable
    args
    environment
    timeout := minute
    required := true }
  if result.passed then return (result.output, sequence)
  else if result.failureClass = "environment" then inspectionFailed [.environment operation]
  else inspectionFailed [.text ("inspect repository profile: " ++ operation ++ " failed (" ++ result.causeCode ++
    "): " ++ trimSpace result.output)]

def Fence.git (fence : Fence) (runner : Runner) (sequence : Nat) (operation : String) (args : List String) :
    Attempting (String × Nat) :=
  fence.output service runner sequence "." none operation "git"
    (["-c", "safe.directory=" ++ sandboxWorkspaceRoot] ++ args)

def Fence.inspectGit (fence : Fence) (runner : Runner) (sequence : Nat) : Attempting (Table String × Nat) := do
  let (baseSHA, sequence) ← fence.git service runner sequence "git rev-parse HEAD" ["rev-parse", "HEAD"]
  let (status, sequence) ← fence.git service runner sequence "git status" ["status", "--porcelain=v1"]
  return (table [("base_sha", trimSpace baseSHA), ("git_status", trimSpace status),
    ("git_available", "available")], sequence)

def specInModule (module : String) (spec : CommandSpec) : CommandSpec :=
  let directory := trimSpace spec.directory
  let directory := if directory = "" then "." else directory
  { spec with directory := if module = "." then directory else clean (module ++ "/" ++ directory) }

/-- The command that `verification.Compile` makes of a valid check. -/
def compiled (spec : CommandSpec) (environment : Option (Table String)) : Check where
  name := trimSpace spec.name
  directory := clean (trimSpace spec.directory)
  executable := trimSpace spec.executable
  args := spec.args
  environment
  timeout := spec.timeout
  required := spec.required

def compileChecks (workspace module : String) (environment : Option (Table String)) :
    List CommandSpec → Attempting (List Check)
  | [] => return []
  | spec :: rest => do
    let spec := specInModule module spec
    let _ ← inspected (liftText (validateSpec spec))
    let contained ← consult (.contained workspace (clean (trimSpace spec.directory)))
    let _ ← inspected contained
    let commands ← compileChecks workspace module environment rest
    return compiled spec environment :: commands

def Fence.inspectGeneric (fence : Fence) (runner : Runner) (sequence : Nat) (input : Input) :
    Attempting Inspection := do
  let answer ← consult (.resolveWorkspace runner.workspace)
  let workspace ← inspected answer
  let _ ← inspected (require (input.checks ≠ [])
    [.text "inspect generic repository profile: at least one check is required"])
  let _ ← inspected (require (input.checks.length ≤ 64) [.text "inspect generic repository profile: too many checks"])
  let (facts, _) ← fence.inspectGit service runner sequence
  let commands ← compileChecks workspace "." none input.checks
  return { facts, commands }

/-- `strings.Split` at NUL bytes. -/
def splitNul (value : String) : List String := (value.toList.splitOn '\x00').map String.ofList

def modulePath (path : String) : Except Errors String := do
  let module := if path = "go.mod" then "." else dropEnd "/go.mod" path
  require (module ≠ "" ∧ ¬ beginsWith "../" module ∧ ¬ beginsWith "/" module)
    [.text ("inspect Go repository profile: invalid tracked go.mod path \"" ++ module ++ "\"")]
  return module

/-- The modules of `discoverModules`, unsorted, from the tracked paths. -/
def discoverModules (workspace : String) : List String → List String → Attempting (List String)
  | [], modules => return modules
  | path :: rest, modules =>
    if path = "" then discoverModules workspace rest modules
    else do
      let module ← inspected (modulePath path)
      if module ∈ modules then discoverModules workspace rest modules
      else do
        let contained ← consult (.contained workspace module)
        let _ ← inspected contained
        discoverModules workspace rest (modules ++ [module])

/-- `applyExclusions`: the selected modules and the warnings about the others. -/
def applyExclusions (modules : List String) (exclusions : List ModuleExclusion) :
    Except Errors (List String × List String) := do
  require (∀ exclusion ∈ exclusions, ¬ blank exclusion.path ∧ ¬ blank exclusion.reason ∧
    ¬ beginsWith "/" exclusion.path ∧ ¬ (splitSlash exclusion.path.toList).contains ['.', '.'])
    [.text "inspect Go repository profile: invalid module exclusion"]
  require (exclusions.map fun exclusion => trimSpace exclusion.path).Nodup
    [.text "inspect Go repository profile: duplicate module exclusion"]
  require (∀ exclusion ∈ exclusions, trimSpace exclusion.path ∈ modules)
    [.text "inspect Go repository profile: exclusion is not a discovered module"]
  let excluded := fun module => exclusions.find? fun exclusion => trimSpace exclusion.path = module
  return (modules.filter fun module => (excluded module).isNone, modules.filterMap fun module =>
    (excluded module).map fun exclusion => "excluded module " ++ module ++ ": " ++ trimSpace exclusion.reason)

def goWorkOff : Table String := table [("GOWORK", "off")]

def Fence.listModules (fence : Fence) (runner : Runner) (workspace : String) :
    Nat → List String → Table String → Attempting (Table String)
  | _, [], facts => return facts
  | sequence, module :: rest, facts => do
    let contained ← consult (.contained workspace module)
    let _ ← inspected contained
    let (output, sequence) ← fence.output service runner sequence module (some goWorkOff) "go list -m -json" "go"
      ["list", "-m", "-json"]
    fence.listModules runner workspace sequence rest (facts.put ("go_module:" ++ module) (trimSpace output))

def defaultGoCheck (module : String) : CommandSpec where
  name := "go test " ++ module
  directory := "."
  executable := "go"
  args := ["test", "./..."]
  timeout := 10 * minute
  required := true

def moduleChecks (workspace : String) (checks : List CommandSpec) : List String → Attempting (List Check)
  | [] => return []
  | module :: rest => do
    let contained ← consult (.contained workspace module)
    let _ ← inspected contained
    let commands ← compileChecks workspace module (some goWorkOff)
      (if checks = [] then [defaultGoCheck module] else checks)
    let others ← moduleChecks workspace checks rest
    return commands ++ others

def Fence.inspectGo (fence : Fence) (runner : Runner) (sequence : Nat) (input : Input) : Attempting Inspection := do
  let answer ← consult (.resolveWorkspace runner.workspace)
  let workspace ← inspected answer
  let (facts, sequence) ← fence.inspectGit service runner sequence
  let (goWork, sequence) ← fence.output service runner sequence "." none "go env GOWORK" "go" ["env", "GOWORK"]
  let (paths, sequence) ← fence.git service runner sequence "git ls-files go.mod"
    ["ls-files", "-z", "--", "go.mod", "**/go.mod"]
  let modules ← discoverModules workspace (splitNul paths) []
  let _ ← inspected (require (modules ≠ []) [.text "inspect Go repository profile: no tracked go.mod files"])
  let (selected, warnings) ← inspected (applyExclusions (sortStrings modules) input.moduleExclusions)
  let facts ← fence.listModules service runner workspace sequence selected
    ((facts.put "go_work" (trimSpace goWork)).put "go_available" "available")
  let _ ← inspected (require (selected.length ≤ 64 / max input.checks.length 1)
    [.text "inspect Go repository profile: too many generated checks"])
  let commands ← moduleChecks workspace input.checks selected
  return { facts, warnings, commands }

end Paje.CodeChange
