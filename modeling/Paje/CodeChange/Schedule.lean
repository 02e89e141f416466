import Paje.CodeChange.System

/-!
Runs of the service that can be evaluated: a schedule names the worker that is answered next, and
the surroundings that its question is answered in.
-/

namespace Paje.CodeChange

open Text Run

variable [digests : Digests]

structure Surroundings where
  canceled : Bool := false
  now : Time
  revision : Except Errors Revision := .error [.text "unavailable"]
  profile : Except Errors Profile := .error [.text "unavailable"]
  memory : Errors := []
  workspace : Except Errors String := .error [.text "unavailable"]
  cleanup : Errors := []
  execute : SandboxRequest → SandboxResult × Errors := fun _ => ({}, [.text "unavailable"])
  inspect : AttemptID → SandboxState × Errors := fun _ => (.absent, [])
  destroy : AttemptID → Errors := fun _ => []
  capture : Except Errors Capture := .error [.text "unavailable"]
  decision : Except Errors Decision := .error [.text "unavailable"]
  publication : Except Errors Publication := .error [.text "unavailable"]

def Surroundings.readings (surroundings : Surroundings) : Readings :=
  let now := surroundings.now
  ⟨surroundings.canceled, now, now, now, now, now, now, now⟩

def executeWith (exit : SandboxRequest → Int) (stdout : SandboxRequest → String) (request : SandboxRequest) :
    SandboxResult × Errors :=
  match newChildStartReceipt request.attempt request.command request.environment (receiptEnvironmentFiles request)
      (String.ofList (List.replicate 64 '0')) with
  | .error message => ({}, [.text message])
  | .ok receipt =>
    ({ created := true
       started := true
       completed := true
       receipt := some receipt
       exitCode := exit request
       stdout := stdout request
       safeFacts := table [("runtime_kind", "host"), ("isolated", "false"), ("certified", "false")] }, [])

def replyReserve (world : World) (reservation : Reservation Input) :
    Except (Option CodeRun × Errors) (CodeRun × Bool) × World :=
  match newRecord reservation with
  | .error error => (.error (none, [.run error]), world)
  | .ok record =>
    if world.records.entries = [] then (.ok (record, true), world.create record)
    else (.error (none, [.text "unavailable"]), world)

def replySave (world : World) (mutation : Mutation) (record : CodeRun) (expected : Nat) :
    Except Errors CodeRun × World :=
  match world.records.get? record.id with
  | none => (.error [.text "missing"], world)
  | some current =>
    if current.version = expected then
      match prepareSave current record with
      | .error error => (.error [.run error], world)
      | .ok saved => (.ok saved, world.write mutation current saved)
    else (.error [.run (.versionConflict "stale")], world)

def reply (contents : Reference → Option Bundle) (surroundings : Surroundings) (world : World) :
    (question : Ask) → Answer question × World
  | .canceled => (surroundings.canceled, world)
  | .clock => (surroundings.now, world)
  | .readings => (surroundings.readings, world)
  | .reserve reservation => replyReserve world reservation
  | .load id => (match world.records.get? id with
    | some record => .ok record
    | none => .error [.text "missing"], world)
  | .save mutation record expected => replySave world mutation record expected
  | .resolveRevision _ _ => (surroundings.revision, world)
  | .resolveProfile _ => (surroundings.profile, world)
  | .resolveBinding _ _ => (.error [.text "unavailable"], world)
  | .searchMemory _ _ _ => (.ok [], world)
  | .saveMemory _ _ => (surroundings.memory, world)
  | .prepareWorkspace _ _ => (surroundings.workspace, world)
  | .cleanupWorkspace _ => (surroundings.cleanup, world)
  | .resolveWorkspace path => (.ok path, world)
  | .contained _ _ => (.ok (), world)
  | .execute request => (surroundings.execute request, world)
  | .inspect attempt => (surroundings.inspect attempt, world)
  | .cancel _ => ([], world)
  | .destroy attempt => (surroundings.destroy attempt, world)
  | .acquire _ _ _ _ => (.error [.text "unavailable"], world)
  | .revoke _ => ([], world)
  | .capture _ _ => (surroundings.capture, world)
  | .evaluate _ => (⟨true, "[]"⟩, world)
  | .saveArtifact bundle => (match referenceFor bundle with
    | .ok reference => .ok reference
    | .error message => .error [.text message], world)
  | .loadArtifact reference => (match contents reference with
    | some bundle => .ok bundle
    | none => .error [.text "missing"], world)
  | .requestApproval _ => (surroundings.decision, world)
  | .publish _ => (surroundings.publication, world)

theorem reserves_reply {world : World} {reservation : Reservation Input} :
    Reserves world reservation (replyReserve world reservation).1 (replyReserve world reservation).2 := by
  unfold replyReserve
  split
  · exact .failed _
  · rename_i record made
    split
    · rename_i empty
      have none : ∀ id, world.records.get? id = Option.none := by
        intro id
        exact AList.lookup_eq_none.mpr fun member => by
          rw [AList.mem_keys, AList.keys, List.keys, empty] at member
          cases member
      refine .created made (none _) (fun id other found => ?_) _ (.inl rfl)
      rw [none id] at found
      cases found
    · exact .failed _

theorem saved_reply {world : World} {mutation : Mutation} {record : CodeRun} {expected : Nat} :
    Saved world mutation record expected (replySave world mutation record expected).1
      (replySave world mutation record expected).2 := by
  unfold replySave
  split
  · exact .failed _
  · rename_i current found
    split
    · rename_i version
      split
      · exact .failed _
      · rename_i saved prepared
        exact .accepted found version prepared _ (.inl rfl)
    · exact .failed _

variable {contents : Reference → Option Bundle}

theorem answers_reply (surroundings : Surroundings) (world : World)
    (question : Ask) : Answers contents world question (reply contents surroundings world question).1
      (reply contents surroundings world question).2 := by
  cases question
  case reserve reservation => exact reserves_reply
  case save mutation record expected => exact saved_reply
  case load id =>
    refine ⟨rfl, fun record same => ?_⟩
    simp only [reply] at same
    split at same
    · rename_i found
      cases same
      exact found
    · cases same
  case loadArtifact reference =>
    refine ⟨rfl, fun bundle same => ?_⟩
    simp only [reply] at same
    split at same
    · rename_i found
      cases same
      exact found
    · cases same
  all_goals rfl

abbrev Move := Pool.Move Call Surroundings

def Service.play (service : Service) (contents : Reference → Option Bundle)
    (allowed : Service.Pool → Exchanges → Ask → Bool) (moves : List Move) : Option Service.Pool :=
  Pool.play (Call.program service) (reply contents) allowed moves ⟨{}, []⟩

theorem Service.play_reaches {service : Service}
    {allowed : Service.Pool → Exchanges → Ask → Bool} {guard : Service.Pool → Exchanges → Ask → Prop}
    {moves : List Move} {pool : Service.Pool}
    (met : ∀ pool trace question, allowed pool trace question = true → guard pool trace question)
    (played : service.play contents allowed moves = some pool) : service.Reaches contents guard pool :=
  Pool.play_reaches (fun call => ⟨call, rfl⟩) answers_reply met .refl played

def answered (index count : Nat) (surroundings : Surroundings) : List Move :=
  List.replicate count (.answer index surroundings)

end Paje.CodeChange

namespace Paje.CodeChange.Sample

open Text Run

def sha : String := String.ofList (List.replicate 64 '0')

def revision : String := String.ofList (List.replicate 40 '0')

def attemptKey (id : AttemptID) : String :=
  let purpose := match id.purpose with
    | .probe => 'p'
    | .agent => 'a'
    | .verification => 'v'
  String.ofList (purpose :: List.replicate id.sequence 's' ++ 'n' :: List.replicate id.attempt 't')

/-- Digests that are the same for all values, apart from the keys of attempts. -/
@[reducible] def oneDigest : Digests where
  digest _ := sha
  input _ := sha
  attemptKey := attemptKey
  receiptCommand _ _ _ := sha
  receiptEnvironment _ _ _ := sha
  receipt _ := sha
  halfDigest _ := String.ofList (List.replicate 32 '0')
  patch text := (sha, text.length)
  agentOutput text := (sha, text.length)
  execution _ := (sha, 1)
  verification _ := (sha, 1)
  preflight _ := (sha, 1)
  warnings _ := (sha, 1)
  archive _ := (sha, 1)

attribute [local instance] oneDigest

def profile : Profile where
  apiVersion := "paje.araihu.com/v1alpha1"
  kind := "WorkerProfile"
  id := ⟨"host", 1⟩
  runtime := { kind := .host }
  harness := ⟨"codex", "1"⟩
  digest := sha

def check (name : String) (required : Bool) : CommandSpec where
  name
  executable := "make"
  timeout := minute
  required

def input (mode : PublicationMode) (checks : List CommandSpec) : Input where
  taskDescription := "task"
  repositoryURI := "https://github.com/owner/name.git"
  baseRef := "main"
  memoryLimit := 0
  tags := table [("user_id", "user"), ("app_id", "app")]
  workerProfile := ⟨"host", 1⟩
  profile := "generic"
  checks
  publication := { mode, provider := "github", targetBranch := "main", title := "title" }

def adapter : Adapter where
  id := "codex"
  version := "1"
  probe := { executable := "codex", args := ["--version"], directory := "/workspace" }
  agentCommandFor _ _ := .ok { executable := "codex", directory := "/workspace" }
  agentEnvironment _ := .ok ∅
  parse result := if result.stdout = "" then .error [.text "no output"] else .ok result.stdout
  acceptsCapability _ := true

def service : Service where
  parseURL _ := some
    { scheme := "https", host := "github.com", hostname := "github.com", path := "/owner/name.git" }
  executor _ := some fun _ => []
  adapters := [adapter]
  scan _ _ := false

def working (now : Time) (exit : SandboxRequest → Int) (stdout : SandboxRequest → String) : Surroundings where
  now
  revision := .ok { repositoryURI := "https://github.com/owner/name.git", ref := "main", sha := revision }
  profile := .ok profile
  workspace := .ok "/tmp/work/run"
  execute := executeWith exit stdout
  capture := .ok
    { patch := "patch", changes := [{ path := "file", status := "M", oldMode := "100644", newMode := "100644" }],
      treeSHA := revision }

def well (now : Time) : Surroundings := working now (fun _ => 0) (fun _ => "codex 1")

def resolved (mode : PublicationMode) (checks : List CommandSpec) : List Move :=
  .start (.resolveWithRunID "run" (input mode checks) true) :: answered 0 15 (well 5)

def executedRun (mode : PublicationMode) (checks : List CommandSpec) (questions : Nat) : List Move :=
  resolved mode checks ++ .start (.execute "run") :: answered 1 questions (well 10)

def reviewed (now : Time) : Surroundings :=
  { well now with
    decision := .ok { runID := "run", artifactDigest := sha, approved := true, actor := "reviewer", decidedAt := now }
    publication := .ok
      { provider := "github", branch := publicationBranch "run", commitSHA := revision, pullRequestID := "1",
        pullRequestURL := "https://github.com/owner/name/pull/1", verificationDigest := sha } }

def attemptEvidence (purpose : Purpose) (sequence : Nat) : AttemptEvidence where
  id := ⟨"run", "execute", 1, 10, purpose, sequence⟩
  created := true
  started := true
  completed := true
  destroyed := true

def bundle : Bundle where
  manifest :=
    { runID := "run"
      template := codeChangeID
      repository := "https://github.com/owner/name.git"
      baseSHA := revision
      treeSHA := revision
      changes := [{ path := "file", status := "M", oldMode := "100644", newMode := "100644" }]
      memoryIDs := []
      memoryCount := 0 }
  changesPatch := "patch"
  agentOutput := "codex 1"
  executionMetadata :=
    { exitCode := 0
      duration := 0
      started := true
      completed := true
      truncated := false
      profile := ⟨"host", 1, sha⟩
      runtime := { kind := .host, isolated := false, certified := false }
      harness := ⟨"codex", "1", "1", true, 0⟩
      tools := []
      attempts := [attemptEvidence .probe 0, attemptEvidence .probe 1, attemptEvidence .probe 2,
        attemptEvidence .agent 0, attemptEvidence .verification 1]
      agentEnvironmentKeys := some ["HOME", "PATH", "TMPDIR"]
      verificationEnvironmentKeys := ["HOME", "PATH", "TMPDIR"] }
  verification :=
    [{ command :=
        { name := "build", directory := ".", executable := "make", environmentKeys := some [], timeout := minute,
          required := true }
       output := "codex 1"
       passed := true }]
  preflight := table [("git_available", "available"), ("git_status", "codex 1"), ("base_sha", "codex 1")]
  warnings := []

/-- An artifact store that holds one artifact; what it loads is in canonical form. -/
def holding (bundle : Bundle) (reference : Reference) : Option Bundle :=
  if referenceFor bundle = .ok reference then (canonicalizeBundle bundle).toOption else none

def unprepared (now : Time) : Surroundings := { well now with workspace := .error [.text "unavailable"] }

def waiting : List Move := resolved .artifact [check "build" true] ++ .start (.execute "run") :: answered 1 5 (well 10)

/-- Meanwhile its lease expires, and another worker starts the next attempt. -/
def overtaken : List Move := waiting ++ .start (.execute "run") :: answered 2 9 (well (10 + 36 * minute))

end Paje.CodeChange.Sample
