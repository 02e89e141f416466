import Paje.Control.Types
import Paje.Lib.Keyed
import Mathlib.Data.List.Sort

/-!
The task graph and the checks a revision of it has to pass.
-/

namespace Paje.Control

open Text Journal

def requiredCapabilities : Primitive → List Capability
  | .persistentSession => [.dispatch, .observe, .wait, .runtimeIdentity, .acknowledge, .send, .callback,
      .cursor, .interrupt, .idempotency, .restart, .archive, .isolation]
  | .ephemeralSubagent => [.dispatch, .observe, .wait, .runtimeClose]
  | .harnessNativeParallel => [.dispatch, .wait, .interrupt, .deterministicAggregation]
  | .localSequential => [.localWork]

def Capability.valid : Capability → Bool
  | .other _ => false
  | _ => true

namespace PrimitiveCapabilities

def supports (c : PrimitiveCapabilities) (capability : Capability) : Bool := capability ∈ c.capabilities

def validate (c : PrimitiveCapabilities) : Except HarnessError Unit := do
  require (0 ≤ c.concurrencyLimit) .invalidCapabilities
  require (∀ name ∈ c.capabilities, name.valid) .invalidCapabilities
  require (∀ required ∈ requiredCapabilities c.primitive, c.supports required) .invalidCapabilities

end PrimitiveCapabilities

namespace CapabilitySnapshot

def validate (c : CapabilitySnapshot) : Except HarnessError Unit := do
  require (¬ blank c.harnessID) .invalidCapabilities
  require (c.primitives ≠ {}) .invalidCapabilities
  [Primitive.persistentSession, .ephemeralSubagent, .harnessNativeParallel, .localSequential].forM
    fun primitive => match c.primitives.get? primitive with
    | none => .ok ()
    | some capabilities => do
      require (capabilities.primitive = primitive) .invalidCapabilities
      capabilities.validate

/-- `c.Primitives[primitive].Supports(capability)`. -/
def supports (c : CapabilitySnapshot) (primitive : Primitive) (capability : Capability) : Bool :=
  (c.primitives.get? primitive).any (·.supports capability)

end CapabilitySnapshot

def cleanOwnership (value : String) : String :=
  if '\\' ∈ value.toList ∨ beginsWith "/" value ∨ containsDots value then ""
  else dropStart "./" (clean value)

def pathPatternsOverlap (first second : String) : Bool :=
  let first := cleanOwnership first
  let second := cleanOwnership second
  if first = "" ∨ second = "" then false
  else if first = second then true
  else
    let firstStart := dropEnd "/**" first
    let secondStart := dropEnd "/**" second
    (endsWith "/**" first && (second = firstStart || beginsWith (firstStart ++ "/") second)) ||
      (endsWith "/**" second && (first = secondStart || beginsWith (secondStart ++ "/") first))

def ownershipOverlaps (first second : List String) : Bool :=
  first.any fun left => second.any fun right => pathPatternsOverlap left right

theorem pathPatternsOverlap_comm (first second : String) :
    pathPatternsOverlap first second = pathPatternsOverlap second first := by
  unfold pathPatternsOverlap
  by_cases one : cleanOwnership first = ""
  · simp [one]
  by_cases two : cleanOwnership second = ""
  · simp [two]
  by_cases same : cleanOwnership first = cleanOwnership second
  · simp [same]
  · simp only [one, two, same, Ne.symm same, or_self, if_false]
    rw [Bool.or_comm]

theorem ownershipOverlaps_comm (first second : List String) :
    ownershipOverlaps first second = ownershipOverlaps second first := by
  rw [Bool.eq_iff_iff]
  simp only [ownershipOverlaps, List.any_eq_true]
  constructor
  all_goals
    rintro ⟨left, leftIn, right, rightIn, overlap⟩
    exact ⟨right, rightIn, left, leftIn, pathPatternsOverlap_comm left right ▸ overlap⟩

def validGitSHA (value : String) : Bool :=
  validDigest value || ((value.utf8ByteSize = 40 || value.utf8ByteSize = 64) && (bytes value).all hexDigit)

def taskByID (graph : TaskGraph) (id : String) : Option Task := Keyed.lookup Task.id id graph.tasks

def projectByID (task : Task) (id : String) : Option ProjectRef :=
  Keyed.lookup ProjectRef.id id task.projects

def taskBoundaryActive : TaskState → Bool
  | .dispatched | .active | .needsInput => true
  | _ => false

def ownershipActive (state : TaskState) : Bool := state = .ready || taskBoundaryActive state

def taskTerminal : TaskState → Bool
  | .completed | .failed | .canceled => true
  | _ => false

def sameProject (first second : Task) : Bool :=
  first.projects.any fun left => second.projects.any fun right =>
    left.repository = right.repository && left.baseSHA = right.baseSHA

theorem sameProject_comm (first second : Task) : sameProject first second = sameProject second first := by
  rw [Bool.eq_iff_iff]
  simp only [sameProject, List.any_eq_true, Bool.and_eq_true, decide_eq_true_eq]
  constructor
  all_goals
    rintro ⟨left, leftIn, right, rightIn, repository, base⟩
    exact ⟨right, rightIn, left, leftIn, repository.symm, base.symm⟩

def safeFallback : Primitive → String → Bool
  | .persistentSession, fallback => fallback = "block"
  | .ephemeralSubagent, fallback => fallback = "local_sequential" || fallback = "block"
  | .harnessNativeParallel, fallback => fallback = "persistent_session_or_local_sequential" ||
      fallback = "persistent_session" || fallback = "local_sequential" || fallback = "block"
  | .localSequential, fallback => fallback = "block"

def validatePlacementFields (placement : ExecutionPlacement) : Except Error Unit := do
  require (¬ blank placement.executionPlacement ∧ ¬ blank placement.placementRationale ∧
    placement.capabilityRequirements ≠ [] ∧ ¬ blank placement.lifecycleOwner ∧
    ¬ blank placement.fallback) .invalidPlacement
  require (safeFallback placement.parallelismPrimitive placement.fallback) .invalidPlacement
  require (∀ capability ∈ requiredCapabilities placement.parallelismPrimitive,
    capability ∈ placement.capabilityRequirements) .invalidPlacement

def validateOwnership (ownership : Ownership) : Except Error Unit := do
  require (∀ values ∈ [ownership.mutable, ownership.parentOwned, ownership.forbidden],
    (∀ value ∈ values, cleanOwnership value ≠ "" ∧ cleanOwnership value = value) ∧ values.Nodup)
    .invalidGraph
  require (¬ ownershipOverlaps ownership.mutable ownership.parentOwned ∧
    ¬ ownershipOverlaps ownership.mutable ownership.forbidden) .invalidGraph

def validGate (gate : Gate) : Bool :=
  gate.id ≠ "" && validDigest gate.digest && (!gate.passed || validDigest gate.evidence)

def validateTask (task : Task) : Except Error Unit := do
  require (task.projects ≠ [] ∧ task.frozenInputs ≠ [] ∧ task.acceptance ≠ []) .invalidGraph
  validatePlacementFields task.placement
  validateOwnership task.ownership
  require ((∀ project ∈ task.projects, project.id ≠ "" ∧ project.repository ≠ "" ∧
    project.baseRef ≠ "" ∧ validGitSHA project.baseSHA ∧ project.workspaceScope ≠ "" ∧
    project.credentialScope ≠ "" ∧ project.mailboxNamespace ≠ "" ∧ project.evidenceNamespace ≠ "") ∧
    (task.projects.map (·.id)).Nodup) .invalidGraph
  require (∀ frozen ∈ task.frozenInputs, frozen.id ≠ "" ∧ validDigest frozen.digest) .invalidGraph
  require (∀ gate ∈ task.acceptance, validGate gate) .invalidGraph

/-- The maps `tasks` and `projects` of `ValidateGraph`; of the tasks only the keys are needed. -/
structure Admitted where
  tasks : List String := []
  projects : Table ProjectRef := ∅

def bindProject (projects : Table ProjectRef) (project : ProjectRef) : Except Error (Table ProjectRef) := do
  require (∀ existing ∈ projects.get? project.id, existing = project) .invalidGraph
  return projects.put project.id project

def admitTask (seen : Admitted) (task : Task) : Except Error Admitted := do
  require (task.id ≠ "" ∧ ¬ blank task.goal) .invalidGraph
  require (task.id ∉ seen.tasks) .invalidGraph
  validateTask task
  let projects ← task.projects.foldlM bindProject seen.projects
  return { tasks := task.id :: seen.tasks, projects }

def validateEdges (graph : TaskGraph) (task : Task) : Except Error Unit := do
  require (∀ predecessor ∈ task.dependsOn, predecessor ≠ task.id ∧ (taskByID graph predecessor).isSome) .invalidGraph
  require (∀ edge ∈ task.communication, edge.taskID ∈ task.dependsOn ∧
    ∃ target ∈ taskByID graph edge.taskID, (projectByID target edge.projectID).isSome) .invalidGraph

/-- The depth-first search of `graphHasCycle` from `id`; the path to it is `visiting`. A path has
each task once, so the search is never cut off at depth zero. -/
def visit (dependsOn : String → List String) : Nat → List String → String → List String → Bool × List String
  | 0, _, _, visited => (true, visited)
  | depth + 1, visiting, id, visited =>
    if id ∈ visiting then (true, visited)
    else if id ∈ visited then (false, visited)
    else
      let (cyclic, visited) := (dependsOn id).foldl (fun (found : Bool × List String) predecessor =>
        if found.1 then found else visit dependsOn depth (id :: visiting) predecessor found.2)
        (false, visited)
      (cyclic, id :: visited)

def graphHasCycle (graph : TaskGraph) : Bool :=
  let dependsOn := fun id => ((taskByID graph id).map (·.dependsOn)).getD []
  ((graph.tasks.map (·.id)).foldl (fun (found : Bool × List String) id =>
    if found.1 then found else visit dependsOn (graph.tasks.length + 1) [] id found.2) (false, [])).1

def validateIntegrationOrder (graph : TaskGraph) : Except Error Unit := do
  let order := graph.integrationOrder
  require ((∀ id ∈ order, (taskByID graph id).isSome) ∧ order.Nodup) .invalidGraph
  require (∀ task ∈ graph.tasks, ∀ predecessor ∈ task.dependsOn,
    (order.idxOf? predecessor).getD 0 < (order.idxOf? task.id).getD 0) .invalidGraph
  require (∀ gate ∈ graph.combinedGates, validGate gate) .invalidGraph

/-- Both tasks may write now, to the same repository and base, and their patterns overlap. -/
def ownershipConflict (first second : Task) : Bool :=
  ownershipActive first.state && ownershipActive second.state && sameProject first second &&
    ownershipOverlaps first.ownership.mutable second.ownership.mutable

def validateActiveOwnership (tasks : List Task) : Except Error Unit :=
  require (tasks.Pairwise fun first second => ownershipConflict first second = false) .ownershipConflict

def validateProjectIsolation (tasks : List Task) : Except Error Unit :=
  require ((tasks.flatMap (·.projects)).Pairwise fun previous current =>
    previous.repository = current.repository ∨ (previous.workspaceScope ≠ current.workspaceScope ∧
        previous.credentialScope ≠ current.credentialScope ∧
        previous.mailboxNamespace ≠ current.mailboxNamespace ∧
        previous.evidenceNamespace ≠ current.evidenceNamespace)) .invalidGraph

def sameBoundary (task next : Task) : Prop :=
  task.goal = next.goal ∧ task.projects = next.projects ∧ task.frozenInputs = next.frozenInputs

instance (task next : Task) : Decidable (sameBoundary task next) :=
  inferInstanceAs (Decidable (_ ∧ _))

/-- The checks of `ValidateGraph` against the previous revision. -/
def validateRevision (graph previous : TaskGraph) (projects : Table ProjectRef) : Except Error Unit := do
  require (graph.controlRunID = previous.controlRunID ∧ graph.revision = previous.revision + 1)
    .invalidGraph
  let previousProjects := (previous.tasks.flatMap (·.projects)).foldl
    (fun (table : Table ProjectRef) project => table.put project.id project) ∅
  require (∀ entry ∈ projects.entries, ∀ old ∈ previousProjects.get? entry.1, old = entry.2)
    .immutableBoundary
  require (∀ entry ∈ previousProjects.entries, (projects.get? entry.1).isSome) .immutableBoundary
  require (∀ old ∈ previous.tasks, taskBoundaryActive old.state → ∃ next ∈ taskByID graph old.id,
    sameBoundary old next ∧ old.ownership = next.ownership) .immutableBoundary

def validateGraph (graph : TaskGraph) (previous : Option TaskGraph) : Except Error Unit := do
  require (graph.schemaVersion = schemaVersion ∧ graph.controlRunID ≠ "" ∧ graph.revision ≠ 0 ∧
    graph.tasks ≠ [] ∧ graph.integrationOrder.length = graph.tasks.length ∧
    graph.combinedGates ≠ []) .invalidGraph
  let admitted ← graph.tasks.foldlM admitTask {}
  graph.tasks.forM (validateEdges graph)
  require (graphHasCycle graph = false) .invalidGraph
  validateIntegrationOrder graph
  validateActiveOwnership graph.tasks
  validateProjectIsolation graph.tasks
  match previous with
  | none => return ()
  | some previous => validateRevision graph previous admitted.projects

def readyTasks (graph : TaskGraph) : Except Error (List Task) := do
  validateGraph graph none
  return (graph.tasks.filter fun task => (task.state = .pending ∨ task.state = .ready) ∧
    ∀ predecessor ∈ task.dependsOn, ∃ done ∈ taskByID graph predecessor, done.state = .completed)
    |>.insertionSort fun first second => first.id ≤ second.id

def messageScopeAllowed (graph : TaskGraph) (fromTaskID toTaskID : String) : Bool :=
  let source := taskByID graph fromTaskID
  let target := taskByID graph toTaskID
  if fromTaskID = parentAddress then target.isSome
  else if toTaskID = parentAddress then source.isSome
  else fromTaskID ≠ toTaskID && source.any fun sender => target.any fun receiver =>
    sender.communication.any (fun edge =>
      edge.taskID = toTaskID && (projectByID receiver edge.projectID).isSome) ||
    receiver.communication.any fun edge =>
      edge.taskID = fromTaskID && (projectByID sender edge.projectID).isSome

def setTaskState (graph : TaskGraph) (taskID : String) (state : TaskState) : TaskGraph :=
  { graph with tasks := Keyed.modify Task.id taskID (fun task => { task with state }) graph.tasks }

end Paje.Control
