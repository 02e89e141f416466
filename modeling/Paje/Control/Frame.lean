import Paje.Control.System

/-!
What a change of one attempt and one action leaves valid. Of the states of the tasks only the check
for overlapping ownership reads anything.
-/

namespace Paje.Control

open Text Journal List Table Option Control Keyed

variable {id : String} {graph other : TaskGraph}

def Task.shape (task : Task) : Task := { task with state := .pending }

def TaskGraph.shape (graph : TaskGraph) : TaskGraph :=
  { graph with tasks := graph.tasks.map Task.shape }

theorem taskByID_shape (graph : TaskGraph) (id : String) :
    taskByID graph.shape id = (taskByID graph id).map Task.shape :=
  lookup_map fun _ => rfl

theorem shape_setTaskState (graph : TaskGraph) (taskID : String) (state : TaskState) :
    (setTaskState graph taskID state).shape = graph.shape := by
  unfold TaskGraph.shape setTaskState
  rw [map_modify]
  intro task _
  rfl

theorem shape_header (same : other.shape = graph.shape) :
    other.schemaVersion = graph.schemaVersion ∧ other.controlRunID = graph.controlRunID ∧
      other.revision = graph.revision := by
  show other.shape.schemaVersion = graph.shape.schemaVersion ∧
    other.shape.controlRunID = graph.shape.controlRunID ∧ other.shape.revision = graph.shape.revision
  rw [same]
  exact ⟨rfl, rfl, rfl⟩

theorem taskByID_isSome (same : other.shape = graph.shape) (id : String) :
    (taskByID other id).isSome = (taskByID graph id).isSome := by
  have found := congrArg (fun graph => (taskByID graph id).isSome) same
  simpa only [taskByID_shape, isSome_map] using found

theorem taskByID_some (same : other.shape = graph.shape) {task : Task} (found : taskByID graph id = some task) :
    ∃ restated, taskByID other id = some restated ∧ restated.shape = task.shape := by
  have shapes := congrArg (fun graph => taskByID graph id) same
  simp only [taskByID_shape, found, map_some] at shapes
  exact map_eq_some_iff.mp shapes

theorem messageScopeAllowed_shape (graph : TaskGraph) (fromTaskID toTaskID : String) :
    messageScopeAllowed graph.shape fromTaskID toTaskID = messageScopeAllowed graph fromTaskID toTaskID := by
  unfold messageScopeAllowed
  simp only [taskByID_shape, Option.isSome_map, Option.any_map]
  rfl

theorem graphHasCycle_shape (graph : TaskGraph) : graphHasCycle graph.shape = graphHasCycle graph := by
  unfold graphHasCycle
  have ids : graph.shape.tasks.map (·.id) = graph.tasks.map (·.id) := List.map_map
  have length : graph.shape.tasks.length = graph.tasks.length := List.length_map _
  simp only [ids, length, taskByID_shape, Option.map_map, Function.comp_def]
  rfl

theorem validateEdges_shape (graph : TaskGraph) (task : Task) :
    validateEdges graph.shape task.shape = .ok () ↔ validateEdges graph task = .ok () := by
  unfold validateEdges
  simp only [check_bind_ok, require_iff, taskByID_shape, isSome_map]
  simp [Task.shape, projectByID]

theorem validateIntegrationOrder_shape (graph : TaskGraph) :
    validateIntegrationOrder graph.shape = .ok () ↔ validateIntegrationOrder graph = .ok () := by
  unfold validateIntegrationOrder
  simp only [check_bind_ok, require_iff, taskByID_shape, isSome_map]
  simp [TaskGraph.shape, Task.shape]

theorem validateProjectIsolation_shape (graph : TaskGraph) :
    validateProjectIsolation graph.shape.tasks = validateProjectIsolation graph.tasks := by
  have projects : graph.shape.tasks.flatMap (·.projects) = graph.tasks.flatMap (·.projects) :=
    flatMap_map _ _ _
  unfold validateProjectIsolation
  rw [projects]

theorem shape_ownership (graph : TaskGraph) :
    graph.shape.tasks.Pairwise fun first second => ownershipConflict first second = false := by
  refine pairwise_map.mpr (pairwise_of_forall ?_)
  intro first second
  rfl

theorem validateGraph_split (graph : TaskGraph) : validateGraph graph none = .ok () ↔
    validateGraph graph.shape none = .ok () ∧
      graph.tasks.Pairwise fun first second => ownershipConflict first second = false := by
  have admits : graph.shape.tasks.foldlM admitTask {} = graph.tasks.foldlM admitTask {} :=
    List.foldlM_map
  have edges : graph.shape.tasks.forM (validateEdges graph.shape) = .ok () ↔
      graph.tasks.forM (validateEdges graph) = .ok () := by
    rw [forM_ok, forM_ok]
    show (∀ task ∈ graph.tasks.map Task.shape, _) ↔ _
    rw [List.forall_mem_map]
    exact forall₂_congr fun task _ => validateEdges_shape graph task
  have header : graph.shape.tasks ≠ [] ∧ graph.integrationOrder.length = graph.shape.tasks.length ↔
      graph.tasks ≠ [] ∧ graph.integrationOrder.length = graph.tasks.length := by
    simp [TaskGraph.shape]
  unfold validateGraph validateActiveOwnership
  rw [admits]
  cases graph.tasks.foldlM admitTask {} with
  | error error => simp [check_bind_ok]
  | ok admitted =>
    simp only [check_bind_ok, ok_bind, require_iff, edges, graphHasCycle_shape,
      validateIntegrationOrder_shape, validateProjectIsolation_shape, shape_ownership, true_and]
    have fields : graph.shape.schemaVersion = graph.schemaVersion ∧
        graph.shape.controlRunID = graph.controlRunID ∧ graph.shape.revision = graph.revision ∧
        graph.shape.combinedGates = graph.combinedGates ∧
        graph.shape.integrationOrder = graph.integrationOrder := ⟨rfl, rfl, rfl, rfl, rfl⟩
    simp only [fields, ← and_assoc] at header ⊢
    tauto

theorem validateGraph_shape (same : other.shape = graph.shape)
    (valid : validateGraph graph none = .ok ()) : validateGraph other none = .ok () ↔
      other.tasks.Pairwise fun first second => ownershipConflict first second = false := by
  have shaped := ((validateGraph_split graph).mp valid).1
  rw [validateGraph_split other, same]
  exact and_iff_right shaped

theorem admitTask_nodup {tasks : List Task} {seen admitted : Admitted}
    (h : tasks.foldlM admitTask seen = .ok admitted) :
    (tasks.map (·.id)).Nodup ∧ ∀ task ∈ tasks, task.id ∉ seen.tasks := by
  induction tasks generalizing seen with
  | nil => exact ⟨nodup_nil, fun _ member => (not_mem_nil member).elim⟩
  | cons task rest ih =>
    rw [foldlM_cons] at h
    obtain ⟨now, admits, h⟩ := bind_ok h
    unfold admitTask at admits
    obtain ⟨_, admits⟩ := require_bind_ok admits
    obtain ⟨fresh, admits⟩ := require_bind_ok admits
    obtain ⟨_, _, admits⟩ := bind_ok admits
    obtain ⟨projects, _, admits⟩ := bind_ok admits
    cases pure_ok admits
    obtain ⟨nodup, later⟩ := ih h
    refine ⟨nodup_cons.mpr ⟨?_, nodup⟩, forall_mem_cons.mpr ⟨fresh, ?_⟩⟩
    · intro listed
      obtain ⟨other, member, same⟩ := mem_map.mp listed
      exact later other member (same ▸ mem_cons_self)
    · exact fun other member known => later other member (mem_cons_of_mem _ known)

variable {previous : Option TaskGraph}

theorem validateGraph_nodup (h : validateGraph graph previous = .ok ()) : (graph.tasks.map (·.id)).Nodup := by
  unfold validateGraph at h
  obtain ⟨_, h⟩ := require_bind_ok h
  obtain ⟨_, admits, _⟩ := bind_ok h
  exact (admitTask_nodup admits).1

theorem validateGraph_patterns (h : validateGraph graph previous = .ok ()) {task : Task}
    (listed : task ∈ graph.tasks) : validateOwnership task.ownership = .ok () := by
  unfold validateGraph at h
  obtain ⟨_, h⟩ := require_bind_ok h
  obtain ⟨_, admits, _⟩ := bind_ok h
  obtain ⟨_, _, admits⟩ := foldlM_mem admits listed
  unfold admitTask at admits
  obtain ⟨_, admits⟩ := require_bind_ok admits
  obtain ⟨_, admits⟩ := require_bind_ok admits
  obtain ⟨_, valid, _⟩ := bind_ok admits
  unfold validateTask at valid
  obtain ⟨_, valid⟩ := require_bind_ok valid
  obtain ⟨_, _, valid⟩ := bind_ok valid
  obtain ⟨_, owned, _⟩ := bind_ok valid
  exact owned

theorem validateGraph_ownership (h : validateGraph graph previous = .ok ()) :
    graph.tasks.Pairwise fun first second => ownershipConflict first second = false := by
  unfold validateGraph at h
  obtain ⟨_, h⟩ := require_bind_ok h
  obtain ⟨_, _, h⟩ := bind_ok h
  obtain ⟨_, _, h⟩ := bind_ok h
  obtain ⟨_, h⟩ := require_bind_ok h
  obtain ⟨_, _, h⟩ := bind_ok h
  obtain ⟨_, owned, _⟩ := bind_ok h
  exact require_ok owned

theorem ownershipConflict_comm (first second : Task) :
    ownershipConflict first second = ownershipConflict second first := by
  unfold ownershipConflict
  rw [sameProject_comm first second, ownershipOverlaps_comm first.ownership.mutable,
    Bool.and_comm (ownershipActive first.state)]

theorem ownership_forall (nodup : (graph.tasks.map (·.id)).Nodup) :
    (graph.tasks.Pairwise fun first second => ownershipConflict first second = false) ↔
      ∀ first ∈ graph.tasks, ∀ second ∈ graph.tasks, first.id ≠ second.id →
        ownershipConflict first second = false := by
  have symmetric : Std.Symm fun first second => ownershipConflict first second = false :=
    ⟨fun a b free => (ownershipConflict_comm b a).trans free⟩
  constructor
  · intro pairs first listed second also different
    exact pairs.forall listed also fun same => different (same ▸ rfl)
  · intro free
    refine List.Nodup.pairwise_of_forall_ne (List.Nodup.of_map _ nodup) ?_
    intro first listed second also different
    exact free first listed second also fun same =>
      different (inj_on_of_nodup_map nodup listed also same)

/-- A task may become active when no active task with a common project overlaps it. -/
def Unopposed (graph : TaskGraph) (taskID : String) : Prop :=
  ∀ task ∈ taskByID graph taskID, ∀ other ∈ graph.tasks, other.id ≠ taskID →
    ownershipActive other.state = true → sameProject task other = true →
    ownershipOverlaps task.ownership.mutable other.ownership.mutable = false

theorem setTaskState_ownership (valid : validateGraph graph none = .ok ())
    {taskID : String} {state : TaskState} (active : ownershipActive state = true) :
    ((setTaskState graph taskID state).tasks.Pairwise fun first second =>
      ownershipConflict first second = false) ↔ Unopposed graph taskID := by
  have nodup := validateGraph_nodup valid
  have ids : (setTaskState graph taskID state).tasks.map (·.id) = graph.tasks.map (·.id) :=
    map_modify fun _ _ => rfl
  have nodup' : ((setTaskState graph taskID state).tasks.map (·.id)).Nodup := ids ▸ nodup
  have free := (ownership_forall nodup).mp (validateGraph_ownership valid)
  -- a task of the new graph is the changed one or an old one with another ID
  have cases : ∀ task ∈ (setTaskState graph taskID state).tasks,
      (∃ old, taskByID graph taskID = some old ∧ task = { old with state }) ∨
        (task.id ≠ taskID ∧ task ∈ graph.tasks) := by
    intro task listed
    have found : taskByID (setTaskState graph taskID state) task.id = some task :=
      lookup_of_mem nodup' listed
    rw [taskByID_setTaskState] at found
    split at found
    · obtain ⟨old, oldFound, same⟩ := map_eq_some_iff.mp found
      exact .inl ⟨old, oldFound, same.symm⟩
    · rename_i other
      exact .inr ⟨other, (lookup_mem found).1⟩
  have back : ∀ task, taskByID (setTaskState graph taskID state) task.id = some task →
      task ∈ (setTaskState graph taskID state).tasks := fun _ found => (lookup_mem found).1
  rw [ownership_forall nodup']
  constructor
  · intro pairs task found other listed different otherActive shared
    have sameID := (lookup_mem found).2
    have changed : ({ task with state } : Task) ∈ (setTaskState graph taskID state).tasks := by
      refine back _ ?_
      rw [taskByID_setTaskState, if_pos sameID, found]
      rfl
    have stays : other ∈ (setTaskState graph taskID state).tasks := by
      refine back _ ?_
      rw [taskByID_setTaskState, if_neg different]
      exact lookup_of_mem nodup listed
    have clear := pairs _ changed other stays fun same => different (same.symm.trans sameID)
    have shared' : sameProject { task with state } other = true := shared
    simpa [ownershipConflict, active, otherActive, shared'] using clear
  · intro unopposed first listed second also different
    have against : ∀ old other, taskByID graph taskID = some old → other.id ≠ taskID →
        other ∈ graph.tasks → ownershipConflict { old with state } other = false := by
      intro old other found otherID otherListed
      have clear := unopposed old found other otherListed otherID
      have shared : sameProject { old with state } other = sameProject old other := rfl
      simp only [ownershipConflict, active, shared, Bool.true_and]
      cases otherActive : ownershipActive other.state with
      | false => rfl
      | true =>
        cases same : sameProject old other with
        | false => rfl
        | true => simpa using clear otherActive same
    rcases cases first listed with ⟨old, found, rfl⟩ | ⟨firstID, firstListed⟩
    · rcases cases second also with ⟨again, foundAgain, rfl⟩ | ⟨secondID, secondListed⟩
      · rw [found] at foundAgain
        cases foundAgain
        exact absurd rfl different
      · exact against old second found secondID secondListed
    · rcases cases second also with ⟨old, found, rfl⟩ | ⟨secondID, secondListed⟩
      · rw [ownershipConflict_comm]
        exact against old first found firstID firstListed
      · exact free first firstListed second secondListed different

/-! ### One attempt and one action -/

theorem validateAttemptReferences_iff [Sha] {snapshot : Snapshot} {attempt : PlacementAttempt} :
    validateAttemptReferences snapshot attempt = .ok () ↔ (attempt.terminalEvidence.id ≠ "" →
        snapshot.holdsEvidence attempt.terminalEvidence.id (fun evidence =>
          evidence.attemptID = attempt.id && evidence.taskID = attempt.taskID &&
          attempt.terminalEvidence.digest = evidenceDigest evidence) = true) ∧
      (attempt.disposition.kind ≠ none → validDisposition attempt.disposition = true ∧
        snapshot.holdsEvidence attempt.disposition.evidenceID (·.attemptID = attempt.id) = true) ∧
      (attempt.closeEvidence.kind ≠ none → validateCloseEvidence attempt.primitive attempt.closeEvidence = .ok () ∧
        (attempt.primitive ≠ .localSequential →
          completedClose snapshot.actions attempt.actionIDs attempt.closeEvidence = true)) ∧
      (attempt.promotedFromAttemptID ≠ "" ∨ attempt.handoffID ≠ "" →
        validPromotedAttempt snapshot attempt = true) := by
  unfold validateAttemptReferences
  simp only [check_bind_ok, require_iff]
  by_cases closed : attempt.closeEvidence.kind ≠ none
  · simp [closed, check_bind_ok, require_iff, and_assoc]
  · simp [check_bind_ok, require_iff, not_not.mp closed]

theorem liveTasks_put {attempts : Table PlacementAttempt} (nodup : (liveTasks attempts).Nodup)
    {before : PlacementAttempt} (held : attempts.get? id = some before) (after : PlacementAttempt) :
    (liveTasks (attempts.put id after)).Nodup ↔ (attemptTerminal after.state = false →
      ∀ key other, attempts.get? key = some other → key ≠ id → attemptTerminal other.state = false →
        other.taskID ≠ after.taskID) := by
  have others : ∀ taskID, taskID ∈ liveTasks (attempts.drop id) ↔ ∃ key other,
      attempts.get? key = some other ∧ key ≠ id ∧ attemptTerminal other.state = false ∧ other.taskID = taskID := by
    intro taskID
    simp only [liveTasks, List.mem_map, List.mem_filter, Table.mem_values, Bool.not_eq_true']
    constructor
    · rintro ⟨other, ⟨⟨key, found⟩, live⟩, same⟩
      rw [Table.get?_drop] at found
      split at found
      · cases found
      · rename_i different
        exact ⟨key, other, found, different, live, same⟩
    · rintro ⟨key, other, found, different, live, same⟩
      exact ⟨other, ⟨⟨key, by rw [Table.get?_drop_other _ different, found]⟩, live⟩, same⟩
  have rest : (liveTasks (attempts.drop id)).Nodup := by
    have perm := ((Table.values_perm held).filter fun attempt => !attemptTerminal attempt.state).map
      PlacementAttempt.taskID
    have split := perm.nodup_iff.mp nodup
    rw [filter_cons] at split
    split at split
    · exact (nodup_cons.mp split).2
    · exact split
  have whole : liveTasks (attempts.put id after) =
      if attemptTerminal after.state = false then after.taskID :: liveTasks (attempts.drop id)
      else liveTasks (attempts.drop id) := by
    unfold liveTasks
    rw [values_put, values_drop, filter_cons]
    cases attemptTerminal after.state <;> rfl
  rw [whole]
  split
  · rename_i live
    rw [nodup_cons, others, and_iff_left rest]
    constructor
    · intro alone _ key other found different otherLive same
      exact alone ⟨key, other, found, different, otherLive, same⟩
    · rintro alone ⟨key, other, found, different, otherLive, same⟩
      exact alone live key other found different otherLive same
  · rename_i ended
    exact iff_of_true rest fun live => absurd live ended

structure PlacementAttempt.Kin (before after : PlacementAttempt) : Prop where
  id : after.id = before.id
  taskID : after.taskID = before.taskID
  primitive : after.primitive = before.primitive
  capabilities : after.capabilitySnapshot = before.capabilitySnapshot
  owner : after.lifecycleOwner = before.lifecycleOwner
  actionIDs : after.actionIDs = before.actionIDs
  terminalEvidence : after.terminalEvidence = before.terminalEvidence
  disposition : after.disposition = before.disposition
  promotion : (after.promotedFromAttemptID, after.handoffID) = (before.promotedFromAttemptID, before.handoffID)

/-- `next` settles the open action `pending` and changes its attempt. -/
structure Patch (current next : Snapshot) (before after : PlacementAttempt)
    (pending settled : LifecycleAction) : Prop where
  version : next.schemaVersion = current.schemaVersion ∧ next.version = current.version + 1
  run : next.run.schemaVersion = current.run.schemaVersion ∧ next.run.id = current.run.id ∧
    next.run.principalID = current.run.principalID ∧ next.run.goalDigest = current.run.goalDigest ∧
    next.run.graphRevision = current.run.graphRevision ∧ next.run.createdAt = current.run.createdAt
  graph : next.graph.shape = current.graph.shape
  held : current.attempts.get? before.id = some before
  kin : before.Kin after
  attempts : next.attempts = current.attempts.put before.id after
  pendingHeld : current.actions.get? pending.id = some pending
  isOpen : pending.completed = false ∧ pending.ambiguous = false
  mine : pending.attemptID = before.id
  identity : sameActionIdentity pending settled
  actions : next.actions = current.actions.put pending.id settled
  stays : next.evidence = current.evidence ∧ next.handoffs = current.handoffs ∧
    next.messages = current.messages ∧ next.callbacks = current.callbacks

namespace Patch

structure Checks [Sha] (current next : Snapshot) (before after : PlacementAttempt) (settled : LifecycleAction) :
    Prop where
  owned : next.graph.tasks.Pairwise fun first second => ownershipConflict first second = false
  blocked : after.state = .blocked ↔ after.blockCode ≠ ""
  alone : attemptTerminal after.state = false → ∀ key other, current.attempts.get? key = some other →
    key ≠ before.id → attemptTerminal other.state = false → other.taskID ≠ after.taskID
  sessions : ∀ id session, next.sessions.get? id = some session →
    validateSession next id session = .ok () ∧ validateSessionDisposition next session = .ok ()
  unpromoted : ∀ id attempt, current.attempts.get? id = some attempt → attempt.promotedFromAttemptID ≠ before.id
  closes : after.closeEvidence.kind ≠ none → validateCloseEvidence after.primitive after.closeEvidence = .ok () ∧
    (after.primitive ≠ .localSequential → completedClose next.actions after.actionIDs after.closeEvidence = true)
  events : next.events.foldlM (nextCursor next.run.id) 0 = .ok next.run.eventCursor
  outcome : (settled.completed = true → settled.result.actionID = settled.id ∧
      validateCompleted settled after = .ok ()) ∧
    ¬ (settled.completed = true ∧ settled.ambiguous = true) ∧
    (settled.ambiguous = true ↔ settled.ambiguityCode ≠ "")
  results : ∀ id action, current.actions.get? id = some action → action.completed = true →
    action.attemptID = before.id → validateCompleted action after = .ok ()

variable {current next : Snapshot} {before after : PlacementAttempt} {pending settled : LifecycleAction}
variable (patch : Patch current next before after pending settled)
include patch

theorem attempt_of {attempt : PlacementAttempt} (found : next.attempts.get? id = some attempt) :
    (id = before.id ∧ attempt = after) ∨ (id ≠ before.id ∧ current.attempts.get? id = some attempt) := by
  rw [patch.attempts, get?_put] at found
  split at found
  · rename_i same
    exact .inl ⟨same, (Option.some.inj found).symm⟩
  · rename_i other
    exact .inr ⟨other, found⟩

theorem action_of {action : LifecycleAction} (found : next.actions.get? id = some action) :
    (id = pending.id ∧ action = settled) ∨ (id ≠ pending.id ∧ current.actions.get? id = some action) := by
  rw [patch.actions, get?_put] at found
  split at found
  · rename_i same
    exact .inl ⟨same, (Option.some.inj found).symm⟩
  · rename_i other
    exact .inr ⟨other, found⟩

theorem attempt_put : next.attempts.get? before.id = some after := by rw [patch.attempts, get?_put_self]

theorem action_put : next.actions.get? pending.id = some settled := by rw [patch.actions, get?_put_self]

theorem action_kept {action : LifecycleAction} (found : current.actions.get? id = some action)
    (completed : action.completed = true) : next.actions.get? id = some action := by
  rw [patch.actions, get?_put_other, found]
  rintro rfl
  cases patch.pendingHeld.symm.trans found
  simp [patch.isOpen.1] at completed

theorem kept {attempt : PlacementAttempt} (found : current.attempts.get? id = some attempt) :
    ∃ now, next.attempts.get? id = some now ∧ attempt.Kin now := by
  rw [patch.attempts, get?_put]
  split
  · rename_i same
    subst same
    rw [patch.held] at found
    cases found
    exact ⟨after, rfl, patch.kin⟩
  · exact ⟨attempt, found, ⟨rfl, rfl, rfl, rfl, rfl, rfl, rfl, rfl, rfl⟩⟩

theorem completedWith {ids : List String}
    {p : LifecycleAction → Bool} (h : completedWith current.actions ids p = true) :
    completedWith next.actions ids p = true := by
  simp only [Control.completedWith, List.any_eq_true, Option.any_eq_true, Bool.and_eq_true] at h ⊢
  obtain ⟨id, listed, action, found, holds⟩ := h
  exact ⟨id, listed, action, patch.action_kept found holds.1.1, holds⟩

theorem promoted
    {attempt now : PlacementAttempt} (kin : attempt.Kin now) (other : attempt.promotedFromAttemptID ≠ before.id)
    (valid : validPromotedAttempt current attempt = true) : validPromotedAttempt next now = true := by
  have promotion := Prod.mk.inj kin.promotion
  unfold validPromotedAttempt at valid ⊢
  rw [promotion.1, promotion.2, kin.primitive, kin.taskID, kin.owner, patch.attempts,
    get?_put_other _ _ other, patch.stays.2.1]
  exact valid

theorem outcomes : terminalOutcomes current next ≤ 1 := by
  unfold terminalOutcomes
  rw [patch.actions]
  refine countP_put_le_one ?_
  intro other action _ found
  simp [found]

theorem task {task : Task} (listed : task ∈ current.graph.tasks) (nodup : (current.graph.tasks.map (·.id)).Nodup) :
    validateTaskSave current next task = .ok () := by
  unfold validateTaskSave
  rw [require_iff]
  intro _
  obtain ⟨restated, found, shape⟩ :=
    taskByID_some patch.graph (@lookup_of_mem _ _ _ Task.id _ nodup _ listed)
  refine ⟨restated, found, ?_, .inl ?_⟩
  · show sameBoundary task.shape restated.shape
    rw [shape]
    exact ⟨rfl, rfl, rfl⟩
  · show task.shape.ownership = restated.shape.ownership ∧ task.shape.placement = restated.shape.placement
    rw [shape]
    exact ⟨rfl, rfl⟩

theorem room (succeeds : current.Succeeds next) : current.graph.revision ≤ current.graph.revision + 1 := by
  have bound := succeeds.revision.2
  rwa [(shape_header patch.graph).2.2] at bound

variable [sha : Sha]

section

variable (sound : current.Sound)
include sound

theorem attempt (blocked : after.state = .blocked ↔ after.blockCode ≠ "") :
    ∀ id attempt, next.attempts.get? id = some attempt → validateAttempt next id attempt = .ok () := by
  intro id attempt found
  have graph := taskByID_isSome patch.graph
  unfold validateAttempt
  rw [require_iff]
  rcases patch.attempt_of found with ⟨rfl, rfl⟩ | ⟨_, old⟩
  · have valid := require_ok (sound.attempt _ _ patch.held)
    rw [graph, patch.kin.id, patch.kin.taskID, patch.kin.primitive, patch.kin.capabilities, patch.kin.owner]
    exact ⟨valid.1, valid.2.1, valid.2.2.1, valid.2.2.2.1, valid.2.2.2.2.1, blocked, valid.2.2.2.2.2.2⟩
  · rw [graph]
    exact require_ok (sound.attempt id attempt old)

theorem evidence : ∀ id evidence, next.evidence.get? id = some evidence →
      evidence.id = id ∧ validateEvidence evidence next = .ok () := by
  intro id evidence found
  rw [patch.stays.1] at found
  obtain ⟨same, valid⟩ := sound.evidence id evidence found
  refine ⟨same, ?_⟩
  unfold validateEvidence at valid ⊢
  simp only [check_bind_ok, require_iff] at valid ⊢
  obtain ⟨⟨named, ⟨attempt, held, task⟩, fields⟩, ⟨listed, listedFound, base⟩, tests⟩ := valid
  obtain ⟨now, nowHeld, kin⟩ := patch.kept held
  obtain ⟨restated, restatedFound, shape⟩ := taskByID_some patch.graph listedFound
  have projects : restated.projects = listed.projects := by
    show restated.shape.projects = listed.shape.projects
    rw [shape]
  exact ⟨⟨named, ⟨now, nowHeld, kin.taskID.trans task⟩, fields⟩, ⟨restated, restatedFound, projects ▸ base⟩, tests⟩

theorem handoff :
    ∀ id handoff, next.handoffs.get? id = some handoff → validateHandoff next id handoff = .ok () := by
  intro id handoff found
  rw [patch.stays.2.1] at found
  have valid := sound.handoff id handoff found
  unfold validateHandoff Snapshot.holdsEvidence at valid ⊢
  rwa [taskByID_isSome patch.graph, taskByID_isSome patch.graph, patch.stays.1]

theorem message :
    ∀ id message, next.messages.get? id = some message → validateMessage next id message = .ok () := by
  intro id message found
  rw [patch.stays.2.2.1] at found
  have valid := sound.message id message found
  unfold validateMessage at valid ⊢
  rwa [← messageScopeAllowed_shape, patch.graph, messageScopeAllowed_shape]

theorem callback :
    ∀ id callback, next.callbacks.get? id = some callback → validateStoredCallback next id callback = .ok () := by
  intro id callback found
  rw [patch.stays.2.2.2] at found
  have valid := sound.callback id callback found
  unfold validateStoredCallback at valid ⊢
  rw [require_iff] at valid ⊢
  obtain ⟨same, fields, attempt, held, primitive, completed⟩ := valid
  obtain ⟨now, nowHeld, kin⟩ := patch.kept held
  refine ⟨same, fields, now, nowHeld, kin.primitive.trans primitive, ?_⟩
  rw [kin.actionIDs]
  exact patch.completedWith completed

end

theorem session {session : AgentSession} (valid : validateSession current id session = .ok ()) :
    validateSession next id session = .ok () := by
  unfold validateSession at valid ⊢
  rw [require_iff] at valid ⊢
  obtain ⟨named, same, runtime, harness, attempt, held, primitive, acknowledged⟩ := valid
  obtain ⟨now, nowHeld, kin⟩ := patch.kept held
  refine ⟨named, same, runtime, harness, now, nowHeld, kin.primitive.trans primitive, ?_⟩
  intro registered
  obtain ⟨digest, completed⟩ := acknowledged registered
  rw [patch.run.2.1, kin.actionIDs]
  exact ⟨digest, patch.completedWith completed⟩

theorem references (sound : current.Sound)
    (unpromoted : ∀ id attempt, current.attempts.get? id = some attempt → attempt.promotedFromAttemptID ≠ before.id)
    (closes : after.closeEvidence.kind ≠ none → validateCloseEvidence after.primitive after.closeEvidence = .ok () ∧
      (after.primitive ≠ .localSequential → completedClose next.actions after.actionIDs after.closeEvidence = true)) :
    ∀ id attempt, next.attempts.get? id = some attempt → validateAttemptReferences next attempt = .ok () := by
  have holds : ∀ id p, next.holdsEvidence id p = current.holdsEvidence id p := by
    intro id p
    unfold Snapshot.holdsEvidence
    rw [patch.stays.1]
  intro id attempt found
  rw [validateAttemptReferences_iff]
  rcases patch.attempt_of found with ⟨rfl, rfl⟩ | ⟨_, old⟩
  · obtain ⟨terminal, disposition, _, promoted⟩ :=
      validateAttemptReferences_iff.mp (sound.references _ _ patch.held)
    simp only [holds, patch.kin.terminalEvidence, patch.kin.disposition, patch.kin.id, patch.kin.taskID]
    refine ⟨terminal, disposition, closes, ?_⟩
    intro marked
    have promotion := Prod.mk.inj patch.kin.promotion
    rw [promotion.1, promotion.2] at marked
    exact patch.promoted patch.kin (unpromoted _ _ patch.held) (promoted marked)
  · obtain ⟨terminal, disposition, closed, promoted⟩ :=
      validateAttemptReferences_iff.mp (sound.references id attempt old)
    simp only [holds]
    refine ⟨terminal, disposition, ?_, ?_⟩
    · intro kind
      obtain ⟨valid, backed⟩ := closed kind
      exact ⟨valid, fun primitive => patch.completedWith (backed primitive)⟩
    · intro marked
      exact patch.promoted ⟨rfl, rfl, rfl, rfl, rfl, rfl, rfl, rfl, rfl⟩ (unpromoted id attempt old) (promoted marked)

theorem action (sound : current.Sound) (outcome : (settled.completed = true → settled.result.actionID = settled.id ∧
        validateCompleted settled after = .ok ()) ∧ ¬ (settled.completed = true ∧ settled.ambiguous = true) ∧
      (settled.ambiguous = true ↔ settled.ambiguityCode ≠ ""))
    (results : ∀ id action, current.actions.get? id = some action → action.completed = true →
      action.attemptID = before.id → validateCompleted action after = .ok ()) :
    ∀ id action, next.actions.get? id = some action → validateLifecycleAction next id action = .ok () := by
  have named : after.id ≠ "" := patch.kin.id ▸ (require_ok (sound.attempt _ _ patch.held)).1
  intro id action found
  unfold validateLifecycleAction
  rw [require_iff]
  rcases patch.action_of found with ⟨rfl, rfl⟩ | ⟨_, old⟩
  · obtain ⟨sameID, sameAttempt, _, sameRequest, _⟩ := patch.identity
    have valid := require_ok (sound.action _ _ patch.pendingHeld)
    rw [← sameRequest, ← sameAttempt, patch.mine]
    exact ⟨sameID.symm, valid.2.1, fun completed => (outcome.1 completed).1, outcome.2.1, outcome.2.2,
      after, patch.attempt_put, named, fun completed => (outcome.1 completed).2⟩
  · obtain ⟨same, request, result, one, code, attempt, held, attemptNamed, completed⟩ :=
      require_ok (sound.action id action old)
    refine ⟨same, request, result, one, code, ?_⟩
    by_cases mine : action.attemptID = before.id
    · rw [mine]
      exact ⟨after, patch.attempt_put, named, fun done => results id action old done mine⟩
    · rw [patch.attempts, get?_put_other _ _ mine]
      exact ⟨attempt, held, attemptNamed, completed⟩

theorem sound (sound : current.Sound)
    (checks : Checks current next before after settled) : next.Sound where
  version := ⟨patch.version.1.trans sound.version.1, by rw [patch.version.2]; omega⟩
  run := by
    obtain ⟨schema, id, principal, goal, revision, _⟩ := patch.run
    obtain ⟨version, controlRun, graphRevision⟩ := shape_header patch.graph
    rw [schema, id, principal, goal, revision, version, controlRun, graphRevision]
    exact sound.run
  graph := (validateGraph_shape patch.graph sound.graph).mpr checks.owned
  attempt := patch.attempt sound checks.blocked
  live := by
    rw [patch.attempts]
    exact (liveTasks_put sound.live patch.held after).mpr checks.alone
  session id session found := (checks.sessions id session found).1
  evidence := patch.evidence sound
  references := patch.references sound checks.unpromoted checks.closes
  disposition id session found := (checks.sessions id session found).2
  handoff := patch.handoff sound
  events := checks.events
  action := patch.action sound checks.outcome checks.results
  message := patch.message sound
  callback := patch.callback sound

theorem succeeds (sound : current.Sound) (room : current.graph.revision ≤ current.graph.revision + 1)
    (status : current.run.status ≠ .closed) (events : next.events.take current.events.length = current.events)
    (closed : before.closeEvidence.kind ≠ none → before.closeEvidence = after.closeEvidence) :
    current.Succeeds next where
  identity := by
    obtain ⟨schema, id, principal, goal, _, created⟩ := patch.run
    exact ⟨patch.version.2, patch.version.1.symm, schema.symm, id.symm, principal.symm, goal.symm, created.symm⟩
  outcomes := patch.outcomes
  revision := by
    rw [(shape_header patch.graph).2.2]
    exact ⟨UInt64.le_refl _, room⟩
  events
  closed ended := absurd ended status
  evidence id evidence found := patch.stays.1 ▸ found
  actions id action found := by
    rw [patch.actions, get?_put]
    split
    · rename_i same
      subst same
      rw [patch.pendingHeld] at found
      cases found
      exact ⟨settled, rfl, patch.identity, fun done => by simp [patch.isOpen.1] at done⟩
    · exact ⟨action, found, ⟨rfl, rfl, rfl, rfl, rfl⟩, fun _ => rfl⟩
  attempts id attempt found := by
    rw [patch.attempts, get?_put]
    split
    · rename_i same
      subst same
      rw [patch.held] at found
      cases found
      refine ⟨after, rfl, ?_⟩
      unfold validateAttemptSave
      simp only [check_bind_ok, require_iff]
      exact ⟨fun _ => patch.kin.disposition.symm, fun _ => patch.kin.terminalEvidence.symm, closed⟩
    · exact ⟨attempt, found, by simp [validateAttemptSave, check_bind_ok, require_iff]⟩
  tasks task listed := patch.task listed (validateGraph_nodup sound.graph)

end Patch

end Paje.Control
