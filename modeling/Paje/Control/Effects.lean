import Paje.Control.Sound
import Paje.Control.Store

/-!
What a call can do to a snapshot: it touches at most one attempt and one action. Every invariant of
the control plane is derived from these effects.
-/

namespace Paje.Control

open Text Journal List Table Option Keyed

variable {result : ActionResult} {capabilities : CapabilitySnapshot} {handoff : Handoff}
  {action : LifecycleAction} {message : Message} {actionID attemptID : String} {state : TaskState}

variable {taskID id : String} {attempts : Table PlacementAttempt} {snapshot next : Snapshot}
  {promotion : Promotion}

def TaskGraph.edges (graph : TaskGraph) : List (String × List String) :=
  graph.tasks.map fun task => (task.id, task.dependsOn)

theorem TaskGraph.of_edges {graph other : TaskGraph} (same : other.edges = graph.edges) {task : Task}
    (listed : task ∈ other.tasks) : ∃ old ∈ graph.tasks, old.id = task.id ∧ old.dependsOn = task.dependsOn := by
  have known : (task.id, task.dependsOn) ∈ graph.edges := same ▸ mem_map.mpr ⟨task, listed, rfl⟩
  simpa [TaskGraph.edges] using known

structure PlacementAttempt.Continues (before after : PlacementAttempt) : Prop where
  id : after.id = before.id
  taskID : after.taskID = before.taskID
  promoted : after.promotedFromAttemptID = before.promotedFromAttemptID
  blocked : before.blockCode ≠ "" → after.blockCode ≠ ""
  closed : before.closeEvidence.kind ≠ none → after.closeEvidence.kind ≠ none

/-- A receipt on a session was there before or comes with the close evidence of its attempt. -/
def SessionsEffect (snapshot : Snapshot) (sessions : Table AgentSession) (attempts : Table PlacementAttempt) : Prop :=
  ∀ id session, sessions.get? id = some session → session.archiveReceipt ≠ "" →
    (∃ key old, snapshot.sessions.get? key = some old ∧ old.attemptID = session.attemptID ∧ old.archiveReceipt ≠ "") ∨
    ∃ attempt, attempts.get? session.attemptID = some attempt ∧ attempt.closeEvidence.kind ≠ none

theorem PlacementAttempt.Continues.refl (attempt : PlacementAttempt) : attempt.Continues attempt :=
  ⟨rfl, rfl, rfl, fun block => block, fun closed => closed⟩

theorem sessions_same (snapshot : Snapshot) (attempts : Table PlacementAttempt) :
    SessionsEffect snapshot snapshot.sessions attempts :=
  fun id session found receipt => .inl ⟨id, session, found, rfl, receipt⟩

theorem sessions_map {f : AgentSession → AgentSession} (same : ∀ session, (f session).attemptID = session.attemptID ∧
      (f session).archiveReceipt = session.archiveReceipt) :
    SessionsEffect snapshot (snapshot.sessions.map f) attempts := by
  intro id session found archived
  rw [get?_map] at found
  obtain ⟨old, held, rfl⟩ := map_eq_some_iff.mp found
  exact .inl ⟨id, old, held, (same old).1.symm, (same old).2 ▸ archived⟩

theorem sessions_put {old new : AgentSession}
    (found : snapshot.sessions.get? old.id = some old) (attempt : new.attemptID = old.attemptID)
    (receipt : new.archiveReceipt = old.archiveReceipt) :
    SessionsEffect snapshot (snapshot.sessions.put old.id new) attempts := by
  intro id session held archived
  rw [get?_put] at held
  split at held
  · cases held
    exact .inl ⟨old.id, old, found, attempt.symm, receipt ▸ archived⟩
  · exact .inl ⟨id, session, held, rfl, archived⟩

theorem promote_edges {task promoted : Task}
    (h : promote task promotion capabilities = .ok (promoted, handoff)) :
    promoted.id = task.id ∧ promoted.dependsOn = task.dependsOn := by
  unfold promote at h
  obtain ⟨_, h⟩ := require_bind_ok h
  obtain ⟨_, h⟩ := require_bind_ok h
  cases pure_ok h
  exact ⟨rfl, rfl⟩

theorem archiveSessions_effect {receipt : String}
    {attempt : PlacementAttempt} (found : attempts.get? attemptID = some attempt)
    (closed : attempt.closeEvidence.kind ≠ none) :
    SessionsEffect snapshot (archiveSessions snapshot.sessions attemptID receipt) attempts := by
  intro id session held archived
  unfold archiveSessions at held
  rw [get?_map] at held
  obtain ⟨old, before, rfl⟩ := map_eq_some_iff.mp held
  by_cases mine : old.attemptID = attemptID
  · rw [if_pos mine] at archived ⊢
    exact .inr ⟨attempt, by rw [← found, ← mine], closed⟩
  · rw [if_neg mine] at archived ⊢
    exact .inl ⟨id, old, before, rfl, archived⟩

theorem ambiguityCode_ne (action : LifecycleAction) (attempt : PlacementAttempt) :
    ambiguityCode action attempt ≠ "" := by
  unfold ambiguityCode
  split
  · split <;> decide
  all_goals decide

theorem markAmbiguous_ok (h : markAmbiguous snapshot actionID = .ok next) :
    ∃ action attempt, snapshot.actions.get? actionID = some action ∧ action.completed = false ∧
      snapshot.attempts.get? action.attemptID = some attempt ∧ next = blockAttempt snapshot action attempt := by
  unfold markAmbiguous at h
  split at h
  · cases h
  rename_i action found
  obtain ⟨incomplete, h⟩ := require_bind_ok h
  split at h
  · cases h
  rename_i attempt held
  exact ⟨action, attempt, found, Bool.eq_false_iff.mpr incomplete, held, (pure_ok h).symm⟩

variable {graph : TaskGraph}
variable {session : AgentSession} {evidence : CloseEvidence}

def taskState (graph : TaskGraph) (id : String) : Option TaskState := (taskByID graph id).map (·.state)

theorem taskByID_setTaskState (graph : TaskGraph) (taskID other : String) (state : TaskState) :
    taskByID (setTaskState graph taskID state) other =
      if other = taskID then (taskByID graph taskID).map (fun task => { task with state })
      else taskByID graph other :=
  lookup_modify fun _ same => same

theorem taskState_setTaskState {other : String} {found : TaskState}
    (h : taskState (setTaskState graph taskID state) other = some found) :
    (other = taskID ∧ found = state) ∨ (other ≠ taskID ∧ taskState graph other = some found) := by
  unfold taskState at h ⊢
  rw [taskByID_setTaskState] at h
  by_cases same : other = taskID
  · rw [if_pos same, Option.map_map] at h
    obtain ⟨_, _, rfl⟩ := Option.map_eq_some_iff.mp h
    exact .inl ⟨same, rfl⟩
  · rw [if_neg same] at h
    exact .inr ⟨same, h⟩

theorem setTaskState_tasks (active : taskBoundaryActive state = true) :
    (setTaskState graph taskID state).edges = graph.edges ∧
      ∀ id found, taskState (setTaskState graph taskID state) id = some found →
        taskBoundaryActive found = true ∨ taskState graph id = some found := by
  refine ⟨map_modify fun _ _ => rfl, ?_⟩
  intro id found h
  rcases taskState_setTaskState h with ⟨_, rfl⟩ | ⟨_, same⟩
  · exact .inl active
  · exact .inr same

theorem setTaskState_active (active : taskBoundaryActive state = true) :
    ∀ found ∈ taskState (setTaskState graph taskID state) taskID, taskBoundaryActive found = true := by
  intro found h
  rcases taskState_setTaskState h with ⟨_, rfl⟩ | ⟨other, _⟩
  · exact active
  · exact absurd rfl other

theorem taskByID_replaceTask (graph : TaskGraph) (promoted : Task) (other : String) :
    taskByID (replaceTask graph promoted) other =
      if other = promoted.id then (taskByID graph promoted.id).map (fun _ => promoted) else taskByID graph other :=
  lookup_modify fun _ _ => rfl

theorem replaceTask_tasks (graph : TaskGraph) (promoted : Task) (active : taskBoundaryActive promoted.state = true)
    (same : ∀ task ∈ taskByID graph promoted.id, task.dependsOn = promoted.dependsOn) :
    ((replaceTask graph promoted).edges = graph.edges ∧
      ∀ id found, taskState (replaceTask graph promoted) id = some found →
        taskBoundaryActive found = true ∨ taskState graph id = some found) ∧
      ∀ found ∈ taskState (replaceTask graph promoted) promoted.id, taskBoundaryActive found = true := by
  have state : ∀ id found, taskState (replaceTask graph promoted) id = some found →
      (id = promoted.id ∧ found = promoted.state) ∨ taskState graph id = some found := by
    intro id found h
    unfold taskState at h ⊢
    rw [taskByID_replaceTask] at h
    by_cases same : id = promoted.id
    · rw [if_pos same, Option.map_map] at h
      obtain ⟨_, _, rfl⟩ := Option.map_eq_some_iff.mp h
      exact .inl ⟨same, rfl⟩
    · rw [if_neg same] at h
      exact .inr h
  refine ⟨⟨map_modify fun task found => by rw [same task found, (lookup_mem found).2], ?_⟩, ?_⟩
  · intro id found h
    rcases state id found h with ⟨_, rfl⟩ | same
    · exact .inl active
    · exact .inr same
  · intro found h
    unfold taskState at h
    rw [taskByID_replaceTask, if_pos rfl, Option.map_map] at h
    obtain ⟨_, _, rfl⟩ := Option.map_eq_some_iff.mp h
    exact active

def PlacementAttempt.frozen (attempt : PlacementAttempt) : PlacementAttempt :=
  { attempt with lastCursor := "", cursorSequence := 0, observedEvents := ∅, terminalObserved := false }

theorem moveCursor_frozen (attempt : PlacementAttempt) (result : ActionResult) :
    (moveCursor attempt result).frozen = attempt.frozen := by
  unfold moveCursor
  split <;> rfl

theorem observeEvents_frozen (attempt : PlacementAttempt) (events : List WorkEvent) :
    (observeEvents attempt events).frozen = attempt.frozen := by
  induction events generalizing attempt with
  | nil => rfl
  | cons event rest ih =>
    unfold observeEvents
    dsimp only
    split
    · rfl
    · exact ih _

theorem frozen_continues {before after : PlacementAttempt} (same : after.frozen = before.frozen) :
    before.Continues after ∧ after.state = before.state ∧ after.actionIDs = before.actionIDs := by
  simp only [PlacementAttempt.frozen, PlacementAttempt.mk.injEq, true_and] at same
  obtain ⟨id, taskID, _, _, _, _, state, _, _, close, actions, block, promoted, _⟩ := same
  exact ⟨⟨id, taskID, promoted, block ▸ fun blocked => blocked, close ▸ fun closed => closed⟩, state, actions⟩

theorem PlacementAttempt.Continues.trans {one two three : PlacementAttempt} (first : one.Continues two)
    (second : two.Continues three) : one.Continues three where
  id := second.id.trans first.id
  taskID := second.taskID.trans first.taskID
  promoted := second.promoted.trans first.promoted
  blocked block := second.blocked (first.blocked block)
  closed close := second.closed (first.closed close)

theorem controlCloseEvidence_ok {closed : CloseEvidence}
    (h : controlCloseEvidence evidence = .ok closed) : closed = evidence ∧ evidence.kind ≠ none := by
  unfold controlCloseEvidence at h
  obtain ⟨kind, h⟩ := require_bind_ok h
  exact ⟨(pure_ok h).symm, kind⟩

theorem closesPrimitive_none (primitive : Primitive) : closesPrimitive primitive none = false := by
  cases primitive <;> rfl

theorem closedAttempt_continues {attempt : PlacementAttempt}
    (kind : evidence.kind ≠ none) : attempt.Continues (closedAttempt attempt evidence) :=
  ⟨rfl, rfl, rfl, fun block => block, fun _ => kind⟩

theorem closedAttempt_lives {attempt : PlacementAttempt}
    (h : attemptTerminal (closedAttempt attempt evidence).state = false) : attemptTerminal attempt.state = false := by
  unfold closedAttempt at h
  dsimp only at h
  split at h
  · cases h
  · exact h

variable [sha : Sha]

inductive Named (snapshot : Snapshot) (attempt : PlacementAttempt) : Prop where
  | numbered (revision : Nat) (plain : attempt.promotedFromAttemptID = "")
      (id : attempt.id = stableID "attempt" [snapshot.run.id, attempt.taskID, toString revision,
        toString (snapshot.attempts.entries.length + 1)])
  | promoted (handoffID : String) (source : PlacementAttempt)
      (found : snapshot.attempts.get? attempt.promotedFromAttemptID = some source)
      (first : ∀ id other, snapshot.attempts.get? id = some other →
        other.promotedFromAttemptID ≠ attempt.promotedFromAttemptID)
      (id : attempt.id = stableID "attempt" [snapshot.run.id, attempt.taskID, "promotion",
        attempt.promotedFromAttemptID, handoffID])

inductive AttemptsEffect (snapshot : Snapshot) (attempts : Table PlacementAttempt)
    (actions : Table LifecycleAction) (graph : TaskGraph) : Prop where
  | same (same : attempts = snapshot.attempts)
  | continued (before after : PlacementAttempt) (found : snapshot.attempts.get? before.id = some before)
      (continues : before.Continues after)
      (lives : attemptTerminal after.state = false → attemptTerminal before.state = false ∨
        ∀ state ∈ taskState graph after.taskID, taskBoundaryActive state = true)
      (listed : ∀ id ∈ after.actionIDs, id ∈ before.actionIDs ∨
        ∃ action, actions.get? id = some action ∧ action.attemptID = before.id)
      (put : attempts = snapshot.attempts.put before.id after)
  | placed (attempt : PlacementAttempt) (lives : attemptTerminal attempt.state = false)
      (unused : attempt.actionIDs = [])
      (task : (taskByID snapshot.graph attempt.taskID).isSome = true)
      (active : ∀ state ∈ taskState graph attempt.taskID, taskBoundaryActive state = true)
      (named : Named snapshot attempt)
      (put : attempts = snapshot.attempts.put attempt.id attempt)

inductive ActionsEffect (snapshot : Snapshot) (actions : Table LifecycleAction)
    (attempts : Table PlacementAttempt) (status : Status) : Prop where
  | same (same : actions = snapshot.actions)
  | prepared (action : LifecycleAction) (attempt : PlacementAttempt)
      (isOpen : action.completed = false ∧ action.ambiguous = false)
      (fresh : snapshot.actions.get? action.id = none)
      (found : attempts.get? action.attemptID = some attempt) (listed : action.id ∈ attempt.actionIDs)
      (put : actions = snapshot.actions.put action.id action)
  | completed (before after : LifecycleAction) (found : snapshot.actions.get? before.id = some before)
      (isOpen : before.completed = false ∧ before.ambiguous = false) (identity : sameActionIdentity before after)
      (done : after.completed = true ∧ after.ambiguous = false)
      (put : actions = snapshot.actions.put before.id after)
  | ambiguous (before after : LifecycleAction) (attempt : PlacementAttempt)
      (found : snapshot.actions.get? before.id = some before) (isOpen : before.completed = false)
      (identity : sameActionIdentity before after)
      (done : after.completed = false ∧ after.ambiguous = true)
      (put : actions = snapshot.actions.put before.id after)
      (blocks : attempts.get? after.attemptID = some attempt ∧ attempt.blockCode ≠ "")
      (status : status = .blocked)

/-- `next` is the closed snapshot of a run that `CloseSnapshot` accepts. -/
structure Closes (snapshot next : Snapshot) : Prop where
  accepted : ∃ now closed, closeSnapshot snapshot now = .ok closed
  graph : next.graph = snapshot.graph
  attempts : next.attempts = snapshot.attempts
  sessions : next.sessions = snapshot.sessions
  handoffs : next.handoffs = snapshot.handoffs
  actions : next.actions = snapshot.actions

/-- The effect of a call on the snapshot of a run; `graph` is the revision that the call brings. -/
structure Effect (graph : Option TaskGraph) (snapshot next : Snapshot) : Prop where
  runID : next.run.id = snapshot.run.id
  attempts : AttemptsEffect snapshot next.attempts next.actions next.graph
  actions : ActionsEffect snapshot next.actions next.attempts next.run.status
  sessions : SessionsEffect snapshot next.sessions next.attempts
  updated : ∀ revision ∈ graph, next.graph = revision ∧ next.attempts = snapshot.attempts
  tasks : graph = none → next.graph.edges = snapshot.graph.edges ∧
    ∀ id state, taskState next.graph id = some state →
      taskBoundaryActive state = true ∨ taskState snapshot.graph id = some state

def Unsaved (snapshot next : Snapshot) : Prop :=
  (next.version, next.run.updatedAt) = (snapshot.version, snapshot.run.updatedAt) ∧
    (next.run.status = .closed → snapshot.run.status = .closed)

/-- What a call that brings no revision makes of a snapshot before it is saved. -/
def Alters (snapshot next : Snapshot) : Prop := Effect none snapshot next ∧ Unsaved snapshot next

namespace Snapshot.Sound

section

variable (sound : snapshot.Sound)
include sound

theorem attempt_id {attempt : PlacementAttempt} (found : snapshot.attempts.get? id = some attempt) :
    attempt.id = id :=
  (require_ok (sound.attempt id attempt found)).2.1

theorem action_id (found : snapshot.actions.get? id = some action) : action.id = id :=
  (require_ok (sound.action id action found)).1

theorem session_id (found : snapshot.sessions.get? id = some session) : session.id = id :=
  (require_ok (sound.session id session found)).2.1

theorem attempt_blocked {attempt : PlacementAttempt} (found : snapshot.attempts.get? id = some attempt) :
    attempt.state = .blocked ↔ attempt.blockCode ≠ "" :=
  (require_ok (sound.attempt id attempt found)).2.2.2.2.2.1

theorem attempt_of_value {attempt : PlacementAttempt} (member : attempt ∈ snapshot.attempts.values) :
    snapshot.attempts.get? attempt.id = some attempt := by
  obtain ⟨id, found⟩ := mem_values.mp member
  rw [sound.attempt_id found]
  exact found

theorem session_of_value (member : session ∈ snapshot.sessions.values) :
    snapshot.sessions.get? session.id = some session := by
  obtain ⟨id, found⟩ := mem_values.mp member
  rw [sound.session_id found]
  exact found

end

end Snapshot.Sound

theorem Effect.quiet (runID : next.run.id = snapshot.run.id)
    (attempts : next.attempts = snapshot.attempts) (actions : next.actions = snapshot.actions)
    (sessions : SessionsEffect snapshot next.sessions next.attempts)
    (graph : next.graph = snapshot.graph) : Effect none snapshot next where
  runID
  attempts := .same attempts
  actions := .same actions
  sessions
  updated _ member := nomatch member
  tasks _ := by
    rw [graph]
    exact ⟨rfl, fun _ _ found => .inr found⟩

theorem Alters.refl (snapshot : Snapshot) : Alters snapshot snapshot :=
  ⟨.quiet rfl rfl rfl (sessions_same _ _) rfl, rfl, fun closed => closed⟩

theorem Effect.attempt {before : PlacementAttempt} (after : PlacementAttempt)
    (found : snapshot.attempts.get? before.id = some before) (continues : before.Continues after)
    (lives : attemptTerminal after.state = false → attemptTerminal before.state = false)
    (actionIDs : after.actionIDs = before.actionIDs) (runID : next.run.id = snapshot.run.id)
    (attempts : next.attempts = snapshot.attempts.put before.id after) (actions : next.actions = snapshot.actions)
    (sessions : SessionsEffect snapshot next.sessions next.attempts)
    (graph : next.graph = snapshot.graph) : Effect none snapshot next where
  runID
  attempts := .continued before after found continues (fun live => .inl (lives live))
    (fun _ listed => .inl (actionIDs ▸ listed)) attempts
  actions := .same actions
  sessions
  updated _ member := nomatch member
  tasks _ := by
    rw [graph]
    exact ⟨rfl, fun _ _ found => .inr found⟩

section calls

variable {controlRunID : String} {now : Nat → Time}

theorem updateGraph_effect {revision : UInt64} (h : updateGraph snapshot revision graph = .ok next) :
    Effect (some graph) snapshot next ∧ Unsaved snapshot next := by
  unfold updateGraph at h
  obtain ⟨_, h⟩ := require_bind_ok h
  obtain ⟨_, _, h⟩ := bind_ok h
  have done := pure_ok h
  subst done
  refine ⟨?_, rfl, fun closed => closed⟩
  exact {
    runID := rfl
    attempts := .same rfl
    actions := .same rfl
    sessions := sessions_same snapshot _
    updated := fun revision member => by
      cases mem_some_iff.mp member
      exact ⟨rfl, rfl⟩
    tasks := fun none => absurd none (some_ne_none _) }

theorem createAttempt_effect {attempt : PlacementAttempt} (same : snapshot.run.id = controlRunID)
    (h : createAttempt snapshot controlRunID taskID capabilities now = .ok (attempt, next)) :
    Alters snapshot next := by
  unfold createAttempt at h
  obtain ⟨_, _, h⟩ := bind_ok h
  split at h
  · cases h
  rename_i task found
  split at h
  · obtain ⟨_, h⟩ := require_bind_ok h
    cases pure_ok h
    exact .refl snapshot
  · unfold placeAttempt at h
    obtain ⟨_, _, h⟩ := bind_ok h
    obtain ⟨_, h⟩ := require_bind_ok h
    obtain ⟨_, _, h⟩ := bind_ok h
    obtain ⟨_, _, h⟩ := bind_ok h
    obtain ⟨_, _, h⟩ := bind_ok h
    cases pure_ok h
    have active : taskBoundaryActive (if (newAttempt snapshot controlRunID task capabilities).primitive =
        .localSequential then TaskState.active else .dispatched) = true := by
      split <;> rfl
    have mine : task.id = taskID := (lookup_mem found).2
    refine ⟨?_, rfl, fun closed => closed⟩
    exact {
      runID := rfl
      attempts := .placed (newAttempt snapshot controlRunID task capabilities)
        (by simp only [newAttempt]; split <;> rfl) rfl
        (by show (taskByID snapshot.graph task.id).isSome = true
            rw [mine, found]; rfl)
        (setTaskState_active active)
        (.numbered snapshot.graph.revision.toNat rfl (by rw [same]; rfl)) rfl
      actions := .same rfl
      sessions := sessions_same snapshot _
      updated := fun _ member => nomatch member
      tasks := fun _ => setTaskState_tasks active }

variable {source : PlacementAttempt}

theorem placePromoted_effect {promoted : Task} (same : snapshot.run.id = controlRunID)
    (task : (taskByID snapshot.graph promoted.id).map (·.dependsOn) = some promoted.dependsOn)
    (found : snapshot.attempts.get? source.id = some source)
    (first : ∀ id other, snapshot.attempts.get? id = some other → other.promotedFromAttemptID ≠ source.id) :
    Effect none snapshot (placePromoted snapshot controlRunID source promoted handoff capabilities now).2 := by
  obtain ⟨held, taskFound, edges⟩ := map_eq_some_iff.mp task
  have states := replaceTask_tasks snapshot.graph { promoted with state := .dispatched } rfl
    fun other found => by cases found.symm.trans taskFound; exact edges
  exact {
    runID := rfl
    attempts := .placed (replacementAttempt controlRunID source { promoted with state := .dispatched }
      handoff capabilities) rfl rfl (isSome_of_mem taskFound) states.2
      (.promoted handoff.id source found first (by rw [same]; rfl)) rfl
    actions := .same rfl
    sessions := sessions_same snapshot _
    updated := fun _ member => nomatch member
    tasks := fun _ => states.1 }

theorem promoteSource_quiet :
    Ensures (fun made => made.2.messages = snapshot.messages ∧ made.2.sessions = snapshot.sessions ∧
        made.2.actions = snapshot.actions ∧ made.2.callbacks = snapshot.callbacks ∧ made.2.run.id = snapshot.run.id)
      (promoteSource snapshot controlRunID source promotion capabilities now) := by
  simp only [promoteSource, placePromoted]
  repeat' first
    | exact .error
    | with_reducible refine .bind fun _ _ => ?_
    | split
    | exact .ok ⟨rfl, rfl, rfl, rfl, rfl⟩

theorem promoteAttempt_effect {result : PlacementAttempt × Option Handoff}
    (sound : snapshot.Sound) (same : snapshot.run.id = controlRunID)
    (h : promoteAttempt snapshot controlRunID attemptID promotion capabilities now = .ok (result, next)) :
    Alters snapshot next := by
  unfold promoteAttempt at h
  split at h
  · cases h
  rename_i source found
  split at h
  · cases pure_ok h
    exact .refl snapshot
  rename_i unpromoted
  obtain ⟨⟨⟨replacement, handoff⟩, placed⟩, promoted, h⟩ := bind_ok h
  cases pure_ok h
  unfold promoteSource at promoted
  obtain ⟨_, promoted⟩ := require_bind_ok promoted
  obtain ⟨_, promoted⟩ := require_bind_ok promoted
  obtain ⟨_, promoted⟩ := require_bind_ok promoted
  obtain ⟨_, promoted⟩ := require_bind_ok promoted
  split at promoted
  · cases promoted
  rename_i task taskFound
  obtain ⟨⟨moved, handoff⟩, moves, promoted⟩ := bind_ok promoted
  obtain ⟨_, _, promoted⟩ := bind_ok promoted
  obtain ⟨_, _, promoted⟩ := bind_ok promoted
  obtain ⟨_, promoted⟩ := require_bind_ok promoted
  cases pure_ok promoted
  have key : source.id = attemptID := sound.attempt_id found
  obtain ⟨sameID, edges⟩ := promote_edges moves
  refine ⟨placePromoted_effect same ?_ (by rw [key, found]) ?_, rfl, fun closed => closed⟩
  · show (taskByID snapshot.graph moved.id).map (·.dependsOn) = some moved.dependsOn
    rw [sameID, (lookup_mem taskFound).2, taskFound, edges]
    rfl
  · intro id other held same
    have member : other ∈ snapshot.attempts.values := mem_values.mpr ⟨id, held⟩
    exact find?_eq_none.mp unpromoted other member (decide_eq_true (same.trans key))

variable {sessions : Table AgentSession}

theorem registerSession_effect {attempt : PlacementAttempt}
    (h : registerSession snapshot controlRunID attempt result = .ok sessions) :
    SessionsEffect snapshot sessions attempts := by
  unfold registerSession at h
  split at h
  · obtain ⟨_, h⟩ := require_bind_ok h
    cases pure_ok h
    intro id session found receipt
    rw [get?_put] at found
    split at found
    · cases found
      exact absurd rfl receipt
    · exact .inl ⟨id, session, found, rfl, receipt⟩
  · cases h
    exact sessions_same snapshot attempts

structure Applied (snapshot : Snapshot) (attempt after : PlacementAttempt)
    (sessions : Table AgentSession) (graph : TaskGraph) : Prop where
  continues : attempt.Continues after
  actionIDs : after.actionIDs = attempt.actionIDs
  lives : attemptTerminal after.state = false → attemptTerminal attempt.state = false ∨
    ∀ state ∈ taskState graph after.taskID, taskBoundaryActive state = true
  sessions : SessionsEffect snapshot sessions (snapshot.attempts.put after.id after)
  tasks : graph.edges = snapshot.graph.edges ∧ ∀ id state, taskState graph id = some state →
      taskBoundaryActive state = true ∨ taskState snapshot.graph id = some state

theorem applyResult_ok {attempt after : PlacementAttempt} {trusted : List WorkEvent}
    (h : applyResult snapshot controlRunID action attempt result trusted = .ok (after, sessions, graph)) :
    Applied snapshot attempt after sessions graph := by
  have unchanged : snapshot.graph.edges = snapshot.graph.edges ∧
      ∀ id state, taskState snapshot.graph id = some state →
        taskBoundaryActive state = true ∨ taskState snapshot.graph id = some state :=
    ⟨rfl, fun _ _ found => .inr found⟩
  unfold applyResult at h
  split at h
  · obtain ⟨_, registered, h⟩ := bind_ok h
    cases pure_ok h
    exact {
      continues := ⟨rfl, rfl, rfl, fun block => block, fun closed => closed⟩
      actionIDs := rfl
      lives := fun _ => .inr (setTaskState_active rfl)
      sessions := registerSession_effect registered
      tasks := setTaskState_tasks rfl }
  iterate 2
    · cases h
      obtain ⟨continues, state, actionIDs⟩ := frozen_continues (observeEvents_frozen attempt trusted)
      exact ⟨continues, actionIDs, fun live => .inl (state ▸ live), sessions_same snapshot _, unchanged⟩
  · obtain ⟨_, _, h⟩ := bind_ok h
    obtain ⟨evidence, closing, h⟩ := bind_ok h
    obtain ⟨_, _, h⟩ := bind_ok h
    obtain ⟨_, h⟩ := require_bind_ok h
    obtain ⟨rfl, kind⟩ := controlCloseEvidence_ok closing
    cases pure_ok h
    refine ⟨closedAttempt_continues kind, rfl, fun live => .inl (closedAttempt_lives live), ?_, unchanged⟩
    split
    · exact archiveSessions_effect (get?_put_self _ _ _) kind
    · exact sessions_same snapshot _
  · cases h
    exact ⟨.refl _, rfl, fun live => .inl live, sessions_same snapshot _, unchanged⟩

def settledSnapshot (snapshot : Snapshot) (action : LifecycleAction) (result : ActionResult)
    (after : PlacementAttempt) (sessions : Table AgentSession) (graph : TaskGraph) (now : Nat → Time) : Snapshot :=
  appendEvent { snapshot with
    actions := snapshot.actions.put action.id { action with
      completed := true
      result := cloneActionResult result
      completedAt := now 0 }
    attempts := snapshot.attempts.put after.id after
    sessions, graph } .actionCompleted after.taskID after.id action.id
    (digestStrings ["complete", action.id, result.resultDigest]) (now 1)

variable {done : LifecycleAction × Option PlacementAttempt}

theorem completeAction_ok (h : completeAction snapshot controlRunID actionID result now = .ok (done, next)) :
    ∃ action, snapshot.actions.get? actionID = some action ∧ action.ambiguous = false ∧
      (action.completed = true ∧ next = snapshot ∨
        action.completed = false ∧ result.actionID = actionID ∧ ∃ attempt trusted after sessions graph,
          snapshot.attempts.get? action.attemptID = some attempt ∧
          checkResult snapshot action attempt result = .ok trusted ∧
          applyResult snapshot controlRunID action (moveCursor attempt result) result trusted =
            .ok (after, sessions, graph) ∧
          next = settledSnapshot snapshot action result after sessions graph now) := by
  unfold completeAction at h
  split at h
  · cases h
  rename_i action found
  obtain ⟨unambiguous, h⟩ := require_bind_ok h
  obtain ⟨⟨same, _⟩, h⟩ := require_bind_ok h
  refine ⟨action, found, Bool.eq_false_iff.mpr unambiguous, ?_⟩
  split at h
  · rename_i completed
    obtain ⟨_, h⟩ := require_bind_ok h
    cases pure_ok h
    exact .inl ⟨completed, rfl⟩
  · rename_i incomplete
    obtain ⟨⟨settled, after⟩, settles, h⟩ := bind_ok h
    cases pure_ok h
    unfold settleAction at settles
    split at settles
    · cases settles
    rename_i attempt held
    obtain ⟨trusted, checked, settles⟩ := bind_ok settles
    obtain ⟨⟨after, sessions, graph⟩, applied, settles⟩ := bind_ok settles
    cases pure_ok settles
    exact .inr ⟨Bool.eq_false_iff.mpr incomplete, same, attempt, trusted, after, sessions, graph, held, checked,
      applied, rfl⟩

theorem completeAction_effect (sound : snapshot.Sound)
    (h : completeAction snapshot controlRunID actionID result now = .ok (done, next)) : Alters snapshot next := by
  obtain ⟨action, found, unambiguous, ⟨_, rfl⟩ |
    ⟨incomplete, _, attempt, trusted, after, sessions, graph, held, _, applied, rfl⟩⟩ := completeAction_ok h
  · exact .refl _
  have applied := applyResult_ok applied
  obtain ⟨moved, state, actionIDs⟩ := frozen_continues (moveCursor_frozen attempt result)
  have continues := moved.trans applied.continues
  refine ⟨?_, rfl, fun closed => closed⟩
  exact {
    runID := rfl
    attempts := .continued attempt after (sound.attempt_id held ▸ held) continues
      (fun live => (applied.lives live).imp_left fun live => state ▸ live)
      (fun _ listed => .inl (applied.actionIDs.trans actionIDs ▸ listed))
      (by show snapshot.attempts.put after.id after = _; rw [continues.id])
    actions := .completed action { action with
        completed := true
        result := cloneActionResult result
        completedAt := now 0 } (sound.action_id found ▸ found) ⟨incomplete, unambiguous⟩ ⟨rfl, rfl, rfl, rfl, rfl⟩
      ⟨rfl, unambiguous⟩ rfl
    sessions := applied.sessions
    updated := fun _ member => nomatch member
    tasks := fun _ => applied.tasks }

section

variable (sound : snapshot.Sound)
include sound

theorem markAmbiguous_effect (h : markAmbiguous snapshot actionID = .ok next) :
    Alters snapshot next := by
  obtain ⟨action, attempt, found, incomplete, held, rfl⟩ := markAmbiguous_ok h
  have key := sound.attempt_id held
  have actionKey := sound.action_id found
  have code := ambiguityCode_ne action attempt
  refine ⟨?_, rfl, nofun⟩
  exact {
    runID := rfl
    attempts := .continued attempt { attempt with
        state := .blocked
        blockCode := ambiguityCode action attempt } (key ▸ held)
      ⟨rfl, rfl, rfl, fun _ => code, fun closed => closed⟩
      (fun _ => .inr (setTaskState_active rfl)) (fun _ listed => .inl listed) rfl
    actions := .ambiguous action { action with
        ambiguous := true
        ambiguityCode := ambiguityCode action attempt }
      { attempt with state := .blocked, blockCode := ambiguityCode action attempt }
      (actionKey ▸ found) incomplete ⟨rfl, rfl, rfl, rfl, rfl⟩ ⟨incomplete, rfl⟩ rfl
      ⟨by show (snapshot.attempts.put attempt.id _).get? action.attemptID = _
          rw [key, get?_put_self], code⟩ rfl
    sessions := sessions_same snapshot _
    updated := fun _ member => nomatch member
    tasks := fun _ => setTaskState_tasks rfl }

theorem advanceCursor_effect {cursor : String} {sequence : Nat} {moved : PlacementAttempt}
    (h : advanceCursor snapshot attemptID cursor sequence = .ok (moved, next)) :
    Alters snapshot next := by
  unfold advanceCursor at h
  split at h
  · cases h
  rename_i attempt held
  obtain ⟨_, h⟩ := require_bind_ok h
  cases pure_ok h
  obtain rfl := sound.attempt_id held
  refine ⟨Effect.attempt { attempt with lastCursor := cursor, cursorSequence := sequence } held
    ⟨rfl, rfl, rfl, fun block => block, fun closed => closed⟩ (fun live => live) rfl
    rfl rfl rfl (sessions_map ?_) rfl, rfl, fun closed => closed⟩
  intro session
  split <;> exact ⟨rfl, rfl⟩

theorem acknowledgeRuntimeID_effect {runtimeChildID : String}
    (h : acknowledgeRuntimeID snapshot controlRunID attemptID runtimeChildID = .ok (session, next)) :
    Alters snapshot next := by
  unfold acknowledgeRuntimeID at h
  split at h
  · rename_i attempt old held mine
    obtain ⟨_, h⟩ := require_bind_ok h
    obtain ⟨_, h⟩ := require_bind_ok h
    cases pure_ok h
    have found := sound.session_of_value (mem_of_find?_eq_some mine)
    exact ⟨.quiet rfl rfl rfl (sessions_put found rfl rfl) rfl, rfl, fun closed => closed⟩
  · cases h

variable {callback : CompletionCallback}

theorem newCallback_effect {attempt : PlacementAttempt}
    (h : newCallback snapshot attempt callback now = .ok next) : Alters snapshot next := by
  unfold newCallback at h
  split at h
  · cases h
  rename_i session mine
  obtain ⟨_, h⟩ := require_bind_ok h
  obtain ⟨_, h⟩ := require_bind_ok h
  obtain ⟨_, h⟩ := require_bind_ok h
  cases pure_ok h
  have found := sound.session_of_value (mem_of_find?_eq_some mine)
  refine ⟨?_, rfl, fun closed => closed⟩
  exact {
    runID := rfl
    attempts := .same rfl
    actions := .same rfl
    sessions := sessions_put found rfl rfl
    updated := fun _ member => nomatch member
    tasks := fun _ => by
      show (callbackEffect snapshot.graph attempt.taskID callback.status).2.edges = _ ∧ _
      cases callback.status with
      | done => exact ⟨rfl, fun _ _ found => .inr found⟩
      | doneWithConcerns => exact ⟨rfl, fun _ _ found => .inr found⟩
      | blocked => exact setTaskState_tasks rfl
      | needsInput => exact setTaskState_tasks rfl }

theorem recordCallback_effect (h : recordCallback snapshot callback now = .ok next) : Alters snapshot next := by
  unfold recordCallback at h
  split at h
  · cases h
  obtain ⟨_, h⟩ := require_bind_ok h
  split at h
  · obtain ⟨_, h⟩ := require_bind_ok h
    cases pure_ok h
    exact .refl snapshot
  · exact newCallback_effect sound h

end

theorem Effect.addMessage {graph : Option TaskGraph} (effect : Effect graph snapshot next)
    (message : Message) (now : Time) : Effect graph snapshot (addMessage next message now) where
  runID := effect.runID
  attempts := effect.attempts
  actions := effect.actions
  sessions := effect.sessions
  updated := effect.updated
  tasks := effect.tasks

variable {requestDigest : String}

section

variable (sound : snapshot.Sound)
include sound

theorem completeSend_effect {done : LifecycleAction × Option PlacementAttempt × Message}
    (h : completeSend snapshot controlRunID attemptID actionID result message now = .ok (done, next)) :
    Alters snapshot next := by
  unfold completeSend at h
  obtain ⟨_, _, h⟩ := bind_ok h
  split at h
  · cases h
  obtain ⟨_, h⟩ := require_bind_ok h
  obtain ⟨_, h⟩ := require_bind_ok h
  obtain ⟨⟨⟨completed, attempt⟩, after⟩, completes, h⟩ := bind_ok h
  obtain ⟨effect, unsaved⟩ := completeAction_effect sound completes
  dsimp only at h
  split at h
  · cases pure_ok h
    exact ⟨effect, unsaved⟩
  · cases pure_ok h
    exact ⟨effect.addMessage message (now 2), unsaved⟩

theorem setDisposition_effect {disposition : Disposition} {attempt : PlacementAttempt}
    (h : setDisposition snapshot attemptID disposition now = .ok (attempt, next)) : Alters snapshot next := by
  unfold setDisposition at h
  obtain ⟨_, h⟩ := require_bind_ok h
  obtain ⟨_, h⟩ := require_bind_ok h
  split at h
  · cases h
  rename_i old held
  obtain ⟨_, h⟩ := require_bind_ok h
  split at h
  · cases pure_ok h
    exact .refl snapshot
  · cases pure_ok h
    obtain rfl := sound.attempt_id held
    refine ⟨Effect.attempt { old with disposition } held
      ⟨rfl, rfl, rfl, fun block => block, fun closed => closed⟩ (fun live => live) rfl
      rfl rfl rfl (sessions_map ?_) rfl, rfl, fun closed => closed⟩
    intro session
    split <;> exact ⟨rfl, rfl⟩

theorem closeAttempt_effect {attempt : PlacementAttempt}
    (h : closeAttempt snapshot attemptID evidence = .ok (attempt, next)) :
    Alters snapshot next := by
  unfold closeAttempt at h
  split at h
  · cases h
  rename_i old held
  obtain ⟨_, valid, h⟩ := bind_ok h
  obtain ⟨_, h⟩ := require_bind_ok h
  obtain ⟨_, _, h⟩ := bind_ok h
  obtain ⟨_, h⟩ := require_bind_ok h
  cases pure_ok h
  obtain rfl := sound.attempt_id held
  have kind : evidence.kind ≠ none := by
    unfold validateCloseEvidence at valid
    obtain ⟨_, valid⟩ := require_bind_ok valid
    have closes := require_ok valid
    intro none
    rw [none, closesPrimitive_none] at closes
    cases closes
  exact ⟨Effect.attempt (closedAttempt old evidence) held (closedAttempt_continues kind) closedAttempt_lives rfl rfl
    rfl rfl (sessions_same snapshot _) rfl, rfl, fun closed => closed⟩

theorem attachTerminalEvidence_effect {reference : EvidenceRef} {attempt : PlacementAttempt}
    (h : attachTerminalEvidence snapshot attemptID reference = .ok (attempt, next)) : Alters snapshot next := by
  unfold attachTerminalEvidence at h
  split at h
  · cases h
  rename_i old held
  obtain ⟨_, h⟩ := require_bind_ok h
  obtain ⟨_, h⟩ := require_bind_ok h
  obtain ⟨_, h⟩ := require_bind_ok h
  cases pure_ok h
  obtain rfl := sound.attempt_id held
  refine ⟨Effect.attempt { old with
      terminalEvidence := reference
      state := if old.closeEvidence.kind ≠ none then .completed else old.state } held
    ⟨rfl, rfl, rfl, fun block => block, fun closed => closed⟩ ?_ rfl rfl
    rfl rfl (sessions_same snapshot _) rfl, rfl, fun closed => closed⟩
  intro live
  dsimp only at live
  split at live
  · cases live
  · exact live

theorem prepareAction_new {kind : ActionKind} {reservation : Action}
    (h : prepareAction snapshot controlRunID attemptID kind requestDigest now =
      .ok (action, some (reservation, next))) :
    ∃ attempt actionID, snapshot.attempts.get? attempt.id = some attempt ∧
      newAction snapshot controlRunID attempt kind requestDigest actionID now = (action, reservation, next) := by
  unfold prepareAction at h
  split at h
  · cases h
  rename_i attempt held
  obtain rfl := sound.attempt_id held
  obtain ⟨_, _, h⟩ := bind_ok h
  obtain ⟨_, h⟩ := require_bind_ok h
  obtain ⟨known, _, h⟩ := bind_ok h
  split at h
  · cases pure_ok h
  obtain ⟨actionID, _, h⟩ := bind_ok h
  cases pure_ok h
  exact ⟨attempt, actionID, held, rfl⟩

end

theorem newAction_effect {kind : ActionKind} {attempt : PlacementAttempt}
    (held : snapshot.attempts.get? attempt.id = some attempt) (fresh : snapshot.actions.get? actionID = none) :
    Effect none snapshot (newAction snapshot controlRunID attempt kind requestDigest actionID now).2.2 where
  runID := rfl
  attempts := .continued attempt { attempt with actionIDs := attempt.actionIDs ++ [actionID] } held
    ⟨rfl, rfl, rfl, fun block => block, fun closed => closed⟩ (fun live => .inl live)
    (fun id listed => by
      rcases mem_append.mp listed with old | new
      · exact .inl old
      · cases mem_singleton.mp new
        exact .inr ⟨_, get?_put_self _ _ _, rfl⟩) rfl
  actions := .prepared {
      id := actionID, attemptID := attempt.id, kind, requestDigest, preparedAt := now 0 }
    { attempt with actionIDs := attempt.actionIDs ++ [actionID] } ⟨rfl, rfl⟩ fresh
    (get?_put_self _ _ _) (mem_append_right _ mem_cons_self) rfl
  sessions := sessions_same snapshot _
  updated := fun _ member => nomatch member
  tasks := fun _ => ⟨rfl, fun _ _ found => .inr found⟩

theorem closeSnapshot_ok {closed : Snapshot} {time : Time} (h : closeSnapshot snapshot time = .ok closed) :
    closed = { snapshot with run := { snapshot.run with
      status := .closed
      close := { code := "closed", combinedGatesPassed := true, closedAt := time }
      updatedAt := time } } ∧
    pendingWork snapshot = {} ∧ (∀ task ∈ snapshot.graph.tasks, taskTerminal task.state ∧
        ∃ attempt ∈ snapshot.attempts.values, attempt.taskID = task.id) ∧
      (∀ attempt ∈ snapshot.attempts.values, attemptTerminal attempt.state ∧
        validDisposition attempt.disposition ∧ attempt.terminalEvidence.id ≠ "") ∧
      (∀ session ∈ snapshot.sessions.values, validDisposition session.disposition ∧ session.archiveReceipt ≠ "") ∧
      (∀ handoff ∈ snapshot.handoffs.values, handoff.acknowledgementRequired → handoff.acknowledged) ∧
      ∀ gate ∈ snapshot.graph.combinedGates, gate.passed := by
  unfold closeSnapshot at h
  obtain ⟨_, _, h⟩ := bind_ok h
  obtain ⟨pending, h⟩ := require_bind_ok h
  obtain ⟨tasks, h⟩ := require_bind_ok h
  obtain ⟨attempts, h⟩ := require_bind_ok h
  obtain ⟨sessions, h⟩ := require_bind_ok h
  obtain ⟨handoffs, h⟩ := require_bind_ok h
  obtain ⟨gates, h⟩ := require_bind_ok h
  exact ⟨(pure_ok h).symm, pending, tasks, attempts, sessions, handoffs, gates⟩

theorem closeRun_effect (snapshot : Snapshot) (controlRunID : String) (now : Nat → Time) :
    Effect none snapshot (closeRun snapshot controlRunID now).1 ∧
    ((closeRun snapshot controlRunID now).1.run.status = .closed →
      Closes snapshot (closeRun snapshot controlRunID now).1) := by
  unfold closeRun
  split
  · rename_i closed accepted
    cases (closeSnapshot_ok accepted).1
    exact ⟨Effect.quiet rfl rfl rfl (sessions_same _ _) rfl, fun _ => ⟨⟨_, _, accepted⟩, rfl, rfl, rfl, rfl, rfl⟩⟩
  · exact ⟨Effect.quiet rfl rfl rfl (sessions_same _ _) rfl, nofun⟩

end calls

def Change.revision : Change → Option TaskGraph
  | .updateGraph _ graph => some graph
  | _ => none

/-- Calls that touch neither the graph nor an attempt, an action or a session. -/
def Change.Calm : Change → Bool
  | .sendMessage _ | .acknowledgeMessage .. | .recordEvidence _ | .addHandoff _ | .acknowledgeHandoff _ => true
  | _ => false

variable {controlRunID : String}

theorem Change.calm_effect {change : Change} {now : Nat → Time}
    (calm : change.Calm = true) : Ensures (Alters snapshot) (change.apply controlRunID now snapshot) := by
  cases change <;> cases calm
  all_goals
    simp only [Change.apply, Control.sendMessage, Control.acknowledgeMessage, Control.recordEvidence,
      Control.addHandoff, Control.acknowledgeHandoff]
    repeat' first
      | exact .error
      | with_reducible refine .bind fun _ _ => ?_
      | with_reducible refine .map ?_
      | split
      | exact .ok ⟨Effect.quiet rfl rfl rfl (sessions_same _ _) rfl, rfl, fun closed => closed⟩

theorem Change.effect {change : Change}
    {now : Nat → Time} (sound : snapshot.Sound) (same : snapshot.run.id = controlRunID)
    (h : change.apply controlRunID now snapshot = .ok next) :
    Effect change.revision snapshot next ∧ Unsaved snapshot next := by
  cases change with
  | updateGraph => exact updateGraph_effect h
  | markAmbiguous => exact markAmbiguous_effect sound h
  | recordCallback => exact recordCallback_effect sound h
  | sendMessage | acknowledgeMessage | recordEvidence | addHandoff | acknowledgeHandoff =>
    exact Change.calm_effect rfl _ h
  | createAttempt =>
    obtain ⟨⟨_, _⟩, made, rfl⟩ := map_ok h
    exact createAttempt_effect same made
  | promoteAttempt =>
    obtain ⟨⟨_, _⟩, made, rfl⟩ := map_ok h
    exact promoteAttempt_effect sound same made
  | completeAction =>
    obtain ⟨⟨_, _⟩, made, rfl⟩ := map_ok h
    exact completeAction_effect sound made
  | advanceCursor =>
    obtain ⟨⟨_, _⟩, made, rfl⟩ := map_ok h
    exact advanceCursor_effect sound made
  | acknowledgeRuntimeID =>
    obtain ⟨⟨_, _⟩, made, rfl⟩ := map_ok h
    exact acknowledgeRuntimeID_effect sound made
  | completeSend =>
    obtain ⟨⟨_, _⟩, made, rfl⟩ := map_ok h
    exact completeSend_effect sound made
  | setDisposition =>
    obtain ⟨⟨_, _⟩, made, rfl⟩ := map_ok h
    exact setDisposition_effect sound made
  | closeAttempt =>
    obtain ⟨⟨_, _⟩, made, rfl⟩ := map_ok h
    exact closeAttempt_effect sound made
  | attachTerminalEvidence =>
    obtain ⟨⟨_, _⟩, made, rfl⟩ := map_ok h
    exact attachTerminalEvidence_effect sound made

end Paje.Control
