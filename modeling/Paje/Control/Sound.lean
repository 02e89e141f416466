import Paje.Control.Snapshot

/-!
`ValidateSnapshot` and `ValidateSave` read as propositions.
-/

namespace Paje.Control

open Text Journal

theorem entries_ok {α ε : Type} {t : Table α} {check : String → α → Except ε Unit} :
    (t.entries.forM fun entry => check entry.1 entry.2) = .ok () ↔
      ∀ id value, t.get? id = some value → check id value = .ok () := by
  rw [forM_ok]
  exact Table.forall_entries (p := fun id value => check id value = .ok ())

variable [sha : Sha]

structure Snapshot.Sound (snapshot : Snapshot) : Prop where
  version : snapshot.schemaVersion = Control.schemaVersion ∧ snapshot.version ≠ 0
  run : snapshot.run.schemaVersion = Control.schemaVersion ∧ snapshot.graph.schemaVersion = Control.schemaVersion ∧
    snapshot.run.id ≠ "" ∧ snapshot.run.id = snapshot.graph.controlRunID ∧
    snapshot.run.principalID ≠ "" ∧ validDigest snapshot.run.goalDigest ∧
    snapshot.run.graphRevision = snapshot.graph.revision
  graph : validateGraph snapshot.graph none = .ok ()
  attempt : ∀ id attempt, snapshot.attempts.get? id = some attempt → validateAttempt snapshot id attempt = .ok ()
  live : (liveTasks snapshot.attempts).Nodup
  session : ∀ id session, snapshot.sessions.get? id = some session → validateSession snapshot id session = .ok ()
  evidence : ∀ id evidence, snapshot.evidence.get? id = some evidence →
    evidence.id = id ∧ validateEvidence evidence snapshot = .ok ()
  references : ∀ id attempt, snapshot.attempts.get? id = some attempt →
    validateAttemptReferences snapshot attempt = .ok ()
  disposition : ∀ id session, snapshot.sessions.get? id = some session →
    validateSessionDisposition snapshot session = .ok ()
  handoff : ∀ id handoff, snapshot.handoffs.get? id = some handoff → validateHandoff snapshot id handoff = .ok ()
  events : snapshot.events.foldlM (nextCursor snapshot.run.id) 0 = .ok snapshot.run.eventCursor
  action : ∀ id action, snapshot.actions.get? id = some action → validateLifecycleAction snapshot id action = .ok ()
  message : ∀ id message, snapshot.messages.get? id = some message → validateMessage snapshot id message = .ok ()
  callback : ∀ id callback, snapshot.callbacks.get? id = some callback →
    validateStoredCallback snapshot id callback = .ok ()

theorem validateSnapshot_ok {snapshot : Snapshot} : validateSnapshot snapshot = .ok () ↔ snapshot.Sound := by
  have loop : ∀ {α : Type} (t : Table α) (check : String → α → Except Error Unit),
      (t.entries.forM fun entry => check entry.1 entry.2) = .ok () ↔
        ∀ id value, t.get? id = some value → check id value = .ok () := fun _ _ => entries_ok
  constructor
  · intro h
    unfold validateSnapshot at h
    simp only [check_bind_ok, require_iff] at h
    obtain ⟨version, run, graph, attempt, live, session, evidence, references, disposition, handoff, h⟩ := h
    obtain ⟨cursor, events, h⟩ := bind_ok h
    simp only [check_bind_ok, require_iff] at h
    obtain ⟨current, action, message, callback⟩ := h
    subst current
    exact {
      version, run, graph, live, events
      attempt := (loop _ _).mp attempt
      session := (loop _ _).mp session
      evidence := fun id value found => by
        have checked := (loop _ (fun id (value : Evidence) => do
          require (value.id = id) .invalidRecord
          validateEvidence value snapshot)).mp evidence id value found
        exact ⟨(require_bind_ok checked).1, (require_bind_ok checked).2⟩
      references := (loop _ (fun _ attempt => validateAttemptReferences snapshot attempt)).mp references
      disposition := (loop _ (fun _ session => validateSessionDisposition snapshot session)).mp disposition
      handoff := (loop _ _).mp handoff
      action := (loop _ _).mp action
      message := (loop _ _).mp message
      callback := (loop _ _).mp callback }
  · intro sound
    unfold validateSnapshot
    simp only [check_bind_ok, require_iff]
    refine ⟨sound.version, sound.run, sound.graph, (loop _ _).mpr sound.attempt, sound.live,
      (loop _ _).mpr sound.session, ?_,
      (loop _ (fun _ attempt => validateAttemptReferences snapshot attempt)).mpr sound.references,
      (loop _ (fun _ session => validateSessionDisposition snapshot session)).mpr sound.disposition,
      (loop _ _).mpr sound.handoff, ?_⟩
    · refine (loop _ (fun id (value : Evidence) => do
        require (value.id = id) .invalidRecord
        validateEvidence value snapshot)).mpr ?_
      intro id value found
      rw [require_bind _ (sound.evidence id value found).1]
      exact (sound.evidence id value found).2
    · rw [sound.events, ok_bind]
      simp only [check_bind_ok, require_iff, true_and]
      exact ⟨(loop _ _).mpr sound.action, (loop _ _).mpr sound.message, (loop _ _).mpr sound.callback⟩

structure Snapshot.Succeeds (current next : Snapshot) : Prop where
  identity : next.version = current.version + 1 ∧ current.schemaVersion = next.schemaVersion ∧
    current.run.schemaVersion = next.run.schemaVersion ∧ current.run.id = next.run.id ∧
    current.run.principalID = next.run.principalID ∧ current.run.goalDigest = next.run.goalDigest ∧
    current.run.createdAt = next.run.createdAt
  outcomes : terminalOutcomes current next ≤ 1
  revision : current.graph.revision ≤ next.graph.revision ∧ next.graph.revision ≤ current.graph.revision + 1
  events : next.events.take current.events.length = current.events
  closed : current.run.status = .closed → current.same { next with version := current.version }
  evidence : ∀ id evidence, current.evidence.get? id = some evidence → next.evidence.get? id = some evidence
  actions : ∀ id action, current.actions.get? id = some action →
    ∃ nextAction ∈ next.actions.get? id, sameActionIdentity action nextAction ∧
      (action.completed → action = nextAction)
  attempts : ∀ id attempt, current.attempts.get? id = some attempt →
    ∃ nextAttempt ∈ next.attempts.get? id, validateAttemptSave attempt nextAttempt = .ok ()
  tasks : ∀ task ∈ current.graph.tasks, validateTaskSave current next task = .ok ()

theorem validateSave_ok {current next : Snapshot} :
    validateSave current next = .ok () ↔ current.Sound ∧ next.Sound ∧ current.Succeeds next := by
  have kept : (∀ entry ∈ current.evidence.entries, next.evidence.get? entry.1 = some entry.2) ↔
      ∀ id evidence, current.evidence.get? id = some evidence → next.evidence.get? id = some evidence :=
    Table.forall_entries (p := fun id evidence => next.evidence.get? id = some evidence)
  have same : (∀ entry ∈ current.actions.entries, ∃ nextAction ∈ next.actions.get? entry.1,
      sameActionIdentity entry.2 nextAction ∧ (entry.2.completed → entry.2 = nextAction)) ↔ _ :=
    Table.forall_entries (p := fun id (action : LifecycleAction) =>
      ∃ nextAction ∈ next.actions.get? id, sameActionIdentity action nextAction ∧
        (action.completed → action = nextAction))
  have stays : (current.attempts.entries.forM fun entry =>
      validateAttemptStays next entry.1 entry.2) = .ok () ↔
      ∀ id attempt, current.attempts.get? id = some attempt →
        ∃ nextAttempt ∈ next.attempts.get? id, validateAttemptSave attempt nextAttempt = .ok () := by
    refine entries_ok.trans ?_
    refine forall_congr' fun id => forall_congr' fun attempt => imp_congr_right fun _ => ?_
    unfold validateAttemptStays
    cases next.attempts.get? id with
    | none => simp
    | some nextAttempt => simp
  unfold validateSave
  simp only [check_bind_ok, require_iff, validateSnapshot_ok, kept, same, stays]
  rw [forM_ok]
  constructor
  · rintro ⟨sound, nextSound, identity, outcomes, revision, events, closed, evidence, actions, attempts, tasks⟩
    exact ⟨sound, nextSound, identity, outcomes, revision, events, closed, evidence, actions, attempts, tasks⟩
  · rintro ⟨sound, nextSound, s⟩
    exact ⟨sound, nextSound, s.identity, s.outcomes, s.revision, s.events, s.closed, s.evidence,
      s.actions, s.attempts, s.tasks⟩

end Paje.Control
