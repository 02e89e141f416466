import Paje.Control.Ambiguity

/-!
Closed runs. `CloseSnapshot` does not read the actions; close evidence of persistent work follows
from the archive receipt of its session.
-/

namespace Paje.Control

open Text Journal Store

variable {attempt : PlacementAttempt} {snapshot : Snapshot}

section closing

theorem validateAttemptSave_close {next : PlacementAttempt}
    (h : validateAttemptSave attempt next = .ok ()) (closed : attempt.closeEvidence.kind ≠ none) :
    next.closeEvidence = attempt.closeEvidence := by
  unfold validateAttemptSave at h
  obtain ⟨_, h⟩ := require_bind_ok h
  obtain ⟨_, h⟩ := require_bind_ok h
  exact (require_ok h closed).symm

variable [sha : Sha]

/-- An attempt that ended: disposition, terminal evidence, and close evidence from a completed close
or from local work that is inactive. -/
structure Ended (snapshot : Snapshot) (attempt : PlacementAttempt) : Prop where
  terminal : attemptTerminal attempt.state = true
  disposition : validDisposition attempt.disposition = true
  evidence : snapshot.holdsEvidence attempt.terminalEvidence.id (fun evidence =>
    evidence.attemptID = attempt.id && evidence.taskID = attempt.taskID &&
      attempt.terminalEvidence.digest = evidenceDigest evidence) = true
  closed : validateCloseEvidence attempt.primitive attempt.closeEvidence = .ok ()
  backed : attempt.primitive = .localSequential ∨
    completedClose snapshot.actions attempt.actionIDs attempt.closeEvidence = true

structure Snapshot.Finished (snapshot : Snapshot) : Prop where
  tasks : ∀ task ∈ snapshot.graph.tasks, taskTerminal task.state = true
  attempts : ∀ attempt ∈ snapshot.attempts.values, Ended snapshot attempt
  sessions : ∀ session ∈ snapshot.sessions.values, session.archiveReceipt ≠ ""
  handoffs : ∀ handoff ∈ snapshot.handoffs.values, handoff.acknowledgementRequired → handoff.acknowledged
  gates : ∀ gate ∈ snapshot.graph.combinedGates, gate.passed = true
  actions : ∀ action ∈ snapshot.actions.values, action.completed = true

/-- No run is created closed, and a run is closed only when all its actions are complete. -/
def SettledClose (store : Store) : Call → Prop
  | .create run _ => run.status ≠ .closed
  | .closeControlRun id => ∀ current ∈ store.records.get? id,
      ∀ action ∈ current.actions.values, action.completed = true
  | _ => True

instance (store : Store) (call : Call) : Decidable (SettledClose store call) :=
  decidable_of_iff ((match call with
    | .create run _ => decide (run.status ≠ .closed)
    | .closeControlRun id => decide (∀ current ∈ store.records.get? id,
      ∀ action ∈ current.actions.values, action.completed = true)
    | _ => true) = true) (by cases call <;> simp [SettledClose])

/-- The attempt of an archived session has close evidence. -/
def Snapshot.Archived (snapshot : Snapshot) : Prop :=
  ∀ id session, snapshot.sessions.get? id = some session → session.archiveReceipt ≠ "" →
    ∃ attempt, snapshot.attempts.get? session.attemptID = some attempt ∧ attempt.closeEvidence.kind ≠ none

theorem Saves.archived {call : Call} {id : String} {current next : Snapshot}
    (saves : Saves call id current next) (before : current.Archived) : next.Archived := by
  obtain ⟨_, effect, _⟩ := saves.effect
  intro key session held receipt
  rcases effect.sessions key session held receipt with ⟨oldKey, old, oldHeld, same, oldReceipt⟩ | now
  · obtain ⟨attempt, attemptHeld, closed⟩ := before oldKey old oldHeld oldReceipt
    obtain ⟨after, afterHeld, saved⟩ := saves.succeeds.attempts _ attempt attemptHeld
    refine ⟨after, same ▸ afterHeld, ?_⟩
    rw [validateAttemptSave_close saved closed]
    exact closed
  · exact now

theorem pendingWork_closed (sound : snapshot.Sound) (archived : snapshot.Archived) (none : pendingWork snapshot = {})
    (member : attempt ∈ snapshot.attempts.values) : attempt.closeEvidence.kind ≠ Option.none := by
  have held := sound.attempt_of_value member
  have counts := none
  simp only [pendingWork, PendingWorkGate.mk.injEq, List.countP_eq_zero, Bool.and_eq_true,
    decide_eq_true_eq, Bool.or_eq_true, Bool.not_eq_true', not_and, not_or] at counts
  obtain ⟨persistent, ephemeral, native, inactive, _⟩ := counts
  have kinds : ∀ primitive kind, closesPrimitive primitive kind = true → kind ≠ Option.none := by
    intro primitive kind closes
    cases primitive <;> cases kind <;> simp [closesPrimitive] at closes ⊢
  cases primitive : attempt.primitive with
  | persistentSession =>
    have found := persistent attempt member primitive
    simp only [Bool.not_eq_false, List.any_eq_true, Bool.and_eq_true, decide_eq_true_eq] at found
    obtain ⟨session, sessionMember, mine, receipt⟩ := found
    obtain ⟨closed, closedHeld, evidence⟩ :=
      archived session.id session (sound.session_of_value sessionMember) receipt
    rw [mine, held] at closedHeld
    cases closedHeld
    exact evidence
  | ephemeralSubagent => exact kinds .ephemeralSubagent _ (by simpa using (ephemeral attempt member primitive).1)
  | harnessNativeParallel =>
    exact kinds .harnessNativeParallel _ (by simpa using (native attempt member primitive).1)
  | localSequential => exact kinds .localSequential _ (by simpa using (inactive attempt member primitive).1)

theorem validateAttemptReferences_ended
    (h : validateAttemptReferences snapshot attempt = .ok ()) (terminal : attemptTerminal attempt.state = true)
    (disposition : validDisposition attempt.disposition = true)
    (evidence : attempt.terminalEvidence.id ≠ "") (closed : attempt.closeEvidence.kind ≠ none) :
    Ended snapshot attempt := by
  unfold validateAttemptReferences at h
  obtain ⟨holds, h⟩ := require_bind_ok h
  obtain ⟨_, h⟩ := require_bind_ok h
  rw [if_pos closed] at h
  obtain ⟨_, valid, h⟩ := bind_ok h
  obtain ⟨backed, _⟩ := require_bind_ok h
  refine ⟨terminal, disposition, holds evidence, valid, ?_⟩
  by_cases localWork : attempt.primitive = .localSequential
  · exact .inl localWork
  · exact .inr (backed closed localWork)

theorem Closes.finished {next : Snapshot} (closes : Closes snapshot next) (sound : next.Sound)
    (archived : next.Archived) (actions : ∀ action ∈ snapshot.actions.values, action.completed = true) :
    next.Finished := by
  obtain ⟨_, _, accepted⟩ := closes.accepted
  obtain ⟨pending, tasks, attempts, sessions, handoffs, gates⟩ := (closeSnapshot_ok accepted).2
  have none : pendingWork next = {} := by
    unfold pendingWork
    rw [closes.attempts, closes.sessions]
    exact pending
  refine ⟨?_, ?_, ?_, ?_, ?_, ?_⟩
  · rw [closes.graph]
    exact fun task member => (tasks task member).1
  · intro attempt member
    obtain ⟨terminal, disposition, evidence⟩ := attempts attempt (closes.attempts ▸ member)
    exact validateAttemptReferences_ended (sound.references _ attempt (sound.attempt_of_value member))
      terminal disposition evidence (pendingWork_closed sound archived none member)
  · rw [closes.sessions]
    exact fun session member => (sessions session member).2
  · rw [closes.handoffs]
    exact handoffs
  · rw [closes.graph]
    exact gates
  · rw [closes.actions]
    exact actions

theorem Steps.closed_stays {allowed : Store → Call → Prop} {store later : Store} (kept : store.Kept)
    {id : String} (found : store.records.get? id = some snapshot)
    (closed : snapshot.run.status = .closed) (steps : Steps allowed store later) :
    later.records.get? id = some snapshot := by
  obtain ⟨last, lastFound, same⟩ := Steps.record (P := fun last => last = snapshot) steps kept
    (by
      rintro _ _ current next _ _ _ rfl saves
      exact absurd closed saves.opened) found rfl
  rw [lastFound, same]

/-- In every run that closes only settled runs, a closed run is finished and no later call changes it. -/
theorem closed_means_finished {journal : MemoryStore} {store : Store}
    (steps : Steps SettledClose { journal } store) {id : String} {snapshot : Snapshot}
    (found : store.records.get? id = some snapshot) (closed : snapshot.run.status = .closed) :
    snapshot.Finished ∧ ∀ later, Steps (fun _ _ => True) store later → later.records.get? id = some snapshot := by
  refine ⟨?_, fun later onward =>
    Steps.closed_stays (Steps.kept steps (kept_start journal)) found closed onward⟩
  have invariant := Steps.records
    (P := fun snapshot => snapshot.Archived ∧ (snapshot.run.status = .closed → snapshot.Finished))
    ?_ ?_ steps id snapshot found
  · exact invariant.2 closed
  · intro store run graph now snapshot settled new
    obtain ⟨_, status, _, sessions, _⟩ := newSnapshot_ok new
    refine ⟨?_, fun closed => absurd (status.symm.trans closed) settled⟩
    intro key session held
    rw [sessions, Table.get?_empty] at held
    cases held
  · intro store call id current next settled found before saves
    refine ⟨saves.archived before.1, ?_⟩
    intro closed
    obtain ⟨rfl, closes⟩ := saves.closes closed
    exact closes.finished saves.nextSound (saves.archived before.1) (settled current found)

/-- What no later snapshot takes back: events, evidence and the results of completed actions. -/
structure Snapshot.Retains (before after : Snapshot) : Prop where
  events : before.events <+: after.events
  evidence : ∀ id evidence, before.evidence.get? id = some evidence → after.evidence.get? id = some evidence
  completed : ∀ id action, before.actions.get? id = some action → action.completed = true →
    after.actions.get? id = some action

/-- A control run's past is permanent: whatever calls follow, its record stays and retains what it held. -/
theorem past_retained {journal : MemoryStore} {store later : Store} {id : String}
    (reached : Steps (fun _ _ => True) { journal } store) (steps : Steps (fun _ _ => True) store later)
    (found : store.records.get? id = some snapshot) :
    ∃ last, later.records.get? id = some last ∧ snapshot.Retains last := by
  refine Steps.record steps (Steps.kept reached (kept_start journal)) ?_ found
    ⟨List.prefix_rfl, fun _ _ held => held, fun _ _ held _ => held⟩
  intro _ _ current next _ _ _ retains saves
  obtain ⟨events, evidence, completed⟩ := retains
  refine ⟨events.trans (List.prefix_iff_eq_take.mpr saves.succeeds.events.symm), ?_, ?_⟩
  · exact fun key value held => saves.succeeds.evidence key value (evidence key value held)
  · intro key action held done
    obtain ⟨same, stored, _, kept⟩ := saves.succeeds.actions key action (completed key action held done)
    rw [kept done]
    exact stored

end closing

attribute [local instance] Sha.spelled

def observation : String := sampleAction "a" firstAttempt .localSequential .observe

def localWork : List Call :=
  [.create .sample (.sample 1 [.sample "a" .localSequential ["src/**"] .ready]),
    .change "run" (.createAttempt "a" .sample),
    .prepareAction "run" firstAttempt .observe sampleDigest]

def closeLocalWork : List Call :=
  let evidence := Evidence.sample "e" "a" firstAttempt
  [.change "run" (.recordEvidence evidence),
    .change "run" (.attachTerminalEvidence firstAttempt ⟨"e", evidenceDigest evidence⟩),
    .change "run" (.setDisposition firstAttempt { kind := some .integrated, evidenceID := "e" }),
    .change "run" (.closeAttempt firstAttempt
      { kind := some .inactive, receipt := "receipt", digest := sampleDigest }),
    .change "run" (.updateGraph 1 (.sample 2 [.sample "a" .localSequential ["src/**"] .completed])),
    .closeControlRun "run"]

def observedWork : List Call :=
  localWork ++ .change "run" (.completeAction observation (.sample observation)) :: closeLocalWork

theorem closed_means_finished_observed :
    Steps SettledClose sample (sample.after observedWork) ∧ ∃ snapshot,
      (sample.after observedWork).records.get? "run" = some snapshot ∧
      snapshot.run.status = .closed ∧ snapshot.Finished := by
  have steps : Steps SettledClose sample (sample.after observedWork) :=
    admits_steps (by decide +kernel)
  obtain ⟨snapshot, found, closed⟩ : ∃ snapshot,
      (sample.after observedWork).records.get? "run" = some snapshot ∧ snapshot.run.status = .closed := by
    decide +kernel
  exact ⟨steps, snapshot, found, closed, (closed_means_finished steps found closed).1⟩

theorem closeLocalWork_open : ∃ snapshot,
    (sample.after (localWork ++ closeLocalWork)).records.get? "run" = some snapshot ∧
    snapshot.run.status = .closed ∧ ∃ action, snapshot.actions.get? observation = some action ∧
      action.completed = false ∧ action.ambiguous = false := by decide +kernel

theorem closed_with_open_action : ∃ store snapshot action,
    Steps (fun _ _ => True) sample store ∧ store.records.get? "run" = some snapshot ∧
      snapshot.run.status = .closed ∧ snapshot.actions.get? observation = some action ∧
      action.completed = false ∧ action.ambiguous = false := by
  obtain ⟨snapshot, found, closed, action, held, isOpen⟩ := closeLocalWork_open
  exact ⟨_, snapshot, action, after_steps _ _, found, closed, held, isOpen⟩

theorem past_retained_observed : ∃ snapshot last : Snapshot, snapshot.Retains last ∧
    ∃ action, snapshot.actions.get? observation = some action ∧ action.completed = true := by
  obtain ⟨snapshot, found, done⟩ : ∃ snapshot, (sample.after (observedWork.take 4)).records.get? "run" =
      some snapshot ∧ ∃ action, snapshot.actions.get? observation = some action ∧ action.completed = true := by
    decide +kernel
  obtain ⟨last, _, retains⟩ := past_retained (after_steps sample _) (after_steps _ closeLocalWork) found
  exact ⟨snapshot, last, retains, done⟩

end Paje.Control
