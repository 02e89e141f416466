import Paje.Control.Writers

/-!
An action whose outcome is unknown blocks its attempt, and a blocked attempt keeps its task from
being placed again and the run from being closed.
-/

namespace Paje.Control

open Text Journal Table Store

variable {call : Call} {current next snapshot : Snapshot} {id : String}

section ambiguity

variable {attempt : PlacementAttempt}

theorem blocked_lives (blocked : attempt.state = .blocked) :
    attemptTerminal attempt.state = false := by
  rw [blocked]
  rfl

variable [sha : Sha]

/-- The action is ambiguous and its attempt, of the task `taskID`, is blocked. -/
structure Blocks (snapshot : Snapshot) (actionID attemptID taskID : String) : Prop where
  action : ∃ action, snapshot.actions.get? actionID = some action ∧ action.ambiguous = true ∧
    action.attemptID = attemptID
  attempt : ∃ attempt, snapshot.attempts.get? attemptID = some attempt ∧ attempt.blockCode ≠ "" ∧
    attempt.taskID = taskID

theorem Saves.blocked_open {key : String} (saves : Saves call id current next)
    (held : current.attempts.get? key = some attempt) (blocked : attempt.blockCode ≠ "") :
    next.run.status ≠ .closed := by
  intro closed
  obtain ⟨_, ⟨time, result, accepted⟩, _⟩ := saves.closes closed
  have ended := ((closeSnapshot_ok accepted).2).2.2.1 attempt (mem_values.mpr ⟨key, held⟩)
  have lives := blocked_lives ((saves.sound.attempt_blocked held).mpr blocked)
  rw [ended.1] at lives
  cases lives

variable {graph : Option TaskGraph} {action : LifecycleAction}

theorem Effect.ambiguous (effect : Effect graph snapshot next)
    (held : next.actions.get? id = some action) (ambiguous : action.ambiguous = true) :
    (∃ attempt, next.attempts.get? action.attemptID = some attempt ∧ attempt.blockCode ≠ "" ∧
        next.run.status ≠ .closed) ∨ snapshot.actions.get? id = some action := by
  cases effect.actions with
  | same same => exact .inr (same ▸ held)
  | prepared _ _ isOpen _ _ _ put =>
    rw [put, get?_put] at held
    split at held
    · cases held
      rw [isOpen.2] at ambiguous
      cases ambiguous
    · exact .inr held
  | completed _ _ _ _ _ done put =>
    rw [put, get?_put] at held
    split at held
    · cases held
      rw [done.2] at ambiguous
      cases ambiguous
    · exact .inr held
  | ambiguous _ _ attempt _ _ _ _ put blocks status =>
    rw [put, get?_put] at held
    split at held
    · cases held
      refine .inl ⟨attempt, blocks.1, blocks.2, ?_⟩
      rw [status]
      decide
    · exact .inr held

theorem Effect.ambiguous_stays (effect : Effect graph snapshot next)
    (held : snapshot.actions.get? id = some action) (ambiguous : action.ambiguous = true) :
    ∃ after, next.actions.get? id = some after ∧ after.ambiguous = true ∧ after.attemptID = action.attemptID := by
  cases effect.actions with
  | same same => exact ⟨action, same ▸ held, ambiguous, rfl⟩
  | prepared new _ _ fresh _ _ put =>
    have apart : id ≠ new.id := by
      rintro rfl
      rw [fresh] at held
      cases held
    exact ⟨action, by rw [put, get?_put_other _ _ apart, held], ambiguous, rfl⟩
  | completed before _ found isOpen _ _ put =>
    have apart : id ≠ before.id := by
      rintro rfl
      rw [found] at held
      cases held
      rw [isOpen.2] at ambiguous
      cases ambiguous
    exact ⟨action, by rw [put, get?_put_other _ _ apart, held], ambiguous, rfl⟩
  | ambiguous before after _ found _ identity done put _ _ =>
    rw [put, get?_put]
    split
    · rename_i same
      subst same
      rw [found] at held
      cases held
      exact ⟨after, rfl, done.2, identity.2.1.symm⟩
    · exact ⟨action, held, ambiguous, rfl⟩

/-- Every ambiguous action has a blocked attempt in a run that is not closed. -/
def Snapshot.FailClosed (snapshot : Snapshot) : Prop :=
  ∀ id action, snapshot.actions.get? id = some action → action.ambiguous = true →
    ∃ attempt, snapshot.attempts.get? action.attemptID = some attempt ∧ attempt.blockCode ≠ "" ∧
      snapshot.run.status ≠ .closed

theorem Saves.failClosed (names : sha.Names)
    (saves : Saves call id current next) (titled : current.Titled) (before : current.FailClosed) :
    next.FailClosed := by
  intro key action held ambiguous
  obtain ⟨_, effect, _⟩ := saves.effect
  rcases effect.ambiguous held ambiguous with now | old
  · exact now
  obtain ⟨attempt, attemptHeld, blocked, _⟩ := before key action old ambiguous
  obtain ⟨after, afterHeld, continues⟩ := effect.continues names titled attemptHeld
  exact ⟨after, afterHeld, continues.blocked blocked, saves.blocked_open attemptHeld blocked⟩

theorem Steps.failClosed (names : sha.Names) {journal : MemoryStore} {store : Store}
    (steps : Steps PlainTasks { journal } store)
    (found : store.records.get? id = some snapshot) : snapshot.Titled ∧ snapshot.FailClosed := by
  refine Steps.records (P := fun snapshot => snapshot.Titled ∧ snapshot.FailClosed) ?_ ?_ steps id
    snapshot found
  · intro store run graph now snapshot plain new
    refine ⟨newSnapshot_titled plain new, ?_⟩
    intro key action held
    rw [(newSnapshot_ok new).2.2.2.2.1, get?_empty] at held
    cases held
  · intro store call id current next plain _ before saves
    exact ⟨saves.titled names plain before.1, saves.failClosed names before.1 before.2⟩

def NoReplacement (first : Snapshot) (taskID : String) (snapshot : Snapshot) : Prop :=
  ∀ key attempt, snapshot.attempts.get? key = some attempt → attempt.taskID = taskID →
    ∃ old, first.attempts.get? key = some old ∧ old.taskID = taskID

theorem Saves.noReplacement (names : sha.Names) {blockedID taskID : String}
    {first : Snapshot} (saves : Saves call id current next) (titled : current.Titled)
    {blocked : PlacementAttempt} (held : current.attempts.get? blockedID = some blocked)
    (block : blocked.blockCode ≠ "") (task : blocked.taskID = taskID)
    (before : NoReplacement first taskID current) : NoReplacement first taskID next := by
  obtain ⟨_, effect, _⟩ := saves.effect
  intro key attempt found mine
  cases old : current.attempts.get? key with
  | some earlier =>
    obtain ⟨after, afterHeld, continues⟩ := effect.continues names titled old
    rw [found] at afterHeld
    cases afterHeld
    exact before key earlier old (continues.taskID.symm.trans mine)
  | none =>
    -- the placed attempt and the blocked one would both be live
    exfalso
    obtain ⟨after, afterHeld, continues⟩ := effect.continues names titled held
    have afterLives := blocked_lives
      ((saves.nextSound.attempt_blocked afterHeld).mpr (continues.blocked block))
    have one := liveTasks_apart saves.nextSound.live (mem_values.mpr ⟨key, found⟩)
      (mem_values.mpr ⟨blockedID, afterHeld⟩) (effect.placed old found).1 afterLives
      (mine.trans (task.symm.trans continues.taskID.symm))
    have keys : key = blockedID := by
      rw [← saves.nextSound.attempt_id found, one, saves.nextSound.attempt_id afterHeld]
    rw [keys, held] at old
    cases old

/-- An ambiguous action stays ambiguous and uncompleted, its attempt stays blocked, its task gets no
new attempt and its run is never closed, in every run whose task IDs hold no NUL. -/
theorem ambiguity_fail_closed (names : sha.Names) {journal : MemoryStore} {store later : Store}
    (steps : Steps PlainTasks { journal } store) {id actionID : String} {snapshot : Snapshot}
    {action : LifecycleAction} (found : store.records.get? id = some snapshot)
    (held : snapshot.actions.get? actionID = some action) (ambiguous : action.ambiguous = true)
    (onward : Steps PlainTasks store later) : ∃ last lastAction attempt, later.records.get? id = some last ∧
      last.actions.get? actionID = some lastAction ∧ lastAction.ambiguous = true ∧
      lastAction.completed = false ∧ last.attempts.get? action.attemptID = some attempt ∧
      attempt.state = .blocked ∧ NoReplacement snapshot attempt.taskID last ∧ last.run.status ≠ .closed := by
  obtain ⟨titled, failClosed⟩ := Steps.failClosed names steps found
  obtain ⟨blocked, blockedHeld, block, _⟩ := failClosed actionID action held ambiguous
  have keeps : ∀ store call current next, store.Kept → PlainTasks store call → store.records.get? id = some current →
      (current.Titled ∧ current.FailClosed) ∧ Blocks current actionID action.attemptID blocked.taskID ∧
        NoReplacement snapshot blocked.taskID current →
      Saves call id current next →
      (next.Titled ∧ next.FailClosed) ∧ Blocks next actionID action.attemptID blocked.taskID ∧
        NoReplacement snapshot blocked.taskID next := by
    rintro store call current next _ plain _ ⟨⟨titled, failClosed⟩, blocks, none⟩ saves
    obtain ⟨old, oldHeld, oldAmbiguous, oldAttempt⟩ := blocks.action
    obtain ⟨attempt, attemptHeld, attemptBlock, attemptTask⟩ := blocks.attempt
    obtain ⟨_, effect, _⟩ := saves.effect
    obtain ⟨new, newHeld, newAmbiguous, newAttempt⟩ := effect.ambiguous_stays oldHeld oldAmbiguous
    obtain ⟨after, afterHeld, continues⟩ := effect.continues names titled attemptHeld
    refine ⟨⟨saves.titled names plain titled, saves.failClosed names titled failClosed⟩,
      ⟨⟨new, newHeld, newAmbiguous, newAttempt.trans oldAttempt⟩,
        ⟨after, afterHeld, continues.blocked attemptBlock, continues.taskID.trans attemptTask⟩⟩, ?_⟩
    exact saves.noReplacement names titled attemptHeld attemptBlock attemptTask none
  obtain ⟨last, lastFound, ⟨_, lastClosed⟩, blocks, none⟩ :=
    Steps.record onward (Steps.kept steps (kept_start journal)) keeps found
      ⟨⟨titled, failClosed⟩, ⟨⟨action, held, ambiguous, rfl⟩, ⟨blocked, blockedHeld, block, rfl⟩⟩,
        fun key attempt found mine => ⟨attempt, found, mine⟩⟩
  have lastSound := (Steps.kept onward (Steps.kept steps (kept_start journal)) id last lastFound).2
  obtain ⟨lastAction, lastHeld, lastAmbiguous, lastAttempt⟩ := blocks.action
  obtain ⟨attempt, attemptHeld, attemptBlock, attemptTask⟩ := blocks.attempt
  obtain ⟨_, _, _, status⟩ := lastClosed actionID lastAction lastHeld lastAmbiguous
  have one := (require_ok (lastSound.action actionID lastAction lastHeld)).2.2.2.1
  refine ⟨last, lastAction, attempt, lastFound, lastHeld, lastAmbiguous, ?_, attemptHeld,
    (lastSound.attempt_blocked attemptHeld).mpr attemptBlock, attemptTask ▸ none, status⟩
  exact Bool.eq_false_iff.mpr fun completed => one ⟨completed, lastAmbiguous⟩

end ambiguity

attribute [local instance] Sha.spelled

def sampleAction (taskID attemptID : String) (primitive : Primitive) (kind : ActionKind) : String :=
  (stableActionID "run" taskID attemptID 1 primitive kind sampleDigest).toOption.getD ""

def ambiguousObservation : List Call :=
  [.create .sample (.sample 1 [.sample "a" .localSequential ["src/**"] .ready]),
    .change "run" (.createAttempt "a" .sample),
    .prepareAction "run" firstAttempt .observe sampleDigest,
    .change "run" (.markAmbiguous (sampleAction "a" firstAttempt .localSequential .observe))]

def settlingCalls : List Call :=
  let observed := sampleAction "a" firstAttempt .localSequential .observe
  [.change "run" (.completeAction observed { actionID := observed, resultDigest := sampleDigest }),
    .change "run" (.createAttempt "a" .sample), .closeControlRun "run"]

theorem ambiguity_fail_closed_observation : Sha.spelled.Names ∧ ∃ last lastAction attempt,
    ((sample.after ambiguousObservation).after settlingCalls).records.get? "run" = some last ∧
      last.actions.get? (sampleAction "a" firstAttempt .localSequential .observe) = some lastAction ∧
      lastAction.ambiguous = true ∧ lastAction.completed = false ∧
      last.attempts.get? firstAttempt = some attempt ∧ attempt.state = .blocked ∧ last.run.status ≠ .closed := by
  have steps : Steps PlainTasks sample (sample.after ambiguousObservation) :=
    admits_steps (by decide +kernel)
  have onward : Steps PlainTasks (sample.after ambiguousObservation)
      ((sample.after ambiguousObservation).after settlingCalls) :=
    admits_steps (by decide +kernel)
  obtain ⟨snapshot, found, action, held, ambiguous, mine⟩ : ∃ snapshot,
      (sample.after ambiguousObservation).records.get? "run" = some snapshot ∧
      ∃ action, snapshot.actions.get? (sampleAction "a" firstAttempt .localSequential .observe) = some action ∧
        action.ambiguous = true ∧ action.attemptID = firstAttempt := by decide +kernel
  obtain ⟨last, lastAction, attempt, lastFound, lastHeld, stays, isOpen, attemptHeld, blocked, _, status⟩ :=
    ambiguity_fail_closed Sha.spelled_names steps found held ambiguous onward
  exact ⟨Sha.spelled_names, last, lastAction, attempt, lastFound, lastHeld, stays, isOpen,
    mine ▸ attemptHeld, blocked, status⟩

def ActionResult.sample (actionID : String) : ActionResult := { actionID, resultDigest := sampleDigest }

def Evidence.sample (id taskID attemptID : String) : Evidence where
  id
  taskID
  attemptID
  baseSHA := sampleSHA
  headSHA := sampleSHA
  ownedPathsDigest := sampleDigest
  tests := [⟨sampleDigest, sampleDigest, true⟩]

def ephemeralWork (taskID attemptID evidenceID : String) (disposition : DispositionKind) : List Call :=
  let act := sampleAction taskID attemptID .ephemeralSubagent
  let evidence := Evidence.sample evidenceID taskID attemptID
  [.prepareAction "run" attemptID .dispatch sampleDigest,
    .change "run" (.completeAction (act .dispatch) (.sample (act .dispatch))),
    .prepareAction "run" attemptID .observe sampleDigest,
    .change "run" (.completeAction (act .observe) { ActionResult.sample (act .observe) with
      events := [{ id := "event", kind := "done", resultDigest := sampleDigest, terminal := true }] }),
    .change "run" (.recordEvidence evidence),
    .change "run" (.attachTerminalEvidence attemptID ⟨evidenceID, evidenceDigest evidence⟩),
    .change "run" (.setDisposition attemptID { kind := some disposition, evidenceID }),
    .prepareAction "run" attemptID .close sampleDigest,
    .change "run" (.completeAction (act .close) { ActionResult.sample (act .close) with
      closeEvidence := { kind := some .runtimeClose, receipt := "receipt", digest := sampleDigest } })]

/-- An evidence ID that reads like the end of the name of a numbered attempt. -/
def oddEvidence : String := "e\x002\x003"

def promotedFrom : String := stableID "attempt" ["run", "t", "1", "1"]

def samplePromotion : Promotion where
  checkpoint := ⟨oddEvidence, evidenceDigest (.sample oddEvidence "t" promotedFrom)⟩
  reason := "reason"
  newOwner := "other"
  requiresMutation := false
  requiresRestart := true
  mutable := []

def promotedTo : String :=
  stableID "attempt" ["run", "t", "promotion", promotedFrom, "handoff-t-" ++ oddEvidence]

/-- A task whose third attempt at revision 2 has the name of the promoted attempt. -/
def oddTask : String := "t\x00promotion\x00" ++ promotedFrom ++ "\x00handoff-t-e"

def ambiguousPromotion : List Call :=
  [.create .sample (.sample 1 [.sample "t" .ephemeralSubagent ["src/**"] .ready]),
    .change "run" (.createAttempt "t" .sample)] ++
  ephemeralWork "t" promotedFrom oddEvidence .handedOff ++
  [.change "run" (.promoteAttempt promotedFrom samplePromotion .sample),
    .prepareAction "run" promotedTo .dispatch sampleDigest,
    .change "run" (.markAmbiguous (sampleAction "t" promotedTo .persistentSession .dispatch))]

def placeOddTask : List Call :=
  let promoted := { Task.sample "t" .persistentSession ["src/**"] .needsInput with
    placement := {
      parallelismPrimitive := .persistentSession
      executionPlacement := "isolated_persistent_session"
      placementRationale := "reason"
      capabilityRequirements := requiredCapabilities .persistentSession
      lifecycleOwner := "other"
      fallback := "block"
      promotionTrigger := "duration_isolation" } }
  [.change "run" (.updateGraph 1 (.sample 2 [promoted, .sample oddTask .localSequential ["docs/**"] .ready])),
    .change "run" (.createAttempt oddTask .sample)]

theorem ambiguity_overwritten : Sha.spelled.Names ∧ ∃ store later snapshot last action attempt lastAttempt,
      Steps (fun _ _ => True) sample store ∧ Steps (fun _ _ => True) store later ∧
      store.records.get? "run" = some snapshot ∧ later.records.get? "run" = some last ∧
      snapshot.actions.get? (sampleAction "t" promotedTo .persistentSession .dispatch) = some action ∧
      action.ambiguous = true ∧ snapshot.attempts.get? action.attemptID = some attempt ∧
      attempt.state = .blocked ∧ last.attempts.get? action.attemptID = some lastAttempt ∧
      lastAttempt.state = .active := by
  refine ⟨Sha.spelled_names, sample.after ambiguousPromotion,
    (sample.after ambiguousPromotion).after placeOddTask, ?_⟩
  simp only [exists_and_left]
  exact ⟨after_steps _ _, after_steps _ _, by decide +kernel⟩

end Paje.Control
