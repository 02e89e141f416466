import Paje.Run.State

/-!
The life cycle of a run. `prepareSave` looks at two neighbouring records only; what holds along every
sequence of accepted saves is read off one inversion of it.
-/

namespace Paje.Run

open List

section lifeCycle

variable {ι : Type} {record current next : Record ι}

/-- The edges of the status graph that a save may take; `after` is the saved record. -/
inductive LegalEdge (after : Record ι) : Status → Status → Prop
  | resolve : LegalEdge after .pending .resolving
  | execute : LegalEdge after .resolving .executing
  | await : LegalEdge after .executing .awaitingApproval
  | publish : LegalEdge after .awaitingApproval .publishing
  | decline : LegalEdge after .awaitingApproval .declined
  | finish : LegalEdge after .publishing .succeeded
  | deliver (mode : after.publicationMode = .artifact)
      (finalized : ∃ stage ∈ after.stages, stage.name = "finalize" ∧ stage.status = .succeeded) :
      LegalEdge after .executing .succeeded
  | stop {before next : Status} (live : before.terminal = false) (ends : next = .failed ∨ next = .canceled) :
      LegalEdge after before next

theorem legalEdge_ok {current next : Status} (legal : legalEdge current next record = true) :
    LegalEdge record current next := by
  unfold legalEdge at legal
  split at legal
  · rename_i ends
    simp only [Bool.or_eq_true, decide_eq_true_eq] at ends
    exact .stop (by simpa using legal) ends
  · split at legal
    · exact .resolve
    · exact .execute
    · exact .await
    · exact .publish
    · exact .finish
    · exact .decline
    · simp only [finalizeSucceeded, Bool.and_eq_true, decide_eq_true_eq, any_eq_true] at legal
      exact .deliver legal.1 legal.2
    · cases legal

theorem LegalEdge.numbered {before next : Status} (edge : LegalEdge record before next)
    (version : Nat) : LegalEdge { record with version } before next := by
  cases edge with
  | resolve => exact .resolve
  | execute => exact .execute
  | await => exact .await
  | publish => exact .publish
  | decline => exact .decline
  | finish => exact .finish
  | deliver mode finalized => exact .deliver mode finalized
  | stop live ends => exact .stop live ends

structure Compensates (before after : Record ι) : Prop where
  failed : before.status = .failed
  canceled : after.status = .canceled
  failure : ∃ failure, before.failure = some failure ∧ failure.stage = "execute" ∧ failure.failureClass ≠ .canceled
  stages : ∃ stage, stage.name = executeCancellationStage ∧ after.stages = before.stages ++ [stage]

structure WrittenOnce (before after : Record ι) : Prop where
  baseSHA : before.baseSHA ≠ "" → after.baseSHA = before.baseSHA
  workerProfile : before.workerProfile ≠ none →
    after.workerProfile = before.workerProfile ∧ after.secretBindings = before.secretBindings
  artifact : before.artifact ≠ none → after.artifact = before.artifact
  approval : before.approval ≠ none → after.approval = before.approval
  publication : before.publication ≠ none → after.publication = before.publication

theorem WrittenOnce.trans {first second third : Record ι} (one : WrittenOnce first second)
    (two : WrittenOnce second third) : WrittenOnce first third where
  baseSHA set := by
    have same := one.baseSHA set
    rw [two.baseSHA (same ▸ set), same]
  workerProfile set := by
    obtain ⟨profile, bindings⟩ := one.workerProfile set
    obtain ⟨nextProfile, nextBindings⟩ := two.workerProfile (profile ▸ set)
    exact ⟨nextProfile.trans profile, nextBindings.trans bindings⟩
  artifact set := by
    have same := one.artifact set
    rw [two.artifact (same ▸ set), same]
  approval set := by
    have same := one.approval set
    rw [two.approval (same ▸ set), same]
  publication set := by
    have same := one.publication set
    rw [two.publication (same ▸ set), same]

theorem validateTerminalUpdate_ok (h : validateTerminalUpdate current next = .ok ()) :
    current.status = next.status ∧ WrittenOnce current next := by
  unfold validateTerminalUpdate at h
  obtain ⟨status, h⟩ := require_bind_ok h
  obtain ⟨baseSHA, h⟩ := require_bind_ok h
  obtain ⟨profile, h⟩ := require_bind_ok h
  obtain ⟨bindings, h⟩ := require_bind_ok h
  obtain ⟨_, h⟩ := require_bind_ok h
  obtain ⟨artifact, h⟩ := require_bind_ok h
  obtain ⟨approval, h⟩ := require_bind_ok h
  obtain ⟨publication, _⟩ := require_bind_ok h
  exact ⟨status, fun _ => baseSHA.symm, fun _ => ⟨profile.symm, bindings.symm⟩, fun _ => artifact.symm,
    fun _ => approval.symm, fun _ => publication.symm⟩

theorem validateMonotonicEvidence_ok
    (h : validateMonotonicEvidence current next = .ok ()) : WrittenOnce current next := by
  unfold validateMonotonicEvidence at h
  obtain ⟨_, h⟩ := require_bind_ok h
  obtain ⟨baseSHA, h⟩ := require_bind_ok h
  obtain ⟨profile, h⟩ := require_bind_ok h
  obtain ⟨_, h⟩ := require_bind_ok h
  obtain ⟨artifact, h⟩ := require_bind_ok h
  obtain ⟨approval, h⟩ := require_bind_ok h
  obtain ⟨publication, _⟩ := require_bind_ok h
  exact ⟨baseSHA, fun set => ⟨(profile set).1.symm, (profile set).2.symm⟩, fun set => (artifact set).symm,
    fun set => (approval set).symm, fun set => (publication set).symm⟩

def Record.Approved (record : Record ι) : Prop :=
  ∃ decision reference, record.approval = some decision ∧ record.artifact = some reference ∧
    decision.approved = true ∧ decision.runID = record.id ∧ decision.artifactDigest = reference.digest

theorem validateStatus_approved (valid : validateStatus record = .ok ())
    (mode : record.publicationMode = .pullRequest)
    (status : record.status = .publishing ∨ record.status = .succeeded) :
    record.approval.any (·.approved) = true ∧ record.artifact.isSome := by
  unfold validateStatus at valid
  rcases status with status | status
  · simp only [status] at valid
    obtain ⟨artifact, valid⟩ := require_bind_ok valid
    exact ⟨require_ok valid mode, artifact⟩
  · simp only [status] at valid
    obtain ⟨artifact, valid⟩ := require_bind_ok valid
    obtain ⟨_, valid⟩ := require_bind_ok valid
    obtain ⟨approved, _⟩ := require_bind_ok valid
    exact ⟨approved mode, artifact⟩

variable [ProfileSha] [Document ι]

theorem compensateExecuteCancellation_ok {record next : Record ι} {attempt : Nat} {startedAt now : Time}
    (h : compensateExecuteCancellation record attempt startedAt now = .ok next) :
    Compensates record next ∧ WrittenOnce record next := by
  unfold compensateExecuteCancellation at h
  obtain ⟨_, _, h⟩ := bind_ok h
  obtain ⟨⟨failed, failure, held, stage, other, _⟩, h⟩ := require_bind_ok h
  obtain ⟨_, h⟩ := require_bind_ok h
  obtain ⟨_, h⟩ := require_bind_ok h
  obtain ⟨_, h⟩ := require_bind_ok h
  obtain ⟨_, _, h⟩ := bind_ok h
  cases pure_ok h
  exact ⟨⟨failed, rfl, ⟨failure, held, stage, other⟩, ⟨_, rfl, rfl⟩⟩,
    ⟨fun _ => rfl, fun _ => ⟨rfl, rfl⟩, fun _ => rfl, fun _ => rfl, fun _ => rfl⟩⟩

theorem validate_ok (valid : validate record = .ok ()) :
    validateIdentity record = .ok () ∧ validateStages record.stages = .ok () ∧
      validateEvidence record = .ok () ∧ validateResolvedProfile record = .ok () ∧
      validateDecisions record = .ok () ∧ validateStatus record = .ok () ∧ validateRunFailure record = .ok () := by
  unfold validate at valid
  simp only [check_bind_ok] at valid
  exact valid

structure Record.Bound (record : Record ι) : Prop where
  bindings : record.workerProfile = none → record.secretBindings = none
  approved : record.publicationMode = .pullRequest → record.status = .publishing ∨ record.status = .succeeded →
    record.Approved

theorem validate_bound (valid : validate record = .ok ()) : record.Bound := by
  obtain ⟨_, _, _, profile, decisions, status, _⟩ := validate_ok valid
  constructor
  · intro none
    unfold validateResolvedProfile at profile
    obtain ⟨_, _, profile⟩ := bind_ok profile
    rw [none] at profile
    exact (require_bind_ok profile).1
  · intro mode reached
    obtain ⟨approved, artifact⟩ := validateStatus_approved status mode reached
    obtain ⟨decision, held, agrees⟩ := (Option.any_eq_true _ _).mp approved
    obtain ⟨reference, kept⟩ := Option.isSome_iff_exists.mp artifact
    unfold validateDecisions at decisions
    obtain ⟨_, decisions⟩ := require_bind_ok decisions
    obtain ⟨binding, _⟩ := require_bind_ok decisions
    obtain ⟨runID, digest⟩ := binding decision held reference kept
    exact ⟨decision, reference, held, kept, agrees, runID, digest⟩

theorem newRecord_ok {reservation : Reservation ι} (h : newRecord reservation = .ok record) :
    record.version = 1 ∧ validate record = .ok () := by
  unfold newRecord at h
  obtain ⟨_, _, h⟩ := bind_ok h
  obtain ⟨_, valid, h⟩ := bind_ok h
  cases pure_ok h
  exact ⟨rfl, valid⟩

variable [DecidableEq ι]

def Saves (current saved : Record ι) : Prop := ∃ next, prepareSave current next = .ok saved

theorem validateExecuteCancellationCompensation_ok
    (h : validateExecuteCancellationCompensation current next = .ok ()) :
    Compensates current next ∧ WrittenOnce current next := by
  unfold validateExecuteCancellationCompensation at h
  split at h
  · cases h
  · obtain ⟨expected, compensates, h⟩ := bind_ok h
    cases require_ok h
    exact compensateExecuteCancellation_ok compensates

theorem validateUpdate_ok (h : validateUpdate current next = .ok ()) :
    WrittenOnce current next ∧ (current.status = next.status ∨
      (current.terminal = false ∧ LegalEdge next current.status next.status) ∨ Compensates current next) := by
  unfold validateUpdate at h
  split at h
  · obtain ⟨compensates, once⟩ := validateExecuteCancellationCompensation_ok h
    exact ⟨once, .inr (.inr compensates)⟩
  · obtain ⟨_, evidence, h⟩ := bind_ok h
    obtain ⟨_, _, h⟩ := bind_ok h
    obtain ⟨_, h⟩ := require_bind_ok h
    obtain ⟨_, _, change⟩ := bind_ok h
    unfold validateKeptEvidence at evidence
    unfold validateStatusChange at change
    constructor
    · split at evidence
      · exact (validateTerminalUpdate_ok evidence).2
      · exact validateMonotonicEvidence_ok evidence
    · split at change
      · obtain ⟨live, change⟩ := require_bind_ok change
        exact .inr (.inl ⟨live, legalEdge_ok (require_ok change)⟩)
      · rename_i same
        exact .inl (not_not.mp same)

theorem prepareSave_ok {current next saved : Record ι} (h : prepareSave current next = .ok saved) :
    validate current = .ok () ∧ next.version = current.version ∧ sameImmutableIdentity current next ∧
      validateUpdate current next = .ok () ∧ validate next = .ok () ∧
      saved = { next with version := current.version + 1 } := by
  unfold prepareSave at h
  obtain ⟨_, valid, h⟩ := bind_ok h
  obtain ⟨version, h⟩ := require_bind_ok h
  obtain ⟨same, h⟩ := require_bind_ok h
  obtain ⟨_, update, h⟩ := bind_ok h
  obtain ⟨_, nextValid, h⟩ := bind_ok h
  exact ⟨valid, version, same, update, nextValid, (pure_ok h).symm⟩

variable {current saved : Record ι}

theorem Saves.writtenOnce (saves : Saves current saved) : WrittenOnce current saved := by
  obtain ⟨next, h⟩ := saves
  obtain ⟨_, _, _, update, _, rfl⟩ := prepareSave_ok h
  have once := (validateUpdate_ok update).1
  exact ⟨once.baseSHA, once.workerProfile, once.artifact, once.approval, once.publication⟩

theorem Saves.status (saves : Saves current saved) : current.status = saved.status ∨
      (current.terminal = false ∧ LegalEdge saved current.status saved.status) ∨ Compensates current saved := by
  obtain ⟨next, h⟩ := saves
  obtain ⟨_, _, _, update, _, rfl⟩ := prepareSave_ok h
  rcases (validateUpdate_ok update).2 with same | ⟨live, edge⟩ | compensates
  · exact .inl same
  · exact .inr (.inl ⟨live, edge.numbered _⟩)
  · exact .inr (.inr ⟨compensates.failed, compensates.canceled, compensates.failure, compensates.stages⟩)

theorem Saves.version (saves : Saves current saved) :
    saved.version = current.version + 1 := by
  obtain ⟨next, h⟩ := saves
  obtain ⟨_, _, _, _, _, rfl⟩ := prepareSave_ok h
  rfl

theorem Saves.bound (saves : Saves current saved) : saved.Bound := by
  obtain ⟨next, h⟩ := saves
  obtain ⟨_, _, _, _, valid, rfl⟩ := prepareSave_ok h
  obtain ⟨bindings, approved⟩ := validate_bound valid
  exact ⟨bindings, approved⟩

def corrections (records : List (Record ι)) : Nat :=
  (records.zip records.tail).countP fun pair => pair.1.terminal && pair.1.status ≠ pair.2.status

structure LifeCycle (records : List (Record ι)) : Prop where
  versions : records.map (·.version) = List.range' 1 records.length
  edges : records.IsChain fun before after => before.status = after.status ∨
    LegalEdge after before.status after.status ∨ Compensates before after
  settled : records.Pairwise fun before after => before.terminal = true →
    after.status = before.status ∨ before.status = .failed ∧ after.status = .canceled
  corrected : corrections records ≤ 1
  writtenOnce : records.Pairwise WrittenOnce
  bound : ∀ record ∈ records, record.Bound

variable {rest : List (Record ι)} {first : Record ι}

theorem versions_chain (chain : (first :: rest).IsChain Saves) :
    (first :: rest).map (·.version) = List.range' first.version (rest.length + 1) := by
  induction rest generalizing first with
  | nil => rfl
  | cons second rest ih =>
    obtain ⟨saves, chain⟩ := isChain_cons_cons.mp chain
    rw [map_cons, ih chain, saves.version]
    rfl

theorem Saves.settled (saves : Saves current saved) (ended : current.terminal = true) :
    saved.status = current.status ∨ current.status = .failed ∧ saved.status = .canceled := by
  rcases saves.status with same | ⟨live, _⟩ | compensates
  · exact .inl same.symm
  · rw [live] at ended
    cases ended
  · exact .inr ⟨compensates.failed, compensates.canceled⟩

theorem corrections_chain (chain : (first :: rest).IsChain Saves) :
    corrections (first :: rest) ≤ if first.terminal ∧ first.status ≠ .failed then 0 else 1 := by
  induction rest generalizing first with
  | nil => exact Nat.zero_le _
  | cons second rest ih =>
    obtain ⟨saves, chain⟩ := isChain_cons_cons.mp chain
    have after := ih chain
    have split : corrections (first :: second :: rest) = corrections (second :: rest) +
        if first.terminal && first.status ≠ second.status then 1 else 0 := countP_cons
    rw [split]
    rcases saves.status with same | ⟨live, _⟩ | compensates
    · have ended : second.terminal = first.terminal := by
        unfold Record.terminal
        rw [same]
      rw [ended, ← same] at after
      simpa [same] using after
    · rw [live]
      have once := after.trans (show (if _ then 0 else 1) ≤ 1 by split <;> omega)
      simpa using once
    · have canceled : second.terminal = true := by
        unfold Record.terminal
        rw [compensates.canceled]
        rfl
      rw [if_pos ⟨canceled, by rw [compensates.canceled]; decide⟩] at after
      have failed : ¬ (first.terminal = true ∧ first.status ≠ .failed) := fun h => h.2 compensates.failed
      rw [if_neg failed, Nat.le_zero.mp after]
      split <;> omega

theorem pairwise_chain {R : Record ι → Record ι → Prop}
    (trans : ∀ {a b c}, R a b → R b c → R a c) (step : ∀ {a b}, Saves a b → R a b)
    (chain : (first :: rest).IsChain Saves) : (first :: rest).Pairwise R := by
  have related : (first :: rest).IsChain R := chain.imp fun _ _ => step
  have : Trans R R R := ⟨trans⟩
  exact isChain_iff_pairwise.mp related

theorem bound_chain (bound : first.Bound)
    (chain : (first :: rest).IsChain Saves) : ∀ record ∈ first :: rest, record.Bound := by
  induction rest generalizing first with
  | nil =>
    intro record member
    cases mem_singleton.mp member
    exact bound
  | cons second rest ih =>
    obtain ⟨saves, chain⟩ := isChain_cons_cons.mp chain
    intro record member
    rcases mem_cons.mp member with rfl | member
    · exact bound
    · exact ih saves.bound chain record member

/-- Every sequence of accepted saves from a new record is a life cycle. -/
theorem saves_life_cycle {reservation : Reservation ι} {first : Record ι} {rest : List (Record ι)}
    (made : newRecord reservation = .ok first) (chain : (first :: rest).IsChain Saves) :
    LifeCycle (first :: rest) := by
  obtain ⟨version, valid⟩ := newRecord_ok made
  refine ⟨?_, ?_, ?_, ?_, ?_, ?_⟩
  · rw [versions_chain chain, version]
    rfl
  · refine chain.imp fun before after saves => ?_
    rcases saves.status with same | ⟨_, edge⟩ | compensates
    · exact .inl same
    · exact .inr (.inl edge)
    · exact .inr (.inr compensates)
  · refine pairwise_chain ?_ Saves.settled chain
    intro a b c one two ended
    rcases one ended with same | ⟨failed, canceled⟩
    · have still : b.terminal = true := by
        unfold Record.terminal at ended ⊢
        rw [same]
        exact ended
      rcases two still with kept | ⟨failed, canceled⟩
      · exact .inl (kept.trans same)
      · exact .inr ⟨same ▸ failed, canceled⟩
    · have still : b.terminal = true := by
        unfold Record.terminal
        rw [canceled]
        rfl
      rcases two still with kept | ⟨again, _⟩
      · exact .inr ⟨failed, kept.trans canceled⟩
      · rw [canceled] at again
        cases again
  · exact (corrections_chain chain).trans (by split <;> omega)
  · exact pairwise_chain WrittenOnce.trans Saves.writtenOnce chain
  · exact bound_chain (validate_bound valid) chain

def accepted : List (Record ι) → Bool
  | before :: after :: rest =>
    succeeds (prepareSave before { after with version := before.version }) (· = after) && accepted (after :: rest)
  | _ => true

theorem accepted_chain {records : List (Record ι)} (h : accepted records = true) : records.IsChain Saves := by
  induction records with
  | nil => exact .nil
  | cons before rest ih =>
    cases rest with
    | nil => exact .singleton before
    | cons after rest =>
      obtain ⟨saves, rest⟩ := Bool.and_eq_true_iff.mp h
      obtain ⟨saved, stored, same⟩ := succeeds_ok saves
      cases of_decide_eq_true same
      exact isChain_cons_cons.mpr ⟨⟨_, stored⟩, ih rest⟩

end lifeCycle

/-! A run whose cancellation arrives after its execute attempt has failed. -/

section canceled

@[reducible] def ProfileSha.constant : ProfileSha := ⟨fun _ => ""⟩

@[reducible] def Document.withoutProfile : Document Unit := ⟨fun _ => .ok none⟩

attribute [local instance] ProfileSha.constant Document.withoutProfile

def executeFailure : Failure where
  stage := "execute"
  failureClass := .agent
  retryable := false
  diagnostic := "agent failed"
  causeCode := "agent"

def canceledReservation : Reservation Unit where
  newRunID := "run-1"
  template := ⟨"code-change", 1⟩
  inputHash := "hash"
  input := ()
  repositoryURI := "https://example.test/repository.git"
  baseRef := "main"
  publicationMode := .artifact
  createdAt := 1

def canceledFirst : Record Unit where
  id := "run-1"
  version := 1
  template := ⟨"code-change", 1⟩
  inputHash := "hash"
  input := ()
  status := .pending
  publicationMode := .artifact
  repositoryURI := "https://example.test/repository.git"
  baseRef := "main"
  createdAt := 1
  updatedAt := 1

def resolveStage : StageResult := { name := "resolve", status := .running, startedAt := 1, attempts := 1 }

def executeStage : StageResult := { name := "execute", status := .running, startedAt := 3, attempts := 1 }

def canceledRest : List (Record Unit) :=
  let resolving := { canceledFirst with version := 2, status := .resolving, stages := [resolveStage] }
  let resolved := { resolveStage with status := .succeeded, finishedAt := 2 }
  let executing := { resolving with
    version := 3, status := .executing, baseSHA := "base", stages := [resolved, executeStage], updatedAt := 3 }
  let failed := { executing with
    version := 4
    status := .failed
    stages := [resolved, { executeStage with
      status := .failed, finishedAt := 4, failure := some executeFailure }]
    failure := some executeFailure
    updatedAt := 4 }
  match compensateExecuteCancellation failed 1 3 5 with
  | .ok canceled => [resolving, executing, failed, { canceled with version := 5 }]
  | .error _ => []

theorem saves_life_cycle_canceled : LifeCycle (canceledFirst :: canceledRest) ∧
    (canceledFirst :: canceledRest).map (·.status) = [.pending, .resolving, .executing, .failed, .canceled] ∧
    corrections (canceledFirst :: canceledRest) = 1 := by
  have run : newRecord canceledReservation = .ok canceledFirst ∧ accepted (canceledFirst :: canceledRest) = true ∧
      (canceledFirst :: canceledRest).map (·.status) = [.pending, .resolving, .executing, .failed, .canceled] ∧
      corrections (canceledFirst :: canceledRest) = 1 := by decide +kernel
  exact ⟨saves_life_cycle run.1 (accepted_chain run.2.1), run.2.2⟩

end canceled

end Paje.Run
