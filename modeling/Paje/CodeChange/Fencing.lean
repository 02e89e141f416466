import Paje.CodeChange.History

/-!
Stale workers. A worker keeps the attempt that it started; its updates name it, and an attempt that is no longer
the newest of its stage must not touch the run any more.
-/

namespace Paje.CodeChange

open Text Run

section fencing

def Newer (ownership : Ownership) (record : CodeRun) (entry : StageResult) : Prop :=
  entry ∈ record.stages ∧ entry.name = ownership.name ∧ ownership.attempt < entry.attempts

/-- A save leaves the status, the failure and the entry of an attempt as they are. -/
structure Spares (entry : StageResult) (before after : CodeRun) : Prop where
  status : after.status = before.status
  failure : after.failure = before.failure
  entries : ∀ stage, SameAttempt stage entry → (stage ∈ after.stages ↔ stage ∈ before.stages)

def Owns (record : CodeRun) (ownership : Ownership) : Prop :=
  ∃ latest, latestStage record.stages ownership.name = some latest ∧ latest.attempts = ownership.attempt

/-- The failure of a workspace that could not be prepared is only saved while its attempt is the newest. -/
def Timely (pool : Service.Pool) (_ : Exchanges) : Ask → Prop
  | .save (.finishFailure ownership _ none) next _ => ∀ current, pool.state.records.get? next.id = some current →
    stageAttempt current.stages ownership.name ≤ ownership.attempt
  | _ => True

def timely (pool : Service.Pool) (_ : Exchanges) : Ask → Bool
  | .save (.finishFailure ownership _ none) next _ =>
    (pool.state.records.get? next.id).all fun current =>
      stageAttempt current.stages ownership.name ≤ ownership.attempt
  | _ => true

theorem timely_of_test (pool : Service.Pool) (trace : Exchanges) (question : Ask)
    (test : timely pool trace question = true) : Timely pool trace question := by
  unfold timely at test
  unfold Timely
  split
  · intro current found
    simpa [found] using test
  · trivial

variable {record current next : CodeRun} {ownership : Ownership} {readings : Readings}

theorem Owns.not_newer (owns : Owns record ownership) {entry : StageResult} : ¬ Newer ownership record entry := by
  rintro ⟨member, named, newer⟩
  obtain ⟨latest, found, attempt⟩ := owns
  have := le_of_latestStage found member named
  omega

theorem owns_of_running (h : runningAttempt record ownership = true) : Owns record ownership := by
  obtain ⟨latest, found, h⟩ := (Option.any_eq_true _ _).mp h
  simp only [Bool.and_eq_true, decide_eq_true_eq] at h
  exact ⟨latest, found, h.1.2⟩

theorem owns_of_runningStage (h : runningStageAttempt record ownership.name ownership.attempt = true) :
    Owns record ownership := by
  obtain ⟨latest, found, h⟩ := (Option.any_eq_true _ _).mp h
  simp only [Bool.and_eq_true, decide_eq_true_eq] at h
  exact ⟨latest, found, h.1⟩

theorem owns_of_exact (h : exactStageIdentity record ownership = true) : Owns record ownership := by
  rw [exactStageIdentity, Bool.and_eq_true] at h
  exact owns_of_running h.2

theorem owns_of_ownsStage (h : ownsStage readings record ownership = true) : Owns record ownership := by
  rw [ownsStage, Bool.and_eq_true] at h
  exact owns_of_exact h.1

theorem owns_of_outcome {outcome : Outcome} (h : ownsOutcome ownership outcome readings record = true) :
    Owns record ownership := by
  unfold ownsOutcome at h
  split at h
  · simp only [ownsCheckpointedArtifact, Bool.and_eq_true] at h
    exact owns_of_exact h.1.1
  · exact owns_of_ownsStage h

variable [digests : Digests] {service : Service}

theorem owns_of_late {persisted : Option Failure} (named : ownership.name = "execute")
    (h : persistLateCancellation ownership persisted readings record = .ok (some next)) : Owns record ownership := by
  unfold persistLateCancellation at h
  split at h
  · cases h
  split at h
  · obtain ⟨_, h⟩ := past not_inProgress h
    obtain ⟨_, _, h⟩ := bind_ok (liftRun_ok (some_map_ok h))
    obtain ⟨_, h⟩ := require_bind_ok h
    obtain ⟨owned, h⟩ := require_bind_ok h
    obtain ⟨latest, found, _, _, _, attempt, _⟩ := owned
    exact ⟨latest, named ▸ found, attempt⟩
  obtain ⟨_, h⟩ := past not_error h
  split at h
  · cases h
  rename_i latest found
  obtain ⟨owned, h⟩ := past not_inProgress h
  simp only [Bool.or_eq_false_iff, decide_eq_false_iff_not, not_not] at owned
  exact ⟨latest, named ▸ found, owned.1⟩

theorem apply_owner {mutation : Mutation} (named : mutation.Named) (owner : mutation.owner = some ownership)
    (h : mutation.apply service readings current = .ok (some next)) :
    Owns current ownership ∨ (∃ reference, mutation = .checkpointArtifact ownership reference) ∨
      ∃ failure, mutation = .finishFailure ownership failure none := by
  cases mutation <;> cases owner
  case finishFailure failure expected =>
    obtain ⟨stage, rfl | rfl⟩ := named
    · obtain ⟨guard, _⟩ := past not_unchanged h
      rw [Bool.or_eq_false_iff, Option.any_some, Bool.not_eq_false'] at guard
      exact .inl (owns_of_runningStage (stage ▸ guard.2))
    · exact .inr (.inr ⟨failure, rfl⟩)
  case compensate => exact .inl (owns_of_exact (past_not not_unchanged h).1)
  case persistWorker profile bindings =>
    have guard := (past not_unchanged h).1
    rw [Bool.or_eq_false_iff, Bool.not_eq_false'] at guard
    exact .inl (owns_of_runningStage (by rw [named]; exact guard.2))
  case finishResolve sha memories profile bindings =>
    have guard := (past not_unchanged h).1
    rw [Bool.or_eq_false_iff, Bool.not_eq_false'] at guard
    exact .inl (owns_of_runningStage (by rw [named]; exact guard.2))
  case completeCheckpointed =>
    have guard := (past not_inProgress h).1
    rw [Bool.or_eq_false_iff, Bool.not_eq_false'] at guard
    exact .inl (owns_of_exact guard.1)
  case failRecovered failure => exact .inl (owns_of_exact (past_not not_inProgress h).1)
  case retryNonStart => exact .inl (owns_of_exact (past_not not_inProgress h).1)
  case checkpointAgent result => exact .inl (owns_of_exact (past_not not_inProgress h).1)
  case acquireWrite reference =>
    have guard := (past not_inProgress h).1
    rw [Bool.or_eq_false_iff, Bool.not_eq_false'] at guard
    exact .inl (owns_of_ownsStage guard.1)
  case checkpointArtifact reference => exact .inr (.inl ⟨reference, rfl⟩)
  case finishExecute outcome => exact .inl (owns_of_outcome (past_not not_inProgress h).1)
  case lateCancellation persisted => exact .inl (owns_of_late named h)
  case persistApproval request decision =>
    exact .inl (owns_of_ownsStage (past_not not_inProgress (past not_unchanged h).2).1)
  case persistPublication request bundle result =>
    exact .inl (owns_of_ownsStage (past_not not_inProgress (past not_unchanged h).2).1)
  case finishFinalize => exact .inl (owns_of_running (past_not not_inProgress (past not_unchanged h).2).1)
  case failFinalize failure => exact .inl (owns_of_running (past_not not_inProgress (past not_unchanged h).2).1)

/-- Every save for an attempt spares the newer attempts of its stage. -/
theorem stale_fenced {contents : Reference → Option Bundle} {pool : Service.Pool}
    (reached : service.Reaches contents Timely pool) :
    ∀ write ∈ pool.state.log, ∀ ownership entry, write.mutation.owner = some ownership →
      Newer ownership write.before entry → Spares entry write.before write.after := by
  refine reached.logged ?_
  intro pool trace mutation next expected current saved timely found sound ownership entry owner newer
  obtain ⟨named, readings, updated, applied, prepared⟩ := sound
  dsimp only at applied prepared owner newer ⊢
  rcases apply_owner named owner applied with owns | ⟨reference, rfl⟩ | ⟨failure, rfl⟩
  · exact absurd newer owns.not_newer
  · obtain ⟨_, applied⟩ := past not_inProgress applied
    cases applied
    obtain ⟨_, _, _, _, _, rfl⟩ := prepareSave_ok prepared
    exact ⟨rfl, rfl, fun _ _ => Iff.rfl⟩
  · obtain ⟨member, same, later⟩ := newer
    have := timely current found
    have := le_stageAttempt member
    rw [same] at this
    omega

end fencing

section runs

open Sample

attribute [local instance] oneDigest

/-- The first worker goes on while the second one has the newer attempt. -/
theorem stale_fenced_overtaken : ∃ pool : Service.Pool,
    (∃ current, pool.state.records.get? "run" = some current ∧
      ∃ entry ∈ current.stages, entry.name = "execute" ∧ 1 < entry.attempts) ∧ pool.state.log.length = 5 ∧
    ∀ write ∈ pool.state.log, ∀ ownership entry, write.mutation.owner = some ownership →
      Newer ownership write.before entry → Spares entry write.before write.after := by
  obtain ⟨pool, played, newer, saves⟩ : ∃ pool, service.play (fun _ => none) timely
        (overtaken ++ answered 1 5 (well (11 + 36 * minute))) = some pool ∧
      (∃ current, pool.state.records.get? "run" = some current ∧
        ∃ entry ∈ current.stages, entry.name = "execute" ∧ 1 < entry.attempts) ∧
      pool.state.log.length = 5 := by decide +kernel
  exact ⟨pool, newer, saves, stale_fenced (Service.play_reaches timely_of_test played)⟩

/-- The failure of the first worker's workspace fails the attempt of the second worker. -/
theorem overtaken_spoils : ∃ pool, service.Reaches (fun _ => none) (fun _ _ _ => True) pool ∧
    ∃ write ∈ pool.state.log, ∃ ownership entry, write.mutation.owner = some ownership ∧
      Newer ownership write.before entry ∧ ¬ Spares entry write.before write.after := by
  obtain ⟨pool, played, write, member, ownership, owner, entry, listed, named, newer, differs⟩ :
      ∃ pool, service.play (fun _ => none) (fun _ _ _ => true)
        (overtaken ++ answered 1 5 (unprepared (11 + 36 * minute))) = some pool ∧
      ∃ write ∈ pool.state.log, ∃ ownership, write.mutation.owner = some ownership ∧
      ∃ entry ∈ write.before.stages, entry.name = ownership.name ∧ ownership.attempt < entry.attempts ∧
        write.after.failure ≠ write.before.failure := by decide +kernel
  exact ⟨pool, Service.play_reaches (fun _ _ _ _ => trivial) played, write, member, ownership, entry, owner,
    ⟨listed, named, newer⟩, fun spares => differs spares.failure⟩

end runs

end Paje.CodeChange
