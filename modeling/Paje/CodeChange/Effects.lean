import Paje.Run.Stages
import Paje.CodeChange.Ports

/-!
What every update keeps: the run of the record, and that an approval stage succeeds only with the
evidence of an approval request. Each construct that updates are made of has its rule.
-/

namespace Paje.CodeChange

open Text Run

variable {record base current next : CodeRun} {readings : Readings}
  {stage latest : StageResult} {failure : Failure} {name : String} {status : Status} {now finished : Time}
  {stop go : Update}

theorem liftRun_ok {α : Type} {x : Except Run.Error α} {value : α} (h : liftRun x = .ok value) : x = .ok value :=
  relabel_ok h

theorem some_map_ok {x : Except Errors CodeRun} (h : some <$> x = .ok (some next)) : x = .ok next := by
  obtain ⟨value, found, same⟩ := map_ok h
  rw [found, Option.some.inj same]

theorem not_unchanged : (unchanged : Update) ≠ .ok (some next) := nofun

theorem not_inProgress : (inProgress : Update) ≠ .ok (some next) := nofun

theorem not_error {errors : Errors} : (.error errors : Update) ≠ .ok (some next) := nofun

theorem past {b : Bool} (stops : stop ≠ .ok (some next))
    (h : (if b then stop else go) = .ok (some next)) : b = false ∧ go = .ok (some next) := by
  cases b with
  | false => exact ⟨rfl, h⟩
  | true => exact absurd h stops

theorem past_not {b : Bool} (stops : stop ≠ .ok (some next))
    (h : (if !b then stop else go) = .ok (some next)) : b = true ∧ go = .ok (some next) := by
  obtain ⟨owned, h⟩ := past stops h
  exact ⟨Bool.not_eq_false' b ▸ owned, h⟩

def Decides (entry : StageResult) : Prop :=
  entry.name = "approval" → entry.status = .succeeded → ∃ asked, entry.evidence = approvalEvidence asked

def Decided (record : CodeRun) : Prop := ∀ entry ∈ record.stages, Decides entry

theorem decides_open (other : stage.status ≠ .succeeded) : Decides stage := fun _ same => absurd same other

theorem decides_other (other : stage.name ≠ "approval") : Decides stage := fun same => absurd same other

theorem Decided.failed (decided : Decided record) (found : latestStage record.stages name = some latest)
    (failure : Option Failure) : Decides { latest with failure } :=
  (decided latest (latestStage_some found).mem :)

def Keeps (record next : CodeRun) : Prop := next.id = record.id ∧ (Decided record → Decided next)

theorem keeps_same (id : next.id = record.id) (stages : next.stages = record.stages) : Keeps record next :=
  ⟨id, fun decided entry member => decided entry (stages ▸ member)⟩

theorem Keeps.trans (one : Keeps record base) (two : Keeps base next) : Keeps record next :=
  ⟨two.1.trans one.1, fun decided => two.2 (one.2 decided)⟩

theorem upsert_keeps (h : liftRun (upsertStage base stage) = .ok next) (id : base.id = record.id)
    (stages : base.stages = record.stages) (decides : Decided record → Decides stage) : Keeps record next := by
  have upserts := (upsertStage_ok (liftRun_ok h)).2
  refine ⟨?_, fun decided entry member => ?_⟩
  · rw [upserts.onlyStages]
    exact id
  · rcases upserts.mem_or member with same | earlier
    · exact same ▸ decides decided
    · exact decided entry (stages ▸ earlier)

theorem withStage_keeps (h : withStage base stage now = .ok next) (id : base.id = record.id)
    (stages : base.stages = record.stages) (decides : Decided record → Decides stage) : Keeps record next := by
  obtain ⟨mid, upserted, h⟩ := bind_ok h
  obtain rfl := pure_ok h
  exact (upsert_keeps upserted id stages decides :)

theorem closeSavedFinalize_keeps (h : closeSavedFinalize current now = .ok next) : Keeps current next := by
  unfold closeSavedFinalize at h
  simp only at h
  split at h
  · exact upsert_keeps h rfl rfl fun _ => decides_other (by simp)
  rename_i latest found
  split at h
  · cases h
    exact keeps_same rfl rfl
  · exact upsert_keeps h rfl rfl fun _ => decides_other (by simp [(latestStage_some found).named])
  · exact upsert_keeps h rfl rfl fun _ => decides_other (by simp)

variable [digests : Digests] {service : Service}

theorem transition_ok (h : liftRun (transition base status now) = .ok next) :
    next = { base with status, updatedAt := now } := by
  obtain ⟨_, _, h⟩ := bind_ok (liftRun_ok h)
  obtain ⟨_, h⟩ := require_bind_ok h
  obtain ⟨_, h⟩ := require_bind_ok h
  obtain ⟨_, _, h⟩ := bind_ok h
  obtain ⟨_, _, h⟩ := bind_ok h
  exact (pure_ok h).symm

theorem transition_keeps (h : some <$> liftRun (transition base status now) = .ok (some next))
    (keeps : Keeps record base) : Keeps record next := by
  obtain rfl := transition_ok (some_map_ok h)
  exact (keeps :)

theorem Keeps.closeUnlessRetryable (keeps : Keeps record base)
    (h : closeUnlessRetryable base failure now = .ok (some next)) : Keeps record next := by
  unfold CodeChange.closeUnlessRetryable at h
  split at h
  · cases h
    exact keeps
  · exact transition_keeps h keeps

theorem failLatest_keeps (h : failLatest record latest failure finished now = .ok (some next)) :
    Keeps record next := by
  obtain ⟨mid, upserted, h⟩ := bind_ok h
  exact transition_keeps h (upsert_keeps upserted rfl rfl fun _ => decides_open nofun)

theorem startStage_ok (h : startStage name status readings base = .ok (some next)) :
    next.status = status ∧ Keeps base next := by
  obtain ⟨_, h⟩ := past not_unchanged h
  obtain ⟨moved, entered, h⟩ := bind_ok h
  have written := some_map_ok h
  have moves : moved.status = status ∧ moved.id = base.id ∧ moved.stages = base.stages := by
    unfold enterStatus at entered
    split at entered
    · rename_i same
      cases entered
      exact ⟨same, rfl, rfl⟩
    · rw [transition_ok entered]
      exact ⟨rfl, rfl, rfl⟩
  constructor
  · obtain ⟨mid, upserted, h⟩ := bind_ok written
    obtain rfl := pure_ok h
    show mid.status = status
    rw [(upsertStage_ok (liftRun_ok upserted)).2.onlyStages]
    exact moves.1
  · exact withStage_keeps written moves.2.1 moves.2.2 fun _ => decides_open nofun

theorem beginStage_ok (h : beginStage name status readings current = .ok (some next)) :
    (name ≠ "execute" → next.status = status) ∧ Keeps current next := by
  obtain ⟨_, h⟩ := past not_unchanged h
  split at h
  · exact ⟨fun _ => (startStage_ok h).1, (startStage_ok h).2⟩
  split at h
  · exact ⟨fun _ => (startStage_ok h).1, (startStage_ok h).2⟩
  obtain ⟨_, h⟩ := past not_unchanged h
  split at h
  · rename_i execute
    exact ⟨fun other => absurd execute other, failLatest_keeps h⟩
  · obtain ⟨mid, upserted, h⟩ := bind_ok h
    obtain ⟨status, keeps⟩ := startStage_ok h
    exact ⟨fun _ => status, (upsert_keeps upserted rfl rfl fun _ => decides_open nofun).trans keeps⟩

theorem exhaustStage_keeps (h : exhaustStage name readings current = .ok (some next)) : Keeps current next := by
  obtain ⟨_, h⟩ := past not_unchanged h
  split at h
  · cases h
  rename_i latest found
  split at h
  · obtain ⟨_, h⟩ := past not_unchanged h
    exact failLatest_keeps h
  split at h
  · cases h
  split at h
  · obtain ⟨mid, upserted, h⟩ := bind_ok h
    exact transition_keeps h (upsert_keeps upserted rfl rfl fun decided => decided.failed found _)
  · cases h

/-- The two attempts of a late cancellation: one after the run has failed, one while it runs. -/
theorem persistLateCancellation_keeps {ownership : Ownership} {persisted : Option Failure}
    (h : persistLateCancellation ownership persisted readings current = .ok (some next)) : Keeps current next := by
  unfold persistLateCancellation at h
  split at h
  · cases h
  split at h
  · obtain ⟨_, h⟩ := past not_inProgress h
    have compensated := liftRun_ok (some_map_ok h)
    obtain ⟨_, _, compensated⟩ := bind_ok compensated
    iterate 4 obtain ⟨_, compensated⟩ := require_bind_ok compensated
    obtain ⟨_, _, compensated⟩ := bind_ok compensated
    obtain rfl := pure_ok compensated
    refine ⟨rfl, fun decided entry member => ?_⟩
    rcases List.mem_append.mp member with earlier | new
    · exact decided entry earlier
    · cases List.mem_singleton.mp new
      exact decides_open nofun
  obtain ⟨_, h⟩ := past not_error h
  split at h
  · cases h
  obtain ⟨_, h⟩ := past not_inProgress h
  obtain ⟨mid, written, h⟩ := bind_ok h
  have kept : Keeps current mid := withStage_keeps written rfl rfl fun _ => decides_open (by split <;> nofun)
  exact transition_keeps h kept

theorem skipStage_keeps (h : skipStage service name readings current = .ok (some next)) : Keeps current next := by
  obtain ⟨_, _, h⟩ := bind_ok h
  obtain ⟨_, h⟩ := past not_unchanged h
  split at h
  · exact withStage_keeps (some_map_ok h) rfl rfl fun _ => decides_open nofun
  split at h
  · cases h
  · cases h
  · exact withStage_keeps (some_map_ok h) rfl rfl fun _ => decides_open nofun

theorem exhaustFinalize_keeps (h : exhaustFinalize readings current = .ok (some next)) : Keeps current next := by
  obtain ⟨_, h⟩ := past not_unchanged h
  obtain ⟨_, h⟩ := past not_unchanged h
  split at h
  · rename_i found _
    split at h
    · cases h
    obtain ⟨mid, written, h⟩ := bind_ok h
    have kept : Keeps current mid := withStage_keeps written rfl rfl fun decided => decided.failed found _
    split at h
    · cases h
      exact kept
    · exact transition_keeps h kept
  · cases h

theorem apply_keeps {mutation : Mutation} (h : mutation.apply service readings current = .ok (some next)) :
    Keeps current next := by
  cases mutation with
  | begin name status => exact (beginStage_ok h).2
  | finishFailure ownership failure expected =>
    obtain ⟨_, h⟩ := past not_unchanged h
    obtain ⟨mid, written, h⟩ := bind_ok h
    exact (withStage_keeps written rfl rfl fun _ => decides_open nofun).closeUnlessRetryable h
  | compensate ownership =>
    obtain ⟨_, h⟩ := past_not not_unchanged h
    obtain ⟨mid, written, h⟩ := bind_ok h
    exact transition_keeps h (withStage_keeps written rfl rfl fun _ => decides_open nofun)
  | exhaust stage => exact exhaustStage_keeps h
  | persistWorker ownership profile bindings =>
    obtain ⟨_, h⟩ := past not_unchanged h
    cases h
    exact keeps_same rfl rfl
  | finishResolve ownership sha memories profile bindings =>
    obtain ⟨_, h⟩ := past not_unchanged h
    obtain ⟨mid, upserted, h⟩ := bind_ok h
    exact transition_keeps h (upsert_keeps upserted rfl rfl fun _ => decides_other (by simp))
  | completeCheckpointed ownership =>
    obtain ⟨_, h⟩ := past not_inProgress h
    split at h
    · cases h
    rename_i latest found
    exact withStage_keeps (some_map_ok h) rfl rfl fun _ => decides_other (by simp [(latestStage_some found).named])
  | failRecovered ownership failure =>
    obtain ⟨_, h⟩ := past_not not_inProgress h
    split at h
    · cases h
    · exact failLatest_keeps h
  | retryNonStart ownership =>
    obtain ⟨_, h⟩ := past_not not_inProgress h
    split at h
    · cases h
    obtain ⟨_, h⟩ := past_not not_inProgress h
    obtain ⟨mid, upserted, h⟩ := bind_ok h
    have kept : Keeps current mid := upsert_keeps upserted rfl rfl fun _ => decides_open nofun
    exact kept.trans (withStage_keeps (some_map_ok h) rfl rfl fun _ => decides_open nofun)
  | checkpointAgent ownership result =>
    obtain ⟨_, h⟩ := past_not not_inProgress h
    split at h
    · cases h
    rename_i latest found
    dsimp only at h
    split at h
    · cases h
    · exact withStage_keeps (some_map_ok h) rfl rfl fun _ => decides_other (by simp [(latestStage_some found).named])
  | acquireWrite ownership reference =>
    obtain ⟨_, h⟩ := past not_inProgress h
    split at h
    · cases h
      exact keeps_same rfl rfl
    obtain ⟨_, h⟩ := past_not not_inProgress h
    split at h
    · cases h
    · cases h
      exact keeps_same rfl rfl
  | checkpointArtifact ownership reference =>
    obtain ⟨_, h⟩ := past not_inProgress h
    cases h
    exact keeps_same rfl rfl
  | finishExecute ownership outcome =>
    obtain ⟨_, h⟩ := past_not not_inProgress h
    obtain ⟨evidence, _, h⟩ := bind_ok h
    obtain ⟨mid, written, h⟩ := bind_ok h
    have kept : Keeps current mid := withStage_keeps written rfl rfl fun _ => decides_other (by simp)
    split at h
    · cases h
      exact kept
    · exact kept.closeUnlessRetryable h
  | lateCancellation ownership persisted => exact persistLateCancellation_keeps h
  | persistApproval ownership request decision =>
    obtain ⟨_, h⟩ := past not_unchanged h
    obtain ⟨_, h⟩ := past_not not_inProgress h
    obtain ⟨input, _, h⟩ := bind_ok h
    split at h
    · cases h
    obtain ⟨_, h⟩ := require_bind_ok h
    split at h
    · obtain ⟨_, h⟩ := require_bind_ok h
      cases h
    obtain ⟨mid, written, h⟩ := bind_ok h
    have kept : Keeps current mid := withStage_keeps written rfl rfl fun _ _ _ => ⟨request, rfl⟩
    split at h
    · cases h
      exact kept
    · exact transition_keeps h kept
  | skip name => exact skipStage_keeps h
  | persistPublication ownership request bundle result =>
    obtain ⟨_, h⟩ := past not_unchanged h
    obtain ⟨_, h⟩ := past_not not_inProgress h
    obtain ⟨input, _, h⟩ := bind_ok h
    obtain ⟨_, h⟩ := require_bind_ok h
    split at h
    · obtain ⟨_, h⟩ := require_bind_ok h
      cases h
    · exact withStage_keeps (some_map_ok h) rfl rfl fun _ => decides_other (by simp)
  | failMissingApproval =>
    obtain ⟨_, h⟩ := past not_unchanged h
    obtain ⟨_, h⟩ := past not_error h
    split at h
    · cases h
    obtain ⟨mid, written, h⟩ := bind_ok h
    exact transition_keeps h (withStage_keeps written rfl rfl fun _ => decides_open nofun)
  | failBeforePublish failure =>
    obtain ⟨_, h⟩ := past not_unchanged h
    obtain ⟨mid, written, h⟩ := bind_ok h
    exact transition_keeps h (withStage_keeps written rfl rfl fun _ => decides_open nofun)
  | beginFinalize =>
    obtain ⟨_, _, h⟩ := bind_ok h
    obtain ⟨_, h⟩ := past not_unchanged h
    obtain ⟨_, h⟩ := past_not not_error h
    obtain ⟨_, h⟩ := past not_unchanged h
    exact withStage_keeps (some_map_ok h) rfl rfl fun _ => decides_open nofun
  | finishSavedOutcome =>
    obtain ⟨_, h⟩ := past_not not_error h
    obtain ⟨_, h⟩ := past not_unchanged h
    obtain ⟨_, h⟩ := past_not not_error h
    obtain ⟨mid, closed, h⟩ := bind_ok h
    have kept : Keeps current mid := closeSavedFinalize_keeps closed
    exact transition_keeps h kept
  | finishFinalize ownership =>
    obtain ⟨_, h⟩ := past not_unchanged h
    obtain ⟨_, h⟩ := past_not not_inProgress h
    obtain ⟨mid, written, h⟩ := bind_ok h
    have kept : Keeps current mid := withStage_keeps written rfl rfl fun _ => decides_other (by simp)
    split at h
    · cases h
      exact kept
    split at h
    · exact transition_keeps h kept
    · cases h
  | failFinalize ownership failure =>
    obtain ⟨_, h⟩ := past not_unchanged h
    obtain ⟨_, h⟩ := past_not not_inProgress h
    obtain ⟨mid, written, h⟩ := bind_ok h
    have kept : Keeps current mid := withStage_keeps written rfl rfl fun _ => decides_open nofun
    split at h
    · cases h
      exact kept
    · exact kept.closeUnlessRetryable h
  | exhaustFinalize => exact exhaustFinalize_keeps h

end Paje.CodeChange
