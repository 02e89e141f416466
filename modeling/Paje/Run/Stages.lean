import Mathlib.Data.List.Induction
import Paje.Run.LifeCycle

/-!
Stage histories: the latest attempt of a stage, and what writing one attempt does to it.
-/

namespace Paje.Run

open Text List

variable {ι : Type} {stages : List StageResult} {stage latest result : StageResult} {name : String}

/-- The latest attempt of a stage is its first entry with the highest attempt number. -/
structure IsLatest (stages : List StageResult) (name : String) (latest : StageResult) : Prop where
  named : latest.name = name
  split : ∃ before after, stages = before ++ latest :: after ∧
    (∀ stage ∈ before, stage.name = name → stage.attempts < latest.attempts) ∧
    ∀ stage ∈ after, stage.name = name → stage.attempts ≤ latest.attempts

theorem IsLatest.mem (is : IsLatest stages name latest) : latest ∈ stages := by
  obtain ⟨before, after, rfl, _⟩ := is.split
  simp

theorem latestStage_append_singleton : latestStage (stages ++ [stage]) name =
      if stage.name = name ∧ (latestStage stages name).all (·.attempts < stage.attempts) then some stage
      else latestStage stages name := by
  unfold latestStage
  rw [foldl_append]
  rfl

theorem latestStage_none : latestStage stages name = none ↔ ∀ stage ∈ stages, stage.name ≠ name := by
  induction stages using List.reverseRecOn with
  | nil => simp [latestStage]
  | append_singleton stages stage ih =>
    rw [latestStage_append_singleton]
    by_cases named : stage.name = name
    · have : ¬ ∀ other ∈ stages ++ [stage], other.name ≠ name := fun all => all stage (by simp) named
      simp only [this, iff_false]
      split
      · simp
      · rename_i other
        intro absent
        rw [absent] at other
        simp [named] at other
    · simp only [named, false_and, if_false, ih, List.mem_append, List.mem_singleton]
      constructor
      · rintro absent other (member | rfl)
        · exact absent other member
        · exact named
      · exact fun absent other member => absent other (.inl member)

theorem le_of_latestStage (found : latestStage stages name = some latest) (member : stage ∈ stages)
    (named : stage.name = name) : stage.attempts ≤ latest.attempts := by
  induction stages using List.reverseRecOn generalizing latest with
  | nil => simp at member
  | append_singleton stages final ih =>
    rw [latestStage_append_singleton] at found
    split at found
    · rename_i newest
      obtain rfl := Option.some.inj found
      rcases mem_append.mp member with member | member
      · cases before : latestStage stages name with
        | none => exact absurd named (latestStage_none.mp before stage member)
        | some older =>
          have less : older.attempts < final.attempts := by simpa [before] using newest.2
          exact (ih before member).trans less.le
      · obtain rfl := mem_singleton.mp member
        exact le_rfl
    · rename_i notNewer
      rcases mem_append.mp member with member | member
      · exact ih found member
      · obtain rfl := mem_singleton.mp member
        simpa [named, found] using notNewer

theorem latestStage_some (found : latestStage stages name = some latest) : IsLatest stages name latest := by
  induction stages using List.reverseRecOn with
  | nil => simp [latestStage] at found
  | append_singleton stages stage ih =>
    rw [latestStage_append_singleton] at found
    split at found
    · rename_i newer
      obtain rfl := Option.some.inj found
      refine ⟨newer.1, stages, [], by simp, fun other member named => ?_, by simp⟩
      cases previous : latestStage stages name with
      | none => exact absurd named (latestStage_none.mp previous other member)
      | some last =>
        have older : last.attempts < stage.attempts := by simpa [previous] using newer.2
        exact (le_of_latestStage previous member named).trans_lt older
    · rename_i notNewer
      obtain ⟨named, before, after, rfl, earlier, later⟩ := ih found
      refine ⟨named, before, after ++ [stage], by simp, earlier, fun other member same => ?_⟩
      rcases mem_append.mp member with member | member
      · exact later other member same
      · obtain rfl := mem_singleton.mp member
        simpa [same, found] using notNewer

theorem stageAttempt_append_singleton : stageAttempt (stages ++ [stage]) name =
      if stage.name = name then max (stageAttempt stages name) stage.attempts else stageAttempt stages name := by
  unfold stageAttempt
  rw [foldl_append]
  rfl

theorem le_stageAttempt (member : stage ∈ stages) : stage.attempts ≤ stageAttempt stages stage.name := by
  induction stages using List.reverseRecOn with
  | nil => simp at member
  | append_singleton stages last ih =>
    rw [stageAttempt_append_singleton]
    rcases mem_append.mp member with member | member
    · have := ih member
      split <;> omega
    · obtain rfl := mem_singleton.mp member
      simp

def SameAttempt (one two : StageResult) : Prop := one.name = two.name ∧ one.attempts = two.attempts

/-- What `upsertStage` does: the entry of the same attempt is replaced, or a new attempt is added. -/
structure Upserts (record : Record ι) (result : StageResult) (next : Record ι) : Prop where
  newest : stageAttempt record.stages result.name ≤ result.attempts
  onlyStages : next = { record with stages := next.stages }
  stages : (∃ before existing after, record.stages = before ++ existing :: after ∧ SameAttempt existing result ∧
      (∀ stage ∈ before, ¬ SameAttempt stage result) ∧ (stageFinished existing → stageFinished result) ∧
      next.stages = before ++ result :: after) ∨
    (∀ stage ∈ record.stages, ¬ SameAttempt stage result) ∧ next.stages = record.stages ++ [result]

theorem replaceStage_split {existing : StageResult}
    (found : stages.find? (fun stage => stage.name = result.name ∧ stage.attempts = result.attempts) =
      some existing) : ∃ before after, stages = before ++ existing :: after ∧ SameAttempt existing result ∧
      (∀ stage ∈ before, ¬ SameAttempt stage result) ∧ replaceStage result stages = before ++ result :: after := by
  induction stages with
  | nil => simp at found
  | cons first rest ih =>
    by_cases same : first.name = result.name ∧ first.attempts = result.attempts
    · rw [find?_cons_of_pos (by simpa using same)] at found
      obtain rfl := Option.some.inj found
      exact ⟨[], rest, rfl, same, by simp, by simp [replaceStage, same]⟩
    · rw [find?_cons_of_neg (by simpa using same)] at found
      obtain ⟨before, after, rfl, matched, unmatched, replaced⟩ := ih found
      refine ⟨first :: before, after, rfl, matched, ?_, by simp [replaceStage, same, replaced]⟩
      rintro stage member
      rcases mem_cons.mp member with rfl | member
      · exact same
      · exact unmatched stage member

theorem upsertStage_ok {record next : Record ι} (h : upsertStage record result = .ok next) :
    validateStage result = .ok () ∧ Upserts record result next := by
  unfold upsertStage at h
  obtain ⟨_, valid, h⟩ := bind_ok h
  obtain ⟨newest, h⟩ := require_bind_ok h
  refine ⟨valid, newest, ?_, ?_⟩
  · split at h
    · obtain ⟨_, h⟩ := require_bind_ok h
      rw [← pure_ok h]
    · rw [← pure_ok h]
  · split at h
    · rename_i existing found
      obtain ⟨finishes, h⟩ := require_bind_ok h
      obtain ⟨before, after, split, same, unmatched, replaced⟩ := replaceStage_split found
      refine .inl ⟨before, existing, after, split, same, unmatched, ?_, by rw [← pure_ok h]; exact replaced⟩
      intro finished
      by_contra unfinished
      exact finishes ⟨finished, unfinished⟩
    · rename_i absent
      refine .inr ⟨fun stage member same => ?_, by rw [← pure_ok h]⟩
      have := find?_eq_none.mp absent stage member
      exact this (by simpa [SameAttempt] using same)

namespace Upserts

variable {record next : Record ι}

theorem mem_or (upserts : Upserts record result next) (member : stage ∈ next.stages) :
    stage = result ∨ stage ∈ record.stages := by
  rcases upserts.stages with ⟨before, existing, after, split, _, _, _, replaced⟩ | ⟨_, added⟩
  · rw [replaced] at member
    rw [split]
    rcases mem_append.mp member with member | member
    · simp [member]
    · rcases mem_cons.mp member with rfl | member
      · exact .inl rfl
      · simp [member]
  · rw [added] at member
    rcases mem_append.mp member with member | member
    · exact .inr member
    · exact .inl (mem_singleton.mp member)

end Upserts

variable {attempts : Nat}

theorem stageAt_mem (found : stageAt stages name attempts = some stage) :
    stage ∈ stages ∧ stage.name = name ∧ stage.attempts = attempts := by
  have listed := mem_of_getLast? found
  simpa using listed

theorem stageAt_none (absent : stageAt stages name attempts = none) (member : stage ∈ stages) :
    ¬ (stage.name = name ∧ stage.attempts = attempts) := by
  have empty := getLast?_eq_none_iff.mp absent
  simpa using filter_eq_nil_iff.mp empty stage member

variable {one two : StageResult}

theorem increasing_same (sorted : increasing stages) (first : one ∈ stages)
    (second : two ∈ stages) (same : SameAttempt one two) : one = two := by
  by_contra different
  have symmetric : Std.Symm fun one two : StageResult => ¬ SameAttempt one two :=
    ⟨fun _ _ other same => other ⟨same.1.symm, same.2.symm⟩⟩
  have apart : stages.Pairwise fun one two => ¬ SameAttempt one two :=
    sorted.imp fun {a b} later (same : SameAttempt a b) => (later same.1.symm).ne same.2
  exact apart.forall first second different same

/-- An attempt without its failure, which may still be marked exhausted when the attempt is finished. -/
def StageResult.core (stage : StageResult) : StageResult := { stage with failure := none }

theorem isRetryExhaustion_ok (exhausts : isRetryExhaustion one two = true) :
    two.core = one.core ∧ one.failure.any (·.retryable) = true ∧ two.failure.any (·.retryable) = false := by
  unfold isRetryExhaustion at exhausts
  split at exhausts
  · rename_i before after held kept
    simp only [isRetryExhaustionFailure, Bool.and_eq_true, decide_eq_true_eq, Bool.not_eq_true'] at exhausts
    obtain ⟨⟨⟨⟨retryable, ended⟩, _⟩, _⟩, same⟩ := exhausts
    exact ⟨same.symm, by simp [held, retryable], by simp [kept, ended]⟩
  · cases exhausts

/-- Nothing of a stage history is lost: an entry keeps its attempt and start, a finished one all of itself but for
the failure of a latest attempt that is marked exhausted, and new attempts have higher numbers. -/
structure StagesExtend (before after : List StageResult) : Prop where
  kept : ∀ stage ∈ before, ∃ later ∈ after, SameAttempt later stage ∧ later.startedAt = stage.startedAt ∧
    (stageFinished stage = true → later = stage ∨ isRetryExhaustion stage later = true ∧
      ∀ other ∈ before, other.name = stage.name → other.attempts ≤ stage.attempts)
  newer : ∀ stage ∈ after, (∃ old ∈ before, SameAttempt old stage) ∨
    ∀ old ∈ before, old.name = stage.name → old.attempts < stage.attempts

namespace StagesExtend

variable {before after : List StageResult}

theorem of_mem (kept : ∀ stage ∈ before, stage ∈ after) (newer : ∀ stage ∈ after, stage ∈ before ∨
    ∀ old ∈ before, old.name = stage.name → old.attempts < stage.attempts) : StagesExtend before after where
  kept stage member := ⟨stage, kept stage member, ⟨rfl, rfl⟩, rfl, fun _ => .inl rfl⟩
  newer stage member := (newer stage member).imp_left fun old => ⟨stage, old, rfl, rfl⟩

theorem trans {last : List StageResult} (one : StagesExtend before after) (two : StagesExtend after last) :
    StagesExtend before last where
  kept stage member := by
    obtain ⟨middle, inside, same, start, fixed⟩ := one.kept stage member
    obtain ⟨later, found, same', start', fixed'⟩ := two.kept middle inside
    refine ⟨later, found, ⟨same'.1.trans same.1, same'.2.trans same.2⟩, start'.trans start, fun finished => ?_⟩
    rcases fixed finished with rfl | ⟨exhausts, latest⟩
    · refine (fixed' finished).imp_right fun ⟨exhausts, latest⟩ => ⟨exhausts, fun other listed named => ?_⟩
      obtain ⟨still, there, again, _⟩ := one.kept other listed
      exact again.2 ▸ latest still there (again.1.trans named)
    · -- an exhausted attempt cannot be marked exhausted again
      obtain ⟨core, _, ended⟩ := isRetryExhaustion_ok exhausts
      have still : stageFinished middle = stageFinished stage := (congrArg stageFinished core :)
      rcases fixed' (still.trans finished) with rfl | ⟨again, _⟩
      · exact .inr ⟨exhausts, latest⟩
      · have isOpen := (isRetryExhaustion_ok again).2.1
        rw [ended] at isOpen
        cases isOpen
  newer stage member := by
    rcases two.newer stage member with ⟨middle, inside, same⟩ | newer
    · rcases one.newer middle inside with ⟨old, listed, same'⟩ | newer
      · exact .inl ⟨old, listed, same'.1.trans same.1, same'.2.trans same.2⟩
      · exact .inr fun old listed named => same.2 ▸ newer old listed (named.trans same.1.symm)
    · refine .inr fun old listed named => ?_
      obtain ⟨still, there, same, _⟩ := one.kept old listed
      exact same.2 ▸ newer still there (same.1.trans named)

theorem keeps (extend : StagesExtend before after) (member : stage ∈ before)
    (finished : stageFinished stage = true) : ∃ kept ∈ after, kept.core = stage.core := by
  obtain ⟨later, found, _, _, fixed⟩ := extend.kept stage member
  refine ⟨later, found, ?_⟩
  rcases fixed finished with rfl | ⟨exhausts, _⟩
  · rfl
  · exact (isRetryExhaustion_ok exhausts).1

end StagesExtend

theorem validateMonotonicStages_extends {current next : List StageResult}
    (h : validateMonotonicStages current next = .ok ()) (positive : ∀ stage ∈ next, 0 < stage.attempts) :
    StagesExtend current next := by
  unfold validateMonotonicStages at h
  obtain ⟨inserted, h⟩ := require_bind_ok h
  constructor
  · intro stage member
    have kept := forM_ok.mp h stage member
    unfold validateKeptStage at kept
    split at kept
    · cases kept
    · rename_i candidate found
      obtain ⟨listed, named, numbered⟩ := stageAt_mem found
      obtain ⟨fixed, kept⟩ := require_bind_ok kept
      have start : candidate.startedAt = stage.startedAt := by
        cases finished : stageFinished stage with
        | false => exact require_ok kept finished
        | true =>
          rcases fixed finished with rfl | ⟨_, exhausts⟩
          · rfl
          · exact (congrArg StageResult.startedAt (isRetryExhaustion_ok exhausts).1 :)
      refine ⟨candidate, listed, ⟨named, numbered⟩, start, fun finished => ?_⟩
      rcases fixed finished with same | ⟨latest, exhausts⟩
      · exact .inl same.symm
      · exact .inr ⟨exhausts, fun other inside same => latest ▸ same ▸ le_stageAttempt inside⟩
  · intro stage member
    cases found : stageAt current stage.name stage.attempts with
    | some old =>
      obtain ⟨listed, named, numbered⟩ := stageAt_mem found
      exact .inl ⟨old, listed, named, numbered⟩
    | none =>
      refine .inr fun old listed named => ?_
      have below := le_stageAttempt listed
      rw [named] at below
      have outside := inserted stage member
      have first := positive stage member
      simp only [insertedIntoHistory, found, decide_true, Bool.true_and, Bool.and_eq_false_iff,
        decide_eq_false_iff_not, not_not] at outside
      omega

theorem stageAt_of_mem (sorted : Run.increasing stages) (member : stage ∈ stages)
    (named : stage.name = name) (numbered : stage.attempts = attempts) : stageAt stages name attempts = some stage := by
  cases found : stageAt stages name attempts with
  | none => exact absurd ⟨named, numbered⟩ (stageAt_none found member)
  | some other =>
    obtain ⟨listed, same, equal⟩ := stageAt_mem found
    rw [increasing_same sorted listed member ⟨same.trans named.symm, equal.trans numbered.symm⟩]

section saves

variable [ProfileSha] [Document ι]

theorem validate_stages {record : Record ι} (valid : validate record = .ok ()) :
    increasing record.stages ∧ ∀ stage ∈ record.stages, 0 < stage.attempts := by
  have stages := (validate_ok valid).2.1
  unfold validateStages at stages
  obtain ⟨_, each, sorted⟩ := bind_ok stages
  refine ⟨require_ok sorted, fun stage member => ?_⟩
  have checked := forM_ok.mp each stage member
  unfold validateStage at checked
  obtain ⟨_, checked⟩ := require_bind_ok checked
  exact (require_bind_ok checked).1

variable [DecidableEq ι] {current saved : Record ι}

theorem Saves.increasing (saves : Saves current saved) : increasing current.stages ∧ increasing saved.stages := by
  obtain ⟨next, h⟩ := saves
  obtain ⟨valid, _, _, _, nextValid, rfl⟩ := prepareSave_ok h
  exact ⟨(validate_stages valid).1, (validate_stages nextValid).1⟩

theorem Saves.extend (saves : Saves current saved) : StagesExtend current.stages saved.stages := by
  obtain ⟨next, h⟩ := saves
  obtain ⟨_, _, _, update, valid, rfl⟩ := prepareSave_ok h
  obtain ⟨sorted, positive⟩ := validate_stages valid
  show StagesExtend current.stages next.stages
  unfold validateUpdate at update
  split at update
  · obtain ⟨added, _, is⟩ := (validateExecuteCancellationCompensation_ok update).1.stages
    rw [is] at sorted ⊢
    refine .of_mem (fun _ member => mem_append_left _ member) fun stage member => ?_
    rcases mem_append.mp member with old | new
    · exact .inl old
    · cases mem_singleton.mp new
      exact .inr fun old listed named => (pairwise_append.mp sorted).2.2 old listed added (by simp) named.symm
  · obtain ⟨_, evidence, _⟩ := bind_ok update
    unfold validateKeptEvidence at evidence
    split at evidence
    · unfold validateTerminalUpdate at evidence
      -- the ten checks before the one of the stages
      iterate 10 obtain ⟨_, evidence⟩ := require_bind_ok evidence
      obtain ⟨others, evidence⟩ := require_bind_ok evidence
      split at evidence
      · rename_i unchanged
        have same : ∀ stage, stage ∈ current.stages ↔ stage ∈ next.stages := by
          intro stage
          by_cases named : stage.name = "finalize"
          · have listed := congrArg (stage ∈ ·) unchanged.2
            simpa [finalizeStages, named] using listed
          · have listed := congrArg (stage ∈ ·) others
            simpa [nonFinalizeStages, named] using listed
        exact .of_mem (fun stage member => (same stage).mp member) fun stage member => .inl ((same stage).mpr member)
      · obtain ⟨_, evidence⟩ := require_bind_ok evidence
        obtain ⟨_, evidence⟩ := require_bind_ok evidence
        exact validateMonotonicStages_extends evidence positive
    · unfold validateMonotonicEvidence at evidence
      iterate 8 obtain ⟨_, evidence⟩ := require_bind_ok evidence
      obtain ⟨_, _, monotonic⟩ := bind_ok evidence
      exact validateMonotonicStages_extends monotonic positive

def rewrites (records : List (Record ι)) (name : String) (attempts : Nat) : Nat :=
  (records.zip records.tail).countP fun pair => (stageAt pair.1.stages name attempts).any fun stage =>
    stageFinished stage && stageAt pair.2.stages name attempts ≠ some stage

theorem Saves.rewritten (saves : Saves current saved)
    (found : stageAt current.stages name attempts = some stage) (finished : stageFinished stage = true) :
    stageAt saved.stages name attempts = some stage ∨ stage.failure.any (·.retryable) = true ∧
      ∃ later, stageAt saved.stages name attempts = some later ∧ stageFinished later = true ∧
        later.failure.any (·.retryable) = false := by
  obtain ⟨listed, named, numbered⟩ := stageAt_mem found
  obtain ⟨later, inside, same, _, fixed⟩ := saves.extend.kept stage listed
  have here := stageAt_of_mem saves.increasing.2 inside (same.1.trans named) (same.2.trans numbered)
  rcases fixed finished with rfl | ⟨exhausts, _⟩
  · exact .inl here
  · obtain ⟨core, isOpen, ended⟩ := isRetryExhaustion_ok exhausts
    exact .inr ⟨isOpen, later, here, (congrArg stageFinished core :).trans finished, ended⟩

theorem rewrites_chain {first : Record ι} {rest : List (Record ι)}
    (chain : (first :: rest).IsChain Saves) : rewrites (first :: rest) name attempts ≤
      if (stageAt first.stages name attempts).any (fun stage => stageFinished stage &&
        !stage.failure.any (·.retryable)) then 0 else 1 := by
  induction rest generalizing first with
  | nil => exact Nat.zero_le _
  | cons second rest ih =>
    obtain ⟨saves, chain⟩ := List.isChain_cons_cons.mp chain
    have after := ih chain
    have split : rewrites (first :: second :: rest) name attempts = rewrites (second :: rest) name attempts +
        if (stageAt first.stages name attempts).any (fun stage => stageFinished stage &&
          stageAt second.stages name attempts ≠ some stage) then 1 else 0 := List.countP_cons
    rw [split]
    have once := after.trans (show (if _ then 0 else 1) ≤ 1 by split <;> omega)
    cases found : stageAt first.stages name attempts with
    | none => simpa using once
    | some stage =>
      cases finished : stageFinished stage with
      | false => simpa [finished] using once
      | true =>
        rcases saves.rewritten found finished with same | ⟨isOpen, later, here, ended, closed⟩
        · rw [same] at after
          simpa [same, finished] using after
        · rw [here] at after
          simp only [Option.any_some, ended, closed, Bool.not_false, Bool.and_true, if_true] at after
          simp only [Option.any_some, finished, isOpen, Bool.not_true, Bool.and_false, Bool.false_eq_true, if_false]
          have : ∀ b : Bool, (if b = true then 1 else 0) ≤ 1 := by decide
          exact (Nat.add_le_add after (this _)).trans (by omega)

/-- Along every sequence of accepted saves the stage history is only extended, and no finished attempt is
rewritten twice. -/
theorem stages_append_only {first : Record ι} {rest : List (Record ι)} (chain : (first :: rest).IsChain Saves) :
    (first :: rest).Pairwise (fun before after => StagesExtend before.stages after.stages) ∧
      ∀ name attempts, rewrites (first :: rest) name attempts ≤ 1 := by
  refine ⟨pairwise_chain StagesExtend.trans Saves.extend chain, fun name attempts => ?_⟩
  exact (rewrites_chain chain).trans (by split <;> omega)

end saves

section exhausted

attribute [local instance] ProfileSha.constant Document.withoutProfile

def exhaustedRest : List (Record Unit) :=
  let ended (failure : Failure) : StageResult :=
    { executeStage with status := .failed, finishedAt := 4, failure := some failure }
  let retryable := { executeFailure with retryable := true }
  let exhausted := { executeFailure with causeCode := "retries_exhausted" }
  match canceledRest with
  | resolving :: executing :: _ =>
    let failed := { executing with
      version := 4, stages := executing.stages.dropLast ++ [ended retryable], failure := some retryable,
      updatedAt := 4 }
    [resolving, executing, failed, { failed with
      version := 5, status := .failed, stages := executing.stages.dropLast ++ [ended exhausted]
      failure := some exhausted, updatedAt := 5 }]
  | _ => []

theorem stages_append_only_exhausted : rewrites (canceledFirst :: exhaustedRest) "execute" 1 = 1 ∧
    (canceledFirst :: exhaustedRest).Pairwise fun before after => StagesExtend before.stages after.stages := by
  have run : accepted (canceledFirst :: exhaustedRest) = true ∧
      rewrites (canceledFirst :: exhaustedRest) "execute" 1 = 1 := by decide +kernel
  exact ⟨run.2, (stages_append_only (accepted_chain run.1)).1⟩

end exhausted

end Paje.Run
