import Paje.Run.Stages
import Paje.CodeChange.System

/-!
What the phases ask. Every save of a phase is the result of its update on a record that it loaded,
and the publisher is called only with the request of an approved record whose publish attempt this
phase started.
-/

namespace Paje.CodeChange

open Text Run Process List

variable {question : Ask} {record : CodeRun} {mutation : Mutation} {ownership : Ownership} {name : String}

theorem latestOwnership_name : (latestOwnership record name).name = name := by
  unfold latestOwnership
  cases found : latestStage record.stages name with
  | none => rfl
  | some latest => exact (latestStage_some found).named

theorem ownershipFor_name (h : ownershipFor record name = .ok ownership) : ownership.name = name := by
  unfold ownershipFor at h
  split at h
  · rename_i latest found
    split at h
    · cases h
      exact (latestStage_some found).named
    · cases h
  · cases h

variable [digests : Digests] (service : Service)

def exchange (question : Ask) (answer : Answer question) : (question : Ask) × Answer question := ⟨question, answer⟩

/-- A phase loaded `current` and made `next` of it by an update. -/
structure Updates (trace : Exchanges) (runID : String) (mutation : Mutation) (current next : CodeRun) : Prop where
  loaded : exchange (.load runID) (.ok current) ∈ trace
  applied : ∃ readings, mutation.apply service readings current = .ok (some next)

/-- A record that the store answered to a save, or the one that was loaded for an update without effect. -/
def Held (trace : Exchanges) (runID : String) (record : CodeRun) : Prop :=
  exchange (.load runID) (.ok record) ∈ trace ∨ ∃ mutation current next,
    Updates service trace runID mutation current next ∧
    exchange (.save mutation next current.version) (.ok record) ∈ trace

def Mutation.Named : Mutation → Prop
  | .finishFailure ownership failure expected =>
    failure.stage = ownership.name ∧ (expected = some ownership.attempt ∨ expected = none)
  | .persistWorker ownership _ _ | .finishResolve ownership _ _ _ _ => ownership.name = "resolve"
  | .completeCheckpointed ownership | .failRecovered ownership _ | .retryNonStart ownership
  | .checkpointAgent ownership _ | .acquireWrite ownership _ | .checkpointArtifact ownership _
  | .finishExecute ownership _ | .lateCancellation ownership _ => ownership.name = "execute"
  | .persistApproval ownership _ _ => ownership.name = "approval"
  | .persistPublication ownership _ _ _ => ownership.name = "publish"
  | .finishFinalize ownership | .failFinalize ownership _ => ownership.name = "finalize"
  | _ => True

def Began (trace : Exchanges) (runID name : String) (status : Status) (started : CodeRun) : Prop :=
  started.terminal = false ∧ ∃ current next, Updates service trace runID (.begin name status) current next ∧
    exchange (.save (.begin name status) next current.version) (.ok started) ∈ trace

structure LoadsBound (trace : Exchanges) (runID : String) (bound : Bound) : Prop where
  loaded : exchange (.load runID) (.ok bound.record) ∈ trace
  input : validateRunBinding service bound.record = .ok bound.input
  artifact : bound.record.artifact = some bound.reference
  bundle : exchange (.loadArtifact bound.reference) (.ok bound.bundle) ∈ trace
  valid : validateArtifactBinding bound.record bound.bundle = .ok ()

/-- A call of the publisher is warranted by an approved record and an attempt that this phase started. -/
def Publishes (trace : Exchanges) (request : PublisherRequest) : Prop :=
  ∃ runID bound started, LoadsBound service trace runID bound ∧ bound.record.terminal = false ∧
    validatePersistedApproval bound.record
      (buildApprovalRequest bound.record bound.input bound.reference bound.bundle) = .ok () ∧
    bound.record.approval.any (·.approved) = true ∧ bound.input.publication.mode = .pullRequest ∧
    buildPublisherRequestWithBundle bound.record bound.input bound.bundle = .ok request ∧
    Began service trace runID "publish" .publishing started

def Allowed (trace : Exchanges) : Ask → Prop
  | .save mutation next expected => ∃ runID current, mutation.Named ∧
      Updates service trace runID mutation current next ∧ expected = current.version
  | .publish request => Publishes service trace request
  | _ => True

variable {service} {trace rest : Exchanges} {runID : String}

theorem Updates.mono {current next : CodeRun} (updates : Updates service trace runID mutation current next) :
    Updates service (trace ++ rest) runID mutation current next :=
  ⟨mem_append_left rest updates.loaded, updates.applied⟩

theorem Began.mono {status : Status} {started : CodeRun} (began : Began service trace runID name status started) :
    Began service (trace ++ rest) runID name status started := by
  obtain ⟨live, current, next, updates, saved⟩ := began
  exact ⟨live, current, next, updates.mono, mem_append_left rest saved⟩

theorem LoadsBound.mono {bound : Bound} (loads : LoadsBound service trace runID bound) :
    LoadsBound service (trace ++ rest) runID bound :=
  ⟨mem_append_left rest loads.loaded, loads.input, loads.artifact,
    mem_append_left rest loads.bundle, loads.valid⟩

/-- The questions that are neither a save, nor a publication, nor about the leases of secrets. -/
def Ask.plain : Ask → Bool
  | .save _ _ _ | .publish _ | .acquire _ _ _ _ | .revoke _ => false
  | _ => true

/-- What `ok` allows is enough for the phases that neither publish nor lease secrets. -/
class Permits (service : outParam Service) (ok : Exchanges → Ask → Prop) : Prop where
  plain {trace : Exchanges} {question : Ask} : question.plain = true → ok trace question
  save {trace : Exchanges} {runID : String} {mutation : Mutation} {current next : CodeRun} : mutation.Named →
    Updates service trace runID mutation current next → ok trace (.save mutation next current.version)

instance : Permits service (Allowed service) where
  plain {_ question} plain := by
    cases question
    all_goals first | exact trivial | cases plain
  save named updates := ⟨_, _, named, updates, rfl⟩

variable {ok : Exchanges → Ask → Prop}

theorem plain_meets [Permits service ok] (plain : question.plain = true) {post : Answer question → Exchanges → Prop}
    (continues : ∀ answer, post answer (trace ++ [exchange question answer])) : (ask question).Meets ok post trace :=
  ⟨Permits.plain plain, continues⟩

theorem plain_bind [Permits service ok] {α : Type} (plain : question.plain = true) {post : α → Exchanges → Prop}
    {f : Answer question → Phase α}
    (continues : ∀ answer, (f answer).Meets ok post (trace ++ [exchange question answer])) :
    (ask question >>= f).Meets ok post trace :=
  meets_bind.mpr (plain_meets plain continues)

variable [permits : Permits service ok]

section mutations

variable {σ : Type} {choose : σ → Readings → CodeRun → σ × Mutation} (holds : σ → Prop)

/-- What `mutateFrom` returns: the record that was loaded, or the one that was saved in its place. -/
def Mutated (service : Service) (trace : Exchanges) (runID : String) (mutations : Mutation → Prop) :
    Except Errors (CodeRun × Bool) → Prop
  | .error _ => True
  | .ok (record, false) => exchange (.load runID) (.ok record) ∈ trace
  | .ok (record, true) => ∃ mutation current next, mutations mutation ∧
      Updates service trace runID mutation current next ∧
      exchange (.save mutation next current.version) (.ok record) ∈ trace

theorem Mutated.held {mutations : Mutation → Prop} {saved : Bool}
    (mutated : Mutated service trace runID mutations (.ok (record, saved))) : Held service trace runID record := by
  cases saved with
  | false => exact .inl mutated
  | true =>
    obtain ⟨mutation, current, next, _, updates, answered⟩ := mutated
    exact .inr ⟨mutation, current, next, updates, answered⟩

theorem mutateFrom_meets (mutations : Mutation → Prop) (named : ∀ mutation, mutations mutation → mutation.Named)
    (chooses : ∀ state readings current, holds state → holds (choose state readings current).1 ∧
      mutations (choose state readings current).2) {tries : Nat} {last : Errors} {state : σ} (initial : holds state) :
    (mutateFrom service runID choose tries last state).Meets ok
      (fun result trace => holds result.1 ∧ Mutated service trace runID mutations result.2) trace := by
  induction tries generalizing last state trace with
  | zero => exact ⟨initial, trivial⟩
  | succ tries ih =>
    rw [mutateFrom]
    refine plain_bind rfl fun answer => ?_
    cases answer with
    | error errors => exact ⟨initial, trivial⟩
    | ok current =>
      refine plain_bind rfl fun readings => ?_
      obtain ⟨kept, allowed⟩ := chooses state readings current initial
      simp only [append_assoc, cons_append, nil_append]
      split
      · exact ⟨kept, trivial⟩
      · refine ⟨kept, ?_⟩
        simp [Mutated, exchange]
      · rename_i next applied
        have updates : Updates service
            (trace ++ [exchange (.load runID) (.ok current), exchange .readings readings]) runID
            (choose state readings current).2 current next := ⟨by simp, readings, applied⟩
        rw [meets_bind]
        refine ⟨permits.save (named _ allowed) updates, fun answer => ?_⟩
        cases answer with
        | ok saved =>
          exact ⟨kept, _, current, next, allowed, updates.mono, mem_append_right _ (mem_singleton.mpr rfl)⟩
        | error errors =>
          show Meets ok _ (if _ then _ else _) _
          split
          · exact ih kept
          · exact ⟨kept, trivial⟩

end mutations

theorem mutate_meets (named : mutation.Named) : (mutate service runID mutation).Meets ok
      (fun result trace => Mutated service trace runID (· = mutation) result) trace := by
  refine Meets.of_bind (mutateFrom_meets (fun _ => True) (· = mutation) ?_ ?_ trivial) ?_
  · rintro _ rfl
    exact named
  · exact fun _ _ _ _ => ⟨trivial, rfl⟩
  · exact fun result rest mutated => mutated.2

/-- What `mutateRecord` returns. -/
def Kept (service : Service) (trace : Exchanges) (runID : String) : Except Errors CodeRun → Prop
  | .error _ => True
  | .ok record => Held service trace runID record

theorem mutateRecord_meets (named : mutation.Named) : (mutateRecord service runID mutation).Meets ok
      (fun result trace => Kept service trace runID result) trace := by
  refine Meets.of_bind (mutate_meets named) fun result rest mutated => ?_
  cases result with
  | error errors => trivial
  | ok result => exact Mutated.held mutated

/-- What `beginAttempt` returns. -/
def Begins (service : Service) (trace : Exchanges) (runID name : String) (status : Status) :
    Except Errors (CodeRun × Bool) → Prop
  | .error _ => True
  | .ok (record, started) => Held service trace runID record ∧
      (started = true → Began service trace runID name status record)

theorem beginAttempt_meets {status : Status} : (beginAttempt service runID name status).Meets ok
      (fun result trace => Begins service trace runID name status result) trace := by
  refine Meets.of_bind (mutate_meets trivial) ?_
  rintro (errors | ⟨record, saved⟩) rest mutated
  · trivial
  · refine ⟨mutated.held, fun started => ?_⟩
    obtain ⟨rfl, live⟩ : saved = true ∧ record.terminal = false := by simpa using started
    obtain ⟨mutation, current, next, rfl, updates, answered⟩ := mutated
    exact ⟨live, current, next, updates, answered⟩

theorem failStage_meets {failure : Failure} {cause : Errors} {expected : Option Nat}
    (named : failure.stage = ownership.name) (attempt : expected = some ownership.attempt ∨ expected = none) :
    (failStage service runID ownership failure cause expected).Meets ok (fun _ _ => True) trace :=
  Meets.of_bind (mutateRecord_meets ⟨named, attempt⟩) fun _ _ _ => trivial

/-- What `loadBound` returns. -/
def Loads (service : Service) (trace : Exchanges) (runID : String) :
    Except (Option CodeRun × Errors) (CodeRun × Input) → Prop
  | .error _ => True
  | .ok (record, input) =>
    exchange (.load runID) (.ok record) ∈ trace ∧ validateRunBinding service record = .ok input

theorem loadBound_meets :
    (loadBound service runID).Meets ok (fun result trace => Loads service trace runID result) trace := by
  refine plain_bind rfl fun answer => ?_
  cases answer with
  | error errors => trivial
  | ok record =>
    dsimp only
    split
    · trivial
    · rename_i input valid
      exact ⟨by simp, valid⟩

end Paje.CodeChange
