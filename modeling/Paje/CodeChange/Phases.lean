import Paje.CodeChange.Leases

/-!
Every public call asks only what is allowed. A phase without an attempt of its own is described by what it returns;
publish also by what it has seen before it calls the publisher.
-/

namespace Paje.CodeChange

open Text Run Process

variable {request : ApprovalRequest} {canceled : Bool} {record : CodeRun} {cause errors : Errors}
  {failure : Failure} {input : Input} {mutation : Mutation} {outcome : Outcome} {ownership : Ownership}
  {id : ProfileID} {name : String}

section refusals

variable {α : Type} {x : Except Refusal α}

def Resolving : Except Refusal α → Prop
  | .error (failure, _) => failure.stage = "resolve"
  | .ok _ => True

theorem resolving_bind {β : Type} {f : α → Except Refusal β} (first : Resolving x)
    (second : ∀ value, Resolving (f value)) : Resolving (x >>= f) := by
  cases x with
  | error refusal => exact first
  | ok value => exact second value

theorem resolving_require {condition : Prop} [Decidable condition]
    (stage : failure.stage = "resolve") : Resolving (require condition (failure, cause)) := by
  unfold require
  split
  · trivial
  · exact stage

theorem resolving_relabel {ε : Type} {x : Except ε α} {f : ε → Refusal}
    (stage : ∀ error, (f error).1.stage = "resolve") : Resolving (relabel f x) := by
  cases x with
  | error error => exact stage error
  | ok value => trivial

theorem Resolving.map {β : Type} {f : α → β} (resolving : Resolving x) : Resolving (x.map f) := by
  cases x with
  | error refusal => exact resolving
  | ok value => trivial

end refusals

theorem stage_classifyWorkspaceFailure : (classifyWorkspaceFailure canceled errors).stage = "execute" := by
  unfold classifyWorkspaceFailure
  split <;> rfl

theorem running_named {latest : StageResult}
    (found : (latestStage record.stages name).filter (·.status = .running) = some latest) :
    (ownershipOf latest).name = name :=
  (latestStage_some (Option.filter_eq_some_iff.mp found).1).named

theorem stage_publishFailure : (publishFailure errors).stage = "publish" := by
  unfold publishFailure
  split <;> rfl

theorem checkRevision_resolving {answer : Except Errors Revision} :
    Resolving (checkRevision input canceled answer) := by
  unfold checkRevision
  split
  · split <;> rfl
  · exact resolving_bind (resolving_require rfl) fun _ => resolving_bind (resolving_require rfl) fun _ => trivial

theorem checkBinding_resolving {requirement : SecretRequirement}
    {answer : Except Errors SecretBinding} : Resolving (checkBinding id requirement canceled answer) := by
  unfold checkBinding
  split
  · split
    · rfl
    · split <;> rfl
  · exact resolving_bind (resolving_require rfl) fun _ => resolving_bind (resolving_require rfl) fun _ => trivial

variable [digests : Digests] (service : Service)

/-- The phase asks only what is allowed outside an attempt, and `post` holds of what it returns. -/
structure Gives {α : Type} (program : Phase α) (post : α → Prop) : Prop where
  meets : ∀ trace, program.Meets (Allowed service) (fun value _ => post value) trace

abbrev Minds {α : Type} (program : Phase α) : Prop := Gives service program fun _ => True

section rules

variable {service} {α β : Type} {program : Phase α} {f : α → Phase β} {post : α → Prop} {later : β → Prop}

theorem Gives.bind (first : Gives service program post) (second : ∀ value, post value → Gives service (f value) later) :
    Gives service (program >>= f) later :=
  ⟨fun trace => Meets.of_bind (first.meets trace) fun value rest holds => (second value holds).meets (trace ++ rest)⟩

theorem gives_pure {value : α} (holds : post value) : Gives service (pure value) post := ⟨fun _ => holds⟩

theorem minds_pure {value : α} : Minds service (pure value) := gives_pure trivial

theorem gives_ask {question : Ask} (plain : question.plain = true) : Minds service (ask question) :=
  ⟨fun _ => plain_meets plain fun _ => trivial⟩

theorem gives_ite {condition : Prop} [Decidable condition] {yes no : Phase α}
    (positive : condition → Gives service yes post) (negative : ¬ condition → Gives service no post) :
    Gives service (if condition then yes else no) post := by
  split
  · rename_i met
    exact positive met
  · rename_i unmet
    exact negative unmet

variable {runID : String}

theorem minds_mutateRecord (named : mutation.Named) :
    Minds service (mutateRecord service runID mutation) :=
  ⟨fun _ => (mutateRecord_meets named).mono fun _ _ _ => trivial⟩

theorem minds_mutate (named : mutation.Named) : Minds service (mutate service runID mutation) :=
  ⟨fun _ => (mutate_meets named).mono fun _ _ _ => trivial⟩

theorem minds_beginAttempt {status : Status} :
    Minds service (beginAttempt service runID name status) :=
  ⟨fun _ => beginAttempt_meets.mono fun _ _ _ => trivial⟩

theorem minds_failAttempt
    (named : failure.stage = ownership.name) : Minds service (failAttempt service runID ownership failure cause) :=
  ⟨fun _ => failStage_meets named (.inl rfl)⟩

theorem minds_loadBound : Minds service (loadBound service runID) :=
  ⟨fun _ => loadBound_meets.mono fun _ _ _ => trivial⟩

end rules

section resolve

variable {service} {α : Type} {runID : String}

theorem checkProfile_resolving {answer : Except Errors Profile} :
    Resolving (checkProfile service id canceled answer) := by
  unfold checkProfile
  split
  · split
    · rfl
    · split <;> rfl
  · exact resolving_bind (resolving_require rfl) fun _ => resolving_bind (resolving_require rfl) fun _ =>
      resolving_bind (resolving_relabel fun _ => rfl) fun _ => resolving_bind (resolving_relabel fun _ => rfl)
        fun _ => trivial

theorem resolveBindings_gives {requirements : List SecretRequirement} :
    Gives service (resolveBindings id requirements) Resolving := by
  induction requirements with
  | nil => exact gives_pure trivial
  | cons requirement requirements ih =>
    refine (gives_ask rfl).bind fun answer _ => (gives_ask rfl).bind fun canceled _ => ?_
    have resolving : Resolving (checkBinding id requirement canceled answer) := checkBinding_resolving
    split
    · rename_i refusal same
      rw [same] at resolving
      exact gives_pure resolving
    · exact ih.bind fun rest resolving => gives_pure resolving.map

theorem selectResolvedWorker_gives : Gives service (selectResolvedWorker service record input) Resolving := by
  unfold selectResolvedWorker
  split
  · exact gives_pure trivial
  · refine (gives_ask rfl).bind fun answer _ => (gives_ask rfl).bind fun canceled _ => ?_
    have resolving : Resolving (checkProfile service input.workerProfile canceled answer) := checkProfile_resolving
    split
    · rename_i refusal same
      rw [same] at resolving
      exact gives_pure resolving
    · exact resolveBindings_gives.bind fun rest resolving => gives_pure resolving.map

theorem scopedMemory_gives : Gives service (scopedMemory input) Resolving := by
  unfold scopedMemory
  refine gives_ite (fun _ => gives_pure trivial) fun _ => ?_
  refine (gives_ask rfl).bind fun answer _ => ?_
  cases answer with
  | ok memories => exact gives_pure trivial
  | error errors =>
    refine (gives_ask rfl).bind fun canceled _ => gives_pure ?_
    show Failure.stage (if _ then _ else _) = _
    split <;> rfl

theorem completeResolve_minds (named : ownership.name = "resolve")
    {sha : String} {profile : Profile} {bindings : Nat} :
    Minds service (completeResolve service runID ownership input sha profile bindings) := by
  unfold completeResolve
  refine scopedMemory_gives.bind ?_
  rintro (⟨failure, cause⟩ | memories) resolving
  · exact minds_failAttempt (Eq.trans resolving named.symm)
  · have proper : Mutation.Named (.finishResolve ownership sha memories profile bindings) := named
    refine (minds_mutateRecord proper).bind fun result _ => ?_
    cases result with
    | error errors => exact minds_pure
    | ok record => exact gives_ite (fun _ => minds_pure) fun _ => minds_pure

theorem persistWorker_minds (named : ownership.name = "resolve")
    {sha : String} {profile : Profile} {bindings : List BindingRef} :
    Minds service (persistWorker service runID ownership record input sha profile bindings) := by
  unfold persistWorker
  split
  · exact completeResolve_minds named
  · have proper : Mutation.Named (.persistWorker ownership profile bindings) := named
    refine (minds_mutateRecord proper).bind fun result _ => ?_
    cases result with
    | error errors => exact minds_pure
    | ok record =>
      dsimp only
      split
      · exact minds_pure
      · exact completeResolve_minds named

theorem resolveReserved_minds : Minds service (resolveReserved service runID input) := by
  unfold resolveReserved
  refine minds_beginAttempt.bind fun result _ => ?_
  rcases result with errors | ⟨record, started⟩
  · exact minds_pure
  · refine gives_ite (fun _ => gives_ite (fun _ => minds_pure) fun _ => minds_pure) fun _ => ?_
    refine gives_ite (fun _ => minds_pure) fun _ => ?_
    refine (gives_ask rfl).bind fun answer _ => (gives_ask rfl).bind fun canceled _ => ?_
    have resolving : Resolving (checkRevision input canceled answer) := checkRevision_resolving
    split
    · rename_i failure cause same
      rw [same] at resolving
      exact minds_failAttempt (Eq.trans resolving latestOwnership_name.symm)
    · refine selectResolvedWorker_gives.bind ?_
      rintro (⟨failure, cause⟩ | ⟨profile, bindings⟩) resolving
      · exact minds_failAttempt (Eq.trans resolving latestOwnership_name.symm)
      · exact persistWorker_minds latestOwnership_name

theorem resolve_minds {document : Input} {memoryLimitSet requireOwner : Bool} :
    Minds service (resolve service runID document memoryLimitSet requireOwner) := by
  unfold resolve
  split
  · exact minds_pure
  · refine (gives_ask rfl).bind fun createdAt _ => (gives_ask rfl).bind fun answer _ => ?_
    rcases answer with error | ⟨record, created⟩
    · exact minds_pure
    · refine gives_ite (fun _ => minds_pure) fun _ => ?_
      exact gives_ite (fun _ => minds_pure) fun _ => resolveReserved_minds

theorem resolveWithRunID_minds {document : Input} {memoryLimitSet : Bool} :
    Minds service (resolveWithRunID service runID document memoryLimitSet) := by
  unfold resolveWithRunID
  exact gives_ite (fun _ => minds_pure) fun _ => resolve_minds

end resolve

section execute

variable {service} {runID : String} {trace : Exchanges}

theorem failRecovered_minds (named : ownership.name = "execute") :
    Minds service (failRecovered service runID ownership failure cause) := by
  unfold failRecovered
  have proper : Mutation.Named (.failRecovered ownership failure) := named
  refine (minds_mutateRecord proper).bind fun result _ => ?_
  cases result with
  | error errors => exact minds_pure
  | ok record => exact minds_pure

theorem checkExecuteIdentity_minds : Minds service (checkExecuteIdentity service runID ownership) := by
  unfold checkExecuteIdentity
  refine minds_loadBound.bind fun result _ => ?_
  rcases result with ⟨record, errors⟩ | ⟨record, input⟩
  · exact minds_pure
  · exact minds_pure

theorem compensateAmbiguous_minds (named : ownership.name = "execute") :
    Minds service (compensateAmbiguous service runID ownership cause) := by
  unfold compensateAmbiguous
  refine checkExecuteIdentity_minds.bind fun _ _ => gives_ite (fun _ => minds_pure) fun _ => ?_
  refine (gives_ask rfl).bind fun cancelErrors _ => checkExecuteIdentity_minds.bind fun _ _ => ?_
  refine (gives_ask rfl).bind fun destroyErrors _ => checkExecuteIdentity_minds.bind fun _ _ => ?_
  refine gives_ite (fun _ => minds_pure) fun _ => ?_
  exact gives_ite (fun _ => failRecovered_minds named) fun _ => failRecovered_minds named

theorem beginExecuteStage_minds {tries : Nat} : Minds service (beginExecuteStage service runID tries) := by
  induction tries with
  | zero => exact minds_pure
  | succ tries ih =>
    rw [beginExecuteStage]
    refine minds_loadBound.bind fun result _ => ?_
    rcases result with error | ⟨record, input⟩
    · exact minds_pure
    refine gives_ite (fun _ => minds_pure) fun _ => ?_
    split
    · exact minds_beginAttempt.bind fun _ _ => minds_pure
    rename_i latest found
    have named : (ownershipOf latest).name = "execute" := (latestStage_some found).named
    refine gives_ite (fun _ => minds_beginAttempt.bind fun _ _ => minds_pure) fun _ => ?_
    refine (gives_ask rfl).bind fun readings _ => gives_ite (fun _ => minds_pure) fun _ => ?_
    refine gives_ite (fun _ => ?_) fun _ => ?_
    · have proper : Mutation.Named (.completeCheckpointed (ownershipOf latest)) := named
      exact (minds_mutateRecord proper).bind fun _ _ => minds_pure
    split
    · exact minds_pure
    split
    · exact failRecovered_minds named
    refine (gives_ask rfl).bind fun answer _ => checkExecuteIdentity_minds.bind fun _ _ => ?_
    refine gives_ite (fun _ => minds_pure) fun _ => gives_ite (fun _ => ih) fun _ => ?_
    refine gives_ite (fun _ => compensateAmbiguous_minds named) fun _ => (gives_ask rfl).bind fun destroyErrors _ => ?_
    refine gives_ite (fun _ => failRecovered_minds named) fun _ => ?_
    have proper : Mutation.Named (.retryNonStart (ownershipOf latest)) := named
    exact (minds_mutate proper).bind fun _ _ => minds_pure

theorem finishOwnershipLost_minds {cleanup : Errors} : Minds service (finishOwnershipLost runID outcome cleanup) := by
  unfold finishOwnershipLost
  refine (gives_ask rfl).bind fun loaded _ => ?_
  simp only
  split
  · exact minds_pure
  · exact minds_pure

theorem reportOutcome_minds {record : Option CodeRun} :
    Minds service (reportOutcome runID outcome record errors) := by
  unfold reportOutcome
  refine gives_ite (fun _ => finishOwnershipLost_minds) fun _ => ?_
  split
  · exact minds_pure
  · exact minds_pure

theorem cancelLate_minds (named : ownership.name = "execute") {persisted : Option Failure} {record : Option CodeRun} :
    Minds service (cancelLate service runID ownership persisted record errors) := by
  unfold cancelLate
  have proper : Mutation.Named (.lateCancellation ownership persisted) := named
  refine (minds_mutateRecord proper).bind fun result _ => ?_
  cases result with
  | ok canceled => exact minds_pure
  | error lateErrors =>
    refine gives_ite (fun _ => minds_pure) fun _ => (gives_ask rfl).bind fun answer _ => ?_
    cases answer with
    | ok loaded => exact minds_pure
    | error loadErrors => exact minds_pure

theorem saveOutcome_minds (named : ownership.name = "execute") :
    Minds service (saveOutcome service runID ownership outcome) := by
  unfold saveOutcome
  have saves : ∀ state, Minds service (mutateFrom service runID (chooseOutcome ownership) maxCASAttempts [] state) := by
    refine fun state => ⟨fun trace => ?_⟩
    refine (mutateFrom_meets (fun _ => True) (fun mutation => ∃ outcome, mutation = .finishExecute ownership outcome)
      ?_ (fun _ _ _ _ => ⟨trivial, _, rfl⟩) trivial).mono fun _ _ _ => trivial
    rintro _ ⟨outcome, rfl⟩
    exact named
  refine (gives_ask rfl).bind fun canceled _ => (saves _).bind fun _ _ => (gives_ask rfl).bind fun again _ => ?_
  refine gives_ite (fun _ => ?_) fun _ => reportOutcome_minds
  exact (cancelLate_minds named).bind fun _ _ => reportOutcome_minds

theorem loadExecutable_minds : Minds service (loadExecutable service runID) := by
  unfold loadExecutable
  refine minds_loadBound.bind fun result _ => ?_
  rcases result with error | ⟨record, input⟩
  · exact minds_pure
  · refine gives_ite (fun _ => minds_pure) fun _ => ?_
    split
    · exact minds_pure
    · exact minds_pure

theorem executeIn_minds {workspace : String} (named : ownership.name = "execute") :
    Minds service (executeIn service runID record input ownership workspace) := by
  unfold executeIn
  have attempts : Minds service ((executePrepared service record input workspace ownership).start { workspace }) :=
    ⟨fun trace => Meets.mono (executePrepared_holds named) fun _ _ _ => trivial⟩
  refine attempts.bind fun ended _ => ?_
  refine (gives_ask rfl).bind fun canceled _ => (gives_ask rfl).bind fun cleanup _ => ?_
  refine (gives_ask rfl).bind fun again _ => ?_
  exact gives_ite (fun _ => finishOwnershipLost_minds) fun _ => saveOutcome_minds named

theorem executeStarted_minds : Minds service (executeStarted service runID record input) := by
  unfold executeStarted
  split
  · exact minds_pure
  · rename_i ownership owned
    have named := ownershipFor_name owned
    refine (gives_ask rfl).bind fun answer _ => ?_
    cases answer with
    | error errors =>
      refine (gives_ask rfl).bind fun canceled _ => ⟨fun _ => failStage_meets ?_ (.inr rfl)⟩
      rw [named]
      exact stage_classifyWorkspaceFailure
    | ok workspace => exact executeIn_minds named

theorem execute_minds : Minds service (execute service runID) := by
  unfold execute
  refine loadExecutable_minds.bind fun result _ => ?_
  rcases result with error | ⟨loaded, input⟩
  · exact minds_pure
  refine gives_ite (fun _ => minds_pure) fun _ => beginExecuteStage_minds.bind fun result _ => ?_
  rcases result with error | ⟨record, started⟩
  · exact minds_pure
  refine gives_ite (fun _ => ?_) fun _ => gives_ite (fun _ => executeStarted_minds) fun _ => ?_
  · split
    · exact minds_pure
    · exact minds_pure
  · split
    · exact minds_pure
    · exact minds_pure

end execute

section publish

variable {service} {runID : String} {trace : Exchanges}

/-- What `loadArtifactState` returns. -/
def Binds (service : Service) (trace : Exchanges) (runID : String) : Except (Option CodeRun × Errors) Bound → Prop
  | .error _ => True
  | .ok bound => LoadsBound service trace runID bound

theorem loadArtifactState_meets {missing : String} : (loadArtifactState service missing runID).Meets (Allowed service)
      (fun result trace => Binds service trace runID result) trace := by
  unfold loadArtifactState
  refine Meets.of_bind loadBound_meets fun result rest loads => ?_
  rcases result with error | ⟨record, input⟩
  · trivial
  obtain ⟨loaded, valid⟩ := loads
  dsimp only
  split
  · trivial
  · rename_i reference present
    refine plain_bind rfl fun answer => ?_
    cases answer with
    | error errors => trivial
    | ok bundle =>
      dsimp only
      split
      · trivial
      · rename_i bound
        exact ⟨List.mem_append_left _ loaded, valid, present, List.mem_append_right _ (List.mem_singleton.mpr rfl),
          bound⟩

theorem skip_minds : Minds service (skip service record name) :=
  Gives.bind (minds_mutateRecord trivial) fun _ _ => minds_pure

theorem recordApprovalFailure_minds
    (named : failure.stage = "approval") : Minds service (recordApprovalFailure service record failure cause) := by
  unfold recordApprovalFailure
  refine gives_ite (fun _ => minds_pure) fun _ => ?_
  split
  · rename_i latest found
    exact minds_failAttempt (named.trans (running_named found).symm)
  · refine minds_beginAttempt.bind fun result _ => ?_
    rcases result with errors | ⟨started, _ | _⟩
    · exact minds_pure
    · exact minds_pure
    · exact minds_failAttempt (named.trans latestOwnership_name.symm)

theorem compensateCancellation_minds : Minds service (compensateCancellation service runID ownership cause) := by
  unfold compensateCancellation
  refine Gives.bind (minds_mutateRecord trivial) fun result _ => ?_
  cases result with
  | ok record => exact minds_pure
  | error errors => exact minds_pure

theorem closeAttempt_minds {result : Except Errors CodeRun} :
    Minds service (closeAttempt service runID ownership result) := by
  unfold closeAttempt
  refine (gives_ask rfl).bind fun canceled _ => ?_
  exact gives_ite (fun _ => compensateCancellation_minds) fun _ => minds_pure

theorem recordDecision_minds (named : ownership.name = "approval")
    {answer : Except Errors Decision} : Minds service (recordDecision service runID ownership request answer) := by
  unfold recordDecision
  refine (gives_ask rfl).bind fun canceled _ => ?_
  refine gives_ite (fun _ => minds_failAttempt (by rw [named]; rfl)) fun _ => ?_
  cases answer with
  | error errors => exact minds_failAttempt named.symm
  | ok decision =>
    dsimp only
    split
    · exact minds_failAttempt named.symm
    · have proper : Mutation.Named (.persistApproval ownership request decision) := named
      exact (minds_mutateRecord proper).bind fun _ _ => closeAttempt_minds

theorem approved_minds : Minds service (approved service record request) := by
  unfold approved
  split
  · exact recordApprovalFailure_minds rfl
  · exact minds_pure

theorem approvalStarted_minds {gated : Bool} :
    Minds service (approvalStarted service runID gated record request) := by
  unfold approvalStarted
  split
  · exact minds_pure
  · rename_i ownership owned
    have named := ownershipFor_name owned
    refine gives_ite (fun _ => minds_failAttempt named.symm) fun _ => ?_
    exact (gives_ask rfl).bind fun _ _ => recordDecision_minds named

theorem minds_loadArtifactState {missing : String} : Minds service (loadArtifactState service missing runID) :=
  ⟨fun _ => loadArtifactState_meets.mono fun _ _ _ => trivial⟩

theorem approval_minds {gated : Bool} : Minds service (approval service gated runID) := by
  unfold approval
  refine minds_loadArtifactState.bind fun result _ => ?_
  rcases result with error | ⟨record, input, reference, bundle⟩
  · exact minds_pure
  refine gives_ite (fun _ => minds_pure) fun _ => gives_ite (fun _ => skip_minds) fun _ => ?_
  simp only
  split
  · exact recordApprovalFailure_minds rfl
  refine gives_ite (fun _ => approved_minds) fun _ => minds_beginAttempt.bind fun result _ => ?_
  rcases result with errors | ⟨record, started⟩
  · exact minds_pure
  refine gives_ite (fun _ => minds_pure) fun _ => gives_ite (fun _ => approvalStarted_minds) fun _ => ?_
  exact gives_ite (fun _ => approved_minds) fun _ => minds_pure

theorem recordPublishFailure_minds
    (named : failure.stage = "publish") : Minds service (recordPublishFailure service record failure cause) := by
  unfold recordPublishFailure
  refine gives_ite (fun _ => minds_pure) fun _ => ?_
  split
  · rename_i latest found
    exact minds_failAttempt (named.trans (running_named found).symm)
  · refine gives_ite (fun _ => Gives.bind (minds_mutateRecord trivial) fun result _ => ?_) fun _ =>
      minds_beginAttempt.bind fun result _ => ?_
    · cases result with
      | ok failed => exact minds_pure
      | error errors => exact minds_pure
    · rcases result with errors | ⟨started, _ | _⟩
      · exact minds_pure
      · exact minds_pure
      · exact minds_failAttempt (named.trans latestOwnership_name.symm)

theorem recordMissingApproval_minds : Minds service (recordMissingApproval service record cause) := by
  unfold recordMissingApproval
  split
  · split <;> exact minds_pure
  · refine Gives.bind (minds_mutateRecord trivial) fun result _ => ?_
    cases result with
    | ok failed => exact minds_pure
    | error errors => exact minds_pure

variable {request : PublisherRequest}

theorem recordPublication_minds (named : ownership.name = "publish") {bound : Bound}
    {answer : Except Errors Publication} :
    Minds service (recordPublication service runID ownership bound request answer) := by
  unfold recordPublication
  refine (gives_ask rfl).bind fun canceled _ => ?_
  refine gives_ite (fun _ => minds_failAttempt (by rw [named]; rfl)) fun _ => ?_
  cases answer with
  | error errors => exact minds_failAttempt (stage_publishFailure.trans named.symm)
  | ok result =>
    dsimp only
    split
    · exact minds_failAttempt named.symm
    · have proper : Mutation.Named (.persistPublication ownership request bound.bundle result) := named
      exact (minds_mutateRecord proper).bind fun _ _ => closeAttempt_minds

theorem published_minds : Minds service (published service record input request) := by
  unfold published
  split
  · exact recordPublishFailure_minds rfl
  · exact minds_pure

theorem publishUnapproved_minds {message : String} : Minds service (publishUnapproved service record message) := by
  unfold publishUnapproved
  exact gives_ite (fun _ => recordMissingApproval_minds) fun _ => minds_pure

theorem publishApproved_meets {bound : Bound} (loads : LoadsBound service trace runID bound)
    (live : bound.record.terminal = false) (valid : validatePersistedApproval bound.record
      (buildApprovalRequest bound.record bound.input bound.reference bound.bundle) = .ok ())
    (agreed : bound.record.approval.any (·.approved) = true) (mode : bound.input.publication.mode = .pullRequest)
    (built : buildPublisherRequestWithBundle bound.record bound.input bound.bundle = .ok request) :
    (publishApproved service runID bound request).Meets (Allowed service) (fun _ _ => True) trace := by
  unfold publishApproved
  split
  · exact published_minds.meets _
  refine Meets.of_bind beginAttempt_meets fun result rest begins => ?_
  rcases result with errors | ⟨record, started⟩
  · trivial
  show Meets (Allowed service) _ (if _ then _ else _) _
  split
  · trivial
  split
  · rename_i new
    unfold publishStarted
    split
    · trivial
    · rename_i ownership owned
      rw [meets_bind]
      refine ⟨?_, fun answer => (recordPublication_minds (ownershipFor_name owned)).meets _⟩
      exact ⟨runID, bound, record, loads.mono, live, valid, agreed, mode, built, begins.2 new⟩
  split
  · exact published_minds.meets _
  · trivial

theorem publish_meets : (publish service runID).Meets (Allowed service) (fun _ _ => True) trace := by
  unfold publish
  refine Meets.of_bind loadArtifactState_meets fun result rest binds => ?_
  rcases result with error | bound
  · trivial
  show Meets (Allowed service) _ (if _ then _ else _) _
  split
  · trivial
  rename_i live
  split
  · exact skip_minds.meets _
  rename_i mode
  split
  · exact publishUnapproved_minds.meets _
  rename_i valid
  split
  · exact publishUnapproved_minds.meets _
  rename_i agreed
  split
  · exact (recordPublishFailure_minds rfl).meets _
  rename_i request built
  refine publishApproved_meets binds (by simpa using live) valid (by simpa using agreed) ?_ built
  cases chosen : bound.input.publication.mode with
  | artifact => exact absurd chosen mode
  | pullRequest => rfl

end publish

section finalize

variable {service} {runID : String} {trace : Exchanges}

theorem exhaustFinalizeStage_minds : Minds service (exhaustFinalizeStage service runID) := by
  unfold exhaustFinalizeStage
  refine minds_loadBound.bind fun result _ => ?_
  rcases result with error | ⟨record, input⟩
  · exact minds_pure
  refine gives_ite (fun _ => minds_pure) fun _ => gives_ite (fun _ => minds_pure) fun _ => ?_
  exact Gives.bind (minds_mutateRecord trivial) fun _ _ => minds_pure

theorem exhaust_minds {stage : String} : Minds service (exhaust service runID stage) := by
  unfold exhaust
  refine gives_ite (fun _ => exhaustFinalizeStage_minds) fun _ => minds_loadBound.bind fun result _ => ?_
  rcases result with error | ⟨record, input⟩
  · exact minds_pure
  exact gives_ite (fun _ => minds_pure) fun _ => Gives.bind (minds_mutate trivial) fun _ _ => minds_pure

theorem askEvidence_minds : Minds service (askEvidence service record input) := by
  unfold askEvidence
  split
  · exact (gives_ask rfl).bind fun _ _ => minds_pure
  · exact minds_pure

theorem loadResult_minds : Minds service (loadResult record) := by
  unfold loadResult
  split
  · exact minds_pure
  · refine (gives_ask rfl).bind fun answer _ => ?_
    cases answer with
    | error errors => exact minds_pure
    | ok bundle =>
      dsimp only
      split <;> exact minds_pure

theorem resultFromRecord_minds {record : Option CodeRun} : Minds service (resultFromRecord service record) := by
  unfold resultFromRecord
  split
  · exact minds_pure
  · split
    · exact minds_pure
    · refine askEvidence_minds.bind fun result _ => ?_
      cases result with
      | error errors => exact minds_pure
      | ok _ => exact loadResult_minds

theorem resultAfter_minds {record : Option CodeRun} : Minds service (resultAfter service record errors) :=
  resultFromRecord_minds.bind fun _ _ => minds_pure

theorem reloadResult_minds {updated : Except Errors CodeRun} :
    Minds service (reloadResult service runID updated errors) := by
  unfold reloadResult
  split
  · exact resultAfter_minds
  · refine (gives_ask rfl).bind fun answer _ => ?_
    cases answer with
    | ok record => exact resultAfter_minds
    | error _ => exact resultAfter_minds

theorem saveOutcomeMemory_minds : Minds service (saveOutcomeMemory record input) := by
  unfold saveOutcomeMemory
  refine (gives_ask rfl).bind fun answer _ => ?_
  cases answer with
  | error errors => exact minds_pure
  | ok memories => exact gives_ite (fun _ => minds_pure) fun _ => gives_ask rfl

theorem failMemory_minds (named : ownership.name = "finalize") :
    Minds service (failMemory service runID ownership errors) := by
  unfold failMemory
  refine (gives_ask rfl).bind fun canceled _ => ?_
  exact Gives.bind (minds_mutateRecord named) fun _ _ => reloadResult_minds

theorem finalizeOwned_minds (named : ownership.name = "finalize") :
    Minds service (finalizeOwned service runID ownership record input) := by
  unfold finalizeOwned
  refine askEvidence_minds.bind fun result _ => ?_
  cases result with
  | error errors => exact resultAfter_minds
  | ok _ =>
    refine saveOutcomeMemory_minds.bind fun errors _ => ?_
    refine gives_ite (fun _ => failMemory_minds named) fun _ => ?_
    exact Gives.bind (minds_mutateRecord named) fun _ _ => reloadResult_minds

theorem finishSaved_minds : Minds service (finishSaved service runID record) := by
  unfold finishSaved
  exact Gives.bind (minds_mutateRecord trivial) fun _ _ => reloadResult_minds

theorem finalize_minds : Minds service (finalize service runID) := by
  unfold finalize
  refine (gives_ask rfl).bind fun canceled _ => gives_ite (fun _ => minds_pure) fun _ => ?_
  refine minds_loadBound.bind fun result _ => ?_
  rcases result with ⟨_ | record, errors⟩ | ⟨record, input⟩
  · exact minds_pure
  · exact resultAfter_minds
  refine gives_ite (fun _ => resultFromRecord_minds) fun _ => gives_ite (fun _ => finishSaved_minds) fun _ => ?_
  refine Gives.bind (minds_mutateRecord trivial) fun result _ => ?_
  cases result with
  | error errors => exact reloadResult_minds
  | ok record =>
    refine gives_ite (fun _ => finishSaved_minds) fun _ => gives_ite (fun _ => resultFromRecord_minds) fun _ => ?_
    exact finalizeOwned_minds latestOwnership_name

end finalize

theorem Call.program_meets (call : Call) : (call.program service).Meets (Allowed service) (fun _ _ => True) [] := by
  have ends : ∀ {α : Type} {program : Phase α}, program.Meets (Allowed service) (fun _ _ => True) [] →
      (do let _ ← program : Phase Unit).Meets (Allowed service) (fun _ _ => True) [] :=
    fun meets => Meets.of_bind meets fun _ _ _ => trivial
  cases call with
  | resolve runID document memoryLimitSet => exact ends (resolve_minds.meets _)
  | resolveWithRunID runID document memoryLimitSet => exact ends (resolveWithRunID_minds.meets _)
  | execute runID => exact ends (execute_minds.meets _)
  | approval runID gated => exact ends (approval_minds.meets _)
  | publish runID => exact ends publish_meets
  | finalize runID => exact ends (finalize_minds.meets _)
  | exhaust runID stage => exact ends (exhaust_minds.meets _)

end Paje.CodeChange
