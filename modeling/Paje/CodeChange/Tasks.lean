import Paje.CodeChange.Conduct

/-!
The tasks of an attempt ask only what is allowed: every save that an attempt makes on its way is an update for its own
stage.
-/

namespace Paje.CodeChange

open Text Run Process

variable {errors : Errors} {modules : List String} {change : Outcome → Outcome} {workspace : String}

/-- From every outcome of `kept` the task asks only what `ok` allows, and comes to an outcome of `kept`, or stops with
one of `halted`. -/
structure Behaves (ok : Exchanges → Ask → Prop) (kept halted : Outcome → Prop) {α : Type} (task : Attempting α) :
    Prop where
  holds : ∀ outcome trace, kept outcome →
    task.Holds ok (fun _ outcome _ => kept outcome) (fun outcome _ => halted outcome) outcome trace

def Any (_ : Outcome) : Prop := True

variable {ok : Exchanges → Ask → Prop} {kept halted : Outcome → Prop}

section rules

variable {α β : Type} {task yes no : Attempting α} {f : α → Attempting β}

theorem Behaves.bind (first : Behaves ok kept halted task) (second : ∀ value, Behaves ok kept halted (f value)) :
    Behaves ok kept halted (task >>= f) := by
  refine ⟨fun outcome trace starts => (first.holds outcome trace starts).of_bind fun value after rest kept => ?_⟩
  exact (second value).holds after rest kept

theorem behaves_pure {value : α} : Behaves ok kept halted (pure value) := ⟨fun _ _ => id⟩

theorem behaves_current : Behaves ok kept halted (Task.current : Attempting Outcome) := ⟨fun _ _ => id⟩

theorem behaves_change (keeps : ∀ outcome, kept outcome → kept (change outcome)) :
    Behaves ok kept halted (Task.update change) := ⟨fun outcome _ => keeps outcome⟩

theorem behaves_update : Behaves ok Any halted (Task.update change) := behaves_change fun _ => id

theorem behaves_stop : Behaves ok Any Any (Task.stop change : Attempting α) :=
  ⟨fun _ _ => id⟩

theorem behaves_ite {condition : Prop} [Decidable condition] (positive : Behaves ok kept halted yes)
    (negative : Behaves ok kept halted no) : Behaves ok kept halted (if condition then yes else no) := by
  split
  · exact positive
  · exact negative

theorem behaves_demand {condition : Prop} [Decidable condition] :
    Behaves ok Any Any (Task.demand condition change) := behaves_ite behaves_pure behaves_stop

theorem behaves_expect {ε : Type} {result : Except ε α} {change : ε → Outcome → Outcome} :
    Behaves ok Any Any (Task.expect result change) := by
  cases result with
  | ok value => exact behaves_pure
  | error error => exact behaves_stop

theorem behaves_call {program : Phase α} {post : α → Exchanges → Prop}
    (meets : ∀ trace, program.Meets ok post trace) : Behaves ok kept halted (Task.call program) :=
  ⟨fun _ trace starts => Task.holds_call.mpr ((meets trace).mono fun _ _ _ => starts)⟩

theorem stopIfLost_behaves : Behaves ok Any Any stopIfLost := behaves_current.bind fun _ => behaves_demand

theorem persisted_behaves {result : Except Errors CodeRun} {failure : Failure} :
    Behaves ok Any Any (persisted result failure) := by
  cases result with
  | ok record => exact behaves_pure
  | error errors => exact behaves_stop

end rules

variable [digests : Digests] {service : Service} {input : Input}

/-- What the loss of the stage and the evidence of an attempt do not end. -/
class Lasting (kept : Outcome → Prop) : Prop where
  lost {outcome : Outcome} {record : Option CodeRun} {cause : Errors} : kept outcome →
    kept (outcome.withOwnershipLost record cause)
  marked {outcome : Outcome} {attempt : AttemptID} {evidence : AttemptEvidence → AttemptEvidence} : kept outcome →
    kept (outcome.markAttempt attempt evidence)

instance : Lasting Any := ⟨id, id⟩

theorem behaves_consult [Permits service ok] {question : Ask} (plain : question.plain = true) :
    Behaves ok kept halted (consult question) :=
  ⟨fun _ _ starts => ⟨Permits.plain plain, fun _ => starts⟩⟩

theorem openAttempt_holds {record : CodeRun} {ownership : Ownership}
    (outcome : Outcome) (trace : Exchanges) : (openAttempt service record input workspace ownership).Holds
      ok (fun job _ _ => job.fence.ownership = ownership) (fun _ _ => True) outcome trace := by
  unfold openAttempt
  iterate 5
    rw [Task.holds_bind, Task.holds_expect]
    refine ⟨fun _ _ => ?_, fun _ _ => trivial⟩
  exact rfl

variable [permits : Permits service ok] [lasting : Lasting kept]

section fence

variable {fence : Fence} {attempt : AttemptID} {request : SandboxRequest}
  {sequence : Nat} {runner : Runner}

theorem checkExecuteOwnership_meets {trace : Exchanges} :
    (checkExecuteOwnership service fence).Meets ok (fun _ _ => True) trace := by
  refine Meets.of_bind loadBound_meets fun result rest _ => ?_
  rcases result with error | ⟨record, input⟩
  · trivial
  · exact plain_bind rfl fun readings => trivial

theorem check_behaves : Behaves ok kept halted (fence.check service) :=
  (behaves_call fun _ => checkExecuteOwnership_meets).bind fun _ =>
    behaves_ite behaves_pure ((behaves_change fun _ => lasting.lost).bind fun _ => behaves_pure)

theorem checkpointAgent_behaves {result : SandboxResult} (named : fence.ownership.name = "execute") :
    Behaves ok Any halted (fence.checkpointAgent service request result) := by
  refine behaves_ite ?_ behaves_pure
  have about : Mutation.Named (.checkpointAgent fence.ownership result) := named
  refine (behaves_call fun _ => mutateRecord_meets about).bind fun answer => ?_
  cases answer with
  | ok record => exact behaves_pure
  | error errors => exact behaves_ite (check_behaves.bind fun _ => behaves_pure) behaves_pure

theorem execute_behaves (named : fence.ownership.name = "execute") :
    Behaves ok Any halted (fence.execute service request) := by
  unfold Fence.execute
  split
  · exact behaves_pure
  · refine check_behaves.bind fun _ => behaves_ite behaves_pure ((behaves_consult rfl).bind fun _ => ?_)
    exact behaves_update.bind fun _ => (checkpointAgent_behaves named).bind fun _ =>
      check_behaves.bind fun _ => behaves_pure

theorem inspect_behaves : Behaves ok kept halted (fence.inspect service attempt) :=
  check_behaves.bind fun _ => behaves_ite behaves_pure
    ((behaves_consult rfl).bind fun _ => check_behaves.bind fun _ => behaves_pure)

theorem cancel_behaves : Behaves ok Any halted (fence.cancel service attempt) :=
  check_behaves.bind fun _ => (behaves_consult rfl).bind fun _ => check_behaves.bind fun _ =>
    behaves_update.bind fun _ => behaves_pure

theorem destroy_behaves : Behaves ok kept halted (fence.destroy service attempt) :=
  check_behaves.bind fun _ => (behaves_consult rfl).bind fun _ => check_behaves.bind fun _ =>
    inspect_behaves.bind fun _ => (behaves_change fun _ => lasting.marked).bind fun _ => behaves_pure

theorem runProbe_behaves (named : fence.ownership.name = "execute") {profile : Profile}
    {command : SandboxCommand} : Behaves ok Any halted (fence.runProbe service workspace profile command sequence) :=
  (execute_behaves named).bind fun _ => destroy_behaves.bind fun _ => behaves_pure

theorem capture_behaves {baseSHA : String} : Behaves ok Any halted (fence.capture service workspace baseSHA) := by
  refine check_behaves.bind fun _ => behaves_ite behaves_pure ((behaves_consult rfl).bind fun answer => ?_)
  refine check_behaves.bind fun _ => ?_
  cases answer with
  | ok capture => exact behaves_pure
  | error errors => exact behaves_pure

theorem run_behaves (named : fence.ownership.name = "execute") {command : Check} :
    Behaves ok Any halted (runner.run (fence.execute service) (fence.destroy service) sequence command) := by
  unfold Runner.run
  simp only
  split
  · exact behaves_pure
  · exact (execute_behaves named).bind fun _ => behaves_ite
      (destroy_behaves.bind fun _ => behaves_ite behaves_pure behaves_pure) behaves_pure

include permits in
theorem inspectionFailed_behaves {α : Type} : Behaves ok Any Any (inspectionFailed errors : Attempting α) :=
  (behaves_consult rfl).bind fun _ => behaves_stop

include permits in
theorem inspected_behaves {α : Type} {result : Except Errors α} : Behaves ok Any Any (inspected result) := by
  cases result with
  | ok value => exact behaves_pure
  | error errors => exact inspectionFailed_behaves

variable {environment : Option (Table String)}

theorem output_behaves (named : fence.ownership.name = "execute") {directory operation executable : String}
    {args : List String} :
    Behaves ok Any Any (fence.output service runner sequence directory environment operation executable args) :=
  (run_behaves named).bind fun _ => behaves_ite behaves_pure
    (behaves_ite inspectionFailed_behaves inspectionFailed_behaves)

theorem inspectGit_behaves (named : fence.ownership.name = "execute") :
    Behaves ok Any Any (fence.inspectGit service runner sequence) :=
  (output_behaves named).bind fun _ => (output_behaves named).bind fun _ => behaves_pure

variable {checks : List CommandSpec}

include permits in
theorem compileChecks_behaves {module : String} :
    Behaves ok Any Any (compileChecks workspace module environment checks) := by
  induction checks with
  | nil => exact behaves_pure
  | cons spec rest ih =>
    exact inspected_behaves.bind fun _ => (behaves_consult rfl).bind fun _ => inspected_behaves.bind fun _ =>
      ih.bind fun _ => behaves_pure

theorem inspectGeneric_behaves (named : fence.ownership.name = "execute") :
    Behaves ok Any Any (fence.inspectGeneric service runner sequence input) :=
  (behaves_consult rfl).bind fun _ => inspected_behaves.bind fun _ => inspected_behaves.bind fun _ =>
    inspected_behaves.bind fun _ => (inspectGit_behaves named).bind fun _ =>
      compileChecks_behaves.bind fun _ => behaves_pure

include permits in
theorem discoverModules_behaves {paths : List String} :
    Behaves ok Any Any (discoverModules workspace paths modules) := by
  induction paths generalizing modules with
  | nil => exact behaves_pure
  | cons path rest ih =>
    exact behaves_ite ih (inspected_behaves.bind fun _ => behaves_ite ih
      ((behaves_consult rfl).bind fun _ => inspected_behaves.bind fun _ => ih))

theorem listModules_behaves (named : fence.ownership.name = "execute")
    {facts : Table String} :
    Behaves ok Any Any (fence.listModules service runner workspace sequence modules facts) := by
  induction modules generalizing sequence facts with
  | nil => exact behaves_pure
  | cons module rest ih =>
    exact (behaves_consult rfl).bind fun _ => inspected_behaves.bind fun _ =>
      (output_behaves named).bind fun _ => ih

include permits in
theorem moduleChecks_behaves :
    Behaves ok Any Any (moduleChecks workspace checks modules) := by
  induction modules with
  | nil => exact behaves_pure
  | cons module rest ih =>
    exact (behaves_consult rfl).bind fun _ => inspected_behaves.bind fun _ => compileChecks_behaves.bind fun _ =>
      ih.bind fun _ => behaves_pure

theorem inspectGo_behaves (named : fence.ownership.name = "execute") :
    Behaves ok Any Any (fence.inspectGo service runner sequence input) :=
  (behaves_consult rfl).bind fun _ => inspected_behaves.bind fun _ => (inspectGit_behaves named).bind fun _ =>
    (output_behaves named).bind fun _ => (output_behaves named).bind fun _ =>
      discoverModules_behaves.bind fun _ => inspected_behaves.bind fun _ => inspected_behaves.bind fun _ =>
        (listModules_behaves named).bind fun _ => inspected_behaves.bind fun _ =>
          moduleChecks_behaves.bind fun _ => behaves_pure

end fence

section job

variable {job : Job} {secrets : List Materialization}

theorem probeHarness_behaves (named : job.fence.ownership.name = "execute") :
    Behaves ok Any Any (probeHarness service job) :=
  (runProbe_behaves named).bind fun _ => behaves_demand.bind fun _ => behaves_demand.bind fun _ => behaves_update

theorem probeTools_behaves (named : job.fence.ownership.name = "execute") {index : Nat} {tools : List Tool} :
    Behaves ok Any Any (probeTools service job index tools) := by
  induction tools generalizing index with
  | nil => exact behaves_pure
  | cons tool rest ih =>
    exact (runProbe_behaves named).bind fun _ => behaves_demand.bind fun _ => behaves_demand.bind fun _ =>
      behaves_update.bind fun _ => ih

theorem inspectRepository_behaves (named : job.fence.ownership.name = "execute") :
    Behaves ok Any Any (inspectRepository service job) := by
  refine behaves_expect.bind fun runner => Behaves.bind ?_ fun _ => ?_
  · exact behaves_ite (inspectGo_behaves named) (inspectGeneric_behaves named)
  · exact behaves_update.bind fun _ => stopIfLost_behaves.bind fun _ => behaves_update

theorem agentRequest_behaves : Behaves ok Any Any (agentRequest job) :=
  behaves_current.bind fun _ => behaves_expect.bind fun _ => behaves_expect.bind fun _ =>
    behaves_expect.bind fun _ => behaves_expect.bind fun _ => behaves_pure

theorem runChecks_behaves (named : job.fence.ownership.name = "execute") {runner : Runner} {entry : Outcome}
    {sequence index : Nat} {checks : List Check} :
    Behaves ok Any Any (runChecks service job secrets runner entry sequence index checks) := by
  induction checks generalizing sequence index with
  | nil => exact behaves_pure
  | cons check rest ih =>
    unfold runChecks
    split
    · exact behaves_update
    · exact (run_behaves named).bind fun _ => behaves_current.bind fun _ =>
        behaves_ite behaves_update (behaves_update.bind fun _ => ih)

theorem verify_behaves (named : job.fence.ownership.name = "execute") :
    Behaves ok Any Any (verify service job secrets) := by
  refine behaves_current.bind fun _ => behaves_ite (Behaves.bind ?_ fun _ => ?_) behaves_pure
  · unfold runVerification
    split
    · exact behaves_update
    · exact behaves_current.bind fun _ => runChecks_behaves named
  · exact behaves_current.bind fun _ => behaves_demand

theorem captureChanges_behaves : Behaves ok Any Any (captureChanges service job secrets) :=
  capture_behaves.bind fun _ => behaves_update.bind fun _ => stopIfLost_behaves.bind fun _ =>
    behaves_demand.bind fun _ => (behaves_consult rfl).bind fun _ => behaves_demand.bind fun _ =>
      behaves_expect.bind fun _ => (behaves_consult rfl).bind fun _ =>
        (behaves_call fun _ => checkExecuteOwnership_meets).bind fun _ => behaves_demand.bind fun _ =>
          (behaves_consult rfl).bind fun _ => behaves_demand.bind fun _ => behaves_demand

theorem storeArtifact_behaves (named : job.fence.ownership.name = "execute") :
    Behaves ok Any Any (storeArtifact service job) := by
  have acquires : ∀ reference, Mutation.Named (.acquireWrite job.fence.ownership reference) := fun _ => named
  have checkpoints : ∀ reference, Mutation.Named (.checkpointArtifact job.fence.ownership reference) := fun _ => named
  refine behaves_current.bind fun _ => behaves_expect.bind fun _ => behaves_expect.bind fun _ => ?_
  refine (behaves_call fun _ => mutateRecord_meets (acquires _)).bind fun _ => persisted_behaves.bind fun _ => ?_
  refine (behaves_consult rfl).bind fun _ => (behaves_consult rfl).bind fun _ => behaves_expect.bind fun _ =>
    behaves_demand.bind fun _ => ?_
  exact (behaves_call fun _ => mutateRecord_meets (checkpoints _)).bind fun _ => persisted_behaves.bind fun _ =>
    (behaves_consult rfl).bind fun _ => behaves_update

end job

end Paje.CodeChange
