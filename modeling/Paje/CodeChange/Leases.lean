import Paje.CodeChange.Tasks

/-!
The secret leases of an execute attempt: every path of the attempt leads through one release of all
leases that it holds, and no outcome hides a failed release.
-/

namespace Paje.CodeChange

open Text Run Process List

def acquires (lease : String) : (question : Ask) × Answer question → Bool
  | ⟨.acquire _ _ _ _, .ok acquired⟩ => acquired.id = lease
  | _ => false

def revokes (lease : String) : (question : Ask) × Answer question → Bool
  | ⟨.revoke revoked, _⟩ => revoked = lease
  | _ => false

def revokeFails : (question : Ask) × Answer question → Prop
  | ⟨.revoke _, errors⟩ => errors ≠ []
  | _ => False

def RevokeFailed (trace : Exchanges) : Prop := ∃ exchange ∈ trace, revokeFails exchange

/-- After `start`, all leases that were acquired were revoked but those in `held`. -/
structure Ledger (start trace : Exchanges) (held : List SecretLease) (failed : Prop) : Prop where
  balance : ∀ lease, trace.countP (acquires lease) + start.countP (revokes lease) =
    trace.countP (revokes lease) + held.countP (·.id = lease) + start.countP (acquires lease)
  failed : RevokeFailed trace → RevokeFailed start ∨ failed

def toldCleanup (outcome : Outcome) : Prop := ∃ failure ∈ outcome.failure, failure.failureClass = .cleanup

/-- After `start` nothing is held any more, and the outcome tells of a release that failed. -/
def GivenBack (start : Exchanges) (outcome : Outcome) (trace : Exchanges) : Prop :=
  ∃ failed, Ledger start trace [] failed ∧ (failed → outcome.ownershipLost = true ∨ toldCleanup outcome)

variable {start trace : Exchanges} {held leases : List SecretLease} {failed lost : Prop} {outcome : Outcome}

theorem Ledger.snoc (ledger : Ledger start trace held failed) {exchange : (question : Ask) × Answer question}
    {after : List SecretLease} {failed' : Prop} (balance : ∀ lease, after.countP (·.id = lease) +
      (if revokes lease exchange then 1 else 0) = held.countP (·.id = lease) + if acquires lease exchange then 1 else 0)
    (fails : failed ∨ revokeFails exchange → failed') : Ledger start (trace ++ [exchange]) after failed' := by
  refine ⟨fun lease => ?_, ?_⟩
  · have before := ledger.balance lease
    have now := balance lease
    simp only [countP_append, countP_singleton]
    omega
  · rintro ⟨one, member, failing⟩
    rcases mem_append.mp member with old | new
    · exact (ledger.failed ⟨one, old, failing⟩).imp_right (fails ∘ .inl)
    · exact .inr (fails (.inr (mem_singleton.mp new ▸ failing)))

theorem Ledger.back (ledger : Ledger start trace [] False) : GivenBack start outcome trace := ⟨_, ledger, False.elim⟩

theorem normalizeCleanupFailure_tells (failed : outcome.cleanupFailed = true) :
    toldCleanup outcome.normalizeCleanupFailure := by
  unfold Outcome.normalizeCleanupFailure
  rw [if_pos failed]
  exact ⟨_, rfl, rfl⟩

def Ask.aboutLease : Ask → Bool
  | .acquire _ _ _ _ | .revoke _ => true
  | _ => false

theorem Ledger.other (ledger : Ledger start trace held failed) {question : Ask} (other : question.aboutLease = false)
    (answer : Answer question) : Ledger start (trace ++ [⟨question, answer⟩]) held failed := by
  have quiet : (∀ lease, acquires lease ⟨question, answer⟩ = false ∧ revokes lease ⟨question, answer⟩ = false) ∧
      ¬ revokeFails ⟨question, answer⟩ := by
    cases question <;> first | exact ⟨fun _ => ⟨rfl, rfl⟩, id⟩ | cases other
  exact ledger.snoc (fun lease => by simp [quiet.1 lease]) fun fails => fails.resolve_right quiet.2

theorem withCleanupFailure_tells {cause : Errors} (some : cause ≠ []) :
    (outcome.withCleanupFailure cause).cleanupFailed = true ∧ toldCleanup (outcome.withCleanupFailure cause) := by
  unfold Outcome.withCleanupFailure
  rw [if_neg some]
  exact ⟨rfl, normalizeCleanupFailure_tells rfl⟩

def Stands (lost failed : Prop) (outcome : Outcome) : Prop :=
  (lost → outcome.ownershipLost = true) ∧ (failed → outcome.cleanupFailed = true)

def Settled (start : Exchanges) (lost : Prop) (errors : Errors) (outcome : Outcome) (trace : Exchanges) : Prop :=
  ∃ failed, Ledger start trace [] failed ∧ Stands lost failed outcome ∧ (failed → errors ≠ [])

theorem Settled.failure {errors cause : Errors} (settled : Settled start lost errors outcome trace)
    (failure : Failure) : GivenBack start (outcome.withFailure failure cause) trace := by
  obtain ⟨failed, ledger, stands, _⟩ := settled
  exact ⟨failed, ledger, fun fails => .inr (normalizeCleanupFailure_tells (stands.2 fails))⟩

variable [digests : Digests] {service : Service}

section

variable (ledger : Ledger start trace held failed)
include ledger

def Steady (service : Service) (trace : Exchanges) (question : Ask) : Prop :=
  Allowed service trace question ∧ question.aboutLease = false

instance : Permits service (Steady service) where
  plain {_ question} plain := ⟨Permits.plain plain, by cases question <;> first | rfl | cases plain⟩
  save named updates := ⟨Permits.save named updates, rfl⟩

theorem holds_steady {α : Type} {task : Attempting α} {mid post : α → Outcome → Exchanges → Prop}
    {halted stopped : Outcome → Exchanges → Prop}
    (holds : task.Holds (Steady service) mid halted outcome trace)
    (ends : ∀ value outcome trace, mid value outcome trace → Ledger start trace held failed → post value outcome trace)
    (stops : ∀ outcome trace, halted outcome trace → Ledger start trace held failed → stopped outcome trace) :
    task.Holds (Allowed service) post stopped outcome trace := by
  have kept := Meets.keeps (Ledger start · held failed) holds ledger (fun _ _ asked => asked.1)
    fun _ _ answer asked ledger => ledger.other asked.2 answer
  refine kept.mono ?_
  rintro ⟨_ | value, after⟩ rest ⟨reached, ledger⟩
  · exact stops _ _ reached ledger
  · exact ends _ _ _ reached ledger

end

def Never (_ : Outcome) : Prop := False

section steady

variable {α β : Type} {task : Attempting α} {g : α → Attempting β} {kept : Outcome → Prop}
  {post : β → Outcome → Exchanges → Prop} {stopped : Outcome → Exchanges → Prop}

theorem Behaves.holding (behaves : Behaves (Steady service) kept Never task) (ledger : Ledger start trace held failed)
    (starts : kept outcome) (continues : ∀ value outcome trace, kept outcome → Ledger start trace held failed →
      (g value).Holds (Allowed service) post stopped outcome trace) :
    (task >>= g).Holds (Allowed service) post stopped outcome trace := by
  rw [Task.holds_bind]
  exact holds_steady ledger (behaves.holds outcome trace starts) continues fun _ _ never => never.elim

theorem Behaves.without (behaves : Behaves (Steady service) Any Any task) (ledger : Ledger start trace [] False)
    (continues : ∀ value outcome trace, Ledger start trace [] False →
      (g value).Holds (Allowed service) post (GivenBack start) outcome trace) :
    (task >>= g).Holds (Allowed service) post (GivenBack start) outcome trace := by
  rw [Task.holds_bind]
  exact holds_steady ledger (behaves.holds outcome trace trivial)
    (fun value after trace _ => continues value after trace) fun _ _ _ ledger => ledger.back

end steady

section fence

variable {fence : Fence} {errors : Errors} {stopped : Outcome → Exchanges → Prop}

instance : Lasting (Stands lost failed) where
  lost stands := ⟨fun _ => rfl, stands.2⟩
  marked stands := by
    unfold Outcome.markAttempt
    split <;> exact stands

theorem revoke_holds (ledger : Ledger start trace (leases ++ held) failed) (stands : Stands lost failed outcome) :
    (fence.revoke service leases).Holds (Allowed service) (fun errors outcome trace =>
      Ledger start trace held (failed ∨ errors ≠ []) ∧ Stands lost (failed ∨ errors ≠ []) outcome)
      stopped outcome trace := by
  induction leases generalizing held with
  | nil => exact ⟨by simpa using ledger, by simpa using stands⟩
  | cons lease rest ih =>
    have last : Ledger start trace (rest ++ lease :: held) failed :=
      ⟨fun id => by simpa [countP_cons, add_assoc, add_comm, add_left_comm] using ledger.balance id, ledger.failed⟩
    refine (ih last).of_bind fun later _ _ both => ?_
    refine check_behaves.holding both.1 both.2 fun _ outcome trace stands ledger => ?_
    rw [Task.holds_bind, consult, Task.holds_query]
    refine ⟨trivial, fun errors => ?_⟩
    have either : (failed ∨ later ≠ []) ∨ errors ≠ [] ↔ failed ∨ later ++ errors ≠ [] := by
      rw [or_assoc, ← not_and_or, ne_eq, append_eq_nil_iff]
    have checks : Behaves (Steady service) (Stands lost (failed ∨ later ++ errors ≠ [])) Never (fence.check service) :=
      check_behaves
    rw [Task.holds_bind, Task.holds_update]
    refine checks.holding (ledger.snoc (fun id => ?_) either.mp) ⟨stands.1, fun fails => ?_⟩
      fun _ outcome trace stands ledger => ⟨ledger, stands⟩
    · simp [revokes, acquires, countP_cons]
    · rcases either.mpr fails with before | some
      · simp [stands.2 before]
      · simp [show errors ≠ [] from some]

section

variable (ledger : Ledger start trace leases False)
include ledger

theorem revoke_settles (stands : Stands lost False outcome) :
    (fence.revoke service leases).Holds (Allowed service) (fun revoked outcome trace =>
      ∀ errors, Settled start lost (errors ++ revoked) outcome trace) stopped outcome trace := by
  rw [← append_nil leases] at ledger
  refine (revoke_holds ledger stands).mono (fun revoked _ _ both errors => ?_) fun _ _ => id
  exact ⟨_, both.1, both.2, by simp +contextual⟩

/-- What `acquireAgentLeases` returns. -/
def Leased (start : Exchanges) (result : Except Errors (List SecretLease)) (outcome : Outcome) (trace : Exchanges) :
    Prop :=
  match result with
  | .ok leases => Ledger start trace leases False
  | .error errors => Settled start False errors outcome trace

theorem abandon_holds :
    (fence.abandon service leases errors).Holds (Allowed service) (Leased start) stopped outcome trace :=
  (revoke_settles ledger ⟨False.elim, False.elim⟩).of_bind fun _ _ _ settled => settled errors

theorem cleanupAgent_holds (stands : Stands lost False outcome) :
    (fence.cleanupAgent service leases).Holds (Allowed service) (Settled start lost) stopped outcome trace :=
  destroy_behaves.holding ledger stands fun destroyed _ _ stands ledger =>
    (revoke_settles ledger stands).of_bind fun _ _ _ settled => settled destroyed

theorem acquire_holds {requirements : List SecretRequirement} {bindings : List BindingRef} :
    (fence.acquire service requirements bindings leases).Holds
      (Allowed service) (Leased start) stopped outcome trace := by
  induction requirements generalizing bindings leases outcome trace with
  | nil => exact ledger
  | cons requirement rest ih =>
    have checks : Behaves (Steady service) Any Never (fence.check service) := check_behaves
    refine checks.holding ledger trivial fun _ outcome trace _ ledger => ?_
    split
    split
    · exact abandon_holds ledger
    cases bindings with
    | nil => exact abandon_holds ledger
    | cons binding bindings =>
      rw [Task.holds_bind, consult, Task.holds_query]
      refine ⟨trivial, fun answer => ?_⟩
      cases answer with
      | error errors => exact abandon_holds (ledger.snoc (fun _ => rfl) (Or.elim · id id))
      | ok lease =>
        refine checks.holding (?_ : Ledger start _ (leases ++ [lease]) False) trivial fun _ outcome trace _ ledger => ?_
        · exact ledger.snoc (fun id => by simp [acquires, revokes]) (Or.elim · id id)
        split
        split
        · exact abandon_holds ledger
        · exact ih ledger

end

end fence

section job

variable {job : Job} {errors : Errors}

theorem leaseSecrets_holds (ledger : Ledger start trace [] False) : (leaseSecrets service job).Holds (Allowed service)
    (fun leases _ trace => Ledger start trace leases False) (GivenBack start) outcome trace := by
  refine (acquire_holds ledger).of_bind fun result after trace leased => ?_
  rw [Task.holds_bind, consult, Task.holds_query]
  refine ⟨trivial, fun canceled => ?_⟩
  cases result with
  | ok leases => exact Ledger.other leased rfl canceled
  | error errors =>
    obtain ⟨failed, ledger, rest⟩ := leased
    exact Settled.failure ⟨failed, ledger.other rfl canceled, rest⟩ _

theorem captureTransient_behaves {ok : Exchanges → Ask → Prop} [Permits service ok] {halted : Outcome → Prop}
    {secrets : List Materialization} {started : Bool} :
    Behaves ok Any halted (captureTransient service job secrets started) :=
  behaves_ite (capture_behaves.bind fun _ => (behaves_consult rfl).bind fun _ => behaves_update) behaves_pure

theorem settleAgent_holds (ledger : Ledger start trace leases False) :
    (settleAgent service job leases errors).Holds (Allowed service) (fun _ _ trace => Ledger start trace [] False)
      (GivenBack start) outcome trace := by
  unfold settleAgent
  rw [Task.holds_bind, Task.holds_update, Task.holds_bind, Task.holds_current]
  refine captureTransient_behaves.holding ledger trivial fun _ outcome trace _ ledger => ?_
  refine (cleanupAgent_holds ledger ⟨False.elim, False.elim⟩).of_bind fun cleanup outcome trace settled => ?_
  obtain ⟨failed, ledger, _, told⟩ := settled
  have tells := fun fails => @withCleanupFailure_tells outcome _ (told fails)
  have back : GivenBack start (outcome.withCleanupFailure cleanup) trace :=
    ⟨failed, ledger, fun fails => .inr (tells fails).2⟩
  simp only [Task.holds_bind, Task.holds_update, stopIfLost, Task.holds_current, Task.holds_demand]
  refine ⟨fun _ => ⟨fun goesOn => ⟨ledger.balance, fun fails => (ledger.failed fails).imp_right fun fails => ?_⟩,
    fun _ => back⟩, fun _ => back⟩
  obtain ⟨marked, failure, found, _⟩ := tells fails
  simp [continuesAfterAgent, Option.mem_def.mp found, marked] at goesOn

theorem runAgent_holds (named : job.fence.ownership.name = "execute") {request : SandboxRequest}
    (ledger : Ledger start trace leases False) : (runAgent service job request leases).Holds (Allowed service)
      (fun _ _ trace => Ledger start trace [] False) (GivenBack start) outcome trace := by
  refine (execute_behaves named).holding ledger trivial fun result outcome trace _ ledger => ?_
  split
  have asks : Behaves (Steady service) Any Never (consult .canceled) := behaves_consult rfl
  rw [Task.holds_bind, Task.holds_update]
  refine asks.holding ledger trivial fun canceled outcome trace _ ledger => ?_
  rw [Task.holds_bind, Task.holds_current]
  split
  · refine cancel_behaves.holding ledger trivial fun _ outcome trace _ ledger => ?_
    exact (cleanupAgent_holds ledger ⟨False.elim, False.elim⟩).of_bind fun _ _ _ settled => settled.failure _
  split
  · rename_i lost
    have stands : Stands True False outcome := ⟨fun _ => lost, False.elim⟩
    refine (cleanupAgent_holds ledger stands).of_bind fun errors _ _ settled => ?_
    obtain ⟨failed, ledger, stands, _⟩ := settled
    refine ⟨failed, ledger, fun _ => .inl ?_⟩
    split <;> exact stands.1 trivial
  split
  · refine (cleanupAgent_holds ledger ⟨False.elim, False.elim⟩).of_bind fun errors _ _ settled => ?_
    obtain ⟨failed, ledger, _, told⟩ := settled
    exact ⟨failed, ledger, fun fails => .inr (withCleanupFailure_tells (told fails)).2⟩
  · exact settleAgent_holds ledger

attribute [local irreducible] buildPrompt in
theorem executePrepared_holds {record : CodeRun} {input : Input} {workspace : String} {ownership : Ownership}
    (named : ownership.name = "execute") : (executePrepared service record input workspace ownership).Holds
      (Allowed service) (fun _ outcome trace => GivenBack start outcome trace) (GivenBack start) outcome start := by
  have ledger : Ledger start start [] False := ⟨fun _ => by simp [add_comm], .inl⟩
  unfold executePrepared
  rw [Task.holds_bind]
  refine holds_steady ledger (openAttempt_holds outcome start) (fun job outcome trace same ledger => ?_)
    fun _ _ _ ledger => ledger.back
  have named : job.fence.ownership.name = "execute" := by rw [same]; exact named
  refine (probeHarness_behaves named).without ledger fun _ _ _ ledger => ?_
  refine (probeTools_behaves named).without ledger fun _ _ _ ledger => ?_
  refine stopIfLost_behaves.without ledger fun _ _ _ ledger => ?_
  refine (inspectRepository_behaves named).without ledger fun _ _ _ ledger => ?_
  have requests : Behaves (Steady service) Any Any (agentRequest job) := agentRequest_behaves
  refine requests.without ledger fun _ _ _ ledger => ?_
  refine (leaseSecrets_holds ledger).of_bind fun leases _ _ ledger => ?_
  refine (runAgent_holds named ledger).of_bind fun _ _ _ ledger => ?_
  refine (verify_behaves named).without ledger fun _ _ _ ledger => ?_
  refine captureChanges_behaves.without ledger fun _ outcome trace ledger => ?_
  exact holds_steady ledger ((storeArtifact_behaves named).holds outcome trace trivial)
    (fun _ _ _ _ ledger => ledger.back) fun _ _ _ ledger => ledger.back

end job

/-- However an execute attempt ends, each lease that it acquired was passed to `Revoke` as often as it was acquired,
and if a revocation failed, the attempt has lost its stage or its outcome is a cleanup failure. -/
theorem leases_given_back (service : Service) (record : CodeRun) (input : Input) (workspace : String) (attempt : Nat)
    (startedAt : Time) (outcome : Outcome) :
    let returned (outcome : Outcome) (trace : Exchanges) : Prop :=
      (∀ lease, trace.countP (revokes lease) = trace.countP (acquires lease)) ∧
        (RevokeFailed trace → outcome.ownershipLost = true ∨
          ∃ failure ∈ outcome.failure, failure.failureClass = .cleanup)
    (executePrepared service record input workspace ⟨"execute", attempt, startedAt⟩).Holds (fun _ _ => True)
      (fun _ outcome trace => returned outcome trace) returned outcome [] := by
  intro returned
  have back : ∀ outcome trace, GivenBack [] outcome trace → returned outcome trace := by
    rintro outcome trace ⟨failed, ledger, told⟩
    refine ⟨fun lease => by simpa using (ledger.balance lease).symm, fun fails => told ?_⟩
    exact (ledger.failed fails).resolve_left fun ⟨_, member, _⟩ => nomatch member
  have ends : (executePrepared service record input workspace ⟨"execute", attempt, startedAt⟩).Holds (Allowed service)
    (fun _ => GivenBack []) (GivenBack []) outcome [] := executePrepared_holds rfl
  refine Meets.mono (Meets.keeps (fun _ => True) ends trivial (fun _ _ _ => trivial) fun _ _ _ _ _ => trivial) ?_
  rintro ⟨_ | value, after⟩ rest ⟨reached, _⟩
  · exact back _ _ reached
  · exact back _ _ reached

end Paje.CodeChange
