import Paje.Admission.Calls

/-!
Repeated calls. A repetition finds its own transition under its semantic key; but `Admit` and
`Release` choose the operation that they look for by the state at the repetition.
-/

namespace Paje.Admission

open Journal EventLog Service Call

variable {call : Call} {log : List Entry} {store : MemoryStore} {cache : Option View} {p : Projection}
  {s : Service} {installationID : String} {record : TransitionRecord} {view : View}
variable {n j : Nat} {known : TransitionRecord} {clock : Nat → Nat → Time × Time}
  {svc : Nat → Service} {careful : Plan → Projection → Time → Prop} {sys : System}

section Commits

theorem Call.plan_unchosen {q : Projection} (unchosen : call.chooses = false) : call.plan s p = call.plan s q := by
  cases call <;> first | rfl | cases unchosen

theorem Call.transact_chooses (s : Service) (clock : Nat → Nat → Time × Time)
    (store : MemoryStore) (cache : Option View) (chooses : call.chooses = true) [sha : Sha] :
    ∃ operation, call.transact s clock store cache = call.decide s operation clock maxCASAttempts store cache := by
  cases call <;> first | exact ⟨_, rfl⟩ | cases chooses

variable [sha : Sha]

def TransitionRecord.original (record : TransitionRecord) : TransitionRecord :=
  { record with receipt := { record.receipt with created := true } }

theorem Answer.recorded
    (answer : Answer s installationID log call record) (replayed : replay installationID log = .ok p) :
    Recorded log record.original ∧ validateOutcomeSemantics record.request record.outcome = .ok () ∧
      record.outcome.semanticOperation = record.request.semanticOperation := by
  obtain ⟨entry, member, requested, resulted, receipt⟩ := answer.logged
  have ours : admissionComponent entry.result = .ok true := by
    simp [resulted, admissionComponent, answer.named]
  obtain ⟨before, q, absorbed⟩ := foldlM_mem replayed member
  obtain ⟨foreign, _⟩ | ⟨request, outcome, read, result, valid, _⟩ := absorb_ok absorbed
  · cases ours.symm.trans foreign
  · cases resulted.symm.trans result
    have same : request = record.request := by
      unfold Entry.requestRead at read
      split at read
      · cases result.symm.trans read
      · cases requested.symm.trans read
        rfl
    subst same
    unfold validatePersistedTransition at valid
    obtain ⟨⟨_, _, _, _, asked, answered, bound, _⟩, valid⟩ := require_bind_ok valid
    obtain ⟨_, valid⟩ := require_bind_ok valid
    refine ⟨⟨entry, member, _, _, ours, read, result, ?_⟩, valid, ?_⟩
    · rw [TransitionRecord.original, receipt, answer.bound]
      rfl
    · rw [answered, ← bound, ← asked]

def Plan.semanticKey (plan : Plan) : String :=
  semanticIndex plan.transition.controlRunID plan.transition.identity.actionID
    plan.transition.identity.generation

/-- What a plan is answered that finds `known` under its key. -/
def TransitionRecord.answers (known : TransitionRecord) (s : Service) (plan : Plan) (view : View) :
    Except Error (TransitionRecord × Bool) :=
  if known.request = s.request plan.transition view.installationID then
    .ok ({ known with receipt := { known.receipt with created := false } }, false)
  else .error (refused plan.transition.operation .conflict .conflict)

theorem commitTransition_known {plan : Plan} {clock : Nat → Time × Time} (read : (rebuild store cache).1 = .ok view)
    (found : view.transitions.get? plan.semanticKey = some known) (bound : known.binding = known.request.binding) :
    commitTransition s plan clock (n + 1) store cache =
      (known.answers s plan view, store, (rebuild store cache).2) := by
  generalize rebuilt : rebuild store cache = result at read
  obtain ⟨answer, cache'⟩ := result
  cases read
  rw [Plan.semanticKey] at found
  simp only [commitTransition, rebuilt, attempt, Projection.existing, found, Option.orElse_some, Option.map_some,
    TransitionRecord.answers]
  by_cases same : known.request = s.request plan.transition view.installationID
  · simp only [if_pos same, if_pos (And.intro same (bound.trans (congrArg _ same)))]
  · simp only [if_neg same, if_neg fun both => same (And.left both)]

theorem Call.decide_known {operation : SemanticOperation} {plan : Plan} (read : (rebuild store cache).1 = .ok view)
    (again : (rebuild store (rebuild store cache).2).1 = .ok view)
    (planned : call.plan s view.toProjection = .ok plan) (found : view.transitions.get? plan.semanticKey = some known)
    (bound : known.binding = known.request.binding) : call.decide s operation clock (n + 1) store cache =
      (known.answers s plan view, store, (rebuild store (rebuild store cache).2).2) := by
  generalize rebuilt : rebuild store cache = result at read again
  obtain ⟨answer, cache'⟩ := result
  cases read
  have committed : commitTransition s plan (clock n) maxCASAttempts store cache' = _ :=
    commitTransition_known again found bound
  simp only [decide, rebuilt, planned, committed, TransitionRecord.answers]
  by_cases same : known.request = s.request plan.transition view.installationID
  · simp only [if_pos same]
  · simp only [if_neg same, refused]

/-! ### The operation that a repetition chooses -/

theorem Call.Plans.transition_eq {one two : Plan} (first : call.Plans s one) (second : call.Plans s two) :
    two.transition = { one.transition with operation := two.transition.operation } := by
  obtain ⟨p, first⟩ := first
  obtain ⟨q, second⟩ := second
  cases call with
  | admitRun request =>
    simp only [plan] at first second
    split at first <;> split at second <;> cases first <;> cases second <;> rfl
  | release request =>
    simp only [plan] at first second
    split at first <;> split at second <;> cases first <;> cases second
    rfl
  | cancelOrFence request =>
    cases state : fencedState request.proof.status with
    | none =>
      simp only [plan, state] at first
      cases first
    | some state' =>
      simp only [plan, state] at first second
      cases first
      cases second
      rfl
  | _ =>
    cases first
    cases second
    rfl

/-- Over `p` a repetition of `call` chooses the operation that the first execution recorded. -/
def Call.Repeats (call : Call) (s : Service) (p : Projection) (operation : SemanticOperation) : Prop :=
  match call with
  | .admitRun request => limitingQuota s p request = .none ↔ operation = .queueAdmit
  | .release _ => operation = .admissionRelease
  | _ => True

instance (call : Call) (s : Service) (p : Projection) (operation : SemanticOperation) :
    Decidable (call.Repeats s p operation) := by
  unfold Call.Repeats
  split <;> infer_instance

theorem Answer.released {s : Service} {installationID : String} {log : List Entry} {call : Call}
    {record : TransitionRecord} (answer : Answer s installationID log call record) {p : Projection}
    (replayed : replay installationID log = .ok p) {request : AdmissionRequest} (releases : call = .release request) :
    ∃ admission, p.admissions.get? (scopedID request.controlRunID request.subject.id) =
      some admission ∧ admission.state = .released := by
  subst releases
  obtain ⟨recorded, valid, operation⟩ := answer.recorded replayed
  obtain ⟨plan, ⟨q, planned⟩, requested⟩ := answer.planned
  simp only [Call.plan] at planned
  split at planned
  · cases planned
  · rename_i prior _
    cases planned
    have ended : record.outcome.semanticOperation = .admissionRelease ∨
        record.outcome.semanticOperation = .queueRelease := by
      rw [operation, requested]
      show releaseOperation prior.state = _ ∨ releaseOperation prior.state = _
      cases prior.state <;> first | exact .inl rfl | exact .inr rfl
    obtain ⟨value, made, subject⟩ := validRelease valid ended
    obtain ⟨admission, held, released⟩ := replay_released replayed recorded made
    refine ⟨admission, ?_, released⟩
    have run : record.original.binding.controlRunID = request.controlRunID := by
      show record.binding.controlRunID = _
      rw [answer.bound, requested]
      rfl
    have same : value.subject = request.subject := by
      rw [requested] at subject
      exact (Subject.runAdmission.inj subject).symm
    rwa [run, same] at held

theorem Answer.plan
    (answer : Answer s installationID log call record) (replayed : replay installationID log = .ok p) :
    ∃ plan, call.plan s p = .ok plan ∧ (plan.transition.operation = record.request.semanticOperation ↔
      call.Repeats s p record.request.semanticOperation) := by
  have gone : ∀ request, call = .release request → _ := fun _ releases => answer.released replayed releases
  obtain ⟨first, ⟨q, planned⟩, requested⟩ := answer.planned
  rw [requested]
  show ∃ plan, call.plan s p = .ok plan ∧ (plan.transition.operation = first.transition.operation ↔
    call.Repeats s p first.transition.operation)
  cases call with
  | admitRun request =>
    have either : first.transition.operation = .queueAdmit ∨ first.transition.operation = .backpressureDefer := by
      simp only [Call.plan] at planned
      split at planned <;> cases planned
      · exact .inr rfl
      · exact .inl rfl
    generalize first.transition.operation = recorded at either
    simp only [Call.plan, Call.Repeats]
    by_cases free : limitingQuota s p request = .none
    · refine ⟨_, if_neg (not_not.mpr free), ?_⟩
      simp only [Plan.transition, free, true_iff]
      exact eq_comm
    · refine ⟨_, if_pos free, ?_⟩
      simp only [Plan.transition, free, false_iff]
      rcases either with rfl | rfl <;> simp
  | release request =>
    obtain ⟨admission, held, released⟩ := gone request rfl
    refine ⟨.release request (releaseOperation admission.state), by simp only [Call.plan, held], ?_⟩
    rw [released]
    exact eq_comm
  | _ => exact ⟨first, planned, iff_of_true rfl trivial⟩

theorem Call.transact_unchosen {plan : Plan} (unchosen : call.chooses = false)
    (planned : call.plan s newProjection = .ok plan) : call.transact s clock store cache =
      commitTransition s plan (clock 0) maxCASAttempts store cache := by
  cases call with
  | admitRun => cases unchosen
  | release => cases unchosen
  | _ => simp only [transact, planned]

theorem transact_again (sound : Sound svc careful installationID sys log)
    (answer : Answer (svc j) installationID log call record)
    (read : rebuildAll sys.store = .ok view) (clock : Nat → Nat → Time × Time) :
    ∃ cache e, call.transact (svc j) clock sys.store (sys.caches j) =
      (if call.Repeats (svc j) view.toProjection record.request.semanticOperation then
        .ok ({ record with receipt := { record.receipt with created := false } }, false)
      else .error e, sys.store, cache) := by
  have cached := rebuild_caches sound.holds sound.clean sound.named (sound.caches j)
  have once := (rebuild_eq sound.holds sound.clean sound.named (sound.caches j)).trans read
  have twice := (rebuild_eq sound.holds sound.clean sound.named cached).trans read
  obtain ⟨replayed, _⟩ := sound.rebuild_ok j once
  obtain ⟨first, plans, requested⟩ := answer.planned
  obtain ⟨plan, planned, repeats⟩ := answer.plan replayed
  have shape := plans.transition_eq ⟨_, planned⟩
  have here : view.installationID = installationID := fold_installation replayed
  have key : plan.semanticKey = record.original.semanticKey := by
    unfold Plan.semanticKey TransitionRecord.semanticKey
    show _ = semanticIndex record.binding.controlRunID record.binding.actionID record.binding.generation
    rw [shape, answer.bound, requested]
    rfl
  have found : view.transitions.get? plan.semanticKey = some record.original :=
    key ▸ (replay_index replayed).2.2 _ (answer.recorded replayed).1
  have same : record.original.request = (svc j).request plan.transition view.installationID ↔
      call.Repeats (svc j) view.toProjection record.request.semanticOperation := by
    rw [← repeats, here]
    show record.request = _ ↔ _
    constructor
    · intro equal
      exact (congrArg (·.semanticOperation) equal).symm
    · intro operation
      rw [shape, operation, requested]
      rfl
  have bound : record.original.binding = record.original.request.binding := answer.bound
  cases chooses : call.chooses with
  | true =>
    obtain ⟨operation, served⟩ := transact_chooses (svc j) clock sys.store (sys.caches j) chooses
    rw [served, maxCASAttempts, decide_known once twice planned found bound]
    simp only [TransitionRecord.answers, same]
    exact ⟨_, _, rfl⟩
  | false =>
    have chosen : call.plan (svc j) newProjection = .ok plan :=
      (plan_unchosen chooses).trans planned
    rw [transact_unchosen chooses chosen, maxCASAttempts, commitTransition_known once found bound]
    simp only [TransitionRecord.answers, same]
    exact ⟨_, _, rfl⟩

theorem transact_unread (sound : Sound svc careful installationID sys log) {plan : Plan}
    (planned : call.Plans (svc j) plan) {e : Error} (unread : rebuildAll sys.store = .error e)
    (clock : Nat → Nat → Time × Time) : (call.transact (svc j) clock sys.store (sys.caches j)).1 = .error e := by
  have once := (rebuild_eq sound.holds sound.clean sound.named (sound.caches j)).trans unread
  generalize rebuilt : rebuild sys.store (sys.caches j) = result at once
  obtain ⟨answer, cache⟩ := result
  cases once
  cases chooses : call.chooses with
  | true =>
    obtain ⟨operation, served⟩ := Call.transact_chooses (svc j) clock sys.store (sys.caches j) chooses
    rw [served]
    simp only [maxCASAttempts, Call.decide, rebuilt]
  | false =>
    obtain ⟨p, planned⟩ := planned
    rw [transact_unchosen chooses ((plan_unchosen chooses).trans planned)]
    simp only [maxCASAttempts, commitTransition, rebuilt]

/-- A repetition of a successful call, by a service of the same configuration and after any further
steps, returns the original receipt with `created` unset and commits nothing exactly when the journal
still replays and `Admit` or `Release` chooses its first operation again. -/
theorem retry_exact {svc : Nat → Service} {installationID : String} {sys later : System}
    {k i j : Nat} {call : Call} {record : TransitionRecord} {created : Bool}
    (reachable : Reachable svc (fun _ _ _ => True) installationID sys)
    (answered : sys.flights k = some ⟨i, call, .done (.ok (record, created))⟩)
    (steps : Steps svc (fun _ _ _ => True) sys later) (service : svc j = svc i) (clock : Nat → Nat → Time × Time) :
    (∃ cache, (svc j).serve call clock later.store (later.caches j) =
      (.ok (call.receipt record false), later.store, cache)) ↔ ∃ view, rebuildAll later.store = .ok view ∧
      call.Repeats (svc j) view.toProjection record.request.semanticOperation := by
  obtain ⟨log, sound⟩ := reachable_sound reachable
  obtain ⟨valid, answer⟩ := sound.flights k _ answered
  obtain ⟨more, after⟩ := sound.steps steps
  replace answer := answer.extend more
  rw [← service] at answer
  have accepted : call.validate (svc j) = .ok () := service ▸ valid
  simp only [serve, accepted]
  cases read : rebuildAll later.store with
  | error e =>
    obtain ⟨plan, planned, _⟩ := answer.planned
    have failed := transact_unread after planned read clock
    refine iff_of_false ?_ (fun ⟨_, equal, _⟩ => nomatch equal)
    rintro ⟨cache, equal⟩
    have first := congrArg Prod.fst equal
    simp only [failed] at first
    cases first
  | ok view =>
    obtain ⟨cache, e, transacted⟩ := transact_again after answer read clock
    rw [transacted]
    by_cases again : call.Repeats (svc j) view.toProjection record.request.semanticOperation
    · refine iff_of_true ⟨cache, ?_⟩ ⟨view, rfl, again⟩
      simp only [if_pos again, Except.map]
      cases call <;> rfl
    · refine iff_of_false ?_ ?_
      · rintro ⟨_, equal⟩
        have first := congrArg Prod.fst equal
        simp only [if_neg again, Except.map] at first
        cases first
      · rintro ⟨_, same, repeated⟩
        cases same
        exact again repeated

end Commits

def Flight.answer (flight : Flight) : Option (TransitionRecord × Bool) :=
  match flight.phase with
  | .done (.ok answer) => some answer
  | _ => none

theorem Flight.answer_eq {flight : Flight} {created : Bool} (h : flight.answer = some (record, created)) :
    flight = ⟨flight.service, flight.call, .done (.ok (record, created))⟩ := by
  obtain ⟨service, call, phase⟩ := flight
  unfold Flight.answer at h
  split at h
  · rename_i answer finished
    cases h
    simp only at finished
    rw [finished]
  · cases h

attribute [local instance] Sha.sample

def releaseReserved : List Label :=
  Label.serve 0 0 (.reserve (.sample "one" "1")) 1 ++ Label.serve 1 0 (.release (.sample "one" "2")) 2 ++
  Label.serve 2 1 (.reserve (.sample "two" "3")) 3

theorem retry_exact_release : ∃ sys record cache,
    System.run (fun _ => .sample) (fun _ _ _ => True) .sample releaseReserved = some sys ∧
    Service.sample.serve (.release (.sample "one" "2")) (fun _ _ => (4, 4)) sys.store (sys.caches 1) =
      (.ok (Call.receipt (.release (.sample "one" "2")) record false), sys.store, cache) := by
  obtain ⟨sys, ran, flight, found, ⟨record, created⟩, answered, service, call, view, read, repeats⟩ :
      ∃ sys, System.run (fun _ => .sample) (fun _ _ _ => True) .sample releaseReserved = some sys ∧
      ∃ flight, sys.flights 1 = some flight ∧ ∃ answer, flight.answer = some answer ∧
        flight.service = 0 ∧ flight.call = .release (.sample "one" "2") ∧
      ∃ view, rebuildAll sys.store = .ok view ∧
        flight.call.Repeats .sample view.toProjection answer.1.request.semanticOperation := by decide +kernel
  rw [Flight.answer_eq answered, service, call] at found
  rw [call] at repeats
  obtain ⟨cache, served⟩ := (retry_exact (j := 1) (System.sample_reachable.run ran) found .refl rfl
    (fun _ _ => (4, 4))).mpr ⟨view, read, repeats⟩
  exact ⟨sys, record, cache, ran, served⟩

def admitOne : List Label :=
  Label.serve 0 0 (.reserve (.sample "one" "1")) 1 ++ Label.serve 1 0 (.admitRun (.sample "one" "2")) 2

def releaseQueued : List Label :=
  Label.serve 0 0 (.reserve (.sample "one" "1")) 1 ++ Label.serve 1 0 (.enqueue (.sample "one" "2")) 2 ++
  Label.serve 2 0 (.release (.sample "one" "3")) 3

/-- The calls succeed; repeated at once they conflict with themselves. -/
theorem retry_conflicts : (∃ sys record, Reachable (fun _ => .sample) (fun _ _ _ => True) "i" sys ∧
      sys.flights 1 = some ⟨0, .admitRun (.sample "one" "2"), .done (.ok (record, true))⟩ ∧
      (sample.serve (.admitRun (.sample "one" "2")) (fun _ _ => (3, 3)) sys.store
        (sys.caches 0)).1 = .error (refused .backpressureDefer .conflict .conflict)) ∧
    ∃ sys record, Reachable (fun _ => .sample) (fun _ _ _ => True) "i" sys ∧
      sys.flights 2 = some ⟨0, .release (.sample "one" "3"), .done (.ok (record, true))⟩ ∧
      (sample.serve (.release (.sample "one" "3")) (fun _ _ => (4, 4)) sys.store
        (sys.caches 0)).1 = .error (refused .admissionRelease .conflict .conflict) := by
  have conflicts : ∀ (labels : List Label) (k : Nat) (call : Call) (now : Time) (e : Error),
      (∃ sys, System.run (fun _ => .sample) (fun _ _ _ => True) .sample labels = some sys ∧
        ∃ flight, sys.flights k = some flight ∧ ∃ answer, flight.answer = some answer ∧
          flight.service = 0 ∧ flight.call = call ∧ answer.2 = true ∧
          (sample.serve call (fun _ _ => (now, now)) sys.store (sys.caches 0)).1 = .error e) →
      ∃ sys record, Reachable (fun _ => .sample) (fun _ _ _ => True) "i" sys ∧
        sys.flights k = some ⟨0, call, .done (.ok (record, true))⟩ ∧
        (sample.serve call (fun _ _ => (now, now)) sys.store (sys.caches 0)).1 = .error e := by
    rintro labels k call now e ⟨sys, ran, flight, found, ⟨record, _⟩, answered, service, rfl, rfl, served⟩
    rw [Flight.answer_eq answered, service] at found
    exact ⟨sys, record, System.sample_reachable.run ran, found, served⟩
  exact ⟨conflicts admitOne 1 _ 3 _ (by decide +kernel), conflicts releaseQueued 2 _ 4 _ (by decide +kernel)⟩

end Paje.Admission
