import Paje.Isolation.Replayable

/-!
Pending-work gates. A task leaves DEFERRED for READY_FOR_OWNERSHIP behind gates that were woken,
unless a task transition takes it past a pending one.
-/

namespace Paje.Isolation

open Text Journal List Projection Option Service Keyed

variable {spec : OperationSpec} {p q : Projection} {s : Service} {taskID : String}

/-- A task transition out of DEFERRED that makes the task ready leaves no pending gate behind. -/
def Call.Guarded (p : Projection) : Call → Prop
  | .transitionTask request => request.fromPhase = some .deferred →
    request.toPhase = .readyForOwnership → p.hasPendingGate request.taskID = false
  | _ => True

instance (p : Projection) (call : Call) : Decidable (call.Guarded p) :=
  decidable_of_iff ((match call with
    | .transitionTask request => decide (request.fromPhase = some .deferred →
      request.toPhase = .readyForOwnership → p.hasPendingGate request.taskID = false)
    | _ => true) = true) (by cases call <;> simp only [Call.Guarded, decide_eq_true_eq])

/-- A committed wake of `gate` by its own resolver with its own fact: its time, not before it was
reached, or its event, which is in the inbox. -/
def Commitment.Resolves (c : Commitment) (p : Projection) (gate : PendingWorkGate) : Prop :=
  ∃ request, c.call = .wakeGate request ∧ request.scope = p.scope ∧ request.gateID = gate.id ∧
    request.resolverAuthority = gate.resolverAuthority ∧
    if gate.kind = .timeNotBefore then request.wakeTime = gate.wakeAt ∧ gate.wakeAt ≤ c.now
    else request.wakeEventID = gate.wakeEventID ∧ (p.inboxItem gate.wakeEventID).isSome

def Woken (history : List Commitment) (p : Projection) : Prop :=
  ∀ gate ∈ p.gates, gate.state = some .resolved → ∃ c ∈ history, c.Resolves p gate

variable {event : Event} {delta : Delta} {gate : PendingWorkGate}

/-! ### What one delta does to gates, inbox and tasks -/

theorem Applied.gates (ready : Ready p) (applied : Applied p event delta q) (member : gate ∈ q.gates) :
    gate ∈ p.gates ∨ gate.state = some .pending ∨ ∃ wake old, delta = .gateWake wake ∧ p.gate wake.gateID = some old ∧
      gate = { old with state := some .resolved, wakeReceipt := wake.wakeReceipt } := by
  cases applied with
  | gateRegister pending =>
    rcases mem_append.mp member with old | added
    · exact .inl old
    · rw [mem_singleton.mp added]
      exact .inr (.inl pending)
  | @gateWake wake =>
    rcases mem_modify member with kept | ⟨other, listed, same, rfl⟩
    · exact .inl kept
    · -- the gate that was changed is the one the wake names
      have known : p.gate wake.gateID = some other := by
        rw [← same]
        exact lookup_of_mem ready.gates listed
      exact .inr (.inr ⟨wake, other, rfl, known, rfl⟩)
  | _ => exact .inl member

theorem Applied.inbox (applied : Applied p event delta q) {eventID : String}
    (known : (p.inboxItem eventID).isSome) : (q.inboxItem eventID).isSome := by
  cases applied with
  | inboxAppend =>
    simp only [inboxItem, lookup_snoc] at known ⊢
    rw [isSome_or, known, Bool.true_or]
  | inboxAck =>
    simp only [inboxItem] at known ⊢
    rw [lookup_modify]
    · split
      · rename_i same
        rw [isSome_map, ← same, known]
      · exact known
    · exact fun _ same => same
  | _ => exact known

theorem applyTaskPhase_other {delta : TaskPhaseDelta}
    (other : taskID ≠ delta.taskID) : (applyTaskPhase p delta).task taskID = p.task taskID := by
  unfold applyTaskPhase task
  dsimp only
  split
  · rw [lookup_modify, if_neg other]
    exact fun _ same => same
  · rw [lookup_snoc, if_neg (Ne.symm other), or_none]

theorem applyTaskPhase_known {delta : TaskPhaseDelta} {old : TaskState} (found : p.task delta.taskID = some old) :
    (applyTaskPhase p delta).task delta.taskID = some { old with phase := delta.toPhase } := by
  unfold applyTaskPhase
  simp only [found]
  unfold task at found ⊢
  dsimp only
  rw [lookup_modify, if_pos rfl, found, map_some]
  exact fun _ same => same

theorem Applied.unpending {old new : TaskState} (applied : Applied p event delta q)
    (before : p.task taskID = some old) (deferred : old.phase = .deferred) (after : q.task taskID = some new)
    (readied : new.phase = .readyForOwnership)
    (guarded : ∀ moved, delta = .taskPhase moved → moved.fromPhase = some .deferred →
      moved.toPhase = .readyForOwnership → p.hasPendingGate moved.taskID = false) :
    q.hasPendingGate taskID = false := by
  have moves : q.task taskID ≠ p.task taskID := by
    intro same
    cases before.symm.trans (same ▸ after)
    rw [deferred] at readied
    cases readied
  cases applied with
  | @taskPhase delta valid =>
    by_cases mine : taskID = delta.taskID
    · subst mine
      unfold validateTaskTransition at valid
      rw [before] at valid
      have checked := require_ok valid
      rw [applyTaskPhase_known before] at after
      cases after
      exact guarded delta rfl (by rw [checked.2.1, deferred]) readied
    · exact absurd (applyTaskPhase_other mine) moves
  | @gateWake delta gate _ _ _ woken =>
    rcases woken with rfl | ⟨free, rfl⟩
    · exact absurd rfl moves
    · by_cases mine : taskID = gate.taskID
      · exact mine ▸ free
      · refine absurd ?_ moves
        show lookup _ _ (modify _ _ _ _) = _
        rw [lookup_modify (by intro task same; exact same), if_neg mine]
        rfl
  | _ => exact absurd rfl moves

theorem hasPendingGate_sorted (p : Projection) (taskID : String) :
    p.sorted.hasPendingGate taskID = p.hasPendingGate taskID := by
  unfold Projection.hasPendingGate
  rw [Bool.eq_iff_iff]
  simp only [List.any_eq_true, Projection.sorted, List.mem_insertionSort]

section Histories

structure Kept (scope : RunScope) (history : List Commitment) (p : Projection) : Prop where
  ready : Ready p
  scope : p.scope = scope
  woken : Woken history p

theorem Kept.new (scope : RunScope) (history : List Commitment) : Kept scope history { scope } :=
  ⟨⟨nodup_nil, nodup_nil, fun _ member => nomatch member⟩, rfl, fun _ member => nomatch member⟩

variable [sha : Sha]

theorem Written.replay_ok {entry : Entry}
    (written : Written spec entry) (h : Entry.replay applyEvent p entry = .ok q) :
    ∃ applied, Applied ((p.moved entry.reservation).moved entry.outcome) entry.outcome spec.delta applied ∧
      q = { applied with revision := applied.revision + 1 } := by
  have reserved : entry.reservation.kind ≠ .actionResult := by
    rw [written.formed.reservedKind]
    intro same
    cases same
  have mine := written.applies
  rw [Entry.replay, applyEvent_other p _ (.inl reserved), ok_bind, applyEvent, if_neg mine] at h
  unfold applyOutcome at h
  obtain ⟨payload, read, h⟩ := bind_ok h
  obtain ⟨_, _, h⟩ := bind_ok h
  cases (relabel_ok read).symm.trans (congrArg Except.ok written.result)
  obtain ⟨_, h⟩ := require_bind_ok h
  obtain ⟨_, _, h⟩ := bind_ok h
  obtain ⟨_, h⟩ := require_bind_ok h
  obtain ⟨_, _, h⟩ := bind_ok h
  obtain ⟨_, _, h⟩ := bind_ok h
  split at h
  · obtain ⟨_, _, h⟩ := bind_ok h
    obtain ⟨applied, apply, h⟩ := bind_ok h
    exact ⟨applied, Delta.apply_ok apply, (pure_ok h).symm⟩
  · cases h

theorem Authors.resolves {c : Commitment}
    {entry : Entry} {wake : GateWakeDelta} (ready : Ready p)
    (authors : Authors s c.call spec c.now p entry) (scope : spec.scope = p.scope)
    (delta : spec.delta = .gateWake wake) (found : p.gate wake.gateID = some gate) : c.Resolves p gate := by
  obtain ⟨operation, _, asks⟩ := spec_call authors.submitted
  rw [delta] at asks
  obtain ⟨request, called⟩ : ∃ request, c.call = .wakeGate request := by
    cases called : c.call <;> rw [called] at asks <;> first | exact ⟨_, rfl⟩ | exact asks.elim
  rw [called] at asks
  rw [called] at operation
  obtain ⟨named, authority, event, time⟩ := asks
  have placed : request.scope = spec.scope := congrArg Operation.scope operation.symm
  have valid := authors.valid
  rw [ready.validate_sorted, delta] at valid
  obtain ⟨_, valid⟩ := require_bind_ok valid
  unfold validateWake at valid
  simp only [found] at valid
  obtain ⟨_, valid⟩ := require_bind_ok valid
  obtain ⟨resolver, valid⟩ := require_bind_ok valid
  refine ⟨request, called, placed.trans scope, named.trans (lookup_mem found).2.symm,
    authority.trans resolver.symm, ?_⟩
  split at valid
  · rename_i kind
    obtain ⟨fact, valid⟩ := require_bind_ok valid
    rw [if_pos kind]
    exact ⟨time.trans fact.2.2, require_ok valid⟩
  · rename_i kind
    obtain ⟨fact, valid⟩ := require_bind_ok valid
    rw [if_neg kind]
    exact ⟨event.trans fact.2, fact.2 ▸ require_ok valid⟩

theorem Kept.advances {svc : Nat → Service} {careful : Call → Projection → Prop} {scope : RunScope} {n m : Nat}
    {before after : List Commitment} {p q : Projection} (kept : Kept scope before p)
    (moves : Advances svc careful scope n m p before q after) : Kept scope after q := by
  obtain _ | @⟨_, c, spec, entry, authors, target, taken⟩ := moves
  · exact ⟨⟨kept.ready.tasks, kept.ready.gates, kept.ready.states⟩, kept.scope, kept.woken⟩
  obtain ⟨applied, apply, rfl⟩ := authors.written.replay_ok taken
  have arrived := (kept.ready.moved entry.reservation).moved entry.outcome
  obtain ⟨ready, same⟩ := apply.ready arrived
  refine ⟨⟨ready.tasks, ready.gates, ready.states⟩, same.trans kept.scope, ?_⟩
  have later : ∀ {gate : PendingWorkGate} {c : Commitment}, c.Resolves p gate →
      c.Resolves { applied with revision := applied.revision + 1 } gate := by
    rintro gate c ⟨request, called, placed, named, authority, fact⟩
    refine ⟨request, called, placed.trans same.symm, named, authority, ?_⟩
    by_cases kind : gate.kind = .timeNotBefore
    · rw [if_pos kind] at fact ⊢
      exact fact
    · rw [if_neg kind] at fact ⊢
      exact ⟨fact.1, apply.inbox fact.2⟩
  intro gate listed resolved
  rcases apply.gates arrived listed with old | pending | ⟨wake, old, delta, found, rfl⟩
  · obtain ⟨earlier, known, resolves⟩ := kept.woken gate old resolved
    exact ⟨earlier, mem_append_left _ known, later resolves⟩
  · rw [resolved] at pending
    cases pending
  · have resolves := authors.resolves kept.ready (target.trans kept.scope.symm) delta found
    exact ⟨c, mem_append_right _ (mem_singleton_self c), later resolves⟩

/-- When guarded calls make a task ready out of DEFERRED, each of its gates has been woken by its own
resolver with its own fact. -/
theorem gates_resolved {svc : Nat → Service} {installationID : String} {sys next : System}
    {label : Label} (reachable : Reachable svc (fun call p => call.Guarded p) installationID sys)
    (allowed : Careful (fun call p => call.Guarded p) sys label)
    (stepped : sys.step svc label = some next) {s : Service} {scope : RunScope} {p q : Projection}
    {here there : RunCursor} (before : s.rebuild sys.store scope = .ok (p, here))
    (after : s.rebuild next.store scope = .ok (q, there)) {taskID : String} {old new : TaskState}
    (waiting : p.task taskID = some old) (deferred : old.phase = .deferred)
    (moved : q.task taskID = some new) (readied : new.phase = .readyForOwnership) :
    ∀ gate ∈ q.gates, gate.taskID = taskID → gate.state = some .resolved ∧ ∃ c ∈ next.history, c.Resolves q gate := by
  obtain ⟨log, sound, always⟩ := reachable.always (F := fun scope _ p accepted => Kept scope accepted p)
    (fun scope => Kept.new scope []) (fun _ _ _ _ _ _ _ _ kept moves => kept.advances moves)
  obtain ⟨later, still, _, back⟩ := sound.advances allowed stepped
  obtain ⟨target, u, replayed, rfl⟩ := sound.rebuilt before
  obtain ⟨_, v, replayed', rfl⟩ := still.rebuilt after
  rw [target] at replayed replayed'
  obtain ⟨w, known, moves⟩ := back _ v replayed'
  cases known.symm.trans replayed
  have began := always _ u replayed
  have kept := began.advances moves
  rw [began.ready.task_sorted] at waiting
  rw [kept.ready.task_sorted] at moved
  have accepted : ∀ c ∈ next.accepted ⟨installationID, scope.controlRunID⟩, c ∈ next.history :=
    fun c listed => List.mem_of_mem_filter listed
  generalize next.accepted ⟨installationID, scope.controlRunID⟩ = listed at moves kept accepted
  cases moves with
  | heads =>
    cases waiting.symm.trans moved
    rw [deferred] at readied
    cases readied
  | wrote authors _ taken _ _ guarded =>
    obtain ⟨applied, apply, rfl⟩ := authors.written.replay_ok taken
    have unpending := apply.unpending waiting deferred moved readied fun phase delta leaves enters => by
      have asks := (Service.spec_call authors.submitted).2.2
      rw [delta] at asks
      cases called : Commitment.call _ with
      | transitionTask request =>
        rw [called] at guarded asks
        cases asks
        have free := guarded leaves enters
        rwa [hasPendingGate_sorted] at free
      | _ => rw [called] at asks; exact asks.elim
    intro gate member mine
    have listed : gate ∈ applied.gates := (List.perm_insertionSort _ applied.gates).mem_iff.mp member
    have resolved : gate.state = some .resolved := by
      have known := kept.ready.states gate listed
      cases state : gate.state with
      | none => exact absurd state known
      | some held => cases held with
        | resolved => rfl
        | pending =>
          simp only [Projection.hasPendingGate, List.any_eq_false, Bool.and_eq_true,
            decide_eq_true_eq, not_and] at unpending
          exact absurd state (unpending gate listed mine)
    obtain ⟨c, known, resolves⟩ := kept.woken gate listed resolved
    exact ⟨resolved, c, accepted c known, resolves⟩

end Histories

attribute [local instance] Sha.sampleHex

def beforeWake : List Label := deferral ++ (Label.serve 3 (.wakeGate (.sample "o3" 3)) 5).dropLast

def beforeBypass : List Label := deferral ++
  (Label.serve 3 (.transitionTask (.sample "o3" 3 (some .deferred) .readyForOwnership)) 1).dropLast

set_option synthInstance.maxSize 512

theorem gates_resolved_wake : ∃ sys next q cursor gate,
    Reachable (fun _ => sample) (fun call p => call.Guarded p) "i" sys ∧
      sys.step (fun _ => .sample) (.advance 3 5) = some next ∧
      sample.rebuild next.store .sample = .ok (q, cursor) ∧ gate ∈ q.gates ∧
      gate.state = some .resolved ∧ ∃ c ∈ next.history, c.Resolves q gate := by
  obtain ⟨sys, ran, allowed, next, stepped, ⟨p, here⟩, first, old, waiting, deferred, ⟨q, there⟩, second, new, moved,
      readied, gate, listed, mine⟩ :
      ∃ sys, System.run (fun _ => .sample) (fun call p => call.Guarded p) .sample beforeWake = some sys ∧
        Careful (fun call p => call.Guarded p) sys (.advance 3 5) ∧
      ∃ next, sys.step (fun _ => .sample) (.advance 3 5) = some next ∧
      ∃ before, sample.rebuild sys.store .sample = .ok before ∧
      ∃ old, before.1.task "t" = some old ∧ old.phase = .deferred ∧
      ∃ after, sample.rebuild next.store .sample = .ok after ∧
      ∃ new, after.1.task "t" = some new ∧ new.phase = .readyForOwnership ∧
      ∃ gate ∈ after.1.gates, gate.taskID = "t" := by decide +kernel
  have reachable := System.sample_reachable.run ran
  obtain ⟨resolved, woken⟩ := gates_resolved reachable allowed stepped first second waiting deferred
    moved readied gate listed mine
  exact ⟨sys, next, q, there, gate, reachable, stepped, second, listed, resolved, woken⟩

/-- A task transition makes a deferred task ready while its gate is pending. -/
theorem gate_bypassed : ∃ sys next p q here there old new gate,
    Reachable (fun _ => sample) (fun _ _ => True) "i" sys ∧
      sys.step (fun _ => .sample) (.advance 3 1) = some next ∧
      sample.rebuild sys.store .sample = .ok (p, here) ∧
      sample.rebuild next.store .sample = .ok (q, there) ∧ p.task "t" = some old ∧ old.phase = .deferred ∧
      q.task "t" = some new ∧ new.phase = .readyForOwnership ∧
      gate ∈ q.gates ∧ gate.taskID = "t" ∧ gate.state = some .pending := by
  obtain ⟨sys, ran, next, stepped, ⟨p, here⟩, first, old, waiting, deferred, ⟨q, there⟩, second, new, moved, readied,
      gate, listed, pending⟩ :
      ∃ sys, System.run (fun _ => .sample) (fun _ _ => True) .sample beforeBypass = some sys ∧
      ∃ next, sys.step (fun _ => .sample) (.advance 3 1) = some next ∧
      ∃ before, sample.rebuild sys.store .sample = .ok before ∧
      ∃ old, before.1.task "t" = some old ∧ old.phase = .deferred ∧
      ∃ after, sample.rebuild next.store .sample = .ok after ∧
      ∃ new, after.1.task "t" = some new ∧ new.phase = .readyForOwnership ∧
      ∃ gate ∈ after.1.gates, gate.taskID = "t" ∧ gate.state = some .pending := by decide +kernel
  exact ⟨sys, next, p, q, here, there, old, new, gate, System.sample_reachable.run ran, stepped,
    first, second, waiting, deferred, moved, readied, listed, pending⟩

end Paje.Isolation
