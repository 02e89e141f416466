import Paje.Isolation.Service
import Paje.Journal.Runs

/-!
Replaying a run. What each operation checks before it commits implies what the replay of its record
checks, with three exceptions that `Call.Orderly` names.
-/

namespace Paje.Isolation

open Text Journal List MemoryStore Service Keyed

variable {call : Call} {entry : Entry} {event : Event} {spec : OperationSpec} {p q : Projection}
  {s : Service} {now : Time}

/-! ### What replays keep of a projection -/

/-- Tasks and gates have one record each, and every gate has a state. -/
structure Ready (p : Projection) : Prop where
  tasks : (p.tasks.map (·.taskID)).Nodup
  gates : (p.gates.map (·.id)).Nodup
  states : ∀ gate ∈ p.gates, gate.state ≠ none

theorem Ready.task_sorted (ready : Ready p) (taskID : String) : p.sorted.task taskID = p.task taskID :=
  lookup_perm ready.tasks (perm_insertionSort _ _).symm

theorem Ready.gate_sorted (ready : Ready p) (gateID : String) : p.sorted.gate gateID = p.gate gateID :=
  lookup_perm ready.gates (perm_insertionSort _ _).symm

theorem Ready.validate_sorted (ready : Ready p) (delta : Delta) (now : Time) :
    delta.validate p.sorted now = delta.validate p now := by
  have inbox : ∀ eventID, p.sorted.inboxItem eventID = p.inboxItem eventID := fun _ => rfl
  have phase : p.sorted.runPhase = p.runPhase := rfl
  cases delta <;> simp only [Delta.validate, validateTaskTransition, validateRunTransition, validateWake,
      ready.task_sorted, ready.gate_sorted, inbox, phase]

theorem applyTaskPhase_ready (ready : Ready p) (delta : TaskPhaseDelta) : Ready (applyTaskPhase p delta) := by
  unfold applyTaskPhase
  refine ⟨?_, ready.gates, ready.states⟩
  dsimp only
  split
  · exact nodup_modify ready.tasks fun _ same => same
  · rename_i fresh
    exact nodup_snoc ready.tasks fresh

inductive Applied (p : Projection) (event : Event) : Delta → Projection → Prop
  | taskPhase {delta : TaskPhaseDelta} (valid : validateTaskTransition p delta = .ok ()) :
      Applied p event (.taskPhase delta) (applyTaskPhase p delta)
  | runPhase {delta : RunPhaseDelta} {runPhase : RunPhase} (valid : validateRunTransition p delta = .ok ())
      (moved : applyRunPhase p delta = { p with runPhase }) : Applied p event (.runPhase delta) { p with runPhase }
  | inboxAppend {delta : InboxAppendDelta} {item : InboxItem} (fresh : p.inboxItem item.eventID = none)
      (made : item.journalPosition = event.journalPosition ∧ item.acknowledgementReceipt = "") :
      Applied p event (.inboxAppend delta) { p with inbox := p.inbox ++ [item] }
  | inboxAck {delta : InboxAckDelta} {item : InboxItem} (found : p.inboxItem delta.eventID = some item)
      (isOpen : item.consumer = delta.consumer ∧ item.acknowledgementReceipt = "") :
      Applied p event (.inboxAck delta) { p with
        inbox := Keyed.modify (·.eventID) delta.eventID
          (fun item => { item with acknowledgementReceipt := delta.receiptID }) p.inbox }
  | gateRegister {gate : PendingWorkGate} {runPhase : RunPhase} (pending : gate.state = some .pending)
      (fresh : p.gate gate.id = none) (derived : runPhase = if p.runPhase = .frozenSecurity then p.runPhase
        else Projection.deriveRunPhase { p with gates := p.gates ++ [gate] }) :
      Applied p event (.gateRegister gate) { p with gates := p.gates ++ [gate], runPhase }
  | gateWake {delta : GateWakeDelta} {gate : PendingWorkGate} {tasks : List TaskState}
      (found : p.gate delta.gateID = some gate) (pending : gate.state = some .pending)
      (woken : tasks = p.tasks ∨ (resolveGate p delta).hasPendingGate gate.taskID = false ∧
        tasks = Keyed.modify (·.taskID) gate.taskID (fun task => { task with phase := .readyForOwnership }) p.tasks) :
      Applied p event (.gateWake delta) { resolveGate p delta with
        tasks, runPhase := Projection.deriveRunPhase { resolveGate p delta with tasks } }

variable {delta : Delta}

theorem Delta.apply_ok (h : delta.apply p event = .ok q) : Applied p event delta q := by
  cases delta with
  | taskPhase delta =>
    obtain ⟨_, valid, h⟩ := bind_ok h
    exact pure_ok h ▸ .taskPhase valid
  | runPhase delta =>
    obtain ⟨_, valid, h⟩ := bind_ok h
    have moved : applyRunPhase p delta = { p with runPhase := (applyRunPhase p delta).runPhase } := by
      unfold applyRunPhase
      dsimp only
      split <;> rfl
    rw [← pure_ok h, moved]
    exact .runPhase valid moved
  | inboxAppend delta =>
    obtain ⟨fresh, h⟩ := require_bind_ok h
    rw [← pure_ok h]
    exact .inboxAppend fresh ⟨rfl, rfl⟩
  | inboxAck delta =>
    simp only [Delta.apply, applyInboxAck] at h
    split at h
    · cases h
    · rename_i item found
      obtain ⟨isOpen, h⟩ := require_bind_ok h
      exact pure_ok h ▸ .inboxAck found isOpen
  | gateRegister gate =>
    obtain ⟨defined, h⟩ := require_bind_ok h
    obtain ⟨_, h⟩ := require_bind_ok h
    obtain ⟨fresh, h⟩ := require_bind_ok h
    have done := pure_ok h
    subst done
    split
    · rename_i frozen
      exact .gateRegister defined.2 fresh (if_pos frozen).symm
    · rename_i free
      exact .gateRegister defined.2 fresh (if_neg free).symm
  | gateWake delta =>
    simp only [Delta.apply, applyGateWake] at h
    split at h
    · cases h
    · rename_i gate found
      obtain ⟨⟨pending, _⟩, h⟩ := require_bind_ok h
      obtain ⟨_, _, h⟩ := bind_ok h
      obtain ⟨woken, wake, h⟩ := bind_ok h
      rw [← pure_ok h]
      unfold wakeTask at wake
      split at wake
      · rw [← pure_ok wake]
        exact .gateWake found pending (.inl rfl)
      · rename_i free
        split at wake
        · rw [← pure_ok wake]
          exact .gateWake found pending (.inl rfl)
        · obtain ⟨_, wake⟩ := require_bind_ok wake
          rw [← pure_ok wake]
          exact .gateWake found pending (.inr ⟨Bool.not_eq_true _ ▸ free, rfl⟩)

theorem Applied.ready (ready : Ready p) (applied : Applied p event delta q) :
    Ready q ∧ q.scope = p.scope := by
  cases applied with
  | taskPhase => exact ⟨applyTaskPhase_ready ready _, rfl⟩
  | gateRegister pending fresh =>
    refine ⟨⟨ready.tasks, nodup_snoc ready.gates fresh, fun other member => ?_⟩, rfl⟩
    rcases mem_append.mp member with old | new
    · exact ready.states other old
    · rw [mem_singleton.mp new, pending]
      exact Option.some_ne_none _
  | gateWake found pending woken =>
    refine ⟨⟨?_, nodup_modify ready.gates fun _ same => same, fun gate member => ?_⟩, rfl⟩
    · rcases woken with rfl | ⟨_, rfl⟩
      · exact ready.tasks
      · exact nodup_modify ready.tasks fun _ same => same
    · rcases mem_modify member with old | ⟨old, _, _, rfl⟩
      · exact ready.states gate old
      · exact Option.some_ne_none _
  | _ => exact ⟨⟨ready.tasks, ready.gates, ready.states⟩, rfl⟩

theorem Ready.moved (ready : Ready p) (event : Event) : Ready (p.moved event) :=
  ⟨ready.tasks, ready.gates, ready.states⟩

/-! ### From the checks before a commit to the checks of the replay -/

/-- The task of a woken gate is deferred, or another of its gates is pending. -/
abbrev Projection.Wakes (p : Projection) (gateID : String) : Prop := ∀ gate ∈ p.gate gateID,
  (∃ other ∈ p.gates, other.id ≠ gateID ∧ other.taskID = gate.taskID ∧ other.state = some .pending) ∨
  ∀ task ∈ p.task gate.taskID, task.phase = .deferred

/-- Where a call commits what the replay refuses: an optional identifier that the record needs was
left empty, or a woken gate is the last pending one of a task that is no longer deferred. -/
def Call.Orderly (p : Projection) : Call → Prop
  | .transitionTask request => request.taskID ≠ ""
  | .appendCallback request => request.taskID ≠ "" ∧ request.attemptID ≠ ""
  | .wakeGate request => p.Wakes request.gateID
  | _ => True

instance (p : Projection) (call : Call) : Decidable (call.Orderly p) := by
  cases call <;> unfold Call.Orderly <;> infer_instance

def Delta.Wakes (p : Projection) : Delta → Prop
  | .gateWake delta => p.Wakes delta.gateID
  | _ => True

theorem wakeTask_accepts {delta : GateWakeDelta} {gate : PendingWorkGate}
    (ready : Ready p) (found : p.gate delta.gateID = some gate)
    (wakes : Delta.Wakes p (.gateWake delta)) : ∃ q, wakeTask (resolveGate p delta) gate.taskID = .ok q := by
  unfold wakeTask
  by_cases pending : (resolveGate p delta).hasPendingGate gate.taskID
  · exact ⟨_, if_pos pending⟩
  · rw [if_neg pending]
    -- no other gate of the task is pending, so the task must still be deferred
    have deferred : ∀ task ∈ p.task gate.taskID, task.phase = .deferred := by
      refine (wakes gate found).resolve_left ?_
      rintro ⟨other, listed, different, same, state⟩
      refine pending ?_
      unfold Projection.hasPendingGate resolveGate
      rw [any_modify ready.gates (by simp)]
      simp only [any_eq_true, Bool.and_eq_true, decide_eq_true_eq]
      exact ⟨other, listed, different, same, state⟩
    have same : (resolveGate p delta).task gate.taskID = p.task gate.taskID := rfl
    rw [same]
    cases task : p.task gate.taskID with
    | none => exact ⟨_, rfl⟩
    | some current => exact ⟨_, require_bind _ (deferred current task)⟩

theorem applyGateWake_accepts {delta : GateWakeDelta} (ready : Ready p)
    (valid : validateWake p delta now = .ok ()) (wakes : Delta.Wakes p (.gateWake delta)) :
    ∃ q, applyGateWake p delta = .ok q := by
  unfold validateWake at valid
  unfold applyGateWake
  cases found : p.gate delta.gateID with
  | none =>
    rw [found] at valid
    cases valid
  | some gate =>
    simp only [found] at valid ⊢
    obtain ⟨unresolved, valid⟩ := require_bind_ok valid
    obtain ⟨authority, valid⟩ := require_bind_ok valid
    have pending : gate.state = some .pending := by
      have known := ready.states gate (lookup_mem found).1
      cases state : gate.state with
      | none => exact absurd state known
      | some held => cases held with
        | pending => rfl
        | resolved => exact absurd state unresolved
    rw [require_bind _ ⟨pending, authority⟩]
    obtain ⟨q, woken⟩ := wakeTask_accepts ready found wakes
    have fact : wakeFact p gate delta = .ok () := by
      unfold wakeFact
      split at valid
      · rename_i kind
        obtain ⟨named, _⟩ := require_bind_ok valid
        rw [if_pos kind, require_pos ⟨named.1, named.2.2⟩]
      · rename_i kind
        obtain ⟨named, valid⟩ := require_bind_ok valid
        rw [if_neg kind, require_pos ⟨named.1, named.2, require_ok valid⟩]
    rw [fact, ok_bind, woken]
    exact ⟨_, rfl⟩

theorem Delta.apply_accepts {action : Action} (ready : Ready p) (valid : delta.validate p now = .ok ())
    (shaped : delta.Shaped action) (wakes : delta.Wakes p) : ∃ q, delta.apply p event = .ok q := by
  cases delta with
  | taskPhase delta =>
    obtain ⟨_, valid⟩ := require_bind_ok valid
    exact ⟨applyTaskPhase p delta, by simp only [Delta.apply, valid, ok_bind]; rfl⟩
  | runPhase delta =>
    exact ⟨applyRunPhase p delta, by
      simp only [Delta.apply, show validateRunTransition p delta = .ok () from valid, ok_bind]; rfl⟩
  | inboxAppend delta => exact ⟨_, require_bind _ (require_ok valid)⟩
  | inboxAck delta =>
    simp only [Delta.validate] at valid
    simp only [Delta.apply, applyInboxAck]
    cases found : p.inboxItem delta.eventID with
    | none =>
      rw [found] at valid
      cases valid
    | some item =>
      simp only [found] at valid ⊢
      obtain ⟨consumer, valid⟩ := require_bind_ok valid
      exact ⟨_, require_bind _ ⟨consumer, require_ok valid⟩⟩
  | gateRegister gate =>
    simp only [Delta.validate] at valid
    obtain ⟨_, _, _, defined, pending, _⟩ := shaped
    cases found : p.task gate.taskID with
    | none =>
      rw [found] at valid
      cases valid
    | some task =>
      simp only [found] at valid
      obtain ⟨deferred, valid⟩ := require_bind_ok valid
      have waiting : (p.task gate.taskID).any (·.phase = .deferred) = true := by
        simp [found, deferred]
      simp only [Delta.apply, applyGateRegister]
      rw [require_bind _ ⟨defined, pending⟩, require_bind _ waiting, require_bind _ (require_ok valid)]
      exact ⟨_, rfl⟩
  | gateWake delta =>
    obtain ⟨_, valid⟩ := require_bind_ok valid
    exact applyGateWake_accepts ready valid wakes

section Records

theorem validIdentifier_named {value : String} {limit : Nat} (valid : validIdentifier value limit = true) :
    ¬ blank value := by
  simp only [validIdentifier, Bool.and_eq_true, decide_eq_true_eq] at valid
  obtain ⟨⟨⟨trim, present⟩, _⟩, _⟩ := valid
  intro empty
  unfold blank at empty
  unfold trimmed at trim
  split at empty
  · rename_i plain
    rw [if_pos plain] at trim
    cases text : bytes value with
    | nil => exact present (bytes_inj text)
    | cons first rest =>
      rw [text] at empty trim
      simp_all
  · rename_i wide
    rw [if_neg wide] at trim
    cases text : value.toList with
    | nil => exact present (String.toList_inj.mp text)
    | cons first rest =>
      rw [text] at empty trim
      simp_all

variable [sha : Sha]

def Call.operation : Call → Operation
  | .transitionTask request => request.toOperation
  | .transitionRun request => request.toOperation
  | .appendCallback request => request.toOperation
  | .acknowledgeInbox request => request.toOperation
  | .registerGate request => request.toOperation
  | .wakeGate request => request.toOperation

def Call.Asks : Call → Delta → Prop
  | .transitionTask r, .taskPhase delta => delta = ⟨r.taskID, r.attemptID, r.fromPhase, r.toPhase⟩
  | .transitionRun r, .runPhase delta => delta = ⟨r.fromPhase, r.toPhase, r.authority⟩
  | .appendCallback r, .inboxAppend delta => delta.eventID = r.eventID
  | .acknowledgeInbox r, .inboxAck delta => delta = ⟨r.eventID, r.consumer, r.receiptID⟩ ∧ r.receiptID ≠ ""
  | .registerGate r, .gateRegister gate => gate = { r.gate with state := some .pending }
  | .wakeGate r, .gateWake delta => r.gateID = delta.gateID ∧ r.resolverAuthority = delta.resolverAuthority ∧
    r.wakeEventID = delta.wakeEventID ∧ r.wakeTime = delta.wakeTime
  | _, _ => False

theorem Service.spec_call (h : s.spec call = .ok spec) :
    spec.toOperation = call.operation ∧ (s.ValidScope spec.scope ∧ validIdentifier spec.operationID 128 = true ∧
      spec.graphRevision ≠ 0) ∧ call.Asks spec.delta := by
  cases call with
  | transitionTask request =>
    obtain ⟨⟨valid, named, revised, _⟩, h⟩ := require_bind_ok h
    exact pure_ok h ▸ ⟨rfl, ⟨valid, named, revised⟩, rfl⟩
  | acknowledgeInbox request =>
    obtain ⟨⟨valid, named, revised, _⟩, h⟩ := require_bind_ok h
    obtain ⟨⟨_, _, receipt⟩, h⟩ := require_bind_ok h
    have present : request.receiptID ≠ "" := by
      intro empty
      rw [empty] at receipt
      cases receipt
    exact pure_ok h ▸ ⟨rfl, ⟨valid, named, revised⟩, rfl, present⟩
  | wakeGate request =>
    obtain ⟨⟨valid, named, revised, _⟩, h⟩ := require_bind_ok h
    obtain ⟨_, h⟩ := require_bind_ok h
    exact pure_ok h ▸ ⟨rfl, ⟨valid, named, revised⟩, rfl, rfl, rfl, rfl⟩
  | _ =>
    obtain ⟨⟨valid, named, revised, _⟩, h⟩ := require_bind_ok h
    obtain ⟨_, h⟩ := require_bind_ok h
    exact pure_ok h ▸ ⟨rfl, ⟨valid, named, revised⟩, rfl⟩

theorem validIdentifier_wakeReceipt (hex : sha.HexSeeds) (values : List String) :
    validIdentifier (stableID "gate_wake" values) 128 = true := by
  have plain : graphic (stableID "gate_wake" values) = true := stableID_graphic hex (by decide) values
  have clean : containsAny (stableID "gate_wake" values) [0, 9, 10, 13, 32] = false :=
    graphic_containsAny plain (by decide +kernel)
  have fits : (stableID "gate_wake" values).utf8ByteSize = 42 := by
    rw [stableID_size hex]
    decide
  have present : stableID "gate_wake" values ≠ "" := by
    intro empty
    rw [empty] at fits
    cases fits
  simp [validIdentifier, graphic_trimmed plain, fits, present, clean]

theorem Service.spec_shaped (hex : sha.HexSeeds) (h : s.spec call = .ok spec) (orderly : call.Orderly p) :
    spec.delta.Shaped spec.action := by
  cases call with
  | transitionTask request =>
    obtain ⟨⟨_, _, _, task, attempt, _⟩, h⟩ := require_bind_ok h
    exact pure_ok h ▸ ⟨rfl, rfl, rfl, task.resolve_left orderly, attempt⟩
  | transitionRun request =>
    obtain ⟨_, h⟩ := require_bind_ok h
    obtain ⟨authority, h⟩ := require_bind_ok h
    exact pure_ok h ▸ ⟨rfl, rfl, rfl, authority⟩
  | appendCallback request =>
    obtain ⟨⟨_, _, _, task, attempt, _⟩, h⟩ := require_bind_ok h
    obtain ⟨⟨event, correlation, external, generation, producer, consumer, payload⟩, h⟩ :=
      require_bind_ok h
    exact pure_ok h ▸ ⟨rfl, rfl, rfl, event, correlation, task.resolve_left orderly.1,
      attempt.resolve_left orderly.2, external, Nat.pos_of_ne_zero generation, producer, consumer,
      payload⟩
  | acknowledgeInbox request =>
    obtain ⟨_, h⟩ := require_bind_ok h
    obtain ⟨named, h⟩ := require_bind_ok h
    exact pure_ok h ▸ ⟨rfl, rfl, rfl, named⟩
  | registerGate request =>
    obtain ⟨_, h⟩ := require_bind_ok h
    obtain ⟨⟨_, receipt, defined⟩, h⟩ := require_bind_ok h
    exact pure_ok h ▸ ⟨rfl, rfl, rfl, defined, rfl, receipt⟩
  | wakeGate request =>
    obtain ⟨_, h⟩ := require_bind_ok h
    obtain ⟨⟨gate, authority, event⟩, h⟩ := require_bind_ok h
    exact pure_ok h ▸ ⟨rfl, rfl, rfl, gate, authority, validIdentifier_wakeReceipt hex _, event⟩

theorem Service.spec_wakes (h : s.spec call = .ok spec) (orderly : call.Orderly p) : spec.delta.Wakes p := by
  have asks := (spec_call h).2.2
  cases call <;> cases delta : spec.delta <;> rw [delta] at asks <;> first | exact asks.elim | exact trivial | skip
  rw [Delta.Wakes, ← asks.1]
  exact orderly

structure Written (spec : OperationSpec) (entry : Entry) : Prop where
  formed : entry.WellFormed
  action : entry.action = spec.action
  outcome : entry.outcome = { spec.event with
    runSequence := entry.outcome.runSequence
    journalPosition := entry.outcome.journalPosition }
  request : entry.request = .isolationRequest spec.request
  result : entry.result = .isolationOutcome spec.outcome

theorem Written.requestRead (separates : sha.Separates)
    (written : Written spec entry) : entry.requestRead = .isolationRequest spec.request := by
  have digests : entry.action.canonicalRequestDigest ≠ entry.outcome.payloadDigest := by
    intro same
    obtain ⟨valid, requested⟩ := validatePayload_ok written.formed.requestStored
    obtain ⟨_, resulted⟩ := validatePayload_ok written.formed.resultStored
    rw [← resulted, ← requested, written.request, written.result] at same
    rw [← requested, written.request] at valid
    cases digest_inj separates valid same
  rw [Entry.requestRead, if_neg digests, written.request]

theorem Written.bound (written : Written spec entry) (named : validIdentifier spec.operationID 128 = true)
    (revised : spec.graphRevision ≠ 0) (scope : spec.scope = p.scope) (shaped : spec.delta.Shaped spec.action) :
    validateReplayBinding spec.request spec.outcome entry.action entry.outcome p = .ok () := by
  unfold validateReplayBinding
  rw [require_bind _ ⟨rfl, rfl, rfl, scope, named, revised⟩, written.action, written.outcome,
    require_bind _ ⟨rfl, rfl, rfl, rfl, rfl, rfl, rfl, rfl, rfl⟩,
    require_bind _ (show spec.outcome.delta.Shaped spec.action from shaped), require_pos (by rfl)]

theorem Written.applied (separates : sha.Separates) (written : Written spec entry) (scope : spec.scope = p.scope)
    (revision : p.revision = spec.expectedRevision)
    (bound : validateReplayBinding spec.request spec.outcome entry.action entry.outcome p = .ok ())
    (applied : spec.delta.apply p entry.outcome = .ok q) :
    applyOutcome p entry.outcome entry.evidence = .ok { q with revision := q.revision + 1 } := by
  have resulted := written.formed.resultStored
  have requested := written.formed.requestStored
  rw [written.result] at resulted
  rw [written.request] at requested
  unfold applyOutcome
  simp only [Entry.evidence, relabel, ok_bind, written.result, resulted, written.requestRead separates, requested]
  rw [require_bind _ ⟨rfl, scope⟩, require_bind _]
  · rw [bound, ok_bind]
    simp only [OperationSpec.outcome, applied, ok_bind]
    rfl
  · rw [written.action]
    exact ⟨revision.symm, congrArg RunScope.controlRunID scope⟩

theorem applyEvent_other (p : Projection) (evidence : Evidence)
    (other : event.kind ≠ .actionResult ∨ beginsWith isolationActionStart event.actionID = false) :
    applyEvent p event evidence = .ok (p.moved event) := if_pos other

theorem Written.applies (written : Written spec entry) : ¬ (entry.outcome.kind ≠ .actionResult ∨
      beginsWith isolationActionStart entry.outcome.actionID = false) := by
  rw [written.outcome]
  rintro (kind | id)
  · exact kind rfl
  · exact Bool.noConfusion (id.symm.trans (stableID_beginsWith "isolation_action" _))

theorem Written.replays (separates : sha.Separates) (hex : sha.HexSeeds)
    (written : Written spec entry) (submitted : s.spec call = .ok spec) (ready : Ready p)
    (scope : spec.scope = p.scope) (revision : p.revision = spec.expectedRevision)
    (valid : spec.delta.validate p now = .ok ()) (orderly : call.Orderly p) :
    ∃ q, Entry.replay applyEvent p entry = .ok q ∧ Ready q ∧ q.scope = p.scope := by
  obtain ⟨_, ⟨_, named, revised⟩, _⟩ := Service.spec_call submitted
  have shaped := Service.spec_shaped hex submitted orderly
  have wakes := spec_wakes submitted orderly
  have reserved : entry.reservation.kind ≠ .actionResult := by
    rw [written.formed.reservedKind]
    intro same
    cases same
  have mine := written.applies
  have arrived := (ready.moved entry.reservation).moved entry.outcome
  obtain ⟨q, applied⟩ : ∃ q, spec.delta.apply ((p.moved entry.reservation).moved entry.outcome)
    entry.outcome = .ok q := Delta.apply_accepts arrived valid shaped wakes
  obtain ⟨kept, same⟩ := (Delta.apply_ok applied).ready arrived
  refine ⟨{ q with revision := q.revision + 1 }, ?_, ⟨kept.tasks, kept.gates, kept.states⟩, same⟩
  rw [Entry.replay, applyEvent_other p _ (.inl reserved), ok_bind, applyEvent, if_neg mine]
  exact written.applied separates scope revision (written.bound named revised scope shaped) applied

def replay (scope : RunScope) (entries : List Entry) : Except Error Projection :=
  entries.foldlM (Entry.replay applyEvent) { scope }

theorem applyEvent_ignores (p : Projection) (event : Event) (one two : Evidence)
    (reserved : event.kind = .actionReserved) : applyEvent p event one = applyEvent p event two := by
  have other : event.kind ≠ .actionResult := by
    rw [reserved]
    intro same
    cases same
  rw [applyEvent_other p one (.inl other), applyEvent_other p two (.inl other)]

theorem Service.rebuild_eq {store : MemoryStore} {log : List Entry} {scope : RunScope}
    (holds : store.Holds log) (valid : s.ValidScope scope)
    (here : s.installationID = store.installationID) : s.rebuild store scope =
      replay scope (runLog log scope.controlRunID) >>= fun p =>
        .ok (p.sorted, store.runCursorAt scope.controlRunID (store.runOf scope.controlRunID).length) := by
  unfold rebuild
  have served := (readRun_serves holds.numbered holds.runs
    (validIdentifier_named valid.2.1)).relabel Error.journal
  have start : newRunCursor s.installationID scope.controlRunID = store.runCursorAt scope.controlRunID 0 := by
    rw [here]
    rfl
  rw [require_bind _ valid, Paging.readAll_eq served (fun _ => True) _ (fun _ _ _ _ => rfl)
    (fun _ _ _ _ _ => trivial) trivial (Nat.zero_le _) (by omega) (by rw [start]), drop_zero,
    holds.replayRun_eq applyEvent_ignores, bind_assoc]
  rfl

theorem Service.rebuild_installation {store : MemoryStore} {scope : RunScope}
    {read : Projection × RunCursor} (h : s.rebuild store scope = .ok read) :
    s.ValidScope scope ∧ s.installationID = store.installationID := by
  unfold rebuild at h
  obtain ⟨valid, h⟩ := require_bind_ok h
  obtain ⟨_, fetched, _⟩ := bind_ok h
  rw [Paging.readAll] at fetched
  obtain ⟨_, first, _⟩ := bind_ok fetched
  exact ⟨valid, readRun_installation Nat.one_ne_zero (relabel_ok first)⟩

end Records

end Paje.Isolation
