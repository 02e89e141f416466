import Paje.Scheduler.Snapshot

/-!
What one event of the journal can do to the ready queue, and the runs that a history admits.
-/

namespace Paje.Scheduler

open Text Journal

variable {value : Admission.RunAdmission} {policy : Policy} {snapshot : SchedulerSnapshot}
  {installationID : String} {now : Time}
variable {outcome : Admission.OutcomeEnvelope} {event : Event} {excluded : Table Bool}

/-- The part of the rebuild's state that selection reads. -/
structure Queue where
  ready : Table ReadyEntry
  virtualFinish : Table UInt64
  fairness : FairnessState
  excluded : Table Bool

def Replay.queue (r : Replay) : Queue :=
  ⟨r.snapshot.ready, r.snapshot.virtualFinish, r.snapshot.fairness, r.excluded⟩

def carried (event : Event) (evidence : Evidence) : Option Admission.OutcomeEnvelope :=
  if event.kind.isOutcome ∧ beginsWith admissionActionStart event.actionID then
    match evidence.payload with
    | .ok (.admissionOutcome outcome) => some outcome
    | _ => none
  else none

def recordOf (operation : Admission.SemanticOperation) (outcome : Admission.OutcomeEnvelope) :
    Option Admission.RunAdmission :=
  match outcome.effect with
  | .admission value => if outcome.semanticOperation = operation then some value else none
  | _ => none

/-- What an event that carries `outcome` can make of the queue. -/
inductive QueueStep (policy : Policy) (event : Event) (r : Replay) : Option Admission.OutcomeEnvelope → Queue → Prop
  | kept {outcome : Option Admission.OutcomeEnvelope}
      (idle : ∀ o ∈ outcome, recordOf .queueEnqueue o = none ∧ recordOf .queueAdmit o = none ∧
        recordOf .backpressureDefer o = none) : QueueStep policy event r outcome r.queue
  | enqueued {outcome : Admission.OutcomeEnvelope} {value : Admission.RunAdmission}
      (record : recordOf .queueEnqueue outcome = some value)
      (fresh : r.snapshot.ready.get? (recordKey value) = none) :
      QueueStep policy event r (some outcome)
        { r.queue with ready := r.snapshot.ready.put (recordKey value) (queuedEntry event value) }
  | deferred {outcome : Admission.OutcomeEnvelope} {value : Admission.RunAdmission}
      {entry : ReadyEntry} {excluded : Table Bool}
      (record : recordOf .backpressureDefer outcome = some value)
      (held : r.snapshot.ready.get? (recordKey value) = some entry)
      (same : entry.current.subject = value.subject)
      (left : excluded = r.excluded ∨ excluded = ∅)
      (chosen : chooses policy r.snapshot event.occurredAt excluded (recordKey value) = true) :
      QueueStep policy event r (some outcome)
        { r.queue with
          ready := r.snapshot.ready.put (recordKey value) (deferredEntry event entry value)
          excluded := excluded.put (recordKey value) true }
  | admitted {outcome : Admission.OutcomeEnvelope} {value : Admission.RunAdmission}
      {entry : ReadyEntry} {selected : RankedItem} {next : FairnessState}
      (record : recordOf .queueAdmit outcome = some value)
      (held : r.snapshot.ready.get? (recordKey value) = some entry)
      (same : entry.current.subject = value.subject)
      (selection : historicalSelection policy r.snapshot event.occurredAt r.excluded = .ok (selected, next))
      (mine : selected.itemKey = recordKey value) :
      QueueStep policy event r (some outcome)
        { ready := r.snapshot.ready.drop (recordKey value)
          virtualFinish := r.snapshot.virtualFinish.put value.controlRunID selected.virtualFinish
          fairness := next
          excluded := ∅ }
  | released {outcome : Admission.OutcomeEnvelope} {value : Admission.AdmissionTombstone}
      (effect : outcome.effect = .admissionTombstone value) :
      QueueStep policy event r (some outcome)
        { r.queue with
          ready := r.snapshot.ready.drop (admissionKey value.controlRunID value.subject.id) }

theorem recordOf_some {operation : Admission.SemanticOperation} (record : recordOf operation outcome = some value) :
    outcome.effect = .admission value ∧ outcome.semanticOperation = operation := by
  unfold recordOf at record
  split at record
  · rename_i effect
    split at record
    · rename_i same
      cases record
      exact ⟨effect, same⟩
    · cases record
  · cases record

theorem recordOf_other {one two : Admission.SemanticOperation}
    (record : recordOf one outcome = some value) (different : one ≠ two) : recordOf two outcome = none := by
  obtain ⟨effect, same⟩ := recordOf_some record
  simp [recordOf, effect, same, different]

theorem QueueStep.admission {r : Replay} {q : Queue} (change : QueueStep policy event r (some outcome) q)
    (record : recordOf .queueAdmit outcome = some value) : ∃ entry selected next,
      r.snapshot.ready.get? (recordKey value) = some entry ∧ entry.current.subject = value.subject ∧
      historicalSelection policy r.snapshot event.occurredAt r.excluded = .ok (selected, next) ∧
      selected.itemKey = recordKey value := by
  cases change with
  | kept idle => cases (idle outcome rfl).2.1.symm.trans record
  | enqueued other _ => cases (recordOf_other other (by decide)).symm.trans record
  | deferred other _ _ _ _ => cases (recordOf_other other (by decide)).symm.trans record
  | released effect => simp [recordOf, effect] at record
  | admitted mine held same selection key =>
    cases Option.some.inj (mine.symm.trans record)
    exact ⟨_, _, _, held, same, selection, key⟩

theorem historicalSelection_congr {one two : SchedulerSnapshot} (ready : one.ready = two.ready)
    (finish : one.virtualFinish = two.virtualFinish) (fairness : one.fairness = two.fairness) :
    historicalSelection policy one now excluded = historicalSelection policy two now excluded := by
  unfold historicalSelection selectFrom
  rw [ready, finish, fairness]

theorem verifyHistoricalChoice_ok {key : String} {left : Table Bool}
    (h : verifyHistoricalChoice policy snapshot key now excluded = .ok left) :
    (left = excluded ∨ left = ∅) ∧ chooses policy snapshot now left key = true := by
  unfold verifyHistoricalChoice at h
  split at h
  · rename_i chosen
    cases h
    exact ⟨.inl rfl, chosen⟩
  · split at h
    · rename_i chosen
      cases h
      exact ⟨.inr rfl, chosen.2⟩
    · cases h

theorem applyAdmission_ok (r : Replay) {after : SchedulerSnapshot}
    {left : Table Bool} {action : Action} {reservation : Event}
    (effect : outcome.effect = .admission value) (ready : snapshot.ready = r.snapshot.ready)
    (finish : snapshot.virtualFinish = r.snapshot.virtualFinish) (fairness : snapshot.fairness = r.snapshot.fairness)
    (h : applyAdmission policy snapshot r.excluded action reservation event outcome value = .ok (after, left)) :
    QueueStep policy event r (some outcome) ⟨after.ready, after.virtualFinish, after.fairness, left⟩ := by
  unfold applyAdmission at h
  obtain ⟨_, h⟩ := require_bind_ok h
  have record : ∀ operation, outcome.semanticOperation = operation → recordOf operation outcome = some value := by
    intro operation same
    simp [recordOf, effect, same]
  have other : ∀ operation, outcome.semanticOperation ≠ operation → recordOf operation outcome = none := by
    intro operation different
    simp [recordOf, effect, different]
  split at h
  · rename_i operation
    obtain ⟨_, h⟩ := require_bind_ok h
    obtain ⟨rfl, rfl⟩ := Prod.mk.inj (pure_ok h)
    simp only [SchedulerSnapshot.file, ready, finish, fairness]
    refine .kept ?_
    intro o member
    cases Option.mem_some.mp member
    exact ⟨other _ (by simp [operation]), other _ (by simp [operation]), other _ (by simp [operation])⟩
  · rename_i operation
    obtain ⟨_, h⟩ := require_bind_ok h
    obtain ⟨fresh, h⟩ := require_bind_ok h
    obtain ⟨rfl, rfl⟩ := Prod.mk.inj (pure_ok h)
    simp only [SchedulerSnapshot.file, ready, finish, fairness] at fresh ⊢
    exact .enqueued (record _ operation) fresh
  · rename_i operation
    dsimp only at h
    split at h
    · cases h
    · rename_i entry held
      obtain ⟨fits, h⟩ := require_bind_ok h
      obtain ⟨excluded, verified, h⟩ := bind_ok h
      obtain ⟨rfl, rfl⟩ := Prod.mk.inj (pure_ok h)
      obtain ⟨kept, chosen⟩ := verifyHistoricalChoice_ok verified
      rw [chooses, historicalSelection_congr ready finish fairness] at chosen
      simp only [SchedulerSnapshot.file, ready, finish, fairness] at held ⊢
      exact .deferred (record _ operation) held fits.1 kept chosen
  · rename_i operation
    dsimp only at h
    split at h
    · cases h
    · rename_i entry held
      obtain ⟨fits, h⟩ := require_bind_ok h
      split at h
      · cases h
      · rename_i selected next selection
        obtain ⟨mine, h⟩ := require_bind_ok h
        obtain ⟨rfl, rfl⟩ := Prod.mk.inj (pure_ok h)
        rw [historicalSelection_congr ready finish fairness] at selection
        simp only [ready, finish] at held ⊢
        exact .admitted (record _ operation) held fits.1 selection mine
  · cases h

theorem applyAdmissionOutcome_ok {policy : Policy} (r : Replay) {snapshot after : SchedulerSnapshot}
    {left : Table Bool} {action : Action} {reservation event : Event}
    {outcome : Admission.OutcomeEnvelope} (ready : snapshot.ready = r.snapshot.ready)
    (finish : snapshot.virtualFinish = r.snapshot.virtualFinish) (fairness : snapshot.fairness = r.snapshot.fairness)
    (h : applyAdmissionOutcome policy snapshot r.excluded action reservation event outcome = .ok (after, left)) :
    QueueStep policy event r (some outcome) ⟨after.ready, after.virtualFinish, after.fairness, left⟩ := by
  have kept : (∀ value, outcome.effect ≠ .admission value) → QueueStep policy event r (some outcome) r.queue := by
    intro different
    refine .kept ?_
    intro o member
    cases Option.mem_some.mp member
    have none : ∀ operation, recordOf operation outcome = none := by
      intro operation
      unfold recordOf
      split
      · rename_i value effect
        exact absurd effect (different value)
      · rfl
    exact ⟨none _, none _, none _⟩
  unfold applyAdmissionOutcome at h
  split at h
  · rename_i value effect
    exact applyAdmission_ok r effect ready finish fairness h
  · rename_i value effect
    obtain ⟨_, h⟩ := require_bind_ok h
    obtain ⟨rfl, rfl⟩ := Prod.mk.inj (pure_ok h)
    simp only [ready, finish, fairness]
    exact .released effect
  -- the other outcomes change neither the queue nor the fairness
  all_goals
    rename_i value effect
    try obtain ⟨_, h⟩ := require_bind_ok h
    obtain ⟨rfl, rfl⟩ := Prod.mk.inj (pure_ok h)
    simp only [ready, finish, fairness]
    exact kept (by simp [effect])

variable [sha : Sha]

theorem readPayload_ok {error : Error} {read : Except Journal.Error Document} {wanted : String}
    {payload : Document} (h : readPayload error read wanted = .ok payload) :
    read = .ok payload := by
  unfold readPayload at h
  obtain ⟨document, stored, h⟩ := bind_ok h
  obtain ⟨_, h⟩ := require_bind_ok h
  cases pure_ok h
  exact relabel_ok stored

theorem admissionMember_ok {request membership : String} {reservation : Event}
    {payload : Document} {evidence : Evidence} {action : Action}
    (h : admissionMember request membership installationID reservation event payload evidence =
      .ok (action, outcome)) : payload = .admissionOutcome outcome := by
  unfold admissionMember at h
  obtain ⟨found, _, h⟩ := bind_ok h
  obtain ⟨requestPayload, _, h⟩ := bind_ok h
  obtain ⟨envelope, _, h⟩ := bind_ok h
  obtain ⟨result, resulted, h⟩ := bind_ok h
  obtain ⟨_, h⟩ := require_bind_ok h
  obtain ⟨_, rfl⟩ := Prod.mk.inj (pure_ok h)
  cases payload with
  | admissionOutcome value =>
    cases Except.ok.inj resulted
    rfl
  | _ => cases resulted

theorem journalStep_ok {r t : Replay}
    {evidence : Evidence} (h : journalStep policy installationID r event evidence = .ok t) :
    event.journalPosition = r.wantPosition ∧ t.wantPosition = r.wantPosition + 1 ∧
      QueueStep policy event r (carried event evidence) t.queue := by
  unfold journalStep at h
  obtain ⟨⟨place, _⟩, h⟩ := require_bind_ok h
  have quiet : carried event evidence = none → QueueStep policy event r (carried event evidence) r.queue := by
    intro none
    rw [none]
    exact .kept (by simp)
  split at h
  · rename_i reserves
    have none : carried event evidence = none := by simp [carried, reserves, EventKind.isOutcome]
    split at h
    · cases pure_ok h
      exact ⟨place, rfl, quiet none⟩
    · obtain ⟨_, h⟩ := require_bind_ok h
      cases pure_ok h
      exact ⟨place, rfl, quiet none⟩
  · split at h
    · rename_i silent
      have none : carried event evidence = none := by simp [carried, silent]
      cases pure_ok h
      exact ⟨place, rfl, quiet none⟩
    · rename_i isOutcome
      split at h
      · rename_i foreign
        have none : carried event evidence = none := by simp [carried, foreign]
        cases pure_ok h
        exact ⟨place, rfl, quiet none⟩
      · rename_i own
        obtain ⟨payload, read, h⟩ := bind_ok h
        obtain ⟨_, h⟩ := require_bind_ok h
        split at h
        · cases h
        · obtain ⟨⟨action, outcome⟩, member, h⟩ := bind_ok h
          obtain ⟨⟨after, left⟩, applied, h⟩ := bind_ok h
          cases pure_ok h
          obtain rfl := admissionMember_ok member
          have carries : carried event evidence = some outcome := by
            rw [not_not] at isOutcome own
            simp only [carried, readPayload_ok read]
            rw [if_pos ⟨isOutcome, own⟩]
          rw [carries]
          have changed : QueueStep policy event r (some outcome)
              ⟨after.ready, after.virtualFinish, after.fairness, left⟩ :=
            @applyAdmissionOutcome_ok policy r (r.seen installationID event).snapshot after left action _
              event outcome rfl rfl rfl applied
          exact ⟨place, rfl, changed⟩

theorem journalReader_counts (policy : Policy) : (journalReader policy).Counts Replay.wantPosition := by
  intro installationID s event evidence t taken
  obtain ⟨place, next, _⟩ := journalStep_ok taken
  exact ⟨place, next⟩

theorem journalReader_names (policy : Policy) : (journalReader policy).Names := by
  intro installationID next named entered
  obtain ⟨fits, entered⟩ := require_bind_ok entered
  cases pure_ok entered
  exact fits.2.1.symm

def replayed (policy : Policy) (store : MemoryStore) (r : Replay) (events : List Event) : Except Error Replay :=
  events.foldlM (store.replay (journalStep policy store.installationID)) r

theorem rebuildJournal_ok {store : MemoryStore} (h : rebuildJournal policy store = .ok snapshot) :
    ∃ r, replayed policy store {} store.events = .ok r := by
  unfold rebuildJournal at h
  obtain ⟨⟨⟨named, r⟩, last⟩, read, _⟩ := bind_ok h
  exact ⟨r, Reader.read_ok (journalReader_names policy) (journalReader_counts policy) (Nat.zero_le _)
    (.inr ⟨rfl, rfl⟩) rfl read⟩

end Paje.Scheduler
