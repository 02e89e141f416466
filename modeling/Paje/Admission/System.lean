import Paje.Admission.Builders
import Paje.Admission.Transitions

/-!
Any number of admission services over one journal. A call reads, decides and commits in separate
steps; the compare-and-swap lets through only the commits whose view was still the journal's own, so
every admission entry was built over the replay of the log before it.
-/

namespace Paje.Admission

open Text Journal List MemoryStore Projection System Call

variable {p : Projection} {request : RequestEnvelope} {record : TransitionRecord}

/-- The index of `p` holds `record`, but for its `created` flag. -/
def Finds (p : Projection) (record : TransitionRecord) : Prop :=
  ∃ key known, (p.transitions.get? key = some known ∨ p.idempotency.get? key = some known) ∧
    record = { known with receipt := { known.receipt with created := false } }

theorem existing_ok {t : Transition} (h : p.existing t request = some (.ok record)) :
    record.request = request ∧ record.binding = request.binding ∧ Finds p record := by
  simp only [existing, Option.map_eq_some_iff] at h
  obtain ⟨known, found, h⟩ := h
  split at h
  · rename_i same
    cases h
    refine ⟨same.1, same.2, ?_⟩
    cases first : p.transitions.get? (semanticIndex t.controlRunID t.identity.actionID t.identity.generation) with
    | some held =>
      rw [first] at found
      cases found
      exact ⟨_, _, .inl first, rfl⟩
    | none =>
      rw [first] at found
      exact ⟨_, known, .inr found, rfl⟩
  · cases h

theorem recovered_ok {t : Transition} {commitError : Journal.Error} {rebuilt : Except Error View} {created : Bool}
    (h : recovered t request commitError rebuilt = .returned record created) :
    created = false ∧ record.request = request ∧ record.binding = request.binding ∧
      ∃ view, rebuilt = .ok view ∧ Finds view.toProjection record := by
  unfold recovered at h
  cases rebuilt with
  | error e =>
    simp only at h
    split at h <;> cases h
  | ok view =>
    cases found : view.transitions.get? (semanticIndex t.controlRunID t.identity.actionID t.identity.generation) with
    | none =>
      simp only [found] at h
      split at h <;> cases h
    | some known =>
      simp only [found] at h
      split at h
      · rename_i same
        cases h
        exact ⟨rfl, same.1, same.2, view, rfl, _, known, .inl found, rfl⟩
      · cases h

variable [sha : Sha]
variable {i : Nat} {s : Service} {now occurredAt : Time} {view : View}
variable {call : Call} {effect : Effect} {after store : MemoryStore} {plan : Plan}

inductive Phase where
  /-- `Admit` and `Release` before the read that chooses their operation. -/
  | begun
  /-- Before the rebuild at the head of the commit loop. -/
  | planned (plan : Plan)
  /-- Rebuilt, not yet tried. -/
  | holding (plan : Plan) (view : View)
  | done (result : Except Error (TransitionRecord × Bool))

structure Flight where
  service : Nat
  call : Call
  phase : Phase

structure System where
  store : MemoryStore
  caches : Nat → Option View := fun _ => none
  flights : Nat → Option Flight := fun _ => none

/-- What happens next; clock readings are whatever the services' clocks return. -/
inductive Label where
  | submit (flight service : Nat) (call : Call)
  | choose (flight : Nat)
  | read (flight : Nat)
  | attempt (flight : Nat) (now occurredAt : Time)
  | foreign (request : CommitRequest)

def Call.chooses : Call → Bool
  | .admitRun _ | .release _ => true
  | _ => false

/-- A commit of another component: neither its payload nor its action is one of admission's. -/
def ForeignCommit (request : CommitRequest) : Prop :=
  admissionComponent request.outcomePayload = .ok false ∧ beginsWith "admission_action_" request.action.id = false

instance (request : CommitRequest) : Decidable (ForeignCommit request) :=
  inferInstanceAs (Decidable (_ ∧ _))

def Call.submitted (s : Service) (call : Call) : Phase :=
  match call.validate s with
  | .error e => .done (.error e)
  | .ok () =>
    if call.chooses then .begun
    else match call.plan s newProjection with
      | .ok plan => .planned plan
      | .error e => .done (.error e)

def Call.chosen (s : Service) (call : Call) (read : Except Error View) : Phase :=
  match read with
  | .error e => .done (.error e)
  | .ok view =>
    match call.plan s view.toProjection with
    | .ok plan => .planned plan
    | .error e => .done (.error e)

def Verdict.phase (plan : Plan) : Verdict → Phase
  | .returned record created => .done (.ok (record, created))
  | .failed .decisionChanged => .begun
  | .failed e => .done (.error e)
  | .again => .planned plan

namespace System

section

variable (sys : System)

def setFlight (k : Nat) (flight : Flight) : System :=
  { sys with flights := Function.update sys.flights k (some flight) }

def setCache (i : Nat) (cache : Option View) : System :=
  { sys with caches := Function.update sys.caches i cache }

variable (svc : Nat → Service)

def submit (k i : Nat) (call : Call) : Option System :=
  match sys.flights k with
  | some _ => none
  | none => some (sys.setFlight k ⟨i, call, call.submitted (svc i)⟩)

def choose (k : Nat) : Option System :=
  match sys.flights k with
  | some ⟨i, call, .begun⟩ =>
    let (read, cache) := rebuild sys.store (sys.caches i)
    some ((sys.setCache i cache).setFlight k ⟨i, call, call.chosen (svc i) read⟩)
  | _ => none

def read (k : Nat) : Option System :=
  match sys.flights k with
  | some ⟨i, call, .planned plan⟩ =>
    let (read, cache) := rebuild sys.store (sys.caches i)
    let phase := match read with
      | .ok view => .holding plan view
      | .error e => .done (.error e)
    some ((sys.setCache i cache).setFlight k ⟨i, call, phase⟩)
  | _ => none

def tryCommit (k : Nat) (now occurredAt : Time) : Option System :=
  match sys.flights k with
  | some ⟨i, call, .holding plan view⟩ =>
    let (verdict, store, cache) :=
      attempt (svc i) plan view sys.store (sys.caches i) now occurredAt
    some (({ sys with store }.setCache i cache).setFlight k ⟨i, call, verdict.phase plan⟩)
  | _ => none

def foreign (request : CommitRequest) : Option System :=
  if ForeignCommit request then
    match sys.store.commit request with
    | .ok (_, store) => some { sys with store }
    | .error _ => none
  else none

def step : Label → Option System
  | .submit k i call => sys.submit svc k i call
  | .choose k => sys.choose svc k
  | .read k => sys.read k
  | .attempt k now occurredAt => sys.tryCommit svc k now occurredAt
  | .foreign request => sys.foreign request

end

end System

/-- `careful` admits the attempt that a label makes, judged on the view the call holds. An attempt
whose view the journal has outgrown cannot commit and is not judged. -/
def Careful (careful : Plan → Projection → Time → Prop) (sys : System) : Label → Prop
  | .attempt k now _ =>
    match sys.flights k with
    | some ⟨_, _, .holding plan view⟩ =>
      view.global.journalPosition = sys.store.events.length → careful plan view.toProjection now
    | _ => True
  | _ => True

/-- The systems that runs reach from an empty journal, where every attempt is `careful`. -/
inductive Reachable (svc : Nat → Service) (careful : Plan → Projection → Time → Prop)
    (installationID : String) : System → Prop
  | new {store : MemoryStore} : newMemoryStore installationID = .ok store →
    Reachable svc careful installationID { store }
  | step {sys next : System} {label : Label} : Reachable svc careful installationID sys →
    Careful careful sys label → sys.step svc label = some next →
    Reachable svc careful installationID next

/-- `later` follows `sys` after any number of careful steps. -/
inductive Steps (svc : Nat → Service) (careful : Plan → Projection → Time → Prop) (sys : System) : System → Prop
  | refl : Steps svc careful sys sys
  | tail {middle later : System} {label : Label} : Steps svc careful sys middle →
    Careful careful middle label → middle.step svc label = some later → Steps svc careful sys later

/-- `entry` is what `plan` commits over the projection `p`. -/
structure Written (s : Service) (plan : Plan) (now occurredAt : Time) (p : Projection) (effect : Effect)
    (entry : Entry) : Prop where
  kind : plan.transition.identity.outcomeKind = .actionResult
  unseen : p.existing plan.transition (s.request plan.transition p.installationID) = none
  built : plan.build s p (plan.transition.binding p.installationID)
    (digest (.admissionRequest (s.request plan.transition p.installationID))) now = .ok effect
  valid : validateOutcomeSemantics (s.request plan.transition p.installationID)
    (outcomeOf (s.request plan.transition p.installationID) effect) = .ok ()
  formed : entry.WellFormed
  action : entry.action = p.actionOf (s.request plan.transition p.installationID)
  outcome : entry.outcome = { outcomeEvent (s.request plan.transition p.installationID)
    (outcomeOf (s.request plan.transition p.installationID) effect) occurredAt with
      runSequence := entry.outcome.runSequence
      journalPosition := entry.outcome.journalPosition }
  request : entry.request = .admissionRequest (s.request plan.transition p.installationID)
  result : entry.result = .admissionOutcome (outcomeOf (s.request plan.transition p.installationID) effect)
  sequence : entry.reservation.runSequence = p.head plan.transition.controlRunID + 1

variable {installationID : String}

theorem Bound.request_eq {action : Action} {reservation event : Event}
    {other : RequestEnvelope} (bound : Bound installationID action reservation event request (outcomeOf other effect))
    (named : other.component = component) (schema : other.schemaVersion = schemaVersion) : request = other := by
  obtain ⟨component, _, version, _, operation, operation', binding, subject, subjectDigest, _,
    predecessor, policyDigest, policyVersion, _⟩ := bound
  have same : request.semanticOperation = other.semanticOperation := by
    rw [operation, binding, ← operation']
    rfl
  cases request
  cases other
  simp only [outcomeOf] at *
  simp only [RequestEnvelope.mk.injEq]
  exact ⟨binding, component.trans named.symm, predecessor, policyDigest, policyVersion,
    version.trans schema.symm, same, subject, subjectDigest⟩

theorem Written.applied {q : Projection} {entry : Entry} (written : Written s plan now occurredAt p effect entry)
    (h : p.absorb entry = .ok q) : ∃ operation subject,
    Applied ((p.advance entry).indexed (recordOf entry (s.request plan.transition p.installationID)
      (outcomeOf (s.request plan.transition p.installationID) effect))) operation plan.transition.controlRunID
      entry.outcome.journalPosition subject effect q := by
  obtain ⟨foreign, _⟩ | ⟨request, outcome, _, result, valid, entered⟩ := absorb_ok h
  · rw [written.result] at foreign
    cases foreign
  · rw [written.result] at result
    cases result
    unfold validatePersistedTransition at valid
    obtain ⟨bound, _⟩ := require_bind_ok valid
    rw [bound.request_eq rfl rfl] at entered
    exact ⟨_, _, apply_iff.mp (enter_ok entered).2.2⟩

def Call.Plans (call : Call) (s : Service) (plan : Plan) : Prop := ∃ p, call.plan s p = .ok plan

def Wrote (svc : Nat → Service) (careful : Plan → Projection → Time → Prop) (p : Projection) (entry : Entry) : Prop :=
  ∃ i call plan now occurredAt effect, Call.Plans call (svc i) plan ∧ careful plan p now ∧
    Written (svc i) plan now occurredAt p effect entry

def Outside (entry : Entry) : Prop :=
  admissionComponent entry.result = .ok false ∧ beginsWith "admission_action_" entry.action.id = false

theorem Outside.absorbed {q : Projection} {entry : Entry} (outside : Outside entry)
    (h : p.absorb entry = .ok q) : q = p.advance entry := by
  obtain ⟨_, same⟩ | ⟨request, outcome, _, result, valid, _⟩ := absorb_ok h
  · exact same
  · have foreign := outside.1
    unfold validatePersistedTransition at valid
    obtain ⟨⟨_, named, _⟩, _⟩ := require_bind_ok valid
    simp [result, admissionComponent, named] at foreign

abbrev Authored (svc : Nat → Service) (careful : Plan → Projection → Time → Prop)
    (installationID : String) (log : List Entry) : Prop :=
  EventLog.Authored Projection.absorb (start installationID) (Wrote svc careful) Outside log

/-! ### The invariant of every run -/

/-- The transition that answers `call` is the one of an entry of the log. -/
structure Answer (s : Service) (installationID : String) (log : List Entry) (call : Call)
    (record : TransitionRecord) : Prop where
  planned : ∃ plan, call.Plans s plan ∧ record.request = s.request plan.transition installationID
  bound : record.binding = record.request.binding
  named : record.outcome.component = component
  logged : ∃ entry ∈ log, entry.request = .admissionRequest record.request ∧
    entry.result = .admissionOutcome record.outcome ∧
    record.receipt = ⟨entry.action, entry.reservation, entry.outcome, record.receipt.created⟩

/-- A call in flight passed its checks, follows a plan of its own over the view of a prefix of the
log, and answers with a transition of the log. -/
def Flight.Sound (svc : Nat → Service) (installationID : String) (store : MemoryStore)
    (log : List Entry) (flight : Flight) : Prop :=
  match flight.phase with
  | .begun => flight.call.validate (svc flight.service) = .ok ()
  | .planned plan => flight.call.validate (svc flight.service) = .ok () ∧ flight.call.Plans (svc flight.service) plan
  | .holding plan view => flight.call.validate (svc flight.service) = .ok () ∧
    flight.call.Plans (svc flight.service) plan ∧ ViewOfPrefix store log view
  | .done (.ok (record, _)) => flight.call.validate (svc flight.service) = .ok () ∧
    Answer (svc flight.service) installationID log flight.call record
  | .done (.error _) => True

/-- What every reachable system keeps: the store holds an authored log, every cache is the view of a
prefix of it, and every call in flight is sound. -/
structure Sound (svc : Nat → Service) (careful : Plan → Projection → Time → Prop)
    (installationID : String) (sys : System) (log : List Entry) : Prop where
  installation : sys.store.installationID = installationID
  named : sys.store.installationID ≠ ""
  holds : sys.store.Holds log
  clean : Clean log
  authored : Authored svc careful installationID log
  caches : ∀ i, ∀ view ∈ sys.caches i, ViewOfPrefix sys.store log view
  flights : ∀ k flight, sys.flights k = some flight → flight.Sound svc installationID sys.store log

variable {log : List Entry}

theorem ViewOfPrefix.extend (same : after.installationID = store.installationID) (h : ViewOfPrefix store log view)
    (more : List Entry) : ViewOfPrefix after (log ++ more) view := by
  obtain ⟨front, back, p, whole, prior, rfl⟩ := h
  refine ⟨front, back ++ more, p, by rw [whole, append_assoc], same ▸ prior, ?_⟩
  simp only [viewOf, cursorAt, same]

theorem Answer.extend (h : Answer s installationID log call record) (more : List Entry) :
    Answer s installationID (log ++ more) call record := by
  obtain ⟨entry, member, rest⟩ := h.logged
  exact ⟨h.planned, h.bound, h.named, entry, mem_append_left _ member, rest⟩

variable {svc : Nat → Service}

theorem Flight.Sound.extend {flight : Flight}
    (same : after.installationID = store.installationID)
    (h : flight.Sound svc installationID store log) (more : List Entry) :
    flight.Sound svc installationID after (log ++ more) := by
  obtain ⟨i, call, phase⟩ := flight
  cases phase with
  | begun => exact h
  | planned plan => exact h
  | holding plan view => exact ⟨h.1, h.2.1, h.2.2.extend same more⟩
  | done result =>
    cases result with
    | error e => trivial
    | ok answer => exact ⟨h.1, h.2.extend more⟩

/-- The compare-and-swap: a view whose cursor is the journal's own position is the view of the
whole log. -/
theorem ViewOfPrefix.current (holds : store.Holds log) (h : ViewOfPrefix store log view)
    (head : view.global.journalPosition = store.events.length) :
    replay store.installationID log = .ok view.toProjection := by
  obtain ⟨front, back, p, whole, prior, rfl⟩ := h
  have position : 2 * front.length = store.events.length := head
  rw [holds.length, whole, length_append] at position
  have nothing : back = [] := eq_nil_of_length_eq_zero (by omega)
  rw [whole, nothing, append_nil]
  exact prior

/-- An iteration that writes nothing answers, if at all, with a transition it found: in the view it
holds, in the journal it reads after a failed commit, or as its own commit done before. -/
structure Found (s : Service) (plan : Plan) (view : View) (store : MemoryStore) (cache : Option View)
    (record : TransitionRecord) : Prop where
  request : record.request = s.request plan.transition view.installationID
  bound : record.binding = record.request.binding
  known : Finds view.toProjection record ∨
    (∃ rebuilt, (rebuild store cache).1 = .ok rebuilt ∧ Finds rebuilt.toProjection record) ∨
    ∃ id commit, store.commits.get? id = some commit ∧ commit.requestPayload = .admissionRequest record.request ∧
      commit.outcomePayload = .admissionOutcome record.outcome ∧
      record.outcome.component = component ∧
      record.receipt = { commit.receipt with created := false }

def View.commitOf (view : View) (s : Service) (plan : Plan) (occurredAt : Time) (effect : Effect) : CommitRequest :=
  view.commitRequest (s.request plan.transition view.installationID)
    (outcomeOf (s.request plan.transition view.installationID) effect) occurredAt

/-- An iteration that commits passed every check of the builder and of the journal. -/
structure Commits (s : Service) (plan : Plan) (view : View) (store : MemoryStore)
    (now occurredAt : Time) (effect : Effect) : Prop where
  kind : plan.transition.identity.outcomeKind = .actionResult
  unseen : view.existing plan.transition (s.request plan.transition view.installationID) = none
  built : plan.build s view.toProjection (plan.transition.binding view.installationID)
    (digest (.admissionRequest (s.request plan.transition view.installationID))) now = .ok effect
  valid : validateOutcomeSemantics (s.request plan.transition view.installationID)
    (outcomeOf (s.request plan.transition view.installationID) effect) = .ok ()
  accepted : store.Accepted (view.commitOf s plan occurredAt effect)

theorem attempt_cases {cache cache' : Option View} {verdict : Verdict}
    (h : attempt s plan view store cache now occurredAt = (verdict, after, cache')) :
    (after = store ∧ (cache' = cache ∨ cache' = (rebuild store cache).2) ∧
      ∀ record created, verdict = .returned record created → created = false ∧ Found s plan view store cache record) ∨
    ∃ effect, Commits s plan view store now occurredAt effect ∧ cache' = cache ∧
      after = store.committed (view.commitOf s plan occurredAt effect) ∧
      verdict = .returned {
        binding := (s.request plan.transition view.installationID).binding
        request := s.request plan.transition view.installationID
        outcome := outcomeOf (s.request plan.transition view.installationID) effect
        receipt := store.receiptOf (view.commitOf s plan occurredAt effect) } true := by
  unfold attempt at h
  simp only at h
  cases unseen : view.existing plan.transition (s.request plan.transition view.installationID) with
  | some found =>
    cases found with
    | error e =>
      simp only [unseen] at h
      cases h
      exact .inl ⟨rfl, .inl rfl, (fun _ _ same => nomatch same)⟩
    | ok record =>
      simp only [unseen] at h
      cases h
      refine .inl ⟨rfl, .inl rfl, fun other created same => ?_⟩
      cases same
      obtain ⟨request, bound, finds⟩ := existing_ok unseen
      exact ⟨rfl, request, bound.trans (congrArg _ request.symm), .inl finds⟩
  | none =>
    simp only [unseen] at h
    cases prepared : plan.prepare s view now occurredAt with
    | error e =>
      simp only [prepared] at h
      cases h
      exact .inl ⟨rfl, .inl rfl, (fun _ _ same => nomatch same)⟩
    | ok pair =>
      obtain ⟨outcome, commitRequest⟩ := pair
      simp only [prepared] at h
      unfold Plan.prepare at prepared
      obtain ⟨kind, prepared⟩ := require_bind_ok prepared
      obtain ⟨effect, built, prepared⟩ := bind_ok prepared
      obtain ⟨_, valid, prepared⟩ := bind_ok prepared
      cases pure_ok prepared
      cases committed : store.commit (view.commitOf s plan occurredAt effect) with
      | error e =>
        rw [View.commitOf] at committed
        simp only [committed] at h
        cases h
        refine .inl ⟨rfl, .inr rfl, fun record created same => ?_⟩
        obtain ⟨first, request, bound, rebuilt, read, finds⟩ := recovered_ok same
        exact ⟨first, request, bound.trans (congrArg _ request.symm), .inr (.inl ⟨rebuilt, read, finds⟩)⟩
      | ok pair =>
        obtain ⟨receipt, stored⟩ := pair
        have accepted := commit_ok committed
        rw [View.commitOf] at committed
        simp only [committed] at h
        cases h
        rcases accepted with ⟨rfl, commit, repeats, rfl⟩ | ⟨accepted, rfl, rfl⟩
        · refine .inl ⟨rfl, .inl rfl, fun record created same => ?_⟩
          cases same
          exact ⟨rfl, rfl, rfl, .inr (.inr ⟨_, commit, repeats.found, repeats.requestPayload,
            repeats.outcomePayload, rfl, rfl⟩)⟩
        · exact .inr ⟨effect, ⟨kind, unseen, built, valid, accepted⟩, rfl, rfl, rfl⟩

section Steps

variable {svc : Nat → Service} {careful : Plan → Projection → Time → Prop} {installationID : String}
  {sys next : System} {log : List Entry}

section

variable (sound : Sound svc careful installationID sys log)
include sound

theorem Sound.setFlight (k : Nat) (flight : Flight) (held : flight.Sound svc installationID sys.store log) :
    Sound svc careful installationID (sys.setFlight k flight) log :=
  { sound with
    flights := fun k' other found => by
      simp only [System.setFlight, Function.update_apply] at found
      split at found
      · cases found
        exact held
      · exact sound.flights k' other found }

theorem Sound.setCache (i : Nat) (cache : Option View)
    (valid : ∀ view ∈ cache, ViewOfPrefix sys.store log view) :
    Sound svc careful installationID (sys.setCache i cache) log :=
  { sound with
    caches := fun i' view found => by
      simp only [System.setCache, Function.update_apply] at found
      split at found
      · exact valid view found
      · exact sound.caches i' view found }

theorem Sound.rebuild_ok (i : Nat) (read : (rebuild sys.store (sys.caches i)).1 = .ok view) :
    replay installationID log = .ok view.toProjection ∧
      view = viewOf sys.store log view.toProjection := by
  rw [rebuild_eq sound.holds sound.clean sound.named (sound.caches i),
    rebuildAll_eq sound.holds sound.clean sound.named, sound.installation] at read
  obtain ⟨p, replayed, read⟩ := bind_ok read
  cases read
  exact ⟨replayed, rfl⟩

theorem Sound.extend {request : CommitRequest} (accepted : sys.store.Accepted request)
    (clean : admissionComponent request.outcomePayload ≠ .ok true →
      beginsWith "admission_action_" request.action.id = false)
    (authored : Authored svc careful installationID (log ++ [sys.store.entryOf request])) :
    Sound svc careful installationID { sys with store := sys.store.committed request }
      (log ++ [sys.store.entryOf request]) where
  installation := sound.installation
  named := sound.named
  holds := sound.holds.committed accepted
  clean entry member foreign := by
    rcases mem_append.mp member with old | new
    · exact sound.clean entry old foreign
    · rw [mem_singleton.mp new] at foreign ⊢
      exact clean foreign
  authored := authored
  caches i view found := (sound.caches i view found).extend rfl _
  flights k flight found := (sound.flights k flight found).extend rfl _

theorem Sound.written (held : ViewOfPrefix sys.store log view)
    (commits : Commits s plan view sys.store now occurredAt effect) :
    replay installationID log = .ok view.toProjection ∧ Written s plan now occurredAt view.toProjection effect
        (sys.store.entryOf (view.commitOf s plan occurredAt effect)) := by
  refine ⟨sound.installation ▸ held.current sound.holds commits.accepted.head, ?_⟩
  exact {
    kind := commits.kind
    unseen := commits.unseen
    built := commits.built
    valid := commits.valid
    formed := commits.accepted.wellFormed
    action := rfl
    outcome := rfl
    request := rfl
    result := rfl
    sequence := congrArg (· + 1) commits.accepted.runHead.symm }

end

theorem ViewOfPrefix.installation (h : ViewOfPrefix store log view) : view.installationID = store.installationID := by
  obtain ⟨front, back, p, _, prior, rfl⟩ := h
  exact fold_installation prior

theorem ViewOfPrefix.finds (h : ViewOfPrefix store log view) (finds : Finds view.toProjection record) :
    record.outcome.component = component ∧ ∃ entry ∈ log, entry.request = .admissionRequest record.request ∧
      entry.result = .admissionOutcome record.outcome ∧
      record.receipt = ⟨entry.action, entry.reservation, entry.outcome, record.receipt.created⟩ := by
  obtain ⟨front, back, p, rfl, prior, rfl⟩ := h
  obtain ⟨semantic, idempotent, _⟩ := replay_index prior
  obtain ⟨key, known, found, rfl⟩ := finds
  have recorded : Recorded front known := by
    rcases found with found | found
    · exact semantic key known found
    · exact idempotent key known found
  obtain ⟨entry, member, request, outcome, ours, read, result, rfl⟩ := recorded
  rw [result] at ours
  refine ⟨of_decide_eq_true (Except.ok.inj ours), entry, mem_append_left _ member, ?_, result, rfl⟩
  unfold Entry.requestRead at read
  split at read
  · rw [result] at read
    cases read
  · exact read

theorem Sound.found (sound : Sound svc careful installationID sys log) (mine : call.Plans (svc i) plan)
    (held : ViewOfPrefix sys.store log view) (found : Found (svc i) plan view sys.store (sys.caches i) record) :
    Answer (svc i) installationID log call record := by
  have here : view.installationID = installationID := held.installation.trans sound.installation
  suffices logged : record.outcome.component = component ∧ _ from
    ⟨⟨plan, mine, here ▸ found.request⟩, found.bound, logged.1, logged.2⟩
  rcases found.known with finds | ⟨rebuilt, read, finds⟩ |
    ⟨id, commit, stored, requested, resulted, named, same⟩
  · exact held.finds finds
  · obtain ⟨replayed, same⟩ := sound.rebuild_ok i read
    have whole : ViewOfPrefix sys.store log rebuilt :=
      ⟨log, [], rebuilt.toProjection, (append_nil log).symm, sound.installation ▸ replayed, same⟩
    exact whole.finds finds
  · obtain ⟨entry, member, rfl⟩ := sound.holds.commits id commit stored
    exact ⟨named, entry, member, requested, resulted, by rw [same]⟩

theorem Call.submitted_sound (i : Nat) (store : MemoryStore) :
    Flight.Sound svc installationID store log ⟨i, call, call.submitted (svc i)⟩ := by
  unfold submitted
  cases valid : call.validate (svc i) with
  | error e => trivial
  | ok _ =>
    by_cases chooses : call.chooses
    · simp only [chooses, if_true]
      exact valid
    · simp only [chooses]
      cases chosen : call.plan (svc i) newProjection with
      | error e => trivial
      | ok plan => exact ⟨valid, _, chosen⟩

theorem Call.chosen_sound {read : Except Error View} (store : MemoryStore) (valid : call.validate (svc i) = .ok ()) :
    Flight.Sound svc installationID store log ⟨i, call, call.chosen (svc i) read⟩ := by
  unfold chosen
  cases read with
  | error e => trivial
  | ok view =>
    cases chosen : call.plan (svc i) view.toProjection with
    | error e => simp only [chosen, Flight.Sound]
    | ok plan =>
      simp only [chosen]
      exact ⟨valid, _, chosen⟩

theorem Verdict.phase_sound {verdict : Verdict}
    (valid : call.validate (svc i) = .ok ()) (mine : call.Plans (svc i) plan)
    (answers : ∀ record created, verdict = .returned record created → Answer (svc i) installationID log call record) :
    Flight.Sound svc installationID store log ⟨i, call, verdict.phase plan⟩ := by
  cases verdict with
  | returned record created => exact ⟨valid, answers record created rfl⟩
  | again => exact ⟨valid, mine⟩
  | failed e =>
    cases e with
    | decisionChanged => exact valid
    | typed => trivial

/-- What a step can add to the log: nothing, an entry of another component, or the entry that a
flight wrote over the replay of the log. -/
def Adds (svc : Nat → Service) (installationID : String) (sys : System) (log : List Entry)
    (label : Label) (more : List Entry) : Prop :=
  more = [] ∨ ∃ entry, more = [entry] ∧ (Outside entry ∨
    ∃ k now occurredAt i call plan view effect, label = .attempt k now occurredAt ∧
      sys.flights k = some ⟨i, call, .holding plan view⟩ ∧ call.Plans (svc i) plan ∧
      replay installationID log = .ok view.toProjection ∧
      Written (svc i) plan now occurredAt view.toProjection effect entry)

theorem Sound.step (sound : Sound svc careful installationID sys log) {label : Label}
    (allowed : Careful careful sys label) (stepped : sys.step svc label = some next) :
    ∃ more, Sound svc careful installationID next (log ++ more) ∧ Adds svc installationID sys log label more := by
  have keep : ∀ {sys' : System}, Sound svc careful installationID sys' log →
      ∃ more, Sound svc careful installationID sys' (log ++ more) ∧ Adds svc installationID sys log label more :=
    fun s => ⟨[], by rwa [append_nil], .inl rfl⟩
  cases label with
  | submit k i call =>
    simp only [System.step, System.submit] at stepped
    split at stepped
    · cases stepped
    · cases stepped
      exact keep (sound.setFlight k _ (submitted_sound i sys.store))
  | choose k =>
    simp only [System.step, System.choose] at stepped
    split at stepped
    · rename_i i call found
      cases stepped
      have caches := rebuild_caches sound.holds sound.clean sound.named (sound.caches i)
      have valid := sound.flights k _ found
      exact keep ((sound.setCache i _ caches).setFlight k _ (chosen_sound sys.store valid))
    · cases stepped
  | read k =>
    simp only [System.step, System.read] at stepped
    split at stepped
    · rename_i i call plan found
      cases stepped
      have caches := rebuild_caches sound.holds sound.clean sound.named (sound.caches i)
      obtain ⟨valid, mine⟩ := sound.flights k _ found
      refine keep ((sound.setCache i _ caches).setFlight k _ ?_)
      cases read : (rebuild sys.store (sys.caches i)).1 with
      | error e => trivial
      | ok view =>
        obtain ⟨replayed, same⟩ := sound.rebuild_ok i read
        exact ⟨valid, mine, log, [], view.toProjection, (append_nil log).symm,
          sound.installation ▸ replayed, same⟩
    · cases stepped
  | attempt k now occurredAt =>
    simp only [System.step, System.tryCommit] at stepped
    split at stepped
    · rename_i i call plan view found
      cases stepped
      obtain ⟨valid, mine, held⟩ := sound.flights k _ found
      generalize tried : attempt (svc i) plan view sys.store (sys.caches i) now occurredAt = result
      obtain ⟨verdict, after, cache⟩ := result
      rcases attempt_cases tried with ⟨rfl, cacheIs, answers⟩ | ⟨effect, commits, rfl, rfl, rfl⟩
      · have caches : ∀ view ∈ cache, ViewOfPrefix sys.store log view := by
          rcases cacheIs with rfl | rfl
          · exact sound.caches i
          · exact rebuild_caches sound.holds sound.clean sound.named (sound.caches i)
        exact keep ((sound.setCache i cache caches).setFlight k _ (Verdict.phase_sound valid mine
          fun record created same => sound.found mine held (answers record created same).2))
      · obtain ⟨current, written⟩ := sound.written held commits
        simp only [Careful, found] at allowed
        have authored : Authored svc careful installationID (log ++ [_]) :=
          .wrote sound.authored current ⟨i, call, plan, now, occurredAt, effect, mine,
            allowed commits.accepted.head, written⟩
        have extended := sound.extend commits.accepted (fun foreign => (foreign rfl).elim) authored
        refine ⟨_, (extended.setCache i _ (extended.caches i)).setFlight k _
          (Verdict.phase_sound valid mine fun record created same => ?_), .inr ⟨_, rfl, .inr
            ⟨k, now, occurredAt, i, call, plan, view, effect, rfl, found, mine, current, written⟩⟩⟩
        cases same
        refine ⟨⟨plan, mine, ?_⟩, rfl, rfl, _, mem_append_right _ (mem_singleton_self _), rfl, rfl, rfl⟩
        rw [held.installation, sound.installation]
    · cases stepped
  | «foreign» request =>
    simp only [System.step, System.foreign] at stepped
    split at stepped
    · rename_i foreign
      split at stepped
      · rename_i receipt after committed
        cases stepped
        rcases commit_ok committed with ⟨rfl, _⟩ | ⟨accepted, _, rfl⟩
        · exact keep sound
        · exact ⟨_, sound.extend accepted (fun _ => foreign.2)
            (.outside sound.authored ⟨foreign.1, foreign.2⟩), .inr ⟨_, rfl, .inl ⟨foreign.1, foreign.2⟩⟩⟩
      · cases stepped
    · cases stepped

theorem reachable_sound (reachable : Reachable svc careful installationID sys) :
    ∃ log, Sound svc careful installationID sys log := by
  induction reachable with
  | new created =>
    obtain ⟨rfl, named⟩ := newMemoryStore_ok created
    exact ⟨[], rfl, named, holds_new _, (fun _ m => nomatch m), .nil,
      (fun _ _ m => nomatch m), (fun _ _ m => nomatch m)⟩
  | step _ allowed stepped ih =>
    obtain ⟨log, sound⟩ := ih
    obtain ⟨more, next, _⟩ := sound.step allowed stepped
    exact ⟨log ++ more, next⟩

theorem Sound.steps (sound : Sound svc careful installationID sys log) (steps : Steps svc careful sys next) :
    ∃ more, Sound svc careful installationID next (log ++ more) := by
  induction steps with
  | refl => exact ⟨[], by rwa [append_nil]⟩
  | tail _ allowed stepped ih =>
    obtain ⟨more, middle⟩ := ih
    obtain ⟨last, later, _⟩ := middle.step allowed stepped
    exact ⟨more ++ last, by rwa [← append_assoc]⟩

/-- What commits keep and establish step by step holds of any two reads in a row. -/
theorem Reachable.relates (reachable : Reachable svc careful installationID sys) (steps : Steps svc careful sys next)
    (P : Projection → Prop) (R : Projection → Projection → Prop) (first : P (start installationID))
    (own : ∀ {s plan now occurredAt p effect entry q}, P p → careful plan p now →
      Written s plan now occurredAt p effect entry → p.absorb entry = .ok q → P q ∧ R p q)
    (other : ∀ p entry, P p → P (p.advance entry) ∧ R p (p.advance entry)) (refl : ∀ p, R p p)
    (trans : ∀ p q r, R p q → R q r → R p r) {i j : Nat} {later : View}
    (read : (rebuild sys.store (sys.caches i)).1 = .ok view)
    (readLater : (rebuild next.store (next.caches j)).1 = .ok later) :
    P view.toProjection ∧ P later.toProjection ∧ R view.toProjection later.toProjection := by
  obtain ⟨log, sound⟩ := reachable_sound reachable
  obtain ⟨more, soundLater⟩ := sound.steps steps
  refine soundLater.authored.relates P R first ?_ ?_ refl trans (sound.rebuild_ok i read).1
    (soundLater.rebuild_ok j readLater).1
  · rintro p entry q held ⟨_, _, _, _, _, _, _, careful, written⟩ absorbed
    exact own held careful written absorbed
  · intro p entry q held outside absorbed
    rw [outside.absorbed absorbed]
    exact other p entry held

theorem Sound.rebuildAll (sound : Sound svc careful installationID sys log) :
    rebuildAll sys.store = replay installationID log >>= fun p => .ok (viewOf sys.store log p) := by
  rw [rebuildAll_eq sound.holds sound.clean sound.named, sound.installation]

end Steps

section Running

variable (svc : Nat → Service) (careful : Plan → Projection → Time → Prop)
  [∀ plan p now, Decidable (careful plan p now)]

instance (sys : System) (label : Label) : Decidable (Careful careful sys label) := by
  unfold Careful
  split
  · split <;> infer_instance
  · infer_instance

def System.run (sys : System) (labels : List Label) : Option System :=
  labels.foldlM (fun sys label => if Careful careful sys label then sys.step svc label else none) sys

def Label.serve (flight service : Nat) (call : Call) (now : Time) : List Label :=
  [.submit flight service call] ++ (if call.chooses then [.choose flight] else []) ++
    [.read flight, .attempt flight now now]

variable {svc careful}

theorem Reachable.run {sys next : System} {labels : List Label}
    (reachable : Reachable svc careful installationID sys)
    (ran : sys.run svc careful labels = some next) : Reachable svc careful installationID next := by
  refine foldlM_some (Reachable svc careful installationID) (fun _ _ _ reached stepped => ?_) reachable ran
  split at stepped
  · rename_i allowed
    exact .step reached allowed stepped
  · cases stepped

theorem Steps.run {sys middle later : System} {labels : List Label}
    (steps : Steps svc careful sys middle) (ran : middle.run svc careful labels = some later) :
    Steps svc careful sys later := by
  refine foldlM_some (Steps svc careful sys) (fun _ _ _ reached stepped => ?_) steps ran
  split at stepped
  · rename_i allowed
    exact .tail reached allowed stepped
  · cases stepped

end Running

def Service.sample : Service where
  policy := ⟨1, 1, 1, 1, 1, 1⟩
  scannerAuthority := "scanner"
  policyValid := rfl
  authorityBounded := by decide

def System.sample : System := { store := { installationID := "i" } }

theorem System.sample_reachable {careful : Plan → Projection → Time → Prop} :
    Reachable svc careful "i" sample := .new (by decide +kernel)

def TransitionIdentity.sample (name : String) (generation : Nat) : TransitionIdentity where
  actionID := "a" ++ name
  idempotencyKey := "k" ++ name
  outcomeEventID := "o" ++ name
  graphRevision := 1
  generation := generation

def AdmissionRequest.sample (id name : String) : AdmissionRequest where
  controlRunID := "run"
  identity := .sample name 1
  subject := ⟨id, "principal", "project", "primitive", id⟩

def LeaseRequest.sample (id name : String) (generation : Nat) (expiresAt : Time) : LeaseRequest where
  controlRunID := "run"
  identity := .sample name generation
  subject := ⟨id, ⟨"files", "", "tree"⟩, .shared, "holder"⟩
  expiresAt := expiresAt

def RecoveryIdentity.sample (controlRunID actionID : String) (generation : Nat) : RecoveryIdentity where
  controlRunID := controlRunID
  actionID := actionID
  generation := generation
  subjectDigest := "sha256:0000000000000000000000000000000000000000000000000000000000000000"

def runDocuments (labels : List Label) : List Document :=
  let ran := @System.run Sha.sample (fun _ => .sample) (fun _ _ _ => True) inferInstance .sample labels
  let payloads := (ran.map fun sys => sys.store.payloads.values).getD []
  let actions := (ran.map fun sys => sys.store.actions.values).getD []
  let subjects := payloads.filterMap fun
    | .admissionRequest request => some (.admissionSubject request.subject)
    | _ => none
  .admissionPolicy Service.sample.policy :: (subjects ++ payloads ++ actions.map .action)

end Paje.Admission
