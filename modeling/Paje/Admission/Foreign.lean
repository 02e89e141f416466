import Paje.Admission.System
import Paje.Journal.Writes

/-!
Admission on a journal that other components write too: it rebuilds to the records of its own
transitions exactly when the payload of every outcome event of the others is stored and names
another component or none, and none of them reserves an action under admission's prefix.
-/

namespace Paje.Admission

open Text Journal Relation EventLog List Table MemoryStore Option Replay RunAdmission Entry

variable {one : Entry} {event : Event}

def RunAdmission.unplaced (value : RunAdmission) : RunAdmission := { value with sequence := 0 }

def EvidenceHandoff.unplaced (value : EvidenceHandoff) : EvidenceHandoff := { value with sequence := 0 }

theorem RunAdmission.unplaced_eq {one two : RunAdmission} (same : one.unplaced = two.unplaced) :
    one.subject = two.subject ∧ one.state = two.state ∧ one.originalRequestDigest = two.originalRequestDigest := by
  simp only [unplaced, mk.injEq] at same
  simp only [same, and_self]

theorem EvidenceHandoff.unplaced_eq {one two : EvidenceHandoff} (same : one.unplaced = two.unplaced) :
    one.subject = two.subject ∧ one.state = two.state ∧ one.receiptID = two.receiptID := by
  simp only [EvidenceHandoff.unplaced, EvidenceHandoff.mk.injEq] at same
  simp only [same, and_self]

structure SameRecords (p q : Projection) : Prop where
  admissions : ∀ key, (p.admissions.get? key).map RunAdmission.unplaced =
    (q.admissions.get? key).map RunAdmission.unplaced
  admissionTombs : p.admissionTombs = q.admissionTombs
  leases : p.leases = q.leases
  leaseTombs : p.leaseTombs = q.leaseTombs
  handoffs : ∀ key, (p.handoffs.get? key).map EvidenceHandoff.unplaced =
    (q.handoffs.get? key).map EvidenceHandoff.unplaced
  recoveries : p.recoveries = q.recoveries

/-- What the replay of the next transition reads of both projections is the same. -/
structure Alike (p q : Projection) : Prop extends SameRecords p q where
  installation : p.installationID = q.installationID
  handoffReceipts : p.handoffReceipts = q.handoffReceipts
  transitions : ∀ key, (p.transitions.get? key).isSome = (q.transitions.get? key).isSome
  idempotency : ∀ key, (p.idempotency.get? key).isSome = (q.idempotency.get? key).isSome

theorem map_put {α β : Type} {t u : Table α} {f : α → β}
    (same : ∀ key, (t.get? key).map f = (u.get? key).map f) {one two : α} (new : f one = f two)
    (place key : String) : ((t.put place one).get? key).map f = ((u.put place two).get? key).map f := by
  rw [get?_put, get?_put]
  split
  · exact congrArg some new
  · exact same key

theorem isSome_put {α : Type} {t u : Table α} (same : ∀ key, (t.get? key).isSome = (u.get? key).isSome)
    (one two : α) (place key : String) :
    ((t.put place one).get? key).isSome = ((u.put place two).get? key).isSome := by
  rw [get?_put, get?_put]
  split
  · rfl
  · exact same key

section Apply

variable {p q q' : Projection}

theorem SameRecords.admission (same : SameRecords p q) {key : String} {held : RunAdmission}
    (found : p.admissions.get? key = some held) :
    ∃ other, q.admissions.get? key = some other ∧ held.unplaced = other.unplaced := by
  have both := same.admissions key
  rw [found, map_some] at both
  obtain ⟨other, found', same⟩ := map_eq_some_iff.mp both.symm
  exact ⟨other, found', same.symm⟩

theorem SameRecords.symm (same : SameRecords p q) : SameRecords q p where
  admissions key := (same.admissions key).symm
  admissionTombs := same.admissionTombs.symm
  leases := same.leases.symm
  leaseTombs := same.leaseTombs.symm
  handoffs key := (same.handoffs key).symm
  recoveries := same.recoveries.symm

theorem Alike.passes (alike : Alike p q) {key : String} {value : EvidenceHandoff}
    (passes : PassesOn (q.handoffs.get? key) value) : PassesOn (p.handoffs.get? key) value := by
  have both := alike.handoffs key
  cases found : p.handoffs.get? key with
  | none =>
    rw [found, map_none] at both
    rwa [map_eq_none_iff.mp both.symm] at passes
  | some prior =>
    rw [found, map_some] at both
    obtain ⟨other, found', same⟩ := map_eq_some_iff.mp both.symm
    rw [found'] at passes
    obtain ⟨subject, valid, predecessor⟩ := passes
    obtain ⟨subjects, states, receipts⟩ := EvidenceHandoff.unplaced_eq same
    exact ⟨subjects ▸ subject, states ▸ valid, receipts ▸ predecessor⟩

theorem Alike.applied {operation : SemanticOperation} {runID : String} {here there : Nat} {subject : Subject}
    {effect : Effect} (alike : Alike p q) (applied : Applied q operation runID there subject effect q') :
    ∃ p', Applied p operation runID here subject effect p' ∧ Alike p' q' := by
  cases applied with
  | @admission value follows starts =>
    refine ⟨_, .admission (fun prior found => ?_) fun absent => starts ?_,
      { alike with admissions := map_put alike.admissions (by rfl) _ }⟩
    · obtain ⟨other, found', same⟩ := alike.admission found
      obtain ⟨subject, follows⟩ := follows other found'
      obtain ⟨subjects, states, _⟩ := RunAdmission.unplaced_eq same
      exact ⟨subjects.trans subject, states ▸ follows⟩
    · have both := alike.admissions (scopedID runID value.subject.id)
      rw [absent, Option.map_none] at both
      exact Option.map_eq_none_iff.mp both.symm
  | @admissionTombstone value prior found live subject original chosen =>
    obtain ⟨other, found', same⟩ := alike.toSameRecords.symm.admission found
    obtain ⟨subjects, states, originals⟩ := RunAdmission.unplaced_eq same
    have released : (other.releasedBy value here).unplaced = (prior.releasedBy value there).unplaced := by
      simp only [RunAdmission.releasedBy, RunAdmission.unplaced, RunAdmission.mk.injEq] at same ⊢
      simp only [same, and_self]
    exact ⟨_, .admissionTombstone found' (states ▸ live) (subjects ▸ subject) (originals ▸ original)
      (states ▸ chosen), { alike with
        admissions := map_put alike.admissions released _
        admissionTombs := by rw [alike.admissionTombs] }⟩
  | lease renews active =>
    exact ⟨_, .lease (alike.leases.symm ▸ renews) active, { alike with leases := by rw [alike.leases] }⟩
  | leaseTombstone found requested ends =>
    exact ⟨_, .leaseTombstone (alike.leases.symm ▸ found) requested ends, { alike with
      leases := by rw [alike.leases]
      leaseTombs := by rw [alike.leaseTombs] }⟩
  | handoff passes own =>
    exact ⟨_, .handoff (alike.passes passes) (alike.handoffReceipts.symm ▸ own), { alike with
      handoffs := map_put alike.handoffs (by rfl) _
      handoffReceipts := by rw [alike.handoffReceipts] }⟩
  | recovery follows starts =>
    rw [← alike.recoveries, ← latestRecovery_congr alike.recoveries] at follows starts
    exact ⟨_, .recovery follows starts, { alike with recoveries := by rw [alike.recoveries] }⟩

end Apply

section Commits

/-- The replay `r` of `events` has reached the records that the transitions alone reach in `q`. -/
structure Follows (events foreign : List Event) (r : Replay) (q : Projection) : Prop where
  alike : Alike r.projection q
  position : r.wantPosition = events.length + 1
  heads : ∀ run, r.projection.head run = (events.filter (·.controlRunID = run)).length
  reservations : ∀ id, id ∈ r.reservations.keys ↔
    ∃ event ∈ foreign, event.kind = .actionReserved ∧ event.actionID = id

theorem Follows.fresh {events foreign : List Event} {r : Replay} {q : Projection}
    (follows : Follows events foreign r q) (within : foreign ⊆ events) (next : Journal.Follows events event)
    (reserves : event.kind = .actionReserved) : r.reservations.get? event.actionID = none := by
  refine AList.lookup_eq_none.mpr fun present => ?_
  obtain ⟨first, member, reserves', same⟩ := (follows.reservations _).mp (AList.mem_keys.mp present)
  have named : event.actionID ≠ "" := by
    have valid := next.valid
    unfold validateEvent at valid
    simp only [if_true] at valid
    obtain ⟨_, valid⟩ := require_bind_ok valid
    obtain ⟨_, valid⟩ := require_bind_ok valid
    obtain ⟨_, valid⟩ := require_bind_ok valid
    obtain ⟨_, valid⟩ := require_bind_ok valid
    exact named_nonempty (require_ok valid reserves)
  have unreserved := (next.inOrder named).reservation.mp (by rw [reserves]; rfl) first (within member) same
  rw [reserves'] at unreserved
  cases unreserved

variable [sha : Sha]

/-! ### One transition on two journals -/

/-- Two entries of one transition differ in their places only. -/
structure Twins (one two : Entry) : Prop where
  action : one.action = { two.action with expectedProjection := one.action.expectedProjection }
  outcome : one.outcome = { two.outcome with
    runSequence := one.outcome.runSequence
    journalPosition := one.outcome.journalPosition }
  request : one.request = two.request
  result : one.result = two.result
  expected : one.reservation.runSequence = one.action.expectedProjection + 1
  formed : one.WellFormed

variable {installationID : String} {request : RequestEnvelope} {outcome : OutcomeEnvelope}

theorem Twins.bound {two : Entry} (twins : Twins one two)
    (bound : Bound installationID two.action two.reservation two.outcome request outcome) :
    Bound installationID one.action one.reservation one.outcome request outcome := by
  have formed := twins.formed
  have actionID := formed.actionID _ mem_cons_self
  have actionRun : one.reservation.controlRunID = one.action.controlRunID := by
    rw [formed.reservation]; rfl
  unfold Bound at bound ⊢
  simp only [actionID, actionRun, formed.reservedKind, twins.expected, formed.nextSequence,
    formed.nextPosition, formed.run, formed.bound, true_and]
  rw [twins.action, twins.outcome]
  grind

theorem Alike.absorb {p q q' : Projection} {two : Entry} (alike : Alike p q)
    (twins : Twins one two) (ours : admissionComponent two.result = .ok true)
    (new : ∀ key record, q.transitions.get? key = some record ∨ q.idempotency.get? key = some record →
      record.receipt.action.id ≠ two.action.id)
    (absorbed : q.absorb two = .ok q') : ∃ p', p.absorb one = .ok p' ∧ Alike p' q' := by
  obtain ⟨foreign, _⟩ | ⟨request, outcome, read, result, valid, entered⟩ := absorb_ok absorbed
  · cases ours.symm.trans foreign
  · obtain ⟨semantic, idempotent, applied⟩ := enter_ok entered
    have unused : ∀ {prior : Option TransitionRecord}, (∀ record ∈ prior, record.receipt.action.id ≠ two.action.id) →
        (∀ record ∈ prior, sameTransition record (recordOf two request outcome) = true) →
        prior = none := by
      intro prior other same
      cases prior with
      | none => rfl
      | some record =>
        have equal := same record rfl
        simp only [sameTransition, decide_eq_true_eq] at equal
        exact absurd (congrArg Action.id equal.2.2.2.1) (other record rfl)
    have noSemantic : q.transitions.get? (semanticIndex request.binding.controlRunID
        request.binding.actionID request.binding.generation) = none :=
      unused (fun record found => new _ record (.inl found)) semantic
    have noIdempotent : q.idempotency.get? (idempotencyIndex request.binding.controlRunID
        request.binding.idempotencyKey) = none :=
      unused (fun record found => new _ record (.inr found)) idempotent
    have mineSemantic := alike.transitions (semanticIndex request.binding.controlRunID
      request.binding.actionID request.binding.generation)
    have mineIdempotent := alike.idempotency (idempotencyIndex request.binding.controlRunID
      request.binding.idempotencyKey)
    rw [noSemantic, isSome_none, isSome_eq_false_iff, isNone_iff_eq_none] at mineSemantic
    rw [noIdempotent, isSome_none, isSome_eq_false_iff, isNone_iff_eq_none] at mineIdempotent
    have readBack : one.requestRead = .admissionRequest request := by
      rw [← read]
      unfold requestRead
      rw [twins.request, twins.result, twins.action, twins.outcome]
    have persisted : validatePersistedTransition p.installationID one.action one.reservation one.outcome
        request outcome = .ok () := by
      unfold validatePersistedTransition at valid ⊢
      obtain ⟨bound, valid⟩ := require_bind_ok valid
      obtain ⟨_, valid⟩ := require_bind_ok valid
      have digests : one.reservation.payloadDigest = digest (.action one.action) := by
        rw [twins.formed.reservation]; rfl
      rw [alike.installation, require_bind _ (twins.bound bound), require_bind _ digests]
      exact valid
    have advanced : Alike ((p.advance one).indexed (recordOf one request outcome))
        ((q.advance two).indexed (recordOf two request outcome)) :=
      { alike with
        transitions := isSome_put alike.transitions _ _ _
        idempotency := isSome_put alike.idempotency _ _ _ }
    obtain ⟨p', accepted, alike'⟩ := advanced.applied (apply_iff.mp applied)
    refine ⟨p', ?_, alike'⟩
    unfold Projection.absorb
    rw [result] at ours
    simp only [twins.result, result, ours, if_true, readBack, decodeRequest, decodeOutcome, ok_bind]
    rw [show (p.advance one).installationID = p.installationID from rfl, persisted, ok_bind]
    unfold enter
    rw [require_bind, require_bind]
    · exact apply_iff.mpr accepted
    · intro prior found
      cases mineIdempotent.symm.trans found
    · intro prior found
      cases mineSemantic.symm.trans found

/-- What a rebuild reads of a committed transaction. -/
structure ReadsBack (store : MemoryStore) (entry : Entry) : Prop where
  action : store.actions.get? entry.action.id = some entry.action
  result : store.payload entry.outcome.payloadDigest = .ok entry.result
  request : store.payload entry.action.canonicalRequestDigest = .ok entry.requestRead

/-- `events` holds the transitions of `log`, and between them the `foreign` events. -/
inductive Pairs (store : MemoryStore) : List Event → List Event → List Entry → Prop
  | nil : Pairs store [] [] []
  | ours {events foreign : List Event} {log : List Entry} {one two : Entry} : Pairs store events foreign log →
    Twins one two → ReadsBack store one → admissionComponent two.result = .ok true →
    Pairs store (events ++ one.events) foreign (log ++ [two])
  | other {events foreign : List Event} {log : List Entry} {event : Event} : Pairs store events foreign log →
    Pairs store (events ++ [event]) (foreign ++ [event]) log

section Fold

variable {store : MemoryStore} {events foreign rest : List Event} {r : Replay} {q q' : Projection}

/-- The payload of an outcome event is stored and not admission's. -/
def Readable (store : MemoryStore) (event : Event) : Prop :=
  ∃ document, store.payload event.payloadDigest = .ok document ∧ admissionComponent document = .ok false

theorem Pairs.subset {log : List Entry} (pairs : Pairs store events foreign log) : foreign ⊆ events := by
  induction pairs with
  | nil => exact Subset.refl _
  | ours _ _ _ _ ih => exact subset_append_of_subset_left _ ih
  | other _ ih => exact append_subset.mpr ⟨subset_append_of_subset_left _ ih, subset_append_right _ _⟩

section

variable (follows : Follows events foreign r q) (within : foreign ⊆ events)
include follows within

theorem Follows.ours {one two : Entry} (valid : store.Valid) (whole : store.events = events ++ (one.events ++ rest))
    (twins : Twins one two) (keeps : ReadsBack store one) (mine : admissionComponent two.result = .ok true)
    (new : ∀ key record, q.transitions.get? key = some record ∨ q.idempotency.get? key = some record →
      record.receipt.action.id ≠ two.action.id) (absorbed : q.absorb two = .ok q') :
    ∃ r', one.events.foldlM (store.replay step) r = .ok r' ∧ Follows (events ++ one.events) foreign r' q' := by
  obtain ⟨p, absorbed, alike⟩ := follows.alike.absorb twins mine new absorbed
  have formed := twins.formed
  have recorded := valid.recorded
  rw [whole] at recorded
  have next := Recorded.follows recorded
  have run : one.reservation.controlRunID = one.action.controlRunID := by
    rw [formed.reservation]; rfl
  have sequence := next.sequence
  rw [run, ← follows.heads] at sequence
  have fresh := follows.fresh within next formed.reservedKind
  rw [formed.actionID _ mem_cons_self] at fresh
  have folded : one.events.foldlM (store.replay step) r = Entry.replay step r one := by
    simp only [Entry.events, List.foldlM_cons, List.foldlM_nil, bind_pure]
    rw [Entry.replay, MemoryStore.replay, step_ignores r one.reservation _ one.evidence formed.reservedKind]
    congr 1
    funext t
    rw [MemoryStore.replay, (valid.reserved _ _ keeps.action).2.evidence formed keeps.result keeps.request]
  refine ⟨_, folded.trans (by rw [replay_entry formed (next.position.trans follows.position.symm) sequence fresh,
    absorbed, ok_bind]), alike, ?_, fun run => ?_, fun id => ?_⟩
  · simp [follows.position, Entry.events]
  · rw [List.filter_append, List.length_append, ← follows.heads run]
    exact head_absorb formed sequence absorbed run
  · rw [← follows.reservations id]
    simp [openReservations, twins.result, mine]

theorem Follows.other (valid : store.Valid) (whole : store.events = events ++ event :: rest)
    (readable : event.kind.isOutcome = true → Readable store event) :
    ∃ r', store.replay step r event = .ok r' ∧ Follows (events ++ [event]) (foreign ++ [event]) r' q := by
  have recorded := valid.recorded
  rw [whole] at recorded
  have next := Recorded.follows recorded
  have encodable : event.occurredAt.Encodable := valid.encodable event (by rw [whole]; simp)
  have checked : event.journalPosition = r.wantPosition ∧
      event.runSequence = r.projection.head event.controlRunID + 1 :=
    ⟨next.position.trans follows.position.symm, by rw [next.sequence, follows.heads]⟩
  -- every branch moves the head of the event's run and nothing else of the projection
  have moved : ∀ reservations : Table Event, (∀ id, id ∈ reservations.keys ↔
      ∃ other ∈ foreign ++ [event], other.kind = .actionReserved ∧ other.actionID = id) →
      Follows (events ++ [event]) (foreign ++ [event]) {
        projection := r.projection.withHead event.controlRunID event.runSequence
        reservations
        wantPosition := r.wantPosition + 1 } q := fun reservations opened => {
    alike := { follows.alike with }
    position := by simp [follows.position]
    heads := fun run => by
      rw [List.filter_append, List.length_append, ← follows.heads run]
      simp only [Projection.head, Projection.withHead, Table.get?_put]
      by_cases same : run = event.controlRunID
      · simp [same, checked.2, Projection.head]
      · simp [same, Ne.symm same]
    reservations := opened }
  have kept : event.kind ≠ .actionReserved → ∀ id, id ∈ r.reservations.keys ↔
      ∃ other ∈ foreign ++ [event], other.kind = .actionReserved ∧ other.actionID = id := by
    intro quiet id
    simp only [follows.reservations id, mem_append, mem_singleton, or_and_right, exists_or, exists_eq_left, quiet,
      false_and, or_false]
  rw [MemoryStore.replay, step, require_bind _ checked, require_bind _ encodable]
  by_cases reserves : event.kind = .actionReserved
  · rw [if_pos reserves, require_bind _ (follows.fresh within next reserves)]
    refine ⟨_, rfl, moved _ fun id => ?_⟩
    simp only [Table.mem_keys_put, follows.reservations id, mem_append, mem_singleton, or_and_right, exists_or,
      exists_eq_left, reserves, true_and]
    rw [or_comm, eq_comm]
  · rw [if_neg reserves]
    by_cases reports : event.kind.isOutcome = true
    · obtain ⟨document, read, theirs⟩ := readable reports
      rw [if_neg (by simp [reports])]
      simp only [MemoryStore.evidence, read, relabel, ok_bind, theirs]
      exact ⟨_, rfl, moved _ (kept reserves)⟩
    · rw [if_pos reports]
      exact ⟨_, rfl, moved _ (kept reserves)⟩

end

/-- Every event of the others readable, the replay of the mixed journal follows the replay of the
transitions alone. -/
theorem Pairs.follows {log : List Entry} (pairs : Pairs store events foreign log)
    (valid : store.Valid) (whole : store.events = events ++ rest) (distinct : (log.map (·.action.id)).Nodup)
    (readable : ∀ event ∈ foreign, event.kind.isOutcome = true → Readable store event)
    (replayed : replay installationID log = .ok q) : ∃ r, events.foldlM (store.replay step)
        { projection := start installationID, wantPosition := 1 } = .ok r ∧ Follows events foreign r q := by
  induction pairs generalizing rest q with
  | nil =>
    cases pure_ok replayed
    exact ⟨_, rfl, ⟨⟨⟨fun _ => rfl, rfl, rfl, rfl, fun _ => rfl, rfl⟩, rfl, rfl, fun _ => rfl,
      fun _ => rfl⟩, rfl, fun _ => rfl, by simp⟩⟩
  | @ours events foreign log one two pairs twins keeps mine ih =>
    obtain ⟨before, replayed, absorbed⟩ := fold_snoc replayed
    rw [append_assoc] at whole
    rw [map_append, nodup_append] at distinct
    obtain ⟨r, folded, follows⟩ := ih whole distinct.1 readable replayed
    have new : ∀ key record, before.transitions.get? key = some record ∨
        before.idempotency.get? key = some record → record.receipt.action.id ≠ two.action.id := by
      obtain ⟨semantic, idempotent, _⟩ := replay_index replayed
      intro key record found same
      have recorded : Recorded log record := found.elim (semantic key record) (idempotent key record)
      obtain ⟨entry, member, _, _, _, _, _, rfl⟩ := recorded
      exact distinct.2.2 _ (mem_map_of_mem member) _ (mem_singleton_self _) same
    obtain ⟨r', taken, follows'⟩ := follows.ours pairs.subset valid whole twins keeps mine new absorbed
    refine ⟨r', ?_, follows'⟩
    rw [foldlM_append, folded, ok_bind, taken]
  | @other events foreign log event pairs ih =>
    rw [append_assoc] at whole
    obtain ⟨r, folded, follows⟩ := ih whole distinct
      (fun event member => readable event (mem_append_left _ member)) replayed
    obtain ⟨r', taken, follows'⟩ := follows.other pairs.subset valid whole (readable event (by simp))
    refine ⟨r', ?_, follows'⟩
    rw [foldlM_append, folded, ok_bind, foldlM_cons, taken]
    rfl

end Fold

def transitionCommit (store : MemoryStore) (request : RequestEnvelope) (outcome : OutcomeEnvelope)
    (occurredAt : Time) : CommitRequest :=
  let run := request.binding.controlRunID
  View.commitRequest {
    installationID := store.installationID
    runHeads := (∅ : Table Nat).put run (store.runOf run).length
    global := store.cursorAt store.events.length } request outcome occurredAt

/-- `mixed` took the transitions of `alone` in their order, with any writes of other components
between them that append no reservation and no instant without a JSON form; `foreign` are the
events that those left. -/
inductive Interleaved (installationID : String) : MemoryStore → MemoryStore → List Event → Prop
  | new {store : MemoryStore} : newMemoryStore installationID = .ok store → Interleaved installationID store store []
  | transition {mixed alone mixed' alone' : MemoryStore} {foreign : List Event}
    {request : RequestEnvelope} {outcome : OutcomeEnvelope} {occurredAt : Time}
    {receipt receipt' : CommitReceipt} : Interleaved installationID mixed alone foreign →
    outcome.component = component →
    mixed.commit (transitionCommit mixed request outcome occurredAt) = .ok (receipt, mixed') →
    alone.commit (transitionCommit alone request outcome occurredAt) = .ok (receipt', alone') →
    receipt.created = true → receipt'.created = true → Interleaved installationID mixed' alone' foreign
  | other {mixed alone : MemoryStore} {foreign : List Event} {write : Journal.Write} :
    Interleaved installationID mixed alone foreign → mixed.Adds Ordinary write →
    Interleaved installationID (mixed.write write) alone
      (foreign ++ (mixed.write write).events.drop mixed.events.length)

structure Paired (installationID : String) (mixed alone : MemoryStore) (foreign : List Event)
    (log : List Entry) : Prop where
  valid : mixed.Valid
  holds : alone.Holds log
  pairs : Pairs mixed mixed.events foreign log
  mixedInstallation : mixed.installationID = installationID
  aloneInstallation : alone.installationID = installationID
  named : installationID ≠ ""
  ours : ∀ entry ∈ log, admissionComponent entry.result = .ok true

section Interleaving

variable {installationID : String} {store after mixed alone : MemoryStore} {events foreign : List Event}
  {log : List Entry}

theorem ReadsBack.change {allowed : Event → Prop} (keeps : ReadsBack store one) (change : store.Change allowed after) :
    ReadsBack after one :=
  ⟨change.actions_stay keeps.action, change.payload_stays keeps.result, change.payload_stays keeps.request⟩

theorem Pairs.change {allowed : Event → Prop} (pairs : Pairs store events foreign log)
    (change : store.Change allowed after) : Pairs after events foreign log := by
  induction pairs with
  | nil => exact .nil
  | ours _ twins keeps mine ih => exact ih.ours twins (keeps.change change) mine
  | other _ ih => exact ih.other

theorem Pairs.others (pairs : Pairs store events foreign log) (more : List Event) :
    Pairs store (events ++ more) (foreign ++ more) log := by
  induction more using List.reverseRecOn with
  | nil => simpa using pairs
  | append_singleton more event ih =>
    rw [← append_assoc, ← append_assoc]
    exact ih.other

theorem Paired.changes (paired : Paired installationID mixed alone foreign log)
    (changes : ReflTransGen (Change Ordinary) mixed after) :
    ∃ more, after.events = mixed.events ++ more ∧ Paired installationID after alone (foreign ++ more) log := by
  induction changes with
  | refl => exact ⟨[], (append_nil _).symm, by rwa [append_nil]⟩
  | @tail middle after _ change ih =>
    obtain ⟨before, events, paired⟩ := ih
    obtain ⟨installation, more, grown⟩ := change.grows
    refine ⟨before ++ more, by rw [← grown, events, append_assoc], { paired with
      valid := change.valid paired.valid
      pairs := ?_
      mixedInstallation := installation.trans paired.mixedInstallation }⟩
    rw [← grown, ← append_assoc]
    exact (paired.pairs.change change).others more

theorem Paired.transition (paired : Paired installationID mixed alone foreign log) {occurredAt : Time}
    (named : outcome.component = component)
    (first : mixed.Accepted (transitionCommit mixed request outcome occurredAt))
    (second : alone.Accepted (transitionCommit alone request outcome occurredAt)) :
    Paired installationID (mixed.committed (transitionCommit mixed request outcome occurredAt))
      (alone.committed (transitionCommit alone request outcome occurredAt)) foreign
      (log ++ [alone.entryOf (transitionCommit alone request outcome occurredAt)]) := by
  have mine : admissionComponent (.admissionOutcome outcome) = .ok true := by
    simp [admissionComponent, named]
  have twins : Twins (mixed.entryOf (transitionCommit mixed request outcome occurredAt))
      (alone.entryOf (transitionCommit alone request outcome occurredAt)) := by
    refine ⟨rfl, rfl, rfl, rfl, ?_, first.wellFormed⟩
    simp [MemoryStore.entryOf, MemoryStore.receiptOf, MemoryStore.placed, MemoryStore.reserved,
      transitionCommit, View.commitRequest, Projection.actionOf, Projection.head]
  have change : mixed.Change Ordinary _ := .commit first
  exact {
    valid := change.valid paired.valid
    holds := paired.holds.committed second
    pairs := by
      rw [committed_events]
      exact (paired.pairs.change change).ours twins
        ⟨get?_put_self _ _ _, first.result_stored, first.request_stored⟩ mine
    mixedInstallation := paired.mixedInstallation
    aloneInstallation := paired.aloneInstallation
    named := paired.named
    ours := fun entry member => by
      rcases mem_append.mp member with old | new
      · exact paired.ours entry old
      · rw [mem_singleton.mp new]
        exact mine }

theorem Interleaved.paired (interleaved : Interleaved installationID mixed alone foreign) :
    ∃ log, Paired installationID mixed alone foreign log := by
  induction interleaved with
  | new created =>
    obtain ⟨rfl, named⟩ := newMemoryStore_ok created
    exact ⟨[], valid_new _, holds_new _, .nil, rfl, rfl, named, fun _ m => nomatch m⟩
  | transition _ named first second created created' ih =>
    obtain ⟨log, paired⟩ := ih
    rcases commit_ok first with ⟨_, _, _, rfl⟩ | ⟨accepted, _, rfl⟩
    · cases created
    rcases commit_ok second with ⟨_, _, _, rfl⟩ | ⟨accepted', _, rfl⟩
    · cases created'
    exact ⟨_, paired.transition named accepted accepted'⟩
  | other _ adds ih =>
    obtain ⟨log, paired⟩ := ih
    obtain ⟨more, events, grown⟩ := paired.changes (write_changes paired.valid.toIndexed adds)
    exact ⟨log, by rwa [events, drop_left]⟩

theorem step_reads {r t : Replay} (h : store.replay step r event = .ok t)
    (reports : event.kind.isOutcome = true) :
    ∃ document named, store.payload event.payloadDigest = .ok document ∧ admissionComponent document = .ok named := by
  unfold MemoryStore.replay step at h
  obtain ⟨_, h⟩ := require_bind_ok h
  obtain ⟨_, h⟩ := require_bind_ok h
  have other : event.kind ≠ .actionReserved := by
    intro reserves
    rw [reserves] at reports
    cases reports
  rw [if_neg other, if_neg (by simp [reports])] at h
  obtain ⟨document, read, h⟩ := bind_ok h
  obtain ⟨named, component, _⟩ := bind_ok h
  exact ⟨document, named, relabel_ok read, component⟩

/-- When the admission transitions alone rebuild and no outcome document of the others names
admission, the mixed journal rebuilds to the same records exactly when those documents are stored
and can be decoded and none of the others' actions has admission's prefix. -/
theorem foreign_harmless (interleaved : Interleaved installationID mixed alone foreign) {expected : View}
    (read : rebuildAll alone = .ok expected)
    (theirs : ∀ event ∈ foreign, event.kind.isOutcome = true → ∀ document,
      mixed.payload event.payloadDigest = .ok document → admissionComponent document ≠ .ok true) :
    (∃ view, rebuildAll mixed = .ok view ∧ SameRecords view.toProjection expected.toProjection) ↔
    (∀ event ∈ foreign, event.kind.isOutcome = true → Readable mixed event) ∧
    ∀ event ∈ foreign, event.kind = .actionReserved → beginsWith "admission_action_" event.actionID = false := by
  obtain ⟨log, valid, holds, pairs, mixedNamed, aloneNamed, named, ours⟩ := interleaved.paired
  have clean : Clean log := fun entry member foreign => absurd (ours entry member) foreign
  rw [rebuildAll_eq holds clean (aloneNamed ▸ named), aloneNamed] at read
  obtain ⟨q, replayed, same⟩ := bind_ok read
  cases same
  have rebuilt := rebuildAll_events valid.recorded.numbered (mixedNamed ▸ named)
  rw [mixedNamed] at rebuilt
  have follows := fun readable => pairs.follows valid (append_nil _).symm holds.distinct readable replayed
  constructor
  · rintro ⟨view, rebuiltView, _⟩
    rw [rebuilt] at rebuiltView
    obtain ⟨r, folded, finished⟩ := bind_ok rebuiltView
    have readable : ∀ event ∈ foreign, event.kind.isOutcome = true → Readable mixed event := by
      intro event member reports
      obtain ⟨s, t, stepped⟩ := foldlM_mem folded (pairs.subset member)
      obtain ⟨document, ours, stored, component⟩ := step_reads stepped reports
      have other := theirs event member reports document stored
      cases ours with
      | false => exact ⟨document, stored, component⟩
      | true => exact absurd component other
    obtain ⟨r', folded', following⟩ := follows readable
    cases folded.symm.trans folded'
    refine ⟨readable, fun event member reserves => ?_⟩
    unfold finish at finished
    obtain ⟨_, finished⟩ := require_bind_ok finished
    obtain ⟨closed, _⟩ := require_bind_ok finished
    have still := (following.reservations event.actionID).mpr ⟨event, member, reserves, rfl⟩
    simpa using closed _ still
  · rintro ⟨readable, apart⟩
    obtain ⟨r, folded, following⟩ := follows readable
    have installed : r.projection.installationID ≠ "" := by
      rw [following.alike.installation, fold_installation replayed]
      exact named
    have closed : ∀ actionID ∈ r.reservations.keys, ¬ beginsWith "admission_action_" actionID = true := by
      intro id still
      obtain ⟨event, member, reserves, rfl⟩ := (following.reservations id).mp still
      simp [apart event member reserves]
    refine ⟨{ r.projection with global := mixed.cursorAt mixed.events.length }, ?_, ?_⟩
    · rw [rebuilt, folded, ok_bind, finish, require_bind _ installed, require_bind _ closed]
      rfl
    · exact following.alike.toSameRecords

end Interleaving

inductive Write where
  | transition (request : RequestEnvelope) (outcome : OutcomeEnvelope) (occurredAt : Time)
  | other (write : Journal.Write)

instance (store : MemoryStore) (write : Journal.Write) : Decidable (store.Adds Ordinary write) :=
  have _ordinary (event : Event) : Decidable (Ordinary event) :=
    decidable_of_iff (_ ∧ _) ⟨fun ⟨reserves, timed⟩ => ⟨reserves, timed⟩, fun h => ⟨h.reserves, h.encodable⟩⟩
  match write with
  | .append _ _ _ | .reserveAndAppend _ _ => inferInstanceAs (Decidable (_ → _))
  | .reserve _ | .commit _ => inferInstanceAs (Decidable True)

def Write.run (mixed alone : MemoryStore) (foreign : List Event) :
    Write → Option (MemoryStore × MemoryStore × List Event)
  | .transition request outcome occurredAt =>
    if outcome.component = component then
      match mixed.commit (transitionCommit mixed request outcome occurredAt),
        alone.commit (transitionCommit alone request outcome occurredAt) with
      | .ok (receipt, mixed), .ok (receipt', alone) =>
        if receipt.created = true ∧ receipt'.created = true then some (mixed, alone, foreign) else none
      | _, _ => none
    else none
  | .other write =>
    if mixed.Adds Ordinary write then
      some (mixed.write write, alone, foreign ++ (mixed.write write).events.drop mixed.events.length)
    else none

def interleave (writes : List Write) : Option (MemoryStore × MemoryStore × List Event) :=
  writes.foldlM (fun (mixed, alone, foreign) write => write.run mixed alone foreign)
    ({ installationID := "i" }, { installationID := "i" }, [])

theorem Write.interleaved {mixed alone mixed' alone' : MemoryStore}
    {foreign foreign' : List Event} {write : Write} (interleaved : Interleaved installationID mixed alone foreign)
    (ran : write.run mixed alone foreign = some (mixed', alone', foreign')) :
    Interleaved installationID mixed' alone' foreign' := by
  cases write with
  | transition request outcome occurredAt =>
    simp only [Write.run] at ran
    split at ran
    · rename_i named
      split at ran
      · rename_i first second
        split at ran
        · rename_i created
          cases ran
          exact .transition interleaved named first second created.1 created.2
        · cases ran
      · cases ran
    · cases ran
  | other write =>
    simp only [Write.run] at ran
    split at ran
    · rename_i adds
      cases ran
      exact .other interleaved adds
    · cases ran

theorem interleave_interleaved {writes : List Write} {mixed alone : MemoryStore} {foreign : List Event}
    (ran : interleave writes = some (mixed, alone, foreign)) : Interleaved "i" mixed alone foreign :=
  foldlM_some (fun state => Interleaved "i" state.1 state.2.1 state.2.2)
    (fun _ _ _ interleaved taken => Write.interleaved interleaved taken) (.new (by decide +kernel)) ran

end Commits

section Sample

variable [sha : Sha]

def sampleRequest : RequestEnvelope :=
  Service.sample.request (Plan.reserve (.sample "one" "1")).transition "i"

def sampleTransition : Write :=
  .transition sampleRequest (outcomeOf sampleRequest (.admission {
    controlRunID := "run"
    subject := ⟨"one", "principal", "project", "primitive", "one"⟩
    state := .reserved
    graphRevision := 1
    generation := 1
    policyVersion := 1
    policyDigest := Service.sample.policyDigest
    originalRequestDigest := digest (.admissionRequest sampleRequest)
    receiptID := opaqueReceiptID .admissionReserve sampleRequest.binding
      (digest (.admissionRequest sampleRequest)) })) 1

def sampleAction (id : String) : Action where
  id := id
  controlRunID := "other"
  kind := .dispatch
  graphRevision := 1
  expectedProjection := 0
  canonicalRequestDigest := digest (.foreign none "request")
  idempotencyKey := "key"

def sampleEvent (kind : EventKind) (id : String) (document : Document) : Event where
  id := "event"
  controlRunID := "other"
  actionID := id
  kind := kind
  payloadDigest := digest document
  occurredAt := 1

def storedOutcome : List Write := [
  .other (.commit {
    action := sampleAction "theirs"
    expectedRun := ⟨"i", "other", 1, 0⟩
    expectedGlobal := ⟨"i", 1, 0⟩
    requestPayload := .foreign none "request"
    outcome := sampleEvent .actionResult "theirs" (.foreign none "snapshot")
    outcomePayload := .foreign none "snapshot" }),
  sampleTransition]

/-- An action of the snapshot service whose outcome event has no stored payload. -/
def unstoredOutcome : List Write := [
  .other (.reserve (sampleAction "theirs")), sampleTransition,
  .other (.append "other" 1 (sampleEvent .actionResult "theirs" (.foreign none "snapshot")))]

def openAction : List Write :=
  [sampleTransition, .other (.reserve (sampleAction "admission_action_theirs"))]

end Sample

@[reducible] def foreignHash : Sha :=
  let actions (writes : List Write) := match @interleave Sha.sample writes with
    | some (mixed, _, _) => mixed.actions.values.map Document.action ++ mixed.payloads.values
    | none => []
  Sha.separating (.admissionPolicy Service.sample.policy :: .foreign none "request" ::
    .foreign none "snapshot" ::
    .admissionSubject (@sampleRequest Sha.sample).subject :: (actions (@storedOutcome Sha.sample) ++
      actions (@openAction Sha.sample))).dedup

theorem foreignHash_injective : foreignHash.Injective := Sha.separating_injective (by decide +kernel)

attribute [local instance] foreignHash

theorem foreign_harmless_stored : ∃ mixed alone foreign view expected,
    interleave storedOutcome = some (mixed, alone, foreign) ∧ foreign.length = 2 ∧
    rebuildAll alone = .ok expected ∧ rebuildAll mixed = .ok view ∧
    SameRecords view.toProjection expected.toProjection := by
  obtain ⟨⟨mixed, alone, foreign⟩, ran, two, expected, read, resolves, apart⟩ :
      ∃ run, interleave storedOutcome = some run ∧ run.2.2.length = 2 ∧ ∃ expected, rebuildAll run.2.1 = .ok expected ∧
        (∀ event ∈ run.2.2, event.kind.isOutcome = true → ∃ document,
          run.1.payload event.payloadDigest = .ok document ∧ admissionComponent document = .ok false) ∧
        ∀ event ∈ run.2.2, event.kind = .actionReserved →
          beginsWith "admission_action_" event.actionID = false := by decide +kernel
  have theirs : ∀ event ∈ foreign, event.kind.isOutcome = true → ∀ document,
      mixed.payload event.payloadDigest = .ok document → admissionComponent document ≠ .ok true := by
    intro event member reports document found own
    obtain ⟨other, found', named⟩ := resolves event member reports
    cases found.symm.trans found'
    cases own.symm.trans named
  obtain ⟨view, rebuilt, same⟩ := (foreign_harmless (interleave_interleaved ran) read theirs).mpr ⟨resolves, apart⟩
  exact ⟨mixed, alone, foreign, view, expected, ran, two, read, rebuilt, same⟩

/-- The transitions alone rebuild; with the other component's events no rebuild succeeds. -/
theorem foreign_breaks_rebuild : foreignHash.Injective ∧
    (∃ mixed alone foreign expected, Interleaved "i" mixed alone foreign ∧ rebuildAll alone = .ok expected ∧
      rebuildAll mixed = .error (.typed .notFound none .notFound)) ∧
    ∃ mixed alone foreign expected, Interleaved "i" mixed alone foreign ∧
      rebuildAll alone = .ok expected ∧ rebuildAll mixed = .error invalidRecord := by
  have fails : ∀ (writes : List Write) (e : Error), (∃ run, interleave writes = some run ∧
      ∃ expected, rebuildAll run.2.1 = .ok expected ∧ rebuildAll run.1 = .error e) →
      ∃ mixed alone foreign expected, Interleaved "i" mixed alone foreign ∧
        rebuildAll alone = .ok expected ∧ rebuildAll mixed = .error e := by
    rintro writes e ⟨⟨mixed, alone, foreign⟩, ran, expected, read, failed⟩
    exact ⟨mixed, alone, foreign, expected, interleave_interleaved ran, read, failed⟩
  exact ⟨foreignHash_injective, fails unstoredOutcome _ (by decide +kernel), fails openAction _ (by decide +kernel)⟩

end Paje.Admission
