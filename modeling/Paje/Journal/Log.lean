import Mathlib.Data.List.Induction
import Paje.Journal.Store

/-!
The journal as a log of commits: every read that a replay makes of an entry's events returns the
entry's own documents, now and after any later commit.
-/

namespace Paje.Journal

open Text MemoryStore Table GlobalCursor

variable {document : Document} {entry : Entry} {wanted : String}
variable {action : Action} {event : Event} {log : List Entry}

structure Entry where
  action : Action
  (reservation outcome : Event)
  (request result : Document)

structure Evidence where
  payload : Except Error Document
  action : Except Error Action
  request : Except Error Document

namespace Entry

def events (entry : Entry) : List Event := [entry.reservation, entry.outcome]

/-- The document that the action's digest resolves to: the outcome's is stored last. -/
def requestRead (entry : Entry) : Document :=
  if entry.action.canonicalRequestDigest = entry.outcome.payloadDigest then entry.result
  else entry.request

def evidence (entry : Entry) : Evidence := ⟨.ok entry.result, .ok entry.action, .ok entry.requestRead⟩

end Entry

/-- `events` carry the positions that appends after `before` give them. -/
inductive Numbered : List Event → Prop
  | nil : Numbered []
  | snoc {before : List Event} {event : Event} : Numbered before → event.journalPosition = before.length + 1 →
    event.runSequence = (before.filter (·.controlRunID = event.controlRunID)).length + 1 →
    Numbered (before ++ [event])

def eventsOf (log : List Entry) : List Event := log.flatMap Entry.events

@[simp] theorem eventsOf_nil : eventsOf [] = [] := rfl

@[simp] theorem eventsOf_append (front back : List Entry) :
    eventsOf (front ++ back) = eventsOf front ++ eventsOf back := List.flatMap_append

@[simp] theorem eventsOf_singleton (entry : Entry) : eventsOf [entry] = entry.events := by
  simp [eventsOf]

theorem length_eventsOf (log : List Entry) : (eventsOf log).length = 2 * log.length := by
  induction log with
  | nil => rfl
  | cons entry rest ih =>
    simp only [eventsOf, List.flatMap_cons, List.length_append] at ih ⊢
    simp only [ih, Entry.events, List.length_cons, List.length_nil]
    omega

theorem eventsOf_drop (log : List Entry) (n : Nat) : (eventsOf log).drop (2 * n) = eventsOf (log.drop n) := by
  induction n generalizing log with
  | zero => rfl
  | succ n ih =>
    cases log with
    | nil => simp
    | cons entry rest =>
      have whole : eventsOf (entry :: rest) = entry.reservation :: entry.outcome :: eventsOf rest := rfl
      rw [whole, show 2 * (n + 1) = 2 * n + 1 + 1 by omega, List.drop_succ_cons,
        List.drop_succ_cons, List.drop_succ_cons]
      exact ih rest

theorem Numbered.of_snoc {front : List Event} (numbered : Numbered (front ++ [event])) :
    Numbered front ∧ event.journalPosition = front.length + 1 ∧
      event.runSequence = (front.filter (·.controlRunID = event.controlRunID)).length + 1 := by
  generalize whole : front ++ [event] = events at numbered
  cases numbered with
  | nil => simp at whole
  | snoc before position sequence =>
    obtain ⟨rfl, same⟩ := List.append_inj' whole rfl
    cases same
    exact ⟨before, position, sequence⟩

variable {front back : List Event}

theorem Numbered.of_append (numbered : Numbered (front ++ back)) : Numbered front := by
  induction back using List.reverseRecOn with
  | nil => simpa using numbered
  | append_singleton back last ih =>
    rw [← List.append_assoc] at numbered
    exact ih numbered.of_snoc.1

theorem Numbered.next (numbered : Numbered (front ++ event :: back)) : event.journalPosition = front.length + 1 ∧
      event.runSequence = (front.filter (·.controlRunID = event.controlRunID)).length + 1 := by
  rw [← List.singleton_append, ← List.append_assoc] at numbered
  exact numbered.of_append.of_snoc.2

theorem Numbered.position {events : List Event} (numbered : Numbered events) {i : Nat}
    (found : events[i]? = some event) : event.journalPosition = i + 1 := by
  obtain ⟨inside, rfl⟩ := List.getElem?_eq_some_iff.mp found
  rw [← List.take_append_drop i events, List.drop_eq_getElem_cons inside] at numbered
  rw [numbered.next.1, List.length_take_of_le (by omega)]

def MemoryStore.cursorAt (store : MemoryStore) (n : Nat) : GlobalCursor :=
  ⟨store.installationID, schemaVersion, n⟩

theorem MemoryStore.cursorAt_started (store : MemoryStore) (n : Nat) : store.cursorAt n ≠ zero := by
  intro same
  cases congrArg GlobalCursor.schemaVersion same

theorem MemoryStore.feed_zero (store : MemoryStore) (limit : Nat) :
    store.feed zero limit = store.feed (store.cursorAt 0) limit := by
  simp only [feed, if_neg (store.cursorAt_started 0), if_true]
  rfl

theorem pageLimit_pos (limit : Nat) : 0 < MemoryStore.pageLimit limit := by
  unfold MemoryStore.pageLimit
  split
  · omega
  · split <;> omega

variable {store : MemoryStore}

theorem MemoryStore.feed_page
    (positions : ∀ i event, store.events[i]? = some event → event.journalPosition = i + 1) {n : Nat}
    (within : n ≤ store.events.length) (limit : Nat) : store.feed (store.cursorAt n) limit =
      .ok ((store.events.drop n).take (pageLimit limit),
        store.cursorAt (min (n + pageLimit limit) store.events.length)) := by
  simp only [feed, if_neg (store.cursorAt_started n)]
  rw [require_bind _ ⟨rfl, rfl, within⟩]
  show Except.ok (((store.events.drop n).take (pageLimit limit)), store.cursorAt
    ((((store.events.drop n).take (pageLimit limit)).getLast?.map Event.journalPosition).getD n)) = _
  rw [Paging.page_end positions (pageLimit_pos limit) within]

theorem MemoryStore.feed_serves (numbered : Numbered store.events) :
    Paging.Serves (fun cursor => store.feed cursor 1000) store.events store.cursorAt := by
  intro n within
  exact ⟨1000, by omega, feed_page (fun _ _ found => numbered.position found) within 1000⟩

theorem validateAction_named (valid : validateAction action = .ok ()) :
    ¬ blank action.id ∧ ¬ blank action.controlRunID := by
  unfold validateAction at valid
  obtain ⟨named, _⟩ := require_bind_ok valid
  exact ⟨named.1, named.2.1⟩

namespace MemoryStore

theorem runOf_push (store : MemoryStore) (event : Event) (run : String) : (store.push event).runOf run =
      store.runOf run ++ if run = event.controlRunID then [event] else [] := by
  simp only [push, runOf, Table.get?_put]
  split
  · rename_i same
    rw [same]
    rfl
  · simp

theorem payload_of_get? (valid : validDigest wanted) (found : store.payloads.get? wanted = some document) :
    store.payload wanted = .ok document := by
  simp only [payload, require_pos valid, ok_bind, found]

theorem payload_ok (read : store.payload wanted = .ok document) :
    validDigest wanted ∧ store.payloads.get? wanted = some document := by
  unfold payload at read
  obtain ⟨valid, read⟩ := require_bind_ok read
  refine ⟨valid, ?_⟩
  split at read
  · cases read
  · rename_i found
    rw [found, Except.ok.inj read]

end MemoryStore

theorem newMemoryStore_ok {installationID : String}
    (new : newMemoryStore installationID = .ok store) : store = { installationID } ∧ installationID ≠ "" := by
  obtain ⟨present, done⟩ := require_bind_ok new
  refine ⟨(pure_ok done).symm, ?_⟩
  rintro rfl
  exact present rfl

theorem MemoryStore.runs_push (event : Event)
    (runs : ∀ run, store.runOf run = store.events.filter (·.controlRunID = run)) (run : String) :
    (store.push event).runOf run = (store.push event).events.filter (·.controlRunID = run) := by
  rw [runOf_push, runs, push, List.filter_append]
  split
  · rename_i mine
    simp [mine]
  · rename_i other
    simp [Ne.symm other]

theorem MemoryStore.counted_push (event : Event) (numbered : Numbered store.events)
    (runs : ∀ run, store.runOf run = store.events.filter (·.controlRunID = run)) :
    let after := store.push (store.placed event 1)
    Numbered after.events ∧ ∀ run, after.runOf run = after.events.filter (·.controlRunID = run) :=
  ⟨.snoc numbered rfl (congrArg (List.length · + 1) (runs _)), runs_push _ runs⟩

theorem MemoryStore.reservationsOf_push (store : MemoryStore) (event : Event) (run id : String) :
    (store.push event).reservationsOf run id = store.reservationsOf run id ++
      if run = event.controlRunID ∧ event.actionID = id ∧ (event.kind = .actionReserved ∨ event.kind = .migrationAction)
      then [event] else [] := by
  simp only [reservationsOf, runOf_push, List.filter_append]
  by_cases own : run = event.controlRunID
  · by_cases reserving : event.actionID = id ∧ (event.kind = .actionReserved ∨ event.kind = .migrationAction)
    · simp [own, reserving]
    · simp [own, reserving]
  · simp [own]

variable [sha : Sha]

namespace Entry

/-- The two events of an entry are the ones a commit writes. -/
structure WellFormed (entry : Entry) : Prop where
  reservation : entry.reservation = { MemoryStore.reserved entry.action with
    runSequence := entry.reservation.runSequence
    journalPosition := entry.reservation.journalPosition }
  run : entry.outcome.controlRunID = entry.action.controlRunID
  bound : entry.outcome.actionID = entry.action.id
  kind : entry.outcome.kind = .actionResult ∨ entry.outcome.kind = .actionNotPerformed ∨
    entry.outcome.kind = .actionAmbiguous
  encodable : entry.outcome.occurredAt.Encodable
  nextSequence : entry.outcome.runSequence = entry.reservation.runSequence + 1
  nextPosition : entry.outcome.journalPosition = entry.reservation.journalPosition + 1
  actionValid : validateAction entry.action = .ok ()
  resultStored : validatePayload entry.result entry.outcome.payloadDigest = .ok ()
  requestStored : validatePayload entry.request entry.action.canonicalRequestDigest = .ok ()

theorem WellFormed.reservedKind (formed : entry.WellFormed) : entry.reservation.kind = .actionReserved := by
  rw [formed.reservation]
  rfl

theorem WellFormed.actionID (formed : entry.WellFormed) (event : Event)
    (mine : event ∈ entry.events) : event.actionID = entry.action.id := by
  simp only [Entry.events, List.mem_cons, List.not_mem_nil, or_false] at mine
  rcases mine with rfl | rfl
  · rw [formed.reservation]
    rfl
  · exact formed.bound

end Entry

namespace MemoryStore

def evidence (store : MemoryStore) (event : Event) : Evidence where
  payload := store.payload event.payloadDigest
  action := store.reservation event.controlRunID event.actionID
  request := do
    let action ← store.reservation event.controlRunID event.actionID
    store.payload action.canonicalRequestDigest

def entryOf (store : MemoryStore) (request : CommitRequest) : Entry where
  action := request.action
  reservation := (store.receiptOf request).reservation
  outcome := (store.receiptOf request).outcome
  request := request.requestPayload
  result := request.outcomePayload

structure Accepted (store : MemoryStore) (request : CommitRequest) : Prop where
  encodable : request.outcome.occurredAt.Encodable
  commitUnused : store.commits.get? request.action.id = none
  commitKeyUnused : store.commitKeys.get? request.action.idempotencyKey = none
  unused : store.actions.get? request.action.id = none
  keyUnused : store.idempotency.get? request.action.idempotencyKey = none
  valid : validateCommitRequest request = .ok ()
  installation : request.expectedRun.installationID = store.installationID ∧
    request.expectedGlobal.installationID = store.installationID
  runHead : request.expectedRun.runSequence = (store.runOf request.action.controlRunID).length
  head : request.expectedGlobal.journalPosition = store.events.length
  reservationValid : validateEvent (store.receiptOf request).reservation true = .ok ()
  outcomeValid : validateEvent (store.receiptOf request).outcome true = .ok ()
  distinct : (reserved request.action).id ≠ request.outcome.id
  fresh : store.eventByID.get? (reserved request.action).id = none ∧ store.eventByID.get? request.outcome.id = none
  transition : validateOutcomeTransition store.events request.outcome = .ok ()
  payloads : (request.action.canonicalRequestDigest ≠ request.outcome.payloadDigest →
      store.storesOnly request.action.canonicalRequestDigest request.requestPayload) ∧
    store.storesOnly request.outcome.payloadDigest request.outcomePayload

/-- `existing` is the commit of this very request. -/
structure Repeats (store : MemoryStore) (request : CommitRequest) (existing : MemoryCommit) : Prop where
  keyed : ∀ id, store.commitKeys.get? request.action.idempotencyKey = some id → id = request.action.id
  found : store.commits.get? request.action.id = some existing
  valid : validateCommitRequest request = .ok ()
  action : existing.receipt.action = request.action
  requestPayload : existing.requestPayload = request.requestPayload
  outcomePayload : existing.outcomePayload = request.outcomePayload
  outcome : { existing.receipt.outcome with runSequence := 0, journalPosition := 0 } = request.outcome
  installation : request.expectedRun.installationID = store.installationID ∧
    request.expectedGlobal.installationID = store.installationID

variable {request : CommitRequest}

theorem Repeats.exactCommit {existing : MemoryCommit}
    (repeats : store.Repeats request existing) : store.exactCommit request = .ok (some existing) := by
  have byID : store.commitByID request = .ok (some existing) := by
    simp only [commitByID, repeats.found]
    rw [require_bind _ ⟨repeats.valid, repeats.action, repeats.requestPayload, repeats.outcomePayload⟩,
      require_bind _ repeats.outcome, require_bind _ repeats.installation]
    rfl
  unfold MemoryStore.exactCommit
  split
  · rename_i keyed held
    rw [require_bind _ ⟨by rw [repeats.found]; rfl, repeats.keyed keyed held⟩, byID]
  · exact byID

theorem exactCommit_ok {found : Option MemoryCommit}
    (h : store.exactCommit request = .ok found) : (∀ existing ∈ found, store.Repeats request existing) ∧
    (found = none → store.commits.get? request.action.id = none ∧
        store.commitKeys.get? request.action.idempotencyKey = none) := by
  have keyed : ∀ id, store.commitKeys.get? request.action.idempotencyKey = some id →
      (store.commits.get? request.action.id).isSome ∧ id = request.action.id := by
    intro id held
    simp only [exactCommit, held] at h
    exact (require_bind_ok h).1
  replace h : store.commitByID request = .ok found := by
    unfold exactCommit at h
    split at h
    · exact (require_bind_ok h).2
    · exact h
  unfold commitByID at h
  cases held : store.commits.get? request.action.id with
  | none =>
    simp only [held] at h
    cases pure_ok h
    refine ⟨fun _ found => (Option.not_mem_none _ found).elim, fun _ => ⟨rfl, ?_⟩⟩
    cases key : store.commitKeys.get? request.action.idempotencyKey with
    | none => rfl
    | some id =>
      have present := (keyed id key).1
      rw [held] at present
      cases present
  | some existing =>
    simp only [held] at h
    obtain ⟨⟨valid, action, requested, resulted⟩, h⟩ := require_bind_ok h
    obtain ⟨outcome, h⟩ := require_bind_ok h
    obtain ⟨installation, h⟩ := require_bind_ok h
    cases pure_ok h
    refine ⟨fun other same => ?_, fun absent => (Option.some_ne_none _ absent).elim⟩
    cases same
    exact ⟨fun id key => (keyed id key).2, held, valid, action, requested, resulted, outcome, installation⟩

theorem commit_ok {store after : MemoryStore} {receipt : CommitReceipt}
    (h : store.commit request = .ok (receipt, after)) : (after = store ∧ ∃ existing, store.Repeats request existing ∧
      receipt = { existing.receipt with created := false }) ∨
      (Accepted store request ∧ receipt = store.receiptOf request ∧ after = store.committed request) := by
  unfold commit at h
  obtain ⟨_, _, h⟩ := bind_ok h
  obtain ⟨encodable, h⟩ := require_bind_ok h
  obtain ⟨found, looked, h⟩ := bind_ok h
  have looked := exactCommit_ok looked
  cases found with
  | some existing =>
    have done := pure_ok h
    simp only [Prod.mk.injEq] at done
    exact .inl ⟨done.2.symm, existing, looked.1 existing rfl, done.1.symm⟩
  | none =>
    simp only at h
    obtain ⟨unused, h⟩ := require_bind_ok h
    obtain ⟨keyUnused, h⟩ := require_bind_ok h
    obtain ⟨_, valid, h⟩ := bind_ok h
    obtain ⟨heads, h⟩ := require_bind_ok h
    obtain ⟨_, h⟩ := require_bind_ok h
    obtain ⟨_, reservationValid, h⟩ := bind_ok h
    obtain ⟨_, outcomeValid, h⟩ := bind_ok h
    obtain ⟨distinct, h⟩ := require_bind_ok h
    obtain ⟨fresh, h⟩ := require_bind_ok h
    obtain ⟨_, transition, h⟩ := bind_ok h
    obtain ⟨payloads, h⟩ := require_bind_ok h
    have done := pure_ok h
    simp only [Prod.mk.injEq] at done
    exact .inr ⟨⟨encodable, (looked.2 rfl).1, (looked.2 rfl).2, unused, keyUnused, valid, ⟨heads.1, heads.2.1⟩,
      heads.2.2.1, heads.2.2.2, reservationValid, outcomeValid, distinct, fresh, transition,
      payloads⟩, done.1.symm, done.2.symm⟩

theorem validateCommitRequest_ok (valid : validateCommitRequest request = .ok ()) :
    validateAction request.action = .ok () ∧ request.outcome.controlRunID = request.action.controlRunID ∧
    request.outcome.actionID = request.action.id ∧
    (request.outcome.kind = .actionResult ∨ request.outcome.kind = .actionNotPerformed ∨
      request.outcome.kind = .actionAmbiguous) ∧
    validatePayload request.requestPayload request.action.canonicalRequestDigest = .ok () ∧
    validatePayload request.outcomePayload request.outcome.payloadDigest = .ok () := by
  unfold validateCommitRequest at valid
  obtain ⟨_, action, valid⟩ := bind_ok valid
  obtain ⟨_, valid⟩ := require_bind_ok valid
  obtain ⟨bound, valid⟩ := require_bind_ok valid
  obtain ⟨_, _, valid⟩ := bind_ok valid
  obtain ⟨kind, valid⟩ := require_bind_ok valid
  obtain ⟨_, requested, resulted⟩ := bind_ok valid
  exact ⟨action, bound.1, bound.2, kind, requested, resulted⟩

theorem validatePayload_ok
    (valid : validatePayload document wanted = .ok ()) : validDigest wanted ∧ digest document = wanted := by
  unfold validatePayload at valid
  obtain ⟨sized, valid⟩ := require_bind_ok valid
  exact ⟨sized.2.2, require_ok valid⟩

/-- What `Reservation` established of the action it returned. -/
structure Reserved (store : MemoryStore) (action : Action) : Prop where
  named : ¬ blank action.controlRunID ∧ ¬ blank action.id
  stored : store.actions.get? action.id = some action
  run : (store.actionRuns.get? action.id).getD "" = action.controlRunID
  key : store.idempotency.get? action.idempotencyKey = some action
  digests : ∀ event ∈ store.reservationsOf action.controlRunID action.id,
    event.kind = .actionReserved → event.payloadDigest = digest (.action action)
  once : (store.reservationsOf action.controlRunID action.id).length = 1

theorem Reserved.reservation (held : store.Reserved action) :
    store.reservation action.controlRunID action.id = .ok action := by
  unfold MemoryStore.reservation
  rw [require_bind _ held.named, held.stored]
  dsimp only
  rw [require_bind _ ⟨rfl, held.run, held.key⟩, require_bind _ held.digests, require_bind _ held.once]
  rfl

theorem reservation_ok {run id : String}
    (read : store.reservation run id = .ok action) (same : action.id = id) :
    action.controlRunID = run ∧ store.Reserved action := by
  subst same
  unfold MemoryStore.reservation at read
  obtain ⟨named, read⟩ := require_bind_ok read
  split at read
  · cases read
  · rename_i existing found
    obtain ⟨bound, read⟩ := require_bind_ok read
    obtain ⟨digests, read⟩ := require_bind_ok read
    obtain ⟨once, read⟩ := require_bind_ok read
    have kept := pure_ok read
    subst kept
    obtain ⟨rfl, run, key⟩ := bound
    exact ⟨rfl, named, found, run, key, digests, once⟩

def claimed (store : MemoryStore) (action : Action) : MemoryStore :=
  { store with
    actions := store.actions.put action.id action
    actionRuns := store.actionRuns.put action.id action.controlRunID
    idempotency := store.idempotency.put action.idempotencyKey action }

def begun (store : MemoryStore) (action : Action) : MemoryStore :=
  (store.claimed action).push (store.placed (reserved action) 1)

theorem begun_placed (store : MemoryStore) {event : Event}
    (bound : event.controlRunID = action.controlRunID) : (store.begun action).placed event 1 = { event with
      runSequence := (store.runOf action.controlRunID).length + 2
      journalPosition := store.events.length + 2 } := by
  have run : ((store.begun action).runOf event.controlRunID).length =
      (store.runOf action.controlRunID).length + 1 := by
    rw [begun, runOf_push, bound]
    simp [placed, reserved, claimed, runOf]
  have events : (store.begun action).events.length = store.events.length + 1 := by
    simp [begun, push, claimed]
  simp only [placed, run, events]

theorem committed_eq (bound : request.outcome.controlRunID = request.action.controlRunID) : store.committed request =
      { (store.begun request.action).push ((store.begun request.action).placed request.outcome 1) with
        commits := (store.committed request).commits
        commitKeys := (store.committed request).commitKeys
        payloads := (store.committed request).payloads } := by
  rw [begun_placed store bound]
  rfl

theorem Reserved.push {event : Event} (held : store.Reserved action)
    (other : event.actionID = action.id → ¬ (event.kind = .actionReserved ∨ event.kind = .migrationAction)) :
    (store.push event).Reserved action := by
  have reservations : (store.push event).reservationsOf action.controlRunID action.id =
      store.reservationsOf action.controlRunID action.id := by
    rw [reservationsOf_push, if_neg (fun new => other new.2.1 new.2.2), List.append_nil]
  exact { held with
    digests := reservations ▸ held.digests
    once := reservations ▸ held.once }

theorem Reserved.claimed {new : Action} (held : store.Reserved action)
    (unused : store.actions.get? new.id = none) (keyUnused : store.idempotency.get? new.idempotencyKey = none) :
    action.id ≠ new.id ∧ (store.claimed new).Reserved action := by
  have different : action.id ≠ new.id := by
    intro same
    cases (same ▸ held.stored).symm.trans unused
  have otherKey : action.idempotencyKey ≠ new.idempotencyKey := by
    intro same
    cases (same ▸ held.key).symm.trans keyUnused
  exact ⟨different, { held with
    stored := (Table.get?_put_other _ _ different).trans held.stored
    run := by
      show ((store.actionRuns.put _ _).get? _).getD "" = _
      rw [Table.get?_put_other _ _ different, held.run]
    key := (Table.get?_put_other _ _ otherKey).trans held.key }⟩

theorem reserved_begun (valid : validateAction action = .ok ())
    (runs : ∀ run, store.runOf run = store.events.filter (·.controlRunID = run))
    (unseen : ∀ event ∈ store.events, event.actionID ≠ action.id) : (store.begun action).Reserved action := by
  have names := validateAction_named valid
  have before : (store.claimed action).reservationsOf action.controlRunID action.id = [] := by
    refine List.filter_eq_nil_iff.mpr fun other member => ?_
    have inStore : other ∈ store.runOf action.controlRunID := member
    rw [runs] at inStore
    simp [unseen other (List.mem_filter.mp inStore).1]
  have own : (store.begun action).reservationsOf action.controlRunID action.id =
      [store.placed (reserved action) 1] := by
    rw [begun, reservationsOf_push, before, if_pos ⟨rfl, rfl, .inl rfl⟩]
    rfl
  exact {
    named := ⟨names.2, names.1⟩
    stored := Table.get?_put_self _ _ _
    run := by simp [begun, push, MemoryStore.claimed]
    key := Table.get?_put_self _ _ _
    digests := by
      intro event member _
      rw [own] at member
      cases List.mem_singleton.mp member
      rfl
    once := by rw [own]; rfl }

section Committed

variable {store : MemoryStore} {request : CommitRequest}

theorem committed_events : (store.committed request).events = store.events ++ (store.entryOf request).events := by
  simp [committed, push, entryOf, Entry.events]

theorem Accepted.payload_stays (accepted : store.Accepted request) (read : store.payload wanted = .ok document) :
    (store.committed request).payload wanted = .ok document := by
  obtain ⟨valid, found⟩ := payload_ok read
  refine payload_of_get? valid ?_
  simp only [committed, Table.get?_put]
  split
  · rename_i same
    subst same
    exact congrArg some (accepted.payloads.2 _ found).symm
  · rename_i other
    split
    · rename_i same
      subst same
      exact congrArg some (accepted.payloads.1 other _ found).symm
    · exact found

theorem Accepted.reserved_stays (accepted : store.Accepted request)
    (held : store.Reserved action) : (store.committed request).Reserved action := by
  obtain ⟨_, _, bound, _⟩ := validateCommitRequest_ok accepted.valid
  obtain ⟨different, kept⟩ := held.claimed accepted.unused accepted.keyUnused
  have pushed : (((store.claimed request.action).push (store.receiptOf request).reservation).push
      (store.receiptOf request).outcome).Reserved action :=
    (kept.push fun same => absurd same different.symm).push fun same => absurd (bound.symm.trans same) different.symm
  exact { pushed with }

end Committed

/-- `store` was written by the commits of `log` alone. -/
structure Holds (store : MemoryStore) (log : List Entry) : Prop where
  events : store.events = eventsOf log
  numbered : Numbered store.events
  runs : ∀ run, store.runOf run = store.events.filter (·.controlRunID = run)
  wellFormed : ∀ entry ∈ log, entry.WellFormed
  distinct : (log.map (·.action.id)).Nodup
  reserved : ∀ entry ∈ log, store.Reserved entry.action
  result : ∀ entry ∈ log, store.payload entry.outcome.payloadDigest = .ok entry.result
  request : ∀ entry ∈ log, store.payload entry.action.canonicalRequestDigest = .ok entry.requestRead
  commits : ∀ id commit, store.commits.get? id = some commit → ∃ entry ∈ log,
    commit = ⟨⟨entry.action, entry.reservation, entry.outcome, true⟩, entry.request, entry.result⟩

theorem holds_new (installationID : String) : Holds { installationID } [] where
  events := rfl
  numbered := .nil
  runs _ := rfl
  wellFormed _ m := nomatch m
  distinct := .nil
  reserved _ m := nomatch m
  result _ m := nomatch m
  request _ m := nomatch m
  commits _ _ found := nomatch found

theorem Reserved.evidence (held : store.Reserved entry.action) (formed : entry.WellFormed)
    (result : store.payload entry.outcome.payloadDigest = .ok entry.result)
    (request : store.payload entry.action.canonicalRequestDigest = .ok entry.requestRead) :
    store.evidence entry.outcome = entry.evidence := by
  simp only [MemoryStore.evidence, formed.run, formed.bound, held.reservation, ok_bind, result, request]
  rfl

theorem Holds.evidence (holds : store.Holds log)
    (member : entry ∈ log) : store.evidence entry.outcome = entry.evidence :=
  (holds.reserved entry member).evidence (holds.wellFormed entry member) (holds.result entry member)
    (holds.request entry member)

theorem Holds.length (holds : store.Holds log) : store.events.length = 2 * log.length := by
  rw [holds.events, length_eventsOf]

section Committed

variable {store : MemoryStore} {request : CommitRequest}

section

variable (accepted : store.Accepted request)
include accepted

theorem Accepted.wellFormed : (store.entryOf request).WellFormed := by
  obtain ⟨action, run, bound, kind, requested, resulted⟩ := validateCommitRequest_ok accepted.valid
  exact ⟨rfl, run, bound, kind, accepted.encodable, rfl, rfl, action, resulted, requested⟩

theorem Accepted.reserved_new (runs : ∀ run, store.runOf run = store.events.filter (·.controlRunID = run))
    (unseen : ∀ event ∈ store.events, event.actionID ≠ request.action.id) :
    (store.committed request).Reserved request.action := by
  obtain ⟨action, _, _, kind, _⟩ := validateCommitRequest_ok accepted.valid
  have pushed : ((store.begun request.action).push (store.receiptOf request).outcome).Reserved request.action := by
    refine (reserved_begun action runs unseen).push fun _ => ?_
    show ¬ (request.outcome.kind = .actionReserved ∨ request.outcome.kind = .migrationAction)
    rcases kind with k | k | k <;> simp [k]
  exact { pushed with }

theorem Accepted.counted (numbered : Numbered store.events)
    (runs : ∀ run, store.runOf run = store.events.filter (·.controlRunID = run)) :
    Numbered (store.committed request).events ∧ ∀ run, (store.committed request).runOf run =
      (store.committed request).events.filter (·.controlRunID = run) := by
  obtain ⟨_, bound, _⟩ := validateCommitRequest_ok accepted.valid
  have first : Numbered (store.begun request.action).events ∧ ∀ run, (store.begun request.action).runOf run =
      (store.begun request.action).events.filter (·.controlRunID = run) :=
    counted_push (reserved request.action) numbered runs
  have both := counted_push request.outcome first.1 first.2
  rw [committed_eq bound]
  exact both

theorem Accepted.result_stored :
    (store.committed request).payload request.outcome.payloadDigest = .ok request.outcomePayload := by
  obtain ⟨_, _, _, _, _, resulted⟩ := validateCommitRequest_ok accepted.valid
  exact payload_of_get? (validatePayload_ok resulted).1 (by simp [committed])

theorem Accepted.request_stored :
    (store.committed request).payload request.action.canonicalRequestDigest =
      .ok (store.entryOf request).requestRead := by
  obtain ⟨_, _, _, _, requested, _⟩ := validateCommitRequest_ok accepted.valid
  unfold Entry.requestRead
  show (store.committed request).payload _ = .ok (if request.action.canonicalRequestDigest =
    request.outcome.payloadDigest then request.outcomePayload else request.requestPayload)
  split
  · rename_i same
    rw [same]
    exact accepted.result_stored
  · rename_i other
    refine payload_of_get? (validatePayload_ok requested).1 ?_
    simp [committed, get?_put_other _ _ other]

end

theorem Holds.unseen (holds : store.Holds log) (accepted : store.Accepted request) :
    ∀ event ∈ store.events, event.actionID ≠ request.action.id := by
  intro event member same
  rw [holds.events, eventsOf, List.mem_flatMap] at member
  obtain ⟨entry, inLog, mine⟩ := member
  have stored := (holds.reserved entry inLog).stored
  rw [← (holds.wellFormed entry inLog).actionID event mine, same, accepted.unused] at stored
  cases stored

theorem Holds.committed (holds : store.Holds log) (accepted : store.Accepted request) :
    (store.committed request).Holds (log ++ [store.entryOf request]) := by
  have split : ∀ {P : Entry → Prop}, (∀ entry ∈ log, P entry) → P (store.entryOf request) →
      ∀ entry ∈ log ++ [store.entryOf request], P entry := by
    intro P old new entry member
    rcases List.mem_append.mp member with inLog | last
    · exact old entry inLog
    · rw [List.mem_singleton.mp last]
      exact new
  exact {
    events := by rw [committed_events, holds.events, eventsOf_append, eventsOf_singleton]
    numbered := (accepted.counted holds.numbered holds.runs).1
    runs := (accepted.counted holds.numbered holds.runs).2
    wellFormed := split holds.wellFormed accepted.wellFormed
    distinct := by
      rw [List.map_append, List.nodup_append]
      refine ⟨holds.distinct, List.nodup_singleton _, ?_⟩
      intro id old other new same
      obtain ⟨entry, inLog, rfl⟩ := List.mem_map.mp old
      have stored := (holds.reserved entry inLog).stored
      rw [same, List.mem_singleton.mp new] at stored
      cases accepted.unused.symm.trans stored
    reserved := split (fun entry m => accepted.reserved_stays (holds.reserved entry m))
      (accepted.reserved_new holds.runs (holds.unseen accepted))
    result := split (fun entry m => accepted.payload_stays (holds.result entry m))
      accepted.result_stored
    request := split (fun entry m => accepted.payload_stays (holds.request entry m))
      accepted.request_stored
    commits := fun id commit found => by
      simp only [MemoryStore.committed, Table.get?_put] at found
      split at found
      · cases found
        exact ⟨store.entryOf request, List.mem_append_right _ (List.mem_singleton_self _), rfl⟩
      · obtain ⟨entry, inLog, same⟩ := holds.commits id commit found
        exact ⟨entry, List.mem_append_left _ inLog, same⟩ }

end Committed

variable {σ ε : Type}

def replay (step : σ → Event → Evidence → Except ε σ) (store : MemoryStore) (s : σ) (event : Event) :
    Except ε σ := step s event (store.evidence event)

end MemoryStore

def Entry.replay {σ ε : Type} (step : σ → Event → Evidence → Except ε σ) (s : σ) (entry : Entry) : Except ε σ := do
  let s ← step s entry.reservation entry.evidence
  step s entry.outcome entry.evidence

theorem MemoryStore.Holds.replayEntries_eq {σ ε : Type}
    (holds : store.Holds log) {step : σ → Event → Evidence → Except ε σ}
    (ignores : ∀ s event one two, event.kind = .actionReserved →
      step s event one = step s event two) {entries : List Entry} (members : ∀ entry ∈ entries, entry ∈ log) (s : σ) :
    (eventsOf entries).foldlM (store.replay step) s = entries.foldlM (Entry.replay step) s := by
  induction entries generalizing s with
  | nil => rfl
  | cons entry rest ih =>
    have mine := members entry List.mem_cons_self
    have formed := holds.wellFormed entry mine
    have whole : eventsOf (entry :: rest) = entry.reservation :: entry.outcome :: eventsOf rest := rfl
    rw [whole, List.foldlM_cons, List.foldlM_cons, Entry.replay, bind_assoc, MemoryStore.replay,
      ignores s entry.reservation _ entry.evidence formed.reservedKind]
    congr 1
    funext t
    rw [List.foldlM_cons, MemoryStore.replay, holds.evidence mine]
    congr 1
    funext u
    exact ih (fun e m => members e (List.mem_cons_of_mem _ m)) u

theorem MemoryStore.Holds.replay_eq {σ ε : Type}
    (holds : store.Holds log) {step : σ → Event → Evidence → Except ε σ}
    (ignores : ∀ s event one two, event.kind = .actionReserved →
      step s event one = step s event two) (n : Nat) (s : σ) :
    (store.events.drop (2 * n)).foldlM (store.replay step) s = (log.drop n).foldlM (Entry.replay step) s := by
  rw [holds.events, eventsOf_drop]
  exact holds.replayEntries_eq ignores (fun _ m => List.mem_of_mem_drop m) s

end Paje.Journal
