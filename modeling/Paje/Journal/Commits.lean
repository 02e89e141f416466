import Paje.Journal.Writes

/-!
`Commit` happens once. Whatever is written between, a commit that returned answers every repetition
of its request and refuses every other request for its action or its key.
-/

namespace Paje.Journal

open Text Relation MemoryStore Changes

variable {request : CommitRequest} {existing : MemoryCommit} {after store : MemoryStore}

section Commits

def CommitRequest.expecting (request : CommitRequest) (runSequence journalPosition : Nat) : CommitRequest :=
  { request with
    expectedRun := { request.expectedRun with runSequence }
    expectedGlobal := { request.expectedGlobal with journalPosition } }

theorem MemoryStore.validateCommitRequest_expecting [sha : Sha] {one two : CommitRequest}
    (valid : validateCommitRequest one = .ok ()) (valid' : validateCommitRequest two = .ok ())
    (installation : one.expectedRun.installationID = two.expectedRun.installationID)
    (action : one.action = two.action) (requestPayload : one.requestPayload = two.requestPayload)
    (outcome : one.outcome = two.outcome) (outcomePayload : one.outcomePayload = two.outcomePayload) :
    two = one.expecting two.expectedRun.runSequence two.expectedGlobal.journalPosition := by
  unfold validateCommitRequest at valid valid'
  obtain ⟨_, _, valid⟩ := bind_ok valid
  obtain ⟨⟨_, _, _, same, run, runSchema, globalSchema⟩, _⟩ := require_bind_ok valid
  obtain ⟨_, _, valid'⟩ := bind_ok valid'
  obtain ⟨⟨_, _, _, same', run', runSchema', globalSchema'⟩, _⟩ := require_bind_ok valid'
  obtain ⟨_, ⟨_, _, _, _⟩, ⟨_, _, _⟩, _, _, _⟩ := one
  obtain ⟨_, ⟨_, _, _, _⟩, ⟨_, _, _⟩, _, _, _⟩ := two
  simp only at *
  subst action requestPayload outcome outcomePayload
  simp only [CommitRequest.expecting, run, run', runSchema, runSchema', globalSchema, globalSchema',
    ← same, ← same', installation]

theorem MemoryStore.validateEvent_unplaced {event : Event} (valid : validateEvent event false = .ok ()) :
    { event with runSequence := 0, journalPosition := 0 } = event := by
  unfold validateEvent at valid
  obtain ⟨_, valid⟩ := require_bind_ok valid
  obtain ⟨_, valid⟩ := require_bind_ok valid
  obtain ⟨positions, _⟩ := require_bind_ok valid
  cases event
  simp only at positions
  simp only [positions.1, positions.2]

variable [sha : Sha]

namespace MemoryStore

theorem Repeats.commit {store : MemoryStore} {request : CommitRequest} {existing : MemoryCommit}
    (repeats : store.Repeats request existing) (encodable : request.outcome.occurredAt.Encodable) :
    store.commit request = .ok ({ existing.receipt with created := false }, store) := by
  unfold MemoryStore.commit
  rw [(validateCommitRequest_ok repeats.valid).1, ok_bind, require_bind _ encodable, repeats.exactCommit]
  rfl

theorem Repeats.expecting (repeats : store.Repeats request existing) (runSequence journalPosition : Nat) :
    store.Repeats (request.expecting runSequence journalPosition) existing :=
  ⟨repeats.keyed, repeats.found, repeats.valid, repeats.action, repeats.requestPayload,
    repeats.outcomePayload, repeats.outcome, repeats.installation⟩

theorem validateCommitRequest_unplaced
    (valid : validateCommitRequest request = .ok ()) :
    { request.outcome with runSequence := 0, journalPosition := 0 } = request.outcome := by
  unfold validateCommitRequest at valid
  obtain ⟨_, _, valid⟩ := bind_ok valid
  obtain ⟨_, valid⟩ := require_bind_ok valid
  obtain ⟨_, valid⟩ := require_bind_ok valid
  obtain ⟨_, event, _⟩ := bind_ok valid
  exact validateEvent_unplaced event

theorem Accepted.repeats
    (accepted : store.Accepted request) : (store.committed request).Repeats request
      ⟨store.receiptOf request, request.requestPayload, request.outcomePayload⟩ where
  keyed id found := by
    have own : (store.committed request).commitKeys.get? request.action.idempotencyKey =
      some request.action.id := Table.get?_put_self _ _ _
    exact (Option.some.inj (own.symm.trans found)).symm
  found := Table.get?_put_self _ _ _
  valid := accepted.valid
  action := rfl
  requestPayload := rfl
  outcomePayload := rfl
  outcome := validateCommitRequest_unplaced accepted.valid
  installation := accepted.installation

variable {allowed : Event → Prop}

theorem Change.installation (change : store.Change allowed after) : after.installationID = store.installationID := by
  cases change <;> rfl

theorem Repeats.changes (settled : store.Settled) (repeats : store.Repeats request existing)
    (changes : ReflTransGen (Change allowed) store after) : after.Repeats request existing := by
  induction changes with
  | refl => exact repeats
  | tail before change ih =>
    have key := (Changes.settled settled before).keyed _ _ ih.found
    rw [ih.action] at key
    have kept := change.commits_stay
    exact {
      keyed := fun id found => (Option.some.inj ((kept.2 _ _ key).symm.trans found)).symm
      found := kept.1 _ _ ih.found
      valid := ih.valid
      action := ih.action
      requestPayload := ih.requestPayload
      outcomePayload := ih.outcomePayload
      outcome := ih.outcome
      installation := by rw [change.installation]; exact ih.installation }

theorem commit_settles {receipt : CommitReceipt} (settled : store.Settled) (indexed : store.Indexed)
    (committed : store.commit request = .ok (receipt, after)) :
    after.Settled ∧ after.Indexed ∧ request.outcome.occurredAt.Encodable ∧ ∃ existing, after.Repeats request existing ∧
      { receipt with created := false } = { existing.receipt with created := false } := by
  have encodable : request.outcome.occurredAt.Encodable := by
    unfold commit at committed
    obtain ⟨_, _, committed⟩ := bind_ok committed
    exact (require_bind_ok committed).1
  rcases commit_ok committed with ⟨rfl, existing, repeats, rfl⟩ | ⟨accepted, rfl, rfl⟩
  · exact ⟨settled, indexed, encodable, existing, repeats, rfl⟩
  · have change : store.Change (fun _ => True) (store.committed request) := .commit accepted
    exact ⟨change.settled settled, change.indexed indexed, encodable, _, accepted.repeats, rfl⟩

theorem Repeats.same {other : CommitRequest} {answer : CommitReceipt} (settled : store.Settled)
    (repeats : store.Repeats request existing) (committed : store.commit other = .ok (answer, after))
    (shared : other.action.id = request.action.id ∨ other.action.idempotencyKey = request.action.idempotencyKey) :
    other = request.expecting other.expectedRun.runSequence other.expectedGlobal.journalPosition := by
  have key := settled.keyed _ _ repeats.found
  rw [repeats.action] at key
  rcases commit_ok committed with ⟨_, existing', repeats', _⟩ | ⟨accepted, _, _⟩
  · have same : other.action.id = request.action.id := by
      rcases shared with sameID | sameKey
      · exact sameID
      · exact (repeats'.keyed _ (sameKey ▸ key)).symm
    have found := repeats'.found
    rw [same] at found
    cases repeats.found.symm.trans found
    exact validateCommitRequest_expecting repeats.valid repeats'.valid
      (repeats.installation.1.trans repeats'.installation.1.symm)
      (repeats.action.symm.trans repeats'.action) (repeats.requestPayload.symm.trans repeats'.requestPayload)
      (repeats.outcome.symm.trans repeats'.outcome) (repeats.outcomePayload.symm.trans repeats'.outcomePayload)
  · rcases shared with sameID | sameKey
    · cases (sameID ▸ repeats.found).symm.trans accepted.commitUnused
    · cases (sameKey ▸ key).symm.trans accepted.commitKeyUnused

theorem committed_runOf_ite (bound : request.outcome.controlRunID = request.action.controlRunID) (run : String) :
    (store.committed request).runOf run = store.runOf run ++ if run = request.action.controlRunID
      then [(store.receiptOf request).reservation, (store.receiptOf request).outcome] else [] := by
  have pushed : (store.committed request).runOf run = ((store.push (store.receiptOf request).reservation).push
        (store.receiptOf request).outcome).runOf run := rfl
  have first : (store.receiptOf request).reservation.controlRunID = request.action.controlRunID := rfl
  have second : (store.receiptOf request).outcome.controlRunID = request.action.controlRunID := bound
  rw [pushed, runOf_push, runOf_push, first, second]
  split <;> simp

theorem commit_once {installationID : String} {start after : MemoryStore} {writes : List Write}
    {request : CommitRequest} {receipt : CommitReceipt} (new : newMemoryStore installationID = .ok start)
    (committed : (start.run writes).commit request = .ok (receipt, after)) : (∀ later runSequence journalPosition,
      (after.run later).commit (request.expecting runSequence journalPosition) =
        .ok ({ receipt with created := false }, after.run later)) ∧
    (∀ later other answer, (after.run later).commit other = .ok answer → other.action.id = request.action.id ∨
        other.action.idempotencyKey = request.action.idempotencyKey →
      other = request.expecting other.expectedRun.runSequence other.expectedGlobal.journalPosition) ∧
    (receipt.created = true → after.events = (start.run writes).events ++ [receipt.reservation, receipt.outcome] ∧
      ∀ run, after.runOf run = (start.run writes).runOf run ++
        if run = request.action.controlRunID then [receipt.reservation, receipt.outcome] else []) ∧
    (receipt.created = false → after = start.run writes) := by
  obtain ⟨rfl, _⟩ := newMemoryStore_ok new
  have before := run_changes (indexed_new installationID) (addsOnly_any _ writes)
  have settled := settled (settled_new installationID) before
  have indexed := indexed (indexed_new installationID) before
  obtain ⟨settled', indexed', encodable, existing, repeats, same⟩ := commit_settles settled indexed committed
  have still : ∀ later, (after.run later).Repeats request existing ∧ (after.run later).Settled := by
    intro later
    have changes := run_changes indexed' (addsOnly_any _ later)
    exact ⟨repeats.changes settled' changes, Changes.settled settled' changes⟩
  refine ⟨fun later runSequence journalPosition => ?_, fun later other answer answered shared => ?_, ?_, ?_⟩
  · rw [((still later).1.expecting runSequence journalPosition).commit encodable, same]
  · exact (still later).1.same (still later).2 answered shared
  · intro created
    rcases commit_ok committed with ⟨_, _, _, rfl⟩ | ⟨accepted, rfl, rfl⟩
    · cases created
    · obtain ⟨_, bound, _⟩ := validateCommitRequest_ok accepted.valid
      exact ⟨committed_events, committed_runOf_ite bound⟩
  · intro unchanged
    rcases commit_ok committed with ⟨rfl, _⟩ | ⟨_, rfl, _⟩
    · rfl
    · cases unchanged

end MemoryStore

end Commits

attribute [local instance] Sha.sample

/-- The commit of `two` in between other calls. -/
theorem commit_once_sample : ∃ receipt after,
    (sample.run [.reserve (.sample "one")]).commit (.sample "two" 1) = .ok (receipt, after) ∧
    receipt.created = true ∧
    after.events = (sample.run [.reserve (.sample "one")]).events ++
      [receipt.reservation, receipt.outcome] ∧
    (after.run [.append "run" 3 (.sample "one" .actionResult)]).commit (.sample "two" 1) =
      .ok ({ receipt with created := false }, after.run [.append "run" 3 (.sample "one" .actionResult)]) := by
  obtain ⟨⟨receipt, after⟩, committed, created⟩ : ∃ answer,
      (sample.run [.reserve (.sample "one")]).commit (.sample "two" 1) = .ok answer ∧
      answer.1.created = true := by decide +kernel
  have once := commit_once (by decide : newMemoryStore "installation" = .ok .sample) committed
  exact ⟨receipt, after, committed, created, (once.2.2.1 created).1, once.1 _ 1 1⟩

/-- Two requests that expect different heads both succeed. -/
theorem stale_heads_succeed : ∃ first second,
    (sample.commit (.sample "one" 0)) = .ok first ∧ first.1.created = true ∧
    first.2.commit (.sample "one" 7) = .ok second ∧ second.1.created = false ∧
    CommitRequest.sample "one" 0 ≠ CommitRequest.sample "one" 7 := by
  simp only [exists_and_left]
  decide +kernel

end Paje.Journal
