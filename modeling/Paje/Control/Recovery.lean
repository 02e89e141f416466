import Paje.Control.Results

/-!
`Recover` settles every open action of a run: by the result that the provider reconciles, or by
recording an ambiguity, which blocks the attempt and its task and is refused where the attempt had
ended and something took its place.
-/

namespace Paje.Control

open Text Journal List Table Store MemoryStore

variable {snapshot : Snapshot} {store : Store}

section recovery

theorem Snapshot.same.action {one two : Snapshot} (same : one.same two) (id : String) :
    two.actions.get? id = one.actions.get? id := by
  have perm := same.2.2.2.2.2.2.2.2.2.2.1
  refine Option.ext fun action => ?_
  rw [← mem_entries, ← mem_entries]
  exact perm.mem_iff.symm

variable {attempt before after : PlacementAttempt} {action settled : LifecycleAction}

theorem blockAttempt_patch
    (held : snapshot.actions.get? action.id = some action)
    (isOpen : action.completed = false ∧ action.ambiguous = false)
    (attemptHeld : snapshot.attempts.get? attempt.id = some attempt) (mine : action.attemptID = attempt.id)
    (time : Time) : Patch snapshot ((blockAttempt snapshot action attempt).saved snapshot.version time) attempt
      { attempt with state := .blocked, blockCode := ambiguityCode action attempt } action
      { action with ambiguous := true, ambiguityCode := ambiguityCode action attempt } where
  version := ⟨rfl, rfl⟩
  run := ⟨rfl, rfl, rfl, rfl, rfl, rfl⟩
  graph := shape_setTaskState _ _ _
  held := attemptHeld
  kin := ⟨rfl, rfl, rfl, rfl, rfl, rfl, rfl, rfl, rfl⟩
  attempts := rfl
  pendingHeld := held
  isOpen
  mine
  identity := ⟨rfl, rfl, rfl, rfl, rfl⟩
  actions := rfl
  stays := ⟨rfl, rfl, rfl, rfl⟩

theorem foldl_unmoved {α β : Type} {f : β → α → β} {start : β} {values : List α}
    (stays : ∀ value ∈ values, f start value = start) : values.foldl f start = start := by
  induction values with
  | nil => rfl
  | cons value values ih =>
    rw [foldl_cons, stays value mem_cons_self]
    exact ih fun other member => stays other (mem_cons_of_mem _ member)

theorem firstOutcome_follows {prior : List Journal.Event} {event : Journal.Event}
    (quiet : ∀ other ∈ prior, other.actionID = event.actionID → other.kind.isOutcome = false)
    (kind : event.kind = .actionResult ∨ event.kind = .actionAmbiguous) :
    validateOutcomeTransition prior event = .ok () := by
  have none : prior.foldlM (fun (state : Option Journal.EventKind) other =>
      if other.actionID = event.actionID ∧ other.kind.isOutcome then
        if outcomeFollows state other.kind then (.ok (some other.kind) : Except Journal.Error _)
        else .error .invalidRecord
      else .ok state) none = .ok none := by
    induction prior with
    | nil => rfl
    | cons other prior ih =>
      rw [foldlM_cons, if_neg fun h => by simp [quiet other mem_cons_self h.1] at h]
      exact ih fun more member => quiet more (mem_cons_of_mem _ member)
  have reports : event.kind.isOutcome = true := by
    rcases kind with kind | kind <;> rw [kind] <;> rfl
  unfold validateOutcomeTransition
  rw [if_pos reports, none, ok_bind]
  rcases kind with kind | kind <;> rw [kind] <;> rfl

section

variable {next : Snapshot} (patch : Patch snapshot next before after action settled)
include patch

theorem Patch.outcomeBinding (settles : settled.completed = true ∨ settled.ambiguous = true) :
    ∃ kind, (kind = .actionResult ∨ kind = .actionAmbiguous) ∧
      Control.outcomeBinding snapshot next = (kind, action.id) := by
  have entries : next.actions.entries = ⟨action.id, settled⟩ :: (snapshot.actions.drop action.id).entries := by
    rw [patch.actions]
    rfl
  have others : ∀ entry ∈ (snapshot.actions.drop action.id).entries, snapshot.actions.get? entry.1 = some entry.2 := by
    intro entry member
    have found := mem_entries.mp member
    rw [get?_drop] at found
    split at found
    · cases found
    · exact found
  unfold Control.outcomeBinding
  rw [entries, foldl_cons, foldl_unmoved fun entry member => by simp [others entry member]]
  simp only [patch.pendingHeld, patch.isOpen, Bool.not_false, Bool.true_and]
  by_cases completed : settled.completed = true
  · exact ⟨.actionResult, .inl rfl, if_pos completed⟩
  · have marked := settles.resolve_left completed
    exact ⟨.actionAmbiguous, .inr rfl, by rw [if_neg completed, if_pos marked]⟩

theorem Patch.validateOutcomeReservation (reservation : Action) :
    Control.validateOutcomeReservation next snapshot.version action.id reservation =
      Control.validateOutcomeReservation snapshot snapshot.version action.id reservation := by
  obtain ⟨id, attemptID, kind, requestDigest, _⟩ := patch.identity
  have attemptNext : next.attempts.get? action.attemptID = some after := by
    rw [patch.mine]
    exact patch.attempt_put
  have attemptHeld : snapshot.attempts.get? action.attemptID = some before := by
    rw [patch.mine]
    exact patch.held
  unfold Control.validateOutcomeReservation
  simp only [patch.run.2.1, patch.action_put, patch.pendingHeld, Option.mem_def, Option.some.injEq,
    exists_eq_left', attemptNext, attemptHeld, (shape_header patch.graph).2.2, patch.kin.taskID, ← id, ← attemptID,
    ← kind, ← requestDigest]

end

theorem Patch.differs {built : Snapshot} {time : Time}
    (patch : Patch snapshot (built.saved snapshot.version time) before after action settled)
    (settles : settled.completed = true ∨ settled.ambiguous = true) : ¬ snapshot.same built := by
  intro same
  have kept : some settled = some action := patch.action_put.symm.trans ((same.action _).trans patch.pendingHeld)
  cases kept
  simp [patch.isOpen] at settles

variable [sha : Sha]

/-- `MarkAmbiguous`; the error it returns says what is recorded. -/
def Store.markAmbiguousCall (store : Store) (controlRunID actionID : String) (now : Nat → Time) :
    Except Error (Store × Option Error) := do
  let after ← store.change controlRunID (.markAmbiguous actionID) now
  let saved ← after.load controlRunID
  return (after, (saved.actions.get? actionID).map fun action => ambiguityError action.ambiguityCode)

/-- `Recover`, with the result that the provider reconciles for an open action, the order in which
the loop sees the actions and the clock of each round; without rounds left there is no answer. -/
def Store.recover (reconcileAction : Snapshot → LifecycleAction → Option ActionResult)
    (order : Table LifecycleAction → List LifecycleAction) (controlRunID : String)
    (now : Nat → Nat → Time) : Nat → Store → Option (Except Error (Store × Option Error))
  | 0, _ => none
  | rounds + 1, store =>
    match store.load controlRunID >>= fun snapshot => validateSnapshot snapshot >>= fun _ => .ok snapshot with
    | .error error => some (.error error)
    | .ok snapshot =>
      match (order snapshot.actions).find? (fun action => action.ambiguous || !action.completed) with
      | none => some (.ok (store, none))
      | some action =>
        if action.ambiguous then some (.ok (store, some (ambiguityError action.ambiguityCode)))
        else match reconcileAction snapshot action with
          | none => some (store.markAmbiguousCall controlRunID action.id (now rounds))
          | some result =>
            match store.change controlRunID (.completeAction action.id result) (now rounds) with
            | .error error => some (.error error)
            | .ok after => recover reconcileAction order controlRunID now rounds after

/-- When blocking the attempt leaves the snapshot valid. -/
structure Markable (snapshot : Snapshot) (attempt : PlacementAttempt) : Prop where
  opened : snapshot.run.status ≠ .closed
  -- the largest revision has no successor
  room : snapshot.graph.revision ≤ snapshot.graph.revision + 1
  alone : ∀ key other, snapshot.attempts.get? key = some other → key ≠ attempt.id →
    attemptTerminal other.state = false → other.taskID ≠ attempt.taskID
  unpromoted : ∀ key other, snapshot.attempts.get? key = some other → other.promotedFromAttemptID ≠ attempt.id
  unopposed : Unopposed snapshot.graph attempt.taskID

theorem blockAttempt_saves (sound : snapshot.Sound) {action : LifecycleAction}
    (held : snapshot.actions.get? action.id = some action)
    (isOpen : action.completed = false ∧ action.ambiguous = false)
    (attemptHeld : snapshot.attempts.get? attempt.id = some attempt) (mine : action.attemptID = attempt.id)
    (time : Time) :
    validateSave snapshot ((blockAttempt snapshot action attempt).saved snapshot.version time) = .ok () ↔
      Markable snapshot attempt := by
  have patch := blockAttempt_patch held isOpen attemptHeld mine time
  have code := ambiguityCode_ne action attempt
  rw [validateSave_ok]
  constructor
  · rintro ⟨_, nextSound, succeeds⟩
    refine ⟨?_, patch.room succeeds, ?_, ?_, ?_⟩
    · intro closed
      have status := congrArg ControlRun.status (succeeds.closed closed).2.2.1
      rw [closed] at status
      cases status
    · have live := nextSound.live
      rw [patch.attempts] at live
      have alone := (liveTasks_put sound.live attemptHeld _).mp live rfl
      exact alone
    · -- the source of a promoted attempt has ended
      intro key other found promoted
      obtain ⟨now, nowHeld, kin⟩ := patch.kept found
      have source := (Prod.mk.inj kin.promotion).1.trans promoted
      have named := (require_ok (sound.attempt _ _ attemptHeld)).1
      obtain ⟨_, _, _, valid⟩ := validateAttemptReferences_iff.mp (nextSound.references key now nowHeld)
      have ended := valid (.inl (source ▸ named))
      unfold validPromotedAttempt at ended
      rw [source, patch.attempts, get?_put_self] at ended
      simp [attemptTerminal] at ended
    · exact (setTaskState_ownership sound.graph rfl).mp
        ((validateGraph_shape patch.graph sound.graph).mp nextSound.graph)
  · intro markable
    refine ⟨sound, patch.sound sound ?_, patch.succeeds sound markable.room markable.opened ?_ fun _ => rfl⟩
    · exact {
        owned := (setTaskState_ownership sound.graph rfl).mpr markable.unopposed
        blocked := iff_of_true rfl code
        alone := fun _ => markable.alone
        sessions := fun id session found =>
          ⟨patch.session (sound.session id session found), sound.disposition id session found⟩
        unpromoted := markable.unpromoted
        closes := fun kind => by
          obtain ⟨_, _, closes, _⟩ := validateAttemptReferences_iff.mp (sound.references _ _ attemptHeld)
          exact ⟨(closes kind).1, fun primitive => patch.completedWith ((closes kind).2 primitive)⟩
        events := sound.events
        outcome := ⟨fun completed => absurd completed (by simp [isOpen.1]), by simp [isOpen.1], iff_of_true rfl code⟩
        results := fun id other found completed same => by
          obtain ⟨_, _, _, _, _, holder, holderHeld, _, valid⟩ := require_ok (sound.action id other found)
          rw [same, attemptHeld] at holderHeld
          cases holderHeld
          exact valid completed }
    · exact take_length

theorem markAmbiguous_saves (sound : snapshot.Sound) {actionID : String}
    {action : LifecycleAction} (held : snapshot.actions.get? actionID = some action)
    (isOpen : action.completed = false ∧ action.ambiguous = false) :
    ∃ attempt, snapshot.attempts.get? action.attemptID = some attempt ∧
      markAmbiguous snapshot actionID = .ok (blockAttempt snapshot action attempt) ∧ ∀ time, validateSave snapshot
          ((blockAttempt snapshot action attempt).saved snapshot.version time) = .ok () ↔
        Markable snapshot attempt := by
  obtain ⟨_, _, _, _, _, attempt, attemptHeld, _⟩ := require_ok (sound.action actionID action held)
  have mine := sound.attempt_id attemptHeld
  have same := sound.action_id held
  refine ⟨attempt, attemptHeld, ?_, fun time => ?_⟩
  · unfold markAmbiguous
    rw [held]
    dsimp only
    rw [require_bind _ (by simp [isOpen.1]), attemptHeld]
    rfl
  · rw [← mine] at attemptHeld
    exact blockAttempt_saves sound (same.symm ▸ held) isOpen attemptHeld mine.symm time

/-! ### Saving an outcome -/

def Snapshot.nextEventID (snapshot : Snapshot) : String :=
  "snapshot_" ++ snapshot.run.id ++ "_" ++ padded (snapshot.version + 1)

/-- The journal takes an outcome of the action: it holds the reservation that the action was
prepared with, no outcome of it yet and no event under the identifier of the next version. -/
structure Store.Awaits (store : Store) (snapshot : Snapshot) (action : LifecycleAction) : Prop where
  reserved : ∃ reservation, store.journal.reservation snapshot.run.id action.id = .ok reservation ∧
    validateOutcomeReservation snapshot snapshot.version action.id reservation = .ok ()
  unreported : ∀ event ∈ store.journal.events, event.actionID = action.id → event.kind.isOutcome = false
  fresh : store.journal.eventByID.get? snapshot.nextEventID = none
  bounded : snapshot.nextEventID.utf8ByteSize ≤ 128

def DocumentDigests (sha : Sha) : Prop := ∀ document, validDigest ("sha256:" ++ sha.documentHex document) = true

theorem projectionEvent_valid (digests : DocumentDigests sha) {next : Snapshot} {kind : Journal.EventKind}
    {actionID : String} (named : ¬ blank next.run.id ∧ ¬ blank actionID)
    (bounded : (projectionEvent next kind actionID).id.utf8ByteSize ≤ 128 ∧ actionID.utf8ByteSize ≤ 128) :
    validateEvent (projectionEvent next kind actionID) false = .ok () := by
  have labelled : ¬ blank (projectionEvent next kind actionID).id := by
    have bytes : (bytes "snapshot_").all asciiSpace = false ∧ "snapshot_".toList.all isSpace = false := by decide
    unfold projectionEvent blank
    simp only [bytes_append, String.toList_append, all_append, bytes, Bool.false_and, ite_self, Bool.false_eq_true,
      not_false_eq_true]
  have short : next.run.id.utf8ByteSize ≤ 128 := by
    have long := bounded.1
    simp only [projectionEvent, String.utf8ByteSize_append] at long
    omega
  have timed : ¬ (projectionEvent next kind actionID).occurredAt.IsZero := by
    unfold projectionEvent
    dsimp only
    split
    · decide
    · assumption
  unfold validateEvent
  rw [require_bind _ ⟨labelled, named.1, digests _, timed⟩,
    require_bind _ ⟨bounded.1, short, bounded.2, Nat.zero_le _⟩, if_neg Bool.false_ne_true, require_bind _ ⟨rfl, rfl⟩]
  exact (require_bind _ fun _ => named.2).trans (require_pos fun _ => named.2)

theorem Store.save_accepts {next : Snapshot} {kind : Journal.EventKind} {actionID : String} {stored : Store}
    (found : store.records.get? next.run.id = some snapshot) (version : next.version = snapshot.version + 1)
    (valid : validateSave snapshot next = .ok ()) (binding : Control.outcomeBinding snapshot next = (kind, actionID))
    (checked : store.checkOutcome next snapshot.version actionID = .ok ())
    (puts : store.put next kind actionID = .ok stored) : store.save next snapshot.version = .ok (next, stored) := by
  have same : { next with version := snapshot.version + 1 } = next := by rw [← version]
  unfold Store.save
  rw [found]
  dsimp only
  rw [require_bind _ rfl, same, valid, ok_bind, binding]
  dsimp only
  rw [checked, ok_bind, puts]
  rfl

section outcome

variable {next : Snapshot} (patch : Patch snapshot next before after action settled)
include patch

theorem Store.Awaits.save (digests : DocumentDigests sha)
    (found : store.records.get? snapshot.run.id = some snapshot) (awaits : store.Awaits snapshot action)
    (settles : settled.completed = true ∨ settled.ambiguous = true) (valid : validateSave snapshot next = .ok ()) :
    ∃ stored, store.save next snapshot.version = .ok (next, stored) := by
  obtain ⟨kind, outcome, binding⟩ := patch.outcomeBinding settles
  have run := patch.run.2.1
  obtain ⟨reservation, reads, bound⟩ := awaits.reserved
  obtain ⟨_, reserved, fields⟩ := bind_ok bound
  obtain ⟨lifecycle, held, _, _, _, fields, _⟩ := require_ok fields
  cases patch.pendingHeld.symm.trans held
  have named : reservation.id = action.id := by rw [fields]
  obtain ⟨scope, filed⟩ := reservation_ok reads named
  have wide : action.id.utf8ByteSize ≤ 128 := by
    unfold validateAction at reserved
    obtain ⟨_, reserved⟩ := require_bind_ok (relabel_ok reserved)
    obtain ⟨sizes, _⟩ := require_bind_ok reserved
    exact named ▸ sizes.1
  have eventID : (projectionEvent next kind action.id).id = snapshot.nextEventID := by
    unfold projectionEvent Snapshot.nextEventID
    rw [run, patch.version.2]
  have event : validateEvent (projectionEvent next kind action.id) false = .ok () :=
    projectionEvent_valid digests ⟨run ▸ scope ▸ filed.named.1, named ▸ filed.named.2⟩
      ⟨eventID ▸ awaits.bounded, wide⟩
  obtain ⟨stored, puts⟩ : ∃ stored, store.put next kind action.id = .ok stored := by
    have mine : (store.journal.actionRuns.get? action.id).getD "" = next.run.id := by
      rw [← named, filed.run, scope, run]
    have appended := append_accepts rfl (eventID ▸ awaits.fresh) event fun _ =>
      ⟨reservation, named ▸ filed.stored, ⟨scope.trans run.symm, mine⟩, firstOutcome_follows awaits.unreported outcome⟩
    unfold Store.put
    exact ⟨_, congrArg (fun x => relabel Error.journal x >>= _) appended⟩
  refine ⟨stored, save_accepts (run ▸ found) patch.version.2 valid binding ?_ puts⟩
  unfold Store.checkOutcome
  rw [if_neg (named ▸ named_nonempty filed.named.2), run, reads]
  exact (patch.validateOutcomeReservation reservation).trans bound

end outcome

section change

variable {id : String} {now : Nat → Time} {made : Change} {built : Snapshot}
  (found : store.records.get? id = some snapshot) (runID : snapshot.run.id = id)
  (applied : made.apply id now snapshot = .ok built)
  (patch : Patch snapshot (built.saved snapshot.version (now 3)) before after action settled)
  (settles : settled.completed = true ∨ settled.ambiguous = true)
include settles patch found runID applied

theorem Store.Awaits.change (digests : DocumentDigests sha) (awaits : store.Awaits snapshot action)
    (valid : validateSave snapshot (built.saved snapshot.version (now 3)) = .ok ()) :
    ∃ stored, store.change id made now = .ok stored := by
  subst runID
  obtain ⟨stored, saves⟩ := awaits.save patch digests found settles valid
  refine ⟨stored, ?_⟩
  unfold Store.change Store.mutate Store.load
  rw [found, ok_bind]
  dsimp only
  rw [applied]
  show Prod.snd <$> (if snapshot.same built then _ else store.save (built.saved snapshot.version (now 3)) _ >>= _) = _
  rw [if_neg (patch.differs settles), saves]
  rfl

theorem Store.change_saved {stored : Store} (changes : store.change id made now = .ok stored) :
    stored.records.get? id = some (built.saved snapshot.version (now 3)) := by
  obtain ⟨current, next, again, applied', ⟨same, _⟩ | ⟨_, other, otherFound, _, records, _⟩⟩ := change_ok changes <;>
    cases found.symm.trans again <;> cases applied.symm.trans applied'
  · exact absurd same (patch.differs settles)
  · have target : built.run.id = id := patch.run.2.1.trans runID
    rw [target] at otherFound records
    cases found.symm.trans otherFound
    rw [records, get?_put_self]

end change

/-- When `CompleteAction` can save the result. -/
structure Settles (controlRunID : String) (snapshot : Snapshot) (action : LifecycleAction)
    (attempt : PlacementAttempt) (result : ActionResult) (now : Nat → Time) : Prop where
  opened : snapshot.run.status ≠ .closed
  unblocked : attempt.state ≠ .blocked
  lives : attemptTerminal attempt.state = false
  accepted : ∃ answer, completeAction snapshot controlRunID action.id result now = .ok answer
  storable : Storable snapshot action attempt result

section rounds

variable (reconcileAction : Snapshot → LifecycleAction → Option ActionResult) (controlRunID : String)

/-- The results of the provider that `Recover` has recorded lead from one store to the other. -/
inductive Passes : Store → Store → Prop where
  | refl (store : Store) : Passes store store
  | head {store after last : Store} (snapshot : Snapshot) (action : LifecycleAction) (result : ActionResult)
      (now : Nat → Time) (found : store.records.get? controlRunID = some snapshot)
      (reconciled : reconcileAction snapshot action = some result)
      (completed : store.change controlRunID (.completeAction action.id result) now = .ok after)
      (rest : Passes after last) : Passes store last

/-- An open action that can neither be marked ambiguous nor be completed with the provider's result. -/
structure Stuck (store : Store) (snapshot : Snapshot) (action : LifecycleAction) (attempt : PlacementAttempt)
    (now : Nat → Time) : Prop where
  found : store.records.get? controlRunID = some snapshot
  held : snapshot.actions.get? action.id = some action
  isOpen : action.completed = false ∧ action.ambiguous = false
  attemptHeld : snapshot.attempts.get? action.attemptID = some attempt
  refused : store.Awaits snapshot action → match reconcileAction snapshot action with
    | none => ¬ Markable snapshot attempt
    | some result => ¬ Settles controlRunID snapshot action attempt result now

def Recovered (store : Store) : Except Error (Store × Option Error) → Prop
  | .ok (last, none) => ∃ snapshot, last.records.get? controlRunID = some snapshot ∧
    ∀ action ∈ snapshot.actions.values, action.completed = true
  | .ok (last, some _) => ∃ snapshot, last.records.get? controlRunID = some snapshot ∧
    ∃ action ∈ snapshot.actions.values, action.ambiguous = true
  | .error _ => ∃ last snapshot action attempt now, Passes reconcileAction controlRunID store last ∧
    Stuck reconcileAction controlRunID last snapshot action attempt now

variable {reconcileAction controlRunID}

section

variable (digests : DocumentDigests sha) {journal : MemoryStore} (steps : Steps (fun _ _ => True) { journal } store)
  (found : store.records.get? controlRunID = some snapshot) {action : LifecycleAction}
  (held : snapshot.actions.get? action.id = some action)
  (isOpen : action.completed = false ∧ action.ambiguous = false)
include digests steps found held isOpen

theorem markAmbiguous_recovered (unreconciled : reconcileAction snapshot action = none) (now : Nat → Time) :
    Recovered reconcileAction controlRunID store (store.markAmbiguousCall controlRunID action.id now) := by
  obtain ⟨runID, sound⟩ := Steps.kept steps (kept_start journal) _ _ found
  obtain ⟨attempt, attemptHeld, marks, saves⟩ := markAmbiguous_saves sound held isOpen
  have mine := sound.attempt_id attemptHeld
  have patch := blockAttempt_patch held isOpen (mine.symm ▸ attemptHeld) mine.symm (now 3)
  have applied : (Change.markAmbiguous action.id).apply controlRunID now snapshot = .ok _ := marks
  unfold Store.markAmbiguousCall
  cases changes : store.change controlRunID (.markAmbiguous action.id) now with
  | error error =>
    refine ⟨store, snapshot, action, attempt, now, .refl store, found, held, isOpen, attemptHeld, fun awaits => ?_⟩
    rw [unreconciled]
    intro markable
    obtain ⟨stored, accepted⟩ :=
      awaits.change found runID applied patch (.inr rfl) digests ((saves (now 3)).mpr markable)
    cases changes.symm.trans accepted
  | ok after =>
    have saved := change_saved found runID applied patch (.inr rfl) changes
    rw [ok_bind, Store.load, saved]
    dsimp only
    rw [ok_bind, patch.action_put]
    exact ⟨_, saved, _, mem_values.mpr ⟨_, patch.action_put⟩, rfl⟩

theorem completeAction_recovered (sums : SeedDigests sha) {result : ActionResult}
    (reconciled : reconcileAction snapshot action = some result) (now : Nat → Time) :
    match store.change controlRunID (.completeAction action.id result) now with
    | .error _ => ∃ attempt, Stuck reconcileAction controlRunID store snapshot action attempt now
    | .ok stored => ∃ saved, stored.records.get? controlRunID = some saved ∧
      saved.actions.count (!·.completed) < snapshot.actions.count (!·.completed) := by
  obtain ⟨runID, sound⟩ := Steps.kept steps (kept_start journal) _ _ found
  obtain ⟨_, _, _, _, _, attempt, attemptHeld, _⟩ := require_ok (sound.action action.id action held)
  have mine := sound.attempt_id attemptHeld
  cases changes : store.change controlRunID (.completeAction action.id result) now with
  | error error =>
    refine ⟨attempt, found, held, isOpen, attemptHeld, fun awaits => ?_⟩
    rw [reconciled]
    rintro ⟨opened, unblocked, lives, ⟨⟨done, next⟩, completes⟩, storable⟩
    obtain ⟨_, _, _, _, rfl, named, checked, outcome, patch⟩ :=
      completeAction_patch sound held isOpen attemptHeld completes (now 3)
    have applied : (Change.completeAction action.id result).apply controlRunID now snapshot = .ok _ :=
      congrArg (Prod.snd <$> ·) completes
    obtain ⟨stored, accepted⟩ := awaits.change found runID applied patch (.inl rfl) digests
      ((settledSnapshot_saves sums sound (Steps.listed steps found) opened held isOpen
        (mine.symm ▸ attemptHeld) mine.symm unblocked lives named checked outcome (now 3)).mpr storable)
    cases changes.symm.trans accepted
  | ok after =>
    obtain ⟨_, _, again, applied, _⟩ := change_ok changes
    cases found.symm.trans again
    obtain ⟨⟨done, next⟩, completes, rfl⟩ := map_ok applied
    obtain ⟨_, _, _, _, _, _, _, _, patch⟩ :=
      completeAction_patch sound held isOpen attemptHeld completes (now 3)
    refine ⟨next.saved snapshot.version (now 3), change_saved found runID applied patch (.inl rfl) changes, ?_⟩
    have counts := Table.count_put_held held (settledAction action result now) (!·.completed)
    rw [← patch.actions] at counts
    simp only [isOpen.1, settledAction, Bool.not_false, Bool.not_true, if_true, Bool.false_eq_true, if_false] at counts
    omega

end

theorem Recovered.head {after : Store} {outcome : Except Error (Store × Option Error)} {result : ActionResult}
    {now : Nat → Time} (found : store.records.get? controlRunID = some snapshot)
    (reconciled : reconcileAction snapshot action = some result)
    (completed : store.change controlRunID (.completeAction action.id result) now = .ok after)
    (recovered : Recovered reconcileAction controlRunID after outcome) :
    Recovered reconcileAction controlRunID store outcome := by
  rcases outcome with _ | ⟨last, _ | _⟩
  · obtain ⟨last, there, other, attempt, time, passes, stuck⟩ := recovered
    exact ⟨last, there, other, attempt, time, .head snapshot action result now found reconciled completed passes, stuck⟩
  · exact recovered
  · exact recovered

theorem recover_ends (sums : SeedDigests sha) (digests : DocumentDigests sha) {journal : MemoryStore}
    {order : Table LifecycleAction → List LifecycleAction}
    (orders : ∀ actions, (order actions).Perm actions.values) {now : Nat → Nat → Time} {rounds : Nat}
    (steps : Steps (fun _ _ => True) { journal } store) (found : store.records.get? controlRunID = some snapshot)
    (enough : snapshot.actions.count (!·.completed) < rounds) :
    ∃ outcome, store.recover reconcileAction order controlRunID now rounds = some outcome ∧
      Recovered reconcileAction controlRunID store outcome := by
  induction rounds generalizing store snapshot with
  | zero => omega
  | succ rounds ih =>
    obtain ⟨_, sound⟩ := Steps.kept steps (kept_start journal) _ _ found
    rw [Store.recover, Store.load, found]
    dsimp only
    rw [ok_bind, validateSnapshot_ok.mpr sound, ok_bind]
    dsimp only
    cases first : (order snapshot.actions).find? (fun action => action.ambiguous || !action.completed) with
    | none =>
      refine ⟨_, rfl, snapshot, found, fun action member => ?_⟩
      have settled := find?_eq_none.mp first action ((orders _).mem_iff.mpr member)
      simp only [Bool.or_eq_true, Bool.not_eq_true', not_or] at settled
      simpa using settled.2
    | some action =>
      have member := (orders _).mem_iff.mp (List.mem_of_find?_eq_some first)
      obtain ⟨id, listed⟩ := mem_values.mp member
      have held : snapshot.actions.get? action.id = some action := by
        rw [sound.action_id listed]
        exact listed
      dsimp only
      split
      · rename_i ambiguous
        exact ⟨_, rfl, snapshot, found, action, member, ambiguous⟩
      · rename_i unambiguous
        have unsettled := find?_some first
        have isOpen : action.completed = false ∧ action.ambiguous = false := by
          simpa [unambiguous] using unsettled
        cases reconciled : reconcileAction snapshot action with
        | none => exact ⟨_, rfl, markAmbiguous_recovered digests steps found held isOpen reconciled (now rounds)⟩
        | some result =>
          have round := completeAction_recovered digests steps found held isOpen sums reconciled (now rounds)
          dsimp only
          cases completed : store.change controlRunID (.completeAction action.id result) (now rounds) with
          | error error =>
            rw [completed] at round
            obtain ⟨attempt, stuck⟩ := round
            exact ⟨_, rfl, store, snapshot, action, attempt, now rounds, .refl store, stuck⟩
          | ok after =>
            rw [completed] at round
            obtain ⟨saved, savedFound, fewer⟩ := round
            have next : Step (fun _ _ => True) store after :=
              ⟨.change controlRunID (.completeAction action.id result), now rounds, trivial, by
                simp only [Store.call, completed]⟩
            obtain ⟨outcome, ends, recovered⟩ := ih (steps.tail next) savedFound (by omega)
            exact ⟨outcome, ends, recovered.head found reconciled completed⟩

end rounds

/-- In every stored snapshot an open action can be marked ambiguous exactly when its attempt is
markable, and `Recover` ends with every action completed or with an ambiguity recorded, unless it comes
to an open action of which the journal takes no outcome, that the provider does not reconcile and that
is not markable, or that the provider reconciles with a result that cannot be saved. -/
theorem recovery_never_wedges (sums : SeedDigests sha) (digests : DocumentDigests sha) {journal : MemoryStore}
    {store : Store} (steps : Steps (fun _ _ => True) { journal } store) {id : String} {snapshot : Snapshot}
    (found : store.records.get? id = some snapshot) :
    (∀ actionID action, snapshot.actions.get? actionID = some action →
      action.completed = false ∧ action.ambiguous = false →
      ∃ attempt marked, snapshot.attempts.get? action.attemptID = some attempt ∧
        markAmbiguous snapshot actionID = .ok marked ∧
        ∀ time, validateSave snapshot (marked.saved snapshot.version time) = .ok () ↔ Markable snapshot attempt) ∧
    ∀ reconcileAction order now rounds, (∀ actions : Table LifecycleAction, (order actions).Perm actions.values) →
      snapshot.actions.count (!·.completed) < rounds →
      ∃ outcome, store.recover reconcileAction order id now rounds = some outcome ∧
        Recovered reconcileAction id store outcome := by
  have sound := (Steps.kept steps (kept_start journal) id snapshot found).2
  refine ⟨?_, fun reconcileAction order now rounds orders enough =>
    recover_ends sums digests orders steps found enough⟩
  intro actionID action held isOpen
  obtain ⟨attempt, attemptHeld, marks, saves⟩ := markAmbiguous_saves sound held isOpen
  exact ⟨attempt, _, attemptHeld, marks, saves⟩

end recovery

attribute [local instance] Sha.spelled

theorem spelled_documentDigests : DocumentDigests Sha.spelled := fun document => Sha.sample_digest document

theorem recovery_never_wedges_observation : ∃ snapshot action attempt,
    (sample.after localWork).records.get? "run" = some snapshot ∧
      snapshot.actions.get? observation = some action ∧ snapshot.attempts.get? action.attemptID = some attempt ∧
      Markable snapshot attempt ∧ (sample.after localWork).Awaits snapshot action ∧
      ∃ outcome, (sample.after localWork).recover (fun _ _ => none) values "run" (fun _ _ => Time.unixEpoch) 2 =
        some outcome ∧ Recovered (fun _ _ => none) "run" (sample.after localWork) outcome := by
  obtain ⟨snapshot, found, few, fresh, bounded, action, held, isOpen, reserved, unreported, built, builds, valid⟩ :
      ∃ snapshot, (sample.after localWork).records.get? "run" = some snapshot ∧
        snapshot.actions.count (!·.completed) < 2 ∧
        (sample.after localWork).journal.eventByID.get? snapshot.nextEventID = none ∧
        snapshot.nextEventID.utf8ByteSize ≤ 128 ∧
      ∃ action, snapshot.actions.get? observation = some action ∧
        (action.completed = false ∧ action.ambiguous = false) ∧
        (∃ reservation, (sample.after localWork).journal.reservation snapshot.run.id action.id = .ok reservation ∧
          validateOutcomeReservation snapshot snapshot.version action.id reservation = .ok ()) ∧
        (∀ event ∈ (sample.after localWork).journal.events, event.actionID = action.id →
          event.kind.isOutcome = false) ∧
      ∃ built, markAmbiguous snapshot observation = .ok built ∧
        validateSave snapshot (built.saved snapshot.version Time.unixEpoch) = .ok () := by decide +kernel
  obtain ⟨marks, recovers⟩ :=
    recovery_never_wedges spelled_seedDigests spelled_documentDigests (after_steps sample localWork) found
  obtain ⟨attempt, marked, attemptHeld, same, saves⟩ := marks observation action held isOpen
  cases builds.symm.trans same
  exact ⟨snapshot, action, attempt, found, held, attemptHeld, (saves Time.unixEpoch).mp valid,
    ⟨reserved, unreported, fresh, bounded⟩,
    recovers (fun _ _ => none) values (fun _ _ => Time.unixEpoch) 2 (fun _ => .refl _) few⟩

/-- In a closed run nothing can be recorded any more. -/
theorem recovery_wedged : ∃ store snapshot action marked,
    Steps (fun _ _ => True) sample store ∧ store.records.get? "run" = some snapshot ∧
      snapshot.actions.get? observation = some action ∧ action.completed = false ∧ action.ambiguous = false ∧
      markAmbiguous snapshot observation = .ok marked ∧
      ∀ time, validateSave snapshot (marked.saved snapshot.version time) ≠ .ok () := by
  obtain ⟨snapshot, found, closed, action, held, isOpen⟩ := closeLocalWork_open
  have steps := after_steps sample (localWork ++ closeLocalWork)
  have sound := (Steps.kept steps (kept_start _) _ snapshot found).2
  obtain ⟨attempt, _, marks, saves⟩ := markAmbiguous_saves sound held isOpen
  exact ⟨_, snapshot, action, _, steps, found, held, isOpen.1, isOpen.2, marks,
    fun time valid => ((saves time).mp valid).opened closed⟩

end Paje.Control
