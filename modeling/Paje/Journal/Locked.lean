import Paje.Journal.Writes

/-!
The writes of a `MemoryStore` in place: what an earlier write of a failed call put there stays,
unless the call deletes it again.
-/

namespace Paje.Journal

open Text MemoryStore Table

section writes

/-- A `MemoryStore` with its `active` map. -/
structure LiveStore extends MemoryStore where
  active : Table Bool := ∅

namespace LiveStore

def appendLocked (store : LiveStore) (controlRunID : String) (expectedRunSequence : Nat) (event : Event) :
    Except Error Event × LiveStore :=
  match store.append controlRunID expectedRunSequence event with
  | .error error => (.error error, store)
  | .ok (appended, after) => (.ok appended,
    ⟨after, if (store.eventByID.get? event.id).isSome then store.active else store.active.put controlRunID true⟩)

/-- Two stores with the same actions, keys, events, payloads and active runs. -/
structure Same (one two : LiveStore) : Prop where
  actions : one.actions = two.actions
  idempotency : one.idempotency = two.idempotency
  events : one.events = two.events
  runEvents : one.runEvents = two.runEvents
  payloads : one.payloads = two.payloads
  active : one.active = two.active

theorem Same.refl (store : LiveStore) : Same store store := ⟨rfl, rfl, rfl, rfl, rfl, rfl⟩

variable {store : LiveStore} {action : Action} {event : Event} {error : Error}

theorem appendLocked_error {run : String} {expected : Nat}
    (failed : ((store.appendLocked run expected event).1.map fun _ => ()) = .error error) :
    (store.appendLocked run expected event).2 = store := by
  unfold appendLocked at failed ⊢
  split at failed
  · rfl
  · cases failed

theorem checkReserveAndAppend_ok (h : store.checkReserveAndAppend action event = .ok ()) :
    validateAction action = .ok () ∧ event.controlRunID = action.controlRunID ∧ event.actionID = "" ∧
      event.kind = .projectionUpdated ∧ validateEvent event false = .ok () ∧
      (store.actions.get? action.id = none → store.eventByID.get? event.id = none) := by
  unfold checkReserveAndAppend at h
  obtain ⟨_, reserves, h⟩ := bind_ok h
  obtain ⟨⟨run, unbound, kind⟩, h⟩ := require_bind_ok h
  obtain ⟨_, valid, h⟩ := bind_ok h
  refine ⟨reserves, run, unbound, kind, valid, fun unused => ?_⟩
  cases found : store.eventByID.get? event.id with
  | none => rfl
  | some existing =>
    simp only [found] at h
    have known := (require_ok h).1
    rw [unused] at known
    cases known

variable [sha : Sha]

def reserveLocked (store : LiveStore) (action : Action) : Except Error (Action × Bool) × LiveStore :=
  match store.idempotency.get? action.idempotencyKey, store.actions.get? action.id with
  | some existing, _ | none, some existing =>
    (if existing = action then .ok (existing, false) else .error .conflict, store)
  | none, none =>
    let run := (store.actionRuns.get? action.id).getD ""
    if run ≠ "" ∧ run ≠ action.controlRunID then (.error .conflict, store)
    else
      let claimed : LiveStore := ⟨store.claimed action, store.active⟩
      match claimed.appendLocked action.controlRunID (claimed.runOf action.controlRunID).length (reserved action) with
      | (.ok _, after) => (.ok (action, true), after)
      | (.error error, after) => (.error error, { after with
          actions := after.actions.drop action.id
          actionRuns := after.actionRuns.drop action.id
          idempotency := after.idempotency.drop action.idempotencyKey })

def perform (store : LiveStore) : Write → Except Error Unit × LiveStore
  | .reserve action => match validateAction action with
    | .error error => (.error error, store)
    | .ok _ => ((store.reserveLocked action).1.map fun _ => (), (store.reserveLocked action).2)
  | .append controlRunID expectedRunSequence event =>
    let (result, after) := store.appendLocked controlRunID expectedRunSequence event
    (result.map fun _ => (), after)
  | .commit request => match store.commit request with
    | .error error => (.error error, store)
    | .ok (receipt, after) => (.ok (), ⟨after,
      if receipt.created then store.active.put request.action.controlRunID true else store.active⟩)
  | .reserveAndAppend action event => match store.checkReserveAndAppend action event with
    | .error error => (.error error, store)
    | .ok _ => match store.reserveLocked action with
      | (.error error, after) => (.error error, after)
      | (.ok _, middle) =>
        let (result, after) :=
          middle.appendLocked action.controlRunID (middle.runOf action.controlRunID).length event
        (result.map fun _ => (), after)

/-- The key and the identifier of the action are free, and it is assigned to no other run. -/
def Unreserved (store : LiveStore) (action : Action) : Prop :=
  store.idempotency.get? action.idempotencyKey = none ∧ store.actions.get? action.id = none ∧
    ((store.actionRuns.get? action.id).getD "" ≠ "" → (store.actionRuns.get? action.id).getD "" = action.controlRunID)

/-- A new action can be reserved, and its projection event has the identifier of the reservation's own event. -/
def Splits (store : LiveStore) : Write → Prop
  | .reserveAndAppend action event => store.checkReserveAndAppend action event = .ok () ∧ store.Unreserved action ∧
      validDigest (digest (.action action)) = true ∧ event.id = (reserved action).id
  | _ => False

/-- A reservation in place does what `reserve` says; when it fails it leaves no trace. -/
inductive Mirrors (store : LiveStore) :
    Except Error (Action × Bool × MemoryStore) → Except Error (Action × Bool) × LiveStore → Prop
  | failed {error : Error} {left : LiveStore} (same : Same left store) :
      Mirrors store (.error error) (.error error, left)
  | kept {action : Action} : Mirrors store (.ok (action, false, store.toMemoryStore)) (.ok (action, false), store)
  | created {action : Action} {after : MemoryStore} {active : Table Bool} :
      Mirrors store (.ok (action, true, after)) (.ok (action, true), ⟨after, active⟩)

theorem reserveLocked_mirrors (store : LiveStore) (action : Action) :
    Mirrors store (store.reserve action) (store.reserveLocked action) := by
  have known : ∀ existing : Action, Mirrors store
      (require (existing = action) .conflict >>= fun _ => pure (existing, false, store.toMemoryStore))
      (if existing = action then .ok (existing, false) else .error .conflict, store) := by
    intro existing
    by_cases same : existing = action
    · rw [require_bind _ same, if_pos same]
      exact .kept
    · rw [require_neg same, if_neg same]
      exact .failed (.refl _)
  unfold reserveLocked reserve
  cases byKey : store.idempotency.get? action.idempotencyKey with
  | some existing => exact known existing
  | none =>
    cases byID : store.actions.get? action.id with
    | some existing => exact known existing
    | none =>
      dsimp only
      split
      · rename_i taken
        rw [require_neg fun free => taken.2 (free taken.1)]
        exact .failed (.refl _)
      · rename_i free
        rw [require_bind _ fun named => by_contra fun other => free ⟨named, other⟩]
        unfold appendLocked
        show Mirrors store ((store.claimed action).append action.controlRunID
          ((store.claimed action).runOf action.controlRunID).length (reserved action) >>= fun pair =>
            pure (action, true, pair.2)) _
        cases (store.claimed action).append action.controlRunID
            ((store.claimed action).runOf action.controlRunID).length (reserved action) with
        | error error =>
          -- the deletions undo the claims, since neither the identifier nor the key was taken
          refine .failed ?_
          exact ⟨drop_put_fresh byID _, drop_put_fresh byKey _, rfl, rfl, rfl, rfl⟩
        | ok result => exact .created

theorem reserved_valid (valid : validateAction action = .ok ()) (given : validateEvent event false = .ok ())
    (same : event.id = (reserved action).id) (digests : validDigest (digest (.action action)) = true) :
    validateEvent (reserved action) false = .ok () := by
  unfold validateAction at valid
  obtain ⟨named, valid⟩ := require_bind_ok valid
  obtain ⟨sizes, _⟩ := require_bind_ok valid
  unfold validateEvent at given ⊢
  obtain ⟨labelled, given⟩ := require_bind_ok given
  obtain ⟨short, _⟩ := require_bind_ok given
  have timed : ¬ Time.unixEpoch.IsZero := by decide
  rw [require_bind _ ⟨same ▸ labelled.1, named.2.1, digests, timed⟩,
    require_bind _ ⟨same ▸ short.1, sizes.2.1, sizes.1, Nat.zero_le _⟩, if_neg Bool.false_ne_true,
    require_bind _ ⟨rfl, rfl⟩, require_bind _ nofun]
  exact require_pos fun _ => named.1

/-- When the identifier of the reservation's event is that of the projection event, it is free as well. -/
theorem reserve_creates_iff (checked : store.checkReserveAndAppend action event = .ok ())
    (same : event.id = (reserved action).id) :
    (∃ kept after, store.reserve action = .ok (kept, true, after)) ↔
      store.Unreserved action ∧ validDigest (digest (.action action)) = true := by
  obtain ⟨valid, _, _, _, given, unseen⟩ := checkReserveAndAppend_ok checked
  unfold reserve Unreserved
  cases byKey : store.idempotency.get? action.idempotencyKey with
  | some existing =>
    refine iff_of_false ?_ fun free => nomatch free.1.1
    rintro ⟨kept, after, h⟩
    obtain ⟨_, h⟩ := require_bind_ok h
    cases pure_ok h
  | none =>
    cases byID : store.actions.get? action.id with
    | some existing =>
      refine iff_of_false ?_ fun free => nomatch free.1.2.1
      rintro ⟨kept, after, h⟩
      obtain ⟨_, h⟩ := require_bind_ok h
      cases pure_ok h
    | none =>
      have fresh : (store.claimed action).eventByID.get? (reserved action).id = none := same ▸ unseen byID
      constructor
      · rintro ⟨kept, after, h⟩
        obtain ⟨assigned, h⟩ := require_bind_ok h
        obtain ⟨_, appended, _⟩ := bind_ok h
        rcases append_ok appended with ⟨_, found, _⟩ | ⟨appends, _⟩
        · cases fresh.symm.trans found
        · exact ⟨⟨rfl, rfl, assigned⟩, (require_bind_ok appends.placed).1.2.2.1⟩
      · rintro ⟨⟨_, _, assigned⟩, digests⟩
        have appended := append_accepts rfl fresh (reserved_valid valid given same digests) fun _ =>
          ⟨action, get?_put_self _ _ _, ⟨rfl, congrArg (·.getD "") (get?_put_self _ _ _)⟩, rfl⟩
        exact ⟨_, _, (require_bind _ assigned).trans (congrArg (· >>= _) appended)⟩

theorem reserve_event {store after : MemoryStore} {kept : Action} (h : store.reserve action = .ok (kept, true, after)) :
    store.actions.get? action.id = none ∧ after.actions.get? action.id = some action ∧
      (∃ event, after.eventByID.get? (reserved action).id = some event ∧ event.kind = .actionReserved) ∧
      ∀ id, id ≠ (reserved action).id → after.eventByID.get? id = store.eventByID.get? id := by
  rcases reserve_ok h with ⟨_, held⟩ | ⟨_, unused, assigned, appended⟩
  · unfold reserve at h
    rcases held with held | held
    · simp only [held] at h
      obtain ⟨_, h⟩ := require_bind_ok h
      cases pure_ok h
    · cases byKey : store.idempotency.get? action.idempotencyKey with
      | some _ | none =>
        simp only [byKey, held] at h
        obtain ⟨_, h⟩ := require_bind_ok h
        cases pure_ok h
  · refine ⟨unused, ?_⟩
    rcases append_ok appended with ⟨rfl, found, same⟩ | ⟨_, rfl⟩
    · exact ⟨get?_put_self _ _ _, ⟨_, found, congrArg Event.kind same⟩, fun _ _ => rfl⟩
    · exact ⟨get?_put_self _ _ _, ⟨_, get?_put_self _ _ _, rfl⟩,
        fun _ other => get?_put_other _ _ other⟩

/-- A call that fails leaves the store as it was, unless it is such a reservation. -/
theorem failed_write_unchanged_iff (store : LiveStore) (write : Write) :
    (∀ error, (store.perform write).1 = .error error → Same (store.perform write).2 store) ↔
      ¬ store.Splits write := by
  constructor
  · intro unchanged splits
    cases write with
    | reserveAndAppend action event =>
      obtain ⟨checked, free, digests, same⟩ := splits
      obtain ⟨kept, after, created⟩ := (reserve_creates_iff checked same).mpr ⟨free, digests⟩
      obtain ⟨_, bound, _, kind, _⟩ := checkReserveAndAppend_ok checked
      obtain ⟨unused, taken, ⟨held, found, other⟩, _⟩ := reserve_event created
      have mirrors := reserveLocked_mirrors store action
      rw [created] at mirrors
      generalize located : store.reserveLocked action = result at mirrors
      cases mirrors with
      | created =>
        have refused : after.append action.controlRunID (after.runOf action.controlRunID).length event =
            .error .conflict := by
          unfold append
          rw [require_bind _ bound, same, found]
          refine congrArg (· >>= _) (require_neg fun equal => ?_)
          have kinds := congrArg Event.kind equal.1
          rw [kind] at kinds
          cases other.symm.trans kinds
        have left := unchanged .conflict
        simp only [perform, checked, located, appendLocked, refused] at left
        have gone : after.actions.get? action.id = store.actions.get? action.id :=
          congrArg (·.get? action.id) (left rfl).actions
        rw [taken, unused] at gone
        cases gone
    | _ => exact splits
  · intro whole error failed
    cases write with
    | reserve action =>
      simp only [perform] at failed ⊢
      cases valid : validateAction action with
      | error refused => exact .refl _
      | ok _ =>
        simp only [valid] at failed
        have mirrors := reserveLocked_mirrors store action
        generalize store.reserveLocked action = located at mirrors failed
        generalize store.reserve action = result at mirrors
        cases mirrors with
        | failed same => exact same
        | kept | created => cases failed
    | append controlRunID expected event =>
      simp only [perform] at failed ⊢
      rw [appendLocked_error failed]
      exact .refl _
    | commit request =>
      simp only [perform] at failed ⊢
      cases result : store.commit request with
      | error refused => exact .refl _
      | ok _ =>
        simp only [result] at failed
        cases failed
    | reserveAndAppend action event =>
      simp only [perform] at failed ⊢
      cases checked : store.checkReserveAndAppend action event with
      | error refused => exact .refl _
      | ok _ =>
        simp only [checked] at failed ⊢
        have mirrors := reserveLocked_mirrors store action
        generalize store.reserveLocked action = located at mirrors failed
        generalize reserves : store.reserve action = result at mirrors
        cases mirrors with
        | failed same => exact same
        | kept =>
          dsimp only at failed ⊢
          rw [appendLocked_error failed]
          exact .refl _
        | created =>
          -- the projection event is new as well, so it is appended
          obtain ⟨_, bound, unbound, _, valid, unseen⟩ := checkReserveAndAppend_ok checked
          obtain ⟨unused, _, _, others⟩ := reserve_event reserves
          have different : event.id ≠ (reserved action).id := by
            intro same
            obtain ⟨free, digests⟩ := (reserve_creates_iff checked same).mp ⟨_, _, reserves⟩
            exact whole ⟨checked, free, digests, same⟩
          have fresh := (others _ different).trans (unseen unused)
          simp only [appendLocked, append_accepts bound fresh valid fun acts => absurd unbound acts] at failed
          cases failed

end LiveStore

end writes

attribute [local instance] Sha.sample

def clashing : Event := { Event.sample "one" .projectionUpdated with id := (reserved (.sample "one")).id }

theorem failed_write_changed : let left := LiveStore.perform ⟨.sample, ∅⟩ (.reserveAndAppend (.sample "one") clashing)
    left.1 = .error .conflict ∧ left.2.actions.get? "action-one" = some (.sample "one") ∧
      left.2.events.length = 1 ∧ left.2.active.holds "run" = true := by
  decide +kernel

end Paje.Journal
