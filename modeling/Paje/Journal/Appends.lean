import Paje.Journal.Log

/-!
Single events: what `Append`, `Reserve` and `Commit` established about an event they added.
-/

namespace Paje.Journal

open Text MemoryStore List Table

variable {event : Event} {after store : MemoryStore} {id run : String}

namespace MemoryStore

theorem named_nonempty (named : ¬ blank id = true) : id ≠ "" := by
  rintro rfl
  exact named (by decide)

/-- What `appendLocked` established about an event it added. -/
structure Appends (store : MemoryStore) (run : String) (event : Event) : Prop where
  bound : event.controlRunID = run
  fresh : store.eventByID.get? event.id = none
  known : event.actionID ≠ "" → ∃ action, store.actions.get? event.actionID = some action ∧
    action.controlRunID = run ∧ validateOutcomeTransition store.events event = .ok ()
  placed : validateEvent (store.placed event 1) true = .ok ()

theorem validateOutcomeTransition_reserved (prior : List Event) (next : Event)
    (quiet : event.kind.isOutcome = false) :
    validateOutcomeTransition (prior ++ [event]) next = validateOutcomeTransition prior next := by
  have skip : ∀ state : Option EventKind, [event].foldlM (fun (state : Option EventKind) event =>
      if event.actionID = next.actionID ∧ event.kind.isOutcome then
        if outcomeFollows state event.kind then (.ok (some event.kind) : Except Error _)
        else .error .invalidRecord
      else .ok state) state = .ok state := by
    intro state
    rw [foldlM_cons, if_neg (by simp [quiet])]
    rfl
  unfold validateOutcomeTransition
  simp only [foldlM_append, skip]
  simp

theorem append_ok {expected : Nat} {assigned : Event}
    (h : store.append run expected event = .ok (assigned, after)) :
    (after = store ∧ store.eventByID.get? event.id = some assigned ∧
      { assigned with runSequence := 0, journalPosition := 0 } = event) ∨
    (store.Appends run event ∧ after = store.push (store.placed event 1)) := by
  unfold append at h
  obtain ⟨bound, h⟩ := require_bind_ok h
  cases found : store.eventByID.get? event.id with
  | some existing =>
    simp only [found] at h
    obtain ⟨same, h⟩ := require_bind_ok h
    cases pure_ok h
    exact .inl ⟨rfl, rfl, same.1⟩
  | none =>
    simp only [found] at h
    obtain ⟨_, _, h⟩ := bind_ok h
    obtain ⟨_, h⟩ := require_bind_ok h
    by_cases acts : event.actionID ≠ ""
    · rw [if_pos acts] at h
      cases held : store.actions.get? event.actionID with
      | none =>
        simp only [held] at h
        cases h
      | some action =>
        simp only [held] at h
        obtain ⟨scope, h⟩ := require_bind_ok h
        obtain ⟨_, transition, h⟩ := bind_ok h
        obtain ⟨_, placed, h⟩ := bind_ok h
        cases pure_ok h
        exact .inr ⟨⟨bound, found, fun _ => ⟨action, held, scope.1, transition⟩, placed⟩, rfl⟩
    · rw [if_neg acts] at h
      obtain ⟨_, placed, h⟩ := bind_ok h
      cases pure_ok h
      exact .inr ⟨⟨bound, found, fun named => absurd named acts, placed⟩, rfl⟩

theorem validateEvent_placed (valid : validateEvent event false = .ok ()) :
    validateEvent (store.placed event 1) true = .ok () := by
  unfold validateEvent at valid ⊢
  obtain ⟨named, valid⟩ := require_bind_ok valid
  obtain ⟨bounded, valid⟩ := require_bind_ok valid
  obtain ⟨_, valid⟩ := require_bind_ok valid
  refine (require_bind _ named).trans ((require_bind _ bounded).trans ?_)
  exact (require_bind _ ⟨Nat.succ_ne_zero _, Nat.succ_ne_zero _⟩).trans valid

theorem append_accepts (bound : event.controlRunID = run) (fresh : store.eventByID.get? event.id = none)
    (valid : validateEvent event false = .ok ())
    (known : event.actionID ≠ "" → ∃ action, store.actions.get? event.actionID = some action ∧
      (action.controlRunID = run ∧ (store.actionRuns.get? event.actionID).getD "" = run) ∧
      validateOutcomeTransition store.events event = .ok ()) :
    store.append run (store.runOf run).length event =
      .ok (store.placed event 1, store.push (store.placed event 1)) := by
  unfold append
  rw [require_bind _ bound]
  simp only [fresh, valid, ok_bind]
  rw [require_bind _ trivial]
  by_cases acts : event.actionID ≠ ""
  · obtain ⟨action, held, scope, transition⟩ := known acts
    rw [if_pos acts]
    simp only [held]
    rw [require_bind _ scope, transition, ok_bind, validateEvent_placed valid]
    rfl
  · rw [if_neg acts, validateEvent_placed valid]
    rfl

section

variable [sha : Sha]

theorem Accepted.appends {request : CommitRequest} (accepted : store.Accepted request) :
    (store.claimed request.action).Appends request.action.controlRunID (reserved request.action) ∧
      (store.begun request.action).Appends request.action.controlRunID request.outcome := by
  obtain ⟨_, bound, named, _⟩ := validateCommitRequest_ok accepted.valid
  have held : ((store.claimed request.action).actions.get? request.action.id) = some request.action := by
    simp [claimed]
  refine ⟨⟨rfl, accepted.fresh.1, fun _ => ⟨_, held, rfl, rfl⟩, accepted.reservationValid⟩, ?_⟩
  refine ⟨bound, ?_, fun _ => ⟨request.action, ?_, rfl, ?_⟩, ?_⟩
  · show (store.eventByID.put (reserved request.action).id _).get? _ = none
    rw [get?_put_other _ _ (Ne.symm accepted.distinct), accepted.fresh.2]
  · rw [named]
    exact held
  · exact (validateOutcomeTransition_reserved _ _ rfl).trans accepted.transition
  · rw [begun_placed store bound]
    exact accepted.outcomeValid

theorem reserve_ok {action kept : Action} {created : Bool} (h : store.reserve action = .ok (kept, created, after)) :
    (after = store ∧ (store.idempotency.get? action.idempotencyKey = some action ∨
      store.actions.get? action.id = some action)) ∨
    (store.idempotency.get? action.idempotencyKey = none ∧ store.actions.get? action.id = none ∧
      ∃ assigned, (store.claimed action).append action.controlRunID
        ((store.claimed action).runOf action.controlRunID).length (reserved action) = .ok (assigned, after)) := by
  unfold reserve at h
  cases byKey : store.idempotency.get? action.idempotencyKey with
  | some existing =>
    simp only [byKey] at h
    obtain ⟨same, done⟩ := require_bind_ok h
    cases pure_ok done
    exact .inl ⟨rfl, .inl (congrArg some same)⟩
  | none =>
    cases byID : store.actions.get? action.id with
    | some existing =>
      simp only [byKey, byID] at h
      obtain ⟨same, done⟩ := require_bind_ok h
      cases pure_ok done
      exact .inl ⟨rfl, .inr (congrArg some same)⟩
    | none =>
      simp only [byKey, byID] at h
      obtain ⟨_, h⟩ := require_bind_ok h
      obtain ⟨⟨assigned, stored⟩, appended, h⟩ := bind_ok h
      cases pure_ok h
      exact .inr ⟨rfl, rfl, assigned, appended⟩

end

end MemoryStore

end Paje.Journal
