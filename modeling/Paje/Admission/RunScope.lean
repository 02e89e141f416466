import Paje.Admission.Replayable

/-!
The records of different control runs share the projection's tables, under keys that join the run
with a NUL and the rest.
-/

namespace Paje.Admission

open Text Journal Table String

variable {plan : Plan} {p : Projection} {s : Service} {now : Time}
variable {occurredAt : Time} {q : Projection} {entry : Entry} {α : Type} {svc : Nat → Service}
  {installationID : String} {sys : System} {log : List Entry}

theorem nul_apart {one other : String} (rest rest' : String) (plain : NulFree one)
    (plain' : NulFree other) (same : one ++ "\x00" ++ rest = other ++ "\x00" ++ rest') : one = other := by
  have lists := congrArg String.toList same
  simp only [toList_append, List.append_assoc] at lists
  exact toList_inj.mp (split_at_nul plain plain' lists).1

section Keys

variable {one other : String} (plain : NulFree one) (plain' : NulFree other) (different : one ≠ other)

include plain plain' different

theorem scopedID_apart (id id' : String) : scopedID one id ≠ scopedID other id' := fun same =>
  different (nul_apart id id' plain plain' same)

theorem semanticIndex_apart (action action' : String) (generation generation' : Nat) :
    semanticIndex one action generation ≠ semanticIndex other action' generation' := by
  intro same
  refine different (nul_apart (action ++ "\x00" ++ toString generation)
    (action' ++ "\x00" ++ toString generation') plain plain' ?_)
  simpa [semanticIndex, append_assoc] using same

theorem recoveryIndex_apart {identity identity' : RecoveryIdentity}
    (installation : identity.installationID = identity'.installationID)
    (run : identity.controlRunID = one) (run' : identity'.controlRunID = other) :
    recoveryIndex identity ≠ recoveryIndex identity' := by
  intro same
  simp only [recoveryIndex, installation, run, run', append_assoc] at same
  have rest := append_left_cancel (append_left_cancel same)
  refine different (nul_apart (identity.actionID ++ "\x00" ++ toString identity.generation)
    (identity'.actionID ++ "\x00" ++ toString identity'.generation) plain plain' ?_)
  simpa [append_assoc] using rest

end Keys

/-! ### What a call leaves alone -/

/-- Nothing about `run` differs between two projections: its records, and the transitions that its
calls find. -/
structure SameRun (run : String) (p q : Projection) : Prop where
  admissions : ∀ id, q.admissions.get? (scopedID run id) = p.admissions.get? (scopedID run id)
  admissionTombs : ∀ id, q.admissionTombs.get? (scopedID run id) = p.admissionTombs.get? (scopedID run id)
  leases : ∀ id, q.leases.get? (scopedID run id) = p.leases.get? (scopedID run id)
  leaseTombs : ∀ id, q.leaseTombs.get? (scopedID run id) = p.leaseTombs.get? (scopedID run id)
  handoffs : ∀ id, q.handoffs.get? (scopedID run id) = p.handoffs.get? (scopedID run id)
  recoveries : ∀ identity : RecoveryIdentity, identity.installationID = p.installationID →
    identity.controlRunID = run →
    q.recoveries.get? (recoveryIndex identity) = p.recoveries.get? (recoveryIndex identity)
  transitions : ∀ action generation, q.transitions.get? (semanticIndex run action generation) =
    p.transitions.get? (semanticIndex run action generation)
  idempotency : ∀ key, q.idempotency.get? (idempotencyIndex run key) = p.idempotency.get? (idempotencyIndex run key)

theorem SameRun.refl (run : String) (p : Projection) : SameRun run p p :=
  ⟨fun _ => rfl, fun _ => rfl, fun _ => rfl, fun _ => rfl, fun _ => rfl, fun _ _ _ => rfl,
    fun _ _ => rfl, fun _ => rfl⟩

def Call.controlRunID : Call → String
  | .reserve request | .enqueue request | .admitRun request | .release request => request.controlRunID
  | .acquireLease request | .renewLease request | .releaseLease request | .expireLease request =>
    request.controlRunID
  | .issueHandoff request | .grantHandoff request | .acknowledgeHandoff request => request.controlRunID
  | .startObservation request => request.recovery.controlRunID
  | .cancelOrFence request => request.recovery.controlRunID
  | .scannerApply request => request.recovery.controlRunID

section Commits

theorem filed_put {table : Table α} {run : α → String}
    (filed : ∀ key value, table.get? key = some value → ∃ id, key = scopedID (run value) id)
    {value : α} {id owner : String} (own : run value = owner) :
    ∀ key held, (table.put (scopedID owner id) value).get? key = some held → ∃ id, key = scopedID (run held) id := by
  intro key held found
  rw [get?_put] at found
  split at found
  · rename_i here
    cases found
    exact ⟨id, by rw [own]; exact here⟩
  · exact filed key held found

theorem filed_finds {one other id : String} {table : Table α} {run : α → String}
    (filed : ∀ key value, table.get? key = some value → ∃ id, key = scopedID (run value) id)
    (plain : NulFree one) (plain' : NulFree other) (different : one ≠ other) {value : α}
    (found : table.get? (scopedID one id) = some value) : run value ≠ other := by
  rintro rfl
  obtain ⟨id', same⟩ := filed _ _ found
  exact scopedID_apart plain plain' different id id' same

variable [sha : Sha]

theorem Call.Plans.run {call : Call} {s : Service} {plan : Plan} (planned : call.Plans s plan) :
    plan.transition.controlRunID = call.controlRunID := by
  obtain ⟨p, planned⟩ := planned
  cases call with
  | admitRun =>
    simp only [Call.plan] at planned
    split at planned <;> cases planned <;> rfl
  | release | cancelOrFence =>
    simp only [Call.plan] at planned
    split at planned <;> cases planned
    rfl
  | _ => cases planned; rfl

theorem build_run {binding : SemanticBinding} {requestDigest : String} {value : RecoveryRecord}
    (built : plan.build s p binding requestDigest now = .ok (.recovery value)) :
    value.identity.installationID = p.installationID ∧
      value.identity.controlRunID = plan.transition.controlRunID := by
  cases build_ok built <;> exact ⟨rfl, rfl⟩

theorem Written.sameRun {effect : Effect} {other : String}
    (written : Written s plan now occurredAt p effect entry) (absorbed : p.absorb entry = .ok q)
    (plain : NulFree plan.transition.controlRunID) (plain' : NulFree other)
    (different : plan.transition.controlRunID ≠ other) : SameRun other p q := by
  obtain ⟨_, _, applied⟩ := written.applied absorbed
  have apart : ∀ id id', scopedID other id ≠ scopedID plan.transition.controlRunID id' :=
    fun id id' => scopedID_apart plain' plain different.symm id id'
  have indexed : ∀ action action' generation generation', semanticIndex other action generation ≠
      semanticIndex plan.transition.controlRunID action' generation' :=
    fun a a' g g' => semanticIndex_apart plain' plain different.symm a a' g g'
  have start : SameRun other p ((p.advance entry).indexed (recordOf entry (s.request plan.transition p.installationID)
      (outcomeOf (s.request plan.transition p.installationID) effect))) :=
    { SameRun.refl other p with
      transitions := fun action generation => get?_put_other _ _ (indexed _ _ _ _)
      idempotency := fun key => get?_put_other _ _ (apart _ _) }
  cases applied with
  | admission =>
    exact { start with
      admissions := fun id => (get?_put_other _ _ (apart _ _)).trans (start.admissions id) }
  | admissionTombstone =>
    exact { start with
      admissions := fun id => (get?_put_other _ _ (apart _ _)).trans (start.admissions id)
      admissionTombs := fun id =>
        (get?_put_other _ _ (apart _ _)).trans (start.admissionTombs id) }
  | lease =>
    exact { start with
      leases := fun id => (get?_put_other _ _ (apart _ _)).trans (start.leases id) }
  | leaseTombstone =>
    exact { start with
      leases := fun id => (get?_put_other _ _ (apart _ _)).trans (start.leases id)
      leaseTombs := fun id => (get?_put_other _ _ (apart _ _)).trans (start.leaseTombs id) }
  | handoff =>
    exact { start with
      handoffs := fun id => (get?_put_other _ _ (apart _ _)).trans (start.handoffs id) }
  | recovery =>
    obtain ⟨installation, named⟩ := build_run written.built
    exact { start with
      recoveries := fun identity here mine => (get?_put_other _ _ (recoveryIndex_apart plain' plain
        different.symm (here.trans installation.symm) mine named)).trans
          (start.recoveries identity here mine) }

def admission (store : MemoryStore) (cache : Option View) (controlRunID admissionID : String) :
    Except Error RunAdmission := do
  require (bounded controlRunID 128 ∧ bounded admissionID 128) invalidRequest
  let p ← (rebuild store cache).1
  match p.admissions.get? (scopedID controlRunID admissionID) with
  | none => .error (.typed .notFound none .notFound)
  | some value => return value

def lease (store : MemoryStore) (cache : Option View) (controlRunID leaseID : String) :
    Except Error (Lease × Option LeaseTombstone) := do
  require (bounded controlRunID 128 ∧ bounded leaseID 128) invalidRequest
  let p ← (rebuild store cache).1
  match p.leases.get? (scopedID controlRunID leaseID) with
  | none => .error (.typed .notFound none .notFound)
  | some value => return (value, p.leaseTombs.get? (scopedID controlRunID leaseID))

structure Filed (p : Projection) : Prop where
  admissions : ∀ key value, p.admissions.get? key = some value → ∃ id, key = scopedID value.controlRunID id
  leases : ∀ key value, p.leases.get? key = some value → ∃ id, key = scopedID value.controlRunID id
  leaseTombs : ∀ key value, p.leaseTombs.get? key = some value → ∃ id, key = scopedID value.controlRunID id

variable {request : RequestEnvelope} {outcome : OutcomeEnvelope}

theorem validLease_run {value : Lease}
    (valid : validateOutcomeSemantics request outcome = .ok ()) (made : outcome.effect = .lease value) :
    value.controlRunID = outcome.binding.controlRunID := by
  obtain ⟨_, _, valid⟩ := validateOutcomeSemantics_ok valid
  simp only [made, validateLeaseOutcome] at valid
  obtain ⟨_, _, valid⟩ := bind_ok valid
  exact (require_bind_ok valid).1.1

theorem validLeaseTombstone_run {value : LeaseTombstone} (valid : validateOutcomeSemantics request outcome = .ok ())
    (made : outcome.effect = .leaseTombstone value) : value.controlRunID = outcome.binding.controlRunID := by
  obtain ⟨_, _, valid⟩ := validateOutcomeSemantics_ok valid
  simp only [made, validateLeaseTombstoneOutcome] at valid
  obtain ⟨_, _, valid⟩ := bind_ok valid
  exact (require_ok valid).1

theorem Filed.written {effect : Effect} (filed : Filed p)
    (written : Written s plan now occurredAt p effect entry) (absorbed : p.absorb entry = .ok q) : Filed q := by
  obtain ⟨_, _, applied⟩ := written.applied absorbed
  cases applied with
  | admission =>
    exact ⟨filed_put filed.admissions (validAdmission written.valid rfl).1, filed.leases, filed.leaseTombs⟩
  | @admissionTombstone _ prior found =>
    refine ⟨fun key held there => ?_, filed.leases, filed.leaseTombs⟩
    rw [get?_put] at there
    split at there
    · rename_i here
      cases there
      rw [here]
      exact filed.admissions _ prior found
    · exact filed.admissions key held there
  | lease =>
    exact ⟨filed.admissions, filed_put filed.leases (validLease_run written.valid rfl), filed.leaseTombs⟩
  | @leaseTombstone _ prior _ found =>
    refine ⟨filed.admissions, fun key held there => ?_,
      filed_put filed.leaseTombs (validLeaseTombstone_run written.valid rfl)⟩
    rw [get?_put] at there
    split at there
    · rename_i here
      cases there
      rw [here]
      exact filed.leases _ prior found
    · exact filed.leases key held there
  | _ => exact ⟨filed.admissions, filed.leases, filed.leaseTombs⟩

theorem Sound.filed {careful : Plan → Projection → Time → Prop} (sound : Sound svc careful installationID sys log)
    (replayed : replay installationID log = .ok p) : Filed p := by
  refine sound.authored.inv Filed ⟨?_, ?_, ?_⟩ ?_ ?_ replayed
  · intro key value found
    cases found
  · intro key value found
    cases found
  · intro key value found
    cases found
  · rintro p entry q filed ⟨_, _, _, _, _, _, _, _, written⟩ absorbed
    exact filed.written written absorbed
  · intro p entry q filed outside absorbed
    rw [outside.absorbed absorbed]
    exact ⟨filed.admissions, filed.leases, filed.leaseTombs⟩

/-- One step of a call that names `one` leaves the records of `other` as they are and readable. -/
theorem step_isolates (injective : sha.Injective) {next : System}
    (sound : Sound svc Orderly installationID sys log) {label : Label}
    (orderly : Careful Orderly sys label) (stepped : sys.step svc label = some next)
    {one other : String} (plain : NulFree one) (plain' : NulFree other) (different : one ≠ other)
    (names : ∀ k now occurredAt flight, label = .attempt k now occurredAt → sys.flights k = some flight →
      flight.call.controlRunID = one) : ∃ p q, replay installationID log = .ok p ∧ SameRun other p q ∧
      rebuildAll next.store = .ok { q with global := next.store.cursorAt next.store.events.length } ∧
      ∀ i, (rebuild next.store (next.caches i)).1 = rebuildAll next.store := by
  obtain ⟨more, after, adds⟩ := sound.step orderly stepped
  obtain ⟨p, replayed, _⟩ := sound.replays injective
  obtain ⟨q, replayedNext, _⟩ := after.replays injective
  have rebuilt : rebuildAll next.store = .ok { q with global := next.store.cursorAt next.store.events.length } := by
    rw [after.rebuildAll, replayedNext, after.holds.length]
    rfl
  refine ⟨p, q, replayed, ?_, rebuilt, fun i =>
    rebuild_eq after.holds after.clean after.named (after.caches i)⟩
  rcases adds with rfl | ⟨entry, rfl, outside | ⟨k, now, occurredAt, i, call, plan, view, effect,
    rfl, found, planned, current, written⟩⟩
  · rw [List.append_nil, replayed] at replayedNext
    cases replayedNext
    exact .refl other p
  · obtain ⟨before, same, absorbed⟩ := EventLog.fold_snoc replayedNext
    cases replayed.symm.trans same
    rw [outside.absorbed absorbed]
    exact ⟨fun _ => rfl, fun _ => rfl, fun _ => rfl, fun _ => rfl, fun _ => rfl, fun _ _ _ => rfl,
      fun _ _ => rfl, fun _ => rfl⟩
  · obtain ⟨before, same, absorbed⟩ := EventLog.fold_snoc replayedNext
    cases replayed.symm.trans same
    cases replayed.symm.trans current
    have run : plan.transition.controlRunID = one :=
      planned.run.trans (names k now occurredAt _ rfl found)
    exact written.sameRun absorbed (run ▸ plain) plain' (run ▸ different)

/-- In orderly runs, a step of a call that names one run leaves every record of another run as it is
and readable by all services, and lookups for the one find nothing of the other, as long as neither
run identifier holds a NUL. -/
theorem runs_isolated (injective : sha.Injective) {svc : Nat → Service} {installationID : String}
    {sys next : System} (reachable : Reachable svc Orderly installationID sys) {label : Label}
    (orderly : Careful Orderly sys label) (stepped : sys.step svc label = some next)
    {one other : String} (plain : NulFree one) (plain' : NulFree other) (different : one ≠ other)
    (names : ∀ k now occurredAt flight, label = .attempt k now occurredAt → sys.flights k = some flight →
      flight.call.controlRunID = one) :
    ∃ view after, rebuildAll sys.store = .ok view ∧ rebuildAll next.store = .ok after ∧
      (∀ i, (rebuild next.store (next.caches i)).1 = .ok after) ∧ SameRun other view.toProjection after.toProjection ∧
      (∀ i id value, admission sys.store (sys.caches i) one id = .ok value → value.controlRunID ≠ other) ∧
      ∀ i id value tombstone, lease sys.store (sys.caches i) one id = .ok (value, tombstone) →
        value.controlRunID ≠ other ∧ ∀ ended ∈ tombstone, ended.controlRunID ≠ other := by
  obtain ⟨log, sound⟩ := reachable_sound reachable
  obtain ⟨p, q, replayed, same, rebuilt, reads⟩ :=
    step_isolates injective sound orderly stepped plain plain' different names
  have filed := sound.filed replayed
  have here : rebuildAll sys.store = .ok (viewOf sys.store log p) := by
    rw [sound.rebuildAll, replayed]
    rfl
  have read : ∀ i, (rebuild sys.store (sys.caches i)).1 = .ok (viewOf sys.store log p) := fun i => by
    rw [rebuild_eq sound.holds sound.clean sound.named (sound.caches i), here]
  refine ⟨_, _, here, rebuilt, fun i => (reads i).trans rebuilt, same, fun i id value looked => ?_,
    fun i id value tombstone looked => ?_⟩
  · unfold admission at looked
    obtain ⟨_, looked⟩ := require_bind_ok looked
    rw [read i, ok_bind] at looked
    split at looked
    · cases looked
    · rename_i found
      cases pure_ok looked
      exact filed_finds filed.admissions plain plain' different found
  · unfold lease at looked
    obtain ⟨_, looked⟩ := require_bind_ok looked
    rw [read i, ok_bind] at looked
    split at looked
    · cases looked
    · rename_i found
      cases pure_ok looked
      exact ⟨filed_finds filed.leases plain plain' different found, fun ended held =>
        filed_finds filed.leaseTombs plain plain' different held⟩

end Commits

def twoRuns : List Label :=
  Label.serve 0 0 (.reserve (.sample "one" "1")) 1 ++
  Label.serve 1 1 (.reserve { AdmissionRequest.sample "one" "2" with controlRunID := "other" }) 1 ++
  Label.serve 2 0 (.acquireLease { LeaseRequest.sample "lease" "3" 1 10 with controlRunID := "other" }) 5

def releaseFirst : List Label := [.submit 3 1 (.release (.sample "one" "4")), .choose 3, .read 3]

@[reducible] def runsHash : Sha :=
  Sha.separating (runDocuments (twoRuns ++ Label.serve 3 1 (.release (.sample "one" "4")) 6)).dedup

theorem runsHash_injective : runsHash.Injective := Sha.separating_injective (by decide +kernel)

section Witness

attribute [local instance] runsHash

theorem runs_isolated_release : ∃ sys next view after,
    System.run (fun _ => .sample) Orderly .sample (twoRuns ++ releaseFirst) = some sys ∧
    sys.step (fun _ => .sample) (.attempt 3 6 6) = some next ∧
    rebuildAll sys.store = .ok view ∧ rebuildAll next.store = .ok after ∧
    sys.store.events.length = 6 ∧ next.store.events.length = 8 ∧
    SameRun "other" view.toProjection after.toProjection := by
  obtain ⟨sys, ran, orderly, six, flight, found, named, next, stepped, eight⟩ :
      ∃ sys, System.run (fun _ => .sample) Orderly .sample (twoRuns ++ releaseFirst) = some sys ∧
        Careful Orderly sys (.attempt 3 6 6) ∧ sys.store.events.length = 6 ∧
      ∃ flight, sys.flights 3 = some flight ∧ flight.call.controlRunID = "run" ∧
      ∃ next, sys.step (fun _ => .sample) (.attempt 3 6 6) = some next ∧ next.store.events.length = 8 := by
    decide +kernel
  obtain ⟨view, after, read, readNext, _, same, _⟩ := runs_isolated runsHash_injective
    (System.sample_reachable.run ran) orderly stepped
    (by decide : NulFree "run") (by decide : NulFree "other") (by decide) (by
      rintro k now occurredAt other ⟨⟩ held
      cases found.symm.trans held
      exact named)
  exact ⟨sys, next, view, after, ran, stepped, read, readNext, six, eight, same⟩

end Witness

attribute [local instance] Sha.sample

/-- An action of run `a NUL b`, and an admission of run `a`. -/
def startNul : List Label :=
  Label.serve 0 0 (.startObservation ⟨.sample "1" 1, .sample "a\x00b" "c" 1⟩) 1 ++
  Label.serve 1 0 (.reserve { AdmissionRequest.sample "b\x00c" "2" with controlRunID := "a" }) 1

/-- Run `a` cancels its action `b NUL c`. -/
def cancelNul : List Label :=
  Label.serve 2 0 (.cancelOrFence ⟨.sample "3" 1, .sample "a" "b\x00c" 1, ⟨.canceled, "proof"⟩⟩) 1

/-- The record of run `a NUL b` is gone, and its lookup of `c` finds the admission of run `a`. -/
theorem runs_not_isolated : ∃ sys later view after value,
    System.run (fun _ => .sample) (fun _ _ _ => True) .sample startNul = some sys ∧
    System.run (fun _ => .sample) (fun _ _ _ => True) sys cancelNul = some later ∧
    Reachable (fun _ => .sample) (fun _ _ _ => True) "i" later ∧
    rebuildAll sys.store = .ok view ∧ rebuildAll later.store = .ok after ∧
    (∃ record ∈ view.recoveries.values, record.identity.controlRunID = "a\x00b") ∧
    (∀ record ∈ after.recoveries.values, record.identity.controlRunID ≠ "a\x00b") ∧
    admission later.store (later.caches 0) "a\x00b" "c" = .ok value ∧ value.controlRunID = "a" := by
  obtain ⟨sys, ran, later, ranLater, view, read, after, readLater, held, gone, value, found, owner⟩ :
      ∃ sys, System.run (fun _ => .sample) (fun _ _ _ => True) .sample startNul = some sys ∧
      ∃ later, System.run (fun _ => .sample) (fun _ _ _ => True) sys cancelNul = some later ∧
      ∃ view, rebuildAll sys.store = .ok view ∧ ∃ after, rebuildAll later.store = .ok after ∧
        (∃ record ∈ view.recoveries.values, record.identity.controlRunID = "a\x00b") ∧
        (∀ record ∈ after.recoveries.values, record.identity.controlRunID ≠ "a\x00b") ∧
      ∃ value, admission later.store (later.caches 0) "a\x00b" "c" = .ok value ∧ value.controlRunID = "a" := by
    decide +kernel
  exact ⟨sys, later, view, after, value, ran, ranLater, (System.sample_reachable.run ran).run ranLater,
    read, readLater, held, gone, found, owner⟩

end Paje.Admission
