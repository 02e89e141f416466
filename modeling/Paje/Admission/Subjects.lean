import Paje.Admission.Recovery

/-!
The subject of a recovery. `StartObservation` compares digests; `CancelOrFence` and `ScannerApply`
look their record up under an index that leaves the digest out and write their own identity over it.
-/

namespace Paje.Admission

open Text Journal Table

variable {p q : Projection} {value : RecoveryRecord}

def OneSubject (p : Projection) : Prop :=
  ∀ one ∈ p.recoveries.values, ∀ two ∈ p.recoveries.values, SameAction one two →
    one.identity.subjectDigest = two.identity.subjectDigest

def KeepsIdentities (p q : Projection) : Prop :=
  ∀ one ∈ p.recoveries.values, ∃ two ∈ q.recoveries.values, two.identity = one.identity

/-- A fence, or a fact that a scanner applies, names the identity that is recorded under its index. -/
def OwnIdentity (plan : Plan) (p : Projection) (_now : Time) : Prop :=
  match plan with
  | .cancelOrFence ⟨_, identity, _⟩ _ | .scannerApply ⟨_, identity, _, _⟩ =>
    ∀ prior ∈ p.recoveries.get? (recoveryIndex (normalized p identity)), prior.identity = normalized p identity
  | _ => True

instance (plan : Plan) (p : Projection) (now : Time) : Decidable (OwnIdentity plan p now) :=
  decidable_of_iff ((match plan with
    | .cancelOrFence ⟨_, identity, _⟩ _ | .scannerApply ⟨_, identity, _, _⟩ =>
      decide (∀ prior ∈ p.recoveries.get? (recoveryIndex (normalized p identity)),
        prior.identity = normalized p identity)
    | _ => true) = true) (by cases plan <;> simp [OwnIdentity])

variable {key : String}

theorem OneSubject.start (bound : OneSubject p) (may : mayStart (latestRecovery p value.identity) value.identity)
    (stored : q.recoveries = p.recoveries.put key value) : OneSubject q := by
  have joins : ∀ one ∈ p.recoveries.values, SameAction one value →
      one.identity.subjectDigest = value.identity.subjectDigest := by
    intro one held same
    obtain ⟨latest, found, _⟩ := latestRecovery_ge held same
    obtain ⟨inTable, chain⟩ := latestRecovery_mem found
    have tied : SameAction one latest := same.trans (SameAction.symm chain)
    exact (bound one held latest inTable tied).trans (may latest found).1
  have cases : ∀ one ∈ q.recoveries.values, one = value ∨ one ∈ p.recoveries.values := by
    intro one held
    rw [stored] at held
    exact mem_values_put held
  intro one held two held' same
  rcases cases one held with rfl | old <;> rcases cases two held' with rfl | old'
  · rfl
  · exact (joins two old' same.symm).symm
  · exact joins one old same
  · exact bound one old two old' same

theorem OneSubject.update {prior : RecoveryRecord}
    (bound : OneSubject p) (found : p.recoveries.get? key = some prior)
    (same : prior.identity = value.identity) (stored : q.recoveries = p.recoveries.put key value) : OneSubject q := by
  have before : ∀ one ∈ q.recoveries.values, ∃ old ∈ p.recoveries.values, old.identity = one.identity := by
    intro one held
    rw [stored] at held
    rcases mem_values_put held with rfl | old
    · exact ⟨prior, mem_values.mpr ⟨key, found⟩, same⟩
    · exact ⟨one, old, rfl⟩
  intro one held two held' action
  obtain ⟨first, old, named⟩ := before one held
  obtain ⟨second, old', named'⟩ := before two held'
  rw [← named, ← named']
  refine bound first old second old' ?_
  unfold SameAction at action ⊢
  rw [named, named']
  exact action

theorem KeepsIdentities.stored (stored : q.recoveries = p.recoveries.put key value)
    (same : ∀ prior ∈ p.recoveries.get? key, prior.identity = value.identity) : KeepsIdentities p q := by
  intro one held
  obtain ⟨slot, found⟩ := mem_values.mp held
  by_cases here : slot = key
  · subst here
    exact ⟨value, mem_values.mpr ⟨slot, by rw [stored, get?_put_self]⟩, (same one found).symm⟩
  · exact ⟨one, mem_values.mpr ⟨slot, by rw [stored, get?_put_other _ _ here, found]⟩, rfl⟩

section Commits

variable [sha : Sha]

theorem build_identity {s : Service} {plan : Plan} {binding : SemanticBinding}
    {requestDigest : String} {now : Time} (own : OwnIdentity plan p now)
    (built : plan.build s p binding requestDigest now = .ok (.recovery value)) :
    ∀ prior ∈ p.recoveries.get? (recoveryIndex value.identity), prior.identity = value.identity := by
  cases build_ok built with
  | startObservation fresh => exact fun prior found => nomatch fresh.symm.trans found
  | cancelOrFence => exact own
  | scannerApply => exact own

theorem OneSubject.written {s : Service} {plan : Plan} {now occurredAt : Time}
    {effect : Effect} {entry : Entry} (bound : OneSubject p) (own : OwnIdentity plan p now)
    (written : Written s plan now occurredAt p effect entry) (absorbed : p.absorb entry = .ok q) :
    OneSubject q ∧ KeepsIdentities p q := by
  rcases written.recoveries absorbed with same | ⟨value, rfl, stored, _, starts⟩
  · refine ⟨fun one held two held' => ?_, fun one held => ⟨one, same ▸ held, rfl⟩⟩
    rw [same] at held held'
    exact bound one held two held'
  · have mine := build_identity own written.built
    refine ⟨?_, .stored stored mine⟩
    cases found : p.recoveries.get? (recoveryIndex value.identity) with
    | none => exact bound.start (starts found) stored
    | some prior => exact bound.update found (mine prior found) stored

/-- In runs whose fences and applied facts name the recorded identity, a record keeps its identity,
subject digest included, and all generations of an action carry the digest of the first. -/
theorem recovery_subject_bound {svc : Nat → Service} {installationID : String} {sys later : System}
    (reachable : Reachable svc OwnIdentity installationID sys) (steps : Steps svc OwnIdentity sys later)
    {i j : Nat} {view after : View} (read : (rebuild sys.store (sys.caches i)).1 = .ok view)
    (readLater : (rebuild later.store (later.caches j)).1 = .ok after) :
    (∀ one ∈ view.recoveries.values, ∃ two ∈ after.recoveries.values, two.identity = one.identity) ∧
    ∀ one ∈ view.recoveries.values, ∀ two ∈ after.recoveries.values, SameAction one two →
      two.identity.subjectDigest = one.identity.subjectDigest := by
  obtain ⟨_, bound, keeps⟩ := reachable.relates steps OneSubject KeepsIdentities (fun _ held => nomatch held)
    (fun bound careful written absorbed => bound.written careful written absorbed)
    (fun _ _ bound => ⟨bound, fun one held => ⟨one, held, rfl⟩⟩) (fun _ one held => ⟨one, held, rfl⟩)
    (fun _ _ _ left right one held => by
      obtain ⟨two, held', same⟩ := left one held
      obtain ⟨three, held'', same'⟩ := right two held'
      exact ⟨three, held'', same'.trans same⟩) read readLater
  refine ⟨keeps, fun one held two held' same => ?_⟩
  obtain ⟨kept, there, named⟩ := keeps one held
  rw [← named]
  refine bound two held' kept there (SameAction.symm ?_)
  unfold SameAction at same ⊢
  rw [named]
  exact same

end Commits

attribute [local instance] Sha.sample

theorem recovery_subject_bound_applied : ∃ sys later view after,
    System.run (fun _ => .sample) OwnIdentity .sample recoverTwice = some sys ∧
    System.run (fun _ => .sample) OwnIdentity sys applySecond = some later ∧
    (rebuild sys.store (sys.caches 0)).1 = .ok view ∧
    (rebuild later.store (later.caches 1)).1 = .ok after ∧ view.recoveries.values.length = 2 ∧
    ∀ one ∈ view.recoveries.values, ∀ two ∈ after.recoveries.values, SameAction one two →
      two.identity.subjectDigest = one.identity.subjectDigest := by
  obtain ⟨sys, ran, later, ranLater, view, read, two, after, readLater, -⟩ :
      ∃ sys, System.run (fun _ => .sample) OwnIdentity .sample recoverTwice = some sys ∧
      ∃ later, System.run (fun _ => .sample) OwnIdentity sys applySecond = some later ∧
      ∃ view, (rebuild sys.store (sys.caches 0)).1 = .ok view ∧ view.recoveries.values.length = 2 ∧
      ∃ after, (rebuild later.store (later.caches 1)).1 = .ok after ∧ True := by decide +kernel
  exact ⟨sys, later, view, after, ran, ranLater, read, readLater, two,
    (recovery_subject_bound (System.sample_reachable.run ran) (Steps.refl.run ranLater) read readLater).2⟩

def RecoveryIdentity.other (generation : Nat) : RecoveryIdentity :=
  { RecoveryIdentity.sample "run" "job" generation with
    subjectDigest := "sha256:1111111111111111111111111111111111111111111111111111111111111111" }

def startSecond : List Label :=
  Label.serve 0 0 (.startObservation ⟨.sample "1" 1, .sample "run" "job" 1⟩) 1 ++
  Label.serve 1 0 (.cancelOrFence ⟨.sample "2" 1, .sample "run" "job" 1, ⟨.canceled, "proof"⟩⟩) 1 ++
  Label.serve 2 0 (.startObservation ⟨.sample "3" 1, .sample "run" "job" 2⟩) 1

def cancelOther : List Label :=
  Label.serve 3 1 (.cancelOrFence ⟨.sample "4" 1, .other 2, ⟨.canceled, "proof"⟩⟩) 1

set_option synthInstance.maxSize 256

/-- The recorded digest of generation 2 changes and differs from that of generation 1. -/
theorem recovery_subject_changed : ∃ sys later view after,
    System.run (fun _ => .sample) (fun _ _ _ => True) .sample startSecond = some sys ∧
    System.run (fun _ => .sample) (fun _ _ _ => True) sys cancelOther = some later ∧
    Reachable (fun _ => .sample) (fun _ _ _ => True) "i" later ∧ (rebuild sys.store (sys.caches 0)).1 = .ok view ∧
    (rebuild later.store (later.caches 1)).1 = .ok after ∧
    (∃ one ∈ view.recoveries.values, ∃ two ∈ after.recoveries.values, SameAction one two ∧
      one.identity.generation = two.identity.generation ∧ one.identity.subjectDigest ≠ two.identity.subjectDigest) ∧
    ¬ OneSubject after.toProjection := by
  obtain ⟨sys, ran, later, ranLater, view, read, after, readLater, ⟨one, held, two, held', changed⟩, first, among,
      other, among', same, apart⟩ :
      ∃ sys, System.run (fun _ => .sample) (fun _ _ _ => True) .sample startSecond = some sys ∧
      ∃ later, System.run (fun _ => .sample) (fun _ _ _ => True) sys cancelOther = some later ∧
      ∃ view, (rebuild sys.store (sys.caches 0)).1 = .ok view ∧
      ∃ after, (rebuild later.store (later.caches 1)).1 = .ok after ∧
        (∃ one ∈ view.recoveries.values, ∃ two ∈ after.recoveries.values, sameChain one.identity two.identity = true ∧
          one.identity.generation = two.identity.generation ∧
          one.identity.subjectDigest ≠ two.identity.subjectDigest) ∧
        ∃ one ∈ after.recoveries.values, ∃ two ∈ after.recoveries.values, sameChain one.identity two.identity = true ∧
          one.identity.subjectDigest ≠ two.identity.subjectDigest := by decide +kernel
  exact ⟨sys, later, view, after, ran, ranLater, (System.sample_reachable.run ran).run ranLater, read, readLater,
    ⟨one, held, two, held', changed⟩, fun bound => apart (bound first among other among' same)⟩

end Paje.Admission
