import Paje.Admission.System

/-!
Leases: exclusion between the active ones, and the life of each from its acquisition to its
tombstone.
-/

namespace Paje.Admission

open Journal Table

variable {entry : Entry} {p q : Projection} {s : Service} {now occurredAt : Time}
variable {effect : Effect} {plan : Plan}

def Exclusive (p : Projection) : Prop :=
  ∀ key other one two, p.leases.get? key = some one → p.leases.get? other = some two →
    key ≠ other → one.state = .active → two.state = .active →
    one.subject.resource = two.subject.resource →
    one.subject.mode = .shared ∧ two.subject.mode = .shared

def Entombed (p : Projection) : Prop :=
  ∀ key tomb, p.leaseTombs.get? key = some tomb → ∃ lease, p.leases.get? key = some lease ∧ lease.state ≠ .active

/-- How the lease `now` may follow the active lease `before` of the same identity. -/
structure Continues (before now : Lease) : Prop where
  issued : now.issuedAt = before.issuedAt
  original : now.originalRequestDigest = before.originalRequestDigest
  subject : now.subject = before.subject
  grows : now.state = .active → now = before ∨ before.generation < now.generation ∧ before.expiresAt < now.expiresAt

/-- What stays of the leases of `p` in every later projection `q`. -/
structure LeaseLife (p q : Projection) : Prop where
  ended : ∀ key lease, p.leases.get? key = some lease → lease.state ≠ .active → q.leases.get? key = some lease
  tombstones : ∀ key tomb, p.leaseTombs.get? key = some tomb → q.leaseTombs.get? key = some tomb
  active : ∀ key lease, p.leases.get? key = some lease → lease.state = .active →
    ∃ now, q.leases.get? key = some now ∧ Continues lease now

theorem Continues.refl (lease : Lease) : Continues lease lease := ⟨rfl, rfl, rfl, fun _ => .inl rfl⟩

theorem LeaseLife.refl (p : Projection) : LeaseLife p p where
  ended _ _ found _ := found
  tombstones _ _ found := found
  active _ lease found _ := ⟨lease, found, .refl lease⟩

theorem LeaseLife.trans {r : Projection} (one : LeaseLife p q) (two : LeaseLife q r) : LeaseLife p r where
  ended key lease found shut := two.ended key lease (one.ended key lease found shut) shut
  tombstones key tomb found := two.tombstones key tomb (one.tombstones key tomb found)
  active key lease found active := by
    obtain ⟨middle, there, first⟩ := one.active key lease found active
    by_cases still : middle.state = .active
    · obtain ⟨last, here, second⟩ := two.active key middle there still
      refine ⟨last, here, second.issued.trans first.issued, second.original.trans first.original,
        second.subject.trans first.subject, fun alive => ?_⟩
      rcases second.grows alive with rfl | ⟨generation, expiry⟩
      · exact first.grows alive
      · rcases first.grows still with rfl | ⟨generation', expiry'⟩
        · exact .inr ⟨generation, expiry⟩
        · exact .inr ⟨generation'.trans generation, expiry'.trans expiry⟩
    · exact ⟨middle, two.ended key middle there still, first⟩

theorem LeaseLife.of_same (leases : q.leases = p.leases) (tombs : q.leaseTombs = p.leaseTombs) : LeaseLife p q where
  ended key lease found _ := by rw [leases, found]
  tombstones key tomb found := by rw [tombs, found]
  active key lease found _ := ⟨lease, by rw [leases, found], .refl lease⟩

theorem Exclusive.stored {key : String} {value : Lease} (exclusive : Exclusive p)
    (stored : q.leases = p.leases.put key value)
    (alone : ∀ other two, p.leases.get? other = some two → other ≠ key → value.state = .active →
      two.state = .active → value.subject.resource = two.subject.resource →
      value.subject.mode = .shared ∧ two.subject.mode = .shared) : Exclusive q := by
  intro one two first second found found' different active active' resource
  rw [stored, get?_put] at found found'
  split at found
  · rename_i same
    cases found
    rw [if_neg (fun same' => different (same.trans same'.symm))] at found'
    exact alone two second found' (fun same' => different (same.trans same'.symm)) active active'
      resource
  · rename_i other
    split at found'
    · cases found'
      exact (alone one first found other active' active resource.symm).symm
    · exact exclusive one two first second found found' different active active' resource

section Commits

variable [sha : Sha]

/-- What an accepted commit can do to the leases: nothing, store a fresh or renewed lease, or end an
active one. -/
theorem Written.leases (written : Written s plan now occurredAt p effect entry)
    (absorbed : p.absorb entry = .ok q) : (q.leases = p.leases ∧ q.leaseTombs = p.leaseTombs) ∨
    (∃ value, effect = .lease value ∧ value.state = .active ∧
      (∀ prior ∈ p.leases.get? (scopedID plan.transition.controlRunID value.subject.id), Renews prior value) ∧
      q.leases = p.leases.put (scopedID plan.transition.controlRunID value.subject.id) value ∧
      q.leaseTombs = p.leaseTombs) ∨ ∃ key prior ended tomb, p.leases.get? key = some prior ∧ prior.state = .active ∧
      ended.state ≠ .active ∧ Continues prior ended ∧
      q.leases = p.leases.put key ended ∧ q.leaseTombs = p.leaseTombs.put key tomb := by
  obtain ⟨_, _, applied⟩ := written.applied absorbed
  cases applied with
  | lease renews active => exact .inr (.inl ⟨_, rfl, active, renews, rfl, rfl⟩)
  | @leaseTombstone value prior _ found _ ends =>
    obtain ⟨active, _, _, terminal, _⟩ := ends
    have shut : value.state ≠ .active := by
      rcases terminal with state | state <;> simp [state]
    exact .inr (.inr ⟨_, prior, prior.endedBy value, value, found, active, shut,
      ⟨rfl, rfl, rfl, fun alive => (shut alive).elim⟩, rfl, rfl⟩)
  | _ => exact .inl ⟨rfl, rfl⟩

theorem build_lease_free {binding : SemanticBinding} {requestDigest : String} {value : Lease}
    (built : plan.build s p binding requestDigest now = .ok (.lease value))
    (fresh : p.leases.get? (scopedID plan.transition.controlRunID value.subject.id) = none) :
    ¬ conflictingLease p plan.transition.controlRunID value.subject := by
  cases build_ok built with
  | acquireLease _ free => exact free
  | renewLease found subject =>
    rw [subject] at fresh
    cases fresh.symm.trans found

theorem Exclusive.written (exclusive : Exclusive p)
    (written : Written s plan now occurredAt p effect entry) (absorbed : p.absorb entry = .ok q) : Exclusive q := by
  rcases written.leases absorbed with ⟨same, _⟩ | ⟨value, rfl, _, renews, stored, _⟩ |
    ⟨key, prior, ended, tomb, _, _, shut, _, stored, _⟩
  · intro one two
    rw [same]
    exact exclusive one two
  · refine exclusive.stored stored fun other two found different active active' resource => ?_
    cases held : p.leases.get? (scopedID plan.transition.controlRunID value.subject.id) with
    | none =>
      have free := build_lease_free written.built held
      have shared : ∀ mode : LeaseMode, mode ≠ .exclusive → mode = .shared := by
        intro mode different
        cases mode <;> trivial
      refine ⟨shared _ fun mode => free ?_, shared _ fun mode => free ?_⟩
      · exact ⟨⟨other, two⟩, mem_entries.mpr found, active', different, resource.symm, .inr mode⟩
      · exact ⟨⟨other, two⟩, mem_entries.mpr found, active', different, resource.symm, .inl mode⟩
    | some prior =>
      obtain ⟨subject, alive, _⟩ := renews prior held
      rw [← subject] at resource ⊢
      exact exclusive _ other prior two held found (Ne.symm different) alive active' resource
  · exact exclusive.stored stored fun _ _ _ _ active _ _ => (shut active).elim

theorem Entombed.written (entombed : Entombed p)
    (written : Written s plan now occurredAt p effect entry) (absorbed : p.absorb entry = .ok q) :
    Entombed q ∧ LeaseLife p q := by
  rcases written.leases absorbed with ⟨same, tombs⟩ | ⟨value, rfl, active, renews, stored, tombs⟩ |
    ⟨key, prior, ended, tomb, found, alive, shut, continues, stored, tombs⟩
  · refine ⟨fun key tomb found => ?_, .of_same same tombs⟩
    rw [same]
    exact entombed key tomb (tombs ▸ found)
  · -- an ended identity takes no lease again: a held one must be active to be renewed
    have keep : ∀ key lease, p.leases.get? key = some lease → lease.state ≠ .active →
        q.leases.get? key = some lease := by
      intro key lease held shut
      rw [stored, get?_put, if_neg, held]
      rintro rfl
      exact shut (renews lease held).2.1
    refine ⟨fun key tomb found => ?_, keep, fun key tomb found => by rw [tombs, found], ?_⟩
    · obtain ⟨lease, held, shut⟩ := entombed key tomb (tombs ▸ found)
      exact ⟨lease, keep key lease held shut, shut⟩
    · intro key lease held alive
      rw [stored, get?_put]
      split
      · rename_i same
        obtain ⟨subject, _, _, generation, original, issued, expiry⟩ := renews lease (same ▸ held)
        exact ⟨value, rfl, issued, original, subject.symm, fun _ => .inr ⟨generation, expiry⟩⟩
      · exact ⟨lease, held, .refl lease⟩
  · have fresh : p.leaseTombs.get? key = none := by
      cases present : p.leaseTombs.get? key with
      | none => rfl
      | some tomb =>
        obtain ⟨lease, held, ended⟩ := entombed key tomb present
        cases held.symm.trans found
        exact (ended alive).elim
    have keep : ∀ other lease, p.leases.get? other = some lease → lease.state ≠ .active →
        q.leases.get? other = some lease := by
      intro other lease held shut
      rw [stored, get?_put, if_neg, held]
      rintro rfl
      cases held.symm.trans found
      exact shut alive
    refine ⟨fun other tomb' present => ?_, keep, fun other tomb' present => ?_, ?_⟩
    · rw [tombs, get?_put] at present
      split at present
      · rename_i same
        exact ⟨ended, by rw [stored, same, get?_put_self], shut⟩
      · obtain ⟨lease, held, ended⟩ := entombed other tomb' present
        exact ⟨lease, keep other lease held ended, ended⟩
    · rw [tombs, get?_put, if_neg, present]
      rintro rfl
      cases fresh.symm.trans present
    · intro other lease held active
      rw [stored, get?_put]
      split
      · rename_i same
        cases (same ▸ held).symm.trans found
        exact ⟨ended, rfl, continues⟩
      · exact ⟨lease, held, .refl lease⟩

/-- Lease exclusion holds in every projection that a service reads, and whatever a service reads
later continues the leases and tombstones read before. -/
theorem lease_exclusion {svc : Nat → Service} {installationID : String} {sys later : System}
    (reachable : Reachable svc (fun _ _ _ => True) installationID sys)
    (steps : Steps svc (fun _ _ _ => True) sys later) {i j : Nat} {view after : View}
    (read : (rebuild sys.store (sys.caches i)).1 = .ok view)
    (readLater : (rebuild later.store (later.caches j)).1 = .ok after) :
    Exclusive view.toProjection ∧ LeaseLife view.toProjection after.toProjection := by
  obtain ⟨⟨exclusive, _⟩, _, life⟩ := reachable.relates steps (fun p => Exclusive p ∧ Entombed p) LeaseLife
    ⟨(fun _ _ _ _ found => nomatch found), (fun _ _ found => nomatch found)⟩
    (fun held _ written absorbed => by
      obtain ⟨entombed, life⟩ := held.2.written written absorbed
      exact ⟨⟨held.1.written written absorbed, entombed⟩, life⟩)
    (fun _ _ held => ⟨held, .of_same rfl rfl⟩) LeaseLife.refl (fun _ _ _ => .trans) read readLater
  exact ⟨exclusive, life⟩

end Commits

attribute [local instance] Sha.sample

def shareOne : List Label :=
  Label.serve 0 0 (.acquireLease (.sample "one" "1" 1 10)) 1 ++
    Label.serve 1 1 (.acquireLease (.sample "two" "2" 1 10)) 1

def renewAndRelease : List Label :=
  Label.serve 2 0 (.renewLease (.sample "one" "3" 2 20)) 2 ++
    Label.serve 3 1 (.releaseLease (.sample "two" "4" 1 10)) 3

theorem lease_exclusion_shared : ∃ sys later view after,
    System.run (fun _ => .sample) (fun _ _ _ => True) .sample shareOne = some sys ∧
    System.run (fun _ => .sample) (fun _ _ _ => True) sys renewAndRelease = some later ∧
    (rebuild sys.store (sys.caches 0)).1 = .ok view ∧ (rebuild later.store (later.caches 1)).1 = .ok after ∧
    view.leases.count (fun lease => lease.state = .active) = 2 ∧
    after.leases.count (fun lease => lease.state = .active ∧ lease.generation = 2) = 1 ∧
    Exclusive view.toProjection ∧ LeaseLife view.toProjection after.toProjection := by
  obtain ⟨sys, ran, later, ranLater, view, read, two, after, readLater, one⟩ :
      ∃ sys, System.run (fun _ => .sample) (fun _ _ _ => True) .sample shareOne = some sys ∧
      ∃ later, System.run (fun _ => .sample) (fun _ _ _ => True) sys renewAndRelease = some later ∧
      ∃ view, (rebuild sys.store (sys.caches 0)).1 = .ok view ∧
        view.leases.count (fun lease => lease.state = .active) = 2 ∧
      ∃ after, (rebuild later.store (later.caches 1)).1 = .ok after ∧
        after.leases.count (fun lease => lease.state = .active ∧ lease.generation = 2) = 1 := by decide +kernel
  have reachable := System.sample_reachable.run ran
  exact ⟨sys, later, view, after, ran, ranLater, read, readLater, two, one,
    lease_exclusion reachable (Steps.refl.run ranLater) read readLater⟩

end Paje.Admission
