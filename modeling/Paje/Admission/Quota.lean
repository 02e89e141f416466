import Paje.Admission.System

/-!
Quota safety: services that share a policy never admit more than it allows, whatever they read and
however their commits interleave.
-/

namespace Paje.Admission

open Journal List Table Nat

variable {plan : Plan} {p q : Projection} {value : RunAdmission} {s : Service} {now : Time}

theorem saturatingAdd_toNat (left right : UInt64) :
    (saturatingAdd left right).toNat = min (left.toNat + right.toNat) maxUint64 := by
  have below : left.toNat < 2 ^ 64 := left.toNat_lt
  have small : right.toNat < 2 ^ 64 := right.toNat_lt
  have difference : ((18446744073709551615 : UInt64) - left).toNat = 18446744073709551615 - left.toNat := by
    rw [UInt64.toNat_sub_of_le]
    · rfl
    · rw [UInt64.le_iff_toNat_le]
      show left.toNat ≤ 18446744073709551615
      omega
  unfold saturatingAdd maxUint64
  split
  · rename_i full
    rw [UInt64.lt_iff_toNat_lt, difference] at full
    simp only [UInt64.toNat_ofNat] at full ⊢
    omega
  · rename_i room
    rw [UInt64.lt_iff_toNat_lt, difference] at room
    rw [UInt64.toNat_add]
    omega

theorem saturatingAdd_one (count : UInt64) :
    (saturatingAdd count 1).toNat = min (count.toNat + 1) maxUint64 := saturatingAdd_toNat count 1

def admitted (p : Projection) (counts : RunAdmission → Bool) : Nat :=
  p.admissions.count fun value => value.state = .admitted ∧ counts value

theorem quotaCount_toNat (p : Projection) (counts : RunAdmission → Bool) :
    (quotaCount p counts).toNat = min (admitted p counts) maxUint64 := by
  have fold : ∀ (values : List RunAdmission) (count : UInt64),
      (values.foldl (fun count value => if value.state = .admitted ∧ counts value
        then saturatingAdd count 1 else count) count).toNat =
      min (count.toNat + values.countP fun value => value.state = .admitted ∧ counts value)
        maxUint64 := by
    intro values
    induction values with
    | nil =>
      intro count
      have below : count.toNat < 2 ^ 64 := count.toNat_lt
      simp only [foldl_nil, countP_nil, maxUint64]
      omega
    | cons value rest ih =>
      intro count
      rw [foldl_cons, ih, countP_cons]
      by_cases counted : value.state = .admitted ∧ counts value = true
      · rw [if_pos counted, saturatingAdd_one, if_pos (by simpa using counted)]
        omega
      · rw [if_neg counted, if_neg (by simpa using counted)]
        omega
  have zero := fold p.admissions.values 0
  simpa [quotaCount, admitted, Table.count] using zero

theorem room_of_quotaCount {counts : RunAdmission → Bool} {limit : UInt64}
    (below : quotaCount p counts < limit) : admitted p counts + 1 ≤ limit.toNat := by
  rw [UInt64.lt_iff_toNat_lt, quotaCount_toNat] at below
  have bound : limit.toNat < 2 ^ 64 := limit.toNat_lt
  unfold maxUint64 at below
  omega

variable {request : AdmissionRequest}

theorem limitingQuota_none (free : limitingQuota s p request = .none) :
    quotaCount p (fun _ => true) < s.policy.installationLimit ∧
    quotaCount p (fun value => value.subject.principalID = request.subject.principalID) < s.policy.principalLimit ∧
    quotaCount p (fun value => value.controlRunID = request.controlRunID) < s.policy.runLimit ∧
    quotaCount p (fun value => value.subject.projectID = request.subject.projectID) < s.policy.projectLimit ∧
    quotaCount p (fun value => value.subject.primitive = request.subject.primitive) < s.policy.primitiveLimit := by
  unfold limitingQuota at free
  simp only at free
  split at free
  · rename_i fixture found
    have member := mem_of_find?_eq_some found
    simp only [mem_cons, not_mem_nil, or_false] at member
    rcases member with rfl | rfl | rfl | rfl | rfl <;> cases free
  · rename_i missing
    simpa using missing

theorem admitted_put {key : String} (stored : q.admissions = p.admissions.put key value)
    (waiting : ∀ prior ∈ p.admissions.get? key, prior.state ≠ .admitted) (counts : RunAdmission → Bool) :
    admitted q counts = admitted p counts + if value.state = .admitted ∧ counts value = true then 1 else 0 := by
  unfold admitted
  rw [stored]
  cases found : p.admissions.get? key with
  | none =>
    simpa using count_put_fresh found value
      (fun value => decide (value.state = .admitted ∧ counts value = true))
  | some prior =>
    have before := waiting prior found
    simpa [before] using count_put_held found value
      (fun value => decide (value.state = .admitted ∧ counts value = true))

theorem admitted_put_ended {key : String}
    (stored : q.admissions = p.admissions.put key value) (ended : value.state ≠ .admitted)
    (counts : RunAdmission → Bool) : admitted q counts ≤ admitted p counts := by
  unfold admitted
  rw [stored]
  cases found : p.admissions.get? key with
  | none =>
    have fresh := count_put_fresh found value
      (fun value => decide (value.state = .admitted ∧ counts value = true))
    simp only [ended, false_and, decide_false, Bool.false_eq_true, if_false] at fresh
    omega
  | some prior =>
    have held := count_put_held found value
      (fun value => decide (value.state = .admitted ∧ counts value = true))
    simp only [ended, false_and, decide_false, Bool.false_eq_true, if_false] at held
    omega

structure WithinQuota (policy : Policy) (p : Projection) : Prop where
  installation : admitted p (fun _ => true) ≤ policy.installationLimit.toNat
  principal : ∀ id, admitted p (fun value => value.subject.principalID = id) ≤ policy.principalLimit.toNat
  run : ∀ id, admitted p (fun value => value.controlRunID = id) ≤ policy.runLimit.toNat
  project : ∀ id, admitted p (fun value => value.subject.projectID = id) ≤ policy.projectLimit.toNat
  primitive : ∀ name, admitted p (fun value => value.subject.primitive = name) ≤ policy.primitiveLimit.toNat

theorem WithinQuota.of_le {policy : Policy} (within : WithinQuota policy p)
    (fewer : ∀ counts, admitted q counts ≤ admitted p counts) : WithinQuota policy q where
  installation := (fewer _).trans within.installation
  principal id := (fewer _).trans (within.principal id)
  run id := (fewer _).trans (within.run id)
  project id := (fewer _).trans (within.project id)
  primitive name := (fewer _).trans (within.primitive name)

theorem WithinQuota.more (within : WithinQuota s.policy p)
    (free : limitingQuota s p request = .none) (subject : value.subject = request.subject)
    (run : value.controlRunID = request.controlRunID) (one : ∀ counts : RunAdmission → Bool, admitted q counts =
      admitted p counts + if counts value = true then 1 else 0) : WithinQuota s.policy q := by
  obtain ⟨installation, principal, ofRun, project, primitive⟩ := limitingQuota_none free
  have scope : ∀ {counts limited : RunAdmission → Bool} {limit : UInt64},
      quotaCount p limited < limit → (counts value = true → counts = limited) →
      admitted p counts ≤ limit.toNat → admitted q counts ≤ limit.toNat := by
    intro counts limited limit room same before
    rw [one]
    split
    · rename_i counted
      rw [same counted]
      exact room_of_quotaCount room
    · exact before
  exact {
    installation := scope installation (fun _ => rfl) within.installation
    principal := fun id => scope principal (fun h => by simp_all) (within.principal id)
    run := fun id => scope ofRun (fun h => by simp_all) (within.run id)
    project := fun id => scope project (fun h => by simp_all) (within.project id)
    primitive := fun name => scope primitive (fun h => by simp_all) (within.primitive name) }

/-- The order in which an admission passes its states. -/
def AdmissionState.rank : AdmissionState → Nat
  | .reserved => 0
  | .queued => 1
  | .deferred => 2
  | .admitted => 3
  | .released => 4

/-- What stays of the admissions of `p` in every later projection `q`. -/
def AdmissionLife (p q : Projection) : Prop :=
  ∀ key value, p.admissions.get? key = some value → ∃ last, q.admissions.get? key = some last ∧
    (last = value ∨ value.state ≠ .released ∧ last.subject = value.subject ∧ value.state.rank ≤ last.state.rank)

theorem AdmissionLife.refl (p : Projection) : AdmissionLife p p := fun _ value found => ⟨value, found, .inl rfl⟩

theorem AdmissionLife.trans {r : Projection} (one : AdmissionLife p q) (two : AdmissionLife q r) :
    AdmissionLife p r := by
  intro key value found
  obtain ⟨middle, there, first⟩ := one key value found
  obtain ⟨last, here, second⟩ := two key middle there
  refine ⟨last, here, ?_⟩
  rcases second with rfl | ⟨_, subject, rank⟩
  · exact first
  · rcases first with rfl | ⟨live, same, less⟩
    · exact .inr ⟨‹_›, subject, rank⟩
    · exact .inr ⟨live, subject.trans same, less.trans rank⟩

theorem AdmissionLife.put {key : String} {value : RunAdmission} (stored : q.admissions = p.admissions.put key value)
    (follows : ∀ prior ∈ p.admissions.get? key,
      prior.state ≠ .released ∧ value.subject = prior.subject ∧ prior.state.rank ≤ value.state.rank) :
    AdmissionLife p q := by
  intro other held found
  rw [stored, get?_put]
  split
  · rename_i same
    exact ⟨value, rfl, .inr (follows held (same ▸ found))⟩
  · exact ⟨held, found, .inl rfl⟩

theorem validAdmissionTransition_rank {before after : AdmissionState}
    (valid : validAdmissionTransition before after = true) : before ≠ .released ∧ before.rank ≤ after.rank := by
  revert valid
  cases before <;> cases after <;> decide

section Commits

variable [sha : Sha]

theorem build_admitted {binding : SemanticBinding} {requestDigest : String}
    (built : plan.build s p binding requestDigest now = .ok (.admission value))
    (wanted : wantedAdmission plan.transition.operation value.limitingQuota =
      some (value.state, value.limitingQuota)) (state : value.state = .admitted) :
    ∃ request, limitingQuota s p request = .none ∧ value.subject = request.subject ∧
      plan.transition.controlRunID = request.controlRunID := by
  cases build_ok built with
  | reserve => simp [Plan.transition, wantedAdmission] at wanted state
  | @stateTransition request operation target limiter prior _ subject _ _ free =>
    have admits : operation = .queueAdmit := by
      simp only [Plan.transition] at wanted state
      subst state
      cases operation <;> simp_all [wantedAdmission]
    exact ⟨request, free admits, subject, rfl⟩

theorem Written.admissions {occurredAt : Time}
    {effect : Effect} {entry : Entry} (written : Written s plan now occurredAt p effect entry)
    (absorbed : p.absorb entry = .ok q) : q.admissions = p.admissions ∨
    (∃ value, effect = .admission value ∧
      (∀ prior ∈ p.admissions.get? (scopedID plan.transition.controlRunID value.subject.id),
        prior.subject = value.subject ∧ validAdmissionTransition prior.state value.state = true) ∧
      q.admissions = p.admissions.put (scopedID plan.transition.controlRunID value.subject.id)
        { value with sequence := entry.outcome.journalPosition }) ∨
    ∃ key ended, ended.state = .released ∧ q.admissions = p.admissions.put key ended := by
  obtain ⟨_, _, applied⟩ := written.applied absorbed
  cases applied with
  | admission follows => exact .inr (.inl ⟨_, rfl, follows, rfl⟩)
  | admissionTombstone => exact .inr (.inr ⟨_, _, rfl, rfl⟩)
  | _ => exact .inl rfl

theorem WithinQuota.written {occurredAt : Time} {effect : Effect} {entry : Entry} (within : WithinQuota s.policy p)
    (written : Written s plan now occurredAt p effect entry) (absorbed : p.absorb entry = .ok q) :
    WithinQuota s.policy q := by
  rcases written.admissions absorbed with same | ⟨value, rfl, follows, stored⟩ |
    ⟨key, ended, released, stored⟩
  · exact within.of_le fun counts => by rw [admitted, admitted, same]
  · obtain ⟨run, wanted⟩ := validAdmission written.valid rfl
    have waiting : ∀ prior ∈ p.admissions.get?
        (scopedID plan.transition.controlRunID value.subject.id), prior.state ≠ .admitted := by
      intro prior found state
      have follows := (follows prior found).2
      rw [state] at follows
      cases follows
    have one := admitted_put stored waiting
    by_cases state : value.state = .admitted
    · obtain ⟨request, free, subject, sameRun⟩ := build_admitted written.built wanted state
      refine within.more free
        (show ({ value with sequence := entry.outcome.journalPosition } : RunAdmission).subject = _
          from subject) (run.trans sameRun) fun counts => ?_
      simpa [state] using one counts
    · exact within.of_le fun counts => by simp [one counts, state]
  · exact within.of_le (admitted_put_ended stored (by simp [released]))

/-- Services with one policy admit no more than it allows, in every projection that any of them
reads. -/
theorem admitted_within_quota {svc : Nat → Service} {policy : Policy} {installationID : String}
    {sys : System} (shared : ∀ i, (svc i).policy = policy)
    (reachable : Reachable svc (fun _ _ _ => True) installationID sys) (i : Nat) {view : View}
    (read : (rebuild sys.store (sys.caches i)).1 = .ok view) : WithinQuota policy view.toProjection := by
  obtain ⟨log, sound⟩ := reachable_sound reachable
  refine sound.authored.inv (WithinQuota policy) ?_ ?_ ?_ (sound.rebuild_ok i read).1
  · exact ⟨zero_le _, fun _ => zero_le _, fun _ => zero_le _, fun _ => zero_le _,
      fun _ => zero_le _⟩
  · rintro p entry q within ⟨j, call, plan, now, occurredAt, effect, _, _, written⟩ absorbed
    rw [← shared j] at within ⊢
    exact within.written written absorbed
  · intro p entry q within outside absorbed
    rw [outside.absorbed absorbed]
    exact within.of_le fun _ => le_refl _

theorem AdmissionLife.written {occurredAt : Time} {effect : Effect} {entry : Entry}
    (written : Written s plan now occurredAt p effect entry) (absorbed : p.absorb entry = .ok q) :
    AdmissionLife p q := by
  obtain ⟨_, _, applied⟩ := written.applied absorbed
  cases applied with
  | admission follows _ =>
    refine .put rfl fun prior held => ?_
    obtain ⟨subject, valid⟩ := follows prior held
    obtain ⟨live, rank⟩ := validAdmissionTransition_rank valid
    exact ⟨live, subject.symm, rank⟩
  | @admissionTombstone value prior found live =>
    refine .put rfl fun other held => ?_
    cases found.symm.trans held
    refine ⟨live, rfl, ?_⟩
    show prior.state.rank ≤ 4
    cases prior.state <;> decide
  | _ => exact .refl p

/-- Whatever the services do, an admission that one of them has read keeps its subject and never returns to an
earlier state, and a released one never changes. -/
theorem admission_life {svc : Nat → Service} {installationID : String} {sys later : System}
    (reachable : Reachable svc (fun _ _ _ => True) installationID sys)
    (steps : Steps svc (fun _ _ _ => True) sys later) {i j : Nat} {view after : View}
    (read : (rebuild sys.store (sys.caches i)).1 = .ok view)
    (readLater : (rebuild later.store (later.caches j)).1 = .ok after) :
    AdmissionLife view.toProjection after.toProjection :=
  (reachable.relates steps (fun _ => True) AdmissionLife trivial
    (fun _ _ written absorbed => ⟨trivial, .written written absorbed⟩)
    (fun p _ _ => ⟨trivial, .refl p⟩) AdmissionLife.refl (fun _ _ _ => .trans) read readLater).2.2

end Commits

attribute [local instance] Sha.sample

/-- Two services race for the one place: both read before either commits. -/
def raceForOne : List Label :=
  Label.serve 0 0 (.reserve (.sample "one" "1")) 1 ++ Label.serve 1 1 (.reserve (.sample "two" "2")) 1 ++
  [.submit 2 0 (.admitRun (.sample "one" "3")), .submit 3 1 (.admitRun (.sample "two" "4")),
    .choose 2, .choose 3, .read 2, .read 3, .attempt 2 2 2, .attempt 3 2 2]

theorem admitted_within_quota_race : ∃ sys view,
    System.run (fun _ => .sample) (fun _ _ _ => True) .sample raceForOne = some sys ∧
    (rebuild sys.store (sys.caches 0)).1 = .ok view ∧ admitted view.toProjection (fun _ => true) = 1 ∧
    WithinQuota ⟨1, 1, 1, 1, 1, 1⟩ view.toProjection := by
  obtain ⟨sys, ran, view, read, one⟩ : ∃ sys,
      System.run (fun _ => .sample) (fun _ _ _ => True) .sample raceForOne = some sys ∧
      ∃ view, (rebuild sys.store (sys.caches 0)).1 = .ok view ∧ admitted view.toProjection (fun _ => true) = 1 := by
    decide +kernel
  exact ⟨sys, view, ran, read, one, admitted_within_quota (fun _ => rfl) (System.sample_reachable.run ran) 0 read⟩

theorem admission_life_released : ∃ view after : View,
    after.admissions.count (fun value => value.state = .released) = 1 ∧
    AdmissionLife view.toProjection after.toProjection := by
  obtain ⟨sys, ran, later, ranLater, view, read, after, readLater, one⟩ :
      ∃ sys, System.run (fun _ => .sample) (fun _ _ _ => True) .sample raceForOne = some sys ∧
      ∃ later, System.run (fun _ => .sample) (fun _ _ _ => True) sys
        (Label.serve 4 0 (.release (.sample "one" "5")) 3) = some later ∧
      ∃ view, (rebuild sys.store (sys.caches 0)).1 = .ok view ∧
      ∃ after, (rebuild later.store (later.caches 1)).1 = .ok after ∧
        after.admissions.count (fun value => value.state = .released) = 1 := by decide +kernel
  exact ⟨view, after, one,
    admission_life (System.sample_reachable.run ran) (Steps.refl.run ranLater) read readLater⟩

end Paje.Admission
