import Paje.Admission.System

/-!
Recoveries: the generations of one action form a chain in which only the last one is open.
-/

namespace Paje.Admission

open Text Journal List Table Nat

variable {p q : Projection} {one two value : RecoveryRecord} {s : Service} {now : Time}

theorem latest_fold (identity : RecoveryIdentity) (records : List RecoveryRecord) (latest : Option RecoveryRecord) :
    (∀ best ∈ records.foldl (laterRecovery identity) latest, some best = latest ∨
      best ∈ records ∧ sameChain best.identity identity = true) ∧
    (∀ record, some record = latest ∨ record ∈ records ∧ sameChain record.identity identity = true →
      ∃ best ∈ records.foldl (laterRecovery identity) latest,
        record.identity.generation ≤ best.identity.generation) := by
  induction records generalizing latest with
  | nil =>
    refine ⟨fun best found => .inl found.symm, ?_⟩
    rintro record (held | ⟨absent, _⟩)
    · exact ⟨record, held.symm, le_refl _⟩
    · cases absent
  | cons candidate rest ih =>
    obtain ⟨among, above⟩ := ih (laterRecovery identity latest candidate)
    have picked : ∀ best ∈ laterRecovery identity latest candidate, some best = latest ∨
        best = candidate ∧ sameChain candidate.identity identity = true := by
      intro best found
      unfold laterRecovery at found
      repeat' split at found
      all_goals cases found
      all_goals simp_all
    have kept : ∀ record, some record = latest ∨ record = candidate ∧ sameChain candidate.identity identity = true →
        ∃ best ∈ laterRecovery identity latest candidate, record.identity.generation ≤ best.identity.generation := by
      rintro record (rfl | ⟨rfl, chain⟩)
      · unfold laterRecovery
        split
        · dsimp only
          split
          · exact ⟨candidate, rfl, by omega⟩
          · exact ⟨record, rfl, le_refl _⟩
        · exact ⟨record, rfl, le_refl _⟩
      · unfold laterRecovery
        rw [if_pos chain]
        cases latest with
        | none => exact ⟨record, rfl, le_refl _⟩
        | some best =>
          dsimp only
          split
          · exact ⟨record, rfl, le_refl _⟩
          · exact ⟨best, rfl, by omega⟩
    rw [foldl_cons]
    refine ⟨fun best found => ?_, fun record held => ?_⟩
    · rcases among best found with middle | ⟨member, chain⟩
      · rcases picked best middle.symm with old | ⟨rfl, chain⟩
        · exact .inl old
        · exact .inr ⟨mem_cons_self, chain⟩
      · exact .inr ⟨mem_cons_of_mem _ member, chain⟩
    · have reach : ∀ record, some record = latest ∨
          record = candidate ∧ sameChain candidate.identity identity = true →
          ∃ best ∈ rest.foldl (laterRecovery identity) (laterRecovery identity latest candidate),
            record.identity.generation ≤ best.identity.generation := by
        intro record held
        obtain ⟨middle, found, below⟩ := kept record held
        obtain ⟨best, last, above⟩ := above middle (.inl found.symm)
        exact ⟨best, last, below.trans above⟩
      rcases held with old | ⟨member, chain⟩
      · exact reach record (.inl old)
      · rcases mem_cons.mp member with rfl | member
        · exact reach record (.inr ⟨rfl, chain⟩)
        · exact above record (.inr ⟨member, chain⟩)

variable {identity : RecoveryIdentity}

theorem latestRecovery_mem {latest : RecoveryRecord}
    (found : latestRecovery p identity = some latest) :
    latest ∈ p.recoveries.values ∧ sameChain latest.identity identity = true := by
  rcases (latest_fold identity p.recoveries.values none).1 latest found with absent | here
  · cases absent
  · exact here

theorem latestRecovery_ge {record : RecoveryRecord}
    (held : record ∈ p.recoveries.values) (chain : sameChain record.identity identity = true) :
    ∃ latest, latestRecovery p identity = some latest ∧ record.identity.generation ≤ latest.identity.generation :=
  (latest_fold identity p.recoveries.values none).2 record (.inr ⟨held, chain⟩)

theorem sameChain_iff {one two : RecoveryIdentity} : sameChain one two = true ↔
    one.installationID = two.installationID ∧ one.controlRunID = two.controlRunID ∧ one.actionID = two.actionID := by
  simp [sameChain]

def SameAction (one two : RecoveryRecord) : Prop := sameChain one.identity two.identity = true

theorem SameAction.symm (h : SameAction one two) : SameAction two one := by
  obtain ⟨installation, run, action⟩ := sameChain_iff.mp h
  exact sameChain_iff.mpr ⟨installation.symm, run.symm, action.symm⟩

theorem SameAction.trans {three : RecoveryRecord} (h : SameAction one two)
    (h' : SameAction two three) : SameAction one three := by
  obtain ⟨installation, run, action⟩ := sameChain_iff.mp h
  obtain ⟨installation', run', action'⟩ := sameChain_iff.mp h'
  exact sameChain_iff.mpr ⟨installation.trans installation', run.trans run', action.trans action'⟩

/-- The generations of an action are consecutive, and all but the last are closed. -/
structure Generations (p : Projection) : Prop where
  consecutive : ∀ one ∈ p.recoveries.values, ∀ two ∈ p.recoveries.values, SameAction one two →
    ∀ generation, one.identity.generation ≤ generation → generation ≤ two.identity.generation →
    ∃ record ∈ p.recoveries.values, SameAction record one ∧ record.identity.generation = generation
  superseded : ∀ one ∈ p.recoveries.values, ∀ two ∈ p.recoveries.values, SameAction one two →
    one.identity.generation < two.identity.generation →
    one.state = .canceled ∨ one.state = .notPerformed

/-- Each generation is recorded once, and one of an action at most is applied. -/
structure Fenced (p : Projection) : Prop extends Generations p where
  once : ∀ one ∈ p.recoveries.values, ∀ two ∈ p.recoveries.values, SameAction one two →
    one.identity.generation = two.identity.generation → one = two
  applied : ∀ one ∈ p.recoveries.values, ∀ two ∈ p.recoveries.values, SameAction one two →
    one.state = .applied → two.state = .applied → one = two

/-- What stays of the recoveries of `p` in every later projection `q`. -/
structure RecoveryLife (p q : Projection) : Prop where
  superseded : ∀ one ∈ p.recoveries.values, ∀ two ∈ p.recoveries.values, SameAction one two →
    one.identity.generation < two.identity.generation → one ∈ q.recoveries.values
  applied : ∀ one ∈ p.recoveries.values, one.state = .applied → one ∈ q.recoveries.values ∧
    ∀ two ∈ q.recoveries.values, SameAction two one → two.identity.generation ≤ one.identity.generation

/-- The invariant behind `Fenced`: records are stored under their own index. -/
structure Chained (p : Projection) : Prop extends Generations p where
  keyed : ∀ key record, p.recoveries.get? key = some record → key = recoveryIndex record.identity
  installed : ∀ record ∈ p.recoveries.values, record.identity.installationID = p.installationID

theorem Chained.once (chained : Chained p)
    (held : one ∈ p.recoveries.values) (held' : two ∈ p.recoveries.values) (same : SameAction one two)
    (generation : one.identity.generation = two.identity.generation) : one = two := by
  obtain ⟨key, found⟩ := mem_values.mp held
  obtain ⟨key', found'⟩ := mem_values.mp held'
  obtain ⟨installation, run, action⟩ := sameChain_iff.mp same
  have index : key = key' := by
    rw [chained.keyed key one found, chained.keyed key' two found']
    simp only [recoveryIndex, installation, run, action, generation]
  rw [index, found'] at found
  exact (Option.some.inj found).symm

theorem Chained.fenced (chained : Chained p) : Fenced p where
  toGenerations := chained.toGenerations
  once _ held _ held' := chained.once held held'
  applied one held two held' same state state' := by
    -- an applied generation is not superseded, so both are the last one
    refine chained.once held held' same ?_
    rcases lt_trichotomy one.identity.generation two.identity.generation with below | equal | above
    · rcases chained.superseded one held two held' same below with other | other <;>
        rw [state] at other <;> cases other
    · exact equal
    · rcases chained.superseded two held' one held same.symm above with other | other <;>
        rw [state'] at other <;> cases other

theorem Chained.start (chained : Chained p) (fresh : p.recoveries.get? (recoveryIndex value.identity) = none)
    (may : mayStart (latestRecovery p value.identity) value.identity)
    (installed : value.identity.installationID = p.installationID)
    (installation : q.installationID = p.installationID)
    (stored : q.recoveries = p.recoveries.put (recoveryIndex value.identity) value) : Chained q := by
  have members : ∀ record, record ∈ q.recoveries.values ↔ record = value ∨ record ∈ p.recoveries.values := by
    intro record
    rw [mem_values, stored]
    constructor
    · rintro ⟨key, found⟩
      rw [get?_put] at found
      split at found
      · exact .inl (Option.some.inj found).symm
      · exact .inr (mem_values.mpr ⟨key, found⟩)
    · rintro (rfl | old)
      · exact ⟨_, get?_put_self ..⟩
      · obtain ⟨key, found⟩ := mem_values.mp old
        refine ⟨key, ?_⟩
        rw [get?_put, if_neg, found]
        rintro rfl
        cases fresh.symm.trans found
  -- the latest generation of the chain is closed and just below the new one
  have before : ∀ record ∈ p.recoveries.values, SameAction record value →
      ∃ latest ∈ p.recoveries.values, SameAction latest value ∧
        record.identity.generation ≤ latest.identity.generation ∧
        value.identity.generation = latest.identity.generation + 1 ∧
        (latest.state = .canceled ∨ latest.state = .notPerformed) := by
    intro record held same
    obtain ⟨latest, found, below⟩ := latestRecovery_ge held same
    obtain ⟨_, _, next, closed⟩ := may latest found
    obtain ⟨there, chain⟩ := latestRecovery_mem found
    exact ⟨latest, there, chain, below, next, closed⟩
  refine ⟨⟨?_, ?_⟩, ?_, ?_⟩
  · intro one held two held' same generation low high
    rcases (members one).mp held with rfl | old
    · rcases (members two).mp held' with rfl | old'
      · exact ⟨two, held', same, by omega⟩
      · obtain ⟨latest, _, _, below, next, _⟩ := before two old' same.symm
        omega
    · rcases (members two).mp held' with rfl | old'
      · obtain ⟨latest, there, chain, _, next, _⟩ := before one old same
        by_cases last : generation = two.identity.generation
        · exact ⟨two, held', same.symm, last.symm⟩
        · obtain ⟨record, held, chain, exactly⟩ := chained.consecutive one old latest there
            (same.trans chain.symm) generation low (by omega)
          exact ⟨record, (members record).mpr (.inr held), chain, exactly⟩
      · obtain ⟨record, held, chain, exactly⟩ :=
          chained.consecutive one old two old' same generation low high
        exact ⟨record, (members record).mpr (.inr held), chain, exactly⟩
  · intro one held two held' same lower
    rcases (members one).mp held with rfl | old
    · rcases (members two).mp held' with rfl | old'
      · omega
      · obtain ⟨latest, _, _, below, next, _⟩ := before two old' same.symm
        omega
    · rcases (members two).mp held' with rfl | old'
      · obtain ⟨latest, there, chain, below, next, closed⟩ := before one old same
        by_cases last : one.identity.generation = latest.identity.generation
        · rw [chained.once old there (same.trans chain.symm) last]
          exact closed
        · exact chained.superseded one old latest there (same.trans chain.symm) (by omega)
      · exact chained.superseded one old two old' same lower
  · intro key record found
    rw [stored, get?_put] at found
    split at found
    · rename_i same
      rw [same, Option.some.inj found]
    · exact chained.keyed key record found
  · intro record held
    rw [installation]
    rcases (members record).mp held with rfl | old
    · exact installed
    · exact chained.installed record old

variable {prior : RecoveryRecord}

theorem Chained.update (chained : Chained p)
    (found : p.recoveries.get? (recoveryIndex value.identity) = some prior)
    (latest : ∀ record ∈ latestRecovery p value.identity, record.identity.generation ≤ value.identity.generation)
    (own : SameAction prior value) (installation : q.installationID = p.installationID)
    (stored : q.recoveries = p.recoveries.put (recoveryIndex value.identity) value) : Chained q := by
  have there : prior ∈ p.recoveries.values := mem_values.mpr ⟨_, found⟩
  obtain ⟨installed, run, action⟩ := sameChain_iff.mp own
  have generation : prior.identity.generation = value.identity.generation := by
    have index := chained.keyed _ prior found
    simp only [recoveryIndex, installed, run, action] at index
    exact (toString_nat_inj (append_left_cancel index)).symm
  have new : ∀ record ∈ q.recoveries.values, record = value ∨ record ∈ p.recoveries.values := by
    intro record held
    rw [mem_values, stored] at held
    obtain ⟨key, held⟩ := held
    rw [get?_put] at held
    split at held
    · exact .inl (Option.some.inj held).symm
    · exact .inr (mem_values.mpr ⟨key, held⟩)
  have kept : ∀ record ∈ p.recoveries.values, ∃ now ∈ q.recoveries.values, SameAction now record ∧
      now.identity.generation = record.identity.generation := by
    intro record held
    obtain ⟨key, held⟩ := mem_values.mp held
    by_cases same : key = recoveryIndex value.identity
    · rw [same, found] at held
      cases held
      exact ⟨value, mem_values.mpr ⟨_, by rw [stored, get?_put_self]⟩, own.symm, generation.symm⟩
    · exact ⟨record, mem_values.mpr ⟨key, by rw [stored, get?_put_other _ _ same, held]⟩,
        sameChain_iff.mpr ⟨rfl, rfl, rfl⟩, rfl⟩
  -- every record of the new table stands for one of the same generation in the old one
  have old : ∀ record ∈ q.recoveries.values, ∃ before ∈ p.recoveries.values,
      SameAction before record ∧ before.identity.generation = record.identity.generation := by
    intro record held
    rcases new record held with rfl | old
    · exact ⟨prior, there, own, generation⟩
    · exact ⟨record, old, sameChain_iff.mpr ⟨rfl, rfl, rfl⟩, rfl⟩
  refine ⟨⟨?_, ?_⟩, ?_, ?_⟩
  · intro one held two held' same generation low high
    obtain ⟨one', mine, chain, low'⟩ := old one held
    obtain ⟨two', yours, chain', high'⟩ := old two held'
    obtain ⟨record, middle, link, exactly⟩ := chained.consecutive one' mine two' yours
      ((chain.trans same).trans chain'.symm) generation (by omega) (by omega)
    obtain ⟨now, here, link', exactly'⟩ := kept record middle
    exact ⟨now, here, (link'.trans link).trans chain, exactly'.trans exactly⟩
  · intro one held two held' same lower
    obtain ⟨two', yours, chain', high'⟩ := old two held'
    rcases new one held with rfl | before
    · obtain ⟨last, found', above⟩ := latestRecovery_ge yours (chain'.trans same.symm)
      have bound := latest last found'
      omega
    · exact chained.superseded one before two' yours (same.trans chain'.symm) (by omega)
  · intro key record held
    rw [stored, get?_put] at held
    split at held
    · rename_i same
      rw [same, Option.some.inj held]
    · exact chained.keyed key record held
  · intro record held
    rw [installation]
    rcases new record held with rfl | old
    · rw [← installed]
      exact chained.installed prior there
    · exact chained.installed record old

def Closed (record : RecoveryRecord) : Prop :=
  record.state ≠ .observationStarted ∧ record.state ≠ .effectObserved

def KeepsClosed (p q : Projection) : Prop :=
  ∀ record ∈ p.recoveries.values, Closed record → record ∈ q.recoveries.values

theorem not_closed (follows : validRecoveryTransition prior.state value.state = true) : ¬ Closed prior := by
  rintro ⟨started, observed⟩
  revert follows started observed
  cases prior.state <;> simp [validRecoveryTransition]

theorem KeepsClosed.stored {key : String} (stored : q.recoveries = p.recoveries.put key value)
    (running : ∀ prior ∈ p.recoveries.get? key, ¬ Closed prior) : KeepsClosed p q := by
  intro record held closed
  obtain ⟨key', found⟩ := mem_values.mp held
  refine mem_values.mpr ⟨key', ?_⟩
  rw [stored, get?_put, if_neg, found]
  rintro rfl
  exact running record found closed

theorem Chained.life (chained : Chained p) (chainedLater : Chained q)
    (keeps : KeepsClosed p q) : RecoveryLife p q where
  superseded one held two held' same lower := by
    refine keeps one held ?_
    rcases chained.superseded one held two held' same lower with state | state <;>
      simp [Closed, state]
  applied one held state := by
    have stays := keeps one held (by simp [Closed, state])
    refine ⟨stays, fun two held' same => ?_⟩
    by_contra above
    have lower : one.identity.generation < two.identity.generation := by omega
    rcases chainedLater.superseded one stays two held' same.symm lower with other | other <;>
      rw [state] at other <;> cases other

/-- A fence, or a fact that a scanner applies, finds under the index of its identity no record of
another run or action. -/
def OwnRecord (plan : Plan) (p : Projection) (_now : Time) : Prop :=
  match plan with
  | .cancelOrFence ⟨_, identity, _⟩ _ | .scannerApply ⟨_, identity, _, _⟩ =>
    ∀ prior ∈ p.recoveries.get? (recoveryIndex (normalized p identity)),
      prior.identity.controlRunID = identity.controlRunID ∧ prior.identity.actionID = identity.actionID
  | _ => True

instance (plan : Plan) (p : Projection) (now : Time) : Decidable (OwnRecord plan p now) := by
  unfold OwnRecord
  split <;> infer_instance

section Commits

variable [sha : Sha] {plan : Plan}

/-- What an accepted commit can do to the recoveries: nothing, start a generation, or close the
latest one of a chain. -/
theorem Written.recoveries {occurredAt : Time}
    {effect : Effect} {entry : Entry} (written : Written s plan now occurredAt p effect entry)
    (absorbed : p.absorb entry = .ok q) : q.recoveries = p.recoveries ∨ ∃ value, effect = .recovery value ∧
      q.recoveries = p.recoveries.put (recoveryIndex value.identity) value ∧
      (∀ prior ∈ p.recoveries.get? (recoveryIndex value.identity), (∀ record ∈ latestRecovery p value.identity,
          record.identity.generation ≤ value.identity.generation) ∧
        validRecoveryTransition prior.state value.state = true) ∧
      (p.recoveries.get? (recoveryIndex value.identity) = none →
        mayStart (latestRecovery p value.identity) value.identity) := by
  obtain ⟨_, _, applied⟩ := written.applied absorbed
  cases applied with
  | recovery follows starts => exact .inr ⟨_, rfl, rfl, follows, fun absent => (starts absent).2⟩
  | _ => exact .inl rfl

theorem build_recovery {binding : SemanticBinding} {requestDigest : String} (own : OwnRecord plan p now)
    (built : plan.build s p binding requestDigest now = .ok (.recovery value)) :
    value.identity.installationID = p.installationID ∧ ∀ prior ∈ p.recoveries.get? (recoveryIndex value.identity),
      prior.identity.controlRunID = value.identity.controlRunID ∧
        prior.identity.actionID = value.identity.actionID := by
  cases build_ok built with
  | startObservation fresh => exact ⟨rfl, fun prior found => nomatch fresh.symm.trans found⟩
  | cancelOrFence => exact ⟨rfl, own⟩
  | scannerApply => exact ⟨rfl, own⟩

theorem Chained.written {occurredAt : Time}
    {effect : Effect} {entry : Entry} (chained : Chained p) (own : OwnRecord plan p now)
    (written : Written s plan now occurredAt p effect entry) (absorbed : p.absorb entry = .ok q) :
    Chained q ∧ KeepsClosed p q := by
  have installation := (absorb_frame absorbed).1
  rcases written.recoveries absorbed with same | ⟨value, rfl, stored, follows, starts⟩
  · obtain ⟨⟨consecutive, superseded⟩, keyed, installed⟩ := chained
    rw [← same] at keyed installed consecutive superseded
    rw [← installation] at installed
    refine ⟨⟨⟨consecutive, superseded⟩, keyed, installed⟩, fun record held _ => ?_⟩
    rwa [same]
  · obtain ⟨installed, mine⟩ := build_recovery own written.built
    refine ⟨?_, .stored stored fun prior found => not_closed (follows prior found).2⟩
    cases found : p.recoveries.get? (recoveryIndex value.identity) with
    | none => exact chained.start found (starts found) installed installation stored
    | some prior =>
      have there := chained.installed prior (mem_values.mpr ⟨_, found⟩)
      obtain ⟨run, action⟩ := mine prior found
      exact chained.update found (follows prior found).1
        (sameChain_iff.mpr ⟨there.trans installed.symm, run, action⟩) installation stored

/-- Runs in which no fence or fact lands on the record of another action keep every chain fenced,
and keep superseded and applied generations for ever. -/
theorem recovery_fenced {svc : Nat → Service} {installationID : String} {sys later : System}
    (reachable : Reachable svc OwnRecord installationID sys) (steps : Steps svc OwnRecord sys later)
    {i j : Nat} {view after : View} (read : (rebuild sys.store (sys.caches i)).1 = .ok view)
    (readLater : (rebuild later.store (later.caches j)).1 = .ok after) :
    Fenced view.toProjection ∧ RecoveryLife view.toProjection after.toProjection := by
  obtain ⟨chained, chainedLater, keeps⟩ := reachable.relates steps Chained KeepsClosed
    ⟨⟨(fun _ held => nomatch held), (fun _ held => nomatch held)⟩, (fun _ _ found => nomatch found),
      (fun _ held => nomatch held)⟩
    (fun chained careful written absorbed => chained.written careful written absorbed)
    (fun _ _ chained => ⟨⟨⟨chained.1.1, chained.1.2⟩, chained.2, chained.3⟩, fun _ held _ => held⟩)
    (fun _ _ held _ => held) (fun _ _ _ one two record held closed => two record (one record held closed) closed)
    read readLater
  exact ⟨chained.fenced, chained.life chainedLater keeps⟩

end Commits

attribute [local instance] Sha.sample

/-- Two generations of one action: the first is fenced as not performed, the second applied. -/
def recoverTwice : List Label :=
  Label.serve 0 0 (.startObservation ⟨.sample "1" 1, .sample "run" "job" 1⟩) 1 ++
  Label.serve 1 1 (.cancelOrFence ⟨.sample "2" 1, .sample "run" "job" 1, ⟨.notPerformed, "proof"⟩⟩) 1 ++
  Label.serve 2 0 (.startObservation ⟨.sample "3" 1, .sample "run" "job" 2⟩) 1

def applySecond : List Label :=
  Label.serve 3 1 (.scannerApply ⟨.sample "4" 1, .sample "run" "job" 2, "scanner",
    ⟨.effectObserved, "fact", (RecoveryIdentity.sample "run" "job" 2).subjectDigest⟩⟩) 1

theorem recovery_fenced_applied : ∃ sys later view after,
    System.run (fun _ => .sample) OwnRecord .sample recoverTwice = some sys ∧
    System.run (fun _ => .sample) OwnRecord sys applySecond = some later ∧
    (rebuild sys.store (sys.caches 0)).1 = .ok view ∧ (rebuild later.store (later.caches 1)).1 = .ok after ∧
    view.recoveries.count (fun record => record.state = .notPerformed) = 1 ∧
    after.recoveries.count (fun record => record.state = .applied) = 1 ∧
    Fenced view.toProjection ∧ RecoveryLife view.toProjection after.toProjection := by
  obtain ⟨sys, ran, later, ranLater, view, read, one, after, readLater, applied⟩ :
      ∃ sys, System.run (fun _ => .sample) OwnRecord .sample recoverTwice = some sys ∧
      ∃ later, System.run (fun _ => .sample) OwnRecord sys applySecond = some later ∧
      ∃ view, (rebuild sys.store (sys.caches 0)).1 = .ok view ∧
        view.recoveries.count (fun record => record.state = .notPerformed) = 1 ∧
      ∃ after, (rebuild later.store (later.caches 1)).1 = .ok after ∧
        after.recoveries.count (fun record => record.state = .applied) = 1 := by decide +kernel
  exact ⟨sys, later, view, after, ran, ranLater, read, readLater, one, applied,
    recovery_fenced (System.sample_reachable.run ran) (Steps.refl.run ranLater) read readLater⟩

/-- The index joins run and action with a NUL and both may contain one: the fence of action
`b NUL c` of run `a` lands on the record of action `c` of run `a NUL b`. -/
def fenceAcrossRuns : List Label :=
  Label.serve 0 0 (.startObservation ⟨.sample "1" 1, .sample "a" "b\x00c" 1⟩) 1 ++
  Label.serve 1 0 (.startObservation ⟨.sample "2" 1, .sample "a\x00b" "c" 2⟩) 1 ++
  Label.serve 2 0 (.cancelOrFence ⟨.sample "3" 1, .sample "a" "b\x00c" 2, ⟨.canceled, "proof"⟩⟩) 1

/-- Generation 1 of the action stays open below a recorded generation 2. -/
theorem recovery_not_fenced : ∃ sys view,
    System.run (fun _ => .sample) (fun _ _ _ => True) .sample fenceAcrossRuns = some sys ∧
    Reachable (fun _ => .sample) (fun _ _ _ => True) "i" sys ∧
    (rebuild sys.store (sys.caches 0)).1 = .ok view ∧ ¬ Fenced view.toProjection := by
  obtain ⟨sys, ran, view, read, one, held, two, held', same, lower, started⟩ :
      ∃ sys, System.run (fun _ => .sample) (fun _ _ _ => True) .sample fenceAcrossRuns = some sys ∧
      ∃ view, (rebuild sys.store (sys.caches 0)).1 = .ok view ∧
      ∃ one ∈ view.recoveries.values, ∃ two ∈ view.recoveries.values, sameChain one.identity two.identity = true ∧
        one.identity.generation < two.identity.generation ∧ one.state = .observationStarted := by decide +kernel
  refine ⟨sys, view, ran, System.sample_reachable.run ran, read, fun fenced => ?_⟩
  rcases fenced.superseded one held two held' same lower with state | state <;>
    rw [started] at state <;> cases state

end Paje.Admission
