import Paje.Admission.Quota
import Paje.Journal.Writes
import Paje.Scheduler.Selection

/-!
The cap on consecutive admissions over whole histories: no run is admitted three times in a row while
another has an item that could be.
-/

namespace Paje.Scheduler

open Text Journal List Option Replay

variable {event : Event} {policy : Policy} {r : Replay}

def admittedRun (event : Event) (evidence : Evidence) : Option String :=
  ((carried event evidence).bind (recordOf .queueAdmit)).map Admission.RunAdmission.controlRunID

theorem admittedRun_none {evidence : Evidence} {outcome : Option Admission.OutcomeEnvelope}
    (carries : carried event evidence = outcome) (idle : ∀ o ∈ outcome, recordOf .queueAdmit o = none) :
    admittedRun event evidence = none := by
  unfold admittedRun
  rw [carries]
  cases outcome with
  | none => rfl
  | some o => simp [idle o rfl]

structure Tracks (state : FairnessState) (runs : List String) : Prop where
  last : ∀ earlier run, runs = earlier ++ [run] →
    state.lastRunID = run ∧ run ≠ "" ∧ 1 ≤ state.consecutiveAdmissions.toNat
  twice : ∀ earlier run, runs = earlier ++ [run, run] → 2 ≤ state.consecutiveAdmissions.toNat

theorem advanceFairness_last (state : FairnessState) (run : String) : (advanceFairness state run).lastRunID = run ∧
      1 ≤ (advanceFairness state run).consecutiveAdmissions.toNat := by
  unfold advanceFairness
  split
  · rename_i same
    refine ⟨same, ?_⟩
    rw [Admission.saturatingAdd_one, maxUint64]
    omega
  · exact ⟨rfl, Nat.le_refl 1⟩

theorem Tracks.advance {state : FairnessState} {runs : List String} (tracks : Tracks state runs)
    {run : String} (named : run ≠ "") : Tracks (advanceFairness state run) (runs ++ [run]) where
  last earlier other whole := by
    obtain ⟨rfl, same⟩ := append_inj' whole rfl
    cases same
    obtain ⟨last, count⟩ := advanceFairness_last state run
    exact ⟨last, named, count⟩
  twice earlier other whole := by
    have split : runs ++ [run] = (earlier ++ [other]) ++ [other] := by simpa using whole
    obtain ⟨rfl, same⟩ := append_inj' split rfl
    cases same
    obtain ⟨last, _, count⟩ := tracks.last earlier run rfl
    rw [advanceFairness, if_pos last, Admission.saturatingAdd_one, maxUint64]
    omega

theorem named_of_valid {item : ReadyItem} (valid : validateReadyItem item = .ok ()) : item.controlRunID ≠ "" := by
  have fits := require_ok valid
  intro empty
  have bounded := fits.2.1
  rw [empty] at bounded
  exact absurd bounded (by decide)

theorem policyValid_limit (valid : policy.validate = .ok ()) : policy.consecutiveLimit = 2 := by
  have fits := (require_ok valid).2
  rw [fits]
  rfl

theorem admission_picked {value : Admission.RunAdmission}
    {entry : ReadyEntry} {selected : RankedItem} {next : FairnessState} (keyed : Keyed r.snapshot.ready)
    (held : r.snapshot.ready.get? (recordKey value) = some entry) (same : entry.current.subject = value.subject)
    (selection : historicalSelection policy r.snapshot event.occurredAt r.excluded = .ok (selected, next))
    (mine : selected.itemKey = recordKey value) :
    Picked policy r.snapshot event.occurredAt r.excluded selected entry ∧
      entry.current.controlRunID = value.controlRunID ∧
      next = advanceFairness r.snapshot.fairness value.controlRunID := by
  obtain ⟨⟨other, picked⟩, advanced⟩ := historicalSelection_ok selection
  cases picked.admits keyed held mine
  have run := recordKey_run (picked.itemKey.symm.trans mine) same
  refine ⟨picked, run, ?_⟩
  rw [advanced, picked.ranked]
  show advanceFairness _ entry.current.controlRunID = _
  rw [run]

theorem QueueStep.tracks {evidence : Evidence} {q : Queue}
    {runs : List String} (change : QueueStep policy event r (carried event evidence) q)
    (keyed : Keyed r.snapshot.ready) (tracks : Tracks r.snapshot.fairness runs) :
    Tracks q.fairness (runs ++ (admittedRun event evidence).toList) := by
  generalize carries : carried event evidence = outcome at change
  have idle := admittedRun_none carries
  cases change with
  | kept quiet =>
    rw [idle fun o member => (quiet o member).2.1]
    simpa [queue] using tracks
  | enqueued record _ | deferred record _ _ _ _ =>
    rw [idle fun o member => mem_some.mp member ▸ recordOf_other record (by decide)]
    simpa [queue] using tracks
  | released effect =>
    rw [idle fun o member => by cases mem_some.mp member; simp [recordOf, effect]]
    simpa [queue] using tracks
  | @admitted o value entry selected next record held same selection mine =>
    obtain ⟨picked, run, rfl⟩ := admission_picked keyed held same selection mine
    have mineRun : admittedRun event evidence = some value.controlRunID := by
      simp [admittedRun, carries, record]
    have named : value.controlRunID ≠ "" := by
      have some := named_of_valid picked.valid
      rw [picked.ranked] at some
      exact run ▸ some
    rw [mineRun]
    exact tracks.advance named

section Histories

variable [sha : Sha]

def admittedRuns (store : MemoryStore) (events : List Event) : List String :=
  events.filterMap fun event => admittedRun event (store.evidence event)

theorem replayed_tracks {store : MemoryStore} {events : List Event} (h : replayed policy store {} events = .ok r) :
    Keyed r.snapshot.ready ∧ Tracks r.snapshot.fairness (admittedRuns store events) := by
  induction events using List.reverseRecOn generalizing r with
  | nil =>
    cases pure_ok h
    refine ⟨fun _ _ found => (nomatch found), ⟨?_, ?_⟩⟩
    all_goals
      intro earlier run whole
      exact absurd (congrArg List.length whole) (by simp [admittedRuns])
  | append_singleton events event ih =>
    obtain ⟨s, before, taken⟩ := EventLog.fold_snoc h
    obtain ⟨keyed, tracks⟩ := ih before
    obtain ⟨_, _, change⟩ := journalStep_ok taken
    refine ⟨change.keyed keyed, ?_⟩
    have whole : admittedRuns store (events ++ [event]) =
        admittedRuns store events ++ (admittedRun event (store.evidence event)).toList := by
      unfold admittedRuns
      rw [filterMap_append]
      congr 1
    rw [whole]
    exact change.tracks keyed tracks

/-- When three admissions in a row are one run's, every eligible item before the third was its own; and
no choice depends on the order in which the ready entries are enumerated. -/
theorem consecutive_cap {policy : Policy} {store : MemoryStore} {snapshot : SchedulerSnapshot}
    (accepted : rebuildJournal policy store = .ok snapshot) :
    (∀ front third back earlier run, store.events = front ++ third :: back →
      admittedRuns store front = earlier ++ [run, run] → admittedRun third (store.evidence third) = some run →
      ∃ r, replayed policy store {} front = .ok r ∧ ∀ key entry,
        r.snapshot.ready.get? key = some entry → r.excluded.holds key = false → entry.current.controlRunID = run) ∧
    ∀ (before : SchedulerSnapshot) (now : Time) (excluded : Table Bool) (entries : List Listed),
      entries.Perm before.ready.entries →
        selectFrom policy before now excluded entries = historicalSelection policy before now excluded := by
  refine ⟨?_, fun before now excluded entries same => selectFrom_perm same⟩
  intro front third back earlier run whole two three
  obtain ⟨final, folded⟩ := rebuildJournal_ok accepted
  rw [replayed, whole] at folded
  obtain ⟨r, before, folded⟩ := foldlM_append_ok folded
  rw [foldlM_cons] at folded
  obtain ⟨t, taken, _⟩ := bind_ok folded
  obtain ⟨keyed, tracks⟩ := replayed_tracks before
  obtain ⟨_, _, change⟩ := journalStep_ok taken
  refine ⟨r, before, ?_⟩
  obtain ⟨last, named, _⟩ := tracks.last (earlier ++ [run]) run (by simpa using two)
  have twice := tracks.twice earlier run two
  obtain ⟨value, record, rfl⟩ : ∃ value, (carried third (store.evidence third)).bind
      (recordOf .queueAdmit) = some value ∧ value.controlRunID = run :=
    map_eq_some_iff.mp three
  obtain ⟨outcome, carries, record⟩ := bind_eq_some_iff.mp record
  rw [carries] at change
  obtain ⟨entry, selected, next, held, same, selection, mine⟩ := change.admission record
  obtain ⟨picked, own, _⟩ := admission_picked keyed held same selection mine
  have capped : r.snapshot.fairness.Capped policy := by
    refine ⟨last ▸ named, ?_⟩
    rw [policyValid_limit picked.policyValid]
    exact UInt64.le_iff_toNat_le.mpr twice
  intro key other found free
  rw [picked.cap capped (own.trans last.symm) key other found free, last]

end Histories

attribute [local instance] Sha.sample

/-- The commit of an operation on an item that waits, after `n` commits of its run. -/
def waitingCommit (id : String) (operation : Admission.SemanticOperation)
    (state : Admission.AdmissionState) (n : Nat) : CommitRequest :=
  let plan := Admission.Plan.stateTransition (.sample id (id ++ operation.name)) operation state .none
  let request := Admission.Service.sample.request plan.transition "i"
  let original := digest (.admissionRequest request)
  let view : Admission.View := {
    installationID := "i"
    runHeads := Table.put ∅ "run" (2 * n)
    global := ⟨"i", Journal.schemaVersion, 2 * n⟩ }
  view.commitRequest request (Admission.outcomeOf request (.admission {
    controlRunID := "run"
    subject := (Admission.AdmissionRequest.sample id "").subject
    state
    graphRevision := 1
    generation := 1
    policyVersion := 1
    policyDigest := Admission.Service.sample.policyDigest
    originalRequestDigest := original
    receiptID := Admission.opaqueReceiptID operation request.binding original })) Time.unixEpoch

def burst : MemoryStore := ({ installationID := "i" } : MemoryStore).run [
  .commit (waitingCommit "1" .queueEnqueue .queued 0),
  .commit (waitingCommit "1" .queueAdmit .admitted 1),
  .commit (waitingCommit "2" .queueEnqueue .queued 2),
  .commit (waitingCommit "2" .queueAdmit .admitted 3),
  .commit (waitingCommit "3" .queueEnqueue .queued 4),
  .commit (waitingCommit "3" .queueAdmit .admitted 5)]

theorem consecutive_cap_burst : ∃ snapshot, rebuildJournal defaultPolicy burst = .ok snapshot ∧
    admittedRuns burst burst.events = ["run", "run", "run"] ∧
    ∀ front third back earlier run, burst.events = front ++ third :: back →
      admittedRuns burst front = earlier ++ [run, run] → admittedRun third (burst.evidence third) = some run →
      ∃ r, replayed defaultPolicy burst {} front = .ok r ∧ ∀ key entry,
        r.snapshot.ready.get? key = some entry → r.excluded.holds key = false → entry.current.controlRunID = run := by
  obtain ⟨snapshot, rebuilt, runs⟩ : ∃ snapshot, rebuildJournal defaultPolicy burst = .ok snapshot ∧
      admittedRuns burst burst.events = ["run", "run", "run"] := by decide +kernel
  exact ⟨snapshot, rebuilt, runs, (consecutive_cap rebuilt).1⟩

end Paje.Scheduler
