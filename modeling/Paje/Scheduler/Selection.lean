import Paje.Scheduler.Queue

/-!
The fair choice over the ready queue: which entries it is made from, and that it does not depend on
the order in which they are enumerated.
-/

namespace Paje.Scheduler

open Text Journal List Table

variable {policy : Policy} {selected : RankedItem} {snapshot : SchedulerSnapshot} {excluded : Table Bool}
  {now : Time}

theorem rankEach_error {seen : List String} {items : List ReadyItem}
    {e : Error} (weighted : ∀ item ∈ items, item.weight ≠ 0)
    (h : rankEach now policy seen items = .error e) : e = invalidRequest "rank" := by
  induction items generalizing seen with
  | nil => cases h
  | cons item rest ih =>
    unfold rankEach at h
    unfold validateReadyItem at h
    by_cases valid : bounded item.id 128 ∧ bounded item.controlRunID 128 ∧ item.enqueueSequence ≠ 0 ∧
        ¬ item.enqueuedAt.IsZero ∧ item.admission.controlRunID = item.controlRunID ∧
        item.admission.subject.id = item.id ∧ item.admission.subject.workID = item.id
    · rw [require_bind _ valid] at h
      by_cases unseen : admissionKey item.controlRunID item.id ∉ seen
      · dsimp only at h
        rw [require_bind _ unseen, ceilQuantum_eq (weighted item mem_cons_self), ok_bind] at h
        cases ranks : rankEach now policy (admissionKey item.controlRunID item.id :: seen) rest with
        | error other =>
          rw [ranks] at h
          cases h
          exact ih (fun other later => weighted other (mem_cons_of_mem _ later)) ranks
        | ok ranked =>
          rw [ranks] at h
          cases h
      · dsimp only at h
        rw [require_neg unseen] at h
        cases h
        rfl
    · rw [require_neg valid] at h
      cases h
      rfl

variable {one two : List ReadyItem}

theorem rankReady_perm (same : one.Perm two) (now : Time) (policy : Policy)
    (weighted : ∀ item ∈ one, item.weight ≠ 0) : rankReady one now policy = rankReady two now policy := by
  have weightedTwo : ∀ item ∈ two, item.weight ≠ 0 := fun item member =>
    weighted item (same.mem_iff.mpr member)
  unfold rankReady
  congr 1
  funext _
  cases first : rankEach now policy [] one with
  | ok ranked =>
    obtain ⟨rfl, passed, apart⟩ := rankEach_ok first
    have second : rankEach now policy [] two = .ok (two.map (rank now policy)) :=
      rankEach_eq (fun item member => passed item (same.mem_iff.mpr member))
        ((same.map _).nodup_iff.mp apart)
    rw [second]
    simp only [ok_bind]
    congr 1
    refine Ranking.sort_perm order_iff (same.map _) ?_
    -- equal keys name the same item, and no item is listed twice
    intro a inA b inB equal
    obtain ⟨itemA, memberA, rfl⟩ := mem_map.mp inA
    obtain ⟨itemB, memberB, rfl⟩ := mem_map.mp inB
    simp only [RankedItem.key, rank_item, toLex_inj, Prod.mk.injEq] at equal
    have key : admissionKey itemA.controlRunID itemA.id = admissionKey itemB.controlRunID itemB.id := by
      rw [equal.2.2.1, equal.2.2.2]
    rw [inj_on_of_nodup_map apart memberA memberB key]
  | error e =>
    cases second : rankEach now policy [] two with
    | error e' => rw [rankEach_error weighted first, rankEach_error weightedTwo second]
    | ok ranked =>
      obtain ⟨_, passed, apart⟩ := rankEach_ok second
      have also : rankEach now policy [] one = .ok (one.map (rank now policy)) :=
        rankEach_eq (fun item member => passed item (same.mem_iff.mp member))
          ((same.map _).nodup_iff.mpr apart)
      rw [first] at also
      cases also

theorem selectReady_perm (same : one.Perm two) (state : FairnessState)
    (now : Time) (policy : Policy) (weighted : ∀ item ∈ one, item.weight ≠ 0) :
    selectReady one state now policy = selectReady two state now policy := by
  have empty : one ≠ [] ↔ two ≠ [] := by
    rw [not_iff_not]
    exact ⟨fun none => (none ▸ same).symm.eq_nil, fun none => (none ▸ same).eq_nil⟩
  unfold selectReady
  rw [rankReady_perm same now policy weighted]
  simp only [empty]

/-! ### The entries behind the items -/

def ReadyEntry.item (entry : ReadyEntry) (virtualStart : UInt64) : ReadyItem where
  id := entry.current.subject.id
  controlRunID := entry.current.controlRunID
  weight := weightOf entry.current.subject.primitive
  virtualStart := virtualStart
  enqueueSequence := entry.enqueueSequence
  enqueuedAt := entry.enqueuedAt
  admission := ⟨entry.current.controlRunID, entry.current.subject⟩
  attempt := entry.attempts

theorem weightOf_cases (primitive : String) : weightOf primitive = 1 ∨ weightOf primitive = 2 ∨
    weightOf primitive = 4 ∨ weightOf primitive = 8 := by
  unfold weightOf
  split
  · exact .inl rfl
  split
  · exact .inr (.inl rfl)
  split
  · exact .inr (.inr (.inl rfl))
  split
  · exact .inr (.inr (.inr rfl))
  · exact .inl rfl

theorem weightOf_ne_zero (primitive : String) : weightOf primitive ≠ 0 := by
  rcases weightOf_cases primitive with h | h | h | h <;> rw [h] <;> decide

def ReadyEntry.Weighted (entry : ReadyEntry) : Prop :=
  entry.current.policyVersion = 1 ∧ ¬ blank entry.current.subject.primitive

instance (entry : ReadyEntry) : Decidable entry.Weighted := by
  unfold ReadyEntry.Weighted
  infer_instance

theorem mem_eligible {entries : List Listed} {entry : Listed} :
    entry ∈ eligible excluded entries ↔ entry ∈ entries ∧ excluded.holds entry.1 = false := by
  simp [eligible]

theorem readyItems_eq (virtualFinish : Table UInt64) (excluded : Table Bool) (entries : List Listed) :
    readyItems virtualFinish excluded entries = if ∀ entry ∈ eligible excluded entries, entry.2.Weighted then
        .ok ((eligible excluded entries).map fun entry =>
          entry.2.item (finishOf virtualFinish entry.2.current.controlRunID))
      else .error ⟨.invalidPolicy, "weight", .invalidPolicy⟩ := by
  unfold readyItems
  rw [← mapM_require]
  congr 1
  funext entry
  simp only [ReadyEntry.ready, schedulerWeight, bind_assoc, pure_bind]
  rfl

theorem selectFrom_perm {one two : List Listed} (same : one.Perm two) :
    selectFrom policy snapshot now excluded one = selectFrom policy snapshot now excluded two := by
  have left : (eligible excluded one).Perm (eligible excluded two) := same.filter _
  unfold selectFrom
  rw [readyItems_eq, readyItems_eq]
  by_cases all : ∀ entry ∈ eligible excluded one, entry.2.Weighted
  · have also : ∀ entry ∈ eligible excluded two, entry.2.Weighted :=
      fun entry member => all entry (left.mem_iff.mpr member)
    rw [if_pos all, if_pos also, ok_bind, ok_bind]
    refine selectReady_perm (left.map _) _ _ _ ?_
    intro item member
    obtain ⟨entry, _, rfl⟩ := mem_map.mp member
    exact weightOf_ne_zero _
  · have neither : ¬ ∀ entry ∈ eligible excluded two, entry.2.Weighted :=
      fun also => all fun entry member => also entry (left.mem_iff.mp member)
    rw [if_neg all, if_neg neither]

/-- What a historical selection established: it chose among the entries that are not excluded. -/
structure Picked (policy : Policy) (snapshot : SchedulerSnapshot) (now : Time) (excluded : Table Bool)
    (selected : RankedItem) (entry : ReadyEntry) : Prop where
  held : ∃ key, snapshot.ready.get? key = some entry ∧ excluded.holds key = false
  ranked : selected = rank now policy
    (entry.item (finishOf snapshot.virtualFinish entry.current.controlRunID))
  valid : validateReadyItem selected.item = .ok ()
  policyValid : policy.validate = .ok ()
  /-- Every other entry is behind, or the cap passes over it. -/
  least : ∀ key other, snapshot.ready.get? key = some other → excluded.holds key = false →
    selected.key ≤ (rank now policy
      (other.item (finishOf snapshot.virtualFinish other.current.controlRunID))).key ∨
    snapshot.fairness.Capped policy ∧ other.current.controlRunID = snapshot.fairness.lastRunID ∧
      entry.current.controlRunID ≠ snapshot.fairness.lastRunID
  cap : snapshot.fairness.Capped policy → entry.current.controlRunID = snapshot.fairness.lastRunID →
    ∀ key other, snapshot.ready.get? key = some other → excluded.holds key = false →
      other.current.controlRunID = snapshot.fairness.lastRunID

theorem historicalSelection_ok
    {next : FairnessState} (h : historicalSelection policy snapshot now excluded = .ok (selected, next)) :
    (∃ entry, Picked policy snapshot now excluded selected entry) ∧
      next = advanceFairness snapshot.fairness selected.item.controlRunID := by
  unfold historicalSelection selectFrom at h
  rw [readyItems_eq] at h
  obtain ⟨items, listed, h⟩ := bind_ok h
  split at listed
  · obtain ⟨chosen, advanced⟩ := selectReady_ok h
    refine ⟨?_, advanced⟩
    cases Except.ok.inj listed
    have listedOf : ∀ key other, snapshot.ready.get? key = some other → excluded.holds key = false →
        other.item (finishOf snapshot.virtualFinish other.current.controlRunID) ∈
          (eligible excluded snapshot.ready.entries).map fun entry =>
            entry.2.item (finishOf snapshot.virtualFinish entry.2.current.controlRunID) := by
      intro key other held free
      exact mem_map.mpr ⟨⟨key, other⟩, mem_eligible.mpr ⟨mem_entries.mpr held, free⟩, rfl⟩
    obtain ⟨⟨key, entry⟩, member, same⟩ := mem_map.mp chosen.listed
    obtain ⟨stored, free⟩ := mem_eligible.mp member
    have run : selected.item.controlRunID = entry.current.controlRunID := by
      rw [← same]
      rfl
    refine ⟨entry, ⟨key, mem_entries.mp stored, free⟩, ?_,
      chosen.valid _ chosen.listed, chosen.policyValid, ?_, ?_⟩
    · rw [same]
      exact chosen.ranked
    · intro key other held free
      rw [← run]
      exact chosen.least _ (listedOf key other held free)
    · intro capped own key other held free
      exact chosen.cap capped (run.trans own) _ (listedOf key other held free)
  · cases listed

/-! ### Entries under their keys -/

def Keyed (ready : Table ReadyEntry) : Prop :=
  ∀ key entry, ready.get? key = some entry → key = recordKey entry.current

theorem recordKey_run {one two : Admission.RunAdmission} (same : recordKey one = recordKey two)
    (subject : one.subject = two.subject) : one.controlRunID = two.controlRunID := by
  unfold recordKey admissionKey at same
  rw [subject] at same
  exact append_right_cancel (append_right_cancel same)

theorem Picked.itemKey {entry : ReadyEntry} (picked : Picked policy snapshot now excluded selected entry) :
    selected.itemKey = recordKey entry.current := by
  rw [picked.ranked]
  rfl

theorem Picked.admits {entry other : ReadyEntry} {value : Admission.RunAdmission} (keyed : Keyed snapshot.ready)
    (picked : Picked policy snapshot now excluded selected other)
    (held : snapshot.ready.get? (recordKey value) = some entry)
    (mine : selected.itemKey = recordKey value) : other = entry := by
  obtain ⟨key, found, _⟩ := picked.held
  have same : key = recordKey value := by rw [keyed key other found, ← picked.itemKey, mine]
  rw [same, held] at found
  exact (Option.some.inj found).symm

theorem QueueStep.keyed {event : Event} {r : Replay} {outcome : Option Admission.OutcomeEnvelope} {q : Queue}
    (change : QueueStep policy event r outcome q) (keyed : Keyed r.snapshot.ready) : Keyed q.ready := by
  have dropped : ∀ key, Keyed (r.snapshot.ready.drop key) := by
    intro key other entry found
    rw [get?_drop] at found
    split at found
    · cases found
    · exact keyed other entry found
  have put : ∀ (value : Admission.RunAdmission) (entry : ReadyEntry),
      recordKey entry.current = recordKey value → Keyed (r.snapshot.ready.put (recordKey value) entry) := by
    intro value entry same other found held
    rw [get?_put] at held
    split at held
    · rename_i here
      cases Option.some.inj held
      rw [here, same]
    · exact keyed other found held
  cases change with
  | kept => exact keyed
  | enqueued => exact put _ _ rfl
  | deferred => exact put _ _ rfl
  | admitted => exact dropped _
  | released => exact dropped _

end Paje.Scheduler
