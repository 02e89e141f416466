import Paje.Admission.Service
import Paje.Lib.Ranking
import Mathlib.Data.Prod.Lex

/-!
Weighted-fair selection: the rank of a ready item, the order of the ranks, and the choice under the
cap on consecutive admissions of one run.
-/

namespace Paje.Scheduler

open Text Journal List

variable {items : List ReadyItem} {policy : Policy} {now : Time}

def admissionKey (runID itemID : String) : String := runID ++ "\x00" ++ itemID

/-- `typedError(CodeInvalidRequest, operation, ErrInvalidRecord)`. -/
def invalidRequest (operation : String) : Error := ⟨.invalidRequest, operation, .invalidRecord⟩

/-- The largest `time.Duration`, at which `Time.Sub` saturates. -/
def maxDuration : Duration := 9223372036854775807

def ageCredit (enqueuedAt now : Time) (policy : Policy) : UInt64 :=
  if now < enqueuedAt then 0
  else
    let periods := UInt64.ofNat (min (now - enqueuedAt) maxDuration / policy.agingInterval).toNat
    Admission.saturatingCap periods policy.maxAgeCredit

def validateReadyItem (item : ReadyItem) : Except Error Unit :=
  require (bounded item.id 128 ∧ bounded item.controlRunID 128 ∧ item.enqueueSequence ≠ 0 ∧
    ¬ item.enqueuedAt.IsZero ∧ item.admission.controlRunID = item.controlRunID ∧
    item.admission.subject.id = item.id ∧ item.admission.subject.workID = item.id)
    (invalidRequest "rank")

/-- `admission.CeilQuantum`; its error is passed on as it is. -/
def ceilQuantum (weight : UInt64) : Except Error UInt64 :=
  relabel (fun e => ⟨.invalidRequest, "", .admission e⟩) (Admission.ceilQuantum weight)

def rankWith (now : Time) (policy : Policy) (item : ReadyItem) (quantum : UInt64) : RankedItem :=
  let finish := Admission.saturatingAdd item.virtualStart quantum
  let credit := ageCredit item.enqueuedAt now policy
  { item, virtualFinish := finish, ageCredit := credit,
    effectiveVirtualFinish := Admission.saturatingSub finish credit }

/-- The loop of `rankReady`, with the identities it has seen. -/
def rankEach (now : Time) (policy : Policy) : List String → List ReadyItem → Except Error (List RankedItem)
  | _, [] => return []
  | identities, item :: rest => do
    validateReadyItem item
    let identity := admissionKey item.controlRunID item.id
    require (identity ∉ identities) (invalidRequest "rank")
    let quantum ← ceilQuantum item.weight
    let ranked ← rankEach now policy (identity :: identities) rest
    return rankWith now policy item quantum :: ranked

/-- The comparison of `rankReady`'s sort. Go compares the bytes of strings, which for UTF-8 is the
order of their characters. -/
def RankedItem.before (one two : RankedItem) : Bool :=
  if one.effectiveVirtualFinish ≠ two.effectiveVirtualFinish then
    one.effectiveVirtualFinish < two.effectiveVirtualFinish
  else if one.item.enqueueSequence ≠ two.item.enqueueSequence then
    one.item.enqueueSequence < two.item.enqueueSequence
  else if one.item.controlRunID ≠ two.item.controlRunID then
    one.item.controlRunID < two.item.controlRunID
  else one.item.id < two.item.id

def rankReady (items : List ReadyItem) (now : Time) (policy : Policy) : Except Error (List RankedItem) := do
  policy.validate
  let ranked ← rankEach now policy [] items
  return ranked.insertionSort fun one two => two.before one = false

def advanceFairness (state : FairnessState) (runID : String) : FairnessState :=
  if state.lastRunID = runID then
    { state with consecutiveAdmissions := Admission.saturatingAdd state.consecutiveAdmissions 1 }
  else { lastRunID := runID, consecutiveAdmissions := 1 }

def FairnessState.Capped (state : FairnessState) (policy : Policy) : Prop :=
  state.lastRunID ≠ "" ∧ state.consecutiveAdmissions ≥ policy.consecutiveLimit

instance (state : FairnessState) (policy : Policy) : Decidable (state.Capped policy) := by
  unfold FairnessState.Capped
  infer_instance

def selectReady (items : List ReadyItem) (state : FairnessState) (now : Time) (policy : Policy) :
    Except Error (RankedItem × FairnessState) := do
  require (items ≠ []) ⟨.noEligible, "select", .noEligible⟩
  require ((state.lastRunID = "" ↔ state.consecutiveAdmissions = 0) ∧
    state.lastRunID.utf8ByteSize ≤ 128) (invalidRequest "select")
  match ← rankReady items now policy with
  | [] => .error (invalidRequest "select")
  | first :: rest =>
    let selected := if state.Capped policy then
      ((first :: rest).find? fun candidate => candidate.item.controlRunID ≠ state.lastRunID).getD first
      else first
    return (selected, advanceFairness state selected.item.controlRunID)

def RankedItem.key (one : RankedItem) : Nat ×ₗ Nat ×ₗ String ×ₗ String :=
  toLex (one.effectiveVirtualFinish.toNat, toLex (one.item.enqueueSequence,
    toLex (one.item.controlRunID, one.item.id)))

theorem before_iff (one two : RankedItem) : one.before two = true ↔ one.key < two.key := by
  unfold RankedItem.before RankedItem.key
  simp only [Prod.Lex.lt_iff, ofLex_toLex]
  by_cases finish : one.effectiveVirtualFinish = two.effectiveVirtualFinish
  · rw [if_neg (not_not.mpr finish), finish]
    by_cases sequence : one.item.enqueueSequence = two.item.enqueueSequence
    · rw [if_neg (not_not.mpr sequence), sequence]
      by_cases run : one.item.controlRunID = two.item.controlRunID
      · rw [if_neg (not_not.mpr run), run]
        simp
      · rw [if_pos run]
        simp [run]
    · rw [if_pos sequence]
      simp [sequence]
  · rw [if_pos finish]
    have apart : one.effectiveVirtualFinish.toNat ≠ two.effectiveVirtualFinish.toNat :=
      fun same => finish (UInt64.toNat_inj.mp same)
    simp [apart, UInt64.lt_iff_toNat_lt]

theorem order_iff (one two : RankedItem) : two.before one = false ↔ one.key ≤ two.key := by
  rw [← not_lt, ← before_iff, Bool.not_eq_true]

def quantum (weight : UInt64) : UInt64 := 1 + (1024 - 1) / weight

def rank (now : Time) (policy : Policy) (item : ReadyItem) : RankedItem :=
  rankWith now policy item (quantum item.weight)

@[simp] theorem rank_item (now : Time) (policy : Policy) (item : ReadyItem) :
    (rank now policy item).item = item := rfl

theorem ceilQuantum_ok {weight q : UInt64} (h : ceilQuantum weight = .ok q) : q = quantum weight := by
  unfold ceilQuantum Admission.ceilQuantum at h
  obtain ⟨_, rest⟩ := require_bind_ok (relabel_ok h)
  exact (pure_ok rest).symm

theorem ceilQuantum_eq {weight : UInt64} (positive : weight ≠ 0) : ceilQuantum weight = .ok (quantum weight) := by
  unfold ceilQuantum Admission.ceilQuantum
  rw [require_bind _ positive]
  rfl

/-- What the loop of `rankReady` checks of one item. -/
structure Rankable (item : ReadyItem) : Prop where
  valid : validateReadyItem item = .ok ()
  weighted : item.weight ≠ 0

theorem rankEach_ok {seen : List String}
    {ranked : List RankedItem} (h : rankEach now policy seen items = .ok ranked) :
    ranked = items.map (rank now policy) ∧
      (∀ item ∈ items, Rankable item ∧ admissionKey item.controlRunID item.id ∉ seen) ∧
      (items.map fun item => admissionKey item.controlRunID item.id).Nodup := by
  induction items generalizing seen ranked with
  | nil =>
    cases pure_ok h
    exact ⟨rfl, by simp, by simp⟩
  | cons item rest ih =>
    unfold rankEach at h
    obtain ⟨_, valid, h⟩ := bind_ok h
    obtain ⟨unseen, h⟩ := require_bind_ok h
    obtain ⟨q, quantified, h⟩ := bind_ok h
    obtain ⟨others, ranks, h⟩ := bind_ok h
    cases pure_ok h
    obtain ⟨rfl, passed, apart⟩ := ih ranks
    have weighted : item.weight ≠ 0 := by
      unfold ceilQuantum Admission.ceilQuantum at quantified
      exact (require_bind_ok (relabel_ok quantified)).1
    rw [ceilQuantum_ok quantified]
    refine ⟨rfl, ?_, ?_⟩
    · intro other member
      rcases mem_cons.mp member with rfl | later
      · exact ⟨⟨valid, weighted⟩, unseen⟩
      · obtain ⟨rankable, fresh⟩ := passed other later
        exact ⟨rankable, fun old => fresh (mem_cons_of_mem _ old)⟩
    · rw [map_cons, nodup_cons]
      refine ⟨?_, apart⟩
      intro repeated
      obtain ⟨other, later, same⟩ := mem_map.mp repeated
      exact (passed other later).2 (same ▸ mem_cons_self)

theorem rankEach_eq {seen : List String}
    (passed : ∀ item ∈ items, Rankable item ∧ admissionKey item.controlRunID item.id ∉ seen)
    (apart : (items.map fun item => admissionKey item.controlRunID item.id).Nodup) :
    rankEach now policy seen items = .ok (items.map (rank now policy)) := by
  induction items generalizing seen with
  | nil => rfl
  | cons item rest ih =>
    obtain ⟨rankable, unseen⟩ := passed item mem_cons_self
    obtain ⟨fresh, apart⟩ := nodup_cons.mp apart
    have others : ∀ other ∈ rest, Rankable other ∧ admissionKey other.controlRunID other.id ∉
        admissionKey item.controlRunID item.id :: seen := by
      intro other later
      obtain ⟨good, new⟩ := passed other (mem_cons_of_mem _ later)
      refine ⟨good, ?_⟩
      rw [mem_cons, not_or]
      exact ⟨fun same => fresh (mem_map.mpr ⟨other, later, same⟩), new⟩
    unfold rankEach
    rw [rankable.valid, ok_bind, require_bind _ unseen, ceilQuantum_eq rankable.weighted, ok_bind,
      ih others apart, ok_bind]
    rfl

/-- What `selectReady` established of its choice. -/
structure Chosen (items : List ReadyItem) (state : FairnessState) (now : Time) (policy : Policy)
    (selected : RankedItem) : Prop where
  listed : selected.item ∈ items
  ranked : selected = rank now policy selected.item
  valid : ∀ item ∈ items, validateReadyItem item = .ok ()
  policyValid : policy.validate = .ok ()
  /-- Nothing ranks before the choice but items that the cap passes over. -/
  least : ∀ item ∈ items, selected.key ≤ (rank now policy item).key ∨
    state.Capped policy ∧ item.controlRunID = state.lastRunID ∧ selected.item.controlRunID ≠ state.lastRunID
  /-- The capped run is chosen only when no other has an item. -/
  cap : state.Capped policy → selected.item.controlRunID = state.lastRunID →
    ∀ item ∈ items, item.controlRunID = state.lastRunID

theorem selectReady_ok {state next : FairnessState}
    {selected : RankedItem} (h : selectReady items state now policy = .ok (selected, next)) :
    Chosen items state now policy selected ∧ next = advanceFairness state selected.item.controlRunID := by
  unfold selectReady at h
  obtain ⟨_, h⟩ := require_bind_ok h
  obtain ⟨_, h⟩ := require_bind_ok h
  obtain ⟨sorted, rankedOk, h⟩ := bind_ok h
  unfold rankReady at rankedOk
  obtain ⟨_, policyValid, rankedOk⟩ := bind_ok rankedOk
  obtain ⟨ranks, each, rankedOk⟩ := bind_ok rankedOk
  have sortedEq := pure_ok rankedOk
  obtain ⟨rfl, passed, _⟩ := rankEach_ok each
  have member : ∀ {candidate : RankedItem}, candidate ∈ items.map (rank now policy) →
      candidate.item ∈ items ∧ candidate = rank now policy candidate.item := by
    intro candidate inRanks
    obtain ⟨item, listed, rfl⟩ := mem_map.mp inRanks
    exact ⟨listed, rfl⟩
  have inRanks : ∀ item ∈ items, rank now policy item ∈ items.map (rank now policy) :=
    fun item listed => mem_map_of_mem listed
  have valid : ∀ item ∈ items, validateReadyItem item = .ok () :=
    fun item listed => (passed item listed).1.valid
  cases sorted with
  | nil => cases h
  | cons first rest =>
    obtain ⟨rfl, rfl⟩ := Prod.mk.inj (pure_ok h)
    refine ⟨?_, rfl⟩
    obtain ⟨firstIn, firstLeast⟩ := Ranking.head_sort_least order_iff sortedEq
    split
    · rename_i capped
      cases found : (first :: rest).find? fun candidate =>
          candidate.item.controlRunID ≠ state.lastRunID with
      | none =>
        -- every item is the capped run's own
        have all : ∀ item ∈ items, item.controlRunID = state.lastRunID := by
          intro item listed
          have inSorted : rank now policy item ∈ first :: rest := by
            rw [← sortedEq]
            exact (perm_insertionSort _ _).mem_iff.mpr (inRanks item listed)
          have own := find?_eq_none.mp found _ inSorted
          rw [decide_eq_true_eq, not_not] at own
          exact own
        exact ⟨(member firstIn).1, (member firstIn).2, valid, policyValid,
          fun item listed => .inl (firstLeast _ (inRanks item listed)), fun _ _ => all⟩
      | some other =>
        rw [← sortedEq] at found
        obtain ⟨otherIn, foreign, otherLeast⟩ := Ranking.find?_sort_least order_iff found
        have apart : other.item.controlRunID ≠ state.lastRunID := by simpa using foreign
        refine ⟨(member otherIn).1, (member otherIn).2, valid, policyValid, ?_, fun _ same => absurd same apart⟩
        intro item listed
        by_cases own : item.controlRunID = state.lastRunID
        · exact .inr ⟨capped, own, apart⟩
        · exact .inl (otherLeast _ (inRanks item listed) (by simp [own]))
    · rename_i free
      exact ⟨(member firstIn).1, (member firstIn).2, valid, policyValid,
        fun item listed => .inl (firstLeast _ (inRanks item listed)),
        fun capped => absurd capped free⟩

end Paje.Scheduler
