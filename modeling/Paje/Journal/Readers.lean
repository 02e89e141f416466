import Mathlib.Data.List.Sort
import Paje.Journal.Locked
import Paje.Journal.Runs

/-!
The readers of a `MemoryStore`: a cursor of the feed or of a run counts what was read, a cursor of
the active runs names the last one read.
-/

namespace Paje.Journal

open Text MemoryStore List Option

variable {store : LiveStore} {n : Nat}

section readers

structure MemoryStore.Counted (installationID : String) (store : MemoryStore) : Prop where
  installation : store.installationID = installationID
  indexed : store.Indexed
  numbered : Numbered store.events
  runs : ∀ run, store.runOf run = store.events.filter (·.controlRunID = run)

theorem counted_new (installationID : String) : Counted installationID { installationID } where
  installation := rfl
  indexed := indexed_new installationID
  numbered := .nil
  runs _ := rfl

namespace LiveStore

def activeIDs (store : LiveStore) : List String :=
  (store.active.keys.filter store.active.holds).insertionSort (· ≤ ·)

def Named (store : LiveStore) : Prop := ∀ id, store.active.holds id = true → ¬ blank id

theorem Named.put {active : Table Bool} {id : String} {flag : Bool}
    (before : ∀ other, active.holds other = true → ¬ blank other) (named : ¬ blank id) :
    ∀ other, (active.put id flag).holds other = true → ¬ blank other := by
  intro other held
  rw [Table.holds_put] at held
  split at held
  · rename_i same
    exact same ▸ named
  · exact before other held

theorem validateEvent_named {event : Event} {assigned : Bool} (valid : validateEvent event assigned = .ok ()) :
    ¬ blank event.controlRunID := by
  unfold validateEvent at valid
  obtain ⟨named, _⟩ := require_bind_ok valid
  exact named.2.1

theorem Named.appendLocked (named : store.Named) (run : String) (expected : Nat)
    (event : Event) : (store.appendLocked run expected event).2.Named := by
  unfold LiveStore.appendLocked
  split
  · exact named
  · rename_i assigned after appended
    rcases append_ok appended with ⟨_, found, _⟩ | ⟨appends, _⟩
    · simp only [found, isSome_some, if_true]
      exact named
    · simp only [appends.fresh, isSome_none, Bool.false_eq_true, if_false]
      have present := validateEvent_named appends.placed
      exact Named.put named (appends.bound ▸ present)

theorem mem_activeIDs (store : LiveStore) (id : String) : id ∈ store.activeIDs ↔ store.active.holds id = true := by
  rw [activeIDs, mem_insertionSort, mem_filter, and_iff_right_iff_imp]
  intro held
  by_contra absent
  rw [Table.holds, show store.active.get? id = none from AList.lookup_eq_none.mpr absent] at held
  cases held

theorem activeIDs_sorted (store : LiveStore) : store.activeIDs.Pairwise (· < ·) := by
  have ordered : store.activeIDs.Pairwise (· ≤ ·) := pairwise_insertionSort _ _
  have once : store.activeIDs.Nodup := (perm_insertionSort _ _).nodup_iff.mpr (store.active.keys_nodup.filter _)
  exact (ordered.and once).imp fun ⟨le, ne⟩ => lt_of_le_of_ne le ne

def activeRuns (store : LiveStore) (after : String) (limit : Nat) : Except Error (List String × String) := do
  let ids := store.activeIDs
  let mark := store.installationID ++ ":"
  let start ← if after = "" then pure 0 else do
    require (beginsWith mark after) .cursor
    let last := dropStart mark after
    require (¬ blank last) .cursor
    let index := ids.findIdx (last ≤ ·)
    pure (if ids[index]? = some last then index + 1 else index)
  let result := (ids.drop start).take (pageLimit limit)
  match result.getLast? with
  | some last => return (result, if start + pageLimit limit < ids.length then mark ++ last else "")
  | none => return (result, "")

/-- Ask for the active runs page by page, with these limits, until a page has no cursor. -/
def listActive (store : LiveStore) : List Nat → String → Except Error (List String × String)
  | [], after => return ([], after)
  | limit :: rest, after => do
    let (page, next) ← store.activeRuns after limit
    if next = "" then return (page, "")
    let (others, last) ← store.listActive rest next
    return (page ++ others, last)

def activeCursor (store : LiveStore) : Nat → String
  | 0 => ""
  | n + 1 => store.installationID ++ ":" ++ (store.activeIDs[n]?).getD ""

theorem findIdx_sorted {ids : List String} (sorted : ids.Pairwise (· < ·)) (within : n < ids.length) :
    ids.findIdx (ids[n] ≤ ·) = n := by
  rw [findIdx_eq within]
  refine ⟨by simp, fun j before => ?_⟩
  have less := pairwise_iff_getElem.mp sorted j n (by omega) within before
  simpa using less

theorem activeCursor_start (named : store.Named) (within : n < store.activeIDs.length) :
    let after := store.activeCursor (n + 1)
    let mark := store.installationID ++ ":"
    after ≠ "" ∧ beginsWith mark after = true ∧ dropStart mark after = store.activeIDs[n] ∧
      ¬ blank (dropStart mark after) := by
  have last : store.activeCursor (n + 1) = store.installationID ++ ":" ++ store.activeIDs[n] := by
    rw [activeCursor, getElem?_eq_getElem within, getD_some]
  have present := named _ ((store.mem_activeIDs _).mp (getElem_mem within))
  simp only [last, dropStart_append, beginsWith_append]
  refine ⟨fun empty => ?_, trivial, trivial, present⟩
  have size := congrArg String.length empty
  simp [String.length_append] at size

theorem activeRuns_page (named : store.Named) (limit : Nat)
    (within : n = 0 ∨ n < store.activeIDs.length) : store.activeRuns (store.activeCursor n) limit =
      .ok ((store.activeIDs.drop n).take (pageLimit limit), if n + pageLimit limit < store.activeIDs.length
        then store.activeCursor (n + pageLimit limit) else "") := by
  have positive := pageLimit_pos limit
  -- the cursor of a page is the one after the page
  have closing : (match ((store.activeIDs.drop n).take (pageLimit limit)).getLast? with
      | some last => (pure ((store.activeIDs.drop n).take (pageLimit limit),
          if n + pageLimit limit < store.activeIDs.length then store.installationID ++ ":" ++ last else "") :
          Except Error (List String × String))
      | none => pure ((store.activeIDs.drop n).take (pageLimit limit), "")) =
      .ok ((store.activeIDs.drop n).take (pageLimit limit), if n + pageLimit limit < store.activeIDs.length
        then store.activeCursor (n + pageLimit limit) else "") := by
    by_cases more : n + pageLimit limit < store.activeIDs.length
    · obtain ⟨last, found⟩ : ∃ last, store.activeIDs[n + pageLimit limit - 1]? = some last :=
        ⟨_, getElem?_eq_getElem (by omega)⟩
      have isLast : ((store.activeIDs.drop n).take (pageLimit limit)).getLast? = some last := by
        rw [getLast?_eq_getElem?, length_take, length_drop, getElem?_take_of_lt (by omega),
          getElem?_drop, ← found]
        congr 1
        omega
      have cursor : store.activeCursor (n + pageLimit limit) = store.installationID ++ ":" ++ last := by
        rw [show n + pageLimit limit = n + pageLimit limit - 1 + 1 by omega, activeCursor, found, getD_some]
      simp only [isLast, if_pos more, cursor]
      rfl
    · simp only [if_neg more]
      split <;> rfl
  unfold activeRuns
  cases n with
  | zero => exact closing
  | succ n =>
    have inside : n < store.activeIDs.length := by omega
    obtain ⟨started, marked, rest, present⟩ := activeCursor_start named inside
    simp only [if_neg started]
    rw [require_bind _ marked, require_bind _ present, rest, findIdx_sorted store.activeIDs_sorted inside,
      getElem?_eq_getElem inside, if_pos rfl]
    exact closing

theorem listActive_eq (named : store.Named) {limits : List Nat}
    (within : n = 0 ∨ n < store.activeIDs.length) (enough : store.activeIDs.length - n < limits.length) :
    store.listActive limits (store.activeCursor n) = .ok (store.activeIDs.drop n, "") := by
  induction limits generalizing n with
  | nil => cases enough
  | cons limit rest ih =>
    have positive := pageLimit_pos limit
    rw [length_cons] at enough
    rw [listActive, activeRuns_page named limit within, ok_bind]
    by_cases more : n + pageLimit limit < store.activeIDs.length
    · have started : store.activeCursor (n + pageLimit limit) ≠ "" := by
        rw [show n + pageLimit limit = n + pageLimit limit - 1 + 1 by omega]
        exact (activeCursor_start named (by omega)).1
      simp only [if_pos more, if_neg started]
      rw [ih (.inr more) (by omega), ok_bind, ← drop_drop]
      simp only [take_append_drop]
      rfl
    · simp only [if_neg more, if_true]
      rw [take_of_length_le (by rw [length_drop]; omega)]
      rfl

variable [sha : Sha]

def setRunActive (store : LiveStore) (controlRunID : String) (active : Bool) : LiveStore :=
  { store with active := store.active.put controlRunID active }

/-- A write, or a run with an identifier that is set active or inactive. -/
inductive Step where
  | write (write : Write)
  | setRunActive (controlRunID : String) (named : ¬ blank controlRunID) (active : Bool)

def step (store : LiveStore) : Step → LiveStore
  | .write write => (store.perform write).2
  | .setRunActive controlRunID _ active => store.setRunActive controlRunID active

theorem Named.reserveLocked (named : store.Named) (action : Action) : (store.reserveLocked action).2.Named := by
  unfold LiveStore.reserveLocked
  split
  · exact named
  · exact named
  · simp only
    split
    · exact named
    · have named : LiveStore.Named ⟨store.claimed action, store.active⟩ := named
      have appended := named.appendLocked action.controlRunID
        ((store.claimed action).runOf action.controlRunID).length (reserved action)
      split
      all_goals
        rename_i _ _ made
        rw [made] at appended
        exact appended

theorem Named.step {store : LiveStore} (named : store.Named) (step : Step) : (store.step step).Named := by
  cases step with
  | setRunActive id present flag => exact Named.put named present
  | write write =>
    show ((store.perform write).2).Named
    unfold perform
    cases write with
    | reserve action =>
      simp only
      split
      · exact named
      · exact named.reserveLocked action
    | append run expected event => exact named.appendLocked run expected event
    | commit request =>
      simp only
      split
      · exact named
      · rename_i _ receipt after committed
        rcases commit_ok committed with ⟨_, existing, _, rfl⟩ | ⟨accepted, rfl, _⟩
        · exact named
        · obtain ⟨action, _⟩ := validateCommitRequest_ok accepted.valid
          exact Named.put named (validateAction_named action).2
    | reserveAndAppend action event =>
      simp only
      split
      · exact named
      · have reserved := named.reserveLocked action
        split
        · rename_i _ after made
          rw [made] at reserved
          exact reserved
        · rename_i _ middle made
          rw [made] at reserved
          exact Named.appendLocked reserved _ _ _

end LiveStore

variable [sha : Sha]

theorem MemoryStore.Change.counted {store after : MemoryStore} (change : store.Change (fun _ => True) after)
    (numbered : Numbered store.events) (runs : ∀ run, store.runOf run = store.events.filter (·.controlRunID = run)) :
    Numbered after.events ∧ ∀ run, after.runOf run = after.events.filter (·.controlRunID = run) := by
  cases change with
  | @reserve action => exact counted_push (reserved action) numbered runs
  | append => exact counted_push _ numbered runs
  | commit accepted => exact accepted.counted numbered runs

theorem MemoryStore.Counted.run {installationID : String} {store : MemoryStore} (counted : store.Counted installationID)
    (writes : List Write) :
    (store.run writes).Counted installationID ∧ store.events <+: (store.run writes).events := by
  have changes := run_changes counted.indexed (addsOnly_any store writes)
  have indexed := Changes.indexed counted.indexed changes
  generalize store.run writes = after at changes indexed
  suffices kept : after.installationID = store.installationID ∧ store.events <+: after.events ∧
      Numbered after.events ∧ ∀ run, after.runOf run = after.events.filter (·.controlRunID = run) from
    ⟨⟨kept.1.trans counted.installation, indexed, kept.2.2.1, kept.2.2.2⟩, kept.2.1⟩
  clear indexed
  induction changes with
  | refl => exact ⟨rfl, prefix_rfl, counted.numbered, counted.runs⟩
  | tail _ change ih =>
    obtain ⟨installation, grown, numbered, runs⟩ := ih
    obtain ⟨same, more⟩ := change.grows
    exact ⟨same.trans installation, grown.trans more, change.counted numbered runs⟩

/-- The first cursors of a reader: nothing, or the position before the first event. -/
def GlobalCursor.First (installationID : String) (cursor : GlobalCursor) : Prop :=
  cursor = .zero ∨ cursor = newGlobalCursor installationID

def RunCursor.First (installationID run : String) (cursor : RunCursor) : Prop :=
  cursor = ⟨"", run, 0, 0⟩ ∨ cursor = newRunCursor installationID run

/-- The events of the feed or of a run reach a reader in order and once, whatever is written between its pages and
whatever its limits are, and a page shorter than its limit is the last; the pages of the active runs of a store list
each of them once. -/
theorem paged_reads_lossless (installationID : String) (store : MemoryStore)
    (made : newMemoryStore installationID = .ok store) :
    (∀ first, GlobalCursor.First installationID first → ∀ rounds : List (List Write × Nat), ∃ reader,
      rounds.foldlM (Paging.Reader.round feed pageLimit run) ⟨store, first, [], false⟩ = .ok reader ∧
      reader.store = (rounds.map (·.1)).foldl run store ∧
      reader.received <+: reader.store.events ∧ (reader.ended = true → reader.received = reader.store.events)) ∧
    (∀ run, ¬ blank run → ∀ first, RunCursor.First installationID run first →
      ∀ rounds : List (List Write × Nat), ∃ reader,
      rounds.foldlM (Paging.Reader.round readRun pageLimit MemoryStore.run) ⟨store, first, [], false⟩ = .ok reader ∧
      reader.store = (rounds.map (·.1)).foldl MemoryStore.run store ∧
      reader.received <+: reader.store.events.filter (·.controlRunID = run) ∧
      (reader.ended = true → reader.received = reader.store.events.filter (·.controlRunID = run))) ∧
    ∀ steps : List LiveStore.Step, let live := steps.foldl LiveStore.step ⟨store, ∅⟩
      ∀ limits : List Nat, live.activeIDs.length < limits.length →
        live.listActive limits "" = .ok (live.activeIDs, "") ∧ live.activeIDs.Nodup ∧
        ∀ id, id ∈ live.activeIDs ↔ live.active.get? id = some true := by
  obtain ⟨rfl, _⟩ := newMemoryStore_ok made
  have keeps : ∀ (store : MemoryStore) writes, store.Counted installationID →
      (store.run writes).Counted installationID := fun _ writes counted => (counted.run writes).1
  refine ⟨fun first begins rounds => ?_, fun run named first begins rounds => ?_, fun steps => ?_⟩
  · have serves : ∀ (store : MemoryStore) n limit, store.Counted installationID → n ≤ store.events.length →
        store.feed ⟨installationID, schemaVersion, n⟩ limit = .ok ((store.events.drop n).take (pageLimit limit),
          ⟨installationID, schemaVersion, min (n + pageLimit limit) store.events.length⟩) := by
      intro store n limit counted within
      obtain rfl := counted.installation
      exact feed_page (fun _ _ found => counted.numbered.position found) within limit
    have abreast : Paging.Reader.Abreast feed events (fun n => ⟨installationID, schemaVersion, n⟩)
        (Counted installationID) ⟨{ installationID }, first, [], false⟩ := by
      refine ⟨counted_new installationID, nil_prefix, fun store limit counted => ?_, fun ended => by cases ended⟩
      obtain rfl := counted.installation
      rcases begins with rfl | rfl
      · exact store.feed_zero limit
      · rfl
    obtain ⟨reader, read, done, left⟩ :=
      abreast.rounds keeps (fun _ writes counted => (counted.run writes).2) serves rounds
    exact ⟨reader, read, left, done.front, done.whole⟩
  · have serves : ∀ (store : MemoryStore) n limit, store.Counted installationID → n ≤ (store.runOf run).length →
        store.readRun ⟨installationID, run, schemaVersion, n⟩ limit =
          .ok (((store.runOf run).drop n).take (pageLimit limit),
            ⟨installationID, run, schemaVersion, min (n + pageLimit limit) (store.runOf run).length⟩) := by
      intro store n limit counted within
      obtain rfl := counted.installation
      exact readRun_page counted.numbered counted.runs named within limit
    have abreast : Paging.Reader.Abreast readRun (·.runOf run) (fun n => ⟨installationID, run, schemaVersion, n⟩)
        (Counted installationID) ⟨{ installationID }, first, [], false⟩ := by
      refine ⟨counted_new installationID, nil_prefix, fun store limit counted => ?_, fun ended => by cases ended⟩
      obtain rfl := counted.installation
      rcases begins with rfl | rfl
      · simp [readRun, newRunCursor, schemaVersion]
      · rfl
    have grow : ∀ (store : MemoryStore) writes, store.Counted installationID →
        store.runOf run <+: (store.run writes).runOf run := by
      intro store writes counted
      rw [counted.runs, (keeps _ writes counted).runs]
      exact (counted.run writes).2.filter _
    obtain ⟨reader, read, done, left⟩ := abreast.rounds keeps grow serves rounds
    have mine := done.good.runs run
    exact ⟨reader, read, left, mine ▸ done.front, fun ended => mine ▸ done.whole ended⟩
  · intro live limits enough
    have named : live.Named := by
      refine List.foldlRecOn steps LiveStore.step (fun id held => by cases held) fun store named step _ => ?_
      exact named.step step
    refine ⟨LiveStore.listActive_eq named (n := 0) (.inl rfl) enough,
      live.activeIDs_sorted.imp fun less => ne_of_lt less, fun id => ?_⟩
    rw [live.mem_activeIDs, Table.holds]
    cases live.active.get? id with
    | none => simp
    | some flag => simp

end readers

attribute [local instance] Sha.sample

theorem paged_reads_lossless_sample : newMemoryStore "installation" = .ok { installationID := "installation" } ∧
    ∃ reader, [([Write.reserve (.sample "one")], 1)].foldlM (Paging.Reader.round feed pageLimit run)
      ⟨{ installationID := "installation" }, .zero, [], false⟩ = .ok reader ∧ reader.received.length = 1 := by
  have made : newMemoryStore "installation" = .ok { installationID := "installation" } := by decide +kernel
  obtain ⟨reader, read, _⟩ :=
    (paged_reads_lossless "installation" _ made).1 .zero (.inl rfl) [([.reserve (.sample "one")], 1)]
  have one : (([([Write.reserve (.sample "one")], 1)].foldlM (Paging.Reader.round feed pageLimit run)
      ⟨{ installationID := "installation" }, .zero, [], false⟩).toOption.any (·.received.length = 1)) = true := by
    decide +kernel
  rw [read] at one
  exact ⟨made, reader, read, of_decide_eq_true one⟩

end Paje.Journal
