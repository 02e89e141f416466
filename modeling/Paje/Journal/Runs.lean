import Paje.Journal.Log

/-!
One run of the journal. The events of a run are those of its entries in order, numbered from one,
so a component that reads a run page by page replays the run's part of the log.
-/

namespace Paje.Journal

open Text MemoryStore List

variable {log : List Entry} {store : MemoryStore} {run : String}

def runLog (log : List Entry) (run : String) : List Entry :=
  log.filter (·.action.controlRunID = run)

theorem runLog_snoc (log : List Entry) (entry : Entry) (run : String) : runLog (log ++ [entry]) run =
      if entry.action.controlRunID = run then runLog log run ++ [entry] else runLog log run := by
  rw [runLog, filter_append]
  split
  · rename_i mine
    simp [runLog, mine]
  · rename_i other
    simp [runLog, other]

theorem Numbered.runSequence {events : List Event} (numbered : Numbered events) {i : Nat}
    {event : Event} (found : (events.filter (·.controlRunID = run))[i]? = some event) :
    event.runSequence = i + 1 := by
  induction numbered with
  | nil => simp at found
  | @snoc before last _ _ sequence ih =>
    rw [filter_append] at found
    by_cases old : i < (before.filter (·.controlRunID = run)).length
    · rw [getElem?_append_left old] at found
      exact ih found
    · rw [getElem?_append_right (by omega)] at found
      by_cases mine : last.controlRunID = run
      · simp only [mine, decide_true, filter_cons_of_pos, filter_nil] at found
        have here : i = (before.filter (·.controlRunID = run)).length := by
          by_contra past
          rw [getElem?_eq_none (by simp; omega)] at found
          cases found
        subst here
        simp only [Nat.sub_self, getElem?_cons_zero, Option.some.injEq] at found
        rw [← found, sequence, mine]
      · simp [mine] at found

def MemoryStore.runCursorAt (store : MemoryStore) (run : String) (n : Nat) : RunCursor :=
  ⟨store.installationID, run, schemaVersion, n⟩

theorem MemoryStore.readRun_page (numbered : Numbered store.events)
    (runs : ∀ run, store.runOf run = store.events.filter (·.controlRunID = run))
    (named : ¬ blank run) {n : Nat} (within : n ≤ (store.runOf run).length) (limit : Nat) :
    store.readRun (store.runCursorAt run n) limit = .ok (((store.runOf run).drop n).take (pageLimit limit),
      store.runCursorAt run (min (n + pageLimit limit) (store.runOf run).length)) := by
  have started : ¬ ((store.runCursorAt run n).installationID = "" ∧
      (store.runCursorAt run n).schemaVersion = 0 ∧ (store.runCursorAt run n).runSequence = 0) := by
    rintro ⟨_, version, _⟩
    cases version
  simp only [readRun, if_neg started]
  rw [require_bind _ ⟨rfl, rfl, named, within⟩]
  show Except.ok ((((store.runOf run).drop n).take (pageLimit limit)), store.runCursorAt run
    (((((store.runOf run).drop n).take (pageLimit limit)).getLast?.map Event.runSequence).getD n)) = _
  rw [Paging.page_end (fun i event found => numbered.runSequence (runs run ▸ found)) (pageLimit_pos limit) within]

theorem MemoryStore.readRun_serves (numbered : Numbered store.events)
    (runs : ∀ run, store.runOf run = store.events.filter (·.controlRunID = run))
    (named : ¬ blank run) : Paging.Serves (fun cursor => store.readRun cursor 1000) (store.runOf run)
      (store.runCursorAt run) := by
  intro n within
  exact ⟨1000, by omega, readRun_page numbered runs named within 1000⟩

theorem MemoryStore.readRun_installation {cursor : RunCursor} {limit : Nat}
    {read : List Event × RunCursor} (started : cursor.schemaVersion ≠ 0)
    (h : store.readRun cursor limit = .ok read) : cursor.installationID = store.installationID := by
  have begun : ¬ (cursor.installationID = "" ∧ cursor.schemaVersion = 0 ∧ cursor.runSequence = 0) :=
    fun zero => started zero.2.1
  simp only [readRun, if_neg begun] at h
  obtain ⟨valid, _⟩ := require_bind_ok h
  exact valid.1

variable [sha : Sha]

namespace MemoryStore

theorem Holds.runOf (holds : store.Holds log) (run : String) : store.runOf run = eventsOf (runLog log run) := by
  have formed := holds.wellFormed
  rw [holds.runs, holds.events]
  clear holds
  induction log with
  | nil => rfl
  | cons entry rest ih =>
    have mine := formed entry mem_cons_self
    have first : entry.reservation.controlRunID = entry.action.controlRunID := by
      rw [mine.reservation]
      rfl
    have whole : eventsOf (entry :: rest) = entry.reservation :: entry.outcome :: eventsOf rest := rfl
    rw [whole, runLog, filter_cons]
    have tail := ih fun other member => formed other (mem_cons_of_mem _ member)
    rw [runLog] at tail
    by_cases here : entry.action.controlRunID = run
    · simp only [filter_cons, first, mine.run, here, decide_true, if_true, tail]
      rfl
    · simp only [filter_cons, first, mine.run, here, decide_false, Bool.false_eq_true, if_false, tail]

theorem Holds.runLength (holds : store.Holds log)
    (run : String) : (store.runOf run).length = 2 * (runLog log run).length := by
  rw [holds.runOf, length_eventsOf]

theorem Holds.replayRun_eq {σ ε : Type} (holds : store.Holds log) {step : σ → Event → Evidence → Except ε σ}
    (ignores : ∀ s event one two, event.kind = .actionReserved →
      step s event one = step s event two) (run : String) (s : σ) : (store.runOf run).foldlM (store.replay step) s =
      (runLog log run).foldlM (Entry.replay step) s := by
  rw [holds.runOf]
  exact holds.replayEntries_eq ignores (fun _ member => (mem_filter.mp member).1) s

end MemoryStore

end Paje.Journal
