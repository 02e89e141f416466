import Paje.Journal.Log

/-!
Readers of the journal: the loop over the pages of the feed that the projections share. A loop that
succeeds is a plain fold over the stored events.
-/

namespace Paje.Journal

open List GlobalCursor

variable {store : MemoryStore}

theorem Reader.feed_ok {cursor next : GlobalCursor} {n : Nat} {fed : List Event}
    (stands : cursor = store.cursorAt n ∨ n = 0 ∧ cursor = zero)
    (h : store.feed cursor 1000 = .ok (fed, next)) : fed = (store.events.drop n).take 1000 ∧
      next = store.cursorAt ((fed.getLast?.map Event.journalPosition).getD n) := by
  have fromStart : store.feed cursor 1000 = store.feed (store.cursorAt n) 1000 := by
    rcases stands with rfl | ⟨rfl, rfl⟩
    · rfl
    · exact store.feed_zero 1000
  rw [fromStart] at h
  simp only [MemoryStore.feed, if_neg (store.cursorAt_started n)] at h
  obtain ⟨_, h⟩ := require_bind_ok h
  obtain ⟨rfl, rfl⟩ := Prod.mk.inj (pure_ok h)
  exact ⟨rfl, rfl⟩

variable [sha : Sha] {σ ε : Type}

/-- What a reader does with the feed. `enter` checks the cursor that came with a page against the
installation known so far; `step` takes one event of that installation. -/
structure Reader (σ ε : Type) where
  enter : String → GlobalCursor → Except ε String
  step : String → σ → Event → Evidence → Except ε σ
  refused : Error → ε
  stuck : ε

namespace Reader

def page (reader : Reader σ ε) (store : MemoryStore) (state : String × σ) (events : List Event)
    (next : GlobalCursor) : Except ε (String × σ) := do
  let installationID ← reader.enter state.1 next
  let s ← events.foldlM (store.replay (reader.step installationID)) state.2
  return (installationID, s)

/-- Read from `cursor` on until a page is empty. -/
def read (reader : Reader σ ε) (store : MemoryStore) (installationID : String) (s : σ)
    (cursor : GlobalCursor) : Except ε ((String × σ) × GlobalCursor) :=
  Paging.readAll (fun c => relabel reader.refused (store.feed c 1000)) (reader.page store)
    reader.stuck (store.events.length + 1) cursor (installationID, s)

def Names (reader : Reader σ ε) : Prop :=
  ∀ installationID next named, reader.enter installationID next = .ok named → named = next.installationID

def Counts (reader : Reader σ ε) (position : σ → Nat) : Prop :=
  ∀ installationID s event evidence t, reader.step installationID s event evidence = .ok t →
    event.journalPosition = position s ∧ position t = position s + 1

variable {reader : Reader σ ε} {position : σ → Nat}

theorem Counts.fold (counts : reader.Counts position) {installationID : String} {events : List Event}
    {s t : σ} (folded : events.foldlM (store.replay (reader.step installationID)) s = .ok t) :
    position t = position s + events.length ∧
      ∀ i event, events[i]? = some event → event.journalPosition = position s + i := by
  induction events generalizing s with
  | nil =>
    rw [foldlM_nil] at folded
    cases pure_ok folded
    exact ⟨rfl, nofun⟩
  | cons first rest ih =>
    rw [foldlM_cons] at folded
    obtain ⟨u, taken, folded⟩ := bind_ok folded
    obtain ⟨here, next⟩ := counts _ _ _ _ _ taken
    obtain ⟨ended, places⟩ := ih folded
    refine ⟨by rw [ended, next, length_cons]; omega, ?_⟩
    intro i event found
    cases i with
    | zero =>
      cases Option.some.inj found
      exact here
    | succ i =>
      rw [places i event found, next]
      omega

theorem read_ok (names : reader.Names) (counts : reader.Counts position) {installationID named : String}
    {s t : σ} {cursor last : GlobalCursor} {n : Nat} (within : n ≤ store.events.length)
    (stands : cursor = store.cursorAt n ∨ n = 0 ∧ cursor = zero) (want : position s = n + 1)
    (h : reader.read store installationID s cursor = .ok ((named, t), last)) :
    (store.events.drop n).foldlM (store.replay (reader.step store.installationID)) s = .ok t := by
  let At : Nat → GlobalCursor → σ → Prop := fun n cursor s =>
    (cursor = store.cursorAt n ∨ n = 0 ∧ cursor = zero) ∧ position s = n + 1
  have stretch : ∀ (n : Nat) (cursor : GlobalCursor) (s : String × σ) (fed : List Event)
      (next : GlobalCursor) (t : String × σ), n ≤ store.events.length → At n cursor s.2 →
      relabel reader.refused (store.feed cursor 1000) = .ok (fed, next) →
      reader.page store s fed next = .ok t →
      (∃ k, 0 < k ∧ fed = (store.events.drop n).take k) ∧
        fed.foldlM (store.replay (reader.step store.installationID)) s.2 = .ok t.2 ∧
        At (n + fed.length) next t.2 := by
    intro n cursor s fed next t within here fetched accepted
    obtain ⟨shape, rfl⟩ := feed_ok here.1 (relabel_ok fetched)
    unfold page at accepted
    obtain ⟨named, entered, accepted⟩ := bind_ok accepted
    obtain ⟨u, folded, accepted⟩ := bind_ok accepted
    cases pure_ok accepted
    have same : named = store.installationID := names _ _ _ entered
    subst same
    obtain ⟨ended, places⟩ := counts.fold folded
    refine ⟨⟨1000, by omega, shape⟩, folded, .inl ?_, by rw [ended, here.2]; omega⟩
    -- the last event of the page carries its own position
    congr 1
    cases final : fed.getLast? with
    | none =>
      rw [getLast?_eq_none_iff] at final
      simp [final]
    | some event =>
      have found : fed[fed.length - 1]? = some event := by
        rw [← getLast?_eq_getElem?]
        exact final
      have long := (List.getElem?_eq_some_iff.mp found).1
      have place := places _ event found
      simp only [Option.map_some, Option.getD_some, place, here.2]
      omega
  exact Paging.readAll_ok Prod.snd At stretch within ⟨stands, want⟩ h

end Reader

end Paje.Journal
