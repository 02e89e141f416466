import Paje.Lib.Outcome

/-!
Reading a list through a paged interface: a source that serves the pages of one list makes the loop
over them a plain fold.
-/

namespace Paje.Paging

open List

variable {ε α κ σ : Type}

/-- Ask for pages from `cursor` on until one is empty; `stuck` is the error of a spent budget. -/
def readAll (fetch : κ → Except ε (List α × κ)) (page : σ → List α → κ → Except ε σ) (stuck : ε) :
    Nat → κ → σ → Except ε (σ × κ)
  | 0, _, _ => .error stuck
  | budget + 1, cursor, state => do
    let (items, next) ← fetch cursor
    let state ← page state items next
    if items.isEmpty then pure (state, next) else readAll fetch page stuck budget next state

/-- `fetch` serves `items`: at offset `n` it returns at least one of the items left, and the cursor
after them. -/
def Serves (fetch : κ → Except ε (List α × κ)) (items : List α) (offset : Nat → κ) : Prop :=
  ∀ n ≤ items.length, ∃ k, 0 < k ∧ fetch (offset n) = .ok ((items.drop n).take k, offset (min (n + k) items.length))

variable {fetch : κ → Except ε (List α × κ)} {items : List α}

theorem Serves.relabel {δ : Type}
    {offset : Nat → κ} (serves : Serves fetch items offset) (f : ε → δ) :
    Serves (fun cursor => Paje.relabel f (fetch cursor)) items offset := by
  intro n within
  obtain ⟨k, positive, served⟩ := serves n within
  exact ⟨k, positive, congrArg (Paje.relabel f) served⟩

theorem page_end {number : α → Nat}
    (numbered : ∀ i item, items[i]? = some item → number item = i + 1) {n k : Nat}
    (positive : 0 < k) (within : n ≤ items.length) :
    (((items.drop n).take k).getLast?.map number).getD n = min (n + k) items.length := by
  by_cases done : n = items.length
  · subst done
    simp
  · have size : ((items.drop n).take k).length = min k (items.length - n) := by simp
    have found : ((items.drop n).take k).getLast? = items[min (n + k) items.length - 1]? := by
      rw [getLast?_eq_getElem?, size, getElem?_take_of_lt (by omega), getElem?_drop]
      congr 1
      omega
    obtain ⟨item, isLast⟩ : ∃ item, items[min (n + k) items.length - 1]? = some item :=
      ⟨_, getElem?_eq_getElem (by omega)⟩
    rw [found, isLast, Option.map_some, Option.getD_some, numbered _ item isLast]
    omega

variable {page : σ → List α → κ → Except ε σ}

/-- The paged loop is the fold of `step` over the items from `n` on. `Ready` is what the page
handler needs of the state to be that fold; every step keeps it. -/
theorem readAll_eq {offset : Nat → κ}
    (serves : Serves fetch items offset)
    {step : σ → α → Except ε σ} (Ready : σ → Prop) (stuck : ε)
    (folds : ∀ s, Ready s → ∀ some m, page s some (offset m) = some.foldlM step s)
    (keep : ∀ s item t, Ready s → step s item = .ok t → Ready t)
    {budget n : Nat} {cursor : κ} {s : σ} (ready : Ready s) (within : n ≤ items.length)
    (enough : items.length - n < budget) (same : fetch cursor = fetch (offset n)) :
    readAll fetch page stuck budget cursor s =
      (items.drop n).foldlM step s >>= fun t => .ok (t, offset items.length) := by
  induction budget generalizing n cursor s with
  | zero => omega
  | succ budget ih =>
    obtain ⟨k, positive, served⟩ := serves n within
    rw [readAll, same, served, ok_bind]
    simp only
    rw [folds s ready]
    -- an empty page is served only at the end of the items
    by_cases done : n = items.length
    · subst done
      simp [pure, Except.pure]
    · have short : n < items.length := by omega
      have some_left : ((items.drop n).take k).isEmpty = false := by
        simp only [isEmpty_eq_false_iff, ne_eq, take_eq_nil_iff, drop_eq_nil_iff]
        omega
      have split : items.drop n = (items.drop n).take k ++ items.drop (min (n + k) items.length) := by
        have rest : items.drop (min (n + k) items.length) = (items.drop n).drop k := by
          rw [drop_drop]
          by_cases le : n + k ≤ items.length
          · rw [Nat.min_eq_left le]
          · rw [Nat.min_eq_right (by omega), drop_eq_nil_of_le (Nat.le_refl _),
              drop_eq_nil_of_le (by omega)]
        rw [rest, take_append_drop]
      conv_rhs => rw [split, foldlM_append]
      cases taken : ((items.drop n).take k).foldlM step s with
      | error e => rfl
      | ok t =>
        have still : Ready t :=
          foldlM_inv Ready (fun s item t _ r h => keep s item t r h) ready taken
        simp only [ok_bind, some_left, Bool.false_eq_true, if_false]
        exact ih still (Nat.min_le_right _ _) (by omega) rfl

/-- A loop that succeeded folded `step` over the items from `n` on, when every page it accepted was the
next stretch of them. `At n` says of cursor and state that `n` items are behind them; `view` is what
the pages fold over. -/
theorem readAll_ok {τ : Type}
    {step : τ → α → Except ε τ} (view : σ → τ) (At : Nat → κ → τ → Prop)
    (stretch : ∀ n cursor s fed next t, n ≤ items.length → At n cursor (view s) →
      fetch cursor = .ok (fed, next) → page s fed next = .ok t →
      (∃ k, 0 < k ∧ fed = (items.drop n).take k) ∧ fed.foldlM step (view s) = .ok (view t) ∧
        At (n + fed.length) next (view t))
    {stuck : ε} {budget n : Nat} {cursor last : κ} {s t : σ} (within : n ≤ items.length)
    (here : At n cursor (view s)) (h : readAll fetch page stuck budget cursor s = .ok (t, last)) :
    (items.drop n).foldlM step (view s) = .ok (view t) := by
  induction budget generalizing n cursor s with
  | zero => cases h
  | succ budget ih =>
    rw [readAll] at h
    obtain ⟨⟨fed, next⟩, fetched, h⟩ := bind_ok h
    obtain ⟨u, accepted, h⟩ := bind_ok h
    obtain ⟨⟨k, positive, shape⟩, folded, after⟩ := stretch n cursor s fed next u within here fetched accepted
    split at h
    · rename_i empty
      obtain ⟨rfl, rfl⟩ := Prod.mk.inj (pure_ok h)
      have none : fed = [] := isEmpty_iff.mp empty
      -- a page is empty only when nothing is left
      have done : items.drop n = [] := by
        rw [none] at shape
        rcases take_eq_nil_iff.mp shape.symm with zero | drained
        · omega
        · exact drained
      subst none
      rw [done]
      exact folded
    · have size : fed.length ≤ items.length - n := by
        rw [shape, length_take, length_drop]
        omega
      have split : items.drop n = fed ++ items.drop (n + fed.length) := by
        have parts : items.drop n = (items.drop n).take fed.length ++ (items.drop n).drop fed.length :=
          (take_append_drop _ _).symm
        have same : (items.drop n).take fed.length = fed := by
          conv_lhs => rw [shape, length_take]
          conv_rhs => rw [shape]
          rw [take_eq_take_iff]
          omega
        rw [same, drop_drop] at parts
        exact parts
      rw [split, foldlM_append, folded, ok_bind]
      exact ih (by omega) after h

/-! ### A store that grows between reads -/

/-- What a reader knows; `ended` when its last page was shorter than it could have been. -/
structure Reader (σ κ α : Type) where
  store : σ
  cursor : κ
  received : List α := []
  ended : Bool := false

/-- Someone writes `step.1`, then the reader asks for its next page with limit `step.2`. -/
def Reader.round {ω : Type} (fetch : σ → κ → Nat → Except ε (List α × κ)) (size : Nat → Nat) (grow : σ → ω → σ)
    (reader : Reader σ κ α) (step : ω × Nat) : Except ε (Reader σ κ α) := do
  let store := grow reader.store step.1
  let (page, next) ← fetch store reader.cursor step.2
  return ⟨store, next, reader.received ++ page, page.length < size step.2⟩

structure Reader.Abreast (fetch : σ → κ → Nat → Except ε (List α × κ)) (items : σ → List α) (offset : Nat → κ)
    (Good : σ → Prop) (reader : Reader σ κ α) : Prop where
  good : Good reader.store
  front : reader.received <+: items reader.store
  cursor : ∀ store limit, Good store →
    fetch store reader.cursor limit = fetch store (offset reader.received.length) limit
  whole : reader.ended = true → reader.received = items reader.store

section rounds

variable {ω : Type} {fetch : σ → κ → Nat → Except ε (List α × κ)} {size : Nat → Nat} {grow : σ → ω → σ}
  {items : σ → List α} {offset : Nat → κ} {Good : σ → Prop} {reader : Reader σ κ α}
  (keeps : ∀ store write, Good store → Good (grow store write))
  (grows : ∀ store write, Good store → items store <+: items (grow store write))
  (serves : ∀ store n limit, Good store → n ≤ (items store).length → fetch store (offset n) limit =
    .ok (((items store).drop n).take (size limit), offset (min (n + size limit) (items store).length)))
include keeps grows serves

theorem Reader.Abreast.round (abreast : reader.Abreast fetch items offset Good) (step : ω × Nat) :
    ∃ next, reader.round fetch size grow step = .ok next ∧ next.Abreast fetch items offset Good ∧
      next.store = grow reader.store step.1 := by
  have good := keeps reader.store step.1 abreast.good
  obtain ⟨rest, whole⟩ : reader.received <+: items (grow reader.store step.1) :=
    abreast.front.trans (grows reader.store step.1 abreast.good)
  have served := serves _ reader.received.length step.2 good (by rw [← whole]; simp)
  rw [← abreast.cursor _ _ good, ← whole, drop_left, length_append] at served
  refine ⟨_, by simp only [Reader.round, served, ok_bind]; rfl, ⟨good, ?_, ?_, ?_⟩, rfl⟩
  · rw [← whole]
    exact (prefix_append_right_inj _).mpr ( take_prefix _ _)
  · intro store limit _
    simp only [length_append, length_take]
    congr 2
    omega
  · intro ended
    have short := of_decide_eq_true ended
    rw [length_take] at short
    rw [← whole, take_of_length_le (by omega)]

/-- However the store grows between the pages, the reader is never behind what its pages say. -/
theorem Reader.Abreast.rounds (abreast : reader.Abreast fetch items offset Good) (steps : List (ω × Nat)) :
    ∃ final, steps.foldlM (Reader.round fetch size grow) reader = .ok final ∧
      final.Abreast fetch items offset Good ∧ final.store = (steps.map (·.1)).foldl grow reader.store := by
  induction steps generalizing reader with
  | nil => exact ⟨reader, rfl, abreast, rfl⟩
  | cons step rest ih =>
    obtain ⟨next, read, still, grown⟩ := abreast.round keeps grows serves step
    obtain ⟨final, reads, done, left⟩ := ih still
    exact ⟨final, by rw [foldlM_cons, read, ok_bind, reads], done, by rw [left, grown]; rfl⟩

end rounds

end Paje.Paging
