import Mathlib.Data.List.Sort

/-!
Sorting by a key. The sorted list depends on the elements alone, not on the order they came in, and
its first element of a kind has the least key of that kind.
-/

namespace Paje.Ranking

open List

variable {α κ : Type} [LinearOrder κ] {key : α → κ} {r : α → α → Prop} [DecidableRel r]

section

variable (orders : ∀ a b, r a b ↔ key a ≤ key b)
include orders

theorem pairwise_sort (items : List α) :
    (items.insertionSort r).Pairwise r := by
  have total : Std.Total r := ⟨fun a b => by
    rw [orders, orders]
    exact le_total _ _⟩
  have trans : IsTrans α r := ⟨fun a b c ab bc => by
    rw [orders] at ab bc ⊢
    exact le_trans ab bc⟩
  exact pairwise_insertionSort r items

theorem sort_perm {one two : List α} (same : one.Perm two)
    (apart : ∀ a ∈ one, ∀ b ∈ one, key a = key b → a = b) : one.insertionSort r = two.insertionSort r := by
  have perm : (one.insertionSort r).Perm (two.insertionSort r) :=
    (perm_insertionSort r one).trans (same.trans (perm_insertionSort r two).symm)
  refine perm.eq_of_pairwise ?_ (pairwise_sort orders one) (pairwise_sort orders two)
  intro a b inOne inTwo ab ba
  rw [orders] at ab ba
  have ha := (perm_insertionSort r one).mem_iff.mp inOne
  have hb := same.mem_iff.mpr ((perm_insertionSort r two).mem_iff.mp inTwo)
  exact apart a ha b hb (le_antisymm ab ba)

theorem find?_sort_least {items : List α} {p : α → Bool} {a : α}
    (found : (items.insertionSort r).find? p = some a) :
    a ∈ items ∧ p a = true ∧ ∀ b ∈ items, p b = true → key a ≤ key b := by
  have member := (perm_insertionSort r items).mem_iff.mp (mem_of_find?_eq_some found)
  refine ⟨member, find?_some found, ?_⟩
  intro b inItems holds
  obtain ⟨_, front, back, whole, none⟩ := find?_eq_some_iff_append.mp found
  have sorted := pairwise_sort orders items
  rw [whole] at sorted
  have inSorted : b ∈ front ++ a :: back := whole ▸ (perm_insertionSort r items).mem_iff.mpr inItems
  rcases mem_append.mp inSorted with early | late
  · have fails := none b early
    simp [holds] at fails
  · rcases mem_cons.mp late with rfl | after
    · exact le_rfl
    · have tail := (pairwise_append.mp sorted).2.1
      exact (orders a b).mp (rel_of_pairwise_cons tail after)

theorem head_sort_least {items rest : List α} {a : α} (sorted : items.insertionSort r = a :: rest) :
    a ∈ items ∧ ∀ b ∈ items, key a ≤ key b := by
  have found : (items.insertionSort r).find? (fun _ => true) = some a := by rw [sorted]; rfl
  obtain ⟨member, _, least⟩ := find?_sort_least orders found
  exact ⟨member, fun b inItems => least b inItems rfl⟩

end

end Paje.Ranking
