import Mathlib.Data.List.Nodup

/-!
Records in a slice, found by scanning for the first one with a key. Where no key occurs twice the
order of the slice does not matter.
-/

namespace Paje.Keyed

open List

variable {α κ : Type} [DecidableEq κ] {key : α → κ} {k : κ} {items : List α}
variable {item : α} {shut : α → Prop} {f : α → α} {edit : α → α → Prop}

def lookup (key : α → κ) (k : κ) (items : List α) : Option α := items.find? fun item => key item = k

def modify (key : α → κ) (k : κ) (f : α → α) (items : List α) : List α :=
  items.replaceF fun item => if key item = k then some (f item) else none

theorem lookup_mem (found : lookup key k items = some item) : item ∈ items ∧ key item = k :=
  ⟨mem_of_find?_eq_some found, by simpa using find?_some found⟩

theorem lookup_none : lookup key k items = none ↔ k ∉ items.map key := by
  simp only [lookup, List.find?_eq_none, decide_eq_true_eq, List.mem_map, not_exists, not_and]

theorem lookup_of_mem (nodup : (items.map key).Nodup) {item : α} (member : item ∈ items) :
    lookup key (key item) items = some item := by
  cases found : lookup key (key item) items with
  | none => exact absurd (mem_map_of_mem member) (lookup_none.mp found)
  | some other =>
    obtain ⟨listed, same⟩ := lookup_mem found
    rw [inj_on_of_nodup_map nodup listed member same]

theorem lookup_perm {other : List α} (nodup : (items.map key).Nodup) (perm : items.Perm other) :
    lookup key k other = lookup key k items := by
  have nodup' : (other.map key).Nodup := (perm.map key).nodup_iff.mp nodup
  cases found : lookup key k items with
  | none =>
    rw [lookup_none] at found ⊢
    rwa [← (perm.map key).mem_iff]
  | some item =>
    obtain ⟨listed, rfl⟩ := lookup_mem found
    exact lookup_of_mem nodup' (perm.mem_iff.mp listed)

theorem modify_cons (f : α → α) (item : α) (rest : List α) : modify key k f (item :: rest) =
    if key item = k then f item :: rest else item :: modify key k f rest := by
  unfold modify
  rw [replaceF_cons]
  split <;> simp_all

theorem lookup_cons (item : α) (rest : List α) : lookup key k (item :: rest) =
    if key item = k then some item else lookup key k rest := by
  unfold lookup
  rw [find?_cons]
  split <;> simp_all

theorem map_modify {β : Type} {g : α → β} (blind : ∀ item, lookup key k items = some item → g (f item) = g item) :
    (modify key k f items).map g = items.map g := by
  induction items with
  | nil => rfl
  | cons item rest ih =>
    rw [modify_cons]
    split
    · rename_i here
      rw [map_cons, map_cons, blind item (by rw [lookup_cons, if_pos here])]
    · rename_i there
      rw [map_cons, map_cons, ih fun other found => blind other (by rw [lookup_cons, if_neg there, found])]

theorem nodup_modify (nodup : (items.map key).Nodup)
    (keeps : ∀ item, key item = k → key (f item) = k) : ((modify key k f items).map key).Nodup := by
  rwa [map_modify fun item found => (keeps item (lookup_mem found).2).trans (lookup_mem found).2.symm]

theorem nodup_snoc (nodup : (items.map key).Nodup)
    (fresh : lookup key (key item) items = none) : ((items ++ [item]).map key).Nodup := by
  rw [map_append, nodup_append]
  refine ⟨nodup, nodup_singleton _, ?_⟩
  intro one old other new same
  rw [map_singleton, mem_singleton] at new
  rw [same, new] at old
  exact lookup_none.mp fresh old

theorem mem_modify (member : item ∈ modify key k f items) :
    item ∈ items ∨ ∃ old ∈ items, key old = k ∧ item = f old := by
  induction items with
  | nil => cases member
  | cons first rest ih =>
    rw [modify_cons] at member
    split at member
    · rename_i here
      rcases mem_cons.mp member with rfl | later
      · exact .inr ⟨first, mem_cons_self, here, rfl⟩
      · exact .inl (mem_cons_of_mem _ later)
    · rcases mem_cons.mp member with rfl | later
      · exact .inl mem_cons_self
      · rcases ih later with old | ⟨old, listed, same⟩
        · exact .inl (mem_cons_of_mem _ old)
        · exact .inr ⟨old, mem_cons_of_mem _ listed, same⟩

theorem lookup_modify {other : κ} (keeps : ∀ item, key item = k → key (f item) = k) :
    lookup key other (modify key k f items) =
      if other = k then (lookup key k items).map f else lookup key other items := by
  induction items with
  | nil => simp [modify, lookup]
  | cons first rest ih =>
    rw [modify_cons]
    by_cases here : key first = k
    · rw [if_pos here, lookup_cons, keeps first here, lookup_cons, lookup_cons, if_pos here]
      by_cases same : other = k
      · simp [same]
      · simp [same, Ne.symm same, here]
    · rw [if_neg here, lookup_cons, ih, lookup_cons, lookup_cons, if_neg here]
      by_cases same : other = k
      · simp [same, here]
      · simp [same]

theorem lookup_map (keeps : ∀ item, key (f item) = key item) :
    lookup key k (items.map f) = (lookup key k items).map f := by
  unfold lookup
  rw [find?_map]
  simp only [Function.comp_def, keeps]

theorem lookup_snoc (item : α) : lookup key k (items ++ [item]) =
    (lookup key k items).or (if key item = k then some item else none) := by
  unfold lookup
  rw [find?_append]
  congr 1
  rw [find?_cons]
  split <;> simp_all

theorem any_modify {p : α → Bool} (nodup : (items.map key).Nodup) (fails : ∀ item, p (f item) = false) :
    (modify key k f items).any p = items.any fun item => key item ≠ k && p item := by
  induction items with
  | nil => rfl
  | cons first rest ih =>
    rw [map_cons, nodup_cons] at nodup
    rw [modify_cons]
    split
    · rename_i here
      -- no later item has this key, so the rest is tested as it stands
      have others : ∀ item ∈ rest, key item ≠ k := fun item listed same =>
        nodup.1 (here ▸ same ▸ mem_map_of_mem listed)
      have same : rest.any p = rest.any fun item => key item ≠ k && p item := by
        rw [Bool.eq_iff_iff]
        simp only [List.any_eq_true, Bool.and_eq_true, decide_eq_true_eq]
        exact ⟨fun ⟨item, listed, holds⟩ => ⟨item, listed, others item listed, holds⟩,
          fun ⟨item, listed, _, holds⟩ => ⟨item, listed, holds⟩⟩
      rw [List.any_cons, fails, Bool.false_or, List.any_cons, same]
      simp [here]
    · rename_i elsewhere
      simp only [List.any_cons, ih nodup.2, decide_eq_true elsewhere, ne_eq, Bool.true_and]

/-! ### Items that are closed once -/

/-- One change of the items: nothing, a new open item, or an open item with the key `k` that an edit closes. -/
inductive Turn (key : α → κ) (shut : α → Prop) (edit : α → α → Prop) (items : List α) : Option κ → List α → Prop
  | same : Turn key shut edit items none items
  | added {item : α} (fresh : lookup key (key item) items = none) (isOpen : ¬ shut item) :
      Turn key shut edit items none (items ++ [item])
  | closed {k : κ} {item : α} {f : α → α} (found : lookup key k items = some item) (isOpen : ¬ shut item)
      (closes : shut (f item)) (edits : edit item (f item)) (keeps : ∀ item, key item = k → key (f item) = k) :
      Turn key shut edit items (some k) (modify key k f items)

/-- Every key names one item, and `closings` are the keys of the closed ones, each once. -/
structure Once (key : α → κ) (shut : α → Prop) (items : List α) (closings : List κ) : Prop where
  keys : (items.map key).Nodup
  once : closings.Nodup
  closed : ∀ k, k ∈ closings ↔ ∃ item, lookup key k items = some item ∧ shut item

theorem Once.turn {closings : List κ} {closing : Option κ} {next : List α}
    (once : Once key shut items closings) (turn : Turn key shut edit items closing next) :
    Once key shut next (closings ++ closing.toList) := by
  cases turn with
  | same => simpa using once
  | added fresh isOpen =>
    refine ⟨nodup_snoc once.keys fresh, by simpa using once.once, fun k => ?_⟩
    rw [Option.toList_none, List.append_nil, once.closed, lookup_snoc]
    cases found : lookup key k items with
    | some item => simp
    | none =>
      simp only [reduceCtorEq, false_and, exists_false, Option.none_or, false_iff]
      rintro ⟨item, here, done⟩
      split at here
      · cases here
        exact isOpen done
      · cases here
  | @closed k item f found isOpen closes edits keeps =>
    have new : k ∉ closings := by
      rw [once.closed]
      rintro ⟨other, same, done⟩
      cases found.symm.trans same
      exact isOpen done
    refine ⟨nodup_modify once.keys keeps, ?_, fun other => ?_⟩
    · exact List.nodup_append.mpr ⟨once.once, List.nodup_singleton k, fun _ old _ only same =>
        new (List.mem_singleton.mp only ▸ same ▸ old)⟩
    · rw [Option.toList_some, List.mem_append, List.mem_singleton, once.closed, lookup_modify keeps]
      by_cases same : other = k
      · simp [same, found, closes]
      · simp [same]

/-- Items stay in their places; an open one may have been closed since by an edit. -/
def Grows (shut : α → Prop) (edit : α → α → Prop) (items next : List α) : Prop :=
  ∀ (i : Nat) item, items[i]? = some item → ∃ later, next[i]? = some later ∧
    (later = item ∨ ¬ shut item ∧ shut later ∧ edit item later)

theorem Grows.refl (items : List α) : Grows shut edit items items :=
  fun _ item found => ⟨item, found, .inl rfl⟩

theorem Grows.trans {one two three : List α} (first : Grows shut edit one two)
    (second : Grows shut edit two three) : Grows shut edit one three := by
  intro i item found
  obtain ⟨later, there, change⟩ := first i item found
  obtain ⟨last, ends, change'⟩ := second i later there
  refine ⟨last, ends, ?_⟩
  rcases change with rfl | ⟨isOpen, done, edits⟩
  · exact change'
  · rcases change' with rfl | ⟨still, _⟩
    · exact .inr ⟨isOpen, done, edits⟩
    · exact absurd done still

theorem getElem?_modify {f : α → α} {i : Nat} {item : α} (found : items[i]? = some item) :
    (modify key k f items)[i]? = some item ∨
      lookup key k items = some item ∧ (modify key k f items)[i]? = some (f item) := by
  induction items generalizing i with
  | nil => cases found
  | cons first rest ih =>
    rw [modify_cons, lookup_cons]
    cases i with
    | zero =>
      cases found
      split <;> simp
    | succ i =>
      split
      · exact .inl found
      · exact ih found

theorem Turn.grows {closing : Option κ} {next : List α}
    (turn : Turn key shut edit items closing next) : Grows shut edit items next := by
  intro i item found
  cases turn with
  | same => exact ⟨item, found, .inl rfl⟩
  | added => exact ⟨item, List.getElem?_append_left (List.getElem?_eq_some_iff.mp found).1 ▸ found, .inl rfl⟩
  | @closed k _ f held isOpen closes edits =>
    rcases @getElem?_modify _ _ _ key k items f i item found with kept | ⟨same, changed⟩
    · exact ⟨item, kept, .inl rfl⟩
    · cases held.symm.trans same
      exact ⟨_, changed, .inr ⟨isOpen, closes, edits⟩⟩

end Paje.Keyed
