import Mathlib.Data.List.AList

/-!
Go maps with string keys, as Mathlib's association lists: no key is stored twice. The
enumeration order of the entries is never observable through the functions below.
-/

namespace Paje

open List

variable {key other : String}

abbrev Table (α : Type) := AList fun _ : String => α

namespace Table

variable {α : Type}

instance [DecidableEq α] : DecidableEq (Table α) := fun one two =>
  decidable_of_iff (one.entries = two.entries) AList.ext_iff.symm

def get? (t : Table α) (key : String) : Option α := t.lookup key

def put (t : Table α) (key : String) (value : α) : Table α := AList.insert key value t

/-- `delete(m, key)`. -/
def drop (t : Table α) (key : String) : Table α := AList.erase key t

def values (t : Table α) : List α := t.entries.map Sigma.snd

def count (t : Table α) (p : α → Bool) : Nat := t.values.countP p

@[simp] theorem get?_empty (key : String) : get? (∅ : Table α) key = none := rfl

@[simp] theorem get?_put_self (t : Table α) (key : String) (value : α) :
    (t.put key value).get? key = some value := AList.lookup_insert t

theorem get?_put_other (t : Table α) (value : α) (different : key ≠ other) :
    (t.put other value).get? key = t.get? key := AList.lookup_insert_ne different

theorem get?_put (t : Table α) (key other : String) (value : α) :
    (t.put other value).get? key = if key = other then some value else t.get? key := by
  split
  · rename_i same
    rw [same, get?_put_self]
  · rename_i different
    exact get?_put_other t value different

/-- `m[key]` in a map of flags. -/
def holds (t : Table Bool) (key : String) : Bool := (t.get? key).getD false

theorem holds_put (t : Table Bool) (key other : String) (value : Bool) :
    (t.put other value).holds key = if key = other then value else t.holds key := by
  unfold holds
  rw [get?_put]
  split <;> rfl

@[simp] theorem get?_drop_self (t : Table α) (key : String) : (t.drop key).get? key = none :=
  AList.lookup_erase key t

theorem get?_drop_other (t : Table α) (different : key ≠ other) :
    (t.drop other).get? key = t.get? key := AList.lookup_erase_ne different

theorem get?_drop (t : Table α) (key other : String) :
    (t.drop other).get? key = if key = other then none else t.get? key := by
  split
  · rename_i same
    rw [same, get?_drop_self]
  · rename_i different
    exact get?_drop_other t different

variable {t : Table α}

theorem drop_put_fresh (absent : t.get? key = none) (value : α) : (t.put key value).drop key = t := by
  have missing : key ∉ t := AList.lookup_eq_none.mp absent
  refine AList.ext ?_
  show List.kerase key (AList.insert key value t).entries = t.entries
  rw [AList.entries_insert_of_notMem missing]
  exact kerase_cons_eq rfl

variable {value : α}

theorem mem_keys_put :
    key ∈ (t.put other value).keys ↔ key = other ∨ key ∈ t.keys := AList.mem_insert t

theorem mem_entries :
    (⟨key, value⟩ : Sigma fun _ : String => α) ∈ t.entries ↔ t.get? key = some value :=
  AList.mem_lookup_iff.symm

theorem mem_values : value ∈ t.values ↔ ∃ key, t.get? key = some value := by
  simp only [values, mem_map]
  constructor
  · rintro ⟨⟨key, held⟩, member, rfl⟩
    exact ⟨key, mem_entries.mp member⟩
  · rintro ⟨key, found⟩
    exact ⟨⟨key, value⟩, mem_entries.mpr found, rfl⟩

theorem mem_values_put {value other : α}
    (h : other ∈ (t.put key value).values) : other = value ∨ other ∈ t.values := by
  obtain ⟨slot, found⟩ := mem_values.mp h
  rw [get?_put] at found
  split at found
  · exact .inl (Option.some.inj found).symm
  · exact .inr (mem_values.mpr ⟨slot, found⟩)

theorem forall_entries {p : String → α → Prop} :
    (∀ entry ∈ t.entries, p entry.1 entry.2) ↔ ∀ key value, t.get? key = some value → p key value :=
  ⟨fun h key value found => h ⟨key, value⟩ (mem_entries.mpr found),
    fun h entry member => h entry.1 entry.2 (mem_entries.mp member)⟩

theorem values_put (t : Table α) (key : String) (value : α) :
    (t.put key value).values = value :: (t.entries.kerase key).map Sigma.snd := rfl

variable {held : α}

theorem values_perm (found : t.get? key = some held) :
    t.values.Perm (held :: (t.entries.kerase key).map Sigma.snd) := by
  have member : key ∈ t.entries.keys := mem_keys_of_mem (mem_entries.mpr found)
  obtain ⟨value, front, back, _, whole, rest⟩ := exists_of_kerase member
  have same : value = held := by
    have lookup := mem_entries.mp (whole ▸ mem_append_right front mem_cons_self :
      (⟨key, value⟩ : Sigma fun _ : String => α) ∈ t.entries)
    exact Option.some.inj (lookup.symm.trans found)
  subst same
  rw [values, rest, whole]
  simp [perm_middle]

theorem values_drop (t : Table α) (key : String) : (t.drop key).values = (t.entries.kerase key).map Sigma.snd := rfl

theorem countP_put_le_one {p : (Sigma fun _ : String => α) → Bool}
    (others : ∀ other held, other ≠ key → t.get? other = some held → p ⟨other, held⟩ = false) :
    (t.put key value).entries.countP p ≤ 1 := by
  have rest : (t.drop key).entries.countP p = 0 := by
    rw [countP_eq_zero]
    rintro ⟨other, held⟩ member
    have found := mem_entries.mp member
    rw [get?_drop] at found
    split at found
    · cases found
    · rename_i different
      rw [others other held different found]
      exact Bool.false_ne_true
  have entries : (t.put key value).entries = ⟨key, value⟩ :: (t.drop key).entries := rfl
  rw [entries, countP_cons, rest]
  split <;> omega

theorem length_put_fresh (absent : t.get? key = none) (value : α) :
    (t.put key value).entries.length = t.entries.length + 1 := by
  have missing : key ∉ t := AList.lookup_eq_none.mp absent
  rw [put, AList.entries_insert_of_notMem missing, length_cons]

theorem length_put_held (found : t.get? key = some held)
    (value : α) : (t.put key value).entries.length = t.entries.length := by
  have before := (values_perm found).length_eq
  simp only [values, length_map, length_cons] at before
  rw [put, AList.entries_insert, length_cons, before]

def map (t : Table α) (f : α → α) : Table α where
  entries := t.entries.map fun entry => ⟨entry.1, f entry.2⟩
  nodupKeys := by
    have keys : (t.entries.map fun entry : Sigma fun _ : String => α =>
        (⟨entry.1, f entry.2⟩ : Sigma fun _ : String => α)).keys = t.entries.keys := by
      simp [List.keys, Function.comp_def]
    show (List.keys _).Nodup
    rw [keys]
    exact t.nodupKeys

theorem get?_map (t : Table α) (f : α → α) (key : String) : (t.map f).get? key = (t.get? key).map f := by
  refine Option.ext fun value => ?_
  rw [← mem_entries, Option.map_eq_some_iff]
  simp only [map, mem_map]
  constructor
  · rintro ⟨⟨other, held⟩, member, same⟩
    cases same
    exact ⟨held, mem_entries.mp member, rfl⟩
  · rintro ⟨held, found, rfl⟩
    exact ⟨⟨key, held⟩, mem_entries.mpr found, rfl⟩

theorem count_put_fresh (absent : t.get? key = none) (value : α)
    (p : α → Bool) : (t.put key value).count p = t.count p + if p value then 1 else 0 := by
  have missing : key ∉ t := AList.lookup_eq_none.mp absent
  have entries : (t.put key value).entries = ⟨key, value⟩ :: t.entries :=
    AList.entries_insert_of_notMem missing
  simp only [count, values, entries, map_cons, countP_cons]

theorem count_put_held (found : t.get? key = some held)
    (value : α) (p : α → Bool) : (t.put key value).count p + (if p held then 1 else 0) =
      t.count p + if p value then 1 else 0 := by
  have before := (values_perm found).countP_eq p
  simp only [countP_cons] at before
  simp only [count, values_put, countP_cons, before]
  omega

end Table

end Paje
