import Mathlib.Data.List.Basic

/-!
Fallible steps and folds in `Except`. A check that the source writes as an early return is a
`require`; a loop that stops at the first error is `List.foldlM`.
-/

namespace Paje

open List

variable {ε α β σ : Type}
variable {x : Except ε α} {items : List α} {c : Prop} {r : β} {step : σ → α → Except ε σ}

def require (c : Prop) [Decidable c] (error : ε) : Except ε Unit :=
  if c then .ok () else .error error

theorem require_pos [Decidable c] {error : ε} (h : c) : require c error = .ok () :=
  if_pos h

theorem require_neg [Decidable c] {error : ε} (h : ¬ c) : require c error = .error error := if_neg h

theorem require_ok [Decidable c] {error : ε} {u : Unit} (h : require c error = .ok u) : c := by
  by_contra hc
  rw [require_neg hc] at h
  cases h

theorem bind_ok {f : α → Except ε β} (h : x >>= f = .ok r) : ∃ a, x = .ok a ∧ f a = .ok r := by
  cases x with
  | error e => cases h
  | ok a => exact ⟨a, rfl, h⟩

theorem pure_ok {a r : α} (h : (pure a : Except ε α) = .ok r) : a = r := Except.ok.inj h

theorem pure_iff {a r : α} : (pure a : Except ε α) = .ok r ↔ r = a :=
  ⟨fun h => (pure_ok h).symm, fun h => h ▸ rfl⟩

/-- Whether a run succeeds with a value that `p` holds of. -/
def succeeds (x : Except ε α) (p : α → Bool) : Bool :=
  match x with
  | .ok a => p a
  | .error _ => false

theorem succeeds_ok {p : α → Bool} (h : succeeds x p = true) : ∃ a, x = .ok a ∧ p a = true := by
  cases x with
  | error e => cases h
  | ok a => exact ⟨a, rfl, h⟩

instance decidableSome {o : Option α} {p : α → Prop} [DecidablePred p] : Decidable (∃ a, o = some a ∧ p a) :=
  match o with
  | none => isFalse nofun
  | some a => decidable_of_iff (p a) ⟨fun h => ⟨a, rfl, h⟩, fun ⟨_, same, h⟩ => Option.some.inj same ▸ h⟩

instance decidableOk {p : α → Prop} [DecidablePred p] : Decidable (∃ a, x = .ok a ∧ p a) :=
  match x with
  | .error _ => isFalse nofun
  | .ok a => decidable_of_iff (p a) ⟨fun h => ⟨a, rfl, h⟩, fun ⟨_, same, h⟩ => Except.ok.inj same ▸ h⟩

instance decidablePair {x : Except ε (α × β)} {p : β → α → Prop} [∀ b a, Decidable (p b a)] :
    Decidable (∃ b a, x = .ok (a, b) ∧ p b a) :=
  decidable_of_iff (∃ pair, x = .ok pair ∧ p pair.2 pair.1)
    ⟨fun ⟨pair, same, h⟩ => ⟨pair.2, pair.1, same, h⟩, fun ⟨b, a, same, h⟩ => ⟨(a, b), same, h⟩⟩

@[simp] theorem ok_bind (a : α) (f : α → Except ε β) : (Except.ok a >>= f) = f a := rfl

@[simp] theorem error_bind (e : ε) (f : α → Except ε β) :
    ((Except.error e : Except ε α) >>= f) = .error e := rfl

variable {f : Unit → Except ε β}

theorem require_bind_ok [Decidable c] {error : ε}
    (h : (require c error >>= f) = .ok r) : c ∧ f () = .ok r := by
  obtain ⟨_, passed, rest⟩ := bind_ok h
  exact ⟨require_ok passed, rest⟩

theorem require_bind [Decidable c] {error : ε} (f : Unit → Except ε β) (h : c) : (require c error >>= f) = f () := by
  rw [require_pos h, ok_bind]

theorem require_iff [Decidable c] {error : ε} : require c error = .ok () ↔ c :=
  ⟨require_ok, require_pos⟩

theorem check_bind_ok {x : Except ε Unit} :
    (x >>= f) = .ok r ↔ x = .ok () ∧ f () = .ok r := by
  cases x with
  | error e => exact ⟨nofun, nofun⟩
  | ok u => exact ⟨fun h => ⟨rfl, h⟩, fun h => h.2⟩

theorem map_ok {f : α → β} (h : f <$> x = .ok r) : ∃ a, x = .ok a ∧ f a = r := by
  cases x with
  | error e => cases h
  | ok a => exact ⟨a, rfl, Except.ok.inj h⟩

def relabel {δ : Type} (f : ε → δ) : Except ε α → Except δ α
  | .ok a => .ok a
  | .error e => .error (f e)

theorem relabel_ok {δ : Type} {f : ε → δ} {a : α} (h : relabel f x = .ok a) : x = .ok a := by
  cases x with
  | ok b => exact congrArg Except.ok (Except.ok.inj h)
  | error e => cases h

variable {start final : σ}

theorem foldlM_inv (P : σ → Prop)
    (keep : ∀ s item t, item ∈ items → P s → step s item = .ok t → P t) (init : P start)
    (h : items.foldlM step start = .ok final) : P final := by
  induction items generalizing start with
  | nil =>
    rw [foldlM_nil] at h
    exact pure_ok h ▸ init
  | cons item rest ih =>
    rw [foldlM_cons] at h
    obtain ⟨next, taken, h⟩ := bind_ok h
    exact ih (fun s i t m => keep s i t (mem_cons_of_mem _ m))
      (keep _ _ _ mem_cons_self init taken) h

theorem foldlM_some {next : σ → α → Option σ} (P : σ → Prop)
    (keep : ∀ s item t, P s → next s item = some t → P t) (init : P start)
    (h : items.foldlM next start = some final) : P final := by
  induction items generalizing start with
  | nil => exact Option.some.inj h ▸ init
  | cons item rest ih =>
    rw [foldlM_cons] at h
    obtain ⟨middle, taken, h⟩ := Option.bind_eq_some_iff.mp h
    exact ih (keep _ _ _ init taken) h

theorem foldlM_mem
    (h : items.foldlM step start = .ok final) {item : α} (member : item ∈ items) : ∃ s t, step s item = .ok t := by
  induction items generalizing start with
  | nil => cases member
  | cons first rest ih =>
    rw [foldlM_cons] at h
    obtain ⟨next, taken, h⟩ := bind_ok h
    rcases mem_cons.mp member with rfl | later
    · exact ⟨start, next, taken⟩
    · exact ih h later

theorem forM_ok {check : α → Except ε Unit} : items.forM check = .ok () ↔ ∀ item ∈ items, check item = .ok () := by
  induction items with
  | nil => exact ⟨fun _ _ member => (not_mem_nil member).elim, fun _ => rfl⟩
  | cons item rest ih =>
    show (check item >>= fun _ => rest.forM check) = .ok () ↔ _
    rw [forall_mem_cons, ← ih]
    cases check item with
    | error e => exact ⟨nofun, nofun⟩
    | ok u => exact ⟨fun h => ⟨rfl, h⟩, fun h => h.2⟩

theorem mapM_require {c : α → Prop} [DecidablePred c] {error : ε} (f : α → β) (items : List α) :
    (items.mapM fun item => do require (c item) error; return f item) =
      if ∀ item ∈ items, c item then .ok (items.map f) else .error error := by
  induction items with
  | nil => rfl
  | cons item rest ih =>
    rw [mapM_cons, ih]
    by_cases here : c item
    · rw [require_bind _ here]
      by_cases later : ∀ other ∈ rest, c other
      · rw [if_pos later, if_pos (by simpa [here] using later)]
        rfl
      · rw [if_neg later, if_neg (by simpa [here] using later)]
        rfl
    · have fails : ¬ ∀ other ∈ item :: rest, c other := fun all => here (all item mem_cons_self)
      rw [if_neg fails, require_neg here]
      rfl

theorem foldlM_congr {other : σ → α → Except ε σ}
    (same : ∀ s, ∀ item ∈ items, step s item = other s item) (start : σ) :
    items.foldlM step start = items.foldlM other start := by
  induction items generalizing start with
  | nil => rfl
  | cons item rest ih =>
    rw [foldlM_cons, foldlM_cons, same start item mem_cons_self]
    cases other start item with
    | error e => rfl
    | ok next => exact ih (fun s i m => same s i (mem_cons_of_mem _ m)) next

theorem foldlM_append_ok {front back : List α} (h : (front ++ back).foldlM step start = .ok final) :
    ∃ middle, front.foldlM step start = .ok middle ∧ back.foldlM step middle = .ok final := by
  rw [foldlM_append] at h
  exact bind_ok h

def Ensures {ε α : Type} (post : α → Prop) (outcome : Except ε α) : Prop := ∀ value, outcome = .ok value → post value

namespace Ensures

variable {ε α β : Type} {post : β → Prop}

theorem error {e : ε} : Ensures post (.error e) := nofun

theorem ok {value : β} (h : post value) : Ensures post (.ok value : Except ε β) := fun _ ran => Except.ok.inj ran ▸ h

theorem bind {first : Except ε α} {rest : α → Except ε β} (h : ∀ a, first = .ok a → Ensures post (rest a)) :
    Ensures post (first >>= rest) := by
  intro value ran
  obtain ⟨a, one, two⟩ := bind_ok ran
  exact h a one value two

theorem map {outcome : Except ε α} {f : α → β} (h : Ensures (fun a => post (f a)) outcome) :
    Ensures post (f <$> outcome) := by
  intro value ran
  obtain ⟨a, one, same⟩ := map_ok ran
  exact same ▸ h a one

end Ensures

end Paje
