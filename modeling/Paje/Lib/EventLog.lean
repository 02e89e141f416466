import Paje.Lib.Outcome
import Mathlib.Data.List.Induction

/-!
Event-sourced logs with optimistic writers: every entry was written by an author who had replayed
exactly the log before it, or comes from outside.
-/

namespace Paje.EventLog

open List

variable {σ α ε : Type} {step : σ → α → Except ε σ} {init : σ} {Wrote : σ → α → Prop}
  {Outside : α → Prop}
variable {log : List α} {t : σ}

/-- A log whose entries were each written over the replay of the entries before it. -/
inductive Authored (step : σ → α → Except ε σ) (init : σ) (Wrote : σ → α → Prop) (Outside : α → Prop) : List α → Prop
  | nil : Authored step init Wrote Outside []
  | wrote {log : List α} {s : σ} {item : α} : Authored step init Wrote Outside log →
    log.foldlM step init = .ok s → Wrote s item → Authored step init Wrote Outside (log ++ [item])
  | outside {log : List α} {item : α} : Authored step init Wrote Outside log →
    Outside item → Authored step init Wrote Outside (log ++ [item])

theorem fold_snoc {item : α} (h : (log ++ [item]).foldlM step init = .ok t) :
    ∃ s, log.foldlM step init = .ok s ∧ step s item = .ok t := by
  obtain ⟨s, before, last⟩ := foldlM_append_ok h
  rw [foldlM_cons] at last
  obtain ⟨u, taken, done⟩ := bind_ok last
  exact ⟨s, before, pure_ok done ▸ taken⟩

section

variable (authored : Authored step init Wrote Outside log)
include authored

theorem Authored.mono {Wrote' : σ → α → Prop} (more : ∀ s item, Wrote s item → Wrote' s item) :
    Authored step init Wrote' Outside log := by
  induction authored with
  | nil => exact .nil
  | wrote _ before wrote ih => exact .wrote ih before (more _ _ wrote)
  | outside _ outside ih => exact .outside ih outside

theorem Authored.inv (P : σ → Prop) (first : P init)
    (own : ∀ s item t, P s → Wrote s item → step s item = .ok t → P t)
    (other : ∀ s item t, P s → Outside item → step s item = .ok t → P t)
    (replayed : log.foldlM step init = .ok t) : P t := by
  induction authored generalizing t with
  | nil => exact pure_ok replayed ▸ first
  | @wrote log s item _ before wrote ih =>
    obtain ⟨u, same, taken⟩ := fold_snoc replayed
    rw [before] at same
    cases same
    exact own s item t (ih before) wrote taken
  | @outside log item _ outside ih =>
    obtain ⟨u, before, taken⟩ := fold_snoc replayed
    exact other u item t (ih before) outside taken

theorem Authored.replayable (P : σ → Prop) (first : P init)
    (own : ∀ s item, P s → Wrote s item → ∃ t, step s item = .ok t ∧ P t)
    (other : ∀ s item, P s → Outside item → ∃ t, step s item = .ok t ∧ P t) :
    ∃ t, log.foldlM step init = .ok t ∧ P t := by
  have extend : ∀ {log : List α} {item : α} {s : σ}, log.foldlM step init = .ok s →
      (∃ t, step s item = .ok t ∧ P t) → ∃ t, (log ++ [item]).foldlM step init = .ok t ∧ P t := by
    rintro log item s before ⟨t, taken, holds⟩
    refine ⟨t, ?_, holds⟩
    rw [foldlM_append, before, ok_bind, foldlM_cons, taken, ok_bind]
    rfl
  induction authored with
  | nil => exact ⟨init, rfl, first⟩
  | @wrote log s item _ before wrote ih =>
    obtain ⟨u, same, holds⟩ := ih
    rw [before] at same
    cases same
    exact extend before (own s item holds wrote)
  | @outside log item _ outside ih =>
    obtain ⟨u, before, holds⟩ := ih
    exact extend before (other u item holds outside)

end

theorem Authored.last {item : α} (authored : Authored step init Wrote Outside (log ++ [item])) :
    Authored step init Wrote Outside log ∧ ((∃ s, log.foldlM step init = .ok s ∧ Wrote s item) ∨ Outside item) := by
  generalize whole : log ++ [item] = entries at authored
  cases authored with
  | nil => simp at whole
  | wrote authored known wrote =>
    obtain ⟨rfl, rest⟩ := append_inj' whole rfl
    cases rest
    exact ⟨authored, .inl ⟨_, known, wrote⟩⟩
  | outside authored outside =>
    obtain ⟨rfl, rest⟩ := append_inj' whole rfl
    cases rest
    exact ⟨authored, .inr outside⟩

/-- An invariant, and a reflexive and transitive relation, that every accepted entry establishes hold of every
replay of a prefix and the replay of the whole. -/
theorem Authored.relates {front back : List α}
    (authored : Authored step init Wrote Outside (front ++ back)) (P : σ → Prop) (R : σ → σ → Prop)
    (first : P init) (own : ∀ s item t, P s → Wrote s item → step s item = .ok t → P t ∧ R s t)
    (other : ∀ s item t, P s → Outside item → step s item = .ok t → P t ∧ R s t)
    (refl : ∀ s, R s s) (trans : ∀ s t u, R s t → R t u → R s u) {s : σ}
    (before : front.foldlM step init = .ok s) (after : (front ++ back).foldlM step init = .ok t) :
    P s ∧ P t ∧ R s t := by
  induction back using List.reverseRecOn generalizing t with
  | nil =>
    rw [append_nil] at authored after
    cases before.symm.trans after
    have holds := authored.inv P first (fun s item t held wrote taken => (own s item t held wrote taken).1)
      (fun s item t held outside taken => (other s item t held outside taken).1) before
    exact ⟨holds, holds, refl s⟩
  | append_singleton back last ih =>
    rw [← append_assoc] at authored after
    obtain ⟨u, middle, taken⟩ := fold_snoc after
    obtain ⟨authored, ⟨v, known, wrote⟩ | outside⟩ := authored.last
    · cases middle.symm.trans known
      obtain ⟨held, kept, related⟩ := ih authored middle
      obtain ⟨keeps, step⟩ := own _ _ _ kept wrote taken
      exact ⟨held, keeps, trans _ _ _ related step⟩
    · obtain ⟨held, kept, related⟩ := ih authored middle
      obtain ⟨keeps, step⟩ := other _ _ _ kept outside taken
      exact ⟨held, keeps, trans _ _ _ related step⟩

end Paje.EventLog
