import Mathlib.Logic.Relation
import Mathlib.Data.List.Basic

/-!
Programs that ask questions of their environment, and pools of such programs over a shared state.
`Meets` says which questions a program may ask after which trace; a pool keeps that fact for each of
its workers through every interleaving, and a worker that is never scheduled again is one that
crashed.
-/

namespace Paje

open List

/-- A program that asks questions in `Q`, is answered a question `q` by an `A q`, and returns an `α`. -/
inductive Process (Q : Type) (A : Q → Type) (α : Type) where
  | done (value : α)
  | ask (question : Q) (next : A question → Process Q A α)

abbrev Trace (Q : Type) (A : Q → Type) := List ((question : Q) × A question)

namespace Process

variable {Q : Type} {A : Q → Type} {α β : Type}

def bind : Process Q A α → (α → Process Q A β) → Process Q A β
  | done value, f => f value
  | ask question next, f => ask question fun answer => (next answer).bind f

instance : Monad (Process Q A) where
  pure := done
  bind := bind

def perform (question : Q) : Process Q A (A question) := ask question done

/-- From `trace` on, every question is one that `ok` allows, and `post` holds of the value and of the whole
trace when the program ends. -/
def Meets (ok : Trace Q A → Q → Prop) (post : α → Trace Q A → Prop) : Process Q A α → Trace Q A → Prop
  | done value, trace => post value trace
  | ask question next, trace =>
    ok trace question ∧ ∀ answer, (next answer).Meets ok post (trace ++ [⟨question, answer⟩])

section meets

variable {ok : Trace Q A → Q → Prop} {trace : Trace Q A}

variable {program : Process Q A α} {post : β → Trace Q A → Prop} {f : α → Process Q A β}

@[simp] theorem meets_bind :
    (program >>= f).Meets ok post trace ↔
      program.Meets ok (fun value trace => (f value).Meets ok post trace) trace := by
  induction program generalizing trace with
  | done value => exact Iff.rfl
  | ask question next ih =>
    constructor
    · rintro ⟨allowed, rest⟩
      exact ⟨allowed, fun answer => (ih answer).mp (rest answer)⟩
    · rintro ⟨allowed, rest⟩
      exact ⟨allowed, fun answer => (ih answer).mpr (rest answer)⟩

theorem Meets.mono {post weaker : α → Trace Q A → Prop}
    (meets : program.Meets ok post trace)
    (weakens : ∀ value rest, post value (trace ++ rest) → weaker value (trace ++ rest)) :
    program.Meets ok weaker trace := by
  induction program generalizing trace with
  | done value =>
    rw [← append_nil trace]
    exact weakens value [] ((append_nil trace).symm ▸ meets)
  | ask question next ih =>
    refine ⟨meets.1, fun answer => ih answer (meets.2 answer) fun value rest => ?_⟩
    simpa using weakens value (⟨question, answer⟩ :: rest)

theorem Meets.keeps (kept : Trace Q A → Prop) {wider : Trace Q A → Q → Prop} {post : α → Trace Q A → Prop}
    (meets : program.Meets ok post trace) (starts : kept trace)
    (widens : ∀ trace question, ok trace question → wider trace question)
    (keeps : ∀ trace question answer, ok trace question → kept trace → kept (trace ++ [⟨question, answer⟩])) :
    program.Meets wider (fun value trace => post value trace ∧ kept trace) trace := by
  induction program generalizing trace with
  | done value => exact ⟨meets, starts⟩
  | ask question next ih =>
    exact ⟨widens _ _ meets.1, fun answer => ih answer (meets.2 answer) (keeps _ _ _ meets.1 starts)⟩

theorem Meets.of_bind {mid : α → Trace Q A → Prop} (meets : program.Meets ok mid trace)
    (continues : ∀ value rest, mid value (trace ++ rest) → (f value).Meets ok post (trace ++ rest)) :
    (program >>= f).Meets ok post trace :=
  meets_bind.mpr (meets.mono continues)

end meets

end Process

structure Worker (Q : Type) (A : Q → Type) where
  trace : Trace Q A
  rest : Process Q A Unit

structure Pool (S Q : Type) (A : Q → Type) where
  state : S
  workers : List (Worker Q A) := []

namespace Pool

variable {S Q : Type} {A : Q → Type}

section steps

variable (programs : Process Q A Unit → Prop) (answers : S → (question : Q) → A question → S → Prop)
  (guard : Pool S Q A → Trace Q A → Q → Prop)

/-- A program starts, or one worker's question is answered; `guard` limits the questions that are. -/
inductive Step : Pool S Q A → Pool S Q A → Prop
  | start {pool : Pool S Q A} {program : Process Q A Unit} (known : programs program) :
      Step pool { pool with workers := pool.workers ++ [⟨[], program⟩] }
  | answer {pool : Pool S Q A} {index : Nat} {trace : Trace Q A} {question : Q}
      {next : A question → Process Q A Unit} {answer : A question} {state : S}
      (found : pool.workers[index]? = some ⟨trace, .ask question next⟩)
      (met : guard pool trace question) (answered : answers pool.state question answer state) :
      Step pool ⟨state, pool.workers.set index ⟨trace ++ [⟨question, answer⟩], next answer⟩⟩

/-- The pools that runs from `state` without workers come to. -/
def Reaches (state : S) (pool : Pool S Q A) : Prop :=
  Relation.ReflTransGen (Step programs answers guard) ⟨state, []⟩ pool

end steps

variable {programs : Process Q A Unit → Prop} {answers : S → (question : Q) → A question → S → Prop}
  {guard : Pool S Q A → Trace Q A → Q → Prop}

/-- An invariant over all interleavings. A step may use that its pool is reached, and a step that answers a question
also that the question is one the worker's program may ask. -/
theorem Reaches.invariant {ok : Trace Q A → Q → Prop} {holds : Pool S Q A → Prop} {state : S}
    (meets : ∀ program, programs program → program.Meets ok (fun _ _ => True) []) (init : holds ⟨state, []⟩)
    (start : ∀ pool program, Reaches programs answers guard state pool → holds pool → programs program →
      holds { pool with workers := pool.workers ++ [⟨[], program⟩] })
    (answer : ∀ pool index trace question next answer after, Reaches programs answers guard state pool →
      holds pool → pool.workers[index]? = some ⟨trace, .ask question next⟩ → ok trace question →
      guard pool trace question → answers pool.state question answer after →
      holds ⟨after, pool.workers.set index ⟨trace ++ [⟨question, answer⟩], next answer⟩⟩)
    {pool : Pool S Q A} (reached : Reaches programs answers guard state pool) :
    holds pool ∧ ∀ worker ∈ pool.workers, worker.rest.Meets ok (fun _ _ => True) worker.trace := by
  induction reached with
  | refl => exact ⟨init, fun worker member => nomatch member⟩
  | @tail before after earlier step ih =>
    obtain ⟨inv, workers⟩ := ih
    cases step with
    | start known =>
      refine ⟨start _ _ earlier inv known, fun worker member => ?_⟩
      rcases mem_append.mp member with member | member
      · exact workers worker member
      · cases mem_singleton.mp member
        exact meets _ known
    | @answer index trace question next reply state found met answered =>
      have asked := workers _ (mem_of_getElem? found)
      refine ⟨answer _ _ _ _ _ _ _ earlier inv found asked.1 met answered, fun worker member => ?_⟩
      rcases mem_or_eq_of_mem_set member with member | rfl
      · exact workers worker member
      · exact asked.2 reply

/-- A move of a schedule: a program is started, or the question of a worker is answered in some environment. -/
inductive Move (P E : Type) where
  | start (program : P)
  | answer (index : Nat) (environment : E)

section schedules

variable {P E : Type} (program : P → Process Q A Unit) (reply : E → S → (question : Q) → A question × S)
  (allowed : Pool S Q A → Trace Q A → Q → Bool)

/-- Play a schedule, if each of its answers is to a worker that asks an allowed question. -/
def play : List (Move P E) → Pool S Q A → Option (Pool S Q A)
  | [], pool => some pool
  | .start new :: moves, pool => play moves { pool with workers := pool.workers ++ [⟨[], program new⟩] }
  | .answer index environment :: moves, pool =>
    match pool.workers[index]? with
    | some ⟨trace, .ask question next⟩ =>
      if allowed pool trace question then
        let answered := reply environment pool.state question
        play moves ⟨answered.2, pool.workers.set index ⟨trace ++ [⟨question, answered.1⟩], next answered.1⟩⟩
      else none
    | _ => none

variable {program reply allowed}

theorem play_reaches {state : S} {moves : List (Move P E)} {pool after : Pool S Q A}
    (known : ∀ new, programs (program new)) (sound : ∀ environment state question,
      answers state question (reply environment state question).1 (reply environment state question).2)
    (met : ∀ pool trace question, allowed pool trace question = true → guard pool trace question)
    (reached : Reaches programs answers guard state pool)
    (played : play program reply allowed moves pool = some after) :
    Reaches programs answers guard state after := by
  induction moves generalizing pool with
  | nil =>
    cases played
    exact reached
  | cons move moves ih =>
    cases move with
    | start new => exact ih (reached.tail (.start (known new))) played
    | answer index environment =>
      rw [play] at played
      split at played
      · rename_i trace question next found
        split at played
        · rename_i passes
          exact ih (reached.tail (.answer found (met _ _ _ passes) (sound _ _ _))) played
        · cases played
      · cases played

end schedules

end Pool

end Paje
