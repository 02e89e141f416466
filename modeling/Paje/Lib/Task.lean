import Paje.Lib.Process

/-!
Tasks: programs that ask questions, carry a state, and may stop before their end. `Holds` is the
weakest precondition of a task: one postcondition for a task that ends, one for a task that stops.
The lemmas about it are equivalences, so that `simp` runs a task up to the tasks that have a
specification of their own.
-/

namespace Paje

open Process

/-- A program over a state `σ` that may stop early. -/
abbrev Task (σ Q : Type) (A : Q → Type) (α : Type) := OptionT (StateT σ (Process Q A)) α

namespace Task

variable {σ Q : Type} {A : Q → Type} {α β : Type}

/-- Run a task: the value, `none` if it stopped, and the last state. -/
def start (task : Task σ Q A α) (state : σ) : Process Q A (Option α × σ) := (OptionT.run task).run state

def current : Task σ Q A σ := OptionT.lift get

def update (change : σ → σ) : Task σ Q A Unit := OptionT.lift (modify change)

def stop (change : σ → σ) : Task σ Q A α := OptionT.mk do
  modify change
  return none

def demand (condition : Prop) [Decidable condition] (change : σ → σ) : Task σ Q A Unit :=
  if condition then pure () else stop change

def expect {ε : Type} (result : Except ε α) (change : ε → σ → σ) : Task σ Q A α :=
  match result with
  | .ok value => pure value
  | .error error => stop (change error)

def call (program : Process Q A α) : Task σ Q A α := OptionT.lift (StateT.lift program)

def query (question : Q) : Task σ Q A (A question) := call (Process.perform question)

/-- From this state and trace the task asks only what `ok` allows; `post` holds where it ends and `stopped`
where it stops. -/
def Holds (ok : Trace Q A → Q → Prop) (post : α → σ → Trace Q A → Prop) (stopped : σ → Trace Q A → Prop)
    (task : Task σ Q A α) (state : σ) (trace : Trace Q A) : Prop :=
  (task.start state).Meets ok (fun result trace => match result.1 with
    | some value => post value result.2 trace
    | none => stopped result.2 trace) trace

section holds

variable {ok : Trace Q A → Q → Prop} {post : α → σ → Trace Q A → Prop} {stopped : σ → Trace Q A → Prop}
  {state : σ} {trace : Trace Q A}

@[simp] theorem holds_pure {value : α} :
    (pure value : Task σ Q A α).Holds ok post stopped state trace ↔ post value state trace := Iff.rfl

variable {task : Task σ Q A α} {after : β → σ → Trace Q A → Prop} {f : α → Task σ Q A β}

@[simp] theorem holds_bind :
    (task >>= f).Holds ok after stopped state trace ↔
      task.Holds ok (fun value state trace => (f value).Holds ok after stopped state trace) stopped state
        trace := by
  refine meets_bind.trans (iff_of_eq ?_)
  show Process.Meets ok _ _ trace = Process.Meets ok _ _ trace
  congr 1
  funext result trace
  obtain ⟨_ | value, state⟩ := result <;> rfl

variable {change : σ → σ}

@[simp] theorem holds_stop :
    (stop change : Task σ Q A α).Holds ok post stopped state trace ↔ stopped (change state) trace := Iff.rfl

@[simp] theorem holds_demand {condition : Prop} [Decidable condition]
    {post : Unit → σ → Trace Q A → Prop} : (demand condition change).Holds ok post stopped state trace ↔
      (condition → post () state trace) ∧ (¬ condition → stopped (change state) trace) := by
  unfold demand
  split <;> simp [*]

@[simp] theorem holds_expect {ε : Type} {result : Except ε α} {change : ε → σ → σ} :
    (expect result change : Task σ Q A α).Holds ok post stopped state trace ↔
      (∀ value, result = .ok value → post value state trace) ∧
        ∀ error, result = .error error → stopped (change error state) trace := by
  cases result <;> simp [expect]

@[simp] theorem holds_call {program : Process Q A α} :
    (call program : Task σ Q A α).Holds ok post stopped state trace ↔
      program.Meets ok (fun value trace => post value state trace) trace :=
  meets_bind.trans meets_bind

@[simp] theorem holds_query {question : Q} {post : A question → σ → Trace Q A → Prop} :
    (query question : Task σ Q A _).Holds ok post stopped state trace ↔
      ok trace question ∧ ∀ answer, post answer state (trace ++ [⟨question, answer⟩]) := holds_call

@[simp] theorem holds_update {post : Unit → σ → Trace Q A → Prop} :
    (update change : Task σ Q A Unit).Holds ok post stopped state trace ↔ post () (change state) trace := Iff.rfl

@[simp] theorem holds_current {post : σ → σ → Trace Q A → Prop} :
    (current : Task σ Q A σ).Holds ok post stopped state trace ↔ post state state trace := Iff.rfl

theorem Holds.mono {weaker : α → σ → Trace Q A → Prop} {halted : σ → Trace Q A → Prop}
    (holds : task.Holds ok post stopped state trace)
    (ends : ∀ value state rest, post value state (trace ++ rest) → weaker value state (trace ++ rest))
    (stops : ∀ state rest, stopped state (trace ++ rest) → halted state (trace ++ rest)) :
    task.Holds ok weaker halted state trace := by
  refine Process.Meets.mono holds fun result rest => ?_
  obtain ⟨_ | value, state⟩ := result
  · exact stops state rest
  · exact ends value state rest

theorem Holds.of_bind
    (holds : task.Holds ok post stopped state trace) (continues : ∀ value state trace, post value state trace →
      (f value).Holds ok after stopped state trace) : (task >>= f).Holds ok after stopped state trace :=
  holds_bind.mpr (holds.mono (fun value state _ => continues value state _) fun _ _ => id)

end holds

end Task

end Paje
