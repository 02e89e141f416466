import Paje.Control.System

/-!
Names of attempts. An attempt is stored under a hash of values joined with NULs, so two attempts get
one name when a task ID holds a NUL.
-/

namespace Paje.Control

open Text Journal Table

variable {snapshot : Snapshot}

def TaskGraph.Plain (graph : TaskGraph) : Prop := ∀ task ∈ graph.tasks, NulFree task.id

theorem newSnapshot_plain {graph : TaskGraph}
    (tasks : snapshot.graph.edges = graph.edges) (plain : graph.Plain) : snapshot.graph.Plain := by
  intro task member
  obtain ⟨other, known, same, _⟩ := TaskGraph.of_edges tasks member
  exact same ▸ plain other known

variable [sha : Sha]
variable {attempt : PlacementAttempt} {next : Snapshot} {id : String}

instance (graph : TaskGraph) : Decidable graph.Plain :=
  inferInstanceAs (Decidable (∀ task ∈ graph.tasks, NulFree task.id))

/-- No graph that a call brings has a task ID with a NUL. -/
def PlainTasks (_ : Store) : Call → Prop
  | .create _ graph => graph.Plain
  | .change _ (.updateGraph _ graph) => graph.Plain
  | _ => True

instance (store : Store) (call : Call) : Decidable (PlainTasks store call) := by
  unfold PlainTasks
  split <;> infer_instance

inductive Given (snapshot : Snapshot) (id : String) (attempt : PlacementAttempt) : Prop where
  | numbered (task : String) (revision number : Nat) (plain : NulFree task)
      (bound : number ≤ snapshot.attempts.entries.length)
      (name : id = stableID "attempt" [snapshot.run.id, task, toString revision, toString number])
  | promoted (task handoffID : String) (plain : NulFree task)
      (source : NulFree attempt.promotedFromAttemptID)
      (name : id = stableID "attempt" [snapshot.run.id, task, "promotion", attempt.promotedFromAttemptID, handoffID])

structure Snapshot.Titled (snapshot : Snapshot) : Prop where
  tasks : snapshot.graph.Plain
  attempts : ∀ id attempt, snapshot.attempts.get? id = some attempt → Given snapshot id attempt

theorem Given.nulFree (names : sha.Names) (given : Given snapshot id attempt) : NulFree id := by
  cases given with
  | numbered _ _ _ _ _ name => exact name ▸ nulFree_stableID names (by decide) _
  | promoted _ _ _ _ name => exact name ▸ nulFree_stableID names (by decide) _

theorem names_split (names : sha.Names) {run one two a b : String} {ones twos : List String}
    (ha : NulFree a) (hb : NulFree b)
    (same : stableID "attempt" (run :: a :: one :: ones) = stableID "attempt" (run :: b :: two :: twos)) :
    joinNul (one :: ones) = joinNul (two :: twos) := by
  have seeds := names.apart _ _ (append_left_cancel same)
  exact (joinNul_first ha hb (joinNul_rest (joinNul_rest seeds))).2

theorem Named.fresh (names : sha.Names) (titled : snapshot.Titled)
    (task : (taskByID snapshot.graph attempt.taskID).isSome = true)
    (named : Named snapshot attempt) : snapshot.attempts.get? attempt.id = none := by
  have plain : NulFree attempt.taskID := by
    obtain ⟨found, lookup⟩ := Option.isSome_iff_exists.mp task
    obtain ⟨listed, same⟩ := Keyed.lookup_mem lookup
    exact same ▸ titled.tasks found listed
  have number : ∀ n : Nat, toString n ≠ "promotion" := by
    intro n same
    have member : 'p' ∈ (toString n).toList := by
      rw [same]
      decide
    exact absurd (isDigit_toString member) (by decide)
  cases found : snapshot.attempts.get? attempt.id with
  | none => rfl
  | some old =>
    exfalso
    cases titled.attempts _ old found with
    | numbered oldTask oldRevision oldNumber oldPlain bound oldName =>
      cases named with
      | numbered revision _ name =>
        have rest := names_split names plain oldPlain (name.symm.trans oldName)
        obtain ⟨_, rest⟩ := joinNul_first (nulFree_toString _) (nulFree_toString _) rest
        have same := toString_nat_inj rest
        omega
      | promoted handoffID source held first name =>
        have rest := names_split names plain oldPlain (name.symm.trans oldName)
        obtain ⟨same, _⟩ := joinNul_first (by decide) (nulFree_toString _) rest
        exact number _ same.symm
    | promoted oldTask oldHandoff oldPlain oldSource oldName =>
      cases named with
      | numbered revision _ name =>
        have rest := names_split names plain oldPlain (name.symm.trans oldName)
        obtain ⟨same, _⟩ := joinNul_first (nulFree_toString _) (by decide) rest
        exact number _ same
      | promoted handoffID source held first name =>
        have rest := names_split names plain oldPlain (name.symm.trans oldName)
        obtain ⟨_, rest⟩ := joinNul_first (by decide) (by decide) rest
        have plainSource := (titled.attempts _ source held).nulFree names
        obtain ⟨same, _⟩ := joinNul_first plainSource oldSource rest
        exact first _ old found same.symm

variable {graph : Option TaskGraph}

theorem Effect.continues (names : sha.Names)
    (effect : Effect graph snapshot next) (titled : snapshot.Titled)
    (found : snapshot.attempts.get? id = some attempt) :
    ∃ after, next.attempts.get? id = some after ∧ attempt.Continues after := by
  cases effect.attempts with
  | same same => exact ⟨attempt, same ▸ found, .refl attempt⟩
  | continued before after held continues _ _ put =>
    rw [put, get?_put]
    split
    · rename_i same
      subst same
      rw [held] at found
      cases found
      exact ⟨after, rfl, continues⟩
    · exact ⟨attempt, found, .refl attempt⟩
  | placed placed _ _ task _ named put =>
    rw [put, get?_put_other]
    · exact ⟨attempt, found, .refl attempt⟩
    · rintro rfl
      rw [named.fresh names titled task] at found
      cases found

theorem Effect.placed (effect : Effect graph snapshot next)
    (new : snapshot.attempts.get? id = none) (found : next.attempts.get? id = some attempt) :
    attemptTerminal attempt.state = false ∧ next.attempts = snapshot.attempts.put attempt.id attempt := by
  cases effect.attempts with
  | same same =>
    rw [same, new] at found
    cases found
  | continued before after held _ _ _ put =>
    rw [put, get?_put] at found
    split at found
    · rename_i same
      rw [same, held] at new
      cases new
    · rw [new] at found
      cases found
  | placed placed lives _ _ _ _ put =>
    rw [put, get?_put] at found
    split at found
    · cases found
      exact ⟨lives, put⟩
    · rw [new] at found
      cases found

theorem Saves.titled (names : sha.Names) {store : Store} {call : Call}
    {current : Snapshot} (plain : PlainTasks store call) (titled : current.Titled)
    (saves : Saves call id current next) : next.Titled := by
  obtain ⟨revision, effect, brings⟩ := saves.effect
  have tasks : next.graph.Plain := by
    cases revision with
    | none => exact newSnapshot_plain (effect.tasks rfl).1 titled.tasks
    | some graph =>
      obtain ⟨expected, rfl⟩ := brings graph rfl
      rw [(effect.updated graph rfl).1]
      exact plain
  refine ⟨tasks, ?_⟩
  -- a name made earlier counts no more attempts than there are now
  have keep : ∀ key attempt, current.attempts.get? key = some attempt → ∀ after : PlacementAttempt,
      after.promotedFromAttemptID = attempt.promotedFromAttemptID →
      current.attempts.entries.length ≤ next.attempts.entries.length → Given next key after := by
    intro key attempt held after same more
    cases titled.attempts key attempt held with
    | numbered task revision number plain bound name =>
      exact .numbered task revision number plain (bound.trans more) (effect.runID ▸ name)
    | promoted task handoffID plain source name =>
      exact .promoted task handoffID plain (same ▸ source) (by rw [effect.runID, same]; exact name)
  intro key attempt found
  cases effect.attempts with
  | same same =>
    rw [same] at found
    exact keep key attempt found attempt rfl (by rw [same])
  | continued before after held continues _ _ put =>
    have length : next.attempts.entries.length = current.attempts.entries.length := by
      rw [put, length_put_held held]
    rw [put, get?_put] at found
    split at found
    · rename_i same
      subst same
      cases found
      exact keep before.id before held attempt continues.promoted length.ge
    · exact keep key attempt found attempt rfl length.ge
  | placed placed _ _ task _ named put =>
    have length : next.attempts.entries.length = current.attempts.entries.length + 1 := by
      rw [put, length_put_fresh (named.fresh names titled task)]
    rw [put, get?_put] at found
    split at found
    · rename_i same
      subst same
      cases found
      obtain ⟨known, lookup⟩ := Option.isSome_iff_exists.mp task
      obtain ⟨listed, sameID⟩ := Keyed.lookup_mem lookup
      have plain : NulFree attempt.taskID := sameID ▸ titled.tasks known listed
      cases named with
      | numbered revision _ name =>
        exact .numbered _ revision _ plain length.ge (by rw [effect.runID]; exact name)
      | promoted handoffID source held _ name =>
        exact .promoted _ handoffID plain ((titled.attempts _ source held).nulFree names)
          (by rw [effect.runID]; exact name)
    · exact keep key attempt found attempt rfl (by omega)

theorem newSnapshot_titled {run : ControlRun} {graph : TaskGraph}
    (plain : graph.Plain) (new : newSnapshot run graph = .ok snapshot) : snapshot.Titled := by
  obtain ⟨_, _, attempts, _, _, tasks⟩ := newSnapshot_ok new
  refine ⟨newSnapshot_plain tasks plain, ?_⟩
  intro key attempt held
  rw [attempts] at held
  exact (no_attempt held).elim

theorem Steps.titled (names : sha.Names) {allowed : Store → Call → Prop} {journal : MemoryStore}
    {store : Store} (plain : ∀ store call, allowed store call → PlainTasks store call)
    (steps : Steps allowed { journal } store) (found : store.records.get? id = some snapshot) : snapshot.Titled := by
  refine Steps.records (P := Snapshot.Titled) ?_ ?_ steps id snapshot found
  · intro store run graph now snapshot admitted new
    exact newSnapshot_titled (plain store _ admitted) new
  · intro store call id current next admitted _ titled saves
    exact saves.titled names (plain store call admitted) titled

end Paje.Control
