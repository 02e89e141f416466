import Paje.Control.Frame
import Paje.Control.Names
import Paje.Control.Ownership

/-!
Ownership of live work. The graph excludes overlapping ownership between tasks in an active state;
it says something about live attempts only while their tasks stay in an active state.
-/

namespace Paje.Control

open Text Journal List Table Store

variable {call : Call} {current next snapshot : Snapshot} {id key : String} {task : Task}
variable {attempt : PlacementAttempt}

section writers

theorem mem_liveAttempts
    (found : snapshot.attempts.get? id = some attempt) (live : attemptTerminal attempt.state = false) :
    attempt ∈ liveAttempts snapshot :=
  mem_filter.mpr ⟨mem_values.mpr ⟨id, found⟩, by simp [live]⟩

theorem liveTasks_apart {attempts : Table PlacementAttempt} (nodup : (liveTasks attempts).Nodup)
    {first second : PlacementAttempt} (one : first ∈ attempts.values) (two : second ∈ attempts.values)
    (oneLive : attemptTerminal first.state = false) (twoLive : attemptTerminal second.state = false)
    (task : first.taskID = second.taskID) : first = second :=
  inj_on_of_nodup_map nodup (mem_filter.mpr ⟨one, by simp [oneLive]⟩)
    (mem_filter.mpr ⟨two, by simp [twoLive]⟩) task

theorem taskState_of_taskByID {graph : TaskGraph}
    (found : taskByID graph id = some task) : task.state ∈ taskState graph id := by
  unfold taskState
  rw [found]
  rfl

/-- Two live attempts, whose tasks share a repository and a base. -/
structure LiveWriters (snapshot : Snapshot) (one two : String) (first second : Task) : Prop where
  different : one ≠ two
  oneLive : ∃ attempt, snapshot.attempts.get? one = some attempt ∧ attemptTerminal attempt.state = false ∧
    taskByID snapshot.graph attempt.taskID = some first
  twoLive : ∃ attempt, snapshot.attempts.get? two = some attempt ∧ attemptTerminal attempt.state = false ∧
    taskByID snapshot.graph attempt.taskID = some second
  shared : sameProject first second = true

theorem LiveWriters.of_held {one two : String} {P : Task → Task → Prop} (different : one ≠ two)
    (held : ∃ mine, snapshot.attempts.get? one = some mine ∧ ∃ theirs, snapshot.attempts.get? two = some theirs ∧
      attemptTerminal mine.state = false ∧ attemptTerminal theirs.state = false ∧
      ∃ first, taskByID snapshot.graph mine.taskID = some first ∧
      ∃ second, taskByID snapshot.graph theirs.taskID = some second ∧ sameProject first second = true ∧
        P first second) : ∃ first second, LiveWriters snapshot one two first second ∧ P first second := by
  obtain ⟨mine, oneHeld, theirs, twoHeld, oneLive, twoLive, first, firstFound, second, secondFound, shared, holds⟩ :=
    held
  exact ⟨first, second,
    ⟨different, ⟨mine, oneHeld, oneLive, firstFound⟩, ⟨theirs, twoHeld, twoLive, secondFound⟩, shared⟩, holds⟩

theorem validPromotionSave_new {nextTask : Task} (h : validPromotionSave current next task nextTask = true) :
    ∃ key attempt, current.attempts.get? key = none ∧ next.attempts.get? key = some attempt ∧
      attempt.taskID = task.id := by
  simp only [validPromotionSave, Bool.and_eq_true, decide_eq_true_eq] at h
  obtain ⟨entry, single⟩ := length_eq_one_iff.mp h.2
  have member := mem_filter.mp (single ▸ mem_singleton_self entry)
  simp only [Bool.and_eq_true, decide_eq_true_eq, Option.isNone_iff_eq_none] at member
  exact ⟨entry.1, entry.2, member.2.1.1, mem_entries.mp member.1, member.2.1.2⟩

variable [sha : Sha]

/-! ### States of the tasks of live attempts -/

/-- Every revision that a call brings leaves the tasks of live attempts in states of `P`. -/
def UpdatesKeep (P : TaskState → Bool) (store : Store) : Call → Prop
  | .change id (.updateGraph _ graph) => ∀ current ∈ store.records.get? id,
      ∀ attempt ∈ liveAttempts current, ∀ state ∈ taskState graph attempt.taskID, P state = true
  | _ => True

instance (P : TaskState → Bool) (store : Store) (call : Call) : Decidable (UpdatesKeep P store call) :=
  decidable_of_iff ((match call with
    | .change id (.updateGraph _ graph) => decide (∀ current ∈ store.records.get? id,
      ∀ attempt ∈ liveAttempts current, ∀ state ∈ taskState graph attempt.taskID, P state = true)
    | _ => true) = true) (by unfold UpdatesKeep; split <;> simp)

/-- The tasks of live attempts are in states of `P`. -/
def Snapshot.LiveIn (P : TaskState → Bool) (snapshot : Snapshot) : Prop :=
  ∀ id attempt, snapshot.attempts.get? id = some attempt → attemptTerminal attempt.state = false →
    ∀ state ∈ taskState snapshot.graph attempt.taskID, P state = true

theorem Effect.lives {graph : Option TaskGraph} (effect : Effect graph snapshot next)
    (found : next.attempts.get? id = some attempt) (live : attemptTerminal attempt.state = false) :
    (∀ state ∈ taskState next.graph attempt.taskID, taskBoundaryActive state = true) ∨
      ∃ before, snapshot.attempts.get? id = some before ∧ attemptTerminal before.state = false ∧
        before.taskID = attempt.taskID := by
  cases effect.attempts with
  | same same => exact .inr ⟨attempt, same ▸ found, live, rfl⟩
  | continued before after held continues lives _ put =>
    rw [put, get?_put] at found
    split at found
    · rename_i same
      subst same
      cases found
      rcases lives live with alive | active
      · exact .inr ⟨before, held, alive, continues.taskID.symm⟩
      · exact .inl active
    · exact .inr ⟨attempt, found, live, rfl⟩
  | placed placed _ _ _ active _ put =>
    rw [put, get?_put] at found
    split at found
    · cases found
      exact .inl active
    · exact .inr ⟨attempt, found, live, rfl⟩

variable {P : TaskState → Bool}

theorem Saves.liveIn (active : ∀ state, taskBoundaryActive state = true → P state = true)
    {store : Store} (keeps : UpdatesKeep P store call) (found : store.records.get? id = some current)
    (before : current.LiveIn P) (saves : Saves call id current next) : next.LiveIn P := by
  obtain ⟨revision, effect, brings⟩ := saves.effect
  intro key attempt held live state member
  rcases effect.lives held live with now | ⟨old, oldHeld, oldLive, task⟩
  · exact active state (now state member)
  cases revision with
  | none =>
    rcases (effect.tasks rfl).2 _ _ member with now | same
    · exact active state now
    · exact before key old oldHeld oldLive state (task ▸ same)
  | some graph =>
    obtain ⟨expected, rfl⟩ := brings graph rfl
    rw [(effect.updated graph rfl).1] at member
    exact keeps current found old (mem_liveAttempts oldHeld oldLive) state (task ▸ member)

theorem Steps.liveIn (active : ∀ state, taskBoundaryActive state = true → P state = true)
    {allowed : Store → Call → Prop} {journal : MemoryStore} {store : Store}
    (keeps : ∀ store call, allowed store call → UpdatesKeep P store call) (steps : Steps allowed { journal } store)
    (found : store.records.get? id = some snapshot) : snapshot.LiveIn P := by
  refine Steps.records (P := Snapshot.LiveIn P) ?_ ?_ steps id snapshot found
  · intro store run graph now snapshot _ new key attempt held
    rw [(newSnapshot_ok new).2.2.1] at held
    exact (no_attempt held).elim
  · intro store call id current next admitted held before saves
    exact saves.liveIn active (keeps store call admitted) held before

/-- No path belongs to two live attempts whose tasks share a repository and a base, in every run whose
revisions leave the tasks of live attempts ready or in progress, unless a task owns the bare wildcard. -/
theorem live_writers_disjoint {journal : MemoryStore} {store : Store}
    (steps : Steps (UpdatesKeep ownershipActive) { journal } store) {id : String} {snapshot : Snapshot}
    (found : store.records.get? id = some snapshot) {one two : String} {first second : Task}
    (writers : LiveWriters snapshot one two first second) (plainFirst : "**" ∉ first.ownership.mutable)
    (plainSecond : "**" ∉ second.ownership.mutable) {path : String} (relative : relativePath path = true) :
    ¬ (first.ownership.covers path = true ∧ second.ownership.covers path = true) := by
  obtain ⟨different, ⟨mine, oneHeld, oneLive, firstFound⟩, ⟨theirs, twoHeld, twoLive, secondFound⟩, shared⟩ := writers
  have sound := (Steps.kept steps (kept_start journal) id snapshot found).2
  have owned := Steps.liveIn (P := ownershipActive) (fun state active => by simp [ownershipActive, active])
    (fun _ _ keeps => keeps) steps found
  have tasks : mine.taskID ≠ theirs.taskID := by
    intro task
    have same := liveTasks_apart sound.live (mem_values.mpr ⟨one, oneHeld⟩)
      (mem_values.mpr ⟨two, twoHeld⟩) oneLive twoLive task
    exact different ((sound.attempt_id oneHeld).symm.trans (same ▸ sound.attempt_id twoHeld))
  obtain ⟨firstListed, firstID⟩ := Keyed.lookup_mem firstFound
  obtain ⟨secondListed, secondID⟩ := Keyed.lookup_mem secondFound
  have apart : first ≠ second := by
    intro same
    exact tasks (firstID.symm.trans (same ▸ secondID))
  have symmetric : Std.Symm fun first second => ownershipConflict first second = false :=
    ⟨fun a b free => (ownershipConflict_comm b a).trans free⟩
  have free := (validateGraph_ownership sound.graph).forall firstListed secondListed apart
  rintro ⟨covered, coveredToo⟩
  have overlaps := ownershipOverlaps_covers (validateGraph_patterns sound.graph firstListed)
    (validateGraph_patterns sound.graph secondListed) plainFirst plainSecond relative covered
    coveredToo
  simp [ownershipConflict, shared, owned one mine oneHeld oneLive _ (taskState_of_taskByID firstFound),
    owned two theirs twoHeld twoLive _ (taskState_of_taskByID secondFound), overlaps] at free

/-! ### The boundary of dispatched work -/

def Task.boundary (task : Task) : String × List ProjectRef × Ownership × List FrozenInput :=
  (task.goal, task.projects, task.ownership, task.frozenInputs)

/-- Task IDs without NULs, and revisions that leave the tasks of live attempts in progress. -/
def Orderly (store : Store) (call : Call) : Prop :=
  PlainTasks store call ∧ UpdatesKeep taskBoundaryActive store call

instance (store : Store) (call : Call) : Decidable (Orderly store call) :=
  inferInstanceAs (Decidable (_ ∧ _))

def LiveAt (id key : String) (store : Store) : Prop :=
  ∃ snapshot attempt, store.records.get? id = some snapshot ∧
    snapshot.attempts.get? key = some attempt ∧ attemptTerminal attempt.state = false

instance (id key : String) (store : Store) : Decidable (LiveAt id key store) :=
  decidable_of_iff ((store.records.get? id).any (fun snapshot =>
    (snapshot.attempts.get? key).any fun attempt => !attemptTerminal attempt.state) = true) (by
      simp only [LiveAt, Option.any_eq_true, Bool.not_eq_true']
      exact ⟨fun ⟨snapshot, found, attempt, held, live⟩ => ⟨snapshot, attempt, found, held, live⟩,
        fun ⟨snapshot, attempt, found, held, live⟩ => ⟨snapshot, found, attempt, held, live⟩⟩)

theorem Saves.boundary (saves : Saves call id current next)
    (held : current.attempts.get? key = some attempt) (live : attemptTerminal attempt.state = false)
    (found : taskByID current.graph attempt.taskID = some task) (active : taskBoundaryActive task.state = true) :
    ∃ nextTask, taskByID next.graph attempt.taskID = some nextTask ∧ nextTask.boundary = task.boundary := by
  obtain ⟨listed, same⟩ := Keyed.lookup_mem found
  obtain ⟨nextTask, nextFound, ⟨goal, projects, frozen⟩, owned⟩ :=
    require_ok (saves.succeeds.tasks task listed) active
  rw [same] at nextFound
  refine ⟨nextTask, nextFound, ?_⟩
  rcases owned with ⟨ownership, _⟩ | promotes
  · simp only [Task.boundary, goal, projects, ownership, frozen]
  -- a promotion would give the task a second live attempt
  · obtain ⟨other, placed, new, placedHeld, placedTask⟩ := validPromotionSave_new promotes
    obtain ⟨_, effect, _⟩ := saves.effect
    obtain ⟨placedLive, put⟩ := effect.placed new placedHeld
    have placedID := saves.nextSound.attempt_id placedHeld
    have apart : key ≠ placed.id := by
      rintro rfl
      rw [placedID, new] at held
      cases held
    have stays : next.attempts.get? key = some attempt := by
      rw [put, get?_put_other _ _ apart, held]
    have one := liveTasks_apart saves.nextSound.live (mem_values.mpr ⟨key, stays⟩)
      (mem_values.mpr ⟨other, placedHeld⟩) live placedLive (same.symm.trans placedTask.symm)
    exact absurd ((saves.sound.attempt_id held).symm.trans (congrArg PlacementAttempt.id one)) apart

def Bounded (key taskID : String) (boundary : String × List ProjectRef × Ownership × List FrozenInput)
    (snapshot : Snapshot) : Prop :=
  ∃ attempt task, snapshot.attempts.get? key = some attempt ∧ attempt.taskID = taskID ∧
    taskByID snapshot.graph taskID = some task ∧ task.boundary = boundary

theorem Saves.bounded (names : sha.Names) {taskID : String}
    {boundary : String × List ProjectRef × Ownership × List FrozenInput}
    (saves : Saves call id current next) (titled : current.Titled) (active : current.LiveIn taskBoundaryActive)
    (held : current.attempts.get? key = some attempt) (live : attemptTerminal attempt.state = false)
    (bounded : Bounded key taskID boundary current) : Bounded key taskID boundary next := by
  obtain ⟨_, task, again, rfl, found, same⟩ := bounded
  rw [held] at again
  cases again
  obtain ⟨nextTask, nextFound, kept⟩ := saves.boundary held live found
    (active key attempt held live _ (taskState_of_taskByID found))
  obtain ⟨_, effect, _⟩ := saves.effect
  obtain ⟨after, afterHeld, continues⟩ := effect.continues names titled held
  exact ⟨after, nextTask, afterHeld, continues.taskID, nextFound, kept.trans same⟩

/-- While an attempt lives, the goal, projects, ownership and frozen inputs of its task stay, in
every run whose revisions leave the tasks of live attempts in progress. -/
theorem boundary_frozen (names : sha.Names) {journal : MemoryStore} {store later : Store}
    (steps : Steps Orderly { journal } store) {id key : String} {snapshot : Snapshot}
    {attempt : PlacementAttempt} {task : Task} (found : store.records.get? id = some snapshot)
    (held : snapshot.attempts.get? key = some attempt)
    (taskFound : taskByID snapshot.graph attempt.taskID = some task)
    (onward : Steps (fun store call => Orderly store call ∧ LiveAt id key store) store later) :
    ∃ last lastAttempt lastTask, later.records.get? id = some last ∧
      last.attempts.get? key = some lastAttempt ∧ lastAttempt.taskID = attempt.taskID ∧
      taskByID last.graph attempt.taskID = some lastTask ∧ lastTask.boundary = task.boundary := by
  have titled := Steps.titled names (fun _ _ orderly => orderly.1) steps found
  have active := Steps.liveIn (P := taskBoundaryActive) (fun _ active => active)
    (fun _ _ orderly => orderly.2) steps found
  have keeps : ∀ store call current next, store.Kept → Orderly store call ∧ LiveAt id key store →
      store.records.get? id = some current →
      Bounded key attempt.taskID task.boundary current ∧ current.Titled ∧ current.LiveIn taskBoundaryActive →
      Saves call id current next → Bounded key attempt.taskID task.boundary next ∧ next.Titled ∧
        next.LiveIn taskBoundaryActive := by
    rintro store call current next _ ⟨orderly, holder, now, here, nowHeld, live⟩ also ⟨bounded, titled, active⟩ saves
    rw [also] at here
    cases here
    exact ⟨saves.bounded names titled active nowHeld live bounded,
      saves.titled names orderly.1 titled, saves.liveIn (fun _ active => active) orderly.2 also active⟩
  obtain ⟨last, lastFound, ⟨lastAttempt, lastTask, lastHeld, sameTask, lastTaskFound, same⟩, _⟩ :=
    Steps.record onward (Steps.kept steps (kept_start journal)) keeps found
      ⟨⟨attempt, task, held, rfl, taskFound, rfl⟩, titled, active⟩
  exact ⟨last, lastAttempt, lastTask, lastFound, lastHeld, sameTask, lastTaskFound, same⟩

end writers

def sampleDigest : String := "sha256:0000000000000000000000000000000000000000000000000000000000000000"

def sampleSHA : String := "0000000000000000000000000000000000000000"

/-- A harness that offers every primitive with what it requires and runtime identities. -/
def CapabilitySnapshot.sample : CapabilitySnapshot :=
  let offer (primitive : Primitive) : Option PrimitiveCapabilities :=
    some { primitive, capabilities := .runtimeIdentity :: .observe :: requiredCapabilities primitive }
  { harnessID := "harness"
    primitives := {
      persistentSession := offer .persistentSession
      ephemeralSubagent := offer .ephemeralSubagent
      harnessNativeParallel := offer .harnessNativeParallel
      localSequential := offer .localSequential } }

def ProjectRef.sample (id : String) : ProjectRef where
  id
  repository := "repository"
  baseRef := "main"
  baseSHA := sampleSHA
  workspaceScope := "workspace"
  credentialScope := "credential"
  mailboxNamespace := "mailbox"
  evidenceNamespace := "evidence"

def Task.sample (id : String) (primitive : Primitive) (mutable : List String) (state : TaskState) : Task where
  id
  goal := "goal"
  projects := [.sample id]
  ownership := { mutable }
  placement := {
    parallelismPrimitive := primitive
    executionPlacement := "place"
    placementRationale := "reason"
    capabilityRequirements := requiredCapabilities primitive
    lifecycleOwner := "owner"
    fallback := "block"
    promotionTrigger := promotionTriggerNone }
  frozenInputs := [⟨"input", sampleDigest⟩]
  acceptance := [{ id := "gate", digest := sampleDigest }]
  state

def TaskGraph.sample (revision : UInt64) (tasks : List Task) : TaskGraph where
  controlRunID := "run"
  revision
  tasks
  integrationOrder := tasks.map (·.id)
  combinedGates := [{ id := "gate", digest := sampleDigest, passed := true, evidence := sampleDigest }]

def ControlRun.sample : ControlRun where
  id := "run"
  principalID := "principal"
  goalDigest := sampleDigest
  graphRevision := 1
  status := .opened

def Store.sample : Store := { journal := { installationID := "installation" } }

attribute [local instance] Sha.spelled

def firstAttempt : String := stableID "attempt" ["run", "a", "1", "1"]

def secondAttempt : String := stableID "attempt" ["run", "b", "2", "2"]

def separateWriters : List Call :=
  [.create .sample (.sample 1 [.sample "a" .localSequential ["src/**"] .ready]),
    .change "run" (.createAttempt "a" .sample),
    .change "run" (.updateGraph 1 (.sample 2 [.sample "a" .localSequential ["src/**"] .active,
      .sample "b" .localSequential ["docs/**"] .ready])),
    .change "run" (.createAttempt "b" .sample)]

theorem live_writers_disjoint_separate :
    Steps (UpdatesKeep ownershipActive) sample (sample.after separateWriters) ∧
      ∃ snapshot first second, (sample.after separateWriters).records.get? "run" = some snapshot ∧
        LiveWriters snapshot firstAttempt secondAttempt first second ∧
        ¬ (first.ownership.covers "src/a" = true ∧ second.ownership.covers "src/a" = true) := by
  have steps : Steps (UpdatesKeep ownershipActive) sample (sample.after separateWriters) :=
    admits_steps (by decide +kernel)
  obtain ⟨snapshot, found, held⟩ :=
    (by decide +kernel : ∃ snapshot, (sample.after separateWriters).records.get? "run" = some snapshot ∧
      ∃ mine, snapshot.attempts.get? firstAttempt = some mine ∧
      ∃ theirs, snapshot.attempts.get? secondAttempt = some theirs ∧
        attemptTerminal mine.state = false ∧ attemptTerminal theirs.state = false ∧
      ∃ first, taskByID snapshot.graph mine.taskID = some first ∧
      ∃ second, taskByID snapshot.graph theirs.taskID = some second ∧ sameProject first second = true ∧
        "**" ∉ first.ownership.mutable ∧ "**" ∉ second.ownership.mutable)
  obtain ⟨first, second, writers, plain⟩ := LiveWriters.of_held (by decide +kernel) held
  exact ⟨steps, snapshot, first, second, found, writers,
    live_writers_disjoint steps found writers plain.1 plain.2 (by decide)⟩

/-- The revision marks the task of a live attempt completed; the next task takes the same files. -/
def overlappingWriters : List Call :=
  [.create .sample (.sample 1 [.sample "a" .localSequential ["src/**"] .ready,
      .sample "b" .localSequential ["src/**"] .pending]),
    .change "run" (.createAttempt "a" .sample),
    .change "run" (.updateGraph 1 (.sample 2 [.sample "a" .localSequential ["src/**"] .completed,
      .sample "b" .localSequential ["src/**"] .pending])),
    .change "run" (.createAttempt "b" .sample)]

def wildAttempt : String := stableID "attempt" ["run", "b", "1", "2"]

/-- The test finds no overlap between the bare wildcard and `src/**`. -/
def wildWriters : List Call :=
  [.create .sample (.sample 1 [.sample "a" .localSequential ["**"] .ready,
      .sample "b" .localSequential ["src/**"] .ready]),
    .change "run" (.createAttempt "a" .sample),
    .change "run" (.createAttempt "b" .sample)]

/-- After these calls the tasks of two live attempts both own `src/a`. -/
def Overlapping (calls : List Call) (other : String) : Prop :=
  ∃ snapshot, (sample.after calls).records.get? "run" = some snapshot ∧ ∃ first second,
    LiveWriters snapshot firstAttempt other first second ∧ Steps (fun _ _ => True) sample (sample.after calls) ∧
      relativePath "src/a" = true ∧ first.ownership.covers "src/a" = true ∧ second.ownership.covers "src/a" = true

theorem Overlapping.of_held {calls : List Call} {other : String} (held : ∃ snapshot,
    (sample.after calls).records.get? "run" = some snapshot ∧ firstAttempt ≠ other ∧
      ∃ mine, snapshot.attempts.get? firstAttempt = some mine ∧
      ∃ theirs, snapshot.attempts.get? other = some theirs ∧
        attemptTerminal mine.state = false ∧ attemptTerminal theirs.state = false ∧
      ∃ first, taskByID snapshot.graph mine.taskID = some first ∧
      ∃ second, taskByID snapshot.graph theirs.taskID = some second ∧ sameProject first second = true ∧
        relativePath "src/a" = true ∧ first.ownership.covers "src/a" = true ∧
        second.ownership.covers "src/a" = true) : Overlapping calls other := by
  obtain ⟨snapshot, found, different, held⟩ := held
  obtain ⟨first, second, writers, covered⟩ := LiveWriters.of_held different held
  exact ⟨snapshot, found, first, second, writers, after_steps _ _, covered⟩

theorem live_writers_overlap :
    Overlapping overlappingWriters secondAttempt ∧ Overlapping wildWriters wildAttempt := by
  constructor
  · exact .of_held (by decide +kernel)
  · exact .of_held (by decide +kernel)

theorem boundary_frozen_separate : Sha.spelled.Names ∧ ∃ snapshot task last lastTask,
    (sample.after (separateWriters.take 2)).records.get? "run" = some snapshot ∧
      taskByID snapshot.graph "a" = some task ∧
      ((sample.after (separateWriters.take 2)).after (separateWriters.drop 2)).records.get? "run" = some last ∧
      taskByID last.graph "a" = some lastTask ∧ lastTask.boundary = task.boundary := by
  have steps : Steps Orderly sample (sample.after (separateWriters.take 2)) :=
    admits_steps (by decide +kernel)
  have onward : Steps (fun store call => Orderly store call ∧ LiveAt "run" firstAttempt store)
      (sample.after (separateWriters.take 2))
      ((sample.after (separateWriters.take 2)).after (separateWriters.drop 2)) :=
    admits_steps (by decide +kernel)
  obtain ⟨snapshot, found, attempt, held, named, task, taskFound, -⟩ : ∃ snapshot,
      (sample.after (separateWriters.take 2)).records.get? "run" = some snapshot ∧
      ∃ attempt, snapshot.attempts.get? firstAttempt = some attempt ∧ attempt.taskID = "a" ∧
      ∃ task, taskByID snapshot.graph attempt.taskID = some task ∧ task.id = "a" := by decide +kernel
  obtain ⟨last, _, lastTask, lastFound, _, _, lastTaskFound, same⟩ :=
    boundary_frozen Sha.spelled_names steps found held taskFound onward
  rw [named] at taskFound lastTaskFound
  exact ⟨Sha.spelled_names, snapshot, task, last, lastTask, found, taskFound, lastFound, lastTaskFound, same⟩

/-- Two revisions: the first takes the task of a live attempt back, the second gives it a new goal. -/
def rewrittenTask : List Call :=
  [.change "run" (.updateGraph 1 (.sample 2 [.sample "a" .localSequential ["src/**"] .pending])),
    .change "run" (.updateGraph 2 (.sample 3 [{ Task.sample "a" .localSequential ["docs/**"] .pending with
      goal := "another goal" }]))]

theorem boundary_rewritten : ∃ store later snapshot last attempt lastAttempt task lastTask,
    Steps (fun _ _ => True) sample store ∧ Steps (fun store _ => LiveAt "run" firstAttempt store) store later ∧
      store.records.get? "run" = some snapshot ∧ later.records.get? "run" = some last ∧
      snapshot.attempts.get? firstAttempt = some attempt ∧ last.attempts.get? firstAttempt = some lastAttempt ∧
      taskByID snapshot.graph attempt.taskID = some task ∧ taskByID last.graph lastAttempt.taskID = some lastTask ∧
      lastTask.goal ≠ task.goal ∧ lastTask.ownership ≠ task.ownership := by
  refine ⟨sample.after (separateWriters.take 2),
    (sample.after (separateWriters.take 2)).after rewrittenTask, ?_⟩
  simp only [exists_and_left]
  exact ⟨after_steps _ _, admits_steps (by decide +kernel), by decide +kernel⟩

end Paje.Control
