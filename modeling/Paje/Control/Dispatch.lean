import Paje.Control.Results

/-!
Dispatch in the order of the dependencies. `CreateAttempt` looks at the direct predecessors of a
task; the ones behind them are completed while no completed task waits for an open one.
-/

namespace Paje.Control

open Text Journal List Store Keyed

section dispatch

variable {task before : Task} {store : Store} {call : Call} {snapshot current next : Snapshot} {id : String}

def Precedes (graph : TaskGraph) (before task : Task) : Prop := before ∈ graph.tasks ∧ before.id ∈ task.dependsOn

/-- The predecessors of completed tasks are completed. -/
def TaskGraph.Settled (graph : TaskGraph) : Prop :=
  ∀ task ∈ graph.tasks, task.state = .completed →
    ∀ before ∈ graph.tasks, before.id ∈ task.dependsOn → before.state = .completed

instance (graph : TaskGraph) : Decidable graph.Settled := inferInstanceAs (Decidable (∀ task ∈ _, _))

def Snapshot.taskOf (snapshot : Snapshot) (attemptID : String) : Option String :=
  (snapshot.attempts.get? attemptID).map (·.taskID)

/-- The task that a call may take up again: `CreateAttempt` takes up no completed one. -/
def Change.touches (snapshot : Snapshot) : Change → Option String
  | .markAmbiguous actionID => (snapshot.actions.get? actionID).bind fun action => snapshot.taskOf action.attemptID
  | .completeAction actionID _ => (snapshot.actions.get? actionID).bind fun action =>
    if action.kind = .dispatch ∧ action.completed = false then snapshot.taskOf action.attemptID else none
  | .recordCallback callback =>
    if callback.status = .blocked ∨ callback.status = .needsInput then snapshot.taskOf callback.attemptID else none
  | .promoteAttempt attemptID _ _ => snapshot.taskOf attemptID
  | _ => none

/-- New graphs are settled, and no other call touches a completed task. -/
def KeepsSettled (store : Store) : Call → Prop
  | .create _ graph | .change _ (.updateGraph _ graph) => graph.Settled
  | .change id change => ∀ snapshot ∈ store.records.get? id, ∀ taskID ∈ change.touches snapshot,
    taskState snapshot.graph taskID ≠ some .completed
  | _ => True

instance (store : Store) : (call : Call) → Decidable (KeepsSettled store call)
  | .create _ graph => inferInstanceAs (Decidable graph.Settled)
  | .change _ _ => by unfold KeepsSettled; split <;> infer_instance
  | .prepareAction .. | .prepareObserve .. | .closeControlRun _ | .journal _ => inferInstanceAs (Decidable True)

theorem TaskGraph.Settled.completed {graph : TaskGraph} (settled : graph.Settled)
    (direct : ∀ before, Precedes graph before task → before.state = .completed)
    (behind : Relation.TransGen (Precedes graph) before task) : before.state = .completed := by
  suffices both : before ∈ graph.tasks ∧ before.state = .completed from both.2
  induction behind using Relation.TransGen.head_induction_on with
  | single precedes => exact ⟨precedes.1, direct _ precedes⟩
  | head precedes _ ih => exact ⟨precedes.1, settled _ ih.1 ih.2 _ precedes.1 precedes.2⟩

theorem taskState_of_mem {graph : TaskGraph} (valid : validateGraph graph none = .ok ()) (listed : task ∈ graph.tasks) :
    taskState graph task.id = some task.state :=
  taskState_of_taskByID (lookup_of_mem (validateGraph_nodup valid) listed)

theorem taskState_other {graph : TaskGraph} {taskID other : String} (state : TaskState) (different : other ≠ taskID) :
    taskState (setTaskState graph taskID state) other = taskState graph other := by
  unfold taskState
  rw [taskByID_setTaskState, if_neg different]

theorem Snapshot.taskOf_held {attempt : PlacementAttempt} {attemptID : String}
    (held : snapshot.attempts.get? attemptID = some attempt) : snapshot.taskOf attemptID = some attempt.taskID :=
  congrArg (Option.map _) held

theorem KeepsSettled.untouched {change : Change} (plain : change.revision = none)
    (keeps : KeepsSettled store (.change id change)) : ∀ snapshot ∈ store.records.get? id,
      ∀ taskID ∈ change.touches snapshot, taskState snapshot.graph taskID ≠ some .completed := by
  cases change <;> first | exact keeps | cases plain

variable [sha : Sha]

theorem Effect.earlier (effect : Effect none current next) (valid : validateGraph current.graph none = .ok ())
    (nextValid : validateGraph next.graph none = .ok ()) (listed : task ∈ next.graph.tasks)
    (done : task.state = .completed) :
    ∃ old ∈ current.graph.tasks, old.id = task.id ∧ old.dependsOn = task.dependsOn ∧ old.state = .completed := by
  obtain ⟨edges, states⟩ := effect.tasks rfl
  obtain ⟨old, oldListed, sameID, sameEdges⟩ := TaskGraph.of_edges edges listed
  refine ⟨old, oldListed, sameID, sameEdges, ?_⟩
  have here := taskState_of_mem nextValid listed
  rcases states _ _ here with active | there
  · rw [done] at active
    cases active
  · have found := taskState_of_mem valid oldListed
    rw [sameID, there, done] at found
    exact (Option.some.inj found).symm

theorem createAttempt_ok {controlRunID taskID : String} {capabilities : CapabilitySnapshot} {now : Nat → Time}
    {attempt : PlacementAttempt} (sound : snapshot.Sound)
    (h : createAttempt snapshot controlRunID taskID capabilities now = .ok (attempt, next)) :
    (attempt ∈ liveAttempts snapshot ∧ next = snapshot) ∨ ∃ task, taskByID snapshot.graph taskID = some task ∧
      task.state ≠ .completed ∧ (∃ state, next.graph = setTaskState snapshot.graph task.id state) ∧
        ∀ before, Precedes snapshot.graph before task →
        before.state = .completed ∧ predecessorReady snapshot task before.id := by
  unfold createAttempt at h
  obtain ⟨_, _, h⟩ := bind_ok h
  split at h
  · cases h
  rename_i task found
  split at h
  · rename_i live
    obtain ⟨_, h⟩ := require_bind_ok h
    cases pure_ok h
    exact .inl ⟨mem_of_find?_eq_some live, rfl⟩
  unfold placeAttempt readyTasks at h
  obtain ⟨ready, listed, h⟩ := bind_ok h
  obtain ⟨⟨candidate, member, same⟩, h⟩ := require_bind_ok h
  obtain ⟨_, checked, h⟩ := bind_ok h
  obtain ⟨_, _, h⟩ := bind_ok h
  obtain ⟨_, _, h⟩ := bind_ok h
  cases pure_ok h
  obtain ⟨_, _, listed⟩ := bind_ok listed
  cases pure_ok listed
  rw [mem_insertionSort, mem_filter] at member
  obtain ⟨known, waits⟩ := member
  have nodup := validateGraph_nodup sound.graph
  obtain rfl : candidate = task := inj_on_of_nodup_map nodup known (lookup_mem found).1 same
  obtain ⟨waiting, waits⟩ := of_decide_eq_true waits
  refine .inr ⟨candidate, found, ?_, ⟨_, rfl⟩, fun before precedes => ⟨?_, require_ok checked _ precedes.2⟩⟩
  · rcases waiting with pending | ready
    · simp [pending]
    · simp [ready]
  obtain ⟨done, held, completed⟩ := waits _ precedes.2
  cases held.symm.trans (lookup_of_mem nodup precedes.1)
  exact completed

section touches

variable {change : Change} {now : Nat → Time} {taskID : String}

theorem completeAction_graph {controlRunID actionID : String} {result : ActionResult}
    {done : LifecycleAction × Option PlacementAttempt}
    (completes : completeAction snapshot controlRunID actionID result now = .ok (done, next)) :
    next.graph = snapshot.graph ∨ ∃ action attempt, snapshot.actions.get? actionID = some action ∧
      action.kind = .dispatch ∧ action.completed = false ∧ snapshot.attempts.get? action.attemptID = some attempt ∧
      next.graph = setTaskState snapshot.graph attempt.taskID .active := by
  obtain ⟨action, held, _, ⟨_, rfl⟩ | ⟨isOpen, _, attempt, _, _, _, _, attemptHeld, _, applied, rfl⟩⟩ :=
    completeAction_ok completes
  · exact .inl rfl
  · have graph := (applyResult_outcome applied).graph
    split at graph
    · rename_i kind
      exact .inr ⟨action, attempt, held, kind, isOpen, attemptHeld, graph⟩
    · exact .inl graph

theorem promoteSource_graph {controlRunID : String} {source : PlacementAttempt} {promotion : Promotion}
    {capabilities : CapabilitySnapshot} (different : taskID ≠ source.taskID) :
    Ensures (fun made => taskState made.2.graph taskID = taskState snapshot.graph taskID)
      (promoteSource snapshot controlRunID source promotion capabilities now) := by
  unfold promoteSource
  refine .bind fun _ _ => .bind fun _ _ => .bind fun _ _ => .bind fun _ _ => ?_
  split
  · exact .error
  rename_i task found
  refine .bind fun ⟨promoted, handoff⟩ moves => .bind fun _ _ => .bind fun _ _ => .bind fun _ _ => .ok ?_
  have moved : promoted.id = source.taskID := (promote_edges moves).1.trans (lookup_mem found).2
  show taskState (replaceTask snapshot.graph _) taskID = _
  unfold taskState
  rw [taskByID_replaceTask, if_neg (moved ▸ different)]

theorem completeSend_graph {controlRunID attemptID actionID : String} {result : ActionResult} {message : Message}
    {done : LifecycleAction × Option PlacementAttempt × Message}
    (sends : completeSend snapshot controlRunID attemptID actionID result message now = .ok (done, next)) :
    next.graph = snapshot.graph := by
  unfold completeSend at sends
  obtain ⟨_, _, sends⟩ := bind_ok sends
  split at sends
  · cases sends
  rename_i action held
  obtain ⟨⟨kind, _⟩, sends⟩ := require_bind_ok sends
  obtain ⟨_, sends⟩ := require_bind_ok sends
  obtain ⟨⟨_, after⟩, completes, sends⟩ := bind_ok sends
  have graph : after.graph = snapshot.graph := by
    rcases completeAction_graph completes with same | ⟨_, _, again, dispatches, _⟩
    · exact same
    · cases held.symm.trans again
      rw [kind] at dispatches
      cases dispatches
  dsimp only at sends
  split at sends <;> cases pure_ok sends <;> exact graph

/-- A task that is completed stays so in calls that do not touch it. -/
theorem Change.completed_stays (sound : snapshot.Sound) (plain : change.revision = none)
    (completed : taskState snapshot.graph taskID = some .completed)
    (untouched : change.touches snapshot ≠ some taskID) :
    Ensures (fun next => taskState next.graph taskID = some .completed) (change.apply id now snapshot) := by
  cases change with
  | updateGraph => cases plain
  | createAttempt =>
    refine .map fun ⟨_, next⟩ creates => ?_
    rcases createAttempt_ok sound creates with ⟨_, rfl⟩ | ⟨task, found, unfinished, ⟨state, graph⟩, _⟩
    · exact completed
    · show taskState next.graph taskID = _
      rw [graph, taskState_other state, completed]
      rintro rfl
      have done := taskState_of_mem sound.graph (lookup_mem found).1
      rw [completed] at done
      exact unfinished (Option.some.inj done).symm
  | promoteAttempt attemptID =>
    refine .map ?_
    unfold Control.promoteAttempt
    split
    · exact .error
    rename_i source found
    split
    · exact .ok completed
    refine .bind fun placed promoted => .ok ?_
    have different : taskID ≠ source.taskID := by
      rintro rfl
      exact untouched (snapshot.taskOf_held found)
    exact (promoteSource_graph different placed promoted).trans completed
  | completeAction actionID result =>
    refine .map fun ⟨_, next⟩ completes => ?_
    rcases completeAction_graph completes with same | ⟨action, attempt, held, kind, isOpen, attemptHeld, graph⟩
    · exact (congrArg (taskState · taskID) same).trans completed
    · refine (congrArg (taskState · taskID) graph).trans ((taskState_other _ ?_).trans completed)
      rintro rfl
      exact untouched (by simp [touches, held, kind, isOpen, snapshot.taskOf_held attemptHeld])
  | completeSend =>
    refine .map fun ⟨_, next⟩ sends => ?_
    refine (congrArg (taskState · taskID) ?_).trans completed
    exact completeSend_graph sends
  | markAmbiguous =>
    intro next marks
    obtain ⟨action, attempt, held, _, attemptHeld, rfl⟩ := markAmbiguous_ok marks
    refine (taskState_other _ ?_).trans completed
    rintro rfl
    exact untouched (by simp [touches, held, snapshot.taskOf_held attemptHeld])
  | recordCallback callback =>
    simp only [Change.apply, Control.recordCallback]
    split
    · exact .error
    rename_i attempt held
    refine .bind fun _ _ => ?_
    split
    · exact .bind fun _ _ => .ok completed
    unfold newCallback
    split
    · exact .error
    refine .bind fun _ _ => .bind fun _ _ => .bind fun _ _ => .ok ?_
    show taskState (callbackEffect snapshot.graph attempt.taskID callback.status).2 taskID = _
    have other : callback.status = .blocked ∨ callback.status = .needsInput → taskID ≠ attempt.taskID := by
      rintro status rfl
      exact untouched (by simp [touches, status, snapshot.taskOf_held held])
    cases status : callback.status with
    | done | doneWithConcerns => exact completed
    | blocked => exact (taskState_other _ (other (.inl status))).trans completed
    | needsInput => exact (taskState_other _ (other (.inr status))).trans completed
  | _ =>
    simp only [Change.apply, Control.sendMessage, Control.acknowledgeMessage, Control.recordEvidence,
      Control.addHandoff, Control.acknowledgeHandoff, Control.advanceCursor, Control.acknowledgeRuntimeID,
      Control.setDisposition, Control.closeAttempt, Control.attachTerminalEvidence]
    repeat' first
      | exact .error
      | with_reducible refine .bind fun _ _ => ?_
      | with_reducible refine .map ?_
      | split
      | exact .ok completed

end touches

theorem Builds.settled {now : Nat → Time} {after : Store} {built : Snapshot} {time : Time} (kept : store.Kept)
    (found : store.records.get? id = some current) (builds : Builds store call now after id current built)
    (valid : validateSave current (built.saved current.version time) = .ok ()) (keeps : KeepsSettled store call)
    (settled : current.graph.Settled) : built.graph.Settled := by
  obtain ⟨runID, sound⟩ := kept id current found
  have nextSound := (builds.saves sound runID valid).nextSound
  cases builds with
  | prepared => exact settled
  | closed =>
    unfold closeRun
    split
    · rename_i accepted
      cases (closeSnapshot_ok accepted).1
      exact settled
    · exact settled
  | changed change _ called applied =>
    subst called
    obtain ⟨effect, _⟩ := change.effect sound runID applied
    cases revises : change.revision with
    | some graph =>
      cases change <;> cases revises
      rw [(effect.updated _ rfl).1]
      exact keeps
    | none =>
      rw [revises] at effect
      intro task listed done before known waits
      obtain ⟨old, oldListed, _, edges, oldDone⟩ := effect.earlier sound.graph nextSound.graph listed done
      obtain ⟨oldBefore, oldKnown, sameID, _⟩ := TaskGraph.of_edges (effect.tasks rfl).1 known
      have completed := settled old oldListed oldDone oldBefore oldKnown (edges ▸ sameID ▸ waits)
      have here := taskState_of_mem sound.graph oldKnown
      rw [completed, sameID] at here
      have later := change.completed_stays sound revises here
        (fun touched => keeps.untouched revises current found _ touched here) _ applied
      have now := taskState_of_mem nextSound.graph known
      exact Option.some.inj (now.symm.trans later)

theorem Steps.settled {journal : MemoryStore} (steps : Steps KeepsSettled { journal } store) :
    ∀ id snapshot, store.records.get? id = some snapshot → snapshot.graph.Settled := by
  induction steps with
  | refl => exact fun _ _ found => (no_record found).elim
  | @tail middle last steps step ih =>
    obtain ⟨call, now, keeps, rfl⟩ := step
    have kept := Steps.kept steps (kept_start journal)
    refine call_each kept ih (fun run graph snapshot create made => ?_)
      fun id current built time found builds valid => ?_
    · subst create
      have settled : graph.Settled := keeps
      unfold newSnapshot at made
      obtain ⟨_, _, made⟩ := bind_ok made
      rw [← pure_ok made]
      simp only [TaskGraph.Settled, normalizeGraph, forall_mem_map]
      split <;> exact settled
    · have settled := builds.settled kept found valid keeps (ih id current found)
      exact settled

/-- An attempt is placed when the direct predecessors of its task are completed and their attempts closed, and no
task ever has two live attempts. -/
theorem dispatch_direct {journal : MemoryStore} {allowed : Store → Call → Prop}
    (steps : Steps allowed { journal } store) (found : store.records.get? id = some snapshot) :
    (liveTasks snapshot.attempts).Nodup ∧ ∀ taskID capabilities now attempt next,
      createAttempt snapshot id taskID capabilities now = .ok (attempt, next) →
      (attempt ∈ liveAttempts snapshot ∧ next = snapshot) ∨ ∃ task, taskByID snapshot.graph taskID = some task ∧
        ∀ before, Precedes snapshot.graph before task →
          before.state = .completed ∧ predecessorReady snapshot task before.id := by
  have sound := (Steps.kept steps (kept_start journal) id snapshot found).2
  refine ⟨sound.live, fun taskID capabilities now attempt next creates => ?_⟩
  rcases createAttempt_ok sound creates with there | ⟨task, known, _, _, direct⟩
  · exact .inl there
  · exact .inr ⟨task, known, direct⟩

/-- In every run that stores only settled graphs and takes no completed task up again, an attempt is placed when all
direct and indirect predecessors of its task are completed and the attempts of the direct ones are closed. -/
theorem dispatch_ordered {journal : MemoryStore} {store : Store} (steps : Steps KeepsSettled { journal } store)
    {id : String} {snapshot : Snapshot} (found : store.records.get? id = some snapshot) :
    (liveTasks snapshot.attempts).Nodup ∧ ∀ taskID capabilities now attempt next,
      createAttempt snapshot id taskID capabilities now = .ok (attempt, next) →
      (attempt ∈ liveAttempts snapshot ∧ next = snapshot) ∨ ∃ task, taskByID snapshot.graph taskID = some task ∧
        (∀ before, Relation.TransGen (Precedes snapshot.graph) before task → before.state = .completed) ∧
        ∀ before, Precedes snapshot.graph before task → ∀ old ∈ snapshot.attempts.values, old.taskID = before.id →
          attemptTerminal old.state ∧ validDisposition old.disposition ∧
          snapshot.holdsEvidence old.terminalEvidence.id (fun evidence => old.terminalEvidence.digest =
            evidenceDigest evidence && old.disposition.evidenceID = evidence.id) ∧
          validateCloseEvidence old.primitive old.closeEvidence = .ok () := by
  obtain ⟨live, placed⟩ := dispatch_direct steps found
  refine ⟨live, fun taskID capabilities now attempt next creates => ?_⟩
  rcases placed taskID capabilities now attempt next creates with there | ⟨task, known, direct⟩
  · exact .inl there
  · exact .inr ⟨task, known, fun before behind => (Steps.settled steps id snapshot found).completed
      (fun before precedes => (direct before precedes).1) behind, fun before precedes => (direct before precedes).2.1⟩

end dispatch

attribute [local instance] Sha.spelled

/-- The task `a` is done and closed; a revision then marks it completed and lets `b` wait for it. -/
def followedWork (dependsOn : List String) : List Call :=
  localWork.take 2 ++ closeLocalWork.take 4 ++ [.change "run" (.updateGraph 1 (.sample 2 [
    .sample "c" .localSequential ["test/**"] .pending,
    { Task.sample "a" .localSequential ["src/**"] .completed with dependsOn },
    { Task.sample "b" .localSequential ["docs/**"] .pending with dependsOn := ["a"] }]))]

theorem dispatch_ordered_followed : ∃ snapshot next attempt task,
    Steps KeepsSettled sample (sample.after (followedWork [])) ∧
      (sample.after (followedWork [])).records.get? "run" = some snapshot ∧
      createAttempt snapshot "run" "b" .sample (fun _ => Time.unixEpoch) = .ok (attempt, next) ∧
      taskByID snapshot.graph "b" = some task ∧
      ∀ before, Relation.TransGen (Precedes snapshot.graph) before task → before.state = .completed := by
  have steps : Steps KeepsSettled sample (sample.after (followedWork [])) := admits_steps (by decide +kernel)
  obtain ⟨snapshot, found, next, attempt, creates, fresh⟩ : ∃ snapshot,
      (sample.after (followedWork [])).records.get? "run" = some snapshot ∧ ∃ next attempt,
      createAttempt snapshot "run" "b" .sample (fun _ => Time.unixEpoch) = .ok (attempt, next) ∧
      attempt ∉ liveAttempts snapshot := by decide +kernel
  obtain there | ⟨task, known, behind, _⟩ := (dispatch_ordered steps found).2 _ _ _ _ _ creates
  · exact absurd there.1 fresh
  · exact ⟨snapshot, next, attempt, task, steps, found, creates, known, behind⟩

set_option synthInstance.maxSize 256 in
/-- The revision also lets the completed task wait for an open one. -/
theorem dispatch_overtakes : ∃ store snapshot next attempt task middle before,
    Steps (fun _ _ => True) sample store ∧ store.records.get? "run" = some snapshot ∧
      createAttempt snapshot "run" "b" .sample (fun _ => Time.unixEpoch) = .ok (attempt, next) ∧
      attempt ∉ liveAttempts snapshot ∧ taskByID snapshot.graph "b" = some task ∧
      Precedes snapshot.graph middle task ∧ Precedes snapshot.graph before middle ∧ before.state = .pending := by
  refine ⟨sample.after (followedWork ["c"]), ?_⟩
  simp only [exists_and_left, Precedes, and_assoc]
  exact ⟨after_steps _ _, by decide +kernel⟩

end Paje.Control
