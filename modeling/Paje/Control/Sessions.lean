import Paje.Control.Ambiguity

/-!
The states of a session. A completed session is only archived, and an archived one stays as it is, unless its runtime
ID is acknowledged again. The other calls find no settled session to start over: an attempt has one Dispatch and one
Close, because the journal keeps one slot for each.
-/

namespace Paje.Control

open Text Journal Store

section sessions

variable {snapshot next : Snapshot} {session : AgentSession}

abbrev AgentSession.Settled (session : AgentSession) : Prop := session.state = .completed ∨ session.state = .archived

/-- An archived session stays archived with its receipt, a completed one stays completed until it is archived. -/
structure AgentSession.Stands (before after : AgentSession) : Prop where
  archived : before.state = .archived → after.state = .archived ∧ after.archiveReceipt = before.archiveReceipt
  completed : before.state = .completed → after.state = .completed ∨ after.state = .archived

def SessionsStand (snapshot next : Snapshot) : Prop :=
  ∀ id before, snapshot.sessions.get? id = some before → ∃ after, next.sessions.get? id = some after ∧
    before.Stands after

def Snapshot.Done (snapshot : Snapshot) (kind : ActionKind) (attemptID : String) : Prop :=
  ∃ id action, snapshot.actions.get? id = some action ∧ action.kind = kind ∧ action.attemptID = attemptID ∧
    action.completed = true

/-- No attempt has two actions of a kind that is sent once. -/
def Snapshot.Single (snapshot : Snapshot) : Prop :=
  ∀ one two first second, snapshot.actions.get? one = some first → snapshot.actions.get? two = some second →
    singleShotAction first.kind = true → first.kind = second.kind → first.attemptID = second.attemptID → first = second

/-- The call does not acknowledge the runtime ID of a settled session again. -/
def Change.Fresh (snapshot : Snapshot) : Change → Prop
  | .acknowledgeRuntimeID attemptID _ =>
    ∀ session ∈ snapshot.sessions.values, session.attemptID = attemptID → ¬ session.Settled
  | _ => True

instance (change : Change) : Decidable (change.Fresh snapshot) := by
  cases change <;> unfold Change.Fresh <;> infer_instance

def FreshCall (store : Store) : Call → Prop
  | .change id change => ∀ snapshot ∈ store.records.get? id, change.Fresh snapshot
  | _ => True

instance (store : Store) (call : Call) : Decidable (FreshCall store call) :=
  decidable_of_iff ((match call with
    | .change id change => decide (∀ snapshot ∈ store.records.get? id, change.Fresh snapshot)
    | _ => true) = true) (by cases call <;> simp [FreshCall])

/-! ### One change -/

/-- What backs the sessions of a record stays. -/
structure Grows (snapshot next : Snapshot) : Prop where
  run : next.run.id = snapshot.run.id
  done : ∀ id action, snapshot.actions.get? id = some action → action.completed = true →
    next.actions.get? id = some action
  callbacks : ∀ id callback, snapshot.callbacks.get? id = some callback → next.callbacks.get? id = some callback

def NoneNew (snapshot next : Snapshot) : Prop :=
  ∀ id after, next.actions.get? id = some after → ∃ before, snapshot.actions.get? id = some before ∧
    sameActionIdentity before after

theorem AgentSession.Stands.refl (session : AgentSession) : session.Stands session := ⟨fun h => ⟨h, rfl⟩, .inl⟩

theorem AgentSession.Stands.trans {one two three : AgentSession} (first : one.Stands two) (second : two.Stands three) :
    one.Stands three := by
  refine ⟨fun archived => ?_, fun completed => ?_⟩
  · obtain ⟨still, receipt⟩ := first.archived archived
    obtain ⟨again, same⟩ := second.archived still
    exact ⟨again, same.trans receipt⟩
  · rcases first.completed completed with still | archived
    · exact second.completed still
    · exact .inr (second.archived archived).1

theorem NoneNew.same (actions : next.actions = snapshot.actions) : NoneNew snapshot next :=
  fun _ after found => ⟨after, actions ▸ found, rfl, rfl, rfl, rfl, rfl⟩

theorem Grows.same (run : next.run.id = snapshot.run.id) (actions : next.actions = snapshot.actions)
    (callbacks : next.callbacks = snapshot.callbacks) : Grows snapshot next :=
  ⟨run, fun _ _ found _ => actions ▸ found, fun _ _ found => callbacks ▸ found⟩

/-- An action is settled that was open. -/
theorem settles {id : String} {before after : LifecycleAction} (found : snapshot.actions.get? id = some before)
    (opens : before.completed = false) (actions : next.actions = snapshot.actions.put id after)
    (identity : sameActionIdentity before after) (run : next.run.id = snapshot.run.id)
    (callbacks : next.callbacks = snapshot.callbacks) : NoneNew snapshot next ∧ Grows snapshot next := by
  refine ⟨fun other held there => ?_, run, fun other held there completed => ?_, fun _ _ found => callbacks ▸ found⟩
  · rw [actions, Table.get?_put] at there
    split at there
    · rename_i same
      cases there
      exact ⟨before, same ▸ found, identity⟩
    · exact ⟨held, there, rfl, rfl, rfl, rfl, rfl⟩
  · have different : other ≠ id := by
      rintro rfl
      cases found.symm.trans there
      exact absurd (opens.symm.trans completed) (by decide)
    rw [actions, Table.get?_put_other _ _ different, there]

theorem Snapshot.Single.undone {id : String} {action : LifecycleAction} (single : snapshot.Single)
    (found : snapshot.actions.get? id = some action) (opens : action.completed = false)
    (shot : singleShotAction action.kind = true) : ¬ snapshot.Done action.kind action.attemptID := by
  rintro ⟨_, other, there, kind, owner, completed⟩
  rw [single _ _ action other found there shot kind.symm owner.symm, completed] at opens
  cases opens

theorem sessionOf_mem {attemptID : String} (found : sessionOf snapshot attemptID = some session) :
    session ∈ snapshot.sessions.values ∧ session.attemptID = attemptID := by
  have mine := List.find?_some found
  exact ⟨List.mem_of_find?_eq_some found, of_decide_eq_true mine⟩

variable [sha : Sha] {now : Nat → Time}

/-- What the record shows of the steps that a session has taken. -/
structure Snapshot.Backs (snapshot : Snapshot) (session : AgentSession) : Prop where
  name : session.id = stableID "session" [snapshot.run.id, session.attemptID, session.runtimeChildID]
  dispatched : snapshot.Done .dispatch session.attemptID
  called : session.Settled → ∃ callback, snapshot.callbacks.get? session.attemptID = some callback
  closed : session.state = .archived → snapshot.Done .close session.attemptID

def Snapshot.Backed (snapshot : Snapshot) : Prop :=
  ∀ id session, snapshot.sessions.get? id = some session → snapshot.Backs session

/-- The sessions of `next` are backed, and those of `snapshot` do not go back if the change is `fresh`. -/
structure Moves (fresh : Prop) (snapshot next : Snapshot) : Prop where
  backed : next.Backed
  stand : fresh → SessionsStand snapshot next

variable {fresh : Prop}

theorem Snapshot.Backs.grows (backs : snapshot.Backs session) (grows : Grows snapshot next) : next.Backs session := by
  have done : ∀ kind attemptID, snapshot.Done kind attemptID → next.Done kind attemptID :=
    fun _ _ ⟨id, action, found, kind, mine, completed⟩ =>
      ⟨id, action, grows.done id action found completed, kind, mine, completed⟩
  refine ⟨grows.run ▸ backs.name, done _ _ backs.dispatched, fun settled => ?_,
    fun archived => done _ _ (backs.closed archived)⟩
  obtain ⟨callback, found⟩ := backs.called settled
  exact ⟨callback, grows.callbacks _ _ found⟩

theorem Moves.onward {middle : Snapshot} (moves : Moves fresh snapshot middle) (grows : Grows middle next)
    (same : next.sessions = middle.sessions) : Moves fresh snapshot next := by
  refine ⟨fun id session found => (moves.backed id session (same ▸ found)).grows grows,
    fun isFresh id before found => ?_⟩
  obtain ⟨after, there, stands⟩ := moves.stand isFresh id before found
  exact ⟨after, same ▸ there, stands⟩

theorem Moves.same (backed : snapshot.Backed) (grows : Grows snapshot next) (same : next.sessions = snapshot.sessions) :
    Moves fresh snapshot next :=
  Moves.onward ⟨backed, fun _ _ before found => ⟨before, found, .refl _⟩⟩ grows same

theorem Moves.map {f : AgentSession → AgentSession} (mapped : next.sessions = snapshot.sessions.map f)
    (each : ∀ id session, snapshot.sessions.get? id = some session →
      next.Backs (f session) ∧ session.Stands (f session)) : Moves fresh snapshot next := by
  refine ⟨fun id session found => ?_, fun _ id before found => ?_⟩
  · rw [mapped, Table.get?_map] at found
    obtain ⟨before, there, rfl⟩ := Option.map_eq_some_iff.mp found
    exact (each id before there).1
  · exact ⟨f before, by rw [mapped, Table.get?_map, found, Option.map_some], (each id before found).2⟩

theorem Moves.put {key : String} (backed : snapshot.Backed) (grows : Grows snapshot next)
    (put : next.sessions = snapshot.sessions.put key session) (backs : next.Backs session)
    (unsettled : fresh → ∀ old ∈ snapshot.sessions.get? key, ¬ old.Settled) : Moves fresh snapshot next := by
  refine ⟨fun id other found => ?_, fun isFresh id before found => ?_⟩
  · rw [put, Table.get?_put] at found
    split at found
    · cases found
      exact backs
    · exact (backed id other found).grows grows
  · rw [put, Table.get?_put]
    split
    · rename_i same
      have started := unsettled isFresh before (same ▸ found)
      exact ⟨session, rfl, fun archived => absurd (.inr archived) started,
        fun completed => absurd (.inl completed) started⟩
    · exact ⟨before, found, .refl _⟩

section

variable (names : sha.Names) (sound : snapshot.Sound) (backed : snapshot.Backed) (single : snapshot.Single)
  {result : ActionResult} {controlRunID : String} (runID : snapshot.run.id = controlRunID)
include names sound backed single runID

/-- A Dispatch registers a session that was not there: the record shows the Dispatch of each session. -/
theorem registers_fresh {actionID runtimeID : String} {action : LifecycleAction}
    (found : snapshot.actions.get? actionID = some action) (opens : action.completed = false)
    (kind : action.kind = .dispatch) {old : AgentSession} (same : old.runtimeChildID = runtimeID)
    (held : snapshot.sessions.get? (stableID "session" [controlRunID, action.attemptID, runtimeID]) = some old) :
    False := by
  have backs := backed _ old held
  have seeds := names.apart _ _ (append_left_cancel (backs.name.symm.trans (sound.session_id held)))
  rw [runID, same] at seeds
  have ends := joinNul_rest (joinNul_rest seeds)
  have mine : old.attemptID = action.attemptID := (String.append_left_inj _).mp ((String.append_left_inj _).mp ends)
  exact single.undone found opens (by rw [kind]; rfl) (kind ▸ mine ▸ backs.dispatched)

theorem applyResult_moves {actionID : String} {action : LifecycleAction}
    (found : snapshot.actions.get? actionID = some action) (opens : action.completed = false)
    {attempt after : PlacementAttempt} (mine : attempt.id = action.attemptID) {trusted : List WorkEvent}
    {sessions : Table AgentSession} {graph : TaskGraph} (registered : next.sessions = sessions)
    (grows : Grows snapshot next) (done : next.Done action.kind action.attemptID)
    (h : applyResult snapshot controlRunID action attempt result trusted = .ok (after, sessions, graph)) :
    Moves fresh snapshot next := by
  unfold applyResult at h
  split at h
  · rename_i kind
    obtain ⟨_, registers, h⟩ := bind_ok h
    cases pure_ok h
    unfold registerSession at registers
    split at registers
    · rename_i runtimeID _ _ ids
      obtain ⟨same, registers⟩ := require_bind_ok registers
      cases pure_ok registers
      refine .put backed grows registered ⟨?_, ?_, nofun, nofun⟩ fun _ old held => ?_
      · rw [grows.run, runID]
        rfl
      · show next.Done .dispatch attempt.id
        rw [mine, ← kind]
        exact done
      · exact (registers_fresh names sound backed single runID found opens kind (same old held) (mine ▸ held)).elim
    · cases registers
      exact .same backed grows registered
  · cases h
    exact .same backed grows registered
  · cases h
    exact .same backed grows registered
  · rename_i kind
    obtain ⟨_, prerequisites, h⟩ := bind_ok h
    obtain ⟨evidence, _, h⟩ := bind_ok h
    obtain ⟨_, _, h⟩ := bind_ok h
    obtain ⟨_, h⟩ := require_bind_ok h
    cases pure_ok h
    split at registered
    · rename_i primitive
      simp only [validateClosePrerequisites, primitive] at prerequisites
      obtain ⟨_, callback, called, _⟩ := require_ok prerequisites
      refine .map registered fun id session held => ?_
      have backs := (backed id session held).grows grows
      split
      · rename_i owner
        have unarchived : session.state ≠ .archived := fun archived =>
          single.undone found opens (by rw [kind]; rfl) (kind ▸ mine ▸ owner ▸ (backed id session held).closed archived)
        exact ⟨⟨backs.name, backs.dispatched, fun _ => ⟨callback, owner ▸ grows.callbacks _ _ called⟩,
          fun _ => owner ▸ mine ▸ kind ▸ done⟩, fun archived => absurd archived unarchived, fun _ => .inr rfl⟩
      · exact ⟨backs, .refl _⟩
    · exact .same backed grows registered
  · cases h
    exact .same backed grows registered

theorem completeAction_moves {actionID : String} :
    Ensures (fun made => NoneNew snapshot made.2 ∧ Moves fresh snapshot made.2)
      (completeAction snapshot controlRunID actionID result now) := by
  rintro ⟨done, next⟩ h
  obtain ⟨action, found, _, ⟨_, rfl⟩ |
    ⟨opens, _, attempt, trusted, after, sessions, graph, held, _, applied, rfl⟩⟩ := completeAction_ok h
  · exact ⟨.same rfl, .same backed (.same rfl rfl rfl) rfl⟩
  have name : (moveCursor attempt result).id = action.attemptID := by
    rw [(frozen_continues (moveCursor_frozen attempt result)).1.id, sound.attempt_id held]
  obtain rfl := sound.action_id found
  obtain ⟨old, grows⟩ : NoneNew snapshot (settledSnapshot snapshot action result after sessions graph now) ∧
      Grows snapshot (settledSnapshot snapshot action result after sessions graph now) :=
    settles found opens rfl ⟨rfl, rfl, rfl, rfl, rfl⟩ rfl rfl
  exact ⟨old, applyResult_moves names sound backed single runID found opens name rfl grows
    ⟨_, _, Table.get?_put_self _ _ _, rfl, rfl, rfl⟩ applied⟩

theorem Change.moves (change : Change) :
    Ensures (fun next => NoneNew snapshot next ∧ Moves (change.Fresh snapshot) snapshot next)
      (change.apply controlRunID now snapshot) := by
  have still : ∀ {next : Snapshot} {fresh : Prop}, next.sessions = snapshot.sessions ∧ next.actions = snapshot.actions ∧
      next.callbacks = snapshot.callbacks ∧ next.run.id = snapshot.run.id →
      NoneNew snapshot next ∧ Moves fresh snapshot next :=
    fun ⟨sessions, actions, callbacks, run⟩ => ⟨.same actions, .same backed (.same run actions callbacks) sessions⟩
  cases change with
  | acknowledgeRuntimeID attemptID runtimeChildID =>
    refine .map fun ⟨_, next⟩ h => ?_
    unfold Control.acknowledgeRuntimeID at h
    split at h
    · rename_i session _ found
      obtain ⟨_, h⟩ := require_bind_ok h
      obtain ⟨_, h⟩ := require_bind_ok h
      cases pure_ok h
      obtain ⟨member, mine⟩ := sessionOf_mem found
      have held := sound.session_of_value member
      have backs := backed _ session held
      refine ⟨.same rfl, .put backed (.same rfl rfl rfl) rfl ⟨backs.name, backs.dispatched, nofun, nofun⟩ ?_⟩
      intro isFresh old there
      cases held.symm.trans there
      exact isFresh session member mine
    · cases h
  | recordCallback callback =>
    refine fun next (h : Control.recordCallback snapshot callback now = .ok next) => ?_
    unfold Control.recordCallback at h
    split at h
    · cases h
    obtain ⟨_, h⟩ := require_bind_ok h
    split at h
    · obtain ⟨_, h⟩ := require_bind_ok h
      cases pure_ok h
      exact still ⟨rfl, rfl, rfl, rfl⟩
    rename_i new
    unfold newCallback at h
    split at h
    · cases h
    rename_i session found
    obtain ⟨_, h⟩ := require_bind_ok h
    obtain ⟨_, h⟩ := require_bind_ok h
    obtain ⟨_, h⟩ := require_bind_ok h
    cases pure_ok h
    obtain ⟨member, mine⟩ := sessionOf_mem found
    have held := sound.session_of_value member
    have backs := backed _ session held
    refine ⟨.same rfl, .put backed ⟨rfl, fun _ _ there _ => there, fun id other there => ?_⟩ rfl
      ⟨backs.name, backs.dispatched, fun _ => ⟨callback, mine ▸ Table.get?_put_self _ _ _⟩, fun archived => ?_⟩
      fun _ old there settled => ?_⟩
    · exact (Table.get?_put_other _ _ fun same => by simp [← same, there] at new).trans there
    · cases status : callback.status <;> simp [status] at archived
    · -- a settled session has its callback
      cases held.symm.trans there
      obtain ⟨_, called⟩ := backs.called settled
      rw [mine, new] at called
      cases called
  | completeAction actionID result => exact .map (completeAction_moves names sound backed single runID)
  | completeSend attemptID actionID result message =>
    refine .map ?_
    unfold Control.completeSend
    refine .bind fun _ _ => ?_
    split
    · exact .error
    refine .bind fun _ _ => .bind fun _ _ => .bind fun made completes => ?_
    obtain ⟨old, moves⟩ := completeAction_moves names sound backed single runID _ completes
    dsimp only
    split
    · exact .ok ⟨old, moves⟩
    · exact .ok ⟨old, moves.onward (.same rfl rfl rfl) rfl⟩
  | markAmbiguous actionID =>
    refine fun next (h : Control.markAmbiguous snapshot actionID = .ok next) => ?_
    obtain ⟨action, attempt, found, opens, _, rfl⟩ := markAmbiguous_ok h
    obtain rfl := sound.action_id found
    obtain ⟨old, grows⟩ : NoneNew snapshot (blockAttempt snapshot action attempt) ∧
        Grows snapshot (blockAttempt snapshot action attempt) :=
      settles found opens rfl ⟨rfl, rfl, rfl, rfl, rfl⟩ rfl rfl
    exact ⟨old, .same backed grows rfl⟩
  | setDisposition attemptID disposition =>
    refine .map ?_
    unfold Control.setDisposition
    refine .bind fun _ _ => .bind fun _ _ => ?_
    split
    · exact .error
    rename_i attempt _
    refine .bind fun _ _ => ?_
    split
    · exact .ok (still ⟨rfl, rfl, rfl, rfl⟩)
    · refine .ok ⟨.same rfl, .map (f := fun session => if session.attemptID = attempt.id
        then { session with disposition } else session) rfl fun id session held => ?_⟩
      have backs := (backed id session held).grows (.same rfl rfl rfl)
      split <;> exact ⟨⟨backs.name, backs.dispatched, backs.called, backs.closed⟩,
        fun archived => ⟨archived, rfl⟩, .inl⟩
  | advanceCursor attemptID cursor sequence =>
    refine .map ?_
    unfold Control.advanceCursor
    split
    · exact .error
    refine .bind fun _ _ => .ok ⟨.same rfl, .map (f := fun session => if session.attemptID = attemptID
      then { session with lastCursor := cursor } else session) rfl fun id session held => ?_⟩
    have backs := (backed id session held).grows (.same rfl rfl rfl)
    split <;> exact ⟨⟨backs.name, backs.dispatched, backs.called, backs.closed⟩, fun archived => ⟨archived, rfl⟩, .inl⟩
  | _ =>
    simp only [Change.apply, Control.updateGraph, Control.createAttempt, placeAttempt, Control.promoteAttempt,
      Control.sendMessage, Control.acknowledgeMessage, Control.recordEvidence,
      Control.closeAttempt, Control.attachTerminalEvidence, Control.addHandoff, Control.acknowledgeHandoff]
    repeat' first
      | exact .error
      | with_reducible refine .bind fun _ _ => ?_
      | with_reducible refine .map ?_
      | split
      | exact .ok (still ⟨rfl, rfl, rfl, rfl⟩)
      | exact .ok (still (promoteSource_quiet _ ‹_›).2)

end

/-! ### Runs -/

variable {store after : Store} {id : String}

/-- The journal keeps the slot of an action that is sent once. -/
def Slot (journal : MemoryStore) (id : String) (action : LifecycleAction) : Prop :=
  singleShotAction action.kind = true → ∃ reservation,
    journal.idempotency.get? (journalIdempotencyKey id action.attemptID action.kind action.id) = some reservation ∧
      reservation.id = action.id

def Slots (journal : MemoryStore) (id : String) (snapshot : Snapshot) : Prop :=
  ∀ key action, snapshot.actions.get? key = some action → Slot journal id action

structure Store.Tracked (store : Store) : Prop where
  kept : store.Kept
  indexed : store.journal.Indexed
  owned : store.journal.Owned
  records : ∀ id snapshot, store.records.get? id = some snapshot → Slots store.journal id snapshot ∧ snapshot.Backed

theorem Slots.single (slots : Slots store.journal id snapshot) (sound : snapshot.Sound) : snapshot.Single := by
  intro one two first second oneFound twoFound shot kind owner
  obtain ⟨reservation, held, name⟩ := slots one first oneFound shot
  obtain ⟨other, otherHeld, otherName⟩ := slots two second twoFound (kind ▸ shot)
  unfold journalIdempotencyKey at held otherHeld
  rw [if_pos shot] at held
  rw [if_pos (kind ▸ shot), ← kind, ← owner, held] at otherHeld
  cases otherHeld
  obtain rfl : one = two := by
    rw [← sound.action_id oneFound, ← sound.action_id twoFound, ← name, otherName]
  exact Option.some.inj (oneFound.symm.trans twoFound)

theorem Slots.later (slots : Slots store.journal id snapshot) (owned : store.journal.Owned)
    (more : Extends store.journal after.journal) (old : NoneNew snapshot next) : Slots after.journal id next := by
  intro key action found shot
  obtain ⟨before, held, sameID, owner, kind, _⟩ := old key action found
  obtain ⟨reservation, stored, name⟩ := slots key before held (kind ▸ shot)
  refine ⟨reservation, ?_, name.trans sameID⟩
  rw [← sameID, ← owner, ← kind]
  exact (MemoryStore.Changes.keys more owned).2 _ _ stored

theorem Store.Tracked.built (names : sha.Names) (tracked : store.Tracked) {call : Call} {current built : Snapshot}
    (found : store.records.get? id = some current) (more : Extends store.journal after.journal)
    (builds : Builds store call now after id current built) :
    Slots after.journal id built ∧ Moves (FreshCall store call) current built := by
  obtain ⟨runID, sound⟩ := tracked.kept id current found
  obtain ⟨slots, backed⟩ := tracked.records id current found
  have still : ∀ made : Snapshot, made.actions = current.actions → made.sessions = current.sessions →
      made.callbacks = current.callbacks → made.run.id = current.run.id →
      Slots after.journal id made ∧ Moves (FreshCall store call) current made :=
    fun made actions sessions callbacks run => ⟨slots.later tracked.owned more (.same actions),
      .same backed (.same run actions callbacks) sessions⟩
  cases builds with
  | changed change _ called applied =>
    subst called
    obtain ⟨old, moves⟩ := change.moves names sound backed (slots.single sound) runID built applied
    exact ⟨slots.later tracked.owned more old, moves.backed, fun fresh => moves.stand (fresh current found)⟩
  | prepared attempt kind requestDigest actionID _ unused slot =>
    refine ⟨fun key action held => ?_, .same backed ⟨rfl, fun other action there _ => ?_, fun _ _ there => there⟩ rfl⟩
    · have held : (current.actions.put actionID _).get? key = some action := held
      rw [Table.get?_put] at held
      split at held
      · cases held
        exact fun _ => slot tracked.owned
      · exact slots.later tracked.owned more (.same rfl) key action held
    · exact (Table.get?_put_other _ _ fun same => by simp [← same, there] at unused).trans there
  | closed =>
    unfold closeRun
    split
    · rename_i closed
      rw [(closeSnapshot_ok closed).1]
      exact still _ rfl rfl rfl rfl
    · exact still _ rfl rfl rfl rfl

theorem Store.Tracked.call (names : sha.Names) (tracked : store.Tracked) (call : Call) (now : Nat → Time) :
    (store.call call now).Tracked := by
  have more := (call_writes tracked.kept call now).2 tracked.indexed
  refine ⟨tracked.kept.call call now, MemoryStore.Changes.indexed tracked.indexed more,
    (MemoryStore.Changes.keys more tracked.owned).1, call_each tracked.kept ?_ ?_ ?_⟩
  · intro id snapshot found
    obtain ⟨slots, backed⟩ := tracked.records id snapshot found
    exact ⟨slots.later tracked.owned more (.same rfl), backed⟩
  · intro run graph snapshot _ new
    obtain ⟨_, _, _, sessions, actions, _⟩ := newSnapshot_ok new
    refine ⟨fun _ _ found => ?_, fun _ _ found => ?_⟩
    · simp [actions] at found
    · simp [sessions] at found
  · intro id current built time found builds _
    obtain ⟨slots, moves⟩ := tracked.built names found more builds
    exact ⟨slots, fun key session held => (moves.backed key session held).grows (.same rfl rfl rfl)⟩

theorem Steps.tracked (names : sha.Names) {allowed : Store → Call → Prop} (steps : Steps allowed store after)
    (tracked : store.Tracked) : after.Tracked := by
  induction steps with
  | refl => exact tracked
  | tail _ step ih =>
    obtain ⟨call, now, _, rfl⟩ := step
    exact ih.call names call now

theorem tracked_start (installationID : String) : ({ journal := { installationID } } : Store).Tracked where
  kept := kept_start _
  indexed := MemoryStore.indexed_new installationID
  owned _ _ found := nomatch found
  records _ _ found := (no_record found).elim

/-- In a run that does not acknowledge the runtime ID of a settled session again, whatever else is repeated, no
session goes back. -/
theorem sessions_never_regress (names : sha.Names) {installationID : String} {store after : Store}
    (before : Steps (fun _ _ => True) { journal := { installationID } } store) (onward : Steps FreshCall store after)
    {id : String} {snapshot : Snapshot} (found : store.records.get? id = some snapshot) :
    ∃ last, after.records.get? id = some last ∧ ∀ key session, snapshot.sessions.get? key = some session →
      ∃ later, last.sessions.get? key = some later ∧
        (session.state = .archived → later.state = .archived ∧ later.archiveReceipt = session.archiveReceipt) ∧
        (session.state = .completed → later.state = .completed ∨ later.state = .archived) := by
  have tracked := Steps.tracked names before (tracked_start installationID)
  suffices stands : ∃ last, after.records.get? id = some last ∧ SessionsStand snapshot last by
    obtain ⟨last, held, stands⟩ := stands
    refine ⟨last, held, fun key session here => ?_⟩
    obtain ⟨later, there, stand⟩ := stands key session here
    exact ⟨later, there, stand.archived, stand.completed⟩
  induction onward with
  | refl => exact ⟨snapshot, found, fun _ session here => ⟨session, here, .refl session⟩⟩
  | tail steps step ih =>
    obtain ⟨current, held, stands⟩ := ih
    obtain ⟨call, now, fresh, rfl⟩ := step
    have here := Steps.tracked names steps tracked
    have more := (call_writes here.kept call now).2 here.indexed
    obtain ⟨next, saved, stand⟩ : ∃ next, (Store.call _ call now).records.get? id = some next ∧
        SessionsStand current next :=
      call_keeps here.kept held (fun _ session there => ⟨session, there, .refl session⟩) (fun _ _ _ stand => stand)
        fun made builds => (here.built names held more builds).2.stand fresh
    refine ⟨next, saved, fun key session here => ?_⟩
    obtain ⟨middle, there, first⟩ := stands key session here
    obtain ⟨last, final, second⟩ := stand key middle there
    exact ⟨last, final, first.trans second⟩

end sessions

attribute [local instance] Sha.spelled

def sampleCallback : CompletionCallback where
  attemptID := firstAttempt
  runtimeChildID := "child"
  status := .done
  baseSHA := sampleSHA
  headSHA := sampleSHA
  ownedPathsDigest := sampleDigest
  testsDigest := sampleDigest
  recommendedParentAction := "integrate"

def completedSession : List Call :=
  let act (kind : ActionKind) (digest : String) : List Call :=
    let actionID := (stableActionID "run" "a" firstAttempt 1 .persistentSession kind digest).toOption.getD ""
    [.prepareAction "run" firstAttempt kind digest, .change "run" (.completeAction actionID
      { actionID, resultDigest := digest, runtimeWorkIDs := ["child"], messageReceipt := "receipt" })]
  [.create .sample (.sample 1 [.sample "a" .persistentSession ["src/**"] .ready]),
    .change "run" (.createAttempt "a" .sample)] ++ act .dispatch sampleDigest ++
  act .acknowledge (registrationMessageDigest "run" firstAttempt "child") ++
  [.change "run" (.acknowledgeRuntimeID firstAttempt "child")] ++
  act .callback (completionCallbackDigest sampleCallback) ++ [.change "run" (.recordCallback sampleCallback)]

def sessionIn (state : SessionState) (snapshot : Snapshot) : Bool :=
  (snapshot.sessions.get? (stableID "session" ["run", firstAttempt, "child"])).any (·.state = state)

theorem sessions_never_regress_completed : ∃ last, (sample.after (completedSession ++
    [.change "run" (.recordCallback sampleCallback)])).records.get? "run" = some last ∧
      (sessionIn .completed last = true ∨ sessionIn .archived last = true) := by
  have fresh : admits FreshCall (sample.after completedSession)
      [.change "run" (.recordCallback sampleCallback)] = true := by decide +kernel
  obtain ⟨snapshot, found, inside⟩ : ∃ snapshot,
      (sample.after completedSession).records.get? "run" = some snapshot ∧ sessionIn .completed snapshot = true := by
    decide +kernel
  obtain ⟨session, here, completed⟩ := (Option.any_eq_true _ _).mp inside
  obtain ⟨last, there, stands⟩ := sessions_never_regress Sha.spelled_names (after_steps _ completedSession)
    (admits_steps fresh) found
  obtain ⟨later, kept, _, state⟩ := stands _ session here
  refine ⟨last, by rw [after, List.foldl_append]; exact there, ?_⟩
  simpa [sessionIn, kept] using state (of_decide_eq_true completed)

/-- Acknowledging the runtime ID again takes a completed session back. -/
theorem session_reacknowledged :
    ((sample.after completedSession).records.get? "run").any (sessionIn .completed) = true ∧
    ((sample.after (completedSession ++ [.change "run" (.acknowledgeRuntimeID firstAttempt "child")])).records.get?
      "run").any (sessionIn .acknowledged) = true := by decide +kernel

end Paje.Control
