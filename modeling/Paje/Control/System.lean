import Paje.Control.Effects

/-!
Runs of the control plane: any sequence of calls on a store that starts without records. A call
saves at most one record, and a closed run is never saved again.
-/

namespace Paje.Control

open Text Journal Table Store

def Snapshot.saved (next : Snapshot) (version : Nat) (time : Time) : Snapshot :=
  { next with
    version := version + 1
    run := { next.run with updatedAt := time } }

variable {version : Nat} {now : Nat → Time} {next saved snapshot : Snapshot} {store : Store}
  {allowed : Store → Call → Prop} {controlRunID : String}

variable {id : String} {journal : MemoryStore}

theorem Store.load_ok (h : store.load id = .ok snapshot) : store.records.get? id = some snapshot := by
  unfold load at h
  split at h
  · cases h
  · rename_i found
    cases h
    exact found

theorem Store.stamped_differs {now : Time} (changed : ¬ snapshot.same next) (unsaved : Unsaved snapshot next) :
    ¬ snapshot.same { next with
      run := { next.run with updatedAt := now }
      version := version } := by
  rintro ⟨schema, _, run, rest⟩
  have stamps := Prod.mk.inj unsaved.1
  have time : snapshot.run.updatedAt = now := congrArg ControlRun.updatedAt run
  refine changed ⟨schema, stamps.1.symm, ?_, rest⟩
  rw [run, ← time, ← stamps.2]

theorem no_record : ¬ ({ journal } : Store).records.get? id = some snapshot := by
  show ¬ get? ∅ id = some snapshot
  rw [get?_empty]
  exact Option.some_ne_none snapshot ∘ Eq.symm

theorem no_attempt {attempt : PlacementAttempt} : ¬ get? (∅ : Table PlacementAttempt) id = some attempt := by
  rw [get?_empty]
  exact Option.some_ne_none attempt ∘ Eq.symm

variable [sha : Sha]

/-- A save of a record: a valid successor with the effect of its call. -/
structure Saves (call : Call) (id : String) (current next : Snapshot) : Prop where
  sound : current.Sound
  nextSound : next.Sound
  succeeds : current.Succeeds next
  opened : current.run.status ≠ .closed
  effect : ∃ revision, Effect revision current next ∧
    ∀ graph ∈ revision, ∃ expected, call = .change id (.updateGraph expected graph)
  closes : next.run.status = .closed → call = .closeControlRun id ∧ Closes current next

def ControlRun.timed (run : ControlRun) (now : Time) : ControlRun :=
  { run with
    createdAt := if run.createdAt.IsZero then now else run.createdAt
    updatedAt := if run.updatedAt.IsZero then now else run.updatedAt }

/-- What a call does to the record under `id`. -/
inductive RecordStep (call : Call) (id : String) : Option Snapshot → Option Snapshot → Prop where
  | same (record : Option Snapshot) : RecordStep call id record record
  | created (run : ControlRun) (graph : TaskGraph) (now : Time) (snapshot : Snapshot)
      (create : call = .create run graph) (new : newSnapshot (run.timed now) graph = .ok snapshot)
      (runID : snapshot.run.id = id) : RecordStep call id none (some snapshot)
  | saved (current next : Snapshot) (saves : Saves call id current next) :
      RecordStep call id (some current) (some next)

/-- The journal may hold more reservations and events. -/
abbrev Extends : MemoryStore → MemoryStore → Prop := Relation.ReflTransGen (MemoryStore.Change fun _ => True)

/-- The copy of the record under `id` that a call makes to save it. -/
inductive Builds (store : Store) (call : Call) (now : Nat → Time) (after : Store) (id : String) (current : Snapshot) :
    Snapshot → Prop where
  | changed (change : Change) (next : Snapshot) (called : call = .change id change)
      (applied : change.apply id now current = .ok next) (differs : ¬ current.same next) :
      Builds store call now after id current next
  | prepared (attempt : PlacementAttempt) (kind : ActionKind) (requestDigest actionID : String)
      (held : current.attempts.get? attempt.id = some attempt) (fresh : current.actions.get? actionID = none)
      (slot : store.journal.Owned → ∃ reservation, after.journal.idempotency.get?
        (journalIdempotencyKey id attempt.id kind actionID) = some reservation ∧ reservation.id = actionID) :
      Builds store call now after id current (newAction current id attempt kind requestDigest actionID now).2.2
  | closed (called : call = .closeControlRun id) (opened : current.run.status ≠ .closed) :
      Builds store call now after id current (closeRun current id now).1

inductive Writes (store : Store) (call : Call) (now : Nat → Time) (after : Store) : Prop where
  | same (records : after.records = store.records)
  | created (run : ControlRun) (graph : TaskGraph) (snapshot : Snapshot) (create : call = .create run graph)
      (new : newSnapshot (run.timed (now 0)) graph = .ok snapshot)
      (absent : store.records.get? snapshot.run.id = none)
      (records : after.records = store.records.put snapshot.run.id snapshot)
  | saved (id : String) (current built : Snapshot) (time : Time) (found : store.records.get? id = some current)
      (builds : Builds store call now after id current built)
      (valid : validateSave current (built.saved current.version time) = .ok ())
      (records : after.records = store.records.put id (built.saved current.version time))

namespace Store

def Kept (store : Store) : Prop :=
  ∀ id snapshot, store.records.get? id = some snapshot → snapshot.run.id = id ∧ snapshot.Sound

theorem put_ok {after : Store} {kind : Journal.EventKind} {actionID : String}
    (h : store.put next kind actionID = .ok after) :
    after.records = store.records.put next.run.id next ∧ Extends store.journal after.journal := by
  unfold put at h
  obtain ⟨_, appended, h⟩ := bind_ok h
  cases pure_ok h
  exact ⟨rfl, MemoryStore.append_changes (fun _ => trivial) (relabel_ok appended)⟩

theorem save_ok {after : Store} (h : store.save next version = .ok (saved, after)) :
    ∃ current, store.records.get? next.run.id = some current ∧
      saved = { next with version := current.version + 1 } ∧ validateSave current saved = .ok () ∧
      after.records = store.records.put next.run.id saved ∧ Extends store.journal after.journal := by
  unfold save at h
  split at h
  · cases h
  rename_i current found
  obtain ⟨_, h⟩ := require_bind_ok h
  obtain ⟨_, valid, h⟩ := bind_ok h
  dsimp only at h
  obtain ⟨_, _, h⟩ := bind_ok h
  obtain ⟨stored, puts, h⟩ := bind_ok h
  cases pure_ok h
  exact ⟨current, found, rfl, valid, put_ok puts⟩

theorem reserveAction_ok {after : Store} {action : Action} {created : Bool}
    (h : store.reserveAction next version action = .ok (saved, created, after)) :
    after = store ∨ ∃ current, store.records.get? next.run.id = some current ∧
      current.actions.get? action.id = none ∧
      saved = { next with version := current.version + 1 } ∧ validateSave current saved = .ok () ∧
      after.records = store.records.put next.run.id saved ∧
      (store.journal.Owned → after.journal.idempotency.get? action.idempotencyKey = some action) ∧
      (store.journal.Indexed → Extends store.journal after.journal) := by
  unfold reserveAction at h
  split at h
  · cases h
  rename_i current found
  dsimp only at h
  split at h
  · obtain ⟨_, h⟩ := require_bind_ok h
    obtain ⟨_, _, h⟩ := bind_ok h
    obtain ⟨_, _, h⟩ := bind_ok h
    obtain ⟨_, h⟩ := require_bind_ok h
    cases pure_ok h
    exact .inl rfl
  · rename_i version
    obtain ⟨_, valid, h⟩ := bind_ok h
    obtain ⟨⟨_, _, _, journal⟩, reserves, h⟩ := bind_ok h
    cases pure_ok h
    unfold validateActionReservation at valid
    obtain ⟨_, saved, valid⟩ := bind_ok valid
    obtain ⟨_, _, valid⟩ := bind_ok valid
    obtain ⟨⟨_, _, _, fresh, _⟩, _⟩ := require_bind_ok valid
    rw [← not_not.mp version] at saved ⊢
    obtain ⟨key, changes⟩ := MemoryStore.reserveAndAppend_changes (relabel_ok reserves)
    exact .inr ⟨current, found, Option.isNone_iff_eq_none.mp fresh, rfl, saved, rfl, key, changes⟩

theorem createRun_ok {after : Store} {run : ControlRun} {graph : TaskGraph} {now : Time}
    (h : store.createRun run graph now = .ok after) : ∃ snapshot, newSnapshot (run.timed now) graph = .ok snapshot ∧
      store.records.get? snapshot.run.id = none ∧ after.records = store.records.put snapshot.run.id snapshot ∧
      Extends store.journal after.journal := by
  unfold createRun at h
  dsimp only at h
  obtain ⟨snapshot, new, h⟩ := bind_ok h
  unfold create at h
  obtain ⟨_, _, h⟩ := bind_ok h
  obtain ⟨absent, h⟩ := require_bind_ok h
  exact ⟨snapshot, new, absent, put_ok h⟩

theorem change_ok {after : Store} {change : Change} (h : store.change controlRunID change now = .ok after) :
    ∃ current next, store.records.get? controlRunID = some current ∧ change.apply controlRunID now current = .ok next ∧
      (current.same next ∧ after = store ∨ ¬ current.same next ∧ ∃ held, store.records.get? next.run.id = some held ∧
        validateSave held (next.saved held.version (now 3)) = .ok () ∧
        after.records = store.records.put next.run.id (next.saved held.version (now 3)) ∧
        Extends store.journal after.journal) := by
  obtain ⟨⟨_, _⟩, mutates, rfl⟩ := map_ok h
  clear h
  unfold mutate at mutates
  obtain ⟨current, loaded, mutates⟩ := bind_ok mutates
  obtain ⟨⟨_, next⟩, changes, mutates⟩ := bind_ok mutates
  obtain ⟨_, applied, same⟩ := map_ok changes
  cases same
  refine ⟨current, next, load_ok loaded, applied, ?_⟩
  dsimp only at mutates
  split at mutates
  · rename_i same
    cases pure_ok mutates
    exact .inl ⟨same, rfl⟩
  · rename_i differs
    obtain ⟨⟨saved, stored⟩, saving, mutates⟩ := bind_ok mutates
    cases pure_ok mutates
    obtain ⟨held, found, rfl, valid, records, more⟩ := save_ok saving
    exact .inr ⟨differs, held, found, valid, records, more⟩

end Store

variable {time : Time}

section builds

variable {call : Call} {current built : Snapshot} {after : Store}

section

variable (builds : Builds store call now after id current built)
include builds

theorem Builds.effect (sound : current.Sound) (runID : current.run.id = id) :
    ∃ revision, Effect revision current built ∧
      ∀ graph ∈ revision, ∃ expected, call = .change id (.updateGraph expected graph) := by
  cases builds with
  | changed change _ called applied differs =>
    refine ⟨change.revision, (change.effect sound runID applied).1, ?_⟩
    intro graph brings
    cases change <;> first | exact ⟨_, by cases brings; exact called⟩ | cases brings
  | prepared attempt kind requestDigest actionID held fresh _ => exact ⟨none, newAction_effect held fresh, nofun⟩
  | closed called opened => exact ⟨none, (closeRun_effect current id now).1, nofun⟩

theorem Builds.saves (sound : current.Sound) (runID : current.run.id = id)
    (valid : validateSave current (built.saved current.version time) = .ok ()) :
    Saves call id current (built.saved current.version time) := by
  obtain ⟨_, nextSound, succeeds⟩ := validateSave_ok.mp valid
  obtain ⟨revision, effect, brings⟩ := builds.effect sound runID
  suffices ends : current.run.status ≠ .closed ∧
      (built.run.status = .closed → call = .closeControlRun id ∧ Closes current built) by
    refine ⟨sound, nextSound, succeeds, ends.1, ⟨revision, ⟨effect.runID, effect.attempts, effect.actions,
      effect.sessions, effect.updated, effect.tasks⟩, brings⟩, fun closed => ?_⟩
    obtain ⟨called, closing⟩ := ends.2 closed
    exact ⟨called, closing.accepted, closing.graph, closing.attempts, closing.sessions, closing.handoffs,
      closing.actions⟩
  cases builds with
  | changed change _ called applied differs =>
    have unsaved := (change.effect sound runID applied).2
    have opened : current.run.status ≠ .closed := fun closed =>
      stamped_differs differs unsaved (succeeds.closed closed)
    exact ⟨opened, fun closed => absurd (unsaved.2 closed) opened⟩
  | prepared attempt kind requestDigest actionID held fresh _ =>
    have opened : current.run.status ≠ .closed := by
      intro closed
      have events := congrArg List.length (succeeds.closed closed).2.2.2.2.2.2.2.2.2.2.2
      simp [Snapshot.saved, newAction, appendEvent] at events
    exact ⟨opened, fun closed => absurd closed opened⟩
  | closed called opened => exact ⟨opened, fun closed => ⟨called, (closeRun_effect current id now).2 closed⟩⟩

theorem Builds.writes {held : Snapshot} (kept : store.Kept)
    (found : store.records.get? id = some current) (heldFound : store.records.get? built.run.id = some held)
    (valid : validateSave held (built.saved held.version time) = .ok ())
    (records : after.records = store.records.put built.run.id (built.saved held.version time)) :
    Writes store call now after := by
  obtain ⟨runID, sound⟩ := kept id current found
  obtain ⟨_, effect, _⟩ := builds.effect sound runID
  have target : built.run.id = id := effect.runID.trans runID
  rw [target] at heldFound records
  cases found.symm.trans heldFound
  exact .saved id current built time found builds valid records

end

end builds

namespace Store

section

variable (kept : store.Kept)
include kept

theorem change_writes {after : Store} {change : Change} (h : store.change controlRunID change now = .ok after) :
    Writes store (.change controlRunID change) now after ∧ Extends store.journal after.journal := by
  obtain ⟨current, next, found, applied, ⟨_, rfl⟩ | ⟨differs, held, heldFound, valid, records, more⟩⟩ := change_ok h
  · exact ⟨.same rfl, .refl⟩
  · exact ⟨(Builds.changed change next rfl applied differs).writes kept found heldFound valid records, more⟩

theorem prepare_writes {call : Call} {made : LifecycleAction × Bool × Store} {attemptID : String}
    {kind : ActionKind} {requestDigest : String}
    {preflight : Snapshot → Except Error (Option LifecycleAction)}
    (h : store.prepare controlRunID attemptID kind requestDigest preflight now = .ok made) :
    Writes store call now made.2.2 ∧ (store.journal.Indexed → Extends store.journal made.2.2.journal) := by
  unfold prepare at h
  obtain ⟨current, loaded, h⟩ := bind_ok h
  obtain ⟨known, _, h⟩ := bind_ok h
  split at h
  · cases pure_ok h
    exact ⟨.same rfl, fun _ => .refl⟩
  obtain ⟨⟨prepared, reservation⟩, prepares, h⟩ := bind_ok h
  split at h
  · cases pure_ok h
    exact ⟨.same rfl, fun _ => .refl⟩
  rename_i split
  cases split
  obtain ⟨⟨saved, created, stored⟩, reserving, h⟩ := bind_ok h
  obtain ⟨_, h⟩ := require_bind_ok h
  cases pure_ok h
  have found := load_ok loaded
  obtain ⟨rfl, sound⟩ := kept controlRunID current found
  obtain ⟨attempt, actionID, held, same⟩ := prepareAction_new sound prepares
  cases same
  rcases reserveAction_ok reserving with rfl | ⟨other, otherFound, fresh, rfl, valid, records, key, more⟩
  · exact ⟨.same rfl, fun _ => .refl⟩
  cases found.symm.trans otherFound
  have slotted : Builds store call now stored current.run.id current _ :=
    .prepared attempt kind requestDigest actionID held fresh fun owned => ⟨_, key owned, rfl⟩
  exact ⟨slotted.writes kept found otherFound valid records, more⟩

theorem closeControlRun_writes {made : Snapshot × Option Error × Store}
    (h : store.closeControlRun controlRunID now = .ok made) :
    Writes store (.closeControlRun controlRunID) now made.2.2 ∧ Extends store.journal made.2.2.journal := by
  unfold closeControlRun at h
  obtain ⟨current, loaded, h⟩ := bind_ok h
  split at h
  · cases pure_ok h
    exact ⟨.same rfl, .refl⟩
  rename_i opened
  obtain ⟨⟨next, stored⟩, saving, h⟩ := bind_ok h
  cases pure_ok h
  obtain ⟨held, found, rfl, valid, records, more⟩ := save_ok saving
  exact ⟨(Builds.closed rfl opened).writes kept (load_ok loaded) found valid records, more⟩

theorem call_writes (call : Call) (now : Nat → Time) : Writes store call now (store.call call now) ∧
    (store.journal.Indexed → Extends store.journal (store.call call now).journal) := by
  unfold Store.call
  dsimp only
  split
  · rename_i after outcome
    cases call with
    | create run graph =>
      obtain ⟨snapshot, new, absent, records, more⟩ := createRun_ok outcome
      exact ⟨.created run graph snapshot rfl new absent records, fun _ => more⟩
    | change controlRunID change =>
      obtain ⟨writes, more⟩ := change_writes kept outcome
      exact ⟨writes, fun _ => more⟩
    | prepareAction | prepareObserve =>
      obtain ⟨_, prepares, rfl⟩ := map_ok outcome
      exact prepare_writes kept prepares
    | closeControlRun controlRunID =>
      obtain ⟨_, closes, rfl⟩ := map_ok outcome
      obtain ⟨writes, more⟩ := closeControlRun_writes kept closes
      exact ⟨writes, fun _ => more⟩
    | journal write =>
      cases outcome
      exact ⟨.same rfl, fun indexed => MemoryStore.write_changes indexed (by cases write <;> simp [MemoryStore.Adds])⟩
  · exact ⟨.same rfl, fun _ => .refl⟩

theorem call_record (call : Call) (now : Nat → Time) (id : String) :
    RecordStep call id (store.records.get? id) ((store.call call now).records.get? id) := by
  cases (call_writes kept call now).1 with
  | same records =>
    rw [records]
    exact .same _
  | created run graph snapshot create new absent records =>
    rw [records, get?_put]
    split
    · rename_i same
      subst same
      rw [absent]
      exact .created run graph (now 0) snapshot create new rfl
    · exact .same _
  | saved target current built time found builds valid records =>
    rw [records, get?_put]
    split
    · rename_i same
      subst same
      obtain ⟨runID, sound⟩ := kept id current found
      rw [found]
      exact .saved current _ (builds.saves sound runID valid)
    · exact .same _

theorem call_each {P : String → Snapshot → Prop} {call : Call}
    (same : ∀ id snapshot, store.records.get? id = some snapshot → P id snapshot)
    (created : ∀ run graph snapshot, call = .create run graph → newSnapshot (run.timed (now 0)) graph = .ok snapshot →
      P snapshot.run.id snapshot)
    (saved : ∀ id current built time, store.records.get? id = some current →
      Builds store call now (store.call call now) id current built →
      validateSave current (built.saved current.version time) = .ok () → P id (built.saved current.version time)) :
    ∀ id snapshot, (store.call call now).records.get? id = some snapshot → P id snapshot := by
  intro id snapshot found
  cases (call_writes kept call now).1 with
  | same records => exact same id snapshot (records ▸ found)
  | created run graph new create made _ records =>
    rw [records, get?_put] at found
    split at found
    · rename_i here
      cases found
      exact here ▸ created run graph snapshot create made
    · exact same id snapshot found
  | saved target current built time held builds valid records =>
    rw [records, get?_put] at found
    split at found
    · rename_i here
      cases found
      exact here ▸ saved target current built time held builds valid
    · exact same id snapshot found

theorem call_keeps {current : Snapshot} {R : Snapshot → Snapshot → Prop} {call : Call}
    (found : store.records.get? id = some current) (refl : R current current)
    (stamped : ∀ made version time, R current made → R current (made.saved version time))
    (built : ∀ made, Builds store call now (store.call call now) id current made → R current made) :
    ∃ next, (store.call call now).records.get? id = some next ∧ R current next := by
  cases (call_writes kept call now).1 with
  | same records => exact ⟨current, records ▸ found, refl⟩
  | created run graph snapshot create new absent records =>
    rw [records, get?_put, if_neg fun same => by simp [same ▸ found] at absent]
    exact ⟨current, found, refl⟩
  | saved target held made time heldFound builds valid records =>
    rw [records, get?_put]
    split
    · rename_i same
      subst same
      cases found.symm.trans heldFound
      exact ⟨_, rfl, stamped made _ time (built made builds)⟩
    · exact ⟨current, found, refl⟩

end

end Store

theorem newSnapshot_ok {run : ControlRun} {graph : TaskGraph} (h : newSnapshot run graph = .ok snapshot) :
    snapshot.Sound ∧ snapshot.run.status = run.status ∧ snapshot.attempts = ∅ ∧ snapshot.sessions = ∅ ∧
      snapshot.actions = ∅ ∧ snapshot.graph.edges = graph.edges := by
  unfold newSnapshot at h
  dsimp only at h
  obtain ⟨_, valid, h⟩ := bind_ok h
  cases pure_ok h
  refine ⟨validateSnapshot_ok.mp valid, ?_, rfl, rfl, rfl, ?_⟩
  · dsimp only
    split <;> rfl
  · simp only [TaskGraph.edges, normalizeGraph]
    split <;> simp [Function.comp_def]

theorem Store.Kept.call (kept : store.Kept) (call : Call) (now : Nat → Time) : (store.call call now).Kept := by
  intro id snapshot found
  have step := store.call_record kept call now id
  rw [found] at step
  generalize before : store.records.get? id = record at step
  cases step with
  | same => exact kept id snapshot before
  | created run graph time _ create new runID => exact ⟨runID, (newSnapshot_ok new).1⟩
  | saved current _ saves =>
    obtain ⟨revision, effect, _⟩ := saves.effect
    exact ⟨effect.runID.trans (kept id current before).1, saves.nextSound⟩

def Step (allowed : Store → Call → Prop) (store after : Store) : Prop :=
  ∃ call now, allowed store call ∧ after = store.call call now

/-- Any number of calls, each admitted by `allowed`. -/
abbrev Steps (allowed : Store → Call → Prop) : Store → Store → Prop :=
  Relation.ReflTransGen (Step allowed)

theorem Steps.kept {after : Store} (steps : Steps allowed store after) (kept : store.Kept) : after.Kept := by
  induction steps with
  | refl => exact kept
  | tail _ step ih =>
    obtain ⟨call, now, _, rfl⟩ := step
    exact ih.call call now

theorem kept_start (journal : MemoryStore) : ({ journal } : Store).Kept :=
  fun _ _ found => (no_record found).elim

def Store.after (store : Store) (calls : List Call) : Store :=
  calls.foldl (fun store call => store.call call fun _ => Time.unixEpoch) store

def Store.admits (allowed : Store → Call → Prop) [∀ store call, Decidable (allowed store call)] :
    Store → List Call → Bool
  | _, [] => true
  | store, call :: rest =>
    decide (allowed store call) && Store.admits allowed (store.call call fun _ => Time.unixEpoch) rest

theorem Store.admits_steps [∀ store call, Decidable (allowed store call)]
    {calls : List Call} (h : admits allowed store calls = true) : Steps allowed store (store.after calls) := by
  induction calls generalizing store with
  | nil => exact .refl
  | cons call rest ih =>
    simp only [admits, Bool.and_eq_true, decide_eq_true_eq] at h
    exact .head ⟨call, _, h.1, rfl⟩ (ih h.2)

theorem Store.after_steps (store : Store) (calls : List Call) :
    Steps (fun _ _ => True) store (store.after calls) := by
  induction calls generalizing store with
  | nil => exact .refl
  | cons call rest ih => exact .head ⟨call, _, trivial, rfl⟩ (ih _)

variable {P : Snapshot → Prop}

theorem Steps.records {after : Store}
    (created : ∀ store run graph now snapshot, allowed store (.create run graph) →
      newSnapshot (run.timed now) graph = .ok snapshot → P snapshot)
    (saved : ∀ store call id current next, allowed store call →
      store.records.get? id = some current → P current → Saves call id current next → P next)
    (steps : Steps allowed { journal } after) :
    ∀ id snapshot, after.records.get? id = some snapshot → P snapshot := by
  induction steps with
  | refl => exact fun _ _ found => (no_record found).elim
  | @tail middle last steps step ih =>
    obtain ⟨call, now, admitted, rfl⟩ := step
    intro id snapshot found
    have step := call_record (Steps.kept steps (kept_start journal)) call now id
    rw [found] at step
    generalize before : middle.records.get? id = record at step
    cases step with
    | same => exact ih id snapshot before
    | created run graph time _ create new runID =>
      subst create
      exact created middle run graph time snapshot admitted new
    | saved current _ saves =>
      exact saved middle call id current snapshot admitted before (ih id current before) saves

theorem Steps.record {after : Store} (steps : Steps allowed store after) (kept : store.Kept)
    (saved : ∀ store call current next, store.Kept → allowed store call →
      store.records.get? id = some current → P current → Saves call id current next → P next)
    (found : store.records.get? id = some snapshot) (start : P snapshot) :
    ∃ last, after.records.get? id = some last ∧ P last := by
  induction steps with
  | refl => exact ⟨snapshot, found, start⟩
  | @tail middle last steps step ih =>
    obtain ⟨call, now, admitted, rfl⟩ := step
    obtain ⟨current, before, holds⟩ := ih
    have step := call_record (Steps.kept steps kept) call now id
    rw [before] at step
    generalize later : (middle.call call now).records.get? id = record at step
    cases step with
    | same => exact ⟨current, rfl, holds⟩
    | saved _ next saves =>
      exact ⟨next, rfl, saved middle call current next (Steps.kept steps kept) admitted before holds saves⟩

end Paje.Control
