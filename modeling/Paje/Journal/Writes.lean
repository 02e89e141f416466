import Paje.Journal.Appends
import Paje.Journal.Rebuild

/-!
Arbitrary sequences of calls that write a `MemoryStore`. `Change` says what a call can do to the
store; the rules of the journal and the exactly-once property of `Commit` follow from it.
-/

namespace Paje.Journal

open Text Projection Relation List Table MemoryStore

variable {allowed : Event → Prop}
variable {action : Action} {event : Event} {after store : MemoryStore} {id : String}

section Calls

inductive Write where
  | reserve (action : Action)
  | append (controlRunID : String) (expectedRunSequence : Nat) (event : Event)
  | commit (request : CommitRequest)
  | reserveAndAppend (action : Action) (event : Event)

namespace MemoryStore

structure Indexed (store : MemoryStore) : Prop where
  listed : ∀ id event, store.eventByID.get? id = some event → event ∈ store.events
  known : ∀ event ∈ store.events, event.actionID ≠ "" → ∃ action,
    store.actions.get? event.actionID = some action ∧ action.controlRunID = event.controlRunID

theorem Indexed.unseen (indexed : store.Indexed) (present : id ≠ "")
    (unused : store.actions.get? id = none) : ∀ event ∈ store.events, event.actionID ≠ id := by
  intro event member same
  obtain ⟨action, found, _⟩ := indexed.known event member (same ▸ present)
  cases (same ▸ found).symm.trans unused

theorem Indexed.append {run : String} (indexed : store.Indexed)
    (appends : store.Appends run event) : (store.push (store.placed event 1)).Indexed where
  listed id other found := by
    simp only [push, Table.get?_put] at found ⊢
    split at found
    · cases found
      simp
    · exact List.mem_append_left _ (indexed.listed id other found)
  known other member named := by
    rcases List.mem_append.mp member with before | new
    · exact indexed.known other before named
    · cases List.mem_singleton.mp new
      obtain ⟨action, found, run, _⟩ := appends.known named
      exact ⟨action, found, run.trans appends.bound.symm⟩

theorem Indexed.claimed (indexed : store.Indexed)
    (present : action.id ≠ "") (unused : store.actions.get? action.id = none) : (store.claimed action).Indexed where
  listed := indexed.listed
  known other member named := by
    obtain ⟨held, found, run⟩ := indexed.known other member named
    refine ⟨held, ?_, run⟩
    simp only [MemoryStore.claimed]
    rw [Table.get?_put_other _ _ (indexed.unseen present unused other member), found]

theorem indexed_new (installationID : String) : Indexed { installationID } where
  listed _ _ found := nomatch found
  known _ member := nomatch member

/-- The events keep the rules, and the run lists and the identifier index are theirs. -/
structure Filed (store : MemoryStore) : Prop where
  recorded : Recorded store.events
  encodable : ∀ event ∈ store.events, event.occurredAt.Encodable
  runs : ∀ run, store.runOf run = store.events.filter (·.controlRunID = run)
  stored : ∀ event ∈ store.events, store.eventByID.get? event.id ≠ none

theorem Filed.fresh (filed : store.Filed)
    (absent : store.eventByID.get? id = none) : ∀ event ∈ store.events, event.id ≠ id := by
  intro event member same
  exact filed.stored event member (same ▸ absent)

theorem Filed.push (filed : store.Filed)
    (follows : Follows store.events event) (encodable : event.occurredAt.Encodable) : (store.push event).Filed where
  recorded := .snoc filed.recorded follows
  encodable other member := by
    rcases List.mem_append.mp member with before | new
    · exact filed.encodable other before
    · cases List.mem_singleton.mp new
      exact encodable
  runs := runs_push event filed.runs
  stored other member := by
    simp only [MemoryStore.push, Table.get?_put]
    split
    · simp
    · rename_i different
      rcases mem_append.mp member with before | new
      · exact filed.stored other before
      · cases mem_singleton.mp new
        exact absurd rfl different

/-- A stored action is found under its idempotency key. -/
def Owned (store : MemoryStore) : Prop :=
  ∀ id action, store.actions.get? id = some action → store.idempotency.get? action.idempotencyKey = some action

theorem Owned.claimed (owned : store.Owned) (keyUnused : store.idempotency.get? action.idempotencyKey = none) :
    (store.claimed action).Owned := by
  intro id held found
  simp only [MemoryStore.claimed, get?_put] at found ⊢
  split at found
  · cases found
    rw [if_pos rfl]
  · have before := owned id held found
    rw [if_neg fun same => by simp [same, keyUnused] at before]
    exact before

/-- Each commit is found under its action and its key. -/
structure Settled (store : MemoryStore) : Prop where
  stored : ∀ id commit, store.commits.get? id = some commit → store.actions.get? id = some commit.receipt.action
  keyed : ∀ id commit, store.commits.get? id = some commit →
    store.commitKeys.get? commit.receipt.action.idempotencyKey = some id

theorem settled_new (installationID : String) : Settled { installationID } where
  stored _ _ found := nomatch found
  keyed _ _ found := nomatch found

variable [sha : Sha]

def write (store : MemoryStore) : Write → MemoryStore
  | .reserve action => match store.reserveAction action with
    | .ok (_, _, after) => after
    | .error _ => store
  | .append controlRunID expectedRunSequence event =>
    match store.append controlRunID expectedRunSequence event with
    | .ok (_, after) => after
    | .error _ => store
  | .commit request => match store.commit request with
    | .ok (_, after) => after
    | .error _ => store
  | .reserveAndAppend action event =>
    match store.checkReserveAndAppend action event, store.reserve action with
    | .ok _, .ok (_, _, middle) =>
      -- nothing undoes the reservation when the projection event is refused
      match middle.append action.controlRunID (middle.runOf action.controlRunID).length event with
      | .ok (_, after) => after
      | .error _ => middle
    | _, _ => store

def run (store : MemoryStore) (writes : List Write) : MemoryStore := writes.foldl write store

/-- What a call can do: reserve a new action, add a new event, or commit. -/
inductive Change (allowed : Event → Prop) (store : MemoryStore) : MemoryStore → Prop where
  | reserve {action : Action} (valid : validateAction action = .ok ())
      (unused : store.actions.get? action.id = none)
      (keyUnused : store.idempotency.get? action.idempotencyKey = none)
      (appends : (store.claimed action).Appends action.controlRunID (reserved action)) :
      Change allowed store ((store.claimed action).push (store.placed (reserved action) 1))
  | append {run : String} {event : Event} (appends : store.Appends run event) (fits : allowed event) :
      Change allowed store (store.push (store.placed event 1))
  | commit {request : CommitRequest} (accepted : store.Accepted request) :
      Change allowed store (store.committed request)

variable {run : String}

theorem Change.indexed (indexed : store.Indexed) (change : store.Change allowed after) : after.Indexed := by
  cases change with
  | reserve valid unused _ appends =>
    exact (indexed.claimed (named_nonempty (validateAction_named valid).1) unused).append appends
  | append appends _ => exact indexed.append appends
  | @commit request accepted =>
    obtain ⟨valid, bound, _⟩ := validateCommitRequest_ok accepted.valid
    have present := named_nonempty (validateAction_named valid).1
    have both := ((indexed.claimed present accepted.unused).append accepted.appends.1).append
      accepted.appends.2
    rw [committed_eq bound]
    exact ⟨both.listed, both.known⟩

/-! ### Every call is a sequence of changes -/

/-- The events that a call may add to the store satisfy `allowed`. -/
def Adds (store : MemoryStore) (allowed : Event → Prop) : Write → Prop
  | .append _ _ event | .reserveAndAppend _ event => store.eventByID.get? event.id = none → allowed event
  | .reserve _ | .commit _ => True

theorem append_changes
    {expected : Nat} {assigned : Event} (adds : store.eventByID.get? event.id = none → allowed event)
    (appended : store.append run expected event = .ok (assigned, after)) :
    ReflTransGen (Change allowed) store after := by
  rcases append_ok appended with ⟨rfl, _⟩ | ⟨appends, rfl⟩
  · exact .refl
  · exact .single (.append appends (adds appends.fresh))

theorem reserve_changes {kept : Action}
    {created : Bool} (indexed : store.Indexed) (valid : validateAction action = .ok ())
    (reserved : store.reserve action = .ok (kept, created, after)) : after = store ∨ store.Change allowed after := by
  rcases reserve_ok reserved with ⟨rfl, _⟩ | ⟨keyUnused, unused, assigned, appended⟩
  · exact .inl rfl
  rcases append_ok appended with ⟨_, found, same⟩ | ⟨appends, rfl⟩
  · -- an event under the reservation's identifier would name the action
    have named : assigned.actionID = action.id := congrArg Event.actionID same
    have present := named_nonempty (validateAction_named valid).1
    exact absurd named (indexed.unseen present unused assigned (indexed.listed _ _ found))
  · exact .inr (.reserve valid unused keyUnused appends)

theorem Change.eventByID (change : store.Change allowed after) (absent : after.eventByID.get? id = none) :
    store.eventByID.get? id = none := by
  have put : ∀ (table : Table Event) (key : String) (event : Event),
      (table.put key event).get? id = none → table.get? id = none := by
    intro table key event missing
    rw [Table.get?_put] at missing
    split at missing
    · cases missing
    · exact missing
  cases change with
  | reserve _ _ _ _ => exact put _ _ _ absent
  | append _ _ => exact put _ _ _ absent
  | commit _ => exact put _ _ _ (put _ _ _ absent)

theorem write_changes (indexed : store.Indexed)
    {write : Write} (adds : store.Adds allowed write) : ReflTransGen (Change allowed) store (store.write write) := by
  cases write with
  | reserve action =>
    simp only [MemoryStore.write]
    split
    · rename_i kept created after reserved
      obtain ⟨_, valid, reserved⟩ := bind_ok reserved
      rcases reserve_changes indexed valid reserved with rfl | change
      · exact .refl
      · exact .single change
    · exact .refl
  | append run expected event =>
    simp only [MemoryStore.write]
    split
    · rename_i assigned after appended
      exact append_changes adds appended
    · exact .refl
  | commit request =>
    simp only [MemoryStore.write]
    split
    · rename_i receipt after committed
      rcases commit_ok committed with ⟨rfl, _⟩ | ⟨accepted, _, rfl⟩
      · exact .refl
      · exact .single (.commit accepted)
    · exact .refl
  | reserveAndAppend action event =>
    simp only [MemoryStore.write]
    split
    · rename_i middle checked reserved
      obtain ⟨_, valid, _⟩ := bind_ok checked
      have first : ReflTransGen (Change allowed) store middle ∧
          (middle.eventByID.get? event.id = none → store.eventByID.get? event.id = none) := by
        rcases reserve_changes indexed valid reserved with rfl | change
        · exact ⟨.refl, id⟩
        · exact ⟨.single change, change.eventByID⟩
      split
      · rename_i assigned after appended
        exact first.1.trans (append_changes (fun absent => adds (first.2 absent)) appended)
      · exact first.1
    · exact .refl

variable (installationID : String)

/-- Every call of `writes`, made from the store its predecessors left, adds only `allowed` events. -/
def AddsOnly (allowed : Event → Prop) (store : MemoryStore) : List Write → Prop
  | [] => True
  | write :: rest => store.Adds allowed write ∧ AddsOnly allowed (store.write write) rest

theorem Changes.indexed (indexed : store.Indexed)
    (changes : ReflTransGen (Change allowed) store after) : after.Indexed := by
  induction changes with
  | refl => exact indexed
  | tail _ change ih => exact change.indexed ih

theorem run_changes (indexed : store.Indexed) {writes : List Write} (adds : AddsOnly allowed store writes) :
    ReflTransGen (Change allowed) store (store.run writes) := by
  induction writes generalizing store with
  | nil => exact .refl
  | cons write rest ih =>
    have first := write_changes indexed adds.1
    exact first.trans (ih (Changes.indexed indexed first) adds.2)

/-! ### The rules of the journal -/

/-- What keeps the journal valid when a caller appends it. -/
structure Ordinary (event : Event) : Prop where
  reserves : event.kind.reserves = true → event.actionID = ""
  encodable : event.occurredAt.Encodable

structure Valid (store : MemoryStore) : Prop extends Indexed store, Filed store where
  reserved : ∀ id action, store.actions.get? id = some action → id = action.id ∧ store.Reserved action
  keyed : ∀ key action, store.idempotency.get? key = some action → store.actions.get? action.id = some action

theorem valid_new : Valid { installationID } where
  toIndexed := indexed_new installationID
  recorded := .nil
  encodable _ member := nomatch member
  runs _ := rfl
  stored _ member := nomatch member
  reserved _ _ found := nomatch found
  keyed _ _ found := nomatch found

theorem Valid.reservation_mem (valid : store.Valid) (found : store.actions.get? id = some action) :
    ∃ event ∈ store.events, event.actionID = id ∧ event.kind.reserves = true := by
  obtain ⟨rfl, held⟩ := valid.reserved id action found
  obtain ⟨event, only⟩ := List.length_eq_one_iff.mp held.once
  have member : event ∈ store.reservationsOf action.controlRunID action.id := by simp [only]
  obtain ⟨inRun, reserving⟩ := List.mem_filter.mp member
  rw [valid.runs] at inRun
  rw [decide_eq_true_eq] at reserving
  exact ⟨event, (mem_filter.mp inRun).1, reserving.1, EventKind.reserves_iff.mpr reserving.2⟩

theorem Valid.append (valid : store.Valid)
    (appends : store.Appends run event) (ordinary : Ordinary event) : (store.push (store.placed event 1)).Valid := by
  have follows : Follows store.events (store.placed event 1) := {
    valid := appends.placed
    position := rfl
    fresh := valid.fresh appends.fresh
    sequence := by rw [← valid.runs]; rfl
    oneRun := by
      intro named other member same
      obtain ⟨action, found, bound, _⟩ := appends.known named
      obtain ⟨held, found', bound'⟩ := valid.known other member (same ▸ named)
      rw [same] at found'
      cases found.symm.trans found'
      exact bound'.symm.trans (bound.trans appends.bound.symm)
    inOrder := by
      intro named
      obtain ⟨action, found, _, transition⟩ := appends.known named
      refine ⟨⟨fun reserves => absurd (ordinary.reserves reserves) named, fun unreserved => ?_⟩, transition⟩
      obtain ⟨first, member, same, reserves⟩ := valid.reservation_mem found
      cases (unreserved first member same).symm.trans reserves }
  exact {
    toIndexed := valid.toIndexed.append appends
    toFiled := valid.toFiled.push follows ordinary.encodable
    reserved := fun id action found => by
      obtain ⟨same, held⟩ := valid.reserved id action found
      refine ⟨same, held.push fun named reserves => held.named.2 ?_⟩
      have blankID : action.id = "" := named.symm.trans (ordinary.reserves (EventKind.reserves_iff.mpr reserves))
      rw [blankID]
      decide
    keyed := valid.keyed }

theorem Valid.begun (valid : store.Valid)
    (checked : validateAction action = .ok ()) (unused : store.actions.get? action.id = none)
    (keyUnused : store.idempotency.get? action.idempotencyKey = none)
    (appends : (store.claimed action).Appends action.controlRunID (MemoryStore.reserved action)) :
    (store.begun action).Valid := by
  have present := named_nonempty (validateAction_named checked).1
  have unseen := valid.unseen present unused
  have follows : Follows store.events (store.placed (MemoryStore.reserved action) 1) := {
    valid := appends.placed
    position := rfl
    fresh := valid.fresh appends.fresh
    sequence := by rw [← valid.runs]; rfl
    oneRun := fun _ other member same => absurd same (unseen other member)
    inOrder := fun _ => ⟨⟨fun _ other member same => absurd same (unseen other member), fun _ => rfl⟩, rfl⟩ }
  have claimed : (store.claimed action).Filed :=
    ⟨valid.recorded, valid.encodable, valid.runs, valid.stored⟩
  exact {
    toIndexed := (valid.toIndexed.claimed present unused).append appends
    toFiled := claimed.push follows (by show Time.Encodable Time.unixEpoch; decide)
    reserved := fun id held found => by
      by_cases same : id = action.id
      · subst same
        have found' : some action = some held := by rw [← found]; exact (get?_put_self _ _ _).symm
        cases found'
        exact ⟨rfl, reserved_begun checked valid.runs unseen⟩
      · have before : store.actions.get? id = some held := by
          rw [← found]; exact (get?_put_other _ _ same).symm
        obtain ⟨rfl, reserved⟩ := valid.reserved id held before
        exact ⟨rfl, (reserved.claimed unused keyUnused).2.push fun mine => absurd mine.symm same⟩
    keyed := fun key held found => by
      have found : (store.idempotency.put action.idempotencyKey action).get? key = some held := found
      show (store.actions.put action.id action).get? held.id = some held
      rw [get?_put] at found
      split at found
      · cases found
        exact get?_put_self _ _ _
      · have before := valid.keyed key held found
        have different : held.id ≠ action.id := by
          intro same
          cases (same ▸ before).symm.trans unused
        rw [get?_put_other _ _ different, before] }

theorem Change.valid (valid : store.Valid) (change : store.Change Ordinary after) : after.Valid := by
  cases change with
  | reserve checked unused keyUnused appends => exact valid.begun checked unused keyUnused appends
  | append appends ordinary => exact valid.append appends ordinary
  | @commit request accepted =>
    obtain ⟨checked, bound, _, kind, _⟩ := validateCommitRequest_ok accepted.valid
    have first := valid.begun checked accepted.unused accepted.keyUnused accepted.appends.1
    have ordinary : Ordinary request.outcome := by
      refine ⟨fun reserves => ?_, accepted.encodable⟩
      rcases kind with kind | kind | kind <;> rw [kind] at reserves <;> cases reserves
    have both := first.append accepted.appends.2 ordinary
    rw [committed_eq bound]
    exact {
      toIndexed := ⟨both.listed, both.known⟩
      toFiled := ⟨both.recorded, both.encodable, both.runs, both.stored⟩
      reserved := fun id action found => by
        obtain ⟨same, held⟩ := both.reserved id action found
        exact ⟨same, held.named, held.stored, held.run, held.key, held.digests, held.once⟩
      keyed := both.keyed }

theorem Changes.valid (valid : store.Valid) (changes : ReflTransGen (Change Ordinary) store after) : after.Valid := by
  induction changes with
  | refl => exact valid
  | tail _ change ih => exact change.valid ih

theorem Change.actions_stay (change : store.Change allowed after)
    (found : store.actions.get? id = some action) : after.actions.get? id = some action := by
  have put : ∀ new : Action, store.actions.get? new.id = none →
      (store.actions.put new.id new).get? id = some action := by
    intro new unused
    have different : id ≠ new.id := by
      rintro rfl
      cases found.symm.trans unused
    rw [Table.get?_put_other _ _ different, found]
  cases change with
  | reserve _ unused _ _ => exact put _ unused
  | append _ _ => exact found
  | commit accepted => exact put _ accepted.unused

theorem Change.payload_stays (change : store.Change allowed after) {wanted : String} {document : Document}
    (read : store.payload wanted = .ok document) : after.payload wanted = .ok document := by
  cases change with
  | reserve _ _ _ _ => exact read
  | append _ _ => exact read
  | commit accepted => exact accepted.payload_stays read

theorem Change.grows (change : store.Change allowed after) :
    after.installationID = store.installationID ∧ store.events <+: after.events := by
  cases change with
  | reserve _ _ _ _ => exact ⟨rfl, prefix_append _ _⟩
  | append _ _ => exact ⟨rfl, prefix_append _ _⟩
  | commit _ => exact ⟨rfl, by rw [committed_events]; exact prefix_append _ _⟩

theorem Change.keys (change : store.Change allowed after) (owned : store.Owned) :
    after.Owned ∧ ∀ key held, store.idempotency.get? key = some held → after.idempotency.get? key = some held := by
  have stays : ∀ new : Action, store.idempotency.get? new.idempotencyKey = none → ∀ key held,
      store.idempotency.get? key = some held → (store.claimed new).idempotency.get? key = some held := by
    intro new unused key held found
    have different : key ≠ new.idempotencyKey := by
      rintro rfl
      cases found.symm.trans unused
    exact (get?_put_other _ _ different).trans found
  cases change with
  | reserve _ _ keyUnused _ => exact ⟨owned.claimed keyUnused, stays _ keyUnused⟩
  | append _ _ => exact ⟨owned, fun _ _ found => found⟩
  | commit accepted => exact ⟨owned.claimed accepted.keyUnused, stays _ accepted.keyUnused⟩

theorem Changes.keys (changes : ReflTransGen (Change allowed) store after) (owned : store.Owned) :
    after.Owned ∧ ∀ key held, store.idempotency.get? key = some held → after.idempotency.get? key = some held := by
  induction changes with
  | refl => exact ⟨owned, fun _ _ found => found⟩
  | tail _ change ih =>
    obtain ⟨middle, stays⟩ := ih
    obtain ⟨last, onward⟩ := change.keys middle
    exact ⟨last, fun key held found => onward key held (stays key held found)⟩

/-- Whoever reserves an action holds its key. -/
theorem reserve_key {kept : Action} {created : Bool} (owned : store.Owned)
    (reserves : store.reserve action = .ok (kept, created, after)) :
    after.idempotency.get? action.idempotencyKey = some action := by
  rcases reserve_ok reserves with ⟨rfl, held | held⟩ | ⟨_, _, _, appended⟩
  · exact held
  · exact owned _ _ held
  · rcases append_ok appended with ⟨rfl, _⟩ | ⟨_, rfl⟩ <;> exact get?_put_self _ _ _

theorem reserveAndAppend_changes {made : Action × Bool × Event × MemoryStore}
    (reserves : store.reserveAndAppend action event = .ok made) :
    (store.Owned → made.2.2.2.idempotency.get? action.idempotencyKey = some action) ∧
      (store.Indexed → ReflTransGen (Change fun _ => True) store made.2.2.2) := by
  obtain ⟨_, checked, h⟩ := bind_ok reserves
  obtain ⟨_, valid, _⟩ := bind_ok checked
  obtain ⟨⟨_, _, middle⟩, begins, h⟩ := bind_ok h
  obtain ⟨⟨_, last⟩, appended, h⟩ := bind_ok h
  cases pure_ok h
  refine ⟨fun owned => ?_, fun indexed => ?_⟩
  · have key := reserve_key owned begins
    rcases append_ok appended with ⟨rfl, _⟩ | ⟨_, rfl⟩ <;> exact key
  · have appends : ReflTransGen (Change fun _ => True) middle last := append_changes (fun _ => trivial) appended
    rcases reserve_changes indexed valid begins with rfl | change
    · exact appends
    · exact .head change appends

theorem Changes.actions_stay (changes : ReflTransGen (Change allowed) store after)
    (found : store.actions.get? id = some action) : after.actions.get? id = some action := by
  induction changes with
  | refl => exact found
  | tail _ change ih => exact change.actions_stay ih

theorem Change.commits_stay (change : store.Change allowed after) :
    (∀ id commit, store.commits.get? id = some commit → after.commits.get? id = some commit) ∧
    (∀ key id, store.commitKeys.get? key = some id → after.commitKeys.get? key = some id) := by
  cases change with
  | reserve _ _ _ _ => exact ⟨fun _ _ found => found, fun _ _ found => found⟩
  | append _ _ => exact ⟨fun _ _ found => found, fun _ _ found => found⟩
  | @commit request accepted =>
    constructor
    · intro id commit found
      have different : id ≠ request.action.id := by
        rintro rfl
        cases found.symm.trans accepted.commitUnused
      exact (Table.get?_put_other _ _ different).trans found
    · intro key id found
      have different : key ≠ request.action.idempotencyKey := by
        rintro rfl
        cases found.symm.trans accepted.commitKeyUnused
      exact (Table.get?_put_other _ _ different).trans found

theorem Change.settled (settled : store.Settled) (change : store.Change allowed after) : after.Settled := by
  have stays := change.commits_stay
  have old : ∀ id commit, store.commits.get? id = some commit → after.actions.get? id = some commit.receipt.action ∧
        after.commitKeys.get? commit.receipt.action.idempotencyKey = some id :=
    fun id commit found => ⟨change.actions_stay (settled.stored id commit found),
      stays.2 _ _ (settled.keyed id commit found)⟩
  suffices new : ∀ id commit, after.commits.get? id = some commit →
      after.actions.get? id = some commit.receipt.action ∧
        after.commitKeys.get? commit.receipt.action.idempotencyKey = some id from
    ⟨fun id commit found => (new id commit found).1, fun id commit found => (new id commit found).2⟩
  cases change with
  | reserve _ _ _ _ => exact old
  | append _ _ => exact old
  | @commit request accepted =>
    intro id commit found
    by_cases own : id = request.action.id
    · subst own
      have same : some _ = some commit := (Table.get?_put_self _ _ _).symm.trans found
      cases same
      exact ⟨Table.get?_put_self _ _ _, Table.get?_put_self _ _ _⟩
    · exact old id commit ((Table.get?_put_other _ _ own).symm.trans found)

theorem Changes.settled (settled : store.Settled)
    (changes : ReflTransGen (Change allowed) store after) : after.Settled := by
  induction changes with
  | refl => exact settled
  | tail _ change ih => exact change.settled ih

def Registers (store : MemoryStore) (action : Action) : Write → Prop
  | .reserve asked => asked = action ∧ ∃ answer, store.reserveAction asked = .ok answer
  | .append _ _ _ => False
  | .commit request => request.action = action ∧ ∃ answer, store.commit request = .ok answer
  | .reserveAndAppend asked event => asked = action ∧ ∃ answer, store.reserveAndAppend asked event = .ok answer

theorem Valid.reserve_stored (valid : store.Valid) {kept : Action}
    {created : Bool} (reserved : store.reserve action = .ok (kept, created, after)) :
    after.actions.get? action.id = some action := by
  rcases reserve_ok reserved with ⟨rfl, byKey | byID⟩ | ⟨_, unused, assigned, appended⟩
  · exact valid.keyed _ _ byKey
  · exact byID
  rcases append_ok appended with ⟨rfl, _⟩ | ⟨_, rfl⟩
  · exact Table.get?_put_self _ _ _
  · exact Table.get?_put_self _ _ _

theorem Registers.stored {write : Write} (valid : store.Valid)
    (settled : store.Settled) (registers : store.Registers action write) :
    (store.write write).actions.get? action.id = some action := by
  cases write with
  | reserve asked =>
    obtain ⟨rfl, ⟨kept, created, after⟩, answered⟩ := registers
    simp only [write, answered]
    obtain ⟨_, _, reserved⟩ := bind_ok answered
    exact valid.reserve_stored reserved
  | append _ _ _ => exact registers.elim
  | commit request =>
    obtain ⟨rfl, ⟨receipt, after⟩, answered⟩ := registers
    simp only [write, answered]
    rcases commit_ok answered with ⟨rfl, existing, repeats, _⟩ | ⟨_, _, rfl⟩
    · rw [settled.stored _ _ repeats.found, repeats.action]
    · exact Table.get?_put_self _ _ _
  | reserveAndAppend asked event =>
    obtain ⟨rfl, ⟨kept, created, appended, after⟩, answered⟩ := registers
    obtain ⟨_, checked, answered⟩ := bind_ok answered
    obtain ⟨⟨_, _, middle⟩, reserved, answered⟩ := bind_ok answered
    obtain ⟨⟨_, final⟩, second, answered⟩ := bind_ok answered
    simp only [write, checked, reserved, second]
    have stored := valid.reserve_stored reserved
    rcases append_ok second with ⟨rfl, _⟩ | ⟨_, rfl⟩
    · exact stored
    · exact stored

theorem addsOnly_append {front back : List Write} : AddsOnly allowed store (front ++ back) ↔
      AddsOnly allowed store front ∧ AddsOnly allowed (store.run front) back := by
  induction front generalizing store with
  | nil => simp [AddsOnly, run]
  | cons write rest ih =>
    simp only [List.cons_append, AddsOnly, ih, and_assoc]
    rfl

theorem addsOnly_any (store : MemoryStore) (writes : List Write) : AddsOnly (fun _ => True) store writes := by
  induction writes generalizing store with
  | nil => trivial
  | cons write rest ih =>
    refine ⟨?_, ih _⟩
    cases write with
    | reserve _ => trivial
    | append _ _ _ => exact fun _ => trivial
    | commit _ => trivial
    | reserveAndAppend _ _ => exact fun _ => trivial

theorem run_append (store : MemoryStore) (front back : List Write) :
    store.run (front ++ back) = (store.run front).run back := List.foldl_append

/-- Whatever calls are made, as long as no caller appends a reservation of its own or an instant
without a JSON form, both rebuilders accept the journal and every action that a call reserved or
committed reads back. -/
theorem journal_stays_valid {installationID : String} {start : MemoryStore} {writes : List Write}
    (new : newMemoryStore installationID = .ok start) (adds : AddsOnly Ordinary start writes) :
    (∃ view, rebuildInstallation (start.run writes).events = .ok view) ∧
    (∀ controlRunID, ∃ view, rebuildRun ((start.run writes).runOf controlRunID) = .ok view) ∧
    ∀ front write back action, writes = front ++ write :: back → (start.run front).Registers action write →
        (start.run writes).reservation action.controlRunID action.id = .ok action := by
  obtain ⟨rfl, _⟩ := newMemoryStore_ok new
  have changes := run_changes (indexed_new installationID) adds
  have valid := Changes.valid (valid_new installationID) changes
  refine ⟨⟨_, rebuildInstallation_ok_iff.mpr ⟨valid.recorded, valid.encodable, rfl⟩⟩, ?_, ?_⟩
  · intro controlRunID
    rw [valid.runs]
    exact rebuildRun_ok valid.recorded valid.encodable controlRunID
  · rintro front write back action rfl registers
    obtain ⟨addsFront, addsBack⟩ := addsOnly_append.mp adds
    have before := run_changes (indexed_new installationID) addsFront
    have here := Changes.valid (valid_new installationID) before
    have stored := Registers.stored here (Changes.settled (settled_new installationID) before) registers
    have step := write_changes here.toIndexed addsBack.1
    have after := run_changes (Changes.indexed here.toIndexed step) addsBack.2
    rw [run_append] at valid ⊢
    exact (valid.reserved _ _ (Changes.actions_stay after stored)).2.reservation

end MemoryStore

end Calls

/-! A caller reserves an action again under an event of its own. -/

attribute [local instance] Sha.sample

def Action.sample (name : String) : Action where
  id := "action-" ++ name
  controlRunID := "run"
  kind := .dispatch
  graphRevision := 1
  expectedProjection := 0
  canonicalRequestDigest := digest (.foreign none ("request " ++ name))
  idempotencyKey := "key-" ++ name

def Event.sample (name : String) (kind : EventKind) : Event where
  id := "event-" ++ name
  controlRunID := "run"
  actionID := if kind = .projectionUpdated then "" else "action-" ++ name
  kind
  payloadDigest := digest (.foreign none ("outcome " ++ name))
  occurredAt := Time.unixEpoch

/-- A request for `name` that expects `head` events in the run and in the journal. -/
def CommitRequest.sample (name : String) (head : Nat) : CommitRequest where
  action := .sample name
  expectedRun := ⟨"installation", "run", schemaVersion, head⟩
  expectedGlobal := ⟨"installation", schemaVersion, head⟩
  requestPayload := .foreign none ("request " ++ name)
  outcome := .sample name .actionResult
  outcomePayload := .foreign none ("outcome " ++ name)

def MemoryStore.sample : MemoryStore := { installationID := "installation" }

def sampleWrites : List Write :=
  [.reserve (.sample "one"), .append "run" 1 (.sample "one" .actionResult), .commit (.sample "two" 2)]

theorem journal_stays_valid_reported : (MemoryStore.sample.run sampleWrites).events.length = 4 ∧
    (∃ view, rebuildInstallation (MemoryStore.sample.run sampleWrites).events = .ok view) ∧
    (MemoryStore.sample.run sampleWrites).reservation (Action.sample "one").controlRunID
      (Action.sample "one").id = .ok (.sample "one") := by
  have adds : MemoryStore.AddsOnly MemoryStore.Ordinary .sample sampleWrites :=
    ⟨trivial, fun _ => ⟨by decide +kernel, by decide +kernel⟩, trivial, trivial⟩
  have kept := MemoryStore.journal_stays_valid (by decide : newMemoryStore "installation" = .ok .sample) adds
  obtain ⟨answer, reserved, -⟩ : ∃ answer, MemoryStore.sample.reserveAction (.sample "one") = .ok answer ∧ True := by
    decide +kernel
  exact ⟨by decide +kernel, kept.1, kept.2.2 [] (.reserve (.sample "one")) _ _ rfl ⟨rfl, answer, reserved⟩⟩

def doubleReservation : List Write :=
  [.reserve (.sample "one"), .append "run" 1 { Event.sample "one" .actionReserved with id := "again" }]

def lateEvent : List Write :=
  [.append "run" 0 { Event.sample "late" .projectionUpdated with occurredAt := 315537897600000000000 }]

theorem second_reservation_appended : (MemoryStore.sample.run doubleReservation).events.length = 2 ∧
    rebuildInstallation (MemoryStore.sample.run doubleReservation).events = .error .invalidRecord ∧
    rebuildRun ((MemoryStore.sample.run doubleReservation).runOf "run") = .error .invalidRecord ∧
    (MemoryStore.sample.run doubleReservation).reservation "run" "action-one" = .error .conflict ∧
    (MemoryStore.sample.run lateEvent).events.length = 1 ∧
    rebuildInstallation (MemoryStore.sample.run lateEvent).events = .error .invalidRecord := by
  decide +kernel

theorem Recorded.take {events : List Event} (recorded : Recorded events) (n : Nat) : Recorded (events.take n) := by
  induction recorded with
  | nil =>
    rw [take_nil]
    exact .nil
  | @snoc prior event before follows ih =>
    rcases Nat.lt_or_ge prior.length n with all | part
    · rw [take_of_length_le (by rw [length_append]; exact all)]
      exact .snoc before follows
    · rw [take_append_of_le_length part]
      exact ih

theorem Recorded.numbered {events : List Event} (recorded : Recorded events) : Numbered events := by
  induction recorded with
  | nil => exact .nil
  | snoc _ follows ih => exact .snoc ih follows.position follows.sequence

theorem Recorded.follows {front back : List Event} (recorded : Recorded (front ++ event :: back)) :
    Follows front event := by
  rw [append_cons] at recorded
  have cut := recorded.take (front ++ [event]).length
  rw [take_left] at cut
  generalize whole : front ++ [event] = events at cut
  cases cut with
  | nil => simp at whole
  | snoc _ follows =>
    obtain ⟨rfl, last⟩ := append_inj' whole rfl
    cases last
    exact follows

/-- A journal that rebuilds may be cut anywhere and read run by run: what is left of it before any position
rebuilds, and so do the events of each run among it. -/
theorem rebuild_parts {events : List Event} {view : Installation} (rebuilt : rebuildInstallation events = .ok view)
    (n : Nat) (run : String) : view.events = events ∧ (∃ before, rebuildInstallation (events.take n) = .ok before) ∧
      ∃ mine, rebuildRun ((events.take n).filter (·.controlRunID = run)) = .ok mine := by
  obtain ⟨recorded, encodable, rfl⟩ := rebuildInstallation_ok_iff.mp rebuilt
  have early : ∀ event ∈ events.take n, event.occurredAt.Encodable :=
    fun event member => encodable event (mem_of_mem_take member)
  exact ⟨rfl, ⟨_, rebuildInstallation_ok_iff.mpr ⟨recorded.take n, early, rfl⟩⟩,
    rebuildRun_ok (recorded.take n) early run⟩

theorem rebuild_parts_sample : ∃ mine, rebuildRun (((MemoryStore.sample.run sampleWrites).events.take 3).filter
    (·.controlRunID = "run")) = .ok mine := by
  obtain ⟨_, rebuilt, -⟩ : ∃ view, rebuildInstallation (MemoryStore.sample.run sampleWrites).events = .ok view ∧
      True := by decide +kernel
  exact (rebuild_parts rebuilt 3 "run").2.2

end Paje.Journal
