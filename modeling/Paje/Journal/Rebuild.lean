import Paje.Journal.Log

/-!
The rebuilders of package `projection`. They read the journal once, oldest event first, and refuse
it at the first event that breaks a rule of the whole journal; `Recorded` states those rules about
the list itself.
-/

namespace Paje.Journal

open Text List Table

variable {state : InstallationState} {prior : List Event}
variable {event : Event} {events : List Event}

def EventKind.reserves : EventKind → Bool
  | .actionReserved | .migrationAction => true
  | _ => false

theorem EventKind.reserves_iff {kind : EventKind} :
    kind.reserves = true ↔ kind = .actionReserved ∨ kind = .migrationAction := by
  cases kind <;> decide

namespace Projection

structure Run where
  schemaVersion : Nat := schemaVersion
  controlRunID : String := ""
  runSequence : Nat := 0
  events : List Event := []
  deriving DecidableEq

structure Installation where
  schemaVersion : Nat := schemaVersion
  journalPosition : Nat := 0
  events : List Event := []
  deriving DecidableEq

/-- The maps `reserved` and `history` of `validateActionOrder`. -/
structure ActionOrder where
  reserved : Table Bool := ∅
  history : Table (List Event) := ∅

def validateActionOrder (event : Event) (order : ActionOrder) : Except Error ActionOrder := do
  if event.actionID = "" then return order
  -- a second reservation, or an event for an unreserved action
  require (order.reserved.holds event.actionID = !event.kind.reserves) .invalidRecord
  let history := (order.history.get? event.actionID).getD []
  relabel (fun _ => .invalidRecord) (validateOutcomeTransition history event)
  return {
    reserved := if event.kind.reserves then order.reserved.put event.actionID true else order.reserved
    history := order.history.put event.actionID (history ++ [event]) }

/-- `CanonicalJSON` of a view fails only on an instant that has no JSON form. -/
def canonicalJSON (events : List Event) : Except Error Unit :=
  require (∀ event ∈ events, event.occurredAt.Encodable) .invalidRecord

structure RunState where
  projection : Run := {}
  seenIDs : Table Bool := ∅
  order : ActionOrder := {}
  priorPosition : Nat := 0

def runStep (state : RunState) (event : Event) : Except Error RunState := do
  validateEvent event true
  let index := state.projection.events.length
  let controlRunID := if index = 0 then event.controlRunID else state.projection.controlRunID
  require (event.controlRunID = controlRunID ∧ event.runSequence = index + 1 ∧
    state.priorPosition < event.journalPosition ∧ state.seenIDs.holds event.id = false) .invalidRecord
  let order ← validateActionOrder event state.order
  return {
    projection := { state.projection with
      controlRunID
      runSequence := event.runSequence
      events := state.projection.events ++ [event] }
    seenIDs := state.seenIDs.put event.id true
    order
    priorPosition := event.journalPosition }

def rebuildRun (events : List Event) : Except Error Run := do
  let state ← events.foldlM runStep {}
  canonicalJSON state.projection.events
  return state.projection

structure InstallationState where
  projection : Installation := {}
  seenIDs : Table Bool := ∅
  runSequences : Table Nat := ∅
  actionRuns : Table String := ∅
  order : ActionOrder := {}

def installationStep (state : InstallationState) (event : Event) : Except Error InstallationState := do
  validateEvent event true
  require (event.journalPosition = state.projection.events.length + 1 ∧
    state.seenIDs.holds event.id = false) .invalidRecord
  let sequence := (state.runSequences.get? event.controlRunID).getD 0 + 1
  require (event.runSequence = sequence) .invalidRecord
  let run := (state.actionRuns.get? event.actionID).getD ""
  require (event.actionID ≠ "" → run ≠ "" → run = event.controlRunID) .invalidRecord
  let order ← validateActionOrder event state.order
  return {
    projection := { state.projection with
      journalPosition := event.journalPosition
      events := state.projection.events ++ [event] }
    seenIDs := state.seenIDs.put event.id true
    runSequences := state.runSequences.put event.controlRunID sequence
    actionRuns := if event.actionID ≠ "" then state.actionRuns.put event.actionID event.controlRunID
      else state.actionRuns
    order }

def rebuildInstallation (events : List Event) : Except Error Installation := do
  let state ← events.foldlM installationStep {}
  canonicalJSON state.projection.events
  return state.projection

end Projection

/-- The next event of an action: its first one reserves it, and only that one does. -/
structure InOrder (prior : List Event) (event : Event) : Prop where
  reservation : event.kind.reserves = true ↔
    ∀ other ∈ prior, other.actionID = event.actionID → other.kind.reserves = false
  outcome : validateOutcomeTransition prior event = .ok ()

structure Follows (prior : List Event) (event : Event) : Prop where
  valid : validateEvent event true = .ok ()
  position : event.journalPosition = prior.length + 1
  fresh : ∀ other ∈ prior, other.id ≠ event.id
  sequence : event.runSequence = (prior.filter (·.controlRunID = event.controlRunID)).length + 1
  oneRun : event.actionID ≠ "" → ∀ other ∈ prior, other.actionID = event.actionID →
    other.controlRunID = event.controlRunID
  inOrder : event.actionID ≠ "" → InOrder prior event

inductive Recorded : List Event → Prop where
  | nil : Recorded []
  | snoc {prior : List Event} {event : Event} (before : Recorded prior) (follows : Follows prior event) :
      Recorded (prior ++ [event])

theorem validateOutcomeTransition_filter (prior : List Event) (next : Event) :
    validateOutcomeTransition (prior.filter (·.actionID = next.actionID)) next =
      validateOutcomeTransition prior next := by
  have fold : ∀ state : Option EventKind,
      (prior.filter (·.actionID = next.actionID)).foldlM (fun (state : Option EventKind) event =>
        if event.actionID = next.actionID ∧ event.kind.isOutcome then
          if outcomeFollows state event.kind then (.ok (some event.kind) : Except Error _)
          else .error .invalidRecord
        else .ok state) state =
      prior.foldlM (fun (state : Option EventKind) event =>
        if event.actionID = next.actionID ∧ event.kind.isOutcome then
          if outcomeFollows state event.kind then (.ok (some event.kind) : Except Error _)
          else .error .invalidRecord
        else .ok state) state := by
    induction prior with
    | nil => intro _; rfl
    | cons event rest ih =>
      intro state
      by_cases own : event.actionID = next.actionID
      · rw [filter_cons_of_pos (by simpa using own), foldlM_cons, foldlM_cons]
        exact bind_congr ih
      · rw [filter_cons_of_neg (by simpa using own), foldlM_cons, if_neg (fun both => own both.1), ok_bind]
        exact ih state
  unfold validateOutcomeTransition
  rw [fold]

theorem InOrder.of_filter {part : List Event} (inOrder : InOrder prior event)
    (own : part.filter (·.actionID = event.actionID) = prior.filter (·.actionID = event.actionID)) :
    InOrder part event where
  reservation := by
    have members : ∀ other, other.actionID = event.actionID → (other ∈ part ↔ other ∈ prior) := by
      intro other same
      have mem := congrArg (other ∈ ·) own
      simpa [mem_filter, same] using mem
    rw [inOrder.reservation]
    constructor
    · intro none_before other member same
      exact none_before other ((members other same).mp member) same
    · intro none_before other member same
      exact none_before other ((members other same).mpr member) same
  outcome := by
    rw [← validateOutcomeTransition_filter, own, validateOutcomeTransition_filter]
    exact inOrder.outcome

theorem Follows.inRun (follows : Follows prior event) :
    event.actionID ≠ "" → InOrder (prior.filter (·.controlRunID = event.controlRunID)) event := by
  intro named
  refine (follows.inOrder named).of_filter ?_
  rw [filter_filter]
  refine filter_congr fun other member => ?_
  by_cases same : other.actionID = event.actionID
  · simp [same, follows.oneRun named other member same]
  · simp [same]

namespace Projection

structure ActionOrder.Tracks (order : ActionOrder) (prior : List Event) : Prop where
  reserved : ∀ id, id ≠ "" → (order.reserved.holds id = true ↔
    ∃ event ∈ prior, event.actionID = id ∧ event.kind.reserves = true)
  history : ∀ id, id ≠ "" → (order.history.get? id).getD [] = prior.filter (·.actionID = id)

theorem ActionOrder.tracks_nil : ActionOrder.Tracks {} [] where
  reserved _ _ := by simp [holds]
  history _ _ := rfl

theorem ActionOrder.Tracks.unreserved {order : ActionOrder}
    (tracks : order.Tracks prior) {id : String} (named : id ≠ "") : order.reserved.holds id = false ↔
      ∀ other ∈ prior, other.actionID = id → other.kind.reserves = false := by
  have held := tracks.reserved id named
  rw [← Bool.not_eq_true, held]
  push Not
  simp only [ne_eq, Bool.not_eq_true]

theorem ActionOrder.Tracks.validate_iff {order : ActionOrder}
    (tracks : order.Tracks prior) : (∃ next, validateActionOrder event order = .ok next) ↔
      (event.actionID ≠ "" → InOrder prior event) := by
  unfold validateActionOrder
  by_cases named : event.actionID = ""
  · rw [if_pos named]
    exact ⟨fun _ present => absurd named present, fun _ => ⟨order, rfl⟩⟩
  have reservation : order.reserved.holds event.actionID = !event.kind.reserves ↔ (event.kind.reserves = true ↔
        ∀ other ∈ prior, other.actionID = event.actionID → other.kind.reserves = false) := by
    rw [← tracks.unreserved named]
    cases order.reserved.holds event.actionID <;> cases event.kind.reserves <;> decide
  rw [if_neg named, tracks.history _ named]
  dsimp only
  rw [validateOutcomeTransition_filter]
  constructor
  · rintro ⟨next, accepted⟩ _
    obtain ⟨ordered, accepted⟩ := require_bind_ok accepted
    obtain ⟨_, outcome, _⟩ := bind_ok accepted
    exact ⟨reservation.mp ordered, relabel_ok outcome⟩
  · intro inOrder
    obtain ⟨ordered, outcome⟩ := inOrder named
    rw [require_bind _ (reservation.mpr ordered), outcome]
    exact ⟨_, rfl⟩

variable {prior : List Event} {event : Event}

theorem ActionOrder.Tracks.step {order next : ActionOrder}
    (tracks : order.Tracks prior) (accepted : validateActionOrder event order = .ok next) :
    next.Tracks (prior ++ [event]) := by
  unfold validateActionOrder at accepted
  by_cases named : event.actionID = ""
  · rw [if_pos named] at accepted
    cases pure_ok accepted
    have other : ∀ id, id ≠ "" → event.actionID ≠ id := fun id present same => present (same ▸ named)
    constructor
    · intro id present
      simp [tracks.reserved id present, other id present, or_and_right, exists_or]
    · intro id present
      simp [tracks.history id present, other id present]
  rw [if_neg named] at accepted
  obtain ⟨_, accepted⟩ := require_bind_ok accepted
  obtain ⟨_, _, accepted⟩ := bind_ok accepted
  cases pure_ok accepted
  constructor
  · intro id present
    have before := tracks.reserved id present
    cases reserves : event.kind.reserves with
    | false => simp [before, reserves, or_and_right, exists_or]
    | true =>
      by_cases own : id = event.actionID
      · simp [holds_put, own, reserves, or_and_right, exists_or]
      · simp [holds_put, own, Ne.symm own, before, or_and_right, exists_or]
  · intro id present
    by_cases own : id = event.actionID
    · simp [own, tracks.history _ named]
    · simp [get?_put, own, Ne.symm own, tracks.history id present]

def Sees (seen : Table Bool) (prior : List Event) : Prop :=
  ∀ id, seen.holds id = true ↔ ∃ event ∈ prior, event.id = id

theorem Sees.fresh {seen : Table Bool} (sees : Sees seen prior) :
    seen.holds event.id = false ↔ ∀ other ∈ prior, other.id ≠ event.id := by
  rw [← Bool.not_eq_true, sees]
  push Not
  rfl

theorem Sees.step {seen : Table Bool} (sees : Sees seen prior) (event : Event) :
    Sees (seen.put event.id true) (prior ++ [event]) := by
  intro id
  by_cases own : id = event.id
  · simp [holds_put, own, or_and_right, exists_or]
  · simp [holds_put, own, Ne.symm own, sees id, or_and_right, exists_or]

theorem validateEvent_run {assigned : Bool}
    (valid : validateEvent event assigned = .ok ()) : event.controlRunID ≠ "" := by
  unfold validateEvent at valid
  obtain ⟨named, _⟩ := require_bind_ok valid
  intro unnamed
  rw [unnamed] at named
  exact named.2.1 (by decide)

structure InstallationState.Tracks (state : InstallationState) (prior : List Event) : Prop where
  projection : state.projection = { journalPosition := prior.length, events := prior }
  seenIDs : Sees state.seenIDs prior
  runSequences : ∀ run, (state.runSequences.get? run).getD 0 = (prior.filter (·.controlRunID = run)).length
  runs : ∀ event ∈ prior, event.controlRunID ≠ ""
  actionRuns : ∀ event ∈ prior, event.actionID ≠ "" → state.actionRuns.get? event.actionID = some event.controlRunID
  unnamed : ∀ id, (∀ event ∈ prior, event.actionID ≠ id) → state.actionRuns.get? id = none
  order : state.order.Tracks prior

theorem InstallationState.tracks_nil : InstallationState.Tracks {} [] where
  projection := rfl
  seenIDs _ := by simp [holds]
  runSequences _ := rfl
  runs _ member := nomatch member
  actionRuns _ member := nomatch member
  unnamed _ _ := rfl
  order := ActionOrder.tracks_nil

theorem InstallationState.Tracks.crosses (tracks : state.Tracks prior) (named : event.actionID ≠ "") :
    ((state.actionRuns.get? event.actionID).getD "" ≠ "" →
      (state.actionRuns.get? event.actionID).getD "" = event.controlRunID) ↔
    ∀ other ∈ prior, other.actionID = event.actionID → other.controlRunID = event.controlRunID := by
  constructor
  · intro accepted other member same
    have held := tracks.actionRuns other member (same ▸ named)
    rw [← same, held] at accepted
    exact accepted (tracks.runs other member)
  · intro oneRun
    by_cases seen : ∃ other ∈ prior, other.actionID = event.actionID
    · obtain ⟨other, member, same⟩ := seen
      rw [← same, tracks.actionRuns other member (same ▸ named)]
      intro _
      exact oneRun other member same
    · push Not at seen
      rw [tracks.unnamed _ seen]
      intro present
      exact absurd rfl present

theorem InstallationState.Tracks.step_iff (tracks : state.Tracks prior) :
    (∃ next, installationStep state event = .ok next) ↔ Follows prior event := by
  unfold installationStep
  rw [tracks.projection]
  dsimp only
  rw [tracks.runSequences]
  constructor
  · rintro ⟨next, accepted⟩
    obtain ⟨_, valid, accepted⟩ := bind_ok accepted
    obtain ⟨⟨position, fresh⟩, accepted⟩ := require_bind_ok accepted
    obtain ⟨sequence, accepted⟩ := require_bind_ok accepted
    obtain ⟨crosses, accepted⟩ := require_bind_ok accepted
    obtain ⟨order, ordered, _⟩ := bind_ok accepted
    exact {
      valid
      position
      fresh := tracks.seenIDs.fresh.mp fresh
      sequence
      oneRun := fun named => (tracks.crosses named).mp (crosses named)
      inOrder := tracks.order.validate_iff.mp ⟨order, ordered⟩ }
  · intro follows
    obtain ⟨order, ordered⟩ := tracks.order.validate_iff.mpr follows.inOrder
    rw [follows.valid, ok_bind, require_bind _ ⟨follows.position, tracks.seenIDs.fresh.mpr follows.fresh⟩,
      require_bind _ follows.sequence,
      require_bind _ (fun named => (tracks.crosses named).mpr (follows.oneRun named)), ordered]
    exact ⟨_, rfl⟩

theorem InstallationState.Tracks.step {state next : InstallationState} (tracks : state.Tracks prior)
    (accepted : installationStep state event = .ok next) : next.Tracks (prior ++ [event]) := by
  have follows := tracks.step_iff.mp ⟨next, accepted⟩
  unfold installationStep at accepted
  obtain ⟨_, _, accepted⟩ := bind_ok accepted
  obtain ⟨_, accepted⟩ := require_bind_ok accepted
  obtain ⟨_, accepted⟩ := require_bind_ok accepted
  obtain ⟨_, accepted⟩ := require_bind_ok accepted
  obtain ⟨order, ordered, accepted⟩ := bind_ok accepted
  cases pure_ok accepted
  exact {
    projection := by simp [tracks.projection, follows.position]
    seenIDs := tracks.seenIDs.step event
    runSequences := by
      intro run
      by_cases own : run = event.controlRunID
      · simp [own, tracks.runSequences]
      · simp [get?_put, own, Ne.symm own, tracks.runSequences run]
    runs := by
      intro other member
      rcases mem_append.mp member with before | new
      · exact tracks.runs other before
      · cases mem_singleton.mp new
        exact validateEvent_run follows.valid
    actionRuns := by
      intro other member named
      rcases mem_append.mp member with before | new
      · by_cases own : other.actionID = event.actionID
        · rw [if_pos (own ▸ named), own, get?_put_self, follows.oneRun (own ▸ named) other before own]
        · have held := tracks.actionRuns other before named
          split
          · rw [get?_put_other _ _ own, held]
          · exact held
      · cases mem_singleton.mp new
        rw [if_pos named, get?_put_self]
    unnamed := by
      intro id unseen
      have before := tracks.unnamed id fun other member => unseen other (mem_append_left _ member)
      have own : id ≠ event.actionID := Ne.symm (unseen event (by simp))
      split
      · rw [get?_put_other _ _ own, before]
      · exact before
    order := tracks.order.step ordered }

theorem foldlM_installationStep
    (read : events.foldlM installationStep {} = .ok state) : Recorded events ∧ state.Tracks events := by
  induction events using List.reverseRecOn generalizing state with
  | nil =>
    cases pure_ok read
    exact ⟨.nil, InstallationState.tracks_nil⟩
  | append_singleton prior event ih =>
    obtain ⟨middle, before, last⟩ := foldlM_append_ok read
    obtain ⟨recorded, tracks⟩ := ih before
    rw [foldlM_cons] at last
    obtain ⟨next, stepped, last⟩ := bind_ok last
    cases pure_ok last
    exact ⟨.snoc recorded (tracks.step_iff.mp ⟨_, stepped⟩), tracks.step stepped⟩

theorem foldlM_installationStep_ok (recorded : Recorded events) :
    ∃ state, events.foldlM installationStep {} = .ok state ∧ state.Tracks events := by
  induction recorded with
  | nil => exact ⟨{}, rfl, InstallationState.tracks_nil⟩
  | @snoc prior event _ follows ih =>
    obtain ⟨state, read, tracks⟩ := ih
    obtain ⟨next, stepped⟩ := tracks.step_iff.mpr follows
    refine ⟨next, ?_, tracks.step stepped⟩
    rw [foldlM_append, read, ok_bind, foldlM_cons, stepped]
    rfl

theorem rebuildInstallation_ok_iff {view : Installation} :
    rebuildInstallation events = .ok view ↔ Recorded events ∧ (∀ event ∈ events, event.occurredAt.Encodable) ∧
        view = { journalPosition := events.length, events } := by
  unfold rebuildInstallation canonicalJSON
  constructor
  · intro rebuilt
    obtain ⟨state, read, rebuilt⟩ := bind_ok rebuilt
    obtain ⟨recorded, tracks⟩ := foldlM_installationStep read
    obtain ⟨encodable, rebuilt⟩ := require_bind_ok rebuilt
    rw [tracks.projection] at encodable rebuilt
    exact ⟨recorded, encodable, (pure_ok rebuilt).symm⟩
  · rintro ⟨recorded, encodable, rfl⟩
    obtain ⟨state, read, tracks⟩ := foldlM_installationStep_ok recorded
    rw [read, ok_bind, tracks.projection, require_bind _ encodable]
    rfl

/-- `state` was reached by the events of `run` among `prior`. -/
structure RunState.Tracks (state : RunState) (run : String) (prior : List Event) : Prop where
  projection : state.projection.events = prior.filter (·.controlRunID = run)
  controlRunID : state.projection.events ≠ [] → state.projection.controlRunID = run
  seenIDs : Sees state.seenIDs (prior.filter (·.controlRunID = run))
  order : state.order.Tracks (prior.filter (·.controlRunID = run))
  priorPosition : state.priorPosition ≤ prior.length

theorem RunState.tracks_nil (run : String) : RunState.Tracks {} run [] where
  projection := rfl
  controlRunID present := absurd rfl present
  seenIDs _ := by simp [holds]
  order := ActionOrder.tracks_nil
  priorPosition := Nat.le_refl 0

theorem RunState.Tracks.step {state : RunState}
    (tracks : state.Tracks event.controlRunID prior) (follows : Follows prior event) :
    ∃ next, runStep state event = .ok next ∧ next.Tracks event.controlRunID (prior ++ [event]) := by
  obtain ⟨order, ordered⟩ := tracks.order.validate_iff.mpr follows.inRun
  have fresh : state.seenIDs.holds event.id = false := by
    refine tracks.seenIDs.fresh.mpr fun other member => ?_
    exact follows.fresh other (mem_filter.mp member).1
  have run : event.controlRunID = if state.projection.events.length = 0 then event.controlRunID
      else state.projection.controlRunID := by
    split
    · rfl
    · rename_i present
      exact (tracks.controlRunID (fun empty => present (by rw [empty]; rfl))).symm
  have sequence : event.runSequence = state.projection.events.length + 1 := by
    rw [tracks.projection, follows.sequence]
  have position : state.priorPosition < event.journalPosition := by
    have before := tracks.priorPosition
    have here := follows.position
    omega
  have own : (prior ++ [event]).filter (·.controlRunID = event.controlRunID) =
      prior.filter (·.controlRunID = event.controlRunID) ++ [event] := by simp
  simp only [runStep, follows.valid, ok_bind]
  rw [require_bind _ ⟨run, sequence, position, fresh⟩, ordered]
  refine ⟨_, rfl, ?_⟩
  exact {
    projection := by rw [own, ← tracks.projection]
    controlRunID := fun _ => run.symm
    seenIDs := by rw [own]; exact tracks.seenIDs.step event
    order := by rw [own]; exact tracks.order.step ordered
    priorPosition := by rw [follows.position]; simp }

theorem foldlM_runStep_ok (recorded : Recorded events) (run : String) :
    ∃ state, (events.filter (·.controlRunID = run)).foldlM runStep {} = .ok state ∧ state.Tracks run events := by
  induction recorded with
  | nil => exact ⟨{}, rfl, RunState.tracks_nil run⟩
  | @snoc prior event _ follows ih =>
    obtain ⟨state, read, tracks⟩ := ih
    by_cases own : event.controlRunID = run
    · subst own
      obtain ⟨next, stepped, tracked⟩ := tracks.step follows
      refine ⟨next, ?_, tracked⟩
      rw [filter_append, foldlM_append, read, ok_bind, filter_cons_of_pos (by simp),
        filter_nil, foldlM_cons, stepped]
      rfl
    · have same : (prior ++ [event]).filter (·.controlRunID = run) =
          prior.filter (·.controlRunID = run) := by simp [own]
      refine ⟨state, same ▸ read, ?_⟩
      exact {
        projection := same ▸ tracks.projection
        controlRunID := tracks.controlRunID
        seenIDs := same ▸ tracks.seenIDs
        order := same ▸ tracks.order
        priorPosition := Nat.le_trans tracks.priorPosition (by simp) }

theorem rebuildRun_ok (recorded : Recorded events)
    (encodable : ∀ event ∈ events, event.occurredAt.Encodable) (run : String) :
    ∃ view, rebuildRun (events.filter (·.controlRunID = run)) = .ok view := by
  obtain ⟨state, read, tracks⟩ := foldlM_runStep_ok recorded run
  refine ⟨state.projection, ?_⟩
  have mine : ∀ event ∈ events.filter (·.controlRunID = run), event.occurredAt.Encodable :=
    fun event member => encodable event (mem_filter.mp member).1
  unfold rebuildRun canonicalJSON
  rw [read, ok_bind, tracks.projection, require_bind _ mine]
  rfl

end Projection

end Paje.Journal
