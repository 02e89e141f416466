import Paje.Control.Closing

/-!
`completeAction` checks a result against the attempt as it was and without the events it has seen
before; the saved snapshot is checked with the result as it came and the attempt as it is.
-/

namespace Paje.Control

open Text Journal List Table Store Option

variable {trusted : List WorkEvent} {next : Snapshot} {id : String}

section results

variable {snapshot : Snapshot} {attempt after : PlacementAttempt} {action : LifecycleAction}
  {result : ActionResult} {now : Nat → Time}

def positions (events : List WorkEvent) : List Nat :=
  (events.map (·.cursorSequence)).filter (0 < ·)

theorem frozen_same {before after : PlacementAttempt} (same : after.frozen = before.frozen) :
    before.Kin after ∧ after.state = before.state ∧ after.blockCode = before.blockCode ∧
      after.runtimeWorkIDs = before.runtimeWorkIDs ∧ after.closeEvidence = before.closeEvidence := by
  simp only [PlacementAttempt.frozen, PlacementAttempt.mk.injEq, true_and] at same
  obtain ⟨id, taskID, primitive, capabilities, owner, runtime, state, evidence, disposition, close, actions,
    block, promoted, handoff, _⟩ := same
  exact ⟨⟨id, taskID, primitive, capabilities, owner, actions, evidence, disposition,
    Prod.ext promoted handoff⟩, state, block, runtime, close⟩

theorem positions_from_zero (events : List WorkEvent) :
    (0 :: positions events).Pairwise (· < ·) ↔ (positions events).Pairwise (· < ·) := by
  rw [pairwise_cons]
  refine and_iff_right ?_
  intro position member
  simpa using (mem_filter.mp member).2

theorem checkResult_ok (h : checkResult snapshot action attempt result = .ok trusted) :
    result.events.foldlM (trustEvent snapshot attempt) [] = .ok trusted ∧
      ∃ previous, validateActionResult action.kind attempt.primitive
        (if action.kind = .dispatch then [] else attempt.runtimeWorkIDs) previous
        (attempt.capabilitySnapshot.supports attempt.primitive .cursor)
        { result with events := trusted } = .ok () := by
  unfold checkResult at h
  obtain ⟨events, trusts, h⟩ := bind_ok h
  obtain ⟨_, h⟩ := require_bind_ok h
  obtain ⟨_, valid, h⟩ := bind_ok h
  obtain ⟨_, h⟩ := require_bind_ok h
  obtain ⟨_, h⟩ := require_bind_ok h
  obtain ⟨_, h⟩ := require_bind_ok h
  obtain ⟨_, h⟩ := require_bind_ok h
  cases pure_ok h
  exact ⟨trusts, _, relabel_ok valid⟩

theorem validateCompleted_kin (kin : attempt.Kin after)
    (same : action.kind = .dispatch ∨ after.runtimeWorkIDs = attempt.runtimeWorkIDs) :
    validateCompleted action after = validateCompleted action attempt := by
  unfold validateCompleted
  rw [kin.primitive, kin.capabilities]
  rcases same with dispatch | runtime
  · rw [if_pos dispatch, if_pos dispatch]
  · rw [runtime]

def settledAction (action : LifecycleAction) (result : ActionResult) (now : Nat → Time) : LifecycleAction :=
  { action with completed := true, result := cloneActionResult result, completedAt := now 0 }

theorem Patch.closed_before
    (patch : Patch snapshot next attempt after action (settledAction action result now)) {ids : List String}
    {evidence : CloseEvidence} (h : completedClose next.actions ids evidence = true) :
    action.id ∈ ids ∨ completedClose snapshot.actions ids evidence = true := by
  simp only [completedClose, Control.completedWith, List.any_eq_true, Option.any_eq_true] at h ⊢
  obtain ⟨id, listed, other, found, holds⟩ := h
  rcases patch.action_of found with ⟨rfl, _⟩ | ⟨_, old⟩
  · exact .inl listed
  · exact .inr ⟨id, listed, other, old, holds⟩

def Readable (expected : List String) (cursorRequired : Bool) (event : WorkEvent) : Prop :=
  (¬ blank event.id ∧ ¬ blank event.kind ∧ validDigest event.resultDigest ∧
    (event.cursor = "" ↔ event.cursorSequence = 0)) ∧
  (cursorRequired → event.cursor ≠ "") ∧
  (expected ≠ [] → event.runtimeWorkID ≠ "" ∧ event.runtimeWorkID ∈ expected) ∧
  (expected = [] → event.runtimeWorkID = "")

theorem positions_cons (event : WorkEvent) (rest : List WorkEvent) : positions (event :: rest) =
    if 0 < event.cursorSequence then event.cursorSequence :: positions rest else positions rest := by
  unfold positions
  rw [map_cons, filter_cons]
  simp

variable {expected : List String} {cursorRequired : Bool}

theorem readEvent_iff {state next : EventsRead}
    {event : WorkEvent} : readEvent expected cursorRequired state event = .ok next ↔
      Readable expected cursorRequired event ∧ event.id ∉ state.seen.map (·.1) ∧
      (0 < event.cursorSequence → state.sequence < event.cursorSequence) ∧
      next = {
        seen := (event.id, event.resultDigest) :: state.seen
        sequence := if event.cursorSequence > 0 then event.cursorSequence else state.sequence } := by
  have known : state.seen.lookup event.id = none ↔ event.id ∉ state.seen.map (·.1) := by
    rw [List.lookup_eq_none_iff]
    simp only [List.mem_map, not_exists, not_and, bne_iff_ne, ne_eq]
    exact forall₂_congr fun pair _ => not_congr eq_comm
  unfold readEvent Readable
  simp only [check_bind_ok, require_iff]
  cases seen : state.seen.lookup event.id with
  | none =>
    have absent := known.mp seen
    simp only [check_bind_ok, require_iff]
    constructor
    · rintro ⟨form, cursor, order, listed, unlisted, same⟩
      exact ⟨⟨form, cursor, listed, unlisted⟩, absent, order, (pure_ok same).symm⟩
    · rintro ⟨⟨form, cursor, listed, unlisted⟩, _, order, rfl⟩
      exact ⟨form, cursor, order, listed, unlisted, rfl⟩
  | some digest =>
    constructor
    · rintro ⟨_, _, failed⟩
      cases failed
    · rintro ⟨_, absent, _⟩
      rw [known.mpr absent] at seen
      cases seen

theorem readEvents_iff {events : List WorkEvent}
    {state : EventsRead} : (∃ final, events.foldlM (readEvent expected cursorRequired) state = .ok final) ↔
      (∀ event ∈ events, Readable expected cursorRequired event) ∧
      (∀ event ∈ events, event.id ∉ state.seen.map (·.1)) ∧ (events.map (·.id)).Nodup ∧
      (state.sequence :: positions events).Pairwise (· < ·) := by
  induction events generalizing state with
  | nil => simp [positions, pure, Except.pure]
  | cons event rest ih =>
    have unfolds : (∃ final, (event :: rest).foldlM (readEvent expected cursorRequired) state = .ok final) ↔
        ∃ next, readEvent expected cursorRequired state event = .ok next ∧
          ∃ final, rest.foldlM (readEvent expected cursorRequired) next = .ok final := by
      rw [List.foldlM_cons]
      constructor
      · rintro ⟨final, h⟩
        obtain ⟨next, reads, h⟩ := bind_ok h
        exact ⟨next, reads, final, h⟩
      · rintro ⟨next, reads, final, h⟩
        exact ⟨final, by rw [reads, ok_bind, h]⟩
    rw [unfolds]
    simp only [readEvent_iff, ih, positions_cons, List.forall_mem_cons, List.map_cons, List.nodup_cons]
    have order : ∀ rest : List Nat, (0 < event.cursorSequence → state.sequence < event.cursorSequence) ∧
          ((if event.cursorSequence > 0 then event.cursorSequence else state.sequence) :: rest).Pairwise
            (· < ·) ↔
        (state.sequence :: if 0 < event.cursorSequence then event.cursorSequence :: rest
          else rest).Pairwise (· < ·) := by
      intro rest
      by_cases placed : 0 < event.cursorSequence
      · simp only [placed, if_true, forall_const, List.pairwise_cons, List.forall_mem_cons]
        constructor
        · rintro ⟨below, above, pairs⟩
          exact ⟨⟨below, fun later member => below.trans (above later member)⟩, above, pairs⟩
        · rintro ⟨⟨below, _⟩, above, pairs⟩
          exact ⟨below, above, pairs⟩
      · simp [placed]
    constructor
    · rintro ⟨next, ⟨readable, fresh, above, rfl⟩, readables, freshes, nodup, increasing⟩
      simp only [List.map_cons, List.mem_cons, not_or] at freshes
      refine ⟨⟨readable, readables⟩, ⟨fresh, fun other member => (freshes other member).2⟩, ⟨?_, nodup⟩,
        (order _).mp ⟨above, increasing⟩⟩
      intro again
      obtain ⟨other, member, same⟩ := List.mem_map.mp again
      exact (freshes other member).1 same
    · rintro ⟨⟨readable, readables⟩, ⟨fresh, freshes⟩, ⟨single, nodup⟩, increasing⟩
      obtain ⟨above, increasing⟩ := (order _).mpr increasing
      refine ⟨_, ⟨readable, fresh, above, rfl⟩, readables, ?_, nodup, increasing⟩
      intro other member
      simp only [List.map_cons, List.mem_cons, not_or]
      exact ⟨fun same => single (same ▸ List.mem_map_of_mem member), freshes other member⟩

theorem validateActionResult_iff {kind : ActionKind} {primitive : Primitive}
    {previous : Nat} :
    validateActionResult kind primitive expected previous cursorRequired result = .ok () ↔
      (¬ blank result.actionID ∧ validDigest result.resultDigest) ∧ (result.cursor = "" ↔ result.cursorSequence = 0) ∧
      (cursorRequired ∧ (kind = .observe ∨ kind = .wait) → result.cursor ≠ "") ∧
      (result.cursorSequence > 0 → previous < result.cursorSequence) ∧
      ((∀ runtimeID ∈ result.runtimeWorkIDs, ¬ blank runtimeID ∧
        ¬ containsAny runtimeID [13, 10, 0]) ∧ result.runtimeWorkIDs.Nodup) ∧
      (kind ≠ .dispatch → expected = result.runtimeWorkIDs) ∧ (result.events ≠ [] → kind = .observe ∨ kind = .wait) ∧
      ((∀ event ∈ result.events, Readable expected cursorRequired event) ∧
        (result.events.map (·.id)).Nodup ∧ (previous :: positions result.events).Pairwise (· < ·)) ∧
      (∀ last ∈ result.events.getLast?, last.cursor ≠ "" →
        result.cursor = last.cursor ∧ result.cursorSequence = last.cursorSequence) ∧
      (if kind = .close then validateHarnessCloseEvidence primitive result.closeEvidence = .ok ()
        else result.closeEvidence = {}) := by
  have reads := @readEvents_iff expected cursorRequired result.events { sequence := previous }
  simp only [List.map_nil, List.not_mem_nil, not_false_eq_true, implies_true, true_and] at reads
  have closes : (if kind = .close then validateHarnessCloseEvidence primitive result.closeEvidence
      else require (result.closeEvidence = {}) .actionMismatch) = .ok () ↔
      if kind = .close then validateHarnessCloseEvidence primitive result.closeEvidence = .ok ()
        else result.closeEvidence = {} := by
    split
    · exact Iff.rfl
    · exact require_iff
  unfold validateActionResult
  simp only [check_bind_ok, require_iff, ← reads, ← closes]
  cases events : result.events.foldlM (readEvent expected cursorRequired) { sequence := previous } with
  | error error => simp
  | ok final => simp [check_bind_ok, require_iff]

theorem trustEvent_split {events start : List WorkEvent}
    (h : events.foldlM (trustEvent snapshot attempt) start = .ok trusted) : start ⊆ trusted ∧
      ∀ event ∈ events, event ∈ trusted ∨ completedEventMatches snapshot attempt event = true := by
  induction events generalizing start with
  | nil =>
    cases pure_ok h
    exact ⟨List.Subset.refl _, fun _ member => (not_mem_nil member).elim⟩
  | cons event rest ih =>
    rw [foldlM_cons] at h
    obtain ⟨next, step, h⟩ := bind_ok h
    obtain ⟨grows, others⟩ := ih h
    unfold trustEvent at step
    split at step
    · obtain ⟨⟨_, matched⟩, step⟩ := require_bind_ok step
      cases pure_ok step
      exact ⟨grows, forall_mem_cons.mpr ⟨.inr matched, others⟩⟩
    · cases step
      refine ⟨fun old member => grows (mem_append_left _ member), forall_mem_cons.mpr ⟨.inl ?_, others⟩⟩
      exact grows (mem_append_right _ mem_cons_self)

variable [sha : Sha]

def Snapshot.Listed (snapshot : Snapshot) : Prop :=
  ∀ key attempt, snapshot.attempts.get? key = some attempt → ∀ id ∈ attempt.actionIDs,
    ∃ action, snapshot.actions.get? id = some action ∧ action.attemptID = attempt.id

theorem Saves.listed {call : Call} {current : Snapshot}
    (saves : Saves call id current next) (before : current.Listed) : next.Listed := by
  obtain ⟨_, effect, _⟩ := saves.effect
  have stays : ∀ key attempt, current.attempts.get? key = some attempt → ∀ id ∈ attempt.actionIDs,
      ∃ action, next.actions.get? id = some action ∧ action.attemptID = attempt.id := by
    intro key attempt held id listed
    obtain ⟨action, found, mine⟩ := before key attempt held id listed
    obtain ⟨after, afterFound, identity, _⟩ := saves.succeeds.actions id action found
    exact ⟨after, afterFound, identity.2.1.symm.trans mine⟩
  intro key attempt held id listed
  cases effect.attempts with
  | same same => exact stays key attempt (same ▸ held) id listed
  | continued old after found continues _ lists put =>
    rw [put, get?_put] at held
    split at held
    · cases held
      rw [continues.id]
      rcases lists id listed with known | new
      · exact stays old.id old found id known
      · exact new
    · exact stays key attempt held id listed
  | placed placed _ unused _ _ _ put =>
    rw [put, get?_put] at held
    split at held
    · cases held
      rw [unused] at listed
      cases listed
    · exact stays key attempt held id listed

theorem Steps.listed {allowed : Store → Call → Prop} {journal : MemoryStore} {store : Store}
    (steps : Steps allowed { journal } store)
    (found : store.records.get? id = some snapshot) : snapshot.Listed := by
  refine Steps.records (P := Snapshot.Listed) ?_ ?_ steps id snapshot found
  · intro store run graph now snapshot _ new key attempt held
    rw [(newSnapshot_ok new).2.2.1] at held
    exact (no_attempt held).elim
  · intro store call id current next _ _ before saves
    exact saves.listed before

def AgentSession.Alike (before after : AgentSession) : Prop :=
  after = { before with archiveReceipt := after.archiveReceipt, state := after.state }

structure Outcome (snapshot : Snapshot) (kind : ActionKind)
    (attempt after : PlacementAttempt) (result : ActionResult) (sessions : Table AgentSession)
    (graph : TaskGraph) : Prop where
  kin : attempt.Kin after
  block : after.blockCode = attempt.blockCode
  state : after.state = attempt.state ∨ after.state = .active ∨ after.state = .completed
  runtime : after.runtimeWorkIDs = if kind = .dispatch then result.runtimeWorkIDs else attempt.runtimeWorkIDs
  graph : graph = if kind = .dispatch then setTaskState snapshot.graph attempt.taskID .active
    else snapshot.graph
  close : if kind = .close then after.closeEvidence = result.closeEvidence ∧ result.closeEvidence.kind ≠ none ∧
      validateCloseEvidence attempt.primitive result.closeEvidence = .ok () ∧
      (attempt.closeEvidence.kind ≠ none → attempt.closeEvidence = result.closeEvidence)
    else after.closeEvidence = attempt.closeEvidence
  sessions : ∀ id session, sessions.get? id = some session →
    (∃ old, snapshot.sessions.get? id = some old ∧ old.Alike session) ∨
    attempt.primitive = .persistentSession ∧ ∃ runtimeID ∈ result.runtimeWorkIDs,
      id ≠ "" ∧ session.id = id ∧ session.attemptID = attempt.id ∧ session.runtimeChildID = runtimeID ∧
      session.harnessID = attempt.capabilitySnapshot.harnessID ∧
      session.runtimeIDAcknowledged = false ∧ session.disposition.kind = none

theorem stableID_ne (start : String) (values : List String) : stableID start values ≠ "" := by
  intro empty
  have letters := congrArg String.toList empty
  simp [stableID] at letters

theorem applyResult_outcome {controlRunID : String} {sessions : Table AgentSession} {graph : TaskGraph}
    (h : applyResult snapshot controlRunID action (moveCursor attempt result) result trusted =
      .ok (after, sessions, graph)) : Outcome snapshot action.kind attempt after result sessions graph := by
  obtain ⟨kin, state, block, runtime, close⟩ := frozen_same (moveCursor_frozen attempt result)
  have observed := frozen_same ((observeEvents_frozen (moveCursor attempt result) trusted).trans
    (moveCursor_frozen attempt result))
  have stays : ∀ id session, snapshot.sessions.get? id = some session →
      ∃ old, snapshot.sessions.get? id = some old ∧ old.Alike session :=
    fun _ session found => ⟨session, found, rfl⟩
  unfold applyResult at h
  split at h
  · rename_i kind
    obtain ⟨registered, registers, h⟩ := bind_ok h
    cases pure_ok h
    rw [kind]
    refine ⟨⟨kin.id, kin.taskID, kin.primitive, kin.capabilities, kin.owner, kin.actionIDs,
      kin.terminalEvidence, kin.disposition, kin.promotion⟩, block, .inr (.inl rfl), rfl, ?_, close, ?_⟩
    · rw [if_pos rfl, kin.taskID]
    · intro id session found
      unfold registerSession at registers
      split at registers
      · rename_i runtimeID rest primitive ids
        obtain ⟨_, registers⟩ := require_bind_ok registers
        cases pure_ok registers
        rw [get?_put] at found
        split at found
        · rename_i same
          cases found
          refine .inr ⟨kin.primitive.symm.trans primitive, runtimeID, ids ▸ mem_cons_self, ?_,
            same.symm, kin.id, rfl, ?_, rfl, rfl⟩
          · rw [same]
            exact stableID_ne _ _
          show (moveCursor attempt result).capabilitySnapshot.harnessID = _
          rw [kin.capabilities]
        · exact .inl (stays id session found)
      · cases registers
        exact .inl (stays id session found)
  iterate 2
    · rename_i kind
      cases h
      rw [kind]
      exact ⟨observed.1, observed.2.2.1, .inl observed.2.1, observed.2.2.2.1, rfl, observed.2.2.2.2,
        fun id session found => .inl (stays id session found)⟩
  · rename_i kind
    obtain ⟨_, _, h⟩ := bind_ok h
    obtain ⟨evidence, closing, h⟩ := bind_ok h
    obtain ⟨_, valid, h⟩ := bind_ok h
    obtain ⟨same, h⟩ := require_bind_ok h
    obtain ⟨rfl, given⟩ := controlCloseEvidence_ok closing
    cases pure_ok h
    rw [kind]
    refine ⟨⟨kin.id, kin.taskID, kin.primitive, kin.capabilities, kin.owner, kin.actionIDs,
      kin.terminalEvidence, kin.disposition, kin.promotion⟩, block, ?_, runtime, rfl,
      ⟨rfl, given, kin.primitive ▸ valid, ?_⟩, ?_⟩
    · unfold closedAttempt
      dsimp only
      split
      · exact .inr (.inr rfl)
      · exact .inl state
    · rw [← close]
      exact same
    · intro id session found
      split at found
      · unfold archiveSessions at found
        rw [get?_map] at found
        obtain ⟨old, held, rfl⟩ := map_eq_some_iff.mp found
        refine .inl ⟨old, held, ?_⟩
        split <;> rfl
      · exact .inl (stays id session found)
  · rename_i dispatch observe wait closing
    cases h
    refine ⟨kin, block, .inl state, ?_, ?_, ?_, fun id session found => .inl (stays id session found)⟩
    · rw [if_neg dispatch]
      exact runtime
    · rw [if_neg dispatch]
    · rw [if_neg closing]
      exact close

def SeedDigests (sha : Sha) : Prop := ∀ text, validDigest ("sha256:" ++ sha.seedHex text) = true

/-- When the snapshot that `completeAction` builds can be saved. -/
structure Storable (snapshot : Snapshot) (action : LifecycleAction) (attempt : PlacementAttempt)
    (result : ActionResult) : Prop where
  -- the largest revision has no successor
  room : snapshot.graph.revision ≤ snapshot.graph.revision + 1
  unopposed : action.kind = .dispatch → Unopposed snapshot.graph attempt.taskID
  runtime : action.kind = .dispatch → result.runtimeWorkIDs = attempt.runtimeWorkIDs ∨
    ∀ id other, snapshot.actions.get? id = some other → other.attemptID = attempt.id →
      other.completed = true → other.kind = .dispatch
  observed : result.events ≠ [] → action.kind = .observe ∨ action.kind = .wait
  distinct : (result.events.map (·.id)).Nodup
  increasing : (positions result.events).Pairwise (· < ·)
  last : ∀ last ∈ result.events.getLast?, last.cursor ≠ "" →
    result.cursor = last.cursor ∧ result.cursorSequence = last.cursorSequence
  listed : action.kind = .close → attempt.primitive ≠ .localSequential → action.id ∈ attempt.actionIDs ∨
      completedClose snapshot.actions attempt.actionIDs result.closeEvidence = true

theorem validateCompleted_of (sound : snapshot.Sound) (held : snapshot.actions.get? id = some action)
    (completed : action.completed = true) (attemptHeld : snapshot.attempts.get? attempt.id = some attempt)
    (mine : action.attemptID = attempt.id) : validateCompleted action attempt = .ok () := by
  obtain ⟨_, _, _, _, _, holder, holderHeld, _, valid⟩ := require_ok (sound.action id action held)
  rw [mine, attemptHeld] at holderHeld
  cases holderHeld
  exact valid completed

theorem matched_readable (sound : snapshot.Sound) (listed : snapshot.Listed)
    (held : snapshot.attempts.get? attempt.id = some attempt)
    {event : WorkEvent} (matched : completedEventMatches snapshot attempt event = true) :
    Readable attempt.runtimeWorkIDs (attempt.capabilitySnapshot.supports attempt.primitive .cursor) event := by
  simp only [completedEventMatches, completedWith, List.any_eq_true, Option.any_eq_true, Bool.and_eq_true,
    Bool.or_eq_true, decide_eq_true_eq] at matched
  obtain ⟨id, member, action, found, ⟨completed, _⟩, kind, inside⟩ := matched
  obtain ⟨same, sameFound, mine⟩ := listed attempt.id attempt held id member
  rw [found] at sameFound
  cases sameFound
  have valid := validateCompleted_of sound found completed held mine
  have dispatch : action.kind ≠ .dispatch := by
    rcases kind with kind | kind <;> rw [kind] <;> decide
  unfold validateCompleted at valid
  rw [if_neg dispatch, validateActionResult_iff] at valid
  exact valid.2.2.2.2.2.2.2.1.1 event inside

theorem settled_valid (sound : snapshot.Sound) (listed : snapshot.Listed)
    {action settled : LifecycleAction}
    (held : snapshot.attempts.get? attempt.id = some attempt)
    (checked : checkResult snapshot action attempt result = .ok trusted) (kin : attempt.Kin after)
    (runtime : after.runtimeWorkIDs =
      if action.kind = .dispatch then result.runtimeWorkIDs else attempt.runtimeWorkIDs)
    (kind : settled.kind = action.kind) (stored : settled.result = cloneActionResult result) :
    validateCompleted settled after = .ok () ↔ (result.events ≠ [] → action.kind = .observe ∨ action.kind = .wait) ∧
      (result.events.map (·.id)).Nodup ∧ (positions result.events).Pairwise (· < ·) ∧
      ∀ last ∈ result.events.getLast?, last.cursor ≠ "" →
        result.cursor = last.cursor ∧ result.cursorSequence = last.cursorSequence := by
  obtain ⟨trusts, previous, valid⟩ := checkResult_ok checked
  obtain ⟨form, cursor, required, _, runtimeIDs, expected, _, ⟨readable, _⟩, _, close⟩ :=
    validateActionResult_iff.mp valid
  have expects : (if settled.kind = .dispatch then [] else after.runtimeWorkIDs) =
      if action.kind = .dispatch then [] else attempt.runtimeWorkIDs := by
    rw [kind, runtime]
    split <;> rfl
  unfold validateCompleted
  rw [validateActionResult_iff, expects, kind, stored, kin.primitive, kin.capabilities]
  constructor
  · rintro ⟨_, _, _, _, _, _, observed, ⟨_, distinct, increasing⟩, last, _⟩
    exact ⟨observed, distinct, (positions_from_zero _).mp increasing, last⟩
  · rintro ⟨observed, distinct, increasing, last⟩
    refine ⟨form, cursor, required, fun positive => positive, runtimeIDs, expected, observed,
      ⟨?_, distinct, (positions_from_zero _).mpr increasing⟩, last, close⟩
    intro event member
    rcases (trustEvent_split trusts).2 event member with new | matched
    · exact readable event new
    · have dispatch : action.kind ≠ .dispatch := by
        rcases observed (ne_nil_of_mem member) with kind | kind <;> rw [kind] <;> decide
      rw [if_neg dispatch]
      exact matched_readable sound listed held matched

section settled

variable {sessions : Table AgentSession} {graph : TaskGraph}

variable (now) in
theorem settledSnapshot_patch (held : snapshot.actions.get? action.id = some action)
    (isOpen : action.completed = false ∧ action.ambiguous = false)
    (attemptHeld : snapshot.attempts.get? attempt.id = some attempt) (mine : action.attemptID = attempt.id)
    (outcome : Outcome snapshot action.kind attempt after result sessions graph) (time : Time) :
    Patch snapshot ((settledSnapshot snapshot action result after sessions graph now).saved snapshot.version
      time) attempt after action (settledAction action result now) where
  version := ⟨rfl, rfl⟩
  run := ⟨rfl, rfl, rfl, rfl, rfl, rfl⟩
  graph := by
    show graph.shape = snapshot.graph.shape
    rw [outcome.graph]
    split
    · exact shape_setTaskState _ _ _
    · rfl
  held := attemptHeld
  kin := outcome.kin
  attempts := by
    show snapshot.attempts.put after.id after = _
    rw [outcome.kin.id]
  pendingHeld := held
  isOpen
  mine
  identity := ⟨rfl, rfl, rfl, rfl, rfl⟩
  actions := rfl
  stays := ⟨rfl, rfl, rfl, rfl⟩

theorem completeAction_patch (sound : snapshot.Sound) (held : snapshot.actions.get? action.id = some action)
    (isOpen : action.completed = false ∧ action.ambiguous = false)
    (attemptHeld : snapshot.attempts.get? action.attemptID = some attempt)
    {controlRunID : String} {done : LifecycleAction × Option PlacementAttempt}
    (completes : completeAction snapshot controlRunID action.id result now = .ok (done, next)) (time : Time) :
    ∃ trusted after sessions graph, next = settledSnapshot snapshot action result after sessions graph now ∧
      result.actionID = action.id ∧ checkResult snapshot action attempt result = .ok trusted ∧
      Outcome snapshot action.kind attempt after result sessions graph ∧
      Patch snapshot (next.saved snapshot.version time) attempt after action (settledAction action result now) := by
  obtain ⟨_, again, _, ⟨completed, _⟩ |
    ⟨_, named, holder, trusted, after, sessions, graph, holderHeld, checked, applied, rfl⟩⟩ :=
    completeAction_ok completes <;> cases held.symm.trans again
  · rw [isOpen.1] at completed
    cases completed
  cases attemptHeld.symm.trans holderHeld
  have mine := sound.attempt_id attemptHeld
  have outcome := applyResult_outcome applied
  exact ⟨trusted, after, sessions, graph, rfl, named, checked, outcome,
    settledSnapshot_patch now held isOpen (mine.symm ▸ attemptHeld) mine.symm outcome time⟩

theorem Outcome.session_valid (sound : snapshot.Sound) {settled : LifecycleAction}
    (patch : Patch snapshot next attempt after action settled)
    (outcome : Outcome snapshot action.kind attempt after result sessions graph)
    (runtimeIDs : ∀ runtimeID ∈ result.runtimeWorkIDs, ¬ blank runtimeID)
    {session : AgentSession} (found : sessions.get? id = some session) :
    validateSession next id session = .ok () ∧ validateSessionDisposition next session = .ok () := by
  rcases outcome.sessions id session found with ⟨old, oldFound, alike⟩ |
    ⟨primitive, runtimeID, listed, named, same, attemptID, runtime, harness, unacknowledged, undisposed⟩
  · have valid := patch.session (sound.session id old oldFound)
    have disposed := sound.disposition id old oldFound
    rw [alike]
    refine ⟨valid, ?_⟩
    unfold validateSessionDisposition Snapshot.holdsEvidence at disposed ⊢
    rw [patch.stays.1]
    exact disposed
  · have capabilities := (require_ok (sound.attempt _ _ patch.held)).2.2.2.2.1
    unfold CapabilitySnapshot.validate at capabilities
    have harnessID := (require_bind_ok capabilities).1
    have filled : ∀ text : String, ¬ blank text → text ≠ "" := by
      rintro text visible rfl
      exact visible (by decide)
    constructor
    · unfold validateSession
      rw [require_iff, runtime, harness, attemptID]
      exact ⟨named, same, filled _ (runtimeIDs runtimeID listed), filled _ harnessID, after, patch.attempt_put,
        outcome.kin.primitive.trans primitive, fun registered => by simp [unacknowledged] at registered⟩
    · unfold validateSessionDisposition
      rw [require_iff]
      exact fun disposed => absurd undisposed disposed

variable (action result after sessions graph now) in
theorem settledSnapshot_events (sums : SeedDigests sha) (sound : snapshot.Sound) (time : Time) :
    let next := (settledSnapshot snapshot action result after sessions graph now).saved snapshot.version time
    next.events.foldlM (nextCursor next.run.id) 0 = .ok next.run.eventCursor ∧
      next.events.take snapshot.events.length = snapshot.events := by
  refine ⟨?_, take_left⟩
  show (snapshot.events ++ [_]).foldlM (nextCursor snapshot.run.id) 0 = .ok (snapshot.run.eventCursor + 1)
  rw [foldlM_append, sound.events, ok_bind, foldlM_cons, nextCursor, require_bind _ ⟨rfl, rfl, sums _⟩]
  rfl

theorem Outcome.closes (sound : snapshot.Sound)
    (patch : Patch snapshot next attempt after action (settledAction action result now))
    (outcome : Outcome snapshot action.kind attempt after result sessions graph)
    (listed : action.kind = .close → attempt.primitive ≠ .localSequential → action.id ∈ attempt.actionIDs ∨
        completedClose snapshot.actions attempt.actionIDs result.closeEvidence = true)
    (given : after.closeEvidence.kind ≠ none) : validateCloseEvidence after.primitive after.closeEvidence = .ok () ∧
      (after.primitive ≠ .localSequential →
        completedClose next.actions after.actionIDs after.closeEvidence = true) := by
  rw [outcome.kin.primitive, outcome.kin.actionIDs]
  have close := outcome.close
  by_cases kind : action.kind = .close
  · rw [if_pos kind] at close
    obtain ⟨same, evidence, valid, _⟩ := close
    rw [same]
    refine ⟨valid, fun primitive => ?_⟩
    rcases listed kind primitive with mine | before
    · simp only [completedClose, completedWith, List.any_eq_true, Option.any_eq_true]
      refine ⟨action.id, mine, settledAction action result now, patch.action_put, ?_⟩
      have closing : controlCloseEvidence result.closeEvidence = .ok result.closeEvidence := by
        rw [controlCloseEvidence, require_bind _ evidence]
        rfl
      simp [settledAction, cloneActionResult, kind, closing, patch.isOpen.2]
    · exact patch.completedWith before
  · rw [if_neg kind] at close
    rw [close] at given ⊢
    obtain ⟨_, _, closes, _⟩ := validateAttemptReferences_iff.mp (sound.references _ _ patch.held)
    obtain ⟨valid, backed⟩ := closes given
    exact ⟨valid, fun primitive => patch.completedWith (backed primitive)⟩

theorem settledSnapshot_saves (sums : SeedDigests sha) (sound : snapshot.Sound) (listed : snapshot.Listed)
    (opened : snapshot.run.status ≠ .closed) (held : snapshot.actions.get? action.id = some action)
    (isOpen : action.completed = false ∧ action.ambiguous = false)
    (attemptHeld : snapshot.attempts.get? attempt.id = some attempt) (mine : action.attemptID = attempt.id)
    (unblocked : attempt.state ≠ .blocked) (lives : attemptTerminal attempt.state = false)
    (named : result.actionID = action.id) (checked : checkResult snapshot action attempt result = .ok trusted)
    (outcome : Outcome snapshot action.kind attempt after result sessions graph) (time : Time) :
    validateSave snapshot ((settledSnapshot snapshot action result after sessions graph now).saved
      snapshot.version time) = .ok () ↔ Storable snapshot action attempt result := by
  have patch := settledSnapshot_patch now held isOpen attemptHeld mine outcome time
  have kind : (settledAction action result now).kind = action.kind := rfl
  have stored := settled_valid sound listed attemptHeld checked outcome.kin outcome.runtime kind rfl
  rw [validateSave_ok]
  constructor
  · rintro ⟨_, nextSound, succeeds⟩
    have afterHeld := patch.attempt_put
    rw [← outcome.kin.id] at afterHeld
    obtain ⟨observed, distinct, increasing, last⟩ := stored.mp
      (validateCompleted_of nextSound patch.action_put rfl afterHeld (mine.trans outcome.kin.id.symm))
    refine ⟨patch.room succeeds, ?_, ?_, observed, distinct, increasing, last, ?_⟩
    · intro kind
      have owned := (validateGraph_shape patch.graph sound.graph).mp nextSound.graph
      replace owned : graph.tasks.Pairwise fun first second => ownershipConflict first second = false := owned
      rw [outcome.graph, if_pos kind] at owned
      exact (setTaskState_ownership sound.graph rfl).mp owned
    · intro kind
      by_cases same : result.runtimeWorkIDs = attempt.runtimeWorkIDs
      · exact .inl same
      refine .inr fun id other found otherMine completed => ?_
      by_contra otherKind
      -- its result has the old runtime identities, and would have to have the new ones
      have old := validateCompleted_of sound found completed attemptHeld otherMine
      have new := validateCompleted_of nextSound (patch.action_kept found completed) completed afterHeld
        (otherMine.trans outcome.kin.id.symm)
      unfold validateCompleted at old new
      rw [if_neg otherKind, validateActionResult_iff] at old new
      have runtime := outcome.runtime
      rw [if_pos kind] at runtime
      exact same ((runtime.symm.trans (new.2.2.2.2.2.1 otherKind)).trans (old.2.2.2.2.2.1 otherKind).symm)
    · intro kind primitive
      have close := outcome.close
      rw [if_pos kind] at close
      obtain ⟨same, evidence, _⟩ := close
      obtain ⟨_, _, closes, _⟩ := validateAttemptReferences_iff.mp (nextSound.references _ _ patch.attempt_put)
      have backed := (closes (same ▸ evidence)).2 (outcome.kin.primitive ▸ primitive)
      rw [same, outcome.kin.actionIDs] at backed
      exact patch.closed_before backed
  · intro storable
    obtain ⟨events, front⟩ := settledSnapshot_events after action result now sessions graph sums sound time
    obtain ⟨_, _, valid⟩ := checkResult_ok checked
    refine ⟨sound, patch.sound sound ?_, patch.succeeds sound storable.room opened front ?_⟩
    · exact {
        owned := by
          show graph.tasks.Pairwise _
          rw [outcome.graph]
          split
          · rename_i kind
            exact (setTaskState_ownership sound.graph rfl).mpr (storable.unopposed kind)
          · exact validateGraph_ownership sound.graph
        blocked := by
          have code : attempt.blockCode = "" := by
            by_contra code
            exact unblocked ((sound.attempt_blocked attemptHeld).mpr code)
          refine iff_of_false ?_ (by rw [outcome.block]; exact not_not.mpr code)
          rcases outcome.state with same | active | completed
          · rwa [same]
          · rw [active]
            decide
          · rw [completed]
            decide
        alone := by
          intro _ key other found different otherLives same
          have one := liveTasks_apart sound.live (mem_values.mpr ⟨key, found⟩)
            (mem_values.mpr ⟨attempt.id, attemptHeld⟩) otherLives lives
            (same.trans outcome.kin.taskID)
          exact different ((sound.attempt_id found).symm.trans (one ▸ rfl))
        sessions := fun id session found => outcome.session_valid sound patch
          (fun runtimeID member => ((validateActionResult_iff.mp valid).2.2.2.2.1.1 runtimeID member).1) found
        unpromoted := by
          intro id other found promoted
          obtain ⟨_, _, _, references⟩ := validateAttemptReferences_iff.mp (sound.references id other found)
          have named := (require_ok (sound.attempt _ _ attemptHeld)).1
          have ended := references (.inl (promoted ▸ named))
          unfold validPromotedAttempt at ended
          rw [promoted, attemptHeld] at ended
          simp [lives] at ended
        closes := outcome.closes sound patch storable.listed
        events
        outcome := ⟨fun _ => ⟨named, stored.mpr
            ⟨storable.observed, storable.distinct, storable.increasing, storable.last⟩⟩,
          fun both => by simp [settledAction, isOpen.2] at both,
          (require_ok (sound.action _ _ held)).2.2.2.2.1⟩
        results := by
          intro id other found completed otherMine
          have valid := validateCompleted_of sound found completed attemptHeld otherMine
          rw [validateCompleted_kin outcome.kin ?_]
          · exact valid
          · rw [outcome.runtime]
            split
            · rename_i kind
              rcases storable.runtime kind with same | dispatches
              · exact .inr same
              · exact .inl (dispatches id other found otherMine completed)
            · exact .inr rfl }
    · have close := outcome.close
      split at close
      · rw [close.1]
        exact close.2.2.2
      · rw [close]
        exact fun _ => rfl

end settled

/-- A result that `completeAction` accepts for an open action of a live attempt can be saved exactly
when it is storable. -/
theorem accepted_result_storable (sums : SeedDigests sha) {journal : MemoryStore} {store : Store}
    (steps : Steps (fun _ _ => True) { journal } store) {id actionID : String} {snapshot next : Snapshot}
    {action : LifecycleAction} {attempt : PlacementAttempt} {result : ActionResult} {now : Nat → Time}
    {done : LifecycleAction × Option PlacementAttempt} (found : store.records.get? id = some snapshot)
    (opened : snapshot.run.status ≠ .closed) (held : snapshot.actions.get? actionID = some action)
    (isOpen : action.completed = false ∧ action.ambiguous = false)
    (attemptHeld : snapshot.attempts.get? action.attemptID = some attempt)
    (unblocked : attempt.state ≠ .blocked) (lives : attemptTerminal attempt.state = false)
    (completes : completeAction snapshot id actionID result now = .ok (done, next)) (time : Time) :
    validateSave snapshot (next.saved snapshot.version time) = .ok () ↔ Storable snapshot action attempt result := by
  have sound := (Steps.kept steps (kept_start journal) id snapshot found).2
  have listed := Steps.listed steps found
  have same := sound.action_id held
  have mine := sound.attempt_id attemptHeld
  subst same
  obtain ⟨_, _, _, _, rfl, named, checked, outcome, _⟩ :=
    completeAction_patch sound held isOpen attemptHeld completes time
  exact settledSnapshot_saves sums sound listed opened held isOpen (mine.symm ▸ attemptHeld) mine.symm
    unblocked lives named checked outcome time

end results

attribute [local instance] Sha.spelled

theorem spelled_seedDigests : SeedDigests Sha.spelled := by
  intro text
  obtain ⟨size, digits⟩ := hexSeed_hex text
  show validDigest ("sha256:" ++ (_ ++ hexSeed text)) = true
  refine validDigest_hex ?_ ?_
  · rw [String.utf8ByteSize_append, size]
    rfl
  · rw [bytes_append, List.all_append, digits]
    decide +kernel

def observedResult : ActionResult :=
  { ActionResult.sample observation with
    events := [{ id := "event", kind := "done", resultDigest := sampleDigest, terminal := true }] }

theorem accepted_result_storable_observation : ∃ snapshot action attempt next done,
    (sample.after localWork).records.get? "run" = some snapshot ∧
      snapshot.actions.get? observation = some action ∧ snapshot.attempts.get? action.attemptID = some attempt ∧
      completeAction snapshot "run" observation observedResult (fun _ => Time.unixEpoch) = .ok (done, next) ∧
      Storable snapshot action attempt observedResult := by
  obtain ⟨snapshot, found, opened, action, held, isOpen, attempt, attemptHeld, unblocked, lives, next, done, completes,
      valid⟩ : ∃ snapshot, (sample.after localWork).records.get? "run" = some snapshot ∧
      snapshot.run.status ≠ .closed ∧ ∃ action, snapshot.actions.get? observation = some action ∧
        (action.completed = false ∧ action.ambiguous = false) ∧
      ∃ attempt, snapshot.attempts.get? action.attemptID = some attempt ∧ attempt.state ≠ .blocked ∧
        attemptTerminal attempt.state = false ∧
      ∃ next done, completeAction snapshot "run" observation observedResult (fun _ => Time.unixEpoch) =
          .ok (done, next) ∧
        validateSave snapshot (next.saved snapshot.version Time.unixEpoch) = .ok () := by decide +kernel
  exact ⟨snapshot, action, attempt, next, done, found, held, attemptHeld, completes,
    (accepted_result_storable spelled_seedDigests (after_steps sample localWork) found opened
      held isOpen attemptHeld unblocked lives completes Time.unixEpoch).mp valid⟩

def ephemeralAction : ActionKind → String := sampleAction "t" promotedFrom .ephemeralSubagent

def observedBeforeDispatch : List Call :=
  [.create .sample (.sample 1 [.sample "t" .ephemeralSubagent ["src/**"] .ready]),
    .change "run" (.createAttempt "t" .sample),
    .prepareAction "run" promotedFrom .dispatch sampleDigest,
    .prepareAction "run" promotedFrom .observe sampleDigest,
    .change "run" (.completeAction (ephemeralAction .observe) (.sample (ephemeralAction .observe)))]

/-- The dispatch binds a runtime identity, and the result of the observation has none. -/
theorem accepted_result_refused : ∃ store snapshot action attempt next done,
    Steps (fun _ _ => True) sample store ∧ store.records.get? "run" = some snapshot ∧
      snapshot.run.status ≠ .closed ∧ snapshot.actions.get? (ephemeralAction .dispatch) = some action ∧
      action.completed = false ∧ action.ambiguous = false ∧
      snapshot.attempts.get? action.attemptID = some attempt ∧ attempt.state ≠ .blocked ∧
      attemptTerminal attempt.state = false ∧
      completeAction snapshot "run" (ephemeralAction .dispatch)
        { ActionResult.sample (ephemeralAction .dispatch) with runtimeWorkIDs := ["work"] }
        (fun _ => Time.unixEpoch) = .ok (done, next) ∧
      validateSave snapshot (next.saved snapshot.version Time.unixEpoch) ≠ .ok () := by
  refine ⟨sample.after observedBeforeDispatch, ?_⟩
  simp only [exists_and_left]
  exact ⟨after_steps _ _, by decide +kernel⟩

end Paje.Control
