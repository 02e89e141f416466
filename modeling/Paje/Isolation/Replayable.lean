import Paje.Isolation.System

/-!
Every orderly history of a run can be rebuilt, and each of the three ways to be disorderly makes the
run unreadable.
-/

namespace Paje.Isolation

open Text Journal List Option Service

theorem Ready.orderly_sorted {p : Projection} {call : Call} (ready : Ready p)
    (orderly : call.Orderly p.sorted) : call.Orderly p := by
  cases call with
  | wakeGate request =>
    intro gate found
    have listed : ∀ other, other ∈ p.sorted.gates ↔ other ∈ p.gates := fun other =>
      (perm_insertionSort _ p.gates).mem_iff
    rcases orderly gate ((ready.gate_sorted _).trans found) with ⟨other, member, rest⟩ | deferred
    · exact .inl ⟨other, (listed other).mp member, rest⟩
    · exact .inr fun task known => deferred task ((ready.task_sorted _).trans known)
  | _ => exact orderly

section Histories

variable [sha : Sha]

theorem Outside.replays {entry : Entry} (outside : Outside entry) (p : Projection) :
    Entry.replay applyEvent p entry = .ok ((p.moved entry.reservation).moved entry.outcome) := by
  obtain ⟨formed, other⟩ := outside
  have reserved : entry.reservation.kind ≠ .actionResult := by
    rw [formed.reservedKind]
    intro same
    cases same
  rw [← formed.bound] at other
  rw [Entry.replay, applyEvent_other _ _ (.inl reserved), ok_bind, applyEvent_other _ _ (.inr other)]

/-- Whatever calls of any number of services are interleaved, with each other and with commits of
other components: as long as they are orderly, every run can be rebuilt. -/
theorem isolation_replays (separates : sha.Separates) (hex : sha.HexSeeds) {svc : Nat → Service}
    {installationID : String} {sys : System}
    (reachable : Reachable svc (fun call p => call.Orderly p) installationID sys) {s : Service}
    {scope : RunScope} (valid : s.ValidScope scope) (here : s.installationID = installationID) :
    ∃ p cursor, s.rebuild sys.store scope = .ok (p, cursor) := by
  obtain ⟨log, sound⟩ := reachable_sound reachable
  have same : scope = ⟨installationID, scope.controlRunID⟩ := by
    rw [← here, ← valid.2.2]
  obtain ⟨p, replayed, _⟩ := (sound.authored scope.controlRunID).replayable
    (fun p => Ready p ∧ p.scope = ⟨installationID, scope.controlRunID⟩)
    ⟨⟨nodup_nil, nodup_nil, fun _ member => nomatch member⟩, rfl⟩
    (fun p entry ⟨ready, mine⟩ ⟨c, _, spec, authors, target, orderly⟩ => by
      have checked := authors.valid
      rw [ready.validate_sorted] at checked
      obtain ⟨q, taken, kept, still⟩ := authors.written.replays separates hex authors.submitted ready
        (target.trans mine.symm) authors.revision checked (ready.orderly_sorted orderly)
      exact ⟨q, taken, kept, still.trans mine⟩)
    (fun p entry ⟨ready, mine⟩ outside =>
      ⟨_, outside.replays p, (ready.moved _).moved _, mine⟩)
  rw [rebuild_eq sound.holds valid (here.trans sound.installation.symm)]
  rw [← same] at replayed
  rw [replay, replayed]
  exact ⟨_, _, rfl⟩

/-! ### The accepted operations of a run -/

def System.accepted (sys : System) (scope : RunScope) : List Commitment :=
  sys.history.filter (·.call.operation.scope = scope)

/-- What a step of the system does to a run: its heads may move, or an operation was written over its projection.
`n` and `m` count the events of the journal. -/
inductive Advances (svc : Nat → Service) (careful : Call → Projection → Prop) (scope : RunScope) (n m : Nat)
    (p : Projection) (before : List Commitment) : Projection → List Commitment → Prop
  | heads (runSequence journalPosition : Nat) : Advances svc careful scope n m p before
      { p with lastRunSequence := runSequence, lastJournalPosition := journalPosition } before
  | wrote {q : Projection} {c : Commitment} {spec : OperationSpec} {entry : Entry}
      (authors : Authors (svc c.service) c.call spec c.now p entry) (mine : spec.scope = scope)
      (taken : Entry.replay applyEvent p entry = .ok q) (late : n < entry.outcome.journalPosition)
      (placed : entry.outcome.journalPosition ≤ m) (admitted : careful c.call p.sorted) :
      Advances svc careful scope n m p before q (before ++ [c])

section steps

variable {svc : Nat → Service} {careful : Call → Projection → Prop} {installationID : String}
  {sys next : System} {log : List Entry} {scope : RunScope} {s : Service}

theorem Sound.advances (sound : Sound svc careful installationID sys log) {label : Label}
    (allowed : Careful careful sys label) (stepped : sys.step svc label = some next) :
    ∃ later, Sound svc careful installationID next later ∧ sys.store.events.length ≤ next.store.events.length ∧
      ∀ run q, replay ⟨installationID, run⟩ (runLog later run) = .ok q → ∃ p,
        replay ⟨installationID, run⟩ (runLog log run) = .ok p ∧
        Advances svc careful ⟨installationID, run⟩ sys.store.events.length next.store.events.length
          p (sys.accepted ⟨installationID, run⟩) q (next.accepted ⟨installationID, run⟩) := by
  obtain ⟨more, later, adds⟩ := sound.step allowed stepped
  have size : next.store.events.length = sys.store.events.length + 2 * more.toList.length := by
    rw [later.holds.events, sound.holds.events, length_eventsOf, length_eventsOf, length_append]
    omega
  refine ⟨_, later, by omega, fun run q replayed => ?_⟩
  have unchanged : ∀ {m : Nat} {p : Projection} {h : List Commitment},
      Advances svc careful ⟨installationID, run⟩ sys.store.events.length m p h p h :=
    fun {_ p _} => .heads p.lastRunSequence p.lastJournalPosition
  simp only [System.accepted]
  generalize next.history = after at adds
  generalize stored : next.store = written at adds
  cases adds with
  | nothing =>
    rw [toList_none, append_nil] at replayed
    exact ⟨q, replayed, unchanged⟩
  | outside _ outside =>
    rw [toList_some, runLog_snoc] at replayed
    split at replayed
    · obtain ⟨p, earlier, taken⟩ := EventLog.fold_snoc replayed
      rw [outside.replays] at taken
      cases taken
      exact ⟨p, earlier, .heads ..⟩
    · exact ⟨q, replayed, unchanged⟩
  | @wrote request c spec p _ _ _ known authors here admitted =>
    have place : spec.scope = c.call.operation.scope :=
      congrArg Operation.scope (spec_call authors.submitted).1
    have run' : (sys.store.entryOf request).action.controlRunID = spec.scope.controlRunID := by
      rw [authors.written.action]
      rfl
    rw [toList_some, runLog_snoc, run'] at replayed
    rw [filter_append]
    split at replayed
    · rename_i mine
      rw [mine] at here known
      rw [here] at known
      obtain ⟨u, earlier, taken⟩ := EventLog.fold_snoc replayed
      cases earlier.symm.trans known
      have last : next.store.events[sys.store.events.length + 1]? = some (sys.store.entryOf request).outcome := by
        rw [later.holds.events, toList_some, eventsOf, flatMap_append,
          show log.flatMap Entry.events = sys.store.events from sound.holds.events.symm,
          getElem?_append_right (by omega), Nat.add_sub_cancel_left]
        rfl
      have position := later.holds.numbered.position last
      rw [stored, toList_some, length_singleton] at size
      refine ⟨p, earlier, ?_⟩
      rw [filter_cons_of_pos (by simp [← place, here]), filter_nil]
      exact .wrote authors here taken (by omega) (by omega) admitted
    · rename_i other
      rw [filter_cons_of_neg, filter_nil, append_nil]
      · exact ⟨q, replayed, unchanged⟩
      · simp only [← place, decide_eq_true_eq]
        intro same
        exact other (congrArg RunScope.controlRunID same)

theorem Reachable.always {F : RunScope → Nat → Projection → List Commitment → Prop}
    (new : ∀ scope, F scope 0 { scope } [])
    (keeps : ∀ scope n m p h q after, n ≤ m → F scope n p h → Advances svc careful scope n m p h q after →
      F scope m q after)
    (reachable : Reachable svc careful installationID sys) : ∃ log, Sound svc careful installationID sys log ∧
      ∀ run p, replay ⟨installationID, run⟩ (runLog log run) = .ok p →
        F ⟨installationID, run⟩ sys.store.events.length p (sys.accepted ⟨installationID, run⟩) := by
  induction reachable with
  | @new store created =>
    obtain ⟨rfl, _⟩ := newMemoryStore_ok created
    refine ⟨[], ⟨rfl, MemoryStore.holds_new _, fun _ => .nil, fun _ _ m => nomatch m⟩, fun run p replayed => ?_⟩
    cases replayed
    exact new _
  | step _ allowed stepped ih =>
    obtain ⟨log, sound, held⟩ := ih
    obtain ⟨later, still, grown, back⟩ := sound.advances allowed stepped
    refine ⟨later, still, fun run q replayed => ?_⟩
    obtain ⟨p, earlier, moves⟩ := back run q replayed
    exact keeps _ _ _ _ _ _ _ grown (held run p earlier) moves

theorem Sound.rebuilt (sound : Sound svc careful installationID sys log) {p : Projection} {cursor : RunCursor}
    (read : s.rebuild sys.store scope = .ok (p, cursor)) : scope = ⟨installationID, scope.controlRunID⟩ ∧
      ∃ u, replay scope (runLog log scope.controlRunID) = .ok u ∧ p = u.sorted := by
  obtain ⟨valid, home⟩ := rebuild_installation read
  rw [rebuild_eq sound.holds valid home] at read
  obtain ⟨u, replayed, same⟩ := bind_ok read
  cases same
  exact ⟨by rw [← sound.installation, ← home, ← valid.2.2], u, replayed, rfl⟩

end steps

end Histories

def deferral : List Label :=
  Label.serve 0 (.transitionTask (.sample "o0" 0 none .discovered)) 1 ++
  Label.serve 1 (.transitionTask (.sample "o1" 1 (some .discovered) .deferred)) 1 ++
  Label.serve 2 (.registerGate (.sample "o2" 2)) 1

def deferredLife : List Label := deferral ++ Label.serve 3 (.wakeGate (.sample "o3" 3)) 5

def unnamedTask : List Label :=
  Label.serve 0 (.transitionTask { TaskPhaseRequest.sample "u0" 0 none .discovered with taskID := "" }) 1

def unnamedAttempt : List Label :=
  Label.serve 0 (.appendCallback { CallbackRequest.sample "u0" 0 "e" with attemptID := "" }) 1

def lateWake : List Label :=
  deferral ++ Label.serve 3 (.transitionTask (.sample "o3" 3 (some .deferred) .needsInput)) 1 ++
    Label.serve 4 (.wakeGate (.sample "o4" 4)) 5

@[reducible] def historyHash : Sha := .separatingHex
  (runDocuments deferredLife ++ runDocuments unnamedTask ++ runDocuments unnamedAttempt ++
    runDocuments lateWake).dedup

theorem historyHash_separates : historyHash.Separates := Sha.separatingHex_separates (by decide +kernel)

attribute [local instance] historyHash

theorem isolation_replays_deferredLife : ∃ sys p cursor,
    Reachable (fun _ => sample) (fun call p => call.Orderly p) "i" sys ∧
      sys.history.length = 4 ∧ sample.rebuild sys.store .sample = .ok (p, cursor) := by
  obtain ⟨sys, ran, length⟩ : ∃ sys, System.run (fun _ => .sample) (fun call p => call.Orderly p) .sample
      deferredLife = some sys ∧ sys.history.length = 4 := by decide +kernel
  have reachable := System.sample_reachable.run ran
  obtain ⟨p, cursor, read⟩ := isolation_replays historyHash_separates
    (Sha.separatingHex_hexSeeds _) reachable (by decide : sample.ValidScope .sample) rfl
  exact ⟨sys, p, cursor, reachable, length, read⟩

/-- Every commit of these runs was accepted; the last one made the run unreadable. -/
theorem committed_not_replayed : historyHash.Separates ∧ historyHash.HexSeeds ∧
    ∀ labels ∈ [unnamedTask, unnamedAttempt, lateWake], ∃ sys,
      Reachable (fun _ => sample) (fun _ _ => True) "i" sys ∧ sys.history.length * 5 = labels.length ∧
      sample.rebuild sys.store .sample = .error (.journal .invalidRecord) := by
  refine ⟨historyHash_separates, Sha.separatingHex_hexSeeds _, fun labels member => ?_⟩
  have evaluated : ∀ labels ∈ [unnamedTask, unnamedAttempt, lateWake], ∃ sys,
      System.run (fun _ => .sample) (fun _ _ => True) .sample labels = some sys ∧
      sys.history.length * 5 = labels.length ∧
      sample.rebuild sys.store .sample = .error (.journal .invalidRecord) := by decide +kernel
  obtain ⟨sys, ran, facts⟩ := evaluated labels member
  exact ⟨sys, System.sample_reachable.run ran, facts⟩

end Paje.Isolation
