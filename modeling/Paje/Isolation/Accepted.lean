import Paje.Isolation.Gates

/-!
The accepted operations of a run and what they make of it. The phase of a run is frozen from an accepted freeze to its
lifting, and follows from the tasks and gates otherwise.
-/

namespace Paje.Isolation

open Text Journal List Projection Service

section accepted

section phases

variable {p q : Projection}

theorem deriveRunPhase_frozen (p : Projection) :
    p.deriveRunPhase = .frozenSecurity ↔ p.runPhase = .frozenSecurity := by
  unfold deriveRunPhase
  split
  · rename_i frozen
    simp [frozen]
  · rename_i other
    simp only [other, iff_false]
    split
    · simp
    · split <;> simp

def Projection.Derived (p : Projection) : Prop := p.runPhase = p.deriveRunPhase

theorem Projection.derived_set (p : Projection) : Projection.Derived { p with runPhase := p.deriveRunPhase } := by
  have frozen := deriveRunPhase_frozen p
  show p.deriveRunPhase = deriveRunPhase { p with runPhase := p.deriveRunPhase }
  by_cases held : p.runPhase = .frozenSecurity
  · rw [frozen.mpr held, deriveRunPhase, if_pos rfl]
  · have free := mt frozen.mp held
    conv_rhs => rw [deriveRunPhase, if_neg free]
    conv_lhs => rw [deriveRunPhase, if_neg held]
    rfl

def Delta.target : Delta → Option RunPhase
  | .runPhase delta => some delta.toPhase
  | _ => none

theorem Applied.derived {event : Event} {delta : Delta} (applied : Applied p event delta q) (derived : p.Derived) :
    q.Derived ∧ (q.runPhase = .frozenSecurity ↔ delta.target.getD p.runPhase = .frozenSecurity) := by
  cases applied with
  | taskPhase => exact ⟨derived_set _, deriveRunPhase_frozen _⟩
  | runPhase valid moved =>
    rw [← moved]
    unfold validateRunTransition at valid
    obtain ⟨_, valid⟩ := require_bind_ok valid
    unfold applyRunPhase
    rcases require_ok valid with ⟨frozen, here⟩ | lifted
    · rw [if_neg (by rintro ⟨_, active⟩; cases frozen.symm.trans active)]
      refine ⟨?_, Iff.rfl⟩
      simp [Projection.Derived, deriveRunPhase, frozen]
    · rw [if_pos lifted]
      exact ⟨derived_set _, deriveRunPhase_frozen _⟩
  | gateRegister _ _ phase =>
    subst phase
    split
    · rename_i frozen
      refine ⟨?_, Iff.rfl⟩
      simp [Projection.Derived, deriveRunPhase, frozen]
    · exact ⟨derived_set _, deriveRunPhase_frozen _⟩
  | gateWake => exact ⟨derived_set _, deriveRunPhase_frozen _⟩
  | _ => exact ⟨derived, Iff.rfl⟩

abbrev TaskState.Unfinished (task : TaskState) : Prop := task.phase ≠ .accepted ∧ task.phase ≠ .failed

/-- Some task is unfinished, and every unfinished task is deferred behind a pending gate. -/
def Projection.Waits (p : Projection) : Prop :=
  (∃ task ∈ p.tasks, task.Unfinished) ∧ ∀ task ∈ p.tasks, task.Unfinished → task.phase = .deferred ∧
    ∃ gate ∈ p.gates, gate.taskID = task.taskID ∧ gate.state = some .pending

theorem Projection.Derived.quiescent (derived : p.Derived) (free : p.runPhase ≠ .frozenSecurity) :
    p.runPhase = .quiescent ↔ p.Waits := by
  have pending : ∀ taskID, p.hasPendingGate taskID = true ↔
      ∃ gate ∈ p.gates, gate.taskID = taskID ∧ gate.state = some .pending := by
    simp [hasPendingGate]
  rw [derived, deriveRunPhase, if_neg free, Projection.Waits]
  simp only [← pending]
  by_cases busy : (p.tasks.filter fun task => task.phase ≠ .accepted ∧ task.phase ≠ .failed).any
      (fun task => task.phase ≠ .deferred || !p.hasPendingGate task.taskID) = true
  · rw [if_pos busy]
    simp only [reduceCtorEq, false_iff]
    rintro ⟨_, waiting⟩
    obtain ⟨task, member, moving⟩ := any_eq_true.mp busy
    obtain ⟨listed, unfinished⟩ := mem_filter.mp member
    obtain ⟨deferred, gated⟩ := waiting task listed (of_decide_eq_true unfinished)
    simp [deferred, gated] at moving
  · rw [if_neg busy]
    by_cases none : (p.tasks.filter fun task => task.phase ≠ .accepted ∧ task.phase ≠ .failed).isEmpty = true
    · rw [if_pos none]
      simp only [reduceCtorEq, false_iff]
      rintro ⟨⟨task, member, unfinished⟩, _⟩
      rw [List.isEmpty_iff, List.filter_eq_nil_iff] at none
      exact none task member (decide_eq_true unfinished)
    · rw [if_neg none]
      obtain ⟨some, member⟩ := exists_mem_of_ne_nil _ (mt isEmpty_iff.mpr none)
      obtain ⟨listed, unfinished⟩ := mem_filter.mp member
      refine ⟨fun _ => ⟨⟨some, listed, of_decide_eq_true unfinished⟩, fun task member unfinished => ?_⟩, fun _ => rfl⟩
      have still := any_eq_false.mp (Bool.not_eq_true _ ▸ busy) task
        (mem_filter.mpr ⟨member, decide_eq_true unfinished⟩)
      simpa using still

theorem Projection.waits_sorted (p : Projection) : p.sorted.Waits ↔ p.Waits := by
  simp only [Projection.Waits, sorted, mem_insertionSort]

theorem Applied.frozen {event : Event} {delta : Delta} {now : Time}
    (frozen : p.runPhase = .frozenSecurity) (valid : delta.validate p now = .ok ())
    (applied : Applied p event delta q) :
    q.tasks = p.tasks ∧ (∀ gate ∈ q.gates, gate ∈ p.gates ∨ gate.state = some .pending) ∧
      (q.runPhase ≠ .frozenSecurity → q.gates = p.gates) := by
  cases applied with
  | taskPhase => exact absurd frozen (require_bind_ok valid).1
  | gateWake => exact absurd frozen (require_bind_ok valid).1
  | gateRegister pending _ phase =>
    rw [if_pos frozen] at phase
    refine ⟨rfl, fun gate member => ?_, fun thawed => absurd (phase.trans frozen) thawed⟩
    rcases mem_append.mp member with old | added
    · exact .inl old
    · exact .inr (by rw [mem_singleton.mp added, pending])
  | _ => exact ⟨rfl, fun _ member => .inl member, fun _ => rfl⟩

end phases

variable [sha : Sha]

def lastTarget (accepted : List Commitment) : Option RunPhase :=
  (accepted.filterMap fun c => match c.call with
    | .transitionRun request => some request.toPhase
    | _ => none).getLast?

theorem lastTarget_snoc {s : Service} {spec : OperationSpec} {c : Commitment} (h : s.spec c.call = .ok spec)
    (before : List Commitment) : lastTarget (before ++ [c]) = spec.delta.target.or (lastTarget before) := by
  unfold lastTarget
  rw [filterMap_append]
  have asks := (spec_call h).2.2
  cases called : c.call <;> cases delta : spec.delta <;> rw [called, delta] at asks <;>
    first | exact asks.elim | simp [called, Delta.target]
  cases asks
  rfl

structure Phased (p : Projection) (accepted : List Commitment) : Prop where
  ready : Ready p
  derived : p.Derived
  frozen : p.runPhase = .frozenSecurity ↔ lastTarget accepted = some .frozenSecurity

theorem Phased.advances {svc : Nat → Service} {careful : Call → Projection → Prop} {scope : RunScope} {n m : Nat}
    {p q : Projection} {before after : List Commitment} (phased : Phased p before)
    (moves : Advances svc careful scope n m p before q after) : Phased q after := by
  cases moves with
  | heads a b => exact ⟨⟨phased.ready.tasks, phased.ready.gates, phased.ready.states⟩, phased.derived, phased.frozen⟩
  | @wrote _ _ _ entry authors _ taken =>
    obtain ⟨applied, apply, rfl⟩ := authors.written.replay_ok taken
    obtain ⟨ready, _⟩ := apply.ready ((phased.ready.moved _).moved _)
    have moved : Projection.Derived ((p.moved entry.reservation).moved entry.outcome) := phased.derived
    obtain ⟨derived, target⟩ := apply.derived moved
    refine ⟨⟨ready.tasks, ready.gates, ready.states⟩, derived, target.trans ?_⟩
    rw [lastTarget_snoc authors.submitted]
    cases _ : Delta.target _ with
    | none => exact phased.frozen
    | some phase => simp

/-- A run is frozen from an accepted freeze to its lifting, and otherwise quiescent exactly when it waits. A step out
of a frozen run moves no task and resolves no gate; when it lifts the freeze, the phase is the one that the tasks and
gates of that moment imply. -/
theorem run_phase_derived {svc : Nat → Service} {careful : Call → Projection → Prop} {installationID : String}
    {sys : System} (reachable : Reachable svc careful installationID sys) {s : Service} {scope : RunScope}
    {p : Projection} {here : RunCursor} (read : s.rebuild sys.store scope = .ok (p, here)) :
    (p.runPhase = .frozenSecurity ↔ lastTarget (sys.accepted scope) = some .frozenSecurity) ∧
    (p.runPhase ≠ .frozenSecurity → (p.runPhase = .quiescent ↔ p.Waits)) ∧
    ∀ label next q there, Careful careful sys label → sys.step svc label = some next →
      s.rebuild next.store scope = .ok (q, there) → p.runPhase = .frozenSecurity →
      q.tasks = p.tasks ∧ (∀ gate ∈ q.gates, gate ∈ p.gates ∨ gate.state = some .pending) ∧
      (q.runPhase ≠ .frozenSecurity → q.gates = p.gates ∧ (q.runPhase = .quiescent ↔ p.Waits)) := by
  obtain ⟨log, sound, always⟩ := reachable.always (F := fun _ _ p accepted => Phased p accepted)
    (fun _ => ⟨⟨nodup_nil, nodup_nil, fun _ m => nomatch m⟩, rfl, by simp [lastTarget]⟩)
    (fun _ _ _ _ _ _ _ _ phased moves => phased.advances moves)
  obtain ⟨home, u, replayed, rfl⟩ := sound.rebuilt read
  have phased : Phased u (sys.accepted scope) := by
    rw [home] at replayed ⊢
    exact always _ u replayed
  refine ⟨phased.frozen, fun free => (phased.derived.quiescent free).trans u.waits_sorted.symm, ?_⟩
  intro label next q there allowed stepped after frozen
  obtain ⟨later, still, _, back⟩ := sound.advances allowed stepped
  obtain ⟨_, v, replayed', rfl⟩ := still.rebuilt after
  obtain ⟨w, earlier, moves⟩ := back scope.controlRunID v (home ▸ replayed')
  rw [← home] at earlier moves
  cases earlier.symm.trans replayed
  have advanced := phased.advances moves
  suffices kept : v.tasks = u.tasks ∧ (∀ gate ∈ v.gates, gate ∈ u.gates ∨ gate.state = some .pending) ∧
      (v.runPhase ≠ .frozenSecurity → v.gates = u.gates) by
    obtain ⟨tasks, gates, same⟩ := kept
    refine ⟨by simp only [sorted, tasks], ?_, fun free => ⟨by simp only [sorted, same free], ?_⟩⟩
    · simpa only [sorted, mem_insertionSort] using gates
    · rw [u.waits_sorted]
      refine (advanced.derived.quiescent free).trans ?_
      rw [Projection.Waits, tasks, same free]
      rfl
  generalize next.accepted scope = accepted at moves
  cases moves with
  | heads => exact ⟨rfl, fun gate listed => .inl listed, fun _ => rfl⟩
  | @wrote _ _ _ entry authors _ taken =>
    obtain ⟨applied, apply, rfl⟩ := authors.written.replay_ok taken
    have valid := authors.valid
    rw [phased.ready.validate_sorted] at valid
    have still : ((u.moved entry.reservation).moved entry.outcome).runPhase = .frozenSecurity := frozen
    have kept := apply.frozen still valid
    exact kept

end accepted

attribute [local instance] Sha.sampleHex

theorem run_phase_derived_deferral : ∃ sys p cursor, Reachable (fun _ => sample) (fun _ _ => True) "i" sys ∧
      sample.rebuild sys.store .sample = .ok (p, cursor) ∧ p.runPhase = .quiescent ∧ p.Waits := by
  obtain ⟨sys, ran, ⟨p, cursor⟩, read, quiet⟩ : ∃ sys,
      System.run (fun _ => .sample) (fun _ _ => True) .sample deferral = some sys ∧
      ∃ view, sample.rebuild sys.store .sample = .ok view ∧ view.1.runPhase = .quiescent := by decide +kernel
  have reachable : Reachable _ (fun _ _ => True) "i" sys := System.sample_reachable.run ran
  obtain ⟨_, derived, _⟩ := run_phase_derived reachable read
  exact ⟨sys, p, cursor, reachable, read, quiet, (derived (by rw [quiet]; nofun)).mp quiet⟩

end Paje.Isolation
