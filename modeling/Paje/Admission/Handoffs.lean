import Mathlib.Data.List.Chain
import Mathlib.Data.List.Infix
import Paje.Admission.Replayable

/-!
Evidence handoffs: the committed steps of one handoff are a chain, each linked to the receipt of the
step before it.
-/

namespace Paje.Admission

open Text Journal List

variable {effect : Effect} {entry : Entry} {value : EvidenceHandoff} {log : List Entry} {plan : Plan}
  {p q : Projection} {s : Service} {installationID : String} {now occurredAt : Time}

def handoffOf : Document → Option EvidenceHandoff
  | .admissionOutcome outcome =>
    if outcome.component = component then
      match outcome.effect with
      | .handoff value => some value
      | _ => none
    else none
  | _ => none

def stepsOf (run id : String) (steps : List EvidenceHandoff) : List EvidenceHandoff :=
  steps.filter fun step => step.controlRunID = run ∧ step.id = id

/-- Issued, granted and acknowledged in this order, each at most once, each naming the receipt of the
step before it, all about one subject. -/
structure HandoffChain (steps : List EvidenceHandoff) : Prop where
  order : steps.map (·.state) <+: [.issued, .granted, .acknowledged]
  first : ∀ step ∈ steps.head?, step.predecessorReceiptID = ""
  linked : steps.IsChain fun one two =>
    two.predecessorReceiptID = one.receiptID ∧ two.subject = one.subject

theorem handoffChain_nil : HandoffChain [] := ⟨ nil_prefix, (fun _ m => nomatch m), .nil⟩

theorem order_next {states : List HandoffState} {last next : HandoffState}
    (order : states <+: [.issued, .granted, .acknowledged]) (at_end : states.getLast? = some last)
    (valid : validHandoffTransition last next = true) : states ++ [next] <+: [.issued, .granted, .acknowledged] := by
  have listed : states ∈ [[], [.issued], [.issued, .granted], [.issued, .granted, .acknowledged]] :=
    (mem_inits _ _).mpr order
  simp only [mem_cons, not_mem_nil, or_false] at listed
  rcases listed with rfl | rfl | rfl | rfl <;> cases at_end <;> cases next <;>
    first
    | exact absurd valid (by decide)
    | decide

variable {steps : List EvidenceHandoff}

theorem HandoffChain.snoc {last value : EvidenceHandoff}
    (chain : HandoffChain steps) (at_end : steps.getLast? = some last)
    (valid : validHandoffTransition last.state value.state = true)
    (link : value.predecessorReceiptID = last.receiptID) (subject : value.subject = last.subject) :
    HandoffChain (steps ++ [value]) where
  order := by
    rw [map_append]
    exact order_next chain.order (by rw [getLast?_map, at_end]; rfl) valid
  first step head := by
    refine chain.first step ?_
    cases steps with
    | nil => cases at_end
    | cons one rest => exact head
  linked := by
    refine isChain_append.mpr ⟨chain.linked, .singleton _, fun one held two head => ?_⟩
    cases head
    rw [at_end] at held
    cases held
    exact ⟨link, subject⟩

theorem HandoffChain.issue (issued : value.state = .issued)
    (first : value.predecessorReceiptID = "") : HandoffChain [value] where
  order := by
    rw [map_singleton, issued]
    decide
  first step head := by
    cases head
    exact first
  linked := .singleton _

section Commits

def handoffsOf (log : List Entry) : List EvidenceHandoff := log.filterMap fun entry => handoffOf entry.result

theorem handoffsOf_snoc (log : List Entry) (entry : Entry) :
    handoffsOf (log ++ [entry]) = handoffsOf log ++ (handoffOf entry.result).toList := by
  rw [handoffsOf, filterMap_append, handoffsOf]
  cases found : handoffOf entry.result <;> simp [found]

theorem scopedID_inj {run run' id id' : String} (plain : NulFree id) (plain' : NulFree id')
    (same : scopedID run id = scopedID run' id') : run = run' ∧ id = id' :=
  split_at_last_nul plain plain' same

def Latest (steps : List EvidenceHandoff) (p : Projection) : Prop :=
  ∀ run id, NulFree id → (p.handoffs.get? (scopedID run id) = none → stepsOf run id steps = []) ∧
    ∀ held ∈ p.handoffs.get? (scopedID run id), ∃ last, (stepsOf run id steps).getLast? = some last ∧
      last.state = held.state ∧ last.receiptID = held.receiptID ∧ last.subject = held.subject

theorem stepsOf_snoc (run id : String) (steps : List EvidenceHandoff) (value : EvidenceHandoff) :
    stepsOf run id (steps ++ [value]) = stepsOf run id steps ++
      if value.controlRunID = run ∧ value.id = id then [value] else [] := by
  rw [stepsOf, filter_append, stepsOf]
  congr 1
  by_cases mine : value.controlRunID = run ∧ value.id = id <;> simp [mine]

theorem Latest.put {sequence : Nat} (latest : Latest steps p) (plain : NulFree value.id) (stored : q.handoffs =
      p.handoffs.put (scopedID value.controlRunID value.id) { value with sequence }) :
    Latest (steps ++ [value]) q := by
  intro run id free
  rw [stored, stepsOf_snoc, Table.get?_put]
  by_cases mine : value.controlRunID = run ∧ value.id = id
  · obtain ⟨rfl, rfl⟩ := mine
    rw [if_pos rfl, if_pos ⟨rfl, rfl⟩]
    refine ⟨nofun, fun held found => ?_⟩
    cases found
    exact ⟨value, by simp, rfl, rfl, rfl⟩
  · have other : scopedID run id ≠ scopedID value.controlRunID value.id := fun same =>
      mine ((scopedID_inj plain free same.symm))
    rw [if_neg other, if_neg mine, append_nil]
    exact latest run id free

variable [sha : Sha]

def committedHandoffs (store : MemoryStore) : List EvidenceHandoff :=
  store.events.filterMap fun event =>
    if event.kind.isOutcome then
      match store.payload event.payloadDigest with
      | .ok document => handoffOf document
      | .error _ => none
    else none

theorem committedHandoffs_eq {store : MemoryStore} (holds : store.Holds log) :
    committedHandoffs store = handoffsOf log := by
  have formed := holds.wellFormed
  have result := holds.result
  rw [committedHandoffs, handoffsOf, holds.events]
  clear holds
  induction log with
  | nil => rfl
  | cons entry rest ih =>
    have mine := formed entry mem_cons_self
    have outcome : entry.outcome.kind.isOutcome = true := by
      rcases mine.kind with k | k | k <;> simp [k, EventKind.isOutcome]
    have reserved : entry.reservation.kind.isOutcome = false := by rw [mine.reservedKind]; rfl
    have split : eventsOf (entry :: rest) = entry.reservation :: entry.outcome :: eventsOf rest := rfl
    rw [split, filterMap_cons, filterMap_cons, filterMap_cons, reserved, outcome,
      result entry mem_cons_self, ih (fun e m => formed e (mem_cons_of_mem _ m))
        (fun e m => result e (mem_cons_of_mem _ m))]
    rfl

/-- What a committed step says of itself. -/
structure Genuine (value : EvidenceHandoff) : Prop where
  plain : NulFree value.id
  issued : Issued value.receiptID (scopedID value.controlRunID value.id)

structure HandsOver (p : Projection) (value : EvidenceHandoff) : Prop where
  genuine : Genuine value
  first : value.state = .issued → value.predecessorReceiptID = ""
  starts : p.handoffs.get? (scopedID value.controlRunID value.id) = none → value.state = .issued
  passes : ∀ prior ∈ p.handoffs.get? (scopedID value.controlRunID value.id),
    validHandoffTransition prior.state value.state = true ∧
      value.predecessorReceiptID = prior.receiptID ∧ value.subject = prior.subject

theorem Written.handoff (names : sha.Names) (written : Written s plan now occurredAt p (.handoff value) entry) :
    HandsOver p value ∧ value.controlRunID = plan.transition.controlRunID := by
  cases build_ok written.built with
  | handoff passes starts =>
    obtain ⟨id, receipt, first⟩ := validHandoff written.valid rfl
    obtain ⟨valid, stored⟩ := MemoryStore.validatePayload_ok written.formed.requestStored
    rw [← stored, written.request] at valid
    refine ⟨⟨⟨nulFree_stableID names (by decide) _, ?_⟩, first, starts, fun prior held => ?_⟩, rfl⟩
    · exact ⟨_, _, _, receipt, valid, congrArg (scopedID _) id⟩
    · obtain ⟨_, subject, receipt, follows⟩ := passes prior held
      exact ⟨follows, receipt.symm, subject.symm⟩

theorem Written.reports
    (written : Written s plan now occurredAt p (.handoff value) entry) : handoffOf entry.result = some value := by
  rw [written.result]
  simp [handoffOf, outcomeOf]

theorem Written.silent (written : Written s plan now occurredAt p effect entry)
    (quiet : ∀ value, effect ≠ .handoff value) : handoffOf entry.result = none := by
  rw [written.result]
  cases effect with
  | handoff value => exact absurd rfl (quiet value)
  | _ => simp [handoffOf, outcomeOf]

theorem Written.stores (written : Written s plan now occurredAt p (.handoff value) entry)
    (absorbed : p.absorb entry = .ok q) : ∃ sequence, q.handoffs =
      p.handoffs.put (scopedID plan.transition.controlRunID value.id) { value with sequence } := by
  obtain ⟨_, _, applied⟩ := written.applied absorbed
  cases applied
  exact ⟨_, rfl⟩

theorem Written.frames (written : Written s plan now occurredAt p effect entry)
    (quiet : ∀ value, effect ≠ .handoff value) (absorbed : p.absorb entry = .ok q) : q.handoffs = p.handoffs := by
  obtain ⟨_, _, applied⟩ := written.applied absorbed
  cases applied with
  | handoff => exact absurd rfl (quiet _)
  | _ => rfl

theorem HandsOver.extends (follows : HandsOver p value) (latest : Latest steps p)
    (chains : ∀ run id, HandoffChain (stepsOf run id steps)) (run id : String) :
    HandoffChain (stepsOf run id (steps ++ [value])) := by
  rw [stepsOf_snoc]
  split
  · rename_i mine
    obtain ⟨rfl, rfl⟩ := mine
    obtain ⟨none, some⟩ := latest value.controlRunID value.id follows.genuine.plain
    cases found : p.handoffs.get? (scopedID value.controlRunID value.id) with
    | none =>
      have issued := follows.starts found
      rw [none found]
      exact .issue issued (follows.first issued)
    | some prior =>
      obtain ⟨last, at_end, state, receipt, subject⟩ := some prior found
      obtain ⟨valid, link, same⟩ := follows.passes prior found
      exact (chains _ _).snoc at_end (state ▸ valid) (link.trans receipt.symm) (same.trans subject.symm)
  · rw [append_nil]
    exact chains run id

/-- What the steps of a log are, and what every replay of it holds. -/
structure Told (installationID : String) (log : List Entry) : Prop where
  chains : ∀ run id, HandoffChain (stepsOf run id (handoffsOf log))
  genuine : ∀ value ∈ handoffsOf log, Genuine value
  latest : ∀ p, replay installationID log = .ok p → Latest (handoffsOf log) p

theorem Told.quiet (told : Told installationID log) (quiet : handoffOf entry.result = none)
    (same : ∀ p q, replay installationID log = .ok p → p.absorb entry = .ok q → q.handoffs = p.handoffs) :
    Told installationID (log ++ [entry]) := by
  have steps : handoffsOf (log ++ [entry]) = handoffsOf log := by
    rw [handoffsOf_snoc, quiet]
    exact append_nil _
  refine ⟨steps ▸ told.chains, steps ▸ told.genuine, fun q replayed => ?_⟩
  obtain ⟨p, before, absorbed⟩ := EventLog.fold_snoc replayed
  rw [steps]
  intro run id plain
  rw [same p q before absorbed]
  exact told.latest p before run id plain

theorem Told.written (names : sha.Names) (told : Told installationID log) (before : replay installationID log = .ok p)
    (written : Written s plan now occurredAt p effect entry) : Told installationID (log ++ [entry]) := by
  have alone : ∀ {other : Projection}, replay installationID log = .ok other → other = p := by
    intro other replayed
    rw [before] at replayed
    exact (Except.ok.inj replayed).symm
  by_cases reports : ∃ value, effect = .handoff value
  · obtain ⟨value, rfl⟩ := reports
    obtain ⟨follows, run⟩ := written.handoff names
    have steps : handoffsOf (log ++ [entry]) = handoffsOf log ++ [value] := by
      rw [handoffsOf_snoc, written.reports]
      rfl
    refine ⟨fun run id => ?_, fun other member => ?_, fun q replayed => ?_⟩
    · rw [steps]
      exact follows.extends (told.latest p before) told.chains run id
    · rw [steps] at member
      rcases mem_append.mp member with old | new
      · exact told.genuine other old
      · cases mem_singleton.mp new
        exact follows.genuine
    · obtain ⟨other, same, absorbed⟩ := EventLog.fold_snoc replayed
      cases alone same
      obtain ⟨sequence, stored⟩ := written.stores absorbed
      rw [← run] at stored
      rw [steps]
      exact (told.latest p before).put follows.genuine.plain stored
  · have quiet : ∀ value, effect ≠ .handoff value := fun value same => reports ⟨value, same⟩
    refine told.quiet (written.silent quiet) fun other q same absorbed => ?_
    cases alone same
    exact written.frames quiet absorbed

theorem authored_told (names : sha.Names) {svc : Nat → Service} {careful : Plan → Projection → Time → Prop}
    (authored : Authored svc careful installationID log) : Told installationID log := by
  induction authored with
  | nil =>
    refine ⟨fun _ _ => handoffChain_nil, (fun _ m => nomatch m), fun p replayed run id plain => ?_⟩
    cases pure_ok replayed
    exact ⟨fun _ => rfl, fun _ none => nomatch none⟩
  | wrote _ before wrote ih =>
    obtain ⟨_, _, _, _, _, _, _, _, written⟩ := wrote
    exact ih.written names before written
  | @outside log entry _ outside ih =>
    refine ih.quiet ?_ fun p q _ absorbed => ?_
    · have foreign := outside.1
      unfold handoffOf
      split
      · rename_i outcome result
        rw [result] at foreign
        rw [if_neg (by simpa [admissionComponent] using foreign)]
      · rfl
    · rw [outside.absorbed absorbed]
      rfl

/-- In every run the committed steps of a handoff are a chain from its issue on, and a receipt
identifier belongs to one handoff. -/
theorem handoff_chain (separates : sha.Separates) (names : sha.Names) {svc : Nat → Service}
    {installationID : String} {sys : System} (reachable : Reachable svc (fun _ _ _ => True) installationID sys) :
    (∀ run id, HandoffChain (stepsOf run id (committedHandoffs sys.store))) ∧
    ∀ one ∈ committedHandoffs sys.store, ∀ two ∈ committedHandoffs sys.store,
      one.receiptID = two.receiptID → one.controlRunID = two.controlRunID ∧ one.id = two.id := by
  obtain ⟨log, sound⟩ := reachable_sound reachable
  have told := authored_told names sound.authored
  rw [committedHandoffs_eq sound.holds]
  refine ⟨told.chains, fun one held two held' same => ?_⟩
  have first := told.genuine one held
  have second := told.genuine two held'
  have owner := Issued.unique ⟨separates, names.apart⟩ first.issued (same ▸ second.issued)
  exact scopedID_inj first.plain second.plain owner

end Commits

/-! ### A handoff between two services -/

section Sample

variable [sha : Sha]

def EvidenceHandoffSubject.sample : EvidenceHandoffSubject where
  graphRevision := 1
  edgeID := "edge"
  producer := ⟨"producer", "make", "first", "job", 1⟩
  consumer := ⟨"consumer", "use", "second", "job", 1⟩
  evidenceDigest := "sha256:0000000000000000000000000000000000000000000000000000000000000000"

def HandoffRequest.sample (name predecessor : String) : HandoffRequest :=
  ⟨"run", .sample name 1, .sample, predecessor⟩

def lastReceipt (labels : List Label) : String :=
  match System.run (fun _ => .sample) (fun _ _ _ => True) .sample labels with
  | some sys => ((committedHandoffs sys.store).getLast?.map (·.receiptID)).getD ""
  | none => ""

def issueOne : List Label := Label.serve 0 0 (.issueHandoff (.sample "1" "")) 1

def grantOne : List Label :=
  issueOne ++ Label.serve 1 1 (.grantHandoff (.sample "2" (lastReceipt issueOne))) 1

def acknowledgeOne : List Label :=
  grantOne ++ Label.serve 2 0 (.acknowledgeHandoff (.sample "3" (lastReceipt grantOne))) 1

end Sample

@[reducible] def sampleSpelled : Sha := { Sha.sample with seedHex16 := Sha.spelled.seedHex16 }

def handoffDocuments : List Document :=
  let ran := @System.run sampleSpelled (fun _ => .sample) (fun _ _ _ => True) inferInstance .sample
    (@acknowledgeOne sampleSpelled)
  let payloads := (ran.map fun sys => sys.store.payloads.values).getD []
  let actions := (ran.map fun sys => sys.store.actions.values).getD []
  .admissionPolicy Service.sample.policy :: .admissionSubject (.evidenceHandoff .sample) ::
    .receiptReference (@lastReceipt sampleSpelled (@issueOne)) ::
    .receiptReference (@lastReceipt sampleSpelled (@grantOne sampleSpelled)) ::
    (payloads ++ actions.map .action)

@[reducible] def handoffHash : Sha :=
  { Sha.separating handoffDocuments with seedHex16 := Sha.spelled.seedHex16 }

theorem handoffHash_separates : handoffHash.Separates := by
  have apart : (handoffDocuments.map Sha.sample.documentHex).Nodup := by decide +kernel
  intro one two valid same
  exact Sha.separating_separates apart one two valid same

theorem handoffHash_names : handoffHash.Names := ⟨Sha.spelled_names.apart, Sha.spelled_names.plain⟩

attribute [local instance] handoffHash

theorem handoff_chain_acknowledged : handoffHash.Separates ∧ handoffHash.Names ∧ ∃ sys step,
    System.run (fun _ => .sample) (fun _ _ _ => True) .sample acknowledgeOne = some sys ∧
    step ∈ committedHandoffs sys.store ∧
    (stepsOf "run" step.id (committedHandoffs sys.store)).map (·.state) = [.issued, .granted, .acknowledged] ∧
    HandoffChain (stepsOf "run" step.id (committedHandoffs sys.store)) := by
  obtain ⟨sys, ran, step, member, states⟩ : ∃ sys,
      System.run (fun _ => .sample) (fun _ _ _ => True) .sample acknowledgeOne = some sys ∧
      ∃ step ∈ committedHandoffs sys.store, (stepsOf "run" step.id (committedHandoffs sys.store)).map (·.state) =
        [.issued, .granted, .acknowledged] := by decide +kernel
  have chain := (handoff_chain handoffHash_separates handoffHash_names
    (System.sample_reachable.run ran)).1 "run" step.id
  exact ⟨handoffHash_separates, handoffHash_names, sys, step, ran, member, states, chain⟩

end Paje.Admission
