import Paje.Isolation.Replay
import Paje.Lib.EventLog

/-!
Any number of isolation services, and other components, over one journal. Between the reads, the
checks and the commit of one call every other call may commit; the compare-and-swap on the run's
head lets through only the commits whose projection is still the run's own.
-/

namespace Paje.Isolation

open Text Journal List MemoryStore System

variable {store : MemoryStore}

theorem check_ok [Sha] {spec : OperationSpec} {p : Projection} {now : Time}
    {exactReplay : Bool} (h : spec.check store p now = .ok exactReplay) :
    if exactReplay then store.actions.get? spec.action.id ≠ none
    else p.revision = spec.expectedRevision ∧ spec.delta.validate p now = .ok () := by
  unfold OperationSpec.check at h
  cases reserved : store.reservation spec.scope.controlRunID spec.action.id with
  | ok existing =>
    simp only [reserved] at h
    obtain ⟨same, h⟩ := require_bind_ok h
    cases pure_ok h
    subst same
    have held := (reservation_ok reserved rfl).2.stored
    simp [held]
  | error e =>
    simp only [reserved] at h
    split at h
    · cases ‹Except.error e = Except.ok _›
    · obtain ⟨revision, h⟩ := require_bind_ok h
      obtain ⟨_, valid, h⟩ := bind_ok h
      cases pure_ok h
      exact ⟨revision, valid⟩
    · cases h

variable [sha : Sha]
variable {scope : RunScope}

structure View where
  projection : Projection
  run : RunCursor

structure CommitResult where
  projection : Projection
  receipt : CommitReceipt

/-- Where a call stands in the loop of `commit`. -/
inductive Phase where
  | begun (spec : OperationSpec)
  | rebuilt (spec : OperationSpec) (view : View)
  | located (spec : OperationSpec) (view : View) (journal : GlobalCursor)
  /-- Checked at the clock reading `now`. -/
  | checked (spec : OperationSpec) (view : View) (journal : GlobalCursor) (now : Time)
    (exactReplay : Bool)
  | committed (spec : OperationSpec) (receipt : CommitReceipt)
  | done (result : Except Error CommitResult)

structure Flight where
  service : Nat
  call : Call
  phase : Phase

structure Commitment where
  service : Nat
  call : Call
  now : Time
  receipt : CommitReceipt

/-- The journal and the calls in flight. `history` is ghost state: no call reads it. -/
structure System where
  store : MemoryStore
  flights : Nat → Option Flight := fun _ => none
  history : List Commitment := []

inductive Label where
  | submit (flight service : Nat) (call : Call)
  | advance (flight : Nat) (now : Time)
  | foreign (request : CommitRequest)

def ForeignCommit (request : CommitRequest) : Prop :=
  beginsWith isolationActionStart request.action.id = false

instance (request : CommitRequest) : Decidable (ForeignCommit request) :=
  inferInstanceAs (Decidable (_ = _))

def Call.submitted (s : Service) (call : Call) : Phase :=
  match s.spec call with
  | .ok spec => .begun spec
  | .error e => .done (.error e)

/-- One read, check or write of a call; a call that returned takes no more steps. -/
def Phase.next (s : Service) (store : MemoryStore) (now : Time) : Phase → Option (Phase × MemoryStore)
  | .begun spec =>
    match s.rebuild store spec.scope with
    | .ok (projection, run) => some (.rebuilt spec ⟨projection, run⟩, store)
    | .error e => some (.done (.error e), store)
  | .rebuilt spec view =>
    match s.globalCursor store with
    | .ok journal => some (.located spec view journal, store)
    | .error e => some (.done (.error e), store)
  | .located spec view journal =>
    match spec.check store view.projection now with
    | .ok exactReplay => some (.checked spec view journal now exactReplay, store)
    | .error e => some (.done (.error e), store)
  | .checked spec view journal _ exactReplay =>
    match store.commit (spec.commitRequest view.run journal) with
    | .ok (receipt, after) => some (.committed spec receipt, after)
    | .error e =>
      -- a lost race starts over
      if e = .conflict ∧ exactReplay = false then some (.begun spec, store)
      else some (.done (.error (.journal e)), store)
  | .committed spec receipt =>
    match s.rebuild store spec.scope with
    | .ok (projection, _) => some (.done (.ok ⟨projection, receipt⟩), store)
    | .error e => some (.done (.error e), store)
  | .done _ => none

def Flight.commitment (flight : Flight) (next : Phase) : List Commitment :=
  match flight.phase, next with
  | .checked _ _ _ now _, .committed _ receipt =>
    if receipt.created then [⟨flight.service, flight.call, now, receipt⟩] else []
  | _, _ => []

namespace System

def setFlight (sys : System) (k : Nat) (flight : Flight) : System :=
  { sys with flights := Function.update sys.flights k (some flight) }

variable (svc : Nat → Service)

def step (sys : System) : Label → Option System
  | .submit k i call =>
    match sys.flights k with
    | some _ => none
    | none => some (sys.setFlight k ⟨i, call, call.submitted (svc i)⟩)
  | .advance k now =>
    match sys.flights k with
    | none => none
    | some flight =>
      (flight.phase.next (svc flight.service) sys.store now).map fun (next, store) =>
        { sys with store, history := sys.history ++ flight.commitment next }.setFlight k
          { flight with phase := next }
  | .foreign request =>
    if ForeignCommit request then
      match sys.store.commit request with
      | .ok (_, store) => some { sys with store }
      | .error _ => none
    else none

end System

/-- `careful` admits the commit that a label tries, judged on the projection that the call holds. A
commit that the run has outgrown, or that was done before, writes nothing and is not judged. -/
def Careful (careful : Call → Projection → Prop) (sys : System) : Label → Prop
  | .advance k _ =>
    match sys.flights k with
    | some ⟨_, call, .checked spec view _ _ false⟩ =>
      view.run.runSequence = (sys.store.runOf spec.scope.controlRunID).length → careful call view.projection
    | _ => True
  | _ => True

/-- The systems that runs reach from an empty journal, where every commit is `careful`. -/
inductive Reachable (svc : Nat → Service) (careful : Call → Projection → Prop)
    (installationID : String) : System → Prop
  | new {store : MemoryStore} : newMemoryStore installationID = .ok store →
    Reachable svc careful installationID { store }
  | step {sys next : System} {label : Label} : Reachable svc careful installationID sys →
    Careful careful sys label → sys.step svc label = some next →
    Reachable svc careful installationID next

/-- `call` of the service `s` committed `entry` over `p`. -/
structure Authors (s : Service) (call : Call) (spec : OperationSpec) (now : Time) (p : Projection)
    (entry : Entry) : Prop where
  submitted : s.spec call = .ok spec
  revision : p.revision = spec.expectedRevision
  valid : spec.delta.validate p.sorted now = .ok ()
  written : Written spec entry

def Wrote (svc : Nat → Service) (careful : Call → Projection → Prop) (scope : RunScope)
    (history : List Commitment) (p : Projection) (entry : Entry) : Prop :=
  ∃ c ∈ history, ∃ spec, Authors (svc c.service) c.call spec c.now p entry ∧ spec.scope = scope ∧
    careful c.call p.sorted

def Outside (entry : Entry) : Prop :=
  entry.WellFormed ∧ beginsWith isolationActionStart entry.action.id = false

abbrev Authored (svc : Nat → Service) (careful : Call → Projection → Prop) (scope : RunScope)
    (history : List Commitment) (entries : List Entry) : Prop :=
  EventLog.Authored (Entry.replay applyEvent) { scope } (Wrote svc careful scope history) Outside
    entries

/-- `view` is what a reader of the run had after a prefix of its entries. -/
def ViewOfPrefix (store : MemoryStore) (log : List Entry) (scope : RunScope) (view : View) : Prop :=
  ∃ front back p, runLog log scope.controlRunID = front ++ back ∧ replay scope front = .ok p ∧
    view = ⟨p.sorted, store.runCursorAt scope.controlRunID (2 * front.length)⟩

/-- A call in flight passed its checks on the input, holds the view of a prefix of its run, and tries
to commit only what passed the checks on that view or was committed before. -/
def Flight.Sound (svc : Nat → Service) (store : MemoryStore) (log : List Entry) (flight : Flight) : Prop :=
  match flight.phase with
  | .begun spec | .committed spec _ => (svc flight.service).spec flight.call = .ok spec
  | .rebuilt spec view | .located spec view _ => (svc flight.service).spec flight.call = .ok spec ∧
    spec.scope.installationID = store.installationID ∧ ViewOfPrefix store log spec.scope view
  | .checked spec view _ now exactReplay => (svc flight.service).spec flight.call = .ok spec ∧
    spec.scope.installationID = store.installationID ∧ ViewOfPrefix store log spec.scope view ∧
    if exactReplay then store.actions.get? spec.action.id ≠ none
    else view.projection.revision = spec.expectedRevision ∧ spec.delta.validate view.projection now = .ok ()
  | .done _ => True

structure Sound (svc : Nat → Service) (careful : Call → Projection → Prop) (installationID : String)
    (sys : System) (log : List Entry) : Prop where
  installation : sys.store.installationID = installationID
  holds : sys.store.Holds log
  authored : ∀ run, Authored svc careful ⟨installationID, run⟩ sys.history (runLog log run)
  flights : ∀ k flight, sys.flights k = some flight → flight.Sound svc sys.store log

/-- What a step adds to the journal and to the history: nothing, an entry of another component, or what a call wrote. -/
inductive Adds (svc : Nat → Service) (careful : Call → Projection → Prop) (installationID : String)
    (log : List Entry) (store : MemoryStore) (before : List Commitment) :
    MemoryStore → Option Entry → List Commitment → Prop
  | nothing : Adds svc careful installationID log store before store none before
  | outside {request : CommitRequest} (accepted : store.Accepted request) (outside : Outside (store.entryOf request)) :
      Adds svc careful installationID log store before (store.committed request) (some (store.entryOf request)) before
  | wrote {request : CommitRequest} {c : Commitment} {spec : OperationSpec} {p : Projection}
      (accepted : store.Accepted request) (receipt : c.receipt = store.receiptOf request)
      (asked : request = spec.commitRequest request.expectedRun request.expectedGlobal)
      (replayed : replay spec.scope (runLog log spec.scope.controlRunID) = .ok p)
      (authors : Authors (svc c.service) c.call spec c.now p (store.entryOf request))
      (here : spec.scope = ⟨installationID, spec.scope.controlRunID⟩) (admitted : careful c.call p.sorted) :
      Adds svc careful installationID log store before (store.committed request) (some (store.entryOf request))
        (before ++ [c])

section Steps

variable {svc : Nat → Service} {careful : Call → Projection → Prop} {installationID : String}
  {sys next : System} {log : List Entry}

variable {view : View}

theorem ViewOfPrefix.extend {after : MemoryStore}
    (same : after.installationID = store.installationID) (h : ViewOfPrefix store log scope view)
    (entry : Entry) : ViewOfPrefix after (log ++ [entry]) scope view := by
  obtain ⟨front, back, p, whole, prior, rfl⟩ := h
  rw [ViewOfPrefix, runLog_snoc, runCursorAt, ← same]
  split
  · exact ⟨front, back ++ [entry], p, by rw [whole, append_assoc], prior, rfl⟩
  · exact ⟨front, back, p, whole, prior, rfl⟩

variable {request : CommitRequest}

theorem Flight.Sound.extend {flight : Flight} (h : flight.Sound svc store log) :
    flight.Sound svc (store.committed request) (log ++ [store.entryOf request]) := by
  obtain ⟨i, call, phase⟩ := flight
  cases phase with
  | begun spec => exact h
  | committed spec receipt => exact h
  | done result => trivial
  | rebuilt spec view => exact ⟨h.1, h.2.1, h.2.2.extend rfl _⟩
  | located spec view journal => exact ⟨h.1, h.2.1, h.2.2.extend rfl _⟩
  | checked spec view journal now exactReplay =>
    obtain ⟨submitted, here, held, passed⟩ := h
    refine ⟨submitted, here, held.extend rfl _, ?_⟩
    cases exactReplay with
    | false => exact passed
    | true =>
      -- reserved actions stay reserved
      simp only [if_true] at passed ⊢
      simp only [committed, Table.get?_put]
      split
      · exact Option.some_ne_none _
      · exact passed

theorem Sound.setFlight (sound : Sound svc careful installationID sys log) (k : Nat) (flight : Flight)
    (held : flight.Sound svc sys.store log) : Sound svc careful installationID (sys.setFlight k flight) log :=
  { sound with
    flights := fun k' other found => by
      simp only [System.setFlight, Function.update_apply] at found
      split at found
      · cases found
        exact held
      · exact sound.flights k' other found }

theorem Authored.extend {history : List Commitment} {entries : List Entry}
    (authored : Authored svc careful scope history entries) (more : List Commitment) :
    Authored svc careful scope (history ++ more) entries :=
  EventLog.Authored.mono authored fun _ _ ⟨c, member, wrote⟩ => ⟨c, mem_append_left _ member, wrote⟩

theorem Sound.extend (sound : Sound svc careful installationID sys log)
    {more : List Commitment} (accepted : sys.store.Accepted request)
    (authored : Authored svc careful ⟨installationID, request.action.controlRunID⟩
      (sys.history ++ more) (runLog log request.action.controlRunID ++ [sys.store.entryOf request])) :
    Sound svc careful installationID
      { sys with store := sys.store.committed request, history := sys.history ++ more }
      (log ++ [sys.store.entryOf request]) where
  installation := sound.installation
  holds := sound.holds.committed accepted
  authored run := by
    rw [runLog_snoc]
    split
    · rename_i mine
      subst mine
      exact authored
    · exact (sound.authored run).extend more
  flights k flight found := (sound.flights k flight found).extend

theorem Call.submitted_sound {call : Call} (i : Nat) (store : MemoryStore) :
    Flight.Sound svc store log ⟨i, call, call.submitted (svc i)⟩ := by
  unfold Call.submitted
  cases submitted : (svc i).spec call with
  | error e => trivial
  | ok spec => exact submitted

theorem Sound.rebuild_ok (sound : Sound svc careful installationID sys log) {s : Service}
    {p : Projection} {run : RunCursor} (read : s.rebuild sys.store scope = .ok (p, run)) :
    scope.installationID = sys.store.installationID ∧ ViewOfPrefix sys.store log scope ⟨p, run⟩ := by
  obtain ⟨valid, here⟩ := Service.rebuild_installation read
  refine ⟨valid.2.2.trans here, ?_⟩
  rw [Service.rebuild_eq sound.holds valid here] at read
  obtain ⟨q, replayed, same⟩ := bind_ok read
  cases same
  exact ⟨_, [], q, (append_nil _).symm, replayed, by rw [sound.holds.runLength]⟩

theorem ViewOfPrefix.current (holds : store.Holds log) (h : ViewOfPrefix store log scope view)
    (head : view.run.runSequence = (store.runOf scope.controlRunID).length) :
    ∃ p, replay scope (runLog log scope.controlRunID) = .ok p ∧ view.projection = p.sorted := by
  obtain ⟨front, back, p, whole, prior, rfl⟩ := h
  have length : 2 * front.length = (store.runOf scope.controlRunID).length := head
  rw [holds.runLength, whole, length_append] at length
  have nothing : back = [] := eq_nil_of_length_eq_zero (by omega)
  exact ⟨p, by rw [whole, nothing, append_nil, prior], rfl⟩

theorem Sound.commit (sound : Sound svc careful installationID sys log) {i : Nat} {call : Call}
    {spec : OperationSpec} {journal : GlobalCursor} {now : Time} {exactReplay : Bool}
    (held : Flight.Sound svc sys.store log ⟨i, call, .checked spec view journal now exactReplay⟩)
    (accepted : sys.store.Accepted (spec.commitRequest view.run journal)) (allowed : exactReplay = false →
      view.run.runSequence = (sys.store.runOf spec.scope.controlRunID).length →
      careful call view.projection) :
    let history := sys.history ++ [⟨i, call, now, sys.store.receiptOf (spec.commitRequest view.run journal)⟩]
    let entry := sys.store.entryOf (spec.commitRequest view.run journal)
    Sound svc careful installationID
      { sys with store := sys.store.committed (spec.commitRequest view.run journal), history } (log ++ [entry]) ∧
      Adds svc careful installationID log sys.store sys.history
        (sys.store.committed (spec.commitRequest view.run journal)) (some entry) history := by
  obtain ⟨submitted, here, seen, passed⟩ := held
  cases exactReplay with
  | true =>
    -- the action was reserved when the call looked, so this commit creates nothing
    exact absurd accepted.unused passed
  | false =>
    obtain ⟨revision, valid⟩ := passed
    obtain ⟨p, replayed, same⟩ := seen.current sound.holds accepted.runHead
    have scope : spec.scope = ⟨installationID, spec.scope.controlRunID⟩ := by
      rw [← sound.installation, ← here]
    have written : Written spec (sys.store.entryOf (spec.commitRequest view.run journal)) :=
      ⟨accepted.wellFormed, rfl, rfl, rfl, rfl⟩
    have admitted := allowed rfl accepted.runHead
    rw [same] at revision valid admitted
    have authors : Authors (svc i) call spec now p _ := ⟨submitted, revision, valid, written⟩
    refine ⟨?_, .wrote accepted rfl rfl replayed authors scope admitted⟩
    rw [scope] at replayed
    exact sound.extend accepted (.wrote ((sound.authored _).extend _) replayed
      ⟨_, mem_append_right _ (mem_singleton_self _), spec, authors, scope, admitted⟩)

theorem Sound.step (sound : Sound svc careful installationID sys log) {label : Label}
    (allowed : Careful careful sys label) (stepped : sys.step svc label = some next) :
    ∃ more : Option Entry, Sound svc careful installationID next (log ++ more.toList) ∧
      Adds svc careful installationID log sys.store sys.history next.store more next.history := by
  have keep : ∀ {sys' : System}, Sound svc careful installationID sys' log → sys'.store = sys.store →
      sys'.history = sys.history → ∃ more : Option Entry, Sound svc careful installationID sys' (log ++ more.toList) ∧
        Adds svc careful installationID log sys.store sys.history sys'.store more sys'.history :=
    fun s stored same => ⟨none, by rwa [Option.toList_none, append_nil], stored ▸ same ▸ .nothing⟩
  cases label with
  | submit k i call =>
    simp only [System.step] at stepped
    split at stepped
    · cases stepped
    · cases stepped
      exact keep (sound.setFlight k _ (Call.submitted_sound i sys.store)) rfl rfl
  | advance k now =>
    simp only [System.step] at stepped
    split at stepped
    · cases stepped
    · rename_i flight found
      obtain ⟨i, call, phase⟩ := flight
      have held := sound.flights k _ found
      simp only [Careful, found] at allowed
      obtain ⟨⟨phase', after⟩, moved, rfl⟩ := Option.map_eq_some_iff.mp stepped
      have quiet : ∀ {flight : Flight} {history : List Commitment}, history = [] → flight.Sound svc sys.store log →
          let next := { sys with store := sys.store, history := sys.history ++ history }.setFlight k flight
          ∃ more : Option Entry, Sound svc careful installationID next (log ++ more.toList) ∧
            Adds svc careful installationID log sys.store sys.history next.store more next.history := by
        rintro flight history rfl held
        rw [append_nil]
        exact keep (sound.setFlight k flight held) rfl rfl
      cases phase with
      | begun spec =>
        simp only [Phase.next] at moved
        split at moved
        · rename_i p run read
          cases moved
          exact quiet rfl ⟨held, sound.rebuild_ok read⟩
        · cases moved
          exact quiet rfl trivial
      | rebuilt spec view =>
        simp only [Phase.next] at moved
        split at moved
        · cases moved
          exact quiet rfl held
        · cases moved
          exact quiet rfl trivial
      | located spec view journal =>
        simp only [Phase.next] at moved
        split at moved
        · rename_i exactReplay checked
          cases moved
          exact quiet rfl ⟨held.1, held.2.1, held.2.2, check_ok checked⟩
        · cases moved
          exact quiet rfl trivial
      | checked spec view journal checkedAt exactReplay =>
        simp only [Phase.next] at moved
        split at moved
        · rename_i receipt stored committed
          cases moved
          rcases commit_ok committed with ⟨rfl, _, _, rfl⟩ | ⟨accepted, rfl, rfl⟩
          · exact quiet rfl held.1
          · obtain ⟨extended, adds⟩ := sound.commit held accepted (fun fresh => by subst fresh; exact allowed)
            exact ⟨some _, extended.setFlight k _ held.1, adds⟩
        · split at moved
          · cases moved
            exact quiet rfl held.1
          · cases moved
            exact quiet rfl trivial
      | committed spec receipt =>
        simp only [Phase.next] at moved
        split at moved
        · cases moved
          exact quiet rfl trivial
        · cases moved
          exact quiet rfl trivial
      | done result => cases moved
  | «foreign» request =>
    simp only [System.step] at stepped
    split at stepped
    · rename_i foreign
      split at stepped
      · rename_i receipt after committed
        cases stepped
        rcases commit_ok committed with ⟨rfl, _⟩ | ⟨accepted, _, rfl⟩
        · exact keep sound rfl rfl
        · have outside : Outside (sys.store.entryOf request) := ⟨accepted.wellFormed, foreign⟩
          have extended := sound.extend accepted (.outside ((sound.authored _).extend []) outside)
          rw [append_nil] at extended
          exact ⟨some _, extended, .outside accepted outside⟩
      · cases stepped
    · cases stepped

theorem reachable_sound (reachable : Reachable svc careful installationID sys) :
    ∃ log, Sound svc careful installationID sys log := by
  induction reachable with
  | new created =>
    obtain ⟨rfl, _⟩ := newMemoryStore_ok created
    exact ⟨[], rfl, holds_new _, fun _ => .nil, (fun _ _ m => nomatch m)⟩
  | step _ allowed stepped ih =>
    obtain ⟨log, sound⟩ := ih
    obtain ⟨more, next, _⟩ := sound.step allowed stepped
    exact ⟨log ++ more.toList, next⟩

end Steps

section Running

variable (svc : Nat → Service) (careful : Call → Projection → Prop)
  [∀ call p, Decidable (careful call p)]

instance (sys : System) (label : Label) : Decidable (Careful careful sys label) := by
  unfold Careful
  split
  · split <;> infer_instance
  · infer_instance

def System.run (sys : System) (labels : List Label) : Option System :=
  labels.foldlM (fun sys label => if Careful careful sys label then sys.step svc label else none) sys

def Label.serve (flight : Nat) (call : Call) (now : Time) : List Label :=
  .submit flight 0 call :: List.replicate 4 (.advance flight now)

variable {svc careful}

theorem Reachable.run {installationID : String} {sys next : System} {labels : List Label}
    (reachable : Reachable svc careful installationID sys)
    (ran : sys.run svc careful labels = some next) : Reachable svc careful installationID next := by
  refine foldlM_some (Reachable svc careful installationID) (fun _ _ _ reached stepped => ?_) reachable ran
  split at stepped
  · rename_i allowed
    exact .step reached allowed stepped
  · cases stepped

end Running

def Service.sample : Service := ⟨"i", by decide⟩

def System.sample : System := { store := { installationID := "i" } }

theorem System.sample_reachable {svc : Nat → Service} {careful : Call → Projection → Prop} :
    Reachable svc careful "i" sample := .new (by decide +kernel)

def RunScope.sample : RunScope := ⟨"i", "run"⟩

def Operation.sample (operationID : String) (expectedRevision : Nat) : Operation where
  scope := .sample
  operationID := operationID
  graphRevision := 1
  expectedRevision := expectedRevision

def TaskPhaseRequest.sample (operationID : String) (expectedRevision : Nat)
    (fromPhase : Option TaskPhase) (toPhase : TaskPhase) : TaskPhaseRequest :=
  { Operation.sample operationID expectedRevision with taskID := "t", fromPhase, toPhase }

def RegisterGateRequest.sample (operationID : String) (expectedRevision : Nat) : RegisterGateRequest :=
  { Operation.sample operationID expectedRevision with
    gate := {
      id := "g", taskID := "t", kind := .timeNotBefore, resolverAuthority := "resolver", wakeAt := 5 } }

def CallbackRequest.sample (operationID : String) (expectedRevision : Nat) (eventID : String) : CallbackRequest :=
  { Operation.sample operationID expectedRevision with
    eventID
    correlationID := "c", taskID := "t", attemptID := "a", externalActionID := "x"
    actionGeneration := 1, producer := "p", consumer := "q"
    payloadDigest := "sha256:0000000000000000000000000000000000000000000000000000000000000000" }

def WakeGateRequest.sample (operationID : String) (expectedRevision : Nat) : WakeGateRequest :=
  { Operation.sample operationID expectedRevision with
    gateID := "g", resolverAuthority := "resolver", wakeTime := 5 }

def runDocuments (labels : List Label) : List Document :=
  let ran := @System.run Sha.sampleHex (fun _ => .sample) (fun _ _ => True) inferInstance .sample labels
  let payloads := (ran.map fun sys => sys.store.payloads.values).getD []
  let actions := (ran.map fun sys => sys.store.actions.values).getD []
  payloads ++ actions.map .action

end Paje.Isolation
