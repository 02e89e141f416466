import Paje.Isolation.Accepted
import Paje.Journal.Commits

/-!
Inbox items and gates stay in their places, each closed by one accepted operation, and every
repetition of an accepted call gets the receipt of the first.
-/

namespace Paje.Isolation

open Text Journal List Service Keyed Nat Function

section once

/-! ### What an operation does to the inbox and the gates -/

section operations

variable {p q : Projection} {delta : Delta} {event : Event}

abbrev InboxItem.Acknowledged (item : InboxItem) : Prop := item.acknowledgementReceipt ≠ ""

abbrev PendingWorkGate.Resolved (gate : PendingWorkGate) : Prop := gate.state = some .resolved

def InboxItem.Receipted (item later : InboxItem) : Prop :=
  later = { item with acknowledgementReceipt := later.acknowledgementReceipt }

def PendingWorkGate.Released (gate later : PendingWorkGate) : Prop :=
  later = { gate with state := some .resolved, wakeReceipt := later.wakeReceipt }

def Delta.acknowledged : Delta → Option String
  | .inboxAck delta => some delta.eventID
  | _ => none

def Delta.woken : Delta → Option String
  | .gateWake delta => some delta.gateID
  | _ => none

def Call.acknowledged : Call → Option String
  | .acknowledgeInbox request => some request.eventID
  | _ => none

def Call.woken : Call → Option String
  | .wakeGate request => some request.gateID
  | _ => none

theorem Call.Asks.marks {call : Call} (asks : call.Asks delta) :
    call.acknowledged = delta.acknowledged ∧ call.woken = delta.woken := by
  cases call <;> cases delta <;> first | exact asks.elim | exact ⟨rfl, rfl⟩ | skip
  · exact ⟨congrArg (fun delta => some (InboxAckDelta.eventID delta)) asks.1.symm, rfl⟩
  · exact ⟨rfl, congrArg some asks.1⟩

theorem Call.Asks.named {call : Call} (asks : call.Asks delta) (ack : InboxAckDelta)
    (same : delta = .inboxAck ack) : ack.receiptID ≠ "" := by
  subst same
  cases call <;> first | exact asks.elim | exact asks.1 ▸ asks.2

theorem Applied.turns (named : ∀ ack, delta = .inboxAck ack → ack.receiptID ≠ "") (applied : Applied p event delta q) :
    Keyed.Turn (·.eventID) InboxItem.Acknowledged InboxItem.Receipted p.inbox delta.acknowledged q.inbox ∧
    Keyed.Turn (·.id) PendingWorkGate.Resolved PendingWorkGate.Released p.gates delta.woken q.gates ∧
    (q.inbox.map (·.journalPosition) = p.inbox.map (·.journalPosition) ∨
      q.inbox.map (·.journalPosition) = p.inbox.map (·.journalPosition) ++ [event.journalPosition]) ∧
    q.revision = p.revision := by
  cases applied with
  | inboxAppend fresh made => exact ⟨.added fresh (by simp [made.2]), .same, .inr (by simp [made.1]), rfl⟩
  | inboxAck found isOpen =>
    exact ⟨.closed found (by simp [isOpen.2]) (named _ rfl) rfl (fun _ same => same), .same,
      .inl (map_modify fun _ _ => rfl), rfl⟩
  | gateRegister pending fresh => exact ⟨.same, .added fresh (by simp [pending]), .inl rfl, rfl⟩
  | gateWake found pending =>
    exact ⟨.same, .closed found (by simp [pending]) rfl rfl (fun _ same => same), .inl rfl, rfl⟩
  | _ => exact ⟨.same, .same, .inl rfl, rfl⟩

theorem Applied.receipts (keys : (p.inbox.map (·.eventID)).Nodup) (applied : Applied p event delta q) {item : InboxItem}
    (member : item ∈ q.inbox) (shut : item.Acknowledged) : item ∈ p.inbox ∨
      delta = .inboxAck ⟨item.eventID, item.consumer, item.acknowledgementReceipt⟩ := by
  cases applied with
  | inboxAppend _ made =>
    rcases mem_append.mp member with old | new
    · exact .inl old
    · exact absurd (mem_singleton.mp new ▸ made.2) shut
  | inboxAck found isOpen =>
    rcases mem_modify member with old | ⟨old, listed, same, rfl⟩
    · exact .inl old
    · have known := lookup_of_mem keys listed
      rw [same] at known
      cases found.symm.trans known
      exact .inr (by rw [same, isOpen.1])
  | _ => exact .inl member

end operations

/-- What the accepted operations of a run make of its revision, its inbox and its gates. -/
structure Booked (n : Nat) (p : Projection) (accepted : List Commitment) : Prop where
  revision : p.revision = accepted.length
  inbox : Keyed.Once (·.eventID) InboxItem.Acknowledged p.inbox (accepted.filterMap (·.call.acknowledged))
  gates : Keyed.Once (·.id) PendingWorkGate.Resolved p.gates (accepted.filterMap (·.call.woken))
  ordered : (p.inbox.map (·.journalPosition)).Pairwise (· < ·)
  placed : ∀ position ∈ p.inbox.map (·.journalPosition), position ≤ n
  receipts : ∀ item ∈ p.inbox, item.Acknowledged → ∃ c ∈ accepted, ∃ request, c.call = .acknowledgeInbox request ∧
    request.eventID = item.eventID ∧ request.consumer = item.consumer ∧ request.receiptID = item.acknowledgementReceipt

section steps

variable {svc : Nat → Service} {careful : Call → Projection → Prop} {installationID : String} {scope : RunScope}
  {sys next : System} {log : List Entry} {s : Service} {n m : Nat} {p q : Projection} {before after : List Commitment}

theorem Booked.new (scope : RunScope) : Booked 0 { scope } [] :=
  ⟨rfl, ⟨.nil, .nil, by simp [Keyed.lookup]⟩, ⟨.nil, .nil, by simp [Keyed.lookup]⟩, .nil, nofun, nofun⟩

variable [sha : Sha]

theorem Booked.advances (booked : Booked n p before) (le : n ≤ m)
    (moves : Advances svc careful scope n m p before q after) : Booked m q after := by
  cases moves with
  | heads => exact ⟨booked.revision, booked.inbox, booked.gates, booked.ordered,
      fun position listed => (booked.placed position listed).trans le, booked.receipts⟩
  | @wrote _ c spec entry authors _ taken late placed =>
    obtain ⟨applied, apply, rfl⟩ := authors.written.replay_ok taken
    have asks := (spec_call authors.submitted).2.2
    obtain ⟨inbox, gates, positions, counted⟩ := apply.turns asks.named
    have one : ∀ mark : Call → Option String, (before ++ [c]).filterMap (fun c => mark c.call) =
        before.filterMap (fun c => mark c.call) ++ (mark c.call).toList := by
      intro mark
      rw [filterMap_append]
      cases marked : mark c.call <;> simp [marked]
    refine ⟨?_, ?_, ?_, ?_, ?_, fun item member shut => ?_⟩
    · show applied.revision + 1 = _
      rw [counted, length_append]
      exact congrArg (· + 1) booked.revision
    · rw [one, asks.marks.1]
      exact booked.inbox.turn inbox
    · rw [one, asks.marks.2]
      exact booked.gates.turn gates
    · rcases positions with same | added
      · exact same ▸ booked.ordered
      · exact added ▸ pairwise_append.mpr ⟨booked.ordered, pairwise_singleton _ _, fun position listed last only =>
          mem_singleton.mp only ▸ (booked.placed position listed).trans_lt late⟩
    · intro position listed
      rcases positions with same | added
      · exact (booked.placed position (same ▸ listed)).trans le
      · rcases mem_append.mp (added ▸ listed) with old | new
        · exact (booked.placed position old).trans le
        · exact mem_singleton.mp new ▸ placed
    · have keys : ((((p.moved entry.reservation).moved entry.outcome).inbox).map (·.eventID)).Nodup := booked.inbox.keys
      rcases apply.receipts keys member shut with old | delta
      · obtain ⟨earlier, listed, rest⟩ := booked.receipts item old shut
        exact ⟨earlier, mem_append_left _ listed, rest⟩
      · rw [delta] at asks
        refine ⟨c, mem_append_right _ (mem_singleton_self c), ?_⟩
        cases called : c.call <;> rw [called] at asks <;> first | exact asks.elim | skip
        obtain ⟨event, consumer, receipt⟩ := InboxAckDelta.mk.inj asks.1
        exact ⟨_, rfl, event.symm, consumer.symm, receipt.symm⟩

def Steps (svc : Nat → Service) (careful : Call → Projection → Prop) : System → System → Prop :=
  Relation.ReflTransGen fun sys next => ∃ label, Careful careful sys label ∧ sys.step svc label = some next

/-- A later projection of a run holds the items and the gates of an earlier one. -/
structure Projection.Grows (p q : Projection) : Prop where
  inbox : Keyed.Grows InboxItem.Acknowledged InboxItem.Receipted p.inbox q.inbox
  gates : Keyed.Grows PendingWorkGate.Resolved PendingWorkGate.Released p.gates q.gates

theorem Advances.grows (moves : Advances svc careful scope n m p before q after) : p.Grows q := by
  cases moves with
  | heads => exact ⟨.refl _, .refl _⟩
  | wrote authors _ taken =>
    obtain ⟨applied, apply, rfl⟩ := authors.written.replay_ok taken
    have asks := (spec_call authors.submitted).2.2
    obtain ⟨inbox, gates, _⟩ := apply.turns asks.named
    exact ⟨inbox.grows, gates.grows⟩

theorem Sound.grows (sound : Sound svc careful installationID sys log) (steps : Steps svc careful sys next) :
    ∃ later, Sound svc careful installationID next later ∧ ∀ run q,
      replay ⟨installationID, run⟩ (runLog later run) = .ok q → ∃ p,
        replay ⟨installationID, run⟩ (runLog log run) = .ok p ∧ p.Grows q := by
  induction steps with
  | refl => exact ⟨log, sound, fun run q replayed => ⟨q, replayed, .refl _, .refl _⟩⟩
  | tail _ step ih =>
    obtain ⟨label, allowed, stepped⟩ := step
    obtain ⟨middle, here, first⟩ := ih
    obtain ⟨later, still, _, back⟩ := here.advances allowed stepped
    refine ⟨later, still, fun run q replayed => ?_⟩
    obtain ⟨u, known, moves⟩ := back run q replayed
    obtain ⟨p, earlier, grown⟩ := first run u known
    exact ⟨p, earlier, grown.inbox.trans moves.grows.inbox, grown.gates.trans moves.grows.gates⟩

/-- The commits of a run's operations stay in the store, under their own receipts. -/
def Recalls (svc : Nat → Service) (store : MemoryStore) (c : Commitment) : Prop :=
  ∃ spec run journal existing, (svc c.service).spec c.call = .ok spec ∧
    spec.scope.installationID = store.installationID ∧
    store.Repeats (spec.commitRequest (store.runCursorAt spec.scope.controlRunID run) (store.cursorAt journal))
      existing ∧ existing.receipt = c.receipt

variable {store : MemoryStore} {request : CommitRequest}

theorem Recalls.committed {c : Commitment} (settled : store.Settled)
    (recalls : Recalls svc store c) (accepted : store.Accepted request) : Recalls svc (store.committed request) c := by
  obtain ⟨spec, run, journal, existing, asked, home, repeats, receipt⟩ := recalls
  have change : store.Change (fun _ => True) (store.committed request) := .commit accepted
  exact ⟨spec, run, journal, existing, asked, home, repeats.changes settled (.single change), receipt⟩

theorem expected_cursors (accepted : store.Accepted request) :
    request.expectedRun = store.runCursorAt request.action.controlRunID request.expectedRun.runSequence ∧
      request.expectedGlobal = store.cursorAt request.expectedGlobal.journalPosition := by
  have valid := accepted.valid
  unfold validateCommitRequest at valid
  obtain ⟨_, _, valid⟩ := bind_ok valid
  obtain ⟨⟨_, _, _, _, run, schema, schema'⟩, _⟩ := require_bind_ok valid
  obtain ⟨here, here'⟩ := accepted.installation
  rw [← run]
  generalize request.expectedRun = cursor at here schema
  generalize request.expectedGlobal = journal at here' schema'
  obtain ⟨_, _, _, _⟩ := cursor
  obtain ⟨_, _, _⟩ := journal
  cases here
  cases schema
  cases here'
  cases schema'
  exact ⟨rfl, rfl⟩

theorem Reachable.recalls (reachable : Reachable svc careful installationID sys) :
    sys.store.Settled ∧ ∀ c ∈ sys.history, Recalls svc sys.store c := by
  induction reachable with
  | @new store created =>
    obtain ⟨rfl, _⟩ := newMemoryStore_ok created
    exact ⟨MemoryStore.settled_new _, fun _ listed => (not_mem_nil listed).elim⟩
  | @step sys next label reachable allowed stepped ih =>
    obtain ⟨settled, recalls⟩ := ih
    obtain ⟨log, sound⟩ := reachable_sound reachable
    obtain ⟨_, _, adds⟩ := sound.step allowed stepped
    generalize next.store = store at adds
    generalize next.history = history at adds
    cases adds with
    | nothing => exact ⟨settled, recalls⟩
    | outside accepted =>
      have change : sys.store.Change (fun _ => True) _ := .commit accepted
      exact ⟨change.settled settled, fun c listed => (recalls c listed).committed settled accepted⟩
    | @wrote request c spec _ accepted receipt asked _ authors place =>
      have change : sys.store.Change (fun _ => True) _ := .commit accepted
      refine ⟨change.settled settled, fun other listed => ?_⟩
      rcases mem_append.mp listed with old | new
      · exact (recalls other old).committed settled accepted
      · cases mem_singleton.mp new
        obtain ⟨sameRun, sameGlobal⟩ := expected_cursors accepted
        have action : request.action.controlRunID = spec.scope.controlRunID := by
          rw [asked]
          rfl
        rw [sameRun, sameGlobal, action] at asked
        have repeats := accepted.repeats
        generalize request.expectedRun.runSequence = run at asked
        generalize request.expectedGlobal.journalPosition = journal at asked
        subst asked
        exact ⟨spec, run, journal, _, authors.submitted, by rw [place]; exact sound.installation.symm, repeats,
          receipt.symm⟩

theorem Service.globalCursor_eq (holds : store.Holds log) (here : s.installationID = store.installationID) :
    s.globalCursor store = .ok (store.cursorAt store.events.length) := by
  unfold globalCursor
  have served := (MemoryStore.feed_serves holds.numbered).relabel Error.journal
  have start : newGlobalCursor s.installationID = store.cursorAt 0 := by
    rw [here]
    rfl
  have nothing : ∀ items : List Event, items.foldlM (fun _ _ => .ok ()) () = (.ok () : Except Error Unit) := by
    intro items
    induction items with
    | nil => rfl
    | cons _ _ ih => exact ih
  rw [Paging.readAll_eq served (fun _ => True) _ (fun _ _ items _ => (nothing items).symm) (fun _ _ _ _ _ => trivial)
    trivial (zero_le _) (by omega) (by rw [start]), nothing]
  rfl

/-- The steps that a call has left, when it repeats an accepted one. -/
def Phase.left : Phase → Nat
  | .begun _ => 5
  | .rebuilt .. => 4
  | .located .. => 3
  | .checked .. => 2
  | .committed .. => 1
  | .done _ => 0

def Phase.Repeats (installationID : String) (spec : OperationSpec) (receipt : CommitReceipt) : Phase → Prop
  | .begun asked => asked = spec
  | .rebuilt asked view => asked = spec ∧ ∃ n, view.run = ⟨installationID, spec.scope.controlRunID, schemaVersion, n⟩
  | .located asked view journal => asked = spec ∧
    (∃ n, view.run = ⟨installationID, spec.scope.controlRunID, schemaVersion, n⟩) ∧
    ∃ n, journal = ⟨installationID, schemaVersion, n⟩
  | .checked asked view journal _ exactReplay => asked = spec ∧
    (∃ n, view.run = ⟨installationID, spec.scope.controlRunID, schemaVersion, n⟩) ∧
    (∃ n, journal = ⟨installationID, schemaVersion, n⟩) ∧ exactReplay = true
  | .committed asked answer => asked = spec ∧ answer = receipt
  | .done result => ∃ p, result = .ok ⟨p, receipt⟩

theorem Phase.Repeats.advance {spec : OperationSpec} {receipt : CommitReceipt} {phase : Phase}
    {existing : MemoryCommit} {run journal : Nat} (now : Time) (sound : Sound svc careful installationID sys log)
    (readable : ∃ p cursor, s.rebuild sys.store spec.scope = .ok (p, cursor))
    (stored : sys.store.Repeats (spec.commitRequest (sys.store.runCursorAt spec.scope.controlRunID run)
      (sys.store.cursorAt journal)) existing) (same : receipt = { existing.receipt with created := false })
    (held : phase.Repeats installationID spec receipt) (unfinished : 0 < phase.left) :
    ∃ later, phase.next s sys.store now = some (later, sys.store) ∧ later.Repeats installationID spec receipt ∧
      later.left < phase.left := by
  obtain ⟨p, cursor, read⟩ := readable
  have installed := sound.installation
  obtain ⟨valid, home⟩ := rebuild_installation read
  cases phase with
  | begun asked =>
    cases held
    have whole := rebuild_eq sound.holds valid home
    rw [read] at whole
    obtain ⟨_, _, whole⟩ := bind_ok whole.symm
    cases whole
    simp only [Phase.next, read]
    exact ⟨_, rfl, ⟨rfl, _, by rw [← installed]; rfl⟩, lt_succ_self _⟩
  | rebuilt asked view =>
    obtain ⟨rfl, cursors⟩ := held
    simp only [Phase.next, globalCursor_eq sound.holds home]
    exact ⟨_, rfl, ⟨rfl, cursors, _, by rw [← installed]; rfl⟩, lt_succ_self _⟩
  | located asked view position =>
    obtain ⟨rfl, cursors, positions⟩ := held
    -- the commit is in the log, so its reservation is found
    obtain ⟨entry, listed, commit⟩ := sound.holds.commits _ _ stored.found
    have action : entry.action = asked.action := by
      have own := stored.action
      rw [commit] at own
      exact own
    have reserved : sys.store.reservation asked.scope.controlRunID asked.action.id = .ok asked.action :=
      (action ▸ sound.holds.reserved entry listed).reservation
    have checked : asked.check sys.store view.projection now = .ok true := by
      simp only [OperationSpec.check, reserved]
      exact require_bind _ trivial
    simp only [Phase.next, checked]
    exact ⟨_, rfl, ⟨rfl, cursors, positions, rfl⟩, lt_succ_self _⟩
  | checked asked view position _ exactReplay =>
    obtain ⟨rfl, ⟨n, cursor⟩, ⟨m, rfl⟩, rfl⟩ := held
    have again := (stored.expecting n m).commit (show Time.unixEpoch.Encodable by decide)
    rw [← same] at again
    have committed : sys.store.commit (asked.commitRequest view.run ⟨installationID, schemaVersion, m⟩) =
        .ok (receipt, sys.store) := by
      rw [cursor, ← installed]
      exact again
    simp only [Phase.next, committed]
    exact ⟨_, rfl, ⟨rfl, rfl⟩, lt_succ_self _⟩
  | committed asked answer =>
    obtain ⟨rfl, rfl⟩ := held
    simp only [Phase.next, read]
    exact ⟨_, rfl, ⟨p, rfl⟩, lt_succ_self _⟩
  | done result => cases unfinished

theorem System.step_keeps {label : Label} {k : Nat} {flight : Flight} (stepped : sys.step svc label = some next)
    (held : sys.flights k = some flight) :
    (next.flights k = some flight ∨ ∃ now, label = .advance k now) ∧ ∀ c ∈ sys.history, c ∈ next.history := by
  cases label with
  | submit j i call =>
    simp only [System.step] at stepped
    split at stepped
    · cases stepped
    · rename_i free
      cases stepped
      have other : k ≠ j := by
        rintro rfl
        cases held.symm.trans free
      exact ⟨.inl ((update_of_ne other _ _).trans held), fun _ listed => listed⟩
  | advance j now =>
    simp only [System.step] at stepped
    split at stepped
    · cases stepped
    · obtain ⟨_, _, rfl⟩ := Option.map_eq_some_iff.mp stepped
      refine ⟨?_, fun _ listed => mem_append_left _ listed⟩
      by_cases mine : k = j
      · exact .inr ⟨now, by rw [mine]⟩
      · exact .inl ((update_of_ne mine _ _).trans held)
  | «foreign» request =>
    simp only [System.step] at stepped
    split at stepped
    · split at stepped
      · cases stepped
        exact ⟨.inl held, fun _ listed => listed⟩
      · cases stepped
    · cases stepped

/-- The call of flight `k` returned `receipt`, or its next step leaves the store as it is and brings it nearer. -/
def System.Answers (svc : Nat → Service) (k i : Nat) (call : Call) (receipt : CommitReceipt) (sys : System) : Prop :=
  ∃ phase, sys.flights k = some ⟨i, call, phase⟩ ∧ (phase.left = 0 → ∃ p, phase = .done (.ok ⟨p, receipt⟩)) ∧
    (0 < phase.left → ∀ now, ∃ next after, sys.step svc (.advance k now) = some next ∧ next.store = sys.store ∧
      next.flights k = some ⟨i, call, after⟩ ∧ after.left < phase.left)

/-- A repetition of an accepted call goes on to its receipt, whatever others do meanwhile. -/
theorem Reachable.repeats (separates : sha.Separates) (hex : sha.HexSeeds)
    (reachable : Reachable svc (fun call p => call.Orderly p) installationID sys) {c : Commitment}
    (listed : c ∈ sys.history) {i k : Nat} (same : (svc i).installationID = (svc c.service).installationID)
    (free : sys.flights k = none)
    (steps : Steps svc (fun call p => call.Orderly p) (sys.setFlight k ⟨i, c.call, c.call.submitted (svc i)⟩) next) :
    next.Answers svc k i c.call { c.receipt with created := false } := by
  obtain ⟨spec, _, _, _, asked, _⟩ := reachable.recalls.2 c listed
  have service : svc i = svc c.service := by
    generalize svc i = one at same
    generalize svc c.service = two at same
    cases one
    cases two
    cases same
    rfl
  rw [← service] at asked
  have going : ∀ {sys : System} {phase : Phase} (now : Time),
      Reachable svc (fun call p => call.Orderly p) installationID sys →
      c ∈ sys.history → sys.flights k = some ⟨i, c.call, phase⟩ →
      phase.Repeats installationID spec { c.receipt with created := false } → 0 < phase.left →
      ∃ last after, sys.step svc (.advance k now) = some last ∧ last.store = sys.store ∧
        last.flights k = some ⟨i, c.call, after⟩ ∧
        after.Repeats installationID spec { c.receipt with created := false } ∧ after.left < phase.left := by
    intro sys phase now here there held going unfinished
    obtain ⟨log, sound⟩ := reachable_sound here
    obtain ⟨_, _, _, existing, again, place, stored, receipt⟩ := here.recalls.2 c there
    rw [← service, asked] at again
    cases again
    have valid := (spec_call asked).2.1.1
    have home : (svc i).installationID = installationID := valid.2.2.symm.trans (place.trans sound.installation)
    obtain ⟨after, moved, repeats, less⟩ := going.advance now sound
      (isolation_replays separates hex here valid home) stored
      (receipt ▸ rfl) unfinished
    let history := sys.history ++ Flight.commitment ⟨i, c.call, phase⟩ after
    have stepped : sys.step svc (.advance k now) = some ({ sys with history }.setFlight k ⟨i, c.call, after⟩) := by
      simp only [System.step, held, moved]
      rfl
    exact ⟨_, after, stepped, rfl, update_self .., repeats, less⟩
  suffices inv : Reachable svc (fun call p => call.Orderly p) installationID next ∧ c ∈ next.history ∧ ∃ phase,
      next.flights k = some ⟨i, c.call, phase⟩ ∧
      phase.Repeats installationID spec { c.receipt with created := false } by
    obtain ⟨here, there, phase, held, repeats⟩ := inv
    refine ⟨phase, held, fun done => ?_, fun unfinished now => ?_⟩
    · cases phase <;> cases done
      obtain ⟨p, rfl⟩ := repeats
      exact ⟨p, rfl⟩
    · obtain ⟨last, after, stepped, store, flight, _, less⟩ := going now here there held repeats unfinished
      exact ⟨last, after, stepped, store, flight, less⟩
  induction steps with
  | refl =>
    have submitted : sys.step svc (.submit k i c.call) =
        some (sys.setFlight k ⟨i, c.call, c.call.submitted (svc i)⟩) := by
      simp only [System.step, free]
    refine ⟨reachable.step (show Careful _ sys (.submit k i c.call) from trivial) submitted,
      listed, _, update_self .., ?_⟩
    rw [Call.submitted, asked]
    rfl
  | tail _ step ih =>
    obtain ⟨label, allowed, stepped⟩ := step
    obtain ⟨here, there, phase, held, repeats⟩ := ih
    obtain ⟨flight, kept⟩ := System.step_keeps stepped held
    refine ⟨here.step allowed stepped, kept c there, ?_⟩
    rcases flight with same | ⟨now, rfl⟩
    · exact ⟨phase, same, repeats⟩
    · by_cases unfinished : 0 < phase.left
      · obtain ⟨last, after, again, _, flight, still, _⟩ := going now here there held repeats unfinished
        cases again.symm.trans stepped
        exact ⟨after, flight, still⟩
      · -- a call that returned takes no step
        cases phase <;> first | exact absurd (succ_pos _) unfinished | skip
        simp [System.step, held, Phase.next] at stepped

/-- When every commit is orderly, the revision of a run counts its accepted operations, its inbox items have their own
event IDs and growing positions and stay, each acknowledged once by its consumer, each gate resolves once, and a
repetition of an accepted call returns its receipt. -/
theorem inbox_gates_once (separates : sha.Separates) (hex : sha.HexSeeds)
    (reachable : Reachable svc (fun call p => call.Orderly p) installationID sys) :
    (∀ s scope p here, rebuild s sys.store scope = .ok (p, here) →
      p.revision = (sys.accepted scope).length ∧ (p.inbox.map (·.eventID)).Nodup ∧
      (p.inbox.map (·.journalPosition)).Pairwise (· < ·) ∧
      ((sys.accepted scope).filterMap (·.call.acknowledged)).Nodup ∧
      ((sys.accepted scope).filterMap (·.call.woken)).Nodup ∧
      (∀ item ∈ p.inbox, item.Acknowledged → ∃ c ∈ sys.accepted scope, ∃ request, c.call = .acknowledgeInbox request ∧
        request.eventID = item.eventID ∧ request.consumer = item.consumer ∧
        request.receiptID = item.acknowledgementReceipt) ∧
      ∀ later q there, Steps svc (fun call p => call.Orderly p) sys later →
        s.rebuild later.store scope = .ok (q, there) →
        Keyed.Grows InboxItem.Acknowledged InboxItem.Receipted p.inbox q.inbox ∧
        ∀ gate ∈ p.gates, ∃ after ∈ q.gates, after = gate ∨ ¬ gate.Resolved ∧ gate.Released after) ∧
    ∀ c ∈ sys.history, ∀ i k, (svc i).installationID = (svc c.service).installationID → sys.flights k = none →
      ∀ later, Steps svc (fun call p => call.Orderly p) (sys.setFlight k ⟨i, c.call, c.call.submitted (svc i)⟩) later →
        later.Answers svc k i c.call { c.receipt with created := false } := by
  refine ⟨fun s scope p here read => ?_, fun c listed i k same free later steps =>
    reachable.repeats separates hex listed same free steps⟩
  obtain ⟨log, sound, always⟩ := reachable.always (F := fun _ n p accepted => Booked n p accepted) Booked.new
    (fun _ _ _ _ _ _ _ le booked moves => booked.advances le moves)
  obtain ⟨home, u, replayed, rfl⟩ := sound.rebuilt read
  have booked : Booked sys.store.events.length u (sys.accepted scope) := by
    rw [home] at replayed ⊢
    exact always _ u replayed
  refine ⟨booked.revision, booked.inbox.keys, booked.ordered, booked.inbox.once, booked.gates.once, booked.receipts, ?_⟩
  intro later q there steps after
  obtain ⟨_, still, back⟩ := sound.grows steps
  obtain ⟨_, v, replayed', rfl⟩ := still.rebuilt after
  obtain ⟨w, earlier, grown⟩ := back scope.controlRunID v (home ▸ replayed')
  rw [← home] at earlier
  cases earlier.symm.trans replayed
  refine ⟨grown.inbox, fun gate listed => ?_⟩
  simp only [Projection.sorted, mem_insertionSort] at listed ⊢
  obtain ⟨i, found⟩ := mem_iff_getElem?.mp listed
  obtain ⟨last, kept, change⟩ := grown.gates i gate found
  refine ⟨last, mem_of_getElem? kept, ?_⟩
  rcases change with same | ⟨unresolved, _, released⟩
  · exact .inl same
  · exact .inr ⟨unresolved, released⟩

end steps

end once

attribute [local instance] historyHash

theorem inbox_gates_once_deferredLife : ∃ sys p cursor,
    Reachable (fun _ => sample) (fun call p => call.Orderly p) "i" sys ∧
      sample.rebuild sys.store .sample = .ok (p, cursor) ∧ (sys.accepted .sample).length = 4 ∧ p.revision = 4 := by
  obtain ⟨sys, ran, counted, ⟨p, cursor⟩, read, -⟩ : ∃ sys,
      System.run (fun _ => .sample) (fun call p => call.Orderly p) .sample deferredLife = some sys ∧
      (sys.accepted .sample).length = 4 ∧
      ∃ view, sample.rebuild sys.store .sample = .ok view ∧ view.1.revision = 4 := by decide +kernel
  have reachable := System.sample_reachable.run ran
  have once := (inbox_gates_once historyHash_separates (Sha.separatingHex_hexSeeds _) reachable).1 _ _ _ _ read
  exact ⟨sys, p, cursor, reachable, read, counted, once.1.trans counted⟩

def System.answer (sys : System) (flight : Nat) : Option (Except Error Bool) :=
  (sys.flights flight).bind fun flight => match flight.phase with
    | .done result => some (result.map (·.receipt.created))
    | _ => none

/-- The first call of `lateWake` was answered; after the last one its repetition fails. -/
theorem repetition_fails : ∃ sys, System.run (fun _ => .sample) (fun _ _ => True) .sample (lateWake.take 5 ++
    .advance 0 1 :: lateWake.drop 5 ++ (Label.serve 5 (.transitionTask (.sample "o0" 0 none .discovered)) 1).take 2) =
      some sys ∧ sys.answer 0 = some (.ok true) ∧ sys.answer 5 = some (.error (.journal .invalidRecord)) := by
  decide +kernel

end Paje.Isolation
