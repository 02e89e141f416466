import Paje.Control.Ambiguity

/-!
The mailbox of a run. A message is stored once; afterwards only its acknowledgement is set, and the one event that
announces it was appended when it was stored.
-/

namespace Paje.Control

open Text Journal List Table Store

variable {message : Message} {plain : Prop} {actionID : String}

section mailbox

variable {snapshot next : Snapshot}

def announcements (events : List Event) : List (EventKind × String × String) :=
  (events.filter fun event => event.kind = .steering ∨ event.kind = .handoff).map fun event =>
    (event.kind, event.taskID, event.digest)

/-- The mailbox keeps its messages, and gets those of `new`. -/
structure Delivers (new : List Message) (snapshot next : Snapshot) : Prop where
  kept : ∀ id message, snapshot.messages.get? id = some message → ∃ later, next.messages.get? id = some later ∧
    later = { message with acknowledged := later.acknowledged } ∧
      (message.acknowledged = true → later.acknowledged = true)
  fresh : ∀ message ∈ new, snapshot.messages.get? message.id = none ∧ ∃ later,
    next.messages.get? message.id = some later ∧ sendInput later = sendInput message
  once : (new.map (·.id)).Nodup
  only : ∀ id, (next.messages.get? id).isSome → (snapshot.messages.get? id).isSome ∨ id ∈ new.map (·.id)

theorem Delivers.same (messages : next.messages = snapshot.messages) : Delivers [] snapshot next := by
  refine ⟨fun id message found => ⟨message, messages ▸ found, rfl, fun set => set⟩, nofun, .nil,
    fun id held => .inl (messages ▸ held)⟩

theorem Delivers.trans {one two three : Snapshot} {first second : List Message} (before : Delivers first one two)
    (after : Delivers second two three) : Delivers (first ++ second) one three := by
  have absent : ∀ id, two.messages.get? id = none → one.messages.get? id = none := by
    intro id none
    cases found : one.messages.get? id with
    | none => rfl
    | some message =>
      obtain ⟨_, later, _⟩ := before.kept id message found
      cases none.symm.trans later
  refine ⟨fun id message found => ?_, fun message member => ?_, ?_, fun id held => ?_⟩
  · obtain ⟨middle, there, same, set⟩ := before.kept id message found
    obtain ⟨last, ends, same', set'⟩ := after.kept id middle there
    exact ⟨last, ends, by rw [same', same], set' ∘ set⟩
  · rcases mem_append.mp member with old | new
    · obtain ⟨none, middle, there, input⟩ := before.fresh message old
      obtain ⟨last, ends, same, _⟩ := after.kept _ middle there
      exact ⟨none, last, ends, by rw [same]; exact input⟩
    · obtain ⟨none, last⟩ := after.fresh message new
      exact ⟨absent _ none, last⟩
  · rw [map_append, nodup_append]
    refine ⟨before.once, after.once, ?_⟩
    rintro id old _ new rfl
    obtain ⟨one', member, rfl⟩ := mem_map.mp old
    obtain ⟨two', member', same⟩ := mem_map.mp new
    obtain ⟨_, _, there, _⟩ := before.fresh one' member
    have none := (after.fresh two' member').1
    rw [same, there] at none
    cases none
  · rw [map_append, mem_append]
    rcases after.only id held with there | new
    · exact (before.only id there).imp_right .inl
    · exact .inr (.inr new)

theorem Delivers.added (new : snapshot.messages.get? message.id = none)
    (messages : next.messages = snapshot.messages.put message.id message) : Delivers [message] snapshot next := by
  refine ⟨fun id old found => ?_, fun other member => ?_, nodup_singleton _, fun id held => ?_⟩
  · have different : id ≠ message.id := by
      rintro rfl
      cases new.symm.trans found
    exact ⟨old, by rw [messages, get?_put_other _ _ different, found], rfl, fun set => set⟩
  · cases mem_singleton.mp member
    exact ⟨new, message, by rw [messages, get?_put_self], rfl⟩
  · rw [messages, get?_put] at held
    split at held
    · rename_i same
      exact .inr (mem_singleton.mpr same)
    · exact .inl held

theorem announcements_append {kind : EventKind} {taskID attemptID digest : String} {time : Time}
    (other : kind ≠ .steering ∧ kind ≠ .handoff) :
    announcements (appendEvent snapshot kind taskID attemptID actionID digest time).events =
      announcements snapshot.events := by
  simp [announcements, appendEvent, other]

variable [sha : Sha] {controlRunID : String} {now : Nat → Time}

def Message.announcement (message : Message) : EventKind × String × String :=
  (if message.kind = .dependencyHandoff then .handoff else .steering, message.toTaskID,
    digestStrings ["message", message.id, message.digest])

def Announces (new : List Message) (snapshot next : Snapshot) : Prop :=
  announcements next.events = announcements snapshot.events ++ new.map Message.announcement

/-- What a change does to the mailbox. `AddHandoff` and `PromoteAttempt` append handoff events of their own. -/
def Mails (plain : Prop) (snapshot next : Snapshot) : Prop :=
  ∃ new, Delivers new snapshot next ∧ (plain → Announces new snapshot next)

def Change.Plain : Change → Prop
  | .addHandoff _ | .promoteAttempt .. => False
  | _ => True

theorem Mails.quiet (messages : next.messages = snapshot.messages)
    (events : plain → announcements next.events = announcements snapshot.events) : Mails plain snapshot next :=
  ⟨[], .same messages, fun plain => by rw [Announces, events plain, map_nil, append_nil]⟩

theorem addMessage_mails {time : Time} {made : Snapshot}
    (new : snapshot.messages.get? message.id = none) (messages : made.messages = snapshot.messages)
    (events : announcements made.events = announcements snapshot.events) :
    Mails plain snapshot (addMessage made message time) := by
  refine ⟨[message], .added new (congrArg (·.put message.id message) messages), fun _ => ?_⟩
  rw [Announces, ← events]
  simp only [addMessage, announcements, appendEvent, filter_append, map_append]
  by_cases kind : message.kind = .dependencyHandoff <;> simp [kind, Message.announcement]

variable {result : ActionResult}

theorem completeAction_quiet : Ensures (fun made => made.2.messages = snapshot.messages ∧
      announcements made.2.events = announcements snapshot.events)
      (completeAction snapshot controlRunID actionID result now) := by
  rintro ⟨_, next⟩ h
  obtain ⟨_, _, _, ⟨_, rfl⟩ | ⟨_, _, _, _, _, _, _, _, _, _, rfl⟩⟩ := completeAction_ok h
  · exact ⟨rfl, rfl⟩
  · exact ⟨rfl, announcements_append (by decide)⟩

theorem Change.mails (change : Change) :
    Ensures (Mails change.Plain snapshot) (change.apply controlRunID now snapshot) := by
  cases change with
  | completeAction actionID result =>
    exact .map fun made h => .quiet (completeAction_quiet made h).1 fun _ => (completeAction_quiet made h).2
  | sendMessage message =>
    refine .map ?_
    unfold Control.sendMessage
    refine .bind fun _ _ => ?_
    split
    · exact .bind fun _ _ => .ok (.quiet rfl fun _ => rfl)
    · exact .ok (addMessage_mails ‹_› rfl rfl)
  | completeSend attemptID actionID result message =>
    refine .map ?_
    unfold Control.completeSend
    refine .bind fun _ _ => ?_
    split
    · exact .error
    refine .bind fun _ _ => .bind fun _ _ => .bind fun made completes => ?_
    obtain ⟨messages, events⟩ := completeAction_quiet made completes
    dsimp only
    split
    · exact .ok (.quiet messages fun _ => events)
    · exact .ok (addMessage_mails ‹_› messages events)
  | acknowledgeMessage messageID taskID =>
    refine .map fun made h => ?_
    unfold Control.acknowledgeMessage at h
    split at h
    · cases h
    rename_i message found
    obtain ⟨_, h⟩ := require_bind_ok h
    cases pure_ok h
    refine ⟨[], ⟨fun id old held => ?_, fun _ listed => (by cases listed), .nil, fun id held => .inl ?_⟩,
      fun _ => (List.append_nil _).symm⟩
    · by_cases same : id = messageID
      · subst same
        cases found.symm.trans held
        exact ⟨_, Table.get?_put_self _ _ _, rfl, fun _ => rfl⟩
      · exact ⟨old, by rw [Table.get?_put_other _ _ same, held], rfl, fun set => set⟩
    · rw [Table.get?_put] at held
      split at held
      · rename_i same
        simp [same, found]
      · exact held
  | _ =>
    simp only [Change.apply, Control.updateGraph, Control.createAttempt, placeAttempt, Control.promoteAttempt,
      Control.markAmbiguous, Control.advanceCursor, Control.acknowledgeRuntimeID, Control.recordCallback, newCallback,
      Control.recordEvidence, Control.setDisposition, Control.closeAttempt, Control.attachTerminalEvidence,
      Control.addHandoff, Control.acknowledgeHandoff]
    repeat' first
      | exact .error
      | with_reducible refine .bind fun _ _ => ?_
      | with_reducible refine .map ?_
      | split
      | exact .ok (.quiet rfl fun _ => rfl)
      | exact .ok (.quiet rfl fun _ => announcements_append (by decide))
      | exact .ok (.quiet rfl False.elim)
      | exact .ok (.quiet (promoteSource_quiet _ ‹_›).1 False.elim)

def Call.Plain : Call → Prop
  | .change _ made => made.Plain
  | _ => True

theorem Steps.mails {store after : Store} (steps : Steps (fun _ call => plain → call.Plain) store after)
    (kept : store.Kept) {id : String} (found : store.records.get? id = some snapshot) :
    ∃ last, after.records.get? id = some last ∧ Mails plain snapshot last := by
  induction steps with
  | refl => exact ⟨snapshot, found, .quiet rfl fun _ => rfl⟩
  | tail steps step ih =>
    obtain ⟨current, held, new, delivers, announces⟩ := ih
    obtain ⟨call, now, allowed, rfl⟩ := step
    obtain ⟨next, saved, more, delivers', announces'⟩ : ∃ next,
        (Store.call _ call now).records.get? id = some next ∧ Mails plain current next := by
      refine Store.call_keeps (Steps.kept steps kept) held (.quiet rfl fun _ => rfl)
        (fun _ _ _ ⟨new, delivers, announces⟩ =>
          ⟨new, ⟨delivers.kept, delivers.fresh, delivers.once, delivers.only⟩, announces⟩) fun made builds => ?_
      cases builds with
      | changed change _ called applied =>
        subst called
        obtain ⟨new, delivers, announces⟩ := change.mails made applied
        exact ⟨new, delivers, fun plain => announces (allowed plain)⟩
      | prepared => exact .quiet rfl fun _ => announcements_append (by decide)
      | closed =>
        unfold closeRun
        split
        · rename_i closed
          rw [(closeSnapshot_ok closed).1]
          exact .quiet rfl fun _ => announcements_append (by decide)
        · exact .quiet rfl fun _ => rfl
    refine ⟨next, saved, new ++ more, delivers.trans delivers', fun plain => ?_⟩
    rw [Announces, announces' plain, announces plain, map_append, append_assoc]

theorem completeSend_delivers {attemptID : String} :
    Ensures (fun next => ∃ later, next.messages.get? message.id = some later ∧ sendInput later = sendInput message)
      ((Change.completeSend attemptID actionID result message).apply controlRunID now snapshot) := by
  refine .map ?_
  unfold completeSend
  refine .bind fun _ _ => ?_
  split
  · exact .error
  refine .bind fun _ _ => .bind fun _ bound => .bind fun made completes => ?_
  have messages := (completeAction_quiet made completes).1
  dsimp only
  split
  · rename_i existing found
    exact .ok ⟨existing, messages ▸ found, (require_ok bound existing found).1⟩
  · exact .ok ⟨message, get?_put_self _ _ _, rfl⟩

/-- Whatever calls follow, the messages of a mailbox stay with their content and are only acknowledged. While no call
appends handoff events of its own, the events that announce messages are those of the messages stored since, one for
each. A message that `CompleteSend` sent is in the mailbox from then on. -/
theorem mailbox_exactly_once {journal : MemoryStore} {store : Store}
    (before : Steps (fun _ _ => True) { journal } store)
    {id : String} {snapshot : Snapshot} (found : store.records.get? id = some snapshot) :
    (∀ after, Steps (fun _ _ => True) store after → ∃ last new, after.records.get? id = some last ∧
      Delivers new snapshot last) ∧
    (∀ after, Steps (fun _ call => call.Plain) store after → ∃ last new, after.records.get? id = some last ∧
      Delivers new snapshot last ∧ Announces new snapshot last) ∧
    ∀ attemptID actionID result message now sent,
      store.change id (.completeSend attemptID actionID result message) now = .ok sent →
      ∀ after, Steps (fun _ _ => True) sent after → ∃ last later, after.records.get? id = some last ∧
        last.messages.get? message.id = some later ∧ sendInput later = sendInput message := by
  have kept := Steps.kept before (kept_start journal)
  have any : ∀ {one two : Store}, Steps (fun _ _ => True) one two → Steps (fun _ call => False → call.Plain) one two :=
    fun steps => Relation.ReflTransGen.mono (fun _ _ ⟨call, now, _, same⟩ => ⟨call, now, nofun, same⟩) _ _ steps
  refine ⟨fun after onward => ?_, fun after onward => ?_,
    fun attemptID actionID result message now sent sends after onward => ?_⟩
  · obtain ⟨last, held, new, delivers, _⟩ := (any onward).mails kept found
    exact ⟨last, new, held, delivers⟩
  · have plain : Steps (fun _ call => True → call.Plain) store after :=
      Relation.ReflTransGen.mono (fun _ _ ⟨call, now, plain, same⟩ => ⟨call, now, fun _ => plain, same⟩) _ _ onward
    obtain ⟨last, held, new, delivers, announces⟩ := plain.mails kept found
    exact ⟨last, new, held, delivers, announces trivial⟩
  · have called : sent = store.call (.change id (.completeSend attemptID actionID result message)) now := by
      unfold Store.call
      simp only [sends]
    have keptHere : sent.Kept := called ▸ kept.call _ now
    obtain ⟨current, there, later, here, same⟩ : ∃ current, sent.records.get? id = some current ∧ ∃ later,
        current.messages.get? message.id = some later ∧ sendInput later = sendInput message := by
      obtain ⟨held, next, heldFound, applied, ⟨unchanged, rfl⟩ | ⟨_, other, _, _, records, _⟩⟩ := change_ok sends <;>
        obtain ⟨later, here, input⟩ := completeSend_delivers _ applied
      · obtain ⟨_, _, _, _, _, _, _, _, messages, _⟩ := unchanged
        exact ⟨held, heldFound, later, (AList.perm_lookup messages).trans here, input⟩
      · obtain ⟨runID, sound⟩ := kept id held heldFound
        have home : next.run.id = id := (Change.effect sound runID applied).1.runID.trans runID
        exact ⟨next.saved other.version (now 3), by rw [records, home, get?_put_self], later, here, input⟩
    obtain ⟨last, held, new, delivers, _⟩ := (any onward).mails keptHere there
    obtain ⟨final, stored, content, _⟩ := delivers.kept _ later here
    exact ⟨last, final, held, stored, by rw [content]; exact same⟩

end mailbox

attribute [local instance] Sha.spelled

def steeredRun : List Call :=
  [.create .sample (.sample 1 [.sample "a" .localSequential ["src/**"] .ready]),
    .change "run" (.sendMessage ⟨"m", parentAddress, "a", .steering, sampleDigest, false⟩)]

theorem mailbox_exactly_once_steered : ∃ snapshot, (sample.after steeredRun).records.get? "run" = some snapshot ∧
    (snapshot.messages.get? "m").isSome ∧ ∀ after, Steps (fun _ _ => True) (sample.after steeredRun) after →
      ∃ last new, after.records.get? "run" = some last ∧ Delivers new snapshot last := by
  obtain ⟨snapshot, found, sent⟩ : ∃ snapshot, (sample.after steeredRun).records.get? "run" = some snapshot ∧
      (snapshot.messages.get? "m").isSome := by decide +kernel
  exact ⟨snapshot, found, sent, (mailbox_exactly_once (Store.after_steps _ steeredRun) found).1⟩

/-! ### Identifiers that are no text

The service takes any bytes as the ID of a message. The store keeps a JSON clone of the snapshot, in which each byte
that belongs to no character is U+FFFD. -/

def jsonRunes (raw : ByteArray) : Nat → Nat → List Char
  | 0, _ => []
  | fuel + 1, offset => if raw.size ≤ offset then [] else match raw.utf8DecodeChar? offset with
    | some rune => rune :: jsonRunes raw fuel (offset + rune.utf8Size)
    | none => '\uFFFD' :: jsonRunes raw fuel (offset + 1)

def jsonText (raw : List UInt8) : String :=
  let content : ByteArray := ⟨raw.toArray⟩
  if valid : content.IsValidUTF8 then ⟨content, valid⟩ else String.ofList (jsonRunes content raw.length 0)

theorem jsonText_bytes (text : String) : jsonText (bytes text) = text := by
  have content : (⟨(bytes text).toArray⟩ : ByteArray) = text.toByteArray := by simp [bytes]
  simp only [jsonText, content, text.isValidUTF8, dite_true]

/-- `SendMessage` with the ID `raw`, whose event has the digest `announced`, as the store then keeps the snapshot.
The stored IDs are texts. Of two keys that JSON makes equal the later one in the order of the bytes is read. -/
def sendRaw [Sha] (snapshot : Snapshot) (raw : List UInt8) (message : Message) (announced : String) (now : Nat → Time) :
    Except Error Snapshot := do
  let message := { message with id := jsonText raw }
  validateSendMessage snapshot message
  let stored := snapshot.messages.get? message.id
  match if bytes message.id = raw then stored else none with
  | some existing =>
    require (sendInput existing = sendInput message) .actionConflict
    return snapshot
  | none =>
    let messages := if stored.isSome ∧ raw < bytes message.id then snapshot.messages
      else snapshot.messages.put message.id message
    return appendEvent { snapshot with messages }
      (if message.kind = .dependencyHandoff then .handoff else .steering) message.toTaskID "" "" announced (now 0)

/-- Of a text, it is `SendMessage`. -/
theorem sendRaw_text [Sha] (snapshot : Snapshot) (message : Message) (now : Nat → Time) :
    sendRaw snapshot (bytes message.id) message (digestStrings ["message", message.id, message.digest]) now =
      Prod.snd <$> sendMessage snapshot message now := by
  unfold sendRaw sendMessage
  simp only [jsonText_bytes, if_true, List.lt_irrefl, and_false, if_false]
  cases validateSendMessage snapshot message with
  | error => rfl
  | ok =>
    rw [ok_bind, ok_bind]
    cases snapshot.messages.get? message.id with
    | none => rfl
    | some existing => by_cases same : sendInput existing = sendInput message <;> simp [same, require]

def Store.steer [Sha] (store : Store) (raw : List UInt8) (digest : String) : Except Error Store :=
  Prod.snd <$> store.mutate "run" (fun snapshot => ((), ·) <$> Control.sendRaw snapshot raw
    ⟨"", parentAddress, "a", .steering, digest, false⟩ digest fun _ => Time.unixEpoch) Time.unixEpoch

def otherDigest : String := "sha256:" ++ String.ofList (.replicate 64 '1')

def Snapshot.mail (snapshot : Snapshot) : Nat × List (String × String) :=
  (snapshot.events.length, snapshot.messages.values.map fun message => (message.id, message.digest))

/-- The retry of a message appends a second event, and the next message replaces the first. -/
theorem raw_message_replaced :
    ∃ twice, (do (← (sample.after (steeredRun.take 1)).steer [0xff] sampleDigest).steer [0xff] sampleDigest) =
      .ok twice ∧
      (twice.records.get? "run").map (·.mail) = some (2, [("\uFFFD", sampleDigest)]) ∧
    ∃ last, twice.steer [0xfe] otherDigest = .ok last ∧
      (last.records.get? "run").map (·.mail) = some (3, [("\uFFFD", otherDigest)]) := by decide +kernel

end Paje.Control
