import Paje.Admission.History
import Paje.Lib.EventLog

/-!
The index of past transitions: what a replay keeps under the semantic and idempotency keys are the
records of the log's own entries, and it keeps each of them.
-/

namespace Paje.Admission

open Journal EventLog List Table

variable {log : List Entry} {p : Projection} {record : TransitionRecord}

theorem sameTransition_eq {one two : TransitionRecord} (same : sameTransition one two = true)
    (created : one.receipt.created = two.receipt.created) : one = two := by
  simp only [sameTransition, Bool.decide_and, Bool.and_eq_true, decide_eq_true_eq] at same
  obtain ⟨binding, request, outcome, action, reservation, event⟩ := same
  obtain ⟨_, _, _, ⟨_, _, _, _⟩⟩ := one
  obtain ⟨_, _, _, ⟨_, _, _, _⟩⟩ := two
  simp_all

def Recorded (log : List Entry) (record : TransitionRecord) : Prop :=
  ∃ entry ∈ log, ∃ request outcome, admissionComponent entry.result = .ok true ∧
    entry.requestRead = .admissionRequest request ∧ entry.result = .admissionOutcome outcome ∧
    record = recordOf entry request outcome

theorem Recorded.created (h : Recorded log record) : record.receipt.created = true := by
  obtain ⟨_, _, _, _, _, _, _, rfl⟩ := h
  rfl

theorem Recorded.mono {more : List Entry} (h : Recorded log record) : Recorded (log ++ more) record := by
  obtain ⟨entry, member, rest⟩ := h
  exact ⟨entry, mem_append_left _ member, rest⟩

variable [sha : Sha]

def TransitionRecord.semanticKey (record : TransitionRecord) : String :=
  semanticIndex record.binding.controlRunID record.binding.actionID record.binding.generation

def TransitionRecord.idempotencyKey (record : TransitionRecord) : String :=
  idempotencyIndex record.binding.controlRunID record.binding.idempotencyKey

theorem absorb_index {q : Projection} {entry : Entry} (h : p.absorb entry = .ok q) :
    (admissionComponent entry.result = .ok false ∧ q.transitions = p.transitions ∧ q.idempotency = p.idempotency) ∨
    ∃ record, Recorded [entry] record ∧
      (∀ prior ∈ p.transitions.get? record.semanticKey, sameTransition prior record = true) ∧
      q.transitions = p.transitions.put record.semanticKey record ∧
      q.idempotency = p.idempotency.put record.idempotencyKey record ∧
      ∀ other, Recorded [entry] other → other = record := by
  obtain ⟨foreign, rfl⟩ | ⟨request, outcome, read, result, valid, entered⟩ := absorb_ok h
  · exact .inl ⟨foreign, rfl, rfl⟩
  · obtain ⟨semantic, _, applied⟩ := enter_ok entered
    obtain ⟨_, _, transitions, idempotency⟩ := apply_frame applied
    have ours : admissionComponent entry.result = .ok true := by
      unfold validatePersistedTransition at valid
      obtain ⟨⟨_, named, _⟩, _⟩ := require_bind_ok valid
      simp [result, admissionComponent, named]
    refine .inr ⟨recordOf entry request outcome,
      ⟨entry, mem_singleton_self _, request, outcome, ours, read, result, rfl⟩, semantic,
      transitions, idempotency, ?_⟩
    rintro other ⟨entry', member, request', outcome', _, read', result', rfl⟩
    cases mem_singleton.mp member
    cases read.symm.trans read'
    cases result.symm.trans result'
    rfl

variable {installationID : String}

theorem replay_index (replayed : replay installationID log = .ok p) :
    (∀ key record, p.transitions.get? key = some record → Recorded log record) ∧
    (∀ key record, p.idempotency.get? key = some record → Recorded log record) ∧
    ∀ record, Recorded log record → p.transitions.get? record.semanticKey = some record := by
  induction log using List.reverseRecOn generalizing p with
  | nil =>
    cases pure_ok replayed
    refine ⟨(fun _ _ found => nomatch found), (fun _ _ found => nomatch found), ?_⟩
    rintro record ⟨_, member, _⟩
    cases member
  | append_singleton log entry ih =>
    obtain ⟨before, replayed, absorbed⟩ := fold_snoc replayed
    obtain ⟨semantic, idempotent, held⟩ := ih replayed
    have old : ∀ record, Recorded (log ++ [entry]) record → Recorded log record ∨ Recorded [entry] record := by
      rintro record ⟨found, member, rest⟩
      rcases mem_append.mp member with inLog | last
      · exact .inl ⟨found, inLog, rest⟩
      · exact .inr ⟨found, last, rest⟩
    have last : ∀ record, Recorded [entry] record → Recorded (log ++ [entry]) record := by
      rintro record ⟨found, member, rest⟩
      exact ⟨found, mem_append_right _ member, rest⟩
    obtain ⟨foreign, transitions, idempotency⟩ |
      ⟨record, mine, same, transitions, idempotency, unique⟩ := absorb_index absorbed
    · rw [transitions, idempotency]
      refine ⟨fun key record found => (semantic key record found).mono,
        fun key record found => (idempotent key record found).mono, fun record recorded => ?_⟩
      rcases old record recorded with before | ⟨_, member, _, _, ours, _⟩
      · exact held record before
      · cases mem_singleton.mp member
        cases ours.symm.trans foreign
    · rw [transitions, idempotency]
      refine ⟨fun key other found => ?_, fun key other found => ?_, fun other recorded => ?_⟩
      · rw [get?_put] at found
        split at found
        · cases found
          exact last _ mine
        · exact (semantic key other found).mono
      · rw [get?_put] at found
        split at found
        · cases found
          exact last _ mine
        · exact (idempotent key other found).mono
      · rcases old other recorded with before | new
        · rw [get?_put]
          split
          · rename_i key
            have prior := held other before
            rw [key] at prior
            rw [sameTransition_eq (same other prior) (before.created.trans mine.created.symm)]
          · exact held other before
        · rw [unique other new, get?_put_self]

theorem absorb_released {q : Projection} {entry : Entry} (absorbed : p.absorb entry = .ok q)
    {key : String} {value : RunAdmission} (found : p.admissions.get? key = some value)
    (released : value.state = .released) : q.admissions.get? key = some value := by
  obtain ⟨_, rfl⟩ | ⟨request, outcome, _, _, _, entered⟩ := absorb_ok absorbed
  · exact found
  · have applied := apply_iff.mp (enter_ok entered).2.2
    simp only [recordOf] at applied
    generalize outcome.effect = effect at applied
    cases applied with
    | admission follows _ =>
      refine (get?_put_other _ _ ?_).trans found
      rintro rfl
      have step := (follows value found).2
      rw [released] at step
      cases step
    | admissionTombstone held live =>
      refine (get?_put_other _ _ ?_).trans found
      rintro rfl
      cases held.symm.trans found
      exact live released
    | _ => exact found

theorem replay_released (replayed : replay installationID log = .ok p)
    (recorded : Recorded log record) {value : AdmissionTombstone}
    (ended : record.outcome.effect = .admissionTombstone value) :
    ∃ admission, p.admissions.get? (scopedID record.binding.controlRunID value.subject.id) =
      some admission ∧ admission.state = .released := by
  induction log using List.reverseRecOn generalizing p with
  | nil =>
    obtain ⟨_, member, _⟩ := recorded
    cases member
  | append_singleton log entry ih =>
    obtain ⟨before, replayed, absorbed⟩ := fold_snoc replayed
    obtain ⟨found, member, request, outcome, ours, read, result, rfl⟩ := recorded
    rcases mem_append.mp member with inLog | last
    · obtain ⟨admission, held, released⟩ :=
        ih replayed ⟨found, inLog, request, outcome, ours, read, result, rfl⟩
      exact ⟨admission, absorb_released absorbed held released, released⟩
    · cases mem_singleton.mp last
      obtain ⟨foreign, _⟩ | ⟨request', outcome', read', result', _, entered⟩ := absorb_ok absorbed
      · cases ours.symm.trans foreign
      · cases read.symm.trans read'
        cases result.symm.trans result'
        have applied := apply_iff.mp (enter_ok entered).2.2
        simp only [recordOf] at ended applied
        rw [ended] at applied
        cases applied
        exact ⟨_, get?_put_self .., rfl⟩

end Paje.Admission
