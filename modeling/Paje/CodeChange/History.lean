import Paje.CodeChange.Effects
import Paje.CodeChange.Phases
import Paje.CodeChange.Schedule

/-!
The history of the store: the records of one run follow one another by accepted saves, and every
record that a worker was answered is one of them.
-/

namespace Paje.CodeChange

open Text Run List

section history

variable {stage : StageResult} {world : World} {question : Ask} {index : Nat} {trace : Exchanges}
  {workers : List (Worker Ask Answer)} {mutation : Mutation}
theorem legalEdge_publishing {record : CodeRun} {status : Status} (edge : LegalEdge record .publishing status) :
    status.terminal = true := by
  cases edge with
  | finish => rfl
  | stop live ends => rcases ends with rfl | rfl <;> rfl

def Recorded (contents : Reference → Option Bundle) (world : World) : (question : Ask) → Answer question → Prop
  | .load id, .ok record => record.id = id ∧ record ∈ world.stored
  | .save _ next _, .ok record => (∃ version, record = { next with version }) ∧ record ∈ world.stored
  | .loadArtifact reference, .ok bundle => contents reference = some bundle
  | _, _ => True

theorem Recorded.mono {contents : Reference → Option Bundle} {after : World} {answer : Answer question}
    (recorded : Recorded contents world question answer) (grows : world.stored ⊆ after.stored) :
    Recorded contents after question answer := by
  cases question
  case load id =>
    cases answer with
    | ok record => exact ⟨recorded.1, grows recorded.2⟩
    | error errors => trivial
  case save mutation next expected =>
    cases answer with
    | ok record => exact ⟨recorded.1, grows recorded.2⟩
    | error errors => trivial
  case loadArtifact reference =>
    cases answer with
    | ok bundle => exact recorded
    | error errors => trivial
  all_goals exact recorded

variable [digests : Digests] {service : Service} {guard : Service.Pool → Exchanges → Ask → Prop}

/-! ### Records that follow one another -/

/-- A later record of the same run, by accepted saves. -/
abbrev Follows : CodeRun → CodeRun → Prop := Relation.ReflTransGen Saves

section follows

variable {first second record : CodeRun}

theorem saves_same (saves : Saves first second) : sameImmutableIdentity first second = true := by
  obtain ⟨next, h⟩ := saves
  obtain ⟨_, _, same, _, _, rfl⟩ := prepareSave_ok h
  exact same

section

variable (follows : Follows first second)
include follows

theorem Follows.id : second.id = first.id := by
  induction follows with
  | refl => rfl
  | tail _ saves ih =>
    have same := saves_same saves
    simp only [sameImmutableIdentity, Bool.and_eq_true, decide_eq_true_eq] at same
    exact same.1.1.1.1.1.1.1.1.symm.trans ih

theorem Follows.identity :
    second.template = first.template ∧ second.inputHash = first.inputHash ∧ second.input = first.input ∧
      second.publicationMode = first.publicationMode ∧ second.repositoryURI = first.repositoryURI ∧
      second.baseRef = first.baseRef := by
  induction follows with
  | refl => exact ⟨rfl, rfl, rfl, rfl, rfl, rfl⟩
  | tail _ saves ih =>
    have same := saves_same saves
    simp only [sameImmutableIdentity, Bool.and_eq_true, decide_eq_true_eq] at same
    obtain ⟨⟨⟨⟨⟨⟨⟨⟨_, template⟩, _⟩, hash⟩, input⟩, mode⟩, repository⟩, ref⟩, _⟩ := same
    rw [← template, ← hash, ← input, ← mode, ← repository, ← ref]
    exact ih

theorem Follows.writtenOnce : WrittenOnce first second := by
  induction follows with
  | refl => exact ⟨fun _ => rfl, fun _ => ⟨rfl, rfl⟩, fun _ => rfl, fun _ => rfl, fun _ => rfl⟩
  | tail _ saves ih => exact ih.trans saves.writtenOnce

theorem Follows.version : first.version ≤ second.version := by
  induction follows with
  | refl => exact le_refl _
  | tail _ saves ih =>
    rw [saves.version]
    omega

theorem Follows.keeps (member : stage ∈ first.stages) (finished : stageFinished stage = true) :
    ∃ kept ∈ second.stages, kept.core = stage.core := by
  induction follows with
  | refl => exact ⟨stage, member, rfl⟩
  | tail _ saves ih =>
    obtain ⟨kept, held, same⟩ := ih
    have keptFinished : stageFinished kept = stageFinished stage := (congrArg stageFinished same :)
    obtain ⟨again, found, core⟩ := saves.extend.keeps held (keptFinished.trans finished)
    exact ⟨again, found, core.trans same⟩

end

theorem Follows.publishing (follows : Follows first second) (status : first.status = .publishing)
    (live : second.terminal = false) : second.status = .publishing := by
  induction follows with
  | refl => exact status
  | @tail mid last _ saves ih =>
    rcases saves.status with same | ⟨open_run, edge⟩ | compensates
    · have : mid.terminal = false := by
        rw [← live]
        simp only [Record.terminal, same]
      exact same ▸ ih this
    · rw [ih open_run] at edge
      have ended := legalEdge_publishing edge
      rw [Record.terminal, ended] at live
      cases live
    · rw [Record.terminal, compensates.canceled] at live
      cases live

theorem Follows.eq_of_version (follows : Follows first second) (same : first.version = second.version) :
    first = second := by
  cases follows with
  | refl => rfl
  | tail earlier saves =>
    have := Follows.version earlier
    rw [saves.version] at same
    omega

end follows

/-- An accepted save is its update applied to the record that it replaced. -/
def Write.Sound (service : Service) (write : Write) : Prop :=
  write.mutation.Named ∧ ∃ readings next, write.mutation.apply service readings write.before = .ok (some next) ∧
    prepareSave write.before next = .ok write.after

structure Coherent (service : Service) (contents : Reference → Option Bundle) (pool : Service.Pool) : Prop where
  keyed : ∀ id record, pool.state.records.get? id = some record → record.id = id ∧ record ∈ pool.state.stored
  newest : ∀ record ∈ pool.state.stored, ∃ current, pool.state.records.get? record.id = some current ∧
    Follows record current
  ordered : ∀ one ∈ pool.state.stored, ∀ other ∈ pool.state.stored, one.id = other.id →
    Follows one other ∨ Follows other one
  origin : ∀ record ∈ pool.state.stored, (∃ reservation, newRecord reservation = .ok record) ∨
    ∃ write ∈ pool.state.log, write.after = record
  logged : ∀ write ∈ pool.state.log, write.Sound service ∧ write.before ∈ pool.state.stored ∧
    write.after ∈ pool.state.stored
  answered : ∀ worker ∈ pool.workers, ∀ entry ∈ worker.trace, Recorded contents pool.state entry.1 entry.2

section coherent

variable {contents : Reference → Option Bundle} {pool : Service.Pool} {record : CodeRun}

section

variable (coherent : Coherent service contents pool)
include coherent

theorem Coherent.unique {one other : CodeRun} (first : one ∈ pool.state.stored)
    (second : other ∈ pool.state.stored) (id : one.id = other.id) (version : one.version = other.version) :
    one = other := by
  rcases coherent.ordered one first other second id with follows | follows
  · exact follows.eq_of_version version
  · exact (follows.eq_of_version version.symm).symm

theorem Coherent.checked (member : record ∈ pool.state.stored) :
    validateStages record.stages = .ok () ∧ validateStatus record = .ok () := by
  rcases coherent.origin record member with ⟨reservation, made⟩ | ⟨write, logged, rfl⟩
  · have valid := validate_ok (newRecord_ok made).2
    exact ⟨valid.2.1, valid.2.2.2.2.2.1⟩
  · obtain ⟨_, _, next, _, prepared⟩ := (coherent.logged write logged).1
    obtain ⟨_, _, _, _, valid, same⟩ := prepareSave_ok prepared
    rw [same]
    have parts := validate_ok valid
    exact ⟨parts.2.1, parts.2.2.2.2.2.1⟩

theorem Coherent.finished (member : record ∈ pool.state.stored)
    (held : stage ∈ record.stages) (stopped : stage.status ≠ .running) : stageFinished stage = true := by
  have stages := (coherent.checked member).1
  unfold validateStages at stages
  obtain ⟨_, each, _⟩ := bind_ok stages
  have valid := forM_ok.mp each stage held
  unfold validateStage at valid
  iterate 4 obtain ⟨_, valid⟩ := require_bind_ok valid
  obtain ⟨closed, _⟩ := require_bind_ok valid
  simp [stageFinished, stopped, closed stopped]

end

variable {after : World}

variable {next : Answer question → Phase Unit}

section

variable (coherent : Coherent service contents pool)
include coherent

theorem Coherent.answered_set {answer : Answer question}
    (found : pool.workers[index]? = some ⟨trace, .ask question next⟩)
    (grows : pool.state.stored ⊆ after.stored) (recorded : Recorded contents after question answer) :
    ∀ worker ∈ pool.workers.set index ⟨trace ++ [⟨question, answer⟩], next answer⟩,
      ∀ entry ∈ worker.trace, Recorded contents after entry.1 entry.2 := by
  intro worker member entry mentioned
  rcases mem_or_eq_of_mem_set member with member | rfl
  · exact (coherent.answered worker member entry mentioned).mono grows
  · rcases mem_append.mp mentioned with mentioned | mentioned
    · exact (coherent.answered _ (mem_of_getElem? found) entry mentioned).mono grows
    · obtain rfl := mem_singleton.mp mentioned
      exact recorded

theorem Coherent.put {log : List Write}
    (last : ∀ other ∈ pool.state.stored, other.id = record.id → Follows other record)
    (origin : (∃ reservation, newRecord reservation = .ok record) ∨ ∃ write ∈ log, write.after = record)
    (grows : pool.state.log ⊆ log) (logged : ∀ write ∈ log, write ∈ pool.state.log ∨
      write.Sound service ∧ write.before ∈ pool.state.stored ∧ write.after = record)
    (answered : ∀ worker ∈ workers, ∀ entry ∈ worker.trace,
      Recorded contents ⟨pool.state.records.put record.id record, pool.state.stored ++ [record], log⟩ entry.1 entry.2) :
    Coherent service contents
      ⟨⟨pool.state.records.put record.id record, pool.state.stored ++ [record], log⟩, workers⟩ := by
  have here : record ∈ pool.state.stored ++ [record] := mem_append_right _ mem_cons_self
  refine ⟨?_, ?_, ?_, ?_, ?_, answered⟩
  · intro key other held
    rw [Table.get?_put] at held
    split at held
    · rename_i same
      cases held
      exact ⟨same.symm, here⟩
    · exact (coherent.keyed key other held).imp_right (mem_append_left _)
  · intro other member
    simp only [Table.get?_put]
    rcases mem_append.mp member with member | member
    · by_cases same : other.id = record.id
      · exact ⟨record, if_pos same, last other member same⟩
      · rw [if_neg same]
        exact coherent.newest other member
    · cases mem_singleton.mp member
      exact ⟨record, if_pos rfl, .refl⟩
  · intro one first other second same
    rcases mem_append.mp first with first | first <;> rcases mem_append.mp second with second | second
    · exact coherent.ordered one first other second same
    · cases mem_singleton.mp second
      exact .inl (last one first same)
    · cases mem_singleton.mp first
      exact .inr (last other second same.symm)
    · cases mem_singleton.mp first
      cases mem_singleton.mp second
      exact .inl .refl
  · intro other member
    rcases mem_append.mp member with member | member
    · exact (coherent.origin other member).imp_right fun ⟨write, logged, same⟩ => ⟨write, grows logged, same⟩
    · cases mem_singleton.mp member
      exact origin
  · intro write member
    rcases logged write member with old | ⟨sound, before, rfl⟩
    · obtain ⟨sound, before, after⟩ := coherent.logged write old
      exact ⟨sound, mem_append_left _ before, mem_append_left _ after⟩
    · exact ⟨sound, mem_append_left _ before, here⟩

theorem Coherent.create {reservation : Reservation Input}
    (made : newRecord reservation = .ok record) (free : pool.state.records.get? record.id = none)
    (answered : ∀ worker ∈ workers, ∀ entry ∈ worker.trace,
      Recorded contents (pool.state.create record) entry.1 entry.2) :
    Coherent service contents ⟨pool.state.create record, workers⟩ := by
  refine coherent.put ?_ (.inl ⟨reservation, made⟩) (List.Subset.refl _) (fun _ member => .inl member) answered
  intro other member same
  -- no record of the run was stored before
  obtain ⟨current, found, _⟩ := coherent.newest other member
  cases (same ▸ found).symm.trans free

theorem Coherent.write {current next saved : CodeRun} (found : pool.state.records.get? next.id = some current)
    (prepared : prepareSave current next = .ok saved) (sound : Write.Sound service ⟨mutation, current, saved⟩)
    (answered : ∀ worker ∈ workers, ∀ entry ∈ worker.trace,
      Recorded contents (pool.state.write mutation current saved) entry.1 entry.2) :
    Coherent service contents ⟨pool.state.write mutation current saved, workers⟩ := by
  obtain ⟨named, stored⟩ := coherent.keyed _ _ found
  have saves : Saves current saved := ⟨next, prepared⟩
  have id : saved.id = current.id := Follows.id (.single saves)
  have listed : ⟨mutation, current, saved⟩ ∈ pool.state.log ++ [⟨mutation, current, saved⟩] :=
    mem_append_right _ mem_cons_self
  refine coherent.put ?_ (.inr ⟨_, listed, rfl⟩) (subset_append_left _ _) ?_ answered
  · intro other member same
    -- the replaced record is the newest of its run
    obtain ⟨newest, held, follows⟩ := coherent.newest other member
    rw [same, id, named, found] at held
    cases held
    exact follows.tail saves
  · intro write member
    rcases mem_append.mp member with member | member
    · exact .inl member
    · cases mem_singleton.mp member
      exact .inr ⟨sound, stored, rfl⟩

end

theorem Answers.stores {answer : Answer question}
    (answered : Answers contents world question answer after) : after = world ∨
      (∃ reservation record, newRecord reservation = .ok record ∧ after = world.create record) ∨
      ∃ mutation next expected current saved, question = .save mutation next expected ∧
        world.records.get? next.id = some current ∧ current.version = expected ∧
        prepareSave current next = .ok saved ∧ after = world.write mutation current saved := by
  cases question
  case reserve reservation =>
    cases answered with
    | failed | found => exact .inl rfl
    | created made => exact .inr (.inl ⟨_, _, made, rfl⟩)
  case save =>
    cases answered with
    | failed => exact .inl rfl
    | accepted stored version prepared => exact .inr (.inr ⟨_, _, _, _, _, rfl, stored, version, prepared, rfl⟩)
  case load | loadArtifact => exact .inl answered.1
  all_goals exact .inl answered

theorem Coherent.sound (coherent : Coherent service contents pool) {worker : Worker Ask Answer}
    (member : worker ∈ pool.workers) {next current saved : CodeRun} {expected : Nat}
    (allowed : Allowed service worker.trace (.save mutation next expected))
    (found : pool.state.records.get? next.id = some current) (version : current.version = expected)
    (prepared : prepareSave current next = .ok saved) : Write.Sound service ⟨mutation, current, saved⟩ := by
  obtain ⟨runID, loaded, about, ⟨answer, readings, applied⟩, rfl⟩ := allowed
  obtain ⟨loadedID, loadedStored⟩ := coherent.answered worker member _ answer
  obtain ⟨named, stored⟩ := coherent.keyed _ _ found
  have id : next.id = loaded.id := (apply_keeps applied).1
  obtain rfl : current = loaded := coherent.unique stored loadedStored (named.trans id) version
  exact ⟨about, readings, next, applied, prepared⟩

theorem Coherent.answer (coherent : Coherent service contents pool) {answer : Answer question}
    (found : pool.workers[index]? = some ⟨trace, .ask question next⟩) (allowed : Allowed service trace question)
    (answered : Answers contents pool.state question answer after) :
    Coherent service contents ⟨after, pool.workers.set index ⟨trace ++ [⟨question, answer⟩], next answer⟩⟩ := by
  have same : after = pool.state → Recorded contents after question answer →
      Coherent service contents ⟨after, pool.workers.set index ⟨trace ++ [⟨question, answer⟩], next answer⟩⟩ := by
    rintro rfl recorded
    exact ⟨coherent.keyed, coherent.newest, coherent.ordered, coherent.origin, coherent.logged,
      coherent.answered_set found (List.Subset.refl _) recorded⟩
  cases question
  case reserve reservation =>
    cases answered with
    | failed error => exact same rfl trivial
    | found stored reserved hash => exact same rfl trivial
    | created made free first answer outcome =>
      refine coherent.create made free (coherent.answered_set found (subset_append_left _ _) ?_)
      rcases outcome with rfl | ⟨error, rfl⟩ <;> trivial
  case load id =>
    obtain ⟨rfl, held⟩ := answered
    refine same rfl ?_
    cases answer with
    | ok record => exact coherent.keyed _ _ (held record rfl)
    | error errors => trivial
  case save mutation record expected =>
    cases answered with
    | failed errors => exact same rfl trivial
    | @accepted current saved stored version prepared answer outcome =>
      have sound := coherent.sound (mem_of_getElem? found) allowed stored version prepared
      refine coherent.write stored prepared sound (coherent.answered_set found (subset_append_left _ _) ?_)
      rcases outcome with rfl | ⟨errors, rfl⟩
      · refine ⟨?_, mem_append_right _ (mem_singleton.mpr rfl)⟩
        obtain ⟨_, _, _, _, _, rfl⟩ := prepareSave_ok prepared
        exact ⟨_, rfl⟩
      · trivial
  case loadArtifact reference =>
    obtain ⟨rfl, held⟩ := answered
    refine same rfl ?_
    cases answer with
    | ok bundle => exact held bundle rfl
    | error errors => trivial
  all_goals exact same answered trivial

theorem Service.Reaches.coherent (reached : service.Reaches contents guard pool) : Coherent service contents pool ∧
      ∀ worker ∈ pool.workers, worker.rest.Meets (Allowed service) (fun _ _ => True) worker.trace := by
  refine Pool.Reaches.invariant ?_ ?_ ?_ ?_ reached
  · rintro _ ⟨call, rfl⟩
    exact call.program_meets service
  · refine ⟨?_, ?_, ?_, ?_, ?_, ?_⟩
    · intro id record found
      cases found
    all_goals exact fun _ member => nomatch member
  · intro pool program _ coherent _
    refine ⟨coherent.keyed, coherent.newest, coherent.ordered, coherent.origin, coherent.logged, ?_⟩
    intro worker member entry mentioned
    rcases mem_append.mp member with member | member
    · exact coherent.answered worker member entry mentioned
    · cases mem_singleton.mp member
      cases mentioned
  · intro pool index trace question next answer after _ coherent found allowed _ answered
    exact coherent.answer found allowed answered

theorem Service.Reaches.always (holds : Service.Pool → Prop)
    (init : holds ⟨{}, []⟩)
    (start : ∀ pool program, holds pool → holds { pool with workers := pool.workers ++ [⟨[], program⟩] })
    (answer : ∀ pool index trace question next answer after, Coherent service contents pool → holds pool →
      pool.workers[index]? = some ⟨trace, .ask question next⟩ → Allowed service trace question →
      guard pool trace question → Answers contents pool.state question answer after →
      holds ⟨after, pool.workers.set index ⟨trace ++ [⟨question, answer⟩], next answer⟩⟩)
    (reached : service.Reaches contents guard pool) : holds pool := by
  suffices both : holds pool ∧
      ∀ worker ∈ pool.workers, worker.rest.Meets (Allowed service) (fun _ _ => True) worker.trace from both.1
  refine Pool.Reaches.invariant ?_ init ?_ ?_ reached
  · rintro _ ⟨call, rfl⟩
    exact call.program_meets service
  · exact fun pool program _ held _ => start pool program held
  · intro pool index trace question next reply after earlier held
    exact answer pool index trace question next reply after (Service.Reaches.coherent earlier).1 held

theorem Service.Reaches.logged {property : Write → Prop}
    (accepted : ∀ pool trace mutation next expected current saved,
      guard pool trace (.save mutation next expected) → pool.state.records.get? next.id = some current →
      Write.Sound service ⟨mutation, current, saved⟩ → property ⟨mutation, current, saved⟩)
    (reached : service.Reaches contents guard pool) : ∀ write ∈ pool.state.log, property write := by
  refine Service.Reaches.always (fun pool => ∀ write ∈ pool.state.log, property write) ?_ ?_ ?_ reached
  · exact fun _ member => nomatch member
  · exact fun _ _ held => held
  · intro pool index trace question next answer after coherent held found allowed met answered write member
    rcases answered.stores with rfl | ⟨_, _, _, rfl⟩ | ⟨_, _, _, _, _, rfl, stored, version, prepared, rfl⟩
    · exact held write member
    · exact held write member
    · rcases mem_append.mp member with member | member
      · exact held write member
      · cases mem_singleton.mp member
        exact accepted _ _ _ _ _ _ _ met stored
          (coherent.sound (mem_of_getElem? found) allowed stored version prepared)

theorem Service.Reaches.stored {property : CodeRun → Prop}
    (made : ∀ reservation record, newRecord reservation = .ok record → property record)
    (saved : ∀ write : Write, write.Sound service → property write.before → property write.after)
    (reached : service.Reaches contents guard pool) : ∀ record ∈ pool.state.stored, property record := by
  refine Service.Reaches.always (fun pool => ∀ record ∈ pool.state.stored, property record) ?_ ?_ ?_ reached
  · exact fun _ member => nomatch member
  · exact fun _ _ held => held
  · intro pool index trace question next answer after coherent held found allowed met answered record member
    rcases answered.stores with rfl | ⟨_, _, new, rfl⟩ | ⟨_, _, _, current, _, rfl, stored, version, prepared, rfl⟩
    · exact held record member
    · rcases mem_append.mp member with member | member
      · exact held record member
      · cases mem_singleton.mp member
        exact made _ _ new
    · rcases mem_append.mp member with member | member
      · exact held record member
      · cases mem_singleton.mp member
        have sound := coherent.sound (mem_of_getElem? found) allowed stored version prepared
        exact saved _ sound (held current (coherent.keyed _ _ stored).2)

end coherent

section rows

variable {contents : Reference → Option Bundle} {pool : Service.Pool}

theorem Follows.settled {first second : CodeRun} (follows : Follows first second) (ended : first.terminal = true) :
    second.status = first.status ∨ first.status = .failed ∧ second.status = .canceled := by
  induction follows with
  | refl => exact .inl rfl
  | @tail middle last _ saves ih =>
    have still : middle.terminal = true := by
      rcases ih with same | ⟨_, canceled⟩
      · rwa [Record.terminal, same]
      · rw [Record.terminal, canceled]
        rfl
    rcases saves.settled still with same | ⟨failed, canceled⟩
    · rwa [same]
    · rcases ih with same | ⟨_, already⟩
      · exact .inr ⟨same ▸ failed, canceled⟩
      · cases failed.symm.trans already

/-- No update is lost: a save applies its update to the record it replaces, and every record that is ever stored
for the run comes before the one or after the other. -/
theorem no_lost_update (reached : service.Reaches contents guard pool) :
    (∀ id current, pool.state.records.get? id = some current →
      ∀ record ∈ pool.state.stored, record.id = id → Follows record current) ∧
    ∀ write ∈ pool.state.log, write.Sound service ∧ ∀ record ∈ pool.state.stored, record.id = write.before.id →
      Follows record write.before ∨ Follows write.after record := by
  obtain ⟨coherent, _⟩ := Service.Reaches.coherent reached
  constructor
  · rintro _ current found record member rfl
    obtain ⟨newest, held, follows⟩ := coherent.newest record member
    cases held.symm.trans found
    exact follows
  · intro write member
    obtain ⟨sound, before, after⟩ := coherent.logged write member
    refine ⟨sound, fun record stored same => ?_⟩
    obtain ⟨_, _, _, _, prepared⟩ := sound
    have saves : Saves write.before write.after := ⟨_, prepared⟩
    have id : write.after.id = write.before.id := Follows.id (.single saves)
    rcases coherent.ordered record stored _ before same with earlier | later
    · exact .inl earlier
    rcases coherent.ordered record stored _ after (same.trans id.symm) with earlier | later'
    · -- between the versions of the two there is none
      have low := Follows.version later
      have high := Follows.version earlier
      rw [saves.version] at high
      rcases Nat.lt_or_ge write.before.version record.version with above | below
      · exact .inr (coherent.unique after stored (id.trans same.symm) (by rw [saves.version]; omega) ▸ .refl)
      · exact .inl (coherent.unique stored before same (by omega) ▸ .refl)
    · exact .inr later'

end rows

end history

open Sample

attribute [local instance] oneDigest

/-- Two workers on one run. -/
theorem no_lost_update_overtaken : ∃ pool : Service.Pool, pool.workers.length = 3 ∧ ∀ id current,
    pool.state.records.get? id = some current →
      ∀ record ∈ pool.state.stored, record.id = id → Follows record current := by
  obtain ⟨pool, played, workers⟩ : ∃ pool, service.play (fun _ => none) (fun _ _ _ => true) overtaken = some pool ∧
      pool.workers.length = 3 := by decide +kernel
  exact ⟨pool, workers, (no_lost_update (Service.play_reaches (fun _ _ _ _ => trivial) played)).1⟩

end Paje.CodeChange
