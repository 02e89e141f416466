import Paje.CodeChange.History

/-!
Publications rest on approvals: the publisher is called only for a run that was stored as publishing
with a decision for exactly what is published.
-/

namespace Paje.CodeChange

open Text Run List

section approvals

theorem sameStringMap_get? {one two : Table String} {key value : String} (same : sameStringMap one two = true)
    (held : one.get? key = some value) : (two.get? key).getD "" = value := by
  simp only [sameStringMap, Bool.and_eq_true, all_eq_true, decide_eq_true_eq] at same
  exact same.2 ⟨key, value⟩ (Table.mem_entries.mpr held)

theorem validHex_ne_empty {value : String} {length : Nat} (valid : validHex value length = true)
    (positive : 0 < length) : value ≠ "" := by
  rintro rfl
  simp only [validHex, Bool.and_eq_true, decide_eq_true_eq, String.length_empty] at valid
  omega

theorem validatePersistedApproval_ok {record : CodeRun} {asked : ApprovalRequest}
    (h : validatePersistedApproval record asked = .ok ()) :
    validHex asked.baseSHA 40 = true ∧ (∃ decision, record.approval = some decision ∧ decision.runID = asked.runID ∧
        decision.artifactDigest = asked.artifactDigest) ∧
      ∃ entry ∈ record.stages, entry.name = "approval" ∧ entry.status = .succeeded ∧
        sameStringMap entry.evidence (approvalEvidence asked) = true := by
  unfold validatePersistedApproval at h
  split at h
  · cases h
  · rename_i decision decided
    obtain ⟨_, checked, h⟩ := bind_ok h
    unfold validateDecision at checked
    obtain ⟨_, valid, checked⟩ := bind_ok checked
    obtain ⟨run, checked⟩ := require_bind_ok checked
    obtain ⟨digest, _⟩ := require_bind_ok checked
    unfold validateApprovalRequest at valid
    iterate 3 obtain ⟨_, valid⟩ := require_bind_ok valid
    obtain ⟨base, _⟩ := require_bind_ok valid
    split at h
    · cases h
    · rename_i entry found
      obtain ⟨succeeded, h⟩ := require_bind_ok h
      have latest := latestStage_some found
      exact ⟨base, ⟨decision, decided, run, digest⟩, entry, latest.mem, latest.named, succeeded, require_ok h⟩

theorem approvalEvidence_get? (asked : ApprovalRequest) : (approvalEvidence asked).get? "run_id" = some asked.runID ∧
      (approvalEvidence asked).get? "artifact_digest" = some asked.artifactDigest ∧
      (approvalEvidence asked).get? "base_sha" = some asked.baseSHA ∧
      (approvalEvidence asked).get? "repository" = some asked.repository ∧
      (approvalEvidence asked).get? "target_branch" = some asked.targetBranch ∧
      (approvalEvidence asked).get? "publication_branch" = some asked.publicationBranch := by
  simp [approvalEvidence, table, Table.get?_put]

structure Names (evidence : Table String) (request : PublisherRequest) : Prop where
  run : evidence.get? "run_id" = some request.runID
  artifact : evidence.get? "artifact_digest" = some request.artifact.digest
  base : evidence.get? "base_sha" = some request.baseSHA
  repository : evidence.get? "repository" = some request.repository
  target : evidence.get? "target_branch" = some request.targetRef
  branch : evidence.get? "publication_branch" = some request.branch

theorem names_of_same {request : PublisherRequest} {evidence : Table String} {written asked : ApprovalRequest}
    (is : evidence = approvalEvidence written) (same : sameStringMap evidence (approvalEvidence asked) = true)
    (run : asked.runID = request.runID) (artifact : asked.artifactDigest = request.artifact.digest)
    (base : asked.baseSHA = request.baseSHA) (repository : asked.repository = request.repository)
    (target : asked.targetBranch = request.targetRef) (branch : asked.publicationBranch = request.branch) :
    Names evidence request := by
  subst is
  obtain ⟨run₁, artifact₁, base₁, repository₁, target₁, branch₁⟩ := approvalEvidence_get? written
  obtain ⟨run₂, artifact₂, base₂, repository₂, target₂, branch₂⟩ := approvalEvidence_get? asked
  have agree : ∀ {key value other : String}, (approvalEvidence written).get? key = some value →
      (approvalEvidence asked).get? key = some other → (approvalEvidence written).get? key = some other := by
    intro key value other one two
    have := sameStringMap_get? same one
    rw [two] at this
    rw [one, ← this]
    rfl
  exact ⟨run ▸ agree run₁ run₂, artifact ▸ agree artifact₁ artifact₂, base ▸ agree base₁ base₂,
    repository ▸ agree repository₁ repository₂, target ▸ agree target₁ target₂, branch ▸ agree branch₁ branch₂⟩

variable [digests : Digests] {service : Service} {contents : Reference → Option Bundle} {pool : Service.Pool}
  {guard : Service.Pool → Exchanges → Ask → Prop} {first second record : CodeRun} {request : PublisherRequest}

def Calls (pool : Service.Pool) (request : PublisherRequest) : Prop :=
  ∃ worker ∈ pool.workers, (∃ answer, exchange (.publish request) answer ∈ worker.trace) ∨
    ∃ next, worker.rest = .ask (.publish request) next

structure ApprovedFor (request : PublisherRequest) (record : CodeRun) : Prop where
  run : record.id = request.runID
  status : record.status = .publishing
  decision : ∃ decision, record.approval = some decision ∧ decision.approved = true ∧
    decision.runID = request.runID ∧ decision.artifactDigest = request.artifact.digest
  entry : ∃ entry ∈ record.stages, entry.name = "approval" ∧ entry.status = .succeeded ∧ Names entry.evidence request

theorem Publishes.mono {trace rest : Exchanges} (publishes : Publishes service trace request) :
    Publishes service (trace ++ rest) request := by
  obtain ⟨runID, bound, started, loads, live, valid, agreed, mode, built, began⟩ := publishes
  exact ⟨runID, bound, started, loads.mono, live, valid, agreed, mode, built, began.mono⟩

theorem Service.Reaches.published (reached : service.Reaches contents guard pool) :
    ∀ worker ∈ pool.workers, ∀ request answer, exchange (.publish request) answer ∈ worker.trace →
      Publishes service worker.trace request := by
  refine Service.Reaches.always (fun pool => ∀ worker ∈ pool.workers, ∀ request answer,
    exchange (.publish request) answer ∈ worker.trace → Publishes service worker.trace request) ?_ ?_ ?_ reached
  · exact fun _ member => nomatch member
  · intro pool program held worker member request answer mentioned
    rcases mem_append.mp member with member | member
    · exact held worker member request answer mentioned
    · cases mem_singleton.mp member
      cases mentioned
  · intro pool index trace question next reply after _ held found allowed _ _ worker member request answer mentioned
    rcases mem_or_eq_of_mem_set member with member | rfl
    · exact held worker member request answer mentioned
    · rcases mem_append.mp mentioned with mentioned | mentioned
      · exact (held _ (mem_of_getElem? found) request answer mentioned).mono
      · cases mem_singleton.mp mentioned
        exact Publishes.mono allowed

theorem Service.Reaches.calls (reached : service.Reaches contents guard pool) (calls : Calls pool request) :
    ∃ worker ∈ pool.workers, Publishes service worker.trace request := by
  obtain ⟨worker, member, ⟨answer, mentioned⟩ | ⟨next, asks⟩⟩ := calls
  · exact ⟨worker, member, reached.published worker member request answer mentioned⟩
  · have meets := reached.coherent.2 worker member
    rw [asks] at meets
    exact ⟨worker, member, meets.1⟩

theorem decided_new {reservation : Reservation Input} (made : newRecord reservation = .ok record) : Decided record := by
  unfold newRecord at made
  obtain ⟨_, _, made⟩ := bind_ok made
  obtain ⟨_, _, made⟩ := bind_ok made
  cases pure_ok made
  exact fun _ member => nomatch member

theorem decided_write {write : Write} (sound : write.Sound service) (decided : Decided write.before) :
    Decided write.after := by
  obtain ⟨_, readings, next, applied, prepared⟩ := sound
  obtain ⟨_, _, _, _, _, same⟩ := prepareSave_ok prepared
  intro entry member
  rw [same] at member
  exact (apply_keeps applied).2 decided entry member

def requestFor (record : CodeRun) (reference : Reference) (profile : Profile) (bundle : Bundle) : PublisherRequest where
  runID := record.id
  repository := record.repositoryURI
  baseSHA := record.baseSHA
  targetRef := record.input.publication.targetBranch
  branch := publicationBranch record.id
  artifact := reference
  artifactManifest := some bundle.manifest
  workerProfile := some profile
  executionEvidence := some bundle.executionMetadata
  verification := bundle.verification
  title := if record.input.publication.title = "" then "Pajé code change " ++ record.id
    else record.input.publication.title
  body := "Automated Pajé code change.\n\nRun: " ++ record.id ++ "\nArtifact: sha256:" ++ reference.digest
  draft := record.input.publication.draft

theorem buildPublisherRequestWithBundle_ok {reference : Reference} {bundle : Bundle}
    (kept : record.artifact = some reference)
    (h : buildPublisherRequestWithBundle record record.input bundle = .ok request) :
    ∃ profile, record.workerProfile = some profile ∧ request = requestFor record reference profile bundle := by
  unfold buildPublisherRequestWithBundle buildPublisherRequest at h
  rw [kept] at h
  obtain ⟨core, same, h⟩ := bind_ok h
  cases same
  split at h
  · cases h
  · rename_i profile held
    obtain ⟨_, h⟩ := require_bind_ok h
    obtain ⟨_, _, h⟩ := bind_ok h
    exact ⟨profile, held, (pure_ok h).symm⟩

structure Grounds (contents : Reference → Option Bundle) (request : PublisherRequest) (record : CodeRun) : Prop where
  live : record.terminal = false
  mode : record.publicationMode = .pullRequest
  base : record.baseSHA ≠ ""
  built : ∃ reference profile bundle, record.artifact = some reference ∧ record.workerProfile = some profile ∧
    contents reference = some bundle ∧ request = requestFor record reference profile bundle
  decision : ∃ decision, record.approval = some decision ∧ decision.approved = true ∧
    decision.runID = request.runID ∧ decision.artifactDigest = request.artifact.digest
  entry : ∃ entry ∈ record.stages, entry.name = "approval" ∧ entry.status = .succeeded ∧
    ∃ asked, sameStringMap entry.evidence (approvalEvidence asked) = true ∧ asked.runID = request.runID ∧
      asked.artifactDigest = request.artifact.digest ∧ asked.baseSHA = request.baseSHA ∧
      asked.repository = request.repository ∧ asked.targetBranch = request.targetRef ∧
      asked.publicationBranch = request.branch

theorem validateRunBinding_input {record : CodeRun} {input : Input}
    (h : validateRunBinding service record = .ok input) : input = record.input := by
  unfold validateRunBinding at h
  obtain ⟨_, h⟩ := require_bind_ok h
  split at h
  · cases h
  · obtain ⟨same, h⟩ := require_bind_ok h
    obtain ⟨_, h⟩ := require_bind_ok h
    obtain ⟨_, h⟩ := require_bind_ok h
    obtain ⟨_, _, h⟩ := bind_ok h
    rw [← pure_ok h]
    exact same

theorem validateRunBinding_mode {input : Input} (h : validateRunBinding service record = .ok input) :
    record.publicationMode = record.input.publication.mode := by
  have same := validateRunBinding_input h
  unfold validateRunBinding at h
  obtain ⟨_, h⟩ := require_bind_ok h
  split at h
  · cases h
  · rename_i normal _
    obtain ⟨canonical, h⟩ := require_bind_ok h
    obtain ⟨fields, _⟩ := require_bind_ok h
    rw [fields.2.2.2.2, canonical]

variable {worker : Worker Ask Answer}

theorem Began.stored {runID : String} {started : CodeRun}
    (coherent : Coherent service contents pool) (member : worker ∈ pool.workers)
    (began : Began service worker.trace runID "publish" .publishing started) :
    started ∈ pool.state.stored ∧ started.id = runID ∧ started.status = .publishing := by
  obtain ⟨live, current, next, updates, saved⟩ := began
  obtain ⟨⟨version, rfl⟩, stored⟩ := coherent.answered worker member _ saved
  obtain ⟨id, _⟩ := coherent.answered worker member _ updates.loaded
  obtain ⟨readings, applied⟩ := updates.applied
  obtain ⟨publishing, same, _⟩ := beginStage_ok applied
  exact ⟨stored, same.trans id, publishing (by decide)⟩

theorem Publishes.grounds (coherent : Coherent service contents pool)
    (member : worker ∈ pool.workers) (publishes : Publishes service worker.trace request) :
    ∃ record ∈ pool.state.stored, Grounds contents request record ∧
      ∃ started ∈ pool.state.stored, started.id = record.id ∧ started.status = .publishing := by
  obtain ⟨runID, bound, started, loads, live, valid, agreed, mode, built, began⟩ := publishes
  obtain ⟨id, stored⟩ := coherent.answered worker member _ loads.loaded
  obtain ⟨begun, startedID, status⟩ := began.stored coherent member
  have held : contents bound.reference = some bound.bundle := coherent.answered worker member _ loads.bundle
  rw [validateRunBinding_input loads.input] at mode built valid
  obtain ⟨profile, resolved, rfl⟩ := buildPublisherRequestWithBundle_ok loads.artifact built
  obtain ⟨base, ⟨decision, decided, run, digest⟩, entry, kept, named, succeeded, evidence⟩ :=
    validatePersistedApproval_ok valid
  rw [decided] at agreed
  refine ⟨bound.record, stored, ?_, started, begun, startedID.trans id.symm, status⟩
  exact {
    live
    mode := (validateRunBinding_mode loads.input).trans mode
    base := validHex_ne_empty base (by decide)
    built := ⟨bound.reference, profile, bound.bundle, loads.artifact, resolved, held, rfl⟩
    decision := ⟨decision, decided, agreed, run, digest⟩
    entry := ⟨entry, kept, named, succeeded, _, evidence, rfl, rfl, rfl, rfl, rfl, rfl⟩ }

/-! ### The stored records of a published run -/

theorem Follows.approval (follows : Follows first second) {decision : Decision}
    (held : first.approval = some decision) : second.approval = some decision :=
  (follows.writtenOnce.approval (by simp [held])).trans held

theorem Grounds.request_eq {other : PublisherRequest} (one : Grounds contents request first)
    (two : Grounds contents other second) (follows : Follows first second) : request = other := by
  obtain ⟨reference, profile, bundle, artifact, resolved, held, rfl⟩ := one.built
  obtain ⟨reference', profile', bundle', artifact', resolved', held', rfl⟩ := two.built
  have once := follows.writtenOnce
  obtain ⟨_, _, input, _, repository, _⟩ := follows.identity
  have base : second.baseSHA = first.baseSHA := once.baseSHA one.base
  have sameArtifact := once.artifact (by simp [artifact])
  have sameProfile := (once.workerProfile (by simp [resolved])).1
  rw [artifact, artifact'] at sameArtifact
  rw [resolved, resolved'] at sameProfile
  cases sameArtifact
  cases sameProfile
  rw [held] at held'
  cases held'
  simp only [requestFor, follows.id, input, repository, base]

theorem Service.Reaches.declined (reached : service.Reaches contents guard pool) (member : record ∈ pool.state.stored)
    (status : record.status = .declined) : ∃ decision, record.approval = some decision ∧ decision.approved = false := by
  have valid := (reached.coherent.1.checked member).2
  unfold validateStatus at valid
  simp only [status] at valid
  obtain ⟨decision, held, refused⟩ := (Option.any_eq_true _ _).mp (require_ok valid)
  exact ⟨decision, held, by simpa using refused⟩

theorem Grounds.approvedFor (grounds : Grounds contents request first) (coherent : Coherent service contents pool)
    (member : first ∈ pool.state.stored) (decided : Decided first) (follows : Follows first second)
    (status : second.status = .publishing) : ApprovedFor request second := by
  obtain ⟨decision, held, agreed, run, digest⟩ := grounds.decision
  obtain ⟨entry, kept, named, succeeded, asked, same, bound⟩ := grounds.entry
  obtain ⟨written, evidence⟩ := decided entry kept named succeeded
  have id : first.id = request.runID := by
    obtain ⟨_, _, _, _, _, _, rfl⟩ := grounds.built
    rfl
  have finished := coherent.finished member kept (by simp [succeeded])
  obtain ⟨later, found, core⟩ := follows.keeps kept finished
  have laterName : later.name = entry.name := (congrArg StageResult.name core :)
  have laterStatus : later.status = entry.status := (congrArg StageResult.status core :)
  have laterEvidence : later.evidence = entry.evidence := (congrArg StageResult.evidence core :)
  obtain ⟨run', artifact, base, repository, target, branch⟩ := bound
  have names := names_of_same evidence same run' artifact base repository target branch
  exact {
    run := follows.id.trans id
    status
    decision := ⟨decision, follows.approval held, agreed, run, digest⟩
    entry := ⟨later, found, laterName.trans named, laterStatus.trans succeeded, laterEvidence ▸ names⟩ }

/-- The publisher is only called for an approved run, with one request for each run, and never for a declined one. -/
theorem publications_approved (reached : service.Reaches contents guard pool) :
    (∀ request, Calls pool request → ∃ record ∈ pool.state.stored, ApprovedFor request record) ∧
      (∀ one two, Calls pool one → Calls pool two → one.runID = two.runID → one = two) ∧
      ∀ request, Calls pool request → ∀ record ∈ pool.state.stored, record.id = request.runID →
        record.status ≠ .declined := by
  have coherent := reached.coherent.1
  have decided := Service.Reaches.stored (fun _ _ => decided_new) (fun _ => decided_write) reached
  have grounded : ∀ request, Calls pool request → ∃ record ∈ pool.state.stored,
      Grounds contents request record ∧ record.id = request.runID := by
    intro request calls
    obtain ⟨worker, member, publishes⟩ := reached.calls calls
    obtain ⟨record, stored, grounds, _⟩ := publishes.grounds coherent member
    obtain ⟨_, _, _, _, _, _, same⟩ := grounds.built
    exact ⟨record, stored, grounds, by rw [same]; rfl⟩
  refine ⟨?_, ?_, ?_⟩
  · intro request calls
    obtain ⟨worker, member, publishes⟩ := reached.calls calls
    obtain ⟨record, stored, grounds, started, begun, id, status⟩ := publishes.grounds coherent member
    have named := decided record stored
    rcases coherent.ordered record stored started begun id.symm with follows | follows
    · exact ⟨started, begun, grounds.approvedFor coherent stored named follows status⟩
    · -- the run was publishing when it was loaded already
      have publishing := follows.publishing status grounds.live
      exact ⟨record, stored, grounds.approvedFor coherent stored named .refl publishing⟩
  · intro one two first second same
    obtain ⟨record, stored, grounds, id⟩ := grounded one first
    obtain ⟨record', stored', grounds', id'⟩ := grounded two second
    rcases coherent.ordered record stored record' stored' (by rw [id, id', same]) with follows | follows
    · exact grounds.request_eq grounds' follows
    · exact (grounds'.request_eq grounds follows).symm
  · intro request calls record member same status
    obtain ⟨approved, stored, grounds, id⟩ := grounded request calls
    obtain ⟨decision, held, agreed, _⟩ := grounds.decision
    obtain ⟨refusal, refused, declined⟩ := reached.declined member status
    -- the decision is written once, whichever record is the later one
    have one : decision = refusal := by
      rcases coherent.ordered approved stored record member (id.trans same.symm) with follows | follows
      · exact Option.some.inj ((follows.approval held).symm.trans refused)
      · exact Option.some.inj (held.symm.trans (follows.approval refused))
    rw [one, declined] at agreed
    cases agreed

end approvals

/-! ### A run of a small service -/

namespace Sample

attribute [local instance] oneDigest

def publishedRun : List Move :=
  executedRun .pullRequest [check "build" true] 112 ++ .start (.approval "run" true) :: answered 2 11 (reviewed 20) ++
    .start (.publish "run") :: answered 3 6 (reviewed 30)

def publishedRequest (pool : Service.Pool) : Option PublisherRequest :=
  pool.workers.findSome? fun worker => worker.trace.findSome? fun entry =>
    match entry with
    | ⟨.publish request, _⟩ => some request
    | _ => none

theorem calls_of_publishedRequest {pool : Service.Pool} {request : PublisherRequest}
    (found : publishedRequest pool = some request) : Calls pool request := by
  obtain ⟨worker, member, found⟩ := exists_of_findSome?_eq_some found
  obtain ⟨⟨question, answer⟩, mentioned, found⟩ := exists_of_findSome?_eq_some found
  refine ⟨worker, member, .inl ?_⟩
  split at found
  · rename_i request' answer' same
    cases found
    cases same
    exact ⟨_, mentioned⟩
  · cases found

end Sample

section runs

open Sample

attribute [local instance] oneDigest

/-- A publication that was approved. -/
theorem publications_approved_run : ∃ pool request, Calls pool request ∧
    ∃ record ∈ pool.state.stored, ApprovedFor request record := by
  have found : ((service.play (holding bundle) (fun _ _ _ => true) publishedRun).bind
      publishedRequest).isSome = true := by decide +kernel
  obtain ⟨request, found⟩ := Option.isSome_iff_exists.mp found
  obtain ⟨pool, played, found⟩ := Option.bind_eq_some_iff.mp found
  have calls := calls_of_publishedRequest found
  have reached : service.Reaches _ (fun _ _ _ => True) pool := Service.play_reaches (fun _ _ _ _ => trivial) played
  exact ⟨pool, request, calls, (publications_approved reached).1 request calls⟩

end runs

end Paje.CodeChange
