import Paje.Lib.Path
import Paje.CodeChange.Binding

/-!
Repository identities. A submitted URI is rewritten to one that names host, owner and name; a policy
entry is read by rules of its own. Both take the suffix `.git` off the name, the first one twice.
-/

namespace Paje.Submission

open Text CodeChange

structure RepositoryScope where
  host : String
  owner : String
  name : String
  deriving DecidableEq

def RepositoryScope.uri (scope : RepositoryScope) : String :=
  "https://" ++ scope.host ++ "/" ++ scope.owner ++ "/" ++ scope.name ++ ".git"

/-- `strings.ToLower` of an ASCII text. -/
def toLower (text : String) : String := String.ofList (text.toList.map Char.toLower)

def RepositoryScope.lowered (scope : RepositoryScope) : RepositoryScope :=
  if scope.host = "github.com" then
    { scope with owner := toLower scope.owner, name := toLower scope.name }
  else scope

def separators : List Char := ['/', ':', '@', '\x00', '\r', '\n']

def RepositoryScope.Valid (scope : RepositoryScope) : Prop :=
  scope.host ≠ "" ∧ scope.host.toList.all (· ∉ separators) ∧ safeRepositoryComponent scope.owner ∧
    safeRepositoryComponent scope.name

instance (scope : RepositoryScope) : Decidable scope.Valid := inferInstanceAs (Decidable (_ ∧ _))

/-- What stands between the slashes of the path. -/
def pathParts (url : URL) : List String := (splitSlash (dropStart "/" url.path).toList).map String.ofList

def remote (url : URL) : Bool :=
  url.scheme = "https" && url.opaquePart = "" && !url.user && url.rawQuery = "" && url.fragment = "" &&
    url.hostname ≠ "" && url.port = "" && url.rawPath = ""

def lineBreaking (text : String) : Bool := text.toList.any (· ∈ ['\x00', '\r', '\n'])

/-- `url.Parse` and, for host names, `strings.ToLower`, with what the parsers rely on. Of a URI that
was composed of a parsed host and plain names, only the host can be read differently. -/
structure Library where
  parse : String → Option URL
  lower : String → String
  printable : ∀ {raw url}, parse raw = some url → url.fragment = "" → lineBreaking raw = false
  hierarchical : ∀ {raw url}, parse raw = some url → url.host ≠ "" → url.opaquePart = ""
  composed : ∀ {raw url again} {scope : RepositoryScope}, parse raw = some url →
    scope.host = lower (trimSpace (lower url.hostname)) → scope.Valid → parse scope.uri = some again → again = {
      scheme := "https"
      host := again.host
      hostname := again.hostname
      path := "/" ++ scope.owner ++ "/" ++ scope.name ++ ".git" }

namespace Library

variable (lib : Library)

def trimmed (scope : RepositoryScope) : RepositoryScope where
  host := lib.lower (trimSpace scope.host)
  owner := trimSpace scope.owner
  name := dropEnd ".git" (trimSpace scope.name)

def canonicalRepositoryScope (scope : RepositoryScope) : Except String RepositoryScope := do
  require (lib.trimmed scope).Valid "repository scope is invalid"
  return (lib.trimmed scope).lowered

def parseRepository (raw : String) : Except String (RepositoryScope × String) := do
  let raw := trimSpace raw
  require (raw ≠ "" ∧ lineBreaking raw = false) "repository is invalid"
  match lib.parse raw with
  | none => .error "repository must be a credential-free HTTPS URL"
  | some url => do
    require (remote url) "repository must be a credential-free HTTPS URL"
    match pathParts url with
    | [owner, name] => do
      let canonical ← lib.canonicalRepositoryScope ⟨lib.lower url.hostname, owner, dropEnd ".git" name⟩
      let canonical := canonical.lowered
      return (canonical, canonical.uri)
    | _ => .error "repository path must contain owner and repository"

def repositoryAllowed (scopes : List RepositoryScope) (candidate : RepositoryScope) : Bool :=
  scopes.any fun scope => lib.canonicalRepositoryScope scope = .ok candidate

def validRepositoryHost (host : String) : Bool :=
  host ≠ "" && host.utf8ByteSize ≤ 253 && !beginsWith "." host && !endsWith "." host &&
    (host.toList.splitOn '.').all fun label => label ≠ [] && label.length ≤ 63 && label.head? ≠ some '-' &&
      label.getLast? ≠ some '-' && label.all fun c => Run.lowerLetter c || Run.digit c || c = '-'

def safeRepositoryPart (value : String) : Bool := safeRepositoryComponent value && value.utf8ByteSize ≤ 253

/-- The entry of a policy. -/
def canonicalRepository (raw : String) : Except String RepositoryScope := do
  require (trimSpace raw = raw ∧ raw ≠ "" ∧ '\\' ∉ raw.toList) "invalid repository"
  match lib.parse raw with
  | none => .error "invalid repository"
  | some url => do
    require (url.scheme = "https" ∧ url.user = false ∧ url.host ≠ "" ∧ url.port = "" ∧ url.rawQuery = "" ∧
      url.fragment = "" ∧ url.rawPath = "") "invalid repository"
    require (url.hostname = lib.lower url.hostname ∧ validRepositoryHost url.hostname) "invalid repository"
    require (clean url.path = url.path ∧ endsWith "/" url.path = false) "invalid repository"
    match pathParts url with
    | [owner, full] => do
      let name := dropEnd ".git" full
      require (safeRepositoryPart owner ∧ safeRepositoryPart name ∧ (full = name ∨ full = name ++ ".git"))
        "invalid repository"
      return RepositoryScope.lowered ⟨url.hostname, owner, name⟩
    | _ => .error "invalid repository"

/-- What a URI spells, normalised but not checked. -/
def spelled (raw : String) : RepositoryScope :=
  match lib.parse (trimSpace raw) with
  | none => ⟨"", "", ""⟩
  | some url => (lib.trimmed ⟨lib.lower url.hostname, (pathParts url).headD "",
    dropEnd ".git" ((pathParts url).getLastD "")⟩).lowered

/-- `url.Parse` finds the host of the scope again in the URI that was composed of it. -/
def ReadsBack (scope : RepositoryScope) : Prop :=
  ∃ url, lib.parse scope.uri = some url ∧ url.hostname ≠ "" ∧
    lib.lower (trimSpace (lib.lower url.hostname)) = scope.host

/-- The host that a URI spells reads back, and its name has no suffix left. -/
def StableURI (raw : String) : Prop := lib.ReadsBack (lib.spelled raw) ∧ endsWith ".git" (lib.spelled raw).name = false

/-- The name in a policy entry, without its suffix. -/
def entryName (entry : String) : String :=
  match lib.parse entry with
  | none => ""
  | some url => dropEnd ".git" ((pathParts url).getLastD "")

/-- On GitHub the name has no suffix that only lower-casing makes one. -/
def StableEntry (entry : String) (policy : RepositoryScope) : Prop :=
  policy.host = "github.com" → endsWith ".git" (toLower (lib.entryName entry)) = true →
    endsWith ".git" (lib.entryName entry) = true

end Library

def plain (c : Char) : Bool := Run.alphanumeric c || c = '-' || c = '_' || c = '.'

theorem plain_facts {c : Char} (h : plain c = true) : isSpace c = false ∧ c ∉ separators ∧ plain c.toLower = true ∧
    (c.toLower = '.' ↔ c = '.') := by
  have small : c.toNat < 128 := by
    simp only [plain, Run.alphanumeric, Run.lowerLetter, Run.upperLetter, Run.digit, Bool.or_eq_true,
      Bool.and_eq_true, decide_eq_true_eq, or_assoc] at h
    rcases h with h | h | h | rfl | rfl | rfl
    · exact lt_of_le_of_lt (b := 122) h.2 (by decide)
    · exact lt_of_le_of_lt (b := 90) h.2 (by decide)
    · exact lt_of_le_of_lt (b := 57) h.2 (by decide)
    all_goals decide
  have each : ∀ n : Fin 128, plain (Char.ofNat n) = true → isSpace (Char.ofNat n) = false ∧
      Char.ofNat n ∉ separators ∧ plain (Char.ofNat n).toLower = true ∧
      ((Char.ofNat n).toLower = '.' ↔ Char.ofNat n = '.') := by decide +kernel
  have this := each ⟨c.toNat, small⟩
  rw [Char.ofNat_toNat] at this
  exact this h

variable {text : String}

theorem safe_iff : safeRepositoryComponent text = true ↔
    text ∉ ["", ".", ".."] ∧ ∀ c ∈ text.toList, plain c = true := by
  simp [safeRepositoryComponent, plain, and_assoc]

theorem trimSpace_plain (h : ∀ c ∈ text.toList, isSpace c = false) : trimSpace text = text := by
  have whole : ∀ {cs : List Char}, (∀ c ∈ cs, isSpace c = false) → cs.dropWhile isSpace = cs := fun none =>
    List.dropWhile_eq_self_iff.mpr fun some => by simp [none _ (List.getElem_mem some)]
  rw [trimSpace, whole h, whole (by simpa using h), List.reverse_reverse, String.ofList_toList]

theorem safe_trimmed (safe : safeRepositoryComponent text = true) : trimSpace text = text :=
  trimSpace_plain fun c member => (plain_facts ((safe_iff.mp safe).2 c member)).1

theorem safe_slash (safe : safeRepositoryComponent text = true) : '/' ∉ text.toList :=
  fun member => (plain_facts ((safe_iff.mp safe).2 _ member)).2.1 (by decide)

theorem safe_toLower (h : ∀ c ∈ text.toList, plain c = true) :
    safeRepositoryComponent (toLower text) = safeRepositoryComponent text := by
  have dot := fun c member => (plain_facts (h c member)).2.2.2
  have dots : toLower text ∈ ["", ".", ".."] ↔ text ∈ ["", ".", ".."] := by
    simp only [toLower, ← String.toList_inj, String.toList_ofList, List.mem_cons, List.not_mem_nil, or_false]
    generalize text.toList = cs at dot
    rcases cs with _ | ⟨a, _ | ⟨b, _ | ⟨c, rest⟩⟩⟩ <;> simp_all
  rw [Bool.eq_iff_iff, safe_iff, safe_iff, dots, toLower, String.toList_ofList]
  refine and_congr_right fun _ => iff_of_true (List.forall_mem_map.mpr fun c member => ?_) h
  exact (plain_facts (h c member)).2.2.1

theorem lowered_host (scope : RepositoryScope) : scope.lowered.host = scope.host := by
  unfold RepositoryScope.lowered
  split <;> rfl

theorem lowered_length (scope : RepositoryScope) : scope.lowered.name.length = scope.name.length := by
  unfold RepositoryScope.lowered
  split
  · simp [toLower, String.length_toList]
  · rfl

theorem lowered_lowered (scope : RepositoryScope) : scope.lowered.lowered = scope.lowered := by
  have twice : Char.toLower ∘ Char.toLower = Char.toLower := by
    funext c
    delta Function.comp Char.toLower
    grind
  unfold RepositoryScope.lowered
  split <;> simp_all [toLower]

theorem lowered_valid {scope : RepositoryScope} (valid : scope.Valid) : scope.lowered.Valid := by
  obtain ⟨given, apart, owner, name⟩ := valid
  unfold RepositoryScope.lowered
  split
  · exact ⟨given, apart, (safe_toLower (safe_iff.mp owner).2).trans owner,
      (safe_toLower (safe_iff.mp name).2).trans name⟩
  · exact ⟨given, apart, owner, name⟩

theorem dropEnd_git {name : String} : dropEnd ".git" name = name ↔ endsWith ".git" name = false := by
  constructor
  · intro kept
    by_contra ends
    obtain ⟨front, rfl⟩ := endsWith_iff.mp (by simpa using ends)
    rw [dropEnd_append] at kept
    simpa using congrArg String.length kept
  · intro ends
    simp [dropEnd, ends]

theorem trimSpace_uri (scope : RepositoryScope) : trimSpace scope.uri = scope.uri := by
  rw [← String.toList_inj]
  simp [trimSpace, RepositoryScope.uri, isSpace]

theorem pathParts_pair {url : URL} {one two : String} (path : url.path = "/" ++ one ++ "/" ++ two)
    (first : '/' ∉ one.toList) (second : '/' ∉ two.toList) : pathParts url = [one, two] := by
  have joined := @List.splitOn_intercalate _ [one.toList, two.toList] _ _ '/' (by simp [first, second]) (by simp)
  rw [pathParts, path, String.append_assoc, String.append_assoc, dropStart_append, splitSlash_eq]
  simpa using congrArg (List.map String.ofList) joined

theorem uri_inj {one two : RepositoryScope} (valid : ∀ scope ∈ [one, two], scope.Valid) (same : one.uri = two.uri) :
    one = two := by
  have parts : ∀ scope ∈ [one, two], scope.uri.toList.splitOn '/' =
      ["https:".toList, [], scope.host.toList, scope.owner.toList, (scope.name ++ ".git").toList] := by
    intro scope member
    obtain ⟨_, apart, owner, name⟩ := valid scope member
    have host : '/' ∉ scope.host.toList := fun slash => absurd (List.all_eq_true.mp apart _ slash) (by decide)
    simpa [RepositoryScope.uri] using @List.splitOn_intercalate _ ["https:".toList, [], scope.host.toList,
      scope.owner.toList, (scope.name ++ ".git").toList] _ _ '/' (by simp [host, safe_slash owner, safe_slash name])
      (by simp)
  have both := (parts one (by simp)).symm.trans (same ▸ parts two (by simp))
  cases one
  cases two
  simpa [String.toList_inj] using both

section identity

variable {lib : Library} {raw uri : String} {scope canonical : RepositoryScope}

theorem canonicalRepositoryScope_iff : lib.canonicalRepositoryScope scope = .ok canonical ↔
    (lib.trimmed scope).Valid ∧ canonical = (lib.trimmed scope).lowered := by
  rw [Library.canonicalRepositoryScope, check_bind_ok, require_iff, pure_iff]

theorem canonical_lowered (h : lib.canonicalRepositoryScope scope = .ok canonical) :
    canonical.Valid ∧ canonical.lowered = canonical := by
  obtain ⟨valid, rfl⟩ := canonicalRepositoryScope_iff.mp h
  exact ⟨lowered_valid valid, lowered_lowered _⟩

theorem parseRepository_iff : lib.parseRepository raw = .ok (scope, uri) ↔ trimSpace raw ≠ "" ∧
    ∃ url, lib.parse (trimSpace raw) = some url ∧ remote url ∧ ∃ owner name, pathParts url = [owner, name] ∧
      lib.canonicalRepositoryScope ⟨lib.lower url.hostname, owner, dropEnd ".git" name⟩ = .ok scope ∧
      uri = scope.uri := by
  unfold Library.parseRepository
  simp only [check_bind_ok, require_iff]
  cases parsed : lib.parse (trimSpace raw) with
  | none => simp
  | some url =>
    have printable (far : remote url = true) : lineBreaking (trimSpace raw) = false := by
      simp only [remote, Bool.and_eq_true, decide_eq_true_eq] at far
      exact lib.printable parsed far.1.1.1.2
    simp only [check_bind_ok, require_iff, Option.some.injEq, exists_eq_left', and_assoc]
    refine and_congr_right fun _ => (and_iff_right_of_imp fun h => printable h.1).trans (and_congr_right fun _ => ?_)
    split
    · rename_i owner name split
      constructor
      · intro h
        obtain ⟨canonical, canon, h⟩ := bind_ok h
        rw [(canonical_lowered canon).2] at h
        cases pure_ok h
        exact ⟨owner, name, split, canon, rfl⟩
      · rintro ⟨_, _, again, canon, rfl⟩
        cases split.symm.trans again
        rw [canon, ok_bind, (canonical_lowered canon).2]
        rfl
    · rename_i other
      constructor
      · intro h
        cases h
      · rintro ⟨owner, name, split, _⟩
        exact absurd split (other owner name)

/-- A normal form is one again as long as its name has no suffix left. -/
theorem canonical_again {host : String} (valid : scope.Valid) (lowered : scope.lowered = scope) :
    lib.canonicalRepositoryScope ⟨host, scope.owner, scope.name⟩ = .ok scope ↔
      lib.lower (trimSpace host) = scope.host ∧ endsWith ".git" scope.name = false := by
  have trims := safe_trimmed valid.2.2.1
  rw [canonicalRepositoryScope_iff, Library.trimmed, trims, safe_trimmed valid.2.2.2]
  constructor
  · rintro ⟨_, same⟩
    have host := congrArg RepositoryScope.host same
    have length := congrArg (String.length ∘ RepositoryScope.name) same
    rw [lowered_host] at host
    rw [Function.comp_apply, Function.comp_apply, lowered_length] at length
    refine ⟨host.symm, ?_⟩
    by_contra ends
    obtain ⟨front, split⟩ := endsWith_iff.mp (by simpa using ends)
    simp [split, dropEnd_append] at length
  · rintro ⟨same, ends⟩
    rw [dropEnd_git.mpr ends, same]
    exact ⟨valid, lowered.symm⟩

theorem reparsed_iff (parsed : lib.parseRepository raw = .ok (scope, uri)) :
    lib.parseRepository uri = .ok (scope, uri) ↔ lib.StableURI raw := by
  obtain ⟨_, first, read, _, _, _, split, canon, rfl⟩ := parseRepository_iff.mp parsed
  obtain ⟨valid, lowered⟩ := canonical_lowered canon
  have spelled : lib.spelled raw = scope := by
    rw [(canonicalRepositoryScope_iff.mp canon).2, Library.spelled, read]
    simp only [split, List.headD_cons, List.getLastD_cons, List.getLastD_nil]
  have host : scope.host = lib.lower (trimSpace (lib.lower first.hostname)) := by
    rw [(canonicalRepositoryScope_iff.mp canon).2, lowered_host, Library.trimmed]
  have parts : ∀ url, lib.parse scope.uri = some url → pathParts url = [scope.owner, scope.name ++ ".git"] ∧
      (remote url ↔ url.hostname ≠ "") := by
    intro url again
    have whole := lib.composed read host valid again
    obtain ⟨_, _, owner, name⟩ := valid
    constructor
    · refine pathParts_pair ?_ (safe_slash owner) (by simp [safe_slash name])
      rw [whole, String.append_assoc]
    · rw [whole]
      simp [remote]
  have nonempty : scope.uri ≠ "" := by
    rw [← String.toList_inj.ne]
    simp [RepositoryScope.uri]
  rw [Library.StableURI, spelled, parseRepository_iff, trimSpace_uri, and_iff_right nonempty]
  constructor
  · rintro ⟨url, again, far, _, _, split, canon', _⟩
    obtain ⟨split', named⟩ := parts url again
    cases split'.symm.trans split
    rw [dropEnd_append, canonical_again valid lowered] at canon'
    exact ⟨⟨url, again, named.mp far, canon'.1⟩, canon'.2⟩
  · rintro ⟨⟨url, again, named, same⟩, ends⟩
    obtain ⟨split, remotely⟩ := parts url again
    refine ⟨url, again, remotely.mpr named, _, _, split, ?_, rfl⟩
    rw [dropEnd_append, canonical_again valid lowered]
    exact ⟨same, ends⟩

theorem validRepositoryHost_plain {host : String} (valid : Library.validRepositoryHost host = true) :
    host ≠ "" ∧ ∀ c ∈ host.toList, plain c = true := by
  simp only [Library.validRepositoryHost, Bool.and_eq_true, decide_eq_true_eq, List.all_eq_true] at valid
  refine ⟨valid.1.1.1.1, fun c member => ?_⟩
  rw [← host.toList.intercalate_splitOn '.'] at member
  rcases mem_intercalate member with dot | ⟨label, listed, inside⟩
  · cases List.mem_singleton.mp dot
    decide
  · have letter := (valid.2 label listed).2 c inside
    simp only [plain, Run.alphanumeric]
    grind

variable {policy : RepositoryScope}

/-- An accepted entry reads like a submitted URI, except that its name loses one suffix only. -/
theorem canonicalRepository_reads {entry : String}
    (accepted : lib.canonicalRepository entry = .ok policy) : ∃ scope : RepositoryScope, scope.lowered = policy ∧
      scope.name = lib.entryName entry ∧ scope.Valid ∧ lib.lower (trimSpace scope.host) = scope.host ∧
      ∀ found uri, lib.parseRepository entry = .ok (found, uri) ↔
        lib.canonicalRepositoryScope scope = .ok found ∧ uri = found.uri := by
  unfold Library.canonicalRepository at accepted
  obtain ⟨⟨trims, given, _⟩, accepted⟩ := require_bind_ok accepted
  cases parsed : lib.parse entry with
  | none =>
    rw [parsed] at accepted
    cases accepted
  | some url =>
    rw [parsed] at accepted
    obtain ⟨⟨scheme, user, host, port, query, fragment, path⟩, accepted⟩ := require_bind_ok accepted
    obtain ⟨⟨lower, valid⟩, accepted⟩ := require_bind_ok accepted
    obtain ⟨_, accepted⟩ := require_bind_ok accepted
    obtain ⟨named, plain⟩ := validRepositoryHost_plain valid
    have far : remote url = true := by
      simp [remote, scheme, lib.hierarchical parsed host, user, query, fragment, named, port, path]
    split at accepted
    · rename_i owner full split
      obtain ⟨⟨safeOwner, safeName, _⟩, accepted⟩ := require_bind_ok accepted
      simp only [Library.safeRepositoryPart, Bool.and_eq_true] at safeOwner safeName
      refine ⟨_, pure_ok accepted, by simp [Library.entryName, parsed, split],
        ⟨named, ?_, safeOwner.1, safeName.1⟩, ?_, fun found uri => ?_⟩
      · exact List.all_eq_true.mpr fun c member => by simp [(plain_facts (plain c member)).2.1]
      · rw [trimSpace_plain fun c member => (plain_facts (plain c member)).1]
        exact lower.symm
      · rw [parseRepository_iff, trims]
        constructor
        · rintro ⟨_, again, same, _, _, _, split', canon, rfl⟩
          cases parsed.symm.trans same
          cases split.symm.trans split'
          exact ⟨lower ▸ canon, rfl⟩
        · rintro ⟨canon, rfl⟩
          exact ⟨given, url, parsed, far, owner, full, split, lower ▸ canon, rfl⟩
    · cases accepted

theorem canonical_of_lowered (valid : scope.Valid) (fixed : lib.lower (trimSpace scope.host) = scope.host)
    (stable : scope.host = "github.com" → endsWith ".git" (toLower scope.name) = true →
      endsWith ".git" scope.name = true) :
    lib.canonicalRepositoryScope scope.lowered = lib.canonicalRepositoryScope scope := by
  by_cases github : scope.host = "github.com"
  · obtain ⟨_, _, lowOwner, lowName⟩ := lowered_valid valid
    obtain ⟨_, _, owner, name⟩ := valid
    have drops : dropEnd ".git" (toLower scope.name) = toLower (dropEnd ".git" scope.name) := by
      by_cases ends : endsWith ".git" scope.name = true
      · obtain ⟨front, split⟩ := endsWith_iff.mp ends
        have lower : toLower (front ++ ".git") = toLower front ++ ".git" := by
          rw [← String.toList_inj]
          simp [toLower]
        rw [split, lower, dropEnd_append, dropEnd_append]
      · rw [dropEnd_git.mpr (by simpa using fun h => ends (stable github h)), dropEnd_git.mpr (by simpa using ends)]
    have letters : ∀ c ∈ (dropEnd ".git" scope.name).toList, plain c = true := by
      intro c member
      refine (safe_iff.mp name).2 c ?_
      unfold dropEnd at member
      split at member
      · rw [String.toList_ofList] at member
        exact List.mem_of_mem_take member
      · exact member
    have again := lowered_lowered ⟨scope.host, scope.owner, dropEnd ".git" scope.name⟩
    have lower : RepositoryScope.lowered ⟨scope.host, scope.owner, dropEnd ".git" scope.name⟩ =
      ⟨scope.host, toLower scope.owner, toLower (dropEnd ".git" scope.name)⟩ := if_pos github
    rw [lower] at again
    rw [RepositoryScope.lowered, if_pos github] at lowOwner lowName ⊢
    simp only [Library.canonicalRepositoryScope, Library.trimmed, RepositoryScope.Valid, safe_trimmed, owner, name,
      lowOwner, lowName, drops, safe_toLower letters, fixed, lower, again]
  · rw [RepositoryScope.lowered, if_neg github]

theorem granted_iff {entry : String} (accepted : lib.canonicalRepository entry = .ok policy) :
    (∀ submitted scope uri, lib.parseRepository submitted = .ok (scope, uri) →
      (lib.repositoryAllowed [policy] scope = true ↔ ∃ found, lib.parseRepository entry = .ok (found, uri))) ↔
    lib.StableEntry entry policy := by
  obtain ⟨scope, rfl, named, valid, host, reads⟩ := canonicalRepository_reads accepted
  simp only [reads, Library.StableEntry, Library.repositoryAllowed, List.any_cons, List.any_nil, Bool.or_false,
    decide_eq_true_eq, ← named, lowered_host]
  constructor
  · intro grants github ends
    by_contra kept
    -- the entry itself is submitted: its name has no suffix left until it is in lower case
    have reparses : lib.canonicalRepositoryScope scope = .ok scope.lowered := by
      rw [canonicalRepositoryScope_iff, Library.trimmed, host, safe_trimmed valid.2.2.1, safe_trimmed valid.2.2.2,
        dropEnd_git.mpr (by simpa using kept)]
      exact ⟨valid, rfl⟩
    have allowed := (grants entry _ _ ((reads _ _).mpr ⟨reparses, rfl⟩)).mpr ⟨_, reparses, rfl⟩
    have still := ((canonical_again (lowered_valid valid) (lowered_lowered scope)).mp allowed).2
    rw [show scope.lowered.name = toLower scope.name by simp [RepositoryScope.lowered, github], ends] at still
    cases still
  · intro stable submitted found uri parsed
    obtain ⟨_, _, _, _, _, _, _, canon, rfl⟩ := parseRepository_iff.mp parsed
    rw [canonical_of_lowered valid host stable]
    constructor
    · exact fun allowed => ⟨found, allowed, rfl⟩
    · rintro ⟨other, canon', uris⟩
      rw [uri_inj (by simp [canonical_lowered canon, canonical_lowered canon']) uris]
      exact canon'

end identity

/-- A returned URI is its own normal form exactly when the host that was given reads back and the name that
was given has no third suffix. A policy entry grants what parses to its URI exactly when lower-casing makes no
suffix of its name. -/
theorem repository_identity (lib : Library) :
    (∀ raw scope uri, lib.parseRepository raw = .ok (scope, uri) →
      (lib.parseRepository uri = .ok (scope, uri) ↔ lib.StableURI raw)) ∧
    ∀ entry policy, lib.canonicalRepository entry = .ok policy →
      ((∀ submitted scope uri, lib.parseRepository submitted = .ok (scope, uri) →
        (lib.repositoryAllowed [policy] scope = true ↔
          ∃ found, lib.parseRepository entry = .ok (found, uri))) ↔ lib.StableEntry entry policy) :=
  ⟨fun _ _ _ parsed => reparsed_iff parsed, fun _ _ accepted => granted_iff accepted⟩

/-- `url.Parse` of the URLs of one host that need no escapes. -/
def sampleLibrary : Library where
  parse raw :=
    if beginsWith "https://github.com/" raw ∧ lineBreaking raw = false then
      some {
        scheme := "https"
        host := "github.com"
        hostname := "github.com"
        path := dropStart "https://github.com" raw }
    else none
  lower := toLower
  printable h _ := by
    split at h
    · rename_i c; exact c.2
    · cases h
  hierarchical h _ := by
    split at h
    · cases h; rfl
    · cases h
  composed {raw url again scope} h host _ reread := by
    split at h
    · cases h
      rw [show toLower (trimSpace (toLower "github.com")) = "github.com" by decide +kernel] at host
      have uri : scope.uri = "https://github.com" ++ ("/" ++ scope.owner ++ "/" ++ scope.name ++ ".git") := by
        rw [← String.toList_inj]
        simp [RepositoryScope.uri, host]
      split at reread
      · cases reread
        rw [uri, dropStart_append]
      · cases reread
    · cases h

theorem repository_identity_stable :
    (∃ scope uri, sampleLibrary.parseRepository "https://github.com/O/n" = .ok (scope, uri) ∧
      sampleLibrary.parseRepository uri = .ok (scope, uri)) ∧
    ∃ policy, sampleLibrary.canonicalRepository "https://github.com/O/n.git" = .ok policy ∧
      ∀ submitted scope uri, sampleLibrary.parseRepository submitted = .ok (scope, uri) →
        (sampleLibrary.repositoryAllowed [policy] scope = true ↔
          ∃ found, sampleLibrary.parseRepository "https://github.com/O/n.git" = .ok (found, uri)) := by
  obtain ⟨normal, grants⟩ := repository_identity sampleLibrary
  refine ⟨⟨_, _, rfl, (normal "https://github.com/O/n" _ _ rfl).mpr ?_⟩, _, rfl, (grants _ _ rfl).mpr ?_⟩
  · exact ⟨⟨_, rfl, by decide +kernel, by decide +kernel⟩, by decide +kernel⟩
  · intro _ ends
    exact absurd ends (by decide +kernel)

/-- Three suffixes are taken off in two readings, and a policy entry in capitals grants another repository. -/
theorem repository_identity_broken :
    (∃ uri scope, sampleLibrary.parseRepository "https://github.com/o/n.git.git.git" = .ok (scope, uri) ∧
      sampleLibrary.parseRepository uri ≠ .ok (scope, uri)) ∧
    ∃ policy, sampleLibrary.canonicalRepository "https://github.com/o/n.GIT" = .ok policy ∧
      ∃ uri scope, sampleLibrary.parseRepository "https://github.com/o/n" = .ok (scope, uri) ∧
        sampleLibrary.repositoryAllowed [policy] scope = true ∧
        ∃ other found, sampleLibrary.parseRepository "https://github.com/o/n.GIT" = .ok (found, other) ∧
          other ≠ uri := by decide +kernel

end Paje.Submission
