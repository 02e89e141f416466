import Paje.Lib.Path
import Paje.CodeChange.Schedule

/-!
The commands that accepted work comes to, and what the executor says to them.
-/

namespace Paje.CodeChange

open Text Run List

/-- `harness.SandboxAuthority`. -/
inductive SandboxAuthority where
  | unknown | host | externalOCI

def SandboxAuthority.arguments : SandboxAuthority → Except Errors (List String)
  | .externalOCI => .ok ["--dangerously-bypass-approvals-and-sandbox"]
  | .host => .ok ["--sandbox", "workspace-write"]
  | .unknown => .error [.text "Codex sandbox authority is unknown"]

/-- The Codex adapter's `buildAgentCommand`. -/
def buildAgentCommand (prompt : String) (authority : SandboxAuthority) : Except Errors SandboxCommand := do
  require (¬ blank prompt ∧ prompt.utf8ByteSize ≤ 1048576 ∧ ¬ containsNul prompt)
    [.text "Codex agent prompt is invalid"]
  let sandbox ← authority.arguments
  return {
    executable := "codex"
    args := ["exec", "--json", "--ephemeral", "--ignore-user-config"] ++ sandbox ++ [prompt]
    directory := sandboxWorkspaceRoot }

def Check.Accepted (check : Check) : Prop :=
  ∃ directory, sandboxDirectory check.directory = some directory ∧
    validateSandboxCommand ⟨check.executable, check.args, directory, check.environment.getD ∅⟩ = .ok ()

variable {command : SandboxCommand} {spec : CommandSpec} {prompt path directory : String}

theorem validateSandboxCommand_iff : validateSandboxCommand command = .ok () ↔
    (validExecutable command.executable ∧ ¬ isShell command.executable) ∧ command.args.length ≤ 256 ∧
    (∀ argument ∈ command.args, argument.utf8ByteSize ≤ 65536 ∧ ¬ containsNul argument) ∧
    (¬ containsNul command.directory ∧ beginsWith "/" command.directory ∧
      clean command.directory = command.directory ∧ pathWithin sandboxWorkspaceRoot command.directory) ∧
    validateEnvironment command.environment = .ok () := by
  constructor
  · intro valid
    obtain ⟨executable, valid⟩ := require_bind_ok valid
    obtain ⟨count, valid⟩ := require_bind_ok valid
    obtain ⟨args, valid⟩ := require_bind_ok valid
    obtain ⟨inside, valid⟩ := require_bind_ok valid
    exact ⟨executable, count, args, inside, valid⟩
  · rintro ⟨executable, count, args, inside, environment⟩
    simp only [validateSandboxCommand, require, if_pos executable, if_pos count, if_pos args, if_pos inside]
    exact environment

theorem workspace_inside : ¬ containsNul sandboxWorkspaceRoot ∧ beginsWith "/" sandboxWorkspaceRoot ∧
    clean sandboxWorkspaceRoot = sandboxWorkspaceRoot ∧ pathWithin sandboxWorkspaceRoot sandboxWorkspaceRoot := by
  decide +kernel

variable {authority : SandboxAuthority}

theorem SandboxAuthority.arguments_plain {sandbox : List String}
    (chosen : authority.arguments = .ok sandbox) :
    (["exec", "--json", "--ephemeral", "--ignore-user-config"] ++ sandbox).length ≤ 255 ∧
      ∀ argument ∈ ["exec", "--json", "--ephemeral", "--ignore-user-config"] ++ sandbox,
        argument.utf8ByteSize ≤ 65536 ∧ ¬ containsNul argument := by
  cases authority with
  | unknown => cases chosen
  | host => cases chosen; decide +kernel
  | externalOCI => cases chosen; decide +kernel

theorem buildAgentCommand_valid (built : buildAgentCommand prompt authority = .ok command) :
    validateSandboxCommand command = .ok () ↔ prompt.utf8ByteSize ≤ 65536 := by
  obtain ⟨⟨-, -, plain⟩, built⟩ := require_bind_ok built
  obtain ⟨sandbox, chosen, built⟩ := bind_ok built
  cases pure_ok built
  have flags := SandboxAuthority.arguments_plain chosen
  rw [validateSandboxCommand_iff]
  constructor
  · rintro ⟨-, -, each, -⟩
    exact (each prompt (by simp)).1
  · intro small
    refine ⟨show validExecutable "codex" ∧ ¬ isShell "codex" by decide +kernel, ?_, fun argument listed => ?_,
      workspace_inside, show validateEnvironment ∅ = .ok () by decide +kernel⟩
    · rw [length_append]
      exact Nat.add_le_add_right flags.1 1
    · rcases mem_append.mp listed with listed | listed
      · exact flags.2 argument listed
      · cases mem_singleton.mp listed
        exact ⟨small, plain⟩

theorem sandboxDirectory_inside (plain : ¬ containsNul path) (found : sandboxDirectory path = some directory) :
    ¬ containsNul directory ∧ beginsWith "/" directory ∧ clean directory = directory ∧
      pathWithin sandboxWorkspaceRoot directory := by
  unfold sandboxDirectory at found
  simp only [Bool.or_eq_true, decide_eq_true_eq] at found
  generalize chosen : (if trimSpace path = "" then "." else trimSpace path) = part at found
  split at found
  · cases found
  rename_i relative
  simp only [not_or, Bool.not_eq_true, ne_eq, not_not] at relative
  obtain ⟨⟨relative, fixed⟩, up⟩ := relative
  split at found
  · cases found
    exact workspace_inside
  rename_i named
  have up : ['.', '.'] ∉ splitSlash part.toList := by simpa using up
  have inside : clean (sandboxWorkspaceRoot ++ "/" ++ part) = sandboxWorkspaceRoot ++ "/" ++ part := by
    have rooted : (sandboxWorkspaceRoot ++ "/" ++ part).toList = '/' :: ("workspace/".toList ++ part.toList) := by
      simp [sandboxWorkspaceRoot]
    refine clean_rooted rooted fun one listed => ?_
    have parts : splitSlash ("workspace/".toList ++ part.toList) = "workspace".toList :: splitSlash part.toList := by
      rw [splitSlash_eq, splitSlash_eq]
      exact splitOn_append_cons_self_of_not_mem (show '/' ∉ "workspace".toList by decide +kernel) _
    rw [parts] at listed
    rcases mem_cons.mp listed with rfl | listed
    · decide +kernel
    · exact ⟨clean_fixed relative up fixed named one listed, fun same => up (same ▸ listed)⟩
  have free : ¬ containsNul part := by
    rw [← chosen]
    split
    · decide +kernel
    · simp only [containsNul, contains_iff_mem] at plain ⊢
      exact fun member => plain (mem_trimSpace member)
  rw [inside] at found
  cases found
  refine ⟨?_, beginsWith_iff.mpr ⟨"workspace/" ++ part, ?_⟩, inside, ?_⟩
  · simp only [containsNul, contains_iff_mem, String.toList_append, mem_append, not_or] at free ⊢
    exact ⟨by decide +kernel, free⟩
  · exact String.toList_inj.mp (by simp [sandboxWorkspaceRoot])
  · simp only [pathWithin, Bool.or_eq_true]
    exact .inr (beginsWith_iff.mpr ⟨part, rfl⟩)

/-- The directory of a compiled check is found unless cleaning has laid a space open. -/
theorem sandboxDirectory_clean (relative : beginsWith "/" path = false) (up : ['.', '.'] ∉ splitSlash path.toList)
    (trimmed : trimSpace (clean path) = clean path) : (sandboxDirectory (clean path)).isSome := by
  obtain ⟨relative, up, fixed⟩ := clean_clean relative up
  unfold sandboxDirectory
  rw [trimmed]
  by_cases empty : clean path = ""
  · rw [empty]
    decide +kernel
  · simp only [if_neg empty, relative, fixed]
    rw [if_neg (by simpa using up)]
    split <;> rfl

/-- A check that compiles is a command that the executor accepts just when the executable is a plain name, no argument
has more than 65536 bytes and the runner finds its directory. -/
theorem compiled_accepted {environment : Option (Table String)} (known : environment ∈ [none, some goWorkOff])
    (valid : validateSpec spec = .ok ()) :
    ((compiled spec environment).Accepted ↔ validExecutable (trimSpace spec.executable) ∧
      (∀ argument ∈ spec.args, argument.utf8ByteSize ≤ 65536) ∧
      (sandboxDirectory (compiled spec environment).directory).isSome) ∧
    (trimSpace (compiled spec environment).directory = (compiled spec environment).directory →
      (sandboxDirectory (compiled spec environment).directory).isSome) := by
  obtain ⟨-, valid⟩ := require_bind_ok valid
  obtain ⟨⟨plain, relative⟩, valid⟩ := require_bind_ok valid
  obtain ⟨up, valid⟩ := require_bind_ok valid
  obtain ⟨⟨-, -, -, shell⟩, valid⟩ := require_bind_ok valid
  obtain ⟨count, valid⟩ := require_bind_ok valid
  obtain ⟨free, -⟩ := require_bind_ok valid
  have relative : beginsWith "/" (trimSpace spec.directory) = false := by simpa using relative
  have up : ['.', '.'] ∉ splitSlash (trimSpace spec.directory).toList := by simpa using up
  have clear : ¬ containsNul (clean (trimSpace spec.directory)) := by
    simp only [containsNul, contains_iff_mem] at plain ⊢
    intro member
    rcases mem_clean relative up member with member | absurd | absurd
    · exact plain (mem_trimSpace member)
    · cases absurd
    · cases absurd
  have declared : validateEnvironment (environment.getD ∅) = .ok () := by
    revert environment
    decide +kernel
  refine ⟨⟨?_, ?_⟩, sandboxDirectory_clean relative up⟩
  · rintro ⟨directory, found, accepted⟩
    obtain ⟨⟨named, -⟩, -, each, -⟩ := validateSandboxCommand_iff.mp accepted
    exact ⟨named, fun argument listed => (each argument listed).1, by rw [found]; rfl⟩
  · rintro ⟨named, small, found⟩
    obtain ⟨directory, found⟩ := Option.isSome_iff_exists.mp found
    refine ⟨directory, found, validateSandboxCommand_iff.mpr
      ⟨⟨named, shell⟩, Nat.le_trans count (by decide), ?_, ?_, ?_⟩⟩
    · exact fun argument listed => ⟨small argument listed, free argument listed⟩
    · exact sandboxDirectory_inside clear found
    · exact declared

theorem normalizeAndValidate_checks {raw input : Input} {limitSet : Bool}
    (decoded : normalizeAndValidate raw limitSet = .ok input) : input.checks = raw.checks.map normalizeSpec := by
  obtain ⟨-, decoded⟩ := require_bind_ok decoded
  obtain ⟨-, decoded⟩ := require_bind_ok decoded
  obtain ⟨tags, -, decoded⟩ := bind_ok decoded
  obtain ⟨-, decoded⟩ := require_bind_ok decoded
  obtain ⟨-, decoded⟩ := require_bind_ok decoded
  obtain ⟨-, decoded⟩ := require_bind_ok decoded
  obtain ⟨_, -, decoded⟩ := bind_ok decoded
  obtain ⟨exclusions, -, decoded⟩ := bind_ok decoded
  obtain ⟨publication, -, decoded⟩ := bind_ok decoded
  cases pure_ok decoded
  rfl

/-- Of an accepted input, the agent's command is valid just when its prompt has at most 65536 bytes, and the command of
a check just when its executable is a plain name, its arguments have at most 65536 bytes and its directory is found. -/
theorem accepted_executable {raw input : Input} {limitSet : Bool}
    (decoded : normalizeAndValidate raw limitSet = .ok input) :
    (∀ {record : CodeRun} {profile : Profile} {facts : Table String} {prompt : String} {authority : SandboxAuthority}
      {command : SandboxCommand}, buildPrompt record input profile facts = .ok prompt →
      buildAgentCommand prompt authority = .ok command →
      (validateSandboxCommand command = .ok () ↔ prompt.utf8ByteSize ≤ 65536)) ∧
    ∀ spec ∈ input.checks, ∀ module : String, ∀ environment ∈ [none, some goWorkOff],
      validateSpec (specInModule module spec) = .ok () →
      ((compiled (specInModule module spec) environment).Accepted ↔ validExecutable spec.executable ∧
        (∀ argument ∈ spec.args, argument.utf8ByteSize ≤ 65536) ∧
        (sandboxDirectory (compiled (specInModule module spec) environment).directory).isSome) ∧
      (trimSpace (compiled (specInModule module spec) environment).directory =
          (compiled (specInModule module spec) environment).directory →
        (sandboxDirectory (compiled (specInModule module spec) environment).directory).isSome) := by
  refine ⟨fun _ built => buildAgentCommand_valid built, ?_⟩
  intro spec listed module environment known valid
  have trimmed : trimSpace spec.executable = spec.executable := by
    rw [normalizeAndValidate_checks decoded] at listed
    obtain ⟨given, -, rfl⟩ := mem_map.mp listed
    exact trimSpace_trimSpace given.executable
  have both := compiled_accepted known valid
  rw [show trimSpace (specInModule module spec).executable = spec.executable from trimmed] at both
  exact both

theorem accepted_executable_make : ∃ input,
    normalizeAndValidate (Sample.input .pullRequest [Sample.check "build" true]) true = .ok input ∧
    ∃ spec ∈ input.checks, (compiled (specInModule "." spec) none).Accepted := by
  have decodes : succeeds (normalizeAndValidate (Sample.input .pullRequest [Sample.check "build" true]) true)
      (fun input => input.checks = [normalizeSpec (Sample.check "build" true)]) = true := by decide +kernel
  obtain ⟨input, decoded, checks⟩ := succeeds_ok decodes
  have listed : normalizeSpec (Sample.check "build" true) ∈ input.checks := by simp_all
  refine ⟨input, decoded, _, listed, ?_⟩
  exact ((accepted_executable decoded).2 _ listed "." none (by simp) (by decide +kernel)).1.mpr (by decide +kernel)

/-- A check that runs a program of the repository is accepted and compiled; the executor refuses its command. -/
theorem program_refused : ∃ input,
    normalizeAndValidate
      (Sample.input .pullRequest [{ Sample.check "build" true with executable := "tools/test" }]) true = .ok input ∧
    ∃ spec ∈ input.checks, validateSpec (specInModule "." spec) = .ok () ∧
      ¬ (compiled (specInModule "." spec) none).Accepted := by
  have decodes : succeeds (normalizeAndValidate
      (Sample.input .pullRequest [{ Sample.check "build" true with executable := "tools/test" }]) true)
      (fun input => input.checks = [normalizeSpec { Sample.check "build" true with executable := "tools/test" }]) =
        true := by decide +kernel
  obtain ⟨input, decoded, checks⟩ := succeeds_ok decodes
  have valid : validateSpec (specInModule "."
      (normalizeSpec { Sample.check "build" true with executable := "tools/test" })) = .ok () := by decide +kernel
  refine ⟨input, decoded, _, by simp_all, valid, fun accepted => ?_⟩
  have named := ((compiled_accepted (by simp) valid).1.mp accepted).1
  revert named
  decide +kernel

end Paje.CodeChange
