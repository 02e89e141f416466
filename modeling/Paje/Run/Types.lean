import Paje.Journal.Types
import Paje.Lib.Table
import Mathlib.Data.List.Sort

/-!
Durable records of workflow runs. A document of a type `ι` stands for the canonical JSON text of a
run's input. Enumerations have the source's values only, and a `nil` pointer or slice is `none`
where the source tells it from an empty one.
-/

namespace Paje.Run

open Text

inductive Error where
  | notFound
  | alreadyExists
  | versionConflict (message : String)
  | idempotencyConflict
  | invalidRecord (message : String)
  | invalidTransition (message : String)
  deriving DecidableEq

inductive Status where
  | pending | resolving | executing | awaitingApproval | publishing | succeeded | failed | canceled | declined
  deriving DecidableEq

def Status.text : Status → String
  | .pending => "pending"
  | .resolving => "resolving"
  | .executing => "executing"
  | .awaitingApproval => "awaiting_approval"
  | .publishing => "publishing"
  | .succeeded => "succeeded"
  | .failed => "failed"
  | .canceled => "canceled"
  | .declined => "declined"

/-- `recordStatusTerminal`. -/
def Status.terminal : Status → Bool
  | .succeeded | .failed | .canceled | .declined => true
  | _ => false

inductive FailureClass where
  | input | environment | agent | verification | policy | approval | publication | cleanup | canceled | internal
  deriving DecidableEq

inductive StageStatus where
  | running | succeeded | skipped | warning | failed
  deriving DecidableEq

inductive PublicationMode where
  | artifact | pullRequest
  deriving DecidableEq

structure Failure where
  stage : String
  failureClass : FailureClass
  retryable : Bool
  (diagnostic causeCode : String)
  deriving DecidableEq

structure StageResult where
  name : String
  status : StageStatus
  startedAt : Time
  finishedAt : Time := 0
  attempts : Nat
  evidence : Table String := ∅
  failure : Option Failure := none
  deriving DecidableEq

/-- `template.ID`. -/
structure TemplateID where
  name : String
  version : Int
  deriving DecidableEq

/-- `artifact.Reference`. -/
structure Reference where
  (runID digest : String)
  size : Int
  deriving DecidableEq

structure ArtifactWriteLease where
  attempt : Nat
  (startedAt deadline : Time)
  reference : Reference
  deriving DecidableEq

/-- `approval.Result`. -/
structure Decision where
  (runID artifactDigest : String)
  approved : Bool
  actor : String
  decidedAt : Time
  reason : String := ""
  deriving DecidableEq

/-- `publisher.Result`. -/
structure Publication where
  (provider branch commitSHA pullRequestID pullRequestURL verificationDigest : String)
  deriving DecidableEq

structure Memory where
  (id content : String)
  metadata : Table String := ∅
  deriving DecidableEq

/-- `secret.BindingRef`. -/
structure BindingRef where
  capability : String
  revision : Nat
  deriving DecidableEq

structure ProfileID where
  name : String
  revision : Nat
  deriving DecidableEq

inductive RuntimeKind where
  | oci | host
  deriving DecidableEq

inductive Network where
  | none | outbound
  deriving DecidableEq

structure Runtime where
  kind : RuntimeKind
  image : String := ""
  platform : String := ""
  network : Option Network := .none
  readOnlyRoot : Bool := false
  deriving DecidableEq

structure Resources where
  cpuMillis : Int := 0
  memoryBytes : Int := 0
  pids : Int := 0
  deriving DecidableEq

structure Harness where
  (id version : String)
  deriving DecidableEq

structure Probe where
  executable : String
  args : List String := []
  outputContains : String
  deriving DecidableEq

structure Tool where
  (name version : String)
  probe : Probe
  deriving DecidableEq

inductive Delivery where
  | file | directory | environment
  deriving DecidableEq

structure SecretRequirement where
  capability : String
  bindingRevision : Nat
  stage : String
  delivery : Delivery
  target : String
  required : Bool
  deriving DecidableEq

/-- `workerprofile.Snapshot`. -/
structure Profile where
  (apiVersion kind : String)
  id : ProfileID
  runtime : Runtime
  resources : Resources := {}
  harness : Harness
  tools : List Tool := []
  secrets : List SecretRequirement := []
  digest : String := ""
  deriving DecidableEq

structure Record (ι : Type) where
  id : String
  version : Nat
  template : TemplateID
  idempotencyKey : String := ""
  inputHash : String
  input : ι
  status : Status
  publicationMode : PublicationMode
  (repositoryURI baseRef : String)
  baseSHA : String := ""
  workerProfile : Option Profile := none
  secretBindings : Option (List BindingRef) := none
  memorySnapshot : Option (List Memory) := none
  artifactWriteLease : Option ArtifactWriteLease := none
  artifact : Option Reference := none
  approval : Option Decision := none
  publication : Option Publication := none
  outcomeMemorySaved : Bool := false
  stages : List StageResult := []
  failure : Option Failure := none
  (createdAt updatedAt : Time)
  deriving DecidableEq

structure Reservation (ι : Type) where
  newRunID : String
  template : TemplateID
  idempotencyKey : String := ""
  inputHash : String
  input : ι
  (repositoryURI baseRef : String)
  publicationMode : PublicationMode
  createdAt : Time

/-- Documents that can be a run's input. -/
class Document (ι : Type) where
  /-- `inputWorkerProfileID`: the exact profile the input names, if it names one. -/
  inputWorkerProfileID : ι → Except Error (Option ProfileID)

class ProfileSha where
  digest : Profile → String

variable {ι : Type}

def Record.terminal (record : Record ι) : Bool := record.status.terminal

/-- `^first rest{0,limit}$` for two sets of characters. -/
def matchesWord (first rest : Char → Bool) (limit : Nat) (value : String) : Bool :=
  match value.toList with
  | [] => false
  | c :: cs => first c && cs.length ≤ limit && cs.all rest

def lowerLetter (c : Char) : Bool := 'a' ≤ c && c ≤ 'z'

def upperLetter (c : Char) : Bool := 'A' ≤ c && c ≤ 'Z'

def digit (c : Char) : Bool := '0' ≤ c && c ≤ '9'

def alphanumeric (c : Char) : Bool := lowerLetter c || upperLetter c || digit c

/-- `runIDPattern`. -/
def validRunID (value : String) : Bool :=
  matchesWord alphanumeric (fun c => alphanumeric c || c = '_' || c = '-') 127 value

/-- `strings.Cut`: what is before and after the first occurrence of a text. -/
def cut (separator : List Char) : List Char → Option (List Char × List Char)
  | [] => if separator = [] then some ([], []) else none
  | c :: cs =>
    if separator.isPrefixOf (c :: cs) then some ([], (c :: cs).drop separator.length)
    else (cut separator cs).map fun (before, after) => (c :: before, after)

def takeBytes : Nat → List Char → List Char
  | _, [] => []
  | limit, c :: cs => if c.utf8Size ≤ limit then c :: takeBytes (limit - c.utf8Size) cs else []

/-- `unicode.IsControl`. -/
def isControl (c : Char) : Bool := c.toNat < 0x20 || (0x7f ≤ c.toNat && c.toNat ≤ 0x9f)

def safeDiagnostic (value : String) : String :=
  String.ofList (takeBytes 4096 (value.toList.filter (!isControl ·)))

/-- `artifact.ValidDigest`: 64 lower-case hexadecimal digits. -/
def validDigest (value : String) : Bool := value.utf8ByteSize = 64 && (bytes value).all hexDigit

def padded (width value : Nat) : String :=
  let text := toString value
  String.ofList (List.replicate (width - text.length) '0') ++ text

/-- The year, month and day of a number of days since 1 January of the year 1. -/
def civilDate (days : Int) : Int × Nat × Nat :=
  let shifted := days + 306
  let era := shifted / 146097
  let dayOfEra := (shifted % 146097).toNat
  let yearOfEra := (dayOfEra - dayOfEra / 1460 + dayOfEra / 36524 - dayOfEra / 146096) / 365
  let dayOfYear := dayOfEra - (365 * yearOfEra + yearOfEra / 4 - yearOfEra / 100)
  let month := (5 * dayOfYear + 2) / 153
  let year := era * 400 + yearOfEra
  (if month < 10 then year else year + 1, if month < 10 then month + 3 else month - 9,
    dayOfYear - (153 * month + 2) / 5 + 1)

/-- `Format(time.RFC3339Nano)` of an instant in UTC from the year 0 on. -/
def rfc3339Nano (t : Time) : String :=
  let seconds := t / 1000000000
  let nanos := (t % 1000000000).toNat
  let inDay := (seconds % 86400).toNat
  let (year, month, day) := civilDate (seconds / 86400)
  let fraction := ((padded 9 nanos).toList.reverse.dropWhile (· = '0')).reverse
  padded 4 year.toNat ++ "-" ++ padded 2 month ++ "-" ++ padded 2 day ++ "T" ++
    padded 2 (inDay / 3600) ++ ":" ++ padded 2 (inDay / 60 % 60) ++ ":" ++ padded 2 (inDay % 60) ++
    (if fraction = [] then "" else "." ++ String.ofList fraction) ++ "Z"

example : rfc3339Nano (Time.unixEpoch + 951782400000000000) = "2000-02-29T00:00:00Z" := by decide +kernel

end Paje.Run
