import Paje.Scheduler.Types
import Paje.Isolation.Types
import Paje.Control.Types

/-!
The canonical JSON documents that the components hash and store. A document stands for its
bytes: encoding and strict decoding are inverse, so two documents are equal when their bytes are.
-/

namespace Paje.Journal

open List String

variable {documents : List Document} {start : String}

/-- A document by the type it was encoded from. `foreign` stands for the payloads of the other
writers of the journal, with the `component` field when they have one. -/
inductive Document where
  | action (value : Action)
  | admissionPolicy (value : Admission.Policy)
  | admissionSubject (value : Admission.Subject)
  | receiptReference (receiptID : String)
  | admissionRequest (value : Admission.RequestEnvelope)
  | admissionOutcome (value : Admission.OutcomeEnvelope)
  | recoveryCheckpoint (value : Scheduler.RecoveryCheckpoint)
  | recoveryEnvelope (value : Scheduler.RecoveryJournalEnvelope)
  | isolationRequest (value : Isolation.RequestEnvelope)
  | isolationOutcome (value : Isolation.OutcomeEnvelope)
  | controlEvidence (value : Control.Evidence)
  | controlResult (value : Control.ActionResult)
  | controlSend (value : Control.SendInput)
  | controlSnapshot (value : Control.Snapshot)
  | foreign (component : Option String) (text : String)
  /-- No JSON object, or one whose `component` is no text. -/
  | malformed (text : String)
  deriving DecidableEq

/-- SHA-256 as the components use it: the hexadecimal digest of a document's bytes and of a joined
identifier seed, the seed's digest cut to sixteen bytes, and the length of the bytes. -/
class Sha where
  documentHex : Document → String
  (seedHex seedHex16 : String → String)
  size : Document → Nat

/-- No two documents share a digest. Only well-formed digests count: no store and no check accepts
any other. -/
def Sha.Separates (sha : Sha) : Prop :=
  ∀ one two, validDigest ("sha256:" ++ sha.documentHex one) = true →
    sha.documentHex one = sha.documentHex two → one = two

/-- No two documents and no two identifier seeds share a digest. -/
structure Sha.Injective (sha : Sha) : Prop where
  document : sha.Separates
  seed16 : ∀ one two, sha.seedHex16 one = sha.seedHex16 two → one = two

/-- A truncated seed digest is thirty-two hexadecimal digits. -/
def Sha.HexSeeds (sha : Sha) : Prop :=
  ∀ text, (sha.seedHex16 text).utf8ByteSize = 32 ∧ (Text.bytes (sha.seedHex16 text)).all Text.hexDigit = true

/-- No two seeds share a truncated digest, and none of these has a NUL. -/
structure Sha.Names (sha : Sha) : Prop where
  apart : ∀ one two, sha.seedHex16 one = sha.seedHex16 two → one = two
  plain : ∀ text, Text.NulFree (sha.seedHex16 text)

section

variable [sha : Sha]

/-- `Digest`, `digestValue` and `digestBytes`. -/
def digest (document : Document) : String := "sha256:" ++ Sha.documentHex document

def stableID (start : String) (values : List String) : String :=
  start ++ "_" ++ Sha.seedHex16 (Text.joinNul (start :: values))

theorem digest_inj (separates : sha.Separates) {one two : Document}
    (valid : validDigest (digest one) = true) (same : digest one = digest two) : one = two :=
  separates one two valid (Text.append_left_cancel same)

theorem stableID_beginsWith (start : String) (values : List String) :
    Text.beginsWith (start ++ "_") (stableID start values) = true :=
  Text.beginsWith_append _ _

theorem stableID_graphic (hex : sha.HexSeeds) (plain : Text.graphic start = true)
    (values : List String) : Text.graphic (stableID start values) = true := by
  rw [stableID, Text.graphic_append, Text.graphic_append, plain,
    Text.graphic_of_hex (hex (Text.joinNul (start :: values))).2]
  decide

theorem stableID_size (hex : sha.HexSeeds) (start : String) (values : List String) :
    (stableID start values).utf8ByteSize = start.utf8ByteSize + 33 := by
  rw [stableID, utf8ByteSize_append, utf8ByteSize_append, (hex _).1]
  rfl

theorem nulFree_stableID (names : sha.Names) (plain : Text.NulFree start)
    (values : List String) : Text.NulFree (stableID start values) := by
  unfold stableID
  simp only [Text.NulFree, toList_append, mem_append, not_or]
  exact ⟨⟨plain, by decide⟩, names.plain _⟩

end

/-! ### Stand-in hashes

Their digests have the form of SHA-256's and can be evaluated. -/

def subjectLabel : Admission.Subject → String
  | .runAdmission subject => "admission " ++ subject.id
  | .leaseRequest subject => "lease " ++ subject.lease.id ++ " " ++ toString subject.expiresAt
  | .evidenceHandoff subject => "handoff " ++ subject.edgeID
  | .recoveryIdentity subject => "recovery " ++ subject.controlRunID ++ " " ++ subject.actionID
  | .recoveryFence subject => "fence " ++ subject.recovery.controlRunID ++ " " ++ subject.recovery.actionID
  | .recoveryScannerApply subject => "apply " ++ subject.recovery.controlRunID ++ " " ++ subject.recovery.actionID

def deltaLabel : Isolation.Delta → String
  | .taskPhase delta => "task " ++ delta.taskID ++ " " ++ toString delta.toPhase.ctorIdx
  | .runPhase delta => "run " ++ toString delta.fromPhase.ctorIdx ++ " " ++ toString delta.toPhase.ctorIdx
  | .inboxAppend delta => "callback " ++ delta.eventID
  | .inboxAck delta => "acknowledgement " ++ delta.eventID
  | .gateRegister gate => "gate " ++ gate.id
  | .gateWake delta => "wake " ++ delta.gateID

def Document.label : Document → String
  | .action value => "action " ++ value.id
  | .admissionPolicy _ => "policy"
  | .admissionSubject value => "subject " ++ subjectLabel value
  | .receiptReference receiptID => "receipt " ++ receiptID
  | .admissionRequest value => "request " ++ value.semanticOperation.name ++ " " ++
      value.binding.controlRunID ++ " " ++ value.binding.actionID
  | .admissionOutcome value => "outcome " ++ value.semanticOperation.name ++ " " ++
      value.binding.controlRunID ++ " " ++ value.binding.actionID
  | .recoveryCheckpoint _ => "checkpoint"
  | .recoveryEnvelope _ => "recovery"
  | .isolationRequest value => "isolation request " ++ value.scope.controlRunID ++ " " ++
      deltaLabel value.input ++ " " ++ value.operationID
  | .isolationOutcome value => "isolation outcome " ++ value.scope.controlRunID ++ " " ++ deltaLabel value.delta
  | .controlEvidence value => "evidence " ++ value.id
  | .controlResult value => "result " ++ value.actionID ++ " " ++ value.resultDigest
  | .controlSend value => "send " ++ value.id
  | .controlSnapshot value => "snapshot " ++ value.run.id ++ " " ++ toString value.version
  | .foreign _ text | .malformed text => text

def checksum (text : String) : Nat :=
  (Text.bytes text).foldl (fun sum b => (sum * 1000003 + b.toNat) % 100000000) 1

/-- The last `n` decimal digits of a number. -/
def decimal : Nat → Nat → String
  | 0, _ => ""
  | n + 1, value => decimal n (value / 10) ++ match value % 10 with
    | 0 => "0" | 1 => "1" | 2 => "2" | 3 => "3" | 4 => "4" | 5 => "5" | 6 => "6" | 7 => "7"
    | 8 => "8" | _ => "9"

/-- A checksum of the document's label, padded to the length of a digest; seeds stand for
themselves. -/
@[reducible] def Sha.sample : Sha where
  documentHex document := "00000000000000000000000000000000000000000000000000000000" ++
    decimal 8 (checksum document.label)
  seedHex text := text
  seedHex16 text := text
  size _ := 1

/-- `Sha.sample` on the listed documents; every other document gets no well-formed digest. -/
@[reducible] def Sha.separating (documents : List Document) : Sha where
  documentHex document := if document ∈ documents then Sha.sample.documentHex document else ""
  seedHex text := text
  seedHex16 text := text
  size _ := 1

def hexSeed (text : String) : String := "000000000000000000000000" ++ decimal 8 (checksum text)

/-- `Sha.sample` with seeds that have the form of SHA-256's. -/
@[reducible] def Sha.sampleHex : Sha := { Sha.sample with seedHex16 := hexSeed }

/-- `Sha.sampleHex` with full seeds that have the form of SHA-256's. -/
@[reducible] def Sha.sampleFull : Sha :=
  { Sha.sampleHex with seedHex := fun text => "00000000000000000000000000000000" ++ hexSeed text }

def spell (b : UInt8) : Char := Char.ofNat (b.toNat + 1)

/-- `Sha.sampleFull` with truncated seeds spelled out byte by byte. -/
@[reducible] def Sha.spelled : Sha :=
  { Sha.sampleFull with seedHex16 := fun text => String.ofList ((Text.bytes text).map spell) }

/-- `Sha.sampleHex` on the listed documents; every other document gets no well-formed digest. -/
@[reducible] def Sha.separatingHex (documents : List Document) : Sha :=
  { Sha.separating documents with seedHex16 := hexSeed }

section

variable (apart : (documents.map Sha.sample.documentHex).Nodup)
include apart

theorem Sha.separating_separates : (Sha.separating documents).Separates := by
  intro one two valid same
  have listed : ∀ document, validDigest ("sha256:" ++
      (Sha.separating documents).documentHex document) = true → document ∈ documents := by
    intro document valid
    by_contra missing
    have none : (Sha.separating documents).documentHex document = "" := if_neg missing
    rw [none] at valid
    revert valid
    decide
  have first := listed one valid
  have second := listed two (same ▸ valid)
  have hex : ∀ document ∈ documents, (Sha.separating documents).documentHex document =
      Sha.sample.documentHex document := fun _ listed => if_pos listed
  rw [hex one first, hex two second] at same
  exact inj_on_of_nodup_map apart first second same

theorem Sha.separating_injective : (Sha.separating documents).Injective where
  document := Sha.separating_separates apart
  seed16 _ _ same := same

theorem Sha.separatingHex_separates : (Sha.separatingHex documents).Separates := by
  intro one two valid same
  exact Sha.separating_separates apart one two valid same

end

theorem toNat_spell (b : UInt8) : (spell b).toNat = b.toNat + 1 := by
  have small : ∀ n < 257, (Char.ofNat n).toNat = n := by decide +kernel
  have bound : b.toNat < 256 := b.toNat_lt
  exact small _ (by omega)

theorem spell_injective : Function.Injective spell := by
  intro a b same
  have values := congrArg Char.toNat same
  rw [toNat_spell, toNat_spell] at values
  exact UInt8.toNat_inj.mp (by omega)

theorem Sha.spelled_names : Sha.spelled.Names where
  apart one two same :=
    Text.bytes_inj (map_injective_iff.mpr spell_injective (ofList_injective same))
  plain text := by
    show '\x00' ∉ (String.ofList ((Text.bytes text).map spell)).toList
    rw [toList_ofList]
    intro member
    obtain ⟨b, _, nul⟩ := mem_map.mp member
    have value := toNat_spell b
    rw [nul] at value
    exact absurd value (by simp)

theorem decimal_hex (n value : Nat) : (decimal n value).utf8ByteSize = n ∧
    (Text.bytes (decimal n value)).all Text.hexDigit = true := by
  induction n generalizing value with
  | zero => exact ⟨rfl, rfl⟩
  | succ n ih =>
    obtain ⟨size, hex⟩ := ih (value / 10)
    rw [decimal, utf8ByteSize_append, Text.bytes_append, all_append, size, hex]
    split <;> exact ⟨rfl, rfl⟩

theorem hexSeed_hex (text : String) : (hexSeed text).utf8ByteSize = 32 ∧
    (Text.bytes (hexSeed text)).all Text.hexDigit = true := by
  have tail := decimal_hex 8 (checksum text)
  have zeros : "000000000000000000000000".utf8ByteSize = 24 ∧
      (Text.bytes "000000000000000000000000").all Text.hexDigit = true := by decide +kernel
  unfold hexSeed
  generalize decimal 8 (checksum text) = last at tail
  rw [utf8ByteSize_append, Text.bytes_append, all_append, tail.1, tail.2, zeros.1, zeros.2]
  exact ⟨rfl, rfl⟩

theorem validDigest_hex {hex : String} (size : hex.utf8ByteSize = 64)
    (digits : (Text.bytes hex).all Text.hexDigit = true) : validDigest ("sha256:" ++ hex) = true := by
  unfold validDigest
  simp only [Bool.and_eq_true, decide_eq_true_eq, utf8ByteSize_append, size]
  refine ⟨⟨Text.beginsWith_append _ _, by decide⟩, ?_⟩
  rw [Text.bytes_append]
  exact digits

theorem Sha.sample_digest (document : Document) :
    validDigest ("sha256:" ++ Sha.sample.documentHex document) = true := by
  obtain ⟨size, digits⟩ := decimal_hex 8 (checksum document.label)
  show validDigest ("sha256:" ++ (_ ++ decimal 8 (checksum document.label))) = true
  refine validDigest_hex ?_ ?_
  · rw [utf8ByteSize_append, size]
    rfl
  · rw [Text.bytes_append, all_append, digits]
    decide +kernel

theorem Sha.separatingHex_hexSeeds (documents : List Document) : (Sha.separatingHex documents).HexSeeds := by
  intro text
  exact hexSeed_hex text

end Paje.Journal
