import Paje.CodeChange.Finalize

/-!
The service as a system: any number of workers over one run store, whose loads and compare-and-swap
saves are atomic. A worker that is never answered again has crashed. The store keeps, for the
specification only, the records it ever held and the update behind each save.
-/

namespace Paje.CodeChange

open Text Run

structure Write where
  mutation : Mutation
  (before after : CodeRun)

structure World where
  records : Table CodeRun := ∅
  /-- all records that were ever stored -/
  stored : List CodeRun := []
  /-- all accepted saves, the first one first -/
  log : List Write := []

namespace World

def create (world : World) (record : CodeRun) : World :=
  { world with records := world.records.put record.id record, stored := world.stored ++ [record] }

def write (world : World) (mutation : Mutation) (before after : CodeRun) : World where
  records := world.records.put after.id after
  stored := world.stored ++ [after]
  log := world.log ++ [⟨mutation, before, after⟩]

end World

variable [digests : Digests]

def reservedBy (reservation : Reservation Input) (record : CodeRun) : Prop :=
  record.template = reservation.template ∧ record.idempotencyKey = reservation.idempotencyKey ∧
    (reservation.idempotencyKey = "" → record.id = reservation.newRunID)

/-- `Reserve`: it fails, finds the run of the reservation, or creates it; a created run's answer may be lost. -/
inductive Reserves (world : World) (reservation : Reservation Input) :
    Except (Option CodeRun × Errors) (CodeRun × Bool) → World → Prop
  | failed (error : Option CodeRun × Errors) : Reserves world reservation (.error error) world
  | found {id : String} {record : CodeRun} (stored : world.records.get? id = some record)
      (reserved : reservedBy reservation record) (same : record.inputHash = reservation.inputHash) :
      Reserves world reservation (.ok (record, false)) world
  | created {record : CodeRun} (made : newRecord reservation = .ok record)
      (free : world.records.get? record.id = none)
      (first : ∀ id other, world.records.get? id = some other → ¬ reservedBy reservation other)
      (answer : Except (Option CodeRun × Errors) (CodeRun × Bool))
      (answered : answer = .ok (record, true) ∨ ∃ error, answer = .error error) :
      Reserves world reservation answer (world.create record)

/-- `Save`: it fails without effect, or it replaces the record of the expected version; an accepted save's answer
may be lost. -/
inductive Saved (world : World) (mutation : Mutation) (record : CodeRun) (expected : Nat) :
    Except Errors CodeRun → World → Prop
  | failed (errors : Errors) : Saved world mutation record expected (.error errors) world
  | accepted {current saved : CodeRun} (stored : world.records.get? record.id = some current)
      (version : current.version = expected) (prepared : prepareSave current record = .ok saved)
      (answer : Except Errors CodeRun) (answered : answer = .ok saved ∨ ∃ errors, answer = .error errors) :
      Saved world mutation record expected answer (world.write mutation current saved)

/-- What the environment may answer. The artifact store holds `contents`; providers answer what they like. -/
def Answers (contents : Reference → Option Bundle) (world : World) : (question : Ask) → Answer question → World → Prop
  | .reserve reservation, answer, after => Reserves world reservation answer after
  | .load id, answer, after => after = world ∧ ∀ record, answer = .ok record → world.records.get? id = some record
  | .save mutation record expected, answer, after => Saved world mutation record expected answer after
  | .loadArtifact reference, answer, after =>
    after = world ∧ ∀ bundle, answer = .ok bundle → contents reference = some bundle
  | _, _, after => after = world

abbrev Service.Pool := Paje.Pool World Ask Answer

/-- Every state of the service that calls on an empty store come to; `guard` limits the answered questions. -/
def Service.Reaches (service : Service) (contents : Reference → Option Bundle)
    (guard : Service.Pool → Exchanges → Ask → Prop) (pool : Service.Pool) : Prop :=
  Pool.Reaches (fun program => ∃ call : Call, program = call.program service) (Answers contents) guard {} pool

end Paje.CodeChange
