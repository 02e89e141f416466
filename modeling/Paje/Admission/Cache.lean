import Paje.Admission.History

/-!
The projection caches of several services, in the memory their rebuilds share. A rebuild works on
the cached projection itself until a page has events to apply, and then on a copy.
-/

namespace Paje.Admission

open Text Journal

/-- A service's cache: the projection it points to, and the cursor that was read with it. -/
structure ProjectionCache where
  projection : Nat
  cursor : GlobalCursor
  deriving DecidableEq

/-- `rebuildFrom` between two pages. -/
structure Reader where
  projection : Nat
  mutable : Bool
  reservations : Table Event := ∅
  wantPosition : Nat
  cursor : GlobalCursor
  /-- The cache that the rebuild started from, if any. -/
  cached : Option ProjectionCache

inductive Progress where
  | reading (reader : Reader)
  /-- Through the cache the rebuild failed; it may start again without it. -/
  | spoilt (cached : ProjectionCache)
  | rebuilt (projection : Nat) (cached : Option ProjectionCache)
  | returned (result : Except Error Nat)

structure Rebuild where
  service : Nat
  progress : Progress

/-- The journal, and the memory of the services: projections by address, `used` of them allocated. -/
structure Memory where
  store : MemoryStore
  projections : Nat → View
  used : Nat := 0
  caches : Nat → Option ProjectionCache := fun _ => none
  rebuilds : Nat → Option Rebuild := fun _ => none

def emptyView : View := { newProjection with global := .zero }

/-- The start of `rebuildFrom`. -/
def Reader.over (projection : Nat) (cursor : GlobalCursor) (cached : Option ProjectionCache) : Reader where
  projection := projection
  mutable := cursor = .zero
  wantPosition := cursor.journalPosition + 1
  cursor := cursor
  cached := cached

namespace Memory

section

variable (mem : Memory)

def write (address : Nat) (view : View) : Memory :=
  { mem with projections := Function.update mem.projections address view }

def allocate (view : View) : Memory :=
  { mem.write mem.used view with used := mem.used + 1 }

def setCache (service : Nat) (cache : Option ProjectionCache) : Memory :=
  { mem with caches := Function.update mem.caches service cache }

def setProgress (k service : Nat) (progress : Progress) : Memory :=
  { mem with rebuilds := Function.update mem.rebuilds k (some ⟨service, progress⟩) }

/-- `validProjectionCache`, without its seals. -/
def validCache (cached : ProjectionCache) : Bool :=
  let p := mem.projections cached.projection
  bounded p.installationID 128 ∧ cached.cursor = p.global ∧ cached.cursor.installationID = p.installationID ∧
    cached.cursor.schemaVersion = Journal.schemaVersion

def readFromZero (k service : Nat) : Memory :=
  (mem.allocate emptyView).setProgress k service (.reading (.over mem.used .zero none))

/-- `rebuild` up to its first page: `loadProjectionCache`. -/
def begin (k service : Nat) : Option Memory :=
  match mem.rebuilds k with
  | some _ => none
  | none => some <|
    match mem.caches service with
    | none => mem.readFromZero k service
    | some cached =>
      if mem.validCache cached then
        mem.setProgress k service (.reading (.over cached.projection cached.cursor (some cached)))
      else (mem.setCache service none).readFromZero k service

/-- What `rebuild` does about an error of `rebuildFrom`. -/
def fail (k service : Nat) (cached : Option ProjectionCache) (e : Error) : Memory :=
  match cached with
  | some cached =>
    if cacheFallbackError e then mem.setProgress k service (.spoilt cached)
    else mem.setProgress k service (.returned (.error e))
  | none => mem.setProgress k service (.returned (.error e))

def nameInstallation (address : Nat) (next : GlobalCursor) : Memory :=
  let p := mem.projections address
  if p.installationID = "" then
    mem.write address { p with
      installationID := next.installationID
      global := newGlobalCursor next.installationID }
  else mem

/-- `p = cloneProjection(p)` before the first events. -/
def unshare (reader : Reader) (events : List Event) : Memory × Reader :=
  if events ≠ [] ∧ reader.mutable = false then
    (mem.allocate (mem.projections reader.projection), { reader with projection := mem.used, mutable := true })
  else (mem, reader)

variable [sha : Sha]

/-- The events of a page, applied in place. An event that fails leaves the projection half written,
as `left`. -/
def applyPage (k service : Nat) (reader : Reader) (events : List Event)
    (next : GlobalCursor) (left : View) : Memory :=
  let p := mem.projections reader.projection
  let r : Replay := ⟨p.toProjection, reader.reservations, reader.wantPosition⟩
  match events.foldlM (mem.store.replay Replay.step) r with
  | .error e => (mem.write reader.projection left).fail k service reader.cached e
  | .ok r =>
    let cursor := if reader.mutable then next else p.global
    let mem := mem.write reader.projection { r.projection with global := cursor }
    if events = [] then
      match r.finish cursor with
      | .error e => mem.fail k service reader.cached e
      | .ok _ => mem.setProgress k service (.rebuilt reader.projection reader.cached)
    else mem.setProgress k service (.reading { reader with
      reservations := r.reservations
      wantPosition := r.wantPosition
      cursor := next })

def page (k : Nat) (left : View) : Option Memory :=
  match mem.rebuilds k with
  | some ⟨service, .reading reader⟩ => some <|
    match relabel (storeError none) (mem.store.feed reader.cursor 1000) with
    | .error e => mem.fail k service reader.cached e
    | .ok (events, next) =>
      let mem := mem.nameInstallation reader.projection next
      let p := mem.projections reader.projection
      if next.installationID = p.installationID ∧ next.schemaVersion = Journal.schemaVersion then
        let (mem, reader) := mem.unshare reader events
        mem.applyPage k service reader events next left
      else mem.fail k service reader.cached invalidRecord
  | _ => none

/-- `discardProjectionCache`, and the rebuild from zero after it. -/
def retry (k : Nat) : Option Memory :=
  match mem.rebuilds k with
  | some ⟨service, .spoilt cached⟩ =>
    let mem := if mem.caches service = some cached then mem.setCache service none else mem
    some (mem.readFromZero k service)
  | _ => none

/-- `installProjectionCache`. -/
def installed (service address : Nat) : Option ProjectionCache :=
  let candidate : ProjectionCache := ⟨address, (mem.projections address).global⟩
  match mem.caches service with
  | none => some candidate
  | some cached =>
    if cached.cursor.installationID ≠ candidate.cursor.installationID ∨
        cached.cursor.schemaVersion ≠ candidate.cursor.schemaVersion then some candidate
    else if cached.cursor.journalPosition > candidate.cursor.journalPosition then some cached
    else if cached.cursor.journalPosition = candidate.cursor.journalPosition then
      if mem.projections cached.projection = mem.projections address then some cached else none
    else some candidate

/-- The end of `rebuild`. -/
def install (k : Nat) : Option Memory :=
  match mem.rebuilds k with
  | some ⟨service, .rebuilt address cached⟩ =>
    let fresh := cached.all fun cached => (mem.projections address).global ≠ cached.cursor
    let mem := if fresh then mem.setCache service (mem.installed service address) else mem
    some (mem.setProgress k service (.returned (.ok address)))
  | _ => none

end

end Memory

/-- What happens next: a commit of any component through any service, a step of a rebuild, or
`discardCachedProjection` by a call that distrusts its projection. -/
inductive Memory.Label where
  | commit (request : CommitRequest)
  | begin (k service : Nat)
  | page (k : Nat) (left : View)
  | retry (k : Nat)
  | install (k : Nat)
  | discard (service : Nat)

def Memory.step [sha : Sha] (mem : Memory) : Memory.Label → Option Memory
  | .commit request =>
    match mem.store.commit request with
    | .ok (_, store) => some { mem with store }
    | .error _ => none
  | .begin k service => mem.begin k service
  | .page k left => mem.page k left
  | .retry k => mem.retry k
  | .install k => mem.install k
  | .discard service => some (mem.setCache service none)

inductive Memory.Reachable [sha : Sha] (installationID : String) : Memory → Prop
  | new {store : MemoryStore} (projections : Nat → View) :
    newMemoryStore installationID = .ok store → Memory.Reachable installationID { store, projections }
  | step {mem next : Memory} {label : Memory.Label} : Memory.Reachable installationID mem →
    mem.step label = some next → Memory.Reachable installationID next

inductive Memory.Steps [sha : Sha] (mem : Memory) : Memory → Prop
  | refl : Memory.Steps mem mem
  | tail {middle later : Memory} {label : Memory.Label} : Memory.Steps mem middle →
    middle.step label = some later → Memory.Steps mem later

def Memory.result (mem : Memory) (k : Nat) : Option (Except Error View) :=
  match mem.rebuilds k with
  | some ⟨_, .rebuilt address _⟩ | some ⟨_, .returned (.ok address)⟩ =>
    some (.ok (mem.projections address))
  | some ⟨_, .returned (.error e)⟩ => some (.error e)
  | _ => none

end Paje.Admission
