import Paje.Admission.Cache
import Paje.Admission.System

/-!
Who may write which projection. A rebuild owns the projection it fills until it returns it; caches,
results and the projections that rebuilds start from belong to nobody and stay as they are.
-/

namespace Paje.Admission

open Text Journal List MemoryStore Replay Memory Nat Function

variable {owner' : Nat → Option Nat}
variable {request : CommitRequest} {after : Memory}

section Runs

variable {first second third owner : Nat → Option Nat} {one two three mem : Memory} {k : Nat}
  {cached : ProjectionCache}

/-- From `mem` to `after` only rebuild `k` wrote, and only into what it owns. -/
structure Keeps (k : Nat) (mem : Memory) (owner : Nat → Option Nat) (after : Memory)
    (owner' : Nat → Option Nat) : Prop where
  store : after.store = mem.store
  used : mem.used ≤ after.used
  owners : ∀ address < mem.used, owner address ≠ some k → owner' address = owner address
  projections : ∀ address < mem.used, owner address ≠ some k → after.projections address = mem.projections address

theorem Keeps.refl (k : Nat) (mem : Memory) (owner : Nat → Option Nat) : Keeps k mem owner mem owner :=
  ⟨rfl, le_refl _, fun _ _ _ => rfl, fun _ _ _ => rfl⟩

theorem Keeps.trans {k : Nat}
    (left : Keeps k one first two second) (right : Keeps k two second three third) :
    Keeps k one first three third where
  store := right.store.trans left.store
  used := left.used.trans right.used
  owners address within other := by
    have same := left.owners address within other
    rw [← same] at other ⊢
    exact right.owners address (by have := left.used; omega) other
  projections address within other := by
    have same := left.owners address within other
    rw [← left.projections address within other]
    exact right.projections address (by have := left.used; omega) (same ▸ other)

/-- What never changes: projections that no rebuild owns. -/
def Frozen (mem : Memory) (owner : Nat → Option Nat) (after : Memory) (owner' : Nat → Option Nat) : Prop :=
  mem.used ≤ after.used ∧ ∀ address < mem.used, owner address = none →
    owner' address = none ∧ after.projections address = mem.projections address

theorem Frozen.refl (mem : Memory) (owner : Nat → Option Nat) : Frozen mem owner mem owner :=
  ⟨le_refl _, fun _ _ free => ⟨free, rfl⟩⟩

theorem Frozen.trans
    (left : Frozen one first two second) (right : Frozen two second three third) : Frozen one first three third := by
  refine ⟨left.1.trans right.1, fun address within free => ?_⟩
  obtain ⟨free', same⟩ := left.2 address within free
  obtain ⟨free'', same'⟩ := right.2 address (within.trans_le left.1) free'
  exact ⟨free'', same'.trans same⟩

theorem Keeps.frozen (keeps : Keeps k mem owner after owner') : Frozen mem owner after owner' := by
  refine ⟨keeps.used, fun address within free => ?_⟩
  have foreign : owner address ≠ some k := by rw [free]; nofun
  exact ⟨(keeps.owners address within foreign).trans free, keeps.projections address within foreign⟩

@[simp] theorem Memory.setProgress_rebuilds (mem : Memory) (k service : Nat) (progress : Progress) :
    (mem.setProgress k service progress).rebuilds k = some ⟨service, progress⟩ := by
  simp [setProgress]

theorem Memory.write_same (mem : Memory) (address : Nat) : mem.write address (mem.projections address) = mem := by
  simp [write]

theorem installed_cases {service address : Nat}
    (h : cached ∈ mem.installed service address) :
    cached ∈ mem.caches service ∨ cached = ⟨address, (mem.projections address).global⟩ := by
  unfold installed at h
  simp only at h
  split at h
  · exact .inr (Option.some.inj h).symm
  · rename_i kept found
    rw [found]
    repeat' split at h
    all_goals first
      | exact .inl h
      | exact .inr (Option.some.inj h).symm
      | cases h

variable [sha : Sha]

structure Reads (store : MemoryStore) (log : List Entry) (view : View) (reader : Reader)
    (front back : List Entry) (p : Projection) (n : Nat) : Prop where
  whole : log = front ++ back
  clean : Clean front
  prior : replay store.installationID front = .ok p
  past : 2 * front.length ≤ n
  within : n ≤ store.events.length
  cursor : reader.cursor = store.cursorAt n ∨ n = 0 ∧ reader.cursor = .zero
  global : view.global = store.cursorAt n
  folded : ((store.events.take n).drop (2 * front.length)).foldlM (store.replay Replay.step)
    { projection := p, wantPosition := 2 * front.length + 1 } =
      .ok ⟨view.toProjection, reader.reservations, reader.wantPosition⟩

/-- Before its first page a rebuild from zero holds nothing. -/
def Stands (store : MemoryStore) (log : List Entry) (view : View) (reader : Reader) : Prop :=
  (view = emptyView ∧ reader.mutable = true ∧ reader.cursor = .zero ∧ reader.reservations = ∅ ∧
    reader.wantPosition = 1) ∨ ∃ front back p n, Reads store log view reader front back p n

/-- `owner` says which rebuild may write a projection. -/
def Progress.Sound (mem : Memory) (owner : Nat → Option Nat) (log : List Entry) (k : Nat) : Progress → Prop
  | .reading reader => reader.projection < mem.used ∧
    owner reader.projection = (if reader.mutable then some k else none) ∧
    Stands mem.store log (mem.projections reader.projection) reader
  | .rebuilt address _ | .returned (.ok address) => address < mem.used ∧ owner address = none
  | .spoilt _ | .returned (.error _) => True

/-- A projection that no rebuild owns is complete; caches and results point to such projections. -/
structure Coherent (mem : Memory) (owner : Nat → Option Nat) (log : List Entry) : Prop where
  named : mem.store.installationID ≠ ""
  holds : mem.store.Holds log
  complete : ∀ address < mem.used, owner address = none → Complete mem.store log (mem.projections address)
  caches : ∀ service, ∀ cached ∈ mem.caches service, cached.projection < mem.used ∧
    owner cached.projection = none ∧ cached.cursor = (mem.projections cached.projection).global
  rebuilds : ∀ k, ∀ rebuild ∈ mem.rebuilds k, rebuild.progress.Sound mem owner log k

variable {log : List Entry}

theorem Progress.Sound.keeps {k other : Nat} (keeps : Keeps k mem owner after owner') (different : other ≠ k)
    {progress : Progress} (sound : progress.Sound mem owner log other) : progress.Sound after owner' log other := by
  have used := keeps.used
  cases progress with
  | reading reader =>
    obtain ⟨within, owned, stands⟩ := sound
    have foreign : owner reader.projection ≠ some k := by
      rw [owned]
      split
      · exact fun same => different (Option.some.inj same)
      · nofun
    refine ⟨by omega, (keeps.owners _ within foreign).trans owned, ?_⟩
    rw [keeps.store, keeps.projections _ within foreign]
    exact stands
  | rebuilt address cached =>
    obtain ⟨within, free⟩ := sound
    exact ⟨by omega, (keeps.owners _ within (by rw [free]; nofun)).trans free⟩
  | spoilt cached => trivial
  | returned result =>
    cases result with
    | error e => trivial
    | ok address =>
      obtain ⟨within, free⟩ := sound
      exact ⟨by omega, (keeps.owners _ within (by rw [free]; nofun)).trans free⟩

theorem Coherent.moves {k : Nat} (coherent : Coherent mem owner log) (keeps : Keeps k mem owner after owner')
    (complete : ∀ address < after.used, owner' address = none → (address < mem.used ∧ owner address = none) ∨
        Complete after.store log (after.projections address))
    (caches : ∀ service, ∀ cached ∈ after.caches service, cached ∈ mem.caches service ∨
      (cached.projection < after.used ∧ owner' cached.projection = none ∧
        cached.cursor = (after.projections cached.projection).global))
    (others : ∀ other, other ≠ k → after.rebuilds other = mem.rebuilds other)
    (mine : ∀ rebuild ∈ after.rebuilds k, rebuild.progress.Sound after owner' log k) : Coherent after owner' log where
  named := keeps.store ▸ coherent.named
  holds := keeps.store ▸ coherent.holds
  complete address within free := by
    rcases complete address within free with ⟨old, before⟩ | new
    · rw [keeps.store, keeps.projections address old (by rw [before]; nofun)]
      exact coherent.complete address old before
    · exact new
  caches service cached held := by
    rcases caches service cached held with old | new
    · obtain ⟨within, free, cursor⟩ := coherent.caches service cached old
      have untouched : owner cached.projection ≠ some k := by rw [free]; nofun
      refine ⟨within.trans_le keeps.used, (keeps.owners _ within untouched).trans free, ?_⟩
      rw [keeps.projections _ within untouched]
      exact cursor
    · exact new
  rebuilds other rebuild held := by
    by_cases same : other = k
    · subst same
      exact mine rebuild held
    · exact (coherent.rebuilds other rebuild (others other same ▸ held)).keeps keeps same

section Page

variable {store : MemoryStore} {log : List Entry} {view : View} {reader : Reader}
  {front back : List Entry} {p : Projection} {n : Nat}

theorem Reads.installation (reads : Reads store log view reader front back p n) :
    view.installationID = store.installationID := by
  have kept := foldlM_inv (fun r : Replay => r.projection.installationID = store.installationID)
    (fun _ _ _ _ same taken => (step_installation taken).trans same)
    (fold_installation reads.prior) reads.folded
  exact kept

theorem Reads.fed (holds : store.Holds log) (reads : Reads store log view reader front back p n) :
    ∃ size > 0, relabel (storeError none) (store.feed reader.cursor 1000) =
      .ok ((store.events.drop n).take size, store.cursorAt (min (n + size) store.events.length)) := by
  obtain ⟨size, positive, served⟩ := feed_serves holds.numbered n reads.within
  have here : store.feed reader.cursor 1000 = store.feed (store.cursorAt n) 1000 := by
    rcases reads.cursor with at_n | ⟨rfl, zero⟩
    · rw [at_n]
    · rw [zero, store.feed_zero]
  exact ⟨size, positive, congrArg (relabel (storeError none)) (here.trans served)⟩

theorem Reads.decides (holds : store.Holds log) (named : store.installationID ≠ "")
    (reads : Reads store log view reader front back p n) : (store.events.drop n).foldlM (store.replay step)
        ⟨view.toProjection, reader.reservations, reader.wantPosition⟩ >>=
      (fun r => r.finish (store.cursorAt store.events.length)) = rebuildAll store := by
  have split : store.events.drop (2 * front.length) =
      (store.events.take n).drop (2 * front.length) ++ store.events.drop n := by
    conv_lhs => rw [← take_append_drop n store.events]
    have size : (store.events.take n).length = n := by
      rw [length_take]
      exact min_eq_left reads.within
    rw [drop_append_of_le_length (by rw [size]; exact reads.past)]
  have all := suffix_decides reads.whole holds named reads.clean reads.prior
  rw [split, foldlM_append, reads.folded, ok_bind] at all
  exact all

theorem Reads.next (reads : Reads store log view reader front back p n) {size : Nat} {r : Replay}
    (taken : ((store.events.drop n).take size).foldlM (store.replay step)
      ⟨view.toProjection, reader.reservations, reader.wantPosition⟩ = .ok r) :
    Reads store log { r.projection with global := store.cursorAt (min (n + size) store.events.length) }
      { reader with
        reservations := r.reservations
        wantPosition := r.wantPosition
        cursor := store.cursorAt (min (n + size) store.events.length) }
      front back p (min (n + size) store.events.length) := by
  have past := reads.past
  have within := reads.within
  refine ⟨reads.whole, reads.clean, reads.prior, by omega, by omega, .inl rfl, rfl, ?_⟩
  have split : (store.events.take (min (n + size) store.events.length)).drop (2 * front.length) =
      (store.events.take n).drop (2 * front.length) ++ (store.events.drop n).take size := by
    have whole : store.events.take (min (n + size) store.events.length) =
        store.events.take n ++ (store.events.drop n).take size := by
      rw [← take_add, ← take_eq_take_min]
    rw [whole, drop_append_of_le_length]
    rw [length_take]
    omega
  rw [split, foldlM_append, reads.folded, ok_bind]
  exact taken

theorem Reads.moved (reads : Reads store log view reader front back p n) (address : Nat)
    (mutable : Bool) : Reads store log view { reader with projection := address, mutable } front back p n :=
  ⟨reads.whole, reads.clean, reads.prior, reads.past, reads.within, reads.cursor, reads.global, reads.folded⟩

theorem replay_stays (holds : store.Holds log) (accepted : store.Accepted request) {event : Event}
    (member : event ∈ store.events) (r : Replay) :
    (store.committed request).replay step r event = store.replay step r event := by
  rw [holds.events, eventsOf, mem_flatMap] at member
  obtain ⟨entry, inLog, mine⟩ := member
  have formed := holds.wellFormed entry inLog
  simp only [MemoryStore.replay]
  simp only [Entry.events, List.mem_cons, List.not_mem_nil, or_false] at mine
  rcases mine with rfl | rfl
  · exact step_ignores r _ _ _ formed.reservedKind
  · rw [holds.evidence inLog, (holds.committed accepted).evidence (mem_append_left _ inLog)]

theorem Reads.committed (holds : store.Holds log) (accepted : store.Accepted request)
    (reads : Reads store log view reader front back p n) :
    Reads (store.committed request) (log ++ [store.entryOf request]) view reader front
      (back ++ [store.entryOf request]) p n := by
  have events : (store.committed request).events = _ := committed_events
  have within := reads.within
  have taken : (store.committed request).events.take n = store.events.take n := by
    rw [events, take_append_of_le_length within]
  refine ⟨by rw [reads.whole, append_assoc], reads.clean, reads.prior, reads.past, ?_,
    reads.cursor, reads.global, ?_⟩
  · rw [events, length_append]
    omega
  · rw [taken, ← reads.folded]
    exact foldlM_congr (fun r event member =>
      replay_stays holds accepted (mem_of_mem_take (mem_of_mem_drop member)) r) _

theorem Stands.committed (holds : store.Holds log) (accepted : store.Accepted request)
    (stands : Stands store log view reader) :
    Stands (store.committed request) (log ++ [store.entryOf request]) view reader := by
  rcases stands with empty | ⟨front, back, p, n, reads⟩
  · exact .inl empty
  · exact .inr ⟨front, _, p, n, reads.committed holds accepted⟩

end Page

theorem Coherent.committed (coherent : Coherent mem owner log) (accepted : mem.store.Accepted request) :
    Coherent { mem with store := mem.store.committed request } owner
      (log ++ [mem.store.entryOf request]) where
  named := coherent.named
  holds := coherent.holds.committed accepted
  complete address within free := (coherent.complete address within free).extend rfl _
  caches := coherent.caches
  rebuilds k rebuild held := by
    have sound := coherent.rebuilds k rebuild held
    obtain ⟨service, progress⟩ := rebuild
    cases progress with
    | reading reader => exact ⟨sound.1, sound.2.1, sound.2.2.committed coherent.holds accepted⟩
    | returned result => cases result <;> exact sound
    | _ => exact sound

section Steps

variable {next : Memory} {log : List Entry} {service : Nat}
  {reader : Reader} {front back : List Entry} {p : Projection} {n : Nat} {events : List Event}

structure Advances (mem : Memory) (owner : Nat → Option Nat) (log : List Entry) (k : Nat)
    (next : Memory) (owner' : Nat → Option Nat) : Prop where
  coherent : Coherent next owner' log
  frozen : Frozen mem owner next owner'
  result : ∀ result, next.result k = some result → result = rebuildAll mem.store

theorem Coherent.progresses {progress : Progress}
    (coherent : Coherent mem owner log) (keeps : Keeps k mem owner after owner')
    (complete : ∀ address < after.used, owner' address = none → (address < mem.used ∧ owner address = none) ∨
        Complete after.store log (after.projections address))
    (caches : after.caches = mem.caches) (rebuilds : after.rebuilds = mem.rebuilds)
    (sound : progress.Sound after owner' log k)
    (result : ∀ value, (after.setProgress k service progress).result k = some value → value = rebuildAll mem.store) :
    Advances mem owner log k (after.setProgress k service progress) owner' := by
  have same : Keeps k mem owner (after.setProgress k service progress) owner' :=
    ⟨keeps.store, keeps.used, keeps.owners, keeps.projections⟩
  refine ⟨coherent.moves same complete (fun i cached held => .inl ?_) (fun other different => ?_)
    (fun rebuild held => ?_), same.frozen, result⟩
  · rw [← caches]
    exact held
  · simp only [setProgress, update_of_ne different, rebuilds]
  · rw [setProgress_rebuilds] at held
    cases held
    cases progress with
    | returned outcome => cases outcome <;> exact sound
    | _ => exact sound

theorem Coherent.fails {cached : Option ProjectionCache}
    {e : Error} (coherent : Coherent mem owner log) (keeps : Keeps k mem owner after owner')
    (complete : ∀ address < after.used, owner' address = none → address < mem.used ∧ owner address = none)
    (caches : after.caches = mem.caches) (rebuilds : after.rebuilds = mem.rebuilds)
    (failed : rebuildAll mem.store = .error e) : Advances mem owner log k (after.fail k service cached e) owner' := by
  have spoilt : ∀ cached, Advances mem owner log k
      (after.setProgress k service (.spoilt cached)) owner' := fun cached => by
    refine coherent.progresses keeps (fun a within free => .inl (complete a within free)) caches
      rebuilds trivial fun value reported => ?_
    simp [result] at reported
  have returned : Advances mem owner log k
      (after.setProgress k service (.returned (.error e))) owner' := by
    refine coherent.progresses keeps (fun a within free => .inl (complete a within free)) caches
      rebuilds trivial fun value reported => ?_
    simp only [result, setProgress_rebuilds, Option.some.injEq] at reported
    rw [← reported, failed]
  unfold fail
  split
  · split
    · exact spoilt _
    · exact returned
  · exact returned

section

variable (coherent : Coherent mem owner log)
include coherent

theorem Coherent.readsFromZero :
    Advances mem owner log k (mem.readFromZero k service) (Function.update owner mem.used (some k)) := by
  have old : ∀ address < mem.used, address ≠ mem.used := fun _ within => Nat.ne_of_lt within
  refine coherent.progresses ⟨rfl, Nat.le_succ _, fun address within _ => ?_, fun address within _ => ?_⟩
    (fun address within free => .inl ?_) rfl rfl ⟨Nat.lt_succ_self _, ?_, .inl ?_⟩ fun value reported => ?_
  · exact update_of_ne (old address within) _ _
  · exact update_of_ne (old address within) _ _
  · have other : address ≠ mem.used := by
      rintro rfl
      rw [update_self] at free
      cases free
    rw [update_of_ne other] at free
    have bound : address < mem.used + 1 := within
    exact ⟨by omega, free⟩
  · simp [Reader.over]
  · simp [Reader.over, allocate, write, GlobalCursor.zero]
  · simp [result] at reported

theorem Coherent.setsCache (i : Nat) {cache : Option ProjectionCache}
    (known : ∀ cached ∈ cache, cached.projection < mem.used ∧ owner cached.projection = none ∧
      cached.cursor = (mem.projections cached.projection).global) :
    Coherent (mem.setCache i cache) owner log where
  named := coherent.named
  holds := coherent.holds
  complete := coherent.complete
  caches service cached held := by
    simp only [setCache, update_apply] at held
    split at held
    · exact known cached held
    · exact coherent.caches service cached held
  rebuilds k rebuild held := by
    have sound := coherent.rebuilds k rebuild held
    obtain ⟨_, progress⟩ := rebuild
    cases progress with
    | returned outcome => cases outcome <;> exact sound
    | _ => exact sound

theorem Coherent.drops (i : Nat) : Coherent (mem.setCache i none) owner log :=
  coherent.setsCache i (fun _ none => nomatch none)

theorem Coherent.cached_reads {i : Nat} (held : cached ∈ mem.caches i) :
    ∃ front back p n, Reads mem.store log (mem.projections cached.projection)
      (.over cached.projection cached.cursor (some cached)) front back p n := by
  obtain ⟨within, free, cursor⟩ := coherent.caches i cached held
  obtain ⟨front, back, p, whole, clean, prior, view⟩ := coherent.complete _ within free
  have length : 2 * front.length ≤ mem.store.events.length := by
    rw [coherent.holds.length, whole, length_append]
    omega
  have at_end : cached.cursor = mem.store.cursorAt (2 * front.length) := by
    rw [cursor, view]
    rfl
  refine ⟨front, back, p, 2 * front.length, whole, clean, prior, le_refl _, length, .inl at_end, ?_, ?_⟩
  · rw [← cursor, at_end]
  · rw [drop_eq_nil_of_le (by rw [length_take]; omega), view]
    simp only [Reader.over, at_end]
    rfl

theorem Coherent.begins (h : mem.begin k service = some next) :
    ∃ owner', Advances mem owner log k next owner' := by
  unfold begin at h
  split at h
  · cases h
  · cases h
    split
    · exact ⟨_, coherent.readsFromZero⟩
    · rename_i cached held
      split
      · obtain ⟨within, free, cursor⟩ := coherent.caches service cached held
        obtain ⟨front, back, p, n, reads⟩ := coherent.cached_reads held
        have started : cached.cursor ≠ .zero := by
          rw [cursor, reads.global]
          exact mem.store.cursorAt_started n
        refine ⟨owner, coherent.progresses (.refl k mem owner) (fun a inside free => .inl ⟨inside, free⟩)
          rfl rfl ⟨within, ?_, .inr ⟨front, back, p, n, reads⟩⟩ fun value reported => ?_⟩
        · simp [Reader.over, started, free]
        · simp [result] at reported
      · have fresh : Advances _ owner log k ((mem.setCache service none).readFromZero k service) _ :=
          (coherent.drops service).readsFromZero
        exact ⟨_, fresh.coherent, fresh.frozen, fresh.result⟩

theorem Coherent.names (found : mem.rebuilds k = some ⟨service, .reading reader⟩) :
    ∃ front back p n size, 0 < size ∧
      relabel (storeError none) (mem.store.feed reader.cursor 1000) = .ok
        ((mem.store.events.drop n).take size, mem.store.cursorAt (min (n + size) mem.store.events.length)) ∧
      ∃ after, mem.nameInstallation reader.projection
          (mem.store.cursorAt (min (n + size) mem.store.events.length)) = after ∧
        Reads mem.store log (after.projections reader.projection) reader front back p n ∧
        Keeps k mem owner after owner ∧ after.used = mem.used ∧ after.caches = mem.caches ∧
        after.rebuilds = mem.rebuilds := by
  obtain ⟨within, owned, empty | ⟨front, back, p, n, reads⟩⟩ := coherent.rebuilds k _ found
  · obtain ⟨view, mutable, zero, none, want⟩ := empty
    obtain ⟨size, positive, served⟩ :=
      feed_serves coherent.holds.numbered 0 (zero_le _)
    have fed : mem.store.feed reader.cursor 1000 = mem.store.feed (mem.store.cursorAt 0) 1000 := by
      rw [zero, mem.store.feed_zero]
    refine ⟨[], log, start mem.store.installationID, 0, size, positive,
      congrArg (relabel (storeError _)) (fed.trans served), _, rfl, ?_⟩
    have lacks : (mem.projections reader.projection).installationID = "" := by
      rw [view]
      rfl
    simp only [nameInstallation, if_pos lacks]
    refine ⟨⟨rfl, (fun _ m => nomatch m), rfl, le_refl _, zero_le _, .inr ⟨rfl, zero⟩, ?_, ?_⟩,
      ⟨rfl, le_refl _, fun _ _ _ => rfl, fun address _ foreign => ?_⟩, rfl, rfl, rfl⟩
    · simp only [write, update_self]
      rfl
    · simp only [write, update_self, view, none, want]
      rfl
    · refine update_of_ne ?_ _ _
      rintro rfl
      rw [owned, mutable] at foreign
      exact foreign rfl
  · obtain ⟨size, positive, fed⟩ := reads.fed coherent.holds
    have carries : (mem.projections reader.projection).installationID ≠ "" := by
      rw [reads.installation]
      exact coherent.named
    refine ⟨front, back, p, n, size, positive, fed, mem, ?_, reads, .refl k mem owner, rfl, rfl, rfl⟩
    simp only [nameInstallation, if_neg carries]

end

structure Prepared (mem : Memory) (owner : Nat → Option Nat) (log : List Entry) (k : Nat)
    (reader : Reader) (front back : List Entry) (p : Projection) (n : Nat) (events : List Event)
    (after : Memory) (owner' : Nat → Option Nat) : Prop where
  keeps : Keeps k mem owner after owner'
  reads : Reads mem.store log (after.projections reader.projection) reader front back p n
  within : reader.projection < after.used
  owned : owner' reader.projection = if reader.mutable then some k else none
  mutable : events ≠ [] → reader.mutable = true
  complete : ∀ address < after.used, owner' address = none → address < mem.used ∧ owner address = none
  caches : after.caches = mem.caches
  rebuilds : after.rebuilds = mem.rebuilds

theorem Coherent.unshares (within : reader.projection < mem.used)
    (owned : owner reader.projection = if reader.mutable then some k else none)
    (reads : Reads mem.store log (after.projections reader.projection) reader front back p n)
    (keeps : Keeps k mem owner after owner) (used : after.used = mem.used)
    (caches : after.caches = mem.caches) (rebuilds : after.rebuilds = mem.rebuilds) (events : List Event) :
    ∃ owner', Prepared mem owner log k (after.unshare reader events).2 front back p n events
      (after.unshare reader events).1 owner' := by
  unfold unshare
  split
  · have old : ∀ address < mem.used, address ≠ after.used := fun _ inside => by omega
    refine ⟨Function.update owner after.used (some k), ?_, ?_, ?_, ?_, fun _ => rfl, ?_, caches, rebuilds⟩
    · refine keeps.trans ⟨rfl, le_succ _, fun address inside _ => ?_, fun address inside _ => ?_⟩
      · exact Function.update_of_ne (Nat.ne_of_lt inside) _ _
      · exact Function.update_of_ne (Nat.ne_of_lt inside) _ _
    · simp only [Memory.allocate, Memory.write, Function.update_self]
      exact reads.moved _ _
    · exact lt_succ_self _
    · simp
    · intro address inside free
      have other : address ≠ after.used := by
        rintro rfl
        rw [update_self] at free
        cases free
      rw [update_of_ne other] at free
      have bound : address < after.used + 1 := inside
      exact ⟨by omega, free⟩
  · rename_i settled
    refine ⟨owner, keeps, reads, used ▸ within, owned, fun some_left => ?_, fun address inside free =>
      ⟨used ▸ inside, free⟩, caches, rebuilds⟩
    by_contra shared
    exact settled ⟨some_left, by simpa using shared⟩

theorem Prepared.writes (prepared : Prepared mem owner log k reader front back p n events after owner')
    (mine : reader.mutable = true) (view : View) : Keeps k mem owner (after.write reader.projection view) owner' := by
  refine prepared.keeps.trans ⟨rfl, le_refl _, fun _ _ _ => rfl, fun address _ foreign => ?_⟩
  refine update_of_ne ?_ _ _
  rintro rfl
  rw [prepared.owned, if_pos mine] at foreign
  exact foreign rfl

section

variable (coherent : Coherent mem owner log)
include coherent

theorem Prepared.ends
    (prepared : Prepared mem owner log k reader front back p mem.store.events.length events after owner')
    {view : View} (finished : finish ⟨(after.projections reader.projection).toProjection,
      reader.reservations, reader.wantPosition⟩ (mem.store.cursorAt mem.store.events.length) = .ok view) :
    Advances mem owner log k (after.setProgress k service (.rebuilt reader.projection reader.cached))
      (Function.update owner' reader.projection none) := by
  have all := prepared.reads.decides coherent.holds coherent.named
  rw [drop_length] at all
  have rebuilt : rebuildAll mem.store = .ok view := by rw [← all, ← finished]; rfl
  have same : view = after.projections reader.projection := by
    unfold finish at finished
    obtain ⟨_, finished⟩ := require_bind_ok finished
    obtain ⟨_, finished⟩ := require_bind_ok finished
    rw [← pure_ok finished, ← prepared.reads.global]
  refine coherent.progresses ⟨prepared.keeps.store, prepared.keeps.used, fun address inside foreign => ?_,
    prepared.keeps.projections⟩ (fun address inside free => ?_) prepared.caches prepared.rebuilds
    ⟨prepared.within, update_self _ _ _⟩ fun value reported => ?_
  · have kept := prepared.keeps.owners address inside foreign
    by_cases here : address = reader.projection
    · subst here
      have owned := prepared.owned
      rw [kept] at owned
      rw [update_self, owned]
      split
      · rename_i mine
        rw [owned, if_pos mine] at foreign
        exact absurd rfl foreign
      · rfl
    · rw [update_of_ne here]
      exact kept
  · by_cases here : address = reader.projection
    · right
      rw [here, prepared.keeps.store, ← same]
      exact rebuildAll_complete coherent.holds coherent.named rebuilt
    · rw [update_of_ne here] at free
      exact .inl (prepared.complete address inside free)
  · simp only [result, setProgress_rebuilds, Option.some.injEq] at reported
    rw [← reported, rebuilt, same]
    rfl

theorem Prepared.applies {size : Nat} (positive : 0 < size)
    (prepared : Prepared mem owner log k reader front back p n
      ((mem.store.events.drop n).take size) after owner') (left : View) : ∃ owner'', Advances mem owner log k
      (after.applyPage k service reader ((mem.store.events.drop n).take size)
        (mem.store.cursorAt (min (n + size) mem.store.events.length)) left) owner'' := by
  have reads := prepared.reads
  have within := reads.within
  have decides := reads.decides coherent.holds coherent.named
  have split : mem.store.events.drop n = (mem.store.events.drop n).take size ++
      (mem.store.events.drop n).drop size := (take_append_drop size _).symm
  unfold applyPage
  simp only [prepared.keeps.store]
  cases taken : ((mem.store.events.drop n).take size).foldlM (mem.store.replay step)
      ⟨(after.projections reader.projection).toProjection, reader.reservations, reader.wantPosition⟩ with
  | error e =>
    have some_left : (mem.store.events.drop n).take size ≠ [] := by
      intro none
      rw [none] at taken
      cases taken
    refine ⟨owner', coherent.fails (prepared.writes (prepared.mutable some_left) left)
      prepared.complete prepared.caches prepared.rebuilds ?_⟩
    rw [← decides, split, foldlM_append, taken]
    rfl
  | ok r =>
    by_cases none : (mem.store.events.drop n).take size = []
    · -- the empty page: nothing is written, and the rebuild ends
      have at_end : n = mem.store.events.length := by
        simp only [take_eq_nil_iff, drop_eq_nil_iff] at none
        omega
      subst at_end
      rw [none] at taken
      have unchanged := pure_ok taken
      have here : (if reader.mutable = true then
          mem.store.cursorAt (min (mem.store.events.length + size) mem.store.events.length)
          else (after.projections reader.projection).global) =
          mem.store.cursorAt mem.store.events.length := by
        rw [reads.global, min_eq_right (le_add_right _ _), ite_self]
      have same : ({ (after.projections reader.projection) with
          global := mem.store.cursorAt mem.store.events.length } : View) =
          after.projections reader.projection := by
        rw [← reads.global]
      simp only [none, if_true, here, ← unchanged, same, write_same]
      rw [drop_length] at decides
      cases finished : finish ⟨(after.projections reader.projection).toProjection,
          reader.reservations, reader.wantPosition⟩
          (mem.store.cursorAt mem.store.events.length) with
      | error e =>
        refine ⟨owner', coherent.fails prepared.keeps prepared.complete prepared.caches prepared.rebuilds ?_⟩
        rw [← decides, ← finished]
        rfl
      | ok view => exact ⟨_, prepared.ends coherent finished⟩
    · have mine := prepared.mutable none
      simp only [none, if_false, mine, if_true]
      refine ⟨owner', coherent.progresses (prepared.writes mine _)
        (fun address inside free => .inl (prepared.complete address inside free)) prepared.caches
        prepared.rebuilds ⟨prepared.within, ?_, .inr ⟨front, back, p,
          min (n + size) mem.store.events.length, ?_⟩⟩ fun value reported => ?_⟩
      · simpa [mine] using prepared.owned
      · simp only [write, update_self, prepared.keeps.store]
        have moved := reads.next taken
        rw [mine] at moved
        exact moved
      · simp [result] at reported

theorem Coherent.pages {left : View} (h : mem.page k left = some next) :
    ∃ owner', Advances mem owner log k next owner' := by
  unfold Memory.page at h
  split at h
  · rename_i service reader found
    obtain ⟨within, owned, _⟩ := coherent.rebuilds k _ found
    obtain ⟨front, back, p, n, size, positive, fed, after, named, reads, keeps, used, caches, rebuilds⟩ :=
      coherent.names found
    have fits : (mem.store.cursorAt (min (n + size) mem.store.events.length)).installationID =
        (after.projections reader.projection).installationID ∧
        (mem.store.cursorAt (min (n + size) mem.store.events.length)).schemaVersion =
          Journal.schemaVersion := ⟨reads.installation.symm, rfl⟩
    simp only [fed, named, if_pos fits, Option.some.injEq] at h
    subst h
    obtain ⟨owner', prepared⟩ := Coherent.unshares within owned reads keeps used caches rebuilds
      ((mem.store.events.drop n).take size)
    exact prepared.applies coherent positive left
  · cases h

theorem Coherent.retries (h : mem.retry k = some next) :
    ∃ owner', Advances mem owner log k next owner' := by
  unfold retry at h
  split at h
  · rename_i service cached found
    cases h
    split
    · have fresh : Advances _ owner log k ((mem.setCache service none).readFromZero k service) _ :=
        (coherent.drops service).readsFromZero
      exact ⟨_, fresh.coherent, fresh.frozen, fresh.result⟩
    · exact ⟨_, coherent.readsFromZero⟩
  · cases h

end

theorem Coherent.installs (coherent : Coherent mem owner log) (h : mem.install k = some next) :
    Coherent next owner log ∧ Frozen mem owner next owner := by
  unfold install at h
  split at h
  · rename_i service address cached found
    obtain ⟨within, free⟩ := coherent.rebuilds k _ found
    cases h
    have known : ∀ cached ∈ mem.installed service address, cached.projection < mem.used ∧
        owner cached.projection = none ∧
        cached.cursor = (mem.projections cached.projection).global := by
      intro cached held
      rcases installed_cases held with old | rfl
      · exact coherent.caches service cached old
      · exact ⟨within, free, rfl⟩
    have returns : ∀ {mem : Memory}, Coherent mem owner log → address < mem.used →
        Coherent (mem.setProgress k service (.returned (.ok address))) owner log := by
      intro mem coherent within
      have keeps : Keeps k mem owner (mem.setProgress k service (.returned (.ok address))) owner :=
        ⟨rfl, le_refl _, fun _ _ _ => rfl, fun _ _ _ => rfl⟩
      refine coherent.moves keeps (fun a inside free => .inl ⟨inside, free⟩) (fun _ _ held => .inl held)
        (fun other different => ?_)
        fun rebuild held => ?_
      · simp only [setProgress, update_of_ne different]
      · rw [setProgress_rebuilds] at held
        cases held
        exact ⟨within, free⟩
    split
    · exact ⟨returns (coherent.setsCache service known) within, .refl mem owner⟩
    · exact ⟨returns coherent within, .refl mem owner⟩
  · cases h

theorem Coherent.step (coherent : Coherent mem owner log) {label : Memory.Label} (h : mem.step label = some next) :
    ∃ owner' log', Coherent next owner' log' ∧ Frozen mem owner next owner' := by
  have moved : ∀ {j}, (∃ owner', Advances mem owner log j next owner') → ∃ owner' log',
      Coherent next owner' log' ∧ Frozen mem owner next owner' := by
    rintro j ⟨owner', advances⟩
    exact ⟨owner', log, advances.coherent, advances.frozen⟩
  cases label with
  | commit request =>
    simp only [Memory.step] at h
    split at h
    · rename_i receipt store committed
      cases h
      rcases commit_ok committed with ⟨rfl, _⟩ | ⟨accepted, _, rfl⟩
      · exact ⟨owner, log, coherent, .refl mem owner⟩
      · exact ⟨owner, _, coherent.committed accepted, .refl mem owner⟩
    · cases h
  | begin j service => exact moved (coherent.begins h)
  | page j left => exact moved (coherent.pages h)
  | retry j => exact moved (coherent.retries h)
  | install j => exact ⟨owner, log, coherent.installs h⟩
  | discard service =>
    cases h
    exact ⟨owner, log, coherent.drops service, .refl mem owner⟩

end Steps

variable {installationID : String}

theorem Memory.Reachable.coherent
    (reachable : Memory.Reachable installationID mem) : ∃ owner log, Coherent mem owner log := by
  induction reachable with
  | new projections h =>
    obtain ⟨rfl, named⟩ := newMemoryStore_ok h
    exact ⟨fun _ => none, [], named, holds_new _, (fun _ m => nomatch m),
      (fun _ _ m => nomatch m), (fun _ _ m => nomatch m)⟩
  | step _ h ih =>
    obtain ⟨owner, log, coherent⟩ := ih
    obtain ⟨owner', log', coherent, _⟩ := coherent.step h
    exact ⟨owner', log', coherent⟩

theorem Coherent.steps {mem later : Memory}
    (coherent : Coherent mem owner log) (steps : Memory.Steps mem later) :
    ∃ owner' log', Coherent later owner' log' ∧ Frozen mem owner later owner' := by
  induction steps with
  | refl => exact ⟨owner, log, coherent, .refl mem owner⟩
  | tail _ h ih =>
    obtain ⟨owner', log', coherent', frozen⟩ := ih
    obtain ⟨owner'', log'', coherent'', frozen'⟩ := coherent'.step h
    exact ⟨owner'', log'', coherent'', frozen.trans frozen'⟩

/-- Whatever was committed, installed and discarded, a page that ends a rebuild ends it with what a
rebuild from position zero returns, a rebuild through any cache returns it too, and the projections
that caches point to never change. -/
theorem cached_rebuild {installationID : String} {mem : Memory} (reachable : Memory.Reachable installationID mem) :
    (∀ k left next result, mem.page k left = some next → next.result k = some result →
      result = rebuildAll mem.store) ∧ (∀ service, (rebuild mem.store ((mem.caches service).map fun cached =>
      mem.projections cached.projection)).1 = rebuildAll mem.store) ∧
    ∀ later, Memory.Steps mem later → ∀ service, ∀ cached ∈ mem.caches service,
      later.projections cached.projection = mem.projections cached.projection := by
  obtain ⟨owner, log, coherent⟩ := reachable.coherent
  refine ⟨fun k left next result paged reported => ?_, fun service => ?_, fun later steps service cached held => ?_⟩
  · obtain ⟨_, advances⟩ := coherent.pages paged
    exact advances.result result reported
  · refine Complete.rebuild_eq coherent.holds coherent.named fun view held => ?_
    obtain ⟨cached, known, rfl⟩ := Option.map_eq_some_iff.mp held
    obtain ⟨within, free, _⟩ := coherent.caches service cached known
    exact coherent.complete _ within free
  · obtain ⟨within, free, _⟩ := coherent.caches service cached held
    obtain ⟨_, _, _, frozen⟩ := coherent.steps steps
    exact (frozen.2 _ within free).2

def Memory.run (mem : Memory) (labels : List Memory.Label) : Option Memory := labels.foldlM Memory.step mem

variable {labels : List Memory.Label}

theorem Memory.Reachable.run {mem next : Memory}
    (reachable : Memory.Reachable installationID mem) (ran : mem.run labels = some next) :
    Memory.Reachable installationID next :=
  foldlM_some (Memory.Reachable installationID) (fun _ _ _ reached stepped => reached.step stepped) reachable ran

theorem Memory.Steps.run {mem middle later : Memory}
    (steps : Memory.Steps mem middle) (ran : middle.run labels = some later) : Memory.Steps mem later :=
  foldlM_some (Memory.Steps mem) (fun _ _ _ reached stepped => reached.tail stepped) steps ran

end Runs

attribute [local instance] Sha.sample

def reserveCommit : CommitRequest :=
  let request := Service.sample.request (Plan.reserve (.sample "one" "1")).transition "i"
  let view : View := { start "i" with global := newGlobalCursor "i" }
  view.commitOf .sample (.reserve (.sample "one" "1")) 1 (.admission {
    controlRunID := "run"
    subject := ⟨"one", "principal", "project", "primitive", "one"⟩
    state := .reserved
    graphRevision := 1
    generation := 1
    policyVersion := 1
    policyDigest := Service.sample.policyDigest
    originalRequestDigest := digest (.admissionRequest request)
    receiptID := opaqueReceiptID .admissionReserve request.binding (digest (.admissionRequest request)) })

def theirCommit : CommitRequest where
  action := {
    id := "theirs"
    controlRunID := "other"
    kind := .dispatch
    graphRevision := 1
    expectedProjection := 0
    canonicalRequestDigest := digest (.foreign none "request")
    idempotencyKey := "key" }
  expectedRun := ⟨"i", "other", 1, 0⟩
  expectedGlobal := ⟨"i", 1, 2⟩
  requestPayload := .foreign none "request"
  outcome := {
    id := "event"
    controlRunID := "other"
    actionID := "theirs"
    kind := .actionResult
    payloadDigest := digest (.foreign none "snapshot")
    occurredAt := 1 }
  outcomePayload := .foreign none "snapshot"

def installFirst : List Memory.Label :=
  [.commit reserveCommit, .begin 0 0, .page 0 emptyView, .page 0 emptyView, .install 0]

def rebuildSecond : List Memory.Label := [.commit theirCommit, .begin 1 0, .page 1 emptyView]

def Memory.sample : Memory := { store := { installationID := "i" }, projections := fun _ => emptyView }

theorem Memory.sample_reachable : Memory.Reachable "i" sample := .new _ (by decide +kernel)

/-- The second rebuild copies the cached projection, which keeps its own cursor. -/
theorem cached_rebuild_second : ∃ mem later next cached view,
    sample.run installFirst = some mem ∧ mem.run rebuildSecond = some later ∧
    later.page 1 emptyView = some next ∧ mem.caches 0 = some cached ∧
    next.result 1 = some (.ok view) ∧ rebuildAll later.store = .ok view ∧
    view.admissions.values.length = 1 ∧ view.global.journalPosition = 4 ∧
    (mem.projections cached.projection).global.journalPosition = 2 ∧
    later.projections cached.projection = mem.projections cached.projection := by
  obtain ⟨mem, ran, later, ranLater, next, paged, cached, held, _, reported, view, rfl, one, four, two⟩ :
      ∃ mem, sample.run installFirst = some mem ∧ ∃ later, mem.run rebuildSecond = some later ∧
      ∃ next, later.page 1 emptyView = some next ∧ ∃ cached, mem.caches 0 = some cached ∧
      ∃ result, next.result 1 = some result ∧ ∃ view, result = .ok view ∧
        view.admissions.values.length = 1 ∧ view.global.journalPosition = 4 ∧
        (mem.projections cached.projection).global.journalPosition = 2 := by decide +kernel
  have reachable := sample_reachable.run ran
  have full := (cached_rebuild (reachable.run ranLater)).1 1 emptyView next _ paged reported
  exact ⟨mem, later, next, cached, view, ran, ranLater, paged, held, reported, full.symm, one, four, two,
    (cached_rebuild reachable).2.2 later (Memory.Steps.refl.run ranLater) 0 cached held⟩

end Paje.Admission
