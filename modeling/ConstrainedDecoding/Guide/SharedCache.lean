import ConstrainedDecoding.Guide.Cache

/-!
The store of guides as it is used by calls that overlap. A call takes its steps one at a time, and
between two of them other calls may take theirs. What is done under the lock of the table is one step.
Each slot has a lock of its own, which is held while its guide is built.
-/

namespace ConstrainedDecoding

open GuideCache (Key Slot)

/-- The number of a slot among all that were ever made. Calls hold on to a slot also when it has left
the table. -/
abbrev SlotId := Nat

/-- A slot with the lock under which its guide is built. -/
structure SharedCache.Cell extends Slot where
  locked : Bool

/-- What calls share. -/
structure SharedCache where
  /-- How many guides are kept; all of them if there is no number. -/
  capacity : Option Nat
  /-- All slots that were ever made. -/
  cells : List SharedCache.Cell
  /-- The slots that are found by their keys, in the order of the table. -/
  table : List SlotId
  /-- Moves on with every use of a slot. -/
  clock : Nat
  /-- How many guides have been built. -/
  builds : Nat

namespace SharedCache

def empty (capacity : Option Nat) : SharedCache :=
  { capacity, cells := [], table := [], clock := 0, builds := 0 }

def key? (c : SharedCache) (slot : SlotId) : Option Key := c.cells[slot]?.map (·.key)

def guide? (c : SharedCache) (slot : SlotId) : Option BuiltGuide := c.cells[slot]?.bind (·.guide?)

def isLocked (c : SharedCache) (slot : SlotId) : Bool := c.cells[slot]?.any (·.locked)

/-- The slot in which a key is found. -/
def slot? (c : SharedCache) (key : Key) : Option SlotId :=
  c.table.find? fun slot => c.key? slot = some key

/-- The slot in which a key is found once it has one. -/
def slotFor (c : SharedCache) (key : Key) : SlotId := (c.slot? key).getD c.cells.length

/-- Make a slot for a key that has none. -/
def enter (c : SharedCache) (key : Key) : SharedCache :=
  match c.slot? key with
  | some _ => c
  | none =>
    let cell : Cell := { key, guide? := none, lastAccess := 0, locked := false }
    { c with cells := c.cells ++ [cell], table := c.cells.length :: c.table }

def tick (c : SharedCache) : SharedCache := { c with clock := c.clock + 1 }

def count (c : SharedCache) : SharedCache := { c with builds := c.builds + 1 }

def update (c : SharedCache) (slot : SlotId) (change : Cell → Cell) : SharedCache :=
  { c with cells := c.cells.modify slot change }

/-- Note when a slot is used. -/
def stamp (c : SharedCache) (slot : SlotId) (time : Nat) : SharedCache :=
  c.update slot ({ · with lastAccess := time })

def lock (c : SharedCache) (slot : SlotId) : SharedCache := c.update slot ({ · with locked := true })

def unlock (c : SharedCache) (slot : SlotId) : SharedCache :=
  c.update slot ({ · with locked := false })

/-- Put a guide into a slot, unless there is one already. -/
def fill (c : SharedCache) (slot : SlotId) (g : BuiltGuide) : SharedCache :=
  c.update slot fun cell => { cell with guide? := some (cell.guide?.getD g) }

/-- Take the slot of a key out of the table. -/
def remove (c : SharedCache) (key : Key) : SharedCache :=
  { c with table := c.table.filter fun slot => c.key? slot ≠ some key }

/-- Take a slot out of the table, if the key is still found in it and it has no guide. -/
def discard (c : SharedCache) (key : Key) (slot : SlotId) : SharedCache :=
  if c.slot? key = some slot ∧ (c.guide? slot).isNone then c.remove key else c

def slots (c : SharedCache) : List Slot :=
  c.table.filterMap fun slot => c.cells[slot]?.map (·.toSlot)

/-- The slots in the table whose guides are built. -/
def builtSlots (c : SharedCache) : List Slot := c.slots.filter (·.guide?.isSome)

/-- The number of guides that are kept. -/
def size (c : SharedCache) : Nat := c.builtSlots.length

/-- Remove a number of built guides, those first that were used least recently. -/
def evictMany : (count : Nat) → SharedCache → SharedCache
  | 0, c => c
  | count + 1, c =>
    match GuideCache.oldest? c.builtSlots with
    | none => c
    | some s => evictMany count (c.remove s.key)

/-- Remove guides until their number is within the capacity. -/
def evict (c : SharedCache) : SharedCache :=
  match c.capacity with
  | none => c
  | some capacity => evictMany (c.size - capacity) c

def clear (c : SharedCache) : SharedCache := { c with table := [] }

/-! ### The steps of a call for a guide that is built if there is none -/

/-- What a call has come to that held the lock of a slot. -/
inductive Outcome
  /-- The guide was there before the lock was taken. -/
  | found (g : BuiltGuide)
  | built (g : BuiltGuide)
  | failed (e : Error)

/-- What a call does next. -/
inductive Phase
  /-- Find the slot of the key, or make it. -/
  | entering
  /-- Take the time at which a slot is used, first when it is wanted and again when its guide is built. -/
  | ticking (slot : SlotId) (built? : Option BuiltGuide)
  | stamping (slot : SlotId) (time : Nat) (built? : Option BuiltGuide)
  | checking (slot : SlotId)
  /-- Take the lock of a slot. -/
  | waiting (slot : SlotId)
  /-- Check again, since other calls may have built the guide. -/
  | rechecking (slot : SlotId)
  | building (slot : SlotId)
  | counting (slot : SlotId) (guide : Guide)
  | filling (slot : SlotId) (g : BuiltGuide)
  /-- Give the lock of a slot back. -/
  | releasing (slot : SlotId) (outcome : Outcome)
  | discarding (slot : SlotId) (e : Error)
  | evicting (g : BuiltGuide)
  | done (result : Except Error BuiltGuide)

/-- The steps of a call for the guide of a key. `build` is what its build gives. -/
inductive Phase.Step (key : Key) (build : Except Error Guide) :
    SharedCache → Phase → SharedCache → Phase → Prop
  | enter {c} : Step key build c .entering (c.enter key) (.ticking (c.slotFor key) none)
  | tick {c slot built?} :
    Step key build c (.ticking slot built?) c.tick (.stamping slot c.clock built?)
  | stampWanted {c slot time} :
    Step key build c (.stamping slot time none) (c.stamp slot time) (.checking slot)
  | stampBuilt {c slot time g} :
    Step key build c (.stamping slot time (some g)) (c.stamp slot time) (.evicting g)
  | hit {c slot g} (h : c.guide? slot = some g) :
    Step key build c (.checking slot) c (.done (.ok g))
  | miss {c slot} (h : c.guide? slot = none) : Step key build c (.checking slot) c (.waiting slot)
  | acquire {c slot} (h : c.isLocked slot = false) :
    Step key build c (.waiting slot) (c.lock slot) (.rechecking slot)
  | lateHit {c slot g} (h : c.guide? slot = some g) :
    Step key build c (.rechecking slot) c (.releasing slot (.found g))
  | lateMiss {c slot} (h : c.guide? slot = none) :
    Step key build c (.rechecking slot) c (.building slot)
  | build {c slot guide} (h : build = .ok guide) :
    Step key build c (.building slot) c (.counting slot guide)
  | fail {c slot e} (h : build = .error e) :
    Step key build c (.building slot) c (.releasing slot (.failed e))
  | count {c slot guide} :
    Step key build c (.counting slot guide) c.count (.filling slot { serial := c.builds, guide })
  | fill {c slot g} : Step key build c (.filling slot g) (c.fill slot g)
    (.releasing slot (.built ((c.guide? slot).getD g)))
  | releaseFound {c slot g} :
    Step key build c (.releasing slot (.found g)) (c.unlock slot) (.done (.ok g))
  | releaseBuilt {c slot g} :
    Step key build c (.releasing slot (.built g)) (c.unlock slot) (.ticking slot (some g))
  | releaseFailed {c slot e} :
    Step key build c (.releasing slot (.failed e)) (c.unlock slot) (.discarding slot e)
  | discard {c slot e} :
    Step key build c (.discarding slot e) (c.discard key slot) (.done (.error e))
  | evict {c g} : Step key build c (.evicting g) c.evict (.done (.ok g))

/-- A call for a guide that is built if there is none. -/
structure Request where
  settings : Settings
  key : Key
  phase : Phase

/-- What the build of a key gives. -/
def build (settings : Settings) (key : Key) : Except Error Guide :=
  Guide.ofPattern settings key.pattern (.ofVocabulary key.vocabulary)

/-! ### The steps of a call for a guide that is there -/

/-- What a call does next. -/
inductive Lookup.Phase
  | looking
  | reading (slot : SlotId)
  | ticking (slot : SlotId) (g : BuiltGuide)
  | stamping (slot : SlotId) (time : Nat) (g : BuiltGuide)
  | done (guide? : Option BuiltGuide)

/-- The steps of a call for the guide of a key. -/
inductive Lookup.Phase.Step (key : Key) :
    SharedCache → Lookup.Phase → SharedCache → Lookup.Phase → Prop
  | absent {c} (h : c.slot? key = none) : Step key c .looking c (.done none)
  | present {c slot} (h : c.slot? key = some slot) : Step key c .looking c (.reading slot)
  | unbuilt {c slot} (h : c.guide? slot = none) : Step key c (.reading slot) c (.done none)
  | built {c slot g} (h : c.guide? slot = some g) : Step key c (.reading slot) c (.ticking slot g)
  | tick {c slot g} : Step key c (.ticking slot g) c.tick (.stamping slot c.clock g)
  | stamp {c slot time g} :
    Step key c (.stamping slot time g) (c.stamp slot time) (.done (some g))

/-- A call for a guide that is not built if there is none. -/
structure Lookup where
  key : Key
  phase : Lookup.Phase

/-! ### Any number of calls -/

/-- A cache with all calls that were ever made, those that are done included. -/
structure System where
  cache : SharedCache
  requests : List Request
  lookups : List Lookup

/-- What is noted of a run. -/
inductive Event
  /-- The guide of a key is built, or its build fails. -/
  | build (key : Key)
  | clear
deriving DecidableEq

/-- What is noted of the next step of a call. -/
def Request.events (r : Request) : List Event :=
  match r.phase with
  | .building _ => [.build r.key]
  | _ => []

namespace System

def initial (capacity : Option Nat) : System :=
  { cache := .empty capacity, requests := [], lookups := [] }

/-- Some call takes a step. -/
inductive Advance (s : System) : List Event → System → Prop
  | request {i r c phase} (hr : s.requests[i]? = some r)
    (hstep : r.phase.Step r.key (build r.settings r.key) s.cache c phase) :
    Advance s r.events { s with cache := c, requests := s.requests.set i { r with phase } }
  | lookup {i l c phase} (hl : s.lookups[i]? = some l)
    (hstep : l.phase.Step l.key s.cache c phase) :
    Advance s [] { s with cache := c, lookups := s.lookups.set i { l with phase } }

/-- What may happen next. -/
inductive Step (s : System) : List Event → System → Prop
  | advance {es s'} (h : s.Advance es s') : Step s es s'
  | request (settings : Settings) (key : Key) :
    Step s [] { s with requests := s.requests ++ [{ settings, key, phase := .entering }] }
  | lookup (key : Key) : Step s [] { s with lookups := s.lookups ++ [{ key, phase := .looking }] }
  | clear : Step s [.clear] { s with cache := s.cache.clear }
  /-- The table may list its slots in another order at any time. -/
  | arrange {order} (h : order.Perm s.cache.table) :
    Step s [] { s with cache := { s.cache with table := order } }

/-- Any number of steps, with what is noted of them. -/
inductive Run (s : System) : List Event → System → Prop
  | nil : Run s [] s
  | step {es es' s' s''} (h : Run s es s') (hstep : s'.Step es' s'') : Run s (es ++ es') s''

end System

end SharedCache

end ConstrainedDecoding
