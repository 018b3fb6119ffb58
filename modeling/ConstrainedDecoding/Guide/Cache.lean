import ConstrainedDecoding.Guide.Basic

/-!
A store of guides that have been built. A slot is looked up by the pattern and the content of the
vocabulary; when there are too many guides, those that were used least recently go.
-/

namespace ConstrainedDecoding

/-- A guide as an object of its own: two builds of one guide have different numbers. -/
structure BuiltGuide where
  serial : Nat
  guide : Guide

namespace GuideCache

structure Key where
  pattern : String
  vocabulary : Vocabulary
deriving DecidableEq

structure Slot where
  key : Key
  /-- Missing until the guide is built. -/
  guide? : Option BuiltGuide
  /-- The time of the last use. -/
  lastAccess : Nat

/-- What a table of slots leaves open: the hashes by which it looks for keys, and the order in which it
lists the slots, which may change whenever a slot comes or goes. -/
structure Layout where
  fingerprint : Vocabulary → UInt64
  /-- The hash of a pattern and a fingerprint. -/
  mix : String → UInt64 → UInt64
  arrange : (time : Nat) → List Slot → List Slot
  arrange_perm : ∀ time slots, (arrange time slots).Perm slots

namespace Layout

/-- The slots stay in the order in which they came. -/
def standard : Layout where
  fingerprint := Vocabulary.fingerprint
  mix := fun pattern fingerprint => mixHash (hash pattern) fingerprint
  arrange := fun _ slots => slots
  arrange_perm := fun _ slots => .refl slots

def hashOf (l : Layout) (key : Key) : UInt64 := l.mix key.pattern (l.fingerprint key.vocabulary)

/-- Whether a slot is found under a key. Keys are compared only if their hashes are equal. -/
def finds (l : Layout) (key : Key) (s : Slot) : Bool :=
  l.hashOf s.key == l.hashOf key && s.key = key

end Layout

end GuideCache

structure GuideCache where
  layout : GuideCache.Layout
  /-- How many guides are kept; all of them if there is no number. -/
  capacity : Option Nat
  /-- At most one slot for a key, in the order of the table. -/
  slots : List GuideCache.Slot
  /-- Moves on with every use of a slot. -/
  clock : Nat
  /-- How many guides have been built. -/
  builds : Nat

namespace GuideCache

def empty (layout : Layout) (options : CacheOptions) : GuideCache :=
  { layout, capacity := options.capacity, slots := [], clock := 0, builds := 0 }

def slot? (c : GuideCache) (key : Key) : Option Slot := c.slots.find? (c.layout.finds key)

/-- The guide of a key, if it is built. -/
def built? (c : GuideCache) (key : Key) : Option BuiltGuide := (c.slot? key).bind (·.guide?)

/-- Add a slot for a key that has none. -/
def reserve (c : GuideCache) (key : Key) : GuideCache :=
  match c.slot? key with
  | some _ => c
  | none =>
    let slot : Slot := { key, guide? := none, lastAccess := 0 }
    { c with slots := c.layout.arrange c.clock (slot :: c.slots) }

/-- Note that the slot of a key is used now. -/
def touch (c : GuideCache) (key : Key) : GuideCache :=
  { c with
    slots := c.slots.map fun s => if s.key = key then { s with lastAccess := c.clock } else s
    clock := c.clock + 1 }

/-- Put a guide into the slot of a key. -/
def fill (c : GuideCache) (key : Key) (g : BuiltGuide) : GuideCache :=
  { c with
    slots := c.slots.map fun s => if s.key = key then { s with guide? := some g } else s
    builds := c.builds + 1 }

/-- Remove the slot of a key. -/
def remove (c : GuideCache) (key : Key) : GuideCache :=
  { c with slots := c.layout.arrange c.clock (c.slots.filter (!c.layout.finds key ·)) }

/-- The slots whose guides are built. -/
def builtSlots (c : GuideCache) : List Slot := c.slots.filter (·.guide?.isSome)

/-- The number of guides that are kept. -/
def size (c : GuideCache) : Nat := c.builtSlots.length

/-- The slot of some that was used least recently. -/
def oldest? : List Slot → Option Slot
  | [] => none
  | s :: rest =>
    match oldest? rest with
    | none => some s
    | some t => if t.lastAccess < s.lastAccess then some t else some s

/-- Remove a number of built guides, those first that were used least recently. -/
def evictMany : (count : Nat) → GuideCache → GuideCache
  | 0, c => c
  | count + 1, c =>
    match oldest? c.builtSlots with
    | none => c
    | some s => evictMany count (c.remove s.key)

/-- Remove guides until their number is within the capacity. -/
def evict (c : GuideCache) : GuideCache :=
  match c.capacity with
  | none => c
  | some capacity => evictMany (c.size - capacity) c

/-- The guide of a key, built unless there is one already. A build that fails leaves nothing behind. -/
def getOrElse (c : GuideCache) (key : Key) (build : Unit → Except Error Guide) :
    Except Error BuiltGuide × GuideCache :=
  let c := (c.reserve key).touch key
  match c.built? key with
  | some g => (.ok g, c)
  | none =>
    match build () with
    | .error e => (.error e, c.remove key)
    | .ok guide =>
      let g : BuiltGuide := { serial := c.builds, guide }
      (.ok g, ((c.fill key g).touch key).evict)

def keyOf (pattern : String) (v : VocabularyIndex) : Key :=
  { pattern, vocabulary := v.vocabulary }

/-- The guide of a pattern and a vocabulary, built with the given settings unless there is one
already. -/
def getOrBuild (c : GuideCache) (settings : Settings) (pattern : String) (v : VocabularyIndex) :
    Except Error BuiltGuide × GuideCache :=
  c.getOrElse (keyOf pattern v) fun _ => Guide.ofPattern settings pattern v

/-- The guide of a pattern and a vocabulary, if there is one. -/
def get (c : GuideCache) (pattern : String) (v : VocabularyIndex) :
    Option BuiltGuide × GuideCache :=
  let key := keyOf pattern v
  match c.built? key with
  | some g => (some g, c.touch key)
  | none => (none, c)

def clear (c : GuideCache) : GuideCache := { c with slots := [] }

end GuideCache

end ConstrainedDecoding
