import ConstrainedDecoding.Guide.Cache
import ConstrainedDecoding.Proofs.Guide.Language
import Mathlib.Data.List.Basic

/-! A cache is a list of guides in which the one that was used last comes first. Neither the times of use
nor the order of the table nor the hashes show. -/
namespace ConstrainedDecoding.GuideCache

/-- The guides that are kept, the one that was used last first. -/
structure Recency where
  capacity : Option ℕ
  entries : List (Key × BuiltGuide)
  /-- All guides that have been built, also those that are no longer kept. -/
  built : List Guide

namespace Recency

def empty (options : CacheOptions) : Recency :=
  { capacity := options.capacity, entries := [], built := [] }

def find? (r : Recency) (key : Key) : Option BuiltGuide := (r.entries.find? (·.1 = key)).map (·.2)

def use (r : Recency) (key : Key) (g : BuiltGuide) : Recency :=
  { r with entries := (key, g) :: r.entries.filter (·.1 ≠ key) }

def cut (r : Recency) : Recency :=
  match r.capacity with
  | none => r
  | some n => { r with entries := r.entries.take n }

/-- The guide of a key that has one is used; otherwise it is built, and the list changes only if that
succeeds. -/
def getOrElse (r : Recency) (key : Key) (build : Unit → Except Error Guide) :
    Except Error BuiltGuide × Recency :=
  match r.find? key with
  | some g => (.ok g, r.use key g)
  | none =>
    match build () with
    | .error e => (.error e, r)
    | .ok guide =>
      let g : BuiltGuide := { serial := r.built.length, guide }
      (.ok g, (Recency.use { r with built := r.built ++ [guide] } key g).cut)

def get (r : Recency) (key : Key) : Option BuiltGuide × Recency :=
  match r.find? key with
  | some g => (some g, r.use key g)
  | none => (none, r)

def clear (r : Recency) : Recency := { r with entries := [] }

end Recency

inductive Call
  | getOrBuild (settings : Settings) (pattern : String) (v : VocabularyIndex)
  | get (pattern : String) (v : VocabularyIndex)
  | clear

def Call.Indexed : Call → Prop
  | .getOrBuild _ _ v | .get _ v => v = .ofVocabulary v.vocabulary
  | .clear => True

inductive Answer
  | built (result : Except Error BuiltGuide)
  | found (guide? : Option BuiltGuide)
  | cleared

def perform (c : GuideCache) : Call → Answer × GuideCache
  | .getOrBuild settings pattern v => (c.getOrBuild settings pattern v).map .built id
  | .get pattern v => (c.get pattern v).map .found id
  | .clear => (.cleared, c.clear)

def Recency.perform (r : Recency) : Call → Answer × Recency
  | .getOrBuild settings pattern v =>
    (r.getOrElse (keyOf pattern v) fun _ => Guide.ofPattern settings pattern v).map .built id
  | .get pattern v => (r.get (keyOf pattern v)).map .found id
  | .clear => (.cleared, r.clear)

def run {σ : Type} (perform : σ → Call → Answer × σ) (state : σ) : List Call → List Answer × σ
  | [] => ([], state)
  | call :: calls =>
    let (answer, next) := perform state call
    (run perform next calls).map (answer :: ·) id

variable {c : GuideCache} {r : Recency} {key : Key} {s : Slot} {l : List Slot} {time : ℕ} {g : BuiltGuide}

/-- Hashes do not matter to what is found. -/
@[simp] theorem Layout.finds_eq (layout : Layout) (key : Key) (s : Slot) :
    layout.finds key s = decide (s.key = key) := by
  by_cases h : s.key = key <;> simp [finds, h]

/-- The slots of a cache are one slot and some with other keys. -/
structure Splits (c : GuideCache) (s : Slot) (l : List Slot) : Prop where
  perm : (s :: l).Perm c.slots
  others : ∀ t ∈ l, t.key ≠ s.key

namespace Splits

theorem slot? (h : c.Splits s l) : c.slot? s.key = some s := by
  have hs : s ∈ c.slots := h.perm.mem_iff.mp (List.mem_cons_self ..)
  rw [GuideCache.slot?]
  cases hfind : c.slots.find? (c.layout.finds s.key) with
  | none => simpa using List.find?_eq_none.mp hfind s hs
  | some t =>
    have hkey : t.key = s.key := by simpa using List.find?_some hfind
    rcases List.mem_cons.mp (h.perm.mem_iff.mpr (List.mem_of_find?_eq_some hfind)) with rfl | ht
    · rfl
    · exact absurd hkey (h.others t ht)

theorem built? (h : c.Splits s l) : c.built? s.key = s.guide? := by
  rw [GuideCache.built?, h.slot?, Option.bind_some]

theorem map_update (h : c.Splits s l) (f : Slot → Slot) :
    (f s :: l).Perm (c.slots.map fun t => if t.key = s.key then f t else t) := by
  have hl : l.map (fun t => if t.key = s.key then f t else t) = l :=
    (List.map_congr_left fun t ht => if_neg (h.others t ht)).trans (List.map_id' l)
  have hperm := h.perm.map fun t => if t.key = s.key then f t else t
  rwa [List.map_cons, if_pos rfl, hl] at hperm

theorem touch (h : c.Splits s l) : (c.touch s.key).Splits { s with lastAccess := c.clock } l :=
  ⟨h.map_update fun t => { t with lastAccess := c.clock }, h.others⟩

theorem fill (h : c.Splits s l) : (c.fill s.key g).Splits { s with guide? := some g } l :=
  ⟨h.map_update fun t => { t with guide? := some g }, h.others⟩

theorem remove (h : c.Splits s l) : l.Perm (c.remove s.key).slots := by
  have hl : (s :: l).filter (!c.layout.finds s.key ·) = l := by
    rw [List.filter_cons_of_neg (by simp), List.filter_eq_self]
    intro t ht
    simp [h.others t ht]
  exact (hl ▸ h.perm.filter _).trans (c.layout.arrange_perm _ _).symm

end Splits

theorem slot?_eq_none (hperm : l.Perm c.slots) (hl : ∀ t ∈ l, t.key ≠ key) : c.slot? key = none := by
  rw [slot?, List.find?_eq_none]
  intro s hs
  simpa using hl s (hperm.mem_iff.mpr hs)

theorem reserve_splits (hperm : l.Perm c.slots) (hl : ∀ t ∈ l, t.key ≠ key) :
    (c.reserve key).Splits { key, guide? := none, lastAccess := 0 } l := by
  rw [reserve, slot?_eq_none hperm hl]
  exact ⟨(hperm.cons _).trans (c.layout.arrange_perm _ _).symm, hl⟩

theorem reserve_eq : c.reserve key = { c with slots := (c.reserve key).slots } := by
  rw [reserve]
  split <;> rfl

/-- Slots with keys of their own that were all used before a time, the later the further in front. -/
structure Recent (time : ℕ) (l : List Slot) : Prop where
  keys : l.Pairwise (·.key ≠ ·.key)
  times : l.Pairwise (·.lastAccess > ·.lastAccess)
  before : ∀ s ∈ l, s.lastAccess < time

namespace Recent

theorem sublist {l' : List Slot} (h : Recent time l) (hl : l'.Sublist l) : Recent time l' :=
  ⟨h.keys.sublist hl, h.times.sublist hl, fun s hs => h.before s (hl.mem hs)⟩

theorem succ (h : Recent time l) : Recent (time + 1) l :=
  ⟨h.keys, h.times, fun s hs => (h.before s hs).trans (Nat.lt_succ_self time)⟩

/-- A slot that is used comes to the front. -/
theorem cons (h : Recent time l) (hl : ∀ t ∈ l, t.key ≠ s.key) :
    Recent (time + 1) ({ s with lastAccess := time } :: l) where
  keys := List.pairwise_cons.mpr ⟨fun t ht => (hl t ht).symm, h.keys⟩
  times := List.pairwise_cons.mpr ⟨h.before, h.times⟩
  before := List.forall_mem_cons.mpr ⟨Nat.lt_succ_self time, h.succ.before⟩

/-- The last slot has a key of its own, and it was used before the others. -/
theorem concat (h : Recent time (l ++ [s])) : ∀ t ∈ l, t.key ≠ s.key ∧ s.lastAccess < t.lastAccess :=
  fun t ht => ⟨(List.pairwise_append.mp h.keys).2.2 t ht s (List.mem_singleton_self s),
    (List.pairwise_append.mp h.times).2.2 t ht s (List.mem_singleton_self s)⟩

/-- A slot can be taken out of the list. -/
theorem perm_cons_filter (h : Recent time l) (hs : s ∈ l) :
    (s :: l.filter (·.key ≠ s.key)).Perm l ∧ ∀ t ∈ l.filter (·.key ≠ s.key), t.key ≠ s.key := by
  refine ⟨?_, fun t ht => by simpa using (List.mem_filter.mp ht).2⟩
  obtain ⟨front, back, rfl⟩ := List.append_of_mem hs
  have hkeys := (List.perm_middle.pairwise_iff Ne.symm).mp h.keys
  have hothers : (front ++ back).filter (·.key ≠ s.key) = front ++ back := by
    rw [List.filter_eq_self]
    intro t ht
    simpa using ((List.pairwise_cons.mp hkeys).1 t ht).symm
  rw [List.filter_append, List.filter_cons_of_neg (by simp), ← List.filter_append, hothers]
  exact List.perm_middle.symm

end Recent

theorem oldest?_spec (slots : List Slot) :
    match oldest? slots with
    | none => slots = []
    | some s => s ∈ slots ∧ ∀ t ∈ slots, s.lastAccess ≤ t.lastAccess := by
  induction slots with
  | nil => rfl
  | cons s slots ih =>
    rw [oldest?]
    cases hrest : oldest? slots with
    | none =>
      rw [hrest] at ih
      subst ih
      simp
    | some t =>
      rw [hrest] at ih
      obtain ⟨hmem, hle⟩ := ih
      by_cases hlt : t.lastAccess < s.lastAccess
      · simp only [hlt, if_true]
        exact ⟨List.mem_cons_of_mem s hmem, List.forall_mem_cons.mpr ⟨hlt.le, hle⟩⟩
      · simp only [hlt, if_false]
        have hs : s.lastAccess ≤ t.lastAccess := Nat.not_lt.mp hlt
        exact ⟨List.mem_cons_self .., List.forall_mem_cons.mpr ⟨le_rfl, fun u hu => hs.trans (hle u hu)⟩⟩

/-- The slot that was used least recently is the last one. -/
theorem oldest?_eq {slots : List Slot} (h : Recent time (l ++ [s])) (hperm : (l ++ [s]).Perm slots) :
    oldest? slots = some s := by
  have hs : s ∈ slots := hperm.mem_iff.mp (by simp)
  have hspec := oldest?_spec slots
  cases hold : oldest? slots with
  | none =>
    rw [hold] at hspec
    exact absurd hs (hspec ▸ List.not_mem_nil)
  | some t =>
    rw [hold] at hspec
    rcases List.mem_append.mp (hperm.mem_iff.mpr hspec.1) with ht | ht
    · exact absurd (hspec.2 s hs) (Nat.not_le.mpr (h.concat t ht).2)
    · rw [List.mem_singleton.mp ht]

theorem builtSlots_perm (hperm : l.Perm c.slots) (hbuilt : ∀ s ∈ l, s.guide?.isSome) :
    l.Perm c.builtSlots := by
  have hl : l.filter (·.guide?.isSome) = l := List.filter_eq_self.mpr hbuilt
  exact hl ▸ hperm.filter _

/-- Guides are removed from the end of the list. -/
theorem evictMany_perm (h : Recent time l) (hperm : l.Perm c.slots)
    (hbuilt : ∀ s ∈ l, s.guide?.isSome) (count : ℕ) :
    (l.take (l.length - count)).Perm (evictMany count c).slots := by
  -- every round removes the last slot of the list
  induction count generalizing c l with
  | zero => rwa [Nat.sub_zero, List.take_length]
  | succ count ih =>
    have hslots := builtSlots_perm hperm hbuilt
    rcases l.eq_nil_or_concat' with rfl | ⟨front, s, rfl⟩
    · have hnone : oldest? c.builtSlots = none := by rw [← hslots.nil_eq]; rfl
      rw [evictMany, hnone, List.take_nil]
      exact hperm
    · have hsplits : c.Splits s front :=
        ⟨(List.perm_append_singleton s front).symm.trans hperm, fun t ht => (h.concat t ht).1⟩
      rw [evictMany, oldest?_eq h hslots]
      have hih := ih (h.sublist (List.sublist_append_left ..)) hsplits.remove
        fun t ht => hbuilt t (List.mem_append_left _ ht)
      have htake : (front ++ [s]).take ((front ++ [s]).length - (count + 1)) =
          front.take (front.length - count) := by
        rw [List.length_append, List.length_singleton, Nat.add_sub_add_right,
          List.take_append_of_le_length (Nat.sub_le ..)]
      rwa [htake]

theorem evictMany_eq (count : ℕ) (c : GuideCache) :
    evictMany count c = { c with slots := (evictMany count c).slots } := by
  induction count generalizing c with
  | zero => rfl
  | succ count ih =>
    rw [evictMany]
    split
    · rfl
    · rw [ih]
      rfl

theorem evict_eq : c.evict = { c with slots := c.evict.slots } := by
  rw [evict]
  split
  · rfl
  · exact evictMany_eq ..

def Stores (l : List Slot) (entries : List (Key × BuiltGuide)) : Prop :=
  l.map (fun s => (s.key, s.guide?)) = entries.map (Prod.map id some)

namespace Stores

variable {entries : List (Key × BuiltGuide)}

theorem length_eq (h : Stores l entries) : l.length = entries.length := by
  simpa using congrArg List.length h

theorem exists_slot (h : Stores l entries) (hmem : (key, g) ∈ entries) :
    ∃ s ∈ l, s.key = key ∧ s.guide? = some g := by
  have hg : (key, some g) ∈ l.map fun s => (s.key, s.guide?) := h ▸ List.mem_map_of_mem hmem
  simpa using hg

theorem exists_entry (h : Stores l entries) (hs : s ∈ l) :
    ∃ g, (s.key, g) ∈ entries ∧ s.guide? = some g := by
  have hg : (s.key, s.guide?) ∈ entries.map (Prod.map id some) :=
    h ▸ List.mem_map_of_mem (f := fun s : Slot => (s.key, s.guide?)) hs
  obtain ⟨e, he, heq⟩ := List.mem_map.mp hg
  obtain ⟨hkey, hguide⟩ := Prod.ext_iff.mp heq
  exact ⟨e.2, (show e.1 = s.key from hkey) ▸ he, hguide.symm⟩

theorem built (h : Stores l entries) : ∀ s ∈ l, s.guide?.isSome := by
  intro s hs
  obtain ⟨g, -, hg⟩ := h.exists_entry hs
  rw [hg, Option.isSome_some]

theorem cons (h : Stores l entries) (hguide : s.guide? = some g) :
    Stores (s :: l) ((s.key, g) :: entries) := by
  rw [Stores, List.map_cons, h, hguide]
  rfl

theorem take (h : Stores l entries) (n : ℕ) : Stores (l.take n) (entries.take n) := by
  rw [Stores, List.map_take, h, List.map_take]

theorem filter (h : Stores l entries) (key : Key) :
    Stores (l.filter (·.key ≠ key)) (entries.filter (·.1 ≠ key)) := by
  have hfilter := congrArg (List.filter (·.1 ≠ key)) h
  rwa [List.filter_map, List.filter_map] at hfilter

end Stores

/-- A cache stands for a list of guides if its slots hold these guides, the later one was used the
further in front. -/
structure Represents (c : GuideCache) (r : Recency) : Prop where
  capacity : c.capacity = r.capacity
  builds : c.builds = r.built.length
  slots : ∃ l, Recent c.clock l ∧ l.Perm c.slots ∧ Stores l r.entries

/-- A cache stands for a list of guides, and beside them it has a slot for one that is not built. -/
structure Awaits (c : GuideCache) (r : Recency) (key : Key) : Prop where
  capacity : c.capacity = r.capacity
  builds : c.builds = r.built.length
  slots : ∃ s l, s.key = key ∧ s.guide? = none ∧ Recent c.clock l ∧ c.Splits s l ∧ Stores l r.entries

namespace Awaits

theorem built? (h : c.Awaits r key) : c.built? key = none := by
  obtain ⟨s, l, rfl, hguide, -, hsplits, -⟩ := h.slots
  rw [hsplits.built?, hguide]

theorem touch (h : c.Awaits r key) : (c.touch key).Awaits r key := by
  obtain ⟨s, l, rfl, hguide, hrecent, hsplits, hstores⟩ := h.slots
  exact ⟨h.capacity, h.builds, { s with lastAccess := c.clock }, l, rfl, hguide, hrecent.succ,
    hsplits.touch, hstores⟩

/-- A slot that stays empty is removed without a trace. -/
theorem remove (h : c.Awaits r key) : (c.remove key).Represents r := by
  obtain ⟨s, l, rfl, -, hrecent, hsplits, hstores⟩ := h.slots
  exact ⟨h.capacity, h.builds, l, hrecent, hsplits.remove, hstores⟩

/-- A new guide comes to the front. -/
theorem fill (h : c.Awaits r key) (g : BuiltGuide) :
    ((c.fill key g).touch key).Represents
      (Recency.use { r with built := r.built ++ [g.guide] } key g) := by
  obtain ⟨s, l, rfl, -, hrecent, hsplits, hstores⟩ := h.slots
  have hfront := hrecent.cons (s := { s with guide? := some g }) hsplits.others
  have hrest : Stores l (r.entries.filter (·.1 ≠ s.key)) := by
    have hfilter := hstores.filter s.key
    rwa [List.filter_eq_self.mpr (by simpa using hsplits.others)] at hfilter
  refine ⟨h.capacity, ?_, _, hfront, hsplits.fill.touch.perm,
    hrest.cons (s := { s with guide? := some g, lastAccess := c.clock }) rfl⟩
  rw [Recency.use, List.length_append, ← h.builds]
  rfl

end Awaits

namespace Represents

theorem size_eq (h : c.Represents r) : c.size = r.entries.length := by
  obtain ⟨l, -, hperm, hstores⟩ := h.slots
  rw [size, ← (builtSlots_perm hperm hstores.built).length_eq, hstores.length_eq]

theorem built (h : c.Represents r) (hs : s ∈ c.slots) : s.guide?.isSome := by
  obtain ⟨l, -, hperm, hstores⟩ := h.slots
  exact hstores.built s (hperm.mem_iff.mpr hs)

theorem exists_splits (h : c.Represents r) (hg : r.find? key = some g) :
    ∃ s l, s.key = key ∧ s.guide? = some g ∧ c.Splits s l ∧ Recent c.clock l ∧
      Stores l (r.entries.filter (·.1 ≠ key)) := by
  obtain ⟨l, hrecent, hperm, hstores⟩ := h.slots
  obtain ⟨⟨_, _⟩, hfind, rfl⟩ := Option.map_eq_some_iff.mp hg
  obtain rfl : _ = key := by simpa using List.find?_some hfind
  obtain ⟨s, hs, rfl, hguide⟩ := hstores.exists_slot (List.mem_of_find?_eq_some hfind)
  obtain ⟨hfilter, hothers⟩ := hrecent.perm_cons_filter hs
  exact ⟨s, _, rfl, hguide, ⟨hfilter.trans hperm, hothers⟩, hrecent.sublist List.filter_sublist,
    hstores.filter s.key⟩

/-- A key that is not in the list has no slot. -/
theorem exists_perm (h : c.Represents r) (hnone : r.find? key = none) :
    ∃ l, Recent c.clock l ∧ l.Perm c.slots ∧ Stores l r.entries ∧ ∀ t ∈ l, t.key ≠ key := by
  obtain ⟨l, hrecent, hperm, hstores⟩ := h.slots
  refine ⟨l, hrecent, hperm, hstores, fun t ht hkey => ?_⟩
  obtain ⟨g, hg, -⟩ := hstores.exists_entry ht
  simpa [hkey] using List.find?_eq_none.mp (Option.map_eq_none_iff.mp hnone) _ hg

theorem built? (h : c.Represents r) (key : Key) : c.built? key = r.find? key := by
  cases hfind : r.find? key with
  | none =>
    obtain ⟨l, -, hperm, -, hothers⟩ := h.exists_perm hfind
    rw [GuideCache.built?, slot?_eq_none hperm hothers, Option.bind_none]
  | some g =>
    obtain ⟨s, l, rfl, hguide, hsplits, -⟩ := h.exists_splits hfind
    rw [hsplits.built?, hguide]

theorem use (h : c.Represents r) (hg : r.find? key = some g) :
    (c.touch key).Represents (r.use key g) := by
  obtain ⟨s, l, rfl, hguide, hsplits, hrecent, hstores⟩ := h.exists_splits hg
  exact ⟨h.capacity, h.builds, _, hrecent.cons hsplits.others, hsplits.touch.perm,
    hstores.cons (s := { s with lastAccess := c.clock }) hguide⟩

theorem evict (h : c.Represents r) : c.evict.Represents r.cut := by
  rw [GuideCache.evict, Recency.cut]
  cases hcapacity : c.capacity with
  | none => rwa [← h.capacity, hcapacity]
  | some n =>
    obtain ⟨l, hrecent, hperm, hstores⟩ := h.slots
    have hsize : l.length - (c.size - n) = min n l.length := by
      rw [h.size_eq, ← hstores.length_eq]
      omega
    have hslots := evictMany_perm hrecent hperm hstores.built (c.size - n)
    rw [hsize, ← List.take_eq_take_min] at hslots
    simp only [← h.capacity, hcapacity]
    rw [evictMany_eq]
    exact ⟨hcapacity, h.builds, l.take n, hrecent.sublist (List.take_sublist ..), hslots,
      hstores.take n⟩

theorem clear (h : c.Represents r) : c.clear.Represents r.clear :=
  ⟨h.capacity, h.builds, [], ⟨.nil, .nil, by simp⟩, .nil, rfl⟩

theorem get (h : c.Represents r) (pattern : String) (v : VocabularyIndex) :
    (c.get pattern v).1 = (r.get (keyOf pattern v)).1 ∧
      (c.get pattern v).2.Represents (r.get (keyOf pattern v)).2 := by
  simp only [GuideCache.get, Recency.get, h.built?]
  cases hfind : r.find? (keyOf pattern v) with
  | none => exact ⟨rfl, h⟩
  | some g => exact ⟨rfl, h.use hfind⟩

/-- A guide that is in the list is not built again. -/
theorem getOrElse_of_find?_eq_some (h : c.Represents r) (hg : r.find? key = some g)
    (build : Unit → Except Error Guide) : c.getOrElse key build = (.ok g, c.touch key) := by
  obtain ⟨s, l, rfl, hguide, hsplits, -⟩ := h.exists_splits hg
  have hreserve : c.reserve s.key = c := by rw [reserve, hsplits.slot?]
  have hbuilt : (c.touch s.key).built? s.key = some g := hsplits.touch.built?.trans hguide
  simp only [getOrElse, hreserve, hbuilt]

theorem reserve (h : c.Represents r) (hnone : r.find? key = none) : (c.reserve key).Awaits r key := by
  obtain ⟨l, hrecent, hperm, hstores, hothers⟩ := h.exists_perm hnone
  have hsplits := reserve_splits hperm hothers
  rw [reserve_eq] at hsplits ⊢
  exact ⟨h.capacity, h.builds, _, l, rfl, rfl, hrecent, hsplits, hstores⟩

/-- A guide is taken from the list or built. If its build fails, the list stays as it was. -/
theorem getOrElse (h : c.Represents r) (key : Key) (build : Unit → Except Error Guide) :
    (c.getOrElse key build).1 = (r.getOrElse key build).1 ∧
      (c.getOrElse key build).2.Represents (r.getOrElse key build).2 := by
  cases hfind : r.find? key with
  | some g =>
    rw [h.getOrElse_of_find?_eq_some hfind build, Recency.getOrElse, hfind]
    exact ⟨rfl, h.use hfind⟩
  | none =>
    -- the new slot is marked as used twice, before the build and after it
    have hawaits := (h.reserve hfind).touch
    simp only [GuideCache.getOrElse, Recency.getOrElse, hawaits.built?, hfind]
    cases build () with
    | error e => exact ⟨rfl, hawaits.remove⟩
    | ok guide =>
      rw [hawaits.builds]
      exact ⟨rfl, (hawaits.fill _).evict⟩

end Represents

theorem represents_empty (layout : Layout) (options : CacheOptions) :
    (empty layout options).Represents (.empty options) :=
  ⟨rfl, rfl, [], ⟨.nil, .nil, by simp⟩, .nil, rfl⟩

theorem getOrBuild_empty (layout : Layout) (options : CacheOptions) {settings : Settings}
    {pattern : String} {v : VocabularyIndex} {g : Guide} (h : Guide.ofPattern settings pattern v = .ok g) :
    ((empty layout options).getOrBuild settings pattern v).1 = .ok { serial := 0, guide := g } := by
  rw [getOrBuild, ((represents_empty layout options).getOrElse _ _).1]
  simp [Recency.getOrElse, Recency.find?, Recency.empty, h]

/-- One call: the answers agree, and the cache goes on standing for the list. -/
theorem perform_represents (h : c.Represents r) (call : Call) :
    (c.perform call).1 = (r.perform call).1 ∧ (c.perform call).2.Represents (r.perform call).2 := by
  cases call with
  | getOrBuild settings pattern v =>
    obtain ⟨hresult, hafter⟩ :=
      h.getOrElse (keyOf pattern v) fun _ => Guide.ofPattern settings pattern v
    exact ⟨congrArg Answer.built hresult, hafter⟩
  | get pattern v =>
    obtain ⟨hguide, hafter⟩ := h.get pattern v
    exact ⟨congrArg Answer.found hguide, hafter⟩
  | clear => exact ⟨rfl, h.clear⟩

theorem run_represents (h : c.Represents r) (calls : List Call) :
    (run perform c calls).1 = (run Recency.perform r calls).1 ∧
      (run perform c calls).2.Represents (run Recency.perform r calls).2 := by
  induction calls generalizing c r with
  | nil => exact ⟨rfl, h⟩
  | cons call calls ih =>
    obtain ⟨hanswer, hnext⟩ := perform_represents h call
    obtain ⟨hanswers, hlast⟩ := ih hnext
    exact ⟨congrArg₂ List.cons hanswer hanswers, hlast⟩

/-- A call moves the clock by at most two. -/
theorem clock_perform_le (c : GuideCache) (call : Call) : (c.perform call).2.clock ≤ c.clock + 2 := by
  cases call with
  | getOrBuild settings pattern v =>
    have hreserve : (c.reserve (keyOf pattern v)).clock = c.clock := by rw [reserve_eq]
    have htouch : ((c.reserve (keyOf pattern v)).touch (keyOf pattern v)).clock = c.clock + 1 :=
      congrArg (· + 1) hreserve
    simp only [perform, getOrBuild, getOrElse, Prod.map_snd, id_eq]
    split
    · exact htouch.le.trans (Nat.le_succ _)
    · split
      · exact htouch.le.trans (Nat.le_succ _)
      · rw [evict_eq]
        exact (congrArg (· + 1) htouch).le
  | get pattern v =>
    simp only [perform, get, Prod.map_snd, id_eq]
    split
    · exact Nat.le_succ (c.clock + 1)
    · exact Nat.le_add_right ..
  | clear => exact Nat.le_add_right ..

theorem clock_run_le (c : GuideCache) (calls : List Call) :
    (run perform c calls).2.clock ≤ c.clock + 2 * calls.length := by
  induction calls generalizing c with
  | nil => exact le_rfl
  | cons call calls ih =>
    have hcall := clock_perform_le c call
    have hcalls := ih (c.perform call).2
    simp only [run, Prod.map_snd, id_eq, List.length_cons]
    omega

/-- A cache behaves like the list of its guides in which the one that was used last comes first,
whatever its hashes and the order of its table. They give the same answers, and after any number of calls
the table holds the guides of the list and nothing else. What is in the list is not built again. The clock
may be 64 bits wide, as it moves by at most two with a call. -/
theorem refines_recency (layout : Layout) (options : CacheOptions) (calls : List Call) :
    ∃ answers c r, run perform (empty layout options) calls = (answers, c) ∧
      run Recency.perform (.empty options) calls = (answers, r) ∧ c.Represents r ∧
      c.size = r.entries.length ∧ (∀ s ∈ c.slots, s.guide?.isSome) ∧ c.builds = r.built.length ∧
      (∀ key g, r.find? key = some g → ∀ build, c.getOrElse key build = (.ok g, c.touch key)) ∧
      c.clock ≤ 2 * calls.length := by
  obtain ⟨hanswers, h⟩ := run_represents (represents_empty layout options) calls
  have hclock := clock_run_le (empty layout options) calls
  exact ⟨_, _, _, rfl, Prod.ext hanswers.symm rfl, h, h.size_eq, fun _ => h.built, h.builds,
    fun _ _ => h.getOrElse_of_find?_eq_some, by simpa [empty] using hclock⟩

/-- A guide that was built is found, and a second build is not tried. -/
theorem refines_recency_ab :
    ∃ g c, Guide.ofPattern {} "ab" (.ofVocabulary Guide.abVocabulary) = .ok g ∧
      (run perform (empty .standard {}) [.getOrBuild {} "ab" (.ofVocabulary Guide.abVocabulary)]).2 = c ∧
      (c.getOrElse (keyOf "ab" (.ofVocabulary Guide.abVocabulary)) fun _ => .error .noLogits).1 =
        .ok { serial := 0, guide := g } := by
  obtain ⟨g, hg⟩ := Guide.ofPattern_ab
  obtain ⟨answers, c, r, hc, hr, -, -, -, -, hfound, -⟩ :=
    refines_recency .standard {} [.getOrBuild {} "ab" (.ofVocabulary Guide.abVocabulary)]
  have hlisted : r.find? (keyOf "ab" (.ofVocabulary Guide.abVocabulary)) =
      some { serial := 0, guide := g } := by
    obtain rfl : _ = r := congrArg Prod.snd hr
    simp [run, Recency.perform, Recency.getOrElse, Recency.find?, Recency.empty, Recency.use,
      Recency.cut, hg]
  refine ⟨g, c, hg, congrArg Prod.snd hc, ?_⟩
  rw [hfound _ _ hlisted]

end ConstrainedDecoding.GuideCache
