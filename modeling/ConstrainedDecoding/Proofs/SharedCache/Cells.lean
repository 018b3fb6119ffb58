import ConstrainedDecoding.Guide.SharedCache
import ConstrainedDecoding.Proofs.Guide.Recency

/-! What the steps of calls do to the slots of a cache and to its table. -/
namespace ConstrainedDecoding.SharedCache

open GuideCache (Key Slot oldest? oldest?_spec)

variable {c c' : SharedCache} {key k : Key} {slot id : SlotId} {g : BuiltGuide} {time : ℕ}

theorem getElem?_update (change : Cell → Cell) :
    (c.update slot change).cells[id]? =
      c.cells[id]?.map fun cell => if slot = id then change cell else cell := by
  rw [update, List.getElem?_modify]
  rfl

theorem key?_update {change : Cell → Cell} (h : ∀ cell, (change cell).key = cell.key) :
    (c.update slot change).key? id = c.key? id := by
  rw [key?, getElem?_update, Option.map_map]
  refine congrArg (Option.map · _) (funext fun cell => ?_)
  by_cases hid : slot = id <;> simp [hid, h]

theorem guide?_update {change : Cell → Cell} (h : ∀ cell, (change cell).guide? = cell.guide?) :
    (c.update slot change).guide? id = c.guide? id := by
  rw [guide?, getElem?_update, Option.bind_map]
  refine congrArg (Option.bind _ ·) (funext fun cell => ?_)
  by_cases hid : slot = id <;> simp [hid, h]

theorem isLocked_update {change : Cell → Cell} (h : ∀ cell, (change cell).locked = cell.locked) :
    (c.update slot change).isLocked id = c.isLocked id := by
  rw [isLocked, getElem?_update, Option.any_map]
  refine congrArg (Option.any · _) (funext fun cell => ?_)
  by_cases hid : slot = id <;> simp [hid, h]

@[simp] theorem key?_stamp : (c.stamp slot time).key? id = c.key? id := key?_update fun _ => rfl

@[simp] theorem key?_lock : (c.lock slot).key? id = c.key? id := key?_update fun _ => rfl

@[simp] theorem key?_unlock : (c.unlock slot).key? id = c.key? id := key?_update fun _ => rfl

@[simp] theorem key?_fill : (c.fill slot g).key? id = c.key? id := key?_update fun _ => rfl

@[simp] theorem guide?_stamp : (c.stamp slot time).guide? id = c.guide? id := guide?_update fun _ => rfl

@[simp] theorem guide?_lock : (c.lock slot).guide? id = c.guide? id := guide?_update fun _ => rfl

@[simp] theorem guide?_unlock : (c.unlock slot).guide? id = c.guide? id := guide?_update fun _ => rfl

@[simp] theorem isLocked_stamp : (c.stamp slot time).isLocked id = c.isLocked id :=
  isLocked_update fun _ => rfl

theorem isLocked_lock (h : c.key? slot = some k) :
    (c.lock slot).isLocked id = (slot = id || c.isLocked id) := by
  rw [lock, isLocked, getElem?_update, Option.any_map]
  by_cases hid : slot = id
  · subst hid
    obtain ⟨cell, hcell, -⟩ := Option.map_eq_some_iff.mp h
    simp [hcell]
  · simp [hid, isLocked]

theorem isLocked_unlock : (c.unlock slot).isLocked id = (slot ≠ id && c.isLocked id) := by
  rw [unlock, isLocked, getElem?_update, Option.any_map]
  by_cases hid : slot = id
  · subst hid
    cases hcell : c.cells[slot]? <;> simp
  · simp [hid, isLocked]

theorem guide?_fill_self (h : c.key? slot = some k) :
    (c.fill slot g).guide? slot = some ((c.guide? slot).getD g) := by
  obtain ⟨cell, hcell, -⟩ := Option.map_eq_some_iff.mp h
  rw [fill, guide?, getElem?_update, hcell, guide?, hcell]
  simp

theorem guide?_fill_of_ne (h : slot ≠ id) : (c.fill slot g).guide? id = c.guide? id := by
  rw [fill, guide?, getElem?_update, guide?]
  simp [h]

theorem lt_of_key? (h : c.key? slot = some k) : slot < c.cells.length := by
  obtain ⟨cell, hcell, -⟩ := Option.map_eq_some_iff.mp h
  exact (List.getElem?_eq_some_iff.mp hcell).1

/-! ### Looking slots up -/

theorem slot?_eq_some (h : c.slot? key = some slot) : slot ∈ c.table ∧ c.key? slot = some key :=
  ⟨List.mem_of_find?_eq_some h, by simpa using List.find?_some h⟩

theorem key?_ne_of_slot?_eq_none (h : c.slot? key = none) (hid : id ∈ c.table) :
    c.key? id ≠ some key := by
  simpa using List.find?_eq_none.mp h id hid

/-- Every slot in the table has a key, which no other slot in the table has. -/
structure Valid (c : SharedCache) : Prop where
  keyed : ∀ id ∈ c.table, ∃ k, c.key? id = some k
  unique : ∀ i ∈ c.table, ∀ j ∈ c.table, c.key? i = c.key? j → i = j

theorem Valid.slot?_eq (h : c.Valid) (hid : id ∈ c.table) (hkey : c.key? id = some key) :
    c.slot? key = some id := by
  cases hslot : c.slot? key with
  | none => exact absurd hkey (key?_ne_of_slot?_eq_none hslot hid)
  | some slot =>
    obtain ⟨hmem, hslot⟩ := slot?_eq_some hslot
    rw [h.unique slot hmem id hid (hslot.trans hkey.symm)]

theorem enter_of_some (h : c.slot? key = some slot) : c.enter key = c ∧ c.slotFor key = slot := by
  simp [enter, slotFor, h]

theorem enter_of_none (h : c.slot? key = none) :
    c.enter key = { c with
      cells := c.cells ++ [{ key, guide? := none, lastAccess := 0, locked := false }]
      table := c.cells.length :: c.table } ∧ c.slotFor key = c.cells.length := by
  simp [enter, slotFor, h]

theorem getElem?_enter (c : SharedCache) (key : Key) (id : SlotId) :
    (c.enter key).cells[id]? = c.cells[id]? ∨ c.cells[id]? = none ∧ id = c.slotFor key ∧
      (c.enter key).cells[id]? = some { key, guide? := none, lastAccess := 0, locked := false } := by
  cases hslot : c.slot? key with
  | some slot =>
    rw [(enter_of_some hslot).1]
    exact Or.inl rfl
  | none =>
    obtain ⟨hc, hslotFor⟩ := enter_of_none hslot
    rw [hc, hslotFor, List.getElem?_append]
    by_cases hlt : id < c.cells.length
    · exact Or.inl (if_pos hlt)
    · have hid : c.cells[id]? = none := List.getElem?_eq_none (not_lt.mp hlt)
      rw [if_neg hlt, hid]
      by_cases heq : id = c.cells.length
      · exact Or.inr ⟨rfl, heq, by simp [heq]⟩
      · have hlt : c.cells.length < id := lt_of_le_of_ne (not_lt.mp hlt) (Ne.symm heq)
        exact Or.inl (List.getElem?_eq_none (Nat.sub_pos_of_lt hlt))

theorem guide?_enter : (c.enter key).guide? id = c.guide? id := by
  unfold guide?
  obtain h | ⟨hnone, -, hsome⟩ := getElem?_enter c key id
  · rw [h]
  · rw [hnone, hsome]
    rfl

theorem isLocked_enter : (c.enter key).isLocked id = c.isLocked id := by
  unfold isLocked
  obtain h | ⟨hnone, -, hsome⟩ := getElem?_enter c key id
  · rw [h]
  · rw [hnone, hsome]
    rfl

theorem key?_enter (h : c.key? id = some k) : (c.enter key).key? id = some k := by
  unfold key? at *
  obtain heq | ⟨hnone, -⟩ := getElem?_enter c key id
  · rwa [heq]
  · rw [hnone] at h
    cases h

/-- A slot with a key that was not there before is the one that was made. -/
theorem key?_of_key?_enter (h : (c.enter key).key? id = some k) :
    c.key? id = some k ∨ id = c.slotFor key := by
  unfold key? at *
  obtain heq | ⟨-, hid, -⟩ := getElem?_enter c key id
  · left
    rwa [← heq]
  · exact Or.inr hid

theorem key?_slotFor : (c.enter key).key? (c.slotFor key) = some key := by
  cases hslot : c.slot? key with
  | some slot =>
    obtain ⟨hc, hslotFor⟩ := enter_of_some hslot
    rw [hc, hslotFor]
    exact (slot?_eq_some hslot).2
  | none =>
    obtain ⟨hc, hslotFor⟩ := enter_of_none hslot
    rw [hc, hslotFor]
    simp [key?]

theorem mem_table_enter :
    id ∈ (c.enter key).table ↔ id = c.slotFor key ∨ id ∈ c.table := by
  cases hslot : c.slot? key with
  | some slot =>
    obtain ⟨hc, hslotFor⟩ := enter_of_some hslot
    rw [hc, hslotFor]
    have hmem := (slot?_eq_some hslot).1
    exact ⟨Or.inr, fun h => h.elim (fun heq => heq ▸ hmem) fun hid => hid⟩
  | none =>
    obtain ⟨hc, hslotFor⟩ := enter_of_none hslot
    rw [hc, hslotFor]
    exact List.mem_cons

/-! ### Taking slots out of the table -/

theorem mem_table_discard (hc : c.Valid) (hslot : c.key? slot = some key) :
    id ∈ (c.discard key slot).table ↔ id ∈ c.table ∧ ¬ (id = slot ∧ c.guide? slot = none) := by
  unfold discard
  split
  · rename_i h
    obtain ⟨hmem, -⟩ := slot?_eq_some h.1
    have hguide : c.guide? slot = none := by simpa using h.2
    have hkey (hid : id ∈ c.table) : c.key? id = some key ↔ id = slot := by
      rw [← hslot]
      exact ⟨hc.unique id hid slot hmem, fun heq => heq ▸ rfl⟩
    simp only [remove, List.mem_filter, hguide, and_true]
    constructor
    · intro h
      exact ⟨h.1, fun heq => by simp [(hkey h.1).mpr heq] at h⟩
    · intro h
      exact ⟨h.1, by simpa using fun heq => h.2 ((hkey h.1).mp heq)⟩
  · rename_i h
    constructor
    · intro hid
      refine ⟨hid, fun heq => h ⟨hc.slot?_eq (heq.1 ▸ hid) hslot, by simp [heq.2]⟩⟩
    · exact And.left

theorem discard_sublist : (c.discard key slot).table.Sublist c.table := by
  unfold discard
  split
  · exact List.filter_sublist
  · exact .refl _

theorem discard_eq : c.discard key slot = { c with table := (c.discard key slot).table } := by
  unfold discard
  split <;> rfl

theorem slots_remove : (c.remove key).slots = c.slots.filter (·.key ≠ key) := by
  unfold remove slots
  rw [List.filterMap_filter, List.filter_filterMap]
  refine List.filterMap_congr fun slot _ => ?_
  cases hcell : c.cells[slot]? with
  | none => simp
  | some cell => by_cases hkey : cell.key = key <;> simp [key?, hcell, hkey, Option.filter]

theorem builtSlots_remove :
    (c.remove key).builtSlots = c.builtSlots.filter (·.key ≠ key) := by
  rw [builtSlots, slots_remove, builtSlots, List.filter_filter, List.filter_filter]
  simp only [Bool.and_comm]

theorem evictMany_spec (count : ℕ) (c : SharedCache) :
    evictMany count c = { c with table := (evictMany count c).table } ∧
      (evictMany count c).table ⊆ c.table ∧ (evictMany count c).size ≤ c.size - count := by
  induction count generalizing c with
  | zero => exact ⟨rfl, List.Subset.refl _, le_rfl⟩
  | succ count ih =>
    unfold evictMany
    have hspec := oldest?_spec c.builtSlots
    cases hold : oldest? c.builtSlots with
    | none =>
      rw [hold] at hspec
      exact ⟨rfl, List.Subset.refl _, by simp [size, show c.builtSlots = [] from hspec]⟩
    | some s =>
      rw [hold] at hspec
      obtain ⟨heq, hsub, hsize⟩ := ih (c.remove s.key)
      have hless : (c.remove s.key).size < c.size := by
        unfold size
        rw [builtSlots_remove]
        exact List.length_filter_lt_length_iff_exists.mpr ⟨s, hspec.1, by simp⟩
      refine ⟨heq, fun id hid => (List.mem_filter.mp (hsub hid)).1, ?_⟩
      show (evictMany count (c.remove s.key)).size ≤ c.size - (count + 1)
      omega

theorem evict_eq : c.evict = { c with table := c.evict.table } := by
  unfold evict
  split
  · rfl
  · exact (evictMany_spec _ c).1

theorem evict_subset : c.evict.table ⊆ c.table := by
  unfold evict
  split
  · exact List.Subset.refl _
  · exact (evictMany_spec _ c).2.1

theorem size_evict_le {n : ℕ} (h : c.capacity = some n) : c.evict.size ≤ n := by
  unfold evict
  rw [h]
  have hsize := (evictMany_spec (c.size - n) c).2.2
  show (evictMany (c.size - n) c).size ≤ n
  omega

theorem evict_of_capacity (h : c.capacity = none) : c.evict = c := by
  unfold evict
  rw [h]

/-! ### What stays -/

structure Extends (c c' : SharedCache) : Prop where
  capacity : c'.capacity = c.capacity
  key : ∀ {id k}, c.key? id = some k → c'.key? id = some k
  guide : ∀ {id g}, c.guide? id = some g → c'.guide? id = some g

namespace Extends

theorem of_cells (hcapacity : c'.capacity = c.capacity) (h : c'.cells = c.cells) : c.Extends c' where
  capacity := hcapacity
  key {id k} hk := by rwa [key?, h]
  guide {id g} hg := by rwa [guide?, h]

theorem update {change : Cell → Cell} (hkey : ∀ cell, (change cell).key = cell.key)
    (hguide : ∀ cell, (change cell).guide? = cell.guide?) : c.Extends (c.update slot change) where
  capacity := rfl
  key hk := (key?_update hkey).trans hk
  guide hg := (guide?_update hguide).trans hg

theorem enter : c.Extends (c.enter key) where
  capacity := by
    unfold SharedCache.enter
    split <;> rfl
  key := key?_enter
  guide hg := guide?_enter.trans hg

theorem fill : c.Extends (c.fill slot g) where
  capacity := rfl
  key hk := key?_fill.trans hk
  guide {id g'} hg := by
    by_cases hid : slot = id
    · subst hid
      obtain ⟨cell, hcell, -⟩ := Option.bind_eq_some_iff.mp hg
      have hkey : c.key? slot = some cell.key := by simp [key?, hcell]
      rw [guide?_fill_self hkey, hg]
      rfl
    · rwa [guide?_fill_of_ne hid]

end Extends

theorem Phase.Step.extends {build : Except Error Guide} {p p' : Phase}
    (h : p.Step key build c c' p') : c.Extends c' := by
  cases h with
  | enter => exact .enter
  | fill => exact .fill
  | stampWanted | stampBuilt | acquire | releaseFound | releaseBuilt | releaseFailed =>
    exact .update (fun _ => rfl) fun _ => rfl
  | discard =>
    rw [discard_eq]
    exact .of_cells rfl rfl
  | evict =>
    rw [evict_eq]
    exact .of_cells rfl rfl
  | _ => exact .of_cells rfl rfl

end ConstrainedDecoding.SharedCache
