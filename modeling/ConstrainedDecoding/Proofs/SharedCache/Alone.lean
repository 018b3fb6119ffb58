import ConstrainedDecoding.Proofs.SharedCache.Source

/-! Calls that do not overlap: they do what the store does for calls that come one after another. -/
namespace ConstrainedDecoding.SharedCache

open GuideCache (Key Slot Layout Call Answer perform)

variable {c c' : SharedCache} {key : Key} {slot id : SlotId} {p p' : Phase} {s s' : System} {es : List Event}
  {b : Except Error Guide} {g : BuiltGuide}

/-- The store as it is between calls that do not overlap. -/
def view (c : SharedCache) : GuideCache :=
  { layout := .standard, capacity := c.capacity, slots := c.slots, clock := c.clock, builds := c.builds }

/-! ### Looking slots up and making them -/

theorem view_slot? : c.view.slot? key = (c.slot? key).bind fun slot => c.cells[slot]?.map (·.toSlot) := by
  have hfinds : (fun slot => (c.cells[slot]?.map (·.toSlot)).any (Layout.standard.finds key)) =
      fun slot => decide (c.key? slot = some key) := by
    funext slot
    cases hcell : c.cells[slot]? <;> simp [key?, hcell]
  show c.slots.find? (Layout.standard.finds key) = _
  rw [slots, List.find?_filterMap, hfinds]
  rfl

theorem view_built? : c.view.built? key = (c.slot? key).bind c.guide? := by
  rw [GuideCache.built?, view_slot?, Option.bind_assoc]
  refine congrArg _ (funext fun slot => ?_)
  rw [Option.bind_map]
  rfl

theorem view_enter (hc : c.Valid) : (c.enter key).view = c.view.reserve key := by
  unfold GuideCache.reserve
  rw [view_slot?]
  cases hslot : c.slot? key with
  | some slot =>
    obtain ⟨cell, hcell, -⟩ := Option.map_eq_some_iff.mp (slot?_eq_some hslot).2
    simp [(enter_of_some hslot).1, hcell]
  | none =>
    rw [(enter_of_none hslot).1]
    -- the slots that were there stay where they are
    have hold : ∀ id ∈ c.table, (c.cells ++ [{ key, guide? := none, lastAccess := 0, locked := false }])[id]? =
        c.cells[id]? := by
      intro id hid
      obtain ⟨k, hk⟩ := hc.keyed id hid
      exact List.getElem?_append_left (lt_of_key? hk)
    have hslots := List.filterMap_congr fun id hid => congrArg (Option.map (·.toSlot)) (hold id hid)
    simpa [view, slots, Layout.standard] using hslots

structure Finds (c : SharedCache) (key : Key) (slot : SlotId) : Prop where
  valid : c.Valid
  mem : slot ∈ c.table
  key : c.key? slot = some key

theorem Finds.enter (hc : c.Valid) (key : Key) : (c.enter key).Finds key (c.slotFor key) :=
  ⟨hc.enter, mem_table_enter.mpr (Or.inl rfl), key?_slotFor⟩

namespace Finds

theorem update (h : c.Finds key slot) {change : Cell → Cell} (hkey : ∀ cell, (change cell).key = cell.key) :
    (c.update slot change).Finds key slot where
  valid := h.valid.of_subset (List.Subset.refl _) fun _ => key?_update hkey
  mem := h.mem
  key := (key?_update hkey).trans h.key

theorem of_cells (h : c.Finds key slot) (hcells : c'.cells = c.cells) (htable : c'.table = c.table) :
    c'.Finds key slot where
  valid := h.valid.of_subset (by rw [htable]; exact List.Subset.refl _) fun id => by rw [key?, hcells, key?]
  mem := htable ▸ h.mem
  key := by rw [key?, hcells, ← key?, h.key]

theorem stamp (h : c.Finds key slot) (time : ℕ) : (c.tick.stamp slot time).Finds key slot := by
  have htick : c.tick.Finds key slot := h.of_cells rfl rfl
  exact htick.update fun _ => rfl

theorem slot?_eq (h : c.Finds key slot) : c.slot? key = some slot := h.valid.slot?_eq h.mem h.key

theorem built?_eq (h : c.Finds key slot) : c.view.built? key = c.guide? slot := by
  rw [view_built?, h.slot?_eq, Option.bind_some]

theorem slots_update (h : c.Finds key slot) (change : Cell → Cell) (f : Slot → Slot)
    (hf : ∀ cell, c.cells[slot]? = some cell → (change cell).toSlot = f cell.toSlot) :
    (c.update slot change).slots = c.slots.map fun s => if s.key = key then f s else s := by
  show c.table.filterMap (fun id => (c.update slot change).cells[id]?.map (·.toSlot)) = _
  rw [slots, List.map_filterMap]
  refine List.filterMap_congr fun id hid => ?_
  rw [getElem?_update]
  cases hcell : c.cells[id]? with
  | none => rfl
  | some cell =>
    have hid' : c.key? id = some cell.key := by rw [key?, hcell, Option.map_some]
    by_cases heq : slot = id
    · subst heq
      have hkey : cell.key = key := Option.some.inj (hid'.symm.trans h.key)
      simp [hkey, hf cell hcell]
    · have hkey : cell.key ≠ key := by
        intro hkey
        exact heq (h.valid.unique slot h.mem id hid (h.key.trans (hkey ▸ hid'.symm)))
      simp [hkey, heq]

theorem touch (h : c.Finds key slot) : (c.tick.stamp slot c.clock).view = c.view.touch key := by
  have hslots := h.slots_update ({ · with lastAccess := c.clock }) ({ · with lastAccess := c.clock })
    fun _ _ => rfl
  exact congrArg (fun slots => { c.tick.view with slots }) hslots

theorem fill (h : c.Finds key slot) (hnone : c.guide? slot = none) :
    (c.count.fill slot g).view = c.view.fill key g := by
  have hslots := h.slots_update (fun cell => { cell with guide? := some (cell.guide?.getD g) })
    (fun s => { s with guide? := some g }) fun cell hcell => by
      rw [SharedCache.guide?, hcell] at hnone
      simp [show cell.guide? = none from hnone]
  exact congrArg (fun slots => { c.count.view with slots }) hslots

end Finds

/-! ### Locks do not show -/

theorem view_update {change : Cell → Cell} (h : ∀ cell, (change cell).toSlot = cell.toSlot) :
    (c.update slot change).view = c.view := by
  have hslots : (c.update slot change).slots = c.slots := by
    refine List.filterMap_congr fun id _ => ?_
    rw [getElem?_update, Option.map_map]
    refine congrArg (Option.map · _) (funext fun cell => ?_)
    by_cases hid : slot = id <;> simp [hid, h]
  exact congrArg (fun slots => { c.view with slots }) hslots

@[simp] theorem view_lock : (c.lock slot).view = c.view := view_update fun _ => rfl

@[simp] theorem view_unlock : (c.unlock slot).view = c.view := view_update fun _ => rfl

/-! ### Taking slots out of the table -/

theorem view_remove : (c.remove key).view = c.view.remove key := by
  have hslots : (c.remove key).slots = c.slots.filter (!Layout.standard.finds key ·) := by
    rw [slots_remove]
    simp
  exact congrArg (fun slots => { c.view with slots }) hslots

theorem Finds.discard (h : c.Finds key slot) (hnone : c.guide? slot = none) :
    (c.discard key slot).view = c.view.remove key := by
  rw [SharedCache.discard, if_pos ⟨h.slot?_eq, by simp [hnone]⟩, view_remove]

theorem view_evictMany (count : ℕ) (c : SharedCache) : (evictMany count c).view = c.view.evictMany count := by
  induction count generalizing c with
  | zero => rfl
  | succ count ih =>
    unfold evictMany GuideCache.evictMany
    have hslots : c.view.builtSlots = c.builtSlots := rfl
    rw [hslots]
    cases GuideCache.oldest? c.builtSlots with
    | none => rfl
    | some s => exact (ih _).trans (congrArg _ view_remove)

theorem view_evict : c.evict.view = c.view.evict := by
  unfold evict GuideCache.evict
  have hcapacity : c.view.capacity = c.capacity := rfl
  rw [hcapacity]
  cases c.capacity with
  | none => rfl
  | some n => exact view_evictMany ..

/-! ### All steps of a call -/

inductive Steps {P : Type} (step : SharedCache → P → SharedCache → P → Prop) :
    SharedCache → P → SharedCache → P → Prop
  | nil {c : SharedCache} {p : P} : Steps step c p c p
  | cons {c c' c'' : SharedCache} {p p' p'' : P} (h : step c p c' p') (hrest : Steps step c' p' c'' p'') :
    Steps step c p c'' p''

theorem Phase.Step.fill_none (h : c.guide? slot = none) :
    (Phase.filling slot g).Step key b c (c.fill slot g) (.releasing slot (.built g)) := by
  have hstep : (Phase.filling slot g).Step key b c (c.fill slot g) _ := .fill
  rwa [h] at hstep

/-- What a call leaves behind that builds a guide for a slot while nobody disturbs it. -/
def put (c : SharedCache) (slot : SlotId) (g : BuiltGuide) : SharedCache :=
  let filled := ((c.lock slot).count.fill slot g).unlock slot
  (filled.tick.stamp slot filled.clock).evict

/-- The steps of a call that builds a guide for a slot, whether or not the slot is in the table. -/
theorem steps_put (hfree : c.isLocked slot = false) (hnone : c.guide? slot = none) (guide : Guide) :
    Steps (Phase.Step key (.ok guide)) c (.waiting slot) (c.put slot { serial := c.builds, guide })
      (.done (.ok { serial := c.builds, guide })) := by
  have hlock : (c.lock slot).guide? slot = none := guide?_lock.trans hnone
  exact .cons (.acquire hfree) (.cons (.lateMiss hlock) (.cons (.build rfl) (.cons .count
    (.cons (.fill_none hlock) (.cons .releaseBuilt (.cons .tick (.cons .stampBuilt (.cons .evict .nil))))))))

theorem Finds.put (h : c.Finds key slot) (hnone : c.guide? slot = none) :
    (c.put slot g).view = ((c.view.fill key g).touch key).evict := by
  have hlock : (c.lock slot).Finds key slot := h.update fun _ => rfl
  have hcount : (c.lock slot).count.Finds key slot := hlock.of_cells rfl rfl
  have hfill : ((c.lock slot).count.fill slot g).Finds key slot := hcount.update fun _ => rfl
  have hunlock : (((c.lock slot).count.fill slot g).unlock slot).Finds key slot := hfill.update fun _ => rfl
  have hview := hunlock.touch
  rw [view_unlock, hlock.fill (guide?_lock.trans hnone), view_lock] at hview
  exact view_evict.trans (congrArg GuideCache.evict hview)

/-- The steps of a call after it has found its slot. -/
theorem Finds.steps (h : c.Finds key slot) (hfree : c.isLocked slot = false) (b : Except Error Guide) :
    ∃ c' result, Steps (Phase.Step key b) c (.checking slot) c' (.done result) ∧
      (result, c'.view) = match c.view.built? key with
        | some g => (.ok g, c.view)
        | none => match b with
          | .error e => (.error e, c.view.remove key)
          | .ok guide =>
            (.ok { serial := c.view.builds, guide },
              ((c.view.fill key { serial := c.view.builds, guide }).touch key).evict) := by
  rw [h.built?_eq]
  cases hguide : c.guide? slot with
  | some g => exact ⟨c, .ok g, .cons (.hit hguide) .nil, rfl⟩
  | none =>
    cases b with
    | error e =>
      have hlock : (c.lock slot).Finds key slot := h.update fun _ => rfl
      have hunlock : ((c.lock slot).unlock slot).Finds key slot := hlock.update fun _ => rfl
      have hnone : (c.lock slot).guide? slot = none := guide?_lock.trans hguide
      refine ⟨_, .error e, .cons (.miss hguide) (.cons (.acquire hfree) (.cons (.lateMiss hnone)
        (.cons (.fail rfl) (.cons .releaseFailed (.cons .discard .nil))))), ?_⟩
      rw [hunlock.discard (guide?_unlock.trans hnone), view_unlock, view_lock]
    | ok guide =>
      exact ⟨_, _, .cons (.miss hguide) (steps_put hfree hguide guide), congrArg (Prod.mk _) (h.put hguide)⟩

/-- A call that nobody disturbs ends with what the store gives, and leaves the store behind. -/
theorem Valid.steps (hc : c.Valid) (hfree : ∀ id, c.isLocked id = false) (key : Key) (b : Except Error Guide) :
    ∃ c' result, Steps (Phase.Step key b) c .entering c' (.done result) ∧
      (result, c'.view) = c.view.getOrElse key fun _ => b := by
  have henter := Finds.enter hc key
  have hlocked : (c.enter key).isLocked (c.slotFor key) = false := isLocked_enter.trans (hfree _)
  have hview := henter.touch
  rw [view_enter hc] at hview
  obtain ⟨c', result, hsteps, hresult⟩ :=
    (henter.stamp (c.enter key).clock).steps (isLocked_stamp.trans hlocked) b
  rw [hview] at hresult
  exact ⟨c', result, .cons .enter (.cons .tick (.cons .stampWanted hsteps)), hresult⟩

theorem Valid.lookup_steps (hc : c.Valid) (pattern : String) (v : VocabularyIndex) :
    ∃ c' guide?, Steps (Lookup.Phase.Step (GuideCache.keyOf pattern v)) c .looking c' (.done guide?) ∧
      (guide?, c'.view) = c.view.get pattern v := by
  unfold GuideCache.get
  simp only [view_built?]
  cases hslot : c.slot? (GuideCache.keyOf pattern v) with
  | none => exact ⟨c, none, .cons (.absent hslot) .nil, rfl⟩
  | some slot =>
    obtain ⟨hmem, hkey⟩ := slot?_eq_some hslot
    rw [Option.bind_some]
    cases hguide : c.guide? slot with
    | none => exact ⟨c, none, .cons (.present hslot) (.cons (.unbuilt hguide) .nil), rfl⟩
    | some g =>
      refine ⟨_, some g, .cons (.present hslot) (.cons (.built hguide) (.cons .tick (.cons .stamp .nil))), ?_⟩
      rw [Finds.touch ⟨hc, hmem, hkey⟩]

/-! ### Calls one after another -/

theorem Request.clear_not_mem_events (r : Request) : .clear ∉ r.events := by
  unfold events
  split <;> simp

namespace System

variable {i : ℕ} {settings : Settings} {q q' : Lookup.Phase}

/-- A call takes any number of steps while all others wait. -/
theorem Run.steps (hsteps : Steps (Phase.Step key (build settings key)) c p c' p') (hrun : s.Run es s')
    (hc : s'.cache = c) (hr : s'.requests[i]? = some { settings, key, phase := p }) :
    ∃ es', s.Run es' { s' with cache := c', requests := s'.requests.set i { settings, key, phase := p' } } ∧
      (.clear ∈ es' → .clear ∈ es) := by
  induction hsteps generalizing s' es with
  | nil =>
    obtain ⟨hi, hget⟩ := List.getElem?_eq_some_iff.mp hr
    rw [← hget, List.set_getElem_self, ← hc]
    exact ⟨es, hrun, fun h => h⟩
  | cons h hrest ih =>
    have hi := (List.getElem?_eq_some_iff.mp hr).1
    have hstep := System.Step.advance (.request hr (hc ▸ h))
    obtain ⟨es', hrun', hclear⟩ := ih (hrun.step hstep) rfl (List.getElem?_set_self hi)
    rw [List.set_set] at hrun'
    refine ⟨es', hrun', fun hmem => ?_⟩
    cases List.mem_append.mp (hclear hmem) with
    | inl hmem => exact hmem
    | inr hmem => exact absurd hmem (Request.clear_not_mem_events _)

theorem Run.lookup_steps (hsteps : Steps (Lookup.Phase.Step key) c q c' q') (hrun : s.Run es s')
    (hc : s'.cache = c) (hl : s'.lookups[i]? = some { key, phase := q }) :
    s.Run es { s' with cache := c', lookups := s'.lookups.set i { key, phase := q' } } := by
  induction hsteps generalizing s' es with
  | nil =>
    obtain ⟨hi, hget⟩ := List.getElem?_eq_some_iff.mp hl
    rw [← hget, List.set_getElem_self, ← hc]
    exact hrun
  | cons h hrest ih =>
    have hi := (List.getElem?_eq_some_iff.mp hl).1
    have hstep := System.Step.advance (.lookup hl (hc ▸ h))
    have hrun' := ih (hrun.step hstep) rfl (List.getElem?_set_self hi)
    rwa [List.set_set, List.append_nil] at hrun'

/-- A call that is made while no lock is held comes to its end before anything else happens. -/
theorem Run.alone (hrun : s.Run es s') (hs : s'.Reached) (hfree : ∀ r ∈ s'.requests, r.phase.holds? = none)
    (hr : s'.requests[i]? = some { settings, key, phase := .entering }) :
    ∃ es' c' result, s.Run es' { s' with
        cache := c', requests := s'.requests.set i { settings, key, phase := .done result } } ∧
      (.clear ∈ es' → .clear ∈ es) ∧
      (result, c'.view) = s'.cache.view.getOrElse key fun _ => build settings key := by
  obtain ⟨c', result, hsteps, hresult⟩ :=
    hs.wellFormed.valid.steps (hs.locked.free hfree) key (build settings key)
  obtain ⟨es', hrun', hclear⟩ := hrun.steps hsteps rfl hr
  exact ⟨es', c', result, hrun', hclear, hresult⟩

theorem Run.request (hrun : s.Run es s') (hs : s'.Reached) (hfree : ∀ r ∈ s'.requests, r.phase.holds? = none)
    (settings : Settings) (key : Key) :
    ∃ es' c' result, s.Run es' { s' with
        cache := c', requests := s'.requests ++ [{ settings, key, phase := .done result }] } ∧
      (.clear ∈ es' → .clear ∈ es) ∧
      (result, c'.view) = s'.cache.view.getOrElse key fun _ => build settings key := by
  have hstart := hrun.step (.request settings key)
  have hfree' : ∀ r ∈ s'.requests ++ [{ settings, key, phase := .entering }], r.phase.holds? = none :=
    List.forall_mem_append.mpr ⟨hfree, List.forall_mem_singleton.mpr rfl⟩
  obtain ⟨es', c', result, hrun', hclear, hresult⟩ :=
    hstart.alone (hs.move (.start rfl rfl rfl)) hfree' List.getElem?_concat_length
  simp only [set_concat] at hrun'
  exact ⟨es', c', result, hrun', fun h => by simpa using hclear h, hresult⟩

theorem Run.lookup (hrun : s.Run es s') (hs : s'.Reached) (pattern : String) (v : VocabularyIndex) :
    ∃ c' guide?, s.Run es { s' with
        cache := c', lookups := s'.lookups ++ [{ key := GuideCache.keyOf pattern v, phase := .done guide? }] } ∧
      (guide?, c'.view) = s'.cache.view.get pattern v := by
  obtain ⟨c', guide?, hsteps, hresult⟩ := hs.wellFormed.valid.lookup_steps pattern v
  have hstart := hrun.step (.lookup (GuideCache.keyOf pattern v))
  have hrun' := hstart.lookup_steps hsteps rfl List.getElem?_concat_length
  simp only [set_concat, List.append_nil] at hrun'
  exact ⟨c', guide?, hrun', hresult⟩

end System

def phase? : Answer → Option Phase
  | .built result => some (.done result)
  | _ => none

def lookupPhase? : Answer → Option Lookup.Phase
  | .found guide? => some (.done guide?)
  | _ => none

structure System.Shows (s : System) (phases : List Phase) (lookupPhases : List Lookup.Phase)
    (store : GuideCache) : Prop where
  requests : s.requests.map (·.phase) = phases
  lookups : s.lookups.map (·.phase) = lookupPhases
  view : s.cache.view = store

namespace System

variable {capacity : Option ℕ}

theorem AtRest.holds?_eq_none (h : s.AtRest) : ∀ r ∈ s.requests, r.phase.holds? = none := by
  intro r hr
  obtain ⟨result, hresult⟩ := h.1 r hr
  rw [hresult]
  rfl

/-- One call that overlaps with no other. -/
theorem Run.answer (hrun : (initial capacity).Run es s) (hrest : s.AtRest) {call : Call}
    (hcall : call.Indexed) :
    ∃ es' s', (initial capacity).Run es' s' ∧ s'.AtRest ∧
      s'.Shows (s.requests.map (·.phase) ++ (phase? (perform s.cache.view call).1).toList)
        (s.lookups.map (·.phase) ++ (lookupPhase? (perform s.cache.view call).1).toList)
        (perform s.cache.view call).2 := by
  cases call with
  | getOrBuild settings pattern v =>
    obtain ⟨es', c', result, hrun', -, hresult⟩ :=
      hrun.request hrun.reached hrest.holds?_eq_none settings (GuideCache.keyOf pattern v)
    have hperform : perform s.cache.view (.getOrBuild settings pattern v) = (.built result, c'.view) := by
      have hbuild : build settings (GuideCache.keyOf pattern v) = Guide.ofPattern settings pattern v := by
        rw [build, GuideCache.keyOf, ← show v = .ofVocabulary v.vocabulary from hcall]
      rw [hbuild] at hresult
      exact congrArg (Prod.map Answer.built id) hresult.symm
    rw [hperform]
    refine ⟨es', _, hrun', ⟨?_, hrest.2⟩, List.map_append, (List.append_nil _).symm, rfl⟩
    exact List.forall_mem_append.mpr ⟨hrest.1, List.forall_mem_singleton.mpr ⟨result, rfl⟩⟩
  | get pattern v =>
    obtain ⟨c', guide?, hrun', hresult⟩ := hrun.lookup hrun.reached pattern v
    have hperform : perform s.cache.view (.get pattern v) = (.found guide?, c'.view) :=
      congrArg (Prod.map Answer.found id) hresult.symm
    rw [hperform]
    refine ⟨es, _, hrun', ⟨hrest.1, ?_⟩, (List.append_nil _).symm, List.map_append, rfl⟩
    exact List.forall_mem_append.mpr ⟨hrest.2, List.forall_mem_singleton.mpr ⟨guide?, rfl⟩⟩
  | clear =>
    refine ⟨_, _, hrun.step .clear, hrest, ?_, ?_, rfl⟩
    · simp [GuideCache.perform, phase?]
    · simp [GuideCache.perform, lookupPhase?]

theorem Run.answers (hrun : (initial capacity).Run es s) (hrest : s.AtRest) {calls : List Call}
    (hcalls : ∀ call ∈ calls, call.Indexed) :
    ∃ es' s', (initial capacity).Run es' s' ∧ s'.AtRest ∧
      s'.Shows (s.requests.map (·.phase) ++ (GuideCache.run perform s.cache.view calls).1.filterMap phase?)
        (s.lookups.map (·.phase) ++ (GuideCache.run perform s.cache.view calls).1.filterMap lookupPhase?)
        (GuideCache.run perform s.cache.view calls).2 := by
  induction calls generalizing s es with
  | nil => exact ⟨es, s, hrun, hrest, (List.append_nil _).symm, (List.append_nil _).symm, rfl⟩
  | cons call calls ih =>
    obtain ⟨hcall, hcalls⟩ := List.forall_mem_cons.mp hcalls
    obtain ⟨es', s', hrun', hrest', hshows⟩ := hrun.answer hrest hcall
    obtain ⟨es'', s'', hrun'', hrest'', hshows'⟩ := ih hrun' hrest' hcalls
    refine ⟨es'', s'', hrun'', hrest'', ?_⟩
    have hcons {α : Type} (f : Answer → Option α) (a : Answer) (l : List Answer) :
        (f a).toList ++ l.filterMap f = (a :: l).filterMap f := by
      cases h : f a <;> simp [h]
    rw [hshows.requests, hshows.lookups, hshows.view, List.append_assoc, List.append_assoc, hcons,
      hcons] at hshows'
    exact hshows'

end System

/-- Calls that come one after another get the answers of the store for such calls. -/
theorem refines_store (options : CacheOptions) {calls : List Call} (hcalls : ∀ call ∈ calls, call.Indexed) :
    ∃ es s answers store, (System.initial options.capacity).Run es s ∧ s.AtRest ∧
      GuideCache.run perform (GuideCache.empty .standard options) calls = (answers, store) ∧
      s.Shows (answers.filterMap phase?) (answers.filterMap lookupPhase?) store := by
  have hnil : (System.initial options.capacity).Run [] (System.initial options.capacity) := .nil
  obtain ⟨es, s, hrun, hrest, hshows⟩ :=
    hnil.answers ⟨by simp [System.initial], by simp [System.initial]⟩ hcalls
  exact ⟨es, s, _, _, hrun, hrest, rfl, hshows⟩

end ConstrainedDecoding.SharedCache
