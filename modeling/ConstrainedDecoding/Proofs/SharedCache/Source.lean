import ConstrainedDecoding.Proofs.SharedCache.Lock

/-! Where guides and errors come from: from the builds of the calls for a key. -/
namespace ConstrainedDecoding.SharedCache

open GuideCache (Key)

variable {c c' : SharedCache} {key : Key} {id : SlotId} {p p' : Phase} {s s' : System} {es : List Event}
  {b : Except Error Guide} {g : BuiltGuide} {a : Guide} {e : Error}

def Phase.guide? : Phase → Option BuiltGuide
  | .ticking _ (some g) | .stamping _ _ (some g) | .releasing _ (.found g) | .releasing _ (.built g)
  | .evicting g | .done (.ok g) => some g
  | _ => none

/-- The guide that a call has built and not yet put into its slot. -/
def Phase.made? : Phase → Option Guide
  | .counting _ guide => some guide
  | .filling _ g => some g.guide
  | _ => none

def Phase.error? : Phase → Option Error
  | .releasing _ (.failed e) | .discarding _ e | .done (.error e) => some e
  | _ => none

theorem Phase.Step.made (h : p.Step key b c c' p') (hguide : p'.made? = some a) :
    p.made? = some a ∨ (∃ slot, p = .building slot) ∧ b = .ok a := by
  cases h with
  | @build slot a hb =>
    cases hguide
    exact Or.inr ⟨⟨slot, rfl⟩, hb⟩
  | count => exact Or.inl hguide
  | _ => cases hguide

/-- A guide that was built is put into the slot, unless there is one already. -/
theorem Phase.Step.made_next (h : p.Step key b c c' p')
    (hown : ∀ id, p.slot? = some id → c.key? id = some key) (hguide : p.made? = some a) :
    p'.made? = some a ∨ ∃ id g, c'.key? id = some key ∧ c'.guide? id = some g := by
  cases h with
  | count => exact Or.inl hguide
  | @fill slot g =>
    have hkey := hown slot rfl
    exact Or.inr ⟨slot, _, Extends.fill.key hkey, guide?_fill_self hkey⟩
  | _ => cases hguide

theorem Phase.Step.error (h : p.Step key b c c' p') (herror : p'.error? = some e) :
    p.error? = some e ∨ b = .error e := by
  cases h with
  | fail hb =>
    cases herror
    exact Or.inr hb
  | releaseFailed | discard => exact Or.inl herror
  | @tick slot built? => cases built? <;> cases herror
  | _ => cases herror

theorem Phase.Step.guide (h : p.Step key b c c' p')
    (hown : ∀ id, p.slot? = some id → c.key? id = some key) (hguide : p'.guide? = some g) :
    p.guide? = some g ∨ ∃ id, c'.key? id = some key ∧ c'.guide? id = some g := by
  cases h with
  | @hit slot g hg | @lateHit slot g hg =>
    cases hguide
    exact Or.inr ⟨slot, hown slot rfl, hg⟩
  | @fill slot g =>
    cases hguide
    have hkey := hown slot rfl
    exact Or.inr ⟨slot, Extends.fill.key hkey, guide?_fill_self hkey⟩
  | @tick slot built? =>
    cases built? with
    | none => cases hguide
    | some g => exact Or.inl hguide
  | stampBuilt | releaseFound | releaseBuilt | evict => exact Or.inl hguide
  | _ => cases hguide

/-- What is in a slot after a step was there before, or the call that took the step has built it. -/
theorem Phase.Step.cell (h : p.Step key b c c' p')
    (hown : ∀ id, p.slot? = some id → c.key? id = some key) (hguide : c'.guide? id = some g) :
    c.guide? id = some g ∨ c.key? id = some key ∧ p.made? = some g.guide := by
  cases h with
  | enter => exact Or.inl (guide?_enter.symm.trans hguide)
  | stampWanted | stampBuilt | acquire | releaseFound | releaseBuilt | releaseFailed =>
    exact Or.inl (by simpa using hguide)
  | @fill slot g' =>
    by_cases heq : slot = id
    · subst heq
      have hkey := hown slot rfl
      rw [guide?_fill_self hkey] at hguide
      cases hold : c.guide? slot with
      | none =>
        rw [hold] at hguide
        cases hguide
        exact Or.inr ⟨hkey, rfl⟩
      | some g'' =>
        rw [hold] at hguide
        exact Or.inl hguide
    · exact Or.inl ((guide?_fill_of_ne heq).symm.trans hguide)
  | discard =>
    rw [discard_eq] at hguide
    exact Or.inl hguide
  | evict =>
    rw [evict_eq] at hguide
    exact Or.inl hguide
  | _ => exact Or.inl hguide

namespace System

/-- Guides in slots were built by calls for their keys, calls end with guides from slots of their keys,
and with the errors of their own builds. -/
structure Sourced (s : System) : Prop where
  cell : ∀ id g, s.cache.guide? id = some g →
    ∃ r ∈ s.requests, s.cache.key? id = some r.key ∧ build r.settings r.key = .ok g.guide
  guide : ∀ r ∈ s.requests, ∀ g, r.phase.guide? = some g →
    ∃ id, s.cache.key? id = some r.key ∧ s.cache.guide? id = some g
  made : ∀ r ∈ s.requests, ∀ guide, r.phase.made? = some guide → build r.settings r.key = .ok guide
  error : ∀ r ∈ s.requests, ∀ e, r.phase.error? = some e → build r.settings r.key = .error e

theorem Sourced.move (h : s.Sourced) (hs : s.WellFormed) (hmove : s.Move s' es) : s'.Sourced := by
  cases hmove with
  | @advance i r phase hr hrequests hstep =>
    have hmem := List.mem_of_getElem? hr
    have hown := hs.own r hmem
    have hextends := hstep.extends
    constructor
    · intro id g hg
      rw [hrequests]
      -- whoever has built the guide, a step changes neither its key nor its settings
      have hsource : ∃ r ∈ s.requests, s'.cache.key? id = some r.key ∧ build r.settings r.key = .ok g.guide := by
        cases hstep.cell hown hg with
        | inl hg =>
          obtain ⟨r', hr', hkey, hbuild⟩ := h.cell id g hg
          exact ⟨r', hr', hextends.key hkey, hbuild⟩
        | inr hmade => exact ⟨r, hmem, hextends.key hmade.1, h.made r hmem _ hmade.2⟩
      exact exists_mem_set hsource hr fun h => h
    · rw [hrequests]
      refine forall_mem_set (fun r' hr' g hg => ?_) fun g hg => ?_
      · obtain ⟨id, hkey, hguide⟩ := h.guide r' hr' g hg
        exact ⟨id, hextends.key hkey, hextends.guide hguide⟩
      · cases hstep.guide hown hg with
        | inl hg =>
          obtain ⟨id, hkey, hguide⟩ := h.guide r hmem g hg
          exact ⟨id, hextends.key hkey, hextends.guide hguide⟩
        | inr hg => exact hg
    · rw [hrequests]
      refine forall_mem_set h.made fun guide hguide => ?_
      cases hstep.made hguide with
      | inl hguide => exact h.made r hmem guide hguide
      | inr hb => exact hb.2
    · rw [hrequests]
      refine forall_mem_set h.error fun e he => ?_
      cases hstep.error he with
      | inl he => exact h.error r hmem e he
      | inr hb => exact hb
  | @start r hr hrequests hcache =>
    constructor
    · intro id g hg
      rw [hcache] at hg ⊢
      obtain ⟨r', hr', hsource⟩ := h.cell id g hg
      exact ⟨r', hrequests ▸ List.mem_append_left _ hr', hsource⟩
    · rw [hrequests, hcache]
      exact List.forall_mem_append.mpr ⟨h.guide, List.forall_mem_singleton.mpr (by simp [hr, Phase.guide?])⟩
    · rw [hrequests]
      exact List.forall_mem_append.mpr ⟨h.made, List.forall_mem_singleton.mpr (by simp [hr, Phase.made?])⟩
    · rw [hrequests]
      exact List.forall_mem_append.mpr ⟨h.error, List.forall_mem_singleton.mpr (by simp [hr, Phase.error?])⟩
  | clear hrequests hcache =>
    constructor
    · rw [hrequests, hcache]
      exact h.cell
    · rw [hrequests, hcache]
      exact h.guide
    · rw [hrequests]
      exact h.made
    · rw [hrequests]
      exact h.error
  | quiet hrequests hcache =>
    constructor
    · simp only [hrequests, hcache.guide, hcache.key]
      exact h.cell
    · simp only [hrequests, hcache.guide, hcache.key]
      exact h.guide
    · rw [hrequests]
      exact h.made
    · rw [hrequests]
      exact h.error

theorem sourced_initial (capacity : Option ℕ) : (initial capacity).Sourced where
  cell := by simp [initial, empty, SharedCache.guide?]
  guide := by simp [initial]
  made := by simp [initial]
  error := by simp [initial]

/-- What holds in every run that starts with an empty cache. -/
structure Reached (s : System) : Prop where
  wellFormed : s.WellFormed
  locked : s.Locked
  sourced : s.Sourced

theorem Reached.move (h : s.Reached) (hmove : s.Move s' es) : s'.Reached :=
  ⟨h.wellFormed.move hmove, h.locked.move h.wellFormed hmove, h.sourced.move h.wellFormed hmove⟩

theorem Run.reached {capacity : Option ℕ} (h : (initial capacity).Run es s) : s.Reached :=
  h.invariant ⟨wellFormed_initial capacity, locked_initial capacity, sourced_initial capacity⟩
    fun hmove h => h.move hmove

end System

end ConstrainedDecoding.SharedCache
