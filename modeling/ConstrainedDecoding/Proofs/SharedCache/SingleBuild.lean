import ConstrainedDecoding.Proofs.SharedCache.Alone

/-! Calls for one key that overlap: its guide is built once, and all of them get it. -/
namespace ConstrainedDecoding.SharedCache

open GuideCache (Key)

variable {c c' : SharedCache} {key k : Key} {id slot : SlotId} {p p' : Phase} {s s' : System} {es : List Event}
  {b : Except Error Guide} {g : BuiltGuide} {settings : Settings}

theorem exists_key?_of_guide? (h : c.guide? id = some g) : ∃ k, c.key? id = some k := by
  obtain ⟨cell, hcell, -⟩ := Option.bind_eq_some_iff.mp h
  exact ⟨cell.key, by rw [key?, hcell]; rfl⟩

/-- Slots of a key stay in the table if no call for it fails and no guides are evicted. -/
theorem Phase.Step.lasts (h : p.Step key b c c' p') (hc : c.Valid)
    (hown : ∀ id, p.slot? = some id → c.key? id = some key) (hcapacity : c.capacity = none)
    (herror : key = k → p.error? = none) (hk : ∀ id, c.key? id = some k → id ∈ c.table)
    (hid : c'.key? id = some k) : id ∈ c'.table := by
  cases h with
  | enter =>
    cases key?_of_key?_enter hid with
    | inl hid => exact mem_table_enter.mpr (Or.inr (hk id hid))
    | inr heq => exact mem_table_enter.mpr (Or.inl heq)
  | @discard slot e =>
    rw [discard_eq] at hid
    refine (mem_table_discard hc (hown slot rfl)).mpr ⟨hk id hid, fun hslot => ?_⟩
    have hkey : c.key? id = some key := hslot.1 ▸ hown slot rfl
    have hnone := herror (Option.some.inj (hkey.symm.trans hid))
    cases hnone
  | evict =>
    rw [evict_of_capacity hcapacity] at hid ⊢
    exact hk id hid
  | stampWanted | stampBuilt | acquire | fill | releaseFound | releaseBuilt | releaseFailed =>
    exact hk id (by simpa using hid)
  | _ => exact hk id hid

theorem Phase.builds?_of_made? (h : p.made?.isSome) : p.builds?.isSome := by
  cases p with
  | counting | filling => rfl
  | _ => cases h

theorem Phase.slot?_of_builds? (h : p.builds? = some id) : p.slot? = some id := by
  cases p with
  | building slot => exact h
  | counting slot guide => exact h
  | filling slot g => exact h
  | _ => cases h

theorem Phase.Step.made_of_building (h : p.Step key b c c' p') (hp : p = .building slot)
    (hb : ∃ guide, b = .ok guide) : p'.made?.isSome := by
  subst hp
  obtain ⟨guide, rfl⟩ := hb
  cases h with
  | build => rfl
  | fail hb => cases hb

namespace System

/-- Whether the builds of all calls for a key succeed. -/
def Succeeds (s : System) (key : Key) : Prop :=
  ∀ r ∈ s.requests, r.key = key → ∃ guide, build r.settings r.key = .ok guide

theorem succeeds_of_settings {guide : Guide} (h : ∀ r ∈ s.requests, r.settings = settings)
    (hbuild : build settings key = .ok guide) : s.Succeeds key := by
  intro r hr hkey
  exact ⟨guide, by rw [h r hr, hkey, hbuild]⟩

def Lasts (s : System) (key : Key) : Prop := ∀ id, s.cache.key? id = some key → id ∈ s.cache.table

def Made (s : System) (key : Key) : Prop :=
  (∃ id g, s.cache.key? id = some key ∧ s.cache.guide? id = some g) ∨
    ∃ r ∈ s.requests, r.key = key ∧ r.phase.made?.isSome

theorem Move.succeeds (h : s.Move s' es) (hs : s'.Succeeds key) : s.Succeeds key := by
  intro r hr hkey
  cases h with
  | @advance i r' phase hr' hrequests hstep =>
    have hsame : ∃ x ∈ s'.requests, x.settings = r.settings ∧ x.key = r.key := by
      rw [hrequests]
      exact exists_mem_set ⟨r, hr, rfl, rfl⟩ hr' fun h => h
    obtain ⟨x, hx, hsettings, hxkey⟩ := hsame
    rw [← hsettings, ← hxkey]
    exact hs x hx (hxkey.trans hkey)
  | start hr' hrequests hcache => exact hs r (hrequests ▸ List.mem_append_left _ hr) hkey
  | clear hrequests hcache => exact hs r (hrequests ▸ hr) hkey
  | quiet hrequests hcache => exact hs r (hrequests ▸ hr) hkey

theorem Sourced.error?_eq_none (h : s.Sourced) (hs : s.Succeeds key) {r : Request} (hr : r ∈ s.requests)
    (hkey : r.key = key) : r.phase.error? = none := by
  cases herror : r.phase.error? with
  | none => rfl
  | some e =>
    obtain ⟨guide, hguide⟩ := hs r hr hkey
    have he := h.error r hr e herror
    rw [hguide] at he
    cases he

theorem Lasts.move (h : s.Lasts key) (hs : s.Reached) (hsucceeds : s.Succeeds key)
    (hcapacity : s.cache.capacity = none) (hmove : s.Move s' es) (hclear : .clear ∉ es) :
    s'.Lasts key := by
  intro id hid
  cases hmove with
  | @advance i r phase hr hrequests hstep =>
    have hmem := List.mem_of_getElem? hr
    exact hstep.lasts hs.wellFormed.valid (hs.wellFormed.own r hmem) hcapacity
      (hs.sourced.error?_eq_none hsucceeds hmem) h hid
  | start hr hrequests hcache =>
    rw [hcache] at hid ⊢
    exact h id hid
  | clear hrequests hcache => exact absurd (List.mem_singleton_self _) hclear
  | quiet hrequests hcache =>
    rw [hcache.key] at hid
    exact hcache.table.mem_iff.mpr (h id hid)

/-- While no call for a key fails, its slots stay in the table. -/
theorem Run.lasts (h : (initial none).Run es s) (hclear : .clear ∉ es) (hsucceeds : s.Succeeds key) :
    s.Lasts key := by
  induction h with
  | nil =>
    intro id hid
    simp [initial, empty, key?] at hid
  | step hrun hstep ih =>
    obtain ⟨hclear, hclear'⟩ := not_or.mp (mt List.mem_append.mpr hclear)
    have hbefore := hstep.move.succeeds hsucceeds
    exact (ih hclear hbefore).move hrun.reached hbefore hrun.capacity_eq hstep.move hclear'

theorem Lasts.unique (h : s.Lasts key) (hs : s.WellFormed) (hid : s.cache.key? id = some key)
    (hslot : s.cache.key? slot = some key) : id = slot :=
  hs.valid.unique id (h id hid) slot (h slot hslot) (hid.trans hslot.symm)

theorem Reached.builder_unique (h : s.Reached) (hlasts : s.Lasts key) {i j : ℕ} {r r' : Request}
    (hi : s.requests[i]? = some r) (hj : s.requests[j]? = some r') (hr : r.key = key) (hr' : r'.key = key)
    (hbuilds : r.phase.builds?.isSome) (hbuilds' : r'.phase.builds?.isSome) : i = j := by
  obtain ⟨id, hid⟩ := Option.isSome_iff_exists.mp hbuilds
  obtain ⟨id', hid'⟩ := Option.isSome_iff_exists.mp hbuilds'
  have hkey := h.wellFormed.own r (List.mem_of_getElem? hi) id (Phase.slot?_of_builds? hid)
  have hkey' := h.wellFormed.own r' (List.mem_of_getElem? hj) id' (Phase.slot?_of_builds? hid')
  obtain rfl : id = id' := hlasts.unique h.wellFormed (hr ▸ hkey) (hr' ▸ hkey')
  exact h.locked.exclusive i j id ⟨r, hi, Phase.holds?_of_builds? hid⟩ ⟨r', hj, Phase.holds?_of_builds? hid'⟩

/-- Before the step that builds the guide of a key, none was built. -/
theorem Reached.not_made (h : s.Reached) (hlasts : s.Lasts key) {i : ℕ} {r : Request}
    (hr : s.requests[i]? = some r) (hkey : r.key = key) (hbuilding : r.phase = .building slot) :
    ¬ s.Made key := by
  have hmem := List.mem_of_getElem? hr
  have hslot : s.cache.key? slot = some key := by
    rw [← hkey]
    exact h.wellFormed.own r hmem slot (by rw [hbuilding]; rfl)
  intro hmade
  obtain ⟨id, g, hid, hguide⟩ | ⟨r', hr', hkey', hmade⟩ := hmade
  · obtain rfl := hlasts.unique h.wellFormed hid hslot
    rw [h.locked.unbuilt r hmem id (by rw [hbuilding]; rfl)] at hguide
    cases hguide
  · obtain ⟨j, hj⟩ := List.getElem?_of_mem hr'
    obtain rfl := h.builder_unique hlasts hr hj hkey hkey' (by rw [hbuilding]; rfl) (Phase.builds?_of_made? hmade)
    obtain rfl := Option.some.inj (hr.symm.trans hj)
    rw [hbuilding] at hmade
    cases hmade

/-- A guide that is there after a step was there before, unless the step builds it. -/
theorem Reached.made_before (h : s.Reached) {i : ℕ} {r : Request} {phase : Phase}
    (hr : s.requests[i]? = some r) (hrequests : s'.requests = s.requests.set i { r with phase })
    (hstep : r.phase.Step r.key (build r.settings r.key) s.cache s'.cache phase)
    (hother : r.key = key → ∀ slot, r.phase ≠ .building slot) (hmade : s'.Made key) : s.Made key := by
  have hmem := List.mem_of_getElem? hr
  have hown := h.wellFormed.own r hmem
  obtain ⟨id, g, hid, hguide⟩ | ⟨r', hr', hkey, hmade⟩ := hmade
  · cases hstep.cell hown hguide with
    | inl hguide =>
      obtain ⟨k, hk⟩ := exists_key?_of_guide? hguide
      obtain rfl := Option.some.inj ((hstep.extends.key hk).symm.trans hid)
      exact Or.inl ⟨id, g, hk, hguide⟩
    | inr hmade =>
      have hkey := Option.some.inj ((hstep.extends.key hmade.1).symm.trans hid)
      exact Or.inr ⟨r, hmem, hkey, by rw [hmade.2]; rfl⟩
  · rw [hrequests] at hr'
    cases List.mem_or_eq_of_mem_set hr' with
    | inl hr' => exact Or.inr ⟨r', hr', hkey, hmade⟩
    | inr heq =>
      subst heq
      obtain ⟨guide, hguide⟩ := Option.isSome_iff_exists.mp hmade
      cases hstep.made hguide with
      | inl hmade => exact Or.inr ⟨r, hmem, hkey, by rw [hmade]; rfl⟩
      | inr hbuilding =>
        obtain ⟨slot, hslot⟩ := hbuilding.1
        exact absurd hslot (hother hkey slot)

theorem Reached.made_after (h : s.Reached) {i : ℕ} {r : Request} {phase : Phase}
    (hr : s.requests[i]? = some r) (hrequests : s'.requests = s.requests.set i { r with phase })
    (hstep : r.phase.Step r.key (build r.settings r.key) s.cache s'.cache phase) (hmade : s.Made key) :
    s'.Made key := by
  have hown := h.wellFormed.own r (List.mem_of_getElem? hr)
  obtain ⟨id, g, hid, hguide⟩ | ⟨r', hr', hkey, hmade⟩ := hmade
  · exact Or.inl ⟨id, g, hstep.extends.key hid, hstep.extends.guide hguide⟩
  · obtain ⟨j, hj⟩ := List.getElem?_of_mem hr'
    by_cases hij : i = j
    · subst hij
      obtain rfl := Option.some.inj (hr.symm.trans hj)
      obtain ⟨guide, hguide⟩ := Option.isSome_iff_exists.mp hmade
      cases hstep.made_next hown hguide with
      | inl hguide =>
        have hi := (List.getElem?_eq_some_iff.mp hr).1
        have hmem : { r with phase } ∈ s'.requests := hrequests ▸ List.mem_set hi _
        exact Or.inr ⟨_, hmem, hkey, Option.isSome_iff_exists.mpr ⟨guide, hguide⟩⟩
      | inr hcell =>
        obtain ⟨id, g, hid, hguide⟩ := hcell
        exact Or.inl ⟨id, g, hkey ▸ hid, hguide⟩
    · have hj' : s'.requests[j]? = some r' := by rw [hrequests, List.getElem?_set_ne hij, hj]
      exact Or.inr ⟨r', List.mem_of_getElem? hj', hkey, hmade⟩

theorem made_congr (hrequests : ∀ r, r.phase.made?.isSome → (r ∈ s'.requests ↔ r ∈ s.requests))
    (hkey : ∀ id, s'.cache.key? id = s.cache.key? id)
    (hguide : ∀ id, s'.cache.guide? id = s.cache.guide? id) : s'.Made key ↔ s.Made key := by
  unfold Made
  simp only [hkey, hguide]
  refine or_congr Iff.rfl (exists_congr fun r => ?_)
  constructor
  · intro h
    exact ⟨(hrequests r h.2.2).mp h.1, h.2⟩
  · intro h
    exact ⟨(hrequests r h.2.2).mpr h.1, h.2⟩

/-- A step builds the guide of a key, which was not there, or it is no build of that key. -/
theorem Reached.count_move (h : s.Reached) (hlasts : s.Lasts key) (hsucceeds : s.Succeeds key)
    (hmove : s.Move s' es) :
    es.count (.build key) = 1 ∧ ¬ s.Made key ∧ s'.Made key ∨
      es.count (.build key) = 0 ∧ (s'.Made key ↔ s.Made key) := by
  cases hmove with
  | @advance i r phase hr hrequests hstep =>
    by_cases hbuilds : r.key = key ∧ ∃ slot, r.phase = .building slot
    · obtain ⟨rfl, slot, hslot⟩ := hbuilds
      left
      have hi := (List.getElem?_eq_some_iff.mp hr).1
      refine ⟨by simp [Request.events, hslot], h.not_made hlasts hr rfl hslot, ?_⟩
      have hmem' : { r with phase } ∈ s'.requests := hrequests ▸ List.mem_set hi _
      have hmade := hstep.made_of_building hslot (hsucceeds r (List.mem_of_getElem? hr) rfl)
      exact Or.inr ⟨_, hmem', rfl, hmade⟩
    · right
      have hother : r.key = key → ∀ slot, r.phase ≠ .building slot := by
        intro hkey slot hslot
        exact hbuilds ⟨hkey, slot, hslot⟩
      refine ⟨?_, h.made_before hr hrequests hstep hother, h.made_after hr hrequests hstep⟩
      unfold Request.events
      split
      · rename_i slot hslot
        have hne : r.key ≠ key := fun hkey => hother hkey slot hslot
        simp [hne]
      · rfl
  | @start r hr hrequests hcache =>
    refine Or.inr ⟨rfl, made_congr (fun r' hr' => ?_) (fun id => by rw [hcache]) fun id => by rw [hcache]⟩
    have hne : r' ≠ r := by
      intro heq
      rw [heq, hr] at hr'
      cases hr'
    simp [hrequests, hne]
  | clear hrequests hcache =>
    refine Or.inr ⟨by simp, made_congr (by simp [hrequests]) (fun id => ?_) fun id => ?_⟩
    · rw [hcache]
      rfl
    · rw [hcache]
      rfl
  | quiet hrequests hcache =>
    exact Or.inr ⟨rfl, made_congr (by simp [hrequests]) hcache.key hcache.guide⟩

/-- While no call for a key fails, its guide is built when it is there, once. -/
theorem Run.count_build (h : (initial none).Run es s) (hclear : .clear ∉ es) (hsucceeds : s.Succeeds key) :
    (s.Made key → es.count (.build key) = 1) ∧ (¬ s.Made key → es.count (.build key) = 0) := by
  induction h with
  | nil => exact ⟨fun h => by simp [Made, initial, empty, key?] at h, fun _ => rfl⟩
  | @step es es' s s' hrun hstep ih =>
    obtain ⟨hclear, hclear'⟩ := not_or.mp (mt List.mem_append.mpr hclear)
    have hbefore := hstep.move.succeeds hsucceeds
    have hih := ih hclear hbefore
    rw [List.count_append]
    obtain ⟨hcount, hnot, hmade⟩ | ⟨hcount, hiff⟩ :=
      hrun.reached.count_move (hrun.lasts hclear hbefore) hbefore hstep.move
    · rw [hcount, hih.2 hnot]
      exact ⟨fun _ => rfl, fun h => absurd hmade h⟩
    · rw [hcount, hiff]
      exact hih

/-- If all calls have the same settings, then the guides in the slots of a key are what its build gives. -/
theorem Sourced.build_eq (h : s.Sourced) (hsettings : ∀ r ∈ s.requests, r.settings = settings)
    (hkey : s.cache.key? id = some key) (hguide : s.cache.guide? id = some g) :
    build settings key = .ok g.guide := by
  obtain ⟨r, hr, hr', hbuild⟩ := h.cell id g hguide
  obtain rfl : r.key = key := Option.some.inj (hr'.symm.trans hkey)
  rwa [hsettings r hr] at hbuild

/-- If all builds of a key succeed, then calls for it end with guides from slots of the key. -/
theorem Reached.exists_of_done (h : s.Reached) (hsucceeds : s.Succeeds key) {r : Request} (hr : r ∈ s.requests)
    (hkey : r.key = key) {result : Except Error BuiltGuide} (hresult : r.phase = .done result) :
    ∃ id g, result = .ok g ∧ s.cache.key? id = some key ∧ s.cache.guide? id = some g := by
  cases result with
  | error e =>
    have herror := h.sourced.error?_eq_none hsucceeds hr hkey
    rw [hresult] at herror
    cases herror
  | ok g =>
    obtain ⟨id, hid, hg⟩ := h.sourced.guide r hr g (by rw [hresult]; rfl)
    exact ⟨id, g, rfl, hkey ▸ hid, hg⟩

end System

/-- Calls that overlap build a guide once. While all calls have the same settings, all guides are kept and
the cache is not cleared, a key whose build succeeds has at most one build at any time and one in all, as
soon as a call for it has come to its end, and all calls for it get the same guide. Calls for other keys get
the errors of their builds. All calls come to their ends: while some are under way, one can take a step, and
each step leaves fewer to be taken. -/
theorem single_build (h : (System.initial none).Run es s) (hclear : .clear ∉ es)
    (hsettings : ∀ r ∈ s.requests, r.settings = settings) :
    (∀ key guide, build settings key = .ok guide →
      (∀ (i j : ℕ) (r r' : Request), s.requests[i]? = some r → s.requests[j]? = some r' →
        r.key = key → r'.key = key → r.phase.builds?.isSome → r'.phase.builds?.isSome → i = j) ∧
      es.count (.build key) ≤ 1 ∧
      ∃ g : BuiltGuide, g.guide = guide ∧ ∀ r ∈ s.requests, r.key = key → ∀ result,
        r.phase = .done result → result = .ok g ∧ es.count (.build key) = 1) ∧
    (∀ key e, build settings key = .error e → ∀ r ∈ s.requests, r.key = key → ∀ result,
      r.phase = .done result → result = .error e) ∧
    (s.AtRest ∨ ∃ es' s', s.Advance es' s') ∧
    ∀ es' s', s.Advance es' s' → s'.remaining < s.remaining := by
  have hs := h.reached
  refine ⟨fun key guide hguide => ?_, fun key e he r hr hkey result hresult => ?_, hs.locked.exists_advance,
    fun es' s' hadvance => hadvance.remaining_lt⟩
  · have hsucceeds := System.succeeds_of_settings hsettings hguide
    have hlasts := h.lasts hclear hsucceeds
    obtain ⟨hone, hnone⟩ := h.count_build hclear hsucceeds
    refine ⟨fun i j r r' hi hj => hs.builder_unique hlasts hi hj, ?_, ?_⟩
    · by_cases hmade : s.Made key
      · exact (hone hmade).le
      · exact (hnone hmade).le.trans zero_le_one
    · by_cases hbuilt : ∃ id g, s.cache.key? id = some key ∧ s.cache.guide? id = some g
      · -- all calls that are done have the guide of the one slot of the key
        obtain ⟨id, g, hid, hg⟩ := hbuilt
        have hbuild := hs.sourced.build_eq hsettings hid hg
        refine ⟨g, Except.ok.inj (hbuild.symm.trans hguide), fun r hr hkey result hresult => ?_⟩
        obtain ⟨id', g', rfl, hid', hg'⟩ := hs.exists_of_done hsucceeds hr hkey hresult
        obtain rfl := hlasts.unique hs.wellFormed hid hid'
        exact ⟨congrArg _ (Option.some.inj (hg'.symm.trans hg)), hone (Or.inl ⟨id, g, hid, hg⟩)⟩
      · refine ⟨{ serial := 0, guide }, rfl, fun r hr hkey result hresult => ?_⟩
        obtain ⟨id, g, -, hid, hg⟩ := hs.exists_of_done hsucceeds hr hkey hresult
        exact absurd ⟨id, g, hid, hg⟩ hbuilt
  · cases result with
    | error e' =>
      have he' := hs.sourced.error r hr e' (by rw [hresult]; rfl)
      rw [hsettings r hr, hkey, he] at he'
      exact congrArg Except.error (Except.error.inj he').symm
    | ok g =>
      obtain ⟨id, hid, hg⟩ := hs.sourced.guide r hr g (by rw [hresult]; rfl)
      have hbuild := hs.sourced.build_eq hsettings (hkey ▸ hid) hg
      rw [he] at hbuild
      cases hbuild

/-- Two calls may be made before either takes a step. -/
theorem exists_run_pair (settings : Settings) (key : Key) :
    ∃ es s result result', (System.initial none).Run es s ∧ .clear ∉ es ∧ s.lookups = [] ∧
      s.requests = [{ settings, key, phase := .done result }, { settings, key, phase := .done result' }] := by
  have hnil : (System.initial none).Run [] (System.initial none) := .nil
  have hstart := (hnil.step (.request settings key)).step (.request settings key)
  obtain ⟨es, c, result, hrun, hclear, -⟩ := hstart.alone (i := 0)
    hstart.reached (by simp [System.initial, Phase.holds?]) rfl
  obtain ⟨es', c', result', hrun', hclear', -⟩ := hrun.alone (i := 1)
    hrun.reached (by simp [System.initial, Phase.holds?]) rfl
  exact ⟨es', _, result, result', hrun', fun h => by simpa using hclear (hclear' h), rfl, rfl⟩

/-- The guide that two calls want is built once. -/
theorem single_build_ab :
    ∃ es s g, (System.initial none).Run es s ∧ .clear ∉ es ∧ (∀ r ∈ s.requests, r.settings = {}) ∧
      s.requests.map (·.phase) = [.done (.ok g), .done (.ok g)] ∧
      es.count (.build ⟨"ab", Guide.abVocabulary⟩) = 1 := by
  obtain ⟨guide, hguide⟩ := Guide.ofPattern_ab
  obtain ⟨es, s, result, result', hrun, hclear, -, hrequests⟩ := exists_run_pair {} ⟨"ab", Guide.abVocabulary⟩
  have hsettings : ∀ r ∈ s.requests, r.settings = {} := by simp [hrequests]
  obtain ⟨-, -, g, -, hdone⟩ := (single_build hrun hclear hsettings).1 ⟨"ab", Guide.abVocabulary⟩ guide hguide
  rw [hrequests] at hdone
  obtain ⟨rfl, hcount⟩ := hdone _ (List.mem_cons_self ..) rfl result rfl
  obtain ⟨rfl, -⟩ := hdone _ (List.mem_cons_of_mem _ (List.mem_cons_self ..)) rfl result' rfl
  exact ⟨es, s, g, hrun, hclear, hsettings, by rw [hrequests]; rfl, hcount⟩

end ConstrainedDecoding.SharedCache
