import ConstrainedDecoding.Proofs.SharedCache.SingleBuild

/-! Guides that were handed out. A guide that is found in the table stays there, but a call that fails may
take a slot out of the table while another call is about to build for it. -/
namespace ConstrainedDecoding.SharedCache

open GuideCache (Key)

variable {c c' : SharedCache} {key k : Key} {id slot : SlotId} {p p' : Phase} {s s' old : System}
  {es es' : List Event} {b : Except Error Guide} {g : BuiltGuide} {settings settings' : Settings} {e : Error}
  {guide : Guide}

/-! ### Lists of calls that grow at their ends -/

section Lists

variable {α : Type} {l : List α} {n i : ℕ} {x y : α} {P : α → Prop}

theorem forall_mem_drop_set (h : ∀ a ∈ l.drop n, P a) (hx : l[i]? = some x) (hxy : P x → P y) :
    ∀ a ∈ (l.set i y).drop n, P a := by
  rw [List.drop_set]
  split
  · exact h
  · have hx' : (l.drop n)[i - n]? = some x := by
      rw [List.getElem?_drop, Nat.add_sub_cancel' (by omega), hx]
    exact forall_mem_set h (hxy (h x (List.mem_of_getElem? hx')))

theorem forall_mem_drop_concat (h : ∀ a ∈ l.drop n, P a) (hx : P x) : ∀ a ∈ (l ++ [x]).drop n, P a := by
  rw [List.drop_append]
  refine List.forall_mem_append.mpr ⟨h, fun a ha => ?_⟩
  rw [List.mem_singleton.mp (List.mem_of_mem_drop ha)]
  exact hx

end Lists

/-! ### Guides in the table -/

structure Keeps (c : SharedCache) (key : Key) (id : SlotId) (g : BuiltGuide) : Prop where
  mem : id ∈ c.table
  key : c.key? id = some key
  guide : c.guide? id = some g

theorem Phase.Step.keeps (h : p.Step k b c c' p') (hc : c.Valid)
    (hown : ∀ id, p.slot? = some id → c.key? id = some k) (hcapacity : c.capacity = none)
    (hkeeps : c.Keeps key id g) : c'.Keeps key id g := by
  refine ⟨?_, h.extends.key hkeeps.key, h.extends.guide hkeeps.guide⟩
  have hmem := hkeeps.mem
  cases h with
  | enter => exact mem_table_enter.mpr (Or.inr hmem)
  | @discard slot e =>
    refine (mem_table_discard hc (hown slot rfl)).mpr ⟨hmem, fun hslot => ?_⟩
    have hnone := hslot.1 ▸ hslot.2
    rw [hkeeps.guide] at hnone
    cases hnone
  | evict => rwa [evict_of_capacity hcapacity]
  | _ => exact hmem

theorem System.Move.keeps (h : s.Move s' es) (hs : s.WellFormed) (hcapacity : s.cache.capacity = none)
    (hclear : .clear ∉ es) (hkeeps : s.cache.Keeps key id g) : s'.cache.Keeps key id g := by
  cases h with
  | @advance i r phase hr hrequests hstep =>
    exact hstep.keeps hs.valid (hs.own r (List.mem_of_getElem? hr)) hcapacity hkeeps
  | start hr hrequests hcache => rwa [hcache]
  | clear hrequests hcache => exact absurd (List.mem_singleton_self _) hclear
  | quiet hrequests hcache =>
    exact ⟨hcache.table.mem_iff.mpr hkeeps.mem, (hcache.key id).trans hkeeps.key,
      (hcache.guide id).trans hkeeps.guide⟩

/-! ### Calls that find them -/

/-- What a call has come to that finds the guide of a slot. -/
def Phase.Sees (id : SlotId) (g : BuiltGuide) : Phase → Prop
  | .entering => True
  | .ticking slot none | .stamping slot _ none | .checking slot => slot = id
  | .done result => result = .ok g
  | _ => False

def Lookup.Phase.Sees (id : SlotId) (g : BuiltGuide) : Lookup.Phase → Prop
  | .looking => True
  | .reading slot => slot = id
  | .ticking slot g' | .stamping slot _ g' => slot = id ∧ g' = g
  | .done guide? => guide? = some g

theorem Phase.Step.sees (h : p.Step key b c c' p') (hslot : c.slot? key = some id)
    (hguide : c.guide? id = some g) (hp : p.Sees id g) : p'.Sees id g := by
  cases h with
  | enter => exact (enter_of_some hslot).2
  | @tick slot built? =>
    cases built? with
    | none => exact hp
    | some g' => exact hp.elim
  | stampWanted => exact hp
  | hit hsome =>
    obtain rfl : _ = id := hp
    exact congrArg Except.ok (Option.some.inj (hsome.symm.trans hguide))
  | miss hnone =>
    obtain rfl : _ = id := hp
    rw [hguide] at hnone
    cases hnone
  | _ => exact hp.elim

theorem Lookup.Phase.Step.sees {p p' : Lookup.Phase} (h : p.Step key c c' p') (hslot : c.slot? key = some id)
    (hguide : c.guide? id = some g) (hp : p.Sees id g) : p'.Sees id g := by
  cases h with
  | absent hnone =>
    rw [hslot] at hnone
    cases hnone
  | present hsome => exact Option.some.inj (hsome.symm.trans hslot)
  | unbuilt hnone =>
    obtain rfl : _ = id := hp
    rw [hguide] at hnone
    cases hnone
  | built hsome =>
    obtain rfl : _ = id := hp
    exact ⟨rfl, Option.some.inj (hsome.symm.trans hguide)⟩
  | tick => exact hp
  | stamp => exact congrArg some hp.2

namespace System

structure Serves (s old : System) (key : Key) (id : SlotId) (g : BuiltGuide) : Prop where
  keeps : s.cache.Keeps key id g
  request : ∀ r ∈ s.requests.drop old.requests.length, r.key = key → r.phase.Sees id g
  lookup : ∀ l ∈ s.lookups.drop old.lookups.length, l.key = key → l.phase.Sees id g

theorem Serves.step (h : s.Serves old key id g) (hs : s.WellFormed) (hcapacity : s.cache.capacity = none)
    (hstep : s.Step es s') (hclear : .clear ∉ es) : s'.Serves old key id g := by
  have hslot := hs.valid.slot?_eq h.keeps.mem h.keeps.key
  refine ⟨hstep.move.keeps hs hcapacity hclear h.keeps, ?_, ?_⟩
  · cases hstep with
    | advance hstep =>
      cases hstep with
      | request hr hstep =>
        exact forall_mem_drop_set h.request hr fun hsees hkey =>
          hstep.sees (hkey ▸ hslot) h.keeps.guide (hsees hkey)
      | lookup => exact h.request
    | request => exact forall_mem_drop_concat h.request fun _ => trivial
    | lookup | clear | arrange => exact h.request
  · cases hstep with
    | advance hstep =>
      cases hstep with
      | request => exact h.lookup
      | lookup hl hstep =>
        exact forall_mem_drop_set h.lookup hl fun hsees hkey =>
          hstep.sees (hkey ▸ hslot) h.keeps.guide (hsees hkey)
    | lookup => exact forall_mem_drop_concat h.lookup fun _ => trivial
    | request | clear | arrange => exact h.lookup

theorem Run.trans {s'' : System} (h : s.Run es s') (h' : s'.Run es' s'') : s.Run (es ++ es') s'' := by
  induction h' with
  | nil => rwa [List.append_nil]
  | step _ hstep ih =>
    rw [← List.append_assoc]
    exact ih.step hstep

/-- Whatever fails, a guide that is in the table is found by all calls from then on. -/
theorem Run.serves (hrun : (initial none).Run es s) (h : s.Run es' s') (hclear : .clear ∉ es')
    (hkeeps : s.cache.Keeps key id g) : s'.Serves s key id g := by
  induction h with
  | nil => exact ⟨hkeeps, by simp, by simp⟩
  | step h hstep ih =>
    obtain ⟨hclear, hclear'⟩ := not_or.mp (mt List.mem_append.mpr hclear)
    have hrun' := hrun.trans h
    exact (ih hclear).step hrun'.reached.wellFormed hrun'.capacity_eq hstep hclear'

end System

/-- A guide that a call has got is kept, as long as no guides are evicted and the cache is not cleared, if its
slot is still in the table. It is there if the builds of all calls that were made for its key so far succeed. All
calls for the key from then on get the guide, and none of them builds it again, whatever fails meanwhile. -/
theorem guide_kept (h : (System.initial none).Run es s) (h' : s.Run es' s') (hclear : .clear ∉ es ++ es')
    (hdone : ∃ r ∈ s.requests, r.key = key ∧ r.phase = .done (.ok g))
    (hkept : s.Succeeds key ∨ ∃ id, s.cache.Keeps key id g) :
    (∀ r ∈ s'.requests.drop s.requests.length, r.key = key →
      r.phase.builds? = none ∧ ∀ result, r.phase = .done result → result = .ok g) ∧
    ∀ l ∈ s'.lookups.drop s.lookups.length, l.key = key →
      ∀ guide?, l.phase = .done guide? → guide? = some g := by
  obtain ⟨hclear, hclear'⟩ := not_or.mp (mt List.mem_append.mpr hclear)
  have hkeeps : ∃ id, s.cache.Keeps key id g := by
    refine hkept.elim (fun hsucceeds => ?_) id
    obtain ⟨r, hr, hkey, hresult⟩ := hdone
    obtain ⟨id, g', heq, hid, hguide⟩ := h.reached.exists_of_done hsucceeds hr hkey hresult
    obtain rfl := Except.ok.inj heq
    exact ⟨id, h.lasts hclear hsucceeds id hid, hid, hguide⟩
  obtain ⟨id, hkeeps⟩ := hkeeps
  have hserves := h.serves h' hclear' hkeeps
  refine ⟨fun r' hr' heq => ?_, fun l hl heq guide? hdone => ?_⟩
  · have hsees := hserves.request r' hr' heq
    constructor
    · cases hphase : r'.phase with
      | building | counting | filling =>
        rw [hphase] at hsees
        exact hsees.elim
      | _ => rfl
    · intro result hdone
      rw [hdone] at hsees
      exact hsees
  · have hsees := hserves.lookup l hl heq
    rw [hdone] at hsees
    exact hsees

/-- After two calls have got a guide, a look-up finds it. -/
theorem guide_kept_ab :
    ∃ es s s' g, (System.initial none).Run es s ∧ .clear ∉ es ∧
      (∃ r ∈ s.requests, r.key = ⟨"ab", Guide.abVocabulary⟩ ∧ r.phase = .done (.ok g)) ∧
      s.Succeeds ⟨"ab", Guide.abVocabulary⟩ ∧ s.Run [] s' ∧
      s'.lookups = [{ key := ⟨"ab", Guide.abVocabulary⟩, phase := .done (some g) }] := by
  obtain ⟨guide, hguide⟩ := Guide.ofPattern_ab
  obtain ⟨es, s, result, result', hrun, hclear, hlookups, hrequests⟩ :=
    exists_run_pair {} ⟨"ab", Guide.abVocabulary⟩
  have hsucceeds : s.Succeeds ⟨"ab", Guide.abVocabulary⟩ :=
    System.succeeds_of_settings (by simp [hrequests]) hguide
  have hmem : { settings := {}, key := ⟨"ab", Guide.abVocabulary⟩, phase := .done result } ∈ s.requests := by
    simp [hrequests]
  obtain ⟨-, g, rfl, -, -⟩ := hrun.reached.exists_of_done hsucceeds hmem rfl rfl
  have hsame : s.Run [] s := .nil
  obtain ⟨c, guide?, hlook, -⟩ := hsame.lookup hrun.reached "ab" (.ofVocabulary Guide.abVocabulary)
  have hkept := (guide_kept hrun hlook (by simpa using hclear) ⟨_, hmem, rfl, rfl⟩ (.inl hsucceeds)).2
  obtain rfl := hkept { key := ⟨"ab", Guide.abVocabulary⟩, phase := .done guide? }
    (by simp [hlookups]; rfl) rfl guide? rfl
  exact ⟨es, s, _, g, hrun, hclear, ⟨_, hmem, rfl, rfl⟩, hsucceeds, hlook, by rw [hlookups]; rfl⟩

/-! ### A guide that is lost -/

theorem Finds.enter_step (h : c.Finds key slot) : Phase.Step key b c .entering c (.ticking slot none) := by
  have hstep : Phase.Step key b c .entering (c.enter key) (.ticking (c.slotFor key) none) := .enter
  obtain ⟨hc, hslot⟩ := enter_of_some h.slot?_eq
  rwa [hc, hslot] at hstep

theorem Finds.slot?_discard (h : c.Finds key slot) (hnone : c.guide? slot = none) :
    (c.discard key slot).slot? key = none := by
  unfold SharedCache.slot?
  refine List.find?_eq_none.mpr fun id hid hkey => ?_
  obtain ⟨hmem, hkept⟩ := (mem_table_discard h.valid h.key).mp hid
  rw [discard_eq] at hkey
  exact hkept ⟨h.valid.unique id hmem slot h.mem ((of_decide_eq_true hkey).trans h.key.symm), hnone⟩

theorem slot?_put (hcapacity : c.capacity = none) : (c.put slot g).slot? key = c.slot? key := by
  have hkey (id : SlotId) : (c.put slot g).key? id = c.key? id := by
    unfold put
    rw [evict_of_capacity (by exact hcapacity), key?_stamp]
    show (((c.lock slot).count.fill slot g).unlock slot).key? id = c.key? id
    rw [key?_unlock, key?_fill]
    exact key?_lock
  have htable : (c.put slot g).table = c.table := by
    unfold put
    rw [evict_of_capacity (by exact hcapacity)]
    rfl
  unfold SharedCache.slot?
  rw [htable]
  simp only [hkey]

structure Unbuilt (c : SharedCache) (slot : SlotId) : Prop where
  guide : c.guide? slot = none
  capacity : c.capacity = none
  builds : c.builds = 0

/-- The first call for a key makes a slot and is about to build. -/
theorem steps_building (key : Key) (b : Except Error Guide) :
    ∃ c slot, Steps (Phase.Step key b) (empty none) .entering c (.building slot) ∧ c.Finds key slot ∧
      c.Unbuilt slot := by
  have henter := Finds.enter (System.wellFormed_initial none).valid key
  have hstamp := henter.stamp ((empty none).enter key).clock
  have hguide : (((empty none).enter key).tick.stamp ((empty none).slotFor key)
      ((empty none).enter key).clock).guide? ((empty none).slotFor key) = none :=
    guide?_stamp.trans (guide?_enter (c := empty none))
  refine ⟨_, _, .cons .enter (.cons .tick (.cons .stampWanted (.cons (.miss hguide) (.cons (.acquire ?_)
    (.cons (.lateMiss (guide?_lock.trans hguide)) .nil))))), hstamp.update fun _ => rfl,
    guide?_lock.trans hguide, rfl, rfl⟩
  exact isLocked_stamp.trans (isLocked_enter (c := empty none))

/-- Another call finds the slot and waits for its lock. -/
theorem Finds.steps_waiting (h : c.Finds key slot) (hc : c.Unbuilt slot) (b : Except Error Guide) :
    ∃ c', Steps (Phase.Step key b) c .entering c' (.waiting slot) ∧ c'.Finds key slot ∧ c'.Unbuilt slot := by
  have hguide : (c.tick.stamp slot c.clock).guide? slot = none := guide?_stamp.trans hc.guide
  exact ⟨_, .cons h.enter_step (.cons .tick (.cons .stampWanted (.cons (.miss hguide) .nil))), h.stamp c.clock,
    hguide, hc.capacity, hc.builds⟩

/-- A call whose build fails gives the lock back and takes the slot out of the table. -/
theorem Finds.steps_discard (h : c.Finds key slot) (hc : c.Unbuilt slot) (e : Error) :
    ∃ c', Steps (Phase.Step key (.error e)) c (.building slot) c' (.done (.error e)) ∧
      c'.slot? key = none ∧ c'.isLocked slot = false ∧ c'.Unbuilt slot := by
  have hunlock : (c.unlock slot).Finds key slot := h.update fun _ => rfl
  have hguide : (c.unlock slot).guide? slot = none := guide?_unlock.trans hc.guide
  refine ⟨_, .cons (.fail rfl) (.cons .releaseFailed (.cons .discard .nil)), hunlock.slot?_discard hguide, ?_, ?_⟩
  · rw [discard_eq]
    show (c.unlock slot).isLocked slot = false
    simp [isLocked_unlock]
  · rw [discard_eq]
    exact ⟨hguide, hc.capacity, hc.builds⟩

/-- If the build of a key fails for one call and succeeds for another, then the guide may be lost: the call
that fails takes the slot out of the table just before the other one fills it. -/
theorem exists_run_lost (hfail : build settings key = .error e) (hbuild : build settings' key = .ok guide) :
    ∃ es s, (System.initial none).Run es s ∧ .clear ∉ es ∧ s.cache.slot? key = none ∧ s.cache.builds = 1 ∧
      s.lookups = [] ∧ s.requests = [{ settings, key, phase := .done (.error e) },
        { settings := settings', key, phase := .done (.ok { serial := 0, guide }) }] := by
  have hnil : (System.initial none).Run [] (System.initial none) := .nil
  have hstart := (hnil.step (.request settings key)).step (.request settings' key)
  obtain ⟨c₁, slot, hsteps₁, hfinds₁, hunbuilt₁⟩ := steps_building key (build settings key)
  obtain ⟨c₂, hsteps₂, hfinds₂, hunbuilt₂⟩ := hfinds₁.steps_waiting hunbuilt₁ (build settings' key)
  obtain ⟨c₃, hsteps₃, hslot₃, hfree₃, hunbuilt₃⟩ := hfinds₂.steps_discard hunbuilt₂ e
  have hsteps₄ : Steps (Phase.Step key (.ok guide)) c₃ (.waiting slot) _ _ :=
    steps_put hfree₃ hunbuilt₃.guide guide
  rw [hunbuilt₃.builds] at hsteps₄
  obtain ⟨es₁, hrun₁, hclear₁⟩ := hstart.steps (i := 0) hsteps₁ rfl rfl
  obtain ⟨es₂, hrun₂, hclear₂⟩ := hrun₁.steps (i := 1) hsteps₂ rfl rfl
  obtain ⟨es₃, hrun₃, hclear₃⟩ := hrun₂.steps (i := 0) (hfail ▸ hsteps₃) rfl rfl
  obtain ⟨es₄, hrun₄, hclear₄⟩ := hrun₃.steps (i := 1) (hbuild ▸ hsteps₄) rfl rfl
  refine ⟨es₄, _, hrun₄, fun h => ?_, (slot?_put hunbuilt₃.capacity).trans hslot₃, ?_, rfl, rfl⟩
  · simpa using hclear₁ (hclear₂ (hclear₃ (hclear₄ h)))
  · show (c₃.put slot _).builds = 1
    unfold put
    rw [evict_of_capacity (by exact hunbuilt₃.capacity)]
    exact congrArg (· + 1) hunbuilt₃.builds

theorem Valid.getOrElse_of_slot?_eq_none (hc : c.Valid) (hslot : c.slot? key = none) (guide : Guide) :
    (c.view.getOrElse key fun _ => .ok guide).1 = .ok { serial := c.builds, guide } := by
  have henter := Finds.enter hc key
  obtain ⟨hc', hslotFor⟩ := enter_of_none hslot
  have hnone : c.guide? (c.slotFor key) = none := by simp [hslotFor, guide?]
  have hview := henter.touch
  rw [view_enter hc] at hview
  have hbuilt := (henter.stamp (c.enter key).clock).built?_eq.trans
    (guide?_stamp.trans (guide?_enter.trans hnone))
  rw [hview] at hbuilt
  unfold GuideCache.getOrElse
  simp only [hbuilt]
  rw [← hview, hc']
  rfl

/-- A guide that a call has got is not found, and another call for it builds it again. -/
theorem guide_lost :
    ∃ es s g, (System.initial none).Run es s ∧ .clear ∉ es ∧
      (∃ r ∈ s.requests, r.key = ⟨"ab", Guide.abVocabulary⟩ ∧ r.phase = .done (.ok g)) ∧ s.lookups = [] ∧
      (∃ s', s.Run [] s' ∧ s'.lookups = [{ key := ⟨"ab", Guide.abVocabulary⟩, phase := .done none }]) ∧
      ∃ es' s' g', s.Run es' s' ∧ .clear ∉ es' ∧ g' ≠ g ∧ s'.requests = s.requests ++
        [{ settings := {}, key := ⟨"ab", Guide.abVocabulary⟩, phase := .done (.ok g') }] := by
  obtain ⟨guide, hguide⟩ := Guide.ofPattern_ab
  have hfail : build { compile := { patternLength := 0 } } ⟨"ab", Guide.abVocabulary⟩ =
      .error (.tooComplex .patternLength 0) := Guide.ofPattern_of_tooLong (by decide) _
  obtain ⟨es, s, hrun, hclear, hslot, hbuilds, hlookups, hrequests⟩ := exists_run_lost hfail hguide
  refine ⟨es, s, { serial := 0, guide }, hrun, hclear, ?_, hlookups, ?_, ?_⟩
  · rw [hrequests]
    exact ⟨_, List.mem_cons_of_mem _ (List.mem_cons_self ..), rfl, rfl⟩
  · have hlook := (System.Run.nil.step (.lookup ⟨"ab", Guide.abVocabulary⟩)).lookup_steps (i := 0)
      (.cons (.absent hslot) .nil) rfl (by rw [hlookups]; rfl)
    exact ⟨_, hlook, by rw [hlookups]; rfl⟩
  · have hsame : s.Run [] s := .nil
    obtain ⟨es', c', result, hrun', hclear', hresult⟩ := hsame.request hrun.reached
      (by simp [hrequests, Phase.holds?]) {} ⟨"ab", Guide.abVocabulary⟩
    have hbuild := congrArg Prod.fst hresult
    rw [show build {} ⟨"ab", Guide.abVocabulary⟩ = .ok guide from hguide,
      hrun.reached.wellFormed.valid.getOrElse_of_slot?_eq_none hslot] at hbuild
    obtain rfl : result = .ok { serial := s.cache.builds, guide } := hbuild
    refine ⟨es', _, { serial := s.cache.builds, guide }, hrun', fun h => by simpa using hclear' h, ?_, rfl⟩
    rw [hbuilds]
    intro heq
    cases congrArg BuiltGuide.serial heq

end ConstrainedDecoding.SharedCache
