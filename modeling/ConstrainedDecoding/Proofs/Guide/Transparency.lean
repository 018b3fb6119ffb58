import ConstrainedDecoding.Generation.Generator
import ConstrainedDecoding.Proofs.Guide.Recency
import ConstrainedDecoding.Proofs.Guide.Settings

/-! What a cache gives is what some build gave, with the settings of the call or of an earlier one. -/
namespace ConstrainedDecoding.GuideCache
open Automaton (TooComplex Within)

variable {c : GuideCache} {r : Recency} {key : Key} {g : BuiltGuide} {calls : List Call} {call : Call}
  {settings : Settings} {pattern : String} {v : VocabularyIndex}

/-- Whether one of some calls asks for a guide and builds it, if nothing is kept. -/
def Builds (calls : List Call) (key : Key) (guide : Guide) : Prop :=
  ∃ settings, .getOrBuild settings key.pattern (.ofVocabulary key.vocabulary) ∈ calls ∧
    Guide.ofPattern settings key.pattern (.ofVocabulary key.vocabulary) = .ok guide

theorem builds_keyOf (hv : v = .ofVocabulary v.vocabulary) {guide : Guide} :
    Builds calls (keyOf pattern v) guide ↔ ∃ settings, .getOrBuild settings pattern v ∈ calls ∧
      Guide.ofPattern settings pattern v = .ok guide := by
  have hindex : VocabularyIndex.ofVocabulary (keyOf pattern v).vocabulary = v := hv.symm
  unfold Builds
  rw [hindex]
  rfl

namespace Recency

def Sourced (r : Recency) (calls : List Call) : Prop :=
  ∀ key g, (key, g) ∈ r.entries → Builds calls key g.guide

namespace Sourced

theorem find? (h : r.Sourced calls) (hg : r.find? key = some g) : Builds calls key g.guide := by
  obtain ⟨entry, hentry, rfl⟩ := Option.map_eq_some_iff.mp hg
  obtain rfl : entry.1 = key := by simpa using List.find?_some hentry
  exact h _ _ (List.mem_of_find?_eq_some hentry)

theorem use (h : r.Sourced calls) (hg : Builds calls key g.guide) : (r.use key g).Sourced calls := by
  intro k g' hmem
  cases List.mem_cons.mp hmem with
  | inl heq =>
    cases heq
    exact hg
  | inr hmem => exact h k g' (List.mem_of_mem_filter hmem)

theorem cut (h : r.Sourced calls) : r.cut.Sourced calls := by
  unfold Recency.cut
  split
  · exact h
  · exact fun k g hmem => h k g (List.mem_of_mem_take hmem)

theorem getOrElse (h : r.Sourced calls) {build : Unit → Except Error Guide}
    (hbuild : ∀ guide, build () = .ok guide → Builds calls key guide) :
    (r.getOrElse key build).2.Sourced calls := by
  unfold Recency.getOrElse
  cases hfind : r.find? key with
  | some g => exact h.use (h.find? hfind)
  | none =>
    cases hguide : build () with
    | error e => exact h
    | ok guide =>
      have hbuilt : Recency.Sourced { r with built := r.built ++ [guide] } calls := h
      exact (hbuilt.use (hbuild guide hguide)).cut

theorem perform (h : r.Sourced calls) (hmem : call ∈ calls) (hcall : call.Indexed) :
    (r.perform call).2.Sourced calls := by
  cases call with
  | getOrBuild settings pattern v =>
    have hbuild (guide : Guide) (hguide : Guide.ofPattern settings pattern v = .ok guide) :
        Builds calls (keyOf pattern v) guide := (builds_keyOf hcall).mpr ⟨settings, hmem, hguide⟩
    show (r.getOrElse _ fun _ => Guide.ofPattern settings pattern v).2.Sourced calls
    exact h.getOrElse hbuild
  | get pattern v =>
    show (r.get _).2.Sourced calls
    unfold Recency.get
    cases hfind : r.find? (keyOf pattern v) with
    | some g => exact h.use (h.find? hfind)
    | none => exact h
  | clear => exact fun k g hmem => nomatch hmem

theorem run (h : r.Sourced calls) {next : List Call} (hnext : next ⊆ calls)
    (hcalls : ∀ call ∈ calls, call.Indexed) : (GuideCache.run Recency.perform r next).2.Sourced calls := by
  induction next generalizing r with
  | nil => exact h
  | cons call next ih =>
    obtain ⟨hmem, hnext⟩ := List.cons_subset.mp hnext
    exact ih (h.perform hmem (hcalls call hmem)) hnext

end Sourced

end Recency

namespace Represents

theorem getOrBuild_of_none (h : c.Represents r) (hnone : c.built? (keyOf pattern v) = none)
    (settings : Settings) :
    (c.getOrBuild settings pattern v).1.map (·.guide) = Guide.ofPattern settings pattern v := by
  rw [h.built?] at hnone
  rw [getOrBuild, (h.getOrElse _ _).1, Recency.getOrElse, hnone]
  cases Guide.ofPattern settings pattern v <;> rfl

theorem getOrBuild_of_some (h : c.Represents r) (hsourced : r.Sourced calls)
    (hv : v = .ofVocabulary v.vocabulary) (hsome : c.built? (keyOf pattern v) = some g) (settings : Settings) :
    (c.getOrBuild settings pattern v).1 = .ok g ∧ ∃ earlier, .getOrBuild earlier pattern v ∈ calls ∧
      Guide.ofPattern earlier pattern v = .ok g.guide := by
  rw [h.built?] at hsome
  refine ⟨?_, (builds_keyOf hv).mp (hsourced.find? hsome)⟩
  rw [getOrBuild, h.getOrElse_of_find?_eq_some hsome]

end Represents

/-- What a call gives after others, against what a build with its settings gives. -/
structure AsBuilt (calls : List Call) (settings : Settings) (pattern : String) (v : VocabularyIndex)
    (kept : Option BuiltGuide) (result : Except Error BuiltGuide) : Prop where
  /-- Without a guide that is kept, it is the same. -/
  built : kept = none → result.map (·.guide) = Guide.ofPattern settings pattern v
  /-- A guide that is kept was built by an earlier call. A build would give one that resembles it, or would be
  refused because some limit is lower than it was then. -/
  found : ∀ g, kept = some g → result = .ok g ∧ ∃ earlier, .getOrBuild earlier pattern v ∈ calls ∧
    Guide.ofPattern earlier pattern v = .ok g.guide ∧
    (∀ plain, Guide.ofPattern settings pattern v = .ok plain →
      Guide.Resembles v.vocabulary settings.index earlier.index plain g.guide) ∧
    ∀ e, Guide.ofPattern settings pattern v = .error e → TooComplex e ∧ ¬ Within earlier.compile settings.compile
  error : ∀ e, result = .error e → Guide.ofPattern settings pattern v = .error e
  automaton : ∀ plain, Guide.ofPattern settings pattern v = .ok plain → ∃ g, result = .ok g ∧ g.guide.dfa = plain.dfa
  tables : (∀ earlier, .getOrBuild earlier pattern v ∈ calls →
      earlier.index.skipEmptyTokens = settings.index.skipEmptyTokens) →
    ∀ plain, Guide.ofPattern settings pattern v = .ok plain → result.map (·.guide) = .ok plain
  same : (∀ earlier, .getOrBuild earlier pattern v ∈ calls → Within earlier.compile settings.compile ∧
      earlier.index.skipEmptyTokens = settings.index.skipEmptyTokens) →
    result.map (·.guide) = Guide.ofPattern settings pattern v

namespace AsBuilt

variable {result : Except Error BuiltGuide}

theorem of_built (h : result.map (·.guide) = Guide.ofPattern settings pattern v) :
    AsBuilt calls settings pattern v none result where
  built _ := h
  found g hg := nomatch hg
  error e he := by
    rw [← h, he]
    rfl
  automaton plain hplain := by
    rw [hplain] at h
    obtain ⟨g, hg, rfl⟩ := map_eq_ok_iff.mp h
    exact ⟨g, hg, rfl⟩
  tables _ plain hplain := h.trans hplain
  same _ := h

theorem of_found {earlier : Settings} (hv : v = .ofVocabulary v.vocabulary)
    (hmem : .getOrBuild earlier pattern v ∈ calls) (h : Guide.ofPattern earlier pattern v = .ok g.guide) :
    AsBuilt calls settings pattern v (some g) (.ok g) := by
  obtain ⟨w, rfl⟩ : ∃ w, v = .ofVocabulary w := ⟨_, hv⟩
  have hresembles (plain : Guide) (hplain : Guide.ofPattern settings pattern (.ofVocabulary w) = .ok plain) :
      Guide.Resembles w settings.index earlier.index plain g.guide := Guide.resembles_of_ofPattern hplain h
  constructor
  case built => exact nofun
  case error => exact nofun
  case found =>
    rintro _ ⟨⟩
    refine ⟨rfl, earlier, hmem, h, hresembles, fun e he => ⟨Guide.tooComplex_of_ofPattern he h, fun hlimits => ?_⟩⟩
    -- limits that are no lower than before would let the pattern pass
    obtain ⟨plain, hplain, -⟩ := Guide.exists_ofPattern_of_within hlimits h
    rw [he] at hplain
    cases hplain
  case automaton => exact fun plain hplain => ⟨g, rfl, (hresembles plain hplain).dfa⟩
  case tables =>
    intro hskip plain hplain
    exact congrArg Except.ok ((hresembles plain hplain).eq (hskip earlier hmem))
  case same =>
    intro hsame
    obtain ⟨hlimits, hskip⟩ := hsame earlier hmem
    obtain ⟨plain, hplain, -⟩ := Guide.exists_ofPattern_of_within hlimits h
    rw [hplain]
    exact congrArg Except.ok ((hresembles plain hplain).eq hskip)

end AsBuilt

theorem Represents.asBuilt (h : c.Represents r) (hsourced : r.Sourced calls)
    (hv : v = .ofVocabulary v.vocabulary) (settings : Settings) (pattern : String) :
    AsBuilt calls settings pattern v (c.built? (keyOf pattern v)) (c.getOrBuild settings pattern v).1 := by
  cases hbuilt : c.built? (keyOf pattern v) with
  | none => exact .of_built (h.getOrBuild_of_none hbuilt settings)
  | some g =>
    obtain ⟨hresult, earlier, hearlier, hguide⟩ := h.getOrBuild_of_some hsourced hv hbuilt settings
    rw [hresult]
    exact .of_found hv hearlier hguide

/-- What a cache gives after some calls, one after another. A guide that is not kept is what a build with
the settings of the call gives. A guide that is kept was built with the settings of an earlier call for the
same pattern and vocabulary, which the key of the cache does not show. It still has the automaton that a build
gives if the limits of the call let the pattern pass, and the tables as well if both calls do the same about
empty tokens. Generators get their guides in the same way. -/
theorem getOrBuild_of_run (layout : Layout) (options : CacheOptions) {calls : List Call}
    (hcalls : ∀ call ∈ calls, call.Indexed) (settings : Settings) (pattern : String) {v : VocabularyIndex}
    (hv : v = .ofVocabulary v.vocabulary) :
    ∃ c result after, (run perform (empty layout options) calls).2 = c ∧
      c.getOrBuild settings pattern v = (result, after) ∧
      AsBuilt calls settings pattern v (c.built? (keyOf pattern v)) result ∧
      ∀ backend : Backend, backend.hasLogits →
        Generator.ofPattern c settings backend pattern v = (result.map fun g =>
          { backend, adapter := Generator.adapterOf backend, guide := g, processor := .ofGuide g.guide }, after) := by
  obtain ⟨-, h⟩ := run_represents (represents_empty layout options) calls
  have hempty : (Recency.empty options).Sourced calls := by simp [Recency.Sourced, Recency.empty]
  have hsourced := hempty.run (List.Subset.refl _) hcalls
  generalize (run perform (empty layout options) calls).2 = c at h ⊢
  have hbuilt := h.asBuilt hsourced hv settings pattern
  cases hcall : c.getOrBuild settings pattern v with
  | mk result after =>
    rw [hcall] at hbuilt
    refine ⟨c, result, after, rfl, hcall, hbuilt, fun backend hlogits => ?_⟩
    unfold Generator.ofPattern
    rw [if_pos hlogits, hcall]
    cases result <;> rfl

/-- A second call with the settings of the first. -/
theorem getOrBuild_of_run_ab :
    ∃ g c result after, Guide.ofPattern {} "ab" (.ofVocabulary Guide.abVocabulary) = .ok g ∧
      (run perform (empty .standard {}) [.getOrBuild {} "ab" (.ofVocabulary Guide.abVocabulary)]).2 = c ∧
      c.getOrBuild {} "ab" (.ofVocabulary Guide.abVocabulary) = (result, after) ∧
      result.map (·.guide) = .ok g := by
  obtain ⟨g, hg⟩ := Guide.ofPattern_ab
  have hindexed : ∀ call ∈ [Call.getOrBuild {} "ab" (.ofVocabulary Guide.abVocabulary)], call.Indexed :=
    List.forall_mem_singleton.mpr rfl
  obtain ⟨c, result, after, hc, hcall, hbuilt, -⟩ := getOrBuild_of_run .standard {} hindexed {} "ab"
    (v := .ofVocabulary Guide.abVocabulary) rfl
  refine ⟨g, c, result, after, hg, hc, hcall, hbuilt.tables (fun earlier hearlier => ?_) g hg⟩
  cases List.mem_singleton.mp hearlier
  rfl

/-- A second call gets the guide of the first, though with its limit there would be none, or though with its choice
about empty tokens the empty token would not be allowed. -/
theorem getOrBuild_ne_ofPattern_ab :
    ∃ c g, (run perform (empty .standard {}) [.getOrBuild {} "ab" (.ofVocabulary Guide.abVocabulary)]).2 = c ∧
      (c.getOrBuild { compile := { patternLength := 1 } } "ab" (.ofVocabulary Guide.abVocabulary)).1 = .ok g ∧
      Guide.ofPattern { compile := { patternLength := 1 } } "ab" (.ofVocabulary Guide.abVocabulary) =
        .error (.tooComplex .patternLength 1) ∧
      (c.getOrBuild { index := { skipEmptyTokens := true } } "ab" (.ofVocabulary Guide.abVocabulary)).1 = .ok g ∧
      3 ∈ g.guide.allowedTokens g.guide.initial ∧
      ∃ plain, Guide.ofPattern { index := { skipEmptyTokens := true } } "ab" (.ofVocabulary Guide.abVocabulary) =
        .ok plain ∧ 3 ∉ plain.allowedTokens plain.initial := by
  obtain ⟨g, hg⟩ := Guide.ofPattern_ab
  obtain ⟨-, h⟩ := run_represents (represents_empty .standard {})
    [.getOrBuild {} "ab" (.ofVocabulary Guide.abVocabulary)]
  have hkept : (run Recency.perform (.empty {}) [.getOrBuild {} "ab" (.ofVocabulary Guide.abVocabulary)]).2.find?
      (keyOf "ab" (.ofVocabulary Guide.abVocabulary)) = some { serial := 0, guide := g } := by
    simp [run, Recency.perform, Recency.getOrElse, Recency.find?, Recency.empty, Recency.use, Recency.cut, hg]
  have hempty : Guide.abVocabulary.IsEmptyText 3 := ⟨⟨[], rfl⟩, rfl⟩
  have hlimits : Within ({} : Settings).compile ({ index := { skipEmptyTokens := true } } : Settings).compile := by
    constructor <;> exact le_rfl
  obtain ⟨plain, hplain, hresembles⟩ := Guide.exists_ofPattern_of_within hlimits hg
  have hskips := (hresembles.2.removed rfl rfl).skips plain.initial 3 hempty
  have hfor := (Guide.ofPattern_eq_ok hg).2
  have hstep : g.advance g.initial 3 = .ok g.initial :=
    hfor.advance_eq_ok_iff.mpr (.text hfor.live_initial ⟨⟨hempty.1, by simp⟩, rfl⟩ hfor.live_initial)
  refine ⟨_, { serial := 0, guide := g }, rfl, ?_, Guide.ofPattern_of_tooLong (by decide) _, ?_,
    hfor.mem_allowedTokens.mpr ⟨_, hstep⟩, plain, hplain, hskips⟩
  · rw [getOrBuild, h.getOrElse_of_find?_eq_some hkept]
  · rw [getOrBuild, h.getOrElse_of_find?_eq_some hkept]

end ConstrainedDecoding.GuideCache
