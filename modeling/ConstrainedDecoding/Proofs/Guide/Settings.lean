import ConstrainedDecoding.Proofs.Automaton.Limits
import ConstrainedDecoding.Proofs.Guide.Language
import ConstrainedDecoding.Proofs.Guide.Skipping

/-! What guides have to do with their settings. Limits refuse patterns and do nothing else, and the choice about
empty tokens is seen in the loops of these tokens alone. -/
namespace ConstrainedDecoding.Guide
open Automaton (ByteAutomaton Dfa TooComplex Within)

variable {a : ByteAutomaton} {v : Vocabulary} {options options' : IndexOptions} {s : StateId}
  {settings settings' : Settings} {pattern : String} {g : Guide}

theorem allEdges_congr {v : VocabularyIndex} (h : options'.skipEmptyTokens = options.skipEmptyTokens) :
    allEdges a v options' = allEdges a v options := by
  unfold allEdges
  rw [h]

theorem rows_congr (h : options'.skipEmptyTokens = options.skipEmptyTokens) :
    rows a v options' = rows a v options := by
  unfold rows
  rw [allEdges_congr h]

theorem useful_congr (options options' : IndexOptions) :
    Useful a (allEdges a (.ofVocabulary v) options) s ↔ Useful a (allEdges a (.ofVocabulary v) options') s := by
  have hskipping (o : IndexOptions) : Useful a (allEdges a (.ofVocabulary v) o) s ↔
      Useful a (allEdges a (.ofVocabulary v) (skipping {})) s := by
    cases h : o.skipEmptyTokens with
    | true =>
      have heq : allEdges a (.ofVocabulary v) o = allEdges a (.ofVocabulary v) (skipping {}) := allEdges_congr h
      rw [heq]
    | false =>
      have heq : allEdges a (.ofVocabulary v) o = allEdges a (.ofVocabulary v) (keeping {}) := allEdges_congr h
      rw [heq]
      exact addsLoops_keeping.useful_iff
  rw [hskipping options, hskipping options']

/-- Tables of one automaton, made with two choices about empty tokens. -/
structure SameButLoops (v : Vocabulary) (options options' : IndexOptions) (tables tables' : Tables) : Prop where
  eq : options'.skipEmptyTokens = options.skipEmptyTokens → tables' = tables
  added : options.skipEmptyTokens = true → options'.skipEmptyTokens = false → DifferInLoops v tables tables'
  removed : options.skipEmptyTokens = false → options'.skipEmptyTokens = true → DifferInLoops v tables' tables

theorem rows_of_skip (h : options.skipEmptyTokens = true) : rows a v options = rows a v (skipping {}) := rows_congr h

theorem rows_of_keep (h : options.skipEmptyTokens = false) : rows a v options = rows a v (keeping {}) := rows_congr h

theorem sameButLoops_rows (options options' : IndexOptions) :
    SameButLoops v options options' (.ofRows (rows a v options)) (.ofRows (rows a v options')) where
  eq h := by rw [rows_congr h]
  added h h' := by
    rw [rows_of_skip h, rows_of_keep h']
    exact differInLoops_rows
  removed h h' := by
    rw [rows_of_keep h, rows_of_skip h']
    exact differInLoops_rows

/-- What is done about empty tokens does not decide whether there are tables. -/
theorem ofAutomaton_inStep (a : ByteAutomaton) (v : Vocabulary) (options options' : IndexOptions) :
    InStep (fun _ => False) (SameButLoops v options options')
      (Tables.ofAutomaton a (.ofVocabulary v) options) (Tables.ofAutomaton a (.ofVocabulary v) options') := by
  by_cases hstart : Useful a (allEdges a (.ofVocabulary v) options) a.start
  · have hstart' := (useful_congr options options').mp hstart
    rw [ofAutomaton_eq_ok_iff.mpr ⟨hstart, rfl⟩, ofAutomaton_eq_ok_iff.mpr ⟨hstart', rfl⟩]
    exact .ok (sameButLoops_rows options options')
  · have hstart' := (useful_congr options options').not.mp hstart
    rw [ofAutomaton_eq_error_iff.mpr ⟨hstart, rfl⟩, ofAutomaton_eq_error_iff.mpr ⟨hstart', rfl⟩]
    exact .error _

/-- Guides of one pattern, made with two choices about empty tokens. All but their tables is the same. -/
def Resembles (v : Vocabulary) (options options' : IndexOptions) (g g' : Guide) : Prop :=
  g' = { g with tables := g'.tables } ∧ SameButLoops v options options' g.tables g'.tables

theorem Resembles.dfa {g' : Guide} (h : Resembles v options options' g g') : g'.dfa = g.dfa := by
  rw [h.1]

theorem Resembles.eq {g' : Guide} (h : Resembles v options options' g g')
    (hskip : options'.skipEmptyTokens = options.skipEmptyTokens) : g' = g := by
  rw [h.1, h.2.eq hskip]

theorem ofDfa_inStep (pattern : String) (d : Dfa) (v : Vocabulary) (options options' : IndexOptions) :
    InStep (fun _ => False) (Resembles v options options') (ofDfa pattern d (.ofVocabulary v) options)
      (ofDfa pattern d (.ofVocabulary v) options') :=
  (ofAutomaton_inStep d v options options').bind fun _ _ _ h => .ok ⟨rfl, h⟩

/-- A pattern that has a guide with some settings is refused with others for what it costs, or has a guide that
resembles it. -/
theorem ofPattern_inStep {g' : Guide} (h : Guide.ofPattern settings' pattern (.ofVocabulary v) = .ok g')
    (settings : Settings) : InStep TooComplex (Resembles v settings.index settings'.index)
      (Guide.ofPattern settings pattern (.ofVocabulary v)) (.ok g') := by
  obtain ⟨d, hd, hg⟩ := bind_eq_ok_iff.mp h
  have hstep := Automaton.compile_inStep hd settings.compile
  rw [← hg, ← ok_bind d fun d => ofDfa pattern d (.ofVocabulary v) settings'.index]
  refine hstep.bind fun d _ _ heq => ?_
  rw [← heq]
  exact (ofDfa_inStep pattern d v settings.index settings'.index).mono nofun

theorem resembles_of_ofPattern {g' : Guide} (h : Guide.ofPattern settings pattern (.ofVocabulary v) = .ok g)
    (h' : Guide.ofPattern settings' pattern (.ofVocabulary v) = .ok g') :
    Resembles v settings.index settings'.index g g' := by
  have hstep := ofPattern_inStep h' settings
  rw [h] at hstep
  cases hstep with
  | ok hresembles => exact hresembles

theorem tooComplex_of_ofPattern {e : Error} (h : Guide.ofPattern settings pattern (.ofVocabulary v) = .error e)
    (h' : Guide.ofPattern settings' pattern (.ofVocabulary v) = .ok g) : TooComplex e := by
  have hstep := ofPattern_inStep h' settings
  rw [h] at hstep
  cases hstep with
  | refused hcomplex => exact hcomplex

/-- Larger limits do not refuse a pattern that has a guide. -/
theorem exists_ofPattern_of_within {g' : Guide} (hlimits : Within settings'.compile settings.compile)
    (h : Guide.ofPattern settings' pattern (.ofVocabulary v) = .ok g') :
    ∃ g, Guide.ofPattern settings pattern (.ofVocabulary v) = .ok g ∧
      Resembles v settings'.index settings.index g' g := by
  have hstep : InStep TooComplex (Resembles v settings'.index settings.index)
      (Guide.ofPattern settings' pattern (.ofVocabulary v)) (Guide.ofPattern settings pattern (.ofVocabulary v)) := by
    refine (hlimits.compile_inStep pattern).bind fun d _ _ heq => ?_
    rw [← heq]
    exact (ofDfa_inStep pattern d v settings'.index settings.index).mono nofun
  rw [h] at hstep
  exact hstep.exists_ok

end ConstrainedDecoding.Guide
