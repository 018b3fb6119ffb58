import ConstrainedDecoding.Proofs.Guide.Advance
import Mathlib

/-! What guides let pass. From a live state, text passes when the automaton reads it into a live state,
however it is cut into tokens. -/
namespace ConstrainedDecoding.Guide
open Automaton (Dfa Nfa)

variable {d : Dfa} {v : Vocabulary} {options : IndexOptions} {s s' : StateId} {g : Guide}

def advanceAll (g : Guide) (s : StateId) (ts : List TokenId) : Except Error StateId :=
  ts.foldlM g.advance s

@[simp] theorem advanceAll_nil : g.advanceAll s [] = .ok s' ↔ s = s' := by
  simp [advanceAll]

theorem advanceAll_cons {t : TokenId} {ts : List TokenId} :
    g.advanceAll s (t :: ts) = .ok s' ↔ ∃ u, g.advance s t = .ok u ∧ g.advanceAll u ts = .ok s' := by
  simp [advanceAll]

theorem advanceAll_append {ts us : List TokenId} : g.advanceAll s (ts ++ us) = .ok s' ↔
    ∃ u, g.advanceAll s ts = .ok u ∧ g.advanceAll u us = .ok s' := by
  simp [advanceAll, List.foldlM_append]

theorem advanceAll_concat {ts : List TokenId} {t : TokenId} : g.advanceAll s (ts ++ [t]) = .ok s' ↔
    ∃ u, g.advanceAll s ts = .ok u ∧ g.advance u t = .ok s' := by
  simp [advanceAll_append, advanceAll_cons]

/-- What tokens of text lead to from a live state is live, if they can be completed there. -/
theorem Live.of_spells {ts : List TokenId} (h : Live d v options s) (hts : Spells d v options s ts s')
    (hs' : ∃ us u, Spells d v options s' us u ∧ d.isAccepting u) : Live d v options s' := by
  obtain ⟨us, hus⟩ := h.reached
  exact ⟨⟨us ++ ts, hus.append hts⟩, hs'⟩

namespace IsFor

theorem advanceAll_of_spells (h : g.IsFor v options) {ts : List TokenId}
    (hs : Live g.dfa v options s) (hts : Spells g.dfa v options s ts s')
    (hs' : Live g.dfa v options s') : g.advanceAll s ts = .ok s' := by
  induction ts generalizing s with
  | nil => exact advanceAll_nil.mpr (spells_nil.mp hts)
  | cons t ts ih =>
    obtain ⟨u, hu, hts⟩ := spells_cons.mp hts
    obtain ⟨us, w, hus, hw⟩ := hs'.completes
    have hlive : Live g.dfa v options u :=
      hs.of_spells (spells_cons.mpr ⟨u, hu, spells_nil.mpr rfl⟩) ⟨ts ++ us, w, hts.append hus, hw⟩
    exact advanceAll_cons.mpr ⟨u, h.advance_eq_ok_iff.mpr (.text hs hu hlive), ih hlive hts⟩

/-- Before the end of the sequence, only text passes, and live states lead to live states. -/
theorem spells_of_advanceAll (h : g.IsFor v options) {ts : List TokenId} (hs : Live g.dfa v options s)
    (heos : v.eos ∉ ts) (hts : g.advanceAll s ts = .ok s') :
    Spells g.dfa v options s ts s' ∧ Live g.dfa v options s' := by
  induction ts generalizing s with
  | nil =>
    obtain rfl := advanceAll_nil.mp hts
    exact ⟨spells_nil.mpr rfl, hs⟩
  | cons t ts ih =>
    obtain ⟨u, hu, hts⟩ := advanceAll_cons.mp hts
    rw [List.mem_cons, not_or] at heos
    obtain ⟨-, hlead, hlive⟩ := (h.advance_eq_ok_iff.mp hu).of_ne_eos (Ne.symm heos.1)
    obtain ⟨hspells, hs'⟩ := ih hlive heos.2 hts
    exact ⟨spells_cons.mpr ⟨u, hlead, hspells⟩, hs'⟩

theorem advanceAll_iff_spells (h : g.IsFor v options) {ts : List TokenId} (hs : Live g.dfa v options s)
    (heos : v.eos ∉ ts) :
    g.advanceAll s ts = .ok s' ↔ Spells g.dfa v options s ts s' ∧ Live g.dfa v options s' :=
  ⟨h.spells_of_advanceAll hs heos, fun ⟨hts, hs'⟩ => h.advanceAll_of_spells hs hts hs'⟩

theorem advance_terminal (h : g.IsFor v options) {t : TokenId} :
    g.advance g.dfa.size t = .ok s' ↔ t = v.eos ∧ s' = g.dfa.size := by
  rw [h.advance_eq_ok_iff]
  constructor
  · intro hstep
    have hlt {s : StateId} (hs : Live g.dfa v options s) := hs.lt h.wellFormed
    by_cases ht : t = v.eos
    · subst ht
      exact ⟨rfl, hstep.of_eos⟩
    · exact absurd (hlt (hstep.of_ne_eos ht).1) (lt_irrefl _)
  · rintro ⟨rfl, rfl⟩
    exact .again

theorem advance_eos (h : g.IsFor v options) (hs : Live g.dfa v options s) :
    g.advance s v.eos = .ok s' ↔ g.dfa.isAccepting s ∧ s' = g.dfa.size := by
  rw [h.advance_eq_ok_iff]
  constructor
  · intro hstep
    refine ⟨?_, hstep.of_eos⟩
    cases hstep with
    | text _ ht => exact absurd rfl (Vocabulary.ne_eos_of_isText ht.1.1)
    | stop _ ha => exact ha
    | again => exact absurd (hs.lt h.wellFormed) (lt_irrefl _)
  · rintro ⟨ha, rfl⟩
    exact .stop hs ha

theorem ends_of_spells (h : g.IsFor v options) {ts : List TokenId} (hs : Live g.dfa v options s)
    (hts : Spells g.dfa v options s ts s') (ha : g.dfa.isAccepting s') :
    g.advanceAll s (ts ++ [v.eos]) = .ok g.dfa.size := by
  have hs' : Live g.dfa v options s' := hs.of_spells hts ⟨[], s', spells_nil.mpr rfl, ha⟩
  exact advanceAll_concat.mpr
    ⟨s', h.advanceAll_of_spells hs hts hs', (h.advance_eos hs').mpr ⟨ha, rfl⟩⟩

/-- Tokens pass and may be ended exactly when they are text that spells a match. -/
theorem exists_ends_iff (h : g.IsFor v options) {ts : List TokenId} (heos : v.eos ∉ ts) :
    (∃ s, g.advanceAll g.initial (ts ++ [v.eos]) = .ok s) ↔
      (∀ t ∈ ts, options.Uses v t) ∧ g.dfa.accepts (v.decode ts) := by
  have hinit := h.live_initial
  constructor
  · rintro ⟨s, hs⟩
    obtain ⟨u, hu, hw⟩ := advanceAll_concat.mp hs
    obtain ⟨hspells, hlive⟩ := h.spells_of_advanceAll hinit heos hu
    have hacc := ((h.advance_eos hlive).mp hw).1
    exact ⟨hspells.1, Dfa.accepts_iff.mpr ⟨u, hspells.2, hacc⟩⟩
  · rintro ⟨huses, hacc⟩
    obtain ⟨u, hu, hacc⟩ := Dfa.accepts_iff.mp hacc
    exact ⟨g.dfa.size, h.ends_of_spells hinit ⟨huses, hu⟩ hacc⟩

theorem eq_terminal_of_advanceAll (h : g.IsFor v options) {ts : List TokenId} (heos : v.eos ∈ ts)
    (hts : g.advanceAll s ts = .ok s') : s' = g.dfa.size := by
  induction ts using List.reverseRecOn generalizing s' with
  | nil => simp at heos
  | append_singleton ts t ih =>
    obtain ⟨u, hu, hw⟩ := advanceAll_concat.mp hts
    rcases List.mem_append.mp heos with heos | heos
    · rw [ih heos hu] at hw
      exact (h.advance_terminal.mp hw).2
    · rw [← List.mem_singleton.mp heos] at hw
      exact (h.advance_eq_ok_iff.mp hw).of_eos

end IsFor

theorem ofPattern_eq_ok {settings : Settings} {pattern : String}
    (h : Guide.ofPattern settings pattern (.ofVocabulary v) = .ok g) :
    Automaton.compile settings.compile pattern = .ok g.dfa ∧ g.IsFor v settings.index := by
  simp only [Guide.ofPattern, bind_eq_ok_iff] at h
  obtain ⟨d, hcompile, hg⟩ := h
  have hd := hcompile
  simp only [Automaton.compile, bind_eq_ok_iff] at hd
  obtain ⟨nfa, -, hd⟩ := hd
  have hfor := isFor_of_ofDfa hd hg
  rw [(ofDfa_eq_ok hg (Dfa.wellFormed_ofNfa hd)).2.1]
  exact ⟨hcompile, hfor⟩

def Reachable (g : Guide) (s : StateId) : Prop := ∃ ts, g.advanceAll g.initial ts = .ok s

/-- Only live states and the terminal one are reached. -/
theorem IsFor.live_or_terminal (h : g.IsFor v options) (hs : g.Reachable s) :
    Live g.dfa v options s ∨ s = g.dfa.size := by
  obtain ⟨ts, hts⟩ := hs
  by_cases heos : v.eos ∈ ts
  · exact .inr (h.eq_terminal_of_advanceAll heos hts)
  · exact .inl (h.spells_of_advanceAll h.live_initial heos hts).2

/-- Tokens for `a`, `b` and `ab`, one without bytes, a special one and the end of a sequence. -/
def abVocabulary : Vocabulary where
  entries := #[{ kind := .text, bytes := [97] }, { kind := .text, bytes := [98] },
    { kind := .text, bytes := [97, 98] }, { kind := .text }, { kind := .special },
    { kind := .endOfSequence }]
  eos := 5
  eosIds_entries := by decide

def abNfa : Nfa := { states := #[.range 97 97 1, .range 98 98 2, .accept], start := 0 }

theorem nfaOfPattern_ab : Nfa.ofPattern {} "ab" = .ok abNfa := by cbv

theorem accepts_abNfa {w : List UInt8} : abNfa.Accepts w 0 0 ↔ w = [97, 98] := by
  constructor
  · rintro ⟨n, hr⟩
    have hfirst : abNfa.states[0]? = some (.range 97 97 1) := rfl
    have hsecond : abNfa.states[1]? = some (.range 98 98 2) := rfl
    obtain ⟨n, -, _, _, ⟨rfl, rfl, a, ha, hale, hage⟩, hr⟩ := Nfa.move_of_runs hfirst nofun hr
    obtain ⟨n, -, _, _, ⟨rfl, rfl, b, hb, hble, hbge⟩, hr⟩ := Nfa.move_of_runs hsecond nofun hr
    obtain rfl : 97 = a := UInt8.le_antisymm hale hage
    obtain rfl : 98 = b := UInt8.le_antisymm hble hbge
    -- both letters are read, and no move leads on
    cases n with
    | zero =>
      obtain ⟨x, y, rfl⟩ := List.length_eq_two.mp hr.2.symm
      simp_all
    | succ n =>
      obtain ⟨q, _, _, hq, hm, -⟩ := hr
      obtain rfl : .accept = q := Option.some.inj hq
      exact hm.elim
  · rintro rfl
    exact ⟨2, _, 1, 1, rfl, ⟨rfl, rfl, 97, rfl, by decide, by decide⟩,
      _, 2, 2, rfl, ⟨rfl, rfl, 98, rfl, by decide, by decide⟩, rfl, rfl⟩

theorem ofNfa_ab : ∃ d, Dfa.ofNfa {} abNfa = .ok d := by
  have hreps : (Automaton.ByteClasses.ofNfa abNfa).representatives = #[0, 97, 98, 99] := by
    rw [Automaton.ByteClasses.representatives_ofNfa]
    decide +kernel
  have hok : (Dfa.ofNfa {} abNfa).isOk := by
    simp only [Dfa.ofNfa, Automaton.determinize, hreps]
    generalize Automaton.ByteClasses.ofNfa abNfa = classes
    cbv
  exact exists_of_isOk hok

/-- A vocabulary with the token `ab` has a guide for the pattern. -/
theorem exists_ofPattern_ab {t : TokenId} (ht : v.entry? t = some { kind := .text, bytes := [97, 98] }) :
    ∃ g, Guide.ofPattern {} "ab" (.ofVocabulary v) = .ok g := by
  obtain ⟨d, hd⟩ := ofNfa_ab
  have hacc : d.accepts [97, 98] := (Dfa.accepts_ofNfa hd _).mpr (accepts_abNfa.mpr rfl)
  obtain ⟨s, hs, ha⟩ := Dfa.accepts_iff.mp hacc
  have hlive : Live d v {} Dfa.start := by
    refine ⟨⟨[], spells_nil.mpr rfl⟩, [t], s, ⟨fun u hu => ?_, ?_⟩, ha⟩
    · rw [List.mem_singleton.mp hu]
      exact ⟨⟨_, ht⟩, by simp⟩
    · rw [Vocabulary.decode, List.flatMap_singleton, Vocabulary.bytes_eq_of_entry ht]
      exact hs
  obtain ⟨g, hg⟩ := (exists_ofDfa_iff (Dfa.wellFormed_ofNfa hd) "ab").mpr hlive
  exact ⟨g, bind_eq_ok_iff.mpr ⟨d, bind_eq_ok_iff.mpr ⟨abNfa, nfaOfPattern_ab, hd⟩, hg⟩⟩

theorem ofPattern_ab : ∃ g, Guide.ofPattern {} "ab" (.ofVocabulary abVocabulary) = .ok g :=
  exists_ofPattern_ab (t := 2) rfl

theorem accepts_ofPattern_ab (h : Guide.ofPattern {} "ab" (.ofVocabulary v) = .ok g) (w : List UInt8) :
    g.dfa.accepts w ↔ w = [97, 98] := by
  obtain ⟨nfa, hnfa, hd⟩ := bind_eq_ok_iff.mp (ofPattern_eq_ok h).1
  obtain rfl : abNfa = nfa := Except.ok.inj (nfaOfPattern_ab.symm.trans hnfa)
  rw [Dfa.accepts_ofNfa hd, ← accepts_abNfa]
  rfl

theorem ofPattern_of_tooLong {settings : Settings} {pattern : String}
    (h : settings.compile.patternLength < pattern.utf8ByteSize) (v : VocabularyIndex) :
    Guide.ofPattern settings pattern v = .error (.tooComplex .patternLength settings.compile.patternLength) := by
  unfold Guide.ofPattern Automaton.compile Nfa.ofPattern Automaton.parsePattern
  rw [if_pos h]
  rfl

/-- Guides are sound and complete. Before the end of the sequence, a list of tokens passes and may be
ended exactly when it spells a string that the automaton accepts; after the end, only the end passes. -/
theorem ends_iff_accepts {settings : Settings} {pattern : String}
    (h : Guide.ofPattern settings pattern (.ofVocabulary v) = .ok g) :
    Automaton.compile settings.compile pattern = .ok g.dfa ∧
      (∀ ts, v.eos ∉ ts → ((∃ s, g.advanceAll g.initial (ts ++ [v.eos]) = .ok s) ↔
        (∀ t ∈ ts, settings.index.Uses v t) ∧ g.dfa.accepts (v.decode ts))) ∧
      ∀ ts s, v.eos ∈ ts → g.advanceAll g.initial ts = .ok s →
        ∀ t s', g.advance s t = .ok s' ↔ t = v.eos ∧ s' = s := by
  obtain ⟨hcompile, hfor⟩ := ofPattern_eq_ok h
  refine ⟨hcompile, fun ts heos => hfor.exists_ends_iff heos, fun ts s heos hts t s' => ?_⟩
  obtain rfl := hfor.eq_terminal_of_advanceAll heos hts
  exact hfor.advance_terminal

theorem ends_iff_accepts_ab : ∃ g, Guide.ofPattern {} "ab" (.ofVocabulary abVocabulary) = .ok g ∧
    ((∃ s, g.advanceAll g.initial ([0, 1] ++ [5]) = .ok s) ↔
      (∀ t ∈ [0, 1], ({} : IndexOptions).Uses abVocabulary t) ∧
        g.dfa.accepts (abVocabulary.decode [0, 1])) := by
  obtain ⟨g, hg⟩ := ofPattern_ab
  exact ⟨g, hg, (ends_iff_accepts hg).2.1 [0, 1] (by decide)⟩

/-- From a state that can be reached, before the end of the sequence, tokens with equal bytes lead to the
same state, however the bytes are cut. -/
theorem advanceAll_iff_of_decode_eq (h : g.IsFor v options) (hreach : g.Reachable s)
    (hs : s ≠ g.terminal) {ts us : List TokenId} (hts : ∀ t ∈ ts, options.Uses v t)
    (hus : ∀ t ∈ us, options.Uses v t) (heq : v.decode ts = v.decode us) (s' : StateId) :
    g.advanceAll s ts = .ok s' ↔ g.advanceAll s us = .ok s' := by
  have hlive := (h.live_or_terminal hreach).resolve_right (h.terminal_eq ▸ hs)
  have heos {ts : List TokenId} (hts : ∀ t ∈ ts, options.Uses v t) : v.eos ∉ ts :=
    fun hmem => Vocabulary.ne_eos_of_isText (hts _ hmem).1 rfl
  rw [h.advanceAll_iff_spells hlive (heos hts), h.advanceAll_iff_spells hlive (heos hus)]
  simp only [Spells, heq, and_iff_right hts, and_iff_right hus]

theorem advanceAll_iff_of_decode_eq_ab :
    ∃ g, Guide.ofPattern {} "ab" (.ofVocabulary abVocabulary) = .ok g ∧
      abVocabulary.decode [0, 3, 1] = abVocabulary.decode [2] ∧
      ∀ s', g.advanceAll g.initial [0, 3, 1] = .ok s' ↔ g.advanceAll g.initial [2] = .ok s' := by
  obtain ⟨g, hg⟩ := ofPattern_ab
  have hfor := (ofPattern_eq_ok hg).2
  have hne : g.initial ≠ g.terminal := by
    rw [hfor.terminal_eq]
    exact hfor.wellFormed.start_lt.ne
  have huses : ∀ t ∈ [0, 1, 2, 3], ({} : IndexOptions).Uses abVocabulary t := by
    simp [IndexOptions.Uses, Vocabulary.IsText, Vocabulary.entry?, abVocabulary]
  refine ⟨g, hg, rfl, advanceAll_iff_of_decode_eq hfor ⟨[], advanceAll_nil.mpr rfl⟩ hne ?_ ?_ rfl⟩
  · exact fun t ht => huses t (by revert t; decide)
  · exact fun t ht => huses t (by revert t; decide)

end ConstrainedDecoding.Guide
