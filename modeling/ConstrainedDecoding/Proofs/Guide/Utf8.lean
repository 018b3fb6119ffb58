import ConstrainedDecoding.Proofs.Guide.Completion
import ConstrainedDecoding.Proofs.Pattern.Elaborate

/-! What guides write is UTF-8. Tokens may begin and end within a character; the automaton sees to it that
they add up to characters in the end. -/
namespace ConstrainedDecoding

instance Vocabulary.decidableIsText (v : Vocabulary) (t : TokenId) : Decidable (v.IsText t) :=
  decidable_of_iff _ Vocabulary.isText_iff.symm

/-- The bytes of the tokens of text among some tokens. -/
def Vocabulary.spelling (v : Vocabulary) (ts : List TokenId) : List UInt8 :=
  v.decode (ts.filter (v.IsText ·))

namespace Vocabulary

variable {v : Vocabulary} {ts us : List TokenId}

theorem decode_append : v.decode (ts ++ us) = v.decode ts ++ v.decode us := List.flatMap_append

theorem spelling_append : v.spelling (ts ++ us) = v.spelling ts ++ v.spelling us := by
  rw [spelling, List.filter_append, decode_append]
  rfl

theorem spelling_of_isText (h : ∀ t ∈ ts, v.IsText t) : v.spelling ts = v.decode ts := by
  rw [spelling, List.filter_eq_self.mpr fun t ht => decide_eq_true (h t ht)]

theorem spelling_of_eos (h : ∀ t ∈ ts, t = v.eos) : v.spelling ts = [] := by
  have hnone : ts.filter (v.IsText ·) = [] :=
    List.filter_eq_nil_iff.mpr fun t ht htext => ne_eos_of_isText (of_decide_eq_true htext) (h t ht)
  rw [spelling, hnone]
  rfl

end Vocabulary

/-- An automaton built from an expression over characters accepts valid strings only. -/
theorem Automaton.Dfa.valid_of_accepts {limits : CompileLimits} {e : Pattern.Expr} {nfa : Nfa} {d : Dfa}
    (he : e.IsUtf8) (hnfa : Nfa.ofExpr limits e = .ok nfa) (hd : Dfa.ofNfa limits nfa = .ok d)
    {w : List UInt8} (hw : d.accepts w) : Utf8.Valid w := by
  have haccepts := (Dfa.accepts_ofNfa hd w).mp hw
  exact he.valid_of_matches ((Nfa.accepts_ofExpr hnfa).mp haccepts)

/-- So does the automaton of any pattern. -/
theorem Automaton.valid_of_accepts_compile {limits : CompileLimits} {text : String} {d : Dfa}
    (hd : compile limits text = .ok d) {w : List UInt8} (hw : d.accepts w) : Utf8.Valid w := by
  obtain ⟨nfa, hnfa, hd⟩ := bind_eq_ok_iff.mp hd
  obtain ⟨e, he, hnfa⟩ := bind_eq_ok_iff.mp hnfa
  exact Dfa.valid_of_accepts (isUtf8_parsePattern he) hnfa hd hw

namespace Guide
open Automaton (Dfa Nfa)
open Pattern (Expr)

variable {d : Dfa} {v : Vocabulary} {options : IndexOptions} {s s' : StateId} {g : Guide}

theorem IsFor.eq_eos_of_terminal (h : g.IsFor v options) {ts : List TokenId}
    (hts : g.advanceAll g.dfa.size ts = .ok s) : ∀ t ∈ ts, t = v.eos := by
  induction ts with
  | nil => simp
  | cons t ts ih =>
    obtain ⟨u, hu, hts⟩ := advanceAll_cons.mp hts
    obtain ⟨ht, rfl⟩ := h.advance_terminal.mp hu
    exact List.forall_mem_cons.mpr ⟨ht, ih hts⟩

/-- What passes from a live state is text up to the end of the sequence, and the text is a match if the
end is there. -/
theorem IsFor.exists_spells (h : g.IsFor v options) {ts : List TokenId} (hs : Live g.dfa v options s)
    (hts : g.advanceAll s ts = .ok s') :
    ∃ us u, v.spelling ts = v.decode us ∧ Spells g.dfa v options s us u ∧ Live g.dfa v options u ∧
      (v.eos ∈ ts → g.dfa.isAccepting u) := by
  by_cases heos : v.eos ∈ ts
  · obtain ⟨us, rest, rfl, hus⟩ := List.eq_append_cons_of_mem heos
    obtain ⟨u, hu, hrest⟩ := advanceAll_append.mp hts
    obtain ⟨hspells, hlive⟩ := h.spells_of_advanceAll hs hus hu
    obtain ⟨_, hend, hrest⟩ := advanceAll_cons.mp hrest
    obtain ⟨hacc, rfl⟩ := (h.advance_eos hlive).mp hend
    have htext : v.spelling us = v.decode us :=
      Vocabulary.spelling_of_isText fun t ht => (hspells.1 t ht).1
    have hnone : v.spelling (v.eos :: rest) = [] :=
      Vocabulary.spelling_of_eos (List.forall_mem_cons.mpr ⟨rfl, h.eq_eos_of_terminal hrest⟩)
    have hsplit : v.spelling (us ++ v.eos :: rest) = v.decode us := by
      rw [Vocabulary.spelling_append, htext, hnone, List.append_nil]
    exact ⟨us, u, hsplit, hspells, hlive, fun _ => hacc⟩
  · obtain ⟨hspells, hlive⟩ := h.spells_of_advanceAll hs heos hts
    have htext : v.spelling ts = v.decode ts :=
      Vocabulary.spelling_of_isText fun t ht => (hspells.1 t ht).1
    exact ⟨ts, s', htext, hspells, hlive, fun hmem => absurd hmem heos⟩

/-- A walk spells the beginning of an accepted string, and all of one if it has ended. -/
theorem IsFor.exists_accepts (h : g.IsFor v options) {ts : List TokenId}
    (hts : g.advanceAll g.initial ts = .ok s) :
    ∃ rest, g.dfa.accepts (v.spelling ts ++ rest) ∧ (v.eos ∈ ts → rest = []) := by
  obtain ⟨us, u, hspelling, hspells, hlive, hacc⟩ := h.exists_spells h.live_initial hts
  by_cases heos : v.eos ∈ ts
  · refine ⟨[], ?_, fun _ => rfl⟩
    rw [List.append_nil, hspelling]
    exact Dfa.accepts_iff.mpr ⟨u, hspells.2, hacc heos⟩
  · obtain ⟨more, u', hmore, hacc⟩ := hlive.completes
    refine ⟨v.decode more, ?_, fun hmem => absurd hmem heos⟩
    rw [hspelling, ← Vocabulary.decode_append]
    exact Dfa.accepts_iff.mpr ⟨u', (hspells.append hmore).2, hacc⟩

theorem IsFor.valid_spelling (h : g.IsFor v options) (hvalid : ∀ w, g.dfa.accepts w → Utf8.Valid w)
    {ts : List TokenId} (hts : g.advanceAll g.initial ts = .ok s) :
    (ts.getLast? = some v.eos → Utf8.Valid (v.spelling ts)) ∧
      ∀ us, us <+: ts → ∃ w, Utf8.Valid w ∧ v.spelling us <+: w := by
  constructor
  · intro hlast
    obtain ⟨rest, hacc, hrest⟩ := h.exists_accepts hts
    rw [hrest (List.mem_of_getLast? hlast), List.append_nil] at hacc
    exact hvalid _ hacc
  · rintro us ⟨more, rfl⟩
    obtain ⟨u, hu, -⟩ := advanceAll_append.mp hts
    obtain ⟨rest, hacc, -⟩ := h.exists_accepts hu
    exact ⟨_, hvalid _ hacc, List.prefix_append _ rest⟩

/-- Finished output is valid UTF-8, and unfinished output is the beginning of some: of the strings that an
automaton over characters accepts, and of the text that passes a guide for it, however the tokens cut
the characters. -/
theorem valid_output {limits : CompileLimits} {e : Expr} (he : e.IsUtf8)
    (hd : Nfa.ofExpr limits e >>= Dfa.ofNfa limits = .ok d) :
    (∀ w, d.accepts w → Utf8.Valid w) ∧
      ∀ pattern v options g, Guide.ofDfa pattern d (.ofVocabulary v) options = .ok g →
        ∀ ts s, g.advanceAll g.initial ts = .ok s →
          (ts.getLast? = some v.eos → Utf8.Valid (v.spelling ts)) ∧
            ∀ us, us <+: ts → ∃ w, Utf8.Valid w ∧ v.spelling us <+: w := by
  obtain ⟨nfa, hnfa, hd⟩ := bind_eq_ok_iff.mp hd
  have hvalid (w : List UInt8) (hw : d.accepts w) : Utf8.Valid w := Dfa.valid_of_accepts he hnfa hd hw
  refine ⟨hvalid, fun pattern v options g hg ts s hts => ?_⟩
  have hdfa : g.dfa = d := (ofDfa_eq_ok hg (Dfa.wellFormed_ofNfa hd)).2.1
  exact (isFor_of_ofDfa hd hg).valid_spelling (hdfa ▸ hvalid) hts

/-- Nothing has to be said of the pattern of a guide, because patterns are read as expressions over characters. -/
theorem valid_output_ofPattern {settings : Settings} {pattern : String}
    (h : Guide.ofPattern settings pattern (.ofVocabulary v) = .ok g) :
    (∀ w, g.dfa.accepts w → Utf8.Valid w) ∧
      ∀ ts s, g.advanceAll g.initial ts = .ok s →
        (ts.getLast? = some v.eos → Utf8.Valid (v.spelling ts)) ∧
          ∀ us, us <+: ts → ∃ w, Utf8.Valid w ∧ v.spelling us <+: w := by
  obtain ⟨hd, hfor⟩ := ofPattern_eq_ok h
  have hvalid (w : List UInt8) (hw : g.dfa.accepts w) : Utf8.Valid w := Automaton.valid_of_accepts_compile hd hw
  exact ⟨hvalid, fun ts s hts => hfor.valid_spelling hvalid hts⟩

/-- Parts of the euro sign, and the end of a sequence. -/
def euroVocabulary : Vocabulary where
  entries := #[{ kind := .text, bytes := [0xE2] }, { kind := .text, bytes := [0x82, 0xAC] },
    { kind := .endOfSequence }]
  eos := 2
  eosIds_entries := by decide

def euroExpr : Expr := .repetition (.literal [0xE2, 0x82, 0xAC]) 1 none true

def euroNfa : Nfa :=
  { states := #[.epsilon 1, .range 0xE2 0xE2 2, .range 0x82 0x82 3, .range 0xAC 0xAC 4, .union [6, 5],
      .epsilon 9, .range 0xE2 0xE2 7, .range 0x82 0x82 8, .range 0xAC 0xAC 4, .accept]
    start := 0 }

private theorem ofExpr_euro : Nfa.ofExpr {} euroExpr = .ok euroNfa := by cbv

private theorem ofNfa_euro : ∃ d, Dfa.ofNfa {} euroNfa = .ok d := by
  have hreps : (Automaton.ByteClasses.ofNfa euroNfa).representatives =
      #[0, 0x82, 0x83, 0xAC, 0xAD, 0xE2, 0xE3] := by
    rw [Automaton.ByteClasses.representatives_ofNfa]
    decide +kernel
  have hok : (Dfa.ofNfa {} euroNfa).isOk := by
    simp only [Dfa.ofNfa, Automaton.determinize, hreps]
    generalize Automaton.ByteClasses.ofNfa euroNfa = classes
    cbv
  exact exists_of_isOk hok

private theorem matches_euro : euroExpr.Matches [0xE2, 0x82, 0xAC] 0 3 :=
  ⟨1, ⟨le_rfl, by simp⟩, 3, ⟨by simp, rfl⟩, rfl⟩

/-- Two tokens that are no characters spell one. -/
theorem valid_output_euro : ∃ d g, Nfa.ofExpr {} euroExpr >>= Dfa.ofNfa {} = .ok d ∧
    Guide.ofDfa "€+" d (.ofVocabulary euroVocabulary) {} = .ok g ∧
      ∃ s, g.advanceAll g.initial [0, 1, 2] = .ok s ∧
        Utf8.Valid (euroVocabulary.spelling [0, 1, 2]) := by
  have he : euroExpr.IsUtf8 := ⟨['€'], by decide⟩
  obtain ⟨d, hd⟩ := ofNfa_euro
  have hcompile : Nfa.ofExpr {} euroExpr >>= Dfa.ofNfa {} = .ok d :=
    bind_eq_ok_iff.mpr ⟨euroNfa, ofExpr_euro, hd⟩
  have hacc : d.accepts (euroVocabulary.decode [0, 1]) :=
    (Dfa.accepts_ofNfa hd _).mpr ((Nfa.accepts_ofExpr ofExpr_euro).mpr matches_euro)
  have hlive : Live d euroVocabulary {} Dfa.start := (live_start_iff {}).mpr ⟨[0, 1], by decide, hacc⟩
  obtain ⟨g, hg⟩ := (exists_ofDfa_iff (Dfa.wellFormed_ofNfa hd) "€+").mpr hlive
  have hdfa : g.dfa = d := (ofDfa_eq_ok hg (Dfa.wellFormed_ofNfa hd)).2.1
  have huses : ∀ t ∈ [0, 1], ({} : IndexOptions).Uses euroVocabulary t :=
    fun t ht => ⟨by revert t; decide, by revert t; decide⟩
  obtain ⟨s, hs⟩ := ((isFor_of_ofDfa hd hg).exists_ends_iff (by decide)).mpr ⟨huses, hdfa ▸ hacc⟩
  exact ⟨d, g, hcompile, hg, s, hs, ((valid_output he hcompile).2 "€+" euroVocabulary {} g hg _ s hs).1 rfl⟩

end Guide

end ConstrainedDecoding
