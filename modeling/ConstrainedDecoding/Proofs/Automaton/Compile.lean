import ConstrainedDecoding.Automaton.Compile
import ConstrainedDecoding.Proofs.Automaton.Plan
import ConstrainedDecoding.Proofs.Automaton.Subset
import ConstrainedDecoding.Proofs.Automaton.Trim
import Mathlib

/-! Compilation is exact: the automaton of an expression accepts what the expression matches. -/
namespace ConstrainedDecoding.Automaton
open Pattern (Expr)

variable {limits : CompileLimits}

theorem Dfa.ofNfa_eq_ok {nfa : Nfa} {d : Dfa} (h : Dfa.ofNfa limits nfa = .ok d) :
    ∃ d₁, determinize limits nfa = .ok d₁ ∧ d₁.trim? = some d := by
  simp only [Dfa.ofNfa, bind_eq_ok_iff] at h
  obtain ⟨d₁, hd, h⟩ := h
  split at h
  · obtain rfl := Except.ok.inj h
    exact ⟨d₁, hd, ‹_›⟩
  · simp at h

theorem Dfa.wellFormed_ofNfa {nfa : Nfa} {d : Dfa} (h : Dfa.ofNfa limits nfa = .ok d) :
    d.WellFormed := by
  obtain ⟨d₁, -, htrim⟩ := ofNfa_eq_ok h
  obtain ⟨order, htrims⟩ := trim?_trims htrim
  exact htrims.wellFormed

/-- The deterministic automaton accepts what the nondeterministic one accepts. -/
theorem Dfa.accepts_ofNfa {nfa : Nfa} {d : Dfa} (h : Dfa.ofNfa limits nfa = .ok d) (w : List UInt8) :
    d.accepts w ↔ nfa.Accepts w nfa.start 0 := by
  obtain ⟨d₁, hd, htrim⟩ := ofNfa_eq_ok h
  obtain ⟨sets, hsim⟩ := determinize_simulates hd
  obtain ⟨order, htrims⟩ := trim?_trims htrim
  rw [htrims.accepts_iff hsim.size_rows, hsim.accepts_iff]

/-- The expression of `^(?:a$)*`, with an anchor in a loop. -/
def anchoredLoop : Expr :=
  .concat [.assertion .start, .repetition (.concat [.literal [97], .assertion .stop]) 0 none true]

def anchoredLoopNfa : Nfa :=
  { states := #[.anchor .start 1, .epsilon 2, .union [4, 3], .epsilon 6, .range 97 97 5,
      .anchor .stop 2, .accept]
    start := 0 }

private theorem compiles_anchoredLoop :
    ∃ d, Nfa.ofExpr {} anchoredLoop >>= Dfa.ofNfa {} = .ok d := by
  have hnfa : Nfa.ofExpr {} anchoredLoop = .ok anchoredLoopNfa := by cbv
  have hreps : (ByteClasses.ofNfa anchoredLoopNfa).representatives = #[0, 97, 98] := by
    rw [ByteClasses.representatives_ofNfa]
    decide +kernel
  have hok : (Dfa.ofNfa {} anchoredLoopNfa).isOk := by
    simp only [Dfa.ofNfa, determinize, hreps]
    generalize ByteClasses.ofNfa anchoredLoopNfa = classes
    cbv
  rw [hnfa]
  exact exists_of_isOk hok

/-- An automaton built from an expression accepts exactly the texts that the expression matches as a
whole. -/
theorem Dfa.accepts_iff_matches {e : Expr} {d : Dfa}
    (h : Nfa.ofExpr limits e >>= Dfa.ofNfa limits = .ok d) (w : List UInt8) :
    d.accepts w ↔ e.Matches w 0 w.length := by
  obtain ⟨nfa, hnfa, hd⟩ := bind_eq_ok_iff.mp h
  rw [accepts_ofNfa hd, Nfa.accepts_ofExpr hnfa]

/-- An end anchor in a loop: `^(?:a$)*` compiles, and a single letter is accepted as it is matched. -/
theorem Dfa.accepts_iff_matches_anchoredLoop :
    ∃ d, Nfa.ofExpr {} anchoredLoop >>= Dfa.ofNfa {} = .ok d ∧
      (d.accepts [97] ↔ anchoredLoop.Matches [97] 0 1) := by
  obtain ⟨d, hd⟩ := compiles_anchoredLoop
  exact ⟨d, hd, Dfa.accepts_iff_matches hd [97]⟩

end ConstrainedDecoding.Automaton
