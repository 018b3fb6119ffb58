import ConstrainedDecoding.Pattern.Expr
import Mathlib.Data.Nat.Notation

/-! What expressions match: relations between the positions of a text where a match begins and where
it ends. Captures and greediness play no part. -/
namespace ConstrainedDecoding.Pattern

/-- The text goes on at a position with the given bytes, up to the second position. -/
def Reads (w bs : List UInt8) (i j : ℕ) : Prop := bs <+: w.drop i ∧ j = i + bs.length

@[simp] theorem reads_nil {w : List UInt8} {i j : ℕ} : Reads w [] i j ↔ i = j := by
  simp [Reads, eq_comm]

theorem reads_cons {w bs : List UInt8} {b : UInt8} {i j : ℕ} :
    Reads w (b :: bs) i j ↔ w[i]? = some b ∧ Reads w bs (i + 1) j := by
  have hd : w.drop (i + 1) = (w.drop i).tail := by simp
  have hh : w[i]? = (w.drop i).head? := by simp
  rw [Reads, Reads, hd, hh]
  cases w.drop i with
  | nil => simp
  | cons a rest =>
    simp only [List.cons_prefix_cons, List.head?_cons, List.tail_cons, Option.some.injEq,
      List.length_cons, eq_comm (a := b)]
    constructor
    · rintro ⟨⟨h, hp⟩, hj⟩
      exact ⟨h, hp, by omega⟩
    · rintro ⟨h, hp, hj⟩
      exact ⟨⟨h, hp⟩, by omega⟩

theorem reads_singleton {w : List UInt8} {b : UInt8} {i j : ℕ} :
    Reads w [b] i j ↔ w[i]? = some b ∧ i + 1 = j := by
  rw [reads_cons, reads_nil]

def Steps (R : ℕ → ℕ → Prop) : ℕ → ℕ → ℕ → Prop
  | 0, i, j => i = j
  | n + 1, i, j => ∃ k, R i k ∧ Steps R n k j

theorem steps_add {R : ℕ → ℕ → Prop} {m n i j : ℕ} :
    Steps R (m + n) i j ↔ ∃ k, Steps R m i k ∧ Steps R n k j := by
  induction m generalizing i with
  | zero => simp [Steps]
  | succ m ih =>
    rw [Nat.succ_add]
    simp only [Steps, ih]
    constructor
    · rintro ⟨a, ha, k, hk, hj⟩
      exact ⟨k, ⟨a, ha, hk⟩, hj⟩
    · rintro ⟨k, ⟨a, ha, hk⟩, hj⟩
      exact ⟨a, ha, k, hk, hj⟩

theorem steps_congr {R S : ℕ → ℕ → Prop} (h : ∀ i j, R i j ↔ S i j) {n i j : ℕ} :
    Steps R n i j ↔ Steps S n i j := by
  induction n generalizing i with
  | zero => rfl
  | succ n ih => simp only [Steps, h, ih]

/-- Positions where an assertion holds. Only those at the ends of the text can be compiled. -/
def Assertion.HoldsAt (w : List UInt8) : Assertion → ℕ → Prop
  | .start, i => i = 0
  | .stop, i => i = w.length
  | _, _ => False

/-- The numbers of copies that a repetition asks for. An upper count below the lower one counts as
the lower one. -/
def Allows (min : ℕ) (max : Option ℕ) (n : ℕ) : Prop := min ≤ n ∧ ∀ m ∈ max, n ≤ Nat.max min m

theorem allows_some_iff {min m n : ℕ} (h : min ≤ m) : Allows min (some m) n ↔ min ≤ n ∧ n ≤ m := by
  have hmax : Nat.max min m = m := Nat.max_eq_right h
  simp only [Allows, Option.mem_some_iff, forall_eq', hmax]

namespace Expr

mutual

/-- A text matches an expression from one position to another. -/
def Matches (w : List UInt8) : Expr → ℕ → ℕ → Prop
  | empty, i, j => i = j
  | literal bs, i, j => Reads w bs i j
  | scalars set, i, j => ∃ c, set.contains c ∧ Reads w (String.utf8EncodeChar c) i j
  | bytes set, i, j => ∃ b, set.contains b ∧ Reads w [b] i j
  | assertion a, i, j => a.HoldsAt w i ∧ i = j
  | repetition sub min max _, i, j => ∃ n, Allows min max n ∧ Steps (sub.Matches w) n i j
  | capture _ sub, i, j => sub.Matches w i j
  | concat subs, i, j => MatchesAll w subs i j
  | alternation subs, i, j => MatchesSome w subs i j

def MatchesAll (w : List UInt8) : List Expr → ℕ → ℕ → Prop
  | [], i, j => i = j
  | e :: es, i, j => ∃ k, e.Matches w i k ∧ MatchesAll w es k j

def MatchesSome (w : List UInt8) : List Expr → ℕ → ℕ → Prop
  | [], _, _ => False
  | e :: es, i, j => e.Matches w i j ∨ MatchesSome w es i j

end

end Expr

end ConstrainedDecoding.Pattern
