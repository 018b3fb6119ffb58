import ConstrainedDecoding.Utf8.Encode
import ConstrainedDecoding.Proofs.Pattern.Matching

/-! Expressions over characters. What they match runs from the beginning of a character to the end of one,
whatever is repeated or put together. -/
namespace ConstrainedDecoding

def Utf8.Valid (bytes : List UInt8) : Prop := ∃ cs, bytes = encode cs

namespace Utf8.Valid

theorem nil : Valid [] := ⟨[], rfl⟩

theorem append {bs cs : List UInt8} (hb : Valid bs) (hc : Valid cs) : Valid (bs ++ cs) := by
  obtain ⟨xs, rfl⟩ := hb
  obtain ⟨ys, rfl⟩ := hc
  exact ⟨xs ++ ys, by rw [encode, encode, encode, List.flatMap_append]⟩

theorem encodeChar (c : Char) : Valid (String.utf8EncodeChar c) :=
  ⟨[c], by rw [encode, List.flatMap_singleton]⟩

theorem ascii {b : UInt8} (hb : b < 0x80) : Valid [b] := by
  have hcode : (Char.ofUInt8 b).val = b.toUInt32 := rfl
  have hsize : (Char.ofUInt8 b).utf8Size = 1 := by
    rw [Char.utf8Size_eq_one_iff, hcode, UInt32.le_iff_toNat_le, UInt8.toNat_toUInt32]
    exact Nat.le_of_lt_succ (UInt8.lt_iff_toNat_lt.mp hb)
  have hvalid := encodeChar (Char.ofUInt8 b)
  rwa [String.utf8EncodeChar_eq_singleton hsize, hcode, UInt8.toUInt8_toUInt32] at hvalid

theorem lt_of_singleton {b : UInt8} (h : Valid [b]) : b < 0x80 := by
  obtain ⟨cs, hcs⟩ := h
  cases cs with
  | nil => simp [encode] at hcs
  | cons c cs =>
    rw [encode, List.flatMap_cons] at hcs
    have hlength := congrArg List.length hcs
    have hpos := c.utf8Size_pos
    rw [List.length_append, String.length_utf8EncodeChar, List.length_singleton] at hlength
    have hsize : c.utf8Size = 1 := by omega
    rw [String.utf8EncodeChar_eq_singleton hsize, List.singleton_append, List.cons.injEq] at hcs
    have hcode : c.val.toNat ≤ 127 := UInt32.le_iff_toNat_le.mp (Char.utf8Size_eq_one_iff.mp hsize)
    rw [hcs.1, UInt8.lt_iff_toNat_lt, UInt32.toNat_toUInt8]
    exact Nat.lt_of_le_of_lt (Nat.mod_le _ _) (Nat.lt_succ_of_le hcode)

end Utf8.Valid

namespace Pattern

variable {w : List UInt8} {i j k : ℕ}

theorem reads_append {bs cs : List UInt8} :
    Reads w (bs ++ cs) i j ↔ ∃ k, Reads w bs i k ∧ Reads w cs k j := by
  induction bs generalizing i with
  | nil => simp
  | cons b bs ih => simp only [List.cons_append, reads_cons, ih, and_assoc, exists_and_left]

theorem eq_of_reads {bs : List UInt8} (h : Reads w bs 0 w.length) : bs = w := by
  obtain ⟨hpre, hlength⟩ := h
  rw [List.drop_zero] at hpre
  exact hpre.eq_of_length (by omega)

def ReadsChars (w : List UInt8) (i j : ℕ) : Prop := ∃ bs, Utf8.Valid bs ∧ Reads w bs i j

namespace ReadsChars

theorem refl : ReadsChars w i i := ⟨[], .nil, reads_nil.mpr rfl⟩

theorem trans (h : ReadsChars w i k) (h' : ReadsChars w k j) : ReadsChars w i j := by
  obtain ⟨bs, hbs, hread⟩ := h
  obtain ⟨cs, hcs, hread'⟩ := h'
  exact ⟨bs ++ cs, hbs.append hcs, reads_append.mpr ⟨k, hread, hread'⟩⟩

theorem of_steps {R : ℕ → ℕ → Prop} (hR : ∀ i j, R i j → ReadsChars w i j) {n : ℕ}
    (h : Steps R n i j) : ReadsChars w i j := by
  induction n generalizing i with
  | zero => exact h ▸ refl
  | succ n ih =>
    obtain ⟨k, hk, h⟩ := h
    exact (hR i k hk).trans (ih h)

end ReadsChars

namespace Expr

mutual

/-- Literals are encodings of characters, and byte classes are ASCII. -/
def IsUtf8 : Expr → Prop
  | empty | scalars _ | assertion _ => True
  | literal bs => Utf8.Valid bs
  | bytes set => ∀ b, set.contains b → b < 0x80
  | repetition sub _ _ _ | capture _ sub => sub.IsUtf8
  | concat subs | alternation subs => AreUtf8 subs

def AreUtf8 : List Expr → Prop
  | [] => True
  | e :: es => e.IsUtf8 ∧ AreUtf8 es

end

mutual

/-- A match of an expression over characters is made of whole characters. -/
theorem readsChars_of_matches : ∀ (e : Expr) {i j : ℕ}, e.IsUtf8 → e.Matches w i j → ReadsChars w i j
  | .empty, _, _, _, h => h ▸ .refl
  | .literal bs, _, _, he, h => ⟨bs, he, h⟩
  | .scalars _, _, _, _, h => by
    obtain ⟨c, -, hread⟩ := h
    exact ⟨_, .encodeChar c, hread⟩
  | .bytes _, _, _, he, h => by
    obtain ⟨b, hb, hread⟩ := h
    exact ⟨[b], .ascii (he b hb), hread⟩
  | .assertion _, _, _, _, h => h.2 ▸ .refl
  | .repetition sub _ _ _, _, _, he, h => by
    obtain ⟨n, -, hsteps⟩ := h
    exact .of_steps (fun _ _ => readsChars_of_matches sub he) hsteps
  | .capture _ sub, _, _, he, h => readsChars_of_matches sub he h
  | .concat es, _, _, he, h => readsChars_of_matchesAll es he h
  | .alternation es, _, _, he, h => readsChars_of_matchesSome es he h

theorem readsChars_of_matchesAll : ∀ (es : List Expr) {i j : ℕ}, AreUtf8 es → MatchesAll w es i j →
    ReadsChars w i j
  | [], _, _, _, h => h ▸ .refl
  | e :: es, _, _, he, h => by
    obtain ⟨k, hk, h⟩ := h
    exact (readsChars_of_matches e he.1 hk).trans (readsChars_of_matchesAll es he.2 h)

theorem readsChars_of_matchesSome : ∀ (es : List Expr) {i j : ℕ}, AreUtf8 es →
    MatchesSome w es i j → ReadsChars w i j
  | [], _, _, _, h => h.elim
  | e :: es, _, _, he, h => by
    cases h with
    | inl h => exact readsChars_of_matches e he.1 h
    | inr h => exact readsChars_of_matchesSome es he.2 h

end

/-- A text that an expression over characters matches as a whole is valid. -/
theorem IsUtf8.valid_of_matches {e : Expr} (he : e.IsUtf8) (h : e.Matches w 0 w.length) :
    Utf8.Valid w := by
  obtain ⟨bs, hbs, hread⟩ := readsChars_of_matches e he h
  exact eq_of_reads hread ▸ hbs

end Expr

end Pattern

end ConstrainedDecoding
