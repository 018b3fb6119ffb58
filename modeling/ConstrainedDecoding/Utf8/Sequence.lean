import ConstrainedDecoding.Interval

/-!
Ranges of scalar values as UTF-8. A range is cut until all encodings in a piece have one length and
differ only where every byte value between the two ends occurs; such a piece is one byte sequence.
-/

namespace ConstrainedDecoding

abbrev ByteRange := Interval UInt8

/-- Byte strings with one byte from each range, in order. -/
abbrev ByteSequence := List ByteRange

namespace ByteSequence

/-- The last code before the first boundary of `size`-blocks that splits `lo..hi` unevenly. -/
def blockCut? (size lo hi : Nat) : Option Nat :=
  if lo / size = hi / size then none
  else if lo % size ≠ 0 then some ((lo / size + 1) * size - 1)
  else if hi % size ≠ size - 1 then some (hi / size * size - 1)
  else none

/-- The last code before the first change of encoded length inside `lo..hi`. -/
def lengthCut? (lo hi : Nat) : Option Nat :=
  [0x7F, 0x7FF, 0xFFFF].find? fun m => lo ≤ m && m < hi

/-- Where to cut `lo..hi` first, or nothing when it is one byte sequence. -/
def cut? (lo hi : Nat) : Option Nat :=
  (lengthCut? lo hi).or <|
    if hi ≤ 0x7F then none
    else (blockCut? 64 lo hi).or ((blockCut? 4096 lo hi).or (blockCut? 262144 lo hi))

theorem blockCut?_bounds {size lo hi c : Nat} (hs : 0 < size) (hle : lo ≤ hi)
    (h : blockCut? size lo hi = some c) : lo ≤ c ∧ c < hi := by
  unfold blockCut? at h
  have hdiv : lo / size ≤ hi / size := Nat.div_le_div_right hle
  have hlo := Nat.div_add_mod lo size
  have hhi := Nat.div_add_mod hi size
  have hlt := Nat.mod_lt lo hs
  split at h
  · simp at h
  · rename_i hne
    have hstep : (lo / size + 1) * size ≤ hi / size * size :=
      Nat.mul_le_mul_right _ (by omega)
    rw [Nat.add_mul, Nat.one_mul] at hstep
    rw [Nat.mul_comm] at hlo hhi
    split at h
    · simp only [Option.some.injEq, Nat.add_mul, Nat.one_mul] at h
      omega
    · split at h
      · simp only [Option.some.injEq] at h
        omega
      · simp at h

theorem cut?_bounds {lo hi c : Nat} (hle : lo ≤ hi) (h : cut? lo hi = some c) :
    lo ≤ c ∧ c < hi := by
  unfold cut? at h
  cases hl : lengthCut? lo hi with
  | some m =>
    have := List.find?_some hl
    simp_all
  | none =>
    rw [hl, Option.none_or] at h
    split at h
    · simp at h
    · rcases Option.or_eq_some_iff.1 h with h | ⟨_, h⟩
      · exact blockCut?_bounds (by decide) hle h
      · rcases Option.or_eq_some_iff.1 h with h | ⟨_, h⟩
        · exact blockCut?_bounds (by decide) hle h
        · exact blockCut?_bounds (by decide) hle h

/-- The byte sequence between the encodings of two scalar values. -/
def ofEnds (lo hi : Nat) : ByteSequence :=
  List.zipWith Interval.mk
    (String.utf8EncodeChar (Char.ofNat lo)) (String.utf8EncodeChar (Char.ofNat hi))

/-- The byte sequences of the scalar values `lo..hi`, a range without surrogates, in order. -/
def ofCodes (lo hi : Nat) : List ByteSequence :=
  if _ : hi < lo then []
  else
    match _h : cut? lo hi with
    | some c => ofCodes lo c ++ ofCodes (c + 1) hi
    | none => [ofEnds lo hi]
termination_by hi + 1 - lo
decreasing_by
  all_goals have := cut?_bounds (by omega) _h; omega

/-- The byte sequences of the scalar values in a range, in order. -/
def ofInterval (r : Interval Char) : List ByteSequence :=
  if r.lo.toNat < 0xE000 && 0xD7FF < r.hi.toNat then
    ofCodes r.lo.toNat 0xD7FF ++ ofCodes 0xE000 r.hi.toNat
  else
    ofCodes r.lo.toNat r.hi.toNat

end ByteSequence

end ConstrainedDecoding
