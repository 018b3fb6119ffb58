import ConstrainedDecoding.Utf8.Sequence
import Mathlib

/-! The byte sequences of a range of scalar values hold exactly the encodings of its members. -/
namespace ConstrainedDecoding.ByteSequence

/-- A byte string has its bytes in the ranges of a sequence, one in each. -/
def Holds (s : ByteSequence) (bs : List UInt8) : Prop :=
  List.Forall₂ (fun r b => Interval.contains r b) s bs

def encodeCode (v : ℕ) : List UInt8 := String.utf8EncodeChar (Char.ofNat v)

private theorem toNat_val_ofNat {v : ℕ} (hv : v.isValidChar) : (Char.ofNat v).val.toNat = v := by
  rw [Char.toNat_val, Char.toNat_ofNat, if_pos hv]

private theorem encodeCode_of_le_one {v : ℕ} (hv : v.isValidChar) (h : v ≤ 0x7F) :
    encodeCode v = [UInt8.ofNat v] := by
  simp only [encodeCode, String.utf8EncodeChar, toNat_val_ofNat hv]
  rw [if_pos h]

private theorem encodeCode_of_le_two {v : ℕ} (hv : v.isValidChar) (h₁ : 0x7F < v) (h : v ≤ 0x7FF) :
    encodeCode v = [UInt8.ofNat (v / 64 + 0xC0), UInt8.ofNat (v % 64 + 0x80)] := by
  simp only [encodeCode, String.utf8EncodeChar, toNat_val_ofNat hv]
  rw [if_neg (by omega), if_pos h, Nat.mod_eq_of_lt (by omega : v / 64 < 0x20)]

private theorem encodeCode_of_le_three {v : ℕ} (hv : v.isValidChar) (h₁ : 0x7FF < v)
    (h : v ≤ 0xFFFF) : encodeCode v =
      [UInt8.ofNat (v / 4096 + 0xE0), UInt8.ofNat (v / 64 % 64 + 0x80),
        UInt8.ofNat (v % 64 + 0x80)] := by
  simp only [encodeCode, String.utf8EncodeChar, toNat_val_ofNat hv]
  rw [if_neg (by omega), if_neg (by omega), if_pos h,
    Nat.mod_eq_of_lt (by omega : v / 4096 < 0x10)]

private theorem encodeCode_of_le_four {v : ℕ} (hv : v.isValidChar) (h₁ : 0xFFFF < v) :
    encodeCode v =
      [UInt8.ofNat (v / 262144 + 0xF0), UInt8.ofNat (v / 4096 % 64 + 0x80),
        UInt8.ofNat (v / 64 % 64 + 0x80), UInt8.ofNat (v % 64 + 0x80)] := by
  have hlt : v < 0x110000 := by unfold Nat.isValidChar at hv; omega
  simp only [encodeCode, String.utf8EncodeChar, toNat_val_ofNat hv]
  rw [if_neg (by omega), if_neg (by omega), if_neg (by omega),
    Nat.mod_eq_of_lt (by omega : v / 262144 < 0x08)]

private theorem contains_ofNat {a b : ℕ} (ha : a < 256) (hb : b < 256) (x : UInt8) :
    Interval.contains ⟨UInt8.ofNat a, UInt8.ofNat b⟩ x ↔ a ≤ x.toNat ∧ x.toNat ≤ b := by
  simp [Interval.contains, Alphabet.code, Nat.mod_eq_of_lt ha, Nat.mod_eq_of_lt hb]

private theorem blockCut?_eq_none {size lo hi : ℕ} (h : blockCut? size lo hi = none) :
    lo / size = hi / size ∨ lo % size = 0 ∧ hi % size = size - 1 := by
  unfold blockCut? at h
  split at h
  · exact .inl ‹_›
  · split at h
    · simp at h
    · split at h
      · simp at h
      · exact .inr ⟨not_not.mp ‹_›, not_not.mp ‹_›⟩

private theorem lengthCut?_eq_none {lo hi m : ℕ} (h : lengthCut? lo hi = none)
    (hm : m ∈ [0x7F, 0x7FF, 0xFFFF]) : lo ≤ m → hi ≤ m := by
  have := List.find?_eq_none.mp h m hm
  simp only [Bool.and_eq_true, decide_eq_true_eq, not_and, not_lt] at this
  exact this

/-- A range that splits no block unevenly is the product of the ranges of quotient and remainder. -/
private theorem mem_range_iff_div_mod {size lo hi v : ℕ} (hs : 0 < size)
    (h : lo / size = hi / size ∨ lo % size = 0 ∧ hi % size = size - 1) :
    lo ≤ v ∧ v ≤ hi ↔ (lo / size ≤ v / size ∧ v / size ≤ hi / size) ∧
      lo % size ≤ v % size ∧ v % size ≤ hi % size := by
  have hlo := Nat.div_add_mod lo size
  have hhi := Nat.div_add_mod hi size
  have hv := Nat.div_add_mod v size
  have hm := Nat.mod_lt v hs
  constructor
  · rintro ⟨hl, hr⟩
    have hl' := Nat.div_le_div_right (c := size) hl
    have hr' := Nat.div_le_div_right (c := size) hr
    refine ⟨⟨hl', hr'⟩, ?_⟩
    rcases h with h | h
    · rw [show v / size = lo / size by omega] at hv
      rw [← h] at hhi
      omega
    · omega
  · rintro ⟨⟨hl, hr⟩, hl', hr'⟩
    have := Nat.mul_le_mul_left size hl
    have := Nat.mul_le_mul_left size hr
    omega

private theorem even_mod {size lo hi : ℕ} (k : ℕ)
    (h : lo / size = hi / size ∨ lo % size = 0 ∧ hi % size = size - 1) :
    lo % (size * k) / size = hi % (size * k) / size ∨
      lo % (size * k) % size = 0 ∧ hi % (size * k) % size = size - 1 := by
  simp only [Nat.mod_mul_right_div_self, Nat.mod_mul_right_mod]
  exact h.imp_left fun h => by rw [h]

private theorem mem_range_iff_two {lo hi v : ℕ}
    (h₁ : lo / 64 = hi / 64 ∨ lo % 64 = 0 ∧ hi % 64 = 63)
    (h₂ : lo / 4096 = hi / 4096 ∨ lo % 4096 = 0 ∧ hi % 4096 = 4095) :
    lo ≤ v ∧ v ≤ hi ↔ (lo / 4096 ≤ v / 4096 ∧ v / 4096 ≤ hi / 4096) ∧
      (lo / 64 % 64 ≤ v / 64 % 64 ∧ v / 64 % 64 ≤ hi / 64 % 64) ∧
      lo % 64 ≤ v % 64 ∧ v % 64 ≤ hi % 64 := by
  have hdiv (x : ℕ) : x % 4096 / 64 = x / 64 % 64 := Nat.mod_mul_right_div_self x 64 64
  have hmod (x : ℕ) : x % 4096 % 64 = x % 64 := Nat.mod_mul_right_mod x 64 64
  rw [mem_range_iff_div_mod (by decide) h₂, mem_range_iff_div_mod (by decide) (even_mod 64 h₁)]
  simp only [Nat.reduceMul, hdiv, hmod]

private theorem mem_range_iff_three {lo hi v : ℕ}
    (h₁ : lo / 64 = hi / 64 ∨ lo % 64 = 0 ∧ hi % 64 = 63)
    (h₂ : lo / 4096 = hi / 4096 ∨ lo % 4096 = 0 ∧ hi % 4096 = 4095)
    (h₃ : lo / 262144 = hi / 262144 ∨ lo % 262144 = 0 ∧ hi % 262144 = 262143) :
    lo ≤ v ∧ v ≤ hi ↔ (lo / 262144 ≤ v / 262144 ∧ v / 262144 ≤ hi / 262144) ∧
      (lo / 4096 % 64 ≤ v / 4096 % 64 ∧ v / 4096 % 64 ≤ hi / 4096 % 64) ∧
      (lo / 64 % 64 ≤ v / 64 % 64 ∧ v / 64 % 64 ≤ hi / 64 % 64) ∧
      lo % 64 ≤ v % 64 ∧ v % 64 ≤ hi % 64 := by
  have hdiv (x : ℕ) : x % 262144 / 4096 = x / 4096 % 64 := Nat.mod_mul_right_div_self x 4096 64
  have hdiv' (x : ℕ) : x % 262144 / 64 = x / 64 % 4096 := Nat.mod_mul_right_div_self x 64 4096
  have hmod (x : ℕ) : x % 4096 % 64 = x % 64 := Nat.mod_mul_right_mod x 64 64
  have hmod' (x : ℕ) : x % 262144 % 64 = x % 64 := Nat.mod_mul_right_mod x 64 4096
  rw [mem_range_iff_div_mod (by decide) h₃,
    mem_range_iff_two (even_mod 4096 h₁) (even_mod 64 h₂)]
  simp only [Nat.reduceMul, hdiv, hdiv', hmod, hmod']

/-- Numbers that lie between those of two lists, one between each two. -/
private def Between (as bs xs : List ℕ) : Prop :=
  List.Forall₂ (fun r x => r.1 ≤ x ∧ x ≤ r.2) (as.zip bs) xs

private theorem holds_zipWith {as bs : List ℕ} (ha : ∀ a ∈ as, a < 256) (hb : ∀ b ∈ bs, b < 256)
    (xs : List UInt8) :
    Holds (List.zipWith Interval.mk (as.map UInt8.ofNat) (bs.map UInt8.ofNat)) xs ↔
      Between as bs (xs.map UInt8.toNat) := by
  induction as generalizing bs xs with
  | nil => simp [Holds, Between]
  | cons a as ih =>
    cases bs with
    | nil => simp [Holds, Between]
    | cons b bs =>
      rw [List.forall_mem_cons] at ha hb
      cases xs with
      | nil => simp [Holds, Between]
      | cons x xs =>
        have hrest := ih ha.2 hb.2 xs
        simp only [Holds, Between] at hrest
        simp only [Holds, Between, List.map_cons, List.zipWith_cons_cons, List.zip_cons_cons,
          List.forall₂_cons, contains_ofNat ha.1 hb.1, hrest]

/-- Where encodings are given by their numbers, it is enough to tell which numbers occur. -/
private theorem holds_of_between {lo hi : ℕ} (f : ℕ → List ℕ) (hle : lo ≤ hi)
    (hf : ∀ v, lo ≤ v → v ≤ hi → encodeCode v = (f v).map UInt8.ofNat)
    (hlt : ∀ v, lo ≤ v → v ≤ hi → ∀ x ∈ f v, x < 256)
    (h : ∀ xs, Between (f lo) (f hi) xs ↔ ∃ v, lo ≤ v ∧ v ≤ hi ∧ xs = f v) (bs : List UInt8) :
    Holds (ofEnds lo hi) bs ↔ ∃ v, lo ≤ v ∧ v ≤ hi ∧ bs = encodeCode v := by
  change Holds (List.zipWith Interval.mk (encodeCode lo) (encodeCode hi)) bs ↔ _
  rw [hf lo le_rfl hle, hf hi hle le_rfl,
    holds_zipWith (hlt lo le_rfl hle) (hlt hi hle le_rfl), h]
  constructor
  · rintro ⟨v, hl, hr, hbs⟩
    refine ⟨v, hl, hr, ?_⟩
    rw [hf v hl hr, ← hbs, List.map_map]
    simp [Function.comp_def]
  · rintro ⟨v, hl, hr, rfl⟩
    refine ⟨v, hl, hr, ?_⟩
    rw [hf v hl hr, List.map_map]
    exact (List.map_congr_left fun x hx => Nat.mod_eq_of_lt (hlt v hl hr x hx)).trans
      (List.map_id _)

private theorem between_nil {xs : List ℕ} : Between [] [] xs ↔ xs = [] := by
  simp [Between]

private theorem between_cons {a b k : ℕ} {as bs xs : List ℕ} :
    Between ((a + k) :: as) ((b + k) :: bs) xs ↔
      ∃ d, (a ≤ d ∧ d ≤ b) ∧ ∃ ys, Between as bs ys ∧ xs = (d + k) :: ys := by
  simp only [Between, List.zip_cons_cons, List.forall₂_cons_left_iff]
  constructor
  · rintro ⟨x, ys, hx, hys, rfl⟩
    obtain ⟨d, rfl⟩ := Nat.exists_eq_add_of_le' ((Nat.le_add_left k a).trans hx.1)
    exact ⟨d, by simpa using hx, ys, hys, rfl⟩
  · rintro ⟨d, hd, ys, hys, rfl⟩
    exact ⟨d + k, ys, by simpa using hd, hys, rfl⟩

private theorem trail_lt (v : ℕ) : v % 64 + 0x80 < 256 := by omega

private theorem digit_div {q r : ℕ} (hr : r < 64) : (q * 64 + r) / 64 = q := by omega

private theorem digit_mod {q r : ℕ} (hr : r < 64) : (q * 64 + r) % 64 = r := by omega

private theorem digits_two {d e f : ℕ} (he : e < 64) (hf : f < 64) :
    ((d * 64 + e) * 64 + f) / 4096 = d ∧ ((d * 64 + e) * 64 + f) / 64 % 64 = e ∧
      ((d * 64 + e) * 64 + f) % 64 = f := by
  have h (x : ℕ) : x / 4096 = x / 64 / 64 := (Nat.div_div_eq_div_mul x 64 64).symm
  simp only [h, digit_div he, digit_div hf, digit_mod he, digit_mod hf, and_self]

private theorem digits_three {c d e f : ℕ} (hd : d < 64) (he : e < 64) (hf : f < 64) :
    (((c * 64 + d) * 64 + e) * 64 + f) / 262144 = c ∧
      (((c * 64 + d) * 64 + e) * 64 + f) / 4096 % 64 = d ∧
      (((c * 64 + d) * 64 + e) * 64 + f) / 64 % 64 = e ∧
      (((c * 64 + d) * 64 + e) * 64 + f) % 64 = f := by
  have h (x : ℕ) : x / 262144 = x / 4096 / 64 := (Nat.div_div_eq_div_mul x 4096 64).symm
  obtain ⟨hq, hrest⟩ := digits_two (d := c * 64 + d) he hf
  simp only [h, hq, digit_div hd, digit_mod hd, hrest, and_self]

private theorem holds_one {lo hi : ℕ} (hhi : hi ≤ 0x7F) (hle : lo ≤ hi)
    (hv : ∀ v, lo ≤ v → v ≤ hi → v.isValidChar) (bs : List UInt8) :
    Holds (ofEnds lo hi) bs ↔ ∃ v, lo ≤ v ∧ v ≤ hi ∧ bs = encodeCode v := by
  refine holds_of_between (fun v => [v + 0]) hle
    (fun v hl hr => encodeCode_of_le_one (hv v hl hr) (hr.trans hhi)) (fun v hl hr x hx => ?_)
    (fun xs => ?_) bs
  · rw [List.mem_singleton.mp hx]
    omega
  · simp only [between_cons, between_nil]
    constructor
    · rintro ⟨v, ⟨hl, hr⟩, _, rfl, rfl⟩
      exact ⟨v, hl, hr, rfl⟩
    · rintro ⟨v, hl, hr, rfl⟩
      exact ⟨v, ⟨hl, hr⟩, [], rfl, rfl⟩

private theorem holds_two {lo hi : ℕ} (hlo : 0x7F < lo) (hhi : hi ≤ 0x7FF) (hle : lo ≤ hi)
    (hv : ∀ v, lo ≤ v → v ≤ hi → v.isValidChar)
    (h₁ : lo / 64 = hi / 64 ∨ lo % 64 = 0 ∧ hi % 64 = 63) (bs : List UInt8) :
    Holds (ofEnds lo hi) bs ↔ ∃ v, lo ≤ v ∧ v ≤ hi ∧ bs = encodeCode v := by
  refine holds_of_between (fun v => [v / 64 + 0xC0, v % 64 + 0x80]) hle
    (fun v hl hr => encodeCode_of_le_two (hv v hl hr) (hlo.trans_le hl) (hr.trans hhi))
    (fun v hl hr x hx => ?_) (fun xs => ?_) bs
  · simp only [List.mem_cons, List.not_mem_nil, or_false] at hx
    rcases hx with rfl | rfl
    · omega
    · exact trail_lt v
  · have hrange := fun v => mem_range_iff_div_mod (v := v) (show 0 < 64 by decide) h₁
    simp only [between_cons, between_nil]
    constructor
    · rintro ⟨e, he, _, ⟨f, hf, _, rfl, rfl⟩, rfl⟩
      have hlt : f < 64 := hf.2.trans_lt (Nat.mod_lt hi (by decide))
      obtain ⟨hl, hr⟩ := (hrange (e * 64 + f)).mpr (by
        rw [digit_div hlt, digit_mod hlt]
        exact ⟨he, hf⟩)
      exact ⟨_, hl, hr, by rw [digit_div hlt, digit_mod hlt]⟩
    · rintro ⟨v, hl, hr, rfl⟩
      obtain ⟨he, hf⟩ := (hrange v).mp ⟨hl, hr⟩
      exact ⟨_, he, _, ⟨_, hf, _, rfl, rfl⟩, rfl⟩

private theorem holds_three {lo hi : ℕ} (hlo : 0x7FF < lo) (hhi : hi ≤ 0xFFFF) (hle : lo ≤ hi)
    (hv : ∀ v, lo ≤ v → v ≤ hi → v.isValidChar)
    (h₁ : lo / 64 = hi / 64 ∨ lo % 64 = 0 ∧ hi % 64 = 63)
    (h₂ : lo / 4096 = hi / 4096 ∨ lo % 4096 = 0 ∧ hi % 4096 = 4095) (bs : List UInt8) :
    Holds (ofEnds lo hi) bs ↔ ∃ v, lo ≤ v ∧ v ≤ hi ∧ bs = encodeCode v := by
  refine holds_of_between (fun v => [v / 4096 + 0xE0, v / 64 % 64 + 0x80, v % 64 + 0x80]) hle
    (fun v hl hr => encodeCode_of_le_three (hv v hl hr) (hlo.trans_le hl) (hr.trans hhi))
    (fun v hl hr x hx => ?_) (fun xs => ?_) bs
  · simp only [List.mem_cons, List.not_mem_nil, or_false] at hx
    rcases hx with rfl | rfl | rfl
    · omega
    · exact trail_lt _
    · exact trail_lt v
  · have hrange := fun v => mem_range_iff_two (v := v) h₁ h₂
    simp only [between_cons, between_nil]
    constructor
    · rintro ⟨d, hd, _, ⟨e, he, _, ⟨f, hf, _, rfl, rfl⟩, rfl⟩, rfl⟩
      obtain ⟨hd', he', hf'⟩ := digits_two (d := d) (he.2.trans_lt (Nat.mod_lt _ (by decide)))
        (hf.2.trans_lt (Nat.mod_lt hi (by decide)))
      obtain ⟨hl, hr⟩ := (hrange ((d * 64 + e) * 64 + f)).mpr (by
        rw [hd', he', hf']
        exact ⟨hd, he, hf⟩)
      exact ⟨_, hl, hr, by rw [hd', he', hf']⟩
    · rintro ⟨v, hl, hr, rfl⟩
      obtain ⟨hd, he, hf⟩ := (hrange v).mp ⟨hl, hr⟩
      exact ⟨_, hd, _, ⟨_, he, _, ⟨_, hf, _, rfl, rfl⟩, rfl⟩, rfl⟩

private theorem holds_four {lo hi : ℕ} (hlo : 0xFFFF < lo) (hle : lo ≤ hi)
    (hv : ∀ v, lo ≤ v → v ≤ hi → v.isValidChar)
    (h₁ : lo / 64 = hi / 64 ∨ lo % 64 = 0 ∧ hi % 64 = 63)
    (h₂ : lo / 4096 = hi / 4096 ∨ lo % 4096 = 0 ∧ hi % 4096 = 4095)
    (h₃ : lo / 262144 = hi / 262144 ∨ lo % 262144 = 0 ∧ hi % 262144 = 262143)
    (bs : List UInt8) :
    Holds (ofEnds lo hi) bs ↔ ∃ v, lo ≤ v ∧ v ≤ hi ∧ bs = encodeCode v := by
  refine holds_of_between (fun v => [v / 262144 + 0xF0, v / 4096 % 64 + 0x80, v / 64 % 64 + 0x80,
      v % 64 + 0x80]) hle
    (fun v hl hr => encodeCode_of_le_four (hv v hl hr) (hlo.trans_le hl)) (fun v hl hr x hx => ?_)
    (fun xs => ?_) bs
  · simp only [List.mem_cons, List.not_mem_nil, or_false] at hx
    rcases hx with rfl | rfl | rfl | rfl
    · have hmax : v < 0x110000 := (hv v hl hr).elim (by omega) And.right
      clear h₁ h₂ h₃
      omega
    · exact trail_lt _
    · exact trail_lt _
    · exact trail_lt v
  · have hrange := fun v => mem_range_iff_three (v := v) h₁ h₂ h₃
    simp only [between_cons, between_nil]
    constructor
    · rintro ⟨c, hc, _, ⟨d, hd, _, ⟨e, he, _, ⟨f, hf, _, rfl, rfl⟩, rfl⟩, rfl⟩, rfl⟩
      obtain ⟨hc', hd', he', hf'⟩ := digits_three (c := c)
        (hd.2.trans_lt (Nat.mod_lt _ (by decide))) (he.2.trans_lt (Nat.mod_lt _ (by decide)))
        (hf.2.trans_lt (Nat.mod_lt hi (by decide)))
      obtain ⟨hl, hr⟩ := (hrange (((c * 64 + d) * 64 + e) * 64 + f)).mpr (by
        rw [hc', hd', he', hf']
        exact ⟨hc, hd, he, hf⟩)
      exact ⟨_, hl, hr, by rw [hc', hd', he', hf']⟩
    · rintro ⟨v, hl, hr, rfl⟩
      obtain ⟨hc, hd, he, hf⟩ := (hrange v).mp ⟨hl, hr⟩
      exact ⟨_, hc, _, ⟨_, hd, _, ⟨_, he, _, ⟨_, hf, _, rfl, rfl⟩, rfl⟩, rfl⟩, rfl⟩

/-- A range that is not cut is the product of the ranges of its digits to base 64. -/
private theorem holds_ofEnds {lo hi : ℕ} (hle : lo ≤ hi)
    (hv : ∀ v, lo ≤ v → v ≤ hi → v.isValidChar) (hcut : cut? lo hi = none) (bs : List UInt8) :
    Holds (ofEnds lo hi) bs ↔ ∃ v, lo ≤ v ∧ v ≤ hi ∧ bs = encodeCode v := by
  obtain ⟨hlen, hblocks⟩ := Option.or_eq_none_iff.mp hcut
  have hone := lengthCut?_eq_none (m := 0x7F) hlen (by decide)
  have htwo := lengthCut?_eq_none (m := 0x7FF) hlen (by decide)
  have hthree := lengthCut?_eq_none (m := 0xFFFF) hlen (by decide)
  by_cases h : hi ≤ 0x7F
  · exact holds_one h hle hv bs
  · rw [if_neg h, Option.or_eq_none_iff, Option.or_eq_none_iff] at hblocks
    have h₁ := blockCut?_eq_none hblocks.1
    have h₂ := blockCut?_eq_none hblocks.2.1
    have h₃ := blockCut?_eq_none hblocks.2.2
    by_cases h' : hi ≤ 0x7FF
    · exact holds_two (by omega) h' hle hv h₁ bs
    · by_cases h'' : hi ≤ 0xFFFF
      · exact holds_three (by omega) h'' hle hv h₁ h₂ bs
      · exact holds_four (by omega) hle hv h₁ h₂ h₃ bs

private theorem exists_mem_ofCodes {lo hi : ℕ} (hv : ∀ v, lo ≤ v → v ≤ hi → v.isValidChar)
    (bs : List UInt8) :
    (∃ s ∈ ofCodes lo hi, Holds s bs) ↔ ∃ v, lo ≤ v ∧ v ≤ hi ∧ bs = encodeCode v := by
  fun_induction ofCodes lo hi with
  | case1 lo hi hlt =>
    constructor
    · rintro ⟨s, hs, -⟩
      exact absurd hs List.not_mem_nil
    · rintro ⟨v, hl, hr, -⟩
      omega
  | case2 lo hi hlt c hc ih₁ ih₂ =>
    obtain ⟨hl, hr⟩ := cut?_bounds (by omega) hc
    simp only [List.mem_append, or_and_right, exists_or, ih₁ fun v hlv hvr => hv v hlv (by omega),
      ih₂ fun v hlv hvr => hv v (by omega) hvr]
    constructor
    · rintro (⟨v, hlv, hvr, hbs⟩ | ⟨v, hlv, hvr, hbs⟩)
      · exact ⟨v, hlv, by omega, hbs⟩
      · exact ⟨v, by omega, hvr, hbs⟩
    · rintro ⟨v, hlv, hvr, hbs⟩
      rcases Nat.lt_or_ge c v with h | h
      · exact .inr ⟨v, h, hvr, hbs⟩
      · exact .inl ⟨v, hlv, h, hbs⟩
  | case3 lo hi hlt hc =>
    simp only [List.mem_singleton, exists_eq_left]
    exact holds_ofEnds (by omega) hv hc bs

private theorem exists_code_iff {lo hi : ℕ} (hv : ∀ v, lo ≤ v → v ≤ hi → v.isValidChar)
    {bs : List UInt8} : (∃ v, lo ≤ v ∧ v ≤ hi ∧ bs = encodeCode v) ↔
      ∃ c : Char, (lo ≤ c.toNat ∧ c.toNat ≤ hi) ∧ bs = String.utf8EncodeChar c := by
  constructor
  · rintro ⟨v, hl, hr, rfl⟩
    have : (Char.ofNat v).toNat = v := toNat_val_ofNat (hv v hl hr)
    exact ⟨Char.ofNat v, by rw [this]; exact ⟨hl, hr⟩, rfl⟩
  · rintro ⟨c, ⟨hl, hr⟩, rfl⟩
    exact ⟨c.toNat, hl, hr, by rw [encodeCode, Char.ofNat_toNat]⟩

private theorem isValidChar_of_le {v : ℕ} (h : v ≤ 0xD7FF) : v.isValidChar := .inl (by omega)

private theorem isValidChar_of_ge {v : ℕ} {c : Char} (hl : 0xE000 ≤ v) (hr : v ≤ c.toNat) : v.isValidChar := by
  have hvalid : c.toNat < 0xD800 ∨ 0xDFFF < c.toNat ∧ c.toNat < 0x110000 := c.valid
  exact .inr ⟨by omega, by omega⟩

/-- A range that is on one side of the surrogates has none of them. -/
private theorem isValidChar_of_side {r : Interval Char} {v : ℕ} (hside : r.lo.toNat < 0xE000 → r.hi.toNat ≤ 0xD7FF)
    (hl : r.lo.toNat ≤ v) (hr : v ≤ r.hi.toNat) : v.isValidChar := by
  rcases Nat.lt_or_ge r.lo.toNat 0xE000 with h | h
  · exact isValidChar_of_le (hr.trans (hside h))
  · exact isValidChar_of_ge (h.trans hl) hr

/-- The byte sequences of a range of scalar values hold the encodings of those in the range, and no
other byte strings. -/
theorem exists_mem_ofInterval (r : Interval Char) (bs : List UInt8) :
    (∃ s ∈ ofInterval r, Holds s bs) ↔ ∃ c, r.contains c ∧ bs = String.utf8EncodeChar c := by
  simp only [Interval.contains, Alphabet.code, Bool.and_eq_true, decide_eq_true_eq]
  unfold ofInterval
  split
  · rename_i hgap
    simp only [Bool.and_eq_true, decide_eq_true_eq] at hgap
    have hlow : ∀ v, r.lo.toNat ≤ v → v ≤ 0xD7FF → v.isValidChar := fun _ _ => isValidChar_of_le
    have hhigh : ∀ v, 0xE000 ≤ v → v ≤ r.hi.toNat → v.isValidChar := fun _ => isValidChar_of_ge
    simp only [List.mem_append, or_and_right, exists_or, exists_mem_ofCodes hlow,
      exists_mem_ofCodes hhigh, exists_code_iff hlow, exists_code_iff hhigh]
    constructor
    · rintro (⟨c, ⟨hl, hr⟩, hbs⟩ | ⟨c, ⟨hl, hr⟩, hbs⟩)
      · exact ⟨c, ⟨hl, by omega⟩, hbs⟩
      · exact ⟨c, ⟨by omega, hr⟩, hbs⟩
    · rintro ⟨c, ⟨hl, hr⟩, hbs⟩
      have hvalid : c.toNat < 0xD800 ∨ 0xDFFF < c.toNat ∧ c.toNat < 0x110000 := c.valid
      rcases hvalid with h | h
      · exact .inl ⟨c, ⟨hl, by omega⟩, hbs⟩
      · exact .inr ⟨c, ⟨by omega, hr⟩, hbs⟩
  · rename_i hgap
    simp only [Bool.and_eq_true, decide_eq_true_eq, not_and, not_lt] at hgap
    have hv : ∀ v, r.lo.toNat ≤ v → v ≤ r.hi.toNat → v.isValidChar := fun _ => isValidChar_of_side hgap
    rw [exists_mem_ofCodes hv, exists_code_iff hv]

private theorem holds_of_mem_ofCodes {lo hi : ℕ} (hv : ∀ v, lo ≤ v → v ≤ hi → v.isValidChar) {s : ByteSequence}
    (hs : s ∈ ofCodes lo hi) : ∃ bs, Holds s bs := by
  fun_induction ofCodes lo hi with
  | case1 => exact absurd hs List.not_mem_nil
  | case2 lo hi hlt c hc ih₁ ih₂ =>
    obtain ⟨hl, hr⟩ := cut?_bounds (by omega) hc
    rcases List.mem_append.mp hs with hs | hs
    · exact ih₁ (fun v hlv hvr => hv v hlv (by omega)) hs
    · exact ih₂ (fun v hlv hvr => hv v (by omega) hvr) hs
  | case3 lo hi hlt hc =>
    obtain rfl := List.mem_singleton.mp hs
    exact ⟨encodeCode lo, (holds_ofEnds (by omega) hv hc _).mpr ⟨lo, le_rfl, by omega, rfl⟩⟩

theorem lo_le_hi_of_mem_ofInterval {r : Interval Char} {s : ByteSequence} (hs : s ∈ ofInterval r) :
    ∀ x ∈ s, x.lo ≤ x.hi := by
  have hholds : ∃ bs, Holds s bs := by
    unfold ofInterval at hs
    split at hs
    · rcases List.mem_append.mp hs with hs | hs
      · exact holds_of_mem_ofCodes (fun _ _ => isValidChar_of_le) hs
      · exact holds_of_mem_ofCodes (fun _ => isValidChar_of_ge) hs
    · rename_i hgap
      simp only [Bool.and_eq_true, decide_eq_true_eq, not_and, not_lt] at hgap
      exact holds_of_mem_ofCodes (fun _ => isValidChar_of_side hgap) hs
  obtain ⟨bs, hbs⟩ := hholds
  clear hs
  intro x hx
  induction hbs with
  | nil => exact absurd hx List.not_mem_nil
  | cons hb _ ih =>
    rcases List.mem_cons.mp hx with rfl | hx
    · simp only [Interval.contains, Alphabet.code, Bool.and_eq_true, decide_eq_true_eq] at hb
      exact UInt8.le_iff_toNat_le.mpr (hb.1.trans hb.2)
    · exact ih hx

end ConstrainedDecoding.ByteSequence
