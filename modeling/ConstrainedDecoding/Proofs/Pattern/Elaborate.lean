import ConstrainedDecoding.Automaton.Compile
import ConstrainedDecoding.Proofs.Except
import ConstrainedDecoding.Proofs.Pattern.Utf8
import Mathlib

/-! Patterns are expressions over characters. Byte classes are kept to ASCII when they are read, and nothing
that simplifies an expression or joins classes adds other bytes. -/
namespace ConstrainedDecoding

namespace IntervalSet

def IsAscii (set : IntervalSet UInt8) : Prop := ∀ r ∈ set, r.hi ≤ 0x7F

theorem exists_hi_of_mem_coalesceFrom {α : Type} [Alphabet α] {cur r : Interval α}
    {rs : List (Interval α)} (h : r ∈ coalesceFrom cur rs) : ∃ s ∈ cur :: rs, r.hi = s.hi := by
  induction rs generalizing cur with
  | nil => exact ⟨cur, List.mem_cons_self, by rw [List.mem_singleton.mp h]⟩
  | cons s rs ih =>
    rw [coalesceFrom] at h
    split at h
    · obtain ⟨t, ht, hhi⟩ := ih h
      rcases List.mem_cons.mp ht with rfl | ht
      · split at hhi
        · exact ⟨s, by simp, hhi⟩
        · exact ⟨cur, by simp, hhi⟩
      · exact ⟨t, by simp [ht], hhi⟩
    · rcases List.mem_cons.mp h with rfl | h
      · exact ⟨r, by simp, rfl⟩
      · obtain ⟨t, ht, hhi⟩ := ih h
        exact ⟨t, List.mem_cons_of_mem _ ht, hhi⟩

theorem exists_hi_of_mem_ofList {α : Type} [Alphabet α] {r : Interval α} {rs : List (Interval α)}
    (h : r ∈ ofList rs) : ∃ s ∈ rs, r.hi = s.hi := by
  unfold ofList at h
  split at h
  · simp at h
  · rename_i hsort
    obtain ⟨s, hs, hhi⟩ := exists_hi_of_mem_coalesceFrom h
    rw [← hsort, List.mem_mergeSort] at hs
    exact ⟨s, hs, hhi⟩

theorem isAscii_ofList {rs : List (Interval UInt8)} (h : IsAscii rs) : IsAscii (ofList rs) := by
  intro r hr
  obtain ⟨s, hs, hhi⟩ := exists_hi_of_mem_ofList hr
  exact hhi ▸ h s hs

theorem exists_of_mem_inter {α : Type} [Alphabet α] {r : Interval α} {s t : IntervalSet α}
    (h : r ∈ inter s t) :
    ∃ b ∈ t, Alphabet.code b.lo ≤ Alphabet.code r.hi ∧ Alphabet.code r.hi ≤ Alphabet.code b.hi := by
  fun_induction inter s t with
  | case1 | case2 => simp at h
  | case3 a as b bs lo hi rest hle ih₂ ih₁ =>
    have hlo : Alphabet.code b.lo ≤ Alphabet.code lo := by
      simp only [lo]
      split <;> omega
    have hhi : Alphabet.code hi ≤ Alphabet.code b.hi := by
      simp only [hi]
      split <;> omega
    rcases List.mem_cons.mp h with rfl | h
    · exact ⟨b, List.mem_cons_self, Nat.le_trans hlo hle, hhi⟩
    · simp only [rest] at h
      split at h
      · exact ih₂ h
      · obtain ⟨c, hc, hbounds⟩ := ih₁ h
        exact ⟨c, List.mem_cons_of_mem _ hc, hbounds⟩
  | case4 a as b bs lo hi rest hle ih₂ ih₁ =>
    simp only [rest] at h
    split at h
    · exact ih₂ h
    · obtain ⟨c, hc, hbounds⟩ := ih₁ h
      exact ⟨c, List.mem_cons_of_mem _ hc, hbounds⟩

end IntervalSet

namespace Pattern
open IntervalSet (IsAscii)

theorem Flags.isAscii_foldBytes {f : Flags} {set : IntervalSet UInt8} (h : IsAscii set) :
    IsAscii (f.foldBytes set) := by
  unfold foldBytes
  split
  · refine IntervalSet.isAscii_ofList fun r hr => ?_
    simp only [List.mem_append, List.mem_map] at hr
    rcases hr with (hr | ⟨s, hs, rfl⟩) | ⟨s, hs, rfl⟩
    · exact h r hr
    · obtain ⟨b, hb, hlo, hhi⟩ := IntervalSet.exists_of_mem_inter hs
      obtain rfl : b = ⟨0x61, 0x7A⟩ := List.mem_singleton.mp hb
      have hlo : 0x61 ≤ s.hi.toNat := hlo
      have hhi : s.hi.toNat ≤ 0x7A := hhi
      have hle : 32 ≤ s.hi := UInt8.le_iff_toNat_le.mpr (Nat.le_trans (by decide) hlo)
      rw [UInt8.le_iff_toNat_le, UInt8.toNat_sub_of_le _ _ hle]
      exact Nat.le_trans (Nat.sub_le _ _) (Nat.le_trans hhi (by decide))
    · obtain ⟨b, hb, hlo, hhi⟩ := IntervalSet.exists_of_mem_inter hs
      obtain rfl : b = ⟨0x41, 0x5A⟩ := List.mem_singleton.mp hb
      have hhi : s.hi.toNat ≤ 0x5A := hhi
      have hsum : (s.hi + 32).toNat = s.hi.toNat + 32 := by
        rw [UInt8.toNat_add]
        exact Nat.mod_eq_of_lt (Nat.lt_of_le_of_lt (Nat.add_le_add_right hhi 32) (by decide))
      rw [UInt8.le_iff_toNat_le, hsum]
      exact Nat.add_le_add_right (Nat.le_trans hhi (by decide)) 32
  · exact h

theorem isAscii_of_requireAscii {set set' : IntervalSet UInt8} (h : Flags.requireAscii set = .ok set') :
    IsAscii set' := by
  unfold Flags.requireAscii at h
  split at h
  · rename_i hall
    obtain rfl := Except.ok.inj h
    intro r hr
    simpa using List.all_eq_true.mp hall r hr
  · simp at h

namespace Expr

mutual

/-- Literals are encodings of characters, and byte classes are made of ASCII ranges. Simplification looks
at the ranges of a class and not at the bytes in it, so even a range without bytes has to end in ASCII. -/
def OverChars : Expr → Prop
  | empty | scalars _ | assertion _ => True
  | literal bs => Utf8.Valid bs
  | bytes set => IsAscii set
  | repetition sub _ _ _ | capture _ sub => sub.OverChars
  | concat subs | alternation subs => AreOverChars subs

def AreOverChars : List Expr → Prop
  | [] => True
  | e :: es => e.OverChars ∧ AreOverChars es

end

mutual

theorem OverChars.isUtf8 : ∀ {e : Expr}, e.OverChars → e.IsUtf8
  | .empty, _ | .scalars _, _ | .assertion _, _ => trivial
  | .literal _, h => h
  | .bytes set, h => by
    intro b hb
    obtain ⟨r, hr, hrange⟩ := List.any_eq_true.mp hb
    have hle : b ≤ r.hi := by
      have := (Bool.and_eq_true _ _).mp hrange
      exact UInt8.le_iff_toNat_le.mpr (of_decide_eq_true this.2)
    exact UInt8.lt_of_le_of_lt (UInt8.le_trans hle (h r hr)) (by decide)
  | .repetition sub _ _ _, h | .capture _ sub, h => OverChars.isUtf8 (e := sub) h
  | .concat _, h => areUtf8_of_areOverChars h
  | .alternation _, h => areUtf8_of_areOverChars h

theorem areUtf8_of_areOverChars : ∀ {es : List Expr}, AreOverChars es → AreUtf8 es
  | [], _ => trivial
  | _ :: _, h => ⟨h.1.isUtf8, areUtf8_of_areOverChars h.2⟩

end

theorem areOverChars_iff {es : List Expr} : AreOverChars es ↔ ∀ e ∈ es, e.OverChars := by
  induction es with
  | nil => simp [AreOverChars]
  | cons e es ih => rw [AreOverChars, ih, List.forall_mem_cons]

theorem overChars_fail : fail.OverChars := nofun

theorem overChars_ofScalars (set : IntervalSet Char) : (ofScalars set).OverChars := by
  unfold ofScalars
  split
  · exact overChars_fail
  · split
    · exact .encodeChar _
    · trivial
  · trivial

theorem overChars_ofBytes {set : IntervalSet UInt8} (h : IsAscii set) : (ofBytes set).OverChars := by
  unfold ofBytes
  split
  · exact overChars_fail
  · rename_i r
    split
    · have hle : r.lo ≤ 0x7F := ‹r.lo = r.hi› ▸ h r List.mem_cons_self
      exact .ascii (UInt8.lt_of_le_of_lt hle (by decide))
    · exact h
  · exact h

theorem overChars_mkRepetition {e : Expr} (he : e.OverChars) (min : ℕ) (max : Option ℕ) (greedy : Bool) :
    (e.mkRepetition min max greedy).OverChars := by
  unfold mkRepetition
  generalize (if e.isZeroWidth then _ else (min, max)) = counts
  dsimp only
  split
  · trivial
  · split
    · exact he
    · exact he

theorem overChars_joinLiterals {es : List Expr} (h : ∀ e ∈ es, e.OverChars) :
    ∀ e ∈ joinLiterals es, e.OverChars := by
  fun_induction joinLiterals es with
  | case1 => simp
  | case2 es ih => exact ih (List.forall_mem_cons.mp h).2
  | case3 bs es cs rest hjoin ih =>
    obtain ⟨hbs, hes⟩ := List.forall_mem_cons.mp h
    have hrest := ih hes
    rw [hjoin] at hrest
    obtain ⟨hcs, hrest⟩ := List.forall_mem_cons.mp hrest
    exact List.forall_mem_cons.mpr ⟨Utf8.Valid.append hbs hcs, hrest⟩
  | case4 bs es _ ih =>
    obtain ⟨hbs, hes⟩ := List.forall_mem_cons.mp h
    exact List.forall_mem_cons.mpr ⟨hbs, ih hes⟩
  | case5 e es _ _ ih =>
    obtain ⟨he, hes⟩ := List.forall_mem_cons.mp h
    exact List.forall_mem_cons.mpr ⟨he, ih hes⟩

theorem overChars_mkConcat {es : List Expr} (h : ∀ e ∈ es, e.OverChars) : (mkConcat es).OverChars := by
  have hparts : ∀ e ∈ es.flatMap concatParts, e.OverChars := by
    intro part hpart
    obtain ⟨e, he, hpart⟩ := List.mem_flatMap.mp hpart
    have hover := h e he
    unfold concatParts at hpart
    split at hpart
    · exact areOverChars_iff.mp hover part hpart
    · exact List.mem_singleton.mp hpart ▸ hover
  have hjoin := overChars_joinLiterals hparts
  unfold mkConcat
  split
  · trivial
  · rename_i e heq
    exact hjoin e (heq ▸ List.mem_singleton_self e)
  · exact areOverChars_iff.mpr hjoin

theorem exists_of_mem_mapM {α β : Type} {f : α → Option β} {xs : List α} {ys : List β}
    (h : xs.mapM f = some ys) : ∀ y ∈ ys, ∃ x ∈ xs, f x = some y := by
  induction xs generalizing ys with
  | nil =>
    obtain rfl : [] = ys := by simpa using h
    simp
  | cons x xs ih =>
    simp only [List.mapM_cons, Option.bind_eq_bind, Option.bind_eq_some_iff, Option.pure_def,
      Option.some.injEq] at h
    obtain ⟨y, hy, ys', hys, rfl⟩ := h
    intro z hz
    rcases List.mem_cons.mp hz with rfl | hz
    · exact ⟨x, List.mem_cons_self, hy⟩
    · obtain ⟨x', hx', hz⟩ := ih hys z hz
      exact ⟨x', List.mem_cons_of_mem _ hx', hz⟩

theorem isAscii_of_singleByte? {e : Expr} (he : e.OverChars) {r : Interval UInt8}
    (h : e.singleByte? = some r) : r.hi ≤ 0x7F := by
  unfold singleByte? at h
  split at h
  · obtain rfl := Option.some.inj h
    have hlt := UInt8.lt_iff_toNat_lt.mp (Utf8.Valid.lt_of_singleton he)
    exact UInt8.le_iff_toNat_le.mpr (Nat.le_of_lt_succ hlt)
  · simp at h

theorem isAscii_of_byteClass? {e : Expr} (he : e.OverChars) {set : IntervalSet UInt8}
    (h : e.byteClass? = some set) : IsAscii set := by
  unfold byteClass? at h
  split at h
  · intro r hr
    obtain ⟨s, -, hs⟩ := exists_of_mem_mapM h r hr
    split at hs
    · rename_i hle
      obtain rfl := Option.some.inj hs
      have hcode : s.hi.toNat.toUInt8.toNat = s.hi.toNat :=
        Nat.mod_eq_of_lt (Nat.lt_of_le_of_lt hle (by decide))
      rw [UInt8.le_iff_toNat_le, hcode]
      exact hle
    · simp at hs
  · obtain rfl := Option.some.inj h
    exact he
  · simp at h

theorem overChars_mergeAlternatives? {es : List Expr} (h : ∀ e ∈ es, e.OverChars) {e : Expr}
    (he : mergeAlternatives? es = some e) : e.OverChars := by
  simp only [mergeAlternatives?, Option.or_eq_some_iff, Option.map_eq_some_iff] at he
  rcases he with ⟨rs, -, rfl⟩ | ⟨-, ⟨rs, hrs, rfl⟩ | ⟨-, ⟨sets, -, rfl⟩ | ⟨-, sets, hsets, rfl⟩⟩⟩
  · exact overChars_ofScalars _
  · refine overChars_ofBytes (IntervalSet.isAscii_ofList fun r hr => ?_)
    obtain ⟨e, he, hr⟩ := exists_of_mem_mapM hrs r hr
    exact isAscii_of_singleByte? (h e he) hr
  · exact overChars_ofScalars _
  · refine overChars_ofBytes (IntervalSet.isAscii_ofList fun r hr => ?_)
    obtain ⟨set, hset, hr⟩ := List.mem_flatten.mp hr
    obtain ⟨e, he, hset⟩ := exists_of_mem_mapM hsets set hset
    exact isAscii_of_byteClass? (h e he) hset r hr

theorem overChars_alternatives {es : List Expr} (h : ∀ e ∈ es, e.OverChars) :
    ∀ e ∈ es.flatMap alternatives, e.OverChars := by
  intro part hpart
  obtain ⟨e, he, hpart⟩ := List.mem_flatMap.mp hpart
  have hover := h e he
  unfold alternatives at hpart
  split at hpart
  · exact areOverChars_iff.mp hover part hpart
  · exact List.mem_singleton.mp hpart ▸ hover

theorem overChars_getD_mergeAlternatives? {es : List Expr} (h : ∀ e ∈ es, e.OverChars) {e : Expr}
    (he : e.OverChars) : ((mergeAlternatives? es).getD e).OverChars := by
  cases hmerge : mergeAlternatives? es with
  | none => exact he
  | some e' => exact overChars_mergeAlternatives? h hmerge

theorem overChars_alternationOf {es : List Expr} (h : ∀ e ∈ es, e.OverChars) :
    (alternationOf es).OverChars := by
  have hparts := overChars_alternatives h
  unfold alternationOf
  split
  · exact overChars_fail
  · rename_i e heq
    exact hparts e (heq ▸ List.mem_singleton_self e)
  · exact overChars_getD_mergeAlternatives? hparts (areOverChars_iff.mpr hparts)

theorem commonParts_subset (first : List Expr) (rest : List (List Expr)) :
    commonParts first rest ⊆ first := by
  induction rest generalizing first with
  | nil => exact List.Subset.refl first
  | cons es rest ih => exact List.Subset.trans (ih _) (List.take_subset _ first)

theorem overChars_factor? {es : List Expr} (h : ∀ e ∈ es, e.OverChars) {e : Expr}
    (he : factor? es = some e) : e.OverChars := by
  unfold factor? at he
  split at he
  · rename_i first rest hparts
    have hall : ∀ parts ∈ first :: rest, ∀ e ∈ parts, e.OverChars := by
      intro parts hmem
      obtain ⟨e, he, hconcat⟩ := exists_of_mem_mapM hparts parts hmem
      have hover := h e he
      unfold concatParts? at hconcat
      split at hconcat
      · obtain rfl := Option.some.inj hconcat
        exact areOverChars_iff.mp hover
      · simp at hconcat
    split at he
    · simp at he
    · obtain rfl := Option.some.inj he
      refine overChars_mkConcat fun part hpart => ?_
      rcases List.mem_append.mp hpart with hpart | hpart
      · exact hall first List.mem_cons_self part (commonParts_subset first rest hpart)
      · rw [List.mem_singleton.mp hpart]
        refine overChars_alternationOf fun tail htail => ?_
        obtain ⟨parts, hmem, rfl⟩ := List.mem_map.mp htail
        exact overChars_mkConcat fun e he => hall parts hmem e (List.mem_of_mem_drop he)
  · simp at he

theorem overChars_mkAlternation {es : List Expr} (h : ∀ e ∈ es, e.OverChars) :
    (mkAlternation es).OverChars := by
  have hparts := overChars_alternatives h
  unfold mkAlternation
  split
  · exact overChars_fail
  · rename_i e heq
    exact hparts e (heq ▸ List.mem_singleton_self e)
  · refine overChars_getD_mergeAlternatives? hparts ?_
    cases hfactor : factor? (es.flatMap alternatives) with
    | none => exact areOverChars_iff.mpr hparts
    | some e => exact overChars_factor? hparts hfactor

end Expr

namespace Flags

variable {f : Flags}

theorem isAscii_single_of_isAlpha {c : Char} (h : c.isAlpha) : IsAscii [.single c.toNat.toUInt8] := by
  intro r hr
  obtain rfl := List.mem_singleton.mp hr
  have hle : c.toNat ≤ 0x7A := by
    simp only [Char.isAlpha, Char.isUpper, Char.isLower, Bool.or_eq_true, Bool.and_eq_true,
      decide_eq_true_eq] at h
    rcases h with ⟨-, h⟩ | ⟨-, h⟩
    · exact Nat.le_trans (UInt32.le_iff_toNat_le.mp h) (by decide)
    · exact UInt32.le_iff_toNat_le.mp h
  have hcode : c.toNat.toUInt8.toNat = c.toNat :=
    Nat.mod_eq_of_lt (Nat.lt_of_le_of_lt hle (by decide))
  rw [UInt8.le_iff_toNat_le, Interval.single, hcode]
  exact Nat.le_trans hle (by decide)

theorem overChars_literal {l : Literal} {e : Expr} (h : f.literal l = .ok e) : e.OverChars := by
  simp only [literal, bind_eq_ok_iff] at h
  obtain ⟨c, -, h⟩ := h
  split at h
  · obtain rfl := pure_eq_ok_iff.mp h
    split
    · exact .encodeChar c
    · exact Expr.overChars_ofScalars _
  · split at h
    · rename_i hcase
      obtain rfl := pure_eq_ok_iff.mp h
      have halpha : c.isAlpha := ((Bool.and_eq_true _ _).mp hcase).2
      exact Expr.overChars_ofBytes (isAscii_foldBytes (isAscii_single_of_isAlpha halpha))
    · obtain rfl := pure_eq_ok_iff.mp h
      exact .encodeChar c

theorem overChars_dot {e : Expr} (h : f.dot = .ok e) : e.OverChars := by
  simp only [dot] at h
  split at h
  · simp at h
  · split at h
    · exact Except.ok.inj h ▸ trivial
    · split at h
      · exact Except.ok.inj h ▸ trivial
      · exact Except.ok.inj h ▸ trivial

mutual

/-- What a tree stands for is over characters, whatever flags are in force. -/
theorem overChars_elaborate : ∀ (t : Ast) {f f' : Flags} {e : Expr}, f.elaborate t = .ok (e, f') →
    e.OverChars
  | .empty, f, f', e, h | .flags _, f, f', e, h | .boundary _, f, f', e, h => by
    simp only [elaborate, Except.ok.injEq, Prod.mk.injEq] at h
    exact h.1 ▸ trivial
  | .literal l, f, f', e, h => by
    simp only [elaborate, bind_eq_ok_iff, pure_eq_ok_iff, Prod.mk.injEq] at h
    obtain ⟨e, he, rfl, -⟩ := h
    exact overChars_literal he
  | .dot, f, f', e, h => by
    simp only [elaborate, bind_eq_ok_iff, pure_eq_ok_iff, Prod.mk.injEq] at h
    obtain ⟨e, he, rfl, -⟩ := h
    exact overChars_dot he
  | .property _ _, f, f', e, h => by
    simp only [elaborate, bind_eq_ok_iff, pure_eq_ok_iff, Prod.mk.injEq] at h
    obtain ⟨set, -, rfl, -⟩ := h
    exact Expr.overChars_ofScalars _
  | .perl kind negated, f, f', e, h => by
    simp only [elaborate] at h
    split at h
    · simp only [Except.ok.injEq, Prod.mk.injEq] at h
      exact h.1 ▸ Expr.overChars_ofScalars _
    · simp only [bind_eq_ok_iff, pure_eq_ok_iff, Prod.mk.injEq] at h
      obtain ⟨set, hset, rfl, -⟩ := h
      exact Expr.overChars_ofBytes (isAscii_of_requireAscii hset)
  | .bracketed negated body, f, f', e, h => by
    simp only [elaborate] at h
    split at h
    · simp only [bind_eq_ok_iff, pure_eq_ok_iff, Prod.mk.injEq] at h
      obtain ⟨set, -, rfl, -⟩ := h
      exact Expr.overChars_ofScalars _
    · simp only [bind_eq_ok_iff, pure_eq_ok_iff, Prod.mk.injEq] at h
      obtain ⟨_, -, set, hset, rfl, -⟩ := h
      exact Expr.overChars_ofBytes (isAscii_of_requireAscii hset)
  | .repetition sub min max greedy, f, f', e, h => by
    simp only [elaborate, bind_eq_ok_iff, pure_eq_ok_iff, Prod.mk.injEq] at h
    obtain ⟨⟨e, f⟩, he, rfl, -⟩ := h
    exact Expr.overChars_mkRepetition (overChars_elaborate sub he) ..
  | .group (.capture _) sub, f, f', e, h => by
    simp only [elaborate, bind_eq_ok_iff, pure_eq_ok_iff, Prod.mk.injEq] at h
    obtain ⟨⟨e, _⟩, he, rfl, -⟩ := h
    have hsub : e.OverChars := overChars_elaborate sub he
    exact hsub
  | .group (.scoped _) sub, f, f', e, h => by
    simp only [elaborate, bind_eq_ok_iff, pure_eq_ok_iff, Prod.mk.injEq] at h
    obtain ⟨⟨e, _⟩, he, rfl, -⟩ := h
    exact overChars_elaborate sub he
  | .alternation branches, f, f', e, h => by
    simp only [elaborate, bind_eq_ok_iff, pure_eq_ok_iff, Prod.mk.injEq] at h
    obtain ⟨⟨es, _⟩, hes, rfl, -⟩ := h
    exact Expr.overChars_mkAlternation (overChars_elaborateAll branches hes)
  | .concat items, f, f', e, h => by
    simp only [elaborate, bind_eq_ok_iff, pure_eq_ok_iff, Prod.mk.injEq] at h
    obtain ⟨⟨es, _⟩, hes, rfl, -⟩ := h
    exact Expr.overChars_mkConcat (overChars_elaborateAll items hes)

theorem overChars_elaborateAll : ∀ (ts : List Ast) {f f' : Flags} {es : List Expr},
    f.elaborateAll ts = .ok (es, f') → ∀ e ∈ es, e.OverChars
  | [], f, f', es, h => by
    simp only [elaborateAll, Except.ok.injEq, Prod.mk.injEq] at h
    simp [← h.1]
  | t :: ts, f, f', es, h => by
    simp only [elaborateAll, bind_eq_ok_iff, pure_eq_ok_iff, Prod.mk.injEq] at h
    obtain ⟨⟨e, f₁⟩, he, ⟨es, f₂⟩, hes, rfl, -⟩ := h
    exact List.forall_mem_cons.mpr ⟨overChars_elaborate t he, overChars_elaborateAll ts hes⟩

end

end Flags

/-- Every pattern is an expression over characters. -/
theorem Expr.isUtf8_ofString {text : String} {e : Expr} (h : ofString text = .ok e) : e.IsUtf8 := by
  simp only [ofString, bind_eq_ok_iff, pure_eq_ok_iff] at h
  obtain ⟨t, -, ⟨e, f⟩, he, rfl⟩ := h
  exact (Flags.overChars_elaborate t he).isUtf8

end Pattern

theorem Automaton.isUtf8_parsePattern {limits : CompileLimits} {text : String} {e : Pattern.Expr}
    (h : parsePattern limits text = .ok e) : e.IsUtf8 := by
  unfold parsePattern at h
  split at h
  · simp at h
  · cases hread : Pattern.Expr.ofString text with
    | error cause => simp [hread, Except.mapError] at h
    | ok e' =>
      rw [hread] at h
      exact Except.ok.inj h ▸ Pattern.Expr.isUtf8_ofString hread

end ConstrainedDecoding
