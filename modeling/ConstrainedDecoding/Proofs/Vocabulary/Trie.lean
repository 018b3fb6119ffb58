import ConstrainedDecoding.Proofs.Vocabulary.Children
import Mathlib.Data.List.Basic
import Mathlib.Data.List.Induction
import Mathlib.Order.Basic

/-! Tries stand for the tokens put into them: byte strings lead to nodes of their own, and a node has the
tokens that were put in with its bytes. -/
namespace ConstrainedDecoding.Trie

variable {t : Trie} {bs cs : List UInt8} {b c : UInt8} {m n : ℕ}

theorem find?_append (t : Trie) (bs cs : List UInt8) :
    t.find? (bs ++ cs) = (t.find? bs).bind fun n => cs.foldlM t.child? n := by
  rw [find?, List.foldlM_append]
  rfl

theorem find?_concat (t : Trie) (bs : List UInt8) (b : UInt8) :
    t.find? (bs ++ [b]) = (t.find? bs).bind fun n => t.child? n b := by
  simp [find?_append]

/-- Children have greater numbers and are sorted, every node is found, and by one byte string only. -/
structure WellFormed (t : Trie) : Prop where
  nonempty : 0 < t.size
  child : ∀ {n : ℕ} {b : UInt8} {c : ℕ}, t.child? n b = some c → n < c ∧ c < t.size
  ascending : ∀ n, Ascending (t.children n)
  found : ∀ n < t.size, ∃ bs, t.find? bs = some n
  injective : ∀ {bs cs : List UInt8} {n : ℕ}, t.find? bs = some n → t.find? cs = some n → bs = cs

theorem WellFormed.mem_children (h : t.WellFormed) : (b, n) ∈ t.children m ↔ t.child? m b = some n :=
  (h.ascending m).search_eq_some_iff.symm

/-- A path is no longer than the number of the node that it leads to. -/
theorem WellFormed.length_le (h : t.WellFormed) (hn : t.find? bs = some n) :
    bs.length ≤ n ∧ n < t.size := by
  induction bs using List.reverseRecOn generalizing n with
  | nil =>
    obtain rfl := Option.some.inj hn
    exact ⟨Nat.zero_le _, h.nonempty⟩
  | append_singleton bs b ih =>
    rw [find?_concat, Option.bind_eq_some_iff] at hn
    obtain ⟨m, hm, hc⟩ := hn
    obtain ⟨hlt, hsize⟩ := h.child hc
    have := (ih hm).1
    rw [List.length_append, List.length_singleton]
    exact ⟨by omega, hsize⟩

theorem children_of_le (hn : t.size ≤ n) : t.children n = [] := by
  simp [children, Array.getD_eq_getD_getElem?, Array.getElem?_eq_none hn]

theorem tokens_of_le (hn : t.size ≤ n) : t.tokens n = [] := by
  simp [tokens, Array.getD_eq_getD_getElem?, Array.getElem?_eq_none hn]

private theorem descend_of_none (hb : t.child? n b = none) :
    t.descend n b = ({ nodes := (t.nodes.modify n fun node =>
      { node with children := insertChild b t.size node.children }).push {} }, t.size) := by
  unfold descend
  rw [hb]

private theorem size_descend_of_none (hb : t.child? n b = none) :
    (t.descend n b).1.size = t.size + 1 := by
  rw [descend_of_none hb]
  simp [size]

private theorem getD_descend_of_none (hn : n < t.size) (hb : t.child? n b = none) (m : ℕ) :
    (t.descend n b).1.nodes.getD m {} =
      if m = n then { t.nodes.getD n {} with children := insertChild b t.size (t.children n) }
      else t.nodes.getD m {} := by
  rw [descend_of_none hb]
  have hsize : (t.nodes.modify n fun node =>
      { node with children := insertChild b t.size node.children }).size = t.size := Array.size_modify
  have hget : t.nodes[t.size]? = none := Array.getElem?_eq_none le_rfl
  simp only [Array.getD_eq_getD_getElem?, Array.getElem?_push, hsize, Array.getElem?_modify, children]
  by_cases hm : m = n
  · subst hm
    have : t.nodes[m]? = some t.nodes[m] := Array.getElem?_eq_getElem hn
    simp [hn.ne, this]
  · by_cases ht : m = t.size
    · subst ht
      simp [hm, hget]
    · simp [hm, ht, Ne.symm hm]

private theorem WellFormed.child?_descend_of_none (h : t.WellFormed) (hn : n < t.size)
    (hb : t.child? n b = none) (m : ℕ) (c : UInt8) :
    (t.descend n b).1.child? m c = if m = n ∧ c = b then some t.size else t.child? m c := by
  rw [child?, children, getD_descend_of_none hn hb]
  by_cases hm : m = n
  · subst hm
    simp only [if_true, true_and]
    exact (h.ascending m).search_insertChild hb
  · simp [hm, child?, children]

theorem tokens_descend (hn : n < t.size) (b : UInt8) (m : ℕ) :
    (t.descend n b).1.tokens m = t.tokens m := by
  cases hb : t.child? n b with
  | some c => simp [descend, hb]
  | none =>
    rw [tokens, getD_descend_of_none hn hb]
    by_cases hm : m = n
    · simp [hm, tokens]
    · simp [hm, tokens]

/-- Going down by a byte makes one more byte string found, and leaves the others. -/
theorem WellFormed.find?_descend (h : t.WellFormed) (hn : t.find? bs = some n) (b : UInt8)
    (cs : List UInt8) : (t.descend n b).1.find? cs =
      if cs = bs ++ [b] then some (t.descend n b).2 else t.find? cs := by
  cases hb : t.child? n b with
  | some c =>
    simp only [descend, hb]
    split
    · rename_i hcs
      rw [hcs, find?_concat, hn, Option.bind_some, hb]
    · rfl
  | none =>
    have hlt := (h.length_le hn).2
    have hnew : (t.descend n b).2 = t.size := by rw [descend_of_none hb]
    induction cs using List.reverseRecOn with
    | nil => simp [find?]
    | append_singleton cs c ih =>
      rw [find?_concat, ih, find?_concat, hnew]
      simp only [List.append_singleton_inj]
      by_cases hcs : cs = bs ++ [b]
      · -- nothing leads on from the new node, and nothing led to it before
        have hend : t.child? t.size c = none := by simp [child?, children_of_le]
        have hold : t.find? cs = none := by rw [hcs, find?_concat, hn, Option.bind_some, hb]
        have hne : cs ≠ bs := by
          intro heq
          simp [hcs] at heq
        rw [if_pos hcs, if_neg fun h => hne h.1, hold, Option.bind_some,
          h.child?_descend_of_none hlt hb, if_neg fun h => hlt.ne' h.1, hend, Option.bind_none]
      · rw [if_neg hcs]
        cases hm : t.find? cs with
        | none =>
          have hne : cs ≠ bs := by
            rintro rfl
            simp [hn] at hm
          rw [if_neg fun h => hne h.1, Option.bind_none, Option.bind_none]
        | some m =>
          have hmn : m = n ↔ cs = bs :=
            ⟨fun e => h.injective hm (e ▸ hn), fun e => Option.some.inj (hm.symm.trans (e ▸ hn))⟩
          simp only [Option.bind_some, h.child?_descend_of_none hlt hb, hmn]

theorem WellFormed.descend (h : t.WellFormed) (hn : t.find? bs = some n) (b : UInt8) :
    (t.descend n b).1.WellFormed := by
  have hfind := h.find?_descend hn b
  cases hb : t.child? n b with
  | some c =>
    have : (t.descend n b).1 = t := by simp [Trie.descend, hb]
    rw [this]
    exact h
  | none =>
    have hlt := (h.length_le hn).2
    have hsize := size_descend_of_none hb
    have hnew : (t.descend n b).2 = t.size := by rw [descend_of_none hb]
    rw [hnew] at hfind
    refine ⟨by omega, fun {m c k} hc => ?_, fun m => ?_, fun m hm => ?_, fun {cs ds m} hcs hds => ?_⟩
    · rw [h.child?_descend_of_none hlt hb] at hc
      split at hc
      · rename_i hmc
        obtain rfl := Option.some.inj hc
        exact ⟨hmc.1 ▸ hlt, by omega⟩
      · obtain ⟨hmk, hk⟩ := h.child hc
        exact ⟨hmk, by omega⟩
    · rw [children, getD_descend_of_none hlt hb]
      split
      · exact (h.ascending n).insertChild hb
      · exact h.ascending m
    · rcases Nat.lt_succ_iff_lt_or_eq.mp (hsize ▸ hm) with hm | rfl
      · obtain ⟨cs, hcs⟩ := h.found m hm
        refine ⟨cs, ?_⟩
        rw [hfind, if_neg, hcs]
        rintro rfl
        rw [find?_concat, hn, Option.bind_some, hb] at hcs
        simp at hcs
      · exact ⟨bs ++ [b], by rw [hfind, if_pos rfl]⟩
    · have hold : ∀ {cs}, t.find? cs = some t.size → False := fun hcs =>
        lt_irrefl _ (h.length_le hcs).2
      rw [hfind] at hcs hds
      split at hcs
      · split at hds
        · simp_all
        · obtain rfl := Option.some.inj hcs
          exact (hold hds).elim
      · split at hds
        · obtain rfl := Option.some.inj hds
          exact (hold hcs).elim
        · exact h.injective hcs hds

structure Extends (t : Trie) (bs cs : List UInt8) (r : Trie × NodeId) : Prop where
  wellFormed : r.1.WellFormed
  reached : r.1.find? (bs ++ cs) = some r.2
  tokens : ∀ m, r.1.tokens m = t.tokens m
  kept : ∀ {ds : List UInt8} {m : ℕ}, t.find? ds = some m → r.1.find? ds = some m
  isSome_iff : ∀ ds, (r.1.find? ds).isSome ↔ (t.find? ds).isSome ∨ bs <+: ds ∧ ds <+: bs ++ cs

theorem WellFormed.extends_foldl (h : t.WellFormed) (hn : t.find? bs = some n) (cs : List UInt8) :
    Extends t bs cs (cs.foldl (fun (t, node) b => t.descend node b) (t, n)) := by
  induction cs generalizing t bs n with
  | nil =>
    refine ⟨h, by simpa using hn, fun _ => rfl, id, fun ds => (or_iff_left_of_imp ?_).symm⟩
    rintro ⟨hpre, hds⟩
    rw [List.append_nil] at hds
    rw [hds.eq_of_length_le hpre.length_le]
    exact Option.isSome_of_eq_some hn
  | cons b cs ih =>
    have hfind := h.find?_descend hn b
    have hr := ih (h.descend hn b) ((hfind (bs ++ [b])).trans (if_pos rfl))
    have happ : bs ++ [b] ++ cs = bs ++ b :: cs := by simp
    refine ⟨hr.wellFormed, happ ▸ hr.reached, fun m => ?_, fun {ds m} hm => hr.kept ?_, fun ds => ?_⟩
    · rw [List.foldl_cons, hr.tokens, tokens_descend (h.length_le hn).2]
    · rw [hfind]
      split
      · rename_i hds
        rw [hds, find?_concat, hn, Option.bind_some] at hm
        simp [Trie.descend, hm]
      · exact hm
    · rw [List.foldl_cons, hr.isSome_iff, hfind, happ]
      by_cases hds : ds = bs ++ [b]
      · subst hds
        simp [List.prefix_append]
      · rw [if_neg hds]
        refine or_congr_right' fun hnot => and_congr_left fun hpre => ?_
        constructor
        · exact (List.prefix_append bs [b]).trans
        · rintro ⟨es, rfl⟩
          cases es with
          | nil => simp [hn] at hnot
          | cons e es =>
            obtain rfl : e = b := by
              have := (List.prefix_append_right_inj bs).mp hpre
              exact (List.cons_prefix_cons.mp this).1
            simp

private theorem find?_congr {t' : Trie} (h : ∀ m, t'.children m = t.children m) (bs : List UInt8) :
    t'.find? bs = t.find? bs := by
  have : t'.child? = t.child? := by
    funext m c
    rw [child?, h, child?]
  rw [find?, this, find?]

private theorem WellFormed.congr {t' : Trie} (h : t.WellFormed) (hsize : t'.size = t.size)
    (hc : ∀ m, t'.children m = t.children m) : t'.WellFormed := by
  have hfind := find?_congr hc
  refine ⟨hsize ▸ h.nonempty, fun {n b c} hb => ?_, fun n => hc n ▸ h.ascending n, fun n hn => ?_,
    fun {bs cs n} hbs hcs => h.injective (hfind bs ▸ hbs) (hfind cs ▸ hcs)⟩
  · rw [child?, hc] at hb
    exact hsize ▸ h.child hb
  · obtain ⟨bs, hbs⟩ := h.found n (hsize ▸ hn)
    exact ⟨bs, hfind bs ▸ hbs⟩

private def addToken (t : Trie) (n : NodeId) (token : TokenId) : Trie :=
  { nodes := t.nodes.modify n fun node => { node with tokens := node.tokens ++ [token] } }

private theorem getD_addToken (hn : n < t.size) (token : TokenId) (m : ℕ) :
    (t.addToken n token).nodes.getD m {} = if m = n then
      { t.nodes.getD m {} with tokens := t.tokens m ++ [token] } else t.nodes.getD m {} := by
  simp only [addToken, Array.getD_eq_getD_getElem?, Array.getElem?_modify, Trie.tokens]
  by_cases hm : m = n
  · subst hm
    have : t.nodes[m]? = some t.nodes[m] := Array.getElem?_eq_getElem hn
    simp [this]
  · simp [hm, Ne.symm hm]

private theorem children_addToken (hn : n < t.size) (token : TokenId) (m : ℕ) :
    (t.addToken n token).children m = t.children m := by
  rw [children, getD_addToken hn]
  split <;> rfl

private theorem tokens_addToken (hn : n < t.size) (token : TokenId) (m : ℕ) :
    (t.addToken n token).tokens m = if m = n then t.tokens m ++ [token] else t.tokens m := by
  rw [tokens, getD_addToken hn]
  split <;> rfl

/-- A trie has the tokens of a list at the nodes of their bytes, and no other nodes. -/
structure Represents (t : Trie) (inserted : List (TokenId × List UInt8)) : Prop where
  wellFormed : t.WellFormed
  isSome_iff : ∀ bs, (t.find? bs).isSome ↔ bs = [] ∨ ∃ p ∈ inserted, bs <+: p.2
  tokens : ∀ {bs : List UInt8} {n : ℕ}, t.find? bs = some n →
    t.tokens n = (inserted.filter (·.2 == bs)).map (·.1)

theorem represents_empty : empty.Represents [] := by
  have hchild (n : ℕ) (b : UInt8) : empty.child? n b = none := by
    cases n <;> simp [empty, child?, children, Array.getD_eq_getD_getElem?]
  have hfind (bs : List UInt8) : empty.find? bs = if bs = [] then some root else none := by
    cases bs with
    | nil => rfl
    | cons b bs => simp [find?, hchild]
  refine ⟨⟨by decide, by simp [hchild], fun n => ?_, fun n hn => ?_, ?_⟩, fun bs => ?_, fun {bs n} _ => ?_⟩
  · cases n <;> simp [empty, children, Array.getD_eq_getD_getElem?, Ascending.nil]
  · obtain rfl : n = 0 := by simpa [empty, size] using hn
    exact ⟨[], rfl⟩
  · intro bs cs n hbs hcs
    rw [hfind] at hbs hcs
    split at hbs <;> split at hcs <;> simp_all
  · rw [hfind]
    split <;> simp_all
  · cases n <;> simp [empty, Trie.tokens, Array.getD_eq_getD_getElem?]

theorem Represents.insert {inserted : List (TokenId × List UInt8)} (h : t.Represents inserted)
    (bytes : List UInt8) (token : TokenId) :
    (t.insert bytes token).Represents (inserted ++ [(token, bytes)]) := by
  have hroot : t.find? [] = some root := rfl
  have hext := h.wellFormed.extends_foldl hroot bytes
  unfold Trie.insert
  generalize bytes.foldl (fun (t, node) b => t.descend node b) (t, root) = r at *
  obtain ⟨t₁, node⟩ := r
  obtain ⟨hwf, hreached, htokens, hkept, hsome⟩ := hext
  simp only [List.nil_append, List.nil_prefix, true_and] at hreached htokens hkept hsome hwf
  have hnode := (hwf.length_le hreached).2
  have hchildren := children_addToken hnode token
  have hfind := find?_congr hchildren
  change (t₁.addToken node token).Represents _
  refine ⟨hwf.congr Array.size_modify hchildren, fun bs => ?_, fun {bs n} hn => ?_⟩
  · rw [hfind, hsome, h.isSome_iff]
    simp [or_and_right, exists_or, or_assoc]
  · rw [hfind] at hn
    have hnew : n = node ↔ bytes = bs :=
      ⟨fun e => hwf.injective (e ▸ hreached) hn, fun e => Option.some.inj (hn.symm.trans (e ▸ hreached))⟩
    have hold : t₁.tokens n = (inserted.filter (·.2 == bs)).map (·.1) := by
      rw [htokens]
      cases hbs : t.find? bs with
      | some m =>
        obtain rfl := Option.some.inj ((hkept hbs).symm.trans hn)
        exact h.tokens hbs
      | none =>
        -- neither was the node there nor had a token with these bytes been put in
        have hle : t.size ≤ n := by
          by_contra hlt
          obtain ⟨cs, hcs⟩ := h.wellFormed.found n (not_le.mp hlt)
          obtain rfl := hwf.injective (hkept hcs) hn
          simp [hbs] at hcs
        have hnone : inserted.filter (·.2 == bs) = [] := by
          rw [List.filter_eq_nil_iff]
          rintro p hp heq
          have := (h.isSome_iff bs).mpr (.inr ⟨p, hp, beq_iff_eq.mp heq ▸ List.prefix_rfl⟩)
          simp [hbs] at this
        rw [tokens_of_le hle, hnone, List.map_nil]
    rw [tokens_addToken hnode, hold, List.filter_append, List.map_append]
    by_cases hbs : bytes = bs
    · simp [hnew, hbs]
    · simp [hnew, hbs]

theorem represents_foldl (tokens : List (TokenId × List UInt8)) :
    (tokens.foldl (fun t (id, bytes) => t.insert bytes id) empty).Represents tokens := by
  induction tokens using List.reverseRecOn with
  | nil => exact represents_empty
  | append_singleton tokens p ih =>
    rw [List.foldl_append]
    exact ih.insert p.2 p.1

end ConstrainedDecoding.Trie
