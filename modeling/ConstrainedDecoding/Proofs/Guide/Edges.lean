import ConstrainedDecoding.Guide.Table
import ConstrainedDecoding.Proofs.Automaton.Trim
import ConstrainedDecoding.Proofs.Vocabulary.Index
import Mathlib.Data.List.Nodup

/-! The edges of a state are the tokens whose bytes the automaton reads from it, however the walks of
states with equal rows are shared. -/
namespace ConstrainedDecoding.Guide
open Automaton (ByteAutomaton)

variable {a : ByteAutomaton} {v : Vocabulary} {options : IndexOptions} {s s' : StateId} {t : TokenId}

/-- A walk through a trie finds the tokens of all byte strings that both the trie and the automaton can
follow. -/
theorem mem_walkTrie {trie : Trie} (htrie : trie.WellFormed) {depth n : ℕ} :
    (t, s') ∈ walkTrie a trie depth n s ↔ ∃ bs, bs.length < depth ∧
      (∃ m, bs.foldlM trie.child? n = some m ∧ t ∈ trie.tokens m) ∧ a.walk? s bs = some s' := by
  induction depth generalizing n s with
  | zero => simp [walkTrie]
  | succ depth ih =>
    simp only [walkTrie, List.mem_append, List.mem_map, List.mem_flatMap, Prod.exists, Prod.mk.injEq,
      htrie.mem_children]
    constructor
    · rintro (⟨_, ht, rfl, rfl⟩ | ⟨b, c, hc, h⟩)
      · exact ⟨[], Nat.succ_pos _, ⟨n, rfl, ht⟩, rfl⟩
      · split at h
        · rename_i u hu
          obtain ⟨bs, hlt, ⟨m, hm, ht⟩, hwalk⟩ := ih.mp h
          refine ⟨b :: bs, Nat.succ_lt_succ hlt, ⟨m, ?_, ht⟩, ?_⟩
          · simp [hc, hm]
          · rw [ByteAutomaton.walk?_cons, hu, Option.bind_some, hwalk]
        · simp at h
    · rintro ⟨bs, hlt, ⟨m, hm, ht⟩, hwalk⟩
      cases bs with
      | nil =>
        obtain rfl := Option.some.inj hm
        obtain rfl := Option.some.inj hwalk
        exact .inl ⟨t, ht, rfl, rfl⟩
      | cons b bs =>
        rw [List.foldlM_cons, Option.bind_eq_bind, Option.bind_eq_some_iff] at hm
        rw [ByteAutomaton.walk?_cons, Option.bind_eq_some_iff] at hwalk
        obtain ⟨c, hc, hm⟩ := hm
        obtain ⟨u, hu, hwalk⟩ := hwalk
        refine .inr ⟨b, c, hc, ?_⟩
        rw [hu]
        exact ih.mpr ⟨bs, Nat.lt_of_succ_lt_succ hlt, ⟨m, hm, ht⟩, hwalk⟩

theorem mem_walkTrie_root : (t, s') ∈ walkTrie a (VocabularyIndex.ofVocabulary v).trie
    (VocabularyIndex.ofVocabulary v).trie.size Trie.root s ↔
      v.IsText t ∧ v.bytes t ≠ [] ∧ a.walk? s (v.bytes t) = some s' := by
  have hwf := (VocabularyIndex.represents_trie v).wellFormed
  rw [mem_walkTrie hwf]
  constructor
  · rintro ⟨bs, -, hm, hwalk⟩
    obtain ⟨htext, rfl, hne⟩ := VocabularyIndex.mem_tokens_iff.mp hm
    exact ⟨htext, hne, hwalk⟩
  · rintro ⟨htext, hne, hwalk⟩
    obtain ⟨m, hm, ht⟩ := VocabularyIndex.mem_tokens_iff.mpr ⟨htext, rfl, hne⟩
    obtain ⟨hle, hlt⟩ := hwf.length_le hm
    exact ⟨_, hle.trans_lt hlt, ⟨m, hm, ht⟩, hwalk⟩

/-- From a node, the walk finds only tokens whose bytes begin with those of the node. -/
theorem prefix_of_mem_walkTrie {depth n : ℕ} {bs : List UInt8}
    (hn : (VocabularyIndex.ofVocabulary v).trie.find? bs = some n)
    (h : (t, s') ∈ walkTrie a (VocabularyIndex.ofVocabulary v).trie depth n s) :
    bs <+: v.bytes t := by
  obtain ⟨cs, -, ⟨m, hm, ht⟩, -⟩ := (mem_walkTrie (VocabularyIndex.represents_trie v).wellFormed).mp h
  have hfind : (VocabularyIndex.ofVocabulary v).trie.find? (bs ++ cs) = some m := by
    rw [Trie.find?_append, hn, Option.bind_some, hm]
  rw [(VocabularyIndex.mem_tokens_iff.mp ⟨m, hfind, ht⟩).2.1]
  exact List.prefix_append bs cs

private def walkChild (a : ByteAutomaton) (trie : Trie) (depth : ℕ) (s : StateId)
    (p : UInt8 × NodeId) : Edges :=
  match a.next? s p.1 with
  | some next => walkTrie a trie depth p.2 next
  | none => []

theorem nodup_walkTrie {depth n : ℕ} {bs : List UInt8}
    (hn : (VocabularyIndex.ofVocabulary v).trie.find? bs = some n) :
    ((walkTrie a (VocabularyIndex.ofVocabulary v).trie depth n s).map (·.1)).Nodup := by
  have hwf := (VocabularyIndex.represents_trie v).wellFormed
  induction depth generalizing n s bs with
  | zero => exact List.nodup_nil
  | succ depth ih =>
    set trie := (VocabularyIndex.ofVocabulary v).trie
    have hfind {p : UInt8 × NodeId} (hp : p ∈ trie.children n) : trie.find? (bs ++ [p.1]) = some p.2 := by
      rw [Trie.find?_concat, hn, Option.bind_some, hwf.mem_children.mp hp]
    -- the tokens below a child begin with the bytes of the child
    have hbelow {p : UInt8 × NodeId} (hp : p ∈ trie.children n) {t : TokenId}
        (ht : t ∈ (walkChild a trie depth s p).map (·.1)) : bs ++ [p.1] <+: v.bytes t := by
      obtain ⟨⟨t, u⟩, hmem, rfl⟩ := List.mem_map.mp ht
      unfold walkChild at hmem
      split at hmem
      · exact prefix_of_mem_walkTrie (hfind hp) hmem
      · simp at hmem
    change (((trie.tokens n).map (·, s) ++ (trie.children n).flatMap (walkChild a trie depth s)).map
      (·.1)).Nodup
    rw [List.map_append, List.map_map, List.map_flatMap]
    refine List.nodup_append.mpr ⟨?_, List.nodup_flatMap.mpr ⟨fun p hp => ?_, ?_⟩, ?_⟩
    · simpa [Function.comp_def] using VocabularyIndex.nodup_tokens hn
    · unfold walkChild
      split
      · exact ih (hfind hp)
      · exact List.nodup_nil
    · refine (hwf.ascending n).imp_of_mem fun {p q} hp hq hlt => List.disjoint_left.mpr fun t ht hu => ?_
      have hpre := List.prefix_of_prefix_length_le (hbelow hp ht) (hbelow hq hu) (by simp)
      have heq : bs ++ [p.1] = bs ++ [q.1] := hpre.eq_of_length (by simp)
      rw [List.singleton_inj.mp (List.append_cancel_left heq)] at hlt
      exact UInt8.lt_irrefl _ hlt
    · rintro t ht _ hu rfl
      obtain ⟨p, hp, hu⟩ := List.mem_flatMap.mp hu
      have hbytes : v.bytes t = bs := by
        rw [List.map_congr_left (g := id) (by simp), List.map_id] at ht
        exact (VocabularyIndex.mem_tokens_iff.mp ⟨n, hn, ht⟩).2.1
      have hle := (hbelow hp hu).length_le
      rw [hbytes, List.length_append, List.length_singleton] at hle
      omega

/-- The first state with the row of a state, whose walk they share. -/
def leader (a : ByteAutomaton) (s : StateId) : StateId :=
  ((List.range s).find? (a.row · = a.row s)).getD s

theorem leader_le (a : ByteAutomaton) (s : StateId) : leader a s ≤ s := by
  unfold leader
  cases h : (List.range s).find? (a.row · = a.row s) with
  | none => exact le_rfl
  | some r => exact (List.mem_range.mp (List.mem_of_find?_eq_some h)).le

theorem row_leader (a : ByteAutomaton) (s : StateId) : a.row (leader a s) = a.row s := by
  unfold leader
  cases h : (List.range s).find? (a.row · = a.row s) with
  | none => rfl
  | some r => simpa using List.find?_some h

private def shareWalk (a : ByteAutomaton) (walk : StateId → Edges)
    (shared : Std.HashMap (Array (Option StateId)) Edges × Array Edges) (s : StateId) :
    Std.HashMap (Array (Option StateId)) Edges × Array Edges :=
  match shared.1[a.row s]? with
  | some edges => (shared.1, shared.2.push edges)
  | none => (shared.1.insert (a.row s) (walk s), shared.2.push (walk s))

private theorem foldl_shareWalk (a : ByteAutomaton) (walk : StateId → Edges) (k : ℕ) :
    ∃ known, (List.range k).foldl (shareWalk a walk) (∅, #[]) =
        (known, (Array.range k).map fun s => walk (leader a s)) ∧
      ∀ row, known[row]? = ((List.range k).find? (a.row · = row)).map walk := by
  induction k with
  | zero => exact ⟨∅, by simp, by simp⟩
  | succ k ih =>
    obtain ⟨known, hfold, hknown⟩ := ih
    have hpush : (Array.range (k + 1)).map (fun s => walk (leader a s)) =
        ((Array.range k).map fun s => walk (leader a s)).push (walk (leader a k)) := by
      simp [Array.range_succ]
    have hfind (row : Array (Option StateId)) : (List.range (k + 1)).find? (a.row · = row) =
        ((List.range k).find? (a.row · = row)).or (if a.row k = row then some k else none) := by
      rw [List.range_succ, List.find?_append]
      by_cases hrow : a.row k = row <;> simp [hrow]
    have hstep : (List.range (k + 1)).foldl (shareWalk a walk) (∅, #[]) =
        shareWalk a walk (known, (Array.range k).map fun s => walk (leader a s)) k := by
      rw [List.range_succ, List.foldl_append, hfold, List.foldl_cons, List.foldl_nil]
    simp only [hstep, hpush, shareWalk, hknown, hfind]
    cases hk : (List.range k).find? (a.row · = a.row k) with
    | some r =>
      refine ⟨known, by simp [leader, hk], fun row => ?_⟩
      rw [hknown]
      by_cases hrow : a.row k = row
      · rw [← hrow, hk, Option.some_or]
      · rw [if_neg hrow, Option.or_none]
    | none =>
      refine ⟨known.insert (a.row k) (walk k), by simp [leader, hk], fun row => ?_⟩
      rw [Std.HashMap.getElem?_insert, hknown]
      by_cases hrow : a.row k = row
      · simp [← hrow, hk]
      · simp [hrow]

/-- States with equal rows have the walk of the first one. -/
theorem walks_eq (a : ByteAutomaton) (trie : Trie) : walks a trie =
    (Array.range a.size).map fun s => walkTrie a trie trie.size Trie.root (leader a s) := by
  obtain ⟨known, hfold, -⟩ := foldl_shareWalk a (walkTrie a trie trie.size Trie.root) a.size
  exact congrArg Prod.snd hfold

/-- Sharing a walk does not change it. -/
theorem walk?_leader (ha : a.RowsDecide) (hs : s < a.size) {bytes : List UInt8} (hbytes : bytes ≠ []) :
    a.walk? (leader a s) bytes = a.walk? s bytes := by
  have hnext : a.next? (leader a s) = a.next? s :=
    ha _ ((leader_le a s).trans_lt hs) _ hs (row_leader a s)
  cases bytes with
  | nil => exact absurd rfl hbytes
  | cons b bs => rw [ByteAutomaton.walk?_cons, ByteAutomaton.walk?_cons, hnext]

def Leads (a : ByteAutomaton) (v : Vocabulary) (options : IndexOptions) (s : StateId) (t : TokenId)
    (s' : StateId) : Prop :=
  options.Uses v t ∧ a.walk? s (v.bytes t) = some s'

theorem mem_stateEdges {emptyTokens : List TokenId} {walk : Edges} :
    (t, s') ∈ stateEdges a (.ofVocabulary v) emptyTokens walk s ↔
      (t, s') ∈ walk ∨ (t ∈ emptyTokens ∧ s' = s) ∨ t = v.eos ∧ a.isAccepting s ∧ s' = s := by
  rw [stateEdges, List.mem_mergeSort, List.mem_append, List.mem_append, or_assoc]
  refine or_congr_right (or_congr ?_ ?_)
  · simp [eq_comm]
  · change (t, s') ∈ (if a.isAccepting s then [(v.eos, s)] else []) ↔ _
    split <;> simp_all

/-- The edges of a state are sorted by their tokens, each of which has one edge. -/
theorem pairwise_stateEdges {emptyTokens : List TokenId} {walk : Edges}
    (hwalk : (walk.map (·.1)).Nodup) (hempty : emptyTokens.Nodup)
    (hdisjoint : ∀ p ∈ walk, v.IsText p.1 ∧ p.1 ∉ emptyTokens) (htext : ∀ t ∈ emptyTokens, v.IsText t) :
    (stateEdges a (.ofVocabulary v) emptyTokens walk s).Pairwise (·.1 < ·.1) := by
  let stop : Edges := if a.isAccepting s then [(v.eos, s)] else []
  let row : Edges := walk ++ emptyTokens.map (·, s) ++ stop
  have hstop : ∀ p ∈ stop, p.1 = v.eos := by
    intro p hp
    simp only [stop] at hp
    split at hp <;> simp_all
  have hnodup : (row.map (·.1)).Nodup := by
    have hstay : (emptyTokens.map (·, s)).map (·.1) = emptyTokens := by simp [Function.comp_def]
    rw [List.map_append, List.map_append, hstay, List.nodup_append, List.nodup_append]
    refine ⟨⟨hwalk, hempty, ?_⟩, ?_, ?_⟩
    · rintro _ ht u hu rfl
      obtain ⟨p, hp, rfl⟩ := List.mem_map.mp ht
      exact (hdisjoint p hp).2 hu
    · simp only [stop]
      split <;> simp
    · rintro t ht _ hu rfl
      obtain ⟨q, hq, rfl⟩ := List.mem_map.mp hu
      refine Vocabulary.ne_eos_of_isText ?_ (hstop q hq)
      rcases List.mem_append.mp ht with ht | ht
      · obtain ⟨p, hp, heq⟩ := List.mem_map.mp ht
        exact heq ▸ (hdisjoint p hp).1
      · exact htext _ ht
  have hsorted : (row.mergeSort fun a b => a.1 ≤ b.1).Pairwise fun a b => decide (a.1 ≤ b.1) :=
    List.pairwise_mergeSort
      (fun a b c hab hbc => by simp only [decide_eq_true_eq] at *; exact hab.trans hbc)
      (fun a b => by simpa using le_total a.1 b.1) row
  have hle : (row.mergeSort fun a b => a.1 ≤ b.1).Pairwise (·.1 ≤ ·.1) :=
    hsorted.imp of_decide_eq_true
  have hne : (row.mergeSort fun a b => a.1 ≤ b.1).Pairwise (·.1 ≠ ·.1) := by
    have := ((List.mergeSort_perm row fun a b => a.1 ≤ b.1).map (·.1)).nodup_iff.mpr hnodup
    exact List.pairwise_map.mp this
  exact (hle.and hne).imp fun h => lt_of_le_of_ne h.1 h.2

theorem size_allEdges (a : ByteAutomaton) (v : Vocabulary) (options : IndexOptions) :
    (allEdges a (.ofVocabulary v) options).size = a.size := by
  simp [allEdges, walks_eq]

private theorem getD_allEdges (hs : s < a.size) :
    (allEdges a (.ofVocabulary v) options).getD s [] = stateEdges a (.ofVocabulary v)
      (if options.skipEmptyTokens then [] else (VocabularyIndex.ofVocabulary v).emptyTokens)
      (walkTrie a (VocabularyIndex.ofVocabulary v).trie (VocabularyIndex.ofVocabulary v).trie.size
        Trie.root (leader a s)) s := by
  simp [allEdges, walks_eq, Array.getD_eq_getD_getElem?, hs]

private theorem getD_allEdges_of_le (hs : a.size ≤ s) :
    (allEdges a (.ofVocabulary v) options).getD s [] = [] := by
  rw [Array.getD_eq_getD_getElem?, Array.getElem?_eq_none (size_allEdges a v options ▸ hs)]
  rfl

/-- The edges of a state: text that is read from the first state with its row, loops of empty tokens
unless these are skipped, and the end where the automaton accepts. -/
theorem mem_allEdges_iff : (t, s') ∈ (allEdges a (.ofVocabulary v) options).getD s [] ↔ s < a.size ∧
    ((v.IsText t ∧ v.bytes t ≠ [] ∧ a.walk? (leader a s) (v.bytes t) = some s') ∨
      (¬ options.skipEmptyTokens ∧ v.IsEmptyText t ∧ s' = s) ∨ t = v.eos ∧ a.isAccepting s ∧ s' = s) := by
  by_cases hs : s < a.size
  · have hempty : t ∈ (if options.skipEmptyTokens then [] else
        (VocabularyIndex.ofVocabulary v).emptyTokens) ↔ ¬ options.skipEmptyTokens ∧ v.IsEmptyText t := by
      rw [← VocabularyIndex.mem_emptyTokens]
      split <;> simp_all
    rw [getD_allEdges hs, mem_stateEdges, mem_walkTrie_root, hempty, and_iff_right hs, and_assoc]
  · rw [getD_allEdges_of_le (not_lt.mp hs)]
    simp [hs]

/-- The edges of a state: text that the automaton reads, and the end where it accepts. -/
theorem mem_allEdges (ha : a.RowsDecide) :
    (t, s') ∈ (allEdges a (.ofVocabulary v) options).getD s [] ↔
      s < a.size ∧ (Leads a v options s t s' ∨ t = v.eos ∧ a.isAccepting s ∧ s' = s) := by
  rw [mem_allEdges_iff, ← or_assoc]
  refine and_congr_right fun hs => or_congr_left ?_
  rw [Leads, IndexOptions.Uses, Vocabulary.IsEmptyText]
  by_cases hb : v.bytes t = []
  · have hwalk : a.walk? s [] = some s' ↔ s' = s := by simp [ByteAutomaton.walk?, eq_comm]
    rw [hb, hwalk]
    simp only [ne_eq, not_true, false_and, and_false, false_or, and_true, imp_false]
    tauto
  · rw [walk?_leader ha hs hb]
    simp only [hb, ne_eq, not_false_eq_true, true_and, and_false, false_and, or_false, implies_true, and_true]

theorem pairwise_allEdges : ((allEdges a (.ofVocabulary v) options).getD s []).Pairwise (·.1 < ·.1) := by
  rcases lt_or_ge s a.size with hs | hs
  · rw [getD_allEdges hs]
    have hroot : (VocabularyIndex.ofVocabulary v).trie.find? [] = some Trie.root := rfl
    refine pairwise_stateEdges (nodup_walkTrie hroot) ?_ ?_ ?_
    · split
      · exact List.nodup_nil
      · exact VocabularyIndex.nodup_emptyTokens v
    · rintro ⟨t, u⟩ hp
      obtain ⟨htext, hne, -⟩ := mem_walkTrie_root.mp hp
      refine ⟨htext, ?_⟩
      split
      · exact List.not_mem_nil
      · exact fun h => hne (VocabularyIndex.mem_emptyTokens.mp h).2
    · intro t ht
      split at ht
      · simp at ht
      · exact (VocabularyIndex.mem_emptyTokens.mp ht).1
  · rw [getD_allEdges_of_le hs]
    exact .nil

end ConstrainedDecoding.Guide
