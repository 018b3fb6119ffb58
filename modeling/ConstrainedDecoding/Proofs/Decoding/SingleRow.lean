import ConstrainedDecoding.Proofs.Decoding.Batch

/-! A batch of one row against a call for its sequence alone. A batch looks for the cursor of its sequence
before it makes one, a call makes one first; this shows where the sequence is new and its token is refused. -/
namespace ConstrainedDecoding.Processor

variable {α : Type} {masked : α} {p q : Processor} {id : ℕ} {token : Option TokenId} {logits : List α}

structure Same (p q : Processor) : Prop where
  guide : p.guide = q.guide
  sequence : ∀ s, p.sequence? s = q.sequence? s
  activeCount : p.activeCount = q.activeCount

theorem Same.refl (p : Processor) : Same p p := ⟨rfl, fun _ => rfl, rfl⟩

theorem activeCount_set (p : Processor) (id : ℕ) (c : Cursor) : (p.set id c).activeCount =
    if (p.sequence? id).isSome then p.activeCount else p.activeCount + 1 := by
  rw [activeCount, set, Std.HashMap.size_insert, sequence?, Std.HashMap.isSome_getElem?_eq_contains]
  simp only [Std.HashMap.contains_iff_mem]
  rfl

theorem same_set_cursor (h : p.sequence? id ≠ none) : Same p (p.set id (p.cursor id)) := by
  obtain ⟨c, hc⟩ := Option.ne_none_iff_exists'.mp h
  have hcursor : p.cursor id = c := by rw [cursor, hc, Option.getD_some]
  refine ⟨rfl, fun s => ?_, ?_⟩
  · rw [hcursor, sequence?_set]
    split
    · rename_i heq
      rw [← heq, hc]
    · rfl
  · rw [activeCount_set, hc, Option.isSome_some, if_pos rfl]

theorem not_same_set (h : p.sequence? id = none) (c : Cursor) : ¬ Same p (p.set id c) := by
  intro hsame
  have hsequence := hsame.sequence id
  rw [sequence?_set, if_pos rfl, h] at hsequence
  cases hsequence

theorem processBatch_row_of_ok {c : Cursor} (hlogits : logits ≠ [])
    (hc : (p.cursor id).advance? p.guide token = .ok c) :
    p.processBatch masked [(id, token)] logits = p.process masked id token logits := by
  have hadmits : p.Admits [(id, token)] logits :=
    ⟨hlogits, one_dvd _, List.nodup_singleton id, by simpa [Passes] using ⟨c, hc⟩⟩
  rw [processBatch_of_admits hadmits, List.length_singleton, Nat.div_one, processRows, List.take_length,
    List.drop_length, process_of_ok hc]
  simp [processRows]

theorem processBatch_row_of_error {e : Error} (hlogits : logits ≠ [])
    (he : (p.cursor id).advance? p.guide token = .error e) :
    p.processBatch masked [(id, token)] logits = { result := .error e, logits, after := p } := by
  have hcheck : p.checkBatch [] [(id, token)] = .error e := by
    simp only [checkBatch, he]
    rfl
  simp [processBatch, hlogits, Nat.mod_one, hcheck]

/-- A batch of one row gives the result and the logits of a call for its sequence. It also leaves the same,
unless the sequence is new and its token is refused: then the batch leaves all as it was, and the call a new
sequence at the start. -/
theorem processBatch_row (hlogits : logits ≠ []) (masked : α) (p : Processor) (id : ℕ)
    (token : Option TokenId) :
    (p.processBatch masked [(id, token)] logits).result = (p.process masked id token logits).result ∧
    (p.processBatch masked [(id, token)] logits).logits = (p.process masked id token logits).logits ∧
    (Same (p.processBatch masked [(id, token)] logits).after (p.process masked id token logits).after ↔
      p.sequence? id ≠ none ∨ (p.process masked id token logits).result = .ok ()) ∧
    ∀ e, (p.process masked id token logits).result = .error e → p.sequence? id = none →
      (p.processBatch masked [(id, token)] logits).after = p ∧
      (p.process masked id token logits).after = p.set id (.start p.guide) ∧
      (p.process masked id token logits).after.activeCount = p.activeCount + 1 := by
  cases h : (p.cursor id).advance? p.guide token with
  | ok c =>
    rw [processBatch_row_of_ok hlogits h, process_of_ok h]
    exact ⟨rfl, rfl, iff_of_true (.refl _) (.inr rfl), fun e he => by cases he⟩
  | error e =>
    rw [processBatch_row_of_error hlogits h, process_of_error h, or_iff_left (by simp)]
    refine ⟨rfl, rfl, ⟨fun hsame hnew => not_same_set hnew _ hsame, same_set_cursor⟩, fun _ _ hnew => ?_⟩
    have hcursor : p.cursor id = .start p.guide := by rw [cursor, hnew, Option.getD_none]
    refine ⟨rfl, by rw [hcursor], ?_⟩
    rw [activeCount_set, hnew]
    rfl

theorem processBatch_row_ab :
    ∃ g, Guide.ofPattern {} "ab" (.ofVocabulary Guide.abVocabulary) = .ok g ∧ [some 5] ≠ [] ∧
      Same ((ofGuide g).processBatch none [(7, none)] [some 5]).after
        ((ofGuide g).process none 7 none [some 5]).after := by
  obtain ⟨g, hg⟩ := Guide.ofPattern_ab
  have hrow : [some 5] ≠ [] := List.cons_ne_nil _ _
  exact ⟨g, hg, hrow, (processBatch_row hrow none (ofGuide g) 7 none).2.2.1.mpr (.inr rfl)⟩

/-- The special token 4 is refused for the new sequence 7. The call makes the sequence known, the batch
does not. -/
theorem exists_not_same_row :
    ∃ g, Guide.ofPattern {} "ab" (.ofVocabulary Guide.abVocabulary) = .ok g ∧
      ((ofGuide g).process none 7 (some 4) [some 5]).after.sequence? 7 = some (.start g) ∧
      ((ofGuide g).processBatch none [(7, some 4)] [some 5]).after.sequence? 7 = none ∧
      ¬ Same ((ofGuide g).processBatch none [(7, some 4)] [some 5]).after
        ((ofGuide g).process none 7 (some 4) [some 5]).after := by
  obtain ⟨g, hg⟩ := Guide.ofPattern_ab
  have hfor := (Guide.ofPattern_eq_ok hg).2
  have hrefused : 4 ∉ g.allowedTokens g.initial := by
    intro hmem
    obtain ⟨e, he, hkind⟩ := hfor.entry_of_mem_allowedTokens hmem
    obtain rfl := Option.some.inj he
    exact hkind rfl
  have hcursor : (ofGuide g).cursor 7 = .start g := by
    rw [cursor, sequence?_ofGuide]
    rfl
  refine ⟨g, hg, ?_⟩
  cases h : ((ofGuide g).cursor 7).advance? (ofGuide g).guide (some 4) with
  | ok c =>
    have hpasses : (ofGuide g).Passes 7 (some 4) := ⟨c, h⟩
    rw [passes_some_iff hfor, hcursor] at hpasses
    exact absurd hpasses hrefused
  | error e =>
    rw [process_of_error h, processBatch_row_of_error (List.cons_ne_nil _ _) h, hcursor]
    exact ⟨by simp [sequence?_set], sequence?_ofGuide, not_same_set sequence?_ofGuide _⟩

end ConstrainedDecoding.Processor
