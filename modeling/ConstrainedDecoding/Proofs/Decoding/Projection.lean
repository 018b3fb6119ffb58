import ConstrainedDecoding.Proofs.Decoding.Batch

/-! Sequences do not interfere: what becomes of one depends only on the calls that concern it. -/
namespace ConstrainedDecoding.Processor

variable {α : Type} {masked : α} {p q : Processor} {s : ℕ}

inductive Call (α : Type)
  | process (id : ℕ) (token : Option TokenId) (logits : List α)
  | batch (rows : Batch) (logits : List α)
  | finish (id : ℕ)

def perform (masked : α) (p : Processor) : Call α → Processor
  | .process id token logits => (p.process masked id token logits).after
  | .batch rows logits => (p.processBatch masked rows logits).after
  | .finish id => (p.finish id).2

def run (masked : α) (p : Processor) (calls : List (Call α)) : Processor :=
  calls.foldl (perform masked) p

/-- What a call comes to for one sequence. A batch is the call of its row, unless it fails. -/
def Call.part (masked : α) (p : Processor) (s : ℕ) : Call α → Option (Call α)
  | .process id token logits => if id = s then some (.process id token logits) else none
  | .batch rows logits =>
    match (p.processBatch masked rows logits).result with
    | .error _ => none
    | .ok () => (rows.zipIdx.find? (·.1.1 = s)).map fun (r, i) =>
        .process s r.2 (rowAt (logits.length / rows.length) logits i)
  | .finish id => if id = s then some (.finish id) else none

def project (masked : α) (s : ℕ) : Processor → List (Call α) → List (Call α)
  | _, [] => []
  | p, c :: calls => (c.part masked p s).toList ++ project masked s (p.perform masked c) calls

theorem run_append (p : Processor) (calls calls' : List (Call α)) :
    p.run masked (calls ++ calls') = (p.run masked calls).run masked calls' :=
  List.foldl_append

/-- To a sequence, a batch that does not fail is the call of its row. -/
theorem processBatch_alike (h : Alike s p q) {rows : Batch} {logits : List α}
    (hok : (p.processBatch masked rows logits).result = .ok ()) :
    Alike s (p.processBatch masked rows logits).after
      (q.run masked ((Call.batch rows logits).part masked p s).toList) := by
  have hpart : (Call.batch rows logits).part masked p s = (rows.zipIdx.find? (·.1.1 = s)).map fun (r, i) =>
      .process s r.2 (rowAt (logits.length / rows.length) logits i) := by
    simp only [Call.part, hok]
  rw [hpart]
  rcases processBatch_eq_ok_iff.mp hok with rfl | hadmits
  · exact h
  · have hrows := processBatch_rowWise hadmits masked
    cases hfind : rows.zipIdx.find? (·.1.1 = s) with
    | none =>
      have hs : s ∉ rows.map (·.1) := by
        intro hmem
        obtain ⟨r, hr, rfl⟩ := List.mem_map.mp hmem
        obtain ⟨i, hi⟩ := List.mem_iff_getElem?.mp hr
        have := List.find?_eq_none.mp hfind (r, i) (List.mem_zipIdx_iff_getElem?.mpr hi)
        simp at this
      exact ⟨hrows.guide.trans h.guide, (hrows.others hs).trans h.sequence⟩
    | some found =>
      obtain ⟨⟨id, token⟩, i⟩ := found
      have hi : rows[i]? = some (id, token) :=
        List.mem_zipIdx_iff_getElem?.mp (List.mem_of_find?_eq_some hfind)
      obtain rfl : id = s := by simpa using List.find?_some hfind
      have hcall := (h.process masked token (rowAt (logits.length / rows.length) logits i)).2.2
      exact ⟨hrows.guide.trans (guide_process.symm.trans hcall.guide),
        (hrows.row hi).2.2.trans hcall.sequence⟩

/-- One call: processors that are alike for a sequence stay so if the second one only does the part for
that sequence. -/
theorem perform_alike (masked : α) (h : Alike s p q) (c : Call α) :
    Alike s (p.perform masked c) (q.run masked (c.part masked p s).toList) := by
  cases c with
  | process id token logits =>
    by_cases hid : id = s
    · subst hid
      rw [Call.part, if_pos rfl]
      exact (h.process masked token logits).2.2
    · rw [Call.part, if_neg hid]
      exact (process_alike hid).trans h
  | batch rows logits =>
    cases hresult : (p.processBatch masked rows logits).result with
    | error e =>
      have hpart : (Call.batch rows logits).part masked p s = none := by simp only [Call.part, hresult]
      rw [hpart, perform, processBatch_of_error hresult]
      exact h
    | ok => exact processBatch_alike h hresult
  | finish id =>
    by_cases hid : id = s
    · subst hid
      rw [Call.part, if_pos rfl]
      exact h.finish id
    · rw [Call.part, if_neg hid]
      exact (finish_alike hid).trans h

theorem run_alike (masked : α) (h : Alike s p q) (calls : List (Call α)) :
    Alike s (p.run masked calls) (q.run masked (p.project masked s calls)) := by
  induction calls generalizing p q with
  | nil => exact h
  | cons c calls ih =>
    rw [project, run_append]
    exact ih (perform_alike masked h c)

/-- Sequences do not interfere. The cursor of a sequence after a run is that after the calls that the run
comes to for it; and if two runs come to the same calls for a sequence, then what it is given next is
the same, whatever other calls there were. -/
theorem run_project (g : Guide) (masked : α) (s : ℕ) (calls : List (Call α)) :
    ((ofGuide g).run masked calls).sequence? s =
        ((ofGuide g).run masked ((ofGuide g).project masked s calls)).sequence? s ∧
      ∀ calls', (ofGuide g).project masked s calls = (ofGuide g).project masked s calls' →
        ∀ token logits,
          (((ofGuide g).run masked calls).process masked s token logits).result =
              (((ofGuide g).run masked calls').process masked s token logits).result ∧
            (((ofGuide g).run masked calls).process masked s token logits).logits =
              (((ofGuide g).run masked calls').process masked s token logits).logits := by
  have halike (calls : List (Call α)) := run_alike masked (.refl s (ofGuide g)) calls
  refine ⟨(halike calls).sequence, fun calls' heq token logits => ?_⟩
  have hruns : Alike s ((ofGuide g).run masked calls) ((ofGuide g).run masked calls') :=
    (halike calls).trans (heq ▸ (halike calls').symm)
  have hcall := hruns.process masked token logits
  exact ⟨hcall.1, hcall.2.1⟩

/-- One sequence is called alone and in a batch with another one. -/
theorem run_project_ab :
    ∃ g, Guide.ofPattern {} "ab" (.ofVocabulary Guide.abVocabulary) = .ok g ∧
      (((ofGuide g).run none [.batch [(8, none), (7, none)] [some 1, some 2], .finish 8]).process
          none 7 (some 0) [some 3]).result =
        (((ofGuide g).run none [.process 7 none [some 2]]).process none 7 (some 0) [some 3]).result := by
  obtain ⟨g, hg⟩ := Guide.ofPattern_ab
  exact ⟨g, hg, ((run_project g none 7 [.batch [(8, none), (7, none)] [some 1, some 2], .finish 8]).2
    [.process 7 none [some 2]] rfl (some 0) [some 3]).1⟩

end ConstrainedDecoding.Processor
