import ConstrainedDecoding.Decoding.Processor
import ConstrainedDecoding.Proofs.Guide.Mask
import Mathlib.Data.List.Basic

/-! A call for one sequence depends on the guide and on the cursor of that sequence alone, and it leaves
all other sequences as they are. -/
namespace ConstrainedDecoding

theorem Cursor.advance_eq_ok_iff {g : Guide} {c c' : Cursor} {t : TokenId} : c.advance g t = .ok c' ↔
    ∃ s, g.advance c.state t = .ok s ∧ { state := s, finished := c.finished || t == g.eos } = c' := by
  simp only [advance, bind_eq_ok_iff, pure_eq_ok_iff]

namespace Processor

variable {α : Type} {masked : α} {p q r : Processor} {g : Guide} {id s : ℕ} {token : Option TokenId}
  {logits : List α} {c : Cursor}

@[simp] theorem sequence?_ofGuide : (ofGuide g).sequence? s = none := by
  simp [ofGuide, sequence?]

@[simp] theorem guide_set : (p.set id c).guide = p.guide := rfl

theorem sequence?_set : (p.set id c).sequence? s = if id = s then some c else p.sequence? s := by
  simp [set, sequence?, Std.HashMap.getElem?_insert]

theorem sequence?_finish : (p.finish id).2.sequence? s = if id = s then none else p.sequence? s := by
  simp [finish, sequence?, Std.HashMap.getElem?_erase]

/-- Two processors cannot be told apart by calls for one sequence. -/
structure Alike (s : ℕ) (p q : Processor) : Prop where
  guide : p.guide = q.guide
  sequence : p.sequence? s = q.sequence? s

namespace Alike

theorem refl (s : ℕ) (p : Processor) : Alike s p p := ⟨rfl, rfl⟩

theorem symm (h : Alike s p q) : Alike s q p := ⟨h.guide.symm, h.sequence.symm⟩

theorem trans (h : Alike s p q) (h' : Alike s q r) : Alike s p r :=
  ⟨h.guide.trans h'.guide, h.sequence.trans h'.sequence⟩

theorem cursor (h : Alike s p q) : p.cursor s = q.cursor s := by
  rw [Processor.cursor, h.sequence, h.guide, Processor.cursor]

theorem finish (h : Alike s p q) (id : ℕ) : Alike s (p.finish id).2 (q.finish id).2 := by
  refine ⟨h.guide, ?_⟩
  rw [sequence?_finish, sequence?_finish, h.sequence]

end Alike

theorem finish_alike (h : id ≠ s) : Alike s (p.finish id).2 p :=
  ⟨rfl, by rw [sequence?_finish, if_neg h]⟩

theorem set_alike (h : id ≠ s) : Alike s (p.set id c) p :=
  ⟨rfl, by rw [sequence?_set, if_neg h]⟩

theorem process_of_ok (h : (p.cursor id).advance? p.guide token = .ok c) (logits : List α) :
    p.process masked id token logits =
      { result := .ok (), logits := c.maskLogits p.guide masked logits, after := p.set id c } := by
  simp only [process, h]

theorem process_of_error {e : Error} (h : (p.cursor id).advance? p.guide token = .error e)
    (logits : List α) :
    p.process masked id token logits =
      { result := .error e, logits, after := p.set id (p.cursor id) } := by
  simp only [process, h]

/-- A call for a sequence sets its cursor, and nothing else. -/
theorem exists_after_eq_set (masked : α) (p : Processor) (id : ℕ) (token : Option TokenId)
    (logits : List α) : ∃ c, (p.process masked id token logits).after = p.set id c := by
  cases h : (p.cursor id).advance? p.guide token with
  | error e => exact ⟨_, by rw [process_of_error h]⟩
  | ok c => exact ⟨c, by rw [process_of_ok h]⟩

theorem process_alike (h : id ≠ s) : Alike s (p.process masked id token logits).after p := by
  obtain ⟨c, hc⟩ := exists_after_eq_set masked p id token logits
  exact hc ▸ set_alike h

@[simp] theorem guide_process : (p.process masked id token logits).after.guide = p.guide := by
  obtain ⟨c, hc⟩ := exists_after_eq_set masked p id token logits
  rw [hc, guide_set]

theorem after_process_congr (logits logits' : List α) :
    (p.process masked id token logits).after = (p.process masked id token logits').after := by
  cases h : (p.cursor id).advance? p.guide token with
  | error e => rw [process_of_error h, process_of_error h]
  | ok c => rw [process_of_ok h, process_of_ok h]

theorem length_process : (p.process masked id token logits).logits.length = logits.length := by
  cases h : (p.cursor id).advance? p.guide token with
  | error e => rw [process_of_error h]
  | ok c =>
    rw [process_of_ok h]
    exact Guide.length_maskLogits _ _ _

/-- Where processors are alike for a sequence, a call for it gives the same and leaves them alike. -/
theorem Alike.process (h : Alike id p q) (masked : α) (token : Option TokenId) (logits : List α) :
    (p.process masked id token logits).result = (q.process masked id token logits).result ∧
    (p.process masked id token logits).logits = (q.process masked id token logits).logits ∧
    Alike id (p.process masked id token logits).after (q.process masked id token logits).after := by
  have hadvance : (p.cursor id).advance? p.guide token = (q.cursor id).advance? q.guide token := by
    rw [h.cursor, h.guide]
  cases hq : (q.cursor id).advance? q.guide token with
  | error e =>
    rw [process_of_error hq, process_of_error (hadvance.trans hq)]
    exact ⟨rfl, rfl, h.guide, by simp [sequence?_set, h.cursor]⟩
  | ok c =>
    rw [process_of_ok hq, process_of_ok (hadvance.trans hq), h.guide]
    exact ⟨rfl, rfl, h.guide, by simp [sequence?_set]⟩

end Processor

end ConstrainedDecoding
