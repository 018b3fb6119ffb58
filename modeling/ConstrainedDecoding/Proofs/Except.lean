/-! Computations that may fail, taken apart by their results. -/
namespace ConstrainedDecoding

variable {ε α β : Type}

@[simp] theorem bind_eq_ok_iff {x : Except ε α} {f : α → Except ε β} {b : β} :
    (x >>= f) = .ok b ↔ ∃ a, x = .ok a ∧ f a = .ok b := by
  cases x <;> simp [bind, Except.bind]

theorem bind_eq_error_iff {x : Except ε α} {f : α → Except ε β} {e : ε} :
    (x >>= f) = .error e ↔ x = .error e ∨ ∃ a, x = .ok a ∧ f a = .error e := by
  cases x <;> simp [bind, Except.bind]

@[simp] theorem pure_eq_ok_iff {a b : α} : (pure a : Except ε α) = .ok b ↔ a = b := by
  simp [pure, Except.pure]

@[simp] theorem map_eq_ok_iff {x : Except ε α} {f : α → β} {b : β} :
    x.map f = .ok b ↔ ∃ a, x = .ok a ∧ f a = b := by
  cases x <;> simp [Except.map]

theorem ok_bind (a : α) (f : α → Except ε β) : (Except.ok a >>= f) = f a := rfl

theorem exists_of_isOk {x : Except ε α} (h : x.isOk) : ∃ a, x = .ok a := by
  cases x with
  | ok a => exact ⟨a, rfl⟩
  | error e => simp [Except.isOk, Except.toBool] at h

def FailsWith (P : ε → Prop) (x : Except ε α) : Prop := ∀ e, x = .error e → P e

namespace FailsWith

variable {P : ε → Prop} {x : Except ε α} {f : α → Except ε β}

theorem ok {a : α} : FailsWith P (.ok a) := by simp [FailsWith]

theorem error {e : ε} (he : P e) : FailsWith P (.error e : Except ε α) := by simpa [FailsWith] using he

theorem bind (hx : FailsWith P x) (hf : ∀ a, x = .ok a → FailsWith P (f a)) : FailsWith P (x >>= f) := by
  cases x with
  | ok a => exact hf a rfl
  | error e => exact fun e' he => hx e' (by simpa [Bind.bind, Except.bind] using he)

theorem map {g : α → β} (hx : FailsWith P x) : FailsWith P (x.map g) := by
  cases x with
  | ok a => exact ok
  | error e => exact fun e' he => hx e' (by simpa [Except.map] using he)

theorem foldlM {g : β → α → Except ε β} (hg : ∀ b a, FailsWith P (g b a)) (l : List α) (b : β) :
    FailsWith P (l.foldlM g b) := by
  induction l generalizing b with
  | nil => exact ok
  | cons a l ih =>
    rw [List.foldlM_cons]
    exact (hg b a).bind fun b' _ => ih b'

end FailsWith

/-- Two computations in step: unless the first ends with an error that `P` lets pass, they end with the same
error or with results that belong together. -/
inductive InStep (P : ε → Prop) (R : α → β → Prop) : Except ε α → Except ε β → Prop
  | refused {e : ε} {y : Except ε β} (he : P e) : InStep P R (.error e) y
  | error (e : ε) : InStep P R (.error e) (.error e)
  | ok {a : α} {b : β} (h : R a b) : InStep P R (.ok a) (.ok b)

namespace InStep

variable {α' β' : Type} {P : ε → Prop} {R : α → β → Prop} {S : α' → β' → Prop} {x : Except ε α}
  {y : Except ε β}

theorem refl {R : α → α → Prop} (hR : ∀ a, R a a) (x : Except ε α) : InStep P R x x := by
  cases x with
  | ok a => exact .ok (hR a)
  | error e => exact .error e

theorem bind {f : α → Except ε α'} {g : β → Except ε β'} (h : InStep P R x y)
    (hf : ∀ a b, x = .ok a → R a b → InStep P S (f a) (g b)) : InStep P S (x >>= f) (y >>= g) := by
  cases h with
  | refused he => exact .refused he
  | error e => exact .error e
  | ok h => exact hf _ _ rfl h

theorem skip {f : α' → Except ε α} {z : Except ε α'} (hz : FailsWith P z)
    (hf : ∀ a, z = .ok a → InStep P R (f a) y) : InStep P R (z >>= f) y := by
  cases z with
  | ok a => exact hf a rfl
  | error e => exact .refused (hz e rfl)

theorem map_left_iff {f : α' → α} {z : Except ε α'} :
    InStep P R (z >>= fun a => pure (f a)) y ↔ InStep P (fun a b => R (f a) b) z y := by
  cases z with
  | error e =>
    constructor <;> rintro (he | - | -)
    · exact .refused he
    · exact .error e
    · exact .refused he
    · exact .error e
  | ok a =>
    constructor <;> rintro (- | - | h) <;> exact .ok h

/-- Nothing is let pass if the first computation does not end so. -/
theorem strict {Q : ε → Prop} (h : InStep P R x y) (hx : FailsWith (¬ P ·) x) : InStep Q R x y := by
  cases h with
  | refused he => exact absurd he (hx _ rfl)
  | error e => exact .error e
  | ok h => exact .ok h

theorem mono {P' : ε → Prop} (h : InStep P R x y) (hP : ∀ e, P e → P' e) : InStep P' R x y := by
  cases h with
  | refused he => exact .refused (hP _ he)
  | error e => exact .error e
  | ok h => exact .ok h

/-- What is known of the results of the first computation may be added. -/
theorem strengthen {Q : α → Prop} (h : InStep P R x y) (hx : ∀ a, x = .ok a → Q a) :
    InStep P (fun a b => R a b ∧ Q a) x y := by
  cases h with
  | refused he => exact .refused he
  | error e => exact .error e
  | ok h => exact .ok ⟨h, hx _ rfl⟩

theorem exists_ok {a : α} (h : InStep P R (.ok a) y) : ∃ b, y = .ok b ∧ R a b := by
  cases h with
  | ok h => exact ⟨_, rfl, h⟩

/-- In step with equal results, the computations are equal unless an error was let pass. -/
theorem eq {x y : Except ε α} (h : InStep P Eq x y) (hx : FailsWith (¬ P ·) x) : y = x := by
  cases h with
  | refused he => exact absurd he (hx _ rfl)
  | error e => rfl
  | ok h => rw [h]

end InStep

end ConstrainedDecoding
