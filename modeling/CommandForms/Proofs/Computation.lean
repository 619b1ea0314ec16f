/-!
# Computations that may fail

When a computation of several steps succeeds.
-/

namespace Except

variable {ε ε' α α' β β' : Type}

@[simp]
theorem ok_bind (a : α) (f : α → Except ε β) : Except.ok a >>= f = f a := rfl

theorem bind_eq_ok_iff {x : Except ε α} {f : α → Except ε β} {b : β} :
    x >>= f = .ok b ↔ ∃ a, x = .ok a ∧ f a = .ok b := by
  cases x with
  | error e =>
      constructor
      · intro h
        cases h
      · rintro ⟨a, h, _⟩
        cases h
  | ok a =>
      constructor
      · intro h
        exact ⟨a, rfl, h⟩
      · rintro ⟨a', h, hf⟩
        cases h
        exact hf

theorem mapError_eq_ok_iff {x : Except ε α} {f : ε → ε'} {a : α} :
    x.mapError f = .ok a ↔ x = .ok a := by
  cases x with
  | error e =>
      constructor
      · intro h
        cases h
      · intro h
        cases h
  | ok a' =>
      constructor
      · intro h
        cases h
        rfl
      · intro h
        cases h
        rfl

/-- Whenever the first computation succeeds, the second one does, and their results are related. -/
def Refines (R : α → α' → Prop) (x : Except ε α) (y : Except ε' α') : Prop :=
  ∀ a, x = .ok a → ∃ a', y = .ok a' ∧ R a a'

namespace Refines

variable {R : α → α' → Prop} {S : β → β' → Prop}

theorem ok {a : α} {a' : α'} (h : R a a') : Refines R (.ok a : Except ε α) (.ok a' : Except ε' α') := by
  intro b hb
  cases hb
  exact ⟨a', rfl, h⟩

theorem error (e : ε) (y : Except ε' α') : Refines R (.error e) y :=
  nofun

theorem bind {x : Except ε α} {y : Except ε' α'} {f : α → Except ε β} {g : α' → Except ε' β'}
    (h : Refines R x y) (hfg : ∀ a a', R a a' → Refines S (f a) (g a')) :
    Refines S (x >>= f) (y >>= g) := by
  intro b hb
  obtain ⟨a, hx, hf⟩ := bind_eq_ok_iff.mp hb
  obtain ⟨a', hy, hR⟩ := h a hx
  obtain ⟨b', hg, hS⟩ := hfg a a' hR b hf
  exact ⟨b', bind_eq_ok_iff.mpr ⟨a', hy, hg⟩, hS⟩

end Refines

end Except
