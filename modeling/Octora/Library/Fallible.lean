import Mathlib.Tactic.TypeStar

namespace Fallible
variable {ε α β : Type}

def require (condition : Prop) [Decidable condition] (error : ε) : Except ε Unit :=
  if condition then .ok () else .error error

@[simp] theorem require_ok (condition : Prop) [Decidable condition] (error : ε) (u : Unit) :
    require condition error = .ok u ↔ condition := by
  unfold require
  split <;> simp_all

@[simp] theorem require_error (condition : Prop) [Decidable condition] (error other : ε) :
    require condition error = .error other ↔ ¬condition ∧ error = other := by
  unfold require
  split <;> simp_all

theorem bind_ok {x : Except ε α} {f : α → Except ε β} :
    x.bind f = .ok result ↔ ∃ a, x = .ok a ∧ f a = .ok result := by
  cases x <;> simp [Except.bind]

theorem bind_error {x : Except ε α} {f : α → Except ε β} :
    x.bind f = .error error ↔ x = .error error ∨ ∃ a, x = .ok a ∧ f a = .error error := by
  cases x <;> simp [Except.bind]

@[simp] theorem do_ok {x : Except ε α} {f : α → Except ε β} :
    (x >>= f) = .ok result ↔ ∃ a, x = .ok a ∧ f a = .ok result := bind_ok

@[simp] theorem do_error {x : Except ε α} {f : α → Except ε β} :
    (x >>= f) = .error error ↔ x = .error error ∨ ∃ a, x = .ok a ∧ f a = .error error := bind_error

@[simp] theorem mapError_ok {ε' : Type} {x : Except ε α} {f : ε → ε'} : x.mapError f = .ok result ↔ x = .ok result := by
  cases x with
  | ok a =>
    constructor
    · intro same
      cases same
      rfl
    · intro same
      cases same
      rfl
  | error error =>
    constructor
    · intro same
      cases same
    · intro same
      cases same

-- A fallible loop that succeeds computes what its total counterpart computes.
theorem foldlM_exact {step : α → β → Except ε α} {total : α → β → α}
    (exact : ∀ s item next, step s item = .ok next → next = total s item) (items : List β)
    (finished : items.foldlM step start = .ok result) : result = items.foldl total start := by
  induction items generalizing start with
  | nil => exact (Except.ok.inj finished).symm
  | cons item rest ih =>
    rw [List.foldlM_cons,do_ok] at finished
    obtain ⟨next,first,later⟩ := finished
    rw [List.foldl_cons,← exact _ _ _ first]
    exact ih later

end Fallible
