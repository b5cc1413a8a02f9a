import Mathlib.Tactic.TypeStar

namespace Stateful
variable {σ ε α β : Type}

-- A computation over a state that may fail; what it did before it failed stays done.
def Flow (σ ε α : Type) := σ → Except ε α × σ

def Flow.ret (result : α) : Flow σ ε α := fun s => (.ok result,s)

def Flow.andThen (x : Flow σ ε α) (f : α → Flow σ ε β) : Flow σ ε β := fun s =>
  match x s with
  | (.ok a,next) => f a next
  | (.error error,next) => (.error error,next)

instance : Monad (Flow σ ε) where
  pure := Flow.ret
  bind := Flow.andThen

def fails (error : ε) : Flow σ ε α := fun s => (.error error,s)

def lift (result : Except ε α) : Flow σ ε α := fun s => (result,s)

def orFail (value : Option α) (error : ε) : Flow σ ε α :=
  match value with
  | some found => Flow.ret found
  | none => fails error

def assert (condition : Prop) [Decidable condition] (error : ε) : Flow σ ε Unit :=
  if condition then Flow.ret () else fails error

def read : Flow σ ε σ := fun s => (.ok s,s)

theorem flow_ok {x : Flow σ ε α} {f : α → Flow σ ε β} :
    (x >>= f) s = (.ok result,last) ↔ ∃ a next, x s = (.ok a,next) ∧ f a next = (.ok result,last) := by
  change Flow.andThen x f s = _ ↔ _
  unfold Flow.andThen
  cases ran : x s with
  | mk first next =>
    cases first with
    | ok a =>
      constructor
      · intro ends
        exact ⟨a,next,rfl,ends⟩
      · rintro ⟨_,_,same,ends⟩
        cases same
        exact ends
    | error error => simp

-- What follows a primitive runs, or the error stands and the state is as it was.
theorem assert_then (condition : Prop) [Decidable condition] (f : Unit → Flow σ ε β) :
    (assert condition error >>= f) s = if condition then f () s else (.error error,s) := by
  change Flow.andThen _ _ s = _
  unfold Flow.andThen assert
  by_cases holds : condition
  · simp only [if_pos holds]
    rfl
  · simp only [if_neg holds]
    rfl

theorem orFail_then (value : Option α) (f : α → Flow σ ε β) :
    (orFail value error >>= f) s = match value with
      | some found => f found s
      | none => (.error error,s) := by
  cases value with
  | none => rfl
  | some found => rfl

theorem read_then (f : σ → Flow σ ε β) : (read >>= f) s = f s s := rfl

@[simp] theorem pure_ok : (pure a : Flow σ ε α) s = (.ok result,last) ↔ a = result ∧ s = last := by
  change (Except.ok a,s) = _ ↔ _
  simp

@[simp] theorem lift_ok {value : Except ε α} : lift value s = (.ok result,last) ↔ value = .ok result ∧ s = last := by
  simp [lift]

@[simp] theorem orFail_ok {value : Option α} :
    (orFail value error : Flow σ ε α) s = (.ok result,last) ↔ value = some result ∧ s = last := by
  cases value with
  | none => simp [orFail,fails]
  | some found => simp [orFail,Flow.ret]

@[simp] theorem assert_ok (condition : Prop) [Decidable condition] :
    (assert condition error : Flow σ ε Unit) s = (.ok result,last) ↔ condition ∧ s = last := by
  unfold assert
  split <;> simp_all [fails,Flow.ret]

@[simp] theorem read_ok : (read : Flow σ ε σ) s = (.ok result,last) ↔ s = result ∧ s = last := by
  simp [read]

theorem ran_ok {x : Flow σ ε α} (fine : (x s).1.isOk = true) : ∃ result,x s = (.ok result,(x s).2) := by
  cases ran : x s with
  | mk first next =>
    cases first with
    | ok result => exact ⟨result,rfl⟩
    | error error =>
      rw [ran] at fine
      cases fine

end Stateful
