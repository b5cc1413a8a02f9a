import Mathlib.Logic.Function.Basic
import Mathlib.Data.Nat.ModEq

namespace RingWindow
variable {α : Type} {size : Nat}

-- Push number `n` lands in slot `n % size`; push 0 pre-fills every slot.
-- `latest size n slot` is the push whose value the slot holds after `n` pushes.
def latest (size : Nat) : Nat → Nat → Nat
  | 0,_ => 0
  | n+1,slot => if (n+1) % size = slot then n+1 else latest size n slot

def Window (history : Nat → α) (n : Nat) (slots : Fin size → α) : Prop :=
  ∀ slot, slots slot = history (latest size n slot)

theorem latest_le (n slot : Nat) : latest size n slot ≤ n := by
  induction n with
  | zero => exact Nat.le_refl 0
  | succ n ih =>
    rw [latest]
    split
    · exact Nat.le_refl _
    · exact Nat.le_succ_of_le ih

theorem latest_slot (n : Nat) (inside : slot < size) :
    latest size n slot % size = slot ∨ latest size n slot = 0 ∧ n < slot := by
  induction n with
  | zero =>
    rcases Nat.eq_zero_or_pos slot with first | later
    · exact .inl (by rw [latest,first,Nat.zero_mod])
    · exact .inr ⟨rfl,later⟩
  | succ n ih =>
    rw [latest]
    split
    · rename_i here
      exact .inl here
    · rename_i elsewhere
      refine ih.imp id fun ⟨initial,below⟩ => ⟨initial,?_⟩
      have missed : n+1 ≠ slot := fun same => elsewhere (by rw [same,Nat.mod_eq_of_lt inside])
      omega

-- A slot is overwritten every `size` pushes, so what it holds is never older.
theorem latest_recent (inside : slot < size) : n < latest size n slot + size := by
  induction n with
  | zero => exact Nat.lt_of_lt_of_le (Nat.zero_lt_of_lt inside) (Nat.le_add_left _ _)
  | succ n ih =>
    rw [latest]
    split
    · exact Nat.lt_add_of_pos_right (Nat.zero_lt_of_lt inside)
    · rename_i elsewhere
      have apart : n+1 ≠ latest size n slot + size := by
        intro same
        rcases latest_slot n inside with held | ⟨initial,below⟩
        · exact elsewhere (by rw [same,Nat.add_mod_right,held])
        · omega
      omega

theorem latest_window (entered : k ≤ n) (recent : n < k + size) : latest size n (k % size) = k := by
  induction n with
  | zero => exact (Nat.le_zero.mp entered).symm
  | succ n ih =>
    rw [latest]
    split
    · rename_i same
      have distance : (n+1-k) % size = 0 := (Nat.modEq_iff_dvd' entered).mp (show k ≡ n+1 [MOD size] from same.symm)
        |> Nat.mod_eq_zero_of_dvd
      rw [Nat.mod_eq_of_lt (by omega)] at distance
      omega
    · rename_i elsewhere
      have older : k ≤ n := by
        by_contra later
        exact elsewhere (by rw [show n+1 = k by omega])
      exact ih older (by omega)

theorem window_push (window : Window history n slots) (slot : Fin size) (next : slot.val = (n+1) % size) :
    Window history (n+1) (Function.update slots slot (history (n+1))) := by
  intro other
  rw [latest]
  by_cases same : other = slot
  · subst same
    rw [Function.update_self,if_pos next.symm]
  · have apart : (n+1) % size ≠ other.val := fun equal => same (Fin.ext (equal.symm.trans next.symm))
    rw [Function.update_of_ne same,if_neg apart,window other]

theorem window_congr {slots : Fin size → α} (window : Window history n slots)
    (same : ∀ k ≤ n, history k = other k) : Window other n slots :=
  fun slot => (window slot).trans (same _ (latest_le _ _))

theorem window_known {slots : Fin size → α} (window : Window history n slots) :
    (∃ slot, slots slot = value) ↔ ∃ k ≤ n, n < k + size ∧ value = history k := by
  constructor
  · rintro ⟨slot,rfl⟩
    exact ⟨latest size n slot,latest_le _ _,latest_recent slot.isLt,window slot⟩
  · rintro ⟨k,entered,recent,rfl⟩
    have positive : 0 < size := by omega
    refine ⟨⟨k % size,Nat.mod_lt _ positive⟩,?_⟩
    rw [window,latest_window entered recent]

theorem window_current {slots : Fin size → α} (window : Window history n slots) (slot : Fin size)
    (here : slot.val = n % size) : slots slot = history n := by
  have positive : 0 < size := Nat.zero_lt_of_lt slot.isLt
  rw [window,here,latest_window (Nat.le_refl n) (by omega)]

end RingWindow
