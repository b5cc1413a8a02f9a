import Mathlib.Algebra.BigOperators.Group.Finset.Basic
import Mathlib.Algebra.Order.BigOperators.Group.Finset
import Mathlib.Data.Fintype.BigOperators

namespace Balances
variable {ι : Type} [Fintype ι] [DecidableEq ι] {balance : ι → Nat}

def total (balance : ι → Nat) : Nat := ∑ key, balance key

omit [DecidableEq ι] in
theorem le_total (balance : ι → Nat) (key : ι) : balance key ≤ total balance :=
  Finset.single_le_sum (fun _ _ => Nat.zero_le _) (Finset.mem_univ key)

theorem total_update (balance : ι → Nat) (key : ι) (amount : Nat) :
    total (Function.update balance key amount) + balance key = total balance + amount := by
  have after := Finset.sum_update_of_mem (Finset.mem_univ key) balance amount
  have before := Finset.sum_update_of_mem (Finset.mem_univ key) balance (balance key)
  rw [Function.update_eq_self] at before
  simp only [total]
  omega

end Balances
