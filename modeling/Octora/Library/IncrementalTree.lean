import Octora.Library.MerkleTree
import Mathlib.Logic.Function.Basic
import Mathlib.Data.List.FinRange
import Mathlib.Tactic.Positivity

namespace IncrementalTree
open MerkleTree
variable {α : Type} {depth : Nat} {hash : α → α → α} {zero : α}

-- Appending one leaf walks the levels upwards. `filled l` caches the last
-- complete left subtree of height `l`; right siblings are still empty.
structure Cursor (α : Type) (depth : Nat) where
  filled : Fin depth → α
  current : α
  index : Nat

variable (hash zero) in
def level (c : Cursor α depth) (l : Fin depth) : Cursor α depth :=
  if c.index % 2 = 0 then
    ⟨Function.update c.filled l c.current,hash c.current (empty hash zero l),c.index / 2⟩
  else ⟨c.filled,hash (c.filled l) c.current,c.index / 2⟩

variable (hash zero) in
def levels (k : Nat) (c : Cursor α depth) : Cursor α depth :=
  ((List.finRange depth).take k).foldl (level hash zero) c

variable (hash zero) in
def Cached (leaves : List α) (filled : Fin depth → α) : Prop :=
  ∀ l : Fin depth, leaves.length / 2^l.val % 2 = 1 →
    filled l = node hash (padded zero leaves) l (leaves.length / 2^l.val - 1)

variable {leaves : List α} {leaf : α} {before : Fin depth → α} {c : Cursor α depth}

theorem levels_succ (c : Cursor α depth) (bound : k < depth) :
    levels hash zero (k+1) c = level hash zero (levels hash zero k c) ⟨k,bound⟩ := by
  have next : (List.finRange depth)[k]? = some ⟨k,bound⟩ := by simp [bound]
  rw [levels,levels,List.take_add_one,next]
  simp

-- Subtrees strictly left of the new leaf do not contain it.
theorem left_node (leaves : List α) (leaf : α) (before : (i+1) * 2^l ≤ leaves.length) :
    node hash (padded zero (leaves ++ [leaf])) l i = node hash (padded zero leaves) l i :=
  node_congr fun _ _ below => padded_append_old (Nat.lt_of_lt_of_le below before)

-- Subtrees strictly right of the new leaf are still empty.
theorem right_node (leaves : List α) (leaf : α) (after : leaves.length < i * 2^l) :
    node hash (padded zero (leaves ++ [leaf])) l i = empty hash zero l :=
  node_empty fun j above => padded_ge (by simp; omega)

theorem left_bound (n l : Nat) (odd : n / 2^l % 2 = 1) : (n / 2^l - 1 + 1) * 2^l ≤ n := by
  have same : n / 2^l - 1 + 1 = n / 2^l := by
    generalize n / 2^l = quotient at odd ⊢
    omega
  rw [same]
  exact Nat.div_mul_le_self _ _

theorem right_bound (n l : Nat) : n < (n / 2^l + 1) * 2^l := by
  have split := Nat.div_add_mod' n (2^l)
  have small := Nat.mod_lt n (show 0 < 2^l by positivity)
  rw [Nat.add_mul]
  omega

-- What the walk knows when it enters level `k`.
structure Entered (hash : α → α → α) (zero : α) (leaves : List α) (leaf : α) (before : Fin depth → α)
    (k : Nat) (c : Cursor α depth) : Prop where
  index : c.index = leaves.length / 2^k
  current : c.current = node hash (padded zero (leaves ++ [leaf])) k (leaves.length / 2^k)
  written : ∀ l : Fin depth, l.val < k → leaves.length / 2^l.val % 2 = 0 →
    c.filled l = node hash (padded zero (leaves ++ [leaf])) l (leaves.length / 2^l.val)
  kept : ∀ l : Fin depth, ¬(l.val < k ∧ leaves.length / 2^l.val % 2 = 0) → c.filled l = before l

theorem entered_start (leaves : List α) (leaf : α) (before : Fin depth → α) :
    Entered hash zero leaves leaf before 0 ⟨before,leaf,leaves.length⟩ where
  index := by simp
  current := by simp [node]
  written := fun l bound => absurd bound (Nat.not_lt_zero _)
  kept := fun _ _ => rfl

-- The cache is read only where the running index is odd, and there it holds the left sibling.
theorem entered_reads (cached : Cached hash zero leaves before)
    (entered : Entered hash zero leaves leaf before k c) (bound : k < depth) (odd : c.index % 2 = 1) :
    c.filled ⟨k,bound⟩ = node hash (padded zero leaves) k (leaves.length / 2^k - 1) := by
  rw [entered.kept _ (by simp)]
  exact cached ⟨k,bound⟩ (by rw [← entered.index]; exact odd)

theorem entered_step (cached : Cached hash zero leaves before)
    (entered : Entered hash zero leaves leaf before k c) (bound : k < depth) :
    Entered hash zero leaves leaf before (k+1) (level hash zero c ⟨k,bound⟩) := by
  have halved : leaves.length / 2^(k+1) = leaves.length / 2^k / 2 := by
    rw [pow_succ,Nat.div_div_eq_div_mul]
  rcases Nat.mod_two_eq_zero_or_one c.index with even | odd
  · have evenIndex : leaves.length / 2^k % 2 = 0 := by rw [← entered.index]; exact even
    have pair : 2 * (leaves.length / 2^(k+1)) = leaves.length / 2^k := by omega
    rw [level,if_pos even]
    refine ⟨by rw [halved,← entered.index],?_,?_,?_⟩
    · simp only [node]
      rw [pair,right_node leaves leaf (right_bound _ _),← entered.current]
    · intro l lower evenAt
      by_cases here : l = ⟨k,bound⟩
      · subst here
        exact (Function.update_self _ _ _).trans entered.current
      · have below : l.val < k := by
          have : l.val ≠ k := fun same => here (Fin.ext same)
          omega
        exact (Function.update_of_ne here _ _).trans (entered.written l below evenAt)
    · intro l outside
      have elsewhere : l ≠ ⟨k,bound⟩ := by
        rintro rfl
        exact outside ⟨Nat.lt_succ_self _,evenIndex⟩
      exact (Function.update_of_ne elsewhere _ _).trans
        (entered.kept l fun inside => outside ⟨Nat.lt_succ_of_lt inside.1,inside.2⟩)
  · have oddIndex : leaves.length / 2^k % 2 = 1 := by rw [← entered.index]; exact odd
    have pair : 2 * (leaves.length / 2^(k+1)) = leaves.length / 2^k - 1 := by omega
    have right : leaves.length / 2^k - 1 + 1 = leaves.length / 2^k := by omega
    have read := entered_reads cached entered bound odd
    rw [level,if_neg (by omega)]
    refine ⟨by rw [halved,← entered.index],?_,?_,?_⟩
    · simp only [node]
      rw [pair,right,left_node leaves leaf (left_bound _ _ oddIndex),← read,← entered.current]
    · intro l lower evenAt
      have below : l.val < k := by
        have : l.val ≠ k := fun same => by rw [same] at evenAt; omega
        omega
      exact entered.written l below evenAt
    · intro l outside
      exact entered.kept l fun inside => outside ⟨Nat.lt_succ_of_lt inside.1,inside.2⟩

theorem entered_levels (leaf : α) (cached : Cached hash zero leaves before) (bound : k ≤ depth) :
    Entered hash zero leaves leaf before k (levels hash zero k ⟨before,leaf,leaves.length⟩) := by
  induction k with
  | zero => exact entered_start _ _ _
  | succ k ih =>
    rw [levels_succ _ (Nat.lt_of_succ_le bound)]
    exact entered_step cached (ih (Nat.le_of_succ_le bound)) _

theorem levels_root (leaf : α) (cached : Cached hash zero leaves before) (room : leaves.length < 2^depth) :
    (levels hash zero depth ⟨before,leaf,leaves.length⟩).current =
      root hash zero depth (leaves ++ [leaf]) := by
  have entered := entered_levels leaf cached (Nat.le_refl depth)
  rw [entered.current,Nat.div_eq_of_lt room,root]

-- Slot `l` is rewritten exactly when the index is even there, so after the
-- append every odd position of `n+1` still points at a complete left subtree.
theorem levels_cached (leaf : α) (cached : Cached hash zero leaves before) :
    Cached hash zero (leaves ++ [leaf])
      (levels hash zero depth ⟨before,leaf,leaves.length⟩).filled := by
  intro l odd
  have entered := entered_levels leaf cached (Nat.le_refl depth)
  rw [List.length_append,List.length_singleton] at odd ⊢
  rw [Nat.succ_div] at odd ⊢
  rcases Nat.mod_two_eq_zero_or_one (leaves.length / 2^l.val) with even | oddBefore
  · have carried : 2^l.val ∣ leaves.length+1 := by
      by_contra stays
      rw [if_neg stays] at odd
      omega
    rw [if_pos carried,entered.written l l.isLt even,Nat.add_sub_cancel]
  · have stays : ¬2^l.val ∣ leaves.length+1 := by
      intro carried
      rw [if_pos carried] at odd
      omega
    rw [if_neg stays,Nat.add_zero,entered.kept l (by omega),cached l oddBefore,
      left_node leaves leaf (left_bound _ _ oddBefore)]

theorem cached_nil (filled : Fin depth → α) : Cached hash zero [] filled := by
  intro l odd
  simp at odd

end IncrementalTree
