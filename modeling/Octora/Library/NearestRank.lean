import Mathlib.Data.List.Sort
import Mathlib.Order.Basic

namespace NearestRank

variable {α : Type} [LinearOrder α]

-- The nearest-rank quantile: a sample with `part` of `whole` of the samples at or below it,
-- and fewer strictly below.
structure Quantile (part whole : Nat) (samples : List α) (p : α) : Prop where
  sample : p ∈ samples
  reaches : part * samples.length ≤ whole * samples.countP fun x => x ≤ p
  least : whole * samples.countP (fun x => x < p) < part * samples.length

-- The smallest rank that covers `part` of `whole` of `count` samples, counted from one.
def rank (part whole count : Nat) : Nat := (part * count + (whole - 1)) / whole

section Rank
variable {part whole : Nat} {samples : List α} {p cap : α}

theorem rank_covers (part : Nat) (positive : 0 < whole) (count : Nat) : part * count ≤ whole * rank part whole count := by
  have split := Nat.div_add_mod (part * count + (whole - 1)) whole
  have rest := Nat.mod_lt (part * count + (whole - 1)) positive
  unfold rank
  omega

theorem rank_least (part : Nat) (positive : 0 < whole) (below : r < rank part whole count) : whole * r < part * count := by
  have step : (r + 1) * whole ≤ part * count + (whole - 1) := (Nat.le_div_iff_mul_le positive).mp below
  rw [Nat.succ_mul,Nat.mul_comm] at step
  omega

theorem rank_pos (some_ : 0 < part) (any : 0 < count) (positive : 0 < whole) : 0 < rank part whole count := by
  have covers := rank_covers part positive count
  have least : 0 < part * count := Nat.mul_pos some_ any
  by_contra zero
  rw [Nat.eq_zero_of_not_pos zero] at covers
  omega

theorem rank_le (bounded : part ≤ whole) (positive : 0 < whole) (count : Nat) : rank part whole count ≤ count := by
  have scaled : part * count ≤ whole * count := Nat.mul_le_mul_right _ bounded
  refine Nat.lt_succ_iff.mp ((Nat.div_lt_iff_lt_mul positive).mpr ?_)
  rw [Nat.succ_mul,Nat.mul_comm count]
  omega

-- In ascending order, the samples up to an index are at most the one there.
theorem sorted_reaches (sorted : samples.Pairwise (· ≤ ·)) (inside : i < samples.length) :
    i + 1 ≤ samples.countP fun x => x ≤ samples[i] := by
  have front : (samples.take (i+1)).countP (fun x => x ≤ samples[i]) = i + 1 := by
    rw [List.countP_eq_length.mpr]
    · rw [List.length_take]
      omega
    · intro x member
      obtain ⟨j,bound,rfl⟩ := List.mem_iff_getElem.mp member
      have early : j < i + 1 := by simp at bound; omega
      rw [List.getElem_take,decide_eq_true_eq]
      rcases Nat.lt_or_eq_of_le (Nat.lt_succ_iff.mp early) with before | rfl
      · exact List.pairwise_iff_getElem.mp sorted j i _ inside before
      · exact le_refl _
  rw [← front]
  exact (List.take_sublist _ _).countP_le

theorem sorted_least (sorted : samples.Pairwise (· ≤ ·)) (inside : i < samples.length) :
    samples.countP (fun x => x < samples[i]) ≤ i := by
  have back : (samples.drop i).countP (fun x => x < samples[i]) = 0 := by
    rw [List.countP_eq_zero]
    intro x member
    obtain ⟨j,bound,rfl⟩ := List.mem_iff_getElem.mp member
    rw [List.getElem_drop,decide_eq_true_eq,not_lt]
    rcases Nat.eq_zero_or_pos j with rfl | later
    · exact le_refl _
    · exact List.pairwise_iff_getElem.mp sorted i (i+j) inside (by simp at bound; omega) (by omega)
  have parts : (samples.take i ++ samples.drop i).countP (fun x => x < samples[i]) =
      (samples.take i).countP (fun x => x < samples[i]) + (samples.drop i).countP (fun x => x < samples[i]) :=
    List.countP_append
  rw [List.take_append_drop,back] at parts
  rw [parts,Nat.add_zero]
  exact Nat.le_trans List.countP_le_length (by simp)

theorem quantile_perm (same : samples.Perm others) : Quantile part whole samples p ↔ Quantile part whole others p := by
  constructor
  · intro found
    exact ⟨same.mem_iff.mp found.sample,by rw [← same.countP_eq,← same.length_eq]; exact found.reaches,
      by rw [← same.countP_eq,← same.length_eq]; exact found.least⟩
  · intro found
    exact ⟨same.mem_iff.mpr found.sample,by rw [same.countP_eq,same.length_eq]; exact found.reaches,
      by rw [same.countP_eq,same.length_eq]; exact found.least⟩

theorem quantile_at (sorted : samples.Pairwise (· ≤ ·)) (positive : 0 < whole) (inside : i < samples.length)
    (ranked : i + 1 = rank part whole samples.length) : Quantile part whole samples samples[i] := by
  refine ⟨List.getElem_mem inside,?_,?_⟩
  · have covers := rank_covers part positive samples.length
    rw [← ranked] at covers
    exact Nat.le_trans covers (Nat.mul_le_mul_left _ (sorted_reaches sorted inside))
  · have early := rank_least part positive (show i < rank part whole samples.length by omega)
    exact Nat.lt_of_le_of_lt (Nat.mul_le_mul_left _ (sorted_least sorted inside)) early

-- A bound holds of the quantile exactly when enough samples meet it.
theorem quantile_le (found : Quantile part whole samples p) :
    p ≤ cap ↔ part * samples.length ≤ whole * samples.countP fun x => x ≤ cap := by
  constructor
  · intro below
    have wider : samples.countP (fun x => x ≤ p) ≤ samples.countP fun x => x ≤ cap := by
      apply List.countP_mono_left
      intro x _ small
      rw [decide_eq_true_eq] at small ⊢
      exact le_trans small below
    exact Nat.le_trans found.reaches (Nat.mul_le_mul_left _ wider)
  · intro enough
    by_contra above
    have wider : samples.countP (fun x => x ≤ cap) ≤ samples.countP fun x => x < p := by
      apply List.countP_mono_left
      intro x _ small
      rw [decide_eq_true_eq] at small ⊢
      exact lt_of_le_of_lt small (not_le.mp above)
    have least := found.least
    have scaled := Nat.mul_le_mul_left whole wider
    omega

theorem quantile_unique (one : Quantile part whole samples p) (two : Quantile part whole samples q) : p = q :=
  le_antisymm ((quantile_le one).mpr two.reaches) ((quantile_le two).mpr one.reaches)

end Rank

end NearestRank
