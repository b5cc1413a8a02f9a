import Octora.Common.SolanaTx
import Octora.Library.NearestRank

namespace Octora.SolanaTx.PriorityFee
open NearestRank

def DEFAULT_MIN_PRIORITY_FEE_MICROLAMPORTS : Int := 1000

-- The RPC node: the fees recently paid, on the accounts named or on all.
structure Connection where
  getRecentPrioritizationFees : Option (List Text) → Except Text (List Int)

def sampled (connection : Connection) (accounts : List Text) : Except Text (List Int) :=
  connection.getRecentPrioritizationFees (if accounts = [] then none else some accounts)

-- solana-tx.ts, from the answer on; `catch` returns the floor.
def feeOf (samples : Except Text (List Int)) (cap : Int) : Int :=
  match samples with
  | .error _ => DEFAULT_MIN_PRIORITY_FEE_MICROLAMPORTS
  | .ok samples =>
    if samples.length = 0 then DEFAULT_MIN_PRIORITY_FEE_MICROLAMPORTS
    else
      let sorted := samples.insertionSort fun a b => a ≤ b
      let idx := min (sorted.length - 1) (rank 3 4 sorted.length - 1)
      let p75 := max 0 (sorted[idx]?.getD 0)
      if cap < p75 then cap
      else if p75 < DEFAULT_MIN_PRIORITY_FEE_MICROLAMPORTS then DEFAULT_MIN_PRIORITY_FEE_MICROLAMPORTS
      else p75

def pickPriorityFeeMicroLamports (connection : Connection) (accounts : List Text) (cap : Int) : Int :=
  feeOf (sampled connection accounts) cap

-- The two exceptional returns do not know the cap, and the floor goes before it.
theorem feeOf_none (samples : Except Text (List Int)) (cap : Int) (none_ : samples = .ok [] ∨ ∃ message,samples = .error message) :
    feeOf samples cap = DEFAULT_MIN_PRIORITY_FEE_MICROLAMPORTS := by
  rcases none_ with rfl | ⟨message,rfl⟩
  · rfl
  · rfl

theorem feeOf_some {samples : List Int} (some_ : samples ≠ []) (cap : Int) : ∃ p75, Quantile 3 4 samples p75 ∧
    feeOf (.ok samples) cap = if cap < max 0 p75 then cap else max DEFAULT_MIN_PRIORITY_FEE_MICROLAMPORTS p75 := by
  have any : 0 < samples.length := List.length_pos_of_ne_nil some_
  have sorted : (samples.insertionSort fun a b : Int => a ≤ b).Pairwise (· ≤ ·) := List.pairwise_insertionSort _ _
  have same : (samples.insertionSort fun a b : Int => a ≤ b).Perm samples := List.perm_insertionSort _ _
  have positive : 0 < rank 3 4 (samples.insertionSort fun a b : Int => a ≤ b).length :=
    rank_pos (by decide) (by rw [same.length_eq]; exact any) (by decide)
  have fits : rank 3 4 (samples.insertionSort fun a b : Int => a ≤ b).length ≤
      (samples.insertionSort fun a b : Int => a ≤ b).length := rank_le (by decide) (by decide) _
  have inside : rank 3 4 (samples.insertionSort fun a b : Int => a ≤ b).length - 1 <
      (samples.insertionSort fun a b : Int => a ≤ b).length := by omega
  have clipped : min ((samples.insertionSort fun a b : Int => a ≤ b).length - 1)
      (rank 3 4 (samples.insertionSort fun a b : Int => a ≤ b).length - 1) =
      rank 3 4 (samples.insertionSort fun a b : Int => a ≤ b).length - 1 := by omega
  refine ⟨_,(quantile_perm same).mp (quantile_at sorted (by decide) inside (by omega)),?_⟩
  simp only [feeOf,if_neg (Nat.ne_of_gt any),clipped,List.getElem?_eq_getElem inside,Option.getD_some]
  unfold DEFAULT_MIN_PRIORITY_FEE_MICROLAMPORTS
  split
  · rfl
  · split <;> omega

-- What the fee should be for the samples that came back.
structure FeeRight (connection : Connection) (accounts : List Text) (cap : Nat) : Prop where
  capped : pickPriorityFeeMicroLamports connection accounts cap ≤ cap
  percentile : ∀ samples,sampled connection accounts = .ok samples → samples ≠ [] → ∃ p75,Quantile 3 4 samples p75 ∧
    pickPriorityFeeMicroLamports connection accounts cap = min (cap : Int) (max DEFAULT_MIN_PRIORITY_FEE_MICROLAMPORTS p75)
  unordered : ∀ samples others : List Int,sampled connection accounts = .ok samples → samples.Perm others →
    feeOf (.ok others) cap = pickPriorityFeeMicroLamports connection accounts cap

-- The cap is at least the floor, or more than a quarter of the samples are above it.
def CapApplies (connection : Connection) (accounts : List Text) (cap : Nat) : Prop :=
  DEFAULT_MIN_PRIORITY_FEE_MICROLAMPORTS ≤ cap ∨
    ∃ samples : List Int,sampled connection accounts = .ok samples ∧ samples ≠ [] ∧
      4 * samples.countP (fun fee => fee ≤ (cap : Int)) < 3 * samples.length

theorem feeOf_unordered {samples others : List Int} (same : samples.Perm others) (cap : Int) :
    feeOf (.ok others) cap = feeOf (.ok samples) cap := by
  by_cases none_ : samples = []
  · subst none_
    rw [List.nil_perm.mp same]
  · have some_ : others ≠ [] := fun empty => none_ (List.perm_nil.mp (empty ▸ same))
    obtain ⟨p75,found,fee⟩ := feeOf_some none_ cap
    obtain ⟨also,found',fee'⟩ := feeOf_some some_ cap
    rw [fee,fee',quantile_unique found ((quantile_perm same).mpr found')]

theorem priority_fee_capped (connection : Connection) (accounts : List Text) (cap : Nat) :
    FeeRight connection accounts cap ↔ CapApplies connection accounts cap := by
  constructor
  · intro right
    by_contra outside
    obtain ⟨low,few⟩ := not_or.mp outside
    have capped := right.capped
    -- No samples: the floor is returned as it is.
    have floored : pickPriorityFeeMicroLamports connection accounts cap = DEFAULT_MIN_PRIORITY_FEE_MICROLAMPORTS := by
      unfold pickPriorityFeeMicroLamports
      cases answer : sampled connection accounts with
      | error message => exact feeOf_none _ _ (.inr ⟨message,rfl⟩)
      | ok samples =>
        by_cases none_ : samples = []
        · exact feeOf_none _ _ (.inl (by rw [none_]))
        obtain ⟨p75,found,fee⟩ := feeOf_some none_ cap
        have below : p75 ≤ (cap : Int) := by
          rw [quantile_le found]
          by_contra short
          exact few ⟨samples,answer,none_,by omega⟩
        rw [fee,if_neg (by omega)]
        omega
    omega
  · intro applies
    have capped : ∀ samples,sampled connection accounts = .ok samples → samples ≠ [] → ∃ p75,Quantile 3 4 samples p75 ∧
        pickPriorityFeeMicroLamports connection accounts cap =
          min (cap : Int) (max DEFAULT_MIN_PRIORITY_FEE_MICROLAMPORTS p75) := by
      intro samples answer some_
      obtain ⟨p75,found,fee⟩ := feeOf_some some_ (cap : Int)
      refine ⟨p75,found,?_⟩
      have bounded : DEFAULT_MIN_PRIORITY_FEE_MICROLAMPORTS ≤ cap ∨ (cap : Int) < p75 := by
        rcases applies with low | ⟨others,again,_,few⟩
        · exact .inl low
        · cases answer.symm.trans again
          refine .inr (not_le.mp fun below => ?_)
          have enough := (quantile_le found).mp below
          omega
      rw [pickPriorityFeeMicroLamports,answer,fee]
      unfold DEFAULT_MIN_PRIORITY_FEE_MICROLAMPORTS at *
      split <;> omega
    refine ⟨?_,capped,?_⟩
    · by_cases some_ : ∃ samples : List Int,sampled connection accounts = .ok samples ∧ samples ≠ []
      · obtain ⟨samples,answer,some_⟩ := some_
        obtain ⟨p75,_,fee⟩ := capped samples answer some_
        rw [fee]
        exact min_le_left _ _
      · have floor : DEFAULT_MIN_PRIORITY_FEE_MICROLAMPORTS ≤ cap := by
          rcases applies with low | ⟨samples,answer,some',_⟩
          · exact low
          · exact absurd ⟨samples,answer,some'⟩ some_
        have none_ : sampled connection accounts = .ok [] ∨ ∃ message,sampled connection accounts = .error message := by
          cases answer : sampled connection accounts with
          | error message => exact .inr ⟨message,rfl⟩
          | ok samples => exact .inl (by rw [not_not.mp fun some' => some_ ⟨samples,answer,some'⟩])
        rw [pickPriorityFeeMicroLamports,feeOf_none _ _ none_]
        exact floor
    · intro samples others answer same
      rw [pickPriorityFeeMicroLamports,answer]
      exact feeOf_unordered same cap

-- The node does not answer, and the operator's ceiling is below the floor.
def unreachable : Connection := ⟨fun _ => .error "fetch failed".toList⟩

theorem cap_ignored : ¬FeeRight unreachable [] 500 := by
  intro right
  exact absurd right.capped (by decide)

example : feeOf (.ok [9000,-4,2000,2000,7000]) 10000 = 7000 := by decide

end Octora.SolanaTx.PriorityFee
