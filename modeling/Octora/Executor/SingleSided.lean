import Octora.Executor.BinRange

namespace Octora.Executor

inductive DistributionShape where
  | spot
  | curve
  | bidAsk
  deriving DecidableEq

def STRATEGY_BY_SHAPE : DistributionShape → Nat
  | .spot => 6
  | .curve => 7
  | .bidAsk => 8

structure SingleSidedSolPlan where
  amountX : Int
  amountY : Int
  strategyType : Nat
  minBinId : Int
  maxBinId : Int
  deriving DecidableEq

structure SingleSidedSolInput where
  totalLamports : Int
  activeBinId : Int
  lowerBinId : Int
  upperBinId : Int
  shape : DistributionShape
  solIsTokenX : Bool

inductive SingleSidedRangeError where
  | lamports
  | order (lowerBinId upperBinId : Int)
  | belowActive (lowerBinId upperBinId activeBinId : Int)
  | aboveActive (lowerBinId upperBinId activeBinId : Int)
  deriving DecidableEq

def SingleSidedRangeError.message : SingleSidedRangeError → String
  | .lamports => "totalLamports must be positive."
  | .order lowerBinId upperBinId => s!"lowerBinId ({lowerBinId}) must be <= upperBinId ({upperBinId})."
  | .belowActive lowerBinId upperBinId activeBinId =>
    s!"Single-sided SOL (X side): range [{lowerBinId}, {upperBinId}] is entirely below active ({activeBinId}); " ++
      "all bins would receive 0 SOL. Move upper above active."
  | .aboveActive lowerBinId upperBinId activeBinId =>
    s!"Single-sided SOL (Y side): range [{lowerBinId}, {upperBinId}] is entirely above active ({activeBinId}); " ++
      "all bins would receive 0 SOL. Move lower below active."

def planSingleSidedSol (input : SingleSidedSolInput) : Except SingleSidedRangeError SingleSidedSolPlan := do
  if input.totalLamports ≤ 0 then throw .lamports
  if input.upperBinId < input.lowerBinId then throw (.order input.lowerBinId input.upperBinId)
  if input.solIsTokenX then
    if input.upperBinId < input.activeBinId then
      throw (.belowActive input.lowerBinId input.upperBinId input.activeBinId)
  else
    if input.activeBinId < input.lowerBinId then
      throw (.aboveActive input.lowerBinId input.upperBinId input.activeBinId)
  return {
    amountX := if input.solIsTokenX then input.totalLamports else 0
    amountY := if input.solIsTokenX then 0 else input.totalLamports
    strategyType := STRATEGY_BY_SHAPE input.shape
    minBinId := input.lowerBinId
    maxBinId := input.upperBinId }

-- The plan buildAddLiquidityTx asks for.
def addLiquidityInput (config : TestPairConfig) (totalSolLamports : Int) (shape : DistributionShape)
    (solIsTokenX : Bool) : SingleSidedSolInput where
  totalLamports := totalSolLamports
  activeBinId := config.activeBin
  lowerBinId := config.lowerBinId
  upperBinId := config.upperBinId
  shape := shape
  solIsTokenX := solIsTokenX

-- The bins that hold SOL at a deposit: the SOL side of the active bin, itself included.
def Eligible (solIsTokenX : Bool) (activeBin bin : Int) : Prop :=
  if solIsTokenX then activeBin ≤ bin else bin ≤ activeBin

instance (solIsTokenX : Bool) (activeBin bin : Int) : Decidable (Eligible solIsTokenX activeBin bin) :=
  inferInstanceAs (Decidable (if solIsTokenX then activeBin ≤ bin else bin ≤ activeBin))

@[simp] theorem eligible_x (activeBin bin : Int) : Eligible true activeBin bin ↔ activeBin ≤ bin := Iff.rfl

@[simp] theorem eligible_y (activeBin bin : Int) : Eligible false activeBin bin ↔ bin ≤ activeBin := Iff.rfl

-- The SOL bins of a range.
def Holds (solIsTokenX : Bool) (activeBin lower upper bin : Int) : Prop :=
  lower ≤ bin ∧ bin ≤ upper ∧ Eligible solIsTokenX activeBin bin

def Planned (input : SingleSidedSolInput) : Prop := ∃ plan, planSingleSidedSol input = .ok plan

-- The request is one bin array, end to end.
def Fills (dlmm : Dlmm) (lower upper : Int) : Prop :=
  lower = 70 * dlmm.binIdToBinArrayIndex lower ∧ upper = lower + 69

section Footprint
variable {dlmm : Dlmm} {solIsTokenX : Bool} {activeBin lower upper : Int}

theorem planned_checks (input : SingleSidedSolInput) : Planned input ↔
    0 < input.totalLamports ∧ input.lowerBinId ≤ input.upperBinId ∧
      (input.solIsTokenX = true → input.activeBinId ≤ input.upperBinId) ∧
      (input.solIsTokenX = false → input.lowerBinId ≤ input.activeBinId) := by
  obtain ⟨lamports,active,lower,upper,shape,isX⟩ := input
  simp only [Planned,planSingleSidedSol,throw,throwThe,MonadExceptOf.throw,pure,Except.pure,bind,Except.bind]
  by_cases positive : lamports ≤ 0
  · simp only [if_pos positive]
    refine iff_of_false (fun found => ?_) fun checks => absurd checks.1 (by omega)
    obtain ⟨plan,equal⟩ := found
    cases equal
  by_cases crossed : upper < lower
  · simp only [if_neg positive,if_pos crossed]
    refine iff_of_false (fun found => ?_) fun checks => absurd checks.2.1 (by omega)
    obtain ⟨plan,equal⟩ := found
    cases equal
  simp only [if_neg positive,if_neg crossed]
  cases isX with
  | true =>
    by_cases below : upper < active
    · simp [below]
    · simp [below]
      omega
  | false =>
    by_cases above : active < lower
    · simp [above]
    · simp [above]
      omega

-- The planner takes a range as soon as it holds one SOL bin.
theorem planned_exact (input : SingleSidedSolInput) : Planned input ↔
    0 < input.totalLamports ∧ ∃ bin, Holds input.solIsTokenX input.activeBinId input.lowerBinId input.upperBinId bin := by
  rw [planned_checks]
  cases input.solIsTokenX with
  | true =>
    simp only [Holds,eligible_x]
    constructor
    · intro checks
      have reach := checks.2.2.1 trivial
      exact ⟨checks.1,input.upperBinId,checks.2.1,le_refl _,reach⟩
    · rintro ⟨positive,bin,one,two,three⟩
      exact ⟨positive,le_trans one two,fun _ => le_trans three two,fun other => Bool.noConfusion other⟩
  | false =>
    simp only [Holds,eligible_y]
    constructor
    · intro checks
      have reach := checks.2.2.2 trivial
      exact ⟨checks.1,input.lowerBinId,le_refl _,checks.2.1,reach⟩
    · rintro ⟨positive,bin,one,two,three⟩
      exact ⟨positive,le_trans one two,fun other => Bool.noConfusion other,fun _ => le_trans one three⟩

-- The SOL bins of two ranges: the same ones, or one edge bin fewer when the
-- request fills its array.
def SameFootprint (dlmm : Dlmm) (solIsTokenX : Bool) (activeBin lower upper : Int) (range : Int × Int) : Prop :=
  (∀ bin, Holds solIsTokenX activeBin range.1 range.2 bin ↔ Holds solIsTokenX activeBin lower upper bin) ∨
  (Fills dlmm lower upper ∧ ∃ edge, (edge = lower ∨ edge = upper) ∧
    ∀ bin, Holds solIsTokenX activeBin range.1 range.2 bin ↔ Holds solIsTokenX activeBin lower upper bin ∧ bin ≠ edge)

-- The ranges whose SOL bins the adjustment leaves alone.
def Unmoved (dlmm : Dlmm) (solIsTokenX : Bool) (activeBin lower upper : Int) : Prop :=
  dlmm.binIdToBinArrayIndex lower = dlmm.binIdToBinArrayIndex upper →
    if solIsTokenX then upper < activeBin
    else activeBin < lower ∨
      (activeBin ≤ upper ∧ (lower = 70 * dlmm.binIdToBinArrayIndex lower → upper = lower + 69 ∧ lower < activeBin))

instance (dlmm : Dlmm) (solIsTokenX : Bool) (activeBin lower upper : Int) :
    Decidable (Unmoved dlmm solIsTokenX activeBin lower upper) :=
  inferInstanceAs (Decidable (_ → if solIsTokenX then _ else _))

theorem gained {range : Int × Int} {bin : Int} (new : Holds solIsTokenX activeBin range.1 range.2 bin)
    (outside : ¬Holds solIsTokenX activeBin lower upper bin) : ¬SameFootprint dlmm solIsTokenX activeBin lower upper range := by
  rintro (same | ⟨-,edge,-,fewer⟩)
  · exact outside ((same bin).mp new)
  · exact outside ((fewer bin).mp new).1

theorem lost {range : Int × Int} {bin : Int} (old : Holds solIsTokenX activeBin lower upper bin)
    (outside : ¬Holds solIsTokenX activeBin range.1 range.2 bin) (partly : ¬Fills dlmm lower upper) :
    ¬SameFootprint dlmm solIsTokenX activeBin lower upper range := by
  rintro (same | ⟨full,-⟩)
  · exact outside ((same bin).mpr old)
  · exact partly full

-- One bin array below the active bin: the bins added below hold SOL when SOL is Y.
theorem below_exact {range : Int × Int} (narrow : lower ≤ upper) (below : upper < activeBin)
    (down : range.1 < lower) (trimmed : range.1 ≤ range.2 ∧ range.2 ≤ upper) :
    SameFootprint dlmm solIsTokenX activeBin lower upper range ↔ solIsTokenX = true := by
  cases solIsTokenX with
  | true =>
    refine iff_of_true (.inl fun bin => ?_) rfl
    simp only [Holds,eligible_x]
    omega
  | false =>
    have new : Holds false activeBin range.1 range.2 range.1 :=
      ⟨le_refl _,trimmed.1,(eligible_y _ _).mpr (by omega)⟩
    have outside : ¬Holds false activeBin lower upper range.1 := fun held => absurd held.1 (by omega)
    exact iff_of_false (gained new outside) Bool.noConfusion

-- One bin array at or above the active bin: the bins added above hold SOL when
-- SOL is X, and a first bin trimmed off held SOL when SOL is Y.
theorem above_exact (low : 70 * dlmm.binIdToBinArrayIndex lower ≤ lower) (narrow : lower ≤ upper)
    (high : upper < 70 * dlmm.binIdToBinArrayIndex lower + 70) (above : activeBin ≤ upper) {range : Int × Int}
    (trimmed : range.1 = max lower (70 * dlmm.binIdToBinArrayIndex lower + 1))
    (up : range.2 = 70 * dlmm.binIdToBinArrayIndex lower + 70) :
    (SameFootprint dlmm solIsTokenX activeBin lower upper range ∧
        ((∃ bin, Holds solIsTokenX activeBin lower upper bin) → ∃ bin, Holds solIsTokenX activeBin range.1 range.2 bin)) ↔
      solIsTokenX = false ∧ (activeBin < lower ∨
        (lower = 70 * dlmm.binIdToBinArrayIndex lower → upper = lower + 69 ∧ lower < activeBin)) := by
  cases solIsTokenX with
  | true =>
    have new : Holds true activeBin range.1 range.2 range.2 := ⟨by omega,le_refl _,(eligible_x _ _).mpr (by omega)⟩
    have outside : ¬Holds true activeBin lower upper range.2 := fun held => absurd held.2.1 (by omega)
    exact iff_of_false (fun kept => gained new outside kept.1) fun side => Bool.noConfusion side.1
  | false =>
    simp only [true_and]
    by_cases apart : activeBin < lower
    · -- Above the active bin nothing holds SOL, before or after.
      refine iff_of_true ⟨.inl fun bin => ?_,fun ⟨bin,one,two,three⟩ => ?_⟩ (.inl apart)
      · simp only [Holds,eligible_y]
        omega
      · rw [eligible_y] at three
        omega
    by_cases first : lower = 70 * dlmm.binIdToBinArrayIndex lower
    · have gone : ¬Holds false activeBin range.1 range.2 lower := fun held => absurd held.1 (by omega)
      have held : Holds false activeBin lower upper lower := ⟨le_refl _,narrow,(eligible_y _ _).mpr (by omega)⟩
      simp only [apart,false_or,first.symm,true_implies]
      constructor
      · rintro ⟨same,reach⟩
        have full : upper = lower + 69 := by
          by_contra short
          exact lost held gone (fun fills => short fills.2) same
        obtain ⟨bin,one,two,three⟩ := reach ⟨lower,held⟩
        rw [eligible_y] at three
        exact ⟨full,by omega⟩
      · rintro ⟨full,inside⟩
        refine ⟨.inr ⟨⟨first,full⟩,lower,.inl rfl,fun bin => ?_⟩,fun _ => ⟨activeBin,?_⟩⟩
        · simp only [Holds,eligible_y]
          omega
        · simp only [Holds,eligible_y]
          omega
    · refine iff_of_true ⟨.inl fun bin => ?_,fun _ => ⟨activeBin,?_⟩⟩ (.inr fun start => absurd start first)
      · simp only [Holds,eligible_y]
        omega
      · simp only [Holds,eligible_y]
        omega

theorem adjust_exact (narrow : lower ≤ upper ∧ upper ≤ lower + 69) :
    (SameFootprint dlmm solIsTokenX activeBin lower upper (adjustRange dlmm activeBin lower upper) ∧
        ((∃ bin, Holds solIsTokenX activeBin lower upper bin) →
          ∃ bin, Holds solIsTokenX activeBin (adjustRange dlmm activeBin lower upper).1
            (adjustRange dlmm activeBin lower upper).2 bin)) ↔
      Unmoved dlmm solIsTokenX activeBin lower upper := by
  have low := dlmm.seventy lower
  have high := dlmm.seventy upper
  obtain ⟨next,plain⟩ | ⟨same,below,down,trimmed⟩ | ⟨same,above,trimmed,up⟩ :=
    @adjust_cases dlmm activeBin lower upper narrow
  · rw [plain]
    refine iff_of_true ⟨.inl fun bin => Iff.rfl,id⟩ fun inside => ?_
    omega
  · have exact : SameFootprint dlmm solIsTokenX activeBin lower upper (adjustRange dlmm activeBin lower upper) ↔
        solIsTokenX = true := below_exact narrow.1 below (by omega) (by omega)
    rw [exact,Unmoved,same]
    cases solIsTokenX with
    | true =>
      refine iff_of_true ⟨rfl,fun ⟨bin,one,two,three⟩ => ?_⟩ fun _ => below
      rw [eligible_x] at three
      omega
    | false =>
      refine iff_of_false (fun side => Bool.noConfusion side.1) fun moved => ?_
      obtain apart | ⟨inside,-⟩ := moved rfl <;> omega
  · rw [above_exact low.1 narrow.1 (by omega) above trimmed up,Unmoved,same]
    cases solIsTokenX with
    | true =>
      refine iff_of_false (fun side => Bool.noConfusion side.1) fun moved => ?_
      have below : upper < activeBin := moved rfl
      omega
    | false => simp only [true_and,true_implies,Bool.false_eq_true,if_false,above]

end Footprint

structure SolKept (dlmm : Dlmm) (solIsTokenX : Bool) (activeBin lower upper : Int) (config : TestPairConfig) : Prop where
  footprint : SameFootprint dlmm solIsTokenX activeBin lower upper (config.lowerBinId,config.upperBinId)
  planned : ∀ totalLamports shape, Planned ⟨totalLamports,activeBin,lower,upper,shape,solIsTokenX⟩ →
    Planned (addLiquidityInput config totalLamports shape solIsTokenX)

theorem sol_kept (dlmm : Dlmm) (pool : LbPair) (lbPair : Pubkey) (solIsTokenX : Bool) (lowerBinId width : Int)
    (narrow : 1 ≤ width ∧ width ≤ 70) :
    SolKept dlmm solIsTokenX pool.activeId lowerBinId (lowerBinId + width - 1)
        (useExistingPool dlmm pool lbPair (some width) (some lowerBinId)) ↔
      Unmoved dlmm solIsTokenX pool.activeId lowerBinId (lowerBinId + width - 1) := by
  rw [← adjust_exact ⟨by omega,by omega⟩]
  constructor
  · intro kept
    refine ⟨kept.footprint,fun held => ?_⟩
    have asked := (planned_exact ⟨1,pool.activeId,lowerBinId,lowerBinId + width - 1,.spot,solIsTokenX⟩).mpr
      ⟨Int.one_pos,held⟩
    exact ((planned_exact _).mp (kept.planned 1 .spot asked)).2
  · rintro ⟨footprint,reach⟩
    refine ⟨footprint,fun totalLamports shape asked => ?_⟩
    obtain ⟨positive,held⟩ := (planned_exact _).mp asked
    exact (planned_exact _).mpr ⟨positive,reach held⟩

-- Bins 10 to 29 with SOL on X at bin 5: bins 30 to 70 hold SOL as well. Bins 0 to
-- 19 with SOL on Y at bin 0: the adjusted range is refused.
theorem sol_spread :
    ¬SolKept sampleDlmm true 5 10 29 (useExistingPool sampleDlmm (samplePair 5) ZERO_VALUE (some 20) (some 10)) ∧
    planSingleSidedSol ⟨100,0,0,19,.spot,false⟩ = .ok ⟨0,100,6,0,19⟩ ∧
    planSingleSidedSol (addLiquidityInput (useExistingPool sampleDlmm (samplePair 0) ZERO_VALUE (some 20) (some 0))
      100 .spot false) = .error (.aboveActive 1 70 0) := by
  refine ⟨fun kept => ?_,by decide,by decide⟩
  have bounds : (useExistingPool sampleDlmm (samplePair 5) ZERO_VALUE (some 20) (some 10)).lowerBinId = 10 ∧
      (useExistingPool sampleDlmm (samplePair 5) ZERO_VALUE (some 20) (some 10)).upperBinId = 70 := by decide
  have footprint := kept.footprint
  rw [bounds.1,bounds.2] at footprint
  have new : Holds true 5 10 70 70 := ⟨by decide,by decide,by decide⟩
  have outside : ¬Holds true 5 10 29 70 := fun held => absurd held.2.1 (by decide)
  exact gained new outside footprint

-- Bins 20 to 69 with SOL on Y at bin 30.
theorem sol_kept_sample :
    SolKept sampleDlmm false 30 20 69 (useExistingPool sampleDlmm (samplePair 30) ZERO_VALUE (some 50) (some 20)) :=
  (sol_kept sampleDlmm (samplePair 30) ZERO_VALUE false 20 50 (by decide)).mpr (by decide)

end Octora.Executor
