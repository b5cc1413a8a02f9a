import Octora.Mixer.State

namespace Octora.Executor

-- What the DLMM SDK supplies: arrays of 70 consecutive bins, and their addresses.
structure Dlmm where
  binIdToBinArrayIndex : Int → Int
  deriveBinArray : Pubkey → Int → Pubkey
  seventy : ∀ bin, 70 * binIdToBinArrayIndex bin ≤ bin ∧ bin < 70 * binIdToBinArrayIndex bin + 70

structure LbPair where
  tokenXMint : Pubkey
  tokenYMint : Pubkey
  activeId : Int
  binStep : Nat

structure TestPairConfig where
  tokenX : Pubkey
  tokenY : Pubkey
  lbPair : Pubkey
  binArrayLower : Pubkey
  binArrayUpper : Pubkey
  lowerBinId : Int
  upperBinId : Int
  width : Int
  activeBin : Int
  binStep : Nat
  baseFactor : Nat

def MAX_WIDTH : Int := 70

-- executor.service.ts: a range inside one bin array is extended into a neighbour
-- and trimmed on the other side.
def extendDown (lowerArrayIdx upperBinId : Int) : Int × Int :=
  let lowerBinId := lowerArrayIdx * 70 - 1
  (lowerBinId,if MAX_WIDTH < upperBinId - lowerBinId + 1 then lowerBinId + MAX_WIDTH - 1 else upperBinId)

def extendUp (upperArrayIdx lowerBinId : Int) : Int × Int :=
  let upperBinId := (upperArrayIdx + 1) * 70
  (if MAX_WIDTH < upperBinId - lowerBinId + 1 then upperBinId - MAX_WIDTH + 1 else lowerBinId,upperBinId)

def adjustRange (dlmm : Dlmm) (activeBin lowerBinId upperBinId : Int) : Int × Int :=
  let lowerArrayIdx := dlmm.binIdToBinArrayIndex lowerBinId
  let upperArrayIdx := dlmm.binIdToBinArrayIndex upperBinId
  if lowerArrayIdx = upperArrayIdx then
    if upperBinId < activeBin then extendDown lowerArrayIdx upperBinId
    else if activeBin < lowerBinId then extendUp upperArrayIdx lowerBinId
    else extendUp upperArrayIdx lowerBinId
  else (lowerBinId,upperBinId)

def useExistingPool (dlmm : Dlmm) (pool : LbPair) (lbPair : Pubkey) (width? lowerBinId? : Option Int) : TestPairConfig :=
  let width := width?.getD 20
  let activeBin := pool.activeId
  let lower := lowerBinId?.getD (activeBin - width / 2)
  let range := adjustRange dlmm activeBin lower (lower + width - 1)
  {
    tokenX := pool.tokenXMint
    tokenY := pool.tokenYMint
    lbPair := lbPair
    binArrayLower := dlmm.deriveBinArray lbPair (dlmm.binIdToBinArrayIndex range.1)
    binArrayUpper := dlmm.deriveBinArray lbPair (dlmm.binIdToBinArrayIndex range.2)
    lowerBinId := range.1
    upperBinId := range.2
    width := range.2 - range.1 + 1
    activeBin := activeBin
    binStep := pool.binStep
    baseFactor := 0 }

-- privateLifecycle.ts: the stored bins if there are any, else the bins of the
-- position on chain.
def loadConfig (dlmm : Dlmm) (pool : LbPair) (lbPair : Pubkey) (stored : Option (Int × Int)) (position : Int × Int) :
    TestPairConfig :=
  let bins := stored.getD position
  useExistingPool dlmm pool lbPair (some (bins.2 - bins.1 + 1)) (some bins.1)

-- What claim and close put into the instruction.
structure SamePlace (one two : TestPairConfig) : Prop where
  lower : one.lowerBinId = two.lowerBinId
  upper : one.upperBinId = two.upperBinId
  arrayLower : one.binArrayLower = two.binArrayLower
  arrayUpper : one.binArrayUpper = two.binArrayUpper

section Ranges
variable {dlmm : Dlmm} {lower upper width : Int}

-- A range over two arrays is left alone.
theorem adjust_spanning (apart : dlmm.binIdToBinArrayIndex lower ≠ dlmm.binIdToBinArrayIndex upper) (activeBin : Int) :
    adjustRange dlmm activeBin lower upper = (lower,upper) := if_neg apart

theorem adjust_inside (same : dlmm.binIdToBinArrayIndex lower = dlmm.binIdToBinArrayIndex upper) (activeBin : Int) :
    adjustRange dlmm activeBin lower upper =
      if upper < activeBin then extendDown (dlmm.binIdToBinArrayIndex lower) upper
      else extendUp (dlmm.binIdToBinArrayIndex upper) lower := by
  rw [adjustRange,if_pos same]
  split
  · rfl
  · split <;> rfl

theorem extendDown_exact {k : Int} (low : 70 * k ≤ upper) (high : upper < 70 * k + 70) :
    (extendDown k upper).1 = 70 * k - 1 ∧ 70 * k ≤ (extendDown k upper).2 ∧ (extendDown k upper).2 < 70 * k + 70 := by
  have seventy : MAX_WIDTH = 70 := rfl
  dsimp only [extendDown]
  split <;> omega

theorem extendUp_exact {k : Int} (low : 70 * k ≤ lower) (high : lower < 70 * k + 70) :
    (extendUp k lower).2 = 70 * k + 70 ∧ 70 * k ≤ (extendUp k lower).1 ∧ (extendUp k lower).1 < 70 * k + 70 := by
  have seventy : MAX_WIDTH = 70 := rfl
  dsimp only [extendUp]
  split <;> omega

-- The two directions never give the same lower bin.
theorem directions_apart (same : dlmm.binIdToBinArrayIndex lower = dlmm.binIdToBinArrayIndex upper) :
    (extendDown (dlmm.binIdToBinArrayIndex lower) upper).1 ≠ (extendUp (dlmm.binIdToBinArrayIndex upper) lower).1 := by
  have low := dlmm.seventy lower
  have high := dlmm.seventy upper
  rw [← same] at high ⊢
  have down := extendDown_exact high.1 high.2
  have up := extendUp_exact low.1 low.2
  omega

theorem adjust_agree (one two : Int) : adjustRange dlmm one lower upper = adjustRange dlmm two lower upper ↔
    (dlmm.binIdToBinArrayIndex lower = dlmm.binIdToBinArrayIndex upper → (upper < one ↔ upper < two)) := by
  by_cases same : dlmm.binIdToBinArrayIndex lower = dlmm.binIdToBinArrayIndex upper
  · have apart := directions_apart same
    rw [adjust_inside same,adjust_inside same]
    by_cases first : upper < one <;> by_cases second : upper < two
    · simp [first,second]
    · rw [if_pos first,if_neg second]
      refine iff_of_false (fun equal => apart (congrArg Prod.fst equal)) fun agree => ?_
      exact second ((agree same).mp first)
    · rw [if_neg first,if_pos second]
      refine iff_of_false (fun equal => apart (congrArg Prod.fst equal).symm) fun agree => ?_
      exact first ((agree same).mpr second)
    · simp [first,second]
  · rw [adjust_spanning same,adjust_spanning same]
    exact iff_of_true rfl fun inside => absurd inside same

theorem place_exact (one two : LbPair) (lbPair : Pubkey) (lower width : Int) :
    SamePlace (useExistingPool dlmm one lbPair (some width) (some lower))
        (useExistingPool dlmm two lbPair (some width) (some lower)) ↔
      adjustRange dlmm one.activeId lower (lower + width - 1) = adjustRange dlmm two.activeId lower (lower + width - 1) := by
  constructor
  · intro place
    exact Prod.ext place.lower place.upper
  · intro equal
    refine ⟨?_,?_,?_,?_⟩ <;> simp only [useExistingPool,Option.getD_some,equal]

theorem index_unique (low : 70 * k ≤ bin) (high : bin < 70 * k + 70) : dlmm.binIdToBinArrayIndex bin = k := by
  have bound := dlmm.seventy bin
  omega

-- A position that was opened always lies over two arrays.
theorem adjusted_spanning (lower upper activeBin : Int) :
    dlmm.binIdToBinArrayIndex (adjustRange dlmm activeBin lower upper).1 ≠
      dlmm.binIdToBinArrayIndex (adjustRange dlmm activeBin lower upper).2 := by
  by_cases same : dlmm.binIdToBinArrayIndex lower = dlmm.binIdToBinArrayIndex upper
  · have low := dlmm.seventy lower
    have high := dlmm.seventy upper
    rw [← same] at high
    rw [adjust_inside same]
    split
    · obtain ⟨one,two,three⟩ := extendDown_exact high.1 high.2
      have first : dlmm.binIdToBinArrayIndex (extendDown (dlmm.binIdToBinArrayIndex lower) upper).1 =
          dlmm.binIdToBinArrayIndex lower - 1 := by
        apply index_unique <;> omega
      have second : dlmm.binIdToBinArrayIndex (extendDown (dlmm.binIdToBinArrayIndex lower) upper).2 =
          dlmm.binIdToBinArrayIndex lower := index_unique two three
      omega
    · rw [← same]
      obtain ⟨one,two,three⟩ := extendUp_exact low.1 low.2
      have first : dlmm.binIdToBinArrayIndex (extendUp (dlmm.binIdToBinArrayIndex lower) lower).1 =
          dlmm.binIdToBinArrayIndex lower := index_unique two three
      have second : dlmm.binIdToBinArrayIndex (extendUp (dlmm.binIdToBinArrayIndex lower) lower).2 =
          dlmm.binIdToBinArrayIndex lower + 1 := by
        apply index_unique <;> omega
      omega
  · rw [adjust_spanning same]
    exact same

-- What is asked of a configuration for the bins lower to upper at activeBin.
structure WellFormed (dlmm : Dlmm) (lbPair : Pubkey) (activeBin lower upper : Int) (config : TestPairConfig) : Prop where
  ordered : config.lowerBinId ≤ config.upperBinId
  adjacent : dlmm.binIdToBinArrayIndex config.upperBinId = dlmm.binIdToBinArrayIndex config.lowerBinId + 1
  arrayLower : config.binArrayLower = dlmm.deriveBinArray lbPair (dlmm.binIdToBinArrayIndex config.lowerBinId)
  arrayUpper : config.binArrayUpper = dlmm.deriveBinArray lbPair (dlmm.binIdToBinArrayIndex config.upperBinId)
  reported : config.width = config.upperBinId - config.lowerBinId + 1
  atLeast : 2 ≤ config.width
  atMost : config.width ≤ 70
  contains : ∃ edge, (edge = lower ∨ edge = upper) ∧ ∀ bin, lower ≤ bin → bin ≤ upper → bin ≠ edge →
    config.lowerBinId ≤ bin ∧ bin ≤ config.upperBinId
  above : activeBin < lower → activeBin < config.lowerBinId
  below : upper < activeBin → config.upperBinId < activeBin

-- The bins the adjustment gives, whichever branch it takes: the same ones, one
-- bin down or up to the next boundary, the far edge trimmed by at most one.
theorem adjust_cases (activeBin lower upper : Int) (narrow : lower ≤ upper ∧ upper ≤ lower + 69) :
    (dlmm.binIdToBinArrayIndex upper = dlmm.binIdToBinArrayIndex lower + 1 ∧
      adjustRange dlmm activeBin lower upper = (lower,upper)) ∨
    (dlmm.binIdToBinArrayIndex upper = dlmm.binIdToBinArrayIndex lower ∧ upper < activeBin ∧
      (adjustRange dlmm activeBin lower upper).1 = 70 * dlmm.binIdToBinArrayIndex lower - 1 ∧
      (adjustRange dlmm activeBin lower upper).2 = min upper (70 * dlmm.binIdToBinArrayIndex lower + 68)) ∨
    (dlmm.binIdToBinArrayIndex upper = dlmm.binIdToBinArrayIndex lower ∧ activeBin ≤ upper ∧
      (adjustRange dlmm activeBin lower upper).1 = max lower (70 * dlmm.binIdToBinArrayIndex lower + 1) ∧
      (adjustRange dlmm activeBin lower upper).2 = 70 * dlmm.binIdToBinArrayIndex lower + 70) := by
  have low := dlmm.seventy lower
  have high := dlmm.seventy upper
  have seventy : MAX_WIDTH = 70 := rfl
  by_cases same : dlmm.binIdToBinArrayIndex lower = dlmm.binIdToBinArrayIndex upper
  · right
    rw [adjust_inside same,← same]
    by_cases below : upper < activeBin
    · left
      rw [if_pos below]
      refine ⟨rfl,below,?_,?_⟩
      · dsimp only [extendDown]
        omega
      · dsimp only [extendDown]
        split <;> omega
    · right
      rw [if_neg below]
      refine ⟨rfl,by omega,?_,?_⟩
      · dsimp only [extendUp]
        split <;> omega
      · dsimp only [extendUp]
        omega
  · left
    exact ⟨by omega,adjust_spanning same activeBin⟩

theorem width_back (lower upper : Int) : lower + (upper - lower + 1) - 1 = upper := by omega

theorem adjusted_wellformed (pool : LbPair) (lbPair : Pubkey) (nonempty : 1 ≤ width) (narrow : width ≤ 70) :
    WellFormed dlmm lbPair pool.activeId lower (lower + width - 1)
      (useExistingPool dlmm pool lbPair (some width) (some lower)) := by
  have cases := @adjust_cases dlmm pool.activeId lower (lower + width - 1) ⟨by omega,by omega⟩
  have low := dlmm.seventy lower
  have high := dlmm.seventy (lower + width - 1)
  have first := dlmm.seventy (adjustRange dlmm pool.activeId lower (lower + width - 1)).1
  have last := dlmm.seventy (adjustRange dlmm pool.activeId lower (lower + width - 1)).2
  constructor <;> simp only [useExistingPool,Option.getD_some]
  case contains =>
    obtain ⟨-,plain⟩ | ⟨same,below,down,trimmed⟩ | ⟨same,above,trimmed,up⟩ := cases
    · exact ⟨lower,.inl rfl,fun bin one two _ => by rw [plain]; exact ⟨one,two⟩⟩
    · refine ⟨lower + width - 1,.inr rfl,fun bin one two other => ?_⟩
      omega
    · refine ⟨lower,.inl rfl,fun bin one two other => ?_⟩
      omega
  all_goals
    obtain ⟨next,plain⟩ | ⟨same,below,down,trimmed⟩ | ⟨same,above,trimmed,up⟩ := cases
    · simp only [plain] at first last ⊢
      omega
    · omega
    · omega

end Ranges

-- `stored` are the bins the client asked for; the second part is the flow that
-- reads them from the position on chain.
theorem range_reproduced (dlmm : Dlmm) (lbPair : Pubkey) (atDeposit later : LbPair) (lowerBinId width : Int) :
    (SamePlace (loadConfig dlmm later lbPair (some (lowerBinId,lowerBinId + width - 1))
          ((useExistingPool dlmm atDeposit lbPair (some width) (some lowerBinId)).lowerBinId,
            (useExistingPool dlmm atDeposit lbPair (some width) (some lowerBinId)).upperBinId))
        (useExistingPool dlmm atDeposit lbPair (some width) (some lowerBinId)) ↔
      (dlmm.binIdToBinArrayIndex lowerBinId = dlmm.binIdToBinArrayIndex (lowerBinId + width - 1) →
        (lowerBinId + width - 1 < later.activeId ↔ lowerBinId + width - 1 < atDeposit.activeId))) ∧
    SamePlace (loadConfig dlmm later lbPair none
        ((useExistingPool dlmm atDeposit lbPair (some width) (some lowerBinId)).lowerBinId,
          (useExistingPool dlmm atDeposit lbPair (some width) (some lowerBinId)).upperBinId))
      (useExistingPool dlmm atDeposit lbPair (some width) (some lowerBinId)) := by
  constructor
  · have back : lowerBinId + width - 1 - lowerBinId + 1 = width := by omega
    simp only [loadConfig,Option.getD_some,back]
    rw [place_exact,adjust_agree]
  · have kept := adjust_spanning
      (@adjusted_spanning dlmm lowerBinId (lowerBinId + width - 1) atDeposit.activeId) later.activeId
    refine ⟨?_,?_,?_,?_⟩ <;>
      simp only [loadConfig,useExistingPool,Option.getD_some,Option.getD_none,width_back,kept]

def sampleDlmm : Dlmm where
  binIdToBinArrayIndex bin := bin / 70
  deriveBinArray _ index := BigEndian.Bytes.ofNat 32 (index + 1).toNat
  seventy bin := by omega

def samplePair (activeId : Int) : LbPair := ⟨ZERO_VALUE,ZERO_VALUE,activeId,25⟩

-- Bins 10 to 29 of array 0: opened above the active bin 5, claimed at bin 40.
theorem range_flips :
    (useExistingPool sampleDlmm (samplePair 5) ZERO_VALUE (some 20) (some 10)).lowerBinId = 10 ∧
    (useExistingPool sampleDlmm (samplePair 5) ZERO_VALUE (some 20) (some 10)).upperBinId = 70 ∧
    (useExistingPool sampleDlmm (samplePair 40) ZERO_VALUE (some 20) (some 10)).lowerBinId = -1 ∧
    (useExistingPool sampleDlmm (samplePair 40) ZERO_VALUE (some 20) (some 10)).upperBinId = 29 ∧
    ¬SamePlace (loadConfig sampleDlmm (samplePair 40) ZERO_VALUE (some (10,29)) (10,70))
      (useExistingPool sampleDlmm (samplePair 5) ZERO_VALUE (some 20) (some 10)) := by
  refine ⟨by decide,by decide,by decide,by decide,fun same => ?_⟩
  have lower := same.lower
  revert lower
  decide

-- A later call on the result keeps it, wherever the price then is.
theorem range_wellformed (dlmm : Dlmm) (pool later : LbPair) (lbPair : Pubkey) (lowerBinId width : Int)
    (narrow : 1 ≤ width ∧ width ≤ 70) :
    WellFormed dlmm lbPair pool.activeId lowerBinId (lowerBinId + width - 1)
      (useExistingPool dlmm pool lbPair (some width) (some lowerBinId)) ∧
    SamePlace (useExistingPool dlmm later lbPair
        (some (useExistingPool dlmm pool lbPair (some width) (some lowerBinId)).width)
        (some (useExistingPool dlmm pool lbPair (some width) (some lowerBinId)).lowerBinId))
      (useExistingPool dlmm pool lbPair (some width) (some lowerBinId)) ∧
    (useExistingPool dlmm later lbPair
        (some (useExistingPool dlmm pool lbPair (some width) (some lowerBinId)).width)
        (some (useExistingPool dlmm pool lbPair (some width) (some lowerBinId)).lowerBinId)).width =
      (useExistingPool dlmm pool lbPair (some width) (some lowerBinId)).width := by
  have kept := adjust_spanning
    (@adjusted_spanning dlmm lowerBinId (lowerBinId + width - 1) pool.activeId) later.activeId
  refine ⟨adjusted_wellformed pool lbPair narrow.1 narrow.2,?_,?_⟩
  · refine ⟨?_,?_,?_,?_⟩ <;> simp only [useExistingPool,Option.getD_some,width_back,kept]
  · simp only [useExistingPool,Option.getD_some,width_back,kept]

-- All of array 0 at its first bin: bins 1 to 70 come back, and stay at bin 1000.
theorem range_wellformed_full :
    WellFormed sampleDlmm ZERO_VALUE 0 0 69 (useExistingPool sampleDlmm (samplePair 0) ZERO_VALUE (some 70) (some 0)) ∧
    (useExistingPool sampleDlmm (samplePair 0) ZERO_VALUE (some 70) (some 0)).lowerBinId = 1 ∧
    (useExistingPool sampleDlmm (samplePair 1000) ZERO_VALUE (some 70) (some 1)).lowerBinId = 1 :=
  have kept := range_wellformed sampleDlmm (samplePair 0) (samplePair 1000) ZERO_VALUE 0 70 (by decide)
  ⟨kept.1,by decide,kept.2.1.lower⟩

end Octora.Executor
