import Octora.Web.ExitEstimate

namespace Octora.Web.ExitAmounts
open BigIntText Stateful PrivateFlows

-- The lamports that make an account of this size rent-exempt.
def minimumBalance (space : Nat) : Nat := (128 + space) * 3480 * 2

-- state.rs
def CommitmentAccount.SPACE : Nat := 8 + 1

-- The base fee of a transaction with one signature; the deposit sets no price on top.
def SIGNATURE_FEE : Nat := 5000

-- What a mixer deposit takes from its depositor beside the denomination.
def depositCost : Nat := minimumBalance CommitmentAccount.SPACE + SIGNATURE_FEE

def intText : Int → Text
  | .ofNat value => decimal value
  | .negSucc value => '-' :: decimal (value + 1)

-- privateLifecycle.ts
structure SweepStealthResult where
  signature : Option Text
  recipient : Text
  sweptLamports : Text
  remainingLamports : Text
  stealthPubkey : Text
  deriving DecidableEq

section Sweep
variable {ε : Type}

def executeStealthSweep (answers : SweepAnswers) (signature stealthPubkey mainWalletAddress : Text) (error : ε) :
    Flow Funds ε SweepStealthResult := do
  assert (answers.balance = true) error
  let funds ← read
  if funds.lamports ≤ STEALTH_SWEEP_FEE_LAMPORTS then
    pure ⟨none,mainWalletAddress,decimal 0,decimal funds.lamports,stealthPubkey⟩
  else do
    let transferLamports := funds.lamports - STEALTH_SWEEP_FEE_LAMPORTS
    send answers.transfer (spend (transferLamports + SIGNATURE_FEE)) error
    pure ⟨some signature,mainWalletAddress,decimal transferLamports,decimal STEALTH_SWEEP_FEE_LAMPORTS,stealthPubkey⟩

end Sweep

-- privateExit.ts
structure PrivateExitResult where
  mode : ExitMode
  sweepSignature : Option Text
  fundedLamports : Text
  residueLamports : Text
  selectedDenominationLamports : Option Text
  deriving DecidableEq

-- The signatures and addresses that a run is about, and what the relayer says it paid out.
structure RunNames where
  sweepSignature : Text
  stealthPubkey : Text
  mainWalletAddress : Text
  amountLamports : Text

-- The run of `PrivateFlows.runPrivateExit`, with what it reports.
def runPrivateExit (answers : ExitAnswers) (names : RunNames) (allowDustSweep : Bool) :
    Flow Funds ExitStepKey PrivateExitResult := do
  let availableDenoms ← consolidate answers
  assert (answers.balance = true) .pickDenomination
  let funds ← read
  match ← lift (pickDenomination allowDustSweep availableDenoms funds.lamports) with
  | none => do
    let swept ← executeStealthSweep answers.sweep names.sweepSignature names.stealthPubkey names.mainWalletAddress .dustSweep
    pure ⟨.swept,swept.signature,swept.sweptLamports,swept.remainingLamports,none⟩
  | some chosenDenom => do
    let residueLamports := funds.lamports - chosenDenom
    send answers.mixerDeposit (spend (chosenDenom.toNat + depositCost)) .mixerDeposit
    assert (answers.buildTree = true) .buildTree
    assert (answers.prove = true) .prove
    assert (answers.relayerWithdraw = true) .relayerWithdraw
    pure ⟨.mixed chosenDenom,none,names.amountLamports,intText residueLamports,some (intText chosenDenom)⟩

-- privateClaim.ts
inductive ClaimStepKey where
  | derive
  | relayerInfo
  | positionState
  | claim
  | swap
  | thresholdCheck
  | pickDenomination
  | mixerDeposit
  | buildTree
  | prove
  | relayerWithdraw
  deriving DecidableEq

structure ClaimAnswers where
  stealth : Option Text
  relayerInfo : Option RelayerInfo
  poolAuthority : Option PoolAuthorityInfo
  positionState : Option PositionStateView
  usePool : Bool
  claim : Sent
  collectedSol : Nat
  collectedOther : Nat
  swap : SwapAnswers
  balance : Bool
  mixerDeposit : Sent
  buildTree : Bool
  prove : Bool
  relayerWithdraw : Bool

def claimFees (sol other : Nat) (funds : Funds) : Option Funds :=
  some { funds with wrapped := funds.wrapped + sol, other := funds.other + other }

def claimPosition (answers : ClaimAnswers) (stealth : Text) : Except ClaimStepKey PositionStateView :=
  match answers.poolAuthority,answers.positionState with
  | some authority,some position =>
    if authority.exitRecipient = stealth ∧ answers.usePool = true then .ok position else .error .positionState
  | _,_ => .error .positionState

def nonSolFee (position : PositionStateView) : Option Int :=
  bigInt (if xIsSol position then position.feeYLamports else position.feeXLamports)

def swapFees (answers : SwapAnswers) (position : PositionStateView) : Flow Funds ClaimStepKey Unit := do
  assert (xIsSol position ∨ yIsSol position) .swap
  let fee ← orFail (nonSolFee position) .swap
  if 0 < fee then do
    let minOut ← orFail ((answers.quote fee).bind bigInt) .swap
    send answers.swap (dlmmSwap fee.toNat minOut.toNat answers.delivered) .swap
  else pure ()

structure PrivateClaimResult where
  fundedLamports : Text
  residueLamports : Text
  selectedDenominationLamports : Text
  deriving DecidableEq

-- Steps 1 to 5: the result is the denominations to choose from.
def collect (answers : ClaimAnswers) : Flow Funds ClaimStepKey (List Int) := do
  let stealth ← orFail answers.stealth .derive
  let relayerInfo ← orFail answers.relayerInfo .relayerInfo
  let _ ← orFail (bigInt relayerInfo.feeLamports) .relayerInfo
  let availableDenoms ← orFail (availableDenoms relayerInfo) .relayerInfo
  assert (availableDenoms ≠ []) .relayerInfo
  let position ← lift (claimPosition answers stealth)
  send answers.claim (claimFees answers.collectedSol answers.collectedOther) .claim
  swapFees answers.swap position
  pure availableDenoms

def runPrivateClaim (answers : ClaimAnswers) (amountLamports : Text) : Flow Funds ClaimStepKey PrivateClaimResult := do
  let availableDenoms ← collect answers
  assert (answers.balance = true) .thresholdCheck
  let funds ← read
  let available := (funds.lamports : Int) - STEALTH_RESERVE_LAMPORTS
  let smallestDenom ← orFail availableDenoms.getLast? .relayerInfo
  assert (smallestDenom ≤ available) .thresholdCheck
  let chosenDenom ← orFail (availableDenoms.find? fun d => d ≤ available) .pickDenomination
  let residueLamports := funds.lamports - chosenDenom
  send answers.mixerDeposit (spend (chosenDenom.toNat + depositCost)) .mixerDeposit
  assert (answers.buildTree = true) .buildTree
  assert (answers.prove = true) .prove
  assert (answers.relayerWithdraw = true) .relayerWithdraw
  pure ⟨amountLamports,intText residueLamports,intText chosenDenom⟩

-- Nothing was sent and all of it remains, or the amounts add up and what is reported to
-- remain does.
def SweepRight (before after : Funds) (result : SweepStealthResult) : Prop :=
  (result.signature = none ∧ after = before ∧ bigInt result.remainingLamports = some (before.lamports : Int)) ∨
    ∃ swept remaining,bigInt result.sweptLamports = some swept ∧ bigInt result.remainingLamports = some remaining ∧
      swept + STEALTH_SWEEP_FEE_LAMPORTS + remaining = before.lamports ∧ remaining = after.lamports

-- The largest denomination that leaves the reserve.
def Largest (denoms : List Int) (balance : Nat) (chosen : Int) : Prop :=
  chosen ∈ denoms ∧ chosen ≤ balance - STEALTH_RESERVE_LAMPORTS ∧
    ∀ d ∈ denoms,d ≤ balance - STEALTH_RESERVE_LAMPORTS → d ≤ chosen

-- What a mixed run chose and left behind, once its deposit has landed.
structure Deposited (denoms : List Int) (balance : Nat) (chosen : Text) (after : Funds) : Prop where
  largest : ∃ denomination,bigInt chosen = some denomination ∧ Largest denoms balance denomination
  rentExempt : minimumBalance 0 ≤ after.lamports

structure MixedRight (denoms : List Int) (balance : Nat) (chosen residue : Text) (after : Funds) : Prop
    extends Deposited denoms balance chosen after where
  residue : bigInt residue = some (after.lamports : Int)

section Amounts
variable {before after funds : Funds} {denoms : List Int} {balance : Nat}

theorem bigInt_intText {value : Int} (natural : 0 ≤ value) : bigInt (intText value) = some value := by
  cases value with
  | ofNat value => exact bigInt_decimal value
  | negSucc value => exact absurd natural (Int.not_le.mpr (Int.negSucc_lt_zero value))

theorem sweep_right {ε : Type} {answers : SweepAnswers} {signature stealthPubkey mainWalletAddress : Text} {error : ε}
    {result : SweepStealthResult}
    (ran : executeStealthSweep answers signature stealthPubkey mainWalletAddress error before = (.ok result,after)) :
    SweepRight before after result ↔ before.lamports ≤ STEALTH_SWEEP_FEE_LAMPORTS := by
  unfold executeStealthSweep at ran
  simp only [flow_ok,assert_ok,read_ok] at ran
  obtain ⟨_,_,⟨_,rfl⟩,_,_,⟨rfl,rfl⟩,ran⟩ := ran
  by_cases little : before.lamports ≤ STEALTH_SWEEP_FEE_LAMPORTS
  · rw [if_pos little] at ran
    obtain ⟨rfl,rfl⟩ := pure_ok.mp ran
    exact iff_of_true (.inl ⟨rfl,rfl,bigInt_decimal _⟩) little
  · rw [if_neg little] at ran
    simp only [flow_ok,pure_ok] at ran
    obtain ⟨_,_,_,rfl,rfl⟩ := ran
    refine iff_of_false (fun right => ?_) little
    rcases right with ⟨unsent,_⟩ | ⟨swept,remaining,reads,reads',adds,_⟩
    · cases unsent
    · -- The fee is counted twice: once as paid, once as left.
      rw [bigInt_decimal] at reads reads'
      cases reads
      cases reads'
      unfold STEALTH_SWEEP_FEE_LAMPORTS at *
      omega

theorem deposit_amounts (sorted : denoms.Pairwise (· ≥ ·)) (positive : ∀ d ∈ denoms,0 < d)
    (found : denoms.find? (fun d => d ≤ (funds.lamports : Int) - STEALTH_RESERVE_LAMPORTS) = some chosen)
    (left : after = (spend (chosen.toNat + depositCost) funds).getD funds) :
    Deposited denoms funds.lamports (intText chosen) after ∧
      ¬MixedRight denoms funds.lamports (intText chosen) (intText (funds.lamports - chosen)) after := by
  have largest : Largest denoms funds.lamports chosen := first_greatest sorted found
  have natural := positive chosen largest.1
  have room := largest.2.1
  unfold STEALTH_RESERVE_LAMPORTS at room
  have cost : depositCost = 958520 := rfl
  have paid : after.lamports = funds.lamports - (chosen.toNat + depositCost) := by
    rw [left,spend,if_neg (by omega)]
    rfl
  have reads : bigInt (intText chosen) = some chosen := bigInt_intText (le_of_lt natural)
  refine ⟨⟨⟨chosen,reads,largest⟩,?_⟩,fun right => ?_⟩
  · have least : minimumBalance 0 = 890880 := rfl
    omega
  · have residue := right.residue
    rw [bigInt_intText (by omega)] at residue
    have same := Option.some.inj residue
    omega

theorem exit_amounts {answers : ExitAnswers} {names : RunNames} {allowDustSweep : Bool} {result : PrivateExitResult}
    (ran : runPrivateExit answers names allowDustSweep before = (.ok result,after)) {chosen : Text}
    (mixed : result.selectedDenominationLamports = some chosen) (landed : answers.mixerDeposit.landed = true) :
    ∃ denoms funds,consolidate answers before = (.ok denoms,funds) ∧ ((∀ d ∈ denoms,0 < d) →
      Deposited denoms funds.lamports chosen after ∧ ¬MixedRight denoms funds.lamports chosen result.residueLamports after) := by
  unfold runPrivateExit at ran
  simp only [flow_ok,assert_ok,read_ok,lift_ok] at ran
  obtain ⟨denoms,funds,reached,_,_,⟨_,rfl⟩,_,_,⟨rfl,rfl⟩,picked,_,⟨chooses,rfl⟩,ran⟩ := ran
  refine ⟨denoms,funds,reached,fun positive => ?_⟩
  obtain ⟨⟨relayerInfo,_,listed⟩,_⟩ := consolidate_ok reached
  cases picked with
  | none =>
    simp only [flow_ok,pure_ok] at ran
    obtain ⟨_,_,_,rfl,rfl⟩ := ran
    cases mixed
  | some denomination =>
    simp only [flow_ok,send_ok,assert_ok,pure_ok,landed,if_true] at ran
    obtain ⟨_,_,⟨_,rfl⟩,_,_,⟨_,rfl⟩,_,_,⟨_,rfl⟩,_,_,⟨_,rfl⟩,rfl,rfl⟩ := ran
    cases mixed
    obtain ⟨_,_,found⟩ := pick_some.mp chooses
    exact deposit_amounts (denoms_sorted listed) positive found rfl

theorem claim_amounts {answers : ClaimAnswers} {amountLamports : Text} {result : PrivateClaimResult}
    (ran : runPrivateClaim answers amountLamports before = (.ok result,after)) (landed : answers.mixerDeposit.landed = true) :
    ∃ denoms funds,collect answers before = (.ok denoms,funds) ∧ ((∀ d ∈ denoms,0 < d) →
      Deposited denoms funds.lamports result.selectedDenominationLamports after ∧
        ¬MixedRight denoms funds.lamports result.selectedDenominationLamports result.residueLamports after) := by
  unfold runPrivateClaim at ran
  simp only [flow_ok,assert_ok,read_ok,orFail_ok,send_ok,pure_ok,landed,if_true] at ran
  obtain ⟨denoms,funds,reached,_,_,⟨_,rfl⟩,_,_,⟨rfl,rfl⟩,_,_,⟨_,rfl⟩,_,_,⟨_,rfl⟩,denomination,_,⟨found,rfl⟩,_,_,⟨_,rfl⟩,
    _,_,⟨_,rfl⟩,_,_,⟨_,rfl⟩,_,_,⟨_,rfl⟩,rfl,rfl⟩ := ran
  refine ⟨denoms,funds,reached,fun positive => ?_⟩
  have listed : ∃ relayerInfo,availableDenoms relayerInfo = some denoms := by
    unfold collect at reached
    simp only [flow_ok,orFail_ok,assert_ok,lift_ok,pure_ok] at reached
    obtain ⟨_,_,_,relayerInfo,_,_,_,_,_,parsed,_,⟨sorted,rfl⟩,_,_,_,_,_,_,_,_,_,_,_,_,rfl,_⟩ := reached
    exact ⟨relayerInfo,sorted⟩
  obtain ⟨relayerInfo,sorted⟩ := listed
  exact deposit_amounts (denoms_sorted sorted) positive found rfl

end Amounts

-- The steps are those of `PrivateFlows`: only the report is new.
theorem sweep_funds {ε : Type} (answers : SweepAnswers) (signature stealthPubkey mainWalletAddress : Text) (error : ε)
    (funds : Funds) : (executeStealthSweep answers signature stealthPubkey mainWalletAddress error funds).2 =
      (PrivateFlows.executeStealthSweep answers error funds).2 := by
  unfold executeStealthSweep PrivateFlows.executeStealthSweep
  rw [assert_then,assert_then]
  split
  · rw [read_then,read_then]
    by_cases little : funds.lamports ≤ STEALTH_SWEEP_FEE_LAMPORTS
    · simp only [if_pos little]
      rfl
    · simp only [if_neg little]
      have whole : funds.lamports - STEALTH_SWEEP_FEE_LAMPORTS + SIGNATURE_FEE = funds.lamports := by
        unfold STEALTH_SWEEP_FEE_LAMPORTS SIGNATURE_FEE at *
        omega
      rw [whole]
      change (Flow.andThen _ _ _).2 = _
      unfold Flow.andThen send
      cases answers.transfer.confirmed <;> rfl
  · rfl

-- A sweep reports what it leaves only where it sends nothing. A deposit takes its rent and
-- its fee from what is reported as left, so no mixed exit or claim reports it.
theorem amounts_reported {ε : Type} (before after : Funds) (error : ε) :
    (∀ answers signature stealthPubkey mainWalletAddress result,
      executeStealthSweep answers signature stealthPubkey mainWalletAddress error before = (.ok result,after) →
        (SweepRight before after result ↔ before.lamports ≤ STEALTH_SWEEP_FEE_LAMPORTS)) ∧
    (∀ answers names allowDustSweep result chosen,runPrivateExit answers names allowDustSweep before = (.ok result,after) →
      result.selectedDenominationLamports = some chosen → answers.mixerDeposit.landed = true →
        ∃ denoms funds,consolidate answers before = (.ok denoms,funds) ∧ ((∀ d ∈ denoms,0 < d) →
          Deposited denoms funds.lamports chosen after ∧
            ¬MixedRight denoms funds.lamports chosen result.residueLamports after)) ∧
    ∀ answers amountLamports result,runPrivateClaim answers amountLamports before = (.ok result,after) →
      answers.mixerDeposit.landed = true →
        ∃ denoms funds,collect answers before = (.ok denoms,funds) ∧ ((∀ d ∈ denoms,0 < d) →
          Deposited denoms funds.lamports result.selectedDenominationLamports after ∧
            ¬MixedRight denoms funds.lamports result.selectedDenominationLamports result.residueLamports after) :=
  ⟨fun _ _ _ _ _ ran => sweep_right ran,fun _ _ _ _ _ ran mixed landed => exit_amounts ran mixed landed,
    fun _ _ _ ran landed => claim_amounts ran landed⟩

def sampleNames : RunNames := ⟨['G'],['S'],['M'],"999000000".toList⟩

def sampleClaim : ClaimAnswers where
  stealth := some ['S']
  relayerInfo := some sampleInfo
  poolAuthority := some sampleAuthority
  positionState := some sampleView
  usePool := true
  claim := ⟨true,true⟩
  collectedSol := 2000000
  collectedOther := 0
  swap := ⟨fun _ => none,⟨false,false⟩,0⟩
  balance := true
  mixerDeposit := ⟨true,true⟩
  buildTree := true
  prove := true
  relayerWithdraw := true

-- A mixed exit of 1.06 SOL and a mixed claim of 0.105 SOL.
theorem amounts_reported_sample :
    (Deposited [1000000000,100000000] 1060000000 "1000000000".toList ⟨59041480,10000000,0,none⟩ ∧
      ¬MixedRight [1000000000,100000000] 1060000000 "1000000000".toList "60000000".toList ⟨59041480,10000000,0,none⟩) ∧
    Deposited [1000000000,100000000] 105000000 "100000000".toList ⟨4041480,2000000,0,none⟩ ∧
      ¬MixedRight [1000000000,100000000] 105000000 "100000000".toList "5000000".toList ⟨4041480,2000000,0,none⟩ := by
  have positive : ∀ d ∈ ([1000000000,100000000] : List Int),0 < d := by decide
  constructor
  · have ran : runPrivateExit sampleLive sampleNames true (sampleFunds 1000000000) =
        (.ok ⟨.mixed 1000000000,none,"999000000".toList,"60000000".toList,some "1000000000".toList⟩,
          ⟨59041480,10000000,0,none⟩) := by decide +kernel
    have reached : consolidate sampleLive (sampleFunds 1000000000) =
        (.ok [1000000000,100000000],⟨1060000000,10000000,0,none⟩) := by decide
    obtain ⟨denoms,funds,same,rest⟩ := (amounts_reported (sampleFunds 1000000000) _ ()).2.1 _ _ _ _ _ ran rfl rfl
    rw [reached] at same
    cases same
    exact rest positive
  · have ran : runPrivateClaim sampleClaim "99000000".toList ⟨105000000,0,0,none⟩ =
        (.ok ⟨"99000000".toList,"5000000".toList,"100000000".toList⟩,⟨4041480,2000000,0,none⟩) := by decide +kernel
    have reached : collect sampleClaim ⟨105000000,0,0,none⟩ =
        (.ok [1000000000,100000000],⟨105000000,2000000,0,none⟩) := by decide
    obtain ⟨denoms,funds,same,rest⟩ := (amounts_reported ⟨105000000,0,0,none⟩ _ ()).2.2 _ _ _ ran rfl
    rw [reached] at same
    cases same
    exact rest positive

-- Of 1000000 lamports the sweep moves 995000 and pays 5000, and reports 5000 left.
theorem sweep_overstates : ∃ result,
    executeStealthSweep ⟨true,⟨true,true⟩⟩ ['G'] ['S'] ['M'] () ⟨1000000,0,0,none⟩ = (.ok result,⟨0,0,0,none⟩) ∧
      result.sweptLamports = "995000".toList ∧ result.remainingLamports = "5000".toList ∧
      ¬SweepRight ⟨1000000,0,0,none⟩ ⟨0,0,0,none⟩ result := by
  have ran : executeStealthSweep ⟨true,⟨true,true⟩⟩ ['G'] ['S'] ['M'] () ⟨1000000,0,0,none⟩ =
      (.ok ⟨some ['G'],['M'],decimal 995000,decimal 5000,['S']⟩,⟨0,0,0,none⟩) := rfl
  refine ⟨_,ran,by decide,by decide,fun right => ?_⟩
  exact absurd ((sweep_right ran).mp right) (by decide)

end Octora.Web.ExitAmounts
