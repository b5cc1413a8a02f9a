import Octora.Library.BigIntText
import Octora.Library.Stateful
import Mathlib.Data.List.Sort
import Mathlib.Order.Basic

namespace Octora.Web.PrivateFlows
open BigIntText Stateful

abbrev Text := List Char

def NATIVE_MINT : Text := "So11111111111111111111111111111111111111112".toList
def STEALTH_RESERVE_LAMPORTS : Int := 5000000
def STEALTH_SWEEP_FEE_LAMPORTS : Nat := 5000
def STEALTH_INIT_FUNDING_LAMPORTS : Nat := 5000000

-- An open DLMM position: what a close pays out to the stealth's two token accounts, and
-- the rents that come back with it.
structure OpenPosition where
  sol : Nat
  other : Nat
  rent : Nat
  deriving DecidableEq

-- What sits at one stealth address: native lamports, the wrapped SOL and the pool's other
-- token in its token accounts, and its position.
structure Funds where
  lamports : Nat
  wrapped : Nat
  other : Nat
  position : Option OpenPosition
  deriving DecidableEq

def Funds.empty : Funds := ⟨0,0,0,none⟩

-- What became of a transaction: whether it took effect, and whether the browser got past
-- `confirmTransaction`, whose `value.err` nothing reads.
structure Sent where
  landed : Bool
  confirmed : Bool
  deriving DecidableEq

-- An effect that the accounts cannot pay for does not land.
def send (sent : Sent) (effect : Funds → Option Funds) (error : ε) : Flow Funds ε Unit := fun funds =>
  (if sent.confirmed then .ok () else .error error,if sent.landed then (effect funds).getD funds else funds)

-- The transactions, as the builders lay them out. Fees of all but the sweep and the mixer
-- deposit are the relayer's.
def fund (amount : Nat) (funds : Funds) : Option Funds := some { funds with lamports := funds.lamports + amount }

def initPosition (authorityRent positionRent : Nat) (funds : Funds) : Option Funds :=
  if funds.position.isSome ∨ funds.lamports + STEALTH_INIT_FUNDING_LAMPORTS < authorityRent then none
  else some { funds with
    lamports := funds.lamports + STEALTH_INIT_FUNDING_LAMPORTS - authorityRent
    position := some ⟨0,0,authorityRent + positionRent⟩ }

-- The stealth's wrapped SOL account carries the deposit and is closed at the end: all that
-- is left in it turns native.
def addLiquidity (total accountRent : Nat) (funds : Funds) : Option Funds :=
  match funds.position with
  | none => none
  | some position =>
    if funds.lamports < total then none
    else some { funds with
      lamports := funds.lamports - total + funds.wrapped + accountRent
      wrapped := 0
      position := some { position with sol := position.sol + total } }

def withdrawClose (funds : Funds) : Option Funds :=
  match funds.position with
  | none => none
  | some position => some
    ⟨funds.lamports + position.rent,funds.wrapped + position.sol,funds.other + position.other,none⟩

def dlmmSwap (amountIn minAmountOut delivered : Nat) (funds : Funds) : Option Funds :=
  if funds.other < amountIn ∨ delivered < minAmountOut then none
  else some { funds with wrapped := funds.wrapped + delivered, other := funds.other - amountIn }

def spend (amount : Nat) (funds : Funds) : Option Funds :=
  if funds.lamports < amount then none else some { funds with lamports := funds.lamports - amount }

-- privateLifecycle.ts
structure SweepAnswers where
  balance : Bool
  transfer : Sent

def executeStealthSweep (answers : SweepAnswers) (error : ε) : Flow Funds ε Unit := do
  assert (answers.balance = true) error
  let funds ← read
  if funds.lamports ≤ STEALTH_SWEEP_FEE_LAMPORTS then pure ()
  else send answers.transfer (spend funds.lamports) error

-- What the relayer and executor endpoints answer.
structure RelayerInfo where
  feeLamports : Text
  denominationLamports : Text
  pools : Option (List Text)
  deriving DecidableEq

inductive Lookup (α : Type) where
  | found (answer : α)
  | missing
  | failed
  deriving DecidableEq

structure PoolAuthorityInfo where
  exitRecipient : Text
  positionPubkey : Text
  deriving DecidableEq

structure PositionStateView where
  tokenXMint : Text
  tokenYMint : Text
  totalXLamports : Text
  totalYLamports : Text
  feeXLamports : Text
  feeYLamports : Text
  deriving DecidableEq

-- Descending; none when an amount is no integer.
def availableDenoms (relayerInfo : RelayerInfo) : Option (List Int) :=
  ((relayerInfo.pools.getD [relayerInfo.denominationLamports]).mapM bigInt).map
    (List.insertionSort fun a b : Int => b ≤ a)

def xIsSol (position : PositionStateView) : Prop := position.tokenXMint = NATIVE_MINT
def yIsSol (position : PositionStateView) : Prop := position.tokenYMint = NATIVE_MINT

instance (position : PositionStateView) : Decidable (xIsSol position) := inferInstanceAs (Decidable (_ = _))
instance (position : PositionStateView) : Decidable (yIsSol position) := inferInstanceAs (Decidable (_ = _))

def nonSolAmount (position : PositionStateView) : Option Int := do
  let balance ← bigInt (if xIsSol position then position.totalYLamports else position.totalXLamports)
  let fees ← bigInt (if xIsSol position then position.feeYLamports else position.feeXLamports)
  some (balance + fees)

def solAmount (position : PositionStateView) : Option Int := do
  let balance ← bigInt (if xIsSol position then position.totalXLamports else position.totalYLamports)
  let fees ← bigInt (if xIsSol position then position.feeXLamports else position.feeYLamports)
  some (balance + fees)

-- The leg that exit and rebalance share: everything not SOL is sold on the same pair.
structure SwapAnswers where
  quote : Int → Option Text
  swap : Sent
  delivered : Nat

def swapToSol (answers : SwapAnswers) (position : PositionStateView) (error : ε) : Flow Funds ε Unit := do
  assert (xIsSol position ∨ yIsSol position) error
  let totalNonSol ← orFail (nonSolAmount position) error
  if 0 < totalNonSol then do
    let minOut ← orFail ((answers.quote totalNonSol).bind bigInt) error
    send answers.swap (dlmmSwap totalNonSol.toNat minOut.toNat answers.delivered) error
  else pure ()

inductive ExitStepKey where
  | derive
  | relayerInfo
  | positionState
  | close
  | swap
  | pickDenomination
  | dustSweep
  | mixerDeposit
  | buildTree
  | prove
  | relayerWithdraw
  deriving DecidableEq

structure ExitAnswers where
  stealth : Option Text
  relayerInfo : Option RelayerInfo
  poolAuthority : Lookup PoolAuthorityInfo
  positionState : Option PositionStateView
  usePool : Bool
  close : Sent
  swap : SwapAnswers
  balance : Bool
  sweep : SweepAnswers
  mixerDeposit : Sent
  mixerFee : Nat
  buildTree : Bool
  prove : Bool
  relayerWithdraw : Bool

-- privateExit.ts, step 3. A missing pool authority counts as a position closed before.
def readPosition (answers : ExitAnswers) (stealth : Text) : Except ExitStepKey (Option PositionStateView) :=
  match answers.poolAuthority with
  | .failed => .error .positionState
  | .missing => .ok none
  | .found authority =>
    match answers.positionState with
    | none => .error .positionState
    | some position =>
      if authority.exitRecipient = stealth ∧ answers.usePool = true then .ok (some position)
      else .error .positionState

-- Steps 1 to 5: the result is the denominations to choose from.
def consolidate (answers : ExitAnswers) : Flow Funds ExitStepKey (List Int) := do
  let stealth ← orFail answers.stealth .derive
  let relayerInfo ← orFail answers.relayerInfo .relayerInfo
  let _ ← orFail (bigInt relayerInfo.feeLamports) .relayerInfo
  let availableDenoms ← orFail (availableDenoms relayerInfo) .relayerInfo
  assert (availableDenoms ≠ []) .relayerInfo
  match ← lift (readPosition answers stealth) with
  | none => pure availableDenoms
  | some position => do
    send answers.close withdrawClose .close
    swapToSol answers.swap position .swap
    pure availableDenoms

-- Step 6: none is the non-private sweep. `!fits` holds of a found 0n too.
def pickDenomination (allowDustSweep : Bool) (availableDenoms : List Int) (balance : Int) :
    Except ExitStepKey (Option Int) :=
  let available := balance - STEALTH_RESERVE_LAMPORTS
  if available ≤ 0 then .error .pickDenomination
  else match (availableDenoms.find? fun d => d ≤ available).filter (· ≠ 0) with
    | some fits => .ok (some fits)
    | none => if allowDustSweep then .ok none else .error .pickDenomination

def runToPick (answers : ExitAnswers) (allowDustSweep : Bool) : Flow Funds ExitStepKey (Option Int) := do
  let availableDenoms ← consolidate answers
  assert (answers.balance = true) .pickDenomination
  let funds ← read
  lift (pickDenomination allowDustSweep availableDenoms funds.lamports)

inductive ExitMode where
  | mixed (selectedDenominationLamports : Int)
  | swept
  deriving DecidableEq

def runPrivateExit (answers : ExitAnswers) (allowDustSweep : Bool) : Flow Funds ExitStepKey ExitMode := do
  match ← runToPick answers allowDustSweep with
  | none => do
    executeStealthSweep answers.sweep .dustSweep
    pure .swept
  | some chosenDenom => do
    send answers.mixerDeposit (spend (chosenDenom.toNat + answers.mixerFee)) .mixerDeposit
    assert (answers.buildTree = true) .buildTree
    assert (answers.prove = true) .prove
    assert (answers.relayerWithdraw = true) .relayerWithdraw
    pure (.mixed chosenDenom)

-- privateDeposit.ts
inductive DepositStepKey where
  | range
  | derive
  | relayerInfo
  | prepare
  | mixerDeposit
  | buildTree
  | prove
  | relayerWithdraw
  | usePool
  | initPosition
  | addLiquidity
  deriving DecidableEq

structure InitAnswers where
  alreadyInitialized : Option Bool
  init : Sent
  authorityRent : Nat
  positionRent : Nat

-- An existing position is reused, whatever prior run it is from.
def openPosition (answers : InitAnswers) (error : ε) : Flow Funds ε Unit := do
  let alreadyInitialized ← orFail answers.alreadyInitialized error
  if alreadyInitialized = true then pure ()
  else send answers.init (initPosition answers.authorityRent answers.positionRent) error

structure AddAnswers where
  add : Sent
  accountRent : Nat

def addSol (answers : AddAnswers) (totalSolLamports : Int) (error : ε) : Flow Funds ε Unit := do
  assert (0 < totalSolLamports) error
  send answers.add (addLiquidity totalSolLamports.toNat answers.accountRent) error

structure DepositAnswers where
  derive : Bool
  relayerInfo : Option RelayerInfo
  prepare : Bool
  mixerDeposit : Sent
  buildTree : Bool
  prove : Bool
  relayerWithdraw : Sent
  fundedLamports : Text
  usePool : Bool
  init : InitAnswers
  add : AddAnswers

-- `pools.find`, which reads no further than the match.
def advertised (requested : Int) : List Text → Option Bool
  | [] => some false
  | text :: rest => do
    let denomination ← bigInt text
    if denomination = requested then some true else advertised requested rest

def targetDenomination (relayerInfo : RelayerInfo) (denominationLamports : Option Text) : Option Int :=
  match denominationLamports with
  | none => bigInt relayerInfo.denominationLamports
  | some text => do
    let requested ← bigInt text
    let matched ← advertised requested (relayerInfo.pools.getD [])
    if matched then some requested else none

def runPrivateDeposit (answers : DepositAnswers) (denominationLamports : Option Text) (lowerBinId upperBinId : Int) :
    Flow Funds DepositStepKey Unit := do
  assert (0 < upperBinId - lowerBinId + 1) .range
  assert (answers.derive = true) .derive
  let relayerInfo ← orFail answers.relayerInfo .relayerInfo
  let denomination ← orFail (targetDenomination relayerInfo denominationLamports) .relayerInfo
  let fee ← orFail (bigInt relayerInfo.feeLamports) .relayerInfo
  assert (answers.prepare = true) .prepare
  assert (answers.mixerDeposit.confirmed = true) .mixerDeposit
  assert (answers.buildTree = true) .buildTree
  assert (answers.prove = true) .prove
  send answers.relayerWithdraw (fund (denomination - fee).toNat) .relayerWithdraw
  assert (answers.usePool = true) .usePool
  openPosition answers.init .initPosition
  let fundedLamports ← orFail (bigInt answers.fundedLamports) .addLiquidity
  addSol answers.add (fundedLamports - STEALTH_RESERVE_LAMPORTS) .addLiquidity

-- privateRebalance.ts
inductive RebalanceStepKey where
  | range
  | derive
  | positionState
  | close
  | swap
  | usePool
  | initPosition
  | addLiquidity
  deriving DecidableEq

structure RebalanceAnswers where
  stealth : Option Text
  poolAuthority : Lookup PoolAuthorityInfo
  positionState : Option PositionStateView
  oldPool : Bool
  close : Sent
  swap : SwapAnswers
  newPool : Bool
  init : InitAnswers
  balance : Bool
  add : AddAnswers

def openAuthority (answers : RebalanceAnswers) (stealth : Text) : Except RebalanceStepKey PositionStateView :=
  match answers.poolAuthority with
  | .failed | .missing => .error .positionState
  | .found authority =>
    match answers.positionState with
    | none => .error .positionState
    | some position =>
      if authority.exitRecipient = stealth ∧ answers.oldPool = true then .ok position else .error .positionState

def runPrivateRebalance (answers : RebalanceAnswers) (newLowerBinId newUpperBinId : Int) :
    Flow Funds RebalanceStepKey Unit := do
  assert (0 < newUpperBinId - newLowerBinId + 1) .range
  let stealth ← orFail answers.stealth .derive
  let position ← lift (openAuthority answers stealth)
  send answers.close withdrawClose .close
  swapToSol answers.swap position .swap
  assert (answers.newPool = true) .usePool
  openPosition answers.init .initPosition
  assert (answers.balance = true) .addLiquidity
  let funds ← read
  addSol answers.add (funds.lamports - STEALTH_RESERVE_LAMPORTS) .addLiquidity

@[simp] theorem send_ok {effect : Funds → Option Funds} {result : Unit} : send sent effect error funds = (.ok result,after) ↔
    sent.confirmed = true ∧ after = if sent.landed then (effect funds).getD funds else funds := by
  unfold send
  cases sent.confirmed with
  | false => simp
  | true =>
    constructor
    · intro same
      exact ⟨rfl,(congrArg Prod.snd same).symm⟩
    · rintro ⟨_,rfl⟩
      rfl

theorem swap_native (ran : swapToSol answers position error funds = (.ok (),after)) :
    after.lamports = funds.lamports ∧ after.position = funds.position := by
  unfold swapToSol at ran
  simp only [flow_ok,assert_ok,orFail_ok] at ran
  obtain ⟨_,_,⟨_,rfl⟩,amount,_,⟨_,rfl⟩,ran⟩ := ran
  split at ran
  · simp only [flow_ok,orFail_ok,send_ok] at ran
    obtain ⟨_,_,⟨_,rfl⟩,_,rfl⟩ := ran
    split
    · unfold dlmmSwap
      split
      · exact ⟨rfl,rfl⟩
      · exact ⟨rfl,rfl⟩
    · exact ⟨rfl,rfl⟩
  · obtain ⟨_,rfl⟩ := pure_ok.mp ran
    exact ⟨rfl,rfl⟩

-- The accounts after the close step of an exit.
def afterClose (close : Sent) (funds : Funds) : Funds := if close.landed then (withdrawClose funds).getD funds else funds

-- Steps 4 and 5 only when the position was read as open; what the swap pays stays wrapped.
theorem consolidate_ok (ran : consolidate answers before = (.ok denoms,after)) :
    (∃ relayerInfo, answers.relayerInfo = some relayerInfo ∧ availableDenoms relayerInfo = some denoms) ∧ denoms ≠ [] ∧
    (answers.poolAuthority = .missing ∧ after = before ∨
      ∃ authority position, answers.poolAuthority = .found authority ∧ answers.positionState = some position ∧
        (xIsSol position ∨ yIsSol position) ∧ answers.close.confirmed = true ∧
        after.lamports = (afterClose answers.close before).lamports ∧
        after.position = (afterClose answers.close before).position) := by
  unfold consolidate at ran
  simp only [flow_ok,orFail_ok,assert_ok,lift_ok] at ran
  obtain ⟨stealth,_,⟨_,rfl⟩,relayerInfo,_,⟨answered,rfl⟩,_,_,⟨_,rfl⟩,listed,_,⟨parsed,rfl⟩,_,_,⟨nonempty,rfl⟩,
    seen,_,⟨read,rfl⟩,ran⟩ := ran
  unfold readPosition at read
  split at read
  · cases read
  · rename_i missing
    cases read
    obtain ⟨rfl,rfl⟩ := pure_ok.mp ran
    exact ⟨⟨relayerInfo,answered,parsed⟩,nonempty,.inl ⟨missing,rfl⟩⟩
  · rename_i authority found
    split at read
    · cases read
    · rename_i position state
      split at read
      · cases read
        simp only [flow_ok,send_ok,pure_ok] at ran
        obtain ⟨_,closed,⟨confirmed,rfl⟩,_,_,swapped,rfl,rfl⟩ := ran
        have paired : xIsSol position ∨ yIsSol position := by
          unfold swapToSol at swapped
          simp only [flow_ok,assert_ok] at swapped
          obtain ⟨_,_,⟨paired,_⟩,_⟩ := swapped
          exact paired
        obtain ⟨native,kept⟩ := swap_native swapped
        exact ⟨⟨relayerInfo,answered,parsed⟩,nonempty,.inr ⟨authority,position,found,state,paired,confirmed,native,kept⟩⟩
      · cases read

end Octora.Web.PrivateFlows
