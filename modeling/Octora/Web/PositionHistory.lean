import Octora.Web.Lifecycle
import Octora.Web.PrivateFlows

namespace Octora.Web.PositionHistory
open PrivateFlows Stateful BigIntText
open StealthVault (Address Operation)
open Executor (DistributionShape)

-- A wallet's list in the browser, what sits at each address it can derive, and the ids
-- it has drawn.
structure Wallet where
  storage : LocalStorage
  funds : Operation → Funds
  drawn : List Text

def Wallet.initial : Wallet := ⟨fun _ => [],fun _ => .empty,[]⟩

def Wallet.put (wallet : Wallet) (derivation : Operation) (after : Funds) : Wallet :=
  { wallet with funds := fun other => if other = derivation then after else wallet.funds other }

structure DepositRun where
  uuid : Text
  poolAddress : Address
  lowerBinId : Int
  upperBinId : Int
  shape : DistributionShape
  denominationLamports : Option Text
  answers : DepositAnswers
  positionPubkey : Text
  stealthPubkey : Text
  signatures : Signatures
  stored : Bool

-- privateDeposit.ts
def DepositRun.positionId (run : DepositRun) : Text := "pos_".toList ++ run.uuid

def DepositRun.record (run : DepositRun) : StoredPosition where
  positionId := run.positionId
  poolAddress := run.poolAddress
  positionPubkey := run.positionPubkey
  stealthPubkey := run.stealthPubkey
  lowerBinId := run.lowerBinId
  upperBinId := run.upperBinId
  shape := run.shape
  closed := false
  closedAt := none
  withdrawSignature := none
  withdrawRecipient := none
  signatures := some run.signatures
  derivationVersion := some .v2

structure ExitRun where
  position : PortfolioPosition
  dustAck : Bool
  answers : ExitAnswers
  signature : Option Text
  now : Int
  stored : Bool

structure RebalanceRun where
  position : PortfolioPosition
  newLowerBinId : Int
  newUpperBinId : Int
  newShape : DistributionShape
  answers : RebalanceAnswers
  newPositionPubkey : Text
  addLiquiditySignature : Text
  stored : Bool

structure SweepRun where
  position : PortfolioPosition
  answers : SweepAnswers
  stored : Bool

section Handlers
variable (mainWalletAddress : Address) (wallet : Wallet)

-- The handlers, each run to its end. `stored` is whether the browser could write its
-- list; where it could not, they go on without.
def PrivateDepositModal.start (run : DepositRun) : Wallet :=
  if mainWalletAddress.text = [] then wallet
  else
    let derivation := Operation.deriveStealthForPosition mainWalletAddress run.poolAddress run.positionId
    let res := runPrivateDeposit run.answers run.denominationLamports run.lowerBinId run.upperBinId (wallet.funds derivation)
    let after := { wallet.put derivation res.2 with drawn := run.positionId :: wallet.drawn }
    if res.1.isOk ∧ run.stored then
      { after with storage := addLocalPosition wallet.storage mainWalletAddress.text run.record }
    else after

def PrivateExitModal.start (run : ExitRun) : Wallet :=
  let derivation := EntryPoint.exit.derives mainWalletAddress run.position
  let res := runPrivateExit run.answers run.dustAck (wallet.funds derivation)
  let after := wallet.put derivation res.2
  let metadata : CloseMetadata := ⟨run.signature,some mainWalletAddress.text,none⟩
  if res.1.isOk ∧ run.stored then
    { after with
      storage := markLocalPositionClosed wallet.storage mainWalletAddress.text run.position.id metadata run.now }
  else after

def PrivateRebalanceModal.start (run : RebalanceRun) : Wallet :=
  let derivation := EntryPoint.rebalance.derives mainWalletAddress run.position
  let res := runPrivateRebalance run.answers run.newLowerBinId run.newUpperBinId (wallet.funds derivation)
  let after := wallet.put derivation res.2
  let patch : RebalanceMetadata :=
    ⟨run.newLowerBinId,run.newUpperBinId,run.newShape,run.newPositionPubkey,some run.addLiquiditySignature⟩
  if res.1.isOk ∧ run.stored then
    { after with
      storage := markLocalPositionRebalanced wallet.storage mainWalletAddress.text run.position.id patch }
  else after

-- A sweep that found nothing removes the entry as well.
def SweepPanel.handleDirect (run : SweepRun) : Wallet :=
  let derivation := EntryPoint.sweep.derives mainWalletAddress run.position
  let res : Except Unit Unit × Funds := executeStealthSweep run.answers () (wallet.funds derivation)
  let after := wallet.put derivation res.2
  if res.1.isOk ∧ run.stored then
    { after with storage := removeLocalPosition wallet.storage mainWalletAddress.text run.position.id }
  else after

-- Trades and fees change what a position holds.
def trade (derivation : Operation) (sol other : Nat) : Wallet :=
  let funds := wallet.funds derivation
  wallet.put derivation { funds with position := funds.position.map fun position => { position with sol := sol, other := other } }

end Handlers

inductive Action where
  | deposit (run : DepositRun)
  | exit (run : ExitRun)
  | rebalance (run : RebalanceRun)
  | sweep (run : SweepRun)
  | trade (derivation : Operation) (sol other : Nat)

def apply (mainWalletAddress : Address) (wallet : Wallet) : Action → Wallet
  | .deposit run => PrivateDepositModal.start mainWalletAddress wallet run
  | .exit run => PrivateExitModal.start mainWalletAddress wallet run
  | .rebalance run => PrivateRebalanceModal.start mainWalletAddress wallet run
  | .sweep run => SweepPanel.handleDirect mainWalletAddress wallet run
  | .trade derivation sol other => trade wallet derivation sol other

def Listed (mainWalletAddress : Address) (wallet : Wallet) (s : StoredPosition) : Prop :=
  s ∈ listLocalPositions wallet.storage mainWalletAddress.text

-- A position page shows an entry of the list.
def Shown (mainWalletAddress : Address) (wallet : Wallet) (position : PortfolioPosition) : Prop :=
  ∃ s,Listed mainWalletAddress wallet s ∧ ∃ binsActiveBinId state,position = mapStoredToPortfolio s binsActiveBinId state

-- PositionDetailPage.tsx: an entry marked closed gets the sweep, any other the exit and
-- the rebalance.
def Allowed (mainWalletAddress : Address) (wallet : Wallet) : Action → Prop
  | .deposit run => run.positionId ∉ wallet.drawn
  | .exit run => Shown mainWalletAddress wallet run.position ∧ run.position.closed = false
  | .rebalance run => Shown mainWalletAddress wallet run.position ∧ run.position.closed = false
  | .sweep run => Shown mainWalletAddress wallet run.position ∧ run.position.closed = true
  | .trade _ _ _ => True

def HoldsValue (funds : Funds) : Prop :=
  STEALTH_SWEEP_FEE_LAMPORTS < funds.lamports ∨ 0 < funds.wrapped ∨ 0 < funds.other ∨ funds.position.isSome

structure Kept (mainWalletAddress : Address) (wallet : Wallet) : Prop where
  listed : ∀ derivation,HoldsValue (wallet.funds derivation) →
    ∃ s,Listed mainWalletAddress wallet s ∧ scheme mainWalletAddress s = derivation
  closed : ∀ s,Listed mainWalletAddress wallet s → s.closed = true →
    (wallet.funds (scheme mainWalletAddress s)).position = none

-- The steps of a deposit before its funds leave the mixer; the result is what leaves.
def mixerAmount (answers : DepositAnswers) (denominationLamports : Option Text) (lowerBinId upperBinId : Int) :
    Option Int := do
  let relayerInfo ← answers.relayerInfo
  let denomination ← targetDenomination relayerInfo denominationLamports
  let fee ← bigInt relayerInfo.feeLamports
  if 0 < upperBinId - lowerBinId + 1 ∧ answers.derive ∧ answers.prepare ∧ answers.mixerDeposit.confirmed ∧
      answers.buildTree ∧ answers.prove then
    some (denomination - fee)
  else none

-- The steps from there on.
structure Finishes (answers : DepositAnswers) : Prop where
  withdrawn : answers.relayerWithdraw.confirmed = true
  usePool : answers.usePool = true
  initialized : answers.init.alreadyInitialized = some true ∨
    answers.init.alreadyInitialized = some false ∧ answers.init.init.confirmed = true
  funded : ∃ lamports,bigInt answers.fundedLamports = some lamports ∧ STEALTH_RESERVE_LAMPORTS < lamports
  added : answers.add.add.confirmed = true

-- What the handlers take for granted.
def Careful (mainWalletAddress : Address) (wallet : Wallet) : Action → Prop
  | .deposit run =>
    mainWalletAddress.text = [] ∨ mixerAmount run.answers run.denominationLamports run.lowerBinId run.upperBinId = none ∨
      run.answers.relayerWithdraw.landed = false ∧ run.answers.relayerWithdraw.confirmed = false ∨
      Finishes run.answers ∧ run.stored = true
  | .exit run =>
    run.stored = false ∨ (wallet.funds (EntryPoint.exit.derives mainWalletAddress run.position)).position = none ∨
      run.answers.poolAuthority ≠ .missing ∧ (run.answers.close.confirmed = true → run.answers.close.landed = true)
  | .rebalance _ => True
  | .sweep run =>
    let funds := wallet.funds (EntryPoint.sweep.derives mainWalletAddress run.position)
    run.answers.balance = false ∨ run.stored = false ∨
      STEALTH_SWEEP_FEE_LAMPORTS < funds.lamports ∧ run.answers.transfer.confirmed = false ∨
      funds.wrapped = 0 ∧ funds.other = 0 ∧
        (funds.lamports ≤ STEALTH_SWEEP_FEE_LAMPORTS ∨ run.answers.transfer.landed = true)
  | .trade _ _ _ => True

-- Histories whose steps all meet a condition.
inductive Reached (mainWalletAddress : Address) (condition : Wallet → Action → Prop) : Wallet → Prop where
  | initial : Reached mainWalletAddress condition .initial
  | step : Reached mainWalletAddress condition wallet → Allowed mainWalletAddress wallet action → condition wallet action →
      Reached mainWalletAddress condition (apply mainWalletAddress wallet action)

@[simp] theorem put_same (wallet : Wallet) (derivation : Operation) (after : Funds) :
    (wallet.put derivation after).funds derivation = after := if_pos rfl

theorem put_other (wallet : Wallet) (after : Funds) (other : one ≠ derivation) :
    (wallet.put derivation after).funds one = wallet.funds one := if_neg other

-- What the runs do to the accounts.
def afterMixer (answers : DepositAnswers) (amount : Int) : Flow Funds DepositStepKey Unit := do
  send answers.relayerWithdraw (fund amount.toNat) .relayerWithdraw
  assert (answers.usePool = true) .usePool
  openPosition answers.init .initPosition
  let fundedLamports ← orFail (bigInt answers.fundedLamports) .addLiquidity
  addSol answers.add (fundedLamports - STEALTH_RESERVE_LAMPORTS) .addLiquidity

theorem deposit_reaches (reaches : mixerAmount answers denominationLamports lowerBinId upperBinId = some amount)
    (funds : Funds) :
    runPrivateDeposit answers denominationLamports lowerBinId upperBinId funds = afterMixer answers amount funds := by
  simp only [mixerAmount,Option.bind_eq_bind,Option.bind_eq_some_iff] at reaches
  obtain ⟨relayerInfo,informed,denomination,matched,fee,parsed,reaches⟩ := reaches
  split at reaches
  · rename_i steps
    obtain ⟨range,derive,prepare,deposited,tree,prove⟩ := steps
    cases reaches
    simp only [runPrivateDeposit,assert_then,orFail_then,if_pos,range,informed,matched,parsed,derive,prepare,deposited,
      tree,prove]
    rfl
  · cases reaches

theorem deposit_stops (none : mixerAmount answers denominationLamports lowerBinId upperBinId = none) (funds : Funds) :
    ∃ error,runPrivateDeposit answers denominationLamports lowerBinId upperBinId funds = (.error error,funds) := by
  simp only [runPrivateDeposit,assert_then,orFail_then]
  repeat' split
  all_goals first | exact ⟨_,rfl⟩ | skip
  simp_all [mixerAmount]

theorem open_finishes (initialized : answers.alreadyInitialized = some true ∨
    answers.alreadyInitialized = some false ∧ answers.init.confirmed = true) (error : ε) (funds : Funds) :
    ∃ after,openPosition answers error funds = (.ok (),after) := by
  unfold openPosition
  simp only [orFail_then]
  rcases initialized with already | ⟨fresh,confirmed⟩
  · rw [already]
    exact ⟨funds,rfl⟩
  · rw [fresh]
    exact ⟨_,send_ok.mpr ⟨confirmed,rfl⟩⟩

theorem deposit_finishes (finishes : Finishes answers) (amount : Int) (funds : Funds) :
    ∃ after,afterMixer answers amount funds = (.ok (),after) := by
  obtain ⟨lamports,parsed,enough⟩ := finishes.funded
  have left : 0 < lamports - STEALTH_RESERVE_LAMPORTS := by omega
  unfold afterMixer addSol
  simp only [flow_ok,send_ok,assert_ok,orFail_ok]
  obtain ⟨opened,opens⟩ := open_finishes finishes.initialized DepositStepKey.initPosition
    (if answers.relayerWithdraw.landed then (fund amount.toNat funds).getD funds else funds)
  exact ⟨_,(),_,⟨finishes.withdrawn,rfl⟩,(),_,⟨finishes.usePool,rfl⟩,(),opened,opens,lamports,_,⟨parsed,rfl⟩,
    (),_,⟨left,rfl⟩,finishes.added,rfl⟩

theorem unfunded (landed : answers.relayerWithdraw.landed = false) (confirmed : answers.relayerWithdraw.confirmed = false)
    (amount : Int) (funds : Funds) :
    afterMixer answers amount funds = (.error .relayerWithdraw,funds) := by
  unfold afterMixer
  change Flow.andThen _ _ funds = _
  simp only [Flow.andThen,send,landed,confirmed,Bool.false_eq_true,if_false]

theorem sweep_ok : (executeStealthSweep answers error funds : Except ε Unit × Funds) = (.ok (),after) ↔ answers.balance = true ∧
    (funds.lamports ≤ STEALTH_SWEEP_FEE_LAMPORTS ∧ after = funds ∨
      STEALTH_SWEEP_FEE_LAMPORTS < funds.lamports ∧ answers.transfer.confirmed = true ∧
        after = if answers.transfer.landed then { funds with lamports := 0 } else funds) := by
  have all : spend funds.lamports funds = some { funds with lamports := 0 } := by
    simp only [spend,Nat.lt_irrefl,if_false,Nat.sub_self]
  unfold executeStealthSweep
  rw [assert_then,read_then]
  by_cases balance : answers.balance = true
  · rw [if_pos balance]
    by_cases little : funds.lamports ≤ STEALTH_SWEEP_FEE_LAMPORTS
    · rw [if_pos little,pure_ok]
      simp only [balance,little,Nat.not_lt.mpr little,eq_comm,true_and,false_and,or_false]
    · rw [if_neg little,send_ok,all]
      simp only [balance,little,Nat.lt_of_not_le little,Option.getD_some,true_and,false_and,false_or]
  · rw [if_neg balance]
    simp only [Prod.mk.injEq,reduceCtorEq,balance,false_and]

theorem spend_position (amount : Nat) (funds : Funds) : ((spend amount funds).getD funds).position = funds.position := by
  unfold spend
  split
  · rfl
  · rfl

theorem sweep_position (answers : SweepAnswers) (error : ε) (funds : Funds) :
    (executeStealthSweep answers error funds : Except ε Unit × Funds).2.position = funds.position := by
  unfold executeStealthSweep
  rw [assert_then,read_then]
  split
  · split
    · rfl
    · change (if _ then _ else _ : Funds).position = funds.position
      split
      · exact spend_position _ _
      · rfl
  · rfl

theorem close_nothing (nothing : funds.position = none) : (afterClose close funds).position = none := by
  unfold afterClose withdrawClose
  simp only [nothing,Option.getD_none,ite_self]

theorem close_lands (landed : close.landed = true) : (afterClose close funds).position = none := by
  unfold afterClose withdrawClose
  rw [if_pos landed]
  cases there : funds.position with
  | none => exact there
  | some position => rfl

-- Steps 4 and 5 leave the position as the close left it; the steps after them do not touch it.
theorem exit_closes (ran : runPrivateExit answers allowDustSweep funds = (.ok mode,after))
    (careful : funds.position = none ∨
      answers.poolAuthority ≠ .missing ∧ (answers.close.confirmed = true → answers.close.landed = true)) :
    after.position = none := by
  unfold runPrivateExit runToPick at ran
  simp only [flow_ok,assert_ok,read_ok,lift_ok] at ran
  obtain ⟨chosen,picked,⟨denoms,reached,consolidated,_,_,⟨_,rfl⟩,_,_,⟨rfl,rfl⟩,_,rfl⟩,ran⟩ := ran
  have closed : reached.position = none := by
    rcases (consolidate_ok consolidated).2.2 with ⟨missing,rfl⟩ | ⟨_,_,_,_,_,confirmed,_,kept⟩
    · exact careful.resolve_right fun found => found.1 missing
    · rw [kept]
      rcases careful with nothing | ⟨_,lands⟩
      · exact close_nothing nothing
      · exact close_lands (lands confirmed)
  rw [← closed]
  cases chosen with
  | none =>
    simp only [flow_ok,pure_ok] at ran
    obtain ⟨_,_,swept,_,rfl⟩ := ran
    have kept := sweep_position answers.sweep ExitStepKey.dustSweep reached
    rw [swept] at kept
    exact kept
  | some chosenDenom =>
    simp only [flow_ok,send_ok,assert_ok,pure_ok] at ran
    obtain ⟨_,_,⟨_,rfl⟩,_,_,⟨_,rfl⟩,_,_,⟨_,rfl⟩,_,_,⟨_,rfl⟩,_,rfl⟩ := ran
    split
    · exact spend_position _ _
    · rfl

theorem list_setItem (named : walletAddress ≠ []) :
    listLocalPositions (setItem storage walletAddress next) walletAddress = next := by
  rw [listLocalPositions,if_neg named]
  exact if_pos rfl

-- No two entries are of one id, so an entry has its stealth address for itself; an id
-- that was not drawn has never been paid.
structure Sound (mainWalletAddress : Address) (wallet : Wallet) : Prop extends Kept mainWalletAddress wallet where
  version : ∀ s,Listed mainWalletAddress wallet s → s.derivationVersion = some .v2
  drawn : ∀ s,Listed mainWalletAddress wallet s → s.positionId ≠ [] ∧ s.positionId ∈ wallet.drawn
  unique : ∀ s t,Listed mainWalletAddress wallet s → Listed mainWalletAddress wallet t → s.positionId = t.positionId → s = t
  unpaid : ∀ poolAddress positionId,positionId ∉ wallet.drawn →
    wallet.funds (.deriveStealthForPosition mainWalletAddress poolAddress positionId) = .empty

section Index
variable {mainWalletAddress : Address} {wallet : Wallet} {s t : StoredPosition}

theorem worthless_funds (few : funds.lamports ≤ STEALTH_SWEEP_FEE_LAMPORTS) (wrapped : funds.wrapped = 0)
    (other : funds.other = 0) (nothing : funds.position = none) : ¬HoldsValue funds := by
  intro value
  rcases value with more | more | more | more
  · exact absurd more (Nat.not_lt.mpr few)
  · exact absurd wrapped (Nat.ne_of_gt more)
  · exact absurd other (Nat.ne_of_gt more)
  · rw [nothing] at more
    cases more

theorem empty_worthless : ¬HoldsValue .empty := worthless_funds (Nat.zero_le _) rfl rfl rfl

theorem initial_sound (mainWalletAddress : Address) : Sound mainWalletAddress .initial := by
  have nothing : ∀ s,¬Listed mainWalletAddress .initial s := by
    intro s listed
    simp only [Listed,Wallet.initial,listLocalPositions,ite_self] at listed
    exact List.not_mem_nil listed
  refine ⟨⟨?_,?_⟩,?_,?_,?_,?_⟩
  · intro derivation value
    exact absurd value empty_worthless
  · intro s listed
    exact absurd listed (nothing s)
  · intro s listed
    exact absurd listed (nothing s)
  · intro s listed
    exact absurd listed (nothing s)
  · intro s t listed
    exact absurd listed (nothing s)
  · intro _ _ _
    rfl

theorem listed_named (listed : Listed mainWalletAddress wallet s) : mainWalletAddress.text ≠ [] := by
  intro empty
  rw [Listed,listLocalPositions,if_pos empty] at listed
  exact List.not_mem_nil listed

theorem scheme_listed (sound : Sound mainWalletAddress wallet) (listed : Listed mainWalletAddress wallet s) :
    scheme mainWalletAddress s = .deriveStealthForPosition mainWalletAddress s.poolAddress s.positionId :=
  if_pos (sound.version s listed)

theorem scheme_unique (sound : Sound mainWalletAddress wallet) (one : Listed mainWalletAddress wallet s)
    (two : Listed mainWalletAddress wallet t) (same : scheme mainWalletAddress s = scheme mainWalletAddress t) : s = t := by
  rw [scheme_listed sound one,scheme_listed sound two] at same
  injection same with _ _ ids
  exact sound.unique s t one two ids

theorem scheme_same (same : SameStealth s t) : scheme mainWalletAddress s = scheme mainWalletAddress t := by
  simp only [scheme,same.derivationVersion,same.poolAddress,same.positionId]

-- Each handler of a page acts on the stealth address of the entry that the page shows.
theorem shown_acts (sound : Sound mainWalletAddress wallet) (shown : Shown mainWalletAddress wallet position) :
    ∃ s,Listed mainWalletAddress wallet s ∧ position.id = s.positionId ∧ position.closed = s.closed ∧
      ∀ entry : EntryPoint,entry ≠ .portfolioClaim →
        entry.derives mainWalletAddress position = scheme mainWalletAddress s := by
  obtain ⟨s,listed,_,_,rfl⟩ := shown
  refine ⟨s,listed,rfl,rfl,fun entry own => ?_⟩
  rw [scheme_listed sound listed]
  exact position_derives (.refl s) entry (sound.drawn s listed).1 own (.inl (sound.version s listed))

-- What happens at the address of an entry leaves the index sound, as long as an entry
-- marked closed gets no position.
theorem sound_put (sound : Sound mainWalletAddress wallet) (listed : Listed mainWalletAddress wallet s)
    (stays : s.closed = true → after.position = none) :
    Sound mainWalletAddress (wallet.put (scheme mainWalletAddress s) after) := by
  refine ⟨⟨?_,?_⟩,sound.version,sound.drawn,sound.unique,?_⟩
  · intro derivation value
    by_cases here : derivation = scheme mainWalletAddress s
    · exact ⟨s,listed,here.symm⟩
    · rw [put_other wallet after here] at value
      exact sound.listed derivation value
  · intro t other closed
    by_cases here : scheme mainWalletAddress t = scheme mainWalletAddress s
    · rw [here,put_same]
      exact stays (scheme_unique sound other listed here ▸ closed)
    · rw [put_other wallet after here]
      exact sound.closed t other closed
  · intro poolAddress positionId fresh
    have elsewhere : Operation.deriveStealthForPosition mainWalletAddress poolAddress positionId ≠ scheme mainWalletAddress s := by
      rw [scheme_listed sound listed]
      intro same
      injection same with _ _ ids
      exact fresh (ids ▸ (sound.drawn s listed).2)
    rw [put_other wallet after elsewhere]
    exact sound.unpaid poolAddress positionId fresh

theorem sound_map (sound : Sound mainWalletAddress wallet) (listed : Listed mainWalletAddress wallet s)
    {f : StoredPosition → StoredPosition} (same : ∀ p,SameStealth p (f p))
    (closes : ∀ p,Listed mainWalletAddress wallet p → (f p).closed = true →
      (wallet.funds (scheme mainWalletAddress p)).position = none) :
    Sound mainWalletAddress { wallet with
      storage := setItem wallet.storage mainWalletAddress.text
        ((listLocalPositions wallet.storage mainWalletAddress.text).map f) } := by
  have mapped : ∀ q,Listed mainWalletAddress { wallet with
      storage := setItem wallet.storage mainWalletAddress.text
        ((listLocalPositions wallet.storage mainWalletAddress.text).map f) } q ↔
      ∃ p,Listed mainWalletAddress wallet p ∧ f p = q := by
    intro q
    rw [Listed,list_setItem (listed_named listed),List.mem_map]
    rfl
  refine ⟨⟨?_,?_⟩,?_,?_,?_,sound.unpaid⟩
  · intro derivation value
    obtain ⟨p,before,rfl⟩ := sound.listed derivation value
    exact ⟨f p,(mapped _).mpr ⟨p,before,rfl⟩,(scheme_same (same p)).symm⟩
  · intro q after closed
    obtain ⟨p,before,rfl⟩ := (mapped q).mp after
    rw [← scheme_same (same p)]
    exact closes p before closed
  · intro q after
    obtain ⟨p,before,rfl⟩ := (mapped q).mp after
    exact (same p).derivationVersion.symm.trans (sound.version p before)
  · intro q after
    obtain ⟨p,before,rfl⟩ := (mapped q).mp after
    rw [← (same p).positionId]
    exact sound.drawn p before
  · intro q r one two ids
    obtain ⟨p,before,rfl⟩ := (mapped q).mp one
    obtain ⟨p',before',rfl⟩ := (mapped r).mp two
    rw [← (same p).positionId,← (same p').positionId] at ids
    rw [sound.unique p p' before before' ids]

theorem sound_remove (sound : Sound mainWalletAddress wallet) (listed : Listed mainWalletAddress wallet s)
    (worthless : ¬HoldsValue (wallet.funds (scheme mainWalletAddress s))) :
    Sound mainWalletAddress { wallet with storage := removeLocalPosition wallet.storage mainWalletAddress.text s.positionId } := by
  have left : ∀ q,Listed mainWalletAddress { wallet with
      storage := removeLocalPosition wallet.storage mainWalletAddress.text s.positionId } q ↔
      Listed mainWalletAddress wallet q ∧ q.positionId ≠ s.positionId := by
    intro q
    rw [Listed,removeLocalPosition,if_neg (listed_named listed),list_setItem (listed_named listed),List.mem_filter]
    simp only [Listed,decide_eq_true_iff]
  refine ⟨⟨?_,?_⟩,?_,?_,?_,sound.unpaid⟩
  · intro derivation value
    obtain ⟨p,before,rfl⟩ := sound.listed derivation value
    refine ⟨p,(left p).mpr ⟨before,?_⟩,rfl⟩
    intro ids
    exact worthless (sound.unique p s before listed ids ▸ value)
  · intro q after
    exact sound.closed q ((left q).mp after).1
  · intro q after
    exact sound.version q ((left q).mp after).1
  · intro q after
    exact sound.drawn q ((left q).mp after).1
  · intro q r one two
    exact sound.unique q r ((left q).mp one).1 ((left r).mp two).1

theorem put_self (wallet : Wallet) (derivation : Operation) : wallet.put derivation (wallet.funds derivation) = wallet := by
  have funds : (wallet.put derivation (wallet.funds derivation)).funds = wallet.funds := by
    funext other
    by_cases here : other = derivation
    · rw [here,put_same]
    · exact put_other wallet _ here
  exact congrArg (fun funds => { wallet with funds := funds }) funds

-- A deposit whose funds never left the mixer has drawn its id, and that is all.
theorem sound_draw (sound : Sound mainWalletAddress wallet) (positionId : Text) :
    Sound mainWalletAddress { wallet with drawn := positionId :: wallet.drawn } := by
  refine ⟨⟨sound.listed,sound.closed⟩,sound.version,?_,sound.unique,?_⟩
  · intro s listed
    exact ⟨(sound.drawn s listed).1,List.mem_cons_of_mem _ (sound.drawn s listed).2⟩
  · intro poolAddress other fresh
    exact sound.unpaid poolAddress other fun before => fresh (List.mem_cons_of_mem _ before)

theorem sound_add (sound : Sound mainWalletAddress wallet) (named : mainWalletAddress.text ≠ []) (run : DepositRun)
    (fresh : run.positionId ∉ wallet.drawn) (after : Funds) :
    Sound mainWalletAddress
      { wallet.put (.deriveStealthForPosition mainWalletAddress run.poolAddress run.positionId) after with
        drawn := run.positionId :: wallet.drawn
        storage := addLocalPosition wallet.storage mainWalletAddress.text run.record } := by
  let derivation := Operation.deriveStealthForPosition mainWalletAddress run.poolAddress run.positionId
  have new : ∀ p,Listed mainWalletAddress wallet p → p.positionId ≠ run.positionId := by
    intro p before same
    exact fresh (same ▸ (sound.drawn p before).2)
  have elsewhere : ∀ p,Listed mainWalletAddress wallet p → scheme mainWalletAddress p ≠ derivation := by
    intro p before same
    rw [scheme_listed sound before] at same
    injection same with _ _ ids
    exact new p before ids
  have added : ∀ q,Listed mainWalletAddress
      { wallet.put derivation after with
        drawn := run.positionId :: wallet.drawn
        storage := addLocalPosition wallet.storage mainWalletAddress.text run.record } q ↔
      q = run.record ∨ Listed mainWalletAddress wallet q := by
    intro q
    rw [Listed,addLocalPosition,if_neg named,list_setItem named,List.mem_cons,List.mem_filter,decide_eq_true_iff]
    exact or_congr_right ⟨fun both => both.1,fun before => ⟨before,new q before⟩⟩
  refine ⟨⟨?_,?_⟩,?_,?_,?_,?_⟩
  · intro other value
    by_cases here : other = derivation
    · exact ⟨run.record,(added _).mpr (.inl rfl),here.symm⟩
    · change HoldsValue ((wallet.put derivation after).funds other) at value
      rw [put_other wallet after here] at value
      obtain ⟨p,before,same⟩ := sound.listed other value
      exact ⟨p,(added p).mpr (.inr before),same⟩
  · intro q listed closed
    rcases (added q).mp listed with rfl | before
    · cases closed
    · change ((wallet.put derivation after).funds _).position = none
      rw [put_other wallet after (elsewhere q before)]
      exact sound.closed q before closed
  · intro q listed
    rcases (added q).mp listed with rfl | before
    · rfl
    · exact sound.version q before
  · intro q listed
    rcases (added q).mp listed with rfl | before
    · exact ⟨List.cons_ne_nil _ _,List.mem_cons_self⟩
    · exact ⟨(sound.drawn q before).1,List.mem_cons_of_mem _ (sound.drawn q before).2⟩
  · intro q r one two ids
    rcases (added q).mp one with rfl | before
    · rcases (added r).mp two with rfl | before'
      · rfl
      · exact absurd ids.symm (new r before')
    · rcases (added r).mp two with rfl | before'
      · exact absurd ids (new q before)
      · exact sound.unique q r before before' ids
  · intro poolAddress other unseen
    have apart : Operation.deriveStealthForPosition mainWalletAddress poolAddress other ≠ derivation := by
      intro same
      injection same with _ _ ids
      exact unseen (List.mem_cons.mpr (.inl ids))
    change (wallet.put derivation after).funds _ = _
    rw [put_other wallet after apart]
    exact sound.unpaid poolAddress other fun before => unseen (List.mem_cons_of_mem _ before)

-- One step of each kind.
theorem deposit_sound (sound : Sound mainWalletAddress wallet) (fresh : run.positionId ∉ wallet.drawn)
    (careful : Careful mainWalletAddress wallet (.deposit run)) :
    Sound mainWalletAddress (PrivateDepositModal.start mainWalletAddress wallet run) := by
  unfold PrivateDepositModal.start
  split
  · exact sound
  rename_i named
  have stops : (∃ error,runPrivateDeposit run.answers run.denominationLamports run.lowerBinId run.upperBinId
        (wallet.funds (.deriveStealthForPosition mainWalletAddress run.poolAddress run.positionId)) =
      (.error error,wallet.funds (.deriveStealthForPosition mainWalletAddress run.poolAddress run.positionId))) ∨
      ∃ after,runPrivateDeposit run.answers run.denominationLamports run.lowerBinId run.upperBinId
        (wallet.funds (.deriveStealthForPosition mainWalletAddress run.poolAddress run.positionId)) = (.ok (),after) ∧
        run.stored = true := by
    cases reaches : mixerAmount run.answers run.denominationLamports run.lowerBinId run.upperBinId with
    | none => exact .inl (deposit_stops reaches _)
    | some amount =>
      rw [deposit_reaches reaches]
      rcases careful with empty | none | ⟨landed,confirmed⟩ | ⟨finishes,stored⟩
      · exact absurd empty named
      · cases reaches.symm.trans none
      · exact .inl ⟨_,unfunded landed confirmed amount _⟩
      · obtain ⟨after,done⟩ := deposit_finishes finishes amount
          (wallet.funds (.deriveStealthForPosition mainWalletAddress run.poolAddress run.positionId))
        exact .inr ⟨after,done,stored⟩
  rcases stops with ⟨error,stopped⟩ | ⟨after,done,stored⟩
  · simp only [stopped,put_self,Except.isOk,Except.toBool,Bool.false_eq_true,false_and,if_false]
    exact sound_draw sound run.positionId
  · simp only [done,stored,Except.isOk,Except.toBool,and_self,if_true]
    exact sound_add sound named run fresh after

theorem exit_sound (sound : Sound mainWalletAddress wallet) (shown : Shown mainWalletAddress wallet run.position)
    (opened : run.position.closed = false) (careful : Careful mainWalletAddress wallet (.exit run)) :
    Sound mainWalletAddress (PrivateExitModal.start mainWalletAddress wallet run) := by
  obtain ⟨s,listed,ids,flag,derives⟩ := shown_acts sound shown
  have notClosed : s.closed = false := flag.symm.trans opened
  unfold PrivateExitModal.start
  have acts := derives .exit (by decide)
  simp only [Careful,acts] at careful ⊢
  have put : Sound mainWalletAddress (wallet.put (scheme mainWalletAddress s)
      (runPrivateExit run.answers run.dustAck (wallet.funds (scheme mainWalletAddress s))).2) :=
    sound_put sound listed fun closed => absurd closed (Bool.eq_false_iff.mp notClosed)
  split
  · rename_i marks
    obtain ⟨fine,stored⟩ := marks
    obtain ⟨mode,ran⟩ := ran_ok fine
    have gone : ((wallet.put (scheme mainWalletAddress s)
        (runPrivateExit run.answers run.dustAck (wallet.funds (scheme mainWalletAddress s))).2).funds
          (scheme mainWalletAddress s)).position = none := by
      rw [put_same]
      exact exit_closes ran (careful.resolve_left (ne_of_eq_of_ne stored (by decide)))
    rw [markLocalPositionClosed,if_neg (listed_named listed)]
    apply sound_map put listed (closing_same _ _ _)
    intro p before closed
    split at closed
    · exact put.closed p before closed
    · rename_i marked
      have same : p.positionId = s.positionId := (Decidable.not_not.mp (not_or.mp marked).1).trans ids
      rw [sound.unique p s before listed same]
      exact gone
  · exact put

theorem rebalance_sound (sound : Sound mainWalletAddress wallet) (shown : Shown mainWalletAddress wallet run.position)
    (opened : run.position.closed = false) : Sound mainWalletAddress (PrivateRebalanceModal.start mainWalletAddress wallet run) := by
  obtain ⟨s,listed,ids,flag,derives⟩ := shown_acts sound shown
  have notClosed : s.closed = false := flag.symm.trans opened
  unfold PrivateRebalanceModal.start
  have acts := derives .rebalance (by decide)
  simp only [acts]
  have put : Sound mainWalletAddress (wallet.put (scheme mainWalletAddress s)
      (runPrivateRebalance run.answers run.newLowerBinId run.newUpperBinId (wallet.funds (scheme mainWalletAddress s))).2) :=
    sound_put sound listed fun closed => absurd closed (Bool.eq_false_iff.mp notClosed)
  split
  · rw [markLocalPositionRebalanced,if_neg (listed_named listed)]
    apply sound_map put listed (rebalancing_same _ _)
    intro p before closed
    apply put.closed p before
    split at closed
    · exact closed
    · exact closed
  · exact put

theorem sweep_sound (sound : Sound mainWalletAddress wallet) (shown : Shown mainWalletAddress wallet run.position)
    (closed : run.position.closed = true) (careful : Careful mainWalletAddress wallet (.sweep run)) :
    Sound mainWalletAddress (SweepPanel.handleDirect mainWalletAddress wallet run) := by
  obtain ⟨s,listed,ids,flag,derives⟩ := shown_acts sound shown
  have nothing : (wallet.funds (scheme mainWalletAddress s)).position = none :=
    sound.closed s listed (flag.symm.trans closed)
  unfold SweepPanel.handleDirect
  have acts := derives .sweep (by decide)
  simp only [Careful,acts] at careful ⊢
  have put : Sound mainWalletAddress (wallet.put (scheme mainWalletAddress s)
      (executeStealthSweep run.answers () (wallet.funds (scheme mainWalletAddress s)) : Except Unit Unit × Funds).2) := by
    apply sound_put sound listed
    intro _
    rw [sweep_position]
    exact nothing
  split
  · rename_i removes
    obtain ⟨fine,stored⟩ := removes
    obtain ⟨_,ran⟩ := ran_ok fine
    obtain ⟨balance,outcome⟩ := sweep_ok.mp ran
    rw [ids]
    apply sound_remove put listed
    rw [put_same]
    rcases careful with silent | unstored | ⟨more,unconfirmed⟩ | ⟨wrapped,other,swept⟩
    · cases silent.symm.trans balance
    · cases unstored.symm.trans stored
    · rcases outcome with ⟨little,_⟩ | ⟨_,confirmed,_⟩
      · exact absurd more (Nat.not_lt.mpr little)
      · cases unconfirmed.symm.trans confirmed
    · rcases outcome with ⟨little,same⟩ | ⟨more,_,same⟩
      · rw [same]
        exact worthless_funds little wrapped other nothing
      · rw [same,if_pos (swept.resolve_left (Nat.not_le.mpr more))]
        exact worthless_funds (Nat.zero_le _) wrapped other nothing
  · exact put

theorem trade_sound (sound : Sound mainWalletAddress wallet) (derivation : Operation) (sol other : Nat) :
    Sound mainWalletAddress (trade wallet derivation sol other) := by
  have untouched : ∀ one,(wallet.funds one).position = none → (trade wallet derivation sol other).funds one = wallet.funds one := by
    intro one nothing
    by_cases here : one = derivation
    · subst here
      simp only [trade,put_same,nothing,Option.map_none]
      rw [← nothing]
    · exact put_other wallet _ here
  have worth : ∀ one,HoldsValue ((trade wallet derivation sol other).funds one) → HoldsValue (wallet.funds one) := by
    intro one value
    cases there : (wallet.funds one).position with
    | none =>
      rw [untouched one there] at value
      exact value
    | some position => exact .inr (.inr (.inr (by rw [there]; rfl)))
  refine ⟨⟨?_,?_⟩,sound.version,sound.drawn,sound.unique,?_⟩
  · intro one value
    exact sound.listed one (worth one value)
  · intro s listed closed
    have nothing := sound.closed s listed closed
    rw [untouched _ nothing]
    exact nothing
  · intro poolAddress positionId fresh
    have empty := sound.unpaid poolAddress positionId fresh
    rw [untouched _ (congrArg Funds.position empty)]
    exact empty

end Index

theorem step_sound (sound : Sound mainWalletAddress wallet) (allowed : Allowed mainWalletAddress wallet action)
    (careful : Careful mainWalletAddress wallet action) : Sound mainWalletAddress (apply mainWalletAddress wallet action) := by
  cases action with
  | deposit run => exact deposit_sound sound allowed careful
  | exit run => exact exit_sound sound allowed.1 allowed.2 careful
  | rebalance run => exact rebalance_sound sound allowed.1 allowed.2
  | sweep run => exact sweep_sound sound allowed.1 allowed.2 careful
  | trade derivation sol other => exact trade_sound sound derivation sol other

theorem reached_sound (path : Reached mainWalletAddress (Careful mainWalletAddress) wallet) : Sound mainWalletAddress wallet := by
  induction path with
  | initial => exact initial_sound mainWalletAddress
  | step _ allowed careful ih => exact step_sound ih allowed careful

theorem entries_outlive (path : Reached mainWalletAddress (Careful mainWalletAddress) wallet) : Kept mainWalletAddress wallet :=
  (reached_sound path).toKept

def sampleInfo : RelayerInfo := ⟨"1000000".toList,"100000000".toList,some ["50000000".toList,"100000000".toList]⟩

def sampleDeposit : DepositRun where
  uuid := ['u']
  poolAddress := samplePool
  lowerBinId := 1
  upperBinId := 20
  shape := .spot
  denominationLamports := none
  answers := {
    derive := true
    relayerInfo := some sampleInfo
    prepare := true
    mixerDeposit := ⟨true,true⟩
    buildTree := true
    prove := true
    relayerWithdraw := ⟨true,true⟩
    fundedLamports := "99000000".toList
    usePool := true
    init := ⟨some false,⟨true,true⟩,1000000,60000000⟩
    add := ⟨⟨true,true⟩,2000000⟩ }
  positionPubkey := ['K']
  stealthPubkey := ['S']
  signatures := ⟨none,none,none,none⟩
  stored := true

-- An exit to the smaller pool, with nothing but SOL in the position.
def sampleExit : ExitRun where
  position := mapStoredToPortfolio sampleDeposit.record none none
  dustAck := false
  answers := {
    stealth := some ['S']
    relayerInfo := some sampleInfo
    poolAuthority := .found ⟨['S'],['K']⟩
    positionState := some ⟨['M'],NATIVE_MINT,['0'],"94000000".toList,['0'],['0']⟩
    usePool := true
    close := ⟨true,true⟩
    swap := ⟨fun _ => none,⟨false,false⟩,0⟩
    balance := true
    sweep := ⟨false,⟨false,false⟩⟩
    mixerDeposit := ⟨true,true⟩
    mixerFee := 5000
    buildTree := true
    prove := true
    relayerWithdraw := true }
  signature := none
  now := 7
  stored := true

def sampleSweep (s : StoredPosition) (transfer : Sent) : SweepRun := ⟨mapStoredToPortfolio s none none,⟨true,transfer⟩,true⟩

def sampleDeposited : Wallet := apply sampleMain .initial (.deposit sampleDeposit)

def sampleExited : Wallet := apply sampleMain sampleDeposited (.exit sampleExit)

def sampleClosed : StoredPosition :=
  { sampleDeposit.record with closed := true, closedAt := some 7, withdrawRecipient := some ['A'] }

theorem sample_deposited : Listed sampleMain sampleDeposited sampleDeposit.record := by
  unfold Listed
  decide

theorem sample_exited : Listed sampleMain sampleExited sampleClosed := by
  unfold Listed
  decide

-- The sweep lands and its confirmation times out.
theorem entries_outlive_sample :
    Kept sampleMain (apply sampleMain sampleExited (.sweep (sampleSweep sampleClosed ⟨true,false⟩))) := by
  have finishes : Finishes sampleDeposit.answers :=
    ⟨rfl,rfl,.inr ⟨rfl,rfl⟩,⟨99000000,by decide,by decide⟩,rfl⟩
  have deposited : Reached sampleMain (Careful sampleMain) sampleDeposited :=
    .step .initial List.not_mem_nil (.inr (.inr (.inr ⟨finishes,rfl⟩)))
  have exited : Reached sampleMain (Careful sampleMain) sampleExited := by
    refine .step deposited ⟨⟨_,sample_deposited,none,none,rfl⟩,rfl⟩ (.inr (.inr ⟨?_,fun _ => rfl⟩))
    intro missing
    cases missing
  have more : STEALTH_SWEEP_FEE_LAMPORTS < (sampleExited.funds (EntryPoint.sweep.derives sampleMain
      (sampleSweep sampleClosed ⟨true,false⟩).position)).lamports := by decide
  exact entries_outlive (.step exited ⟨⟨_,sample_exited,none,none,rfl⟩,rfl⟩ (.inr (.inr (.inl ⟨more,rfl⟩))))

-- What the close paid is still wrapped when the sweep of the native rest drops the entry.
theorem entry_lost :
    Reached sampleMain (fun _ _ => True) (apply sampleMain sampleExited (.sweep (sampleSweep sampleClosed ⟨true,true⟩))) ∧
    ¬Kept sampleMain (apply sampleMain sampleExited (.sweep (sampleSweep sampleClosed ⟨true,true⟩))) := by
  constructor
  · have opened : Reached sampleMain (fun _ _ => True) sampleDeposited := .step .initial List.not_mem_nil trivial
    have closed : Reached sampleMain (fun _ _ => True) sampleExited :=
      .step opened ⟨⟨_,sample_deposited,none,none,rfl⟩,rfl⟩ trivial
    exact .step closed ⟨⟨_,sample_exited,none,none,rfl⟩,rfl⟩ trivial
  · intro kept
    have wrapped : ((apply sampleMain sampleExited (.sweep (sampleSweep sampleClosed ⟨true,true⟩))).funds
        (scheme sampleMain sampleClosed)).wrapped = 94000000 := by decide
    obtain ⟨s,listed,_⟩ := kept.listed (scheme sampleMain sampleClosed) (.inr (.inl (by rw [wrapped]; decide)))
    have none : listLocalPositions (apply sampleMain sampleExited (.sweep (sampleSweep sampleClosed ⟨true,true⟩))).storage
        sampleMain.text = [] := by decide
    rw [Listed,none] at listed
    exact List.not_mem_nil listed

end Octora.Web.PositionHistory
