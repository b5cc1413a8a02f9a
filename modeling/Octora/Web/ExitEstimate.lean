import Octora.Web.PrivateFlows

namespace Octora.Web.PrivateFlows
open BigIntText Stateful

-- privateExit.ts, `preflightEstimateExit`.
structure PreflightAnswers where
  relayerInfo : Option RelayerInfo
  poolAuthority : Lookup PoolAuthorityInfo
  positionState : Option PositionStateView
  quote : Int → Option Text
  balance : Option Int

structure ExitPreflightEstimate where
  estimatedRecoverableLamports : Int
  smallestDenominationLamports : Int
  willBeDust : Bool
  positionAlreadyClosed : Bool
  deriving DecidableEq

def lessReserve (lamports : Int) : Int :=
  if STEALTH_RESERVE_LAMPORTS < lamports then lamports - STEALTH_RESERVE_LAMPORTS else 0

-- A quote that fails counts as nothing.
def quotedOut (quote : Int → Option Text) (nonSolOnHand : Int) : Int :=
  if 0 < nonSolOnHand then ((quote nonSolOnHand).bind bigInt).getD 0 else 0

-- `smallestDenom` is undefined where no pool is advertised, and printing it throws.
def preflightEstimateExit (answers : PreflightAnswers) : Option ExitPreflightEstimate := do
  let relayerInfo ← answers.relayerInfo
  let availableDenoms ← availableDenoms relayerInfo
  let smallestDenom ← availableDenoms.getLast?
  match answers.poolAuthority with
  | .failed => none
  | .missing => do
    let balance ← answers.balance
    let estimated := lessReserve balance
    some ⟨estimated,smallestDenom,estimated < smallestDenom,true⟩
  | .found _ => do
    let position ← answers.positionState
    if ¬xIsSol position ∧ ¬yIsSol position then some ⟨0,smallestDenom,false,false⟩
    else do
      let solOnHand ← solAmount position
      let nonSolOnHand ← nonSolAmount position
      let estimated := lessReserve (solOnHand + quotedOut answers.quote nonSolOnHand)
      some ⟨estimated,smallestDenom,estimated < smallestDenom,false⟩

theorem denoms_sorted (listed : availableDenoms relayerInfo = some denoms) : denoms.Pairwise (· ≥ ·) := by
  unfold availableDenoms at listed
  obtain ⟨parsed,_,rfl⟩ := Option.map_eq_some_iff.mp listed
  exact List.pairwise_insertionSort _ _

theorem last_least {denoms : List Int} (sorted : denoms.Pairwise (· ≥ ·)) (last : denoms.getLast? = some smallest)
    (member : d ∈ denoms) : smallest ≤ d := by
  obtain ⟨front,rfl⟩ := List.getLast?_eq_some_iff.mp last
  rcases List.mem_append.mp member with earlier | same
  · exact (List.pairwise_append.mp sorted).2.2 d earlier smallest (List.mem_singleton_self _)
  · exact le_of_eq (List.mem_singleton.mp same).symm

-- The first that fits is there exactly when the last fits.
theorem fits_iff {denoms : List Int} (sorted : denoms.Pairwise (· ≥ ·)) (last : denoms.getLast? = some smallest)
    (available : Int) : (∃ d, denoms.find? (fun d => d ≤ available) = some d) ↔ smallest ≤ available := by
  have member := List.mem_of_getLast? last
  constructor
  · rintro ⟨d,found⟩
    have fits : d ≤ available := by simpa using List.find?_some found
    exact le_trans (last_least sorted last (List.mem_of_find?_eq_some found)) fits
  · intro fits
    rw [← Option.isSome_iff_exists,List.find?_isSome]
    exact ⟨smallest,member,by simpa using fits⟩

theorem dust_iff (lamports smallest : Int) :
    lessReserve lamports < smallest ↔ 0 < smallest ∧ lamports < STEALTH_RESERVE_LAMPORTS + smallest := by
  unfold lessReserve STEALTH_RESERVE_LAMPORTS
  split <;> omega

-- The run settles on no denomination, at the pick step or before it.
def FindsNone (answers : ExitAnswers) (allowDustSweep : Bool) (before : Funds) : Prop :=
  ∀ d after, runToPick answers allowDustSweep before ≠ (.ok (some d),after)

-- In descending order the first that fits is the largest that fits.
theorem first_greatest {denoms : List Int} (sorted : denoms.Pairwise (· ≥ ·))
    (found : denoms.find? (fun d => d ≤ available) = some chosen) :
    chosen ∈ denoms ∧ chosen ≤ available ∧ ∀ d ∈ denoms,d ≤ available → d ≤ chosen := by
  have fits : chosen ≤ available := by simpa using List.find?_some found
  refine ⟨List.mem_of_find?_eq_some found,fits,?_⟩
  intro d member small
  obtain ⟨_,front,back,rfl,earlier⟩ := List.find?_eq_some_iff_append.mp found
  rcases List.mem_append.mp member with inside | inside
  · have large := earlier d inside
    simp only [decide_eq_true small,Bool.not_true,Bool.false_eq_true] at large
  · rcases List.mem_cons.mp inside with rfl | later
    · exact le_refl _
    · exact (List.pairwise_cons.mp (List.pairwise_append.mp sorted).2.1).1 d later

theorem pick_some : pickDenomination allowDustSweep denoms balance = .ok (some d) ↔
    0 < balance - STEALTH_RESERVE_LAMPORTS ∧ d ≠ 0 ∧
      denoms.find? (fun d => d ≤ balance - STEALTH_RESERVE_LAMPORTS) = some d := by
  unfold pickDenomination
  by_cases nothing : balance - STEALTH_RESERVE_LAMPORTS ≤ 0
  · simp only [if_pos nothing,not_lt.mpr nothing,false_and,iff_false]
    intro picked
    cases picked
  · simp only [if_neg nothing,not_le.mp nothing,true_and]
    cases fits : (denoms.find? fun d => d ≤ balance - STEALTH_RESERVE_LAMPORTS).filter (· ≠ 0) with
    | some first =>
      obtain ⟨found,sound⟩ := Option.filter_eq_some_iff.mp fits
      simp only [found,Except.ok.injEq,Option.some.injEq]
      constructor
      · rintro rfl
        exact ⟨by simpa using sound,rfl⟩
      · exact And.right
    | none =>
      constructor
      · intro picked
        cases allowDustSweep <;> cases picked
      · rintro ⟨sound,found⟩
        rw [found,Option.filter_some,if_pos (by simpa using sound)] at fits
        cases fits

-- Where a pool of 0 is listed, only a larger one that fits is taken.
theorem pick_none {denoms : List Int} (sorted : denoms.Pairwise (· ≥ ·)) (last : denoms.getLast? = some smallest)
    (allowDustSweep : Bool) (balance : Int) :
    (∀ d, pickDenomination allowDustSweep denoms balance ≠ .ok (some d)) ↔
      balance < STEALTH_RESERVE_LAMPORTS + max smallest 1 ∨
        0 ∈ denoms ∧ ∀ d ∈ denoms,0 < d → balance < STEALTH_RESERVE_LAMPORTS + d := by
  have fits := fits_iff sorted last (balance - STEALTH_RESERVE_LAMPORTS)
  constructor
  · intro never
    by_cases little : balance < STEALTH_RESERVE_LAMPORTS + max smallest 1
    · exact .inl little
    · right
      obtain ⟨first,found⟩ := fits.mpr (by omega)
      obtain ⟨member,_,greatest⟩ := first_greatest sorted found
      have zero : first = 0 := by
        by_contra sound
        exact never first (pick_some.mpr ⟨by omega,sound,found⟩)
      subst zero
      refine ⟨member,fun d inside positive => ?_⟩
      by_contra enough
      exact absurd (greatest d inside (by omega)) (not_le.mpr positive)
  · rintro none d picked
    obtain ⟨room,sound,found⟩ := pick_some.mp picked
    have enough := fits.mp ⟨d,found⟩
    obtain ⟨member,small,greatest⟩ := first_greatest sorted found
    rcases none with little | ⟨zero,large⟩
    · omega
    · have natural := greatest 0 zero (le_of_lt room)
      have beyond := large d member (lt_of_le_of_ne natural (Ne.symm sound))
      omega

theorem finds_none {denoms : List Int} (reached : consolidate answers before = (.ok denoms,after)) (answered : answers.balance = true)
    (sorted : denoms.Pairwise (· ≥ ·)) (last : denoms.getLast? = some smallest) (allowDustSweep : Bool) :
    FindsNone answers allowDustSweep before ↔ after.lamports < STEALTH_RESERVE_LAMPORTS + max smallest 1 ∨
      0 ∈ denoms ∧ ∀ d ∈ denoms,0 < d → (after.lamports : Int) < STEALTH_RESERVE_LAMPORTS + d := by
  rw [← pick_none sorted last allowDustSweep]
  constructor
  · intro none d picked
    apply none d after
    unfold runToPick
    simp only [flow_ok,assert_ok,read_ok,lift_ok]
    exact ⟨_,_,reached,(),_,⟨answered,rfl⟩,_,_,⟨rfl,rfl⟩,picked,rfl⟩
  · intro never d last picked
    unfold runToPick at picked
    simp only [flow_ok,assert_ok,read_ok,lift_ok] at picked
    obtain ⟨_,_,again,_,_,⟨_,rfl⟩,_,_,⟨rfl,rfl⟩,picked,_⟩ := picked
    cases reached.symm.trans again
    exact never d picked

-- The rents that come back with a position that is closed in the run.
def refund (close : Sent) (funds : Funds) : Nat := if close.landed then (funds.position.map OpenPosition.rent).getD 0 else 0

theorem close_native (close : Sent) (funds : Funds) :
    (afterClose close funds).lamports = funds.lamports + refund close funds := by
  unfold afterClose refund withdrawClose
  cases close.landed with
  | false => rfl
  | true => cases funds.position <;> rfl

theorem dust_sticky (pre : PreflightAnswers) (live : ExitAnswers) (allowDustSweep : Bool) (before after : Funds)
    (sameInfo : live.relayerInfo = pre.relayerInfo) (sameAuthority : live.poolAuthority = pre.poolAuthority)
    (sameState : live.positionState = pre.positionState) (estimated : preflightEstimateExit pre = some estimate)
    (reached : consolidate live before = (.ok denoms,after)) (answered : live.balance = true) :
    (estimate.positionAlreadyClosed = false → ∀ position sol nonSol, pre.positionState = some position →
      solAmount position = some sol → nonSolAmount position = some nonSol →
      ((estimate.willBeDust = true → FindsNone live allowDustSweep before) ↔
        STEALTH_RESERVE_LAMPORTS + estimate.smallestDenominationLamports ≤ sol + quotedOut pre.quote nonSol ∨
        estimate.smallestDenominationLamports ≤ 0 ∨
        before.lamports + refund live.close before <
          STEALTH_RESERVE_LAMPORTS + estimate.smallestDenominationLamports)) ∧
    (estimate.positionAlreadyClosed = true → pre.balance = some (before.lamports : Int) →
      ((estimate.willBeDust = true ↔ FindsNone live allowDustSweep before) ↔
        0 < estimate.smallestDenominationLamports ∨ STEALTH_RESERVE_LAMPORTS < before.lamports ∧
          (0 ∉ denoms ∨ ∃ d ∈ denoms,0 < d ∧ STEALTH_RESERVE_LAMPORTS + d ≤ before.lamports))) := by
  obtain ⟨⟨relayerInfo,informed,listed⟩,_,outcome⟩ := consolidate_ok reached
  rw [preflightEstimateExit,← sameInfo,informed] at estimated
  simp only [Option.bind_eq_bind,Option.bind_some,listed,Option.bind_eq_some_iff] at estimated
  obtain ⟨smallest,last,estimated⟩ := estimated
  have none := finds_none reached answered (denoms_sorted listed) last allowDustSweep
  have least : 0 ∈ denoms → smallest ≤ 0 := last_least (denoms_sorted listed) last
  rw [← sameAuthority] at estimated
  rcases outcome with ⟨missing,rfl⟩ | ⟨authority,position,found,there,paired,_,native,_⟩
  · rw [missing] at estimated
    simp only [Option.bind_eq_some_iff,Option.some.injEq] at estimated
    obtain ⟨balance,read,rfl⟩ := estimated
    constructor
    · intro wrong
      cases wrong
    · intro _ unchanged
      cases Option.some.inj (read.symm.trans unchanged)
      simp only [none,decide_eq_true_iff,dust_iff]
      by_cases positive : 0 < smallest
      · have unlisted : 0 ∉ denoms := fun zero => absurd (least zero) (not_le.mpr positive)
        simp only [positive,unlisted,true_and,false_and,or_false,true_or,iff_true]
        omega
      · simp only [positive,false_and,false_or,false_iff,not_or,not_and,not_lt,not_forall,exists_prop]
        constructor
        · rintro ⟨enough,larger⟩
          refine ⟨by omega,?_⟩
          by_cases zero : 0 ∈ denoms
          · exact .inr (larger zero)
          · exact .inl zero
        · rintro ⟨enough,larger⟩
          exact ⟨by omega,fun zero => larger.resolve_left (not_not.mpr zero)⟩
  · rw [found] at estimated
    simp only [Option.bind_eq_some_iff] at estimated
    obtain ⟨view,state,estimated⟩ := estimated
    rw [← sameState,there] at state
    cases Option.some.inj state
    rw [none,native,close_native,← sameState,there]
    split at estimated
    · rename_i unpaired
      cases estimated
      exact absurd paired (not_or.mpr unpaired)
    · simp only [Option.bind_eq_some_iff,Option.some.injEq] at estimated
      obtain ⟨solOnHand,solRead,nonSolOnHand,nonSolRead,rfl⟩ := estimated
      constructor
      · intro _ view sol nonSol same one two
        cases Option.some.inj same
        cases Option.some.inj (solRead.symm.trans one)
        cases Option.some.inj (nonSolRead.symm.trans two)
        simp only [decide_eq_true_iff,dust_iff]
        push_cast
        by_cases positive : 0 < smallest
        · have unlisted : 0 ∉ denoms := fun zero => absurd (least zero) (not_le.mpr positive)
          simp only [unlisted,false_and,or_false]
          omega
        · simp only [positive,false_and,false_implies,true_iff]
          exact .inr (.inl (not_lt.mp positive))
      · intro wrong
        cases wrong

def sampleInfo : RelayerInfo := ⟨"1000000".toList,"100000000".toList,some ["100000000".toList,"1000000000".toList]⟩
def sampleAuthority : PoolAuthorityInfo := ⟨['S'],['K']⟩

-- A position that holds 0.01 SOL and nothing else.
def sampleView : PositionStateView := ⟨['M'],NATIVE_MINT,['0'],"10000000".toList,['0'],['0']⟩

def samplePre : PreflightAnswers := ⟨some sampleInfo,.found sampleAuthority,some sampleView,fun _ => none,none⟩

def sampleLive : ExitAnswers where
  stealth := some ['S']
  relayerInfo := some sampleInfo
  poolAuthority := .found sampleAuthority
  positionState := some sampleView
  usePool := true
  close := ⟨true,true⟩
  swap := ⟨fun _ => none,⟨false,false⟩,0⟩
  balance := true
  sweep := ⟨true,⟨true,true⟩⟩
  mixerDeposit := ⟨true,true⟩
  mixerFee := 5000
  buildTree := true
  prove := true
  relayerWithdraw := true

def sampleFunds (lamports : Nat) : Funds := ⟨lamports,0,0,some ⟨10000000,0,60000000⟩⟩

theorem dust_sticky_sample : FindsNone sampleLive true (sampleFunds 7000000) := by
  have sticky := (dust_sticky samplePre sampleLive true (sampleFunds 7000000) ⟨67000000,10000000,0,none⟩ rfl rfl rfl
    (by decide : preflightEstimateExit samplePre = some ⟨5000000,100000000,true,false⟩)
    (by decide : consolidate sampleLive (sampleFunds 7000000) =
      (.ok [1000000000,100000000],⟨67000000,10000000,0,none⟩)) rfl).1 rfl sampleView 10000000 0 rfl
    (by decide) (by decide)
  exact sticky.mpr (.inr (.inr (by decide))) rfl

-- One SOL that was on the stealth before: called dust, and put through the mixer.
theorem balance_overlooked : preflightEstimateExit samplePre = some ⟨5000000,100000000,true,false⟩ ∧
    runToPick sampleLive true (sampleFunds 1000000000) = (.ok (some 1000000000),⟨1060000000,10000000,0,none⟩) := by
  decide

end Octora.Web.PrivateFlows
