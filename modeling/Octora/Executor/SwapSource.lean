import Octora.Library.BigIntText
import Octora.Library.Fallible
import Mathlib.Data.Rat.Defs
import Mathlib.Algebra.Order.Ring.Rat
import Mathlib.Data.List.Sort

namespace Octora.Executor.Swap
open BigIntText Fallible

abbrev Text := List Char

def NATIVE_SOL_MINT : Text := "So11111111111111111111111111111111111111112".toList

-- dlmm.types.ts
structure TokenInfo where
  mint : Text
  deriving DecidableEq

structure PoolSummary where
  address : Text
  tokenX : TokenInfo
  tokenY : TokenInfo
  tvl : ℚ
  deriving DecidableEq

inductive Network where
  | mainnet
  | devnet
  | localnet
  deriving DecidableEq

-- swap-pool-resolver.ts; no indexer serves localnet, elsewhere its answer is none when
-- the request throws.
def listPools (indexer : Network → Option (List PoolSummary)) (network : Network) : Option (List PoolSummary) :=
  if network = .localnet then some [] else indexer network

structure ResolveSwapSourceInput where
  network : Network
  targetPoolAddress : Text
  nonSolMint : Text
  minTvlUsd : Option ℚ

structure SwapSourceCandidate where
  pool : PoolSummary
  isTarget : Bool
  deriving DecidableEq

def poolContainsBothMints (pool : PoolSummary) (mintA mintB : Text) : Prop :=
  let x := pool.tokenX.mint
  let y := pool.tokenY.mint
  (x = mintA ∧ y = mintB) ∨ (x = mintB ∧ y = mintA)

instance (pool : PoolSummary) (mintA mintB : Text) : Decidable (poolContainsBothMints pool mintA mintB) :=
  inferInstanceAs (Decidable (_ ∨ _))

def listSwapSourceCandidates (indexer : Network → Option (List PoolSummary)) (input : ResolveSwapSourceInput) :
    Option (List SwapSourceCandidate) := do
  let minTvlUsd := input.minTvlUsd.getD 50000
  let data ← listPools indexer input.network
  let paired := data.filter fun pool => poolContainsBothMints pool input.nonSolMint NATIVE_SOL_MINT
  let deep := paired.filter fun pool => minTvlUsd ≤ pool.tvl ∨ pool.address = input.targetPoolAddress
  let candidates := deep.map fun pool => (⟨pool,pool.address = input.targetPoolAddress⟩ : SwapSourceCandidate)
  some (candidates.insertionSort fun a b => b.pool.tvl ≤ a.pool.tvl)

-- swap.service.ts
structure SwapIntent where
  sourcePoolAddress : Text
  minAmountOut : Text
  swapForY : Bool
  deriving DecidableEq

structure ValidateSwapIntentInput where
  swapEnabled : Bool
  network : Network
  targetPool : PoolSummary
  swap : Option SwapIntent

structure ValidatedSwapIntent where
  sourcePool : PoolSummary
  minAmountOut : Int
  swapForY : Bool
  deriving DecidableEq

inductive SwapValidationErrorCode where
  | swap_source_equals_target
  | swap_source_unknown
  | swap_source_wrong_pair
  | swap_min_out_invalid
  | swap_disabled
  | swap_required_for_non_sol_pair
  deriving DecidableEq

inductive SwapError where
  | noSwapNeeded (target : Text)
  | swapRequired (target : Text)
  | swapDisabled
  | sourceEqualsTarget (target : Text)
  | unparsable (minAmountOut : Text)
  | notPositive (minAmountOut : Text)
  | sourceUnknown (source : Text)
  | sourceWrongPair (source : Text)
  | indexerFailed
  deriving DecidableEq

def SwapError.code : SwapError → Option SwapValidationErrorCode
  | .noSwapNeeded _ | .swapRequired _ => some .swap_required_for_non_sol_pair
  | .swapDisabled => some .swap_disabled
  | .sourceEqualsTarget _ => some .swap_source_equals_target
  | .unparsable _ | .notPositive _ => some .swap_min_out_invalid
  | .sourceUnknown _ => some .swap_source_unknown
  | .sourceWrongPair _ => some .swap_source_wrong_pair
  | .indexerFailed => none

def isSolMint (mint : Text) : Prop := mint = NATIVE_SOL_MINT

instance (mint : Text) : Decidable (isSolMint mint) := inferInstanceAs (Decidable (_ = _))

def orSwapError (value : Option α) (error : SwapError) : Except SwapError α :=
  match value with
  | some found => .ok found
  | none => .error error

@[simp] theorem orSwapError_ok {value : Option α} : orSwapError value error = .ok found ↔ value = some found := by
  cases value <;> simp [orSwapError]

def parseBigIntOrThrow (text : Text) : Except SwapError Int := orSwapError (bigInt text) (.unparsable text)

-- The token of the target pool that the flag names.
def nonSolMint (targetPool : PoolSummary) (swapForY : Bool) : Text :=
  if swapForY then targetPool.tokenY.mint else targetPool.tokenX.mint

def validateSwapIntent (indexer : Network → Option (List PoolSummary)) (input : ValidateSwapIntentInput) :
    Except SwapError (Option ValidatedSwapIntent) :=
  let target := input.targetPool.address
  if isSolMint input.targetPool.tokenY.mint ∨ isSolMint input.targetPool.tokenX.mint then
    match input.swap with
    | some _ => .error (.noSwapNeeded target)
    | none => .ok none
  else
    match input.swap with
    | none => .error (.swapRequired target)
    | some swap => do
      require (input.swapEnabled = true) SwapError.swapDisabled
      require (¬swap.sourcePoolAddress = target) (SwapError.sourceEqualsTarget target)
      let minOut ← parseBigIntOrThrow swap.minAmountOut
      require (¬minOut ≤ 0) (SwapError.notPositive swap.minAmountOut)
      let candidates ← orSwapError (listSwapSourceCandidates indexer
        ⟨input.network,target,nonSolMint input.targetPool swap.swapForY,none⟩) .indexerFailed
      let found ← orSwapError (candidates.find? fun c => c.pool.address = swap.sourcePoolAddress)
        (.sourceUnknown swap.sourcePoolAddress)
      require (isSolMint found.pool.tokenX.mint ∨ isSolMint found.pool.tokenY.mint)
        (SwapError.sourceWrongPair found.pool.address)
      .ok (some ⟨found.pool,minOut,swap.swapForY⟩)

-- What the DLMM and token packages compute, and the pair an address holds on chain.
structure LbPair where
  tokenXMint : Text
  tokenYMint : Text
  activeId : Int

structure Sdk where
  create : (lbPair : Text) → Option LbPair
  deriveReserve : (mint lbPair : Text) → Text
  deriveOracle : (lbPair : Text) → Text
  binIdToBinArrayIndex : Int → Int
  deriveBinArray : (lbPair : Text) → Int → Text
  getAssociatedTokenAddressSync : (mint owner : Text) → Text

structure AccountMeta where
  pubkey : Text
  isSigner : Bool
  isWritable : Bool
  deriving DecidableEq

-- dlmm-swap.client.ts
def DLMM_PROGRAM_ID : Text := "LBUZKhRxPF3XUpBCjp4YzTKgLccjZhTSDM9YuVaPwxo".toList
def DLMM_EVENT_AUTHORITY : Text := "D1ZN9Wj1fRSUQfCjhvnu1hqDMT7hzjzBBpi12nVniYD6".toList
def TOKEN_PROGRAM_ID : Text := "TokenkegQfeZyiNwAJbNbGKPFXCWuBvf9Ss623VQ5DA".toList

structure BuildSwapTxArgs where
  stealth : Text
  lbPair : Text
  amountIn : Int
  minAmountOut : Int
  swapForY : Bool

structure SwapTx where
  amountIn : Int
  minAmountOut : Int
  stealth : Text
  lbPair : Text
  remainingAccounts : List AccountMeta
  computeUnitLimit : Nat
  userTokenIn : Text
  userTokenOut : Text
  deriving DecidableEq

def buildSwapTx (sdk : Sdk) (args : BuildSwapTxArgs) : Option SwapTx := do
  let lbPair ← sdk.create args.lbPair
  let tokenX := lbPair.tokenXMint
  let tokenY := lbPair.tokenYMint
  let reserveX := sdk.deriveReserve tokenX args.lbPair
  let reserveY := sdk.deriveReserve tokenY args.lbPair
  let oracle := sdk.deriveOracle args.lbPair
  let activeIdx := sdk.binIdToBinArrayIndex lbPair.activeId
  let binArray0 := sdk.deriveBinArray args.lbPair activeIdx
  let binArray1 := sdk.deriveBinArray args.lbPair (activeIdx + if args.swapForY then -1 else 1)
  let inputMint := if args.swapForY then tokenX else tokenY
  let outputMint := if args.swapForY then tokenY else tokenX
  let userTokenIn := sdk.getAssociatedTokenAddressSync inputMint args.stealth
  let userTokenOut := sdk.getAssociatedTokenAddressSync outputMint args.stealth
  some {
    amountIn := args.amountIn
    minAmountOut := args.minAmountOut
    stealth := args.stealth
    lbPair := args.lbPair
    remainingAccounts := [
      ⟨args.lbPair,false,true⟩,
      ⟨DLMM_PROGRAM_ID,false,true⟩,
      ⟨reserveX,false,true⟩,
      ⟨reserveY,false,true⟩,
      ⟨userTokenIn,false,true⟩,
      ⟨userTokenOut,false,true⟩,
      ⟨tokenX,false,false⟩,
      ⟨tokenY,false,false⟩,
      ⟨oracle,false,true⟩,
      ⟨DLMM_PROGRAM_ID,false,true⟩,
      ⟨args.stealth,true,true⟩,
      ⟨TOKEN_PROGRAM_ID,false,false⟩,
      ⟨TOKEN_PROGRAM_ID,false,false⟩,
      ⟨DLMM_EVENT_AUTHORITY,false,false⟩,
      ⟨DLMM_PROGRAM_ID,false,false⟩,
      ⟨binArray0,false,true⟩,
      ⟨binArray1,false,true⟩]
    computeUnitLimit := 1400000
    userTokenIn := userTokenIn
    userTokenOut := userTokenOut
  }

theorem candidate_listed (listed : listSwapSourceCandidates indexer input = some candidates)
    (member : candidate ∈ candidates) : ∃ data, listPools indexer input.network = some data ∧ candidate.pool ∈ data ∧
      poolContainsBothMints candidate.pool input.nonSolMint NATIVE_SOL_MINT := by
  simp only [listSwapSourceCandidates,Option.bind_eq_bind,Option.bind_eq_some_iff,Option.some.injEq] at listed
  obtain ⟨data,answered,rfl⟩ := listed
  obtain ⟨pool,inside,rfl⟩ := List.mem_map.mp ((List.mem_insertionSort _).mp member)
  obtain ⟨paired,_⟩ := List.mem_filter.mp inside
  obtain ⟨there,both⟩ := List.mem_filter.mp paired
  exact ⟨data,answered,there,of_decide_eq_true both⟩

-- Everything an accepted intent was checked for.
structure Accepted (indexer : Network → Option (List PoolSummary)) (input : ValidateSwapIntentInput) (swap : SwapIntent)
    (validated : ValidatedSwapIntent) : Prop where
  asked : input.swap = some swap
  flag : validated.swapForY = swap.swapForY
  found : validated.sourcePool.address = swap.sourcePoolAddress
  elsewhere : validated.sourcePool.address ≠ input.targetPool.address
  positive : 0 < validated.minAmountOut
  written : bigInt swap.minAmountOut = some validated.minAmountOut
  notSol : nonSolMint input.targetPool swap.swapForY ≠ NATIVE_SOL_MINT
  pairs : poolContainsBothMints validated.sourcePool (nonSolMint input.targetPool swap.swapForY) NATIVE_SOL_MINT
  listed : ∃ data, listPools indexer input.network = some data ∧ validated.sourcePool ∈ data

theorem validate_accepts (accepted : validateSwapIntent indexer input = .ok (some validated)) :
    ∃ swap, Accepted indexer input swap validated := by
  unfold validateSwapIntent at accepted
  split at accepted
  · split at accepted
    · cases accepted
    · cases Except.ok.inj accepted
  · rename_i apart
    split at accepted
    · cases accepted
    · rename_i swap asked
      simp only [do_ok,require_ok,orSwapError_ok,parseBigIntOrThrow,Except.ok.injEq,Option.some.injEq] at accepted
      obtain ⟨_,_,_,other,minOut,read,_,positive,candidates,listed,candidate,found,_,_,rfl⟩ := accepted
      have member := List.mem_of_find?_eq_some found
      have named := List.find?_some found
      have address : candidate.pool.address = swap.sourcePoolAddress := of_decide_eq_true named
      obtain ⟨data,answered,inside,both⟩ := candidate_listed listed member
      refine ⟨swap,asked,rfl,address,?_,not_le.mp positive,read,?_,both,data,answered,inside⟩
      · rw [address]
        exact other
      · intro sol
        unfold nonSolMint at sol
        split at sol
        · exact apart (.inl sol)
        · exact apart (.inr sol)

-- The accounts that the DLMM program debits and credits.
def TakesAndPays (sdk : Sdk) (stealth inputMint outputMint : Text) (tx : SwapTx) : Prop :=
  tx.remainingAccounts[4]?.map (·.pubkey) = some (sdk.getAssociatedTokenAddressSync inputMint stealth) ∧
  tx.remainingAccounts[5]?.map (·.pubkey) = some (sdk.getAssociatedTokenAddressSync outputMint stealth)

theorem build_takes {sdk : Sdk} (args : BuildSwapTxArgs) (created : sdk.create args.lbPair = some pair) : ∃ tx, buildSwapTx sdk args = some tx ∧
    TakesAndPays sdk args.stealth (if args.swapForY then pair.tokenXMint else pair.tokenYMint)
      (if args.swapForY then pair.tokenYMint else pair.tokenXMint) tx ∧
    tx.minAmountOut = args.minAmountOut ∧ tx.amountIn = args.amountIn ∧ tx.lbPair = args.lbPair := by
  unfold buildSwapTx
  rw [created]
  exact ⟨_,rfl,⟨rfl,rfl⟩,rfl,rfl,rfl⟩

-- On the pair that the intent names, SOL is token X exactly when the flag is set.
def Oriented (sdk : Sdk) (swap : SwapIntent) : Prop :=
  ∀ pair, sdk.create swap.sourcePoolAddress = some pair →
    (pair.tokenXMint = NATIVE_SOL_MINT ↔ swap.swapForY = true)

-- The indexer names the mints that the pair holds on chain.
def Truthful (sdk : Sdk) (data : List PoolSummary) : Prop :=
  ∀ pool ∈ data, ∃ pair, sdk.create pool.address = some pair ∧
    pair.tokenXMint = pool.tokenX.mint ∧ pair.tokenYMint = pool.tokenY.mint

theorem direction_exact {token x y : Text} (other : token ≠ NATIVE_SOL_MINT)
    (pairs : (x = token ∧ y = NATIVE_SOL_MINT) ∨ (x = NATIVE_SOL_MINT ∧ y = token)) (flag : Bool) :
    ((if flag then x else y) = NATIVE_SOL_MINT ∧ (if flag then y else x) = token) ↔
      (x = NATIVE_SOL_MINT ↔ flag = true) := by
  rcases pairs with ⟨rfl,rfl⟩ | ⟨rfl,rfl⟩
  · cases flag <;> simp [other]
  · cases flag <;> simp [other.symm]

theorem swap_routes (sdk : Sdk) (distinct : ∀ mint other owner,
      sdk.getAssociatedTokenAddressSync mint owner = sdk.getAssociatedTokenAddressSync other owner → mint = other)
    (indexer : Network → Option (List PoolSummary))
    (truthful : ∀ network data, listPools indexer network = some data → Truthful sdk data)
    (accepted : validateSwapIntent indexer input = .ok (some validated)) :
    ∃ swap, input.swap = some swap ∧ validated.swapForY = swap.swapForY ∧
      validated.sourcePool.address = swap.sourcePoolAddress ∧
      validated.sourcePool.address ≠ input.targetPool.address ∧ 0 < validated.minAmountOut ∧
      ∃ token, (token = input.targetPool.tokenX.mint ∨ token = input.targetPool.tokenY.mint) ∧
        token ≠ NATIVE_SOL_MINT ∧ poolContainsBothMints validated.sourcePool token NATIVE_SOL_MINT ∧
        ∀ stealth amountIn, ∃ tx, buildSwapTx sdk ⟨stealth,validated.sourcePool.address,amountIn,
            validated.minAmountOut,validated.swapForY⟩ = some tx ∧
          (TakesAndPays sdk stealth NATIVE_SOL_MINT token tx ↔ Oriented sdk swap) := by
  obtain ⟨swap,checked⟩ := validate_accepts accepted
  obtain ⟨data,answered,inside⟩ := checked.listed
  obtain ⟨pair,created,sameX,sameY⟩ := truthful _ _ answered _ inside
  have sides : nonSolMint input.targetPool swap.swapForY = input.targetPool.tokenX.mint ∨
      nonSolMint input.targetPool swap.swapForY = input.targetPool.tokenY.mint := by
    unfold nonSolMint
    split
    · exact .inr rfl
    · exact .inl rfl
  refine ⟨swap,checked.asked,checked.flag,checked.found,checked.elsewhere,checked.positive,_,sides,checked.notSol,
    checked.pairs,fun stealth amountIn => ?_⟩
  obtain ⟨tx,built,⟨takes,pays⟩,_⟩ := build_takes ⟨stealth,validated.sourcePool.address,amountIn,
    validated.minAmountOut,validated.swapForY⟩ created
  refine ⟨tx,built,?_⟩
  have oriented : Oriented sdk swap ↔ (pair.tokenXMint = NATIVE_SOL_MINT ↔ swap.swapForY = true) := by
    rw [Oriented,← checked.found,created]
    exact ⟨fun all => all pair rfl,fun one other same => Option.some.inj same ▸ one⟩
  have same : ∀ mint other, some (sdk.getAssociatedTokenAddressSync mint stealth) =
      some (sdk.getAssociatedTokenAddressSync other stealth) ↔ mint = other := fun mint other =>
    ⟨fun equal => distinct mint other stealth (Option.some.inj equal),fun equal => equal ▸ rfl⟩
  rw [oriented,TakesAndPays,takes,pays,same,same,checked.flag,sameX,sameY]
  exact direction_exact checked.notSol checked.pairs swap.swapForY

-- A page with one pool of SOL and JUP, for a target of JUP and USDC.
def sampleJup : Text := "JUPyiwrYJFskUPiHa7hkeR8VUtAeFoSYbKedZNsDvCN".toList
def sampleUsdc : Text := "EPjFWdd5AufqSSqeM2qN1xzybapC8G4wEGGkZwyTDt1v".toList
def sampleSource : PoolSummary :=
  ⟨"POOL_SOL_JUP_1111111111111111111111111111".toList,⟨NATIVE_SOL_MINT⟩,⟨sampleJup⟩,1000000⟩
def sampleTarget (mintX mintY : Text) : PoolSummary :=
  ⟨"POOL_JUP_USDC_111111111111111111111111111".toList,⟨mintX⟩,⟨mintY⟩,100000⟩

def sampleIndexer : Network → Option (List PoolSummary) := fun _ => some [sampleSource]

def sampleSdk : Sdk where
  create lbPair := if lbPair = sampleSource.address then some ⟨NATIVE_SOL_MINT,sampleJup,0⟩ else none
  deriveReserve mint lbPair := lbPair ++ mint
  deriveOracle lbPair := "oracle".toList ++ lbPair
  binIdToBinArrayIndex binId := binId / 70
  deriveBinArray lbPair _ := "bin_array".toList ++ lbPair
  getAssociatedTokenAddressSync mint owner := mint ++ owner

def sampleIntent (target : PoolSummary) (swapForY : Bool) : ValidateSwapIntentInput :=
  ⟨true,.mainnet,target,some ⟨sampleSource.address,"1000".toList,swapForY⟩⟩

theorem sample_pair : sampleSdk.create sampleSource.address = some ⟨NATIVE_SOL_MINT,sampleJup,0⟩ := by
  simp only [sampleSdk,if_true]

theorem sample_truthful (network : Network) (data : List PoolSummary)
    (answered : listPools sampleIndexer network = some data) : Truthful sampleSdk data := by
  unfold listPools at answered
  split at answered
  · cases Option.some.inj answered
    exact fun _ member => absurd member List.not_mem_nil
  · cases Option.some.inj answered
    intro pool member
    cases List.mem_singleton.mp member
    exact ⟨_,sample_pair,rfl,rfl⟩

theorem sample_accepted : validateSwapIntent sampleIndexer (sampleIntent (sampleTarget sampleUsdc sampleJup) true) =
    .ok (some ⟨sampleSource,1000,true⟩) := by decide

theorem swap_routes_sample : ∃ tx, buildSwapTx sampleSdk ⟨['S'],sampleSource.address,5,1000,true⟩ = some tx ∧
    TakesAndPays sampleSdk ['S'] NATIVE_SOL_MINT sampleJup tx := by
  obtain ⟨swap,asked,_,_,_,_,token,_,other,pairs,routes⟩ := swap_routes sampleSdk
    (fun mint other owner same => List.append_cancel_right same) sampleIndexer sample_truthful sample_accepted
  obtain ⟨tx,built,exact⟩ := routes ['S'] 5
  cases Option.some.inj asked
  refine ⟨tx,built,?_⟩
  have named : token = sampleJup := by
    rcases pairs with ⟨_,sol⟩ | ⟨_,jup⟩
    · exact absurd sol (by decide)
    · exact jup.symm
  rw [named] at exact
  apply exact.mpr
  intro pair created
  cases Option.some.inj (sample_pair.symm.trans created)
  exact ⟨fun _ => rfl,fun _ => rfl⟩

-- The intent that the validator's own test accepts: the transaction sells JUP for SOL.
theorem jup_sold : validateSwapIntent sampleIndexer (sampleIntent (sampleTarget sampleJup sampleUsdc) false) =
      .ok (some ⟨sampleSource,1000,false⟩) ∧
    ∃ tx, buildSwapTx sampleSdk ⟨['S'],sampleSource.address,5,1000,false⟩ = some tx ∧
      TakesAndPays sampleSdk ['S'] sampleJup NATIVE_SOL_MINT tx ∧
      ¬TakesAndPays sampleSdk ['S'] NATIVE_SOL_MINT sampleJup tx := by
  refine ⟨by decide,?_⟩
  obtain ⟨tx,built,⟨takes,pays⟩,_⟩ := build_takes ⟨['S'],sampleSource.address,5,1000,false⟩ sample_pair
  refine ⟨tx,built,⟨takes,pays⟩,?_⟩
  rintro ⟨wrong,_⟩
  have same := Option.some.inj (wrong.symm.trans takes)
  revert same
  decide

end Octora.Executor.Swap
