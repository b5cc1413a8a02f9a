import Octora.Executor.LiquidityParams
import Octora.ExecutorProgram.Settled

namespace Octora.ExecutorProgram
open BigEndian Borsh Codec Calls Fallible LittleEndian
open Executor (TestPairConfig DistributionShape SingleSidedRangeError planSingleSidedSol addLiquidityInput)
open Executor.LiquidityParams (RangeError encodeLiquidityParamsByStrategy)

-- executor.service.ts
def DLMM_EVENT_AUTHORITY : Pubkey := Bytes.ofNat 32 0xb270d67fa98c51cf0213051358962baf35742bed59c9d9445e9c0d0c85c7cd91
def NATIVE_MINT : Pubkey := Bytes.ofNat 32 0x069b8857feab8184fb687f634618c035dac439dc1aeb3b5598a0f00000000001

example : DLMM_EVENT_AUTHORITY = pubkey "D1ZN9Wj1fRSUQfCjhvnu1hqDMT7hzjzBBpi12nVniYD6" := by decide +kernel
example : NATIVE_MINT = pubkey "So11111111111111111111111111111111111111112" := by decide +kernel

-- The relayer key, and what the token and DLMM libraries derive.
structure ExecutorService where
  relayer : Pubkey
  associatedToken : (mint owner : Pubkey) → Pubkey
  isOnCurve : Pubkey → Bool
  deriveReserve : (mint lbPair : Pubkey) → Pubkey

inductive BuildError where
  | missing (account : Pubkey)
  | undecodable (account : Pubkey)
  | notDlmm
  | stale (authority position : Pubkey)
  | ownerOffCurve (owner : Pubkey)
  | noSolSide
  | plan (error : SingleSidedRangeError)
  | range (error : RangeError)
  deriving DecidableEq

-- web3.js: no account, or what it holds.
def getAccountInfo (chain : Store) (key : Pubkey) : Option Account :=
  if chain key = ⟨0,SYSTEM_PROGRAM_ID,[],false⟩ then none else some (chain key)

-- Anchor's `fetch` looks at the data alone.
def fetchPoolAuthority (chain : Store) (pda : Pubkey) : Except BuildError PoolAuthority :=
  match getAccountInfo chain pda with
  | none => .error (.missing pda)
  | some account =>
    if account.data = [] then .error (.missing pda) else
    match PoolAuthority.layout.read account.data with
    | some pa => .ok pa
    | none => .error (.undecodable pda)

def fetchPositionFromAuthority (chain : Store) (pda : Pubkey) : Except BuildError Pubkey := do
  let pa ← fetchPoolAuthority chain pda
  match pa.poolRef with
  | .Dlmm _ position => .ok position
  | .Damm _ _ _ => .error .notDlmm

def derivePoolAuthorityPda (env : Runtime) (stealth lbPair : Pubkey) : Pubkey :=
  (env.findProgramAddress (authoritySeeds stealth lbPair) ID).1

def configPda (env : Runtime) : Pubkey := (env.findProgramAddress [CONFIG_SEED] ID).1

-- What Anchor encodes an i32 or a `Vec<u8>` argument from.
def asI32 (value : Int) : Except BuildError Int32 := do
  require (-(2 ^ 31) ≤ value ∧ value < 2 ^ 31) (BuildError.range (.ERR_OUT_OF_RANGE value))
  .ok (Int32.ofInt value)

def asVec (items : List UInt8) : Except BuildError Vec :=
  if short : items.length < 256 ^ 4 then .ok ⟨items,short⟩ else .error (.range .ERR_BUFFER_OUT_OF_BOUNDS)

-- What a builder returns: the instruction, and the flags of the accounts behind
-- the ones its struct names.
structure Built where
  instruction : Instruction
  metas : List AccountMeta

def readonly (key : Pubkey) : AccountMeta := ⟨key,false,false⟩
def writable (key : Pubkey) : AccountMeta := ⟨key,false,true⟩
def signing (key : Pubkey) : AccountMeta := ⟨key,true,true⟩

def keysOf (metas : List AccountMeta) : List Pubkey := metas.map AccountMeta.pubkey

inductive InitPositionTx where
  | alreadyInitialized (position positionAuthority : Pubkey)
  | transaction (built : Built) (position positionAuthority : Pubkey)

namespace ExecutorService
variable (service : ExecutorService) (env : Runtime) (chain : Store)

def getAssociatedTokenAddress (mint owner : Pubkey) (allowOwnerOffCurve : Bool) : Except BuildError Pubkey := do
  require (allowOwnerOffCurve = true ∨ service.isOnCurve owner = true) (BuildError.ownerOffCurve owner)
  .ok (service.associatedToken mint owner)

def initPositionMetas (position lbPair positionAuthority : Pubkey) : List AccountMeta :=
  [signing service.relayer,signing position,readonly lbPair,readonly positionAuthority,readonly SYSTEM_PROGRAM_ID,
    readonly RENT_ID,readonly DLMM_EVENT_AUTHORITY,readonly DLMM_PROGRAM_ID]

-- The sixteen accounts that liquidity is added and removed with, and the fourteen
-- that fees are claimed with.
def addLiquidityMetas (config : TestPairConfig) (position positionAuthority ataX ataY : Pubkey) : List AccountMeta :=
  [writable position,writable config.lbPair,readonly DLMM_PROGRAM_ID,writable ataX,writable ataY,
    writable (service.deriveReserve config.tokenX config.lbPair),writable (service.deriveReserve config.tokenY config.lbPair),
    readonly config.tokenX,readonly config.tokenY,writable config.binArrayLower,writable config.binArrayUpper,
    readonly positionAuthority,readonly SPL_TOKEN_PROGRAM_ID,readonly SPL_TOKEN_PROGRAM_ID,readonly DLMM_EVENT_AUTHORITY,
    readonly DLMM_PROGRAM_ID]

def claimFeesMetas (config : TestPairConfig) (position positionAuthority ataX ataY : Pubkey) : List AccountMeta :=
  [writable config.lbPair,writable position,writable config.binArrayLower,writable config.binArrayUpper,
    readonly positionAuthority,writable (service.deriveReserve config.tokenX config.lbPair),
    writable (service.deriveReserve config.tokenY config.lbPair),writable ataX,writable ataY,readonly config.tokenX,
    readonly config.tokenY,readonly SPL_TOKEN_PROGRAM_ID,readonly DLMM_EVENT_AUTHORITY,readonly DLMM_PROGRAM_ID]

-- `position` is the key pair generated for this call.
def initPositionTransaction (position stealth lbPair exitRecipient : Pubkey) (lowerBinId width : Int) :
    Except BuildError InitPositionTx := do
  let positionAuthority := derivePoolAuthorityPda env stealth lbPair
  let lower ← asI32 lowerBinId
  let width ← asI32 width
  let metas := service.initPositionMetas position lbPair positionAuthority
  .ok (.transaction ⟨.dlmmInitPosition
    ⟨stealth,positionAuthority,lbPair,DLMM_PROGRAM_ID,configPda env,SYSTEM_PROGRAM_ID⟩ (keysOf metas) lower width
    exitRecipient,metas⟩ position positionAuthority)

def buildInitPositionTx (position stealth lbPair exitRecipient : Pubkey) (lowerBinId width : Int) :
    Except BuildError InitPositionTx := do
  let positionAuthority := derivePoolAuthorityPda env stealth lbPair
  match getAccountInfo chain positionAuthority with
  | some _ => do
    let recorded ← fetchPositionFromAuthority chain positionAuthority
    match getAccountInfo chain recorded with
    | none => .error (.stale positionAuthority recorded)
    | some _ => .ok (.alreadyInitialized recorded positionAuthority)
  | none => service.initPositionTransaction env position stealth lbPair exitRecipient lowerBinId width

def poolAccounts (stealth lbPair : Pubkey) : PoolAccounts :=
  ⟨stealth,derivePoolAuthorityPda env stealth lbPair,lbPair,DLMM_PROGRAM_ID,configPda env⟩

def buildAddLiquidityTx (stealth : Pubkey) (config : TestPairConfig) (totalSolLamports : Int) (shape : DistributionShape) :
    Except BuildError Built := do
  let positionAuthority := derivePoolAuthorityPda env stealth config.lbPair
  let solIsTokenX := decide (config.tokenX = NATIVE_MINT)
  require (config.tokenX = NATIVE_MINT ∨ config.tokenY = NATIVE_MINT) BuildError.noSolSide
  let plan ← (planSingleSidedSol (addLiquidityInput config totalSolLamports shape solIsTokenX)).mapError .plan
  let position ← fetchPositionFromAuthority chain positionAuthority
  let pdaAtaX ← service.getAssociatedTokenAddress config.tokenX positionAuthority true
  let pdaAtaY ← service.getAssociatedTokenAddress config.tokenY positionAuthority true
  let _ ← service.getAssociatedTokenAddress NATIVE_MINT stealth false
  let liquidityParams ← (encodeLiquidityParamsByStrategy {
    amountX := plan.amountX
    amountY := plan.amountY
    activeId := config.activeBin
    maxActiveBinSlippage := 5
    minBinId := plan.minBinId
    maxBinId := plan.maxBinId
    strategyType := plan.strategyType }).mapError .range
  let params ← asVec liquidityParams
  let metas := service.addLiquidityMetas config position positionAuthority pdaAtaX pdaAtaY
  .ok ⟨.dlmmAddLiquidity (poolAccounts env stealth config.lbPair) (keysOf metas) params,metas⟩

def buildClaimFeesTx (stealth : Pubkey) (config : TestPairConfig) : Except BuildError Built := do
  let positionAuthority := derivePoolAuthorityPda env stealth config.lbPair
  let pa ← fetchPoolAuthority chain positionAuthority
  let position ← fetchPositionFromAuthority chain positionAuthority
  let exitAtaX ← service.getAssociatedTokenAddress config.tokenX pa.exitRecipient false
  let exitAtaY ← service.getAssociatedTokenAddress config.tokenY pa.exitRecipient false
  let metas := service.claimFeesMetas config position positionAuthority exitAtaX exitAtaY
  .ok ⟨.dlmmClaimFees (poolAccounts env stealth config.lbPair) (keysOf metas),metas⟩

def buildWithdrawCloseTx (stealth : Pubkey) (config : TestPairConfig) : Except BuildError Built := do
  let positionAuthority := derivePoolAuthorityPda env stealth config.lbPair
  let pa ← fetchPoolAuthority chain positionAuthority
  let exitAtaX ← service.getAssociatedTokenAddress config.tokenX pa.exitRecipient false
  let exitAtaY ← service.getAssociatedTokenAddress config.tokenY pa.exitRecipient false
  let position ← fetchPositionFromAuthority chain positionAuthority
  let metas := service.addLiquidityMetas config position positionAuthority exitAtaX exitAtaY ++ [writable pa.exitRecipient]
  let lower ← asI32 config.lowerBinId
  let upper ← asI32 config.upperBinId
  .ok ⟨.dlmmWithdrawClose (poolAccounts env stealth config.lbPair) (keysOf metas) lower upper 10000,metas⟩

end ExecutorService

end Octora.ExecutorProgram
