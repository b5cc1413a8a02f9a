import Octora.ExecutorProgram.Accounts

namespace Octora.ExecutorProgram
open BigEndian Borsh Codec Calls Fallible LittleEndian

section Handlers
variable {env : Runtime} (message : Message env) (store : Store)

def requireSigner (key : Pubkey) : Except Error Unit := require (message.isSigner key = true) Error.accountNotSigner

def requireMut (key : Pubkey) : Except Error Unit := require (message.isWritable key = true) Error.constraintMut

-- Anchor's `Program<System>`.
def requireSystem (key : Pubkey) : Except Error Unit := do
  require (key = SYSTEM_PROGRAM_ID) Error.invalidProgramId
  require ((store key).executable = true) Error.invalidProgramExecutable

-- instructions/admin.rs
structure InitConfig where
  authority : Pubkey
  config : Pubkey
  systemProgram : Pubkey

def initConfig (accounts : InitConfig) : Except Error Store := do
  requireSigner message accounts.authority
  requireSystem store accounts.systemProgram
  let (created,bump) ← initAccount env message store accounts.authority accounts.config [CONFIG_SEED] Config.SPACE
  requireMut message accounts.authority
  require (env.permissionlessInit = true ∨ accounts.authority = EXECUTOR_ADMIN_AUTHORITY) (Error.executor .Unauthorized)
  save Config.layout created accounts.config ⟨accounts.authority,false,bump⟩

structure SetPaused where
  authority : Pubkey
  config : Pubkey

def setPaused (accounts : SetPaused) (paused : Bool) : Except Error Store := do
  requireSigner message accounts.authority
  let config ← loadConfig store accounts.config
  requireMut message accounts.config
  require (seedsHold env [CONFIG_SEED] config.bump accounts.config) Error.constraintSeeds
  require (config.authority = accounts.authority) (Error.executor .Unauthorized)
  save Config.layout store accounts.config { config with paused := paused }

-- The constraints on `config` that every DLMM instruction shares.
def requireActive (env : Runtime) (key : Pubkey) : Except Error Unit := do
  let config ← loadConfig store key
  require (seedsHold env [CONFIG_SEED] config.bump key) Error.constraintSeeds
  require (config.paused = false) (Error.executor .Paused)

def authoritySeeds (stealth lbPair : Pubkey) : List (List UInt8) := [POOL_AUTHORITY_SEED,stealth.toList,lbPair.toList]

-- Every index is below the length that the handler has checked.
def slot (remaining : List Pubkey) (i : Nat) : Pubkey := remaining.getD i SYSTEM_PROGRAM_ID

def requireKeys (key expected : Pubkey) (error : ExecutorError) : Except Error Unit :=
  require (key = expected) (Error.executor error)

-- The account infos are forwarded with their own flags, but for the slot that the
-- PoolAuthority signs in.
def metaOf (remaining : List Pubkey) (pa : Pubkey) (signerIdx i : Nat) : AccountMeta :=
  let key := slot remaining i
  if i = signerIdx then ⟨pa,true,message.isWritable key⟩ else ⟨key,message.isSigner key,message.isWritable key⟩

def buildMetas (remaining : List Pubkey) (pa : Pubkey) (signerIdx : Nat) (indices : List Nat) : List AccountMeta :=
  indices.map (metaOf message remaining pa signerIdx)

-- instructions/dlmm/init_position.rs
structure DlmmInitPosition where
  stealth : Pubkey
  poolAuthority : Pubkey
  lbPair : Pubkey
  dlmmProgram : Pubkey
  config : Pubkey
  systemProgram : Pubkey

def initPositionAccounts (accounts : DlmmInitPosition) : Except Error (Store × UInt8) := do
  requireSigner message accounts.stealth
  let _ ← loadConfig store accounts.config
  requireSystem store accounts.systemProgram
  let created ← initAccount env message store accounts.stealth accounts.poolAuthority
    (authoritySeeds accounts.stealth accounts.lbPair) PoolAuthority.SPACE
  requireMut message accounts.stealth
  requireActive store env accounts.config
  .ok created

def initPositionChecks (accounts : DlmmInitPosition) (remaining : List Pubkey) : Except Error Unit := do
  requireDlmmProgram accounts.dlmmProgram
  require (remaining.length = 8) (Error.executor .AccountsTooShort)
  require (message.isSigner (slot remaining 1) = true) (Error.executor .MissingPositionSigner)
  requireKeys accounts.lbPair (slot remaining 2) .LbPairMismatch
  requireSystemProgram (slot remaining 4)
  requireRentSysvar message store (slot remaining 5)
  requireDlmmEventAuthority env (slot remaining 6)
  requireDlmmProgram (slot remaining 7)

def initPositionIx (accounts : DlmmInitPosition) (remaining : List Pubkey) (bump : UInt8) (lowerBinId width : Int32) : Cpi :=
  buildDlmmIx env "initialize_position" (buildMetas message remaining accounts.poolAuthority 3 (List.range remaining.length))
    (signedBytes 4 lowerBinId.toInt ++ signedBytes 4 width.toInt) (remaining.set 3 accounts.poolAuthority)
    (some (authoritySeeds accounts.stealth (slot remaining 2) ++ [[bump]]))

def initPosition (accounts : DlmmInitPosition) (remaining : List Pubkey) (lowerBinId width : Int32)
    (exitRecipient : Pubkey) : Handler Store := do
  let (created,bump) ← Op.lift (initPositionAccounts message store accounts)
  Op.lift (initPositionChecks message created accounts remaining)
  let after ← invoke message (initPositionIx message accounts remaining bump lowerBinId width) created
  -- the fields are set before the call and reach the account when the handler exits
  Op.lift (save PoolAuthority.layout after accounts.poolAuthority
    ⟨accounts.stealth,exitRecipient,.Dlmm (slot remaining 2) (slot remaining 1),bump⟩)

-- The accounts and constraints that add_liquidity, claim_fees and withdraw_close share.
structure PoolAccounts where
  stealth : Pubkey
  poolAuthority : Pubkey
  lbPair : Pubkey
  dlmmProgram : Pubkey
  config : Pubkey

def poolAuthorityOf (accounts : PoolAccounts) : Except Error PoolAuthority := do
  requireSigner message accounts.stealth
  let pa ← loadPoolAuthority store accounts.poolAuthority
  require (seedsHold env (authoritySeeds accounts.stealth accounts.lbPair) pa.bump accounts.poolAuthority)
    Error.constraintSeeds
  require (pa.stealthPubkey = accounts.stealth) (Error.executor .StealthMismatch)
  requireActive store env accounts.config
  .ok pa

def dlmmRef (pa : PoolAuthority) : Except Error (Pubkey × Pubkey) :=
  match pa.poolRef with
  | .Dlmm lbPair position => .ok (lbPair,position)
  | .Damm _ _ _ => .error (.executor .InvalidPoolRefType)

def signerSeeds (accounts : PoolAccounts) (lbPair : Pubkey) (bump : UInt8) : List (List UInt8) :=
  authoritySeeds accounts.stealth lbPair ++ [[bump]]

-- instructions/dlmm/add_liquidity.rs
def addLiquidityChecks (env : Runtime) (accounts : PoolAccounts) (remaining : List Pubkey) (pa : PoolAuthority) :
    Except Error (Pubkey × Pubkey) := do
  requireDlmmProgram accounts.dlmmProgram
  require (remaining.length = 16) (Error.executor .AccountsTooShort)
  let (lbPair,position) ← dlmmRef pa
  requireKeys (slot remaining 0) position .PositionMismatch
  requireKeys (slot remaining 1) lbPair .LbPairMismatch
  requireKeys (slot remaining 1) accounts.lbPair .LbPairMismatch
  requireTokenAccountMint store (slot remaining 3) (slot remaining 7)
  requireTokenAccountMint store (slot remaining 4) (slot remaining 8)
  requireSplTokenProgram (slot remaining 12)
  requireSplTokenProgram (slot remaining 13)
  requireDlmmEventAuthority env (slot remaining 14)
  requireDlmmProgram (slot remaining 15)
  .ok (lbPair,position)

def addLiquidityIx (accounts : PoolAccounts) (remaining : List Pubkey) (lbPair : Pubkey) (bump : UInt8)
    (liquidityParams : List UInt8) : Cpi :=
  buildDlmmIx env "add_liquidity_by_strategy"
    (buildMetas message remaining accounts.poolAuthority 11 (List.range remaining.length)) liquidityParams
    (remaining.set 11 accounts.poolAuthority) (some (signerSeeds accounts lbPair bump))

def addLiquidity (accounts : PoolAccounts) (remaining : List Pubkey) (liquidityParams : List UInt8) : Handler Store := do
  let pa ← Op.lift (poolAuthorityOf message store accounts)
  let (lbPair,_) ← Op.lift (addLiquidityChecks store env accounts remaining pa)
  invoke message (addLiquidityIx message accounts remaining lbPair pa.bump liquidityParams) store

-- instructions/dlmm/claim_fees.rs
def claimFeesChecks (env : Runtime) (accounts : PoolAccounts) (remaining : List Pubkey) (pa : PoolAuthority) :
    Except Error (Pubkey × Pubkey) := do
  requireDlmmProgram accounts.dlmmProgram
  require (remaining.length = 14) (Error.executor .AccountsTooShort)
  let (lbPair,position) ← dlmmRef pa
  requireKeys (slot remaining 0) lbPair .LbPairMismatch
  requireKeys (slot remaining 1) position .PositionMismatch
  requireTokenAccountOwner store (slot remaining 7) pa.exitRecipient
  requireTokenAccountOwner store (slot remaining 8) pa.exitRecipient
  requireTokenAccountMint store (slot remaining 7) (slot remaining 9)
  requireTokenAccountMint store (slot remaining 8) (slot remaining 10)
  requireSplTokenProgram (slot remaining 11)
  requireDlmmEventAuthority env (slot remaining 12)
  requireDlmmProgram (slot remaining 13)
  requireKeys accounts.lbPair lbPair .LbPairMismatch
  .ok (lbPair,position)

def claimFeesIx (accounts : PoolAccounts) (remaining : List Pubkey) (lbPair : Pubkey) (bump : UInt8) : Cpi :=
  buildDlmmIx env "claim_fee" (buildMetas message remaining accounts.poolAuthority 4 (List.range remaining.length)) []
    (remaining.set 4 accounts.poolAuthority) (some (signerSeeds accounts lbPair bump))

def claimFees (accounts : PoolAccounts) (remaining : List Pubkey) : Handler Store := do
  let pa ← Op.lift (poolAuthorityOf message store accounts)
  let (lbPair,_) ← Op.lift (claimFeesChecks store env accounts remaining pa)
  invoke message (claimFeesIx message accounts remaining lbPair pa.bump) store

-- instructions/dlmm/withdraw_close.rs
def withdrawAccounts (accounts : PoolAccounts) : Except Error PoolAuthority := do
  let pa ← poolAuthorityOf message store accounts
  requireMut message accounts.stealth
  requireMut message accounts.poolAuthority
  require (accounts.poolAuthority ≠ accounts.stealth) Error.constraintClose
  .ok pa

def withdrawCloseChecks (env : Runtime) (accounts : PoolAccounts) (remaining : List Pubkey) (fromBinId toBinId : Int32)
    (bpsToRemove : UInt16) (pa : PoolAuthority) : Except Error (Pubkey × Pubkey) := do
  require (fromBinId ≤ toBinId) (Error.executor .ArgOutOfRange)
  require (0 < bpsToRemove ∧ bpsToRemove ≤ 10000) (Error.executor .ArgOutOfRange)
  requireDlmmProgram accounts.dlmmProgram
  require (remaining.length = 17) (Error.executor .AccountsTooShort)
  let (lbPair,position) ← dlmmRef pa
  requireKeys (slot remaining 0) position .PositionMismatch
  requireKeys (slot remaining 1) lbPair .LbPairMismatch
  requireTokenAccountOwner store (slot remaining 3) pa.exitRecipient
  requireTokenAccountOwner store (slot remaining 4) pa.exitRecipient
  requireTokenAccountMint store (slot remaining 3) (slot remaining 7)
  requireTokenAccountMint store (slot remaining 4) (slot remaining 8)
  requireSplTokenProgram (slot remaining 12)
  requireSplTokenProgram (slot remaining 13)
  requireDlmmEventAuthority env (slot remaining 14)
  requireDlmmProgram (slot remaining 15)
  requireKeys (slot remaining 16) pa.exitRecipient .ExitRecipientMismatch
  require (slot remaining 16 ≠ slot remaining 0) (Error.executor .PositionMismatch)
  require (slot remaining 16 ≠ slot remaining 1) (Error.executor .LbPairMismatch)
  requireKeys accounts.lbPair lbPair .LbPairMismatch
  .ok (lbPair,position)

def removeLiquidityIx (accounts : PoolAccounts) (remaining : List Pubkey) (lbPair : Pubkey) (bump : UInt8)
    (fromBinId toBinId : Int32) (bpsToRemove : UInt16) : Cpi :=
  buildDlmmIx env "remove_liquidity_by_range"
    (buildMetas message remaining accounts.poolAuthority 11 (List.range 16))
    (signedBytes 4 fromBinId.toInt ++ signedBytes 4 toBinId.toInt ++ bytes 2 bpsToRemove.toNat)
    (remaining.set 11 accounts.poolAuthority) (some (signerSeeds accounts lbPair bump))

def closePositionIx (accounts : PoolAccounts) (remaining : List Pubkey) (lbPair : Pubkey) (bump : UInt8) : Cpi :=
  buildDlmmIx env "close_position"
    (buildMetas message remaining accounts.poolAuthority 11 [0,1,9,10,11,16,14,15]) []
    (remaining.set 11 accounts.poolAuthority) (some (signerSeeds accounts lbPair bump))

def withdrawClose (accounts : PoolAccounts) (remaining : List Pubkey) (fromBinId toBinId : Int32)
    (bpsToRemove : UInt16) : Handler Store := do
  let pa ← Op.lift (withdrawAccounts message store accounts)
  let (lbPair,_) ← Op.lift (withdrawCloseChecks store env accounts remaining fromBinId toBinId bpsToRemove pa)
  let removed ← invoke message
    (removeLiquidityIx message accounts remaining lbPair pa.bump fromBinId toBinId bpsToRemove) store
  let closed ← invoke message (closePositionIx message accounts remaining lbPair pa.bump) removed
  Op.lift (closeAccount closed accounts.poolAuthority accounts.stealth)

-- instructions/dlmm/swap.rs
structure DlmmSwap where
  stealth : Pubkey
  dlmmProgram : Pubkey
  lbPair : Pubkey
  config : Pubkey

def MIN_REMAINING : Nat := 16

def swapAccounts (accounts : DlmmSwap) : Except Error Unit := do
  requireSigner message accounts.stealth
  let _ ← loadConfig store accounts.config
  requireMut message accounts.stealth
  requireActive store env accounts.config

-- The result is the balance of the output account before the swap.
def swapChecks (accounts : DlmmSwap) (remaining : List Pubkey) (amountIn minAmountOut : UInt64) : Except Error Nat := do
  require (0 < amountIn ∧ 0 < minAmountOut) (Error.executor .ArgOutOfRange)
  requireDlmmProgram accounts.dlmmProgram
  require (MIN_REMAINING ≤ remaining.length) (Error.executor .AccountsTooShort)
  requireKeys (slot remaining 0) accounts.lbPair .LbPairMismatch
  requireTokenAccountOwner store (slot remaining 4) accounts.stealth
  requireTokenAccountOwner store (slot remaining 5) accounts.stealth
  require (slot remaining 4 ≠ slot remaining 5) (Error.executor .TokenMintMismatch)
  requireKeys (slot remaining 10) accounts.stealth .StealthMismatch
  require (message.isSigner (slot remaining 10) = true) (Error.executor .StealthMismatch)
  requireSplTokenProgram (slot remaining 11)
  requireSplTokenProgram (slot remaining 12)
  let inMint ← readTokenAccountMint store (slot remaining 4)
  let outMint ← readTokenAccountMint store (slot remaining 5)
  require ((inMint = slot remaining 6 ∧ outMint = slot remaining 7) ∨
    (inMint = slot remaining 7 ∧ outMint = slot remaining 6)) (Error.executor .TokenMintMismatch)
  requireDlmmEventAuthority env (slot remaining 13)
  requireDlmmProgram (slot remaining 14)
  readTokenAccountAmount store (slot remaining 5)

-- Each slot's flags are fixed; the bin arrays from 15 on are always writable.
def swapMeta (remaining : List Pubkey) (i : Nat) : AccountMeta :=
  ⟨slot remaining i,decide (i = 10),decide (i ∉ [6,7,11,12,13,14])⟩

def swapIx (env : Runtime) (remaining : List Pubkey) (amountIn minAmountOut : UInt64) : Cpi :=
  buildDlmmIx env "swap" ((List.range remaining.length).map (swapMeta remaining))
    (bytes 8 amountIn.toNat ++ bytes 8 minAmountOut.toNat) remaining none

def requireReceived (after : Store) (remaining : List Pubkey) (preOut : Nat) (minAmountOut : UInt64) :
    Except Error Store := do
  let postOut ← readTokenAccountAmount after (slot remaining 5)
  require (preOut ≤ postOut) (Error.executor .ArgOutOfRange)
  require (minAmountOut.toNat ≤ postOut - preOut) (Error.executor .SwapSlippageExceeded)
  .ok after

def swap (accounts : DlmmSwap) (remaining : List Pubkey) (amountIn minAmountOut : UInt64) : Handler Store := do
  Op.lift (swapAccounts message store accounts)
  let preOut ← Op.lift (swapChecks message store accounts remaining amountIn minAmountOut)
  let after ← invoke message (swapIx env remaining amountIn minAmountOut) store
  Op.lift (requireReceived after remaining preOut minAmountOut)

end Handlers

inductive Instruction where
  | initConfig (accounts : InitConfig)
  | setPaused (accounts : SetPaused) (paused : Bool)
  | dlmmInitPosition (accounts : DlmmInitPosition) (remaining : List Pubkey) (lowerBinId width : Int32)
      (exitRecipient : Pubkey)
  | dlmmAddLiquidity (accounts : PoolAccounts) (remaining : List Pubkey) (liquidityParams : Vec)
  | dlmmClaimFees (accounts : PoolAccounts) (remaining : List Pubkey)
  | dlmmWithdrawClose (accounts : PoolAccounts) (remaining : List Pubkey) (fromBinId toBinId : Int32)
      (bpsToRemove : UInt16)
  | dlmmSwap (accounts : DlmmSwap) (remaining : List Pubkey) (amountIn minAmountOut : UInt64)

def handle {env : Runtime} (message : Message env) (store : Store) : Instruction → Handler Store
  | .initConfig accounts => Op.lift (initConfig message store accounts)
  | .setPaused accounts paused => Op.lift (setPaused message store accounts paused)
  | .dlmmInitPosition accounts remaining lowerBinId width exitRecipient =>
    initPosition message store accounts remaining lowerBinId width exitRecipient
  | .dlmmAddLiquidity accounts remaining liquidityParams =>
    addLiquidity message store accounts remaining liquidityParams.val
  | .dlmmClaimFees accounts remaining => claimFees message store accounts remaining
  | .dlmmWithdrawClose accounts remaining fromBinId toBinId bpsToRemove =>
    withdrawClose message store accounts remaining fromBinId toBinId bpsToRemove
  | .dlmmSwap accounts remaining amountIn minAmountOut => swap message store accounts remaining amountIn minAmountOut

-- What the DLMM program makes of a call.
abbrev Dlmm := Cpi × Store → Except Error Store

def execute {env : Runtime} (message : Message env) (dlmm : Dlmm) (store : Store) (instruction : Instruction) :
    Except Error Store :=
  (handle message store instruction).run dlmm

end Octora.ExecutorProgram
