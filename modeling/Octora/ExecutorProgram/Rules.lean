import Octora.ExecutorProgram.Instructions

namespace Octora.ExecutorProgram
open BigEndian Borsh Codec Calls Fallible LittleEndian

-- Only its owner writes an account's data or gives it away, and an account
-- changes hands zeroed.
structure Confined (before after : Store) : Prop where
  kept : ∀ key, (before key).owner = ID → (after key).owner = ID ∧ (after key).data = (before key).data
  zeroed : ∀ key, (before key).owner ≠ ID → (after key).owner = ID → ∀ byte ∈ (after key).data, byte = 0

-- The rest of the chain: what a call to DLMM may leave behind, and what happens
-- between the program's instructions. The runtime confines both.
structure World where
  calls : Cpi → Store → Store → Prop
  elsewhere : Store → Store → Prop
  callsConfined : ∀ cpi before after, calls cpi before after → Confined before after
  elsewhereConfined : ∀ before after, elsewhere before after → Confined before after

def World.Answers (world : World) (query : Cpi × Store) (_ : Unit) (answer : Except Error Store) (_ : Unit) : Prop :=
  ∀ after, answer = .ok after → world.calls query.1 query.2 after

section Confinement
variable {before after : Store}

theorem confined_holds {layout : Codec α} (confined : Confined before after)
    (unzeroed : ∀ bytes, (∀ byte ∈ bytes, byte = 0) → layout.read bytes = none) (key : Pubkey) :
    holds layout after key = holds layout before key := by
  by_cases owned : (before key).owner = ID
  · obtain ⟨still,same⟩ := confined.kept key owned
    rw [holds,holds,if_pos still,if_pos owned,same]
  · rw [holds,holds,if_neg owned]
    split
    · rename_i mine
      exact unzeroed _ (confined.zeroed key owned mine)
    · rfl

theorem confined_authority (confined : Confined before after) : authorityAt after = authorityAt before :=
  funext (confined_holds confined fun _ => poolAuthority_unzeroed)

theorem confined_config (confined : Confined before after) : configAt after = configAt before :=
  funext (confined_holds confined fun _ => config_unzeroed)

end Confinement

section Checks
variable {env : Runtime} {message : Message env} {store : Store}

-- The config account is the derived one, and it is not paused.
structure Active (env : Runtime) (store : Store) (key : Pubkey) (config : Config) : Prop where
  stored : configAt store key = some config
  derived : seedsHold env [CONFIG_SEED] config.bump key
  running : config.paused = false

theorem requireActive_ok : requireActive store env key = .ok u ↔ ∃ config, Active env store key config := by
  simp only [requireActive,do_ok,require_ok,exists_const,loadConfig_ok]
  constructor
  · rintro ⟨config,stored,derived,running⟩
    exact ⟨config,stored,derived,running⟩
  · rintro ⟨config,active⟩
    exact ⟨config,active.stored,active.derived,active.running⟩

structure Guarded (message : Message env) (store : Store) (accounts : PoolAccounts) (pa : PoolAuthority) : Prop where
  signed : message.isSigner accounts.stealth = true
  stored : authorityAt store accounts.poolAuthority = some pa
  derived : seedsHold env (authoritySeeds accounts.stealth accounts.lbPair) pa.bump accounts.poolAuthority
  stealth : pa.stealthPubkey = accounts.stealth
  active : ∃ config, Active env store accounts.config config

theorem poolAuthorityOf_ok : poolAuthorityOf message store accounts = .ok pa ↔ Guarded message store accounts pa := by
  simp only [poolAuthorityOf,requireSigner,do_ok,require_ok,exists_const,loadPoolAuthority_ok,requireActive_ok]
  constructor
  · rintro ⟨signed,found,stored,derived,stealth,active,same⟩
    cases same
    exact ⟨signed,stored,derived,stealth,active⟩
  · intro guarded
    exact ⟨guarded.signed,pa,guarded.stored,guarded.derived,guarded.stealth,guarded.active,rfl⟩

theorem dlmmRef_ok : dlmmRef pa = .ok (lbPair,position) ↔ pa.poolRef = .Dlmm lbPair position := by
  unfold dlmmRef
  cases pa.poolRef <;> simp

-- A token account's fields, once it is long enough.
def ownedBy (store : Store) (tokenAccount owner : Pubkey) : Prop := readTokenAccountOwner store tokenAccount = .ok owner
def ofMint (store : Store) (tokenAccount mint : Pubkey) : Prop := readTokenAccountMint store tokenAccount = .ok mint

instance : Decidable (ownedBy store tokenAccount owner) := inferInstanceAs (Decidable (_ = _))
instance : Decidable (ofMint store tokenAccount mint) := inferInstanceAs (Decidable (_ = _))

@[simp] theorem requireTokenAccountOwner_ok :
    requireTokenAccountOwner store tokenAccount owner = .ok u ↔ ownedBy store tokenAccount owner := by
  simp [requireTokenAccountOwner,ownedBy]

@[simp] theorem requireTokenAccountMint_ok :
    requireTokenAccountMint store tokenAccount mint = .ok u ↔ ofMint store tokenAccount mint := by
  simp [requireTokenAccountMint,ofMint]

@[simp] theorem requireKeys_ok : requireKeys key expected error = .ok u ↔ key = expected := by simp [requireKeys]

@[simp] theorem requireDlmmProgram_ok : requireDlmmProgram key = .ok u ↔ key = DLMM_PROGRAM_ID := by
  simp [requireDlmmProgram]

@[simp] theorem requireSystemProgram_ok : requireSystemProgram key = .ok u ↔ key = SYSTEM_PROGRAM_ID := by
  simp [requireSystemProgram]

def SplToken (key : Pubkey) : Prop := key = SPL_TOKEN_PROGRAM_ID ∨ key = SPL_TOKEN_2022_PROGRAM_ID

@[simp] theorem requireSplTokenProgram_ok : requireSplTokenProgram key = .ok u ↔ SplToken key := by
  simp [requireSplTokenProgram,SplToken]

def eventAuthority (env : Runtime) : Pubkey := (env.findProgramAddress [ascii "__event_authority"] DLMM_PROGRAM_ID).1

@[simp] theorem requireDlmmEventAuthority_ok : requireDlmmEventAuthority env key = .ok u ↔ key = eventAuthority env := by
  simp [requireDlmmEventAuthority,eventAuthority]

structure RentSysvar (message : Message env) (store : Store) (key : Pubkey) : Prop where
  named : key = RENT_ID
  unsigned : message.isSigner key = false
  inert : (store key).executable = false

@[simp] theorem requireRentSysvar_ok : requireRentSysvar message store key = .ok u ↔ RentSysvar message store key := by
  simp only [requireRentSysvar,do_ok,require_ok,exists_const]
  constructor
  · rintro ⟨named,unsigned,inert⟩
    exact ⟨named,unsigned,inert⟩
  · rintro ⟨named,unsigned,inert⟩
    exact ⟨named,unsigned,inert⟩

-- What each list of checks says of the forwarded accounts.
structure AddLiquidityChecked (env : Runtime) (store : Store) (accounts : PoolAccounts) (remaining : List Pubkey)
    (pa : PoolAuthority) (lbPair position : Pubkey) : Prop where
  declaredProgram : accounts.dlmmProgram = DLMM_PROGRAM_ID
  length : remaining.length = 16
  poolRef : pa.poolRef = .Dlmm lbPair position
  named : slot remaining 0 = position
  paired : slot remaining 1 = lbPair
  declared : slot remaining 1 = accounts.lbPair
  mintX : ofMint store (slot remaining 3) (slot remaining 7)
  mintY : ofMint store (slot remaining 4) (slot remaining 8)
  tokenX : SplToken (slot remaining 12)
  tokenY : SplToken (slot remaining 13)
  event : slot remaining 14 = eventAuthority env
  program : slot remaining 15 = DLMM_PROGRAM_ID

theorem addLiquidityChecks_ok : addLiquidityChecks store env accounts remaining pa = .ok (lbPair,position) ↔
    AddLiquidityChecked env store accounts remaining pa lbPair position := by
  simp only [addLiquidityChecks,do_ok,require_ok,exists_const,requireKeys_ok,requireTokenAccountMint_ok,
    requireSplTokenProgram_ok,requireDlmmEventAuthority_ok,requireDlmmProgram_ok]
  constructor
  · rintro ⟨declaredProgram,length,⟨one,two⟩,ref,named,paired,declared,mintX,mintY,tokenX,tokenY,event,program,same⟩
    cases same
    exact ⟨declaredProgram,length,dlmmRef_ok.mp ref,named,paired,declared,mintX,mintY,tokenX,tokenY,event,program⟩
  · rintro ⟨declaredProgram,length,ref,named,paired,declared,mintX,mintY,tokenX,tokenY,event,program⟩
    exact ⟨declaredProgram,length,(lbPair,position),dlmmRef_ok.mpr ref,named,paired,declared,mintX,mintY,tokenX,tokenY,event,
      program,rfl⟩

structure ClaimFeesChecked (env : Runtime) (store : Store) (accounts : PoolAccounts) (remaining : List Pubkey)
    (pa : PoolAuthority) (lbPair position : Pubkey) : Prop where
  declaredProgram : accounts.dlmmProgram = DLMM_PROGRAM_ID
  length : remaining.length = 14
  poolRef : pa.poolRef = .Dlmm lbPair position
  paired : slot remaining 0 = lbPair
  named : slot remaining 1 = position
  ownerX : ownedBy store (slot remaining 7) pa.exitRecipient
  ownerY : ownedBy store (slot remaining 8) pa.exitRecipient
  mintX : ofMint store (slot remaining 7) (slot remaining 9)
  mintY : ofMint store (slot remaining 8) (slot remaining 10)
  token : SplToken (slot remaining 11)
  event : slot remaining 12 = eventAuthority env
  program : slot remaining 13 = DLMM_PROGRAM_ID
  declared : accounts.lbPair = lbPair

theorem claimFeesChecks_ok : claimFeesChecks store env accounts remaining pa = .ok (lbPair,position) ↔
    ClaimFeesChecked env store accounts remaining pa lbPair position := by
  simp only [claimFeesChecks,do_ok,require_ok,exists_const,requireKeys_ok,requireTokenAccountMint_ok,
    requireTokenAccountOwner_ok,requireSplTokenProgram_ok,requireDlmmEventAuthority_ok,requireDlmmProgram_ok]
  constructor
  · rintro ⟨declaredProgram,length,⟨one,two⟩,ref,paired,named,ownerX,ownerY,mintX,mintY,token,event,program,declared,same⟩
    cases same
    exact ⟨declaredProgram,length,dlmmRef_ok.mp ref,paired,named,ownerX,ownerY,mintX,mintY,token,event,program,declared⟩
  · rintro ⟨declaredProgram,length,ref,paired,named,ownerX,ownerY,mintX,mintY,token,event,program,declared⟩
    exact ⟨declaredProgram,length,(lbPair,position),dlmmRef_ok.mpr ref,paired,named,ownerX,ownerY,mintX,mintY,token,event,
      program,declared,rfl⟩

structure WithdrawCloseChecked (env : Runtime) (store : Store) (accounts : PoolAccounts) (remaining : List Pubkey)
    (fromBinId toBinId : Int32) (bpsToRemove : UInt16) (pa : PoolAuthority) (lbPair position : Pubkey) : Prop where
  range : fromBinId ≤ toBinId
  bps : 0 < bpsToRemove ∧ bpsToRemove ≤ 10000
  declaredProgram : accounts.dlmmProgram = DLMM_PROGRAM_ID
  length : remaining.length = 17
  poolRef : pa.poolRef = .Dlmm lbPair position
  named : slot remaining 0 = position
  paired : slot remaining 1 = lbPair
  ownerX : ownedBy store (slot remaining 3) pa.exitRecipient
  ownerY : ownedBy store (slot remaining 4) pa.exitRecipient
  mintX : ofMint store (slot remaining 3) (slot remaining 7)
  mintY : ofMint store (slot remaining 4) (slot remaining 8)
  tokenX : SplToken (slot remaining 12)
  tokenY : SplToken (slot remaining 13)
  event : slot remaining 14 = eventAuthority env
  program : slot remaining 15 = DLMM_PROGRAM_ID
  rentReceiver : slot remaining 16 = pa.exitRecipient
  notPosition : slot remaining 16 ≠ slot remaining 0
  notPair : slot remaining 16 ≠ slot remaining 1
  declared : accounts.lbPair = lbPair

theorem withdrawCloseChecks_ok :
    withdrawCloseChecks store env accounts remaining fromBinId toBinId bpsToRemove pa = .ok (lbPair,position) ↔
      WithdrawCloseChecked env store accounts remaining fromBinId toBinId bpsToRemove pa lbPair position := by
  simp only [withdrawCloseChecks,do_ok,require_ok,exists_const,requireKeys_ok,requireTokenAccountMint_ok,
    requireTokenAccountOwner_ok,requireSplTokenProgram_ok,requireDlmmEventAuthority_ok,requireDlmmProgram_ok]
  constructor
  · rintro ⟨range,bps,declaredProgram,length,⟨one,two⟩,ref,named,paired,ownerX,ownerY,mintX,mintY,tokenX,tokenY,event,
      program,rentReceiver,notPosition,notPair,declared,same⟩
    cases same
    exact ⟨range,bps,declaredProgram,length,dlmmRef_ok.mp ref,named,paired,ownerX,ownerY,mintX,mintY,tokenX,tokenY,event,
      program,rentReceiver,notPosition,notPair,declared⟩
  · rintro ⟨range,bps,declaredProgram,length,ref,named,paired,ownerX,ownerY,mintX,mintY,tokenX,tokenY,event,program,
      rentReceiver,notPosition,notPair,declared⟩
    exact ⟨range,bps,declaredProgram,length,(lbPair,position),dlmmRef_ok.mpr ref,named,paired,ownerX,ownerY,mintX,mintY,
      tokenX,tokenY,event,program,rentReceiver,notPosition,notPair,declared,rfl⟩

structure WithdrawGuarded (message : Message env) (store : Store) (accounts : PoolAccounts) (pa : PoolAuthority) : Prop
    extends Guarded message store accounts pa where
  writableStealth : message.isWritable accounts.stealth = true
  writableAuthority : message.isWritable accounts.poolAuthority = true
  apart : accounts.poolAuthority ≠ accounts.stealth

theorem withdrawAccounts_ok : withdrawAccounts message store accounts = .ok pa ↔
    WithdrawGuarded message store accounts pa := by
  simp only [withdrawAccounts,requireMut,do_ok,require_ok,exists_const,poolAuthorityOf_ok]
  constructor
  · rintro ⟨found,guarded,stealth,authority,apart,same⟩
    cases same
    exact ⟨guarded,stealth,authority,apart⟩
  · rintro ⟨guarded,stealth,authority,apart⟩
    exact ⟨pa,guarded,stealth,authority,apart,rfl⟩

structure InitPositionChecked (message : Message env) (store : Store) (accounts : DlmmInitPosition)
    (remaining : List Pubkey) : Prop where
  declaredProgram : accounts.dlmmProgram = DLMM_PROGRAM_ID
  length : remaining.length = 8
  signed : message.isSigner (slot remaining 1) = true
  declared : accounts.lbPair = slot remaining 2
  system : slot remaining 4 = SYSTEM_PROGRAM_ID
  rent : RentSysvar message store (slot remaining 5)
  event : slot remaining 6 = eventAuthority env
  program : slot remaining 7 = DLMM_PROGRAM_ID

theorem initPositionChecks_ok : initPositionChecks message store accounts remaining = .ok u ↔
    InitPositionChecked message store accounts remaining := by
  simp only [initPositionChecks,do_ok,require_ok,exists_const,requireKeys_ok,requireSystemProgram_ok,requireRentSysvar_ok,
    requireDlmmEventAuthority_ok,requireDlmmProgram_ok]
  constructor
  · rintro ⟨declaredProgram,length,signed,declared,system,rent,event,program⟩
    exact ⟨declaredProgram,length,signed,declared,system,rent,event,program⟩
  · rintro ⟨declaredProgram,length,signed,declared,system,rent,event,program⟩
    exact ⟨declaredProgram,length,signed,declared,system,rent,event,program⟩

structure SwapChecked (message : Message env) (store : Store) (accounts : DlmmSwap) (remaining : List Pubkey)
    (amountIn minAmountOut : UInt64) (preOut : Nat) : Prop where
  amounts : 0 < amountIn ∧ 0 < minAmountOut
  declaredProgram : accounts.dlmmProgram = DLMM_PROGRAM_ID
  length : MIN_REMAINING ≤ remaining.length
  paired : slot remaining 0 = accounts.lbPair
  ownerIn : ownedBy store (slot remaining 4) accounts.stealth
  ownerOut : ownedBy store (slot remaining 5) accounts.stealth
  apart : slot remaining 4 ≠ slot remaining 5
  user : slot remaining 10 = accounts.stealth
  signed : message.isSigner (slot remaining 10) = true
  tokenX : SplToken (slot remaining 11)
  tokenY : SplToken (slot remaining 12)
  mints : (ofMint store (slot remaining 4) (slot remaining 6) ∧ ofMint store (slot remaining 5) (slot remaining 7)) ∨
    (ofMint store (slot remaining 4) (slot remaining 7) ∧ ofMint store (slot remaining 5) (slot remaining 6))
  event : slot remaining 13 = eventAuthority env
  program : slot remaining 14 = DLMM_PROGRAM_ID
  preOut : readTokenAccountAmount store (slot remaining 5) = .ok preOut

theorem swapChecks_ok : swapChecks message store accounts remaining amountIn minAmountOut = .ok preOut ↔
    SwapChecked message store accounts remaining amountIn minAmountOut preOut := by
  simp only [swapChecks,do_ok,require_ok,exists_const,requireKeys_ok,requireTokenAccountOwner_ok,
    requireSplTokenProgram_ok,requireDlmmEventAuthority_ok,requireDlmmProgram_ok]
  constructor
  · rintro ⟨amounts,declaredProgram,length,paired,ownerIn,ownerOut,apart,user,signed,tokenX,tokenY,inMint,readIn,outMint,
      readOut,mints,event,program,preOut⟩
    refine ⟨amounts,declaredProgram,length,paired,ownerIn,ownerOut,apart,user,signed,tokenX,tokenY,?_,event,program,preOut⟩
    rcases mints with ⟨first,second⟩ | ⟨first,second⟩
    · exact .inl ⟨first ▸ readIn,second ▸ readOut⟩
    · exact .inr ⟨first ▸ readIn,second ▸ readOut⟩
  · rintro ⟨amounts,declaredProgram,length,paired,ownerIn,ownerOut,apart,user,signed,tokenX,tokenY,mints,event,program,preOut⟩
    refine ⟨amounts,declaredProgram,length,paired,ownerIn,ownerOut,apart,user,signed,tokenX,tokenY,?_⟩
    rcases mints with ⟨readIn,readOut⟩ | ⟨readIn,readOut⟩
    · exact ⟨_,readIn,_,readOut,.inl ⟨rfl,rfl⟩,event,program,preOut⟩
    · exact ⟨_,readIn,_,readOut,.inr ⟨rfl,rfl⟩,event,program,preOut⟩

structure SwapGuarded (message : Message env) (store : Store) (accounts : DlmmSwap) : Prop where
  signed : message.isSigner accounts.stealth = true
  writable : message.isWritable accounts.stealth = true
  active : ∃ config, Active env store accounts.config config

theorem swapAccounts_ok : swapAccounts message store accounts = .ok u ↔ SwapGuarded message store accounts := by
  simp only [swapAccounts,requireSigner,requireMut,do_ok,require_ok,exists_const,requireActive_ok,loadConfig_ok]
  constructor
  · rintro ⟨signed,_,_,writable,active⟩
    exact ⟨signed,writable,active⟩
  · rintro ⟨signed,writable,config,active⟩
    exact ⟨signed,config,active.stored,writable,config,active⟩

-- What the runtime has established when an inner instruction starts.
structure Prepared (message : Message env) (cpi : Cpi) : Prop where
  signers : ∃ derived, derivedSigners env cpi.signerSeeds = .ok derived ∧
    ∀ account ∈ cpi.accounts, privileged message derived account
  infos : ∀ account ∈ cpi.accounts, account.pubkey ∈ cpi.infos

theorem prepare_ok : prepare message cpi = .ok u ↔ Prepared message cpi := by
  simp only [prepare,do_ok,require_ok,exists_const]
  constructor
  · rintro ⟨derived,signers,infos,granted⟩
    exact ⟨⟨derived,signers,granted⟩,infos⟩
  · rintro ⟨⟨derived,signers,granted⟩,infos⟩
    exact ⟨derived,signers,infos,granted⟩

end Checks

-- One rule for each handler: what has to hold of its calls, in the states that
-- they are made in, and of what they leave, for it to end as `post` says.
section Handlers
variable {env : Runtime} {message : Message env} {store : Store} {world : World}
variable {allow : Cpi × Store → Unit → Prop} {post : Except Error Store → Unit → Prop}

theorem follows_invoke (cpi : Cpi) (refused : ∀ error, post (.error error) ())
    (called : Prepared message cpi → allow (cpi,store) () ∧ ∀ after, world.calls cpi store after → post (.ok after) ()) :
    (invoke message cpi store).Follows world.Answers allow post () := by
  refine follows_lift_then.mpr ⟨fun _ prepared => ?_,fun error _ => refused error⟩
  obtain ⟨allowed,answered⟩ := called (prepare_ok.mp prepared)
  refine follows_send.mpr ⟨allowed,fun answer _ possible => ?_⟩
  cases answer with
  | ok after => exact answered after (possible after rfl)
  | error error => exact refused error

theorem follows_invoke_then {next : Store → Handler Store} (cpi : Cpi) (refused : ∀ error, post (.error error) ())
    (called : Prepared message cpi → allow (cpi,store) () ∧
      ∀ after, world.calls cpi store after → (next after).Follows world.Answers allow post ()) :
    (invoke message cpi store >>= next).Follows world.Answers allow post () := by
  refine follows_bind.mpr ?_
  exact follows_invoke cpi refused called

theorem initPosition_follows (refused : ∀ error, post (.error error) ())
    (called : ∀ created bump, initPositionAccounts message store accounts = .ok (created,bump) →
      InitPositionChecked message created accounts remaining →
      Prepared message (initPositionIx message accounts remaining bump lowerBinId width) →
      allow (initPositionIx message accounts remaining bump lowerBinId width,created) () ∧
        ∀ after, world.calls (initPositionIx message accounts remaining bump lowerBinId width) created after →
          ∀ saved, save PoolAuthority.layout after accounts.poolAuthority
            ⟨accounts.stealth,exitRecipient,.Dlmm (slot remaining 2) (slot remaining 1),bump⟩ = .ok saved →
          post (.ok saved) ()) :
    (initPosition message store accounts remaining lowerBinId width exitRecipient).Follows world.Answers allow post () := by
  refine follows_lift_then.mpr ⟨?_,fun error _ => refused error⟩
  rintro ⟨created,bump⟩ accepted
  refine follows_lift_then.mpr ⟨fun _ checked => ?_,fun error _ => refused error⟩
  refine follows_invoke_then _ refused fun prepared => ?_
  obtain ⟨allowed,answered⟩ := called created bump accepted (initPositionChecks_ok.mp checked) prepared
  refine ⟨allowed,fun after possible => follows_lift.mpr ?_⟩
  cases ended : save PoolAuthority.layout after accounts.poolAuthority
      ⟨accounts.stealth,exitRecipient,.Dlmm (slot remaining 2) (slot remaining 1),bump⟩ with
  | ok saved => exact answered after possible saved ended
  | error error => exact refused error

theorem addLiquidity_follows (refused : ∀ error, post (.error error) ())
    (called : ∀ pa lbPair position, Guarded message store accounts pa →
      AddLiquidityChecked env store accounts remaining pa lbPair position →
      Prepared message (addLiquidityIx message accounts remaining lbPair pa.bump liquidityParams) →
      allow (addLiquidityIx message accounts remaining lbPair pa.bump liquidityParams,store) () ∧
        ∀ after, world.calls (addLiquidityIx message accounts remaining lbPair pa.bump liquidityParams) store after →
          post (.ok after) ()) :
    (addLiquidity message store accounts remaining liquidityParams).Follows world.Answers allow post () := by
  refine follows_lift_then.mpr ⟨fun pa guarded => ?_,fun error _ => refused error⟩
  refine follows_lift_then.mpr ⟨?_,fun error _ => refused error⟩
  rintro ⟨lbPair,position⟩ checked
  exact follows_invoke _ refused (called pa lbPair position (poolAuthorityOf_ok.mp guarded) (addLiquidityChecks_ok.mp checked))

theorem claimFees_follows (refused : ∀ error, post (.error error) ())
    (called : ∀ pa lbPair position, Guarded message store accounts pa →
      ClaimFeesChecked env store accounts remaining pa lbPair position →
      Prepared message (claimFeesIx message accounts remaining lbPair pa.bump) →
      allow (claimFeesIx message accounts remaining lbPair pa.bump,store) () ∧
        ∀ after, world.calls (claimFeesIx message accounts remaining lbPair pa.bump) store after → post (.ok after) ()) :
    (claimFees message store accounts remaining).Follows world.Answers allow post () := by
  refine follows_lift_then.mpr ⟨fun pa guarded => ?_,fun error _ => refused error⟩
  refine follows_lift_then.mpr ⟨?_,fun error _ => refused error⟩
  rintro ⟨lbPair,position⟩ checked
  exact follows_invoke _ refused (called pa lbPair position (poolAuthorityOf_ok.mp guarded) (claimFeesChecks_ok.mp checked))

theorem withdrawClose_follows (refused : ∀ error, post (.error error) ())
    (called : ∀ pa lbPair position, WithdrawGuarded message store accounts pa →
      WithdrawCloseChecked env store accounts remaining fromBinId toBinId bpsToRemove pa lbPair position →
      Prepared message (removeLiquidityIx message accounts remaining lbPair pa.bump fromBinId toBinId bpsToRemove) →
      allow (removeLiquidityIx message accounts remaining lbPair pa.bump fromBinId toBinId bpsToRemove,store) () ∧
        ∀ removed, world.calls
            (removeLiquidityIx message accounts remaining lbPair pa.bump fromBinId toBinId bpsToRemove) store removed →
          Prepared message (closePositionIx message accounts remaining lbPair pa.bump) →
          allow (closePositionIx message accounts remaining lbPair pa.bump,removed) () ∧
            ∀ closed, world.calls (closePositionIx message accounts remaining lbPair pa.bump) removed closed →
              ∀ after, closeAccount closed accounts.poolAuthority accounts.stealth = .ok after → post (.ok after) ()) :
    (withdrawClose message store accounts remaining fromBinId toBinId bpsToRemove).Follows world.Answers allow post () := by
  refine follows_lift_then.mpr ⟨fun pa guarded => ?_,fun error _ => refused error⟩
  refine follows_lift_then.mpr ⟨?_,fun error _ => refused error⟩
  rintro ⟨lbPair,position⟩ checked
  refine follows_invoke_then _ refused fun prepared => ?_
  obtain ⟨allowed,answered⟩ :=
    called pa lbPair position (withdrawAccounts_ok.mp guarded) (withdrawCloseChecks_ok.mp checked) prepared
  refine ⟨allowed,fun removed first => follows_invoke_then _ refused fun prepared => ?_⟩
  obtain ⟨allowed,answered⟩ := answered removed first prepared
  refine ⟨allowed,fun closed second => follows_lift.mpr ?_⟩
  cases ended : closeAccount closed accounts.poolAuthority accounts.stealth with
  | ok after => exact answered closed second after ended
  | error error => exact refused error

theorem swap_follows (refused : ∀ error, post (.error error) ())
    (called : ∀ preOut, SwapGuarded message store accounts →
      SwapChecked message store accounts remaining amountIn minAmountOut preOut →
      Prepared message (swapIx env remaining amountIn minAmountOut) →
      allow (swapIx env remaining amountIn minAmountOut,store) () ∧
        ∀ after, world.calls (swapIx env remaining amountIn minAmountOut) store after →
          requireReceived after remaining preOut minAmountOut = .ok after → post (.ok after) ()) :
    (swap message store accounts remaining amountIn minAmountOut).Follows world.Answers allow post () := by
  refine follows_lift_then.mpr ⟨fun _ accepted => ?_,fun error _ => refused error⟩
  refine follows_lift_then.mpr ⟨fun preOut checked => ?_,fun error _ => refused error⟩
  refine follows_invoke_then _ refused fun prepared => ?_
  obtain ⟨allowed,answered⟩ := called preOut (swapAccounts_ok.mp accepted) (swapChecks_ok.mp checked) prepared
  refine ⟨allowed,fun after possible => follows_lift.mpr ?_⟩
  cases ended : requireReceived after remaining preOut minAmountOut with
  | ok last =>
    have same : after = last := by
      simp only [requireReceived,do_ok,require_ok,exists_const] at ended
      obtain ⟨_,_,_,_,same⟩ := ended
      exact Except.ok.inj same
    subst same
    exact answered after possible ended
  | error error => exact refused error

end Handlers

end Octora.ExecutorProgram
