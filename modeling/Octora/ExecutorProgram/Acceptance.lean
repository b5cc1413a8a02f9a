import Octora.ExecutorProgram.Clients

namespace Octora.ExecutorProgram
open BigEndian Borsh Codec Calls Fallible LittleEndian
open Executor (TestPairConfig DistributionShape addLiquidityInput)
open Executor.LiquidityParams (decode decode_encoded encoded_exact plan_fields)

section Fetch
variable {chain : Store} {pda : Pubkey}

theorem fetch_read (fetched : fetchPoolAuthority chain pda = .ok pa) :
    (chain pda).data ≠ [] ∧ PoolAuthority.layout.read (chain pda).data = some pa := by
  unfold fetchPoolAuthority getAccountInfo at fetched
  by_cases blank : chain pda = ⟨0,SYSTEM_PROGRAM_ID,[],false⟩
  · rw [if_pos blank] at fetched
    cases fetched
  · simp only [if_neg blank] at fetched
    by_cases empty : (chain pda).data = []
    · rw [if_pos empty] at fetched
      cases fetched
    · rw [if_neg empty] at fetched
      refine ⟨empty,?_⟩
      split at fetched
      · rename_i found
        cases fetched
        exact found
      · cases fetched

-- What the service reads there is the program's own record.
theorem settled_fetch (settled : Settled chain pda) (fetched : fetchPoolAuthority chain pda = .ok pa) :
    authorityAt chain pda = some pa := by
  obtain ⟨written,read⟩ := fetch_read fetched
  rcases settled with vacant | ⟨found,live⟩ | ⟨config,stored⟩
  · exact absurd vacant.2 written
  · have same := (holds_some.mp live).2
    rw [read] at same
    cases same
    exact live
  · rw [config_notPoolAuthority (holds_some.mp stored).2] at read
    cases read

theorem fetchPosition_ok (fetched : fetchPoolAuthority chain pda = .ok pa) (poolRef : pa.poolRef = .Dlmm lbPair position) :
    fetchPositionFromAuthority chain pda = .ok position := by
  simp only [fetchPositionFromAuthority,do_ok,fetched]
  refine ⟨pa,rfl,?_⟩
  rw [poolRef]

theorem fetched_position (found : fetchPositionFromAuthority chain pda = .ok position) :
    ∃ pa lbPair, fetchPoolAuthority chain pda = .ok pa ∧ pa.poolRef = .Dlmm lbPair position := by
  simp only [fetchPositionFromAuthority,do_ok] at found
  obtain ⟨pa,fetched,found⟩ := found
  split at found
  · rename_i lbPair place poolRef
    cases found
    exact ⟨pa,lbPair,fetched,poolRef⟩
  · cases found

end Fetch

-- The record of a stealth's open position on a pair.
structure Stands (env : Runtime) (store : Store) (stealth lbPair position : Pubkey) (pa : PoolAuthority) : Prop where
  stored : authorityAt store (derivePoolAuthorityPda env stealth lbPair) = some pa
  owner : pa.stealthPubkey = stealth
  poolRef : pa.poolRef = .Dlmm lbPair position
  derived : env.findProgramAddress (authoritySeeds stealth lbPair) ID = (derivePoolAuthorityPda env stealth lbPair,pa.bump)

-- No two pairs of a stealth and a pool share the address.
def Unshared (env : Runtime) (stealth lbPair : Pubkey) : Prop :=
  ∀ other pair, derivePoolAuthorityPda env other pair = derivePoolAuthorityPda env stealth lbPair →
    other = stealth ∧ pair = lbPair

section Stands
variable {env : Runtime} {world : World} {start chain store : Store} {stealth lbPair : Pubkey} {past receipts : List (Receipt env)}

theorem live_stands (refines : Refines env store registry) (unshared : Unshared env stealth lbPair)
    (live : authorityAt store (derivePoolAuthorityPda env stealth lbPair) = some pa) :
    ∃ position, Stands env store stealth lbPair position pa ∧
      registry.holdings (stealth,lbPair) = some ⟨position,pa.exitRecipient⟩ := by
  obtain ⟨pair,position,poolRef,held,address⟩ := (refines.holdings _ pa).mp live
  have there : derivePoolAuthorityPda env pa.stealthPubkey pair = derivePoolAuthorityPda env stealth lbPair := by
    rw [derivePoolAuthorityPda,address]
  obtain ⟨same,also⟩ := unshared pa.stealthPubkey pair there
  rw [same,also] at address held
  exact ⟨position,⟨live,same,also ▸ poolRef,address⟩,held⟩

-- A record read at one time stands until the stealth exits.
theorem fetched_stands (reserves : Reserves env world) (fresh : Fresh start)
    (vacant : Vacant start (derivePoolAuthorityPda env stealth lbPair)) (unshared : Unshared env stealth lbPair)
    (earlier : Runs env world start past chain)
    (fetched : fetchPoolAuthority chain (derivePoolAuthorityPda env stealth lbPair) = .ok pa)
    (later : Runs env world chain receipts store) (kept : ∀ receipt ∈ receipts, receipt.act ≠ .closed stealth lbPair) :
    ∃ position, Stands env store stealth lbPair position pa := by
  have derived : Derived env (derivePoolAuthorityPda env stealth lbPair) := ⟨_,env.found _ _⟩
  have live := settled_fetch (runs_settled reserves derived vacant earlier) fetched
  obtain ⟨registry,_,refines,_⟩ := runs_refine fresh earlier
  obtain ⟨position,stands,held⟩ := live_stands refines unshared live
  obtain ⟨last,acts,refined,_⟩ := runs_continue refines later
  have still := Registry.runs_kept acts held fun inside => by
    obtain ⟨receipt,made,act⟩ := List.mem_map.mp inside
    exact kept receipt made act
  refine ⟨position,⟨?_,stands.owner,stands.poolRef,stands.derived⟩⟩
  refine (refined.holdings _ pa).mpr ⟨lbPair,position,stands.poolRef,?_,?_⟩
  · rw [stands.owner]
    exact still
  · rw [stands.owner]
    exact stands.derived

end Stands

-- A handler whose checks hold is at its call, and what is left to refuse it is DLMM.
section Sends
variable {env : Runtime} {message : Message env} {store : Store} {accounts : PoolAccounts} {remaining : List Pubkey}

theorem invoke_sends (prepared : Prepared message cpi) (store : Store) :
    invoke message cpi store = Op.send (cpi,store) := by
  have ready : prepare message cpi = .ok () := prepare_ok.mpr prepared
  exact Op.lift_then ready _

theorem slot_mem (inside : i < remaining.length) : slot remaining i ∈ remaining := by
  rw [slot,List.getD_eq_getElem _ _ inside]
  exact List.getElem_mem inside

theorem forwarded_prepared (named : slot remaining signerIdx = pa) (signs : signerIdx < remaining.length)
    (inside : ∀ i ∈ indices, i < remaining.length) (made : env.createProgramAddress seeds ID = some pa) :
    Prepared message (buildDlmmIx env ixName (buildMetas message remaining pa signerIdx indices) args
      (remaining.set signerIdx pa) (some seeds)) := by
  have same : remaining.set signerIdx pa = remaining := by
    rw [← named,slot,List.getD_eq_getElem _ _ signs,List.set_getElem_self]
  refine ⟨⟨[pa],by simp [buildDlmmIx,derivedSigners,made],fun account listed => ?_⟩,fun account listed => ?_⟩
  · obtain ⟨i,_,rfl⟩ := List.mem_map.mp listed
    by_cases here : i = signerIdx
    · subst here
      simp [privileged,metaOf,named]
    · simp only [metaOf,if_neg here]
      exact ⟨id,.inl⟩
  · obtain ⟨i,among,rfl⟩ := List.mem_map.mp listed
    rw [buildDlmmIx,same]
    by_cases here : i = signerIdx
    · simp only [metaOf,if_pos here,← named]
      exact slot_mem signs
    · simp only [metaOf,if_neg here]
      exact slot_mem (inside i among)

theorem addLiquidity_sends (guarded : Guarded message store accounts pa)
    (checked : AddLiquidityChecked env store accounts remaining pa lbPair position)
    (prepared : Prepared message (addLiquidityIx message accounts remaining lbPair pa.bump params)) :
    addLiquidity message store accounts remaining params =
      .call (addLiquidityIx message accounts remaining lbPair pa.bump params,store) (Op.answered .ret) := by
  unfold addLiquidity
  rw [Op.lift_then (poolAuthorityOf_ok.mpr guarded),Op.lift_then (addLiquidityChecks_ok.mpr checked)]
  rw [← Op.send_answered]
  exact invoke_sends prepared store

theorem claimFees_sends (guarded : Guarded message store accounts pa)
    (checked : ClaimFeesChecked env store accounts remaining pa lbPair position)
    (prepared : Prepared message (claimFeesIx message accounts remaining lbPair pa.bump)) :
    claimFees message store accounts remaining =
      .call (claimFeesIx message accounts remaining lbPair pa.bump,store) (Op.answered .ret) := by
  unfold claimFees
  rw [Op.lift_then (poolAuthorityOf_ok.mpr guarded),Op.lift_then (claimFeesChecks_ok.mpr checked)]
  rw [← Op.send_answered]
  exact invoke_sends prepared store

theorem withdrawClose_sends (guarded : WithdrawGuarded message store accounts pa)
    (checked : WithdrawCloseChecked env store accounts remaining fromBinId toBinId bps pa lbPair position)
    (first : Prepared message (removeLiquidityIx message accounts remaining lbPair pa.bump fromBinId toBinId bps))
    (second : Prepared message (closePositionIx message accounts remaining lbPair pa.bump)) :
    withdrawClose message store accounts remaining fromBinId toBinId bps =
      .call (removeLiquidityIx message accounts remaining lbPair pa.bump fromBinId toBinId bps,store)
        (Op.answered fun removed => .call (closePositionIx message accounts remaining lbPair pa.bump,removed)
          (Op.answered fun closed => Op.lift (closeAccount closed accounts.poolAuthority accounts.stealth))) := by
  unfold withdrawClose
  rw [Op.lift_then (withdrawAccounts_ok.mpr guarded),Op.lift_then (withdrawCloseChecks_ok.mpr checked)]
  simp only [invoke_sends first,invoke_sends second,Op.send_then]

theorem initPosition_sends {accounts : DlmmInitPosition} (accepted : initPositionAccounts message store accounts = .ok (created,bump))
    (checked : InitPositionChecked message created accounts remaining)
    (prepared : Prepared message (initPositionIx message accounts remaining bump lowerBinId width)) :
    initPosition message store accounts remaining lowerBinId width exitRecipient =
      .call (initPositionIx message accounts remaining bump lowerBinId width,created)
        (Op.answered fun after => Op.lift (save PoolAuthority.layout after accounts.poolAuthority
          ⟨accounts.stealth,exitRecipient,.Dlmm (slot remaining 2) (slot remaining 1),bump⟩)) := by
  have passed : initPositionChecks message created accounts remaining = .ok () := initPositionChecks_ok.mpr checked
  unfold initPosition
  rw [Op.lift_then accepted]
  dsimp only
  rw [Op.lift_then passed]
  simp only [invoke_sends prepared,Op.send_then]

end Sends

-- What a transaction is built for.
inductive Intent where
  | addLiquidity (totalSolLamports : Int) (shape : DistributionShape)
  | claimFees
  | withdrawClose
  deriving DecidableEq

def ExecutorService.build (service : ExecutorService) (env : Runtime) (chain : Store) (stealth : Pubkey)
    (config : TestPairConfig) : Intent → Except BuildError Built
  | .addLiquidity totalSolLamports shape => service.buildAddLiquidityTx env chain stealth config totalSolLamports shape
  | .claimFees => service.buildClaimFeesTx env chain stealth config
  | .withdrawClose => service.buildWithdrawCloseTx env chain stealth config

namespace Intent

def ixName : Intent → String
  | .addLiquidity _ _ => "add_liquidity_by_strategy"
  | .claimFees => "claim_fee"
  | .withdrawClose => "remove_liquidity_by_range"

-- Whose token accounts the transaction creates first.
def payee (pda : Pubkey) (pa : PoolAuthority) : Intent → Pubkey
  | .addLiquidity _ _ => pda
  | .claimFees | .withdrawClose => pa.exitRecipient

-- The arguments that reach DLMM, read back.
def Carries (config : TestPairConfig) (args : List UInt8) : Intent → Prop
  | .addLiquidity totalSolLamports shape => decode args = {
      amountX := if config.tokenX = NATIVE_MINT then totalSolLamports else 0
      amountY := if config.tokenX = NATIVE_MINT then 0 else totalSolLamports
      activeId := config.activeBin
      maxActiveBinSlippage := 5
      minBinId := config.lowerBinId
      maxBinId := config.upperBinId
      strategyType := Executor.STRATEGY_BY_SHAPE shape }
  | .claimFees => args = []
  | .withdrawClose => args = signedBytes 4 config.lowerBinId ++ signedBytes 4 config.upperBinId ++ bytes 2 10000

end Intent

-- An idempotent creation of an associated token account succeeds on these only.
structure TokenAccounts (service : ExecutorService) (store : Store) (config : TestPairConfig) (owner : Pubkey) : Prop where
  ownerX : ownedBy store (service.associatedToken config.tokenX owner) owner
  ownerY : ownedBy store (service.associatedToken config.tokenY owner) owner
  mintX : ofMint store (service.associatedToken config.tokenX owner) config.tokenX
  mintY : ofMint store (service.associatedToken config.tokenY owner) config.tokenY

-- What holds when the built instruction executes.
structure Ready (service : ExecutorService) {env : Runtime} (message : Message env) (store : Store) (stealth : Pubkey)
    (config : TestPairConfig) (intent : Intent) : Prop where
  signed : message.isSigner stealth = true
  running : ∃ current, configAt store (configPda env) = some current ∧ current.paused = false
  events : eventAuthority env = DLMM_EVENT_AUTHORITY
  tokens : ∀ pa, authorityAt store (derivePoolAuthorityPda env stealth config.lbPair) = some pa →
    TokenAccounts service store config (intent.payee (derivePoolAuthorityPda env stealth config.lbPair) pa)
  exits : intent = .withdrawClose → message.isWritable stealth = true ∧
    message.isWritable (derivePoolAuthorityPda env stealth config.lbPair) = true ∧ config.lowerBinId ≤ config.upperBinId ∧
      ∀ pa position, authorityAt store (derivePoolAuthorityPda env stealth config.lbPair) = some pa →
        pa.poolRef = .Dlmm config.lbPair position → pa.exitRecipient ≠ position ∧ pa.exitRecipient ≠ config.lbPair

section Accepted
variable {env : Runtime} {message : Message env} {chain store : Store} {service : ExecutorService} {stealth lbPair position : Pubkey}
  {config : TestPairConfig} {intent : Intent}

theorem config_active (refines : Refines env store registry) (stored : configAt store (configPda env) = some current)
    (running : current.paused = false) : Active env store (configPda env) current := by
  have derived := env.found [CONFIG_SEED] ID
  rw [((refines.admin _ _).mp stored).2] at derived
  exact ⟨stored,derived,running⟩

theorem stands_seeds (stands : Stands env store stealth lbPair position pa) :
    env.createProgramAddress (authoritySeeds stealth lbPair ++ [[pa.bump]]) ID =
      some (derivePoolAuthorityPda env stealth lbPair) := by
  have derived := env.found (authoritySeeds stealth lbPair) ID
  rw [stands.derived] at derived
  exact derived

theorem stands_guarded (stands : Stands env store stealth config.lbPair position pa)
    (refines : Refines env store registry) (ready : Ready service message store stealth config intent) :
    Guarded message store (ExecutorService.poolAccounts env stealth config.lbPair) pa := by
  obtain ⟨current,stored,running⟩ := ready.running
  exact ⟨ready.signed,stands.stored,stands_seeds stands,stands.owner,current,config_active refines stored running⟩

-- A record that is fetched names the position once.
theorem stands_fetched (stands : Stands env store stealth lbPair position pa)
    (fetched : fetchPoolAuthority chain pda = .ok pa) (found : fetchPositionFromAuthority chain pda = .ok recorded) :
    recorded = position := by
  rw [fetchPosition_ok fetched stands.poolRef] at found
  exact (Except.ok.inj found).symm

theorem asI32_ok : asI32 binId = .ok made ↔ (-(2 ^ 31) ≤ binId ∧ binId < 2 ^ 31) ∧ Int32.ofInt binId = made := by
  simp only [asI32,do_ok,require_ok,exists_const,Except.ok.injEq]

theorem asI32_toInt (converted : asI32 binId = .ok made) : made.toInt = binId := by
  obtain ⟨⟨low,high⟩,same⟩ := asI32_ok.mp converted
  rw [← same]
  exact Int32.toInt_ofInt_of_le low high

theorem asI32_order (first : asI32 lower = .ok one) (second : asI32 upper = .ok two) (ordered : lower ≤ upper) : one ≤ two := by
  rw [Int32.le_iff_toInt_le,asI32_toInt first,asI32_toInt second]
  exact ordered

-- The call that an accepted transaction makes first.
structure Called (service : ExecutorService) (message : Message env) (store : Store) (stealth : Pubkey) (config : TestPairConfig)
    (intent : Intent) (position exitRecipient : Pubkey) (cpi : Cpi) : Prop where
  routed : Routed env store (derivePoolAuthorityPda env stealth config.lbPair) config.lbPair ⟨position,exitRecipient⟩ cpi
  carries : ∃ args, cpi.data = anchorDiscriminator env intent.ixName ++ args ∧ intent.Carries config args

theorem claimFees_accepted (world : World) (stands : Stands env store stealth config.lbPair position pa)
    (guarded : Guarded message store (ExecutorService.poolAccounts env stealth config.lbPair) pa)
    (ready : Ready service message store stealth config .claimFees)
    (fetched : fetchPoolAuthority chain (derivePoolAuthorityPda env stealth config.lbPair) = .ok pa)
    (built : service.buildClaimFeesTx env chain stealth config = .ok tx) :
    ∃ cpi next, handle message store tx.instruction = .call (cpi,store) next ∧
      Called service message store stealth config .claimFees position pa.exitRecipient cpi ∧
        (Op.call (cpi,store) next : Handler Store).Defers (fun query after => world.calls query.1 query.2 after)
          (· = .overflow) := by
  simp only [ExecutorService.buildClaimFeesTx,ExecutorService.getAssociatedTokenAddress,do_ok,require_ok,exists_const]
    at built
  obtain ⟨_,again,recorded,found,ataX,⟨_,sameX⟩,ataY,⟨_,sameY⟩,same⟩ := built
  rw [fetched] at again
  cases again
  cases sameX
  cases sameY
  cases same
  rw [stands_fetched stands fetched found]
  let pda := derivePoolAuthorityPda env stealth config.lbPair
  let remaining := keysOf (service.claimFeesMetas config position pda (service.associatedToken config.tokenX pa.exitRecipient)
    (service.associatedToken config.tokenY pa.exitRecipient))
  let accounts := ExecutorService.poolAccounts env stealth config.lbPair
  have tokens := ready.tokens pa stands.stored
  have checked : ClaimFeesChecked env store accounts remaining pa config.lbPair position :=
    ⟨rfl,rfl,stands.poolRef,rfl,rfl,tokens.ownerX,tokens.ownerY,tokens.mintX,tokens.mintY,.inl rfl,ready.events.symm,rfl,rfl⟩
  have prepared : Prepared message (claimFeesIx message accounts remaining config.lbPair pa.bump) :=
    forwarded_prepared rfl (by rw [checked.length]; decide) (fun i among => List.mem_range.mp among) (stands_seeds stands)
  refine ⟨_,_,claimFees_sends guarded checked prepared,⟨.claimFee (List.prefix_append _ _) ?_ ?_ ?_
    ⟨_,forwarded_key checked.length (by decide),checked.ownerX⟩
    ⟨_,forwarded_key checked.length (by decide),checked.ownerY⟩,[],rfl,rfl⟩,defers_call fun _ _ => trivial⟩
  · exact forwarded_key checked.length (by decide)
  · exact forwarded_key checked.length (by decide)
  · exact forwarded_key checked.length (by decide)

theorem asVec_ok (converted : asVec items = .ok made) : made.val = items := by
  unfold asVec at converted
  split at converted
  · cases converted
    rfl
  · cases converted

theorem addLiquidity_accepted (world : World) (stands : Stands env store stealth config.lbPair position pa)
    (guarded : Guarded message store (ExecutorService.poolAccounts env stealth config.lbPair) pa)
    (ready : Ready service message store stealth config (.addLiquidity total shape))
    (fetched : fetchPoolAuthority chain (derivePoolAuthorityPda env stealth config.lbPair) = .ok pa)
    (built : service.buildAddLiquidityTx env chain stealth config total shape = .ok tx) :
    ∃ cpi next, handle message store tx.instruction = .call (cpi,store) next ∧
      Called service message store stealth config (.addLiquidity total shape) position pa.exitRecipient cpi ∧
        (Op.call (cpi,store) next : Handler Store).Defers (fun query after => world.calls query.1 query.2 after)
          (· = .overflow) := by
  simp only [ExecutorService.buildAddLiquidityTx,ExecutorService.getAssociatedTokenAddress,do_ok,require_ok,exists_const,
    mapError_ok] at built
  obtain ⟨_,plan,planned,recorded,found,ataX,⟨_,sameX⟩,ataY,⟨_,sameY⟩,_,_,args,encoded,params,converted,same⟩ := built
  cases sameX
  cases sameY
  cases same
  rw [stands_fetched stands fetched found]
  let pda := derivePoolAuthorityPda env stealth config.lbPair
  let remaining := keysOf (service.addLiquidityMetas config position pda (service.associatedToken config.tokenX pda)
    (service.associatedToken config.tokenY pda))
  let accounts := ExecutorService.poolAccounts env stealth config.lbPair
  have tokens := ready.tokens pa stands.stored
  have checked : AddLiquidityChecked env store accounts remaining pa config.lbPair position :=
    ⟨rfl,rfl,stands.poolRef,rfl,rfl,rfl,tokens.mintX,tokens.mintY,.inl rfl,.inl rfl,ready.events.symm,rfl⟩
  have prepared : Prepared message (addLiquidityIx message accounts remaining config.lbPair pa.bump params.val) :=
    forwarded_prepared rfl (by rw [checked.length]; decide) (fun i among => List.mem_range.mp among) (stands_seeds stands)
  refine ⟨_,_,addLiquidity_sends guarded checked prepared,⟨.addLiquidity (List.prefix_append _ _) ?_ ?_ ?_,params.val,rfl,?_⟩,
    defers_call fun _ _ => trivial⟩
  · exact forwarded_key checked.length (by decide)
  · exact forwarded_key checked.length (by decide)
  · exact forwarded_key checked.length (by decide)
  · obtain ⟨fits,laid⟩ := encoded_exact.mp encoded
    rw [asVec_ok converted,Intent.Carries,laid,decode_encoded fits,plan_fields planned]
    simp [addLiquidityInput]

theorem closeAccount_error (failed : closeAccount closed key target = .error error) : error = .overflow := by
  simp only [closeAccount,Store.credit,do_error,do_ok,require_error,reduceCtorEq,and_false,exists_const,or_false] at failed
  rcases failed with ⟨_,same⟩ | ⟨_,⟨⟩⟩
  exact same.symm

theorem withdrawClose_accepted (world : World) (stands : Stands env store stealth config.lbPair position pa)
    (guarded : Guarded message store (ExecutorService.poolAccounts env stealth config.lbPair) pa)
    (ready : Ready service message store stealth config .withdrawClose)
    (fetched : fetchPoolAuthority chain (derivePoolAuthorityPda env stealth config.lbPair) = .ok pa)
    (built : service.buildWithdrawCloseTx env chain stealth config = .ok tx) :
    ∃ cpi next, handle message store tx.instruction = .call (cpi,store) next ∧
      Called service message store stealth config .withdrawClose position pa.exitRecipient cpi ∧
        (Op.call (cpi,store) next : Handler Store).Defers (fun query after => world.calls query.1 query.2 after)
          (· = .overflow) := by
  simp only [ExecutorService.buildWithdrawCloseTx,ExecutorService.getAssociatedTokenAddress,do_ok,require_ok,exists_const]
    at built
  obtain ⟨_,again,ataX,⟨_,sameX⟩,ataY,⟨_,sameY⟩,recorded,found,lower,first,upper,second,same⟩ := built
  rw [fetched] at again
  cases again
  cases sameX
  cases sameY
  cases same
  rw [stands_fetched stands fetched found]
  let pda := derivePoolAuthorityPda env stealth config.lbPair
  let remaining := keysOf (service.addLiquidityMetas config position pda (service.associatedToken config.tokenX pa.exitRecipient)
    (service.associatedToken config.tokenY pa.exitRecipient) ++ [writable pa.exitRecipient])
  let accounts := ExecutorService.poolAccounts env stealth config.lbPair
  have tokens := ready.tokens pa stands.stored
  obtain ⟨writableStealth,writableAuthority,ordered,others⟩ := ready.exits rfl
  obtain ⟨notPosition,notPair⟩ := others pa position stands.stored stands.poolRef
  have exits : WithdrawGuarded message store accounts pa := by
    refine ⟨guarded,writableStealth,writableAuthority,fun same => ?_⟩
    have unsigned := message.derivedUnsigned _ _ (stands_seeds stands)
    rw [show derivePoolAuthorityPda env stealth config.lbPair = stealth from same,ready.signed] at unsigned
    cases unsigned
  have checked : WithdrawCloseChecked env store accounts remaining lower upper 10000 pa config.lbPair position :=
    ⟨asI32_order first second ordered,by decide,rfl,rfl,stands.poolRef,rfl,rfl,tokens.ownerX,tokens.ownerY,tokens.mintX,
      tokens.mintY,.inl rfl,.inl rfl,ready.events.symm,rfl,rfl,notPosition,notPair,rfl⟩
  have inside : 11 < remaining.length := by
    rw [checked.length]
    decide
  have remove : Prepared message (removeLiquidityIx message accounts remaining config.lbPair pa.bump lower upper 10000) :=
    forwarded_prepared rfl inside (fun i among => by rw [checked.length]; have := List.mem_range.mp among; omega) (stands_seeds stands)
  have close : Prepared message (closePositionIx message accounts remaining config.lbPair pa.bump) :=
    forwarded_prepared rfl inside (fun i among => by rw [checked.length]; revert i; decide) (stands_seeds stands)
  refine ⟨_,_,withdrawClose_sends exits checked remove close,
    ⟨.removeLiquidity ((List.prefix_append _ _).trans (List.prefix_refl _)) ?_ ?_ ?_
      ⟨_,removeLiquidity_key (by decide),checked.ownerX⟩ ⟨_,removeLiquidity_key (by decide),checked.ownerY⟩,_,rfl,?_⟩,
    defers_call fun removed _ => defers_call fun closed _ => ?_⟩
  · exact removeLiquidity_key (by decide)
  · exact removeLiquidity_key (by decide)
  · exact removeLiquidity_key (by decide)
  · rw [Intent.Carries,asI32_toInt first,asI32_toInt second]
    rfl
  · cases ended : closeAccount closed accounts.poolAuthority accounts.stealth with
    | ok after => trivial
    | error error => exact closeAccount_error ended

theorem build_fetched (built : service.build env chain stealth config intent = .ok tx) :
    ∃ pa, fetchPoolAuthority chain (derivePoolAuthorityPda env stealth config.lbPair) = .ok pa := by
  cases intent with
  | addLiquidity total shape =>
    simp only [ExecutorService.build,ExecutorService.buildAddLiquidityTx,do_ok] at built
    obtain ⟨_,_,_,_,recorded,found,_⟩ := built
    obtain ⟨pa,_,fetched,_⟩ := fetched_position found
    exact ⟨pa,fetched⟩
  | claimFees =>
    simp only [ExecutorService.build,ExecutorService.buildClaimFeesTx,do_ok] at built
    obtain ⟨pa,fetched,_⟩ := built
    exact ⟨pa,fetched⟩
  | withdrawClose =>
    simp only [ExecutorService.build,ExecutorService.buildWithdrawCloseTx,do_ok] at built
    obtain ⟨pa,fetched,_⟩ := built
    exact ⟨pa,fetched⟩

-- A transaction the service has built stays good until the stealth itself exits:
-- executed in any later state that is ready for it, it reaches DLMM with the
-- position on record and with what was asked for, and a failure is DLMM's own or
-- an overflow of the stealth's balance.
theorem built_accepted {world : World} {start : Store} {past receipts : List (Receipt env)} (reserves : Reserves env world)
    (fresh : Fresh start) (vacant : Vacant start (derivePoolAuthorityPda env stealth config.lbPair))
    (unshared : Unshared env stealth config.lbPair) (earlier : Runs env world start past chain)
    (built : service.build env chain stealth config intent = .ok tx) (later : Runs env world chain receipts store)
    (kept : ∀ receipt ∈ receipts, receipt.act ≠ .closed stealth config.lbPair)
    (ready : Ready service message store stealth config intent) :
    ∃ position exitRecipient cpi next,
      Registry.Entered stealth config.lbPair ⟨position,exitRecipient⟩ ((past ++ receipts).map Receipt.act) ∧
      handle message store tx.instruction = .call (cpi,store) next ∧
      Called service message store stealth config intent position exitRecipient cpi ∧
      ∀ dlmm : Dlmm, (∀ query, world.Answers query () (dlmm query) ()) →
        (∃ after, execute message dlmm store tx.instruction = .ok after) ∨
          (∃ query ∈ (handle message store tx.instruction).asked dlmm, ∃ error, dlmm query = .error error ∧
            execute message dlmm store tx.instruction = .error error) ∨
            execute message dlmm store tx.instruction = .error .overflow := by
  obtain ⟨pa,fetched⟩ := build_fetched built
  obtain ⟨position,stands⟩ := fetched_stands reserves fresh vacant unshared earlier fetched later kept
  have whole := runs_trans earlier later
  obtain ⟨registry,history,refines,_⟩ := runs_refine fresh whole
  obtain ⟨place,also,held⟩ := live_stands refines unshared stands.stored
  have same : place = position := by
    have poolRef := also.poolRef
    rw [stands.poolRef] at poolRef
    cases poolRef
    rfl
  rw [same] at held
  have guarded := stands_guarded stands refines ready
  have accepted : ∃ cpi next, handle message store tx.instruction = .call (cpi,store) next ∧
      Called service message store stealth config intent position pa.exitRecipient cpi ∧
        (Op.call (cpi,store) next : Handler Store).Defers (fun query after => world.calls query.1 query.2 after)
          (· = .overflow) := by
    cases intent with
    | addLiquidity total shape => exact addLiquidity_accepted world stands guarded ready fetched built
    | claimFees => exact claimFees_accepted world stands guarded ready fetched built
    | withdrawClose => exact withdrawClose_accepted world stands guarded ready fetched built
  obtain ⟨cpi,next,handled,called,defers⟩ := accepted
  refine ⟨position,pa.exitRecipient,cpi,next,Registry.runs_holding history held,handled,called,fun dlmm possible => ?_⟩
  rw [← handled] at defers
  rcases defers_run defers fun query after answered => possible query after answered with fine | refused | ⟨_,rfl,overflow⟩
  · exact .inl fine
  · exact .inr (.inl refused)
  · exact .inr (.inr overflow)

end Accepted

-- The sample stealth's wallet, with token accounts of its recipient.
def sampleService : ExecutorService where
  relayer := sampleRelayer
  associatedToken mint owner := if owner = sampleRecipient then (if mint = sampleKey 11 then sampleKey 21 else sampleKey 22)
    else sampleKey 20
  isOnCurve key := decide (key ∉ [sampleConfig,sampleAuthority,sampleEvents])
  deriveReserve mint _ := if mint = sampleKey 11 then sampleKey 23 else sampleKey 24

def samplePairConfig : TestPairConfig where
  tokenX := sampleKey 11
  tokenY := sampleKey 12
  lbPair := samplePair
  binArrayLower := sampleKey 25
  binArrayUpper := sampleKey 26
  lowerBinId := -10
  upperBinId := 9
  width := 20
  activeBin := 0
  binStep := 10
  baseFactor := 0

theorem sample_pda : derivePoolAuthorityPda sampleEnv sampleStealth samplePair = sampleAuthority := by decide

theorem sample_unshared : Unshared sampleEnv sampleStealth samplePair := by
  intro other pair same
  rw [sample_pda] at same
  change (sampleFind (authoritySeeds other pair) ID).1 = sampleAuthority at same
  unfold sampleFind at same
  split at same
  · exact absurd same (by decide)
  · split at same
    · rename_i seeds
      have parts := seeds.1
      simp only [authoritySeeds,List.cons.injEq] at parts
      obtain ⟨_,one,two,_⟩ := parts
      exact ⟨List.Vector.toList_injective one,List.Vector.toList_injective two⟩
    · split at same
      · exact absurd same (by decide)
      · exact absurd same (by decide)

theorem sample_vacant : Vacant sampleStore (derivePoolAuthorityPda sampleEnv sampleStealth samplePair) := by
  rw [sample_pda]
  exact ⟨by decide,by decide⟩

theorem sample_reserves : Reserves sampleEnv sampleWorld where
  calls cpi before after key answered unsigned vacant := by
    change sampleDlmm (cpi,before) = .ok after at answered
    simp only [sampleDlmm] at answered
    split at answered
    · split at answered
      · rename_i free
        cases answered
        have apart : key ≠ (cpi.key 1).getD SYSTEM_PROGRAM_ID := by
          intro same
          obtain ⟨account,listed,signs⟩ := (Option.any_eq_true _ _).mp free.2
          rw [Cpi.key,listed] at same
          rw [unsigned account (List.mem_of_getElem? listed) same.symm] at signs
          cases signs
        rw [Vacant,Function.update_of_ne apart]
        exact vacant
      · cases answered
    · split at answered
      · split at answered
        · rename_i taken
          cases answered
          by_cases same : key = (cpi.key 0).getD SYSTEM_PROGRAM_ID
          · rw [same,Vacant,Function.update_self]
            exact ⟨rfl,rfl⟩
          · rw [Vacant,Function.update_of_ne same]
            exact vacant
        · cases answered
      · cases answered
        exact vacant
  elsewhere before after key moved _ vacant := by
    rw [show after = before from moved]
    exact vacant

def sampleResume : Receipt sampleEnv := ⟨sampleSetup,.setPaused ⟨sampleAdmin,sampleConfig⟩ false⟩
def resumedStore : Store := sampleResume.leads pausedStore

theorem sample_resumed : Runs sampleEnv sampleWorld openedStore [samplePause,sampleResume] resumedStore :=
  .step (.step .nil (sample_step samplePause openedStore (by decide +kernel))) (sample_step sampleResume pausedStore (by decide +kernel))

theorem sample_ready : Ready sampleService sampleOwner resumedStore sampleStealth samplePairConfig .withdrawClose := by
  have recorded : authorityAt resumedStore sampleAuthority =
      some ⟨sampleStealth,sampleRecipient,.Dlmm samplePair samplePosition,252⟩ := by decide +kernel
  refine ⟨by decide +kernel,⟨⟨sampleAdmin,false,255⟩,by decide +kernel,rfl⟩,by decide +kernel,fun pa live => ?_,
    fun _ => ⟨by decide,by decide,by decide,fun pa position live poolRef => ?_⟩⟩
  · rw [show derivePoolAuthorityPda sampleEnv sampleStealth samplePairConfig.lbPair = sampleAuthority from sample_pda,recorded]
      at live
    cases live
    exact ⟨by decide +kernel,by decide +kernel,by decide +kernel,by decide +kernel⟩
  · rw [show derivePoolAuthorityPda sampleEnv sampleStealth samplePairConfig.lbPair = sampleAuthority from sample_pda,recorded]
      at live
    cases live
    cases poolRef
    exact ⟨by decide,by decide⟩

theorem isOk_some {result : Except ε α} (fine : result.isOk = true) : ∃ item, result = .ok item := by
  cases result with
  | ok item => exact ⟨item,rfl⟩
  | error error => cases fine

-- The elaborator would run the sample instructions otherwise.
attribute [local irreducible] handle execute

-- Built while the position is open, sent after a pause that is over.
theorem built_accepted_sample : ∃ tx position exitRecipient cpi next,
    sampleService.build sampleEnv openedStore sampleStealth samplePairConfig .withdrawClose = .ok tx ∧
      Registry.Entered sampleStealth samplePair ⟨position,exitRecipient⟩
        ([sampleConfigure,sampleOpen,samplePause,sampleResume].map Receipt.act) ∧
      handle sampleOwner resumedStore tx.instruction = .call (cpi,resumedStore) next ∧
      Called sampleService sampleOwner resumedStore sampleStealth samplePairConfig .withdrawClose position exitRecipient cpi := by
  obtain ⟨tx,built⟩ := isOk_some (show (sampleService.build sampleEnv openedStore sampleStealth samplePairConfig
    .withdrawClose).isOk = true by decide +kernel)
  obtain ⟨position,exitRecipient,cpi,next,entered,handled,called,_⟩ := built_accepted sample_reserves sample_fresh sample_vacant
    sample_unshared sample_opened built sample_resumed (fun receipt made => by
      rcases List.mem_pair.mp made with rfl | rfl
      · nofun
      · nofun) sample_ready
  exact ⟨tx,position,exitRecipient,cpi,next,built,entered,handled,called⟩

end Octora.ExecutorProgram
