import Octora.ExecutorProgram.Refinement

namespace Octora.ExecutorProgram
open BigEndian Borsh Codec Calls Fallible LittleEndian

-- The act of the registry that a successful instruction is.
def actOf : Instruction → Act Pubkey
  | .initConfig accounts => .configure accounts.authority
  | .setPaused accounts paused => .pause accounts.authority paused
  | .dlmmInitPosition accounts remaining _ _ exitRecipient =>
    .opened accounts.stealth accounts.lbPair ⟨slot remaining 1,exitRecipient⟩
  | .dlmmAddLiquidity accounts _ _ => .used accounts.stealth accounts.lbPair
  | .dlmmClaimFees accounts _ => .used accounts.stealth accounts.lbPair
  | .dlmmWithdrawClose accounts _ _ _ _ => .closed accounts.stealth accounts.lbPair
  | .dlmmSwap accounts _ _ _ => .swapped accounts.stealth

def Cpi.key (cpi : Cpi) (i : Nat) : Option Pubkey := (cpi.accounts[i]?).map AccountMeta.pubkey

def Cpi.Names (cpi : Cpi) (env : Runtime) (ixName : String) : Prop := anchorDiscriminator env ixName <+: cpi.data

-- A token account in slot `i` that belongs to the recipient.
def Cpi.Pays (cpi : Cpi) (current : Store) (i : Nat) (recipient : Pubkey) : Prop :=
  ∃ tokenAccount, cpi.key i = some tokenAccount ∧ ownedBy current tokenAccount recipient

-- The slots in which DLMM's instructions take the position, the pair, the owner
-- who signs for the position, and whoever is paid.
inductive Routed (env : Runtime) (current : Store) (pa lbPair : Pubkey) (holding : Holding Pubkey) (cpi : Cpi) : Prop where
  | initializePosition (named : cpi.Names env "initialize_position") (position : cpi.key 1 = some holding.position)
      (pair : cpi.key 2 = some lbPair) (owner : cpi.key 3 = some pa)
  | addLiquidity (named : cpi.Names env "add_liquidity_by_strategy") (position : cpi.key 0 = some holding.position)
      (pair : cpi.key 1 = some lbPair) (sender : cpi.key 11 = some pa)
  | claimFee (named : cpi.Names env "claim_fee") (pair : cpi.key 0 = some lbPair)
      (position : cpi.key 1 = some holding.position) (sender : cpi.key 4 = some pa)
      (paidX : cpi.Pays current 7 holding.exitRecipient) (paidY : cpi.Pays current 8 holding.exitRecipient)
  | removeLiquidity (named : cpi.Names env "remove_liquidity_by_range") (position : cpi.key 0 = some holding.position)
      (pair : cpi.key 1 = some lbPair) (sender : cpi.key 11 = some pa)
      (paidX : cpi.Pays current 3 holding.exitRecipient) (paidY : cpi.Pays current 4 holding.exitRecipient)
  | closePosition (named : cpi.Names env "close_position") (position : cpi.key 0 = some holding.position)
      (pair : cpi.key 1 = some lbPair) (sender : cpi.key 4 = some pa)
      (rentReceiver : cpi.key 5 = some holding.exitRecipient)

-- The seeds a call is signed with are those of one stealth and one pair: the
-- stealth has signed, and the position and the recipient are the ones on record,
-- or the ones that are being recorded.
structure Vouched {env : Runtime} (message : Message env) (registry : Registry Pubkey) (act : Act Pubkey) (current : Store)
    (cpi : Cpi) (seeds : List (List UInt8)) (stealth lbPair pa : Pubkey) (holding : Holding Pubkey) : Prop where
  bumped : ∃ bump, seeds = authoritySeeds stealth lbPair ++ [[bump]]
  derived : env.createProgramAddress seeds ID = some pa
  signed : message.isSigner stealth = true
  routed : Routed env current pa lbPair holding cpi
  recorded : registry.holdings (stealth,lbPair) = some holding ∨
    (registry.holdings (stealth,lbPair) = none ∧ act = .opened stealth lbPair holding)

structure Isolated {env : Runtime} (message : Message env) (registry : Registry Pubkey) (act : Act Pubkey)
    (current : Store) (cpi : Cpi) : Prop where
  program : cpi.programId = DLMM_PROGRAM_ID
  refined : Refines env current registry
  running : registry.Running
  added : ∀ account ∈ cpi.accounts, account.isSigner = true → message.isSigner account.pubkey = true ∨
    ∃ seeds, cpi.signerSeeds = some seeds ∧ env.createProgramAddress seeds ID = some account.pubkey
  vouched : ∀ seeds, cpi.signerSeeds = some seeds →
    ∃ stealth lbPair pa holding, Vouched message registry act current cpi seeds stealth lbPair pa holding

section Forwarding
variable {env : Runtime} {message : Message env} {remaining : List Pubkey} {pa : Pubkey} {indices : List Nat} {i j signerIdx n : Nat}

theorem buildMetas_key (listed : indices[i]? = some j) :
    ((buildMetas message remaining pa signerIdx indices)[i]?).map AccountMeta.pubkey =
      some (if j = signerIdx then pa else slot remaining j) := by
  rw [buildMetas,List.getElem?_map,listed]
  by_cases signs : j = signerIdx
  · simp [metaOf,signs]
  · simp [metaOf,signs]

theorem forwarded_key (length : remaining.length = n) (inside : i < n) :
    ((buildMetas message remaining pa signerIdx (List.range remaining.length))[i]?).map AccountMeta.pubkey =
      some (if i = signerIdx then pa else slot remaining i) :=
  buildMetas_key (List.getElem?_range (by omega))

theorem removeLiquidity_key {accounts : PoolAccounts} (inside : i < 16) :
    (removeLiquidityIx message accounts remaining lbPair bump fromBinId toBinId bpsToRemove).key i =
      some (if i = 11 then accounts.poolAuthority else slot remaining i) := buildMetas_key (List.getElem?_range inside)

theorem closePosition_key {accounts : PoolAccounts} (listed : [0,1,9,10,11,16,14,15][i]? = some j) :
    (closePositionIx message accounts remaining lbPair bump).key i =
      some (if j = 11 then accounts.poolAuthority else slot remaining j) := buildMetas_key listed

theorem prepared_added {cpi : Cpi} (prepared : Prepared message cpi) :
    ∀ account ∈ cpi.accounts, account.isSigner = true → message.isSigner account.pubkey = true ∨
      ∃ seeds, cpi.signerSeeds = some seeds ∧ env.createProgramAddress seeds ID = some account.pubkey := by
  intro account inside signs
  obtain ⟨derived,signers,granted⟩ := prepared.signers
  rcases (granted account inside).2 signs with outer | added
  · exact .inl outer
  · refine .inr ?_
    cases named : cpi.signerSeeds with
    | none =>
      rw [named] at signers
      cases signers
      cases added
    | some seeds =>
      refine ⟨seeds,rfl,?_⟩
      simp only [named,derivedSigners] at signers
      split at signers
      · rename_i address found
        cases signers
        rw [List.mem_singleton.mp added]
        exact found
      · cases signers

end Forwarding

section Recorded
variable {env : Runtime} {message : Message env} {store current : Store} {registry : Registry Pubkey}

-- What the guards of a held position establish against the registry.
theorem guarded_recorded (refines : Refines env store registry) (guarded : Guarded message store accounts pa)
    (poolRef : pa.poolRef = .Dlmm lbPair position) :
    registry.Running ∧ registry.holdings (accounts.stealth,lbPair) = some ⟨position,pa.exitRecipient⟩ := by
  obtain ⟨config,active⟩ := guarded.active
  refine ⟨⟨config.authority,active_running refines active⟩,?_⟩
  obtain ⟨pair,place,named,held,_⟩ := (refines.holdings accounts.poolAuthority pa).mp guarded.stored
  rw [poolRef] at named
  cases named
  rw [← guarded.stealth]
  exact held

theorem isolated_held (refines : Refines env store registry) (refined : Refines env current registry) (guarded : Guarded message store accounts pa)
    (poolRef : pa.poolRef = .Dlmm lbPair position) (declared : accounts.lbPair = lbPair) {cpi : Cpi}
    (program : cpi.programId = DLMM_PROGRAM_ID) (signs : cpi.signerSeeds = some (signerSeeds accounts lbPair pa.bump))
    (prepared : Prepared message cpi) (routed : Routed env current accounts.poolAuthority lbPair ⟨position,pa.exitRecipient⟩ cpi) :
    Isolated message registry act current cpi := by
  obtain ⟨running,held⟩ := guarded_recorded refines guarded poolRef
  refine ⟨program,refined,running,prepared_added prepared,fun seeds named => ?_⟩
  rw [signs] at named
  cases named
  refine ⟨accounts.stealth,lbPair,accounts.poolAuthority,_,⟨⟨pa.bump,rfl⟩,?_,guarded.signed,routed,.inl held⟩⟩
  have derived := guarded.derived
  rw [declared] at derived
  exact derived

theorem created_unrecorded (refines : Refines env store registry)
    (made : Created env store key (authoritySeeds stealth lbPair) space created bump) :
    registry.holdings (stealth,lbPair) = none := by
  cases held : registry.holdings (stealth,lbPair) with
  | none => rfl
  | some holding =>
    have stored := (refines.holdings key ⟨stealth,holding.exitRecipient,.Dlmm lbPair holding.position,bump⟩).mpr
      ⟨lbPair,holding.position,rfl,held,made.address⟩
    exact absurd ((holds_some.mp stored).1.symm.trans made.fresh) ID_apart

end Recorded

-- Every call an instruction makes is isolated, and a successful instruction takes
-- the registry one step.
def Outcome {env : Runtime} (message : Message env) (registry : Registry Pubkey) (act : Act Pubkey) :
    Except Error Store → Unit → Prop :=
  Ends (fun after _ => message.isSigner act.actor = true ∧ ∃ later, registry.Step act later ∧ Refines env after later)
    fun _ _ => True

section Handlers
variable {env : Runtime} {message : Message env} {store : Store} {registry : Registry Pubkey} {world : World}

theorem initConfig_refines (refines : Refines env store registry) (accepted : initConfig message store accounts = .ok after) :
    message.isSigner accounts.authority = true ∧
      ∃ later, registry.Step (.configure accounts.authority) later ∧ Refines env after later := by
  simp only [initConfig,requireSigner,requireMut,do_ok,require_ok,exists_const] at accepted
  obtain ⟨signed,_,_,⟨created,bump⟩,ran,_,_,saved⟩ := accepted
  have made := initAccount_created ran
  have blank : authorityAt created accounts.config = none := by
    rw [authorityAt,holds,if_pos made.owner,made.data]
    exact poolAuthority_unzeroed fun byte => List.eq_of_mem_replicate
  have unnamed : registry.admin = none := by
    cases named : registry.admin with
    | none => rfl
    | some admin =>
      have stored := (refines.admin accounts.config ⟨admin.1,admin.2,bump⟩).mpr ⟨named,made.address⟩
      exact absurd ((holds_some.mp stored).1.symm.trans made.fresh) ID_apart
  refine ⟨signed,_,.configure unnamed,refines_configured refines made.address ?_ ?_⟩
  · exact (save_holds made.owner saved).trans (by rw [← confined_config made.confined]; rfl)
  · exact (save_other (fun _ _ => config_notPoolAuthority) blank saved).trans (confined_authority made.confined)

theorem setPaused_refines (refines : Refines env store registry) (accepted : setPaused message store accounts paused = .ok after) :
    message.isSigner accounts.authority = true ∧
      ∃ later, registry.Step (.pause accounts.authority paused) later ∧ Refines env after later := by
  simp only [setPaused,requireSigner,requireMut,do_ok,require_ok,exists_const,loadConfig_ok] at accepted
  obtain ⟨signed,config,stored,_,_,named,saved⟩ := accepted
  obtain ⟨admin,derived⟩ := (refines.admin accounts.config config).mp stored
  rw [named] at admin
  refine ⟨signed,_,.pause admin,refines_configured refines derived ?_ ?_⟩
  · rw [← named]
    exact save_holds (holds_some.mp stored).1 saved
  · exact save_other (fun _ _ => config_notPoolAuthority) (config_notAuthority stored) saved

theorem initPosition_isolated (refines : Refines env store registry) :
    (initPosition message store accounts remaining lowerBinId width exitRecipient).Follows world.Answers
      (fun query _ => Isolated message registry (.opened accounts.stealth accounts.lbPair ⟨slot remaining 1,exitRecipient⟩)
        query.2 query.1)
      (Outcome message registry (.opened accounts.stealth accounts.lbPair ⟨slot remaining 1,exitRecipient⟩)) () := by
  refine initPosition_follows (fun _ => trivial) fun created bump accepted checked prepared => ?_
  simp only [initPositionAccounts,requireSigner,requireMut,do_ok,require_ok,exists_const] at accepted
  obtain ⟨signed,_,_,_,_,found,ran,_,_,running,same⟩ := accepted
  cases same
  obtain ⟨config,active⟩ := requireActive_ok.mp running
  have made := initAccount_created ran
  have going : registry.Running := ⟨config.authority,active_running refines active⟩
  have unrecorded := created_unrecorded refines made
  have address : env.createProgramAddress (authoritySeeds accounts.stealth accounts.lbPair ++ [[bump]]) ID =
      some accounts.poolAuthority := by
    have found := env.found (authoritySeeds accounts.stealth accounts.lbPair) ID
    rw [made.address] at found
    exact found
  have declared := checked.declared
  constructor
  · refine ⟨rfl,refines_confined refines made.confined,going,prepared_added prepared,fun seeds named => ?_⟩
    cases named
    rw [← declared]
    refine ⟨accounts.stealth,accounts.lbPair,accounts.poolAuthority,_,⟨⟨bump,rfl⟩,address,signed,?_,.inr ⟨unrecorded,rfl⟩⟩⟩
    refine .initializePosition (List.prefix_append _ _) ?_ ?_ ?_
    · exact forwarded_key checked.length (by decide)
    · rw [declared]
      exact forwarded_key checked.length (by decide)
    · exact forwarded_key checked.length (by decide)
  · intro after called saved ran'
    have confined := world.callsConfined _ _ _ called
    obtain ⟨owned,same⟩ := confined.kept accounts.poolAuthority made.owner
    have zeroed : ∀ byte ∈ (after accounts.poolAuthority).data, byte = 0 := by
      rw [same,made.data]
      exact fun byte => List.eq_of_mem_replicate
    have blank : configAt after accounts.poolAuthority = none := by
      rw [configAt,holds,if_pos owned]
      exact config_unzeroed zeroed
    have vacant : authorityAt store accounts.poolAuthority = none := by
      rw [authorityAt,holds,if_neg fun mine => ID_apart (mine.symm.trans made.fresh)]
    have whole := confined_trans made.confined confined
    refine ⟨signed,_,.opened going unrecorded,refines_opened refines vacant made.address ?_ ?_⟩
    · exact (save_other (fun _ _ => poolAuthority_notConfig) blank ran').trans (confined_config whole)
    · rw [declared,← confined_authority whole]
      exact save_holds owned ran'

theorem addLiquidity_isolated (refines : Refines env store registry) :
    (addLiquidity message store accounts remaining liquidityParams).Follows world.Answers
      (fun query _ => Isolated message registry (.used accounts.stealth accounts.lbPair) query.2 query.1)
      (Outcome message registry (.used accounts.stealth accounts.lbPair)) () := by
  refine addLiquidity_follows (fun _ => trivial) fun pa lbPair position guarded checked prepared => ?_
  have declared := checked.declared.symm.trans checked.paired
  constructor
  · refine isolated_held refines refines guarded checked.poolRef declared rfl rfl prepared
      (.addLiquidity (List.prefix_append _ _) ?_ ?_ ?_)
    · rw [← checked.named]
      exact forwarded_key checked.length (by decide)
    · rw [← checked.paired]
      exact forwarded_key checked.length (by decide)
    · exact forwarded_key checked.length (by decide)
  · intro after called
    obtain ⟨running,held⟩ := guarded_recorded refines guarded checked.poolRef
    rw [← declared] at held
    exact ⟨guarded.signed,registry,.used running held,refines_confined refines (world.callsConfined _ _ _ called)⟩

theorem claimFees_isolated (refines : Refines env store registry) :
    (claimFees message store accounts remaining).Follows world.Answers
      (fun query _ => Isolated message registry (.used accounts.stealth accounts.lbPair) query.2 query.1)
      (Outcome message registry (.used accounts.stealth accounts.lbPair)) () := by
  refine claimFees_follows (fun _ => trivial) fun pa lbPair position guarded checked prepared => ?_
  constructor
  · refine isolated_held refines refines guarded checked.poolRef checked.declared rfl rfl prepared
      (.claimFee (List.prefix_append _ _) ?_ ?_ ?_ ⟨_,forwarded_key checked.length (by decide),checked.ownerX⟩
        ⟨_,forwarded_key checked.length (by decide),checked.ownerY⟩)
    · rw [← checked.paired]
      exact forwarded_key checked.length (by decide)
    · rw [← checked.named]
      exact forwarded_key checked.length (by decide)
    · exact forwarded_key checked.length (by decide)
  · intro after called
    obtain ⟨running,held⟩ := guarded_recorded refines guarded checked.poolRef
    rw [← checked.declared] at held
    exact ⟨guarded.signed,registry,.used running held,refines_confined refines (world.callsConfined _ _ _ called)⟩

theorem withdrawClose_isolated (refines : Refines env store registry) :
    (withdrawClose message store accounts remaining fromBinId toBinId bpsToRemove).Follows world.Answers
      (fun query _ => Isolated message registry (.closed accounts.stealth accounts.lbPair) query.2 query.1)
      (Outcome message registry (.closed accounts.stealth accounts.lbPair)) () := by
  refine withdrawClose_follows (fun _ => trivial) fun pa lbPair position guarded checked prepared => ?_
  constructor
  · refine isolated_held refines refines guarded.toGuarded checked.poolRef checked.declared rfl rfl prepared
      (.removeLiquidity ((List.prefix_append _ _).trans (List.prefix_refl _)) ?_ ?_ ?_
        ⟨_,removeLiquidity_key (by decide),checked.ownerX⟩ ⟨_,removeLiquidity_key (by decide),checked.ownerY⟩)
    · rw [← checked.named]
      exact removeLiquidity_key (by decide)
    · rw [← checked.paired]
      exact removeLiquidity_key (by decide)
    · exact removeLiquidity_key (by decide)
  · intro removed first prepared
    constructor
    · refine isolated_held refines (refines_confined refines (world.callsConfined _ _ _ first)) guarded.toGuarded checked.poolRef checked.declared rfl rfl prepared
        (.closePosition (List.prefix_append _ _) ?_ ?_ ?_ ?_)
      · rw [← checked.named]
        exact closePosition_key (j := 0) rfl
      · rw [← checked.paired]
        exact closePosition_key (j := 1) rfl
      · exact closePosition_key (j := 11) rfl
      · change _ = some pa.exitRecipient
        rw [← checked.rentReceiver]
        exact closePosition_key (j := 16) rfl
    · intro closed second after ended
      have confined := confined_trans (world.callsConfined _ _ _ first) (world.callsConfined _ _ _ second)
      obtain ⟨running,held⟩ := guarded_recorded refines guarded.toGuarded checked.poolRef
      rw [← checked.declared] at held
      have poolRef := checked.poolRef
      rw [← checked.declared] at poolRef
      have ours : pa.stealthPubkey = accounts.stealth := guarded.stealth
      refine ⟨guarded.signed,_,.closed running held,?_⟩
      rw [← ours]
      refine refines_closed refines guarded.stored poolRef ?_ ?_
      · have none_ := authority_notConfig guarded.stored
        have left : configAt after = Function.update (configAt closed) accounts.poolAuthority none := closeAccount_holds ended
        rw [left,confined_config confined,Function.update_eq_self_iff,none_]
      · rw [← confined_authority confined]
        exact closeAccount_holds ended

theorem swap_isolated (refines : Refines env store registry) :
    (swap message store accounts remaining amountIn minAmountOut).Follows world.Answers
      (fun query _ => Isolated message registry (.swapped accounts.stealth) query.2 query.1)
      (Outcome message registry (.swapped accounts.stealth)) () := by
  refine swap_follows (fun _ => trivial) fun preOut guarded checked prepared => ?_
  obtain ⟨config,active⟩ := guarded.active
  have running : registry.Running := ⟨config.authority,active_running refines active⟩
  refine ⟨⟨rfl,refines,running,prepared_added prepared,fun _ => nofun⟩,?_⟩
  intro after called _
  exact ⟨guarded.signed,registry,.swapped running,refines_confined refines (world.callsConfined _ _ _ called)⟩

theorem handle_isolated (world : World) (message : Message env) (refines : Refines env store registry)
    (instruction : Instruction) :
    (handle message store instruction).Follows world.Answers
      (fun query _ => Isolated message registry (actOf instruction) query.2 query.1)
      (Outcome message registry (actOf instruction)) () := by
  cases instruction with
  | initConfig accounts =>
    refine follows_lift.mpr ?_
    cases ran : initConfig message store accounts with
    | ok after => exact initConfig_refines refines ran
    | error error => trivial
  | setPaused accounts paused =>
    refine follows_lift.mpr ?_
    cases ran : setPaused message store accounts paused with
    | ok after => exact setPaused_refines refines ran
    | error error => trivial
  | dlmmInitPosition => exact initPosition_isolated refines
  | dlmmAddLiquidity => exact addLiquidity_isolated refines
  | dlmmClaimFees => exact claimFees_isolated refines
  | dlmmWithdrawClose => exact withdrawClose_isolated refines
  | dlmmSwap => exact swap_isolated refines

end Handlers

end Octora.ExecutorProgram
