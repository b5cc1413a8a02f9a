import Octora.ExecutorProgram.Acceptance

namespace Octora.ExecutorProgram
open BigEndian Borsh Codec Calls Fallible LittleEndian

section Opening
variable {env : Runtime} {world : World} {start chain store : Store} {service : ExecutorService}
  {position stealth lbPair exitRecipient : Pubkey} {lowerBinId width : Int}

theorem read_written (live : authorityAt chain key = some pa) : (chain key).data ≠ [] := by
  obtain ⟨_,read⟩ := holds_some.mp live
  intro empty
  rw [empty,poolAuthority_unzeroed fun byte inside => absurd inside List.not_mem_nil] at read
  cases read

theorem info_written (written : (chain key).data ≠ []) : getAccountInfo chain key = some (chain key) := by
  refine if_neg fun blank => written ?_
  rw [blank]

theorem live_fetch (live : authorityAt chain key = some pa) : fetchPoolAuthority chain key = .ok pa := by
  have written := read_written live
  simp only [fetchPoolAuthority,info_written written,if_neg written,(holds_some.mp live).2]

theorem position_info {layout : List UInt8 → Option DlmmPosition} (there : positionOf layout chain place = some found) : getAccountInfo chain place = some (chain place) := by
  refine if_neg fun blank => ?_
  rw [positionOf,if_neg (by rw [blank]; exact system_apart)] at there
  cases there

-- What the service answers at any state: an open position is named, and it is
-- alive; an empty address gets its transaction; an address that holds lamports and
-- nothing else is refused. That the record would be stale does not happen.
theorem init_verdict (service : ExecutorService) (venue : Venue env world) (reserves : Reserves env world) (fresh : Fresh start)
    (vacant : Vacant start (derivePoolAuthorityPda env stealth lbPair)) (unshared : Unshared env stealth lbPair)
    (apart : configPda env ≠ derivePoolAuthorityPda env stealth lbPair) (runs : Runs env world start receipts chain) :
    (∃ place pa, Stands env chain stealth lbPair place pa ∧
      positionOf venue.read chain place = some ⟨lbPair,derivePoolAuthorityPda env stealth lbPair⟩ ∧
      service.buildInitPositionTx env chain position stealth lbPair exitRecipient lowerBinId width =
        .ok (.alreadyInitialized place (derivePoolAuthorityPda env stealth lbPair))) ∨
    (getAccountInfo chain (derivePoolAuthorityPda env stealth lbPair) = none ∧
      service.buildInitPositionTx env chain position stealth lbPair exitRecipient lowerBinId width =
        service.initPositionTransaction env position stealth lbPair exitRecipient lowerBinId width) ∨
    (Vacant chain (derivePoolAuthorityPda env stealth lbPair) ∧
      getAccountInfo chain (derivePoolAuthorityPda env stealth lbPair) ≠ none ∧
      service.buildInitPositionTx env chain position stealth lbPair exitRecipient lowerBinId width =
        .error (.missing (derivePoolAuthorityPda env stealth lbPair))) := by
  have derived : Derived env (derivePoolAuthorityPda env stealth lbPair) := ⟨_,env.found _ _⟩
  obtain ⟨registry,_,refines,_⟩ := runs_refine fresh runs
  rcases runs_settled reserves derived vacant runs with free | ⟨pa,live⟩ | ⟨config,stored⟩
  · by_cases blank : getAccountInfo chain (derivePoolAuthorityPda env stealth lbPair) = none
    · refine .inr (.inl ⟨blank,?_⟩)
      simp only [ExecutorService.buildInitPositionTx,blank]
    · refine .inr (.inr ⟨free,blank,?_⟩)
      have held : getAccountInfo chain (derivePoolAuthorityPda env stealth lbPair) =
          some (chain (derivePoolAuthorityPda env stealth lbPair)) := by
        unfold getAccountInfo at blank ⊢
        split <;> simp_all
      simp only [ExecutorService.buildInitPositionTx,fetchPositionFromAuthority,fetchPoolAuthority,held,if_pos free.2,bind,
        Except.bind]
  · obtain ⟨place,stands,_⟩ := live_stands refines unshared live
    have there := runs_lockstep venue fresh runs _ pa lbPair place live stands.poolRef
    refine .inl ⟨place,pa,stands,there,?_⟩
    have fetched := fetchPosition_ok (live_fetch live) stands.poolRef
    simp only [ExecutorService.buildInitPositionTx,info_written (read_written live),fetched,bind,Except.bind,
      position_info there]
  · have address := ((refines.admin _ config).mp stored).2
    exact absurd (congrArg Prod.fst address) apart

-- The message grants what the built accounts are flagged with.
def Carried (message : Message env) (tx : Built) : Prop :=
  ∀ account ∈ tx.metas, (account.isSigner = true → message.isSigner account.pubkey = true) ∧
    (account.isWritable = true → message.isWritable account.pubkey = true)

-- What holds when the opening executes: the wallet signs and pays the rent that the
-- address lacks.
structure Openable (message : Message env) (store : Store) (stealth lbPair : Pubkey) : Prop where
  signed : message.isSigner stealth = true
  rentUnsigned : message.isSigner RENT_ID = false
  writableStealth : message.isWritable stealth = true
  writableAuthority : message.isWritable (derivePoolAuthorityPda env stealth lbPair) = true
  running : ∃ current, configAt store (configPda env) = some current ∧ current.paused = false
  events : eventAuthority env = DLMM_EVENT_AUTHORITY
  system : (store SYSTEM_PROGRAM_ID).executable = true
  rent : (store RENT_ID).executable = false
  wallet : (store stealth).owner = SYSTEM_PROGRAM_ID ∧ (store stealth).data = []
  funds : env.minimumBalance PoolAuthority.SPACE - (store (derivePoolAuthorityPda env stealth lbPair)).lamports ≤
    (store stealth).lamports
  bounded : env.minimumBalance PoolAuthority.SPACE < 2 ^ 64

theorem topUp_funded (apart : payer ≠ key) (wallet : (store payer).owner = SYSTEM_PROGRAM_ID ∧ (store payer).data = [])
    (funds : missing ≤ (store payer).lamports) (bounded : 0 < missing → (store key).lamports + missing < 2 ^ 64) :
    ∃ funded, topUp store payer key missing = .ok funded ∧ ∀ other, (funded other).executable = (store other).executable := by
  by_cases nothing : missing = 0
  · exact ⟨store,if_pos nothing,fun _ => rfl⟩
  · have held : (store.setLamports payer ((store payer).lamports - missing) key).lamports = (store key).lamports := by
      rw [Store.setLamports,Function.update_of_ne apart.symm]
    refine ⟨(store.setLamports payer ((store payer).lamports - missing)).setLamports key ((store key).lamports + missing),?_,
      fun other => ?_⟩
    · simp only [topUp,if_neg nothing,Store.systemTransfer,Store.debit,Store.credit,do_ok,require_ok,exists_const]
      exact ⟨wallet,_,⟨funds,rfl⟩,by rw [held]; exact bounded (Nat.pos_of_ne_zero nothing),by rw [held]⟩
    · simp

theorem opening_created {message : Message env} (accounts : DlmmInitPosition)
    (named : accounts.poolAuthority = derivePoolAuthorityPda env accounts.stealth accounts.lbPair)
    (program : accounts.systemProgram = SYSTEM_PROGRAM_ID) (configured : accounts.config = configPda env)
    (refines : Refines env store registry) (openable : Openable message store accounts.stealth accounts.lbPair)
    (free : Vacant store accounts.poolAuthority) :
    ∃ created bump, initPositionAccounts message store accounts = .ok (created,bump) ∧
      Created env store accounts.poolAuthority (authoritySeeds accounts.stealth accounts.lbPair) PoolAuthority.SPACE created bump ∧
      (created RENT_ID).executable = false := by
  obtain ⟨current,stored,running⟩ := openable.running
  have active := config_active refines stored running
  have apart : accounts.stealth ≠ accounts.poolAuthority := by
    intro same
    have unsigned := message.derivedUnsigned _ _ (env.found (authoritySeeds accounts.stealth accounts.lbPair) ID)
    rw [show (env.findProgramAddress _ ID).1 = accounts.stealth from (same.trans named).symm,openable.signed] at unsigned
    cases unsigned
  have funds := openable.funds
  have bounded := openable.bounded
  rw [← named] at funds
  obtain ⟨funded,topped,kept⟩ := topUp_funded apart openable.wallet funds fun _ => by omega
  have made : initAccount env message store accounts.stealth accounts.poolAuthority
      (authoritySeeds accounts.stealth accounts.lbPair) PoolAuthority.SPACE =
      .ok ((funded.assign accounts.poolAuthority ID).setData accounts.poolAuthority (List.replicate PoolAuthority.SPACE 0),
        (env.findProgramAddress (authoritySeeds accounts.stealth accounts.lbPair) ID).2) := by
    simp only [initAccount,do_ok,require_ok,exists_const]
    exact ⟨named,by rw [named]; exact openable.writableAuthority,free,funded,topped,rfl⟩
  have passed : requireActive store env accounts.config = .ok () := by
    rw [configured]
    exact requireActive_ok.mpr ⟨current,active⟩
  refine ⟨_,_,?_,initAccount_created made,?_⟩
  · simp only [initPositionAccounts,requireSigner,requireMut,requireSystem,do_ok,require_ok,exists_const]
    rw [configured] at passed ⊢
    rw [program]
    exact ⟨openable.signed,current,loadConfig_ok.mpr stored,⟨rfl,openable.system⟩,_,made,openable.writableStealth,(),passed,
      rfl⟩
  · simp only [setData_executable,assign_executable,kept,openable.rent]

theorem save_fits {layout : Codec α} (fits : (layout.encode item).length ≤ (store key).data.length) :
    ∃ saved, save layout store key item = .ok saved :=
  ⟨_,by rw [save,(require_ok _ _ ()).mpr fits]; rfl⟩

theorem unopened_free (reserves : Reserves env world) (fresh : Fresh start)
    (vacant : Vacant start (derivePoolAuthorityPda env stealth lbPair)) (unshared : Unshared env stealth lbPair)
    (apart : configPda env ≠ derivePoolAuthorityPda env stealth lbPair) (earlier : Runs env world start past chain)
    (blank : getAccountInfo chain (derivePoolAuthorityPda env stealth lbPair) = none)
    (later : Runs env world chain receipts store)
    (unopened : ∀ receipt ∈ receipts, ∀ holding, receipt.act ≠ .opened stealth lbPair holding) :
    Vacant store (derivePoolAuthorityPda env stealth lbPair) := by
  have derived : Derived env (derivePoolAuthorityPda env stealth lbPair) := ⟨_,env.found _ _⟩
  obtain ⟨registry,_,refines,_⟩ := runs_refine fresh earlier
  obtain ⟨last,acts,refined,_⟩ := runs_continue refines later
  have free : registry.holdings (stealth,lbPair) = none := by
    cases held : registry.holdings (stealth,lbPair) with
    | none => rfl
    | some holding =>
      have address : env.findProgramAddress (authoritySeeds stealth lbPair) ID =
          (derivePoolAuthorityPda env stealth lbPair,(env.findProgramAddress (authoritySeeds stealth lbPair) ID).2) := rfl
      have live := (refines.holdings _ ⟨stealth,holding.exitRecipient,.Dlmm lbPair holding.position,_⟩).mpr
        ⟨lbPair,holding.position,rfl,held,address⟩
      rw [info_written (read_written live)] at blank
      cases blank
  have still := Registry.runs_unopened acts free fun holding inside => by
    obtain ⟨receipt,made,act⟩ := List.mem_map.mp inside
    exact unopened receipt made holding act
  rcases runs_settled reserves derived vacant (runs_trans earlier later) with empty | ⟨pa,live⟩ | ⟨config,stored⟩
  · exact empty
  · obtain ⟨place,_,held⟩ := live_stands refined unshared live
    rw [still] at held
    cases held
  · exact absurd (congrArg Prod.fst ((refined.admin _ config).mp stored).2) apart

-- An opening the service has built stays good until the pair is opened: it reaches
-- DLMM, and when DLMM takes it the position and the recipient asked for stand.
theorem init_accepted {message : Message env} (reserves : Reserves env world) (fresh : Fresh start)
    (vacant : Vacant start (derivePoolAuthorityPda env stealth lbPair)) (unshared : Unshared env stealth lbPair)
    (apart : configPda env ≠ derivePoolAuthorityPda env stealth lbPair) (earlier : Runs env world start past chain)
    (built : service.buildInitPositionTx env chain position stealth lbPair exitRecipient lowerBinId width =
      .ok (.transaction tx place pda))
    (later : Runs env world chain receipts store)
    (unopened : ∀ receipt ∈ receipts, ∀ holding, receipt.act ≠ .opened stealth lbPair holding)
    (carried : Carried message tx) (openable : Openable message store stealth lbPair) :
    ∃ cpi created next, handle message store tx.instruction = .call (cpi,created) next ∧
      Routed env created (derivePoolAuthorityPda env stealth lbPair) lbPair ⟨position,exitRecipient⟩ cpi ∧
      cpi.data = anchorDiscriminator env "initialize_position" ++ (signedBytes 4 lowerBinId ++ signedBytes 4 width) ∧
      ∀ dlmm : Dlmm, (∀ query, world.Answers query () (dlmm query) ()) →
        (∃ after pa, execute message dlmm store tx.instruction = .ok after ∧ Stands env after stealth lbPair position pa ∧
          pa.exitRecipient = exitRecipient) ∨
          ∃ error, dlmm (cpi,created) = .error error ∧ execute message dlmm store tx.instruction = .error error := by
  have blank : getAccountInfo chain (derivePoolAuthorityPda env stealth lbPair) = none := by
    cases info : getAccountInfo chain (derivePoolAuthorityPda env stealth lbPair) with
    | none => rfl
    | some account =>
      simp only [ExecutorService.buildInitPositionTx,info,do_ok] at built
      obtain ⟨recorded,_,named⟩ := built
      split at named
      · cases named
      · cases named
  simp only [ExecutorService.buildInitPositionTx,blank,ExecutorService.initPositionTransaction,do_ok] at built
  obtain ⟨lower,first,wide,second,same⟩ := built
  cases same
  obtain ⟨registry,_,refines,_⟩ := runs_refine fresh (runs_trans earlier later)
  have free := unopened_free reserves fresh vacant unshared apart earlier blank later unopened
  let accounts : DlmmInitPosition := ⟨stealth,derivePoolAuthorityPda env stealth lbPair,lbPair,DLMM_PROGRAM_ID,configPda env,
    SYSTEM_PROGRAM_ID⟩
  let remaining := keysOf (service.initPositionMetas position lbPair (derivePoolAuthorityPda env stealth lbPair))
  obtain ⟨created,bump,accepted,made,inert⟩ := opening_created accounts rfl rfl rfl refines openable free
  have checked : InitPositionChecked message created accounts remaining :=
    ⟨rfl,rfl,(carried (signing position) (by simp [ExecutorService.initPositionMetas])).1 rfl,rfl,rfl,
      ⟨rfl,openable.rentUnsigned,inert⟩,openable.events.symm,rfl⟩
  have address := env.found (authoritySeeds stealth lbPair) ID
  rw [made.address] at address
  have prepared : Prepared message (initPositionIx message accounts remaining bump lower wide) :=
    forwarded_prepared rfl (by rw [checked.length]; decide) (fun i among => List.mem_range.mp among) address
  have handled : initPosition message store accounts remaining lower wide exitRecipient = _ :=
    initPosition_sends accepted checked prepared
  refine ⟨_,created,_,handled,.initializePosition (List.prefix_append _ _) ?_ ?_ ?_,?_,fun dlmm possible => ?_⟩
  · exact forwarded_key checked.length (by decide)
  · exact forwarded_key checked.length (by decide)
  · exact forwarded_key checked.length (by decide)
  · rw [initPositionIx,buildDlmmIx,asI32_toInt first,asI32_toInt second]
  · cases answer : dlmm (initPositionIx message accounts remaining bump lower wide,created) with
    | error error =>
      refine .inr ⟨error,rfl,?_⟩
      rw [execute,handle,handled,Op.run,answer]
      rfl
    | ok after =>
      obtain ⟨owned,kept⟩ := (world.callsConfined _ _ _ (possible _ after answer)).kept accounts.poolAuthority made.owner
      let record : PoolAuthority := ⟨stealth,exitRecipient,.Dlmm lbPair position,bump⟩
      obtain ⟨saved,stored⟩ : ∃ saved, save PoolAuthority.layout after accounts.poolAuthority record = .ok saved :=
        save_fits (by rw [kept,made.data,List.length_replicate]; exact poolAuthority_fits _)
      refine .inl ⟨saved,record,?_,⟨?_,rfl,rfl,made.address⟩,rfl⟩
      · rw [execute,handle,handled,Op.run,answer]
        change (Op.lift (save PoolAuthority.layout after accounts.poolAuthority record)).run dlmm = _
        rw [stored]
        rfl
      · rw [authorityAt,save_holds owned stored]
        exact Function.update_self _ _ _

end Opening

-- The elaborator would run the sample instructions otherwise.
attribute [local irreducible] handle execute

theorem init_verdict_sample : ∃ place pa, Stands sampleEnv openedStore sampleStealth samplePair place pa ∧
    sampleService.buildInitPositionTx sampleEnv openedStore (sampleKey 7) sampleStealth samplePair sampleRecipient (-10) 20 =
      .ok (.alreadyInitialized place sampleAuthority) := by
  rcases init_verdict sampleService sampleVenue sample_reserves sample_fresh sample_vacant sample_unshared
    (by decide) sample_opened with ⟨place,pa,stands,_,answer⟩ | ⟨blank,_⟩ | ⟨free,_⟩
  · rw [sample_pda] at answer
    exact ⟨place,pa,stands,answer⟩
  · rw [sample_pda] at blank
    exact absurd blank (by decide +kernel)
  · rw [sample_pda] at free
    exact absurd free.1 (by decide +kernel)

def configuredStore : Store := sampleConfigure.leads sampleStore

theorem init_accepted_sample : ∃ tx cpi created next,
    sampleService.buildInitPositionTx sampleEnv configuredStore samplePosition sampleStealth samplePair sampleRecipient (-10) 20 =
      .ok (.transaction tx samplePosition sampleAuthority) ∧
    handle sampleOpening configuredStore tx.instruction = .call (cpi,created) next ∧
    Routed sampleEnv created sampleAuthority samplePair ⟨samplePosition,sampleRecipient⟩ cpi := by
  have blank : getAccountInfo configuredStore sampleAuthority = none := by decide +kernel
  let metas := sampleService.initPositionMetas samplePosition samplePair sampleAuthority
  let tx : Built := ⟨.dlmmInitPosition
    ⟨sampleStealth,sampleAuthority,samplePair,DLMM_PROGRAM_ID,configPda sampleEnv,SYSTEM_PROGRAM_ID⟩ (keysOf metas) (-10) 20
    sampleRecipient,metas⟩
  have built : sampleService.buildInitPositionTx sampleEnv configuredStore samplePosition sampleStealth samplePair sampleRecipient
      (-10) 20 = .ok (.transaction tx samplePosition sampleAuthority) := by
    simp only [ExecutorService.buildInitPositionTx,sample_pda,blank,ExecutorService.initPositionTransaction]
    rfl
  have configured : Runs sampleEnv sampleWorld sampleStore [sampleConfigure] configuredStore :=
    .step .nil (sample_step sampleConfigure sampleStore (by decide +kernel))
  have carried : Carried sampleOpening tx := by
    rw [Carried]
    decide +kernel
  have openable : Openable sampleOpening configuredStore sampleStealth samplePair :=
    ⟨by decide +kernel,by decide +kernel,by decide +kernel,by decide +kernel,⟨⟨sampleAdmin,false,255⟩,by decide +kernel,rfl⟩,
      by decide +kernel,by decide +kernel,by decide +kernel,by decide +kernel,by decide +kernel,by decide +kernel⟩
  obtain ⟨cpi,created,next,handled,routed,_⟩ := init_accepted sample_reserves sample_fresh sample_vacant sample_unshared
    (by decide +kernel) configured built .nil nofun carried openable
  rw [sample_pda] at routed
  exact ⟨tx,cpi,created,next,built,handled,routed⟩

end Octora.ExecutorProgram
