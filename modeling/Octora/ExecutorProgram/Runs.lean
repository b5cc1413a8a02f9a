import Octora.ExecutorProgram.Isolation

namespace Octora.ExecutorProgram
open BigEndian Borsh Codec Calls Fallible LittleEndian

-- An instruction that succeeded, with the privileges it was called with.
structure Receipt (env : Runtime) where
  message : Message env
  instruction : Instruction

def Receipt.act {env : Runtime} (receipt : Receipt env) : Act Pubkey := actOf receipt.instruction

-- `refused` is a transaction that failed, here or in another instruction of it:
-- nothing of it remains. Everything else the chain does is `elsewhere`.
inductive Step (env : Runtime) (world : World) : Store → List (Receipt env) → Store → Prop where
  | executed (message : Message env) (dlmm : Dlmm) (possible : ∀ query, world.Answers query () (dlmm query) ())
      (instruction : Instruction) (done : execute message dlmm before instruction = .ok after) :
      Step env world before [⟨message,instruction⟩] after
  | refused : Step env world before [] before
  | elsewhere (moved : world.elsewhere before after) : Step env world before [] after

inductive Runs (env : Runtime) (world : World) (start : Store) : List (Receipt env) → Store → Prop where
  | nil : Runs env world start [] start
  | step (prior : Runs env world start receipts before) (step : Step env world before made after) :
      Runs env world start (receipts ++ made) after

section Runs
variable {env : Runtime} {world : World} {start store before after : Store}

theorem runs_trans (first : Runs env world start earlier middle) (second : Runs env world middle later after) :
    Runs env world start (earlier ++ later) after := by
  induction second with
  | nil =>
    rw [List.append_nil]
    exact first
  | step _ step ih =>
    rw [← List.append_assoc]
    exact .step ih step

theorem step_refines (refines : Refines env before registry) (step : Step env world before made after) :
    ∃ later, Registry.Runs registry (made.map Receipt.act) later ∧ Refines env after later ∧
      ∀ receipt ∈ made, receipt.message.isSigner receipt.act.actor = true := by
  cases step with
  | executed message dlmm possible instruction done =>
    have outcome := follows_run (fun query _ => possible query) (handle_isolated world message refines instruction)
    change Outcome message registry (actOf instruction) (execute message dlmm before instruction) () at outcome
    rw [done] at outcome
    obtain ⟨signed,later,moved,refined⟩ := outcome
    refine ⟨later,.step .nil moved,refined,fun receipt inside => ?_⟩
    rw [List.mem_singleton.mp inside]
    exact signed
  | refused => exact ⟨registry,.nil,refines,nofun⟩
  | elsewhere moved => exact ⟨registry,.nil,refines_confined refines (world.elsewhereConfined _ _ moved),nofun⟩

theorem runs_continue (refines : Refines env start registry) (runs : Runs env world start receipts store) :
    ∃ later, Registry.Runs registry (receipts.map Receipt.act) later ∧ Refines env store later ∧
      ∀ receipt ∈ receipts, receipt.message.isSigner receipt.act.actor = true := by
  induction runs with
  | nil => exact ⟨registry,.nil,refines,nofun⟩
  | step _ step ih =>
    obtain ⟨middle,earlier,between,signed⟩ := ih
    obtain ⟨last,moved,refined,also⟩ := step_refines between step
    rw [List.map_append]
    refine ⟨last,Registry.runs_trans earlier moved,refined,fun receipt inside => ?_⟩
    rcases List.mem_append.mp inside with first | second
    · exact signed receipt first
    · exact also receipt second

-- The program refines the registry: after any run its accounts are what the
-- successful instructions, each signed by its actor, make of an empty registry.
theorem runs_refine (fresh : Fresh start) (runs : Runs env world start receipts store) :
    ∃ registry, Registry.Runs .empty (receipts.map Receipt.act) registry ∧ Refines env store registry ∧
      ∀ receipt ∈ receipts, receipt.message.isSigner receipt.act.actor = true :=
  runs_continue (fresh_refines fresh) runs

-- What a call vouches for, in terms of the history: the position and the recipient
-- are those of the last opening of this pair by this stealth, or of this one.
structure Accountable {env : Runtime} (message : Message env) (history : List (Act Pubkey)) (act : Act Pubkey)
    (current : Store) (cpi : Cpi) : Prop where
  program : cpi.programId = DLMM_PROGRAM_ID
  running : ∃ key config, configAt current key = some config ∧ config.paused = false
  added : ∀ account ∈ cpi.accounts, account.isSigner = true → message.isSigner account.pubkey = true ∨
    ∃ seeds, cpi.signerSeeds = some seeds ∧ env.createProgramAddress seeds ID = some account.pubkey
  vouched : ∀ seeds, cpi.signerSeeds = some seeds → ∃ stealth lbPair bump pa holding,
    seeds = authoritySeeds stealth lbPair ++ [[bump]] ∧ env.createProgramAddress seeds ID = some pa ∧
      message.isSigner stealth = true ∧ Routed env current pa lbPair holding cpi ∧
        (Registry.Entered stealth lbPair holding history ∨ act = .opened stealth lbPair holding)

theorem isolated_accountable {message : Message env} (history : Registry.Runs .empty acts registry)
    (isolated : Isolated message registry act current cpi) : Accountable message acts act current cpi := by
  refine ⟨isolated.program,?_,isolated.added,fun seeds named => ?_⟩
  · obtain ⟨authority,running⟩ := isolated.running
    let address := env.findProgramAddress [CONFIG_SEED] ID
    exact ⟨address.1,⟨authority,false,address.2⟩,(isolated.refined.admin _ _).mpr ⟨running,rfl⟩,rfl⟩
  · obtain ⟨stealth,lbPair,pa,holding,vouched⟩ := isolated.vouched seeds named
    obtain ⟨bump,bumped⟩ := vouched.bumped
    refine ⟨stealth,lbPair,bump,pa,holding,bumped,vouched.derived,vouched.signed,vouched.routed,?_⟩
    rcases vouched.recorded with held | ⟨_,opening⟩
    · exact .inl (Registry.runs_holding history held)
    · exact .inr opening

-- Whatever an instruction is called with after whatever run, each call it makes,
-- also of an instruction that fails later, is accountable.
theorem calls_accountable (fresh : Fresh start) (runs : Runs env world start receipts store) (message : Message env)
    (instruction : Instruction) :
    (handle message store instruction).Follows world.Answers
      (fun query _ => Accountable message (receipts.map Receipt.act) (actOf instruction) query.2 query.1)
      (fun _ _ => True) () := by
  obtain ⟨registry,history,refines,_⟩ := runs_refine fresh runs
  have isolated := handle_isolated world message refines instruction
  exact follows_allow (fun _ _ => isolated_accountable history) (follows_mono (fun _ _ _ => trivial) isolated)

-- A live PoolAuthority is what its stealth recorded when it last opened the pair.
theorem authority_recorded (fresh : Fresh start) (runs : Runs env world start receipts store)
    (live : authorityAt store key = some pa) :
    ∃ lbPair position, pa.poolRef = .Dlmm lbPair position ∧
      Registry.Entered pa.stealthPubkey lbPair ⟨position,pa.exitRecipient⟩ (receipts.map Receipt.act) ∧
        env.findProgramAddress (authoritySeeds pa.stealthPubkey lbPair) ID = (key,pa.bump) := by
  obtain ⟨registry,history,refines,_⟩ := runs_refine fresh runs
  obtain ⟨lbPair,position,poolRef,held,address⟩ := (refines.holdings key pa).mp live
  exact ⟨lbPair,position,poolRef,Registry.runs_holding history held,address⟩

-- The config is made once: its address and its authority stay, and the flag is
-- what that authority last signed.
theorem config_permanent (fresh : Fresh start) (earlier : Runs env world start past store)
    (configured : configAt store key = some config) (runs : Runs env world store receipts after) :
    ∃ now, configAt after key = some { config with paused := now } ∧ (now = config.paused ∨
      ∃ receipt ∈ receipts, receipt.act = .pause config.authority now ∧
        receipt.message.isSigner config.authority = true) := by
  obtain ⟨registry,_,refines,_⟩ := runs_refine fresh earlier
  obtain ⟨named,address⟩ := (refines.admin key config).mp configured
  obtain ⟨later,acts,refined,signed⟩ := runs_continue refines runs
  obtain ⟨now,last,moved⟩ := Registry.runs_admin acts named
  refine ⟨now,(refined.admin key _).mpr ⟨last,address⟩,?_⟩
  rcases moved with same | inside
  · exact .inl same
  · obtain ⟨receipt,made,act⟩ := List.mem_map.mp inside
    have actor := signed receipt made
    rw [act] at actor
    exact .inr ⟨receipt,made,act,actor⟩

theorem refines_authorities (refines : Refines env before registry) (also : Refines env after later)
    (same : later.holdings = registry.holdings) : authorityAt after = authorityAt before := by
  funext key
  refine Option.ext fun pa => ?_
  rw [also.holdings key pa,refines.holdings key pa,same]

-- Once paused, and until the admin itself unpauses: no instruction but the pause
-- flag's succeeds, none makes a call, and every PoolAuthority stays as it is.
theorem paused_frozen (fresh : Fresh start) (earlier : Runs env world start past store)
    (paused : configAt store key = some config) (on : config.paused = true) (runs : Runs env world store receipts after)
    (kept : ∀ receipt ∈ receipts, receipt.act ≠ .pause config.authority false) :
    configAt after key = some config ∧ authorityAt after = authorityAt store ∧
      (∀ receipt ∈ receipts, receipt.act = .pause config.authority true ∧
        receipt.message.isSigner config.authority = true) ∧
      ∀ (message : Message env) (instruction : Instruction),
        (handle message after instruction).Follows world.Answers (fun _ _ => False) (fun _ _ => True) () := by
  obtain ⟨registry,_,refines,_⟩ := runs_refine fresh earlier
  obtain ⟨named,address⟩ := (refines.admin key config).mp paused
  rw [on] at named
  obtain ⟨later,acts,refined,signed⟩ := runs_continue refines runs
  obtain ⟨halted,holdings,all⟩ := Registry.runs_paused acts named fun inside => by
    obtain ⟨receipt,made,act⟩ := List.mem_map.mp inside
    exact kept receipt made act
  refine ⟨(refined.admin key config).mpr ⟨by rw [on]; exact halted,address⟩,
    refines_authorities refines refined holdings,fun receipt made => ?_,fun message instruction => ?_⟩
  · have act := all receipt.act (List.mem_map_of_mem made)
    have actor := signed receipt made
    rw [act] at actor
    exact ⟨act,actor⟩
  · have isolated := handle_isolated world message refined instruction
    refine follows_allow (fun query _ made => ?_) (follows_mono (fun _ _ _ => trivial) isolated)
    obtain ⟨authority,running⟩ := made.running
    rw [halted] at running
    cases running

end Runs

-- A devnet build, with addresses and hashes as Solana derives them for one stealth
-- and one pair.
def sampleKey (number : UInt8) : Pubkey := List.Vector.replicate 32 number

def sampleStealth : Pubkey := sampleKey 1
def samplePair : Pubkey := sampleKey 2
def samplePosition : Pubkey := sampleKey 3
def sampleRecipient : Pubkey := sampleKey 4
def sampleRelayer : Pubkey := sampleKey 5
def sampleAdmin : Pubkey := sampleKey 6
def sampleConfig : Pubkey := Bytes.ofNat 32 0x2534e68ba169488142640fcdfd1a21a41e299b88fa9f5221ad28af810d835c16
def sampleAuthority : Pubkey := Bytes.ofNat 32 0xccb310bfd1efd1e339135ce470805b4262e3ea0507be591a748aff90476d1811
def sampleEvents : Pubkey := Bytes.ofNat 32 0xb270d67fa98c51cf0213051358962baf35742bed59c9d9445e9c0d0c85c7cd91

def sampleFind (seeds : List (List UInt8)) (program : Pubkey) : Pubkey × UInt8 :=
  if seeds = [CONFIG_SEED] ∧ program = ID then (sampleConfig,255)
  else if seeds = authoritySeeds sampleStealth samplePair ∧ program = ID then (sampleAuthority,252)
  else if seeds = [ascii "__event_authority"] ∧ program = DLMM_PROGRAM_ID then (sampleEvents,255)
  else (sampleKey 255,255)

def sampleCreate (seeds : List (List UInt8)) (program : Pubkey) : Option Pubkey :=
  let (address,bump) := sampleFind seeds.dropLast program
  if seeds.getLast? = some [bump] then some address else none

def sampleHashes : List (List UInt8 × Nat) := [
  (ascii "global:initialize_position",0xdbc0ea47bebf665032f8095718cb618289e8676e0178ce494dcf1ab4224b4d7b),
  (ascii "global:add_liquidity_by_strategy",0x0703967f94283dc8877f9b035748b88db607b8337001e441e623c195c7df4df6),
  (ascii "global:claim_fee",0xa9204f8988e84689b66c1e3fe13319a33851c12b4c66be3c2b28a580b28399b5),
  (ascii "global:remove_liquidity_by_range",0x1a526698f04a691ac1c8058933350c23cd74a600849b0e5bb7b6466d96487459),
  (ascii "global:close_position",0x7b865100314462626d80af1f475ff0f3d0b3754d4f362b1e87e19e2240a168dc),
  (ascii "global:swap",0xf8c69e91e17587c865d4b6c9797e9bd686812d717055b6117a16f83991b4e8a7)]

def sampleEnv : Runtime where
  hash bytes := Bytes.ofNat 32 ((sampleHashes.lookup bytes).getD 0)
  createProgramAddress := sampleCreate
  findProgramAddress := sampleFind
  found seeds program := by simp [sampleCreate]
  minimumBalance space := 6960 * (128 + space)
  permissionlessInit := true

theorem sampleFind_known (seeds : List (List UInt8)) (program : Pubkey) :
    (sampleFind seeds program).1 ∈ [sampleConfig,sampleAuthority,sampleEvents,sampleKey 255] := by
  unfold sampleFind
  split
  · simp
  · split
    · simp
    · split
      · simp
      · simp

def sampleMessage (signers : List Pubkey)
    (apart : [sampleConfig,sampleAuthority,sampleEvents,sampleKey 255].all (fun address => decide (address ∉ signers)) = true) :
    Message sampleEnv where
  isSigner key := decide (key ∈ signers)
  isWritable key := decide (key ∉ [SYSTEM_PROGRAM_ID,RENT_ID,SPL_TOKEN_PROGRAM_ID,DLMM_PROGRAM_ID])
  derivedUnsigned seeds address made := by
    change sampleCreate seeds ID = some address at made
    obtain ⟨_,same⟩ := Option.ite_none_right_eq_some.mp made
    cases same
    exact decide_eq_false (of_decide_eq_true (List.all_eq_true.mp apart _ (sampleFind_known _ _)))

def sampleSetup : Message sampleEnv := sampleMessage [sampleAdmin] (by decide +kernel)
def sampleOpening : Message sampleEnv := sampleMessage [sampleStealth,sampleRelayer,samplePosition] (by decide +kernel)
def sampleOwner : Message sampleEnv := sampleMessage [sampleStealth,sampleRelayer] (by decide +kernel)

def sampleTokens (mint owner : Pubkey) (amount : UInt64) : List UInt8 :=
  mint.toList ++ owner.toList ++ bytes 8 amount.toNat ++ List.replicate 93 0

-- Two token accounts of the recipient, and nothing of the program's yet.
def sampleStore : Store := fun key =>
  if key = SYSTEM_PROGRAM_ID then ⟨1,sampleKey 254,[],true⟩
  else if key ∈ [sampleStealth,sampleRelayer,sampleAdmin] then ⟨1000000000,SYSTEM_PROGRAM_ID,[],false⟩
  else if key = sampleKey 21 then ⟨2039280,SPL_TOKEN_PROGRAM_ID,sampleTokens (sampleKey 11) sampleRecipient 0,false⟩
  else if key = sampleKey 22 then ⟨2039280,SPL_TOKEN_PROGRAM_ID,sampleTokens (sampleKey 12) sampleRecipient 0,false⟩
  else ⟨0,SYSTEM_PROGRAM_ID,[],false⟩

def positionDiscriminator : List UInt8 := [117,176,212,199,245,180,133,182]

-- DLMM, as far as a position comes into being and goes.
def sampleDlmm : Dlmm := fun (cpi,current) =>
  let account (i : Nat) : Pubkey := (cpi.key i).getD SYSTEM_PROGRAM_ID
  if cpi.data.take 8 = anchorDiscriminator sampleEnv "initialize_position" then
    if (current (account 1)).owner = SYSTEM_PROGRAM_ID ∧ (cpi.accounts[1]?).any AccountMeta.isSigner = true then
      .ok (Function.update current (account 1)
        ⟨57406080,DLMM_PROGRAM_ID,positionDiscriminator ++ (account 2).toList ++ (account 3).toList,false⟩)
    else .error (.called 0)
  else if cpi.data.take 8 = anchorDiscriminator sampleEnv "close_position" then
    if (current (account 0)).owner = DLMM_PROGRAM_ID then
      .ok (Function.update current (account 0) ⟨0,SYSTEM_PROGRAM_ID,[],false⟩)
    else .error (.called 1)
  else .ok current

theorem DLMM_apart : ID ≠ DLMM_PROGRAM_ID := by decide

theorem confined_update {current : Store} (foreign : (current key).owner ≠ ID) (other : account.owner ≠ ID) :
    Confined current (Function.update current key account) := by
  refine ⟨fun place owned => ?_,fun place unowned mine => ?_⟩
  · have apart : place ≠ key := by
      rintro rfl
      exact foreign owned
    rw [Function.update_of_ne apart]
    exact ⟨owned,rfl⟩
  · by_cases same : place = key
    · subst same
      rw [Function.update_self] at mine
      exact absurd mine other
    · rw [Function.update_of_ne same] at mine
      exact absurd mine unowned

theorem confined_refl (current : Store) : Confined current current :=
  ⟨fun _ owned => ⟨owned,rfl⟩,fun _ foreign mine => absurd mine foreign⟩

def sampleWorld : World where
  calls cpi before after := sampleDlmm (cpi,before) = .ok after
  elsewhere before after := after = before
  callsConfined cpi before after answered := by
    simp only [sampleDlmm] at answered
    split at answered
    · split at answered
      · rename_i free
        cases answered
        exact confined_update (fun mine => ID_apart (mine.symm.trans free.1)) DLMM_apart.symm
      · cases answered
    · split at answered
      · split at answered
        · rename_i taken
          cases answered
          exact confined_update (fun mine => DLMM_apart (mine.symm.trans taken)) ID_apart.symm
        · cases answered
      · cases answered
        exact confined_refl before
  elsewhereConfined before after same := by
    rw [same]
    exact confined_refl before

def settle (result : Except Error Store) (before : Store) : Store :=
  match result with
  | .ok after => after
  | .error _ => before

theorem settle_ok {result : Except Error Store} (fine : result.isOk = true) (before : Store) :
    result = .ok (settle result before) := by
  cases result with
  | ok after => rfl
  | error error => cases fine

def sampleConfigure : Receipt sampleEnv := ⟨sampleSetup,.initConfig ⟨sampleAdmin,sampleConfig,SYSTEM_PROGRAM_ID⟩⟩

def sampleOpen : Receipt sampleEnv := ⟨sampleOpening,.dlmmInitPosition
  ⟨sampleStealth,sampleAuthority,samplePair,DLMM_PROGRAM_ID,sampleConfig,SYSTEM_PROGRAM_ID⟩
  [sampleRelayer,samplePosition,samplePair,sampleAuthority,SYSTEM_PROGRAM_ID,RENT_ID,sampleEvents,DLMM_PROGRAM_ID]
  (-10) 20 sampleRecipient⟩

def sampleAccounts : PoolAccounts := ⟨sampleStealth,sampleAuthority,samplePair,DLMM_PROGRAM_ID,sampleConfig⟩

def sampleExit : Receipt sampleEnv := ⟨sampleOwner,.dlmmWithdrawClose sampleAccounts
  [samplePosition,samplePair,DLMM_PROGRAM_ID,sampleKey 21,sampleKey 22,sampleKey 23,sampleKey 24,sampleKey 11,sampleKey 12,
    sampleKey 25,sampleKey 26,sampleAuthority,SPL_TOKEN_PROGRAM_ID,SPL_TOKEN_PROGRAM_ID,sampleEvents,DLMM_PROGRAM_ID,
    sampleRecipient] (-10) 9 10000⟩

def samplePause : Receipt sampleEnv := ⟨sampleSetup,.setPaused ⟨sampleAdmin,sampleConfig⟩ true⟩

def Receipt.leads (receipt : Receipt sampleEnv) (before : Store) : Store :=
  settle (execute receipt.message sampleDlmm before receipt.instruction) before

theorem sample_step (receipt : Receipt sampleEnv) (before : Store)
    (fine : (execute receipt.message sampleDlmm before receipt.instruction).isOk = true) :
    Step sampleEnv sampleWorld before [receipt] (receipt.leads before) :=
  .executed receipt.message sampleDlmm (fun _ _ same => same) receipt.instruction (settle_ok fine before)

def openedStore : Store := sampleOpen.leads (sampleConfigure.leads sampleStore)
def pausedStore : Store := samplePause.leads openedStore

theorem sample_fresh : Fresh sampleStore := by
  intro key owned
  exfalso
  unfold sampleStore at owned
  split at owned
  · exact absurd owned (by decide)
  · split at owned
    · exact ID_apart owned.symm
    · split at owned
      · exact absurd owned (by decide)
      · split at owned
        · exact absurd owned (by decide)
        · exact ID_apart owned.symm

theorem sample_opened : Runs sampleEnv sampleWorld sampleStore [sampleConfigure,sampleOpen] openedStore :=
  .step (.step .nil (sample_step sampleConfigure sampleStore (by decide)))
    (sample_step sampleOpen _ (by decide +kernel))

theorem sample_paused : Runs sampleEnv sampleWorld sampleStore [sampleConfigure,sampleOpen,samplePause] pausedStore :=
  .step sample_opened (sample_step samplePause openedStore (by decide +kernel))

theorem sample_open : authorityAt openedStore sampleAuthority =
    some ⟨sampleStealth,sampleRecipient,.Dlmm samplePair samplePosition,252⟩ := by decide +kernel

theorem runs_refine_sample : ∃ registry,
    Registry.Runs .empty ([sampleConfigure,sampleOpen].map Receipt.act) registry ∧
      Refines sampleEnv openedStore registry ∧
      ∀ receipt ∈ [sampleConfigure,sampleOpen], receipt.message.isSigner receipt.act.actor = true :=
  runs_refine sample_fresh sample_opened

theorem authority_recorded_sample :
    ∃ lbPair position, (PoolRef.Dlmm samplePair samplePosition) = .Dlmm lbPair position ∧
      Registry.Entered sampleStealth lbPair ⟨position,sampleRecipient⟩ ([sampleConfigure,sampleOpen].map Receipt.act) ∧
        sampleEnv.findProgramAddress (authoritySeeds sampleStealth lbPair) ID = (sampleAuthority,252) :=
  authority_recorded sample_fresh sample_opened sample_open

theorem config_permanent_sample : ∃ now, configAt (samplePause.leads openedStore) sampleConfig = some ⟨sampleAdmin,now,255⟩ ∧
    (now = false ∨ ∃ receipt ∈ [samplePause], receipt.act = .pause sampleAdmin now ∧
      receipt.message.isSigner sampleAdmin = true) := by
  have configured : configAt openedStore sampleConfig = some ⟨sampleAdmin,false,255⟩ := by decide +kernel
  exact config_permanent sample_fresh sample_opened configured
    (.step .nil (sample_step samplePause openedStore (by decide +kernel)))

-- The elaborator would run the sample instruction otherwise.
attribute [local irreducible] handle

-- The two calls of an exit.
theorem calls_accountable_sample :
    (execute sampleOwner sampleDlmm openedStore sampleExit.instruction).isOk = true ∧
      (handle sampleOwner openedStore sampleExit.instruction).Follows sampleWorld.Answers
        (fun query _ => Accountable sampleOwner ([sampleConfigure,sampleOpen].map Receipt.act) sampleExit.act
          query.2 query.1)
        (fun _ _ => True) () :=
  ⟨by decide +kernel,calls_accountable sample_fresh sample_opened sampleOwner sampleExit.instruction⟩

theorem paused_frozen_sample :
    configAt pausedStore sampleConfig = some ⟨sampleAdmin,true,255⟩ ∧
      authorityAt (samplePause.leads pausedStore) = authorityAt pausedStore ∧
      (handle sampleOwner (samplePause.leads pausedStore) sampleExit.instruction).Follows sampleWorld.Answers
        (fun _ _ => False) (fun _ _ => True) () := by
  have paused : configAt pausedStore sampleConfig = some ⟨sampleAdmin,true,255⟩ := by decide +kernel
  have again : Runs sampleEnv sampleWorld pausedStore [samplePause] (samplePause.leads pausedStore) :=
    .step .nil (sample_step samplePause pausedStore (by decide +kernel))
  have frozen := paused_frozen sample_fresh sample_paused paused rfl again fun receipt made => by
    rw [List.mem_singleton.mp made]
    nofun
  exact ⟨paused,frozen.2.1,frozen.2.2.2 sampleOwner sampleExit.instruction⟩

end Octora.ExecutorProgram
