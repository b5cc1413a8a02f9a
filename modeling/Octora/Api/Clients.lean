import Octora.Api.Hydration

namespace Octora.Api
open BigEndian BigIntText MerkleTree Relayer Web

-- Where one run of the deposit protocol stands. The index is the one that
-- GET /mixer/status answered before the transaction was even built.
inductive Phase where
  | idle
  | read (leafIndex : Nat)
  | sent (leafIndex : Nat) (signature : Text)
  | confirmed

structure World where
  history : List ChainTransaction
  ledger : Ledger
  service : MixerService
  phase : Nat → Phase

inductive Action where
  | status (client : Nat)
  | land (client : Nat) (tx : ChainTransaction)
  | fail (client : Nat) (tx : ChainTransaction)
  | confirm (client : Nat)
  | hydrate (rpc : Rpc) (maxPages : Nat)
  | other (tx : ChainTransaction)

def World.enter (world : World) (client : Nat) (phase : Phase) : World :=
  { world with phase := Function.update world.phase client phase }

def World.append (world : World) (tx : ChainTransaction) (ledger : Ledger) : World :=
  { world with history := world.history ++ [tx], ledger := ledger }

section Protocol
variable (env : Runtime) (poolKey : Pubkey) (depositor : Nat → Pubkey) (commitment : Nat → Bytes 32)

def depositBy (client : Nat) : Instruction :=
  .deposit (depositor client) poolKey (commitmentAddress env poolKey (commitment client)) (commitment client)

-- A deposit transaction executes or fails; `waitForConfirmation` returns either
-- way. `other` is the rest of the chain, which deposits nothing into this pool.
inductive Step : World → Action → World → Prop where
  | status (idle : world.phase client = .idle) (loaded : (world.ledger poolKey).data = .pool pool) :
      Step world (.status client) (world.enter client (.read pool.nextLeafIndex))
  | land (now : Int) (read : world.phase client = .read leafIndex)
      (executed : (submit env now world.ledger (depositBy env poolKey depositor commitment client)).2 = .ok events)
      (fresh : tx.signature ∉ world.history.map ChainTransaction.signature) (succeeded : tx.err = false)
      (named : poolKey ∈ tx.accounts)
      (receipts : tx.receipts = [.submitted world.ledger (depositBy env poolKey depositor commitment client) (.ok events)])
      (logged : tx.logs.filterMap id = events.map eventPayload) :
      Step world (.land client tx) ((world.append tx
        (submit env now world.ledger (depositBy env poolKey depositor commitment client)).1).enter client
          (.sent leafIndex tx.signature))
  | fail (read : world.phase client = .read leafIndex)
      (fresh : tx.signature ∉ world.history.map ChainTransaction.signature) (failed : tx.err = true)
      (receipts : tx.receipts = [.rolledBack]) :
      Step world (.fail client tx) ((world.append tx world.ledger).enter client (.sent leafIndex tx.signature))
  | confirm (sent : world.phase client = .sent leafIndex signature)
      (answered : world.service.confirmDeposit (decimal (commitment client).value) leafIndex signature = some service) :
      Step world (.confirm client) ({ world with service := service }.enter client .confirmed)
  | hydrate : Step world (.hydrate rpc maxPages)
      { world with service := (hydrateFromChain rpc maxPages poolKey world.history world.service).1 }
  | other (run : Runs env world.ledger tx.receipts ledger) (sound : tx.Sound)
      (fresh : tx.signature ∉ world.history.map ChainTransaction.signature)
      (apart : ∀ receipt ∈ tx.receipts, depositOf poolKey receipt = none) (quiet : offeredDeposits tx = []) :
      Step world (.other tx) (world.append tx ledger)

inductive Reached (first : World) : List (World × Action) → World → Prop where
  | nil : Reached first [] first
  | step (prior : Reached first trace before) (step : Step env poolKey depositor commitment before action after) :
      Reached first (trace ++ [(before,action)]) after

end Protocol

def firstWorld (start : Ledger) : World := ⟨[],start,emptyService,fun _ => .idle⟩

-- The condition on one step: a commitment the server does not hold yet is
-- confirmed under the index at which it stands on the chain.
def IndexHolds (poolKey : Pubkey) (commitment : Nat → Bytes 32) (world : World) : Action → Prop
  | .confirm client => ∀ leafIndex signature, world.phase client = .sent leafIndex signature →
      (∀ record ∈ world.service.deposits, record.commitment ≠ decimal (commitment client).value) →
      (depositsOf poolKey world.history)[leafIndex]? = some (commitment client)
  | _ => True

-- Every record is right, and a cache that holds every deposit gives every
-- client the root of the chain.
structure World.Correct (env : Runtime) (poolKey : Pubkey) (lib : FixedMerkleTree) (world : World) : Prop where
  own : OnlyOwn (depositsOf poolKey world.history) world.service
  root : Covers (depositsOf poolKey world.history) world.service → ∃ pool, (world.ledger poolKey).data = .pool pool ∧
    clientRoot env.poseidon lib world.service = some (pool.currentRoot.value : Int)

def AllGenuine (poolKey : Pubkey) (history : List ChainTransaction) : Prop :=
  ∀ tx ∈ relevant poolKey history, ∀ record ∈ offeredDeposits tx, Genuine (depositsOf poolKey history) record

theorem allGenuine_first (all : AllGenuine poolKey history) : FirstLinesGenuine poolKey history :=
  fun tx here record first => all tx here record (List.mem_of_find?_eq_some first)

theorem depositsOf_append (poolKey : Pubkey) (history : List ChainTransaction) (tx : ChainTransaction) :
    depositsOf poolKey (history ++ [tx]) = depositsOf poolKey history ++ commitmentsOf poolKey tx.receipts := by
  simp [depositsOf,commitmentsOf,List.flatMap_append,List.filterMap_append]

theorem allGenuine_append (all : AllGenuine poolKey history)
    (new : tx.err = false → ∀ record ∈ offeredDeposits tx, Genuine (depositsOf poolKey (history ++ [tx])) record) :
    AllGenuine poolKey (history ++ [tx]) := by
  intro other here record offered
  obtain ⟨member,kept⟩ := List.mem_filter.mp here
  rcases List.mem_append.mp member with old | last
  · rw [depositsOf_append]
    exact genuine_append (all other (List.mem_filter.mpr ⟨old,kept⟩) record offered) _
  · cases List.mem_singleton.mp last
    simp only [Bool.and_eq_true,Bool.not_eq_true'] at kept
    exact new kept.2 record offered

-- What holds of the chain in every reached world, whatever the server recorded.
structure ChainState (env : Runtime) (poolKey : Pubkey) (start : Ledger) (world : World) : Prop where
  chain : History env start world.history world.ledger
  genuine : AllGenuine poolKey world.history

section Runs
variable {env : Runtime} {poolKey : Pubkey} {depositor : Nat → Pubkey} {commitment : Nat → Bytes 32} {start : Ledger}
  (unsigned : env.canSign poolKey = false) (zeros : ZeroChain env.poseidon)
  (initial : Tracked env poolKey denomination base [] [] 0 start)
include unsigned zeros initial

theorem step_chain (state : ChainState env poolKey start before)
    (step : Step env poolKey depositor commitment before action after) : ChainState env poolKey start after := by
  cases step with
  | status _ _ => exact ⟨state.chain,state.genuine⟩
  | confirm _ _ => exact ⟨state.chain,state.genuine⟩
  | hydrate => exact ⟨state.chain,state.genuine⟩
  | @fail client _ tx leafIndex read fresh failed receipts =>
    have run : Runs env before.ledger tx.receipts before.ledger := by
      rw [receipts]
      exact .step .nil .rolledBack
    refine ⟨history_append state.chain run ?_ fresh,allGenuine_append state.genuine ?_⟩
    · refine ⟨?_,?_,?_⟩ <;> simp [receipts,eventsOf]
    · intro succeeded
      rw [failed] at succeeded
      cases succeeded
  | other run sound fresh apart quiet =>
    refine ⟨history_append state.chain run sound fresh,allGenuine_append state.genuine ?_⟩
    intro _ record offered
    rw [quiet] at offered
    cases offered
  | @land client leafIndex _ tx events now read executed fresh succeeded named receipts logged =>
    have run : Runs env before.ledger tx.receipts
        (submit env now before.ledger (depositBy env poolKey depositor commitment client)).1 := by
      rw [receipts,← executed]
      exact .step .nil (.submitted now _)
    obtain ⟨pool,loaded,emitted⟩ := deposit_event executed
    obtain ⟨current,here,valid⟩ := (runs_tracked unsigned zeros initial state.chain.runs).pool
    have same : current = pool := AccountData.pool.inj (here.symm.trans loaded)
    have leaves : pool.nextLeafIndex = (depositsOf poolKey before.history).length := by
      rw [← same]
      exact valid.leaves
    have small : (depositsOf poolKey before.history).length < 2^32 := by
      have capacity : (depositsOf poolKey before.history).length ≤ MAX_LEAVES := valid.capacity
      have width : MAX_LEAVES < 2^32 := by decide
      omega
    have grown : depositsOf poolKey (before.history ++ [tx]) = depositsOf poolKey before.history ++ [commitment client] := by
      rw [depositsOf_append,receipts]
      simp [commitmentsOf,depositOf,depositBy]
    refine ⟨history_append state.chain run ?_ fresh,allGenuine_append state.genuine ?_⟩
    · refine ⟨?_,?_,?_⟩
      · intro failed
        rw [succeeded] at failed
        cases failed
      · intro receipt carried event happened
        rw [receipts] at carried
        rw [List.mem_singleton.mp carried] at happened
        have line : eventPayload event ∈ tx.logs.filterMap id := by
          rw [logged]
          exact List.mem_map_of_mem happened
        simpa using line
      · intro _ instruction result carried
        rw [receipts] at carried
        cases List.mem_singleton.mp carried
        exact named
    · intro _ record offered
      rw [offeredDeposits,logged,emitted,leaves] at offered
      simp only [List.map_cons,List.map_nil,List.filterMap_cons,List.filterMap_nil,depositLine_event small,
        List.mem_singleton] at offered
      rw [grown,offered]
      exact ⟨commitment client,by simp,rfl⟩

theorem reached_chain (path : Reached env poolKey depositor commitment (firstWorld start) trace world) :
    ChainState env poolKey start world := by
  induction path with
  | nil => exact ⟨⟨.nil,nofun,List.nodup_nil⟩,nofun⟩
  | step _ step ih => exact step_chain unsigned zeros initial ih step

theorem correct_root {lib : FixedMerkleTree} (plain : lib.Plain) (state : ChainState env poolKey start world)
    (own : OnlyOwn (depositsOf poolKey world.history) world.service) : world.Correct env poolKey lib := by
  refine ⟨own,fun covers => ?_⟩
  have tracked := runs_tracked unsigned zeros initial state.chain.runs
  obtain ⟨pool,loaded,valid⟩ := tracked.pool
  exact ⟨pool,loaded,clientRoot_current plain valid own covers tracked.distinct⟩

end Runs

theorem confirmDeposit_decimal (service : MixerService) (n leafIndex : Nat) (signature : Text) :
    service.confirmDeposit (decimal n) leafIndex signature = some (service.recordDeposit n leafIndex signature) := by
  rw [MixerService.confirmDeposit,bigInt_decimal,Option.map_some]

theorem confirm_exact {service next : MixerService} (answered : service.confirmDeposit (decimal n) leafIndex signature = some next) :
    next.deposits = FirstWins.put PublicDepositRecord.commitment service.deposits ⟨decimal n,leafIndex,signature⟩ := by
  have text : integerText (n : Int) = decimal n := by
    rw [integerText,if_neg (by omega),Int.toNat_natCast]
  rw [confirmDeposit_decimal] at answered
  rw [← Option.some.inj answered,MixerService.recordDeposit,text]

theorem own_append (own : OnlyOwn commitments service) (more : List (Bytes 32)) :
    OnlyOwn (commitments ++ more) service :=
  ⟨fun record member => genuine_append (own.genuine record member) more,own.once⟩

theorem step_own (state : ChainState env poolKey start before)
    (own : OnlyOwn (depositsOf poolKey before.history) before.service)
    (step : Step env poolKey depositor commitment before action after)
    (holds : IndexHolds poolKey commitment before action) :
    OnlyOwn (depositsOf poolKey after.history) after.service := by
  have grown : ∀ tx, OnlyOwn (depositsOf poolKey (before.history ++ [tx])) before.service := by
    intro tx
    rw [depositsOf_append]
    exact own_append own _
  cases step with
  | status _ _ => exact own
  | land _ _ _ _ _ _ _ _ => exact grown _
  | fail _ _ _ _ => exact grown _
  | other _ _ _ _ _ => exact grown _
  | hydrate => exact hydrate_own (allGenuine_first state.genuine) _ _ own
  | confirm sent answered =>
    have stored := confirm_exact answered
    refine ⟨?_,?_⟩
    · intro record member
      simp only [World.enter,stored] at member
      rcases FirstWins.mem_put member with old | ⟨rfl,absent⟩
      · exact own.genuine record old
      · exact ⟨_,holds _ _ sent absent,rfl⟩
    · simp only [World.enter,stored]
      exact FirstWins.put_nodup own.once _

-- A confirmation that leaves the cache right has met the condition.
theorem confirm_holds (step : Step env poolKey depositor commitment before action after)
    (own : OnlyOwn (depositsOf poolKey after.history) after.service) : IndexHolds poolKey commitment before action := by
  cases step with
  | status _ _ => trivial
  | land _ _ _ _ _ _ _ _ => trivial
  | fail _ _ _ _ => trivial
  | other _ _ _ _ _ => trivial
  | hydrate => trivial
  | confirm sent answered =>
    rename_i service client leafIndex signature
    intro index text same absent
    rw [sent] at same
    cases same
    have stored := confirm_exact answered
    have present : ⟨decimal (commitment client).value,leafIndex,signature⟩ ∈ service.deposits := by
      have new : ¬∃ old ∈ before.service.deposits, old.commitment = decimal (commitment client).value := by
        intro found
        obtain ⟨old,here,equal⟩ := found
        exact absent old here equal
      rw [stored,FirstWins.put,if_neg new]
      simp
    obtain ⟨leaf,entered,text⟩ := own.genuine _ present
    rw [decimal_value text]
    exact entered

theorem history_correct {lib : FixedMerkleTree} (plain : lib.Plain) (zeros : ZeroChain env.poseidon)
    (created : execute env now before (.initializePool authority poolKey denomination) = .ok (start,events))
    (path : Reached env poolKey depositor commitment (firstWorld start) trace world) :
    (world.Correct env poolKey lib ∧ ∀ step ∈ trace, step.1.Correct env poolKey lib) ↔
      ∀ step ∈ trace, IndexHolds poolKey commitment step.1 step.2 := by
  cases execute_exact created with
  | created made =>
    have unsigned := created_unsigned made
    have initial := created_tracked zeros made fun i => ZERO_HASHES i
    rw [reseed_initial made] at initial
    induction path with
    | nil =>
      have own : OnlyOwn (depositsOf poolKey []) emptyService := ⟨nofun,List.nodup_nil⟩
      exact ⟨nofun,fun _ => ⟨correct_root unsigned zeros initial plain ⟨⟨.nil,nofun,List.nodup_nil⟩,nofun⟩ own,nofun⟩⟩
    | @step trace before action after prior step ih =>
      have state := reached_chain unsigned zeros initial prior
      have next := step_chain unsigned zeros initial state step
      simp only [List.forall_mem_append,List.forall_mem_singleton]
      constructor
      · rintro ⟨last,earlier,here⟩
        exact ⟨ih.mp ⟨here,earlier⟩,confirm_holds step last.own⟩
      · rintro ⟨earlier,holds⟩
        obtain ⟨here,visited⟩ := ih.mpr earlier
        exact ⟨correct_root unsigned zeros initial plain next (step_own state here.own step holds),visited,here⟩

def sampleNotes (client : Nat) : Bytes 32 := if client = 0 then sampleCommitment else sampleSecond

def sampleBy (client : Nat) : Instruction := depositBy sampleRuntime samplePool (fun _ => sampleDepositor) sampleNotes client

theorem sampleBy_first : sampleBy 0 = sampleDeposit := by
  have address : commitmentAddress sampleRuntime samplePool sampleCommitment = sampleCommitmentAccount := by
    decide
  simp only [sampleBy,depositBy,sampleNotes,if_true,address]
  rfl

theorem sampleBy_second : sampleBy 1 = sampleNextDeposit := by
  have address : commitmentAddress sampleRuntime samplePool sampleSecond = ZERO_VALUE := by decide
  simp only [sampleBy,depositBy,sampleNotes,if_neg Nat.one_ne_zero,address]
  rfl

section Samples
variable (created : execute sampleRuntime 0 sampleGenesis
  (.initializePool ADMIN_AUTHORITY samplePool sampleDenomination) = .ok (start,[]))
include created

theorem first_submitted :
    submit sampleRuntime 0 start (sampleBy 0) = (afterFirst start,.ok [.deposit ⟨sampleCommitment,0,0⟩]) := by
  rw [sampleBy_first]
  exact Prod.ext rfl (sample_lands created).1

theorem second_submitted :
    submit sampleRuntime 0 (afterFirst start) (sampleBy 1) = (afterPair start,.ok [.deposit ⟨sampleSecond,1,0⟩]) := by
  rw [sampleBy_second]
  exact Prod.ext rfl (sample_second created)

theorem sample_empty : ∃ pool, (start samplePool).data = .pool pool ∧ pool.nextLeafIndex = 0 := by
  cases execute_exact created with
  | created made => exact ⟨_,by rw [made.data,if_pos rfl],rfl⟩

theorem first_leaves : ∃ pool, (afterFirst start samplePool).data = .pool pool ∧ pool.nextLeafIndex = 1 := by
  obtain ⟨landed,pool,loaded,_⟩ := sample_lands created
  cases execute_exact created with
  | created made =>
    have initial := created_tracked zeroChain_known made fun i => ZERO_HASHES i
    rw [reseed_initial made] at initial
    have tracked := runs_tracked (created_unsigned made) zeroChain_known initial (sample_path start)
    rw [sample_history landed] at tracked
    obtain ⟨current,here,valid⟩ := tracked.pool
    exact ⟨current,here,valid.leaves⟩

end Samples

def landed (ledger : Ledger) (client : Nat) (signature : String) (event : DepositEvent) : ChainTransaction where
  signature := signature.toList
  err := false
  accounts := [sampleDepositor,samplePool]
  receipts := [.submitted ledger (sampleBy client) (.ok [.deposit event])]
  logs := [some (eventPayload (.deposit event))]

abbrev SampleReached (start : Ledger) :=
  Reached sampleRuntime samplePool (fun _ => sampleDepositor) sampleNotes (firstWorld start)

theorem sample_land (path : SampleReached start trace world) (read : world.phase client = .read leafIndex)
    (submitted : submit sampleRuntime 0 world.ledger (sampleBy client) = (next,.ok [.deposit event]))
    (fresh : signature.toList ∉ world.history.map ChainTransaction.signature) :
    SampleReached start (trace ++ [(world,.land client (landed world.ledger client signature event))])
      ((world.append (landed world.ledger client signature event) next).enter client
        (.sent leafIndex signature.toList)) := by
  have step : Step sampleRuntime samplePool (fun _ => sampleDepositor) sampleNotes world
      (.land client (landed world.ledger client signature event)) _ :=
    .land 0 read (congrArg Prod.snd submitted) fresh rfl (by simp [landed]) rfl rfl
  have moved : (submit sampleRuntime 0 world.ledger
      (depositBy sampleRuntime samplePool (fun _ => sampleDepositor) sampleNotes client)).1 = next :=
    congrArg Prod.fst submitted
  rw [moved] at step
  exact .step path step

-- Both clients read index 0, both deposits land, the second client confirms.
theorem sample_race (created : execute sampleRuntime 0 sampleGenesis
    (.initializePool ADMIN_AUTHORITY samplePool sampleDenomination) = .ok (start,[])) :
    ∃ trace world, SampleReached start trace world ∧
      world.service.deposits = [⟨decimal 5,0,"second".toList⟩] ∧
      world.history = [landed start 0 "first" ⟨sampleCommitment,0,0⟩,
        landed (afterFirst start) 1 "second" ⟨sampleSecond,1,0⟩] := by
  obtain ⟨pool,loaded,empty⟩ := sample_empty created
  let read := ((firstWorld start).enter 0 (.read pool.nextLeafIndex)).enter 1 (.read pool.nextLeafIndex)
  let once := (read.append (landed start 0 "first" ⟨sampleCommitment,0,0⟩) (afterFirst start)).enter 0
    (.sent pool.nextLeafIndex "first".toList)
  let twice := (once.append (landed (afterFirst start) 1 "second" ⟨sampleSecond,1,0⟩) (afterPair start)).enter 1
    (.sent pool.nextLeafIndex "second".toList)
  have statuses : SampleReached start _ read := .step (.step .nil (.status rfl loaded)) (.status rfl loaded)
  have firstLands : SampleReached start _ once :=
    sample_land statuses rfl (first_submitted created) List.not_mem_nil
  have secondLands : SampleReached start _ twice :=
    sample_land firstLands rfl (second_submitted created) (by decide : "second".toList ∉ ["first".toList])
  have answered := confirmDeposit_decimal twice.service (sampleNotes 1).value pool.nextLeafIndex "second".toList
  have value : (sampleNotes 1).value = 5 := by decide
  refine ⟨_,_,.step secondLands (.confirm rfl answered),?_,rfl⟩
  refine (confirm_exact answered).trans ?_
  rw [value,empty]
  rfl

theorem confirm_race : ∃ start trace world,
    execute sampleRuntime 0 sampleGenesis (.initializePool ADMIN_AUTHORITY samplePool sampleDenomination) =
      .ok (start,[]) ∧
    SampleReached start trace world ∧ depositsOf samplePool world.history = [sampleCommitment,sampleSecond] ∧
    world.service.deposits.map pairOf = [(decimal 5,0)] ∧ ¬world.Correct sampleRuntime samplePool plainTree := by
  obtain ⟨start,created⟩ := sample_created
  obtain ⟨trace,world,path,cached,history⟩ := sample_race created
  have deposits : depositsOf samplePool world.history = [sampleCommitment,sampleSecond] := by
    rw [history]
    rfl
  refine ⟨start,trace,world,created,path,deposits,by rw [cached]; rfl,?_⟩
  intro correct
  obtain ⟨commitment,entered,text⟩ := correct.own.genuine ⟨decimal 5,0,"second".toList⟩ (by rw [cached]; simp)
  rw [deposits] at entered
  cases entered
  have five : decimal (sampleSecond).value = decimal 5 := by decide
  have equal := decimal_value (five.trans text)
  revert equal
  decide

-- The second client reads its index after the first deposit has landed; the
-- two confirm in the other order.
theorem history_correct_sample : ∃ start trace world,
    execute sampleRuntime 0 sampleGenesis (.initializePool ADMIN_AUTHORITY samplePool sampleDenomination) =
      .ok (start,[]) ∧
    SampleReached start trace world ∧ depositsOf samplePool world.history = [sampleCommitment,sampleSecond] ∧
    world.service.deposits.length = 2 ∧ world.Correct sampleRuntime samplePool plainTree := by
  obtain ⟨start,created⟩ := sample_created
  obtain ⟨pool,loaded,empty⟩ := sample_empty created
  obtain ⟨later,current,one⟩ := first_leaves created
  let read := (firstWorld start).enter 0 (.read pool.nextLeafIndex)
  let once := (read.append (landed start 0 "first" ⟨sampleCommitment,0,0⟩) (afterFirst start)).enter 0
    (.sent pool.nextLeafIndex "first".toList)
  let reread := once.enter 1 (.read later.nextLeafIndex)
  let twice := (reread.append (landed (afterFirst start) 1 "second" ⟨sampleSecond,1,0⟩) (afterPair start)).enter 1
    (.sent later.nextLeafIndex "second".toList)
  have status : SampleReached start _ read := .step .nil (.status rfl loaded)
  have firstLands : SampleReached start _ once :=
    sample_land status rfl (first_submitted created) List.not_mem_nil
  have statusAgain : SampleReached start _ reread := .step firstLands (.status rfl current)
  have secondLands : SampleReached start _ twice :=
    sample_land statusAgain rfl (second_submitted created) (by decide : "second".toList ∉ ["first".toList])
  have answeredSecond :=
    confirmDeposit_decimal twice.service (sampleNotes 1).value later.nextLeafIndex "second".toList
  have secondConfirms := Reached.step secondLands (.confirm rfl answeredSecond)
  have answeredFirst := confirmDeposit_decimal (twice.service.recordDeposit (sampleNotes 1).value later.nextLeafIndex
    "second".toList) (sampleNotes 0).value pool.nextLeafIndex "first".toList
  have path := Reached.step secondConfirms (.confirm rfl answeredFirst)
  have deposits : depositsOf samplePool twice.history = [sampleCommitment,sampleSecond] := rfl
  have apart : decimal (sampleNotes 1).value ≠ decimal (sampleNotes 0).value := by
    intro equal
    have same := decimal_value equal
    revert same
    decide
  have stored := confirm_exact answeredFirst
  rw [confirm_exact answeredSecond] at stored
  refine ⟨start,_,_,created,path,deposits,?_,
    ((history_correct plainTree_plain zeroChain_known created path).mpr ?_).1⟩
  · refine (congrArg List.length stored).trans ?_
    have absent : ¬∃ old ∈ ([⟨decimal (sampleNotes 1).value,later.nextLeafIndex,"second".toList⟩] :
        List PublicDepositRecord), old.commitment = decimal (sampleNotes 0).value := by
      simpa using apart
    change (FirstWins.put PublicDepositRecord.commitment [_] _).length = 2
    rw [FirstWins.put,if_neg absent]
    rfl
  · simp only [List.forall_mem_append,List.forall_mem_singleton]
    refine ⟨⟨⟨⟨⟨⟨List.forall_mem_nil _,trivial⟩,trivial⟩,trivial⟩,trivial⟩,?_⟩,?_⟩
    · intro leafIndex signature sent _
      cases sent
      rw [deposits,one]
      rfl
    · intro leafIndex signature sent _
      cases sent
      rw [empty]
      rfl

end Octora.Api
