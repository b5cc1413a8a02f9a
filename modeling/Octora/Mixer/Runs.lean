import Octora.Mixer.Tree

namespace Octora
open BigEndian Fallible IncrementalTree

-- A transaction either applies whole or leaves the ledger as it was.
def submit (env : Runtime) (now : Int) (ledger : Ledger) (instruction : Instruction) :
    Ledger × Except Error (List Event) :=
  match execute env now ledger instruction with
  | .ok (next,events) => (next,.ok events)
  | .error error => (ledger,.error error)

theorem submit_executed (executed : execute env now ledger instruction = .ok (next,events)) :
    submit env now ledger instruction = (next,.ok events) := by
  rw [submit,executed]

inductive Receipt where
  | submitted (before : Ledger) (instruction : Instruction) (result : Except Error (List Event))
  | rolledBack
  | external (received : Pubkey → Nat)

-- `rolledBack` is a refusal outside the program (another instruction of the
-- transaction, the compute budget). `external` is everything else the chain
-- does: only its owner program writes or debits a mixer account, and only the
-- mixer writes a mixer discriminator. The lamport supply fits a u64.
inductive Step (env : Runtime) : Ledger → Receipt → Ledger → Prop where
  | submitted (now : Int) (instruction : Instruction) : Step env ledger
      (.submitted ledger instruction (submit env now ledger instruction).2) (submit env now ledger instruction).1
  | rolledBack : Step env ledger .rolledBack ledger
  | external
      (owned : ∀ key, (before key).data.mixerOwned = true → (after key).data = (before key).data)
      (credited : ∀ key, (before key).data.mixerOwned = true →
        Ledger.lamports after key = Ledger.lamports before key + received key)
      (others : ∀ key, (before key).data.mixerOwned = false → (after key).data.mixerOwned = false)
      (supply : Balances.total (Ledger.lamports after) < 2^64) :
      Step env before (.external received) after

inductive Runs (env : Runtime) (start : Ledger) : List Receipt → Ledger → Prop where
  | nil : Runs env start [] start
  | step (prior : Runs env start receipts before) (step : Step env before receipt after) :
      Runs env start (receipts ++ [receipt]) after

theorem runs_trans (first : Runs env start earlier middle) (second : Runs env middle later after) :
    Runs env start (earlier ++ later) after := by
  induction second with
  | nil =>
    rw [List.append_nil]
    exact first
  | step _ step ih =>
    rw [← List.append_assoc]
    exact .step ih step

structure WithdrawRequest where
  accounts : WithdrawAccounts
  proofData : Bytes PROOF_SIZE
  inputs : Bytes PUBLIC_INPUTS_SIZE

def depositOf (poolKey : Pubkey) : Receipt → Option (Bytes 32)
  | .submitted _ (.deposit _ key _ commitment) (.ok _) => if key = poolKey then some commitment else none
  | _ => none

def withdrawalOf (poolKey : Pubkey) : Receipt → Option WithdrawRequest
  | .submitted _ (.withdraw accounts proofData inputs) (.ok _) =>
    if accounts.mixerPool = poolKey then some ⟨accounts,proofData,inputs⟩ else none
  | _ => none

-- Lamports that reach the pool otherwise: transfers from outside, and another
-- pool's withdrawal that names this pool as recipient or relayer.
def donationOf (poolKey : Pubkey) : Receipt → Nat
  | .submitted before (.withdraw accounts _ inputs) (.ok _) =>
    if accounts.mixerPool = poolKey then 0 else
    match (before accounts.mixerPool).data with
    | .pool other => share accounts.recipient poolKey (other.denomination.toNat - feeOf (inputFee inputs)) +
        share accounts.relayer poolKey (feeOf (inputFee inputs))
    | _ => 0
  | .external received => received poolKey
  | _ => 0

def commitmentsOf (poolKey : Pubkey) (receipts : List Receipt) : List (Bytes 32) :=
  receipts.filterMap (depositOf poolKey)

def withdrawalsOf (poolKey : Pubkey) (receipts : List Receipt) : List WithdrawRequest :=
  receipts.filterMap (withdrawalOf poolKey)

def donationsTo (poolKey : Pubkey) (receipts : List Receipt) : Nat :=
  (receipts.map (donationOf poolKey)).sum

theorem commitmentsOf_append (poolKey : Pubkey) (receipts : List Receipt) (receipt : Receipt) :
    commitmentsOf poolKey (receipts ++ [receipt]) =
      commitmentsOf poolKey receipts ++ (depositOf poolKey receipt).toList := by
  simp [commitmentsOf,List.filterMap_append,List.filterMap_cons]
  split <;> simp_all

theorem withdrawalsOf_append (poolKey : Pubkey) (receipts : List Receipt) (receipt : Receipt) :
    withdrawalsOf poolKey (receipts ++ [receipt]) =
      withdrawalsOf poolKey receipts ++ (withdrawalOf poolKey receipt).toList := by
  simp [withdrawalsOf,List.filterMap_append,List.filterMap_cons]
  split <;> simp_all

@[simp] theorem donationsTo_append (poolKey : Pubkey) (receipts : List Receipt) (receipt : Receipt) :
    donationsTo poolKey (receipts ++ [receipt]) = donationsTo poolKey receipts + donationOf poolKey receipt := by
  simp [donationsTo]

-- What one successful instruction did.
inductive Succeeded (env : Runtime) (before after : Ledger) : Instruction → Prop where
  | created (created : PoolCreated env before after authority poolKey denomination) :
      Succeeded env before after (.initializePool authority poolKey denomination)
  | deposited (deposited : Deposited env before after depositor poolKey commitmentKey commitment pool inserted) :
      Succeeded env before after (.deposit depositor poolKey commitmentKey commitment)
  | withdrawn (withdrawn : Withdrawn env before after accounts proofData inputs pool fee) :
      Succeeded env before after (.withdraw accounts proofData inputs)
  | pauseSet (pauseSet : PauseSet env before after authority poolKey paused pool) :
      Succeeded env before after (.setPaused authority poolKey paused)

theorem execute_exact (accepted : execute env now before instruction = .ok (after,events)) :
    Succeeded env before after instruction := by
  cases instruction with
  | initializePool authority poolKey denomination =>
    simp only [execute,do_ok] at accepted
    obtain ⟨next,ran,result⟩ := accepted
    cases result
    exact .created (initializePool_exact ran)
  | deposit depositor poolKey commitmentKey commitment =>
    simp only [execute,do_ok] at accepted
    obtain ⟨⟨next,event⟩,ran,result⟩ := accepted
    cases result
    obtain ⟨pool,inserted,facts,_⟩ := deposit_exact ran
    exact .deposited facts
  | withdraw accounts proofData inputs =>
    simp only [execute,do_ok] at accepted
    obtain ⟨⟨next,event⟩,ran,result⟩ := accepted
    cases result
    obtain ⟨pool,fee,facts,_⟩ := withdraw_exact ran
    exact .withdrawn facts
  | setPaused authority poolKey paused =>
    simp only [execute,do_ok] at accepted
    obtain ⟨⟨next,event⟩,ran,result⟩ := accepted
    cases result
    obtain ⟨pool,facts,_⟩ := setPaused_exact ran
    exact .pauseSet facts

-- A submission either succeeded with these effects or changed nothing.
theorem submit_cases (env : Runtime) (now : Int) (ledger : Ledger) (instruction : Instruction) :
    (∃ events, (submit env now ledger instruction).2 = .ok events ∧
      Succeeded env ledger (submit env now ledger instruction).1 instruction) ∨
    (∃ error, (submit env now ledger instruction).2 = .error error ∧
      (submit env now ledger instruction).1 = ledger) := by
  unfold submit
  split
  · rename_i next events accepted
    exact .inl ⟨events,rfl,execute_exact accepted⟩
  · rename_i error refused
    exact .inr ⟨error,rfl,rfl⟩

theorem refused_keeps (refused : (submit env now ledger instruction).2 = .error error) :
    (submit env now ledger instruction).1 = ledger := by
  rcases submit_cases env now ledger instruction with ⟨_,result,_⟩ | ⟨_,_,unchanged⟩
  · rw [result] at refused
    cases refused
  · exact unchanged

-- Nothing the program does takes a mixer account's data away.
theorem succeeded_owned (done : Succeeded env before after instruction) (key : Pubkey)
    (owned : (before key).data.mixerOwned = true) : (after key).data.mixerOwned = true := by
  cases done with
  | created created =>
    rw [created.data]
    split
    · rfl
    · exact owned
  | deposited deposited =>
    rw [deposited.data]
    split
    · rfl
    · split
      · rfl
      · exact owned
  | withdrawn withdrawn =>
    rw [withdrawn.data]
    split
    · rfl
    · exact owned
  | pauseSet pauseSet =>
    rw [pauseSet.data]
    split
    · rfl
    · exact owned

theorem succeeded_total (done : Succeeded env before after instruction) :
    Balances.total after.lamports = Balances.total before.lamports := by
  cases done with
  | created created => exact created.total
  | deposited deposited => exact deposited.total
  | withdrawn withdrawn => exact withdrawn.total
  | pauseSet pauseSet => rw [pauseSet.lamports]

theorem owned_not_fresh {data : AccountData} (owned : data.mixerOwned = true) : data.isSystem = false := by
  cases data <;> first | rfl | cases owned

def nullifierAddress (env : Runtime) (poolKey : Pubkey) (hash : Bytes 32) : Pubkey :=
  (env.findProgramAddress (.nullifier poolKey hash)).1

def commitmentAddress (env : Runtime) (poolKey : Pubkey) (commitment : Bytes 32) : Pubkey :=
  (env.findProgramAddress (.commitment poolKey commitment)).1

-- Requests that one pool accepted: verified, canonical, no hash twice.
structure Accepted (env : Runtime) (withdrawals : List WithdrawRequest) : Prop where
  once : (withdrawals.map fun request => inputNullifierHash request.inputs).Nodup
  canonical : ∀ request ∈ withdrawals, Canonical (inputNullifierHash request.inputs)
  verified : ∀ request ∈ withdrawals, verifyProof env request.proofData request.inputs = .ok true

-- What the nullifier accounts of one pool record, from any starting ledger.
structure Spent (env : Runtime) (poolKey : Pubkey) (withdrawals : List WithdrawRequest) (ledger : Ledger) : Prop
    extends Accepted env withdrawals where
  spent : ∀ request ∈ withdrawals,
    (ledger (nullifierAddress env poolKey (inputNullifierHash request.inputs))).data.mixerOwned = true

theorem spent_kept (record : Spent env poolKey withdrawals before)
    (owned : ∀ key, (before key).data.mixerOwned = true → (after key).data.mixerOwned = true) :
    Spent env poolKey withdrawals after :=
  ⟨record.toAccepted,fun request member => owned _ (record.spent request member)⟩

-- A request whose nullifier account is still fresh repeats no recorded hash.
theorem spent_fresh (record : Spent env poolKey withdrawals ledger)
    (fresh : (ledger (nullifierAddress env poolKey (inputNullifierHash request.inputs))).data.isSystem = true)
    (canonical : Canonical (inputNullifierHash request.inputs))
    (verified : verifyProof env request.proofData request.inputs = .ok true) :
    Accepted env (withdrawals ++ [request]) := by
  refine ⟨?_,?_,?_⟩
  · rw [List.map_append]
    refine List.nodup_append'.mpr ⟨record.once,List.nodup_singleton _,?_⟩
    intro hash old new
    obtain ⟨earlier,member,same⟩ := List.mem_map.mp old
    have used := owned_not_fresh (record.spent earlier member)
    rw [same,List.mem_singleton.mp new,fresh] at used
    cases used
  · intro other member
    rcases List.mem_append.mp member with old | new
    · exact record.canonical other old
    · rw [List.mem_singleton.mp new]
      exact canonical
  · intro other member
    rcases List.mem_append.mp member with old | new
    · exact record.verified other old
    · rw [List.mem_singleton.mp new]
      exact verified

theorem spent_withdrawn (record : Spent env poolKey withdrawals before)
    (withdrawn : Withdrawn env before after accounts proofData inputs pool fee) (own : accounts.mixerPool = poolKey) :
    Spent env poolKey (withdrawals ++ [⟨accounts,proofData,inputs⟩]) after := by
  subst own
  have kept := spent_kept record (succeeded_owned (.withdrawn withdrawn))
  have fresh := withdrawn.fresh
  rw [withdrawn.address] at fresh
  refine ⟨spent_fresh record fresh withdrawn.admitted.nullifierCanonical withdrawn.verified,?_⟩
  intro request member
  rcases List.mem_append.mp member with old | new
  · exact kept.spent request old
  · rw [List.mem_singleton.mp new,nullifierAddress,← withdrawn.address,withdrawn.data,if_pos rfl]
    rfl

theorem step_owned (step : Step env before receipt after) (key : Pubkey)
    (owned : (before key).data.mixerOwned = true) : (after key).data.mixerOwned = true := by
  cases step with
  | submitted now instruction =>
    rcases submit_cases env now before instruction with ⟨_,_,done⟩ | ⟨_,_,unchanged⟩
    · exact succeeded_owned done key owned
    · rw [unchanged]
      exact owned
  | rolledBack => exact owned
  | external kept _ _ _ =>
    rw [kept key owned]
    exact owned

theorem step_spent (record : Spent env poolKey withdrawals before) (step : Step env before receipt after) :
    Spent env poolKey (withdrawals ++ (withdrawalOf poolKey receipt).toList) after := by
  have kept := spent_kept record (step_owned step)
  cases step with
  | submitted now instruction =>
    rcases submit_cases env now before instruction with ⟨events,result,done⟩ | ⟨error,result,unchanged⟩
    · rw [result]
      cases done with
      | created _ => simpa [withdrawalOf] using kept
      | deposited _ => simpa [withdrawalOf] using kept
      | @withdrawn accounts proofData inputs pool fee withdrawn =>
        by_cases own : accounts.mixerPool = poolKey
        · simpa [withdrawalOf,own] using spent_withdrawn record withdrawn own
        · simpa [withdrawalOf,own] using kept
      | pauseSet _ => simpa [withdrawalOf] using kept
    · rw [result]
      cases instruction <;> simpa [withdrawalOf] using kept
  | rolledBack => simpa [withdrawalOf] using kept
  | external _ _ _ _ => simpa [withdrawalOf] using kept

theorem runs_spent (path : Runs env start receipts ledger) :
    Spent env poolKey (withdrawalsOf poolKey receipts) ledger := by
  induction path with
  | nil => exact ⟨⟨List.nodup_nil,nofun,nofun⟩,nofun⟩
  | step _ step ih =>
    rw [withdrawalsOf_append]
    exact step_spent ih step

-- A root the pool accepted is one of its own history.
def RootedIn (env : Runtime) (commitments : List (Bytes 32)) (request : WithdrawRequest) : Prop :=
  Canonical (inputRoot request.inputs) ∧
    ∃ k ≤ commitments.length, inputRoot request.inputs = treeRoot env.poseidon (commitments.take k)

-- The record of one pool: its deposits and withdrawals so far and what else it received.
structure Tracked (env : Runtime) (poolKey : Pubkey) (denomination : UInt64) (base : Nat)
    (commitments : List (Bytes 32)) (withdrawals : List WithdrawRequest) (donations : Nat) (ledger : Ledger) :
    Prop where
  pool : ∃ pool, (ledger poolKey).data = .pool pool ∧ PoolState env.poseidon denomination commitments pool
  balance : ledger.lamports poolKey + denomination.toNat * withdrawals.length =
    base + denomination.toNat * commitments.length + donations
  deposited : ∀ commitment ∈ commitments,
    (ledger (commitmentAddress env poolKey commitment)).data.mixerOwned = true
  distinct : commitments.Nodup
  rooted : ∀ request ∈ withdrawals, RootedIn env commitments request

theorem rooted_append (rooted : RootedIn env commitments request) (more : List (Bytes 32)) :
    RootedIn env (commitments ++ more) request := by
  obtain ⟨canonical,k,entered,equal⟩ := rooted
  refine ⟨canonical,k,?_,?_⟩
  · rw [List.length_append]
    omega
  · rw [List.take_append_of_le_length entered]
    exact equal

section Steps
variable {env : Runtime} {poolKey : Pubkey} {denomination : UInt64} {base : Nat} {commitments : List (Bytes 32)}
  {withdrawals : List WithdrawRequest} {donations : Nat} {before after : Ledger}

-- A step that is no deposit into and no withdrawal from the pool keeps its record.
theorem tracked_quiet (received : Nat) (tracked : Tracked env poolKey denomination base commitments withdrawals donations before)
    (pool : ∃ pool, (after poolKey).data = .pool pool ∧ PoolState env.poseidon denomination commitments pool)
    (lamports : after.lamports poolKey = before.lamports poolKey + received)
    (owned : ∀ key, (before key).data.mixerOwned = true → (after key).data.mixerOwned = true) :
    Tracked env poolKey denomination base commitments withdrawals (donations + received) after := by
  have balance := tracked.balance
  exact ⟨pool,by omega,fun _ member => owned _ (tracked.deposited _ member),tracked.distinct,tracked.rooted⟩

theorem tracked_paused (tracked : Tracked env poolKey denomination base commitments withdrawals donations before)
    (pauseSet : PauseSet env before after authority key paused state) :
    Tracked env poolKey denomination base commitments withdrawals donations after := by
  obtain ⟨pool,loaded,valid⟩ := tracked.pool
  refine tracked_quiet 0 tracked ?_ ?_ (succeeded_owned (.pauseSet pauseSet))
  · rw [pauseSet.data]
    split
    · rename_i same
      subst same
      cases AccountData.pool.inj (pauseSet.loaded.symm.trans loaded)
      exact ⟨_,rfl,pause_preserves valid paused⟩
    · exact ⟨pool,loaded,valid⟩
  · rw [pauseSet.lamports]
    rfl

variable (unsigned : env.canSign poolKey = false)
include unsigned

theorem signer_apart (signed : env.canSign signer = true) : poolKey ≠ signer := by
  rintro rfl
  rw [unsigned] at signed
  cases signed

theorem tracked_created (tracked : Tracked env poolKey denomination base commitments withdrawals donations before)
    (created : PoolCreated env before after authority key other) :
    Tracked env poolKey denomination base commitments withdrawals donations after := by
  obtain ⟨pool,loaded,valid⟩ := tracked.pool
  have apart := pool_not_fresh loaded created.fresh
  refine tracked_quiet 0 tracked ⟨pool,?_,valid⟩ ?_ (succeeded_owned (.created created))
  · rw [created.data,if_neg apart,loaded]
  · have moved := created.lamports poolKey
    rw [share_other apart,share_other (signer_apart unsigned created.signed)] at moved
    exact moved

theorem tracked_deposited (zeros : ZeroChain env.poseidon)
    (tracked : Tracked env poolKey denomination base commitments withdrawals donations before)
    (deposited : Deposited env before after depositor poolKey commitmentKey commitment pool inserted) :
    Tracked env poolKey denomination base (commitments ++ [commitment]) withdrawals donations after := by
  obtain ⟨current,loaded,valid⟩ := tracked.pool
  cases AccountData.pool.inj (deposited.loaded.symm.trans loaded)
  have owned := succeeded_owned (.deposited deposited)
  have apart := pool_not_fresh loaded deposited.fresh
  have balance := tracked.balance
  refine ⟨⟨depositedPool pool inserted,?_,?_⟩,?_,?_,?_,?_⟩
  · rw [deposited.data,if_pos rfl]
  · exact deposit_preserves zeros valid deposited.room deposited.insertion
  · have moved := deposited.lamports poolKey
    rw [share_self,share_other apart,share_other (signer_apart unsigned deposited.signed),
      valid.denomination] at moved
    rw [List.length_append,List.length_singleton,Nat.mul_add]
    omega
  · intro leaf member
    rcases List.mem_append.mp member with old | new
    · exact owned _ (tracked.deposited leaf old)
    · rw [List.mem_singleton.mp new,commitmentAddress,← deposited.address,deposited.data,if_neg apart.symm,
        if_pos rfl]
      rfl
  · refine List.nodup_append'.mpr ⟨tracked.distinct,List.nodup_singleton _,?_⟩
    intro leaf old new
    rw [List.mem_singleton.mp new] at old
    have used := owned_not_fresh (tracked.deposited commitment old)
    rw [commitmentAddress,← deposited.address,deposited.fresh] at used
    cases used
  · exact fun request member => rooted_append (tracked.rooted request member) _

theorem tracked_withdrawn (tracked : Tracked env poolKey denomination base commitments withdrawals donations before)
    (withdrawn : Withdrawn env before after accounts proofData inputs pool fee) (own : accounts.mixerPool = poolKey) :
    Tracked env poolKey denomination base commitments (withdrawals ++ [⟨accounts,proofData,inputs⟩]) donations
      after := by
  subst own
  obtain ⟨current,loaded,valid⟩ := tracked.pool
  cases AccountData.pool.inj (withdrawn.loaded.symm.trans loaded)
  have owned := succeeded_owned (.withdrawn withdrawn)
  have apart := pool_not_fresh loaded withdrawn.fresh
  have balance := tracked.balance
  refine ⟨⟨pool,?_,valid⟩,?_,?_,tracked.distinct,?_⟩
  · rw [withdrawn.data,if_neg apart,loaded]
  · have moved := withdrawn.lamports accounts.mixerPool
    rw [share_self,share_other apart,share_other (signer_apart unsigned withdrawn.signed),
      share_other withdrawn.admitted.recipientApart.symm,share_other withdrawn.admitted.relayerApart.symm,
      valid.denomination] at moved
    rw [List.length_append,List.length_singleton,Nat.mul_add]
    omega
  · exact fun commitment member => owned _ (tracked.deposited commitment member)
  · intro request member
    rcases List.mem_append.mp member with old | new
    · exact tracked.rooted request old
    · rw [List.mem_singleton.mp new]
      obtain ⟨k,entered,_,equal⟩ := (isKnownRoot_exact valid _).mp withdrawn.admitted.known
      exact ⟨withdrawn.admitted.rootCanonical,k,entered,equal⟩

-- Another pool's withdrawal may still pay into this pool's address.
theorem tracked_elsewhere (tracked : Tracked env poolKey denomination base commitments withdrawals donations before)
    (withdrawn : Withdrawn env before after accounts proofData inputs other fee) (apart : accounts.mixerPool ≠ poolKey) :
    Tracked env poolKey denomination base commitments withdrawals
      (donations + (share accounts.recipient poolKey (other.denomination.toNat - feeOf (inputFee inputs)) +
        share accounts.relayer poolKey (feeOf (inputFee inputs)))) after := by
  obtain ⟨pool,loaded,valid⟩ := tracked.pool
  have fresh := pool_not_fresh loaded withdrawn.fresh
  refine tracked_quiet _ tracked ⟨pool,?_,valid⟩ ?_ (succeeded_owned (.withdrawn withdrawn))
  · rw [withdrawn.data,if_neg fresh,loaded]
  · have moved := withdrawn.lamports poolKey
    rw [share_other apart.symm,share_other fresh,share_other (signer_apart unsigned withdrawn.signed),
      withdrawn.admitted.feeValue] at moved
    omega

theorem tracked_otherDeposit
    (tracked : Tracked env poolKey denomination base commitments withdrawals donations before)
    (deposited : Deposited env before after depositor key commitmentKey commitment state inserted)
    (apart : key ≠ poolKey) : Tracked env poolKey denomination base commitments withdrawals donations after := by
  obtain ⟨pool,loaded,valid⟩ := tracked.pool
  have fresh := pool_not_fresh loaded deposited.fresh
  refine tracked_quiet 0 tracked ⟨pool,?_,valid⟩ ?_ (succeeded_owned (.deposited deposited))
  · rw [deposited.data,if_neg apart.symm,if_neg fresh,loaded]
  · have moved := deposited.lamports poolKey
    rw [share_other apart.symm,share_other fresh,share_other (signer_apart unsigned deposited.signed)] at moved
    exact moved

theorem step_tracked (zeros : ZeroChain env.poseidon)
    (tracked : Tracked env poolKey denomination base commitments withdrawals donations before)
    (step : Step env before receipt after) :
    Tracked env poolKey denomination base (commitments ++ (depositOf poolKey receipt).toList)
      (withdrawals ++ (withdrawalOf poolKey receipt).toList) (donations + donationOf poolKey receipt) after := by
  cases step with
  | submitted now instruction =>
    rcases submit_cases env now before instruction with ⟨events,result,done⟩ | ⟨error,result,unchanged⟩
    · rw [result]
      cases done with
      | created created => simpa [depositOf,withdrawalOf,donationOf] using tracked_created unsigned tracked created
      | @deposited depositor key commitmentKey commitment pool inserted deposited =>
        by_cases own : key = poolKey
        · subst own
          simpa [depositOf,withdrawalOf,donationOf] using tracked_deposited unsigned zeros tracked deposited
        · simpa [depositOf,withdrawalOf,donationOf,own] using tracked_otherDeposit unsigned tracked deposited own
      | @withdrawn accounts proofData inputs pool fee withdrawn =>
        by_cases own : accounts.mixerPool = poolKey
        · simpa [depositOf,withdrawalOf,donationOf,own] using tracked_withdrawn unsigned tracked withdrawn own
        · simpa [depositOf,withdrawalOf,donationOf,own,withdrawn.loaded] using
            tracked_elsewhere unsigned tracked withdrawn own
      | pauseSet pauseSet => simpa [depositOf,withdrawalOf,donationOf] using tracked_paused tracked pauseSet
    · rw [result,unchanged]
      cases instruction <;> simpa [depositOf,withdrawalOf,donationOf] using tracked
  | rolledBack => simpa [depositOf,withdrawalOf,donationOf] using tracked
  | external owned credited _ _ =>
    obtain ⟨pool,loaded,valid⟩ := tracked.pool
    have mine : (before poolKey).data.mixerOwned = true := by rw [loaded]; rfl
    simp only [depositOf,withdrawalOf,donationOf,Option.toList_none,List.append_nil]
    refine tracked_quiet _ tracked ⟨pool,?_,valid⟩ (credited _ mine) ?_
    · rw [owned _ mine,loaded]
    · intro key kept
      rw [owned key kept]
      exact kept

theorem runs_tracked (zeros : ZeroChain env.poseidon)
    (initial : Tracked env poolKey denomination base [] [] 0 start) (path : Runs env start receipts ledger) :
    Tracked env poolKey denomination base (commitmentsOf poolKey receipts) (withdrawalsOf poolKey receipts)
      (donationsTo poolKey receipts) ledger := by
  induction path with
  | nil => exact initial
  | step prior step ih =>
    rw [commitmentsOf_append,withdrawalsOf_append,donationsTo_append]
    exact step_tracked unsigned zeros ih step

end Steps

theorem step_supply (step : Step env before receipt after) (supply : Balances.total before.lamports < 2^64) :
    Balances.total after.lamports < 2^64 := by
  cases step with
  | submitted now instruction =>
    rcases submit_cases env now before instruction with ⟨_,_,done⟩ | ⟨_,_,unchanged⟩
    · rw [succeeded_total done]
      exact supply
    · rw [unchanged]
      exact supply
  | rolledBack => exact supply
  | external _ _ _ bounded => exact bounded

theorem runs_supply (path : Runs env start receipts ledger) (supply : Balances.total start.lamports < 2^64) :
    Balances.total ledger.lamports < 2^64 := by
  induction path with
  | nil => exact supply
  | step _ step ih => exact step_supply step ih

theorem initialPool_filled (authority : Pubkey) (denomination : UInt64) (bump : UInt8) :
    { initialPool authority denomination bump with filledSubtrees := fun i => ZERO_HASHES i } =
      initialPool authority denomination bump := rfl

-- The pool right after `initialize`, with any cache in place of the seeded one.
def reseed (poolKey : Pubkey) (filled : Fin TREE_LEVELS → Bytes 32) (ledger : Ledger) : Ledger :=
  match (ledger poolKey).data with
  | .pool state => ledger.setData poolKey (.pool { state with filledSubtrees := filled })
  | _ => ledger

theorem created_tracked (zeros : ZeroChain env.poseidon)
    (created : PoolCreated env before start authority poolKey denomination)
    (filled : Fin TREE_LEVELS → Bytes 32) :
    Tracked env poolKey denomination (max (before.lamports poolKey) (env.minimumBalance MixerPool.SPACE)) [] [] 0
      (reseed poolKey filled start) := by
  have here := created.data poolKey
  rw [if_pos rfl] at here
  have unsigned : env.canSign poolKey = false := by
    rw [created.address]
    exact env.derivedUnsigned _
  have funded := created.lamports poolKey
  rw [share_self,share_other (signer_apart unsigned created.signed)] at funded
  simp only [reseed,here]
  refine ⟨⟨_,setData_self _,initialPool_valid zeros filled⟩,?_,nofun,List.nodup_nil,nofun⟩
  rw [setData_lamports]
  simp only [List.length_nil,Nat.mul_zero,Nat.add_zero]
  omega

theorem reseed_initial (created : PoolCreated env before start authority poolKey denomination) :
    reseed poolKey (fun i => ZERO_HASHES i) start = start := by
  have here := created.data poolKey
  rw [if_pos rfl] at here
  simp only [reseed,here,initialPool_filled]
  funext key
  by_cases same : key = poolKey
  · subst same
    rw [Ledger.setData,Function.update_self,← here]
  · rw [setData_other _ same]

theorem created_unsigned (created : PoolCreated env before start authority poolKey denomination) :
    env.canSign poolKey = false := by
  rw [created.address]
  exact env.derivedUnsigned _

end Octora
