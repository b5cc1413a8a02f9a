import Octora.Mixer.Instructions

namespace Octora
open BigEndian Fallible IncrementalTree

-- Amounts are stated additively, one equation per address, so that an address
-- playing several roles in one instruction needs no separate case.
def share (here key : Pubkey) (amount : Nat) : Nat := if key = here then amount else 0

@[simp] theorem share_self (key : Pubkey) (amount : Nat) : share key key amount = amount := if_pos rfl

@[simp] theorem share_zero (here key : Pubkey) : share here key 0 = 0 := by simp [share]

theorem share_other (apart : key ≠ here) : share here key amount = 0 := if_neg apart

theorem share_add (here key : Pubkey) (one two : Nat) :
    share here key (one + two) = share here key one + share here key two := by
  unfold share
  split <;> rfl

structure Transferred (sender receiver : Pubkey) (amount : Nat) (before after : Ledger) : Prop where
  data : ∀ key, (after key).data = (before key).data
  lamports : ∀ key, after.lamports key + share sender key amount = before.lamports key + share receiver key amount
  total : Balances.total after.lamports = Balances.total before.lamports

theorem transferred_nothing (sender receiver : Pubkey) (ledger : Ledger) :
    Transferred sender receiver 0 ledger ledger := ⟨fun _ => rfl,fun _ => by simp,rfl⟩

theorem debit_credit (taken : before.debit sender amount = .ok middle)
    (given : Ledger.credit middle receiver amount = .ok after) : Transferred sender receiver amount before after := by
  obtain ⟨enough,rfl⟩ := debit_exact.mp taken
  obtain ⟨_,rfl⟩ := credit_exact.mp given
  refine ⟨fun key => by simp,fun key => ?_,?_⟩
  · simp only [setLamports_lamports,share]
    by_cases received : key = receiver
    · subst received
      rw [Function.update_self,if_pos rfl]
      by_cases sent : key = sender
      · subst sent
        rw [Function.update_self,if_pos rfl]
        omega
      · rw [Function.update_of_ne sent,if_neg sent]
        omega
    · rw [Function.update_of_ne received,if_neg received]
      by_cases sent : key = sender
      · subst sent
        rw [Function.update_self,if_pos rfl]
        omega
      · rw [Function.update_of_ne sent,if_neg sent]
  · have credited := Balances.total_update (before.setLamports sender (before.lamports sender - amount)).lamports
      receiver ((before.setLamports sender (before.lamports sender - amount)).lamports receiver + amount)
    have debited := Balances.total_update before.lamports sender (before.lamports sender - amount)
    rw [setLamports_lamports,setLamports_lamports] at *
    omega

theorem systemTransfer_exact (accepted : before.systemTransfer sender receiver amount = .ok after) :
    (before sender).data.isSystem = true ∧ Transferred sender receiver amount before after := by
  simp only [Ledger.systemTransfer,do_ok,require_ok] at accepted
  obtain ⟨_,system,_,_,middle,taken,given⟩ := accepted
  exact ⟨system,debit_credit taken given⟩

theorem loadPool_exact : Ledger.loadPool ledger key = .ok pool ↔ (ledger key).data = .pool pool := by
  unfold Ledger.loadPool
  split
  · rename_i state here
    simp [here]
  · rename_i absent
    exact ⟨nofun,fun here => absurd here (absent pool)⟩

structure Allocated (env : Runtime) (payer key : Pubkey) (seeds : Seeds) (space : Nat) (data : UInt8 → AccountData)
    (before after : Ledger) : Prop where
  address : key = (env.findProgramAddress seeds).1
  fresh : (before key).data.isSystem = true
  data : ∀ other, (after other).data = if other = key then data (env.findProgramAddress seeds).2 else (before other).data
  lamports : ∀ other, after.lamports other + share payer other (env.minimumBalance space - before.lamports key) =
    before.lamports other + share key other (env.minimumBalance space - before.lamports key)
  total : Balances.total after.lamports = Balances.total before.lamports

theorem initAccount_exact (accepted : initAccount env before payer key seeds space data = .ok after) :
    Allocated env payer key seeds space data before after := by
  simp only [initAccount,do_ok,require_ok] at accepted
  obtain ⟨_,address,_,fresh,funded,paid,stored⟩ := accepted
  cases stored
  have moved : Transferred payer key (env.minimumBalance space - before.lamports key) before funded := by
    unfold topUp at paid
    split at paid
    · rename_i nothing
      cases paid
      rw [nothing]
      exact transferred_nothing _ _ _
    · exact (systemTransfer_exact paid).2
  refine ⟨address,fresh,fun other => ?_,fun other => ?_,?_⟩
  · split
    · rename_i same
      subst same
      simp
    · rename_i apart
      rw [setData_other _ apart,moved.data]
  · rw [setData_lamports]
    exact moved.lamports other
  · rw [setData_lamports]
    exact moved.total

structure PoolCreated (env : Runtime) (before after : Ledger) (authority poolKey : Pubkey) (denomination : UInt64) :
    Prop where
  signed : env.canSign authority = true
  admitted : env.permissionlessInit = true ∨ authority = ADMIN_AUTHORITY
  positive : 0 < denomination.toNat
  address : poolKey = (env.findProgramAddress (.mixerPool denomination)).1
  fresh : (before poolKey).data.isSystem = true
  data : ∀ key, (after key).data = if key = poolKey then
    .pool (initialPool authority denomination (env.findProgramAddress (.mixerPool denomination)).2) else (before key).data
  lamports : ∀ key, after.lamports key +
      share authority key (env.minimumBalance MixerPool.SPACE - before.lamports poolKey) =
    before.lamports key + share poolKey key (env.minimumBalance MixerPool.SPACE - before.lamports poolKey)
  total : Balances.total after.lamports = Balances.total before.lamports

theorem initializePool_exact (accepted : initializePool env before authority poolKey denomination = .ok after) :
    PoolCreated env before after authority poolKey denomination := by
  simp only [initializePool,do_ok,require_ok] at accepted
  obtain ⟨_,signed,created,allocated,_,admitted,_,positive,stored⟩ := accepted
  cases stored
  have made := initAccount_exact allocated
  refine ⟨signed,admitted,positive,made.address,made.fresh,fun key => ?_,fun key => ?_,?_⟩
  · split
    · rename_i same
      subst same
      simp
    · rename_i apart
      rw [setData_other _ apart,made.data,if_neg apart]
  · rw [setData_lamports]
    exact made.lamports key
  · rw [setData_lamports]
    exact made.total

def depositedPool (pool : MixerPool) (inserted : Cursor (Bytes 32) TREE_LEVELS) : MixerPool :=
  { { pool with filledSubtrees := inserted.filled }.pushRoot inserted.current with
    nextLeafIndex := pool.nextLeafIndex + 1 }

structure Deposited (env : Runtime) (before after : Ledger) (depositor poolKey commitmentKey : Pubkey)
    (commitment : Bytes 32) (pool : MixerPool) (inserted : Cursor (Bytes 32) TREE_LEVELS) : Prop where
  signed : env.canSign depositor = true
  loaded : (before poolKey).data = .pool pool
  active : pool.isPaused = 0
  room : pool.nextLeafIndex < MAX_LEAVES
  address : commitmentKey = (env.findProgramAddress (.commitment poolKey commitment)).1
  fresh : (before commitmentKey).data.isSystem = true
  insertion : insertLeaf env.poseidon pool.filledSubtrees commitment pool.nextLeafIndex = .ok inserted
  data : ∀ key, (after key).data = if key = poolKey then .pool (depositedPool pool inserted)
    else if key = commitmentKey then .commitment (env.findProgramAddress (.commitment poolKey commitment)).2
    else (before key).data
  lamports : ∀ key, after.lamports key + share depositor key
      (env.minimumBalance CommitmentAccount.SPACE - before.lamports commitmentKey + pool.denomination.toNat) =
    before.lamports key + share commitmentKey key
      (env.minimumBalance CommitmentAccount.SPACE - before.lamports commitmentKey) +
      share poolKey key pool.denomination.toNat
  total : Balances.total after.lamports = Balances.total before.lamports

theorem pool_not_fresh {ledger : Ledger} (loaded : (ledger poolKey).data = .pool pool)
    (fresh : (ledger key).data.isSystem = true) : poolKey ≠ key := by
  rintro rfl
  rw [loaded] at fresh
  cases fresh

theorem deposit_exact (accepted : deposit env now before depositor poolKey commitmentKey commitment = .ok (after,event)) :
    ∃ pool inserted, Deposited env before after depositor poolKey commitmentKey commitment pool inserted ∧
      event = ⟨commitment,pool.nextLeafIndex,now⟩ := by
  simp only [deposit,depositHandler,do_ok,require_ok] at accepted
  obtain ⟨_,signed,pool,loaded,created,allocated,_,_,again,reloaded,_,active,_,room,paid,transferred,
    third,loadedPaid,inserted,insertion,_,_,result⟩ := accepted
  have made := initAccount_exact allocated
  have moved := (systemTransfer_exact transferred).2
  have loadedHere := loadPool_exact.mp loaded
  have apart := pool_not_fresh loadedHere made.fresh
  have kept : again = pool := by
    have := loadPool_exact.mp reloaded
    rw [made.data,if_neg apart,loadedHere] at this
    exact (AccountData.pool.inj this).symm
  have keptPaid : third = pool := by
    have := loadPool_exact.mp loadedPaid
    rw [moved.data,made.data,if_neg apart,loadedHere] at this
    exact (AccountData.pool.inj this).symm
  subst kept keptPaid
  obtain ⟨rfl,rfl⟩ := Prod.mk.inj (Except.ok.inj result)
  refine ⟨third,inserted,⟨signed,loadedHere,active,room,made.address,made.fresh,insertion,?_,?_,?_⟩,rfl⟩
  · intro key
    split
    · rename_i same
      subst same
      rw [setData_self]
      rfl
    · rename_i elsewhere
      rw [setData_other _ elsewhere,moved.data,made.data]
  · intro key
    rw [setData_lamports,share_add]
    have first := made.lamports key
    have second := moved.lamports key
    omega
  · rw [setData_lamports,moved.total,made.total]

-- What the checks of `withdraw` establish.
structure Admitted (env : Runtime) (accounts : WithdrawAccounts) (inputs : Bytes PUBLIC_INPUTS_SIZE)
    (pool : MixerPool) (fee : Nat) : Prop where
  rootCanonical : Canonical (inputRoot inputs)
  nullifierCanonical : Canonical (inputNullifierHash inputs)
  recipientCanonical : Canonical (inputRecipient inputs)
  relayerCanonical : Canonical (inputRelayer inputs)
  feeCanonical : Canonical (inputFee inputs)
  upper : upperBytesZero (inputFee inputs)
  feeValue : fee = feeOf (inputFee inputs)
  active : pool.isPaused = 0
  bounded : fee < pool.denomination.toNat
  known : pool.isKnownRoot (inputRoot inputs)
  recipientApart : accounts.recipient ≠ accounts.mixerPool
  relayerApart : accounts.relayer ≠ accounts.mixerPool
  recipient : pubkeyToFieldHash env.poseidon accounts.recipient = .ok (inputRecipient inputs)
  relayer : pubkeyToFieldHash env.poseidon accounts.relayer = .ok (inputRelayer inputs)

theorem ltFieldOrder_value (same : left.length = right.length) :
    ltFieldOrder left right = true ↔ BigEndian.value left < BigEndian.value right := by
  induction left generalizing right with
  | nil =>
    cases right with
    | nil => simp [ltFieldOrder]
    | cons b rest => cases same
  | cons a left ih =>
    cases right with
    | nil => cases same
    | cons b right =>
      have lengths : left.length = right.length := Nat.succ.inj same
      have leftBound := value_bound left
      have rightBound := value_bound right
      rw [ltFieldOrder,value_cons,value_cons]
      rw [lengths] at leftBound ⊢
      split
      · rename_i less
        have step : (a.toNat + 1) * 256 ^ right.length ≤ b.toNat * 256 ^ right.length :=
          Nat.mul_le_mul_right _ (UInt8.lt_iff_toNat_lt.mp less)
        rw [Nat.succ_mul] at step
        simp only [true_iff]
        omega
      · rename_i notLess
        split
        · rename_i greater
          have step : (b.toNat + 1) * 256 ^ right.length ≤ a.toNat * 256 ^ right.length :=
            Nat.mul_le_mul_right _ (UInt8.lt_iff_toNat_lt.mp greater)
          rw [Nat.succ_mul] at step
          simp only [Bool.false_eq_true,false_iff]
          omega
        · rename_i notGreater
          have equal : a = b := by
            apply UInt8.toNat_inj.mp
            rw [UInt8.lt_iff_toNat_lt] at notLess notGreater
            omega
          rw [ih lengths,equal]
          omega

theorem requireLtFieldOrder_ok (u : Unit) : requireLtFieldOrder x = .ok u ↔ Canonical x := by
  rw [requireLtFieldOrder,require_ok,ltFieldOrder_value (by simp)]
  rw [Canonical,← bn254FieldOrder_value]
  rfl

-- The check is exact: it takes the encodings below r and refuses the others, so that each
-- field element has one encoding that passes.
theorem range_check_exact :
    (∀ x : Bytes 32, requireLtFieldOrder x = .ok () ↔ x.value < bn254FieldOrder.value) ∧
    (∀ x : Bytes 32, requireLtFieldOrder x = .error (.mixer .PublicInputOutOfRange) ↔ bn254FieldOrder.value ≤ x.value) ∧
    bn254FieldOrder.value = fieldOrder ∧
    ∀ element : Fr, ∃! x : Bytes 32, requireLtFieldOrder x = .ok () ∧ bytesField x = element := by
  have accepts : ∀ x : Bytes 32, requireLtFieldOrder x = .ok () ↔ x.value < bn254FieldOrder.value := by
    intro x
    rw [requireLtFieldOrder_ok,Canonical,bn254FieldOrder_value]
  refine ⟨accepts,?_,bn254FieldOrder_value,?_⟩
  · intro x
    rw [← Nat.not_lt,← accepts x,requireLtFieldOrder,require]
    split
    · simp
    · simp
  · intro element
    refine ⟨fieldBytes element,⟨(requireLtFieldOrder_ok ()).mpr (fieldBytes_canonical element),bytesField_fieldBytes element⟩,?_⟩
    intro x held
    have canonical := (requireLtFieldOrder_ok ()).mp held.1
    have stands := fieldBytes_canonical element
    exact bytesField_injective canonical stands (held.2.trans (bytesField_fieldBytes element).symm)

theorem checkRequest_exact : checkRequest env accounts inputs ledger = .ok fee ↔
    ∃ pool, (ledger accounts.mixerPool).data = .pool pool ∧ Admitted env accounts inputs pool fee := by
  simp only [checkRequest,do_ok,require_ok,requireLtFieldOrder_ok,loadPool_exact]
  constructor
  · rintro ⟨_,root,_,nullifier,_,recipient,_,relayer,_,feeLow,_,upper,pool,loaded,_,active,_,bounded,_,known,
      _,one,_,two,_,hashed,_,equal,_,hashedRelayer,_,equalRelayer,result⟩
    cases result
    subst equal equalRelayer
    exact ⟨pool,loaded,⟨root,nullifier,recipient,relayer,feeLow,upper,rfl,active,bounded,known,one,two,
      hashed,hashedRelayer⟩⟩
  · rintro ⟨pool,loaded,admitted⟩
    exact ⟨(),admitted.rootCanonical,(),admitted.nullifierCanonical,(),admitted.recipientCanonical,(),
      admitted.relayerCanonical,(),admitted.feeCanonical,(),admitted.upper,pool,loaded,(),admitted.active,(),
      admitted.feeValue ▸ admitted.bounded,(),admitted.known,(),admitted.recipientApart,(),admitted.relayerApart,
      _,admitted.recipient,(),rfl,_,admitted.relayer,(),rfl,congrArg _ admitted.feeValue.symm⟩

structure PaidOut (env : Runtime) (accounts : WithdrawAccounts) (denomination fee : Nat) (before after : Ledger) :
    Prop where
  solvent : denomination ≤ before.lamports accounts.mixerPool - env.minimumBalance MixerPool.SPACE
  data : ∀ key, (after key).data = (before key).data
  lamports : ∀ key, after.lamports key + share accounts.mixerPool key denomination =
    before.lamports key + share accounts.recipient key (denomination - fee) + share accounts.relayer key fee
  total : Balances.total after.lamports = Balances.total before.lamports

theorem payOut_exact (accepted : payOut env accounts denomination fee before = .ok after) :
    PaidOut env accounts denomination fee before after := by
  simp only [payOut,do_ok,require_ok] at accepted
  obtain ⟨_,solvent,_,covered,debited,taken,paid,given,rest⟩ := accepted
  have first := debit_credit taken given
  have second : Transferred accounts.mixerPool accounts.relayer fee paid after := by
    split at rest
    · simp only [do_ok] at rest
      obtain ⟨charged,one,two⟩ := rest
      exact debit_credit one two
    · rename_i free
      cases rest
      have : fee = 0 := by omega
      rw [this]
      exact transferred_nothing _ _ _
  refine ⟨solvent,fun key => (second.data key).trans (first.data key),fun key => ?_,second.total.trans first.total⟩
  have whole : denomination = denomination - fee + fee := by omega
  have one := first.lamports key
  have two := second.lamports key
  have split := share_add accounts.mixerPool key (denomination - fee) fee
  rw [← whole] at split
  omega

structure Withdrawn (env : Runtime) (before after : Ledger) (accounts : WithdrawAccounts)
    (proofData : Bytes PROOF_SIZE) (inputs : Bytes PUBLIC_INPUTS_SIZE) (pool : MixerPool) (fee : Nat) : Prop where
  signed : env.canSign accounts.signer = true
  loaded : (before accounts.mixerPool).data = .pool pool
  address : accounts.nullifierAccount =
    (env.findProgramAddress (.nullifier accounts.mixerPool (inputNullifierHash inputs))).1
  fresh : (before accounts.nullifierAccount).data.isSystem = true
  admitted : Admitted env accounts inputs pool fee
  verified : verifyProof env proofData inputs = .ok true
  data : ∀ key, (after key).data = if key = accounts.nullifierAccount then
    .nullifier (env.findProgramAddress (.nullifier accounts.mixerPool (inputNullifierHash inputs))).2
    else (before key).data
  lamports : ∀ key, after.lamports key + share accounts.mixerPool key pool.denomination.toNat + share accounts.signer key
      (env.minimumBalance NullifierAccount.SPACE - before.lamports accounts.nullifierAccount) =
    before.lamports key + share accounts.recipient key (pool.denomination.toNat - fee) +
      share accounts.relayer key fee + share accounts.nullifierAccount key
        (env.minimumBalance NullifierAccount.SPACE - before.lamports accounts.nullifierAccount)
  total : Balances.total after.lamports = Balances.total before.lamports

theorem withdraw_exact (accepted : withdraw env now before accounts proofData inputs = .ok (after,event)) :
    ∃ pool fee, Withdrawn env before after accounts proofData inputs pool fee ∧
      event = ⟨inputNullifierHash inputs,accounts.recipient,accounts.relayer,fee,now⟩ := by
  simp only [withdraw,withdrawHandler,do_ok,require_ok] at accepted
  obtain ⟨_,signed,pool,loaded,created,allocated,_,_,fee,checked,again,reloaded,verified,verification,_,valid,
    paid,payment,result⟩ := accepted
  subst valid
  obtain ⟨rfl,rfl⟩ := Prod.mk.inj (Except.ok.inj result)
  have made := initAccount_exact allocated
  have out := payOut_exact payment
  have loadedHere := loadPool_exact.mp loaded
  have apart := pool_not_fresh loadedHere made.fresh
  have here : (created accounts.mixerPool).data = .pool pool := by rw [made.data,if_neg apart,loadedHere]
  have kept : again = pool := AccountData.pool.inj ((loadPool_exact.mp reloaded).symm.trans here)
  subst kept
  obtain ⟨checkedPool,checkedHere,admitted⟩ := checkRequest_exact.mp checked
  have same : checkedPool = again := AccountData.pool.inj (checkedHere.symm.trans here)
  subst same
  refine ⟨checkedPool,fee,⟨signed,loadedHere,made.address,made.fresh,admitted,verification,?_,?_,?_⟩,rfl⟩
  · intro key
    rw [out.data,made.data]
  · intro key
    have first := made.lamports key
    have second := out.lamports key
    omega
  · rw [out.total,made.total]

def pausedPool (pool : MixerPool) (paused : Bool) : MixerPool := { pool with isPaused := if paused then 1 else 0 }

structure PauseSet (env : Runtime) (before after : Ledger) (authority poolKey : Pubkey) (paused : Bool)
    (pool : MixerPool) : Prop where
  signed : env.canSign authority = true
  loaded : (before poolKey).data = .pool pool
  owner : pool.authority = authority
  data : ∀ key, (after key).data = if key = poolKey then .pool (pausedPool pool paused) else (before key).data
  lamports : after.lamports = before.lamports

theorem setPaused_exact (accepted : setPaused env now before authority poolKey paused = .ok (after,event)) :
    ∃ pool, PauseSet env before after authority poolKey paused pool ∧
      event = ⟨pool.denomination,paused,authority,now⟩ := by
  simp only [setPaused,do_ok,require_ok] at accepted
  obtain ⟨_,signed,pool,loaded,_,_,_,owner,result⟩ := accepted
  obtain ⟨rfl,rfl⟩ := Prod.mk.inj (Except.ok.inj result)
  refine ⟨pool,⟨signed,loadPool_exact.mp loaded,owner,fun key => ?_,setData_lamports _⟩,rfl⟩
  by_cases same : key = poolKey
  · subst same
    rw [if_pos rfl,setData_self]
    rfl
  · rw [if_neg same,setData_other _ same]

end Octora
