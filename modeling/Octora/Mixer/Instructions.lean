import Octora.Mixer.Ledger

namespace Octora
open BigEndian Fallible IncrementalTree

-- initialize.rs
def initialPool (authority : Pubkey) (denomination : UInt64) (bump : UInt8) : MixerPool where
  authority := authority
  denomination := denomination
  nextLeafIndex := 0
  currentRootIndex := 0
  rootHistory := fun _ => ZERO_HASHES ⟨TREE_LEVELS - 1,by decide⟩
  filledSubtrees := fun i => ZERO_HASHES i
  isPaused := 0
  bump := bump

def initializePool (env : Runtime) (ledger : Ledger) (authority poolKey : Pubkey) (denomination : UInt64) :
    Except Error Ledger := do
  require (env.canSign authority = true) Error.accountNotSigner
  let bump := (env.findProgramAddress (.mixerPool denomination)).2
  let created ← initAccount env ledger authority poolKey (.mixerPool denomination) MixerPool.SPACE
    fun bump => .pool (initialPool authority denomination bump)
  require (env.permissionlessInit = true ∨ authority = ADMIN_AUTHORITY) (Error.mixer .Unauthorized)
  require (0 < denomination.toNat) (Error.mixer .InvalidDenomination)
  .ok (created.setData poolKey (.pool (initialPool authority denomination bump)))

-- The seeds constraint of every later instruction re-derives the address from
-- the account's own denomination and bump.
def poolSeedsHold (env : Runtime) (poolKey : Pubkey) (pool : MixerPool) : Prop :=
  env.createProgramAddress (.mixerPool pool.denomination) pool.bump = some poolKey

instance (env : Runtime) (poolKey : Pubkey) (pool : MixerPool) : Decidable (poolSeedsHold env poolKey pool) :=
  inferInstanceAs (Decidable (_ = _))

-- deposit.rs
def zeroSibling (i : Fin TREE_LEVELS) : Bytes 32 :=
  if i.val = 0 then ZERO_VALUE else ZERO_HASHES ⟨i.val - 1,Nat.lt_of_le_of_lt (Nat.sub_le _ _) i.isLt⟩

def insertLevel (poseidon : List Fr → Fr) (state : Cursor (Bytes 32) TREE_LEVELS) (i : Fin TREE_LEVELS) :
    Except Error (Cursor (Bytes 32) TREE_LEVELS) :=
  let (filled,left,right) :=
    if state.index &&& 1 = 0 then
      (Function.update state.filled i state.current,state.current,zeroSibling i)
    else (state.filled,state.filled i,state.current)
  match hashv poseidon [left,right] with
  | some hash => .ok ⟨filled,hash,state.index >>> 1⟩
  | none => .error (.mixer .PoseidonHashFailed)

def insertLevels (poseidon : List Fr → Fr) (levels : Nat) (start : Cursor (Bytes 32) TREE_LEVELS) :
    Except Error (Cursor (Bytes 32) TREE_LEVELS) :=
  ((List.finRange TREE_LEVELS).take levels).foldlM (insertLevel poseidon) start

def insertLeaf (poseidon : List Fr → Fr) (filled : Fin TREE_LEVELS → Bytes 32) (commitment : Bytes 32)
    (leafIndex : Nat) : Except Error (Cursor (Bytes 32) TREE_LEVELS) :=
  insertLevels poseidon TREE_LEVELS ⟨filled,commitment,leafIndex⟩

def depositHandler (env : Runtime) (now : Int) (depositor poolKey : Pubkey) (commitment : Bytes 32)
    (ledger : Ledger) : Except Error (Ledger × DepositEvent) := do
  let pool ← ledger.loadPool poolKey
  require (pool.isPaused = 0) (Error.mixer .PoolPaused)
  require (pool.nextLeafIndex < MAX_LEAVES) (Error.mixer .TreeFull)
  let leafIndex := pool.nextLeafIndex
  let paid ← ledger.systemTransfer depositor poolKey pool.denomination.toNat
  let pool ← paid.loadPool poolKey
  let inserted ← insertLeaf env.poseidon pool.filledSubtrees commitment leafIndex
  let pushed := { pool with filledSubtrees := inserted.filled }.pushRoot inserted.current
  require (leafIndex + 1 < 2^32) Error.overflow
  .ok (paid.setData poolKey (.pool { pushed with nextLeafIndex := leafIndex + 1 }),⟨commitment,leafIndex,now⟩)

def deposit (env : Runtime) (now : Int) (ledger : Ledger) (depositor poolKey commitmentKey : Pubkey)
    (commitment : Bytes 32) : Except Error (Ledger × DepositEvent) := do
  require (env.canSign depositor = true) Error.accountNotSigner
  let pool ← ledger.loadPool poolKey
  let created ← initAccount env ledger depositor commitmentKey (.commitment poolKey commitment)
    CommitmentAccount.SPACE .commitment
  require (poolSeedsHold env poolKey pool) Error.constraintSeeds
  depositHandler env now depositor poolKey commitment created

-- withdraw.rs
structure WithdrawAccounts where
  signer : Pubkey
  mixerPool : Pubkey
  nullifierAccount : Pubkey
  recipient : Pubkey
  relayer : Pubkey

instance five_ne_zero : NeZero 5 := ⟨by decide⟩

def publicInput (inputs : Bytes PUBLIC_INPUTS_SIZE) (i : Fin 5) : Bytes 32 :=
  inputs.slice (32 * i.val) 32 (by have := i.isLt; simp only [PUBLIC_INPUTS_SIZE]; omega)

def inputRoot (inputs : Bytes PUBLIC_INPUTS_SIZE) : Bytes 32 := publicInput inputs 0
def inputNullifierHash (inputs : Bytes PUBLIC_INPUTS_SIZE) : Bytes 32 := publicInput inputs 1
def inputRecipient (inputs : Bytes PUBLIC_INPUTS_SIZE) : Bytes 32 := publicInput inputs 2
def inputRelayer (inputs : Bytes PUBLIC_INPUTS_SIZE) : Bytes 32 := publicInput inputs 3
def inputFee (inputs : Bytes PUBLIC_INPUTS_SIZE) : Bytes 32 := publicInput inputs 4

-- Byte-wise comparison from the most significant end; equality is refused too.
def ltFieldOrder : List UInt8 → List UInt8 → Bool
  | a :: x,b :: order => if a < b then true else if b < a then false else ltFieldOrder x order
  | _,_ => false

def requireLtFieldOrder (x : Bytes 32) : Except Error Unit :=
  require (ltFieldOrder x.toList bn254FieldOrder.toList = true) (Error.mixer .PublicInputOutOfRange)

def zeroExtend (half : Bytes 16) : Bytes 32 := ⟨List.replicate 16 0 ++ half.toList,by simp⟩

def pubkeyHi (pubkey : Pubkey) : Bytes 32 := zeroExtend (pubkey.slice 0 16 (by decide))
def pubkeyLo (pubkey : Pubkey) : Bytes 32 := zeroExtend (pubkey.slice 16 16 (by decide))

def pubkeyToFieldHash (poseidon : List Fr → Fr) (pubkey : Pubkey) : Except Error (Bytes 32) :=
  match hashv poseidon [pubkeyHi pubkey,pubkeyLo pubkey] with
  | some hash => .ok hash
  | none => .error (.mixer .PoseidonHashFailed)

-- verifier/groth16.rs
def verifyProof (env : Runtime) (proofData : Bytes PROOF_SIZE) (inputs : Bytes PUBLIC_INPUTS_SIZE) :
    Except Error Bool :=
  match env.groth16 (proofData.slice 0 64 (by decide)) (proofData.slice 64 128 (by decide))
      (proofData.slice 192 64 (by decide)) ((List.finRange 5).map (publicInput inputs)) with
  | some verified => .ok verified
  | none => .error (.mixer .InvalidProof)

def feeOf (feeField : Bytes 32) : Nat := (feeField.slice 24 8 (by decide)).value

def upperBytesZero (feeField : Bytes 32) : Prop := ∀ b ∈ (feeField.slice 0 24 (by decide)).toList, b = 0

instance (feeField : Bytes 32) : Decidable (upperBytesZero feeField) := inferInstanceAs (Decidable (∀ _ ∈ _, _))

-- Everything `withdraw` checks before it verifies the proof; the fee is the result.
def checkRequest (env : Runtime) (accounts : WithdrawAccounts) (inputs : Bytes PUBLIC_INPUTS_SIZE)
    (ledger : Ledger) : Except Error Nat := do
  requireLtFieldOrder (inputRoot inputs)
  requireLtFieldOrder (inputNullifierHash inputs)
  requireLtFieldOrder (inputRecipient inputs)
  requireLtFieldOrder (inputRelayer inputs)
  requireLtFieldOrder (inputFee inputs)
  require (upperBytesZero (inputFee inputs)) (Error.mixer .FeeOverflow)
  let fee := feeOf (inputFee inputs)
  let pool ← ledger.loadPool accounts.mixerPool
  require (pool.isPaused = 0) (Error.mixer .PoolPaused)
  require (fee < pool.denomination.toNat) (Error.mixer .FeeExceedsDenomination)
  require (pool.isKnownRoot (inputRoot inputs)) (Error.mixer .RootNotFound)
  require (accounts.recipient ≠ accounts.mixerPool) (Error.mixer .RecipientAliasesPool)
  require (accounts.relayer ≠ accounts.mixerPool) (Error.mixer .RecipientAliasesPool)
  let recipientBytes ← pubkeyToFieldHash env.poseidon accounts.recipient
  require (recipientBytes = inputRecipient inputs) (Error.mixer .RecipientMismatch)
  let relayerBytes ← pubkeyToFieldHash env.poseidon accounts.relayer
  require (relayerBytes = inputRelayer inputs) (Error.mixer .RelayerMismatch)
  .ok fee

def payOut (env : Runtime) (accounts : WithdrawAccounts) (denomination fee : Nat) (ledger : Ledger) :
    Except Error Ledger := do
  let minBalance := env.minimumBalance MixerPool.SPACE
  let available := ledger.lamports accounts.mixerPool - minBalance
  require (denomination ≤ available) (Error.mixer .InsufficientPoolBalance)
  require (fee ≤ denomination) Error.overflow
  let amount := denomination - fee
  let debited ← ledger.debit accounts.mixerPool amount
  let paid ← debited.credit accounts.recipient amount
  if 0 < fee then do
    let charged ← paid.debit accounts.mixerPool fee
    charged.credit accounts.relayer fee
  else .ok paid

def withdrawHandler (env : Runtime) (now : Int) (accounts : WithdrawAccounts) (proofData : Bytes PROOF_SIZE)
    (inputs : Bytes PUBLIC_INPUTS_SIZE) (ledger : Ledger) : Except Error (Ledger × WithdrawEvent) := do
  let fee ← checkRequest env accounts inputs ledger
  let pool ← ledger.loadPool accounts.mixerPool
  let verified ← verifyProof env proofData inputs
  require (verified = true) (Error.mixer .InvalidProof)
  let paid ← payOut env accounts pool.denomination.toNat fee ledger
  .ok (paid,⟨inputNullifierHash inputs,accounts.recipient,accounts.relayer,fee,now⟩)

def withdraw (env : Runtime) (now : Int) (ledger : Ledger) (accounts : WithdrawAccounts)
    (proofData : Bytes PROOF_SIZE) (inputs : Bytes PUBLIC_INPUTS_SIZE) :
    Except Error (Ledger × WithdrawEvent) := do
  require (env.canSign accounts.signer = true) Error.accountNotSigner
  let pool ← ledger.loadPool accounts.mixerPool
  let created ← initAccount env ledger accounts.signer accounts.nullifierAccount
    (.nullifier accounts.mixerPool (inputNullifierHash inputs)) NullifierAccount.SPACE .nullifier
  require (poolSeedsHold env accounts.mixerPool pool) Error.constraintSeeds
  withdrawHandler env now accounts proofData inputs created

-- set_paused.rs
def setPaused (env : Runtime) (now : Int) (ledger : Ledger) (authority poolKey : Pubkey) (paused : Bool) :
    Except Error (Ledger × PausedEvent) := do
  require (env.canSign authority = true) Error.accountNotSigner
  let pool ← ledger.loadPool poolKey
  require (poolSeedsHold env poolKey pool) Error.constraintSeeds
  require (pool.authority = authority) (Error.mixer .Unauthorized)
  .ok (ledger.setData poolKey (.pool { pool with isPaused := if paused then 1 else 0 }),
    ⟨pool.denomination,paused,authority,now⟩)

inductive Instruction where
  | initializePool (authority mixerPool : Pubkey) (denomination : UInt64)
  | deposit (depositor mixerPool commitmentAccount : Pubkey) (commitment : Bytes 32)
  | withdraw (accounts : WithdrawAccounts) (proofData : Bytes PROOF_SIZE) (publicInputs : Bytes PUBLIC_INPUTS_SIZE)
  | setPaused (authority mixerPool : Pubkey) (paused : Bool)

inductive Event where
  | deposit (event : DepositEvent)
  | withdraw (event : WithdrawEvent)
  | paused (event : PausedEvent)
  deriving DecidableEq

def execute (env : Runtime) (now : Int) (ledger : Ledger) : Instruction → Except Error (Ledger × List Event)
  | .initializePool authority poolKey denomination => do
    let next ← initializePool env ledger authority poolKey denomination
    .ok (next,[])
  | .deposit depositor poolKey commitmentKey commitment => do
    let (next,event) ← deposit env now ledger depositor poolKey commitmentKey commitment
    .ok (next,[.deposit event])
  | .withdraw accounts proofData inputs => do
    let (next,event) ← withdraw env now ledger accounts proofData inputs
    .ok (next,[.withdraw event])
  | .setPaused authority poolKey paused => do
    let (next,event) ← setPaused env now ledger authority poolKey paused
    .ok (next,[.paused event])

end Octora
