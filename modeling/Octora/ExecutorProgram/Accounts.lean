import Octora.ExecutorProgram.State
import Octora.Library.Calls
import Octora.Library.Fallible

namespace Octora.ExecutorProgram
open BigEndian Borsh Codec Calls Fallible

structure Account where
  lamports : Nat
  owner : Pubkey
  data : List UInt8
  executable : Bool
  deriving DecidableEq

abbrev Store := Pubkey → Account

-- What the program is run by: SHA-256, address derivation and rent.
structure Runtime where
  hash : List UInt8 → Bytes 32
  createProgramAddress : List (List UInt8) → Pubkey → Option Pubkey
  findProgramAddress : List (List UInt8) → Pubkey → Pubkey × UInt8
  found : ∀ seeds program, createProgramAddress (seeds ++ [[(findProgramAddress seeds program).2]]) program =
    some (findProgramAddress seeds program).1
  minimumBalance : Nat → Nat
  permissionlessInit : Bool

-- The privileges an instruction is called with. The runtime merges the flags of
-- an account that is listed twice, so they belong to the key. An address
-- derived from this program has no key, and the program never calls itself.
structure Message (env : Runtime) where
  isSigner : Pubkey → Bool
  isWritable : Pubkey → Bool
  derivedUnsigned : ∀ seeds address, env.createProgramAddress seeds ID = some address → isSigner address = false

inductive Error where
  | executor (error : ExecutorError)
  | accountNotSigner
  | accountNotInitialized
  | accountOwnedByWrongProgram
  | accountDiscriminatorNotFound
  | accountDiscriminatorMismatch
  | accountDidNotDeserialize
  | accountDidNotSerialize
  | invalidProgramId
  | invalidProgramExecutable
  | constraintMut
  | constraintSeeds
  | constraintClose
  | accountAlreadyInUse
  | fromCarriesData
  | insufficientFunds
  | overflow
  | panicked
  | invalidSeeds
  | missingAccount
  | privilegeEscalation
  | called (code : Nat)
  deriving DecidableEq

structure AccountMeta where
  pubkey : Pubkey
  isSigner : Bool
  isWritable : Bool
  deriving DecidableEq

-- A cross-program invocation: the instruction, the account infos handed over
-- with it and the seeds the program signs with, if it does.
structure Cpi where
  programId : Pubkey
  accounts : List AccountMeta
  data : List UInt8
  infos : List Pubkey
  signerSeeds : Option (List (List UInt8))
  deriving DecidableEq

-- A handler acts on other programs by calls alone; what a call leaves is its answer.
abbrev Handler (α : Type) := Op (fun _ : Cpi × Store => Store) Error α

namespace Store

def setData (store : Store) (key : Pubkey) (data : List UInt8) : Store :=
  Function.update store key { store key with data := data }

def setLamports (store : Store) (key : Pubkey) (amount : Nat) : Store :=
  Function.update store key { store key with lamports := amount }

def assign (store : Store) (key owner : Pubkey) : Store :=
  Function.update store key { store key with owner := owner }

def debit (store : Store) (key : Pubkey) (amount : Nat) : Except Error Store := do
  require (amount ≤ (store key).lamports) Error.insufficientFunds
  .ok (store.setLamports key ((store key).lamports - amount))

def credit (store : Store) (key : Pubkey) (amount : Nat) : Except Error Store := do
  require ((store key).lamports + amount < 2^64) Error.overflow
  .ok (store.setLamports key ((store key).lamports + amount))

def systemTransfer (store : Store) (sender receiver : Pubkey) (amount : Nat) : Except Error Store := do
  require ((store sender).owner = SYSTEM_PROGRAM_ID ∧ (store sender).data = []) Error.fromCarriesData
  let paid ← store.debit sender amount
  paid.credit receiver amount

end Store

-- Anchor's `Account<T>`: the owner, the discriminator, then the fields.
def load (discriminator : List UInt8) (body : Codec α) (store : Store) (key : Pubkey) : Except Error α := do
  let account := store key
  require (¬(account.owner = SYSTEM_PROGRAM_ID ∧ account.lamports = 0)) Error.accountNotInitialized
  require (account.owner = ID) Error.accountOwnedByWrongProgram
  require (discriminator.length ≤ account.data.length) Error.accountDiscriminatorNotFound
  require (account.data.take discriminator.length = discriminator) Error.accountDiscriminatorMismatch
  match body.read (account.data.drop discriminator.length) with
  | some item => .ok item
  | none => .error .accountDidNotDeserialize

def loadPoolAuthority : Store → Pubkey → Except Error PoolAuthority := load PoolAuthority.DISCRIMINATOR PoolAuthority.body
def loadConfig : Store → Pubkey → Except Error Config := load Config.DISCRIMINATOR Config.body

-- Anchor's `exit` of a mutable account: the fields are written back over the data.
def save (layout : Codec α) (store : Store) (key : Pubkey) (item : α) : Except Error Store := do
  require ((layout.encode item).length ≤ (store key).data.length) Error.accountDidNotSerialize
  .ok (store.setData key (layout.store (store key).data item))

def topUp (store : Store) (payer key : Pubkey) (missing : Nat) : Except Error Store :=
  if missing = 0 then .ok store else store.systemTransfer payer key missing

-- Anchor's `init`: the payer tops the derived address up to the rent minimum, then
-- it is allocated, zeroed, and assigned to the program.
def initAccount (env : Runtime) (message : Message env) (store : Store) (payer key : Pubkey) (seeds : List (List UInt8))
    (space : Nat) : Except Error (Store × UInt8) := do
  let (address,bump) := env.findProgramAddress seeds ID
  require (key = address) Error.constraintSeeds
  require (message.isWritable key = true) Error.constraintMut
  require ((store key).owner = SYSTEM_PROGRAM_ID ∧ (store key).data = []) Error.accountAlreadyInUse
  let funded ← topUp store payer key (env.minimumBalance space - (store key).lamports)
  .ok ((funded.assign key ID).setData key (List.replicate space 0),bump)

-- Anchor's `close`: the lamports go to the target, the account to the system program.
def closeAccount (store : Store) (key target : Pubkey) : Except Error Store := do
  let paid ← store.credit target (store key).lamports
  .ok (((paid.setLamports key 0).assign key SYSTEM_PROGRAM_ID).setData key [])

def seedsHold (env : Runtime) (seeds : List (List UInt8)) (bump : UInt8) (key : Pubkey) : Prop :=
  env.createProgramAddress (seeds ++ [[bump]]) ID = some key

instance (env : Runtime) (seeds : List (List UInt8)) (bump : UInt8) (key : Pubkey) :
    Decidable (seedsHold env seeds bump key) := inferInstanceAs (Decidable (_ = _))

-- cpi/mod.rs
def requireSplTokenProgram (key : Pubkey) : Except Error Unit :=
  require (key = SPL_TOKEN_PROGRAM_ID ∨ key = SPL_TOKEN_2022_PROGRAM_ID) (Error.executor .InvalidTokenProgram)

def requireSystemProgram (key : Pubkey) : Except Error Unit :=
  require (key = SYSTEM_PROGRAM_ID) (Error.executor .InvalidSysAccount)

def requireRentSysvar {env : Runtime} (message : Message env) (store : Store) (key : Pubkey) : Except Error Unit := do
  require (key = RENT_ID) (Error.executor .InvalidSysAccount)
  require (message.isSigner key = false) (Error.executor .InvalidSysAccount)
  require ((store key).executable = false) (Error.executor .InvalidSysAccount)

-- A key inside a token account, which is at least 165 bytes long.
def tokenField (store : Store) (tokenAccount : Pubkey) (offset : Nat) : Except Error Pubkey := do
  require (165 ≤ (store tokenAccount).data.length) (Error.executor .InvalidTokenAccount)
  match (array 32).read ((store tokenAccount).data.drop offset) with
  | some field => .ok field
  | none => .error .panicked

def readTokenAccountMint (store : Store) (tokenAccount : Pubkey) : Except Error Pubkey := tokenField store tokenAccount 0

def readTokenAccountOwner (store : Store) (tokenAccount : Pubkey) : Except Error Pubkey := tokenField store tokenAccount 32

def requireTokenAccountOwner (store : Store) (tokenAccount expected : Pubkey) : Except Error Unit := do
  let owner ← readTokenAccountOwner store tokenAccount
  require (owner = expected) (Error.executor .ExitRecipientMismatch)

def requireTokenAccountMint (store : Store) (tokenAccount expectedMint : Pubkey) : Except Error Unit := do
  let mint ← readTokenAccountMint store tokenAccount
  require (mint = expectedMint) (Error.executor .InvalidTokenAccount)

def readTokenAccountAmount (store : Store) (tokenAccount : Pubkey) : Except Error Nat := do
  require (165 ≤ (store tokenAccount).data.length) (Error.executor .InvalidTokenAccount)
  .ok (LittleEndian.value (LittleEndian.block (store tokenAccount).data 64 8))

def anchorDiscriminator (env : Runtime) (ixName : String) : List UInt8 :=
  (env.hash (ascii "global:" ++ ascii ixName)).toList.take 8

-- cpi/dlmm.rs
def requireDlmmEventAuthority (env : Runtime) (key : Pubkey) : Except Error Unit :=
  require (key = (env.findProgramAddress [ascii "__event_authority"] DLMM_PROGRAM_ID).1)
    (Error.executor .DlmmEventAuthorityMismatch)

def requireDlmmProgram (key : Pubkey) : Except Error Unit :=
  require (key = DLMM_PROGRAM_ID) (Error.executor .DlmmProgramMismatch)

def buildDlmmIx (env : Runtime) (ixName : String) (accounts : List AccountMeta) (argsBytes : List UInt8)
    (infos : List Pubkey) (signerSeeds : Option (List (List UInt8))) : Cpi where
  programId := DLMM_PROGRAM_ID
  accounts := accounts
  data := anchorDiscriminator env ixName ++ argsBytes
  infos := infos
  signerSeeds := signerSeeds

def derivedSigners (env : Runtime) : Option (List (List UInt8)) → Except Error (List Pubkey)
  | none => .ok []
  | some seeds =>
    match env.createProgramAddress seeds ID with
    | some address => .ok [address]
    | none => .error .invalidSeeds

-- An inner instruction names accounts that are handed over, and asks no more of
-- them than the outer call and the derived signers grant.
def privileged {env : Runtime} (message : Message env) (derived : List Pubkey) (account : AccountMeta) : Prop :=
  (account.isWritable = true → message.isWritable account.pubkey = true) ∧
    (account.isSigner = true → message.isSigner account.pubkey = true ∨ account.pubkey ∈ derived)

instance {env : Runtime} (message : Message env) (derived : List Pubkey) (account : AccountMeta) :
    Decidable (privileged message derived account) := inferInstanceAs (Decidable (_ ∧ _))

def prepare {env : Runtime} (message : Message env) (cpi : Cpi) : Except Error Unit := do
  let derived ← derivedSigners env cpi.signerSeeds
  require (∀ account ∈ cpi.accounts, account.pubkey ∈ cpi.infos) Error.missingAccount
  require (∀ account ∈ cpi.accounts, privileged message derived account) Error.privilegeEscalation

def invoke {env : Runtime} (message : Message env) (cpi : Cpi) (store : Store) : Handler Store := do
  Op.lift (prepare message cpi)
  Op.send (cpi,store)

section Lemmas
variable {env : Runtime} {message : Message env} {store next : Store} {key other : Pubkey}

@[simp] theorem setData_data (data : List UInt8) :
    (store.setData key data other).data = if other = key then data else (store other).data := by
  by_cases same : other = key
  · subst same; simp [Store.setData]
  · simp [Store.setData,same]

@[simp] theorem setData_owner (data : List UInt8) : (store.setData key data other).owner = (store other).owner := by
  by_cases same : other = key
  · subst same; simp [Store.setData]
  · simp [Store.setData,same]

@[simp] theorem setLamports_data (amount : Nat) : (store.setLamports key amount other).data = (store other).data := by
  by_cases same : other = key
  · subst same; simp [Store.setLamports]
  · simp [Store.setLamports,same]

@[simp] theorem setLamports_owner (amount : Nat) : (store.setLamports key amount other).owner = (store other).owner := by
  by_cases same : other = key
  · subst same; simp [Store.setLamports]
  · simp [Store.setLamports,same]

@[simp] theorem assign_data (owner : Pubkey) : (store.assign key owner other).data = (store other).data := by
  by_cases same : other = key
  · subst same; simp [Store.assign]
  · simp [Store.assign,same]

@[simp] theorem assign_owner (owner : Pubkey) :
    (store.assign key owner other).owner = if other = key then owner else (store other).owner := by
  by_cases same : other = key
  · subst same; simp [Store.assign]
  · simp [Store.assign,same]

@[simp] theorem setData_executable (data : List UInt8) :
    (store.setData key data other).executable = (store other).executable := by
  by_cases same : other = key
  · subst same; simp [Store.setData]
  · simp [Store.setData,same]

@[simp] theorem setLamports_executable (amount : Nat) :
    (store.setLamports key amount other).executable = (store other).executable := by
  by_cases same : other = key
  · subst same; simp [Store.setLamports]
  · simp [Store.setLamports,same]

@[simp] theorem assign_executable (owner : Pubkey) :
    (store.assign key owner other).executable = (store other).executable := by
  by_cases same : other = key
  · subst same; simp [Store.assign]
  · simp [Store.assign,same]

-- Whether an account is the program's, and what it then holds.
def holds (layout : Codec α) (store : Store) (key : Pubkey) : Option α :=
  if (store key).owner = ID then layout.read (store key).data else none

theorem holds_some {layout : Codec α} :
    holds layout store key = some item ↔ (store key).owner = ID ∧ layout.read (store key).data = some item := by
  unfold holds
  split <;> simp_all

theorem load_ok {discriminator : List UInt8} {body : Codec α} :
    load discriminator body store key = .ok item ↔ holds (tagged discriminator body) store key = some item := by
  have tag : (tagged discriminator body).read (store key).data =
      if (store key).data.take discriminator.length = discriminator then
        body.read ((store key).data.drop discriminator.length) else none := by
    unfold Codec.read tagged
    split <;> simp_all
  rw [holds_some,tag]
  unfold load
  constructor
  · intro loaded
    simp only [do_ok,require_ok] at loaded
    obtain ⟨_,_,_,owned,_,_,_,named,read⟩ := loaded
    refine ⟨owned,?_⟩
    rw [if_pos named]
    cases found : body.read ((store key).data.drop discriminator.length) with
    | none =>
      rw [found] at read
      cases read
    | some value =>
      rw [found] at read
      cases read
      rfl
  · rintro ⟨owned,read⟩
    split at read
    · rename_i named
      have long : discriminator.length ≤ (store key).data.length := by
        rw [← named,List.length_take]
        omega
      simp only [do_ok,require_ok,exists_const]
      refine ⟨fun system => ID_apart (owned.symm.trans system.1),owned,long,named,?_⟩
      rw [read]
    · cases read

-- What the program owns, as far as its two account types go.
def authorityAt (store : Store) (key : Pubkey) : Option PoolAuthority := holds PoolAuthority.layout store key
def configAt (store : Store) (key : Pubkey) : Option Config := holds Config.layout store key

theorem loadPoolAuthority_ok : loadPoolAuthority store key = .ok pa ↔ authorityAt store key = some pa := load_ok
theorem loadConfig_ok : loadConfig store key = .ok config ↔ configAt store key = some config := load_ok

theorem config_notAuthority (found : configAt store key = some config) : authorityAt store key = none := by
  obtain ⟨owned,read⟩ := holds_some.mp found
  rw [authorityAt,holds,if_pos owned]
  exact config_notPoolAuthority read

theorem authority_notConfig (found : authorityAt store key = some pa) : configAt store key = none := by
  obtain ⟨owned,read⟩ := holds_some.mp found
  rw [configAt,holds,if_pos owned]
  exact poolAuthority_notConfig read

end Lemmas

end Octora.ExecutorProgram
