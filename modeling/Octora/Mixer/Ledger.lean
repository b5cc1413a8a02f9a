import Octora.Mixer.State
import Octora.Library.Balances
import Octora.Library.Fallible
import Mathlib.Data.Fintype.Vector

namespace Octora
open BigEndian Fallible

-- `system` is a plain wallet or an address nobody initialised; `foreign` is
-- any account the mixer neither owns nor recognises by discriminator.
inductive AccountData where
  | system
  | pool (state : MixerPool)
  | nullifier (bump : UInt8)
  | commitment (bump : UInt8)
  | foreign

def AccountData.isSystem : AccountData → Bool
  | .system => true
  | _ => false

def AccountData.mixerOwned : AccountData → Bool
  | .pool _ | .nullifier _ | .commitment _ => true
  | _ => false

structure Account where
  lamports : Nat
  data : AccountData

abbrev Ledger := Pubkey → Account

inductive Seeds where
  | mixerPool (denomination : UInt64)
  | nullifier (pool : Pubkey) (hash : Bytes 32)
  | commitment (pool : Pubkey) (commitment : Bytes 32)

-- What the program is run by: the Poseidon syscall, the Groth16 crate (none
-- when its constructor refuses the bytes), rent, address derivation and keys.
-- A derived address has no private key and this program never calls itself.
structure Runtime where
  poseidon : List Fr → Fr
  groth16 : Bytes 64 → Bytes 128 → Bytes 64 → List (Bytes 32) → Option Bool
  minimumBalance : Nat → Nat
  findProgramAddress : Seeds → Pubkey × UInt8
  createProgramAddress : Seeds → UInt8 → Option Pubkey
  canSign : Pubkey → Bool
  derivedUnsigned : ∀ seeds, canSign (findProgramAddress seeds).1 = false
  permissionlessInit : Bool

inductive Error where
  | mixer (error : MixerError)
  | accountNotSigner
  | accountNotInitialized
  | constraintSeeds
  | accountAlreadyInUse
  | fromNotSystem
  | insufficientFunds
  | overflow
  deriving DecidableEq

namespace Ledger

def lamports (ledger : Ledger) (key : Pubkey) : Nat := (ledger key).lamports

def setLamports (ledger : Ledger) (key : Pubkey) (amount : Nat) : Ledger :=
  Function.update ledger key { ledger key with lamports := amount }

def setData (ledger : Ledger) (key : Pubkey) (data : AccountData) : Ledger :=
  Function.update ledger key { ledger key with data := data }

-- `overflow-checks` is on in the release profile: both directions can only panic.
def debit (ledger : Ledger) (key : Pubkey) (amount : Nat) : Except Error Ledger := do
  require (amount ≤ ledger.lamports key) Error.overflow
  .ok (ledger.setLamports key (ledger.lamports key - amount))

def credit (ledger : Ledger) (key : Pubkey) (amount : Nat) : Except Error Ledger := do
  require (ledger.lamports key + amount < 2^64) Error.overflow
  .ok (ledger.setLamports key (ledger.lamports key + amount))

def systemTransfer (ledger : Ledger) (sender receiver : Pubkey) (amount : Nat) : Except Error Ledger := do
  require ((ledger sender).data.isSystem = true) Error.fromNotSystem
  require (amount ≤ ledger.lamports sender) Error.insufficientFunds
  let paid ← ledger.debit sender amount
  paid.credit receiver amount

def loadPool (ledger : Ledger) (key : Pubkey) : Except Error MixerPool :=
  match (ledger key).data with
  | .pool state => .ok state
  | _ => .error .accountNotInitialized

end Ledger

def topUp (ledger : Ledger) (payer key : Pubkey) (missing : Nat) : Except Error Ledger :=
  if missing = 0 then .ok ledger else ledger.systemTransfer payer key missing

-- Anchor's `init`: the payer tops the address up to the rent minimum, then the
-- account is allocated; an address already in use is refused.
def initAccount (env : Runtime) (ledger : Ledger) (payer key : Pubkey) (seeds : Seeds) (space : Nat)
    (data : UInt8 → AccountData) : Except Error Ledger := do
  let (address,bump) := env.findProgramAddress seeds
  require (key = address) Error.constraintSeeds
  require ((ledger key).data.isSystem = true) Error.accountAlreadyInUse
  let funded ← topUp ledger payer key (env.minimumBalance space - ledger.lamports key)
  .ok (funded.setData key (data bump))

section Lemmas
variable {ledger next : Ledger} {key other : Pubkey} {amount : Nat}

@[simp] theorem setLamports_lamports :
    (ledger.setLamports key amount).lamports = Function.update ledger.lamports key amount := by
  funext other
  by_cases same : other = key
  · subst same; simp [Ledger.lamports,Ledger.setLamports]
  · simp [Ledger.lamports,Ledger.setLamports,Function.update_of_ne same]

@[simp] theorem setLamports_data : (ledger.setLamports key amount other).data = (ledger other).data := by
  by_cases same : other = key
  · subst same; simp [Ledger.setLamports]
  · simp [Ledger.setLamports,Function.update_of_ne same]

@[simp] theorem setData_lamports (data : AccountData) : (ledger.setData key data).lamports = ledger.lamports := by
  funext other
  by_cases same : other = key
  · subst same; simp [Ledger.lamports,Ledger.setData]
  · simp [Ledger.lamports,Ledger.setData,Function.update_of_ne same]

@[simp] theorem setData_self (data : AccountData) : (ledger.setData key data key).data = data := by
  simp [Ledger.setData]

theorem setData_other (data : AccountData) (apart : other ≠ key) :
    ledger.setData key data other = ledger other := Function.update_of_ne apart _ _

theorem debit_exact : ledger.debit key amount = .ok next ↔
    amount ≤ ledger.lamports key ∧ ledger.setLamports key (ledger.lamports key - amount) = next := by
  simp [Ledger.debit]

theorem credit_exact : ledger.credit key amount = .ok next ↔
    ledger.lamports key + amount < 2^64 ∧ ledger.setLamports key (ledger.lamports key + amount) = next := by
  simp [Ledger.credit]

end Lemmas

end Octora
