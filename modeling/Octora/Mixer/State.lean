import Octora.Field
import Octora.Library.IncrementalTree
import Octora.Library.RingWindow

namespace Octora
open BigEndian

abbrev Pubkey := Bytes 32

instance pubkey_lawful : LawfulBEq Pubkey := inferInstance

def TREE_LEVELS : Nat := 20
def MAX_LEAVES : Nat := 1 <<< TREE_LEVELS
def ROOT_HISTORY_SIZE : Nat := 256
def PROOF_SIZE : Nat := 256
def PUBLIC_INPUTS_SIZE : Nat := 160

def ZERO_VALUE : Bytes 32 := List.Vector.replicate 32 0

def zeroHashesTable : List (Bytes 32) := [
  ⟨[
    0x20,0x98,0xf5,0xfb,0x9e,0x23,0x9e,0xab,0x3c,0xea,0xc3,0xf2,0x7b,0x81,0xe4,0x81,
    0xdc,0x31,0x24,0xd5,0x5f,0xfe,0xd5,0x23,0xa8,0x39,0xee,0x84,0x46,0xb6,0x48,0x64],rfl⟩,
  ⟨[
    0x10,0x69,0x67,0x3d,0xcd,0xb1,0x22,0x63,0xdf,0x30,0x1a,0x6f,0xf5,0x84,0xa7,0xec,
    0x26,0x1a,0x44,0xcb,0x9d,0xc6,0x8d,0xf0,0x67,0xa4,0x77,0x44,0x60,0xb1,0xf1,0xe1],rfl⟩,
  ⟨[
    0x18,0xf4,0x33,0x31,0x53,0x7e,0xe2,0xaf,0x2e,0x3d,0x75,0x8d,0x50,0xf7,0x21,0x06,
    0x46,0x7c,0x6e,0xea,0x50,0x37,0x1d,0xd5,0x28,0xd5,0x7e,0xb2,0xb8,0x56,0xd2,0x38],rfl⟩,
  ⟨[
    0x07,0xf9,0xd8,0x37,0xcb,0x17,0xb0,0xd3,0x63,0x20,0xff,0xe9,0x3b,0xa5,0x23,0x45,
    0xf1,0xb7,0x28,0x57,0x1a,0x56,0x82,0x65,0xca,0xac,0x97,0x55,0x9d,0xbc,0x95,0x2a],rfl⟩,
  ⟨[
    0x2b,0x94,0xcf,0x5e,0x87,0x46,0xb3,0xf5,0xc9,0x63,0x1f,0x4c,0x5d,0xf3,0x29,0x07,
    0xa6,0x99,0xc5,0x8c,0x94,0xb2,0xad,0x4d,0x7b,0x5c,0xec,0x16,0x39,0x18,0x3f,0x55],rfl⟩,
  ⟨[
    0x2d,0xee,0x93,0xc5,0xa6,0x66,0x45,0x96,0x46,0xea,0x7d,0x22,0xcc,0xa9,0xe1,0xbc,
    0xfe,0xd7,0x1e,0x69,0x51,0xb9,0x53,0x61,0x1d,0x11,0xdd,0xa3,0x2e,0xa0,0x9d,0x78],rfl⟩,
  ⟨[
    0x07,0x82,0x95,0xe5,0xa2,0x2b,0x84,0xe9,0x82,0xcf,0x60,0x1e,0xb6,0x39,0x59,0x7b,
    0x8b,0x05,0x15,0xa8,0x8c,0xb5,0xac,0x7f,0xa8,0xa4,0xaa,0xbe,0x3c,0x87,0x34,0x9d],rfl⟩,
  ⟨[
    0x2f,0xa5,0xe5,0xf1,0x8f,0x60,0x27,0xa6,0x50,0x1b,0xec,0x86,0x45,0x64,0x47,0x2a,
    0x61,0x6b,0x2e,0x27,0x4a,0x41,0x21,0x1a,0x44,0x4c,0xbe,0x3a,0x99,0xf3,0xcc,0x61],rfl⟩,
  ⟨[
    0x0e,0x88,0x43,0x76,0xd0,0xd8,0xfd,0x21,0xec,0xb7,0x80,0x38,0x9e,0x94,0x1f,0x66,
    0xe4,0x5e,0x7a,0xcc,0xe3,0xe2,0x28,0xab,0x3e,0x21,0x56,0xa6,0x14,0xfc,0xd7,0x47],rfl⟩,
  ⟨[
    0x1b,0x72,0x01,0xda,0x72,0x49,0x4f,0x1e,0x28,0x71,0x7a,0xd1,0xa5,0x2e,0xb4,0x69,
    0xf9,0x58,0x92,0xf9,0x57,0x71,0x35,0x33,0xde,0x61,0x75,0xe5,0xda,0x19,0x0a,0xf2],rfl⟩,
  ⟨[
    0x1f,0x8d,0x88,0x22,0x72,0x5e,0x36,0x38,0x52,0x00,0xc0,0xb2,0x01,0x24,0x98,0x19,
    0xa6,0xe6,0xe1,0xe4,0x65,0x08,0x08,0xb5,0xbe,0xbc,0x6b,0xfa,0xce,0x7d,0x76,0x36],rfl⟩,
  ⟨[
    0x2c,0x5d,0x82,0xf6,0x6c,0x91,0x4b,0xaf,0xb9,0x70,0x15,0x89,0xba,0x8c,0xfc,0xfb,
    0x61,0x62,0xb0,0xa1,0x2a,0xcf,0x88,0xa8,0xd0,0x87,0x9a,0x04,0x71,0xb5,0xf8,0x5a],rfl⟩,
  ⟨[
    0x14,0xc5,0x41,0x48,0xa0,0x94,0x0b,0xb8,0x20,0x95,0x7f,0x5a,0xdf,0x3f,0xa1,0x13,
    0x4e,0xf5,0xc4,0xaa,0xa1,0x13,0xf4,0x64,0x64,0x58,0xf2,0x70,0xe0,0xbf,0xbf,0xd0],rfl⟩,
  ⟨[
    0x19,0x0d,0x33,0xb1,0x2f,0x98,0x6f,0x96,0x1e,0x10,0xc0,0xee,0x44,0xd8,0xb9,0xaf,
    0x11,0xbe,0x25,0x58,0x8c,0xad,0x89,0xd4,0x16,0x11,0x8e,0x4b,0xf4,0xeb,0xe8,0x0c],rfl⟩,
  ⟨[
    0x22,0xf9,0x8a,0xa9,0xce,0x70,0x41,0x52,0xac,0x17,0x35,0x49,0x14,0xad,0x73,0xed,
    0x11,0x67,0xae,0x65,0x96,0xaf,0x51,0x0a,0xa5,0xb3,0x64,0x93,0x25,0xe0,0x6c,0x92],rfl⟩,
  ⟨[
    0x2a,0x7c,0x7c,0x9b,0x6c,0xe5,0x88,0x0b,0x9f,0x6f,0x22,0x8d,0x72,0xbf,0x6a,0x57,
    0x5a,0x52,0x6f,0x29,0xc6,0x6e,0xcc,0xee,0xf8,0xb7,0x53,0xd3,0x8b,0xba,0x73,0x23],rfl⟩,
  ⟨[
    0x2e,0x81,0x86,0xe5,0x58,0x69,0x8e,0xc1,0xc6,0x7a,0xf9,0xc1,0x4d,0x46,0x3f,0xfc,
    0x47,0x00,0x43,0xc9,0xc2,0x98,0x8b,0x95,0x4d,0x75,0xdd,0x64,0x3f,0x36,0xb9,0x92],rfl⟩,
  ⟨[
    0x0f,0x57,0xc5,0x57,0x1e,0x9a,0x4e,0xab,0x49,0xe2,0xc8,0xcf,0x05,0x0d,0xae,0x94,
    0x8a,0xef,0x6e,0xad,0x64,0x73,0x92,0x27,0x35,0x46,0x24,0x9d,0x1c,0x1f,0xf1,0x0f],rfl⟩,
  ⟨[
    0x18,0x30,0xee,0x67,0xb5,0xfb,0x55,0x4a,0xd5,0xf6,0x3d,0x43,0x88,0x80,0x0e,0x1c,
    0xfe,0x78,0xe3,0x10,0x69,0x7d,0x46,0xe4,0x3c,0x9c,0xe3,0x61,0x34,0xf7,0x2c,0xca],rfl⟩,
  ⟨[
    0x21,0x34,0xe7,0x6a,0xc5,0xd2,0x1a,0xab,0x18,0x6c,0x2b,0xe1,0xdd,0x8f,0x84,0xee,
    0x88,0x0a,0x1e,0x46,0xea,0xf7,0x12,0xf9,0xd3,0x71,0xb6,0xdf,0x22,0x19,0x1f,0x3e],rfl⟩]

def ZERO_HASHES (i : Fin TREE_LEVELS) : Bytes 32 := zeroHashesTable.get i

def ADMIN_AUTHORITY : Pubkey := ⟨[
    0xef,0x1b,0x67,0x63,0x59,0xfc,0x9f,0x9f,0x09,0x4f,0x1c,0xe1,0x83,0x8b,0xb1,0xd5,
    0x8f,0x39,0x5c,0xb6,0x65,0xfe,0xc5,0x6f,0x27,0xe3,0x12,0x33,0x5c,0xfb,0x4f,0xca],rfl⟩

inductive MixerError where
  | PoolPaused
  | TreeFull
  | InvalidMerkleProof
  | RootNotFound
  | InvalidProof
  | RecipientMismatch
  | RelayerMismatch
  | FeeExceedsDenomination
  | FeeOverflow
  | InsufficientPoolBalance
  | Unauthorized
  | PoseidonHashFailed
  | PublicInputOutOfRange
  | RecipientAliasesPool
  | InvalidDenomination
  deriving DecidableEq, Repr

structure DepositEvent where
  commitment : Bytes 32
  leafIndex : Nat
  timestamp : Int
  deriving DecidableEq

structure WithdrawEvent where
  nullifierHash : Bytes 32
  recipient : Pubkey
  relayer : Pubkey
  fee : Nat
  timestamp : Int
  deriving DecidableEq

structure PausedEvent where
  denomination : UInt64
  paused : Bool
  authority : Pubkey
  timestamp : Int
  deriving DecidableEq

-- The leaf index is the value of the u32 field; a deposit advances it with a
-- checked addition. The cursor stays a `UInt8` because `push_root` casts to it.
structure MixerPool where
  authority : Pubkey
  denomination : UInt64
  nextLeafIndex : Nat
  currentRootIndex : UInt8
  rootHistory : Fin ROOT_HISTORY_SIZE → Bytes 32
  filledSubtrees : Fin TREE_LEVELS → Bytes 32
  isPaused : UInt8
  bump : UInt8

def MixerPool.SPACE : Nat := 8 + 32 + 8 + 4 + 1 + 32 * ROOT_HISTORY_SIZE + 32 * TREE_LEVELS + 1 + 1 + 9
def NullifierAccount.SPACE : Nat := 8 + 1
def CommitmentAccount.SPACE : Nat := 8 + 1

-- A u8 always indexes the 256 slots.
def rootSlot (index : UInt8) : Fin ROOT_HISTORY_SIZE := ⟨index.toNat,index.toNat_lt⟩

def MixerPool.isKnownRoot (pool : MixerPool) (root : Bytes 32) : Prop :=
  ∃ slot, pool.rootHistory slot = root

instance (pool : MixerPool) (root : Bytes 32) : Decidable (pool.isKnownRoot root) :=
  inferInstanceAs (Decidable (∃ _, _))

def MixerPool.pushRoot (pool : MixerPool) (root : Bytes 32) : MixerPool :=
  let index := UInt8.ofNat ((pool.currentRootIndex.toNat + 1) % ROOT_HISTORY_SIZE)
  { pool with
    currentRootIndex := index
    rootHistory := Function.update pool.rootHistory (rootSlot index) root }

def MixerPool.currentRoot (pool : MixerPool) : Bytes 32 := pool.rootHistory (rootSlot pool.currentRootIndex)

end Octora
