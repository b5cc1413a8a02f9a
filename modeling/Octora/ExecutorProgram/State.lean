import Octora.Common.Auth
import Octora.Library.Borsh
import Octora.Mixer.State

namespace Octora.ExecutorProgram
open BigEndian Borsh Codec

def ascii (text : String) : List UInt8 := text.toList.map fun letter => UInt8.ofNat letter.toNat

-- The keys below are written out; their base58 texts stand after them.
def pubkey (text : String) : Pubkey :=
  Bytes.ofNat 32 (Numerals.value 58 (text.toList.map fun letter => Auth.ALPHABET.idxOf letter))

-- lib.rs
def ID : Pubkey := Bytes.ofNat 32 0x381db716986139ee0bd011a308f5d5c8bd1688bc6b5d753b60d9349a2d3eee14

-- constants.rs
def DLMM_PROGRAM_ID : Pubkey := Bytes.ofNat 32 0x4e9e12fbc84e826c932cce9e2640cce15590c1c6273b0925708ba3b8520b0bc
def POOL_AUTHORITY_SEED : List UInt8 := ascii "pool-authority"
def CONFIG_SEED : List UInt8 := ascii "config"

def EXECUTOR_ADMIN_AUTHORITY : Pubkey := ⟨[
    0x4f,0x43,0x54,0x4f,0x52,0x41,0x5f,0x45,
    0x58,0x45,0x43,0x55,0x54,0x4f,0x52,0x5f,
    0x41,0x44,0x4d,0x49,0x4e,0x5f,0x50,0x4c,
    0x41,0x43,0x45,0x48,0x4f,0x4c,0x44,0x21],rfl⟩

-- cpi/mod.rs
def SPL_TOKEN_PROGRAM_ID : Pubkey := Bytes.ofNat 32 0x6ddf6e1d765a193d9cbe146ceeb79ac1cb485ed5f5b37913a8cf5857eff00a9
def SPL_TOKEN_2022_PROGRAM_ID : Pubkey := Bytes.ofNat 32 0x6ddf6e1ee758fde18425dbce46ccddab61afc4d83b90d27febdf928d8a18bfc
def SYSTEM_PROGRAM_ID : Pubkey := Bytes.ofNat 32 0
def RENT_ID : Pubkey := Bytes.ofNat 32 0x6a7d517192c5c51218cc94c3d4af17f58daee089ba1fd44e3dbd98a00000000

example : ID = pubkey "4n47TYP2hQ2bwS8GiU3a1EVyF9mgeSbKWBvAVmUjaUtK" := by decide +kernel
example : DLMM_PROGRAM_ID = pubkey "LBUZKhRxPF3XUpBCjp4YzTKgLccjZhTSDM9YuVaPwxo" := by decide +kernel
example : SPL_TOKEN_PROGRAM_ID = pubkey "TokenkegQfeZyiNwAJbNbGKPFXCWuBvf9Ss623VQ5DA" := by decide +kernel
example : SPL_TOKEN_2022_PROGRAM_ID = pubkey "TokenzQdBNbLqP5VEhdkAS6EPFLC1PHnBqCXEpPxuEb" := by decide +kernel
example : SYSTEM_PROGRAM_ID = pubkey "11111111111111111111111111111111" := by decide +kernel
example : RENT_ID = pubkey "SysvarRent111111111111111111111111111111111" := by decide +kernel

inductive ExecutorError where
  | DlmmProgramMismatch
  | PositionMismatch
  | LbPairMismatch
  | StealthMismatch
  | ExitRecipientMismatch
  | InvalidTokenAccount
  | InvalidTokenProgram
  | InvalidSysAccount
  | DlmmEventAuthorityMismatch
  | ArgOutOfRange
  | AccountsTooShort
  | MissingPositionSigner
  | InvalidPoolRefType
  | LockEscrowMismatch
  | TokenMintMismatch
  | Paused
  | Unauthorized
  | SwapSlippageExceeded
  | SwapSourceEqualsTarget
  deriving DecidableEq, Repr

-- state/pool_authority.rs
inductive PoolRef where
  | Dlmm (lbPair position : Pubkey)
  | Damm (pool lpMint lockEscrow : Pubkey)
  deriving DecidableEq

structure PoolAuthority where
  stealthPubkey : Pubkey
  exitRecipient : Pubkey
  poolRef : PoolRef
  bump : UInt8
  deriving DecidableEq

def PoolRef.maxSerializedSize : Nat := 1 + 32 + 32 + 32
def PoolAuthority.SPACE : Nat := 8 + 32 + 32 + 97 + 1

-- state/config.rs
structure Config where
  authority : Pubkey
  paused : Bool
  bump : UInt8
  deriving DecidableEq

def Config.SPACE : Nat := 8 + 32 + 1 + 1

def PoolRef.fields : (Pubkey × Pubkey) ⊕ (Pubkey × Pubkey × Pubkey) ≃ PoolRef where
  toFun
    | .inl (lbPair,position) => .Dlmm lbPair position
    | .inr (pool,lpMint,lockEscrow) => .Damm pool lpMint lockEscrow
  invFun
    | .Dlmm lbPair position => .inl (lbPair,position)
    | .Damm pool lpMint lockEscrow => .inr (pool,lpMint,lockEscrow)
  left_inv fields := by rcases fields with ⟨_,_⟩ | ⟨_,_,_⟩ <;> rfl
  right_inv poolRef := by cases poolRef <;> rfl

def PoolAuthority.fields : Pubkey × Pubkey × PoolRef × UInt8 ≃ PoolAuthority where
  toFun fields := ⟨fields.1,fields.2.1,fields.2.2.1,fields.2.2.2⟩
  invFun pa := (pa.stealthPubkey,pa.exitRecipient,pa.poolRef,pa.bump)
  left_inv _ := rfl
  right_inv _ := rfl

def Config.fields : Pubkey × Bool × UInt8 ≃ Config where
  toFun fields := ⟨fields.1,fields.2.1,fields.2.2⟩
  invFun config := (config.authority,config.paused,config.bump)
  left_inv _ := rfl
  right_inv _ := rfl

def PoolRef.body : Codec PoolRef :=
  record (either (pair (array 32) (array 32)) (pair (array 32) (pair (array 32) (array 32)))) PoolRef.fields

def PoolAuthority.body : Codec PoolAuthority :=
  record (pair (array 32) (pair (array 32) (pair PoolRef.body u8))) PoolAuthority.fields

def Config.body : Codec Config := record (pair (array 32) (pair bool u8)) Config.fields

-- What an account type starts with: the discriminators of the IDL.
def PoolAuthority.DISCRIMINATOR : List UInt8 := [3,210,229,243,75,92,62,254]
def Config.DISCRIMINATOR : List UInt8 := [155,12,170,224,30,250,204,130]

def PoolAuthority.layout : Codec PoolAuthority := tagged DISCRIMINATOR body
def Config.layout : Codec Config := tagged DISCRIMINATOR body

theorem poolRef_fits (poolRef : PoolRef) : (PoolRef.body.encode poolRef).length ≤ PoolRef.maxSerializedSize := by
  cases poolRef <;> simp [PoolRef.body,record,either,pair,array,PoolRef.fields,PoolRef.maxSerializedSize]

theorem poolAuthority_fits (pa : PoolAuthority) : (PoolAuthority.layout.encode pa).length ≤ PoolAuthority.SPACE := by
  have body : (PoolAuthority.body.encode pa).length = 65 + (PoolRef.body.encode pa.poolRef).length := by
    simp [PoolAuthority.body,record,pair,array,u8,PoolAuthority.fields]
    omega
  have poolRef := poolRef_fits pa.poolRef
  change (PoolAuthority.DISCRIMINATOR ++ PoolAuthority.body.encode pa).length ≤ _
  rw [List.length_append,body]
  change 8 + _ ≤ 170
  change _ ≤ 97 at poolRef
  omega

-- A zeroed buffer is no account of this program.
theorem zeroed_unread {tag : List UInt8} {body : Codec α} (marked : ∃ byte ∈ tag, byte ≠ 0)
    (zeroed : ∀ byte ∈ bytes, byte = 0) : (tagged tag body).read bytes = none := by
  by_contra other
  obtain ⟨item,found⟩ := Option.ne_none_iff_exists'.mp other
  obtain ⟨rest,laid⟩ := (read_some _).mp found
  obtain ⟨byte,inside,nonzero⟩ := marked
  refine nonzero (zeroed byte ?_)
  rw [laid]
  exact List.mem_append_left _ (List.mem_append_left _ inside)

theorem poolAuthority_unzeroed (zeroed : ∀ byte ∈ bytes, byte = 0) : PoolAuthority.layout.read bytes = none :=
  zeroed_unread ⟨3,by simp [PoolAuthority.DISCRIMINATOR],by decide⟩ zeroed

theorem config_unzeroed (zeroed : ∀ byte ∈ bytes, byte = 0) : Config.layout.read bytes = none :=
  zeroed_unread ⟨155,by simp [Config.DISCRIMINATOR],by decide⟩ zeroed

theorem poolAuthority_notConfig (found : PoolAuthority.layout.read bytes = some pa) : Config.layout.read bytes = none :=
  tagged_apart (show PoolAuthority.DISCRIMINATOR.length = Config.DISCRIMINATOR.length from rfl) (by decide) found

theorem config_notPoolAuthority (found : Config.layout.read bytes = some config) :
    PoolAuthority.layout.read bytes = none :=
  tagged_apart (show Config.DISCRIMINATOR.length = PoolAuthority.DISCRIMINATOR.length from rfl) (by decide) found

theorem ID_apart : ID ≠ SYSTEM_PROGRAM_ID := by decide

end Octora.ExecutorProgram
