import Octora.ExecutorProgram.Instructions

namespace Octora.ExecutorProgram
open BigEndian Borsh Codec

-- An instruction as it is sent: its discriminator of eight bytes, then its
-- arguments, and the accounts of its struct in order, the remaining ones after them.
inductive Entry where
  | initConfig
  | setPaused
  | dlmmInitPosition
  | dlmmAddLiquidity
  | dlmmClaimFees
  | dlmmWithdrawClose
  | dlmmSwap
  deriving DecidableEq

namespace Entry

def order : List Entry :=
  [.initConfig,.setPaused,.dlmmInitPosition,.dlmmAddLiquidity,.dlmmClaimFees,.dlmmWithdrawClose,.dlmmSwap]

-- Anchor takes them from the names in lib.rs: the first eight bytes of the hash of
-- "global:" and the name.
def discriminator : Entry → List UInt8
  | .initConfig => [23,235,115,232,168,96,1,231]
  | .setPaused => [91,60,125,192,176,225,166,218]
  | .dlmmInitPosition => [83,27,224,110,12,71,127,19]
  | .dlmmAddLiquidity => [107,95,217,93,54,116,29,166]
  | .dlmmClaimFees => [243,185,58,187,208,145,170,154]
  | .dlmmWithdrawClose => [231,99,171,101,63,194,27,212]
  | .dlmmSwap => [16,217,101,223,4,0,193,110]

def Args : Entry → Type
  | .initConfig => Unit
  | .setPaused => Bool
  | .dlmmInitPosition => Int32 × Int32 × Pubkey
  | .dlmmAddLiquidity => Vec
  | .dlmmClaimFees => Unit
  | .dlmmWithdrawClose => Int32 × Int32 × UInt16
  | .dlmmSwap => UInt64 × UInt64

def body : (entry : Entry) → Codec entry.Args
  | .initConfig => unit
  | .setPaused => Codec.bool
  | .dlmmInitPosition => pair i32 (pair i32 (array 32))
  | .dlmmAddLiquidity => vec
  | .dlmmClaimFees => unit
  | .dlmmWithdrawClose => pair i32 (pair i32 u16)
  | .dlmmSwap => pair u64 u64

theorem discriminator_injective : Function.Injective discriminator := by
  intro one two same
  revert same
  cases one <;> cases two <;> decide

end Entry

def wire : Codec (Σ entry : Entry, entry.Args) :=
  choice Entry.order (fun entry => by cases entry <;> rfl) Entry.discriminator_injective
    (fun entry => by cases entry <;> decide) Entry.body

-- lib.rs: what the entrypoint makes of the accounts and the data. Bytes behind the
-- arguments are not looked at.
def entrypoint (accounts : List Pubkey) (data : List UInt8) : Option Instruction :=
  match wire.read data,accounts with
  | some ⟨.initConfig,_⟩,authority :: config :: systemProgram :: _ => some (.initConfig ⟨authority,config,systemProgram⟩)
  | some ⟨.setPaused,paused⟩,authority :: config :: _ => some (.setPaused ⟨authority,config⟩ paused)
  | some ⟨.dlmmInitPosition,lowerBinId,width,exitRecipient⟩,
      stealth :: poolAuthority :: lbPair :: dlmmProgram :: config :: systemProgram :: remaining =>
    some (.dlmmInitPosition ⟨stealth,poolAuthority,lbPair,dlmmProgram,config,systemProgram⟩ remaining lowerBinId width
      exitRecipient)
  | some ⟨.dlmmAddLiquidity,liquidityParams⟩,stealth :: poolAuthority :: dlmmProgram :: lbPair :: config :: remaining =>
    some (.dlmmAddLiquidity ⟨stealth,poolAuthority,lbPair,dlmmProgram,config⟩ remaining liquidityParams)
  | some ⟨.dlmmClaimFees,_⟩,stealth :: poolAuthority :: lbPair :: dlmmProgram :: config :: remaining =>
    some (.dlmmClaimFees ⟨stealth,poolAuthority,lbPair,dlmmProgram,config⟩ remaining)
  | some ⟨.dlmmWithdrawClose,fromBinId,toBinId,bpsToRemove⟩,
      stealth :: poolAuthority :: lbPair :: dlmmProgram :: config :: remaining =>
    some (.dlmmWithdrawClose ⟨stealth,poolAuthority,lbPair,dlmmProgram,config⟩ remaining fromBinId toBinId bpsToRemove)
  | some ⟨.dlmmSwap,amountIn,minAmountOut⟩,stealth :: dlmmProgram :: lbPair :: config :: remaining =>
    some (.dlmmSwap ⟨stealth,dlmmProgram,lbPair,config⟩ remaining amountIn minAmountOut)
  | _,_ => none

-- octora_executor.json, which the client encodes from: the values of the arguments in
-- their order, each under its type, behind the instruction's own eight bytes.
inductive IdlValue where
  | bool (value : Bool)
  | u16 (value : UInt16)
  | i32 (value : Int32)
  | u64 (value : UInt64)
  | pubkey (value : Pubkey)
  | bytes (value : Vec)

def IdlValue.encode : IdlValue → List UInt8
  | .bool value => Codec.bool.encode value
  | .u16 value => Codec.u16.encode value
  | .i32 value => Codec.i32.encode value
  | .u64 value => Codec.u64.encode value
  | .pubkey value => (array 32).encode value
  | .bytes value => vec.encode value

def Instruction.idlDiscriminator : Instruction → List UInt8
  | .dlmmAddLiquidity _ _ _ => [107,95,217,93,54,116,29,166]
  | .dlmmClaimFees _ _ => [243,185,58,187,208,145,170,154]
  | .dlmmInitPosition _ _ _ _ _ => [83,27,224,110,12,71,127,19]
  | .dlmmSwap _ _ _ _ => [16,217,101,223,4,0,193,110]
  | .dlmmWithdrawClose _ _ _ _ _ => [231,99,171,101,63,194,27,212]
  | .initConfig _ => [23,235,115,232,168,96,1,231]
  | .setPaused _ _ => [91,60,125,192,176,225,166,218]

def Instruction.idlArgs : Instruction → List IdlValue
  | .dlmmAddLiquidity _ _ liquidityParams => [.bytes liquidityParams]
  | .dlmmClaimFees _ _ => []
  | .dlmmInitPosition _ _ lowerBinId width exitRecipient => [.i32 lowerBinId,.i32 width,.pubkey exitRecipient]
  | .dlmmSwap _ _ amountIn minAmountOut => [.u64 amountIn,.u64 minAmountOut]
  | .dlmmWithdrawClose _ _ fromBinId toBinId bpsToRemove => [.i32 fromBinId,.i32 toBinId,.u16 bpsToRemove]
  | .initConfig _ => []
  | .setPaused _ paused => [.bool paused]

def Instruction.data (instruction : Instruction) : List UInt8 :=
  instruction.idlDiscriminator ++ instruction.idlArgs.flatMap IdlValue.encode

def Instruction.keys : Instruction → List Pubkey
  | .initConfig ⟨authority,config,systemProgram⟩ => [authority,config,systemProgram]
  | .setPaused ⟨authority,config⟩ _ => [authority,config]
  | .dlmmInitPosition ⟨stealth,poolAuthority,lbPair,dlmmProgram,config,systemProgram⟩ remaining _ _ _ =>
    [stealth,poolAuthority,lbPair,dlmmProgram,config,systemProgram] ++ remaining
  | .dlmmAddLiquidity ⟨stealth,poolAuthority,lbPair,dlmmProgram,config⟩ remaining _ =>
    [stealth,poolAuthority,dlmmProgram,lbPair,config] ++ remaining
  | .dlmmClaimFees ⟨stealth,poolAuthority,lbPair,dlmmProgram,config⟩ remaining =>
    [stealth,poolAuthority,lbPair,dlmmProgram,config] ++ remaining
  | .dlmmWithdrawClose ⟨stealth,poolAuthority,lbPair,dlmmProgram,config⟩ remaining _ _ _ =>
    [stealth,poolAuthority,lbPair,dlmmProgram,config] ++ remaining
  | .dlmmSwap ⟨stealth,dlmmProgram,lbPair,config⟩ remaining _ _ => [stealth,dlmmProgram,lbPair,config] ++ remaining

-- The struct of an instruction without `remaining_accounts` leaves the rest unread.
def Instruction.unread : Instruction → List Pubkey → Prop
  | .initConfig _,_ | .setPaused _ _,_ => True
  | _,extra => extra = []

-- What an instruction carries, as the program names it.
def Instruction.sent : Instruction → Σ entry : Entry, entry.Args
  | .initConfig _ => ⟨.initConfig,()⟩
  | .setPaused _ paused => ⟨.setPaused,paused⟩
  | .dlmmInitPosition _ _ lowerBinId width exitRecipient => ⟨.dlmmInitPosition,lowerBinId,width,exitRecipient⟩
  | .dlmmAddLiquidity _ _ liquidityParams => ⟨.dlmmAddLiquidity,liquidityParams⟩
  | .dlmmClaimFees _ _ => ⟨.dlmmClaimFees,()⟩
  | .dlmmWithdrawClose _ _ fromBinId toBinId bpsToRemove => ⟨.dlmmWithdrawClose,fromBinId,toBinId,bpsToRemove⟩
  | .dlmmSwap _ _ amountIn minAmountOut => ⟨.dlmmSwap,amountIn,minAmountOut⟩

-- The client's file and the program agree on every discriminator and layout.
theorem data_wire (instruction : Instruction) : instruction.data = wire.encode instruction.sent := by
  cases instruction <;>
    simp only [Instruction.data,Instruction.idlDiscriminator,Instruction.idlArgs,IdlValue.encode,List.flatMap_cons,
      List.flatMap_nil,List.append_nil] <;> rfl

theorem entrypoint_read (read : entrypoint accounts data = some instruction) : ∃ extra rest,
    accounts = instruction.keys ++ extra ∧ instruction.unread extra ∧ data = instruction.data ++ rest := by
  unfold entrypoint at read
  split at read
  · rename_i found
    obtain ⟨rest,laid⟩ := wire.read_some.mp found
    cases read
    exact ⟨_,rest,rfl,trivial,(data_wire _).symm ▸ laid⟩
  · rename_i found
    obtain ⟨rest,laid⟩ := wire.read_some.mp found
    cases read
    exact ⟨_,rest,rfl,trivial,(data_wire _).symm ▸ laid⟩
  · rename_i found
    obtain ⟨rest,laid⟩ := wire.read_some.mp found
    cases read
    exact ⟨[],rest,(List.append_nil _).symm,rfl,(data_wire _).symm ▸ laid⟩
  · rename_i found
    obtain ⟨rest,laid⟩ := wire.read_some.mp found
    cases read
    exact ⟨[],rest,(List.append_nil _).symm,rfl,(data_wire _).symm ▸ laid⟩
  · rename_i found
    obtain ⟨rest,laid⟩ := wire.read_some.mp found
    cases read
    exact ⟨[],rest,(List.append_nil _).symm,rfl,(data_wire _).symm ▸ laid⟩
  · rename_i found
    obtain ⟨rest,laid⟩ := wire.read_some.mp found
    cases read
    exact ⟨[],rest,(List.append_nil _).symm,rfl,(data_wire _).symm ▸ laid⟩
  · rename_i found
    obtain ⟨rest,laid⟩ := wire.read_some.mp found
    cases read
    exact ⟨[],rest,(List.append_nil _).symm,rfl,(data_wire _).symm ▸ laid⟩
  · cases read

theorem entrypoint_sent (instruction : Instruction) (unread : instruction.unread extra) (rest : List UInt8) :
    entrypoint (instruction.keys ++ extra) (instruction.data ++ rest) = some instruction := by
  unfold entrypoint
  cases instruction with
  | initConfig accounts =>
    rw [data_wire,Instruction.sent,wire.read_encode]
    rfl
  | setPaused accounts paused =>
    rw [data_wire,Instruction.sent,wire.read_encode]
    rfl
  | dlmmInitPosition accounts remaining lowerBinId width exitRecipient =>
    cases unread
    rw [data_wire,Instruction.sent,wire.read_encode,List.append_nil]
    rfl
  | dlmmAddLiquidity accounts remaining liquidityParams =>
    cases unread
    rw [data_wire,Instruction.sent,wire.read_encode,List.append_nil]
    rfl
  | dlmmClaimFees accounts remaining =>
    cases unread
    rw [data_wire,Instruction.sent,wire.read_encode,List.append_nil]
    rfl
  | dlmmWithdrawClose accounts remaining fromBinId toBinId bpsToRemove =>
    cases unread
    rw [data_wire,Instruction.sent,wire.read_encode,List.append_nil]
    rfl
  | dlmmSwap accounts remaining amountIn minAmountOut =>
    cases unread
    rw [data_wire,Instruction.sent,wire.read_encode,List.append_nil]
    rfl

-- What the client sends is what the program reads, and whatever else the program
-- reads as an instruction is that instruction's own encoding with bytes behind it.
theorem entrypoint_exact (accounts : List Pubkey) (data : List UInt8) (instruction : Instruction) :
    entrypoint accounts data = some instruction ↔ ∃ extra rest, accounts = instruction.keys ++ extra ∧
      instruction.unread extra ∧ data = instruction.data ++ rest := by
  refine ⟨entrypoint_read,?_⟩
  rintro ⟨extra,rest,rfl,unread,rfl⟩
  exact entrypoint_sent instruction unread rest

end Octora.ExecutorProgram
