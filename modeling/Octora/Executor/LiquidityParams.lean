import Octora.Executor.SingleSided
import Octora.Library.Fallible
import Octora.Library.LittleEndian

namespace Octora.Executor.LiquidityParams
open LittleEndian

abbrev Buffer := List UInt8

-- What a write to a buffer throws.
inductive RangeError where
  | ERR_OUT_OF_RANGE (value : Int)
  | ERR_BUFFER_OUT_OF_BOUNDS
  deriving DecidableEq

def writeBlock (buf : Buffer) (low high value : Int) (encoded : List UInt8) (offset : Nat) : Except RangeError Buffer :=
  if value < low ∨ high < value then .error (.ERR_OUT_OF_RANGE value)
  else if buf.length < offset + encoded.length then .error .ERR_BUFFER_OUT_OF_BOUNDS
  else .ok (patch buf offset encoded)

def writeBigUInt64LE (buf : Buffer) (value : Int) (offset : Nat) : Except RangeError Buffer :=
  writeBlock buf 0 (2 ^ 64 - 1) value (bytes 8 value.toNat) offset

def writeInt32LE (buf : Buffer) (value : Int) (offset : Nat) : Except RangeError Buffer :=
  writeBlock buf (-(2 ^ 31)) (2 ^ 31 - 1) value (signedBytes 4 value) offset

def writeUInt8 (buf : Buffer) (value : Int) (offset : Nat) : Except RangeError Buffer :=
  writeBlock buf 0 255 value (bytes 1 value.toNat) offset

structure LiquidityParameterByStrategy where
  amountX : Int
  amountY : Int
  activeId : Int
  maxActiveBinSlippage : Int
  minBinId : Int
  maxBinId : Int
  strategyType : Int
  deriving DecidableEq

def alloc (size : Nat) : Buffer := List.replicate size 0

-- single-sided.ts
def encodeLiquidityParamsByStrategy (p : LiquidityParameterByStrategy) : Except RangeError Buffer := do
  let buf := alloc 97
  let o := 0
  let buf ← writeBigUInt64LE buf p.amountX o
  let o := o + 8
  let buf ← writeBigUInt64LE buf p.amountY o
  let o := o + 8
  let buf ← writeInt32LE buf p.activeId o
  let o := o + 4
  let buf ← writeInt32LE buf p.maxActiveBinSlippage o
  let o := o + 4
  let buf ← writeInt32LE buf p.minBinId o
  let o := o + 4
  let buf ← writeInt32LE buf p.maxBinId o
  let o := o + 4
  writeUInt8 buf p.strategyType o

-- The layout that the DLMM program reads.
def decode (buf : Buffer) : LiquidityParameterByStrategy where
  amountX := value (block buf 0 8)
  amountY := value (block buf 8 8)
  activeId := signedValue (block buf 16 4)
  maxActiveBinSlippage := signedValue (block buf 20 4)
  minBinId := signedValue (block buf 24 4)
  maxBinId := signedValue (block buf 28 4)
  strategyType := value (block buf 32 1)

def U64 (value : Int) : Prop := 0 ≤ value ∧ value < 2 ^ 64
def I32 (value : Int) : Prop := -(2 ^ 31) ≤ value ∧ value < 2 ^ 31
def U8 (value : Int) : Prop := 0 ≤ value ∧ value < 2 ^ 8

structure Fits (p : LiquidityParameterByStrategy) : Prop where
  amountX : U64 p.amountX
  amountY : U64 p.amountY
  activeId : I32 p.activeId
  maxActiveBinSlippage : I32 p.maxActiveBinSlippage
  minBinId : I32 p.minBinId
  maxBinId : I32 p.maxBinId
  strategyType : U8 p.strategyType

section Writes
variable {buf after : Buffer} {offset : Nat} {v : Int}

theorem writeBlock_ok : writeBlock buf low high v encoded offset = .ok after ↔
    low ≤ v ∧ v ≤ high ∧ offset + encoded.length ≤ buf.length ∧ after = patch buf offset encoded := by
  unfold writeBlock
  by_cases outside : v < low ∨ high < v
  · rw [if_pos outside]
    exact iff_of_false (fun same => by cases same) fun held => by omega
  · rw [if_neg outside]
    by_cases short : buf.length < offset + encoded.length
    · rw [if_pos short]
      exact iff_of_false (fun same => by cases same) fun held => by omega
    · rw [if_neg short]
      constructor
      · intro same
        cases same
        exact ⟨by omega,by omega,by omega,rfl⟩
      · intro held
        rw [held.2.2.2]

theorem u64_ok : writeBigUInt64LE buf v offset = .ok after ↔
    U64 v ∧ offset + 8 ≤ buf.length ∧ after = patch buf offset (bytes 8 v.toNat) := by
  rw [writeBigUInt64LE,writeBlock_ok,bytes_length,Int.le_sub_one_iff,← and_assoc]
  rfl

theorem i32_ok : writeInt32LE buf v offset = .ok after ↔
    I32 v ∧ offset + 4 ≤ buf.length ∧ after = patch buf offset (signedBytes 4 v) := by
  rw [writeInt32LE,writeBlock_ok,signedBytes_length,Int.le_sub_one_iff,← and_assoc]
  rfl

theorem u8_ok : writeUInt8 buf v offset = .ok after ↔
    U8 v ∧ offset + 1 ≤ buf.length ∧ after = patch buf offset (bytes 1 v.toNat) := by
  rw [writeUInt8,writeBlock_ok,bytes_length,show (255 : Int) = 2 ^ 8 - 1 by rfl,Int.le_sub_one_iff,← and_assoc]
  rfl

theorem unsigned_read (natural : 0 ≤ v) (bounded : v < 256 ^ width) : (value (bytes width v.toNat) : Int) = v := by
  have cast : ((256 ^ width : Nat) : Int) = 256 ^ width := by push_cast; rfl
  have fits : v.toNat < 256 ^ width := (Int.toNat_lt natural).mpr (by rw [cast]; exact bounded)
  rw [value_bytes fits,Int.toNat_of_nonneg natural]

theorem signed_read (bounded : I32 v) : signedValue (signedBytes 4 v) = v :=
  signedValue_signedBytes (by unfold I32 at bounded; omega) (by unfold I32 at bounded; omega)

end Writes

def blocks (p : LiquidityParameterByStrategy) : List (List UInt8) :=
  [bytes 8 p.amountX.toNat,bytes 8 p.amountY.toNat,signedBytes 4 p.activeId,signedBytes 4 p.maxActiveBinSlippage,
    signedBytes 4 p.minBinId,signedBytes 4 p.maxBinId,bytes 1 p.strategyType.toNat]

@[simp] theorem alloc_length (size : Nat) : (alloc size).length = size := List.length_replicate

theorem blocks_length (p : LiquidityParameterByStrategy) : (blocks p).flatten.length = 33 := by simp [blocks]

theorem encoded_exact {p : LiquidityParameterByStrategy} {buf : Buffer} :
    encodeLiquidityParamsByStrategy p = .ok buf ↔ Fits p ∧ buf = fill (alloc 97) 0 (blocks p) := by
  simp only [encodeLiquidityParamsByStrategy,Fallible.do_ok,u64_ok,i32_ok,u8_ok,Nat.reduceAdd]
  constructor
  · rintro ⟨_,⟨amountX,_,rfl⟩,_,⟨amountY,_,rfl⟩,_,⟨activeId,_,rfl⟩,_,⟨slippage,_,rfl⟩,_,⟨minBinId,_,rfl⟩,_,⟨maxBinId,_,rfl⟩,
      strategyType,_,rfl⟩
    refine ⟨⟨amountX,amountY,activeId,slippage,minBinId,maxBinId,strategyType⟩,?_⟩
    simp only [fill,blocks,bytes_length,signedBytes_length,Nat.reduceAdd]
  · rintro ⟨fits,rfl⟩
    have sized : ∀ {buffer : Buffer},buffer.length = 97 → ∀ (offset : Nat) (written : List UInt8),
        offset + written.length ≤ 97 → (patch buffer offset written).length = 97 := by
      intro buffer whole offset written inside
      rw [patch_length offset written (by omega),whole]
    have one := sized (alloc_length 97) 0 (bytes 8 p.amountX.toNat) (by simp)
    have two := sized one 8 (bytes 8 p.amountY.toNat) (by simp)
    have three := sized two 16 (signedBytes 4 p.activeId) (by simp)
    have four := sized three 20 (signedBytes 4 p.maxActiveBinSlippage) (by simp)
    have five := sized four 24 (signedBytes 4 p.minBinId) (by simp)
    have six := sized five 28 (signedBytes 4 p.maxBinId) (by simp)
    refine ⟨_,⟨fits.amountX,by simp,rfl⟩,_,⟨fits.amountY,by omega,rfl⟩,_,⟨fits.activeId,by omega,rfl⟩,_,
      ⟨fits.maxActiveBinSlippage,by omega,rfl⟩,_,⟨fits.minBinId,by omega,rfl⟩,_,⟨fits.maxBinId,by omega,rfl⟩,
      fits.strategyType,by omega,?_⟩
    simp only [fill,blocks,bytes_length,signedBytes_length,Nat.reduceAdd]

theorem decode_encoded {p : LiquidityParameterByStrategy} (fits : Fits p) : decode (fill (alloc 97) 0 (blocks p)) = p := by
  have laid : ∀ before written after,blocks p = before ++ written :: after →
      block (fill (alloc 97) 0 (blocks p)) before.flatten.length written.length = written := by
    intro before written after same
    have whole := blocks_length p
    rw [same] at whole ⊢
    exact block_fill before written after (by rw [whole,alloc_length]; omega)
  have amountX := laid [] _ _ rfl
  have amountY := laid [_] _ _ rfl
  have activeId := laid [_,_] _ _ rfl
  have slippage := laid [_,_,_] _ _ rfl
  have minBinId := laid [_,_,_,_] _ _ rfl
  have maxBinId := laid [_,_,_,_,_] _ _ rfl
  have strategyType := laid [_,_,_,_,_,_] _ _ rfl
  simp only [List.flatten_cons,List.flatten_nil,List.length_append,List.length_nil,bytes_length,signedBytes_length,Nat.reduceAdd]
    at amountX amountY activeId slippage minBinId maxBinId strategyType
  rw [decode,amountX,amountY,activeId,slippage,minBinId,maxBinId,strategyType]
  rw [unsigned_read fits.amountX.1 (by exact fits.amountX.2),unsigned_read fits.amountY.1 (by exact fits.amountY.2),
    unsigned_read fits.strategyType.1 (by exact fits.strategyType.2),signed_read fits.activeId,
    signed_read fits.maxActiveBinSlippage,signed_read fits.minBinId,signed_read fits.maxBinId]

theorem plan_fields {input : SingleSidedSolInput} {plan : SingleSidedSolPlan} (planned : planSingleSidedSol input = .ok plan) :
    plan = {
      amountX := if input.solIsTokenX then input.totalLamports else 0
      amountY := if input.solIsTokenX then 0 else input.totalLamports
      strategyType := STRATEGY_BY_SHAPE input.shape
      minBinId := input.lowerBinId
      maxBinId := input.upperBinId } := by
  obtain ⟨lamports,active,lower,upper,shape,isX⟩ := input
  obtain ⟨positive,ordered,below,above⟩ := (planned_checks _).mp ⟨plan,planned⟩
  simp only [planSingleSidedSol,throw,throwThe,MonadExceptOf.throw,pure,Except.pure,bind,Except.bind,
    if_neg (not_le.mpr positive),if_neg (not_lt.mpr ordered)] at planned
  cases isX with
  | true =>
    have reaches : ¬upper < active := not_lt.mpr (below rfl)
    simpa [reaches] using planned.symm
  | false =>
    have reaches : ¬active < lower := not_lt.mpr (above rfl)
    simpa [reaches] using planned.symm

end Octora.Executor.LiquidityParams
