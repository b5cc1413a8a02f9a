import Octora.Library.BigEndian

namespace LittleEndian
open BigEndian

def bytes (width v : Nat) : List UInt8 := (digits width v).reverse

def value (block : List UInt8) : Nat := BigEndian.value block.reverse

@[simp] theorem bytes_length (width v : Nat) : (bytes width v).length = width := by simp [bytes]

theorem value_bytes (fits : v < 256 ^ width) : value (bytes width v) = v := by
  rw [value,bytes,List.reverse_reverse]
  exact value_digits width v fits

-- Two's complement.
def signedBytes (width : Nat) (v : Int) : List UInt8 := bytes width (v % 256 ^ width).toNat

def signedValue (block : List UInt8) : Int :=
  if 2 * value block < 256 ^ block.length then value block else value block - 256 ^ block.length

@[simp] theorem signedBytes_length (width : Nat) (v : Int) : (signedBytes width v).length = width := bytes_length _ _

theorem signedValue_signedBytes (low : -(256 ^ width : Int) ≤ 2 * v) (high : 2 * v < 256 ^ width) :
    signedValue (signedBytes width v) = v := by
  have positive : (0 : Int) < 256 ^ width := by positivity
  have least : 0 ≤ v % 256 ^ width := Int.emod_nonneg _ (by omega)
  have bound : v % 256 ^ width < 256 ^ width := Int.emod_lt_of_pos _ positive
  have cast : ((256 ^ width : Nat) : Int) = 256 ^ width := by push_cast; rfl
  have read : (value (signedBytes width v) : Int) = v % 256 ^ width := by
    have fits : (v % 256 ^ width).toNat < 256 ^ width := (Int.toNat_lt least).mpr (by rw [cast]; exact bound)
    rw [signedBytes,value_bytes fits,Int.toNat_of_nonneg least]
  have reduced : v % 256 ^ width = if 0 ≤ v then v else v + 256 ^ width := by
    split
    · exact Int.emod_eq_of_lt (by assumption) (by omega)
    · rw [← Int.add_emod_right,Int.emod_eq_of_lt (by omega) (by omega)]
  have choice : 2 * value (signedBytes width v) < 256 ^ width ↔ 0 ≤ v := by
    rw [← Int.ofNat_lt,cast,Int.natCast_mul,read,reduced]
    split
    · omega
    · omega
  unfold signedValue
  rw [signedBytes_length,read,reduced]
  by_cases natural : 0 ≤ v
  · rw [if_pos (choice.mpr natural),if_pos natural]
  · rw [if_neg (fun small => natural (choice.mp small)),if_neg natural]
    omega

-- A buffer is written in place, block by block.
def patch (buffer : List UInt8) (offset : Nat) (block : List UInt8) : List UInt8 :=
  buffer.take offset ++ (block ++ buffer.drop (offset + block.length))

def block (buffer : List UInt8) (offset width : Nat) : List UInt8 := (buffer.drop offset).take width

section Patch
variable {buffer : List UInt8}

theorem patch_length (offset : Nat) (written : List UInt8) (fits : offset + written.length ≤ buffer.length) :
    (patch buffer offset written).length = buffer.length := by
  simp only [patch,List.length_append,List.length_take,List.length_drop]
  omega

-- Blocks written one after the other.
def fill (buffer : List UInt8) (offset : Nat) : List (List UInt8) → List UInt8
  | [] => buffer
  | written :: rest => fill (patch buffer offset written) (offset + written.length) rest

theorem fill_laid (blocks : List (List UInt8)) (offset : Nat) (fits : offset + blocks.flatten.length ≤ buffer.length) :
    fill buffer offset blocks = buffer.take offset ++ (blocks.flatten ++ buffer.drop (offset + blocks.flatten.length)) := by
  induction blocks generalizing buffer offset with
  | nil => simp [fill]
  | cons written rest ih =>
    rw [List.flatten_cons,List.length_append] at fits
    have start : (buffer.take offset ++ written).length = offset + written.length := by
      rw [List.length_append,List.length_take]
      omega
    have front : patch buffer offset written = (buffer.take offset ++ written) ++ buffer.drop (offset + written.length) := by
      rw [patch,List.append_assoc]
    have kept : (patch buffer offset written).length = buffer.length := patch_length offset written (by omega)
    rw [fill,ih (offset + written.length) (by omega),front,← start,List.take_left,List.drop_append,List.flatten_cons]
    rw [List.drop_of_length_le (by omega),Nat.add_sub_cancel_left,List.drop_drop,start,List.length_append]
    simp only [List.nil_append,List.append_assoc,Nat.add_assoc]

-- Each block is read back where the ones before it end.
theorem block_fill (before : List (List UInt8)) (written : List UInt8) (after : List (List UInt8))
    (fits : (before ++ written :: after).flatten.length ≤ buffer.length) :
    block (fill buffer 0 (before ++ written :: after)) before.flatten.length written.length = written := by
  rw [fill_laid _ 0 (by omega),List.take_zero,List.nil_append,List.flatten_append,List.flatten_cons]
  rw [block,List.append_assoc,List.drop_left,List.append_assoc,List.take_left]

end Patch

end LittleEndian
