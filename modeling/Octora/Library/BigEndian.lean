import Mathlib.Data.Vector.Basic
import Mathlib.Data.Fintype.Vector
import Mathlib.Data.FinEnum
import Mathlib.Tactic.Positivity
import Mathlib.Tactic.Ring

namespace BigEndian

-- A byte array of fixed length; the length is part of the type, as in `[u8; N]`.
abbrev Bytes (n : Nat) := List.Vector UInt8 n

def value : List UInt8 → Nat
  | [] => 0
  | b :: rest => b.toNat * 256 ^ rest.length + value rest

def digits : Nat → Nat → List UInt8
  | 0,_ => []
  | width+1,v => UInt8.ofNat (v / 256 ^ width) :: digits width (v % 256 ^ width)

@[simp] theorem value_nil : value [] = 0 := rfl

@[simp] theorem value_cons (b : UInt8) (rest : List UInt8) :
    value (b :: rest) = b.toNat * 256 ^ rest.length + value rest := rfl

@[simp] theorem digits_length (width v : Nat) : (digits width v).length = width := by
  induction width generalizing v with
  | zero => rfl
  | succ width ih => simp [digits,ih]

theorem value_bound (bytes : List UInt8) : value bytes < 256 ^ bytes.length := by
  induction bytes with
  | nil => simp
  | cons b rest ih =>
    have byte : b.toNat ≤ 255 := Nat.le_of_lt_succ b.toNat_lt
    have scaled : b.toNat * 256 ^ rest.length ≤ 255 * 256 ^ rest.length := Nat.mul_le_mul_right _ byte
    have split : 256 ^ (rest.length+1) = 255 * 256 ^ rest.length + 256 ^ rest.length := by ring
    rw [value_cons,List.length_cons,split]
    omega

theorem value_digits (width v : Nat) (fits : v < 256 ^ width) : value (digits width v) = v := by
  induction width generalizing v with
  | zero => simp at fits; simp [digits,fits]
  | succ width ih =>
    have high : v / 256 ^ width < 256 := by
      rw [Nat.div_lt_iff_lt_mul (by positivity)]
      rwa [pow_succ,Nat.mul_comm] at fits
    have low := ih (v % 256 ^ width) (Nat.mod_lt _ (by positivity))
    rw [digits,value_cons,digits_length,low,UInt8.toNat_ofNat_of_lt' high]
    exact Nat.div_add_mod' _ _

theorem digits_value (bytes : List UInt8) : digits bytes.length (value bytes) = bytes := by
  induction bytes with
  | nil => rfl
  | cons b rest ih =>
    have low := value_bound rest
    have high : (b.toNat * 256 ^ rest.length + value rest) / 256 ^ rest.length = b.toNat := by
      rw [Nat.add_comm,Nat.add_mul_div_right _ _ (by positivity),Nat.div_eq_of_lt low,Nat.zero_add]
    have tail : (b.toNat * 256 ^ rest.length + value rest) % 256 ^ rest.length = value rest := by
      rw [Nat.add_comm,Nat.add_mul_mod_self_right,Nat.mod_eq_of_lt low]
    rw [value_cons,List.length_cons,digits,high,tail,ih]
    simp

theorem value_injective (same : left.length = right.length) (equal : value left = value right) :
    left = right := by
  rw [← digits_value left,← digits_value right,same,equal]

theorem value_append (left right : List UInt8) :
    value (left ++ right) = value left * 256 ^ right.length + value right := by
  induction left with
  | nil => simp
  | cons b rest ih =>
    rw [List.cons_append,value_cons,value_cons,ih,List.length_append]
    ring

theorem value_replicate_zero (count : Nat) : value (List.replicate count 0) = 0 := by
  induction count with
  | zero => rfl
  | succ count ih => simp [List.replicate_succ,ih]

-- Leading zero bytes are exactly what a small value cannot avoid.
theorem value_lt_iff_leading (left right : List UInt8) :
    value (left ++ right) < 256 ^ right.length ↔ ∀ b ∈ left, b = 0 := by
  constructor
  · intro small
    have zero : value left = 0 := by
      by_contra positive
      have : 256 ^ right.length ≤ value left * 256 ^ right.length :=
        Nat.le_mul_of_pos_left _ (Nat.pos_of_ne_zero positive)
      rw [value_append] at small
      omega
    have same : value left = value (List.replicate left.length 0) := by
      rw [zero,value_replicate_zero]
    have all := value_injective (by simp) same
    intro b member
    rw [all] at member
    exact (List.mem_replicate.mp member).2
  · intro zeros
    have all : left = List.replicate left.length 0 := List.eq_replicate_iff.mpr ⟨rfl,zeros⟩
    rw [value_append,all,value_replicate_zero]
    simpa using value_bound right

def Bytes.value (bytes : Bytes n) : Nat := BigEndian.value bytes.toList

def Bytes.ofNat (n v : Nat) : Bytes n := ⟨digits n v,digits_length n v⟩

def Bytes.slice (bytes : Bytes n) (start width : Nat) (bound : start + width ≤ n) : Bytes width :=
  ⟨(bytes.toList.drop start).take width,by simp; omega⟩

theorem Bytes.value_lt (bytes : Bytes n) : bytes.value < 256 ^ n := by
  simpa [Bytes.value] using value_bound bytes.toList

theorem Bytes.value_ofNat (fits : v < 256 ^ n) : (Bytes.ofNat n v).value = v := value_digits n v fits

@[simp] theorem Bytes.ofNat_value (bytes : Bytes n) : Bytes.ofNat n bytes.value = bytes := by
  apply List.Vector.eq
  have back := digits_value bytes.toList
  rwa [List.Vector.toList_length] at back

theorem Bytes.value_inj {left right : Bytes n} : left.value = right.value ↔ left = right := by
  constructor
  · intro equal; rw [← Bytes.ofNat_value left,← Bytes.ofNat_value right,equal]
  · rintro rfl; rfl

@[simp] theorem Bytes.toList_slice (bytes : Bytes n) (start width : Nat) (bound : start + width ≤ n) :
    (bytes.slice start width bound).toList = (bytes.toList.drop start).take width := rfl

-- Equal blocks laid end to end are read back by their offset.
theorem flatten_block (blocks : List (List UInt8)) (widths : ∀ block ∈ blocks, block.length = width)
    (bound : i < blocks.length) : (blocks.flatten.drop (width * i)).take width = blocks[i] := by
  induction blocks generalizing i with
  | nil => exact absurd bound (Nat.not_lt_zero i)
  | cons block rest ih =>
    have here := widths block List.mem_cons_self
    cases i with
    | zero => simp [here]
    | succ i =>
      have shifted : width * (i+1) = block.length + width * i := by rw [here]; ring
      have later := ih (fun other member => widths other (List.mem_cons_of_mem _ member))
        (Nat.lt_of_succ_lt_succ bound)
      rw [List.flatten_cons,shifted,← List.drop_drop,List.drop_left,List.getElem_cons_succ]
      exact later

end BigEndian
