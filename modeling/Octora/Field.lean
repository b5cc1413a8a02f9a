import Octora.Library.BigEndian
import Octora.Library.Pratt

namespace Octora
open BigEndian

-- The BN254 scalar order r, as `constants.rs` spells it byte by byte.
def bn254FieldOrder : Bytes 32 := ⟨[
    0x30,0x64,0x4e,0x72,0xe1,0x31,0xa0,0x29,
    0xb8,0x50,0x45,0xb6,0x81,0x81,0x58,0x5d,
    0x28,0x33,0xe8,0x48,0x79,0xb9,0x70,0x91,
    0x43,0xe1,0xf5,0x93,0xf0,0x00,0x00,0x01],rfl⟩

def fieldOrder : Nat := 21888242871839275222246405745257275088548364400416034343698204186575808495617

theorem bn254FieldOrder_value : bn254FieldOrder.value = fieldOrder := by decide

theorem factor_51_prime : Nat.Prime 1670836401704629 := by
  have first : Nat.Prime 12048837557 := by
    apply Pratt.prime_of_certified
      (show Pratt.Certified 12048837557 64 2 [2,2,7,7,661,93001] by decide)
    norm_num
  have second : Nat.Prime 5156902474397 := by
    apply Pratt.prime_of_certified
      (show Pratt.Certified 5156902474397 64 2 [2,2,107,12048837557] by decide)
    simpa [first] using ⟨Nat.prime_two,by norm_num⟩
  apply Pratt.prime_of_certified
    (show Pratt.Certified 1670836401704629 64 2 [2,2,3,3,3,3,5156902474397] by decide)
  simpa [second] using ⟨Nat.prime_two,Nat.prime_three⟩

set_option maxRecDepth 10000 in
theorem factor_94_prime : Nat.Prime 13818364434197438864469338081 := by
  have first : Nat.Prime 639533339 := by
    apply Pratt.prime_of_certified
      (show Pratt.Certified 639533339 64 2 [2,229,853,1637] by decide)
    norm_num
  have second : Nat.Prime 65865678001877903 := by
    apply Pratt.prime_of_certified
      (show Pratt.Certified 65865678001877903 64 5 [2,83,379,1637,639533339] by decide)
    simp only [List.forall_mem_cons,first]
    norm_num
  apply Pratt.prime_of_certified
    (show Pratt.Certified 13818364434197438864469338081 128 3
      [2,2,2,2,2,5,823,1593227,65865678001877903] by decide)
  simp only [List.forall_mem_cons,second]
  norm_num

set_option maxRecDepth 10000 in
theorem fieldOrder_prime : fieldOrder.Prime := by
  apply Pratt.prime_of_certified
    (show Pratt.Certified fieldOrder 256 5 (List.replicate 28 2 ++
      [3,3,13,29,983,11003,237073,405928799,1670836401704629,13818364434197438864469338081]) by decide)
  simp only [List.forall_mem_append,List.mem_replicate,List.forall_mem_cons,factor_51_prime,factor_94_prime]
  norm_num

instance : Fact fieldOrder.Prime := ⟨fieldOrder_prime⟩

abbrev Fr := ZMod fieldOrder

-- A 32-byte array read as a field element, mod r as the verifier reads it.
def bytesField (bytes : Bytes 32) : Fr := (bytes.value : Fr)

def fieldBytes (x : Fr) : Bytes 32 := Bytes.ofNat 32 x.val

def Canonical (bytes : Bytes 32) : Prop := bytes.value < fieldOrder

instance (bytes : Bytes 32) : Decidable (Canonical bytes) := inferInstanceAs (Decidable (_ < _))

theorem fieldOrder_fits : fieldOrder < 256 ^ 32 := by decide

@[simp] theorem fieldBytes_value (x : Fr) : (fieldBytes x).value = x.val :=
  Bytes.value_ofNat (Nat.lt_trans x.val_lt fieldOrder_fits)

theorem fieldBytes_canonical (x : Fr) : Canonical (fieldBytes x) := by
  simpa [Canonical] using x.val_lt

@[simp] theorem bytesField_fieldBytes (x : Fr) : bytesField (fieldBytes x) = x := by
  simp [bytesField]

theorem bytesField_val (canonical : Canonical bytes) : (bytesField bytes).val = bytes.value :=
  ZMod.val_natCast_of_lt canonical

theorem fieldBytes_bytesField (canonical : Canonical bytes) : fieldBytes (bytesField bytes) = bytes := by
  rw [← Bytes.value_inj,fieldBytes_value,bytesField_val canonical]

-- On canonical encodings equal field elements are equal bytes.
theorem bytesField_injective (one : Canonical left) (two : Canonical right)
    (equal : bytesField left = bytesField right) : left = right := by
  rw [← fieldBytes_bytesField one,← fieldBytes_bytesField two,equal]

theorem fieldBytes_injective (equal : fieldBytes x = fieldBytes y) : x = y := by
  rw [← bytesField_fieldBytes x,← bytesField_fieldBytes y,equal]

-- `solana_poseidon::hashv(Bn254X5, BigEndian, ..)`: refuses an input that is
-- not a canonical field element, else hashes the decoded inputs.
def hashv (poseidon : List Fr → Fr) (inputs : List (Bytes 32)) : Option (Bytes 32) :=
  if ∀ bytes ∈ inputs, Canonical bytes then some (fieldBytes (poseidon (inputs.map bytesField))) else none

theorem hashv_exact : hashv poseidon inputs = some result ↔
    (∀ bytes ∈ inputs, Canonical bytes) ∧ result = fieldBytes (poseidon (inputs.map bytesField)) := by
  unfold hashv
  split
  · rename_i all
    simp only [Option.some.injEq,eq_comm (a := result)]
    exact ⟨fun equal => ⟨all,equal⟩,fun both => both.2⟩
  · rename_i refused
    simp [refused]

end Octora
