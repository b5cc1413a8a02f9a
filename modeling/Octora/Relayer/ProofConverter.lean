import Octora.Mixer.Nullifiers
import Octora.Library.BigIntText

namespace Octora.Relayer
open BigEndian BigIntText Fallible

abbrev Text := List Char

-- proof-converter.ts
def bigintToBeBytes (value : Int) : Option (List UInt8) :=
  if value < 0 ∨ 2^256 ≤ value then none else fromHex (padStart 64 '0' (toText 16 value.toNat))

def convertPublicInputsToBytes (publicSignals : List Text) : Option (List UInt8) :=
  if publicSignals.length ≠ 5 then none else do
  let packed ← publicSignals.mapM fun signal => (bigInt signal).bind bigintToBeBytes
  some packed.flatten

def poseidonHash (poseidon : List Fr → Fr) (inputs : List Int) : Nat := (poseidon (inputs.map fun n : Int => (n : Fr))).val

def hexText (bytes : List UInt8) : Text := bytes.flatMap hexByte

-- Both halves of a key as `BigInt("0x" + Buffer.from(half).toString("hex"))`.
def apiHalves (pubkey : Pubkey) : Option (List Int) := do
  let hi ← bigInt (['0','x'] ++ hexText (pubkey.toList.take 16))
  let lo ← bigInt (['0','x'] ++ hexText ((pubkey.toList.drop 16).take 16))
  some [hi,lo]

-- The browser builds the same texts one byte at a time.
def webHalves (pubkey : Pubkey) : Option (List Int) := do
  let hiHex := (pubkey.toList.take 16).foldl (fun hex byte => hex ++ padStart 2 '0' (toText 16 byte.toNat)) ['0','x']
  let loHex := ((pubkey.toList.drop 16).take 16).foldl
    (fun hex byte => hex ++ padStart 2 '0' (toText 16 byte.toNat)) ['0','x']
  let hi ← bigInt hiHex
  let lo ← bigInt loHex
  some [hi,lo]

def apiPubkeyToFieldHash (poseidon : List Fr → Fr) (pubkey : Pubkey) : Option Nat :=
  (apiHalves pubkey).map (poseidonHash poseidon)

def webPubkeyToFieldHash (poseidon : List Fr → Fr) (pubkey : Pubkey) : Option Nat :=
  (webHalves pubkey).map (poseidonHash poseidon)

-- types.ts: a snarkjs proof is decimal texts all the way down.
structure Groth16Proof where
  piA : List Text
  piB : List (List Text)
  piC : List Text
  deriving DecidableEq

structure Request where
  proof : Groth16Proof
  publicSignals : List Text
  root : Text
  nullifierHash : Text
  recipient : Text
  relayer : Text
  fee : Text
  deriving DecidableEq

inductive ParityReason where
  | expectedFive (got : Nat)
  | rootMismatch
  | nullifierHashMismatch
  | feeMismatch
  | recipientMismatch
  | relayerMismatch
  | parseError
  deriving DecidableEq

def parse (text : Text) : Except ParityReason Int :=
  match bigInt text with
  | some value => .ok value
  | none => .error .parseError

def orThrow (value : Option α) : Except ParityReason α :=
  match value with
  | some found => .ok found
  | none => .error .parseError

-- relayer.service.ts; `publicKey` is the PublicKey constructor, none when it throws.
def checkPublicSignalsParity (poseidon : List Fr → Fr) (publicKey : Text → Option Pubkey) (request : Request) :
    Except ParityReason Unit :=
  match request.publicSignals with
  | [s0,s1,s2,s3,s4] => do
    let sigRoot ← parse s0
    let sigNul ← parse s1
    let sigRec ← parse s2
    let sigRel ← parse s3
    let sigFee ← parse s4
    let root ← parse request.root
    require (root = sigRoot) ParityReason.rootMismatch
    let nullifierHash ← parse request.nullifierHash
    require (nullifierHash = sigNul) ParityReason.nullifierHashMismatch
    let fee ← parse request.fee
    require (fee = sigFee) ParityReason.feeMismatch
    let recPub ← orThrow (publicKey request.recipient)
    let relPub ← orThrow (publicKey request.relayer)
    let recHash ← orThrow (apiPubkeyToFieldHash poseidon recPub)
    let relHash ← orThrow (apiPubkeyToFieldHash poseidon relPub)
    require ((recHash : Int) = sigRec) ParityReason.recipientMismatch
    require ((relHash : Int) = sigRel) ParityReason.relayerMismatch
  | signals => .error (.expectedFive signals.length)

theorem upper_inside : 0 + 16 ≤ 32 := by decide
theorem lower_inside : 16 + 16 ≤ 32 := by decide

def upper (pubkey : Pubkey) : Bytes 16 := pubkey.slice 0 16 upper_inside
def lower (pubkey : Pubkey) : Bytes 16 := pubkey.slice 16 16 lower_inside

theorem bigintToBeBytes_exact (value : Nat) (fits : value < 2^256) :
    bigintToBeBytes value = some (Bytes.ofNat 32 value).toList := by
  have inside : ¬((value : Int) < 0 ∨ 2^256 ≤ (value : Int)) := by
    have : (value : Int) < 2^256 := by exact_mod_cast fits
    omega
  have short : (toText 16 value).length ≤ 64 := by
    rw [toText,Nat.length_toDigits_le_iff (by decide) (by decide)]
    exact fits
  have padded : (padStart 64 '0' (toText 16 value)).length = 2 * 32 := by
    rw [padStart,List.length_append,List.length_replicate]
    omega
  have zeros : ∀ count, (List.replicate count '0').foldlM (accumulate 16) 0 = some 0 := by
    intro count
    induction count with
    | zero => rfl
    | succ count ih =>
      rw [List.replicate_succ,List.foldlM_cons]
      exact ih
  have read : (padStart 64 '0' (toText 16 value)).foldlM (accumulate 16) 0 = some value := by
    rw [padStart,List.foldlM_append,zeros]
    have digits := foldlM_toText (by decide : 1 < 16) (by decide) value 0
    rw [Nat.zero_mul,Nat.zero_add] at digits
    exact digits
  obtain ⟨bytes,decoded,width,equal⟩ := fromHex_reads 32 _ padded 0 read
  rw [bigintToBeBytes,if_neg inside,Int.toNat_natCast,decoded]
  congr 1
  have back := digits_value bytes
  rw [width] at back
  rw [← back,equal,Nat.zero_mul,Nat.zero_add]
  rfl

theorem apiHalves_exact (pubkey : Pubkey) :
    apiHalves pubkey = some [((upper pubkey).value : Int),((lower pubkey).value : Int)] := by
  have high : (pubkey.toList.take 16) = (upper pubkey).toList := by
    rw [upper,Bytes.toList_slice,List.drop_zero]
  have low : (pubkey.toList.drop 16).take 16 = (lower pubkey).toList := by rw [lower,Bytes.toList_slice]
  have solid : ∀ half : Bytes 16, half.toList ≠ [] := by
    intro half empty
    have width := half.toList_length
    rw [empty] at width
    cases width
  have one := bigInt_hex (upper pubkey).toList (solid _)
  have two := bigInt_hex (lower pubkey).toList (solid _)
  simp only [apiHalves,hexText,high,low,List.cons_append,List.nil_append,one,two,Option.bind_eq_bind,Option.bind_some]
  rfl

theorem hexText_foldl (bytes : List UInt8) (start : Text) :
    bytes.foldl (fun hex byte => hex ++ padStart 2 '0' (toText 16 byte.toNat)) start = start ++ hexText bytes := by
  induction bytes generalizing start with
  | nil => simp [hexText]
  | cons byte rest ih =>
    rw [List.foldl_cons,ih]
    simp only [hexText,List.flatMap_cons,List.append_assoc,hexByte]

theorem webHalves_exact (pubkey : Pubkey) : webHalves pubkey = apiHalves pubkey := by
  simp only [webHalves,apiHalves,hexText_foldl]

theorem zeroExtend_value (half : Bytes 16) : (zeroExtend half).value = half.value := by
  have zeros := value_replicate_zero 16
  have whole := value_append (List.replicate 16 0) half.toList
  rw [zeros,Nat.zero_mul,Nat.zero_add] at whole
  exact whole

theorem half_canonical (half : Bytes 16) : Canonical (zeroExtend half) := by
  have order : 256 ^ 16 < fieldOrder := by norm_num [fieldOrder]
  unfold Canonical
  rw [zeroExtend_value]
  exact Nat.lt_trans half.value_lt order

-- The program never refuses a key: both halves are canonical.
theorem pubkeyToFieldHash_exact (poseidon : List Fr → Fr) (pubkey : Pubkey) :
    pubkeyToFieldHash poseidon pubkey =
      .ok (fieldBytes (poseidon [((upper pubkey).value : Fr),((lower pubkey).value : Fr)])) := by
  have hi : bytesField (pubkeyHi pubkey) = ((upper pubkey).value : Fr) :=
    congrArg (fun n : Nat => (n : Fr)) (zeroExtend_value (upper pubkey))
  have lo : bytesField (pubkeyLo pubkey) = ((lower pubkey).value : Fr) :=
    congrArg (fun n : Nat => (n : Fr)) (zeroExtend_value (lower pubkey))
  have canonical : ∀ bytes ∈ [pubkeyHi pubkey,pubkeyLo pubkey], Canonical bytes := by
    intro bytes member
    rcases List.mem_pair.mp member with first | second
    · rw [first]
      exact half_canonical (upper pubkey)
    · rw [second]
      exact half_canonical (lower pubkey)
  have hashed : hashv poseidon [pubkeyHi pubkey,pubkeyLo pubkey] =
      some (fieldBytes (poseidon [bytesField (pubkeyHi pubkey),bytesField (pubkeyLo pubkey)])) :=
    hashv_exact.mpr ⟨canonical,rfl⟩
  rw [hi,lo] at hashed
  unfold pubkeyToFieldHash
  simp only [hashed]

def keyHash (poseidon : List Fr → Fr) (pubkey : Pubkey) : Fr :=
  poseidon [((upper pubkey).value : Fr),((lower pubkey).value : Fr)]

theorem apiHash_exact (poseidon : List Fr → Fr) (pubkey : Pubkey) :
    apiPubkeyToFieldHash poseidon pubkey = some (keyHash poseidon pubkey).val := by
  rw [apiPubkeyToFieldHash,apiHalves_exact]
  simp only [Option.map_some,poseidonHash,List.map_cons,List.map_nil,Int.cast_natCast]
  rfl

theorem webHash_exact (poseidon : List Fr → Fr) (pubkey : Pubkey) :
    webPubkeyToFieldHash poseidon pubkey = some (keyHash poseidon pubkey).val := by
  rw [webPubkeyToFieldHash,webHalves_exact]
  exact apiHash_exact poseidon pubkey

end Octora.Relayer
