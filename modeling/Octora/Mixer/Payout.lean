import Octora.Relayer.ProofConverter
import Octora.Mixer.Solvency

namespace Octora
open BigEndian BigIntText Fallible MerkleTree Relayer

def halves (pubkey : Pubkey) : Fr × Fr := (((upper pubkey).value : Fr),((lower pubkey).value : Fr))

-- The split loses nothing: each half is far below the field order.
theorem halves_injective (equal : halves left = halves right) : left = right := by
  have small : ∀ half : Bytes 16, half.value < fieldOrder := fun half =>
    Nat.lt_trans half.value_lt (by norm_num [fieldOrder])
  have cast : ∀ one two : Bytes 16, (one.value : Fr) = (two.value : Fr) → one = two := by
    intro one two same
    have values := congrArg ZMod.val same
    rw [ZMod.val_natCast_of_lt (small one),ZMod.val_natCast_of_lt (small two)] at values
    exact Bytes.value_inj.mp values
  have high := cast (upper left) (upper right) (congrArg Prod.fst equal)
  have low := cast (lower left) (lower right) (congrArg Prod.snd equal)
  have whole : ∀ key : Pubkey, key.toList = (upper key).toList ++ (lower key).toList := by
    intro key
    have width := key.toList_length
    rw [upper,lower,Bytes.toList_slice,Bytes.toList_slice,List.drop_zero]
    conv_lhs => rw [← List.take_append_drop 16 key.toList]
    rw [List.take_of_length_le (i := 16) (l := key.toList.drop 16) (by rw [List.length_drop,width])]
  apply List.Vector.eq
  rw [whole left,whole right,high,low]

theorem keyHash_binds {used : Pubkey → Prop}
    (free : NoCollision (poseidon2 poseidon) fun q => ∃ key, used key ∧ q = halves key)
    (one : used left) (two : used right)
    (equal : pubkeyToFieldHash poseidon left = pubkeyToFieldHash poseidon right) : left = right := by
  rw [pubkeyToFieldHash_exact,pubkeyToFieldHash_exact] at equal
  exact halves_injective (free _ _ ⟨left,one,rfl⟩ ⟨right,two,rfl⟩ (fieldBytes_injective (Except.ok.inj equal)))

-- The fee the program reads is the integer in all 32 bytes.
theorem feeOf_exact (upperZero : upperBytesZero feeField) : feeOf feeField = feeField.value := by
  have zeros : feeField.toList.take 24 = List.replicate 24 0 := by
    have width := feeField.toList_length
    have all : ∀ b ∈ feeField.toList.take 24, b = 0 := by simpa [upperBytesZero] using upperZero
    have count : (feeField.toList.take 24).length = 24 := by rw [List.length_take,width]; rfl
    exact List.eq_replicate_iff.mpr ⟨count,all⟩
  have tail : (feeField.toList.drop 24).take 8 = feeField.toList.drop 24 :=
    List.take_of_length_le (by rw [List.length_drop,feeField.toList_length])
  have split := value_append (feeField.toList.take 24) (feeField.toList.drop 24)
  rw [List.take_append_drop,zeros,value_replicate_zero,Nat.zero_mul,Nat.zero_add] at split
  rw [feeOf,Bytes.value,Bytes.toList_slice,tail,← split]
  rfl

-- Five field values packed as the relayer sends them.
def packedInputs (values : Fin 5 → Nat) : Bytes PUBLIC_INPUTS_SIZE :=
  ⟨((List.finRange 5).map fun i => (Bytes.ofNat 32 (values i)).toList).flatten,by
    simp [PUBLIC_INPUTS_SIZE,List.finRange]⟩

theorem publicInput_packed (values : Fin 5 → Nat) (i : Fin 5) :
    publicInput (packedInputs values) i = Bytes.ofNat 32 (values i) := by
  have widths : ∀ block ∈ (List.finRange 5).map fun i => (Bytes.ofNat 32 (values i)).toList, block.length = 32 := by
    intro block member
    obtain ⟨j,_,rfl⟩ := List.mem_map.mp member
    exact List.Vector.toList_length _
  have block := flatten_block _ widths (i := i.val) (by simp)
  apply List.Vector.eq
  rw [publicInput,Bytes.toList_slice]
  rw [List.getElem_map,List.getElem_finRange] at block
  exact block

-- snarkjs prints each public signal as a canonical decimal.
def printedSignals (values : Fin 5 → Nat) : List Text := (List.finRange 5).map fun i => decimal (values i)

theorem convertPublicInputs_exact (values : Fin 5 → Nat) (fits : ∀ i, values i < 2^256) :
    convertPublicInputsToBytes (printedSignals values) = some (packedInputs values).toList := by
  have each : ∀ i, (bigInt (decimal (values i))).bind bigintToBeBytes = some (Bytes.ofNat 32 (values i)).toList := by
    intro i
    rw [bigInt_decimal,Option.bind_some,bigintToBeBytes_exact _ (fits i)]
  have five : (printedSignals values).length = 5 := by simp [printedSignals]
  have packed : (printedSignals values).mapM (fun signal => (bigInt signal).bind bigintToBeBytes) =
      some ((List.finRange 5).map fun i => (Bytes.ofNat 32 (values i)).toList) := by
    simp [printedSignals,List.finRange,each]
  rw [convertPublicInputsToBytes,if_neg (fun wrong => wrong five),packed]
  rfl

theorem parity_accepts (poseidon : List Fr → Fr) (publicKey : Text → Option Pubkey) (values : Fin 5 → Nat)
    (one : publicKey recipientText = some recipient) (two : publicKey relayerText = some relayer)
    (recipientField : webPubkeyToFieldHash poseidon recipient = some (values 2))
    (relayerField : webPubkeyToFieldHash poseidon relayer = some (values 3)) (proof : Groth16Proof) :
    checkPublicSignalsParity poseidon publicKey ⟨proof,printedSignals values,decimal (values 0),decimal (values 1),
      recipientText,relayerText,decimal (values 4)⟩ = .ok () := by
  have listed : printedSignals values = [decimal (values 0),decimal (values 1),decimal (values 2),
    decimal (values 3),decimal (values 4)] := by simp [printedSignals,List.finRange]
  have first : apiPubkeyToFieldHash poseidon recipient = some (values 2) := by
    rw [apiHash_exact,← webHash_exact,recipientField]
  have second : apiPubkeyToFieldHash poseidon relayer = some (values 3) := by
    rw [apiHash_exact,← webHash_exact,relayerField]
  have parsed : ∀ value : Nat, parse (decimal value) = .ok (value : Int) := by
    intro value
    rw [parse,bigInt_decimal]
  have keyOne : orThrow (publicKey recipientText) = .ok recipient := by rw [one]; rfl
  have keyTwo : orThrow (publicKey relayerText) = .ok relayer := by rw [two]; rfl
  have hashOne : orThrow (apiPubkeyToFieldHash poseidon recipient) = .ok (values 2) := by rw [first]; rfl
  have hashTwo : orThrow (apiPubkeyToFieldHash poseidon relayer) = .ok (values 3) := by rw [second]; rfl
  unfold checkPublicSignalsParity
  simp only [listed,do_ok,require_ok]
  exact ⟨_,parsed _,_,parsed _,_,parsed _,_,parsed _,_,parsed _,_,parsed _,(),rfl,_,parsed _,(),rfl,_,parsed _,(),rfl,
    _,keyOne,_,keyTwo,_,hashOne,_,hashTwo,(),rfl,rfl⟩

theorem program_accepts (poseidon : List Fr → Fr) (values : Fin 5 → Nat) (i : Fin 5) (pubkey : Pubkey)
    (field : webPubkeyToFieldHash poseidon pubkey = some (values i)) :
    pubkeyToFieldHash poseidon pubkey = .ok (publicInput (packedInputs values) i) := by
  rw [webHash_exact] at field
  rw [pubkeyToFieldHash_exact,publicInput_packed,← Option.some.inj field]
  rfl

theorem withdraw_pays (accepted : (submit env now before (.withdraw accounts proofData inputs)).2 = .ok events) :
    ∃ pool rent, (before accounts.mixerPool).data = .pool pool ∧
      (inputFee inputs).value < pool.denomination.toNat ∧
      pubkeyToFieldHash env.poseidon accounts.recipient = .ok (inputRecipient inputs) ∧
      pubkeyToFieldHash env.poseidon accounts.relayer = .ok (inputRelayer inputs) ∧
      ∀ key, (submit env now before (.withdraw accounts proofData inputs)).1.lamports key +
          share accounts.mixerPool key pool.denomination.toNat + share accounts.signer key rent =
        before.lamports key + share accounts.recipient key (pool.denomination.toNat - (inputFee inputs).value) +
          share accounts.relayer key (inputFee inputs).value + share accounts.nullifierAccount key rent := by
  rcases submit_cases env now before (.withdraw accounts proofData inputs) with ⟨_,_,done⟩ | ⟨_,refused,_⟩
  · cases done with
    | withdrawn withdrawn =>
      have admitted := withdrawn.admitted
      have fee := admitted.feeValue.trans (feeOf_exact admitted.upper)
      have moved := withdrawn.lamports
      have bounded := admitted.bounded
      rw [fee] at moved bounded
      exact ⟨_,_,withdrawn.loaded,bounded,admitted.recipient,admitted.relayer,moved⟩
  · rw [accepted] at refused
    cases refused

-- `used` is the set of keys under discussion; Poseidon has no collision among their halves.
theorem payout_binding (env : Runtime) (used : Pubkey → Prop)
    (free : NoCollision (poseidon2 env.poseidon) fun q => ∃ key, used key ∧ q = halves key) :
    (∀ now now' before before' accounts accounts' proofData inputs events events',
      (submit env now before (.withdraw accounts proofData inputs)).2 = .ok events →
      (submit env now' before' (.withdraw accounts' proofData inputs)).2 = .ok events' →
      used accounts.recipient → used accounts'.recipient → used accounts.relayer → used accounts'.relayer →
      accounts.recipient = accounts'.recipient ∧ accounts.relayer = accounts'.relayer) ∧
    (∀ now before accounts proofData inputs events,
      (submit env now before (.withdraw accounts proofData inputs)).2 = .ok events →
      (used accounts.recipient → ∀ key, used key →
        pubkeyToFieldHash env.poseidon key = .ok (inputRecipient inputs) → key = accounts.recipient) ∧
      (used accounts.relayer → ∀ key, used key →
        pubkeyToFieldHash env.poseidon key = .ok (inputRelayer inputs) → key = accounts.relayer) ∧
      ∃ pool rent, (before accounts.mixerPool).data = .pool pool ∧
        (inputFee inputs).value < pool.denomination.toNat ∧
        ∀ key, (submit env now before (.withdraw accounts proofData inputs)).1.lamports key +
            share accounts.mixerPool key pool.denomination.toNat + share accounts.signer key rent =
          before.lamports key + share accounts.recipient key (pool.denomination.toNat - (inputFee inputs).value) +
            share accounts.relayer key (inputFee inputs).value + share accounts.nullifierAccount key rent) ∧
    (∀ pubkey, apiHalves pubkey = webHalves pubkey ∧
      (webHalves pubkey).map (fun inputs => inputs.map fun n : Int => (n : Fr)) =
        some [bytesField (pubkeyHi pubkey),bytesField (pubkeyLo pubkey)]) ∧
    (∀ publicKey recipientText relayerText recipient relayer values proof,
      publicKey recipientText = some recipient → publicKey relayerText = some relayer →
      (∀ i : Fin 5, values i < 2^256) →
      webPubkeyToFieldHash env.poseidon recipient = some (values 2) →
      webPubkeyToFieldHash env.poseidon relayer = some (values 3) →
      checkPublicSignalsParity env.poseidon publicKey ⟨proof,printedSignals values,decimal (values 0),
        decimal (values 1),recipientText,relayerText,decimal (values 4)⟩ = .ok () ∧
      convertPublicInputsToBytes (printedSignals values) = some (packedInputs values).toList ∧
      pubkeyToFieldHash env.poseidon recipient = .ok (inputRecipient (packedInputs values)) ∧
      pubkeyToFieldHash env.poseidon relayer = .ok (inputRelayer (packedInputs values))) := by
  refine ⟨?_,?_,?_,?_⟩
  · intro now now' before before' accounts accounts' proofData inputs events events' first second one two three four
    obtain ⟨_,_,_,_,recipient,relayer,_⟩ := withdraw_pays first
    obtain ⟨_,_,_,_,recipient',relayer',_⟩ := withdraw_pays second
    exact ⟨keyHash_binds free one two (recipient.trans recipient'.symm),
      keyHash_binds free three four (relayer.trans relayer'.symm)⟩
  · intro now before accounts proofData inputs events accepted
    obtain ⟨pool,rent,loaded,bounded,recipient,relayer,moved⟩ := withdraw_pays accepted
    refine ⟨?_,?_,pool,rent,loaded,bounded,moved⟩
    · intro one key two hashed
      exact keyHash_binds free two one (hashed.trans recipient.symm)
    · intro one key two hashed
      exact keyHash_binds free two one (hashed.trans relayer.symm)
  · intro pubkey
    refine ⟨(webHalves_exact pubkey).symm,?_⟩
    have hi : bytesField (pubkeyHi pubkey) = ((upper pubkey).value : Fr) :=
      congrArg (fun n : Nat => (n : Fr)) (zeroExtend_value (upper pubkey))
    have lo : bytesField (pubkeyLo pubkey) = ((lower pubkey).value : Fr) :=
      congrArg (fun n : Nat => (n : Fr)) (zeroExtend_value (lower pubkey))
    rw [webHalves_exact,apiHalves_exact,hi,lo]
    simp only [Option.map_some,List.map_cons,List.map_nil,Int.cast_natCast]
  · intro publicKey recipientText relayerText recipient relayer values proof one two fits recipientField relayerField
    exact ⟨parity_accepts env.poseidon publicKey values one two recipientField relayerField proof,
      convertPublicInputs_exact values fits,program_accepts env.poseidon values 2 recipient recipientField,
      program_accepts env.poseidon values 3 relayer relayerField⟩

def sampleKeys (key : Pubkey) : Prop := key = sampleRecipient ∨ key = sampleRelayer

theorem sampleKeys_free : NoCollision (poseidon2 sampleRuntime.poseidon) fun q => ∃ key, sampleKeys key ∧ q = halves key := by
  have one := table_known [(upper sampleRecipient).value,(lower sampleRecipient).value]
    (z := sampleRecipientHash.value) (by decide) (by decide)
  have two := table_known [(upper sampleRelayer).value,(lower sampleRelayer).value]
    (z := sampleRelayerHash.value) (by decide) (by decide)
  have apart : (sampleRecipientHash.value : Fr) ≠ (sampleRelayerHash.value : Fr) := by
    intro equal
    have values := congrArg ZMod.val equal
    rw [ZMod.val_natCast_of_lt (by decide),ZMod.val_natCast_of_lt (by decide)] at values
    revert values
    decide
  rintro left right ⟨_,rfl | rfl,rfl⟩ ⟨_,rfl | rfl,rfl⟩ equal
  · rfl
  · exact absurd (one.symm.trans (equal.trans two)) apart
  · exact absurd (one.symm.trans (equal.symm.trans two)) apart
  · rfl

def sampleRecipientText : Text := "29d2S7vB453rNYFdR5Ycwt7y9haRT5fwVwL9zTmBhfV2".toList
def sampleRelayerText : Text := "3JF3sEqM796hk5WFqA6EtmEwJQ9quALszsfJyvXNQKy3".toList

def samplePublicKey (text : Text) : Option Pubkey :=
  if text = sampleRecipientText then some sampleRecipient else
  if text = sampleRelayerText then some sampleRelayer else none

def sampleValues (i : Fin 5) : Nat :=
  [sampleRoot.value,sampleNullifierHash.value,sampleRecipientHash.value,sampleRelayerHash.value,sampleFee.value].get i

theorem sampleKey_hash (known : knownAnswers.lookup [(upper key).value,(lower key).value] = some n)
    (small : (upper key).value < fieldOrder ∧ (lower key).value < fieldOrder ∧ n < fieldOrder) :
    webPubkeyToFieldHash tablePoseidon key = some n := by
  have hashed : keyHash tablePoseidon key = (n : Fr) :=
    table_known [(upper key).value,(lower key).value] known (by simp [small])
  rw [webHash_exact,hashed,ZMod.val_natCast_of_lt small.2.2]

theorem payout_binding_sample :
    checkPublicSignalsParity tablePoseidon samplePublicKey ⟨⟨[],[],[]⟩,printedSignals sampleValues,
      decimal (sampleValues 0),decimal (sampleValues 1),sampleRecipientText,sampleRelayerText,
      decimal (sampleValues 4)⟩ = .ok () ∧
    pubkeyToFieldHash tablePoseidon sampleRecipient = .ok (inputRecipient (packedInputs sampleValues)) := by
  have accepted := (payout_binding sampleRuntime sampleKeys sampleKeys_free).2.2.2 samplePublicKey
    sampleRecipientText sampleRelayerText sampleRecipient sampleRelayer sampleValues ⟨[],[],[]⟩
    (by decide) (by decide) (by decide)
    (sampleKey_hash (by decide) (by decide))
    (sampleKey_hash (by decide) (by decide))
  exact ⟨accepted.1,accepted.2.2.1⟩

end Octora
