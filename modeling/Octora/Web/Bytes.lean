import Octora.Mixer.Payout
import Octora.Relayer.Service

namespace Octora.Web.Packing
open BigEndian BigIntText Relayer

-- `parseInt(text,16)`: blanks, a sign and a prefix are skipped, and what follows the
-- digits is left unread; none is NaN.
def parseInt16 (text : Text) : Option Int :=
  let body := text.dropWhile isSpace
  let negative := body.head? = some '-'
  let body := if body.head? = some '-' ∨ body.head? = some '+' then body.tail else body
  let body := match body with
    | '0' :: 'x' :: rest => rest
    | '0' :: 'X' :: rest => rest
    | rest => rest
  (readDigits 16 (body.takeWhile fun c => (digitOf 16 c).isSome)).map fun n => if negative then -(n : Int) else n

-- What an entry of a Uint8Array keeps of a number.
def toUint8 (number : Option Int) : UInt8 := UInt8.ofNat ((number.getD 0) % 256).toNat

def toString16 (value : Int) : Text := if value < 0 then '-' :: toText 16 value.natAbs else toText 16 value.toNat

-- bytes.ts
def bigintToBeBytes (value : Int) : List UInt8 :=
  let hex := padStart 64 '0' (toString16 value)
  (List.range 32).map fun i => toUint8 (parseInt16 ((hex.drop (2 * i)).take 2))

def convertProofToBytes (proof : Groth16Proof) : Option (List UInt8) := do
  let piAx := bigintToBeBytes (← coordinate proof.piA 0)
  let piAyNeg := bigintToBeBytes (BN254_P - (← coordinate proof.piA 1))
  let piBx1 := bigintToBeBytes (← coordinate (← proof.piB[0]?) 1)
  let piBx0 := bigintToBeBytes (← coordinate (← proof.piB[0]?) 0)
  let piBy1 := bigintToBeBytes (← coordinate (← proof.piB[1]?) 1)
  let piBy0 := bigintToBeBytes (← coordinate (← proof.piB[1]?) 0)
  let piCx := bigintToBeBytes (← coordinate proof.piC 0)
  let piCy := bigintToBeBytes (← coordinate proof.piC 1)
  some (piAx ++ piAyNeg ++ piBx1 ++ piBx0 ++ piBy1 ++ piBy0 ++ piCx ++ piCy)

def convertPublicInputsToBytes (publicSignals : List Text) : Option (List UInt8) :=
  if publicSignals.length ≠ 5 then none else do
  let packed ← publicSignals.mapM fun signal => (bigInt signal).map bigintToBeBytes
  some packed.flatten

-- The integers that a proof is packed from, in the order of the layout; none where a
-- text is missing or is no integer.
def proofValues (proof : Groth16Proof) : List (Option Int) :=
  [coordinate proof.piA 0,(coordinate proof.piA 1).map (BN254_P - ·),
    proof.piB[0]?.bind (coordinate · 1),proof.piB[0]?.bind (coordinate · 0),
    proof.piB[1]?.bind (coordinate · 1),proof.piB[1]?.bind (coordinate · 0),
    coordinate proof.piC 0,coordinate proof.piC 1]

def pack (encode : Int → Option (List UInt8)) (front : List UInt8) : List (Option Int) → Option (List UInt8)
  | [] => some front
  | value :: rest => do
    let bytes ← encode (← value)
    pack encode (front ++ bytes) rest

theorem pack_cons (encode : Int → Option (List UInt8)) (front : List UInt8) (value : Option Int)
    (rest : List (Option Int)) : pack encode front (value :: rest) =
      (value.bind encode).bind fun bytes => pack encode (front ++ bytes) rest := by
  rw [Option.bind_assoc]
  rfl

theorem pack_mapM (encode : Int → Option (List UInt8)) (front : List UInt8) (values : List (Option Int)) :
    pack encode front values = (values.mapM fun value : Option Int => value.bind encode).map (front ++ ·.flatten) := by
  induction values generalizing front with
  | nil =>
    change some front = some (front ++ [])
    rw [List.append_nil]
  | cons value rest ih =>
    rw [pack_cons,List.mapM_cons]
    cases value.bind encode with
    | none => rfl
    | some bytes =>
      rw [Option.bind_some,ih]
      cases rest.mapM fun value : Option Int => value.bind encode with
      | none => rfl
      | some packed =>
        change some (front ++ bytes ++ packed.flatten) = some (front ++ (bytes ++ packed.flatten))
        rw [List.append_assoc]

theorem pack_refused {value : Option Int} {values : List (Option Int)} (member : value ∈ values) (refused : value.bind encode = none) (front : List UInt8) :
    pack encode front values = none := by
  induction values generalizing front with
  | nil => exact absurd member List.not_mem_nil
  | cons head rest ih =>
    rw [pack_cons]
    rcases List.mem_cons.mp member with rfl | later
    · rw [refused,Option.bind_none]
    · cases head.bind encode with
      | none => rfl
      | some bytes => exact ih later (front ++ bytes)

theorem pack_exact {values : List (Option Int)} (encoded : ∀ value ∈ values, value.bind encode = some (written value)) (front : List UInt8) :
    pack encode front values = some (front ++ (values.map written).flatten) := by
  induction values generalizing front with
  | nil =>
    change some front = some (front ++ [])
    rw [List.append_nil]
  | cons value rest ih =>
    have others := ih fun other member => encoded other (List.mem_cons_of_mem _ member)
    rw [pack_cons,encoded value List.mem_cons_self,Option.bind_some,others,List.map_cons,List.flatten_cons,
      List.append_assoc]

theorem api_proof (proof : Groth16Proof) :
    Relayer.convertProofToBytes proof = pack Relayer.bigintToBeBytes [] (proofValues proof) := by
  unfold Relayer.convertProofToBytes proofValues
  generalize proof.piB[0]? = abscissa
  generalize proof.piB[1]? = ordinate
  generalize coordinate proof.piA 1 = height
  cases abscissa <;> cases ordinate <;> cases height <;> rfl

theorem web_proof (proof : Groth16Proof) :
    convertProofToBytes proof = pack (fun value => some (bigintToBeBytes value)) [] (proofValues proof) := by
  unfold convertProofToBytes proofValues
  generalize proof.piB[0]? = abscissa
  generalize proof.piB[1]? = ordinate
  generalize coordinate proof.piA 1 = height
  cases abscissa <;> cases ordinate <;> cases height <;> rfl

theorem api_signals {publicSignals : List Text} (five : publicSignals.length = 5) : Relayer.convertPublicInputsToBytes publicSignals =
    pack Relayer.bigintToBeBytes [] (publicSignals.map bigInt) := by
  rw [Relayer.convertPublicInputsToBytes,if_neg (fun wrong => wrong five),pack_mapM,List.mapM_map,Option.map_eq_bind]
  rfl

theorem web_signals {publicSignals : List Text} (five : publicSignals.length = 5) : convertPublicInputsToBytes publicSignals =
    pack (fun value => some (bigintToBeBytes value)) [] (publicSignals.map bigInt) := by
  have mapped : (fun signal => (bigInt signal).map bigintToBeBytes) =
      fun signal => (bigInt signal).bind fun value => some (bigintToBeBytes value) :=
    funext fun _ => Option.map_eq_bind
  rw [convertPublicInputsToBytes,if_neg (fun wrong => wrong five),pack_mapM,List.mapM_map,mapped,Option.map_eq_bind]
  rfl

-- Two hexadecimal digits are read alike by `parseInt` and by `Buffer.from`.
theorem parseInt16_pair (high low : Fin 16) :
    toUint8 (parseInt16 [high.val.digitChar,low.val.digitChar]) = UInt8.ofNat (16 * high + low) := by
  revert high low
  decide

theorem fromHex_pairs (count : Nat) (text : Text) (width : text.length = 2 * count)
    (digits : ∀ c ∈ text, ∃ digit < 16, c = digit.digitChar) :
    fromHex text = some ((List.range count).map fun i => toUint8 (parseInt16 ((text.drop (2 * i)).take 2))) := by
  induction count generalizing text with
  | zero =>
    rw [List.length_eq_zero_iff.mp width]
    rfl
  | succ count ih =>
    match text with
    | [] => cases width
    | [_] => rw [List.length_singleton] at width; omega
    | first :: second :: rest =>
      obtain ⟨high,highLow,rfl⟩ := digits first List.mem_cons_self
      obtain ⟨low,lowLow,rfl⟩ := digits second (List.mem_cons_of_mem _ List.mem_cons_self)
      have fewer : rest.length = 2 * count := by
        rw [List.length_cons,List.length_cons] at width
        omega
      have later := ih rest fewer fun c member =>
        digits c (List.mem_cons_of_mem _ (List.mem_cons_of_mem _ member))
      have pair := parseInt16_pair ⟨high,highLow⟩ ⟨low,lowLow⟩
      rw [List.range_succ_eq_map,List.map_cons,List.map_map]
      simp only [fromHex,digitOf_digitChar highLow le_rfl,digitOf_digitChar lowLow le_rfl,later,
        Option.bind_eq_bind,Option.bind_some,← pair]
      rfl

theorem web_exact (value : Nat) (fits : value < 2^256) : bigintToBeBytes value = (Bytes.ofNat 32 value).toList := by
  have short : (toText 16 value).length ≤ 64 := by
    rw [toText,Nat.length_toDigits_le_iff (by decide) (by decide)]
    exact fits
  have width : (padStart 64 '0' (toText 16 value)).length = 2 * 32 := by
    rw [padStart,List.length_append,List.length_replicate]
    omega
  have digits : ∀ c ∈ padStart 64 '0' (toText 16 value), ∃ digit < 16, c = digit.digitChar := by
    intro c member
    rcases List.mem_append.mp member with fill | written
    · exact ⟨0,by decide,List.eq_of_mem_replicate fill⟩
    · exact toText_digit (by decide) written
  have paired := fromHex_pairs 32 _ width digits
  have api := bigintToBeBytes_exact value fits
  have inside : ¬((value : Int) < 0 ∨ 2^256 ≤ (value : Int)) := by
    have : (value : Int) < 2^256 := by exact_mod_cast fits
    omega
  rw [Relayer.bigintToBeBytes,if_neg inside,Int.toNat_natCast,paired] at api
  have signless : toString16 (value : Int) = toText 16 value := by
    rw [toString16,if_neg (by omega),Int.toNat_natCast]
  rw [bigintToBeBytes,signless]
  exact Option.some.inj api

def Fits (value : Int) : Prop := 0 ≤ value ∧ value < 2^256

instance (value : Int) : Decidable (Fits value) := inferInstanceAs (Decidable (_ ∧ _))

theorem api_encodes {value : Int} (fits : Fits value) : Relayer.bigintToBeBytes value = some (bigintToBeBytes value) := by
  obtain ⟨positive,bounded⟩ := fits
  lift value to Nat using positive with value
  have small : value < 2^256 := by exact_mod_cast bounded
  rw [bigintToBeBytes_exact value small,web_exact value small]

theorem api_refuses {value : Int} (outside : ¬Fits value) : Relayer.bigintToBeBytes value = none := by
  rw [Relayer.bigintToBeBytes,if_pos]
  by_contra inside
  exact outside (by unfold Fits; omega)

-- The two packers of a list of values agree on nothing but these.
def Packable (values : List (Option Int)) : Prop := none ∈ values ∨ ∀ value, some value ∈ values → Fits value

theorem pack_agree (values : List (Option Int)) :
    pack (fun value => some (bigintToBeBytes value)) [] values = pack Relayer.bigintToBeBytes [] values ↔
      Packable values := by
  by_cases missing : none ∈ values
  · rw [pack_refused missing rfl,pack_refused missing rfl]
    exact ⟨fun _ => .inl missing,fun _ => rfl⟩
  · have every : ∀ value ∈ values, ∃ n, value = some n := by
      intro value member
      cases value with
      | none => exact absurd member missing
      | some n => exact ⟨n,rfl⟩
    have total : ∀ value ∈ values, value.bind (fun n => some (bigintToBeBytes n)) =
        some ((fun value : Option Int => bigintToBeBytes (value.getD 0)) value) := by
      intro value member
      obtain ⟨n,rfl⟩ := every value member
      rfl
    have packed := pack_exact total []
    rw [packed]
    constructor
    · intro equal
      refine .inr fun n member => ?_
      by_contra outside
      have refused : (some n).bind Relayer.bigintToBeBytes = none := api_refuses outside
      rw [pack_refused member refused] at equal
      cases equal
    · intro packable
      have fits := packable.resolve_left missing
      symm
      apply pack_exact
      intro value member
      obtain ⟨n,rfl⟩ := every value member
      exact api_encodes (fits n member)

-- The coordinates as snarkjs lists them.
def coordinates (proof : Groth16Proof) : List (Option Int) :=
  [coordinate proof.piA 0,coordinate proof.piA 1,
    proof.piB[0]?.bind (coordinate · 0),proof.piB[0]?.bind (coordinate · 1),
    proof.piB[1]?.bind (coordinate · 0),proof.piB[1]?.bind (coordinate · 1),
    coordinate proof.piC 0,coordinate proof.piC 1]

def written (values : List Nat) : List (Option Int) := values.map fun value : Nat => some (value : Int)

def blocks (values : List Nat) : List UInt8 := (values.map fun value => (Bytes.ofNat 32 value).toList).flatten

-- What the program reads in a slice of its input, word by word.
def words (bytes : Bytes n) : List Nat :=
  (List.range (n / 32)).map fun i => BigEndian.value ((bytes.toList.drop (32 * i)).take 32)

theorem blocks_length (values : List Nat) : (blocks values).length = 32 * values.length := by
  induction values with
  | nil => rfl
  | cons value rest ih =>
    have here : (Bytes.ofNat 32 value).toList.length = 32 := List.Vector.toList_length _
    rw [blocks] at ih ⊢
    rw [List.map_cons,List.flatten_cons,List.length_append,ih,here,List.length_cons]
    ring

theorem blocks_word (fits : ∀ value ∈ values, value < 2^256) {i : Nat} (bound : i < values.length) :
    BigEndian.value (((blocks values).drop (32 * i)).take 32) = values[i] := by
  have widths : ∀ block ∈ values.map fun value => (Bytes.ofNat 32 value).toList, block.length = 32 := by
    intro block member
    obtain ⟨value,_,rfl⟩ := List.mem_map.mp member
    exact List.Vector.toList_length _
  have block := flatten_block _ widths (i := i) (by rwa [List.length_map])
  rw [blocks,block,List.getElem_map]
  exact value_digits 32 _ (fits _ (List.getElem_mem bound))

theorem pack_blocks (fits : ∀ value ∈ values, value < 2^256) :
    pack Relayer.bigintToBeBytes [] (written values) = some (blocks values) := by
  have encoded : ∀ value ∈ written values, value.bind Relayer.bigintToBeBytes =
      some ((fun value : Option Int => (Bytes.ofNat 32 (value.getD 0).toNat).toList) value) := by
    intro value member
    obtain ⟨n,inside,rfl⟩ := List.mem_map.mp member
    exact bigintToBeBytes_exact n (fits n inside)
  rw [pack_exact encoded,written,List.map_map]
  rfl

theorem written_packable (fits : ∀ value ∈ values, value < 2^256) : Packable (written values) := by
  refine .inr fun value member => ?_
  obtain ⟨n,inside,equal⟩ := List.mem_map.mp member
  cases Option.some.inj equal
  have small : (n : Int) < 2^256 := by exact_mod_cast fits n inside
  exact ⟨Int.natCast_nonneg n,small⟩

theorem words_slice (bytes : Bytes n) (listed : bytes.toList = blocks values) (fits : ∀ value ∈ values, value < 2^256)
    (start count : Nat) (bound : 32 * start + 32 * count ≤ n) :
    words (bytes.slice (32 * start) (32 * count) bound) = (values.drop start).take count := by
  have total : n = 32 * values.length := by
    rw [← blocks_length,← listed,List.Vector.toList_length]
  apply List.ext_getElem
  · rw [words,List.length_map,List.length_range,List.length_take,List.length_drop]
    omega
  · intro i one two
    have inside : i < count := by rw [List.length_take] at two; omega
    have here : start + i < values.length := by omega
    have shifted : 32 * start + 32 * i = 32 * (start + i) := by ring
    have room : min 32 (32 * count - 32 * i) = 32 := by omega
    simp only [words,List.getElem_map,List.getElem_range,Bytes.toList_slice,List.drop_take,List.drop_drop,
      List.take_take,List.getElem_take,List.getElem_drop,listed,shifted,room]
    exact blocks_word fits here

theorem proofValues_written (read : coordinates proof = written [xA,yA,xB0,xB1,yB0,yB1,xC,yC]) (field : yA ≤ BN254_P.toNat) :
    proofValues proof = written [xA,BN254_P.toNat - yA,xB1,xB0,yB1,yB0,xC,yC] := by
  simp only [coordinates,written,List.map_cons,List.map_nil,List.cons.injEq,and_true] at read
  obtain ⟨one,two,three,four,five,six,seven,eight⟩ := read
  have negated : BN254_P - (yA : Int) = ((BN254_P.toNat - yA : Nat) : Int) := by
    have whole : (BN254_P.toNat : Int) = BN254_P := by decide
    omega
  simp only [proofValues,one,two,three,four,five,six,seven,eight,Option.map_some,negated]
  rfl

theorem signals_agree (publicSignals : List Text) :
    convertPublicInputsToBytes publicSignals = Relayer.convertPublicInputsToBytes publicSignals ↔
      publicSignals.length ≠ 5 ∨ Packable (publicSignals.map bigInt) := by
  by_cases five : publicSignals.length = 5
  · rw [web_signals five,api_signals five,pack_agree]
    exact ⟨.inr,fun agree => agree.resolve_left fun wrong => wrong five⟩
  · rw [convertPublicInputsToBytes,Relayer.convertPublicInputsToBytes,if_pos five,if_pos five]
    exact ⟨fun _ => .inl five,fun _ => rfl⟩

theorem packing_agree (proof : Groth16Proof) (publicSignals : List Text) :
    (convertProofToBytes proof = Relayer.convertProofToBytes proof ↔ Packable (proofValues proof)) ∧
    (convertPublicInputsToBytes publicSignals = Relayer.convertPublicInputsToBytes publicSignals ↔
      publicSignals.length ≠ 5 ∨ Packable (publicSignals.map bigInt)) ∧
    ∀ xA yA xB0 xB1 yB0 yB1 xC yC root nullifierHash recipient relayer fee,
      coordinates proof = written [xA,yA,xB0,xB1,yB0,yB1,xC,yC] →
      (∀ value ∈ [xA,yA,xB0,xB1,yB0,yB1,xC,yC], value < BN254_P.toNat) →
      publicSignals.map bigInt = written [root,nullifierHash,recipient,relayer,fee] →
      (∀ value ∈ [root,nullifierHash,recipient,relayer,fee], value < 2^256) →
      ∃ (proofData : Bytes PROOF_SIZE) (inputs : Bytes PUBLIC_INPUTS_SIZE),
        convertProofToBytes proof = some proofData.toList ∧
        Relayer.convertProofToBytes proof = some proofData.toList ∧
        convertPublicInputsToBytes publicSignals = some inputs.toList ∧
        Relayer.convertPublicInputsToBytes publicSignals = some inputs.toList ∧
        words (proofData.slice 0 64 (by decide)) = [xA,BN254_P.toNat - yA] ∧
        words (proofData.slice 64 128 (by decide)) = [xB1,xB0,yB1,yB0] ∧
        words (proofData.slice 192 64 (by decide)) = [xC,yC] ∧
        (List.finRange 5).map (fun i => (publicInput inputs i).value) = [root,nullifierHash,recipient,relayer,fee] ∧
        (inputRoot inputs).value = root ∧ (inputNullifierHash inputs).value = nullifierHash ∧
        (inputRecipient inputs).value = recipient ∧ (inputRelayer inputs).value = relayer ∧
        (inputFee inputs).value = fee := by
  refine ⟨?_,signals_agree publicSignals,?_⟩
  · rw [web_proof,api_proof]
    exact pack_agree _
  · intro xA yA xB0 xB1 yB0 yB1 xC yC root nullifierHash recipient relayer fee
      read field signals fits
    have order : BN254_P.toNat < 2^256 := by decide
    have values := proofValues_written read (field yA (by simp)).le
    have small : ∀ value ∈ [xA,BN254_P.toNat - yA,xB1,xB0,yB1,yB0,xC,yC], value < 2^256 := by
      intro value member
      by_cases negated : value = BN254_P.toNat - yA
      · omega
      · have original : value ∈ [xA,yA,xB0,xB1,yB0,yB1,xC,yC] := by
          simp only [List.mem_cons,negated,false_or] at member ⊢
          tauto
        exact Nat.lt_trans (field value original) order
    have five : publicSignals.length = 5 := by
      have lengths := congrArg List.length signals
      rwa [List.length_map,written,List.length_map] at lengths
    have proofAgrees := (pack_agree _).mpr (written_packable small)
    have signalsAgree := (pack_agree _).mpr (written_packable fits)
    have proofPacked := pack_blocks small
    have signalsPacked := pack_blocks fits
    have fifth : ∀ i : Fin 5, (publicInput ⟨blocks [root,nullifierHash,recipient,relayer,fee],blocks_length _⟩ i).value =
        [root,nullifierHash,recipient,relayer,fee][i.val] := fun i => blocks_word fits i.isLt
    refine ⟨⟨blocks [xA,BN254_P.toNat - yA,xB1,xB0,yB1,yB0,xC,yC],blocks_length _⟩,
      ⟨blocks [root,nullifierHash,recipient,relayer,fee],blocks_length _⟩,?_,?_,?_,?_,?_,?_,?_,?_,
      fifth 0,fifth 1,fifth 2,fifth 3,fifth 4⟩
    · rw [web_proof,values,proofAgrees,proofPacked]
      rfl
    · rw [api_proof,values,proofPacked]
      rfl
    · rw [web_signals five,signals,signalsAgree,signalsPacked]
      rfl
    · rw [api_signals five,signals,signalsPacked]
      rfl
    · exact words_slice _ rfl small 0 2 (by decide)
    · exact words_slice _ rfl small 2 4 (by decide)
    · exact words_slice _ rfl small 6 2 (by decide)
    · simp only [fifth]
      rfl

def generatorProof : Groth16Proof where
  piA := ["1".toList,"2".toList,"1".toList]
  piB := [["0x1800deef121f1e76426a00665e5c4479674322d4f75edadd46debd5cd992f6ed".toList,
      "0x198e9393920d483a7260bfb731fb5d25f1aa493335a9e71297e485b7aef312c2".toList],
    ["0x12c85ea5db8c6deb4aab71808dcb408fe3d1e7690c43d37b4ce6cc0166fa7daa".toList,
      "0x90689d0585ff075ec9e99ad690c3395bc4b313370b38ef355acdadcd122975b".toList],
    ["1".toList,"0".toList]]
  piC := ["1".toList,"0x2".toList,"1".toList]

theorem packing_agree_sample : ∃ (proofData : Bytes PROOF_SIZE) (inputs : Bytes PUBLIC_INPUTS_SIZE),
    convertProofToBytes generatorProof = some proofData.toList ∧
    convertPublicInputsToBytes [['7'],['8'],['9'],['1','0'],['0','x','b']] = some inputs.toList ∧
    words (proofData.slice 0 64 (by decide)) = [1,BN254_P.toNat - 2] ∧ (inputFee inputs).value = 11 := by
  obtain ⟨proofData,inputs,one,_,two,_,three,_,_,_,_,_,_,_,four⟩ := (packing_agree generatorProof
    [['7'],['8'],['9'],['1','0'],['0','x','b']]).2.2 1 2
    0x1800deef121f1e76426a00665e5c4479674322d4f75edadd46debd5cd992f6ed
    0x198e9393920d483a7260bfb731fb5d25f1aa493335a9e71297e485b7aef312c2
    0x12c85ea5db8c6deb4aab71808dcb408fe3d1e7690c43d37b4ce6cc0166fa7daa
    0x90689d0585ff075ec9e99ad690c3395bc4b313370b38ef355acdadcd122975b 1 2 7 8 9 10 11
    (by decide) (by decide) (by decide) (by decide)
  exact ⟨proofData,inputs,one,two,three,four⟩

-- `out[31] = parseInt("-1",16)` keeps 255; the relayer throws on a negative integer.
theorem negative_packed : convertPublicInputsToBytes [['-','1'],['0'],['0'],['0'],['0']] =
      some (List.replicate 31 0 ++ [255] ++ List.replicate 128 0) ∧
    Relayer.convertPublicInputsToBytes [['-','1'],['0'],['0'],['0'],['0']] = none := by decide

end Octora.Web.Packing
