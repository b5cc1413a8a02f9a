import Octora.Web.Bytes
import Mathlib.Data.Rat.Defs

namespace Octora.SeedBlob
open BigEndian BigIntText Fallible Relayer

-- AES-256-GCM with its 16-byte tag, HKDF-SHA256 with 32 bytes of output, and the
-- base58 address of `Keypair.fromSeed`; `decrypt` is none when the tag is refused.
structure Crypto where
  encrypt : Bytes 32 → (iv : List UInt8) → (plain : List UInt8) → List UInt8 × Bytes 16
  decrypt : Bytes 32 → (iv : List UInt8) → (cipher : List UInt8) → (tag : List UInt8) → Option (List UInt8)
  hkdf : (ikm : List UInt8) → (salt : List UInt8) → (info : List UInt8) → Bytes 32
  address : Bytes 32 → Text

-- `sealed` holds what was ever encrypted; Node also takes a shortened tag.
structure Ideal (crypto : Crypto) (sealed : Bytes 32 → List UInt8 → List UInt8 → Prop) : Prop where
  correct : ∀ key iv plain, iv.length = 12 →
    crypto.decrypt key iv (crypto.encrypt key iv plain).1 (crypto.encrypt key iv plain).2.toList = some plain
  authentic : ∀ key iv cipher tag plain, crypto.decrypt key iv cipher tag = some plain →
    sealed key iv plain ∧ cipher = (crypto.encrypt key iv plain).1 ∧ tag <+: (crypto.encrypt key iv plain).2.toList

def Held (sealed : Bytes 32 → List UInt8 → List UInt8 → Prop) (seed : Bytes 32) : Prop :=
  ∃ key iv, sealed key iv seed.toList

structure StealthWallet (crypto : Crypto) where
  publicKey : Text
  seed : Bytes 32
  derived : publicKey = crypto.address seed

theorem wallet_ext {one two : StealthWallet crypto} (equal : one.seed = two.seed) : one = two := by
  cases one with
  | mk _ _ first =>
    cases two with
    | mk _ _ second =>
      cases equal
      cases first
      cases second
      rfl

structure EncryptedSeed where
  ciphertext : Text
  iv : Text
  authTag : Text
  publicKey : Text
  version : Option ℚ
  nonce : Option Text
  deriving DecidableEq

inductive SeedError where
  | keyTooShort
  | emptyMaterial
  | emptyNonce
  | missingNonce
  | unsupportedVersion (version : Option ℚ)
  | refused
  | seedLength
  | otherPublicKey
  deriving DecidableEq

def orError (value : Option α) (error : SeedError) : Except SeedError α :=
  match value with
  | some found => .ok found
  | none => .error error

@[simp] theorem orError_ok {value : Option α} : orError value error = .ok found ↔ value = some found := by
  cases value <;> simp [orError]

-- `Keypair.fromSeed` throws on any other length.
def fromSeed (crypto : Crypto) (seed : List UInt8) : Except SeedError (StealthWallet crypto) :=
  (orError (sized 32 seed) .seedLength).map fun seed => ⟨crypto.address seed,seed,rfl⟩

-- octora-web mixer/stealth-wallet.ts
def HKDF_INFO : List UInt8 := utf8 "octora.stealth.seed.v2".toList
def HKDF_SALT : List UInt8 := utf8 "octora-stealth-salt-v2".toList

def webRecoverStealthWallet (crypto : Crypto) (seed : List UInt8) : Except SeedError (StealthWallet crypto) := do
  require (seed.length = 32) SeedError.seedLength
  fromSeed crypto seed

def webDeriveAesKey (crypto : Crypto) (ikm : List UInt8) : Except SeedError (Bytes 32) := do
  require (ikm.length ≠ 0) SeedError.emptyMaterial
  .ok (crypto.hkdf ikm HKDF_SALT HKDF_INFO)

def clean : Text → Text
  | '0' :: 'x' :: rest => rest
  | text => text

-- Half a character too many is no entry of the Uint8Array; NaN is stored as 0.
def hexToBytes (hex : Text) : List UInt8 :=
  (List.range ((clean hex).length / 2)).map fun i =>
    Web.Packing.toUint8 (Web.Packing.parseInt16 (((clean hex).drop (2 * i)).take 2))

def subtleDecrypt (crypto : Crypto) (iv : List UInt8) (key : Bytes 32) (combined : List UInt8) : Option (List UInt8) :=
  if combined.length < 16 then none
  else crypto.decrypt key iv (combined.take (combined.length - 16)) (combined.drop (combined.length - 16))

def webDecryptSeed (crypto : Crypto) (encrypted : EncryptedSeed) (encryptionKey : List UInt8) :
    Except SeedError (StealthWallet crypto) := do
  require (¬encryptionKey.length < 32) SeedError.keyTooShort
  require (encrypted.version = some 2) (SeedError.unsupportedVersion encrypted.version)
  let key ← webDeriveAesKey crypto encryptionKey
  let iv := hexToBytes encrypted.iv
  let ciphertext := hexToBytes encrypted.ciphertext
  let authTag := hexToBytes encrypted.authTag
  let seed ← orError (subtleDecrypt crypto iv key (ciphertext ++ authTag)) .refused
  let wallet ← webRecoverStealthWallet crypto seed
  require (wallet.publicKey = encrypted.publicKey) SeedError.otherPublicKey
  .ok wallet

-- octora-api relayer/stealth-wallet.ts
def HKDF_SALT_V2 : List UInt8 := utf8 "octora-stealth-salt-v2".toList
def HKDF_INFO_V2 : List UInt8 := utf8 "octora.stealth.seed.v2".toList
def HKDF_SALT_V3 : List UInt8 := utf8 "octora-stealth-salt-v3".toList
def HKDF_INFO_V3_PREFIX : List UInt8 := utf8 "octora.stealth.seed.v3:".toList

def deriveAesKeyV2 (crypto : Crypto) (ikm : List UInt8) : Except SeedError (Bytes 32) := do
  require (ikm.length ≠ 0) SeedError.emptyMaterial
  .ok (crypto.hkdf ikm HKDF_SALT_V2 HKDF_INFO_V2)

def deriveAesKeyV3 (crypto : Crypto) (ikm nonce : List UInt8) : Except SeedError (Bytes 32) := do
  require (ikm.length ≠ 0) SeedError.emptyMaterial
  require (nonce.length ≠ 0) SeedError.emptyNonce
  .ok (crypto.hkdf ikm HKDF_SALT_V3 (HKDF_INFO_V3_PREFIX ++ nonce))

-- `Buffer.from(text,"hex")` stops at the first pair that is not hexadecimal.
def bufferFromHex : Text → List UInt8
  | high :: low :: rest =>
    match digitOf 16 high,digitOf 16 low with
    | some h,some l => UInt8.ofNat (16 * h + l) :: bufferFromHex rest
    | _,_ => []
  | _ => []

def apiKey (crypto : Crypto) (encrypted : EncryptedSeed) (encryptionKey : List UInt8) : Except SeedError (Bytes 32) :=
  let version := encrypted.version.getD 1
  if version = 1 then orError (sized 32 (encryptionKey.take 32)) .refused
  else if version = 2 then deriveAesKeyV2 crypto encryptionKey
  else if version = 3 then
    match encrypted.nonce with
    | none | some [] => .error .missingNonce
    | some nonce => deriveAesKeyV3 crypto encryptionKey (bufferFromHex nonce)
  else .error (.unsupportedVersion (some version))

def apiDecryptSeed (crypto : Crypto) (encrypted : EncryptedSeed) (encryptionKey : List UInt8) :
    Except SeedError (StealthWallet crypto) := do
  require (¬encryptionKey.length < 32) SeedError.keyTooShort
  let key ← apiKey crypto encrypted encryptionKey
  let iv := bufferFromHex encrypted.iv
  let authTag := bufferFromHex encrypted.authTag
  let ciphertext := bufferFromHex encrypted.ciphertext
  let seed ← orError (crypto.decrypt key iv ciphertext authTag) .refused
  let wallet ← fromSeed crypto seed
  require (wallet.publicKey = encrypted.publicKey) SeedError.otherPublicKey
  .ok wallet

theorem fromSeed_ok : fromSeed crypto seed = .ok wallet ↔ wallet.seed.toList = seed := by
  unfold fromSeed sized
  constructor
  · intro built
    split at built
    · cases built
      rfl
    · cases built
  · rintro rfl
    rw [dif_pos wallet.seed.toList_length]
    exact congrArg Except.ok (wallet_ext rfl)

theorem webRecover_ok : webRecoverStealthWallet crypto seed = .ok wallet ↔ wallet.seed.toList = seed := by
  rw [webRecoverStealthWallet]
  simp only [do_ok,require_ok,fromSeed_ok]
  constructor
  · rintro ⟨_,_,equal⟩
    exact equal
  · rintro rfl
    exact ⟨(),wallet.seed.toList_length,rfl⟩

theorem webKey_ok : webDeriveAesKey crypto ikm = .ok key ↔ ikm ≠ [] ∧ key = crypto.hkdf ikm HKDF_SALT HKDF_INFO := by
  rw [webDeriveAesKey]
  simp only [do_ok,require_ok,Except.ok.injEq,ne_eq,List.length_eq_zero_iff]
  constructor
  · rintro ⟨_,solid,equal⟩
    exact ⟨solid,equal.symm⟩
  · rintro ⟨solid,equal⟩
    exact ⟨(),solid,equal.symm⟩

theorem long_solid {encryptionKey : List UInt8} (long : 32 ≤ encryptionKey.length) : encryptionKey ≠ [] := by
  intro empty
  rw [empty] at long
  exact absurd long (by decide)

theorem webDecrypt_ok : webDecryptSeed crypto encrypted encryptionKey = .ok wallet ↔
    32 ≤ encryptionKey.length ∧ encrypted.version = some 2 ∧
    subtleDecrypt crypto (hexToBytes encrypted.iv) (crypto.hkdf encryptionKey HKDF_SALT HKDF_INFO)
      (hexToBytes encrypted.ciphertext ++ hexToBytes encrypted.authTag) = some wallet.seed.toList ∧
    wallet.publicKey = encrypted.publicKey := by
  unfold webDecryptSeed
  simp only [do_ok,require_ok,webKey_ok,orError_ok,webRecover_ok,Except.ok.injEq]
  constructor
  · rintro ⟨_,long,_,version,_,⟨_,rfl⟩,seed,opened,wallet,rfl,_,same,rfl⟩
    exact ⟨Nat.le_of_not_lt long,version,opened,same⟩
  · rintro ⟨long,version,opened,same⟩
    exact ⟨(),Nat.not_lt.mpr long,(),version,_,⟨long_solid long,rfl⟩,_,opened,wallet,rfl,(),same,rfl⟩

theorem apiDecrypt_ok : apiDecryptSeed crypto encrypted encryptionKey = .ok wallet ↔
    32 ≤ encryptionKey.length ∧ ∃ key, apiKey crypto encrypted encryptionKey = .ok key ∧
      crypto.decrypt key (bufferFromHex encrypted.iv) (bufferFromHex encrypted.ciphertext)
        (bufferFromHex encrypted.authTag) = some wallet.seed.toList ∧
      wallet.publicKey = encrypted.publicKey := by
  unfold apiDecryptSeed
  simp only [do_ok,require_ok,orError_ok,fromSeed_ok,Except.ok.injEq]
  constructor
  · rintro ⟨_,long,key,derived,seed,opened,wallet,rfl,_,same,rfl⟩
    exact ⟨Nat.le_of_not_lt long,key,derived,opened,same⟩
  · rintro ⟨long,key,derived,opened,same⟩
    exact ⟨(),Nat.not_lt.mpr long,key,derived,_,opened,wallet,rfl,(),same,rfl⟩

-- Decryption on either side.
inductive Decrypts (crypto : Crypto) (encrypted : EncryptedSeed) (encryptionKey : List UInt8) (wallet : StealthWallet crypto) :
    Prop where
  | web (done : webDecryptSeed crypto encrypted encryptionKey = .ok wallet)
  | api (done : apiDecryptSeed crypto encrypted encryptionKey = .ok wallet)

theorem decrypts_held (ideal : Ideal crypto sealed) (done : Decrypts crypto encrypted encryptionKey wallet) :
    Held sealed wallet.seed ∧ wallet.publicKey = encrypted.publicKey := by
  cases done with
  | web done =>
    obtain ⟨_,_,opened,same⟩ := webDecrypt_ok.mp done
    unfold subtleDecrypt at opened
    split at opened
    · cases opened
    · exact ⟨⟨_,_,(ideal.authentic _ _ _ _ _ opened).1⟩,same⟩
  | api done =>
    obtain ⟨_,key,_,opened,same⟩ := apiDecrypt_ok.mp done
    exact ⟨⟨_,_,(ideal.authentic _ _ _ _ _ opened).1⟩,same⟩

-- No two seeds that were ever encrypted have one address.
def Distinct (crypto : Crypto) (sealed : Bytes 32 → List UInt8 → List UInt8 → Prop) : Prop :=
  ∀ one two, Held sealed one → Held sealed two → crypto.address one = crypto.address two → one = two

theorem decrypts_same (ideal : Ideal crypto sealed) (distinct : Distinct crypto sealed)
    (done : Decrypts crypto encrypted encryptionKey wallet) (also : Decrypts crypto modified other result)
    (kept : modified.publicKey = encrypted.publicKey) : result = wallet := by
  obtain ⟨held,same⟩ := decrypts_held ideal done
  obtain ⟨held',same'⟩ := decrypts_held ideal also
  apply wallet_ext
  apply distinct _ _ held' held
  rw [← result.derived,← wallet.derived,same,same',kept]

theorem publicKey_only (web : webDecryptSeed crypto encrypted encryptionKey = .ok wallet ∨ encrypted.version = some 3)
    (api : apiDecryptSeed crypto encrypted encryptionKey = .ok wallet)
    (also : Decrypts crypto { encrypted with publicKey := publicKey } encryptionKey other) : other = wallet := by
  cases also with
  | web done =>
    obtain ⟨_,version,opened,_⟩ := webDecrypt_ok.mp done
    rcases web with web | third
    · obtain ⟨_,_,original,_⟩ := webDecrypt_ok.mp web
      apply wallet_ext
      apply List.Vector.eq
      exact Option.some.inj (opened.symm.trans original)
    · have other : ¬(3 : ℚ) = 2 := by decide
      exact absurd (Option.some.inj (third.symm.trans version)) other
  | api done =>
    obtain ⟨_,key,derived,opened,_⟩ := apiDecrypt_ok.mp done
    obtain ⟨_,key',derived',original,_⟩ := apiDecrypt_ok.mp api
    cases Except.ok.inj (derived.symm.trans derived')
    apply wallet_ext
    apply List.Vector.eq
    exact Option.some.inj (opened.symm.trans original)

-- What a changed blob can still give, on either side and under any key material.
structure Guarded (crypto : Crypto) (sealed : Bytes 32 → List UInt8 → List UInt8 → Prop) (blob : EncryptedSeed)
    (encryptionKey : List UInt8) (wallet : StealthWallet crypto) : Prop where
  keptAddress : ∀ modified material other, modified.publicKey = blob.publicKey →
    Decrypts crypto modified material other → other = wallet
  changedAddress : ∀ publicKey other, publicKey ≠ blob.publicKey →
    ¬Decrypts crypto { blob with publicKey := publicKey } encryptionKey other
  genuine : ∀ modified material other, Decrypts crypto modified material other →
    other.publicKey = modified.publicKey ∧ Held sealed other.seed

theorem guarded (ideal : Ideal crypto sealed) (distinct : Distinct crypto sealed)
    (named : blob.publicKey = wallet.publicKey)
    (web : webDecryptSeed crypto blob encryptionKey = .ok wallet ∨ blob.version = some 3)
    (api : apiDecryptSeed crypto blob encryptionKey = .ok wallet) :
    Guarded crypto sealed blob encryptionKey wallet where
  keptAddress _ _ _ kept done := decrypts_same ideal distinct (.api api) done kept
  changedAddress publicKey other changed done := by
    have same := publicKey_only web api done
    have carried := (decrypts_held ideal done).2
    rw [same,← named] at carried
    exact changed carried.symm
  genuine _ _ _ done := ⟨(decrypts_held ideal done).2,(decrypts_held ideal done).1⟩

-- One seed encrypted once by each side, with the values of the real functions; any
-- other plaintext is left as it is under a tag of zeros.
def sampleSeed : Bytes 32 := ⟨List.replicate 32 7,rfl⟩
def sampleMaterial : List UInt8 := List.replicate 64 9
def sampleIv : Bytes 12 := ⟨List.replicate 12 3,rfl⟩
def sampleNonce : Bytes 16 := ⟨List.replicate 16 5,rfl⟩
def sampleAddress : Text := "GmaDrppBC7P5ARKV8g3djiwP89vz1jLK23V2GBjuAEGB".toList
def sampleKeyV2 : Bytes 32 :=
  .ofNat 32 7600478010170250785803422503854004161976471514699000290452287958924742622802
def sampleKeyV3 : Bytes 32 :=
  .ofNat 32 96215514493997340338979191625027203502692481887911672909748596041471981137389
def sampleCipherV2 : List UInt8 × Bytes 16 :=
  ((Bytes.ofNat 32 50833967033410705891785620020659772022678521069709038501763026930535783579696).toList,
    .ofNat 16 98968909764368272402731178988286717630)
def sampleCipherV3 : List UInt8 × Bytes 16 :=
  ((Bytes.ofNat 32 71270717570893922165466730347006994840218754521265172187706363951902347359618).toList,
    .ofNat 16 289134075949291062097438271116255542990)

def sampleEncrypt (key : Bytes 32) (iv plain : List UInt8) : List UInt8 × Bytes 16 :=
  if iv = sampleIv.toList ∧ plain = sampleSeed.toList ∧ key = sampleKeyV2 then sampleCipherV2
  else if iv = sampleIv.toList ∧ plain = sampleSeed.toList ∧ key = sampleKeyV3 then sampleCipherV3
  else (plain,.ofNat 16 0)

def sampleDecrypt (key : Bytes 32) (iv cipher tag : List UInt8) : Option (List UInt8) :=
  let written := fun plain => (sampleEncrypt key iv plain).1 = cipher ∧ (sampleEncrypt key iv plain).2.toList = tag
  if written sampleSeed.toList then some sampleSeed.toList else if written cipher then some cipher else none

def sampleCrypto : Crypto where
  encrypt := sampleEncrypt
  decrypt := sampleDecrypt
  hkdf ikm salt info :=
    if ikm = sampleMaterial ∧ salt = HKDF_SALT ∧ info = HKDF_INFO then sampleKeyV2
    else if ikm = sampleMaterial ∧ salt = HKDF_SALT_V3 ∧ info = HKDF_INFO_V3_PREFIX ++ sampleNonce.toList then sampleKeyV3
    else .ofNat 32 0
  address seed := if seed = sampleSeed then sampleAddress else hexText seed.toList

theorem sampleEncrypt_plain (other : plain ≠ sampleSeed.toList) : sampleEncrypt key iv plain = (plain,.ofNat 16 0) := by
  rw [sampleEncrypt,if_neg (fun wrong => other wrong.2.1),if_neg (fun wrong => other wrong.2.1)]

theorem sampleEncrypt_seed (same : sampleEncrypt key iv sampleSeed.toList = (plain,.ofNat 16 0)) :
    plain = sampleSeed.toList := by
  have first : sampleCipherV2.2 ≠ .ofNat 16 0 := by decide
  have second : sampleCipherV3.2 ≠ .ofNat 16 0 := by decide
  unfold sampleEncrypt at same
  split at same
  · exact absurd (congrArg Prod.snd same) first
  · split at same
    · exact absurd (congrArg Prod.snd same) second
    · exact (congrArg Prod.fst same).symm

theorem sample_ideal : Ideal sampleCrypto fun _ _ _ => True where
  correct key iv plain _ := by
    change sampleDecrypt key iv (sampleEncrypt key iv plain).1 (sampleEncrypt key iv plain).2.toList = some plain
    by_cases known : plain = sampleSeed.toList
    · rw [known,sampleDecrypt,if_pos ⟨rfl,rfl⟩]
    · have written : sampleEncrypt key iv plain = (plain,.ofNat 16 0) := sampleEncrypt_plain known
      rw [sampleDecrypt,if_neg,if_pos,written]
      · rw [written]
        exact ⟨congrArg Prod.fst written,congrArg (·.2.toList) written⟩
      · rintro ⟨one,two⟩
        have same := Prod.ext one (List.Vector.eq _ _ two)
        rw [written] at same
        exact known (sampleEncrypt_seed same)
  authentic key iv cipher tag plain opened := by
    change sampleDecrypt key iv cipher tag = some plain at opened
    simp only [sampleDecrypt] at opened
    split at opened
    · rename_i found
      cases opened
      exact ⟨trivial,found.1.symm,found.2 ▸ List.prefix_rfl⟩
    · split at opened
      · rename_i found
        cases opened
        exact ⟨trivial,found.1.symm,found.2 ▸ List.prefix_rfl⟩
      · cases opened

def sampleWallet : StealthWallet sampleCrypto := ⟨sampleAddress,sampleSeed,rfl⟩

end Octora.SeedBlob
