import Octora.Api.MixerService
import Octora.Mixer.Payout
import Octora.Common.SolanaTx

namespace Octora.Relayer
open BigEndian BigIntText Fallible SolanaTx

-- types.ts, the fields the withdrawal pipeline reads.
structure RelayerConfig where
  poolDenomination : Int
  minFeeLamports : Int
  privacyDelayMs : Option Int

def SLOT_DURATION_MS : Int := 400

-- `Math.max(0, Math.ceil(privacyDelayMs / SLOT_DURATION_MS))`
def RelayerConfig.privacyDelaySlots (config : RelayerConfig) : Int :=
  max 0 (-(-(config.privacyDelayMs.getD 13000) / SLOT_DURATION_MS))

-- One service of the registry. `client` is the hot wallet once `initializeClient`
-- has run; the two flags say whether the constructor was given a repository and
-- a slot provider.
structure RelayerService where
  config : RelayerConfig
  client : Option Pubkey
  mixerPoolPDA : Pubkey
  rootSeenRepo : Bool
  slotProvider : Bool

-- What a rejected promise carries.
inductive Thrown where
  | notInitialized
  | poolMissing (pool : Pubkey) (denomination : Int)
  | conversion
  | message (text : Text)
  deriving DecidableEq

inductive Refusal where
  | otherRelayer
  | feeNotInteger (fee : Text)
  | feeTooLow (fee minimum : Int)
  | alreadySpent
  | signalMismatch (reason : ParityReason)
  | privacyDelay (elapsedSlots waitSlots : Int)
  | verificationError (message : Text)
  | invalidProof
  | submissionFailed (reason : Thrown)
  deriving DecidableEq

structure WithdrawResult where
  success : Bool
  txSignature : Option Text
  nullifierHash : Text
  recipient : Text
  amountLamports : Text
  feeLamports : Text
  error : Option Refusal
  deriving DecidableEq

abbrev Settled := Except Thrown WithdrawResult

-- What the backend is run with: the program's chain, web3.js keys, the proof
-- verifier of the vault module (an error is an exception), the wallet's signature.
structure Backend where
  runtime : Runtime
  publicKey : Text → Option Pubkey
  toBase58 : Pubkey → Text
  verifyWithdrawProof : Groth16Proof → List Text → Except Text Bool
  signature : Tx WithdrawRequest → Text

def failure (request : Request) (error : Refusal) : WithdrawResult where
  success := false
  txSignature := none
  nullifierHash := request.nullifierHash
  recipient := request.recipient
  amountLamports := ['0']
  feeLamports := request.fee
  error := some error

def guardRequest (backend : Backend) (service : RelayerService) (request : Request) : Option WithdrawResult :=
  if ∃ ours ∈ service.client, request.relayer ≠ backend.toBase58 ours then some (failure request .otherRelayer)
  else
    match bigInt request.fee with
    | none => some (failure request (.feeNotInteger request.fee))
    | some feeLamports =>
      if feeLamports < service.config.minFeeLamports then
        some (failure request (.feeTooLow feeLamports service.config.minFeeLamports))
      else none

inductive Delay where
  | ok
  | wait (elapsedSlots waitSlots : Int)
  deriving DecidableEq

-- A negative delta counts as zero.
def delayAt (service : RelayerService) (currentSlot firstSeenSlot : Int) : Delay :=
  let deltaBigInt := currentSlot - firstSeenSlot
  let delta := if deltaBigInt < 0 then 0 else deltaBigInt
  if delta < service.config.privacyDelaySlots then .wait delta (service.config.privacyDelaySlots - delta) else .ok

theorem delayAt_ok {service : RelayerService} : delayAt service currentSlot first = .ok ↔
    service.config.privacyDelaySlots ≤ max 0 (currentSlot - first) := by
  unfold delayAt
  dsimp only
  split <;> split <;> simp <;> omega

-- The delay is enabled, there is a repository and there is a slot source.
def RelayerService.gated (service : RelayerService) : Prop :=
  0 < service.config.privacyDelaySlots ∧ service.rootSeenRepo = true ∧
    (service.slotProvider = true ∨ service.client.isSome = true)

instance (service : RelayerService) : Decidable service.gated := inferInstanceAs (Decidable (_ ∧ _ ∧ _))

-- What one call reads on its way, in the order it reads it.
structure Reads where
  spent : Except Thrown Bool
  currentSlot : Except Thrown Int
  firstSeenSlot : Except Thrown Int
  submission : Except Thrown Text

def checkPrivacyDelay (service : RelayerService) (reads : Reads) : Except Thrown Delay :=
  if service.gated then do
    let currentSlot ← reads.currentSlot
    let firstSeenSlot ← reads.firstSeenSlot
    .ok (delayAt service currentSlot firstSeenSlot)
  else .ok .ok

-- The fee was parsed by the guard, so the subtraction cannot throw there.
def succeed (service : RelayerService) (request : Request) (txSignature : Text) : Settled :=
  match bigInt request.fee with
  | none => .error .conversion
  | some fee => .ok {
    success := true
    txSignature := some txSignature
    nullifierHash := request.nullifierHash
    recipient := request.recipient
    amountLamports := Api.integerText (service.config.poolDenomination - fee)
    feeLamports := request.fee
    error := none }

def doProcessWithdrawal (backend : Backend) (service : RelayerService) (reads : Reads) (request : Request) : Settled := do
  let alreadySpent ← reads.spent
  if alreadySpent then .ok (failure request .alreadySpent) else
  match checkPublicSignalsParity backend.runtime.poseidon backend.publicKey request with
  | .error reason => .ok (failure request (.signalMismatch reason))
  | .ok () =>
    match ← checkPrivacyDelay service reads with
    | .wait elapsedSlots waitSlots => .ok (failure request (.privacyDelay elapsedSlots waitSlots))
    | .ok =>
      match backend.verifyWithdrawProof request.proof request.publicSignals with
      | .error message => .ok (failure request (.verificationError message))
      | .ok false => .ok (failure request .invalidProof)
      | .ok true =>
        match reads.submission with
        | .error reason => .ok (failure request (.submissionFailed reason))
        | .ok txSignature => succeed service request txSignature

-- proof-converter.ts
def BN254_P : Int := 21888242871839275222246405745257275088696311157297823662689037894645226208583

def coordinate (texts : List Text) (i : Nat) : Option Int := texts[i]?.bind bigInt

def convertProofToBytes (proof : Groth16Proof) : Option (List UInt8) := do
  let piAx ← bigintToBeBytes (← coordinate proof.piA 0)
  let piAyNeg ← bigintToBeBytes (BN254_P - (← coordinate proof.piA 1))
  let piBx1 ← bigintToBeBytes (← coordinate (← proof.piB[0]?) 1)
  let piBx0 ← bigintToBeBytes (← coordinate (← proof.piB[0]?) 0)
  let piBy1 ← bigintToBeBytes (← coordinate (← proof.piB[1]?) 1)
  let piBy0 ← bigintToBeBytes (← coordinate (← proof.piB[1]?) 0)
  let piCx ← bigintToBeBytes (← coordinate proof.piC 0)
  let piCy ← bigintToBeBytes (← coordinate proof.piC 1)
  some (piAx ++ piAyNeg ++ piBx1 ++ piBx0 ++ piBy1 ++ piBy0 ++ piCx ++ piCy)

-- mixer.service.ts
def bigintToBytes32 (value : Int) : Option (Bytes 32) :=
  if value < 0 ∨ 2^256 ≤ value then none else some (Bytes.ofNat 32 value.toNat)

def sized (n : Nat) (bytes : List UInt8) : Option (Bytes n) :=
  if width : bytes.length = n then some ⟨bytes,width⟩ else none

def nullifierPDA (backend : Backend) (service : RelayerService) (nullifierHash : Text) : Option Pubkey := do
  let nullifierHashBuf ← bigintToBytes32 (← bigInt nullifierHash)
  some (nullifierAddress backend.runtime service.mixerPoolPDA nullifierHashBuf)

-- The instruction `submitWithdrawalTx` builds before it hands over to `submitConfirmed`.
def withdrawIx (backend : Backend) (service : RelayerService) (hotWallet : Pubkey) (request : Request) :
    Option WithdrawRequest := do
  let proofBytes ← sized PROOF_SIZE (← convertProofToBytes request.proof)
  let publicInputsBytes ← sized PUBLIC_INPUTS_SIZE (← convertPublicInputsToBytes request.publicSignals)
  let nullifierKey ← nullifierPDA backend service request.nullifierHash
  let recipientKey ← backend.publicKey request.recipient
  some ⟨⟨hotWallet,service.mixerPoolPDA,nullifierKey,recipientKey,hotWallet⟩,proofBytes,publicInputsBytes⟩

-- Where one `doProcessWithdrawal` waits. The settled stage is its promise.
inductive Stage where
  | isSpent
  | getSlot
  | observe (currentSlot : Int)
  | getPool
  | submitting (withdraw : WithdrawRequest) (submit : Submit WithdrawRequest)
  | diagnose (message : Text)
  | settled (result : Settled)

section Continuations
variable (backend : Backend) (service : RelayerService) (request : Request)

def afterSubmission : Except Thrown Text → Stage
  | .error reason => .settled (.ok (failure request (.submissionFailed reason)))
  | .ok txSignature => .settled (succeed service request txSignature)

-- The catch of `submitWithdrawalTx`.
def rethrow (message : Text) : Stage :=
  if includes "RootNotFound".toList message || includes "6003".toList message then .diagnose message
  else afterSubmission service request (.error (.message message))

-- `submitConfirmed` goes on, or its promise settles.
def afterSubmit (withdraw : WithdrawRequest) : Submit WithdrawRequest → Stage
  | .done (.ok txSignature) => afterSubmission service request (.ok txSignature)
  | .done (.error message) => rethrow service request message
  | submit => .submitting withdraw submit

def afterPool : Except Text Bool → Stage
  | .error message => afterSubmission service request (.error (.message message))
  | .ok false =>
    afterSubmission service request (.error (.poolMissing service.mixerPoolPDA service.config.poolDenomination))
  | .ok true =>
    match service.client.bind fun hotWallet => withdrawIx backend service hotWallet request with
    | none => afterSubmission service request (.error .conversion)
    | some withdraw => afterSubmit service request withdraw (beginSubmit DEFAULT_MAX_ATTEMPTS)

def afterDelay : Delay → Stage
  | .wait elapsedSlots waitSlots => .settled (.ok (failure request (.privacyDelay elapsedSlots waitSlots)))
  | .ok =>
    match backend.verifyWithdrawProof request.proof request.publicSignals with
    | .error message => .settled (.ok (failure request (.verificationError message)))
    | .ok false => .settled (.ok (failure request .invalidProof))
    | .ok true =>
      if service.client.isSome then .getPool else afterSubmission service request (.error .notInitialized)

def afterSpent : Except Thrown Bool → Stage
  | .error reason => .settled (.error reason)
  | .ok true => .settled (.ok (failure request .alreadySpent))
  | .ok false =>
    match checkPublicSignalsParity backend.runtime.poseidon backend.publicKey request with
    | .error reason => .settled (.ok (failure request (.signalMismatch reason)))
    | .ok () => if service.gated then .getSlot else afterDelay backend service request .ok

def afterSlot : Except Text Int → Stage
  | .error message => .settled (.error (.message message))
  | .ok currentSlot => .observe currentSlot

def afterObserve (currentSlot : Int) : Except Text Int → Stage
  | .error message => .settled (.error (.message message))
  | .ok firstSeenSlot => afterDelay backend service request (delayAt service currentSlot firstSeenSlot)

end Continuations

def sampleBackend : Backend where
  runtime := sampleRuntime
  publicKey := samplePublicKey
  toBase58 key := if key = sampleRelayer then sampleRelayerText else []
  verifyWithdrawProof _ _ := .ok true
  signature tx := tx.blockhash

def sampleService : RelayerService where
  config := ⟨1000000000,5000,none⟩
  client := some sampleRelayer
  mixerPoolPDA := samplePool
  rootSeenRepo := true
  slotProvider := false

-- The sample withdrawal as a client posts it; its proof packs to zero bytes.
def sampleProof : Groth16Proof where
  piA := [['0'],decimal BN254_P.toNat]
  piB := [[['0'],['0']],[['0'],['0']]]
  piC := [['0'],['0']]

def sampleRequestWith (nullifierHash : Text) : Request where
  proof := sampleProof
  publicSignals := printedSignals sampleValues
  root := decimal (sampleValues 0)
  nullifierHash := nullifierHash
  recipient := sampleRecipientText
  relayer := sampleRelayerText
  fee := decimal (sampleValues 4)

def sampleRequest : Request := sampleRequestWith (decimal (sampleValues 1))

theorem sampleRequest_parity (reads : bigInt text = some (sampleValues 1 : Int)) :
    checkPublicSignalsParity tablePoseidon samplePublicKey (sampleRequestWith text) = .ok () := by
  have accepted := parity_accepts tablePoseidon samplePublicKey sampleValues
    (by decide : samplePublicKey sampleRecipientText = some sampleRecipient)
    (by decide : samplePublicKey sampleRelayerText = some sampleRelayer)
    (sampleKey_hash (by decide) (by decide))
    (sampleKey_hash (by decide) (by decide)) sampleProof
  rw [← accepted]
  unfold checkPublicSignalsParity
  simp only [sampleRequestWith,parse,reads,bigInt_decimal]

theorem sampleRequest_guarded (text : Text) : guardRequest sampleBackend sampleService (sampleRequestWith text) = none := by
  have fee : bigInt (decimal (sampleValues 4)) = some (sampleValues 4 : Int) := bigInt_decimal _
  have ours : ¬∃ ours ∈ sampleService.client, (sampleRequestWith text).relayer ≠ sampleBackend.toBase58 ours := by
    simp [sampleService,sampleRequestWith,sampleBackend]
  rw [guardRequest,if_neg ours]
  simp only [sampleRequestWith,fee]
  rw [if_neg (by decide)]

end Octora.Relayer
