import Mathlib.Algebra.Field.Rat
import Mathlib.Algebra.Order.Ring.Rat
import Octora.Library.BigIntText

namespace Octora.Positions
open BigIntText

abbrev Text := List Char

-- position-intent.ts
inductive ExecutionMode where
  | standard
  | fastPrivate
deriving DecidableEq

inductive PositionAction where
  | addLiquidity
  | claim
  | withdrawClose
deriving DecidableEq

inductive ExecutionState where
  | draft
  | awaiting_signature
  | funding_in_progress
  | executing_on_meteora
  | indexing
  | active
  | claiming
  | withdrawing
  | closing
  | completed
  | failed
deriving DecidableEq

inductive FailureStage where
  | signature
  | preFunding
  | fundingPartial
  | venueSubmission
  | venueConfirmation
  | indexingLag
  | recoveryRequired
deriving DecidableEq

-- execution-state-machine.ts
open ExecutionState in
def transitions : ExecutionState → List ExecutionState
  | draft => [awaiting_signature]
  | awaiting_signature => [funding_in_progress,failed]
  | funding_in_progress => [executing_on_meteora,failed]
  | executing_on_meteora => [indexing,failed]
  | indexing => [active,completed,failed]
  | active => [claiming,withdrawing,closing]
  | claiming => [indexing,completed,failed]
  | withdrawing => [closing,failed]
  | closing => [indexing,completed,failed]
  | completed => []
  | failed => []

def canTransition (source target : ExecutionState) : Bool := decide (target ∈ transitions source)

-- position.repository.ts
def TERMINAL_POSITION_STATES : List ExecutionState := [.completed,.failed]

-- recovery.ts
inductive RecoverySafeNextStep where
  | wait
  | retry
  | refresh
  | contactSupport
deriving DecidableEq

structure RecoveryGuidance where
  headline : Text
  safeNextStep : RecoverySafeNextStep
  terminal : Bool
deriving DecidableEq

def recoveryCatalog : FailureStage → RecoveryGuidance
  | .signature => ⟨"Signature is still needed".toList,.retry,false⟩
  | .preFunding => ⟨"Funding could not start".toList,.retry,true⟩
  | .fundingPartial => ⟨"Funding started, but did not finish cleanly".toList,.contactSupport,true⟩
  | .venueSubmission => ⟨"Meteora rejected the submission".toList,.retry,true⟩
  | .venueConfirmation => ⟨"Confirmation is still pending".toList,.wait,false⟩
  | .indexingLag => ⟨"Still waiting on the final snapshot".toList,.refresh,false⟩
  | .recoveryRequired => ⟨"Needs attention".toList,.contactSupport,true⟩

def getRecoveryGuidance (failureStage : Option FailureStage) : Option RecoveryGuidance :=
  failureStage.map recoveryCatalog

-- `createRecoveryService().resolveExecutionMode` without a fallback mode.
def resolveExecutionMode (selectedMode : ExecutionMode) : ExecutionMode := selectedMode

def splitAt (found : Char → Bool) (text : Text) : Text × Option Text :=
  (text.takeWhile fun c => !found c,(text.dropWhile fun c => !found c).tail?)

def signed (text : Text) : Bool × Text :=
  match text with
  | '-' :: rest => (true,rest)
  | '+' :: rest => (false,rest)
  | rest => (false,rest)

def exponent : Option Text → Option Int
  | none => some 0
  | some text => (readDigits 10 (signed text).2).map fun value =>
      if (signed text).1 then -(value : Int) else value

-- Digits with at most one point and at least one digit.
def mantissa (text : Text) : Option ℚ :=
  match splitAt (· == '.') text with
  | (whole,none) => (readDigits 10 whole).map fun value => (value : ℚ)
  | (whole,some fraction) =>
    (readDigits 10 (whole ++ fraction)).map fun value => (value : ℚ) / 10 ^ fraction.length

def decimalNumber (text : Text) : Option ℚ :=
  match splitAt (fun c => c == 'e' || c == 'E') (signed text).2 with
  | (digits,power) => (mantissa digits).bind fun value => (exponent power).map fun power =>
      (if (signed text).1 then -value else value) * (10 : ℚ) ^ power

-- JavaScript's `Number(text)` read exactly; `none` stands for NaN and the infinities.
def number (text : Text) : Option ℚ :=
  match trim text with
  | [] => some 0
  | '0' :: 'x' :: rest | '0' :: 'X' :: rest => (readDigits 16 rest).map fun value => (value : ℚ)
  | '0' :: 'o' :: rest | '0' :: 'O' :: rest => (readDigits 8 rest).map fun value => (value : ℚ)
  | '0' :: 'b' :: rest | '0' :: 'B' :: rest => (readDigits 2 rest).map fun value => (value : ℚ)
  | rest => decimalNumber rest

example : (number " 2.50".toList,number "1e-1".toList,number "0x10".toList,number ".".toList,number "Infinity".toList)
    = (some (5/2),some (1/10),some 16,none,none) := by decide +kernel

end Octora.Positions
