import Octora.Positions.Service

namespace Octora.Positions
open Calls Op

-- recovery-worker.ts, times in milliseconds.
def EXECUTING_STUCK_AFTER_MS : Int := 5 * 60 * 1000
def INDEXING_STUCK_AFTER_MS : Int := 2 * 60 * 1000
def SCAN_BATCH_LIMIT : Nat := 50

inductive VenueDecision where
  | confirmed
  | failed
  | pending
deriving DecidableEq

structure RecoveryTickResult where
  executingChecked : Nat
  executingAdvanced : Nat
  executingFailed : Nat
  indexingChecked : Nat
  indexingAdvanced : Nat
  failuresAlerted : Nat
deriving DecidableEq

def findStuckPositions (state : ExecutionState) (cutoff : Int) (limit : Nat) : Async (List PositionRow) :=
  ask (.findStuckPositions state cutoff limit)

def findRecentlyFailed (since : Int) (limit : Nat) : Async (List PositionRow) := ask (.findRecentlyFailed since limit)

def captureException (positionId : Option Text) : Async Unit := ask (.captureException positionId)

def checkVenueSignature (position : PositionRow) (now : Int) : Async VenueDecision := do
  let reconciliation ← ask (.load position.id)
  match signatureOf reconciliation with
  | none => pure (if EXECUTING_STUCK_AFTER_MS < now - position.updatedAt then .failed else .pending)
  | some signature =>
    let status : Option SignatureStatus ← ask (.getSignatureStatus signature)
    match status with
    | none => pure (if EXECUTING_STUCK_AFTER_MS * 2 < now - position.updatedAt then .failed else .pending)
    | some value =>
      if value.err then pure .failed
      else if value.confirmationStatus = some .confirmed ∨ value.confirmationStatus = some .finalized then
        pure .confirmed
      else pure .pending

def advanceTo (position : PositionRow) (target : ExecutionState) (headline : Text) : Async Unit := do
  let updated ← updatePositionState position.id target
  let _ ← updateExecutionSession position.id target none
  let _ ← record updated target headline .wait
  pure ()

def failPosition (position : PositionRow) (stage : FailureStage) : Async Unit := do
  let updated ← updatePositionState position.id .failed
  let _ ← updateExecutionSession position.id .failed (some stage)
  let _ ← record updated .failed "Recovery flagged position as failed".toList .contactSupport
  pure ()

-- The errors of one position are logged and end with it.
def logged (result : RecoveryTickResult) (round : Async RecoveryTickResult) : Async RecoveryTickResult := do
  match ← attempt round with
  | .ok counted => pure counted
  | .error _ => pure result

def checkExecuting (now : Int) (result : RecoveryTickResult) (position : PositionRow) : Async RecoveryTickResult :=
  logged result do
    match ← checkVenueSignature position now with
    | .confirmed =>
      advanceTo position .indexing "Recovered position into indexing".toList
      pure { result with executingAdvanced := result.executingAdvanced + 1 }
    | .failed =>
      failPosition position .venueConfirmation
      pure { result with executingFailed := result.executingFailed + 1 }
    | .pending => pure result

def checkIndexing (result : RecoveryTickResult) (position : PositionRow) : Async RecoveryTickResult :=
  logged result do
    if (← reconcile position.id) = .active then
      advanceTo position .active "Recovered position into active".toList
      pure { result with indexingAdvanced := result.indexingAdvanced + 1 }
    else pure result

def alert (result : RecoveryTickResult) (failure : PositionRow) : Async RecoveryTickResult := do
  captureException (some failure.id)
  pure { result with failuresAlerted := result.failuresAlerted + 1 }

def aborted (result : RecoveryTickResult) : Async RecoveryTickResult := do
  captureException none
  pure result

def scanFailures (now : Int) (result : RecoveryTickResult) : Async RecoveryTickResult := do
  let lastFailureScan : Int ← ask .lastFailureScan
  match ← attempt (findRecentlyFailed lastFailureScan SCAN_BATCH_LIMIT) with
  | .error _ => aborted result
  | .ok newFailures =>
    let alerted ← each alert newFailures result
    ask (.scannedFailures now)
    pure alerted

def tick (now : Int) : Async RecoveryTickResult := do
  match ← attempt (findStuckPositions .executing_on_meteora (now - EXECUTING_STUCK_AFTER_MS) SCAN_BATCH_LIMIT) with
  | .error _ => aborted ⟨0,0,0,0,0,0⟩
  | .ok stuckExecuting =>
    let result ← each (checkExecuting now) stuckExecuting ⟨stuckExecuting.length,0,0,0,0,0⟩
    match ← attempt (findStuckPositions .indexing (now - INDEXING_STUCK_AFTER_MS) SCAN_BATCH_LIMIT) with
    | .error _ => aborted result
    | .ok stuckIndexing =>
      let result ← each checkIndexing stuckIndexing { result with indexingChecked := stuckIndexing.length }
      scanFailures now result

end Octora.Positions
