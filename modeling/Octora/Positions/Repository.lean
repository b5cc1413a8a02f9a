import Mathlib.Data.List.MinMax
import Octora.Library.Calls
import Octora.Positions.Domain

namespace Octora.Positions
open Calls

structure PositionRow where
  id : Text
  intentId : Text
  walletAddress : Text
  action : PositionAction
  mode : ExecutionMode
  state : ExecutionState
  poolSlug : Text
  amount : Text
  createdAt : Int
  updatedAt : Int
deriving DecidableEq

structure ExecutionSessionRow where
  id : Text
  positionId : Text
  state : ExecutionState
  failureStage : Option FailureStage
  createdAt : Int
  updatedAt : Int
deriving DecidableEq

structure ActivityRow where
  positionId : Text
  action : PositionAction
  state : ExecutionState
  headline : Text
  safeNextStep : RecoverySafeNextStep
  createdAt : Int
deriving DecidableEq

structure CreatePositionInput where
  id : Text
  intentId : Text
  walletAddress : Text
  action : PositionAction
  mode : ExecutionMode
  state : ExecutionState
  poolSlug : Text
  amount : Text
deriving DecidableEq

structure CreateSessionInput where
  id : Text
  positionId : Text
  state : ExecutionState
  failureStage : Option FailureStage
deriving DecidableEq

structure CreateActivityInput where
  positionId : Text
  action : PositionAction
  state : ExecutionState
  headline : Text
  safeNextStep : RecoverySafeNextStep
deriving DecidableEq

structure PositionReconciliationRecord where
  positionId : Text
  signature : Option Text
deriving DecidableEq

-- privacy-adapter.ts and meteora-executor.ts
structure PrepareFundingInput where
  positionId : Text
  intentId : Text
  poolSlug : Text
  amount : Text
  mode : ExecutionMode
deriving DecidableEq

structure PrepareExitInput where
  positionId : Text
  intentId : Text
  mode : ExecutionMode
deriving DecidableEq

structure PrivacyReceipt where
  podId : Option Text

structure AddLiquidityInput where
  podId : Text
  amountSol : Text
deriving DecidableEq

structure VenueInput where
  podId : Text
  positionId : Text
deriving DecidableEq

structure MeteoraExecutionReceipt where
  signature : Text

inductive Commitment where
  | processed
  | confirmed
  | finalized
deriving DecidableEq

structure SignatureStatus where
  err : Bool
  confirmationStatus : Option Commitment

inductive Thrown where
  | walletRequired
  | betaCapExceeded
  | signedMessageRequired
  | positionNotFound (positionId : Text)
  | unsupportedPositionAction (action : PositionAction)
  | invalidTransition (source target : ExecutionState)
  | positionNotActive (positionId : Text)
  | sessionNotActive (positionId : Text)
  | sessionNotFound (positionId : Text)
  | database
  | outside (message : Text)
  | crashed
deriving DecidableEq

-- Everything the services await or read outside themselves. `saveUnawaited` is a
-- save whose promise nobody awaits, `countFirst` asks which of the two queries
-- under `Promise.all` runs first, and the failure scan's boundary is a variable
-- of the worker.
inductive Query where
  | createPosition (input : CreatePositionInput)
  | updatePositionState (positionId : Text) (state : ExecutionState)
  | getPositionById (positionId : Text)
  | createExecutionSession (input : CreateSessionInput)
  | updateExecutionSession (positionId : Text) (state : ExecutionState) (failureStage : Option FailureStage)
  | getLatestExecutionSession (positionId : Text)
  | countActiveByWallet (walletAddress : Text)
  | sumActiveAmountSol
  | countFirst
  | findStuckPositions (state : ExecutionState) (cutoff : Int) (limit : Nat)
  | findRecentlyFailed (since : Int) (limit : Nat)
  | createActivity (input : CreateActivityInput)
  | listActivities (positionId : Text)
  | load (positionId : Text)
  | clear (positionId : Text)
  | saveUnawaited (record : PositionReconciliationRecord)
  | prepareFunding (input : PrepareFundingInput)
  | prepareExit (input : PrepareExitInput)
  | addLiquidity (input : AddLiquidityInput)
  | claim (input : VenueInput)
  | withdrawClose (input : VenueInput)
  | getSignatureStatus (signature : Text)
  | lastFailureScan
  | scannedFailures (now : Int)
  | captureException (positionId : Option Text)
deriving DecidableEq

@[reducible] def Reply : Query → Type
  | .createPosition _ => PositionRow
  | .updatePositionState _ _ => PositionRow
  | .getPositionById _ => Option PositionRow
  | .createExecutionSession _ => ExecutionSessionRow
  | .updateExecutionSession _ _ _ => ExecutionSessionRow
  | .getLatestExecutionSession _ => Option ExecutionSessionRow
  | .countActiveByWallet _ => Nat
  | .sumActiveAmountSol => ℚ
  | .countFirst => Bool
  | .findStuckPositions _ _ _ => List PositionRow
  | .findRecentlyFailed _ _ => List PositionRow
  | .createActivity _ => ActivityRow
  | .listActivities _ => List ActivityRow
  | .load _ => Option PositionReconciliationRecord
  | .clear _ => Unit
  | .saveUnawaited _ => Unit
  | .prepareFunding _ => PrivacyReceipt
  | .prepareExit _ => PrivacyReceipt
  | .addLiquidity _ => MeteoraExecutionReceipt
  | .claim _ => MeteoraExecutionReceipt
  | .withdrawClose _ => MeteoraExecutionReceipt
  | .getSignatureStatus _ => Option SignatureStatus
  | .lastFailureScan => Int
  | .scannedFailures _ => Unit
  | .captureException _ => Unit

abbrev Async (α : Type) := Op Reply Thrown α

structure Database where
  positions : List PositionRow
  sessions : List ExecutionSessionRow
  activities : List ActivityRow
  reconciliation : Text → Option (Option Text)

def Database.position (database : Database) (positionId : Text) : Option PositionRow :=
  database.positions.find? fun row => decide (row.id = positionId)

-- Newest first; a position has one session unless it was created twice.
def Database.session (database : Database) (positionId : Text) : Option ExecutionSessionRow :=
  @List.argmax _ _ Int.instLinearOrder.toPreorder Int.decLt (fun row => row.createdAt)
    (database.sessions.filter fun row => decide (row.positionId = positionId))

def Database.setPosition (database : Database) (positionId : Text) (state : ExecutionState) (now : Int) : Database :=
  { database with
    positions := database.positions.map fun row =>
      if row.id = positionId then { row with state := state, updatedAt := now } else row }

def Database.setSession (database : Database) (sessionId : Text) (state : ExecutionState)
    (failureStage : Option FailureStage) (now : Int) : Database :=
  { database with
    sessions := database.sessions.map fun row =>
      if row.id = sessionId then { row with state := state, failureStage := failureStage, updatedAt := now } else row }

def Database.reconcile (database : Database) (positionId : Text) (record : Option (Option Text)) : Database :=
  { database with reconciliation := Function.update database.reconciliation positionId record }

def PositionRow.terminal (row : PositionRow) : Bool := decide (row.state ∈ TERMINAL_POSITION_STATES)

def Database.activePositions (database : Database) : List PositionRow :=
  database.positions.filter fun row => !row.terminal

def countActiveByWallet (database : Database) (walletAddress : Text) : Nat :=
  (database.activePositions.filter fun row => decide (row.walletAddress = walletAddress)).length

def sumActiveAmountSol (database : Database) : ℚ :=
  (database.activePositions.map fun row => (number row.amount).getD 0).sum

-- One page of a query that orders by `updatedAt`; rows of one time come in any order.
def Page (rows : List PositionRow) (before : Int → Int → Prop) (limit : Nat) (page : List PositionRow) : Prop :=
  ∃ ordered : List PositionRow, ordered.Perm rows ∧ ordered.Pairwise (fun one two => before one.updatedAt two.updatedAt) ∧
    page = ordered.take limit

def CreatePositionInput.row (input : CreatePositionInput) (now : Int) : PositionRow :=
  { id := input.id, intentId := input.intentId, walletAddress := input.walletAddress, action := input.action,
    mode := input.mode, state := input.state, poolSlug := input.poolSlug, amount := input.amount,
    createdAt := now, updatedAt := now }

def CreateSessionInput.row (input : CreateSessionInput) (now : Int) : ExecutionSessionRow :=
  { id := input.id, positionId := input.positionId, state := input.state, failureStage := input.failureStage,
    createdAt := now, updatedAt := now }

def CreateActivityInput.row (input : CreateActivityInput) (now : Int) : ActivityRow :=
  { positionId := input.positionId, action := input.action, state := input.state, headline := input.headline,
    safeNextStep := input.safeNextStep, createdAt := now }

-- One write of a state, with the state it replaced.
structure Change where
  positionId : Text
  source : ExecutionState
  target : ExecutionState
deriving DecidableEq

-- What the calls reach: the database, the saves under way, the clock of the
-- process and the worker's scan boundary. The changes are kept for the record.
structure Stores where
  database : Database
  unawaited : List PositionReconciliationRecord
  clock : Int
  lastFailureScan : Int
  positionChanges : List Change
  sessionChanges : List Change

def Stores.rows (stores : Stores) (database : Database) : Stores := { stores with database := database }

def Stores.movePosition (stores : Stores) (row : PositionRow) (state : ExecutionState) : Stores :=
  { stores with
    database := stores.database.setPosition row.id state stores.clock
    positionChanges := stores.positionChanges ++ [⟨row.id,row.state,state⟩] }

def Stores.moveSession (stores : Stores) (row : ExecutionSessionRow) (state : ExecutionState)
    (failureStage : Option FailureStage) : Stores :=
  { stores with
    database := stores.database.setSession row.id state failureStage stores.clock
    sessionChanges := stores.sessionChanges ++ [⟨row.positionId,row.state,state⟩] }

-- How a call is answered, and what it leaves behind. The privacy adapter, the
-- venue and the RPC may answer anything.
def Answers : (query : Query) → Stores → Except Thrown (Reply query) → Stores → Prop
  | .createPosition input,stores,answer,after =>
      if stores.database.positions.any (fun row => decide (row.id = input.id ∨ row.intentId = input.intentId)) then
        answer = .error .database ∧ after = stores
      else answer = .ok (input.row stores.clock) ∧
        after = stores.rows { stores.database with positions := stores.database.positions ++ [input.row stores.clock] }
  | .updatePositionState positionId state,stores,answer,after =>
      match stores.database.position positionId with
      | none => answer = .error .database ∧ after = stores
      | some row => answer = .ok { row with state := state, updatedAt := stores.clock } ∧
          after = stores.movePosition row state
  | .getPositionById positionId,stores,answer,after =>
      answer = .ok (stores.database.position positionId) ∧ after = stores
  | .createExecutionSession input,stores,answer,after =>
      if stores.database.sessions.any (fun row => decide (row.id = input.id)) then
        answer = .error .database ∧ after = stores
      else answer = .ok (input.row stores.clock) ∧
        after = stores.rows { stores.database with sessions := stores.database.sessions ++ [input.row stores.clock] }
  | .updateExecutionSession positionId state failureStage,stores,answer,after =>
      match stores.database.session positionId with
      | none => answer = .error (.sessionNotFound positionId) ∧ after = stores
      | some row =>
          answer = .ok { row with state := state, failureStage := failureStage, updatedAt := stores.clock } ∧
          after = stores.moveSession row state failureStage
  | .getLatestExecutionSession positionId,stores,answer,after =>
      answer = .ok (stores.database.session positionId) ∧ after = stores
  | .countActiveByWallet walletAddress,stores,answer,after =>
      answer = .ok (countActiveByWallet stores.database walletAddress) ∧ after = stores
  | .sumActiveAmountSol,stores,answer,after => answer = .ok (sumActiveAmountSol stores.database) ∧ after = stores
  | .countFirst,stores,answer,after => (∃ first, answer = .ok first) ∧ after = stores
  | .findStuckPositions state cutoff limit,stores,answer,after =>
      (∃ page, answer = .ok page ∧ after = stores ∧
        Page (stores.database.positions.filter fun row => decide (row.state = state ∧ row.updatedAt < cutoff))
          (· ≤ ·) limit page)
  | .findRecentlyFailed since limit,stores,answer,after =>
      (∃ page, answer = .ok page ∧ after = stores ∧
        Page (stores.database.positions.filter fun row => decide (row.state = .failed ∧ since ≤ row.updatedAt))
          (· ≥ ·) limit page)
  | .createActivity input,stores,answer,after =>
      answer = .ok (input.row stores.clock) ∧
        after = stores.rows { stores.database with activities := stores.database.activities ++ [input.row stores.clock] }
  | .listActivities positionId,stores,answer,after =>
      answer = .ok (stores.database.activities.filter fun row => decide (row.positionId = positionId)) ∧ after = stores
  | .load positionId,stores,answer,after =>
      answer = .ok ((stores.database.reconciliation positionId).map fun signature => ⟨positionId,signature⟩) ∧
        after = stores
  | .clear positionId,stores,answer,after =>
      answer = .ok () ∧ after = stores.rows (stores.database.reconcile positionId none)
  | .saveUnawaited record,stores,answer,after =>
      answer = .ok () ∧ after = { stores with unawaited := stores.unawaited ++ [record] }
  | .prepareFunding _,stores,_,after => after = stores
  | .prepareExit _,stores,_,after => after = stores
  | .addLiquidity _,stores,_,after => after = stores
  | .claim _,stores,_,after => after = stores
  | .withdrawClose _,stores,_,after => after = stores
  | .getSignatureStatus _,stores,_,after => after = stores
  | .lastFailureScan,stores,answer,after => answer = .ok stores.lastFailureScan ∧ after = stores
  | .scannedFailures now,stores,answer,after => answer = .ok () ∧ after = { stores with lastFailureScan := now }
  | .captureException _,stores,answer,after => answer = .ok () ∧ after = stores

-- The calls that are the process's own variables cannot fail.
def Query.inProcess : Query → Bool
  | .countFirst | .lastFailureScan | .scannedFailures _ | .captureException _ | .saveUnawaited _ => true
  | _ => false

-- A failed call answers an error, having done its work or nothing of it.
def Fails (query : Query) (stores : Stores) (answer : Except Thrown (Reply query)) (after : Stores) : Prop :=
  query.inProcess = false ∧ (∃ error, answer = .error error) ∧
    (after = stores ∨ ∃ lost, Answers query stores lost after)

end Octora.Positions
