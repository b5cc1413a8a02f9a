import Octora.Positions.Repository

namespace Octora.Positions
open Calls Op

def ask (query : Query) : Async (Reply query) := send query

-- position.repository.ts, activity.service.ts: one call each.
def createPosition (input : CreatePositionInput) : Async PositionRow := ask (.createPosition input)

def updatePositionState (positionId : Text) (state : ExecutionState) : Async PositionRow :=
  ask (.updatePositionState positionId state)

def getPositionById (positionId : Text) : Async (Option PositionRow) := ask (.getPositionById positionId)

def createExecutionSession (input : CreateSessionInput) : Async ExecutionSessionRow :=
  ask (.createExecutionSession input)

def updateExecutionSession (positionId : Text) (state : ExecutionState) (failureStage : Option FailureStage) :
    Async ExecutionSessionRow := ask (.updateExecutionSession positionId state failureStage)

def getLatestExecutionSession (positionId : Text) : Async (Option ExecutionSessionRow) :=
  ask (.getLatestExecutionSession positionId)

def record (position : PositionRow) (state : ExecutionState) (headline : Text)
    (safeNextStep : RecoverySafeNextStep) : Async ActivityRow :=
  ask (.createActivity
    { positionId := position.id, action := position.action, state := state, headline := headline,
      safeNextStep := safeNextStep })

def list (positionId : Text) : Async (List ActivityRow) := ask (.listActivities positionId)

-- privacy-adapter.ts and meteora-executor.ts
def prepareFunding (input : PrepareFundingInput) : Async PrivacyReceipt := ask (.prepareFunding input)

def prepareExit (input : PrepareExitInput) : Async PrivacyReceipt := ask (.prepareExit input)

def addLiquidity (input : AddLiquidityInput) : Async MeteoraExecutionReceipt := ask (.addLiquidity input)

def claim (input : VenueInput) : Async MeteoraExecutionReceipt := ask (.claim input)

def withdrawClose (input : VenueInput) : Async MeteoraExecutionReceipt := ask (.withdrawClose input)

-- indexer.service.ts. The caller awaits neither of the first two.
def beginReconciliation (positionId : Text) : Async Unit := ask (.saveUnawaited ⟨positionId,none⟩)

def registerSnapshot (positionId signature : Text) : Async Unit := ask (.saveUnawaited ⟨positionId,some signature⟩)

-- `!entry?.signature` holds of a missing row, of null and of the empty text.
def signatureOf (entry : Option PositionReconciliationRecord) : Option Text :=
  (entry.bind fun entry => entry.signature).filter fun signature => !signature.isEmpty

def reconcile (positionId : Text) : Async ExecutionState := do
  let entry ← ask (.load positionId)
  match signatureOf entry with
  | none => pure .indexing
  | some _ =>
    let _ ← ask (.clear positionId)
    pure .active

-- position.service.ts. Caps from the environment pass through `Number`; here they are finite,
-- and the count is a natural number.
structure BetaCapsConfig where
  maxPositionSol : ℚ
  maxGlobalTvlSol : ℚ
  maxPositionsPerWallet : Nat

structure CreateDraftPositionIntentInput where
  action : PositionAction
  amount : Text
  pool : Text
  mode : ExecutionMode
  walletAddress : Text

structure ExecuteSignedIntentInput where
  positionId : Text
  signedMessage : Text

-- What the response is rendered from.
structure PositionResponse where
  position : PositionRow
  session : ExecutionSessionRow
  activity : List ActivityRow

-- The three random ids of an intent.
structure IntentIds where
  positionId : Text
  intentId : Text
  sessionId : Text

def assertTransition (source target : ExecutionState) : Async Unit :=
  if canTransition source target then pure () else throws (.invalidTransition source target)

def fallbackGuidance : RecoveryGuidance := recoveryCatalog .recoveryRequired

def recordFailure (position : PositionRow) (failureStage : FailureStage) : Async PositionResponse := do
  let guidance := (getRecoveryGuidance (some failureStage)).getD fallbackGuidance
  let failedPosition ← updatePositionState position.id .failed
  let failedSession ← updateExecutionSession position.id .failed (some failureStage)
  let _ ← record failedPosition .failed guidance.headline guidance.safeNextStep
  pure ⟨failedPosition,failedSession,← list position.id⟩

-- `Promise.all` leaves open which query reaches the database first.
def countAndSum (walletAddress : Text) : Async (Nat × ℚ) := do
  if ← ask .countFirst then
    let walletCount ← ask (.countActiveByWallet walletAddress)
    let globalTvl ← ask .sumActiveAmountSol
    pure (walletCount,globalTvl)
  else
    let globalTvl ← ask .sumActiveAmountSol
    let walletCount ← ask (.countActiveByWallet walletAddress)
    pure (walletCount,globalTvl)

def assertBetaCaps (caps : BetaCapsConfig) (input : CreateDraftPositionIntentInput) : Async Unit :=
  match number input.amount with
  | none => throws .betaCapExceeded
  | some amountSol => do
    if amountSol ≤ 0 then throws .betaCapExceeded
    else if caps.maxPositionSol < amountSol then throws .betaCapExceeded
    else
      let (walletCount,globalTvl) ← countAndSum input.walletAddress
      if caps.maxPositionsPerWallet ≤ walletCount then throws .betaCapExceeded
      else if caps.maxGlobalTvlSol < globalTvl + amountSol then throws .betaCapExceeded
      else pure ()

def createDraftPositionIntent (caps : BetaCapsConfig) (ids : IntentIds) (input : CreateDraftPositionIntentInput) :
    Async PositionResponse := do
  if input.walletAddress.isEmpty then throws .walletRequired
  else
    assertBetaCaps caps input
    let position ← createPosition
      { id := ids.positionId, intentId := ids.intentId, walletAddress := input.walletAddress, action := input.action,
        mode := input.mode, state := .draft, poolSlug := input.pool, amount := input.amount }
    let session ← createExecutionSession
      { id := ids.sessionId, positionId := ids.positionId, state := .awaiting_signature, failureStage := none }
    let activity ← record position .awaiting_signature "Intent received".toList .wait
    pure ⟨position,session,[activity]⟩

def executeSignedIntent (input : ExecuteSignedIntentInput) : Async PositionResponse := do
  if input.signedMessage.isEmpty then throws .signedMessageRequired
  else match ← getPositionById input.positionId with
  | none => throws (.positionNotFound input.positionId)
  | some position => match ← getLatestExecutionSession input.positionId with
  | none => throws (.positionNotFound input.positionId)
  | some session =>
    if position.action ≠ .addLiquidity then throws (.unsupportedPositionAction position.action)
    else
      let executionMode := resolveExecutionMode position.mode
      assertTransition session.state .funding_in_progress
      let fundingSession ← updateExecutionSession input.positionId .funding_in_progress none
      let _ ← record position .funding_in_progress "Funding started".toList .wait
      match ← attempt (prepareFunding
        { positionId := position.id, intentId := position.intentId, poolSlug := position.poolSlug,
          amount := position.amount, mode := executionMode }) with
      | .error _ => recordFailure position .preFunding
      | .ok fundingReceipt =>
        assertTransition fundingSession.state .executing_on_meteora
        let executingSession ← updateExecutionSession input.positionId .executing_on_meteora none
        let _ ← record position .executing_on_meteora "Submitting to Meteora".toList .wait
        match ← attempt (addLiquidity
          { podId := fundingReceipt.podId.getD position.id, amountSol := position.amount }) with
        | .error _ => recordFailure position .fundingPartial
        | .ok venueReceipt =>
          assertTransition executingSession.state .indexing
          beginReconciliation position.id
          let indexingPosition ← updatePositionState input.positionId .indexing
          let indexingSession ← updateExecutionSession input.positionId .indexing none
          let _ ← record indexingPosition .indexing "Verifying final position state".toList .wait
          registerSnapshot position.id venueReceipt.signature
          pure ⟨indexingPosition,indexingSession,← list input.positionId⟩

def getActivePosition (positionId : Text) : Async PositionRow := do
  match ← getPositionById positionId with
  | none => throws (.positionNotFound positionId)
  | some position => if position.state ≠ .active then throws (.positionNotActive positionId) else pure position

def getLatestActiveSession (positionId : Text) : Async ExecutionSessionRow := do
  match ← getLatestExecutionSession positionId with
  | none => throws (.positionNotFound positionId)
  | some session => if session.state ≠ .active then throws (.sessionNotActive positionId) else pure session

def claimPosition (positionId : Text) : Async PositionResponse := do
  let position ← getActivePosition positionId
  let session ← getLatestActiveSession positionId
  let executionMode := resolveExecutionMode position.mode
  assertTransition session.state .claiming
  let claimingPosition ← updatePositionState position.id .claiming
  let claimingSession ← updateExecutionSession positionId .claiming none
  let _ ← record claimingPosition .claiming "Claiming fees".toList .wait
  match ← attempt (prepareExit
    { positionId := position.id, intentId := position.intentId, mode := executionMode }) with
  | .error _ => recordFailure position .venueSubmission
  | .ok exitReceipt =>
    match ← attempt (claim { podId := exitReceipt.podId.getD position.id, positionId := position.id }) with
    | .error _ => recordFailure position .venueConfirmation
    | .ok _ =>
      assertTransition claimingSession.state .indexing
      let indexingPosition ← updatePositionState position.id .indexing
      let indexingSession ← updateExecutionSession positionId .indexing none
      let _ ← record indexingPosition .indexing "Reconciling claim".toList .wait
      assertTransition indexingSession.state .completed
      let completedPosition ← updatePositionState position.id .completed
      let completedSession ← updateExecutionSession positionId .completed none
      let _ ← record completedPosition .completed "Claim completed".toList .wait
      pure ⟨completedPosition,completedSession,← list positionId⟩

def withdrawClosePosition (positionId : Text) : Async PositionResponse := do
  let position ← getActivePosition positionId
  let session ← getLatestActiveSession positionId
  let executionMode := resolveExecutionMode position.mode
  assertTransition session.state .withdrawing
  let withdrawingPosition ← updatePositionState position.id .withdrawing
  let withdrawingSession ← updateExecutionSession positionId .withdrawing none
  let _ ← record withdrawingPosition .withdrawing "Withdrawing liquidity".toList .wait
  match ← attempt (prepareExit
    { positionId := position.id, intentId := position.intentId, mode := executionMode }) with
  | .error _ => recordFailure position .venueSubmission
  | .ok exitReceipt =>
    match ← attempt (withdrawClose
      { podId := exitReceipt.podId.getD position.id, positionId := position.id }) with
    | .error _ => recordFailure position .venueConfirmation
    | .ok _ =>
      assertTransition withdrawingSession.state .closing
      let closingPosition ← updatePositionState position.id .closing
      let closingSession ← updateExecutionSession positionId .closing none
      let _ ← record closingPosition .closing "Closing position".toList .wait
      assertTransition closingSession.state .indexing
      let indexingPosition ← updatePositionState position.id .indexing
      let indexingSession ← updateExecutionSession positionId .indexing none
      let _ ← record indexingPosition .indexing "Reconciling exit".toList .wait
      assertTransition indexingSession.state .completed
      let completedPosition ← updatePositionState position.id .completed
      let completedSession ← updateExecutionSession positionId .completed none
      let _ ← record completedPosition .completed "Withdraw-close completed".toList .wait
      pure ⟨completedPosition,completedSession,← list positionId⟩

def EXECUTION_DELAYED : Text := "Execution delayed".toList

def getPosition (positionId : Text) : Async PositionResponse := do
  match ← getPositionById positionId with
  | none => throws (.positionNotFound positionId)
  | some position => match ← getLatestExecutionSession positionId with
  | none => throws (.positionNotFound positionId)
  | some session =>
    let activities ← list positionId
    if session.state ≠ .indexing then pure ⟨position,session,activities⟩
    else
      let reconciliation ← reconcile positionId
      if reconciliation = .active ∧ position.state ≠ .active then
        let activePosition ← updatePositionState positionId .active
        let activeSession ← updateExecutionSession positionId .active none
        let _ ← record activePosition .active "Position active".toList .wait
        pure ⟨activePosition,activeSession,← list positionId⟩
      else if (activities.getLast?.map ActivityRow.headline) ≠ some EXECUTION_DELAYED then
        let indexingRecovery := recoveryCatalog .indexingLag
        let _ ← record position .indexing EXECUTION_DELAYED indexingRecovery.safeNextStep
        pure ⟨position,session,← list positionId⟩
      else pure ⟨position,session,activities⟩

end Octora.Positions
