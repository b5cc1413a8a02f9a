import Octora.Positions.World

namespace Octora.Positions
open Calls Op

-- What a call knows of one position from the answers it has had, and what it has
-- done for it.
structure Sight where
  row : Option ExecutionState
  session : Option ExecutionState
  moved : Bool
  wrote : Bool
  gaveUp : Bool
  counted : Option Nat
  summed : Option ℚ
  created : Bool
  opened : Bool
  funded : Bool
  added : Bool
  exited : Bool
  loaded : Bool
  cleared : Bool
  begun : Bool
  registered : Bool
  stranded : Bool
deriving DecidableEq

def Sight.start : Sight :=
  { row := none, session := none, moved := false, wrote := false, gaveUp := false, counted := none, summed := none, created := false, opened := false, funded := false,
    added := false, exited := false, loaded := false, cleared := false, begun := false, registered := false,
    stranded := false }

-- A row update that fails leaves the call without the state it wrote.
def Sight.lost (sight : Sight) : Sight := { sight with row := none, session := none, gaveUp := true }

@[simp] def look (me : Text) (sight : Sight) : (query : Query) → Except Thrown (Reply query) → Sight
  | .createPosition input,.ok _ => if input.id = me then { sight with created := true } else sight
  | .createExecutionSession input,_ => if input.positionId = me then { sight with opened := true } else sight
  | .getPositionById positionId,.ok found =>
      if positionId = me then
        match found with
        | some row => { sight with row := some row.state }
        | none => sight
      else sight
  | .getLatestExecutionSession positionId,.ok found =>
      if positionId = me then
        match found with
        | some session => { sight with session := some session.state }
        | none => sight
      else sight
  | .updatePositionState positionId state,.ok _ =>
      if positionId = me then
        { sight with row := some state, moved := true, gaveUp := sight.gaveUp || decide (state = .failed) }
      else sight
  | .updatePositionState positionId _,.error _ => if positionId = me then sight.lost else sight
  | .updateExecutionSession positionId state _,.ok _ =>
      if positionId = me then { sight with session := some state, wrote := true } else sight
  | .updateExecutionSession positionId _ _,.error _ => if positionId = me then sight.lost else sight
  | .countActiveByWallet _,.ok count => { sight with counted := some count }
  | .sumActiveAmountSol,.ok sum => { sight with summed := some sum }
  | .findStuckPositions state _ _,.ok page =>
      if me ∈ page.map PositionRow.id then
        { sight with
          row := some state, session := none, wrote := false, loaded := false, cleared := false
          stranded := sight.stranded || decide (state = .executing_on_meteora) }
      else sight
  | .load positionId,.ok entry =>
      if positionId = me then { sight with loaded := (signatureOf entry).isSome, cleared := false } else sight
  | .clear positionId,.ok _ => if positionId = me then { sight with cleared := true } else sight
  | .saveUnawaited entry,_ =>
      if entry.positionId = me then
        if entry.signature.isSome then { sight with registered := true } else { sight with begun := true }
      else sight
  | .prepareFunding _,_ => { sight with funded := true }
  | .addLiquidity _,_ => { sight with added := true }
  | .claim _,_ => { sight with exited := true }
  | .withdrawClose _,_ => { sight with exited := true }
  | _,_ => sight

def sightOf (me : Text) (past : List (Seen Reply Thrown)) : Sight :=
  past.foldl (fun sight seen => look me sight seen.query seen.answer) .start

-- What holds of an answer whatever the rows are.
def fits : (query : Query) → Except Thrown (Reply query) → Prop
  | .createPosition input,.ok row => row.id = input.id
  | .getPositionById positionId,.ok (some row) => row.id = positionId
  | .updatePositionState positionId state,.ok row => row.id = positionId ∧ row.state = state
  | .updateExecutionSession _ state _,.ok session => session.state = state
  | .findStuckPositions state _ _,.ok page => (page.map PositionRow.id).Nodup ∧ ∀ row ∈ page, row.state = state
  | _,_ => True

def tracks (me : Text) (query : Query) (sight : Sight) (answer : Except Thrown (Reply query)) (after : Sight) : Prop :=
  fits query answer ∧ after = look me sight query answer

def Admitted (caps : BetaCapsConfig) (input : CreateDraftPositionIntentInput) (sight : Sight) : Prop :=
  ∃ amount count total, number input.amount = some amount ∧ 0 < amount ∧ amount ≤ caps.maxPositionSol ∧
    sight.counted = some count ∧ count < caps.maxPositionsPerWallet ∧
    sight.summed = some total ∧ total + amount ≤ caps.maxGlobalTvlSol

-- Every call that an operation may make, with what it knows when it makes it. One
-- table for each operation; the tick's says what it may do to the position `me`.
section Table
variable (caps : BetaCapsConfig) (me : Text)

@[simp] def creates (ids : IntentIds) (input : CreateDraftPositionIntentInput) : Query → Sight → Prop
  | .createPosition row,sight => row.id = me ∧ row.intentId = ids.intentId ∧ row.state = .draft ∧
      row.walletAddress = input.walletAddress ∧ row.amount = input.amount ∧ sight.created = false ∧
      sight.opened = false ∧ Admitted caps input sight
  | .createExecutionSession row,sight => row.positionId = me ∧ row.state = .awaiting_signature ∧
      row.failureStage = none ∧ sight.created = true ∧ sight.opened = false
  | .countActiveByWallet walletAddress,_ => walletAddress = input.walletAddress
  | .sumActiveAmountSol,_ => True
  | .countFirst,_ => True
  | .createActivity entry,_ => entry.positionId = me ∧ entry.headline ≠ EXECUTION_DELAYED
  | _,_ => False

@[simp] def executes : Query → Sight → Prop
  | .getPositionById positionId,sight => positionId = me ∧ sight = .start
  | .getLatestExecutionSession positionId,sight => positionId = me ∧ sight.session = none ∧ sight.funded = false
  | .listActivities positionId,_ => positionId = me
  | .createActivity entry,_ => entry.positionId = me ∧ entry.headline ≠ EXECUTION_DELAYED
  | .prepareFunding _,sight => sight.session = some .funding_in_progress ∧ sight.wrote = true ∧ sight.funded = false ∧
      sight.added = false
  | .addLiquidity _,sight => sight.session = some .executing_on_meteora ∧ sight.wrote = true ∧ sight.added = false
  | .saveUnawaited entry,sight => entry.positionId = me ∧ sight.added = true ∧ sight.wrote = true ∧ sight.gaveUp = false ∧
      (entry.signature = none ∧ sight.session = some .executing_on_meteora ∧ sight.begun = false ∨
        entry.signature.isSome = true ∧ sight.session = some .indexing ∧ sight.row = some .indexing ∧
          sight.begun = true ∧ sight.registered = false)
  | .updatePositionState positionId target,sight => positionId = me ∧ sight.row ≠ none ∧ sight.registered = false ∧
      sight.wrote = true ∧ sight.gaveUp = false ∧
      (target = .indexing ∧ sight.session = some .executing_on_meteora ∧ sight.added = true ∧ sight.begun = true ∨
        target = .failed ∧ sight.begun = false ∧
          (sight.session = some .funding_in_progress ∧ sight.funded = true ∧ sight.added = false ∨
            sight.session = some .executing_on_meteora ∧ sight.added = true))
  | .updateExecutionSession positionId target stage,sight => positionId = me ∧ sight.registered = false ∧
      (target = .funding_in_progress ∧ stage = none ∧ sight.session = some .awaiting_signature ∧
          sight.wrote = false ∧ sight.gaveUp = false ∧ sight.funded = false ∧ sight.added = false ∧ sight.begun = false ∨
        target = .executing_on_meteora ∧ stage = none ∧ sight.session = some .funding_in_progress ∧
          sight.wrote = true ∧ sight.gaveUp = false ∧ sight.funded = true ∧ sight.added = false ∧ sight.begun = false ∨
        target = .indexing ∧ stage = none ∧ sight.session = some .executing_on_meteora ∧
          sight.wrote = true ∧ sight.gaveUp = false ∧ sight.row = some .indexing ∧ sight.added = true ∧
          sight.begun = true ∨
        target = .failed ∧ stage ≠ none ∧ sight.row = some .failed ∧ sight.wrote = true ∧ sight.gaveUp = true ∧ sight.begun = false ∧
          (sight.session = some .funding_in_progress ∧ sight.funded = true ∧ sight.added = false ∨
            sight.session = some .executing_on_meteora ∧ sight.added = true))
  | _,_ => False

-- Claiming and withdrawing differ in the states they pass through.
structure Exit where
  started : ExecutionState
  settling : ExecutionState
  venue : Query → Bool

def Exit.claim : Exit := ⟨.claiming,.claiming,fun query => match query with | .claim _ => true | _ => false⟩

def Exit.withdrawClose : Exit :=
  ⟨.withdrawing,.closing,fun query => match query with | .withdrawClose _ => true | _ => false⟩

@[simp] def exits (exit : Exit) : Query → Sight → Prop
  | .getPositionById positionId,sight => positionId = me ∧ sight = .start
  | .getLatestExecutionSession positionId,sight => positionId = me ∧ sight.row = some .active ∧ sight.session = none ∧
      sight.exited = false
  | .listActivities positionId,_ => positionId = me
  | .createActivity entry,_ => entry.positionId = me ∧ entry.headline ≠ EXECUTION_DELAYED
  | .prepareExit _,sight => sight.session = some exit.started ∧ sight.wrote = true ∧ sight.exited = false
  | .claim input,sight => exit.venue (.claim input) = true ∧ sight.session = some exit.started ∧
      sight.wrote = true ∧ sight.exited = false
  | .withdrawClose input,sight => exit.venue (.withdrawClose input) = true ∧ sight.session = some exit.started ∧
      sight.wrote = true ∧ sight.exited = false
  | .updatePositionState positionId target,sight => positionId = me ∧
      (target = exit.started ∧ sight.row = some .active ∧ sight.session = some .active ∧ sight.moved = false ∧
          sight.wrote = false ∧ sight.exited = false ∨
        sight.moved = true ∧ sight.wrote = true ∧
          (target = .failed ∧ sight.row = some exit.started ∧ sight.session = some exit.started ∨
            target = exit.settling ∧ target ≠ exit.started ∧ sight.row = some exit.started ∧
              sight.session = some exit.started ∧ sight.exited = true ∨
            target = .indexing ∧ sight.row = some exit.settling ∧ sight.session = some exit.settling ∧
              sight.exited = true ∨
            target = .completed ∧ sight.row = some .indexing ∧ sight.session = some .indexing ∧ sight.exited = true))
  | .updateExecutionSession positionId target stage,sight => positionId = me ∧ sight.moved = true ∧
      (target = exit.started ∧ stage = none ∧ sight.row = some exit.started ∧ sight.session = some .active ∧
          sight.wrote = false ∧ sight.exited = false ∨
        sight.wrote = true ∧
          (target = .failed ∧ stage ≠ none ∧ sight.row = some .failed ∧ sight.session = some exit.started ∨
            target = exit.settling ∧ stage = none ∧ target ≠ exit.started ∧ sight.row = some exit.settling ∧
              sight.session = some exit.started ∧ sight.exited = true ∨
            target = .indexing ∧ stage = none ∧ sight.row = some .indexing ∧ sight.session = some exit.settling ∧
              sight.exited = true ∨
            target = .completed ∧ stage = none ∧ sight.row = some .completed ∧ sight.session = some .indexing ∧
              sight.exited = true))
  | _,_ => False

-- A call that has taken a signature out of the store is the one to activate.
def Sight.took (sight : Sight) : Prop := sight.loaded = true ∧ sight.cleared = true

@[simp] def polls : Query → Sight → Prop
  | .getPositionById positionId,sight => positionId = me ∧ sight = .start
  | .getLatestExecutionSession positionId,sight => positionId = me ∧ sight.row ≠ none ∧ sight.session = none
  | .listActivities positionId,_ => positionId = me
  | .load positionId,sight => positionId = me ∧ sight.row ≠ none ∧ sight.session = some .indexing ∧ sight.loaded = false
  | .clear positionId,sight => positionId = me ∧ sight.row ≠ none ∧ sight.session = some .indexing ∧
      sight.loaded = true ∧ sight.cleared = false
  | .updatePositionState positionId target,sight => positionId = me ∧ target = .active ∧ sight.row ≠ none ∧
      sight.row ≠ some .active ∧ sight.session = some .indexing ∧ sight.wrote = false ∧ sight.took
  | .updateExecutionSession positionId target stage,sight => positionId = me ∧ target = .active ∧ stage = none ∧
      sight.row = some .active ∧ sight.session = some .indexing ∧ sight.wrote = false ∧ sight.took
  | .createActivity entry,sight => entry.positionId = me ∧
      (entry.headline = EXECUTION_DELAYED → sight.session = some .indexing ∧ sight.row ≠ none ∧
        (sight.loaded = false ∨ sight.row = some .active))
  | _,_ => False

@[simp] def ticks : Query → Sight → Prop
  | .findStuckPositions state _ _,_ => state = .executing_on_meteora ∨ state = .indexing
  | .load positionId,sight => positionId = me → sight.row ≠ none
  | .getSignatureStatus _,_ => True
  | .clear positionId,sight => positionId = me → sight.row = some .indexing ∧ sight.loaded = true
  | .updatePositionState positionId target,sight => positionId = me →
      sight.stranded = true ∧ (target = .indexing ∨ target = .failed) ∨
      target = .active ∧ sight.row = some .indexing ∧ sight.wrote = false ∧ sight.took
  | .updateExecutionSession positionId target stage,sight => positionId = me →
      sight.stranded = true ∧ (target = .indexing ∧ stage = none ∨ target = .failed ∧ stage ≠ none) ∨
      target = .active ∧ stage = none ∧ sight.row = some .active ∧ sight.wrote = false ∧ sight.took
  | .createActivity entry,_ => entry.headline ≠ EXECUTION_DELAYED
  | .lastFailureScan,_ => True
  | .findRecentlyFailed _ _,_ => True
  | .scannedFailures _,_ => True
  | .captureException _,_ => True
  | _,_ => False

@[simp] def permits : Operation → Query → Sight → Prop
  | .createDraftPositionIntent ids input => creates caps me ids input
  | .executeSignedIntent _ => executes me
  | .claimPosition _ => exits me .claim
  | .withdrawClosePosition _ => exits me .withdrawClose
  | .getPosition _ => polls me
  | .tick _ => ticks me

end Table

-- The position an operation is about; a tick is about any.
def Operation.concerns (me : Text) : Operation → Prop
  | .createDraftPositionIntent ids _ => ids.positionId = me
  | .executeSignedIntent input => input.positionId = me
  | .claimPosition positionId => positionId = me
  | .withdrawClosePosition positionId => positionId = me
  | .getPosition positionId => positionId = me
  | .tick _ => True

end Octora.Positions
