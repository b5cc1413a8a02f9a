import Octora.Positions.RecoveryWorker

namespace Octora.Positions
open Calls

inductive Operation where
  | createDraftPositionIntent (ids : IntentIds) (input : CreateDraftPositionIntentInput)
  | executeSignedIntent (input : ExecuteSignedIntentInput)
  | claimPosition (positionId : Text)
  | withdrawClosePosition (positionId : Text)
  | getPosition (positionId : Text)
  | tick (now : Int)

inductive Outcome where
  | response (response : PositionResponse)
  | ticked (result : RecoveryTickResult)

def responded (body : Async PositionResponse) : Async Outcome := body.bind fun response => .ret (.response response)

def bodyOf (caps : BetaCapsConfig) : Operation → Async Outcome
  | .createDraftPositionIntent ids input => responded (createDraftPositionIntent caps ids input)
  | .executeSignedIntent input => responded (executeSignedIntent input)
  | .claimPosition positionId => responded (claimPosition positionId)
  | .withdrawClosePosition positionId => responded (withdrawClosePosition positionId)
  | .getPosition positionId => responded (getPosition positionId)
  | .tick now => (tick now).bind fun result => .ret (.ticked result)

def Operation.isTick : Operation → Bool
  | .tick _ => true
  | _ => false

-- A call under way or over: the answers it has had, and what is left of it. The
-- database it entered upon and the positions that others have written since it
-- read them are kept for the record.
structure Call where
  operation : Operation
  past : List (Seen Reply Thrown)
  rest : Async Outcome
  entered : Database
  stale : List Text

def waits : Async Outcome → Bool
  | .call _ _ => true
  | _ => false

def Call.running (call : Call) : Bool := waits call.rest

def made (operation : Operation) : Async Outcome → List (Operation × Query)
  | .call query _ => [(operation,query)]
  | _ => []

structure World where
  stores : Stores
  calls : List Call
  log : List (Operation × Query)

def World.first (clock lastFailureScan : Int) : World :=
  { stores := ⟨⟨[],[],[],fun _ => none⟩,[],clock,lastFailureScan,[],[]⟩, calls := [], log := [] }

-- The position that a row update is about.
def Query.writes : Query → Option Text
  | .updatePositionState positionId _ => some positionId
  | .updateExecutionSession positionId _ _ => some positionId
  | _ => none

def Query.writesSession (me : Text) : Query → Bool
  | .updateExecutionSession positionId _ _ => decide (positionId = me)
  | _ => false

-- The positions whose rows an answer shows.
def shows : (query : Query) → Except Thrown (Reply query) → List Text
  | .getPositionById positionId,.ok _ => [positionId]
  | .findStuckPositions _ _ _,.ok page => page.map PositionRow.id
  | _,_ => []

def Call.overtaken (query : Query) (call : Call) : Call := { call with stale := query.writes.toList ++ call.stale }

def Call.goesOn (call : Call) (query : Query) (answer : Except Thrown (Reply query)) (rest : Async Outcome) : Call :=
  { call with
    past := call.past ++ [⟨query,answer⟩]
    rest := rest
    stale := call.stale.filter fun positionId => decide (positionId ∉ shows query answer) }

def Call.crashed (call : Call) : Call := if call.running then { call with rest := .throws .crashed } else call

def Stores.land (stores : Stores) (record : PositionReconciliationRecord)
    (unawaited : List PositionReconciliationRecord) : Stores :=
  { stores with
    database := stores.database.reconcile record.positionId (some record.signature)
    unawaited := unawaited }

inductive Action where
  | enter (operation : Operation)
  | answer (index : Nat)
  | fail (index : Nat)
  | land (index : Nat)
  | clock (now : Int)
  | crash (lastFailureScan : Int)

def World.answered (world : World) (before : List Call) (call : Call) (after : List Call) (query : Query)
    (answer : Except Thrown (Reply query)) (rest : Async Outcome) (stores : Stores) : World :=
  { stores := stores
    calls := before.map (Call.overtaken query) ++ call.goesOn query answer rest :: after.map (Call.overtaken query)
    log := world.log ++ made call.operation rest }

-- Each call of a repository is one step. The worker's loop awaits its tick
-- before it starts another. A crash takes every call under way with it, and the
-- worker's variable; an unawaited save may land at any later time.
inductive Step (caps : BetaCapsConfig) (world : World) : Action → World → Prop where
  | enter (single : operation.isTick = true → ∀ call ∈ world.calls, call.operation.isTick = true → call.running = false) :
      Step caps world (.enter operation)
        { world with
          calls := world.calls ++ [⟨operation,[],bodyOf caps operation,world.stores.database,[]⟩]
          log := world.log ++ made operation (bodyOf caps operation) }
  | answer {call : Call} {next : Except Thrown (Reply query) → Async Outcome}
      (here : world.calls = before ++ call :: after) (turn : call.rest = .call query next)
      (answered : Answers query world.stores answer stores) :
      Step caps world (.answer before.length) (world.answered before call after query answer (next answer) stores)
  | fail {call : Call} {next : Except Thrown (Reply query) → Async Outcome}
      (here : world.calls = before ++ call :: after) (turn : call.rest = .call query next)
      (fails : Fails query world.stores answer stores) :
      Step caps world (.fail before.length) (world.answered before call after query answer (next answer) stores)
  | land {record : PositionReconciliationRecord} (here : world.stores.unawaited = before ++ record :: after) :
      Step caps world (.land before.length) { world with stores := world.stores.land record (before ++ after) }
  | clock (later : world.stores.clock ≤ now) :
      Step caps world (.clock now) { world with stores := { world.stores with clock := now } }
  | crash : Step caps world (.crash lastFailureScan)
      { world with
        stores := { world.stores with lastFailureScan := lastFailureScan }
        calls := world.calls.map Call.crashed }

-- The runs from an empty database whose steps all meet a condition on the world
-- before the step.
inductive Reached (caps : BetaCapsConfig) (meets : World → Action → Prop) : World → Prop where
  | first : Reached caps meets (World.first clock lastFailureScan)
  | step (prior : Reached caps meets before) (met : meets before action) (step : Step caps before action after) :
      Reached caps meets after

end Octora.Positions
