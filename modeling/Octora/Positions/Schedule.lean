import Mathlib.Data.List.Sort
import Octora.Positions.World

namespace Octora.Positions
open Calls

-- One way the outside can behave: what is asked succeeds, and rows of one time
-- keep the order of the table.
def pageOf (rows : List PositionRow) (before : Int → Int → Prop) [DecidableRel before] (limit : Nat) : List PositionRow :=
  (rows.insertionSort fun one two => before one.updatedAt two.updatedAt).take limit

def perform : (query : Query) → Stores → Except Thrown (Reply query) × Stores
  | .createPosition input,stores =>
      if stores.database.positions.any (fun row => decide (row.id = input.id ∨ row.intentId = input.intentId)) then
        (.error .database,stores)
      else (.ok (input.row stores.clock),
        stores.rows { stores.database with positions := stores.database.positions ++ [input.row stores.clock] })
  | .updatePositionState positionId state,stores =>
      match stores.database.position positionId with
      | none => (.error .database,stores)
      | some row => (.ok { row with state := state, updatedAt := stores.clock },stores.movePosition row state)
  | .getPositionById positionId,stores => (.ok (stores.database.position positionId),stores)
  | .createExecutionSession input,stores =>
      if stores.database.sessions.any (fun row => decide (row.id = input.id)) then (.error .database,stores)
      else (.ok (input.row stores.clock),
        stores.rows { stores.database with sessions := stores.database.sessions ++ [input.row stores.clock] })
  | .updateExecutionSession positionId state failureStage,stores =>
      match stores.database.session positionId with
      | none => (.error (.sessionNotFound positionId),stores)
      | some row => (.ok { row with state := state, failureStage := failureStage, updatedAt := stores.clock },
          stores.moveSession row state failureStage)
  | .getLatestExecutionSession positionId,stores => (.ok (stores.database.session positionId),stores)
  | .countActiveByWallet walletAddress,stores => (.ok (countActiveByWallet stores.database walletAddress),stores)
  | .sumActiveAmountSol,stores => (.ok (sumActiveAmountSol stores.database),stores)
  | .countFirst,stores => (.ok true,stores)
  | .findStuckPositions state cutoff limit,stores =>
      (.ok (pageOf (stores.database.positions.filter fun row => decide (row.state = state ∧ row.updatedAt < cutoff))
        (· ≤ ·) limit),stores)
  | .findRecentlyFailed since limit,stores =>
      (.ok (pageOf (stores.database.positions.filter fun row => decide (row.state = .failed ∧ since ≤ row.updatedAt))
        (· ≥ ·) limit),stores)
  | .createActivity input,stores => (.ok (input.row stores.clock),
      stores.rows { stores.database with activities := stores.database.activities ++ [input.row stores.clock] })
  | .listActivities positionId,stores =>
      (.ok (stores.database.activities.filter fun row => decide (row.positionId = positionId)),stores)
  | .load positionId,stores =>
      (.ok ((stores.database.reconciliation positionId).map fun signature => ⟨positionId,signature⟩),stores)
  | .clear positionId,stores => (.ok (),stores.rows (stores.database.reconcile positionId none))
  | .saveUnawaited record,stores => (.ok (),{ stores with unawaited := stores.unawaited ++ [record] })
  | .prepareFunding _,stores => (.ok ⟨none⟩,stores)
  | .prepareExit _,stores => (.ok ⟨none⟩,stores)
  | .addLiquidity _,stores => (.ok ⟨['s']⟩,stores)
  | .claim _,stores => (.ok ⟨['s']⟩,stores)
  | .withdrawClose _,stores => (.ok ⟨['s']⟩,stores)
  | .getSignatureStatus _,stores => (.ok none,stores)
  | .lastFailureScan,stores => (.ok stores.lastFailureScan,stores)
  | .scannedFailures now,stores => (.ok (),{ stores with lastFailureScan := now })
  | .captureException _,stores => (.ok (),stores)

theorem page_of (rows : List PositionRow) (before : Int → Int → Prop) [DecidableRel before] [Std.Total before]
    [IsTrans Int before] (limit : Nat) : Page rows before limit (pageOf rows before limit) := by
  have total : Std.Total fun one two : PositionRow => before one.updatedAt two.updatedAt :=
    ⟨fun one two => Std.Total.total one.updatedAt two.updatedAt⟩
  have chained : IsTrans PositionRow fun one two : PositionRow => before one.updatedAt two.updatedAt :=
    ⟨fun _ _ _ => IsTrans.trans (r := before) _ _ _⟩
  exact ⟨_,List.perm_insertionSort _ rows,List.pairwise_insertionSort _ rows,rfl⟩

theorem performs (query : Query) (stores : Stores) : Answers query stores (perform query stores).1 (perform query stores).2 := by
  cases query with
  | createPosition input | createExecutionSession input =>
    simp only [Answers,perform]
    split <;> exact ⟨rfl,rfl⟩
  | updatePositionState positionId state =>
    cases found : stores.database.position positionId <;> simp only [Answers,perform,found,and_self]
  | updateExecutionSession positionId state stage =>
    cases found : stores.database.session positionId <;> simp only [Answers,perform,found,and_self]
  | countFirst => exact ⟨⟨true,rfl⟩,rfl⟩
  | findStuckPositions state cutoff limit => exact ⟨_,rfl,rfl,page_of _ _ _⟩
  | findRecentlyFailed since limit => exact ⟨_,rfl,rfl,page_of _ _ _⟩
  | prepareFunding _ | prepareExit _ | addLiquidity _ | claim _ | withdrawClose _ | getSignatureStatus _ => rfl
  | _ => exact ⟨rfl,rfl⟩

-- One step of a schedule; an action that is not possible is left out.
def World.act (caps : BetaCapsConfig) (world : World) : Action → World
  | .enter operation =>
      if operation.isTick && world.calls.any (fun call => call.operation.isTick && call.running) then world
      else
        { world with
          calls := world.calls ++ [⟨operation,[],bodyOf caps operation,world.stores.database,[]⟩]
          log := world.log ++ made operation (bodyOf caps operation) }
  | .answer index =>
      match world.calls[index]? with
      | none => world
      | some call =>
        match call.rest with
        | .call query next =>
          world.answered (world.calls.take index) call (world.calls.drop (index+1)) query
            (perform query world.stores).1 (next (perform query world.stores).1) (perform query world.stores).2
        | _ => world
  | .fail index =>
      match world.calls[index]? with
      | none => world
      | some call =>
        match call.rest with
        | .call query next =>
          if query.inProcess then world
          else world.answered (world.calls.take index) call (world.calls.drop (index+1)) query
            (.error .database) (next (.error .database)) world.stores
        | _ => world
  | .land index =>
      match world.stores.unawaited[index]? with
      | none => world
      | some record =>
        { world with
          stores := world.stores.land record
            (world.stores.unawaited.take index ++ world.stores.unawaited.drop (index+1)) }
  | .clock now => if world.stores.clock ≤ now then { world with stores := { world.stores with clock := now } } else world
  | .crash lastFailureScan =>
      { world with
        stores := { world.stores with lastFailureScan := lastFailureScan }
        calls := world.calls.map Call.crashed }

section Play
variable {caps : BetaCapsConfig} {meets : World → Action → Prop}

theorem parted {items : List α} (found : items[index]? = some item) :
    items = items.take index ++ item :: items.drop (index+1) ∧ (items.take index).length = index := by
  obtain ⟨inside,rfl⟩ := List.getElem?_eq_some_iff.mp found
  constructor
  · rw [List.getElem_cons_drop,List.take_append_drop]
  · exact List.length_take_of_le (Nat.le_of_lt inside)

-- An action is a step or is left out.
theorem act_step (caps : BetaCapsConfig) (world : World) (action : Action) :
    world.act caps action = world ∨ Step caps world action (world.act caps action) := by
  cases action with
  | enter operation =>
    simp only [World.act]
    split
    · exact .inl rfl
    · rename_i free
      refine .inr (.enter fun ticks call inside other => ?_)
      cases runs : call.running with
      | false => rfl
      | true =>
        refine absurd ?_ free
        rw [ticks,Bool.true_and]
        exact List.any_eq_true.mpr ⟨call,inside,by rw [other,runs]; rfl⟩
  | answer index =>
    simp only [World.act]
    split
    · exact .inl rfl
    · rename_i call found
      split
      · rename_i query next turn
        have ⟨here,place⟩ := parted found
        have step : Step caps world _ _ := .answer here turn (performs query world.stores)
        rw [place] at step
        exact .inr step
      · exact .inl rfl
  | fail index =>
    simp only [World.act]
    split
    · exact .inl rfl
    · rename_i call found
      split
      · rename_i query next turn
        split
        · exact .inl rfl
        · rename_i away
          have ⟨here,place⟩ := parted found
          have fails : Fails query world.stores (.error .database) world.stores :=
            ⟨by simpa using away,⟨_,rfl⟩,.inl rfl⟩
          have step : Step caps world _ _ := .fail here turn fails
          rw [place] at step
          exact .inr step
      · exact .inl rfl
  | land index =>
    simp only [World.act]
    split
    · exact .inl rfl
    · rename_i record found
      have ⟨here,place⟩ := parted found
      have step : Step caps world _ _ := .land here
      rw [place] at step
      exact .inr step
  | clock now =>
    simp only [World.act]
    split
    · rename_i later
      exact .inr (.clock later)
    · exact .inl rfl
  | crash scan => exact .inr .crash

theorem act_reached (reached : Reached caps meets world) (met : meets world action) :
    Reached caps meets (world.act caps action) := by
  rcases act_step caps world action with same | step
  · rw [same]
    exact reached
  · exact reached.step met step

def World.play (caps : BetaCapsConfig) (meets : World → Action → Prop) [∀ world action, Decidable (meets world action)]
    (world : World) (schedule : List Action) : World :=
  schedule.foldl (fun world action => if meets world action then world.act caps action else world) world

theorem play_reached [∀ world action, Decidable (meets world action)] (reached : Reached caps meets world) (schedule : List Action) :
    Reached caps meets (world.play caps meets schedule) := by
  induction schedule generalizing world with
  | nil => exact reached
  | cons action rest ih =>
    simp only [World.play,List.foldl_cons]
    split
    · rename_i met
      exact ih (act_reached reached met)
    · exact ih reached

end Play

-- A configuration and an intent to try things on.
def sampleCaps : BetaCapsConfig := ⟨5/2,125,5⟩

def sampleIds : IntentIds := ⟨['p'],['i'],['e']⟩

def sampleInput : CreateDraftPositionIntentInput := ⟨.addLiquidity,['1'],['q'],.standard,['w']⟩

def sampleCreate : List Action := .enter (.createDraftPositionIntent sampleIds sampleInput) :: List.replicate 6 (.answer 0)

end Octora.Positions
