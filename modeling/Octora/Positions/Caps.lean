import Mathlib.Algebra.Order.BigOperators.Group.List
import Octora.Positions.Once

namespace Octora.Positions
open Calls

def amountOf (row : PositionRow) : ℚ := (number row.amount).getD 0

-- What a call has been told of the caps when it comes to insert its position, and
-- what the rows say now.
def Within (stores : Stores) (walletAddress : Text) (sight : Sight) : Prop :=
  (∀ count ∈ sight.counted, countActiveByWallet stores.database walletAddress ≤ count) ∧
  ∀ sum ∈ sight.summed, sumActiveAmountSol stores.database ≤ sum

-- A finished position is not brought back.
def Finishes (stores : Stores) (positionId : Text) (state : ExecutionState) : Prop :=
  ∀ row ∈ stores.database.position positionId, row.terminal = true → state ∈ TERMINAL_POSITION_STATES

def steady (stores : Stores) (past : List (Seen Reply Thrown)) : Query → Prop
  | .createPosition input => Within stores input.walletAddress (sightOf input.id past)
  | .updatePositionState positionId state => Finishes stores positionId state
  | _ => True

-- The condition: an insert follows upon readings that have not been outgrown, and
-- no row leaves a terminal state.
def Uncrowded (world : World) : Action → Prop
  | .answer index | .fail index => ∀ call ∈ world.calls[index]?,
      match call.rest with
      | .call query _ => steady world.stores call.past query
      | _ => True
  | _ => True

instance (stores : Stores) (past : List (Seen Reply Thrown)) (query : Query) : Decidable (steady stores past query) := by
  unfold steady Within Finishes
  split <;> infer_instance

instance (stores : Stores) (past : List (Seen Reply Thrown)) (rest : Async Outcome) :
    Decidable (match rest with
      | .call query _ => steady stores past query
      | _ => True) := by
  split <;> infer_instance

instance (world : World) : (action : Action) → Decidable (Uncrowded world action)
  | .answer _ | .fail _ => by unfold Uncrowded; infer_instance
  | .enter _ | .land _ | .clock _ | .crash _ => inferInstanceAs (Decidable True)

structure Capped (caps : BetaCapsConfig) (database : Database) : Prop where
  amounts : ∀ row ∈ database.positions, ∃ amount, number row.amount = some amount ∧ 0 < amount ∧ amount ≤ caps.maxPositionSol
  count : ∀ walletAddress, countActiveByWallet database walletAddress ≤ caps.maxPositionsPerWallet
  total : sumActiveAmountSol database ≤ caps.maxGlobalTvlSol

section Capped
variable {caps : BetaCapsConfig} {database : Database} {stores after : Stores} {query : Query}
  {answer : Except Thrown (Reply query)}

-- Only an insert or an update of a row changes the table of positions.
def Shifts (query : Query) (stores after : Stores) : Prop :=
  (∃ input now, query = .createPosition input ∧
    after.database.positions = stores.database.positions ++ [input.row now]) ∨
  (∃ positionId state row, query = .updatePositionState positionId state ∧
    stores.database.position positionId = some row ∧
    after.database.positions = (stores.database.setPosition row.id state stores.clock).positions) ∨
  after.database.positions = stores.database.positions

theorem answers_shift (answered : Answers query stores answer after) : Shifts query stores after := by
  cases query with
  | createPosition input =>
    simp only [Answers] at answered
    split at answered
    · exact .inr (.inr (by rw [answered.2]))
    · exact .inl ⟨input,stores.clock,rfl,by rw [answered.2]; rfl⟩
  | updatePositionState positionId state =>
    simp only [Answers] at answered
    split at answered
    · exact .inr (.inr (by rw [answered.2]))
    · rename_i row found
      exact .inr (.inl ⟨positionId,state,row,rfl,found,by rw [answered.2]; rfl⟩)
  | createExecutionSession input =>
    simp only [Answers] at answered
    split at answered
    · exact .inr (.inr (by rw [answered.2]))
    · exact .inr (.inr (by rw [answered.2]; rfl))
  | updateExecutionSession positionId state stage =>
    simp only [Answers] at answered
    split at answered
    · exact .inr (.inr (by rw [answered.2]))
    · exact .inr (.inr (by rw [answered.2]; rfl))
  | findStuckPositions _ _ _ | findRecentlyFailed _ _ =>
    obtain ⟨_,-,rfl,-⟩ := answered
    exact .inr (.inr rfl)
  | prepareFunding _ | prepareExit _ | addLiquidity _ | claim _ | withdrawClose _ | getSignatureStatus _ =>
    cases answered
    exact .inr (.inr rfl)
  | createActivity _ | clear _ | saveUnawaited _ | scannedFailures _ =>
    rw [answered.2]
    exact .inr (.inr rfl)
  | _ =>
    rw [answered.2]
    exact .inr (.inr rfl)

theorem did_shift (did : Did query stores answer after) : Shifts query stores after := by
  rcases did with answered | ⟨-,-,rfl | ⟨lost,answered⟩⟩
  · exact answers_shift answered
  · exact .inr (.inr rfl)
  · exact answers_shift answered

theorem active_inserted (positions : List PositionRow) (row : PositionRow) (going : row.terminal = false) :
    (positions ++ [row]).filter (fun row => !row.terminal) = positions.filter (fun row => !row.terminal) ++ [row] := by
  simp [List.filter_append,going]

theorem capped_insert (capped : Capped caps database) (row : PositionRow) (going : row.terminal = false)
    (read : number row.amount = some amount) (positive : 0 < amount) (most : amount ≤ caps.maxPositionSol)
    (few : countActiveByWallet database row.walletAddress < caps.maxPositionsPerWallet)
    (room : sumActiveAmountSol database + amount ≤ caps.maxGlobalTvlSol) :
    Capped caps { database with positions := database.positions ++ [row] } := by
  refine ⟨?_,?_,?_⟩
  · intro other inside
    rcases List.mem_append.mp inside with old | new
    · exact capped.amounts other old
    · rw [List.mem_singleton.mp new]
      exact ⟨amount,read,positive,most⟩
  · intro walletAddress
    have prior := capped.count walletAddress
    unfold countActiveByWallet Database.activePositions at prior few ⊢
    rw [active_inserted _ _ going,List.filter_append,List.length_append]
    by_cases own : row.walletAddress = walletAddress
    · subst own
      simp only [List.filter_singleton,decide_true,cond_true,List.length_singleton]
      omega
    · simp only [List.filter_singleton,own,decide_false,cond_false,List.length_nil]
      omega
  · unfold sumActiveAmountSol Database.activePositions at room ⊢
    rw [active_inserted _ _ going,List.map_append,List.sum_append]
    simpa only [List.map_cons,List.map_nil,List.sum_singleton,read,Option.getD_some] using room

-- A change of state that finishes nothing anew and brings nothing back.
structure Settles (change : PositionRow → PositionRow) (row : PositionRow) : Prop where
  wallet : (change row).walletAddress = row.walletAddress
  amount : (change row).amount = row.amount
  going : (change row).terminal = false → row.terminal = false

theorem settles_count (change : PositionRow → PositionRow) (positions : List PositionRow)
    (settles : ∀ row ∈ positions, Settles change row) (walletAddress : Text) :
    (((positions.map change).filter fun row => !row.terminal).filter fun row =>
        decide (row.walletAddress = walletAddress)).length ≤
      ((positions.filter fun row => !row.terminal).filter fun row => decide (row.walletAddress = walletAddress)).length := by
  simp only [List.filter_filter,← List.countP_eq_length_filter,List.countP_map]
  apply List.countP_mono_left
  intro row inside counted
  have kept := settles row inside
  simp only [Function.comp_apply,Bool.and_eq_true,decide_eq_true_eq,Bool.not_eq_true'] at counted ⊢
  exact ⟨kept.wallet ▸ counted.1,kept.going counted.2⟩

theorem settles_sum (change : PositionRow → PositionRow) (positions : List PositionRow)
    (settles : ∀ row ∈ positions, Settles change row) (positive : ∀ row ∈ positions, 0 ≤ amountOf row) :
    (((positions.map change).filter fun row => !row.terminal).map amountOf).sum ≤
      ((positions.filter fun row => !row.terminal).map amountOf).sum := by
  induction positions with
  | nil => exact le_refl _
  | cons row rest ih =>
    have rest' := ih (fun other inside => settles other (List.mem_cons_of_mem _ inside))
      fun other inside => positive other (List.mem_cons_of_mem _ inside)
    have kept := settles row List.mem_cons_self
    have amount : amountOf (change row) = amountOf row := by simp only [amountOf,kept.amount]
    have worth := positive row List.mem_cons_self
    rw [List.map_cons,List.filter_cons,List.filter_cons]
    cases going : (change row).terminal with
    | false =>
      rw [kept.going going]
      simp only [Bool.not_false,if_true,List.map_cons,List.sum_cons,amount]
      exact add_le_add_right rest' _
    | true =>
      simp only [Bool.not_true,Bool.false_eq_true,if_false]
      cases row.terminal with
      | true => simpa only [Bool.not_true,Bool.false_eq_true,if_false] using rest'
      | false =>
        simp only [Bool.not_false,if_true,List.map_cons,List.sum_cons]
        exact le_add_of_nonneg_of_le worth rest'

theorem capped_change (capped : Capped caps database) (change : PositionRow → PositionRow)
    (settles : ∀ row ∈ database.positions, Settles change row) :
    Capped caps { database with positions := database.positions.map change } := by
  refine ⟨?_,?_,?_⟩
  · intro row inside
    obtain ⟨prior,there,rfl⟩ := List.mem_map.mp inside
    obtain ⟨amount,read,bounds⟩ := capped.amounts prior there
    exact ⟨amount,(settles prior there).amount ▸ read,bounds⟩
  · intro walletAddress
    exact Nat.le_trans (settles_count change _ settles walletAddress) (capped.count walletAddress)
  · refine le_trans (settles_sum change _ settles fun row inside => ?_) capped.total
    obtain ⟨amount,read,positive,-⟩ := capped.amounts row inside
    simp only [amountOf,read,Option.getD_some]
    exact le_of_lt positive

theorem set_settles (keyed : Keyed database) (found : database.position positionId = some row)
    (finishes : row.terminal = true → state ∈ TERMINAL_POSITION_STATES) (other : PositionRow)
    (inside : other ∈ database.positions) :
    Settles (fun other => if other.id = row.id then { other with state := state, updatedAt := now } else other) other := by
  have there : row ∈ database.positions := List.mem_of_find?_eq_some found
  by_cases same : other.id = row.id
  · have equal := List.inj_on_of_nodup_map keyed.positions inside there same
    subst equal
    refine ⟨?_,?_,?_⟩
    · simp only [if_true]
    · simp only [if_true]
    · simp only [if_true]
      intro going
      cases ended : other.terminal with
      | false => rfl
      | true =>
        have still : ({ other with state := state, updatedAt := now } : PositionRow).terminal = true :=
          decide_eq_true (finishes ended)
        exact nomatch going.symm.trans still
  · exact ⟨by simp only [if_neg same],by simp only [if_neg same],by simp only [if_neg same]; exact id⟩

theorem capped_did {world : World} {before rest : List Call} {call : Call} {next : Except Thrown (Reply query) → Async Outcome}
    (sound : Sound caps world) (capped : Capped caps world.stores.database) (here : world.calls = before ++ call :: rest)
    (turn : call.rest = .call query next) (did : Did query world.stores answer after)
    (uncrowded : Uncrowded world (.answer before.length)) : Capped caps after.database := by
  have inside : call ∈ world.calls := by simp [here]
  have met : steady world.stores call.past query := by
    have held := uncrowded call (by simp [here])
    rw [turn] at held
    exact held
  have moved : ∀ positions, after.database.positions = positions → Capped caps { world.stores.database with positions := positions } →
      Capped caps after.database := by
    rintro positions rfl kept
    exact ⟨kept.amounts,kept.count,kept.total⟩
  rcases did_shift did with ⟨input,now,rfl,positions⟩ | ⟨positionId,state,row,rfl,found,positions⟩ | positions
  · obtain ⟨ids,intent,operation,own,-,draft,wallet,amount_,-,-,amount,count,total,read,positive,most,counted,few,summed,room⟩ :=
      creates_own sound inside turn (.inl ⟨input,rfl⟩)
    apply moved _ positions
    have level := met.1 count (by rw [own]; exact counted)
    have below := met.2 total (by rw [own]; exact summed)
    apply capped_insert capped
    · change decide (input.state ∈ TERMINAL_POSITION_STATES) = false
      rw [draft]
      rfl
    · exact (congrArg number amount_).trans read
    · exact positive
    · exact most
    · exact Nat.lt_of_le_of_lt level few
    · exact le_trans (by gcongr) room
  · apply moved _ positions
    exact capped_change capped _ (set_settles sound.keyed found (met row found))
  · exact moved _ positions capped

end Capped

-- The caps in every state of a run in which no insert is based on readings that
-- have been outgrown.
theorem caps_hold {caps : BetaCapsConfig} (sane : 0 ≤ caps.maxGlobalTvlSol) (reached : Reached caps Uncrowded world) :
    Capped caps world.stores.database := by
  induction reached with
  | first => exact ⟨fun _ inside => absurd inside List.not_mem_nil,fun _ => Nat.zero_le _,sane⟩
  | step prior met step ih =>
    have sound := reached_sound prior
    cases step with
    | enter single => exact ih
    | answer here turn answered => exact capped_did sound ih here turn (.inl answered) met
    | fail here turn fails => exact capped_did sound ih here turn (.inr fails) met
    | land here => exact ⟨ih.amounts,ih.count,ih.total⟩
    | clock later => exact ih
    | crash => exact ih

-- Six intents of one wallet, none of which has seen another.
def crowd : List Action :=
  (List.range 6).map (fun n => .enter (.createDraftPositionIntent ⟨[Char.ofNat n],[Char.ofNat n],[Char.ofNat n]⟩ sampleInput)) ++
    (List.range 6).flatMap (fun n => List.replicate 3 (.answer n)) ++ (List.range 6).map .answer

theorem crowded : ¬∀ (caps : BetaCapsConfig) (world : World), 0 ≤ caps.maxGlobalTvlSol → Reached caps anyStep world → Capped caps world.stores.database := by
  intro claim
  have start : Reached sampleCaps anyStep (World.first 0 0) := .first
  have few := (claim sampleCaps _ (by decide) (play_reached start crowd)).count ['w']
  exact absurd few (by decide +kernel)

theorem caps_hold_sample : ∃ world : World, sumActiveAmountSol world.stores.database = 1 ∧ Capped sampleCaps world.stores.database := by
  refine ⟨World.play sampleCaps Uncrowded (World.first 0 0) sampleCreate,?_,
    caps_hold (by decide) (play_reached .first sampleCreate)⟩
  decide +kernel

end Octora.Positions
