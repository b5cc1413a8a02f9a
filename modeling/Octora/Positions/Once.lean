import Octora.Library.Roster
import Octora.Positions.View
import Octora.Positions.Schedule

namespace Octora.Positions
open Calls

-- What an operation may do once for each time that the session enters a state: it
-- takes the session out of that state and then spends what it has been admitted to.
structure Licence where
  gate : ExecutionState
  holder : Operation → Bool
  spends : Query → Bool
  spent : Sight → Bool

def isExecute : Operation → Bool
  | .executeSignedIntent _ => true
  | _ => false

def isExit : Operation → Bool
  | .claimPosition _ => true
  | .withdrawClosePosition _ => true
  | _ => false

def isPrepareFunding : Query → Bool
  | .prepareFunding _ => true
  | _ => false

def isAddLiquidity : Query → Bool
  | .addLiquidity _ => true
  | _ => false

def isVenueExit : Query → Bool
  | .claim _ => true
  | .withdrawClose _ => true
  | _ => false

def Licence.funding : Licence := ⟨.awaiting_signature,isExecute,isPrepareFunding,Sight.funded⟩

def Licence.addition : Licence := ⟨.awaiting_signature,isExecute,isAddLiquidity,Sight.added⟩

def Licence.exit : Licence := ⟨.active,isExit,isVenueExit,Sight.exited⟩

-- What the tables of conduct say of a licence.
structure Licence.Lawful (licence : Licence) : Prop where
  held : ∀ {caps me operation query sight}, permits caps me operation query sight → licence.spends query = true →
    licence.holder operation = true ∧ sight.wrote = true ∧ licence.spent sight = false
  enters : ∀ {caps me operation target stage sight}, licence.holder operation = true →
    permits caps me operation (.updateExecutionSession me target stage) sight →
    target ≠ licence.gate ∧ (sight.wrote = false → sight.session = some licence.gate)
  spending : ∀ {me query sight answer}, licence.spends query = true →
    licence.spent (look me sight query answer) = true
  kept : ∀ {me query sight answer}, licence.spent sight = true → licence.spent (look me sight query answer) = true
  service : ∀ {operation}, licence.holder operation = true → operation.isTick = false

-- The first write of a session takes it out of the state it was read in.
theorem execute_enters (holder : isExecute operation = true)
    (permitted : permits caps me operation (.updateExecutionSession me target stage) sight) :
    target ≠ .awaiting_signature ∧ (sight.wrote = false → sight.session = some .awaiting_signature) := by
  cases operation with
  | executeSignedIntent _ =>
    obtain ⟨-,-,ways⟩ := permitted
    rcases ways with ⟨rfl,-,session,-⟩ | ⟨rfl,-,-,wrote,-⟩ | ⟨rfl,-,-,wrote,-⟩ | ⟨rfl,-,-,wrote,-⟩
    · exact ⟨by decide,fun _ => session⟩
    · exact ⟨by decide,fun unwritten => absurd (wrote.symm.trans unwritten) (by decide)⟩
    · exact ⟨by decide,fun unwritten => absurd (wrote.symm.trans unwritten) (by decide)⟩
    · exact ⟨by decide,fun unwritten => absurd (wrote.symm.trans unwritten) (by decide)⟩
  | _ => exact nomatch holder

theorem exits_enter {exit : Exit} (started : exit.started ≠ .active) (settling : exit.settling ≠ .active)
    (permitted : exits me exit (.updateExecutionSession me target stage) sight) :
    target ≠ .active ∧ (sight.wrote = false → sight.session = some .active) := by
  obtain ⟨-,-,⟨rfl,-,-,session,-⟩ | ⟨wrote,ways⟩⟩ := permitted
  · exact ⟨started,fun _ => session⟩
  · refine ⟨?_,fun unwritten => absurd (wrote.symm.trans unwritten) (by decide)⟩
    rcases ways with ⟨rfl,-⟩ | ⟨rfl,-⟩ | ⟨rfl,-⟩ | ⟨rfl,-⟩
    · decide
    · exact settling
    · decide
    · decide

theorem funding_lawful : Licence.funding.Lawful where
  held {caps me operation query sight} permitted spends := by
    cases query with
    | prepareFunding input =>
      cases operation with
      | executeSignedIntent _ => exact ⟨rfl,permitted.2.1,permitted.2.2.1⟩
      | _ => exact False.elim permitted
    | _ => exact nomatch spends
  enters holder permitted := execute_enters holder permitted
  spending {me query sight answer} spends := by
    cases query with
    | prepareFunding input => cases answer <;> rfl
    | _ => exact nomatch spends
  kept {me query sight answer} spent := by
    cases query <;> cases answer <;> simp only [look] <;> (repeat' split) <;> first | exact spent | rfl
  service {operation} holder := by
    cases operation with
    | executeSignedIntent _ => rfl
    | _ => cases holder

theorem addition_lawful : Licence.addition.Lawful where
  held {caps me operation query sight} permitted spends := by
    cases query with
    | addLiquidity input =>
      cases operation with
      | executeSignedIntent _ => exact ⟨rfl,permitted.2.1,permitted.2.2⟩
      | _ => exact False.elim permitted
    | _ => exact nomatch spends
  enters holder permitted := execute_enters holder permitted
  spending {me query sight answer} spends := by
    cases query with
    | addLiquidity input => cases answer <;> rfl
    | _ => exact nomatch spends
  kept {me query sight answer} spent := by
    cases query <;> cases answer <;> simp only [look] <;> (repeat' split) <;> first | exact spent | rfl
  service {operation} holder := by
    cases operation with
    | executeSignedIntent _ => rfl
    | _ => cases holder

theorem exit_lawful : Licence.exit.Lawful where
  held {caps me operation query sight} permitted spends := by
    cases query with
    | claim input | withdrawClose input =>
      cases operation with
      | claimPosition _ | withdrawClosePosition _ => exact ⟨rfl,permitted.2.2.1,permitted.2.2.2⟩
      | _ => exact False.elim permitted
    | _ => exact nomatch spends
  enters {caps me operation target stage sight} holder permitted := by
    cases operation with
    | claimPosition _ => exact exits_enter (by decide) (by decide) permitted
    | withdrawClosePosition _ => exact exits_enter (by decide) (by decide) permitted
    | _ => exact nomatch holder
  spending {me query sight answer} spends := by
    cases query with
    | claim input | withdrawClose input => cases answer <;> rfl
    | _ => exact nomatch spends
  kept {me query sight answer} spent := by
    cases query <;> cases answer <;> simp only [look] <;> (repeat' split) <;> first | exact spent | rfl
  service {operation} holder := by
    cases operation with
    | claimPosition _ | withdrawClosePosition _ => rfl
    | _ => exact nomatch holder

-- The next call of a computation.
def asks (wanted : Query → Bool) : Async Outcome → Bool
  | .call query _ => wanted query
  | _ => false

section Accounts
variable (me : Text) (licence : Licence)

def spentOn (world : World) : Nat :=
  world.log.countP fun entry => decide (entry.1.concerns me) && licence.spends entry.2

-- A call that has taken the session out of the gate and has still to spend.
def pending (call : Call) : Bool :=
  decide (call.operation.concerns me) && licence.holder call.operation && call.running &&
    (sightOf me call.past).wrote && !licence.spent (sightOf me call.past) && !asks licence.spends call.rest

def open_ (seen : View) : Nat := if seen.session = some licence.gate then 1 else 0

-- How often the session has come to the gate, at its creation or by a write.
def entries (seen : View) : Nat :=
  seen.turns.countP (fun turn => decide (turn.2 = licence.gate) && decide (turn.1 ≠ licence.gate)) +
    if licence.gate = .awaiting_signature ∧ seen.session ≠ none then 1 else 0

-- The condition: when one of the three operations first writes the session, the
-- session is still in the state that the call read.
def Current (world : World) : Action → Prop
  | .answer index | .fail index => ∀ call ∈ world.calls[index]?,
      (isExecute call.operation || isExit call.operation) = true → (sightOf me call.past).wrote = false →
      asks (fun query => query.writesSession me) call.rest = true →
      (sightOf me call.past).session = (view me world.stores).session
  | _ => True

instance (world : World) (action : Action) : Decidable (Current me world action) := by
  unfold Current
  split <;> infer_instance

end Accounts

section Balance
variable {caps : BetaCapsConfig} {me : Text} {licence : Licence} {world : World} {before after : List Call} {call : Call}
  {query : Query} {answer : Except Thrown (Reply query)} {stores : Stores}
  {next : Except Thrown (Reply query) → Async Outcome} {sight knows : Sight} {seen later : View}

-- Every time the session is at the gate, and every call that has taken it out and
-- may still spend, is paid for by one coming to the gate.
def Balance (me : Text) (licence : Licence) (world : World) : Prop :=
  spentOn me licence world + world.calls.countP (pending me licence) + open_ licence (view me world.stores) ≤
    entries licence (view me world.stores)

theorem entries_turn (source target : ExecutionState) (found : seen.session = some source) :
    entries licence (seen.moveSession source target) = entries licence seen +
      if target = licence.gate ∧ source ≠ licence.gate then 1 else 0 := by
  simp only [entries,View.moveSession,found,List.countP_append,List.countP_singleton,ne_eq,reduceCtorEq,not_false_eq_true,
    and_true,Bool.and_eq_true,decide_eq_true_eq]
  omega

-- No call puts more at the gate than has come to it.
theorem deed_balance (deed : Deed me sight seen query knows later)
    (permitted : permits caps me operation query sight) :
    open_ licence later + entries licence seen ≤ open_ licence seen + entries licence later := by
  cases deed with
  | opens own absent =>
    rename_i input
    have state : input.state = .awaiting_signature := by
      cases operation with
      | createDraftPositionIntent _ _ => exact permitted.2.1
      | _ => exact False.elim permitted
    by_cases first : licence.gate = .awaiting_signature
    · simp [open_,entries,absent,state,first]
      omega
    · have apart : ExecutionState.awaiting_signature ≠ licence.gate := fun same => first same.symm
      simp [open_,entries,absent,state,first,apart]
  | movesSession found | movesSessionLost found =>
    rename_i source target _
    rw [entries_turn source target found]
    by_cases comes : target = licence.gate
    · by_cases stays : source = licence.gate
      · simp [open_,View.moveSession,found,comes,stays]
      · simp [open_,View.moveSession,found,comes,stays]
        omega
    · simp [open_,View.moveSession,found,comes]
  | creates _ _ | createsLost _ _ | movesRow _ | movesRowLost _ => exact Nat.le_refl _
  | _ => exact Nat.le_refl _

theorem look_wrote (deed : Deed me sight seen query knows later) (wrote : knows.wrote = true) :
    sight.wrote = true ∨ ∃ source target stage, query = .updateExecutionSession me target stage ∧
      seen.session = some source ∧ later = seen.moveSession source target := by
  cases deed with
  | movesSession found => exact .inr ⟨_,_,_,rfl,found,rfl⟩
  | lists found => exact Bool.noConfusion wrote
  | _ => exact .inl wrote

theorem pending_goesOn (concerns : call.operation.concerns me) (deed : look me (sightOf me call.past) query answer = knows) :
    pending me licence (call.goesOn query answer (next answer)) =
      (licence.holder call.operation && waits (next answer) && knows.wrote && !licence.spent knows &&
        !asks licence.spends (next answer)) := by
  simp only [pending,Call.goesOn,Call.running,sightOf_snoc,deed,concerns,decide_true,Bool.true_and]

theorem spentOn_answered :
    spentOn me licence (world.answered before call after query answer (next answer) stores) =
      spentOn me licence world +
        if (decide (call.operation.concerns me) && asks licence.spends (next answer)) = true then 1 else 0 := by
  simp only [spentOn,World.answered,List.countP_append]
  congr 1
  cases next answer with
  | ret _ => simp [made,asks]
  | throws _ => simp [made,asks]
  | call other rest => simp [made,asks,List.countP_singleton]

theorem pending_overtaken (me : Text) (licence : Licence) (query : Query) (call : Call) :
    pending me licence (call.overtaken query) = pending me licence call := rfl

-- What the call may spend from here on, it was admitted to.
theorem goesOn_licensed (lawful : licence.Lawful) (concerns : call.operation.concerns me)
    (deed : look me (sightOf me call.past) query answer = knows)
    (acts : Acts caps me (call.goesOn query answer (next answer)))
    (either : asks licence.spends (next answer) = true ∨ pending me licence (call.goesOn query answer (next answer)) = true) :
    licence.holder call.operation = true ∧ knows.wrote = true ∧ licence.spent knows = false := by
  rcases either with now | later
  · cases turn : next answer with
    | ret _ => rw [turn] at now; cases now
    | throws _ => rw [turn] at now; cases now
    | call other rest =>
      rw [turn] at now
      have permitted := acts_permitted acts turn
      simp only [Call.goesOn,sightOf_snoc,deed] at permitted
      exact lawful.held permitted now
  · rw [pending_goesOn concerns deed] at later
    simp only [Bool.and_eq_true,Bool.not_eq_true'] at later
    exact ⟨later.1.1.1.1,later.1.1.2,later.1.2⟩

-- Where a call has the right to spend after an answer, it had the right before, or it
-- has just taken the session from the gate.
theorem goesOn_paid (lawful : licence.Lawful) (here : world.calls = before ++ call :: after)
    (turn : call.rest = .call query next) (current : Current me world (.answer before.length))
    (service : licence.holder call.operation = true → (isExecute call.operation || isExit call.operation) = true)
    (concerns : call.operation.concerns me) (permitted : permits caps me call.operation query (sightOf me call.past))
    (deed : Deed me (sightOf me call.past) (view me world.stores) query knows later)
    (known : look me (sightOf me call.past) query answer = knows)
    (holder : licence.holder call.operation = true) (wrote : knows.wrote = true) (unspent : licence.spent knows = false) :
    pending me licence call = true ∨ open_ licence (view me world.stores) = 1 ∧ open_ licence later = 0 ∧
      entries licence (view me world.stores) ≤ entries licence later := by
  have unspent' : licence.spent (sightOf me call.past) = false := by
    cases before : licence.spent (sightOf me call.past) with
    | false => rfl
    | true =>
      have still : licence.spent knows = true := known ▸ lawful.kept before
      exact absurd (still.symm.trans unspent) (by decide)
  have notNow : licence.spends query = false := by
    cases spends : licence.spends query with
    | false => rfl
    | true =>
      have spent : licence.spent knows = true := known ▸ lawful.spending spends
      exact absurd (spent.symm.trans unspent) (by decide)
  cases written : (sightOf me call.past).wrote with
  | true =>
    left
    simp only [pending,concerns,holder,Call.running,turn,waits,written,unspent',asks,notNow,decide_true,Bool.not_false,
      Bool.and_self]
  | false =>
    right
    rcases look_wrote deed wrote with early | ⟨source,target,stage,rfl,found,moved⟩
    · exact absurd (written.symm.trans early) (by decide)
    · obtain ⟨leaves,gate⟩ := lawful.enters holder permitted
      have read := current call (by rw [here]; simp) (service holder) written (by rw [turn]; simp [asks,Query.writesSession])
      rw [gate written] at read
      have atGate : source = licence.gate := Option.some.inj (found.symm.trans read.symm)
      rw [moved,entries_turn source target found]
      refine ⟨by simp [open_,← read],by simp [open_,View.moveSession,leaves],Nat.le_add_right _ _⟩

theorem balance_did (lawful : licence.Lawful) (sound : Sound caps world) (here : world.calls = before ++ call :: after)
    (turn : call.rest = .call query next) (did : Did query world.stores answer stores)
    (current : Current me world (.answer before.length)) (balance : Balance me licence world)
    (service : licence.holder call.operation = true → (isExecute call.operation || isExit call.operation) = true) :
    Balance me licence (world.answered before call after query answer (next answer) stores) := by
  have sound' := sound_did sound here turn did
  have inside : call ∈ world.calls := by simp [here]
  have deed : Deed me (sightOf me call.past) (view me world.stores) query _ (view me stores) :=
    deed_did sound.keyed sound'.keyed did
  have roster := Roster.countP_replaced (pending_overtaken me licence query) before after call
    (call.goesOn query answer (next answer))
  rw [← here] at roster
  have spent := @spentOn_answered me licence world before after call query answer stores next
  unfold Balance at balance ⊢
  rw [spent]
  change _ + List.countP (pending me licence) (before.map (Call.overtaken query) ++
    call.goesOn query answer (next answer) :: after.map (Call.overtaken query)) + open_ licence (view me stores) ≤
      entries licence (view me stores)
  by_cases concerns : call.operation.concerns me
  · have permitted := acts_permitted (sound.acts call inside me concerns) turn
    have flow : open_ licence _ + _ ≤ _ := deed_balance deed permitted
    have acts' := acts_goesOn (sound.acts call inside me concerns) turn (did_fit sound.keyed did)
    have paid : asks licence.spends (next answer) = true ∨ pending me licence (call.goesOn query answer (next answer)) = true →
        pending me licence call = true ∨ open_ licence (view me world.stores) = 1 ∧ open_ licence (view me stores) = 0 ∧
          entries licence (view me world.stores) ≤ entries licence (view me stores) := by
      intro either
      obtain ⟨holder,wrote,unspent⟩ := goesOn_licensed lawful concerns rfl acts' either
      exact goesOn_paid lawful here turn current service concerns permitted deed rfl holder wrote unspent
    simp only [concerns,decide_true,Bool.true_and]
    cases now : asks licence.spends (next answer) with
    | true =>
      have apart : pending me licence (call.goesOn query answer (next answer)) = false := by
        rw [pending_goesOn concerns rfl,now]
        simp
      rw [apart] at roster
      rcases paid (.inl now) with had | ⟨one,zero,grown⟩
      · rw [had] at roster
        simp at roster ⊢
        omega
      · have : (if pending me licence call = true then 1 else 0) ≤ 1 := by split <;> omega
        simp at roster ⊢
        omega
    | false =>
      cases later : pending me licence (call.goesOn query answer (next answer)) with
      | true =>
        rw [later] at roster
        rcases paid (.inr later) with had | ⟨one,zero,grown⟩
        · rw [had] at roster
          simp at roster ⊢
          omega
        · simp at roster ⊢
          omega
      | false =>
        rw [later] at roster
        simp at roster ⊢
        omega
  · have same := apart_view sound inside turn concerns deed
    have one : pending me licence call = false := by simp [pending,concerns]
    have two : pending me licence (call.goesOn query answer (next answer)) = false := by
      simp [pending,Call.goesOn,concerns]
    rw [one,two] at roster
    rw [same]
    simp only [concerns,decide_false,Bool.false_and]
    simp at roster ⊢
    omega

theorem balance_enter (lawful : licence.Lawful) (balance : Balance me licence world) (operation : Operation)
    (entered : Database) :
    Balance me licence
      { world with
        calls := world.calls ++ [⟨operation,[],bodyOf caps operation,entered,[]⟩]
        log := world.log ++ made operation (bodyOf caps operation) } := by
  have quiet : spentOn me licence
      { world with
        calls := world.calls ++ [⟨operation,[],bodyOf caps operation,entered,[]⟩]
        log := world.log ++ made operation (bodyOf caps operation) } = spentOn me licence world := by
    simp only [spentOn,List.countP_append]
    cases start : bodyOf caps operation with
    | ret _ => rfl
    | throws _ => rfl
    | call query next =>
      simp only [made,List.countP_singleton]
      rw [if_neg,Nat.add_zero]
      intro spends
      simp only [Bool.and_eq_true,decide_eq_true_eq] at spends
      have goes : Goes me (permits caps me operation) _ _ := body_goes spends.1
      rw [start] at goes
      exact absurd (lawful.held goes.1 spends.2).2.1 (by decide)
  unfold Balance at balance ⊢
  rw [quiet,List.countP_append]
  simpa [pending,sightOf,Sight.start] using balance

theorem balance_step (lawful : licence.Lawful)
    (service : ∀ operation, licence.holder operation = true → (isExecute operation || isExit operation) = true)
    (sound : Sound caps world) (current : Current me world action) (step : Step caps world action world')
    (balance : Balance me licence world) : Balance me licence world' := by
  cases step with
  | enter single => exact balance_enter lawful balance _ _
  | answer here turn answered => exact balance_did lawful sound here turn (.inl answered) current balance (service _)
  | fail here turn fails => exact balance_did lawful sound here turn (.inr fails) current balance (service _)
  | land here => exact balance
  | clock later => exact balance
  | crash =>
    have fewer := @Roster.countP_fewer Call (pending me licence) Call.crashed (by
      intro call crashed
      unfold Call.crashed at crashed
      split at crashed
      · simp [pending,Call.running,waits] at crashed
      · exact crashed) world.calls
    unfold Balance at balance ⊢
    exact Nat.le_trans (Nat.add_le_add_right (Nat.add_le_add_left fewer _) _) balance

theorem never_awaiting (permitted : permits caps me operation (.updateExecutionSession me target stage) sight) :
    target ≠ .awaiting_signature := by
  cases operation with
  | createDraftPositionIntent _ _ => exact False.elim permitted
  | executeSignedIntent _ =>
    obtain ⟨-,-,⟨rfl,-⟩ | ⟨rfl,-⟩ | ⟨rfl,-⟩ | ⟨rfl,-⟩⟩ := permitted <;> decide
  | claimPosition _ | withdrawClosePosition _ =>
    obtain ⟨-,-,⟨rfl,-⟩ | ⟨-,⟨rfl,-⟩ | ⟨rfl,-⟩ | ⟨rfl,-⟩ | ⟨rfl,-⟩⟩⟩ := permitted <;> decide
  | getPosition _ =>
    obtain ⟨-,rfl,-⟩ := permitted
    decide
  | tick _ =>
    rcases permitted rfl with ⟨-,⟨rfl,-⟩ | ⟨rfl,-⟩⟩ | ⟨rfl,-⟩ <;> decide

end Balance

-- No session is ever put back to where it waits for its signature.
theorem turns_onward (reached : Reached caps meets world) :
    ∀ turn ∈ (view me world.stores).turns, turn.2 ≠ .awaiting_signature := by
  induction reached with
  | first => exact fun _ inside => absurd inside List.not_mem_nil
  | step prior met step ih =>
    rcases step_view (reached_sound prior) step me with same | ⟨record,saves,landed⟩ | ⟨call,query,knows,permitted,deed⟩
    · rw [same]
      exact ih
    · rw [landed]
      exact ih
    · rcases deed_turns deed with same | ⟨source,target,stage,rfl,-,turned⟩
      · rw [same]
        exact ih
      · rw [turned]
        intro turn inside
        rcases List.mem_append.mp inside with old | new
        · exact ih turn old
        · rw [List.mem_singleton.mp new]
          exact never_awaiting permitted

theorem reached_balance (lawful : licence.Lawful)
    (service : ∀ operation, licence.holder operation = true → (isExecute operation || isExit operation) = true)
    (reached : Reached caps (Current me) world) : Balance me licence world := by
  induction reached with
  | first => exact Nat.zero_le _
  | step prior met step ih => exact balance_step lawful service (reached_sound prior) met step ih

def fundingsPrepared (me : Text) (world : World) : Nat :=
  world.log.countP fun entry => decide (entry.1.concerns me) && isPrepareFunding entry.2

def liquidityAdded (me : Text) (world : World) : Nat :=
  world.log.countP fun entry => decide (entry.1.concerns me) && isAddLiquidity entry.2

def venueExits (me : Text) (world : World) : Nat :=
  world.log.countP fun entry => decide (entry.1.concerns me) && isVenueExit entry.2

def activations (me : Text) (world : World) : Nat :=
  (changesOf me world.stores.sessionChanges).countP fun turn => decide (turn.2 = .active) && decide (turn.1 ≠ .active)

theorem entries_once (onward : ∀ turn ∈ seen.turns, turn.2 ≠ .awaiting_signature) (first : licence.gate = .awaiting_signature) :
    entries licence seen ≤ 1 := by
  have none_ : seen.turns.countP
      (fun turn => decide (turn.2 = licence.gate) && decide (turn.1 ≠ licence.gate)) = 0 := by
    apply List.countP_eq_zero.mpr
    intro turn inside both
    rw [first,Bool.and_eq_true] at both
    exact onward turn inside (of_decide_eq_true both.1)
  unfold entries
  rw [none_]
  split <;> omega

theorem spent_entries (lawful : licence.Lawful)
    (service : ∀ operation, licence.holder operation = true → (isExecute operation || isExit operation) = true)
    (reached : Reached caps (Current me) world) :
    spentOn me licence world ≤ entries licence (view me world.stores) := by
  have balance := reached_balance lawful service reached
  unfold Balance at balance
  omega

-- The calls of the venue for a position, over any run in which each operation that
-- takes its session out of a state finds it still in that state.
theorem venue_once (reached : Reached caps (Current me) world) :
    fundingsPrepared me world ≤ 1 ∧ liquidityAdded me world ≤ 1 ∧ venueExits me world ≤ activations me world := by
  have onward : ∀ turn ∈ (view me world.stores).turns, turn.2 ≠ .awaiting_signature := turns_onward reached
  refine ⟨?_,?_,?_⟩
  · apply Nat.le_trans (spent_entries funding_lawful _ reached) (entries_once onward rfl)
    intro operation holder
    rw [show isExecute operation = true from holder,Bool.true_or]
  · apply Nat.le_trans (spent_entries addition_lawful _ reached) (entries_once onward rfl)
    intro operation holder
    rw [show isExecute operation = true from holder,Bool.true_or]
  · apply Nat.le_trans (spent_entries exit_lawful _ reached)
    · exact Nat.le_of_eq rfl
    · intro operation holder
      rw [show isExit operation = true from holder,Bool.or_true]

abbrev anyStep : World → Action → Prop := fun _ _ => True

def sampleExecute : Operation := .executeSignedIntent ⟨['p'],['m']⟩

-- Two requests for one intent, the second read before the first has written.
def doubleClick : List Action :=
  sampleCreate ++ [.enter sampleExecute,.enter sampleExecute,.answer 1,.answer 2,.answer 1,.answer 2] ++
    List.replicate 6 (.answer 1) ++ List.replicate 6 (.answer 2)

theorem double_click : ¬∀ me caps world, Reached caps anyStep world →
    fundingsPrepared me world ≤ 1 ∧ liquidityAdded me world ≤ 1 ∧ venueExits me world ≤ activations me world := by
  intro claim
  have start : Reached sampleCaps anyStep (World.first 0 0) := .first
  have twice := (claim ['p'] sampleCaps _ (play_reached start doubleClick)).2.1
  exact absurd twice (by decide +kernel)

-- One position from its intent to its close, undisturbed.
def undisturbed : List Action :=
  sampleCreate ++ [.enter sampleExecute] ++ List.replicate 13 (.answer 1) ++ [.land 0,.land 0,.enter (.getPosition ['p'])] ++
    List.replicate 9 (.answer 2) ++ [.enter (.withdrawClosePosition ['p'])] ++ List.replicate 17 (.answer 3)

theorem venue_once_sample : ∃ world, liquidityAdded ['p'] world = 1 ∧ venueExits ['p'] world = 1 ∧
    fundingsPrepared ['p'] world ≤ 1 ∧ liquidityAdded ['p'] world ≤ 1 ∧ venueExits ['p'] world ≤ activations ['p'] world := by
  refine ⟨World.play sampleCaps (Current ['p']) (World.first 0 0) undisturbed,?_,?_,
    venue_once (play_reached .first undisturbed)⟩
  · decide +kernel
  · decide +kernel

end Octora.Positions
