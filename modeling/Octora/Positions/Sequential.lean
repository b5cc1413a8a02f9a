import Octora.Positions.Once

namespace Octora.Positions
open Calls Op

-- The two rows of one position as a call that runs alone finds and leaves them, and
-- whether the call has written to a table.
structure Pair where
  row : Option ExecutionState
  session : Option (ExecutionState × Option FailureStage)
  touched : Bool

-- The calls that leave the process for the adapter, the venue or the RPC.
def Query.outside : Query → Bool
  | .prepareFunding _ | .prepareExit _ | .addLiquidity _ | .claim _ | .withdrawClose _ | .getSignatureStatus _ => true
  | _ => false

def Query.changes : Query → Bool
  | .createPosition _ | .updatePositionState _ _ | .createExecutionSession _ | .updateExecutionSession _ _ _
  | .createActivity _ => true
  | _ => false

@[simp] def follow (me : Text) (here : Pair) : Query → Pair
  | .createPosition input =>
      { here with row := if input.id = me then some input.state else here.row, touched := true }
  | .createExecutionSession input =>
      { here with
        session := if input.positionId = me then some (input.state,input.failureStage) else here.session
        touched := true }
  | .updatePositionState positionId state =>
      { here with row := if positionId = me then some state else here.row, touched := true }
  | .updateExecutionSession positionId state stage =>
      { here with session := if positionId = me then some (state,stage) else here.session, touched := true }
  | .createActivity _ => { here with touched := true }
  | _ => here

-- What an answer says of the rows. The repository answers; only what is asked of the
-- outside, or of another position, may fail.
@[simp] def tells (me : Text) (here : Pair) : (query : Query) → Except Thrown (Reply query) → Prop
  | .createPosition input,.ok _ => input.id = me → here.row = none
  | .getPositionById positionId,.ok found => positionId = me → found.map PositionRow.state = here.row
  | .getLatestExecutionSession positionId,.ok found =>
      positionId = me → (found.map fun session => (session.state,session.failureStage)) = here.session
  | .findStuckPositions state _ _,.ok page => me ∈ page.map PositionRow.id → here.row = some state
  | query,.error _ => query.outside = true ∨ ∃ other, query.about = some other ∧ other ≠ me
  | _,.ok _ => True

def Told (me : Text) (query : Query) (here : Pair) (answer : Except Thrown (Reply query)) (after : Pair) : Prop :=
  fits query answer ∧ tells me here query answer ∧ after = follow me here query

-- The updates that the state machine knows, of rows that are there.
@[simp] def legalTurn (me : Text) : Query → Pair → Prop
  | .updatePositionState positionId _,here => positionId = me → here.row ≠ none
  | .updateExecutionSession positionId target _,here => positionId = me →
      ∃ source stage, here.session = some (source,stage) ∧ canTransition source target = true
  | _,_ => True

def SETTLED_PAIRS : List (ExecutionState × ExecutionState) :=
  [(.draft,.awaiting_signature),(.indexing,.indexing),(.active,.active),(.completed,.completed),(.failed,.failed)]

-- How a call may leave a position: without rows, or with both in step and a stage of
-- failure just when they have failed.
@[simp] def Settled (here : Pair) : Prop :=
  match here.row,here.session with
  | none,none => True
  | some row,some (session,stage) => (row,session) ∈ SETTLED_PAIRS ∧ (stage.isSome = true ↔ session = .failed)
  | _,_ => False

@[simp] def Finished : Except Thrown α → Pair → Prop
  | .ok _,here => Settled here
  | .error _,here => Settled here ∧ here.touched = false

def Alone (me : Text) (p : Async α) (post : Except Thrown α → Pair → Prop) (here : Pair) : Prop :=
  p.Follows (Told me) (legalTurn me) post here

section Rules
variable {me : Text} {here : Pair} {α β : Type} {post : Except Thrown α → Pair → Prop}

theorem alone_ask {query : Query} {next : Reply query → Async α} (allowed : legalTurn me query here)
    (answered : ∀ error, ¬tells me here query (.error error))
    (goes : ∀ value, fits query (.ok value) → tells me here query (.ok value) → Alone me (next value) post (follow me here query)) :
    Alone me (ask query >>= next) post here := by
  refine ⟨allowed,?_⟩
  rintro (error | value) after ⟨fit,told,rfl⟩
  · exact absurd told (answered error)
  · exact goes value fit told

theorem alone_try {query : Query} {next : Except Thrown (Reply query) → Async α} (allowed : legalTurn me query here)
    (goes : ∀ answer, fits query answer → tells me here query answer → Alone me (next answer) post (follow me here query)) :
    Alone me (attempt (ask query) >>= next) post here := by
  refine ⟨allowed,?_⟩
  rintro (error | value) after ⟨fit,told,rfl⟩
  · exact goes (.error error) fit told
  · exact goes (.ok value) fit told

theorem alone_assert {source target : ExecutionState} {next : Unit → Async α} (legal : canTransition source target = true)
    (goes : Alone me (next ()) post here) : Alone me (assertTransition source target >>= next) post here := by
  unfold assertTransition
  rw [if_pos legal]
  exact goes

theorem alone_pure {value : α} (settled : Settled here) : Alone me (pure value) Finished here := settled

theorem alone_value {value : β} {next : β → Async α} (goes : Alone me (next value) post here) :
    Alone me (pure value >>= next) post here := goes

end Rules

theorem settled_awaiting (settled : Settled ⟨row,some (session,stage),touched⟩)
    (legal : canTransition session .funding_in_progress = true) :
    row = some .draft ∧ session = .awaiting_signature ∧ stage = none := by
  have awaiting := funding_from.mp legal
  subst awaiting
  cases row with
  | none => exact settled.elim
  | some row =>
    cases stage with
    | none => cases row <;> simp [SETTLED_PAIRS] at settled ⊢
    | some stage => simp at settled

section Service
variable {me : Text} {here : Pair}

theorem recordFailure_alone {position : PositionRow} (own : position.id = me) (row : here.row ≠ none)
    (session : here.session = some (source,held)) (legal : canTransition source .failed = true) :
    Alone me (recordFailure position stage) Finished here := by
  subst own
  unfold recordFailure
  apply alone_ask
  · simpa using row
  · simp [Query.outside,Query.about]
  intro failedPosition fit _
  apply alone_ask
  · simp [session,legal]
  · simp [Query.outside,Query.about]
  intro failedSession _ _
  refine alone_ask trivial ?_ ?_
  · simp [Query.outside,Query.about]
  intro _ _ _
  refine alone_ask trivial ?_ ?_
  · simp [Query.outside,Query.about]
  intro _ _ _
  apply alone_pure
  simp [SETTLED_PAIRS]

theorem createDraftPositionIntent_alone (own : ids.positionId = me) (settled : Settled here) (untouched : here.touched = false) :
    Alone me (createDraftPositionIntent caps ids input) Finished here := by
  subst own
  have refused : ∀ error, Alone ids.positionId (throws error : Async PositionResponse) Finished here :=
    fun error => ⟨settled,untouched⟩
  unfold createDraftPositionIntent
  split
  · exact refused _
  unfold assertBetaCaps
  split
  · exact refused _
  split
  · exact refused _
  split
  · exact refused _
  have insert : ∀ count total, ∀ amount : ℚ,
      Alone ids.positionId
        (((if caps.maxPositionsPerWallet ≤ count then throws .betaCapExceeded
          else if caps.maxGlobalTvlSol < total + amount then throws .betaCapExceeded
          else pure () : Async Unit)) >>= fun _ => do
            let position ← createPosition
              { id := ids.positionId, intentId := ids.intentId, walletAddress := input.walletAddress,
                action := input.action, mode := input.mode, state := .draft, poolSlug := input.pool,
                amount := input.amount }
            let session ← createExecutionSession
              { id := ids.sessionId, positionId := ids.positionId, state := .awaiting_signature, failureStage := none }
            let activity ← record position .awaiting_signature "Intent received".toList .wait
            pure (⟨position,session,[activity]⟩ : PositionResponse)) Finished here := by
    intro count total amount
    split
    · exact refused _
    split
    · exact refused _
    refine alone_ask trivial ?_ ?_
    · simp [Query.outside,Query.about]
    intro position _ fresh
    refine alone_ask trivial ?_ ?_
    · simp [Query.outside,Query.about]
    intro session _ _
    refine alone_ask trivial ?_ ?_
    · simp [Query.outside,Query.about]
    intro activity _ _
    apply alone_pure
    simp [SETTLED_PAIRS]
  unfold countAndSum
  rw [← Op.bind_assoc,← Op.bind_assoc]
  refine alone_ask trivial ?_ ?_
  · simp [Query.outside,Query.about]
  intro first _ _
  split
  · rw [← Op.bind_assoc]
    refine alone_ask trivial ?_ ?_
    · simp [Query.outside,Query.about]
    intro count _ _
    rw [← Op.bind_assoc]
    refine alone_ask trivial ?_ ?_
    · simp [Query.outside,Query.about]
    intro total _ _
    exact insert count total _
  · rw [← Op.bind_assoc]
    refine alone_ask trivial ?_ ?_
    · simp [Query.outside,Query.about]
    intro total _ _
    rw [← Op.bind_assoc]
    refine alone_ask trivial ?_ ?_
    · simp [Query.outside,Query.about]
    intro count _ _
    exact insert count total _

theorem executeSignedIntent_alone (own : input.positionId = me) (settled : Settled here) (untouched : here.touched = false) :
    Alone me (executeSignedIntent input) Finished here := by
  subst own
  have refused : ∀ error, Alone input.positionId (throws error : Async PositionResponse) Finished here :=
    fun error => ⟨settled,untouched⟩
  unfold executeSignedIntent
  split
  · exact refused _
  refine alone_ask trivial ?_ ?_
  · simp [Query.outside,Query.about]
  rintro (_ | position) fit _
  · exact refused _
  have own : position.id = input.positionId := fit
  refine alone_ask trivial ?_ ?_
  · simp [Query.outside,Query.about]
  rintro (_ | session) _ read
  · exact refused _
  have read : some (session.state,session.failureStage) = here.session := read rfl
  dsimp only
  split
  · exact refused _
  unfold assertTransition
  split
  · rename_i legal
    obtain ⟨row,held,touched⟩ := here
    cases read
    obtain ⟨rfl,awaiting,-⟩ := settled_awaiting settled legal
    apply alone_ask
    · simp [awaiting,canTransition,transitions]
    · simp [Query.outside,Query.about]
    intro fundingSession funding _
    refine alone_ask trivial ?_ ?_
    · simp [Query.outside,Query.about]
    intro _ _ _
    refine alone_try trivial ?_
    rintro (_ | fundingReceipt) _ _
    · apply recordFailure_alone own
      · simp
      · simp only [follow,if_true]
        rfl
      · decide
    apply alone_assert
    · rw [funding]
      decide
    apply alone_ask
    · simp [canTransition,transitions]
    · simp [Query.outside,Query.about]
    intro executingSession executing _
    refine alone_ask trivial ?_ ?_
    · simp [Query.outside,Query.about]
    intro _ _ _
    refine alone_try trivial ?_
    rintro (_ | venueReceipt) _ _
    · apply recordFailure_alone own
      · simp
      · simp only [follow,if_true]
        rfl
      · decide
    apply alone_assert
    · rw [executing]
      decide
    refine alone_ask trivial ?_ ?_
    · simp [Query.outside,Query.about,own]
    intro _ _ _
    apply alone_ask
    · simp
    · simp [Query.outside,Query.about]
    intro indexingPosition indexed _
    apply alone_ask
    · simp [canTransition,transitions]
    · simp [Query.outside,Query.about]
    intro indexingSession _ _
    refine alone_ask trivial ?_ ?_
    · simp [Query.outside,Query.about]
    intro _ _ _
    refine alone_ask trivial ?_ ?_
    · simp [Query.outside,Query.about,own]
    intro _ _ _
    refine alone_ask trivial ?_ ?_
    · simp [Query.outside,Query.about]
    intro activity _ _
    apply alone_pure
    simp [SETTLED_PAIRS]
  · exact refused _

-- Both exits first find the position and its session active.
theorem active_alone {next : PositionRow → ExecutionSessionRow → Async PositionResponse} (settled : Settled here)
    (untouched : here.touched = false)
    (rest : ∀ position session stage, position.id = me → session.state = .active →
      Alone me (next position session) Finished ⟨some .active,some (.active,stage),false⟩) :
    Alone me (getActivePosition me >>= fun position => getLatestActiveSession me >>= fun session => next position session)
      Finished here := by
  have refused : ∀ error, Alone me (throws error : Async PositionResponse) Finished here :=
    fun error => ⟨settled,untouched⟩
  unfold getActivePosition getLatestActiveSession
  rw [← Op.bind_assoc]
  refine alone_ask trivial ?_ ?_
  · simp [Query.outside,Query.about]
  rintro (_ | position) own row
  · exact refused _
  dsimp only
  split
  · exact refused _
  rename_i there
  have active : position.state = .active := not_not.mp there
  change Alone me (_ >>= fun session => next position session) _ _
  rw [← Op.bind_assoc]
  refine alone_ask trivial ?_ ?_
  · simp [Query.outside,Query.about]
  rintro (_ | session) _ read
  · exact refused _
  dsimp only
  split
  · exact refused _
  rename_i open_
  have live : session.state = .active := not_not.mp open_
  apply alone_value
  have row : some position.state = here.row := row rfl
  have read : some (session.state,session.failureStage) = here.session := read rfl
  obtain ⟨_,_,touched⟩ := here
  cases row
  cases read
  cases untouched
  simpa [active,live] using rest position session session.failureStage own live

theorem claimPosition_alone (settled : Settled here) (untouched : here.touched = false) :
    Alone me (claimPosition me) Finished here := by
  unfold claimPosition
  apply active_alone settled untouched
  intro position session stage own live
  subst own
  dsimp only
  apply alone_assert
  · rw [live]
    decide
  apply alone_ask
  · simp
  · simp [Query.outside,Query.about]
  intro claimingPosition _ _
  apply alone_ask
  · simp [canTransition,transitions]
  · simp [Query.outside,Query.about]
  intro claimingSession claiming _
  refine alone_ask trivial ?_ ?_
  · simp [Query.outside,Query.about]
  intro _ _ _
  refine alone_try trivial ?_
  rintro (_ | exitReceipt) _ _
  · apply recordFailure_alone rfl
    · simp
    · simp only [follow,if_true]
      rfl
    · decide
  refine alone_try trivial ?_
  rintro (_ | venueReceipt) _ _
  · apply recordFailure_alone rfl
    · simp
    · simp only [follow,if_true]
      rfl
    · decide
  apply alone_assert
  · rw [claiming]
    decide
  apply alone_ask
  · simp
  · simp [Query.outside,Query.about]
  intro indexingPosition _ _
  apply alone_ask
  · simp [canTransition,transitions]
  · simp [Query.outside,Query.about]
  intro indexingSession indexing _
  refine alone_ask trivial ?_ ?_
  · simp [Query.outside,Query.about]
  intro _ _ _
  apply alone_assert
  · rw [indexing]
    decide
  apply alone_ask
  · simp
  · simp [Query.outside,Query.about]
  intro completedPosition _ _
  apply alone_ask
  · simp [canTransition,transitions]
  · simp [Query.outside,Query.about]
  intro completedSession _ _
  refine alone_ask trivial ?_ ?_
  · simp [Query.outside,Query.about]
  intro _ _ _
  refine alone_ask trivial ?_ ?_
  · simp [Query.outside,Query.about]
  intro activity _ _
  apply alone_pure
  simp [SETTLED_PAIRS]

theorem withdrawClosePosition_alone (settled : Settled here) (untouched : here.touched = false) :
    Alone me (withdrawClosePosition me) Finished here := by
  unfold withdrawClosePosition
  apply active_alone settled untouched
  intro position session stage own live
  subst own
  dsimp only
  apply alone_assert
  · rw [live]
    decide
  apply alone_ask
  · simp
  · simp [Query.outside,Query.about]
  intro withdrawingPosition _ _
  apply alone_ask
  · simp [canTransition,transitions]
  · simp [Query.outside,Query.about]
  intro withdrawingSession withdrawing _
  refine alone_ask trivial ?_ ?_
  · simp [Query.outside,Query.about]
  intro _ _ _
  refine alone_try trivial ?_
  rintro (_ | exitReceipt) _ _
  · apply recordFailure_alone rfl
    · simp
    · simp only [follow,if_true]
      rfl
    · decide
  refine alone_try trivial ?_
  rintro (_ | venueReceipt) _ _
  · apply recordFailure_alone rfl
    · simp
    · simp only [follow,if_true]
      rfl
    · decide
  apply alone_assert
  · rw [withdrawing]
    decide
  apply alone_ask
  · simp
  · simp [Query.outside,Query.about]
  intro closingPosition _ _
  apply alone_ask
  · simp [canTransition,transitions]
  · simp [Query.outside,Query.about]
  intro closingSession closing _
  refine alone_ask trivial ?_ ?_
  · simp [Query.outside,Query.about]
  intro _ _ _
  apply alone_assert
  · rw [closing]
    decide
  apply alone_ask
  · simp
  · simp [Query.outside,Query.about]
  intro indexingPosition _ _
  apply alone_ask
  · simp [canTransition,transitions]
  · simp [Query.outside,Query.about]
  intro indexingSession indexing _
  refine alone_ask trivial ?_ ?_
  · simp [Query.outside,Query.about]
  intro _ _ _
  apply alone_assert
  · rw [indexing]
    decide
  apply alone_ask
  · simp
  · simp [Query.outside,Query.about]
  intro completedPosition _ _
  apply alone_ask
  · simp [canTransition,transitions]
  · simp [Query.outside,Query.about]
  intro completedSession _ _
  refine alone_ask trivial ?_ ?_
  · simp [Query.outside,Query.about]
  intro _ _ _
  refine alone_ask trivial ?_ ?_
  · simp [Query.outside,Query.about]
  intro activity _ _
  apply alone_pure
  simp [SETTLED_PAIRS]

theorem settled_indexing (settled : Settled ⟨row,some (.indexing,stage),touched⟩) : row = some .indexing ∧ stage = none := by
  cases row with
  | none => exact settled.elim
  | some row =>
    cases stage with
    | none => cases row <;> simp [SETTLED_PAIRS] at settled ⊢
    | some stage => simp at settled

theorem getPosition_alone (settled : Settled here) (untouched : here.touched = false) :
    Alone me (getPosition me) Finished here := by
  have refused : ∀ error, Alone me (throws error : Async PositionResponse) Finished here :=
    fun error => ⟨settled,untouched⟩
  unfold getPosition
  refine alone_ask trivial ?_ ?_
  · simp [Query.outside,Query.about]
  rintro (_ | position) own row
  · exact refused _
  refine alone_ask trivial ?_ ?_
  · simp [Query.outside,Query.about]
  rintro (_ | session) _ read
  · exact refused _
  refine alone_ask trivial ?_ ?_
  · simp [Query.outside,Query.about]
  intro activities _ _
  dsimp only
  split
  · exact settled
  rename_i there
  have indexing : session.state = .indexing := not_not.mp there
  have row : some position.state = here.row := row rfl
  have read : some (session.state,session.failureStage) = here.session := read rfl
  obtain ⟨_,_,touched⟩ := here
  cases row
  cases read
  rw [indexing] at settled
  obtain ⟨state,unfailed⟩ := settled_indexing settled
  have state : position.state = .indexing := Option.some.inj state
  unfold reconcile
  rw [← Op.bind_assoc]
  refine alone_ask trivial ?_ ?_
  · simp [Query.outside,Query.about]
  intro entry _ _
  cases signatureOf entry with
  | none =>
    dsimp only
    apply alone_value
    rw [if_neg fun both => ExecutionState.noConfusion both.1]
    split
    · refine alone_ask trivial ?_ ?_
      · simp [Query.outside,Query.about]
      intro _ _ _
      refine alone_ask trivial ?_ ?_
      · simp [Query.outside,Query.about]
      intro _ _ _
      apply alone_pure
      simp [state,indexing,unfailed,SETTLED_PAIRS]
    · apply alone_pure
      simp [state,indexing,unfailed,SETTLED_PAIRS]
  | some signature =>
    dsimp only
    rw [← Op.bind_assoc]
    refine alone_ask trivial ?_ ?_
    · simp [Query.outside,Query.about]
    intro _ _ _
    apply alone_value
    rw [if_pos ⟨rfl,by rw [state]; decide⟩]
    apply alone_ask
    · simp
    · simp [Query.outside,Query.about]
    intro activePosition _ _
    apply alone_ask
    · simp [indexing,canTransition,transitions]
    · simp [Query.outside,Query.about]
    intro activeSession _ _
    refine alone_ask trivial ?_ ?_
    · simp [Query.outside,Query.about]
    intro _ _ _
    refine alone_ask trivial ?_ ?_
    · simp [Query.outside,Query.about]
    intro _ _ _
    apply alone_pure
    simp [SETTLED_PAIRS]

end Service

section Worker
variable {me : Text} {here : Pair} {α β : Type}

-- Computations about other positions leave the two rows alone.
def Unmoved (me : Text) (p : Async α) : Prop :=
  ∀ here, Alone me p (fun _ after => after.row = here.row ∧ after.session = here.session) here

theorem legal_apart {query : Query} (apart : query.about ≠ some me) : legalTurn me query here := by
  cases query with
  | updatePositionState _ _ | updateExecutionSession _ _ _ => exact fun same => absurd (congrArg some same) apart
  | _ => trivial

theorem follow_apart {query : Query} (apart : query.about ≠ some me) :
    (follow me here query).row = here.row ∧ (follow me here query).session = here.session := by
  cases query with
  | createPosition _ | updatePositionState _ _ =>
    exact ⟨if_neg fun same => apart (congrArg some same),rfl⟩
  | createExecutionSession _ | updateExecutionSession _ _ _ =>
    exact ⟨rfl,if_neg fun same => apart (congrArg some same)⟩
  | _ => exact ⟨rfl,rfl⟩

theorem unmoved_pure (value : α) : Unmoved me (pure value : Async α) := fun _ => ⟨rfl,rfl⟩

theorem unmoved_ask {query : Query} {next : Reply query → Async α} (apart : query.about ≠ some me)
    (still : ∀ value, Unmoved me (next value)) : Unmoved me (ask query >>= next) := by
  intro here
  refine ⟨legal_apart apart,?_⟩
  have ⟨row,session⟩ := @follow_apart me here query apart
  rintro (error | value) after ⟨-,-,rfl⟩
  · exact ⟨row,session⟩
  · refine follows_mono ?_ (still value _)
    rintro _ after ⟨one,two⟩
    exact ⟨one.trans row,two.trans session⟩

theorem unmoved_bind {p : Async β} {next : β → Async α} (first : Unmoved me p) (rest : ∀ value, Unmoved me (next value)) :
    Unmoved me (p >>= next) := by
  intro here
  refine follows_bind.mpr (follows_mono ?_ (first here))
  rintro (error | value) middle ⟨row,session⟩
  · exact ⟨row,session⟩
  · refine follows_mono ?_ (rest value middle)
    rintro _ after ⟨one,two⟩
    exact ⟨one.trans row,two.trans session⟩

-- The errors of a round are caught.
theorem logged_alone {round : Async RecoveryTickResult} {keeps : Pair → Prop}
    (alone : Alone me round (fun _ after => keeps after) here) :
    Alone me (logged result round) (Ends (fun _ => keeps) fun _ _ => False) here := by
  refine follows_bind.mpr (follows_attempt.mpr (follows_mono ?_ alone))
  rintro (error | value) after kept
  · exact kept
  · exact kept

theorem advanceTo_unmoved (apart : position.id ≠ me) : Unmoved me (advanceTo position target headline) := by
  have other : some position.id ≠ some me := fun same => apart (Option.some.inj same)
  unfold advanceTo
  refine unmoved_ask other fun updated => ?_
  refine unmoved_ask other fun _ => ?_
  refine unmoved_ask (Option.some_ne_none me).symm fun _ => ?_
  exact unmoved_pure _

theorem failPosition_unmoved (apart : position.id ≠ me) : Unmoved me (failPosition position stage) := by
  have other : some position.id ≠ some me := fun same => apart (Option.some.inj same)
  unfold failPosition
  refine unmoved_ask other fun updated => ?_
  refine unmoved_ask other fun _ => ?_
  refine unmoved_ask (Option.some_ne_none me).symm fun _ => ?_
  exact unmoved_pure _

theorem checkVenueSignature_unmoved : Unmoved me (checkVenueSignature position now) := by
  unfold checkVenueSignature
  refine unmoved_ask (Option.some_ne_none me).symm fun entry => ?_
  split
  · exact unmoved_pure _
  refine unmoved_ask (Option.some_ne_none me).symm ?_
  rintro (_ | value)
  · exact unmoved_pure _
  dsimp only
  split
  · exact unmoved_pure _
  split
  · exact unmoved_pure _
  · exact unmoved_pure _

theorem reconcile_unmoved (apart : positionId ≠ me) : Unmoved me (reconcile positionId) := by
  unfold reconcile
  refine unmoved_ask (Option.some_ne_none me).symm fun entry => ?_
  split
  · exact unmoved_pure _
  refine unmoved_ask (fun same => apart (Option.some.inj same)) fun _ => ?_
  exact unmoved_pure _

theorem checkExecuting_unmoved (apart : position.id ≠ me) :
    Alone me (checkExecuting now result position)
      (Ends (fun _ after => after.row = here.row ∧ after.session = here.session) fun _ _ => False) here := by
  apply logged_alone
  revert here
  change Unmoved me _
  refine unmoved_bind checkVenueSignature_unmoved ?_
  rintro (_ | _ | _)
  · exact unmoved_bind (advanceTo_unmoved apart) fun _ => unmoved_pure _
  · exact unmoved_bind (failPosition_unmoved apart) fun _ => unmoved_pure _
  · exact unmoved_pure _

theorem checkIndexing_unmoved (apart : position.id ≠ me) :
    Alone me (checkIndexing result position)
      (Ends (fun _ after => after.row = here.row ∧ after.session = here.session) fun _ _ => False) here := by
  apply logged_alone
  revert here
  change Unmoved me _
  refine unmoved_bind (reconcile_unmoved apart) fun state => ?_
  split
  · exact unmoved_bind (advanceTo_unmoved apart) fun _ => unmoved_pure _
  · exact unmoved_pure _

theorem settled_listed (settled : Settled here) (listed : here.row = some .indexing) : here.session = some (.indexing,none) := by
  obtain ⟨_,session,touched⟩ := here
  cases listed
  cases session with
  | none => exact settled.elim
  | some session =>
    obtain ⟨session,stage⟩ := session
    cases stage with
    | none => cases session <;> simp [SETTLED_PAIRS] at settled ⊢
    | some stage => cases session <;> simp [SETTLED_PAIRS] at settled

theorem settled_executing (settled : Settled here) : here.row ≠ some .executing_on_meteora := by
  obtain ⟨row,session,touched⟩ := here
  rintro ⟨rfl⟩
  cases session with
  | none => exact settled.elim
  | some session => simp [SETTLED_PAIRS] at settled

theorem checkIndexing_alone (own : position.id = me) (settled : Settled here) (listed : here.row = some .indexing) :
    Alone me (checkIndexing result position) (Ends (fun _ after => Settled after) fun _ _ => False) here := by
  subst own
  apply logged_alone
  have session := settled_listed settled listed
  unfold reconcile
  change Alone _ _ _ _
  rw [← Op.bind_assoc]
  refine alone_ask trivial ?_ ?_
  · simp [Query.outside,Query.about]
  intro entry _ _
  cases signatureOf entry with
  | none =>
    apply alone_value
    exact settled
  | some signature =>
    dsimp only
    rw [← Op.bind_assoc]
    refine alone_ask trivial ?_ ?_
    · simp [Query.outside,Query.about]
    intro _ _ _
    apply alone_value
    rw [if_pos rfl]
    unfold advanceTo
    rw [← Op.bind_assoc]
    apply alone_ask
    · simp [listed]
    · simp [Query.outside,Query.about]
    intro updated _ _
    rw [← Op.bind_assoc]
    apply alone_ask
    · simp [session,canTransition,transitions]
    · simp [Query.outside,Query.about]
    intro _ _ _
    rw [← Op.bind_assoc]
    refine alone_ask trivial ?_ ?_
    · simp [Query.outside,Query.about]
    intro _ _ _
    apply alone_value
    change Settled _
    simp [SETTLED_PAIRS]

theorem rounds_alone {body : RecoveryTickResult → PositionRow → Async RecoveryTickResult} {items : List PositionRow}
    (own : ∀ result position here, position.id = me → Settled here → here.row = some state →
      Alone me (body result position) (Ends (fun _ after => Settled after) fun _ _ => False) here)
    (other : ∀ result position here, position.id ≠ me →
      Alone me (body result position)
        (Ends (fun _ after => after.row = here.row ∧ after.session = here.session) fun _ _ => False) here)
    (settled : Settled here) (once : (items.map PositionRow.id).Nodup)
    (listed : me ∈ items.map PositionRow.id → here.row = some state) :
    Alone me (each body items result) (Ends (fun _ after => Settled after) fun _ _ => False) here := by
  induction items generalizing result here with
  | nil => exact settled
  | cons position rest ih =>
    have ⟨absent,tail⟩ := List.nodup_cons.mp once
    refine follows_bind.mpr ?_
    by_cases same : position.id = me
    · refine follows_mono ?_ (own result position here same settled (listed (by simp [same])))
      rintro (error | next) after kept
      · exact kept
      · exact ih kept tail fun again => absurd (same ▸ again) absent
    · refine follows_mono ?_ (other result position here same)
      rintro (error | next) after kept
      · exact kept
      · have ⟨row,session⟩ : after.row = here.row ∧ after.session = here.session := kept
        refine ih ?_ tail fun later => row.trans (listed (List.mem_cons_of_mem _ later))
        unfold Settled at settled ⊢
        rw [row,session]
        exact settled

theorem aborted_alone (settled : Settled here) : Alone me (aborted result) Finished here := by
  unfold aborted
  refine alone_ask trivial ?_ ?_
  · simp [Query.outside,Query.about]
  intro _ _ _
  exact settled

theorem scanFailures_alone (settled : Settled here) : Alone me (scanFailures now result) Finished here := by
  unfold scanFailures
  refine alone_ask trivial ?_ ?_
  · simp [Query.outside,Query.about]
  intro since _ _
  refine alone_try trivial ?_
  rintro (_ | newFailures) _ _
  · exact aborted_alone settled
  have alerted : Alone me (each alert newFailures result) (Ends (fun _ after => Settled after) fun _ _ => False) here := by
    refine @follows_each _ _ _ _ _ _ _ _ _ _ _ _ (fun _ after => Settled after) (fun _ _ => False) ?_ settled
    intro failure _ result here settled
    unfold alert
    refine alone_ask trivial ?_ ?_
    · simp [Query.outside,Query.about]
    intro _ _ _
    exact settled
  refine follows_bind.mpr (follows_mono ?_ alerted)
  rintro (error | counted) after kept
  · exact kept.elim
  · refine alone_ask trivial ?_ ?_
    · simp [Query.outside,Query.about]
    intro _ _ _
    exact kept

theorem tick_alone (settled : Settled here) : Alone me (tick now) Finished here := by
  unfold tick
  refine alone_try trivial ?_
  rintro (_ | stuckExecuting) fit listed
  · exact aborted_alone settled
  have executing := @rounds_alone me here .executing_on_meteora ⟨stuckExecuting.length,0,0,0,0,0⟩ (checkExecuting now)
    stuckExecuting (fun _ _ _ _ settled listed => absurd listed (settled_executing settled))
    (fun _ _ _ apart => checkExecuting_unmoved apart) settled fit.1 listed
  refine follows_bind.mpr (follows_mono ?_ executing)
  rintro (error | result) after kept
  · exact kept.elim
  refine alone_try trivial ?_
  rintro (_ | stuckIndexing) fit listed
  · exact aborted_alone kept
  have indexing := @rounds_alone me after .indexing { result with indexingChecked := stuckIndexing.length } checkIndexing
    stuckIndexing (fun _ _ _ own settled listed => checkIndexing_alone own settled listed)
    (fun _ _ _ apart => checkIndexing_unmoved apart) kept fit.1 listed
  refine follows_bind.mpr (follows_mono ?_ indexing)
  rintro (error | result) after kept
  · exact kept.elim
  · exact scanFailures_alone kept

end Worker

theorem body_alone (concerned : operation.concerns me) (settled : Settled here) (untouched : here.touched = false) :
    Alone me (bodyOf caps operation) Finished here := by
  have responds : ∀ {p : Async PositionResponse}, Alone me p Finished here → Alone me (responded p) Finished here := by
    intro p alone
    refine follows_bind.mpr (follows_mono ?_ alone)
    rintro (error | response) after finished
    · exact finished
    · exact finished
  cases operation with
  | createDraftPositionIntent ids input => exact responds (createDraftPositionIntent_alone concerned settled untouched)
  | executeSignedIntent input => exact responds (executeSignedIntent_alone concerned settled untouched)
  | claimPosition positionId =>
    cases concerned
    exact responds (claimPosition_alone settled untouched)
  | withdrawClosePosition positionId =>
    cases concerned
    exact responds (withdrawClosePosition_alone settled untouched)
  | getPosition positionId =>
    cases concerned
    exact responds (getPosition_alone settled untouched)
  | tick now =>
    refine follows_bind.mpr (follows_mono ?_ (tick_alone settled))
    rintro (error | result) after finished
    · exact finished
    · exact finished

def pairOf (me : Text) (database : Database) (touched : Bool) : Pair :=
  ⟨(database.position me).map PositionRow.state,
    (database.session me).map fun session => (session.state,session.failureStage),touched⟩

def touched (past : List (Seen Reply Thrown)) : Bool := past.any fun seen => seen.query.changes

-- The database refuses a row whose key is taken.
def accepts (database : Database) : Query → Prop
  | .createPosition input =>
      database.positions.any (fun row => decide (row.id = input.id ∨ row.intentId = input.intentId)) = false
  | .createExecutionSession input => database.sessions.any (fun row => decide (row.id = input.id)) = false
  | _ => True

-- The condition: calls do not overlap, the database does what it is asked, and the
-- process stays up.
def Sequential (world : World) : Action → Prop
  | .enter _ => ∀ call ∈ world.calls, call.running = false
  | .answer index => ∀ call ∈ world.calls[index]?,
      match call.rest with
      | .call query _ => accepts world.stores.database query
      | _ => True
  | .land _ => True
  | .clock _ => True
  | .fail _ => False
  | .crash _ => False

instance (database : Database) : (query : Query) → Decidable (accepts database query)
  | .createPosition _ | .createExecutionSession _ => by unfold accepts; infer_instance
  | .updatePositionState _ _ | .getPositionById _ | .updateExecutionSession _ _ _ | .getLatestExecutionSession _
  | .countActiveByWallet _ | .sumActiveAmountSol | .countFirst | .findStuckPositions _ _ _ | .findRecentlyFailed _ _
  | .createActivity _ | .listActivities _ | .load _ | .clear _ | .saveUnawaited _ | .prepareFunding _ | .prepareExit _
  | .addLiquidity _ | .claim _ | .withdrawClose _ | .getSignatureStatus _ | .lastFailureScan | .scannedFailures _
  | .captureException _ => inferInstanceAs (Decidable True)

instance (database : Database) : (rest : Async Outcome) →
    Decidable (match rest with
      | .call query _ => accepts database query
      | _ => True)
  | .call query _ => inferInstanceAs (Decidable (accepts database query))
  | .ret _ | .throws _ => inferInstanceAs (Decidable True)

instance (world : World) : (action : Action) → Decidable (Sequential world action)
  | .enter _ | .answer _ => by unfold Sequential; infer_instance
  | .land _ | .clock _ => inferInstanceAs (Decidable True)
  | .fail _ | .crash _ => inferInstanceAs (Decidable False)

section Told
variable {me : Text} {stores after : Stores} {query : Query} {answer : Except Thrown (Reply query)} {touched : Bool}

theorem told_createPosition {answer : Except Thrown (Reply (.createPosition input))} (keyed : Keyed stores.database)
    (answered : Answers (.createPosition input) stores answer after)
    (accepted : accepts stores.database (.createPosition input)) :
    Told me (.createPosition input) (pairOf me stores.database touched) answer
      (pairOf me after.database (touched || Query.changes (.createPosition input))) := by
  have fit := answers_fit keyed answered
  simp only [Answers] at answered
  simp only [accepts] at accepted
  rw [accepted,if_neg Bool.false_ne_true] at answered
  obtain ⟨rfl,rfl⟩ := answered
  have absent : input.id ∉ positionIds stores.database := by
    intro there
    obtain ⟨row,inside,equal⟩ := List.mem_map.mp there
    have taken : stores.database.positions.any (fun row => decide (row.id = input.id ∨ row.intentId = input.intentId)) = true :=
      List.any_eq_true.mpr ⟨row,inside,decide_eq_true (.inl equal)⟩
    cases accepted.symm.trans taken
  refine ⟨fit,?_,?_⟩
  · rintro rfl
    simp only [pairOf,Option.map_eq_none_iff]
    apply List.find?_eq_none.mpr
    intro row inside same
    exact absent (List.mem_map.mpr ⟨row,inside,of_decide_eq_true same⟩)
  · simp only [pairOf,Stores.rows,position_create absent,follow,Query.changes,Bool.or_true]
    congr 1
    split <;> rfl

theorem told_openSession {answer : Except Thrown (Reply (.createExecutionSession input))} (keyed : Keyed stores.database) (kept : Keyed after.database)
    (answered : Answers (.createExecutionSession input) stores answer after)
    (accepted : accepts stores.database (.createExecutionSession input)) :
    Told me (.createExecutionSession input) (pairOf me stores.database touched) answer
      (pairOf me after.database (touched || Query.changes (.createExecutionSession input))) := by
  have fit := answers_fit keyed answered
  simp only [Answers] at answered
  simp only [accepts] at accepted
  rw [accepted,if_neg Bool.false_ne_true] at answered
  obtain ⟨rfl,rfl⟩ := answered
  refine ⟨fit,trivial,?_⟩
  simp only [pairOf,Stores.rows,session_open keyed kept,follow,Query.changes,Bool.or_true]
  congr 1
  split <;> rfl

theorem told_movePosition {answer : Except Thrown (Reply (.updatePositionState positionId state))} (keyed : Keyed stores.database)
    (answered : Answers (.updatePositionState positionId state) stores answer after)
    (allowed : legalTurn me (.updatePositionState positionId state) (pairOf me stores.database touched)) :
    Told me (.updatePositionState positionId state) (pairOf me stores.database touched) answer
      (pairOf me after.database (touched || Query.changes (.updatePositionState positionId state))) := by
  have fit := answers_fit keyed answered
  simp only [Answers] at answered
  split at answered
  · rename_i missing
    obtain ⟨rfl,rfl⟩ := answered
    have other : positionId ≠ me := by
      rintro rfl
      exact allowed rfl (by simp only [pairOf,missing,Option.map_none])
    refine ⟨fit,.inr ⟨positionId,rfl,other⟩,?_⟩
    simp only [pairOf,follow,if_neg other,Query.changes,Bool.or_true]
  · rename_i row found
    obtain ⟨rfl,rfl⟩ := answered
    refine ⟨fit,trivial,?_⟩
    have own : row.id = positionId := position_id found
    simp only [pairOf,Stores.movePosition,position_set,own,follow,Query.changes,Bool.or_true]
    congr 1
    by_cases mine : positionId = me
    · subst mine
      simp only [found,if_true,Option.map_some]
    · simp only [if_neg mine,Option.map_id']

theorem told_moveSession {answer : Except Thrown (Reply (.updateExecutionSession positionId state stage))} (keyed : Keyed stores.database)
    (answered : Answers (.updateExecutionSession positionId state stage) stores answer after)
    (allowed : legalTurn me (.updateExecutionSession positionId state stage) (pairOf me stores.database touched)) :
    Told me (.updateExecutionSession positionId state stage) (pairOf me stores.database touched) answer
      (pairOf me after.database (touched || Query.changes (.updateExecutionSession positionId state stage))) := by
  have fit := answers_fit keyed answered
  simp only [Answers] at answered
  split at answered
  · rename_i missing
    obtain ⟨rfl,rfl⟩ := answered
    have other : positionId ≠ me := by
      rintro rfl
      obtain ⟨_,_,there,-⟩ := allowed rfl
      simp only [pairOf,missing,Option.map_none,reduceCtorEq] at there
    refine ⟨fit,.inr ⟨positionId,rfl,other⟩,?_⟩
    simp only [pairOf,follow,if_neg other,Query.changes,Bool.or_true]
  · rename_i row found
    obtain ⟨rfl,rfl⟩ := answered
    refine ⟨fit,trivial,?_⟩
    simp only [pairOf,Stores.moveSession,session_set keyed found,follow,Query.changes,Bool.or_true]
    congr 1
    by_cases mine : positionId = me
    · subst mine
      simp only [found,if_true,Option.map_some]
    · simp only [if_neg mine,Option.map_id']

theorem told_answers (keyed : Keyed stores.database) (kept : Keyed after.database)
    (answered : Answers query stores answer after) (accepted : accepts stores.database query)
    (allowed : legalTurn me query (pairOf me stores.database touched)) :
    Told me query (pairOf me stores.database touched) answer (pairOf me after.database (touched || query.changes)) := by
  have fit := answers_fit keyed answered
  cases query with
  | createPosition input => exact told_createPosition keyed answered accepted
  | createExecutionSession input => exact told_openSession keyed kept answered accepted
  | updatePositionState positionId state => exact told_movePosition keyed answered allowed
  | updateExecutionSession positionId state stage => exact told_moveSession keyed answered allowed
  | getPositionById positionId =>
    obtain ⟨rfl,rfl⟩ := answered
    refine ⟨fit,?_,by simp [pairOf,follow,Query.changes]⟩
    rintro rfl
    rfl
  | getLatestExecutionSession positionId =>
    obtain ⟨rfl,rfl⟩ := answered
    refine ⟨fit,?_,by simp [pairOf,follow,Query.changes]⟩
    rintro rfl
    rfl
  | findStuckPositions state cutoff limit =>
    have whole := answered
    obtain ⟨page,rfl,rfl,-⟩ := answered
    exact ⟨fit,fun here => listed_row keyed whole here,by simp [pairOf,follow,Query.changes]⟩
  | prepareFunding _ | prepareExit _ | addLiquidity _ | claim _ | withdrawClose _ | getSignatureStatus _ =>
    cases answered
    refine ⟨fit,?_,by simp [pairOf,follow,Query.changes]⟩
    cases answer with
    | error _ => exact .inl rfl
    | ok _ => trivial
  | findRecentlyFailed _ _ =>
    obtain ⟨page,rfl,rfl,-⟩ := answered
    exact ⟨fit,trivial,by simp [pairOf,follow,Query.changes]⟩
  | countFirst =>
    obtain ⟨⟨first,rfl⟩,rfl⟩ := answered
    exact ⟨fit,trivial,by simp [pairOf,follow,Query.changes]⟩
  | createActivity _ =>
    obtain ⟨rfl,rfl⟩ := answered
    exact ⟨fit,trivial,by simp [pairOf,follow,Query.changes,Stores.rows,Database.position,Database.session]⟩
  | clear _ =>
    obtain ⟨rfl,rfl⟩ := answered
    exact ⟨fit,trivial,by simp [pairOf,follow,Query.changes,Stores.rows,Database.reconcile,Database.position,Database.session]⟩
  | _ =>
    obtain ⟨rfl,rfl⟩ := answered
    exact ⟨fit,trivial,by simp [pairOf,follow,Query.changes]⟩

-- A call that changes no table leaves the three as they are.
theorem answers_tables (answered : Answers query stores answer after) (reads : query.changes = false) :
    after.database.positions = stores.database.positions ∧ after.database.sessions = stores.database.sessions ∧
      after.database.activities = stores.database.activities := by
  cases query with
  | createPosition _ | updatePositionState _ _ | createExecutionSession _ | updateExecutionSession _ _ _ | createActivity _ =>
    exact nomatch reads
  | prepareFunding _ | prepareExit _ | addLiquidity _ | claim _ | withdrawClose _ | getSignatureStatus _ =>
    cases answered
    exact ⟨rfl,rfl,rfl⟩
  | findStuckPositions _ _ _ | findRecentlyFailed _ _ =>
    obtain ⟨page,rfl,rfl,-⟩ := answered
    exact ⟨rfl,rfl,rfl⟩
  | _ =>
    obtain ⟨-,rfl⟩ := answered
    exact ⟨rfl,rfl,rfl⟩

end Told

-- Whatever it has read, a call that has written nothing leaves what it entered upon.
def Spared (call : Call) (database : Database) : Prop :=
  touched call.past = false → database.positions = call.entered.positions ∧ database.sessions = call.entered.sessions ∧
    database.activities = call.entered.activities

structure Orderly (caps : BetaCapsConfig) (world : World) : Prop where
  sound : Sound caps world
  done : ∀ call ∈ world.calls.dropLast, call.running = false
  alone : ∀ call, world.calls.getLast? = some call → ∀ me, call.operation.concerns me →
    Alone me call.rest Finished (pairOf me world.stores.database (touched call.past))
  spared : ∀ call, world.calls.getLast? = some call → Spared call world.stores.database
  apart : ∀ me, (∀ call, world.calls.getLast? = some call → ¬call.operation.concerns me) →
    Settled (pairOf me world.stores.database false)
  legal : ∀ me, ∀ turn ∈ (view me world.stores).turns, canTransition turn.1 turn.2 = true

section Run
variable {caps : BetaCapsConfig} {world after : World} {me : Text} {call : Call} {query : Query}
  {answer : Except Thrown (Reply query)} {stores : Stores} {next : Except Thrown (Reply query) → Async Outcome}

theorem settled_touched (database : Database) (one two : Bool) :
    Settled (pairOf me database one) ↔ Settled (pairOf me database two) := Iff.rfl

-- Between calls every position is settled.
theorem orderly_rest (orderly : Orderly caps world) (idle : ∀ call ∈ world.calls, call.running = false) (me : Text) :
    Settled (pairOf me world.stores.database false) := by
  by_cases last : ∃ call, world.calls.getLast? = some call ∧ call.operation.concerns me
  · obtain ⟨call,last,concerns⟩ := last
    have alone := orderly.alone call last me concerns
    have still := idle call (List.mem_of_getLast? last)
    unfold Call.running at still
    cases rest : call.rest with
    | ret value =>
      rw [rest] at alone
      exact alone
    | throws error =>
      rw [rest] at alone
      exact alone.1
    | call query next =>
      rw [rest] at still
      exact nomatch still
  · exact orderly.apart me fun call found concerns => last ⟨call,found,concerns⟩

theorem orderly_spare (orderly : Orderly caps world) (last : world.calls.getLast? = some call)
    (thrown : call.rest = .throws error) : world.stores.database.positions = call.entered.positions ∧
      world.stores.database.sessions = call.entered.sessions ∧ world.stores.database.activities = call.entered.activities := by
  have alone := orderly.alone call last call.operation.position (concerns_position _)
  rw [thrown] at alone
  exact orderly.spared call last alone.2

theorem touched_snoc (past : List (Seen Reply Thrown)) (query : Query) (answer : Except Thrown (Reply query)) :
    touched (past ++ [⟨query,answer⟩]) = (touched past || query.changes) := by
  simp [touched]

theorem orderly_enter (orderly : Orderly caps world) (idle : ∀ call ∈ world.calls, call.running = false)
    (step : Step caps world (.enter operation)
      { world with
        calls := world.calls ++ [⟨operation,[],bodyOf caps operation,world.stores.database,[]⟩]
        log := world.log ++ made operation (bodyOf caps operation) }) :
    Orderly caps
      { world with
        calls := world.calls ++ [⟨operation,[],bodyOf caps operation,world.stores.database,[]⟩]
        log := world.log ++ made operation (bodyOf caps operation) } := by
  have settled := orderly_rest orderly idle
  have newest : ∀ call : Call,
      (world.calls ++ [(⟨operation,[],bodyOf caps operation,world.stores.database,[]⟩ : Call)]).getLast? = some call →
      call = ⟨operation,[],bodyOf caps operation,world.stores.database,[]⟩ := by
    intro call last
    rw [List.getLast?_concat] at last
    exact (Option.some.inj last).symm
  refine ⟨sound_step orderly.sound step,?_,?_,?_,?_,orderly.legal⟩
  · intro call inside
    rw [List.dropLast_concat] at inside
    exact idle call inside
  · intro call last me concerns
    rw [newest call last] at concerns ⊢
    exact body_alone concerns (settled me) rfl
  · intro call last
    rw [newest call last]
    exact fun _ => ⟨rfl,rfl,rfl⟩
  · exact fun me _ => settled me

-- Only the last call can be under way.
theorem orderly_last {before rest : List Call} (orderly : Orderly caps world) (here : world.calls = before ++ call :: rest)
    (turn : call.rest = .call query next) : rest = [] := by
  cases rest with
  | nil => rfl
  | cons other rest =>
    have early : call ∈ world.calls.dropLast := by
      rw [here,List.dropLast_append_of_ne_nil (List.cons_ne_nil _ _)]
      exact List.mem_append_right _ List.mem_cons_self
    have still := orderly.done call early
    unfold Call.running at still
    rw [turn] at still
    cases still

-- A turn of the session that a call takes alone starts in the state that the call knows.
theorem orderly_turns (orderly : Orderly caps world) (inside : call ∈ world.calls) (turn : call.rest = .call query next)
    (allowed : call.operation.concerns me → legalTurn me query (pairOf me world.stores.database (touched call.past)))
    (deed : Deed me (sightOf me call.past) (view me world.stores) query knows later) :
    ∀ entry ∈ later.turns, canTransition entry.1 entry.2 = true := by
  rcases deed_turns deed with same | ⟨source,target,stage,rfl,found,turned⟩
  · intro entry there
    exact orderly.legal me entry (same ▸ there)
  · intro entry there
    rw [turned] at there
    rcases List.mem_append.mp there with old | new
    · exact orderly.legal me entry old
    · rw [List.mem_singleton.mp new]
      have concerns : call.operation.concerns me := by
        by_contra apart
        exact about_apart orderly.sound inside turn apart rfl
      obtain ⟨state,stage,read,legal⟩ := allowed concerns rfl
      have same : state = source := by
        simp only [pairOf,Option.map_eq_some_iff] at read
        obtain ⟨row,there,equal⟩ := read
        simp only [view,there,Option.map_some] at found
        exact (Prod.mk.inj equal).1.symm.trans (Option.some.inj found)
      exact same ▸ legal

theorem orderly_answer {before rest : List Call} (orderly : Orderly caps world) (here : world.calls = before ++ call :: rest)
    (turn : call.rest = .call query next) (answered : Answers query world.stores answer stores)
    (accepted : accepts world.stores.database query) :
    Orderly caps (world.answered before call rest query answer (next answer) stores) := by
  have inside : call ∈ world.calls := by simp [here]
  have sound' := sound_did orderly.sound here turn (.inl answered)
  have empty : rest = [] := orderly_last orderly here turn
  subst empty
  have last : world.calls.getLast? = some call := by rw [here,List.getLast?_concat]
  have newest : ∀ other, (world.answered before call [] query answer (next answer) stores).calls.getLast? = some other →
      other = call.goesOn query answer (next answer) := by
    intro other found
    unfold World.answered at found
    rw [List.map_nil,List.getLast?_concat] at found
    exact (Option.some.inj found).symm
  have told : ∀ me touched, legalTurn me query (pairOf me world.stores.database touched) →
      Told me query (pairOf me world.stores.database touched) answer (pairOf me stores.database (touched || query.changes)) :=
    fun me touched allowed => told_answers orderly.sound.keyed sound'.keyed answered accepted allowed
  have follows : ∀ me, call.operation.concerns me →
      Alone me (.call query next) Finished (pairOf me world.stores.database (touched call.past)) := by
    intro me concerns
    have alone := orderly.alone call last me concerns
    rw [turn] at alone
    exact alone
  refine ⟨sound',?_,?_,?_,?_,?_⟩
  · intro other there
    unfold World.answered at there
    rw [List.map_nil,List.dropLast_concat] at there
    obtain ⟨prior,early,rfl⟩ := List.mem_map.mp there
    apply orderly.done prior
    rw [here,List.dropLast_concat]
    exact early
  · intro other found me concerns
    rw [newest other found] at concerns ⊢
    have alone := follows me concerns
    simp only [Call.goesOn,touched_snoc]
    exact alone.2 answer _ (told me _ alone.1)
  · intro other found spares
    rw [newest other found] at spares ⊢
    simp only [Call.goesOn,touched_snoc,Bool.or_eq_false_iff] at spares
    have prior := orderly.spared call last spares.1
    have same := answers_tables answered spares.2
    exact ⟨same.1.trans prior.1,same.2.1.trans prior.2.1,same.2.2.trans prior.2.2⟩
  · intro me apart
    have unconcerned : ¬call.operation.concerns me := by
      apply apart (call.goesOn query answer (next answer))
      unfold World.answered
      rw [List.map_nil,List.getLast?_concat]
    have settled := orderly.apart me fun other found => by
      rw [last] at found
      cases found
      exact unconcerned
    have other := about_apart orderly.sound inside turn unconcerned
    obtain ⟨-,-,after⟩ := told me false (legal_apart other)
    obtain ⟨row,session⟩ := @follow_apart me (pairOf me world.stores.database false) query other
    rw [← after] at row session
    apply (settled_touched stores.database (false || query.changes) false).mp
    unfold Settled at settled ⊢
    rw [row,session]
    exact settled
  · intro me
    have deed : Deed me (sightOf me call.past) (view me world.stores) query _ (view me stores) :=
      deed_did orderly.sound.keyed sound'.keyed (.inl answered)
    exact orderly_turns orderly inside turn (fun concerns => (follows me concerns).1) deed

theorem orderly_step (orderly : Orderly caps world) (met : Sequential world action) (step : Step caps world action after) :
    Orderly caps after := by
  have sound := sound_step orderly.sound step
  cases step with
  | enter single => exact orderly_enter orderly met (.enter single)
  | answer here turn answered =>
    rename_i before rest query answer stores call next
    refine orderly_answer orderly here turn answered ?_
    have taken := met call (by simp [here])
    rw [turn] at taken
    exact taken
  | fail here turn fails => exact met.elim
  | land here =>
    refine ⟨sound,orderly.done,orderly.alone,orderly.spared,orderly.apart,?_⟩
    intro me turn there
    apply orderly.legal me turn
    have landed : view me _ = _ := view_land here
    change turn ∈ (view me _).turns at there
    rw [landed] at there
    split at there
    · exact there
    · exact there
  | clock later => exact ⟨sound,orderly.done,orderly.alone,orderly.spared,orderly.apart,orderly.legal⟩
  | crash => exact met.elim

theorem reached_orderly (reached : Reached caps Sequential world) : Orderly caps world := by
  induction reached with
  | first =>
    refine ⟨sound_first,?_,?_,?_,?_,?_⟩
    · exact fun _ inside => nomatch inside
    · exact fun _ last => nomatch last
    · exact fun _ last => nomatch last
    · exact fun _ _ => trivial
    · exact fun _ _ inside => nomatch inside
  | step prior met step ih => exact orderly_step ih met step

end Run

-- The life of positions whose calls never overlap: every write of a session is one of
-- the state machine, the rows are in step after every call, and a call that is
-- rejected has changed nothing.
theorem sequential_lifecycle (reached : Reached caps Sequential world) :
    (∀ change ∈ world.stores.sessionChanges, canTransition change.source change.target = true) ∧
    ((∀ call ∈ world.calls, call.running = false) → ∀ me, Settled (pairOf me world.stores.database false)) ∧
    ∀ call error, world.calls.getLast? = some call → call.rest = .throws error →
      world.stores.database.positions = call.entered.positions ∧
      world.stores.database.sessions = call.entered.sessions ∧
      world.stores.database.activities = call.entered.activities := by
  have orderly := reached_orderly reached
  refine ⟨?_,orderly_rest orderly,fun _ _ last thrown => orderly_spare orderly last thrown⟩
  intro change inside
  exact orderly.legal change.positionId _ (mem_changesOf inside)

-- A position closed, and a claim that comes too late.
def inTurn : List Action :=
  sampleCreate ++ [.enter sampleExecute] ++ List.replicate 14 (.answer 1) ++ [.land 0,.land 0,.enter (.getPosition ['p'])] ++
    List.replicate 9 (.answer 2) ++ [.enter (.withdrawClosePosition ['p'])] ++ List.replicate 17 (.answer 3) ++
    [.enter (.claimPosition ['p']),.answer 4]

theorem sequential_lifecycle_sample : ∃ world : World,
    world.stores.sessionChanges.length = 8 ∧
      world.calls.getLast?.map (fun call => call.running) = some false ∧
      ((∀ change ∈ world.stores.sessionChanges, canTransition change.source change.target = true) ∧
        ((∀ call ∈ world.calls, call.running = false) → ∀ me, Settled (pairOf me world.stores.database false)) ∧
        ∀ call error, world.calls.getLast? = some call → call.rest = .throws error →
          world.stores.database.positions = call.entered.positions ∧
          world.stores.database.sessions = call.entered.sessions ∧
          world.stores.database.activities = call.entered.activities) := by
  refine ⟨World.play sampleCaps Sequential (World.first 0 0) inTurn,?_,?_,sequential_lifecycle (play_reached .first inTurn)⟩
  · decide +kernel
  · decide +kernel

end Octora.Positions
