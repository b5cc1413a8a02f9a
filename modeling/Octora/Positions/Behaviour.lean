import Octora.Positions.Conduct

namespace Octora.Positions
open Calls Op

-- Every call that a computation makes is one that `allow` foresees.
def Goes (me : Text) (allow : Query → Sight → Prop) (p : Async α) (sight : Sight) : Prop :=
  p.Follows (tracks me) allow (fun _ _ => True) sight

section Rules
variable {me : Text} {allow : Query → Sight → Prop} {sight : Sight} {α β : Type}

theorem goes_pure (value : α) : Goes me allow (pure value : Async α) sight := trivial

theorem goes_throws (error : Thrown) : Goes me allow (.throws error : Async α) sight := trivial

theorem goes_ask {query : Query} {next : Reply query → Async α} (allowed : allow query sight)
    (goes : ∀ value, fits query (.ok value) → Goes me allow (next value) (look me sight query (.ok value))) :
    Goes me allow (ask query >>= next) sight := by
  refine ⟨allowed,?_⟩
  rintro (error | value) after ⟨fit,rfl⟩
  · trivial
  · exact goes value fit

theorem goes_try {query : Query} {next : Except Thrown (Reply query) → Async α} (allowed : allow query sight)
    (goes : ∀ answer, fits query answer → Goes me allow (next answer) (look me sight query answer)) :
    Goes me allow (attempt (ask query) >>= next) sight := by
  refine ⟨allowed,?_⟩
  rintro (error | value) after ⟨fit,rfl⟩
  · exact goes (.error error) fit
  · exact goes (.ok value) fit

theorem goes_value {value : β} {next : β → Async α} (goes : Goes me allow (next value) sight) :
    Goes me allow (pure value >>= next) sight := goes

theorem goes_assert {source target : ExecutionState} {next : Unit → Async α}
    (goes : canTransition source target = true → Goes me allow (next ()) sight) :
    Goes me allow (assertTransition source target >>= next) sight := by
  unfold assertTransition
  split
  · rename_i legal
    exact goes legal
  · trivial

theorem goes_bind {p : Async β} {next : β → Async α}
    (goes : p.Follows (tracks me) allow
      (Ends (fun value after => Goes me allow (next value) after) fun _ _ => True) sight) :
    Goes me allow (p >>= next) sight := follows_bind.mpr goes

theorem goes_then {p : Async β} {next : β → Async α} (first : Goes me allow p sight)
    (rest : ∀ value after, Goes me allow (next value) after) : Goes me allow (p >>= next) sight := by
  apply goes_bind
  refine follows_mono ?_ first
  rintro (error | value) after _
  · trivial
  · exact rest value after

theorem goes_each {body : β → α → Async β} {items : List α} (round : ∀ result item sight, Goes me allow (body result item) sight) :
    Goes me allow (each body items result) sight := by
  induction items generalizing result sight with
  | nil => trivial
  | cons item rest ih => exact goes_then (round result item sight) fun value after => ih

end Rules

theorem funding_from : canTransition source .funding_in_progress = true ↔ source = .awaiting_signature := by
  cases source <;> decide

theorem delayed_catalog (stage : FailureStage) : (recoveryCatalog stage).headline ≠ EXECUTION_DELAYED := by
  cases stage <;> decide

section Service
variable {me : Text} {allow : Query → Sight → Prop} {sight : Sight}

theorem recordFailure_goes {position : PositionRow} (own : position.id = me)
    (updates : allow (.updatePositionState me .failed) sight)
    (closes : allow (.updateExecutionSession me .failed (some stage))
      { sight with row := some .failed, moved := true, gaveUp := true })
    (records : ∀ entry : CreateActivityInput, ∀ after, entry.positionId = me → entry.headline ≠ EXECUTION_DELAYED →
      allow (.createActivity entry) after)
    (lists : ∀ after, allow (.listActivities me) after) :
    Goes me allow (recordFailure position stage) sight := by
  subst own
  unfold recordFailure
  apply goes_ask updates
  intro failedPosition fit
  apply goes_ask
  · simpa [look] using closes
  intro failedSession _
  apply goes_ask
  · exact records _ _ fit.1 (delayed_catalog stage)
  intro _ _
  apply goes_ask (lists _)
  intro activity _
  apply goes_pure

theorem createDraftPositionIntent_goes (own : ids.positionId = me) :
    Goes me (creates caps me ids input) (createDraftPositionIntent caps ids input) .start := by
  subst own
  unfold createDraftPositionIntent
  split
  · apply goes_throws
  unfold assertBetaCaps
  split
  · apply goes_throws
  rename_i amount parsed
  split
  · apply goes_throws
  rename_i positive
  split
  · apply goes_throws
  rename_i within
  -- Whichever query is answered first, both readings are known at the insert.
  have insert : ∀ count total, ∀ sight : Sight, sight.counted = some count → sight.summed = some total →
      sight.created = false → sight.opened = false →
      Goes ids.positionId (creates caps ids.positionId ids input)
        (((if caps.maxPositionsPerWallet ≤ count then throws .betaCapExceeded
          else if caps.maxGlobalTvlSol < total + amount then throws .betaCapExceeded
          else pure () : Async Unit)) >>= fun _ => do
            let position ← createPosition
              { id := ids.positionId, intentId := ids.intentId, walletAddress := input.walletAddress,
                action := input.action, mode := input.mode, state := .draft, poolSlug := input.pool,
                amount := input.amount }
            let session ← createExecutionSession
              { id := ids.sessionId, positionId := ids.positionId, state := .awaiting_signature, failureStage := none }
            let activity ← record position .awaiting_signature "Intent received".toList .wait
            pure (⟨position,session,[activity]⟩ : PositionResponse)) sight := by
    intro count total sight counted summed created opened
    split
    · apply goes_throws
    rename_i few
    split
    · apply goes_throws
    rename_i room
    apply goes_ask
    · exact ⟨rfl,rfl,rfl,rfl,rfl,created,opened,amount,count,total,parsed,not_le.mp positive,not_lt.mp within,counted,
        Nat.lt_of_not_le few,summed,not_lt.mp room⟩
    intro position fit
    apply goes_ask
    · simp [creates,look,opened]
    intro session _
    apply goes_ask
    · exact ⟨fit,(by decide : "Intent received".toList ≠ EXECUTION_DELAYED)⟩
    intro activity _
    apply goes_pure
  unfold countAndSum
  rw [← Op.bind_assoc,← Op.bind_assoc]
  apply goes_ask trivial
  rintro first _
  split
  · rw [← Op.bind_assoc]
    apply goes_ask rfl
    intro count _
    rw [← Op.bind_assoc]
    apply goes_ask trivial
    intro total _
    exact insert count total _ rfl rfl rfl rfl
  · rw [← Op.bind_assoc]
    apply goes_ask trivial
    intro total _
    rw [← Op.bind_assoc]
    apply goes_ask rfl
    intro count _
    exact insert count total _ rfl rfl rfl rfl

theorem executeSignedIntent_goes (own : input.positionId = me) :
    Goes me (executes me) (executeSignedIntent input) .start := by
  subst own
  unfold executeSignedIntent
  split
  · apply goes_throws
  apply goes_ask
  · exact ⟨rfl,rfl⟩
  rintro (_ | position) fit
  · apply goes_throws
  have own : position.id = input.positionId := fit
  apply goes_ask
  · simp [executes,look,Sight.start]
  rintro (_ | session) _
  · apply goes_throws
  dsimp only
  split
  · apply goes_throws
  apply goes_assert
  intro legal
  have awaiting := funding_from.mp legal
  apply goes_ask
  · simp [executes,look,Sight.start,awaiting]
  intro fundingSession _
  apply goes_ask
  · exact ⟨own,(by decide : "Funding started".toList ≠ EXECUTION_DELAYED)⟩
  intro _ _
  apply goes_try
  · simp [executes,look,Sight.start]
  rintro (_ | fundingReceipt) _
  · apply recordFailure_goes own
    · simp [executes,look,Sight.start]
    · simp [executes,look,Sight.start]
    · exact fun entry after same other => ⟨same,other⟩
    · exact fun after => rfl
  apply goes_assert
  intro _
  apply goes_ask
  · simp [executes,look,Sight.start]
  intro executingSession _
  apply goes_ask
  · exact ⟨own,(by decide : "Submitting to Meteora".toList ≠ EXECUTION_DELAYED)⟩
  intro _ _
  apply goes_try
  · simp [executes,look,Sight.start]
  rintro (_ | venueReceipt) _
  · apply recordFailure_goes own
    · simp [executes,look,Sight.start]
    · simp [executes,look,Sight.start]
    · exact fun entry after same other => ⟨same,other⟩
    · exact fun after => rfl
  apply goes_assert
  intro _
  apply goes_ask
  · simp [executes,look,Sight.start,own]
  intro _ _
  apply goes_ask
  · simp [executes,look,Sight.start,own]
  intro indexingPosition indexed
  apply goes_ask
  · simp [executes,look,Sight.start,own]
  intro indexingSession _
  apply goes_ask
  · exact ⟨indexed.1,(by decide : "Verifying final position state".toList ≠ EXECUTION_DELAYED)⟩
  intro _ _
  apply goes_ask
  · simp [executes,look,Sight.start,own]
  intro _ _
  apply goes_ask
  · rfl
  intro activity _
  apply goes_pure

-- Both exits first find the position and its session active.
theorem active_goes {exit : Exit} {next : PositionRow → ExecutionSessionRow → Async PositionResponse}
    (rest : ∀ position session, position.id = me → session.state = .active →
      Goes me (exits me exit) (next position session) { Sight.start with row := some .active, session := some .active }) :
    Goes me (exits me exit)
      (getActivePosition me >>= fun position => getLatestActiveSession me >>= fun session => next position session)
      .start := by
  unfold getActivePosition getLatestActiveSession
  rw [← Op.bind_assoc]
  apply goes_ask
  · exact ⟨rfl,rfl⟩
  rintro (_ | position) own
  · apply goes_throws
  dsimp only
  split
  · apply goes_throws
  rename_i here
  have active : position.state = .active := not_not.mp here
  change Goes me _ (_ >>= fun session => next position session) _
  rw [← Op.bind_assoc]
  apply goes_ask
  · simp [exits,look,Sight.start,active]
  rintro (_ | session) _
  · apply goes_throws
  dsimp only
  split
  · apply goes_throws
  rename_i open_
  have live : session.state = .active := not_not.mp open_
  apply goes_value
  have goes := rest position session own live
  simpa [look,active,live] using goes

theorem claimPosition_goes : Goes me (exits me .claim) (claimPosition me) .start := by
  unfold claimPosition
  apply active_goes
  intro position session own live
  subst own
  dsimp only
  apply goes_assert
  intro _
  apply goes_ask
  · simp [exits,Sight.start,Exit.claim]
  intro claimingPosition moved
  apply goes_ask
  · simp [exits,look,Sight.start,Exit.claim]
  intro claimingSession _
  apply goes_ask
  · exact ⟨moved.1,(by decide : "Claiming fees".toList ≠ EXECUTION_DELAYED)⟩
  intro _ _
  apply goes_try
  · simp [exits,look,Sight.start,Exit.claim]
  rintro (_ | exitReceipt) _
  · apply recordFailure_goes rfl
    · simp [exits,look,Sight.start,Exit.claim]
    · simp [exits,look,Sight.start,Exit.claim]
    · exact fun entry after same other => ⟨same,other⟩
    · exact fun after => rfl
  apply goes_try
  · simp [exits,look,Sight.start,Exit.claim]
  rintro (_ | venueReceipt) _
  · apply recordFailure_goes rfl
    · simp [exits,look,Sight.start,Exit.claim]
    · simp [exits,look,Sight.start,Exit.claim]
    · exact fun entry after same other => ⟨same,other⟩
    · exact fun after => rfl
  apply goes_assert
  intro _
  apply goes_ask
  · simp [exits,look,Sight.start,Exit.claim]
  intro indexingPosition indexed
  apply goes_ask
  · simp [exits,look,Sight.start,Exit.claim]
  intro indexingSession _
  apply goes_ask
  · exact ⟨indexed.1,(by decide : "Reconciling claim".toList ≠ EXECUTION_DELAYED)⟩
  intro _ _
  apply goes_assert
  intro _
  apply goes_ask
  · simp [exits,look,Sight.start,Exit.claim]
  intro completedPosition completed
  apply goes_ask
  · simp [exits,look,Sight.start,Exit.claim]
  intro completedSession _
  apply goes_ask
  · exact ⟨completed.1,(by decide : "Claim completed".toList ≠ EXECUTION_DELAYED)⟩
  intro _ _
  apply goes_ask
  · rfl
  intro activity _
  apply goes_pure

theorem withdrawClosePosition_goes : Goes me (exits me .withdrawClose) (withdrawClosePosition me) .start := by
  unfold withdrawClosePosition
  apply active_goes
  intro position session own live
  subst own
  dsimp only
  apply goes_assert
  intro _
  apply goes_ask
  · simp [exits,Sight.start,Exit.withdrawClose]
  intro withdrawingPosition moved
  apply goes_ask
  · simp [exits,look,Sight.start,Exit.withdrawClose]
  intro withdrawingSession _
  apply goes_ask
  · exact ⟨moved.1,(by decide : "Withdrawing liquidity".toList ≠ EXECUTION_DELAYED)⟩
  intro _ _
  apply goes_try
  · simp [exits,look,Sight.start,Exit.withdrawClose]
  rintro (_ | exitReceipt) _
  · apply recordFailure_goes rfl
    · simp [exits,look,Sight.start,Exit.withdrawClose]
    · simp [exits,look,Sight.start,Exit.withdrawClose]
    · exact fun entry after same other => ⟨same,other⟩
    · exact fun after => rfl
  apply goes_try
  · simp [exits,look,Sight.start,Exit.withdrawClose]
  rintro (_ | venueReceipt) _
  · apply recordFailure_goes rfl
    · simp [exits,look,Sight.start,Exit.withdrawClose]
    · simp [exits,look,Sight.start,Exit.withdrawClose]
    · exact fun entry after same other => ⟨same,other⟩
    · exact fun after => rfl
  apply goes_assert
  intro _
  apply goes_ask
  · simp [exits,look,Sight.start,Exit.withdrawClose]
  intro closingPosition closing
  apply goes_ask
  · simp [exits,look,Sight.start,Exit.withdrawClose]
  intro closingSession _
  apply goes_ask
  · exact ⟨closing.1,(by decide : "Closing position".toList ≠ EXECUTION_DELAYED)⟩
  intro _ _
  apply goes_assert
  intro _
  apply goes_ask
  · simp [exits,look,Sight.start,Exit.withdrawClose]
  intro indexingPosition indexed
  apply goes_ask
  · simp [exits,look,Sight.start,Exit.withdrawClose]
  intro indexingSession _
  apply goes_ask
  · exact ⟨indexed.1,(by decide : "Reconciling exit".toList ≠ EXECUTION_DELAYED)⟩
  intro _ _
  apply goes_assert
  intro _
  apply goes_ask
  · simp [exits,look,Sight.start,Exit.withdrawClose]
  intro completedPosition completed
  apply goes_ask
  · simp [exits,look,Sight.start,Exit.withdrawClose]
  intro completedSession _
  apply goes_ask
  · exact ⟨completed.1,(by decide : "Withdraw-close completed".toList ≠ EXECUTION_DELAYED)⟩
  intro _ _
  apply goes_ask
  · rfl
  intro activity _
  apply goes_pure

theorem getPosition_goes : Goes me (polls me) (getPosition me) .start := by
  unfold getPosition
  apply goes_ask
  · exact ⟨rfl,rfl⟩
  rintro (_ | position) own
  · apply goes_throws
  apply goes_ask
  · simp [polls,look,Sight.start]
  rintro (_ | session) _
  · apply goes_throws
  apply goes_ask
  · rfl
  intro activities _
  dsimp only
  split
  · apply goes_pure
  rename_i here
  have indexing : session.state = .indexing := not_not.mp here
  -- Every way on but the activation either rests or records the delay.
  have delayed : ∀ sight : Sight, sight.session = some .indexing → sight.row ≠ none →
      (sight.loaded = false ∨ sight.row = some .active) →
      Goes me (polls me)
        (if (activities.getLast?.map ActivityRow.headline) ≠ some EXECUTION_DELAYED then do
          let _ ← record position .indexing EXECUTION_DELAYED (recoveryCatalog .indexingLag).safeNextStep
          pure ⟨position,session,← list me⟩
        else pure (⟨position,session,activities⟩ : PositionResponse)) sight := by
    intro sight read seen quiet
    split
    · apply goes_ask
      · exact ⟨own,fun _ => ⟨read,seen,quiet⟩⟩
      intro _ _
      apply goes_ask
      · rfl
      intro _ _
      apply goes_pure
    · apply goes_pure
  unfold reconcile
  rw [← Op.bind_assoc]
  apply goes_ask
  · simp [polls,look,Sight.start,indexing]
  intro entry _
  cases found : signatureOf entry with
  | none =>
    dsimp only
    apply goes_value
    rw [if_neg fun both => ExecutionState.noConfusion both.1]
    apply delayed
    · simp [look,indexing]
    · simp [look,Sight.start]
    · simp [look,Sight.start,found]
  | some signature =>
    dsimp only
    rw [← Op.bind_assoc]
    apply goes_ask
    · simp [polls,look,Sight.start,indexing,found]
    intro _ _
    apply goes_value
    split
    · rename_i both
      apply goes_ask
      · simp [polls,look,Sight.start,indexing,found,both.2,Sight.took]
      intro activePosition moved
      apply goes_ask
      · simp [polls,look,Sight.start,indexing,found,Sight.took]
      intro activeSession _
      apply goes_ask
      · refine ⟨moved.1,fun same => absurd same (by decide : "Position active".toList ≠ EXECUTION_DELAYED)⟩
      intro _ _
      apply goes_ask
      · rfl
      intro _ _
      apply goes_pure
    · rename_i inactive
      have active : position.state = .active := not_not.mp fun other => inactive ⟨rfl,other⟩
      apply delayed
      · simp [look,indexing]
      · simp [look,Sight.start]
      · simp [look,Sight.start,active]

end Service

section Worker
variable {me : Text} {sight : Sight} {α : Type}

def Still (me : Text) (p : Async α) : Prop :=
  ∀ sight, p.Follows (tracks me) (ticks me) (fun _ after => after = sight) sight

theorem still_pure (value : α) : Still me (pure value : Async α) := fun _ => rfl

theorem still_ask {query : Query} {next : Reply query → Async α} (allowed : ∀ sight, ticks me query sight)
    (same : ∀ sight answer, look me sight query answer = sight) (still : ∀ value, Still me (next value)) :
    Still me (ask query >>= next) := by
  intro sight
  refine ⟨allowed sight,?_⟩
  rintro (error | value) after ⟨_,rfl⟩
  · exact same sight _
  · rw [same]
    exact still value sight

theorem still_bind {p : Async β} {next : β → Async α} (first : Still me p) (rest : ∀ value, Still me (next value)) :
    Still me (p >>= next) := by
  intro sight
  refine follows_bind.mpr (follows_mono ?_ (first sight))
  rintro (error | value) after rfl
  · rfl
  · exact rest value _

theorem logged_follows {round : Async RecoveryTickResult} {post : Sight → Prop}
    (follows : round.Follows (tracks me) (ticks me) (fun _ after => post after) sight) :
    (logged result round).Follows (tracks me) (ticks me) (fun _ after => post after) sight := by
  refine follows_bind.mpr (follows_attempt.mpr (follows_mono ?_ follows))
  rintro (error | value) after kept
  · exact kept
  · exact kept

theorem advanceTo_still (apart : position.id ≠ me) (plain : headline ≠ EXECUTION_DELAYED) :
    Still me (advanceTo position target headline) := by
  unfold advanceTo
  apply still_ask
  · exact fun _ same => absurd same apart
  · rintro sight (_ | _) <;> simp [look,apart]
  intro updated
  apply still_ask
  · exact fun _ same => absurd same apart
  · rintro sight (_ | _) <;> simp [look,apart]
  intro _
  apply still_ask
  · exact fun _ => plain
  · exact fun _ _ => rfl
  intro _
  apply still_pure

theorem failPosition_still (apart : position.id ≠ me) : Still me (failPosition position stage) := by
  unfold failPosition
  apply still_ask
  · exact fun _ same => absurd same apart
  · rintro sight (_ | _) <;> simp [look,apart]
  intro updated
  apply still_ask
  · exact fun _ same => absurd same apart
  · rintro sight (_ | _) <;> simp [look,apart]
  intro _
  apply still_ask
  · exact fun _ => (by decide : "Recovery flagged position as failed".toList ≠ EXECUTION_DELAYED)
  · exact fun _ _ => rfl
  intro _
  apply still_pure

theorem checkVenueSignature_still (apart : position.id ≠ me) : Still me (checkVenueSignature position now) := by
  unfold checkVenueSignature
  apply still_ask
  · exact fun _ same => absurd same apart
  · rintro sight (_ | _) <;> simp [look,apart]
  intro entry
  split
  · apply still_pure
  apply still_ask
  · exact fun _ => trivial
  · exact fun _ _ => rfl
  rintro (_ | value)
  · apply still_pure
  dsimp only
  split
  · apply still_pure
  split
  · apply still_pure
  · apply still_pure

theorem reconcile_still (apart : positionId ≠ me) (clears : ∀ sight, ticks me (.clear positionId) sight) :
    Still me (reconcile positionId) := by
  unfold reconcile
  apply still_ask
  · exact fun _ same => absurd same apart
  · rintro sight (_ | _) <;> simp [look,apart]
  intro entry
  split
  · apply still_pure
  apply still_ask clears
  · rintro sight (_ | _) <;> simp [look,apart]
  intro _
  apply still_pure

theorem checkExecuting_still (apart : position.id ≠ me) : Still me (checkExecuting now result position) := by
  intro sight
  apply logged_follows
  revert sight
  apply still_bind (checkVenueSignature_still apart)
  rintro (_ | _ | _)
  · apply still_bind (advanceTo_still apart (by decide))
    intro _
    apply still_pure
  · apply still_bind (failPosition_still apart)
    intro _
    apply still_pure
  · apply still_pure

theorem checkIndexing_still (apart : position.id ≠ me) : Still me (checkIndexing result position) := by
  intro sight
  apply logged_follows
  revert sight
  apply still_bind (reconcile_still apart fun _ same => absurd same apart)
  intro state
  split
  · apply still_bind (advanceTo_still apart (by decide))
    intro _
    apply still_pure
  · apply still_pure

theorem advanceTo_stranded (stranded : sight.stranded = true) : Goes position.id (ticks position.id)
    (advanceTo position .indexing "Recovered position into indexing".toList) sight := by
  unfold advanceTo
  apply goes_ask
  · exact fun _ => .inl ⟨stranded,.inl rfl⟩
  intro _ _
  apply goes_ask
  · exact fun _ => .inl ⟨by simpa [look] using stranded,.inl ⟨rfl,rfl⟩⟩
  intro _ _
  apply goes_ask
  · exact (by decide : "Recovered position into indexing".toList ≠ EXECUTION_DELAYED)
  intro _ _
  apply goes_pure

theorem failPosition_stranded (stranded : sight.stranded = true) : Goes position.id (ticks position.id)
    (failPosition position .venueConfirmation) sight := by
  unfold failPosition
  apply goes_ask
  · exact fun _ => .inl ⟨stranded,.inr rfl⟩
  intro _ _
  apply goes_ask
  · exact fun _ => .inl ⟨by simpa [look] using stranded,.inr ⟨rfl,by simp⟩⟩
  intro _ _
  apply goes_ask
  · exact (by decide : "Recovery flagged position as failed".toList ≠ EXECUTION_DELAYED)
  intro _ _
  apply goes_pure

theorem checkExecuting_goes (own : position.id = me) (listed : sight.row ≠ none) (stranded : sight.stranded = true) :
    Goes me (ticks me) (checkExecuting now result position) sight := by
  subst own
  apply logged_follows
  -- Neither reading the record nor asking the RPC moves the position.
  unfold checkVenueSignature
  change Goes _ _ _ _
  rw [← Op.bind_assoc]
  apply goes_ask
  · exact fun _ => listed
  intro entry _
  have kept : (look position.id sight (.load position.id) (.ok entry)).stranded = true := by simpa [look] using stranded
  split
  · by_cases late : EXECUTING_STUCK_AFTER_MS < now - position.updatedAt
    · rw [if_pos late]
      apply goes_value
      exact goes_then (failPosition_stranded kept) fun _ _ => trivial
    · rw [if_neg late]
      exact goes_pure result
  rw [← Op.bind_assoc]
  apply goes_ask trivial
  rintro (_ | value) _
  · by_cases late : EXECUTING_STUCK_AFTER_MS * 2 < now - position.updatedAt
    · dsimp only
      rw [if_pos late]
      apply goes_value
      exact goes_then (failPosition_stranded kept) fun _ _ => trivial
    · dsimp only
      rw [if_neg late]
      exact goes_pure result
  dsimp only
  split
  · apply goes_value
    exact goes_then (failPosition_stranded kept) fun _ _ => trivial
  split
  · apply goes_value
    exact goes_then (advanceTo_stranded kept) fun _ _ => trivial
  · apply goes_value
    exact goes_pure result

theorem checkIndexing_goes (own : position.id = me) (listed : sight.row = some .indexing) (unwritten : sight.wrote = false) :
    Goes me (ticks me) (checkIndexing result position) sight := by
  subst own
  apply logged_follows
  change Goes _ _ _ _
  unfold reconcile
  rw [← Op.bind_assoc]
  apply goes_ask
  · exact fun _ => by simp [listed]
  intro entry _
  cases found : signatureOf entry with
  | none =>
    apply goes_value
    apply goes_pure
  | some signature =>
    dsimp only
    rw [← Op.bind_assoc]
    apply goes_ask
    · simp [ticks,look,listed,found]
    intro _ _
    apply goes_value
    rw [if_pos rfl]
    apply goes_then
    · unfold advanceTo
      apply goes_ask
      · simp [ticks,look,listed,unwritten,found,Sight.took]
      intro _ _
      apply goes_ask
      · simp [ticks,look,unwritten,found,Sight.took]
      intro _ _
      apply goes_ask
      · exact (by decide : "Recovered position into active".toList ≠ EXECUTION_DELAYED)
      intro _ _
      apply goes_pure
    · exact fun _ _ => trivial

-- A page shows a position once.
theorem rounds_goes {body : RecoveryTickResult → PositionRow → Async RecoveryTickResult} {items : List PositionRow}
    (listed : Sight → Prop)
    (own : ∀ result position sight, position.id = me → listed sight → Goes me (ticks me) (body result position) sight)
    (other : ∀ result position, position.id ≠ me → Still me (body result position))
    (once : (items.map PositionRow.id).Nodup) (here : me ∈ items.map PositionRow.id → listed sight) :
    Goes me (ticks me) (each body items result) sight := by
  induction items generalizing result sight with
  | nil => trivial
  | cons position rest ih =>
    have ⟨absent,tail⟩ := List.nodup_cons.mp once
    refine follows_bind.mpr ?_
    by_cases same : position.id = me
    · refine follows_mono ?_ (own result position sight same (here (by simp [same])))
      rintro (error | next) after _
      · trivial
      · exact ih tail fun again => absurd (same ▸ again) absent
    · refine follows_mono ?_ (other result position same sight)
      rintro (error | next) after rfl
      · trivial
      · exact ih tail fun later => here (List.mem_cons_of_mem _ later)

theorem aborted_goes : Goes me (ticks me) (aborted result) sight := ⟨trivial,fun
  | .ok _,_,_ => trivial
  | .error _,_,_ => trivial⟩

theorem scanFailures_goes : Goes me (ticks me) (scanFailures now result) sight := by
  unfold scanFailures
  apply goes_ask trivial
  intro since _
  apply goes_try trivial
  rintro (_ | newFailures) _
  · apply aborted_goes
  apply goes_then
  · apply goes_each
    intro result failure sight
    apply goes_ask trivial
    intro _ _
    apply goes_pure
  intro alerted after
  apply goes_ask trivial
  intro _ _
  apply goes_pure

theorem tick_goes : Goes me (ticks me) (tick now) .start := by
  unfold tick
  apply goes_try (.inl rfl)
  rintro (_ | stuckExecuting) fit
  · apply aborted_goes
  apply goes_then
  · apply rounds_goes fun sight => sight.row ≠ none ∧ sight.stranded = true
    · exact fun _ _ _ own listed => checkExecuting_goes own listed.1 listed.2
    · exact fun _ _ apart => checkExecuting_still apart
    · exact fit.1
    · intro here
      simp only [look,if_pos here]
      simp
  intro result after
  apply goes_try (.inr rfl)
  rintro (_ | stuckIndexing) fit
  · apply aborted_goes
  apply goes_then
  · apply rounds_goes fun sight => sight.row = some .indexing ∧ sight.wrote = false
    · exact fun _ _ _ own listed => checkIndexing_goes own listed.1 listed.2
    · exact fun _ _ apart => checkIndexing_still apart
    · exact fit.1
    · intro here
      simp only [look,if_pos here]
      simp
  intro result after
  apply scanFailures_goes

end Worker

theorem body_goes (concerned : operation.concerns me) :
    Goes me (permits caps me operation) (bodyOf caps operation) .start := by
  cases operation with
  | createDraftPositionIntent ids input => exact goes_then (createDraftPositionIntent_goes concerned) fun _ _ => trivial
  | executeSignedIntent input => exact goes_then (executeSignedIntent_goes concerned) fun _ _ => trivial
  | claimPosition positionId =>
    cases concerned
    exact goes_then claimPosition_goes fun _ _ => trivial
  | withdrawClosePosition positionId =>
    cases concerned
    exact goes_then withdrawClosePosition_goes fun _ _ => trivial
  | getPosition positionId =>
    cases concerned
    exact goes_then getPosition_goes fun _ _ => trivial
  | tick now => exact goes_then tick_goes fun _ _ => trivial

end Octora.Positions
