import Octora.Positions.Behaviour

namespace Octora.Positions
open Calls

-- A call under way is answered, properly or not.
def Did (query : Query) (stores : Stores) (answer : Except Thrown (Reply query)) (after : Stores) : Prop :=
  Answers query stores answer after ∨ Fails query stores answer after

abbrev positionIds (database : Database) : List Text := database.positions.map PositionRow.id

abbrev sessionIds (database : Database) : List Text := database.sessions.map ExecutionSessionRow.id

abbrev owners (database : Database) : List Text := database.sessions.map ExecutionSessionRow.positionId

theorem positionIds_set : positionIds (database.setPosition positionId state now) = positionIds database := by
  simp only [positionIds,Database.setPosition,List.map_map]
  apply List.map_congr_left
  intro row _
  simp only [Function.comp_apply]
  split <;> rfl

theorem sessionIds_set : sessionIds (database.setSession sessionId state stage now) = sessionIds database := by
  simp only [sessionIds,Database.setSession,List.map_map]
  apply List.map_congr_left
  intro row _
  simp only [Function.comp_apply]
  split <;> rfl

theorem owners_set : owners (database.setSession sessionId state stage now) = owners database := by
  simp only [owners,Database.setSession,List.map_map]
  apply List.map_congr_left
  intro row _
  simp only [Function.comp_apply]
  split <;> rfl

-- Primary keys, and one session for a position.
structure Keyed (database : Database) : Prop where
  positions : (positionIds database).Nodup
  sessions : (sessionIds database).Nodup
  each : (owners database).Nodup

section Database
variable {database : Database} {me positionId sessionId : Text} {state : ExecutionState} {now : Int}

theorem position_id (found : database.position me = some row) : row.id = me := by
  have same := List.find?_some found
  exact of_decide_eq_true same

theorem session_of (found : database.session me = some row) : row ∈ database.sessions ∧ row.positionId = me := by
  have inside := List.mem_filter.mp (List.argmax_mem found)
  exact ⟨inside.1,of_decide_eq_true inside.2⟩

theorem session_iff (keyed : Keyed database) :
    database.session me = some row ↔ row ∈ database.sessions ∧ row.positionId = me := by
  refine ⟨session_of,?_⟩
  rintro ⟨inside,rfl⟩
  cases found : database.session row.positionId with
  | none =>
    have listed : row ∈ database.sessions.filter fun other => decide (other.positionId = row.positionId) :=
      List.mem_filter.mpr ⟨inside,decide_eq_true rfl⟩
    rw [List.argmax_eq_none.mp found] at listed
    exact absurd listed List.not_mem_nil
  | some other =>
    have ⟨there,same⟩ := session_of found
    rw [List.inj_on_of_nodup_map keyed.each there inside same]

theorem position_set :
    (database.setPosition positionId state now).position me = (database.position me).map fun row =>
      if positionId = me then { row with state := state, updatedAt := now } else row := by
  unfold Database.position Database.setPosition
  rw [List.find?_map]
  have same : ((fun row : PositionRow => decide (row.id = me)) ∘ fun row =>
      if row.id = positionId then { row with state := state, updatedAt := now } else row) =
      fun row => decide (row.id = me) := by
    funext row
    simp only [Function.comp_apply]
    split <;> rfl
  rw [same]
  cases found : database.positions.find? fun row => decide (row.id = me) with
  | none => rfl
  | some row =>
    have here : row.id = me := position_id found
    simp only [Option.map_some,here,eq_comm]

theorem keyed_setSession (keyed : Keyed database) : Keyed (database.setSession sessionId state stage now) :=
  ⟨keyed.positions,sessionIds_set.symm ▸ keyed.sessions,owners_set.symm ▸ keyed.each⟩

theorem session_set (keyed : Keyed database) (found : database.session positionId = some row) :
    (database.setSession row.id state stage now).session me = (database.session me).map fun other =>
      if positionId = me then { other with state := state, failureStage := stage, updatedAt := now } else other := by
  have ⟨here,owner⟩ := session_of found
  -- The row that the update finds by its id is the one of its position.
  have same : ∀ other ∈ database.sessions, other.positionId = me → (other.id = row.id ↔ positionId = me) := by
    intro other inside mine
    constructor
    · intro id
      rw [← owner,← List.inj_on_of_nodup_map keyed.sessions inside here id]
      exact mine
    · intro it
      rw [List.inj_on_of_nodup_map keyed.each inside here (mine.trans (it ▸ owner.symm))]
  apply Option.ext
  intro after
  rw [session_iff (keyed_setSession keyed)]
  constructor
  · rintro ⟨inside,mine⟩
    obtain ⟨other,there,rfl⟩ := List.mem_map.mp inside
    have own : other.positionId = me := by
      split at mine <;> exact mine
    rw [(session_iff keyed).mpr ⟨there,own⟩]
    simp only [Option.map_some,same other there own]
  · intro moved
    obtain ⟨other,read,rfl⟩ := Option.map_eq_some_iff.mp moved
    have ⟨there,own⟩ := session_of read
    constructor
    · apply List.mem_map.mpr
      exact ⟨other,there,by simp only [same other there own]⟩
    · split <;> exact own

end Database

instance (me : Text) (operation : Operation) : Decidable (operation.concerns me) := by
  cases operation <;> unfold Operation.concerns <;> infer_instance

def Acts (caps : BetaCapsConfig) (me : Text) (call : Call) : Prop :=
  Goes me (permits caps me call.operation) call.rest (sightOf me call.past)

theorem sightOf_snoc (past : List (Seen Reply Thrown)) (query : Query) (answer : Except Thrown (Reply query)) :
    sightOf me (past ++ [⟨query,answer⟩]) = look me (sightOf me past) query answer := by
  simp only [sightOf,List.foldl_append,List.foldl_cons,List.foldl_nil]

section Acts
variable {caps : BetaCapsConfig} {me : Text} {call : Call} {query : Query} {next : Except Thrown (Reply query) → Async Outcome}

theorem acts_permitted (acts : Acts caps me call) (turn : call.rest = .call query next) :
    permits caps me call.operation query (sightOf me call.past) := by
  unfold Acts at acts
  rw [turn] at acts
  exact acts.1

theorem acts_goesOn (acts : Acts caps me call) (turn : call.rest = .call query next) (fit : fits query answer) :
    Acts caps me (call.goesOn query answer (next answer)) := by
  unfold Acts at acts ⊢
  rw [turn] at acts
  simp only [Call.goesOn,sightOf_snoc]
  exact acts.2 answer _ ⟨fit,rfl⟩

theorem acts_overtaken (acts : Acts caps me call) : Acts caps me (call.overtaken query) := acts

theorem acts_crashed (acts : Acts caps me call) : Acts caps me call.crashed := by
  unfold Call.crashed
  split
  · trivial
  · exact acts

end Acts

theorem answers_fit (keyed : Keyed stores.database) (answered : Answers query stores answer after) : fits query answer := by
  cases query with
  | createPosition input =>
    simp only [Answers] at answered
    split at answered
    · rw [answered.1]
      trivial
    · rw [answered.1]
      rfl
  | getPositionById positionId =>
    rw [answered.1]
    cases found : stores.database.position positionId with
    | none => trivial
    | some row => exact position_id found
  | updatePositionState positionId state =>
    simp only [Answers] at answered
    split at answered
    · rw [answered.1]
      trivial
    · rename_i row found
      rw [answered.1]
      have own : row.id = positionId := position_id found
      exact ⟨own,rfl⟩
  | updateExecutionSession positionId state stage =>
    simp only [Answers] at answered
    split at answered
    · rw [answered.1]
      trivial
    · rw [answered.1]
      rfl
  | findStuckPositions state cutoff limit =>
    obtain ⟨page,rfl,-,ordered,perm,-,rfl⟩ := answered
    constructor
    · apply List.Nodup.sublist ((List.take_sublist limit ordered).map _)
      apply (perm.map PositionRow.id).nodup_iff.mpr
      exact List.Nodup.sublist (List.filter_sublist.map _) keyed.positions
    · intro row inside
      have there := (perm.mem_iff).mp (List.mem_of_mem_take inside)
      exact (of_decide_eq_true (List.mem_filter.mp there).2).1
  | _ => cases answer <;> trivial

theorem did_fit (keyed : Keyed stores.database) (did : Did query stores answer after) : fits query answer := by
  rcases did with answered | ⟨_,⟨error,rfl⟩,_⟩
  · exact answers_fit keyed answered
  · cases query <;> trivial

-- Only a creation adds a row to a table, and under a new key.
def Grows (query : Query) (answer : Except Thrown (Reply query)) (database after : Database) : Prop :=
  (∃ input, query = .createPosition input ∧ input.id ∉ positionIds database ∧
    positionIds after = positionIds database ++ [input.id] ∧ after.sessions = database.sessions) ∨
  (∃ input, query = .createExecutionSession input ∧ input.id ∉ sessionIds database ∧
    sessionIds after = sessionIds database ++ [input.id] ∧ owners after = owners database ++ [input.positionId] ∧
    after.positions = database.positions) ∨
  (positionIds after = positionIds database ∧ sessionIds after = sessionIds database ∧ owners after = owners database ∧
    ((∃ input, query = .createPosition input) → ∃ error, answer = .error error))

theorem answers_grow (answered : Answers query stores answer after) :
    Grows query answer stores.database after.database := by
  cases query with
  | createPosition input =>
    simp only [Answers] at answered
    split at answered
    · obtain ⟨rfl,rfl⟩ := answered
      exact .inr (.inr ⟨rfl,rfl,rfl,fun _ => ⟨_,rfl⟩⟩)
    · rename_i absent
      rw [answered.2]
      refine .inl ⟨input,rfl,?_,by simp [positionIds,Stores.rows,CreatePositionInput.row],rfl⟩
      intro there
      obtain ⟨row,inside,equal⟩ := List.mem_map.mp there
      exact absent (List.any_eq_true.mpr ⟨row,inside,decide_eq_true (.inl equal)⟩)
  | createExecutionSession input =>
    simp only [Answers] at answered
    split at answered
    · obtain ⟨rfl,rfl⟩ := answered
      exact .inr (.inr ⟨rfl,rfl,rfl,fun ⟨_,other⟩ => nomatch other⟩)
    · rename_i absent
      rw [answered.2]
      refine .inr (.inl ⟨input,rfl,?_,by simp [sessionIds,Stores.rows,CreateSessionInput.row],
        by simp [owners,Stores.rows,CreateSessionInput.row],rfl⟩)
      intro there
      obtain ⟨row,inside,equal⟩ := List.mem_map.mp there
      exact absent (List.any_eq_true.mpr ⟨row,inside,decide_eq_true equal⟩)
  | updatePositionState positionId state =>
    simp only [Answers] at answered
    split at answered
    · obtain ⟨rfl,rfl⟩ := answered
      exact .inr (.inr ⟨rfl,rfl,rfl,fun ⟨_,other⟩ => nomatch other⟩)
    · rw [answered.2]
      exact .inr (.inr ⟨positionIds_set,rfl,rfl,fun ⟨_,other⟩ => nomatch other⟩)
  | updateExecutionSession positionId state stage =>
    simp only [Answers] at answered
    split at answered
    · obtain ⟨rfl,rfl⟩ := answered
      exact .inr (.inr ⟨rfl,rfl,rfl,fun ⟨_,other⟩ => nomatch other⟩)
    · rw [answered.2]
      exact .inr (.inr ⟨rfl,sessionIds_set,owners_set,fun ⟨_,other⟩ => nomatch other⟩)
  | createActivity input | clear positionId | saveUnawaited entry | scannedFailures now =>
    rw [answered.2]
    exact .inr (.inr ⟨rfl,rfl,rfl,fun ⟨_,other⟩ => nomatch other⟩)
  | findStuckPositions _ _ _ | findRecentlyFailed _ _ =>
    obtain ⟨_,-,rfl,-⟩ := answered
    exact .inr (.inr ⟨rfl,rfl,rfl,fun ⟨_,other⟩ => nomatch other⟩)
  | prepareFunding _ | prepareExit _ | addLiquidity _ | claim _ | withdrawClose _ | getSignatureStatus _ =>
    cases answered
    exact .inr (.inr ⟨rfl,rfl,rfl,fun ⟨_,other⟩ => nomatch other⟩)
  | _ =>
    rw [answered.2]
    exact .inr (.inr ⟨rfl,rfl,rfl,fun ⟨_,other⟩ => nomatch other⟩)

theorem did_grow (did : Did query stores answer after) : Grows query answer stores.database after.database := by
  rcases did with answered | ⟨-,failed,rfl | ⟨lost,answered⟩⟩
  · exact answers_grow answered
  · exact .inr (.inr ⟨rfl,rfl,rfl,fun _ => failed⟩)
  · rcases answers_grow answered with created | opened | ⟨one,two,three,-⟩
    · exact .inl created
    · exact .inr (.inl opened)
    · exact .inr (.inr ⟨one,two,three,fun _ => failed⟩)

-- A call that has created the position and has still to open its session.
def opening (me : Text) (call : Call) : Bool :=
  decide (call.operation.concerns me) && (sightOf me call.past).created && !(sightOf me call.past).opened

def births (me : Text) (world : World) : Nat :=
  (owners world.stores.database).count me + world.calls.countP (opening me)

-- What holds in every world that is ever reached.
structure Sound (caps : BetaCapsConfig) (world : World) : Prop where
  positions : (positionIds world.stores.database).Nodup
  sessions : (sessionIds world.stores.database).Nodup
  acts : ∀ call ∈ world.calls, ∀ me, call.operation.concerns me → Acts caps me call
  once : ∀ me, births me world ≤ 1
  unborn : ∀ me, me ∉ positionIds world.stores.database → births me world = 0

theorem Sound.keyed (sound : Sound caps world) : Keyed world.stores.database := by
  refine ⟨sound.positions,sound.sessions,List.nodup_iff_count_le_one.mpr fun me => ?_⟩
  exact Nat.le_trans (Nat.le_add_right _ _) (sound.once me)

theorem opening_overtaken (calls : List Call) :
    (calls.map (Call.overtaken query)).countP (opening me) = calls.countP (opening me) := by
  rw [List.countP_map]
  rfl

theorem births_split (here : world.calls = before ++ call :: after) :
    births me world = (owners world.stores.database).count me +
      (before.countP (opening me) + ((if opening me call then 1 else 0) + after.countP (opening me))) := by
  unfold births
  rw [here,List.countP_append,List.countP_cons,Nat.add_comm (after.countP _)]

section Answered
variable {caps : BetaCapsConfig} {me : Text} {world : World} {before after : List Call} {call : Call} {query : Query}
  {answer : Except Thrown (Reply query)} {rest : Async Outcome} {stores : Stores}
  {next : Except Thrown (Reply query) → Async Outcome}

theorem births_answered : births me (world.answered before call after query answer rest stores) =
    (owners stores.database).count me + (before.countP (opening me) +
      ((if opening me (call.goesOn query answer rest) then 1 else 0) + after.countP (opening me))) := by
  unfold births World.answered
  rw [List.countP_append,List.countP_cons,opening_overtaken,opening_overtaken,Nat.add_comm (after.countP _)]

theorem opening_goesOn : opening me (call.goesOn query answer rest) =
    (decide (call.operation.concerns me) && (look me (sightOf me call.past) query answer).created &&
      !(look me (sightOf me call.past) query answer).opened) := by
  unfold opening Call.goesOn
  rw [sightOf_snoc]

theorem look_opened (before : sight.opened = true) : (look me sight query answer).opened = true := by
  cases query <;> cases answer <;> simp only [look] <;> (repeat' split) <;> simp [Sight.lost,before]

theorem look_created (created : (look me sight query answer).created = true) :
    sight.created = true ∨ (∃ input, query = .createPosition input ∧ input.id = me) ∧ ∃ row, answer = .ok row := by
  cases query with
  | createPosition input =>
    cases answer with
    | error => exact .inl created
    | ok row =>
      by_cases mine : input.id = me
      · exact .inr ⟨⟨input,rfl,mine⟩,row,rfl⟩
      · rw [look,if_neg mine] at created
        exact .inl created
  | _ =>
    left
    revert created
    cases answer <;> simp only [look] <;> (repeat' split) <;> exact id

theorem opening_kept (other : ∀ input, query = .createPosition input → input.id = me → ∃ error, answer = .error error)
    (opening' : opening me (call.goesOn query answer rest) = true) : opening me call = true := by
  rw [opening_goesOn] at opening'
  simp only [Bool.and_eq_true,Bool.not_eq_true',opening] at opening' ⊢
  obtain ⟨⟨concerns,created⟩,opened⟩ := opening'
  refine ⟨⟨concerns,?_⟩,?_⟩
  · rcases look_created created with before | ⟨⟨input,made,mine⟩,row,rfl⟩
    · exact before
    · obtain ⟨error,wrong⟩ := other input made mine
      exact nomatch wrong
  · cases before : (sightOf me call.past).opened with
    | false => rfl
    | true => rw [look_opened before] at opened; exact nomatch opened

-- Only the operation that creates a position calls the two creations, for its own id.
theorem creates_own (sound : Sound caps world) (inside : call ∈ world.calls) (turn : call.rest = .call query next)
    (creation : (∃ row, query = .createPosition row) ∨ ∃ session, query = .createExecutionSession session) :
    ∃ ids input, call.operation = .createDraftPositionIntent ids input ∧
      creates caps ids.positionId ids input query (sightOf ids.positionId call.past) := by
  have acts := sound.acts call inside
  cases operation : call.operation with
  | createDraftPositionIntent ids input =>
    refine ⟨ids,input,rfl,?_⟩
    have permitted := acts_permitted (acts ids.positionId (by rw [operation]; rfl)) turn
    rw [operation] at permitted
    exact permitted
  | executeSignedIntent input =>
    have permitted := acts_permitted (acts input.positionId (by rw [operation]; rfl)) turn
    rw [operation] at permitted
    rcases creation with ⟨_,rfl⟩ | ⟨_,rfl⟩ <;> exact permitted.elim
  | claimPosition positionId | withdrawClosePosition positionId | getPosition positionId =>
    have permitted := acts_permitted (acts positionId (by rw [operation]; rfl)) turn
    rw [operation] at permitted
    rcases creation with ⟨_,rfl⟩ | ⟨_,rfl⟩ <;> exact permitted.elim
  | tick now =>
    have permitted := acts_permitted (acts [] (by rw [operation]; trivial)) turn
    rw [operation] at permitted
    rcases creation with ⟨_,rfl⟩ | ⟨_,rfl⟩ <;> exact permitted.elim

theorem births_did (sound : Sound caps world) (here : world.calls = before ++ call :: after)
    (turn : call.rest = .call query next) (did : Did query world.stores answer stores) (me : Text) :
    births me (world.answered before call after query answer (next answer) stores) ≤ 1 ∧
      (me ∉ positionIds stores.database →
        births me (world.answered before call after query answer (next answer) stores) = 0) := by
  have whole : births me world = _ := births_split here
  have once := sound.once me
  have unborn := sound.unborn me
  have inside : call ∈ world.calls := by simp [here]
  rw [births_answered]
  rcases did_grow did with ⟨input,rfl,absent,ids,same⟩ | ⟨input,rfl,-,-,added,same⟩ | ⟨ids,-,same,failed⟩
  · have equal : owners stores.database = owners world.stores.database := by simp only [owners,same]
    rw [equal,ids]
    by_cases mine : input.id = me
    · subst mine
      have none_ := unborn absent
      have most : (if opening input.id (call.goesOn _ answer (next answer)) then 1 else 0) ≤ 1 := by split <;> omega
      refine ⟨by omega,fun missing => absurd (by simp) missing⟩
    · have kept := @opening_kept me call (.createPosition input) answer (next answer) fun other made own =>
        absurd (Query.createPosition.inj made ▸ own) mine
      have less : (if opening me (call.goesOn _ answer (next answer)) then 1 else 0) ≤ if opening me call then 1 else 0 := by
        split
        · rename_i yes
          rw [if_pos (kept yes)]
        · omega
      refine ⟨by omega,fun missing => ?_⟩
      have none_ := unborn fun there => missing (List.mem_append_left _ there)
      omega
  · obtain ⟨ids,intent,operation,owner,-,-,created,unopened⟩ := creates_own sound inside turn (.inr ⟨input,rfl⟩)
    have ids' : positionIds stores.database = positionIds world.stores.database := by simp only [positionIds,same]
    rw [added,List.count_append,ids']
    -- The opening moves from the call to the table.
    have moves : List.count me [input.positionId] +
        (if opening me (call.goesOn _ answer (next answer)) then 1 else 0) ≤ if opening me call then 1 else 0 := by
      have done : opening me (call.goesOn (.createExecutionSession input) answer (next answer)) = true →
          input.positionId ≠ me := by
        intro yes mine
        rw [opening_goesOn] at yes
        simp [look,mine] at yes
      by_cases mine : input.positionId = me
      · have before : opening me call = true := by
          simp only [opening,operation,Operation.concerns]
          rw [← mine,owner,created,unopened]
          simp
        rw [if_neg fun yes => done yes mine,if_pos before,mine]
        simp
      · rw [List.count_singleton,if_neg (by simpa using mine)]
        split
        · rename_i yes
          rw [if_pos (opening_kept (fun _ made _ => Query.noConfusion made) yes)]
        · omega
    refine ⟨by omega,fun missing => ?_⟩
    have none_ := unborn missing
    omega
  · rw [same,ids]
    have kept := @opening_kept me call query answer (next answer) fun input made _ => failed ⟨input,made⟩
    have less : (if opening me (call.goesOn _ answer (next answer)) then 1 else 0) ≤ if opening me call then 1 else 0 := by
      split
      · rename_i yes
        rw [if_pos (kept yes)]
      · omega
    refine ⟨by omega,fun missing => ?_⟩
    have none_ := unborn missing
    omega

theorem sound_did (sound : Sound caps world) (here : world.calls = before ++ call :: after)
    (turn : call.rest = .call query next) (did : Did query world.stores answer stores) :
    Sound caps (world.answered before call after query answer (next answer) stores) := by
  have births := births_did sound here turn did
  refine ⟨?_,?_,?_,fun me => (births me).1,fun me => (births me).2⟩
  · rcases did_grow did with ⟨input,-,absent,ids,-⟩ | ⟨input,-,-,-,-,same⟩ | ⟨ids,-⟩
    · change (positionIds stores.database).Nodup
      rw [ids,← List.concat_eq_append]
      exact sound.positions.concat absent
    · change (positionIds stores.database).Nodup
      simp only [positionIds,same]
      exact sound.positions
    · exact ids ▸ sound.positions
  · rcases did_grow did with ⟨input,-,-,-,same⟩ | ⟨input,-,absent,ids,-⟩ | ⟨-,ids,-⟩
    · change (sessionIds stores.database).Nodup
      simp only [sessionIds,same]
      exact sound.sessions
    · change (sessionIds stores.database).Nodup
      rw [ids,← List.concat_eq_append]
      exact sound.sessions.concat absent
    · exact ids ▸ sound.sessions
  · intro other inside me concerns
    rcases List.mem_append.mp inside with early | late
    · obtain ⟨prior,there,rfl⟩ := List.mem_map.mp early
      exact acts_overtaken (sound.acts prior (by simp [here,there]) me concerns)
    · rcases List.mem_cons.mp late with rfl | later
      · exact acts_goesOn (sound.acts call (by simp [here]) me concerns) turn (did_fit sound.keyed did)
      · obtain ⟨prior,there,rfl⟩ := List.mem_map.mp later
        exact acts_overtaken (sound.acts prior (by simp [here,there]) me concerns)

end Answered

theorem sound_first : Sound caps (World.first clock scan) :=
  ⟨List.nodup_nil,List.nodup_nil,fun _ inside => absurd inside List.not_mem_nil,fun _ => Nat.zero_le _,fun _ _ => rfl⟩

theorem sound_step (sound : Sound caps world) (step : Step caps world action after) : Sound caps after := by
  cases step with
  | @enter operation single =>
    refine ⟨sound.positions,sound.sessions,?_,?_,?_⟩
    · intro call inside me concerns
      rcases List.mem_append.mp inside with old | new
      · exact sound.acts call old me concerns
      · rw [List.mem_singleton.mp new] at concerns ⊢
        exact body_goes concerns
    · intro me
      simpa [births,opening,sightOf,Sight.start] using sound.once me
    · intro me missing
      simpa [births,opening,sightOf,Sight.start] using sound.unborn me missing
  | answer here turn answered => exact sound_did sound here turn (.inl answered)
  | fail here turn fails => exact sound_did sound here turn (.inr fails)
  | land here => exact ⟨sound.positions,sound.sessions,sound.acts,sound.once,sound.unborn⟩
  | clock later => exact ⟨sound.positions,sound.sessions,sound.acts,sound.once,sound.unborn⟩
  | crash =>
    have same : ∀ me, (world.calls.map Call.crashed).countP (opening me) = world.calls.countP (opening me) := by
      intro me
      rw [List.countP_map]
      congr 1
      funext call
      simp only [Function.comp_apply,Call.crashed]
      split <;> rfl
    refine ⟨sound.positions,sound.sessions,?_,?_,?_⟩
    · intro call inside me concerns
      obtain ⟨prior,there,rfl⟩ := List.mem_map.mp inside
      apply acts_crashed
      apply sound.acts prior there me
      unfold Call.crashed at concerns
      split at concerns <;> exact concerns
    · intro me
      simpa only [births,same] using sound.once me
    · intro me missing
      simpa only [births,same] using sound.unborn me missing

theorem reached_sound (reached : Reached caps meets world) : Sound caps world := by
  induction reached with
  | first => exact sound_first
  | step _ _ step ih => exact sound_step ih step

end Octora.Positions
