import Octora.Positions.Once

namespace Octora.Positions
open Calls

-- One position and the calls about it, each with what it knows and whether another
-- call has written a row of the position since it read it.
structure Player where
  operation : Operation
  sight : Sight
  stale : Bool

structure Scene where
  seen : View
  players : List Player

def playerOf (me : Text) (call : Call) : Player := ⟨call.operation,sightOf me call.past,decide (me ∈ call.stale)⟩

def scene (me : Text) (world : World) : Scene :=
  ⟨view me world.stores,(world.calls.filter fun call => decide (call.operation.concerns me)).map (playerOf me)⟩

def Player.overtaken (me : Text) (query : Query) (player : Player) : Player :=
  { player with stale := player.stale || decide (query.writes = some me) }

-- The scene after a call has been answered.
def Scene.acted (me : Text) (query : Query) (before : List Player) (player : Player) (after : List Player) (knows : Sight)
    (stale : Bool) (later : View) : Scene :=
  ⟨later,before.map (Player.overtaken me query) ++ ⟨player.operation,knows,stale⟩ :: after.map (Player.overtaken me query)⟩

-- An answer after which a call knows nothing of the position but its row as it is.
structure Renewed (knows : Sight) (seen : View) : Prop where
  row : ∀ state, knows.row = some state → seen.row = some state
  session : knows.session = none
  loaded : knows.loaded = false

-- What a step of the world is for one position, where no call writes a row of the
-- position that another has written since it read it.
inductive Turn (caps : BetaCapsConfig) (me : Text) (scene : Scene) : Scene → Prop where
  | rests : Turn caps me scene scene
  | enters (concerned : operation.concerns me) :
      Turn caps me scene { scene with players := scene.players ++ [⟨operation,.start,false⟩] }
  | lands (here : scene.seen.saves = before ++ signature :: after) :
      Turn caps me scene { scene with seen := { scene.seen with record := some signature, saves := before ++ after } }
  | acts {player : Player} (here : scene.players = before ++ player :: after)
      (permitted : permits caps me player.operation query player.sight)
      (deed : Deed me player.sight scene.seen query knows later)
      (fresh : query.writes = some me → player.stale = false)
      (kept : player.stale = false → stale = false) (renewed : stale = false → player.stale = false ∨ Renewed knows later) :
      Turn caps me scene (.acted me query before player after knows stale later)

def writesNext : Async Outcome → Option Text
  | .call query _ => query.writes
  | _ => none

-- The condition: no call updates a row of a position that another call has updated
-- since this one read the position.
def Abreast (world : World) : Action → Prop
  | .answer index | .fail index => ∀ call ∈ world.calls[index]?, ∀ positionId ∈ writesNext call.rest, positionId ∉ call.stale
  | _ => True

instance (world : World) : (action : Action) → Decidable (Abreast world action)
  | .answer _ | .fail _ => by unfold Abreast; infer_instance
  | .enter _ | .land _ | .clock _ | .crash _ => inferInstanceAs (Decidable True)

section Players
variable {me : Text} {query : Query} {scene : Scene} {before after : List Player} {player : Player} {knows : Sight} {stale : Bool}
  {later : View}

theorem acted_all {one two : Player → Prop} (all : ∀ other ∈ scene.players, one other)
    (here : scene.players = before ++ player :: after)
    (others : ∀ other, other ∈ before ∨ other ∈ after → one other → two (other.overtaken me query))
    (self : one player → two ⟨player.operation,knows,stale⟩) :
    ∀ other ∈ (Scene.acted me query before player after knows stale later).players, two other :=
  Roster.forall_replaced others (here ▸ all) self

theorem acted_count {counted : Player → Bool} (kept : ∀ other, counted (other.overtaken me query) = counted other)
    (here : scene.players = before ++ player :: after) :
    (Scene.acted me query before player after knows stale later).players.countP counted +
        (if counted player = true then 1 else 0) =
      scene.players.countP counted + if counted ⟨player.operation,knows,stale⟩ = true then 1 else 0 := by
  rw [here]
  exact Roster.countP_replaced kept before after player _

theorem entered_all {one : Player → Prop} (all : ∀ other ∈ scene.players, one other) (entrant : one player) :
    ∀ other ∈ scene.players ++ [player], one other := by
  intro other inside
  rcases List.mem_append.mp inside with old | new
  · exact all other old
  · rw [List.mem_singleton.mp new]
    exact entrant

theorem overtaken_fresh (fresh : (Player.overtaken me query player).stale = false) :
    player.stale = false ∧ query.writes ≠ some me := by
  unfold Player.overtaken at fresh
  rw [Bool.or_eq_false_iff] at fresh
  exact ⟨fresh.1,of_decide_eq_false fresh.2⟩

end Players

section Turns
variable {caps : BetaCapsConfig} {me : Text} {world after : World} {call : Call} {query : Query} {answer : Except Thrown (Reply query)}

theorem player_overtaken (query : Query) (call : Call) :
    playerOf me (call.overtaken query) = (playerOf me call).overtaken me query := by
  unfold playerOf Call.overtaken Player.overtaken
  congr 1
  rw [← Bool.decide_or]
  apply decide_eq_decide.mpr
  cases query.writes with
  | none => simp [Option.toList]
  | some positionId => simp [or_comm,eq_comm]

theorem players_overtaken (query : Query) (calls : List Call) :
    ((calls.map (Call.overtaken query)).filter fun call => decide (call.operation.concerns me)).map (playerOf me) =
      ((calls.filter fun call => decide (call.operation.concerns me)).map (playerOf me)).map
        (Player.overtaken me query) := by
  rw [List.filter_map,List.map_map,List.map_map]
  apply List.map_congr_left
  intro call _
  exact player_overtaken query call

theorem shown_renewed (keyed : Keyed stores.database) (did : Did query stores answer later)
    (permitted : permits caps me operation query sight) (shown : me ∈ shows query answer) :
    Renewed (look me sight query answer) (view me later) := by
  cases query with
  | getPositionById positionId =>
    cases answer with
    | error error => exact absurd shown List.not_mem_nil
    | ok found =>
      cases List.mem_singleton.mp shown
      have started : sight = .start := by
        cases operation with
        | createDraftPositionIntent _ _ | tick _ => exact False.elim permitted
        | _ => exact permitted.2
      subst started
      have read : found = later.database.position me := by
        rcases did with ⟨answered,rfl⟩ | ⟨-,⟨error,wrong⟩,-⟩
        · exact Except.ok.inj answered
        · cases wrong
      cases found with
      | none =>
        simp only [look,if_true]
        exact ⟨fun _ known => absurd known.symm (Option.some_ne_none _),rfl,rfl⟩
      | some row =>
        simp only [look,if_true]
        refine ⟨?_,rfl,rfl⟩
        rintro state known
        simp only [view,← read,Option.map_some]
        exact known
  | findStuckPositions state cutoff limit =>
    cases answer with
    | error error => exact absurd shown List.not_mem_nil
    | ok page =>
      have here : me ∈ page.map PositionRow.id := shown
      simp only [look,if_pos here]
      refine ⟨?_,rfl,rfl⟩
      rintro other known
      rw [← known]
      rcases did with answered | ⟨-,⟨error,wrong⟩,-⟩
      · have row := listed_row keyed answered here
        obtain ⟨_,-,rfl,-⟩ := answered
        exact row
      · cases wrong
  | _ => cases answer <;> exact absurd shown List.not_mem_nil

theorem turn_did {before rest : List Call} {next : Except Thrown (Reply query) → Async Outcome} (sound : Sound caps world)
    (here : world.calls = before ++ call :: rest) (turn : call.rest = .call query next)
    (did : Did query world.stores answer stores) (abreast : Abreast world (.answer before.length)) :
    Turn caps me (scene me world) (scene me (world.answered before call rest query answer (next answer) stores)) := by
  have inside : call ∈ world.calls := by simp [here]
  have deed : Deed me (sightOf me call.past) (view me world.stores) query _ (view me stores) :=
    deed_did sound.keyed (sound_did sound here turn did).keyed did
  have current : query.writes = some me → me ∉ call.stale := by
    intro writes
    apply abreast call (by simp [here]) me
    rw [turn]
    exact writes
  by_cases concerns : call.operation.concerns me
  · have permitted := acts_permitted (sound.acts call inside me concerns) turn
    have split : (scene me world).players =
        ((before.filter fun call => decide (call.operation.concerns me)).map (playerOf me)) ++ playerOf me call ::
          ((rest.filter fun call => decide (call.operation.concerns me)).map (playerOf me)) := by
      simp [scene,here,concerns]
    have acted : scene me (world.answered before call rest query answer (next answer) stores) =
        ⟨view me stores,
          ((before.filter fun call => decide (call.operation.concerns me)).map (playerOf me)).map
            (Player.overtaken me query) ++
          ⟨call.operation,look me (sightOf me call.past) query answer,
            decide (me ∈ (call.goesOn query answer (next answer)).stale)⟩ ::
          ((rest.filter fun call => decide (call.operation.concerns me)).map (playerOf me)).map
            (Player.overtaken me query)⟩ := by
      have own : (call.goesOn query answer (next answer)).operation = call.operation := rfl
      unfold scene World.answered
      simp only [List.filter_append,List.filter_cons,own,concerns,decide_true,if_true,List.map_append,List.map_cons,
        players_overtaken]
      congr 3
      simp only [playerOf,Call.goesOn,sightOf_snoc]
    rw [acted]
    apply Turn.acts split permitted deed
    · exact fun writes => decide_eq_false (current writes)
    · intro behind
      apply decide_eq_false
      exact fun stale => of_decide_eq_false behind (List.mem_of_mem_filter stale)
    · intro abreast'
      by_cases stale : me ∈ call.stale
      · right
        apply shown_renewed sound.keyed did permitted
        have left := of_decide_eq_false abreast'
        by_contra unseen
        exact left (List.mem_filter.mpr ⟨stale,decide_eq_true unseen⟩)
      · exact .inl (decide_eq_false stale)
  · have same := apart_view sound inside turn concerns deed
    have apart : query.writes ≠ some me := by
      intro writes
      apply about_apart sound inside turn concerns
      cases query with
      | updatePositionState _ _ | updateExecutionSession _ _ _ => exact writes
      | _ => cases writes
    have unread : ∀ player, Player.overtaken me query player = player := by
      intro player
      simp only [Player.overtaken,apart,decide_false,Bool.or_false]
    have still : scene me (world.answered before call rest query answer (next answer) stores) = scene me world := by
      have own : (call.goesOn query answer (next answer)).operation = call.operation := rfl
      unfold scene World.answered
      simp only [List.filter_append,List.filter_cons,own,concerns,decide_false,if_neg Bool.false_ne_true,List.map_append,
        players_overtaken,same,here]
      congr 2
      · exact (List.map_congr_left fun player _ => unread player).trans (List.map_id _)
      · exact (List.map_congr_left fun player _ => unread player).trans (List.map_id _)
    rw [still]
    exact .rests

theorem step_turn (sound : Sound caps world) (abreast : Abreast world action) (step : Step caps world action after)
    (me : Text) : Turn caps me (scene me world) (scene me after) := by
  cases step with
  | @enter operation single =>
    by_cases concerned : operation.concerns me
    · have entered : scene me { world with
          calls := world.calls ++ [⟨operation,[],bodyOf caps operation,world.stores.database,[]⟩]
          log := world.log ++ made operation (bodyOf caps operation) } =
          { scene me world with players := (scene me world).players ++ [⟨operation,.start,false⟩] } := by
        simp [scene,concerned,playerOf,sightOf]
      rw [entered]
      exact .enters concerned
    · have same : scene me { world with
          calls := world.calls ++ [⟨operation,[],bodyOf caps operation,world.stores.database,[]⟩]
          log := world.log ++ made operation (bodyOf caps operation) } = scene me world := by
        simp [scene,concerned]
      rw [same]
      exact .rests
  | answer here turn answered => exact turn_did sound here turn (.inl answered) abreast
  | fail here turn fails => exact turn_did sound here turn (.inr fails) abreast
  | land here =>
    rename_i before rest entry
    have landed : view me _ = _ := view_land here
    by_cases mine : entry.positionId = me
    · rw [if_pos mine] at landed
      have saves : (scene me world).seen.saves = savesOf me before ++ entry.signature :: savesOf me rest := by
        simp [scene,view,here,savesOf,mine]
      have after : scene me { world with stores := world.stores.land entry (before ++ rest) } =
          { scene me world with
            seen := { (scene me world).seen with
              record := some entry.signature, saves := savesOf me before ++ savesOf me rest } } := by
        simp only [scene,landed]
      rw [after]
      exact .lands saves
    · rw [if_neg mine] at landed
      have same : scene me { world with stores := world.stores.land entry (before ++ rest) } = scene me world := by
        simp only [scene,landed]
      rw [same]
      exact .rests
  | clock later => exact .rests
  | crash =>
    rename_i scan
    have same : scene me { world with
        stores := { world.stores with lastFailureScan := scan }
        calls := world.calls.map Call.crashed } = scene me world := by
      have operation : ∀ call : Call, call.crashed.operation = call.operation := by
        intro call
        unfold Call.crashed
        split <;> rfl
      have player : ∀ call : Call, playerOf me call.crashed = playerOf me call := by
        intro call
        unfold Call.crashed
        split <;> rfl
      unfold scene
      rw [List.filter_map,List.map_map]
      simp only [Function.comp_def,operation,player]
      rfl
    rw [same]
    exact .rests

end Turns

end Octora.Positions
