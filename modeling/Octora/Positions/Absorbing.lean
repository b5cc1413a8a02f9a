import Octora.Positions.Scene

namespace Octora.Positions
open Calls

def Player.executing (player : Player) : Bool := isExecute player.operation && player.sight.wrote

def Player.registered (player : Player) : Bool := isExecute player.operation && player.sight.registered

def Scene.executing (scene : Scene) : Nat := scene.players.countP Player.executing

def Scene.registered (scene : Scene) : Nat := scene.players.countP Player.registered

def View.unsigned (seen : View) : Nat :=
  if seen.session = none ∨ seen.session = some .awaiting_signature then 1 else 0

def View.stored (seen : View) : Bool := (seen.record.bind id).isSome

def View.signatures (seen : View) : Nat := seen.saves.countP Option.isSome

section Deeds
variable {caps : BetaCapsConfig} {me : Text} {operation : Operation} {sight knows : Sight} {seen later : View} {query : Query}

theorem deed_row_apart (deed : Deed me sight seen query knows later) (apart : query.writes ≠ some me)
    (found : seen.row = some state) : later.row = some state := by
  cases deed with
  | creates _ absent | createsLost _ absent => exact nomatch absent.symm.trans found
  | movesRow _ | movesRowLost _ => exact absurd rfl apart
  | movesSession _ | movesSessionLost _ => exact absurd rfl apart
  | _ => exact found

theorem deed_session_apart (deed : Deed me sight seen query knows later) (apart : query.writes ≠ some me)
    (found : seen.session = some state) : later.session = some state := by
  cases deed with
  | opens _ absent => exact nomatch absent.symm.trans found
  | movesRow _ | movesRowLost _ => exact absurd rfl apart
  | movesSession _ | movesSessionLost _ => exact absurd rfl apart
  | _ => exact found

-- A call knows its own answer.
theorem deed_row_known (deed : Deed me sight seen query knows later)
    (known : ∀ state, sight.row = some state → seen.row = some state) :
    ∀ state, knows.row = some state → later.row = some state := by
  intro state read
  cases deed with
  | creates _ absent | createsLost _ absent => exact nomatch absent.symm.trans (known state read)
  | movesRow _ => exact read
  | movesRowLost _ | movesRowNot | movesSessionLost _ | movesSessionNot => exact nomatch read
  | readsRow found | lists found => exact found.trans read
  | _ => exact known state read

theorem deed_session_known (deed : Deed me sight seen query knows later)
    (known : ∀ state, sight.session = some state → seen.session = some state) :
    ∀ state, knows.session = some state → later.session = some state := by
  intro state read
  cases deed with
  | opens _ absent => exact nomatch absent.symm.trans (known state read)
  | movesSession _ => exact read
  | movesRowLost _ | movesRowNot | movesSessionLost _ | movesSessionNot | lists _ => exact nomatch read
  | readsSession found => exact found.trans read
  | _ => exact known state read

theorem draft_created (permitted : permits caps me operation (.createPosition input) sight) : input.state = .draft := by
  cases operation with
  | createDraftPositionIntent _ _ => exact permitted.2.2.1
  | _ => exact False.elim permitted

-- No row is ever put into the state that the worker's first scan looks for.
theorem row_target (permitted : permits caps me operation (.updatePositionState me target) sight)
    (listed : sight.stranded = false) : target ≠ .executing_on_meteora ∧ sight.row ≠ none := by
  cases operation with
  | createDraftPositionIntent _ _ => exact False.elim permitted
  | executeSignedIntent _ =>
    obtain ⟨-,known,-,-,-,⟨rfl,-⟩ | ⟨rfl,-⟩⟩ := permitted
    · exact ⟨by decide,known⟩
    · exact ⟨by decide,known⟩
  | claimPosition _ | withdrawClosePosition _ =>
    obtain ⟨-,⟨rfl,known,-⟩ | ⟨-,-,⟨rfl,known,-⟩ | ⟨rfl,-,known,-⟩ | ⟨rfl,known,-⟩ | ⟨rfl,known,-⟩⟩⟩ := permitted <;>
      refine ⟨by decide,?_⟩ <;> simp only [known,ne_eq,reduceCtorEq,not_false_eq_true]
  | getPosition _ =>
    obtain ⟨-,rfl,known,-⟩ := permitted
    exact ⟨by decide,known⟩
  | tick _ =>
    rcases permitted rfl with ⟨stranded,-⟩ | ⟨rfl,known,-⟩
    · exact nomatch listed.symm.trans stranded
    · refine ⟨by decide,?_⟩
      simp only [known,ne_eq,reduceCtorEq,not_false_eq_true]


theorem deed_unsigned (deed : Deed me sight seen query knows later)
    (permitted : permits caps me operation query sight) : later.unsigned ≤ seen.unsigned := by
  cases deed with
  | opens _ absent =>
    simp only [View.unsigned,absent,true_or,if_true]
    split <;> omega
  | movesSession found | movesSessionLost found =>
    have apart := never_awaiting permitted
    simp [View.unsigned,View.moveSession,apart]
  | _ => exact Nat.le_refl _

end Deeds

-- What a call that is not stale knows is so; at most one execution has written.
structure Fresh (scene : Scene) : Prop where
  row : ∀ player ∈ scene.players, player.stale = false →
    ∀ state, player.sight.row = some state → scene.seen.row = some state
  session : ∀ player ∈ scene.players, player.stale = false →
    ∀ state, player.sight.session = some state → scene.seen.session = some state
  unstranded : scene.seen.row ≠ some .executing_on_meteora
  listed : ∀ player ∈ scene.players, player.sight.stranded = false
  single : scene.executing + scene.seen.unsigned ≤ 1

section Fresh
variable {caps : BetaCapsConfig} {me : Text} {scene next : Scene} {before after : List Player} {player : Player} {query : Query}
  {knows : Sight} {later : View} {stale : Bool}

theorem fresh_acts (fresh : Fresh scene) (here : scene.players = before ++ player :: after)
    (permitted : permits caps me player.operation query player.sight)
    (deed : Deed me player.sight scene.seen query knows later) (current : query.writes = some me → player.stale = false)
    (renewed : stale = false → player.stale = false ∨ Renewed knows later) :
    Fresh (.acted me query before player after knows stale later) := by
  have inside : player ∈ scene.players := by simp [here]
  have unstranded := fresh.listed player inside
  refine ⟨?_,?_,?_,?_,?_⟩
  · refine acted_all fresh.row here ?_ ?_
    · intro other _ known behind state read
      have ⟨behind',apart⟩ := overtaken_fresh behind
      exact deed_row_apart deed apart (known behind' state read)
    · intro known behind
      rcases renewed behind with behind' | anew
      · exact deed_row_known deed (known behind')
      · exact anew.row
  · refine acted_all fresh.session here ?_ ?_
    · intro other _ known behind state read
      have ⟨behind',apart⟩ := overtaken_fresh behind
      exact deed_session_apart deed apart (known behind' state read)
    · intro known behind
      rcases renewed behind with behind' | anew
      · exact deed_session_known deed (known behind')
      · exact fun state read => nomatch anew.session.symm.trans read
  · intro stuck
    cases deed with
    | creates _ _ | createsLost _ _ => exact nomatch (draft_created permitted).symm.trans (Option.some.inj stuck)
    | movesRow _ | movesRowLost _ => exact (row_target permitted unstranded).1 (Option.some.inj stuck)
    | _ => exact fresh.unstranded stuck
  · refine acted_all fresh.listed here (fun _ _ quiet => quiet) ?_
    · intro quiet
      cases deed with
      | lists found =>
        rw [Bool.or_eq_false_iff]
        exact ⟨quiet,decide_eq_false fun stuck => fresh.unstranded (stuck ▸ found)⟩
      | _ => exact quiet
  · have counted : Scene.executing _ + _ = scene.executing + _ :=
      @acted_count me query scene before after player knows stale later Player.executing (fun _ => rfl) here
    have fact : Player.executing ⟨player.operation,knows,stale⟩ = (isExecute player.operation && knows.wrote) := rfl
    rw [fact] at counted
    have signed := deed_unsigned deed permitted
    have single := fresh.single
    change Scene.executing _ + later.unsigned ≤ 1
    cases executes : isExecute player.operation && knows.wrote with
    | false =>
      rw [executes] at counted
      simp only [Bool.false_eq_true,if_false] at counted
      omega
    | true =>
      have ⟨holder,wrote⟩ := Bool.and_eq_true_iff.mp executes
      rw [executes] at counted
      cases prior : player.executing with
      | true =>
        simp only [prior,if_true] at counted
        omega
      | false =>
        -- The first write: the session was waiting for its signature.
        have unwritten : player.sight.wrote = false := by
          unfold Player.executing at prior
          rw [holder,Bool.true_and] at prior
          exact prior
        rcases look_wrote deed wrote with early | ⟨source,target,stage,rfl,found,rfl⟩
        · exact nomatch unwritten.symm.trans early
        · have ⟨leaves,gate⟩ := execute_enters holder permitted
          have awaiting := fresh.session player inside (current rfl) _ (gate unwritten)
          have one : scene.seen.unsigned = 1 := by simp [View.unsigned,awaiting]
          have zero : (scene.seen.moveSession source target).unsigned = 0 := by
            simp [View.unsigned,View.moveSession,leaves]
          rw [prior] at counted
          simp only [Bool.false_eq_true,if_false,if_true] at counted
          omega

theorem fresh_turn (fresh : Fresh scene) (turn : Turn caps me scene next) : Fresh next := by
  cases turn with
  | rests => exact fresh
  | enters concerned =>
    refine ⟨entered_all fresh.row ?_,entered_all fresh.session ?_,fresh.unstranded,entered_all fresh.listed rfl,?_⟩
    · exact fun _ _ read => nomatch read
    · exact fun _ _ read => nomatch read
    · have single := fresh.single
      simpa [Scene.executing,Player.executing,Sight.start] using single
  | lands here => exact ⟨fresh.row,fresh.session,fresh.unstranded,fresh.listed,fresh.single⟩
  | acts here permitted deed current kept renewed => exact fresh_acts fresh here permitted deed current renewed

end Fresh

-- A signature is in one place, and only after it has been registered.
structure Supply (scene : Scene) : Prop where
  wrote : ∀ player ∈ scene.players, player.sight.registered = true →
    isExecute player.operation = true ∧ player.sight.wrote = true
  tokens : scene.seen.signatures + (if scene.seen.stored = true then 1 else 0) ≤ scene.registered
  loaded : ∀ player ∈ scene.players, player.sight.loaded = true → scene.seen.signatures = 0 ∧ 1 ≤ scene.registered
  taken : ∀ player ∈ scene.players, player.sight.took → scene.seen.stored = false

section Supply
variable {caps : BetaCapsConfig} {me : Text} {scene next : Scene} {before after : List Player} {player : Player} {query : Query}
  {knows sight : Sight} {later seen : View} {stale : Bool} {operation : Operation}

theorem registered_executing (supply : Supply scene) : scene.registered ≤ scene.executing := by
  apply List.countP_mono_left
  intro player inside registered
  have ⟨holder,registered⟩ := Bool.and_eq_true_iff.mp registered
  simp only [Player.executing,holder,(supply.wrote player inside registered).2,Bool.and_self]

-- While an execution has still to register its signature, none is registered.
theorem none_registered (fresh : Fresh scene) (supply : Supply scene) (inside : player ∈ scene.players)
    (executing : player.executing = true) (unregistered : player.sight.registered = false) : scene.registered = 0 := by
  by_contra some_
  have single := fresh.single
  obtain ⟨other,there,registered⟩ := List.countP_pos_iff.mp (Nat.pos_of_ne_zero some_)
  obtain ⟨before,after,here⟩ := List.append_of_mem inside
  have apart : other ∈ before ∨ other ∈ after := by
    rw [here] at there
    rcases List.mem_append.mp there with early | late
    · exact .inl early
    · rcases List.mem_cons.mp late with rfl | later
      · exact nomatch unregistered.symm.trans (Bool.and_eq_true_iff.mp registered).2
      · exact .inr later
  have ⟨holder,registered⟩ := Bool.and_eq_true_iff.mp registered
  have executes : other.executing = true := by
    simp only [Player.executing,holder,(supply.wrote other there registered).2,Bool.and_self]
  have two := Roster.two_counted executing executes apart
  rw [← here] at two
  unfold Scene.executing at single
  omega

theorem stored_holds (held : seen.holds = true) : seen.stored = true := by
  unfold View.holds at held
  unfold View.stored
  cases record : seen.record with
  | none =>
    rw [record] at held
    exact nomatch held
  | some signature =>
    cases signature with
    | none =>
      rw [record] at held
      exact nomatch held
    | some signature => rfl

-- A deed registers a signature or adds none.
theorem deed_supply (deed : Deed me sight seen query knows later) (permitted : permits caps me operation query sight) :
    (knows.registered = sight.registered ∧ later.signatures = seen.signatures ∧
      (later.stored = true → seen.stored = true)) ∨
    ∃ signature, query = .saveUnawaited ⟨me,some signature⟩ ∧ isExecute operation = true ∧ sight.wrote = true ∧
      sight.registered = false ∧ knows = { sight with registered := true } ∧
      later = { seen with saves := seen.saves ++ [some signature] } := by
  cases deed with
  | registers =>
    right
    cases operation with
    | executeSignedIntent _ =>
      obtain ⟨-,-,wrote,-,⟨nothing,-⟩ | ⟨-,-,-,-,unregistered⟩⟩ := permitted
      · exact nomatch nothing
      · exact ⟨_,rfl,rfl,wrote,unregistered,rfl,rfl⟩
    | _ => exact False.elim permitted
  | begins =>
    left
    exact ⟨rfl,by simp [View.signatures],id⟩
  | clears | clearsLost => exact .inl ⟨rfl,rfl,fun stored => nomatch stored⟩
  | _ => exact .inl ⟨rfl,rfl,id⟩

theorem deed_wrote (deed : Deed me sight seen query knows later) (holder : isExecute operation = true)
    (permitted : permits caps me operation query sight) (wrote : sight.wrote = true) : knows.wrote = true := by
  cases deed with
  | lists _ =>
    cases operation with
    | executeSignedIntent _ => exact False.elim permitted
    | _ => exact nomatch holder
  | movesSession _ => rfl
  | _ => exact wrote

theorem deed_loaded (deed : Deed me sight seen query knows later) (loaded : knows.loaded = true) :
    sight.loaded = true ∨ seen.holds = true ∧ later = seen := by
  cases deed with
  | loads => exact .inr ⟨loaded,rfl⟩
  | lists _ => exact nomatch loaded
  | _ => exact .inl loaded

theorem deed_took (deed : Deed me sight seen query knows later) (took : knows.took) : sight.took ∨ later.stored = false := by
  cases deed with
  | loads => exact nomatch took.2
  | lists _ => exact nomatch took.2
  | clears => exact .inr rfl
  | _ => exact .inl took

theorem registered_acts (here : scene.players = before ++ player :: after) :
    (Scene.acted me query before player after knows stale later).registered + (if player.registered = true then 1 else 0) =
      scene.registered + if (isExecute player.operation && knows.registered) = true then 1 else 0 :=
  @acted_count me query scene before after player knows stale later Player.registered (fun _ => rfl) here

theorem supply_acts (fresh : Fresh scene) (supply : Supply scene) (here : scene.players = before ++ player :: after)
    (permitted : permits caps me player.operation query player.sight)
    (deed : Deed me player.sight scene.seen query knows later) :
    Supply (.acted me query before player after knows stale later) := by
  have inside : player ∈ scene.players := by simp [here]
  have counted := @registered_acts me scene before after player query knows later stale here
  rcases deed_supply deed permitted with ⟨same,saves,stored⟩ | ⟨signature,rfl,holder,wrote,unregistered,rfl,rfl⟩
  · have level : (Scene.acted me query before player after knows stale later).registered = scene.registered := by
      rw [same] at counted
      exact Nat.add_right_cancel counted
    have unstored : scene.seen.stored = false → later.stored = false := by
      intro empty
      cases after : later.stored with
      | false => rfl
      | true => exact nomatch empty.symm.trans (stored after)
    refine ⟨?_,?_,?_,?_⟩
    · refine acted_all supply.wrote here (fun _ _ prior => prior) fun prior registered => ?_
      have ⟨holder,wrote⟩ := prior (same ▸ registered)
      exact ⟨holder,deed_wrote deed holder permitted wrote⟩
    · have tokens := supply.tokens
      rw [level]
      change later.signatures + (if later.stored = true then 1 else 0) ≤ _
      rw [saves]
      cases after : later.stored with
      | false =>
        simp only [Bool.false_eq_true,if_false]
        omega
      | true =>
        rw [stored after] at tokens
        exact tokens
    · rw [level]
      change ∀ other ∈ _,_ → later.signatures = 0 ∧ _
      rw [saves]
      refine acted_all supply.loaded here (fun _ _ prior => prior) fun prior loaded => ?_
      rcases deed_loaded deed loaded with early | ⟨held,-⟩
      · exact prior early
      · have tokens := supply.tokens
        rw [stored_holds held] at tokens
        have single := fresh.single
        have fewer := registered_executing supply
        simp only [if_true] at tokens
        omega
    · refine acted_all supply.taken here (fun _ _ prior took => unstored (prior took)) fun prior took => ?_
      rcases deed_took deed took with early | cleared
      · exact unstored (prior early)
      · exact cleared
  · have executing : player.executing = true := by simp only [Player.executing,holder,wrote,Bool.and_self]
    have none_ := none_registered fresh supply inside executing unregistered
    have one : (Scene.acted me (.saveUnawaited ⟨me,some signature⟩) before player after
        { player.sight with registered := true } stale
        { scene.seen with saves := scene.seen.saves ++ [some signature] }).registered = 1 := by
      simp only [Player.registered,holder,unregistered,Bool.and_self,Bool.and_false,Bool.false_eq_true,if_false,if_true] at counted
      rw [none_] at counted
      exact counted
    have unloaded : ∀ other ∈ scene.players, other.sight.loaded = true → False := by
      intro other there loaded
      have some_ := (supply.loaded other there loaded).2
      omega
    refine ⟨?_,?_,?_,?_⟩
    · refine acted_all supply.wrote here (fun _ _ prior => prior) fun _ _ => ⟨holder,wrote⟩
    · have tokens := supply.tokens
      rw [one]
      change List.countP _ (_ ++ _) + _ ≤ 1
      have empty : scene.seen.saves.countP Option.isSome + (if scene.seen.stored = true then 1 else 0) ≤ 0 := by
        exact none_ ▸ tokens
      rw [List.countP_append]
      change _ + 1 + (if scene.seen.stored = true then 1 else 0) ≤ 1
      omega
    · exact acted_all unloaded here (fun _ _ prior loaded => False.elim (prior loaded))
        fun prior loaded => False.elim (prior loaded)
    · exact acted_all unloaded here (fun _ _ prior took => False.elim (prior took.1))
        fun prior took => False.elim (prior took.1)

theorem supply_turn (fresh : Fresh scene) (supply : Supply scene) (turn : Turn caps me scene next) : Supply next := by
  cases turn with
  | rests => exact supply
  | @enters operation concerned =>
    have level : ({ scene with players := scene.players ++ [⟨operation,.start,false⟩] } : Scene).registered =
        scene.registered := by
      simp [Scene.registered,Player.registered,Sight.start]
    refine ⟨?_,?_,?_,?_⟩
    · exact entered_all supply.wrote fun registered => by cases registered
    · rw [level]
      exact supply.tokens
    · rw [level]
      exact entered_all supply.loaded fun loaded => by cases loaded
    · exact entered_all supply.taken fun took => by cases took.1
  | @lands before signature after here =>
    have parts : scene.seen.signatures =
        before.countP Option.isSome + (after.countP Option.isSome + if signature.isSome = true then 1 else 0) := by
      simp only [View.signatures,here,List.countP_append,List.countP_cons]
    have tokens := supply.tokens
    refine ⟨supply.wrote,?_,?_,?_⟩
    · change List.countP _ (before ++ after) + (if signature.isSome = true then 1 else 0) ≤ scene.registered
      rw [List.countP_append]
      omega
    · intro player inside loaded
      have prior := supply.loaded player inside loaded
      refine ⟨?_,prior.2⟩
      change List.countP _ (before ++ after) = 0
      rw [List.countP_append]
      omega
    · intro player inside took
      have prior := (supply.loaded player inside took.1).1
      cases signature with
      | none => rfl
      | some signature =>
        simp only [Option.isSome_some,if_true] at parts
        omega
  | acts here permitted deed current kept renewed => exact supply_acts fresh supply here permitted deed

end Supply

-- The states after which a position is not to become active again.
def ENDING_STATES : List ExecutionState := [.claiming,.withdrawing,.closing,.completed,.failed]

-- A call that is to activate the position, or may become one.
structure Player.Offers (player : Player) : Prop where
  fresh : player.stale = false
  loaded : player.sight.loaded = true
  unwritten : player.sight.wrote = false
  known : player.sight.row ≠ none

def Scene.Offered (scene : Scene) : Prop :=
  scene.seen.stored = true ∨ scene.seen.signatures ≠ 0 ∨ ∃ player ∈ scene.players, player.Offers

def View.Ending (seen : View) : Prop := ∃ move ∈ seen.moves, move.2 ∈ ENDING_STATES

-- What the rows of a position have gone through.
structure Course (scene : Scene) : Prop where
  trail : ∀ state, scene.seen.row = some state → state = .draft ∨ ∃ move ∈ scene.seen.moves, move.2 = state
  quiet : scene.executing = 0 → scene.seen.moves = []
  early : scene.registered = 0 → ∀ move ∈ scene.seen.moves, move.2 = .indexing ∨ move.2 = .failed
  alone : scene.registered = 0 → ∀ player ∈ scene.players, player.executing = true → player.sight.gaveUp = false →
    player.stale = false ∧ ∀ move ∈ scene.seen.moves, move.2 = .indexing
  exits : ∀ player ∈ scene.players, isExit player.operation = true → player.sight.moved = true →
    1 ≤ scene.registered ∧ scene.seen.Ending
  offer : scene.Offered → scene.seen.session = some .indexing ∧ ¬scene.seen.Ending
  legal : ∀ turn ∈ scene.seen.turns, canTransition turn.1 turn.2 = true
  absorbing : ∀ move ∈ scene.seen.moves, move.1 ∉ TERMINAL_POSITION_STATES
  onward : scene.seen.moves.Pairwise fun earlier later => earlier.2 ∈ ENDING_STATES → later.2 ≠ .active

-- The three ways in which a row moves, and in which a session does.
inductive RowMove (scene : Scene) (player : Player) : ExecutionState → ExecutionState → Prop where
  | execute (early : scene.registered = 0) (own : player.executing = true) (going : player.sight.gaveUp = false)
      (source_ : source = .draft ∨ source = .indexing) (target_ : target = .indexing ∨ target = .failed) :
      RowMove scene player source target
  | exit (settled : 1 ≤ scene.registered) (own : isExit player.operation = true) (shut : ¬scene.Offered)
      (source_ : source ∉ TERMINAL_POSITION_STATES) (target_ : target ≠ .active)
      (ending : target ∈ ENDING_STATES ∨ scene.seen.Ending) : RowMove scene player source target
  | activate (settled : 1 ≤ scene.registered) (own : isExecute player.operation = false ∧ isExit player.operation = false)
      (offers : player.Offers) (source_ : source ∉ TERMINAL_POSITION_STATES) : RowMove scene player source .active

inductive SessionMove (scene : Scene) (player : Player) : Prop where
  | execute (early : scene.registered = 0) (own : isExecute player.operation = true)
      (first : player.executing = true ∨ scene.executing = 0)
  | exit (own : isExit player.operation = true) (moved : player.sight.moved = true)
  | activate (own : isExecute player.operation = false ∧ isExit player.operation = false) (offers : player.Offers)
      (took : player.sight.took)

-- What the moves of the row gain with one answer.
inductive RowMoved (scene : Scene) (player : Player) (knows : Sight) : View → Prop where
  | still (same : later.moves = scene.seen.moves) : RowMoved scene player knows later
  | moved (way : RowMove scene player source target) (unfailed : knows.gaveUp = false → target ≠ .failed) :
      RowMoved scene player knows (scene.seen.moveRow source target)

section Course
variable {caps : BetaCapsConfig} {me : Text} {scene next : Scene} {before after : List Player} {player : Player} {query : Query}
  {knows sight : Sight} {later seen : View} {stale : Bool} {operation : Operation} {source target : ExecutionState}

theorem ending_terminal (ending : source ∉ ENDING_STATES) : source ∉ TERMINAL_POSITION_STATES := by
  cases source <;> revert ending <;> decide

theorem unregistered_shut (supply : Supply scene) (none_ : scene.registered = 0) : ¬scene.Offered := by
  have tokens := supply.tokens
  rintro (stored | some_ | ⟨player,inside,offers⟩)
  · rw [stored,if_pos rfl] at tokens
    omega
  · omega
  · have loaded := (supply.loaded player inside offers.loaded).2
    omega

theorem offers_offered (inside : player ∈ scene.players) (offers : player.Offers) : scene.Offered :=
  .inr (.inr ⟨player,inside,offers⟩)

-- A position that has not ended is in no terminal state.
theorem trail_terminal (course : Course scene) (open_ : ¬scene.seen.Ending) (found : scene.seen.row = some source) :
    source ∉ TERMINAL_POSITION_STATES := by
  rcases course.trail source found with rfl | ⟨move,inside,rfl⟩
  · decide
  · exact ending_terminal fun ending => open_ ⟨move,inside,ending⟩

theorem exit_row_move {exit : Exit} (started : exit.started ∈ ENDING_STATES ∧ exit.started ∉ TERMINAL_POSITION_STATES)
    (settling : exit.settling ∈ ENDING_STATES ∧ exit.settling ∉ TERMINAL_POSITION_STATES)
    (fresh : Fresh scene) (course : Course scene) (inside : player ∈ scene.players) (own : isExit player.operation = true)
    (permitted : exits me exit (.updatePositionState me target) player.sight) (current : player.stale = false)
    (found : scene.seen.row = some source) : RowMove scene player source target := by
  have row : ∀ state, player.sight.row = some state → source = state := fun state known =>
    Option.some.inj (found.symm.trans (fresh.row player inside current state known))
  have session := fresh.session player inside current
  obtain ⟨-,⟨rfl,known,live,-⟩ | ⟨moved,-,ways⟩⟩ := permitted
  · have active := row _ known
    subst active
    refine .exit ?_ own ?_ (by decide) (fun same => ?_) (.inl started.1)
    · by_contra none_
      have early := course.early (by omega)
      rcases course.trail _ found with wrong | ⟨move,there,wrong⟩
      · exact nomatch wrong
      · rcases early move there with other | other
        · exact nomatch wrong.symm.trans other
        · exact nomatch wrong.symm.trans other
    · intro offered
      have indexing := (course.offer offered).1
      exact nomatch (session _ live).symm.trans indexing
    · exact absurd (same ▸ started.1) (by decide)
  · have ⟨settled,ending⟩ := course.exits player inside own moved
    have shut : ¬scene.Offered := fun offered => (course.offer offered).2 ending
    rcases ways with ⟨rfl,known,-⟩ | ⟨rfl,-,known,-⟩ | ⟨rfl,known,-⟩ | ⟨rfl,known,-⟩
    · exact .exit settled own shut (row _ known ▸ started.2) (by decide) (.inr ending)
    · refine .exit settled own shut (row _ known ▸ started.2) (fun same => ?_) (.inr ending)
      exact absurd (same ▸ settling.1) (by decide)
    · exact .exit settled own shut (row _ known ▸ settling.2) (by decide) (.inr ending)
    · exact .exit settled own shut (row _ known ▸ by decide) (by decide) (.inr ending)

theorem row_move (fresh : Fresh scene) (supply : Supply scene) (course : Course scene) (inside : player ∈ scene.players)
    (permitted : permits caps me player.operation (.updatePositionState me target) player.sight)
    (current : player.stale = false) (found : scene.seen.row = some source) : RowMove scene player source target := by
  have row : ∀ state, player.sight.row = some state → source = state := fun state known =>
    Option.some.inj (found.symm.trans (fresh.row player inside current state known))
  have unstranded := fresh.listed player inside
  obtain ⟨operation,sight,stale⟩ := player
  cases operation with
  | createDraftPositionIntent _ _ => exact False.elim permitted
  | executeSignedIntent input =>
    obtain ⟨-,-,unregistered,wrote,going,ways⟩ := permitted
    have none_ := none_registered fresh supply inside wrote unregistered
    refine .execute none_ wrote going ?_ ?_
    · rcases course.trail source found with draft | ⟨move,there,rfl⟩
      · exact .inl draft
      · exact .inr ((course.alone none_ _ inside wrote going).2 move there)
    · rcases ways with ⟨rfl,-⟩ | ⟨rfl,-⟩
      · exact .inl rfl
      · exact .inr rfl
  | claimPosition _ => exact exit_row_move (by decide) (by decide) fresh course inside rfl permitted current found
  | withdrawClosePosition _ => exact exit_row_move (by decide) (by decide) fresh course inside rfl permitted current found
  | getPosition _ =>
    obtain ⟨-,rfl,known,-,-,unwritten,took⟩ := permitted
    have offers : Player.Offers ⟨_,sight,stale⟩ := ⟨current,took.1,unwritten,known⟩
    have open_ := (course.offer (offers_offered inside offers)).2
    exact .activate (supply.loaded _ inside took.1).2 ⟨rfl,rfl⟩ offers (trail_terminal course open_ found)
  | tick _ =>
    rcases permitted rfl with ⟨stranded,-⟩ | ⟨rfl,known,unwritten,took⟩
    · exact nomatch unstranded.symm.trans stranded
    · have offers : Player.Offers ⟨_,sight,stale⟩ := ⟨current,took.1,unwritten,fun none_ => nomatch known.symm.trans none_⟩
      have open_ := (course.offer (offers_offered inside offers)).2
      exact .activate (supply.loaded _ inside took.1).2 ⟨rfl,rfl⟩ offers (trail_terminal course open_ found)

theorem session_move (fresh : Fresh scene) (supply : Supply scene) (course : Course scene) (inside : player ∈ scene.players)
    (permitted : permits caps me player.operation (.updateExecutionSession me target stage) player.sight)
    (current : player.stale = false) (found : scene.seen.session = some source) :
    SessionMove scene player ∧ canTransition source target = true := by
  have session : ∀ state, player.sight.session = some state → source = state := fun state known =>
    Option.some.inj (found.symm.trans (fresh.session player inside current state known))
  have unstranded := fresh.listed player inside
  obtain ⟨operation,sight,stale⟩ := player
  cases operation with
  | createDraftPositionIntent _ _ => exact False.elim permitted
  | executeSignedIntent input =>
    obtain ⟨-,unregistered,ways⟩ := permitted
    have going : sight.wrote = true → SessionMove scene ⟨.executeSignedIntent input,sight,stale⟩ := fun wrote =>
      .execute (none_registered fresh supply inside wrote unregistered) rfl (.inl wrote)
    rcases ways with ⟨rfl,-,known,-⟩ | ⟨rfl,-,known,wrote,-⟩ | ⟨rfl,-,known,wrote,-⟩ | ⟨rfl,-,-,wrote,-,-,ways⟩
    · have awaiting := session _ known
      subst awaiting
      have single := fresh.single
      have fewer := registered_executing supply
      have one : scene.seen.unsigned = 1 := by simp [View.unsigned,found]
      exact ⟨.execute (by omega) rfl (.inr (by omega)),by decide⟩
    · exact ⟨going wrote,session _ known ▸ by decide⟩
    · exact ⟨going wrote,session _ known ▸ by decide⟩
    · refine ⟨going wrote,?_⟩
      rcases ways with ⟨known,-⟩ | ⟨known,-⟩
      · exact session _ known ▸ by decide
      · exact session _ known ▸ by decide
  | claimPosition _ =>
    obtain ⟨-,moved,ways⟩ := permitted
    refine ⟨.exit rfl moved,?_⟩
    rcases ways with ⟨rfl,-,-,known,-⟩ | ⟨-,⟨rfl,-,-,known⟩ | ⟨rfl,-,apart,-⟩ | ⟨rfl,-,-,known,-⟩ | ⟨rfl,-,-,known,-⟩⟩
    · exact session _ known ▸ by decide
    · exact session _ known ▸ by decide
    · exact absurd rfl apart
    · exact session _ known ▸ by decide
    · exact session _ known ▸ by decide
  | withdrawClosePosition _ =>
    obtain ⟨-,moved,ways⟩ := permitted
    refine ⟨.exit rfl moved,?_⟩
    rcases ways with ⟨rfl,-,-,known,-⟩ | ⟨-,⟨rfl,-,-,known⟩ | ⟨rfl,-,-,-,known,-⟩ | ⟨rfl,-,-,known,-⟩ | ⟨rfl,-,-,known,-⟩⟩
    · exact session _ known ▸ by decide
    · exact session _ known ▸ by decide
    · exact session _ known ▸ by decide
    · exact session _ known ▸ by decide
    · exact session _ known ▸ by decide
  | getPosition _ =>
    obtain ⟨-,rfl,-,row,known,unwritten,took⟩ := permitted
    refine ⟨.activate ⟨rfl,rfl⟩ ⟨current,took.1,unwritten,fun none_ => nomatch row.symm.trans none_⟩ took,?_⟩
    exact session _ known ▸ by decide
  | tick _ =>
    rcases permitted rfl with ⟨stranded,-⟩ | ⟨rfl,-,row,unwritten,took⟩
    · exact nomatch unstranded.symm.trans stranded
    · -- The worker has not read the session: the signature vouches for it.
      have offers : Player.Offers ⟨_,sight,stale⟩ := ⟨current,took.1,unwritten,fun none_ => nomatch row.symm.trans none_⟩
      have indexing := (course.offer (offers_offered inside offers)).1
      have source_ : source = .indexing := Option.some.inj (found.symm.trans indexing)
      exact ⟨.activate ⟨rfl,rfl⟩ offers took,source_ ▸ by decide⟩

theorem row_found (fresh : Fresh scene) (inside : player ∈ scene.players) (current : player.stale = false)
    (permitted : permits caps me player.operation (.updatePositionState me target) player.sight) :
    ∃ source, scene.seen.row = some source := by
  obtain ⟨state,known⟩ := Option.ne_none_iff_exists'.mp (row_target permitted (fresh.listed player inside)).2
  exact ⟨state,fresh.row player inside current state known⟩

theorem session_found (fresh : Fresh scene) (course : Course scene) (inside : player ∈ scene.players)
    (current : player.stale = false)
    (permitted : permits caps me player.operation (.updateExecutionSession me target stage) player.sight) :
    ∃ source, scene.seen.session = some source := by
  have session := fresh.session player inside current
  have unstranded := fresh.listed player inside
  obtain ⟨operation,sight,stale⟩ := player
  cases operation with
  | createDraftPositionIntent _ _ => exact False.elim permitted
  | executeSignedIntent _ =>
    obtain ⟨-,-,⟨-,-,known,-⟩ | ⟨-,-,known,-⟩ | ⟨-,-,known,-⟩ | ⟨-,-,-,-,-,-,⟨known,-⟩ | ⟨known,-⟩⟩⟩ := permitted <;>
      exact ⟨_,session _ known⟩
  | claimPosition _ | withdrawClosePosition _ =>
    obtain ⟨-,-,⟨-,-,-,known,-⟩ | ⟨-,⟨-,-,-,known⟩ | ⟨-,-,-,-,known,-⟩ | ⟨-,-,-,known,-⟩ | ⟨-,-,-,known,-⟩⟩⟩ := permitted <;>
      exact ⟨_,session _ known⟩
  | getPosition _ =>
    obtain ⟨-,-,-,-,known,-⟩ := permitted
    exact ⟨_,session _ known⟩
  | tick _ =>
    rcases permitted rfl with ⟨stranded,-⟩ | ⟨-,-,row,unwritten,took⟩
    · exact nomatch unstranded.symm.trans stranded
    · have offers : Player.Offers ⟨_,sight,stale⟩ := ⟨current,took.1,unwritten,fun none_ => nomatch row.symm.trans none_⟩
      exact ⟨_,(course.offer (offers_offered inside offers)).1⟩

-- Before anything is registered, only an execution writes.
theorem early_writer (fresh : Fresh scene) (supply : Supply scene) (course : Course scene) (inside : player ∈ scene.players)
    (permitted : permits caps me player.operation query player.sight) (current : player.stale = false)
    (writes : query.writes = some me) (none_ : scene.registered = 0) :
    player.executing = true ∨ scene.executing = 0 := by
  cases query with
  | updatePositionState positionId target =>
    cases writes
    obtain ⟨source,found⟩ := row_found fresh inside current permitted
    cases row_move fresh supply course inside permitted current found with
    | execute _ own _ _ _ => exact .inl own
    | exit settled _ _ _ _ _ => omega
    | activate settled _ _ _ => omega
  | updateExecutionSession positionId target stage =>
    cases writes
    obtain ⟨source,found⟩ := session_found fresh course inside current permitted
    cases (session_move fresh supply course inside permitted current found).1 with
    | execute _ _ first => exact first
    | exit own moved =>
      have settled := (course.exits player inside own moved).1
      omega
    | activate _ offers _ =>
      have settled := (supply.loaded player inside offers.loaded).2
      omega
  | _ => exact nomatch writes

theorem deed_gaveUp (deed : Deed me sight seen query knows later) (going : knows.gaveUp = false) : sight.gaveUp = false := by
  cases deed with
  | movesRow _ => exact (Bool.or_eq_false_iff.mp going).1
  | movesRowLost _ | movesRowNot | movesSessionLost _ | movesSessionNot => exact nomatch going
  | _ => exact going

theorem deed_moved (deed : Deed me sight seen query knows later) :
    later.moves = seen.moves ∨ ∃ source target, query = .updatePositionState me target ∧ seen.row = some source ∧
      later = seen.moveRow source target ∧ (knows.gaveUp = false → target ≠ .failed) := by
  cases deed with
  | movesRow found =>
    exact .inr ⟨_,_,rfl,found,rfl,fun going => of_decide_eq_false (Bool.or_eq_false_iff.mp going).2⟩
  | movesRowLost found => exact .inr ⟨_,_,rfl,found,rfl,fun going => nomatch going⟩
  | _ => exact .inl rfl

theorem deed_turned (deed : Deed me sight seen query knows later) :
    later.session = seen.session ∨ seen.session = none ∨ ∃ source target stage,
      query = .updateExecutionSession me target stage ∧ seen.session = some source ∧
      later = seen.moveSession source target ∧ (knows.wrote = true ∨ knows.row = none) := by
  cases deed with
  | opens _ absent => exact .inr (.inl absent)
  | movesSession found => exact .inr (.inr ⟨_,_,_,rfl,found,rfl,.inl rfl⟩)
  | movesSessionLost found => exact .inr (.inr ⟨_,_,_,rfl,found,rfl,.inr rfl⟩)
  | _ => exact .inl rfl

theorem deed_trail (deed : Deed me sight seen query knows later) (permitted : permits caps me operation query sight)
    (trail : ∀ state, seen.row = some state → state = .draft ∨ ∃ move ∈ seen.moves, move.2 = state) :
    ∀ state, later.row = some state → state = .draft ∨ ∃ move ∈ later.moves, move.2 = state := by
  intro state found
  cases deed with
  | creates _ _ | createsLost _ _ => exact .inl ((Option.some.inj found).symm.trans (draft_created permitted))
  | movesRow _ | movesRowLost _ => exact .inr ⟨_,List.mem_append_right _ (List.mem_singleton.mpr rfl),Option.some.inj found⟩
  | _ => exact trail state found

theorem deed_exited (deed : Deed me sight seen query knows later) (moved : knows.moved = true) :
    sight.moved = true ∨ ∃ source target, query = .updatePositionState me target ∧ seen.row = some source ∧
      later = seen.moveRow source target := by
  cases deed with
  | movesRow found => exact .inr ⟨_,_,rfl,found,rfl⟩
  | _ => exact .inl moved

-- What may activate the position after a call could before, or has just been loaded.
theorem deed_offers (deed : Deed me sight seen query knows later) (permitted : permits caps me operation query sight)
    (quiet : sight.stranded = false) (loaded : knows.loaded = true) (unwritten : knows.wrote = false)
    (known : knows.row ≠ none) :
    seen.holds = true ∨ sight.loaded = true ∧ sight.wrote = false ∧ sight.row ≠ none := by
  cases deed with
  | loads => exact .inl loaded
  | readsRow _ =>
    have started : sight = .start := by
      cases operation with
      | createDraftPositionIntent _ _ | tick _ => exact False.elim permitted
      | _ => exact permitted.2
    rw [started] at loaded
    exact nomatch loaded
  | movesRow _ => exact .inr ⟨loaded,unwritten,(row_target permitted quiet).2⟩
  | movesSession _ => exact nomatch unwritten
  | lists _ => exact nomatch loaded
  | movesRowLost _ | movesRowNot | movesSessionLost _ | movesSessionNot => exact absurd rfl known
  | _ => exact .inr ⟨loaded,unwritten,known⟩

theorem offered_back (fresh : Fresh scene) (here : scene.players = before ++ player :: after)
    (permitted : permits caps me player.operation query player.sight)
    (deed : Deed me player.sight scene.seen query knows later)
    (renewed : stale = false → player.stale = false ∨ Renewed knows later) (signatures : later.signatures = scene.seen.signatures)
    (stored : later.stored = true → scene.seen.stored = true)
    (offered : (Scene.acted me query before player after knows stale later).Offered) : scene.Offered := by
  have inside : player ∈ scene.players := by simp [here]
  rcases offered with stored' | some_ | ⟨other,there,offers⟩
  · exact .inl (stored stored')
  · exact .inr (.inl (signatures ▸ some_))
  · by_contra shut
    have none_ : ∀ other ∈ scene.players, ¬other.Offers := fun other there offers => shut (offers_offered there offers)
    have gone : ∀ other ∈ (Scene.acted me query before player after knows stale later).players, ¬other.Offers := by
      refine acted_all none_ here ?_ ?_
      · intro other _ unable offers
        exact unable ⟨(overtaken_fresh offers.fresh).1,offers.loaded,offers.unwritten,offers.known⟩
      · intro unable offers
        rcases renewed offers.fresh with behind | anew
        · rcases deed_offers deed permitted (fresh.listed player inside) offers.loaded offers.unwritten offers.known with
            held | ⟨loaded,unwritten,known⟩
          · exact shut (.inl (stored_holds held))
          · exact unable ⟨behind,loaded,unwritten,known⟩
        · exact nomatch anew.loaded.symm.trans offers.loaded
    exact gone other there offers

-- Once the session has been activated there is nothing left to activate.
theorem activated_shut (supply : Supply scene) (here : scene.players = before ++ player :: after) (took : player.sight.took)
    (writes : query.writes = some me) (signatures : later.signatures = scene.seen.signatures)
    (stored : later.stored = true → scene.seen.stored = true) (spent : knows.wrote = true ∨ knows.row = none) :
    ¬(Scene.acted me query before player after knows stale later).Offered := by
  have inside : player ∈ scene.players := by simp [here]
  rintro (stored' | some_ | ⟨other,there,offers⟩)
  · exact nomatch (supply.taken player inside took).symm.trans (stored stored')
  · exact some_ (signatures.trans (supply.loaded player inside took.1).1)
  · have any : ∀ other ∈ scene.players, True := fun _ _ => trivial
    have gone : ∀ other ∈ (Scene.acted me query before player after knows stale later).players, ¬other.Offers := by
      refine acted_all any here ?_ ?_
      · exact fun other _ _ offers => (overtaken_fresh offers.fresh).2 writes
      · intro _ offers
        rcases spent with wrote | unknown
        · exact nomatch wrote.symm.trans offers.unwritten
        · exact offers.known unknown
    exact gone other there offers

theorem executing_grows (here : scene.players = before ++ player :: after)
    (permitted : permits caps me player.operation query player.sight)
    (deed : Deed me player.sight scene.seen query knows later) :
    scene.executing ≤ (Scene.acted me query before player after knows stale later).executing := by
  have counted : Scene.executing _ + _ = scene.executing + _ :=
    @acted_count me query scene before after player knows stale later Player.executing (fun _ => rfl) here
  cases executing : player.executing with
  | false =>
    simp only [executing,Bool.false_eq_true,if_false] at counted
    omega
  | true =>
    have ⟨holder,wrote⟩ := Bool.and_eq_true_iff.mp executing
    have still : Player.executing ⟨player.operation,knows,stale⟩ = true := by
      simp only [Player.executing,holder,deed_wrote deed holder permitted wrote,Bool.and_self]
    simp only [executing,still,if_true] at counted
    omega

theorem registered_grows (here : scene.players = before ++ player :: after)
    (permitted : permits caps me player.operation query player.sight)
    (deed : Deed me player.sight scene.seen query knows later) :
    scene.registered ≤ (Scene.acted me query before player after knows stale later).registered := by
  have counted := @registered_acts me scene before after player query knows later stale here
  rcases deed_supply deed permitted with ⟨same,-,-⟩ | ⟨signature,-,-,-,unregistered,-,-⟩
  · rw [same] at counted
    exact Nat.le_of_eq (Nat.add_right_cancel counted).symm
  · have before : player.registered = false := by simp only [Player.registered,unregistered,Bool.and_false]
    simp only [before,Bool.false_eq_true,if_false] at counted
    omega

theorem two_executing (fresh : Fresh scene) (here : scene.players = before ++ player :: after) {other : Player}
    (apart : other ∈ before ∨ other ∈ after) (executes : other.executing = true) : player.executing = false := by
  cases executing : player.executing with
  | false => rfl
  | true =>
    have two := Roster.two_counted executing executes apart
    have single := fresh.single
    unfold Scene.executing at single
    rw [← here] at two
    omega

theorem acts_moved (fresh : Fresh scene) (supply : Supply scene) (course : Course scene) (inside : player ∈ scene.players)
    (permitted : permits caps me player.operation query player.sight)
    (deed : Deed me player.sight scene.seen query knows later) (current : query.writes = some me → player.stale = false) :
    RowMoved scene player knows later := by
  rcases deed_moved deed with same | ⟨source,target,rfl,found,rfl,unfailed⟩
  · exact .still same
  · exact .moved (row_move fresh supply course inside permitted (current rfl) found) unfailed

theorem moved_ending (moved : RowMoved scene player knows later) (ending : scene.seen.Ending) : later.Ending := by
  obtain ⟨move,there,ending⟩ := ending
  cases moved with
  | still same => exact ⟨move,same ▸ there,ending⟩
  | moved way unfailed => exact ⟨move,List.mem_append_left _ there,ending⟩

theorem moved_quiet (supply : Supply scene) (course : Course scene) (inside : player ∈ scene.players)
    (moved : RowMoved scene player knows later) (idle : scene.executing = 0) : later.moves = [] := by
  have fewer := registered_executing supply
  cases moved with
  | still same => exact same.trans (course.quiet idle)
  | moved way unfailed =>
    cases way with
    | execute _ own _ _ _ =>
      have one : 1 ≤ scene.executing := List.countP_pos_iff.mpr ⟨player,inside,own⟩
      omega
    | exit settled _ _ _ _ _ => omega
    | activate settled _ _ _ => omega

theorem moved_early (course : Course scene) (moved : RowMoved scene player knows later) (none_ : scene.registered = 0) :
    ∀ move ∈ later.moves, move.2 = .indexing ∨ move.2 = .failed := by
  intro move there
  cases moved with
  | still same => exact course.early none_ move (same ▸ there)
  | moved way unfailed =>
    rcases List.mem_append.mp there with old | new
    · exact course.early none_ move old
    · cases List.mem_singleton.mp new
      cases way with
      | execute _ _ _ _ target_ => exact target_
      | exit settled _ _ _ _ _ => omega
      | activate settled _ _ _ => omega

-- Another call that executes keeps the position to itself.
theorem moved_apart (fresh : Fresh scene) (supply : Supply scene) (course : Course scene)
    (here : scene.players = before ++ player :: after) (permitted : permits caps me player.operation query player.sight)
    (current : query.writes = some me → player.stale = false) (moved : RowMoved scene player knows later)
    (none_ : scene.registered = 0) {other : Player} (apart : other ∈ before ∨ other ∈ after)
    (executes : other.executing = true)
    (prior : other.stale = false ∧ ∀ move ∈ scene.seen.moves, move.2 = .indexing) :
    (other.overtaken me query).stale = false ∧ ∀ move ∈ later.moves, move.2 = .indexing := by
  have inside : player ∈ scene.players := by simp [here]
  have idle := two_executing fresh here apart executes
  have one : 1 ≤ scene.executing := List.countP_pos_iff.mpr ⟨other,by
    rw [here]
    rcases apart with early | late
    · exact List.mem_append_left _ early
    · exact List.mem_append_right _ (List.mem_cons_of_mem _ late),executes⟩
  obtain ⟨behind,all⟩ := prior
  constructor
  · unfold Player.overtaken
    rw [Bool.or_eq_false_iff]
    refine ⟨behind,decide_eq_false fun writes => ?_⟩
    rcases early_writer fresh supply course inside permitted (current writes) writes none_ with own | nobody
    · cases idle.symm.trans own
    · omega
  · cases moved with
    | still same => exact same.symm ▸ all
    | moved way unfailed =>
      cases way with
      | execute _ own _ _ _ => cases idle.symm.trans own
      | exit settled _ _ _ _ _ => omega
      | activate settled _ _ _ => omega

-- The call that executes goes on doing so, or has just begun.
theorem moved_alone (fresh : Fresh scene) (course : Course scene) (inside : player ∈ scene.players)
    (permitted : permits caps me player.operation query player.sight)
    (deed : Deed me player.sight scene.seen query knows later) (current : query.writes = some me → player.stale = false)
    (kept : player.stale = false → stale = false) (moved : RowMoved scene player knows later)
    (none_ : scene.registered = 0) (executes : Player.executing ⟨player.operation,knows,stale⟩ = true)
    (going : knows.gaveUp = false)
    (prior : player.executing = true → player.sight.gaveUp = false →
      player.stale = false ∧ ∀ move ∈ scene.seen.moves, move.2 = .indexing) :
    stale = false ∧ ∀ move ∈ later.moves, move.2 = .indexing := by
  obtain ⟨holder,wrote⟩ := Bool.and_eq_true_iff.mp executes
  cases writing : player.sight.wrote with
  | true =>
    have own : player.executing = true := by simp only [Player.executing,writing,Bool.and_true]; exact holder
    obtain ⟨behind,all⟩ := prior own (deed_gaveUp deed going)
    refine ⟨kept behind,?_⟩
    cases moved with
    | still same => exact same.symm ▸ all
    | moved way unfailed =>
      intro move there
      rcases List.mem_append.mp there with old | new
      · exact all move old
      · cases List.mem_singleton.mp new
        cases way with
        | execute _ _ _ _ target_ => exact target_.resolve_right (unfailed going)
        | exit settled _ _ _ _ _ => omega
        | activate settled _ _ _ => omega
  | false =>
    rcases look_wrote deed wrote with early | ⟨source,target,stage,rfl,found,rfl⟩
    · cases writing.symm.trans early
    · refine ⟨kept (current rfl),?_⟩
      obtain ⟨_,gate⟩ := execute_enters holder permitted
      have awaiting := fresh.session player inside (current rfl) _ (gate writing)
      have one : scene.seen.unsigned = 1 := by simp [View.unsigned,awaiting]
      have single := fresh.single
      have nothing := course.quiet (by omega)
      intro move there
      exact absurd (nothing ▸ there : move ∈ []) List.not_mem_nil

theorem moved_exits (fresh : Fresh scene) (supply : Supply scene) (course : Course scene) (inside : player ∈ scene.players)
    (permitted : permits caps me player.operation query player.sight)
    (deed : Deed me player.sight scene.seen query knows later) (current : query.writes = some me → player.stale = false)
    (went : RowMoved scene player knows later) (exiting : isExit player.operation = true) (moved : knows.moved = true) :
    1 ≤ scene.registered ∧ later.Ending := by
  rcases deed_exited deed moved with already | ⟨source,target,rfl,found,rfl⟩
  · obtain ⟨settled,ending⟩ := course.exits player inside exiting already
    exact ⟨settled,moved_ending went ending⟩
  · cases row_move fresh supply course inside permitted (current rfl) found with
    | execute _ own _ _ _ =>
      have holder := (Bool.and_eq_true_iff.mp own).1
      generalize player.operation = operation at holder exiting
      cases operation with
      | executeSignedIntent _ => cases exiting
      | _ => cases holder
    | exit settled _ _ _ _ ending =>
      refine ⟨settled,?_⟩
      rcases ending with now | before
      · exact ⟨_,List.mem_append_right _ (List.mem_singleton.mpr rfl),now⟩
      · exact moved_ending went before
    | activate _ own _ _ => cases own.2.symm.trans exiting

-- An answer that registers nothing: what may activate the position now could before.
theorem offer_kept (fresh : Fresh scene) (supply : Supply scene) (course : Course scene)
    (here : scene.players = before ++ player :: after) (permitted : permits caps me player.operation query player.sight)
    (deed : Deed me player.sight scene.seen query knows later) (current : query.writes = some me → player.stale = false)
    (renewed : stale = false → player.stale = false ∨ Renewed knows later) (signatures : later.signatures = scene.seen.signatures)
    (stored : later.stored = true → scene.seen.stored = true)
    (offered : (Scene.acted me query before player after knows stale later).Offered) :
    later.session = some .indexing ∧ ¬later.Ending := by
  have inside : player ∈ scene.players := by simp [here]
  have prior := offered_back fresh here permitted deed renewed signatures stored offered
  obtain ⟨indexing,open_⟩ := course.offer prior
  rcases deed_moved deed with same | ⟨source,target,rfl,found,rfl,-⟩
  · have still : ¬later.Ending := by
      rintro ⟨move,there,ending⟩
      exact open_ ⟨move,same ▸ there,ending⟩
    refine ⟨?_,still⟩
    rcases deed_turned deed with keeps | absent | ⟨source,target,stage,rfl,found,rfl,spent⟩
    · exact keeps.trans indexing
    · cases absent.symm.trans indexing
    · cases (session_move fresh supply course inside permitted (current rfl) found).1 with
      | execute early _ _ => exact absurd prior (unregistered_shut supply early)
      | exit own moved => exact absurd (course.exits player inside own moved).2 open_
      | activate _ _ took => exact absurd offered (activated_shut supply here took rfl signatures stored spent)
  · cases row_move fresh supply course inside permitted (current rfl) found with
    | execute early _ _ _ _ => exact absurd prior (unregistered_shut supply early)
    | exit _ _ shut _ _ _ => exact absurd prior shut
    | activate _ _ _ _ =>
      refine ⟨indexing,?_⟩
      rintro ⟨move,there,ending⟩
      rcases List.mem_append.mp there with old | new
      · exact open_ ⟨move,old,ending⟩
      · cases List.mem_singleton.mp new
        exact absurd ending (by decide : ExecutionState.active ∉ ENDING_STATES)

-- The registration: until now the execution has been alone.
theorem offer_registered (fresh : Fresh scene) (supply : Supply scene) (course : Course scene)
    (inside : player ∈ scene.players)
    (permitted : permits caps me player.operation (.saveUnawaited ⟨me,some signature⟩) player.sight)
    (holder : isExecute player.operation = true) (wrote : player.sight.wrote = true)
    (unregistered : player.sight.registered = false) : scene.seen.session = some .indexing ∧ ¬scene.seen.Ending := by
  have own : player.executing = true := by simp only [Player.executing,holder,wrote,Bool.and_self]
  have none_ := none_registered fresh supply inside own unregistered
  obtain ⟨known,going⟩ : player.sight.session = some .indexing ∧ player.sight.gaveUp = false := by
    generalize player.operation = operation at permitted holder
    cases operation with
    | executeSignedIntent _ =>
      obtain ⟨-,-,-,going,⟨nothing,-⟩ | ⟨-,known,-⟩⟩ := permitted
      · cases nothing
      · exact ⟨known,going⟩
    | _ => cases holder
  obtain ⟨behind,all⟩ := course.alone none_ player inside own going
  refine ⟨fresh.session player inside behind _ known,?_⟩
  rintro ⟨move,there,ending⟩
  rw [all move there] at ending
  exact absurd ending (by decide)

theorem acts_legal (fresh : Fresh scene) (supply : Supply scene) (course : Course scene) (inside : player ∈ scene.players)
    (permitted : permits caps me player.operation query player.sight)
    (deed : Deed me player.sight scene.seen query knows later) (current : query.writes = some me → player.stale = false) :
    ∀ turn ∈ later.turns, canTransition turn.1 turn.2 = true := by
  intro turn there
  rcases deed_turns deed with same | ⟨source,target,stage,rfl,found,turned⟩
  · exact course.legal turn (same ▸ there)
  · rw [turned] at there
    rcases List.mem_append.mp there with old | new
    · exact course.legal turn old
    · rw [List.mem_singleton.mp new]
      exact (session_move fresh supply course inside permitted (current rfl) found).2

theorem moved_absorbing (course : Course scene) (moved : RowMoved scene player knows later) :
    ∀ move ∈ later.moves, move.1 ∉ TERMINAL_POSITION_STATES := by
  intro move there
  cases moved with
  | still same => exact course.absorbing move (same ▸ there)
  | moved way unfailed =>
    rcases List.mem_append.mp there with old | new
    · exact course.absorbing move old
    · rw [List.mem_singleton.mp new]
      cases way with
      | execute _ _ _ source_ _ =>
        rcases source_ with rfl | rfl
        · exact (by decide : ExecutionState.draft ∉ TERMINAL_POSITION_STATES)
        · exact (by decide : ExecutionState.indexing ∉ TERMINAL_POSITION_STATES)
      | exit _ _ _ source_ _ _ => exact source_
      | activate _ _ _ source_ => exact source_

theorem moved_onward (course : Course scene) (inside : player ∈ scene.players) (moved : RowMoved scene player knows later) :
    later.moves.Pairwise fun earlier later => earlier.2 ∈ ENDING_STATES → later.2 ≠ .active := by
  cases moved with
  | still same => exact same.symm ▸ course.onward
  | moved way unfailed =>
    apply List.pairwise_append.mpr
    refine ⟨course.onward,List.pairwise_singleton _ _,?_⟩
    intro move there last new ending active
    cases List.mem_singleton.mp new
    cases way with
    | execute _ _ _ _ target_ => rcases target_ with rfl | rfl <;> cases active
    | exit _ _ _ _ target_ _ => exact target_ active
    | activate _ _ offers _ => exact (course.offer (offers_offered inside offers)).2 ⟨move,there,ending⟩

theorem course_acts (fresh : Fresh scene) (supply : Supply scene) (course : Course scene)
    (here : scene.players = before ++ player :: after) (permitted : permits caps me player.operation query player.sight)
    (deed : Deed me player.sight scene.seen query knows later) (current : query.writes = some me → player.stale = false)
    (kept : player.stale = false → stale = false) (renewed : stale = false → player.stale = false ∨ Renewed knows later) :
    Course (.acted me query before player after knows stale later) := by
  have inside : player ∈ scene.players := by simp [here]
  have executing := @executing_grows caps me scene before after player query knows later stale here permitted deed
  have registered := @registered_grows caps me scene before after player query knows later stale here permitted deed
  have moved := acts_moved fresh supply course inside permitted deed current
  refine ⟨deed_trail deed permitted course.trail,?_,?_,?_,?_,?_,acts_legal fresh supply course inside permitted deed current,
    moved_absorbing course moved,moved_onward course inside moved⟩
  · intro idle
    exact moved_quiet supply course inside moved (by omega)
  · intro none_
    exact moved_early course moved (by omega)
  · intro none_
    have none_ : scene.registered = 0 := by omega
    refine acted_all (course.alone none_) here ?_ ?_
    · intro other apart prior executes going
      exact moved_apart fresh supply course here permitted current moved none_ apart executes (prior executes going)
    · intro prior executes going
      exact moved_alone fresh course inside permitted deed current kept moved none_ executes going prior
  · refine acted_all course.exits here ?_ ?_
    · intro other _ prior exiting went
      obtain ⟨settled,ending⟩ := prior exiting went
      exact ⟨by omega,moved_ending moved ending⟩
    · intro _ exiting went
      obtain ⟨settled,ending⟩ := moved_exits fresh supply course inside permitted deed current moved exiting went
      exact ⟨by omega,ending⟩
  · intro offered
    rcases deed_supply deed permitted with ⟨-,signatures,stored⟩ | ⟨signature,rfl,holder,wrote,unregistered,rfl,rfl⟩
    · exact offer_kept fresh supply course here permitted deed current renewed signatures stored offered
    · obtain ⟨indexing,open_⟩ := offer_registered fresh supply course inside permitted holder wrote unregistered
      exact ⟨indexing,open_⟩

theorem course_turn (fresh : Fresh scene) (supply : Supply scene) (course : Course scene) (turn : Turn caps me scene next) :
    Course next := by
  cases turn with
  | rests => exact course
  | @enters operation concerned =>
    have executing : ({ scene with players := scene.players ++ [⟨operation,.start,false⟩] } : Scene).executing =
        scene.executing := by
      simp [Scene.executing,Player.executing,Sight.start]
    have registered : ({ scene with players := scene.players ++ [⟨operation,.start,false⟩] } : Scene).registered =
        scene.registered := by
      simp [Scene.registered,Player.registered,Sight.start]
    refine ⟨course.trail,?_,?_,?_,?_,?_,course.legal,course.absorbing,course.onward⟩
    · rw [executing]
      exact course.quiet
    · rw [registered]
      exact course.early
    · rw [registered]
      intro none_
      refine entered_all (course.alone none_) fun executes => ?_
      cases (Bool.and_eq_true_iff.mp executes).2
    · rw [registered]
      exact entered_all course.exits fun _ moved => by cases moved
    · rintro (stored | some_ | ⟨other,there,offers⟩)
      · exact course.offer (.inl stored)
      · exact course.offer (.inr (.inl some_))
      · rcases List.mem_append.mp there with old | new
        · exact course.offer (offers_offered old offers)
        · rw [List.mem_singleton.mp new] at offers
          cases offers.loaded
  | @lands before signature after here =>
    refine ⟨course.trail,course.quiet,course.early,course.alone,course.exits,?_,course.legal,course.absorbing,course.onward⟩
    have parts : scene.seen.signatures =
        before.countP Option.isSome + (after.countP Option.isSome + if signature.isSome = true then 1 else 0) := by
      simp only [View.signatures,here,List.countP_append,List.countP_cons]
    rintro (stored | some_ | ⟨other,there,offers⟩)
    · have present : signature.isSome = true := stored
      rw [present,if_pos rfl] at parts
      exact course.offer (.inr (.inl (by omega)))
    · change List.countP _ (before ++ after) ≠ 0 at some_
      rw [List.countP_append] at some_
      exact course.offer (.inr (.inl (by omega)))
    · exact course.offer (offers_offered there offers)
  | acts here permitted deed current kept renewed =>
    exact course_acts fresh supply course here permitted deed current kept renewed

end Course

theorem fresh_start : Fresh ⟨⟨none,none,none,[],[],[]⟩,[]⟩ where
  row _ inside := nomatch inside
  session _ inside := nomatch inside
  unstranded stuck := nomatch stuck
  listed _ inside := nomatch inside
  single := Nat.le_refl 1

theorem supply_start : Supply ⟨⟨none,none,none,[],[],[]⟩,[]⟩ where
  wrote _ inside := nomatch inside
  tokens := Nat.le_refl 0
  loaded _ inside := nomatch inside
  taken _ inside := nomatch inside

theorem course_start : Course ⟨⟨none,none,none,[],[],[]⟩,[]⟩ where
  trail _ found := nomatch found
  quiet _ := rfl
  early _ _ inside := nomatch inside
  alone _ _ inside := nomatch inside
  exits _ inside := nomatch inside
  offer offered := by
    rcases offered with stored | some_ | ⟨_,inside,_⟩
    · exact nomatch stored
    · exact absurd rfl some_
    · exact nomatch inside
  legal _ inside := nomatch inside
  absorbing _ inside := nomatch inside
  onward := .nil

theorem reached_course (reached : Reached caps Abreast world) (me : Text) :
    Fresh (scene me world) ∧ Supply (scene me world) ∧ Course (scene me world) := by
  induction reached with
  | first => exact ⟨fresh_start,supply_start,course_start⟩
  | step prior met step ih =>
    have turn := step_turn (reached_sound prior) met step me
    exact ⟨fresh_turn ih.1 turn,supply_turn ih.1 ih.2.1 turn,course_turn ih.1 ih.2.1 ih.2.2 turn⟩

-- The states that a position went through, in order.
def Lifeline (world : World) : Prop :=
  (∀ change ∈ world.stores.sessionChanges, canTransition change.source change.target = true) ∧
  (∀ change ∈ world.stores.positionChanges, change.source ∉ TERMINAL_POSITION_STATES) ∧
  ∀ me, (changesOf me world.stores.positionChanges).Pairwise fun earlier later =>
    earlier.2 ∈ ENDING_STATES → later.2 ≠ .active

-- Every write of a session is one that the state machine knows, a position that is
-- completed or failed stays so, and none becomes active again.
theorem lifeline_kept (reached : Reached caps Abreast world) : Lifeline world := by
  refine ⟨?_,?_,?_⟩
  · intro change inside
    exact (reached_course reached change.positionId).2.2.legal _ (mem_changesOf inside)
  · intro change inside
    exact (reached_course reached change.positionId).2.2.absorbing _ (mem_changesOf inside)
  · intro me
    exact (reached_course reached me).2.2.onward

-- A request for an intent is held up until the position has been closed.
def heldUp : List Action :=
  sampleCreate ++ [.enter sampleExecute,.enter sampleExecute,.answer 1,.answer 1] ++ List.replicate 13 (.answer 2) ++
    [.land 0,.land 0,.enter (.getPosition ['p'])] ++ List.replicate 9 (.answer 3) ++
    [.enter (.withdrawClosePosition ['p'])] ++ List.replicate 17 (.answer 4) ++ [.answer 1]

theorem held_up : ¬∀ caps world, Reached caps anyStep world → Lifeline world := by
  intro claim
  have start : Reached sampleCaps anyStep (World.first 0 0) := .first
  have legal := (claim sampleCaps _ (play_reached start heldUp)).1
  exact absurd legal (by decide +kernel)

theorem lifeline_kept_sample : ∃ world, world.stores.sessionChanges.length = 8 ∧ Lifeline world := by
  refine ⟨World.play sampleCaps Abreast (World.first 0 0) undisturbed,?_,lifeline_kept (play_reached .first undisturbed)⟩
  decide +kernel

end Octora.Positions
