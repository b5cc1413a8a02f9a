import Octora.Positions.Runs

namespace Octora.Positions
open Calls

-- One position as the database has it: the states of its two rows, its
-- reconciliation record, the saves still to land, and what its rows went through.
structure View where
  row : Option ExecutionState
  session : Option ExecutionState
  record : Option (Option Text)
  saves : List (Option Text)
  moves : List (ExecutionState × ExecutionState)
  turns : List (ExecutionState × ExecutionState)

def changesOf (me : Text) (changes : List Change) : List (ExecutionState × ExecutionState) :=
  (changes.filter fun change => decide (change.positionId = me)).map fun change => (change.source,change.target)

def savesOf (me : Text) (saves : List PositionReconciliationRecord) : List (Option Text) :=
  (saves.filter fun entry => decide (entry.positionId = me)).map PositionReconciliationRecord.signature

def view (me : Text) (stores : Stores) : View :=
  { row := (stores.database.position me).map PositionRow.state
    session := (stores.database.session me).map ExecutionSessionRow.state
    record := stores.database.reconciliation me
    saves := savesOf me stores.unawaited
    moves := changesOf me stores.positionChanges
    turns := changesOf me stores.sessionChanges }

def View.moveRow (view : View) (source target : ExecutionState) : View :=
  { view with row := some target, moves := view.moves ++ [(source,target)] }

def View.moveSession (view : View) (source target : ExecutionState) : View :=
  { view with session := some target, turns := view.turns ++ [(source,target)] }

def View.holds (view : View) : Bool := (signatureOf (view.record.map fun signature => ⟨[],signature⟩)).isSome

-- The calls whose making a call remembers whatever they are answered.
def Query.atVenue : Query → Bool
  | .prepareFunding _ | .addLiquidity _ | .claim _ | .withdrawClose _ => true
  | _ => false

-- What an answered call does to a position, and to what the call knows of it.
inductive Deed (me : Text) (sight : Sight) (view : View) : Query → Sight → View → Prop where
  | idle (away : query.atVenue = false) : Deed me sight view query sight view
  | creates (own : input.id = me) (absent : view.row = none) :
      Deed me sight view (.createPosition input) { sight with created := true } { view with row := some input.state }
  | createsLost (own : input.id = me) (absent : view.row = none) :
      Deed me sight view (.createPosition input) sight { view with row := some input.state }
  | opens (own : input.positionId = me) (absent : view.session = none) :
      Deed me sight view (.createExecutionSession input) { sight with opened := true }
        { view with session := some input.state }
  | opensNot (own : input.positionId = me) :
      Deed me sight view (.createExecutionSession input) { sight with opened := true } view
  | readsRow (found : view.row = some state) :
      Deed me sight view (.getPositionById me) { sight with row := some state } view
  | readsSession (found : view.session = some state) :
      Deed me sight view (.getLatestExecutionSession me) { sight with session := some state } view
  | movesRow (found : view.row = some source) :
      Deed me sight view (.updatePositionState me target)
        { sight with row := some target, moved := true, gaveUp := sight.gaveUp || decide (target = .failed) }
        (view.moveRow source target)
  | movesRowLost (found : view.row = some source) :
      Deed me sight view (.updatePositionState me target) sight.lost (view.moveRow source target)
  | movesRowNot : Deed me sight view (.updatePositionState me target) sight.lost view
  | movesSession (found : view.session = some source) :
      Deed me sight view (.updateExecutionSession me target stage) { sight with session := some target, wrote := true }
        (view.moveSession source target)
  | movesSessionLost (found : view.session = some source) :
      Deed me sight view (.updateExecutionSession me target stage) sight.lost (view.moveSession source target)
  | movesSessionNot : Deed me sight view (.updateExecutionSession me target stage) sight.lost view
  | counts : Deed me sight view (.countActiveByWallet wallet) { sight with counted := some count } view
  | sums : Deed me sight view .sumActiveAmountSol { sight with summed := some sum } view
  | lists (found : view.row = some state) :
      Deed me sight view (.findStuckPositions state cutoff limit)
        { sight with
          row := some state, session := none, wrote := false, loaded := false, cleared := false
          stranded := sight.stranded || decide (state = .executing_on_meteora) } view
  | loads : Deed me sight view (.load me) { sight with loaded := view.holds, cleared := false } view
  | clears : Deed me sight view (.clear me) { sight with cleared := true } { view with record := none }
  | clearsLost : Deed me sight view (.clear me) sight { view with record := none }
  | begins : Deed me sight view (.saveUnawaited ⟨me,none⟩) { sight with begun := true }
      { view with saves := view.saves ++ [none] }
  | registers : Deed me sight view (.saveUnawaited ⟨me,some signature⟩) { sight with registered := true }
      { view with saves := view.saves ++ [some signature] }
  | funds : Deed me sight view (.prepareFunding input) { sight with funded := true } view
  | adds : Deed me sight view (.addLiquidity input) { sight with added := true } view
  | claims : Deed me sight view (.claim input) { sight with exited := true } view
  | withdraws : Deed me sight view (.withdrawClose input) { sight with exited := true } view

section Stores
variable {stores : Stores} {me : Text}

theorem changesOf_snoc (changes : List Change) (change : Change) :
    changesOf me (changes ++ [change]) =
      changesOf me changes ++ if change.positionId = me then [(change.source,change.target)] else [] := by
  simp only [changesOf,List.filter_append,List.map_append]
  congr 1
  split
  · rename_i mine
    simp [mine]
  · rename_i other
    simp [other]

theorem mem_changesOf {changes : List Change} (inside : change ∈ changes) :
    (change.source,change.target) ∈ changesOf change.positionId changes :=
  List.mem_map.mpr ⟨change,List.mem_filter.mpr ⟨inside,decide_eq_true rfl⟩,rfl⟩

theorem savesOf_snoc (saves : List PositionReconciliationRecord) (entry : PositionReconciliationRecord) :
    savesOf me (saves ++ [entry]) = savesOf me saves ++ if entry.positionId = me then [entry.signature] else [] := by
  simp only [savesOf,List.filter_append,List.map_append]
  congr 1
  split
  · rename_i mine
    simp [mine]
  · rename_i other
    simp [other]

theorem view_movePosition (found : stores.database.position positionId = some row) :
    view me (stores.movePosition row target) =
      if positionId = me then (view me stores).moveRow row.state target else view me stores := by
  have own : row.id = positionId := position_id found
  subst own
  unfold view Stores.movePosition View.moveRow
  simp only [position_set,changesOf_snoc]
  by_cases mine : row.id = me
  · subst mine
    simp only [found,if_true,Option.map_some]
    rfl
  · simp only [if_neg mine,List.append_nil,Option.map_id']
    rfl

theorem view_moveSession (keyed : Keyed stores.database) (found : stores.database.session positionId = some row) :
    view me (stores.moveSession row target stage) =
      if positionId = me then (view me stores).moveSession row.state target else view me stores := by
  have own : row.positionId = positionId := (session_of found).2
  subst own
  unfold view Stores.moveSession View.moveSession
  simp only [session_set keyed found,changesOf_snoc]
  by_cases mine : row.positionId = me
  · subst mine
    simp only [found,if_true,Option.map_some]
    rfl
  · simp only [if_neg mine,List.append_nil,Option.map_id']
    rfl

theorem position_create {input : CreatePositionInput} (absent : input.id ∉ positionIds stores.database) :
    ({ stores.database with positions := stores.database.positions ++ [input.row now] } : Database).position me =
      if input.id = me then some (input.row now) else stores.database.position me := by
  unfold Database.position
  simp only [List.find?_append]
  by_cases mine : input.id = me
  · subst mine
    have missing : (stores.database.positions.find? fun row => decide (row.id = input.id)) = none := by
      apply List.find?_eq_none.mpr
      intro row inside same
      exact absent (List.mem_map.mpr ⟨row,inside,of_decide_eq_true same⟩)
    rw [missing,if_pos rfl]
    simp [CreatePositionInput.row]
  · rw [if_neg mine]
    simp [CreatePositionInput.row,mine]

theorem session_open {input : CreateSessionInput} (keyed : Keyed stores.database)
    (opened : Keyed { stores.database with sessions := stores.database.sessions ++ [input.row now] }) :
    ({ stores.database with sessions := stores.database.sessions ++ [input.row now] } : Database).session me =
      if input.positionId = me then some (input.row now) else stores.database.session me := by
  apply Option.ext
  intro row
  rw [session_iff opened]
  by_cases mine : input.positionId = me
  · rw [if_pos mine]
    constructor
    · rintro ⟨inside,own⟩
      have last : input.row now ∈ stores.database.sessions ++ [input.row now] := by simp
      have same : row.positionId = (input.row now).positionId := own.trans mine.symm
      rw [List.inj_on_of_nodup_map opened.each inside last same]
    · rintro equal
      cases equal
      exact ⟨by simp,mine⟩
  · rw [if_neg mine,session_iff keyed]
    constructor
    · rintro ⟨inside,own⟩
      rcases List.mem_append.mp inside with old | new
      · exact ⟨old,own⟩
      · rw [List.mem_singleton.mp new] at own
        exact absurd own mine
    · exact fun ⟨old,own⟩ => ⟨List.mem_append_left _ old,own⟩

theorem session_absent {input : CreateSessionInput}
    (opened : Keyed { stores.database with sessions := stores.database.sessions ++ [input.row now] }) :
    stores.database.session input.positionId = none := by
  cases found : stores.database.session input.positionId with
  | none => rfl
  | some row =>
    have ⟨inside,own⟩ := session_of found
    have each := opened.each
    simp only [owners,List.map_append,List.map_cons,List.map_nil] at each
    have apart := (List.nodup_append.mp each).2.2 row.positionId (List.mem_map.mpr ⟨row,inside,rfl⟩)
      (input.row now).positionId (List.mem_singleton.mpr rfl)
    exact absurd own apart

end Stores

section Deeds
variable {stores after : Stores} {me : Text} {sight : Sight} {query : Query} {answer : Except Thrown (Reply query)}

theorem holds_signature (entry : Option (Option Text)) (id : Text) :
    (signatureOf (entry.map fun signature => ⟨id,signature⟩)).isSome =
      (signatureOf (entry.map fun signature => ⟨[],signature⟩)).isSome := by
  cases entry <;> rfl

-- A page shows a position in the state that it was asked for.
theorem listed_row (keyed : Keyed stores.database)
    (answered : Answers (.findStuckPositions state cutoff limit) stores (.ok page) after)
    (here : me ∈ page.map PositionRow.id) : (view me stores).row = some state := by
  obtain ⟨_,equal,-,ordered,perm,-,rfl⟩ := answered
  cases equal
  obtain ⟨row,inside,own⟩ := List.mem_map.mp here
  have there := List.mem_filter.mp (perm.mem_iff.mp (List.mem_of_mem_take inside))
  cases found : stores.database.position me with
  | none =>
    have missing := List.find?_eq_none.mp found row there.1
    exact absurd (decide_eq_true own) missing
  | some other =>
    have same : other.id = row.id := (position_id found).trans own.symm
    have equal := List.inj_on_of_nodup_map keyed.positions (List.mem_of_find?_eq_some found) there.1 same
    simp only [view,found,Option.map_some,equal,(of_decide_eq_true there.2).1]

theorem deed_createPosition {answer : Except Thrown (Reply (.createPosition input))}
    (answered : Answers (.createPosition input) stores answer after) :
    Deed me sight (view me stores) (.createPosition input) (look me sight (.createPosition input) answer) (view me after) := by
  simp only [Answers] at answered
  split at answered
  · obtain ⟨rfl,rfl⟩ := answered
    exact .idle rfl
  · rename_i fresh
    obtain ⟨rfl,rfl⟩ := answered
    have absent : input.id ∉ positionIds stores.database := by
      intro there
      obtain ⟨row,inside,equal⟩ := List.mem_map.mp there
      exact fresh (List.any_eq_true.mpr ⟨row,inside,decide_eq_true (.inl equal)⟩)
    by_cases mine : input.id = me
    · have missing : (view me stores).row = none := by
        simp only [view,Option.map_eq_none_iff]
        apply List.find?_eq_none.mpr
        intro row inside same
        exact absent (List.mem_map.mpr ⟨row,inside,(of_decide_eq_true same).trans mine.symm⟩)
      have made : view me (stores.rows { stores.database with
          positions := stores.database.positions ++ [input.row stores.clock] }) =
          { view me stores with row := some input.state } := by
        unfold view Stores.rows
        simp only [position_create absent,if_pos mine]
        rfl
      rw [made]
      simp only [look,if_pos mine]
      exact .creates mine missing
    · have same : view me (stores.rows { stores.database with
          positions := stores.database.positions ++ [input.row stores.clock] }) = view me stores := by
        unfold view Stores.rows
        simp only [position_create absent,if_neg mine]
        rfl
      rw [same]
      simp only [look,if_neg mine]
      exact .idle rfl

theorem deed_openSession {answer : Except Thrown (Reply (.createExecutionSession input))}
    (keyed : Keyed stores.database) (kept : Keyed after.database)
    (answered : Answers (.createExecutionSession input) stores answer after) :
    Deed me sight (view me stores) (.createExecutionSession input) (look me sight (.createExecutionSession input) answer) (view me after) := by
  simp only [Answers] at answered
  split at answered
  · obtain ⟨rfl,rfl⟩ := answered
    by_cases mine : input.positionId = me
    · simp only [look,if_pos mine]
      exact .opensNot mine
    · simp only [look,if_neg mine]
      exact .idle rfl
  · obtain ⟨rfl,rfl⟩ := answered
    by_cases mine : input.positionId = me
    · have made : view me (stores.rows { stores.database with
          sessions := stores.database.sessions ++ [input.row stores.clock] }) =
          { view me stores with session := some input.state } := by
        unfold view Stores.rows
        simp only [session_open keyed kept,if_pos mine]
        rfl
      rw [made]
      simp only [look,if_pos mine]
      apply Deed.opens mine
      have missing := session_absent kept
      rw [mine] at missing
      simp only [view,missing,Option.map_none]
    · have same : view me (stores.rows { stores.database with
          sessions := stores.database.sessions ++ [input.row stores.clock] }) = view me stores := by
        unfold view Stores.rows
        simp only [session_open keyed kept,if_neg mine]
        rfl
      rw [same]
      simp only [look,if_neg mine]
      exact .idle rfl

theorem deed_movePosition {answer : Except Thrown (Reply (.updatePositionState positionId target))}
    (answered : Answers (.updatePositionState positionId target) stores answer after) :
    Deed me sight (view me stores) (.updatePositionState positionId target) (look me sight (.updatePositionState positionId target) answer) (view me after) := by
  simp only [Answers] at answered
  split at answered
  · obtain ⟨rfl,rfl⟩ := answered
    by_cases mine : positionId = me
    · subst mine
      simp only [look,if_true]
      exact .movesRowNot
    · simp only [look,if_neg mine]
      exact .idle rfl
  · rename_i row found
    obtain ⟨rfl,rfl⟩ := answered
    rw [view_movePosition found]
    by_cases mine : positionId = me
    · subst mine
      simp only [look,if_true]
      exact .movesRow (by simp only [view,found,Option.map_some])
    · simp only [look,if_neg mine]
      exact .idle rfl

theorem deed_moveSession {answer : Except Thrown (Reply (.updateExecutionSession positionId target stage))}
    (keyed : Keyed stores.database)
    (answered : Answers (.updateExecutionSession positionId target stage) stores answer after) :
    Deed me sight (view me stores) (.updateExecutionSession positionId target stage) (look me sight (.updateExecutionSession positionId target stage) answer) (view me after) := by
  simp only [Answers] at answered
  split at answered
  · obtain ⟨rfl,rfl⟩ := answered
    by_cases mine : positionId = me
    · subst mine
      simp only [look,if_true]
      exact .movesSessionNot
    · simp only [look,if_neg mine]
      exact .idle rfl
  · rename_i row found
    obtain ⟨rfl,rfl⟩ := answered
    rw [view_moveSession keyed found]
    by_cases mine : positionId = me
    · subst mine
      simp only [look,if_true]
      exact .movesSession (by simp only [view,found,Option.map_some])
    · simp only [look,if_neg mine]
      exact .idle rfl

theorem deed_readPosition {answer : Except Thrown (Reply (.getPositionById positionId))}
    (answered : Answers (.getPositionById positionId) stores answer after) :
    Deed me sight (view me stores) (.getPositionById positionId) (look me sight (.getPositionById positionId) answer) (view me after) := by
  obtain ⟨rfl,rfl⟩ := answered
  by_cases mine : positionId = me
  · subst mine
    simp only [look,if_true]
    cases found : after.database.position positionId with
    | none => exact .idle rfl
    | some row => exact .readsRow (by simp only [view,found,Option.map_some])
  · simp only [look,if_neg mine]
    exact .idle rfl

theorem deed_readSession {answer : Except Thrown (Reply (.getLatestExecutionSession positionId))}
    (answered : Answers (.getLatestExecutionSession positionId) stores answer after) :
    Deed me sight (view me stores) (.getLatestExecutionSession positionId) (look me sight (.getLatestExecutionSession positionId) answer) (view me after) := by
  obtain ⟨rfl,rfl⟩ := answered
  by_cases mine : positionId = me
  · subst mine
    simp only [look,if_true]
    cases found : after.database.session positionId with
    | none => exact .idle rfl
    | some row => exact .readsSession (by simp only [view,found,Option.map_some])
  · simp only [look,if_neg mine]
    exact .idle rfl

theorem deed_listed {answer : Except Thrown (Reply (.findStuckPositions state cutoff limit))}
    (keyed : Keyed stores.database)
    (answered : Answers (.findStuckPositions state cutoff limit) stores answer after) :
    Deed me sight (view me stores) (.findStuckPositions state cutoff limit) (look me sight (.findStuckPositions state cutoff limit) answer) (view me after) := by
  have whole := answered
  obtain ⟨page,rfl,rfl,-⟩ := answered
  simp only [look]
  split
  · rename_i here
    exact .lists (listed_row keyed whole here)
  · exact .idle rfl

theorem deed_load {answer : Except Thrown (Reply (.load positionId))}
    (answered : Answers (.load positionId) stores answer after) :
    Deed me sight (view me stores) (.load positionId) (look me sight (.load positionId) answer) (view me after) := by
  obtain ⟨rfl,rfl⟩ := answered
  by_cases mine : positionId = me
  · subst mine
    simp only [look,if_true,holds_signature]
    exact .loads
  · simp only [look,if_neg mine]
    exact .idle rfl

theorem deed_clear {answer : Except Thrown (Reply (.clear positionId))}
    (answered : Answers (.clear positionId) stores answer after) :
    Deed me sight (view me stores) (.clear positionId) (look me sight (.clear positionId) answer) (view me after) := by
  obtain ⟨rfl,rfl⟩ := answered
  by_cases mine : positionId = me
  · subst mine
    have same : view positionId (stores.rows (stores.database.reconcile positionId none)) =
        { view positionId stores with record := none } := by
      simp [view,Stores.rows,Database.reconcile,Database.position,Database.session]
    rw [same]
    simp only [look,if_true]
    exact .clears
  · have same : view me (stores.rows (stores.database.reconcile positionId none)) = view me stores := by
      simp [view,Stores.rows,Database.reconcile,Database.position,Database.session,Function.update_of_ne (Ne.symm mine)]
    rw [same]
    simp only [look,if_neg mine]
    exact .idle rfl

theorem deed_save {answer : Except Thrown (Reply (.saveUnawaited entry))}
    (answered : Answers (.saveUnawaited entry) stores answer after) :
    Deed me sight (view me stores) (.saveUnawaited entry) (look me sight (.saveUnawaited entry) answer) (view me after) := by
  obtain ⟨rfl,rfl⟩ := answered
  have shown : view me { stores with unawaited := stores.unawaited ++ [entry] } =
      { view me stores with
        saves := savesOf me stores.unawaited ++ if entry.positionId = me then [entry.signature] else [] } := by
    simp only [view,savesOf_snoc]
  rw [shown]
  obtain ⟨positionId,signature⟩ := entry
  by_cases mine : positionId = me
  · subst mine
    cases signature with
    | none =>
      simp only [look,if_true]
      exact .begins
    | some signature =>
      simp only [look,if_true]
      exact .registers
  · simp only [look,if_neg mine,List.append_nil]
    exact .idle rfl

theorem deed_answers (keyed : Keyed stores.database) (kept : Keyed after.database)
    (answered : Answers query stores answer after) :
    Deed me sight (view me stores) query (look me sight query answer) (view me after) := by
  cases query with
  | createPosition input => exact deed_createPosition answered
  | createExecutionSession input => exact deed_openSession keyed kept answered
  | updatePositionState positionId target => exact deed_movePosition answered
  | updateExecutionSession positionId target stage => exact deed_moveSession keyed answered
  | getPositionById positionId => exact deed_readPosition answered
  | getLatestExecutionSession positionId => exact deed_readSession answered
  | countActiveByWallet wallet =>
    obtain ⟨rfl,rfl⟩ := answered
    exact .counts
  | sumActiveAmountSol =>
    obtain ⟨rfl,rfl⟩ := answered
    exact .sums
  | countFirst =>
    obtain ⟨⟨first,rfl⟩,rfl⟩ := answered
    exact .idle rfl
  | findStuckPositions state cutoff limit => exact deed_listed keyed answered
  | findRecentlyFailed since limit =>
    obtain ⟨page,rfl,rfl,-⟩ := answered
    exact .idle rfl
  | load positionId => exact deed_load answered
  | clear positionId => exact deed_clear answered
  | saveUnawaited entry => exact deed_save answered
  | prepareFunding input =>
    cases answered
    exact .funds
  | addLiquidity input =>
    cases answered
    exact .adds
  | claim input =>
    cases answered
    exact .claims
  | withdrawClose input =>
    cases answered
    exact .withdraws
  | prepareExit _ | getSignatureStatus _ =>
    cases answered
    exact .idle rfl
  | createActivity input =>
    obtain ⟨rfl,rfl⟩ := answered
    exact .idle rfl
  | _ =>
    obtain ⟨rfl,rfl⟩ := answered
    exact .idle rfl

-- A call that fails with nothing done.
theorem deed_failed (away : query.inProcess = false) (seen : View) :
    Deed me sight seen query (look me sight query (.error error)) seen := by
  cases query with
  | createExecutionSession input =>
    by_cases mine : input.positionId = me
    · simp only [look,if_pos mine]
      exact .opensNot mine
    · simp only [look,if_neg mine]
      exact .idle rfl
  | updatePositionState positionId target =>
    by_cases mine : positionId = me
    · subst mine
      simp only [look,if_true]
      exact .movesRowNot
    · simp only [look,if_neg mine]
      exact .idle rfl
  | updateExecutionSession positionId target stage =>
    by_cases mine : positionId = me
    · subst mine
      simp only [look,if_true]
      exact .movesSessionNot
    · simp only [look,if_neg mine]
      exact .idle rfl
  | prepareFunding input => exact .funds
  | addLiquidity input => exact .adds
  | claim input => exact .claims
  | withdrawClose input => exact .withdraws
  | saveUnawaited entry => exact nomatch away
  | _ => exact .idle rfl

theorem deed_did (keyed : Keyed stores.database) (kept : Keyed after.database) (did : Did query stores answer after) :
    Deed me sight (view me stores) query (look me sight query answer) (view me after) := by
  rcases did with answered | ⟨away,⟨error,rfl⟩,rfl | ⟨lost,answered⟩⟩
  · exact deed_answers keyed kept answered
  · exact deed_failed away _
  · have deed : Deed me sight (view me stores) query (look me sight query lost) (view me after) :=
      deed_answers keyed kept answered
    -- The work is done, but the call does not hear of it.
    generalize view me after = seen at deed ⊢
    generalize found : look me sight query lost = knows at deed
    cases deed with
    | creates own absent => exact .createsLost own absent
    | createsLost own absent => exact .createsLost own absent
    | opens own absent =>
      simp only [look,if_pos own]
      exact .opens own absent
    | opensNot own =>
      simp only [look,if_pos own]
      exact .opensNot own
    | movesRow source => simp only [look,if_true]; exact .movesRowLost source
    | movesRowLost source => simp only [look,if_true]; exact .movesRowLost source
    | movesRowNot => simp only [look,if_true]; exact .movesRowNot
    | movesSession source => simp only [look,if_true]; exact .movesSessionLost source
    | movesSessionLost source => simp only [look,if_true]; exact .movesSessionLost source
    | movesSessionNot => simp only [look,if_true]; exact .movesSessionNot
    | clears => exact .clearsLost
    | clearsLost => exact .clearsLost
    | funds => exact .funds
    | adds => exact .adds
    | claims => exact .claims
    | withdraws => exact .withdraws
    | begins => exact nomatch away
    | registers => exact nomatch away
    | readsRow _ | readsSession _ | counts | sums | lists _ | loads => exact .idle rfl
    | idle => exact deed_failed away _

end Deeds

-- The position whose rows, record or saves a call changes.
def Query.about : Query → Option Text
  | .createPosition input => some input.id
  | .createExecutionSession input => some input.positionId
  | .updatePositionState positionId _ => some positionId
  | .updateExecutionSession positionId _ _ => some positionId
  | .clear positionId => some positionId
  | .saveUnawaited entry => some entry.positionId
  | _ => none

theorem deed_apart (deed : Deed me sight seen query knows after) (other : query.about ≠ some me) : after = seen := by
  cases deed with
  | creates own _ | createsLost own _ | opens own _ => exact absurd (congrArg some own) other
  | movesRow _ | movesRowLost _ | movesSession _ | movesSessionLost _ | clears | clearsLost | begins | registers =>
    exact absurd rfl other
  | _ => rfl

theorem about_own (service : operation.isTick = false) (permitted : permits caps me operation query sight)
    (about : query.about = some positionId) : positionId = me := by
  cases query with
  | createPosition _ | createExecutionSession _ | updatePositionState _ _ | updateExecutionSession _ _ _ | clear _
  | saveUnawaited _ =>
    cases about
    cases operation with
    | tick now => exact nomatch service
    | _ => first
      | exact False.elim permitted
      | exact permitted.1
  | _ => exact nomatch about

-- The position of an operation other than a tick.
def Operation.position : Operation → Text
  | .createDraftPositionIntent ids _ => ids.positionId
  | .executeSignedIntent input => input.positionId
  | .claimPosition positionId => positionId
  | .withdrawClosePosition positionId => positionId
  | .getPosition positionId => positionId
  | .tick _ => []

theorem concerns_position (operation : Operation) : operation.concerns operation.position := by
  cases operation <;> trivial

theorem about_apart (sound : Sound caps world) (inside : call ∈ world.calls)
    {next : Except Thrown (Reply query) → Async Outcome} (turn : call.rest = .call query next)
    (apart : ¬call.operation.concerns me) : query.about ≠ some me := by
  have service : call.operation.isTick = false := by
    cases operation : call.operation with
    | tick now =>
      rw [operation] at apart
      exact absurd trivial apart
    | _ => rfl
  have acts := sound.acts call inside call.operation.position (concerns_position _)
  intro about
  have own := about_own service (acts_permitted acts turn) about
  exact apart (own ▸ concerns_position call.operation)

-- A call that does not concern a position leaves it alone.
theorem apart_view (sound : Sound caps world) (inside : call ∈ world.calls)
    {next : Except Thrown (Reply query) → Async Outcome} (turn : call.rest = .call query next)
    (apart : ¬call.operation.concerns me) (deed : Deed me sight seen query knows after) : after = seen :=
  deed_apart deed (about_apart sound inside turn apart)

theorem deed_turns (deed : Deed me sight seen query knows after) :
    after.turns = seen.turns ∨ ∃ source target stage, query = .updateExecutionSession me target stage ∧
      seen.session = some source ∧ after.turns = seen.turns ++ [(source,target)] := by
  cases deed with
  | movesSession found | movesSessionLost found => exact .inr ⟨_,_,_,rfl,found,rfl⟩
  | _ => exact .inl rfl

theorem view_land (here : stores.unawaited = before ++ entry :: rest) :
    view me (stores.land entry (before ++ rest)) =
      if entry.positionId = me then
        { view me stores with record := some entry.signature, saves := savesOf me before ++ savesOf me rest }
      else view me stores := by
  have saves : savesOf me (before ++ entry :: rest) =
      savesOf me before ++ ((if entry.positionId = me then [entry.signature] else []) ++ savesOf me rest) := by
    rw [← List.singleton_append,← List.append_assoc]
    simp only [savesOf,List.filter_append,List.map_append,List.append_assoc]
    congr 2
    split
    · rename_i mine
      simp [mine]
    · rename_i other
      simp [other]
  have both : savesOf me (before ++ rest) = savesOf me before ++ savesOf me rest := by
    simp only [savesOf,List.filter_append,List.map_append]
  by_cases mine : entry.positionId = me
  · subst mine
    simp [view,Stores.land,Database.reconcile,Database.position,Database.session,both]
  · simp only [view,Stores.land,Database.reconcile,Database.position,Database.session,both,here,saves,if_neg mine,
      List.nil_append,Function.update_of_ne (Ne.symm mine)]

-- What one step of the world does to a position: nothing, a save that lands, or a
-- call that its operation's table permits.
theorem step_view (sound : Sound caps world) (step : Step caps world action after) (me : Text) :
    view me after.stores = view me world.stores ∨
    (∃ record saves, view me after.stores = { view me world.stores with record := record, saves := saves }) ∨
    ∃ call query knows, permits caps me (Call.operation call) query (sightOf me call.past) ∧
      Deed me (sightOf me call.past) (view me world.stores) query knows (view me after.stores) := by
  have did : ∀ {before rest : List Call} {call : Call} {query : Query} {answer : Except Thrown (Reply query)} {stores : Stores}
      {next : Except Thrown (Reply query) → Async Outcome}, world.calls = before ++ call :: rest →
      call.rest = .call query next → Did query world.stores answer stores →
      view me stores = view me world.stores ∨ ∃ call query knows, permits caps me (Call.operation call) query (sightOf me call.past) ∧
        Deed me (sightOf me call.past) (view me world.stores) query knows (view me stores) := by
    intro before rest call query answer stores next here turn did
    have inside : call ∈ world.calls := by simp [here]
    have deed : Deed me (sightOf me call.past) (view me world.stores) query _ (view me stores) :=
      deed_did sound.keyed (sound_did sound here turn did).keyed did
    by_cases concerns : call.operation.concerns me
    · exact .inr ⟨call,query,_,acts_permitted (sound.acts call inside me concerns) turn,deed⟩
    · exact .inl (apart_view sound inside turn concerns deed)
  cases step with
  | enter single => exact .inl rfl
  | answer here turn answered =>
    rcases did here turn (.inl answered) with same | other
    · exact .inl same
    · exact .inr (.inr other)
  | fail here turn fails =>
    rcases did here turn (.inr fails) with same | other
    · exact .inl same
    · exact .inr (.inr other)
  | land here =>
    rename_i before rest entry
    have landed : view me _ = _ := view_land here
    split at landed
    · exact .inr (.inl ⟨_,_,landed⟩)
    · exact .inl landed
  | clock later => exact .inl rfl
  | crash => exact .inl rfl

end Octora.Positions
