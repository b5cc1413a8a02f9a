import Octora.Positions.Absorbing

namespace Octora.Positions
open Calls Op

-- How far a tick is with its scan for failures; `alerting` holds the ids that are still
-- to be reported.
inductive Scan where
  | before
  | since (boundary : Int)
  | alerting (left : List Text)
  | over
deriving DecidableEq

@[simp] def scansOn (scan : Scan) : (query : Query) → Except Thrown (Reply query) → Scan
  | .lastFailureScan,.ok boundary => .since boundary
  | .findRecentlyFailed _ _,.ok page => .alerting (page.map PositionRow.id)
  | .findRecentlyFailed _ _,.error _ => .over
  | .captureException (some _),_ =>
      match scan with
      | .alerting left => .alerting left.tail
      | _ => scan
  | .scannedFailures _,_ => .over
  | _,_ => scan

@[simp] def mayScan (now : Int) : Query → Scan → Prop
  | .lastFailureScan,scan => scan = .before
  | .findRecentlyFailed boundary limit,scan => scan = .since boundary ∧ limit = SCAN_BATCH_LIMIT
  | .captureException (some positionId),scan => ∃ left, scan = .alerting (positionId :: left)
  | .captureException none,scan => scan = .before ∨ scan = .over
  | .scannedFailures boundary,scan => boundary = now ∧ scan = .alerting []
  | _,scan => scan = .before

def scanOf (past : List (Seen Reply Thrown)) : Scan :=
  past.foldl (fun scan seen => scansOn scan seen.query seen.answer) .before

def Query.scans : Query → Bool
  | .lastFailureScan | .findRecentlyFailed _ _ | .captureException _ | .scannedFailures _ => true
  | _ => false

-- The calls that stay in the process are answered properly.
def Scanned (query : Query) (scan : Scan) (answer : Except Thrown (Reply query)) (after : Scan) : Prop :=
  (query.inProcess = true → ∃ value, answer = .ok value) ∧ after = scansOn scan query answer

def Scans (now : Int) (p : Async α) (post : Except Thrown α → Scan → Prop) (scan : Scan) : Prop :=
  p.Follows Scanned (mayScan now) post scan

-- What no scan is about leaves it where it is.
def Apart (p : Async α) : Prop := ∀ now, Scans now p (fun _ scan => scan = .before) .before

section Rules
variable {now : Int} {α β : Type}

theorem apart_pure (value : α) : Apart (pure value) := fun _ => rfl

theorem apart_bind {p : Async β} {next : β → Async α} (first : Apart p) (rest : ∀ value, Apart (next value)) :
    Apart (p >>= next) := by
  intro now
  refine follows_bind.mpr (follows_mono ?_ (first now))
  rintro (error | value) scan rfl
  · rfl
  · exact rest value now

theorem plain_may {query : Query} (plain : query.scans = false) : mayScan now query scan ↔ scan = .before := by
  cases query <;> first | exact Iff.rfl | exact nomatch plain

theorem plain_stays {query : Query} (plain : query.scans = false) (answer : Except Thrown (Reply query)) :
    scansOn scan query answer = scan := by
  cases query <;> first | rfl | exact nomatch plain

theorem apart_ask {query : Query} (plain : query.scans = false) : Apart (ask query) := by
  intro now
  refine follows_send.mpr ⟨(plain_may plain).mpr rfl,?_⟩
  rintro answer after ⟨_,rfl⟩
  exact plain_stays plain answer

theorem apart_logged {round : Async RecoveryTickResult} (apart : Apart round) : Apart (logged result round) := by
  intro now
  refine follows_bind.mpr (follows_attempt.mpr (follows_mono ?_ (apart now)))
  rintro (error | value) scan rfl
  · rfl
  · rfl

end Rules

theorem reconcile_apart (positionId : Text) : Apart (reconcile positionId) := by
  apply apart_bind (apart_ask rfl)
  intro entry
  split
  · exact apart_pure _
  · exact apart_bind (apart_ask rfl) fun _ => apart_pure _

theorem advanceTo_apart (position : PositionRow) (target : ExecutionState) (headline : Text) :
    Apart (advanceTo position target headline) := by
  apply apart_bind (apart_ask rfl)
  intro updated
  apply apart_bind (apart_ask rfl)
  intro _
  exact apart_bind (apart_ask rfl) fun _ => apart_pure _

theorem failPosition_apart (position : PositionRow) (stage : FailureStage) : Apart (failPosition position stage) := by
  apply apart_bind (apart_ask rfl)
  intro updated
  apply apart_bind (apart_ask rfl)
  intro _
  exact apart_bind (apart_ask rfl) fun _ => apart_pure _

theorem checkVenueSignature_apart (position : PositionRow) (now : Int) : Apart (checkVenueSignature position now) := by
  apply apart_bind (apart_ask rfl)
  intro entry
  split
  · exact apart_pure _
  · apply apart_bind (apart_ask rfl)
    intro status
    split
    · exact apart_pure _
    · split
      · exact apart_pure _
      · split
        · exact apart_pure _
        · exact apart_pure _

theorem checkExecuting_apart (now : Int) (result : RecoveryTickResult) (position : PositionRow) :
    Apart (checkExecuting now result position) := by
  apply apart_logged
  apply apart_bind (checkVenueSignature_apart position now)
  intro decision
  cases decision with
  | confirmed => exact apart_bind (advanceTo_apart _ _ _) fun _ => apart_pure _
  | failed => exact apart_bind (failPosition_apart _ _) fun _ => apart_pure _
  | pending => exact apart_pure _

theorem checkIndexing_apart (result : RecoveryTickResult) (position : PositionRow) : Apart (checkIndexing result position) := by
  apply apart_logged
  apply apart_bind (reconcile_apart position.id)
  intro state
  split
  · exact apart_bind (advanceTo_apart _ _ _) fun _ => apart_pure _
  · exact apart_pure _

-- A tick that is over has reported all it had to.
def Reported (_ : Except Thrown α) (scan : Scan) : Prop := scan = .before ∨ scan = .over

theorem aborted_scans (apart : scan = .before ∨ scan = .over) : Scans now (aborted result) Reported scan := by
  refine ⟨apart,?_⟩
  rintro answer after ⟨proper,rfl⟩
  obtain ⟨value,rfl⟩ := proper rfl
  exact apart

theorem alerts_scan (failures : List PositionRow) (result : RecoveryTickResult) :
    Scans now (each alert failures result) (Ends (fun _ scan => scan = .alerting []) fun _ _ => False)
      (.alerting (failures.map PositionRow.id)) := by
  induction failures generalizing result with
  | nil => rfl
  | cons failure failures ih =>
    refine follows_bind.mpr ⟨⟨_,rfl⟩,?_⟩
    rintro answer after ⟨proper,rfl⟩
    obtain ⟨value,rfl⟩ := proper rfl
    exact ih _

theorem scanFailures_scans (now : Int) (result : RecoveryTickResult) : Scans now (scanFailures now result) Reported .before := by
  refine follows_bind.mpr ⟨rfl,?_⟩
  rintro answer after ⟨proper,rfl⟩
  obtain ⟨boundary,rfl⟩ := proper rfl
  refine follows_bind.mpr (follows_attempt.mpr (follows_send.mpr ⟨⟨rfl,rfl⟩,?_⟩))
  rintro (error | newFailures) after ⟨_,rfl⟩
  · exact aborted_scans (.inr rfl)
  · refine follows_bind.mpr (follows_mono ?_ (alerts_scan newFailures result))
    rintro (error | alerted) after ended
    · exact ended.elim
    · subst ended
      refine ⟨⟨rfl,rfl⟩,?_⟩
      rintro answer after ⟨proper,rfl⟩
      obtain ⟨value,rfl⟩ := proper rfl
      exact .inr rfl

theorem rounds_scan {body : RecoveryTickResult → PositionRow → Async RecoveryTickResult} (items : List PositionRow)
    (result : RecoveryTickResult) (round : ∀ result item, Apart (body result item)) : Apart (each body items result) := by
  induction items generalizing result with
  | nil => exact apart_pure result
  | cons item items ih => exact apart_bind (round result item) ih

theorem tick_scans (now : Int) : Scans now (tick now) Reported .before := by
  refine follows_bind.mpr (follows_attempt.mpr (follows_send.mpr ⟨rfl,?_⟩))
  rintro (error | stuckExecuting) after ⟨_,rfl⟩
  · exact aborted_scans (.inl rfl)
  refine follows_bind.mpr (follows_mono ?_ (rounds_scan stuckExecuting _ (checkExecuting_apart now) now))
  rintro (error | result) scan rfl
  · exact .inl rfl
  refine follows_bind.mpr (follows_attempt.mpr (follows_send.mpr ⟨rfl,?_⟩))
  rintro (error | stuckIndexing) after ⟨_,rfl⟩
  · exact aborted_scans (.inl rfl)
  refine follows_bind.mpr (follows_mono ?_ (rounds_scan stuckIndexing _ checkIndexing_apart now))
  rintro (error | result) scan rfl
  · exact .inl rfl
  · exact scanFailures_scans now result

-- One life of the worker: the process starts over whatever database earlier ones left,
-- with nothing under way.
inductive Lifetime (caps : BetaCapsConfig) (meets : World → Action → Prop) (start : World) : World → Prop where
  | boots (reached : Reached caps anyStep start) (idle : ∀ call ∈ start.calls, call.running = false) :
      Lifetime caps meets start start
  | step (prior : Lifetime caps meets start before) (met : meets before action) (step : Step caps before action after) :
      Lifetime caps meets start after

def recentlyFailed (database : Database) (since : Int) : List PositionRow :=
  database.positions.filter fun row => decide (row.state = .failed ∧ since ≤ row.updatedAt)

-- Of a tick's scan: all that has failed since the last one did so before this tick
-- began, and fits into one page. Of a row's update: the position has not failed before.
def Punctual (world : World) (call : Call) : Prop :=
  match call.operation,call.rest with
  | .tick now,.call (.findRecentlyFailed since limit) _ =>
      (recentlyFailed world.stores.database since).length ≤ limit ∧
        ∀ row ∈ recentlyFailed world.stores.database since, row.updatedAt < now
  | _,.call (.updatePositionState positionId _) _ =>
      ∀ row ∈ world.stores.database.positions, row.id = positionId → row.state ≠ .failed
  | _,_ => True

-- The ticks of one life, with times that increase and are not ahead of the clock.
def InOrder (world : World) : Action → Prop
  | .enter (.tick now) => world.stores.lastFailureScan ≤ now ∧ now ≤ world.stores.clock
  | .crash _ => False
  | _ => True

def Timely (world : World) (action : Action) : Prop :=
  InOrder world action ∧
    match action with
    | .answer index | .fail index => ∀ call ∈ world.calls[index]?, Punctual world call
    | _ => True

instance (world : World) (call : Call) : Decidable (Punctual world call) := by
  unfold Punctual
  split <;> infer_instance

instance (world : World) (action : Action) : Decidable (InOrder world action) := by
  unfold InOrder
  split <;> infer_instance

instance (world : World) : (action : Action) → Decidable (Timely world action)
  | .answer _ | .fail _ => by unfold Timely; infer_instance
  | .enter _ | .land _ | .clock _ | .crash _ => by unfold Timely; infer_instance

def reports (positionId : Text) (entry : Operation × Query) : Bool :=
  decide (entry.2 = .captureException (some positionId))

-- The alerts since the worker started.
def alerts (start world : World) (positionId : Text) : Nat := (world.log.drop start.log.length).countP (reports positionId)

structure AlertedOnce (start world : World) : Prop where
  most : ∀ positionId, alerts start world positionId ≤ 1
  once : ∀ row ∈ world.stores.database.positions, row.state = .failed → start.stores.lastFailureScan ≤ row.updatedAt →
    row.updatedAt < world.stores.lastFailureScan → alerts start world row.id = 1

-- The tick under way, if there is one.
def duty (call : Call) : Option (Int × Scan) :=
  match call.operation with
  | .tick now => if call.running then some (now,scanOf call.past) else none
  | _ => none

def duties (world : World) : List (Int × Scan) := world.calls.filterMap duty

-- What is still to be reported; the first of a page is reported as it is read.
def Scan.pending : Scan → List Text
  | .alerting left => left
  | _ => []

def outstanding (world : World) : List Text := (duties world).flatMap fun duty => duty.2.pending.tail

-- The time up to which failures have been read.
def reach (world : World) : Int :=
  match duties world with
  | (now,.alerting _) :: _ => now
  | _ => world.stores.lastFailureScan

def FailedIn (rows : List PositionRow) (one two : Int) (positionId : Text) : Prop :=
  ∃ row ∈ rows, row.id = positionId ∧ row.state = .failed ∧ one ≤ row.updatedAt ∧ row.updatedAt < two

structure Watch (start world : World) : Prop where
  grown : ∃ made_, world.log = start.log ++ made_
  scans : ∀ call ∈ world.calls, ∀ now, call.operation = .tick now → call.running = true →
    Scans now call.rest Reported (scanOf call.past)
  single : (duties world).length ≤ 1
  later : start.stores.lastFailureScan ≤ world.stores.lastFailureScan
  clocked : world.stores.lastFailureScan = start.stores.lastFailureScan ∨ world.stores.lastFailureScan ≤ world.stores.clock
  timed : ∀ duty ∈ duties world, world.stores.lastFailureScan ≤ duty.1 ∧ duty.1 ≤ world.stores.clock ∧
    ∀ boundary, duty.2 = .since boundary → boundary = world.stores.lastFailureScan
  due : ∀ positionId, FailedIn world.stores.database.positions start.stores.lastFailureScan (reach world) positionId →
    alerts start world positionId + (outstanding world).count positionId = 1
  undue : ∀ positionId, ¬FailedIn world.stores.database.positions start.stores.lastFailureScan (reach world) positionId →
    alerts start world positionId + (outstanding world).count positionId = 0
  recent : ∀ positionId ∈ outstanding world,
    ¬FailedIn world.stores.database.positions start.stores.lastFailureScan world.stores.lastFailureScan positionId

-- How a call may change the positions.
inductive Rows (query : Query) (stores after : Stores) : Prop where
  | same (kept : after.database.positions = stores.database.positions)
  | created (input : CreatePositionInput) (asked : query = .createPosition input)
      (added : after.database.positions = stores.database.positions ++ [input.row stores.clock])
  | updated (positionId : Text) (state : ExecutionState) (asked : query = .updatePositionState positionId state)
      (set : after.database.positions = (stores.database.setPosition positionId state stores.clock).positions)

theorem answers_rows (answered : Answers query stores answer after) : Rows query stores after := by
  cases query with
  | createPosition input =>
    simp only [Answers] at answered
    split at answered
    · obtain ⟨-,rfl⟩ := answered
      exact .same rfl
    · obtain ⟨-,rfl⟩ := answered
      exact .created input rfl rfl
  | createExecutionSession input =>
    simp only [Answers] at answered
    split at answered
    · obtain ⟨-,rfl⟩ := answered
      exact .same rfl
    · obtain ⟨-,rfl⟩ := answered
      exact .same rfl
  | updatePositionState positionId state =>
    simp only [Answers] at answered
    split at answered
    · obtain ⟨-,rfl⟩ := answered
      exact .same rfl
    · rename_i row found
      obtain ⟨-,rfl⟩ := answered
      refine .updated positionId state rfl ?_
      rw [Stores.movePosition,position_id found]
  | updateExecutionSession positionId state stage =>
    simp only [Answers] at answered
    split at answered
    · obtain ⟨-,rfl⟩ := answered
      exact .same rfl
    · obtain ⟨-,rfl⟩ := answered
      exact .same rfl
  | prepareFunding _ | prepareExit _ | addLiquidity _ | claim _ | withdrawClose _ | getSignatureStatus _ =>
    cases answered
    exact .same rfl
  | findStuckPositions _ _ _ | findRecentlyFailed _ _ =>
    obtain ⟨page,-,rfl,-⟩ := answered
    exact .same rfl
  | _ =>
    obtain ⟨-,rfl⟩ := answered
    exact .same rfl

theorem did_rows (did : Did query stores answer after) : Rows query stores after := by
  rcases did with answered | ⟨-,-,rfl | ⟨lost,answered⟩⟩
  · exact answers_rows answered
  · exact .same rfl
  · exact answers_rows answered

-- Only the worker's own variable moves the boundary.
theorem answers_boundary (answered : Answers query stores answer after) : after.clock = stores.clock ∧
    ((∀ now, query ≠ .scannedFailures now) → after.lastFailureScan = stores.lastFailureScan) := by
  cases query with
  | createPosition _ | createExecutionSession _ | updatePositionState _ _ | updateExecutionSession _ _ _ =>
    simp only [Answers] at answered
    split at answered
    · obtain ⟨-,rfl⟩ := answered
      exact ⟨rfl,fun _ => rfl⟩
    · obtain ⟨-,rfl⟩ := answered
      exact ⟨rfl,fun _ => rfl⟩
  | prepareFunding _ | prepareExit _ | addLiquidity _ | claim _ | withdrawClose _ | getSignatureStatus _ =>
    cases answered
    exact ⟨rfl,fun _ => rfl⟩
  | findStuckPositions _ _ _ | findRecentlyFailed _ _ =>
    obtain ⟨page,-,rfl,-⟩ := answered
    exact ⟨rfl,fun _ => rfl⟩
  | scannedFailures now =>
    obtain ⟨-,rfl⟩ := answered
    exact ⟨rfl,fun other => absurd rfl (other now)⟩
  | _ =>
    obtain ⟨-,rfl⟩ := answered
    exact ⟨rfl,fun _ => rfl⟩

theorem did_boundary (did : Did query stores answer after) : after.clock = stores.clock ∧
    ((∀ now, query ≠ .scannedFailures now) → after.lastFailureScan = stores.lastFailureScan) := by
  rcases did with answered | ⟨-,-,rfl | ⟨lost,answered⟩⟩
  · exact answers_boundary answered
  · exact ⟨rfl,fun _ => rfl⟩
  · exact answers_boundary answered

theorem did_proper (did : Did query stores answer after) (inside : query.inProcess = true) : ∃ value, answer = .ok value := by
  rcases did with answered | ⟨away,-⟩
  · cases query with
    | countFirst => exact ⟨_,answered.1.choose_spec⟩
    | lastFailureScan | scannedFailures _ | captureException _ | saveUnawaited _ => exact ⟨_,answered.1⟩
    | _ => exact nomatch inside
  · exact nomatch away.symm.trans inside

section Acts
variable {caps : BetaCapsConfig} {start world : World} {before after : List Call} {call : Call} {query : Query}
  {answer : Except Thrown (Reply query)} {stores : Stores} {next : Except Thrown (Reply query) → Async Outcome}

theorem failed_rows (rows : Rows query stores later) (draft : ∀ input, query = .createPosition input → input.state ≠ .failed)
    (punctual : ∀ positionId state, query = .updatePositionState positionId state →
      ∀ row ∈ stores.database.positions, row.id = positionId → row.state ≠ .failed)
    (outside : ¬(one ≤ stores.clock ∧ stores.clock < two)) :
    FailedIn later.database.positions one two me ↔ FailedIn stores.database.positions one two me := by
  cases rows with
  | same kept => rw [kept]
  | created input asked added =>
    rw [added]
    constructor
    · rintro ⟨row,inside,own,failed,window⟩
      rcases List.mem_append.mp inside with old | new
      · exact ⟨row,old,own,failed,window⟩
      · rw [List.mem_singleton.mp new] at failed
        exact absurd failed (draft input asked)
    · rintro ⟨row,inside,rest⟩
      exact ⟨row,List.mem_append_left _ inside,rest⟩
  | updated positionId state asked set =>
    rw [set]
    constructor
    · rintro ⟨row,inside,own,failed,window⟩
      obtain ⟨old,there,rfl⟩ := List.mem_map.mp inside
      by_cases mine : old.id = positionId
      · rw [if_pos mine] at window
        exact absurd window outside
      · rw [if_neg mine] at own failed window
        exact ⟨old,there,own,failed,window⟩
    · rintro ⟨row,inside,own,failed,window⟩
      refine ⟨row,List.mem_map.mpr ⟨row,inside,?_⟩,own,failed,window⟩
      exact if_neg fun mine => punctual positionId state asked row inside mine failed

theorem duties_split (here : world.calls = before ++ call :: after) :
    duties world = before.filterMap duty ++ ((duty call).toList ++ after.filterMap duty) := by
  rw [duties,here,List.filterMap_append,List.filterMap_cons]
  cases duty call <;> rfl

theorem duties_answered {rest : Async Outcome} : duties (world.answered before call after query answer rest stores) =
    before.filterMap duty ++ ((duty (call.goesOn query answer rest)).toList ++ after.filterMap duty) := by
  have same : ∀ calls : List Call, (calls.map (Call.overtaken query)).filterMap duty = calls.filterMap duty := by
    intro calls
    rw [List.filterMap_map]
    rfl
  rw [duties,World.answered,List.filterMap_append,List.filterMap_cons,same,same]
  cases duty (call.goesOn query answer rest) <;> rfl

theorem alerts_grown (later : World) (grown : ∃ made_, world.log = start.log ++ made_) (logged_ : later.log = world.log ++ more)
    (positionId : Text) : alerts start later positionId = alerts start world positionId + more.countP (reports positionId) := by
  obtain ⟨made_,grown⟩ := grown
  unfold alerts
  rw [logged_,grown,List.append_assoc,List.drop_left,List.drop_left,List.countP_append]

-- What a tick goes on to is the report that is due, if one is.
theorem tick_made (scans : Scans now rest Reported scan) (operation : Operation) (positionId : Text) :
    (made operation rest).countP (reports positionId) + (if waits rest then scan.pending.tail else []).count positionId =
      scan.pending.count positionId := by
  cases rest with
  | ret value =>
    rcases scans with rfl | rfl
    · rfl
    · rfl
  | throws error =>
    rcases scans with rfl | rfl
    · rfl
    · rfl
  | call query next =>
    have permitted : mayScan now query scan := scans.1
    cases query with
    | captureException who =>
      cases who with
      | none =>
        rcases permitted with rfl | rfl
        · simp [made,reports,waits,Scan.pending]
        · simp [made,reports,waits,Scan.pending]
      | some failed =>
        obtain ⟨left,rfl⟩ := permitted
        simp [made,reports,waits,Scan.pending,List.count_cons,Nat.add_comm]
    | scannedFailures boundary =>
      cases permitted.2
      simp [made,reports,waits,Scan.pending]
    | findRecentlyFailed boundary limit =>
      cases permitted.1
      simp [made,reports,waits,Scan.pending]
    | _ =>
      cases permitted
      simp [made,reports,waits,Scan.pending]

-- The service's calls are no part of a scan.
theorem service_plain (service : operation.isTick = false) (permitted : permits caps me operation query sight) :
    query.scans = false := by
  cases query with
  | lastFailureScan | findRecentlyFailed _ _ | captureException _ | scannedFailures _ =>
    cases operation with
    | tick _ => exact nomatch service
    | _ => exact False.elim permitted
  | _ => rfl

theorem service_made (service : call.operation.isTick = false) (acts : Acts caps me call) (positionId : Text) :
    (made call.operation call.rest).countP (reports positionId) = 0 := by
  cases rest : call.rest with
  | ret value => rfl
  | throws error => rfl
  | call query next =>
    have plain := service_plain service (acts_permitted acts rest)
    cases query with
    | captureException _ => exact nomatch plain
    | _ => simp [made,reports]

theorem reach_clocked (watch : Watch start world) :
    reach world = start.stores.lastFailureScan ∨ reach world ≤ world.stores.clock := by
  unfold reach
  split
  · rename_i now _ _ shape
    exact .inr (watch.timed (now,_) (shape ▸ List.mem_cons_self)).2.1
  · exact watch.clocked

theorem reach_onward (watch : Watch start world) : world.stores.lastFailureScan ≤ reach world := by
  unfold reach
  split
  · rename_i now _ _ shape
    exact (watch.timed (now,_) (shape ▸ List.mem_cons_self)).1
  · exact le_refl _

theorem outside_scan (watch : Watch start world) :
    ¬(start.stores.lastFailureScan ≤ world.stores.clock ∧ world.stores.clock < world.stores.lastFailureScan) := by
  rintro ⟨after,before⟩
  rcases watch.clocked with same | earlier
  · omega
  · omega

theorem outside_reach (watch : Watch start world) :
    ¬(start.stores.lastFailureScan ≤ world.stores.clock ∧ world.stores.clock < reach world) := by
  rintro ⟨after,before⟩
  rcases reach_clocked watch with same | earlier
  · omega
  · omega

theorem duty_service (service : call.operation.isTick = false) : duty call = none := by
  unfold duty
  split
  · rename_i asked
    rw [asked] at service
    cases service
  · rfl

theorem scans_others (watch : Watch start world) (here : world.calls = before ++ call :: after) {other : Call}
    (inside : other ∈ before.map (Call.overtaken query) ∨ other ∈ after.map (Call.overtaken query)) (now : Int)
    (asked : other.operation = .tick now) (running : other.running = true) :
    Scans now other.rest Reported (scanOf other.past) := by
  rcases inside with early | late
  · obtain ⟨prior,there,rfl⟩ := List.mem_map.mp early
    exact watch.scans prior (by simp [here,there]) now asked running
  · obtain ⟨prior,there,rfl⟩ := List.mem_map.mp late
    exact watch.scans prior (by simp [here,there]) now asked running

theorem punctual_row (punctual : Punctual world call) {next : Except Thrown PositionRow → Async Outcome}
    (turn : call.rest = .call (.updatePositionState positionId state) next) :
    ∀ row ∈ world.stores.database.positions, row.id = positionId → row.state ≠ .failed := by
  unfold Punctual at punctual
  rw [turn] at punctual
  cases asked : call.operation with
  | tick now =>
    rw [asked] at punctual
    exact punctual
  | _ =>
    rw [asked] at punctual
    exact punctual

theorem watch_service (watch : Watch start world) (sound : Sound caps world) (here : world.calls = before ++ call :: after)
    (turn : call.rest = .call query next) (service : call.operation.isTick = false)
    (did : Did query world.stores answer stores) (punctual : Punctual world call) :
    Watch start (world.answered before call after query answer (next answer) stores) := by
  have inside : call ∈ world.calls := by simp [here]
  have concerned := concerns_position call.operation
  have acts := sound.acts call inside _ concerned
  have permitted := acts_permitted acts turn
  have going : Acts caps call.operation.position (call.goesOn query answer (next answer)) :=
    acts_goesOn acts turn (did_fit sound.keyed did)
  have plain := service_plain service permitted
  obtain ⟨clock,boundary⟩ := did_boundary did
  have scan : stores.lastFailureScan = world.stores.lastFailureScan := by
    apply boundary
    rintro now rfl
    cases plain
  have idle : duty call = none := duty_service service
  have idle' : duty (call.goesOn query answer (next answer)) = none := duty_service service
  have same : duties (world.answered before call after query answer (next answer) stores) = duties world := by
    rw [duties_answered,duties_split here,idle,idle']
  have reached : reach (world.answered before call after query answer (next answer) stores) = reach world := by
    unfold reach
    rw [same]
    change (match duties world with | (now,.alerting _) :: _ => now | _ => stores.lastFailureScan) = _
    rw [scan]
  have left : outstanding (world.answered before call after query answer (next answer) stores) = outstanding world := by
    unfold outstanding
    rw [same]
  have quiet : ∀ me,alerts start (world.answered before call after query answer (next answer) stores) me =
      alerts start world me := by
    intro me
    have more := alerts_grown (world.answered before call after query answer (next answer) stores) watch.grown rfl me
    rw [more]
    have served : (call.goesOn query answer (next answer)).operation.isTick = false := service
    have none_ := service_made served going me
    exact congrArg (alerts start world me + ·) none_
  have kept : ∀ bound me,¬(start.stores.lastFailureScan ≤ world.stores.clock ∧ world.stores.clock < bound) →
      (FailedIn stores.database.positions start.stores.lastFailureScan bound me ↔
        FailedIn world.stores.database.positions start.stores.lastFailureScan bound me) := by
    intro bound me outside
    refine failed_rows (did_rows did) ?_ ?_ outside
    · rintro input rfl
      rw [draft_created permitted]
      decide
    · rintro positionId state rfl
      exact punctual_row punctual turn
  obtain ⟨made_,grown⟩ := watch.grown
  refine ⟨⟨made_ ++ made call.operation (next answer),?_⟩,?_,?_,?_,?_,?_,?_,?_,?_⟩
  · rw [← List.append_assoc,← grown]
    rfl
  · intro other there now asked running
    rcases List.mem_append.mp there with early | late
    · exact scans_others watch here (.inl early) now asked running
    · rcases List.mem_cons.mp late with rfl | later
      · change call.operation = _ at asked
        rw [asked] at service
        cases service
      · exact scans_others watch here (.inr later) now asked running
  · rw [same]
    exact watch.single
  · change _ ≤ stores.lastFailureScan
    rw [scan]
    exact watch.later
  · change stores.lastFailureScan = _ ∨ stores.lastFailureScan ≤ stores.clock
    rw [scan,clock]
    exact watch.clocked
  · rw [same]
    change ∀ duty ∈ _,stores.lastFailureScan ≤ _ ∧ _ ≤ stores.clock ∧ ∀ boundary,_ → boundary = stores.lastFailureScan
    rw [scan,clock]
    exact watch.timed
  · intro me due
    rw [quiet,left]
    rw [reached] at due
    exact watch.due me ((kept _ me (outside_reach watch)).mp due)
  · intro me undue
    rw [quiet,left]
    rw [reached] at undue
    exact watch.undue me fun due => undue ((kept _ me (outside_reach watch)).mpr due)
  · intro me there
    rw [left] at there
    change ¬FailedIn stores.database.positions _ stores.lastFailureScan me
    rw [scan,kept _ me (outside_scan watch)]
    exact watch.recent me there

theorem scanOf_snoc (past : List (Seen Reply Thrown)) (query : Query) (answer : Except Thrown (Reply query)) :
    scanOf (past ++ [⟨query,answer⟩]) = scansOn (scanOf past) query answer := by
  simp only [scanOf,List.foldl_append,List.foldl_cons,List.foldl_nil]

-- While a tick runs, no other does.
theorem alone_ticking (watch : Watch start world) (here : world.calls = before ++ call :: after)
    (busy : duty call = some task) : before.filterMap duty = [] ∧ after.filterMap duty = [] ∧ duties world = [task] := by
  have single := watch.single
  have split := duties_split here
  rw [busy] at split
  rw [split] at single
  simp only [Option.toList,List.length_append,List.length_cons,List.length_nil] at single
  have one : before.filterMap duty = [] := List.length_eq_zero_iff.mp (by omega)
  have two : after.filterMap duty = [] := List.length_eq_zero_iff.mp (by omega)
  refine ⟨one,two,?_⟩
  rw [split,one,two]
  rfl

def Scan.bound (now lastFailureScan : Int) : Scan → Int
  | .alerting _ => now
  | _ => lastFailureScan

theorem reported_waits (scans : Scans now rest Reported (.alerting left)) : waits rest = true := by
  cases rest with
  | ret value => rcases scans with wrong | wrong <;> cases wrong
  | throws error => rcases scans with wrong | wrong <;> cases wrong
  | call query next => rfl

-- A page that holds all that failed since the last scan.
theorem page_complete {rows page : List PositionRow} (paged : Page rows (· ≥ ·) limit page) (fits : rows.length ≤ limit) :
    page.Perm rows := by
  obtain ⟨ordered,perm,_,rfl⟩ := paged
  rw [List.take_of_length_le (perm.length_eq ▸ fits)]
  exact perm

theorem page_counts {database : Database} {page : List PositionRow} (keyed : Keyed database) (listed : page.Perm (recentlyFailed database since))
    (positionId : Text) : ((∃ row ∈ recentlyFailed database since,row.id = positionId) →
      (page.map PositionRow.id).count positionId = 1) ∧
    ((¬∃ row ∈ recentlyFailed database since,row.id = positionId) → (page.map PositionRow.id).count positionId = 0) := by
  have distinct : (page.map PositionRow.id).Nodup := by
    rw [(listed.map PositionRow.id).nodup_iff]
    exact (List.filter_sublist.map _).nodup keyed.positions
  constructor
  · rintro ⟨row,inside,rfl⟩
    exact List.count_eq_one_of_mem distinct (List.mem_map_of_mem (listed.mem_iff.mpr inside))
  · intro absent
    apply List.count_eq_zero_of_not_mem
    intro there
    obtain ⟨row,inside,own⟩ := List.mem_map.mp there
    exact absent ⟨row,listed.mem_iff.mp inside,own⟩

-- What a complete page adds to the count is what the new boundary adds to the failures.
theorem page_tally {database : Database} {page : List PositionRow} (keyed : Keyed database) (later : one ≤ since) (onward : since ≤ now)
    (counts : ((∃ row ∈ recentlyFailed database since,row.id = me) → (page.map PositionRow.id).count me = 1) ∧
      ((¬∃ row ∈ recentlyFailed database since,row.id = me) → (page.map PositionRow.id).count me = 0))
    (window : ∀ row ∈ recentlyFailed database since,row.updatedAt < now)
    (due : FailedIn database.positions one since me → alerted + 0 = 1)
    (undue : ¬FailedIn database.positions one since me → alerted + 0 = 0) :
    (FailedIn database.positions one now me → alerted + (page.map PositionRow.id).count me = 1) ∧
    (¬FailedIn database.positions one now me → alerted + (page.map PositionRow.id).count me = 0) := by
  have member : ∀ row,row ∈ recentlyFailed database since ↔
      row ∈ database.positions ∧ row.state = .failed ∧ since ≤ row.updatedAt := by
    intro row
    rw [recentlyFailed,List.mem_filter,decide_eq_true_iff]
  by_cases read : ∃ row ∈ recentlyFailed database since,row.id = me
  · rw [counts.1 read]
    obtain ⟨row,listed,own⟩ := read
    obtain ⟨there,failed,recent⟩ := (member row).mp listed
    have unalerted : ¬FailedIn database.positions one since me := by
      rintro ⟨other,inside,same,_,_,old⟩
      cases List.inj_on_of_nodup_map keyed.positions there inside (own.trans same.symm)
      omega
    have found : FailedIn database.positions one now me :=
      ⟨row,there,own,failed,le_trans later recent,window row listed⟩
    exact ⟨fun _ => by have none_ := undue unalerted; omega,fun unfound => absurd found unfound⟩
  · rw [counts.2 read]
    constructor
    · rintro ⟨row,there,own,failed,first,_⟩
      refine due ⟨row,there,own,failed,first,?_⟩
      by_contra recent
      exact read ⟨row,(member row).mpr ⟨there,failed,not_lt.mp recent⟩,own⟩
    · intro unfound
      apply undue
      rintro ⟨row,there,own,failed,first,old⟩
      exact unfound ⟨row,there,own,failed,first,lt_of_lt_of_le old onward⟩

theorem reads_boundary (did : Did query stores answer later) (permitted : mayScan now query scan) (since : Int)
    (reading : scansOn scan query answer = .since since) : since = later.lastFailureScan := by
  cases plain : query.scans with
  | false =>
    rw [plain_stays plain,(plain_may plain).mp permitted] at reading
    cases reading
  | true =>
    cases query with
    | lastFailureScan =>
      rcases did with ⟨rfl,rfl⟩ | ⟨away,_⟩
      · cases reading
        rfl
      · cases away
    | findRecentlyFailed boundary limit =>
      cases answer with
      | ok page => cases reading
      | error error => cases reading
    | captureException who =>
      cases who with
      | none =>
        rcases permitted with rfl | rfl
        · cases reading
        · cases reading
      | some failed =>
        obtain ⟨left,rfl⟩ := permitted
        cases reading
    | scannedFailures boundary => cases reading
    | _ => cases plain

-- Of one position: what it has been alerted of and what the scan still holds, beside
-- its failures.
structure Tally (start world : World) (now : Int) (stores : Stores) (scan : Scan) (held : List Text) (me : Text) : Prop where
  due : FailedIn stores.database.positions start.stores.lastFailureScan (scan.bound now stores.lastFailureScan) me →
    alerts start world me + held.count me = 1
  undue : ¬FailedIn stores.database.positions start.stores.lastFailureScan (scan.bound now stores.lastFailureScan) me →
    alerts start world me + held.count me = 0

theorem watch_tally (watch : Watch start world) (current : duties world = [(now,scan)]) (me : Text) :
    Tally start world now world.stores scan scan.pending.tail me := by
  have reached : reach world = scan.bound now world.stores.lastFailureScan := by
    unfold reach
    rw [current]
    cases scan <;> rfl
  have left : outstanding world = scan.pending.tail := by
    unfold outstanding
    rw [current]
    simp only [List.flatMap_cons,List.flatMap_nil,List.append_nil]
  have due := watch.due me
  have undue := watch.undue me
  rw [reached,left] at due undue
  exact ⟨due,undue⟩

theorem tick_boundary (did : Did query world.stores answer stores) (permitted : mayScan now query scan) :
    stores.lastFailureScan = world.stores.lastFailureScan ∨
      stores.lastFailureScan = now ∧ query = .scannedFailures now := by
  cases query with
  | scannedFailures at_ =>
    rcases did with ⟨_,rfl⟩ | ⟨away,_⟩
    · exact .inr ⟨permitted.1,by rw [permitted.1]⟩
    · cases away
  | _ => exact .inl ((did_boundary did).2 fun now same => by cases same)

-- A read or a write of the rounds before the scan.
theorem tally_plain (watch : Watch start world) (sound : Sound caps world) (inside : call ∈ world.calls)
    (turn : call.rest = .call query next) (asked : call.operation = .tick now)
    (did : Did query world.stores answer stores) (punctual : Punctual world call) (plain : query.scans = false)
    (current : duties world = [(now,.before)]) (tally : Tally start world now world.stores .before [] me) :
    Tally start world now stores .before [] me := by
  have scan : stores.lastFailureScan = world.stores.lastFailureScan := by
    apply (did_boundary did).2
    rintro now rfl
    cases plain
  have outside := outside_reach watch
  have reached : reach world = world.stores.lastFailureScan := by
    unfold reach
    rw [current]
  rw [reached] at outside
  have same : FailedIn stores.database.positions start.stores.lastFailureScan world.stores.lastFailureScan me ↔
      FailedIn world.stores.database.positions start.stores.lastFailureScan world.stores.lastFailureScan me := by
    refine failed_rows (did_rows did) ?_ ?_ outside
    · rintro input rfl
      have acts := acts_permitted (sound.acts call inside me (by rw [asked]; trivial)) turn
      rw [asked] at acts
      exact False.elim acts
    · rintro positionId state rfl
      exact punctual_row punctual turn
  constructor
  · intro failed
    rw [scan] at failed
    exact tally.due (same.mp failed)
  · intro unfailed
    rw [scan] at unfailed
    exact tally.undue fun failed => unfailed (same.mpr failed)

-- The page of what has failed since the last scan.
theorem tally_page {page : List PositionRow} (sound : Sound caps world)
    (later : start.stores.lastFailureScan ≤ world.stores.lastFailureScan) (early : world.stores.lastFailureScan ≤ now)
    (window : (recentlyFailed world.stores.database world.stores.lastFailureScan).length ≤ limit ∧
      ∀ row ∈ recentlyFailed world.stores.database world.stores.lastFailureScan,row.updatedAt < now)
    (paged : Page (recentlyFailed world.stores.database world.stores.lastFailureScan) (· ≥ ·) limit page)
    (tally : Tally start world now world.stores (.since world.stores.lastFailureScan) [] me) :
    Tally start world now world.stores (.alerting (page.map PositionRow.id)) (page.map PositionRow.id) me := by
  have counts := page_counts sound.keyed (page_complete paged window.1) me
  obtain ⟨one,two⟩ := page_tally sound.keyed later early counts window.2 tally.due tally.undue
  exact ⟨one,two⟩

-- What the page lists was not listed by an earlier one.
theorem page_recent {page : List PositionRow} (early : world.stores.lastFailureScan ≤ now)
    (prior : Tally start world now world.stores (.since world.stores.lastFailureScan) [] me)
    (tally : Tally start world now world.stores (.alerting (page.map PositionRow.id)) (page.map PositionRow.id) me)
    (there : me ∈ page.map PositionRow.id) :
    ¬FailedIn world.stores.database.positions start.stores.lastFailureScan world.stores.lastFailureScan me := by
  intro failed
  have listed : 0 < (page.map PositionRow.id).count me := List.count_pos_iff.mpr there
  have first : alerts start world me + 0 = 1 := prior.due failed
  obtain ⟨row,inside,own,stuck,from_,until_⟩ := failed
  have both := tally.due ⟨row,inside,own,stuck,from_,lt_of_lt_of_le until_ early⟩
  omega

theorem page_answered {answer : Except Thrown (List PositionRow)}
    (did : Did (.findRecentlyFailed since limit) world.stores answer stores) :
    stores = world.stores ∧ ((∃ page, answer = .ok page ∧ Page (recentlyFailed world.stores.database since) (· ≥ ·) limit page) ∨
      ∃ error, answer = .error error) := by
  rcases did with ⟨page,rfl,rfl,paged⟩ | ⟨_,⟨error,rfl⟩,same | ⟨lost,page,_,same,_⟩⟩
  · exact ⟨rfl,.inl ⟨page,rfl,paged⟩⟩
  · exact ⟨same,.inr ⟨error,rfl⟩⟩
  · exact ⟨same,.inr ⟨error,rfl⟩⟩

theorem page_window (punctual : Punctual world call) (asked : call.operation = .tick now)
    {next : Except Thrown (List PositionRow) → Async Outcome} (turn : call.rest = .call (.findRecentlyFailed since limit) next) :
    (recentlyFailed world.stores.database since).length ≤ limit ∧
      ∀ row ∈ recentlyFailed world.stores.database since,row.updatedAt < now := by
  unfold Punctual at punctual
  rw [asked,turn] at punctual
  exact punctual

theorem scanning_tally (watch : Watch start world) (sound : Sound caps world)
    (turn : call.rest = .call query next) (asked : call.operation = .tick now)
    (did : Did query world.stores answer stores) (punctual : Punctual world call) (scans : query.scans = true)
    (permitted : mayScan now query scan) (current : duties world = [(now,scan)])
    (tally : Tally start world now world.stores scan scan.pending.tail me) :
    Tally start world now stores (scansOn scan query answer) (scansOn scan query answer).pending me := by
  cases query with
  | lastFailureScan =>
    rcases did with ⟨rfl,rfl⟩ | ⟨away,_⟩
    · cases permitted
      exact ⟨tally.due,tally.undue⟩
    · cases away
  | findRecentlyFailed since limit =>
    obtain ⟨rfl,_⟩ := permitted
    obtain ⟨early,_,boundary⟩ := watch.timed _ (current ▸ List.mem_singleton_self _)
    cases boundary since rfl
    obtain ⟨rfl,⟨page,rfl,paged⟩ | ⟨error,rfl⟩⟩ := page_answered did
    · exact tally_page sound watch.later early (page_window punctual asked turn) paged tally
    · exact ⟨tally.due,tally.undue⟩
  | captureException who =>
    rcases did with ⟨rfl,rfl⟩ | ⟨away,_⟩
    · cases who with
      | none =>
        rcases permitted with rfl | rfl
        · exact tally
        · exact tally
      | some failed =>
        obtain ⟨left,rfl⟩ := permitted
        exact ⟨tally.due,tally.undue⟩
    · cases away
  | scannedFailures at_ =>
    rcases did with ⟨rfl,rfl⟩ | ⟨away,_⟩
    · obtain ⟨rfl,rfl⟩ := permitted
      exact ⟨tally.due,tally.undue⟩
    · cases away
  | _ => cases scans

theorem tick_tally (watch : Watch start world) (sound : Sound caps world) (inside : call ∈ world.calls)
    (turn : call.rest = .call query next) (asked : call.operation = .tick now)
    (did : Did query world.stores answer stores) (punctual : Punctual world call) (permitted : mayScan now query scan)
    (current : duties world = [(now,scan)]) (me : Text) :
    Tally start world now stores (scansOn scan query answer) (scansOn scan query answer).pending me := by
  have tally := watch_tally watch current me
  cases plain : query.scans with
  | false =>
    cases (plain_may plain).mp permitted
    rw [plain_stays plain]
    exact tally_plain watch sound inside turn asked did punctual plain current tally
  | true => exact scanning_tally watch sound turn asked did punctual plain permitted current tally

-- What is still to be reported after the next report has failed only since the last scan.
theorem tick_recent (watch : Watch start world) (sound : Sound caps world) (turn : call.rest = .call query next)
    (asked : call.operation = .tick now) (did : Did query world.stores answer stores) (punctual : Punctual world call)
    (permitted : mayScan now query scan) (current : duties world = [(now,scan)])
    (there : me ∈ (scansOn scan query answer).pending.tail) :
    ¬FailedIn stores.database.positions start.stores.lastFailureScan stores.lastFailureScan me := by
  cases plain : query.scans with
  | false =>
    cases (plain_may plain).mp permitted
    rw [plain_stays plain] at there
    cases there
  | true =>
    cases query with
    | lastFailureScan =>
      cases permitted
      cases answer with
      | ok boundary => cases there
      | error error => cases there
    | findRecentlyFailed since limit =>
      obtain ⟨rfl,_⟩ := permitted
      have prior := watch_tally watch current me
      obtain ⟨early,_,boundary⟩ := watch.timed _ (current ▸ List.mem_singleton_self _)
      cases boundary since rfl
      obtain ⟨rfl,⟨page,rfl,paged⟩ | ⟨error,rfl⟩⟩ := page_answered did
      · have tally := tally_page sound watch.later early (page_window punctual asked turn) paged prior
        exact page_recent early prior tally (List.mem_of_mem_tail there)
      · cases there
    | captureException who =>
      cases who with
      | none =>
        rcases permitted with rfl | rfl
        · cases there
        · cases there
      | some failed =>
        obtain ⟨left,rfl⟩ := permitted
        rcases did with ⟨rfl,rfl⟩ | ⟨away,_⟩
        · apply watch.recent me
          unfold outstanding
          rw [current]
          simp only [List.flatMap_cons,List.flatMap_nil,List.append_nil]
          exact List.mem_of_mem_tail there
        · cases away
    | scannedFailures at_ => cases there
    | _ => cases plain

section Answered
variable {later : World} (renewed : duties later = if waits rest then [(now,scan)] else [])
include renewed

theorem renewed_left : outstanding later = if waits rest then scan.pending.tail else [] := by
  unfold outstanding
  rw [renewed]
  split
  · simp only [List.flatMap_cons,List.flatMap_nil,List.append_nil]
  · rfl

theorem renewed_reach (goes : Scans now rest Reported scan) : reach later = scan.bound now later.stores.lastFailureScan := by
  unfold reach
  rw [renewed]
  cases busy : waits rest with
  | false =>
    rw [if_neg Bool.false_ne_true]
    cases scan with
    | alerting left => cases busy.symm.trans (reported_waits goes)
    | _ => rfl
  | true =>
    rw [if_pos rfl]
    cases scan <;> rfl

-- The report that the tick goes on to is counted as it is asked for.
theorem renewed_sum (goes : Scans now rest Reported scan) (grown : ∃ made_, world.log = start.log ++ made_)
    (operation : Operation) (logged_ : later.log = world.log ++ made operation rest) (me : Text) :
    alerts start later me + (outstanding later).count me = alerts start world me + scan.pending.count me := by
  rw [alerts_grown later grown logged_ me,renewed_left renewed,Nat.add_assoc,tick_made goes operation me]

end Answered

theorem watch_tick (watch : Watch start world) (sound : Sound caps world) (here : world.calls = before ++ call :: after)
    (turn : call.rest = .call query next) (asked : call.operation = .tick now)
    (did : Did query world.stores answer stores) (punctual : Punctual world call) :
    Watch start (world.answered before call after query answer (next answer) stores) := by
  have inside : call ∈ world.calls := by simp [here]
  have running : call.running = true := by
    unfold Call.running
    rw [turn]
    rfl
  have busy : duty call = some (now,scanOf call.past) := by
    unfold duty
    rw [asked,running]
    rfl
  obtain ⟨one,two,current⟩ := alone_ticking watch here busy
  have scans := watch.scans call inside now asked running
  rw [turn] at scans
  have permitted : mayScan now query (scanOf call.past) := scans.1
  have goes : Scans now (next answer) Reported (scansOn (scanOf call.past) query answer) :=
    scans.2 answer _ ⟨did_proper did,rfl⟩
  obtain ⟨early,late,_⟩ := watch.timed _ (current ▸ List.mem_singleton_self _)
  have clock := (did_boundary did).1
  have moved := tick_boundary did permitted
  have renewed : duties (world.answered before call after query answer (next answer) stores) =
      if waits (next answer) then [(now,scansOn (scanOf call.past) query answer)] else [] := by
    rw [duties_answered,one,two]
    unfold duty
    simp only [Call.goesOn,asked,Call.running,scanOf_snoc]
    split
    · rfl
    · rfl
  have sum := renewed_sum renewed goes watch.grown call.operation rfl
  have reached := renewed_reach renewed goes
  have tally := tick_tally watch sound inside turn asked did punctual permitted current
  obtain ⟨made_,grown⟩ := watch.grown
  refine ⟨⟨made_ ++ made call.operation (next answer),?_⟩,?_,?_,?_,?_,?_,?_,?_,?_⟩
  · rw [← List.append_assoc,← grown]
    rfl
  · intro other there at_ asked' running'
    rcases List.mem_append.mp there with early | late
    · exact scans_others watch here (.inl early) at_ asked' running'
    · rcases List.mem_cons.mp late with rfl | later
      · cases asked.symm.trans asked'
        change Scans now (next answer) Reported (scanOf (call.past ++ [⟨query,answer⟩]))
        rw [scanOf_snoc]
        exact goes
      · exact scans_others watch here (.inr later) at_ asked' running'
  · rw [renewed]
    split
    · exact Nat.le_refl 1
    · exact Nat.zero_le 1
  · change _ ≤ stores.lastFailureScan
    rcases moved with same | ⟨same,_⟩
    · rw [same]
      exact watch.later
    · rw [same]
      exact le_trans watch.later early
  · change stores.lastFailureScan = _ ∨ stores.lastFailureScan ≤ stores.clock
    rw [clock]
    rcases moved with same | ⟨same,_⟩
    · rw [same]
      exact watch.clocked
    · rw [same]
      exact .inr late
  · rw [renewed]
    intro task there
    split at there
    · cases List.mem_singleton.mp there
      change stores.lastFailureScan ≤ now ∧ now ≤ stores.clock ∧ ∀ since,_ → since = stores.lastFailureScan
      refine ⟨?_,clock.symm ▸ late,?_⟩
      · rcases moved with same | ⟨same,_⟩
        · rw [same]
          exact early
        · rw [same]
      · exact reads_boundary did permitted
    · exact absurd there List.not_mem_nil
  · intro me failed
    rw [reached] at failed
    exact (sum me).trans ((tally me).due failed)
  · intro me unfailed
    rw [reached] at unfailed
    exact (sum me).trans ((tally me).undue unfailed)
  · intro me there
    rw [renewed_left renewed] at there
    split at there
    · exact tick_recent watch sound turn asked did punctual permitted current there
    · exact absurd there List.not_mem_nil

theorem watch_did (watch : Watch start world) (sound : Sound caps world) (here : world.calls = before ++ call :: after)
    (turn : call.rest = .call query next) (did : Did query world.stores answer stores)
    (punctual : ∀ call ∈ world.calls[before.length]?,Punctual world call) :
    Watch start (world.answered before call after query answer (next answer) stores) := by
  have own : Punctual world call := punctual call (by rw [here]; simp)
  cases asked : call.operation with
  | tick now => exact watch_tick watch sound here turn asked did own
  | _ => exact watch_service watch sound here turn (by rw [asked]; rfl) did own

end Acts

theorem watch_boots (idle : ∀ call ∈ world.calls,call.running = false) : Watch world world := by
  have none_ : duties world = [] := by
    rw [duties,List.filterMap_eq_nil_iff]
    intro call inside
    unfold duty
    rw [idle call inside]
    split <;> rfl
  have unalerted : ∀ me,alerts world world me = 0 := by
    intro me
    rw [alerts,List.drop_length]
    rfl
  refine ⟨⟨[],(List.append_nil _).symm⟩,?_,?_,le_refl _,.inl rfl,?_,?_,?_,?_⟩
  · intro call inside now _ running
    cases (idle call inside).symm.trans running
  · rw [none_]
    exact Nat.zero_le 1
  · rw [none_]
    intro task there
    exact absurd there List.not_mem_nil
  · intro me due
    obtain ⟨row,_,_,_,first,last⟩ := due
    unfold reach at last
    rw [none_] at last
    exact absurd (lt_of_le_of_lt first last) (lt_irrefl _)
  · intro me _
    rw [unalerted,outstanding,none_]
    rfl
  · intro me there
    rw [outstanding,none_] at there
    exact absurd there List.not_mem_nil

def World.entered (caps : BetaCapsConfig) (world : World) (operation : Operation) : World :=
  { world with
    calls := world.calls ++ [⟨operation,[],bodyOf caps operation,world.stores.database,[]⟩]
    log := world.log ++ made operation (bodyOf caps operation) }

theorem duties_entered : duties (world.entered caps operation) =
    duties world ++ (duty ⟨operation,[],bodyOf caps operation,world.stores.database,[]⟩).toList := by
  rw [duties,World.entered,List.filterMap_append,List.filterMap_cons]
  cases duty ⟨operation,[],bodyOf caps operation,world.stores.database,[]⟩ <;> rfl

theorem body_scans (caps : BetaCapsConfig) (now : Int) : Scans now (bodyOf caps (.tick now)) Reported .before :=
  follows_bind.mpr (follows_mono (fun out scan ended => by cases out <;> exact ended) (tick_scans now))

theorem watch_enter (watch : Watch start world) (single : operation.isTick = true →
      ∀ call ∈ world.calls,call.operation.isTick = true → call.running = false)
    (timely : Timely world (.enter operation)) : Watch start (world.entered caps operation) := by
  have concerned := concerns_position operation
  obtain ⟨made_,grown⟩ := watch.grown
  have longer : ∃ made_,(world.entered caps operation).log = start.log ++ made_ :=
    ⟨made_ ++ made operation (bodyOf caps operation),by rw [World.entered,grown,List.append_assoc]⟩
  have scans : ∀ call ∈ (world.entered caps operation).calls,∀ now,call.operation = .tick now → call.running = true →
      Scans now call.rest Reported (scanOf call.past) := by
    intro call inside now asked running
    rcases List.mem_append.mp inside with old | new
    · exact watch.scans call old now asked running
    · cases List.mem_singleton.mp new
      cases asked
      exact body_scans caps now
  cases service : operation.isTick with
  | true =>
    obtain ⟨now,rfl⟩ : ∃ now,operation = .tick now := by
      cases operation with
      | tick now => exact ⟨now,rfl⟩
      | _ => cases service
    have none_ : duties world = [] := by
      rw [duties,List.filterMap_eq_nil_iff]
      intro call inside
      unfold duty
      split
      · rename_i asked
        rw [single rfl call inside (by rw [asked]; rfl)]
        rfl
      · rfl
    have begun : duties (world.entered caps (.tick now)) = [(now,.before)] := by
      rw [duties_entered,none_]
      rfl
    have quiet : ∀ me,alerts start (world.entered caps (.tick now)) me = alerts start world me := by
      intro me
      rw [alerts_grown (world.entered caps (.tick now)) watch.grown rfl me]
      rfl
    have due := watch.due
    have undue := watch.undue
    simp only [reach,outstanding,none_] at due undue
    refine ⟨longer,scans,?_,watch.later,watch.clocked,?_,?_,?_,?_⟩
    · rw [begun]
      exact Nat.le_refl 1
    · rw [begun]
      intro task there
      cases List.mem_singleton.mp there
      exact ⟨timely.1.1,timely.1.2,fun since reading => by cases reading⟩
    · intro me
      rw [quiet,reach,outstanding,begun]
      exact due me
    · intro me
      rw [quiet,reach,outstanding,begun]
      exact undue me
    · intro me there
      rw [outstanding,begun] at there
      exact absurd there List.not_mem_nil
  | false =>
    have same : duties (world.entered caps operation) = duties world := by
      rw [duties_entered,duty_service service]
      exact List.append_nil _
    have quiet : ∀ me,alerts start (world.entered caps operation) me = alerts start world me := by
      intro me
      have acts : Acts caps operation.position ⟨operation,[],bodyOf caps operation,world.stores.database,[]⟩ := body_goes concerned
      rw [alerts_grown (world.entered caps operation) watch.grown rfl me]
      exact congrArg (alerts start world me + ·) (service_made service acts me)
    refine ⟨longer,scans,?_,watch.later,watch.clocked,?_,?_,?_,?_⟩
    · rw [same]
      exact watch.single
    · rw [same]
      exact watch.timed
    · intro me
      rw [quiet,reach,outstanding,same]
      exact watch.due me
    · intro me
      rw [quiet,reach,outstanding,same]
      exact watch.undue me
    · intro me
      rw [outstanding,same]
      exact watch.recent me

theorem watch_step (watch : Watch start world) (sound : Sound caps world) (met : Timely world action)
    (step : Step caps world action after) : Watch start after := by
  cases step with
  | enter single => exact watch_enter watch single met
  | answer here turn answered => exact watch_did watch sound here turn (.inl answered) met.2
  | fail here turn fails => exact watch_did watch sound here turn (.inr fails) met.2
  | land here =>
    exact ⟨watch.grown,watch.scans,watch.single,watch.later,watch.clocked,watch.timed,watch.due,watch.undue,watch.recent⟩
  | @clock now later =>
    refine ⟨watch.grown,watch.scans,watch.single,watch.later,?_,?_,watch.due,watch.undue,watch.recent⟩
    · exact watch.clocked.imp_right fun early => le_trans early later
    · intro task there
      obtain ⟨early,late,reading⟩ := watch.timed task there
      exact ⟨early,le_trans late later,reading⟩
  | crash => exact met.1.elim

theorem lifetime_reached (lifetime : Lifetime caps meets start world) : Reached caps anyStep world := by
  induction lifetime with
  | boots reached => exact reached
  | step _ _ step ih => exact .step ih trivial step

theorem lifetime_watch (lifetime : Lifetime caps Timely start world) : Watch start world := by
  induction lifetime with
  | boots _ idle => exact watch_boots idle
  | step prior met step ih => exact watch_step ih (reached_sound (lifetime_reached prior)) met step

theorem failures_alerted_once (lifetime : Lifetime caps Timely start world) : AlertedOnce start world := by
  have watch := lifetime_watch lifetime
  constructor
  · intro me
    by_cases failed : FailedIn world.stores.database.positions start.stores.lastFailureScan (reach world) me
    · exact Nat.le_trans (Nat.le_add_right _ _) (le_of_eq (watch.due me failed))
    · have none_ := watch.undue me failed
      omega
  · intro row inside failed first last
    have found : FailedIn world.stores.database.positions start.stores.lastFailureScan world.stores.lastFailureScan row.id :=
      ⟨row,inside,rfl,failed,first,last⟩
    have due := watch.due row.id ⟨row,inside,rfl,failed,first,lt_of_lt_of_le last (reach_onward watch)⟩
    have unlisted : (outstanding world).count row.id = 0 :=
      List.count_eq_zero_of_not_mem fun there => watch.recent row.id there found
    omega

theorem play_lived [∀ world action, Decidable (meets world action)] (lifetime : Lifetime caps meets start world)
    (schedule : List Action) : Lifetime caps meets start (world.play caps meets schedule) := by
  induction schedule generalizing world with
  | nil => exact lifetime
  | cons action rest ih =>
    simp only [World.play,List.foldl_cons]
    split
    · rename_i met
      rcases act_step caps world action with same | step
      · rw [same]
        exact ih lifetime
      · exact ih (.step lifetime met step)
    · exact ih lifetime

theorem boots_first : Lifetime sampleCaps meets (World.first 0 (-1)) (World.first 0 (-1)) :=
  .boots .first fun _ inside => absurd inside List.not_mem_nil

-- An intent whose funding fails.
def sampleFailure : List Action :=
  sampleCreate ++ [.enter sampleExecute] ++ List.replicate 4 (.answer 1) ++ [.fail 1] ++ List.replicate 4 (.answer 1)

-- The first tick starts in the millisecond of the failure.
def sameMillisecond : List Action :=
  sampleFailure ++ [.enter (.tick 0)] ++ List.replicate 6 (.answer 2) ++
    [.clock 1,.enter (.tick 1)] ++ List.replicate 6 (.answer 3)

theorem alerted_twice : ¬∀ caps start world, Lifetime caps InOrder start world → AlertedOnce start world := by
  intro claim
  have once := (claim sampleCaps _ _ (play_lived boots_first sameMillisecond)).most ['p']
  exact absurd once (by decide +kernel)

def millisecondLater : List Action :=
  sampleFailure ++ [.clock 1,.enter (.tick 1)] ++ List.replicate 6 (.answer 2) ++
    [.clock 2,.enter (.tick 2)] ++ List.replicate 5 (.answer 3)

theorem failures_alerted_once_sample : ∃ world, alerts (World.first 0 (-1)) world ['p'] = 1 ∧
    AlertedOnce (World.first 0 (-1)) world := by
  refine ⟨(World.first 0 (-1)).play sampleCaps Timely millisecondLater,?_,
    failures_alerted_once (play_lived boots_first millisecondLater)⟩
  decide +kernel

end Octora.Positions
