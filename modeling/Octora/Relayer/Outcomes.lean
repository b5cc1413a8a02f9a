import Octora.Relayer.Payments
import Octora.Relayer.EarlyRoots

namespace Octora.Relayer
open BigEndian BigIntText SolanaTx

variable {ι : Type}

-- The call hands the transaction to a node, and the node takes it.
def Sends (before : World ι) (action : Action ι) (caller : Nat) (tx : Tx WithdrawRequest) : Prop :=
  ∃ answer service request ix attempt, action = .rpc caller (.sent answer true) ∧
    before.calls caller = some ⟨service,request,.running (.submitting ix (.sendTransaction tx attempt))⟩

def Handed (trace : List (World ι × Action ι)) (caller : Nat) (tx : Tx WithdrawRequest) : Prop :=
  ∃ entry ∈ trace, Sends entry.1 entry.2 caller tx

-- The call was answered from the promise of the one it had joined.
def Joined (trace : List (World ι × Action ι)) (caller leader : Nat) : Prop :=
  ∃ before service request, (before,Action.join caller) ∈ trace ∧
    before.calls caller = some ⟨service,request,.joined leader⟩

def claimed : Settled → Option Text
  | .ok answer => if answer.success then answer.txSignature else none
  | .error _ => none

-- The one signature a call still counts on.
def counted (signature : Tx WithdrawRequest → Text) : Fiber → Option Text
  | .running (.submitting _ sending) => current signature sending
  | .running (.settled result) => claimed result
  | .returned result => claimed result
  | _ => none

-- A send or a confirmation that fails leaves nothing alive behind, and equal
-- signatures expire together.
structure Orderly (backend : Backend) (before : World ι) (action : Action ι) : Prop where
  sends : ∀ caller message service request ix tx attempt, action = .rpc caller (.sent (.error message) true) →
    before.calls caller = some ⟨service,request,.running (.submitting ix (.sendTransaction tx attempt))⟩ →
    Dead backend.signature (before.cluster.accept tx) tx
  confirms : ∀ caller message service request ix tx attempt, action = .rpc caller (.confirmed (.error message)) →
    before.calls caller = some ⟨service,request,.running (.submitting ix (.confirmTransaction tx attempt))⟩ →
    Dead backend.signature before.cluster tx
  dated : ∀ caller tx, Sends before action caller tx → ∀ held ∈ before.cluster.accepted,
    backend.signature held = backend.signature tx → held.lastValidBlockHeight = tx.lastValidBlockHeight

-- Whatever a call handed over is dead, unless the call counts on it.
structure Accounted (backend : Backend) (trace : List (World ι × Action ι)) (world : World ι) : Prop where
  owed : ∀ caller call tx, world.calls caller = some call → call.fiber ≠ .dropped → Handed trace caller tx →
    counted backend.signature call.fiber = some (backend.signature tx) ∨ Dead backend.signature world.cluster tx
  accepted : ∀ caller tx, Handed trace caller tx → tx ∈ world.cluster.accepted
  distinct : (world.cluster.outcomes.map Prod.fst).Nodup
  absent : ∀ caller tx, world.calls caller = none → ¬Handed trace caller tx
  following : ∀ caller service request leader tx, world.calls caller = some ⟨service,request,.joined leader⟩ →
    ¬Handed trace caller tx

-- A call that will hand over nothing more, and one that will not move at all.
def Fiber.closed : Fiber → Prop
  | .running (.settled _) => True
  | .returned _ => True
  | .dropped => True
  | _ => False

def Fiber.finished : Fiber → Prop
  | .returned _ => True
  | .dropped => True
  | _ => False

-- The same for the transactions of a joined promise.
structure Shared (backend : Backend) (trace : List (World ι × Action ι)) (world : World ι) : Prop where
  closed : ∀ caller leader, Joined trace caller leader → ∃ call, world.calls leader = some call ∧ call.fiber.closed
  finished : ∀ caller leader, Joined trace caller leader → ∃ call, world.calls caller = some call ∧ call.fiber.finished
  owed : ∀ caller leader service request result tx, Joined trace caller leader →
    world.calls caller = some ⟨service,request,.returned result⟩ → Handed trace leader tx →
    claimed result = some (backend.signature tx) ∨ Dead backend.signature world.cluster tx

theorem handed_append {before : World ι} {action : Action ι} : Handed (trace ++ [(before,action)]) caller tx ↔
    Handed trace caller tx ∨ Sends before action caller tx := by
  constructor
  · rintro ⟨entry,inside,sends⟩
    rcases List.mem_append.mp inside with old | new
    · exact .inl ⟨entry,old,sends⟩
    · rw [List.mem_singleton.mp new] at sends
      exact .inr sends
  · rintro (⟨entry,old,sends⟩ | sends)
    · exact ⟨entry,List.mem_append_left _ old,sends⟩
    · exact ⟨_,List.mem_append_right _ (List.mem_singleton_self _),sends⟩

theorem handed_later {trace : List (World ι × Action ι)} (handed : Handed trace caller tx)
    (later : List (World ι × Action ι)) : Handed (trace ++ later) caller tx := by
  obtain ⟨entry,inside,sends⟩ := handed
  exact ⟨entry,List.mem_append_left _ inside,sends⟩

theorem joined_append {before : World ι} {action : Action ι} (joined : Joined (trace ++ [(before,action)]) caller leader) :
    Joined trace caller leader ∨ (action = .join caller ∧ ∃ service request,
      before.calls caller = some ⟨service,request,.joined leader⟩) := by
  obtain ⟨earlier,service,request,inside,waiting⟩ := joined
  rcases List.mem_append.mp inside with old | new
  · exact .inl ⟨earlier,service,request,old,waiting⟩
  · cases List.mem_singleton.mp new
    exact .inr ⟨rfl,service,request,waiting⟩

-- Only a reply to a send or to a confirmation can be out of order.
theorem orderly_quiet {before : World ι} {action : Action ι} (quiet : ∀ caller, (∀ answer, action ≠ .rpc caller (.sent answer true)) ∧
    ∀ answer, action ≠ .rpc caller (.confirmed answer)) : Orderly backend before action := by
  refine ⟨?_,?_,?_⟩
  · exact fun caller _ _ _ _ _ _ named _ => absurd named ((quiet caller).1 _)
  · exact fun caller _ _ _ _ _ _ named _ => absurd named ((quiet caller).2 _)
  · rintro caller tx ⟨_,_,_,_,_,named,_⟩
    exact absurd named ((quiet caller).1 _)

-- An accepted transaction that is dead stays so, whatever is handed over next.
theorem dead_dated {cluster : Cluster WithdrawRequest} (dead : Dead signature cluster tx) (accepted : tx ∈ cluster.accepted)
    (dated : signature tx = signature other → tx.lastValidBlockHeight = other.lastValidBlockHeight) :
    Dead signature (cluster.accept other) tx := by
  refine ⟨dead.1,fun ⟨fresh,held,inside,same,valid⟩ => ?_⟩
  rcases List.mem_append.mp inside with old | new
  · exact dead.2 ⟨fresh,held,old,same,valid⟩
  · rw [List.mem_singleton.mp new] at same valid
    refine dead.2 ⟨fresh,tx,accepted,rfl,?_⟩
    rw [dated same.symm]
    exact valid

theorem rejected_dead {cluster : Cluster WithdrawRequest} (distinct : (cluster.outcomes.map Prod.fst).Nodup)
    (failed : (signature tx,false) ∈ cluster.outcomes) : Dead signature cluster tx := by
  refine ⟨fun succeeded => ?_,fun ⟨fresh,_⟩ => fresh _ failed rfl⟩
  have equal := List.inj_on_of_nodup_map distinct failed succeeded rfl
  cases equal

-- A guarded request's fee parses, so a signature makes an answer.
theorem succeed_answers (signature : Text) (guarded : guardRequest backend service request = none) :
    ∃ answer, succeed service request signature = .ok answer ∧ answer.success = true ∧ answer.txSignature = some signature := by
  have charged : ∃ fee, bigInt request.fee = some fee := by
    unfold guardRequest at guarded
    split at guarded
    · cases guarded
    · split at guarded
      · cases guarded
      · exact ⟨_,by assumption⟩
  obtain ⟨fee,read⟩ := charged
  unfold succeed
  rw [read]
  exact ⟨_,rfl,rfl,rfl⟩

theorem succeed_claims (guarded : guardRequest backend service request = none) :
    claimed (succeed service request signature) = some signature := by
  obtain ⟨answer,answered,success,named⟩ := succeed_answers signature guarded
  rw [answered,claimed,if_pos success,named]

variable {backend : Backend} {services : ι → RelayerService} {first before after : World ι}

theorem unlogged_accounted (unlogged : Unlogged first) : Accounted backend [] first := by
  have silent : ∀ {caller tx}, ¬Handed ([] : List (World ι × Action ι)) caller tx := by
    rintro caller tx ⟨_,inside,_⟩
    cases inside
  refine ⟨fun _ _ _ _ _ handed => (silent handed).elim,fun _ _ handed => (silent handed).elim,?_,
    fun _ _ _ => silent,fun _ _ _ _ _ _ => silent⟩
  rw [unlogged.outcomes]
  exact List.nodup_nil

-- A call that counts on a signature goes on to count on it, or finds it dead.
theorem advance_counted (accounted : Accounted backend trace before) (locked : Locked backend services before)
    (orderly : Orderly backend before action)
    (was : before.calls caller = some ⟨service,request,.running old⟩)
    (advance : Advance backend services before caller service request old action next)
    (counts : counted backend.signature (.running old) = some (backend.signature tx)) :
    counted backend.signature (.running next) = some (backend.signature tx) ∨ Dead backend.signature before.cluster tx := by
  cases advance with
  | @rpc ix stage reply resumed cluster step =>
    cases step with
    | confirmed _ =>
      refine .inl ?_
      rw [← counts]
      exact succeed_claims (locked.guarded _ _ _ _ was)
    | @rejected waited attempt err failed =>
      have same : backend.signature waited = backend.signature tx := Option.some.inj counts
      exact .inr ((dead_same same).mp (rejected_dead accounted.distinct failed))
    | @confirmFails waited attempt message =>
      have same : backend.signature waited = backend.signature tx := Option.some.inj counts
      exact .inr ((dead_same same).mp (orderly.confirms _ _ _ _ _ _ _ rfl was))
    | _ => cases counts
  | _ => cases counts

variable [DecidableEq ι]

-- What a step does to the cluster.
theorem step_cluster (step : Step backend services before action after) : after.cluster = before.cluster ∨
    ClusterStep backend.signature before.cluster after.cluster ∨
    ∃ caller tx, Sends before action caller tx ∧ after.cluster = before.cluster.accept tx := by
  cases step with
  | clock _ blocks => exact .inr (.inl (.clock blocks))
  | land _ accepted valid fresh _ => exact .inr (.inl (.execute accepted valid fresh _))
  | @enter caller service request _ =>
    refine .inl ?_
    unfold World.processWithdrawal
    split
    · rfl
    · split <;> rfl
  | rpc here step =>
    cases step with
    | sent => exact .inr (.inr ⟨_,_,⟨_,_,_,_,_,rfl,here⟩,rfl⟩)
    | sendFails reached =>
      cases reached with
      | false => exact .inl rfl
      | true => exact .inr (.inr ⟨_,_,⟨_,_,_,_,_,rfl,here⟩,rfl⟩)
    | _ => exact .inl rfl
  | _ => exact .inl rfl

theorem step_dead (orderly : Orderly backend before action) (step : Step backend services before action after)
    (accepted : tx ∈ before.cluster.accepted) (dead : Dead backend.signature before.cluster tx) :
    Dead backend.signature after.cluster tx := by
  rcases step_cluster step with same | moved | ⟨_,other,sends,grown⟩
  · rw [same]
    exact dead
  · exact dead_kept moved dead
  · rw [grown]
    exact dead_dated dead accepted (orderly.dated _ _ sends tx accepted)

theorem step_accepted (step : Step backend services before action after) (accepted : tx ∈ before.cluster.accepted) :
    tx ∈ after.cluster.accepted := by
  rcases step_cluster step with same | moved | ⟨_,_,_,grown⟩
  · rwa [same]
  · generalize after.cluster = cluster at moved
    cases moved <;> exact accepted
  · rw [grown]
    exact List.mem_append_left _ accepted

theorem step_distinct (distinct : (before.cluster.outcomes.map Prod.fst).Nodup)
    (step : Step backend services before action after) : (after.cluster.outcomes.map Prod.fst).Nodup := by
  rcases step_cluster step with same | moved | ⟨_,_,_,grown⟩
  · rwa [same]
  · generalize after.cluster = cluster at moved
    cases moved with
    | clock _ => exact distinct
    | execute _ _ fresh _ =>
      rw [List.map_append]
      refine List.nodup_append'.mpr ⟨distinct,List.nodup_singleton _,?_⟩
      intro name old new
      obtain ⟨outcome,here,same⟩ := List.mem_map.mp old
      exact fresh outcome here (same.trans (List.mem_singleton.mp new))
  · rw [grown]
    exact distinct

-- Where a call that handed something over stands after the step.
theorem step_sends (step : Step backend services before action after) (sends : Sends before action caller tx) :
    after.cluster = before.cluster.accept tx ∧ ∃ service request stage,
      after.calls caller = some ⟨service,request,.running stage⟩ ∧
      ((∃ ix attempt, stage = .submitting ix (.confirmTransaction tx attempt)) ∨
        ∃ message, action = .rpc caller (.sent (.error message) true)) := by
  obtain ⟨answer,service,request,ix,attempt,rfl,sending⟩ := sends
  cases step with
  | rpc here step =>
    rw [sending] at here
    cases here
    cases step with
    | sent => exact ⟨rfl,_,_,_,(move_calls _ _ _ _ _).trans (if_pos rfl),.inl ⟨ix,attempt,rfl⟩⟩
    | sendFails => exact ⟨rfl,_,_,_,(move_calls _ _ _ _ _).trans (if_pos rfl),.inr ⟨_,rfl⟩⟩

theorem step_owed (accounted : Accounted backend trace before) (locked : Locked backend services before)
    (orderly : Orderly backend before action)
    (step : Step backend services before action after) (here : after.calls caller = some call)
    (standing : call.fiber ≠ .dropped) (handed : Handed trace caller tx) :
    counted backend.signature call.fiber = some (backend.signature tx) ∨ Dead backend.signature after.cluster tx := by
  have accepted := accounted.accepted _ _ handed
  have stays : ∀ {old : Call ι}, before.calls caller = some old → old.fiber ≠ .dropped →
      counted backend.signature old.fiber = some (backend.signature tx) ∨ Dead backend.signature after.cluster tx :=
    fun was open_ => (accounted.owed _ _ _ was open_ handed).imp id (step_dead orderly step accepted)
  cases step_move step with
  | outside calls _ => exact stays (calls ▸ here) standing
  | shifts was shift calls _ =>
    rcases updated_call (calls ▸ here) with ⟨_,old⟩ | ⟨rfl,rfl⟩
    · exact stays old standing
    · cases shift with
      | refused _ _ => exact absurd handed (accounted.absent _ _ was)
      | joins _ _ _ => exact absurd handed (accounted.absent _ _ was)
      | leads _ => exact absurd handed (accounted.absent _ _ was)
      | advances advance =>
        rcases accounted.owed _ _ _ was nofun handed with counts | dead
        · exact (advance_counted accounted locked orderly was advance counts).imp id
            (step_dead orderly step accepted)
        · exact .inr (step_dead orderly step accepted dead)
      | settles _ =>
        have owed := accounted.owed _ _ _ was nofun handed
        exact owed.imp id (step_dead orderly step accepted)
      | resolves _ _ => exact absurd handed (accounted.following _ _ _ _ _ was)
  | restarts _ calls _ =>
    rw [calls] at here
    obtain ⟨old,was,became⟩ := Option.map_eq_some_iff.mp here
    rcases restarted_call became with dropped | ⟨rfl,_⟩
    · exact absurd dropped standing
    · exact stays was standing

theorem step_accounted (accounted : Accounted backend trace before) (locked : Locked backend services before)
    (orderly : Orderly backend before action) (step : Step backend services before action after) :
    Accounted backend (trace ++ [(before,action)]) after := by
  refine ⟨?_,?_,step_distinct accounted.distinct step,?_,?_⟩
  · intro caller call tx here standing handed
    rcases handed_append.mp handed with old | sends
    · exact step_owed accounted locked orderly step here standing old
    · obtain ⟨grown,_,_,_,stood,⟨_,_,rfl⟩ | ⟨message,failed⟩⟩ := step_sends step sends
      · rw [here] at stood
        cases stood
        exact .inl rfl
      · obtain ⟨answer,service,request,ix,attempt,_,sending⟩ := sends
        rw [grown]
        exact .inr (orderly.sends _ _ _ _ _ _ _ failed sending)
  · intro caller tx handed
    rcases handed_append.mp handed with old | sends
    · exact step_accepted step (accounted.accepted _ _ old)
    · rw [(step_sends step sends).1]
      exact List.mem_append_right _ (List.mem_singleton_self _)
  · intro caller tx nowhere handed
    rcases handed_append.mp handed with old | sends
    · refine accounted.absent caller tx ?_ old
      match was : before.calls caller with
      | none => rfl
      | some call =>
        obtain ⟨_,stood⟩ := step_standing step was
        rw [nowhere] at stood
        cases stood
    · obtain ⟨_,_,_,_,stood,_⟩ := step_sends step sends
      rw [nowhere] at stood
      cases stood
  · intro caller service request leader tx here handed
    rcases handed_append.mp handed with old | sends
    · cases step_move step with
      | outside calls _ => exact accounted.following _ _ _ _ _ (calls ▸ here) old
      | shifts was shift calls _ =>
        rcases updated_call (calls ▸ here) with ⟨_,stood⟩ | ⟨rfl,moved⟩
        · exact accounted.following _ _ _ _ _ stood old
        · cases moved
          cases shift with
          | joins _ _ _ => exact accounted.absent _ _ was old
      | restarts _ calls _ =>
        rw [calls] at here
        obtain ⟨call,was,became⟩ := Option.map_eq_some_iff.mp here
        rcases restarted_call became with dropped | ⟨rfl,_⟩
        · cases dropped
        · exact accounted.following _ _ _ _ _ was old
    · obtain ⟨_,_,_,_,stood,_⟩ := step_sends step sends
      rw [here] at stood
      cases stood

theorem run_accounted (idle : Idle first) (unlogged : Unlogged first) (run : Reached backend services first trace world)
    (orderly : ∀ entry ∈ trace, Orderly backend entry.1 entry.2) : Accounted backend trace world := by
  induction run with
  | nil => exact unlogged_accounted unlogged
  | step prior step ih =>
    rw [List.forall_mem_append,List.forall_mem_singleton] at orderly
    exact step_accounted (ih orderly.1) (run_locked idle prior) orderly.2 step

-- Who has finished does not move any more.
theorem step_finished (step : Step backend services before action after) (was : before.calls caller = some call)
    (finished : call.fiber.finished) : after.calls caller = some call := by
  cases step_move step with
  | outside calls _ => rw [calls,was]
  | @shifts mover service request old next lock stood shift calls _ =>
    by_cases same : caller = mover
    · subst same
      rw [was] at stood
      cases shift <;> cases stood <;> cases finished
    · rw [calls,Function.update_of_ne same,was]
  | restarts _ calls _ =>
    obtain ⟨service,request,fiber⟩ := call
    rw [calls]
    dsimp only
    rw [was]
    cases fiber with
    | running _ => cases finished
    | joined _ => cases finished
    | returned _ => rfl
    | dropped =>
      dsimp only [Option.map_some]
      split <;> rfl

theorem step_closed (step : Step backend services before action after) (was : before.calls caller = some call)
    (closed : call.fiber.closed) : ∃ next, after.calls caller = some next ∧ next.fiber.closed := by
  obtain ⟨service,request,fiber⟩ := call
  obtain ⟨next,stands⟩ := step_standing step was
  refine ⟨_,stands,?_⟩
  cases next with
  | running stage =>
    rcases step_running step stands with same | entered | ⟨old,stood,advance⟩
    · rw [was] at same
      cases same
      exact closed
    · rw [entered.fresh] at was
      cases was
    · rw [was] at stood
      cases stood
      cases advance <;> cases closed
  | joined leader =>
    cases step_move step with
    | outside calls _ =>
      rw [← calls,stands] at was
      cases was
      exact closed
    | shifts stood shift calls _ =>
      rcases updated_call (calls ▸ stands) with ⟨_,old⟩ | ⟨rfl,moved⟩
      · rw [was] at old
        cases old
        exact closed
      · cases moved
        cases shift with
        | joins _ _ _ =>
          rw [was] at stood
          cases stood
    | restarts _ calls _ =>
      rw [calls] at stands
      obtain ⟨call,stood,became⟩ := Option.map_eq_some_iff.mp stands
      rcases restarted_call became with dropped | ⟨rfl,_⟩
      · cases dropped
      · rw [was] at stood
        cases stood
        exact closed
  | returned _ => trivial
  | dropped => trivial

-- A join ends with the answer of the promise it waited for.
theorem step_join (step : Step backend services before (.join caller) after)
    (waiting : before.calls caller = some ⟨service,request,.joined leader⟩) : ∃ call result,
      before.calls leader = some call ∧ (call.fiber = .running (.settled result) ∨ call.fiber = .returned result) ∧
      after.calls caller = some ⟨service,request,.returned result⟩ := by
  cases step with
  | join here awaited resolved =>
    rw [waiting] at here
    cases here
    exact ⟨_,_,awaited,resolved,(move_calls _ _ _ _ _).trans (if_pos rfl)⟩

theorem resolved_closed {fiber : Fiber} (signature : Tx WithdrawRequest → Text)
    (resolved : fiber = .running (.settled result) ∨ fiber = .returned result) :
    fiber.closed ∧ fiber ≠ .dropped ∧ counted signature fiber = claimed result := by
  rcases resolved with rfl | rfl <;> exact ⟨trivial,nofun,rfl⟩

theorem step_shared (accounted : Accounted backend trace before) (shared : Shared backend trace before)
    (orderly : Orderly backend before action) (step : Step backend services before action after) :
    Shared backend (trace ++ [(before,action)]) after := by
  refine ⟨?_,?_,?_⟩
  · intro caller leader joined
    rcases joined_append joined with old | ⟨rfl,service,request,waiting⟩
    · obtain ⟨call,was,closed⟩ := shared.closed _ _ old
      exact step_closed step was closed
    · obtain ⟨call,result,awaited,resolved,_⟩ := step_join step waiting
      exact step_closed step awaited (resolved_closed backend.signature resolved).1
  · intro caller leader joined
    rcases joined_append joined with old | ⟨rfl,service,request,waiting⟩
    · obtain ⟨call,was,finished⟩ := shared.finished _ _ old
      exact ⟨call,step_finished step was finished,finished⟩
    · obtain ⟨_,_,_,_,stands⟩ := step_join step waiting
      exact ⟨_,stands,trivial⟩
  · intro caller leader service request result tx joined here handed
    rcases joined_append joined with old | ⟨rfl,service',request',waiting⟩
    · obtain ⟨call,was,finished⟩ := shared.finished _ _ old
      have same := step_finished step was finished
      rw [here] at same
      cases same
      rcases handed_append.mp handed with earlier | sends
      · exact (shared.owed _ _ _ _ _ _ old was earlier).imp id
          (step_dead orderly step (accounted.accepted _ _ earlier))
      · obtain ⟨leading,stood,closed⟩ := shared.closed _ _ old
        obtain ⟨_,_,_,_,_,_,sending⟩ := sends
        rw [stood] at sending
        cases sending
        cases closed
    · obtain ⟨call,settled,awaited,resolved,stands⟩ := step_join step waiting
      rw [here] at stands
      cases stands
      rcases handed_append.mp handed with earlier | sends
      · obtain ⟨_,open_,counts⟩ := resolved_closed backend.signature resolved
        have owed := accounted.owed _ _ _ awaited open_ earlier
        rw [counts] at owed
        exact owed.imp id (step_dead orderly step (accounted.accepted _ _ earlier))
      · obtain ⟨_,_,_,_,_,named,_⟩ := sends
        cases named

theorem run_shared (idle : Idle first) (unlogged : Unlogged first) (run : Reached backend services first trace world)
    (orderly : ∀ entry ∈ trace, Orderly backend entry.1 entry.2) : Shared backend trace world := by
  induction run with
  | nil =>
    have nobody : ∀ {caller leader}, ¬Joined ([] : List (World ι × Action ι)) caller leader := by
      rintro caller leader ⟨_,_,_,inside,_⟩
      cases inside
    exact ⟨fun _ _ joined => (nobody joined).elim,fun _ _ joined => (nobody joined).elim,
      fun _ _ _ _ _ _ joined => (nobody joined).elim⟩
  | step prior step ih =>
    rw [List.forall_mem_append,List.forall_mem_singleton] at orderly
    exact step_shared (run_accounted idle unlogged prior orderly.1) (ih orderly.1) orderly.2 step

-- Where sends and confirmations fail cleanly, an answer that is no success leaves
-- no transaction behind that has executed or still can, neither of the caller's
-- own call nor of the one it joined.
theorem failure_dead (backend : Backend) (services : ι → RelayerService) (first world : World ι)
    (trace : List (World ι × Action ι)) (idle : Idle first) (unlogged : Unlogged first)
    (run : Reached backend services first trace world) (orderly : ∀ entry ∈ trace, Orderly backend entry.1 entry.2) :
    ∀ caller service request result, world.calls caller = some ⟨service,request,.returned result⟩ →
      (∀ answer, result = .ok answer → answer.success = false) →
      ∀ leader, leader = caller ∨ Joined trace caller leader →
      ∀ tx, Handed trace leader tx → Dead backend.signature world.cluster tx := by
  intro caller service request result here failed leader shares tx handed
  have none_ : claimed result = none := by
    match result with
    | .error _ => rfl
    | .ok answer => rw [claimed,failed answer rfl]; rfl
  have owed : claimed result = some (backend.signature tx) ∨ Dead backend.signature world.cluster tx := by
    rcases shares with rfl | joined
    · exact (run_accounted idle unlogged run orderly).owed _ _ _ here nofun handed
    · exact (run_shared idle unlogged run orderly).owed _ _ _ _ _ _ joined here handed
  rcases owed with claims | dead
  · rw [none_] at claims
    cases claims
  · exact dead

theorem leads_pool {world : World ι} (caller : Nat) (service : ι) (request : Request)
    (read : Truthful world.ledger (services service).mixerPoolPDA answer) :
    Step backend services (world.leads caller service request .getPool) (.pool caller answer)
      (world.leads caller service request (afterPool backend (services service) request answer)) := by
  have answered : Step backend services _ (.pool caller answer) _ := .pool (leads_call world caller service request .getPool) read
  rwa [leads_move] at answered

theorem leads_rpc {world : World ι} (caller : Nat) (service : ι) (request : Request)
    (step : SubmitStep backend.signature ix DEFAULT_MAX_ATTEMPTS world.cluster sending reply next cluster) :
    Step backend services (world.leads caller service request (.submitting ix sending)) (.rpc caller reply)
      ({ world.spentBy service request next with cluster := cluster }.leads caller service request
        (afterSubmit (services service) request ix next)) := by
  have answered : Step backend services _ (.rpc caller reply) _ :=
    .rpc (leads_call world caller service request (.submitting ix sending)) step
  unfold World.spentBy at answered ⊢
  split <;> simpa only [World.leads,World.move,World.markSpent,Function.update_idem] using answered

def sampleSend : Tx WithdrawRequest := ⟨sampleWithdrawal,400000,1000,[],150⟩

theorem sampleRequest_built : withdrawIx signingBackend (sampleServices false ()) sampleRelayer sampleRequest =
    some sampleWithdrawal := by
  have proof : convertProofToBytes sampleRequest.proof = some (List.replicate 256 0) := by decide +kernel
  have inputs : convertPublicInputsToBytes sampleRequest.publicSignals = some (packedInputs sampleValues).toList :=
    convertPublicInputs_exact sampleValues (by decide)
  have key : signingBackend.publicKey sampleRequest.recipient = some sampleRecipient := by decide
  have same : packedInputs sampleValues = sampleWithdrawal.inputs := by
    apply List.Vector.eq
    decide +kernel
  have account : sampleNullifierKey = sampleNullifierAccount := by decide
  have address : nullifierPDA signingBackend (sampleServices false ()) sampleRequest.nullifierHash = some sampleNullifierKey :=
    sampleRequest_address _ rfl sampleRequest_number
  have one : sized PROOF_SIZE (List.replicate 256 0) = some sampleWithdrawal.proofData := by
    have packed : sized PROOF_SIZE sampleWithdrawal.proofData.toList = some sampleWithdrawal.proofData :=
      dif_pos sampleWithdrawal.proofData.2
    exact packed
  have two : sized PUBLIC_INPUTS_SIZE (packedInputs sampleValues).toList = some sampleWithdrawal.inputs := by
    rw [same]
    exact dif_pos sampleWithdrawal.inputs.2
  unfold withdrawIx
  rw [proof,inputs,address,key]
  simp only [Option.bind_eq_bind,Option.bind_some,one,two,account]
  rfl

theorem sampleRequest_pooled : afterPool signingBackend (sampleServices false ()) sampleRequest (.ok true) =
    .submitting sampleWithdrawal (.getLatestBlockhash 1) := by
  have client : (sampleServices false ()).client = some sampleRelayer := rfl
  rw [afterPool,client,Option.bind_some,sampleRequest_built]
  rfl

-- The sample deposit has landed; nothing has been withdrawn.
def fundedWorld (start : Ledger) : World Unit := sampleWorld (submit sampleRuntime 0 start sampleDeposit).1 0

def sentWorld (start : Ledger) : World Unit := { fundedWorld start with cluster := ⟨0,[sampleSend],[]⟩ }

def waiting (start : Ledger) : World Unit :=
  (sentWorld start).leads 0 () sampleRequest (.submitting sampleWithdrawal (.confirmTransaction sampleSend 1))

-- The request has been vetted and its transaction is with the node.
theorem sample_sent (made : execute sampleRuntime 0 sampleGenesis
    (.initializePool ADMIN_AUTHORITY samplePool sampleDenomination) = .ok (start,[])) :
    ∃ trace, Reached signingBackend (sampleServices false) (fundedWorld start) trace (waiting start) ∧
      Handed trace 0 sampleSend ∧ ∀ entry ∈ trace, Orderly signingBackend entry.1 entry.2 ∧
        Joining signingBackend (sampleServices false) (payee signingBackend) entry.1 entry.2 := by
  have vetted := sample_vetted false (fundedWorld start) 0 (bigInt_decimal (sampleValues 1)) rfl rfl List.not_mem_nil
    (EarlyRoots.sample_unspent made (sampleWorld sampleGenesis 0))
  obtain ⟨_,pool,loaded,_⟩ := sample_lands made
  have found : accountExists (fundedWorld start).ledger samplePool = true := by
    refine accountExists_owned ?_
    show ((submit sampleRuntime 0 start sampleDeposit).1 samplePool).data.mixerOwned = true
    rw [loaded]
    rfl
  have read : Truthful (fundedWorld start).ledger (sampleServices false ()).mixerPoolPDA (.ok true) := by
    intro answer named
    cases named
    exact found.symm
  have pooled : Step signingBackend (sampleServices false) _ _ _ := leads_pool 0 () sampleRequest read
  rw [sampleRequest_pooled] at pooled
  have begun : SubmitStep signingBackend.signature sampleWithdrawal DEFAULT_MAX_ATTEMPTS (fundedWorld start).cluster
      (.getLatestBlockhash 1) (.blockhash (.ok sampleSend)) (.sendTransaction sampleSend 1) (fundedWorld start).cluster :=
    .blockhash rfl
  have built : Step signingBackend (sampleServices false)
      ((fundedWorld start).leads 0 () sampleRequest (.submitting sampleWithdrawal (.getLatestBlockhash 1)))
      (.rpc 0 (.blockhash (.ok sampleSend)))
      ((fundedWorld start).leads 0 () sampleRequest (.submitting sampleWithdrawal (.sendTransaction sampleSend 1))) :=
    leads_rpc 0 () sampleRequest begun
  have taken : SubmitStep signingBackend.signature sampleWithdrawal DEFAULT_MAX_ATTEMPTS (fundedWorld start).cluster
      (.sendTransaction sampleSend 1) (.sent (.ok ()) true) (.confirmTransaction sampleSend 1) (sentWorld start).cluster :=
    .sent
  have sent : Step signingBackend (sampleServices false)
      ((fundedWorld start).leads 0 () sampleRequest (.submitting sampleWithdrawal (.sendTransaction sampleSend 1)))
      (.rpc 0 (.sent (.ok ()) true))
      ((sentWorld start).leads 0 () sampleRequest (.submitting sampleWithdrawal (.confirmTransaction sampleSend 1))) :=
    leads_rpc 0 () sampleRequest taken
  have sends : Sends ((fundedWorld start).leads 0 () sampleRequest
      (.submitting sampleWithdrawal (.sendTransaction sampleSend 1))) (.rpc 0 (.sent (.ok ()) true)) 0 sampleSend :=
    ⟨_,_,_,_,_,rfl,leads_call _ 0 () sampleRequest _⟩
  refine ⟨_,.step (.step (.step vetted pooled) built) sent,handed_append.mpr (.inr sends),?_⟩
  simp only [List.forall_mem_append,List.forall_mem_cons]
  have entered : Joining signingBackend (sampleServices false) (payee signingBackend) (fundedWorld start)
      (.enter 0 () sampleRequest) := by
    intro _ _ _ _ _ _ _ _ nobody
    cases nobody
  have handing : Orderly signingBackend ((fundedWorld start).leads 0 () sampleRequest
      (.submitting sampleWithdrawal (.sendTransaction sampleSend 1))) (.rpc 0 (.sent (.ok ()) true)) := ⟨nofun,nofun,nofun⟩
  exact ⟨⟨⟨⟨⟨orderly_quiet fun _ => ⟨nofun,nofun⟩,entered⟩,⟨orderly_quiet fun _ => ⟨nofun,nofun⟩,nofun⟩,nofun⟩,⟨orderly_quiet fun _ => ⟨nofun,nofun⟩,nofun⟩,nofun⟩,
    ⟨orderly_quiet fun _ => ⟨nofun,nofun⟩,nofun⟩,nofun⟩,⟨handing,nofun⟩,nofun⟩

def sampleSignature : Text := signingBackend.signature sampleSend

def paidWorld (start : Ledger) : World Unit :=
  { fundedWorld start with
    ledger := (submit sampleRuntime 0 (fundedWorld start).ledger sampleWithdraw).1
    cluster := ⟨0,[sampleSend],[(sampleSignature,true)]⟩
    log := [⟨0,sampleSignature,.submitted (fundedWorld start).ledger sampleWithdraw
      (.ok [.withdraw ⟨sampleNullifierHash,sampleRecipient,sampleRelayer,1000000,0⟩]),
      (submit sampleRuntime 0 (fundedWorld start).ledger sampleWithdraw).1⟩] }

theorem sampleService_derived : (sampleServices false ()).Derived signingBackend.runtime sampleDenomination := by
  refine ⟨by decide,by decide,?_⟩
  intro other bump derives
  have parts : (if (sampleAddress (.mixerPool other)).2 = bump then some (sampleAddress (.mixerPool other)).1 else none) =
      some samplePool := derives
  split at parts
  · have address := Option.some.inj parts
    unfold sampleAddress at address
    dsimp only at address
    split at address
    · assumption
    · exact absurd address (by decide)
  · cases parts

theorem fundedWorld_idle (start : Ledger) : Idle (fundedWorld start) := ⟨fun _ => rfl,fun _ _ => rfl⟩

theorem fundedWorld_unlogged (start : Ledger) : Unlogged (fundedWorld start) := ⟨rfl,rfl⟩

-- The withdrawal lands, is confirmed, and the call returns its signature.
theorem success_paid_sample : ∃ first trace world answer, Reached signingBackend (sampleServices false) first trace world ∧
    world.calls 0 = some ⟨(),sampleRequest,.returned (.ok answer)⟩ ∧ answer.success = true ∧ Handed trace 0 sampleSend ∧
    PaidOnce signingBackend (sampleServices false ()) world.log sampleDenomination.toNat sampleRequest answer := by
  obtain ⟨start,made⟩ := sample_created
  obtain ⟨trace,sent,handed,calm⟩ := sample_sent made
  have ran : submit signingBackend.runtime 0 (waiting start).ledger (instructionOf sampleSend) =
      ((submit sampleRuntime 0 (fundedWorld start).ledger sampleWithdraw).1,
        .ok [.withdraw ⟨sampleNullifierHash,sampleRecipient,sampleRelayer,1000000,0⟩]) := Prod.ext rfl (sample_pays made)
  have accepted : sampleSend ∈ (waiting start).cluster.accepted := List.mem_cons_self
  have unseen : ∀ outcome ∈ (waiting start).cluster.outcomes, outcome.1 ≠ signingBackend.signature sampleSend := by
    intro outcome here
    cases here
  have landed : Step signingBackend (sampleServices false) (waiting start) (.land sampleSend)
      ((paidWorld start).leads 0 () sampleRequest (.submitting sampleWithdrawal (.confirmTransaction sampleSend 1))) :=
    .land 0 accepted (Nat.zero_le 150) unseen ran
  have executed : SubmitStep signingBackend.signature sampleWithdrawal DEFAULT_MAX_ATTEMPTS (paidWorld start).cluster
      (.confirmTransaction sampleSend 1) (.confirmed (.ok none)) (.done (.ok sampleSignature)) (paidWorld start).cluster :=
    .confirmed List.mem_cons_self
  have confirmed : Step signingBackend (sampleServices false) _ (.rpc 0 (.confirmed (.ok none))) _ :=
    leads_rpc 0 () sampleRequest executed
  have guarded : guardRequest signingBackend (sampleServices false ()) sampleRequest = none := sampleRequest_guarded _
  obtain ⟨answer,answered,success,_⟩ := succeed_answers sampleSignature guarded
  have ended : afterSubmit (sampleServices false ()) sampleRequest sampleWithdrawal (.done (.ok sampleSignature)) =
      .settled (.ok answer) := congrArg Stage.settled answered
  rw [ended] at confirmed
  have settled : Step signingBackend (sampleServices false) _ (.settle 0) _ :=
    .settle (leads_call ((paidWorld start).spentBy () sampleRequest (.done (.ok sampleSignature))) 0 () sampleRequest
      (.settled (.ok answer)))
  have run := ((sent.step landed).step confirmed).step settled
  have here := (move_calls ((((paidWorld start).spentBy () sampleRequest (.done (.ok sampleSignature))).leads 0 ()
    sampleRequest (.settled (.ok answer)))) 0 0 ⟨(),sampleRequest,.dropped⟩ (.returned (.ok answer))).trans (if_pos rfl)
  refine ⟨_,_,_,answer,run,here,success,?_,?_⟩
  · exact handed_later (handed_later (handed_later handed _) _) _
  · refine success_paid _ _ signingBackend_signed _ _ _ (fundedWorld_idle start) (fundedWorld_unlogged start) run ?_
      0 () sampleRequest answer sampleDenomination here success sampleService_derived
    simp only [List.forall_mem_append,List.forall_mem_singleton]
    exact ⟨⟨⟨fun entry inside => (calm entry inside).2,nofun⟩,nofun⟩,nofun⟩

-- The blockhash expires before the withdrawal lands, and the call returns the failure.
theorem failure_dead_sample : ∃ first trace world answer, Reached signingBackend (sampleServices false) first trace world ∧
    world.calls 0 = some ⟨(),sampleRequest,.returned (.ok answer)⟩ ∧ answer.success = false ∧ Handed trace 0 sampleSend ∧
    Dead signingBackend.signature world.cluster sampleSend := by
  obtain ⟨start,made⟩ := sample_created
  obtain ⟨trace,sent,handed,calm⟩ := sample_sent made
  let late : World Unit := { sentWorld start with cluster := ⟨151,[sampleSend],[]⟩ }
  have passes : Step signingBackend (sampleServices false) (waiting start) (.clock 0 151)
      (late.leads 0 () sampleRequest (.submitting sampleWithdrawal (.confirmTransaction sampleSend 1))) :=
    .clock (Int.le_refl 0) (Nat.zero_le 151)
  have fails : SubmitStep signingBackend.signature sampleWithdrawal DEFAULT_MAX_ATTEMPTS late.cluster
      (.confirmTransaction sampleSend 1) (.confirmed (.error [])) (attemptFailed DEFAULT_MAX_ATTEMPTS 1 []) late.cluster :=
    .confirmFails
  have gives : (attemptFailed DEFAULT_MAX_ATTEMPTS 1 [] : Submit WithdrawRequest) = .done (.error []) := by
    rw [attemptFailed,if_pos (by decide)]
  rw [gives] at fails
  have failed : Step signingBackend (sampleServices false)
      (late.leads 0 () sampleRequest (.submitting sampleWithdrawal (.confirmTransaction sampleSend 1)))
      (.rpc 0 (.confirmed (.error [])))
      (late.leads 0 () sampleRequest
        (.settled (.ok (failure sampleRequest (.submissionFailed (.message [])))))) := leads_rpc 0 () sampleRequest fails
  have settled : Step signingBackend (sampleServices false) _ (.settle 0) _ := .settle (leads_call late 0 () sampleRequest
    (.settled (.ok (failure sampleRequest (.submissionFailed (.message []))))))
  have run := ((sent.step passes).step failed).step settled
  have here := (move_calls (late.leads 0 () sampleRequest (.settled (.ok (failure sampleRequest
    (.submissionFailed (.message [])))))) 0 0 ⟨(),sampleRequest,.dropped⟩ (.returned (.ok (failure sampleRequest
      (.submissionFailed (.message [])))))).trans (if_pos rfl)
  have expired : Dead signingBackend.signature late.cluster sampleSend := by
    refine ⟨List.not_mem_nil,?_⟩
    intro may
    obtain ⟨_,held,inside,_,valid⟩ := may
    rw [List.mem_singleton.mp inside] at valid
    have fits : 151 ≤ 150 := valid
    exact absurd fits (by decide)
  have sends := fun one two three => handed_later (handed_later (handed_later handed one) two) three
  refine ⟨_,_,_,_,run,here,rfl,sends _ _ _,failure_dead _ _ _ _ _ (fundedWorld_idle start) (fundedWorld_unlogged start)
    run ?_ 0 () sampleRequest _ here ?_ 0 (.inl rfl) sampleSend (sends _ _ _)⟩
  · simp only [List.forall_mem_append,List.forall_mem_singleton]
    refine ⟨⟨⟨fun entry inside => (calm entry inside).1,orderly_quiet fun _ => ⟨by simp,by simp⟩⟩,?_⟩,
      orderly_quiet fun _ => ⟨by simp,by simp⟩⟩
    refine ⟨?_,?_,?_⟩
    · intro caller message service request ix tx attempt named
      cases named
    · intro caller message service request ix tx attempt named standing
      cases named
      rw [leads_call] at standing
      cases standing
      exact expired
    · rintro caller tx ⟨_,_,_,_,_,named,_⟩
      cases named
  · intro answer same
    cases same
    rfl

end Octora.Relayer
