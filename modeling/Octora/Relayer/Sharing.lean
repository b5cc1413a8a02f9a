import Octora.Relayer.InFlight
import Octora.Relayer.Lone
import Octora.Relayer.PrivacyGate

namespace Octora.Relayer.Joiners
open BigEndian BigIntText SolanaTx

variable {ι : Type}

-- How far a submission can have come.
inductive Course (signature : Tx α → Text) (instructions : α) : Submit α → Prop where
  | begins : Course signature instructions (.getLatestBlockhash 1)
  | goes (prior : Course signature instructions sending)
      (step : SubmitStep signature instructions DEFAULT_MAX_ATTEMPTS cluster sending reply next grown) :
      Course signature instructions next

-- Short of a confirmed transaction, what one cluster answers another one may answer.
theorem submitStep_anywhere {instructions : α} (step : SubmitStep signature instructions maxAttempts cluster sending reply next grown)
    (open_ : ∀ result, next ≠ .done result) (elsewhere : Cluster α) :
    ∃ reply grown, SubmitStep signature instructions maxAttempts elsewhere sending reply next grown := by
  cases step with
  | blockhash built => exact ⟨_,_,.blockhash built⟩
  | blockhashFails => exact ⟨_,_,.blockhashFails⟩
  | sent => exact ⟨_,_,.sent⟩
  | sendFails reached => exact ⟨_,_,.sendFails reached⟩
  | confirmed _ => exact absurd rfl (open_ _)
  | rejected _ => exact ⟨_,_,.confirmFails⟩
  | confirmFails => exact ⟨_,_,.confirmFails⟩

theorem afterSubmit_open (open_ : ∀ result, sending ≠ .done result) :
    afterSubmit service request ix sending = .submitting ix sending := by
  cases sending with
  | done result => exact absurd rfl (open_ result)
  | _ => rfl

-- Past the registry's cache and before their end, calls ask the chain; to submit
-- takes the client, and a submission has come as far as the RPC node let it.
structure Asking (backend : Backend) (services : ι → RelayerService) (world : World ι) : Prop where
  uncached : ∀ caller service request stage, world.calls caller = some ⟨service,request,.running stage⟩ →
    stage.phase ≠ .ended → request.nullifierHash ∉ world.cache service
  address : ∀ caller service request stage, world.calls caller = some ⟨service,request,.running stage⟩ →
    stage.phase ≠ .ended → (nullifierPDA backend (services service) request.nullifierHash).isSome
  client : ∀ caller service request stage, world.calls caller = some ⟨service,request,.running stage⟩ →
    stage.phase = .submission → (services service).client.isSome
  course : ∀ caller service request ix sending,
    world.calls caller = some ⟨service,request,.running (.submitting ix sending)⟩ → Course backend.signature ix sending

section Asking
variable {backend : Backend} {services : ι → RelayerService} {before after : World ι}

theorem afterDelay_client {service : RelayerService} (phase : (afterDelay backend service request delay).phase = .submission) :
    service.client.isSome := by
  unfold afterDelay at phase
  split at phase
  · cases phase
  · split at phase
    · cases phase
    · cases phase
    · split at phase
      · assumption
      · cases phase

theorem afterSpent_client {service : RelayerService} (phase : (afterSpent backend service request answer).phase = .submission) :
    service.client.isSome := by
  unfold afterSpent at phase
  split at phase
  · cases phase
  · cases phase
  · split at phase
    · cases phase
    · split at phase
      · cases phase
      · exact afterDelay_client phase

theorem begin_asks (asks : (begin backend services before service request).phase ≠ .ended) :
    begin backend services before service request = .isSpent ∧ request.nullifierHash ∉ before.cache service ∧
      (nullifierPDA backend (services service) request.nullifierHash).isSome := by
  unfold begin at asks ⊢
  split at asks
  · exact absurd rfl asks
  · rename_i uncached
    split at asks
    · rename_i address
      rw [if_neg uncached,if_pos address]
      exact ⟨rfl,uncached,address⟩
    · exact absurd rfl asks

theorem idle_asking (idle : Idle first) : Asking backend services first := by
  have nowhere : ∀ {caller call}, first.calls caller = some call → False := by
    intro caller call here
    rw [idle.calls caller] at here
    cases here
  refine ⟨?_,?_,?_,?_⟩
  · intro _ _ _ _ here
    exact (nowhere here).elim
  · intro _ _ _ _ here
    exact (nowhere here).elim
  · intro _ _ _ _ here
    exact (nowhere here).elim
  · intro _ _ _ _ _ here
    exact (nowhere here).elim

variable [DecidableEq ι]

theorem process_cache (world : World ι) (caller : Nat) (service : ι) (request : Request) :
    (world.processWithdrawal backend services caller service request).cache = world.cache := by
  unfold World.processWithdrawal
  split
  · rfl
  · split <;> rfl

theorem markSpent_cache {world : World ι} (cached : text ∈ (world.markSpent marked nullifierHash).cache service) :
    text ∈ world.cache service ∨ (service = marked ∧ text = nullifierHash) := by
  simp only [World.markSpent,Function.update_apply] at cached
  split at cached
  · rename_i same
    subst same
    rcases List.mem_cons.mp cached with new | old
    · exact .inr ⟨rfl,new⟩
    · exact .inl old
  · exact .inl cached

-- The registry remembers a text when the call that holds its lock ends.
theorem step_cache (step : Step backend services before action after) (cached : text ∈ after.cache service) :
    text ∈ before.cache service ∨ ∃ caller request old result,
      before.calls caller = some ⟨service,request,.running old⟩ ∧ request.nullifierHash = text ∧
      after.calls caller = some ⟨service,request,.running (.settled result)⟩ := by
  cases step with
  | enter _ =>
    rw [process_cache] at cached
    exact .inl cached
  | @spentFound caller asked request key was _ _ =>
    rcases markSpent_cache cached with old | ⟨rfl,rfl⟩
    · exact .inl old
    · exact .inr ⟨caller,request,_,_,was,rfl,by rw [move_calls,if_pos rfl]; rfl⟩
  | @rpc caller asked request ix sending reply next cluster was step =>
    match next with
    | .done (.ok txSignature) =>
      rcases markSpent_cache cached with old | ⟨rfl,rfl⟩
      · exact .inl old
      · exact .inr ⟨caller,request,_,_,was,rfl,by rw [move_calls,if_pos rfl]; rfl⟩
    | .done (.error _) => exact .inl cached
    | .getLatestBlockhash _ => exact .inl cached
    | .sendTransaction _ _ => exact .inl cached
    | .confirmTransaction _ _ => exact .inl cached
  | @restart restarted =>
    by_cases same : service = restarted
    · subst same
      dsimp only at cached
      rw [Function.update_self] at cached
      cases cached
    · dsimp only at cached
      rw [Function.update_of_ne same] at cached
      exact .inl cached
  | _ => exact .inl cached

theorem step_uncached (asking : Asking backend services before) (locked : Locked backend services before)
    (step : Step backend services before action after)
    (here : after.calls caller = some ⟨service,request,.running stage⟩) (open_ : stage.phase ≠ .ended) :
    request.nullifierHash ∉ after.cache service := by
  intro cached
  rcases step_cache step cached with old | ⟨mover,moved,stood,result,was,same,ended⟩
  · rcases InFlight.step_open step here with ⟨_,was,kept⟩ | entered
    · exact asking.uncached _ _ _ _ was (kept open_) old
    · rw [entered.begun] at open_
      exact (begin_asks open_).2.1 old
  · have holds := locked.held _ _ _ _ was
    rcases InFlight.step_open step here with ⟨_,own,_⟩ | entered
    · have other := locked.held _ _ _ _ own
      rw [← same,holds] at other
      cases other
      rw [ended] at here
      cases here
      exact open_ rfl
    · have free := entered.free
      rw [← same,holds] at free
      cases free

theorem step_asking (asking : Asking backend services before) (locked : Locked backend services before)
    (step : Step backend services before action after) : Asking backend services after := by
  refine ⟨fun _ _ _ _ here open_ => step_uncached asking locked step here open_,?_,?_,?_⟩
  · intro caller service request stage here open_
    rcases InFlight.step_open step here with ⟨_,was,kept⟩ | entered
    · exact asking.address _ _ _ _ was (kept open_)
    · rw [entered.begun] at open_
      exact (begin_asks open_).2.2
  · intro caller service request stage here phase
    rcases step_running step here with was | entered | ⟨old,was,advance⟩
    · exact asking.client _ _ _ _ was phase
    · rcases entered_phase entered with other | other <;> rw [phase] at other <;> cases other
    · cases advance with
      | spentFound _ _ => cases phase
      | spentAbsent _ _ => exact afterSpent_client phase
      | spentFails => cases phase
      | @slotRead answer => cases answer <;> cases phase
      | observed _ => exact afterDelay_client phase
      | observeFails _ => cases phase
      | pool _ => exact asking.client _ _ _ _ was rfl
      | rpc _ => exact asking.client _ _ _ _ was rfl
      | diagnosed => exact asking.client _ _ _ _ was rfl
  · intro caller service request ix sending here
    rcases step_running step here with was | entered | ⟨old,was,advance⟩
    · exact asking.course _ _ _ _ _ was
    · rcases entered_phase entered with other | other <;> cases other
    · generalize named : Stage.submitting ix sending = stage at advance
      cases advance with
      | spentFound _ _ => cases named
      | spentAbsent _ _ => exact absurd named.symm (afterSpent_sent _)
      | spentFails => cases named
      | @slotRead answer => cases answer <;> cases named
      | observed _ => exact absurd named.symm (afterDelay_sent _)
      | observeFails _ => cases named
      | pool _ =>
        obtain ⟨_,rfl⟩ := afterPool_sent named.symm
        exact .begins
      | rpc step =>
        obtain ⟨rfl,rfl,_⟩ := afterSubmit_sent named.symm
        exact .goes (asking.course _ _ _ _ _ was) step
      | diagnosed => cases named

theorem run_asking (idle : Idle first) (run : Reached backend services first trace world) :
    Asking backend services world := by
  induction run with
  | nil => exact idle_asking idle
  | step prior step ih => exact step_asking ih (run_locked idle prior) step

end Asking

-- The two requests get the same answers from everything a call works out itself.
structure Alike (backend : Backend) (service : RelayerService) (request led : Request) : Prop where
  recipient : led.recipient = request.recipient
  fee : led.fee = request.fee
  parity : checkPublicSignalsParity backend.runtime.poseidon backend.publicKey led =
    checkPublicSignalsParity backend.runtime.poseidon backend.publicKey request
  proof : checkPublicSignalsParity backend.runtime.poseidon backend.publicKey request = .ok () →
    backend.verifyWithdrawProof led.proof led.publicSignals = backend.verifyWithdrawProof request.proof request.publicSignals
  instruction : Admissible backend request → ∀ hotWallet ∈ service.client,
    withdrawIx backend service hotWallet led = withdrawIx backend service hotWallet request

-- The chain has no account for the nullifier.
def Unspent (backend : Backend) (service : RelayerService) (world : World ι) (request : Request) : Prop :=
  ∀ key, nullifierPDA backend service request.nullifierHash = some key → accountExists world.ledger key = false

-- The gate would let the request pass now.
def Passes (service : RelayerService) (world : World ι) (request : Request) : Prop :=
  service.gated → delayAt service world.slot ((firstSeenSlot world.rows request.root).getD world.slot) = .ok

-- What the call under way has been told so far, the request would be told now;
-- and what it has still to ask of the table, it asks for the request's root.
def Current (backend : Backend) (service : RelayerService) (world : World ι) (request led : Request) : Stage → Prop
  | .isSpent => service.gated →
      checkPublicSignalsParity backend.runtime.poseidon backend.publicKey request = .ok () → led.root = request.root
  | .getSlot => Unspent backend service world request ∧ led.root = request.root
  | .observe currentSlot =>
    Unspent backend service world request ∧ led.root = request.root ∧ currentSlot = world.slot
  | .getPool => Unspent backend service world request ∧ Passes service world request
  | .submitting _ _ => Unspent backend service world request ∧ Passes service world request ∧
      accountExists world.ledger service.mixerPoolPDA = true
  | _ => False

-- Until the gate has answered, the two ask for one root.
def Rooted (backend : Backend) (service : RelayerService) (request led : Request) : Stage → Prop
  | .isSpent => service.gated →
      checkPublicSignalsParity backend.runtime.poseidon backend.publicKey request = .ok () → led.root = request.root
  | .getSlot => led.root = request.root
  | .observe _ => led.root = request.root
  | _ => True

section Sharing
variable {backend : Backend} {service : RelayerService} {request led : Request}

theorem current_rooted (current : Current backend service world request led stage) :
    Rooted backend service request led stage := by
  cases stage with
  | isSpent => exact current
  | getSlot => exact current.2
  | observe _ => exact current.2.1
  | _ => trivial

theorem rooted_late (late : stage.phase = .submission ∨ stage.phase = .ended) :
    Rooted backend service request led stage := by
  cases stage with
  | getPool => trivial
  | submitting _ _ => trivial
  | diagnose _ => trivial
  | settled _ => trivial
  | _ => rcases late with phase | phase <;> cases phase

theorem afterSpent_rooted (rooted : Rooted backend service request led .isSpent) (answer : Except Thrown Bool) :
    Rooted backend service request led (afterSpent backend service request answer) := by
  unfold afterSpent
  split
  · trivial
  · trivial
  · split
    · trivial
    · rename_i parity
      split
      · rename_i gated
        exact rooted gated parity
      · exact rooted_late (afterDelay_phase _ _ _ _)

variable (named : led.nullifierHash = request.nullifierHash) (alike : Alike backend service request led)
include named alike

theorem failure_alike (reason : Refusal) : failure led reason = failure request reason := by
  simp only [failure,named,alike.recipient,alike.fee]

theorem afterSubmission_alike (answer : Except Thrown Text) :
    afterSubmission service led answer = afterSubmission service request answer := by
  cases answer with
  | error reason => simp only [afterSubmission,failure_alike named alike]
  | ok txSignature => simp only [afterSubmission,succeed,named,alike.recipient,alike.fee]

theorem afterSubmit_alike (ix : WithdrawRequest) (sending : Submit WithdrawRequest) :
    afterSubmit service led ix sending = afterSubmit service request ix sending := by
  unfold afterSubmit rethrow
  split
  · exact afterSubmission_alike named alike _
  · rw [afterSubmission_alike named alike]
  · rfl

theorem afterPool_alike (admissible : Admissible backend request) (answer : Except Text Bool) :
    afterPool backend service led answer = afterPool backend service request answer := by
  have built : (service.client.bind fun hotWallet => withdrawIx backend service hotWallet led) =
      service.client.bind fun hotWallet => withdrawIx backend service hotWallet request :=
    Option.bind_congr fun hotWallet ours => alike.instruction admissible hotWallet ours
  match answer with
  | .error _ => simp only [afterPool,afterSubmission_alike named alike]
  | .ok false => simp only [afterPool,afterSubmission_alike named alike]
  | .ok true =>
    unfold afterPool
    dsimp only
    rw [built]
    split
    · exact afterSubmission_alike named alike _
    · exact afterSubmit_alike named alike _ _

theorem afterDelay_alike (parity : checkPublicSignalsParity backend.runtime.poseidon backend.publicKey request = .ok ())
    (delay : Delay) : afterDelay backend service led delay = afterDelay backend service request delay := by
  simp only [afterDelay,failure_alike named alike,alike.proof parity,afterSubmission_alike named alike]

theorem afterObserve_alike (parity : checkPublicSignalsParity backend.runtime.poseidon backend.publicKey request = .ok ())
    (currentSlot : Int) (answer : Except Text Int) :
    afterObserve backend service led currentSlot answer = afterObserve backend service request currentSlot answer := by
  cases answer with
  | error _ => rfl
  | ok _ => exact afterDelay_alike named alike parity _

theorem afterSpent_alike (answer : Except Thrown Bool) :
    afterSpent backend service led answer = afterSpent backend service request answer := by
  match answer with
  | .error _ => rfl
  | .ok true => simp only [afterSpent,failure_alike named alike]
  | .ok false =>
    unfold afterSpent
    dsimp only
    rw [alike.parity]
    split
    · rw [failure_alike named alike]
    · rename_i parity
      rw [afterDelay_alike named alike parity]

end Sharing

section Following
variable {backend : Backend} {services : ι → RelayerService} {service : ι} {request led : Request} {world : World ι}

-- What the call under way does next, the request's own call does next on the same answer.
theorem advance_alike (named : led.nullifierHash = request.nullifierHash) (alike : Alike backend (services service) request led)
    (stands : Stands backend services service request moments old)
    (rooted : Rooted backend (services service) request led old)
    (advance : Advance backend services world caller service led old action next) :
    Advance backend services world caller service request old action next ∧
      Rooted backend (services service) request led next := by
  cases advance with
  | spentFound address found =>
    rw [afterSpent_alike named alike]
    exact ⟨.spentFound (named ▸ address) found,trivial⟩
  | spentAbsent address absent =>
    rw [afterSpent_alike named alike]
    exact ⟨.spentAbsent (named ▸ address) absent,afterSpent_rooted rooted _⟩
  | spentFails =>
    rw [afterSpent_alike named alike]
    exact ⟨.spentFails,trivial⟩
  | @slotRead answer =>
    refine ⟨.slotRead,?_⟩
    cases answer with
    | error _ => trivial
    | ok _ => exact rooted
  | observed row =>
    have root : led.root = request.root := rooted
    rw [afterObserve_alike named alike stands.1.2]
    exact ⟨.observed (root ▸ row),rooted_late (afterObserve_phase _ _ _ _ _)⟩
  | observeFails stored =>
    rw [afterObserve_alike named alike stands.1.2]
    exact ⟨.observeFails stored,trivial⟩
  | pool read =>
    rw [afterPool_alike named alike stands.2]
    exact ⟨.pool read,rooted_late (afterPool_phase _ _ _ _)⟩
  | rpc step =>
    rw [afterSubmit_alike named alike]
    exact ⟨.rpc step,rooted_late (afterSubmit_phase _ _ _ _)⟩
  | diagnosed =>
    rw [afterSubmission_alike named alike]
    exact ⟨.diagnosed,rooted_late (.inr (afterSubmission_phase _ _ _))⟩

end Following

section Catching
variable {backend : Backend} {services : ι → RelayerService} {service : ι} {request led : Request} {moment : Moment ι}

theorem alone_hears (alone : Alone backend services service request [moment] old)
    (heard : Heard service request moment caller action next)
    (advance : Advance backend services moment.1 caller service request old action next) :
    Alone backend services service request [moment] next := by
  have grown : Alone backend services service request ([] ++ [moment]) next := .hears alone heard advance
  exact grown

theorem alone_unspent (asks : Alone backend services service request [moment] .isSpent)
    (address : (nullifierPDA backend (services service) request.nullifierHash).isSome)
    (unspent : Unspent backend (services service) moment.1 request) :
    Alone backend services service request [moment] (afterSpent backend (services service) request (.ok false)) := by
  obtain ⟨key,derived⟩ := Option.isSome_iff_exists.mp address
  have told : Advance backend services moment.1 0 service request .isSpent (.spent 0 (.ok false)) _ :=
    .spentAbsent derived (unspent key derived)
  exact alone_hears asks .spent told

theorem alone_gated (asks : Alone backend services service request [moment] .isSpent)
    (address : (nullifierPDA backend (services service) request.nullifierHash).isSome)
    (unspent : Unspent backend (services service) moment.1 request) (gated : (services service).gated)
    (parity : checkPublicSignalsParity backend.runtime.poseidon backend.publicKey request = .ok ()) :
    Alone backend services service request [moment] .getSlot := by
  have vetted := alone_unspent asks address unspent
  simp only [afterSpent,parity,if_pos gated] at vetted
  exact vetted

theorem alone_observes (waiting : Alone backend services service request [moment] .getSlot) :
    Alone backend services service request [moment] (.observe moment.1.slot) := by
  have told : Advance backend services moment.1 0 service request .getSlot (.slotRead 0 (.ok moment.1.slot))
      (afterSlot (.ok moment.1.slot)) := .slotRead
  exact alone_hears waiting .slot told

-- At one moment the request gets past the gate, if the gate lets it pass there.
theorem alone_passes (asks : Alone backend services service request [moment] .isSpent)
    (address : (nullifierPDA backend (services service) request.nullifierHash).isSome)
    (unspent : Unspent backend (services service) moment.1 request)
    (parity : checkPublicSignalsParity backend.runtime.poseidon backend.publicKey request = .ok ())
    (passes : Passes (services service) moment.1 request) :
    Alone backend services service request [moment] (afterDelay backend (services service) request .ok) := by
  by_cases gated : (services service).gated
  · have waiting := alone_observes (alone_gated asks address unspent gated parity)
    have told : Advance backend services moment.1 0 service request (.observe moment.1.slot) (.observed 0 (.ok ()) true) _ :=
      .observed (PrivacyGate.observe_answer moment.1.rows request.root moment.1.slot)
    have gone := alone_hears waiting .row told
    rw [afterObserve,passes gated] at gone
    exact gone
  · have vetted := alone_unspent asks address unspent
    simp only [afterSpent,parity,if_neg gated] at vetted
    exact vetted

theorem alone_pays (passed : Alone backend services service request [moment] (afterDelay backend (services service) request .ok))
    (admissible : Admissible backend request) (client : (services service).client.isSome) :
    Alone backend services service request [moment] .getPool := by
  simp only [afterDelay,admissible.verified,if_pos client] at passed
  exact passed

theorem alone_submits (waiting : Alone backend services service request [moment] .getPool)
    (pool : accountExists moment.1.ledger (services service).mixerPoolPDA = true)
    (ours : (services service).client = some hotWallet)
    (built : withdrawIx backend (services service) hotWallet request = some ix) :
    Alone backend services service request [moment] (.submitting ix (.getLatestBlockhash 1)) := by
  have told : Advance backend services moment.1 0 service request .getPool (.pool 0 (.ok true)) _ := .pool ?_
  · have gone := alone_hears waiting .pool told
    simp only [afterPool,ours,Option.bind_some,built] at gone
    exact gone
  · intro found same
    cases same
    exact pool.symm

-- And its submission comes as far as the other one's has.
theorem alone_sending (begun : Alone backend services service request [moment] (.submitting ix (.getLatestBlockhash 1)))
    (course : Course backend.signature ix sending) (open_ : ∀ result, sending ≠ .done result) :
    Alone backend services service request [moment] (.submitting ix sending) := by
  induction course with
  | begins => exact begun
  | @goes sending cluster reply next grown prior step ih =>
    have unfinished : ∀ result, sending ≠ .done result := by
      rintro result rfl
      cases step
    obtain ⟨reply,grown,again⟩ := submitStep_anywhere step open_ moment.1.cluster
    have told : Advance backend services moment.1 0 service request (.submitting ix sending) (.rpc 0 reply)
        (afterSubmit (services service) request ix next) := .rpc again
    rw [afterSubmit_open open_] at told
    exact alone_hears (ih unfinished) .rpc told

-- The joining request, on its own, would stand at once where the call under way stands.
theorem alone_catches (guarded : guardRequest backend (services service) request = none)
    (named : led.nullifierHash = request.nullifierHash) (alike : Alike backend (services service) request led)
    (checked : Checked backend services moment.1) (asking : Asking backend services moment.1)
    (sending : Sending backend services moment.1)
    (was : moment.1.calls leader = some ⟨service,led,.running stage⟩)
    (current : Current backend (services service) moment.1 request led stage) :
    Alone backend services service request [moment] stage := by
  have open_ : stage.phase ≠ .ended := by
    intro ended
    cases stage with
    | settled _ => exact current
    | _ => cases ended
  have address : (nullifierPDA backend (services service) request.nullifierHash).isSome :=
    named ▸ asking.address _ _ _ _ was open_
  have uncached : request.nullifierHash ∉ moment.1.cache service := named ▸ asking.uncached _ _ _ _ was open_
  have asks : Alone backend services service request [moment] .isSpent := by
    have begun : Alone backend services service request [moment] (begin backend services moment.1 service request) :=
      .begins guarded
    rw [begin,if_neg uncached,if_pos address] at begun
    exact begun
  have delayed : stage.phase = .delay → (services service).gated ∧
      checkPublicSignalsParity backend.runtime.poseidon backend.publicKey request = .ok () := by
    intro phase
    obtain ⟨gated,parity⟩ := checked.delayed _ _ _ _ was phase
    exact ⟨gated,alike.parity ▸ parity⟩
  have admissible : stage.phase = .submission → Admissible backend request := by
    intro phase
    have theirs := checked.submitted _ _ _ _ was phase
    have parity : checkPublicSignalsParity backend.runtime.poseidon backend.publicKey request = .ok () :=
      alike.parity ▸ theirs.parity
    exact ⟨parity,alike.proof parity ▸ theirs.verified⟩
  have paying : stage.phase = .submission → Unspent backend (services service) moment.1 request →
      Passes (services service) moment.1 request → Alone backend services service request [moment] .getPool := by
    intro phase unspent passes
    have own := admissible phase
    exact alone_pays (alone_passes asks address unspent own.parity passes) own (asking.client _ _ _ _ was phase)
  cases stage with
  | isSpent => exact asks
  | getSlot =>
    obtain ⟨gated,parity⟩ := delayed rfl
    exact alone_gated asks address current.1 gated parity
  | observe currentSlot =>
    obtain ⟨gated,parity⟩ := delayed rfl
    obtain ⟨unspent,_,rfl⟩ := current
    exact alone_observes (alone_gated asks address unspent gated parity)
  | getPool => exact paying rfl current.1 current.2
  | submitting ix submit =>
    obtain ⟨unspent,passes,pool⟩ := current
    obtain ⟨⟨hotWallet,ours,built⟩,_,unfinished⟩ := sending _ _ _ _ _ was
    rw [alike.instruction (admissible rfl) hotWallet ours] at built
    have begun := alone_submits (paying rfl unspent passes) pool ours built
    exact alone_sending begun (asking.course _ _ _ _ _ was) unfinished
  | diagnose _ => exact current.elim
  | settled _ => exact current.elim

end Catching

end Octora.Relayer.Joiners
