import Octora.Relayer.Interleaving

namespace Octora.Relayer
open BigEndian BigIntText SolanaTx

-- What a running call is at: the registry, the delay, the submission, its end.
inductive Phase where
  | registry
  | delay
  | submission
  | ended
  deriving DecidableEq

def Stage.phase : Stage → Phase
  | .isSpent => .registry
  | .getSlot => .delay
  | .observe _ => .delay
  | .getPool => .submission
  | .submitting _ _ => .submission
  | .diagnose _ => .submission
  | .settled _ => .ended

-- A request that nothing but the chain stops.
structure Admissible (backend : Backend) (request : Request) : Prop where
  parity : checkPublicSignalsParity backend.runtime.poseidon backend.publicKey request = .ok ()
  verified : backend.verifyWithdrawProof request.proof request.publicSignals = .ok true

section Phases
variable (backend : Backend) (service : RelayerService) (request : Request)

theorem afterSubmission_phase (answer : Except Thrown Text) : (afterSubmission service request answer).phase = .ended := by
  cases answer <;> rfl

theorem rethrow_phase (message : Text) : (rethrow service request message).phase = .submission ∨
    (rethrow service request message).phase = .ended := by
  unfold rethrow
  split
  · exact .inl rfl
  · exact .inr (afterSubmission_phase service request _)

theorem afterSubmit_phase (withdraw : WithdrawRequest) (submit : Submit WithdrawRequest) :
    (afterSubmit service request withdraw submit).phase = .submission ∨
      (afterSubmit service request withdraw submit).phase = .ended := by
  unfold afterSubmit
  split
  · exact .inr (afterSubmission_phase service request _)
  · exact rethrow_phase service request _
  · exact .inl rfl

theorem afterPool_phase (answer : Except Text Bool) : (afterPool backend service request answer).phase = .submission ∨
    (afterPool backend service request answer).phase = .ended := by
  unfold afterPool
  split
  · exact .inr (afterSubmission_phase service request _)
  · exact .inr (afterSubmission_phase service request _)
  · split
    · exact .inr (afterSubmission_phase service request _)
    · exact afterSubmit_phase service request _ _

theorem afterDelay_phase (delay : Delay) : (afterDelay backend service request delay).phase = .submission ∨
    (afterDelay backend service request delay).phase = .ended := by
  unfold afterDelay
  split
  · exact .inr rfl
  · split
    · exact .inr rfl
    · exact .inr rfl
    · split
      · exact .inl rfl
      · exact .inr (afterSubmission_phase service request _)

theorem afterObserve_phase (currentSlot : Int) (answer : Except Text Int) :
    (afterObserve backend service request currentSlot answer).phase = .submission ∨
      (afterObserve backend service request currentSlot answer).phase = .ended := by
  cases answer with
  | error message => exact .inr rfl
  | ok first => exact afterDelay_phase backend service request _

-- What is neither is not at the delay.
theorem late_phase {stage : Stage} (late : stage.phase = .submission ∨ stage.phase = .ended) : stage.phase ≠ .delay := by
  rcases late with phase | phase <;> rw [phase] <;> nofun

end Phases

section Passing
variable {backend : Backend} {service : RelayerService} {request : Request}

-- The guards read the relayer and the fee.
theorem guard_same {one two : Request} (relayer : one.relayer = two.relayer) (fee : one.fee = two.fee)
    (guarded : guardRequest backend service one = none) : guardRequest backend service two = none := by
  unfold guardRequest at guarded ⊢
  rw [relayer,fee] at guarded
  split at guarded
  · cases guarded
  · rename_i ours
    rw [if_neg ours]
    split at guarded
    · cases guarded
    · split at guarded
      · cases guarded
      · rename_i enough
        exact if_neg enough

-- Past the registry the nullifier was free and the parity check passed.
theorem afterSpent_open {answer : Except Thrown Bool}
    (open_ : (afterSpent backend service request answer).phase ≠ .ended) : answer = .ok false ∧
      checkPublicSignalsParity backend.runtime.poseidon backend.publicKey request = .ok () := by
  unfold afterSpent at open_
  split at open_
  · exact absurd rfl open_
  · exact absurd rfl open_
  · split at open_
    · exact absurd rfl open_
    · rename_i parity
      exact ⟨rfl,parity⟩

theorem afterSpent_delayed {answer : Except Thrown Bool}
    (phase : (afterSpent backend service request answer).phase = .delay) : service.gated := by
  obtain ⟨rfl,parity⟩ := afterSpent_open (by rw [phase]; nofun)
  simp only [afterSpent,parity] at phase
  split at phase
  · assumption
  · rcases afterDelay_phase backend service request .ok with other | other <;> rw [phase] at other <;> cases other

theorem afterSpent_gated {answer : Except Thrown Bool}
    (gated : service.gated) (open_ : (afterSpent backend service request answer).phase ≠ .ended) :
    afterSpent backend service request answer = .getSlot := by
  obtain ⟨rfl,parity⟩ := afterSpent_open open_
  simp only [afterSpent,parity,if_pos gated]

theorem afterDelay_verified (phase : (afterDelay backend service request delay).phase = .submission) :
    backend.verifyWithdrawProof request.proof request.publicSignals = .ok true := by
  unfold afterDelay at phase
  split at phase
  · cases phase
  · split at phase
    · cases phase
    · cases phase
    · assumption

theorem afterObserve_verified (phase : (afterObserve backend service request currentSlot answer).phase = .submission) :
    backend.verifyWithdrawProof request.proof request.publicSignals = .ok true := by
  cases answer with
  | error _ => cases phase
  | ok _ => exact afterDelay_verified phase

theorem afterSpent_verified (phase : (afterSpent backend service request answer).phase = .submission) :
    Admissible backend request := by
  obtain ⟨rfl,parity⟩ := afterSpent_open (by rw [phase]; nofun)
  refine ⟨parity,?_⟩
  simp only [afterSpent,parity] at phase
  split at phase
  · cases phase
  · exact afterDelay_verified phase

end Passing

variable {ι : Type}

section Moves

theorem move_calls (world : World ι) (caller other : Nat) (call : Call ι) (fiber : Fiber) :
    (world.move caller call fiber).calls other =
      if other = caller then some { call with fiber := fiber } else world.calls other := by
  simp only [World.move,Function.update_apply]

-- Of two calls one has moved; the other stands where it stood.
theorem updated_call {calls : Nat → Option (Call ι)}
    (here : Function.update calls mover (some moved) caller = some call) :
    (caller ≠ mover ∧ calls caller = some call) ∨ (caller = mover ∧ call = moved) := by
  rw [Function.update_apply] at here
  split at here
  · rename_i same
    exact .inr ⟨same,(Option.some.inj here).symm⟩
  · rename_i other
    exact .inl ⟨other,here⟩

end Moves

section Steps
variable (backend : Backend) (services : ι → RelayerService)

-- What one running call can do next, under the label of the step.
inductive Advance (world : World ι) (caller : Nat) (service : ι) (request : Request) : Stage → Action ι → Stage → Prop where
  | spentFound (address : nullifierPDA backend (services service) request.nullifierHash = some key)
      (found : accountExists world.ledger key = true) :
      Advance world caller service request .isSpent (.spent caller (.ok true))
        (afterSpent backend (services service) request (.ok true))
  | spentAbsent (address : nullifierPDA backend (services service) request.nullifierHash = some key)
      (absent : accountExists world.ledger key = false) :
      Advance world caller service request .isSpent (.spent caller (.ok false))
        (afterSpent backend (services service) request (.ok false))
  | spentFails : Advance world caller service request .isSpent (.spent caller (.error text))
        (afterSpent backend (services service) request (.error (.message text)))
  | slotRead : Advance world caller service request .getSlot (.slotRead caller answer) (afterSlot answer)
  | observed (row : firstSeenSlot (observe world.rows request.root currentSlot) request.root = some first) :
      Advance world caller service request (.observe currentSlot) (.observed caller (.ok ()) true)
        (afterObserve backend (services service) request currentSlot (.ok first))
  | observeFails (stored : Bool) :
      Advance world caller service request (.observe currentSlot) (.observed caller (.error text) stored)
        (afterObserve backend (services service) request currentSlot (.error text))
  | pool (read : Truthful world.ledger (services service).mixerPoolPDA answer) :
      Advance world caller service request .getPool (.pool caller answer)
        (afterPool backend (services service) request answer)
  | rpc (step : SubmitStep backend.signature ix DEFAULT_MAX_ATTEMPTS world.cluster stage reply next cluster) :
      Advance world caller service request (.submitting ix stage) (.rpc caller reply)
        (afterSubmit (services service) request ix next)
  | diagnosed : Advance world caller service request (.diagnose message) (.diagnosed caller text)
        (afterSubmission (services service) request (.error (.message (message ++ " | ".toList ++ text))))

-- A call under way was so before, has just entered, or advanced.
structure Entered (world : World ι) (caller : Nat) (service : ι) (request : Request) (action : Action ι)
    (stage : Stage) : Prop where
  fresh : world.calls caller = none
  named : action = .enter caller service request
  guarded : guardRequest backend (services service) request = none
  free : world.inFlight service request.nullifierHash = none
  begun : stage = begin backend services world service request

-- How one call changes, and what becomes of the lock of its text.
inductive Shift (world : World ι) (action : Action ι) (caller : Nat) (service : ι) (request : Request) :
    Option Fiber → Fiber → Option (Option Nat) → Prop where
  | refused (named : action = .enter caller service request)
      (guarded : guardRequest backend (services service) request = some result) :
      Shift world action caller service request none (.returned (.ok result)) none
  | joins (named : action = .enter caller service request)
      (guarded : guardRequest backend (services service) request = none)
      (held : world.inFlight service request.nullifierHash = some leader) :
      Shift world action caller service request none (.joined leader) none
  | leads (entered : Entered backend services world caller service request action stage) :
      Shift world action caller service request none (.running stage) (some (some caller))
  | advances (advance : Advance backend services world caller service request old action next) :
      Shift world action caller service request (some (.running old)) (.running next) none
  | settles (named : action = .settle caller) :
      Shift world action caller service request (some (.running (.settled result))) (.returned result) (some none)
  | resolves (awaited : world.calls leader = some call)
      (resolved : call.fiber = .running (.settled result) ∨ call.fiber = .returned result) :
      Shift world action caller service request (some (.joined leader)) (.returned result) none

-- A step as the calls and the locks see it.
inductive Move [DecidableEq ι] (before : World ι) (action : Action ι) (after : World ι) : Prop where
  | outside (calls : after.calls = before.calls) (locks : after.inFlight = before.inFlight)
  | shifts (was : before.calls caller = old.map fun fiber => ⟨service,request,fiber⟩)
      (shift : Shift backend services before action caller service request old fiber lock)
      (calls : after.calls = Function.update before.calls caller (some ⟨service,request,fiber⟩))
      (locks : after.inFlight = lock.elim before.inFlight fun holder => Function.update before.inFlight service
        (Function.update (before.inFlight service) request.nullifierHash holder))
  | restarts (named : action = .restart service)
      (calls : after.calls = fun caller => (before.calls caller).map fun call =>
        match call.fiber with
        | .returned _ => call
        | _ => if call.service = service then { call with fiber := .dropped } else call)
      (locks : after.inFlight = Function.update before.inFlight service fun _ => none)

end Steps

structure Idle (world : World ι) : Prop where
  calls : ∀ caller, world.calls caller = none
  locks : ∀ service text, world.inFlight service text = none

-- Calls at the delay have matching signals, calls in the submission a proof, too.
structure Checked (backend : Backend) (services : ι → RelayerService) (world : World ι) : Prop where
  delayed : ∀ caller service request stage, world.calls caller = some ⟨service,request,.running stage⟩ →
    stage.phase = .delay → (services service).gated ∧
      checkPublicSignalsParity backend.runtime.poseidon backend.publicKey request = .ok ()
  submitted : ∀ caller service request stage, world.calls caller = some ⟨service,request,.running stage⟩ →
    stage.phase = .submission → Admissible backend request

section Beginnings
variable {backend : Backend} {services : ι → RelayerService}

theorem begin_phase (world : World ι) (service : ι) (request : Request) :
    (begin backend services world service request).phase = .registry ∨
      (begin backend services world service request).phase = .ended := by
  unfold begin
  split
  · exact .inr rfl
  · split
    · exact .inl rfl
    · exact .inr rfl

theorem entered_phase (entered : Entered backend services world caller service request action stage) :
    stage.phase = .registry ∨ stage.phase = .ended := by
  rw [entered.begun]
  exact begin_phase world service request

theorem idle_checked (idle : Idle first) : Checked backend services first := by
  refine ⟨?_,?_⟩
  · intro caller _ _ _ here
    rw [idle.calls caller] at here
    cases here
  · intro caller _ _ _ here
    rw [idle.calls caller] at here
    cases here

end Beginnings

section Inversion
variable [DecidableEq ι] {backend : Backend} {services : ι → RelayerService} {before after : World ι}

theorem step_move (step : Step backend services before action after) : Move backend services before action after := by
  cases step with
  | chain _ => exact .outside rfl rfl
  | clock _ _ => exact .outside rfl rfl
  | land _ _ _ _ _ => exact .outside rfl rfl
  | @enter caller service request fresh =>
    match guarded : guardRequest backend (services service) request with
    | some result =>
      refine .shifts fresh (.refused rfl guarded) ?_ ?_
      all_goals simp only [World.processWithdrawal,guarded,World.move,Option.elim_none]
    | none =>
      match held : before.inFlight service request.nullifierHash with
      | some leader =>
        refine .shifts fresh (.joins rfl guarded held) ?_ ?_
        all_goals simp only [World.processWithdrawal,guarded,held,World.move,Option.elim_none]
      | none =>
        refine .shifts fresh (.leads ⟨fresh,rfl,guarded,held,rfl⟩) ?_ ?_
        all_goals simp only [World.processWithdrawal,guarded,held,World.move,Option.elim_some]
  | spentFound was address found => exact .shifts was (.advances (.spentFound address found)) rfl rfl
  | spentAbsent was address absent => exact .shifts was (.advances (.spentAbsent address absent)) rfl rfl
  | spentFails was => exact .shifts was (.advances .spentFails) rfl rfl
  | slotRead was => exact .shifts was (.advances .slotRead) rfl rfl
  | observed was row => exact .shifts was (.advances (.observed row)) rfl rfl
  | observeFails was stored => exact .shifts was (.advances (.observeFails stored)) rfl rfl
  | pool was read => exact .shifts was (.advances (.pool read)) rfl rfl
  | @rpc caller service request ix submit reply next cluster was step =>
    have others : (before.spentBy service request next).calls = before.calls ∧
        (before.spentBy service request next).inFlight = before.inFlight := by
      unfold World.spentBy
      split <;> exact ⟨rfl,rfl⟩
    refine .shifts was (.advances (.rpc step)) ?_ others.2
    rw [← others.1]
    rfl
  | diagnosed was => exact .shifts was (.advances .diagnosed) rfl rfl
  | settle was => exact .shifts was (.settles rfl) rfl rfl
  | join was awaited resolved => exact .shifts was (.resolves awaited resolved) rfl rfl
  | restart => exact .restarts rfl rfl rfl

-- A restart stops the calls of its service; it starts none.
theorem restarted_call {call : Call ι} (became : (match call.fiber with
      | .returned _ => call
      | _ => if call.service = restarted then { call with fiber := .dropped } else call) =
        ⟨service,request,fiber⟩) :
    fiber = .dropped ∨ (call = ⟨service,request,fiber⟩ ∧ ∀ stage, fiber = .running stage → service ≠ restarted) := by
  split at became
  · rename_i ended
    rw [became] at ended
    exact .inr ⟨became,fun stage running => absurd (ended.symm.trans running) nofun⟩
  · split at became
    · cases became
      exact .inl rfl
    · rename_i other
      rw [became] at other
      exact .inr ⟨became,fun _ _ => other⟩

theorem step_running (step : Step backend services before action after)
    (here : after.calls caller = some ⟨service,request,.running stage⟩) :
    before.calls caller = some ⟨service,request,.running stage⟩ ∨
      Entered backend services before caller service request action stage ∨
      ∃ old, before.calls caller = some ⟨service,request,.running old⟩ ∧
        Advance backend services before caller service request old action stage := by
  cases step_move step with
  | outside calls _ => exact .inl (calls ▸ here)
  | shifts was shift calls _ =>
    rcases updated_call (calls ▸ here) with ⟨_,old⟩ | ⟨rfl,moved⟩
    · exact .inl old
    · cases moved
      cases shift with
      | leads entered => exact .inr (.inl entered)
      | advances advance => exact .inr (.inr ⟨_,was,advance⟩)
  | restarts _ calls _ =>
    rw [calls] at here
    obtain ⟨call,was,became⟩ := Option.map_eq_some_iff.mp here
    rcases restarted_call became with dropped | ⟨rfl,_⟩
    · cases dropped
    · exact .inl was

theorem step_delayed (checked : Checked backend services before) (step : Step backend services before action after)
    (here : after.calls caller = some ⟨service,request,.running stage⟩) (phase : stage.phase = .delay) :
    (services service).gated ∧ checkPublicSignalsParity backend.runtime.poseidon backend.publicKey request = .ok () := by
  rcases step_running step here with was | entered | ⟨old,was,advance⟩
  · exact checked.delayed _ _ _ _ was phase
  · rcases entered_phase entered with other | other <;> rw [phase] at other <;> cases other
  · cases advance with
    | spentFound _ _ => cases phase
    | spentAbsent _ _ => exact ⟨afterSpent_delayed phase,(afterSpent_open (by rw [phase]; nofun)).2⟩
    | spentFails => cases phase
    | slotRead => exact checked.delayed _ _ _ _ was rfl
    | observed _ => exact checked.delayed _ _ _ _ was rfl
    | observeFails _ => exact checked.delayed _ _ _ _ was rfl
    | pool _ => exact absurd phase (late_phase (afterPool_phase _ _ _ _))
    | rpc _ => exact absurd phase (late_phase (afterSubmit_phase _ _ _ _))
    | diagnosed => exact absurd phase (late_phase (.inr (afterSubmission_phase _ _ _)))

theorem step_submitted (checked : Checked backend services before) (step : Step backend services before action after)
    (here : after.calls caller = some ⟨service,request,.running stage⟩) (phase : stage.phase = .submission) :
    Admissible backend request := by
  rcases step_running step here with was | entered | ⟨old,was,advance⟩
  · exact checked.submitted _ _ _ _ was phase
  · rcases entered_phase entered with other | other <;> rw [phase] at other <;> cases other
  · cases advance with
    | spentFound _ _ => cases phase
    | spentAbsent _ _ => exact afterSpent_verified phase
    | spentFails => cases phase
    | @slotRead answer => cases answer <;> cases phase
    | observed _ => exact ⟨(checked.delayed _ _ _ _ was rfl).2,afterObserve_verified phase⟩
    | observeFails _ => exact ⟨(checked.delayed _ _ _ _ was rfl).2,afterObserve_verified phase⟩
    | pool _ => exact checked.submitted _ _ _ _ was rfl
    | rpc _ => exact checked.submitted _ _ _ _ was rfl
    | diagnosed => exact checked.submitted _ _ _ _ was rfl

theorem step_checked (checked : Checked backend services before) (step : Step backend services before action after) :
    Checked backend services after :=
  ⟨fun _ _ _ _ here phase => step_delayed checked step here phase,
    fun _ _ _ _ here phase => step_submitted checked step here phase⟩

theorem run_checked (idle : Idle first) (run : Reached backend services first trace world) :
    Checked backend services world := by
  induction run with
  | nil => exact idle_checked idle
  | step _ step ih => exact step_checked ih step

-- The call leads: it holds the lock of its nullifier and stands at `stage`.
def World.leads (world : World ι) (caller : Nat) (service : ι) (request : Request) (stage : Stage) : World ι :=
  { world.move caller ⟨service,request,.dropped⟩ (.running stage) with
    inFlight := Function.update world.inFlight service
      (Function.update (world.inFlight service) request.nullifierHash (some caller)) }

theorem leads_call (world : World ι) (caller : Nat) (service : ι) (request : Request) (stage : Stage) :
    (world.leads caller service request stage).calls caller = some ⟨service,request,.running stage⟩ :=
  Function.update_self _ _ _

theorem leads_move (world : World ι) : (world.leads caller service request stage).move caller
    ⟨service,request,.dropped⟩ (.running next) = world.leads caller service request next := by
  simp only [World.leads,World.move,Function.update_idem]

theorem process_leads (guarded : guardRequest backend (services service) request = none)
    (free : before.inFlight service request.nullifierHash = none) :
    before.processWithdrawal backend services caller service request =
      before.leads caller service request (begin backend services before service request) := by
  simp only [World.processWithdrawal,guarded,free,World.leads]

theorem process_joins (guarded : guardRequest backend (services service) request = none)
    (held : before.inFlight service request.nullifierHash = some leader) :
    before.processWithdrawal backend services caller service request =
      before.move caller ⟨service,request,.dropped⟩ (.joined leader) := by
  simp only [World.processWithdrawal,guarded,held]

theorem reached_trans (one : Reached backend services first earlier before) (two : Reached backend services before later after) :
    Reached backend services first (earlier ++ later) after := by
  induction two with
  | nil =>
    rw [List.append_nil]
    exact one
  | step _ step ih =>
    rw [← List.append_assoc]
    exact .step ih step

-- A request with a free nullifier text asks the chain.
theorem call_asks {world : World ι} (fresh : world.calls caller = none)
    (guarded : guardRequest backend (services service) request = none)
    (free : world.inFlight service request.nullifierHash = none) (uncached : request.nullifierHash ∉ world.cache service)
    (address : nullifierPDA backend (services service) request.nullifierHash = some key) :
    Step backend services world (.enter caller service request) (world.leads caller service request .isSpent) := by
  have asks : begin backend services world service request = .isSpent := by
    simp only [begin,if_neg uncached,address,Option.isSome_some,if_true]
  rw [← asks,← process_leads guarded free]
  exact .enter fresh

theorem call_vetted {world : World ι} (fresh : world.calls caller = none)
    (guarded : guardRequest backend (services service) request = none)
    (free : world.inFlight service request.nullifierHash = none) (uncached : request.nullifierHash ∉ world.cache service)
    (address : nullifierPDA backend (services service) request.nullifierHash = some key)
    (absent : accountExists world.ledger key = false) :
    Reached backend services world [(world,.enter caller service request),
        (world.leads caller service request .isSpent,.spent caller (.ok false))]
      (world.leads caller service request (afterSpent backend (services service) request (.ok false))) := by
  have answered : Step backend services _ (.spent caller (.ok false)) _ :=
    .spentAbsent (leads_call world caller service request .isSpent) address absent
  rw [leads_move] at answered
  exact .step (.step .nil (call_asks fresh guarded free uncached address)) answered

theorem leads_observed (world : World ι) (caller : Nat) (service : ι) (request : Request)
    (row : firstSeenSlot (observe world.rows request.root currentSlot) request.root = some first) :
    Step backend services (world.leads caller service request (.observe currentSlot)) (.observed caller (.ok ()) true)
      ({ world with rows := observe world.rows request.root currentSlot }.leads caller service request
        (afterObserve backend (services service) request currentSlot (.ok first))) := by
  have answered : Step backend services _ (.observed caller (.ok ()) true) _ :=
    .observed (leads_call world caller service request (.observe currentSlot)) row
  simp only [World.leads,World.move,Function.update_idem] at answered ⊢
  exact answered

theorem leads_slot (world : World ι) (caller : Nat) (service : ι) (request : Request) (answer : Except Text Int) :
    Step backend services (world.leads caller service request .getSlot) (.slotRead caller answer)
      (world.leads caller service request (afterSlot answer)) := by
  have answered : Step backend services _ (.slotRead caller answer) _ :=
    .slotRead (leads_call world caller service request .getSlot)
  rwa [leads_move] at answered

end Inversion

def sampleWorld (ledger : Ledger) (slot : Int) : World Unit where
  ledger := ledger
  slot := slot
  cluster := ⟨0,[],[]⟩
  log := []
  rows := []
  inFlight _ _ := none
  cache _ := []
  calls _ := none

def messageText (withdrawal : WithdrawRequest) : Text :=
  (withdrawal.accounts.signer.toList ++ withdrawal.accounts.mixerPool.toList ++ withdrawal.accounts.nullifierAccount.toList ++
    withdrawal.accounts.recipient.toList ++ withdrawal.accounts.relayer.toList ++ withdrawal.proofData.toList ++
    withdrawal.inputs.toList).map fun byte => Char.ofNat byte.toNat

-- Its signatures differ where the messages do.
def signingBackend : Backend := { sampleBackend with signature := fun tx => messageText tx.instructions ++ tx.blockhash }

def sampleNullifierKey : Pubkey := nullifierAddress sampleRuntime samplePool sampleNullifierHash

theorem sampleRequest_number : bigInt sampleRequest.nullifierHash = some (sampleValues 1 : Int) := by
  simp only [sampleRequest,sampleRequestWith,bigInt_decimal]

theorem sampleRequest_address (service : RelayerService) (pool : service.mixerPoolPDA = samplePool)
    (reads : bigInt text = some (sampleValues 1 : Int)) :
    nullifierPDA signingBackend service text = some sampleNullifierKey := by
  have bytes : bigintToBytes32 (sampleValues 1 : Int) = some sampleNullifierHash := by decide
  simp only [nullifierPDA,reads,bytes,pool,Option.bind_eq_bind,Option.bind_some]
  rfl

-- The sample service with or without its table of roots.
def sampleServices (rootSeenRepo : Bool) (_ : Unit) : RelayerService := { sampleService with rootSeenRepo := rootSeenRepo }

theorem sample_vetted (rootSeenRepo : Bool) (world : World Unit) (caller : Nat)
    (reads : bigInt text = some (sampleValues 1 : Int)) (fresh : world.calls caller = none)
    (free : world.inFlight () text = none) (uncached : text ∉ world.cache ())
    (absent : accountExists world.ledger sampleNullifierKey = false) :
    Reached signingBackend (sampleServices rootSeenRepo) world
      [(world,.enter caller () (sampleRequestWith text)),
        (world.leads caller () (sampleRequestWith text) .isSpent,.spent caller (.ok false))]
      (world.leads caller () (sampleRequestWith text)
        (if (sampleServices rootSeenRepo ()).gated then .getSlot
          else afterDelay signingBackend (sampleServices rootSeenRepo ()) (sampleRequestWith text) .ok)) := by
  have parity : checkPublicSignalsParity signingBackend.runtime.poseidon signingBackend.publicKey
      (sampleRequestWith text) = .ok () := sampleRequest_parity reads
  have address : nullifierPDA signingBackend (sampleServices rootSeenRepo ()) (sampleRequestWith text).nullifierHash =
      some sampleNullifierKey := sampleRequest_address _ rfl reads
  have guarded : guardRequest signingBackend (sampleServices rootSeenRepo ()) (sampleRequestWith text) = none :=
    sampleRequest_guarded text
  have vetted := call_vetted fresh guarded free uncached address absent
  simp only [afterSpent,parity] at vetted
  exact vetted

end Octora.Relayer
