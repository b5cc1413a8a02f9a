import Octora.Relayer.Sharing

namespace Octora.Relayer.Joiners
open BigEndian BigIntText SolanaTx Fallible

variable {ι : Type}

-- What a request that passes the guards finds under way under its text.
def Fits (backend : Backend) (services : ι → RelayerService) (before : World ι) (action : Action ι) : Prop :=
  ∀ caller service request leader led stage, action = .enter caller service request →
    guardRequest backend (services service) request = none →
    before.calls leader = some ⟨service,led,.running stage⟩ → led.nullifierHash = request.nullifierHash →
    Alike backend (services service) request led ∧ Current backend (services service) before request led stage

-- The moments start with the call's entry, and the call returns at none before the last.
structure During (caller : Nat) (service : ι) (request : Request) (moments : List (Moment ι)) : Prop where
  entered : ∃ world more, moments = (world,.enter caller service request) :: more
  unreturned : ∀ moment ∈ moments, ∀ result, moment.1.calls caller ≠ some ⟨service,request,.returned result⟩

def Spans (trace : List (Moment ι)) (caller : Nat) (service : ι) (request : Request) (moments : List (Moment ι)) : Prop :=
  During caller service request moments ∧ ∃ earlier later, trace = earlier ++ moments ++ later

def Opened (trace : List (Moment ι)) (caller : Nat) (service : ι) (request : Request) (moments : List (Moment ι)) : Prop :=
  During caller service request moments ∧ ∃ earlier, trace = earlier ++ moments

-- The caller stands where its leader stands, and there its own pipeline can have come, too.
def Follows (backend : Backend) (services : ι → RelayerService) (trace : List (Moment ι)) (world : World ι) (caller : Nat)
    (service : ι) (request : Request) (leader : Nat) : Prop :=
  ∃ moments stage led, Opened trace caller service request moments ∧
    Alone backend services service request moments stage ∧ led.nullifierHash = request.nullifierHash ∧
    Alike backend (services service) request led ∧ Rooted backend (services service) request led stage ∧
    (world.calls leader = some ⟨service,led,.running stage⟩ ∨
      ∃ result, stage = .settled result ∧ world.calls leader = some ⟨service,led,.returned result⟩)

-- Every call, whoever runs its pipeline, stands where its own can have come.
structure Owned (backend : Backend) (services : ι → RelayerService) (trace : List (Moment ι)) (world : World ι) : Prop where
  running : ∀ caller service request stage, world.calls caller = some ⟨service,request,.running stage⟩ →
    ∃ moments, Opened trace caller service request moments ∧ Alone backend services service request moments stage
  joined : ∀ caller service request leader, world.calls caller = some ⟨service,request,.joined leader⟩ →
    Follows backend services trace world caller service request leader
  returned : ∀ caller service request result, world.calls caller = some ⟨service,request,.returned result⟩ →
    ∃ moments, Spans trace caller service request moments ∧
      Alone backend services service request moments (.settled result)

section Spans
variable {trace moments : List (Moment ι)} {caller : Nat} {service : ι} {request : Request} {before : World ι}

theorem opened_enters (fresh : before.calls caller = none) :
    Opened (trace ++ [(before,.enter caller service request)]) caller service request
      [(before,.enter caller service request)] := by
  refine ⟨⟨⟨before,[],rfl⟩,?_⟩,trace,rfl⟩
  intro moment here result returned
  rw [List.mem_singleton.mp here,fresh] at returned
  cases returned

theorem opened_grows (opened : Opened trace caller service request moments)
    (here : before.calls caller = some ⟨service,request,fiber⟩) (open_ : ∀ result, fiber ≠ .returned result)
    (action : Action ι) :
    Opened (trace ++ [(before,action)]) caller service request (moments ++ [(before,action)]) := by
  obtain ⟨⟨⟨world,more,entered⟩,unreturned⟩,earlier,rfl⟩ := opened
  refine ⟨⟨⟨world,more ++ [(before,action)],by rw [entered,List.cons_append]⟩,?_⟩,earlier,List.append_assoc _ _ _⟩
  intro moment member result returned
  rcases List.mem_append.mp member with old | new
  · exact unreturned moment old result returned
  · rw [List.mem_singleton.mp new,here] at returned
    cases returned
    exact open_ result rfl

theorem opened_spans (opened : Opened trace caller service request moments) (more : List (Moment ι)) :
    Spans (trace ++ more) caller service request moments := by
  obtain ⟨during,earlier,rfl⟩ := opened
  exact ⟨during,earlier,more,rfl⟩

theorem spans_grows (spans : Spans trace caller service request moments) (more : List (Moment ι)) :
    Spans (trace ++ more) caller service request moments := by
  obtain ⟨during,earlier,later,rfl⟩ := spans
  exact ⟨during,earlier,later ++ more,List.append_assoc _ _ _⟩

end Spans

theorem idle_owned {backend : Backend} {services : ι → RelayerService} (idle : Idle first) :
    Owned backend services [] first := by
  have nowhere : ∀ {caller call}, first.calls caller = some call → False := by
    intro caller call here
    rw [idle.calls caller] at here
    cases here
  refine ⟨?_,?_,?_⟩
  · intro _ _ _ _ here
    exact (nowhere here).elim
  · intro _ _ _ _ here
    exact (nowhere here).elim
  · intro _ _ _ _ here
    exact (nowhere here).elim

variable {backend : Backend} {services : ι → RelayerService} {first before after : World ι}

-- A leader stays where it is, advances or settles; whoever follows hears what it hears.
theorem follows_kept (follows : Follows backend services trace before caller service request leader)
    (was : before.calls caller = some ⟨service,request,.joined leader⟩)
    (moves : ∀ led fiber, before.calls leader = some ⟨service,led,fiber⟩ → (∀ other, fiber ≠ .joined other) →
      after.calls leader = some ⟨service,led,fiber⟩ ∨
      (∃ old next, fiber = .running old ∧ after.calls leader = some ⟨service,led,.running next⟩ ∧
        Advance backend services before leader service led old action next) ∨
      ∃ result, fiber = .running (.settled result) ∧ after.calls leader = some ⟨service,led,.returned result⟩) :
    Follows backend services (trace ++ [(before,action)]) after caller service request leader := by
  obtain ⟨moments,stage,led,opened,alone,named,alike,rooted,stood⟩ := follows
  have grown := opened_grows opened was (by intro result same; cases same) action
  have waits : Alone backend services service request (moments ++ [(before,action)]) stage := .waits alone
  rcases stood with running | ⟨result,ended,returned⟩
  · have unjoined : ∀ other, Fiber.running stage ≠ .joined other := by
      intro other same
      cases same
    rcases moves _ _ running unjoined with stays | ⟨old,next,same,now,advance⟩ | ⟨result,same,now⟩
    · exact ⟨_,stage,led,grown,waits,named,alike,rooted,.inl stays⟩
    · cases same
      obtain ⟨own,still⟩ := advance_alike named alike (alone_stands alone) rooted advance
      have heard : Heard service request (before,action) leader action next := .shared ⟨led,stage,running,named⟩
      exact ⟨_,next,led,grown,.hears waits heard own,named,alike,still,.inl now⟩
    · cases same
      exact ⟨_,_,led,grown,waits,named,alike,rooted,.inr ⟨result,rfl,now⟩⟩
  · have unjoined : ∀ other, Fiber.returned result ≠ .joined other := by
      intro other same
      cases same
    rcases moves _ _ returned unjoined with stays | ⟨old,next,same,_⟩ | ⟨other,same,_⟩
    · exact ⟨_,stage,led,grown,waits,named,alike,rooted,.inr ⟨result,ended,stays⟩⟩
    · cases same
    · cases same

variable [DecidableEq ι]

theorem step_running_owned (owned : Owned backend services trace before)
    (step : Step backend services before action after)
    (here : after.calls caller = some ⟨service,request,.running stage⟩) :
    ∃ moments, Opened (trace ++ [(before,action)]) caller service request moments ∧
      Alone backend services service request moments stage := by
  rcases step_running step here with was | entered | ⟨old,was,advance⟩
  · obtain ⟨moments,opened,alone⟩ := owned.running _ _ _ _ was
    exact ⟨_,opened_grows opened was (by intro result same; cases same) action,.waits alone⟩
  · obtain ⟨fresh,rfl,guarded,_,rfl⟩ := entered
    exact ⟨_,opened_enters fresh,.begins guarded⟩
  · obtain ⟨moments,opened,alone⟩ := owned.running _ _ _ _ was
    refine ⟨_,opened_grows opened was (by intro result same; cases same) action,?_⟩
    exact .hears (.waits alone) (.shared ⟨request,old,was,rfl⟩) advance

theorem step_joined_owned (locked : Locked backend services before) (checked : Checked backend services before)
    (asking : Asking backend services before) (sending : Sending backend services before)
    (owned : Owned backend services trace before) (fits : Fits backend services before action)
    (step : Step backend services before action after)
    (here : after.calls caller = some ⟨service,request,.joined leader⟩) :
    Follows backend services (trace ++ [(before,action)]) after caller service request leader := by
  cases step_move step with
  | outside calls _ =>
    have was : before.calls caller = some ⟨service,request,.joined leader⟩ := calls ▸ here
    refine follows_kept (owned.joined _ _ _ _ was) was fun led fiber stood _ => .inl ?_
    rw [calls,stood]
  | @shifts mover old asker asked fiber lock mine shift calls _ =>
    rcases updated_call (calls ▸ here) with ⟨_,was⟩ | ⟨rfl,moved⟩
    · refine follows_kept (owned.joined _ _ _ _ was) was fun led fiber stood unjoined => ?_
      by_cases own : leader = mover
      · subst own
        rw [stood] at mine
        rw [calls,Function.update_self]
        cases shift with
        | advances advance =>
          cases mine
          exact .inr (.inl ⟨_,_,rfl,rfl,advance⟩)
        | settles _ =>
          cases mine
          exact .inr (.inr ⟨_,rfl,rfl⟩)
        | resolves _ _ =>
          cases mine
          exact absurd rfl (unjoined _)
        | _ => cases mine
      · rw [calls,Function.update_of_ne own]
        exact .inl stood
    · cases moved
      cases shift with
      | joins named guarded held =>
        subst named
        obtain ⟨led,stage,stood,same⟩ := locked.holder _ _ _ held
        obtain ⟨alike,current⟩ := fits _ _ _ _ _ _ rfl guarded stood same
        have caught : Alone backend services service request [(before,.enter caller service request)] stage :=
          alone_catches guarded same alike checked asking sending stood current
        have other : leader ≠ caller := by
          rintro rfl
          rw [stood] at mine
          cases mine
        refine ⟨_,stage,led,opened_enters mine,caught,same,alike,current_rooted current,.inl ?_⟩
        rw [calls,Function.update_of_ne other,stood]
  | @restarts restarted _ calls _ =>
    rw [calls] at here
    obtain ⟨call,was,became⟩ := Option.map_eq_some_iff.mp here
    rcases restarted_call became with dropped | ⟨rfl,_⟩
    · cases dropped
    · have other : service ≠ restarted := by
        rintro rfl
        simp only [if_true] at became
        cases became
      refine follows_kept (owned.joined _ _ _ _ was) was fun led fiber stood _ => .inl ?_
      rw [calls]
      dsimp only
      rw [stood,Option.map_some]
      cases fiber with
      | returned _ => rfl
      | _ => simp only [if_neg other]

theorem step_returned_owned (owned : Owned backend services trace before)
    (step : Step backend services before action after)
    (here : after.calls caller = some ⟨service,request,.returned result⟩) :
    ∃ moments, Spans (trace ++ [(before,action)]) caller service request moments ∧
      Alone backend services service request moments (.settled result) := by
  have kept : before.calls caller = some ⟨service,request,.returned result⟩ →
      ∃ moments, Spans (trace ++ [(before,action)]) caller service request moments ∧
        Alone backend services service request moments (.settled result) := by
    intro was
    obtain ⟨moments,spans,alone⟩ := owned.returned _ _ _ _ was
    exact ⟨moments,spans_grows spans _,alone⟩
  cases step_move step with
  | outside calls _ => exact kept (calls ▸ here)
  | shifts mine shift calls _ =>
    rcases updated_call (calls ▸ here) with ⟨_,was⟩ | ⟨rfl,moved⟩
    · exact kept was
    · cases moved
      cases shift with
      | refused named guarded =>
        subst named
        have opened : Opened (trace ++ [(before,.enter caller service request)]) caller service request _ := opened_enters mine
        have spans := opened_spans opened []
        rw [List.append_nil] at spans
        exact ⟨_,spans,.refused guarded⟩
      | settles _ =>
        obtain ⟨moments,opened,alone⟩ := owned.running _ _ _ _ mine
        exact ⟨moments,opened_spans opened _,alone⟩
      | resolves awaited resolved =>
        obtain ⟨moments,stage,led,opened,alone,_,_,_,stood⟩ := owned.joined _ _ _ _ mine
        refine ⟨moments,opened_spans opened _,?_⟩
        rw [awaited] at stood
        rcases stood with running | ⟨other,ended,returned⟩
        · cases running
          rcases resolved with same | same
          · cases same
            exact alone
          · cases same
        · cases returned
          rcases resolved with same | same
          · cases same
          · cases same
            rw [ended] at alone
            exact alone
  | restarts _ calls _ =>
    rw [calls] at here
    obtain ⟨call,was,became⟩ := Option.map_eq_some_iff.mp here
    rcases restarted_call became with dropped | ⟨rfl,_⟩
    · cases dropped
    · exact kept was

theorem run_owned (idle : Idle first) (run : Reached backend services first trace world)
    (fits : ∀ entry ∈ trace, Fits backend services entry.1 entry.2) : Owned backend services trace world := by
  induction run with
  | nil => exact idle_owned idle
  | @step trace before action after prior step ih =>
    rw [List.forall_mem_append,List.forall_mem_singleton] at fits
    have owned := ih fits.1
    refine ⟨?_,?_,?_⟩
    · exact fun _ _ _ _ here => step_running_owned owned step here
    · exact fun _ _ _ _ here => step_joined_owned (run_locked idle prior) (run_checked idle prior) (run_asking idle prior)
        (run_sending idle prior) owned fits.2 step here
    · exact fun _ _ _ _ here => step_returned_owned owned step here

-- Where whoever joins a call is alike to its leader and would have been told the
-- same so far, every caller gets an answer that its own request, alone, could have
-- got during its call, and one that is about that request.
theorem own_answers (backend : Backend) (services : ι → RelayerService) (first world : World ι)
    (trace : List (World ι × Action ι)) (idle : Idle first) (run : Reached backend services first trace world)
    (fits : ∀ entry ∈ trace, Fits backend services entry.1 entry.2) :
    ∀ caller service request result, world.calls caller = some ⟨service,request,.returned result⟩ →
      ∃ moments, Spans trace caller service request moments ∧
        Alone backend services service request moments (.settled result) ∧
        ∀ answer, result = .ok answer → Refers backend services service request moments answer := by
  intro caller service request result here
  obtain ⟨moments,spans,alone⟩ := (run_owned idle run fits).returned _ _ _ _ here
  exact ⟨moments,spans,alone,alone_stands alone⟩

abbrev SampleReached := Reached signingBackend (sampleServices false) (sampleWorld sampleGenesis 0)

-- A call of the nullifier is under way, and the sample request has joined it.
def joinedWorld (led : Request) : World Unit :=
  ((sampleWorld sampleGenesis 0).leads 0 () led .isSpent).move 1 ⟨(),sampleRequest,.dropped⟩ (.joined 0)

def resolvedWorld (led : Request) (result : Settled) : World Unit :=
  (joinedWorld led).move 0 ⟨(),led,.dropped⟩ (.running (.settled result))

theorem joinedWorld_leader (led : Request) : (joinedWorld led).calls 0 = some ⟨(),led,.running .isSpent⟩ := by
  rw [joinedWorld,move_calls,if_neg (by decide),leads_call]

theorem sample_address {led : Request} (named : led.nullifierHash = sampleRequest.nullifierHash) :
    nullifierPDA signingBackend (sampleServices false ()) led.nullifierHash = some sampleNullifierKey := by
  rw [named]
  exact sampleRequest_address _ rfl sampleRequest_number

-- The led request enters, the sample request joins it, and both are answered.
theorem sample_resolves {led : Request} (named : led.nullifierHash = sampleRequest.nullifierHash)
    (relayer : sampleRequest.relayer = led.relayer) (fee : sampleRequest.fee = led.fee)
    (answered : Reached signingBackend (sampleServices false) (joinedWorld led) steps (resolvedWorld led result)) :
    SampleReached ([(sampleWorld sampleGenesis 0,.enter 0 () led),
        ((sampleWorld sampleGenesis 0).leads 0 () led .isSpent,.enter 1 () sampleRequest)] ++ steps ++
          [(resolvedWorld led result,.join 1)])
        ((resolvedWorld led result).move 1 ⟨(),sampleRequest,.dropped⟩ (.returned result)) := by
  have guarded : guardRequest signingBackend (sampleServices false ()) sampleRequest = none := sampleRequest_guarded _
  have entered : Step signingBackend (sampleServices false) (sampleWorld sampleGenesis 0) (.enter 0 () led)
      ((sampleWorld sampleGenesis 0).leads 0 () led .isSpent) :=
    call_asks rfl (guard_same relayer fee guarded) rfl List.not_mem_nil (sample_address named)
  have held : ((sampleWorld sampleGenesis 0).leads 0 () led .isSpent).inFlight () sampleRequest.nullifierHash = some 0 := by
    rw [leads_lock,if_pos ⟨rfl,named.symm⟩]
  have joined : Step signingBackend (sampleServices false) ((sampleWorld sampleGenesis 0).leads 0 () led .isSpent)
      (.enter 1 () sampleRequest) _ := .enter rfl
  rw [process_joins guarded held] at joined
  have settled : (resolvedWorld led result).calls 0 = some ⟨(),led,.running (.settled result)⟩ := by
    rw [resolvedWorld,move_calls,if_pos rfl]
  have following : (resolvedWorld led result).calls 1 = some ⟨(),sampleRequest,.joined 0⟩ := by
    rw [resolvedWorld,move_calls,if_neg (by decide),joinedWorld,move_calls,if_pos rfl]
  have resolved : Step signingBackend (sampleServices false) (resolvedWorld led result) (.join 1) _ :=
    .join following settled (.inl rfl)
  exact .step (reached_trans (.step (.step .nil entered) joined) answered) resolved

theorem resolved_returned (led : Request) (result : Settled) :
    ((resolvedWorld led result).move 1 ⟨(),sampleRequest,.dropped⟩ (.returned result)).calls 1 =
      some ⟨(),sampleRequest,.returned result⟩ := by
  rw [move_calls,if_pos rfl]

theorem joinedWorld_absent (led : Request) : accountExists (joinedWorld led).ledger sampleNullifierKey = false := by
  have ledger : (joinedWorld led).ledger = sampleGenesis := rfl
  rw [ledger]
  decide

-- The same withdrawal, a coordinate of its proof written with another zero.
def paddedRequest : Request := { sampleRequest with proof := { sampleProof with piA := [['0','0'],decimal BN254_P.toNat] } }

theorem padded_differs : paddedRequest ≠ sampleRequest := by
  intro same
  have proofs : [['0','0'],decimal BN254_P.toNat] = [['0'],decimal BN254_P.toNat] :=
    congrArg (fun request : Request => request.proof.piA) same
  have length := congrArg (fun texts : List Text => texts.head?.map List.length) proofs
  cases length

theorem padded_named : paddedRequest.nullifierHash = sampleRequest.nullifierHash := by simp only [paddedRequest]

theorem padded_parity : checkPublicSignalsParity signingBackend.runtime.poseidon signingBackend.publicKey paddedRequest =
    checkPublicSignalsParity signingBackend.runtime.poseidon signingBackend.publicKey sampleRequest := by
  simp only [checkPublicSignalsParity,paddedRequest]

theorem padded_packed : convertProofToBytes paddedRequest.proof = convertProofToBytes sampleRequest.proof := by
  have read : bigInt ['0','0'] = bigInt ['0'] := by decide
  simp only [convertProofToBytes,coordinate,paddedRequest,sampleRequest,sampleRequestWith,sampleProof,
    List.getElem?_cons_zero,List.getElem?_cons_succ,Option.bind_some,read]

theorem padded_alike : Alike signingBackend (sampleServices false ()) sampleRequest paddedRequest where
  recipient := by simp only [paddedRequest]
  fee := by simp only [paddedRequest]
  parity := padded_parity
  proof _ := rfl
  instruction _ hotWallet _ := by
    rw [withdrawIx,padded_packed]
    simp only [withdrawIx,paddedRequest]

def poolMissing : WithdrawResult := failure paddedRequest (.submissionFailed (.poolMissing samplePool 1000000000))

-- Nobody has created the pool yet: both calls fail at it.
theorem padded_answered : ∃ steps, Reached signingBackend (sampleServices false) (joinedWorld paddedRequest) steps
      (resolvedWorld paddedRequest (.ok poolMissing)) ∧
    ∀ entry ∈ steps, ∀ caller service request, entry.2 ≠ .enter caller service request := by
  have vetted : Step signingBackend (sampleServices false) _ (.spent 0 (.ok false)) _ :=
    .spentAbsent (joinedWorld_leader paddedRequest) (sample_address padded_named) (joinedWorld_absent _)
  have parity : checkPublicSignalsParity signingBackend.runtime.poseidon signingBackend.publicKey paddedRequest = .ok () :=
    padded_parity.trans (sampleRequest_parity (bigInt_decimal _))
  have passed : afterSpent signingBackend (sampleServices false ()) paddedRequest (.ok false) = .getPool := by
    simp only [afterSpent,parity]
    rfl
  rw [passed] at vetted
  have missing : Truthful ((joinedWorld paddedRequest).move 0 ⟨(),paddedRequest,.dropped⟩ (.running .getPool)).ledger
      (sampleServices false ()).mixerPoolPDA (.ok false) := by
    intro found same
    cases same
    have absent : accountExists sampleGenesis samplePool = false := by decide
    exact absent.symm
  have standing : ((joinedWorld paddedRequest).move 0 ⟨(),paddedRequest,.dropped⟩ (.running .getPool)).calls 0 =
      some ⟨(),paddedRequest,.running .getPool⟩ := by rw [move_calls,if_pos rfl]
  have failed : Step signingBackend (sampleServices false) _ (.pool 0 (.ok false)) _ := .pool standing missing
  have run := Reached.step (.step .nil vetted) failed
  simp only [World.move,Function.update_idem] at run
  refine ⟨_,run,?_⟩
  simp only [List.nil_append,List.cons_append,List.forall_mem_cons]
  refine ⟨?_,?_,?_⟩
  · intro _ _ _ same
    cases same
  · intro _ _ _ same
    cases same
  · intro _ none
    cases none

-- The second request joins the first at its first query.
theorem sample_fits {led : Request} (last : World Unit)
    (alike : Alike signingBackend (sampleServices false ()) sampleRequest led) (root : led.root = sampleRequest.root)
    (inside : ∀ entry ∈ steps, ∀ caller service request, entry.2 ≠ .enter caller service request) :
    ∀ entry ∈ [(sampleWorld sampleGenesis 0,.enter 0 () led),
        ((sampleWorld sampleGenesis 0).leads 0 () led .isSpent,.enter 1 () sampleRequest)] ++ steps ++ [(last,.join 1)],
      Fits signingBackend (sampleServices false) entry.1 entry.2 := by
  intro entry member caller service request leader other stage named guarded stood same
  simp only [List.mem_append,List.mem_cons,List.not_mem_nil,or_false] at member
  rcases member with ((rfl | rfl) | middle) | rfl
  · cases stood
  · cases named
    rcases updated_call stood with ⟨_,nowhere⟩ | ⟨_,own⟩
    · cases nowhere
    · cases own
      exact ⟨alike,fun _ _ => root⟩
  · exact absurd named (inside entry middle _ _ _)
  · cases named

-- Two texts of one proof: the second call joins the first and is told of the missing pool.
theorem own_answers_sample : ∃ trace world moments answer, SampleReached trace world ∧
    (∃ earlier, (earlier,.enter 0 () paddedRequest) ∈ trace) ∧ paddedRequest ≠ sampleRequest ∧
    world.calls 1 = some ⟨(),sampleRequest,.returned (.ok answer)⟩ ∧ Spans trace 1 () sampleRequest moments ∧
    Alone signingBackend (sampleServices false) () sampleRequest moments (.settled (.ok answer)) ∧
    Refers signingBackend (sampleServices false) () sampleRequest moments answer := by
  obtain ⟨steps,answered,inside⟩ := padded_answered
  have run := sample_resolves padded_named (by simp only [paddedRequest]) (by simp only [paddedRequest]) answered
  have here := resolved_returned paddedRequest (.ok poolMissing)
  have fits := sample_fits (resolvedWorld paddedRequest (.ok poolMissing)) padded_alike (by simp only [paddedRequest]) inside
  obtain ⟨moments,spans,alone,refers⟩ := own_answers _ _ _ _ _ InFlight.sample_idle run fits _ _ _ _ here
  refine ⟨_,_,moments,_,run,?_,padded_differs,here,spans,alone,refers _ rfl⟩
  exact ⟨_,List.mem_append_left _ (List.mem_append_left _ List.mem_cons_self)⟩

-- The same withdrawal with another root in the body.
def garbledRequest : Request := { sampleRequest with root := ['0'] }

theorem garbledRequest_refused : ∃ reason,
    checkPublicSignalsParity signingBackend.runtime.poseidon signingBackend.publicKey garbledRequest = .error reason := by
  match parity : checkPublicSignalsParity signingBackend.runtime.poseidon signingBackend.publicKey garbledRequest with
  | .error reason => exact ⟨reason,rfl⟩
  | .ok () =>
    have listed : printedSignals sampleValues = [decimal (sampleValues 0),decimal (sampleValues 1),
      decimal (sampleValues 2),decimal (sampleValues 3),decimal (sampleValues 4)] := by simp [printedSignals,List.finRange]
    have zero : parse ['0'] = .ok 0 := by decide
    simp only [checkPublicSignalsParity,garbledRequest,sampleRequest,sampleRequestWith,listed,zero,do_ok,require_ok] at parity
    obtain ⟨sigRoot,parsed,_,_,_,_,_,_,_,_,root,same,_,equal,_⟩ := parity
    rw [parse,bigInt_decimal] at parsed
    cases parsed
    cases same
    exact absurd equal (by decide)

-- The garbled request leads; the sound one that joins it is told of a mismatch.
theorem joiner_misled : ∃ trace world result, SampleReached trace world ∧
    world.calls 1 = some ⟨(),sampleRequest,.returned result⟩ ∧ Admissible signingBackend sampleRequest ∧
    ∀ moments, ¬Alone signingBackend (sampleServices false) () sampleRequest moments (.settled result) := by
  have named : garbledRequest.nullifierHash = sampleRequest.nullifierHash := by simp only [garbledRequest]
  have answered : Step signingBackend (sampleServices false) _ (.spent 0 (.ok false)) _ :=
    .spentAbsent (joinedWorld_leader garbledRequest) (sample_address named) (joinedWorld_absent _)
  obtain ⟨reason,refused⟩ := garbledRequest_refused
  have ended : afterSpent signingBackend (sampleServices false ()) garbledRequest (.ok false) =
      .settled (.ok (failure garbledRequest (.signalMismatch reason))) := by
    simp only [afterSpent,refused]
  rw [ended] at answered
  have run := sample_resolves named (by simp only [garbledRequest]) (by simp only [garbledRequest]) (.step .nil answered)
  have here := resolved_returned garbledRequest (.ok (failure garbledRequest (.signalMismatch reason)))
  have admissible : Admissible signingBackend sampleRequest := ⟨sampleRequest_parity (bigInt_decimal _),rfl⟩
  refine ⟨_,_,_,run,here,admissible,fun moments alone => ?_⟩
  exact ((alone_stands alone _ rfl).valid admissible).1 reason rfl

end Octora.Relayer.Joiners
