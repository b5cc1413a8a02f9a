import Octora.Relayer.Landings

namespace Octora.Relayer.InFlight
open BigEndian BigIntText SolanaTx

variable {ι : Type}

def Submitting (world : World ι) (caller : Nat) (service : ι) (nullifier : Int) : Prop :=
  ∃ request stage, world.calls caller = some ⟨service,request,.running stage⟩ ∧ stage.phase = .submission ∧
    bigInt request.nullifierHash = some nullifier

def Succeeded (world : World ι) (caller : Nat) (service : ι) (nullifier : Int) : Prop :=
  ∃ request answer, (world.calls caller = some ⟨service,request,.running (.settled (.ok answer))⟩ ∨
      world.calls caller = some ⟨service,request,.returned (.ok answer)⟩) ∧ answer.success = true ∧
    bigInt request.nullifierHash = some nullifier

-- One submission at a time for a nullifier, and none once one has succeeded.
structure OneSubmission (world : World ι) : Prop where
  single : ∀ one two service nullifier, Submitting world one service nullifier → Submitting world two service nullifier →
    one = two
  final : ∀ one two service nullifier, Succeeded world one service nullifier → ¬Submitting world two service nullifier

-- The entering request writes its nullifier as those under way do that name the same number.
def SameText (backend : Backend) (before : World ι) (action : Action ι) : Prop :=
  ∀ caller service request other held stage, action = .enter caller service request →
    before.calls other = some ⟨service,held,.running stage⟩ → stage.phase ≠ .ended →
    Admissible backend request → Admissible backend held →
    bigInt held.nullifierHash = bigInt request.nullifierHash → held.nullifierHash = request.nullifierHash

structure Exclusive (backend : Backend) (world : World ι) : Prop where
  single : ∀ one two service left right stage stage', world.calls one = some ⟨service,left,.running stage⟩ →
    world.calls two = some ⟨service,right,.running stage'⟩ → stage.phase ≠ .ended → stage'.phase ≠ .ended →
    Admissible backend left → Admissible backend right → bigInt left.nullifierHash = bigInt right.nullifierHash → one = two
  final : ∀ one two service nullifier request stage, Succeeded world one service nullifier →
    world.calls two = some ⟨service,request,.running stage⟩ → stage.phase = .delay ∨ stage.phase = .submission →
    Admissible backend request → bigInt request.nullifierHash ≠ some nullifier

section Stages
variable {backend : Backend} {service : RelayerService} {request : Request}

theorem guard_fails (guarded : guardRequest backend service request = some answer) : answer.success = false := by
  unfold guardRequest at guarded
  split at guarded
  · cases guarded
    rfl
  · split at guarded
    · cases guarded
      rfl
    · split at guarded
      · cases guarded
        rfl
      · cases guarded

theorem nullifierPDA_named (same : bigInt one = bigInt two) :
    nullifierPDA backend service one = nullifierPDA backend service two := by
  rw [nullifierPDA,nullifierPDA,same]

theorem withdrawIx_nullifier (built : withdrawIx backend service hotWallet request = some ix) :
    nullifierPDA backend service request.nullifierHash = some ix.accounts.nullifierAccount := by
  simp only [withdrawIx,Option.bind_eq_bind,Option.bind_eq_some_iff] at built
  obtain ⟨_,_,_,_,_,_,_,_,key,address,_,_,same⟩ := built
  cases same
  exact address

end Stages

variable {backend : Backend} {services : ι → RelayerService} {first before after : World ι}

-- The lock keeps out the same text, and no other text names the same number.
theorem entered_alone (locked : Locked backend services before) (same : SameText backend before action)
    (entered : Entered backend services before caller service request action stage)
    (was : before.calls other = some ⟨service,held,.running old⟩) (open_ : old.phase ≠ .ended)
    (own : Admissible backend request) (theirs : Admissible backend held) :
    bigInt held.nullifierHash ≠ bigInt request.nullifierHash := by
  intro number
  have holds := locked.held _ _ _ _ was
  rw [same _ _ _ _ _ _ entered.named was open_ own theirs number,entered.free] at holds
  cases holds

abbrev sameText (_ : ι) (request led : Request) : Prop := led.nullifierHash = request.nullifierHash

-- Once a withdrawal has succeeded, the chain has the nullifier's account.
theorem succeeded_exists (chained : Chained backend first before)
    (answers : Answers backend services sameText (Won backend services) before)
    (succeeded : Succeeded before caller service nullifier) (number : bigInt text = some nullifier)
    (address : nullifierPDA backend (services service) text = some key) : accountExists before.ledger key = true := by
  obtain ⟨request,answer,here,success,named⟩ := succeeded
  have won : ∃ led, bigInt led.nullifierHash = some nullifier ∧ Won backend services before service led (.ok answer) := by
    rcases here with settled | returned
    · exact ⟨request,named,answers.settled _ _ _ _ settled⟩
    · rcases answers.returned _ _ _ _ returned with ⟨refused,guarded,same⟩ | ⟨_,led,same,won⟩
      · cases same
        rw [guard_fails guarded] at success
        cases success
      · exact ⟨led,same ▸ named,won⟩
  obtain ⟨led,named,won⟩ := won
  obtain ⟨hotWallet,ix,signature,_,built,landed,_⟩ := won answer rfl success
  have same := withdrawIx_nullifier built
  rw [nullifierPDA_named (named.trans number.symm),address] at same
  rw [Option.some.inj same]
  exact accountExists_owned (chained.owned _ _ landed)

theorem idle_exclusive (idle : Idle first) : Exclusive backend first := by
  have nowhere : ∀ {caller call}, first.calls caller = some call → False := by
    intro caller call here
    rw [idle.calls caller] at here
    cases here
  refine ⟨fun _ _ _ _ _ _ _ here => (nowhere here).elim,?_⟩
  rintro _ _ _ _ _ _ _ here
  exact (nowhere here).elim

variable [DecidableEq ι]

-- A call short of its end was so before, or has just entered.
theorem step_open (step : Step backend services before action after)
    (here : after.calls caller = some ⟨service,request,.running stage⟩) :
    (∃ old, before.calls caller = some ⟨service,request,.running old⟩ ∧ (stage.phase ≠ .ended → old.phase ≠ .ended)) ∨
      Entered backend services before caller service request action stage := by
  rcases step_running step here with was | entered | ⟨old,was,advance⟩
  · exact .inl ⟨stage,was,id⟩
  · exact .inr entered
  · refine .inl ⟨old,was,fun _ => ?_⟩
    cases advance <;> nofun

theorem step_single (exclusive : Exclusive backend before) (locked : Locked backend services before)
    (same : SameText backend before action) (step : Step backend services before action after)
    (here : after.calls one = some ⟨service,left,.running stage⟩)
    (there : after.calls two = some ⟨service,right,.running stage'⟩) (open_ : stage.phase ≠ .ended)
    (open' : stage'.phase ≠ .ended) (first : Admissible backend left) (second : Admissible backend right)
    (number : bigInt left.nullifierHash = bigInt right.nullifierHash) : one = two := by
  rcases step_open step here with ⟨old,was,kept⟩ | entered <;> rcases step_open step there with ⟨old',was',kept'⟩ | entered'
  · exact exclusive.single _ _ _ _ _ _ _ was was' (kept open_) (kept' open') first second number
  · exact absurd number (entered_alone locked same entered' was (kept open_) second first)
  · exact absurd number.symm (entered_alone locked same entered was' (kept' open') first second)
  · have named := entered.named.symm.trans entered'.named
    cases named
    rfl

-- A success was one before, or is the end of a submission.
theorem step_succeeded (followed : Followed backend services sameText before)
    (step : Step backend services before action after) (succeeded : Succeeded after caller service nullifier) :
    (∃ other, Succeeded before other service nullifier) ∨
      ∃ request stage, before.calls caller = some ⟨service,request,.running stage⟩ ∧ stage.phase = .submission ∧
        bigInt request.nullifierHash = some nullifier := by
  obtain ⟨request,answer,here,success,number⟩ := succeeded
  rcases here with settled | returned
  · rcases step_running step settled with was | entered | ⟨old,was,advance⟩
    · exact .inl ⟨caller,request,answer,.inl was,success,number⟩
    · exact absurd ⟨answer,entered.begun.symm,success⟩ (begin_loses before service request)
    · generalize named : Stage.settled (.ok answer) = stage at advance
      have wins : stage.wins := ⟨answer,named.symm,success⟩
      cases advance with
      | spentFound _ _ => exact absurd wins (afterSpent_loses _)
      | spentAbsent _ _ => exact absurd wins (afterSpent_loses _)
      | spentFails => exact absurd wins (afterSpent_loses _)
      | @slotRead answer => cases answer <;> cases named
      | observed _ => exact absurd wins (afterDelay_loses _)
      | observeFails _ => cases named
      | pool _ => exact absurd wins (afterPool_loses _)
      | rpc _ => exact .inr ⟨request,_,was,rfl,number⟩
      | diagnosed => exact absurd wins (afterSubmission_loses _)
  · cases step_move step with
    | outside calls _ => exact .inl ⟨caller,request,answer,.inr (calls ▸ returned),success,number⟩
    | shifts was shift calls _ =>
      rcases updated_call (calls ▸ returned) with ⟨_,old⟩ | ⟨_,moved⟩
      · exact .inl ⟨caller,request,answer,.inr old,success,number⟩
      · cases moved
        cases shift with
        | refused _ guarded =>
          rw [(guard_fails guarded)] at success
          cases success
        | settles _ => exact .inl ⟨_,request,answer,.inl was,success,number⟩
        | resolves awaited resolved =>
          obtain ⟨_,led,fiber,stood,same,_⟩ := followed _ _ _ _ was
          rw [awaited] at stood
          cases stood
          rw [← same] at number
          rcases resolved with running | finished
          · cases running
            exact .inl ⟨_,led,answer,.inl awaited,success,number⟩
          · cases finished
            exact .inl ⟨_,led,answer,.inr awaited,success,number⟩
    | restarts _ calls _ =>
      rw [calls] at returned
      obtain ⟨call,was,became⟩ := Option.map_eq_some_iff.mp returned
      rcases restarted_call became with dropped | ⟨rfl,_⟩
      · cases dropped
      · exact .inl ⟨caller,request,answer,.inr was,success,number⟩

theorem step_final (exclusive : Exclusive backend before) (checked : Checked backend services before) (chained : Chained backend first before)
    (followed : Followed backend services sameText before)
    (answers : Answers backend services sameText (Won backend services) before)
    (step : Step backend services before action after) (succeeded : Succeeded after one service nullifier)
    (here : after.calls two = some ⟨service,request,.running stage⟩) (late : stage.phase = .delay ∨ stage.phase = .submission)
    (own : Admissible backend request) : bigInt request.nullifierHash ≠ some nullifier := by
  intro number
  have open_ : stage.phase ≠ .ended := by
    rcases late with phase | phase <;> rw [phase] <;> nofun
  rcases step_succeeded followed step succeeded with ⟨other,earlier⟩ | ⟨led,ending,ran,phase,named⟩
  · rcases step_running step here with was | entered | ⟨old,was,advance⟩
    · exact exclusive.final _ _ _ _ _ _ earlier was late own number
    · rcases entered_phase entered with phase | phase <;> rw [phase] at late <;> rcases late with same | same <;> cases same
    · have further : old.phase = .delay ∨ old.phase = .submission → False := fun before =>
        exclusive.final _ _ _ _ _ _ earlier was before own number
      cases advance with
      | spentFound _ _ => rcases late with same | same <;> cases same
      | spentAbsent address absent =>
        rw [succeeded_exists chained answers earlier number address] at absent
        cases absent
      | spentFails => rcases late with same | same <;> cases same
      | slotRead => exact further (.inl rfl)
      | observed _ => exact further (.inl rfl)
      | observeFails _ => exact further (.inl rfl)
      | pool _ => exact further (.inr rfl)
      | rpc _ => exact further (.inr rfl)
      | diagnosed => exact further (.inr rfl)
  · rcases step_open step here with ⟨old,was,kept⟩ | entered
    · have same := exclusive.single _ _ _ _ _ _ _ ran was (by rw [phase]; nofun) (kept open_)
        (checked.submitted _ _ _ _ ran phase) own (named.trans number.symm)
      subst same
      obtain ⟨_,_,ended,_,_⟩ := succeeded
      rw [here] at ended
      rcases ended with settled | returned
      · cases settled
        exact open_ rfl
      · cases returned
    · rcases entered_phase entered with phase | phase <;> rw [phase] at late <;> rcases late with same | same <;> cases same

theorem step_exclusive (exclusive : Exclusive backend before) (checked : Checked backend services before) (locked : Locked backend services before)
    (chained : Chained backend first before) (followed : Followed backend services sameText before)
    (answers : Answers backend services sameText (Won backend services) before) (same : SameText backend before action)
    (step : Step backend services before action after) : Exclusive backend after := by
  refine ⟨?_,?_⟩
  · exact fun _ _ _ _ _ _ _ here there => step_single exclusive locked same step here there
  · exact fun _ _ _ _ _ _ succeeded here late own =>
      step_final exclusive checked chained followed answers step succeeded here late own

theorem run_exclusive (signed : backend.Signed) (idle : Idle first) (unlogged : Unlogged first)
    (run : Reached backend services first trace world) (same : ∀ entry ∈ trace, SameText backend entry.1 entry.2) :
    Exclusive backend world := by
  induction run with
  | nil => exact idle_exclusive idle
  | @step trace before action after prior step ih =>
    rw [List.forall_mem_append,List.forall_mem_singleton] at same
    have won : Followed backend services sameText before ∧ Answers backend services sameText (Won backend services) before :=
      run_won signed (fun _ _ => rfl) (fun _ _ _ _ one two => two.trans one) idle unlogged prior
        fun _ _ _ _ _ _ _ _ _ _ _ text => text
    obtain ⟨followed,answers⟩ := won
    exact step_exclusive (ih same.1) (run_checked idle prior) (run_locked idle prior) (run_chained unlogged prior) followed answers same.2 step

-- Where no two texts of one number are under way together, one call at a time
-- submits for a nullifier, and none after a success.
theorem one_submission (backend : Backend) (services : ι → RelayerService) (signed : backend.Signed)
    (first world : World ι) (trace : List (World ι × Action ι)) (idle : Idle first) (unlogged : Unlogged first)
    (run : Reached backend services first trace world) (same : ∀ entry ∈ trace, SameText backend entry.1 entry.2) :
    OneSubmission world := by
  have exclusive := run_exclusive signed idle unlogged run same
  have checked := run_checked idle run
  refine ⟨?_,?_⟩
  · rintro one two service nullifier ⟨left,stage,here,phase,number⟩ ⟨right,stage',there,phase',number'⟩
    exact exclusive.single _ _ _ _ _ _ _ here there (by rw [phase]; nofun) (by rw [phase']; nofun)
      (checked.submitted _ _ _ _ here phase) (checked.submitted _ _ _ _ there phase') (number.trans number'.symm)
  · rintro one two service nullifier succeeded ⟨request,stage,here,phase,number⟩
    exact exclusive.final _ _ _ _ _ _ succeeded here (.inr phase) (checked.submitted _ _ _ _ here phase) number

def sampleText : Text := decimal (sampleValues 1)

-- The same number with a zero in front.
theorem padded_number : bigInt ('0' :: sampleText) = some (sampleValues 1 : Int) := by decide

abbrev SampleReached := Reached signingBackend (sampleServices false) (sampleWorld sampleGenesis 0)

-- The sample request has been verified and is about to be submitted.
def submittingWorld : World Unit := (sampleWorld sampleGenesis 0).leads 0 () sampleRequest .getPool

theorem sample_submits : ∃ trace, SampleReached trace submittingWorld ∧
    ∀ entry ∈ trace, SameText signingBackend entry.1 entry.2 := by
  have absent : accountExists (sampleWorld sampleGenesis 0).ledger sampleNullifierKey = false := by decide
  have vetted := sample_vetted false (sampleWorld sampleGenesis 0) 0 (bigInt_decimal (sampleValues 1)) rfl rfl
    List.not_mem_nil absent
  refine ⟨_,vetted,?_⟩
  rw [List.forall_mem_cons,List.forall_mem_singleton]
  refine ⟨?_,nofun⟩
  intro _ _ _ _ _ _ _ here
  cases here

theorem sample_submitting : Submitting submittingWorld 0 () (sampleValues 1) := by
  have here : submittingWorld.calls 0 = some ⟨(),sampleRequest,.running .getPool⟩ := by
    rw [submittingWorld,leads_call]
  exact ⟨sampleRequest,.getPool,here,rfl,sampleRequest_number⟩

theorem sample_idle : Idle (sampleWorld sampleGenesis 0) := ⟨fun _ => rfl,fun _ _ => rfl⟩

theorem sample_unlogged : Unlogged (sampleWorld sampleGenesis 0) := ⟨rfl,rfl⟩

-- A second request under the same text joins the first.
theorem one_submission_sample : ∃ trace world, SampleReached trace world ∧ Submitting world 0 () (sampleValues 1) ∧
    world.calls 1 = some ⟨(),sampleRequest,.joined 0⟩ ∧ OneSubmission world := by
  obtain ⟨trace,run,same⟩ := sample_submits
  have fresh : submittingWorld.calls 1 = none := rfl
  have guarded : guardRequest signingBackend (sampleServices false ()) sampleRequest = none := sampleRequest_guarded _
  have held : submittingWorld.inFlight () sampleRequest.nullifierHash = some 0 := by
    rw [submittingWorld,leads_lock,if_pos ⟨rfl,rfl⟩]
  have entered : Step signingBackend (sampleServices false) submittingWorld (.enter 1 () sampleRequest) _ := .enter fresh
  rw [process_joins guarded held] at entered
  have joined := run.step entered
  refine ⟨_,_,joined,?_,?_,one_submission _ _ signingBackend_signed _ _ _ sample_idle sample_unlogged joined ?_⟩
  · obtain ⟨request,stage,here,facts⟩ := sample_submitting
    exact ⟨request,stage,(move_calls _ _ _ _ _).trans here,facts⟩
  · exact (move_calls _ _ _ _ _).trans (if_pos rfl)
  · rw [List.forall_mem_append,List.forall_mem_singleton]
    refine ⟨same,?_⟩
    intro caller service request other held stage named here _ _ _ _
    cases named
    rcases updated_call here with ⟨_,nowhere⟩ | ⟨_,own⟩
    · cases nowhere
    · cases own
      rfl

-- The second text finds no lock and no cache entry: both calls come to submit.
theorem two_texts_submit : ∃ trace world, SampleReached trace world ∧ ¬OneSubmission world := by
  obtain ⟨trace,run,_⟩ := sample_submits
  have other : ¬('0' :: sampleText = sampleRequest.nullifierHash) := by decide
  have free : submittingWorld.inFlight () ('0' :: sampleText) = none := by
    rw [submittingWorld,leads_lock,if_neg fun both => other both.2]
    rfl
  have absent : accountExists submittingWorld.ledger sampleNullifierKey = false := by decide
  have vetted := sample_vetted false submittingWorld 1 padded_number rfl free List.not_mem_nil absent
  refine ⟨_,_,reached_trans run vetted,fun only => ?_⟩
  have one : Submitting _ 0 () (sampleValues 1 : Int) := sample_submitting
  have two : Submitting (submittingWorld.leads 1 () (sampleRequestWith ('0' :: sampleText)) .getPool) 1 ()
      (sampleValues 1) := ⟨_,.getPool,leads_call _ 1 () _ .getPool,rfl,padded_number⟩
  cases only.single 0 1 () _ one two

end Octora.Relayer.InFlight
