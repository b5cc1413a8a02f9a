import Octora.Relayer.Progress

namespace Octora.Relayer
open BigEndian BigIntText SolanaTx

variable {ι : Type}

-- The calls under way are the holders of the locks.
structure Locked (backend : Backend) (services : ι → RelayerService) (world : World ι) : Prop where
  held : ∀ caller service request stage, world.calls caller = some ⟨service,request,.running stage⟩ →
    world.inFlight service request.nullifierHash = some caller
  holder : ∀ service text leader, world.inFlight service text = some leader →
    ∃ request stage, world.calls leader = some ⟨service,request,.running stage⟩ ∧ request.nullifierHash = text
  guarded : ∀ caller service request stage, world.calls caller = some ⟨service,request,.running stage⟩ →
    guardRequest backend (services service) request = none

-- Whoever joined stands to the request it follows as `relates` says.
def Followed (backend : Backend) (services : ι → RelayerService) (relates : ι → Request → Request → Prop)
    (world : World ι) : Prop :=
  ∀ caller service request leader, world.calls caller = some ⟨service,request,.joined leader⟩ →
    guardRequest backend (services service) request = none ∧
      ∃ led fiber, world.calls leader = some ⟨service,led,fiber⟩ ∧ relates service request led ∧
        guardRequest backend (services service) led = none

-- What the promises have been settled with. A request refused at once was never
-- under way; every other answer is that of a request that led.
structure Answers (backend : Backend) (services : ι → RelayerService) (relates : ι → Request → Request → Prop)
    (good : World ι → ι → Request → Settled → Prop) (world : World ι) : Prop where
  settled : ∀ caller service request result,
    world.calls caller = some ⟨service,request,.running (.settled result)⟩ → good world service request result
  returned : ∀ caller service request result, world.calls caller = some ⟨service,request,.returned result⟩ →
    (∃ refused, guardRequest backend (services service) request = some refused ∧ result = .ok refused) ∨
    (guardRequest backend (services service) request = none ∧
      ∃ led, relates service request led ∧ good world service led result)

theorem idle_locked {backend : Backend} {services : ι → RelayerService} (idle : Idle first) :
    Locked backend services first := by
  refine ⟨?_,?_,?_⟩
  · intro caller _ _ _ here
    rw [idle.calls caller] at here
    cases here
  · intro service text _ here
    rw [idle.locks service text] at here
    cases here
  · intro caller _ _ _ here
    rw [idle.calls caller] at here
    cases here

theorem idle_followed {backend : Backend} {services : ι → RelayerService} {relates : ι → Request → Request → Prop}
    (idle : Idle first) : Followed backend services relates first := by
  intro caller _ _ _ here
  rw [idle.calls caller] at here
  cases here

theorem idle_answers {backend : Backend} {services : ι → RelayerService} {relates : ι → Request → Request → Prop}
    {good : World ι → ι → Request → Settled → Prop} (idle : Idle first) : Answers backend services relates good first := by
  refine ⟨?_,?_⟩
  · intro caller _ _ _ here
    rw [idle.calls caller] at here
    cases here
  · intro caller _ _ _ here
    rw [idle.calls caller] at here
    cases here

variable [DecidableEq ι]

theorem relock (locks : ι → Text → Option Nat) (service other : ι) (text name : Text) (value : Option Nat) :
    Function.update locks service (Function.update (locks service) text value) other name =
      if other = service ∧ name = text then value else locks other name := by
  by_cases here : other = service
  · subst here
    rw [Function.update_self,Function.update_apply]
    simp only [true_and]
  · rw [Function.update_of_ne here,if_neg fun both => here both.1]

theorem leads_lock (world : World ι) (caller : Nat) (service other : ι) (request : Request) (stage : Stage) (name : Text) :
    (world.leads caller service request stage).inFlight other name =
      if other = service ∧ name = request.nullifierHash then some caller else world.inFlight other name :=
  relock world.inFlight service other request.nullifierHash name (some caller)

section Steps
variable {backend : Backend} {services : ι → RelayerService} {before after : World ι}

-- A call that stands somewhere stands somewhere after the step, too.
theorem step_standing (step : Step backend services before action after)
    (here : before.calls caller = some ⟨service,request,fiber⟩) :
    ∃ next, after.calls caller = some ⟨service,request,next⟩ := by
  cases step_move step with
  | outside calls _ => exact ⟨fiber,calls ▸ here⟩
  | @shifts mover held asked old next lock was shift calls _ =>
    by_cases same : caller = mover
    · subst same
      rw [here] at was
      obtain ⟨_,_,moved⟩ := Option.map_eq_some_iff.mp was.symm
      cases moved
      exact ⟨next,by rw [calls,Function.update_self]⟩
    · exact ⟨fiber,by rw [calls,Function.update_of_ne same,here]⟩
  | restarts _ calls _ =>
    rw [calls]
    dsimp only
    rw [here]
    dsimp only [Option.map_some]
    split
    · exact ⟨_,rfl⟩
    · split <;> exact ⟨_,rfl⟩

theorem step_held (locked : Locked backend services before) (step : Step backend services before action after)
    (here : after.calls caller = some ⟨service,request,.running stage⟩) :
    after.inFlight service request.nullifierHash = some caller := by
  cases step_move step with
  | outside calls locks =>
    rw [locks]
    exact locked.held _ _ _ _ (calls ▸ here)
  | shifts was shift calls locks =>
    rcases updated_call (calls ▸ here) with ⟨other,old⟩ | ⟨rfl,moved⟩
    · have holds := locked.held _ _ _ _ old
      rw [locks]
      cases shift with
      | leads entered =>
        rw [Option.elim_some,relock,if_neg ?_,holds]
        rintro ⟨rfl,same⟩
        rw [same,entered.free] at holds
        cases holds
      | settles _ =>
        rw [Option.elim_some,relock,if_neg ?_,holds]
        rintro ⟨rfl,same⟩
        rw [same,locked.held _ _ _ _ was] at holds
        exact other (Option.some.inj holds).symm
      | _ => exact holds
    · cases moved
      rw [locks]
      cases shift with
      | leads _ => rw [Option.elim_some,relock,if_pos ⟨rfl,rfl⟩]
      | advances _ => exact locked.held _ _ _ _ was
  | restarts _ calls locks =>
    rw [calls] at here
    obtain ⟨call,was,became⟩ := Option.map_eq_some_iff.mp here
    rcases restarted_call became with dropped | ⟨rfl,other⟩
    · cases dropped
    · rw [locks,Function.update_of_ne (other _ rfl)]
      exact locked.held _ _ _ _ was

theorem step_holder (locked : Locked backend services before) (step : Step backend services before action after)
    (here : after.inFlight service text = some leader) :
    ∃ request stage, after.calls leader = some ⟨service,request,.running stage⟩ ∧ request.nullifierHash = text := by
  cases step_move step with
  | outside calls locks =>
    rw [calls]
    exact locked.holder _ _ _ (locks ▸ here)
  | @shifts mover held asked old fiber lock was shift calls locks =>
    have stays : before.inFlight service text = some leader → leader ≠ mover →
        ∃ request stage, after.calls leader = some ⟨service,request,.running stage⟩ ∧ request.nullifierHash = text := by
      intro holds other
      obtain ⟨request,stage,stood,same⟩ := locked.holder _ _ _ holds
      exact ⟨request,stage,by rw [calls,Function.update_of_ne other,stood],same⟩
    have apart : before.inFlight service text = some leader → (∀ stage, old ≠ some (.running stage)) → leader ≠ mover := by
      rintro holds stopped rfl
      obtain ⟨request,stage,stood,_⟩ := locked.holder _ _ _ holds
      rw [was] at stood
      obtain ⟨_,found,moved⟩ := Option.map_eq_some_iff.mp stood
      cases moved
      exact stopped _ found
    rw [locks] at here
    cases shift with
    | refused _ _ => exact stays here (apart here nofun)
    | joins _ _ _ => exact stays here (apart here nofun)
    | leads _ =>
      rw [Option.elim_some,relock] at here
      split at here
      · rename_i both
        obtain ⟨rfl,rfl⟩ := both
        cases here
        exact ⟨_,_,by rw [calls,Function.update_self],rfl⟩
      · exact stays here (apart here nofun)
    | @advances old next advance =>
      by_cases own : leader = mover
      · obtain ⟨request,stage,stood,same⟩ := locked.holder _ _ _ here
        subst own
        rw [was] at stood
        cases stood
        exact ⟨_,next,by rw [calls,Function.update_self],same⟩
      · exact stays here own
    | settles _ =>
      rw [Option.elim_some,relock] at here
      split at here
      · cases here
      · rename_i other
        refine stays here ?_
        rintro rfl
        obtain ⟨request,stage,stood,same⟩ := locked.holder _ _ _ here
        rw [was] at stood
        cases stood
        exact other ⟨rfl,same.symm⟩
    | resolves _ _ => exact stays here (apart here nofun)
  | @restarts restarted named calls locks =>
    by_cases own : service = restarted
    · rw [locks,own,Function.update_self] at here
      cases here
    · rw [locks,Function.update_of_ne own] at here
      obtain ⟨request,stage,stood,same⟩ := locked.holder _ _ _ here
      refine ⟨request,stage,?_,same⟩
      rw [calls]
      simp only [stood,Option.map_some,if_neg own]

theorem step_guarded (locked : Locked backend services before) (step : Step backend services before action after)
    (here : after.calls caller = some ⟨service,request,.running stage⟩) :
    guardRequest backend (services service) request = none := by
  rcases step_running step here with was | entered | ⟨old,was,_⟩
  · exact locked.guarded _ _ _ _ was
  · exact entered.guarded
  · exact locked.guarded _ _ _ _ was

theorem step_locked (locked : Locked backend services before) (step : Step backend services before action after) :
    Locked backend services after :=
  ⟨fun _ _ _ _ here => step_held locked step here,fun _ _ _ here => step_holder locked step here,
    fun _ _ _ _ here => step_guarded locked step here⟩

theorem run_locked (idle : Idle first) (run : Reached backend services first trace world) :
    Locked backend services world := by
  induction run with
  | nil => exact idle_locked idle
  | step _ step ih => exact step_locked ih step

variable {relates : ι → Request → Request → Prop}

-- What a joining request finds under way under its text.
def Joining (backend : Backend) (services : ι → RelayerService) (relates : ι → Request → Request → Prop)
    (before : World ι) (action : Action ι) : Prop :=
  ∀ caller service request leader led stage, action = .enter caller service request →
    guardRequest backend (services service) request = none →
    before.calls leader = some ⟨service,led,.running stage⟩ → led.nullifierHash = request.nullifierHash →
    relates service request led

theorem step_followed (locked : Locked backend services before) (followed : Followed backend services relates before)
    (joining : Joining backend services relates before action) (step : Step backend services before action after) :
    Followed backend services relates after := by
  intro caller service request leader here
  have stands : ∀ {led : Request} {fiber : Fiber}, before.calls leader = some ⟨service,led,fiber⟩ →
      relates service request led → guardRequest backend (services service) led = none →
      ∃ led fiber, after.calls leader = some ⟨service,led,fiber⟩ ∧ relates service request led ∧
        guardRequest backend (services service) led = none := by
    intro led fiber was related guarded
    obtain ⟨next,now⟩ := step_standing step was
    exact ⟨led,next,now,related,guarded⟩
  have kept : before.calls caller = some ⟨service,request,.joined leader⟩ →
      guardRequest backend (services service) request = none ∧
        ∃ led fiber, after.calls leader = some ⟨service,led,fiber⟩ ∧ relates service request led ∧
          guardRequest backend (services service) led = none := by
    intro was
    obtain ⟨own,led,fiber,stood,related,guarded⟩ := followed _ _ _ _ was
    exact ⟨own,stands stood related guarded⟩
  cases step_move step with
  | outside calls _ => exact kept (calls ▸ here)
  | shifts _ shift calls _ =>
    rcases updated_call (calls ▸ here) with ⟨_,old⟩ | ⟨_,moved⟩
    · exact kept old
    · cases moved
      cases shift with
      | joins named own held =>
        obtain ⟨led,stage,stood,same⟩ := locked.holder _ _ _ held
        exact ⟨own,stands stood (joining _ _ _ _ _ _ named own stood same) (locked.guarded _ _ _ _ stood)⟩
  | restarts _ calls _ =>
    rw [calls] at here
    obtain ⟨call,was,became⟩ := Option.map_eq_some_iff.mp here
    rcases restarted_call became with dropped | ⟨rfl,_⟩
    · cases dropped
    · exact kept was

variable {good : World ι → ι → Request → Settled → Prop}

theorem step_answers (reflexive : ∀ service request, relates service request request)
    (transitive : ∀ service one two three, relates service one two → relates service two three → relates service one three)
    (locked : Locked backend services before) (followed : Followed backend services relates before)
    (answers : Answers backend services relates good before) (step : Step backend services before action after)
    (stable : ∀ service request result, good before service request result → good after service request result)
    (begun : ∀ caller service request result,
      Entered backend services before caller service request action (.settled result) → good after service request result)
    (advanced : ∀ caller service request old result,
      before.calls caller = some ⟨service,request,.running old⟩ →
      Advance backend services before caller service request old action (.settled result) →
      good after service request result) :
    Answers backend services relates good after := by
  have kept : ∀ {caller service request result}, before.calls caller = some ⟨service,request,.returned result⟩ →
      (∃ refused, guardRequest backend (services service) request = some refused ∧ result = .ok refused) ∨
      (guardRequest backend (services service) request = none ∧
        ∃ led, relates service request led ∧ good after service led result) := by
    intro caller service request result was
    rcases answers.returned _ _ _ _ was with refused | ⟨own,led,related,sound⟩
    · exact .inl refused
    · exact .inr ⟨own,led,related,stable _ _ _ sound⟩
  refine ⟨?_,?_⟩
  · intro caller service request result here
    rcases step_running step here with was | entered | ⟨old,was,advance⟩
    · exact stable _ _ _ (answers.settled _ _ _ _ was)
    · exact begun _ _ _ _ entered
    · exact advanced _ _ _ _ _ was advance
  · intro caller service request result here
    cases step_move step with
    | outside calls _ => exact kept (calls ▸ here)
    | shifts was shift calls _ =>
      rcases updated_call (calls ▸ here) with ⟨_,old⟩ | ⟨_,moved⟩
      · exact kept old
      · cases moved
        cases shift with
        | refused _ guarded => exact .inl ⟨_,guarded,rfl⟩
        | settles _ =>
          exact .inr ⟨locked.guarded _ _ _ _ was,_,reflexive _ _,stable _ _ _ (answers.settled _ _ _ _ was)⟩
        | resolves awaited resolved =>
          obtain ⟨own,led,fiber,stood,related,guarded⟩ := followed _ _ _ _ was
          rw [awaited] at stood
          cases stood
          rcases resolved with running | finished
          · cases running
            exact .inr ⟨own,led,related,stable _ _ _ (answers.settled _ _ _ _ awaited)⟩
          · cases finished
            rcases kept awaited with ⟨refused,other,_⟩ | ⟨_,origin,further,sound⟩
            · rw [guarded] at other
              cases other
            · exact .inr ⟨own,origin,transitive _ _ _ _ related further,sound⟩
    | restarts _ calls _ =>
      rw [calls] at here
      obtain ⟨call,was,became⟩ := Option.map_eq_some_iff.mp here
      rcases restarted_call became with dropped | ⟨rfl,_⟩
      · cases dropped
      · exact kept was

end Steps

end Octora.Relayer
