import Octora.Relayer.Progress

namespace Octora.Relayer.PrivacyGate
open BigEndian BigIntText SolanaTx

variable {ι : Type}

abbrev Entry (ι : Type) := World ι × Action ι

-- The row a step asks the table for, if its upsert takes effect.
def sighting (entry : Entry ι) : Option (Text × Int) :=
  match entry.2 with
  | .observed caller _ true =>
    match entry.1.calls caller with
    | some ⟨_,request,.running (.observe currentSlot)⟩ => some (request.root,currentSlot)
    | _ => none
  | _ => none

def sightings (trace : List (Entry ι)) : List (Text × Int) := trace.filterMap sighting

structure Fresh (world : World ι) : Prop where
  rows : world.rows = []
  calls : ∀ caller, world.calls caller = none

section Gate
variable (backend : Backend) (services : ι → RelayerService)

-- The call's upsert has answered, and the call goes on to the proof.
def Passed (world : World ι) (caller : Nat) (service : ι) (request : Request) : Prop :=
  world.calls caller = some ⟨service,request,.running (afterDelay backend (services service) request .ok)⟩

structure Judged [DecidableEq ι] (before : World ι) (caller : Nat) (service : ι) (request : Request) (slot : Int)
    (after : World ι) : Prop where
  waiting : before.calls caller = some ⟨service,request,.running (.observe slot)⟩
  step : Step backend services before (.observed caller (.ok ()) true) after

-- The nullifier was free and the request agrees with its signals.
def Vetted (trace : List (Entry ι)) (caller : Nat) (request : Request) : Prop :=
  checkPublicSignalsParity backend.runtime.poseidon backend.publicKey request = .ok () ∧
    ∃ earlier, (earlier,.spent caller (.ok false)) ∈ trace

-- The root had been seen long enough when the call asked.
def Cleared (trace : List (Entry ι)) (caller : Nat) (service : ι) (request : Request) : Prop :=
  ∃ earlier slot seen, (earlier,.observed caller (.ok ()) true) ∈ trace ∧
    earlier.calls caller = some ⟨service,request,.running (.observe slot)⟩ ∧
    firstSeenSlot (sightings trace) request.root = some seen ∧
    (services service).config.privacyDelaySlots ≤ slot - seen

structure Kept (trace : List (Entry ι)) (world : World ι) : Prop where
  rows : world.rows = FirstWins.load Prod.fst [] (sightings trace)
  delayed : ∀ caller service request stage, world.calls caller = some ⟨service,request,.running stage⟩ →
    stage.phase = .delay → (services service).gated ∧ Vetted backend trace caller request
  submitted : ∀ caller service request stage, world.calls caller = some ⟨service,request,.running stage⟩ →
    stage.phase = .submission → (services service).gated → Cleared services trace caller service request

end Gate

section Rows
variable {before : World ι}

theorem sighting_observed (answer : Except Text Unit)
    (waiting : before.calls caller = some ⟨service,request,.running (.observe slot)⟩) :
    sighting (before,.observed caller answer true) = some (request.root,slot) := by
  simp only [sighting,waiting]

theorem sighting_inv (sighted : sighting (before,action) = some row) : ∃ caller answer service request slot,
    action = .observed caller answer true ∧ before.calls caller = some ⟨service,request,.running (.observe slot)⟩ ∧
      row = (request.root,slot) := by
  unfold sighting at sighted
  split at sighted
  · rename_i caller answer named
    split at sighted
    · rename_i service request slot waiting
      exact ⟨caller,answer,service,request,slot,named,waiting,(Option.some.inj sighted).symm⟩
    · cases sighted
  · cases sighted

theorem sightings_append (trace : List (Entry ι)) (entry : Entry ι) :
    sightings (trace ++ [entry]) = sightings trace ++ (sighting entry).toList := by
  rw [sightings,List.filterMap_append]
  cases found : sighting entry <;> simp [sightings,found]

theorem load_append (table one two : List (Text × Int)) : FirstWins.load Prod.fst table (one ++ two) =
    FirstWins.load Prod.fst (FirstWins.load Prod.fst table one) two := List.foldl_append

theorem firstSeen_load (table entries : List (Text × Int)) (root : Text) :
    firstSeenSlot (FirstWins.load Prod.fst table entries) root = firstSeenSlot (table ++ entries) root := by
  rw [firstSeenSlot,FirstWins.find_load]
  rfl

theorem firstSeen_append (seen : firstSeenSlot rows root = some slot) (more : List (Text × Int)) :
    firstSeenSlot (rows ++ more) root = some slot := by
  obtain ⟨row,found,rfl⟩ := Option.map_eq_some_iff.mp seen
  rw [firstSeenSlot,List.find?_append,found]
  rfl

-- The upsert answers with the stored slot, or with the caller's own.
theorem observe_answer (rows : List (Text × Int)) (root : Text) (slot : Int) :
    firstSeenSlot (observe rows root slot) root = some ((firstSeenSlot rows root).getD slot) := by
  have looked : firstSeenSlot (observe rows root slot) root = firstSeenSlot (rows ++ [(root,slot)]) root :=
    firstSeen_load rows [(root,slot)] root
  rw [looked]
  match found : firstSeenSlot rows root with
  | some seen => exact firstSeen_append found _
  | none =>
    have absent : rows.find? (fun row => decide (row.1 = root)) = none := Option.map_eq_none_iff.mp found
    rw [firstSeenSlot,List.find?_append,absent]
    simp

variable [DecidableEq ι] {backend : Backend} {services : ι → RelayerService} {after : World ι}

theorem process_rows (world : World ι) (caller : Nat) (service : ι) (request : Request) :
    (world.processWithdrawal backend services caller service request).rows = world.rows := by
  unfold World.processWithdrawal
  split
  · rfl
  · split <;> rfl

theorem step_rows (step : Step backend services before action after) :
    after.rows = FirstWins.load Prod.fst before.rows (sighting (before,action)).toList := by
  cases step with
  | enter _ => exact process_rows before _ _ _
  | observed waiting row =>
    rw [sighting_observed _ waiting]
    rfl
  | observeFails waiting stored =>
    cases stored with
    | false => rfl
    | true =>
      rw [sighting_observed _ waiting]
      rfl
  | @rpc caller service request ix submit reply next cluster _ _ =>
    show (before.spentBy service request next).rows = before.rows
    unfold World.spentBy
    split <;> rfl
  | _ => rfl

theorem step_seen (step : Step backend services before action after) (seen : firstSeenSlot before.rows root = some slot) :
    firstSeenSlot after.rows root = some slot := by
  rw [step_rows step,firstSeen_load]
  exact firstSeen_append seen _

theorem run_seen (run : Reached backend services before trace after) (seen : firstSeenSlot before.rows root = some slot) :
    firstSeenSlot after.rows root = some slot := by
  induction run with
  | nil => exact seen
  | step _ step ih => exact step_seen step ih

end Rows

section Decision
variable [DecidableEq ι] {backend : Backend} {services : ι → RelayerService} {before after : World ι}

theorem afterDelay_ok {service : RelayerService} {request : Request} {delay : Delay}
    (same : afterDelay backend service request delay = afterDelay backend service request .ok) : delay = .ok := by
  cases delay with
  | ok => rfl
  | wait elapsedSlots waitSlots =>
    unfold afterDelay at same
    dsimp only at same
    split at same
    · cases same
    · cases same
    · split at same
      · cases same
      · cases same

theorem delayAt_passes {service : RelayerService} (gated : service.gated) :
    delayAt service currentSlot first = .ok ↔ service.config.privacyDelaySlots ≤ currentSlot - first := by
  have positive := gated.1
  rw [delayAt_ok]
  omega

theorem judged_stage (judged : Judged backend services before caller service request slot after) :
    after.calls caller = some ⟨service,request,.running (afterDelay backend (services service) request
      (delayAt (services service) slot ((firstSeenSlot before.rows request.root).getD slot)))⟩ := by
  obtain ⟨waiting,step⟩ := judged
  cases step with
  | observed here row =>
    rw [waiting] at here
    cases here
    rw [observe_answer] at row
    rw [← Option.some.inj row,move_calls,if_pos rfl]
    rfl

-- A root never seen before has waited for no slot.
theorem judged_passes (judged : Judged backend services before caller service request slot after)
    (gated : (services service).gated) : Passed backend services after caller service request ↔
      ∃ seen, firstSeenSlot before.rows request.root = some seen ∧
        (services service).config.privacyDelaySlots ≤ slot - seen := by
  have stage := judged_stage judged
  have decided : Passed backend services after caller service request ↔ (services service).config.privacyDelaySlots ≤
      slot - (firstSeenSlot before.rows request.root).getD slot := by
    rw [← delayAt_passes gated,Passed,stage]
    constructor
    · intro same
      have stages := Option.some.inj same
      simp only [Call.mk.injEq,Fiber.running.injEq,true_and] at stages
      exact afterDelay_ok stages
    · intro same
      rw [same]
  rw [decided]
  have positive := gated.1
  match found : firstSeenSlot before.rows request.root with
  | some seen => simp
  | none =>
    simp only [Option.getD_none,reduceCtorEq,false_and,exists_false,iff_false]
    omega

end Decision

section Runs
variable {backend : Backend} {services : ι → RelayerService} {before after : World ι}

theorem vetted_append (vetted : Vetted backend trace caller request) (entry : Entry ι) :
    Vetted backend (trace ++ [entry]) caller request := by
  obtain ⟨parity,earlier,asked⟩ := vetted
  exact ⟨parity,earlier,List.mem_append_left _ asked⟩

theorem cleared_append (cleared : Cleared services trace caller service request) (entry : Entry ι) :
    Cleared services (trace ++ [entry]) caller service request := by
  obtain ⟨earlier,slot,seen,asked,waiting,found,elapsed⟩ := cleared
  refine ⟨earlier,slot,seen,List.mem_append_left _ asked,waiting,?_,elapsed⟩
  rw [sightings_append]
  exact firstSeen_append found _

theorem kept_firstSeen (kept : Kept backend services trace world) (root : Text) :
    firstSeenSlot world.rows root = firstSeenSlot (sightings trace) root := by
  rw [kept.rows,firstSeen_load]
  rfl

theorem fresh_kept (fresh : Fresh first) : Kept backend services [] first := by
  refine ⟨fresh.rows,?_,?_⟩
  · intro caller _ _ _ here
    rw [fresh.calls caller] at here
    cases here
  · intro caller _ _ _ here
    rw [fresh.calls caller] at here
    cases here

variable [DecidableEq ι]

theorem step_delayed (kept : Kept backend services trace before) (step : Step backend services before action after)
    (here : after.calls caller = some ⟨service,request,.running stage⟩) (phase : stage.phase = .delay) :
    (services service).gated ∧ Vetted backend (trace ++ [(before,action)]) caller request := by
  rcases step_running step here with was | entered | ⟨old,was,advance⟩
  · obtain ⟨gated,vetted⟩ := kept.delayed _ _ _ _ was phase
    exact ⟨gated,vetted_append vetted _⟩
  · rcases entered_phase entered with other | other <;> rw [phase] at other <;> cases other
  · cases advance with
    | spentFound _ _ => cases phase
    | spentAbsent _ _ =>
      obtain ⟨_,parity⟩ := afterSpent_open (by rw [phase]; nofun)
      refine ⟨?_,parity,before,by simp⟩
      unfold afterSpent at phase
      rw [parity] at phase
      dsimp only at phase
      split at phase
      · assumption
      · exact absurd phase (late_phase (afterDelay_phase _ _ _ _))
    | spentFails => cases phase
    | slotRead =>
      obtain ⟨gated,vetted⟩ := kept.delayed _ _ _ _ was rfl
      exact ⟨gated,vetted_append vetted _⟩
    | observed _ => exact absurd phase (late_phase (afterObserve_phase _ _ _ _ _))
    | observeFails _ => exact absurd phase (late_phase (afterObserve_phase _ _ _ _ _))
    | pool _ => exact absurd phase (late_phase (afterPool_phase _ _ _ _))
    | rpc _ => exact absurd phase (late_phase (afterSubmit_phase _ _ _ _))
    | diagnosed => exact absurd phase (late_phase (.inr (afterSubmission_phase _ _ _)))

theorem step_submitted (kept : Kept backend services trace before) (step : Step backend services before action after)
    (here : after.calls caller = some ⟨service,request,.running stage⟩) (phase : stage.phase = .submission)
    (gated : (services service).gated) : Cleared services (trace ++ [(before,action)]) caller service request := by
  rcases step_running step here with was | entered | ⟨old,was,advance⟩
  · exact cleared_append (kept.submitted _ _ _ _ was phase gated) _
  · rcases entered_phase entered with other | other <;> rw [phase] at other <;> cases other
  · cases advance with
    | spentFound _ _ => cases phase
    | spentAbsent _ _ =>
      rw [afterSpent_gated gated (by rw [phase]; nofun)] at phase
      cases phase
    | spentFails => cases phase
    | @slotRead answer => cases answer <;> cases phase
    | @observed slot seen row =>
      rw [observe_answer] at row
      have passes : delayAt (services service) slot seen = .ok := by
        unfold afterObserve afterDelay at phase
        dsimp only at phase
        split at phase
        · cases phase
        · assumption
      have elapsed := (delayAt_passes gated).mp passes
      have positive := gated.1
      refine ⟨before,slot,seen,by simp,was,?_,elapsed⟩
      rw [sightings_append]
      apply firstSeen_append
      rw [← kept_firstSeen kept]
      match found : firstSeenSlot before.rows request.root with
      | some stored =>
        rw [found] at row
        exact row
      | none =>
        rw [found] at row
        have own : slot = seen := Option.some.inj row
        omega
    | observeFails _ => cases phase
    | pool _ => exact cleared_append (kept.submitted _ _ _ _ was rfl gated) _
    | rpc _ => exact cleared_append (kept.submitted _ _ _ _ was rfl gated) _
    | diagnosed => exact cleared_append (kept.submitted _ _ _ _ was rfl gated) _

theorem step_kept (kept : Kept backend services trace before) (step : Step backend services before action after) :
    Kept backend services (trace ++ [(before,action)]) after := by
  refine ⟨?_,?_,?_⟩
  · rw [step_rows step,sightings_append,load_append,← kept.rows]
  · intro caller service request stage here phase
    exact step_delayed kept step here phase
  · intro caller service request stage here phase gated
    exact step_submitted kept step here phase gated

theorem run_kept (fresh : Fresh first) (run : Reached backend services first trace world) :
    Kept backend services trace world := by
  induction run with
  | nil => exact fresh_kept fresh
  | step _ step ih => exact step_kept ih step

end Runs

-- The gate's books over any run: a row never changes, a call passes exactly when
-- its root has been known for the delay, and only a vetted call inserts a row.
theorem privacy_gate [DecidableEq ι] (backend : Backend) (services : ι → RelayerService) (first world : World ι)
    (trace : List (Entry ι)) (fresh : Fresh first) (run : Reached backend services first trace world) :
    (∀ root slot, firstSeenSlot world.rows root = some slot → ∀ later last, Reached backend services world later last →
      firstSeenSlot last.rows root = some slot) ∧
    (∀ caller service request slot after, (services service).gated →
      Judged backend services world caller service request slot after →
      (Passed backend services after caller service request ↔
        ∃ seen, firstSeenSlot (sightings trace) request.root = some seen ∧
          (services service).config.privacyDelaySlots ≤ slot - seen)) ∧
    (∀ caller service request stage, world.calls caller = some ⟨service,request,.running stage⟩ →
      stage.phase = .submission → (services service).gated → Cleared services trace caller service request) ∧
    (∀ caller service request slot after, (services service).gated →
      Judged backend services world caller service request slot after →
      Passed backend services after caller service request →
      ∀ later last, Reached backend services after later last →
      ∀ other service' request' slot' final, (services service').gated →
        Judged backend services last other service' request' slot' final → request'.root = request.root →
        (services service').config.privacyDelaySlots ≤ (services service).config.privacyDelaySlots → slot ≤ slot' →
        Passed backend services final other service' request') ∧
    (∀ action after, Step backend services world action after → after.rows ≠ world.rows →
      ∃ caller answer service request slot, action = .observed caller answer true ∧
        world.calls caller = some ⟨service,request,.running (.observe slot)⟩ ∧ Vetted backend trace caller request) := by
  have kept := run_kept fresh run
  refine ⟨?_,?_,?_,?_,?_⟩
  · intro root slot seen later last onward
    exact run_seen onward seen
  · intro caller service request slot after gated judged
    rw [judged_passes judged gated,kept_firstSeen kept]
  · exact kept.submitted
  · intro caller service request slot after gated judged passed later last onward other service' request' slot' final
      gated' judged' same shorter onwards
    obtain ⟨seen,found,elapsed⟩ := (judged_passes judged gated).mp passed
    refine (judged_passes judged' gated').mpr ⟨seen,?_,by omega⟩
    rw [same]
    exact run_seen onward (step_seen judged.step found)
  · intro action after step changed
    have loaded := step_rows step
    match sighted : sighting (world,action) with
    | none =>
      rw [sighted] at loaded
      exact absurd loaded changed
    | some row =>
      obtain ⟨caller,answer,service,request,slot,named,waiting,_⟩ := sighting_inv sighted
      exact ⟨caller,answer,service,request,slot,named,waiting,(kept.delayed _ _ _ _ waiting rfl).2⟩

-- A root seen for the first time is refused, and its row is there afterwards.
theorem privacy_gate_sample : ∃ trace world after,
    Reached signingBackend (sampleServices true) (sampleWorld sampleGenesis 1000) trace world ∧
    Judged signingBackend (sampleServices true) world 0 () sampleRequest 1000 after ∧
    ¬Passed signingBackend (sampleServices true) after 0 () sampleRequest ∧
    firstSeenSlot after.rows sampleRequest.root = some 1000 := by
  have fresh : Fresh (sampleWorld sampleGenesis 1000) := ⟨rfl,fun _ => rfl⟩
  have absent : accountExists (sampleWorld sampleGenesis 1000).ledger sampleNullifierKey = false := by decide
  have vetted := sample_vetted true (sampleWorld sampleGenesis 1000) 0 (bigInt_decimal (sampleValues 1)) rfl rfl
    List.not_mem_nil absent
  rw [if_pos (by decide)] at vetted
  have asked := vetted.step (leads_slot _ 0 () sampleRequest (.ok 1000))
  have waiting := leads_call (sampleWorld sampleGenesis 1000) 0 () sampleRequest (.observe 1000)
  have judged : Step signingBackend (sampleServices true) _ (.observed 0 (.ok ()) true) _ :=
    .observed waiting (observe_answer [] sampleRequest.root 1000)
  have gate := (privacy_gate signingBackend (sampleServices true) _ _ _ fresh asked).2.1 0 () sampleRequest 1000 _
    (by decide) ⟨waiting,judged⟩
  refine ⟨_,_,_,asked,⟨waiting,judged⟩,fun passed => ?_,observe_answer [] sampleRequest.root 1000⟩
  obtain ⟨seen,found,_⟩ := gate.mp passed
  cases found

end Octora.Relayer.PrivacyGate
