import Octora.Relayer.Progress

namespace Octora.Relayer.Joiners
open BigEndian BigIntText SolanaTx

variable {ι : Type}

abbrev Moment (ι : Type) := World ι × Action ι

-- A call of the nullifier is under way at the moment.
def Peer (service : ι) (request : Request) (moment : Moment ι) (caller : Nat) : Prop :=
  ∃ led stage, moment.1.calls caller = some ⟨service,led,.running stage⟩ ∧ led.nullifierHash = request.nullifierHash

-- What a call may be answered at a moment: what the call under way is answered
-- there, what the chain, the clock and the table hold there, or a reply of the
-- RPC node that leaves the submission open.
inductive Heard (service : ι) (request : Request) (moment : Moment ι) (caller : Nat) : Action ι → Stage → Prop where
  | shared (peer : Peer service request moment caller) : Heard service request moment caller moment.2 next
  | spent : Heard service request moment caller (.spent caller (.ok found)) next
  | slot : Heard service request moment caller (.slotRead caller (.ok moment.1.slot)) next
  | row : Heard service request moment caller (.observed caller (.ok ()) true) next
  | pool : Heard service request moment caller (.pool caller (.ok found)) next
  | rpc : Heard service request moment caller (.rpc caller reply) (.submitting ix sending)

section Pipeline
variable (backend : Backend) (services : ι → RelayerService) (service : ι) (request : Request)

-- The request's own call, its pipeline run by nobody else: where it can stand
-- when it starts at the first of the moments and hears at any of them.
inductive Alone : List (Moment ι) → Stage → Prop where
  | refused (guarded : guardRequest backend (services service) request = some answer) :
      Alone [moment] (.settled (.ok answer))
  | begins (guarded : guardRequest backend (services service) request = none) :
      Alone [moment] (begin backend services moment.1 service request)
  | waits (alone : Alone moments stage) : Alone (moments ++ [moment]) stage
  | hears (alone : Alone (moments ++ [moment]) old) (heard : Heard service request moment caller action next)
      (advance : Advance backend services moment.1 caller service request old action next) :
      Alone (moments ++ [moment]) next

def Spent (moments : List (Moment ι)) : Prop :=
  ∃ moment ∈ moments, request.nullifierHash ∈ moment.1.cache service ∨
    ∃ key, nullifierPDA backend (services service) request.nullifierHash = some key ∧
      accountExists moment.1.ledger key = true

-- The clock's slot at a moment, or the one the call under way was told there.
def ReadSlot (moments : List (Moment ι)) (slot : Int) : Prop :=
  ∃ moment ∈ moments, moment.1.slot = slot ∨
    ∃ caller, moment.2 = .slotRead caller (.ok slot) ∧ Peer service request moment caller

-- What the privacy gate says of the request's own root.
def Gate (moments : List (Moment ι)) (delay : Delay) : Prop :=
  ((services service).gated ∧ ∃ slot first, ReadSlot service request moments slot ∧
    (∃ moment ∈ moments, firstSeenSlot (observe moment.1.rows request.root slot) request.root = some first) ∧
    delayAt (services service) slot first = delay) ∨
  (¬(services service).gated ∧ delay = .ok)

-- Why the request itself is refused.
def Grounds (moments : List (Moment ι)) : Refusal → Prop
  | .alreadySpent => Spent backend services service request moments
  | .signalMismatch reason =>
    checkPublicSignalsParity backend.runtime.poseidon backend.publicKey request = .error reason
  | .privacyDelay elapsedSlots waitSlots =>
    checkPublicSignalsParity backend.runtime.poseidon backend.publicKey request = .ok () ∧
      Gate services service request moments (.wait elapsedSlots waitSlots)
  | .verificationError message => Gate services service request moments .ok ∧
      backend.verifyWithdrawProof request.proof request.publicSignals = .error message
  | .invalidProof => Gate services service request moments .ok ∧
      backend.verifyWithdrawProof request.proof request.publicSignals = .ok false
  | .submissionFailed _ => Gate services service request moments .ok ∧ Admissible backend request
  | reason => guardRequest backend (services service) request = some (failure request reason)

-- The answer is about the request: its recipient, its fee, and its own grounds.
structure Refers (moments : List (Moment ι)) (answer : WithdrawResult) : Prop where
  nullifierHash : answer.nullifierHash = request.nullifierHash
  recipient : answer.recipient = request.recipient
  feeLamports : answer.feeLamports = request.fee
  grounds : ∀ reason, answer.error = some reason → Grounds backend services service request moments reason
  success : answer.error = none → Gate services service request moments .ok ∧ Admissible backend request
  valid : Admissible backend request → (∀ reason, answer.error ≠ some (.signalMismatch reason)) ∧
    (∀ message, answer.error ≠ some (.verificationError message)) ∧ answer.error ≠ some .invalidProof

-- What is known of the request where its own call stands.
def Stands (moments : List (Moment ι)) : Stage → Prop
  | .isSpent => True
  | .getSlot => (services service).gated ∧
      checkPublicSignalsParity backend.runtime.poseidon backend.publicKey request = .ok ()
  | .observe currentSlot => ((services service).gated ∧
      checkPublicSignalsParity backend.runtime.poseidon backend.publicKey request = .ok ()) ∧
      ReadSlot service request moments currentSlot
  | .settled result => ∀ answer, result = .ok answer → Refers backend services service request moments answer
  | _ => Gate services service request moments .ok ∧ Admissible backend request

end Pipeline

section Moments
variable {backend : Backend} {services : ι → RelayerService} {service : ι} {request : Request}
variable {moments more : List (Moment ι)}

theorem spent_later (spent : Spent backend services service request moments) (later : moments ⊆ more) :
    Spent backend services service request more := by
  obtain ⟨moment,here,found⟩ := spent
  exact ⟨moment,later here,found⟩

theorem readSlot_later (read : ReadSlot service request moments slot) (later : moments ⊆ more) :
    ReadSlot service request more slot := by
  obtain ⟨moment,here,told⟩ := read
  exact ⟨moment,later here,told⟩

theorem gate_later (gate : Gate services service request moments delay) (later : moments ⊆ more) :
    Gate services service request more delay := by
  rcases gate with ⟨gated,slot,first,read,⟨moment,here,row⟩,said⟩ | ungated
  · exact .inl ⟨gated,slot,first,readSlot_later read later,⟨moment,later here,row⟩,said⟩
  · exact .inr ungated

theorem grounds_later (grounds : Grounds backend services service request moments reason) (later : moments ⊆ more) :
    Grounds backend services service request more reason := by
  cases reason with
  | alreadySpent => exact spent_later grounds later
  | privacyDelay _ _ => exact ⟨grounds.1,gate_later grounds.2 later⟩
  | verificationError _ => exact ⟨gate_later grounds.1 later,grounds.2⟩
  | invalidProof => exact ⟨gate_later grounds.1 later,grounds.2⟩
  | submissionFailed _ => exact ⟨gate_later grounds.1 later,grounds.2⟩
  | _ => exact grounds

theorem refers_later (refers : Refers backend services service request moments answer) (later : moments ⊆ more) :
    Refers backend services service request more answer where
  nullifierHash := refers.nullifierHash
  recipient := refers.recipient
  feeLamports := refers.feeLamports
  grounds reason same := grounds_later (refers.grounds reason same) later
  success none := ⟨gate_later (refers.success none).1 later,(refers.success none).2⟩
  valid := refers.valid

theorem stands_later (stands : Stands backend services service request moments stage) (later : moments ⊆ more) :
    Stands backend services service request more stage := by
  cases stage with
  | isSpent => exact stands
  | getSlot => exact stands
  | observe _ => exact ⟨stands.1,readSlot_later stands.2 later⟩
  | settled _ => exact fun answer same => refers_later (stands answer same) later
  | _ => exact ⟨gate_later stands.1 later,stands.2⟩

end Moments

section Stages
variable {backend : Backend} {services : ι → RelayerService} {service : ι} {request : Request}
variable {moments : List (Moment ι)}

-- A refusal on the request's own grounds refers to it.
theorem failure_refers (grounds : Grounds backend services service request moments reason) :
    Refers backend services service request moments (failure request reason) := by
  refine ⟨rfl,rfl,rfl,?_,?_,?_⟩
  · intro other same
    cases same
    exact grounds
  · intro same
    cases same
  · intro admissible
    refine ⟨?_,?_,?_⟩
    · intro parity same
      cases same
      have own : checkPublicSignalsParity backend.runtime.poseidon backend.publicKey request = .error parity := grounds
      rw [admissible.parity] at own
      cases own
    · intro message same
      cases same
      have own : backend.verifyWithdrawProof request.proof request.publicSignals = .error message := grounds.2
      rw [admissible.verified] at own
      cases own
    · intro same
      cases same
      have own : backend.verifyWithdrawProof request.proof request.publicSignals = .ok false := grounds.2
      rw [admissible.verified] at own
      cases own

theorem failure_stands (grounds : Grounds backend services service request moments reason) :
    Stands backend services service request moments (.settled (.ok (failure request reason))) := by
  intro answer same
  cases same
  exact failure_refers grounds

theorem error_stands (reason : Thrown) : Stands backend services service request moments (.settled (.error reason)) := by
  intro answer same
  cases same

theorem guard_refers (guarded : guardRequest backend (services service) request = some answer) :
    Refers backend services service request moments answer := by
  have whole := guarded
  unfold guardRequest at guarded
  split at guarded
  · cases guarded
    exact failure_refers whole
  · split at guarded
    · cases guarded
      exact failure_refers whole
    · split at guarded
      · cases guarded
        exact failure_refers whole
      · cases guarded

theorem afterSubmission_stands (gate : Gate services service request moments .ok)
    (admissible : Admissible backend request) (answer : Except Thrown Text) :
    Stands backend services service request moments (afterSubmission (services service) request answer) := by
  cases answer with
  | error reason => exact failure_stands ⟨gate,admissible⟩
  | ok txSignature =>
    intro answer same
    unfold succeed at same
    split at same
    · cases same
    · cases same
      refine ⟨rfl,rfl,rfl,?_,fun _ => ⟨gate,admissible⟩,?_⟩
      · intro reason same
        cases same
      · intro _
        refine ⟨?_,?_,?_⟩
        · intro _ same
          cases same
        · intro _ same
          cases same
        · intro same
          cases same

theorem afterSubmit_stands (gate : Gate services service request moments .ok) (admissible : Admissible backend request)
    (ix : WithdrawRequest) (submit : Submit WithdrawRequest) :
    Stands backend services service request moments (afterSubmit (services service) request ix submit) := by
  unfold afterSubmit
  split
  · exact afterSubmission_stands gate admissible _
  · unfold rethrow
    split
    · exact ⟨gate,admissible⟩
    · exact afterSubmission_stands gate admissible _
  · exact ⟨gate,admissible⟩

theorem afterPool_stands (gate : Gate services service request moments .ok) (admissible : Admissible backend request)
    (answer : Except Text Bool) :
    Stands backend services service request moments (afterPool backend (services service) request answer) := by
  unfold afterPool
  split
  · exact afterSubmission_stands gate admissible _
  · exact afterSubmission_stands gate admissible _
  · split
    · exact afterSubmission_stands gate admissible _
    · exact afterSubmit_stands gate admissible _ _

theorem afterDelay_stands (parity : checkPublicSignalsParity backend.runtime.poseidon backend.publicKey request = .ok ())
    (gate : Gate services service request moments delay) :
    Stands backend services service request moments (afterDelay backend (services service) request delay) := by
  cases delay with
  | wait elapsedSlots waitSlots => exact failure_stands ⟨parity,gate⟩
  | ok =>
    unfold afterDelay
    dsimp only
    split
    · rename_i message verified
      exact failure_stands ⟨gate,verified⟩
    · rename_i verified
      exact failure_stands ⟨gate,verified⟩
    · rename_i verified
      split
      · exact ⟨gate,parity,verified⟩
      · exact afterSubmission_stands gate ⟨parity,verified⟩ _

theorem afterSpent_stands (answer : Except Thrown Bool)
    (spent : answer = .ok true → Spent backend services service request moments) :
    Stands backend services service request moments (afterSpent backend (services service) request answer) := by
  unfold afterSpent
  split
  · exact error_stands _
  · exact failure_stands (spent rfl)
  · split
    · rename_i parity
      exact failure_stands parity
    · rename_i parity
      split
      · rename_i gated
        exact ⟨gated,parity⟩
      · rename_i ungated
        exact afterDelay_stands parity (.inr ⟨ungated,rfl⟩)

theorem begin_stands (moment : Moment ι) :
    Stands backend services service request [moment] (begin backend services moment.1 service request) := by
  unfold begin
  split
  · rename_i cached
    exact afterSpent_stands _ fun _ => ⟨moment,List.mem_singleton_self _,.inl cached⟩
  · split
    · trivial
    · refine afterSpent_stands _ fun same => ?_
      cases same

theorem hears_stands {moment : Moment ι} (stands : Stands backend services service request moments old)
    (member : moment ∈ moments) (heard : Heard service request moment caller action next)
    (advance : Advance backend services moment.1 caller service request old action next) :
    Stands backend services service request moments next := by
  cases advance with
  | spentFound address found => exact afterSpent_stands _ fun _ => ⟨moment,member,.inr ⟨_,address,found⟩⟩
  | spentAbsent _ _ =>
    refine afterSpent_stands _ fun same => ?_
    cases same
  | spentFails =>
    refine afterSpent_stands _ fun same => ?_
    cases same
  | @slotRead answer =>
    cases answer with
    | error _ => exact error_stands _
    | ok slot =>
      refine ⟨stands,moment,member,?_⟩
      generalize named : Action.slotRead caller (.ok slot) = action at heard
      cases heard with
      | shared peer => exact .inr ⟨caller,named.symm,peer⟩
      | slot =>
        cases named
        exact .inl rfl
      | _ => cases named
  | @observed currentSlot first row =>
    obtain ⟨⟨gated,parity⟩,read⟩ := stands
    exact afterDelay_stands parity (.inl ⟨gated,currentSlot,first,read,⟨moment,member,row⟩,rfl⟩)
  | observeFails _ => exact error_stands _
  | pool _ => exact afterPool_stands stands.1 stands.2 _
  | rpc _ => exact afterSubmit_stands stands.1 stands.2 _ _
  | diagnosed => exact afterSubmission_stands stands.1 stands.2 _

-- Wherever the request's own call stands, it stands there for its own reasons.
theorem alone_stands (alone : Alone backend services service request moments stage) :
    Stands backend services service request moments stage := by
  induction alone with
  | refused guarded =>
    intro answer same
    cases same
    exact guard_refers guarded
  | begins _ => exact begin_stands _
  | waits _ ih => exact stands_later ih (List.subset_append_left _ _)
  | hears _ heard advance ih =>
    exact hears_stands ih (List.mem_append_right _ (List.mem_singleton_self _)) heard advance

end Stages

end Octora.Relayer.Joiners
