import Octora.Relayer.Interleaving

namespace Octora.Relayer.DryRun
open BigEndian BigIntText Fallible

-- What a call made alone sees: the registry (its cache and the accounts on
-- chain), the root-seen table and the clock.
structure State where
  cache : List Text
  accounts : List Pubkey
  rows : List (Text × Int)
  slot : Int

structure Validation where
  valid : Bool
  reason : Option Refusal
  deriving DecidableEq

section Calls
variable (backend : Backend) (service : RelayerService)

-- nullifier-registry.ts
def isSpent (state : State) (nullifierHash : Text) : Except Thrown Bool :=
  if nullifierHash ∈ state.cache then .ok true
  else
    match nullifierPDA backend service nullifierHash with
    | none => .error .conversion
    | some key => .ok (decide (key ∈ state.accounts))

def remember (state : State) (nullifierHash : Text) : State :=
  if isSpent backend service state nullifierHash = .ok true then
    { state with cache := FirstWins.put (fun text => text) state.cache nullifierHash }
  else state

def validateProof (state : State) (request : Request) : Except Thrown Validation × State :=
  match guardRequest backend service request with
  | some guard => (.ok ⟨false,guard.error⟩,state)
  | none =>
    let next := remember backend service state request.nullifierHash
    match isSpent backend service state request.nullifierHash with
    | .error reason => (.error reason,next)
    | .ok true => (.ok ⟨false,some .alreadySpent⟩,next)
    | .ok false =>
      match checkPublicSignalsParity backend.runtime.poseidon backend.publicKey request with
      | .error reason => (.ok ⟨false,some (.signalMismatch reason)⟩,next)
      | .ok () =>
        match backend.verifyWithdrawProof request.proof request.publicSignals with
        | .error message => (.ok ⟨false,some (.verificationError message)⟩,next)
        | .ok false => (.ok ⟨false,some .invalidProof⟩,next)
        | .ok true => (.ok ⟨true,none⟩,next)

-- The row the gate compares with: the stored one, or the one it inserts.
def rowAt (state : State) (root : Text) : Int := (firstSeenSlot state.rows root).getD state.slot

def readsAt (state : State) (submission : Except Thrown Text) (request : Request) : Reads where
  spent := isSpent backend service state request.nullifierHash
  currentSlot := .ok state.slot
  firstSeenSlot := .ok (rowAt state request.root)
  submission := submission

-- The request reaches the gate.
def arms (state : State) (request : Request) : Bool :=
  isSpent backend service state request.nullifierHash = .ok false &&
    (checkPublicSignalsParity backend.runtime.poseidon backend.publicKey request).isOk && service.gated

-- `processWithdrawal` with nothing else in flight; `submission` is what the
-- submission would answer if the call got that far.
def processWithdrawal (state : State) (submission : Except Thrown Text) (request : Request) : Settled × State :=
  match guardRequest backend service request with
  | some result => (.ok result,state)
  | none =>
    let result := doProcessWithdrawal backend service (readsAt backend service state submission request) request
    let seen := remember backend service state request.nullifierHash
    let armed := { seen with
      rows := if arms backend service state request then observe state.rows request.root state.slot else state.rows }
    match result with
    | .ok answer =>
      if answer.success then
        (result,{ armed with cache := FirstWins.put (fun text => text) armed.cache request.nullifierHash })
      else (result,armed)
    | .error _ => (result,armed)

end Calls

def Submitted (result : Settled) : Prop :=
  ∃ answer, result = .ok answer ∧ (answer.success = true ∨ ∃ reason, answer.error = some (.submissionFailed reason))

section Prediction
variable {backend : Backend} {service : RelayerService}

-- The checks the two paths share.
structure Checked (backend : Backend) (service : RelayerService) (state : State) (request : Request) : Prop where
  guarded : guardRequest backend service request = none
  unspent : isSpent backend service state request.nullifierHash = .ok false
  parity : checkPublicSignalsParity backend.runtime.poseidon backend.publicKey request = .ok ()
  verified : backend.verifyWithdrawProof request.proof request.publicSignals = .ok true

-- The privacy delay has run out for the request's root.
def DelayOver (service : RelayerService) (state : State) (request : Request) : Prop :=
  service.gated → service.config.privacyDelaySlots ≤ state.slot - rowAt state request.root

theorem validate_exact (state : State) (request : Request) :
    (validateProof backend service state request).1 = .ok ⟨true,none⟩ ↔ Checked backend service state request := by
  constructor
  · intro valid
    unfold validateProof at valid
    split at valid
    · cases Except.ok.inj valid
    · rename_i guarded
      dsimp only at valid
      split at valid
      · cases valid
      · cases Except.ok.inj valid
      · rename_i unspent
        split at valid
        · cases Except.ok.inj valid
        · rename_i parity
          split at valid
          · cases Except.ok.inj valid
          · cases Except.ok.inj valid
          · rename_i verified
            exact ⟨guarded,unspent,parity,verified⟩
  · intro checked
    simp only [validateProof,checked.guarded,checked.unspent,checked.parity,checked.verified]

theorem gate_ok {state : State} {request : Request} : checkPrivacyDelay service
    (readsAt backend service state submission request) = .ok .ok ↔ DelayOver service state request := by
  unfold checkPrivacyDelay DelayOver
  split
  · rename_i gated
    have positive := gated.1
    simp only [readsAt,do_ok,Except.ok.injEq,exists_eq_left',delayAt_ok]
    constructor
    · intro elapsed _
      omega
    · intro elapsed
      have enough := elapsed gated
      omega
  · rename_i open_
    simp [open_]

theorem fee_parsed (guarded : guardRequest backend service request = none) : ∃ fee, bigInt request.fee = some fee := by
  unfold guardRequest at guarded
  split at guarded
  · cases guarded
  · split at guarded
    · cases guarded
    · rename_i fee parsed
      exact ⟨fee,parsed⟩

theorem guard_refuses (guarded : guardRequest backend service request = some answer) :
    ¬Submitted (.ok answer) := by
  have refused : answer.success = false ∧ ∀ reason, answer.error ≠ some (.submissionFailed reason) := by
    unfold guardRequest at guarded
    split at guarded
    · cases guarded
      exact ⟨rfl,nofun⟩
    · split at guarded
      · cases guarded
        exact ⟨rfl,nofun⟩
      · split at guarded
        · cases guarded
          exact ⟨rfl,nofun⟩
        · cases guarded
  rintro ⟨_,same,submitted⟩
  cases Except.ok.inj same
  rcases submitted with success | ⟨reason,failed⟩
  · rw [refused.1] at success
    cases success
  · exact refused.2 reason failed

theorem failure_refused (reason : Refusal) (other : ∀ thrown, reason ≠ .submissionFailed thrown) :
    ¬Submitted (.ok (failure request reason)) := by
  rintro ⟨_,same,submitted⟩
  cases Except.ok.inj same
  rcases submitted with success | ⟨thrown,failed⟩
  · cases success
  · exact other thrown (Option.some.inj failed)

theorem thrown_refused (reason : Thrown) : ¬Submitted (.error reason) := by
  rintro ⟨_,same,_⟩
  cases same

theorem run_ok (value : α) (next : α → Except ε β) : (Except.ok value >>= next) = next value := rfl

theorem submitted_exact (guarded : guardRequest backend service request = none) (state : State)
    (submission : Except Thrown Text) :
    Submitted (doProcessWithdrawal backend service (readsAt backend service state submission request) request) ↔
      Checked backend service state request ∧ DelayOver service state request := by
  have gate : checkPrivacyDelay service (readsAt backend service state submission request) = .ok .ok ↔
      DelayOver service state request := gate_ok
  have reads : (readsAt backend service state submission request).spent =
      isSpent backend service state request.nullifierHash := rfl
  have known : (readsAt backend service state submission request).submission = submission := rfl
  unfold doProcessWithdrawal
  rw [reads]
  match unspent : isSpent backend service state request.nullifierHash with
  | .error reason =>
    refine iff_of_false (thrown_refused reason) fun both => ?_
    cases unspent.symm.trans both.1.unspent
  | .ok true =>
    refine iff_of_false (failure_refused _ nofun) fun both => ?_
    cases unspent.symm.trans both.1.unspent
  | .ok false =>
    simp only [run_ok,Bool.false_eq_true,if_false]
    match parity : checkPublicSignalsParity backend.runtime.poseidon backend.publicKey request with
    | .error reason =>
      refine iff_of_false (failure_refused _ nofun) fun both => ?_
      cases parity.symm.trans both.1.parity
    | .ok () =>
      match delay : checkPrivacyDelay service (readsAt backend service state submission request) with
      | .error reason =>
        refine iff_of_false (thrown_refused reason) fun both => ?_
        cases delay.symm.trans (gate.mpr both.2)
      | .ok (.wait elapsedSlots waitSlots) =>
        refine iff_of_false (failure_refused _ nofun) fun both => ?_
        cases delay.symm.trans (gate.mpr both.2)
      | .ok .ok =>
        simp only [run_ok]
        match verified : backend.verifyWithdrawProof request.proof request.publicSignals with
        | .error message =>
          refine iff_of_false (failure_refused _ nofun) fun both => ?_
          cases verified.symm.trans both.1.verified
        | .ok false =>
          refine iff_of_false (failure_refused _ nofun) fun both => ?_
          cases verified.symm.trans both.1.verified
        | .ok true =>
          refine iff_of_true ?_ ⟨⟨guarded,unspent,parity,verified⟩,gate.mp delay⟩
          rw [known]
          cases submission with
          | error reason => exact ⟨_,rfl,.inr ⟨reason,rfl⟩⟩
          | ok txSignature =>
            obtain ⟨fee,parsed⟩ := fee_parsed guarded
            simp only [succeed,parsed]
            exact ⟨_,rfl,.inl rfl⟩

theorem process_exact (state : State) (submission : Except Thrown Text) (request : Request) :
    Submitted (processWithdrawal backend service state submission request).1 ↔
      Checked backend service state request ∧ DelayOver service state request := by
  unfold processWithdrawal
  split
  · rename_i answer guarded
    refine iff_of_false (guard_refuses guarded) fun both => ?_
    have other := both.1.guarded
    rw [guarded] at other
    cases other
  · rename_i guarded
    rw [← submitted_exact guarded state submission]
    dsimp only
    split
    · rename_i answer same
      split <;> rw [same]
    · rename_i reason same
      rw [same]

end Prediction

-- What happens between two calls, and the calls themselves.
inductive Event where
  | appear (key : Pubkey)
  | clock (slot : Int)
  | validate (request : Request)
  | process (request : Request) (submission : Except Thrown Text)

def Event.real : Event → Bool
  | .validate _ => false
  | _ => true

-- The answers of the real calls of a run.
def outcomes (backend : Backend) (service : RelayerService) : State → List Event → List Settled
  | _,[] => []
  | state,.appear key :: rest => outcomes backend service { state with accounts := key :: state.accounts } rest
  | state,.clock slot :: rest => outcomes backend service { state with slot := slot } rest
  | state,.validate request :: rest => outcomes backend service (validateProof backend service state request).2 rest
  | state,.process request submission :: rest =>
    (processWithdrawal backend service state submission request).1 ::
      outcomes backend service (processWithdrawal backend service state submission request).2 rest

-- The caches may differ as long as the registry answers alike.
structure Alike (backend : Backend) (service : RelayerService) (one two : State) : Prop where
  accounts : one.accounts = two.accounts
  rows : one.rows = two.rows
  slot : one.slot = two.slot
  spent : ∀ text, isSpent backend service one text = isSpent backend service two text

section Runs
variable {backend : Backend} {service : RelayerService}

theorem isSpent_put (state : State) (rows : List (Text × Int)) (new text : Text) :
    isSpent backend service
        { state with rows := rows, cache := FirstWins.put (fun text => text) state.cache new } text =
      if text = new then .ok true else isSpent backend service state text := by
  have member : text ∈ FirstWins.put (fun text => text) state.cache new ↔ text ∈ state.cache ∨ text = new := by
    constructor
    · intro here
      rcases FirstWins.mem_put here with old | ⟨same,_⟩
      · exact .inl old
      · exact .inr same
    · rintro (old | rfl)
      · exact FirstWins.put_keeps old new
      · obtain ⟨found,here,same⟩ := FirstWins.put_has (fun text => text) state.cache text
        cases same
        exact here
  unfold isSpent
  simp only [member]
  by_cases same : text = new <;> by_cases old : text ∈ state.cache <;> simp [same,old]

theorem isSpent_appear (state : State) (key : Pubkey) (text : Text) :
    isSpent backend service { state with accounts := key :: state.accounts } text =
      (isSpent backend service state text).map fun found =>
        found || decide (nullifierPDA backend service text = some key) := by
  unfold isSpent
  split
  · rfl
  · split
    · rfl
    · rename_i here _ address
      simp [address,Except.map,List.mem_cons,Bool.or_comm]

theorem alike_refl (state : State) : Alike backend service state state := ⟨rfl,rfl,rfl,fun _ => rfl⟩

-- Caching a nullifier that reads as spent changes no answer.
theorem remember_alike (state : State) (text : Text) :
    Alike backend service (remember backend service state text) state := by
  unfold remember
  split
  · rename_i spent
    refine ⟨rfl,rfl,rfl,fun other => ?_⟩
    rw [isSpent_put state state.rows]
    split
    · rename_i same
      rw [same,spent]
    · rfl
  · exact alike_refl state

theorem alike_trans (one : Alike backend service left middle) (two : Alike backend service middle right) :
    Alike backend service left right :=
  ⟨one.accounts.trans two.accounts,one.rows.trans two.rows,one.slot.trans two.slot,
    fun text => (one.spent text).trans (two.spent text)⟩

theorem alike_symm (alike : Alike backend service left right) : Alike backend service right left :=
  ⟨alike.accounts.symm,alike.rows.symm,alike.slot.symm,fun text => (alike.spent text).symm⟩

theorem validate_alike (state : State) (request : Request) :
    Alike backend service (validateProof backend service state request).2 state := by
  have seen : Alike backend service (remember backend service state request.nullifierHash) state :=
    remember_alike state request.nullifierHash
  unfold validateProof
  split
  · exact alike_refl state
  · dsimp only
    split
    · exact seen
    · exact seen
    · split
      · exact seen
      · split <;> exact seen

-- A real call answers from what the registry, the table and the clock say.
theorem process_alike (alike : Alike backend service left right) (request : Request) (submission : Except Thrown Text) :
    (processWithdrawal backend service left submission request).1 =
        (processWithdrawal backend service right submission request).1 ∧
      Alike backend service (processWithdrawal backend service left submission request).2
        (processWithdrawal backend service right submission request).2 := by
  have reads : readsAt backend service left submission request = readsAt backend service right submission request := by
    simp only [readsAt,rowAt,alike.spent,alike.rows,alike.slot]
  have armed : arms backend service left request = arms backend service right request := by
    simp only [arms,alike.spent]
  have seen : Alike backend service (remember backend service left request.nullifierHash)
      (remember backend service right request.nullifierHash) :=
    alike_trans (remember_alike left _) (alike_trans alike (alike_symm (remember_alike right _)))
  have rows : (if arms backend service left request then observe left.rows request.root left.slot else left.rows) =
      if arms backend service right request then observe right.rows request.root right.slot else right.rows := by
    rw [armed,alike.rows,alike.slot]
  have stored : ∀ table, Alike backend service { remember backend service left request.nullifierHash with rows := table }
      { remember backend service right request.nullifierHash with rows := table } := fun table =>
    ⟨seen.accounts,rfl,seen.slot,seen.spent⟩
  unfold processWithdrawal
  split
  · exact ⟨rfl,alike⟩
  · rw [reads,rows]
    dsimp only
    split
    · split
      · refine ⟨rfl,seen.accounts,rfl,seen.slot,fun text => ?_⟩
        simp only [isSpent_put,seen.spent]
      · exact ⟨rfl,stored _⟩
    · exact ⟨rfl,stored _⟩

theorem outcomes_alike (alike : Alike backend service left right) (events : List Event) :
    outcomes backend service left events = outcomes backend service right (events.filter Event.real) := by
  induction events generalizing left right with
  | nil => rfl
  | cons event rest ih =>
    cases event with
    | appear key =>
      refine ih ⟨congrArg (key :: ·) alike.accounts,alike.rows,alike.slot,fun text => ?_⟩
      rw [isSpent_appear,isSpent_appear,alike.spent]
    | clock slot => exact ih ⟨alike.accounts,alike.rows,rfl,alike.spent⟩
    | validate request => exact ih (alike_trans (validate_alike left request) alike)
    | process request submission =>
      obtain ⟨same,next⟩ := process_alike alike request submission
      rw [outcomes,same,ih next]
      rfl

end Runs

-- The dry run foretells the real one exactly where the delay does not decide;
-- it never disturbs a later call.
theorem dry_run (backend : Backend) (service : RelayerService) :
    (∀ state submission request,
      (((validateProof backend service state request).1 = .ok ⟨true,none⟩ ↔
        Submitted (processWithdrawal backend service state submission request).1) ↔
      (Checked backend service state request → DelayOver service state request))) ∧
    ∀ state events, outcomes backend service state events = outcomes backend service state (events.filter Event.real) := by
  refine ⟨?_,fun state events => outcomes_alike (alike_refl state) events⟩
  intro state submission request
  rw [validate_exact,process_exact]
  constructor
  · intro same checked
    exact (same.mp checked).2
  · intro elapsed
    exact ⟨fun checked => ⟨checked,elapsed checked⟩,And.left⟩

-- A fresh root, slot 1000: the dry run says valid, the call is told to wait.
theorem first_sight_refused :
    (validateProof sampleBackend sampleService ⟨[],[],[],1000⟩ sampleRequest).1 = .ok ⟨true,none⟩ ∧
    ¬Submitted (processWithdrawal sampleBackend sampleService ⟨[],[],[],1000⟩ (.ok []) sampleRequest).1 := by
  have unspent : isSpent sampleBackend sampleService ⟨[],[],[],1000⟩ sampleRequest.nullifierHash = .ok false := by
    have address : (nullifierPDA sampleBackend sampleService sampleRequest.nullifierHash).isSome = true := by
      decide +kernel
    obtain ⟨key,found⟩ := Option.isSome_iff_exists.mp address
    simp [isSpent,found]
  have checked : Checked sampleBackend sampleService ⟨[],[],[],1000⟩ sampleRequest :=
    ⟨sampleRequest_guarded _,unspent,sampleRequest_parity (bigInt_decimal _),rfl⟩
  refine ⟨(validate_exact _ _).mpr checked,fun submitted => ?_⟩
  have elapsed := ((process_exact _ _ _).mp submitted).2 (by decide)
  have waits : ¬sampleService.config.privacyDelaySlots ≤ (1000 : Int) - rowAt ⟨[],[],[],1000⟩ sampleRequest.root := by
    decide
  exact waits elapsed

end Octora.Relayer.DryRun
