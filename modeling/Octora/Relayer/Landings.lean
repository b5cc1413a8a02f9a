import Octora.Relayer.Locks

namespace Octora.Relayer
open BigEndian BigIntText SolanaTx

variable {ι : Type}

-- A signature signs the message: it belongs to one set of instructions.
def Backend.Signed (backend : Backend) : Prop :=
  ∀ one two : Tx WithdrawRequest, backend.signature one = backend.signature two → one.instructions = two.instructions

-- The withdrawal executed under this signature.
def Landed (world : World ι) (signature : Text) (withdraw : WithdrawRequest) : Prop :=
  ∃ landing ∈ world.log, landing.signature = signature ∧ ∃ before events, landing.receipt =
    .submitted before (.withdraw withdraw.accounts withdraw.proofData withdraw.inputs) (.ok events)

-- No transaction has been seen yet.
structure Unlogged (world : World ι) : Prop where
  log : world.log = []
  outcomes : world.cluster.outcomes = []

structure Chained (backend : Backend) (first world : World ι) : Prop where
  runs : Runs backend.runtime first.ledger (world.log.map Landing.receipt) world.ledger
  executed : ∀ signature, (signature,true) ∈ world.cluster.outcomes →
    ∃ tx, backend.signature tx = signature ∧ Landed world signature tx.instructions
  owned : ∀ signature withdraw, Landed world signature withdraw →
    (world.ledger withdraw.accounts.nullifierAccount).data.mixerOwned = true

def Submit.pending : Submit α → Option (Tx α)
  | .sendTransaction tx _ => some tx
  | .confirmTransaction tx _ => some tx
  | _ => none

-- What a call sends is the withdrawal it was asked for.
def Sending (backend : Backend) (services : ι → RelayerService) (world : World ι) : Prop :=
  ∀ caller service request ix submit, world.calls caller = some ⟨service,request,.running (.submitting ix submit)⟩ →
    (∃ hotWallet, (services service).client = some hotWallet ∧
      withdrawIx backend (services service) hotWallet request = some ix) ∧
    (∀ tx, Submit.pending submit = some tx → tx.instructions = ix) ∧ ∀ result, submit ≠ .done result

-- The request's withdrawal landed, and this is the answer that tells so.
def Won (backend : Backend) (services : ι → RelayerService) (world : World ι) (service : ι) (request : Request)
    (result : Settled) : Prop :=
  ∀ answer, result = .ok answer → answer.success = true → ∃ hotWallet ix signature,
    (services service).client = some hotWallet ∧ withdrawIx backend (services service) hotWallet request = some ix ∧
    Landed world signature ix ∧ succeed (services service) request signature = .ok answer

theorem accountExists_owned {ledger : Ledger} (owned : (ledger key).data.mixerOwned = true) :
    accountExists ledger key = true := by
  rw [accountExists,owned_not_fresh owned]
  simp

theorem landed_kept {before after : World ι} (landed : Landed before signature withdrawal)
    (grown : ∃ more, after.log = before.log ++ more) : Landed after signature withdrawal := by
  obtain ⟨landing,here,facts⟩ := landed
  obtain ⟨more,same⟩ := grown
  exact ⟨landing,same ▸ List.mem_append_left _ here,facts⟩

-- A withdrawal that succeeds leaves its nullifier account behind.
theorem withdrawn_owned (step : Octora.Step env before (.submitted ledger
      (.withdraw accounts proofData inputs) (.ok events)) after) :
    (after accounts.nullifierAccount).data.mixerOwned = true := by
  generalize named : Receipt.submitted ledger (.withdraw accounts proofData inputs) (.ok events) = receipt at step
  cases step with
  | submitted now instruction =>
    obtain ⟨rfl,rfl,ended⟩ := Receipt.submitted.inj named
    rcases submit_cases env now ledger (.withdraw accounts proofData inputs) with ⟨_,_,done⟩ | ⟨_,refused,_⟩
    · cases done with
      | withdrawn withdrawn =>
        rw [withdrawn.data,if_pos rfl]
        rfl
    · rw [refused] at ended
      cases ended
  | rolledBack => cases named
  | external _ _ _ _ => cases named

section Stages
variable {backend : Backend} {service : RelayerService} {request : Request}

def Stage.wins (stage : Stage) : Prop := ∃ answer, stage = .settled (.ok answer) ∧ answer.success = true

theorem settled_loses {reason : Refusal} : ¬(Stage.settled (.ok (failure request reason))).wins := by
  rintro ⟨answer,same,success⟩
  cases same
  cases success

theorem afterSubmission_loses (reason : Thrown) : ¬(afterSubmission service request (.error reason)).wins := settled_loses

theorem rethrow_loses (message : Text) : ¬(rethrow service request message).wins := by
  unfold rethrow
  split
  · rintro ⟨_,same,_⟩
    cases same
  · exact afterSubmission_loses _

theorem afterSubmit_wins (wins : (afterSubmit service request ix sending).wins) :
    ∃ signature, sending = .done (.ok signature) := by
  unfold afterSubmit at wins
  split at wins
  · exact ⟨_,rfl⟩
  · exact absurd wins (rethrow_loses _)
  · obtain ⟨_,same,_⟩ := wins
    cases same

theorem afterPool_loses (answer : Except Text Bool) : ¬(afterPool backend service request answer).wins := by
  unfold afterPool
  split
  · exact afterSubmission_loses _
  · exact afterSubmission_loses _
  · split
    · exact afterSubmission_loses _
    · intro wins
      obtain ⟨_,same⟩ := afterSubmit_wins wins
      cases same

theorem afterDelay_loses (delay : Delay) : ¬(afterDelay backend service request delay).wins := by
  unfold afterDelay
  split
  · exact settled_loses
  · split
    · exact settled_loses
    · exact settled_loses
    · split
      · rintro ⟨_,same,_⟩
        cases same
      · exact afterSubmission_loses _

theorem afterSpent_loses (answer : Except Thrown Bool) : ¬(afterSpent backend service request answer).wins := by
  unfold afterSpent
  split
  · rintro ⟨_,same,_⟩
    cases same
  · exact settled_loses
  · split
    · exact settled_loses
    · split
      · rintro ⟨_,same,_⟩
        cases same
      · exact afterDelay_loses _

theorem afterSubmission_ended (answer : Except Thrown Text) :
    ∃ result, afterSubmission service request answer = .settled result := by
  cases answer <;> exact ⟨_,rfl⟩

theorem rethrow_sent (message : Text) : rethrow service request message ≠ .submitting ix sending := by
  unfold rethrow
  split
  · nofun
  · have ended : ∃ result, afterSubmission service request (.error (.message message)) = .settled result :=
      afterSubmission_ended (.error (.message message))
    obtain ⟨_,same⟩ := ended
    rw [same]
    nofun

theorem afterSubmit_sent (same : afterSubmit service request ix next = .submitting kept sending) :
    kept = ix ∧ sending = next ∧ ∀ result, next ≠ .done result := by
  unfold afterSubmit at same
  split at same
  · cases same
  · exact absurd same (rethrow_sent _)
  · rename_i one two
    cases same
    refine ⟨rfl,rfl,?_⟩
    rintro (error | text) rfl
    · exact two _ rfl
    · exact one _ rfl

theorem afterPool_sent (same : afterPool backend service request answer = .submitting ix sending) :
    (∃ hotWallet, service.client = some hotWallet ∧ withdrawIx backend service hotWallet request = some ix) ∧
      sending = .getLatestBlockhash 1 := by
  unfold afterPool at same
  split at same
  · cases same
  · cases same
  · split at same
    · cases same
    · rename_i built
      obtain ⟨rfl,rfl,_⟩ := afterSubmit_sent same
      exact ⟨Option.bind_eq_some_iff.mp built,rfl⟩

theorem afterDelay_sent (delay : Delay) : afterDelay backend service request delay ≠ .submitting ix sending := by
  unfold afterDelay
  split
  · nofun
  · split
    · nofun
    · nofun
    · split <;> nofun

theorem afterSpent_sent (answer : Except Thrown Bool) : afterSpent backend service request answer ≠ .submitting ix sending := by
  unfold afterSpent
  split
  · nofun
  · nofun
  · split
    · nofun
    · split
      · nofun
      · exact afterDelay_sent _

theorem attemptFailed_pending (maxAttempts attempt : Nat) (message : Text) :
    Submit.pending (attemptFailed maxAttempts attempt message : Submit α) = none := by
  unfold attemptFailed
  split <;> rfl

theorem submitStep_pending (step : SubmitStep signature ix maxAttempts cluster sending reply next grown)
    (own : ∀ tx, Submit.pending sending = some tx → tx.instructions = ix) (pending : Submit.pending next = some tx) :
    tx.instructions = ix := by
  cases step with
  | blockhash built =>
    cases pending
    exact built
  | sent => exact own _ pending
  | confirmed _ => cases pending
  | _ =>
    rw [attemptFailed_pending] at pending
    cases pending

end Stages

variable {backend : Backend} {services : ι → RelayerService} {first before after : World ι}

theorem begin_loses (world : World ι) (service : ι) (request : Request) :
    ¬(begin backend services world service request).wins := by
  unfold begin
  split
  · exact afterSpent_loses _
  · split
    · rintro ⟨_,same,_⟩
      cases same
    · exact afterSpent_loses _

theorem unlogged_chained (unlogged : Unlogged first) : Chained backend first first := by
  refine ⟨?_,?_,?_⟩
  · rw [unlogged.log]
    exact .nil
  · intro signature executed
    rw [unlogged.outcomes] at executed
    cases executed
  · rintro signature withdraw ⟨landing,here,_⟩
    rw [unlogged.log] at here
    cases here

theorem idle_sending (idle : Idle first) : Sending backend services first := by
  intro caller _ _ _ _ here
  rw [idle.calls caller] at here
  cases here

theorem won_kept (won : Won backend services before service request result)
    (grown : ∃ more, after.log = before.log ++ more) : Won backend services after service request result := by
  intro answer same success
  obtain ⟨hotWallet,ix,signature,client,built,landed,answered⟩ := won answer same success
  exact ⟨hotWallet,ix,signature,client,built,landed_kept landed grown,answered⟩

theorem loses_won {stage : Stage} (loses : ¬stage.wins) (named : .settled result = stage) :
    Won backend services world service request result := by
  rintro answer rfl success
  exact absurd ⟨answer,named.symm,success⟩ loses

-- A call that ends with a signature ends with that of a landed withdrawal.
theorem advance_won (signed : backend.Signed) (chained : Chained backend first before)
    (sending : Sending backend services before) (was : before.calls caller = some ⟨service,request,.running old⟩)
    (advance : Advance backend services before caller service request old action (.settled result)) :
    Won backend services before service request result := by
  generalize named : Stage.settled result = stage at advance
  cases advance with
  | spentFound _ _ => exact loses_won (afterSpent_loses _) named
  | spentAbsent _ _ => exact loses_won (afterSpent_loses _) named
  | spentFails => exact loses_won (afterSpent_loses _) named
  | @slotRead answer =>
    refine loses_won ?_ named
    cases answer <;> (rintro ⟨_,same,_⟩; cases same)
  | observed _ => exact loses_won (afterDelay_loses _) named
  | observeFails _ =>
    refine loses_won ?_ named
    rintro ⟨_,same,_⟩
    cases same
  | pool _ => exact loses_won (afterPool_loses _) named
  | diagnosed => exact loses_won (afterSubmission_loses _) named
  | rpc step =>
    rintro answer rfl success
    obtain ⟨txSignature,rfl⟩ := afterSubmit_wins ⟨answer,named.symm,success⟩
    obtain ⟨⟨hotWallet,client,built⟩,own,_⟩ := sending _ _ _ _ _ was
    generalize ended : Submit.done (.ok txSignature) = next at step
    cases step with
    | confirmed executed =>
      cases ended
      obtain ⟨tx,same,landed⟩ := chained.executed _ executed
      rw [signed _ _ same,own _ rfl] at landed
      exact ⟨hotWallet,_,_,client,built,landed,Stage.settled.inj named.symm⟩
    | blockhash _ => cases ended
    | sent => cases ended
    | _ =>
      unfold attemptFailed at ended
      split at ended <;> cases ended

variable [DecidableEq ι]

-- A step leaves the chain alone or logs one step of it.
theorem step_log (step : Step backend services before action after) :
    (after.ledger = before.ledger ∧ after.log = before.log) ∨
    ∃ signature receipt, Octora.Step backend.runtime before.ledger receipt after.ledger ∧
      after.log = before.log ++ [⟨before.slot,signature,receipt,after.ledger⟩] := by
  cases step with
  | chain step => exact .inr ⟨_,_,step,rfl⟩
  | @land tx ledger result now accepted valid fresh ran =>
    have moved : Octora.Step backend.runtime before.ledger
        (.submitted before.ledger (instructionOf tx) (submit backend.runtime now before.ledger (instructionOf tx)).2)
        (submit backend.runtime now before.ledger (instructionOf tx)).1 := .submitted now _
    rw [ran] at moved
    exact .inr ⟨_,_,moved,rfl⟩
  | @enter caller service request _ =>
    refine .inl ?_
    unfold World.processWithdrawal
    split
    · exact ⟨rfl,rfl⟩
    · split <;> exact ⟨rfl,rfl⟩
  | @rpc caller service request ix submit reply next cluster _ _ =>
    refine .inl ?_
    show (before.spentBy service request next).ledger = _ ∧ (before.spentBy service request next).log = _
    unfold World.spentBy
    split <;> exact ⟨rfl,rfl⟩
  | _ => exact .inl ⟨rfl,rfl⟩

theorem log_grows (step : Step backend services before action after) : ∃ more, after.log = before.log ++ more := by
  rcases step_log step with ⟨_,same⟩ | ⟨_,_,_,same⟩
  · exact ⟨[],by rw [same,List.append_nil]⟩
  · exact ⟨_,same⟩

theorem submitStep_outcomes (step : SubmitStep signature instructions maxAttempts cluster sending reply next grown) :
    grown.outcomes = cluster.outcomes := by
  cases step with
  | sendFails reached => cases reached <;> rfl
  | _ => rfl

-- What a step adds to the outcomes is what it logs.
theorem step_outcomes (step : Step backend services before action after)
    (executed : (signature,true) ∈ after.cluster.outcomes) : (signature,true) ∈ before.cluster.outcomes ∨
      ∃ tx, backend.signature tx = signature ∧ Landed after signature tx.instructions := by
  cases step with
  | @land tx ledger result now accepted valid fresh ran =>
    rcases List.mem_append.mp executed with old | new
    · exact .inl old
    · obtain ⟨rfl,succeeded⟩ := Prod.mk.inj (List.mem_singleton.mp new)
      match result with
      | .error _ => cases succeeded
      | .ok events =>
        exact .inr ⟨tx,rfl,_,List.mem_append_right _ (List.mem_singleton_self _),rfl,_,_,rfl⟩
  | @enter caller service request _ =>
    refine .inl ?_
    unfold World.processWithdrawal at executed
    split at executed
    · exact executed
    · split at executed <;> exact executed
  | rpc _ step =>
    refine .inl ?_
    rw [← submitStep_outcomes step]
    exact executed
  | _ => exact .inl executed

theorem step_chained (chained : Chained backend first before) (step : Step backend services before action after) :
    Chained backend first after := by
  refine ⟨?_,?_,?_⟩
  · rcases step_log step with ⟨ledger,log⟩ | ⟨_,_,moved,log⟩
    · rw [ledger,log]
      exact chained.runs
    · rw [log,List.map_append]
      exact .step chained.runs moved
  · intro signature executed
    rcases step_outcomes step executed with old | new
    · obtain ⟨tx,same,landed⟩ := chained.executed _ old
      exact ⟨tx,same,landed_kept landed (log_grows step)⟩
    · exact new
  · intro signature withdraw landed
    rcases step_log step with ⟨ledger,log⟩ | ⟨_,_,moved,log⟩
    · rw [ledger]
      refine chained.owned signature withdraw ?_
      rw [Landed,← log]
      exact landed
    · obtain ⟨landing,here,named,ledger,events,ran⟩ := landed
      rw [log] at here
      rcases List.mem_append.mp here with old | new
      · exact step_owned moved _ (chained.owned signature withdraw ⟨landing,old,named,ledger,events,ran⟩)
      · rw [List.mem_singleton.mp new] at ran
        dsimp only at ran
        rw [ran] at moved
        exact withdrawn_owned moved

theorem run_chained (unlogged : Unlogged first) (run : Reached backend services first trace world) :
    Chained backend first world := by
  induction run with
  | nil => exact unlogged_chained unlogged
  | step _ step ih => exact step_chained ih step

theorem step_sending (sending : Sending backend services before) (step : Step backend services before action after) :
    Sending backend services after := by
  intro caller service request ix loop here
  rcases step_running step here with was | entered | ⟨old,was,advance⟩
  · exact sending _ _ _ _ _ was
  · have begun := entered.begun
    unfold begin at begun
    split at begun
    · cases begun
    · split at begun
      · cases begun
      · cases begun
  · generalize named : Stage.submitting ix loop = stage at advance
    cases advance with
    | spentFound _ _ => cases named
    | spentAbsent _ _ => exact absurd named.symm (afterSpent_sent _)
    | spentFails => cases named
    | @slotRead answer => cases answer <;> cases named
    | observed _ => exact absurd named.symm (afterDelay_sent _)
    | observeFails _ => cases named
    | pool _ =>
      obtain ⟨built,rfl⟩ := afterPool_sent named.symm
      exact ⟨built,nofun,nofun⟩
    | rpc step =>
      obtain ⟨built,own,_⟩ := sending _ _ _ _ _ was
      obtain ⟨rfl,rfl,open_⟩ := afterSubmit_sent named.symm
      exact ⟨built,fun tx pending => submitStep_pending step own pending,open_⟩
    | diagnosed => cases named

theorem run_sending (idle : Idle first) (run : Reached backend services first trace world) :
    Sending backend services world := by
  induction run with
  | nil => exact idle_sending idle
  | step _ step ih => exact step_sending ih step

variable {relates : ι → Request → Request → Prop}

-- Every answer of success tells of a landed withdrawal, the caller's own or that
-- of the request it joined.
theorem run_won (signed : backend.Signed) (reflexive : ∀ service request, relates service request request)
    (transitive : ∀ service one two three, relates service one two → relates service two three → relates service one three)
    (idle : Idle first) (unlogged : Unlogged first) (run : Reached backend services first trace world)
    (joining : ∀ entry ∈ trace, Joining backend services relates entry.1 entry.2) :
    Followed backend services relates world ∧ Answers backend services relates (Won backend services) world := by
  induction run with
  | nil => exact ⟨idle_followed idle,idle_answers idle⟩
  | @step trace before action after prior step ih =>
    rw [List.forall_mem_append,List.forall_mem_singleton] at joining
    obtain ⟨followed,answers⟩ := ih joining.1
    refine ⟨step_followed (run_locked idle prior) followed joining.2 step,?_⟩
    refine step_answers reflexive transitive (run_locked idle prior) followed answers step ?_ ?_ ?_
    · exact fun service request result won => won_kept won (log_grows step)
    · intro caller service request result entered
      exact loses_won (begin_loses before service request) entered.begun
    · intro caller service request old result was advance
      exact won_kept (advance_won signed (run_chained unlogged prior) (run_sending idle prior) was advance)
        (log_grows step)

theorem byteText_injective : Function.Injective fun byte : UInt8 => Char.ofNat byte.toNat := by
  have value : ∀ byte : UInt8, (Char.ofNat byte.toNat).toNat = byte.toNat := by
    intro byte
    have small := byte.toNat_lt
    rw [Char.ofNat,dif_pos (Or.inl (by omega))]
    rfl
  intro one two same
  have values := congrArg Char.toNat same
  dsimp only at values
  rw [value,value] at values
  exact UInt8.toNat_inj.mp values

theorem signingBackend_signed : signingBackend.Signed := by
  intro one two same
  have messages := (List.append_inj same (by simp [messageText])).1
  have bytes := List.map_injective_iff.mpr byteText_injective messages
  simp only [List.append_assoc] at bytes
  have split : ∀ {n : Nat} {left right : Bytes n} {rest more : List UInt8},
      left.toList ++ rest = right.toList ++ more → left = right ∧ rest = more := by
    intro n left right rest more equal
    obtain ⟨heads,tails⟩ := List.append_inj equal (by simp)
    exact ⟨List.Vector.toList_injective heads,tails⟩
  obtain ⟨signer,bytes⟩ := split bytes
  obtain ⟨mixerPool,bytes⟩ := split bytes
  obtain ⟨nullifierAccount,bytes⟩ := split bytes
  obtain ⟨recipient,bytes⟩ := split bytes
  obtain ⟨relayer,bytes⟩ := split bytes
  obtain ⟨proofData,bytes⟩ := split bytes
  have inputs := List.Vector.toList_injective bytes
  match one,two with
  | ⟨⟨⟨_,_,_,_,_⟩,_,_⟩,_,_,_,_⟩,⟨⟨⟨_,_,_,_,_⟩,_,_⟩,_,_,_,_⟩ =>
    simp only at signer mixerPool nullifierAccount recipient relayer proofData inputs
    simp only [signer,mixerPool,nullifierAccount,recipient,relayer,proofData,inputs]

end Octora.Relayer
