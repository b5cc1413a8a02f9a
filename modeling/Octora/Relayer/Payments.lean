import Octora.Relayer.InFlight

namespace Octora.Relayer
open BigEndian BigIntText Fallible SolanaTx

theorem bigintToBeBytes_inv {whole : Int} (packed : bigintToBeBytes whole = some bytes) :
    ∃ number : Nat, whole = number ∧ number < 2^256 ∧ bytes = (Bytes.ofNat 32 number).toList := by
  have inside : 0 ≤ whole ∧ whole < 2^256 := by
    unfold bigintToBeBytes at packed
    split at packed
    · cases packed
    · omega
  have back : (whole.toNat : Int) = whole := Int.toNat_of_nonneg inside.1
  have fits : whole.toNat < 2^256 := by omega
  refine ⟨whole.toNat,back.symm,fits,?_⟩
  have exact_ := bigintToBeBytes_exact whole.toNat fits
  rw [back,packed] at exact_
  exact Option.some.inj exact_

-- The bytes of five signals are those of five numbers.
theorem convertPublicInputs_inv (packed : convertPublicInputsToBytes [s0,s1,s2,s3,s4] = some bytes) :
    ∃ values : Fin 5 → Nat, (∀ i, values i < 2^256) ∧ bytes = (packedInputs values).toList ∧
      bigInt s1 = some (values 1 : Int) ∧ bigInt s4 = some (values 4 : Int) := by
  have each : ∀ {signal : Text} {bytes}, (∃ whole, bigInt signal = some whole ∧ bigintToBeBytes whole = some bytes) →
      ∃ number : Nat, bigInt signal = some (number : Int) ∧ number < 2^256 ∧ bytes = (Bytes.ofNat 32 number).toList := by
    intro signal bytes converted
    obtain ⟨whole,read,packed⟩ := converted
    obtain ⟨number,rfl,fits,same⟩ := bigintToBeBytes_inv packed
    exact ⟨number,read,fits,same⟩
  rw [convertPublicInputsToBytes,if_neg (fun wrong => wrong rfl)] at packed
  simp only [List.mapM_cons,List.mapM_nil,Option.pure_def,Option.bind_eq_bind,Option.bind_eq_some_iff,
    Option.some.injEq] at packed
  obtain ⟨_,⟨b0,one,_,⟨b1,two,_,⟨b2,three,_,⟨b3,four,_,⟨b4,five,_,rfl,rfl⟩,rfl⟩,rfl⟩,rfl⟩,rfl⟩,rfl⟩ := packed
  obtain ⟨n0,_,fits0,rfl⟩ := each one
  obtain ⟨n1,read1,fits1,rfl⟩ := each two
  obtain ⟨n2,_,fits2,rfl⟩ := each three
  obtain ⟨n3,_,fits3,rfl⟩ := each four
  obtain ⟨n4,read4,fits4,rfl⟩ := each five
  refine ⟨fun i => [n0,n1,n2,n3,n4].get i,?_,?_,read1,read4⟩
  · intro i
    fin_cases i <;> assumption
  · simp [packedInputs,List.finRange]

theorem parity_signals {publicKey : Text → Option Pubkey}
    (parity : checkPublicSignalsParity poseidon publicKey request = .ok ()) :
    ∃ s0 s1 s2 s3 s4, request.publicSignals = [s0,s1,s2,s3,s4] ∧ bigInt request.nullifierHash = bigInt s1 ∧
      bigInt request.fee = bigInt s4 := by
  have parsed : ∀ {text value}, parse text = .ok value → bigInt text = some value := by
    intro text value read
    unfold parse at read
    split at read
    · rename_i found
      rw [found,Except.ok.inj read]
    · cases read
  unfold checkPublicSignalsParity at parity
  split at parity
  · rename_i s0 s1 s2 s3 s4 listed
    simp only [do_ok,require_ok] at parity
    obtain ⟨_,_,sigNul,nul,_,_,_,_,sigFee,fee,_,_,_,_,number,own,_,same,charge,theirs,_,equal,_⟩ := parity
    refine ⟨s0,s1,s2,s3,s4,listed,?_,?_⟩
    · rw [parsed own,parsed nul,same]
    · rw [parsed theirs,parsed fee,equal]
  · cases parity

-- The instruction packs the nullifier and the fee that the request names.
theorem withdrawIx_packed (parity : checkPublicSignalsParity poseidon publicKey request = .ok ())
    (built : withdrawIx backend service hotWallet request = some ix) :
    ∃ values : Fin 5 → Nat, (∀ i, values i < 2^256) ∧ ix.inputs = packedInputs values ∧
      bigInt request.nullifierHash = some (values 1 : Int) ∧ bigInt request.fee = some (values 4 : Int) := by
  obtain ⟨s0,s1,s2,s3,s4,listed,number,charge⟩ := parity_signals parity
  simp only [withdrawIx,Option.bind_eq_bind,Option.bind_eq_some_iff] at built
  obtain ⟨_,_,_,_,bytes,packed,inputs,sized_,_,_,_,_,same⟩ := built
  cases same
  rw [listed] at packed
  obtain ⟨values,fits,rfl,one,four⟩ := convertPublicInputs_inv packed
  refine ⟨values,fits,?_,number.trans one,charge.trans four⟩
  unfold sized at sized_
  split at sized_
  · cases sized_
    rfl
  · cases sized_

theorem withdrawIx_accounts (built : withdrawIx backend service hotWallet request = some ix) :
    ix.accounts.mixerPool = service.mixerPoolPDA ∧ backend.publicKey request.recipient = some ix.accounts.recipient := by
  simp only [withdrawIx,Option.bind_eq_bind,Option.bind_eq_some_iff] at built
  obtain ⟨_,_,_,_,_,_,_,_,_,_,recipient,found,same⟩ := built
  cases same
  exact ⟨rfl,found⟩

theorem withdraw_seeds (accepted : (submit env now before (.withdraw accounts proofData inputs)).2 = .ok events)
    (loaded : (before accounts.mixerPool).data = .pool pool) : poolSeedsHold env accounts.mixerPool pool := by
  unfold submit at accepted
  split at accepted
  · rename_i ran
    simp only [execute,withdraw,do_ok,require_ok] at ran
    obtain ⟨⟨_,_⟩,⟨_,_,current,here,_,_,_,seeds,_⟩,_⟩ := ran
    cases AccountData.pool.inj ((loadPool_exact.mp here).symm.trans loaded)
    exact seeds
  · cases accepted

-- `initializeClient`: the pool's address is derived from the configured
-- denomination, and no other denomination derives it.
structure RelayerService.Derived (env : Runtime) (service : RelayerService) (denomination : UInt64) : Prop where
  configured : service.config.poolDenomination = denomination.toNat
  address : service.mixerPoolPDA = (env.findProgramAddress (.mixerPool denomination)).1
  apart : ∀ other bump, env.createProgramAddress (.mixerPool other) bump = some service.mixerPoolPDA → other = denomination

-- What a landed withdrawal did for the request: it spent the nullifier, and the
-- recipient was credited with the denomination less the fee.
structure Payment (backend : Backend) (service : RelayerService) (request : Request) (landing : Landing)
    (nullifier denomination fee : Nat) : Prop where
  number : bigInt request.nullifierHash = some (nullifier : Int)
  charged : bigInt request.fee = some (fee : Int)
  bounded : fee < denomination
  paid : ∃ before accounts proofData inputs events rent,
    landing.receipt = .submitted before (.withdraw accounts proofData inputs) (.ok events) ∧
    accounts.mixerPool = service.mixerPoolPDA ∧ (inputNullifierHash inputs).value = nullifier ∧
    backend.publicKey request.recipient = some accounts.recipient ∧
    ∀ key, landing.after.lamports key + share accounts.mixerPool key denomination + share accounts.signer key rent =
      before.lamports key + share accounts.recipient key (denomination - fee) + share accounts.relayer key fee +
        share accounts.nullifierAccount key rent

-- A withdrawal of this nullifier from the pool.
def Withdraws (poolKey : Pubkey) (nullifier : Nat) (landing : Landing) : Prop :=
  ∃ withdrawal, withdrawalOf poolKey landing.receipt = some withdrawal ∧ (inputNullifierHash withdrawal.inputs).value = nullifier

theorem payment_landed {backend : Backend} {landing : Landing} (derived : service.Derived backend.runtime denomination)
    (parity : checkPublicSignalsParity poseidon publicKey request = .ok ())
    (built : withdrawIx backend service hotWallet request = some ix)
    (step : Octora.Step backend.runtime earlier landing.receipt landing.after)
    (landed : landing.receipt = .submitted before (.withdraw ix.accounts ix.proofData ix.inputs) (.ok events)) :
    ∃ nullifier fee, Payment backend service request landing nullifier denomination.toNat fee ∧
      Withdraws service.mixerPoolPDA nullifier landing := by
  obtain ⟨values,fits,packed,number,charged⟩ := withdrawIx_packed parity built
  obtain ⟨own,recipient⟩ := withdrawIx_accounts built
  have nullifier : (inputNullifierHash ix.inputs).value = values 1 := by
    rw [packed,inputNullifierHash,publicInput_packed,Bytes.value_ofNat (fits 1)]
  have fee : (inputFee ix.inputs).value = values 4 := by
    rw [packed,inputFee,publicInput_packed,Bytes.value_ofNat (fits 4)]
  obtain ⟨slot,signature,receipt,after⟩ := landing
  dsimp only at step landed ⊢
  subst landed
  generalize named : Receipt.submitted before (.withdraw ix.accounts ix.proofData ix.inputs) (.ok events) = receipt at step
  cases step with
  | submitted now instruction =>
    obtain ⟨rfl,rfl,accepted⟩ := Receipt.submitted.inj named
    obtain ⟨pool,rent,loaded,bounded,_,_,moved⟩ := withdraw_pays accepted.symm
    have seeds := withdraw_seeds accepted.symm loaded
    rw [poolSeedsHold,own] at seeds
    rw [derived.apart _ _ seeds,fee] at bounded moved
    have receipt := congrArg (Receipt.submitted before (.withdraw ix.accounts ix.proofData ix.inputs)) accepted.symm
    have listed : withdrawalOf service.mixerPoolPDA
        (.submitted before (.withdraw ix.accounts ix.proofData ix.inputs) (.ok events)) = some ix := if_pos own
    rw [← receipt] at listed
    exact ⟨values 1,values 4,⟨number,charged,bounded,_,_,_,_,_,rent,receipt,own,nullifier,recipient,moved⟩,_,listed,nullifier⟩
  | rolledBack => cases named
  | external _ _ _ _ => cases named

-- A pool lets a nullifier through once, so no other landing withdraws it.
theorem withdraws_once {log : List Landing} (spent : Spent env poolKey (withdrawalsOf poolKey (log.map Landing.receipt)) ledger)
    (parts : log = early ++ landing :: late) (here : Withdraws poolKey nullifier landing) :
    ∀ other ∈ early ++ late, ¬Withdraws poolKey nullifier other := by
  obtain ⟨withdrawal,found,number⟩ := here
  have once := spent.once
  rw [parts,List.map_append,List.map_cons,withdrawalsOf,List.filterMap_append,List.filterMap_cons,found] at once
  dsimp only at once
  rw [List.map_append,List.map_cons] at once
  obtain ⟨_,tail,apart⟩ := List.nodup_append'.mp once
  have fresh := (List.nodup_cons.mp tail).1
  have listed : ∀ {part : List Landing} {other : Landing} {again : WithdrawRequest}, other ∈ part →
      withdrawalOf poolKey other.receipt = some again → again.inputs = withdrawal.inputs ∨
        (inputNullifierHash again.inputs).value = nullifier →
      inputNullifierHash withdrawal.inputs ∈ ((part.map Landing.receipt).filterMap (withdrawalOf poolKey)).map
        fun request => inputNullifierHash request.inputs := by
    intro part other again inside twice same
    refine List.mem_map.mpr ⟨again,List.mem_filterMap.mpr ⟨other.receipt,List.mem_map_of_mem inside,twice⟩,?_⟩
    rcases same with same | same
    · rw [same]
    · exact Bytes.value_inj.mp (same.trans number.symm)
  rintro other inside ⟨again,twice,same⟩
  rcases List.mem_append.mp inside with left | right
  · exact apart (listed left twice (.inr same)) List.mem_cons_self
  · exact fresh (listed right twice (.inr same))

variable {ι : Type} {backend : Backend} {services : ι → RelayerService} {first before after : World ι}

-- Whoever joins asks for the same payment.
structure Payee (backend : Backend) (request led : Request) : Prop where
  nullifierHash : led.nullifierHash = request.nullifierHash
  recipient : backend.publicKey led.recipient = backend.publicKey request.recipient
  fee : bigInt led.fee = bigInt request.fee

abbrev payee (backend : Backend) (_ : ι) (request led : Request) : Prop := Payee backend request led

theorem payee_refl (service : ι) (request : Request) : payee backend service request request := ⟨rfl,rfl,rfl⟩

theorem payee_trans (service : ι) (one two three : Request) (first : payee backend service one two)
    (second : payee backend service two three) : payee backend service one three :=
  ⟨second.nullifierHash.trans first.nullifierHash,second.recipient.trans first.recipient,second.fee.trans first.fee⟩

-- A winning answer is that of a request the verifier let through.
def Vouched (backend : Backend) (services : ι → RelayerService) (world : World ι) (service : ι) (request : Request)
    (result : Settled) : Prop :=
  Won backend services world service request result ∧
    ∀ answer, result = .ok answer → answer.success = true → Admissible backend request

-- One landing pays the request, it carries the answer's signature, and no other
-- landing spends its nullifier.
def PaidOnce (backend : Backend) (service : RelayerService) (log : List Landing) (denomination : Nat) (request : Request)
    (answer : WithdrawResult) : Prop :=
  ∃ early landing late nullifier fee, log = early ++ landing :: late ∧
    Payment backend service request landing nullifier denomination fee ∧
    answer.txSignature = some landing.signature ∧
    answer.amountLamports = Api.integerText ((denomination : Int) - fee) ∧
    ∀ other ∈ early ++ late, ¬Withdraws service.mixerPoolPDA nullifier other

theorem succeed_parts (answered : succeed service request signature = .ok answer) (charged : bigInt request.fee = some fee) :
    answer.txSignature = some signature ∧
      answer.amountLamports = Api.integerText (service.config.poolDenomination - fee) := by
  unfold succeed at answered
  rw [charged] at answered
  cases answered
  exact ⟨rfl,rfl⟩

theorem payment_payee (asked : Payee backend request led)
    (payment : Payment backend service led landing nullifier denomination fee) :
    Payment backend service request landing nullifier denomination fee := by
  obtain ⟨before,accounts,proofData,inputs,events,rent,receipt,own,number,recipient,moved⟩ := payment.paid
  exact ⟨asked.nullifierHash ▸ payment.number,asked.fee ▸ payment.charged,payment.bounded,
    before,accounts,proofData,inputs,events,rent,receipt,own,number,asked.recipient ▸ recipient,moved⟩

-- Only a submission comes to succeed.
theorem advance_wins (advance : Advance backend services before caller service request old action stage)
    (wins : stage.wins) : old.phase = .submission := by
  cases advance with
  | spentFound _ _ => exact absurd wins (afterSpent_loses _)
  | spentAbsent _ _ => exact absurd wins (afterSpent_loses _)
  | spentFails => exact absurd wins (afterSpent_loses _)
  | @slotRead answer =>
    obtain ⟨_,named,_⟩ := wins
    cases answer <;> cases named
  | observed _ => exact absurd wins (afterDelay_loses _)
  | observeFails _ =>
    obtain ⟨_,named,_⟩ := wins
    cases named
  | pool _ => rfl
  | rpc _ => rfl
  | diagnosed => rfl

variable [DecidableEq ι]

theorem run_steps (unlogged : Unlogged first) (run : Reached backend services first trace world) :
    ∀ landing ∈ world.log, ∃ earlier, Octora.Step backend.runtime earlier landing.receipt landing.after := by
  induction run with
  | nil =>
    intro landing here
    rw [unlogged.log] at here
    cases here
  | step _ step ih =>
    intro landing here
    rcases step_log step with ⟨_,same⟩ | ⟨_,_,moved,grown⟩
    · exact ih landing (same ▸ here)
    · rw [grown] at here
      rcases List.mem_append.mp here with old | new
      · exact ih landing old
      · rw [List.mem_singleton.mp new]
        exact ⟨_,moved⟩

theorem vouched_kept (vouched : Vouched backend services before service request result)
    (step : Step backend services before action after) : Vouched backend services after service request result :=
  ⟨won_kept vouched.1 (log_grows step),vouched.2⟩

theorem run_vouched (signed : backend.Signed) (idle : Idle first) (unlogged : Unlogged first)
    (run : Reached backend services first trace world)
    (joining : ∀ entry ∈ trace, Joining backend services (payee backend) entry.1 entry.2) :
    Followed backend services (payee backend) world ∧
      Answers backend services (payee backend) (Vouched backend services) world := by
  induction run with
  | nil => exact ⟨idle_followed idle,idle_answers idle⟩
  | @step trace before action after prior step ih =>
    rw [List.forall_mem_append,List.forall_mem_singleton] at joining
    obtain ⟨followed,answers⟩ := ih joining.1
    refine ⟨step_followed (run_locked idle prior) followed joining.2 step,?_⟩
    refine step_answers payee_refl payee_trans (run_locked idle prior) followed answers step ?_ ?_ ?_
    · exact fun service request result vouched => vouched_kept vouched step
    · intro caller service request result entered
      have loses : ¬(begin backend services before service request).wins := begin_loses before service request
      refine ⟨loses_won loses entered.begun,?_⟩
      rintro answer rfl success
      exact absurd ⟨answer,entered.begun.symm,success⟩ loses
    · intro caller service request old result was advance
      refine ⟨won_kept (advance_won signed (run_chained unlogged prior) (run_sending idle prior) was advance)
        (log_grows step),?_⟩
      rintro answer rfl success
      exact (run_checked idle prior).submitted _ _ _ _ was (advance_wins advance ⟨answer,rfl,success⟩)

-- Where whoever joins asks for the same payment, an answer of success tells of
-- one landed withdrawal, the only one of its nullifier, which paid that request.
theorem success_paid (backend : Backend) (services : ι → RelayerService) (signed : backend.Signed)
    (first world : World ι) (trace : List (World ι × Action ι)) (idle : Idle first) (unlogged : Unlogged first)
    (run : Reached backend services first trace world)
    (joining : ∀ entry ∈ trace, Joining backend services (payee backend) entry.1 entry.2) :
    ∀ caller service request answer denomination, world.calls caller = some ⟨service,request,.returned (.ok answer)⟩ →
      answer.success = true → (services service).Derived backend.runtime denomination →
      PaidOnce backend (services service) world.log denomination.toNat request answer := by
  intro caller service request answer denomination here success derived
  rcases (run_vouched signed idle unlogged run joining).2.returned _ _ _ _ here with
    ⟨refused,guarded,same⟩ | ⟨_,led,asked,won,admissible⟩
  · cases same
    rw [InFlight.guard_fails guarded] at success
    cases success
  · obtain ⟨hotWallet,ix,signature,_,built,⟨landing,inside,named,before,events,receipt⟩,answered⟩ := won answer rfl success
    obtain ⟨earlier,step⟩ := run_steps unlogged run landing inside
    obtain ⟨nullifier,fee,payment,spends⟩ :=
      payment_landed derived (admissible answer rfl success).parity built step receipt
    obtain ⟨txSignature,amount⟩ := succeed_parts answered payment.charged
    obtain ⟨early,late,parts⟩ := List.append_of_mem inside
    rw [derived.configured] at amount
    exact ⟨early,landing,late,nullifier,fee,parts,payment_payee asked payment,by rw [txSignature,named],amount,
      withdraws_once (runs_spent (run_chained unlogged run).runs) parts spends⟩

end Octora.Relayer
