import Octora.Mixer.Runs

namespace Octora
open BigEndian Fallible

-- events.rs as `emit!` logs them: the discriminator, then the Borsh fields.
def depositDiscriminator : List UInt8 := [120,248,61,83,31,142,107,144]
def withdrawDiscriminator : List UInt8 := [22,9,133,26,160,44,71,192]
def pausedDiscriminator : List UInt8 := [43,14,250,236,116,42,177,89]

def littleEndian (width v : Nat) : List UInt8 := (digits width v).reverse

def i64Bits (timestamp : Int) : Nat := (timestamp % 2^64).toNat

def eventPayload : Event → List UInt8
  | .deposit e => depositDiscriminator ++ e.commitment.toList ++ littleEndian 4 e.leafIndex ++
      littleEndian 8 (i64Bits e.timestamp)
  | .withdraw e => withdrawDiscriminator ++ e.nullifierHash.toList ++ e.recipient.toList ++ e.relayer.toList ++
      littleEndian 8 e.fee ++ littleEndian 8 (i64Bits e.timestamp)
  | .paused e => pausedDiscriminator ++ littleEndian 8 e.denomination.toNat ++ [if e.paused then 1 else 0] ++
      e.authority.toList ++ littleEndian 8 (i64Bits e.timestamp)

def eventsOf : Receipt → List Event
  | .submitted _ _ (.ok events) => events
  | _ => []

def Instruction.pool : Instruction → Pubkey
  | .initializePool _ poolKey _ => poolKey
  | .deposit _ poolKey _ _ => poolKey
  | .withdraw accounts _ _ => accounts.mixerPool
  | .setPaused _ poolKey _ => poolKey

-- One transaction as the RPC node reports it. A log is the decoded payload of a
-- `Program data:` line, whoever printed it, or a line of another kind.
structure ChainTransaction where
  signature : List Char
  err : Bool
  accounts : List Pubkey
  receipts : List Receipt
  logs : List (Option (List UInt8))

-- A failed transaction leaves no instruction applied; a successful one logs
-- every event of its mixer instructions and names the pools they use.
structure ChainTransaction.Sound (tx : ChainTransaction) : Prop where
  failed : tx.err = true → ∀ before instruction result, .submitted before instruction result ∉ tx.receipts
  logged : ∀ receipt ∈ tx.receipts, ∀ event ∈ eventsOf receipt, some (eventPayload event) ∈ tx.logs
  named : ∀ before instruction result, .submitted before instruction result ∈ tx.receipts →
    instruction.pool ∈ tx.accounts

structure History (env : Runtime) (start : Ledger) (history : List ChainTransaction) (ledger : Ledger) : Prop where
  runs : Runs env start (history.flatMap ChainTransaction.receipts) ledger
  sound : ∀ tx ∈ history, tx.Sound
  signatures : (history.map ChainTransaction.signature).Nodup

def depositsOf (poolKey : Pubkey) (history : List ChainTransaction) : List (Bytes 32) :=
  commitmentsOf poolKey (history.flatMap ChainTransaction.receipts)

theorem deposit_event
    (result : (submit env now ledger (.deposit depositor poolKey commitmentKey commitment)).2 = .ok events) :
    ∃ pool, (ledger poolKey).data = .pool pool ∧ events = [.deposit ⟨commitment,pool.nextLeafIndex,now⟩] := by
  unfold submit at result
  split at result
  · rename_i next emitted accepted
    cases result
    simp only [execute,do_ok] at accepted
    obtain ⟨⟨_,event⟩,ran,returned⟩ := accepted
    cases returned
    obtain ⟨pool,_,deposited,rfl⟩ := deposit_exact ran
    exact ⟨pool,deposited.loaded,rfl⟩
  · cases result

theorem withdraw_event (result : (submit env now ledger (.withdraw accounts proofData inputs)).2 = .ok events) :
    ∃ fee, events = [.withdraw ⟨inputNullifierHash inputs,accounts.recipient,accounts.relayer,fee,now⟩] := by
  unfold submit at result
  split at result
  · rename_i next emitted accepted
    cases result
    simp only [execute,do_ok] at accepted
    obtain ⟨⟨_,event⟩,ran,returned⟩ := accepted
    cases returned
    obtain ⟨_,fee,_,rfl⟩ := withdraw_exact ran
    exact ⟨fee,rfl⟩
  · cases result

-- The receipt of the deposit that got index `k`, and the event it logged.
structure DepositLogged (poolKey : Pubkey) (commitment : Bytes 32) (k : Nat) (receipt : Receipt) : Prop where
  deposited : depositOf poolKey receipt = some commitment
  logged : ∃ now, eventsOf receipt = [.deposit ⟨commitment,k,now⟩]

theorem step_logged (tracked : Tracked env poolKey denomination base commitments withdrawals donations before)
    (step : Step env before receipt after) (deposited : depositOf poolKey receipt = some commitment) :
    DepositLogged poolKey commitment commitments.length receipt := by
  refine ⟨deposited,?_⟩
  cases step with
  | submitted now instruction =>
    cases instruction with
    | deposit depositor key commitmentKey leaf =>
      cases result : (submit env now before (.deposit depositor key commitmentKey leaf)).2 with
      | ok events =>
        rw [result] at deposited
        simp only [depositOf] at deposited
        split at deposited
        · rename_i own
          cases deposited
          subst own
          obtain ⟨pool,loaded,rfl⟩ := deposit_event result
          obtain ⟨_,here,valid⟩ := tracked.pool
          cases AccountData.pool.inj (here.symm.trans loaded)
          exact ⟨now,by rw [← valid.leaves]; rfl⟩
        · cases deposited
      | error error =>
        rw [result] at deposited
        cases deposited
    | initializePool _ _ _ => cases deposited
    | withdraw _ _ _ => cases deposited
    | setPaused _ _ _ => cases deposited
  | rolledBack => cases deposited
  | external _ _ _ _ => cases deposited

theorem runs_logged (unsigned : env.canSign poolKey = false) (zeros : ZeroChain env.poseidon)
    (initial : Tracked env poolKey denomination base [] [] 0 start) (path : Runs env start receipts ledger)
    (entered : (commitmentsOf poolKey receipts)[k]? = some commitment) :
    ∃ receipt ∈ receipts, DepositLogged poolKey commitment k receipt := by
  induction path with
  | nil => cases entered
  | @step receipts before receipt after prior step ih =>
    rw [commitmentsOf_append] at entered
    rcases Nat.lt_or_ge k (commitmentsOf poolKey receipts).length with old | new
    · rw [List.getElem?_append_left old] at entered
      obtain ⟨found,member,logged⟩ := ih entered
      exact ⟨found,List.mem_append_left _ member,logged⟩
    · rw [List.getElem?_append_right new] at entered
      cases deposited : depositOf poolKey receipt with
      | none =>
        rw [deposited] at entered
        cases entered
      | some leaf =>
        rw [deposited,Option.toList_some,List.getElem?_singleton] at entered
        split at entered
        · rename_i zero
          cases entered
          have last : k = (commitmentsOf poolKey receipts).length := by omega
          subst last
          exact ⟨receipt,by simp,step_logged (runs_tracked unsigned zeros initial prior) step deposited⟩
        · cases entered

theorem runs_step (path : Runs env start receipts ledger) (member : receipt ∈ receipts) :
    ∃ before after, Step env before receipt after := by
  induction path with
  | nil => cases member
  | step _ step ih =>
    rcases List.mem_append.mp member with old | last
    · exact ih old
    · rw [List.mem_singleton.mp last]
      exact ⟨_,_,step⟩

theorem withdrawal_logged (step : Step env before receipt after) (withdrawn : withdrawalOf poolKey receipt = some request) :
    ∃ fee now, eventsOf receipt = [.withdraw ⟨inputNullifierHash request.inputs,request.accounts.recipient,
      request.accounts.relayer,fee,now⟩] := by
  cases step with
  | submitted now instruction =>
    cases instruction with
    | withdraw accounts proofData inputs =>
      cases result : (submit env now before (.withdraw accounts proofData inputs)).2 with
      | ok events =>
        rw [result] at withdrawn
        simp only [withdrawalOf] at withdrawn
        split at withdrawn
        · cases withdrawn
          obtain ⟨fee,rfl⟩ := withdraw_event result
          exact ⟨fee,now,rfl⟩
        · cases withdrawn
      | error error =>
        rw [result] at withdrawn
        cases withdrawn
    | initializePool _ _ _ => cases withdrawn
    | deposit _ _ _ _ => cases withdrawn
    | setPaused _ _ _ => cases withdrawn
  | rolledBack => cases withdrawn
  | external _ _ _ _ => cases withdrawn

def spendsOf (poolKey : Pubkey) (history : List ChainTransaction) : List WithdrawRequest :=
  withdrawalsOf poolKey (history.flatMap ChainTransaction.receipts)

-- A successful transaction of a sound history that carries a mixer instruction
-- on a pool names the pool.
theorem carrier_named {tx : ChainTransaction} {instruction : Instruction} (sound : tx.Sound) (carried : Receipt.submitted before instruction result ∈ tx.receipts) :
    tx.err = false ∧ instruction.pool ∈ tx.accounts := by
  refine ⟨?_,sound.named before instruction result carried⟩
  cases failed : tx.err with
  | true => exact absurd carried (sound.failed failed before instruction result)
  | false => rfl

theorem history_append (chain : History env start history before) (run : Runs env before tx.receipts after)
    (sound : tx.Sound) (fresh : tx.signature ∉ history.map ChainTransaction.signature) :
    History env start (history ++ [tx]) after := by
  refine ⟨?_,?_,?_⟩
  · have whole := runs_trans chain.runs run
    simpa [List.flatMap_append] using whole
  · intro other member
    rcases List.mem_append.mp member with old | last
    · exact chain.sound other old
    · rw [List.mem_singleton.mp last]
      exact sound
  · rw [List.map_append]
    refine List.nodup_append'.mpr ⟨chain.signatures,List.nodup_singleton _,?_⟩
    intro signature old last
    rw [List.mem_singleton.mp last] at old
    exact fresh old

end Octora
