import Octora.Mixer.Nullifiers

namespace Octora
open BigEndian Fallible MerkleTree

-- The tree as the circuit sees it.
theorem bytesField_treeRoot (poseidon : List Fr → Fr) (commitments : List (Bytes 32)) :
    bytesField (treeRoot poseidon commitments) =
      node (poseidon2 poseidon) (fieldLeaf commitments) TREE_LEVELS 0 := by
  have carries : ∀ a b, bytesField (compress poseidon a b) = poseidon2 poseidon (bytesField a) (bytesField b) :=
    fun _ _ => bytesField_fieldBytes _
  exact node_map carries (padded ZERO_VALUE commitments) TREE_LEVELS 0

section Counting
variable (env : Runtime) (extract : Extractor)

def pathOf (request : WithdrawRequest) : List (Fr × Bool) :=
  pathSteps (extract request.proofData request.inputs).pathElements (extract request.proofData request.inputs).pathIndices

-- Every pair hashed by the pool's trees, by the opened paths and by the opened notes.
def HashQuery (commitments : List (Bytes 32)) (withdrawals : List WithdrawRequest) (q : Fr × Fr) : Prop :=
  (∃ k ≤ commitments.length, TreePair (poseidon2 env.poseidon) (fieldLeaf (commitments.take k)) TREE_LEVELS q) ∨
  ∃ request ∈ withdrawals, q = noteOf extract request ∨
    q ∈ climbPairs (poseidon2 env.poseidon) (opened env extract request) (pathOf extract request)

-- Nobody knows a note whose commitment is the empty leaf.
def NoZeroNote (withdrawals : List WithdrawRequest) : Prop := ∀ request ∈ withdrawals, opened env extract request ≠ 0

variable {env extract} {commitments : List (Bytes 32)} {withdrawals : List WithdrawRequest}

theorem notes_free (free : NoCollision (poseidon2 env.poseidon) (HashQuery env extract commitments withdrawals)) :
    NotesFree env extract withdrawals := by
  rintro left right ⟨one,first,rfl⟩ ⟨two,second,rfl⟩ equal
  exact free _ _ (.inr ⟨one,first,.inl rfl⟩) (.inr ⟨two,second,.inl rfl⟩) equal

-- A verified withdrawal against a root of this pool opens one of its commitments.
theorem opens_commitment (sound : Groth16Sound env extract)
    (free : NoCollision (poseidon2 env.poseidon) (HashQuery env extract commitments withdrawals))
    (nonzero : NoZeroNote env extract withdrawals) (member : request ∈ withdrawals)
    (verified : verifyProof env request.proofData request.inputs = .ok true)
    (rooted : RootedIn env commitments request) :
    ∃ commitment ∈ commitments, opened env extract request = bytesField commitment := by
  obtain ⟨_,k,entered,equal⟩ := rooted
  have root : (publicSignals request.inputs).root =
      node (poseidon2 env.poseidon) (fieldLeaf (commitments.take k)) TREE_LEVELS 0 := by
    rw [← bytesField_treeRoot,← equal]
    rfl
  have opens := satisfied_opens (fieldLeaf (commitments.take k)) (sound _ _ verified) (by
    rintro left right one two
    exact free left right
      (one.elim (fun inside => .inr ⟨request,member,.inr inside⟩) fun inside => .inl ⟨k,entered,inside⟩)
      (two.elim (fun inside => .inr ⟨request,member,.inr inside⟩) fun inside => .inl ⟨k,entered,inside⟩)) root
  rcases Nat.lt_or_ge (position (pathOf extract request)) (commitments.take k).length with inside | outside
  · refine ⟨(commitments.take k)[position (pathOf extract request)],List.mem_of_mem_take (List.getElem_mem inside),?_⟩
    have leaf : fieldLeaf (commitments.take k) (position (pathOf extract request)) =
        bytesField (commitments.take k)[position (pathOf extract request)] := by
      rw [fieldLeaf,padded_lt inside]
    exact opens.trans leaf
  · exfalso
    apply nonzero request member
    have leaf : fieldLeaf (commitments.take k) (position (pathOf extract request)) = 0 := by
      rw [fieldLeaf,padded_ge outside]
      decide
    exact opens.trans leaf

-- Distinct notes open distinct commitments, so there are no more withdrawals than deposits.
theorem withdrawals_le_deposits (sound : Groth16Sound env extract) (accepted : Accepted env withdrawals)
    (free : NoCollision (poseidon2 env.poseidon) (HashQuery env extract commitments withdrawals))
    (nonzero : NoZeroNote env extract withdrawals) (rooted : ∀ request ∈ withdrawals, RootedIn env commitments request) :
    withdrawals.length ≤ commitments.length := by
  have different := accepted_different sound accepted (notes_free free)
  have distinct : (withdrawals.map (opened env extract)).Nodup :=
    List.pairwise_map.mpr (different.imp fun apart => apart.leaf)
  have inside : withdrawals.map (opened env extract) ⊆ commitments.map bytesField := by
    intro leaf member
    obtain ⟨request,present,rfl⟩ := List.mem_map.mp member
    obtain ⟨commitment,deposited,equal⟩ := opens_commitment sound free nonzero present
      (accepted.verified request present) (rooted request present)
    exact List.mem_map.mpr ⟨commitment,deposited,equal.symm⟩
  have counted := (distinct.subperm inside).length_le
  rwa [List.length_map,List.length_map] at counted

end Counting

section Overflow
variable {ledger : Ledger}

theorem systemTransfer_fits (supply : Balances.total ledger.lamports < 2^64) :
    ledger.systemTransfer sender receiver amount ≠ .error .overflow := by
  intro overflow
  simp only [Ledger.systemTransfer,do_error,require_ok,require_error] at overflow
  rcases overflow with ⟨_,wrong⟩ | ⟨_,_,⟨_,wrong⟩ | ⟨_,enough,debitWrong | ⟨middle,taken,creditWrong⟩⟩⟩
  · cases wrong
  · cases wrong
  · simp only [Ledger.debit,do_error,require_error] at debitWrong
    rcases debitWrong with ⟨short,_⟩ | ⟨_,_,wrong⟩
    · exact short enough
    · cases wrong
  · exact debit_credit_fits supply taken creditWrong

theorem initAccount_fits (supply : Balances.total ledger.lamports < 2^64) :
    initAccount env ledger payer key seeds space data ≠ .error .overflow := by
  intro overflow
  simp only [initAccount,do_error,require_ok,require_error] at overflow
  rcases overflow with ⟨_,wrong⟩ | ⟨_,_,⟨_,wrong⟩ | ⟨_,_,topped | ⟨_,_,wrong⟩⟩⟩
  · cases wrong
  · cases wrong
  · unfold topUp at topped
    split at topped
    · cases topped
    · exact systemTransfer_fits supply topped
  · cases wrong

theorem loadPool_fits : ledger.loadPool key ≠ .error .overflow := by
  unfold Ledger.loadPool
  split <;> exact nofun

theorem insertLevel_fits : insertLevel poseidon state i ≠ .error .overflow := by
  unfold insertLevel
  dsimp only
  split <;> exact nofun

theorem foldlM_fits {α β : Type} {step : α → β → Except Error α} (fits : ∀ s item, step s item ≠ .error .overflow) (items : List β)
    (start : α) : items.foldlM step start ≠ .error .overflow := by
  induction items generalizing start with
  | nil => exact nofun
  | cons item rest ih =>
    intro overflow
    rw [List.foldlM_cons,do_error] at overflow
    rcases overflow with now | ⟨next,_,later⟩
    · exact fits _ _ now
    · exact ih next later

-- A refusal before the payout names neither an overflow nor the pool balance.
def EarlyRefusal (error : Error) : Prop := error ≠ .overflow ∧ error ≠ .mixer .InsufficientPoolBalance

theorem checkRequest_error (refused : checkRequest env accounts inputs ledger = .error error) : EarlyRefusal error := by
  have order : ∀ x, requireLtFieldOrder x = .error error → EarlyRefusal error := by
    intro x wrong
    rw [requireLtFieldOrder,require_error] at wrong
    rw [← wrong.2]
    exact ⟨by decide,by decide⟩
  have hash : ∀ key, pubkeyToFieldHash env.poseidon key = .error error → EarlyRefusal error := by
    intro key wrong
    unfold pubkeyToFieldHash at wrong
    split at wrong <;> cases wrong
    exact ⟨by decide,by decide⟩
  have load : ledger.loadPool accounts.mixerPool = .error error → EarlyRefusal error := by
    intro wrong
    unfold Ledger.loadPool at wrong
    split at wrong <;> cases wrong
    exact ⟨by decide,by decide⟩
  have named : ∀ m, Error.mixer m = error → m ≠ .InsufficientPoolBalance → EarlyRefusal error := by
    rintro m rfl other
    exact ⟨by simp,fun same => other (Error.mixer.inj same)⟩
  simp only [checkRequest,do_error,require_ok,require_error] at refused
  rcases refused with wrong | ⟨_,_,wrong | ⟨_,_,wrong | ⟨_,_,wrong | ⟨_,_,wrong | ⟨_,_,⟨_,wrong⟩ | ⟨_,_,wrong |
    ⟨_,_,⟨_,wrong⟩ | ⟨_,_,⟨_,wrong⟩ | ⟨_,_,⟨_,wrong⟩ | ⟨_,_,⟨_,wrong⟩ | ⟨_,_,⟨_,wrong⟩ | ⟨_,_,wrong |
    ⟨_,_,⟨_,wrong⟩ | ⟨_,_,wrong | ⟨_,_,⟨_,wrong⟩ | ⟨_,_,wrong⟩⟩⟩⟩⟩⟩⟩⟩⟩⟩⟩⟩⟩⟩⟩⟩
  · exact order _ wrong
  · exact order _ wrong
  · exact order _ wrong
  · exact order _ wrong
  · exact order _ wrong
  · exact named _ wrong (by decide)
  · exact load wrong
  · exact named _ wrong (by decide)
  · exact named _ wrong (by decide)
  · exact named _ wrong (by decide)
  · exact named _ wrong (by decide)
  · exact named _ wrong (by decide)
  · exact hash _ wrong
  · exact named _ wrong (by decide)
  · exact hash _ wrong
  · exact named _ wrong (by decide)
  · cases wrong

theorem verifyProof_error (refused : verifyProof env proofData inputs = .error error) : EarlyRefusal error := by
  unfold verifyProof at refused
  split at refused <;> cases refused
  exact ⟨nofun,nofun⟩

theorem payOut_insufficient (refused : payOut env accounts denomination fee ledger = .error (.mixer .InsufficientPoolBalance)) :
    ¬denomination ≤ ledger.lamports accounts.mixerPool - env.minimumBalance MixerPool.SPACE := by
  simp only [payOut,do_error,require_ok,require_error] at refused
  have debit : ∀ (ledger : Ledger) key amount, ledger.debit key amount ≠ .error (.mixer .InsufficientPoolBalance) := by
    intro ledger key amount wrong
    simp only [Ledger.debit,do_error,require_error] at wrong
    rcases wrong with ⟨_,wrong⟩ | ⟨_,_,wrong⟩ <;> cases wrong
  have credit : ∀ (ledger : Ledger) key amount, ledger.credit key amount ≠ .error (.mixer .InsufficientPoolBalance) := by
    intro ledger key amount wrong
    simp only [Ledger.credit,do_error,require_error] at wrong
    rcases wrong with ⟨_,wrong⟩ | ⟨_,_,wrong⟩ <;> cases wrong
  rcases refused with ⟨short,_⟩ | ⟨_,_,⟨_,wrong⟩ | ⟨_,_,wrong | ⟨_,_,wrong | ⟨_,_,rest⟩⟩⟩⟩
  · exact short
  · cases wrong
  · exact absurd wrong (debit _ _ _)
  · exact absurd wrong (credit _ _ _)
  · split at rest
    · simp only [do_error] at rest
      rcases rest with wrong | ⟨_,_,wrong⟩
      · exact absurd wrong (debit _ _ _)
      · exact absurd wrong (credit _ _ _)
    · cases rest

theorem initAccount_named (refused : initAccount env ledger payer key seeds space data = .error (.mixer m)) : False := by
  simp only [initAccount,do_error,require_ok,require_error] at refused
  rcases refused with ⟨_,wrong⟩ | ⟨_,_,⟨_,wrong⟩ | ⟨_,_,topped | ⟨_,_,wrong⟩⟩⟩
  · cases wrong
  · cases wrong
  · unfold topUp at topped
    split at topped
    · cases topped
    · simp only [Ledger.systemTransfer,Ledger.debit,Ledger.credit,do_error,do_ok,require_ok,require_error] at topped
      rcases topped with ⟨_,wrong⟩ | ⟨_,_,⟨_,wrong⟩ | ⟨_,_,(⟨_,wrong⟩ | ⟨_,_,wrong⟩) | ⟨_,_,⟨_,wrong⟩ | ⟨_,_,wrong⟩⟩⟩⟩ <;>
        cases wrong
  · cases wrong

theorem withdrawHandler_fits (supply : Balances.total ledger.lamports < 2^64) :
    withdrawHandler env now accounts proofData inputs ledger ≠ .error .overflow := by
  intro overflow
  simp only [withdrawHandler,do_error,require_ok,require_error] at overflow
  rcases overflow with wrong | ⟨fee,checked,wrong | ⟨pool,loaded,wrong | ⟨_,_,⟨_,wrong⟩ | ⟨_,_,wrong | ⟨_,_,wrong⟩⟩⟩⟩⟩
  · exact (checkRequest_error wrong).1 rfl
  · exact loadPool_fits wrong
  · exact (verifyProof_error wrong).1 rfl
  · cases wrong
  · obtain ⟨checkedPool,here,admitted⟩ := checkRequest_exact.mp checked
    cases AccountData.pool.inj (here.symm.trans (loadPool_exact.mp loaded))
    exact payOut_fits supply admitted.recipientApart admitted.bounded wrong
  · cases wrong

theorem depositHandler_fits (supply : Balances.total ledger.lamports < 2^64) :
    depositHandler env now depositor poolKey commitment ledger ≠ .error .overflow := by
  intro overflow
  simp only [depositHandler,do_error,require_ok,require_error] at overflow
  rcases overflow with wrong | ⟨pool,_,⟨_,wrong⟩ | ⟨_,_,⟨_,wrong⟩ | ⟨_,room,wrong | ⟨_,_,wrong | ⟨_,_,wrong |
    ⟨_,_,⟨wrong,_⟩ | ⟨_,_,wrong⟩⟩⟩⟩⟩⟩⟩
  · exact loadPool_fits wrong
  · cases wrong
  · cases wrong
  · exact systemTransfer_fits supply wrong
  · exact loadPool_fits wrong
  · exact foldlM_fits (fun _ _ => insertLevel_fits) _ _ wrong
  · have small : MAX_LEAVES < 2^32 := by decide
    omega
  · cases wrong

-- The lamport supply fits a u64, so no instruction's arithmetic can leave it.
theorem execute_fits (supply : Balances.total ledger.lamports < 2^64) (now : Int) (instruction : Instruction) :
    (submit env now ledger instruction).2 ≠ .error .overflow := by
  intro overflow
  have refused : execute env now ledger instruction = .error .overflow := by
    unfold submit at overflow
    split at overflow
    · cases overflow
    · rename_i error result
      cases overflow
      exact result
  cases instruction with
  | initializePool authority poolKey denomination =>
    simp only [execute,initializePool,do_error,do_ok,require_ok,require_error] at refused
    rcases refused with (⟨_,wrong⟩ | ⟨_,_,wrong | ⟨_,_,⟨_,wrong⟩ | ⟨_,_,⟨_,wrong⟩ | ⟨_,_,wrong⟩⟩⟩⟩) | ⟨_,_,wrong⟩
    · cases wrong
    · exact initAccount_fits supply wrong
    · cases wrong
    · cases wrong
    · cases wrong
    · cases wrong
  | deposit depositor poolKey commitmentKey commitment =>
    simp only [execute,deposit,do_error,do_ok,require_ok,require_error] at refused
    rcases refused with (⟨_,wrong⟩ | ⟨_,_,wrong | ⟨_,_,wrong | ⟨created,allocated,⟨_,wrong⟩ | ⟨_,_,wrong⟩⟩⟩⟩) | ⟨_,_,wrong⟩
    · cases wrong
    · exact loadPool_fits wrong
    · exact initAccount_fits supply wrong
    · cases wrong
    · exact depositHandler_fits (by rw [(initAccount_exact allocated).total]; exact supply) wrong
    · cases wrong
  | withdraw accounts proofData inputs =>
    simp only [execute,withdraw,do_error,do_ok,require_ok,require_error] at refused
    rcases refused with (⟨_,wrong⟩ | ⟨_,_,wrong | ⟨_,_,wrong | ⟨created,allocated,⟨_,wrong⟩ | ⟨_,_,wrong⟩⟩⟩⟩) | ⟨_,_,wrong⟩
    · cases wrong
    · exact loadPool_fits wrong
    · exact initAccount_fits supply wrong
    · cases wrong
    · exact withdrawHandler_fits (by rw [(initAccount_exact allocated).total]; exact supply) wrong
    · cases wrong
  | setPaused authority poolKey paused =>
    simp only [execute,setPaused,do_error,do_ok,require_ok,require_error] at refused
    rcases refused with (⟨_,wrong⟩ | ⟨_,_,wrong | ⟨_,_,⟨_,wrong⟩ | ⟨_,_,⟨_,wrong⟩ | ⟨_,_,wrong⟩⟩⟩⟩) | ⟨_,_,wrong⟩
    · cases wrong
    · exact loadPool_fits wrong
    · cases wrong
    · cases wrong
    · cases wrong
    · cases wrong

-- What must have passed when `withdraw` complains about the pool balance.
theorem withdraw_insufficient (signed : env.canSign poolKey = false)
    (refused : (submit env now ledger (.withdraw accounts proofData inputs)).2 = .error (.mixer .InsufficientPoolBalance))
    (own : accounts.mixerPool = poolKey) (loaded : (ledger poolKey).data = .pool pool) :
    (ledger (nullifierAddress env poolKey (inputNullifierHash inputs))).data.isSystem = true ∧
    (∃ fee, Admitted env accounts inputs pool fee) ∧ verifyProof env proofData inputs = .ok true ∧
    ledger.lamports poolKey < env.minimumBalance MixerPool.SPACE + pool.denomination.toNat := by
  subst own
  have result : withdraw env now ledger accounts proofData inputs = .error (.mixer .InsufficientPoolBalance) := by
    unfold submit at refused
    split at refused
    · cases refused
    · rename_i error failed
      cases refused
      simp only [execute,do_error] at failed
      rcases failed with failed | ⟨_,_,wrong⟩
      · exact failed
      · cases wrong
  simp only [withdraw,do_error,require_ok,require_error] at result
  rcases result with ⟨_,wrong⟩ | ⟨_,canSign,wrong | ⟨_,_,wrong | ⟨created,allocated,⟨_,wrong⟩ | ⟨_,_,handled⟩⟩⟩⟩
  · cases wrong
  · unfold Ledger.loadPool at wrong
    split at wrong <;> cases wrong
  · exact (initAccount_named wrong).elim
  · cases wrong
  · have made := initAccount_exact allocated
    have apart := pool_not_fresh loaded made.fresh
    have here : (created accounts.mixerPool).data = .pool pool := by rw [made.data,if_neg apart,loaded]
    have untouched := made.lamports accounts.mixerPool
    rw [share_other apart,share_other (signer_apart signed canSign)] at untouched
    have fresh := made.fresh
    rw [made.address] at fresh
    simp only [withdrawHandler,do_error,require_ok,require_error] at handled
    rcases handled with wrong | ⟨fee,checked,wrong | ⟨again,reloaded,wrong | ⟨verified,verification,⟨_,wrong⟩ |
      ⟨_,valid,wrong | ⟨_,_,wrong⟩⟩⟩⟩⟩
    · exact absurd rfl (checkRequest_error wrong).2
    · unfold Ledger.loadPool at wrong
      split at wrong <;> cases wrong
    · exact absurd rfl (verifyProof_error wrong).2
    · cases wrong
    · obtain ⟨checkedPool,checkedHere,admitted⟩ := checkRequest_exact.mp checked
      cases AccountData.pool.inj (checkedHere.symm.trans here)
      cases AccountData.pool.inj ((loadPool_exact.mp reloaded).symm.trans here)
      subst valid
      have short := payOut_insufficient wrong
      exact ⟨fresh,⟨fee,admitted⟩,verification,by omega⟩
    · cases wrong

end Overflow

-- One pool over any run: its lamports follow its deposits and withdrawals, no
-- arithmetic overflows, and under the circuit's guarantees it never runs dry.
theorem pool_solvent (zeros : ZeroChain env.poseidon)
    (created : execute env now before (.initializePool authority poolKey denomination) = .ok (start,events))
    (supply : Balances.total before.lamports < 2^64) (path : Runs env start receipts ledger) :
    ledger.lamports poolKey + denomination.toNat * (withdrawalsOf poolKey receipts).length =
      max (before.lamports poolKey) (env.minimumBalance MixerPool.SPACE) +
        denomination.toNat * (commitmentsOf poolKey receipts).length + donationsTo poolKey receipts ∧
    (env.minimumBalance MixerPool.SPACE : Int) + denomination.toNat *
      ((commitmentsOf poolKey receipts).length - (withdrawalsOf poolKey receipts).length : Int) ≤
        ledger.lamports poolKey ∧
    (∀ now accounts proofData inputs events, accounts.mixerPool = poolKey →
      (submit env now ledger (.withdraw accounts proofData inputs)).2 = .ok events →
      ∃ fee rent, fee < denomination.toNat ∧ fee = feeOf (inputFee inputs) ∧
        rent = env.minimumBalance NullifierAccount.SPACE - ledger.lamports accounts.nullifierAccount ∧
        accounts.recipient ≠ poolKey ∧ accounts.relayer ≠ poolKey ∧ accounts.signer ≠ poolKey ∧
        ∀ key, (submit env now ledger (.withdraw accounts proofData inputs)).1.lamports key +
            share poolKey key denomination.toNat + share accounts.signer key rent =
          ledger.lamports key + share accounts.recipient key (denomination.toNat - fee) +
            share accounts.relayer key fee + share accounts.nullifierAccount key rent) ∧
    (∀ now instruction, (submit env now ledger instruction).2 ≠ .error .overflow) ∧
    (∀ extract, Groth16Sound env extract →
      NoCollision (poseidon2 env.poseidon)
        (HashQuery env extract (commitmentsOf poolKey receipts) (withdrawalsOf poolKey receipts)) →
      NoZeroNote env extract (withdrawalsOf poolKey receipts) →
      (withdrawalsOf poolKey receipts).length ≤ (commitmentsOf poolKey receipts).length) ∧
    (∀ extract, Groth16Sound env extract → ∀ now accounts proofData inputs, accounts.mixerPool = poolKey →
      NoCollision (poseidon2 env.poseidon) (HashQuery env extract (commitmentsOf poolKey receipts)
        (withdrawalsOf poolKey receipts ++ [⟨accounts,proofData,inputs⟩])) →
      NoZeroNote env extract (withdrawalsOf poolKey receipts ++ [⟨accounts,proofData,inputs⟩]) →
      (submit env now ledger (.withdraw accounts proofData inputs)).2 ≠ .error (.mixer .InsufficientPoolBalance)) := by
  cases execute_exact created with
  | created made =>
    have unsigned := created_unsigned made
    have initial := created_tracked zeros made fun i => ZERO_HASHES i
    rw [reseed_initial made] at initial
    have tracked := runs_tracked unsigned zeros initial path
    have spent : Spent env poolKey (withdrawalsOf poolKey receipts) ledger := runs_spent path
    have total := runs_supply path (by rw [made.total]; exact supply)
    obtain ⟨pool,loaded,valid⟩ := tracked.pool
    have balance := tracked.balance
    refine ⟨balance,?_,?_,execute_fits total,?_,?_⟩
    · have counted : (ledger.lamports poolKey : Int) + denomination.toNat * (withdrawalsOf poolKey receipts).length =
          max (before.lamports poolKey) (env.minimumBalance MixerPool.SPACE) +
            denomination.toNat * (commitmentsOf poolKey receipts).length + donationsTo poolKey receipts := by
        exact_mod_cast balance
      have covered : (env.minimumBalance MixerPool.SPACE : Int) ≤
          max (before.lamports poolKey : Int) (env.minimumBalance MixerPool.SPACE) := le_max_right _ _
      rw [mul_sub]
      omega
    · intro now accounts proofData inputs events own accepted
      rcases submit_cases env now ledger (.withdraw accounts proofData inputs) with ⟨_,_,done⟩ | ⟨_,refused,_⟩
      · cases done with
        | withdrawn withdrawn =>
          subst own
          cases AccountData.pool.inj (withdrawn.loaded.symm.trans loaded)
          have admitted := withdrawn.admitted
          have moved := withdrawn.lamports
          have bounded := admitted.bounded
          rw [valid.denomination] at moved bounded
          exact ⟨_,_,bounded,admitted.feeValue,rfl,admitted.recipientApart,admitted.relayerApart,
            (signer_apart unsigned withdrawn.signed).symm,moved⟩
      · rw [accepted] at refused
        cases refused
    · intro extract sound free nonzero
      exact withdrawals_le_deposits sound spent.toAccepted free nonzero tracked.rooted
    · intro extract sound now accounts proofData inputs own free nonzero refused
      obtain ⟨fresh,⟨fee,admitted⟩,verified,short⟩ := withdraw_insufficient unsigned refused own loaded
      have accepted : Accepted env (withdrawalsOf poolKey receipts ++ [⟨accounts,proofData,inputs⟩]) :=
        spent_fresh spent fresh admitted.nullifierCanonical verified
      obtain ⟨k,entered,_,equal⟩ := (isKnownRoot_exact valid _).mp admitted.known
      have counted := withdrawals_le_deposits sound accepted free nonzero (by
        intro request member
        rcases List.mem_append.mp member with old | new
        · exact tracked.rooted request old
        · rw [List.mem_singleton.mp new]
          exact ⟨admitted.rootCanonical,k,entered,equal⟩)
      rw [List.length_append,List.length_singleton] at counted
      have enough := Nat.mul_le_mul_left denomination.toNat counted
      rw [Nat.mul_succ] at enough
      rw [valid.denomination] at short
      omega

theorem pool_solvent_sample : ∃ start receipts ledger,
    execute sampleRuntime 0 sampleGenesis (.initializePool ADMIN_AUTHORITY samplePool sampleDenomination) =
      .ok (start,[]) ∧
    Runs sampleRuntime start receipts ledger ∧
    commitmentsOf samplePool receipts = [sampleCommitment,sampleSecond] ∧
    ledger.lamports samplePool = sampleRuntime.minimumBalance MixerPool.SPACE + 2 * sampleDenomination.toNat := by
  obtain ⟨start,created⟩ := sample_created
  have history := pair_history created
  have balance := (pool_solvent zeroChain_known created sample_supply (sample_pair start)).1
  have spends : withdrawalsOf samplePool (samplePair start) = [] := rfl
  have gifts : donationsTo samplePool (samplePair start) = 0 := rfl
  have genesis : sampleGenesis.lamports samplePool = 0 := by decide
  rw [history,spends,gifts,genesis,Nat.zero_max] at balance
  refine ⟨start,_,_,created,sample_pair start,history,?_⟩
  simp only [List.length_nil,List.length_cons,Nat.mul_zero,Nat.add_zero,Nat.zero_add] at balance
  rw [balance,Nat.mul_comm]

end Octora
