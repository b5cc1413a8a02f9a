import Octora.Mixer.Runs

namespace Octora
open BigEndian Fallible IncrementalTree MerkleTree

theorem zero_canonical : Canonical ZERO_VALUE := by decide

theorem node_canonical (poseidon : List Fr → Fr) (leaf : Nat → Bytes 32) (leaves : ∀ j, Canonical (leaf j)) (l i : Nat) :
    Canonical (node (compress poseidon) leaf l i) := by
  cases l with
  | zero => exact leaves i
  | succ l => exact fieldBytes_canonical _

theorem empty_canonical (poseidon : List Fr → Fr) (l : Nat) : Canonical (empty (compress poseidon) ZERO_VALUE l) := by
  cases l with
  | zero => exact zero_canonical
  | succ l => exact fieldBytes_canonical _

theorem insertLevel_accepts (poseidon : List Fr → Fr) (one : Canonical state.current) (two : Canonical (zeroSibling i))
    (three : state.index % 2 = 1 → Canonical (state.filled i)) :
    ∃ next, insertLevel poseidon state i = .ok next ∧ Canonical next.current := by
  have pair : ∀ left right, Canonical left → Canonical right →
      hashv poseidon [left,right] = some (compress poseidon left right) := by
    intro left right first second
    rw [hashv_exact]
    refine ⟨?_,rfl⟩
    intro bytes member
    rcases List.mem_pair.mp member with here | here
    · rw [here]
      exact first
    · rw [here]
      exact second
  unfold insertLevel
  rcases Nat.mod_two_eq_zero_or_one state.index with even | odd
  · have low : state.index &&& 1 = 0 := by rw [Nat.and_one_is_mod,even]
    rw [if_pos low]
    simp only [pair _ _ one two]
    exact ⟨_,rfl,fieldBytes_canonical _⟩
  · have high : ¬state.index &&& 1 = 0 := by rw [Nat.and_one_is_mod,odd]; decide
    rw [if_neg high]
    simp only [pair _ _ (three odd) one]
    exact ⟨_,rfl,fieldBytes_canonical _⟩

-- Level `i` of the walk reads the cache only where the running index is odd.
theorem insertLevels_reads (zeros : ZeroChain poseidon) (valid : PoolState poseidon denomination commitments pool)
    (bound : i < TREE_LEVELS)
    (entered : insertLevels poseidon i ⟨pool.filledSubtrees,commitment,pool.nextLeafIndex⟩ = .ok state)
    (right : state.index &&& 1 ≠ 0) :
    state.filled ⟨i,bound⟩ = node (compress poseidon) (padded ZERO_VALUE commitments) i (commitments.length / 2^i - 1) ∧
      (commitments.length / 2^i - 1 + 1) * 2^i ≤ commitments.length := by
  rw [valid.leaves] at entered
  have walked := insertLevels_exact zeros entered
  have facts := entered_levels commitment valid.cached (Nat.le_of_lt bound)
  rw [← walked] at facts
  have odd : state.index % 2 = 1 := by
    rw [Nat.and_one_is_mod] at right
    omega
  refine ⟨entered_reads valid.cached facts bound odd,left_bound _ _ ?_⟩
  rw [← facts.index]
  exact odd

-- A canonical leaf is always inserted: what the walk hashes are hashes, empty
-- subtrees, or cached subtrees of the tree so far.
theorem insertLeaf_accepts (zeros : ZeroChain poseidon) (valid : PoolState poseidon denomination commitments pool)
    (canonical : Canonical commitment) :
    ∃ inserted, insertLeaf poseidon pool.filledSubtrees commitment pool.nextLeafIndex = .ok inserted := by
  have leaves : ∀ j, Canonical (padded ZERO_VALUE commitments j) := by
    intro j
    rcases Nat.lt_or_ge j commitments.length with inside | outside
    · rw [padded_lt inside]
      exact valid.canonical _ (List.getElem_mem inside)
    · rw [padded_ge outside]
      exact zero_canonical
  have walk : ∀ k ≤ TREE_LEVELS, ∃ state,
      insertLevels poseidon k ⟨pool.filledSubtrees,commitment,pool.nextLeafIndex⟩ = .ok state ∧
        Canonical state.current := by
    intro k
    induction k with
    | zero => exact fun _ => ⟨_,rfl,canonical⟩
    | succ k ih =>
      intro bound
      have below := Nat.lt_of_succ_le bound
      obtain ⟨state,entered,current⟩ := ih (Nat.le_of_lt below)
      have sibling : Canonical (zeroSibling ⟨k,below⟩) := by
        rw [zeroSibling_empty zeros]
        exact empty_canonical poseidon k
      obtain ⟨next,inserted,hashed⟩ := insertLevel_accepts poseidon current sibling (by
        intro odd
        have high : state.index &&& 1 ≠ 0 := by rw [Nat.and_one_is_mod,odd]; decide
        rw [(insertLevels_reads zeros valid below entered high).1]
        exact node_canonical poseidon _ leaves _ _)
      refine ⟨next,?_,hashed⟩
      rw [insertLevels_succ below,do_ok]
      exact ⟨state,entered,inserted⟩
  obtain ⟨inserted,finished,_⟩ := walk TREE_LEVELS (Nat.le_refl _)
  exact ⟨inserted,finished⟩

theorem debit_credit_fits {ledger : Ledger} (supply : Balances.total ledger.lamports < 2^64)
    (taken : ledger.debit sender amount = .ok middle) : middle.credit receiver amount ≠ .error .overflow := by
  obtain ⟨enough,rfl⟩ := debit_exact.mp taken
  intro overflow
  simp only [Ledger.credit,do_error,require_error] at overflow
  have debited := Balances.total_update ledger.lamports sender (ledger.lamports sender - amount)
  have bounded := Balances.le_total (ledger.setLamports sender (ledger.lamports sender - amount)).lamports receiver
  rw [setLamports_lamports] at bounded overflow
  rcases overflow with ⟨tooBig,_⟩ | ⟨_,_,wrong⟩
  · omega
  · cases wrong

theorem systemTransfer_accepts {ledger : Ledger} (receiver : Pubkey) (supply : Balances.total ledger.lamports < 2^64)
    (system : (ledger sender).data.isSystem = true) (funded : amount ≤ ledger.lamports sender) :
    ∃ next, ledger.systemTransfer sender receiver amount = .ok next := by
  cases result : ledger.systemTransfer sender receiver amount with
  | ok next => exact ⟨next,rfl⟩
  | error error =>
    exfalso
    simp only [Ledger.systemTransfer,do_error,require_ok,require_error] at result
    rcases result with ⟨wrong,_⟩ | ⟨_,_,⟨wrong,_⟩ | ⟨_,_,debitWrong | ⟨middle,taken,creditWrong⟩⟩⟩
    · exact wrong system
    · exact wrong funded
    · simp only [Ledger.debit,do_error,require_error] at debitWrong
      rcases debitWrong with ⟨wrong,_⟩ | ⟨_,_,wrong⟩
      · exact wrong funded
      · cases wrong
    · have overflow : error = .overflow := by
        simp only [Ledger.credit,do_error,require_error] at creditWrong
        rcases creditWrong with ⟨_,same⟩ | ⟨_,_,wrong⟩
        · exact same.symm
        · cases wrong
      rw [overflow] at creditWrong
      exact debit_credit_fits supply taken creditWrong

theorem initAccount_accepts {ledger : Ledger} (data : UInt8 → AccountData)
    (supply : Balances.total ledger.lamports < 2^64)
    (address : key = (env.findProgramAddress seeds).1) (fresh : (ledger key).data.isSystem = true)
    (system : (ledger payer).data.isSystem = true)
    (funded : env.minimumBalance space - ledger.lamports key ≤ ledger.lamports payer) :
    ∃ next, initAccount env ledger payer key seeds space data = .ok next := by
  have topped : ∃ next, topUp ledger payer key (env.minimumBalance space - ledger.lamports key) = .ok next := by
    unfold topUp
    split
    · exact ⟨ledger,rfl⟩
    · exact systemTransfer_accepts key supply system funded
  obtain ⟨next,paid⟩ := topped
  refine ⟨next.setData key (data (env.findProgramAddress seeds).2),?_⟩
  simp only [initAccount,do_ok,require_ok]
  exact ⟨(),address,(),fresh,next,paid,rfl⟩

-- Every deposit of a fresh canonical commitment into an active pool with room lands.
theorem deposit_lands (zeros : ZeroChain env.poseidon) (supply : Balances.total ledger.lamports < 2^64)
    (loaded : (ledger poolKey).data = .pool pool) (valid : PoolState env.poseidon denomination commitments pool)
    (active : pool.isPaused = 0) (room : commitments.length < MAX_LEAVES) (canonical : Canonical commitment)
    (signed : env.canSign depositor = true) (seeds : poolSeedsHold env poolKey pool)
    (fresh : (ledger (commitmentAddress env poolKey commitment)).data.isSystem = true)
    (system : (ledger depositor).data.isSystem = true) (apart : depositor ≠ commitmentAddress env poolKey commitment)
    (funded : env.minimumBalance CommitmentAccount.SPACE + denomination.toNat ≤ Ledger.lamports ledger depositor) :
    ∃ next, execute env now ledger (.deposit depositor poolKey (commitmentAddress env poolKey commitment) commitment) =
      .ok (next,[.deposit ⟨commitment,commitments.length,now⟩]) := by
  obtain ⟨created,allocated⟩ : ∃ created, initAccount env ledger depositor (commitmentAddress env poolKey commitment)
      (.commitment poolKey commitment) CommitmentAccount.SPACE .commitment = .ok created :=
    initAccount_accepts .commitment supply rfl fresh system (by omega)
  have made := initAccount_exact allocated
  have here : (created poolKey).data = .pool pool := by
    rw [made.data,if_neg (pool_not_fresh loaded made.fresh),loaded]
  have payer : (created depositor).data.isSystem = true := by
    rw [made.data,if_neg apart]
    exact system
  have left := made.lamports depositor
  rw [share_self,share_other apart] at left
  have whole : Balances.total created.lamports < 2^64 := by
    rw [made.total]
    exact supply
  obtain ⟨paid,transferred⟩ := systemTransfer_accepts poolKey whole payer
    (show pool.denomination.toNat ≤ created.lamports depositor by rw [valid.denomination]; omega)
  have kept : (paid poolKey).data = .pool pool := by
    rw [(systemTransfer_exact transferred).2.data,here]
  obtain ⟨inserted,insertion⟩ := insertLeaf_accepts zeros valid canonical
  have small : MAX_LEAVES < 2^32 := by decide
  have index := valid.leaves
  refine ⟨paid.setData poolKey (.pool (depositedPool pool inserted)),?_⟩
  simp only [execute,deposit,depositHandler,do_ok,require_ok,loadPool_exact]
  refine ⟨_,⟨(),signed,pool,loaded,created,allocated,(),seeds,pool,here,(),active,(),by omega,paid,transferred,pool,
    kept,inserted,insertion,(),by omega,rfl⟩,?_⟩
  rw [← index]
  rfl

theorem debit_error (refused : Ledger.debit ledger key amount = .error error) : error = .overflow := by
  simp only [Ledger.debit,do_error,require_error] at refused
  rcases refused with ⟨_,same⟩ | ⟨_,_,wrong⟩
  · exact same.symm
  · cases wrong

theorem credit_error (refused : Ledger.credit ledger key amount = .error error) : error = .overflow := by
  simp only [Ledger.credit,do_error,require_error] at refused
  rcases refused with ⟨_,same⟩ | ⟨_,_,wrong⟩
  · exact same.symm
  · cases wrong

theorem payOut_fits {ledger : Ledger} (supply : Balances.total ledger.lamports < 2^64) (apart : accounts.recipient ≠ accounts.mixerPool)
    (bounded : fee < denomination) : payOut env accounts denomination fee ledger ≠ .error .overflow := by
  intro overflow
  simp only [payOut,do_error,require_ok,require_error] at overflow
  rcases overflow with ⟨_,wrong⟩ | ⟨_,enough,⟨wrong,_⟩ | ⟨_,_,debitWrong | ⟨debited,taken,creditWrong |
    ⟨paid,given,rest⟩⟩⟩⟩
  · cases wrong
  · omega
  · simp only [Ledger.debit,do_error,require_error] at debitWrong
    rcases debitWrong with ⟨short,_⟩ | ⟨_,_,wrong⟩
    · omega
    · cases wrong
  · exact debit_credit_fits supply taken creditWrong
  · have moved := debit_credit taken given
    split at rest
    · simp only [do_error] at rest
      rcases rest with debitWrong | ⟨charged,charge,creditWrong⟩
      · simp only [Ledger.debit,do_error,require_error] at debitWrong
        have left := moved.lamports accounts.mixerPool
        rw [share_self,share_other apart.symm] at left
        rcases debitWrong with ⟨short,_⟩ | ⟨_,_,wrong⟩
        · omega
        · cases wrong
      · exact debit_credit_fits (by rw [moved.total]; exact supply) charge creditWrong
    · cases rest

theorem payOut_accepts {ledger : Ledger} (supply : Balances.total ledger.lamports < 2^64)
    (apart : accounts.recipient ≠ accounts.mixerPool) (bounded : fee < denomination)
    (solvent : denomination ≤ ledger.lamports accounts.mixerPool - env.minimumBalance MixerPool.SPACE) :
    ∃ paid, payOut env accounts denomination fee ledger = .ok paid := by
  cases result : payOut env accounts denomination fee ledger with
  | ok paid => exact ⟨paid,rfl⟩
  | error error =>
    exfalso
    have overflow : error = .overflow := by
      simp only [payOut,do_error,require_ok,require_error] at result
      rcases result with ⟨wrong,_⟩ | ⟨_,_,⟨_,same⟩ | ⟨_,_,wrong | ⟨_,_,wrong | ⟨_,_,rest⟩⟩⟩⟩
      · exact absurd solvent wrong
      · exact same.symm
      · exact debit_error wrong
      · exact credit_error wrong
      · split at rest
        · simp only [do_error] at rest
          rcases rest with wrong | ⟨_,_,wrong⟩
          · exact debit_error wrong
          · exact credit_error wrong
        · cases rest
    rw [overflow] at result
    exact payOut_fits supply apart bounded result

-- Every admitted request with a valid proof and a fresh nullifier is paid by a
-- pool that holds the denomination.
theorem withdraw_lands {ledger : Ledger} (supply : Balances.total ledger.lamports < 2^64)
    (unsigned : env.canSign accounts.mixerPool = false)
    (loaded : (ledger accounts.mixerPool).data = .pool pool) (signed : env.canSign accounts.signer = true)
    (seeds : poolSeedsHold env accounts.mixerPool pool)
    (address : accounts.nullifierAccount = nullifierAddress env accounts.mixerPool (inputNullifierHash inputs))
    (fresh : (ledger accounts.nullifierAccount).data.isSystem = true)
    (system : (ledger accounts.signer).data.isSystem = true)
    (funded : env.minimumBalance NullifierAccount.SPACE ≤ ledger.lamports accounts.signer)
    (checked : checkRequest env accounts inputs ledger = .ok fee)
    (verified : verifyProof env proofData inputs = .ok true)
    (solvent : pool.denomination.toNat + env.minimumBalance MixerPool.SPACE ≤ ledger.lamports accounts.mixerPool) :
    ∃ next, execute env now ledger (.withdraw accounts proofData inputs) =
      .ok (next,[.withdraw ⟨inputNullifierHash inputs,accounts.recipient,accounts.relayer,fee,now⟩]) := by
  obtain ⟨here,found,admitted⟩ := checkRequest_exact.mp checked
  cases AccountData.pool.inj (found.symm.trans loaded)
  obtain ⟨created,allocated⟩ : ∃ created, initAccount env ledger accounts.signer accounts.nullifierAccount
      (.nullifier accounts.mixerPool (inputNullifierHash inputs)) NullifierAccount.SPACE .nullifier = .ok created :=
    initAccount_accepts .nullifier supply address fresh system (by omega)
  have made := initAccount_exact allocated
  have apart := pool_not_fresh loaded made.fresh
  have kept : (created accounts.mixerPool).data = .pool pool := by rw [made.data,if_neg apart,loaded]
  have again : checkRequest env accounts inputs created = .ok fee := checkRequest_exact.mpr ⟨pool,kept,admitted⟩
  have untouched := made.lamports accounts.mixerPool
  rw [share_other apart,share_other (signer_apart unsigned signed)] at untouched
  have whole : Balances.total created.lamports < 2^64 := by
    rw [made.total]
    exact supply
  have enough : pool.denomination.toNat ≤ created.lamports accounts.mixerPool - env.minimumBalance MixerPool.SPACE := by
    omega
  obtain ⟨paid,payment⟩ := payOut_accepts whole admitted.recipientApart admitted.bounded enough
  refine ⟨paid,?_⟩
  simp only [execute,withdraw,withdrawHandler,do_ok,require_ok,loadPool_exact]
  exact ⟨_,⟨(),signed,pool,loaded,created,allocated,(),seeds,fee,again,pool,kept,true,verified,(),rfl,paid,payment,
    rfl⟩,rfl⟩

end Octora
