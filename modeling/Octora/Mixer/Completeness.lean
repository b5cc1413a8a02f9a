import Octora.Mixer.Payout
import Octora.Web.Proof

namespace Octora
open BigEndian BigIntText Fallible MerkleTree Relayer Web

def signalField (inputs : PublicSignals) (i : Fin 5) : Fr :=
  [inputs.root,inputs.nullifierHash,inputs.recipient,inputs.relayer,inputs.fee].get i

def signalValue (inputs : PublicSignals) (i : Fin 5) : Nat := (signalField inputs i).val

theorem publicInput_signal (inputs : PublicSignals) (i : Fin 5) :
    publicInput (packedInputs (signalValue inputs)) i = fieldBytes (signalField inputs i) :=
  publicInput_packed _ i

theorem upperBytes_small (small : bytes.value < 256 ^ 8) : upperBytesZero bytes := by
  have width : (bytes.toList.drop 24).length = 8 := by rw [List.length_drop,bytes.toList_length]
  have leading := value_lt_iff_leading (bytes.toList.take 24) (bytes.toList.drop 24)
  rw [List.take_append_drop,width] at leading
  exact leading.mp small

-- A note of the user at one leaf, and the withdrawal it is to pay for.
structure NoteWithdrawal where
  index : Nat
  secret : Nat
  nullifier : Nat
  recipientField : Nat
  relayerField : Nat
  fee : Nat

section Client
variable (poseidon : List Fr → Fr) (commitments : List (Bytes 32)) (note : NoteWithdrawal)

def NoteWithdrawal.leaf : Bytes 32 := fieldBytes (poseidon [(note.secret : Fr),(note.nullifier : Fr)])

def NoteWithdrawal.args : BuildProofInputsArgs :=
  ⟨browserTree commitments,note.index,note.secret,note.nullifier,(poseidon [(note.nullifier : Fr)]).val,
    note.recipientField,note.relayerField,note.fee⟩

def NoteWithdrawal.steps : List (Fr × Bool) :=
  path (poseidon2 poseidon) (fieldLeaf commitments) TREE_LEVELS note.index

-- The input object, the signals snarkjs reads from it, and the witness.
def NoteWithdrawal.input : WithdrawCircuitInput where
  root := decimal (node (poseidon2 poseidon) (fieldLeaf commitments) TREE_LEVELS 0).val
  nullifierHash := decimal (poseidon [(note.nullifier : Fr)]).val
  recipient := decimal note.recipientField
  relayer := decimal note.relayerField
  fee := decimal note.fee
  secret := decimal note.secret
  nullifier := decimal note.nullifier
  pathElements := (note.steps poseidon commitments).map fun step => fieldDecimal step.1
  pathIndices := (note.steps poseidon commitments).map fun step => if step.2 then 1 else 0

def NoteWithdrawal.signals : PublicSignals :=
  ⟨node (poseidon2 poseidon) (fieldLeaf commitments) TREE_LEVELS 0,poseidon [(note.nullifier : Fr)],
    (note.recipientField : Fr),(note.relayerField : Fr),(note.fee : Fr)⟩

def NoteWithdrawal.witness : PrivateSignals TREE_LEVELS where
  secret := (note.secret : Fr)
  nullifier := (note.nullifier : Fr)
  pathElements := fun i => ((note.steps poseidon commitments).map Prod.fst).getD i 0
  pathIndices := fun i => ((note.steps poseidon commitments).map fun step => if step.2 then (1 : Fr) else 0).getD i 0

variable {poseidon commitments note}

theorem steps_length : (note.steps poseidon commitments).length = TREE_LEVELS := path_length _ _ _

theorem input_public : publicSignalsOf (note.input poseidon commitments) = some (note.signals poseidon commitments) := by
  simp only [publicSignalsOf,NoteWithdrawal.input,fieldText_decimal,Option.bind_eq_bind,Option.bind_some,
    ZMod.natCast_zmod_val]
  rfl

theorem input_private : privateSignalsOf TREE_LEVELS (note.input poseidon commitments) =
    some (note.witness poseidon commitments) := by
  have elements : ((note.steps poseidon commitments).map fun step => fieldDecimal step.1).mapM fieldText =
      some ((note.steps poseidon commitments).map Prod.fst) := by
    rw [List.mapM_map]
    simp only [Function.comp_def,fieldText_field]
    exact List.mapM_pure
  have indices : ((note.steps poseidon commitments).map fun step => if step.2 then 1 else 0).map
      (fun n : Nat => (n : Fr)) = (note.steps poseidon commitments).map fun step => if step.2 then (1 : Fr) else 0 := by
    rw [List.map_map]
    apply List.map_congr_left
    intro step _
    cases right : step.2 <;> simp [right]
  have widths : ((note.steps poseidon commitments).map Prod.fst).length = TREE_LEVELS ∧
      ((note.steps poseidon commitments).map fun step => if step.2 then (1 : Fr) else 0).length = TREE_LEVELS := by
    simp only [List.length_map,steps_length,and_self]
  simp only [privateSignalsOf,NoteWithdrawal.input,fieldText_decimal,Option.bind_eq_bind,Option.bind_some,elements,
    indices,if_pos widths]
  rfl

theorem witness_satisfies (leaf : commitments[note.index]? = some (note.leaf poseidon))
    (fits : commitments.length ≤ 2^TREE_LEVELS) :
    Satisfied poseidon TREE_LEVELS (note.signals poseidon commitments) (note.witness poseidon commitments) := by
  obtain ⟨inside,here⟩ := List.getElem?_eq_some_iff.mp leaf
  have place : note.index < 2^TREE_LEVELS := Nat.lt_of_lt_of_le inside fits
  have start : fieldLeaf commitments note.index = poseidon [(note.secret : Fr),(note.nullifier : Fr)] := by
    rw [fieldLeaf,padded_lt inside,here,NoteWithdrawal.leaf,bytesField_fieldBytes]
  have listed := pathSteps_list (note.steps poseidon commitments) steps_length
  have bits : ∀ i, (note.witness poseidon commitments).pathIndices i = 0 ∨
      (note.witness poseidon commitments).pathIndices i = 1 := by
    intro i
    have bound : i.val < ((note.steps poseidon commitments).map fun step => if step.2 then (1 : Fr) else 0).length := by
      rw [List.length_map,steps_length]
      exact i.isLt
    simp only [NoteWithdrawal.witness,List.getD_eq_getElem _ _ bound,List.getElem_map]
    split
    · exact .inr rfl
    · exact .inl rfl
  have climbed : climb (poseidon2 poseidon) (fieldLeaf commitments note.index) (note.steps poseidon commitments) =
      (note.signals poseidon commitments).root := path_climbs place
  rw [start] at climbed
  refine ⟨_,_,rfl,checker_complete bits ?_,rfl⟩
  exact (congrArg (climb (poseidon2 poseidon) _) listed).trans climbed

theorem input_built {lib : FixedMerkleTree} (plain : lib.Plain)
    (canonical : ∀ commitment ∈ commitments, Canonical commitment) (fits : commitments.length ≤ 2^TREE_LEVELS)
    (inside : note.index < commitments.length) :
    buildWithdrawCircuitInput poseidon lib (note.args poseidon commitments) = some (note.input poseidon commitments) := by
  have root := browserRoot_exact canonical plain fits poseidon
  have proof := browserProof_exact canonical plain fits poseidon inside
  simp only [buildWithdrawCircuitInput,NoteWithdrawal.args,root,proof,Option.bind_eq_bind,Option.bind_some]
  rfl

end Client

-- Everything `withdraw` checks before it verifies the proof, in any later state
-- that still remembers the root.
theorem request_admitted {note : NoteWithdrawal} (valid : PoolState env.poseidon denomination (commitments ++ more) pool)
    (loaded : (after poolKey).data = .pool pool) (recent : more.length ≤ 255) (active : pool.isPaused = 0)
    (low : note.fee < denomination.toNat) (own : accounts.mixerPool = poolKey)
    (recipient : webPubkeyToFieldHash env.poseidon accounts.recipient = some note.recipientField)
    (relayer : webPubkeyToFieldHash env.poseidon accounts.relayer = some note.relayerField)
    (recipientApart : accounts.recipient ≠ poolKey) (relayerApart : accounts.relayer ≠ poolKey) :
    checkRequest env accounts (packedInputs (signalValue (note.signals env.poseidon commitments))) after =
      .ok note.fee := by
  subst own
  have inputs := publicInput_signal (note.signals env.poseidon commitments)
  have canonical : ∀ i, Canonical (publicInput (packedInputs (signalValue (note.signals env.poseidon commitments))) i) := by
    intro i
    rw [inputs]
    exact fieldBytes_canonical _
  have small : note.fee < 2^64 := Nat.lt_trans low denomination.toNat_lt
  have feeValue : (inputFee (packedInputs (signalValue (note.signals env.poseidon commitments)))).value = note.fee := by
    rw [inputFee,inputs,fieldBytes_value]
    exact ZMod.val_natCast_of_lt (Nat.lt_trans small (by norm_num [fieldOrder]))
  have upperZero := upperBytes_small (feeValue.trans_lt small)
  have key : ∀ i pubkey n, webPubkeyToFieldHash env.poseidon pubkey = some n → signalField
      (note.signals env.poseidon commitments) i = (n : Fr) → pubkeyToFieldHash env.poseidon pubkey =
        .ok (publicInput (packedInputs (signalValue (note.signals env.poseidon commitments))) i) := by
    intro i pubkey n hashed signal
    apply program_accepts
    rw [webHash_exact] at hashed ⊢
    rw [signalValue,signal,← Option.some.inj hashed,ZMod.natCast_zmod_val]
  have old : ∀ commitment ∈ commitments, Canonical commitment :=
    fun commitment member => valid.canonical commitment (List.mem_append_left _ member)
  apply checkRequest_exact.mpr
  refine ⟨pool,loaded,canonical 0,canonical 1,canonical 2,canonical 3,canonical 4,upperZero,?_,active,?_,?_,
    recipientApart,relayerApart,key 2 _ _ recipient rfl,key 3 _ _ relayer rfl⟩
  · exact ((feeOf_exact upperZero).trans feeValue).symm
  · rw [valid.denomination]
    exact low
  · apply (isKnownRoot_exact valid _).mpr
    refine ⟨commitments.length,by simp,?_,?_⟩
    · rw [List.length_append,ROOT_HISTORY_SIZE]
      omega
    · rw [List.take_left,treeRoot_field old,inputRoot,inputs]
      rfl

theorem withdrawal_complete {lib : FixedMerkleTree} (zeros : ZeroChain env.poseidon) (plain : lib.Plain)
    (created : execute env now before (.initializePool authority poolKey denomination) = .ok (start,events))
    (path : Runs env start receipts ledger) (note : NoteWithdrawal)
    (leaf : (commitmentsOf poolKey receipts)[note.index]? = some (note.leaf env.poseidon))
    (low : note.fee < denomination.toNat)
    (recipientHash : webPubkeyToFieldHash env.poseidon recipient = some note.recipientField)
    (relayerHash : webPubkeyToFieldHash env.poseidon relayer = some note.relayerField)
    (recipientApart : recipient ≠ poolKey) (relayerApart : relayer ≠ poolKey) :
    ∃ input inputs signals pool,
      buildWithdrawCircuitInput env.poseidon lib (note.args env.poseidon (commitmentsOf poolKey receipts)) = some input ∧
      publicSignalsOf input = some inputs ∧ privateSignalsOf TREE_LEVELS input = some signals ∧
      Satisfied env.poseidon TREE_LEVELS inputs signals ∧
      (ledger poolKey).data = .pool pool ∧ fieldBytes inputs.root = pool.currentRoot ∧
      convertPublicInputsToBytes (printedSignals (signalValue inputs)) =
        some (packedInputs (signalValue inputs)).toList ∧
      ∀ later after accounts next, Runs env ledger later after → (commitmentsOf poolKey later).length ≤ 255 →
        (after poolKey).data = .pool next → next.isPaused = 0 → accounts.mixerPool = poolKey →
        accounts.recipient = recipient → accounts.relayer = relayer →
        checkRequest env accounts (packedInputs (signalValue inputs)) after = .ok note.fee := by
  cases execute_exact created with
  | created made =>
    have unsigned := created_unsigned made
    have initial := created_tracked zeros made fun i => ZERO_HASHES i
    rw [reseed_initial made] at initial
    obtain ⟨pool,loaded,valid⟩ := (runs_tracked unsigned zeros initial path).pool
    have fits : (commitmentsOf poolKey receipts).length ≤ 2^TREE_LEVELS := by
      rw [← maxLeaves_exact]
      exact valid.capacity
    have inside := (List.getElem?_eq_some_iff.mp leaf).1
    refine ⟨_,_,_,pool,input_built plain valid.canonical fits inside,input_public,input_private,
      witness_satisfies leaf fits,loaded,?_,?_,?_⟩
    · rw [currentRoot_exact valid,treeRoot_field valid.canonical]
      rfl
    · apply convertPublicInputs_exact
      intro i
      exact Nat.lt_trans (signalField _ i).val_lt fieldOrder_fits
    · intro later after accounts next further recent here active own one two
      subst one two
      obtain ⟨_,found,grown⟩ := (runs_tracked unsigned zeros initial (runs_trans path further)).pool
      cases AccountData.pool.inj (found.symm.trans here)
      rw [commitmentsOf,List.filterMap_append] at grown
      exact request_admitted grown here recent active low own recipientHash relayerHash recipientApart relayerApart

def plainTree : FixedMerkleTree where
  root := fun hash zero levels elements => MerkleTree.root hash zero levels elements
  path := fun hash zero levels elements index =>
    (path hash (padded zero elements) levels index).map fun step => (step.1,if step.2 then 1 else 0)

theorem plainTree_plain : plainTree.Plain := ⟨fun _ _ _ _ _ => rfl,fun _ _ _ _ _ _ _ => rfl⟩

def sampleNoteFor (recipientHash : Bytes 32) : NoteWithdrawal :=
  ⟨0,1,2,recipientHash.value,sampleRelayerHash.value,1000000⟩

theorem sampleNote_leaf (recipientHash : Bytes 32) :
    (sampleNoteFor recipientHash).leaf tablePoseidon = sampleCommitment := by
  have known := table_known [1,2]
    (z := 7853200120776062878684798364095072458815029376092732009249414926327459813530) (by decide) (by decide)
  have small : 7853200120776062878684798364095072458815029376092732009249414926327459813530 < fieldOrder := by decide
  apply Bytes.value_inj.mp
  rw [NoteWithdrawal.leaf,fieldBytes_value]
  exact (congrArg ZMod.val known).trans ((ZMod.val_natCast_of_lt small).trans (by decide))

theorem sampleRecipient_hash : webPubkeyToFieldHash tablePoseidon sampleRecipient = some sampleRecipientHash.value :=
  sampleKey_hash (by decide) (by decide)

theorem sampleRelayer_hash : webPubkeyToFieldHash tablePoseidon sampleRelayer = some sampleRelayerHash.value :=
  sampleKey_hash (by decide) (by decide)

def samplePoolHash : Bytes 32 :=
  Bytes.ofNat 32 863746119351051569142058895997555775545816008597428305370133438918266859995

theorem withdrawal_complete_sample : ∃ start receipts ledger inputs,
    execute sampleRuntime 0 sampleGenesis (.initializePool ADMIN_AUTHORITY samplePool sampleDenomination) =
      .ok (start,[]) ∧
    Runs sampleRuntime start receipts ledger ∧ commitmentsOf samplePool receipts = [sampleCommitment] ∧
    checkRequest sampleRuntime ⟨sampleRelayer,samplePool,sampleNullifierAccount,sampleRecipient,sampleRelayer⟩
      (packedInputs (signalValue inputs)) ledger = .ok 1000000 := by
  obtain ⟨start,created⟩ := sample_created
  obtain ⟨landed,pool,loaded,active⟩ := sample_lands created
  have history := sample_history landed
  have leaf : (commitmentsOf samplePool [.submitted start sampleDeposit
      (submit sampleRuntime 0 start sampleDeposit).2])[(sampleNoteFor sampleRecipientHash).index]? =
      some ((sampleNoteFor sampleRecipientHash).leaf tablePoseidon) := by
    rw [history,sampleNote_leaf]
    rfl
  obtain ⟨_,inputs,_,_,_,_,_,_,_,_,_,checked⟩ := withdrawal_complete zeroChain_known plainTree_plain created
    (sample_path start) (sampleNoteFor sampleRecipientHash) leaf (by decide)
    sampleRecipient_hash sampleRelayer_hash (by decide) (by decide)
  exact ⟨start,_,_,inputs,created,sample_path start,history,
    checked [] _ _ pool .nil (by simp [commitmentsOf]) loaded active rfl rfl rfl⟩

-- The pool itself as recipient: the whole request is well formed and still refused.
theorem pool_recipient_refused : ∃ start receipts ledger pool input inputs signals,
    execute sampleRuntime 0 sampleGenesis (.initializePool ADMIN_AUTHORITY samplePool sampleDenomination) =
      .ok (start,[]) ∧
    Runs sampleRuntime start receipts ledger ∧ commitmentsOf samplePool receipts = [sampleCommitment] ∧
    (sampleNoteFor samplePoolHash).leaf tablePoseidon = sampleCommitment ∧
    (sampleNoteFor samplePoolHash).fee < sampleDenomination.toNat ∧
    webPubkeyToFieldHash tablePoseidon samplePool = some (sampleNoteFor samplePoolHash).recipientField ∧
    webPubkeyToFieldHash tablePoseidon sampleRelayer = some (sampleNoteFor samplePoolHash).relayerField ∧
    buildWithdrawCircuitInput tablePoseidon plainTree
      ((sampleNoteFor samplePoolHash).args tablePoseidon [sampleCommitment]) = some input ∧
    publicSignalsOf input = some inputs ∧ privateSignalsOf TREE_LEVELS input = some signals ∧
    Satisfied tablePoseidon TREE_LEVELS inputs signals ∧
    (ledger samplePool).data = .pool pool ∧ pool.isPaused = 0 ∧
    ∀ signer nullifierAccount fee, checkRequest sampleRuntime
      ⟨signer,samplePool,nullifierAccount,samplePool,sampleRelayer⟩ (packedInputs (signalValue inputs)) ledger ≠
        .ok fee := by
  obtain ⟨start,created⟩ := sample_created
  obtain ⟨landed,pool,loaded,active⟩ := sample_lands created
  have leaf : [sampleCommitment][(sampleNoteFor samplePoolHash).index]? =
      some ((sampleNoteFor samplePoolHash).leaf tablePoseidon) := by
    rw [sampleNote_leaf]
    rfl
  have canonical : ∀ commitment ∈ [sampleCommitment], Canonical commitment := by
    intro commitment member
    rw [List.mem_singleton.mp member]
    decide
  refine ⟨start,_,_,pool,_,_,_,created,sample_path start,sample_history landed,sampleNote_leaf _,by decide,
    sampleKey_hash (by decide) (by decide),sampleRelayer_hash,
    input_built plainTree_plain canonical (by decide) (by decide),input_public,input_private,
    witness_satisfies leaf (by decide),loaded,active,?_⟩
  intro signer nullifierAccount fee accepted
  obtain ⟨_,_,admitted⟩ := checkRequest_exact.mp accepted
  exact admitted.recipientApart rfl

theorem sample_empty_subtree (bound : k < TREE_LEVELS + 1) :
    empty (poseidon2 tablePoseidon) 0 k = ((zeroValues.getD k 0 : Nat) : Fr) := by
  induction k with
  | zero => rfl
  | succ k ih =>
    have below : k < TREE_LEVELS := Nat.lt_of_succ_lt_succ bound
    have known := zeroHashes_known ⟨k,below⟩
    have small : ∀ n ∈ [zeroValues.getD k 0,zeroValues.getD k 0], n < fieldOrder := by
      have all : ∀ i : Fin (TREE_LEVELS + 1), zeroValues.getD i.val 0 < fieldOrder := by decide
      intro n member
      rcases List.mem_pair.mp member with rfl | rfl <;> exact all ⟨k,Nat.lt_of_succ_lt bound⟩
    rw [empty,ih (Nat.lt_of_succ_lt bound)]
    exact table_known _ known small

-- The root of the sample pool after its one deposit.
theorem sampleRoot_exact : treeRoot tablePoseidon [sampleCommitment] = sampleRoot := by
  have canonical : ∀ commitment ∈ [sampleCommitment], Canonical commitment := by
    intro commitment member
    rw [List.mem_singleton.mp member]
    decide
  have others : ∀ j, fieldLeaf [sampleCommitment] (j+1) = empty (poseidon2 tablePoseidon) 0 0 := by
    intro j
    rw [fieldLeaf,padded_ge (by simp)]
    decide
  have steps : path (poseidon2 tablePoseidon) (fieldLeaf [sampleCommitment]) TREE_LEVELS 0 =
      (zeroValues.take TREE_LEVELS).map fun sibling : Nat => ((sibling : Fr),false) := by
    have siblings : zeroValues.take TREE_LEVELS = (List.range TREE_LEVELS).map fun k => zeroValues.getD k 0 := by
      decide
    rw [path_first others,siblings,List.map_map]
    apply List.map_congr_left
    intro k member
    rw [Nat.zero_add,sample_empty_subtree (Nat.lt_succ_of_lt (List.mem_range.mp member))]
    rfl
  have reached := knownClimb_exact (zeroValues.take TREE_LEVELS) sampleCommitment.value sampleRoot.value
    (by decide)
  have start : fieldLeaf [sampleCommitment] 0 = (sampleCommitment.value : Fr) := by
    rw [fieldLeaf,padded_lt (by simp),List.getElem_cons_zero,bytesField]
  have room : 0 < 2^TREE_LEVELS := by decide
  have climbed : climb (poseidon2 tablePoseidon) (fieldLeaf [sampleCommitment] 0)
      (path (poseidon2 tablePoseidon) (fieldLeaf [sampleCommitment]) TREE_LEVELS 0) =
      node (poseidon2 tablePoseidon) (fieldLeaf [sampleCommitment]) TREE_LEVELS 0 := path_climbs room
  rw [start,steps,reached] at climbed
  rw [treeRoot_field canonical,← climbed]
  exact fieldBytes_bytesField (by decide)

theorem sampleInputs_exact :
    packedInputs (signalValue ((sampleNoteFor sampleRecipientHash).signals tablePoseidon [sampleCommitment])) =
      sampleWithdrawal.inputs := by
  have canonical : ∀ commitment ∈ [sampleCommitment], Canonical commitment := by
    intro commitment member
    rw [List.mem_singleton.mp member]
    decide
  have root : (node (poseidon2 tablePoseidon) (fieldLeaf [sampleCommitment]) TREE_LEVELS 0).val = sampleRoot.value := by
    rw [← sampleRoot_exact,treeRoot_field canonical,fieldBytes_value]
  have spent := table_known [2] (z := sampleNullifierHash.value) (by decide) (by decide)
  have hash : (tablePoseidon [((2 : Nat) : Fr)]).val = sampleNullifierHash.value :=
    (congrArg ZMod.val spent).trans (ZMod.val_natCast_of_lt (by decide))
  have values : signalValue ((sampleNoteFor sampleRecipientHash).signals tablePoseidon [sampleCommitment]) =
      sampleValues := by
    funext i
    match i with
    | 0 => exact root
    | 1 => exact hash
    | 2 => exact ZMod.val_natCast_of_lt (by decide)
    | 3 => exact ZMod.val_natCast_of_lt (by decide)
    | 4 => exact (ZMod.val_natCast_of_lt (by decide)).trans (by decide)
  rw [values]
  apply List.Vector.eq
  decide +kernel

-- The sample note is paid out once its deposit has landed.
theorem sample_pays (created : execute sampleRuntime 0 sampleGenesis
    (.initializePool ADMIN_AUTHORITY samplePool sampleDenomination) = .ok (start,[])) :
    (submit sampleRuntime 0 (submit sampleRuntime 0 start sampleDeposit).1 sampleWithdraw).2 =
      .ok [.withdraw ⟨sampleNullifierHash,sampleRecipient,sampleRelayer,1000000,0⟩] := by
  obtain ⟨landed,current,here,active⟩ := sample_lands created
  have after := sample_deposited created
  cases execute_exact created with
  | created made =>
    have initial := created_tracked zeroChain_known made fun i => ZERO_HASHES i
    rw [reseed_initial made] at initial
    have tracked := runs_tracked (created_unsigned made) zeroChain_known initial (sample_path start)
    rw [sample_history landed] at tracked
    obtain ⟨pool,loaded,valid⟩ := tracked.pool
    cases AccountData.pool.inj (here.symm.trans loaded)
    have whole : PoolState sampleRuntime.poseidon sampleDenomination ([sampleCommitment] ++ []) current := by
      rw [List.append_nil]
      exact valid
    have checked : checkRequest sampleRuntime sampleWithdrawal.accounts (packedInputs (signalValue
        ((sampleNoteFor sampleRecipientHash).signals sampleRuntime.poseidon [sampleCommitment])))
        (submit sampleRuntime 0 start sampleDeposit).1 = .ok 1000000 :=
      request_admitted whole here (Nat.zero_le _) active (by decide) rfl sampleRecipient_hash sampleRelayer_hash
        (by decide) (by decide)
    have inputs := sampleInputs_exact
    rw [show tablePoseidon = sampleRuntime.poseidon from rfl] at inputs
    rw [inputs] at checked
    have hash : inputNullifierHash sampleWithdrawal.inputs = sampleNullifierHash := by decide
    have verified : verifyProof sampleRuntime sampleWithdrawal.proofData sampleWithdrawal.inputs = .ok true := by
      have listed : (List.finRange 5).map (publicInput sampleWithdrawal.inputs) =
          [sampleRoot,sampleNullifierHash,sampleRecipientHash,sampleRelayerHash,sampleFee] := by decide
      simp only [verifyProof,sampleRuntime,listed,decide_true]
    have balance := tracked.balance
    have plain : ∀ key, key ≠ samplePool ∧ key ≠ sampleCommitmentAccount →
        ((submit sampleRuntime 0 start sampleDeposit).1 key).data = (sampleGenesis key).data :=
      fun key apart => after.data key apart.1 apart.2
    have funds := after.lamports sampleRelayer (by decide) (by decide) (by decide)
      (by decide)
    have rent : sampleRuntime.minimumBalance NullifierAccount.SPACE ≤
        Ledger.lamports (submit sampleRuntime 0 start sampleDeposit).1 sampleRelayer := by
      rw [funds]
      decide
    have none : withdrawalsOf samplePool
        [.submitted start sampleDeposit (submit sampleRuntime 0 start sampleDeposit).2] = [] := by
      rw [landed]
      rfl
    have solvent : current.denomination.toNat + sampleRuntime.minimumBalance MixerPool.SPACE ≤
        Ledger.lamports (submit sampleRuntime 0 start sampleDeposit).1 samplePool := by
      rw [none] at balance
      rw [valid.denomination]
      simp only [List.length_nil,List.length_singleton,Nat.mul_zero,Nat.mul_one] at balance
      omega
    obtain ⟨next,ran⟩ := withdraw_lands after.supply (created_unsigned made) here
      (by decide : sampleRuntime.canSign sampleRelayer = true) (after.seeds current here)
      (by rw [hash]; decide) (by rw [plain _ (by decide)]; decide)
      (by rw [plain _ (by decide)]; decide) rent checked verified solvent
    rw [hash] at ran
    exact congrArg Prod.snd (submit_executed ran)

end Octora
