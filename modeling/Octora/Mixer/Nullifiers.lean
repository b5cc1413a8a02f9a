import Octora.Mixer.Refinement
import Octora.Vault.Circuit

namespace Octora
open BigEndian MerkleTree

-- The verifier reads every public input modulo the scalar order.
def publicSignals (inputs : Bytes PUBLIC_INPUTS_SIZE) : PublicSignals where
  root := bytesField (inputRoot inputs)
  nullifierHash := bytesField (inputNullifierHash inputs)
  recipient := bytesField (inputRecipient inputs)
  relayer := bytesField (inputRelayer inputs)
  fee := bytesField (inputFee inputs)

abbrev Extractor := Bytes PROOF_SIZE → Bytes PUBLIC_INPUTS_SIZE → PrivateSignals TREE_LEVELS

-- Groth16 soundness: what verifies has a satisfying witness, which `extract` names.
def Groth16Sound (env : Runtime) (extract : Extractor) : Prop :=
  ∀ proofData inputs, verifyProof env proofData inputs = .ok true →
    Satisfied env.poseidon TREE_LEVELS (publicSignals inputs) (extract proofData inputs)

section Notes
variable (env : Runtime) (extract : Extractor)

def noteOf (request : WithdrawRequest) : Fr × Fr :=
  ((extract request.proofData request.inputs).secret,(extract request.proofData request.inputs).nullifier)

-- The leaf a withdrawal opens.
def opened (request : WithdrawRequest) : Fr := env.poseidon [(noteOf extract request).1,(noteOf extract request).2]

-- No two different notes among these requests hash to one commitment.
def NotesFree (withdrawals : List WithdrawRequest) : Prop :=
  NoCollision (poseidon2 env.poseidon) fun q => ∃ request ∈ withdrawals, q = noteOf extract request

structure DifferentSpend (one two : WithdrawRequest) : Prop where
  hashBytes : inputNullifierHash one.inputs ≠ inputNullifierHash two.inputs
  hashField : bytesField (inputNullifierHash one.inputs) ≠ bytesField (inputNullifierHash two.inputs)
  nullifier : (noteOf extract one).2 ≠ (noteOf extract two).2
  leaf : opened env extract one ≠ opened env extract two

end Notes

section Spends
variable {env : Runtime} {extract : Extractor} {withdrawals : List WithdrawRequest}

theorem hash_of_nullifier (sound : Groth16Sound env extract)
    (verified : verifyProof env request.proofData request.inputs = .ok true) :
    bytesField (inputNullifierHash request.inputs) = env.poseidon [(noteOf extract request).2] := by
  obtain ⟨_,_,circuit⟩ := sound _ _ verified
  exact circuit.nullifierHash

theorem accepted_different (sound : Groth16Sound env extract) (accepted : Accepted env withdrawals)
    (free : NotesFree env extract withdrawals) : withdrawals.Pairwise (DifferentSpend env extract) := by
  have bytes : withdrawals.Pairwise fun one two => inputNullifierHash one.inputs ≠ inputNullifierHash two.inputs :=
    List.pairwise_map.mp accepted.once
  refine bytes.imp_of_mem ?_
  intro one two first second apart
  have fields : bytesField (inputNullifierHash one.inputs) ≠ bytesField (inputNullifierHash two.inputs) :=
    fun equal => apart (bytesField_injective (accepted.canonical one first) (accepted.canonical two second) equal)
  have nullifiers : (noteOf extract one).2 ≠ (noteOf extract two).2 := by
    intro equal
    apply fields
    rw [hash_of_nullifier sound (accepted.verified one first),hash_of_nullifier sound (accepted.verified two second),
      equal]
  refine ⟨apart,fields,nullifiers,fun equal => nullifiers ?_⟩
  have same := free _ _ ⟨one,first,rfl⟩ ⟨two,second,rfl⟩ equal
  exact congrArg Prod.snd same

theorem at_most_one [DecidableEq β] (f : α → β) (value : β) {items : List α}
    (apart : items.Pairwise fun one two => f one ≠ f two) :
    (items.filter fun item => f item = value).length ≤ 1 := by
  have kept := apart.filter fun item => decide (f item = value)
  generalize found : (items.filter fun item => decide (f item = value)) = chosen at kept ⊢
  match chosen with
  | [] => simp
  | [_] => simp
  | one :: two :: rest =>
    have member : ∀ item ∈ one :: two :: rest, f item = value := by
      intro item inside
      rw [← found] at inside
      simpa using (List.mem_filter.mp inside).2
    have first := member one (by simp)
    have second := member two (by simp)
    exact absurd (first.trans second.symm) ((List.pairwise_cons.mp kept).1 two (by simp))

end Spends

-- The sample note's path: every sibling is an empty subtree and every index bit is 0.
def sampleNote : PrivateSignals TREE_LEVELS where
  secret := 1
  nullifier := 2
  pathElements := fun i => (zeroValues.getD i.val 0 : Nat)
  pathIndices := fun _ => 0

def knownClimb : Nat → List Nat → Option Nat
  | current,[] => some current
  | current,sibling :: rest =>
    if current < fieldOrder ∧ sibling < fieldOrder then
      match knownAnswers.lookup [current,sibling] with
      | some parent => knownClimb parent rest
      | none => none
    else none

theorem knownClimb_exact (siblings : List Nat) (current top : Nat) (reached : knownClimb current siblings = some top) :
    climb (poseidon2 tablePoseidon) (current : Fr) (siblings.map fun sibling : Nat => ((sibling : Fr),false)) =
      (top : Fr) := by
  induction siblings generalizing current with
  | nil =>
    cases Option.some.inj reached
    rfl
  | cons sibling rest ih =>
    rw [knownClimb] at reached
    split at reached
    · rename_i small
      split at reached
      · rename_i parent known
        have hashed := table_known [current,sibling] known (by simp [small])
        have above := ih parent reached
        rw [← hashed] at above
        exact above
      · cases reached
    · cases reached

theorem sampleNote_steps : pathSteps sampleNote.pathElements sampleNote.pathIndices =
    (zeroValues.take TREE_LEVELS).map fun sibling : Nat => ((sibling : Fr),false) := by
  have siblings : zeroValues.take TREE_LEVELS =
      (List.finRange TREE_LEVELS).map fun i => zeroValues.getD i.val 0 := by decide
  rw [siblings,List.map_map]
  simp only [pathSteps,sampleNote]
  rfl

theorem sampleRuntime_sound : Groth16Sound sampleRuntime fun _ _ => sampleNote := by
  intro proofData inputs verified
  have same : (List.finRange 5).map (publicInput inputs) =
      [sampleRoot,sampleNullifierHash,sampleRecipientHash,sampleRelayerHash,sampleFee] := by
    have answered := Except.ok.inj verified
    simpa [sampleRuntime] using answered
  have listed : (List.finRange 5).map (publicInput inputs) =
      [inputRoot inputs,inputNullifierHash inputs,inputRecipient inputs,inputRelayer inputs,inputFee inputs] := rfl
  rw [listed] at same
  have root : inputRoot inputs = sampleRoot := (List.cons.inj same).1
  have hash : inputNullifierHash inputs = sampleNullifierHash := (List.cons.inj (List.cons.inj same).2).1
  have leaf := table_known [1,2] (z := sampleCommitment.value) (by decide) (by decide)
  have reached := knownClimb_exact (zeroValues.take TREE_LEVELS) sampleCommitment.value sampleRoot.value
    (by decide)
  have spent := table_known [2] (z := sampleNullifierHash.value) (by decide) (by decide)
  simp only [List.map_cons,List.map_nil,Nat.cast_one,Nat.cast_ofNat] at leaf spent
  refine ⟨_,_,⟨?_,checker_complete (fun _ => .inl rfl) ?_,rfl⟩⟩
  · exact (congrArg bytesField hash).trans spent.symm
  · rw [sampleNote_steps]
    have climbed := reached.trans (congrArg bytesField root).symm
    rw [← leaf] at climbed
    exact climbed

def sampleWithdrawal : WithdrawRequest where
  accounts := ⟨sampleRelayer,samplePool,sampleNullifierAccount,sampleRecipient,sampleRelayer⟩
  proofData := List.Vector.replicate PROOF_SIZE 0
  inputs := ⟨sampleRoot.toList ++ sampleNullifierHash.toList ++ sampleRecipientHash.toList ++
    sampleRelayerHash.toList ++ sampleFee.toList,by simp [PUBLIC_INPUTS_SIZE]⟩

-- Over every run, from any ledger and with any other pools on it, the accepted
-- withdrawals of a pool spend pairwise different notes.
theorem note_withdrawn_once (sound : Groth16Sound env extract) (path : Runs env start receipts ledger)
    (free : NotesFree env extract (withdrawalsOf poolKey receipts)) :
    (withdrawalsOf poolKey receipts).Pairwise (DifferentSpend env extract) ∧
    (∀ secret nullifier, ((withdrawalsOf poolKey receipts).filter fun request =>
      opened env extract request = env.poseidon [secret,nullifier]).length ≤ 1) ∧
    (∀ nullifier, ((withdrawalsOf poolKey receipts).filter fun request =>
      bytesField (inputNullifierHash request.inputs) = env.poseidon [nullifier]).length ≤ 1) ∧
    (∀ now accounts proofData inputs error,
      (submit env now ledger (.withdraw accounts proofData inputs)).2 = .error error →
      (submit env now ledger (.withdraw accounts proofData inputs)).1 = ledger) := by
  have different := accepted_different sound (runs_spent path).toAccepted free
  refine ⟨different,?_,?_,fun now accounts proofData inputs error refused => refused_keeps refused⟩
  · intro secret nullifier
    exact at_most_one (opened env extract) _ (different.imp fun apart => apart.leaf)
  · intro nullifier
    exact at_most_one (fun request => bytesField (inputNullifierHash request.inputs)) _
      (different.imp fun apart => apart.hashField)

def sampleInitialize : Instruction := .initializePool ADMIN_AUTHORITY samplePool sampleDenomination

def sampleWithdraw : Instruction :=
  .withdraw sampleWithdrawal.accounts sampleWithdrawal.proofData sampleWithdrawal.inputs

theorem note_withdrawn_once_sample : ∃ receipts ledger, Runs sampleRuntime sampleGenesis receipts ledger ∧
    receipts.length = 3 ∧
    (withdrawalsOf samplePool receipts).Pairwise (DifferentSpend sampleRuntime fun _ _ => sampleNote) := by
  have path := Runs.step (Runs.step (Runs.step (.nil : Runs sampleRuntime sampleGenesis [] sampleGenesis)
    (.submitted 0 sampleInitialize)) (.submitted 0 sampleDeposit)) (.submitted 0 sampleWithdraw)
  refine ⟨_,_,path,rfl,(note_withdrawn_once sampleRuntime_sound path ?_).1⟩
  rintro left right ⟨_,_,rfl⟩ ⟨_,_,rfl⟩ _
  rfl

end Octora
