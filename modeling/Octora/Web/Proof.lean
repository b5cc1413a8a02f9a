import Octora.Relayer.ProofConverter

namespace Octora.Web
open BigEndian BigIntText MerkleTree Relayer

-- poseidon.ts. The hasher throws on a text that is no number; the tree only
-- ever passes it printed numbers.
def poseidonHasher (poseidon : List Fr → Fr) (left right : Text) : Text :=
  decimal (poseidon2 poseidon (((bigInt left).getD 0 : Int) : Fr) (((bigInt right).getD 0 : Int) : Fr)).val

-- The two members of the `fixed-merkle-tree` package that the browser uses.
structure FixedMerkleTree where
  root : (hashFunction : Text → Text → Text) → (zeroElement : Text) → (levels : Nat) → (elements : List Text) → Text
  path : (hashFunction : Text → Text → Text) → (zeroElement : Text) → (levels : Nat) → (elements : List Text) →
    (index : Nat) → List (Text × Nat)

-- The package is the plain tree padded with its zero element; it refuses more
-- elements than leaves and an index outside its elements.
structure FixedMerkleTree.Plain (lib : FixedMerkleTree) : Prop where
  root : ∀ hash zero levels elements, elements.length ≤ 2^levels →
    lib.root hash zero levels elements = MerkleTree.root hash zero levels elements
  path : ∀ hash zero levels elements index, elements.length ≤ 2^levels → index < elements.length → lib.path hash zero levels elements index =
    (MerkleTree.path hash (padded zero elements) levels index).map fun step => (step.1,if step.2 then 1 else 0)

-- merkle-tree.ts
structure MerkleProof where
  pathElements : List Text
  pathIndices : List Nat

structure MixerMerkleTree where
  levels : Nat
  elements : List Text

def createMixerMerkleTree (levels : Nat) (existingLeaves : List Nat) : MixerMerkleTree :=
  ⟨levels,existingLeaves.map decimal⟩

section Library
variable (poseidon : List Fr → Fr) (lib : FixedMerkleTree)

def MixerMerkleTree.getProof (tree : MixerMerkleTree) (leafIndex : Nat) : MerkleProof :=
  let steps := lib.path (poseidonHasher poseidon) ['0'] tree.levels tree.elements leafIndex
  ⟨steps.map Prod.fst,steps.map Prod.snd⟩

def MixerMerkleTree.root (tree : MixerMerkleTree) : Option Int :=
  bigInt (lib.root (poseidonHasher poseidon) ['0'] tree.levels tree.elements)

-- proof.ts
structure BuildProofInputsArgs where
  tree : MixerMerkleTree
  leafIndex : Nat
  secret : Nat
  nullifier : Nat
  nullifierHash : Nat
  recipientField : Nat
  relayerField : Nat
  fee : Nat

structure WithdrawCircuitInput where
  root : Text
  nullifierHash : Text
  recipient : Text
  relayer : Text
  fee : Text
  secret : Text
  nullifier : Text
  pathElements : List Text
  pathIndices : List Nat

def buildWithdrawCircuitInput (args : BuildProofInputsArgs) : Option WithdrawCircuitInput := do
  let proof := args.tree.getProof poseidon lib args.leafIndex
  let root ← args.tree.root poseidon lib
  some ⟨decimal root.toNat,decimal args.nullifierHash,decimal args.recipientField,decimal args.relayerField,
    decimal args.fee,decimal args.secret,decimal args.nullifier,proof.pathElements,proof.pathIndices⟩

end Library

-- How snarkjs reads an input signal, and how many it takes.
def fieldText (text : Text) : Option Fr := (bigInt text).map fun n : Int => (n : Fr)

def publicSignalsOf (input : WithdrawCircuitInput) : Option PublicSignals := do
  let root ← fieldText input.root
  let nullifierHash ← fieldText input.nullifierHash
  let recipient ← fieldText input.recipient
  let relayer ← fieldText input.relayer
  let fee ← fieldText input.fee
  some ⟨root,nullifierHash,recipient,relayer,fee⟩

def privateSignalsOf (levels : Nat) (input : WithdrawCircuitInput) : Option (PrivateSignals levels) := do
  let secret ← fieldText input.secret
  let nullifier ← fieldText input.nullifier
  let elements ← input.pathElements.mapM fieldText
  let indices := input.pathIndices.map fun n : Nat => (n : Fr)
  if elements.length = levels ∧ indices.length = levels then
    some ⟨secret,nullifier,fun i => elements.getD i 0,fun i => indices.getD i 0⟩
  else none

theorem fieldText_decimal (value : Nat) : fieldText (decimal value) = some (value : Fr) := by
  simp only [fieldText,bigInt_decimal,Option.map_some,Int.cast_natCast]

def fieldDecimal (x : Fr) : Text := decimal x.val

theorem fieldText_field (x : Fr) : fieldText (fieldDecimal x) = some x := by
  simp only [fieldDecimal,fieldText_decimal,ZMod.natCast_val,ZMod.cast_id',id_eq]

-- One tree over the field carries both the tree of texts and the tree of byte arrays.
theorem hasher_carries (poseidon : List Fr → Fr) (a b : Fr) :
    fieldDecimal (poseidon2 poseidon a b) = poseidonHasher poseidon (fieldDecimal a) (fieldDecimal b) := by
  have read : ∀ x : Fr, (((bigInt (fieldDecimal x)).getD 0 : Int) : Fr) = x := by
    intro x
    rw [fieldDecimal,bigInt_decimal,Option.getD_some,Int.cast_natCast]
    exact ZMod.natCast_zmod_val x
  simp only [poseidonHasher,read]
  rfl

theorem compress_carries (poseidon : List Fr → Fr) (a b : Fr) :
    fieldBytes (poseidon2 poseidon a b) = compress poseidon (fieldBytes a) (fieldBytes b) := by
  simp only [compress,bytesField_fieldBytes,poseidon2]

def browserTree (commitments : List (Bytes 32)) : MixerMerkleTree :=
  createMixerMerkleTree TREE_LEVELS (commitments.map Bytes.value)

section Trees
variable {commitments : List (Bytes 32)} (canonical : ∀ commitment ∈ commitments, Canonical commitment)
include canonical

theorem padded_bytes : padded ZERO_VALUE commitments = fun j => fieldBytes (fieldLeaf commitments j) := by
  funext j
  have leaf : Canonical (padded ZERO_VALUE commitments j) := by
    rcases Nat.lt_or_ge j commitments.length with inside | outside
    · rw [padded_lt inside]
      exact canonical _ (List.getElem_mem inside)
    · rw [padded_ge outside]
      decide
  exact (fieldBytes_bytesField leaf).symm

theorem padded_texts :
    padded ['0'] (browserTree commitments).elements = fun j => fieldDecimal (fieldLeaf commitments j) := by
  funext j
  simp only [browserTree,createMixerMerkleTree,List.map_map]
  rcases Nat.lt_or_ge j commitments.length with inside | outside
  · have width : j < (commitments.map (decimal ∘ Bytes.value)).length := by simpa using inside
    rw [padded_lt width,List.getElem_map,fieldDecimal,fieldLeaf,padded_lt inside,
      bytesField_val (canonical _ (List.getElem_mem inside))]
    rfl
  · have width : (commitments.map (decimal ∘ Bytes.value)).length ≤ j := by simpa using outside
    have zero : Canonical ZERO_VALUE := by decide
    rw [padded_ge width,fieldDecimal,fieldLeaf,padded_ge outside,bytesField_val zero]
    decide

theorem treeRoot_field (poseidon : List Fr → Fr) : treeRoot poseidon commitments =
    fieldBytes (node (poseidon2 poseidon) (fieldLeaf commitments) TREE_LEVELS 0) := by
  rw [treeRoot,MerkleTree.root,padded_bytes canonical]
  exact (node_map (compress_carries poseidon) (fieldLeaf commitments) TREE_LEVELS 0).symm

variable {lib : FixedMerkleTree} (plain : lib.Plain) (fits : commitments.length ≤ 2^TREE_LEVELS)
include plain fits

theorem browserRoot_exact (poseidon : List Fr → Fr) : (browserTree commitments).root poseidon lib =
    some ((node (poseidon2 poseidon) (fieldLeaf commitments) TREE_LEVELS 0).val : Int) := by
  have width : (browserTree commitments).elements.length ≤ 2^(browserTree commitments).levels := by
    simpa [browserTree,createMixerMerkleTree] using fits
  have carried := node_map (hasher_carries poseidon) (fieldLeaf commitments) TREE_LEVELS 0
  rw [MixerMerkleTree.root,plain.root _ _ _ _ width,MerkleTree.root,padded_texts canonical]
  calc bigInt (node (poseidonHasher poseidon) (fun j => fieldDecimal (fieldLeaf commitments j)) TREE_LEVELS 0)
      = bigInt (fieldDecimal (node (poseidon2 poseidon) (fieldLeaf commitments) TREE_LEVELS 0)) :=
        congrArg bigInt carried.symm
    _ = some ((node (poseidon2 poseidon) (fieldLeaf commitments) TREE_LEVELS 0).val : Int) := bigInt_decimal _

theorem browserProof_exact (poseidon : List Fr → Fr) (inside : index < commitments.length) :
    (browserTree commitments).getProof poseidon lib index =
      ⟨(path (poseidon2 poseidon) (fieldLeaf commitments) TREE_LEVELS index).map fun step => fieldDecimal step.1,
       (path (poseidon2 poseidon) (fieldLeaf commitments) TREE_LEVELS index).map fun step =>
         if step.2 then 1 else 0⟩ := by
  have width : (browserTree commitments).elements.length ≤ 2^(browserTree commitments).levels := by
    simpa [browserTree,createMixerMerkleTree] using fits
  have place : index < (browserTree commitments).elements.length := by
    simpa [browserTree,createMixerMerkleTree] using inside
  have carried := path_map (hasher_carries poseidon) (fieldLeaf commitments) TREE_LEVELS index
  have found := plain.path (poseidonHasher poseidon) ['0'] _ _ _ width place
  rw [padded_texts canonical] at found
  simp only [MixerMerkleTree.getProof,found]
  change MerkleProof.mk (List.map _ (List.map _ (path _ _ TREE_LEVELS index)))
    (List.map _ (List.map _ (path _ _ TREE_LEVELS index))) = _
  simp only [← carried,List.map_map,Function.comp_def]

end Trees

theorem pathSteps_list (steps : List (Fr × Bool)) (width : steps.length = levels) :
    pathSteps (fun i : Fin levels => (steps.map Prod.fst).getD i 0)
      (fun i => (steps.map fun step => if step.2 then (1 : Fr) else 0).getD i 0) = steps := by
  apply List.ext_getElem
  · rw [pathSteps_length,width]
  · intro k here bound
    rw [pathSteps_length] at here
    have one : k < (steps.map Prod.fst).length := by simpa using bound
    have two : k < (steps.map fun step => if step.2 then (1 : Fr) else 0).length := by simpa using bound
    simp only [pathSteps,List.getElem_map,List.getElem_finRange,Fin.cast_mk,List.getD_eq_getElem _ _ one,
      List.getD_eq_getElem _ _ two]
    cases right : (steps[k]).2 with
    | true => simp [← right]
    | false => simp [← right]

end Octora.Web
