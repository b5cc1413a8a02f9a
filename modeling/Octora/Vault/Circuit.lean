import Octora.Field
import Octora.Library.MerkleTree
import Mathlib.Tactic.LinearCombination

namespace Octora
open MerkleTree hiding root

-- withdraw.circom, one field per signal. `Poseidon(n)` is a fully constrained
-- template: its output is the hash of its inputs.
structure PublicSignals where
  root : Fr
  nullifierHash : Fr
  recipient : Fr
  relayer : Fr
  fee : Fr

structure PrivateSignals (levels : Nat) where
  secret : Fr
  nullifier : Fr
  pathElements : Fin levels → Fr
  pathIndices : Fin levels → Fr

-- Num2Bits(1): one output bit, whose weighted sum is the input.
def Num2Bits1 (input : Fr) : Prop := ∃ out : Fr, out * (out - 1) = 0 ∧ out = input

structure MerkleTreeChecker (poseidon : List Fr → Fr) (levels : Nat) (leaf root : Fr)
    (pathElements pathIndices : Fin levels → Fr) (levelHashes : Nat → Fr) : Prop where
  start : levelHashes 0 = leaf
  bits : ∀ i, Num2Bits1 (pathIndices i)
  hashers : ∀ i : Fin levels, levelHashes (i.val+1) = poseidon [
    levelHashes i + (pathElements i - levelHashes i) * pathIndices i,
    pathElements i + (levelHashes i - pathElements i) * pathIndices i]
  finish : root = levelHashes levels

structure Withdraw (poseidon : List Fr → Fr) (levels : Nat) (inputs : PublicSignals) (signals : PrivateSignals levels)
    (levelHashes : Nat → Fr) (paramsBindingHash : Fr) : Prop where
  nullifierHash : inputs.nullifierHash = poseidon [signals.nullifier]
  tree : MerkleTreeChecker poseidon levels (poseidon [signals.secret,signals.nullifier]) inputs.root
    signals.pathElements signals.pathIndices levelHashes
  paramsBinding : paramsBindingHash = poseidon [inputs.recipient,inputs.relayer,inputs.fee]

def Satisfied (poseidon : List Fr → Fr) (levels : Nat) (inputs : PublicSignals) (signals : PrivateSignals levels) :
    Prop := ∃ levelHashes paramsBindingHash, Withdraw poseidon levels inputs signals levelHashes paramsBindingHash

def poseidon2 (poseidon : List Fr → Fr) (left right : Fr) : Fr := poseidon [left,right]

def pathSteps (pathElements pathIndices : Fin levels → Fr) : List (Fr × Bool) :=
  (List.finRange levels).map fun i => (pathElements i,decide (pathIndices i = 1))

theorem num2Bits1_exact (input : Fr) : Num2Bits1 input ↔ input = 0 ∨ input = 1 := by
  unfold Num2Bits1
  constructor
  · rintro ⟨out,bit,rfl⟩
    exact (mul_eq_zero.mp bit).imp id sub_eq_zero.mp
  · rintro (rfl | rfl)
    · exact ⟨0,by ring,rfl⟩
    · exact ⟨1,by ring,rfl⟩

-- The selector algebra orders the pair as the index bit says.
theorem selector_combine (poseidon : List Fr → Fr) (bit : index = 0 ∨ index = 1) (current sibling : Fr) :
    poseidon [current + (sibling - current) * index,sibling + (current - sibling) * index] =
      combine (poseidon2 poseidon) current (sibling,decide (index = 1)) := by
  rcases bit with rfl | rfl
  · simp [combine,poseidon2]
  · simp [combine,poseidon2]

theorem pathSteps_take (pathElements pathIndices : Fin levels → Fr) (bound : k < levels) :
    (pathSteps pathElements pathIndices).take (k+1) =
      (pathSteps pathElements pathIndices).take k ++
        [(pathElements ⟨k,bound⟩,decide (pathIndices ⟨k,bound⟩ = 1))] := by
  have next : (pathSteps pathElements pathIndices)[k]? =
      some (pathElements ⟨k,bound⟩,decide (pathIndices ⟨k,bound⟩ = 1)) := by
    simp [pathSteps,bound]
  rw [List.take_add_one,next]
  rfl

@[simp] theorem pathSteps_length (pathElements pathIndices : Fin levels → Fr) :
    (pathSteps pathElements pathIndices).length = levels := by simp [pathSteps]

theorem checker_climbs
    (checked : MerkleTreeChecker poseidon levels leaf root pathElements pathIndices levelHashes) (bound : k ≤ levels) :
    levelHashes k = climb (poseidon2 poseidon) leaf ((pathSteps pathElements pathIndices).take k) := by
  induction k with
  | zero => exact checked.start
  | succ k ih =>
    have below := Nat.lt_of_succ_le bound
    have hashed := checked.hashers ⟨k,below⟩
    rw [selector_combine poseidon ((num2Bits1_exact _).mp (checked.bits ⟨k,below⟩))] at hashed
    rw [pathSteps_take _ _ below,climb_append,← ih (Nat.le_of_lt below)]
    exact hashed

theorem checker_root (checked : MerkleTreeChecker poseidon levels leaf root pathElements pathIndices levelHashes) :
    climb (poseidon2 poseidon) leaf (pathSteps pathElements pathIndices) = root := by
  have reached := checker_climbs checked (Nat.le_refl levels)
  rw [List.take_of_length_le (by simp)] at reached
  rw [← reached,checked.finish]

-- Any path with 0/1 indices has a satisfying assignment of the inner signals.
theorem checker_complete {pathElements pathIndices : Fin levels → Fr}
    (bits : ∀ i, pathIndices i = 0 ∨ pathIndices i = 1)
    (reaches : climb (poseidon2 poseidon) leaf (pathSteps pathElements pathIndices) = root) :
    MerkleTreeChecker poseidon levels leaf root pathElements pathIndices
      fun k => climb (poseidon2 poseidon) leaf ((pathSteps pathElements pathIndices).take k) where
  start := rfl
  bits := fun i => (num2Bits1_exact _).mpr (bits i)
  hashers := by
    intro i
    rw [selector_combine poseidon (bits i),pathSteps_take _ _ i.isLt,climb_append]
  finish := by rw [List.take_of_length_le (by simp),reaches]

-- What a satisfied circuit opens: the leaf at the position its indices spell.
theorem satisfied_opens (leaf : Nat → Fr) (satisfied : Satisfied poseidon levels inputs signals)
    (free : NoCollision (poseidon2 poseidon) fun q =>
      q ∈ climbPairs (poseidon2 poseidon) (poseidon [signals.secret,signals.nullifier])
        (pathSteps signals.pathElements signals.pathIndices) ∨ TreePair (poseidon2 poseidon) leaf levels q)
    (root : inputs.root = node (poseidon2 poseidon) leaf levels 0) :
    poseidon [signals.secret,signals.nullifier] =
      leaf (position (pathSteps signals.pathElements signals.pathIndices)) := by
  obtain ⟨levelHashes,paramsBindingHash,circuit⟩ := satisfied
  have reaches := checker_root circuit.tree
  apply climb_binds (pathSteps signals.pathElements signals.pathIndices)
  · rw [pathSteps_length]
    exact free
  · rw [pathSteps_length,reaches,root]

end Octora
