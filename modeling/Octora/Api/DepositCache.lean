import Octora.Api.MixerService
import Octora.Web.Proof

namespace Octora.Api
open BigEndian BigIntText MerkleTree Relayer Web

-- A record that the program itself would confirm.
def Genuine (commitments : List (Bytes 32)) (record : PublicDepositRecord) : Prop :=
  ∃ commitment, commitments[record.leafIndex]? = some commitment ∧ record.commitment = decimal commitment.value

structure OnlyOwn (commitments : List (Bytes 32)) (service : MixerService) : Prop where
  genuine : ∀ record ∈ service.deposits, Genuine commitments record
  once : (service.deposits.map PublicDepositRecord.commitment).Nodup

def pairOf (record : PublicDepositRecord) : Text × Nat := (record.commitment,record.leafIndex)

def pairsOf (commitments : List (Bytes 32)) : List (Text × Nat) :=
  commitments.zipIdx.map fun entry => (decimal entry.1.value,entry.2)

-- Every deposit is in the cache under some index.
def Covers (commitments : List (Bytes 32)) (service : MixerService) : Prop :=
  ∀ commitment ∈ commitments, ∃ record ∈ service.deposits, record.commitment = decimal commitment.value

-- privateDeposit.ts: the browser sorts the list again and parses each commitment.
def clientLeaves (service : MixerService) : Option (List Nat) :=
  (service.listDeposits.mergeSort byIndex).mapM fun record => (bigInt record.commitment).map Int.toNat

theorem byIndex_sorted (records : List PublicDepositRecord) :
    (records.mergeSort byIndex).Pairwise fun a b => a.leafIndex ≤ b.leafIndex := by
  have transitive : ∀ a b c, byIndex a b = true → byIndex b c = true → byIndex a c = true := by
    intro a b c one two
    simp only [byIndex,decide_eq_true_eq] at one two ⊢
    omega
  have total : ∀ a b, (byIndex a b || byIndex b a) = true := by
    intro a b
    simp only [byIndex,Bool.or_eq_true,decide_eq_true_eq]
    omega
  exact (List.pairwise_mergeSort transitive total records).imp of_decide_eq_true

theorem decimal_injective (equal : decimal left = decimal right) : left = right := by
  have read := congrArg bigInt equal
  rw [bigInt_decimal,bigInt_decimal] at read
  exact Int.ofNat_inj.mp (Option.some.inj read)

theorem decimal_value (equal : decimal (Bytes.value left) = decimal right.value) : left = right :=
  Bytes.value_inj.mp (decimal_injective equal)

theorem genuine_append (genuine : Genuine commitments record) (more : List (Bytes 32)) :
    Genuine (commitments ++ more) record := by
  obtain ⟨commitment,entered,text⟩ := genuine
  have bound := (List.getElem?_eq_some_iff.mp entered).1
  exact ⟨commitment,by rw [List.getElem?_append_left bound]; exact entered,text⟩

section Complete
variable {commitments : List (Bytes 32)} {service : MixerService} (own : OnlyOwn commitments service)
  (covers : Covers commitments service) (distinct : commitments.Nodup)
include own covers distinct

theorem cached_iff (pair : Text × Nat) :
    pair ∈ service.deposits.map pairOf ↔ pair ∈ pairsOf commitments := by
  simp only [List.mem_map,pairsOf]
  constructor
  · rintro ⟨record,member,rfl⟩
    obtain ⟨commitment,entered,text⟩ := own.genuine record member
    exact ⟨(commitment,record.leafIndex),List.mk_mem_zipIdx_iff_getElem?.mpr entered,by rw [pairOf,text]⟩
  · rintro ⟨⟨commitment,k⟩,listed,rfl⟩
    have entered := List.mk_mem_zipIdx_iff_getElem?.mp listed
    obtain ⟨bound,here⟩ := List.getElem?_eq_some_iff.mp entered
    obtain ⟨record,member,text⟩ := covers commitment (List.mem_of_getElem? entered)
    obtain ⟨other,found,same⟩ := own.genuine record member
    obtain ⟨inside,there⟩ := List.getElem?_eq_some_iff.mp found
    have equal : commitments[k] = commitments[record.leafIndex] := by
      rw [here,there]
      exact decimal_value (text.symm.trans same)
    have index : k = record.leafIndex := (List.Nodup.getElem_inj_iff distinct).mp equal
    exact ⟨record,member,Prod.ext text index.symm⟩

theorem cached_perm : (service.deposits.map pairOf).Perm (pairsOf commitments) := by
  have one : (service.deposits.map pairOf).Nodup := by
    have keys := own.once
    have firsts : service.deposits.map PublicDepositRecord.commitment = (service.deposits.map pairOf).map Prod.fst := by
      rw [List.map_map]
      rfl
    rw [firsts] at keys
    exact keys.of_map Prod.fst
  have two : (pairsOf commitments).Nodup := by
    apply List.Nodup.of_map Prod.snd
    rw [pairsOf,List.map_map]
    exact (List.zipIdx_map_snd 0 commitments).symm ▸ List.nodup_range'
  exact (List.perm_ext_iff_of_nodup one two).mpr (cached_iff own covers distinct)

-- A cache that covers the chain lists it in order, without a gap.
theorem sorted_exact {records : List PublicDepositRecord} (perm : records.Perm service.deposits)
    (sorted : records.Pairwise fun a b => a.leafIndex ≤ b.leafIndex) : records.map pairOf = pairsOf commitments := by
  have same : (records.map pairOf).Perm (pairsOf commitments) :=
    (perm.map pairOf).trans (cached_perm own covers distinct)
  have unique : ∀ a b, a ∈ records.map pairOf → b ∈ pairsOf commitments → a.2 ≤ b.2 → b.2 ≤ a.2 → a = b := by
    intro a b one two low high
    have index : a.2 = b.2 := Nat.le_antisymm low high
    obtain ⟨⟨left,i⟩,listed,rfl⟩ := List.mem_map.mp (same.mem_iff.mp one)
    obtain ⟨⟨right,j⟩,present,rfl⟩ := List.mem_map.mp two
    cases index
    have equal := (List.mk_mem_zipIdx_iff_getElem?.mp listed).symm.trans (List.mk_mem_zipIdx_iff_getElem?.mp present)
    cases Option.some.inj equal
    rfl
  have left : (records.map pairOf).Pairwise fun a b => a.2 ≤ b.2 := List.pairwise_map.mpr sorted
  have right : (pairsOf commitments).Pairwise fun a b => a.2 ≤ b.2 := by
    rw [pairsOf,List.pairwise_map]
    have strict := List.pairwise_lt_range' (s := 0) (n := commitments.length)
    rw [← List.zipIdx_map_snd 0 commitments,List.pairwise_map] at strict
    exact strict.imp Nat.le_of_lt
  exact List.Perm.eq_of_pairwise unique left right same

theorem listDeposits_exact : service.listDeposits.map pairOf = pairsOf commitments :=
  sorted_exact own covers distinct (List.mergeSort_perm _ _) (byIndex_sorted _)

theorem clientLeaves_exact : clientLeaves service = some (commitments.map Bytes.value) := by
  let parse : Text × Nat → Option Nat := fun pair => (bigInt pair.1).map Int.toNat
  have ordered := sorted_exact own covers distinct
    ((List.mergeSort_perm service.listDeposits _).trans (List.mergeSort_perm service.deposits _)) (byIndex_sorted _)
  calc clientLeaves service
      = ((service.listDeposits.mergeSort byIndex).map pairOf).mapM parse := by rw [List.mapM_map]; rfl
    _ = (pairsOf commitments).mapM parse := congrArg (List.mapM parse) ordered
    _ = some (commitments.zipIdx.map fun entry => entry.1.value) := by
      rw [pairsOf,List.mapM_map]
      simp only [Function.comp_def,parse,bigInt_decimal,Option.map_some,Int.toNat_natCast]
      exact List.mapM_pure
    _ = some (commitments.map Bytes.value) := by
      have firsts := congrArg (List.map Bytes.value) (List.zipIdx_map_fst 0 commitments)
      rw [List.map_map] at firsts
      exact congrArg some firsts

end Complete

-- The tree over the chain's own commitments has the program's current root.
theorem browserTree_current {lib : FixedMerkleTree} (plain : lib.Plain)
    (valid : PoolState poseidon denomination commitments pool) :
    (browserTree commitments).root poseidon lib = some (pool.currentRoot.value : Int) := by
  have fits : commitments.length ≤ 2^TREE_LEVELS := by
    rw [← maxLeaves_exact]
    exact valid.capacity
  rw [browserRoot_exact valid.canonical plain fits,currentRoot_exact valid,treeRoot_field valid.canonical,
    fieldBytes_value]

-- What a client that asks for the deposits now would take for the root.
def clientRoot (poseidon : List Fr → Fr) (lib : FixedMerkleTree) (service : MixerService) : Option Int := do
  let leaves ← clientLeaves service
  (createMixerMerkleTree TREE_LEVELS leaves).root poseidon lib

theorem clientRoot_current {lib : FixedMerkleTree} (plain : lib.Plain)
    (valid : PoolState poseidon denomination commitments pool) (own : OnlyOwn commitments service)
    (covers : Covers commitments service) (distinct : commitments.Nodup) :
    clientRoot poseidon lib service = some (pool.currentRoot.value : Int) := by
  rw [clientRoot,clientLeaves_exact own covers distinct]
  exact browserTree_current plain valid

end Octora.Api
