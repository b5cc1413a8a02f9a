import Octora.Library.FirstWins
import Octora.Mixer.History
import Octora.Relayer.ProofConverter
import Mathlib.Data.List.Sort

namespace Octora.Api
open BigEndian BigIntText Relayer

-- mixer.service.ts. Both tables are JavaScript collections in insertion order.
structure PublicDepositRecord where
  commitment : Text
  leafIndex : Nat
  txSignature : Text

structure MixerService where
  deposits : List PublicDepositRecord
  knownNullifiers : List Text

def emptyService : MixerService := ⟨[],[]⟩

def integerText (value : Int) : Text := if value < 0 then '-' :: decimal value.natAbs else decimal value.toNat

def MixerService.recordDeposit (service : MixerService) (commitment : Int) (leafIndex : Nat) (txSignature : Text) :
    MixerService :=
  { service with
    deposits := FirstWins.put PublicDepositRecord.commitment service.deposits
      ⟨integerText commitment,leafIndex,txSignature⟩ }

-- mixer.controller.ts: a text that is no number throws before anything is recorded.
def MixerService.confirmDeposit (service : MixerService) (commitment : Text) (leafIndex : Nat) (txSignature : Text) :
    Option MixerService :=
  (bigInt commitment).map fun value => service.recordDeposit value leafIndex txSignature

def byIndex (a b : PublicDepositRecord) : Bool := decide (a.leafIndex ≤ b.leafIndex)

def MixerService.listDeposits (service : MixerService) : List PublicDepositRecord := service.deposits.mergeSort byIndex

def MixerService.recordWithdrawal (service : MixerService) (nullifierHashDecimal : Text) : MixerService :=
  { service with knownNullifiers := FirstWins.put id service.knownNullifiers nullifierHashDecimal }

structure Snapshot where
  nextLeafIndex : Nat
  withdrawalCount : Nat
  anonymitySet : Nat

structure AnonymitySetTooThinError where
  current : Nat
  required : Nat
  denomination : Nat

-- `nextLeafIndex` is none when the pool status could not be read.
def MixerService.getAnonymitySetSnapshot (service : MixerService) (status : Option Nat) : Snapshot :=
  let nextLeafIndex := status.getD 0
  let withdrawalCount := service.knownNullifiers.length
  ⟨nextLeafIndex,withdrawalCount,max 0 (nextLeafIndex - withdrawalCount)⟩

def MixerService.assertAnonymitySetSatisfied (service : MixerService) (MIN_ANONYMITY_SET denomination : Nat)
    (status : Option Nat) : Except AnonymitySetTooThinError Unit :=
  if MIN_ANONYMITY_SET ≤ 0 then .ok ()
  else
    let snap := service.getAnonymitySetSnapshot status
    if snap.anonymitySet < MIN_ANONYMITY_SET then .error ⟨snap.anonymitySet,MIN_ANONYMITY_SET,denomination⟩
    else .ok ()

def readUInt32LE (payload : List UInt8) (offset : Nat) : Nat := value ((payload.drop offset).take 4).reverse

def hexNumber (bytes : List UInt8) : Nat := ((bigInt (['0','x'] ++ hexText bytes)).getD 0).toNat

-- One `Program data:` payload of the scan.
def scanLine (signature : Text) (service : MixerService) (payload : List UInt8) : MixerService :=
  if payload.length < 8 + 32 then service
  else if payload.take 8 = depositDiscriminator then
    if payload.length < 8 + 32 + 4 then service
    else { service with
      deposits := FirstWins.put PublicDepositRecord.commitment service.deposits
        ⟨decimal (hexNumber ((payload.drop 8).take 32)),readUInt32LE payload 40,signature⟩ }
  else if payload.take 8 = withdrawDiscriminator then
    { service with
      knownNullifiers := FirstWins.put id service.knownNullifiers (decimal (hexNumber ((payload.drop 8).take 32))) }
  else service

-- Which RPC calls of one scan fail: a page of signatures, or the fetch of one
-- transaction (an error or a null answer).
structure Rpc where
  pageFails : Nat → Bool
  fetchFails : Text → Bool

def healthyRpc : Rpc := ⟨fun _ => false,fun _ => false⟩

def collectSignatures (rpc : Rpc) : (pages page : Nat) → List ChainTransaction → List ChainTransaction
  | 0,_,_ => []
  | pages+1,page,newestFirst =>
    if rpc.pageFails page then []
    else
      let batch := newestFirst.take 1000
      if batch.length = 0 then []
      else if batch.length < 1000 then batch
      else batch ++ collectSignatures rpc pages (page+1) (newestFirst.drop 1000)

def scanTransaction (rpc : Rpc) (service : MixerService) (tx : ChainTransaction) : MixerService :=
  if tx.err then service
  else if rpc.fetchFails tx.signature then service
  else tx.logs.foldl (fun service line =>
    match line with
    | some payload => scanLine tx.signature service payload
    | none => service) service

structure HydrateResult where
  scannedSignatures : Nat
  depositsLoaded : Nat
  withdrawalsLoaded : Nat

def signaturesOf (rpc : Rpc) (maxPages : Nat) (poolPDA : Pubkey) (history : List ChainTransaction) :
    List ChainTransaction :=
  (collectSignatures rpc maxPages 0 (history.filter fun tx => decide (poolPDA ∈ tx.accounts)).reverse).reverse

-- Every insertion counts one, so the counters are the growth of the tables.
def hydrateFromChain (rpc : Rpc) (maxPages : Nat) (poolPDA : Pubkey) (history : List ChainTransaction)
    (service : MixerService) : MixerService × HydrateResult :=
  let signatures := signaturesOf rpc maxPages poolPDA history
  let result := signatures.foldl (scanTransaction rpc) service
  (result,⟨signatures.length,result.deposits.length - service.deposits.length,
    result.knownNullifiers.length - service.knownNullifiers.length⟩)

-- What one line, and one transaction, offers to each table.
def depositLine (signature : Text) (payload : List UInt8) : Option PublicDepositRecord :=
  if 8 + 32 + 4 ≤ payload.length ∧ payload.take 8 = depositDiscriminator then
    some ⟨decimal (hexNumber ((payload.drop 8).take 32)),readUInt32LE payload 40,signature⟩
  else none

def withdrawLine (payload : List UInt8) : Option Text :=
  if 8 + 32 ≤ payload.length ∧ payload.take 8 = withdrawDiscriminator then
    some (decimal (hexNumber ((payload.drop 8).take 32)))
  else none

def offeredDeposits (tx : ChainTransaction) : List PublicDepositRecord :=
  (tx.logs.filterMap id).filterMap (depositLine tx.signature)

def offeredNullifiers (tx : ChainTransaction) : List Text := (tx.logs.filterMap id).filterMap withdrawLine

def scanned (rpc : Rpc) (maxPages : Nat) (poolPDA : Pubkey) (history : List ChainTransaction) : List ChainTransaction :=
  (signaturesOf rpc maxPages poolPDA history).filter fun tx => !tx.err && !rpc.fetchFails tx.signature

theorem scanLine_exact (signature : Text) (service : MixerService) (payload : List UInt8) :
    scanLine signature service payload =
      ⟨FirstWins.load PublicDepositRecord.commitment service.deposits (depositLine signature payload).toList,
        FirstWins.load id service.knownNullifiers (withdrawLine payload).toList⟩ := by
  have apart : depositDiscriminator ≠ withdrawDiscriminator := by decide
  unfold scanLine depositLine withdrawLine
  by_cases short : payload.length < 8 + 32
  · rw [if_pos short,if_neg (by omega),if_neg (by omega)]
    rfl
  · have long : 8 + 32 ≤ payload.length := by omega
    by_cases deposit : payload.take 8 = depositDiscriminator
    · have other : payload.take 8 ≠ withdrawDiscriminator := fun withdraw => apart (deposit.symm.trans withdraw)
      simp only [if_neg short,if_pos deposit,if_neg fun both => other (And.right both)]
      by_cases whole : 8 + 32 + 4 ≤ payload.length
      · simp only [if_neg (show ¬payload.length < 8 + 32 + 4 by omega),if_pos (And.intro whole deposit)]
        rfl
      · simp only [if_pos (show payload.length < 8 + 32 + 4 by omega),if_neg fun both => whole (And.left both)]
        rfl
    · by_cases withdraw : payload.take 8 = withdrawDiscriminator
      · simp only [if_neg short,if_neg deposit,if_pos withdraw,if_neg fun both => deposit (And.right both),
          if_pos (And.intro long withdraw)]
        rfl
      · simp only [if_neg short,if_neg deposit,if_neg withdraw,if_neg fun both => deposit (And.right both),
          if_neg fun both => withdraw (And.right both)]
        rfl

theorem scanLines_exact (signature : Text) (logs : List (Option (List UInt8))) (service : MixerService) :
    logs.foldl (fun service line =>
      match line with
      | some payload => scanLine signature service payload
      | none => service) service =
      ⟨FirstWins.load PublicDepositRecord.commitment service.deposits
          ((logs.filterMap id).filterMap (depositLine signature)),
        FirstWins.load id service.knownNullifiers ((logs.filterMap id).filterMap withdrawLine)⟩ := by
  induction logs generalizing service with
  | nil => rfl
  | cons line rest ih =>
    rw [List.foldl_cons,ih]
    cases line with
    | none => rfl
    | some payload =>
      simp only [scanLine_exact,List.filterMap_cons,id_eq]
      cases depositLine signature payload <;> cases withdrawLine payload <;> rfl

theorem hydrate_exact (rpc : Rpc) (maxPages : Nat) (poolPDA : Pubkey) (history : List ChainTransaction)
    (service : MixerService) : (hydrateFromChain rpc maxPages poolPDA history service).1 =
      ⟨FirstWins.load PublicDepositRecord.commitment service.deposits
          ((scanned rpc maxPages poolPDA history).flatMap offeredDeposits),
        FirstWins.load id service.knownNullifiers
          ((scanned rpc maxPages poolPDA history).flatMap offeredNullifiers)⟩ := by
  simp only [hydrateFromChain,scanned]
  generalize signaturesOf rpc maxPages poolPDA history = signatures
  induction signatures generalizing service with
  | nil => rfl
  | cons tx rest ih =>
    rw [List.foldl_cons,ih,List.filter_cons]
    unfold scanTransaction
    cases failed : tx.err with
    | true => simp
    | false =>
      cases missing : rpc.fetchFails tx.signature with
      | true => simp
      | false =>
        simp only [Bool.false_eq_true,if_false,Bool.not_false,Bool.and_self,if_true,scanLines_exact,
          List.flatMap_cons,FirstWins.load,List.foldl_append]
        rfl

theorem collect_all (pages page : Nat) (newestFirst : List ChainTransaction)
    (bounded : newestFirst.length ≤ pages * 1000) (healthy : ∀ p, rpc.pageFails p = false) :
    collectSignatures rpc pages page newestFirst = newestFirst := by
  induction pages generalizing page newestFirst with
  | zero =>
    have none : newestFirst = [] := List.length_eq_zero_iff.mp (by omega)
    rw [none]
    rfl
  | succ pages ih =>
    unfold collectSignatures
    rw [healthy]
    simp only [Bool.false_eq_true,if_false]
    split
    · rename_i empty
      rw [List.length_take] at empty
      exact (List.length_eq_zero_iff.mp (by omega)).symm
    · split
      · rename_i _ short
        rw [List.length_take] at short
        exact List.take_of_length_le (by omega)
      · rw [ih (page+1) _ (by rw [List.length_drop]; omega),List.take_append_drop]

theorem collect_subset (pages page : Nat) (newestFirst : List ChainTransaction) :
    ∀ tx ∈ collectSignatures rpc pages page newestFirst, tx ∈ newestFirst := by
  induction pages generalizing page newestFirst with
  | zero => nofun
  | succ pages ih =>
    intro tx member
    unfold collectSignatures at member
    dsimp only at member
    split at member
    · cases member
    · split at member
      · cases member
      · split at member
        · exact List.mem_of_mem_take member
        · rcases List.mem_append.mp member with here | later
          · exact List.mem_of_mem_take here
          · exact List.mem_of_mem_drop (ih _ _ tx later)

theorem mem_scanned (member : tx ∈ scanned rpc maxPages poolPDA history) :
    tx ∈ history ∧ poolPDA ∈ tx.accounts ∧ tx.err = false := by
  obtain ⟨listed,kept⟩ := List.mem_filter.mp member
  have found := collect_subset _ _ _ tx (List.mem_reverse.mp listed)
  obtain ⟨here,named⟩ := List.mem_filter.mp (List.mem_reverse.mp found)
  simp only [Bool.and_eq_true,Bool.not_eq_true'] at kept
  exact ⟨here,of_decide_eq_true named,kept.1⟩

-- The transactions a scan ought to read.
def relevant (poolPDA : Pubkey) (history : List ChainTransaction) : List ChainTransaction :=
  history.filter fun tx => decide (poolPDA ∈ tx.accounts) && !tx.err

theorem scanned_fetched (healthy : ∀ p, rpc.pageFails p = false)
    (bounded : (history.filter fun tx => decide (poolPDA ∈ tx.accounts)).length ≤ maxPages * 1000) :
    scanned rpc maxPages poolPDA history =
      (relevant poolPDA history).filter fun tx => !rpc.fetchFails tx.signature := by
  have all := collect_all maxPages 0 (history.filter fun tx => decide (poolPDA ∈ tx.accounts)).reverse
    (by rwa [List.length_reverse]) healthy
  rw [scanned,signaturesOf,all,List.reverse_reverse,relevant,List.filter_filter,List.filter_filter]
  apply List.filter_congr
  intro tx _
  cases tx.err <;> cases rpc.fetchFails tx.signature <;> simp

end Octora.Api
