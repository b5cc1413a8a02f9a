import Octora.Api.DepositCache
import Octora.Mixer.Completeness

namespace Octora.Api
open BigEndian BigIntText MerkleTree Relayer Web

theorem hexNumber_exact (bytes : Bytes (n+1)) : hexNumber bytes.toList = bytes.value := by
  have solid : bytes.toList ≠ [] := by
    intro empty
    have width := bytes.toList_length
    rw [empty] at width
    cases width
  have read := bigInt_hex bytes.toList solid
  rw [hexNumber]
  simp only [hexText,List.cons_append,List.nil_append,read,Option.getD_some,Int.toNat_natCast]
  rfl

theorem depositLine_event (small : k < 2^32) (signature : Text) (commitment : Bytes 32) (now : Int) :
    depositLine signature (eventPayload (.deposit ⟨commitment,k,now⟩)) =
      some ⟨decimal commitment.value,k,signature⟩ := by
  have head : depositDiscriminator.length = 8 := rfl
  have body : commitment.toList.length = 32 := commitment.toList_length
  have index : (littleEndian 4 k).length = 4 := by simp [littleEndian]
  have long : 8 + 32 + 4 ≤ (eventPayload (.deposit ⟨commitment,k,now⟩)).length := by
    simp [eventPayload,head,body,index]
    omega
  have start : (eventPayload (.deposit ⟨commitment,k,now⟩)).take 8 = depositDiscriminator := by
    simp [eventPayload,List.append_assoc,head]
  have taken : ((eventPayload (.deposit ⟨commitment,k,now⟩)).drop 8).take 32 = commitment.toList := by
    simp [eventPayload,List.append_assoc,head,body]
  have read : readUInt32LE (eventPayload (.deposit ⟨commitment,k,now⟩)) 40 = k := by
    have field : ((eventPayload (.deposit ⟨commitment,k,now⟩)).drop 40).take 4 = littleEndian 4 k := by
      have past : depositDiscriminator.drop 40 = [] := rfl
      simp [eventPayload,List.append_assoc,List.drop_append,head,body,past,List.take_left' index]
    rw [readUInt32LE,field,littleEndian,List.reverse_reverse]
    exact value_digits 4 k small
  rw [depositLine,if_pos ⟨long,start⟩,taken,read,hexNumber_exact]

-- The first deposit line of each commitment in each transaction the scan may
-- read is a deposit into this pool, under the index the program gave it.
def FirstLinesGenuine (poolKey : Pubkey) (history : List ChainTransaction) : Prop :=
  ∀ tx ∈ relevant poolKey history, ∀ record,
    (offeredDeposits tx).find? (fun other => other.commitment = record.commitment) = some record →
      Genuine (depositsOf poolKey history) record

theorem hydrate_own (clean : FirstLinesGenuine poolKey history) (rpc : Rpc) (maxPages : Nat)
    (own : OnlyOwn (depositsOf poolKey history) service) :
    OnlyOwn (depositsOf poolKey history) (hydrateFromChain rpc maxPages poolKey history service).1 := by
  rw [hydrate_exact]
  refine ⟨?_,FirstWins.load_nodup own.once _⟩
  intro record member
  rcases FirstWins.load_first member with old | ⟨first,_⟩
  · exact own.genuine record old
  · rw [List.find?_flatMap] at first
    obtain ⟨tx,here,found⟩ := List.exists_of_findSome?_eq_some first
    obtain ⟨inside,named,succeeded⟩ := mem_scanned here
    exact clean tx (List.mem_filter.mpr ⟨inside,by simp [named,succeeded]⟩) record found

section Chain
variable {env : Runtime} {poolKey : Pubkey} {start ledger : Ledger} {history : List ChainTransaction}
  (unsigned : env.canSign poolKey = false) (zeros : ZeroChain env.poseidon)
  (initial : Tracked env poolKey denomination base [] [] 0 start) (chain : History env start history ledger)
include unsigned zeros initial chain

-- Every deposit stands in the log of some transaction the scan ought to read.
theorem deposit_offered (entered : (depositsOf poolKey history)[k]? = some commitment) :
    ∃ tx ∈ relevant poolKey history, ⟨decimal commitment.value,k,tx.signature⟩ ∈ offeredDeposits tx := by
  obtain ⟨receipt,member,logged⟩ := runs_logged unsigned zeros initial chain.runs entered
  obtain ⟨tx,inside,carried⟩ := List.mem_flatMap.mp member
  have sound := chain.sound tx inside
  obtain ⟨now,events⟩ := logged.logged
  obtain ⟨pool,loaded,valid⟩ := (runs_tracked unsigned zeros initial chain.runs).pool
  have small : k < 2^32 := by
    have bound := (List.getElem?_eq_some_iff.mp entered).1
    have capacity : (depositsOf poolKey history).length ≤ MAX_LEAVES := valid.capacity
    have width : MAX_LEAVES < 2^32 := by decide
    omega
  cases receipt with
  | submitted before instruction result =>
    obtain ⟨succeeded,used⟩ := carrier_named sound carried
    have named : poolKey ∈ tx.accounts := by
      cases instruction <;> cases result <;> try cases logged.deposited
      have deposited := logged.deposited
      simp only [depositOf] at deposited
      split at deposited
      · rename_i own
        rw [← own]
        exact used
      · cases deposited
    refine ⟨tx,List.mem_filter.mpr ⟨inside,by simp [named,succeeded]⟩,?_⟩
    have line := sound.logged _ carried _ (by rw [events]; exact List.mem_singleton_self _)
    exact List.mem_filterMap.mpr ⟨_,List.mem_filterMap.mpr ⟨_,line,rfl⟩,depositLine_event small _ _ _⟩
  | rolledBack => cases logged.deposited
  | external _ => cases logged.deposited

theorem hydrate_covers (healthy : (∀ p, rpc.pageFails p = false) ∧ ∀ signature, rpc.fetchFails signature = false)
    (bounded : (history.filter fun tx => decide (poolKey ∈ tx.accounts)).length ≤ maxPages * 1000)
    (service : MixerService) :
    Covers (depositsOf poolKey history) (hydrateFromChain rpc maxPages poolKey history service).1 := by
  intro commitment member
  obtain ⟨k,entered⟩ := List.mem_iff_getElem?.mp member
  obtain ⟨tx,here,offered⟩ := deposit_offered unsigned zeros initial chain entered
  have all : scanned rpc maxPages poolKey history = relevant poolKey history := by
    rw [scanned_fetched healthy.1 bounded]
    exact List.filter_eq_self.mpr fun tx _ => by rw [healthy.2]; rfl
  rw [hydrate_exact,all]
  obtain ⟨found,inside,same⟩ := FirstWins.load_has PublicDepositRecord.commitment service.deposits
    (List.mem_flatMap.mpr ⟨tx,here,offered⟩)
  exact ⟨found,inside,same⟩

omit unsigned zeros initial in
-- A scan in which every fetch but one fails reads one transaction.
theorem scanned_single (here : tx ∈ relevant poolKey history)
    (bounded : (history.filter fun tx => decide (poolKey ∈ tx.accounts)).length ≤ maxPages * 1000) :
    scanned ⟨fun _ => false,fun signature => decide (signature ≠ tx.signature)⟩ maxPages poolKey history = [tx] := by
  rw [scanned_fetched (fun _ => rfl) bounded]
  have distinct : ((relevant poolKey history).map ChainTransaction.signature).Nodup :=
    chain.signatures.sublist (List.filter_sublist.map _)
  rw [← FirstWins.filter_single distinct here]
  apply List.filter_congr
  intro other _
  simp

end Chain

theorem hydrate_faithful {lib : FixedMerkleTree} (plain : lib.Plain) (zeros : ZeroChain env.poseidon)
    (created : execute env now before (.initializePool authority poolKey denomination) = .ok (start,events))
    (chain : History env start history ledger)
    (bounded : (history.filter fun tx => decide (poolKey ∈ tx.accounts)).length ≤ maxPages * 1000) :
    ((∀ rpc, OnlyOwn (depositsOf poolKey history) (hydrateFromChain rpc maxPages poolKey history emptyService).1) ∧
      ∀ rpc : Rpc, (∀ p, rpc.pageFails p = false) → (∀ signature, rpc.fetchFails signature = false) →
        (hydrateFromChain rpc maxPages poolKey history emptyService).1.listDeposits.map pairOf =
          pairsOf (depositsOf poolKey history) ∧
        ∃ pool, (ledger poolKey).data = .pool pool ∧
          clientRoot env.poseidon lib (hydrateFromChain rpc maxPages poolKey history emptyService).1 =
            some (pool.currentRoot.value : Int)) ↔
    FirstLinesGenuine poolKey history := by
  cases execute_exact created with
  | created made =>
    have unsigned := created_unsigned made
    have initial := created_tracked zeros made fun i => ZERO_HASHES i
    rw [reseed_initial made] at initial
    have tracked := runs_tracked unsigned zeros initial chain.runs
    have nothing : OnlyOwn (depositsOf poolKey history) emptyService := ⟨nofun,List.nodup_nil⟩
    constructor
    · rintro ⟨own,_⟩ tx here record first
      have alone := own ⟨fun _ => false,fun signature => decide (signature ≠ tx.signature)⟩
      apply alone.genuine
      rw [hydrate_exact,scanned_single chain here bounded]
      refine FirstWins.load_found ?_ nofun
      simpa using first
    · intro clean
      refine ⟨fun rpc => hydrate_own clean rpc maxPages nothing,fun rpc pages fetches => ?_⟩
      have own := hydrate_own clean rpc maxPages nothing
      have covers := hydrate_covers unsigned zeros initial chain ⟨pages,fetches⟩ bounded emptyService
      obtain ⟨pool,loaded,valid⟩ := tracked.pool
      exact ⟨listDeposits_exact own covers tracked.distinct,pool,loaded,
        clientRoot_current plain valid own covers tracked.distinct⟩

def sampleTransaction (start : Ledger) : ChainTransaction where
  signature := "5VERv8".toList
  err := false
  accounts := [sampleDepositor,samplePool,sampleCommitmentAccount]
  receipts := [.submitted start sampleDeposit (submit sampleRuntime 0 start sampleDeposit).2]
  logs := [none,some (eventPayload (.deposit ⟨sampleCommitment,0,0⟩)),none]

theorem sample_chain (landed : (submit sampleRuntime 0 start sampleDeposit).2 = .ok [.deposit ⟨sampleCommitment,0,0⟩]) :
    History sampleRuntime start [sampleTransaction start] (submit sampleRuntime 0 start sampleDeposit).1 where
  runs := sample_path start
  sound := by
    intro tx member
    rw [List.mem_singleton.mp member]
    refine ⟨nofun,?_,?_⟩
    · intro receipt carried event emitted
      rw [List.mem_singleton.mp carried,landed] at emitted
      rw [List.mem_singleton.mp emitted]
      simp [sampleTransaction]
    · intro before instruction result carried
      cases List.mem_singleton.mp carried
      simp [sampleTransaction,sampleDeposit,Instruction.pool]
  signatures := List.nodup_singleton _

theorem sample_genuine (landed : (submit sampleRuntime 0 start sampleDeposit).2 = .ok [.deposit ⟨sampleCommitment,0,0⟩]) :
    FirstLinesGenuine samplePool [sampleTransaction start] := by
  have deposits : depositsOf samplePool [sampleTransaction start] = [sampleCommitment] := sample_history landed
  have offered : offeredDeposits (sampleTransaction start) =
      [⟨decimal sampleCommitment.value,0,"5VERv8".toList⟩] := by
    have line := depositLine_event (k := 0) (by decide) "5VERv8".toList sampleCommitment 0
    simp only [offeredDeposits,sampleTransaction,List.filterMap_cons,List.filterMap_nil,id_eq,line]
  intro tx here record first
  rw [List.mem_singleton.mp (List.mem_filter.mp here).1,offered] at first
  rw [deposits]
  have same := List.mem_singleton.mp (List.mem_of_find?_eq_some first)
  refine ⟨sampleCommitment,?_,?_⟩
  · simp only [same,List.getElem?_cons_zero]
  · simp only [same]

theorem hydrate_faithful_sample : ∃ start history ledger pool,
    execute sampleRuntime 0 sampleGenesis (.initializePool ADMIN_AUTHORITY samplePool sampleDenomination) =
      .ok (start,[]) ∧
    History sampleRuntime start history ledger ∧ depositsOf samplePool history = [sampleCommitment] ∧
    (ledger samplePool).data = .pool pool ∧
    clientRoot tablePoseidon plainTree (hydrateFromChain healthyRpc 1 samplePool history emptyService).1 =
      some (pool.currentRoot.value : Int) := by
  obtain ⟨start,created⟩ := sample_created
  have landed := (sample_lands created).1
  have bounded : ([sampleTransaction start].filter fun tx => decide (samplePool ∈ tx.accounts)).length ≤ 1 * 1000 :=
    (List.length_filter_le _ _).trans (by simp)
  obtain ⟨_,pool,loaded,root⟩ := ((hydrate_faithful plainTree_plain zeroChain_known created (sample_chain landed)
    bounded).mpr (sample_genuine landed)).2 healthyRpc (fun _ => rfl) fun _ => rfl
  exact ⟨start,_,_,pool,created,sample_chain landed,sample_history landed,loaded,root⟩

-- A transfer to the pool in a transaction where another program prints the
-- bytes of a DepositEvent.
def foreignTransaction : ChainTransaction where
  signature := "3fake".toList
  err := false
  accounts := [sampleRelayer,samplePool]
  receipts := []
  logs := [some (eventPayload (.deposit ⟨Bytes.ofNat 32 5,7,0⟩))]

theorem foreign_line_cached : ∃ start,
    execute sampleRuntime 0 sampleGenesis (.initializePool ADMIN_AUTHORITY samplePool sampleDenomination) =
      .ok (start,[]) ∧
    History sampleRuntime start [foreignTransaction] start ∧ depositsOf samplePool [foreignTransaction] = [] ∧
    ((hydrateFromChain healthyRpc 1 samplePool [foreignTransaction] emptyService).1.deposits.map pairOf) =
      [(decimal 5,7)] ∧
    ¬OnlyOwn (depositsOf samplePool [foreignTransaction])
      (hydrateFromChain healthyRpc 1 samplePool [foreignTransaction] emptyService).1 := by
  obtain ⟨start,created⟩ := sample_created
  have chain : History sampleRuntime start [foreignTransaction] start := by
    refine ⟨.nil,?_,List.nodup_singleton _⟩
    intro tx member
    rw [List.mem_singleton.mp member]
    exact ⟨nofun,nofun,nofun⟩
  have cached : (hydrateFromChain healthyRpc 1 samplePool [foreignTransaction] emptyService).1.deposits.map pairOf =
      [(decimal 5,7)] := by decide
  refine ⟨start,created,chain,rfl,cached,?_⟩
  intro own
  obtain ⟨record,member,_⟩ := List.mem_map.mp (cached ▸ List.mem_singleton_self (decimal 5,7))
  obtain ⟨_,entered,_⟩ := own.genuine record member
  cases entered

end Octora.Api
