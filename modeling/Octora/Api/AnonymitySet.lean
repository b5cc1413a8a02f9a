import Octora.Api.Hydration

namespace Octora.Api.AnonymitySet
open BigEndian BigIntText MerkleTree Relayer

structure World where
  history : List ChainTransaction
  ledger : Ledger
  service : MixerService

inductive Action where
  | chain (tx : ChainTransaction)
  | callback (nullifierHash : Text)
  | hydrate (rpc : Rpc) (maxPages : Nat)

def World.spends (poolKey : Pubkey) (world : World) : List WithdrawRequest := spendsOf poolKey world.history

-- A text that names the nullifier of a withdrawal from this pool.
def Names (poolKey : Pubkey) (world : World) (text : Text) : Prop :=
  ∃ request ∈ world.spends poolKey, bigInt text = some ((inputNullifierHash request.inputs).value : Int)

-- The relayer calls back with the text of a request it withdrew for: parity has
-- parsed it to the nullifier that landed.
inductive Step (env : Runtime) (poolKey : Pubkey) : World → Action → World → Prop where
  | chain (run : Runs env world.ledger tx.receipts ledger) (sound : tx.Sound)
      (fresh : tx.signature ∉ world.history.map ChainTransaction.signature) :
      Step env poolKey world (.chain tx) ⟨world.history ++ [tx],ledger,world.service⟩
  | callback (landed : Names poolKey world text) :
      Step env poolKey world (.callback text) ⟨world.history,world.ledger,world.service.recordWithdrawal text⟩
  | hydrate : Step env poolKey world (.hydrate rpc maxPages)
      ⟨world.history,world.ledger,(hydrateFromChain rpc maxPages poolKey world.history world.service).1⟩

inductive Reached (env : Runtime) (poolKey : Pubkey) (first : World) : List (World × Action) → World → Prop where
  | nil : Reached env poolKey first [] first
  | step (prior : Reached env poolKey first trace before) (step : Step env poolKey before action after) :
      Reached env poolKey first (trace ++ [(before,action)]) after

-- The set spells a number the way `text` does, if it holds it at all.
def SameSpelling (service : MixerService) (text : Text) : Prop :=
  ∀ known ∈ service.knownNullifiers, bigInt known = bigInt text → known = text

-- The condition on one step. A scan's lines must be this pool's own, and what
-- is entered must not stand in the set under another spelling.
def CountHolds (poolKey : Pubkey) (world : World) : Action → Prop
  | .chain _ => True
  | .callback text => SameSpelling world.service text
  | .hydrate rpc maxPages => ∀ text ∈ (scanned rpc maxPages poolKey world.history).flatMap offeredNullifiers,
      Names poolKey world text ∧ SameSpelling world.service text

structure Counted (poolKey : Pubkey) (world : World) : Prop where
  once : world.service.knownNullifiers.Pairwise fun a b => bigInt a ≠ bigInt b
  spent : ∀ text ∈ world.service.knownNullifiers, Names poolKey world text

-- What the counter is for: it never exceeds the pool's withdrawals, and the
-- gate lets a withdrawal through whenever enough deposits are unspent.
structure World.Correct (poolKey : Pubkey) (world : World) : Prop extends Counted poolKey world where
  bounded : world.service.knownNullifiers.length ≤ (world.spends poolKey).length
  gate : ∀ pool MIN_ANONYMITY_SET denomination, (world.ledger poolKey).data = .pool pool →
    MIN_ANONYMITY_SET ≤ pool.nextLeafIndex - (world.spends poolKey).length →
    world.service.assertAnonymitySetSatisfied MIN_ANONYMITY_SET denomination (some pool.nextLeafIndex) = .ok ()

-- A scan without a failure that reaches the whole history.
def Complete (poolKey : Pubkey) (world : World) : Action → Prop
  | .hydrate rpc maxPages => (∀ p, rpc.pageFails p = false) ∧ (∀ signature, rpc.fetchFails signature = false) ∧
      (world.history.filter fun tx => decide (poolKey ∈ tx.accounts)).length ≤ maxPages * 1000
  | _ => False

def spentNumbers (poolKey : Pubkey) (world : World) : List (Option Int) :=
  (world.spends poolKey).map fun request => some ((inputNullifierHash request.inputs).value : Int)

theorem counted_bounded (counted : Counted poolKey world) :
    world.service.knownNullifiers.length ≤ (world.spends poolKey).length := by
  have distinct : (world.service.knownNullifiers.map bigInt).Nodup := List.pairwise_map.mpr counted.once
  have inside : world.service.knownNullifiers.map bigInt ⊆ spentNumbers poolKey world := by
    intro number member
    obtain ⟨text,known,rfl⟩ := List.mem_map.mp member
    obtain ⟨request,landed,reads⟩ := counted.spent text known
    exact List.mem_map.mpr ⟨request,landed,reads.symm⟩
  have lengths := distinct.length_le_of_subset inside
  simpa [spentNumbers] using lengths

theorem counted_correct (counted : Counted poolKey world) : world.Correct poolKey := by
  have bounded := counted_bounded counted
  refine ⟨counted,bounded,?_⟩
  intro pool MIN_ANONYMITY_SET denomination _ enough
  unfold MixerService.assertAnonymitySetSatisfied
  split
  · rfl
  · rw [if_neg]
    simp only [MixerService.getAnonymitySetSnapshot,Option.getD_some]
    omega

theorem names_append (names : Names poolKey world text) (tx : ChainTransaction) :
    Names poolKey ⟨world.history ++ [tx],ledger,service⟩ text := by
  obtain ⟨request,member,reads⟩ := names
  refine ⟨request,?_,reads⟩
  simp only [World.spends,spendsOf,withdrawalsOf,List.flatMap_append,List.filterMap_append] at member ⊢
  exact List.mem_append_left _ member

-- Entering a text keeps the numbers apart exactly when its spelling is the set's.
theorem put_once (once : List.Pairwise (fun a b : Text => bigInt a ≠ bigInt b) table)
    (same : ∀ known ∈ table, bigInt known = bigInt text → known = text) :
    (FirstWins.put id table text).Pairwise fun a b => bigInt a ≠ bigInt b := by
  unfold FirstWins.put
  split
  · exact once
  · rename_i absent
    refine List.pairwise_append.mpr ⟨once,List.pairwise_singleton _ _,?_⟩
    intro known here other last
    rw [List.mem_singleton.mp last]
    exact fun equal => absent ⟨known,here,same known here equal⟩

theorem once_nodup (once : List.Pairwise (fun a b : Text => bigInt a ≠ bigInt b) table) : (table.map bigInt).Nodup :=
  List.pairwise_map.mpr once

theorem load_once (once : List.Pairwise (fun a b : Text => bigInt a ≠ bigInt b) table)
    (same : ∀ text ∈ texts, ∀ known ∈ table, bigInt known = bigInt text → known = text)
    (agree : ∀ left ∈ texts, ∀ right ∈ texts, bigInt left = bigInt right → left = right) :
    (FirstWins.load id table texts).Pairwise fun a b => bigInt a ≠ bigInt b := by
  induction texts generalizing table with
  | nil => exact once
  | cons text rest ih =>
    apply ih (put_once once (same text List.mem_cons_self))
    · intro later member known here equal
      rcases FirstWins.mem_put here with old | ⟨rfl,_⟩
      · exact same later (List.mem_cons_of_mem _ member) known old equal
      · exact agree known List.mem_cons_self later (List.mem_cons_of_mem _ member) equal
    · intro left one right two
      exact agree left (List.mem_cons_of_mem _ one) right (List.mem_cons_of_mem _ two)

theorem offered_decimal (member : text ∈ offeredNullifiers tx) : ∃ n, text = decimal n := by
  obtain ⟨payload,_,line⟩ := List.mem_filterMap.mp member
  unfold withdrawLine at line
  split at line
  · exact ⟨_,(Option.some.inj line).symm⟩
  · cases line

theorem offered_agree (left : Text) (one : left ∈ List.flatMap offeredNullifiers txs) (right : Text)
    (two : right ∈ List.flatMap offeredNullifiers txs) (equal : bigInt left = bigInt right) : left = right := by
  obtain ⟨_,_,here⟩ := List.mem_flatMap.mp one
  obtain ⟨_,_,there⟩ := List.mem_flatMap.mp two
  obtain ⟨m,rfl⟩ := offered_decimal here
  obtain ⟨n,rfl⟩ := offered_decimal there
  rw [bigInt_decimal,bigInt_decimal] at equal
  rw [Int.ofNat_inj.mp (Option.some.inj equal)]

theorem step_counted (counted : Counted poolKey before) (step : Step env poolKey before action after)
    (holds : CountHolds poolKey before action) : Counted poolKey after := by
  cases step with
  | chain run sound fresh => exact ⟨counted.once,fun text known => names_append (counted.spent text known) _⟩
  | callback landed =>
    refine ⟨put_once counted.once holds,?_⟩
    intro text known
    rcases FirstWins.mem_put known with old | ⟨rfl,_⟩
    · exact counted.spent text old
    · exact landed
  | hydrate =>
    simp only [hydrate_exact]
    refine ⟨load_once counted.once (fun text offered => (holds text offered).2) offered_agree,?_⟩
    intro text known
    rcases FirstWins.load_first known with old | ⟨first,_⟩
    · exact counted.spent text old
    · exact (holds text (List.mem_of_find?_eq_some first)).1

-- A step that leaves the set right has met the condition.
theorem counted_holds (step : Step env poolKey before action after) (counted : Counted poolKey after) :
    CountHolds poolKey before action := by
  have distinct := once_nodup counted.once
  cases step with
  | chain _ _ _ => trivial
  | callback landed =>
    intro known here equal
    obtain ⟨found,present,same⟩ := FirstWins.put_has id before.service.knownNullifiers _
    cases same
    exact List.inj_on_of_nodup_map distinct (FirstWins.put_keeps here _) present equal
  | hydrate =>
    simp only [hydrate_exact] at distinct counted
    intro text offered
    obtain ⟨found,present,same⟩ := FirstWins.load_has id before.service.knownNullifiers offered
    cases same
    refine ⟨counted.spent _ present,?_⟩
    intro known here equal
    exact List.inj_on_of_nodup_map distinct (FirstWins.load_keeps here _) present equal

theorem withdrawLine_event (event : WithdrawEvent) :
    withdrawLine (eventPayload (.withdraw event)) = some (decimal event.nullifierHash.value) := by
  have head : withdrawDiscriminator.length = 8 := rfl
  have body : event.nullifierHash.toList.length = 32 := event.nullifierHash.toList_length
  have long : 8 + 32 ≤ (eventPayload (.withdraw event)).length := by
    simp [eventPayload,head,body]
    omega
  have start : (eventPayload (.withdraw event)).take 8 = withdrawDiscriminator := by
    simp [eventPayload,List.append_assoc,head]
  have taken : ((eventPayload (.withdraw event)).drop 8).take 32 = event.nullifierHash.toList := by
    simp [eventPayload,List.append_assoc,head,body]
  rw [withdrawLine,if_pos ⟨long,start⟩,taken,hexNumber_exact]

-- Every withdrawal of the pool stands in the log of a transaction the scan ought to read.
theorem withdrawal_offered (chain : History env start history ledger) (member : request ∈ spendsOf poolKey history) :
    ∃ tx ∈ relevant poolKey history, decimal (inputNullifierHash request.inputs).value ∈ offeredNullifiers tx := by
  obtain ⟨receipt,carried,withdrawn⟩ := List.mem_filterMap.mp member
  obtain ⟨tx,inside,here⟩ := List.mem_flatMap.mp carried
  have sound := chain.sound tx inside
  obtain ⟨_,_,step⟩ := runs_step chain.runs carried
  obtain ⟨fee,now,events⟩ := withdrawal_logged step withdrawn
  cases receipt with
  | submitted before instruction result =>
    obtain ⟨succeeded,used⟩ := carrier_named sound here
    have named : poolKey ∈ tx.accounts := by
      cases instruction <;> cases result <;> try cases withdrawn
      simp only [withdrawalOf] at withdrawn
      split at withdrawn
      · rename_i own
        rw [← own]
        exact used
      · cases withdrawn
    refine ⟨tx,List.mem_filter.mpr ⟨inside,by simp [named,succeeded]⟩,?_⟩
    have line := sound.logged _ here _ (by rw [events]; exact List.mem_singleton_self _)
    exact List.mem_filterMap.mpr ⟨_,List.mem_filterMap.mpr ⟨_,line,rfl⟩,withdrawLine_event _⟩
  | rolledBack => cases withdrawn
  | external _ => cases withdrawn

theorem complete_count {world : World} (chain : History env start world.history ledger)
    (healthy : (∀ p, rpc.pageFails p = false) ∧ ∀ signature, rpc.fetchFails signature = false)
    (bounded : (world.history.filter fun tx => decide (poolKey ∈ tx.accounts)).length ≤ maxPages * 1000)
    (counted : Counted poolKey ⟨world.history,world.ledger,
      (hydrateFromChain rpc maxPages poolKey world.history world.service).1⟩) :
    (hydrateFromChain rpc maxPages poolKey world.history world.service).1.knownNullifiers.length =
      (world.spends poolKey).length := by
  have all : scanned rpc maxPages poolKey world.history = relevant poolKey world.history := by
    rw [scanned_fetched healthy.1 bounded]
    exact List.filter_eq_self.mpr fun tx _ => by rw [healthy.2]; rfl
  have distinct : (spentNumbers poolKey world).Nodup := by
    have spent : Spent env poolKey (world.spends poolKey) ledger := runs_spent chain.runs
    have numbers : spentNumbers poolKey world = ((world.spends poolKey).map fun request =>
        inputNullifierHash request.inputs).map fun hash => some (hash.value : Int) := by
      rw [List.map_map]
      rfl
    rw [numbers]
    refine spent.once.map fun left right equal => ?_
    exact Bytes.value_inj.mp (Int.ofNat_inj.mp (Option.some.inj equal))
  have inside : spentNumbers poolKey world ⊆
      (hydrateFromChain rpc maxPages poolKey world.history world.service).1.knownNullifiers.map bigInt := by
    intro number member
    obtain ⟨request,spent,rfl⟩ := List.mem_map.mp member
    obtain ⟨tx,here,offered⟩ := withdrawal_offered chain spent
    simp only [hydrate_exact,all]
    obtain ⟨found,present,same⟩ := FirstWins.load_has id world.service.knownNullifiers
      (List.mem_flatMap.mpr ⟨tx,here,offered⟩)
    exact List.mem_map.mpr ⟨found,present,by rw [show found = decimal _ from same,bigInt_decimal]⟩
  have low := distinct.length_le_of_subset inside
  have high := counted_bounded counted
  simp only [spentNumbers,List.length_map] at low
  exact Nat.le_antisymm high low

theorem reached_history (path : Reached env poolKey ⟨[],start,emptyService⟩ trace world) :
    History env start world.history world.ledger := by
  induction path with
  | nil => exact ⟨.nil,nofun,List.nodup_nil⟩
  | step _ step ih =>
    cases step with
    | chain run sound fresh => exact history_append ih run sound fresh
    | callback _ => exact ih
    | hydrate => exact ih

def ScanCounts (poolKey : Pubkey) (world : World) (action : Action) : Prop :=
  Complete poolKey world action → ∀ rpc maxPages, action = .hydrate rpc maxPages →
    (hydrateFromChain rpc maxPages poolKey world.history world.service).1.knownNullifiers.length =
      (world.spends poolKey).length

theorem withdrawal_count (path : Reached env poolKey ⟨[],start,emptyService⟩ trace world) :
    (world.Correct poolKey ∧ ∀ step ∈ trace, step.1.Correct poolKey ∧ ScanCounts poolKey step.1 step.2) ↔
      ∀ step ∈ trace, CountHolds poolKey step.1 step.2 := by
  induction path with
  | nil => exact ⟨nofun,fun _ => ⟨counted_correct ⟨.nil,nofun⟩,nofun⟩⟩
  | @step trace before action after prior step ih =>
    simp only [List.forall_mem_append,List.forall_mem_singleton]
    constructor
    · rintro ⟨last,earlier,here,_⟩
      exact ⟨ih.mp ⟨here,earlier⟩,counted_holds step last.toCounted⟩
    · rintro ⟨earlier,holds⟩
      obtain ⟨here,visited⟩ := ih.mpr earlier
      have counted := step_counted here.toCounted step holds
      refine ⟨counted_correct counted,visited,here,?_⟩
      rintro complete rpc maxPages rfl
      obtain ⟨pages,fetches,bounded⟩ := complete
      cases step with
      | hydrate => exact complete_count (reached_history prior) ⟨pages,fetches⟩ bounded counted

def afterDeposit (start : Ledger) : Ledger := (submit sampleRuntime 0 start sampleDeposit).1

def payoutEvent : WithdrawEvent := ⟨sampleNullifierHash,sampleRecipient,sampleRelayer,1000000,0⟩

def withdrawTransaction (start : Ledger) : ChainTransaction where
  signature := "4XtJw".toList
  err := false
  accounts := [sampleRelayer,samplePool,sampleRecipient]
  receipts := [.submitted (afterDeposit start) sampleWithdraw (.ok [.withdraw payoutEvent])]
  logs := [some (eventPayload (.withdraw payoutEvent))]

def sampleHistory (start : Ledger) : List ChainTransaction := [sampleTransaction start,withdrawTransaction start]

abbrev SampleReached (start : Ledger) := Reached sampleRuntime samplePool ⟨[],start,emptyService⟩

theorem sample_spends (start : Ledger) (landed : (submit sampleRuntime 0 start sampleDeposit).2 = .ok events) :
    spendsOf samplePool (sampleHistory start) = [sampleWithdrawal] := by
  simp only [spendsOf,sampleHistory,sampleTransaction,withdrawTransaction,withdrawalsOf,landed,List.flatMap_cons,
    List.flatMap_nil,List.append_nil,List.singleton_append]
  rfl

-- The sample note goes in and out, then the relayer calls back with `text`.
theorem sample_called (created : execute sampleRuntime 0 sampleGenesis
    (.initializePool ADMIN_AUTHORITY samplePool sampleDenomination) = .ok (start,[]))
    (reads : bigInt text = some (sampleNullifierHash.value : Int)) : ∃ trace ledger,
    SampleReached start trace ⟨sampleHistory start,ledger,⟨[],[text]⟩⟩ ∧
      ∀ step ∈ trace, CountHolds samplePool step.1 step.2 := by
  have deposited := (sample_lands created).1
  have paid := sample_pays created
  have chain := sample_chain deposited
  have first : SampleReached start [_] ⟨[sampleTransaction start],afterDeposit start,emptyService⟩ :=
    .step .nil (.chain (sample_path start) (chain.sound _ (List.mem_singleton_self _)) List.not_mem_nil)
  have ran : Runs sampleRuntime (afterDeposit start) (withdrawTransaction start).receipts
      (submit sampleRuntime 0 (afterDeposit start) sampleWithdraw).1 := by
    have one := Runs.step (.nil : Runs sampleRuntime (afterDeposit start) [] (afterDeposit start))
      (.submitted 0 sampleWithdraw)
    rw [show (submit sampleRuntime 0 (afterDeposit start) sampleWithdraw).2 = _ from paid] at one
    exact one
  have sound : (withdrawTransaction start).Sound := by
    refine ⟨nofun,?_,?_⟩
    · intro receipt carried event emitted
      rw [List.mem_singleton.mp carried] at emitted
      rw [List.mem_singleton.mp emitted]
      exact List.mem_singleton_self _
    · intro before instruction result carried
      cases List.mem_singleton.mp carried
      exact List.mem_cons_of_mem _ List.mem_cons_self
  have apart : (withdrawTransaction start).signature ∉
      [sampleTransaction start].map ChainTransaction.signature := by
    simp only [List.map_cons,List.map_nil,withdrawTransaction,sampleTransaction]
    decide
  have second := Reached.step first (.chain ran sound apart)
  have named : Names samplePool ⟨sampleHistory start,(submit sampleRuntime 0 (afterDeposit start) sampleWithdraw).1,
      emptyService⟩ text := by
    have hash : inputNullifierHash sampleWithdrawal.inputs = sampleNullifierHash := by decide
    exact ⟨sampleWithdrawal,by simp only [World.spends,sample_spends start deposited,List.mem_singleton],
      by rw [hash]; exact reads⟩
  refine ⟨_,_,second.step (.callback named),?_⟩
  simp only [List.forall_mem_append,List.forall_mem_singleton]
  refine ⟨⟨trivial,trivial⟩,?_⟩
  intro old known
  cases known

theorem withdrawal_count_sample : ∃ start trace world,
    execute sampleRuntime 0 sampleGenesis (.initializePool ADMIN_AUTHORITY samplePool sampleDenomination) =
      .ok (start,[]) ∧
    SampleReached start trace world ∧ world.spends samplePool = [sampleWithdrawal] ∧
    world.service.knownNullifiers = [decimal sampleNullifierHash.value] ∧ world.Correct samplePool := by
  obtain ⟨start,created⟩ := sample_created
  obtain ⟨trace,ledger,path,holds⟩ := sample_called created (bigInt_decimal sampleNullifierHash.value)
  exact ⟨start,trace,_,created,path,sample_spends start (sample_lands created).1,rfl,
    ((withdrawal_count path).mpr holds).1⟩

-- The client writes its nullifier hash with a leading zero. Parity accepts it,
-- the note is paid, and the next scan enters the same nullifier again.
theorem spelled_twice : ∃ start trace world,
    execute sampleRuntime 0 sampleGenesis (.initializePool ADMIN_AUTHORITY samplePool sampleDenomination) =
      .ok (start,[]) ∧
    SampleReached start trace world ∧ world.spends samplePool = [sampleWithdrawal] ∧
    world.service.knownNullifiers = ['0' :: decimal sampleNullifierHash.value,decimal sampleNullifierHash.value] ∧
    ¬world.Correct samplePool := by
  obtain ⟨start,created⟩ := sample_created
  have deposited := (sample_lands created).1
  have reads : bigInt ('0' :: decimal sampleNullifierHash.value) = some (sampleNullifierHash.value : Int) := by
    decide
  obtain ⟨trace,ledger,path,_⟩ := sample_called created reads
  have again : SampleReached start _ ⟨sampleHistory start,ledger,(hydrateFromChain healthyRpc 1 samplePool
      (sampleHistory start) ⟨[],['0' :: decimal sampleNullifierHash.value]⟩).1⟩ := path.step .hydrate
  have rescanned : (hydrateFromChain healthyRpc 1 samplePool (sampleHistory start)
      ⟨[],['0' :: decimal sampleNullifierHash.value]⟩).1.knownNullifiers =
        ['0' :: decimal sampleNullifierHash.value,decimal sampleNullifierHash.value] := by
    have bounded : ((sampleHistory start).filter fun tx => decide (samplePool ∈ tx.accounts)).length ≤ 1 * 1000 :=
      (List.length_filter_le _ _).trans (by simp [sampleHistory])
    have named : relevant samplePool (sampleHistory start) = sampleHistory start := by
      simp [relevant,sampleHistory,sampleTransaction,withdrawTransaction]
    have deposit : offeredNullifiers (sampleTransaction start) = [] := by
      simp only [offeredNullifiers,sampleTransaction]
      decide
    have withdrawal : offeredNullifiers (withdrawTransaction start) = [decimal sampleNullifierHash.value] := by
      simp only [offeredNullifiers,withdrawTransaction,List.filterMap_cons,id_eq,withdrawLine_event]
      rfl
    have offered : (scanned healthyRpc 1 samplePool (sampleHistory start)).flatMap offeredNullifiers =
        [decimal sampleNullifierHash.value] := by
      rw [scanned_fetched (fun _ => rfl) bounded,named]
      simp [sampleHistory,healthyRpc,deposit,withdrawal]
    simp only [hydrate_exact,offered]
    decide
  refine ⟨start,_,_,created,again,sample_spends start deposited,rescanned,?_⟩
  intro correct
  have distinct := once_nodup correct.once
  rw [rescanned] at distinct
  simp [reads,bigInt_decimal] at distinct

end Octora.Api.AnonymitySet
