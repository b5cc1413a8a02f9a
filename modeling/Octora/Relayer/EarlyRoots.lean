import Octora.Relayer.PrivacyGate
import Octora.Relayer.InFlight
import Octora.Mixer.Completeness

namespace Octora.Relayer.EarlyRoots
open BigEndian BigIntText SolanaTx

variable {ι : Type}

def Rooted (ledger : Ledger) (poolKey : Pubkey) (root : Int) : Prop :=
  ∃ pool known, (ledger poolKey).data = .pool pool ∧ pool.isKnownRoot known ∧ (known.value : Int) = root

-- The pool came to know the root in this slot.
def FirstRooted (log : List Landing) (poolKey : Pubkey) (root slot : Int) : Prop :=
  ∃ early landing late, log = early ++ landing :: late ∧ landing.slot = slot ∧ Rooted landing.after poolKey root ∧
    ∀ old ∈ early, ¬Rooted old.after poolKey root

-- The slot source tells the current slot.
def Punctual (before : World ι) (action : Action ι) : Prop :=
  ∀ caller slot, action = .slotRead caller (.ok slot) → slot = before.slot

-- When a gated pool comes to know a root, nothing older names it: no row of the
-- table, and no reading that a call still holds.
def Unarmed (services : ι → RelayerService) (first before after : World ι) : Prop :=
  ∀ service root, (services service).gated → ¬Rooted first.ledger (services service).mixerPoolPDA root →
    (∀ landing ∈ before.log, ¬Rooted landing.after (services service).mixerPoolPDA root) →
    Rooted after.ledger (services service).mixerPoolPDA root →
    (∀ row ∈ before.rows, bigInt row.1 = some root → before.slot ≤ row.2) ∧
    ∀ caller other request slot, before.calls caller = some ⟨other,request,.running (.observe slot)⟩ →
      bigInt request.root = some root → before.slot ≤ slot

section Runs
variable [DecidableEq ι] (backend : Backend) (services : ι → RelayerService)

-- A run with a punctual slot source in which no root is armed early.
inductive Careful (first : World ι) : List (World ι × Action ι) → World ι → Prop where
  | nil : Careful first [] first
  | step (prior : Careful first trace before) (step : Step backend services before action after)
      (punctual : Punctual before action) (unarmed : Unarmed services first before after) :
      Careful first (trace ++ [(before,action)]) after

end Runs

-- Every gated submission comes a whole delay after its root.
def Delayed (services : ι → RelayerService) (first world : World ι) : Prop :=
  ∀ caller service request stage root slot, world.calls caller = some ⟨service,request,.running stage⟩ →
    stage.phase = .submission → (services service).gated → bigInt request.root = some root →
    ¬Rooted first.ledger (services service).mixerPoolPDA root →
    FirstRooted world.log (services service).mixerPoolPDA root slot →
    slot + (services service).config.privacyDelaySlots ≤ world.slot

structure Aged (services : ι → RelayerService) (first world : World ι) : Prop where
  landings : ∀ landing ∈ world.log, landing.slot ≤ world.slot
  readings : ∀ caller service request slot, world.calls caller = some ⟨service,request,.running (.observe slot)⟩ →
    slot ≤ world.slot
  sighted : ∀ caller service request stage, world.calls caller = some ⟨service,request,.running stage⟩ →
    stage.phase = .submission → (services service).gated →
    ∃ seen, (request.root,seen) ∈ world.rows ∧ seen + (services service).config.privacyDelaySlots ≤ world.slot
  rows : ∀ service root slot, (services service).gated → ¬Rooted first.ledger (services service).mixerPoolPDA root →
    FirstRooted world.log (services service).mixerPoolPDA root slot →
    ∀ row ∈ world.rows, bigInt row.1 = some root → slot ≤ row.2
  held : ∀ service root slot, (services service).gated → ¬Rooted first.ledger (services service).mixerPoolPDA root →
    FirstRooted world.log (services service).mixerPoolPDA root slot →
    ∀ caller other request reading, world.calls caller = some ⟨other,request,.running (.observe reading)⟩ →
      bigInt request.root = some root → slot ≤ reading

theorem aged_delayed (aged : Aged services first world) : Delayed services first world := by
  intro caller service request stage root slot here phase gated named unknown rooted
  obtain ⟨seen,row,elapsed⟩ := aged.sighted _ _ _ _ here phase gated
  have after := aged.rows service root slot gated unknown rooted _ row named
  omega

theorem firstRooted_slot (rooted : FirstRooted log poolKey root slot) : ∃ landing ∈ log, landing.slot = slot := by
  obtain ⟨early,landing,late,rfl,same,_⟩ := rooted
  exact ⟨landing,by simp,same⟩

-- A log grows at its end: the root was known before, or the new entry brings it.
theorem firstRooted_append (rooted : FirstRooted (log ++ [last]) poolKey root slot) :
    FirstRooted log poolKey root slot ∨
      ((∀ old ∈ log, ¬Rooted old.after poolKey root) ∧ Rooted last.after poolKey root ∧ last.slot = slot) := by
  obtain ⟨early,landing,late,parts,same,known,fresh⟩ := rooted
  rcases List.eq_nil_or_concat late with rfl | ⟨rest,final,rfl⟩
  · obtain ⟨rfl,ends⟩ := List.append_inj' parts rfl
    cases List.singleton_inj.mp ends
    exact .inr ⟨fresh,known,same⟩
  · rw [List.concat_eq_append,← List.cons_append,← List.append_assoc] at parts
    obtain ⟨rfl,_⟩ := List.append_inj' parts rfl
    exact .inl ⟨early,landing,rest,rfl,same,known,fresh⟩

theorem firstSeen_mem (seen : firstSeenSlot rows root = some slot) : (root,slot) ∈ rows := by
  obtain ⟨row,found,rfl⟩ := Option.map_eq_some_iff.mp seen
  have named : row.1 = root := by simpa using List.find?_some found
  rw [← named]
  exact List.mem_of_find?_eq_some found

theorem idle_aged {services : ι → RelayerService} {first : World ι} (idle : Idle first) (unlogged : Unlogged first) : Aged services first first := by
  have nowhere : ∀ {caller call}, first.calls caller = some call → False := by
    intro caller call here
    rw [idle.calls caller] at here
    cases here
  have silent : ∀ {poolKey root slot}, ¬FirstRooted first.log poolKey root slot := by
    rintro poolKey root slot ⟨early,landing,late,parts,_⟩
    rw [unlogged.log] at parts
    simp at parts
  refine ⟨?_,fun _ _ _ _ here => (nowhere here).elim,fun _ _ _ _ here => (nowhere here).elim,
    fun _ _ _ _ _ rooted => (silent rooted).elim,fun _ _ _ _ _ rooted => (silent rooted).elim⟩
  intro landing here
  rw [unlogged.log] at here
  cases here

-- The ledger of this world is one its log tells of.
def Told (world : World ι) : Prop :=
  ∃ landing ∈ world.log, landing.after = world.ledger

-- Only a step that touches the chain can arm a root.
theorem still_unarmed {services : ι → RelayerService} {first before after : World ι} (told : Told before) (ledger : after.ledger = before.ledger) :
    Unarmed services first before after := by
  intro service root _ _ fresh known
  obtain ⟨landing,here,same⟩ := told
  rw [ledger,← same] at known
  exact absurd known (fresh landing here)

section Steps
variable [DecidableEq ι] {backend : Backend} {services : ι → RelayerService} {first before after : World ι}

theorem step_slot (step : Step backend services before action after) : before.slot ≤ after.slot := by
  cases step with
  | clock slots _ => exact slots
  | @enter caller service request _ =>
    unfold World.processWithdrawal
    split
    · exact le_rfl
    · split <;> exact le_rfl
  | @rpc caller service request ix submit reply next cluster _ _ =>
    show before.slot ≤ (before.spentBy service request next).slot
    unfold World.spentBy
    split <;> exact le_rfl
  | _ => exact le_rfl

-- A step that touches the chain touches nothing else.
theorem step_grows (step : Step backend services before action after) :
    (after.log = before.log ∧ after.ledger = before.ledger) ∨
    ∃ landing, after.log = before.log ++ [landing] ∧ landing.slot = before.slot ∧ landing.after = after.ledger ∧
      after.calls = before.calls ∧ after.rows = before.rows ∧ after.slot = before.slot := by
  cases step with
  | chain _ => exact .inr ⟨_,rfl,rfl,rfl,rfl,rfl,rfl⟩
  | land _ _ _ _ _ => exact .inr ⟨_,rfl,rfl,rfl,rfl,rfl,rfl⟩
  | @enter caller service request _ =>
    refine .inl ?_
    unfold World.processWithdrawal
    split
    · exact ⟨rfl,rfl⟩
    · split <;> exact ⟨rfl,rfl⟩
  | @rpc caller service request ix submit reply next cluster _ _ =>
    refine .inl ?_
    show (before.spentBy service request next).log = before.log ∧ (before.spentBy service request next).ledger = before.ledger
    unfold World.spentBy
    split <;> exact ⟨rfl,rfl⟩
  | _ => exact .inl ⟨rfl,rfl⟩

theorem step_row (step : Step backend services before action after) (row : entry ∈ after.rows) : entry ∈ before.rows ∨
    ∃ caller service request slot, before.calls caller = some ⟨service,request,.running (.observe slot)⟩ ∧
      entry = (request.root,slot) := by
  rw [PrivacyGate.step_rows step] at row
  match sighted : PrivacyGate.sighting (before,action) with
  | none =>
    rw [sighted] at row
    exact .inl row
  | some new =>
    rw [sighted] at row
    obtain ⟨caller,_,service,request,slot,_,waiting,rfl⟩ := PrivacyGate.sighting_inv sighted
    rcases FirstWins.mem_put row with old | ⟨same,_⟩
    · exact .inl old
    · exact .inr ⟨caller,service,request,slot,waiting,same⟩

theorem rows_kept (step : Step backend services before action after) (row : entry ∈ before.rows) : entry ∈ after.rows := by
  rw [PrivacyGate.step_rows step]
  exact FirstWins.load_keeps row _

theorem step_reading (step : Step backend services before action after)
    (here : after.calls caller = some ⟨service,request,.running (.observe slot)⟩) :
    before.calls caller = some ⟨service,request,.running (.observe slot)⟩ ∨ action = .slotRead caller (.ok slot) := by
  rcases step_running step here with was | entered | ⟨old,was,advance⟩
  · exact .inl was
  · have phase := entered_phase entered
    rcases phase with other | other <;> cases other
  · refine .inr ?_
    generalize named : Stage.observe slot = stage at advance
    have phase : stage.phase = .delay := by rw [← named]; rfl
    cases advance with
    | spentFound _ _ => cases named
    | spentAbsent _ _ =>
      rw [afterSpent_gated (afterSpent_delayed phase) (by rw [phase]; nofun)] at named
      cases named
    | spentFails => cases named
    | @slotRead answer =>
      cases answer with
      | error _ => cases named
      | ok _ =>
        cases named
        rfl
    | observed _ => exact absurd phase (late_phase (afterObserve_phase _ _ _ _ _))
    | observeFails _ => cases named
    | pool _ => exact absurd phase (late_phase (afterPool_phase _ _ _ _))
    | rpc _ => exact absurd phase (late_phase (afterSubmit_phase _ _ _ _))
    | diagnosed => cases named

theorem step_sighted (aged : Aged services first before) (step : Step backend services before action after)
    (here : after.calls caller = some ⟨service,request,.running stage⟩) (phase : stage.phase = .submission)
    (gated : (services service).gated) :
    ∃ seen, (request.root,seen) ∈ after.rows ∧ seen + (services service).config.privacyDelaySlots ≤ after.slot := by
  have later := step_slot step
  have kept : ∀ {old : Stage}, before.calls caller = some ⟨service,request,.running old⟩ → old.phase = .submission →
      ∃ seen, (request.root,seen) ∈ after.rows ∧ seen + (services service).config.privacyDelaySlots ≤ after.slot := by
    intro old was phase
    obtain ⟨seen,row,elapsed⟩ := aged.sighted _ _ _ _ was phase gated
    exact ⟨seen,rows_kept step row,by omega⟩
  rcases step_running step here with was | entered | ⟨old,was,advance⟩
  · exact kept was phase
  · rcases entered_phase entered with other | other <;> rw [phase] at other <;> cases other
  · cases advance with
    | spentFound _ _ => cases phase
    | spentAbsent _ _ =>
      rw [afterSpent_gated gated (by rw [phase]; nofun)] at phase
      cases phase
    | spentFails => cases phase
    | @slotRead answer => cases answer <;> cases phase
    | @observed slot seen row =>
      have passes : delayAt (services service) slot seen = .ok := by
        unfold afterObserve afterDelay at phase
        dsimp only at phase
        split at phase
        · cases phase
        · assumption
      have elapsed := (PrivacyGate.delayAt_passes gated).mp passes
      have read := aged.readings _ _ _ _ was
      refine ⟨seen,?_,by omega⟩
      rw [PrivacyGate.step_rows step,PrivacyGate.sighting_observed _ was]
      exact firstSeen_mem row
    | observeFails _ => cases phase
    | pool _ => exact kept was rfl
    | rpc _ => exact kept was rfl
    | diagnosed => exact kept was rfl

theorem step_aged (aged : Aged services first before) (step : Step backend services before action after)
    (punctual : Punctual before action) (unarmed : Unarmed services first before after) : Aged services first after := by
  have later := step_slot step
  rcases step_grows step with ⟨same,_⟩ | ⟨landing,grown,slotted,ledger,calls,rows,slot⟩
  · refine ⟨?_,?_,?_,?_,?_⟩
    · intro landing here
      have old := aged.landings landing (same ▸ here)
      omega
    · intro caller service request slot here
      rcases step_reading step here with was | named
      · have old := aged.readings _ _ _ _ was
        omega
      · have now := punctual _ _ named
        omega
    · exact fun _ _ _ _ here phase gated => step_sighted aged step here phase gated
    · intro service root slot gated unknown rooted row here named
      rw [same] at rooted
      rcases step_row step here with old | ⟨caller,other,request,reading,waiting,rfl⟩
      · exact aged.rows service root slot gated unknown rooted row old named
      · exact aged.held service root slot gated unknown rooted caller other request reading waiting named
    · intro service root slot gated unknown rooted caller other request reading here named
      rw [same] at rooted
      rcases step_reading step here with was | asked
      · exact aged.held service root slot gated unknown rooted caller other request reading was named
      · obtain ⟨landing,inside,rfl⟩ := firstRooted_slot rooted
        have old := aged.landings landing inside
        have now := punctual _ _ asked
        omega
  · refine ⟨?_,?_,?_,?_,?_⟩
    · intro other here
      rw [grown] at here
      rcases List.mem_append.mp here with old | new
      · have before := aged.landings other old
        omega
      · rw [List.mem_singleton.mp new,slotted]
        exact later
    · intro caller service request reading here
      rw [slot]
      exact aged.readings _ _ _ _ (calls ▸ here)
    · exact fun _ _ _ _ here phase gated => step_sighted aged step here phase gated
    · intro service root reached gated unknown rooted row here named
      rw [rows] at here
      rw [grown] at rooted
      rcases firstRooted_append rooted with old | ⟨fresh,known,same⟩
      · exact aged.rows service root reached gated unknown old row here named
      · rw [ledger] at known
        rw [← same,slotted]
        exact (unarmed service root gated unknown fresh known).1 row here named
    · intro service root reached gated unknown rooted caller other request reading here named
      rw [calls] at here
      rw [grown] at rooted
      rcases firstRooted_append rooted with old | ⟨fresh,known,same⟩
      · exact aged.held service root reached gated unknown old caller other request reading here named
      · rw [ledger] at known
        rw [← same,slotted]
        exact (unarmed service root gated unknown fresh known).2 caller other request reading here named

theorem careful_aged (idle : Idle first) (unlogged : Unlogged first)
    (run : Careful backend services first trace world) : Aged services first world := by
  induction run with
  | nil => exact idle_aged idle unlogged
  | step _ step punctual unarmed ih => exact step_aged ih step punctual unarmed

-- Where no root is armed before it is one, the delay counts from the chain.
theorem delay_from_chain (backend : Backend) (services : ι → RelayerService) (first world : World ι)
    (trace : List (World ι × Action ι)) (idle : Idle first) (unlogged : Unlogged first)
    (run : Careful backend services first trace world) : Delayed services first world :=
  aged_delayed (careful_aged idle unlogged run)

theorem step_told (told : Told before) (step : Step backend services before action after) : Told after := by
  rcases step_grows step with ⟨log,ledger⟩ | ⟨landing,grown,_,ledger,_⟩
  · rwa [Told,log,ledger]
  · exact ⟨landing,by simp [grown],ledger⟩

def quiet : Action ι → Bool
  | .chain _ _ => false
  | .land _ => false
  | _ => true

theorem quiet_ledger (step : Step backend services before action after) (silent : quiet action) :
    after.ledger = before.ledger := by
  cases step with
  | chain _ => cases silent
  | land _ _ _ _ _ => cases silent
  | @enter caller service request _ =>
    unfold World.processWithdrawal
    split
    · rfl
    · split <;> rfl
  | @rpc caller service request ix submit reply next cluster _ _ =>
    show (before.spentBy service request next).ledger = before.ledger
    unfold World.spentBy
    split <;> rfl
  | _ => rfl

theorem careful_quiet (prior : Careful backend services first trace before) (told : Told before)
    (run : Reached backend services before later after)
    (still : ∀ entry ∈ later, Punctual entry.1 entry.2 ∧ quiet entry.2) :
    Careful backend services first (trace ++ later) after ∧ Told after := by
  induction run with
  | nil =>
    rw [List.append_nil]
    exact ⟨prior,told⟩
  | step _ step ih =>
    rw [List.forall_mem_append,List.forall_mem_singleton] at still
    obtain ⟨careful,told⟩ := ih still.1
    rw [← List.append_assoc]
    exact ⟨.step careful step still.2.1 (still_unarmed told (quiet_ledger step still.2.2)),step_told told step⟩

end Steps

-- A request for the root of the sample deposit.
def armingRequest : Request := sampleRequestWith ('0' :: decimal (sampleValues 1))

theorem sampleRequest_root : bigInt sampleRequest.root = some (sampleValues 0 : Int) := by
  simp only [sampleRequest,sampleRequestWith,bigInt_decimal]

def armed (world : World Unit) : World Unit :=
  { world with rows := observe [] armingRequest.root 1000 }.leads 0 () armingRequest
    (afterObserve signingBackend (sampleServices true ()) armingRequest 1000 (.ok 1000))

theorem sample_arms (world : World Unit) (slot : world.slot = 1000) (rows : world.rows = [])
    (fresh : world.calls 0 = none) (free : world.inFlight () armingRequest.nullifierHash = none)
    (uncached : world.cache () = []) (absent : accountExists world.ledger sampleNullifierKey = false) :
    ∃ trace, Reached signingBackend (sampleServices true) world trace (armed world) ∧
      ∀ entry ∈ trace, Punctual entry.1 entry.2 ∧ quiet entry.2 := by
  have unseen : ('0' :: decimal (sampleValues 1)) ∉ world.cache () := by
    rw [uncached]
    exact List.not_mem_nil
  have vetted := sample_vetted true world 0 InFlight.padded_number fresh free unseen absent
  rw [if_pos (by decide)] at vetted
  have asked := vetted.step (leads_slot _ 0 () armingRequest (.ok 1000))
  have seen : firstSeenSlot (observe world.rows armingRequest.root 1000) armingRequest.root = some 1000 := by
    rw [rows]
    exact PrivacyGate.observe_answer [] armingRequest.root 1000
  have stored := asked.step (leads_observed world 0 () armingRequest seen)
  rw [rows] at stored
  refine ⟨_,stored,?_⟩
  simp only [List.forall_mem_append,List.forall_mem_cons]
  refine ⟨⟨⟨⟨nofun,rfl⟩,⟨nofun,rfl⟩,nofun⟩,⟨?_,rfl⟩,nofun⟩,⟨nofun,rfl⟩,nofun⟩
  intro caller read named
  cases named
  exact slot.symm

-- The sample pool is created and the sample deposit lands, both in this slot.
def created (world : World Unit) (start : Ledger) : World Unit :=
  { world with
    ledger := start
    log := [⟨world.slot,[],.submitted sampleGenesis (.initializePool ADMIN_AUTHORITY samplePool sampleDenomination) (.ok []),start⟩] }

def deposited (world : World Unit) (start : Ledger) : World Unit :=
  { world with
    ledger := (submit sampleRuntime 0 start sampleDeposit).1
    log := [⟨world.slot,[],.submitted sampleGenesis (.initializePool ADMIN_AUTHORITY samplePool sampleDenomination) (.ok []),start⟩,
      ⟨world.slot,[],.submitted start sampleDeposit (submit sampleRuntime 0 start sampleDeposit).2,
        (submit sampleRuntime 0 start sampleDeposit).1⟩] }

theorem sample_creates (world : World Unit) (genesis : world.ledger = sampleGenesis) (unlogged : world.log = [])
    (made : execute sampleRuntime 0 sampleGenesis
      (.initializePool ADMIN_AUTHORITY samplePool sampleDenomination) = .ok (start,[])) :
    Step signingBackend (sampleServices true) world (.chain [] (.submitted sampleGenesis
      (.initializePool ADMIN_AUTHORITY samplePool sampleDenomination) (.ok []))) (created world start) := by
  have initialized : Octora.Step sampleRuntime world.ledger (.submitted sampleGenesis
      (.initializePool ADMIN_AUTHORITY samplePool sampleDenomination) (.ok [])) start := by
    have step : Octora.Step sampleRuntime sampleGenesis _ _ :=
      .submitted 0 (.initializePool ADMIN_AUTHORITY samplePool sampleDenomination)
    rw [submit_executed made] at step
    rw [genesis]
    exact step
  have step : Step signingBackend (sampleServices true) world (.chain [] _) _ := .chain initialized
  rw [unlogged] at step
  exact step

theorem sample_deposits (world : World Unit) (start : Ledger) : Step signingBackend (sampleServices true) (created world start)
    (.chain [] (.submitted start sampleDeposit (submit sampleRuntime 0 start sampleDeposit).2)) (deposited world start) := by
  have moved : Octora.Step sampleRuntime start _ _ := .submitted 0 sampleDeposit
  exact .chain moved

theorem sample_rooted (made : execute sampleRuntime 0 sampleGenesis
    (.initializePool ADMIN_AUTHORITY samplePool sampleDenomination) = .ok (start,[])) (world : World Unit) :
    Rooted (deposited world start).ledger samplePool (sampleValues 0) := by
  obtain ⟨landed,_⟩ := sample_lands made
  cases execute_exact made with
  | created first =>
    have initial := created_tracked zeroChain_known first fun i => ZERO_HASHES i
    rw [reseed_initial first] at initial
    have tracked := runs_tracked (created_unsigned first) zeroChain_known initial (sample_path start)
    rw [sample_history landed] at tracked
    obtain ⟨pool,loaded,valid⟩ := tracked.pool
    refine ⟨pool,sampleRoot,loaded,?_,rfl⟩
    exact (isKnownRoot_exact valid sampleRoot).mpr ⟨1,Nat.le_refl 1,by decide,sampleRoot_exact.symm⟩

theorem sample_unrooted : ¬Rooted sampleGenesis samplePool (sampleValues 0) := by
  rintro ⟨pool,_,loaded,_⟩
  have empty : (sampleGenesis samplePool).data = .system := by
    unfold sampleGenesis
    split <;> rfl
  rw [empty] at loaded
  cases loaded

-- The genesis knows no pool, so the root's first slot is the deposit's.
theorem sample_firstRooted (made : execute sampleRuntime 0 sampleGenesis
    (.initializePool ADMIN_AUTHORITY samplePool sampleDenomination) = .ok (start,[])) (world : World Unit) :
    FirstRooted (deposited world start).log samplePool (sampleValues 0) world.slot := by
  have known := sample_rooted made world
  by_cases already : Rooted start samplePool (sampleValues 0)
  · exact ⟨[],_,[_],rfl,rfl,already,nofun⟩
  · refine ⟨[_],_,[],rfl,rfl,known,fun old here => ?_⟩
    rw [List.mem_singleton.mp here]
    exact already

-- The nullifier's account is untouched by the deposit.
theorem sample_unspent (made : execute sampleRuntime 0 sampleGenesis
    (.initializePool ADMIN_AUTHORITY samplePool sampleDenomination) = .ok (start,[])) (world : World Unit) :
    accountExists (deposited world start).ledger sampleNullifierKey = false := by
  have after := sample_deposited made
  have data := after.data sampleNullifierKey (by decide) (by decide)
  have lamports := after.lamports sampleNullifierKey (by decide) (by decide) (by decide)
    (by decide)
  show accountExists (submit sampleRuntime 0 start sampleDeposit).1 sampleNullifierKey = false
  rw [accountExists,data,lamports]
  decide

-- The row is 33 slots old, which is as long as the delay.
theorem sample_passes (world : World Unit) (slot : world.slot = 1033)
    (seen : firstSeenSlot world.rows sampleRequest.root = some 1000) (fresh : world.calls 1 = none)
    (free : world.inFlight () (decimal (sampleValues 1)) = none) (uncached : world.cache () = [])
    (absent : accountExists world.ledger sampleNullifierKey = false) :
    ∃ trace, Reached signingBackend (sampleServices true) world trace
        ({ world with rows := observe world.rows sampleRequest.root 1033 }.leads 1 () sampleRequest .getPool) ∧
      ∀ entry ∈ trace, Punctual entry.1 entry.2 ∧ quiet entry.2 := by
  have unseen : decimal (sampleValues 1) ∉ world.cache () := by
    rw [uncached]
    exact List.not_mem_nil
  have vetted := sample_vetted true world 1 (bigInt_decimal (sampleValues 1)) fresh free unseen absent
  rw [if_pos (by decide)] at vetted
  have asked := vetted.step (leads_slot _ 1 () sampleRequest (.ok 1033))
  have known : firstSeenSlot (observe world.rows sampleRequest.root 1033) sampleRequest.root = some 1000 := by
    rw [PrivacyGate.observe_answer,seen]
    rfl
  have passed := asked.step (leads_observed world 1 () sampleRequest known)
  have elapsed : delayAt (sampleServices true ()) 1033 1000 = .ok := by decide
  have stage : afterObserve signingBackend (sampleServices true ()) sampleRequest 1033 (.ok 1000) = .getPool := by
    rw [afterObserve,elapsed]
    rfl
  rw [stage] at passed
  refine ⟨_,passed,?_⟩
  simp only [List.forall_mem_append,List.forall_mem_cons]
  refine ⟨⟨⟨⟨nofun,rfl⟩,⟨nofun,rfl⟩,nofun⟩,⟨?_,rfl⟩,nofun⟩,⟨nofun,rfl⟩,nofun⟩
  intro caller read named
  cases named
  exact slot.symm

theorem armed_free (world : World Unit) (free : world.inFlight () (decimal (sampleValues 1)) = none) :
    (armed world).inFlight () (decimal (sampleValues 1)) = none := by
  have other : ¬decimal (sampleValues 1) = armingRequest.nullifierHash := by decide
  rw [armed,leads_lock,if_neg fun both => other both.2]
  exact free

theorem armed_seen (world : World Unit) : firstSeenSlot (armed world).rows sampleRequest.root = some 1000 :=
  PrivacyGate.observe_answer [] armingRequest.root 1000

-- A root armed by its own deposit's slot: 33 slots later its request is submitted.
theorem delay_from_chain_sample : ∃ trace world,
    Careful signingBackend (sampleServices true) (sampleWorld sampleGenesis 1000) trace world ∧
    world.slot = 1033 ∧ world.calls 1 = some ⟨(),sampleRequest,.running .getPool⟩ ∧
    FirstRooted world.log samplePool (sampleValues 0) 1000 ∧
    Delayed (sampleServices true) (sampleWorld sampleGenesis 1000) world := by
  obtain ⟨start,made⟩ := sample_created
  let first := sampleWorld sampleGenesis 1000
  have one := sample_creates first rfl rfl made
  have two := sample_deposits first start
  have careful := (Careful.nil.step one nofun (fun _ _ _ _ _ _ => ⟨nofun,nofun⟩)).step two nofun
    (fun _ _ _ _ _ _ => ⟨nofun,nofun⟩)
  have told : Told (deposited first start) := ⟨_,List.mem_cons_of_mem _ List.mem_cons_self,rfl⟩
  obtain ⟨arming,arms,still⟩ := sample_arms (deposited first start) rfl rfl rfl rfl rfl (sample_unspent made first)
  obtain ⟨careful,told⟩ := careful_quiet careful told arms still
  have waits : Reached signingBackend (sampleServices true) (armed (deposited first start)) _ _ :=
    .step .nil (.clock (show (1000 : Int) ≤ 1033 by decide) (Nat.le_refl 0))
  obtain ⟨careful,told⟩ := careful_quiet careful told waits (by simp [Punctual,quiet])
  obtain ⟨passing,passes,still⟩ := sample_passes { armed (deposited first start) with slot := 1033 } rfl
    (armed_seen (deposited first start)) rfl (armed_free (deposited first start) rfl) rfl (sample_unspent made first)
  obtain ⟨careful,_⟩ := careful_quiet careful told passes still
  exact ⟨_,_,careful,rfl,leads_call _ 1 () sampleRequest .getPool,sample_firstRooted made first,
    delay_from_chain _ _ _ _ _ ⟨fun _ => rfl,fun _ _ => rfl⟩ ⟨rfl,rfl⟩ careful⟩

-- A row armed 33 slots before the root exists lets its deposit out in its own slot.
theorem root_armed_early : ∃ trace world, Reached signingBackend (sampleServices true) (sampleWorld sampleGenesis 1000) trace world ∧
    (∀ entry ∈ trace, Punctual entry.1 entry.2) ∧ ¬Delayed (sampleServices true) (sampleWorld sampleGenesis 1000) world := by
  obtain ⟨start,made⟩ := sample_created
  let first := sampleWorld sampleGenesis 1000
  have absent : accountExists first.ledger sampleNullifierKey = false := by decide
  obtain ⟨arming,arms,early⟩ := sample_arms first rfl rfl rfl rfl rfl absent
  let waiting : World Unit := { armed first with slot := 1033 }
  have waits : Step signingBackend (sampleServices true) (armed first) (.clock 1033 0) waiting :=
    .clock (show (1000 : Int) ≤ 1033 by decide) (Nat.le_refl 0)
  have one := sample_creates waiting rfl rfl made
  have two := sample_deposits waiting start
  obtain ⟨passing,passes,late⟩ := sample_passes (deposited waiting start) rfl (armed_seen first) rfl (armed_free first rfl) rfl
    (sample_unspent made waiting)
  have run := reached_trans (((arms.step waits).step one).step two) passes
  refine ⟨_,_,run,?_,fun delayed => ?_⟩
  · simp only [List.forall_mem_append,List.forall_mem_singleton]
    exact ⟨⟨⟨⟨fun _ here => (early _ here).1,nofun⟩,nofun⟩,nofun⟩,fun _ here => (late _ here).1⟩
  · have bound := delayed 1 () sampleRequest .getPool (sampleValues 0) 1033 (leads_call _ 1 () sampleRequest .getPool) rfl
      (by decide) sampleRequest_root sample_unrooted (sample_firstRooted made waiting)
    have inside : (1033 : Int) + (sampleServices true ()).config.privacyDelaySlots ≤ 1033 := bound
    have short : ¬(1033 : Int) + (sampleServices true ()).config.privacyDelaySlots ≤ 1033 := by decide
    exact short inside

end Octora.Relayer.EarlyRoots
