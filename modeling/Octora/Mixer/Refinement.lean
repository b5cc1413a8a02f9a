import Octora.Mixer.Liveness

namespace Octora
open BigEndian Fallible IncrementalTree MerkleTree

theorem submit_ok (accepted : (submit env now ledger instruction).2 = .ok events) :
    ∃ next, execute env now ledger instruction = .ok (next,events) := by
  unfold submit at accepted
  split at accepted
  · rename_i next found result
    cases accepted
    exact ⟨next,result⟩
  · cases accepted

-- The `(2^20+1)`-th deposit: every account check may pass, the handler refuses.
theorem deposit_full (loaded : (ledger poolKey).data = .pool pool) (full : ¬pool.nextLeafIndex < MAX_LEAVES)
    (active : pool.isPaused = 0) (signed : env.canSign depositor = true)
    (allocated : initAccount env ledger depositor commitmentKey (.commitment poolKey commitment)
      CommitmentAccount.SPACE .commitment = .ok created) (seeds : poolSeedsHold env poolKey pool) :
    submit env now ledger (.deposit depositor poolKey commitmentKey commitment) =
      (ledger,.error (.mixer .TreeFull)) := by
  have made := initAccount_exact allocated
  have kept : (created poolKey).data = .pool pool := by
    rw [made.data,if_neg (pool_not_fresh loaded made.fresh),loaded]
  have refused : execute env now ledger (.deposit depositor poolKey commitmentKey commitment) =
      .error (.mixer .TreeFull) := by
    have one := loadPool_exact.mpr loaded
    have two := loadPool_exact.mpr kept
    simp only [execute,deposit,depositHandler,do_error,do_ok,require_ok,require_error]
    refine .inl (.inr ⟨(),signed,.inr ⟨pool,one,.inr ⟨created,allocated,.inr ⟨(),seeds,.inr ⟨pool,two,
      .inr ⟨(),active,.inl ⟨full,trivial⟩⟩⟩⟩⟩⟩⟩)
  rw [submit,refused]

theorem deposit_stops (loaded : (ledger poolKey).data = .pool pool) (full : ¬pool.nextLeafIndex < MAX_LEAVES)
    (now : Int) (depositor commitmentKey : Pubkey) (commitment : Bytes 32) :
    (submit env now ledger (.deposit depositor poolKey commitmentKey commitment)).1 = ledger := by
  rcases submit_cases env now ledger (.deposit depositor poolKey commitmentKey commitment) with
    ⟨_,_,done⟩ | ⟨_,_,unchanged⟩
  · cases done with
    | deposited deposited =>
      cases AccountData.pool.inj (deposited.loaded.symm.trans loaded)
      exact absurd deposited.room full
  · exact unchanged

-- Known answers of the circomlib hash for one note, `(secret,nullifier) = (1,2)`,
-- deposited first into the one-SOL pool, and the addresses derived for it.
def knownAnswers : List (List Nat × Nat) := [
  ([0,0],
    14744269619966411208579211824598458697587494354926760081771325075741142829156),
  ([14744269619966411208579211824598458697587494354926760081771325075741142829156,14744269619966411208579211824598458697587494354926760081771325075741142829156],
    7423237065226347324353380772367382631490014989348495481811164164159255474657),
  ([7423237065226347324353380772367382631490014989348495481811164164159255474657,7423237065226347324353380772367382631490014989348495481811164164159255474657],
    11286972368698509976183087595462810875513684078608517520839298933882497716792),
  ([11286972368698509976183087595462810875513684078608517520839298933882497716792,11286972368698509976183087595462810875513684078608517520839298933882497716792],
    3607627140608796879659380071776844901612302623152076817094415224584923813162),
  ([3607627140608796879659380071776844901612302623152076817094415224584923813162,3607627140608796879659380071776844901612302623152076817094415224584923813162],
    19712377064642672829441595136074946683621277828620209496774504837737984048981),
  ([19712377064642672829441595136074946683621277828620209496774504837737984048981,19712377064642672829441595136074946683621277828620209496774504837737984048981],
    20775607673010627194014556968476266066927294572720319469184847051418138353016),
  ([20775607673010627194014556968476266066927294572720319469184847051418138353016,20775607673010627194014556968476266066927294572720319469184847051418138353016],
    3396914609616007258851405644437304192397291162432396347162513310381425243293),
  ([3396914609616007258851405644437304192397291162432396347162513310381425243293,3396914609616007258851405644437304192397291162432396347162513310381425243293],
    21551820661461729022865262380882070649935529853313286572328683688269863701601),
  ([21551820661461729022865262380882070649935529853313286572328683688269863701601,21551820661461729022865262380882070649935529853313286572328683688269863701601],
    6573136701248752079028194407151022595060682063033565181951145966236778420039),
  ([6573136701248752079028194407151022595060682063033565181951145966236778420039,6573136701248752079028194407151022595060682063033565181951145966236778420039],
    12413880268183407374852357075976609371175688755676981206018884971008854919922),
  ([12413880268183407374852357075976609371175688755676981206018884971008854919922,12413880268183407374852357075976609371175688755676981206018884971008854919922],
    14271763308400718165336499097156975241954733520325982997864342600795471836726),
  ([14271763308400718165336499097156975241954733520325982997864342600795471836726,14271763308400718165336499097156975241954733520325982997864342600795471836726],
    20066985985293572387227381049700832219069292839614107140851619262827735677018),
  ([20066985985293572387227381049700832219069292839614107140851619262827735677018,20066985985293572387227381049700832219069292839614107140851619262827735677018],
    9394776414966240069580838672673694685292165040808226440647796406499139370960),
  ([9394776414966240069580838672673694685292165040808226440647796406499139370960,9394776414966240069580838672673694685292165040808226440647796406499139370960],
    11331146992410411304059858900317123658895005918277453009197229807340014528524),
  ([11331146992410411304059858900317123658895005918277453009197229807340014528524,11331146992410411304059858900317123658895005918277453009197229807340014528524],
    15819538789928229930262697811477882737253464456578333862691129291651619515538),
  ([15819538789928229930262697811477882737253464456578333862691129291651619515538,15819538789928229930262697811477882737253464456578333862691129291651619515538],
    19217088683336594659449020493828377907203207941212636669271704950158751593251),
  ([19217088683336594659449020493828377907203207941212636669271704950158751593251,19217088683336594659449020493828377907203207941212636669271704950158751593251],
    21035245323335827719745544373081896983162834604456827698288649288827293579666),
  ([21035245323335827719745544373081896983162834604456827698288649288827293579666,21035245323335827719745544373081896983162834604456827698288649288827293579666],
    6939770416153240137322503476966641397417391950902474480970945462551409848591),
  ([6939770416153240137322503476966641397417391950902474480970945462551409848591,6939770416153240137322503476966641397417391950902474480970945462551409848591],
    10941962436777715901943463195175331263348098796018438960955633645115732864202),
  ([10941962436777715901943463195175331263348098796018438960955633645115732864202,10941962436777715901943463195175331263348098796018438960955633645115732864202],
    15019797232609675441998260052101280400536945603062888308240081994073687793470),
  ([7853200120776062878684798364095072458815029376092732009249414926327459813530,0],
    6523545945079737711123707703987669864906825769893131535256183694760671086364),
  ([6523545945079737711123707703987669864906825769893131535256183694760671086364,14744269619966411208579211824598458697587494354926760081771325075741142829156],
    11602240243984438821716888892094411112481542093553574207619632426656708385627),
  ([11602240243984438821716888892094411112481542093553574207619632426656708385627,7423237065226347324353380772367382631490014989348495481811164164159255474657],
    3446861020255292321865258779557110648689025773805831307853761133783426704217),
  ([3446861020255292321865258779557110648689025773805831307853761133783426704217,11286972368698509976183087595462810875513684078608517520839298933882497716792],
    4056132802469294063829788254500419763050914055935413615967441464982599496847),
  ([4056132802469294063829788254500419763050914055935413615967441464982599496847,3607627140608796879659380071776844901612302623152076817094415224584923813162],
    6908076412638635890216910443962305658516581335441269373322539202406419910247),
  ([6908076412638635890216910443962305658516581335441269373322539202406419910247,19712377064642672829441595136074946683621277828620209496774504837737984048981],
    11277792070950337353589293288157230602188083713163319451751199976072174261643),
  ([11277792070950337353589293288157230602188083713163319451751199976072174261643,20775607673010627194014556968476266066927294572720319469184847051418138353016],
    14350862141555317681462542971746303025292294927451731787118640137424056328681),
  ([14350862141555317681462542971746303025292294927451731787118640137424056328681,3396914609616007258851405644437304192397291162432396347162513310381425243293],
    19791899578296220793545857814504847189272574527117128901883798269590288910104),
  ([19791899578296220793545857814504847189272574527117128901883798269590288910104,21551820661461729022865262380882070649935529853313286572328683688269863701601],
    9165400409475113897654097818789892289087186235166822961942602702654177363412),
  ([9165400409475113897654097818789892289087186235166822961942602702654177363412,6573136701248752079028194407151022595060682063033565181951145966236778420039],
    7896180283147682341322547938488846544435075829742995029600640192289319116655),
  ([7896180283147682341322547938488846544435075829742995029600640192289319116655,12413880268183407374852357075976609371175688755676981206018884971008854919922],
    5810146559946433139190421745348879189790735778375536859901863564753500584670),
  ([5810146559946433139190421745348879189790735778375536859901863564753500584670,14271763308400718165336499097156975241954733520325982997864342600795471836726],
    9070604257598554837905380830469798275957449779354935979022107173235399661345),
  ([9070604257598554837905380830469798275957449779354935979022107173235399661345,20066985985293572387227381049700832219069292839614107140851619262827735677018],
    1680350757092440722979226862798454643052942921199755036671295103764514604855),
  ([1680350757092440722979226862798454643052942921199755036671295103764514604855,9394776414966240069580838672673694685292165040808226440647796406499139370960],
    8948710764054812487261589455044022334299574353673575018707887610300246472837),
  ([8948710764054812487261589455044022334299574353673575018707887610300246472837,11331146992410411304059858900317123658895005918277453009197229807340014528524],
    17963438962746289133390005900057058167409105182680244866061254532787784016695),
  ([17963438962746289133390005900057058167409105182680244866061254532787784016695,15819538789928229930262697811477882737253464456578333862691129291651619515538],
    21190566072283511869012009961416092331874582636591134937700718021123909172276),
  ([21190566072283511869012009961416092331874582636591134937700718021123909172276,19217088683336594659449020493828377907203207941212636669271704950158751593251],
    5898213216485354255437130838459934290887565246906786689077067644183213454064),
  ([5898213216485354255437130838459934290887565246906786689077067644183213454064,21035245323335827719745544373081896983162834604456827698288649288827293579666],
    16812976280028458103317950524030251579818391163819560311571888074680011676194),
  ([16812976280028458103317950524030251579818391163819560311571888074680011676194,6939770416153240137322503476966641397417391950902474480970945462551409848591],
    9748690232365103917888174804814276775122608612276179537986584939717202019499),
  ([9748690232365103917888174804814276775122608612276179537986584939717202019499,10941962436777715901943463195175331263348098796018438960955633645115732864202],
    11912894865924769137293424716605010663334981218181273977862538275978351382413),
  ([1,2],
    7853200120776062878684798364095072458815029376092732009249414926327459813530),
  ([2],
    8645981980787649023086883978738420856660271013038108762834452721572614684349),
  ([22685491128062564230891640495451214097,22685491128062564230891640495451214097],
    6123206031095223082125353927589282494551934776317090153072558613564328249729),
  ([45370982256125128461783280990902428194,45370982256125128461783280990902428194],
    602627670332036682991632995917697889485597323075465243086668707172843721869),
  ([6123206031095223082125353927589282494551934776317090153072558613564328249729,602627670332036682991632995917697889485597323075465243086668707172843721869,1000000],
    14521810504859796345956490607826697027540318619628782737848723718654565362886),
  ([132732559267473006103812782523184284728,272010465093152270273015315082189839961],
    863746119351051569142058895997555775545816008597428305370133438918266859995)]

def tablePoseidon (inputs : List Fr) : Fr :=
  (((knownAnswers.lookup (inputs.map ZMod.val)).getD 0 : Nat) : Fr)

def sampleDenomination : UInt64 := 1000000000
def samplePool : Pubkey := Bytes.ofNat 32 0x63db5c6db2575f1b882b643fc8078438cca34f5b914ba5a0cb617e5ce0059e59
def sampleCommitment : Bytes 32 := Bytes.ofNat 32 7853200120776062878684798364095072458815029376092732009249414926327459813530
def sampleCommitmentAccount : Pubkey := Bytes.ofNat 32 0x8298db09dc34341894a72c07de251b1843e466a075b4de288ab6e8df6739530a
def sampleNullifierHash : Bytes 32 := Bytes.ofNat 32 8645981980787649023086883978738420856660271013038108762834452721572614684349
def sampleRoot : Bytes 32 := Bytes.ofNat 32 11912894865924769137293424716605010663334981218181273977862538275978351382413
def sampleRecipientHash : Bytes 32 := Bytes.ofNat 32 6123206031095223082125353927589282494551934776317090153072558613564328249729
def sampleRelayerHash : Bytes 32 := Bytes.ofNat 32 602627670332036682991632995917697889485597323075465243086668707172843721869
def sampleFee : Bytes 32 := Bytes.ofNat 32 1000000
def sampleNullifierAccount : Pubkey := Bytes.ofNat 32 0xc4e9e560dc2085a8370c1fbbd7fa738086015b50aecb2a602e70a28bfed29821
def sampleRecipient : Pubkey := List.Vector.replicate 32 0x11
def sampleRelayer : Pubkey := List.Vector.replicate 32 0x22
def sampleDepositor : Pubkey := List.Vector.replicate 32 0x33

def sampleAddress : Seeds → Pubkey × UInt8
  | .mixerPool denomination =>
    if denomination = sampleDenomination then (samplePool,255) else (ZERO_VALUE,0)
  | .commitment pool commitment =>
    if pool = samplePool ∧ commitment = sampleCommitment then (sampleCommitmentAccount,255) else (ZERO_VALUE,0)
  | .nullifier pool hash =>
    if pool = samplePool ∧ hash = sampleNullifierHash then (sampleNullifierAccount,253) else (ZERO_VALUE,0)


theorem lookup_val (inputs : List Nat) (small : ∀ n ∈ inputs, n < fieldOrder) :
    (inputs.map fun n : Nat => (n : Fr)).map ZMod.val = inputs := by
  rw [List.map_map]
  conv_rhs => rw [← List.map_id inputs]
  exact List.map_congr_left fun n member => ZMod.val_natCast_of_lt (small n member)

theorem table_known (inputs : List Nat) (known : knownAnswers.lookup inputs = some z)
    (small : ∀ n ∈ inputs, n < fieldOrder) : tablePoseidon (inputs.map fun n : Nat => (n : Fr)) = (z : Fr) := by
  rw [tablePoseidon,lookup_val inputs small,known,Option.getD_some]

theorem compress_known (left right : Bytes 32) (one : left.value = x) (two : right.value = y)
    (known : knownAnswers.lookup [x,y] = some z) (small : x < fieldOrder ∧ y < fieldOrder ∧ z < fieldOrder) :
    compress tablePoseidon left right = Bytes.ofNat 32 z := by
  have hashed := table_known [x,y] known (by simp [small])
  simp only [List.map_cons,List.map_nil] at hashed
  rw [compress,fieldBytes,bytesField,bytesField,one,two,hashed,ZMod.val_natCast_of_lt small.2.2]

def zeroValues : List Nat := 0 :: zeroHashesTable.map Bytes.value

theorem zeroHashes_values : ∀ i : Fin TREE_LEVELS, ZERO_HASHES i = Bytes.ofNat 32 (zeroValues.getD (i.val+1) 0) ∧
    (ZERO_HASHES i).value = zeroValues.getD (i.val+1) 0 ∧ zeroValues.getD (i.val+1) 0 < fieldOrder := by
  decide

theorem zeroHashes_known : ∀ i : Fin TREE_LEVELS,
    knownAnswers.lookup [zeroValues.getD i.val 0,zeroValues.getD i.val 0] = some (zeroValues.getD (i.val+1) 0) := by
  decide

-- The table in `constants.rs` is the real chain of the real hash.
theorem zeroChain_known : ZeroChain tablePoseidon where
  first := by
    have entry := zeroHashes_values ⟨0,by decide⟩
    have empty : ZERO_VALUE.value = 0 := by decide
    rw [entry.1]
    exact (compress_known ZERO_VALUE ZERO_VALUE empty empty (zeroHashes_known ⟨0,by decide⟩)
      ⟨by decide,by decide,entry.2.2⟩).symm
  next := by
    intro i bound
    have entry := zeroHashes_values ⟨i,Nat.lt_of_succ_lt bound⟩
    have above := zeroHashes_values ⟨i+1,bound⟩
    rw [above.1]
    exact (compress_known _ _ entry.2.1 entry.2.1 (zeroHashes_known ⟨i+1,bound⟩)
      ⟨entry.2.2,entry.2.2,above.2.2⟩).symm

def sampleRuntime : Runtime where
  poseidon := tablePoseidon
  groth16 := fun _ _ _ inputs =>
    some (decide (inputs = [sampleRoot,sampleNullifierHash,sampleRecipientHash,sampleRelayerHash,sampleFee]))
  minimumBalance := fun space => (128 + space) * 3480 * 2
  findProgramAddress := sampleAddress
  createProgramAddress := fun seeds bump =>
    if (sampleAddress seeds).2 = bump then some (sampleAddress seeds).1 else none
  canSign := fun key => decide (key = ADMIN_AUTHORITY ∨ key = sampleDepositor ∨ key = sampleRelayer)
  derivedUnsigned := by
    intro seeds
    cases seeds <;> simp only [sampleAddress] <;> split <;> decide +kernel
  permissionlessInit := false

def sampleGenesis : Ledger := fun key =>
  if key = ADMIN_AUTHORITY ∨ key = sampleDepositor ∨ key = sampleRelayer then ⟨10000000000,.system⟩ else ⟨0,.system⟩

theorem sample_accepted : (submit sampleRuntime 0 sampleGenesis
    (.initializePool ADMIN_AUTHORITY samplePool sampleDenomination)).2 = .ok [] := by
  decide

theorem sample_created : ∃ start, execute sampleRuntime 0 sampleGenesis
    (.initializePool ADMIN_AUTHORITY samplePool sampleDenomination) = .ok (start,[]) :=
  submit_ok sample_accepted

def sampleDeposit : Instruction := .deposit sampleDepositor samplePool sampleCommitmentAccount sampleCommitment

theorem sample_path (start : Ledger) : Runs sampleRuntime start
    [.submitted start sampleDeposit (submit sampleRuntime 0 start sampleDeposit).2]
    (submit sampleRuntime 0 start sampleDeposit).1 :=
  .step .nil (.submitted 0 sampleDeposit)

theorem sample_supply : Balances.total sampleGenesis.lamports < 2^64 := by
  have three : ({ADMIN_AUTHORITY,sampleDepositor,sampleRelayer} : Finset Pubkey).card ≤ 3 := Finset.card_le_three
  have each : ∀ key, sampleGenesis.lamports key =
      if key ∈ ({ADMIN_AUTHORITY,sampleDepositor,sampleRelayer} : Finset Pubkey) then 10000000000 else 0 := by
    intro key
    simp only [Finset.mem_insert,Finset.mem_singleton,Ledger.lamports,sampleGenesis]
    split <;> rfl
  rw [Balances.total,Finset.sum_congr rfl fun key _ => each key,Finset.sum_ite_mem,Finset.univ_inter,
    Finset.sum_const,smul_eq_mul]
  omega

theorem sample_lands (created : execute sampleRuntime 0 sampleGenesis
    (.initializePool ADMIN_AUTHORITY samplePool sampleDenomination) = .ok (start,[])) :
    (submit sampleRuntime 0 start sampleDeposit).2 = .ok [.deposit ⟨sampleCommitment,0,0⟩] ∧
      ∃ pool, ((submit sampleRuntime 0 start sampleDeposit).1 samplePool).data = .pool pool ∧ pool.isPaused = 0 := by
  cases execute_exact created with
  | created made =>
    have initial := created_tracked zeroChain_known made fun i => ZERO_HASHES i
    rw [reseed_initial made] at initial
    obtain ⟨pool,loaded,valid⟩ := initial.pool
    have supply : Balances.total start.lamports < 2^64 := by
      rw [made.total]
      exact sample_supply
    have here := made.data samplePool
    rw [if_pos rfl] at here
    cases AccountData.pool.inj (loaded.symm.trans here)
    have apart : sampleCommitmentAccount ≠ samplePool := by decide
    have other : sampleDepositor ≠ samplePool := by decide
    have funds := made.lamports sampleDepositor
    rw [share_other (by decide : sampleDepositor ≠ ADMIN_AUTHORITY),share_other other] at funds
    have genesis : sampleGenesis.lamports sampleDepositor = 10000000000 := by decide
    obtain ⟨next,landed⟩ := deposit_lands zeroChain_known supply loaded valid rfl (by decide)
      (by decide : Canonical sampleCommitment) (by decide : sampleRuntime.canSign sampleDepositor = true)
      (by decide) (by rw [made.data]; decide) (by rw [made.data]; decide)
      (by decide) (by rw [Nat.add_zero] at funds; rw [funds]; decide)
    have address : commitmentAddress sampleRuntime samplePool sampleCommitment = sampleCommitmentAccount := by
      decide
    rw [address] at landed
    have ran : submit sampleRuntime 0 start sampleDeposit = (next,.ok [.deposit ⟨sampleCommitment,0,0⟩]) :=
      submit_executed landed
    rw [ran]
    refine ⟨rfl,?_⟩
    cases execute_exact landed with
    | deposited deposited =>
      have stored := deposited.data samplePool
      rw [if_pos rfl] at stored
      exact ⟨_,stored,deposited.active⟩

theorem sample_history (landed : (submit sampleRuntime 0 start sampleDeposit).2 = .ok events) :
    commitmentsOf samplePool [.submitted start sampleDeposit (submit sampleRuntime 0 start sampleDeposit).2] =
      [sampleCommitment] := by
  rw [landed]
  simp [commitmentsOf,depositOf,sampleDeposit]

-- Which accounts the sample deposit leaves alone.
structure SampleDeposited (start after : Ledger) : Prop where
  supply : Balances.total after.lamports < 2^64
  seeds : ∀ pool, (after samplePool).data = .pool pool → poolSeedsHold sampleRuntime samplePool pool
  data : ∀ key, key ≠ samplePool → key ≠ sampleCommitmentAccount → (after key).data = (sampleGenesis key).data
  lamports : ∀ key, key ≠ ADMIN_AUTHORITY → key ≠ samplePool → key ≠ sampleCommitmentAccount → key ≠ sampleDepositor →
    after.lamports key = sampleGenesis.lamports key
  depositor : 8999046480 ≤ after.lamports sampleDepositor

theorem sample_deposited (created : execute sampleRuntime 0 sampleGenesis
    (.initializePool ADMIN_AUTHORITY samplePool sampleDenomination) = .ok (start,[])) :
    SampleDeposited start (submit sampleRuntime 0 start sampleDeposit).1 := by
  obtain ⟨landed,_⟩ := sample_lands created
  cases execute_exact created with
  | created made =>
    rcases submit_cases sampleRuntime 0 start sampleDeposit with ⟨_,_,done⟩ | ⟨_,refused,_⟩
    · cases done with
      | deposited deposited =>
        rename_i pool inserted
        have stored := made.data samplePool
        rw [if_pos rfl,deposited.loaded] at stored
        cases AccountData.pool.inj stored
        refine ⟨runs_supply (sample_path start) (by rw [made.total]; exact sample_supply),?_,?_,?_,?_⟩
        · intro current here
          have moved := deposited.data samplePool
          rw [if_pos rfl,here] at moved
          rw [AccountData.pool.inj moved]
          change sampleRuntime.createProgramAddress (.mixerPool sampleDenomination) 255 = some samplePool
          decide
        · intro key one two
          rw [deposited.data,if_neg one,if_neg two,made.data,if_neg one]
        · intro key one two three four
          have first := made.lamports key
          have second := deposited.lamports key
          rw [share_other one,share_other two] at first
          rw [share_other four,share_other three,share_other two] at second
          omega
        · have depositorApart : sampleDepositor ≠ samplePool := by decide
          have accountApart : sampleDepositor ≠ sampleCommitmentAccount := by decide
          have first := made.lamports sampleDepositor
          have second := deposited.lamports sampleDepositor
          rw [share_other (by decide : sampleDepositor ≠ ADMIN_AUTHORITY),share_other depositorApart] at first
          rw [share_self,share_other accountApart,share_other depositorApart] at second
          have amount : sampleDenomination.toNat = 1000000000 := by decide
          have rent : sampleRuntime.minimumBalance CommitmentAccount.SPACE = 953520 := by decide
          have genesis : sampleGenesis.lamports sampleDepositor = 10000000000 := by decide
          simp only [initialPool,amount] at second
          omega
    · rw [landed] at refused
      cases refused

def sampleSecond : Bytes 32 := Bytes.ofNat 32 5

def sampleNextDeposit : Instruction := .deposit sampleDepositor samplePool ZERO_VALUE sampleSecond

def afterFirst (start : Ledger) : Ledger := (submit sampleRuntime 0 start sampleDeposit).1

-- Any deposit after the first gets index 1.
theorem sample_second (created : execute sampleRuntime 0 sampleGenesis
    (.initializePool ADMIN_AUTHORITY samplePool sampleDenomination) = .ok (start,[])) :
    (submit sampleRuntime 0 (afterFirst start) sampleNextDeposit).2 = .ok [.deposit ⟨sampleSecond,1,0⟩] := by
  obtain ⟨landed,current,here,active⟩ := sample_lands created
  have after := sample_deposited created
  cases execute_exact created with
  | created made =>
    have initial := created_tracked zeroChain_known made fun i => ZERO_HASHES i
    rw [reseed_initial made] at initial
    have tracked := runs_tracked (created_unsigned made) zeroChain_known initial (sample_path start)
    rw [sample_history landed] at tracked
    obtain ⟨pool,loaded,valid⟩ := tracked.pool
    cases AccountData.pool.inj (here.symm.trans loaded)
    have depositorApart : sampleDepositor ≠ samplePool ∧ sampleDepositor ≠ sampleCommitmentAccount := by
      decide
    have zeroApart : ZERO_VALUE ≠ samplePool ∧ ZERO_VALUE ≠ sampleCommitmentAccount := by decide
    have address : commitmentAddress sampleRuntime samplePool sampleSecond = ZERO_VALUE := by decide
    have signed : sampleRuntime.canSign sampleDepositor = true := by decide
    have canonical : Canonical sampleSecond := by decide
    obtain ⟨next,again⟩ := deposit_lands zeroChain_known after.supply here valid active (by decide) canonical signed
      (after.seeds current here) (by rw [address,after.data _ zeroApart.1 zeroApart.2]; decide)
      (by rw [after.data _ depositorApart.1 depositorApart.2]; decide) (by rw [address]; decide)
      (Nat.le_trans (by decide) after.depositor)
    rw [address] at again
    exact congrArg Prod.snd (submit_executed again)

def samplePair (start : Ledger) : List Receipt := [
  .submitted start sampleDeposit (submit sampleRuntime 0 start sampleDeposit).2,
  .submitted (afterFirst start) sampleNextDeposit (submit sampleRuntime 0 (afterFirst start) sampleNextDeposit).2]

def afterPair (start : Ledger) : Ledger := (submit sampleRuntime 0 (afterFirst start) sampleNextDeposit).1

theorem sample_pair (start : Ledger) : Runs sampleRuntime start (samplePair start) (afterPair start) :=
  .step (sample_path start) (.submitted 0 sampleNextDeposit)

theorem pair_history (created : execute sampleRuntime 0 sampleGenesis
    (.initializePool ADMIN_AUTHORITY samplePool sampleDenomination) = .ok (start,[])) :
    commitmentsOf samplePool (samplePair start) = [sampleCommitment,sampleSecond] := by
  rw [samplePair,(sample_lands created).1,sample_second created]
  simp [commitmentsOf,depositOf,sampleDeposit,sampleNextDeposit]

-- The cache that `initialize` seeds is arbitrary here: no run reads it.
theorem deposits_refine_tree (zeros : ZeroChain env.poseidon)
    (created : execute env now before (.initializePool authority poolKey denomination) = .ok (start,events))
    (filled : Fin TREE_LEVELS → Bytes 32) (path : Runs env (reseed poolKey filled start) receipts ledger) :
    reseed poolKey (fun i => ZERO_HASHES i) start = start ∧
    ∃ pool, (ledger poolKey).data = .pool pool ∧
      pool.currentRoot = treeRoot env.poseidon (commitmentsOf poolKey receipts) ∧
      pool.nextLeafIndex = (commitmentsOf poolKey receipts).length ∧
      (commitmentsOf poolKey receipts).length ≤ 2^20 ∧
      (∀ commitment i state (bound : i < TREE_LEVELS),
        insertLevels env.poseidon i ⟨pool.filledSubtrees,commitment,pool.nextLeafIndex⟩ = .ok state →
        state.index &&& 1 ≠ 0 →
        state.filled ⟨i,bound⟩ = node (compress env.poseidon) (padded ZERO_VALUE (commitmentsOf poolKey receipts)) i
          ((commitmentsOf poolKey receipts).length / 2^i - 1) ∧
        ((commitmentsOf poolKey receipts).length / 2^i - 1 + 1) * 2^i ≤ (commitmentsOf poolKey receipts).length) ∧
      ((commitmentsOf poolKey receipts).length = 2^20 → ∀ now depositor commitmentKey commitment,
        (submit env now ledger (.deposit depositor poolKey commitmentKey commitment)).1 = ledger ∧
        (pool.isPaused = 0 → env.canSign depositor = true → poolSeedsHold env poolKey pool →
          ∀ allocated, initAccount env ledger depositor commitmentKey (.commitment poolKey commitment)
            CommitmentAccount.SPACE .commitment = .ok allocated →
          submit env now ledger (.deposit depositor poolKey commitmentKey commitment) =
            (ledger,.error (.mixer .TreeFull)))) := by
  cases execute_exact created with
  | created made =>
    obtain ⟨pool,loaded,valid⟩ :=
      (runs_tracked (created_unsigned made) zeros (created_tracked zeros made filled) path).pool
    have capacity : (commitmentsOf poolKey receipts).length ≤ 2^20 := valid.capacity
    refine ⟨reseed_initial made,pool,loaded,currentRoot_exact valid,valid.leaves,capacity,?_,?_⟩
    · intro commitment i state bound entered right
      exact insertLevels_reads zeros valid bound entered right
    · intro reached now depositor commitmentKey commitment
      have full : ¬pool.nextLeafIndex < MAX_LEAVES := by
        rw [valid.leaves,reached]
        decide
      refine ⟨deposit_stops loaded full now depositor commitmentKey commitment,?_⟩
      intro active signed seeds allocated allocation
      exact deposit_full loaded full active signed allocation seeds

theorem deposits_refine_tree_sample : ∃ start receipts ledger,
    execute sampleRuntime 0 sampleGenesis (.initializePool ADMIN_AUTHORITY samplePool sampleDenomination) =
      .ok (start,[]) ∧
    Runs sampleRuntime start receipts ledger ∧
    commitmentsOf samplePool receipts = [sampleCommitment,sampleSecond] ∧
    ∃ pool, (ledger samplePool).data = .pool pool ∧ pool.nextLeafIndex = 2 ∧
      pool.currentRoot = treeRoot tablePoseidon [sampleCommitment,sampleSecond] := by
  obtain ⟨start,created⟩ := sample_created
  have seeded := (deposits_refine_tree zeroChain_known created (fun i => ZERO_HASHES i) .nil).1
  have path := sample_pair start
  have history := pair_history created
  obtain ⟨_,pool,loaded,current,leaves,_⟩ := deposits_refine_tree zeroChain_known created (fun i => ZERO_HASHES i)
    (by rw [seeded]; exact path)
  rw [history] at current leaves
  exact ⟨start,_,_,created,path,history,pool,loaded,leaves,current⟩

-- The window after `n` deposits is the last 256 roots, the empty root included
-- while it is young enough.
theorem known_roots_exact (zeros : ZeroChain env.poseidon)
    (created : execute env now before (.initializePool authority poolKey denomination) = .ok (start,events))
    (path : Runs env start receipts ledger) :
    ∃ pool, (ledger poolKey).data = .pool pool ∧
      (∀ r, pool.isKnownRoot r ↔ ∃ k, (commitmentsOf poolKey receipts).length - 255 ≤ k ∧
        k ≤ (commitmentsOf poolKey receipts).length ∧
        r = treeRoot env.poseidon ((commitmentsOf poolKey receipts).take k)) ∧
      (∀ k ≤ (commitmentsOf poolKey receipts).length,
        (∀ later ≤ (commitmentsOf poolKey receipts).length, k < later →
          treeRoot env.poseidon ((commitmentsOf poolKey receipts).take later) ≠
            treeRoot env.poseidon ((commitmentsOf poolKey receipts).take k)) →
        (pool.isKnownRoot (treeRoot env.poseidon ((commitmentsOf poolKey receipts).take k)) ↔
          (commitmentsOf poolKey receipts).length ≤ k + 255)) ∧
      ((∀ k ≤ (commitmentsOf poolKey receipts).length,
        treeRoot env.poseidon ((commitmentsOf poolKey receipts).take k) ≠ ZERO_VALUE) →
        ¬pool.isKnownRoot ZERO_VALUE) ∧
      pool.currentRootIndex.toNat = (commitmentsOf poolKey receipts).length % 256 ∧
      (∀ receipt after, Step env ledger receipt after → depositOf poolKey receipt = none →
        ∃ next, (after poolKey).data = .pool next ∧ ∀ r, next.isKnownRoot r ↔ pool.isKnownRoot r) := by
  cases execute_exact created with
  | created made =>
    have unsigned := created_unsigned made
    have initial := created_tracked zeros made fun i => ZERO_HASHES i
    rw [reseed_initial made] at initial
    have tracked := runs_tracked unsigned zeros initial path
    obtain ⟨pool,loaded,valid⟩ := tracked.pool
    have known : ∀ r, pool.isKnownRoot r ↔ ∃ k, (commitmentsOf poolKey receipts).length - 255 ≤ k ∧
        k ≤ (commitmentsOf poolKey receipts).length ∧
        r = treeRoot env.poseidon ((commitmentsOf poolKey receipts).take k) := by
      intro r
      rw [isKnownRoot_exact valid]
      constructor
      · rintro ⟨k,entered,recent,equal⟩
        exact ⟨k,by simp only [ROOT_HISTORY_SIZE] at recent; omega,entered,equal⟩
      · rintro ⟨k,recent,entered,equal⟩
        exact ⟨k,entered,by simp only [ROOT_HISTORY_SIZE]; omega,equal⟩
    refine ⟨pool,loaded,known,?_,?_,valid.cursor,?_⟩
    · intro k entered unique
      rw [known]
      constructor
      · rintro ⟨other,recent,bounded,equal⟩
        have order : other ≤ k := by
          by_contra above
          exact unique other bounded (by omega) equal.symm
        omega
      · intro recent
        exact ⟨k,by omega,entered,rfl⟩
    · intro nonzero accepted
      obtain ⟨k,_,entered,equal⟩ := (known ZERO_VALUE).mp accepted
      exact nonzero k entered equal.symm
    · intro receipt after step quiet
      obtain ⟨next,here,nextValid⟩ := (step_tracked unsigned zeros tracked step).pool
      rw [quiet,Option.toList_none,List.append_nil] at nextValid
      refine ⟨next,here,fun r => ?_⟩
      rw [isKnownRoot_exact valid,isKnownRoot_exact nextValid]

theorem known_roots_exact_sample : ∃ start receipts ledger,
    execute sampleRuntime 0 sampleGenesis (.initializePool ADMIN_AUTHORITY samplePool sampleDenomination) =
      .ok (start,[]) ∧
    Runs sampleRuntime start receipts ledger ∧
    commitmentsOf samplePool receipts = [sampleCommitment,sampleSecond] ∧
    ∃ pool, (ledger samplePool).data = .pool pool ∧ pool.currentRootIndex.toNat = 2 ∧
      pool.isKnownRoot (treeRoot tablePoseidon [sampleCommitment]) ∧
      pool.isKnownRoot (treeRoot tablePoseidon [sampleCommitment,sampleSecond]) := by
  obtain ⟨start,created⟩ := sample_created
  have history := pair_history created
  obtain ⟨pool,loaded,known,_,_,cursor,_⟩ := known_roots_exact zeroChain_known created (sample_pair start)
  rw [history] at known cursor
  refine ⟨start,_,_,created,sample_pair start,history,pool,loaded,cursor,?_,?_⟩
  · exact (known _).mpr ⟨1,by decide,by decide,rfl⟩
  · exact (known _).mpr ⟨2,by decide,by decide,rfl⟩

end Octora
