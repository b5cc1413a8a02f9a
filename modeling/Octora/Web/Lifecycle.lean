import Octora.Web.LocalPositions

namespace Octora.Web
open BigIntText Executor StealthVault

structure PositionStateView where
  lowerBinId : Int
  upperBinId : Int
  activeBinId : Option Int
  feeXLamports : Text
  feeYLamports : Text

structure PortfolioPosition where
  id : Text
  poolAddress : Address
  stealthPubkey : Text
  derivationVersion : Option DerivationVersion
  closed : Bool
  rangeLowerBin : Int
  rangeUpperBin : Int
  activeBinId : Option Int
  shape : DistributionShape
  status : String
  inRange : Option Bool
  hasClaimableFees : Bool

def safeBigInt (s : Text) : Int := (bigInt s).getD 0

-- usePortfolioPositions.ts
def mapStoredToPortfolio (s : StoredPosition) (binsActiveBinId : Option Int) (state : Option PositionStateView) :
    PortfolioPosition :=
  let lowerBinId := (state.map PositionStateView.lowerBinId).getD s.lowerBinId
  let upperBinId := (state.map PositionStateView.upperBinId).getD s.upperBinId
  let activeBinId := (state.bind PositionStateView.activeBinId).or binsActiveBinId
  let inRange := activeBinId.map fun bin => decide (lowerBinId ≤ bin ∧ bin ≤ upperBinId)
  {
    id := s.positionId
    poolAddress := s.poolAddress
    stealthPubkey := s.stealthPubkey
    derivationVersion := s.derivationVersion
    closed := s.closed
    rangeLowerBin := lowerBinId
    rangeUpperBin := upperBinId
    activeBinId := activeBinId
    shape := s.shape
    status := if s.closed then "Closed · awaiting sweep" else if inRange = some false then "Out of range" else "Active"
    inRange := if s.closed then none else inRange
    hasClaimableFees := !s.closed && state.any fun view =>
      decide (0 < safeBigInt view.feeXLamports ∨ 0 < safeBigInt view.feeYLamports) }

-- What the three modals hand on as the position's id.
def modalPositionId (position : PortfolioPosition) : Option Text :=
  if position.derivationVersion = some .v1 then none else some position.id

def PrivateClaimModal.start (position : PortfolioPosition) : Option Text := modalPositionId position

def PrivateExitModal.start (position : PortfolioPosition) : Option Text := modalPositionId position

def PrivateRebalanceModal.start (position : PortfolioPosition) : Option Text := modalPositionId position

-- PositionDetailPage.tsx reads a missing version the other way.
def SweepPanel.handleDirect (position : PortfolioPosition) : Option Text :=
  if position.derivationVersion = some .v2 then some position.id else none

-- PortfolioPage.tsx: `runClaimFees` gets no id, whatever the version.
def PortfolioPage.handleClaim (_position : PortfolioPosition) : Option Text := none

-- privateClaim.ts, privateExit.ts, privateRebalance.ts, privateLifecycle.ts: an empty
-- id counts as none.
def deriveForLifecycle (mainWalletAddress poolAddress : Address) (positionId : Option Text) : Operation :=
  match positionId with
  | some id =>
    if id = [] then .deriveStealthForPool mainWalletAddress poolAddress
    else .deriveStealthForPosition mainWalletAddress poolAddress id
  | none => .deriveStealthForPool mainWalletAddress poolAddress

-- The position page's three modals and its sweep, and the claim button of the portfolio.
inductive EntryPoint where
  | claim
  | portfolioClaim
  | exit
  | rebalance
  | sweep
  deriving DecidableEq

def EntryPoint.positionId : EntryPoint → PortfolioPosition → Option Text
  | .claim => PrivateClaimModal.start
  | .portfolioClaim => PortfolioPage.handleClaim
  | .exit => PrivateExitModal.start
  | .rebalance => PrivateRebalanceModal.start
  | .sweep => SweepPanel.handleDirect

def EntryPoint.derives (entry : EntryPoint) (mainWalletAddress : Address) (position : PortfolioPosition) : Operation :=
  deriveForLifecycle mainWalletAddress position.poolAddress (entry.positionId position)

-- PositionDetailPage.tsx, PositionCard.tsx, PositionListRow.tsx: what is offered to a
-- connected wallet.
def EntryPoint.Offered : EntryPoint → PortfolioPosition → Prop
  | .claim,position => position.hasClaimableFees = true ∧ position.stealthPubkey ≠ []
  | .portfolioClaim,position => position.hasClaimableFees = true
  | .exit,position => position.closed = false ∧ position.stealthPubkey ≠ []
  | .rebalance,position => position.closed = false ∧ position.stealthPubkey ≠ []
  | .sweep,position => position.closed = true

-- The scheme a record was opened under.
def scheme (mainWalletAddress : Address) (s : StoredPosition) : Operation :=
  if s.derivationVersion = some .v2 then .deriveStealthForPosition mainWalletAddress s.poolAddress s.positionId
  else .deriveStealthForPool mainWalletAddress s.poolAddress

-- Every entry point that is offered acts on the stealth that the record names.
structure Recovers (crypto : Crypto) (mainWalletAddress : Address) (opened : StoredPosition) (position : PortfolioPosition) :
    Prop where
  scheme : ∀ entry : EntryPoint,entry.Offered position →
    entry.derives mainWalletAddress position = scheme mainWalletAddress opened
  key : ∀ entry : EntryPoint,entry.Offered position →
    crypto.toBase58 (expected crypto (entry.derives mainWalletAddress position)) = opened.stealthPubkey
  agree : ∀ one two : EntryPoint,one.Offered position → two.Offered position →
    one.derives mainWalletAddress position = two.derives mainWalletAddress position

-- An old record is right at the sweep alone, a new one everywhere but at the portfolio's
-- claim. Ids are not empty; where one was, the entry points would all take the record
-- for an old one.
def Recoverable (s : StoredPosition) (position : PortfolioPosition) : Prop :=
  match s.derivationVersion with
  | some .v1 => True
  | some .v2 => s.positionId ≠ [] ∧ position.hasClaimableFees = false
  | none => s.positionId = [] ∨ position.closed = true

section Entries
variable {mainWalletAddress : Address} {opened s : StoredPosition} {binsActiveBinId : Option Int} {state : Option PositionStateView}

theorem pool_derives (same : SameStealth opened s) (entry : EntryPoint)
    (old : opened.derivationVersion = some .v1 ∨ opened.positionId = [] ∨ entry = .portfolioClaim ∨
      entry = .sweep ∧ opened.derivationVersion = none) :
    entry.derives mainWalletAddress (mapStoredToPortfolio s binsActiveBinId state) =
      .deriveStealthForPool mainWalletAddress opened.poolAddress := by
  rw [same.positionId,same.derivationVersion] at old
  rw [same.poolAddress]
  change deriveForLifecycle mainWalletAddress s.poolAddress _ = _
  rcases old with version | empty | rfl | ⟨rfl,version⟩
  · cases entry <;>
      simp [deriveForLifecycle,EntryPoint.positionId,PrivateClaimModal.start,PortfolioPage.handleClaim,PrivateExitModal.start,
        PrivateRebalanceModal.start,SweepPanel.handleDirect,modalPositionId,mapStoredToPortfolio,version]
  · cases entry <;>
      simp only [EntryPoint.positionId,PrivateClaimModal.start,PortfolioPage.handleClaim,PrivateExitModal.start,
        PrivateRebalanceModal.start,SweepPanel.handleDirect,modalPositionId,mapStoredToPortfolio,empty]
    all_goals first | rfl | (split <;> rfl)
  · rfl
  · simp [deriveForLifecycle,EntryPoint.positionId,SweepPanel.handleDirect,mapStoredToPortfolio,version]

theorem position_derives (same : SameStealth opened s) (entry : EntryPoint) (named : opened.positionId ≠ [])
    (own : entry ≠ .portfolioClaim)
    (new : opened.derivationVersion = some .v2 ∨ opened.derivationVersion = none ∧ entry ≠ .sweep) :
    entry.derives mainWalletAddress (mapStoredToPortfolio s binsActiveBinId state) =
      .deriveStealthForPosition mainWalletAddress opened.poolAddress opened.positionId := by
  rw [same.positionId] at named ⊢
  rw [same.derivationVersion] at new
  rw [same.poolAddress]
  change deriveForLifecycle mainWalletAddress s.poolAddress _ = _
  rcases new with version | ⟨version,modal⟩
  · cases entry <;>
      simp_all [deriveForLifecycle,EntryPoint.positionId,PrivateClaimModal.start,PrivateExitModal.start,
        PrivateRebalanceModal.start,SweepPanel.handleDirect,modalPositionId,mapStoredToPortfolio]
  · cases entry <;>
      simp_all [deriveForLifecycle,EntryPoint.positionId,PrivateClaimModal.start,PrivateExitModal.start,
        PrivateRebalanceModal.start,modalPositionId,mapStoredToPortfolio]

theorem closed_unclaimable (closed : (mapStoredToPortfolio s binsActiveBinId state).closed = true) :
    (mapStoredToPortfolio s binsActiveBinId state).hasClaimableFees = false := by
  have marked : s.closed = true := closed
  simp [mapStoredToPortfolio,marked]

-- An open position can be left, a closed one can be swept.
theorem exit_or_sweep (addressed : s.stealthPubkey ≠ []) :
    ∃ entry : EntryPoint,entry ≠ .portfolioClaim ∧ entry.Offered (mapStoredToPortfolio s binsActiveBinId state) := by
  cases closed : s.closed with
  | true => exact ⟨.sweep,by decide,closed⟩
  | false => exact ⟨.exit,by decide,closed,addressed⟩

theorem scheme_exact (same : SameStealth opened s) (addressed : opened.stealthPubkey ≠ []) :
    (∀ entry : EntryPoint,entry.Offered (mapStoredToPortfolio s binsActiveBinId state) →
      entry.derives mainWalletAddress (mapStoredToPortfolio s binsActiveBinId state) = scheme mainWalletAddress opened) ↔
    Recoverable opened (mapStoredToPortfolio s binsActiveBinId state) := by
  rw [same.stealthPubkey] at addressed
  unfold Recoverable scheme
  cases version : opened.derivationVersion with
  | none =>
    refine ⟨fun all => ?_,fun fine entry offered => ?_⟩
    · by_contra wrong
      obtain ⟨named,opened_⟩ := not_or.mp wrong
      have leaves := all .exit ⟨Bool.eq_false_iff.mpr opened_,addressed⟩
      rw [position_derives same .exit named (by decide) (.inr ⟨version,by decide⟩)] at leaves
      cases leaves
    · refine pool_derives same entry ?_
      rcases fine with empty | closed
      · exact .inr (.inl empty)
      · have unclaimable := closed_unclaimable closed
        cases entry with
        | claim => cases unclaimable.symm.trans offered.1
        | portfolioClaim => exact .inr (.inr (.inl rfl))
        | exit => cases closed.symm.trans offered.1
        | rebalance => cases closed.symm.trans offered.1
        | sweep => exact .inr (.inr (.inr ⟨rfl,version⟩))
  | some which =>
    cases which with
    | v1 => exact iff_of_true (fun entry _ => pool_derives same entry (.inl version)) trivial
    | v2 =>
      refine ⟨fun all => ⟨fun empty => ?_,Bool.eq_false_iff.mpr fun fees => ?_⟩,fun fine entry offered => ?_⟩
      · obtain ⟨entry,-,offered⟩ := exit_or_sweep addressed
        have leaves := all entry offered
        rw [pool_derives same entry (.inr (.inl empty))] at leaves
        cases leaves
      · have claims := all .portfolioClaim fees
        rw [pool_derives same .portfolioClaim (.inr (.inr (.inl rfl)))] at claims
        cases claims
      · refine position_derives same entry fine.1 ?_ (.inl version)
        rintro rfl
        cases fine.2.symm.trans offered

theorem agree_exact (same : SameStealth opened s) :
    (∀ one two : EntryPoint,one.derives mainWalletAddress (mapStoredToPortfolio s binsActiveBinId state) =
      two.derives mainWalletAddress (mapStoredToPortfolio s binsActiveBinId state)) ↔
    opened.derivationVersion = some .v1 ∨ opened.positionId = [] := by
  constructor
  · intro all
    by_contra wrong
    obtain ⟨version,named⟩ := not_or.mp wrong
    have new : opened.derivationVersion = some .v2 ∨ opened.derivationVersion = none ∧ EntryPoint.claim ≠ .sweep := by
      cases marked : opened.derivationVersion with
      | none => exact .inr ⟨rfl,by decide⟩
      | some which =>
        cases which with
        | v1 => exact absurd marked version
        | v2 => exact .inl rfl
    have claims := all .claim .portfolioClaim
    rw [position_derives same .claim named (by decide) new,pool_derives same .portfolioClaim (.inr (.inr (.inl rfl)))] at claims
    cases claims
  · intro old one two
    rw [pool_derives same one (old.imp_right .inl),pool_derives same two (old.imp_right .inl)]

end Entries

-- All entry points agree, offered or not, only about a record of the first scheme.
theorem stealth_recovered (crypto : Crypto) (mainWalletAddress : Address) (storage : LocalStorage) (updates : List Update)
    (addressed : ∀ keypair,crypto.toBase58 keypair ≠ [])
    (keyed : ∀ opened,opened ∈ listLocalPositions storage mainWalletAddress.text ∨
      Update.add mainWalletAddress.text opened ∈ updates →
        opened.stealthPubkey = crypto.toBase58 (expected crypto (scheme mainWalletAddress opened)))
    (s : StoredPosition)
    (listed : s ∈ listLocalPositions (updates.foldl Update.apply storage) mainWalletAddress.text) :
    ∃ opened,(opened ∈ listLocalPositions storage mainWalletAddress.text ∨
        Update.add mainWalletAddress.text opened ∈ updates) ∧ SameStealth opened s ∧
      ∀ binsActiveBinId state,
        (Recovers crypto mainWalletAddress opened (mapStoredToPortfolio s binsActiveBinId state) ↔
          Recoverable opened (mapStoredToPortfolio s binsActiveBinId state)) ∧
        ((∀ one two : EntryPoint,one.derives mainWalletAddress (mapStoredToPortfolio s binsActiveBinId state) =
            two.derives mainWalletAddress (mapStoredToPortfolio s binsActiveBinId state)) ↔
          opened.derivationVersion = some .v1 ∨ opened.positionId = []) := by
  obtain ⟨opened,from_,same⟩ := history_from updates storage listed
  have named : opened.stealthPubkey ≠ [] := by
    rw [keyed opened from_]
    exact addressed _
  refine ⟨opened,from_,same,fun binsActiveBinId state => ⟨⟨fun recovers => ?_,fun recoverable => ?_⟩,agree_exact same⟩⟩
  · exact (scheme_exact same named).mp recovers.scheme
  · have schemes : ∀ entry : EntryPoint,entry.Offered (mapStoredToPortfolio s binsActiveBinId state) →
        entry.derives mainWalletAddress (mapStoredToPortfolio s binsActiveBinId state) = scheme mainWalletAddress opened :=
      (scheme_exact same named).mpr recoverable
    refine ⟨schemes,fun entry offered => ?_,fun one two offered also => ?_⟩
    · rw [schemes entry offered,keyed opened from_]
    · rw [schemes one offered,schemes two also]

theorem main_plain : ':' ∉ ['A'] := by decide

theorem pool_plain : ':' ∉ ['P'] := by decide

def sampleMain : Address := ⟨['A'],main_plain⟩

def samplePool : Address := ⟨['P'],pool_plain⟩

def samplePosition (derivationVersion : Option DerivationVersion) : StoredPosition where
  positionId := ['1']
  poolAddress := samplePool
  positionPubkey := ['K']
  stealthPubkey := sampleCrypto.toBase58 (expected sampleCrypto (if derivationVersion = some .v2 then
    .deriveStealthForPosition sampleMain samplePool ['1'] else .deriveStealthForPool sampleMain samplePool))
  lowerBinId := 0
  upperBinId := 20
  shape := .spot
  closed := false
  closedAt := none
  withdrawSignature := none
  withdrawRecipient := none
  signatures := none
  derivationVersion := derivationVersion

def sampleStorage (s : StoredPosition) : LocalStorage := fun wallet => if wallet = ['A'] then [s] else []

-- A position with fees on its SOL side.
def sampleState : PositionStateView := ⟨0,20,none,['7'],['0']⟩

theorem sample_addressed (keypair : sampleCrypto.Keypair) : sampleCrypto.toBase58 keypair ≠ [] := by
  intro empty
  cases empty

theorem sample_pubkey (derivationVersion : Option DerivationVersion) : (samplePosition derivationVersion).stealthPubkey ≠ [] := by
  intro empty
  cases empty

theorem sample_keyed (derivationVersion : Option DerivationVersion) (opened : StoredPosition)
    (inside : opened ∈ listLocalPositions (sampleStorage (samplePosition derivationVersion)) sampleMain.text ∨
      Update.add sampleMain.text opened ∈ [Update.close ['A'] ['1'] ⟨none,none,none⟩ 5]) :
    opened.stealthPubkey = sampleCrypto.toBase58 (expected sampleCrypto (scheme sampleMain opened)) := by
  rcases inside with there | added
  · cases List.mem_singleton.mp there
    rfl
  · cases List.mem_singleton.mp added

-- The two schemes give keys that differ.
theorem sample_apart : sampleCrypto.toBase58 (expected sampleCrypto (.deriveStealthForPool sampleMain samplePool)) ≠
    sampleCrypto.toBase58 (expected sampleCrypto (.deriveStealthForPosition sampleMain samplePool ['1'])) := by
  intro same
  have expects : ∀ operation : Operation,expected sampleCrypto operation = (operation.wallet.text,utf8 operation.signed) :=
    fun _ => rfl
  rw [expects,expects] at same
  have bytes := sample_toBase58 (Eq.refl sampleMain.text) same
  exact versions_apart _ _ _ (utf8_injective bytes)

-- A record from before versions is claimed under a key for the position, a new one is
-- claimed from the portfolio under the pool's.
theorem legacy_lost :
    ¬Recovers sampleCrypto sampleMain (samplePosition none) (mapStoredToPortfolio (samplePosition none) none (some sampleState)) ∧
    ¬Recovers sampleCrypto sampleMain (samplePosition (some .v2))
      (mapStoredToPortfolio (samplePosition (some .v2)) none (some sampleState)) := by
  have fees : ∀ version,(mapStoredToPortfolio (samplePosition version) none (some sampleState)).hasClaimableFees = true := by
    intro version
    have paid : 0 < safeBigInt ['7'] := by decide
    simp [mapStoredToPortfolio,samplePosition,sampleState,paid]
  constructor
  · intro recovers
    have claims := recovers.key .claim ⟨fees none,sample_pubkey none⟩
    rw [position_derives (.refl _) .claim (by decide) (by decide) (.inr ⟨rfl,by decide⟩)] at claims
    exact sample_apart claims.symm
  · intro recovers
    have claims := recovers.key .portfolioClaim (fees _)
    rw [pool_derives (.refl _) .portfolioClaim (.inr (.inr (.inl rfl)))] at claims
    exact sample_apart claims

theorem stealth_recovered_sample : ∃ opened : StoredPosition,opened.positionId = ['1'] ∧
    Recovers sampleCrypto sampleMain opened
      (mapStoredToPortfolio { samplePosition (some .v2) with closed := true, closedAt := some 5 } none none) := by
  have found := stealth_recovered sampleCrypto sampleMain (sampleStorage (samplePosition (some .v2)))
    [.close ['A'] ['1'] ⟨none,none,none⟩ 5] sample_addressed (sample_keyed (some .v2))
    { samplePosition (some .v2) with closed := true, closedAt := some 5 } (List.mem_singleton_self _)
  obtain ⟨opened,-,same,exact⟩ := found
  refine ⟨opened,same.positionId,(exact none none).1.mpr ?_⟩
  unfold Recoverable
  rw [same.derivationVersion]
  exact ⟨fun empty => absurd (same.positionId.symm.trans empty) (by decide),rfl⟩

end Octora.Web
