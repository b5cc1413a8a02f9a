import Octora.Executor.SingleSided
import Octora.Web.StealthVault

namespace Octora.Web
open Executor StealthVault

inductive DerivationVersion where
  | v1
  | v2
  deriving DecidableEq

structure Signatures where
  mixerDeposit : Option Text
  relayerWithdraw : Option Text
  init : Option Text
  fund : Option Text
  deriving DecidableEq

-- localPositions.ts
structure StoredPosition where
  positionId : Text
  poolAddress : Address
  positionPubkey : Text
  stealthPubkey : Text
  lowerBinId : Int
  upperBinId : Int
  shape : DistributionShape
  closed : Bool
  closedAt : Option Int
  withdrawSignature : Option Text
  withdrawRecipient : Option Text
  signatures : Option Signatures
  derivationVersion : Option DerivationVersion
  deriving DecidableEq

structure CloseMetadata where
  signature : Option Text
  recipient : Option Text
  ts : Option Int

structure RebalanceMetadata where
  lowerBinId : Int
  upperBinId : Int
  shape : DistributionShape
  positionPubkey : Text
  fundSignature : Option Text

-- The lists that the browser keeps, one for each wallet. What is not such a list
-- reads as an empty one.
abbrev LocalStorage := Text → List StoredPosition

def listLocalPositions (storage : LocalStorage) (walletAddress : Text) : List StoredPosition :=
  if walletAddress = [] then [] else storage walletAddress

def setItem (storage : LocalStorage) (walletAddress : Text) (next : List StoredPosition) : LocalStorage :=
  fun wallet => if wallet = walletAddress then next else storage wallet

def addLocalPosition (storage : LocalStorage) (walletAddress : Text) (position : StoredPosition) : LocalStorage :=
  if walletAddress = [] then storage
  else setItem storage walletAddress
    (position :: (listLocalPositions storage walletAddress).filter fun p => p.positionId ≠ position.positionId)

def closedWith (now : Int) (metadata : CloseMetadata) (p : StoredPosition) : StoredPosition :=
  { p with
    closed := true
    closedAt := some (metadata.ts.getD now)
    withdrawSignature := metadata.signature
    withdrawRecipient := metadata.recipient }

def markLocalPositionClosed (storage : LocalStorage) (walletAddress positionId : Text) (metadata : CloseMetadata)
    (now : Int) : LocalStorage :=
  if walletAddress = [] then storage
  else setItem storage walletAddress ((listLocalPositions storage walletAddress).map fun p =>
    if p.positionId ≠ positionId ∨ p.closed then p else closedWith now metadata p)

def rebalancedWith (patch : RebalanceMetadata) (p : StoredPosition) : StoredPosition :=
  let signatures := p.signatures.getD ⟨none,none,none,none⟩
  { p with
    lowerBinId := patch.lowerBinId
    upperBinId := patch.upperBinId
    shape := patch.shape
    positionPubkey := patch.positionPubkey
    signatures := some { signatures with
      fund := match patch.fundSignature with
        | some signature => if signature = [] then signatures.fund else some signature
        | none => signatures.fund } }

def markLocalPositionRebalanced (storage : LocalStorage) (walletAddress positionId : Text) (patch : RebalanceMetadata) :
    LocalStorage :=
  if walletAddress = [] then storage
  else setItem storage walletAddress ((listLocalPositions storage walletAddress).map fun p =>
    if p.positionId ≠ positionId then p else rebalancedWith patch p)

def removeLocalPosition (storage : LocalStorage) (walletAddress positionId : Text) : LocalStorage :=
  if walletAddress = [] then storage
  else setItem storage walletAddress ((listLocalPositions storage walletAddress).filter fun p => p.positionId ≠ positionId)

inductive Update where
  | add (walletAddress : Text) (position : StoredPosition)
  | close (walletAddress positionId : Text) (metadata : CloseMetadata) (now : Int)
  | rebalance (walletAddress positionId : Text) (patch : RebalanceMetadata)
  | remove (walletAddress positionId : Text)

def Update.apply (storage : LocalStorage) : Update → LocalStorage
  | .add walletAddress position => addLocalPosition storage walletAddress position
  | .close walletAddress positionId metadata now => markLocalPositionClosed storage walletAddress positionId metadata now
  | .rebalance walletAddress positionId patch => markLocalPositionRebalanced storage walletAddress positionId patch
  | .remove walletAddress positionId => removeLocalPosition storage walletAddress positionId

-- What no update changes: which stealth a record is about, and how to derive it.
structure SameStealth (one two : StoredPosition) : Prop where
  positionId : one.positionId = two.positionId
  poolAddress : one.poolAddress = two.poolAddress
  stealthPubkey : one.stealthPubkey = two.stealthPubkey
  derivationVersion : one.derivationVersion = two.derivationVersion

theorem SameStealth.refl (p : StoredPosition) : SameStealth p p := ⟨rfl,rfl,rfl,rfl⟩

theorem SameStealth.trans (first : SameStealth one two) (second : SameStealth two three) : SameStealth one three :=
  ⟨first.1.trans second.1,first.2.trans second.2,first.3.trans second.3,first.4.trans second.4⟩

theorem closed_same (now : Int) (metadata : CloseMetadata) (p : StoredPosition) : SameStealth p (closedWith now metadata p) :=
  ⟨rfl,rfl,rfl,rfl⟩

theorem rebalanced_same (patch : RebalanceMetadata) (p : StoredPosition) : SameStealth p (rebalancedWith patch p) :=
  ⟨rfl,rfl,rfl,rfl⟩

section Storage
variable {storage : LocalStorage} {walletAddress : Text} {p : StoredPosition}

theorem mem_setItem (member : p ∈ listLocalPositions (setItem storage written next) walletAddress) :
    p ∈ listLocalPositions storage walletAddress ∨ walletAddress = written ∧ p ∈ next := by
  unfold listLocalPositions at member ⊢
  split at member
  · exact absurd member List.not_mem_nil
  rename_i named
  rw [if_neg named]
  by_cases same : walletAddress = written
  · exact .inr ⟨same,by simpa only [setItem,if_pos same] using member⟩
  · exact .inl (by simpa only [setItem,if_neg same] using member)

-- Each update writes its list, or none where no wallet is named.
theorem written_from (member : p ∈ listLocalPositions (if written = [] then storage else setItem storage written next) walletAddress) :
    p ∈ listLocalPositions storage walletAddress ∨ walletAddress = written ∧ p ∈ next := by
  split at member
  · exact .inl member
  · exact mem_setItem member

theorem mapped_from {f : StoredPosition → StoredPosition} (same : ∀ old,SameStealth old (f old))
    (member : p ∈ listLocalPositions (if written = [] then storage else setItem storage written
      ((listLocalPositions storage written).map f)) walletAddress) :
    ∃ old ∈ listLocalPositions storage walletAddress,SameStealth old p := by
  rcases written_from member with before | ⟨rfl,new⟩
  · exact ⟨p,before,.refl p⟩
  · obtain ⟨old,there,rfl⟩ := List.mem_map.mp new
    exact ⟨old,there,same old⟩

theorem closing_same (positionId : Text) (now : Int) (metadata : CloseMetadata) (p : StoredPosition) :
    SameStealth p (if p.positionId ≠ positionId ∨ p.closed then p else closedWith now metadata p) := by
  split
  · exact .refl p
  · exact closed_same now metadata p

theorem rebalancing_same (positionId : Text) (patch : RebalanceMetadata) (p : StoredPosition) :
    SameStealth p (if p.positionId ≠ positionId then p else rebalancedWith patch p) := by
  split
  · exact .refl p
  · exact rebalanced_same patch p

-- A record was there before, up to what updates change, or has just been added.
theorem apply_from (update : Update) (member : p ∈ listLocalPositions (update.apply storage) walletAddress) :
    (∃ old ∈ listLocalPositions storage walletAddress,SameStealth old p) ∨ update = .add walletAddress p := by
  cases update with
  | add written position =>
    rcases written_from member with before | ⟨rfl,new⟩
    · exact .inl ⟨p,before,.refl p⟩
    · rcases List.mem_cons.mp new with rfl | old
      · exact .inr rfl
      · exact .inl ⟨p,List.mem_of_mem_filter old,.refl p⟩
  | close written positionId metadata now => exact .inl (mapped_from (closing_same positionId now metadata) member)
  | rebalance written positionId patch => exact .inl (mapped_from (rebalancing_same positionId patch) member)
  | remove written positionId =>
    rcases written_from member with before | ⟨rfl,new⟩
    · exact .inl ⟨p,before,.refl p⟩
    · exact .inl ⟨p,List.mem_of_mem_filter new,.refl p⟩

-- Each record of a history goes back to one that was opened.
theorem history_from (updates : List Update) (storage : LocalStorage)
    (member : p ∈ listLocalPositions (updates.foldl Update.apply storage) walletAddress) :
    ∃ opened,(opened ∈ listLocalPositions storage walletAddress ∨ Update.add walletAddress opened ∈ updates) ∧
      SameStealth opened p := by
  induction updates generalizing storage with
  | nil => exact ⟨p,.inl member,.refl p⟩
  | cons update updates ih =>
    obtain ⟨opened,from_,same⟩ := ih (update.apply storage) member
    rcases from_ with there | added
    · rcases apply_from update there with ⟨old,before,same'⟩ | rfl
      · exact ⟨old,.inl before,same'.trans same⟩
      · exact ⟨opened,.inr List.mem_cons_self,same⟩
    · exact ⟨opened,.inr (List.mem_cons_of_mem _ added),same⟩

end Storage

end Octora.Web
