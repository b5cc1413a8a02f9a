import Octora.Executor.SingleSided
import Octora.Library.JsonValue

namespace Octora.Web.PositionIndex
open JsonValue Executor

-- The text under a key, by what `JSON.parse` makes of it.
inductive Item where
  | corrupt
  | json (value : Json)

abbrev LocalStorage := JsString → Option Item

def KEY_PREFIX : JsString := literal "octora.positions.v1."

def positionIdKey : JsString := literal "positionId"
def poolAddressKey : JsString := literal "poolAddress"
def positionPubkeyKey : JsString := literal "positionPubkey"
def stealthPubkeyKey : JsString := literal "stealthPubkey"
def lowerBinIdKey : JsString := literal "lowerBinId"
def upperBinIdKey : JsString := literal "upperBinId"
def shapeKey : JsString := literal "shape"
def closedKey : JsString := literal "closed"
def closedAtKey : JsString := literal "closedAt"
def withdrawSignatureKey : JsString := literal "withdrawSignature"
def withdrawRecipientKey : JsString := literal "withdrawRecipient"
def signaturesKey : JsString := literal "signatures"
def fundKey : JsString := literal "fund"

def shapeText : DistributionShape → JsString
  | .spot => literal "spot"
  | .curve => literal "curve"
  | .bidAsk => literal "bid-ask"

def stringOf : Option Json → Option JsString
  | some (.string text) => some text
  | _ => none

def positionIdOf (p : Json) : Option JsString := stringOf (p.get positionIdKey)

-- What `safeParse` takes for a stored position.
def isStored (p : Json) : Bool := (positionIdOf p).isSome && (stringOf (p.get poolAddressKey)).isSome

structure StoredPosition where
  value : Json
  stored : isStored value = true

def StoredPosition.positionId (position : StoredPosition) : Option JsString := positionIdOf position.value

-- localPositions.ts
def storageKey (walletAddress : JsString) : JsString := KEY_PREFIX ++ walletAddress

def safeParse (raw : Option Item) : List Json :=
  match raw with
  | some (.json (.array parsed)) => parsed.filter isStored
  | _ => []

def listLocalPositions (storage : LocalStorage) (walletAddress : JsString) : List Json :=
  if walletAddress = [] then [] else safeParse (storage (storageKey walletAddress))

-- What is stored is `JSON.stringify(next)`.
def setItem (storage : LocalStorage) (key : JsString) (next : List Json) : LocalStorage :=
  fun other => if other = key then some (.json (reread (.array next))) else storage other

def addLocalPosition (storage : LocalStorage) (walletAddress : JsString) (position : StoredPosition) : LocalStorage :=
  if walletAddress = [] then storage
  else
    let current := listLocalPositions storage walletAddress
    let next := position.value :: current.filter fun p => positionIdOf p ≠ position.positionId
    setItem storage (storageKey walletAddress) next

structure CloseMetadata where
  signature : Option JsString
  recipient : Option JsString
  ts : Option Number

def withMembers (p : Json) (change : List (JsString × Json) → List (JsString × Json)) : Json :=
  match p with
  | .object members => .object (change members)
  | other => other

def closedWith (now : Rat) (metadata : CloseMetadata) (p : Json) : Json :=
  withMembers p fun members =>
    assignOptional withdrawRecipientKey (metadata.recipient.map Json.string)
      (assignOptional withdrawSignatureKey (metadata.signature.map Json.string)
        (assign closedAtKey (.number (metadata.ts.getD (.finite now))) (assign closedKey (.bool true) members)))

-- A map that writes nothing back when it changed no entry.
def rewrite (storage : LocalStorage) (walletAddress : JsString) (hit : Json → Bool) (change : Json → Json) : LocalStorage :=
  if walletAddress = [] then storage
  else
    let current := listLocalPositions storage walletAddress
    let next := current.map fun p => if hit p then change p else p
    if current.any hit then setItem storage (storageKey walletAddress) next else storage

def toClose (positionId : JsString) (p : Json) : Bool := decide (positionIdOf p = some positionId) && !truthy (p.get closedKey)

def markLocalPositionClosed (storage : LocalStorage) (walletAddress positionId : JsString) (metadata : CloseMetadata)
    (now : Rat) : LocalStorage :=
  rewrite storage walletAddress (toClose positionId) (closedWith now metadata)

structure RebalanceMetadata where
  lowerBinId : Number
  upperBinId : Number
  shape : DistributionShape
  positionPubkey : JsString
  fundSignature : Option JsString

def withFund (fundSignature : Option JsString) (members : List (JsString × Json)) : List (JsString × Json) :=
  match fundSignature with
  | some signature => if signature = [] then members else assign fundKey (.string signature) members
  | none => members

def patched (patch : RebalanceMetadata) (members : List (JsString × Json)) : List (JsString × Json) :=
  assign signaturesKey (.object (withFund patch.fundSignature (spread (lookup signaturesKey members))))
    (assign positionPubkeyKey (.string patch.positionPubkey)
      (assign shapeKey (.string (shapeText patch.shape))
        (assign upperBinIdKey (.number patch.upperBinId)
          (assign lowerBinIdKey (.number patch.lowerBinId) members))))

def rebalancedWith (patch : RebalanceMetadata) (p : Json) : Json := withMembers p (patched patch)

def toRebalance (positionId : JsString) (p : Json) : Bool := decide (positionIdOf p = some positionId)

def markLocalPositionRebalanced (storage : LocalStorage) (walletAddress positionId : JsString) (patch : RebalanceMetadata) :
    LocalStorage :=
  rewrite storage walletAddress (toRebalance positionId) (rebalancedWith patch)

def removeLocalPosition (storage : LocalStorage) (walletAddress positionId : JsString) : LocalStorage :=
  if walletAddress = [] then storage
  else
    let current := listLocalPositions storage walletAddress
    let next := current.filter fun p => positionIdOf p ≠ some positionId
    setItem storage (storageKey walletAddress) next

inductive Update where
  | add (walletAddress : JsString) (position : StoredPosition)
  | close (walletAddress positionId : JsString) (metadata : CloseMetadata) (now : Rat)
  | rebalance (walletAddress positionId : JsString) (patch : RebalanceMetadata)
  | remove (walletAddress positionId : JsString)

def Update.apply (storage : LocalStorage) : Update → LocalStorage
  | .add walletAddress position => addLocalPosition storage walletAddress position
  | .close walletAddress positionId metadata now => markLocalPositionClosed storage walletAddress positionId metadata now
  | .rebalance walletAddress positionId patch => markLocalPositionRebalanced storage walletAddress positionId patch
  | .remove walletAddress positionId => removeLocalPosition storage walletAddress positionId

def Update.wallet : Update → JsString
  | .add walletAddress _ => walletAddress
  | .close walletAddress _ _ _ => walletAddress
  | .rebalance walletAddress _ _ => walletAddress
  | .remove walletAddress _ => walletAddress

def Update.positionId : Update → Option JsString
  | .add _ position => position.positionId
  | .close _ positionId _ _ => some positionId
  | .rebalance _ positionId _ => some positionId
  | .remove _ positionId => some positionId

-- The same call once more, at another time.
def Update.again (later : Rat) : Update → Update
  | .close walletAddress positionId metadata _ => .close walletAddress positionId metadata later
  | update => update

-- A close or a rebalance.
def Update.marks : Update → Bool
  | .close _ _ _ _ => true
  | .rebalance _ _ _ => true
  | _ => false

def run (storage : LocalStorage) (updates : List Update) : LocalStorage := updates.foldl Update.apply storage

section Entries
variable {p : Json} {key : JsString}

-- An entry that is listed is an object.
theorem stored_object (stored : isStored p = true) : ∃ members,p = .object members := by
  cases p with
  | object members => exact ⟨members,rfl⟩
  | _ => cases stored

theorem get_withMembers {change : List (JsString × Json) → List (JsString × Json)} {key : JsString}
    (same : ∀ members,lookup key (change members) = lookup key members) (p : Json) :
    (withMembers p change).get key = p.get key := by
  cases p with
  | object members => exact same members
  | _ => rfl

theorem get_closed (now : Rat) (metadata : CloseMetadata) (p : Json) (a : key ≠ closedKey) (b : key ≠ closedAtKey)
    (c : key ≠ withdrawSignatureKey) (d : key ≠ withdrawRecipientKey) : (closedWith now metadata p).get key = p.get key := by
  apply get_withMembers
  intro members
  rw [lookup_optional_other d,lookup_optional_other c,lookup_assign_other b,lookup_assign_other a]

theorem get_rebalanced (patch : RebalanceMetadata) (p : Json) (a : key ≠ lowerBinIdKey) (b : key ≠ upperBinIdKey)
    (c : key ≠ shapeKey) (d : key ≠ positionPubkeyKey) (e : key ≠ signaturesKey) :
    (rebalancedWith patch p).get key = p.get key := by
  apply get_withMembers
  intro members
  unfold patched
  rw [lookup_assign_other e,lookup_assign_other d,lookup_assign_other c,lookup_assign_other b,lookup_assign_other a]

theorem closed_id (now : Rat) (metadata : CloseMetadata) (p : Json) : positionIdOf (closedWith now metadata p) = positionIdOf p := by
  unfold positionIdOf
  rw [get_closed now metadata p (by decide) (by decide) (by decide) (by decide)]

theorem rebalanced_id (patch : RebalanceMetadata) (p : Json) : positionIdOf (rebalancedWith patch p) = positionIdOf p := by
  unfold positionIdOf
  rw [get_rebalanced patch p (by decide) (by decide) (by decide) (by decide) (by decide)]

theorem closed_stored (now : Rat) (metadata : CloseMetadata) (p : Json) : isStored (closedWith now metadata p) = isStored p := by
  unfold isStored
  rw [closed_id,get_closed now metadata p (by decide) (by decide) (by decide) (by decide)]

theorem rebalanced_stored (patch : RebalanceMetadata) (p : Json) : isStored (rebalancedWith patch p) = isStored p := by
  unfold isStored
  rw [rebalanced_id,get_rebalanced patch p (by decide) (by decide) (by decide) (by decide) (by decide)]

end Entries

-- What an update makes of its wallet's list.
def Update.next : Update → List Json → List Json
  | .add _ position,current => position.value :: current.filter fun p => positionIdOf p ≠ position.positionId
  | .close _ positionId metadata now,current => current.map fun p => if toClose positionId p then closedWith now metadata p else p
  | .rebalance _ positionId patch,current => current.map fun p => if toRebalance positionId p then rebalancedWith patch p else p
  | .remove _ positionId,current => current.filter fun p => positionIdOf p ≠ some positionId

-- A map that hits no entry is not written back.
def Update.writes : Update → List Json → Bool
  | .add _ _,_ => true
  | .close _ positionId _ _,current => current.any (toClose positionId)
  | .rebalance _ positionId _,current => current.any (toRebalance positionId)
  | .remove _ _,_ => true

def Update.leaves (update : Update) (current : List Json) : List Json :=
  if update.writes current then (update.next current).map reread else current

theorem reread_id (p : Json) : positionIdOf (reread p) = positionIdOf p := by
  unfold positionIdOf
  rw [get_reread]
  cases p.get positionIdKey with
  | none => rfl
  | some value =>
    cases value with
    | number value => cases value <;> rfl
    | _ => rfl

theorem reread_stored (p : Json) : isStored (reread p) = isStored p := by
  unfold isStored
  rw [reread_id,get_reread]
  cases p.get poolAddressKey with
  | none => rfl
  | some value =>
    cases value with
    | number value => cases value <;> rfl
    | _ => rfl

section Storage
variable {storage : LocalStorage} {walletAddress other : JsString} {next : List Json}

theorem listed_stored : ∀ p ∈ listLocalPositions storage walletAddress,isStored p = true := by
  intro p member
  unfold listLocalPositions safeParse at member
  split at member
  · cases member
  · split at member
    · exact (List.mem_filter.mp member).2
    · cases member

theorem listed_set (named : walletAddress ≠ []) (stored : ∀ p ∈ next,isStored p = true) :
    listLocalPositions (setItem storage (storageKey walletAddress) next) walletAddress = next.map reread := by
  unfold listLocalPositions setItem
  rw [if_neg named,if_pos rfl,reread,rereadItems_map]
  refine List.filter_eq_self.mpr fun p member => ?_
  obtain ⟨old,there,rfl⟩ := List.mem_map.mp member
  rw [reread_stored]
  exact stored old there

theorem storageKey_apart (apart : other ≠ walletAddress) : storageKey other ≠ storageKey walletAddress :=
  fun same => apart (List.append_cancel_left same)

theorem mapped_stored {hit : Json → Bool} {change : Json → Json} (same : ∀ p,isStored (change p) = isStored p) {current : List Json}
    (stored : ∀ p ∈ current,isStored p = true) : ∀ p ∈ current.map (fun p => if hit p then change p else p),isStored p = true := by
  intro p member
  obtain ⟨old,there,rfl⟩ := List.mem_map.mp member
  split
  · rw [same]
    exact stored old there
  · exact stored old there

theorem next_stored (update : Update) {current : List Json} (stored : ∀ p ∈ current,isStored p = true) :
    ∀ p ∈ update.next current,isStored p = true := by
  cases update with
  | add _ position =>
    intro p member
    rcases List.mem_cons.mp member with rfl | old
    · exact position.stored
    · exact stored p (List.mem_filter.mp old).1
  | close _ positionId metadata now => exact mapped_stored (closed_stored now metadata) stored
  | rebalance _ positionId patch => exact mapped_stored (rebalanced_stored patch) stored
  | remove _ positionId => exact fun p member => stored p (List.mem_filter.mp member).1

theorem apply_unnamed (update : Update) (unnamed : update.wallet = []) : update.apply storage = storage := by
  cases update with
  | add walletAddress position => exact if_pos unnamed
  | close walletAddress positionId metadata now => exact if_pos unnamed
  | rebalance walletAddress positionId patch => exact if_pos unnamed
  | remove walletAddress positionId => exact if_pos unnamed

-- Each call reads its wallet's list and writes it whole, or not at all.
theorem apply_exact (storage : LocalStorage) (update : Update) (named : update.wallet ≠ []) :
    update.apply storage =
      if update.writes (listLocalPositions storage update.wallet) then
        setItem storage (storageKey update.wallet) (update.next (listLocalPositions storage update.wallet))
      else storage := by
  cases update with
  | add walletAddress position => exact if_neg named
  | close walletAddress positionId metadata now => exact if_neg named
  | rebalance walletAddress positionId patch => exact if_neg named
  | remove walletAddress positionId => exact if_neg named

theorem listed_apply (update : Update) (named : update.wallet ≠ []) :
    listLocalPositions (update.apply storage) update.wallet = update.leaves (listLocalPositions storage update.wallet) := by
  rw [apply_exact storage update named,Update.leaves]
  split
  · exact listed_set named (next_stored update listed_stored)
  · rfl

-- The texts of other wallets stay as they are.
theorem apply_other (update : Update) (apart : other ≠ update.wallet) :
    update.apply storage (storageKey other) = storage (storageKey other) := by
  by_cases unnamed : update.wallet = []
  · rw [apply_unnamed update unnamed]
  · rw [apply_exact storage update unnamed]
    split
    · exact if_neg (storageKey_apart apart)
    · rfl

theorem listed_other (update : Update) (apart : other ≠ update.wallet) :
    listLocalPositions (update.apply storage) other = listLocalPositions storage other := by
  unfold listLocalPositions
  rw [apply_other update apart]

-- Each list is its wallet's history, one call after the other.
theorem listed_step (update : Update) (walletAddress : JsString) :
    listLocalPositions (update.apply storage) walletAddress =
      if walletAddress = update.wallet ∧ walletAddress ≠ [] then update.leaves (listLocalPositions storage walletAddress)
      else listLocalPositions storage walletAddress := by
  split
  · rename_i own
    rw [own.1]
    exact listed_apply update (own.1 ▸ own.2)
  · rename_i foreign
    by_cases apart : walletAddress = update.wallet
    · have unnamed : walletAddress = [] := by
        by_contra named
        exact foreign ⟨apart,named⟩
      rw [apply_unnamed update (apart ▸ unnamed)]
    · exact listed_other update apart

end Storage

def mixerDepositKey : JsString := literal "mixerDeposit"
def relayerWithdrawKey : JsString := literal "relayerWithdraw"
def initKey : JsString := literal "init"

-- `p.signatures?.[key]`
def signature (p : Json) (key : JsString) : Option Json := (p.get signaturesKey).bind fun signatures => signatures.get key

section Marks
variable {p : Json} {current : List Json}

theorem closed_members (now : Rat) (metadata : CloseMetadata) (members : List (JsString × Json)) :
    (closedWith now metadata (.object members)).get closedKey = some (.bool true) ∧
    (closedWith now metadata (.object members)).get closedAtKey = some (.number (metadata.ts.getD (.finite now))) ∧
    (closedWith now metadata (.object members)).get withdrawSignatureKey = metadata.signature.map Json.string ∧
    (closedWith now metadata (.object members)).get withdrawRecipientKey = metadata.recipient.map Json.string := by
  refine ⟨?_,?_,?_,lookup_optional _⟩
  · exact (lookup_optional_other (by decide) _).trans ((lookup_optional_other (by decide) _).trans
      ((lookup_assign_other (by decide)).trans lookup_assign))
  · exact (lookup_optional_other (by decide) _).trans ((lookup_optional_other (by decide) _).trans lookup_assign)
  · exact (lookup_optional_other (by decide) _).trans (lookup_optional _)

theorem rebalanced_signature (patch : RebalanceMetadata) (stored : isStored p = true) {unit : UInt16} (letter : 57 < unit)
    (rest : JsString) (apart : unit :: rest ≠ fundKey) :
    signature (rebalancedWith patch p) (unit :: rest) = signature p (unit :: rest) := by
  obtain ⟨members,rfl⟩ := stored_object stored
  have kept : ∀ fundSignature members,lookup (unit :: rest) (withFund fundSignature members) = lookup (unit :: rest) members := by
    intro fundSignature members
    unfold withFund
    cases fundSignature with
    | none => rfl
    | some text =>
      by_cases empty : text = []
      · simp only [if_pos empty]
      · simp only [if_neg empty]
        exact lookup_assign_other apart
  have written : (rebalancedWith patch (.object members)).get signaturesKey =
      some (.object (withFund patch.fundSignature (spread (lookup signaturesKey members)))) := lookup_assign
  rw [signature,written,Option.bind_some]
  exact (kept _ _).trans (lookup_spread letter rest _)

theorem withFund_again (fundSignature : Option JsString) (members : List (JsString × Json)) :
    withFund fundSignature (withFund fundSignature members) = withFund fundSignature members := by
  unfold withFund
  cases fundSignature with
  | none => rfl
  | some text =>
    by_cases empty : text = []
    · simp only [if_pos empty]
    · simp only [if_neg empty]
      exact assign_same lookup_assign

theorem patched_again (patch : RebalanceMetadata) (members : List (JsString × Json)) :
    patched patch (patched patch members) = patched patch members := by
  have lower : lookup lowerBinIdKey (patched patch members) = some (.number patch.lowerBinId) := by
    unfold patched
    rw [lookup_assign_other (by decide),lookup_assign_other (by decide),lookup_assign_other (by decide),
      lookup_assign_other (by decide),lookup_assign]
  have upper : lookup upperBinIdKey (patched patch members) = some (.number patch.upperBinId) := by
    unfold patched
    rw [lookup_assign_other (by decide),lookup_assign_other (by decide),lookup_assign_other (by decide),lookup_assign]
  have shaped : lookup shapeKey (patched patch members) = some (.string (shapeText patch.shape)) := by
    unfold patched
    rw [lookup_assign_other (by decide),lookup_assign_other (by decide),lookup_assign]
  have pubkey : lookup positionPubkeyKey (patched patch members) = some (.string patch.positionPubkey) := by
    unfold patched
    rw [lookup_assign_other (by decide),lookup_assign]
  have signed : lookup signaturesKey (patched patch members) =
      some (.object (withFund patch.fundSignature (spread (lookup signaturesKey members)))) := lookup_assign
  have again : withFund patch.fundSignature (spread (lookup signaturesKey (patched patch members))) =
      withFund patch.fundSignature (spread (lookup signaturesKey members)) := by
    rw [signed]
    exact withFund_again _ _
  generalize after_ : patched patch members = after at lower upper shaped pubkey signed again
  rw [patched,again,assign_same lower,assign_same upper,assign_same shaped,assign_same pubkey,assign_same signed]

theorem rebalanced_again (patch : RebalanceMetadata) (p : Json) :
    rebalancedWith patch (rebalancedWith patch p) = rebalancedWith patch p := by
  cases p with
  | object members => exact congrArg Json.object (patched_again patch members)
  | _ => rfl

theorem withFund_reread (fundSignature : Option JsString) (members : List (JsString × Json)) :
    rereadMembers (withFund fundSignature members) = withFund fundSignature (rereadMembers members) := by
  unfold withFund
  cases fundSignature with
  | none => rfl
  | some text =>
    by_cases empty : text = []
    · simp only [if_pos empty]
    · simp only [if_neg empty]
      exact assign_reread _ _ _

-- What a rebalance leaves does not depend on what was lost before it.
theorem rebalanced_reread (patch : RebalanceMetadata) (stored : isStored p = true) :
    reread (rebalancedWith patch (reread p)) = reread (rebalancedWith patch p) := by
  obtain ⟨members,rfl⟩ := stored_object stored
  have again : rereadMembers (rereadMembers members) = rereadMembers members :=
    rereadMembers_finite _ (finite_rereadMembers members)
  have signed : rereadMembers (spread ((lookup signaturesKey members).map reread)) =
      rereadMembers (spread (lookup signaturesKey members)) := by
    rw [← spread_reread]
    exact rereadMembers_finite _ (finite_rereadMembers _)
  change Json.object (rereadMembers (patched patch (rereadMembers members))) =
    Json.object (rereadMembers (patched patch members))
  simp only [patched,assign_reread,reread_object,withFund_reread,lookup_reread,again,signed]

theorem signature_reread (p : Json) (key : JsString) : signature (reread p) key = (signature p key).map reread := by
  unfold signature
  rw [get_reread]
  cases p.get signaturesKey with
  | none => rfl
  | some signatures => exact get_reread signatures key

end Marks

section Steps
variable {storage : LocalStorage} {walletAddress : JsString} {current : List Json}

theorem hit_id {positionId : Option JsString} {hit : Json → Bool} {change : Json → Json}
    (same : ∀ p,positionIdOf (change p) = positionIdOf p) (own : ∀ p,hit p = true → positionIdOf p = positionId)
    (current : List Json) :
    (current.map fun p => if hit p then change p else p).filter (fun p => positionIdOf p ≠ positionId) =
      current.filter fun p => positionIdOf p ≠ positionId := by
  induction current with
  | nil => rfl
  | cons p rest ih =>
    rw [List.map_cons,List.filter_cons,List.filter_cons,ih]
    by_cases touched : hit p = true
    · have mine := own p touched
      simp only [if_pos touched,same,mine,ne_eq,not_true_eq_false,decide_false,Bool.false_eq_true,if_false]
    · rw [if_neg touched]

theorem hit_count {hit : Json → Bool} {change : Json → Json} (same : ∀ p,positionIdOf (change p) = positionIdOf p)
    (positionId : Option JsString) (current : List Json) :
    (current.map fun p => if hit p then change p else p).countP (fun p => positionIdOf p = positionId) =
      current.countP fun p => positionIdOf p = positionId := by
  rw [List.countP_map]
  apply List.countP_congr
  intro p _
  simp only [Function.comp_apply]
  split
  · rw [same]
  · rfl

theorem filter_twice (keep : Json → Bool) (current : List Json) : (current.filter keep).filter keep = current.filter keep :=
  List.filter_eq_self.mpr fun _ member => (List.mem_filter.mp member).2

theorem others_none (positionId : Option JsString) (current : List Json) :
    (current.filter fun p => positionIdOf p ≠ positionId).countP (fun p => positionIdOf p = positionId) = 0 := by
  rw [List.countP_eq_zero]
  intro p member
  have apart := of_decide_eq_true (List.mem_filter.mp member).2
  rw [decide_eq_true_eq]
  exact apart

-- An entry that a call does not touch stays as it is; written back, it keeps all but
-- its numbers that are not finite.
def Spared (p q : Json) : Prop := q = p ∨ p.finite = false ∧ q = reread p

theorem spared_reread (current : List Json) : List.Forall₂ Spared current (current.map reread) := by
  induction current with
  | nil => exact .nil
  | cons p rest ih =>
    refine .cons ?_ ih
    cases finite : p.finite with
    | true => exact .inl (reread_finite p finite)
    | false => exact .inr ⟨finite,rfl⟩

theorem filter_reread (positionId : Option JsString) (current : List Json) :
    (current.map reread).filter (fun p => positionIdOf p ≠ positionId) =
      (current.filter fun p => positionIdOf p ≠ positionId).map reread := by
  rw [List.filter_map]
  congr 2
  funext p
  rw [Function.comp_apply,reread_id]

-- No call touches an entry with another id.
theorem next_spares (update : Update) (current : List Json) :
    (update.next current).filter (fun p => positionIdOf p ≠ update.positionId) =
      current.filter fun p => positionIdOf p ≠ update.positionId := by
  cases update with
  | add _ position =>
    have mine : positionIdOf position.value = position.positionId := rfl
    rw [Update.next,Update.positionId,List.filter_cons_of_neg (by simp [mine])]
    exact filter_twice _ current
  | close _ positionId metadata now =>
    refine hit_id (closed_id now metadata) (fun p hit => ?_) current
    simp only [toClose,Bool.and_eq_true,decide_eq_true_eq] at hit
    exact hit.1
  | rebalance _ positionId patch => exact hit_id (rebalanced_id patch) (fun p hit => of_decide_eq_true hit) current
  | remove _ positionId => exact filter_twice _ current

theorem leaves_spares (update : Update) (current : List Json) :
    List.Forall₂ Spared (current.filter fun p => positionIdOf p ≠ update.positionId)
      ((update.leaves current).filter fun p => positionIdOf p ≠ update.positionId) := by
  unfold Update.leaves
  split
  · rw [filter_reread,next_spares]
    exact spared_reread _
  · exact List.forall₂_same.mpr fun p _ => .inl rfl

theorem reread_count (positionId : Option JsString) (current : List Json) :
    (current.map reread).countP (fun p => positionIdOf p = positionId) = current.countP fun p => positionIdOf p = positionId := by
  rw [List.countP_map]
  congr 1
  funext p
  rw [Function.comp_apply,reread_id]

theorem next_unique (update : Update) (positionId : Option JsString)
    (one : current.countP (fun p => positionIdOf p = positionId) ≤ 1) :
    (update.next current).countP (fun p => positionIdOf p = positionId) ≤ 1 := by
  have fewer : ∀ keep : Json → Bool,(current.filter keep).countP (fun p => positionIdOf p = positionId) ≤ 1 :=
    fun keep => Nat.le_trans List.filter_sublist.countP_le one
  cases update with
  | add _ position =>
    by_cases mine : position.positionId = positionId
    · rw [Update.next,List.countP_cons,← mine,others_none]
      split <;> omega
    · have apart : ¬positionIdOf position.value = positionId := mine
      rw [Update.next,List.countP_cons,if_neg (by simpa using apart)]
      exact fewer _
  | close _ _ metadata now =>
    rw [Update.next,hit_count (closed_id now metadata)]
    exact one
  | rebalance _ _ patch =>
    rw [Update.next,hit_count (rebalanced_id patch)]
    exact one
  | remove _ _ => exact fewer _

theorem leaves_unique (update : Update) (positionId : Option JsString)
    (one : current.countP (fun p => positionIdOf p = positionId) ≤ 1) :
    (update.leaves current).countP (fun p => positionIdOf p = positionId) ≤ 1 := by
  unfold Update.leaves
  split
  · rw [reread_count]
    exact next_unique update positionId one
  · exact one

theorem added_once (position : StoredPosition) (current : List Json) :
    ((Update.add walletAddress position).leaves current).countP (fun p => positionIdOf p = position.positionId) ≤ 1 := by
  have written : (Update.add walletAddress position).leaves current =
      ((Update.add walletAddress position).next current).map reread := rfl
  rw [written,reread_count,Update.next,List.countP_cons,others_none]
  split <;> omega

theorem unique_run (updates : List Update) (positionId : Option JsString)
    (one : (listLocalPositions storage walletAddress).countP (fun p => positionIdOf p = positionId) ≤ 1) :
    (listLocalPositions (run storage updates) walletAddress).countP (fun p => positionIdOf p = positionId) ≤ 1 := by
  induction updates generalizing storage with
  | nil => exact one
  | cons update updates ih =>
    apply ih
    rw [listed_step]
    split
    · exact leaves_unique update positionId one
    · exact one

-- The marks of a close, where there is one.
structure SameClose (p q : Json) : Prop where
  closed : truthy (q.get closedKey) = true
  closedAt : q.get closedAtKey = p.get closedAtKey
  signature : q.get withdrawSignatureKey = p.get withdrawSignatureKey
  recipient : q.get withdrawRecipientKey = p.get withdrawRecipientKey

theorem marks_step {i : Nat} (update : Update) (marks : update.marks = true) {p : Json} (there : current[i]? = some p)
    (finite : p.finite = true) (closed : truthy (p.get closedKey) = true) :
    ∃ q,(update.leaves current)[i]? = some q ∧ q.finite = true ∧ SameClose p q := by
  have here : ∃ q,(update.next current)[i]? = some q ∧
      ∀ key ∈ [closedKey,closedAtKey,withdrawSignatureKey,withdrawRecipientKey],q.get key = p.get key := by
    cases update with
    | add _ _ => cases marks
    | remove _ _ => cases marks
    | close _ positionId metadata now =>
      have skipped : toClose positionId p = false := by simp [toClose,closed]
      refine ⟨p,?_,fun _ _ => rfl⟩
      rw [Update.next,List.getElem?_map,there,Option.map_some,skipped]
      rfl
    | rebalance _ positionId patch =>
      rw [Update.next,List.getElem?_map,there,Option.map_some]
      refine ⟨_,rfl,fun key member => ?_⟩
      split
      · simp only [List.mem_cons,List.not_mem_nil,or_false] at member
        rcases member with rfl | rfl | rfl | rfl <;>
          exact get_rebalanced patch p (by decide) (by decide) (by decide) (by decide) (by decide)
      · rfl
  unfold Update.leaves
  split
  · obtain ⟨q,found,kept⟩ := here
    have same : ∀ key ∈ [closedKey,closedAtKey,withdrawSignatureKey,withdrawRecipientKey],(reread q).get key = p.get key := by
      intro key member
      rw [get_reread,kept key member,get_finite finite]
    refine ⟨reread q,?_,finite_reread q,?_,same _ (by simp),same _ (by simp),same _ (by simp)⟩
    · rw [List.getElem?_map,found]
      rfl
    · rw [same _ (by simp)]
      exact closed
  · exact ⟨p,there,finite,closed,rfl,rfl,rfl⟩

theorem marks_run {i : Nat} (later : List Update) (marks : ∀ update ∈ later,update.marks = true) {p : Json}
    (there : (listLocalPositions storage walletAddress)[i]? = some p) (finite : p.finite = true)
    (closed : truthy (p.get closedKey) = true) :
    ∃ q,(listLocalPositions (run storage later) walletAddress)[i]? = some q ∧ SameClose p q := by
  induction later generalizing storage p with
  | nil => exact ⟨p,there,closed,rfl,rfl,rfl⟩
  | cons update later ih =>
    have rest := fun other member => marks other (List.mem_cons_of_mem _ member)
    have step : ∃ q,(listLocalPositions (update.apply storage) walletAddress)[i]? = some q ∧ q.finite = true ∧ SameClose p q := by
      rw [listed_step]
      split
      · exact marks_step update (marks update List.mem_cons_self) there finite closed
      · exact ⟨p,there,finite,closed,rfl,rfl,rfl⟩
    obtain ⟨q,here,whole,same⟩ := step
    obtain ⟨last,found,also⟩ := ih rest here whole same.closed
    exact ⟨last,found,also.closed,also.closedAt.trans same.closedAt,also.signature.trans same.signature,
      also.recipient.trans same.recipient⟩

end Steps

-- A closed mark that a close reads and writes back is the same mark.
def Update.Steady : Update → List Json → Prop
  | .close _ positionId _ _,current =>
    ∀ p ∈ current,positionIdOf p = some positionId → ∀ mark,p.get closedKey = some mark → mark.finite = true
  | _,_ => True

section Repeats
variable {current : List Json}

theorem set_twice (key : JsString) (next : List Json) : setItem (setItem storage key next) key next = setItem storage key next := by
  funext other
  unfold setItem
  split <;> rfl

theorem setItem_same (storage : LocalStorage) (key : JsString) {one two : List Json} (same : one.map reread = two.map reread) :
    setItem storage key one = setItem storage key two := by
  unfold setItem
  rw [reread,reread,rereadItems_map,rereadItems_map,same]

theorem twice_map (current : List Json) : (current.map reread).map reread = current.map reread := by
  rw [List.map_map]
  exact List.map_congr_left fun p _ => reread_twice p

theorem filter_settled (positionId : Option JsString) (current : List Json) :
    (((current.filter fun p => positionIdOf p ≠ positionId).map reread).filter fun p => positionIdOf p ≠ positionId).map reread =
      (current.filter fun p => positionIdOf p ≠ positionId).map reread := by
  rw [filter_reread,filter_twice,twice_map]

-- An entry that a close has passed is none that it would close.
theorem close_settled (stored : ∀ p ∈ current,isStored p = true)
    (steady : (Update.close walletAddress positionId metadata now).Steady current) :
    (((Update.close walletAddress positionId metadata now).next current).map reread).any (toClose positionId) = false := by
  rw [List.any_eq_false]
  intro q member
  obtain ⟨r,inside,rfl⟩ := List.mem_map.mp member
  obtain ⟨p,there,rfl⟩ := List.mem_map.mp inside
  intro again
  by_cases hit : toClose positionId p = true
  · rw [if_pos hit] at again
    obtain ⟨members,rfl⟩ := stored_object (stored p there)
    simp only [toClose,get_reread,(closed_members now metadata members).1,Bool.and_eq_true] at again
    cases again.2
  · rw [if_neg hit] at again
    simp only [toClose,reread_id,get_reread,Bool.and_eq_true,decide_eq_true_eq,Bool.not_eq_true'] at again
    obtain ⟨mine,unmarked⟩ := again
    have marked : truthy (p.get closedKey) = true := by simpa [toClose,mine] using hit
    cases found : p.get closedKey with
    | none =>
      rw [found] at marked
      cases marked
    | some mark =>
      rw [found,Option.map_some,reread_finite mark (steady p there mine mark found),← found,marked] at unmarked
      cases unmarked

theorem rebalance_settled (stored : ∀ p ∈ current,isStored p = true) (patch : RebalanceMetadata) :
    ((Update.rebalance walletAddress positionId patch).next
        (((Update.rebalance walletAddress positionId patch).next current).map reread)).map reread =
      ((Update.rebalance walletAddress positionId patch).next current).map reread := by
  simp only [Update.next,List.map_map]
  apply List.map_congr_left
  intro p member
  simp only [Function.comp_apply]
  by_cases hit : toRebalance positionId p = true
  · have again : toRebalance positionId (reread (rebalancedWith patch p)) = true := by
      simpa only [toRebalance,reread_id,rebalanced_id] using hit
    have kept : isStored (rebalancedWith patch p) = true := (rebalanced_stored patch p).trans (stored p member)
    rw [if_pos hit,if_pos again,rebalanced_reread patch kept,rebalanced_again]
  · have again : ¬toRebalance positionId (reread p) = true := by simpa only [toRebalance,reread_id] using hit
    rw [if_neg hit,if_neg again,reread_twice]

theorem apply_again (storage : LocalStorage) (update : Update) (later : Rat)
    (steady : update.Steady (listLocalPositions storage update.wallet)) :
    (update.again later).apply (update.apply storage) = update.apply storage := by
  have own : (update.again later).wallet = update.wallet := by cases update <;> rfl
  by_cases unnamed : update.wallet = []
  · exact apply_unnamed _ (own.trans unnamed)
  have stored : ∀ p ∈ listLocalPositions storage update.wallet,isStored p = true := listed_stored
  have listed : listLocalPositions (update.apply storage) (update.again later).wallet =
      update.leaves (listLocalPositions storage update.wallet) := by
    rw [own]
    exact listed_apply update unnamed
  rw [apply_exact (update.apply storage) (update.again later) (own ▸ unnamed),listed,own,apply_exact storage update unnamed,
    Update.leaves]
  generalize listLocalPositions storage update.wallet = current at stored steady
  by_cases writes : update.writes current = true
  · simp only [if_pos writes]
    -- What is written the second time is what is there.
    have settled : (update.again later).writes ((update.next current).map reread) = true →
        ((update.again later).next ((update.next current).map reread)).map reread = (update.next current).map reread := by
      intro again
      cases update with
      | add _ position =>
        have mine : positionIdOf (reread position.value) = position.positionId := reread_id _
        simp only [Update.again,Update.next,List.map_cons]
        rw [List.filter_cons_of_neg (by simp [mine]),filter_settled]
      | close _ positionId metadata now => cases (close_settled stored steady).symm.trans again
      | rebalance _ positionId patch => exact rebalance_settled stored patch
      | remove _ positionId => exact filter_settled _ current
    split
    · rename_i again
      rw [setItem_same _ _ ((settled again).trans (twice_map (update.next current)).symm),
        setItem_same _ _ (twice_map (update.next current)),set_twice]
    · rfl
  · have still : ¬(update.again later).writes current = true := by
      cases update <;> exact writes
    simp only [if_neg writes,if_neg still]

end Repeats

-- What the index keeps, whatever was stored.
structure Kept (storage : LocalStorage) : Prop where
  unique : ∀ updates walletAddress position,Update.add walletAddress position ∈ updates →
    (listLocalPositions (run storage updates) walletAddress).countP (fun p => positionIdOf p = position.positionId) ≤ 1
  spared : ∀ (updates : List Update) (update : Update) (walletAddress : JsString),
    List.Forall₂ Spared
      ((listLocalPositions (run storage updates) walletAddress).filter fun p => positionIdOf p ≠ update.positionId)
      ((listLocalPositions (update.apply (run storage updates)) walletAddress).filter fun p => positionIdOf p ≠ update.positionId)
  apart : ∀ (updates : List Update) (update : Update) (walletAddress : JsString),walletAddress ≠ update.wallet →
    update.apply (run storage updates) (storageKey walletAddress) = run storage updates (storageKey walletAddress)
  closed : ∀ updates walletAddress positionId metadata now (i : Nat) p,
    (listLocalPositions (run storage updates) walletAddress)[i]? = some p → positionIdOf p = some positionId →
    truthy (p.get closedKey) = false → ∀ later : List Update,(∀ update ∈ later,update.marks = true) →
    ∃ q,(listLocalPositions (run storage
        (updates ++ Update.close walletAddress positionId metadata now :: later)) walletAddress)[i]? = some q ∧
      truthy (q.get closedKey) = true ∧ q.get closedAtKey = some (reread (.number (metadata.ts.getD (.finite now)))) ∧
      q.get withdrawSignatureKey = metadata.signature.map Json.string ∧
      q.get withdrawRecipientKey = metadata.recipient.map Json.string
  stays : ∀ updates walletAddress (i : Nat) p,(listLocalPositions (run storage updates) walletAddress)[i]? = some p →
    p.finite = true → truthy (p.get closedKey) = true → ∀ later : List Update,(∀ update ∈ later,update.marks = true) →
    ∃ q,(listLocalPositions (run storage (updates ++ later)) walletAddress)[i]? = some q ∧ SameClose p q
  rebalanced : ∀ updates walletAddress positionId patch (i : Nat) p,
    (listLocalPositions (run storage updates) walletAddress)[i]? = some p → positionIdOf p = some positionId →
    ∃ q,(listLocalPositions (run storage (updates ++ [Update.rebalance walletAddress positionId patch])) walletAddress)[i]? =
        some q ∧ positionIdOf q = some positionId ∧ q.get stealthPubkeyKey = (p.get stealthPubkeyKey).map reread ∧
      ∀ key ∈ [mixerDepositKey,relayerWithdrawKey,initKey],signature q key = (signature p key).map reread
  repeats : ∀ (updates : List Update) (update : Update) (later : Rat),
    update.Steady (listLocalPositions (run storage updates) update.wallet) →
    (update.again later).apply (update.apply (run storage updates)) = update.apply (run storage updates)

theorem run_append (storage : LocalStorage) (first second : List Update) :
    run storage (first ++ second) = run (run storage first) second := List.foldl_append

theorem listed_named {storage : LocalStorage} {walletAddress : JsString} {i : Nat} {p : Json}
    (there : (listLocalPositions storage walletAddress)[i]? = some p) : walletAddress ≠ [] := by
  rintro rfl
  cases there

theorem local_positions_kept (storage : LocalStorage) : Kept storage := by
  refine ⟨?_,?_,?_,?_,?_,?_,?_⟩
  · intro updates walletAddress position added
    obtain ⟨before,after,rfl⟩ := List.append_of_mem added
    have one : (listLocalPositions ((Update.add walletAddress position).apply (run storage before)) walletAddress).countP
        (fun p => positionIdOf p = position.positionId) ≤ 1 := by
      rw [listed_step]
      split
      · exact added_once position _
      · rename_i unnamed
        have empty : walletAddress = [] := by
          by_contra named
          exact unnamed ⟨rfl,named⟩
        rw [empty]
        exact Nat.zero_le _
    rw [run_append]
    exact unique_run after _ one
  · intro updates update walletAddress
    rw [listed_step]
    split
    · exact leaves_spares update _
    · exact List.forall₂_same.mpr fun p _ => .inl rfl
  · intro updates update walletAddress apart
    exact apply_other update apart
  · intro updates walletAddress positionId metadata now i p there mine fresh later marks
    have stored := listed_stored p (List.mem_of_getElem? there)
    obtain ⟨members,rfl⟩ := stored_object stored
    obtain ⟨closed,closedAt,signed,received⟩ := closed_members now metadata members
    have hit : toClose positionId (.object members) = true := by simp [toClose,mine,fresh]
    have writes : (Update.close walletAddress positionId metadata now).writes
        (listLocalPositions (run storage updates) walletAddress) = true :=
      List.any_eq_true.mpr ⟨_,List.mem_of_getElem? there,hit⟩
    have here : (listLocalPositions ((Update.close walletAddress positionId metadata now).apply (run storage updates))
        walletAddress)[i]? = some (reread (closedWith now metadata (.object members))) := by
      rw [listed_step,if_pos ⟨rfl,listed_named there⟩,Update.leaves,if_pos writes,Update.next,List.getElem?_map,
        List.getElem?_map,there,Option.map_some,if_pos hit,Option.map_some]
    obtain ⟨q,found,same⟩ := marks_run later marks here (finite_reread _) (by rw [get_reread,closed]; rfl)
    rw [run_append]
    refine ⟨q,found,same.closed,same.closedAt.trans ?_,same.signature.trans ?_,same.recipient.trans ?_⟩
    · rw [get_reread,closedAt]
      rfl
    · rw [get_reread,signed]
      cases metadata.signature <;> rfl
    · rw [get_reread,received]
      cases metadata.recipient <;> rfl
  · intro updates walletAddress i p there finite closed later marks
    rw [run_append]
    exact marks_run later marks there finite closed
  · intro updates walletAddress positionId patch i p there mine
    have stored := listed_stored p (List.mem_of_getElem? there)
    have hit : toRebalance positionId p = true := decide_eq_true mine
    have writes : (Update.rebalance walletAddress positionId patch).writes
        (listLocalPositions (run storage updates) walletAddress) = true :=
      List.any_eq_true.mpr ⟨_,List.mem_of_getElem? there,hit⟩
    refine ⟨reread (rebalancedWith patch p),?_,(reread_id _).trans ((rebalanced_id patch p).trans mine),?_,?_⟩
    · rw [run_append]
      have step : listLocalPositions ((Update.rebalance walletAddress positionId patch).apply (run storage updates)) walletAddress = _ :=
        listed_step _ walletAddress
      rw [if_pos ⟨rfl,listed_named there⟩,Update.leaves,if_pos writes] at step
      refine (congrArg (·[i]?) step).trans ?_
      rw [Update.next,List.getElem?_map,List.getElem?_map,there,Option.map_some,if_pos hit,Option.map_some]
    · rw [get_reread,get_rebalanced patch p (by decide) (by decide) (by decide) (by decide) (by decide)]
    · intro key member
      rw [signature_reread]
      simp only [List.mem_cons,List.not_mem_nil,or_false] at member
      rcases member with rfl | rfl | rfl
      · exact congrArg _ (rebalanced_signature patch stored (by decide) _ (by decide))
      · exact congrArg _ (rebalanced_signature patch stored (by decide) _ (by decide))
      · exact congrArg _ (rebalanced_signature patch stored (by decide) _ (by decide))
  · intro updates update later steady
    exact apply_again _ update later steady

def depositedUsdKey : JsString := literal "depositedUsd"

-- [{"positionId":"a","poolAddress":"P","depositedUsd":1e400}]
def overflowing : Json :=
  .object [(positionIdKey,.string (literal "a")),(poolAddressKey,.string (literal "P")),(depositedUsdKey,.number (.infinity false))]

def overflowed : LocalStorage := fun _ => some (.json (.array [overflowing]))

-- The entry is listed; with the removal of another it is written back, and its deposit
-- is null.
theorem infinity_nulled : overflowing ∈ listLocalPositions overflowed (literal "W") ∧
    positionIdOf overflowing ≠ some (literal "b") ∧
    overflowing ∉ listLocalPositions (removeLocalPosition overflowed (literal "W") (literal "b")) (literal "W") := by
  have listed : listLocalPositions overflowed (literal "W") = [overflowing] := rfl
  have other : positionIdOf overflowing ≠ some (literal "b") := by decide
  refine ⟨by rw [listed]; exact List.mem_singleton_self _,other,fun kept => ?_⟩
  have removed : removeLocalPosition overflowed (literal "W") (literal "b") =
      setItem overflowed (storageKey (literal "W")) [overflowing] := by
    simp only [removeLocalPosition,listed]
    rfl
  rw [removed,listed_set (by decide) (by intro p member; cases List.mem_singleton.mp member; rfl)] at kept
  have same := congrArg (·.get depositedUsdKey) (List.mem_singleton.mp kept)
  have number : overflowing.get depositedUsdKey = some (.number (.infinity false)) := by
    simp only [overflowing,Json.get,lookup]
    rfl
  simp only [get_reread,number,Option.map_some,reread] at same
  cases same

end Octora.Web.PositionIndex
