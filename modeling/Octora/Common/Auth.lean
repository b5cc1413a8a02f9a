import Octora.Library.Desk
import Octora.Library.Numerals
import Octora.Relayer.ProofConverter

namespace Octora.Auth
open Calls Op BigIntText Relayer Holders Desk

def NONCE_TTL_MS : Int := 5 * 60 * 1000

def ED25519_SPKI_PREFIX : List UInt8 := [0x30,0x2a,0x30,0x05,0x06,0x03,0x2b,0x65,0x70,0x03,0x21,0x00]

-- The letters of base58.
def ALPHABET : List Char := "123456789ABCDEFGHJKLMNPQRSTUVWXYZabcdefghijkmnopqrstuvwxyz".toList

-- What node supplies, a base64 reader and the signature check, either of which may
-- throw; and what web3.js supplies, keys read from texts and printed.
structure Node where
  base64 : Text → Option (List UInt8)
  verify : (der message signature : List UInt8) → Option Bool
  newPublicKey : Text → Option (List UInt8)
  toBase58 : List UInt8 → Text

-- A text that is read as a key is the one way to print that key.
def Node.RoundTrip (node : Node) : Prop :=
  ∀ text pubkey,node.newPublicKey text = some pubkey → node.toBase58 pubkey = text

structure AuthenticatedWallet where
  address : Text
  pubkey : List UInt8
  deriving DecidableEq

inductive HeaderValue where
  | one (value : Text)
  | many (values : List Text)

structure AuthNonce where
  nonce : Text
  walletAddress : Text
  expiresAt : Int
  used : Bool
  deriving DecidableEq

structure Issued where
  nonce : Text
  expiresAt : Int

structure Refusal where
  code : Nat
  error : String
  message : String

inductive Thrown where
  | auth (message : String) (statusCode : Nat)
  | database

inductive Query where
  | randomBytes
  | now
  | create (data : AuthNonce)
  | deleteMany (expiresBefore : Int)
  | updateMany (nonce walletAddress : Text) (expiresAfter : Int)

def Reply : Query → Type
  | .randomBytes => List UInt8
  | .now => Int
  | .create _ => Unit
  | .deleteMany _ => Nat
  | .updateMany _ _ _ => Nat

abbrev Async (α : Type) := Op Reply Thrown α

def randomBytes : Async (List UInt8) := send Query.randomBytes

def dateNow : Async Int := send Query.now

def createNonce (data : AuthNonce) : Async Unit := send (Query.create data)

def deleteMany (expiresBefore : Int) : Async Nat := send (Query.deleteMany expiresBefore)

def updateMany (nonce walletAddress : Text) (expiresAfter : Int) : Async Nat :=
  send (Query.updateMany nonce walletAddress expiresAfter)

-- auth.ts
def issueAuthNonce (node : Node) (walletAddress : Text) : Async Issued := do
  if node.newPublicKey walletAddress = none then
    .throws (.auth "walletAddress is not a valid base58 Solana pubkey" 400)
  else
    let bytes ← randomBytes
    let nonce := hexText bytes
    let now ← dateNow
    let expiresAt := now + NONCE_TTL_MS
    createNonce { nonce := nonce, walletAddress := walletAddress, expiresAt := expiresAt, used := false }
    let now ← dateNow
    let _ ← (deleteMany (now - NONCE_TTL_MS)).attempt
    return { nonce := nonce, expiresAt := expiresAt }

abbrev Headers := String → Option HeaderValue

def pickHeader (headers : Headers) (key : String) : Option Text :=
  match headers key with
  | some (.one value) => some (trim value)
  | some (.many (value :: _)) => some (trim value)
  | _ => none

-- A header that is missing or blank is refused alike.
def presented (headers : Headers) (key : String) : Option Text :=
  (pickHeader headers key).filter fun value => value ≠ []

def verifyEd25519Detached (node : Node) (message signature rawPubkey : List UInt8) : Bool :=
  if rawPubkey.length ≠ 32 then false
  else if signature.length ≠ 64 then false
  else (node.verify (ED25519_SPKI_PREFIX ++ rawPubkey) message signature).getD false

def missing : Refusal :=
  ⟨401,"Unauthorized","Missing wallet auth headers (x-wallet-address, x-signed-nonce, x-signature)."⟩

def badWallet : Refusal := ⟨401,"Unauthorized","x-wallet-address is not a valid base58 Solana pubkey."⟩

def badBase64 : Refusal := ⟨401,"Unauthorized","x-signature is not valid base64."⟩

def badLength (length : Nat) : Refusal := ⟨401,"Unauthorized",s!"x-signature must decode to 64 bytes; got {length}."⟩

def badNonce : Refusal :=
  ⟨401,"Unauthorized","x-signed-nonce is unknown, expired, already used, or bound to a different wallet."⟩

def badSignature : Refusal :=
  ⟨401,"Unauthorized","x-signature failed Ed25519 verification against x-wallet-address."⟩

def requireWalletSignature (node : Node) (headers : Headers) : Async (Except Refusal AuthenticatedWallet) :=
  match presented headers "x-wallet-address",presented headers "x-signed-nonce",presented headers "x-signature" with
  | some walletHeader,some nonceHeader,some signatureHeader =>
    match node.newPublicKey walletHeader with
    | none => return .error badWallet
    | some pubkey =>
      match node.base64 signatureHeader with
      | none => return .error badBase64
      | some signatureBytes => do
        if signatureBytes.length ≠ 64 then return .error (badLength signatureBytes.length)
        else
          let now ← dateNow
          let count ← updateMany nonceHeader walletHeader now
          if count ≠ 1 then return .error badNonce
          else if verifyEd25519Detached node (utf8 nonceHeader) signatureBytes pubkey = false then
            return .error badSignature
          else return .ok { address := node.toBase58 pubkey, pubkey := pubkey }
  | _,_,_ => return .error missing

-- The table, the clock, and for the record the nonces drawn, the rows created and
-- the nonces claimed so far.
structure Store where
  rows : List AuthNonce
  clock : Int
  drawn : List Text
  issued : List AuthNonce
  claims : List Text

def claimable (nonce walletAddress : Text) (expiresAfter : Int) (row : AuthNonce) : Bool :=
  decide (row.nonce = nonce ∧ row.walletAddress = walletAddress ∧ row.used = false ∧ expiresAfter < row.expiresAt)

def Store.create (store : Store) (data : AuthNonce) : Store :=
  { store with rows := store.rows ++ [data], issued := store.issued ++ [data] }

def Store.deleteMany (store : Store) (expiresBefore : Int) : Store :=
  { store with rows := store.rows.filter fun row => ¬row.expiresAt < expiresBefore }

def Store.updateMany (store : Store) (nonce walletAddress : Text) (expiresAfter : Int) : Store :=
  { store with
    rows := store.rows.map fun row => if claimable nonce walletAddress expiresAfter row then { row with used := true } else row
    claims := store.claims ++ (store.rows.filter (claimable nonce walletAddress expiresAfter)).map AuthNonce.nonce }

-- No two draws give one nonce. The nonce is the table's key; each statement is atomic.
def Answers : (query : Query) → Store → Except Thrown (Reply query) → Store → Prop
  | .randomBytes,store,answer,after => ∃ bytes : List UInt8,bytes.length = 32 ∧ hexText bytes ∉ store.drawn ∧
      answer = .ok bytes ∧ after = { store with drawn := store.drawn ++ [hexText bytes] }
  | .now,store,answer,after => answer = .ok store.clock ∧ after = store
  | .create data,store,answer,after =>
      if data.nonce ∈ store.rows.map AuthNonce.nonce then answer = .error .database ∧ after = store
      else answer = .ok () ∧ after = store.create data
  | .deleteMany expiresBefore,store,answer,after =>
      answer = .ok (store.rows.countP fun row => row.expiresAt < expiresBefore) ∧ after = store.deleteMany expiresBefore
  | .updateMany nonce walletAddress expiresAfter,store,answer,after =>
      answer = .ok (store.rows.countP (claimable nonce walletAddress expiresAfter)) ∧
        after = store.updateMany nonce walletAddress expiresAfter

-- A statement may fail, before or after it took effect.
def Fails : (query : Query) → Store → Except Thrown (Reply query) → Store → Prop
  | .randomBytes,_,_,_ => False
  | .now,_,_,_ => False
  | query,store,answer,after => answer = .error .database ∧ (after = store ∨ ∃ lost,Answers query store lost after)

inductive Operation where
  | issue (walletAddress : Text)
  | request (headers : Headers)

inductive Outcome where
  | issued (issued : Issued)
  | authenticated (verdict : Except Refusal AuthenticatedWallet)

def bodyOf (node : Node) : Operation → Async Outcome
  | .issue walletAddress => (issueAuthNonce node walletAddress).bind fun issued => .ret (.issued issued)
  | .request headers => (requireWalletSignature node headers).bind fun verdict => .ret (.authenticated verdict)

abbrev Call := Desk.Call Operation Reply Thrown Outcome

abbrev World := Desk.World Store Operation Reply Thrown Outcome

def World.first (clock : Int) : World := ⟨⟨[],clock,[],[],[]⟩,[]⟩

def Did (query : Query) (store : Store) (answer : Except Thrown (Reply query)) (after : Store) : Prop :=
  Answers query store answer after ∨ Fails query store answer after

def Later (store after : Store) : Prop := ∃ now,store.clock ≤ now ∧ after = { store with clock := now }

-- Calls of either kind are under way at once; each step is one statement of one of
-- them, or time passing.
abbrev Step (node : Node) : World → World → Prop := Desk.Step (bodyOf node) Did Later

abbrev Run (node : Node) : World → World → Prop := Desk.Run (bodyOf node) Did Later

def drew (nonce : Text) (past : List (Seen Reply Thrown)) : Prop :=
  ∃ bytes : List UInt8,hexText bytes = nonce ∧ (⟨.randomBytes,.ok bytes⟩ : Seen Reply Thrown) ∈ past

def created (row : AuthNonce) (past : List (Seen Reply Thrown)) : Prop :=
  ∃ answer,(⟨.create row,answer⟩ : Seen Reply Thrown) ∈ past

def dated (clock : Int) (past : List (Seen Reply Thrown)) : Prop := (⟨.now,.ok clock⟩ : Seen Reply Thrown) ∈ past

def took (nonce walletAddress : Text) (clock : Int) (past : List (Seen Reply Thrown)) : Prop :=
  (⟨.updateMany nonce walletAddress clock,.ok (1 : Nat)⟩ : Seen Reply Thrown) ∈ past

-- What a call may ask for after what it has been answered.
def Allowed (operation : Operation) : Query → List (Seen Reply Thrown) → Prop
  | .create row,past => operation = .issue row.walletAddress ∧ row.used = false ∧ drew row.nonce past ∧
      ∀ other,¬created other past
  | .updateMany _ _ clock,past => dated clock past
  | _,_ => True

-- What a request that is let through has shown.
structure Vouched (node : Node) (headers : Headers) (wallet : AuthenticatedWallet) (nonce walletAddress : Text) (clock : Int)
    (past : List (Seen Reply Thrown)) : Prop where
  presents : pickHeader headers "x-signed-nonce" = some nonce
  names : pickHeader headers "x-wallet-address" = some walletAddress
  pubkey : node.newPublicKey walletAddress = some wallet.pubkey
  address : wallet.address = node.toBase58 wallet.pubkey
  signature : ∃ signatureHeader signature,pickHeader headers "x-signature" = some signatureHeader ∧
    node.base64 signatureHeader = some signature ∧
    verifyEd25519Detached node (utf8 nonce) signature wallet.pubkey = true
  dated : dated clock past
  took : took nonce walletAddress clock past

def Done (node : Node) (operation : Operation) (out : Except Thrown Outcome) (past : List (Seen Reply Thrown)) : Prop :=
  ∀ headers wallet,operation = .request headers → out = .ok (.authenticated (.ok wallet)) →
    ∃ nonce walletAddress clock,Vouched node headers wallet nonce walletAddress clock past

theorem presented_picked (given : presented headers key = some value) : pickHeader headers key = some value :=
  (Option.filter_eq_some_iff.mp given).1

section Programs
variable {node : Node}

theorem issue_follows (walletAddress : Text) : (bodyOf node (.issue walletAddress)).Follows recorded
    (Allowed (.issue walletAddress)) (Done node (.issue walletAddress)) [] := by
  have free : ∀ out past,Done node (.issue walletAddress) out past := fun out past headers wallet same => by cases same
  refine follows_bind.mpr ?_
  unfold issueAuthNonce
  split
  · exact free _ _
  refine follows_bind.mpr (follows_send.mpr ⟨trivial,?_⟩)
  rintro (error | bytes) past rfl
  · exact free _ _
  refine follows_bind.mpr (follows_send.mpr ⟨trivial,?_⟩)
  rintro (error | clock) past rfl
  · exact free _ _
  refine follows_bind.mpr (follows_send.mpr ⟨⟨rfl,rfl,⟨bytes,rfl,by simp⟩,?_⟩,?_⟩)
  · rintro other ⟨answer,member⟩
    simp only [List.nil_append,List.cons_append,List.mem_cons,List.not_mem_nil,or_false] at member
    rcases member with same | same <;> cases same
  rintro (error | made) past rfl
  · exact free _ _
  refine follows_bind.mpr (follows_send.mpr ⟨trivial,?_⟩)
  rintro (error | clock) past rfl
  · exact free _ _
  refine follows_bind.mpr (follows_attempt.mpr (follows_send.mpr ⟨trivial,?_⟩))
  intro answer past _
  exact free _ _

theorem request_follows (headers : Headers) : (bodyOf node (.request headers)).Follows recorded
    (Allowed (.request headers)) (Done node (.request headers)) [] := by
  have refused : ∀ refusal past,Done node (.request headers) (.ok (.authenticated (.error refusal))) past :=
    fun refusal past headers wallet _ same => by cases same
  have thrown : ∀ error past,Done node (.request headers) (.error error) past :=
    fun error past headers wallet _ same => by cases same
  refine follows_bind.mpr ?_
  unfold requireWalletSignature
  split
  · rename_i walletHeader nonceHeader signatureHeader named presents signs
    split
    · exact refused _ _
    rename_i pubkey read
    split
    · exact refused _ _
    rename_i signatureBytes decoded
    split
    · exact refused _ _
    refine follows_bind.mpr (follows_send.mpr ⟨trivial,?_⟩)
    rintro (error | clock) past rfl
    · exact thrown _ _
    refine follows_bind.mpr (follows_send.mpr ⟨by simp [Allowed,dated],?_⟩)
    rintro (error | count) past rfl
    · exact thrown _ _
    simp only [Ends]
    split
    · exact refused _ _
    rename_i one
    have one : count = (1 : Nat) := not_not.mp one
    subst one
    split
    · exact refused _ _
    rename_i valid
    rintro other wallet ⟨⟩ ⟨⟩
    exact ⟨nonceHeader,walletHeader,clock,{
      presents := presented_picked presents
      names := presented_picked named
      pubkey := read
      address := rfl
      signature := ⟨signatureHeader,signatureBytes,presented_picked signs,decoded,by simpa using valid⟩
      dated := by simp [dated]
      took := by simp [took] }⟩
  · exact refused _ _

theorem body_follows (operation : Operation) :
    (bodyOf node operation).Follows recorded (Allowed operation) (Done node operation) [] := by
  cases operation with
  | issue walletAddress => exact issue_follows walletAddress
  | request headers => exact request_follows headers

end Programs

-- What holds of the tables whatever the calls are.
structure Tabled (store : Store) : Prop where
  keyed : (store.rows.map AuthNonce.nonce).Nodup
  issued : (store.issued.map AuthNonce.nonce).Nodup
  kept : ∀ row ∈ store.rows,∃ old ∈ store.issued,
    old.nonce = row.nonce ∧ old.walletAddress = row.walletAddress ∧ old.expiresAt = row.expiresAt
  unused : ∀ row ∈ store.rows,row.used = false → row.nonce ∉ store.claims
  claimed : ∀ nonce ∈ store.claims,nonce ∈ store.issued.map AuthNonce.nonce

section Tables
variable {store : Store} {data : AuthNonce} {nonce walletAddress : Text} {clock : Int}

theorem tabled_create (table : Tabled store) (fresh : data.nonce ∉ store.issued.map AuthNonce.nonce) :
    Tabled (store.create data) where
  keyed := by
    have absent : data.nonce ∉ store.rows.map AuthNonce.nonce := by
      intro member
      obtain ⟨row,there,same⟩ := List.mem_map.mp member
      obtain ⟨old,before,equal,-⟩ := table.kept row there
      exact fresh (List.mem_map.mpr ⟨old,before,equal.trans same⟩)
    simp only [Store.create,List.map_append,List.map_cons,List.map_nil]
    exact List.nodup_append'.mpr ⟨table.keyed,List.nodup_singleton _,by simpa using absent⟩
  issued := by
    simp only [Store.create,List.map_append,List.map_cons,List.map_nil]
    exact List.nodup_append'.mpr ⟨table.issued,List.nodup_singleton _,by simpa using fresh⟩
  kept := by
    intro row member
    rcases List.mem_append.mp member with old | new
    · obtain ⟨before,there,same⟩ := table.kept row old
      exact ⟨before,List.mem_append_left _ there,same⟩
    · rw [List.mem_singleton.mp new]
      exact ⟨data,List.mem_append_right _ (List.mem_singleton_self _),rfl,rfl,rfl⟩
  unused := by
    intro row member free
    rcases List.mem_append.mp member with old | new
    · exact table.unused row old free
    · rw [List.mem_singleton.mp new]
      exact fun spent => fresh (table.claimed _ spent)
  claimed := by
    intro nonce spent
    have before := table.claimed nonce spent
    simp only [Store.create,List.map_append]
    exact List.mem_append_left _ before

theorem tabled_delete (table : Tabled store) (expiresBefore : Int) : Tabled (store.deleteMany expiresBefore) where
  keyed := table.keyed.sublist (List.filter_sublist.map _)
  issued := table.issued
  kept := fun row member => table.kept row (List.mem_of_mem_filter member)
  unused := fun row member => table.unused row (List.mem_of_mem_filter member)
  claimed := table.claimed

theorem claimable_exact {row : AuthNonce} : claimable nonce walletAddress clock row = true ↔
    row.nonce = nonce ∧ row.walletAddress = walletAddress ∧ row.used = false ∧ clock < row.expiresAt := decide_eq_true_iff

theorem claims_new (spent : other ∈ (store.updateMany nonce walletAddress clock).claims) : other ∈ store.claims ∨
    other = nonce ∧ ∃ row ∈ store.rows,claimable nonce walletAddress clock row = true := by
  rcases List.mem_append.mp spent with before | now
  · exact .inl before
  · obtain ⟨row,inside,rfl⟩ := List.mem_map.mp now
    have ⟨there,claims⟩ := List.mem_filter.mp inside
    exact .inr ⟨(claimable_exact.mp claims).1,row,there,claims⟩

theorem tabled_update (table : Tabled store) (nonce walletAddress : Text) (clock : Int) :
    Tabled (store.updateMany nonce walletAddress clock) where
  keyed := by
    have same : (store.updateMany nonce walletAddress clock).rows.map AuthNonce.nonce = store.rows.map AuthNonce.nonce := by
      simp only [Store.updateMany,List.map_map]
      refine List.map_congr_left fun row _ => ?_
      simp only [Function.comp_apply]
      split <;> rfl
    rw [same]
    exact table.keyed
  issued := table.issued
  kept := by
    intro row member
    obtain ⟨before,there,rfl⟩ := List.mem_map.mp member
    obtain ⟨old,issued,same⟩ := table.kept before there
    refine ⟨old,issued,?_⟩
    split <;> exact same
  unused := by
    intro row member free spent
    obtain ⟨before,there,rfl⟩ := List.mem_map.mp member
    split at free
    · cases free
    rename_i other
    rw [if_neg other] at spent
    rcases claims_new spent with earlier | ⟨same,row,inside,claims⟩
    · exact table.unused before there free earlier
    · have one := List.inj_on_of_nodup_map table.keyed there inside (same.trans (claimable_exact.mp claims).1.symm)
      rw [one] at other
      exact other claims
  claimed := by
    intro other spent
    rcases claims_new spent with before | ⟨rfl,row,there,claims⟩
    · exact table.claimed other before
    · obtain ⟨old,issued,same,-⟩ := table.kept row there
      exact List.mem_map.mpr ⟨old,issued,same.trans (claimable_exact.mp claims).1⟩

end Tables

-- What one answered statement changes.
structure Moves (call : Call) (seen : Seen Reply Thrown) (store after : Store) : Prop where
  table : Tabled after
  drawn : ∀ nonce ∈ store.drawn,nonce ∈ after.drawn
  issued : ∀ row ∈ store.issued,row ∈ after.issued
  claims : ∀ nonce ∈ store.claims,nonce ∈ after.claims
  clock : after.clock = store.clock
  draws : ∀ nonce,drew nonce (call.past ++ [seen]) → drew nonce call.past ∨ nonce ∉ store.drawn ∧ nonce ∈ after.drawn
  dates : ∀ clock,dated clock (call.past ++ [seen]) → dated clock call.past ∨ clock = store.clock
  takes : ∀ nonce walletAddress clock,took nonce walletAddress clock (call.past ++ [seen]) →
    took nonce walletAddress clock call.past ∨ nonce ∉ store.claims ∧ nonce ∈ after.claims ∧
      ∃ row ∈ store.issued,row.nonce = nonce ∧ row.walletAddress = walletAddress ∧ clock < row.expiresAt
  issuer : ∀ row ∈ after.issued,row ∈ store.issued ∨
    call.operation = .issue row.walletAddress ∧ created row (call.past ++ [seen]) ∧ drew row.nonce call.past

section Statements
variable {call : Call} {seen : Seen Reply Thrown} {store after : Store}

theorem drew_more (draws : drew nonce (past ++ [seen])) :
    drew nonce past ∨ ∃ bytes : List UInt8,hexText bytes = nonce ∧ seen = ⟨.randomBytes,.ok bytes⟩ := by
  obtain ⟨bytes,same,member⟩ := draws
  rcases List.mem_append.mp member with old | new
  · exact .inl ⟨bytes,same,old⟩
  · exact .inr ⟨bytes,same,(List.mem_singleton.mp new).symm⟩

theorem dated_more (dates : dated clock (past ++ [seen])) : dated clock past ∨ seen = ⟨.now,.ok clock⟩ := by
  rcases List.mem_append.mp dates with old | new
  · exact .inl old
  · exact .inr (List.mem_singleton.mp new).symm

theorem took_more (takes : took nonce walletAddress clock (past ++ [seen])) :
    took nonce walletAddress clock past ∨ seen = ⟨.updateMany nonce walletAddress clock,.ok (1 : Nat)⟩ := by
  rcases List.mem_append.mp takes with old | new
  · exact .inl old
  · exact .inr (List.mem_singleton.mp new).symm

theorem drew_before (other : ∀ bytes : List UInt8,seen ≠ ⟨.randomBytes,.ok bytes⟩) (draws : drew nonce (past ++ [seen])) :
    drew nonce past := by
  rcases drew_more draws with old | ⟨bytes,-,same⟩
  · exact old
  · exact absurd same (other bytes)

theorem dated_before (other : ∀ clock : Int,seen ≠ ⟨.now,.ok clock⟩) (dates : dated clock (past ++ [seen])) :
    dated clock past := by
  rcases dated_more dates with old | same
  · exact old
  · exact absurd same (other clock)

theorem took_before (other : ∀ nonce walletAddress clock,seen ≠ ⟨.updateMany nonce walletAddress clock,.ok (1 : Nat)⟩)
    (takes : took nonce walletAddress clock (past ++ [seen])) : took nonce walletAddress clock past := by
  rcases took_more takes with old | same
  · exact old
  · exact absurd same (other nonce walletAddress clock)

theorem created_last : created row (past ++ [⟨.create row,answer⟩]) :=
  ⟨answer,List.mem_append_right _ (List.mem_singleton_self _)⟩

-- A statement that leaves the record of draws, rows and claims as it is.
theorem moves_plain (table : Tabled after) (drawn : after.drawn = store.drawn) (issued : after.issued = store.issued)
    (claims : after.claims = store.claims) (clock : after.clock = store.clock)
    (draws : ∀ bytes : List UInt8,seen ≠ ⟨.randomBytes,.ok bytes⟩)
    (dates : ∀ clock : Int,seen = ⟨.now,.ok clock⟩ → clock = store.clock)
    (takes : ∀ nonce walletAddress clock,seen ≠ ⟨.updateMany nonce walletAddress clock,.ok (1 : Nat)⟩) :
    Moves call seen store after where
  table := table
  drawn := fun nonce member => drawn.symm ▸ member
  issued := fun row member => issued.symm ▸ member
  claims := fun nonce member => claims.symm ▸ member
  clock := clock
  draws := fun nonce more => .inl (drew_before draws more)
  dates := by
    intro clock more
    rcases dated_more more with old | same
    · exact .inl old
    · exact .inr (dates clock same)
  takes := fun nonce walletAddress clock more => .inl (took_before takes more)
  issuer := fun row member => .inl (issued ▸ member)

theorem moves_draw (table : Tabled store) {bytes : List UInt8} (fresh : hexText bytes ∉ store.drawn) :
    Moves call ⟨.randomBytes,.ok bytes⟩ store { store with drawn := store.drawn ++ [hexText bytes] } where
  table := { table with }
  drawn := fun nonce member => List.mem_append_left _ member
  issued := fun row member => member
  claims := fun nonce member => member
  clock := rfl
  draws := by
    intro nonce more
    rcases drew_more more with old | ⟨other,same,equal⟩
    · exact .inl old
    · cases equal
      subst same
      exact .inr ⟨fresh,List.mem_append_right _ (List.mem_singleton_self _)⟩
  dates := fun clock more => .inl (dated_before (fun _ same => by cases same) more)
  takes := fun nonce walletAddress clock more => .inl (took_before (fun _ _ _ same => by cases same) more)
  issuer := fun row member => .inl member

theorem moves_create (table : Tabled store) (fresh : data.nonce ∉ store.issued.map AuthNonce.nonce)
    (issues : call.operation = .issue data.walletAddress) (owns : drew data.nonce call.past) :
    Moves call ⟨.create data,answer⟩ store (store.create data) where
  table := tabled_create table fresh
  drawn := fun nonce member => member
  issued := fun row member => List.mem_append_left _ member
  claims := fun nonce member => member
  clock := rfl
  draws := fun nonce more => .inl (drew_before (fun _ same => by cases same) more)
  dates := fun clock more => .inl (dated_before (fun _ same => by cases same) more)
  takes := fun nonce walletAddress clock more => .inl (took_before (fun _ _ _ same => by cases same) more)
  issuer := by
    intro row member
    rcases List.mem_append.mp member with old | new
    · exact .inl old
    · rw [List.mem_singleton.mp new]
      exact .inr ⟨issues,created_last,owns⟩

theorem moves_update (table : Tabled store) {answer : Except Thrown (Reply (.updateMany nonce walletAddress clock))}
    (counted : ∀ count : Nat,answer = .ok count → count = store.rows.countP (claimable nonce walletAddress clock)) :
    Moves call ⟨.updateMany nonce walletAddress clock,answer⟩ store (store.updateMany nonce walletAddress clock) where
  table := tabled_update table nonce walletAddress clock
  drawn := fun nonce member => member
  issued := fun row member => member
  claims := fun nonce member => List.mem_append_left _ member
  clock := rfl
  draws := fun nonce more => .inl (drew_before (fun _ same => by cases same) more)
  dates := fun clock more => .inl (dated_before (fun _ same => by cases same) more)
  takes := by
    intro other owner time more
    rcases took_more more with old | same
    · exact .inl old
    cases same
    have one := counted 1 rfl
    obtain ⟨row,there,claims⟩ := List.countP_pos_iff.mp (one ▸ Nat.one_pos)
    have ⟨named,owned,free,early⟩ := claimable_exact.mp claims
    obtain ⟨old,issued,same,wallet,expiry⟩ := table.kept row there
    refine .inr ⟨named ▸ table.unused row there free,?_,old,issued,same.trans named,wallet.trans owned,expiry ▸ early⟩
    refine List.mem_append_right _ (List.mem_map.mpr ⟨row,List.mem_filter.mpr ⟨there,claims⟩,named⟩)
  issuer := fun row member => .inl member

theorem answers_create {answer : Except Thrown (Reply (.create data))} (answers : Answers (.create data) store answer after) :
    after = store ∨ after = store.create data := by
  by_cases taken : data.nonce ∈ store.rows.map AuthNonce.nonce
  · simp only [Answers,if_pos taken] at answers
    exact .inl answers.2
  · simp only [Answers,if_neg taken] at answers
    exact .inr answers.2

theorem moves_did {query : Query} {answer : Except Thrown (Reply query)} (table : Tabled store)
    (did : Did query store answer after) (allowed : Allowed call.operation query call.past)
    (fresh : ∀ data,query = .create data → data.nonce ∉ store.issued.map AuthNonce.nonce) :
    Moves call ⟨query,answer⟩ store after := by
  cases query with
  | randomBytes =>
    rcases did with ⟨bytes,-,new,rfl,rfl⟩ | fails
    · exact moves_draw table new
    · exact fails.elim
  | now =>
    rcases did with ⟨rfl,rfl⟩ | fails
    · refine moves_plain table rfl rfl rfl rfl ?_ ?_ ?_
      · exact fun _ same => by cases same
      · rintro clock ⟨⟩
        rfl
      · exact fun _ _ _ same => by cases same
    · exact fails.elim
  | create data =>
    have plain : ∀ answer,Moves call ⟨.create data,answer⟩ store store := fun answer =>
      moves_plain table rfl rfl rfl rfl (fun _ same => by cases same) (fun _ same => by cases same)
        (fun _ _ _ same => by cases same)
    have made : ∀ answer,Moves call ⟨.create data,answer⟩ store (store.create data) := fun answer =>
      moves_create table (fresh data rfl) allowed.1 allowed.2.2.1
    rcases did with answers | ⟨-,rfl | ⟨lost,answers⟩⟩
    · rcases answers_create answers with rfl | rfl
      · exact plain answer
      · exact made answer
    · exact plain answer
    · rcases answers_create answers with rfl | rfl
      · exact plain answer
      · exact made answer
  | deleteMany expiresBefore =>
    have deleted : ∀ answer,Moves call ⟨.deleteMany expiresBefore,answer⟩ store (store.deleteMany expiresBefore) :=
      fun answer => moves_plain (tabled_delete table expiresBefore) rfl rfl rfl rfl (fun _ same => by cases same)
        (fun _ same => by cases same) (fun _ _ _ same => by cases same)
    rcases did with ⟨-,rfl⟩ | ⟨-,rfl | ⟨lost,-,rfl⟩⟩
    · exact deleted answer
    · exact moves_plain table rfl rfl rfl rfl (fun _ same => by cases same) (fun _ same => by cases same)
        (fun _ _ _ same => by cases same)
    · exact deleted answer
  | updateMany nonce walletAddress clock =>
    rcases did with ⟨rfl,rfl⟩ | ⟨rfl,rfl | ⟨lost,-,rfl⟩⟩
    · refine moves_update table ?_
      rintro count ⟨⟩
      rfl
    · exact moves_plain table rfl rfl rfl rfl (fun _ same => by cases same) (fun _ same => by cases same)
        (fun _ _ _ same => by cases same)
    · refine moves_update table ?_
      rintro count ⟨⟩

end Statements

-- What every reached world is like.
structure Sound (node : Node) (world : World) : Prop where
  table : Tabled world.store
  obeys : Obey Allowed (Done node) world.calls
  draws : Once (fun call nonce => drew nonce call.past) world.store.drawn world.calls
  takes : Once (fun call nonce => ∃ walletAddress clock,took nonce walletAddress clock call.past) world.store.claims world.calls
  issuer : ∀ row ∈ world.store.issued,∃ call ∈ world.calls,
    call.operation = .issue row.walletAddress ∧ created row call.past ∧ drew row.nonce call.past
  timely : ∀ call ∈ world.calls,∀ nonce walletAddress clock,took nonce walletAddress clock call.past →
    ∃ row ∈ world.store.issued,row.nonce = nonce ∧ row.walletAddress = walletAddress ∧ clock < row.expiresAt

section Runs
variable {node : Node} {world later : World}

theorem first_sound (clock : Int) : Sound node (World.first clock) where
  table := ⟨List.nodup_nil,List.nodup_nil,fun _ member => absurd member List.not_mem_nil,
    fun _ member => absurd member List.not_mem_nil,fun _ member => absurd member List.not_mem_nil⟩
  obeys := fun _ member => absurd member List.not_mem_nil
  draws := once_nil
  takes := once_nil
  issuer := fun _ member => absurd member List.not_mem_nil
  timely := fun _ member => absurd member List.not_mem_nil

theorem enter_sound (sound : Sound node world) (operation : Operation) :
    Sound node ⟨world.store,world.calls ++ [Call.fresh (bodyOf node) operation]⟩ where
  table := sound.table
  obeys := step_obeys body_follows sound.obeys (@Step.enter _ _ _ _ _ _ _ Did Later world operation)
  draws := by
    refine once_enter sound.draws ?_
    rintro key ⟨bytes,-,member⟩
    exact absurd member List.not_mem_nil
  takes := by
    refine once_enter sound.takes ?_
    rintro key ⟨walletAddress,clock,member⟩
    exact absurd member List.not_mem_nil
  issuer := by
    intro row member
    obtain ⟨call,there,issued⟩ := sound.issuer row member
    exact ⟨call,List.mem_append_left _ there,issued⟩
  timely := by
    intro call member nonce walletAddress clock takes
    rcases List.mem_append.mp member with old | new
    · exact sound.timely call old nonce walletAddress clock takes
    · rw [List.mem_singleton.mp new] at takes
      exact absurd takes List.not_mem_nil

-- A row about to be created has a nonce that no row has had: its own call drew it,
-- and has created nothing yet.
theorem create_fresh (sound : Sound node world) {index : Nat} {call : Call} (here : world.calls[index]? = some call)
    (allowed : Allowed call.operation (.create data) call.past) :
    data.nonce ∉ world.store.issued.map AuthNonce.nonce := by
  intro member
  obtain ⟨row,issued,same⟩ := List.mem_map.mp member
  obtain ⟨other,there,-,makes,draws⟩ := sound.issuer row issued
  obtain ⟨place,found⟩ := List.getElem?_of_mem there
  have equal := sound.draws.single place index other call data.nonce found here (same ▸ draws) allowed.2.2.1
  rw [equal,here] at found
  cases found
  exact allowed.2.2.2 row makes

theorem answer_moves (sound : Sound node world) {index : Nat} {call : Call} {next : Except Thrown (Reply query) → Async Outcome}
    (here : world.calls[index]? = some call) (turn : call.rest = .call query next)
    (did : Did query world.store answer after) : Moves call ⟨query,answer⟩ world.store after := by
  have allowed := (obey_heard sound.obeys here turn).1
  refine moves_did sound.table did allowed ?_
  rintro data rfl
  exact create_fresh sound here allowed

theorem answer_sound (sound : Sound node world) {index : Nat} {call : Call} {next : Except Thrown (Reply query) → Async Outcome}
    (here : world.calls[index]? = some call) (turn : call.rest = .call query next)
    (did : Did query world.store answer after) :
    Sound node ⟨after,world.calls.set index (call.heard query answer (next answer))⟩ := by
  have moves := answer_moves sound here turn did
  have step : Step node world ⟨after,world.calls.set index (call.heard query answer (next answer))⟩ := .answer here turn did
  constructor
  · exact moves.table
  · exact step_obeys body_follows sound.obeys step
  · exact once_set sound.draws here moves.drawn moves.draws
  · refine once_set sound.takes here moves.claims ?_
    rintro nonce ⟨walletAddress,clock,takes⟩
    rcases moves.takes nonce walletAddress clock takes with old | ⟨free,spent,-⟩
    · exact .inl ⟨walletAddress,clock,old⟩
    · exact .inr ⟨free,spent⟩
  · intro row issued
    rcases moves.issuer row issued with old | ⟨operation,makes,bytes,same,draws⟩
    · obtain ⟨other,there,issues,⟨answer,makes⟩,bytes,same,draws⟩ := sound.issuer row old
      obtain ⟨place,found⟩ := List.getElem?_of_mem there
      obtain ⟨new,inside,operation,keeps⟩ := step_stays step found
      exact ⟨new,List.mem_of_getElem? inside,operation.trans issues,⟨answer,keeps _ makes⟩,bytes,same,keeps _ draws⟩
    · exact ⟨_,List.mem_set (List.getElem?_eq_some_iff.mp here).1 _,operation,makes,bytes,same,List.mem_append_left _ draws⟩
  · intro other inside nonce walletAddress clock takes
    rcases List.mem_or_eq_of_mem_set inside with old | rfl
    · obtain ⟨row,issued,rest⟩ := sound.timely other old nonce walletAddress clock takes
      exact ⟨row,moves.issued row issued,rest⟩
    · rcases moves.takes nonce walletAddress clock takes with old | ⟨-,-,row,issued,rest⟩
      · obtain ⟨row,issued,rest⟩ := sound.timely call (List.mem_of_getElem? here) nonce walletAddress clock old
        exact ⟨row,moves.issued row issued,rest⟩
      · exact ⟨row,moves.issued row issued,rest⟩

theorem step_sound (sound : Sound node world) (step : Step node world later) : Sound node later := by
  cases step with
  | enter => exact enter_sound sound _
  | answer here turn did => exact answer_sound sound here turn did
  | outside moved =>
    obtain ⟨now,-,rfl⟩ := moved
    obtain ⟨table,obeys,draws,takes,issuer,timely⟩ := sound
    exact ⟨{ table with },obeys,draws,takes,issuer,timely⟩

theorem run_sound (sound : Sound node world) (run : Run node world later) : Sound node later :=
  run_keeps (Sound node) run (fun _ _ => step_sound) sound

-- What the calls that enter after `world` have seen.
structure Since (world later : World) : Prop where
  clock : world.store.clock ≤ later.store.clock
  issued : ∀ row ∈ world.store.issued,row ∈ later.store.issued
  claims : ∀ nonce ∈ world.store.claims,nonce ∈ later.store.claims
  length : world.calls.length ≤ later.calls.length
  dates : ∀ i call,world.calls.length ≤ i → later.calls[i]? = some call → ∀ clock,dated clock call.past →
    world.store.clock ≤ clock
  takes : ∀ i call,world.calls.length ≤ i → later.calls[i]? = some call → ∀ nonce walletAddress clock,
    took nonce walletAddress clock call.past → nonce ∉ world.store.claims

theorem since_refl (world : World) : Since world world where
  clock := le_refl _
  issued := fun _ => id
  claims := fun _ => id
  length := le_refl _
  dates := by
    intro i call late here
    rw [List.getElem?_eq_none late] at here
    cases here
  takes := by
    intro i call late here
    rw [List.getElem?_eq_none late] at here
    cases here

theorem step_since {middle : World} (sound : Sound node middle) (since : Since world middle) (step : Step node middle later) :
    Since world later := by
  cases step with
  | enter =>
    refine ⟨since.clock,since.issued,since.claims,?_,?_,?_⟩
    · rw [List.length_append]
      exact Nat.le_trans since.length (Nat.le_add_right _ _)
    · intro i call late here clock dates
      rcases entered here with old | ⟨-,rfl⟩
      · exact since.dates i call late old clock dates
      · exact absurd dates List.not_mem_nil
    · intro i call late here nonce walletAddress clock takes
      rcases entered here with old | ⟨-,rfl⟩
      · exact since.takes i call late old nonce walletAddress clock takes
      · exact absurd takes List.not_mem_nil
  | answer here turn did =>
    have moves := answer_moves sound here turn did
    refine ⟨moves.clock ▸ since.clock,fun row issued => moves.issued row (since.issued row issued),
      fun nonce spent => moves.claims nonce (since.claims nonce spent),?_,?_,?_⟩
    · rw [List.length_set]
      exact since.length
    · intro i call late there clock dates
      rcases replaced there with ⟨rfl,rfl⟩ | ⟨-,old⟩
      · rcases moves.dates clock dates with before | rfl
        · exact since.dates i _ late here clock before
        · exact since.clock
      · exact since.dates i call late old clock dates
    · intro i call late there nonce walletAddress clock takes
      rcases replaced there with ⟨rfl,rfl⟩ | ⟨-,old⟩
      · rcases moves.takes nonce walletAddress clock takes with before | ⟨free,-⟩
        · exact since.takes i _ late here nonce walletAddress clock before
        · exact fun spent => free (since.claims nonce spent)
      · exact since.takes i call late old nonce walletAddress clock takes
  | outside moved =>
    obtain ⟨now,later,rfl⟩ := moved
    exact { since with clock := le_trans since.clock later }

theorem run_since (sound : Sound node world) (run : Run node world later) : Since world later :=
  (run_keeps (fun middle => Sound node middle ∧ Since world middle) run
    (fun _ _ kept step => ⟨step_sound kept.1 step,step_since kept.1 kept.2 step⟩) ⟨sound,since_refl world⟩).2

end Runs

def LetThrough (call : Call) (nonce : Text) : Prop :=
  ∃ headers wallet,call.operation = .request headers ∧ call.rest = .ret (.authenticated (.ok wallet)) ∧
    pickHeader headers "x-signed-nonce" = some nonce

-- The nonce that a request let through has used up, and what it has shown for it.
structure Authenticated (node : Node) (world : World) (call : Call) (headers : Headers) (wallet : AuthenticatedWallet)
    (row : AuthNonce) : Prop where
  issued : ∃ issuer ∈ world.calls,issuer.operation = .issue row.walletAddress ∧ created row issuer.past
  presents : pickHeader headers "x-signed-nonce" = some row.nonce
  names : pickHeader headers "x-wallet-address" = some row.walletAddress
  pubkey : node.newPublicKey row.walletAddress = some wallet.pubkey
  address : wallet.address = row.walletAddress
  signature : ∃ signatureHeader signature,pickHeader headers "x-signature" = some signatureHeader ∧
    node.base64 signatureHeader = some signature ∧
    verifyEd25519Detached node (utf8 row.nonce) signature wallet.pubkey = true
  inTime : ∃ clock,dated clock call.past ∧ clock < row.expiresAt

section Requests
variable {node : Node} {world : World} {call : Call}

theorem vouched (sound : Sound node world) (inside : call ∈ world.calls) (request : call.operation = .request headers)
    (passed : call.rest = .ret (.authenticated (.ok wallet))) :
    ∃ nonce walletAddress clock,Vouched node headers wallet nonce walletAddress clock call.past := by
  have done := sound.obeys call inside
  rw [passed] at done
  exact done headers wallet request rfl

theorem let_through_took (sound : Sound node world) (inside : call ∈ world.calls) (passed : LetThrough call nonce) :
    ∃ walletAddress clock,took nonce walletAddress clock call.past ∧ dated clock call.past := by
  obtain ⟨headers,wallet,request,ends,presents⟩ := passed
  obtain ⟨other,walletAddress,clock,shown⟩ := vouched sound inside request ends
  cases presents.symm.trans shown.presents
  exact ⟨walletAddress,clock,shown.took,shown.dated⟩

theorem authenticated (printed : node.RoundTrip) (sound : Sound node world) (inside : call ∈ world.calls) (request : call.operation = .request headers)
    (passed : call.rest = .ret (.authenticated (.ok wallet))) :
    ∃ row ∈ world.store.issued,Authenticated node world call headers wallet row := by
  obtain ⟨nonce,walletAddress,clock,shown⟩ := vouched sound inside request passed
  obtain ⟨row,issued,rfl,rfl,early⟩ := sound.timely call inside nonce walletAddress clock shown.took
  obtain ⟨issuer,there,issues,makes,-⟩ := sound.issuer row issued
  exact ⟨row,issued,{
    issued := ⟨issuer,there,issues,makes⟩
    presents := shown.presents
    names := shown.names
    pubkey := shown.pubkey
    address := shown.address.trans (printed _ _ shown.pubkey)
    signature := shown.signature
    inTime := ⟨clock,shown.dated,early⟩ }⟩

end Requests

theorem nonce_authentication (node : Node) (printed : node.RoundTrip) (clock : Int) (world : World)
    (run : Run node (World.first clock) world) :
    (∀ (i j : Nat) one two nonce,world.calls[i]? = some one → world.calls[j]? = some two →
      LetThrough one nonce → LetThrough two nonce → i = j) ∧
    (∀ call ∈ world.calls,∀ headers wallet,call.operation = .request headers →
      call.rest = .ret (.authenticated (.ok wallet)) →
        ∃ row ∈ world.store.issued,Authenticated node world call headers wallet row) ∧
    (∀ later,Run node world later → ∀ row ∈ world.store.issued,
      row.nonce ∈ world.store.claims ∨ row.expiresAt ≤ world.store.clock →
        ∀ (i : Nat) call,world.calls.length ≤ i → later.calls[i]? = some call → ¬LetThrough call row.nonce) := by
  have sound := run_sound (@first_sound node clock) run
  refine ⟨?_,?_,?_⟩
  · intro i j one two nonce first second passed also
    obtain ⟨walletAddress,clock,takes,-⟩ := let_through_took sound (List.mem_of_getElem? first) passed
    obtain ⟨other,time,again,-⟩ := let_through_took sound (List.mem_of_getElem? second) also
    exact sound.takes.single i j one two nonce first second ⟨walletAddress,clock,takes⟩ ⟨other,time,again⟩
  · intro call inside headers wallet request passed
    exact authenticated printed sound inside request passed
  · intro later runs row issued gone i call late here passed
    have since := run_since sound runs
    have sound' := run_sound sound runs
    obtain ⟨walletAddress,clock,takes,dates⟩ := let_through_took sound' (List.mem_of_getElem? here) passed
    rcases gone with spent | expired
    · exact since.takes i call late here _ walletAddress clock takes spent
    · have after := since.dates i call late here clock dates
      obtain ⟨other,there,same,-,early⟩ := sound'.timely call (List.mem_of_getElem? here) _ walletAddress clock takes
      have one := List.inj_on_of_nodup_map sound'.table.issued there (since.issued row issued) same
      rw [one] at early
      omega

def sampleKey : List UInt8 :=
  [0x3b,0x6a,0x27,0xbc,0xce,0xb6,0xa4,0x2d,0x62,0xa3,0xa8,0xd0,0x2a,0x6f,0x0d,0x73,
    0x65,0x32,0x15,0x77,0x1d,0xe2,0x43,0xa6,0x3a,0xc0,0x48,0xa1,0x8b,0x59,0xda,0x29]

def sampleWallet : Text := "4zvwRjXUKGfvwnParsHAS3HuSVzV5cA4McphgmoCtajS".toList

def sampleNonce : Text := hexText (List.replicate 32 0)

-- The Ed25519 signature of the nonce under the key, and its base64.
def sampleSignature : List UInt8 :=
  [0xa3,0x4a,0x0f,0x8e,0xf2,0xf6,0x25,0x52,0x42,0x99,0x89,0x20,0xd3,0x65,0x06,0x47,
    0x33,0x6f,0x25,0x11,0xbe,0xb0,0xb0,0xa5,0x9e,0xa1,0x6f,0xad,0xe4,0x82,0x54,0xcd,
    0x6e,0x02,0xa1,0x53,0x84,0xe1,0xad,0x60,0x0b,0x07,0x31,0x93,0x73,0x08,0x7f,0x7c,
    0x2f,0xfa,0xc6,0xbb,0x0a,0x6e,0x0a,0x88,0xc0,0x44,0xa1,0xde,0x9b,0xb3,0xef,0x0d]

def sampleBase64 : Text := "o0oPjvL2JVJCmYkg02UGRzNvJRG+sLClnqFvreSCVM1uAqFThOGtYAsHMZNzCH98L/rGuwpuCojARKHem7PvDQ==".toList

-- Keys are base58 texts of exactly 32 bytes. The reader and the check are node's on
-- the sample signature.
def sampleNode : Node where
  base64 text := some (if text = sampleBase64 then sampleSignature else [])
  verify der message signature :=
    some (decide (der = ED25519_SPKI_PREFIX ++ sampleKey ∧ message = utf8 sampleNonce ∧ signature = sampleSignature))
  newPublicKey text := (Numerals.decode ALPHABET text).filter fun bytes => bytes.length = 32
  toBase58 pubkey := Numerals.encode ALPHABET pubkey

theorem alphabet_two : 1 < ALPHABET.length := by decide

theorem sampleNode_printed : sampleNode.RoundTrip := by
  intro text pubkey read
  exact Numerals.encode_decode alphabet_two (Option.filter_eq_some_iff.mp read).1

theorem sampleWallet_read : sampleNode.newPublicKey sampleWallet = some sampleKey := by decide

def sampleHeaders : Headers := fun key =>
  if key = "x-wallet-address" then some (.one sampleWallet)
  else if key = "x-signed-nonce" then some (.one (' ' :: sampleNonce))
  else if key = "x-signature" then some (.one sampleBase64)
  else none

-- What the sample node answers the two sample calls.
def sampleAnswers : Node := { sampleNode with
  base64 := fun _ => some sampleSignature
  verify := fun _ _ _ => some true
  newPublicKey := fun _ => some sampleKey }

theorem sample_issues : bodyOf sampleNode (.issue sampleWallet) = bodyOf sampleAnswers (.issue sampleWallet) := by
  simp only [bodyOf,issueAuthNonce,sampleWallet_read]
  rfl

theorem sample_presented : presented sampleHeaders "x-wallet-address" = some sampleWallet ∧
    presented sampleHeaders "x-signed-nonce" = some sampleNonce ∧
    presented sampleHeaders "x-signature" = some sampleBase64 := by decide

theorem sample_verified : verifyEd25519Detached sampleNode (utf8 sampleNonce) sampleSignature sampleKey = true := by
  decide +kernel

theorem sample_requests : bodyOf sampleNode (.request sampleHeaders) = bodyOf sampleAnswers (.request sampleHeaders) := by
  obtain ⟨wallet,nonce,signature⟩ := sample_presented
  have decoded : sampleNode.base64 sampleBase64 = some sampleSignature := by simp only [sampleNode,if_true]
  simp only [bodyOf,requireWalletSignature,wallet,nonce,signature,sampleWallet_read,decoded,sample_verified]
  rfl

-- A nonce is issued, and presented with a blank before it.
theorem sample_run : ∃ world,Run sampleNode (World.first 0) world ∧
    ∃ call,world.calls[1]? = some call ∧ LetThrough call sampleNonce := by
  have issued := Run.entered (.stay : Run sampleNode (World.first 0) (World.first 0)) (.issue sampleWallet)
  rw [Call.fresh,sample_issues] at issued
  have drawn := issued.answered 0 rfl rfl (.inl ⟨List.replicate 32 0,rfl,List.not_mem_nil,rfl,rfl⟩)
  have dated := drawn.answered 0 rfl rfl (.inl ⟨rfl,rfl⟩)
  have made := dated.answered 0 rfl rfl (.inl ⟨rfl,rfl⟩)
  have again := made.answered 0 rfl rfl (.inl ⟨rfl,rfl⟩)
  have swept := again.answered 0 rfl rfl (.inl ⟨rfl,rfl⟩)
  have asked := swept.entered (.request sampleHeaders)
  rw [Call.fresh,sample_requests] at asked
  have checked := asked.answered 1 rfl rfl (.inl ⟨rfl,rfl⟩)
  have claimed := checked.answered 1 rfl rfl (.inl ⟨rfl,rfl⟩)
  exact ⟨_,claimed,_,rfl,sampleHeaders,_,rfl,rfl,by decide⟩

theorem nonce_authentication_sample : ∃ world : World,
    (∃ call,world.calls[1]? = some call ∧ LetThrough call sampleNonce) ∧
    ∀ (i : Nat) call,world.calls[i]? = some call → LetThrough call sampleNonce → i = 1 := by
  obtain ⟨world,run,call,here,passed⟩ := sample_run
  have once := (nonce_authentication sampleNode sampleNode_printed 0 world run).1
  exact ⟨world,⟨call,here,passed⟩,fun i other there also => once i 1 other call sampleNonce there here also passed⟩

end Octora.Auth
