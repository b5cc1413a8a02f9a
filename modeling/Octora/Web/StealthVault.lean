import Octora.Library.BigIntText
import Octora.Library.Desk

namespace Octora.Web.StealthVault
open Calls Op BigIntText Holders Desk

abbrev Text := List Char

-- A base58 address.
structure Address where
  text : Text
  plain : ':' ∉ text
  deriving DecidableEq

-- What the wallets, the browser and web3.js compute.
structure Crypto where
  Signature : Type
  Seed : Type
  Keypair : Type
  sign : (account : Text) → (message : List UInt8) → Signature
  sha256 : Signature → Seed
  fromSeed : Seed → Keypair
  toBase58 : Keypair → Text

-- Signatures differ for each key and message, and nothing collides after them.
structure Ideal (crypto : Crypto) : Prop where
  distinct : ∀ account other message also,crypto.sign account message = crypto.sign other also →
    account = other ∧ message = also
  collisionFree : Function.Injective crypto.sha256
  seeds : Function.Injective crypto.fromSeed

abbrev ProviderId := Nat

structure SignableProvider where
  id : ProviderId
  signMessage : Bool

structure InjectedWindow where
  phantom : Option SignableProvider
  solana : Option SignableProvider
  backpack : Option SignableProvider
  solflare : Option SignableProvider

-- An extension answers with the account it signed with; the code reads the
-- signature alone.
structure SignMessageOutput (crypto : Crypto) where
  signature : crypto.Signature
  publicKey : Text

inductive Thrown where
  | noSignMessage
  | rejected

def Thrown.message : Thrown → String
  | .noSignMessage => "Connected wallet does not support signMessage."
  | .rejected => "User rejected the request."

inductive Query (crypto : Crypto) where
  | cacheGet (cacheKey : Text)
  | window
  | signMessage (provider : ProviderId) (message : List UInt8)
  | cacheSet (cacheKey : Text) (keypair : crypto.Keypair)

def Reply (crypto : Crypto) : Query crypto → Type
  | .cacheGet _ => Option crypto.Keypair
  | .window => InjectedWindow
  | .signMessage _ _ => SignMessageOutput crypto
  | .cacheSet _ _ => Unit

abbrev Async (crypto : Crypto) (α : Type) := Op (Reply crypto) Thrown α

structure DerivedStealth (crypto : Crypto) where
  keypair : crypto.Keypair
  publicKey : Text

section Source
variable (crypto : Crypto)

def cacheGet (cacheKey : Text) : Async crypto (Option crypto.Keypair) := send (Query.cacheGet cacheKey)

def injectedWindow : Async crypto InjectedWindow := send Query.window

def signMessage (provider : ProviderId) (message : List UInt8) : Async crypto (SignMessageOutput crypto) :=
  send (Query.signMessage provider message)

def cacheSet (cacheKey : Text) (keypair : crypto.Keypair) : Async crypto Unit := send (Query.cacheSet cacheKey keypair)

def lines (texts : List String) : Text := ("\n".intercalate texts).toList

def ofText (text : Text) : String := String.ofList text

-- stealthVault.ts
def buildDerivationMessageV1 (poolAddress : Text) : Text :=
  lines ["Octora · Authorize private session","","Version: 1","Pool: " ++ ofText poolAddress,"",
    "This signature derives the private address for your position.",
    "It does not authorize any on-chain transaction or token transfer."]

def buildDerivationMessageV2 (poolAddress positionId : Text) : Text :=
  lines ["Octora · Authorize private session","","Version: 2","Pool: " ++ ofText poolAddress,
    "Position: " ++ ofText positionId,"",
    "This signature derives the private address for THIS SPECIFIC position.",
    "Different positions get different addresses so they can't be linked.",
    "It does not authorize any on-chain transaction or token transfer."]

-- The first extension in a fixed order that can sign.
def pick (window : InjectedWindow) : Option SignableProvider :=
  [window.phantom,window.solana,window.backpack,window.solflare].findSome? fun candidate =>
    candidate.filter SignableProvider.signMessage

def getSigningProvider : Async crypto ProviderId := do
  let window ← injectedWindow crypto
  match pick window with
  | none => .throws .noSignMessage
  | some hit => return hit.id

-- What both derivations do, with their cache key and their message.
def derive (cacheKey message : Text) : Async crypto (DerivedStealth crypto) := do
  match ← cacheGet crypto cacheKey with
  | some cached => return { keypair := cached, publicKey := crypto.toBase58 cached }
  | none =>
    let provider ← getSigningProvider crypto
    let output ← signMessage crypto provider (utf8 message)
    let keypair := crypto.fromSeed (crypto.sha256 output.signature)
    cacheSet crypto cacheKey keypair
    return { keypair := keypair, publicKey := crypto.toBase58 keypair }

def poolKey (mainWalletAddress poolAddress : Address) : Text :=
  "v1:".toList ++ mainWalletAddress.text ++ ':' :: poolAddress.text

def positionKey (mainWalletAddress poolAddress : Address) (positionId : Text) : Text :=
  "v2:".toList ++ mainWalletAddress.text ++ ':' :: poolAddress.text ++ ':' :: positionId

def deriveStealthForPool (mainWalletAddress poolAddress : Address) : Async crypto (DerivedStealth crypto) :=
  derive crypto (poolKey mainWalletAddress poolAddress) (buildDerivationMessageV1 poolAddress.text)

def deriveStealthForPosition (mainWalletAddress poolAddress : Address) (positionId : Text) :
    Async crypto (DerivedStealth crypto) :=
  derive crypto (positionKey mainWalletAddress poolAddress positionId)
    (buildDerivationMessageV2 poolAddress.text positionId)

end Source

inductive Operation where
  | deriveStealthForPool (mainWalletAddress poolAddress : Address)
  | deriveStealthForPosition (mainWalletAddress poolAddress : Address) (positionId : Text)
  deriving DecidableEq

def bodyOf (crypto : Crypto) : Operation → Async crypto (DerivedStealth crypto)
  | .deriveStealthForPool mainWalletAddress poolAddress => deriveStealthForPool crypto mainWalletAddress poolAddress
  | .deriveStealthForPosition mainWalletAddress poolAddress positionId =>
    deriveStealthForPosition crypto mainWalletAddress poolAddress positionId

def Operation.wallet : Operation → Address
  | .deriveStealthForPool mainWalletAddress _ => mainWalletAddress
  | .deriveStealthForPosition mainWalletAddress _ _ => mainWalletAddress

def Operation.cacheKey : Operation → Text
  | .deriveStealthForPool mainWalletAddress poolAddress => poolKey mainWalletAddress poolAddress
  | .deriveStealthForPosition mainWalletAddress poolAddress positionId => positionKey mainWalletAddress poolAddress positionId

def Operation.signed : Operation → Text
  | .deriveStealthForPool _ poolAddress => buildDerivationMessageV1 poolAddress.text
  | .deriveStealthForPosition _ poolAddress positionId => buildDerivationMessageV2 poolAddress.text positionId

theorem bodyOf_derive (crypto : Crypto) (operation : Operation) :
    bodyOf crypto operation = derive crypto operation.cacheKey operation.signed := by
  cases operation <;> rfl

-- The version is at the same place in both messages.
theorem versions_apart (pool pool' positionId : Text) :
    buildDerivationMessageV1 pool ≠ buildDerivationMessageV2 pool' positionId := by
  intro same
  simp only [buildDerivationMessageV1,buildDerivationMessageV2,lines,ofText,String.toList_intercalate,List.map_cons,List.map_nil,
    List.intercalate,List.intersperse,List.flatten_cons,List.append_cancel_left_eq] at same
  have version := (List.append_inj same (by decide)).1
  exact absurd version (by decide)

-- A page: the extensions in it and the account active in each, and the session's cache.
structure Store (crypto : Crypto) where
  window : InjectedWindow
  active : ProviderId → Text
  SESSION_CACHE : Text → Option crypto.Keypair

section Page
variable (crypto : Crypto)

def Answers : (query : Query crypto) → Store crypto → Except Thrown (Reply crypto query) → Store crypto → Prop
  | .cacheGet cacheKey,store,answer,after => answer = .ok (store.SESSION_CACHE cacheKey) ∧ after = store
  | .window,store,answer,after => answer = .ok store.window ∧ after = store
  | .signMessage provider message,store,answer,after => after = store ∧
      (answer = .ok ⟨crypto.sign (store.active provider) message,store.active provider⟩ ∨ answer = .error .rejected)
  | .cacheSet cacheKey keypair,store,answer,after => answer = .ok () ∧
      after = { store with SESSION_CACHE := fun key => if key = cacheKey then some keypair else store.SESSION_CACHE key }

-- Extensions come and go, the user switches accounts, the cache is dropped.
def Outside (store after : Store crypto) : Prop :=
  after.SESSION_CACHE = store.SESSION_CACHE ∨ after.SESSION_CACHE = fun _ => none

abbrev Call := Desk.Call Operation (Reply crypto) Thrown (DerivedStealth crypto)

abbrev World := Desk.World (Store crypto) Operation (Reply crypto) Thrown (DerivedStealth crypto)

abbrev Run : World crypto → World crypto → Prop := Desk.Run (bodyOf crypto) (Answers crypto) (Outside crypto)

def World.first (window : InjectedWindow) (active : ProviderId → Text) : World crypto := ⟨⟨window,active,fun _ => none⟩,[]⟩

end Page

-- A text is cut at its first separator in one way only.
theorem split_first {α : Type} {separator : α} {first second rest other : List α} (plain : separator ∉ first)
    (also : separator ∉ second) (same : first ++ separator :: rest = second ++ separator :: other) :
    first = second ∧ rest = other := by
  induction first generalizing second with
  | nil =>
    cases second with
    | nil => exact ⟨rfl,(List.cons.inj same).2⟩
    | cons c second =>
      have head := (List.cons.inj same).1
      exact absurd (head ▸ List.mem_cons_self) also
  | cons c first ih =>
    cases second with
    | nil =>
      have head := (List.cons.inj same).1
      exact absurd (head ▸ List.mem_cons_self) plain
    | cons d second =>
      have ⟨head,tail⟩ := List.cons.inj same
      have ⟨front,back⟩ := ih (fun inside => plain (List.mem_cons_of_mem _ inside))
        (fun inside => also (List.mem_cons_of_mem _ inside)) tail
      exact ⟨by rw [head,front],back⟩

theorem address_ext {one two : Address} (same : one.text = two.text) : one = two := by
  cases one
  cases two
  cases same
  rfl

-- No two requests share a slot of the cache.
theorem cacheKey_injective {one two : Operation} (same : one.cacheKey = two.cacheKey) : one = two := by
  cases one with
  | deriveStealthForPool wallet pool =>
    cases two with
    | deriveStealthForPool wallet' pool' =>
      have tails : wallet.text ++ ':' :: pool.text = wallet'.text ++ ':' :: pool'.text := by
        simpa only [Operation.cacheKey,poolKey,List.append_assoc,List.append_cancel_left_eq] using same
      have ⟨first,rest⟩ := split_first wallet.plain wallet'.plain tails
      rw [address_ext first,address_ext rest]
    | deriveStealthForPosition wallet' pool' positionId =>
      have version := congrArg (fun text : Text => text[1]?) same
      simp [Operation.cacheKey,poolKey,positionKey] at version
  | deriveStealthForPosition wallet pool positionId =>
    cases two with
    | deriveStealthForPool wallet' pool' =>
      have version := congrArg (fun text : Text => text[1]?) same
      simp [Operation.cacheKey,poolKey,positionKey] at version
    | deriveStealthForPosition wallet' pool' positionId' =>
      have tails : wallet.text ++ ':' :: (pool.text ++ ':' :: positionId) =
          wallet'.text ++ ':' :: (pool'.text ++ ':' :: positionId') := by
        simpa only [Operation.cacheKey,positionKey,List.append_assoc,List.cons_append,List.append_cancel_left_eq] using same
      have ⟨first,rest⟩ := split_first wallet.plain wallet'.plain tails
      have ⟨second,last⟩ := split_first pool.plain pool'.plain rest
      rw [address_ext first,address_ext second,last]

section Knowledge
variable {crypto : Crypto}

def gave (provider : ProviderId) (message : List UInt8) (output : SignMessageOutput crypto)
    (past : List (Seen (Reply crypto) Thrown)) : Prop :=
  (⟨.signMessage provider message,.ok output⟩ : Seen (Reply crypto) Thrown) ∈ past

def found (cacheKey : Text) (keypair : crypto.Keypair) (past : List (Seen (Reply crypto) Thrown)) : Prop :=
  (⟨.cacheGet cacheKey,.ok (some keypair)⟩ : Seen (Reply crypto) Thrown) ∈ past

def stored (cacheKey : Text) (keypair : crypto.Keypair) (past : List (Seen (Reply crypto) Thrown)) : Prop :=
  (⟨.cacheSet cacheKey keypair,.ok ()⟩ : Seen (Reply crypto) Thrown) ∈ past

def keyOf (signature : crypto.Signature) : crypto.Keypair := crypto.fromSeed (crypto.sha256 signature)

def Allowed (operation : Operation) (query : Query crypto) (past : List (Seen (Reply crypto) Thrown)) : Prop :=
  (∀ cacheKey keypair,¬stored cacheKey keypair past) ∧
  match query with
  | .cacheGet cacheKey => cacheKey = operation.cacheKey
  | .window => True
  | .signMessage _ message => message = utf8 operation.signed
  | .cacheSet cacheKey keypair => cacheKey = operation.cacheKey ∧
      ∃ provider output,gave provider (utf8 operation.signed) output past ∧ keypair = keyOf output.signature

-- A key comes out of the cache, or out of the one signature that was asked for.
def Done (operation : Operation) (out : Except Thrown (DerivedStealth crypto))
    (past : List (Seen (Reply crypto) Thrown)) : Prop :=
  match out with
  | .ok derived =>
    (∀ provider message output,gave provider message output past →
      message = utf8 operation.signed ∧ derived.keypair = keyOf output.signature) ∧
    (found operation.cacheKey derived.keypair past ∧ (∀ cacheKey keypair,¬stored cacheKey keypair past) ∨
      (∃ provider output,gave provider (utf8 operation.signed) output past) ∧
        ∀ cacheKey keypair,stored cacheKey keypair past → cacheKey = operation.cacheKey ∧ keypair = derived.keypair)
  | .error _ => ∀ cacheKey keypair,¬stored cacheKey keypair past

theorem body_follows (operation : Operation) :
    (bodyOf crypto operation).Follows recorded (Allowed operation) (Done operation) [] := by
  rw [bodyOf_derive]
  refine follows_bind.mpr (follows_send.mpr ⟨⟨by simp [stored],rfl⟩,?_⟩)
  rintro (error | cached) past rfl
  · simp [Ends,Done,stored]
  cases cached with
  | some cached =>
    simp only [Ends,follows_pure]
    refine ⟨fun provider message output member => absurd member (by simp [gave]),.inl ?_⟩
    exact ⟨by simp [found],by simp [stored]⟩
  | none =>
  refine follows_bind.mpr (follows_bind.mpr (follows_send.mpr ⟨⟨by simp [stored],trivial⟩,?_⟩))
  rintro (error | window) past rfl
  · simp [Ends,Done,stored]
  simp only [Ends]
  split
  · simp [Op.Follows,Ends,Done,stored]
  rename_i hit _
  refine follows_bind.mpr (follows_send.mpr ⟨⟨by simp [stored],rfl⟩,?_⟩)
  rintro (error | output) past rfl
  · simp [Ends,Done,stored]
  refine follows_bind.mpr (follows_send.mpr ⟨⟨by simp [stored],rfl,hit.id,output,by simp [gave],rfl⟩,?_⟩)
  rintro (error | made) past rfl
  · simp [Ends,Done,stored]
  simp only [Ends,follows_pure]
  refine ⟨?_,.inr ⟨⟨hit.id,output,by simp [gave]⟩,by simp [stored]⟩⟩
  intro provider message other member
  simp only [gave,List.nil_append,List.cons_append,List.mem_cons,List.not_mem_nil,or_false] at member
  rcases member with same | same | same | same <;> cases same
  exact ⟨rfl,rfl⟩

end Knowledge

-- Each key in the cache, and each key found there, was put there by a call that
-- asked an extension; what an extension gave is the signature of the account it names.
structure Sound {crypto : Crypto} (world : World crypto) : Prop where
  obeys : Obey Allowed Done world.calls
  cached : ∀ cacheKey keypair,world.store.SESSION_CACHE cacheKey = some keypair →
    ∃ call ∈ world.calls,stored cacheKey keypair call.past
  finds : ∀ call ∈ world.calls,∀ cacheKey keypair,found cacheKey keypair call.past →
    ∃ other ∈ world.calls,stored cacheKey keypair other.past
  signs : ∀ call ∈ world.calls,∀ provider message output,gave provider message output call.past →
    output.signature = crypto.sign output.publicKey message

section Runs
variable {crypto : Crypto} {world later : World crypto}

theorem first_sound (window : InjectedWindow) (active : ProviderId → Text) : Sound (World.first crypto window active) where
  obeys := fun _ member => absurd member List.not_mem_nil
  cached := fun _ _ held => by cases held
  finds := fun _ member => absurd member List.not_mem_nil
  signs := fun _ member => absurd member List.not_mem_nil

theorem stored_stays (step : Desk.Step (bodyOf crypto) (Answers crypto) (Outside crypto) world later)
    (there : ∃ call ∈ world.calls,stored cacheKey keypair call.past) :
    ∃ call ∈ later.calls,stored cacheKey keypair call.past := by
  obtain ⟨call,member,puts⟩ := there
  obtain ⟨place,here⟩ := List.getElem?_of_mem member
  obtain ⟨next,found,-,keeps⟩ := step_stays step here
  exact ⟨next,List.mem_of_getElem? found,keeps _ puts⟩

theorem answers_cache {query : Query crypto} {answer : Except Thrown (Reply crypto query)} {store after : Store crypto}
    (answered : Answers crypto query store answer after) (held : after.SESSION_CACHE cacheKey = some keypair) :
    store.SESSION_CACHE cacheKey = some keypair ∨
      (⟨query,answer⟩ : Seen (Reply crypto) Thrown) = ⟨.cacheSet cacheKey keypair,.ok ()⟩ := by
  cases query with
  | cacheGet key => exact .inl (answered.2 ▸ held)
  | window => exact .inl (answered.2 ▸ held)
  | signMessage provider message => exact .inl (answered.1 ▸ held)
  | cacheSet key value =>
    obtain ⟨rfl,rfl⟩ := answered
    by_cases same : cacheKey = key
    · simp only [if_pos same,Option.some.injEq] at held
      subst same held
      exact .inr rfl
    · simp only [if_neg same] at held
      exact .inl held

theorem step_sound (sound : Sound world) (step : Desk.Step (bodyOf crypto) (Answers crypto) (Outside crypto) world later) :
    Sound later := by
  have obeys := step_obeys body_follows sound.obeys step
  have stays : ∀ cacheKey keypair,(∃ call ∈ world.calls,stored cacheKey keypair call.past) →
      ∃ call ∈ later.calls,stored cacheKey keypair call.past := fun _ _ => stored_stays step
  cases step with
  | enter =>
    refine ⟨obeys,fun cacheKey keypair held => stays _ _ (sound.cached cacheKey keypair held),?_,?_⟩
    · intro call member cacheKey keypair finds
      rcases List.mem_append.mp member with old | new
      · exact stays _ _ (sound.finds call old cacheKey keypair finds)
      · rw [List.mem_singleton.mp new] at finds
        exact absurd finds List.not_mem_nil
    · intro call member provider message output given
      rcases List.mem_append.mp member with old | new
      · exact sound.signs call old provider message output given
      · rw [List.mem_singleton.mp new] at given
        exact absurd given List.not_mem_nil
  | outside moved =>
    refine ⟨obeys,fun cacheKey keypair held => ?_,sound.finds,sound.signs⟩
    rcases moved with same | dropped
    · exact sound.cached cacheKey keypair (same ▸ held)
    · rw [dropped] at held
      cases held
  | @answer query index answer after call next here turn answered =>
    have there := List.mem_of_getElem? here
    refine ⟨obeys,?_,?_,?_⟩
    · intro cacheKey keypair held
      rcases answers_cache answered held with before | puts
      · exact stays _ _ (sound.cached cacheKey keypair before)
      · refine ⟨_,List.mem_set (List.getElem?_eq_some_iff.mp here).1 _,?_⟩
        exact List.mem_append_right _ (puts ▸ List.mem_singleton_self _)
    · intro other member cacheKey keypair finds
      rcases List.mem_or_eq_of_mem_set member with old | rfl
      · exact stays _ _ (sound.finds other old cacheKey keypair finds)
      rcases List.mem_append.mp finds with before | now
      · exact stays _ _ (sound.finds call there cacheKey keypair before)
      cases List.mem_singleton.mp now
      have held : world.store.SESSION_CACHE cacheKey = some keypair := (Except.ok.inj answered.1).symm
      exact stays _ _ (sound.cached cacheKey keypair held)
    · intro other member provider message output given
      rcases List.mem_or_eq_of_mem_set member with old | rfl
      · exact sound.signs other old provider message output given
      rcases List.mem_append.mp given with before | now
      · exact sound.signs call there provider message output before
      cases List.mem_singleton.mp now
      rcases answered.2 with same | rejected
      · cases same
        rfl
      · cases rejected

theorem run_sound {window : InjectedWindow} {active : ProviderId → Text}
    (run : Run crypto (World.first crypto window active) world) : Sound world :=
  run_keeps Sound run (fun _ _ => step_sound) (first_sound window active)

end Runs

-- The key seeded by the named wallet's signature.
def expected (crypto : Crypto) (operation : Operation) : crypto.Keypair :=
  keyOf (crypto.sign operation.wallet.text (utf8 operation.signed))

def Right {crypto : Crypto} (world : World crypto) : Prop :=
  ∀ call ∈ world.calls,∀ derived,call.rest = .ret derived → derived.keypair = expected crypto call.operation

-- Every extension that gave a signature to a call that succeeded had the account
-- active that the call names.
def Tied {crypto : Crypto} (world : World crypto) : Prop :=
  ∀ call ∈ world.calls,(∃ derived,call.rest = .ret derived) → ∀ provider message output,
    gave provider message output call.past → output.publicKey = call.operation.wallet.text

section Keys
variable {crypto : Crypto} {world : World crypto} {call : Call crypto}

theorem done_of (sound : Sound world) (inside : call ∈ world.calls) (ends : call.rest = .ret derived) :
    Done call.operation (.ok derived) call.past := by
  have follows := sound.obeys call inside
  rw [ends] at follows
  exact follows

-- A call that put a key into the cache has returned that key.
theorem stored_returned (sound : Sound world) (inside : call ∈ world.calls) (puts : stored cacheKey keypair call.past) :
    ∃ derived,call.rest = .ret derived ∧ cacheKey = call.operation.cacheKey ∧ keypair = derived.keypair := by
  have follows := sound.obeys call inside
  cases ends : call.rest with
  | ret derived =>
    rw [ends] at follows
    rcases follows.2 with ⟨-,none⟩ | ⟨-,puts'⟩
    · exact absurd puts (none cacheKey keypair)
    · exact ⟨derived,rfl,puts' cacheKey keypair puts⟩
  | throws error =>
    rw [ends] at follows
    exact absurd puts (follows cacheKey keypair)
  | call query next =>
    rw [ends] at follows
    exact absurd puts (follows.1.1 cacheKey keypair)

-- A key that was asked of an extension is seeded by the account it had active.
theorem asked_key (sound : Sound world) (inside : call ∈ world.calls) (ends : call.rest = .ret derived)
    (given : gave provider message output call.past) :
    derived.keypair = keyOf (crypto.sign output.publicKey (utf8 call.operation.signed)) := by
  have ⟨same,key⟩ := (done_of sound inside ends).1 provider message output given
  rw [key,sound.signs call inside provider message output given,same]

theorem right_exact (ideal : Ideal crypto) (sound : Sound world) : Right world ↔ Tied world := by
  constructor
  · rintro right call inside ⟨derived,ends⟩ provider message output given
    have same := (asked_key sound inside ends given).symm.trans (right call inside derived ends)
    exact (ideal.distinct _ _ _ _ (ideal.collisionFree (ideal.seeds same))).1
  · intro tied
    -- First the calls that asked, then those that found their key in the cache.
    have asked : ∀ call ∈ world.calls,∀ derived,call.rest = .ret derived →
        (∃ provider output,gave provider (utf8 call.operation.signed) output call.past) →
          derived.keypair = expected crypto call.operation := by
      rintro call inside derived ends ⟨provider,output,given⟩
      rw [asked_key sound inside ends given,tied call inside ⟨derived,ends⟩ _ _ _ given,expected]
    intro call inside derived ends
    rcases (done_of sound inside ends).2 with ⟨finds,-⟩ | ⟨given,-⟩
    · obtain ⟨other,there,puts⟩ := sound.finds call inside _ _ finds
      obtain ⟨earlier,returns,slot,key⟩ := stored_returned sound there puts
      have gives : ∃ provider output,gave provider (utf8 other.operation.signed) output other.past := by
        rcases (done_of sound there returns).2 with ⟨-,none⟩ | ⟨given,-⟩
        · exact absurd puts (none _ _)
        · exact given
      rw [key,asked other there earlier returns gives,cacheKey_injective slot]
    · exact asked call inside derived ends given

end Keys

-- Two sessions, of any two browsers: each key is its wallet's, the same request has
-- the same key in both, and no two wallets share one.
structure Agree {crypto : Crypto} (one two : World crypto) : Prop where
  first : Right one
  second : Right two
  same : ∀ call ∈ one.calls,∀ other ∈ two.calls,∀ derived also,call.rest = .ret derived → other.rest = .ret also →
    call.operation = other.operation → derived.keypair = also.keypair
  apart : ∀ call ∈ one.calls,∀ other ∈ two.calls,∀ derived also,call.rest = .ret derived → other.rest = .ret also →
    call.operation.wallet ≠ other.operation.wallet → derived.keypair ≠ also.keypair

theorem stealth_agree {crypto : Crypto} (ideal : Ideal crypto) {window window' : InjectedWindow}
    {active active' : ProviderId → Text} {one two : World crypto} (run : Run crypto (World.first crypto window active) one)
    (also : Run crypto (World.first crypto window' active') two) : Agree one two ↔ Tied one ∧ Tied two := by
  have right := right_exact ideal (run_sound run)
  have right' := right_exact ideal (run_sound also)
  constructor
  · intro agree
    exact ⟨right.mp agree.first,right'.mp agree.second⟩
  · rintro ⟨tied,tied'⟩
    have first := right.mpr tied
    have second := right'.mpr tied'
    refine ⟨first,second,?_,?_⟩
    · intro call inside other there derived also ends ends' equal
      rw [first call inside derived ends,second other there also ends',equal]
    · intro call inside other there derived also ends ends' apart equal
      rw [first call inside derived ends,second other there also ends'] at equal
      exact apart (address_ext (ideal.distinct _ _ _ _ (ideal.collisionFree (ideal.seeds equal))).1)

def sampleCrypto : Crypto where
  Signature := Text × List UInt8
  Seed := Text × List UInt8
  Keypair := Text × List UInt8
  sign account message := (account,message)
  sha256 signature := signature
  fromSeed seed := seed
  toBase58 key := 'S' :: (key.1 ++ key.2.map Char.ofUInt8)

theorem sample_ideal : Ideal sampleCrypto where
  distinct _ _ _ _ same := ⟨congrArg Prod.fst same,congrArg Prod.snd same⟩
  collisionFree := Function.injective_id
  seeds := Function.injective_id

theorem sample_toBase58 {one two : sampleCrypto.Keypair} (account : one.1 = two.1)
    (same : sampleCrypto.toBase58 one = sampleCrypto.toBase58 two) : one.2 = two.2 := by
  have tails := (List.cons.inj same).2
  rw [account,List.append_cancel_left_eq] at tails
  refine List.map_injective_iff.mpr (fun byte also equal => ?_) tails
  exact UInt8.toUInt32_inj.mp (congrArg Char.val equal)

def sampleOperation : Operation := .deriveStealthForPosition ⟨['A'],by decide⟩ ⟨['P'],by decide⟩ ['1']

-- One extension, with `account` active in it.
theorem sample_session (account : Text) : ∃ world,
    Run sampleCrypto (World.first sampleCrypto ⟨some ⟨0,true⟩,none,none,none⟩ fun _ => account) world ∧
    ∃ call,world.calls = [call] ∧ call.operation = sampleOperation ∧
      (∃ derived,call.rest = .ret derived ∧ derived.keypair = (account,utf8 sampleOperation.signed)) ∧
      ∀ provider message output,gave provider message output call.past → output.publicKey = account := by
  have asked := Run.entered (.stay : Run sampleCrypto (World.first sampleCrypto ⟨some ⟨0,true⟩,none,none,none⟩ fun _ => account)
    (World.first sampleCrypto ⟨some ⟨0,true⟩,none,none,none⟩ fun _ => account)) sampleOperation
  have missed := asked.answered 0 rfl rfl ⟨rfl,rfl⟩
  have picked := missed.answered 0 rfl rfl ⟨rfl,rfl⟩
  have signed := picked.answered 0 rfl rfl ⟨rfl,.inl rfl⟩
  have cached := signed.answered 0 rfl rfl ⟨rfl,rfl⟩
  refine ⟨_,cached,_,rfl,rfl,⟨_,rfl,rfl⟩,?_⟩
  intro provider message output given
  simp only [gave,Call.heard,Call.fresh,List.nil_append,List.cons_append,List.mem_cons,List.not_mem_nil,or_false] at given
  rcases given with same | same | same | same <;> cases same
  rfl

-- The connected wallet is A. Where another extension answers first, with account B
-- active, the same position has another key.
theorem other_extension : ∃ one two : World sampleCrypto,
    (∃ window active,Run sampleCrypto (World.first sampleCrypto window active) one) ∧
    (∃ window active,Run sampleCrypto (World.first sampleCrypto window active) two) ∧ ¬Agree one two := by
  obtain ⟨one,run,call,here,operation,⟨derived,ends,key⟩,-⟩ := sample_session ['A']
  obtain ⟨two,run',other,there,operation',⟨also,ends',key'⟩,-⟩ := sample_session ['B']
  refine ⟨one,two,⟨_,_,run⟩,⟨_,_,run'⟩,fun agree => ?_⟩
  have same := agree.same call (by simp [here]) other (by simp [there]) derived also ends ends' (operation.trans operation'.symm)
  rw [key,key'] at same
  exact absurd (congrArg Prod.fst same) (by decide)

-- Another browser: the wallet is in another slot, a first call is turned down, and the
-- last of three finds its key in the cache.
theorem sample_return (account : Text) : ∃ world,
    Run sampleCrypto (World.first sampleCrypto ⟨none,none,none,some ⟨3,true⟩⟩ fun _ => account) world ∧
    world.calls.length = 3 ∧ ∀ call ∈ world.calls,call.operation = sampleOperation ∧
      ∀ provider message output,gave provider message output call.past → output.publicKey = account := by
  have turned := (Run.entered (.stay : Run sampleCrypto
    (World.first sampleCrypto ⟨none,none,none,some ⟨3,true⟩⟩ fun _ => account)
    (World.first sampleCrypto ⟨none,none,none,some ⟨3,true⟩⟩ fun _ => account)) sampleOperation).answered 0 rfl rfl ⟨rfl,rfl⟩
  have rejected := (turned.answered 0 rfl rfl ⟨rfl,rfl⟩).answered 0 rfl rfl ⟨rfl,.inr rfl⟩
  have asked := (rejected.entered sampleOperation).answered 1 rfl rfl ⟨rfl,rfl⟩
  have signed := (asked.answered 1 rfl rfl ⟨rfl,rfl⟩).answered 1 rfl rfl ⟨rfl,.inl rfl⟩
  have cached := signed.answered 1 rfl rfl ⟨rfl,rfl⟩
  have found := (cached.entered sampleOperation).answered 2 rfl rfl ⟨rfl,rfl⟩
  refine ⟨_,found,rfl,?_⟩
  intro call inside
  simp only [World.first,List.nil_append,List.cons_append,List.set_cons_zero,List.set_cons_succ,List.mem_cons,
    List.not_mem_nil,or_false] at inside
  rcases inside with rfl | rfl | rfl
  all_goals
    refine ⟨rfl,fun provider message output given => ?_⟩
    simp only [gave,Call.heard,Call.fresh,List.nil_append,List.cons_append,List.mem_cons,List.not_mem_nil,or_false] at given
  · rcases given with same | same | same <;> cases same
  · rcases given with same | same | same | same <;> cases same
    rfl
  · cases given

theorem stealth_agree_sample : ∃ one two : World sampleCrypto,Agree one two ∧ one.calls.length = 1 ∧ two.calls.length = 3 := by
  obtain ⟨one,run,call,here,operation,-,names⟩ := sample_session ['A']
  obtain ⟨two,run',three,all⟩ := sample_return ['A']
  have tied : Tied one := by
    intro other inside _ provider message output given
    rw [here] at inside
    cases List.mem_singleton.mp inside
    rw [names provider message output given,operation]
    rfl
  have also : Tied two := by
    intro other inside _ provider message output given
    rw [(all other inside).2 provider message output given,(all other inside).1]
    rfl
  exact ⟨one,two,(stealth_agree sample_ideal run run').mpr ⟨tied,also⟩,by simp [here],three⟩

end Octora.Web.StealthVault
