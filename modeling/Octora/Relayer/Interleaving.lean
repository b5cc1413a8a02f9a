import Octora.Relayer.Service
import Octora.Library.FirstWins

namespace Octora.Relayer
open BigEndian BigIntText SolanaTx

-- A call that found its nullifier in flight awaits the leader's promise.
inductive Fiber where
  | running (stage : Stage)
  | joined (leader : Nat)
  | returned (result : Settled)
  | dropped

structure Call (ι : Type) where
  service : ι
  request : Request
  fiber : Fiber

structure Landing where
  slot : Int
  signature : Text
  receipt : Receipt
  after : Ledger

-- The chain, the database table the services share, and the memory of each service.
structure World (ι : Type) where
  ledger : Ledger
  slot : Int
  cluster : Cluster WithdrawRequest
  log : List Landing
  rows : List (Text × Int)
  inFlight : ι → Text → Option Nat
  cache : ι → List Text
  calls : Nat → Option (Call ι)

def accountExists (ledger : Ledger) (key : Pubkey) : Bool :=
  ledger.lamports key ≠ 0 || !(ledger key).data.isSystem

def firstSeenSlot (rows : List (Text × Int)) (root : Text) : Option Int :=
  (rows.find? fun row => decide (row.1 = root)).map Prod.snd

-- root-seen.repository.ts: the upsert leaves an existing row alone.
def observe (rows : List (Text × Int)) (root : Text) (currentSlot : Int) : List (Text × Int) :=
  FirstWins.put Prod.fst rows (root,currentSlot)

def instructionOf (tx : Tx WithdrawRequest) : Instruction :=
  .withdraw tx.instructions.accounts tx.instructions.proofData tx.instructions.inputs

variable {ι : Type} [DecidableEq ι]

def World.markSpent (world : World ι) (service : ι) (nullifierHash : Text) : World ι :=
  { world with cache := Function.update world.cache service (nullifierHash :: world.cache service) }

-- `markSpent` follows a submission that returned a signature.
def World.spentBy (world : World ι) (service : ι) (request : Request) : Submit WithdrawRequest → World ι
  | .done (.ok _) => world.markSpent service request.nullifierHash
  | _ => world

def World.move (world : World ι) (caller : Nat) (call : Call ι) (fiber : Fiber) : World ι :=
  { world with calls := Function.update world.calls caller (some { call with fiber := fiber }) }

-- The answer of an account query is the chain's, unless the query fails.
def Truthful (ledger : Ledger) (key : Pubkey) (answer : Except Text Bool) : Prop :=
  ∀ found, answer = .ok found → found = accountExists ledger key

section Run
variable (backend : Backend) (services : ι → RelayerService)

-- The synchronous head of `isSpent`: a cache hit, a text that names no address,
-- or the account query.
def begin (world : World ι) (service : ι) (request : Request) : Stage :=
  if request.nullifierHash ∈ world.cache service then afterSpent backend (services service) request (.ok true)
  else if (nullifierPDA backend (services service) request.nullifierHash).isSome then .isSpent
  else afterSpent backend (services service) request (.error .conversion)

def World.processWithdrawal (world : World ι) (caller : Nat) (service : ι) (request : Request) : World ι :=
  match guardRequest backend (services service) request with
  | some result => world.move caller ⟨service,request,.dropped⟩ (.returned (.ok result))
  | none =>
    match world.inFlight service request.nullifierHash with
    | some leader => world.move caller ⟨service,request,.dropped⟩ (.joined leader)
    | none =>
      { world.move caller ⟨service,request,.dropped⟩ (.running (begin backend services world service request)) with
        inFlight := Function.update world.inFlight service
          (Function.update (world.inFlight service) request.nullifierHash (some caller)) }

inductive Action (ι : Type) where
  | chain (signature : Text) (receipt : Receipt)
  | clock (slot : Int) (blockHeight : Nat)
  | land (tx : Tx WithdrawRequest)
  | enter (caller : Nat) (service : ι) (request : Request)
  | spent (caller : Nat) (answer : Except Text Bool)
  | slotRead (caller : Nat) (answer : Except Text Int)
  | observed (caller : Nat) (answer : Except Text Unit) (stored : Bool)
  | pool (caller : Nat) (answer : Except Text Bool)
  | rpc (caller : Nat) (reply : Reply WithdrawRequest)
  | diagnosed (caller : Nat) (text : Text)
  | settle (caller : Nat)
  | join (caller : Nat)
  | restart (service : ι)

-- One call advances when what it waits for answers; everything else may move in
-- between. A failed upsert may have stored its row all the same.
inductive Step (world : World ι) : Action ι → World ι → Prop where
  | chain (step : Octora.Step backend.runtime world.ledger receipt ledger) :
      Step world (.chain signature receipt)
        { world with ledger := ledger, log := world.log ++ [⟨world.slot,signature,receipt,ledger⟩] }
  | clock (slots : world.slot ≤ slot) (blocks : world.cluster.blockHeight ≤ blockHeight) :
      Step world (.clock slot blockHeight)
        { world with slot := slot, cluster := { world.cluster with blockHeight := blockHeight } }
  | land (now : Int) (accepted : tx ∈ world.cluster.accepted)
      (valid : world.cluster.blockHeight ≤ tx.lastValidBlockHeight)
      (fresh : ∀ outcome ∈ world.cluster.outcomes, outcome.1 ≠ backend.signature tx)
      (ran : submit backend.runtime now world.ledger (instructionOf tx) = (ledger,result)) :
      Step world (.land tx)
        { world with
          ledger := ledger
          cluster := { world.cluster with
            outcomes := world.cluster.outcomes ++ [(backend.signature tx,result.isOk)] }
          log := world.log ++
            [⟨world.slot,backend.signature tx,.submitted world.ledger (instructionOf tx) result,ledger⟩] }
  | enter (fresh : world.calls caller = none) :
      Step world (.enter caller service request) (world.processWithdrawal backend services caller service request)
  | spentFound (here : world.calls caller = some ⟨service,request,.running .isSpent⟩)
      (address : nullifierPDA backend (services service) request.nullifierHash = some key)
      (found : accountExists world.ledger key = true) :
      Step world (.spent caller (.ok true))
        ((world.markSpent service request.nullifierHash).move caller ⟨service,request,.dropped⟩
          (.running (afterSpent backend (services service) request (.ok true))))
  | spentAbsent (here : world.calls caller = some ⟨service,request,.running .isSpent⟩)
      (address : nullifierPDA backend (services service) request.nullifierHash = some key)
      (absent : accountExists world.ledger key = false) :
      Step world (.spent caller (.ok false)) (world.move caller ⟨service,request,.dropped⟩
        (.running (afterSpent backend (services service) request (.ok false))))
  | spentFails (here : world.calls caller = some ⟨service,request,.running .isSpent⟩) :
      Step world (.spent caller (.error text)) (world.move caller ⟨service,request,.dropped⟩
        (.running (afterSpent backend (services service) request (.error (.message text)))))
  | slotRead (here : world.calls caller = some ⟨service,request,.running .getSlot⟩) :
      Step world (.slotRead caller answer) (world.move caller ⟨service,request,.dropped⟩ (.running (afterSlot answer)))
  | observed (here : world.calls caller = some ⟨service,request,.running (.observe currentSlot)⟩)
      (row : firstSeenSlot (observe world.rows request.root currentSlot) request.root = some first) :
      Step world (.observed caller (.ok ()) true)
        ({ world with rows := observe world.rows request.root currentSlot }.move caller ⟨service,request,.dropped⟩
          (.running (afterObserve backend (services service) request currentSlot (.ok first))))
  | observeFails (here : world.calls caller = some ⟨service,request,.running (.observe currentSlot)⟩) (stored : Bool) :
      Step world (.observed caller (.error text) stored)
        ({ world with
            rows := if stored then observe world.rows request.root currentSlot else world.rows }.move caller
          ⟨service,request,.dropped⟩
          (.running (afterObserve backend (services service) request currentSlot (.error text))))
  | pool (here : world.calls caller = some ⟨service,request,.running .getPool⟩)
      (read : Truthful world.ledger (services service).mixerPoolPDA answer) :
      Step world (.pool caller answer) (world.move caller ⟨service,request,.dropped⟩
        (.running (afterPool backend (services service) request answer)))
  | rpc (here : world.calls caller = some ⟨service,request,.running (.submitting ix stage)⟩)
      (step : SubmitStep backend.signature ix DEFAULT_MAX_ATTEMPTS world.cluster stage reply next cluster) :
      Step world (.rpc caller reply)
        ({ world.spentBy service request next with cluster := cluster }.move caller ⟨service,request,.dropped⟩
          (.running (afterSubmit (services service) request ix next)))
  | diagnosed (here : world.calls caller = some ⟨service,request,.running (.diagnose message)⟩) :
      Step world (.diagnosed caller text) (world.move caller ⟨service,request,.dropped⟩
        (.running (afterSubmission (services service) request (.error (.message (message ++ " | ".toList ++ text))))))
  | settle (here : world.calls caller = some ⟨service,request,.running (.settled result)⟩) :
      Step world (.settle caller)
        { world.move caller ⟨service,request,.dropped⟩ (.returned result) with
          inFlight := Function.update world.inFlight service
            (Function.update (world.inFlight service) request.nullifierHash none) }
  | join (here : world.calls caller = some ⟨service,request,.joined leader⟩)
      (awaited : world.calls leader = some call)
      (resolved : call.fiber = .running (.settled result) ∨ call.fiber = .returned result) :
      Step world (.join caller) (world.move caller ⟨service,request,.dropped⟩ (.returned result))
  | restart : Step world (.restart service)
      { world with
        inFlight := Function.update world.inFlight service fun _ => none
        cache := Function.update world.cache service []
        calls := fun caller => (world.calls caller).map fun call =>
          match call.fiber with
          | .returned _ => call
          | _ => if call.service = service then { call with fiber := .dropped } else call }

inductive Reached (first : World ι) : List (World ι × Action ι) → World ι → Prop where
  | nil : Reached first [] first
  | step (prior : Reached first trace before) (step : Step backend services before action after) :
      Reached first (trace ++ [(before,action)]) after

end Run

end Octora.Relayer
