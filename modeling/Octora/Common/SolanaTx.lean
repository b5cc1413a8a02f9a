import Octora.Library.BigIntText

namespace Octora.SolanaTx

abbrev Text := List Char

-- solana-tx.ts
def DEFAULT_MAX_ATTEMPTS : Nat := 3

def includes (pattern text : Text) : Bool := decide (pattern <:+: text)

def RETRYABLE_PATTERNS : List Text :=
  ["BlockhashNotFound","Blockhash not found","NodeUnhealthy","node is behind","unable to send transaction",
    "failed to fetch","econnreset","etimedout","service unavailable"].map fun pattern => pattern.toList.map Char.toLower

-- The patterns are tested without regard to case.
def retryable (message : Text) : Bool := RETRYABLE_PATTERNS.any fun pattern => includes pattern (message.map Char.toLower)

def failedOnChain (signature err : Text) : Text := "Tx ".toList ++ signature ++ " failed on-chain: ".toList ++ err

def exhausted : Text := "submitConfirmed: exhausted retries with no recorded error".toList

-- One attempt's transaction: the caller's instructions under its own blockhash,
-- with the compute limit and price chosen for the call.
structure Tx (α : Type) where
  instructions : α
  computeUnitLimit : Nat
  microLamports : Nat
  blockhash : Text
  lastValidBlockHeight : Nat

-- What the cluster knows of transactions: those it was handed, and what became
-- of those it executed. A signature executes at most once.
structure Cluster (α : Type) where
  blockHeight : Nat
  accepted : List (Tx α)
  outcomes : List (Text × Bool)

-- Where `submitConfirmed` waits.
inductive Submit (α : Type) where
  | getLatestBlockhash (attempt : Nat)
  | sendTransaction (tx : Tx α) (attempt : Nat)
  | confirmTransaction (tx : Tx α) (attempt : Nat)
  | done (result : Except Text Text)

variable {α : Type}

def beginSubmit (maxAttempts : Nat) : Submit α :=
  if maxAttempts = 0 then .done (.error exhausted) else .getLatestBlockhash 1

-- The catch of one attempt.
def attemptFailed (maxAttempts attempt : Nat) (message : Text) : Submit α :=
  if !retryable message || attempt = maxAttempts then .done (.error message) else .getLatestBlockhash (attempt+1)

-- What one RPC call of the loop answers; a failed send may have been accepted.
inductive Reply (α : Type) where
  | blockhash (answer : Except Text (Tx α))
  | sent (answer : Except Text Unit) (reached : Bool)
  | confirmed (answer : Except Text (Option Text))

def Cluster.accept (cluster : Cluster α) (tx : Tx α) : Cluster α := { cluster with accepted := cluster.accepted ++ [tx] }

section Loop
variable (signature : Tx α → Text) (instructions : α) (maxAttempts : Nat)

inductive SubmitStep (cluster : Cluster α) : Submit α → Reply α → Submit α → Cluster α → Prop where
  | blockhash (built : tx.instructions = instructions) :
      SubmitStep cluster (.getLatestBlockhash attempt) (.blockhash (.ok tx)) (.sendTransaction tx attempt) cluster
  | blockhashFails : SubmitStep cluster (.getLatestBlockhash attempt) (.blockhash (.error message))
      (attemptFailed maxAttempts attempt message) cluster
  | sent : SubmitStep cluster (.sendTransaction tx attempt) (.sent (.ok ()) true)
      (.confirmTransaction tx attempt) (cluster.accept tx)
  | sendFails (reached : Bool) : SubmitStep cluster (.sendTransaction tx attempt) (.sent (.error message) reached)
      (attemptFailed maxAttempts attempt message) (if reached then cluster.accept tx else cluster)
  | confirmed (executed : (signature tx,true) ∈ cluster.outcomes) :
      SubmitStep cluster (.confirmTransaction tx attempt) (.confirmed (.ok none)) (.done (.ok (signature tx))) cluster
  | rejected (executed : (signature tx,false) ∈ cluster.outcomes) :
      SubmitStep cluster (.confirmTransaction tx attempt) (.confirmed (.ok (some err)))
        (attemptFailed maxAttempts attempt (failedOnChain (signature tx) err)) cluster
  | confirmFails : SubmitStep cluster (.confirmTransaction tx attempt) (.confirmed (.error message))
      (attemptFailed maxAttempts attempt message) cluster

-- The cluster on its own: blocks pass, transactions of others arrive, and an
-- accepted transaction may execute while its blockhash is valid.
inductive ClusterStep : Cluster α → Cluster α → Prop where
  | clock (later : cluster.blockHeight ≤ blockHeight) :
      ClusterStep cluster { cluster with blockHeight := blockHeight }
  | execute (accepted : tx ∈ cluster.accepted) (valid : cluster.blockHeight ≤ tx.lastValidBlockHeight)
      (fresh : ∀ outcome ∈ cluster.outcomes, outcome.1 ≠ signature tx) (succeeded : Bool) :
      ClusterStep cluster { cluster with outcomes := cluster.outcomes ++ [(signature tx,succeeded)] }

def Executed (cluster : Cluster α) (tx : Tx α) : Prop := (signature tx,true) ∈ cluster.outcomes

def CanExecute (cluster : Cluster α) (tx : Tx α) : Prop :=
  (∀ outcome ∈ cluster.outcomes, outcome.1 ≠ signature tx) ∧
    ∃ held ∈ cluster.accepted, signature held = signature tx ∧ cluster.blockHeight ≤ held.lastValidBlockHeight

-- The transaction has not executed and never will.
def Dead (cluster : Cluster α) (tx : Tx α) : Prop := ¬Executed signature cluster tx ∧ ¬CanExecute signature cluster tx

end Loop

section Growth
variable {signature : Tx α → Text} {cluster next : Cluster α}

theorem executed_kept (step : ClusterStep signature cluster next) (executed : Executed signature cluster tx) :
    Executed signature next tx := by
  cases step with
  | clock _ => exact executed
  | execute _ _ _ _ => exact List.mem_append_left _ executed

theorem dead_kept (step : ClusterStep signature cluster next) (dead : Dead signature cluster tx) :
    Dead signature next tx := by
  cases step with
  | clock later =>
    refine ⟨dead.1,fun ⟨fresh,held,inside,same,valid⟩ => dead.2 ⟨fresh,held,inside,same,?_⟩⟩
    exact Nat.le_trans later valid
  | @execute other _ accepted valid fresh succeeded =>
    have apart : signature other ≠ signature tx := by
      intro same
      exact dead.2 ⟨fun outcome here => same ▸ fresh outcome here,other,accepted,same,valid⟩
    constructor
    · intro executed
      rcases List.mem_append.mp executed with old | new
      · exact dead.1 old
      · exact apart (congrArg Prod.fst (List.mem_singleton.mp new)).symm
    · rintro ⟨unseen,held,inside,same,open_⟩
      exact dead.2 ⟨fun outcome here => unseen outcome (List.mem_append_left _ here),held,inside,same,open_⟩

-- Handing over another transaction revives nothing.
theorem dead_accept (dead : Dead signature cluster tx) (apart : signature other ≠ signature tx) :
    Dead signature (cluster.accept other) tx := by
  refine ⟨dead.1,fun ⟨fresh,held,inside,same,valid⟩ => ?_⟩
  rcases List.mem_append.mp inside with old | new
  · exact dead.2 ⟨fresh,held,old,same,valid⟩
  · rw [List.mem_singleton.mp new] at same
    exact apart same

theorem dead_same (same : signature one = signature two) :
    Dead signature cluster one ↔ Dead signature cluster two := by
  simp only [Dead,Executed,CanExecute,same]

end Growth

-- One call on a cluster that holds none of its transactions yet.
structure Call (α : Type) where
  cluster : Cluster α
  submit : Submit α
  attempts : List (Tx α)

def startCall (blockHeight maxAttempts : Nat) : Call α := ⟨⟨blockHeight,[],[]⟩,beginSubmit maxAttempts,[]⟩

-- What a reply's request handed to the RPC node.
def handed : Submit α → Reply α → List (Tx α)
  | .sendTransaction tx _,.sent _ _ => [tx]
  | _,_ => []

section Calls
variable (signature : Tx α → Text) (instructions : α) (maxAttempts : Nat)

inductive CallStep (call : Call α) : Option (Reply α) → Call α → Prop where
  | reply (step : SubmitStep signature instructions maxAttempts call.cluster call.submit reply next cluster) :
      CallStep call (some reply) ⟨cluster,next,call.attempts ++ handed call.submit reply⟩
  | cluster (step : ClusterStep signature call.cluster cluster) :
      CallStep call none ⟨cluster,call.submit,call.attempts⟩

inductive CallReached (first : Call α) : List (Call α × Option (Reply α)) → Call α → Prop where
  | nil : CallReached first [] first
  | step (prior : CallReached first trace before) (step : CallStep signature instructions maxAttempts before label after) :
      CallReached first (trace ++ [(before,label)]) after

def executions (call : Call α) : List (Text × Bool) := call.cluster.outcomes.filter Prod.snd

structure Call.Correct (call : Call α) : Prop where
  once : (executions call).length ≤ 1
  returned : ∀ txSignature, call.submit = .done (.ok txSignature) →
    ∃ tx ∈ call.attempts, signature tx = txSignature ∧ tx.instructions = instructions ∧ Executed signature call.cluster tx
  thrown : ∀ message, call.submit = .done (.error message) → ∀ tx ∈ call.attempts, Dead signature call.cluster tx

-- A send or a confirmation that fails leaves behind a transaction that has not
-- executed and never will.
def NothingLost (call : Call α) : Option (Reply α) → Prop
  | some (.sent (.error _) reached) => ∀ tx attempt, call.submit = .sendTransaction tx attempt →
      Dead signature (if reached then call.cluster.accept tx else call.cluster) tx
  | some (.confirmed (.error _)) => ∀ tx attempt, call.submit = .confirmTransaction tx attempt →
      Dead signature call.cluster tx
  | _ => True

-- The one signature the call still counts on.
def current : Submit α → Option Text
  | .confirmTransaction tx _ => some (signature tx)
  | .done (.ok txSignature) => some txSignature
  | _ => none

structure Tidy (call : Call α) : Prop where
  distinct : (call.cluster.outcomes.map Prod.fst).Nodup
  own : ∀ tx ∈ call.cluster.accepted, tx ∈ call.attempts
  known : ∀ outcome ∈ call.cluster.outcomes, ∃ tx ∈ call.attempts, signature tx = outcome.1
  built : ∀ tx ∈ call.attempts, tx.instructions = instructions
  building : ∀ tx attempt, call.submit = .sendTransaction tx attempt → tx.instructions = instructions
  waiting : ∀ tx attempt, call.submit = .confirmTransaction tx attempt → tx ∈ call.attempts
  returned : ∀ txSignature, call.submit = .done (.ok txSignature) →
    ∃ tx ∈ call.attempts, signature tx = txSignature ∧ Executed signature call.cluster tx
  settled : ∀ tx ∈ call.attempts, current signature call.submit = some (signature tx) ∨ Dead signature call.cluster tx

end Calls

section Once
variable {signature : Tx α → Text} {instructions : α} {maxAttempts : Nat} {call before after : Call α}

-- Between attempts, or after a throw, the call counts on no signature.
inductive Quiet : Submit α → Prop where
  | retry (attempt : Nat) : Quiet (.getLatestBlockhash attempt)
  | thrown (message : Text) : Quiet (.done (.error message))

theorem attemptFailed_quiet (maxAttempts attempt : Nat) (message : Text) :
    Quiet (attemptFailed maxAttempts attempt message : Submit α) := by
  unfold attemptFailed
  split
  · exact .thrown message
  · exact .retry _

theorem beginSubmit_quiet (maxAttempts : Nat) : Quiet (beginSubmit maxAttempts : Submit α) := by
  unfold beginSubmit
  split
  · exact .thrown _
  · exact .retry _

theorem quiet_tidy {cluster : Cluster α} {attempts : List (Tx α)} (quiet : Quiet next)
    (distinct : (cluster.outcomes.map Prod.fst).Nodup)
    (own : ∀ tx ∈ cluster.accepted, tx ∈ attempts)
    (known : ∀ outcome ∈ cluster.outcomes, ∃ tx ∈ attempts, signature tx = outcome.1)
    (built : ∀ tx ∈ attempts, tx.instructions = instructions)
    (dead : ∀ tx ∈ attempts, Dead signature cluster tx) : Tidy signature instructions ⟨cluster,next,attempts⟩ := by
  cases quiet <;> exact ⟨distinct,own,known,built,nofun,nofun,nofun,fun tx attempted => .inr (dead tx attempted)⟩

theorem tidy_correct (tidy : Tidy signature instructions call) : call.Correct signature instructions := by
  have alive : ∀ outcome ∈ executions call, current signature call.submit = some outcome.1 := by
    intro outcome member
    obtain ⟨here,succeeded⟩ := List.mem_filter.mp member
    obtain ⟨tx,attempted,same⟩ := tidy.known outcome here
    rcases tidy.settled tx attempted with open_ | dead
    · rw [← same]
      exact open_
    · refine absurd ?_ dead.1
      rw [Executed,same,← succeeded]
      exact here
  refine ⟨?_,?_,?_⟩
  · have distinct : ((executions call).map Prod.fst).Nodup :=
      tidy.distinct.sublist ((List.filter_sublist).map _)
    match chosen : executions call with
    | [] => exact Nat.zero_le _
    | [_] => exact Nat.le_refl _
    | one :: two :: rest =>
      rw [chosen] at alive distinct
      have first := alive one (by simp)
      have second := alive two (by simp)
      have equal : one.1 = two.1 := Option.some.inj (first.symm.trans second)
      exact absurd (by simp [equal]) (List.nodup_cons.mp distinct).1
  · intro txSignature returned
    obtain ⟨tx,attempted,same,executed⟩ := tidy.returned txSignature returned
    exact ⟨tx,attempted,same,tidy.built tx attempted,executed⟩
  · intro message thrown tx attempted
    rcases tidy.settled tx attempted with open_ | dead
    · rw [thrown] at open_
      cases open_
    · exact dead

theorem tidy_start (blockHeight : Nat) : Tidy signature instructions (startCall blockHeight maxAttempts) :=
  quiet_tidy (beginSubmit_quiet maxAttempts) List.nodup_nil nofun nofun nofun nofun

theorem cluster_tidy (tidy : Tidy signature instructions call) (step : ClusterStep signature call.cluster cluster) :
    Tidy signature instructions ⟨cluster,call.submit,call.attempts⟩ := by
  have returned : ∀ txSignature, call.submit = .done (.ok txSignature) →
      ∃ tx ∈ call.attempts, signature tx = txSignature ∧ Executed signature cluster tx := by
    intro txSignature at_
    obtain ⟨tx,attempted,same,executed⟩ := tidy.returned txSignature at_
    exact ⟨tx,attempted,same,executed_kept step executed⟩
  have settled : ∀ tx ∈ call.attempts, current signature call.submit = some (signature tx) ∨
      Dead signature cluster tx := fun tx attempted =>
    (tidy.settled tx attempted).imp id (dead_kept step)
  cases step with
  | clock later => exact ⟨tidy.distinct,tidy.own,tidy.known,tidy.built,tidy.building,tidy.waiting,returned,settled⟩
  | @execute tx _ accepted valid fresh succeeded =>
    refine ⟨?_,tidy.own,?_,tidy.built,tidy.building,tidy.waiting,returned,settled⟩
    · rw [List.map_append]
      refine List.nodup_append'.mpr ⟨tidy.distinct,List.nodup_singleton _,?_⟩
      intro name old new
      obtain ⟨outcome,here,same⟩ := List.mem_map.mp old
      exact fresh outcome here (same.trans (List.mem_singleton.mp new))
    · intro outcome member
      rcases List.mem_append.mp member with old | new
      · exact tidy.known outcome old
      · rw [List.mem_singleton.mp new]
        exact ⟨tx,tidy.own tx accepted,rfl⟩

-- Before a send nothing handed over is alive.
theorem tidy_dead (tidy : Tidy signature instructions call) (idle : current signature call.submit = none)
    (attempted : tx ∈ call.attempts) : Dead signature call.cluster tx := by
  rcases tidy.settled tx attempted with open_ | dead
  · rw [idle] at open_
    cases open_
  · exact dead

theorem dead_accepted {cluster : Cluster α} (dead : Dead signature cluster other)
    (handed : Dead signature (cluster.accept tx) tx) : Dead signature (cluster.accept tx) other := by
  by_cases same : signature tx = signature other
  · exact (dead_same same).mp handed
  · exact dead_accept dead same

theorem reply_tidy (tidy : Tidy signature instructions call)
    (step : SubmitStep signature instructions maxAttempts call.cluster call.submit reply next cluster)
    (holds : NothingLost signature call (some reply)) :
    Tidy signature instructions ⟨cluster,next,call.attempts ++ handed call.submit reply⟩ := by
  have idle : current signature call.submit = none → ∀ tx ∈ call.attempts, Dead signature call.cluster tx :=
    fun quiet tx attempted => tidy_dead tidy quiet attempted
  obtain ⟨held,submit,attempts⟩ := call
  obtain ⟨distinct,own,known,built,building,waiting,returned,settled⟩ := tidy
  dsimp only at *
  cases step with
  | @blockhash attempt tx made =>
    simp only [handed,List.append_nil]
    refine ⟨distinct,own,known,built,?_,nofun,nofun,fun tx attempted => .inr (idle rfl tx attempted)⟩
    intro other n same
    cases same
    exact made
  | @blockhashFails attempt message =>
    simp only [handed,List.append_nil]
    exact quiet_tidy (attemptFailed_quiet _ _ _) distinct own known built (idle rfl)
  | @sent tx attempt =>
    have instructed := building tx attempt rfl
    refine ⟨distinct,?_,?_,?_,nofun,?_,nofun,?_⟩
    · intro other inside
      rcases List.mem_append.mp inside with old | new
      · exact List.mem_append_left _ (own other old)
      · exact List.mem_append_right _ new
    · intro outcome member
      obtain ⟨other,attempted,same⟩ := known outcome member
      exact ⟨other,List.mem_append_left _ attempted,same⟩
    · intro other attempted
      rcases List.mem_append.mp attempted with old | new
      · exact built other old
      · rw [List.mem_singleton.mp new]
        exact instructed
    · intro other n same
      cases same
      exact List.mem_append_right _ (List.mem_singleton_self _)
    · intro other attempted
      by_cases same : signature tx = signature other
      · exact .inl (congrArg some same)
      · rcases List.mem_append.mp attempted with old | new
        · exact .inr (dead_accept (idle rfl other old) same)
        · exact absurd (congrArg signature (List.mem_singleton.mp new)).symm same
  | @sendFails tx attempt message reached =>
    have instructed := building tx attempt rfl
    have gone := holds tx attempt rfl
    refine quiet_tidy (attemptFailed_quiet _ _ _) ?_ ?_ ?_ ?_ ?_
    · cases reached <;> exact distinct
    · intro other inside
      cases reached with
      | false => exact List.mem_append_left _ (own other inside)
      | true =>
        rcases List.mem_append.mp inside with old | new
        · exact List.mem_append_left _ (own other old)
        · exact List.mem_append_right _ new
    · intro outcome member
      have before : outcome ∈ held.outcomes := by cases reached <;> exact member
      obtain ⟨other,attempted,same⟩ := known outcome before
      exact ⟨other,List.mem_append_left _ attempted,same⟩
    · intro other attempted
      rcases List.mem_append.mp attempted with old | new
      · exact built other old
      · rw [List.mem_singleton.mp new]
        exact instructed
    · intro other attempted
      rcases List.mem_append.mp attempted with old | new
      · cases reached with
        | false => exact idle rfl other old
        | true => exact dead_accepted (idle rfl other old) gone
      · rw [List.mem_singleton.mp new]
        exact gone
  | @confirmed tx attempt executed =>
    simp only [handed,List.append_nil]
    refine ⟨distinct,own,known,built,nofun,nofun,?_,settled⟩
    intro txSignature same
    cases same
    exact ⟨tx,waiting tx attempt rfl,rfl,executed⟩
  | @rejected tx attempt err executed =>
    simp only [handed,List.append_nil]
    refine quiet_tidy (attemptFailed_quiet _ _ _) distinct own known built fun other attempted => ?_
    rcases settled other attempted with open_ | dead
    · have same : signature tx = signature other := Option.some.inj open_
      refine (dead_same same).mp ⟨fun succeeded => ?_,fun ⟨fresh,_⟩ => fresh _ executed rfl⟩
      have equal := List.inj_on_of_nodup_map distinct executed succeeded rfl
      cases equal
    · exact dead
  | @confirmFails tx attempt message =>
    simp only [handed,List.append_nil]
    have gone := holds tx attempt rfl
    refine quiet_tidy (attemptFailed_quiet _ _ _) distinct own known built fun other attempted => ?_
    rcases settled other attempted with open_ | dead
    · exact (dead_same (Option.some.inj open_)).mp gone
    · exact dead

theorem step_tidy (tidy : Tidy signature instructions before)
    (step : CallStep signature instructions maxAttempts before label after) (holds : NothingLost signature before label) :
    Tidy signature instructions after := by
  cases step with
  | reply step => exact reply_tidy tidy step holds
  | cluster step => exact cluster_tidy tidy step

theorem one_execution (path : CallReached signature instructions maxAttempts (startCall blockHeight maxAttempts) trace call)
    (holds : ∀ step ∈ trace, NothingLost signature step.1 step.2) : call.Correct signature instructions := by
  have tidy : Tidy signature instructions call := by
    induction path with
    | nil => exact tidy_start blockHeight
    | step _ step ih =>
      rw [List.forall_mem_append,List.forall_mem_singleton] at holds
      exact step_tidy (ih holds.1) step holds.2
  exact tidy_correct tidy

end Once

def sampleTx (blockhash : String) : Tx Unit := ⟨(),400000,1000,blockhash.toList,150⟩

abbrev SampleReached := CallReached Tx.blockhash () DEFAULT_MAX_ATTEMPTS (startCall 0 DEFAULT_MAX_ATTEMPTS)

theorem sample_lost (path : SampleReached trace ⟨⟨0,[],[]⟩,.sendTransaction tx 1,[]⟩) : ∃ trace,
    SampleReached trace ⟨⟨0,[tx],[]⟩,attemptFailed DEFAULT_MAX_ATTEMPTS 1 message,[tx]⟩ := by
  have failed : SubmitStep Tx.blockhash () DEFAULT_MAX_ATTEMPTS ⟨0,[],[]⟩ (.sendTransaction tx 1)
      (.sent (.error message) true) (attemptFailed DEFAULT_MAX_ATTEMPTS 1 message) ⟨0,[tx],[]⟩ := .sendFails true
  have whole := path.step (.reply failed)
  exact ⟨_,whole⟩

theorem sample_execute (accepted : tx ∈ call.cluster.accepted) (valid : call.cluster.blockHeight ≤ tx.lastValidBlockHeight)
    (fresh : ∀ outcome ∈ call.cluster.outcomes, outcome.1 ≠ tx.blockhash) (path : SampleReached trace call) :
    SampleReached (trace ++ [(call,none)]) ⟨{ call.cluster with
      outcomes := call.cluster.outcomes ++ [(tx.blockhash,true)] },call.submit,call.attempts⟩ :=
  path.step (.cluster (.execute accepted valid fresh true))

-- The first send times out although the node took the transaction; the retry
-- sends another one, and both execute.
theorem timeout_executes_twice : ∃ trace call, SampleReached trace call ∧
    call.submit = .done (.ok "B".toList) ∧ (executions call).length = 2 ∧ ¬call.Correct Tx.blockhash () := by
  have first : SampleReached _ ⟨⟨0,[],[]⟩,.sendTransaction (sampleTx "A") 1,[]⟩ := .step .nil (.reply (.blockhash rfl))
  have again : attemptFailed DEFAULT_MAX_ATTEMPTS 1 "ETIMEDOUT".toList = (.getLatestBlockhash 2 : Submit Unit) := by
    rw [attemptFailed,if_neg (by decide)]
  obtain ⟨_,lost⟩ := sample_lost first
  rw [again] at lost
  have sending : SampleReached _ ⟨_,.sendTransaction (sampleTx "B") 2,_⟩ := lost.step (.reply (.blockhash rfl))
  have sent := sending.step (.reply .sent)
  have one := sample_execute (show sampleTx "A" ∈ _ from List.mem_cons_self) (by decide) (by simp [Cluster.accept]) sent
  have two := sample_execute (show sampleTx "B" ∈ _ from List.mem_cons_of_mem _ List.mem_cons_self) (by decide)
    (by decide) one
  have done := two.step (.reply (.confirmed (by decide)))
  refine ⟨_,_,done,rfl,rfl,fun correct => ?_⟩
  have once := correct.once
  revert once
  decide

theorem one_execution_sample : ∃ trace call, SampleReached trace call ∧ call.submit = .done (.ok "A".toList) ∧
    call.Correct Tx.blockhash () := by
  have first : SampleReached _ ⟨⟨0,[],[]⟩,.sendTransaction (sampleTx "A") 1,[]⟩ := .step .nil (.reply (.blockhash rfl))
  have sent := first.step (.reply .sent)
  have landed := sample_execute (show sampleTx "A" ∈ _ from List.mem_cons_self) (by decide) (by simp [Cluster.accept]) sent
  have done := landed.step (.reply (.confirmed (by decide)))
  refine ⟨_,_,done,rfl,one_execution done ?_⟩
  simp only [List.forall_mem_append,List.forall_mem_singleton]
  exact ⟨⟨⟨⟨nofun,trivial⟩,trivial⟩,trivial⟩,trivial⟩

end Octora.SolanaTx
