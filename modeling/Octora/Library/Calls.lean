import Mathlib.Logic.Basic

namespace Calls

-- A computation that acts on the outside only through its calls. Each call is
-- answered, by a value or by an error, before the computation goes on.
inductive Op {Q : Type} (R : Q → Type) (ε α : Type) where
  | ret (value : α)
  | throws (error : ε)
  | call (query : Q) (next : Except ε (R query) → Op R ε α)

namespace Op
variable {Q : Type} {R : Q → Type} {ε α β γ : Type}

def bind : Op R ε α → (α → Op R ε β) → Op R ε β
  | .ret value,next => next value
  | .throws error,_ => .throws error
  | .call query rest,next => .call query fun answer => (rest answer).bind next

def send (query : Q) : Op R ε (R query) :=
  .call query fun
    | .ok value => .ret value
    | .error error => .throws error

-- Errors become values; nothing is thrown any more.
def attempt : Op R ε α → Op R ε (Except ε α)
  | .ret value => .ret (.ok value)
  | .throws error => .ret (.error error)
  | .call query rest => .call query fun answer => (rest answer).attempt

instance : Monad (Op R ε) where
  pure := .ret
  bind := bind

def lift : Except ε α → Op R ε α
  | .ok value => .ret value
  | .error error => .throws error

-- The computation with its calls answered by a function.
def run (answers : (query : Q) → Except ε (R query)) : Op R ε α → Except ε α
  | .ret value => .ok value
  | .throws error => .error error
  | .call query next => (next (answers query)).run answers

-- The calls it makes when they are answered so.
def asked (answers : (query : Q) → Except ε (R query)) : Op R ε α → List Q
  | .ret _ => []
  | .throws _ => []
  | .call query next => query :: (next (answers query)).asked answers

def each (body : β → α → Op R ε β) : List α → β → Op R ε β
  | [],result => .ret result
  | item :: rest,result => (body result item).bind fun result => each body rest result

def answered (next : α → Op R ε β) : Except ε α → Op R ε β
  | .ok value => next value
  | .error error => .throws error

theorem lift_then {result : Except ε α} (fine : result = .ok value) (next : α → Op R ε β) :
    lift result >>= next = next value := by
  rw [fine]
  rfl

theorem send_then (query : Q) (next : R query → Op R ε β) : send query >>= next = .call query (answered next) := by
  refine congrArg (Op.call query) (funext fun answer => ?_)
  cases answer with
  | ok value => rfl
  | error error => rfl

theorem send_answered (query : Q) : (send query : Op R ε (R query)) = .call query (answered .ret) := by
  refine congrArg (Op.call query) (funext fun answer => ?_)
  cases answer with
  | ok value => rfl
  | error error => rfl

theorem bind_assoc (p : Op R ε α) (one : α → Op R ε β) (two : β → Op R ε γ) :
    p >>= (fun value => one value >>= two) = p >>= one >>= two := by
  induction p with
  | ret value => rfl
  | throws error => rfl
  | call query rest ih => exact congrArg (Op.call query) (funext fun answer => ih answer)

end Op

-- One answered call.
structure Seen {Q : Type} (R : Q → Type) (ε : Type) where
  query : Q
  answer : Except ε (R query)

section Follows
variable {Q : Type} {R : Q → Type} {ε α β S : Type}
variable (answers : (query : Q) → S → Except ε (R query) → S → Prop) (allow : Q → S → Prop)

-- Along every way the calls can be answered, each call is allowed in the state
-- that it is made in, and the computation ends as `post` says.
def Op.Follows : Op R ε α → (Except ε α → S → Prop) → S → Prop
  | .ret value,post,state => post (.ok value) state
  | .throws error,post,state => post (.error error) state
  | .call query next,post,state =>
      allow query state ∧ ∀ answer after, answers query state answer after → (next answer).Follows post after

def Ends (value : α → S → Prop) (error : ε → S → Prop) : Except ε α → S → Prop
  | .ok a,state => value a state
  | .error e,state => error e state

variable {answers allow} {post : Except ε β → S → Prop}

theorem follows_mono {p : Op R ε α} {one two : Except ε α → S → Prop} (weaker : ∀ out state, one out state → two out state)
    (follows : p.Follows answers allow one state) : p.Follows answers allow two state := by
  induction p generalizing state with
  | ret value => exact weaker _ _ follows
  | throws error => exact weaker _ _ follows
  | call query next ih =>
    exact ⟨follows.1,fun answer after answered => ih answer (follows.2 answer after answered)⟩

theorem follows_allow {p : Op R ε β} {looser : Q → S → Prop} (weaker : ∀ query state, allow query state → looser query state)
    (follows : p.Follows answers allow post state) : p.Follows answers looser post state := by
  induction p generalizing state with
  | ret value => exact follows
  | throws error => exact follows
  | call query next ih =>
    exact ⟨weaker _ _ follows.1,fun answer after answered => ih answer (follows.2 answer after answered)⟩

theorem follows_bind {p : Op R ε α} {next : α → Op R ε β} :
    (p.bind next).Follows answers allow post state ↔
      p.Follows answers allow (Ends (fun a after => (next a).Follows answers allow post after)
        fun e after => post (.error e) after) state := by
  induction p generalizing state with
  | ret value => exact Iff.rfl
  | throws error => exact Iff.rfl
  | call query rest ih =>
    refine and_congr Iff.rfl (forall_congr' fun answer => forall_congr' fun after => ?_)
    exact imp_congr Iff.rfl (ih answer)

theorem follows_pure {value : β} : (pure value : Op R ε β).Follows answers allow post state ↔ post (.ok value) state := Iff.rfl

theorem follows_attempt {p : Op R ε α} {post : Except ε (Except ε α) → S → Prop} :
    p.attempt.Follows answers allow post state ↔
      p.Follows answers allow (fun out after => post (.ok out) after) state := by
  induction p generalizing state with
  | ret value => exact Iff.rfl
  | throws error => exact Iff.rfl
  | call query rest ih =>
    refine and_congr Iff.rfl (forall_congr' fun answer => forall_congr' fun after => ?_)
    exact imp_congr Iff.rfl (ih answer)

theorem follows_send {query : Q} {post : Except ε (R query) → S → Prop} :
    (Op.send query).Follows answers allow post state ↔
      allow query state ∧ ∀ answer after, answers query state answer after → post answer after := by
  refine and_congr Iff.rfl (forall_congr' fun answer => forall_congr' fun after => ?_)
  cases answer with
  | ok value => exact Iff.rfl
  | error error => exact Iff.rfl

theorem follows_lift {result : Except ε β} : (Op.lift result).Follows answers allow post state ↔ post result state := by
  cases result with
  | ok value => exact Iff.rfl
  | error error => exact Iff.rfl

-- Without a call, what comes next starts in the same state.
theorem follows_lift_then {result : Except ε α} {next : α → Op R ε β} :
    (Op.lift result >>= next).Follows answers allow post state ↔
      (∀ value, result = .ok value → (next value).Follows answers allow post state) ∧
        ∀ error, result = .error error → post (.error error) state := by
  cases result with
  | ok value =>
    change (next value).Follows answers allow post state ↔ _
    simp
  | error error =>
    change post (.error error) state ↔ _
    simp

-- What follows every way of answering the calls follows the answers of a function.
theorem follows_run {p : Op R ε β} {replies : (query : Q) → Except ε (R query)}
    (possible : ∀ query state, answers query state (replies query) state) (follows : p.Follows answers allow post state) :
    post (p.run replies) state := by
  induction p with
  | ret value => exact follows
  | throws error => exact follows
  | call query next ih => exact ih _ (follows.2 _ _ (possible query state))

-- A loop keeps what each round keeps.
theorem follows_each {body : β → α → Op R ε β} {items : List α} {keeps : β → S → Prop} {stops : ε → S → Prop}
    (round : ∀ item ∈ items, ∀ result state, keeps result state →
      (body result item).Follows answers allow (Ends keeps stops) state)
    (start : keeps result state) :
    (Op.each body items result).Follows answers allow (Ends keeps stops) state := by
  induction items generalizing result state with
  | nil => exact start
  | cons item rest ih =>
    refine follows_bind.mpr (follows_mono ?_ (round item List.mem_cons_self result state start))
    rintro (error | next) after ended
    · exact ended
    · exact ih (fun other inside => round other (List.mem_cons_of_mem _ inside)) ended

end Follows

-- A computation that leaves it to its calls whether it succeeds: it passes their
-- errors on, and throws none of its own but the excused ones.
section Defers
variable {Q : Type} {R : Q → Type} {ε α β : Type} (answers : (query : Q) → R query → Prop) (excused : ε → Prop)

def Op.Defers : Op R ε α → Prop
  | .ret _ => True
  | .throws error => excused error
  | .call query next =>
      (∀ error, next (.error error) = .throws error) ∧ ∀ value, answers query value → (next (.ok value)).Defers

variable {answers excused}

theorem defers_call {query : Q} {next : R query → Op R ε β}
    (later : ∀ value, answers query value → (next value).Defers answers excused) :
    (Op.call query (Op.answered next)).Defers answers excused := ⟨fun _ => rfl,later⟩

theorem defers_run {p : Op R ε β} {replies : (query : Q) → Except ε (R query)} (defers : p.Defers answers excused)
    (possible : ∀ query value, replies query = .ok value → answers query value) :
    (∃ value, p.run replies = .ok value) ∨
      (∃ query ∈ p.asked replies, ∃ error, replies query = .error error ∧ p.run replies = .error error) ∨
      ∃ error, excused error ∧ p.run replies = .error error := by
  induction p with
  | ret value => exact .inl ⟨value,rfl⟩
  | throws error => exact .inr (.inr ⟨error,defers,rfl⟩)
  | call query next ih =>
    obtain ⟨passed,later⟩ := defers
    cases answer : replies query with
    | ok value =>
      have rest := ih (.ok value) (later value (possible query value answer))
      have asks : (Op.call query next).asked replies = query :: (next (.ok value)).asked replies := by rw [Op.asked,answer]
      rw [Op.run,answer,asks]
      rcases rest with fine | ⟨refused,made,error,failed,ends⟩ | excuse
      · exact .inl fine
      · exact .inr (.inl ⟨refused,List.mem_cons_of_mem _ made,error,failed,ends⟩)
      · exact .inr (.inr excuse)
    | error error =>
      refine .inr (.inl ⟨query,List.mem_cons_self,error,answer,?_⟩)
      rw [Op.run,answer,passed error]
      rfl

end Defers

end Calls
