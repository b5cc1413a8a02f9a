import Octora.Library.Calls
import Octora.Library.Holders

namespace Desk
open Calls Holders

-- Computations under way over one shared state: any number of them, of any kind,
-- each of them one answered call at a time.
structure Call {Q : Type} (Operation : Type) (R : Q → Type) (ε O : Type) where
  operation : Operation
  past : List (Seen R ε)
  rest : Op R ε O

structure World {Q : Type} (S Operation : Type) (R : Q → Type) (ε O : Type) where
  store : S
  calls : List (Call Operation R ε O)

section Machine
variable {Q S Operation ε O : Type} {R : Q → Type}
variable (body : Operation → Op R ε O) (did : (query : Q) → S → Except ε (R query) → S → Prop) (outside : S → S → Prop)

def Call.fresh (operation : Operation) : Call Operation R ε O := ⟨operation,[],body operation⟩

def Call.heard (call : Call Operation R ε O) (query : Q) (answer : Except ε (R query)) (rest : Op R ε O) :
    Call Operation R ε O := ⟨call.operation,call.past ++ [⟨query,answer⟩],rest⟩

inductive Step (world : World S Operation R ε O) : World S Operation R ε O → Prop where
  | enter : Step world ⟨world.store,world.calls ++ [Call.fresh body operation]⟩
  | answer {call : Call Operation R ε O} {next : Except ε (R query) → Op R ε O} (here : world.calls[index]? = some call)
      (turn : call.rest = .call query next) (answered : did query world.store answer after) :
      Step world ⟨after,world.calls.set index (call.heard query answer (next answer))⟩
  | outside (moved : outside world.store after) : Step world ⟨after,world.calls⟩

inductive Run : World S Operation R ε O → World S Operation R ε O → Prop where
  | stay : Run world world
  | step (run : Run world middle) (step : Step body did outside middle later) : Run world later

variable {body did outside} {world later middle : World S Operation R ε O}

theorem Run.entered (run : Run body did outside world middle) (operation : Operation) :
    Run body did outside world ⟨middle.store,middle.calls ++ [Call.fresh body operation]⟩ := .step run .enter

theorem Run.answered (run : Run body did outside world middle) (index : Nat) {call : Call Operation R ε O}
    {next : Except ε (R query) → Op R ε O} (here : middle.calls[index]? = some call)
    (turn : call.rest = .call query next) (answered : did query middle.store answer after) :
    Run body did outside world ⟨after,middle.calls.set index (call.heard query answer (next answer))⟩ :=
  .step run (.answer here turn answered)

theorem Run.moved (run : Run body did outside world middle) (moved : outside middle.store after) :
    Run body did outside world ⟨after,middle.calls⟩ := .step run (.outside moved)

-- What every step keeps holds along the whole run.
theorem run_keeps (keeps : World S Operation R ε O → Prop) (run : Run body did outside world later)
    (step : ∀ middle later,keeps middle → Step body did outside middle later → keeps later) (first : keeps world) :
    keeps later := by
  induction run with
  | stay => exact first
  | step _ taken ih => exact step _ _ ih taken

def recorded (query : Q) (past : List (Seen R ε)) (answer : Except ε (R query)) (after : List (Seen R ε)) : Prop :=
  after = past ++ [⟨query,answer⟩]

-- Each computation keeps to what its operation may ask for, and ends as it should.
def Obey (allow : Operation → Q → List (Seen R ε) → Prop) (done : Operation → Except ε O → List (Seen R ε) → Prop)
    (calls : List (Call Operation R ε O)) : Prop :=
  ∀ call ∈ calls,call.rest.Follows recorded (allow call.operation) (done call.operation) call.past

variable {allow : Operation → Q → List (Seen R ε) → Prop} {done : Operation → Except ε O → List (Seen R ε) → Prop}

theorem obey_heard {call : Call Operation R ε O} {next : Except ε (R query) → Op R ε O}
    (obey : Obey allow done world.calls) {index : Nat} (here : world.calls[index]? = some call)
    (turn : call.rest = .call query next) : allow call.operation query call.past ∧ ∀ answer,
      (next answer).Follows recorded (allow call.operation) (done call.operation) (call.past ++ [⟨query,answer⟩]) := by
  have follows := obey call (List.mem_of_getElem? here)
  rw [turn] at follows
  exact ⟨follows.1,fun answer => follows.2 answer _ rfl⟩

theorem step_obeys (bodies : ∀ operation,(body operation).Follows recorded (allow operation) (done operation) [])
    (obey : Obey allow done world.calls) (step : Step body did outside world later) : Obey allow done later.calls := by
  cases step with
  | enter =>
    intro call member
    rcases List.mem_append.mp member with old | new
    · exact obey call old
    · rw [List.mem_singleton.mp new]
      exact bodies _
  | answer here turn _ =>
    intro call member
    rcases List.mem_or_eq_of_mem_set member with old | rfl
    · exact obey call old
    · exact (obey_heard obey here turn).2 _
  | outside => exact obey

-- Each computation is still there after a step, with all that it had seen.
theorem step_stays (step : Step body did outside world later) {i : Nat} {call : Call Operation R ε O}
    (here : world.calls[i]? = some call) :
    ∃ next,later.calls[i]? = some next ∧ next.operation = call.operation ∧ ∀ seen ∈ call.past,seen ∈ next.past := by
  cases step with
  | enter =>
    refine ⟨call,?_,rfl,fun _ => id⟩
    rw [List.getElem?_append_left (List.getElem?_eq_some_iff.mp here).1,here]
  | answer there turn answered =>
    rcases kept there here with still | ⟨rfl,heard⟩
    · exact ⟨call,still,rfl,fun _ => id⟩
    · exact ⟨_,heard,rfl,fun seen => List.mem_append_left _⟩
  | outside => exact ⟨call,here,rfl,fun _ => id⟩

end Machine

end Desk
