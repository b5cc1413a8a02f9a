import Mathlib.Data.Option.Basic
import Mathlib.Logic.Function.Basic
import Mathlib.Data.List.Infix

namespace Octora.ExecutorProgram

-- What the executor is for, without accounts or addresses: a holder's position on
-- a pair is entered once with the recipient of its proceeds, and only its holder
-- works it or gives it up, while the admin has not paused.
structure Holding (K : Type) where
  position : K
  exitRecipient : K
  deriving DecidableEq

structure Registry (K : Type) where
  admin : Option (K × Bool)
  holdings : K × K → Option (Holding K)

inductive Act (K : Type) where
  | configure (authority : K)
  | pause (authority : K) (paused : Bool)
  | opened (stealth lbPair : K) (holding : Holding K)
  | used (stealth lbPair : K)
  | swapped (stealth : K)
  | closed (stealth lbPair : K)

-- Whose signature an act carries.
def Act.actor : Act K → K
  | .configure authority => authority
  | .pause authority _ => authority
  | .opened stealth _ _ => stealth
  | .used stealth _ => stealth
  | .swapped stealth => stealth
  | .closed stealth _ => stealth

namespace Registry
variable {K : Type}

def empty : Registry K := ⟨none,fun _ => none⟩

def Running (registry : Registry K) : Prop := ∃ authority, registry.admin = some (authority,false)

def put [DecidableEq K] (registry : Registry K) (pair : K × K) (entry : Option (Holding K)) : Registry K :=
  { registry with holdings := Function.update registry.holdings pair entry }

inductive Step [DecidableEq K] (registry : Registry K) : Act K → Registry K → Prop where
  | configure (fresh : registry.admin = none) :
      Step registry (.configure authority) { registry with admin := some (authority,false) }
  | pause (named : registry.admin = some (authority,before)) :
      Step registry (.pause authority paused) { registry with admin := some (authority,paused) }
  | opened (running : registry.Running) (fresh : registry.holdings (stealth,lbPair) = none) :
      Step registry (.opened stealth lbPair holding) (registry.put (stealth,lbPair) (some holding))
  | used (running : registry.Running) (held : registry.holdings (stealth,lbPair) = some holding) :
      Step registry (.used stealth lbPair) registry
  | swapped (running : registry.Running) : Step registry (.swapped stealth) registry
  | closed (running : registry.Running) (held : registry.holdings (stealth,lbPair) = some holding) :
      Step registry (.closed stealth lbPair) (registry.put (stealth,lbPair) none)

inductive Runs [DecidableEq K] (start : Registry K) : List (Act K) → Registry K → Prop where
  | nil : Runs start [] start
  | step (prior : Runs start acts before) (step : before.Step act after) : Runs start (acts ++ [act]) after

variable [DecidableEq K] {start before after : Registry K}

@[simp] theorem put_self (entry : Option (Holding K)) : (before.put pair entry).holdings pair = entry :=
  Function.update_self _ _ _

theorem put_other (entry : Option (Holding K)) (apart : other ≠ pair) :
    (before.put pair entry).holdings other = before.holdings other := Function.update_of_ne apart _ _

theorem runs_trans (first : Runs start earlier middle) (second : Runs middle later after) :
    Runs start (earlier ++ later) after := by
  induction second with
  | nil =>
    rw [List.append_nil]
    exact first
  | step _ step ih =>
    rw [← List.append_assoc]
    exact .step ih step

-- The admin is named once; after that only the pause flag moves.
theorem step_admin (step : before.Step act after) (named : before.admin = some (authority,paused)) :
    ∃ now, after.admin = some (authority,now) ∧ (now = paused ∨ act = .pause authority now) := by
  cases step with
  | configure fresh =>
    rw [fresh] at named
    cases named
  | pause other =>
    rw [named] at other
    cases other
    exact ⟨_,rfl,.inr rfl⟩
  | opened _ _ => exact ⟨paused,named,.inl rfl⟩
  | used _ _ => exact ⟨paused,named,.inl rfl⟩
  | swapped _ => exact ⟨paused,named,.inl rfl⟩
  | closed _ _ => exact ⟨paused,named,.inl rfl⟩

theorem runs_admin (runs : Runs before acts after) (named : before.admin = some (authority,paused)) :
    ∃ now, after.admin = some (authority,now) ∧ (now = paused ∨ .pause authority now ∈ acts) := by
  induction runs with
  | nil => exact ⟨paused,named,.inl rfl⟩
  | step _ step ih =>
    obtain ⟨middle,kept,first⟩ := ih
    obtain ⟨now,last,second⟩ := step_admin step kept
    refine ⟨now,last,?_⟩
    rcases second with rfl | rfl
    · rcases first with same | earlier
      · exact .inl same
      · exact .inr (List.mem_append_left _ earlier)
    · exact .inr (List.mem_append_right _ List.mem_cons_self)

-- Nothing but a pause act by the admin happens while it is paused.
theorem step_paused (step : before.Step act after) (named : before.admin = some (authority,true)) :
    ∃ paused, act = .pause authority paused ∧ after.holdings = before.holdings := by
  have halted : ¬before.Running := by
    rintro ⟨other,running⟩
    rw [named] at running
    cases running
  cases step with
  | configure fresh =>
    rw [fresh] at named
    cases named
  | pause other =>
    rw [named] at other
    cases other
    exact ⟨_,rfl,rfl⟩
  | opened running _ => exact absurd running halted
  | used running _ => exact absurd running halted
  | swapped running => exact absurd running halted
  | closed running _ => exact absurd running halted

theorem runs_paused (runs : Runs before acts after) (named : before.admin = some (authority,true))
    (kept : .pause authority false ∉ acts) :
    after.admin = some (authority,true) ∧ after.holdings = before.holdings ∧ ∀ act ∈ acts, act = .pause authority true := by
  induction runs with
  | nil => exact ⟨named,rfl,nofun⟩
  | @step _ middle act _ _ step ih =>
    obtain ⟨halted,same,all⟩ := ih fun inside => kept (List.mem_append_left _ inside)
    obtain ⟨paused,rfl,still⟩ := step_paused step halted
    obtain ⟨now,after,moved⟩ := step_admin step halted
    have flag : paused = true := by
      cases paused with
      | true => rfl
      | false => exact absurd (List.mem_append_right _ List.mem_cons_self) kept
    subst flag
    have on : now = true := by
      rcases moved with same | same
      · exact same
      · cases same
        rfl
    subst on
    refine ⟨after,still.trans same,fun act inside => ?_⟩
    rcases List.mem_append.mp inside with earlier | last
    · exact all act earlier
    · exact List.mem_singleton.mp last

-- A holding is what the last opening of its pair entered, not closed since.
inductive Entered (stealth lbPair : K) (holding : Holding K) : List (Act K) → Prop where
  | opened : Entered stealth lbPair holding (acts ++ [.opened stealth lbPair holding])
  | kept (earlier : Entered stealth lbPair holding acts) (other : ∀ holding, act ≠ .opened stealth lbPair holding)
      (open_ : act ≠ .closed stealth lbPair) : Entered stealth lbPair holding (acts ++ [act])

theorem step_holding (step : before.Step act after) (held : after.holdings (stealth,lbPair) = some holding) :
    act = .opened stealth lbPair holding ∨
      (before.holdings (stealth,lbPair) = some holding ∧ (∀ holding, act ≠ .opened stealth lbPair holding) ∧
        act ≠ .closed stealth lbPair) := by
  cases step with
  | configure _ => exact .inr ⟨held,nofun,nofun⟩
  | pause _ => exact .inr ⟨held,nofun,nofun⟩
  | @opened owner pair entered _ fresh =>
    by_cases same : (stealth,lbPair) = (owner,pair)
    · cases same
      rw [put_self] at held
      cases held
      exact .inl rfl
    · rw [put_other _ same] at held
      refine .inr ⟨held,fun _ named => ?_,nofun⟩
      cases named
      exact same rfl
  | used _ _ => exact .inr ⟨held,nofun,nofun⟩
  | swapped _ => exact .inr ⟨held,nofun,nofun⟩
  | @closed owner pair _ _ _ =>
    by_cases same : (stealth,lbPair) = (owner,pair)
    · rw [same,put_self] at held
      cases held
    · rw [put_other _ same] at held
      refine .inr ⟨held,nofun,fun named => ?_⟩
      cases named
      exact same rfl

theorem runs_holding (runs : Runs empty acts after) (held : after.holdings (stealth,lbPair) = some holding) :
    Entered stealth lbPair holding acts := by
  induction runs with
  | nil => cases held
  | step _ step ih =>
    rcases step_holding step held with rfl | ⟨earlier,other,live⟩
    · exact .opened
    · exact .kept (ih earlier) other live

-- A holding stays until its holder gives it up, and none comes but by an opening.
theorem step_kept (step : before.Step act after) (held : before.holdings (stealth,lbPair) = some holding)
    (open_ : act ≠ .closed stealth lbPair) : after.holdings (stealth,lbPair) = some holding := by
  cases step with
  | configure _ => exact held
  | pause _ => exact held
  | opened _ fresh =>
    rw [put_other _ fun same => ?_]
    · exact held
    · rw [← same,held] at fresh
      cases fresh
  | used _ _ => exact held
  | swapped _ => exact held
  | closed _ _ =>
    rw [put_other _ fun same => ?_]
    · exact held
    · cases same
      exact open_ rfl

theorem runs_kept (runs : Runs before acts after) (held : before.holdings (stealth,lbPair) = some holding)
    (open_ : .closed stealth lbPair ∉ acts) : after.holdings (stealth,lbPair) = some holding := by
  induction runs with
  | nil => exact held
  | step _ step ih =>
    refine step_kept step (ih fun inside => open_ (List.mem_append_left _ inside)) fun same => open_ ?_
    rw [same]
    exact List.mem_append_right _ List.mem_cons_self

theorem step_unopened (step : before.Step act after) (free : before.holdings (stealth,lbPair) = none)
    (unopened : ∀ holding, act ≠ .opened stealth lbPair holding) : after.holdings (stealth,lbPair) = none := by
  cases held : after.holdings (stealth,lbPair) with
  | none => rfl
  | some holding =>
    rcases step_holding step held with opening | ⟨earlier,_⟩
    · exact absurd opening (unopened holding)
    · rw [free] at earlier
      cases earlier

theorem runs_unopened (runs : Runs before acts after) (free : before.holdings (stealth,lbPair) = none)
    (unopened : ∀ holding, .opened stealth lbPair holding ∉ acts) : after.holdings (stealth,lbPair) = none := by
  induction runs with
  | nil => exact free
  | step _ step ih =>
    refine step_unopened step (ih fun holding inside => unopened holding (List.mem_append_left _ inside))
      fun holding same => unopened holding ?_
    rw [same]
    exact List.mem_append_right _ List.mem_cons_self

end Registry

end Octora.ExecutorProgram
