import Mathlib.Logic.Basic

namespace Holders

-- Who holds which keys in a roster: a key that is given out once has one holder.
structure Once {α κ : Type} (holds : α → κ → Prop) (given : List κ) (members : List α) : Prop where
  listed : ∀ (i : Nat) member key, members[i]? = some member → holds member key → key ∈ given
  single : ∀ (i j : Nat) one two key, members[i]? = some one → members[j]? = some two → holds one key → holds two key → i = j

section Roster
variable {α κ : Type} {holds : α → κ → Prop} {given later : List κ} {members : List α} {member next : α}

theorem once_nil : Once holds given [] where
  listed := by
    intro i member key here
    rw [List.getElem?_nil] at here
    cases here
  single := by
    intro i j one two key here
    rw [List.getElem?_nil] at here
    cases here

theorem entered {i : Nat} (here : (members ++ [next])[i]? = some member) :
    members[i]? = some member ∨ i = members.length ∧ member = next := by
  rw [List.getElem?_append] at here
  split at here
  · exact .inl here
  · rename_i past
    rw [List.getElem?_singleton] at here
    split at here
    · rename_i zero
      cases here
      exact .inr ⟨by omega,rfl⟩
    · cases here

theorem replaced {i k : Nat} (here : (members.set k next)[i]? = some member) :
    i = k ∧ member = next ∨ i ≠ k ∧ members[i]? = some member := by
  rw [List.getElem?_set] at here
  split at here
  · rename_i same
    split at here
    · cases here
      exact .inl ⟨same.symm,rfl⟩
    · cases here
  · rename_i apart
    exact .inr ⟨fun same => apart same.symm,here⟩

theorem kept {old : α} {i k : Nat} (there : members[k]? = some old) (here : members[i]? = some member) :
    (members.set k next)[i]? = some member ∨ member = old ∧ (members.set k next)[i]? = some next := by
  by_cases same : i = k
  · subst same
    rw [here] at there
    cases there
    exact .inr ⟨rfl,List.getElem?_set_self (List.getElem?_eq_some_iff.mp here).1⟩
  · exact .inl (by rw [List.getElem?_set_ne (Ne.symm same),here])

theorem once_enter (once : Once holds given members) (empty : ∀ key, ¬holds next key) : Once holds given (members ++ [next]) where
  listed := by
    intro i member key here held
    rcases entered here with old | ⟨-,rfl⟩
    · exact once.listed i member key old held
    · exact absurd held (empty key)
  single := by
    intro i j one two key first second held also
    rcases entered first with one' | ⟨-,rfl⟩
    · rcases entered second with two' | ⟨-,rfl⟩
      · exact once.single i j one two key one' two' held also
      · exact absurd also (empty key)
    · exact absurd held (empty key)

-- One member changes: what it holds now it held before, or nobody had been given.
theorem once_set (once : Once holds given members) {k : Nat} (here : members[k]? = some member)
    (grows : ∀ key ∈ given, key ∈ later)
    (held : ∀ key, holds next key → holds member key ∨ key ∉ given ∧ key ∈ later) :
    Once holds later (members.set k next) where
  listed := by
    intro i other key there holding
    rcases replaced there with ⟨rfl,rfl⟩ | ⟨-,old⟩
    · rcases held key holding with before | new
      · exact grows key (once.listed i member key here before)
      · exact new.2
    · exact grows key (once.listed i other key old holding)
  single := by
    intro i j one two key first second holding also
    rcases replaced first with ⟨rfl,rfl⟩ | ⟨apart,one'⟩ <;> rcases replaced second with ⟨rfl,rfl⟩ | ⟨other,two'⟩
    · rfl
    · rcases held key holding with before | new
      · exact absurd (once.single i j member two key here two' before also).symm other
      · exact absurd (once.listed j two key two' also) new.1
    · rcases held key also with before | new
      · exact absurd (once.single i j one member key one' here holding before) apart
      · exact absurd (once.listed i one key one' holding) new.1
    · exact once.single i j one two key one' two' holding also

end Roster

end Holders
