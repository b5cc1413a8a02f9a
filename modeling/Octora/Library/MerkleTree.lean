import Mathlib.Data.List.GetD
import Mathlib.Tactic.Ring

namespace MerkleTree
variable {α : Type} (hash : α → α → α)

-- The complete subtree of height `l` whose leaves are `i * 2^l .. (i+1) * 2^l - 1`.
def node (leaf : Nat → α) : Nat → Nat → α
  | 0,i => leaf i
  | l+1,i => hash (node leaf l (2*i)) (node leaf l (2*i+1))

def empty (zero : α) : Nat → α
  | 0 => zero
  | l+1 => hash (empty zero l) (empty zero l)

def padded (zero : α) (leaves : List α) (i : Nat) : α := leaves.getD i zero

def root (zero : α) (depth : Nat) (leaves : List α) : α := node hash (padded zero leaves) depth 0

variable {hash}

theorem node_congr (same : ∀ j, i * 2^l ≤ j → j < (i+1) * 2^l → left j = right j) :
    node hash left l i = node hash right l i := by
  induction l generalizing i with
  | zero => exact same i (by simp) (by simp)
  | succ l ih =>
    have low : i * 2^(l+1) = 2*i * 2^l := by ring
    have high : (i+1) * 2^(l+1) = (2*i+1+1) * 2^l := by ring
    have middle : 2*i * 2^l ≤ (2*i+1) * 2^l := Nat.mul_le_mul_right _ (Nat.le_succ _)
    have upper : (2*i+1) * 2^l ≤ (2*i+1+1) * 2^l := Nat.mul_le_mul_right _ (Nat.le_succ _)
    rw [low,high] at same
    simp only [node]
    rw [ih fun j above below => same j above (Nat.lt_of_lt_of_le below upper),
      ih fun j above below => same j (Nat.le_trans middle above) below]

theorem node_empty (zeros : ∀ j, i * 2^l ≤ j → leaf j = zero) : node hash leaf l i = empty hash zero l := by
  induction l generalizing i with
  | zero => exact zeros i (by simp)
  | succ l ih =>
    have shifted : i * 2^(l+1) = 2*i * 2^l := by ring
    rw [shifted] at zeros
    have after : 2*i * 2^l ≤ (2*i+1) * 2^l := Nat.mul_le_mul_right _ (Nat.le_succ _)
    simp only [node,empty]
    rw [ih zeros,ih fun j low => zeros j (Nat.le_trans after low)]

-- Forgetting the lowest level: the parents of the leaves are the leaves of a tree one lower.
theorem node_parents (leaf : Nat → α) (l i : Nat) :
    node hash (fun j => hash (leaf (2*j)) (leaf (2*j+1))) l i = node hash leaf (l+1) i := by
  induction l generalizing i with
  | zero => rfl
  | succ l ih => simp only [node] at ih ⊢; rw [ih,ih]

@[simp] theorem padded_lt (bound : i < leaves.length) : padded zero leaves i = leaves[i] :=
  List.getD_eq_getElem _ _ bound

@[simp] theorem padded_ge (beyond : leaves.length ≤ i) : padded zero leaves i = zero :=
  List.getD_eq_default _ _ beyond

theorem padded_append_old (bound : i < leaves.length) :
    padded zero (leaves ++ more) i = padded zero leaves i := List.getD_append _ _ _ _ bound

theorem root_nil (zero : α) (depth : Nat) : root hash zero depth [] = empty hash zero depth :=
  node_empty fun j _ => by simp

-- A map that carries one hash to the other carries whole trees.
theorem node_map {β : Type} {other : β → β → β} {f : α → β} (carries : ∀ a b, f (hash a b) = other (f a) (f b))
    (leaf : Nat → α) (l i : Nat) :
    f (node hash leaf l i) = node other (fun j => f (leaf j)) l i := by
  induction l generalizing i with
  | zero => rfl
  | succ l ih => simp only [node]; rw [carries,ih,ih]

-- Authentication paths, lowest level first: the sibling and whether the node
-- on the path is the right child.
def siblingOf (i : Nat) : Nat := if i % 2 = 0 then i+1 else i-1

variable (hash) in
def path (leaf : Nat → α) : Nat → Nat → List (α × Bool)
  | 0,_ => []
  | depth+1,i => (leaf (siblingOf i),i % 2 = 1) ::
      path (fun j => hash (leaf (2*j)) (leaf (2*j+1))) depth (i/2)

theorem path_map {β : Type} {other : β → β → β} {f : α → β} (carries : ∀ a b, f (hash a b) = other (f a) (f b))
    (leaf : Nat → α) (depth i : Nat) :
    (path hash leaf depth i).map (fun step => (f step.1,step.2)) = path other (fun j => f (leaf j)) depth i := by
  induction depth generalizing leaf i with
  | zero => rfl
  | succ depth ih =>
    have above := ih (fun j => hash (leaf (2*j)) (leaf (2*j+1))) (i/2)
    simp only [carries] at above
    simp only [path,List.map_cons,above]

variable (hash) in
def combine (current : α) (step : α × Bool) : α :=
  if step.2 then hash step.1 current else hash current step.1

variable (hash) in
def climb (current : α) : List (α × Bool) → α
  | [] => current
  | step :: rest => climb (combine hash current step) rest

theorem climb_append (current : α) (steps : List (α × Bool)) (last : α × Bool) :
    climb hash current (steps ++ [last]) = combine hash (climb hash current steps) last := by
  induction steps generalizing current with
  | nil => rfl
  | cons step rest ih => exact ih _

def position : List (α × Bool) → Nat
  | [] => 0
  | step :: rest => 2 * position rest + (if step.2 then 1 else 0)

@[simp] theorem path_length (leaf : Nat → α) (depth i : Nat) : (path hash leaf depth i).length = depth := by
  induction depth generalizing leaf i with
  | zero => rfl
  | succ depth ih => simp [path,ih]

theorem combine_path (leaf : Nat → α) (i : Nat) :
    combine hash (leaf i) (leaf (siblingOf i),i % 2 = 1) = hash (leaf (2*(i/2))) (leaf (2*(i/2)+1)) := by
  rcases Nat.mod_two_eq_zero_or_one i with even | odd
  · have low : 2*(i/2) = i := by omega
    simp [combine,siblingOf,even,low]
  · have low : 2*(i/2) = i-1 := by omega
    have high : i-1+1 = i := by omega
    simp [combine,siblingOf,odd,low,high]

theorem climb_path (leaf : Nat → α) (depth i : Nat) :
    climb hash (leaf i) (path hash leaf depth i) = node hash leaf depth (i / 2^depth) := by
  induction depth generalizing leaf i with
  | zero => simp [path,climb,node]
  | succ depth ih =>
    have above := ih (fun j => hash (leaf (2*j)) (leaf (2*j+1))) (i/2)
    rw [path,climb,combine_path,above,node_parents,Nat.div_div_eq_div_mul,← pow_succ']

theorem path_climbs (bound : i < 2^depth) :
    climb hash (leaf i) (path hash leaf depth i) = node hash leaf depth 0 := by
  rw [climb_path,Nat.div_eq_of_lt bound]

-- The path of the first leaf when no other leaf is set.
theorem path_first (zeros : ∀ j, leaf (j+1) = empty hash zero l) (depth : Nat) :
    path hash leaf depth 0 = (List.range depth).map fun k => (empty hash zero (l+k),false) := by
  induction depth generalizing leaf l with
  | zero => rfl
  | succ depth ih =>
    have parents : ∀ j, (fun i => hash (leaf (2*i)) (leaf (2*i+1))) (j+1) = empty hash zero (l+1) := by
      intro j
      have even : 2*(j+1) = 2*j+1+1 := by ring
      simp only [even,zeros]
      rfl
    have above : path hash (fun i => hash (leaf (2*i)) (leaf (2*i+1))) depth 0 =
        (List.range depth).map fun k => (empty hash zero (l+1+k),false) := ih parents
    simp only [Nat.add_right_comm] at above
    rw [path,List.range_succ_eq_map,List.map_cons,List.map_map,above]
    simp [siblingOf,zeros 0,Function.comp_def,Nat.add_assoc]

-- The pairs hashed while climbing, and the pairs hashed inside a complete tree.
variable (hash) in
def climbPairs (current : α) : List (α × Bool) → List (α × α)
  | [] => []
  | step :: rest => (if step.2 then (step.1,current) else (current,step.1)) ::
      climbPairs (combine hash current step) rest

variable (hash) in
def TreePair (leaf : Nat → α) (depth : Nat) (pair : α × α) : Prop :=
  ∃ l i, l < depth ∧ i < 2^(depth-1-l) ∧ pair = (node hash leaf l (2*i),node hash leaf l (2*i+1))

variable (hash) in
def NoCollision (queries : α × α → Prop) : Prop :=
  ∀ left right, queries left → queries right → hash left.1 left.2 = hash right.1 right.2 → left = right

theorem TreePair.parents (pair : TreePair hash (fun j => hash (leaf (2*j)) (leaf (2*j+1))) depth q) :
    TreePair hash leaf (depth+1) q := by
  obtain ⟨l,i,low,inside,rfl⟩ := pair
  refine ⟨l+1,i,by omega,?_,by rw [node_parents,node_parents]⟩
  have same : depth+1-1-(l+1) = depth-1-l := by omega
  rwa [same]

theorem position_bound (p : List (α × Bool)) : position p < 2^p.length := by
  induction p with
  | nil => simp [position]
  | cons step rest ih =>
    rw [position,List.length_cons,pow_succ]
    split <;> omega

-- Peel the lowest level: by induction the climb passed through the true parent
-- at its position, and a parent that has only one preimage fixes both children.
theorem climb_binds (p : List (α × Bool)) (current : α) (leaf : Nat → α)
    (free : NoCollision hash fun q => q ∈ climbPairs hash current p ∨ TreePair hash leaf p.length q)
    (reaches : climb hash current p = node hash leaf p.length 0) : current = leaf (position p) := by
  induction p generalizing current leaf with
  | nil => simpa [climb,node,position] using reaches
  | cons step rest ih =>
    have above := ih (combine hash current step) (fun j => hash (leaf (2*j)) (leaf (2*j+1))) (by
        intro left right one two
        exact free left right
          (one.imp (List.mem_cons_of_mem _) TreePair.parents)
          (two.imp (List.mem_cons_of_mem _) TreePair.parents))
      (by rw [node_parents]; exact reaches)
    have inside : TreePair hash leaf (rest.length+1)
        (leaf (2 * position rest),leaf (2 * position rest+1)) :=
      ⟨0,position rest,Nat.succ_pos _,by simpa using position_bound rest,rfl⟩
    have equal := free _ _ (.inl List.mem_cons_self) (.inr inside) (by
      rw [← above]
      unfold combine
      split <;> rfl)
    rw [position]
    split at equal
    · rename_i right; simpa [right] using congrArg Prod.snd equal
    · rename_i left; simpa [left] using congrArg Prod.fst equal

end MerkleTree
