import Mathlib.Data.List.Induction

namespace FixedWindow

-- One key's counter: what it counted in its window, and when that ends.
structure Bucket where
  count : Nat
  resetAt : Int
  deriving DecidableEq

structure Entry where
  time : Int
  admitted : Bool
  deriving DecidableEq

def Entry.since (start : Int) (entry : Entry) : Bool := entry.admitted && decide (start ≤ entry.time)

def Entry.within (low high : Int) (entry : Entry) : Bool :=
  entry.admitted && decide (low ≤ entry.time ∧ entry.time < high)

theorem since_iff (start : Int) (entry : Entry) : entry.since start = true ↔ entry.admitted = true ∧ start ≤ entry.time := by
  rw [Entry.since,Bool.and_eq_true,decide_eq_true_eq]

theorem within_iff (low high : Int) (entry : Entry) :
    entry.within low high = true ↔ entry.admitted = true ∧ low ≤ entry.time ∧ entry.time < high := by
  rw [Entry.within,Bool.and_eq_true,decide_eq_true_eq]

section Counter
variable (length : Int) (limit : Nat)

-- A window opens at the first request at or after the end of the one before.
def grant (bucket : Option Bucket) (now : Int) : Option Bucket × Bool :=
  match bucket with
  | none => (some ⟨1,now + length⟩,true)
  | some window =>
    if window.resetAt ≤ now then (some ⟨1,now + length⟩,true)
    else if limit ≤ window.count then (some window,false)
    else (some ⟨window.count + 1,window.resetAt⟩,true)

def serve : Option Bucket → List Int → List Entry
  | _,[] => []
  | bucket,now :: rest => ⟨now,(grant length limit bucket now).2⟩ :: serve (grant length limit bucket now).1 rest

def left (bucket : Option Bucket) (times : List Int) : Option Bucket :=
  times.foldl (fun bucket now => (grant length limit bucket now).1) bucket

def opens (start : Option Int) (now : Int) : Int :=
  match start with
  | none => now
  | some start => if start + length ≤ now then now else start

-- The window that the requests so far have left open, by its start.
def current (times : List Int) : Option Int := times.foldl (fun start now => some (opens length start now)) none

theorem serve_append (bucket : Option Bucket) (first second : List Int) :
    serve length limit bucket (first ++ second) =
      serve length limit bucket first ++ serve length limit (left length limit bucket first) second := by
  induction first generalizing bucket with
  | nil => rfl
  | cons now first ih =>
    rw [List.cons_append,serve,ih]
    rfl

theorem serve_times (bucket : Option Bucket) (times : List Int) : (serve length limit bucket times).map Entry.time = times := by
  induction times generalizing bucket with
  | nil => rfl
  | cons now times ih => rw [serve,List.map_cons,ih]

-- A decision was made on what the requests before it had left.
theorem serve_split {bucket : Option Bucket} {times : List Int} (made : serve length limit bucket times = before ++ entry :: after) :
    times = before.map Entry.time ++ entry.time :: after.map Entry.time ∧
      serve length limit bucket (before.map Entry.time) = before ∧
      entry.admitted = (grant length limit (left length limit bucket (before.map Entry.time)) entry.time).2 := by
  have times_ := serve_times length limit bucket times
  rw [made,List.map_append,List.map_cons] at times_
  rw [← times_,serve_append] at made
  have same := serve_times length limit bucket (before.map Entry.time)
  obtain ⟨front,rest⟩ := List.append_inj made (by rw [← List.length_map (f := Entry.time),same,List.length_map])
  exact ⟨times_.symm,front,(congrArg Entry.admitted (List.cons.inj rest).1).symm⟩

theorem left_append (bucket : Option Bucket) (times : List Int) (now : Int) :
    left length limit bucket (times ++ [now]) = (grant length limit (left length limit bucket times) now).1 := by
  rw [left,List.foldl_append]
  rfl

theorem current_append (times : List Int) (now : Int) :
    current length (times ++ [now]) = some (opens length (current length times) now) := by
  rw [current,List.foldl_append]
  rfl

theorem left_current (times : List Int) :
    current length times = (left length limit none times).map fun window => window.resetAt - length := by
  induction times using List.reverseRecOn with
  | nil => rfl
  | append_singleton times now ih =>
    rw [current_append,left_append,ih]
    cases bucket : left length limit none times with
    | none => simp [grant,opens]
    | some window =>
      simp only [grant,opens,Option.map_some,Int.sub_add_cancel]
      by_cases over_ : window.resetAt ≤ now
      · simp [over_]
      · by_cases full : limit ≤ window.count
        · simp [over_,full]
        · simp [over_,full]

-- What holds of a counter and of the decisions that it has made until `last`: the bound
-- on any interval, and what carries it over the next window's start.
structure Kept (history : List Entry) (bucket : Option Bucket) (last : Int) : Prop where
  sliding : ∀ low,history.countP (Entry.within low (low + length)) ≤ 2 * limit
  fresh : bucket = none → history = []
  begun : ∀ window,bucket = some window → window.resetAt - length ≤ last
  inside : ∀ window,bucket = some window → ∀ entry ∈ history,entry.time < window.resetAt
  counted : ∀ window,bucket = some window → window.count = history.countP (Entry.since (window.resetAt - length))
  bounded : ∀ window,bucket = some window → window.count ≤ limit
  previous : ∀ window,bucket = some window → ∀ low,window.resetAt - length < low + length →
    history.countP (Entry.within low (window.resetAt - length)) ≤ limit

end Counter

section Bound
variable {length : Int} {limit : Nat} {history : List Entry} {bucket : Option Bucket} {last now : Int}

theorem within_split (low mid high : Int) (history : List Entry) :
    history.countP (Entry.within low high) ≤ history.countP (Entry.within low mid) + history.countP (Entry.since mid) := by
  induction history with
  | nil => exact Nat.zero_le _
  | cons entry history ih =>
    have one : (if entry.within low high then 1 else 0) ≤
        (if entry.within low mid then 1 else 0) + if entry.since mid then 1 else 0 := by
      unfold Entry.within Entry.since
      cases entry.admitted with
      | false => simp
      | true =>
        simp only [Bool.true_and,decide_eq_true_eq]
        split <;> split <;> split <;> omega
    rw [List.countP_cons,List.countP_cons,List.countP_cons]
    omega

theorem within_since (low mid : Int) (high : Int) (later : mid ≤ low) (history : List Entry) :
    history.countP (Entry.within low high) ≤ history.countP (Entry.since mid) := by
  apply List.countP_mono_left
  intro entry _ held
  rw [within_iff] at held
  exact (since_iff mid entry).mpr ⟨held.1,by omega⟩

@[simp] theorem countP_snoc (held : Entry → Bool) (history : List Entry) (entry : Entry) :
    (history ++ [entry]).countP held = history.countP held + if held entry then 1 else 0 := by
  rw [List.countP_append,List.countP_singleton]

theorem kept_later (kept : Kept length limit history bucket last) (later : last ≤ now) :
    Kept length limit history bucket now :=
  ⟨kept.sliding,kept.fresh,fun window same => Int.le_trans (kept.begun window same) later,kept.inside,kept.counted,
    kept.bounded,kept.previous⟩

-- The window goes on: the request is counted in it, or refused.
theorem kept_goes {window : Bucket} (kept : Kept length limit history (some window) last) (later : last ≤ now)
    (running : now < window.resetAt) (next : Bucket) (admitted : Bool) (same : next.resetAt = window.resetAt)
    (count : next.count = window.count + if admitted then 1 else 0) (bounded : next.count ≤ limit) :
    Kept length limit (history ++ [⟨now,admitted⟩]) (some next) now := by
  have begun := kept.begun window rfl
  have counted := kept.counted window rfl
  have apart : ∀ low,(⟨now,admitted⟩ : Entry).within low (window.resetAt - length) = false := by
    intro low
    simp only [Entry.within,Bool.and_eq_false_iff,decide_eq_false_iff_not]
    exact .inr (by omega)
  have taken : (⟨now,admitted⟩ : Entry).since (window.resetAt - length) = admitted := by
    simp only [Entry.since]
    rw [decide_eq_true (by omega),Bool.and_true]
  have total : next.count = (history ++ [Entry.mk now admitted]).countP (Entry.since (window.resetAt - length)) := by
    rw [countP_snoc,taken,count,counted]
  have previous : ∀ low,window.resetAt - length < low + length →
      (history ++ [Entry.mk now admitted]).countP (Entry.within low (window.resetAt - length)) ≤ limit := by
    intro low near
    rw [countP_snoc,apart low]
    exact kept.previous window rfl low near
  refine ⟨?_,nofun,?_,?_,?_,?_,?_⟩
  · intro low
    by_cases near : low ≤ now ∧ now < low + length
    · have cut := within_split low (window.resetAt - length) (low + length) (history ++ [Entry.mk now admitted])
      have before := previous low (by omega)
      omega
    · have outside : (⟨now,admitted⟩ : Entry).within low (low + length) = false := by
        simp only [Entry.within,Bool.and_eq_false_iff,decide_eq_false_iff_not]
        exact .inr near
      rw [countP_snoc,outside]
      exact kept.sliding low
  · intro _ same'
    cases same'
    omega
  · intro _ same' entry member
    cases same'
    rw [same]
    rcases List.mem_append.mp member with old | new
    · exact kept.inside window rfl entry old
    · rw [List.mem_singleton.mp new]
      exact running
  · intro _ same'
    cases same'
    rw [same]
    exact total
  · intro _ same'
    cases same'
    exact bounded
  · intro _ same'
    cases same'
    rw [same]
    exact previous

-- A window opens: all that was admitted in reach is in the one that is over.
theorem kept_opens (positive : 0 < length) (least : 1 ≤ limit) (kept : Kept length limit history bucket last)
    (over_ : ∀ window,bucket = some window → window.resetAt ≤ now) :
    Kept length limit (history ++ [⟨now,true⟩]) (some ⟨1,now + length⟩) now := by
  have early : ∀ entry ∈ history,entry.time < now := by
    intro entry member
    cases same : bucket with
    | none => exact absurd member (by simp [kept.fresh same])
    | some window => exact Int.lt_of_lt_of_le (kept.inside window same entry member) (over_ window same)
  have none_since : history.countP (Entry.since now) = 0 := by
    rw [List.countP_eq_zero]
    intro entry member
    have before := early entry member
    rw [since_iff]
    omega
  have reach : ∀ low,now < low + length → history.countP (Entry.within low now) ≤ limit := by
    intro low near
    cases same : bucket with
    | none => simp [kept.fresh same]
    | some window =>
      have ended := over_ window same
      have inside := within_since low (window.resetAt - length) now (by omega) history
      rw [← kept.counted window same] at inside
      exact Nat.le_trans inside (kept.bounded window same)
  have last_ : (⟨now,true⟩ : Entry).since now = true := by simp [Entry.since]
  have total : (history ++ [Entry.mk now true]).countP (Entry.since now) = 1 := by rw [countP_snoc,none_since,last_]; rfl
  have previous : ∀ low,now < low + length → (history ++ [Entry.mk now true]).countP (Entry.within low now) ≤ limit := by
    intro low near
    have outside : (⟨now,true⟩ : Entry).within low now = false := by simp [Entry.within]
    rw [countP_snoc,outside]
    exact reach low near
  refine ⟨?_,nofun,?_,?_,?_,?_,?_⟩
  · intro low
    by_cases near : low ≤ now ∧ now < low + length
    · have cut := within_split low now (low + length) (history ++ [Entry.mk now true])
      have before := previous low near.2
      omega
    · have outside : (⟨now,true⟩ : Entry).within low (low + length) = false := by
        simp only [Entry.within,Bool.and_eq_false_iff,decide_eq_false_iff_not]
        exact .inr near
      rw [countP_snoc,outside]
      exact kept.sliding low
  · intro _ same
    cases same
    exact Int.le_of_eq (Int.add_sub_cancel _ _)
  · intro _ same entry member
    cases same
    rcases List.mem_append.mp member with old | new
    · have before := early entry old
      exact Int.lt_trans before (Int.lt_add_of_pos_right _ positive)
    · rw [List.mem_singleton.mp new]
      exact Int.lt_add_of_pos_right _ positive
  · intro _ same
    cases same
    rw [Int.add_sub_cancel]
    exact total.symm
  · intro _ same
    cases same
    exact least
  · intro _ same
    cases same
    rw [Int.add_sub_cancel]
    exact previous

theorem kept_step (positive : 0 < length) (least : 1 ≤ limit) (kept : Kept length limit history bucket last)
    (later : last ≤ now) :
    Kept length limit (history ++ [⟨now,(grant length limit bucket now).2⟩]) (grant length limit bucket now).1 now := by
  cases bucket with
  | none => exact kept_opens positive least kept fun _ same => by cases same
  | some window =>
    simp only [grant]
    by_cases over_ : window.resetAt ≤ now
    · simp only [if_pos over_]
      exact kept_opens positive least kept fun _ same => by cases same; exact over_
    · have running : now < window.resetAt := Int.not_le.mp over_
      by_cases full : limit ≤ window.count
      · simp only [if_neg over_,if_pos full]
        exact kept_goes kept later running window false rfl rfl (kept.bounded window rfl)
      · simp only [if_neg over_,if_neg full]
        exact kept_goes kept later running ⟨window.count + 1,window.resetAt⟩ true rfl rfl (by simp only; omega)

theorem serve_kept (positive : 0 < length) (least : 1 ≤ limit) (times : List Int) (ordered : times.Pairwise (· ≤ ·))
    (later : ∀ time ∈ times,time ≤ now) : Kept length limit (serve length limit none times) (left length limit none times) now := by
  induction times using List.reverseRecOn generalizing now with
  | nil =>
    refine ⟨fun _ => Nat.zero_le _,fun _ => rfl,?_,?_,?_,?_,?_⟩
    all_goals
      intro window same
      cases same
  | append_singleton times time ih =>
    obtain ⟨front,_,before⟩ := List.pairwise_append.mp ordered
    have kept := ih front fun earlier member => before earlier member time (List.mem_singleton_self _)
    rw [serve_append,left_append]
    have last_ := later time (List.mem_append_right _ (List.mem_singleton_self _))
    exact kept_later (kept_step positive least kept (Int.le_refl _)) last_

-- In any interval of one window's length, at most twice the limit is admitted.
theorem sliding_bound (positive : 0 < length) (least : 1 ≤ limit) {times : List Int} (ordered : times.Pairwise (· ≤ ·))
    (low : Int) : (serve length limit none times).countP (Entry.within low (low + length)) ≤ 2 * limit := by
  induction times using List.reverseRecOn with
  | nil => exact Nat.zero_le _
  | append_singleton times time _ =>
    have bounded : ∀ other ∈ times ++ [time],other ≤ time := by
      intro other member
      rcases List.mem_append.mp member with front | same
      · exact (List.pairwise_append.mp ordered).2.2 other front time (List.mem_singleton_self _)
      · exact Int.le_of_eq (List.mem_singleton.mp same)
    exact (serve_kept positive least _ ordered bounded).sliding low

-- A request is refused only in a window that has admitted its limit.
theorem refused_full (positive : 0 < length) (least : 1 ≤ limit) {times : List Int} (ordered : (times ++ [now]).Pairwise (· ≤ ·))
    (refused : (grant length limit (left length limit none times) now).2 = false) :
    ∃ start,current length times = some start ∧ start ≤ now ∧ now < start + length ∧
      (serve length limit none times).countP (Entry.since start) = limit := by
  obtain ⟨front,_,before⟩ := List.pairwise_append.mp ordered
  have kept := serve_kept positive least times front fun time member => before time member now (List.mem_singleton_self _)
  have starts := left_current length limit times
  cases bucket : left length limit none times with
  | none => simp [bucket,grant] at refused
  | some window =>
    rw [bucket] at kept refused starts
    simp only [grant] at refused
    split at refused
    · cases refused
    · split at refused
      · rename_i running full
        refine ⟨window.resetAt - length,starts,kept.begun window rfl,by omega,?_⟩
        rw [← kept.counted window rfl]
        exact Nat.le_antisymm (kept.bounded window rfl) full
      · cases refused

end Bound

end FixedWindow
