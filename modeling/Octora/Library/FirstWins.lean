import Mathlib.Data.List.Nodup

namespace FirstWins
variable {α κ : Type} [DecidableEq κ] (key : α → κ)

-- A table in which the first write of a key stays.
def put (table : List α) (entry : α) : List α :=
  if ∃ old ∈ table, key old = key entry then table else table ++ [entry]

def load (table entries : List α) : List α := entries.foldl (put key) table

variable {key}

theorem put_keeps (member : entry ∈ table) (new : α) : entry ∈ put key table new := by
  unfold put
  split
  · exact member
  · exact List.mem_append_left _ member

variable (key) in
theorem put_has (table : List α) (entry : α) : ∃ found ∈ put key table entry, key found = key entry := by
  unfold put
  split
  · rename_i present
    exact present
  · exact ⟨entry,by simp,rfl⟩

theorem mem_put (member : entry ∈ put key table new) :
    entry ∈ table ∨ (entry = new ∧ ∀ old ∈ table, key old ≠ key new) := by
  unfold put at member
  split at member
  · exact .inl member
  · rename_i absent
    rcases List.mem_append.mp member with old | fresh
    · exact .inl old
    · exact .inr ⟨List.mem_singleton.mp fresh,fun old here same => absent ⟨old,here,same⟩⟩

theorem put_nodup (distinct : (table.map key).Nodup) (new : α) : ((put key table new).map key).Nodup := by
  unfold put
  split
  · exact distinct
  · rename_i absent
    rw [List.map_append]
    refine List.nodup_append'.mpr ⟨distinct,List.nodup_singleton _,?_⟩
    intro k old fresh
    obtain ⟨entry,here,same⟩ := List.mem_map.mp old
    exact absent ⟨entry,here,same.trans (List.mem_singleton.mp fresh)⟩

theorem load_keeps (member : entry ∈ table) (entries : List α) : entry ∈ load key table entries := by
  induction entries generalizing table with
  | nil => exact member
  | cons new rest ih => exact ih (put_keeps member new)

theorem load_nodup (distinct : (table.map key).Nodup) (entries : List α) : ((load key table entries).map key).Nodup := by
  induction entries generalizing table with
  | nil => exact distinct
  | cons new rest ih => exact ih (put_nodup distinct new)

-- A lookup in the table is a lookup in everything that was written to it.
theorem find_put (table : List α) (entry : α) (k : κ) :
    (put key table entry).find? (fun other => key other = k) = (table ++ [entry]).find? fun other => key other = k := by
  unfold put
  split
  · rename_i present
    obtain ⟨old,here,same⟩ := present
    rw [List.find?_append]
    match found : table.find? fun other => decide (key other = k) with
    | some _ => rfl
    | none =>
      have apart : key entry ≠ k := fun equal => by
        simpa [same.trans equal] using List.find?_eq_none.mp found old here
      simp [apart]
  · rfl

theorem find_load (table entries : List α) (k : κ) :
    (load key table entries).find? (fun other => key other = k) = (table ++ entries).find? fun other => key other = k := by
  induction entries generalizing table with
  | nil => rw [load,List.foldl_nil,List.append_nil]
  | cons new rest ih =>
    have next : load key table (new :: rest) = load key (put key table new) rest := rfl
    rw [next,ih,List.find?_append,find_put,← List.find?_append,List.append_assoc,List.singleton_append]

variable (key) in
theorem load_has (table : List α) {entries : List α} (member : entry ∈ entries) : ∃ found ∈ load key table entries, key found = key entry := by
  induction entries generalizing table with
  | nil => cases member
  | cons new rest ih =>
    rcases List.mem_cons.mp member with rfl | later
    · obtain ⟨found,here,same⟩ := put_has key table entry
      exact ⟨found,load_keeps here rest,same⟩
    · exact ih _ later

-- What a load leaves was there before, or is the first entry of a key that was not.
theorem load_first (member : entry ∈ load key table entries) : entry ∈ table ∨
    (entries.find? (fun other => key other = key entry) = some entry ∧ ∀ old ∈ table, key old ≠ key entry) := by
  induction entries generalizing table with
  | nil => exact .inl member
  | cons new rest ih =>
    rcases ih member with early | ⟨later,absent⟩
    · rcases mem_put early with old | ⟨rfl,absent⟩
      · exact .inl old
      · exact .inr ⟨by simp,absent⟩
    · obtain ⟨found,here,same⟩ := put_has key table new
      have other : key new ≠ key entry := fun equal => absent found here (same.trans equal)
      refine .inr ⟨by simp [other,later],fun old present => absent old (put_keeps present new)⟩

theorem load_found {table : List α} (first : entries.find? (fun other => key other = key entry) = some entry)
    (absent : ∀ old ∈ table, key old ≠ key entry) : entry ∈ load key table entries := by
  induction entries generalizing table with
  | nil => cases first
  | cons new rest ih =>
    rw [List.find?_cons] at first
    split at first
    · cases first
      have stored : entry ∈ put key table entry := by
        rw [put,if_neg fun ⟨old,here,same⟩ => absent old here same]
        simp
      exact load_keeps stored rest
    · rename_i other
      refine ih first fun old present => ?_
      rcases mem_put present with early | ⟨rfl,_⟩
      · exact absent old early
      · simpa using other

theorem filter_single {entries : List α} (distinct : (entries.map key).Nodup) (member : entry ∈ entries) :
    entries.filter (fun other => decide (key other = key entry)) = [entry] := by
  induction entries with
  | nil => cases member
  | cons first rest ih =>
    obtain ⟨fresh,later⟩ := List.nodup_cons.mp distinct
    rcases List.mem_cons.mp member with rfl | inside
    · have none : rest.filter (fun other => decide (key other = key entry)) = [] := by
        apply List.filter_eq_nil_iff.mpr
        intro other here same
        exact fresh (of_decide_eq_true same ▸ List.mem_map_of_mem here)
      rw [List.filter_cons,if_pos (by simp),none]
    · have apart : ¬key first = key entry := fun same => fresh (same ▸ List.mem_map_of_mem inside)
      rw [List.filter_cons,if_neg (by simpa using apart),ih later inside]

end FirstWins
