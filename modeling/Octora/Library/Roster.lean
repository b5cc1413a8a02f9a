import Mathlib.Data.List.Count

namespace Roster

-- Where one member of a roster changes and the others keep what is counted, the
-- count changes by that member alone.
theorem countP_replaced {α : Type} {counted : α → Bool} {others : α → α} (kept : ∀ item, counted (others item) = counted item)
    (before after : List α) (item item' : α) :
    (before.map others ++ item' :: after.map others).countP counted + (if counted item then 1 else 0) =
      (before ++ item :: after).countP counted + if counted item' then 1 else 0 := by
  have same : ∀ items : List α, (items.map others).countP counted = items.countP counted := by
    intro items
    rw [List.countP_map]
    exact List.countP_congr fun item _ => by simp only [Function.comp_apply,kept]
  simp only [List.countP_append,List.countP_cons,same]
  omega

theorem countP_fewer {α : Type} {counted : α → Bool} {change : α → α} (less : ∀ item, counted (change item) = true → counted item = true)
    (items : List α) : (items.map change).countP counted ≤ items.countP counted := by
  rw [List.countP_map]
  exact List.countP_mono_left fun item _ => less item

theorem forall_replaced {α : Type} {one two : α → Prop} {others : α → α} {before after : List α} {item item' : α}
    (kept : ∀ other, other ∈ before ∨ other ∈ after → one other → two (others other))
    (all : ∀ other ∈ before ++ item :: after, one other) (self : one item → two item') :
    ∀ other ∈ before.map others ++ item' :: after.map others, two other := by
  intro other inside
  rcases List.mem_append.mp inside with early | late
  · obtain ⟨prior,there,rfl⟩ := List.mem_map.mp early
    exact kept prior (.inl there) (all prior (List.mem_append_left _ there))
  · rcases List.mem_cons.mp late with rfl | later
    · exact self (all item (List.mem_append_right _ List.mem_cons_self))
    · obtain ⟨prior,there,rfl⟩ := List.mem_map.mp later
      exact kept prior (.inr there) (all prior (List.mem_append_right _ (List.mem_cons_of_mem _ there)))

-- Two members that are both counted.
theorem two_counted {α : Type} {counted : α → Bool} {before after : List α} {item other : α} (one : counted item = true)
    (two : counted other = true) (apart : other ∈ before ∨ other ∈ after) :
    2 ≤ (before ++ item :: after).countP counted := by
  have found : 1 ≤ before.countP counted + after.countP counted := by
    rcases apart with early | late
    · exact Nat.le_trans (List.countP_pos_iff.mpr ⟨other,early,two⟩) (Nat.le_add_right _ _)
    · exact Nat.le_trans (List.countP_pos_iff.mpr ⟨other,late,two⟩) (Nat.le_add_left _ _)
  rw [List.countP_append,List.countP_cons,if_pos one]
  omega

end Roster
