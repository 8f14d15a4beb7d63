set_option autoImplicit false

namespace SensorAlerting.Time

variable {Item : Type} {time? : Item -> Option Int} {since : Int} {item : Item}
  {first rest : List Item}

/-- Whatever looks at the clock sees no earlier time than what looked at it before. -/
def InOrder (time? : Item -> Option Int) (items : List Item) : Prop :=
  (items.filterMap time?).Pairwise (· <= ·)

structure Onward (time? : Item -> Option Int) (since : Int) (items : List Item) : Prop where
  ordered : InOrder time? items
  reached : ∀ time ∈ items.filterMap time?, since <= time

theorem InOrder.onward {items : List Item} (ordered : InOrder time? items) :
    ∃ since, Onward time? since items := by
  cases times : items.filterMap time? with
  | nil => exact ⟨0, ordered, by simp [times]⟩
  | cons first rest =>
    have pairs := ordered
    simp only [InOrder, times, List.pairwise_cons] at pairs
    exact ⟨first, ordered, by simpa [times] using pairs.1⟩

namespace Onward

theorem head (onward : Onward time? since (item :: rest)) :
    ∀ time ∈ time? item, since <= time := by
  intro time shown
  exact onward.reached time (List.mem_filterMap.mpr ⟨item, by simp, shown⟩)

theorem head_le (onward : Onward time? since (item :: rest)) :
    since <= (time? item).getD since := by
  cases shows : time? item with
  | none => exact Int.le_refl _
  | some time => exact onward.head time shows

theorem tail (onward : Onward time? since (item :: rest)) :
    Onward time? ((time? item).getD since) rest := by
  obtain ⟨ordered, reached⟩ := onward
  cases shows : time? item with
  | none =>
    simp only [InOrder, List.filterMap_cons, shows] at ordered reached
    exact ⟨ordered, reached⟩
  | some time =>
    simp only [InOrder, List.filterMap_cons, shows, List.pairwise_cons] at ordered
    exact ⟨ordered.2, ordered.1⟩

end Onward

end SensorAlerting.Time
