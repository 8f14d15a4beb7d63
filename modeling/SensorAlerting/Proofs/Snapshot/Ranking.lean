import SensorAlerting.Proofs.Items
import SensorAlerting.Snapshot.Database

set_option autoImplicit false

/-!
Ranked sets in the order of score and text. A set that is cut down to its last members each time one
is added holds the last of all members ever added, whether a member is new, is in the set, or had
been cut off before.
-/

namespace SensorAlerting.Snapshot

open Database

section Order

variable {first second third : Ranked}

theorem isBefore_iff : isBefore first second = true ↔
    first.score < second.score ∨ first.score = second.score ∧ first.member < second.member := by
  simp [isBefore]

theorem isBefore_irrefl (item : Ranked) : isBefore item item = false := by
  rw [Bool.eq_false_iff, Ne, isBefore_iff]
  rintro (below | ⟨-, below⟩)
  next => exact Int.lt_irrefl _ below
  next => exact String.lt_irrefl _ below

theorem isBefore_trans (left : isBefore first second = true)
    (right : isBefore second third = true) : isBefore first third = true := by
  rw [isBefore_iff] at left right ⊢
  rcases left with below | ⟨same, below⟩ <;> rcases right with above | ⟨equal, above⟩
  next => exact .inl (Int.lt_trans below above)
  next => exact .inl (equal ▸ below)
  next => exact .inl (same ▸ above)
  next => exact .inr ⟨same.trans equal, String.lt_trans below above⟩

theorem isBefore_total (other : first ≠ second) :
    isBefore first second = true ∨ isBefore second first = true := by
  rw [isBefore_iff, isBefore_iff]
  rcases Int.lt_trichotomy first.score second.score with below | same | above
  next => exact .inl (.inl below)
  next =>
    by_cases before : first.member < second.member
    next => exact .inl (.inr ⟨same, before⟩)
    by_cases after : second.member < first.member
    next => exact .inr (.inr ⟨same.symm, after⟩)
    have equal := String.le_antisymm (String.not_lt.mp after) (String.not_lt.mp before)
    exact absurd (by cases first; cases second; cases same; cases equal; rfl) other
  next => exact .inr (.inl above)

end Order

section Ordered

def Ordered (items : List Ranked) : Prop :=
  items.Pairwise fun left right => isBefore left right = true

variable {items others : List Ranked} {item other : Ranked}

theorem Ordered.nodup (ordered : Ordered items) : items.Nodup := by
  refine List.Pairwise.imp (fun before => ?_) ordered
  rintro rfl
  rw [isBefore_irrefl] at before
  cases before

theorem Ordered.eq (ordered : Ordered items) (orderedToo : Ordered others)
    (same : ∀ item, item ∈ items ↔ item ∈ others) : items = others := by
  have perm := (List.perm_ext_iff_of_nodup ordered.nodup orderedToo.nodup).mpr same
  refine perm.eq_of_pairwise (fun left right _ _ before after => ?_) ordered orderedToo
  have around := isBefore_trans before after
  rw [isBefore_irrefl] at around
  cases around

theorem mem_insertRanked : other ∈ insertRanked item items ↔ other = item ∨ other ∈ items := by
  induction items with
  | nil => simp [insertRanked]
  | cons first rest ih =>
    unfold insertRanked
    split
    next => exact List.mem_cons
    next => rw [List.mem_cons, ih, List.mem_cons, or_left_comm]

theorem ordered_insertRanked (ordered : Ordered items) (fresh : item ∉ items) :
    Ordered (insertRanked item items) := by
  induction items with
  | nil => exact List.pairwise_singleton _ _
  | cons first rest ih =>
    obtain ⟨early, later⟩ := List.pairwise_cons.mp ordered
    obtain ⟨apart, freshToo⟩ := not_or.mp (mt List.mem_cons.mpr fresh)
    unfold insertRanked
    split
    next before =>
      refine List.pairwise_cons.mpr ⟨fun other member => ?_, ordered⟩
      rcases List.mem_cons.mp member with rfl | member
      next => exact before
      next => exact isBefore_trans before (early other member)
    next notBefore =>
      refine List.pairwise_cons.mpr ⟨fun other member => ?_, ih later freshToo⟩
      rcases mem_insertRanked.mp member with rfl | member
      next => exact (isBefore_total apart).resolve_left notBefore
      next => exact early other member

theorem insertRanked_append_of_isBefore (before : isBefore item other = true)
    (items rest : List Ranked) :
    insertRanked item (items ++ other :: rest) = insertRanked item items ++ other :: rest := by
  induction items with
  | nil => simp [insertRanked, before]
  | cons first items ih =>
    rw [List.cons_append, insertRanked, insertRanked]
    split
    next => rfl
    next => rw [ih, List.cons_append]

theorem insertRanked_append_of_all (after : ∀ other ∈ items, isBefore item other = false)
    (rest : List Ranked) : insertRanked item (items ++ rest) = items ++ insertRanked item rest := by
  induction items with
  | nil => rfl
  | cons first items ih =>
    obtain ⟨early, later⟩ := List.forall_mem_cons.mp after
    rw [List.cons_append, insertRanked, early, ih later]
    rfl

end Ordered

section Added

/-- The text of an item tells its score. -/
def Consistent (items : List Ranked) : Prop :=
  ∀ left ∈ items, ∀ right ∈ items, left.member = right.member -> left = right

variable {items : List Ranked} {item other : Ranked}

theorem mem_addTo : other ∈ addTo item items ↔
    other = item ∨ other ∈ items ∧ other.member ≠ item.member := by
  simp [addTo, mem_insertRanked]

theorem ordered_addTo (ordered : Ordered items) : Ordered (addTo item items) := by
  refine ordered_insertRanked (ordered.sublist List.filter_sublist) fun member => ?_
  simpa using (List.mem_filter.mp member).2

theorem mem_addTo_of_consistent (consistent : Consistent (item :: items)) :
    other ∈ addTo item items ↔ other = item ∨ other ∈ items := by
  rw [mem_addTo]
  constructor
  next => exact Or.imp_right And.left
  next =>
    rintro (same | member)
    next => exact .inl same
    by_cases equal : other.member = item.member
    next =>
      exact .inl (consistent other (List.mem_cons_of_mem _ member) item List.mem_cons_self equal)
    next => exact .inr ⟨member, equal⟩

theorem addTo_of_mem (consistent : Consistent (item :: items)) (ordered : Ordered items)
    (member : item ∈ items) : addTo item items = items := by
  refine (ordered_addTo ordered).eq ordered fun other => ?_
  rw [mem_addTo_of_consistent consistent]
  exact or_iff_right_of_imp fun same => same ▸ member

theorem addTo_of_not_mem (consistent : Consistent (item :: items)) (ordered : Ordered items)
    (fresh : item ∉ items) : addTo item items = insertRanked item items := by
  refine (ordered_addTo ordered).eq (ordered_insertRanked ordered fresh) fun other => ?_
  rw [mem_addTo_of_consistent consistent, mem_insertRanked]

theorem Consistent.mono {others : List Ranked} (consistent : Consistent items)
    (within : ∀ other ∈ others, other ∈ items) : Consistent others :=
  fun left first right second => consistent left (within left first) right (within right second)

theorem length_insertRanked (item : Ranked) (items : List Ranked) :
    (insertRanked item items).length = items.length + 1 := by
  induction items with
  | nil => rfl
  | cons first rest ih =>
    unfold insertRanked
    split
    next => rfl
    next => rw [List.length_cons, ih, List.length_cons]

theorem lastItems_insertRanked_of_isBefore {newer : List Ranked}
    (before : ∀ other ∈ newer.head?, isBefore item other = true) (older : List Ranked) :
    lastItems newer.length (insertRanked item (older ++ newer)) = newer := by
  cases newer with
  | nil => simp [lastItems]
  | cons first rest =>
    rw [insertRanked_append_of_isBefore (before first rfl), lastItems_length]

theorem lastItems_insertRanked {older newer : List Ranked} (ordered : Ordered (older ++ newer))
    (fresh : item ∉ older ++ newer) :
    lastItems newer.length (insertRanked item newer) =
      lastItems newer.length (insertRanked item (older ++ newer)) := by
  by_cases before : ∀ other ∈ newer.head?, isBefore item other = true
  next =>
    rw [lastItems_insertRanked_of_isBefore before older]
    exact lastItems_insertRanked_of_isBefore before []
  next =>
    have after : ∀ other ∈ older, isBefore item other = false := by
      intro other member
      cases newer with
      | nil => exact absurd (fun _ none => by cases none) before
      | cons first rest =>
        refine Bool.eq_false_iff.mpr fun early => before fun head found => ?_
        obtain rfl := Option.some.inj found
        have sorted := (List.pairwise_append.mp ordered).2.2 other member first List.mem_cons_self
        exact isBefore_trans early sorted
    have many : newer.length <= (insertRanked item newer).length := by
      rw [length_insertRanked]
      exact Nat.le_succ _
    rw [insertRanked_append_of_all after, lastItems_append, Nat.sub_eq_zero_of_le many]
    simp [lastItems]

theorem lastItems_addTo (count : Nat) (consistent : Consistent (item :: items))
    (ordered : Ordered items) :
    lastItems count (addTo item (lastItems count items)) = lastItems count (addTo item items) := by
  by_cases few : items.length <= count
  next => rw [lastItems_of_length_le few]
  obtain ⟨older, newer, rfl, rfl⟩ :
      ∃ older newer, items = older ++ newer ∧ count = newer.length := by
    refine ⟨items.take (items.length - count), items.drop (items.length - count),
      (List.take_append_drop _ _).symm, ?_⟩
    rw [List.length_drop]
    omega
  have newerOrdered : Ordered newer := ordered.sublist (List.sublist_append_right _ _)
  have newerConsistent : Consistent (item :: newer) := by
    refine consistent.mono fun other member => ?_
    exact (List.mem_cons.mp member).elim (fun same => same ▸ List.mem_cons_self)
      fun later => List.mem_cons_of_mem _ (List.mem_append_right _ later)
  rw [lastItems_length]
  by_cases among : item ∈ newer
  next =>
    rw [addTo_of_mem newerConsistent newerOrdered among,
      addTo_of_mem consistent ordered (List.mem_append_right _ among), lastItems_length,
      lastItems_of_length_le (Nat.le_refl _)]
  rw [addTo_of_not_mem newerConsistent newerOrdered among]
  by_cases cut : item ∈ older
  next =>
    rw [addTo_of_mem consistent ordered (List.mem_append_left _ cut), lastItems_length]
    refine lastItems_insertRanked_of_isBefore (fun first head => ?_) []
    exact (List.pairwise_append.mp ordered).2.2 item cut first (List.mem_of_mem_head? head)
  next =>
    have fresh : item ∉ older ++ newer := fun member => (List.mem_append.mp member).elim cut among
    rw [addTo_of_not_mem consistent ordered fresh, lastItems_insertRanked ordered fresh]

end Added

section Ranking

def ranking (items : List Ranked) : List Ranked :=
  (distinct items).mergeSort fun left right => !isBefore right left

theorem mem_ranking {items : List Ranked} {item : Ranked} :
    item ∈ ranking items ↔ item ∈ items := by
  rw [ranking, List.mem_mergeSort, mem_distinct]

theorem not_isBefore_trans {first second third : Ranked} (left : isBefore second first = false)
    (right : isBefore third second = false) : isBefore third first = false := by
  refine Bool.eq_false_iff.mpr fun early => ?_
  by_cases same : first = second
  next =>
    rw [same, right] at early
    cases early
  next =>
    have before := (isBefore_total same).resolve_right (by simp [left])
    have turned := isBefore_trans early before
    rw [right] at turned
    cases turned

theorem not_isBefore_total (first second : Ranked) :
    isBefore second first = false ∨ isBefore first second = false := by
  by_cases before : isBefore second first = true
  next =>
    refine .inr (Bool.eq_false_iff.mpr fun after => ?_)
    have around := isBefore_trans before after
    rw [isBefore_irrefl] at around
    cases around
  next => exact .inl (Bool.eq_false_iff.mpr before)

theorem ordered_ranking (items : List Ranked) : Ordered (ranking items) := by
  have sorted : (ranking items).Pairwise fun left right => (!isBefore right left) = true := by
    refine List.pairwise_mergeSort (fun first second third left right => ?_)
      (fun first second => ?_) (distinct items)
    next => simpa using not_isBefore_trans (by simpa using left) (by simpa using right)
    next => simpa using not_isBefore_total first second
  have unique : (ranking items).Nodup :=
    (List.mergeSort_perm _ _).nodup_iff.mpr (nodup_distinct items)
  refine sorted.imp₂ (fun left right notAfter apart => ?_) unique
  exact (isBefore_total apart).resolve_right (by simpa using notAfter)

variable {items : List Ranked} {item : Ranked}

theorem Consistent.ranking (consistent : Consistent (items ++ [item])) :
    Consistent (item :: ranking items) := by
  refine consistent.mono fun other member => ?_
  rw [List.mem_cons, mem_ranking] at member
  exact List.mem_append.mpr (member.symm.imp_right List.mem_singleton.mpr)

theorem ranking_snoc (consistent : Consistent (items ++ [item])) :
    ranking (items ++ [item]) = addTo item (ranking items) := by
  refine (ordered_ranking _).eq (ordered_addTo (ordered_ranking items)) fun other => ?_
  rw [mem_addTo_of_consistent consistent.ranking, mem_ranking, mem_ranking, List.mem_append,
    List.mem_singleton, or_comm]

/-- The last of all items so far need only the last of those before. -/
theorem lastItems_ranking_snoc (count : Nat) (consistent : Consistent (items ++ [item])) :
    lastItems count (addTo item (lastItems count (ranking items))) =
      lastItems count (ranking (items ++ [item])) := by
  rw [lastItems_addTo count consistent.ranking (ordered_ranking items), ranking_snoc consistent]

theorem nodup_members (consistent : Consistent items) (count : Nat) :
    ((lastItems count (ranking items)).map Ranked.member).Nodup := by
  have unique : (lastItems count (ranking items)).Nodup :=
    (ordered_ranking items).nodup.sublist (List.drop_sublist _ _)
  refine List.pairwise_map.mpr (unique.imp_of_mem fun first second apart same => apart ?_)
  exact consistent _ (mem_ranking.mp (mem_of_mem_lastItems first)) _
    (mem_ranking.mp (mem_of_mem_lastItems second)) same

end Ranking

theorem removeFrom_start {limit : Int} (notNegative : 0 <= limit) (items : List Ranked) :
    removeFrom 0 (-(limit + 1)) items = lastItems limit.toNat items := by
  have start : rankFrom items.length 0 = 0 := rfl
  have stop : rankFrom items.length (-(limit + 1)) = items.length - limit - 1 := by
    rw [rankFrom, if_pos (by omega)]
    omega
  unfold removeFrom
  simp only [start, stop, Int.toNat_zero]
  split
  next => rw [lastItems_of_length_le (by omega)]
  next =>
    have skipped : (items.length - limit - 1).toNat + 1 = items.length - limit.toNat := by omega
    rw [skipped, List.take_zero, List.nil_append, lastItems]

end SensorAlerting.Snapshot
