import SensorAlerting.Capacity

set_option autoImplicit false

/-!
The newest items of a list, its distinct ones, and those that no later step has dropped. Keeping
the newest items again and again as a list grows keeps those of the whole list. Before that, what a
result tells of the parts that led to it.
-/

namespace SensorAlerting

variable {Item Other : Type}

section Results

variable {Fault Reason : Type} {outcome : Except Fault Item}

theorem ok_of_bind {next : Item -> Except Fault Other} {result : Other}
    (ended : outcome >>= next = .ok result) :
    ∃ item, outcome = .ok item ∧ next item = .ok result := by
  cases outcome with
  | ok item => exact ⟨item, rfl, ended⟩
  | error fault => cases ended

theorem ok_of_map {image : Item -> Other} {result : Other}
    (ended : outcome.map image = .ok result) :
    ∃ item, outcome = .ok item ∧ result = image item := by
  cases outcome with
  | ok item => exact ⟨item, rfl, (Except.ok.inj ended).symm⟩
  | error fault => cases ended

theorem ok_of_mapError {change : Fault -> Reason} {item : Item}
    (ended : outcome.mapError change = .ok item) : outcome = .ok item := by
  cases outcome with
  | ok other => exact congrArg Except.ok (Except.ok.inj ended)
  | error fault => cases ended

theorem exists_ok_bind {next : Item -> Except Fault Other} {condition : Prop}
    (later : ∀ item, (∃ result, next item = .ok result) ↔ condition) :
    (∃ result, outcome >>= next = .ok result) ↔ (∃ item, outcome = .ok item) ∧ condition := by
  cases outcome with
  | ok item => simpa [bind, Except.bind] using later item
  | error fault => simp [bind, Except.bind]

theorem exists_ok_map {image : Item -> Other} :
    (∃ result, outcome.map image = .ok result) ↔ ∃ item, outcome = .ok item := by
  cases outcome <;> simp [Except.map]

theorem exists_ok_mapError {change : Fault -> Reason} :
    (∃ item, outcome.mapError change = .ok item) ↔ ∃ item, outcome = .ok item := by
  cases outcome with
  | ok item => exact iff_of_true ⟨item, rfl⟩ ⟨item, rfl⟩
  | error fault => exact iff_of_false nofun nofun

theorem ok_of_toOption {item : Item} (found : outcome.toOption = some item) :
    outcome = .ok item := by
  cases outcome with
  | ok other => exact congrArg Except.ok (Option.some.inj found)
  | error fault => cases found

end Results

theorem length_lastItems (count : Nat) (items : List Item) :
    (lastItems count items).length = min count items.length := by
  simp only [lastItems, List.length_drop]
  omega

theorem lastItems_of_length_le {count : Nat} {items : List Item} (few : items.length <= count) :
    lastItems count items = items := by
  have none : items.length - count = 0 := by omega
  simp [lastItems, none]

theorem mem_of_mem_lastItems {count : Nat} {items : List Item} {item : Item}
    (member : item ∈ lastItems count items) : item ∈ items := List.mem_of_mem_drop member

theorem lastItems_length (older newer : List Item) :
    lastItems newer.length (older ++ newer) = newer := by
  simp [lastItems]

theorem lastItems_append (count : Nat) (older newer : List Item) :
    lastItems count (older ++ newer) =
      lastItems (count - newer.length) older ++ lastItems count newer := by
  have fromNewer : older.length + newer.length - count - older.length = newer.length - count := by
    omega
  have fromOlder : older.drop (older.length + newer.length - count) =
      older.drop (older.length - (count - newer.length)) := by
    by_cases room : newer.length <= count
    next =>
      have same : older.length + newer.length - count =
          older.length - (count - newer.length) := by omega
      rw [same]
    next =>
      rw [List.drop_of_length_le (by omega), List.drop_of_length_le (by omega)]
  simp only [lastItems, List.length_append, List.drop_append, fromOlder, fromNewer]

theorem lastItems_lastItems (few many : Nat) (items : List Item) :
    lastItems few (lastItems many items) = lastItems (min few many) items := by
  have skipped : items.length - many + ((lastItems many items).length - few) =
      items.length - min few many := by
    rw [length_lastItems]
    omega
  simp only [lastItems, List.drop_drop] at skipped ⊢
  rw [skipped]

theorem lastItems_grown (count : Nat) (items more : List Item) :
    lastItems count (lastItems count items ++ more) = lastItems count (items ++ more) := by
  rw [lastItems_append, lastItems_append, lastItems_lastItems,
    Nat.min_eq_left (Nat.sub_le count more.length)]

theorem keepNewest_grown (bound : Bound) (items more : List Item) :
    keepNewest bound (keepNewest bound items ++ more) = keepNewest bound (items ++ more) := by
  cases bound with
  | none => rfl
  | some capacity => exact lastItems_grown capacity items more

theorem map_lastItems (image : Item -> Other) (count : Nat) (items : List Item) :
    (lastItems count items).map image = lastItems count (items.map image) := by
  simp [lastItems, List.map_drop]

theorem length_of_mapM {Fault : Type} {read : Item -> Except Fault Other} {items : List Item}
    {results : List Other} (all : items.mapM read = .ok results) :
    results.length = items.length := by
  induction items generalizing results with
  | nil =>
    obtain rfl : [] = results := Except.ok.inj all
    rfl
  | cons item rest ih =>
    rw [List.mapM_cons] at all
    cases first : read item with
    | error fault => simp [first, bind, Except.bind] at all
    | ok result =>
      cases later : rest.mapM read with
      | error fault => simp [first, later, bind, Except.bind] at all
      | ok others =>
        obtain rfl : result :: others = results := by
          simpa [first, later, bind, Except.bind, pure, Except.pure] using all
        simp [ih later]

section Distinct

def addNew [BEq Item] (seen : List Item) (item : Item) : List Item :=
  if seen.contains item then seen else seen ++ [item]

variable [BEq Item] [LawfulBEq Item]

theorem addNew_spec {seen : List Item} (unique : seen.Nodup) (item : Item) :
    (addNew seen item).Nodup ∧ ∀ other, other ∈ addNew seen item ↔ other ∈ seen ∨ other = item := by
  by_cases known : item ∈ seen
  next =>
    have same : addNew seen item = seen := if_pos (List.contains_iff_mem.mpr known)
    rw [same]
    refine ⟨unique, fun other => ⟨.inl, ?_⟩⟩
    rintro (member | rfl)
    next => exact member
    next => exact known
  next =>
    have grown : addNew seen item = seen ++ [item] :=
      if_neg (fun contained => known (List.contains_iff_mem.mp contained))
    rw [grown]
    refine ⟨List.nodup_append.mpr ⟨unique, by simp, ?_⟩, by simp⟩
    intro other member last single same
    rw [List.mem_singleton.mp single] at same
    exact known (same ▸ member)

theorem addNew_cons {first item : Item} (apart : first ≠ item) (seen : List Item) :
    addNew (first :: seen) item = first :: addNew seen item := by
  by_cases known : item ∈ seen <;> simp [addNew, known, apart.symm]

theorem foldl_addNew_spec {seen items : List Item} (unique : seen.Nodup) :
    (items.foldl addNew seen).Nodup ∧
      ∀ item, item ∈ items.foldl addNew seen ↔ item ∈ seen ∨ item ∈ items := by
  induction items generalizing seen with
  | nil => simpa using unique
  | cons first rest ih =>
    obtain ⟨grown, members⟩ := addNew_spec unique first
    obtain ⟨final, all⟩ := ih grown
    refine ⟨final, fun item => ?_⟩
    rw [List.foldl_cons, all item, members item, List.mem_cons, or_assoc]

theorem nodup_distinct (items : List Item) : (distinct items).Nodup :=
  (foldl_addNew_spec List.nodup_nil).1

@[simp]
theorem mem_distinct {items : List Item} {item : Item} :
    item ∈ distinct items ↔ item ∈ items := by
  have all : item ∈ distinct items ↔ item ∈ [] ∨ item ∈ items :=
    (foldl_addNew_spec List.nodup_nil).2 item
  exact all.trans (by simp)

omit [LawfulBEq Item] in
theorem length_foldl_addNew_le (seen items : List Item) :
    (items.foldl addNew seen).length <= seen.length + items.length := by
  induction items generalizing seen with
  | nil => simp
  | cons first rest ih =>
    have one : (addNew seen first).length <= seen.length + 1 := by
      unfold addNew
      split <;> simp
    have all := ih (addNew seen first)
    rw [List.foldl_cons, List.length_cons]
    omega

omit [LawfulBEq Item] in
theorem length_distinct_le (items : List Item) : (distinct items).length <= items.length := by
  have all : (distinct items).length <= [].length + items.length := length_foldl_addNew_le [] items
  simpa using all

theorem foldl_addNew_filter (keep : Item -> Bool) (seen items : List Item) :
    (items.filter keep).foldl addNew (seen.filter keep) =
      (items.foldl addNew seen).filter keep := by
  induction items generalizing seen with
  | nil => rfl
  | cons first rest ih =>
    have one : (addNew seen first).filter keep =
        if keep first then addNew (seen.filter keep) first else seen.filter keep := by
      by_cases known : first ∈ seen <;> cases kept : keep first <;>
        simp [addNew, known, kept]
    rw [List.foldl_cons, <- ih, one]
    cases kept : keep first <;> simp [kept]

theorem distinct_filter (keep : Item -> Bool) (items : List Item) :
    distinct (items.filter keep) = (distinct items).filter keep :=
  foldl_addNew_filter keep [] items

omit [LawfulBEq Item] in
theorem distinct_append (items more : List Item) :
    distinct (items ++ more) = more.foldl addNew (distinct items) := List.foldl_append

theorem two_le_length_distinct {items : List Item} :
    2 <= (distinct items).length ↔ ∃ first ∈ items, ∃ second ∈ items, first ≠ second := by
  have unique := nodup_distinct items
  have known : ∀ item, item ∈ distinct items ↔ item ∈ items := fun _ => mem_distinct
  constructor
  next =>
    intro several
    match listed : distinct items with
    | first :: second :: rest =>
      rw [listed] at unique known
      have apart : first ≠ second := by
        intro same
        simp [same] at unique
      exact ⟨first, (known first).mp (by simp), second, (known second).mp (by simp), apart⟩
    | [_] | [] => simp [listed] at several
  next =>
    rintro ⟨first, firstIn, second, secondIn, apart⟩
    match listed : distinct items with
    | _ :: _ :: _ => simp
    | [only] =>
      rw [<- known, listed, List.mem_singleton] at firstIn secondIn
      exact absurd (firstIn.trans secondIn.symm) apart
    | [] =>
      rw [<- known, listed] at firstIn
      cases firstIn

end Distinct

section Remaining

variable {Step : Type}

/-- The items of the steps that bring one, but for items that a later step drops. -/
def remaining (item? : Step -> Option Item) (drops : Item -> Step -> Bool) : List Step -> List Item
  | [] => []
  | step :: later =>
    match item? step with
    | some item =>
      if later.any (drops item) then remaining item? drops later
      else item :: remaining item? drops later
    | none => remaining item? drops later

theorem remaining_snoc (item? : Step -> Option Item) (drops : Item -> Step -> Bool)
    (steps : List Step) (step : Step) :
    remaining item? drops (steps ++ [step]) =
      (remaining item? drops steps).filter (fun item => !drops item step) ++
        (item? step).toList := by
  -- From the oldest step on: whether an item is still there is told by all that came later.
  induction steps with
  | nil => cases brought : item? step <;> simp [remaining, brought]
  | cons first later ih =>
    cases brought : item? first with
    | none => simpa [remaining, brought] using ih
    | some item =>
      cases gone : later.any (drops item) <;> cases goes : drops item step <;>
        simp [remaining, brought, gone, goes, ih]

end Remaining

end SensorAlerting
