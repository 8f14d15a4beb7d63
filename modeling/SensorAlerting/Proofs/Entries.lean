import SensorAlerting.Entries
import SensorAlerting.Proofs.Items

set_option autoImplicit false

/-!
Looking up keyed entries after they were changed. Where no key occurs twice, dropping entries drops
what is found under their keys and nothing else, and what is found tells the entries but for their
order.
-/

namespace SensorAlerting.Entries

variable {Key Item : Type} [BEq Key] [LawfulBEq Key]

def Distinct (entries : Entries Key Item) : Prop := (keys entries).Nodup

omit [LawfulBEq Key] in
@[simp]
theorem get?_nil (key : Key) : get? ([] : Entries Key Item) key = none := rfl

omit [LawfulBEq Key] in
theorem get?_cons (entry : Key × Item) (rest : Entries Key Item) (key : Key) :
    get? (entry :: rest) key = if entry.1 == key then some entry.2 else get? rest key := by
  cases same : entry.1 == key <;> simp [get?, same]

@[simp]
theorem get?_put_same (entries : Entries Key Item) (key : Key) (item : Item) :
    get? (put entries key item) key = some item := by
  induction entries with
  | nil => simp [put, get?_cons]
  | cons entry rest ih =>
    cases same : entry.1 == key <;> simp [put, get?_cons, same, ih]

theorem get?_put_other (entries : Entries Key Item) (item : Item) {key other : Key}
    (different : key ≠ other) : get? (put entries key item) other = get? entries other := by
  induction entries with
  | nil => simp [put, get?_cons, different]
  | cons entry rest ih =>
    cases same : entry.1 == key with
    | false => simp [put, get?_cons, same, ih]
    | true =>
      have away : (entry.1 == other) = false := by
        rw [eq_of_beq same]
        exact beq_false_of_ne different
      simp [put, get?_cons, same, away]

theorem get?_eq_none {entries : Entries Key Item} {key : Key} :
    get? entries key = none ↔ key ∉ keys entries := by
  simp only [get?, Option.map_eq_none_iff, List.find?_eq_none, keys, List.mem_map, not_exists,
    not_and]
  constructor
  next =>
    rintro noneFound entry member rfl
    exact noneFound entry member (beq_self_eq_true _)
  next =>
    intro absent entry member found
    exact absent entry member (eq_of_beq found)

theorem mem_keys_of_get? {entries : Entries Key Item} {key : Key} {item : Item}
    (found : get? entries key = some item) : key ∈ keys entries := by
  refine Classical.byContradiction fun absent => ?_
  rw [get?_eq_none.mpr absent] at found
  cases found

theorem mem_of_get? {entries : Entries Key Item} {key : Key} {item : Item}
    (found : get? entries key = some item) : (key, item) ∈ entries := by
  induction entries with
  | nil => cases found
  | cons entry rest ih =>
    rw [get?_cons] at found
    split at found
    next same =>
      obtain rfl := eq_of_beq same
      obtain rfl := Option.some.inj found
      exact List.mem_cons_self
    next => exact List.mem_cons_of_mem entry (ih found)

theorem get?_of_mem {entries : Entries Key Item} (distinct : Distinct entries) {key : Key}
    {item : Item} (member : (key, item) ∈ entries) : get? entries key = some item := by
  induction entries with
  | nil => cases member
  | cons entry rest ih =>
    obtain ⟨fresh, later⟩ := List.nodup_cons.mp distinct
    cases List.mem_cons.mp member with
    | inl first => simp [get?_cons, <- first]
    | inr member =>
      have away : (entry.1 == key) = false := by
        refine beq_false_of_ne ?_
        rintro rfl
        exact fresh (List.mem_map.mpr ⟨(entry.1, item), member, rfl⟩)
      simp [get?_cons, away, ih later member]

theorem get?_filter {entries : Entries Key Item} (distinct : Distinct entries)
    (keep : Key × Item -> Bool) (key : Key) :
    get? (entries.filter keep) key = (get? entries key).filter fun item => keep (key, item) := by
  induction entries with
  | nil => rfl
  | cons entry rest ih =>
    obtain ⟨fresh, later⟩ := List.nodup_cons.mp distinct
    obtain ⟨first, item⟩ := entry
    cases same : first == key with
    | false => cases kept : keep (first, item) <;> simp [get?_cons, kept, same, ih later]
    | true =>
      obtain rfl := eq_of_beq same
      -- The key occurs nowhere else, so a dropped entry uncovers none below it.
      have below : get? rest first = none := get?_eq_none.mpr fresh
      cases kept : keep (first, item) <;> simp [get?_cons, kept, ih later, below, Option.filter]

omit [BEq Key] [LawfulBEq Key] in
theorem Distinct.filter {entries : Entries Key Item} (distinct : Distinct entries)
    (keep : Key × Item -> Bool) : Distinct (entries.filter keep) :=
  List.Nodup.sublist (List.filter_sublist.map Prod.fst) distinct

theorem put_fresh {entries : Entries Key Item} {key : Key} (fresh : key ∉ keys entries)
    (item : Item) : put entries key item = entries ++ [(key, item)] := by
  induction entries with
  | nil => rfl
  | cons entry rest ih =>
    simp only [keys, List.map_cons, List.mem_cons, not_or] at fresh ih
    have apart : (entry.1 == key) = false := beq_false_of_ne (Ne.symm fresh.1)
    simp [put, apart, ih fresh.2]

theorem mem_keys_put {entries : Entries Key Item} {key other : Key} {item : Item} :
    other ∈ keys (put entries key item) ↔ other = key ∨ other ∈ keys entries := by
  induction entries with
  | nil => simp [put, keys]
  | cons entry rest ih =>
    cases same : entry.1 == key with
    | false =>
      simp only [keys, put, same, Bool.false_eq_true, if_false, List.map_cons, List.mem_cons]
        at ih ⊢
      rw [ih]
      exact or_left_comm
    | true => simp [put, keys, eq_of_beq same]

theorem keys_put (entries : Entries Key Item) (key : Key) (item : Item) :
    keys (put entries key item) = addNew (keys entries) key := by
  induction entries with
  | nil => rfl
  | cons entry rest ih =>
    cases same : entry.1 == key with
    | true => simp [put, keys, addNew, eq_of_beq same]
    | false =>
      have apart : entry.1 ≠ key := ne_of_beq_false same
      calc keys (put (entry :: rest) key item)
          = entry.1 :: keys (put rest key item) := by simp [put, keys, same]
        _ = entry.1 :: addNew (keys rest) key := by rw [ih]
        _ = addNew (keys (entry :: rest)) key := (addNew_cons apart (keys rest)).symm

omit [LawfulBEq Key] in
theorem keys_remove (entries : Entries Key Item) (key : Key) :
    keys (remove entries key) = (keys entries).filter fun other => !(other == key) := by
  simp [keys, remove, List.filter_map, Function.comp_def]

theorem mem_put {entries : Entries Key Item} {key : Key} {item : Item} {entry : Key × Item}
    (member : entry ∈ put entries key item) : entry = (key, item) ∨ entry ∈ entries := by
  induction entries with
  | nil => simpa [put] using member
  | cons first rest ih =>
    cases same : first.1 == key with
    | true =>
      rw [put, same, if_pos rfl, eq_of_beq same] at member
      exact (List.mem_cons.mp member).imp_right (List.mem_cons_of_mem first)
    | false =>
      simp only [put, same, Bool.false_eq_true, if_false, List.mem_cons] at member ⊢
      exact member.elim (.inr ∘ .inl) fun later => (ih later).imp_right .inr

theorem filter_put {keep : Key -> Bool} {key : Key} (dropped : keep key = false)
    (entries : Entries Key Item) (item : Item) :
    (put entries key item).filter (fun entry => keep entry.1) =
      entries.filter fun entry => keep entry.1 := by
  induction entries with
  | nil => simp [put, dropped]
  | cons entry rest ih =>
    cases same : entry.1 == key with
    | true => simp [put, eq_of_beq same, dropped]
    | false => simp [put, same, List.filter_cons, ih]

theorem Distinct.put {entries : Entries Key Item} (distinct : Distinct entries) (key : Key)
    (item : Item) : Distinct (put entries key item) := by
  induction entries with
  | nil => simp [Distinct, keys, Entries.put]
  | cons entry rest ih =>
    obtain ⟨fresh, later⟩ := List.nodup_cons.mp distinct
    cases same : entry.1 == key with
    | true => simpa [Distinct, keys, Entries.put, same] using And.intro fresh later
    | false =>
      have away : entry.1 ∉ keys (Entries.put rest key item) := by
        rw [mem_keys_put]
        rintro (rfl | member)
        · simp at same
        · exact fresh member
      simpa [Distinct, keys, Entries.put, same] using And.intro away (ih later)

theorem get?_remove (entries : Entries Key Item) (key other : Key) :
    get? (remove entries key) other = if key == other then none else get? entries other := by
  induction entries with
  | nil => simp [remove]
  | cons entry rest ih =>
    cases dropped : entry.1 == key with
    | true =>
      obtain rfl := eq_of_beq dropped
      have same : remove (entry :: rest) entry.1 = remove rest entry.1 := by simp [remove]
      rw [same, ih, get?_cons]
      cases entry.1 == other <;> simp
    | false =>
      have kept : remove (entry :: rest) key = entry :: remove rest key := by
        simp [remove, dropped]
      rw [kept, get?_cons, get?_cons, ih]
      cases found : entry.1 == other with
      | false => rfl
      | true =>
        obtain rfl := eq_of_beq found
        have away : (key == entry.1) = false := by rw [BEq.comm, dropped]
        simp [away]

omit [LawfulBEq Key] in
theorem Distinct.remove {entries : Entries Key Item} (distinct : Distinct entries) (key : Key) :
    Distinct (remove entries key) := distinct.filter _

omit [LawfulBEq Key] in
theorem get?_mapItems {Other : Type} (entries : Entries Key Item) (image : Item -> Other)
    (key : Key) :
    get? (entries.map fun entry => (entry.1, image entry.2)) key =
      (get? entries key).map image := by
  induction entries with
  | nil => rfl
  | cons entry rest ih => cases same : entry.1 == key <;> simp [get?_cons, same, ih]

omit [BEq Key] [LawfulBEq Key] in
theorem Distinct.mapItems {Other : Type} {entries : Entries Key Item}
    (distinct : Distinct entries) (image : Item -> Other) :
    Distinct (entries.map fun entry => (entry.1, image entry.2)) := by
  simpa [Distinct, keys, Function.comp_def] using distinct

omit [BEq Key] [LawfulBEq Key] in
theorem Distinct.fresh {before rest : Entries Key Item} {entry : Key × Item}
    (distinct : Distinct (before ++ entry :: rest)) : entry.1 ∉ keys before := by
  rw [Distinct, keys, List.map_append, List.nodup_append] at distinct
  exact fun twice => distinct.2.2 _ twice _ List.mem_cons_self rfl

theorem foldl_put_of_distinct {entries pairs : Entries Key Item}
    (distinct : Distinct (entries ++ pairs)) :
    pairs.foldl (fun entries pair => put entries pair.1 pair.2) entries = entries ++ pairs := by
  induction pairs generalizing entries with
  | nil => rw [List.foldl_nil, List.append_nil]
  | cons pair rest ih =>
    have split : entries ++ pair :: rest = entries ++ [pair] ++ rest := by simp
    have fresh := distinct.fresh
    rw [split] at distinct ⊢
    rw [List.foldl_cons, put_fresh fresh, ih distinct]

theorem ofPairs_of_distinct {pairs : Entries Key Item} (distinct : Distinct pairs) :
    ofPairs pairs = pairs := foldl_put_of_distinct distinct

section Order

variable {entries others : Entries Key Item}

omit [BEq Key] [LawfulBEq Key] in
theorem Distinct.perm (distinct : Distinct others) (perm : List.Perm entries others) :
    Distinct entries :=
  (perm.map Prod.fst).nodup_iff.mpr distinct

omit [BEq Key] [LawfulBEq Key] in
theorem Distinct.nodup (distinct : Distinct entries) : List.Nodup entries :=
  List.Pairwise.of_map Prod.fst (fun _ _ apart same => apart (congrArg Prod.fst same)) distinct

theorem get?_of_perm (distinct : Distinct others) (perm : List.Perm entries others) (key : Key) :
    get? entries key = get? others key := by
  cases found : get? others key with
  | none =>
    have absent := get?_eq_none.mp found
    rw [keys, <- (perm.map Prod.fst).mem_iff] at absent
    exact get?_eq_none.mpr absent
  | some item => exact get?_of_mem (distinct.perm perm) (perm.mem_iff.mpr (mem_of_get? found))

theorem perm_of_get? (distinct : Distinct entries) (otherDistinct : Distinct others)
    (same : ∀ key, get? entries key = get? others key) : List.Perm entries others := by
  rw [List.perm_ext_iff_of_nodup distinct.nodup otherDistinct.nodup]
  rintro ⟨key, item⟩
  constructor
  next =>
    intro member
    exact mem_of_get? ((same key).symm.trans (get?_of_mem distinct member))
  next =>
    intro member
    exact mem_of_get? ((same key).trans (get?_of_mem otherDistinct member))

theorem perm_put (distinct : Distinct others) (perm : List.Perm entries others) (key : Key)
    (item : Item) : List.Perm (put entries key item) (put others key item) := by
  refine perm_of_get? ((distinct.perm perm).put key item) (distinct.put key item) fun other => ?_
  by_cases same : key = other
  next => simp [same]
  next => rw [get?_put_other _ _ same, get?_put_other _ _ same, get?_of_perm distinct perm]

end Order

end SensorAlerting.Entries
