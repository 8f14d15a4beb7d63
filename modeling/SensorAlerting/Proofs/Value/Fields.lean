import SensorAlerting.Proofs.Entries
import SensorAlerting.Value

set_option autoImplicit false

/-!
Fields of mappings after one was put, be it that all keys are texts or not. Nothing else changes,
and what is under keys that are no texts least of all.
-/

namespace SensorAlerting.Value

variable {value : Value} {name other : String}

def unnamed (value : Value) : List (Value × Value) :=
  (value.entries?.getD []).filter fun entry => entry.1.text?.isNone

def isNamed (name : String) (entry : Value × Value) : Bool := entry.1.text? == some name

theorem get?_named (entries : List (Value × Value)) (name : String) :
    Entries.get? (named entries) name = (entries.find? (isNamed name)).map Prod.snd := by
  induction entries with
  | nil => rfl
  | cons entry rest ih =>
    obtain ⟨key, item⟩ := entry
    cases isText : key.text? with
    | none =>
      have others : named ((key, item) :: rest) = named rest := by simp [named, isText]
      rw [others, ih, List.find?_cons_of_neg (by simp [isNamed, isText])]
    | some content =>
      have first : named ((key, item) :: rest) = (content, item) :: named rest := by
        simp [named, isText]
      rw [first, Entries.get?_cons]
      cases same : content == name with
      | false =>
        rw [List.find?_cons_of_neg (by simpa [isNamed, isText] using same)]
        exact ih
      | true =>
        rw [List.find?_cons_of_pos (by simpa [isNamed, isText] using same)]
        rfl

def replaced (name : String) (item : Value) (entry : Value × Value) : Value × Value :=
  if isNamed name entry then (entry.1, item) else entry

theorem replaced_fst (name : String) (item : Value) (entry : Value × Value) :
    (replaced name item entry).1 = entry.1 := by
  unfold replaced
  split <;> rfl

theorem get?_replaced (entries : List (Value × Value)) (name other : String) (item : Value) :
    Entries.get? (named (entries.map (replaced name item))) other =
      (Entries.get? (named entries) other).map fun kept => if name = other then item else kept := by
  have sameKeys : isNamed other ∘ replaced name item = isNamed other := by
    funext entry
    simp [isNamed, replaced_fst]
  rw [get?_named, get?_named, List.find?_map, sameKeys, Option.map_map, Option.map_map]
  refine Option.map_congr fun entry found => ?_
  have here : isNamed other entry = true := List.find?_some found
  have stated : entry.1.text? = some other := by simpa [isNamed] using here
  by_cases same : name = other
  next => simp [replaced, isNamed, stated, same]
  next => simp [replaced, isNamed, stated, same, Ne.symm same]

theorem putField_table (entries : List (Value × Value)) (name : String) (item : Value) :
    (table entries).putField name item =
      if (Entries.get? (named entries) name).isSome then table (entries.map (replaced name item))
      else table (entries ++ [(text name, item)]) := rfl

theorem get?_named_append (entries : List (Value × Value)) (name other : String) (item : Value) :
    Entries.get? (named (entries ++ [(text name, item)])) other =
      (Entries.get? (named entries) other).or (if name = other then some item else none) := by
  have appended : named (entries ++ [(text name, item)]) = named entries ++ [(name, item)] :=
    List.filterMap_append
  rw [appended, Entries.get?, List.find?_append, Entries.get?]
  cases (named entries).find? fun entry => entry.1 == other with
  | some entry => rfl
  | none => by_cases same : name = other <;> simp [same]

theorem isMapping_putField (isMapping : value.isMapping = true) (name : String) (item : Value) :
    (value.putField name item).isMapping = true := by
  cases value with
  | mapping fields => rfl
  | table entries =>
    rw [putField_table]
    split <;> rfl
  | _ => cases isMapping

theorem field?_putField_same (isMapping : value.isMapping = true) (name : String) (item : Value) :
    (value.putField name item).field? name = some item := by
  cases value with
  | mapping fields => exact Entries.get?_put_same fields name item
  | table entries =>
    rw [putField_table]
    cases found : Entries.get? (named entries) name with
    | none => simp [field?, get?_named_append, found]
    | some kept => simp [field?, get?_replaced, found]
  | _ => cases isMapping

theorem field?_putField_other (different : name ≠ other) (item : Value) :
    (value.putField name item).field? other = value.field? other := by
  cases value with
  | mapping fields => exact Entries.get?_put_other fields item different
  | table entries =>
    rw [putField_table]
    split
    next => simp [field?, get?_replaced, different]
    next => simp [field?, get?_named_append, different]
  | _ => rfl

theorem unnamed_mapping (fields : Entries String Value) : (mapping fields).unnamed = [] := by
  refine List.filter_eq_nil_iff.mpr fun entry member => ?_
  obtain ⟨field, -, rfl⟩ := List.mem_map.mp member
  simp [text?]

theorem unnamed_putField (name : String) (item : Value) :
    (value.putField name item).unnamed = value.unnamed := by
  cases value with
  | mapping fields => rw [putField, unnamed_mapping, unnamed_mapping]
  | table entries =>
    rw [putField_table]
    split
    next =>
      have sameKeys : (fun entry : Value × Value => entry.1.text?.isNone) ∘ replaced name item =
          fun entry => entry.1.text?.isNone := by
        funext entry
        simp [replaced_fst]
      simp only [unnamed, entries?, Option.getD_some, List.filter_map, sameKeys]
      refine (List.map_congr_left fun entry member => ?_).trans (List.map_id _)
      have noText := (List.mem_filter.mp member).2
      simp only [Option.isNone_iff_eq_none] at noText
      simp [replaced, isNamed, noText]
    next => simp [unnamed, entries?, text?]
  | _ => rfl

end SensorAlerting.Value
