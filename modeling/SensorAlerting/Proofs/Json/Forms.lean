import SensorAlerting.Json.Form
import SensorAlerting.Proofs.Entries
import SensorAlerting.Proofs.Json.Numbers
import SensorAlerting.Proofs.Json.Strings

set_option autoImplicit false

/-!
Values that were brought into the kinds that JSON has are written and read again without loss, but
for members of one name: of those the last counts.
-/

namespace SensorAlerting.Json

open SensorAlerting.Number SensorAlerting.Text

mutual

/-- A value with each name in a mapping once, where it came first and with the item that came
last. -/
def settled : Value -> Value
  | .list items => .list (settledItems items)
  | .mapping fields => .mapping (Entries.ofPairs (settledFields fields))
  | value => value

def settledItems : List Value -> List Value
  | [] => []
  | item :: rest => settled item :: settledItems rest

def settledFields : List (String × Value) -> List (String × Value)
  | [] => []
  | (name, item) :: rest => (name, settled item) :: settledFields rest

end

/-- The kinds of values that JSON has, with so many levels of lists and mappings at most. -/
inductive Writable : Nat -> Value -> Prop where
  | null (levels : Nat) : Writable levels .null
  | bool (levels : Nat) (flag : Bool) : Writable levels (.bool flag)
  | int (levels : Nat) {number : Int} (short : Value.isShort number = true) :
      Writable levels (.int number)
  | float (levels : Nat) (number : Float) : Writable levels (.float number)
  | text (levels : Nat) (content : String) : Writable levels (.text content)
  | list {levels : Nat} {items : List Value} (each : ∀ item ∈ items, Writable levels item) :
      Writable (levels + 1) (.list items)
  | mapping {levels : Nat} {fields : List (String × Value)}
      (each : ∀ field ∈ fields, Writable levels field.2) : Writable (levels + 1) (.mapping fields)

section Forms

mutual

theorem writable_form {levels : Nat} {value written : Value}
    (formed : form levels value = .ok written) : Writable levels written := by
  cases value with
  | null => cases formed; exact .null _
  | bool flag => cases formed; exact .bool _ flag
  | int number =>
    rw [form] at formed
    split at formed
    next short => cases formed; exact .int _ short
    next => cases formed
  | float | undefined => cases formed; exact .float _ _
  | text content => cases formed; exact .text _ content
  | list items =>
    cases levels with
    | zero => cases formed
    | succ levels =>
      obtain ⟨found, items, rfl⟩ := ok_of_map formed
      exact .list (writable_forms items)
  | pair first second =>
    cases levels with
    | zero => cases formed
    | succ levels =>
      obtain ⟨one, firstFormed, rest⟩ := ok_of_bind formed
      obtain ⟨two, secondFormed, whole⟩ := ok_of_bind rest
      cases whole
      refine .list (List.forall_mem_cons.mpr ⟨writable_form firstFormed, ?_⟩)
      exact List.forall_mem_singleton.mpr (writable_form secondFormed)
  | mapping fields =>
    cases levels with
    | zero => cases formed
    | succ levels =>
      obtain ⟨found, fields, rfl⟩ := ok_of_map formed
      exact .mapping (writable_fieldForms fields)
  | table entries =>
    cases levels with
    | zero => cases formed
    | succ levels =>
      obtain ⟨found, entries, rfl⟩ := ok_of_map formed
      exact .mapping (writable_entryForms entries)
  | cycle => cases formed
  | octets bytes => cases formed; exact .text _ _
  | date date => cases formed; exact .text _ _
  | moment moment => cases formed; exact .text _ _
  | unordered members =>
    unfold form at formed
    split at formed
    next => cases formed; exact .text _ _
    next => cases formed

theorem writable_forms {levels : Nat} {items written : List Value}
    (formed : forms levels items = .ok written) : ∀ item ∈ written, Writable levels item := by
  match items with
  | [] =>
    cases formed
    exact List.forall_mem_nil _
  | item :: rest =>
    obtain ⟨one, itemFormed, more⟩ := ok_of_bind formed
    obtain ⟨others, restFormed, whole⟩ := ok_of_bind more
    cases whole
    exact List.forall_mem_cons.mpr ⟨writable_form itemFormed, writable_forms restFormed⟩

theorem writable_fieldForms {levels : Nat} {fields written : List (String × Value)}
    (formed : fieldForms levels fields = .ok written) :
    ∀ field ∈ written, Writable levels field.2 := by
  match fields with
  | [] =>
    cases formed
    exact List.forall_mem_nil _
  | (name, item) :: rest =>
    obtain ⟨one, itemFormed, more⟩ := ok_of_bind formed
    obtain ⟨others, restFormed, whole⟩ := ok_of_bind more
    cases whole
    exact List.forall_mem_cons.mpr ⟨writable_form itemFormed, writable_fieldForms restFormed⟩

theorem writable_entryForms {levels : Nat} {entries : List (Value × Value)}
    {written : List (String × Value)} (formed : entryForms levels entries = .ok written) :
    ∀ field ∈ written, Writable levels field.2 := by
  match entries with
  | [] =>
    cases formed
    exact List.forall_mem_nil _
  | (key, item) :: rest =>
    obtain ⟨name, named, others⟩ := ok_of_bind formed
    obtain ⟨one, itemFormed, more⟩ := ok_of_bind others
    obtain ⟨others, restFormed, whole⟩ := ok_of_bind more
    cases whole
    exact List.forall_mem_cons.mpr ⟨writable_form itemFormed, writable_entryForms restFormed⟩

end

variable {levels : Nat} {fields written : List (String × Value)}

theorem keys_fieldForms (formed : fieldForms levels fields = .ok written) :
    Entries.keys written = Entries.keys fields := by
  induction fields generalizing written with
  | nil =>
    cases formed
    rfl
  | cons field rest ih =>
    obtain ⟨one, itemFormed, more⟩ := ok_of_bind formed
    obtain ⟨others, restFormed, whole⟩ := ok_of_bind more
    cases whole
    exact congrArg (field.1 :: ·) (ih restFormed)

theorem get?_fieldForms (formed : fieldForms levels fields = .ok written) (name : String) :
    Entries.get? written name =
      (Entries.get? fields name).bind fun item => (form levels item).toOption := by
  induction fields generalizing written with
  | nil =>
    cases formed
    rfl
  | cons field rest ih =>
    obtain ⟨one, itemFormed, more⟩ := ok_of_bind formed
    obtain ⟨others, restFormed, whole⟩ := ok_of_bind more
    cases whole
    rw [Entries.get?_cons, Entries.get?_cons, ih restFormed]
    split
    next => rw [Option.bind_some, itemFormed]; rfl
    next => rfl

theorem settledFields_eq (fields : List (String × Value)) :
    settledFields fields = fields.map fun field => (field.1, settled field.2) := by
  induction fields with
  | nil => rfl
  | cons field rest ih => rw [settledFields, ih, List.map_cons]

theorem settled_mapping (distinct : Entries.Distinct fields)
    (formed : fieldForms levels fields = .ok written) :
    ∃ settledEntries : Entries String Value, settled (.mapping written) = .mapping settledEntries ∧
      ∀ name, Entries.get? settledEntries name = (Entries.get? fields name).bind fun item =>
        (form levels item).toOption.map settled := by
  have names : Entries.Distinct (settledFields written) := by
    rw [settledFields_eq]
    refine Entries.Distinct.mapItems ?_ settled
    rwa [Entries.Distinct, keys_fieldForms formed]
  refine ⟨settledFields written, ?_, fun name => ?_⟩
  next => rw [settled, Entries.ofPairs_of_distinct names]
  next =>
    rw [settledFields_eq, Entries.get?_mapItems, get?_fieldForms formed]
    cases Entries.get? fields name <;> rfl

end Forms

section Reading

def startsValue (letter : Char) : Bool := startsScalar letter || ['[', '\x7b'].contains letter

def Begins (letters : List Char) : Prop :=
  ∃ first more, letters = first :: more ∧ startsValue first = true

structure ReadsBack (levels : Nat) (value : Value) : Prop where
  begins : Begins (writeChars value)
  read : ∀ (fuel : Nat) (rest : List Char), 2 * (writeChars value).length <= fuel -> Follows rest ->
    readValue fuel levels (writeChars value ++ rest) = .ok (settled value, rest)

theorem skipSpace_of_not {first : Char} (shown : isSpace first = false) (more : List Char) :
    skipSpace (first :: more) = first :: more := by
  simp [skipSpace, shown]

theorem skipSpace_blank (more : List Char) : skipSpace (' ' :: more) = skipSpace more := rfl

theorem not_isSpace_of_startsValue {first : Char} (starts : startsValue first = true) :
    isSpace first = false := by
  refine Bool.eq_false_iff.mpr fun blank => ?_
  simp only [isSpace, Bool.or_eq_true, beq_iff_eq] at blank
  rcases blank with ((rfl | rfl) | rfl) | rfl <;> cases starts

theorem Begins.skipSpace {letters : List Char} (begins : Begins letters) (rest : List Char) :
    skipSpace (letters ++ rest) = letters ++ rest := by
  obtain ⟨first, more, rfl, starts⟩ := begins
  exact skipSpace_of_not (not_isSpace_of_startsValue starts) _

theorem Begins.ne_cons {letters : List Char} (begins : Begins letters) {mark : Char}
    (other : startsValue mark = false) (rest more : List Char) :
    letters ++ rest ≠ mark :: more := by
  obtain ⟨first, tail, rfl, starts⟩ := begins
  rintro same
  rw [(List.cons.inj same).1, other] at starts
  cases starts

theorem follows_of_mem {mark : Char} (member : mark ∈ [',', ']', '\x7d']) (rest : List Char) :
    Follows (mark :: rest) := by
  rintro other ⟨⟩
  exact member

section Collections

variable {fuel levels : Nat} {letters after rest : List Char}

theorem readItems_last {item : Value}
    (read : readValue fuel levels letters = .ok (item, ']' :: rest)) :
    readItems (fuel + 1) levels letters = .ok ([item], rest) := by
  rw [readItems, read]
  rfl

theorem readItems_more {item : Value} {items : List Value}
    (read : readValue fuel levels letters = .ok (item, ',' :: ' ' :: after))
    (readMore : readItems fuel levels (skipSpace after) = .ok (items, rest)) :
    readItems (fuel + 1) levels letters = .ok (item :: items, rest) := by
  have comma : skipSpace (',' :: ' ' :: after) = ',' :: ' ' :: after := rfl
  rw [readItems, read]
  simp only [bind, Except.bind, comma, skipSpace_blank, readMore]

theorem writeItems_cons (item next : Value) (others : List Value) :
    writeItems (item :: next :: others) =
      writeChars item ++ ',' :: ' ' :: writeItems (next :: others) := by
  rw [writeItems]
  nofun

theorem begins_writeItems {item : Value} (reads : ReadsBack levels item) (others : List Value) :
    Begins (writeItems (item :: others)) := by
  obtain ⟨first, more, begins, starts⟩ := reads.begins
  cases others with
  | nil => exact ⟨first, more ++ [']'], by rw [writeItems, begins]; rfl, starts⟩
  | cons next others =>
    exact ⟨first, more ++ ',' :: ' ' :: writeItems (next :: others),
      by rw [writeItems_cons, begins]; rfl, starts⟩

theorem readItems_writeItems {item : Value} {others : List Value} (first : ReadsBack levels item)
    (each : ∀ other ∈ others, ReadsBack levels other)
    (enough : 2 * (writeItems (item :: others)).length <= fuel) :
    readItems fuel levels (writeItems (item :: others) ++ rest) =
      .ok (settledItems (item :: others), rest) := by
  induction others generalizing item fuel with
  | nil =>
    rw [writeItems, List.length_append, List.length_singleton] at enough
    obtain ⟨fuel, rfl⟩ : ∃ less, fuel = less + 1 := ⟨fuel - 1, by omega⟩
    rw [writeItems, List.append_assoc]
    exact readItems_last (first.read _ _ (by omega) (follows_of_mem (by decide) _))
  | cons next others ih =>
    obtain ⟨second, later⟩ := List.forall_mem_cons.mp each
    rw [writeItems_cons, List.length_append, List.length_cons, List.length_cons] at enough
    obtain ⟨fuel, rfl⟩ : ∃ less, fuel = less + 1 := ⟨fuel - 1, by omega⟩
    rw [writeItems_cons, List.append_assoc, List.cons_append, List.cons_append]
    refine readItems_more (first.read _ _ (by omega) (follows_of_mem (by decide) _)) ?_
    rw [(begins_writeItems second others).skipSpace]
    exact ih second later (by omega)

theorem readMembers_last {name : String} {item : Value}
    (readName : readString letters = .ok (name, ':' :: ' ' :: after))
    (read : readValue fuel levels (skipSpace after) = .ok (item, '\x7d' :: rest)) :
    readMembers (fuel + 1) levels ('"' :: letters) = .ok ([(name, item)], rest) := by
  have colon : skipSpace (':' :: ' ' :: after) = ':' :: ' ' :: after := rfl
  rw [readMembers, readName]
  simp only [bind, Except.bind, colon, skipSpace_blank, read]
  rfl

theorem readMembers_more {name : String} {item : Value} {members : List (String × Value)}
    {between : List Char} (readName : readString letters = .ok (name, ':' :: ' ' :: after))
    (read : readValue fuel levels (skipSpace after) = .ok (item, ',' :: ' ' :: between))
    (readMore : readMembers fuel levels (skipSpace between) = .ok (members, rest)) :
    readMembers (fuel + 1) levels ('"' :: letters) = .ok ((name, item) :: members, rest) := by
  have colon : skipSpace (':' :: ' ' :: after) = ':' :: ' ' :: after := rfl
  have comma : skipSpace (',' :: ' ' :: between) = ',' :: ' ' :: between := rfl
  rw [readMembers, readName]
  simp only [bind, Except.bind, colon, comma, skipSpace_blank, read, readMore]

theorem writeFields_cons (name : String) (item : Value) (next : String × Value)
    (others : List (String × Value)) :
    writeFields ((name, item) :: next :: others) =
      stringChars name ++ ':' :: ' ' :: writeChars item ++ ',' :: ' ' ::
        writeFields (next :: others) := by
  rw [writeFields]
  nofun

theorem writeFields_singleton_append (name : String) (item : Value) :
    writeFields [(name, item)] ++ rest =
      '"' :: (name.toList.flatMap escapeChar ++
        '"' :: ':' :: ' ' :: (writeChars item ++ '\x7d' :: rest)) := by
  simp [writeFields, stringChars]

theorem writeFields_cons_append (name : String) (item : Value) (next : String × Value)
    (others : List (String × Value)) :
    writeFields ((name, item) :: next :: others) ++ rest =
      '"' :: (name.toList.flatMap escapeChar ++
        '"' :: ':' :: ' ' :: (writeChars item ++
          ',' :: ' ' :: (writeFields (next :: others) ++ rest))) := by
  simp [writeFields_cons, stringChars]

theorem begins_stringChars (name : String) (more : List Char) : Begins (stringChars name ++ more) :=
  ⟨'"', _, stringChars_append name more, rfl⟩

theorem begins_writeFields (field : String × Value) (others : List (String × Value)) :
    Begins (writeFields (field :: others)) := by
  cases others with
  | nil =>
    rw [writeFields, List.append_assoc]
    exact begins_stringChars _ _
  | cons next others =>
    rw [writeFields_cons, List.append_assoc]
    exact begins_stringChars _ _

theorem readMembers_writeFields {field : String × Value} {others : List (String × Value)}
    (first : ReadsBack levels field.2) (each : ∀ other ∈ others, ReadsBack levels other.2)
    (enough : 2 * (writeFields (field :: others)).length <= fuel) :
    readMembers fuel levels (writeFields (field :: others) ++ rest) =
      .ok (settledFields (field :: others), rest) := by
  induction others generalizing field fuel with
  | nil =>
    obtain ⟨name, item⟩ := field
    replace first : ReadsBack levels item := first
    simp only [writeFields, List.length_append, List.length_cons, List.length_nil] at enough
    obtain ⟨fuel, rfl⟩ : ∃ less, fuel = less + 1 := ⟨fuel - 1, by omega⟩
    rw [writeFields_singleton_append]
    refine readMembers_last (readString_escaped name _) ?_
    rw [first.begins.skipSpace]
    exact first.read _ _ (by omega) (follows_of_mem (by decide) _)
  | cons next others ih =>
    obtain ⟨name, item⟩ := field
    replace first : ReadsBack levels item := first
    obtain ⟨second, later⟩ := List.forall_mem_cons.mp each
    simp only [writeFields_cons, List.length_append, List.length_cons] at enough
    obtain ⟨fuel, rfl⟩ : ∃ less, fuel = less + 1 := ⟨fuel - 1, by omega⟩
    rw [writeFields_cons_append]
    have read := first.read fuel (',' :: ' ' :: (writeFields (next :: others) ++ rest)) (by omega)
      (follows_of_mem (by decide) _)
    rw [<- first.begins.skipSpace] at read
    refine readMembers_more (readString_escaped name _) read ?_
    rw [(begins_writeFields next others).skipSpace]
    exact ih second later (by omega)

end Collections

section Values

variable {levels : Nat} {letters : List Char} {value : Value}

theorem readValue_scalar {first : Char} (starts : startsScalar first = true) (fuel levels : Nat)
    (more : List Char) :
    readValue (fuel + 1) levels (first :: more) = readScalar (first :: more) := by
  cases levels with
  | zero =>
    have scalar : "[\x7b".toList.contains first = false := by
      refine Bool.eq_false_iff.mpr fun opens => ?_
      rcases List.mem_cons.mp (List.contains_iff_mem.mp opens) with rfl | brace
      next => cases starts
      next => cases List.mem_singleton.mp brace ▸ starts
    rw [readValue, List.head?_cons, Option.any_some, scalar]
    rfl
  | succ levels =>
    rw [readValue]
    next => rintro rest same; obtain rfl := (List.cons.inj same).1; cases starts
    next => rintro rest same; obtain rfl := (List.cons.inj same).1; cases starts

theorem readsBack_scalar
    (begins : ∃ first more, writeChars value = first :: more ∧ startsScalar first = true)
    (read : ∀ rest, Follows rest -> readScalar (writeChars value ++ rest) = .ok (value, rest))
    (same : settled value = value) : ReadsBack levels value where
  begins := by
    obtain ⟨first, more, written, starts⟩ := begins
    exact ⟨first, more, written, by rw [startsValue, starts, Bool.true_or]⟩
  read fuel rest enough follows := by
    have found := read rest follows
    obtain ⟨first, more, written, starts⟩ := begins
    rw [written, List.length_cons] at enough
    obtain ⟨fuel, rfl⟩ : ∃ less, fuel = less + 1 := ⟨fuel - 1, by omega⟩
    rw [written, List.cons_append] at found ⊢
    rw [readValue_scalar starts, found, same]

theorem readsBack_list {items : List Value} (each : ∀ item ∈ items, ReadsBack levels item) :
    ReadsBack (levels + 1) (.list items) where
  begins := ⟨'[', writeItems items, by rw [writeChars], rfl⟩
  read fuel rest enough follows := by
    rw [writeChars, List.length_cons] at enough
    obtain ⟨fuel, rfl⟩ : ∃ less, fuel = less + 1 := ⟨fuel - 1, by omega⟩
    rw [writeChars, List.cons_append, settled]
    cases items with
    | nil => rfl
    | cons item others =>
      obtain ⟨first, later⟩ := List.forall_mem_cons.mp each
      have begins := begins_writeItems first others
      have read : readItems fuel levels (writeItems (item :: others) ++ rest) = _ :=
        readItems_writeItems first later (by omega)
      rw [readValue, begins.skipSpace]
      split
      next same => exact absurd same (begins.ne_cons rfl _ _)
      next =>
        rw [read]
        rfl

theorem readsBack_mapping {fields : List (String × Value)}
    (each : ∀ field ∈ fields, ReadsBack levels field.2) :
    ReadsBack (levels + 1) (.mapping fields) where
  begins := ⟨'\x7b', writeFields fields, by rw [writeChars], rfl⟩
  read fuel rest enough follows := by
    rw [writeChars, List.length_cons] at enough
    obtain ⟨fuel, rfl⟩ : ∃ less, fuel = less + 1 := ⟨fuel - 1, by omega⟩
    rw [writeChars, List.cons_append, settled]
    cases fields with
    | nil => rfl
    | cons field others =>
      obtain ⟨first, later⟩ := List.forall_mem_cons.mp each
      have begins := begins_writeFields field others
      have read : readMembers fuel levels (writeFields (field :: others) ++ rest) = _ :=
        readMembers_writeFields first later (by omega)
      rw [readValue, begins.skipSpace]
      split
      next same => exact absurd same (begins.ne_cons rfl _ _)
      next =>
        rw [read]
        rfl

theorem Writable.readsBack (writable : Writable levels value) : ReadsBack levels value := by
  induction writable with
  | null levels => exact readsBack_scalar ⟨_, _, rfl, rfl⟩ (fun _ _ => rfl) rfl
  | bool levels flag =>
    cases flag <;> exact readsBack_scalar ⟨_, _, rfl, rfl⟩ (fun _ _ => rfl) rfl
  | int levels short =>
    exact readsBack_scalar (begins_signed _ (isWhole_natChars _).exists_first)
      (fun _ follows => readScalar_intChars short follows) rfl
  | float levels number =>
    exact readsBack_scalar (begins_numberChars number)
      (fun _ follows => readScalar_numberChars number follows) rfl
  | text levels content =>
    refine readsBack_scalar ⟨'"', _, rfl, rfl⟩ (fun rest _ => ?_) rfl
    rw [writeChars, stringChars_append, readScalar, readString_escaped]
    rfl
  | list each ih => exact readsBack_list ih
  | mapping each ih => exact readsBack_mapping ih

end Values

theorem read_write {value : Value} (writable : Writable deepest value) :
    read (write value) = .ok (settled value) := by
  have reads := writable.readsBack
  have follows : Follows [] := by
    rintro mark ⟨⟩
  have found := reads.read (2 * (writeChars value).length + 1) [] (by omega) follows
  have letters : skipSpace (write value).toList = writeChars value := by
    have shown := reads.begins.skipSpace []
    rw [List.append_nil] at shown
    rw [write, String.toList_ofList, shown]
  rw [List.append_nil] at found
  unfold read
  simp only [letters, found]
  rfl

theorem exists_form_of_writeForm {value : Value} {content : String}
    (wrote : writeForm value = .ok content) :
    ∃ written, form deepest value = .ok written ∧ content = write written :=
  ok_of_map wrote

theorem read_writeForm {value written : Value} (formed : form deepest value = .ok written) :
    read (write written) = .ok (settled written) :=
  read_write (writable_form formed)

end Reading

end SensorAlerting.Json
