import SensorAlerting.Proofs.Json.Depth
import SensorAlerting.Proofs.Worker.Accounting
import SensorAlerting.Stream.Intake

set_option autoImplicit false

/-!
What a worker makes of the batches of a stream. Its source and its own failures meet here: whatever
interrupts a batch costs the rest of it, and nothing else does.
-/

namespace SensorAlerting.Stream

open SensorAlerting.Number SensorAlerting.Time

/-- What is done about an entry: its payload is given to the worker, or its acknowledgement is
tried. -/
inductive Deed where
  | handed (entryId : Value) (payload : Entries String Value)
  | acked (entryId : Value)

namespace Deed

def payload? : Deed -> Option (Entries String Value)
  | .handed _ payload => some payload
  | .acked _ => none

def acknowledged? : Deed -> Option Value
  | .handed _ _ => none
  | .acked entryId => some entryId

end Deed

namespace Entry

def due (entry : Entry) : List Deed :=
  match decodeValue entry.fields with
  | .ok payload => [.handed entry.entryId payload, .acked entry.entryId]
  | .error _ => [.acked entry.entryId]

/-- Whether an entry interrupts the consumer: it cannot even be refused, or its time stamp is one
that no system's clock can show. -/
def Interrupts (entry : Entry) : Prop :=
  match decodeValue entry.fields with
  | .ok payload => Event.StatesBeyondClocks (.mapping payload)
  | .error fault => fault.isFatal = true

instance : DecidablePred Interrupts := fun entry =>
  match decoded : decodeValue entry.fields with
  | .ok payload =>
    decidable_of_iff (Event.StatesBeyondClocks (.mapping payload)) (by simp [Interrupts, decoded])
  | .error fault => decidable_of_iff (fault.isFatal = true) (by simp [Interrupts, decoded])

end Entry

theorem decodeValue_deep {fields : Entries String Value} {content : String} {rest : List Char}
    (data : Entries.get? fields "data" = some (.text content))
    (opened : content.toList = List.replicate (Json.deepest + 1) '[' ++ rest) :
    decodeValue (.mapping fields) = .error (.unreadable .tooDeep) := by
  simp [decodeValue, decode, data, readData, Json.read_deep opened]

def dealt : List Entry -> List Deed
  | [] => []
  | entry :: rest =>
    match decodeValue entry.fields with
    | .ok payload =>
      .handed entry.entryId payload ::
        if Event.StatesBeyondClocks (.mapping payload) then []
        else .acked entry.entryId :: dealt rest
    | .error fault => if fault.isFatal then [] else .acked entry.entryId :: dealt rest

theorem dealt_append (calm rest : List Entry) (undisturbed : ∀ entry ∈ calm, ¬ entry.Interrupts) :
    dealt (calm ++ rest) = calm.flatMap Entry.due ++ dealt rest := by
  induction calm with
  | nil => rfl
  | cons entry calm ih =>
    obtain ⟨calmFirst, calmRest⟩ := List.forall_mem_cons.mp undisturbed
    simp only [Entry.Interrupts] at calmFirst
    simp only [List.cons_append, dealt, List.flatMap_cons, Entry.due, ih calmRest]
    split <;> simp_all

theorem dealt_interrupted {entry : Entry} (interrupts : entry.Interrupts) (rest : List Entry) :
    (dealt (entry :: rest)).length < entry.due.length := by
  -- Either nothing at all is done about the entry, or it is not acknowledged.
  simp only [Entry.Interrupts] at interrupts
  simp only [dealt, Entry.due]
  split <;> simp_all

theorem dealt_length_le (entries : List Entry) :
    (dealt entries).length <= (entries.flatMap Entry.due).length := by
  induction entries with
  | nil => exact Nat.le_refl _
  | cons entry rest ih =>
    rw [List.flatMap_cons, List.length_append]
    by_cases interrupts : entry.Interrupts
    next =>
      have short := dealt_interrupted interrupts rest
      omega
    next =>
      have calm := dealt_append [entry] rest (by simpa using interrupts)
      rw [List.singleton_append, List.flatMap_singleton] at calm
      rw [calm, List.length_append]
      omega

theorem dealt_length_lt {entries : List Entry} {entry : Entry} (member : entry ∈ entries)
    (interrupts : entry.Interrupts) :
    (dealt entries).length < (entries.flatMap Entry.due).length := by
  -- An entry before this one may have interrupted the batch already.
  induction entries with
  | nil => simp at member
  | cons first rest ih =>
    rw [List.flatMap_cons, List.length_append]
    by_cases early : first.Interrupts
    next =>
      have short := dealt_interrupted early rest
      omega
    next =>
      have later : entry ∈ rest := by
        cases List.mem_cons.mp member with
        | inl same => exact absurd (same ▸ interrupts) early
        | inr later => exact later
      have calm := dealt_append [first] rest (by simpa using early)
      rw [List.singleton_append, List.flatMap_singleton] at calm
      rw [calm, List.length_append]
      have short := ih later
      omega

theorem flatMap_dealt_length_le (batches : List (List Entry)) :
    (batches.flatMap dealt).length <= (batches.flatten.flatMap Entry.due).length := by
  induction batches with
  | nil => exact Nat.le_refl _
  | cons first rest ih =>
    have whole := dealt_length_le first
    simp only [List.flatMap_cons, List.flatten_cons, List.flatMap_append, List.length_append]
    omega

theorem dealt_eq_due_iff (batches : List (List Entry)) :
    batches.flatMap dealt = batches.flatten.flatMap Entry.due ↔
      ∀ batch ∈ batches, ∀ entry ∈ batch, ¬ entry.Interrupts := by
  constructor
  next =>
    intro complete batch chosen entry member interrupts
    -- The other batches cannot make up for what is missing in this one.
    obtain ⟨before, after, rfl⟩ := List.append_of_mem chosen
    have short := dealt_length_lt member interrupts
    have former := flatMap_dealt_length_le before
    have latter := flatMap_dealt_length_le after
    have same := congrArg List.length complete
    simp only [List.flatMap_append, List.flatMap_cons, List.flatten_append, List.flatten_cons,
      List.length_append] at same
    omega
  next =>
    intro calm
    induction batches with
    | nil => rfl
    | cons first rest ih =>
      obtain ⟨calmFirst, calmRest⟩ := List.forall_mem_cons.mp calm
      have whole := dealt_append first [] calmFirst
      simp only [List.append_nil, dealt] at whole
      rw [List.flatMap_cons, List.flatten_cons, List.flatMap_append, whole, ih calmRest]

end SensorAlerting.Stream
