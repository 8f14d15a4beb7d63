import SensorAlerting.Json.Reader

set_option autoImplicit false

/-!
The reader of JSON gives up on lists that are nested too deeply. It does so while they are being
opened, so that it does not matter whether they are ever closed.
-/

namespace SensorAlerting.Json

theorem skipSpace_open (rest : List Char) : skipSpace ('[' :: rest) = '[' :: rest := by
  simp [skipSpace, isSpace]

theorem readValue_deep (levels : Nat) {fuel : Nat} (enough : 2 * levels < fuel)
    (rest : List Char) :
    readValue fuel levels (List.replicate (levels + 1) '[' ++ rest) = .error .tooDeep := by
  induction levels generalizing fuel with
  | zero =>
    obtain ⟨fuel, rfl⟩ : ∃ less, fuel = less + 1 := ⟨fuel - 1, by omega⟩
    simp [readValue]
  | succ levels ih =>
    -- A level takes two units: one for the list, and one for its first item.
    obtain ⟨fuel, rfl⟩ : ∃ less, fuel = less + 2 := ⟨fuel - 2, by omega⟩
    have inner := ih (show 2 * levels < fuel by omega)
    rw [List.replicate_succ, List.cons_append] at inner ⊢
    rw [List.replicate_succ, List.cons_append, readValue, skipSpace_open]
    simp [readItems, inner, bind, Except.bind, Except.map]

theorem read_deep {content : String} {rest : List Char}
    (opened : content.toList = List.replicate (deepest + 1) '[' ++ rest) :
    read content = .error .tooDeep := by
  have start : skipSpace content.toList = List.replicate (deepest + 1) '[' ++ rest := by
    rw [opened, List.replicate_succ, List.cons_append, skipSpace_open]
  have long : 2 * deepest < 2 * (List.replicate (deepest + 1) '[' ++ rest).length + 1 := by
    simp only [List.length_append, List.length_replicate]
    omega
  simp only [read, start, readValue_deep deepest long rest]

end SensorAlerting.Json
