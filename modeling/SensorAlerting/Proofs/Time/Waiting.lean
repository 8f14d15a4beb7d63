import SensorAlerting.Time.Agenda

set_option autoImplicit false

/-!
What a run of an agenda comes to. A load that every wake lowers bounds the number of wakes, so that
with fuel above the load the run ends for a reason and not for lack of fuel.
-/

namespace SensorAlerting.Time

theorem lt_reach (instant : Int) : instant < reach instant :=
  Int.lt_of_lt_of_le (Int.lt_add_one_iff.mpr (Int.le_refl instant)) (Int.le_max_right _ _)

section Earliest

variable {instants : List (Option Int)} {due : Int}

def sooner (first instant : Option Int) : Option Int :=
  match first, instant with
  | some first, some instant => some (min first instant)
  | some first, none => some first
  | none, instant => instant

theorem foldl_sooner_cases {first : Option Int} (found : instants.foldl sooner first = some due) :
    first = some due ∨ some due ∈ instants := by
  induction instants generalizing first with
  | nil => exact .inl found
  | cons instant rest ih =>
    cases ih found with
    | inr later => exact .inr (List.mem_cons_of_mem _ later)
    | inl now =>
      cases first with
      | none => exact .inr (List.mem_cons.mpr (.inl now.symm))
      | some first =>
        cases instant with
        | none => exact .inl now
        | some instant =>
          obtain same : min first instant = due := Option.some.inj now
          by_cases before : first <= instant
          next => exact .inl (by rw [<- same, Int.min_eq_left before])
          next =>
            refine .inr (List.mem_cons.mpr (.inl ?_))
            rw [<- same, Int.min_eq_right (by omega)]

theorem mem_of_earliest (found : earliest instants = some due) : some due ∈ instants :=
  (foldl_sooner_cases found).resolve_left nofun

theorem foldl_sooner_eq_none {first : Option Int} :
    instants.foldl sooner first = none ↔ first = none ∧ ∀ instant ∈ instants, instant = none := by
  induction instants generalizing first with
  | nil => simp
  | cons instant rest ih =>
    rw [List.foldl_cons, ih]
    cases first <;> cases instant <;> simp [sooner]

theorem earliest_eq_none : earliest instants = none ↔ ∀ instant ∈ instants, instant = none := by
  change instants.foldl sooner none = none ↔ _
  simp [foldl_sooner_eq_none]

end Earliest

namespace Agenda

variable {State : Type}

inductive Ended (agenda : Agenda State) (reached : State -> Bool) (limit : Option Int)
    (time : Int) (state : State) : Prop where
  | reached (there : reached state = true)
  | quiet (nothing : agenda.next state = none) (unlimited : limit = none)
  | overdue (last : Int) (isLimit : limit = some last) (passed : last < reach time)

theorem runUntil_spec {agenda : Agenda State} {reached : State -> Bool} {limit : Option Int}
    (load : State -> Nat) (keeps : State -> Prop)
    (step : ∀ time state due, keeps state -> reached state = false ->
      agenda.next state = some due -> keeps (agenda.wake (max time due) state) ∧
        load (agenda.wake (max time due) state) < load state)
    {fuel : Nat} {time : Int} {state : State} (enough : load state < fuel) (holds : keeps state) :
    keeps (agenda.runUntil reached limit fuel time state).2 ∧
      agenda.Ended reached limit (agenda.runUntil reached limit fuel time state).1
        (agenda.runUntil reached limit fuel time state).2 := by
  induction fuel generalizing time state with
  | zero => cases enough
  | succ fuel ih =>
    rw [runUntil]
    split
    next there => exact ⟨holds, .reached there⟩
    next away =>
      cases first : earliest [agenda.next state, limit] with
      | none =>
        have none := earliest_eq_none.mp first
        exact ⟨holds, .quiet (none _ (by simp)) (none _ (by simp))⟩
      | some due =>
        dsimp only
        split
        next passed =>
          cases limit with
          | none => cases passed
          | some last => exact ⟨holds, .overdue last rfl (of_decide_eq_true passed)⟩
        next goesOn =>
          -- The limit is still ahead, so what is due is something else.
          have next : agenda.next state = some due := by
            cases List.mem_cons.mp (mem_of_earliest first) with
            | inl next => exact next.symm
            | inr isLimit =>
              obtain rfl := List.mem_singleton.mp isLimit
              refine absurd (decide_eq_true ?_) goesOn
              exact Int.lt_of_le_of_lt (Int.le_max_right time due) (lt_reach _)
          obtain ⟨kept, lower⟩ := step time state due holds (Bool.eq_false_iff.mpr away) next
          exact ih (by omega) kept

end Agenda

end SensorAlerting.Time
