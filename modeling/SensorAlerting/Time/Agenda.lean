import SensorAlerting.Time.Instant

set_option autoImplicit false

/-!
Waiting. An agenda says at which instant something is due next and what happens then; running it
goes from one due instant to the next, so nothing but waiting takes time.
-/

namespace SensorAlerting.Time

def earliest (instants : List (Option Int)) : Option Int :=
  instants.foldl (fun first instant =>
    match first, instant with
    | some first, some instant => some (min first instant)
    | some first, none => some first
    | none, instant => instant) none

structure Agenda (State : Type) where
  next : State -> Option Int
  wake : Int -> State -> State

namespace Agenda

variable {State : Type}

/-- Goes on until a state is reached, nothing is due any more, or the limit is due. What is due
together with the limit does not happen any more. The fuel bounds the number of instants. -/
def runUntil (agenda : Agenda State) (reached : State -> Bool) (limit : Option Int) :
    Nat -> Int -> State -> Int × State
  | 0, time, state => (time, state)
  | fuel + 1, time, state =>
    if reached state then (time, state)
    else match earliest [agenda.next state, limit] with
    | none => (time, state)
    | some due =>
      let time := max time due
      if limit.any fun limit => decide (limit < reach time) then (time, state)
      else runUntil agenda reached limit fuel time (agenda.wake time state)

def patience : Nat := 1000000

def runThrough (agenda : Agenda State) (target time : Int) (state : State) : Int × State :=
  let (time, state) := agenda.runUntil (fun _ => false) (some target) patience time state
  (time, agenda.wake time state)

end Agenda

end SensorAlerting.Time
