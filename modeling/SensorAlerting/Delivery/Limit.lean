import SensorAlerting.Time.Instant
import SensorAlerting.Value.Use

set_option autoImplicit false

/-!
Limits on time. What takes longer is cut off: it is told to end, which takes some turns, and whoever
waits for it goes on after that. Whatever is over in time hands over in two turns.
-/

namespace SensorAlerting.Delivery

open SensorAlerting.Number SensorAlerting.Time

/-- A limit on time: there is none, there is no time at all, there is a wait, perhaps without end,
or what is stated cannot be one. -/
inductive Limit where
  | absent
  | spent
  | upTo (wait : Option Int)
  | unusable (reason : String)
deriving DecidableEq, Repr

def kindText : Value -> String
  | .null => "NoneType"
  | .text _ => "str"
  | .list _ => "list"
  | .mapping _ => "dict"
  | _ => "object"

/-- What is said of a value that is compared with nought and cannot be. -/
def comparisonText (value : Value) : String :=
  "'<=' not supported between instances of '" ++ kindText value ++ "' and 'int'"

def conversionText : String := "int too large to convert to float"

def Limit.ofValue (stated : Value) : Limit :=
  match stated, stated.asQuantity with
  | .null, _ => .absent
  | stated, .error _ => .unusable (comparisonText stated)
  | _, .ok seconds =>
    if seconds.isAtMost (.whole 0) then .spent
    else match waitOf seconds with
    | .ok wait => .upTo wait
    | .error _ => .unusable conversionText

inductive LimitedEnd where
  | inTime
  | cutOff
  | failed (reason : String)
deriving DecidableEq, Repr

/-- Whether a limit that is due at an instant cuts off what begins and is over at some points. The
limit is noticed in the turn after it is due, so it also cuts off what is over in a later turn. -/
def cutsOff (start : Point) (limit : Option Int) (finish : Option Point) : Bool :=
  match limit, finish with
  | none, _ => false
  | some _, none => true
  | some limit, some finish =>
    if finish.instant == start.instant then
      decide (limit < reach start.instant) && decide (start.turn + 2 < finish.turn)
    else if finish.turn <= 1 then decide (limit <= finish.instant)
    else decide (limit < reach finish.instant)

/-- When whoever waits for something that is over in time goes on: two turns later, or when the
limit is noticed at that instant, if that comes first. -/
def handedOver (due : Option Point) (finish : Point) : Point :=
  let noticed := match due with
    | some due =>
      if due.instant < reach finish.instant then max finish.turn due.turn else finish.turn + 2
    | none => finish.turn + 2
  { finish with turn := min noticed (finish.turn + 2) }

/-- When and how something under a limit ends that is over at some point, given the point where it
begins. Being cut off takes it some turns. -/
def underLimit (limit : Limit) (cutTurns : Nat) (start : Point) (run : Point -> Option Point) :
    Option Point × LimitedEnd :=
  match limit with
  | .absent => (run start, .inTime)
  | .unusable reason => (some start, .failed reason)
  | .spent => (some (start.plus 3), .cutOff)
  | .upTo wait =>
    let finish := run (start.plus 1)
    let due := wait.map start.afterWait
    if cutsOff start (due.map Point.instant) finish then
      (due.map fun due => due.plus cutTurns, .cutOff)
    else (finish.map (handedOver due), .inTime)

end SensorAlerting.Delivery
