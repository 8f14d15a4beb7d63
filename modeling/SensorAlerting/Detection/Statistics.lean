import SensorAlerting.Capacity
import SensorAlerting.Number.Quantity
import SensorAlerting.Entries
import SensorAlerting.Time.Moment

set_option autoImplicit false

/-!
Rolling windows of readings and the few statistics taken of them. Sums are taken from left to
right, and the standard deviation is that of the whole population.
-/

namespace SensorAlerting.Detection

open SensorAlerting.Number SensorAlerting.Time

def total (values : List Float) : Float := values.foldl (fun sum value => sum + value) 0

def divideBy (sum : Float) (count : Nat) : Float := sum / (ofInt? count).getD 0

def mean (values : List Float) : Float :=
  if values.isEmpty then 0 else divideBy (total values) values.length

/-- The square of a double, taken as correctly rounded, which a power function need not be to the
last bit. That of a finite one must be finite. -/
def square (x : Float) : Except Fault Float :=
  if isFinite x && isInfinite (x * x) then .error .tooLarge else .ok (x * x)

def squaredDeviations (average : Float) : List Float -> Except Fault (List Float)
  | [] => .ok []
  | value :: rest => do
    let deviation <- square (value - average)
    let others <- squaredDeviations average rest
    .ok (deviation :: others)

def deviationAbout (average : Float) (values : List Float) : Except Fault Float :=
  if values.isEmpty then .ok 0
  else do
    let squares <- squaredDeviations average values
    .ok (divideBy (total squares) values.length).sqrt

def populationDeviation (values : List Float) : Except Fault Float :=
  deviationAbout (mean values) values

def changes : List Float -> List Float
  | first :: second :: rest => (second - first).abs :: changes (second :: rest)
  | _ => []

def meanChange (values : List Float) : Float :=
  if values.length < 2 then 0 else divideBy (total (changes values)) (values.length - 1)

structure Summary where
  count : Nat
  mean : Float
  deviation : Float

def Summary.toValue (summary : Summary) : Value :=
  .mapping [("count", .int summary.count), ("mean", .float summary.mean),
    ("std", .float summary.deviation)]

def summarize (values : List Float) : Except Fault Summary := do
  let average := mean values
  let deviation <- deviationAbout average values
  .ok { count := values.length, mean := average, deviation }

structure Window (Item : Type) where
  capacity : Nat
  samples : List (Moment × Item)

inductive WindowFault where
  | belowOne (stated : String)
  | misuse (misuse : Misuse)
deriving DecidableEq, Repr

def WindowFault.message (stated : String) : String := "capacity must be >= 1, got " ++ stated

namespace Window

variable {Item : Type}

def capacityOf (stated : Value) : Except WindowFault Nat :=
  match stated.asQuantity with
  | .error misuse => .error (.misuse misuse)
  | .ok size =>
    if size.isBelow (.whole 1) then .error (.belowOne stated.plainText)
    else (stated.asWhole.bind capacityFrom).mapError .misuse

def empty (capacity : Nat) : Window Item := { capacity, samples := [] }

def create (stated : Value) : Except WindowFault (Window Item) :=
  (capacityOf stated).map .empty

def size (window : Window Item) : Nat := window.samples.length

def append (window : Window Item) (moment : Moment) (item : Item) : Window Item :=
  { window with samples := lastItems window.capacity (window.samples ++ [(moment, item)]) }

def values (window : Window Item) : List Item := window.samples.map Prod.snd

def last (window : Window Item) (count : Nat) : List Item := lastItems count window.values

def lastBy (window : Window Item) (stated : Value) : Except Misuse (List Item) := do
  let count <- stated.asQuantity
  if count.isAtMost (.whole 0) then .ok []
  else do .ok (window.last (<- stated.asWhole).toNat)

def clear (window : Window Item) : Window Item := { window with samples := [] }

def fillText (window : Window Item) (stated : String) : String :=
  "RollingWindow(samples=" ++ intText window.size ++ "/" ++ stated ++ ")"

end Window

end SensorAlerting.Detection
