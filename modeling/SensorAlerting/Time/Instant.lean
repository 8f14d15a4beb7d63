import SensorAlerting.Number.Quantity

set_option autoImplicit false

/-!
Instants and waits. Both are doubles of seconds, counted exactly in steps of `2 ^ -1074` seconds, so
that they are ordered as integers are. An instant after a wait is rounded to a double again. Things
that are due within a nanosecond happen together.

At one instant tasks take turns: what a task brings about goes on in a later turn. A point is an
instant and a turn in it.
-/

namespace SensorAlerting.Time

open SensorAlerting.Number

/-- A number of steps rounded to the nearest one that is a double, a tie to the even neighbour. -/
def nearestDouble (steps : Int) : Int :=
  let size := steps.natAbs
  if size < Nat.pow 2 53 then steps
  else
    let unit := Nat.pow 2 (size.log2 - 52)
    let rounded : Int := (roundQuotient size unit * unit : Nat)
    if steps < 0 then -rounded else rounded

def stepsOf (seconds : Float) : Option Int :=
  match parts seconds with
  | .finite negative mantissa exponent =>
    let size : Int := (mantissa * Nat.pow 2 (exponent + 1074).toNat : Nat)
    some (if negative then -size else size)
  | _ => none

/-- A wait of some seconds in steps; none for a wait without end. -/
def waitOf (seconds : Quantity) : Except Fault (Option Int) := seconds.toFloat.map stepsOf

def after (instant wait : Int) : Int := nearestDouble (instant + wait)

def wholeSecond : Int := Nat.pow 2 1074

def resolution : Int := 4835703278458517 * Nat.pow 2 992

/-- The end of what happens together with an instant, which is part of it however coarse doubles
are there. -/
def reach (instant : Int) : Int := max (after instant resolution) (instant + 1)

structure Point where
  instant : Int
  turn : Nat
deriving DecidableEq, Repr

namespace Point

def plus (point : Point) (turns : Nat) : Point := { point with turn := point.turn + turns }

def handOver (point : Point) : Point := point.plus 2

def later (left right : Point) : Point :=
  if left.instant < right.instant || left.instant == right.instant && left.turn < right.turn then
    right
  else left

/-- When a wait that begins at a point is over. Its end is noticed in the first turn of a later
instant, and in the next turn of the same one. -/
def afterWait (point : Point) (wait : Int) : Point :=
  let instant := after point.instant wait
  if wait <= 0 then point
  else if instant < reach point.instant then point.plus 2
  else { instant, turn := 1 }

end Point

def latest (first : Point) (points : List (Option Point)) : Option Point :=
  points.foldl (fun last point => do (<- last).later (<- point)) (some first)

end SensorAlerting.Time
