import SensorAlerting.Number.Text

set_option autoImplicit false

namespace SensorAlerting.Number

inductive Fault where
  | tooLarge
  | undefined
deriving DecidableEq, Repr

inductive Quantity where
  | whole (value : Int)
  | real (value : Float)

namespace Quantity

def text : Quantity -> String
  | .whole value => intText value
  | .real value => floatText value

def toFloat : Quantity -> Except Fault Float
  | .whole value =>
    match ofInt? value with
    | some x => .ok x
    | none => .error .tooLarge
  | .real value => .ok value

def truncate (x : Float) : Except Fault Int :=
  match truncate? x with
  | some value => .ok value
  | none => .error (if isUndefined x then .undefined else .tooLarge)

/-- Exact order of two quantities; an undefined double is not below anything. -/
def isBelow (left right : Quantity) : Bool :=
  match left, right with
  | .whole a, .whole b => decide (a < b)
  | .real a, .real b => decide (a < b)
  | .whole a, .real b => compareWhole a b == some .lt
  | .real a, .whole b => compareWhole b a == some .gt
where
  /-- How an integer compares with a double. -/
  compareWhole (a : Int) (b : Float) : Option Ordering :=
    match parts b with
    | .undefined => none
    | .infinite negative => some (if negative then .gt else .lt)
    | .finite negative mantissa exponent =>
      let size := magnitude mantissa exponent
      let numerator : Int := if negative then -(size.1 : Int) else size.1
      some (compare (a * size.2) numerator)

/-- Exact order of two quantities; an undefined double is not at most anything. -/
def isAtMost (left right : Quantity) : Bool :=
  match left, right with
  | .whole a, .whole b => decide (a <= b)
  | .real a, .real b => decide (a <= b)
  | .whole a, .real b => (isBelow.compareWhole a b).any fun order => order != .gt
  | .real a, .whole b => (isBelow.compareWhole b a).any fun order => order != .lt

def compactText : Quantity -> Except Fault String
  | .whole value =>
    match ofInt? value with
    | some _ => .ok (intText value)
    | none => .error .tooLarge
  | .real value => .ok (Number.compactText value)

/-- A sum: exact for whole numbers, and a double as soon as there is one in it. -/
def plus : Quantity -> Quantity -> Except Fault Quantity
  | .whole left, .whole right => .ok (.whole (left + right))
  | left, right => do
    let left <- left.toFloat
    let right <- right.toFloat
    .ok (.real (left + right))

def minus : Quantity -> Quantity -> Except Fault Quantity
  | .whole left, .whole right => .ok (.whole (left - right))
  | left, right => do
    let left <- left.toFloat
    let right <- right.toFloat
    .ok (.real (left - right))

def size : Quantity -> Quantity
  | .whole value => .whole value.natAbs
  | .real value => .real value.abs

def share (amount : Quantity) (parts : Nat) : Except Fault Float :=
  match amount with
  | .whole value =>
    match ofIntOver? value parts with
    | some x => .ok x
    | none => .error .tooLarge
  | .real value => .ok (value / (ofInt? parts).getD 0)

end Quantity

end SensorAlerting.Number
