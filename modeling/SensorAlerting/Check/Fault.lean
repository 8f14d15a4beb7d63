import SensorAlerting.Value
import SensorAlerting.Time.Stamp

set_option autoImplicit false

namespace SensorAlerting.Check

open SensorAlerting.Number

inductive Problem where
  | missing
  | notText
  | undecodableText
  | emptyText
  | notFlag
  | unreadableFlag
  | notInteger
  | unreadableInteger
  | fractionalInteger
  | oversizedInteger
  | notFinite
  | notNumber
  | unreadableNumber
  | notAbove (bound : Int)
  | belowLeast (bound : Int)
  | aboveMost (bound : Int)
  | notList
  | notSequence
  | notMapping
  | notOneOf (names : List String)
  | notSection (name : String)
  | unknownField
  | keyNotText
  | notMoment
  | unreadableMoment (fault : Time.StampFault)
  | impossibleMoment (fault : Time.StampFault)
deriving DecidableEq, Repr

/-- Names in single quotes, the last one after an "or". -/
def alternatives : List String -> String
  | [] => ""
  | [name] => "'" ++ name ++ "'"
  | [name, last] => "'" ++ name ++ "' or '" ++ last ++ "'"
  | name :: rest => "'" ++ name ++ "', " ++ alternatives rest

def Problem.code : Problem -> String
  | .missing => "missing"
  | .notText => "string_type"
  | .undecodableText => "string_unicode"
  | .emptyText => "string_too_short"
  | .notFlag => "bool_type"
  | .unreadableFlag => "bool_parsing"
  | .notInteger => "int_type"
  | .unreadableInteger => "int_parsing"
  | .fractionalInteger => "int_from_float"
  | .oversizedInteger => "int_parsing_size"
  | .notFinite => "finite_number"
  | .notNumber => "float_type"
  | .unreadableNumber => "float_parsing"
  | .notAbove _ => "greater_than"
  | .belowLeast _ => "greater_than_equal"
  | .aboveMost _ => "less_than_equal"
  | .notList => "list_type"
  | .notSequence => "tuple_type"
  | .notMapping => "dict_type"
  | .notOneOf _ => "enum"
  | .notSection _ => "model_type"
  | .unknownField => "extra_forbidden"
  | .keyNotText => "invalid_key"
  | .notMoment => "datetime_type"
  | .unreadableMoment _ => "datetime_from_date_parsing"
  | .impossibleMoment _ => "datetime_parsing"

def Problem.message : Problem -> String
  | .missing => "Field required"
  | .notText => "Input should be a valid string"
  | .undecodableText =>
    "Input should be a valid string, unable to parse raw data as a unicode string"
  | .emptyText => "String should have at least 1 character"
  | .notFlag => "Input should be a valid boolean"
  | .unreadableFlag => "Input should be a valid boolean, unable to interpret input"
  | .notInteger => "Input should be a valid integer"
  | .unreadableInteger =>
    "Input should be a valid integer, unable to parse string as an integer"
  | .fractionalInteger =>
    "Input should be a valid integer, got a number with a fractional part"
  | .oversizedInteger =>
    "Unable to parse input string as an integer, exceeded maximum size"
  | .notFinite => "Input should be a finite number"
  | .notNumber => "Input should be a valid number"
  | .unreadableNumber =>
    "Input should be a valid number, unable to parse string as a number"
  | .notAbove bound => "Input should be greater than " ++ intText bound
  | .belowLeast bound => "Input should be greater than or equal to " ++ intText bound
  | .aboveMost bound => "Input should be less than or equal to " ++ intText bound
  | .notList => "Input should be a valid list"
  | .notSequence => "Input should be a valid tuple"
  | .notMapping => "Input should be a valid dictionary"
  | .notOneOf names => "Input should be " ++ alternatives names
  | .notSection name => "Input should be a valid dictionary or instance of " ++ name
  | .unknownField => "Extra inputs are not permitted"
  | .keyNotText => "Keys should be strings"
  | .notMoment => "Input should be a valid datetime"
  | .unreadableMoment fault => "Input should be a valid datetime or date, " ++ fault.message
  | .impossibleMoment fault => "Input should be a valid datetime, " ++ fault.message

structure Fault where
  path : List String
  problem : Problem
deriving DecidableEq, Repr

def Fault.toValue (fault : Fault) : Value :=
  .mapping [("loc", .list (fault.path.map .text)), ("type", .text fault.problem.code),
    ("msg", .text fault.problem.message)]

end SensorAlerting.Check

namespace SensorAlerting

inductive Checked (Item : Type) where
  | good (item : Item)
  | bad (faults : List Check.Fault)

namespace Checked

variable {Item Other : Type}

def faults : Checked Item -> List Check.Fault
  | .good _ => []
  | .bad faults => faults

/-- Applies a checked function; the faults of both sides are kept in order. -/
def apply (function : Checked (Item -> Other)) (argument : Unit -> Checked Item) :
    Checked Other :=
  match function, argument () with
  | .good function, .good item => .good (function item)
  | .good _, .bad faults => .bad faults
  | .bad faults, checked => .bad (faults ++ checked.faults)

instance : Functor Checked where
  map function
    | .good item => .good (function item)
    | .bad faults => .bad faults

instance : Pure Checked := ⟨Checked.good⟩

instance : Seq Checked := ⟨Checked.apply⟩

def fail (problem : Check.Problem) : Checked Item := .bad [{ path := [], problem }]

def inside (name : String) : Checked Item -> Checked Item
  | .good item => .good item
  | .bad faults => .bad (faults.map fun fault => { fault with path := name :: fault.path })

def also (checked : Checked Item) (more : List Check.Fault) : Checked Item :=
  match checked with
  | .good item => if more.isEmpty then .good item else .bad more
  | .bad faults => .bad (faults ++ more)

def ensure (checked : Checked Item) (holds : Item -> Bool) (problem : Check.Problem) :
    Checked Item :=
  match checked with
  | .good item => if holds item then .good item else fail problem
  | .bad faults => .bad faults

end Checked

end SensorAlerting
