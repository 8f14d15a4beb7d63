import SensorAlerting.Value

set_option autoImplicit false

/-!
Values as text in messages: numbers in their shortest form, texts in quotes inside lists and
mappings, dates by their parts there, and the names `None`, `True` and `False`.
-/

namespace SensorAlerting.Value

open SensorAlerting.Number

def flagText (flag : Bool) : String := if flag then "True" else "False"

def dateText (date : Time.Date) : String := String.ofList (Time.dateChars date)

def callText (name : String) (arguments : List String) : String :=
  name ++ "(" ++ ", ".intercalate arguments ++ ")"

def dateParts (date : Time.Date) : List String :=
  [intText date.year, intText date.month, intText date.day]

/-- The parts of a clock time; seconds and what is below them are left out where they are nought. -/
def clockParts (micros : Int) : List String :=
  let seconds := micros / Time.second
  let fraction := micros % Time.second
  [intText (seconds / 3600), intText (seconds / 60 % 60)] ++
    (if micros % Time.minute == 0 then [] else [intText (seconds % 60)]) ++
    (if fraction == 0 then [] else [intText fraction])

def spanLiteral (span : Int) : String :=
  let part := fun (name : String) (size : Int) =>
    if size == 0 then [] else [name ++ "=" ++ intText size]
  callText "datetime.timedelta" <| part "days" (span / Time.day) ++
    part "seconds" (span % Time.day / Time.second) ++ part "microseconds" (span % Time.second)

def offsetLiteral (offset : Int) : String :=
  if offset == 0 then "datetime.timezone.utc"
  else callText "datetime.timezone" [spanLiteral offset]

def momentLiteral (moment : Time.Moment) : String :=
  callText "datetime.datetime" <| dateParts (Time.Date.ofDayNumber (moment.wall / Time.day)) ++
    clockParts (moment.wall % Time.day) ++
    (moment.offset.map fun offset => "tzinfo=" ++ offsetLiteral offset).toList

mutual

def literalText : Value -> String
  | .null => "None"
  | .bool flag => flagText flag
  | .int number => intText number
  | .float number => floatText number
  | .undefined _ => floatText undefinedFloat
  | .text content => Text.quoted content
  | .octets bytes => Text.quotedBytes bytes
  | .date calendarDay => callText "datetime.date" (dateParts calendarDay)
  | .moment time => momentLiteral time
  | .list items => "[" ++ ", ".intercalate (itemTexts items) ++ "]"
  | .pair first second => "(" ++ literalText first ++ ", " ++ literalText second ++ ")"
  | .unordered [] => "set()"
  | .unordered members => "\x7b" ++ ", ".intercalate (itemTexts members) ++ "\x7d"
  | .mapping fields => "\x7b" ++ ", ".intercalate (fieldTexts fields) ++ "\x7d"
  | .table entries => "\x7b" ++ ", ".intercalate (entryTexts entries) ++ "\x7d"
  | .cycle => "[...]"

def itemTexts : List Value -> List String
  | [] => []
  | item :: rest => literalText item :: itemTexts rest

def fieldTexts : List (String × Value) -> List String
  | [] => []
  | (name, item) :: rest => (Text.quoted name ++ ": " ++ literalText item) :: fieldTexts rest

def entryTexts : List (Value × Value) -> List String
  | [] => []
  | (key, item) :: rest => (literalText key ++ ": " ++ literalText item) :: entryTexts rest

end

def plainText : Value -> String
  | .text content => content
  | .date calendarDay => dateText calendarDay
  | .moment time => time.spacedText
  | value => literalText value

end SensorAlerting.Value
