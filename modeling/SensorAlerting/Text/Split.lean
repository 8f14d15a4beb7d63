set_option autoImplicit false

namespace SensorAlerting.Text

/-- The runs between separators, empty ones included; there is one more of them than separators. -/
def splitRuns (separator : Char) : List Char -> List (List Char)
  | [] => [[]]
  | letter :: rest =>
    match splitRuns separator rest with
    | [] => [[letter]]
    | run :: runs => if letter == separator then [] :: run :: runs else (letter :: run) :: runs

end SensorAlerting.Text
