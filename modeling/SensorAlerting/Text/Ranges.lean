set_option autoImplicit false

namespace SensorAlerting.Text

def covers (ranges : List (Nat × Nat)) (code : Nat) : Bool :=
  ranges.any fun range => decide (range.1 <= code) && decide (code <= range.2)

end SensorAlerting.Text
