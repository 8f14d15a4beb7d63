import SensorAlerting.Alert
import SensorAlerting.Value.Use

set_option autoImplicit false

/-!
Alerts stated in data. An alert without an id takes the next serial number, even if something else
is wrong with it.
-/

namespace SensorAlerting

open SensorAlerting.Time

/-- Why data states no alert: it has no fields at all, its event cannot be read, or some fields are
not as they should be. -/
inductive AlertFault where
  | noFields
  | event (fault : PayloadFault)
  | fields (faults : List Check.Fault)
deriving DecidableEq, Repr

namespace Alert

def eventOf (now : Moment) : Value -> Except PayloadFault (Checked (Option Event))
  | .null => .ok (.good none)
  | .mapping payload =>
    (Event.ofPayload now (.mapping payload)).map fun event => .good (some event)
  | _ => .ok (Checked.fail (.notSection "SensorEvent"))

def ofValue (serial : Nat) (now : Moment) (stated : Value) : Except AlertFault Alert × Nat :=
  match stated with
  | .mapping fields =>
    match eventOf now (stated.get "event") with
    | .error fault => (.error (.event fault), serial)
    | .ok event =>
      let next := if Entries.has fields "alert_id" then serial else serial + 1
      match ofFields serial now fields event with
      | .good alert => (.ok alert, next)
      | .bad faults => (.error (.fields faults), next)
  | _ => (.error .noFields, serial)

/-- The alerts that data states one after another, up to the first that is none. -/
def ofValues (now : Moment) : Nat -> List Value -> Except AlertFault (List Alert) × Nat
  | serial, [] => (.ok [], serial)
  | serial, stated :: rest =>
    match ofValue serial now stated with
    | (.error fault, serial) => (.error fault, serial)
    | (.ok alert, serial) =>
      let (alerts, serial) := ofValues now serial rest
      (alerts.map fun alerts => alert :: alerts, serial)

end Alert

end SensorAlerting
