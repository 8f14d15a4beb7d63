import SensorAlerting.Alert

set_option autoImplicit false

namespace SensorAlerting.Delivery

open SensorAlerting.Time

inductive Status where
  | sent
  | partly
  | failed
  | skipped
  | notImplemented
deriving DecidableEq, Repr

def Status.name : Status -> String
  | .sent => "sent"
  | .partly => "partial"
  | .failed => "failed"
  | .skipped => "skipped"
  | .notImplemented => "not_implemented"

/-- How one target of a channel took a message. A web address answers with a status code. -/
inductive Outcome where
  | accepted
  | answered (status : Value)
  | refused (reason : String)

def Outcome.isSuccess : Outcome -> Bool
  | .refused _ => false
  | _ => true

inductive Target where
  | recipient (address : String)
  | url (address : String)
deriving DecidableEq, Repr

structure TargetResult where
  target : Target
  outcome : Outcome

def Target.toField : Target -> String × Value
  | .recipient address => ("recipient", .text address)
  | .url address => ("url", .text address)

def TargetResult.toValue (result : TargetResult) : Value :=
  .mapping <| result.target.toField :: match result.outcome with
    | .accepted => [("status", .text "sent")]
    | .answered status => [("status", .text "success"), ("status_code", status)]
    | .refused reason => [("status", .text "failed"), ("error", .text reason)]

structure Report where
  channel : String
  status : Status
  detail : Option String
  results : List TargetResult

namespace Report

def ofDetail (channel : String) (status : Status) (detail : String) : Report :=
  { channel, status, detail := some detail, results := [] }

def ofResults (channel : String) (results : List TargetResult) : Report :=
  { channel
    status := if results.all fun result => result.outcome.isSuccess then .sent else .partly
    detail := none
    results }

end Report

structure Delivered where
  report : Report
  timestamp : Moment

def Delivered.ok (delivered : Delivered) : Bool := delivered.report.status == .sent

def Delivered.toValue (delivered : Delivered) : Value :=
  .mapping [("channel", .text delivered.report.channel),
    ("status", .text delivered.report.status.name),
    ("timestamp", .text delivered.timestamp.isoText),
    ("detail", Value.ofText? delivered.report.detail),
    ("results", .list (delivered.report.results.map TargetResult.toValue))]

structure Summary where
  alertId : String
  timestamp : Moment
  deliveries : List Delivered
  duplicate : Bool

def Summary.toValue (summary : Summary) : Value :=
  .mapping [("alert_id", .text summary.alertId), ("timestamp", .text summary.timestamp.isoText),
    ("deliveries", .list (summary.deliveries.map Delivered.toValue)),
    ("duplicate", .bool summary.duplicate)]

end SensorAlerting.Delivery
