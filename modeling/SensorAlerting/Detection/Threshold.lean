import SensorAlerting.Detection.Evaluation

set_option autoImplicit false

/-!
Threshold rules with throttling. A rule that fires at some time with a positive throttle stays
silent until that much later, and can fire again at that very instant. Throttles go by rule id.
-/

namespace SensorAlerting.Detection

open SensorAlerting.Number SensorAlerting.Time

structure Throttles where
  silentUntil : Entries String Moment

namespace Throttles

def empty : Throttles := { silentUntil := [] }

def isThrottled (throttles : Throttles) (now : Moment) (ruleId : String) : Bool :=
  match Entries.get? throttles.silentUntil ruleId with
  | some silentUntil => decide (now.instant < silentUntil.instant)
  | none => false

def ruleIds (throttles : Throttles) : List String := Entries.keys throttles.silentUntil

def clear (throttles : Throttles) (ruleId : String) : Throttles :=
  { silentUntil := Entries.remove throttles.silentUntil ruleId }

def purge (throttles : Throttles) (now : Moment) : Throttles :=
  { silentUntil := throttles.silentUntil.filter fun entry =>
      decide (now.instant < entry.2.instant) }

def fires (throttles : Throttles) (now : Moment) (event : Event) (rule : Rule) :
    Except Fault Bool :=
  if rule.enabled && rule.appliesTo event then
    match rule.compiled with
    | none => .ok false
    | some condition =>
      (condition.holdsOn event).map fun holds => holds && !throttles.isThrottled now rule.ruleId
  else .ok false

def silence (throttles : Throttles) (now : Moment) (rule : Rule) : Except Fault Throttles :=
  if 0 < rule.throttleMinutes then
    match rule.throttle with
    | .error fault => .error fault
    | .ok span =>
      match now.add? span with
      | some silentUntil =>
        .ok { silentUntil := Entries.put throttles.silentUntil rule.ruleId silentUntil }
      | none => .error .tooLarge
  else .ok throttles

def throttleValue (rule : Rule) : Value :=
  match rule.throttleGiven with
  | some minutes => .float minutes
  | none => .int 0

def alertOf (serial : Nat) (now : Moment) (event : Event) (rule : Rule) : Alert :=
  let value := match rule.compiled with
    | some condition => event.lookup condition.path
    | none => .null
  { alertId := Alert.idOf serial
    ruleId := rule.ruleId
    category := .threshold
    severity := rule.severity
    deviceId := event.deviceId
    sensorType := some event.sensorType
    location := some event.location
    timestamp := now
    value
    condition := some rule.condition
    message := rule.severity.capitals ++ ": " ++ rule.ruleId ++ " - " ++ rule.condition ++
      " (value: " ++ value.plainText ++ ")"
    details := [("throttle_minutes", throttleValue rule)]
    event := some event }

def evaluateRules (now : Moment) (event : Event) :
    Nat -> Throttles -> List Rule -> Evaluation Throttles
  | _, throttles, [] => .nothing throttles
  | serial, throttles, rule :: rest =>
    match throttles.fires now event rule with
    | .error fault => .failed throttles (.number fault)
    | .ok false => evaluateRules now event serial throttles rest
    | .ok true =>
      match throttles.silence now rule with
      | .error fault => { Evaluation.failed throttles (.number fault) with issued := 1 }
      | .ok silenced =>
        (evaluateRules now event (serial + 1) silenced rest).after
          { alert := alertOf serial now event rule, channels := rule.channels.map .text }

def evaluate (throttles : Throttles) (now : Moment) (serial : Nat) (event : Event)
    (rules : List Rule) : Evaluation Throttles :=
  evaluateRules now event serial (throttles.purge now) rules

/-- The rules that a value chooses by their places; null chooses all of them. -/
def chosenRules (rules : List Rule) : Value -> Except Misuse (List Rule)
  | .null => .ok rules
  | places => do (<- places.asItems).mapM (Value.itemAt rules)

end Throttles

end SensorAlerting.Detection
