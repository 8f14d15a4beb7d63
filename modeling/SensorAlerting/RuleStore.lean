import SensorAlerting.Rule.Definition
import SensorAlerting.Template
import SensorAlerting.Time.Epoch
import SensorAlerting.Value.Use

set_option autoImplicit false

/-!
The store of threshold rules, in the order in which their ids were first added. A definition is
checked in full before anything is stored, so a rejected one leaves the store as it was.
-/

namespace SensorAlerting

open SensorAlerting.Number SensorAlerting.Time SensorAlerting.Rule.Definition

structure RuleStore where
  rules : Entries String Rule

inductive Missing where
  | rule (ruleId : String)
  | template (name : String)
deriving DecidableEq, Repr

def Missing.message : Missing -> String
  | .rule ruleId => "Rule not found: " ++ ruleId
  | .template name => "Template not found: " ++ name

structure Rejection where
  violations : List Violation
  ruleId : Option String
deriving DecidableEq, Repr

def Rejection.message (rejection : Rejection) : String :=
  "Invalid rule: " ++ ", ".intercalate (rejection.violations.map Violation.message)

inductive StoreFault where
  | rejected (rejection : Rejection)
  | missing (missing : Missing)
  | unknownSeverity (name : String)
  | sampleNotMapping
  | sample (fault : PayloadFault)
  | number (fault : Fault)
  | time (fault : EpochFault)
  | misuse (misuse : Misuse)
deriving DecidableEq, Repr

structure RuleFilter where
  sensorType : Option Value
  deviceId : Option Value
  severity : Option Value
  enabled : Option Value

def RuleFilter.everything : RuleFilter :=
  { sensorType := none, deviceId := none, severity := none, enabled := none }

structure ImportReport where
  imported : Nat
  failed : Nat
  errors : List (Value × String)

def ImportReport.toValue (report : ImportReport) : Value :=
  .mapping [("imported", Value.ofNat report.imported), ("failed", Value.ofNat report.failed),
    ("errors", .list (report.errors.map fun (ruleId, message) =>
      .mapping [("rule_id", ruleId), ("error", .text message)]))]

structure Trial where
  rule : Rule
  sample : Entries String Value
  value : Option Float
  wouldTrigger : Bool

def Trial.toValue (trial : Trial) : Value :=
  .mapping [("rule_id", .text trial.rule.ruleId), ("condition", .text trial.rule.condition),
    ("sample_data", .mapping trial.sample), ("value", Value.ofFloat? trial.value),
    ("would_trigger", .bool trial.wouldTrigger), ("severity", .text trial.rule.severity.name),
    ("channels", Value.ofTexts trial.rule.channels)]

structure RuleStats where
  total : Nat
  enabled : Nat
  bySensorType : Entries String Nat
  bySeverity : Entries String Nat

def RuleStats.toValue (stats : RuleStats) : Value :=
  .mapping [("total", Value.ofNat stats.total), ("enabled", Value.ofNat stats.enabled),
    ("disabled", Value.ofNat (stats.total - stats.enabled)),
    ("by_sensor_type", Value.ofCounts stats.bySensorType),
    ("by_severity", Value.ofCounts stats.bySeverity)]

namespace RuleStore

def empty : RuleStore := { rules := [] }

def size (store : RuleStore) : Nat := store.rules.length

def ids (store : RuleStore) : List String := Entries.keys store.rules

def toList (store : RuleStore) : List Rule := Entries.items store.rules

def contains (store : RuleStore) (ruleId : String) : Bool := Entries.has store.rules ruleId

def get? (store : RuleStore) (ruleId : String) : Option Rule := Entries.get? store.rules ruleId

def get (store : RuleStore) (ruleId : String) : Except StoreFault Rule :=
  match store.get? ruleId with
  | some rule => .ok rule
  | none => .error (.missing (.rule ruleId))

/-- The times of a rule to be stored: a rule that replaces another keeps its time of creation, and
the time of change is now. -/
def stampTimes (existing : Option Rule) (now : Moment) (fields : Entries String Value) :
    Entries String Value :=
  let fields : Entries String Value := match existing with
    | some rule => Entries.put fields "created_at" (.moment rule.createdAt)
    | none =>
      if Entries.has fields "created_at" then fields
      else Entries.put fields "created_at" (.moment now)
  Entries.put fields "updated_at" (.moment now)

/-- The fields of a rule to be stored. Channels that are null count as not given. -/
def stampFields (existing : Option Rule) (now : Moment) (fields : Entries String Value) :
    Entries String Value :=
  let stamped := stampTimes existing now fields
  match Entries.get? stamped "channels" with
  | some .null => Entries.remove stamped "channels"
  | _ => stamped

def judge (existing : String -> Option Rule) (now : Moment) (definition : Value) :
    Except Rejection Rule :=
  match definition with
  | .mapping fields =>
    let fields := normalize fields
    let found := violations fields
    let ruleId := ruleId? fields
    if found.isEmpty then
      match Rule.ofFields now (stampFields (ruleId.bind existing) now fields) with
      | .good rule => .ok rule
      | .bad faults => .error { violations := faults.map .field, ruleId }
    else .error { violations := found, ruleId }
  | _ => .error { violations := [.notMapping], ruleId := none }

def add (store : RuleStore) (now : Moment) (definition : Value) :
    Except StoreFault (Rule × RuleStore) :=
  match judge store.get? now definition with
  | .ok rule => .ok (rule, { rules := Entries.put store.rules rule.ruleId rule })
  | .error rejection => .error (.rejected rejection)

def definitionOf (rule : Rule) : Value :=
  .mapping <| rule.toFields.map fun field =>
    if field.1 == "created_at" then (field.1, .moment rule.createdAt)
    else if field.1 == "updated_at" then (field.1, .moment rule.updatedAt)
    else field

def delete (store : RuleStore) (ruleId : String) : Bool × RuleStore :=
  (store.contains ruleId, { rules := Entries.remove store.rules ruleId })

def toggle (store : RuleStore) (now : Moment) (ruleId : String) (enabled : Bool) :
    Except StoreFault (Rule × RuleStore) := do
  let rule <- store.get ruleId
  let updated := { rule with enabled, updatedAt := now }
  .ok (updated, { rules := Entries.put store.rules ruleId updated })

/-- The rules that pass every filter. Rules for any device pass a filter on the device. -/
def list (store : RuleStore) (filter : RuleFilter) : Except StoreFault (List Rule) := do
  let level <-
    match filter.severity with
    | none => .ok none
    | some wanted =>
      match wanted.text?.bind Severity.ofName? with
      | some level => .ok (some level)
      | none => .error (.unknownSeverity wanted.plainText)
  .ok <| store.toList.filter fun rule =>
    (filter.sensorType.all fun wanted => wanted.isContent rule.sensorType) &&
      (filter.deviceId.all fun wanted =>
        rule.deviceId.isNone || wanted.isContent rule.deviceId) &&
      (level.all fun wanted => rule.severity == wanted) &&
      filter.enabled.all fun wanted => wanted.standsFor rule.enabled

def forEvent (store : RuleStore) (event : Event) : List Rule :=
  store.toList.filter fun rule => rule.enabled && rule.appliesTo event

def rawRuleId : Value -> Value
  | .mapping fields =>
    let ruleId := Value.ofOption (Entries.get? fields "rule_id")
    if ruleId.isEmpty then Value.ofOption (Entries.get? fields "id") else ruleId
  | _ => .null

def importOne (state : RuleStore × ImportReport) (given : Moment × Value) :
    RuleStore × ImportReport :=
  let (store, report) := state
  let (now, definition) := given
  match judge store.get? now definition with
  | .ok rule =>
    ({ rules := Entries.put store.rules rule.ruleId rule },
      { report with imported := report.imported + 1 })
  | .error rejection =>
    (store,
      { report with
        failed := report.failed + 1
        errors := report.errors ++ [(rawRuleId definition, rejection.message)] })

def bulkImport (store : RuleStore) (definitions : List (Moment × Value)) :
    RuleStore × ImportReport :=
  definitions.foldl importOne (store, { imported := 0, failed := 0, errors := [] })

def exportRules (store : RuleStore) (filter : RuleFilter) : Except StoreFault (List Value) :=
  (store.list filter).map fun rules => rules.map Rule.toValue

def millisecondsOf (now : Moment) : Except StoreFault Int :=
  match now.epochSeconds with
  | .ok seconds => .ok ((truncate? (seconds * 1000)).getD 0)
  | .error fault => .error (.time fault)

/-- The definition that a template and overrides make. Without an id the rule is named for the
template and the time. -/
def fromTemplate (body : Entries String Value) (name : String) (now : Moment)
    (overrides : Entries String Value) : Except StoreFault Value :=
  let fields := (normalize overrides).foldl
    (fun fields field => Entries.put fields field.1 field.2) body
  let ruleId := Value.ofOption (Entries.get? fields "rule_id")
  if ruleId.isEmpty then
    (millisecondsOf now).map fun millis =>
      .mapping (Entries.put fields "rule_id" (.text (name ++ "_" ++ intText millis)))
  else .ok (.mapping fields)

def orElseText (content : Option String) (fallback : String) : String :=
  match content with
  | some content => if content.isEmpty then fallback else content
  | none => fallback

/-- Whether the condition of a stored rule holds on a sample payload. The envelope fields that the
sample lacks are taken from the rule. -/
def tryRule (store : RuleStore) (now : Moment) (ruleId : String) (sample : Value) :
    Except StoreFault Trial := do
  let rule <- store.get ruleId
  match sample with
  | .mapping sample =>
    let base : Entries String Value :=
      [("device_id", .text (orElseText rule.deviceId "test-device")),
        ("sensor_type", .text (orElseText rule.sensorType "test"))]
    let payload := sample.foldl (fun fields field => Entries.put fields field.1 field.2) base
    match Event.ofPayload now (.mapping payload) with
    | .error fault => .error (.sample fault)
    | .ok event =>
      match rule.compiled with
      | none => .ok { rule, sample, value := none, wouldTrigger := false }
      | some condition =>
        match condition.extract event, condition.holdsOn event with
        | .ok value, .ok wouldTrigger => .ok { rule, sample, value, wouldTrigger }
        | .error fault, _ => .error (.number fault)
        | _, .error fault => .error (.number fault)
  | _ => .error .sampleNotMapping

def stats (store : RuleStore) : RuleStats :=
  let rules := store.toList
  { total := rules.length
    enabled := rules.countP fun rule => rule.enabled
    bySensorType := Entries.tally (rules.map fun rule => orElseText rule.sensorType "global")
    bySeverity := Entries.tally (rules.map fun rule => rule.severity.name) }

end RuleStore

end SensorAlerting
