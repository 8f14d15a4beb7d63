import SensorAlerting.Rule

set_option autoImplicit false

/-!
Rule definitions as operators write them: mappings in which three fields may go by another name.
A definition is normalized first and then checked in full, so that every violation is reported.
-/

namespace SensorAlerting.Rule.Definition

def canonicalName (name : String) : String :=
  if name == "id" then "rule_id"
  else if name == "alert_level" then "severity"
  else if name == "actions" then "channels"
  else name

/-- Takes one field over under its canonical name; an alias gives way to a field that is there. -/
def takeOver (normal : Entries String Value) (field : String × Value) : Entries String Value :=
  let canonical := canonicalName field.1
  if Entries.has normal canonical && field.1 != canonical then normal
  else Entries.put normal canonical field.2

def normalize (fields : Entries String Value) : Entries String Value := fields.foldl takeOver []

inductive Violation where
  | notMapping
  | ruleIdMissing
  | ruleIdNotText
  | conditionMissing
  | conditionInvalid (reason shown : String)
  | severityMissing
  | severityUnknown
  | channelsNotList
  | channelsNotNames
  | throttleInvalid
  | notText (name : String)
  | enabledNotFlag
  | unknownFields (names : List String)
  | field (fault : Check.Fault)
deriving DecidableEq, Repr

def Violation.message : Violation -> String
  | .notMapping => "rule must be a mapping"
  | .ruleIdMissing => "rule_id is required"
  | .ruleIdNotText => "rule_id must be a string"
  | .conditionMissing => "condition is required"
  | .conditionInvalid reason shown => "condition is invalid (" ++ reason ++ "): " ++ shown
  | .severityMissing => "severity is required"
  | .severityUnknown => "severity must be one of: " ++ ", ".intercalate Severity.names
  | .channelsNotList => "channels must be a list"
  | .channelsNotNames => "channels must contain only channel names"
  | .throttleInvalid => "throttle_minutes must be a non-negative number"
  | .notText name => name ++ " must be a string"
  | .enabledNotFlag => "enabled must be a boolean"
  | .unknownFields names => "unknown fields: " ++ ", ".intercalate names
  | .field fault => ".".intercalate fault.path ++ ": " ++ fault.problem.message

def checkRuleId (ruleId : Value) : List Violation :=
  if ruleId.isEmpty then [.ruleIdMissing]
  else match ruleId with
  | .text _ => []
  | _ => [.ruleIdNotText]

def checkCondition (condition : Value) : List Violation :=
  if condition.isEmpty then [.conditionMissing]
  else match Condition.compile condition with
  | .ok _ => []
  | .error fault => [.conditionInvalid fault.reason condition.literalText]

def checkSeverity (severity : Value) : List Violation :=
  if severity.isEmpty then [.severityMissing]
  else match severity with
  | .text name => if Severity.names.contains name then [] else [.severityUnknown]
  | _ => [.severityUnknown]

def checkChannels : Value -> List Violation
  | .null => []
  | .list channels =>
    if channels.all fun channel => channel.text?.isSome then [] else [.channelsNotNames]
  | _ => [.channelsNotList]

/-- A throttle must be a number that is not below zero; the undefined number passes here. -/
def checkThrottle : Option Value -> List Violation
  | none => []
  | some (.int number) => if number < 0 then [.throttleInvalid] else []
  | some (.float number) => if number < 0 then [.throttleInvalid] else []
  | some (.undefined _) => []
  | some _ => [.throttleInvalid]

def checkText (fields : Entries String Value) (name : String) : List Violation :=
  match Entries.get? fields name with
  | none => []
  | some .null => []
  | some (.text _) => []
  | some _ => [.notText name]

def checkEnabled : Option Value -> List Violation
  | none => []
  | some (.bool _) => []
  | some _ => [.enabledNotFlag]

def sortNames (names : List String) : List String :=
  names.mergeSort fun left right => decide (left <= right)

def checkUnknown (fields : Entries String Value) : List Violation :=
  let unknown := (Entries.keys fields).filter fun name => !fieldNames.contains name
  if unknown.isEmpty then [] else [.unknownFields (sortNames unknown)]

def violations (fields : Entries String Value) : List Violation :=
  let get := fun name => Value.ofOption (Entries.get? fields name)
  checkRuleId (get "rule_id") ++ checkCondition (get "condition") ++
    checkSeverity (get "severity") ++ checkChannels (get "channels") ++
    checkThrottle (Entries.get? fields "throttle_minutes") ++
    checkText fields "sensor_type" ++ checkText fields "device_id" ++
    checkText fields "description" ++ checkEnabled (Entries.get? fields "enabled") ++
    checkUnknown fields

def ruleId? (fields : Entries String Value) : Option String :=
  (Entries.get? fields "rule_id").bind Value.text?

end SensorAlerting.Rule.Definition
