import SensorAlerting.Text.Case
import SensorAlerting.Text.Split
import SensorAlerting.Value.Use

set_option autoImplicit false

/-!
Variables of the environment that override single settings. They are applied one by one, in the
order of the table, to data that has not been checked yet.
-/

namespace SensorAlerting.Settings

open SensorAlerting.Number

/-- A variable, the section and the key that it sets, and how it is read. Without a section the key
is one of the whole settings. -/
structure Override where
  name : String
  group : Option String
  key : String
  parse : Value -> Except Misuse Value

inductive OverlayFault where
  | invalid (name shown : String)
  | notMapping (group : String)
  | misuse (misuse : Misuse)
deriving DecidableEq, Repr

def OverlayFault.message : OverlayFault -> String
  | .invalid name shown => "Invalid value for " ++ name ++ ": " ++ shown
  | .notMapping group => "Configuration section '" ++ group ++ "' must be a mapping"
  | .misuse _ => "Configuration variable of the wrong kind"

def parseLetters (change : String -> String) : Value -> Except Misuse Value
  | .text content => .ok (.text (change content))
  | _ => .error .wrongKind

def parseText (value : Value) : Except Misuse Value := .ok (.text value.plainText)

def parseFlag : Value -> Except Misuse Value
  | .text content =>
    let word := Text.lower (Text.trim content)
    if ["1", "true", "yes", "on"].contains word then .ok (.bool true)
    else if ["0", "false", "no", "off", ""].contains word then .ok (.bool false)
    else .error .impossible
  | _ => .error .noSuchPart

def parseTexts : Value -> Except Misuse Value
  | .text content =>
    let items := (Text.splitRuns ',' content.toList).map (Text.trimBy Text.isBlank)
    .ok (.list ((items.filter fun item => !item.isEmpty).map fun item =>
      .text (String.ofList item)))
  | _ => .error .noSuchPart

/-- A whole number; what a double has beyond one is cut. -/
def parseWhole : Value -> Except Misuse Value
  | .text content =>
    match readInt? content with
    | some number => .ok (.int number)
    | none => .error .impossible
  | .float number =>
    match truncate? number with
    | some whole => .ok (.int whole)
    | none => .error (if isUndefined number then .impossible else .tooLarge)
  | .undefined _ => .error .impossible
  | value => value.asWhole.map .int

def parseNumber (value : Value) : Except Misuse Value := value.asDouble.map .float

def overrides : List Override :=
  [⟨"LOG_LEVEL", some "logging", "level", parseLetters Text.upper⟩,
    ⟨"LOG_FORMAT", some "logging", "format", parseLetters Text.lower⟩,
    ⟨"REDIS_URL", some "redis", "url", parseText⟩,
    ⟨"REDIS_ENABLED", some "redis", "enabled", parseFlag⟩,
    ⟨"REDIS_STREAM", some "redis", "stream", parseText⟩,
    ⟨"SMTP_HOST", some "email", "smtp_host", parseText⟩,
    ⟨"SMTP_PORT", some "email", "smtp_port", parseWhole⟩,
    ⟨"SMTP_USER", some "email", "smtp_user", parseText⟩,
    ⟨"SMTP_PASS", some "email", "smtp_pass", parseText⟩,
    ⟨"EMAIL_FROM", some "email", "from_address", parseText⟩,
    ⟨"EMAIL_RECIPIENTS", some "email", "recipients", parseTexts⟩,
    ⟨"EMAIL_ENABLED", some "email", "enabled", parseFlag⟩,
    ⟨"TWILIO_ACCOUNT_SID", some "sms", "twilio_account_sid", parseText⟩,
    ⟨"TWILIO_AUTH_TOKEN", some "sms", "twilio_auth_token", parseText⟩,
    ⟨"TWILIO_PHONE_NUMBER", some "sms", "twilio_phone_number", parseText⟩,
    ⟨"SMS_RECIPIENTS", some "sms", "recipients", parseTexts⟩,
    ⟨"SMS_ENABLED", some "sms", "enabled", parseFlag⟩,
    ⟨"WEBHOOK_URLS", some "webhook", "urls", parseTexts⟩,
    ⟨"ANOMALY_DETECTION", some "processing", "anomaly_detection", parseFlag⟩,
    ⟨"CORRELATION", some "processing", "correlation", parseFlag⟩,
    ⟨"MAX_HISTORY_SIZE", some "processing", "max_history_size", parseWhole⟩,
    ⟨"CORRELATION_WINDOW_SECONDS", some "processing", "correlation_window_seconds", parseNumber⟩,
    ⟨"SENSOR_TIMEOUT_MINUTES", some "processing", "sensor_timeout_minutes", parseNumber⟩,
    ⟨"RULES_FILE", none, "rules_file", parseText⟩]

def setIn (data : Value) (group key : String) (value : Value) : Except OverlayFault Value :=
  let found := (data.field? group).getD (.mapping [])
  if found.isMapping then .ok (data.putField group (found.putField key value))
  else .error (.notMapping group)

def Override.apply (entry : Override) (environment : Entries String Value) (data : Value) :
    Except OverlayFault Value :=
  match Entries.get? environment entry.name with
  | none | some .null => .ok data
  | some stated =>
    match entry.parse stated, entry.group with
    | .error .impossible, _ => .error (.invalid entry.name stated.literalText)
    | .error misuse, _ => .error (.misuse misuse)
    | .ok value, none => .ok (data.putField entry.key value)
    | .ok value, some group => setIn data group entry.key value

def overlay (environment : Entries String Value) (data : Value) : Except OverlayFault Value :=
  overrides.foldlM (fun data entry => entry.apply environment data) data

end SensorAlerting.Settings
