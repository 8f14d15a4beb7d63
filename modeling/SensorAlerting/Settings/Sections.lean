import SensorAlerting.Check.Fields
import SensorAlerting.Text.Case

set_option autoImplicit false

namespace SensorAlerting.Settings

open SensorAlerting.Number

inductive LogFormat where
  | json
  | console
deriving DecidableEq, Repr

def LogFormat.name : LogFormat -> String
  | .json => "json"
  | .console => "console"

inductive LogLevel where
  | debug
  | info
  | warning
  | error
  | critical
deriving DecidableEq, Repr

def LogLevel.name : LogLevel -> String
  | .debug => "DEBUG"
  | .info => "INFO"
  | .warning => "WARNING"
  | .error => "ERROR"
  | .critical => "CRITICAL"

def logLevel (value : Value) : Checked LogLevel :=
  Check.oneOf ([LogLevel.debug, .info, .warning, .error, .critical].map fun level =>
    (level.name, level)) <|
    match value with
    | .text content => .text (Text.upper content)
    | value => value

def logFormat : Value -> Checked LogFormat :=
  Check.oneOf ([LogFormat.json, .console].map fun format => (format.name, format))

def texts : Value -> Checked (List String) := Check.listOf Check.text

def optionalText : Value -> Checked (Option String) := Check.optional Check.text

structure Service where
  name : String
  sensorCheckSeconds : Float
  metricsLogSeconds : Float

namespace Service

def fieldNames : List String :=
  ["name", "sensor_check_interval_seconds", "metrics_log_interval_seconds"]

def ofValue : Value -> Checked Service :=
  Check.sectionOf "ServiceConfig" fieldNames fun fields =>
    Service.mk <$> Check.defaulted fields "name" "sensor-analytics" Check.text <*>
      Check.defaulted fields "sensor_check_interval_seconds" 60 (Check.above 0) <*>
      Check.defaulted fields "metrics_log_interval_seconds" 60 (Check.above 0)

def toValue (service : Service) : Value :=
  .mapping [("name", .text service.name),
    ("sensor_check_interval_seconds", .float service.sensorCheckSeconds),
    ("metrics_log_interval_seconds", .float service.metricsLogSeconds)]

end Service

structure Logging where
  format : LogFormat
  level : LogLevel
deriving DecidableEq, Repr

namespace Logging

def ofValue : Value -> Checked Logging :=
  Check.sectionOf "LoggingConfig" ["format", "level"] fun fields =>
    Logging.mk <$> Check.defaulted fields "format" .json logFormat <*>
      Check.defaulted fields "level" .info logLevel

def toValue (logging : Logging) : Value :=
  .mapping [("format", .text logging.format.name), ("level", .text logging.level.name)]

end Logging

structure Storage where
  enabled : Bool
  url : String
  database : Int
  maxConnections : Int
  socketTimeout : Float
  stream : String
  consumerGroup : String
  consumerName : Option String
  readCount : Int
  blockMillis : Int
  latestSeconds : Int
  recentLimit : Int

namespace Storage

def fieldNames : List String :=
  ["enabled", "url", "db", "max_connections", "socket_timeout", "stream", "consumer_group",
    "consumer_name", "read_count", "block_ms", "latest_ttl_seconds", "recent_events_limit"]

def ofValue : Value -> Checked Storage :=
  Check.sectionOf "RedisConfig" fieldNames fun fields =>
    Storage.mk <$> Check.defaulted fields "enabled" true Check.flag <*>
      Check.defaulted fields "url" "redis://localhost:6379" Check.text <*>
      Check.defaulted fields "db" 0 (Check.integerFrom 0) <*>
      Check.defaulted fields "max_connections" 10 (Check.integerFrom 1) <*>
      Check.defaulted fields "socket_timeout" 10 (Check.above 0) <*>
      Check.defaulted fields "stream" "sensor-events" Check.text <*>
      Check.defaulted fields "consumer_group" "analytics-workers" Check.text <*>
      Check.defaulted fields "consumer_name" none optionalText <*>
      Check.defaulted fields "read_count" 10 (Check.integerFrom 1) <*>
      Check.defaulted fields "block_ms" 5000 (Check.integerFrom 0) <*>
      Check.defaulted fields "latest_ttl_seconds" 3600 (Check.integerFrom 1) <*>
      Check.defaulted fields "recent_events_limit" 1000 (Check.integerFrom 1)

def toValue (storage : Storage) : Value :=
  .mapping [("enabled", .bool storage.enabled), ("url", .text storage.url),
    ("db", .int storage.database), ("max_connections", .int storage.maxConnections),
    ("socket_timeout", .float storage.socketTimeout), ("stream", .text storage.stream),
    ("consumer_group", .text storage.consumerGroup),
    ("consumer_name", Value.ofText? storage.consumerName), ("read_count", .int storage.readCount),
    ("block_ms", .int storage.blockMillis), ("latest_ttl_seconds", .int storage.latestSeconds),
    ("recent_events_limit", .int storage.recentLimit)]

end Storage

structure Email where
  enabled : Bool
  host : Option String
  port : Int
  user : Option String
  password : Option String
  useTls : Bool
  sender : Option String
  recipients : List String
deriving DecidableEq, Repr

namespace Email

def fieldNames : List String :=
  ["enabled", "smtp_host", "smtp_port", "smtp_user", "smtp_pass", "use_tls", "from_address",
    "recipients"]

def ofValue : Value -> Checked Email :=
  Check.sectionOf "EmailConfig" fieldNames fun fields =>
    Email.mk <$> Check.defaulted fields "enabled" false Check.flag <*>
      Check.defaulted fields "smtp_host" none optionalText <*>
      Check.defaulted fields "smtp_port" 587 (Check.integerBetween 1 65535) <*>
      Check.defaulted fields "smtp_user" none optionalText <*>
      Check.defaulted fields "smtp_pass" none optionalText <*>
      Check.defaulted fields "use_tls" true Check.flag <*>
      Check.defaulted fields "from_address" none optionalText <*>
      Check.defaulted fields "recipients" [] texts

def toValue (email : Email) : Value :=
  .mapping [("enabled", .bool email.enabled), ("smtp_host", Value.ofText? email.host),
    ("smtp_port", .int email.port), ("smtp_user", Value.ofText? email.user),
    ("smtp_pass", Value.ofText? email.password), ("use_tls", .bool email.useTls),
    ("from_address", Value.ofText? email.sender),
    ("recipients", .list (email.recipients.map .text))]

end Email

structure Sms where
  enabled : Bool
  accountId : Option String
  authToken : Option String
  phoneNumber : Option String
  recipients : List String
deriving DecidableEq, Repr

namespace Sms

def fieldNames : List String :=
  ["enabled", "twilio_account_sid", "twilio_auth_token", "twilio_phone_number", "recipients"]

def ofValue : Value -> Checked Sms :=
  Check.sectionOf "SmsConfig" fieldNames fun fields =>
    Sms.mk <$> Check.defaulted fields "enabled" false Check.flag <*>
      Check.defaulted fields "twilio_account_sid" none optionalText <*>
      Check.defaulted fields "twilio_auth_token" none optionalText <*>
      Check.defaulted fields "twilio_phone_number" none optionalText <*>
      Check.defaulted fields "recipients" [] texts

def toValue (sms : Sms) : Value :=
  .mapping [("enabled", .bool sms.enabled), ("twilio_account_sid", Value.ofText? sms.accountId),
    ("twilio_auth_token", Value.ofText? sms.authToken),
    ("twilio_phone_number", Value.ofText? sms.phoneNumber),
    ("recipients", .list (sms.recipients.map .text))]

end Sms

structure Webhook where
  enabled : Bool
  urls : List String
  timeoutSeconds : Float

namespace Webhook

def ofValue : Value -> Checked Webhook :=
  Check.sectionOf "WebhookConfig" ["enabled", "urls", "timeout_seconds"] fun fields =>
    Webhook.mk <$> Check.defaulted fields "enabled" true Check.flag <*>
      Check.defaulted fields "urls" [] texts <*>
      Check.defaulted fields "timeout_seconds" 5 (Check.above 0)

def toValue (webhook : Webhook) : Value :=
  .mapping [("enabled", .bool webhook.enabled), ("urls", .list (webhook.urls.map .text)),
    ("timeout_seconds", .float webhook.timeoutSeconds)]

end Webhook

structure Processing where
  anomalyDetection : Bool
  correlation : Bool
  maxHistorySize : Int
  correlationWindowSeconds : Float
  stationaryMinEvents : Int
  locationBufferSize : Int
  sensorTimeoutMinutes : Float
  anomalyChannels : List String
  slowEventSeconds : Float
  rateWindowSeconds : Float

namespace Processing

def fieldNames : List String :=
  ["anomaly_detection", "correlation", "max_history_size", "correlation_window_seconds",
    "stationary_min_events", "location_buffer_size", "sensor_timeout_minutes",
    "anomaly_channels", "slow_event_seconds", "rate_window_seconds"]

def ofValue : Value -> Checked Processing :=
  Check.sectionOf "ProcessingConfig" fieldNames fun fields =>
    Processing.mk <$> Check.defaulted fields "anomaly_detection" true Check.flag <*>
      Check.defaulted fields "correlation" true Check.flag <*>
      Check.defaulted fields "max_history_size" 100 (Check.integerFrom 10) <*>
      Check.defaulted fields "correlation_window_seconds" 60 (Check.above 0) <*>
      Check.defaulted fields "stationary_min_events" 5 (Check.integerFrom 0) <*>
      Check.defaulted fields "location_buffer_size" 100 (Check.integerFrom 1) <*>
      Check.defaulted fields "sensor_timeout_minutes" 10 (Check.above 0) <*>
      Check.defaulted fields "anomaly_channels" ["email", "webhook"] texts <*>
      Check.defaulted fields "slow_event_seconds" 1 (Check.above 0) <*>
      Check.defaulted fields "rate_window_seconds" 10 (Check.above 0)

def toValue (processing : Processing) : Value :=
  .mapping [("anomaly_detection", .bool processing.anomalyDetection),
    ("correlation", .bool processing.correlation),
    ("max_history_size", .int processing.maxHistorySize),
    ("correlation_window_seconds", .float processing.correlationWindowSeconds),
    ("stationary_min_events", .int processing.stationaryMinEvents),
    ("location_buffer_size", .int processing.locationBufferSize),
    ("sensor_timeout_minutes", .float processing.sensorTimeoutMinutes),
    ("anomaly_channels", .list (processing.anomalyChannels.map .text)),
    ("slow_event_seconds", .float processing.slowEventSeconds),
    ("rate_window_seconds", .float processing.rateWindowSeconds)]

end Processing

structure Dispatch where
  windowSeconds : Float
  retentionSeconds : Float
  channelTimeoutSeconds : Float
  queueSize : Int
  historySize : Int

namespace Dispatch

def fieldNames : List String :=
  ["dedup_window_seconds", "dedup_retention_seconds", "channel_timeout_seconds", "queue_size",
    "delivery_history_size"]

def ofValue : Value -> Checked Dispatch :=
  Check.sectionOf "DispatchConfig" fieldNames fun fields =>
    Dispatch.mk <$> Check.defaulted fields "dedup_window_seconds" 300 (Check.numberFrom 0) <*>
      Check.defaulted fields "dedup_retention_seconds" 3600 (Check.numberFrom 0) <*>
      Check.defaulted fields "channel_timeout_seconds" 10 (Check.above 0) <*>
      Check.defaulted fields "queue_size" 1000 (Check.integerFrom 1) <*>
      Check.defaulted fields "delivery_history_size" 1000 (Check.integerFrom 1)

def toValue (dispatch : Dispatch) : Value :=
  .mapping [("dedup_window_seconds", .float dispatch.windowSeconds),
    ("dedup_retention_seconds", .float dispatch.retentionSeconds),
    ("channel_timeout_seconds", .float dispatch.channelTimeoutSeconds),
    ("queue_size", .int dispatch.queueSize),
    ("delivery_history_size", .int dispatch.historySize)]

end Dispatch

end SensorAlerting.Settings
