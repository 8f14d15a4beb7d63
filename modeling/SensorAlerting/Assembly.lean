import SensorAlerting.Delivery.Mail
import SensorAlerting.Delivery.Web
import SensorAlerting.Settings.Basic
import SensorAlerting.Worker.Basic

set_option autoImplicit false

namespace SensorAlerting

open SensorAlerting.Delivery SensorAlerting.Detection SensorAlerting.Number SensorAlerting.Time

inductive AssemblyFault where
  | accountId
  | misuse (misuse : Misuse)
  | number (fault : Fault)
deriving DecidableEq, Repr

structure Accounts where
  mail : Option MailAccount
  poster : Option WebhookPoster
  sms : Option SmsAccount

/-- What the world makes of requests: the behaviour of each channel's transport towards some
targets. -/
abbrev Network := String -> List String -> Behaviour

def Network.accepting : Network := fun _ _ => .instant

namespace Settings

def mailAccount? (settings : Settings) : Option MailAccount :=
  let email := settings.email
  if email.enabled && isSet email.host then
    some (.create (.ofText? email.host) (.int email.port) (.ofText? email.user)
      (.ofText? email.password) email.useTls (.ofText? email.sender) MailAccount.defaultTimeout)
  else none

def poster? (settings : Settings) : Option WebhookPoster :=
  if settings.webhook.enabled && !settings.webhook.urls.isEmpty then
    some { timeout := .real settings.webhook.timeoutSeconds }
  else none

def smsAccount (settings : Settings) : Except AssemblyFault (Option SmsAccount) :=
  let sms := settings.sms
  if sms.enabled && sms.hasCredentials then
    match SmsAccount.create (.ofText? sms.accountId) (.ofText? sms.authToken)
        (.ofText? sms.phoneNumber) SmsAccount.defaultTimeout SmsAccount.defaultBaseUrl with
    | .ok account => .ok (some account)
    | .error _ => .error .accountId
  else .ok none

def accounts (settings : Settings) : Except AssemblyFault Accounts := do
  let sms <- settings.smsAccount
  return { mail := settings.mailAccount?, poster := settings.poster?, sms }

def channels (settings : Settings) (accounts : Accounts) (network : Network) :
    List (String × Channel) :=
  let transport := fun (name : String) => ({ name, behaviour := network name } : Transport)
  [("email", .email (accounts.mail.map fun _ => transport "email") settings.email.recipients),
    ("webhook", .webhook (accounts.poster.map fun _ => transport "webhook") settings.webhook.urls
      (.float settings.webhook.timeoutSeconds)),
    ("sms", .sms (accounts.sms.map fun _ => transport "sms") settings.sms.recipients),
    ("push", .push)]

def dispatcherSettings (settings : Settings) : Except AssemblyFault DispatcherSettings :=
  let dispatch := settings.dispatch
  (DispatcherSettings.create (.real dispatch.windowSeconds) (.real dispatch.retentionSeconds)
    (.float dispatch.channelTimeoutSeconds) (.int dispatch.queueSize)
    (.int dispatch.historySize)).mapError .misuse

def buildDispatcher (settings : Settings) (channels : List (String × Channel)) :
    Except AssemblyFault Dispatcher :=
  settings.dispatcherSettings.map fun chosen => .create chosen channels

def anomalySettings? (settings : Settings) : Option AnomalySettings :=
  if settings.processing.anomalyDetection then
    some
      { channels := settings.processing.anomalyChannels.map .text
        maxHistorySize := .int settings.processing.maxHistorySize
        validRanges := defaultValidRanges }
  else none

def correlationSettings (settings : Settings) :
    Except AssemblyFault (Option CorrelationSettings) :=
  let processing := settings.processing
  if processing.correlation then
    ((spanOf second (.real processing.correlationWindowSeconds)).mapError .number).map fun window =>
      some
        { CorrelationSettings.default with
          window
          stationaryMinEvents := .int processing.stationaryMinEvents
          bufferSize := .int processing.locationBufferSize }
  else .ok none

def workerSettings (settings : Settings) : Except AssemblyFault WorkerSettings :=
  let processing := settings.processing
  ((spanOf second (.real processing.rateWindowSeconds)).mapError .number).map fun rateWindow =>
    { sensorTimeout := .real processing.sensorTimeoutMinutes
      checkSeconds := .real settings.service.sensorCheckSeconds
      failureChannels := processing.anomalyChannels
      slowEventSeconds := .real processing.slowEventSeconds
      rateWindow }

def evaluators (settings : Settings) : Except AssemblyFault Evaluators := do
  let correlation <- settings.correlationSettings
  .ok
    { throttles := .empty
      anomaly := settings.anomalySettings?.map .start
      correlation := correlation.map .start }

def buildWorker (settings : Settings) (rules : RuleStore) (sink : Sink) (dispatcher : Dispatcher) :
    Except AssemblyFault Worker := do
  let evaluators <- settings.evaluators
  let chosen <- settings.workerSettings
  return .create chosen rules evaluators sink dispatcher

end Settings

structure Assembly where
  settings : Settings
  accounts : Accounts
  worker : Worker

namespace Assembly

def build (settings : Settings) (rules : RuleStore) (sink : Sink) (network : Network) :
    Except AssemblyFault Assembly := do
  let accounts <- settings.accounts
  let dispatcher <- settings.buildDispatcher (settings.channels accounts network)
  let worker <- settings.buildWorker rules sink dispatcher
  return { settings, accounts, worker }

def optional {Item : Type} (encode : Item -> Value) (item : Option Item) : Value :=
  Value.ofOption (item.map encode)

def channelsToValue (assembly : Assembly) : Entries String Value :=
  let settings := assembly.settings
  let timeout := Value.float settings.webhook.timeoutSeconds
  [("email", .mapping [("recipients", Value.ofTexts settings.email.recipients),
      ("sender", optional MailAccount.toValue assembly.accounts.mail)]),
    ("webhook", .mapping [("urls", Value.ofTexts settings.webhook.urls), ("timeout", timeout),
      ("poster", optional (fun poster => .mapping [("timeout", Value.ofQuantity poster.timeout)])
        assembly.accounts.poster)]),
    ("sms", .mapping [("recipients", Value.ofTexts settings.sms.recipients),
      ("sender", optional SmsAccount.toValue assembly.accounts.sms)])]

def dispatcherToValue (dispatcher : Dispatcher) : Value :=
  .mapping [("channels", Value.ofTexts dispatcher.available),
    ("dedup_window", .float (spanSeconds dispatcher.settings.window)),
    ("dedup_retention", .float (spanSeconds dispatcher.settings.retention)),
    ("timeout", dispatcher.settings.timeout)]

def workerToValue (worker : Worker) : Value :=
  .mapping [
    ("anomaly", optional (fun detector => .mapping [
      ("channels", .list detector.settings.channels),
      ("max_history_size", detector.settings.maxHistorySize)]) worker.evaluators.anomaly),
    ("correlation", optional (fun tracker => .mapping [
      ("window", .float (spanSeconds tracker.settings.window)),
      ("stationary_min_events", tracker.settings.stationaryMinEvents),
      ("buffer_size", tracker.settings.bufferSize)]) worker.evaluators.correlation),
    ("sensor_timeout_minutes", Value.ofQuantity worker.settings.sensorTimeout),
    ("check_interval", Value.ofQuantity worker.settings.checkSeconds),
    ("failure_channels", Value.ofTexts worker.settings.failureChannels),
    ("slow_event_seconds", Value.ofQuantity worker.settings.slowEventSeconds),
    ("rate_window", .float (spanSeconds worker.settings.rateWindow))]

def toValue (assembly : Assembly) : Value :=
  .mapping <| assembly.channelsToValue ++
    [("dispatcher", dispatcherToValue assembly.worker.dispatcher),
      ("worker", workerToValue assembly.worker)]

end Assembly

end SensorAlerting
