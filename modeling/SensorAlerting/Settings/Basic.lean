import SensorAlerting.Settings.Sections

set_option autoImplicit false

namespace SensorAlerting

open SensorAlerting.Settings

structure Settings where
  service : Service
  logging : Logging
  storage : Storage
  email : Email
  sms : Sms
  webhook : Webhook
  processing : Processing
  dispatch : Dispatch
  rulesFile : Option String

namespace Settings

def sectionNames : List String :=
  ["service", "logging", "redis", "email", "sms", "webhook", "processing", "dispatch"]

/-- A section that may be left out: it then reads as one in which nothing is set. -/
def sectionIn {Item : Type} (fields : Entries String Value) (name : String)
    (check : Value -> Checked Item) : Checked Item :=
  (check ((Entries.get? fields name).getD (.mapping []))).inside name

def ofValue : Value -> Checked Settings :=
  Check.sectionOf "AppConfig" (sectionNames ++ ["rules_file"]) fun fields =>
    Settings.mk <$> sectionIn fields "service" Service.ofValue <*>
      sectionIn fields "logging" Logging.ofValue <*>
      sectionIn fields "redis" Storage.ofValue <*>
      sectionIn fields "email" Email.ofValue <*>
      sectionIn fields "sms" Sms.ofValue <*>
      sectionIn fields "webhook" Webhook.ofValue <*>
      sectionIn fields "processing" Processing.ofValue <*>
      sectionIn fields "dispatch" Dispatch.ofValue <*>
      Check.defaulted fields "rules_file" none optionalText

def toValue (settings : Settings) : Value :=
  .mapping [("service", settings.service.toValue), ("logging", settings.logging.toValue),
    ("redis", settings.storage.toValue), ("email", settings.email.toValue),
    ("sms", settings.sms.toValue), ("webhook", settings.webhook.toValue),
    ("processing", settings.processing.toValue), ("dispatch", settings.dispatch.toValue),
    ("rules_file", Value.ofText? settings.rulesFile)]

def isSet (content : Option String) : Bool := content.any fun content => !content.isEmpty

def Sms.hasCredentials (sms : Sms) : Bool :=
  isSet sms.accountId && isSet sms.authToken && isSet sms.phoneNumber

inductive ChannelWarning where
  | emailHost
  | emailRecipients
  | smsCredentials
  | smsRecipients
  | webhookUrls
deriving DecidableEq, Repr

def ChannelWarning.message : ChannelWarning -> String
  | .emailHost => "Email enabled but SMTP_HOST not configured"
  | .emailRecipients => "Email enabled but no recipients configured"
  | .smsCredentials => "SMS enabled but Twilio credentials not configured"
  | .smsRecipients => "SMS enabled but no recipients configured"
  | .webhookUrls => "Webhook enabled but no URLs configured"

def channelWarnings (settings : Settings) : List ChannelWarning :=
  (if settings.email.enabled then
    (if isSet settings.email.host then [] else [.emailHost]) ++
      (if settings.email.recipients.isEmpty then [.emailRecipients] else [])
  else []) ++
  (if settings.sms.enabled then
    (if settings.sms.hasCredentials then [] else [.smsCredentials]) ++
      (if settings.sms.recipients.isEmpty then [.smsRecipients] else [])
  else []) ++
  (if settings.webhook.enabled && settings.webhook.urls.isEmpty then [.webhookUrls] else [])

end Settings

end SensorAlerting
