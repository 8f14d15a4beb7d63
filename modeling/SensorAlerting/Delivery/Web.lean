import SensorAlerting.Delivery.Channel
import SensorAlerting.Value.Use

set_option autoImplicit false

/-!
Requests over the web. Alerts are posted to web addresses as data; text messages are sent one by one
through the account of a messaging service, up to the first one that fails. Addresses, texts and
timeouts are handed on as they were given.
-/

namespace SensorAlerting.Delivery

open SensorAlerting.Number

inductive WebContent where
  | data (payload : Value)
  | form (fields : Entries String Value)

structure WebRequest where
  url : Value
  content : WebContent
  alertId : Option String
  timeout : Value
  login : Value

def WebRequest.toValue (request : WebRequest) : Value :=
  let content :=
    match request.content with
    | .data payload => [("json", payload), ("data", .null)]
    | .form fields => [("json", .null), ("data", .mapping fields)]
  .mapping <| content ++
    [("url", request.url),
      ("headers", match request.alertId with
        | some alertId => .mapping [("X-Alert-ID", .text alertId)]
        | none => .null),
      ("timeout", request.timeout),
      ("login", request.login)]

inductive WebReply where
  | answered (status body : Value)
  | broken (reason : String)
  | expired

def WebReply.plain : WebReply := .answered (.int 200) (.text "")

def WebReply.ofValue (value : Value) : WebReply :=
  if value.flagAt "timeout_error" then .expired
  else match value.field? "client_error" with
    | some reason => .broken reason.plainText
    | none =>
      .answered ((value.field? "status").getD (.int 200)) ((value.field? "body").getD (.text ""))

def refusalStatus : Quantity := .whole 400

def quotedLength : Nat := 200

def quoted : Value -> Except Misuse String
  | .text content => .ok (String.ofList (content.toList.take quotedLength))
  | .list items => .ok (Value.list (items.take quotedLength)).plainText
  | _ => .error .wrongKind

def WebReply.judge (channel : String) : WebReply -> Except Misuse Reply
  | .answered status body => do
    if refusalStatus.isAtMost (<- status.asQuantity) then
      let reason := "HTTP " ++ status.plainText ++ ": " ++ (<- quoted body)
      .ok (.refused (failureText channel reason))
    else .ok (.accepted status)
  | .broken reason => .ok (.refused (failureText channel reason))
  | .expired => .ok .expired

structure WebhookPoster where
  timeout : Quantity

namespace WebhookPoster

def defaultTimeout : Value := .float 5

def alertIdOf? (payload : Value) : Option String := do
  let fields <- payload.fields?
  let alert <- ((Entries.get? fields "alert").getD (.mapping [])).fields?
  some (match Entries.get? alert "alert_id" with
    | some alertId => alertId.plainText
    | none => "")

def request? (url payload timeout : Value) : Option WebRequest :=
  (alertIdOf? payload).map fun alertId =>
    { url, content := .data payload, alertId := some alertId, timeout, login := .null }

end WebhookPoster

structure SmsAccount where
  accountId : Value
  phoneNumber : Value
  timeout : Value
  baseUrl : String

namespace SmsAccount

def defaultTimeout : Value := .float 10

def defaultBaseUrl : Value := .text "https://api.twilio.com/2010-04-01"

/-- The id of an account is the user name of a login and cannot hold a colon. -/
def checkId : Value -> Except Misuse Unit
  | .null => .error .impossible
  | .text content => if content.toList.contains ':' then .error .impossible else .ok ()
  | .list items =>
    if items.any fun item => item.text? == some ":" then .error .impossible else .ok ()
  | .mapping fields => if Entries.has fields ":" then .error .impossible else .ok ()
  | _ => .error .wrongKind

def create (accountId authToken phoneNumber timeout baseUrl : Value) :
    Except Misuse SmsAccount := do
  if accountId matches .null then throw .impossible
  if authToken matches .null then throw .impossible
  checkId accountId
  match baseUrl with
  | .text url =>
    let trimmed := url.toList.reverse.dropWhile fun letter => letter == '/'
    .ok { accountId, phoneNumber, timeout, baseUrl := String.ofList trimmed.reverse }
  | _ => .error .noSuchPart

def argumentNames : List String :=
  ["account_sid", "auth_token", "from_number", "timeout_seconds", "api_base"]

def ofValue (value : Value) : Except Misuse SmsAccount := do
  let fields <- value.asArguments argumentNames (argumentNames.take 3)
  let get := fun (name : String) (fallback : Value) => (Entries.get? fields name).getD fallback
  create (get "account_sid" .null) (get "auth_token" .null) (get "from_number" .null)
    (get "timeout_seconds" defaultTimeout) (get "api_base" defaultBaseUrl)

def messagesUrl (account : SmsAccount) : String :=
  account.baseUrl ++ "/Accounts/" ++ account.accountId.plainText ++ "/Messages.json"

def toValue (account : SmsAccount) : Value :=
  .mapping [("url", .text account.messagesUrl), ("from", account.phoneNumber),
    ("timeout", account.timeout)]

def request (account : SmsAccount) (content recipient : Value) : WebRequest :=
  { url := .text account.messagesUrl
    content := .form [("To", recipient), ("From", account.phoneNumber), ("Body", content)]
    alertId := none
    timeout := .null
    login := account.accountId }

def failure? (account : SmsAccount) (reply : WebReply) : Except Misuse (Option String) :=
  (reply.judge "sms").map fun
    | .accepted _ => none
    | .refused reason => some reason
    | .expired => some (failureText "sms" ("timeout after " ++ account.timeout.plainText ++ "s"))

/-- Sends a text to each recipient in turn, given what will come back: the requests made, and the
failure that ended the sending if any. -/
def send (account : SmsAccount) (content : Value) :
    List Value -> List WebReply -> List WebRequest × Except Misuse (Option String)
  | [], _ => ([], .ok none)
  | recipient :: rest, replies =>
    let request := account.request content recipient
    match account.failure? (replies.headD .plain) with
    | .ok none =>
      let (requests, failure) := send account content rest (replies.drop 1)
      (request :: requests, failure)
    | failure => ([request], failure)

end SmsAccount

end SensorAlerting.Delivery
