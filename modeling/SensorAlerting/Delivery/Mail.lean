import SensorAlerting.Delivery.Channel
import SensorAlerting.Delivery.Header

set_option autoImplicit false

/-!
Mail accounts. A message goes to all its recipients in one conversation with the mail server, which
ends at the first command that the server refuses. A message of which a header cannot be written is
not sent at all. What an account holds is handed on as it was given.
-/

namespace SensorAlerting.Delivery

structure MailAccount where
  host : Value
  port : Value
  user : Value
  password : Value
  useTls : Bool
  sender : Value
  timeout : Value

inductive MailCommand where
  | connect (host port timeout : Value)
  | secure
  | login (user password : Value)
  | deliver (sender : Value) (recipients : List Value)

def MailCommand.toValue : MailCommand -> Value
  | .connect host port timeout => .list [.text "connect", host, port, timeout]
  | .secure => .list [.text "starttls"]
  | .login user password => .list [.text "login", user, password]
  | .deliver sender recipients => .list [.text "sendmail", sender, .list recipients]

structure MailMessage where
  subject : Value
  sender : Value
  recipients : String
  contentType : String
  body : String

def MailMessage.headers (message : MailMessage) : List Value :=
  [message.subject, message.sender, .text message.recipients]

def MailMessage.fault? (message : MailMessage) : Option HeaderFault :=
  message.headers.findSome? headerFault?

namespace MailAccount

def defaultPort : Int := 587

def defaultTimeout : Value := .float 10

def defaultSender : Value := .text "alerts@localhost"

/-- An account whose mail comes from the given address, else from its user. -/
def create (host port user password : Value) (useTls : Bool) (address timeout : Value) :
    MailAccount :=
  { host
    port
    user
    password
    useTls
    sender := ([address, user].find? fun content => !content.isEmpty).getD defaultSender
    timeout }

def argumentNames : List String :=
  ["host", "port", "username", "password", "use_tls", "from_address", "timeout_seconds"]

def ofValue (value : Value) : Except Misuse MailAccount := do
  let fields <- value.asArguments argumentNames ["host"]
  let get := fun (name : String) (fallback : Value) => (Entries.get? fields name).getD fallback
  .ok <| create (get "host" .null) (get "port" (.int defaultPort)) (get "username" .null)
    (get "password" .null) (!(get "use_tls" (.bool true)).isEmpty) (get "from_address" .null)
    (get "timeout_seconds" defaultTimeout)

def toValue (account : MailAccount) : Value :=
  .mapping [("host", account.host), ("port", account.port), ("use_tls", .bool account.useTls),
    ("from_address", account.sender), ("timeout_seconds", account.timeout)]

def message (account : MailAccount) (recipients subject body : Value) :
    Except Misuse MailMessage := do
  let recipients <- recipients.asItems
  let names <- recipients.mapM fun recipient =>
    match recipient with
    | .text name => .ok name
    | _ => .error .wrongKind
  match body with
  | .text body =>
    .ok
      { subject
        sender := account.sender
        recipients := ", ".intercalate names
        contentType := "multipart/alternative"
        body }
  | _ => .error .noSuchPart

def loginCommands (account : MailAccount) : List MailCommand :=
  if account.user.isEmpty || account.password.isEmpty then []
  else [.login account.user account.password]

def commands (account : MailAccount) (recipients : List Value) : List MailCommand :=
  [.connect account.host account.port account.timeout] ++
    (if account.useTls then [.secure] else []) ++ account.loginCommands ++
    [.deliver account.sender recipients]

end MailAccount

abbrev MailServer := MailCommand -> Option String

def converse (server : MailServer) : List MailCommand -> List MailCommand × Option String
  | [] => ([], none)
  | command :: rest =>
    match server command with
    | some reason => ([command], some (failureText "email" reason))
    | none =>
      let (said, refusal) := converse server rest
      (command :: said, refusal)

def MailServer.failingAt (stage : String) : MailServer
  | .connect _ _ _ => if stage == "connect" then some "connection refused" else none
  | .login _ _ => if stage == "login" then some "bad login" else none
  | .deliver _ _ => if stage == "sendmail" then some "rejected" else none
  | .secure => none

end SensorAlerting.Delivery
