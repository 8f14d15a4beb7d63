import SensorAlerting.Delivery.Limit
import SensorAlerting.Delivery.Report

set_option autoImplicit false

/-!
Channels and the transports under them. A transport answers each request after a while, or never;
a channel turns the answers of its targets into one report. Targets are served side by side, so
none of them affects another.
-/

namespace SensorAlerting.Delivery

open SensorAlerting.Number SensorAlerting.Time

inductive Reply where
  | accepted (status : Value)
  | refused (reason : String)
  | expired

/-- What a transport makes of one request: it answers after a delay, or never. -/
structure Behaviour where
  delay : Int
  reply : Option Reply

def failureText (channel reason : String) : String := channel ++ " delivery failed: " ++ reason

namespace Behaviour

def instant : Behaviour := { delay := 0, reply := some (.accepted (.int 200)) }

def endingFrom (behaviour : Behaviour) (start : Point) : Option Point :=
  behaviour.reply.map fun _ => start.afterWait behaviour.delay

end Behaviour

structure Transport where
  name : String
  behaviour : List String -> Behaviour

inductive Request where
  | email (recipients : List String) (subject body : String)
  | post (url : String) (payload : Value) (timeout : Value)
  | text (recipients : List String) (content : String)

def Request.toValue : Request -> Value
  | .email recipients subject body =>
    .mapping [("recipients", Value.ofTexts recipients), ("subject", .text subject),
      ("body", .text body)]
  | .post url payload timeout =>
    .mapping [("url", .text url), ("payload", payload), ("timeout", timeout)]
  | .text recipients content =>
    .mapping [("recipients", Value.ofTexts recipients), ("text", .text content)]

inductive Channel where
  | email (transport : Option Transport) (recipients : List String)
  | webhook (transport : Option Transport) (urls : List String) (timeout : Value)
  | sms (transport : Option Transport) (recipients : List String)
  | push
  | custom (report : Report) (behaviour : Behaviour)

def Channel.plain (name : String) (behaviour : Behaviour) : Channel :=
  .custom { channel := name, status := .sent, detail := none, results := [] } behaviour

inductive Ending where
  | reported (report : Report)
  | raised (reason : String)
  | expired

/-- An attempt to deliver one alert over one channel: the requests it starts with, each under the
name of its transport, when it is over, if it ends, how it ends, and how many turns it takes to cut
it off. -/
structure Attempt where
  requests : List (String × Request)
  finish : Option Point
  ending : Ending
  cutTurns : Nat

namespace Attempt

def immediate (start : Point) (ending : Ending) : Attempt :=
  { requests := [], finish := some start, ending, cutTurns := 3 }

def skipped (start : Point) (channel detail : String) : Attempt :=
  immediate start (.reported (.ofDetail channel .skipped detail))

end Attempt

def refusalOf : Reply -> String
  | .refused reason => reason
  | _ => ""

def allOver (start : Point) (tasks : List (Option Point)) : Option Point :=
  (latest start tasks).map Point.handOver

def sendEmail (transport : Transport) (recipients : List String) (alert : Alert) (start : Point) :
    Attempt :=
  let behaviour := transport.behaviour recipients
  { requests := [(transport.name, .email recipients alert.emailSubject alert.emailBody)]
    finish := behaviour.endingFrom start
    ending := .reported <|
      match behaviour.reply with
      | some (.accepted _) | none =>
        .ofResults "email" (recipients.map fun address => ⟨.recipient address, .accepted⟩)
      | some reply => .ofDetail "email" .failed (refusalOf reply)
    cutTurns := 3 }

def postOutcome (limit : Limit) (start : Point) (behaviour : Behaviour) : Outcome × Option Point :=
  let (finish, ended) := underLimit limit 3 start behaviour.endingFrom
  (match ended, behaviour.reply with
    | .cutOff, _ => .refused "timeout"
    | .failed reason, _ => .refused reason
    | .inTime, some (.accepted status) => .answered status
    | .inTime, some (.refused reason) => .refused reason
    | .inTime, _ => .refused "timeout", finish)

def Limit.admits : Limit -> Bool
  | .absent | .upTo _ => true
  | .spent | .unusable _ => false

/-- The turns it takes to end requests to web addresses: those that wait under a limit of their own
take longer. -/
def postCutTurns : Limit -> Nat
  | .upTo _ => 8
  | _ => 5

def sendWebhook (transport : Transport) (urls : List String) (timeout : Value) (alert : Alert)
    (sentAt : Moment) (start : Point) : Attempt :=
  let limit := Limit.ofValue timeout
  let payload := alert.webhookPayload sentAt.isoText
  let outcomes := urls.map fun url =>
    postOutcome limit (start.plus 1) (transport.behaviour [url])
  { requests := if limit.admits then
        urls.map fun url => (transport.name, .post url payload timeout)
      else []
    finish := allOver start (outcomes.map Prod.snd)
    ending := .reported <| .ofResults "webhook" <|
      (urls.zip outcomes).map fun (url, outcome, _) => ⟨.url url, outcome⟩
    cutTurns := postCutTurns limit }

def textOutcome (behaviour : Behaviour) : Outcome :=
  match behaviour.reply with
  | some (.accepted _) | none => .accepted
  | some reply => .refused (refusalOf reply)

def sendSms (transport : Transport) (recipients : List String) (alert : Alert) (start : Point) :
    Attempt :=
  let behaviours := recipients.map fun address => transport.behaviour [address]
  { requests := recipients.map fun address =>
      (transport.name, .text [address] alert.smsText)
    finish := allOver start (behaviours.map fun behaviour => behaviour.endingFrom (start.plus 1))
    ending := .reported <| .ofResults "sms" <|
      (recipients.zip behaviours).map fun (address, behaviour) =>
        ⟨.recipient address, textOutcome behaviour⟩
    cutTurns := 5 }

def sendCustom (report : Report) (behaviour : Behaviour) (start : Point) : Attempt :=
  { requests := []
    finish := behaviour.endingFrom start
    ending := match behaviour.reply with
      | some (.refused reason) => .raised reason
      | some .expired => .expired
      | _ => .reported report
    cutTurns := 3 }

/-- What a channel does with an alert from some point on. Without a transport or targets it does
nothing. -/
def Channel.send (channel : Channel) (alert : Alert) (sentAt : Moment) (start : Point) : Attempt :=
  match channel with
  | .email (some transport) recipients =>
    if recipients.isEmpty then .skipped start "email" "not_configured"
    else sendEmail transport recipients alert start
  | .email none _ => .skipped start "email" "not_configured"
  | .webhook (some transport) urls timeout =>
    if urls.isEmpty then .skipped start "webhook" "no_urls_configured"
    else sendWebhook transport urls timeout alert sentAt start
  | .webhook none _ _ => .skipped start "webhook" "no_urls_configured"
  | .sms (some transport) recipients =>
    if recipients.isEmpty then .skipped start "sms" "not_configured"
    else sendSms transport recipients alert start
  | .sms none _ => .skipped start "sms" "not_configured"
  | .push => .immediate start <| .reported
      { channel := "push", status := .notImplemented, detail := none, results := [] }
  | .custom report behaviour => sendCustom report behaviour start

end SensorAlerting.Delivery
