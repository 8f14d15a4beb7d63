import SensorAlerting.Delivery.Dispatcher

set_option autoImplicit false

namespace SensorAlerting.Delivery

open SensorAlerting.Number SensorAlerting.Time

/-- A request takes its delay, and then hangs, fails, runs out of time or succeeds. A delay without
end is as good as hanging. -/
def Behaviour.ofValue (channel : String) (value : Value) : Behaviour :=
  let delay := waitOf (value.quantityAt "delay" (.whole 0))
  { delay := match delay with
      | .ok (some wait) => max 0 wait
      | _ => 0
    reply :=
      if value.flagAt "hang" || delay matches .ok none then none
      else match value.field? "fail", value.field? "raise" with
      | some reason, _ => some (.refused (failureText channel reason.plainText))
      | none, some reason => some (.refused reason.plainText)
      | none, none =>
        some (if value.flagAt "timeout_error" then .expired
          else .accepted ((value.field? "status").getD (.int 200))) }

def Transport.ofValue (name channel : String) (byTarget : Bool) (value : Value) :
    Option Transport :=
  match value.get "transport" with
  | .bool false => none
  | _ =>
    let behaviours := value.get "behavior"
    some
      { name
        behaviour := fun targets => Behaviour.ofValue channel <|
          if byTarget then behaviours.get (targets.headD "") else behaviours }

def defaultWebhookTimeout : Value := .float 5

def Channel.ofValue (name : String) (value : Value) : Channel :=
  let targets := fun (name : String) =>
    ((value.get name).asItems.toOption.getD []).map Value.plainText
  let recipients := targets "recipients"
  match value.textAt "kind" with
  | "email" => .email (Transport.ofValue name "email" false value) recipients
  | "webhook" =>
    .webhook (Transport.ofValue name "webhook" true value) (targets "urls")
      ((value.field? "timeout").getD defaultWebhookTimeout)
  | "sms" => .sms (Transport.ofValue name "sms" true value) recipients
  | "push" => .push
  | _ => .plain name (Behaviour.ofValue name (value.get "behavior"))

def channelsOfValue (value : Value) : List (String × Channel) :=
  value.fields.map fun entry => (entry.1, Channel.ofValue entry.1 entry.2)

def sentValue (sent : List (String × Request)) : Value :=
  .mapping <| (distinct (sent.map Prod.fst)).map fun name =>
    (name, .list ((sent.filter fun entry => entry.1 == name).map fun entry => entry.2.toValue))

end SensorAlerting.Delivery
