import SensorAlerting.Settings.Load
import SensorAlerting.Value.Access

set_option autoImplicit false

namespace SensorAlerting.Service

inductive Call where
  | logging (level : Settings.LogLevel) (format : Settings.LogFormat)
  | prepare
  | work
  | cleanUp
deriving DecidableEq, Repr

def Call.toValue : Call -> Value
  | .logging level format => Value.ofTexts ["logging", level.name, format.name]
  | .prepare => .text "initialize"
  | .work => .text "run"
  | .cleanUp => .text "cleanup"

inductive Phase where
  | preparation
  | work
deriving DecidableEq, Repr

def Phase.ofName? (name : String) : Option Phase :=
  if name == "initialize" then some .preparation
  else if name == "run" then some .work
  else none

def phases : Option Phase -> List Call
  | some .preparation => [.prepare]
  | _ => [.prepare, .work]

def lifeOf (settings : Settings) (failure : Option Phase) : List Call :=
  .logging settings.logging.level settings.logging.format :: phases failure ++ [.cleanUp]

def lifecycle {LoadFault : Type} (loaded : Except LoadFault Settings) (failure : Option Phase) :
    List Call :=
  match loaded with
  | .error _ => []
  | .ok settings => lifeOf settings failure

end SensorAlerting.Service
