import SensorAlerting.Assembly
import SensorAlerting.Rule.File
import SensorAlerting.RuleStore.Data
import SensorAlerting.Worker.Timeline

set_option autoImplicit false

namespace SensorAlerting.Service

open SensorAlerting.Delivery SensorAlerting.Time

def name : String := "analytics-worker"

inductive ServiceFault where
  | rules (fault : Rule.RulesFault)
  | store (fault : StoreFault)
  | assembly (fault : AssemblyFault)
  | stop (fault : StopFault)
  | metrics (fault : MetricsFault)

structure ServiceReport where
  ruleIds : List String
  outcomes : List (Except WorkerFault (List Alert))
  metrics : Metrics
  deliveries : DeliveryStats

def rulesFor (settings : Settings) (folder : Folder) (now : Moment) :
    Except ServiceFault RuleStore :=
  if Settings.isSet settings.rulesFile then do
    let definitions <-
      (Rule.loadDefinitions folder (.text (settings.rulesFile.getD ""))).mapError .rules
    let (rules, _) <- (RuleStore.empty.importItems now definitions).mapError .store
    .ok rules
  else .ok .empty

def prepare (settings : Settings) (folder : Folder) (now : Moment) :
    Except ServiceFault Assembly := do
  let rules <- rulesFor settings folder now
  let sink := Sink.memory (.empty (.int settings.storage.recentLimit))
  (Assembly.build settings rules sink .accepting).mapError .assembly

def handleAll (now : Moment) :
    Worker -> List Value -> Worker × List (Except WorkerFault (List Alert))
  | worker, [] => (worker, [])
  | worker, payload :: rest =>
    let (worker, outcome) := worker.handle now payload
    let (worker, outcomes) := handleAll now worker rest
    (worker, outcome :: outcomes)

def run (settings : Settings) (folder : Folder) (now : Moment) (payloads : List Value) :
    Except ServiceFault ServiceReport := do
  let assembly <- prepare settings folder now
  let plant := (Plant.create assembly.worker (.create 0 0)).start now false
  let (worker, outcomes) := handleAll now plant.worker payloads
  let (plant, fault) := { plant with worker }.stop now
  match fault with
  | some fault => .error (.stop fault)
  | none =>
    let metrics <- (plant.worker.metrics now).mapError .metrics
    .ok
      { ruleIds := plant.worker.rules.ids
        outcomes
        metrics
        deliveries := plant.worker.dispatcher.stats }

end SensorAlerting.Service
