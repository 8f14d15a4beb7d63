import SensorAlerting.RuleStore

set_option autoImplicit false

/-!
Operations of the rule store on arguments given as data. A rule is looked up under any value that
can be a key, and found only under a text; arguments of the wrong kind are faults.
-/

namespace SensorAlerting.RuleStore

open SensorAlerting.Time SensorAlerting.Rule.Definition

def misuse {Item : Type} (outcome : Except Misuse Item) : Except StoreFault Item :=
  outcome.mapError .misuse

def getBy (store : RuleStore) (ruleId : Value) : Except StoreFault Rule := do
  match <- misuse ruleId.asKey with
  | some name => store.get name
  | none => .error (.missing (.rule ruleId.plainText))

def containsBy (store : RuleStore) (ruleId : Value) : Except StoreFault Bool :=
  (misuse ruleId.asKey).map fun name => name.any store.contains

def deleteBy (store : RuleStore) (ruleId : Value) : Except StoreFault (Bool × RuleStore) :=
  (misuse ruleId.asKey).map fun name => (name.map store.delete).getD (false, store)

def toggleBy (store : RuleStore) (now : Moment) (ruleId enabled : Value) :
    Except StoreFault (Rule × RuleStore) := do
  match <- misuse ruleId.asKey with
  | some name => store.toggle now name (!enabled.isEmpty)
  | none => .error (.missing (.rule ruleId.plainText))

def tryBy (store : RuleStore) (now : Moment) (ruleId sample : Value) : Except StoreFault Trial := do
  let rule <- store.getBy ruleId
  store.tryRule now rule.ruleId sample

def addAgain (store : RuleStore) (now : Moment) (ruleId : Value) :
    Except StoreFault (Rule × RuleStore) := do
  let rule <- store.getBy ruleId
  store.add now (definitionOf rule)

def filterNames : List String := ["sensor_type", "device_id", "severity", "enabled"]

/-- The filters that data states; null stands for no filter, and unknown ones are refused. -/
def filterOf : Value -> Except StoreFault RuleFilter
  | .null => .ok .everything
  | .mapping fields =>
    let filter := fun name => match Entries.get? fields name with
      | some .null => none
      | wanted => wanted
    if (Entries.keys fields).all filterNames.contains then
      .ok { sensorType := filter "sensor_type", deviceId := filter "device_id"
            severity := filter "severity", enabled := filter "enabled" }
    else .error (.misuse .wrongKind)
  | _ => .error (.misuse .wrongKind)

def listBy (store : RuleStore) (filters : Value) : Except StoreFault (List Rule) :=
  (filterOf filters).bind store.list

def exportBy (store : RuleStore) (filters : Value) : Except StoreFault (List Value) :=
  (filterOf filters).bind store.exportRules

/-- Whether a definition has keys other than texts, of which the names of unknown fields cannot be
told. -/
def hasForeignKeys : Value -> Bool
  | .table _ => true
  | _ => false

def namedFields : Value -> Entries String Value
  | .mapping fields => fields
  | .table entries => Value.named entries
  | _ => []

/-- Whether the message on a condition that is no text would have to show a number with too many
digits. -/
def hasUnshownCondition (definition : Value) : Bool :=
  (Entries.get? (normalize (namedFields definition)) "condition").any fun condition =>
    !condition.isShowable

def unjudged? (definition : Value) : Option Misuse :=
  if hasUnshownCondition definition then some .impossible
  else if hasForeignKeys definition then some .wrongKind
  else none

inductive Offer where
  | data (definition : Value)
  | made (rule : Rule)

namespace Offer

def definition : Offer -> Value
  | .data definition => definition
  | .made rule => definitionOf rule

/-- The id under which an offer is reported. A rule is not asked for its own. -/
def label : Offer -> Value
  | .data definition => rawRuleId definition
  | .made _ => .null

end Offer

def accept (store : RuleStore) (now : Moment) (offer : Offer) :
    Except StoreFault (Rule × RuleStore) :=
  match unjudged? offer.definition with
  | some misuse => .error (.misuse misuse)
  | none => store.add now offer.definition

/-- Adds many offers, each at a time of its own, to what has been reported. Those that are rejected
are reported; one that cannot be judged ends the batch, and what was stored before it stays. -/
def takeOffers (store : RuleStore) (report : ImportReport) :
    List (Moment × Offer) -> RuleStore × Except StoreFault ImportReport
  | [] => (store, .ok report)
  | (now, offer) :: later =>
    match store.accept now offer with
    | .ok (_, next) => takeOffers next { report with imported := report.imported + 1 } later
    | .error (.rejected rejection) =>
      takeOffers store
        { report with
          failed := report.failed + 1
          errors := report.errors ++ [(offer.label, rejection.message)] } later
    | .error fault => (store, .error fault)

def importOffers (store : RuleStore) (offers : List (Moment × Offer)) :
    RuleStore × Except StoreFault ImportReport :=
  store.takeOffers { imported := 0, failed := 0, errors := [] } offers

def importItems (store : RuleStore) (now : Moment) (definitions : List Value) :
    Except StoreFault (RuleStore × ImportReport) :=
  match store.importOffers (definitions.map fun definition => (now, .data definition)) with
  | (next, outcome) => outcome.map fun report => (next, report)

def importFrom (store : RuleStore) (now : Moment) (definitions : Value) :
    Except StoreFault (RuleStore × ImportReport) := do
  store.importItems now (<- misuse definitions.asItems)

/-- The overrides of a template; what counts as empty overrides nothing. -/
def overridesOf (overrides : Value) : Except StoreFault (Entries String Value) :=
  match overrides with
  | .mapping fields => .ok fields
  | other => if other.isEmpty then .ok [] else .error (.misuse .noSuchPart)

def createNamed (store : RuleStore) (named now : Moment) (name overrides : Value) :
    Except StoreFault (Rule × RuleStore) := do
  match <- misuse name.asKey with
  | none => .error (.missing (.template name.plainText))
  | some key =>
    match Template.get? key with
    | none => .error (.missing (.template key))
    | some body =>
      let definition <- fromTemplate body key named (<- overridesOf overrides)
      store.accept now (.data definition)

def createBy (store : RuleStore) (now : Moment) (name overrides : Value) :
    Except StoreFault (Rule × RuleStore) := store.createNamed now now name overrides

end SensorAlerting.RuleStore
