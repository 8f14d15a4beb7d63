import SensorAlerting.Folder

set_option autoImplicit false

namespace SensorAlerting.Rule

inductive RulesFault where
  | file (fault : FileFault)
  | notRules (name : String)
  | notPath
deriving DecidableEq, Repr

def RulesFault.message : RulesFault -> String
  | .file fault => fault.message
  | .notRules name => "Rules file must contain a list of rule mappings: " ++ name
  | .notPath => "Rules file has no path"

def definitions? (data : Value) : Option (List Value) :=
  let listed := if data.isMapping then Value.ofOption (data.field? "rules") else data
  match listed with
  | .list items => if items.all Value.isMapping then some items else none
  | _ => none

def loadDefinitions (folder : Folder) (path : Value) : Except RulesFault (List Value) := do
  let path <- match path with
    | .text path => Except.ok path
    | _ => .error .notPath
  let data <- (folder.read path).mapError .file
  match definitions? data with
  | some definitions => .ok definitions
  | none => .error (.notRules (Folder.nameOf path))

end SensorAlerting.Rule
