import SensorAlerting.Folder
import SensorAlerting.Settings.Basic
import SensorAlerting.Settings.Overlay

set_option autoImplicit false

namespace SensorAlerting.Settings

inductive LoadFault where
  | file (fault : FileFault)
  | notMapping (name : String)
  | overlay (fault : OverlayFault)
  | invalid (faults : List Check.Fault)
  | misuse (misuse : Misuse)
deriving DecidableEq, Repr

def LoadFault.message : LoadFault -> String
  | .file fault => fault.message
  | .notMapping name => "Configuration root must be a mapping: " ++ name
  | .overlay fault => fault.message
  | .invalid _ => "Configuration validation failed"
  | .misuse _ => "Configuration of the wrong kind"

def LoadFault.ofOverlay : OverlayFault -> LoadFault
  | .misuse kind => .misuse kind
  | fault => .overlay fault

def usualPath : String := "config/analytics.yaml"

/-- The file to read, if any. A path that is given must name a file. -/
def pathIn (folder : Folder) (path : Value) : Except LoadFault (Option String) :=
  match path with
  | .text path =>
    match folder.find path with
    | .file _ => .ok (some path)
    | .tooLong => .error (.file .nameTooLong)
    | .folder | .nowhere => .error (.file (.notFound (Folder.nameOf path)))
  | .null =>
    match folder.find usualPath with
    | .file _ => .ok (some usualPath)
    | _ => .ok none
  | _ => .error (.misuse .wrongKind)

def dataIn (folder : Folder) (path : Option String) : Except LoadFault Value :=
  match path with
  | none => .ok (.mapping [])
  | some path =>
    match folder.read path with
    | .error fault => .error (.file fault)
    | .ok data =>
      if data.isMapping then .ok data else .error (.notMapping (Folder.nameOf path))

def load (folder : Folder) (path : Value) (environment : Entries String Value) :
    Except LoadFault Settings := do
  let path <- pathIn folder path
  let data <- dataIn folder path
  let data <- (Settings.overlay environment data).mapError .ofOverlay
  match Settings.ofValue data with
  | .good settings => .ok settings
  | .bad faults => .error (.invalid faults)

end SensorAlerting.Settings
