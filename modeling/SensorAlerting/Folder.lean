import SensorAlerting.Text.Split
import SensorAlerting.Yaml.Document

set_option autoImplicit false

/-!
A folder of text files and the YAML documents in them. Faults name files without their folders.
-/

namespace SensorAlerting

structure Folder where
  files : Entries String String

inductive FileFault where
  | notFound (name : String)
  | unreadable (name : String)
  | nameTooLong
  | empty (name : String)
  | document (fault : Yaml.YamlFault)
deriving DecidableEq, Repr

def FileFault.message : FileFault -> String
  | .notFound name => "Configuration file not found: " ++ name
  | .unreadable name => "Error reading " ++ name
  | .nameTooLong => "File name too long"
  | .empty name => "Configuration file is empty: " ++ name
  | .document _ => "Invalid YAML syntax"

inductive Place where
  | file (content : String)
  | folder
  | nowhere
  | tooLong
deriving DecidableEq, Repr

namespace Folder

abbrev Step := List Char

def steps (path : String) : List Step :=
  (Text.splitRuns '/' path.toList).filter fun step => !step.isEmpty && step != ['.']

def nameOf (path : String) : String := String.ofList ((steps path).getLastD [])

def stepUp : Step := ['.', '.']

def longestName : Nat := 255

def longestPath : Nat := 4095

def byteCount (letters : List Char) : Nat := (String.ofList letters).utf8ByteSize

def fileAt? (folder : Folder) (place : List Step) : Option String :=
  (folder.files.find? fun entry => steps entry.1 == place).map Prod.snd

def isFolderAt (folder : Folder) (place : List Step) : Bool :=
  place.isEmpty || folder.files.any fun entry => place.isPrefixOf (steps entry.1).dropLast

def outside (steps : List Step) : Place :=
  match steps.find? fun step => step != stepUp with
  | none => .folder
  | some step => if longestName < byteCount step then .tooLong else .nowhere

def walk (folder : Folder) (place : List Step) : List Step -> Place
  | [] =>
    match folder.fileAt? place with
    | some content => .file content
    | none => if folder.isFolderAt place then .folder else .nowhere
  | step :: rest =>
    if !folder.isFolderAt place then .nowhere
    else if step == stepUp then
      if place.isEmpty then outside rest else folder.walk place.dropLast rest
    else if longestName < byteCount step then .tooLong
    else folder.walk (place ++ [step]) rest

/-- Where a path leads. A path that starts with a slash leads out of the folder. -/
def find (folder : Folder) (path : String) : Place :=
  let letters := path.toList
  let found := steps path
  if letters.contains '\x00' then .nowhere
  else if longestPath < byteCount (List.intercalate ['/'] found) then .tooLong
  else if letters.head? == some '/' then outside found
  else folder.walk [] found

def read (folder : Folder) (path : String) : Except FileFault Value :=
  match folder.find path with
  | .nowhere => .error (.notFound (nameOf path))
  | .folder => .error (.unreadable (nameOf path))
  | .tooLong => .error .nameTooLong
  | .file content =>
    match Yaml.read content with
    | .error fault => .error (.document fault)
    | .ok .null => .error (.empty (nameOf path))
    | .ok value => .ok value

end Folder

end SensorAlerting
