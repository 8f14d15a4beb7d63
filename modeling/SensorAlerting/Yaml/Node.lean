import SensorAlerting.Entries
import SensorAlerting.Yaml.Token

set_option autoImplicit false

/-!
The tree of a document. Nodes may carry a tag, and an anchor under which an alias repeats them; an
alias is replaced by the node that it repeats, and by `again` inside that node. Where a node is left
out an empty scalar stands.
-/

namespace SensorAlerting.Yaml

inductive Node where
  | scalar (tag : Option String) (plain : Bool) (content : String)
  | sequence (tag : Option String) (items : List Node)
  | mapping (tag : Option String) (entries : List (Node × Node))
  | again

def Node.empty : Node := .scalar none true ""

/-- What is left to read of a document, the nodes with anchors so far, and what the handles of tags
stand for. -/
structure Reading where
  tokens : List Token
  anchors : Entries String Node
  handles : Entries String String

abbrev Reader (Item : Type) := Reading -> Option (Item × Reading)

namespace Reading

def next (reading : Reading) : Option Token := reading.tokens.head?

def isAt (reading : Reading) (token : Token) : Bool := reading.next == some token

def isAtAny (reading : Reading) (tokens : List Token) : Bool :=
  reading.next.any tokens.contains

def drop (reading : Reading) : Reading := { reading with tokens := reading.tokens.drop 1 }

def expect? (reading : Reading) (token : Token) : Option Reading :=
  if reading.isAt token then some reading.drop else none

def tagName? (reading : Reading) (handle : Option String) (suffix : String) : Option String :=
  match handle with
  | none => some suffix
  | some handle => (Entries.get? reading.handles handle).map fun start => start ++ suffix

def takeAnchor (reading : Reading) : Option String × Reading :=
  match reading.next with
  | some (.anchor name) => (some name, reading.drop)
  | _ => (none, reading)

def takeTag? (reading : Reading) : Option (Option String × Reading) :=
  match reading.next with
  | some (.tag handle suffix) =>
    (reading.tagName? handle suffix).map fun tag => (some tag, reading.drop)
  | _ => some (none, reading)

def takeProperties? (reading : Reading) : Option (Option String × Option String × Reading) := do
  let (first, reading) := reading.takeAnchor
  let (tag, reading) <- reading.takeTag?
  if first.isNone && tag.isSome then
    let (second, reading) := reading.takeAnchor
    some (second, tag, reading)
  else some (first, tag, reading)

/-- Gives the node that is to be read its anchor, which cannot be given twice. -/
def name? (reading : Reading) (anchor : Option String) : Option Reading :=
  match anchor with
  | none => some reading
  | some name =>
    if Entries.has reading.anchors name then none
    else some { reading with anchors := reading.anchors ++ [(name, .again)] }

def keep (reading : Reading) (anchor : Option String) (node : Node) : Reading :=
  match anchor with
  | none => reading
  | some name => { reading with anchors := Entries.put reading.anchors name node }

end Reading

/-- Where a node stands: inside a flow collection, in a block, or as a value or key of a block
mapping, whose sequences need no indentation. -/
inductive Place where
  | flow
  | block
  | entry
deriving DecidableEq, Repr

/-- A node, unless one of the tokens stands there that can only follow one. -/
def orEmpty (ends : List Token) (node : Reader Node) : Reader Node := fun reading =>
  if reading.isAtAny ends then some (Node.empty, reading) else node reading

/-- The node behind a mark, empty where there is no mark. -/
def behind (mark : Token) (ends : List Token) (node : Reader Node) : Reader Node :=
  fun reading =>
    if reading.isAt mark then orEmpty ends node reading.drop else some (Node.empty, reading)

mutual

def node (place : Place) : Nat -> Reader Node
  | 0, _ => none
  | fuel + 1, reading =>
    match reading.next with
    | some (.alias name) =>
      (Entries.get? reading.anchors name).map fun node => (node, reading.drop)
    | _ => do
      let (anchor, tag, reading) <- reading.takeProperties?
      let (found, reading) <- content place tag anchor.isSome fuel (<- reading.name? anchor)
      some (found, reading.keep anchor found)

/-- A node behind its properties; with properties it may be left out. -/
def content (place : Place) (tag : Option String) (anchored : Bool) : Nat -> Reader Node
  | 0, _ => none
  | fuel + 1, reading =>
    let inBlock := place != .flow
    match reading.next with
    | some (.scalar content plain) => some (.scalar tag plain content, reading.drop)
    | some .flowSequenceStart =>
      (flowItems true fuel reading.drop).map fun (items, reading) =>
        (.sequence tag items, reading)
    | some .flowMappingStart =>
      (flowEntries true fuel reading.drop).map fun (entries, reading) =>
        (.mapping tag entries, reading)
    | found =>
      if found == some .blockEntry && place == .entry then
        (plainItems fuel reading).map fun (items, reading) => (.sequence tag items, reading)
      else if found == some .sequenceStart && inBlock then
        (blockItems fuel reading.drop).map fun (items, reading) => (.sequence tag items, reading)
      else if found == some .mappingStart && inBlock then
        (blockEntries fuel reading.drop).map fun (entries, reading) =>
          (.mapping tag entries, reading)
      else if anchored || tag.isSome then some (.scalar tag true "", reading)
      else none

def blockItems : Nat -> Reader (List Node)
  | 0, _ => none
  | fuel + 1, reading =>
    if reading.isAt .blockEntry then do
      let (item, reading) <-
        orEmpty [.blockEntry, .blockEnd] (node .block fuel) reading.drop
      let (items, reading) <- blockItems fuel reading
      some (item :: items, reading)
    else (reading.expect? .blockEnd).map fun reading => ([], reading)

def plainItems : Nat -> Reader (List Node)
  | 0, _ => none
  | fuel + 1, reading =>
    if reading.isAt .blockEntry then do
      let (item, reading) <-
        orEmpty [.blockEntry, .key, .value, .blockEnd] (node .block fuel) reading.drop
      let (items, reading) <- plainItems fuel reading
      some (item :: items, reading)
    else some ([], reading)

def blockEntries : Nat -> Reader (List (Node × Node))
  | 0, _ => none
  | fuel + 1, reading =>
    if reading.isAt .key then do
      let ends := [Token.key, .value, .blockEnd]
      let (key, reading) <- orEmpty ends (node .entry fuel) reading.drop
      let (value, reading) <- behind .value ends (node .entry fuel) reading
      let (entries, reading) <- blockEntries fuel reading
      some ((key, value) :: entries, reading)
    else (reading.expect? .blockEnd).map fun reading => ([], reading)

def flowItems (first : Bool) : Nat -> Reader (List Node)
  | 0, _ => none
  | fuel + 1, reading => do
    if reading.isAt .flowSequenceEnd then return ([], reading.drop)
    let reading <- if first then some reading else reading.expect? .flowEntry
    if reading.isAt .flowSequenceEnd then return ([], reading.drop)
    let (item, reading) <-
      if reading.isAt .key then do
        let (key, reading) <-
          orEmpty [.value, .flowEntry, .flowSequenceEnd] (node .flow fuel) reading.drop
        let (value, reading) <-
          behind .value [.flowEntry, .flowSequenceEnd] (node .flow fuel) reading
        some (Node.mapping none [(key, value)], reading)
      else node .flow fuel reading
    let (items, reading) <- flowItems false fuel reading
    return (item :: items, reading)

def flowEntries (first : Bool) : Nat -> Reader (List (Node × Node))
  | 0, _ => none
  | fuel + 1, reading => do
    if reading.isAt .flowMappingEnd then return ([], reading.drop)
    let reading <- if first then some reading else reading.expect? .flowEntry
    if reading.isAt .flowMappingEnd then return ([], reading.drop)
    let (entry, reading) <-
      if reading.isAt .key then do
        let (key, reading) <-
          orEmpty [.value, .flowEntry, .flowMappingEnd] (node .flow fuel) reading.drop
        let (value, reading) <-
          behind .value [.flowEntry, .flowMappingEnd] (node .flow fuel) reading
        some ((key, value), reading)
      else (node .flow fuel reading).map fun (key, reading) => ((key, Node.empty), reading)
    let (entries, reading) <- flowEntries false fuel reading
    return (entry :: entries, reading)

end

def defaultHandles : Entries String String :=
  [("!", "!"), ("!!", "tag:yaml.org,2002:")]

def directives? : List Token -> Bool -> Entries String String ->
    Option (Entries String String × List Token)
  | .version major :: rest, versioned, handles =>
    if versioned || major != 1 then none else directives? rest true handles
  | .handle name replacement :: rest, versioned, handles =>
    if Entries.has handles name then none
    else directives? rest versioned (handles ++ [(name, replacement)])
  | .directive :: rest, versioned, handles => directives? rest versioned handles
  | rest, _, handles => some (handles, rest)

def withDefaults (handles : Entries String String) : Entries String String :=
  handles ++ defaultHandles.filter fun entry => !Entries.has handles entry.1

def isDirective : Token -> Bool
  | .version _ | .handle _ _ | .directive => true
  | _ => false

/-- The node of a text of one document; none of an empty text. A document may do without its mark
if there are no directives. -/
def Node.ofTokens? (tokens : List Token) : Option (Option Node) := do
  match tokens.head? with
  | none => some none
  | some first =>
    if isDirective first || first == .documentStart then
      let (handles, rest) <- directives? tokens false []
      if rest.head? != some .documentStart then none
      let body := rest.drop 1
      let isEmpty := body.head?.all fun token =>
        isDirective token || token == .documentStart || token == .documentEnd
      if isEmpty then finish Node.empty body else document (withDefaults handles) body
    else document defaultHandles tokens
where
  finish (found : Node) (rest : List Token) : Option (Option Node) :=
    if rest.all fun token => token == .documentEnd then some (some found) else none
  document (handles : Entries String String) (tokens : List Token) : Option (Option Node) := do
    let (found, reading) <-
      node .block (4 * tokens.length + 4) { tokens, anchors := [], handles }
    finish found reading.tokens

end SensorAlerting.Yaml
